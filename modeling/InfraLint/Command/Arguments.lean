import InfraLint.Inventory.Credentials
import InfraLint.Text.Cut

/-!
# The arguments of the command line

The first argument that is no option names the command; options that every command knows may stand
before or after it. An option is written as `--name`, `--name=value`, `--name value`, `-n`,
`-nvalue` or `-n value`, and single letters without values can be joined. After `--` nothing is an
option. Arguments are read from left to right, and the first one that is wrong, or that asks for
help or for the version, decides.
-/

namespace InfraLint.Command

/-- How results are printed. -/
inductive Format where
  | text
  | json
deriving Repr, DecidableEq

/-- The format with a given name. -/
def Format.ofName? (name : String) : Option Format :=
  match name with
  | "text" => some .text
  | "json" => some .json
  | _ => none

/-! ## Options -/

/-- What an option takes. -/
inductive OptionKind where
  /-- Nothing; it can be given once. -/
  | flag
  /-- A value that passes a test; it can be given once. -/
  | single (isValid : String → Bool)
  /-- A value that passes a test; it can be given several times. -/
  | repeated (isValid : String → Bool)
  | help
  | version

/-- Whether an option takes a value. -/
def OptionKind.takesValue : OptionKind → Bool
  | single _ | repeated _ => true
  | _ => false

/-- An option. -/
structure OptionSpec where
  name : String
  short : Option Char
  kind : OptionKind

/-- Why reading stops early. -/
inductive Stop where
  | invalid
  | help
  | version
deriving Repr, DecidableEq

/-- The options and other arguments read so far. -/
structure Given where
  /-- Options in order, each with its value; a flag has an empty one. -/
  options : List (String × String)
  positional : List String
deriving Repr, DecidableEq

namespace Given

/-- The values given for an option. -/
def all (given : Given) (name : String) : List String :=
  (given.options.filter (·.1 == name)).map (·.2)

/-- The value given for an option that can be given once. -/
def get? (given : Given) (name : String) : Option String := (given.all name).head?

/-- Whether an option is given. -/
def has (given : Given) (name : String) : Bool := given.options.any (·.1 == name)

/-- Adds an option with a value. -/
def add (given : Given) (option : OptionSpec) (value : String) : Except Stop Given :=
  let added : Given := { given with options := given.options ++ [(option.name, value)] }
  match option.kind with
  | .help => .error .help
  | .version => .error .version
  | .flag => if given.has option.name then .error .invalid else .ok added
  | .single isValid =>
    if given.has option.name || !isValid value then .error .invalid else .ok added
  | .repeated isValid => if isValid value then .ok added else .error .invalid

end Given

/-- What one argument comes to: the options read, and one that still waits for its value. -/
structure Partial where
  given : Given
  waiting : Option OptionSpec

/-- Whether an argument cannot be the value of an option before it. -/
def looksLikeOption (argument : String) : Bool :=
  Text.hasLead "-" argument && argument != "-"

/-- Reads an option by its long name. -/
def readLong (specs : List OptionSpec) (given : Given) (body : List Char) : Except Stop Partial :=
  let name := body.takeWhile (· != '=')
  let value := (body.dropWhile (· != '=')).tail?.map String.ofList
  match specs.find? (·.name == String.ofList name) with
  | none => .error .invalid
  | some option =>
    if option.kind.takesValue then
      match value with
      | some text => do return ⟨← given.add option text, none⟩
      | none => .ok ⟨given, some option⟩
    else if value.isSome then .error .invalid
    else do return ⟨← given.add option "", none⟩

/-- Reads options by their letters. What follows the letter of an option with a value is the value,
with or without `=`. -/
def readShort (specs : List OptionSpec) (given : Given) : List Char → Except Stop Partial
  | [] => .ok ⟨given, none⟩
  | letter :: rest =>
    match specs.find? (·.short == some letter) with
    | none => .error .invalid
    | some option =>
      if option.kind.takesValue then
        match rest with
        | [] => .ok ⟨given, some option⟩
        | '=' :: value => do return ⟨← given.add option (String.ofList value), none⟩
        | value => do return ⟨← given.add option (String.ofList value), none⟩
      else
        match given.add option "" with
        | .ok next => readShort specs next rest
        | .error stop => .error stop

/-- Reads options up to the first other argument, which is returned with all that follow it. -/
def readOptions (specs : List OptionSpec) (given : Given) :
    List String → Except Stop (Given × List String)
  | [] => .ok (given, [])
  | argument :: rest =>
    let step :=
      match argument.toList with
      | ['-', '-'] => none
      | '-' :: '-' :: body => some (readLong specs given body)
      | '-' :: letter :: letters => some (readShort specs given (letter :: letters))
      | _ => none
    match step with
    | none => .ok (given, argument :: rest)
    | some (.error stop) => .error stop
    | some (.ok ⟨next, none⟩) => readOptions specs next rest
    | some (.ok ⟨next, some option⟩) =>
      match rest with
      | value :: rest =>
        if looksLikeOption value then .error .invalid
        else
          match next.add option value with
          | .ok next => readOptions specs next rest
          | .error stop => .error stop
      | [] => .error .invalid

/-- Adds an argument that is no option. `isValid` tests it, and at most `most` are taken. -/
def Given.addPositional (given : Given) (most : Nat) (isValid : String → Bool)
    (argument : String) : Except Stop Given :=
  if given.positional.length < most && isValid argument then
    .ok { given with positional := given.positional ++ [argument] }
  else .error .invalid

/-- Reads the arguments of a command, of which at most `most` are no options. Each round reads at
least one argument, so their number bounds the rounds. -/
def readAll (specs : List OptionSpec) (most : Nat) (isValid : String → Bool) :
    Nat → Given → List String → Except Stop Given
  | 0, given, _ => .ok given
  | rounds + 1, given, arguments => do
    match ← readOptions specs given arguments with
    | (given, []) => return given
    | (given, "--" :: rest) => rest.foldlM (·.addPositional most isValid ·) given
    | (given, argument :: rest) =>
      readAll specs most isValid rounds (← given.addPositional most isValid argument) rest

/-! ## Commands -/

/-- The arguments of a check. -/
structure CheckArguments where
  dir : RawText
  config : Option RawText
  deep : Bool
  ignoredRules : List String
  ignoredModules : List String
  variableFiles : List RawText
  state : Option RawText
  credentials : Credentials
  format : Format
deriving Repr, DecidableEq

/-- The arguments of a listing of the rules. -/
structure RulesArguments where
  config : Option RawText
  format : Format
deriving Repr, DecidableEq

/-- What the command line asks for. -/
inductive Request where
  | check (arguments : CheckArguments) (quiet : Bool)
  | rules (arguments : RulesArguments)
  | help
  /-- The version, under a program name. -/
  | version (program : String)
  | invalid
deriving Repr, DecidableEq

/-- The options that every command knows. -/
def sharedOptions : List OptionSpec :=
  [⟨"verbose", some 'v', .flag⟩, ⟨"quiet", some 'q', .flag⟩, ⟨"debug", none, .flag⟩,
    ⟨"help", some 'h', .help⟩, ⟨"version", some 'V', .version⟩]

/-- A path is not empty. -/
def isPath (text : String) : Bool := !text.isEmpty

/-- A format is one of those there are. -/
def isFormat (text : String) : Bool := (Format.ofName? text).isSome

/-- The options of a check. -/
def checkOptions : List OptionSpec :=
  let anyText := fun (_ : String) => true
  sharedOptions ++
    [⟨"config", some 'c', .single isPath⟩, ⟨"deep", none, .flag⟩,
      ⟨"ignore-rule", none, .repeated anyText⟩, ⟨"ignore-module", none, .repeated anyText⟩,
      ⟨"var-file", none, .repeated isPath⟩, ⟨"state", none, .single isPath⟩,
      ⟨"aws-access-key", none, .single anyText⟩, ⟨"aws-secret-key", none, .single anyText⟩,
      ⟨"aws-profile", none, .single anyText⟩, ⟨"aws-creds-file", none, .single anyText⟩,
      ⟨"aws-region", none, .single anyText⟩, ⟨"format", some 'f', .single isFormat⟩]

/-- The options of a listing of the rules. -/
def rulesOptions : List OptionSpec :=
  sharedOptions ++
    [⟨"config", some 'c', .single isPath⟩, ⟨"format", some 'f', .single isFormat⟩]

/-- The format that is asked for: text unless another one is. -/
def Given.format (given : Given) : Format :=
  ((given.get? "format").bind Format.ofName?).getD .text

/-- The arguments of a check, from what is given. -/
def CheckArguments.ofGiven (given : Given) : CheckArguments where
  dir := given.positional.head?.getD "."
  config := (given.get? "config").map .ofText
  deep := given.has "deep"
  ignoredRules := given.all "ignore-rule"
  ignoredModules := given.all "ignore-module"
  variableFiles := (given.all "var-file").map .ofText
  state := (given.get? "state").map .ofText
  credentials := ⟨given.get? "aws-access-key", given.get? "aws-secret-key",
    given.get? "aws-profile", given.get? "aws-creds-file", given.get? "aws-region"⟩
  format := given.format

/-- Whether help is asked for about something that there is: the program, or one command. -/
def isTopic : List String → Bool
  | [] | ["check"] | ["rules"] | ["help"] => true
  | _ => false

namespace Request

/-- The request that reading stopped with, under a program name. -/
def ofStop (program : String) : Stop → Request
  | .invalid => invalid
  | .help => help
  | .version => version program

/-- Reads the arguments that follow the name of a command. -/
def ofCommand (program command : String) (quiet : Bool) (arguments : List String) : Request :=
  let empty : Given := ⟨[], []⟩
  let program := program ++ "-" ++ command
  match command with
  | "check" =>
    match readAll checkOptions 1 isPath (arguments.length + 1) empty arguments with
    | .ok given => check (.ofGiven given) (quiet || given.has "quiet")
    | .error stop => ofStop program stop
  | "rules" =>
    match readAll rulesOptions 0 isPath (arguments.length + 1) empty arguments with
    | .ok given => rules ⟨(given.get? "config").map .ofText, given.format⟩
    | .error stop => ofStop program stop
  | "help" => if isTopic arguments then help else invalid
  | _ => invalid

/-- Reads a command line. -/
def parse (program : String) (arguments : List String) : Request :=
  match readOptions sharedOptions ⟨[], []⟩ arguments with
  | .ok (given, command :: rest) => ofCommand program command (given.has "quiet") rest
  | .ok (_, []) => invalid
  | .error stop => ofStop program stop

end Request

end InfraLint.Command
