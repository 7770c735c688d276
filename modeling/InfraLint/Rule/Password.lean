import InfraLint.Module.Basic
import InfraLint.Text.Cut
import InfraLint.Text.Word

/-!
# Readable passwords

A password is readable if it is written into the configuration, either itself or as the default of
every variable that it is made of. Variables are looked for in the source text of the value, so one
that is named inside a string counts as well.
-/

namespace InfraLint.Password

/-- Whether a character may start the name of a variable. -/
def startsName (c : Char) : Bool := c.isAlpha || c == '_'

/-- Whether a character may stand in the name of a variable. -/
def isInName (c : Char) : Bool := c.isAlphanum || c == '_' || c == '-'

/-- The name of the variable that a text starts with, when `before` stands before the text, and the
number of characters of the reference. -/
def reference? (before : Option Char) (cs : List Char) : Option (String × Nat) :=
  match Text.afterLead? "var.".toList cs with
  | some (c :: rest) =>
    if Text.startsWord before && startsName c then
      let name := c :: rest.takeWhile isInName
      some (String.ofList name, name.length + 4)
    else none
  | _ => none

/-- The variables named in a text, leaving out its first `skipped` characters. -/
def mentionedFrom (before : Option Char) (skipped : Nat) : List Char → List String
  | [] => []
  | c :: rest =>
    match skipped with
    | left + 1 => mentionedFrom (some c) left rest
    | 0 =>
      match reference? before (c :: rest) with
      | some (name, length) => name :: mentionedFrom (some c) (length - 1) rest
      | none => mentionedFrom (some c) 0 rest

/-- The variables named in a source text, from left to right. -/
def mentioned (source : String) : List String :=
  mentionedFrom none 0 source.toList

/-- Whether a module declares a variable with a default other than `null`. -/
def hasDefault (module : Module) (name : String) : Bool :=
  (module.blocksOf "variable").any fun block =>
    block.labels[0]? == some name &&
      match block.attribute? "default" with
      | some default => !default.token.isNull
      | none => false

/-- Whether a password can be read in a module. -/
def isReadable (module : Module) (token : Token) : Bool :=
  (mentioned token.raw).all (hasDefault module)

end InfraLint.Password
