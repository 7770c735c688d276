import InfraLint.Assoc
import InfraLint.FileTree
import InfraLint.Inventory.Credentials
import InfraLint.Issue
import InfraLint.Module.Load
import InfraLint.Yaml.Read

/-!
# Settings

What a run checks and how: whether the provider is asked, which rules and modules are left out, how
serious single rules are, which variable files and which state file are read. Settings are read from
a YAML file and then adjusted by the command line.
-/

namespace InfraLint

/-- The settings of one rule. -/
structure RuleSettings where
  enabled : Option Bool
  /-- The text given for the severity, which may be unknown. -/
  severity : Option String
deriving Repr, DecidableEq

/-- The settings of single rules, in the order of the rules' names, each name once. -/
structure RuleTable where
  entries : List (String × RuleSettings)
  sorted : entries.Pairwise (·.1 < ·.1)
deriving Repr, DecidableEq

namespace RuleTable

/-- No settings of single rules. -/
def empty : RuleTable := ⟨[], .nil⟩

/-- Entries by name. -/
def sortedEntries (pairs : List (String × RuleSettings)) : List (String × RuleSettings) :=
  (Assoc.ofPairs pairs).mergeSort fun a b => !(b.1 < a.1)

/-- The names of sorted entries increase: they are in order, and no two are equal. -/
theorem pairwise_sortedEntries (pairs : List (String × RuleSettings)) :
    (sortedEntries pairs).Pairwise (·.1 < ·.1) := by
  have ordered : (sortedEntries pairs).Pairwise fun a b => a.1 ≤ b.1 := by
    refine (List.pairwise_mergeSort ?_ ?_ _).imp ?_
    · intro a b c
      simp only [Bool.not_eq_true', decide_eq_false_iff_not]
      exact String.le_trans
    · intro a b
      simp only [Bool.or_eq_true, Bool.not_eq_true', decide_eq_false_iff_not]
      exact String.le_total a.1 b.1
    · intro a b
      simp only [Bool.not_eq_true', decide_eq_false_iff_not]
      exact id
  have distinct : (sortedEntries pairs).Pairwise fun a b => a.1 ≠ b.1 := by
    refine List.pairwise_map.1 (List.Nodup.perm (Assoc.nodup_keys_ofPairs pairs) ?_)
    exact ((List.mergeSort_perm _ _).map _).symm
  refine ordered.imp₂ (fun a b le ne => ?_) distinct
  exact Decidable.byContradiction fun h => ne (String.le_antisymm le h)

/-- The settings that pairs hold. Of two pairs with one name the later one counts. -/
def ofPairs (pairs : List (String × RuleSettings)) : RuleTable :=
  ⟨sortedEntries pairs, pairwise_sortedEntries pairs⟩

/-- The settings of the rule with a given name. -/
def get? (table : RuleTable) (name : String) : Option RuleSettings := table.entries.lookup name

/-- The names of the rules that are set. -/
def names (table : RuleTable) : List String := table.entries.map (·.1)

end RuleTable

/-- The settings of a run. -/
structure Settings where
  /-- Whether rules that ask the provider run. -/
  deepCheck : Bool
  credentials : Credentials
  ignoredRules : List String
  /-- Sources of modules that are not looked into. -/
  ignoredModules : List String
  variableFiles : List RawText
  stateFile : Option RawText
  rules : RuleTable
deriving Repr, DecidableEq

/-- Why settings cannot be used. -/
inductive SettingsError where
  | unknownSeverity (text : String)
  | notFound (path : RawText)
  | unreadable (path : RawText)
  | malformed
deriving Repr, DecidableEq

/-- The wording of a settings error. -/
def SettingsError.message : SettingsError → String
  | unknownSeverity text => "Unknown severity: " ++ text
  | notFound path => "Invalid configuration: config file " ++ path.display ++ " does not exist"
  | unreadable _ => "IO error: stream did not contain valid UTF-8"
  | malformed => "YAML error: malformed settings"

/-- The severity set for a rule, if one is set. -/
def RuleSettings.level (rule : RuleSettings) : Except SettingsError (Option Severity) :=
  match rule.severity with
  | none => .ok none
  | some text =>
    match Severity.ofText? text with
    | some severity => .ok (some severity)
    | none => .error (.unknownSeverity text)

namespace Settings

/-- The settings when nothing is set. -/
def default : Settings := ⟨false, .none, [], [], [], none, .empty⟩

/-- The file that settings are looked for in. -/
def defaultFile : String := ".tfsift.yml"

/-- The state file that is read when none is named. -/
def defaultStateFile : String := "terraform.tfstate"

/-! ## Reading -/

/-- The credentials that a mapping holds, each of them optional. -/
def credentialsOf? (document : Yaml.Document) (value : Yaml) : Option Credentials := do
  let entries ← document.entries? value
  let part := fun name => Yaml.field? entries name (document.optional? document.text?) none
  return ⟨← part "access_key", ← part "secret_key", ← part "profile",
    ← part "shared_credentials_file", ← part "region"⟩

/-- The settings of one rule. -/
def ruleOf? (document : Yaml.Document) (value : Yaml) : Option RuleSettings := do
  let entries ← document.entries? value
  return ⟨← Yaml.field? entries "enabled" (document.optional? document.bool?) none,
    ← Yaml.field? entries "severity" (document.optional? document.text?) none⟩

/-- The settings of single rules. -/
def rulesOf? (document : Yaml.Document) (value : Yaml) : Option RuleTable := do
  let entries ← document.entries? value
  let rules ← entries.mapM fun (name, entry) => return (name, ← ruleOf? document entry)
  return .ofPairs rules

/-- The settings that a document holds. Fields that are not known are passed over. -/
def ofDocument? (document : Yaml.Document) : Option Settings := do
  let entries ← document.entries? document.root
  let list := fun name => Yaml.field? entries name document.texts? []
  return ⟨← Yaml.field? entries "deep_check" document.bool? false,
    ← Yaml.field? entries "aws_credentials" (credentialsOf? document) .none,
    ← list "ignore_rules", ← list "ignore_modules", (← list "varfiles").map .ofText,
    (← Yaml.field? entries "state_file" (document.optional? document.text?) none).map .ofText,
    ← Yaml.field? entries "rules" (rulesOf? document) .empty⟩

/-- The settings that a text holds. A text without a document sets nothing. -/
def parse (content : String) : Except SettingsError Settings :=
  if (Text.trim content).isEmpty then .ok default
  else
    match Yaml.Document.parse? content with
    | none => .error .malformed
    | some none => .ok default
    | some (some document) =>
      match ofDocument? document with
      | some settings => .ok settings
      | none => .error .malformed

/-- Reads the settings from a file. -/
def load (tree : FileTree) (path : RawText) : Except SettingsError Settings :=
  match tree.read? path with
  | some content => parse content
  | none => .error (.unreadable path)

/-- Reads the settings from a file that is named and has to exist, or else from the file with the
default name in a directory, if there is one. -/
def discover (tree : FileTree) (path : Option RawText) (dir : RawText) :
    Except SettingsError Settings :=
  match path with
  | some path => if tree.isFile path then load tree path else .error (.notFound path)
  | none =>
    let path := PathText.join dir defaultFile
    if tree.isFile path then load tree path else .ok default

/-! ## Adjusting -/

/-- The parts of a comma-separated list that are not blank, without the blanks around them. -/
def listItems (text : String) : List String :=
  ((Text.splitAt ',' text.toList).map fun part => Text.trim (String.ofList part)).filter
    (!·.isEmpty)

/-- Adds a name to the end of a list unless it is there. -/
def addName (names : List String) (name : String) : List String :=
  if names.contains name then names else names ++ [name]

/-- Adds the names of comma-separated lists that are not there yet. -/
def addLists (names : List String) (lists : List String) : List String :=
  (lists.flatMap listItems).foldl addName names

/-- Turns deep checks on; a request for none leaves the settings as they are. -/
def withDeepCheck (settings : Settings) (enabled : Bool) : Settings :=
  { settings with deepCheck := settings.deepCheck || enabled }

/-- Adds the rules of comma-separated lists to those that are not run. -/
def ignoreRules (settings : Settings) (lists : List String) : Settings :=
  { settings with ignoredRules := addLists settings.ignoredRules lists }

/-- Adds the sources of comma-separated lists to those that are not inspected. -/
def ignoreModules (settings : Settings) (lists : List String) : Settings :=
  { settings with ignoredModules := addLists settings.ignoredModules lists }

/-- Adds variable files behind those of the settings. -/
def withVariableFiles (settings : Settings) (paths : List RawText) : Settings :=
  { settings with variableFiles := settings.variableFiles ++ paths }

/-- A state file named here counts before that of the settings. -/
def withStateFile (settings : Settings) (path : Option RawText) : Settings :=
  { settings with stateFile := path <|> settings.stateFile }

/-- Credentials given here count before those of the settings. -/
def withCredentials (settings : Settings) (credentials : Credentials) : Settings :=
  { settings with credentials := credentials.orElse settings.credentials }

/-! ## Using -/

/-- The state file of a configuration in a directory. -/
def statePath (settings : Settings) (dir : RawText) : RawText :=
  settings.stateFile.getD (PathText.join dir defaultStateFile)

/-- Whether a rule runs that is enabled or not by default. -/
def isRuleEnabled (settings : Settings) (name : String) (byDefault : Bool) : Bool :=
  if settings.ignoredRules.contains name then false
  else ((settings.rules.get? name).bind (·.enabled)).getD byDefault

/-- The severity set for a rule, if one is set. -/
def severityOf (settings : Settings) (name : String) : Except SettingsError (Option Severity) :=
  match settings.rules.get? name with
  | none => .ok none
  | some rule => rule.level

/-- One warning for each name of a rule that does not exist. -/
def warnings (settings : Settings) (known : List String) : List String :=
  let named := settings.ignoredRules ++ settings.rules.names
  (named.filter (!known.contains ·)).map ("unknown rule: " ++ ·)

/-- Checks that every severity that is set exists; the first one that does not is the error. -/
def checkLevels : List (String × RuleSettings) → Except SettingsError Unit
  | [] => .ok ()
  | (_, rule) :: rest =>
    match rule.level with
    | .ok _ => checkLevels rest
    | .error cause => .error cause

/-- Checks the settings against the names of the rules there are. A name that is not one of them
gives a warning; a severity that does not exist is an error. -/
def validate (settings : Settings) (known : List String) : Except SettingsError (List String) := do
  checkLevels settings.rules.entries
  return settings.warnings known

/-- The settings for loading modules. -/
def loadOptions (settings : Settings) : LoadOptions :=
  ⟨settings.variableFiles, settings.ignoredModules⟩

end Settings

end InfraLint
