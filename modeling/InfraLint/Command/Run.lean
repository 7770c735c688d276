import InfraLint.Command.Arguments
import InfraLint.Inventory.Client
import InfraLint.Json.Write
import InfraLint.Lint
import InfraLint.Rule.Catalogue

/-!
# Running commands

A command reads files, may call the client of the provider, and ends with an exit code and what it
prints: 0 if there are no issues, 3 if there are some, 2 if the arguments or the settings are
invalid, and 1 for every other failure. Files and client are parameters, so a command is a function.
-/

namespace InfraLint.Command

/-- What a command can reach outside. -/
structure Surroundings where
  tree : FileTree
  /-- The home directory. -/
  home : Option String
  /-- The client of the provider. -/
  client : Invocation → Reply

/-- How a command ends. -/
structure Ending where
  exit : Nat
  output : String
  /-- What is printed beside the output. -/
  errors : String
  /-- The calls of the client, in order. -/
  calls : List Invocation
deriving Repr, DecidableEq

/-- Why a command cannot do its work. -/
inductive Failure where
  /-- The settings cannot be read. -/
  | settings (cause : SettingsError)
  /-- The configuration in a directory cannot be loaded. -/
  | load (dir : RawText) (cause : LoadError)
  /-- The rules cannot be run. -/
  | run (cause : LintError)
  /-- The rules cannot be listed. -/
  | listing (cause : SettingsError)
deriving Repr, DecidableEq

namespace Failure

/-- The texts of a settings error: its own and that of its cause, if it has one. -/
def settingsTexts (cause : SettingsError) : List String :=
  match cause with
  | .unreadable _ => [cause.message, "stream did not contain valid UTF-8"]
  | _ => [cause.message]

/-- The texts of an error that stops a run: its own and that of its cause, if it has one. -/
def runTexts (cause : LintError) : List String :=
  match cause with
  | .settings cause => settingsTexts cause
  | .step (.provider cause) => [(RunError.provider cause).message, cause.message]
  | .step cause => [cause.message]

/-- The texts of a load error: its own and that of its cause, if it has one. -/
def loadTexts (cause : LoadError) : List String :=
  match cause with
  | .unreadable _ => [cause.message, "stream did not contain valid UTF-8"]
  | _ => [cause.message]

/-- The wording of a failure, from the outside in. -/
def message (failure : Failure) : String :=
  ": ".intercalate <|
    match failure with
    | settings cause => "Failed to read configuration" :: settingsTexts cause
    | load dir cause => ("Failed to load configuration from " ++ dir.display) :: loadTexts cause
    | run cause => "Failed to run rules" :: runTexts cause
    | listing cause => settingsTexts cause

/-- Whether the settings or the arguments are to blame. -/
def isInvalidInput : Failure → Bool
  | settings (.unreadable _) | run (.settings (.unreadable _)) | listing (.unreadable _)
  | run (.step _) => false
  | settings _ | run _ | listing _ => true
  | load _ (.notADirectory _) | load _ (.variableFileNotFound _) => true
  | load _ _ => false

/-- The exit code of a failure. -/
def exit (failure : Failure) : Nat := if failure.isInvalidInput then 2 else 1

/-- How a command ends that fails. -/
def ending (failure : Failure) : Ending :=
  ⟨failure.exit, "", "Error: " ++ failure.message ++ "\n", []⟩

end Failure

/-- Lines of text, each with its end. -/
def lines (texts : List String) : String :=
  String.join (texts.map (· ++ "\n"))

/-! ## Checking -/

/-- The settings of a check: those of the file, adjusted by the arguments. -/
def CheckArguments.settings (arguments : CheckArguments) (tree : FileTree) :
    Except Failure Settings :=
  match Settings.discover tree arguments.config arguments.dir with
  | .error cause => .error (.settings cause)
  | .ok settings =>
    .ok (((((settings.withDeepCheck arguments.deep).ignoreRules
      arguments.ignoredRules).ignoreModules arguments.ignoredModules).withVariableFiles
      arguments.variableFiles).withStateFile arguments.state |>.withCredentials
      arguments.credentials)

/-- The client that a check uses. Credentials of the settings count before those of the
configuration. -/
def Surroundings.clientFor (world : Surroundings) (settings : Settings) (root : Module) : Client :=
  ⟨"aws", settings.credentials.orElse (Credentials.ofModule root), world.home, world.client⟩

/-- Runs a check: the report, and the calls of the client that it made. -/
def CheckArguments.report (arguments : CheckArguments) (world : Surroundings) :
    Except Failure (Report × List Invocation) := do
  let settings ← arguments.settings world.tree
  let root ← (Module.load world.tree settings.loadOptions arguments.dir).mapError
    (.load arguments.dir)
  let state := Snapshot.load world.tree (settings.statePath arguments.dir)
  let client := world.clientFor settings root
  let provider := if settings.deepCheck then some client.provider else none
  let (result, sent) := Lint.run ⟨.default, settings, state, provider⟩ root []
  let report ← result.mapError .run
  return (report, sent.map client.invocation)

/-- An issue as data. -/
def issueJson (issue : Issue) : Json :=
  let link := (issue.link.map fun text => ("link", Json.string text)).toList
  .object ([("rule", .string issue.rule), ("severity", .string issue.severity.name),
    ("message", .string issue.message), ("file", .string issue.file),
    ("line", .ofNat issue.line)] ++ link)

/-- An outcome as data. -/
def outcomeJson (report : RuleReport) : Json :=
  .object ([("rule", .string report.rule), ("module", .string report.module)] ++
    match report.outcome with
    | .completed issues => [("status", .string "completed"), ("issues", .ofNat issues)]
    | .failed error => [("status", .string "failed"), ("error", .string error)]
    | .skipped reason => [("status", .string "skipped"), ("reason", .string reason.name)])

/-- A report as data. -/
def reportJson (report : Report) : Json :=
  .object [("issues", .array (report.issues.map issueJson)),
    ("outcomes", .array (report.outcomes.map outcomeJson)), ("modules", .ofNat report.modules)]

/-- The last lines of a report on a directory. -/
def summary (report : Report) (dir : RawText) : List String :=
  if report.hasIssues then
    ["", toString report.issues.length ++ " issue(s) in " ++ dir.display ++ ": " ++
      toString (report.count .error) ++ " error(s), " ++
      toString (report.count .warning) ++ " warning(s), " ++
      toString (report.count .notice) ++ " notice(s)"]
  else ["No issues found in " ++ toString report.modules ++ " module(s)."]

/-- A report on a directory as text. -/
def reportText (report : Report) (dir : RawText) (quiet : Bool) : String :=
  lines (report.issues.map (·.text) ++ if quiet then [] else summary report dir)

/-- The line that tells of a rule that could not complete. -/
def failureLine? (report : RuleReport) : Option String :=
  match report.outcome with
  | .failed error =>
    some (report.rule ++ " could not complete in module " ++ report.module ++ ": " ++ error)
  | _ => none

/-- Runs a check and prints its report. -/
def CheckArguments.execute (arguments : CheckArguments) (quiet : Bool) (world : Surroundings) :
    Ending :=
  match arguments.report world with
  | .error failure => failure.ending
  | .ok (report, calls) =>
    let output :=
      match arguments.format with
      | .json => (reportJson report).pretty ++ "\n"
      | .text => reportText report arguments.dir quiet
    ⟨if report.hasIssues then 3 else 0, output, lines (report.outcomes.filterMap failureLine?),
      calls⟩

/-! ## Listing the rules -/

/-- A rule under some settings. -/
structure RuleRow where
  name : String
  resourceType : String
  severity : Severity
  enabled : Bool
  deep : Bool
  link : String
deriving Repr, DecidableEq

namespace RuleRow

/-- A rule as the settings have it. -/
def ofRule (settings : Settings) (rule : Rule) : Except SettingsError RuleRow := do
  let severity ← settings.severityOf rule.name
  return ⟨rule.name, rule.resourceType, severity.getD rule.severity,
    settings.isRuleEnabled rule.name rule.enabledByDefault, rule.needsProvider, rule.link⟩

/-- A text with spaces after it up to a width. -/
def padded (width : Nat) (text : String) : String :=
  text ++ String.ofList (List.replicate (width - text.length) ' ')

/-- A row as a line of text. -/
def text (row : RuleRow) : String :=
  let flags := (if row.enabled then [] else ["disabled"]) ++ if row.deep then ["deep"] else []
  padded 50 row.name ++ " " ++ padded 8 row.severity.label ++ " " ++ ",".intercalate flags

/-- A row as data. -/
def json (row : RuleRow) : Json :=
  .object [("name", .string row.name), ("resource_type", .string row.resourceType),
    ("severity", .string row.severity.name), ("enabled", .bool row.enabled),
    ("deep", .bool row.deep), ("link", .string row.link)]

end RuleRow

/-- The rules of a registry under some settings. -/
def ruleRows (registry : Registry) (settings : Settings) : Except SettingsError (List RuleRow) :=
  registry.rules.mapM (RuleRow.ofRule settings)

/-- Lists the rules under the settings that are found. -/
def RulesArguments.execute (arguments : RulesArguments) (world : Surroundings) : Ending :=
  match Settings.discover world.tree arguments.config "." with
  | .error cause => (Failure.settings cause).ending
  | .ok settings =>
    match ruleRows .default settings with
    | .error cause => (Failure.listing cause).ending
    | .ok rows =>
      let output :=
        match arguments.format with
        | .json => (Json.array (rows.map RuleRow.json)).pretty ++ "\n"
        | .text => lines (rows.map RuleRow.text)
      ⟨0, output, "", []⟩

/-! ## The program -/

/-- The name of the program. -/
def programName : String := "tfsift"

/-- The version of the program. -/
def programVersion : String := "0.1.0"

/-- Does what a command line asks for. -/
def run (arguments : List String) (world : Surroundings) : Ending :=
  match Request.parse programName arguments with
  | .check arguments quiet => arguments.execute quiet world
  | .rules arguments => arguments.execute world
  | .help => ⟨0, "", "", []⟩
  | .version program => ⟨0, program ++ " " ++ programVersion ++ "\n", "", []⟩
  | .invalid => ⟨2, "", "", []⟩

end InfraLint.Command
