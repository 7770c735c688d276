/-!
# Issues

An issue is a finding of a rule at a line of a file. How serious it is depends on the rule and on
the settings.
-/

namespace InfraLint

/-- How serious an issue is. -/
inductive Severity where
  | error
  | warning
  | notice
deriving Repr, DecidableEq

namespace Severity

/-- All severities. -/
def all : List Severity := [error, warning, notice]

/-- The name of a severity in data. -/
def name : Severity → String
  | error => "error"
  | warning => "warning"
  | notice => "notice"

/-- The name of a severity in texts. -/
def label : Severity → String
  | error => "ERROR"
  | warning => "WARNING"
  | notice => "NOTICE"

/-- The severity with a given name, whose ASCII letters may be of either case. -/
def ofText? (text : String) : Option Severity :=
  all.find? (·.name == String.ofList (text.toList.map Char.toLower))

end Severity

/-- A finding of a rule. -/
structure Issue where
  rule : String
  severity : Severity
  message : String
  file : String
  line : Nat
  /-- A page that describes the rule. -/
  link : Option String
deriving Repr, DecidableEq

/-- An issue as a line of text. -/
def Issue.text (issue : Issue) : String :=
  issue.file ++ ":" ++ toString issue.line ++ " " ++ issue.severity.label ++ " " ++ issue.message ++
    " (" ++ issue.rule ++ ")"

end InfraLint
