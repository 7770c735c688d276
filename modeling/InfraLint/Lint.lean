import InfraLint.Rule.Run
import InfraLint.Rule.Registry
import InfraLint.Settings

/-!
# Linting a configuration

All rules of a registry run in every module of a configuration, each module before those it calls.
The modules that are still to be checked wait in a list; a module that has been checked is replaced
by the modules it calls. Each module has a session of its own with the provider, so a question is
sent at most once per module. A rule is skipped in a module if it is disabled, if it needs the
provider and there is none, or if the module has no resource of its type. Findings at a line with a
waiver are dropped. What a run gives comes together with the record of all questions that the
provider has been sent, also when the run stops with an error.
-/

namespace InfraLint

/-- Why a rule does not run in a module. -/
inductive SkipReason where
  | disabled
  | deepCheckDisabled
  | noTargetResources
deriving Repr, DecidableEq

/-- The name of a reason. -/
def SkipReason.name : SkipReason → String
  | disabled => "disabled"
  | deepCheckDisabled => "deep_check_disabled"
  | noTargetResources => "no_target_resources"

/-- How a rule ended in a module. -/
inductive Outcome where
  /-- The rule ran and reported this many issues. -/
  | completed (issues : Nat)
  | failed (error : String)
  | skipped (reason : SkipReason)
deriving Repr, DecidableEq

/-- How a rule ended in a module, with their names. -/
structure RuleReport where
  rule : String
  module : String
  outcome : Outcome
deriving Repr, DecidableEq

/-- Whether a rule could not complete. -/
def RuleReport.isFailure (report : RuleReport) : Bool :=
  match report.outcome with
  | .failed _ => true
  | _ => false

/-- Why a run stops. -/
inductive LintError where
  /-- The settings cannot be used. -/
  | settings (cause : SettingsError)
  /-- A step of a rule that was to be taken is refused. -/
  | step (cause : RunError)
deriving Repr, DecidableEq

/-- The issues and outcomes of one module. -/
structure ModuleReport where
  issues : List Issue
  outcomes : List RuleReport
  /-- The number of questions sent for the module. -/
  roundTrips : Nat
deriving Repr, DecidableEq

/-- The issues and outcomes of a part of a run. -/
structure Report where
  issues : List Issue
  outcomes : List RuleReport
  /-- The number of modules checked. -/
  modules : Nat
deriving Repr, DecidableEq

namespace Report

/-- The report on nothing. -/
def empty : Report := ⟨[], [], 0⟩

/-- The report on a module, followed by the report on others. -/
def add (first : ModuleReport) (others : Report) : Report :=
  ⟨first.issues ++ others.issues, first.outcomes ++ others.outcomes, others.modules + 1⟩

/-- Whether there is an issue. -/
def hasIssues (report : Report) : Bool := !report.issues.isEmpty

/-- The number of issues of a severity. -/
def count (report : Report) (severity : Severity) : Nat :=
  (report.issues.filter (·.severity == severity)).length

/-- The rules that could not complete, in each module. -/
def failures (report : Report) : List RuleReport := report.outcomes.filter (·.isFailure)

end Report

/-- What a run needs besides the configuration. -/
structure Lint where
  registry : Registry
  settings : Settings
  state : Snapshot
  provider : Option Provider

namespace Lint

/-- The session for a module: only a deep check asks the provider. -/
def session (lint : Lint) (sent : List Query) : Session :=
  match lint.provider with
  | some provider => if lint.settings.deepCheck then .start provider sent else .offline sent
  | none => .offline sent

/-- Why a rule is skipped in a module, if it is. -/
def skipReason? (lint : Lint) (module : Module) (isAvailable : Bool) (rule : Rule) :
    Option SkipReason :=
  if !lint.settings.isRuleEnabled rule.name rule.enabledByDefault then some .disabled
  else if rule.needsProvider && !isAvailable then some .deepCheckDisabled
  else if !module.hasResources rule.resourceType then some .noTargetResources
  else none

/-- Whether a waiver in the file of an issue silences it. -/
def isWaived (module : Module) (issue : Issue) : Bool :=
  match module.file? issue.file with
  | some file => file.isWaived issue.rule issue.line
  | none => false

/-- The severity with which a rule reports. -/
def severity (lint : Lint) (rule : Rule) : Except SettingsError Severity := do
  return (← lint.settings.severityOf rule.name).getD rule.severity

/-- Takes the steps that are left to a rule that has prepared: the outcome and the issues. -/
def complete (lint : Lint) (module : Module) (run : RuleRun) :
    Except LintError (Outcome × List Issue) :=
  match lint.severity run.rule with
  | .error cause => .error (.settings cause)
  | .ok severity =>
    match run.detect module lint.state with
    | (.error cause, _) => .error (.step cause)
    | (.ok (), detected) =>
      match detected.finish with
      | (.error cause, _) => .error (.step cause)
      | (.ok (), finished) =>
        let found := finished.findings.map (run.rule.issue severity)
        let issues := found.filter fun issue => !isWaived module issue
        .ok (.completed issues.length, issues)

/-- Runs one rule that is not skipped in a module. One that cannot prepare has failed. -/
def runChosen (lint : Lint) (module : Module) (rule : Rule) (session : Session) :
    Except LintError (Outcome × List Issue) × Session :=
  match (RuleRun.start rule).prepare session with
  | (.error cause, _, next) => (.ok (.failed cause.message, []), next)
  | (.ok (), run, next) => (lint.complete module run, next)

/-- Runs or skips one rule in a module. -/
def runRule (lint : Lint) (module : Module) (rule : Rule) (session : Session) :
    Except LintError (Outcome × List Issue) × Session :=
  match lint.skipReason? module session.isAvailable rule with
  | some reason => (.ok (.skipped reason, []), session)
  | none => lint.runChosen module rule session

/-- Runs rules one after the other in a module, in one session. -/
def runRules (lint : Lint) (module : Module) :
    List Rule → Session → Except LintError (List (RuleReport × List Issue)) × Session
  | [], session => (.ok [], session)
  | rule :: rest, session =>
    match lint.runRule module rule session with
    | (.error cause, next) => (.error cause, next)
    | (.ok (outcome, issues), next) =>
      let (reports, last) := runRules lint module rest next
      (reports.map ((⟨rule.name, module.displayName, outcome⟩, issues) :: ·), last)

/-- Runs all rules in one module, when the provider has been sent some questions. -/
def runModule (lint : Lint) (module : Module) (sent : List Query) :
    Except LintError ModuleReport × List Query :=
  let (reports, session) := lint.runRules module lint.registry.rules (lint.session sent)
  (reports.map fun reports =>
    ⟨reports.flatMap (·.2), reports.map (·.1), session.roundTrips⟩, session.sent)

end Lint

namespace Module

/-- Counting the modules of two lists of trees. -/
@[simp] theorem countAll_append (first second : List Module) :
    countAll (first ++ second) = countAll first + countAll second := by
  induction first with
  | nil => simp [countAll]
  | cons module rest ih => simp [countAll, ih, Nat.add_assoc]

/-- Replacing a module by those it calls leaves fewer modules. -/
theorem countAll_children_lt (module : Module) (rest : List Module) :
    countAll (module.children ++ rest) < countAll (module :: rest) := by
  cases module
  simp [countAll, count]

end Module

namespace Lint

/-- Runs all rules in the modules that wait and in all those below them. -/
def runPending (lint : Lint) (pending : List Module) (sent : List Query) :
    Except LintError Report × List Query :=
  match pending with
  | [] => (.ok .empty, sent)
  | module :: rest =>
    match lint.runModule module sent with
    | (.error cause, next) => (.error cause, next)
    | (.ok report, next) =>
      let (others, last) := lint.runPending (module.children ++ rest) next
      (others.map (.add report), last)
termination_by Module.countAll pending
decreasing_by exact Module.countAll_children_lt module rest

/-- Checks the settings and then a whole configuration, when the provider has been sent some
questions. -/
def run (lint : Lint) (root : Module) (sent : List Query) : Except LintError Report × List Query :=
  match lint.settings.validate lint.registry.names with
  | .error cause => (.error (.settings cause), sent)
  | .ok _ => lint.runPending [root] sent

end Lint

end InfraLint
