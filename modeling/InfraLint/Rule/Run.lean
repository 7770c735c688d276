import InfraLint.Rule.Findings
import InfraLint.Rule.Registry

/-!
# Running one rule

A rule runs in a module in three steps: it prepares, which is the only step that reaches the
provider, it detects, and it finishes. Each step is taken once and in this order; any other order is
refused and changes nothing. A rule that cannot prepare is done.
-/

namespace InfraLint

/-- How far a run is. -/
inductive Phase where
  | unstarted
  | prepared
  | detected
  | done
deriving Repr, DecidableEq

/-- The name of a phase. -/
def Phase.name : Phase → String
  | unstarted => "unstarted"
  | prepared => "pre_processed"
  | detected => "detected"
  | done => "done"

/-- Why a step fails. -/
inductive RunError where
  /-- The step is not the next one. -/
  | order (rule : String) (current wanted : Phase)
  | provider (cause : QueryError)
deriving Repr, DecidableEq

/-- The wording of a failed step. -/
def RunError.message : RunError → String
  | order rule current wanted =>
    "Rule " ++ rule ++ " cannot move from " ++ current.name ++ " to " ++ wanted.name
  | provider cause => "Oracle error: " ++ cause.message

/-- A rule that is run in a module. -/
structure RuleRun where
  rule : Rule
  phase : Phase
  facts : Facts
  /-- What has been reported so far. -/
  findings : List Finding

namespace RuleRun

/-- A run that has not started. -/
def start (rule : Rule) : RuleRun := ⟨rule, .unstarted, .none, []⟩

/-- The error that a step to `wanted` cannot be taken now. -/
def refused (run : RuleRun) (wanted : Phase) : RunError :=
  .order run.rule.name run.phase wanted

/-- Takes the first step. -/
def prepare (run : RuleRun) (session : Session) : Except RunError Unit × RuleRun × Session :=
  if run.phase = .unstarted then
    match run.rule.check.prepare session with
    | (.ok facts, next) => (.ok (), { run with phase := .prepared, facts := facts }, next)
    | (.error cause, next) => (.error (.provider cause), { run with phase := .done }, next)
  else (.error (run.refused .prepared), run, session)

/-- Takes the second step. -/
def detect (run : RuleRun) (module : Module) (state : Snapshot) : Except RunError Unit × RuleRun :=
  if run.phase = .prepared then
    (.ok (), { run with
      phase := .detected
      findings := run.findings ++ run.rule.findings run.facts module state })
  else (.error (run.refused .detected), run)

/-- Takes the last step. -/
def finish (run : RuleRun) : Except RunError Unit × RuleRun :=
  if run.phase = .detected then (.ok (), { run with phase := .done })
  else (.error (run.refused .done), run)

end RuleRun

/-- Runs of all rules that have not started, in the order of the rules. -/
def Registry.start (registry : Registry) : List RuleRun := registry.rules.map RuleRun.start

end InfraLint
