import InfraLint.Lint
import Mathlib.Data.List.Basic
import Mathlib.Logic.Basic
import Mathlib.Tactic.Choose

/-!
# How a rule ends in a module

`Lint.runRule` takes a rule through its steps and has an exit at each of them.  `Lint.Ends` lists
the four ways in which it can really end.

* skipped: there is a reason to skip the rule, and nothing is asked.
* failed: the rule runs and the provider refuses what it asks first.
* stopped: the rule has prepared and its severity is not known.  Only this ends the whole run.
* completed: the rule has prepared, and the issues without a waiver are reported.

The steps after the first are taken in the order in which `RuleRun` allows them, so none of them is
refused (`Lint.complete_prepared`).  Everything else about a run is derived from these four cases.

What a prepared run detects is one finding at most in each block of the type of its rule.  Which
finding it is, and of which blocks, is said by a relation (`RuleRun.Reports`).
-/

namespace InfraLint

/-! ## Steps in order -/

namespace RuleRun

/-- A run that has prepared and has learnt some facts. -/
def prepared (rule : Rule) (facts : Facts) : RuleRun := ⟨rule, .prepared, facts, []⟩

theorem prepare_start_of_ok {rule : Rule} {session next : Session} {facts : Facts}
    (learnt : rule.check.prepare session = (.ok facts, next)) :
    (start rule).prepare session = (.ok (), prepared rule facts, next) := by
  simp [prepare, start, prepared, learnt]

theorem prepare_start_of_error {rule : Rule} {session next : Session} {cause : QueryError}
    (refusal : rule.check.prepare session = (.error cause, next)) :
    (start rule).prepare session =
      (.error (.provider cause), { start rule with phase := .done }, next) := by
  simp [prepare, start, refusal]

/-- A prepared run detects at most one finding in each block, in file then source order of the
blocks: the one that `holds` says of the block. -/
def Reports (rule : Rule) (facts : Facts) (module : Module) (state : Snapshot)
    (holds : Block → Finding → Prop) : Prop :=
  ∃ report : Block → Option Finding,
    (prepared rule facts).detect module state =
      (.ok (), ⟨rule, .detected, facts,
        (module.resources rule.resourceType).filterMap report⟩) ∧
    ∀ block ∈ module.resources rule.resourceType, ∀ finding,
      report block = some finding ↔ holds block finding

variable {rule : Rule} {facts : Facts} {module : Module} {state : Snapshot}
  {holds other : Block → Finding → Prop}

theorem Reports.of_blocks (once : ∀ block, ∃ found : Option Finding,
      rule.blockFindings facts module state block = found.toList ∧
        ∀ finding, found = some finding ↔ holds block finding) :
    Reports rule facts module state holds := by
  choose report each told using once
  refine ⟨report, ?_, fun block _ => told block⟩
  rw [List.filterMap_eq_flatMap_toList, ← funext each]
  rfl

theorem Reports.congr (reports : Reports rule facts module state holds)
    (same : ∀ block ∈ module.resources rule.resourceType, ∀ finding,
      holds block finding ↔ other block finding) :
    Reports rule facts module state other := by
  obtain ⟨report, detects, told⟩ := reports
  exact ⟨report, detects, fun block member finding =>
    (told block member finding).trans (same block member finding)⟩

theorem Reports.mem_findings_iff (reports : Reports rule facts module state holds)
    {finding : Finding} : finding ∈ rule.findings facts module state ↔
      ∃ block ∈ module.resources rule.resourceType, holds block finding := by
  obtain ⟨report, detects, told⟩ := reports
  have found : rule.findings facts module state =
      (module.resources rule.resourceType).filterMap report :=
    congrArg (fun result => result.2.findings) detects
  rw [found, List.mem_filterMap]
  exact exists_congr fun block => and_congr_right fun member => told block member finding

end RuleRun

namespace Lint

/-- The issues of a rule in a module that no waiver silences. -/
def reported (lint : Lint) (module : Module) (rule : Rule) (facts : Facts) (severity : Severity) :
    List Issue :=
  ((rule.findings facts module lint.state).map (rule.issue severity)).filter
    fun issue => !isWaived module issue

/-- What is left to a rule that has prepared: no step is refused, so only an unknown severity can
stop it. -/
theorem complete_prepared (lint : Lint) (module : Module) (rule : Rule) (facts : Facts) :
    lint.complete module (.prepared rule facts) =
      match lint.severity rule with
      | .error cause => .error (.settings cause)
      | .ok severity =>
        .ok (.completed (lint.reported module rule facts severity).length,
          lint.reported module rule facts severity) := by
  cases level : lint.severity rule with
  | error cause => simp [complete, RuleRun.prepared, level]
  | ok severity =>
      simp [complete, RuleRun.prepared, RuleRun.detect, RuleRun.finish, reported, level]

/-! ## The four endings -/

/-- The ways in which a rule ends in a module: with what result, and with what session after it. -/
inductive Ends (lint : Lint) (module : Module) (rule : Rule) (session : Session) :
    Except LintError (Outcome × List Issue) → Session → Prop where
  | skipped {reason : SkipReason} :
      lint.skipReason? module session.isAvailable rule = some reason →
      Ends lint module rule session (.ok (.skipped reason, [])) session
  | failed {cause : QueryError} {next : Session} :
      lint.skipReason? module session.isAvailable rule = none →
      rule.check.prepare session = (.error cause, next) →
      Ends lint module rule session (.ok (.failed (RunError.provider cause).message, [])) next
  | stopped {facts : Facts} {next : Session} {cause : SettingsError} :
      lint.skipReason? module session.isAvailable rule = none →
      rule.check.prepare session = (.ok facts, next) →
      lint.severity rule = .error cause →
      Ends lint module rule session (.error (.settings cause)) next
  | completed {facts : Facts} {next : Session} {severity : Severity} :
      lint.skipReason? module session.isAvailable rule = none →
      rule.check.prepare session = (.ok facts, next) →
      lint.severity rule = .ok severity →
      Ends lint module rule session
        (.ok (.completed (lint.reported module rule facts severity).length,
          lint.reported module rule facts severity)) next

/-- Every rule ends in one of the four ways. -/
theorem runRule_ends (lint : Lint) (module : Module) (rule : Rule) (session : Session) :
    lint.Ends module rule session (lint.runRule module rule session).1
      (lint.runRule module rule session).2 := by
  cases skip : lint.skipReason? module session.isAvailable rule with
  | some reason =>
      simp only [runRule, skip]
      exact .skipped skip
  | none =>
      simp only [runRule, skip, runChosen]
      cases learnt : rule.check.prepare session with
      | mk result next =>
          cases result with
          | error cause =>
              simp only [RuleRun.prepare_start_of_error learnt]
              exact .failed skip learnt
          | ok facts =>
              simp only [RuleRun.prepare_start_of_ok learnt, complete_prepared]
              cases level : lint.severity rule with
              | error cause => exact .stopped skip learnt level
              | ok severity => exact .completed skip learnt level

theorem Ends.of_runRule {lint : Lint} {module : Module} {rule : Rule} {session next : Session}
    {result : Except LintError (Outcome × List Issue)}
    (ran : lint.runRule module rule session = (result, next)) :
    lint.Ends module rule session result next := by
  have ends := lint.runRule_ends module rule session
  rwa [ran] at ends

/-! ## Rules one after the other -/

/-- Rules complete one after the other exactly if each of them ends without stopping the run, in the
session that the one before it leaves. -/
theorem runRules_cons_ok_iff {lint : Lint} {module : Module} {rule : Rule} {rest : List Rule}
    {session last : Session} {reports : List (RuleReport × List Issue)} :
    lint.runRules module (rule :: rest) session = (.ok reports, last) ↔
      ∃ outcome issues next others,
        lint.runRule module rule session = (.ok (outcome, issues), next) ∧
        lint.runRules module rest next = (.ok others, last) ∧
        reports = (⟨rule.name, module.displayName, outcome⟩, issues) :: others := by
  constructor
  · intro ran
    rcases step : lint.runRule module rule session with ⟨cause | ⟨outcome, issues⟩, next⟩
    · simp [runRules, step] at ran
    · rcases tail : lint.runRules module rest next with ⟨cause | others, final⟩
      · simp [runRules, step, tail, Except.map] at ran
      · simp only [runRules, step, tail, Except.map, Prod.mk.injEq, Except.ok.injEq] at ran
        obtain ⟨rfl, rfl⟩ := ran
        exact ⟨outcome, issues, next, others, rfl, tail, rfl⟩
  · rintro ⟨outcome, issues, next, others, step, tail, rfl⟩
    simp [runRules, step, tail, Except.map]

/-- The report on a module is made of what the rules report, and of the session they leave. -/
theorem runModule_ok_iff {lint : Lint} {module : Module} {sent last : List Query}
    {report : ModuleReport} :
    lint.runModule module sent = (.ok report, last) ↔
      ∃ reports session,
        lint.runRules module lint.registry.rules (lint.session sent) = (.ok reports, session) ∧
        report = ⟨reports.flatMap (·.2), reports.map (·.1), session.roundTrips⟩ ∧
        last = session.sent := by
  rcases ran : lint.runRules module lint.registry.rules (lint.session sent) with
    ⟨cause | reports, session⟩
  · simp [runModule, ran, Except.map]
  · simp only [runModule, ran, Except.map, Prod.mk.injEq, Except.ok.injEq]
    constructor
    · rintro ⟨rfl, rfl⟩
      exact ⟨reports, session, ⟨rfl, rfl⟩, rfl, rfl⟩
    · rintro ⟨_, _, ⟨rfl, rfl⟩, rfl, rfl⟩
      exact ⟨rfl, rfl⟩

end Lint

end InfraLint
