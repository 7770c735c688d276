import InfraLint.Proofs.Session
import InfraLint.Proofs.Traversal

/-!
# Modules do not influence one another

Each module has a session of its own.  With a steady provider a session gives the same results
whatever was sent before it started, so the report on a module is the same in a run over a whole
tree as for the module alone.  The argument goes step by step through the layers of a run: a rule
(`Lint.runRule_after`), the rules of a module (`Lint.runRules_after`), a module
(`Lint.runModule_after`), and the modules of a tree (`Lint.run_eq_modules_alone`).
-/

namespace InfraLint

/-- The first step of a rule gives the same after earlier questions. -/
theorem RuleRun.prepare_after {session : Session} (steady : session.IsSteady)
    (earlier : List Query) (run : RuleRun) :
    run.prepare (session.after earlier) =
      ((run.prepare session).1, (run.prepare session).2.1,
        (run.prepare session).2.2.after earlier) := by
  simp only [prepare, Check.prepare_after steady]
  split
  · rcases run.rule.check.prepare session with ⟨_ | _, _⟩ <;> rfl
  · rfl

namespace Lint

/-- The provider of a run, if it has one, is steady. -/
def IsSteady (lint : Lint) : Prop := ∀ provider ∈ lint.provider, provider.IsSteady

theorem provider_of_session (lint : Lint) {sent : List Query} {provider : Provider}
    (asked : provider ∈ (lint.session sent).provider) : lint.provider = some provider := by
  unfold session at asked
  split at asked
  · next given =>
    split at asked
    · exact given ▸ asked
    · cases asked
  · cases asked

theorem IsSteady.session {lint : Lint} (steady : lint.IsSteady) (sent : List Query) :
    (lint.session sent).IsSteady := by
  intro provider asked
  exact steady provider (lint.provider_of_session asked)

theorem small_isSteady : Lint.small.IsSteady := by
  intro provider given
  cases given
  exact fun _ _ => rfl

/-- The session for a module when earlier questions have been sent. -/
theorem session_append (lint : Lint) (earlier sent : List Query) :
    lint.session (earlier ++ sent) = (lint.session sent).after earlier := by
  unfold session
  split
  · split <;> rfl
  · rfl

/-! ## Rules -/

theorem Ends.provider_eq {lint : Lint} {module : Module} {rule : Rule} {session next : Session}
    {result : Except LintError (Outcome × List Issue)}
    (ends : lint.Ends module rule session result next) : next.provider = session.provider := by
  have kept := rule.check.provider_prepare session
  cases ends with
  | skipped _ => rfl
  | failed _ learnt => rwa [learnt] at kept
  | stopped _ learnt _ => rwa [learnt] at kept
  | completed _ learnt _ => rwa [learnt] at kept

theorem Ends.isAvailable_eq {lint : Lint} {module : Module} {rule : Rule} {session next : Session}
    {result : Except LintError (Outcome × List Issue)}
    (ends : lint.Ends module rule session result next) :
    next.isAvailable = session.isAvailable := by
  rw [Session.isAvailable, ends.provider_eq, Session.isAvailable]

theorem runRule_after (lint : Lint) (module : Module) (rule : Rule) {session : Session}
    (steady : session.IsSteady) (earlier : List Query) :
    lint.runRule module rule (session.after earlier) =
      ((lint.runRule module rule session).1,
        (lint.runRule module rule session).2.after earlier) := by
  simp only [runRule, Session.isAvailable_after]
  cases lint.skipReason? module session.isAvailable rule with
  | some reason => rfl
  | none =>
      simp only [runChosen, RuleRun.prepare_after steady]
      rcases (RuleRun.start rule).prepare session with ⟨_ | _, _, _⟩ <;> rfl

theorem runRules_after (lint : Lint) (module : Module) (rules : List Rule) {session : Session}
    (steady : session.IsSteady) (earlier : List Query) :
    lint.runRules module rules (session.after earlier) =
      ((lint.runRules module rules session).1,
        (lint.runRules module rules session).2.after earlier) := by
  induction rules generalizing session with
  | nil => rfl
  | cons rule rest ih =>
      simp only [runRules, runRule_after lint module rule steady]
      rcases ran : lint.runRule module rule session with ⟨cause | ⟨outcome, issues⟩, next⟩
      · rfl
      · have kept : next.IsSteady := by
          rw [Session.IsSteady, (Ends.of_runRule ran).provider_eq]
          exact steady
        simp only [ih kept]

/-! ## Modules -/

/-- The report on a module does not depend on the questions sent earlier, and neither do the
questions sent for it. -/
theorem runModule_after {lint : Lint} (steady : lint.IsSteady) (module : Module)
    (earlier sent : List Query) :
    lint.runModule module (earlier ++ sent) =
      ((lint.runModule module sent).1, earlier ++ (lint.runModule module sent).2) := by
  simp only [runModule, session_append,
    runRules_after lint module _ (steady.session sent), Session.roundTrips_after,
    Session.sent_after]

theorem runModule_eq {lint : Lint} (steady : lint.IsSteady) (module : Module)
    (sent : List Query) :
    lint.runModule module sent =
      ((lint.runModule module []).1, sent ++ (lint.runModule module []).2) := by
  have moved := runModule_after steady module sent []
  rwa [List.append_nil] at moved

/-- A module gets the same report after any other questions. -/
theorem runModule_of_steady {lint : Lint} (steady : lint.IsSteady) {module : Module}
    {sent last : List Query} {report : ModuleReport}
    (checked : lint.runModule module sent = (.ok report, last)) (earlier : List Query) :
    (lint.runModule module earlier).1 = .ok report := by
  rw [runModule_eq steady] at checked ⊢
  exact congrArg Prod.fst checked

/-- A run over a tree visits every module of it once, in depth-first order, and reports on each what
is reported on the module alone: the report is made of these reports, one after the other. -/
theorem run_eq_modules_alone {lint : Lint} (steady : lint.IsSteady) {root : Module}
    {sent last : List Query} {report : Report} (ran : lint.run root sent = (.ok report, last)) :
    ∃ reports : List ModuleReport,
      List.Forall₂ (fun module alone => ∀ earlier, (lint.runModule module earlier).1 = .ok alone)
        root.preorder reports ∧
      report.issues = reports.flatMap (·.issues) ∧
      report.outcomes = reports.flatMap (·.outcomes) ∧
      report.modules = root.count := by
  obtain ⟨reports, visited, rfl⟩ := runEach_of_run ran
  have each := forall₂_of_runEach visited
  refine ⟨reports, each.imp ?_, by simp, by simp, ?_⟩
  · rintro module alone ⟨earlier, next, checked⟩
    exact runModule_of_steady steady checked
  · rw [Report.modules_ofModules, ← each.length_eq, Module.length_preorder]

theorem run_eq_modules_alone_small :
    ∃ report last, Lint.small.IsSteady ∧ Lint.small.run .small [] = (.ok report, last) ∧
      ∃ reports : List ModuleReport,
        List.Forall₂
          (fun module alone => ∀ earlier, (Lint.small.runModule module earlier).1 = .ok alone)
          Module.small.preorder reports ∧
        report.issues = reports.flatMap (·.issues) ∧
        report.outcomes = reports.flatMap (·.outcomes) ∧
        report.modules = Module.small.count := by
  obtain ⟨report, ran⟩ := small_run
  exact ⟨report, _, small_isSteady, ran, run_eq_modules_alone small_isSteady ran⟩

end Lint

end InfraLint
