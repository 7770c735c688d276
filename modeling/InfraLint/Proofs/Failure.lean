import InfraLint.Proofs.Severity
import InfraLint.Proofs.Traversal

/-!
# When a run fails

A run checks the settings first and can stop at several places after that.  Accepted settings give
every rule a severity, so no rule stops the run (`Lint.exists_runRule_eq_ok`), and hence neither do
the rules of a module nor the modules of a tree.  A run therefore fails exactly if the settings hold
a severity that is not known (`Lint.run_fails_iff`), whatever the provider, the state and the
configuration are, and then nothing has been asked.
-/

namespace InfraLint

namespace Lint

/-- The settings of a run are accepted. -/
def IsValid (lint : Lint) : Prop :=
  ∃ warnings, lint.settings.validate lint.registry.names = .ok warnings

variable {lint : Lint}

/-- A rule has the severity that the settings give it, or else its own. -/
theorem severity_eq_ok {rule : Rule} {severity : Severity}
    (level : lint.severity rule = .ok severity) :
    ∃ override, lint.settings.severityOf rule.name = .ok override ∧
      severity = override.getD rule.severity := by
  unfold Lint.severity at level
  cases given : lint.settings.severityOf rule.name with
  | error cause =>
      rw [given] at level
      cases level
  | ok override =>
      rw [given] at level
      cases level
      exact ⟨override, rfl, rfl⟩

theorem IsValid.exists_severity (valid : lint.IsValid) (rule : Rule) :
    ∃ severity, lint.severity rule = .ok severity := by
  obtain ⟨warnings, valid⟩ := valid
  obtain ⟨level, found⟩ := Settings.exists_severityOf_eq_ok valid rule.name
  exact ⟨level.getD rule.severity, by rw [severity, found]; rfl⟩

/-- No rule stops a run under accepted settings: what goes wrong with it is its own outcome. -/
theorem exists_runRule_eq_ok (valid : lint.IsValid) (module : Module) (rule : Rule)
    (session : Session) :
    ∃ outcome issues next, lint.runRule module rule session = (.ok (outcome, issues), next) := by
  rcases ran : lint.runRule module rule session with ⟨cause | ⟨outcome, issues⟩, next⟩
  · cases Ends.of_runRule ran with
    | stopped _ _ unknown =>
        obtain ⟨severity, known⟩ := valid.exists_severity rule
        rw [known] at unknown
        cases unknown
  · exact ⟨outcome, issues, next, rfl⟩

theorem exists_runRules_eq_ok (valid : lint.IsValid) (module : Module) (rules : List Rule)
    (session : Session) :
    ∃ reports last, lint.runRules module rules session = (.ok reports, last) := by
  induction rules generalizing session with
  | nil => exact ⟨[], session, rfl⟩
  | cons rule rest ih =>
      obtain ⟨outcome, issues, next, ran⟩ := exists_runRule_eq_ok valid module rule session
      obtain ⟨others, last, rests⟩ := ih next
      exact ⟨_, last, runRules_cons_ok_iff.2 ⟨outcome, issues, next, others, ran, rests, rfl⟩⟩

/-- Every module gets a report under accepted settings. -/
theorem exists_runModule_eq_ok (valid : lint.IsValid) (module : Module) (sent : List Query) :
    ∃ report last, lint.runModule module sent = (.ok report, last) := by
  obtain ⟨reports, last, ran⟩ :=
    exists_runRules_eq_ok valid module lint.registry.rules (lint.session sent)
  exact ⟨_, _, runModule_ok_iff.2 ⟨reports, last, ran, rfl, rfl⟩⟩

theorem exists_runEach_eq_ok (valid : lint.IsValid) (modules : List Module)
    (sent : List Query) :
    ∃ reports last, lint.runEach modules sent = (.ok reports, last) := by
  induction modules generalizing sent with
  | nil => exact ⟨[], sent, rfl⟩
  | cons module rest ih =>
      obtain ⟨report, next, checked⟩ := exists_runModule_eq_ok valid module sent
      obtain ⟨others, last, rests⟩ := ih next
      exact ⟨_, last, runEach_cons_ok_iff.2 ⟨report, next, others, checked, rests, rfl⟩⟩

/-- Under accepted settings a run is the visit of the modules in depth-first order. -/
theorem run_of_runEach (valid : lint.IsValid) {root : Module} {sent last : List Query}
    {reports : List ModuleReport} (visited : lint.runEach root.preorder sent = (.ok reports, last)) :
    lint.run root sent = (.ok (.ofModules reports), last) := by
  obtain ⟨warnings, accepted⟩ := valid
  simp only [run, accepted, runPending_eq, Module.preorderAll_singleton, visited]
  rfl

/-- Accepted settings are all that a run needs. -/
theorem exists_run_eq_ok (valid : lint.IsValid) (root : Module) (sent : List Query) :
    ∃ report last, lint.run root sent = (.ok report, last) := by
  obtain ⟨reports, last, visited⟩ := exists_runEach_eq_ok valid root.preorder sent
  exact ⟨.ofModules reports, last, run_of_runEach valid visited⟩

/-- A run fails exactly if some entry of the settings has a severity that is not known.  It fails
with the complaint about the first such entry by name, and the provider has been sent nothing. -/
theorem run_fails_iff (lint : Lint) (root : Module) (sent : List Query) :
    ((∃ error last, lint.run root sent = (.error error, last)) ↔
      ∃ name rule text, (name, rule) ∈ lint.settings.rules.entries ∧ rule.IsUnknown text) ∧
    ∀ error last, lint.run root sent = (.error error, last) →
      last = sent ∧ ∃ name text, lint.settings.rules.IsFirstUnknown name text ∧
        error = .settings (.unknownSeverity text) := by
  cases checked : lint.settings.validate lint.registry.names with
  | ok warnings =>
      -- Here neither side holds: the run succeeds and no severity is unknown.
      obtain ⟨report, last, ran⟩ := exists_run_eq_ok ⟨warnings, checked⟩ root sent
      refine ⟨⟨?_, ?_⟩, ?_⟩
      · rintro ⟨error, other, failed⟩
        rw [ran] at failed
        cases failed
      · rintro ⟨name, rule, text, member, unknown⟩
        obtain ⟨cause, refused⟩ :=
          Settings.exists_validate_eq_error lint.registry.names member unknown
        rw [checked] at refused
        cases refused
      · intro error other failed
        rw [ran] at failed
        cases failed
  | error cause =>
      have failed : lint.run root sent = (.error (.settings cause), sent) := by
        simp only [run, checked]
      obtain ⟨name, text, least, rfl⟩ := Settings.validate_eq_error_iff.1 checked
      obtain ⟨rule, member, unknown⟩ := least.1
      refine ⟨⟨fun _ => ⟨name, rule, text, member, unknown⟩, fun _ => ⟨_, _, failed⟩⟩, ?_⟩
      intro error last claimed
      rw [failed] at claimed
      cases claimed
      exact ⟨rfl, name, text, least, rfl⟩

end Lint

end InfraLint
