import InfraLint.Proofs.Failure

/-!
# What the severities in the settings reach

The severity of a rule is looked up after the rule has prepared, and it goes into one field of the
issues that the rule reports.  So two runs whose settings differ in nothing but severities go the
same way.  They skip the same rules and send the same questions, and rule by rule they report the
same issues except for that field (`Issue.Matches`).  This is carried from one rule
(`Lint.exists_runRule_alike`) over the rules of a module and the modules of a tree to a whole run.

The provider need not be steady: both runs ask it the same questions after the same record, so
it cannot tell them apart.
-/

namespace InfraLint

/-! ## Settings that differ in severities -/

/-- What a table says apart from severities: which rules it names, and whether they are enabled. -/
def RuleTable.switches (table : RuleTable) : List (String × Option Bool) :=
  table.entries.map fun entry => (entry.1, entry.2.enabled)

theorem RuleTable.lookup_switches (table : RuleTable) (name : String) :
    table.switches.lookup name = (table.get? name).map (·.enabled) := by
  unfold switches get?
  induction table.entries with
  | nil => rfl
  | cons entry rest ih =>
      rw [List.map_cons, List.lookup_cons, List.lookup_cons, ih]
      cases name == entry.1 <;> rfl

/-- Settings that differ at most in the severities of single rules. -/
structure Settings.SameButSeverities (first second : Settings) : Prop where
  deepCheck : first.deepCheck = second.deepCheck
  credentials : first.credentials = second.credentials
  ignoredRules : first.ignoredRules = second.ignoredRules
  ignoredModules : first.ignoredModules = second.ignoredModules
  variableFiles : first.variableFiles = second.variableFiles
  stateFile : first.stateFile = second.stateFile
  switches : first.rules.switches = second.rules.switches

/-- The same rules are enabled. -/
theorem Settings.SameButSeverities.isRuleEnabled {first second : Settings}
    (same : first.SameButSeverities second) (name : String) (byDefault : Bool) :
    first.isRuleEnabled name byDefault = second.isRuleEnabled name byDefault := by
  have switch (settings : Settings) : (settings.rules.get? name).bind (·.enabled) =
      (settings.rules.switches.lookup name).join := by
    rw [RuleTable.lookup_switches, ← Option.bind_id_eq_join, Option.bind_map]
    rfl
  simp only [Settings.isRuleEnabled, switch, same.switches, same.ignoredRules]

/-! ## Issues that differ in their severity -/

/-- Two issues agree except for their severity, and in their severity too unless it is overridden
differently for their rule. -/
structure Issue.Matches (first second : Settings) (issue other : Issue) : Prop where
  rule : issue.rule = other.rule
  message : issue.message = other.message
  file : issue.file = other.file
  line : issue.line = other.line
  link : issue.link = other.link
  severity : first.severityOf issue.rule = second.severityOf issue.rule →
    issue.severity = other.severity

namespace Lint

/-- The run with other settings. -/
def withSettings (lint : Lint) (settings : Settings) : Lint := { lint with settings := settings }

variable {lint : Lint} {settings : Settings}

theorem matches_issue {rule : Rule} {severity other : Severity}
    (level : lint.severity rule = .ok severity)
    (level' : (lint.withSettings settings).severity rule = .ok other) (finding : Finding) :
    Issue.Matches lint.settings settings (rule.issue severity finding)
      (rule.issue other finding) where
  rule := rfl
  message := rfl
  file := rfl
  line := rfl
  link := rfl
  severity agree := by
    obtain ⟨override, given, rfl⟩ := severity_eq_ok level
    obtain ⟨override', given', rfl⟩ := severity_eq_ok level'
    have overrides : override = override' :=
      Except.ok.inj ((given.symm.trans agree).trans given')
    rw [overrides]

/-- The severity makes no difference to which findings of a rule are waived. -/
theorem matches_reported {rule : Rule} {severity other : Severity}
    (level : lint.severity rule = .ok severity)
    (level' : (lint.withSettings settings).severity rule = .ok other) (module : Module)
    (facts : Facts) :
    List.Forall₂ (Issue.Matches lint.settings settings)
      (lint.reported module rule facts severity)
      ((lint.withSettings settings).reported module rule facts other) := by
  have kept (severity : Severity) :
      (fun finding => !isWaived module (rule.issue severity finding)) =
        fun finding => !isWaived module (rule.issue other finding) := rfl
  unfold reported
  rw [List.filter_map, List.filter_map, Function.comp_def, Function.comp_def, kept severity,
    List.forall₂_map_left_iff, List.forall₂_map_right_iff]
  exact List.forall₂_same.2 fun finding _ => matches_issue level level' finding

/-! ## Runs that go the same way -/

theorem skipReason?_withSettings (same : lint.settings.SameButSeverities settings)
    (module : Module) (isAvailable : Bool) (rule : Rule) :
    (lint.withSettings settings).skipReason? module isAvailable rule =
      lint.skipReason? module isAvailable rule := by
  have enabled := same.isRuleEnabled rule.name rule.enabledByDefault
  simp only [skipReason?, withSettings, ← enabled]

theorem session_withSettings (same : lint.settings.SameButSeverities settings)
    (sent : List Query) : (lint.withSettings settings).session sent = lint.session sent := by
  simp only [session, withSettings, ← same.deepCheck]

/-- One rule: it ends in the same way, in the same session, with issues that match. -/
theorem exists_runRule_alike (same : lint.settings.SameButSeverities settings)
    (valid : lint.IsValid) (valid' : (lint.withSettings settings).IsValid) (module : Module)
    (rule : Rule) (session : Session) :
    ∃ outcome issues issues' next,
      lint.runRule module rule session = (.ok (outcome, issues), next) ∧
      (lint.withSettings settings).runRule module rule session = (.ok (outcome, issues'), next) ∧
      List.Forall₂ (Issue.Matches lint.settings settings) issues issues' := by
  have skips := skipReason?_withSettings same module session.isAvailable rule
  cases skip : lint.skipReason? module session.isAvailable rule with
  | some reason =>
      rw [skip] at skips
      exact ⟨.skipped reason, [], [], session, by simp only [runRule, skip],
        by simp only [runRule, skips], .nil⟩
  | none =>
      rw [skip] at skips
      rcases learnt : rule.check.prepare session with ⟨cause | facts, next⟩
      · refine ⟨.failed (RunError.provider cause).message, [], [], next, ?_, ?_, .nil⟩
        · simp only [runRule, skip, runChosen, RuleRun.prepare_start_of_error learnt]
        · simp only [runRule, skips, runChosen, RuleRun.prepare_start_of_error learnt]
      · obtain ⟨severity, level⟩ := valid.exists_severity rule
        obtain ⟨severity', level'⟩ := valid'.exists_severity rule
        have alike := matches_reported level level' module facts
        refine ⟨.completed (lint.reported module rule facts severity).length, _, _, next, ?_, ?_,
          alike⟩
        · simp only [runRule, skip, runChosen, RuleRun.prepare_start_of_ok learnt,
            complete_prepared, level]
        · simp only [runRule, skips, runChosen, RuleRun.prepare_start_of_ok learnt,
            complete_prepared, level', alike.length_eq]

/-- The rules of a module one after the other. -/
theorem exists_runRules_alike (same : lint.settings.SameButSeverities settings)
    (valid : lint.IsValid) (valid' : (lint.withSettings settings).IsValid) (module : Module)
    (rules : List Rule) (session : Session) :
    ∃ reports reports' last,
      lint.runRules module rules session = (.ok reports, last) ∧
      (lint.withSettings settings).runRules module rules session = (.ok reports', last) ∧
      reports.map (·.1) = reports'.map (·.1) ∧
      List.Forall₂ (Issue.Matches lint.settings settings)
        (reports.flatMap (·.2)) (reports'.flatMap (·.2)) := by
  induction rules generalizing session with
  | nil => exact ⟨[], [], session, rfl, rfl, rfl, .nil⟩
  | cons rule rest ih =>
      obtain ⟨outcome, issues, issues', next, ran, ran', alike⟩ :=
        exists_runRule_alike same valid valid' module rule session
      obtain ⟨others, others', last, rests, rests', outcomes, matching⟩ := ih next
      refine ⟨_, _, last, runRules_cons_ok_iff.2 ⟨outcome, issues, next, others, ran, rests, rfl⟩,
        runRules_cons_ok_iff.2 ⟨outcome, issues', next, others', ran', rests', rfl⟩, ?_, ?_⟩
      · rw [List.map_cons, List.map_cons, outcomes]
      · exact List.rel_append alike matching

/-- Two reports on a module have the same outcomes and number of questions, and matching issues. -/
structure Alike (first second : Settings) (report other : ModuleReport) : Prop where
  outcomes : report.outcomes = other.outcomes
  roundTrips : report.roundTrips = other.roundTrips
  issues : List.Forall₂ (Issue.Matches first second) report.issues other.issues

theorem exists_runModule_alike (same : lint.settings.SameButSeverities settings)
    (valid : lint.IsValid) (valid' : (lint.withSettings settings).IsValid) (module : Module)
    (sent : List Query) :
    ∃ report report' last,
      lint.runModule module sent = (.ok report, last) ∧
      (lint.withSettings settings).runModule module sent = (.ok report', last) ∧
      Alike lint.settings settings report report' := by
  obtain ⟨reports, reports', session, ran, ran', outcomes, matching⟩ :=
    exists_runRules_alike same valid valid' module lint.registry.rules (lint.session sent)
  rw [← session_withSettings same sent] at ran'
  exact ⟨_, _, session.sent, runModule_ok_iff.2 ⟨reports, session, ran, rfl, rfl⟩,
    runModule_ok_iff.2 ⟨reports', session, ran', rfl, rfl⟩, ⟨outcomes, rfl, matching⟩⟩

/-- Modules one after the other. -/
theorem exists_runEach_alike (same : lint.settings.SameButSeverities settings)
    (valid : lint.IsValid) (valid' : (lint.withSettings settings).IsValid)
    (modules : List Module) (sent : List Query) :
    ∃ reports reports' last,
      lint.runEach modules sent = (.ok reports, last) ∧
      (lint.withSettings settings).runEach modules sent = (.ok reports', last) ∧
      List.Forall₂ (Alike lint.settings settings) reports reports' := by
  induction modules generalizing sent with
  | nil => exact ⟨[], [], sent, rfl, rfl, .nil⟩
  | cons module rest ih =>
      obtain ⟨report, report', next, ran, ran', alike⟩ :=
        exists_runModule_alike same valid valid' module sent
      obtain ⟨others, others', last, rests, rests', below⟩ := ih next
      exact ⟨_, _, last, runEach_cons_ok_iff.2 ⟨report, next, others, ran, rests, rfl⟩,
        runEach_cons_ok_iff.2 ⟨report', next, others', ran', rests', rfl⟩, .cons alike below⟩

theorem outcomes_eq_of_alike {first second : Settings} {reports others : List ModuleReport}
    (alike : List.Forall₂ (Alike first second) reports others) :
    reports.flatMap (·.outcomes) = others.flatMap (·.outcomes) := by
  induction alike with
  | nil => rfl
  | cons both _ ih => rw [List.flatMap_cons, List.flatMap_cons, both.outcomes, ih]

theorem matches_of_alike {first second : Settings} {reports others : List ModuleReport}
    (alike : List.Forall₂ (Alike first second) reports others) :
    List.Forall₂ (Issue.Matches first second) (reports.flatMap (·.issues))
      (others.flatMap (·.issues)) := by
  induction alike with
  | nil => exact .nil
  | cons both _ ih => exact List.rel_append both.issues ih

/-- The severities in the settings are cosmetic.  Two runs of which the settings differ in nothing
else send the same questions, and their reports have the same outcomes and, one by one, the same
issues except for the severity.  The severity differs only for rules that the settings give
different ones. -/
theorem run_overrides_cosmetic (same : lint.settings.SameButSeverities settings)
    (valid : lint.IsValid) (valid' : (lint.withSettings settings).IsValid) (root : Module)
    (sent : List Query) :
    ∃ report report' last,
      lint.run root sent = (.ok report, last) ∧
      (lint.withSettings settings).run root sent = (.ok report', last) ∧
      report.outcomes = report'.outcomes ∧ report.modules = report'.modules ∧
      report.issues.length = report'.issues.length ∧
      List.Forall₂ (Issue.Matches lint.settings settings) report.issues report'.issues := by
  obtain ⟨reports, reports', last, visited, visited', alike⟩ :=
    exists_runEach_alike same valid valid' root.preorder sent
  have matching : List.Forall₂ (Issue.Matches lint.settings settings)
      (Report.ofModules reports).issues (Report.ofModules reports').issues := by
    rw [Report.issues_ofModules, Report.issues_ofModules]
    exact matches_of_alike alike
  refine ⟨_, _, last, run_of_runEach valid visited, run_of_runEach valid' visited', ?_, ?_,
    matching.length_eq, matching⟩
  · rw [Report.outcomes_ofModules, Report.outcomes_ofModules, outcomes_eq_of_alike alike]
  · rw [Report.modules_ofModules, Report.modules_ofModules, alike.length_eq]

/-- The check of the small configuration with a severity for the rule on routes. -/
def smallWith (severity : String) : Lint :=
  Lint.small.withSettings { Lint.small.settings with
    rules := ⟨[("aws_route_not_specified_target", ⟨none, some severity⟩)],
      List.pairwise_singleton _ _⟩ }

/-- The severities of the issues of a successful run. -/
def severities (run : Except LintError Report × List Query) : Option (List Severity) :=
  run.1.toOption.map fun report => report.issues.map (·.severity)

/-- In the small configuration a route without a target is an error under some settings and a notice
under others.  The outcomes are the same, and the issue matches. -/
theorem run_overrides_cosmetic_small :
    ∃ report report' last,
      (smallWith "error").settings.SameButSeverities (smallWith "Notice").settings ∧
      (smallWith "error").run .small [] = (.ok report, last) ∧
      (smallWith "Notice").run .small [] = (.ok report', last) ∧
      report.issues.map (·.severity) = [.error] ∧ report'.issues.map (·.severity) = [.notice] ∧
      report.outcomes = report'.outcomes ∧
      List.Forall₂ (Issue.Matches (smallWith "error").settings (smallWith "Notice").settings)
        report.issues report'.issues := by
  have same : (smallWith "error").settings.SameButSeverities (smallWith "Notice").settings :=
    ⟨rfl, rfl, rfl, rfl, rfl, rfl, rfl⟩
  have valid : (smallWith "error").IsValid := ⟨_, rfl⟩
  have valid' : (smallWith "Notice").IsValid := ⟨_, rfl⟩
  have shown : severities ((smallWith "error").run .small []) = some [.error] ∧
      severities ((smallWith "Notice").run .small []) = some [.notice] := by
    simp only [run, runPending_eq]
    exact ⟨rfl, rfl⟩
  obtain ⟨report, report', last, ran, ran', outcomes, -, -, matching⟩ :=
    run_overrides_cosmetic same valid valid' .small []
  have ran' : (smallWith "Notice").run .small [] = (.ok report', last) := ran'
  rw [ran, ran'] at shown
  exact ⟨report, report', last, same, ran, ran', Option.some.inj shown.1, Option.some.inj shown.2,
    outcomes, matching⟩

end Lint

end InfraLint
