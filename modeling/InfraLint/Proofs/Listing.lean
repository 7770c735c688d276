import InfraLint.Command.Run
import InfraLint.Proofs.Calls
import InfraLint.Proofs.Isolation

/-!
# The listing of the rules agrees with the run

The listing and the run read the settings of a rule each for itself.  A row of the listing says of a
rule whether it is enabled and deep, with what severity it reports and which page describes it
(`Command.RuleRow.Lists`).  In a module the run first asks whether the rule is enabled and then
whether it can ask the provider, and only these two questions lead to the skips that a row foretells
(`Lint.Foretells`).  The issues of a module come rule by rule, so they come row by row
(`Lint.FollowsListing`).

That the settings are accepted is all that both need: under them every rule has a severity, so that
the listing succeeds and the run does.
-/

namespace InfraLint

/-! ## Reasons for a skip -/

namespace Lint

variable {lint : Lint} {module : Module} {rule : Rule}

theorem isDeep_eq_false_iff :
    lint.isDeep = false ↔ lint.settings.deepCheck = false ∨ lint.provider = none := by
  rw [isDeep, Bool.and_eq_false_iff, Option.isSome_eq_false_iff, Option.isNone_iff_eq_none]

theorem skipReason?_eq_disabled_iff {isAvailable : Bool} :
    lint.skipReason? module isAvailable rule = some .disabled ↔
      lint.settings.isRuleEnabled rule.name rule.enabledByDefault = false := by
  unfold skipReason?
  cases lint.settings.isRuleEnabled rule.name rule.enabledByDefault <;>
    cases rule.needsProvider <;> cases isAvailable <;>
      cases module.hasResources rule.resourceType <;> simp

theorem skipReason?_eq_deepCheckDisabled_iff {isAvailable : Bool} :
    lint.skipReason? module isAvailable rule = some .deepCheckDisabled ↔
      lint.settings.isRuleEnabled rule.name rule.enabledByDefault = true ∧
        rule.needsProvider = true ∧ isAvailable = false := by
  unfold skipReason?
  cases lint.settings.isRuleEnabled rule.name rule.enabledByDefault <;>
    cases rule.needsProvider <;> cases isAvailable <;>
      cases module.hasResources rule.resourceType <;> simp

/-- A rule is skipped for a reason exactly if there is this reason to skip it. -/
theorem Ends.skipped_reason_iff {session next : Session} {outcome : Outcome} {issues : List Issue}
    (ends : lint.Ends module rule session (.ok (outcome, issues)) next) (reason : SkipReason) :
    outcome = .skipped reason ↔
      lint.skipReason? module session.isAvailable rule = some reason := by
  cases ends with
  | skipped skip => simp [skip]
  | failed skip _ => simp [skip]
  | completed skip _ _ => simp [skip]

end Lint

/-! ## Rows -/

namespace Command

/-- A row says what the settings of a run make of a rule. -/
structure RuleRow.Lists (lint : Lint) (rule : Rule) (row : RuleRow) : Prop where
  name : row.name = rule.name
  severity : lint.severity rule = .ok row.severity
  enabled : row.enabled = lint.settings.isRuleEnabled rule.name rule.enabledByDefault
  deep : row.deep = rule.needsProvider
  link : row.link = rule.link

/-- Every rule has a row if the settings are accepted. -/
theorem RuleRow.exists_lists {lint : Lint} (valid : lint.IsValid) (rule : Rule) :
    ∃ row, RuleRow.ofRule lint.settings rule = .ok row ∧ row.Lists lint rule := by
  obtain ⟨severity, level⟩ := valid.exists_severity rule
  refine ⟨⟨rule.name, rule.resourceType, severity,
    lint.settings.isRuleEnabled rule.name rule.enabledByDefault, rule.needsProvider, rule.link⟩,
    ?_, rfl, level, rfl, rfl, rfl⟩
  obtain ⟨override, given, rfl⟩ := Lint.severity_eq_ok level
  rw [ofRule, given]
  rfl

/-- The listing has a row for every rule, in the order of the rules. -/
theorem exists_ruleRows {lint : Lint} (valid : lint.IsValid) :
    ∃ row : Rule → RuleRow, (∀ rule, (row rule).Lists lint rule) ∧
      ruleRows lint.registry lint.settings = .ok (lint.registry.rules.map row) := by
  choose row made lists using RuleRow.exists_lists valid
  refine ⟨row, lists, mapM_ok_iff.2 ?_⟩
  exact List.forall₂_map_right_iff.2 (List.forall₂_same.2 fun rule _ => made rule)

end Command

/-! ## What a row foretells -/

namespace Lint

open Command

variable {lint : Lint} {module : Module}

/-- A row foretells whether its rule is skipped in a module because it is disabled, or because it
asks the provider and there is none to ask. -/
structure Foretells (lint : Lint) (row : RuleRow) (done : RuleReport) : Prop where
  rule : done.rule = row.name
  disabled : done.outcome = .skipped .disabled ↔ row.enabled = false
  shallow : done.outcome = .skipped .deepCheckDisabled ↔
    row.enabled = true ∧ row.deep = true ∧
      (lint.settings.deepCheck = false ∨ lint.provider = none)

/-- The report on a module follows the listing: the outcomes are as the rows foretell, and the
issues come in the order of the rows, each marked as the row of its rule says. -/
structure FollowsListing (lint : Lint) (rows : List RuleRow) (report : ModuleReport) : Prop where
  outcomes : List.Forall₂ lint.Foretells rows report.outcomes
  issues : report.issues = rows.flatMap fun row => report.issuesOf row.name
  marks : ∀ row ∈ rows, ∀ issue ∈ report.issuesOf row.name,
    issue.severity = row.severity ∧ issue.link = some row.link

theorem Ended.named {rule : Rule} {entry : RuleReport × List Issue}
    (ended : lint.Ended module rule entry) : Named rule entry := by
  obtain ⟨session, next, -, ends⟩ := ended.ends
  exact ⟨ended.name, fun issue member => ends.accounts.issue_name member⟩

theorem Ended.foretells {rule : Rule} {row : RuleRow} {entry : RuleReport × List Issue}
    (lists : row.Lists lint rule) (ended : lint.Ended module rule entry) :
    lint.Foretells row entry.1 := by
  obtain ⟨session, next, available, ends⟩ := ended.ends
  refine ⟨ended.name.trans lists.name.symm, ?_, ?_⟩
  · rw [ends.skipped_reason_iff, skipReason?_eq_disabled_iff, lists.enabled]
  · rw [ends.skipped_reason_iff, skipReason?_eq_deepCheckDisabled_iff, available,
      isDeep_eq_false_iff, lists.enabled, lists.deep]

/-- The issues of a rule that has ended carry the severity and the page of its row. -/
theorem Ended.marks {rule : Rule} {row : RuleRow} {entry : RuleReport × List Issue}
    (lists : row.Lists lint rule) (ended : lint.Ended module rule entry) :
    ∀ issue ∈ entry.2, issue.severity = row.severity ∧ issue.link = some row.link := by
  intro issue member
  obtain ⟨session, next, -, ends⟩ := ended.ends
  obtain ⟨-, level, link⟩ := ends.accounts.marks member
  rw [lists.severity] at level
  exact ⟨(Except.ok.inj level).symm, by rw [link, lists.link]⟩

/-- The issues of a module are those of its rules by name, one rule after the other. -/
theorem issues_eq_flatMap {rules : List Rule} {reports : List (RuleReport × List Issue)}
    (distinct : (rules.map (·.name)).Nodup) (entries : List.Forall₂ Named rules reports) :
    reports.flatMap (·.2) =
      rules.flatMap fun rule => (reports.flatMap (·.2)).filter (·.rule == rule.name) := by
  induction entries with
  | nil => rfl
  | @cons rule entry rest others named below ih =>
      rw [List.map_cons, List.nodup_cons] at distinct
      have alone := (filter_entries_of_fresh below distinct.1).2
      have later : rest.flatMap (fun other =>
            (entry.2 ++ others.flatMap (·.2)).filter (·.rule == other.name)) =
          rest.flatMap fun other => (others.flatMap (·.2)).filter (·.rule == other.name) := by
        refine List.flatMap_congr fun other member => ?_
        have differs : rule.name ≠ other.name := by
          intro same
          exact distinct.1 (same ▸ List.mem_map_of_mem member)
        rw [List.filter_append, named.filter_issues, if_neg differs, List.nil_append]
      rw [List.flatMap_cons, List.flatMap_cons, later, ← ih distinct.2, List.filter_append,
        named.filter_issues, if_pos rfl, alone, List.append_nil]

/-- The report on every module follows the listing. -/
theorem followsListing_of_runModule (built : lint.registry.IsBuilt) {row : Rule → RuleRow}
    (lists : ∀ rule, (row rule).Lists lint rule) {sent last : List Query} {report : ModuleReport}
    (checked : lint.runModule module sent = (.ok report, last)) :
    lint.FollowsListing (lint.registry.rules.map row) report := by
  obtain ⟨reports, session, ran, rfl, rfl⟩ := runModule_ok_iff.1 checked
  have ended := ended_of_runRules (isAvailable_session sent) ran
  refine ⟨?_, ?_, ?_⟩
  · rw [List.forall₂_map_left_iff, List.forall₂_map_right_iff]
    exact ended.imp fun rule entry => Ended.foretells (lists rule)
  · rw [List.flatMap_map]
    refine (issues_eq_flatMap built.nodup_names (ended.imp fun _ _ => Ended.named)).trans ?_
    refine List.flatMap_congr fun rule _ => ?_
    rw [ModuleReport.issuesOf, (lists rule).name]
  · intro listed member
    obtain ⟨rule, registered, rfl⟩ := List.mem_map.1 member
    obtain ⟨entry, made, -, issues⟩ :=
      exists_entry_of_name Ended.named built.nodup_names ended registered
    rw [ModuleReport.issuesOf, (lists rule).name, issues]
    exact made.marks (lists rule)

/-! ## The listing and the run -/

/-- An outcome that carries the name of a row is as the row foretells. -/
theorem FollowsListing.foretells {rows : List RuleRow} {report : ModuleReport}
    (follows : lint.FollowsListing rows report) (distinct : (rows.map (·.name)).Nodup)
    {row : RuleRow} (member : row ∈ rows) {done : RuleReport} (reported : done ∈ report.outcomes)
    (same : done.rule = row.name) : lint.Foretells row done := by
  obtain ⟨other, listed, foretells⟩ := exists_of_forall₂ follows.outcomes reported
  have names : other.name = row.name := foretells.rule.symm.trans same
  obtain rfl := List.inj_on_of_nodup_map distinct listed member names
  exact foretells

/-- A report keeps to the listing if the reports on its modules, in depth-first order, follow it. -/
def KeepsListing (lint : Lint) (rows : List RuleRow) (root : Module) (report : Report) : Prop :=
  ∃ reports, report = .ofModules reports ∧
    List.Forall₂ (fun module part => (∃ earlier next,
      lint.runModule module earlier = (.ok part, next)) ∧ lint.FollowsListing rows part)
      root.preorder reports

theorem keepsListing_of_run (built : lint.registry.IsBuilt) {row : Rule → RuleRow}
    (lists : ∀ rule, (row rule).Lists lint rule) {root : Module} {sent last : List Query}
    {report : Report} (ran : lint.run root sent = (.ok report, last)) :
    lint.KeepsListing (lint.registry.rules.map row) root report := by
  obtain ⟨reports, visited, rfl⟩ := runEach_of_run ran
  refine ⟨reports, rfl, (forall₂_of_runEach visited).imp ?_⟩
  rintro module part ⟨earlier, next, checked⟩
  exact ⟨⟨earlier, next, checked⟩, followsListing_of_runModule built lists checked⟩

section

variable {rows : List RuleRow} {root : Module} {report : Report}

theorem KeepsListing.foretells (keeps : lint.KeepsListing rows root report)
    (distinct : (rows.map (·.name)).Nodup) {row : RuleRow} (member : row ∈ rows)
    {done : RuleReport} (reported : done ∈ report.outcomes) (same : done.rule = row.name) :
    lint.Foretells row done := by
  obtain ⟨reports, rfl, each⟩ := keeps
  rw [Report.outcomes_ofModules, List.mem_flatMap] at reported
  obtain ⟨part, among, reported⟩ := reported
  obtain ⟨module, -, -, follows⟩ := exists_of_forall₂ each among
  exact follows.foretells distinct member reported same

theorem KeepsListing.marks (keeps : lint.KeepsListing rows root report) {row : RuleRow}
    (member : row ∈ rows) {issue : Issue} (reported : issue ∈ report.issues)
    (same : issue.rule = row.name) :
    issue.severity = row.severity ∧ issue.link = some row.link := by
  obtain ⟨reports, rfl, each⟩ := keeps
  rw [Report.issues_ofModules, List.mem_flatMap] at reported
  obtain ⟨part, among, reported⟩ := reported
  obtain ⟨module, -, -, follows⟩ := exists_of_forall₂ each among
  have named : (issue.rule == row.name) = true := by rw [same, beq_self_eq_true]
  exact follows.marks row member issue (List.mem_filter.2 ⟨reported, named⟩)

/-- Every row has an outcome, since there is a root module. -/
theorem KeepsListing.exists_outcome (keeps : lint.KeepsListing rows root report) {row : RuleRow}
    (member : row ∈ rows) : ∃ done ∈ report.outcomes, lint.Foretells row done := by
  obtain ⟨reports, rfl, each⟩ := keeps
  rw [Module.preorder_eq] at each
  obtain ⟨part, others, ⟨-, follows⟩, -, rfl⟩ := List.forall₂_cons_left_iff.1 each
  obtain ⟨done, reported, foretells⟩ := exists_of_forall₂ follows.outcomes.flip member
  exact ⟨done, by simp [reported], foretells⟩

end

/-- Under accepted settings the listing has a row for every rule, the run succeeds, and the two
agree.  A row says enabled exactly if its rule is skipped as disabled in no module, and if it says
disabled then this is the outcome in every module.  The rule is skipped for want of a provider
exactly if the row says enabled and deep and the run asks none.  Its issues have the severity and
the page of the row, and those of a module come in the order of the rows. -/
theorem run_follows_listing (valid : lint.IsValid) (built : lint.registry.IsBuilt) (root : Module)
    (sent : List Query) :
    ∃ rows report last, ruleRows lint.registry lint.settings = .ok rows ∧
      lint.run root sent = (.ok report, last) ∧
      rows.map (·.name) = lint.registry.names ∧
      lint.KeepsListing rows root report ∧
      ∀ row ∈ rows,
        (row.enabled = true ↔ ∀ done ∈ report.outcomes, done.rule = row.name →
          done.outcome ≠ .skipped .disabled) ∧
        (∀ done ∈ report.outcomes, done.rule = row.name → lint.Foretells row done) ∧
        ∀ issue ∈ report.issues, issue.rule = row.name →
          issue.severity = row.severity ∧ issue.link = some row.link := by
  obtain ⟨row, lists, listed⟩ := exists_ruleRows valid
  obtain ⟨report, last, ran⟩ := exists_run_eq_ok valid root sent
  have keeps := keepsListing_of_run built lists ran
  have names : (lint.registry.rules.map row).map (·.name) = lint.registry.names := by
    rw [List.map_map]
    exact List.map_congr_left fun rule _ => (lists rule).name
  have distinct : ((lint.registry.rules.map row).map (·.name)).Nodup := names ▸ built.nodup_names
  refine ⟨_, report, last, listed, ran, names, keeps, fun row member => ⟨?_, ?_, ?_⟩⟩
  · constructor
    · intro enabled done reported same disabled
      have foretells := keeps.foretells distinct member reported same
      rw [foretells.disabled, enabled] at disabled
      cases disabled
    · intro never
      obtain ⟨done, reported, foretells⟩ := keeps.exists_outcome member
      have spared := never done reported foretells.rule
      rw [Ne, foretells.disabled, Bool.not_eq_false] at spared
      exact spared
  · exact fun done reported same => keeps.foretells distinct member reported same
  · exact fun issue reported same => keeps.marks member reported same

/-- The check of the small configuration without the provider, with one rule ignored and a severity
for another. -/
def smallShallow : Lint :=
  { Lint.small with
    settings := { Settings.default with
      ignoredRules := ["aws_instance_invalid_ami"]
      rules := ⟨[("aws_route_not_specified_target", ⟨none, some "Notice"⟩)],
        List.pairwise_singleton _ _⟩ } }

/-- Of the three rules of the small configuration the listing says that one is disabled, one asks
the provider and one has another severity.  In the root and in the module that it calls the first
is skipped as disabled and the second for want of the provider, and the third reports a notice. -/
theorem run_follows_listing_smallShallow :
    ∃ rows report last, smallShallow.IsValid ∧ smallShallow.registry.IsBuilt ∧
      ruleRows smallShallow.registry smallShallow.settings = .ok rows ∧
      smallShallow.run .small [] = (.ok report, last) ∧
      rows.map (fun row => (row.enabled, row.deep, row.severity)) =
        [(false, true, .error), (true, true, .error), (true, false, .notice)] ∧
      report.outcomes.map (·.outcome) =
        [.skipped .disabled, .skipped .deepCheckDisabled, .skipped .noTargetResources,
          .skipped .disabled, .skipped .deepCheckDisabled, .completed 1] ∧
      (∀ row ∈ rows, ∀ issue ∈ report.issues, issue.rule = row.name →
        issue.severity = row.severity) ∧
      smallShallow.KeepsListing rows .small report := by
  have valid : smallShallow.IsValid := ⟨_, rfl⟩
  have built : smallShallow.registry.IsBuilt := ⟨_, rfl⟩
  obtain ⟨rows, report, last, listed, ran, -, keeps, agree⟩ :=
    run_follows_listing valid built .small []
  refine ⟨rows, report, last, valid, built, listed, ran, ?_, ?_,
    fun row member issue reported same => ((agree row member).2.2 issue reported same).1, keeps⟩
  · have shown : (ruleRows smallShallow.registry smallShallow.settings).toOption.map
        (·.map fun row => (row.enabled, row.deep, row.severity)) =
        some [(false, true, .error), (true, true, .error), (true, false, .notice)] := by
      decide +kernel
    rw [listed] at shown
    exact Option.some.inj shown
  · have shown : (smallShallow.run .small []).1.toOption.map
        (fun report => report.outcomes.map (·.outcome)) =
        some [.skipped .disabled, .skipped .deepCheckDisabled, .skipped .noTargetResources,
          .skipped .disabled, .skipped .deepCheckDisabled, .completed 1] := by
      simp only [run, runPending_eq]
      rfl
    rw [ran] at shown
    exact Option.some.inj shown

end Lint

end InfraLint
