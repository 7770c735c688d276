import InfraLint.Proofs.Books
import InfraLint.Proofs.Questions
import InfraLint.Proofs.Registration

/-!
# Rules do not influence one another

All rules of a module share one session, so a rule may be served from what another one has asked,
and also from a refusal that another one has met.  With a steady provider this changes nothing but
the text of a failure.  What a rule learns is told by the answers of the provider alone
(`Check.gist_prepare_having`), whatever was asked before it, and what it finds depends on nothing
else that a session could change (`Rule.findings_congr`).  So two runs in which a rule stands alike
report the same on it (`Lint.Ends.agree`), whatever other rules they hold.
-/

namespace InfraLint

/-! ## What findings depend on -/

/-- What matters of the facts of a rule: the names that exist, and the default network if it is
known.  Why it is not known makes no difference. -/
def Facts.gist (facts : Facts) : Names × Option (Option String) :=
  (facts.known, facts.network.toOption)

theorem Unique.key?_congr {facts others : Facts} (same : facts.gist = others.gist) (scope : Scope)
    (block : Block) (within : Option String) (value : String) :
    key? facts scope block within value = key? others scope block within value := by
  have networks : facts.network.toOption = others.network.toOption := congrArg Prod.snd same
  unfold key?
  split
  · rfl
  · split
    · rfl
    · revert networks
      cases facts.network <;> cases others.network <;> intro networks <;> cases networks <;> rfl

theorem Rule.isTaken_congr (rule : Rule) {facts others : Facts} (same : facts.gist = others.gist)
    (scope : Scope) (state : Snapshot) (block : Block) (within : Option String) :
    rule.isTaken facts scope state block within = rule.isTaken others scope state block within := by
  have names : facts.known = others.known := congrArg Prod.fst same
  funext value
  simp only [isTaken, Unique.key?_congr same, names]

/-- Facts that agree in what matters give the same findings. -/
theorem Rule.findings_congr (rule : Rule) {facts others : Facts} (same : facts.gist = others.gist)
    (module : Module) (state : Snapshot) :
    rule.findings facts module state = rule.findings others module state := by
  have names : facts.known = others.known := congrArg Prod.fst same
  unfold findings
  congr 1
  funext block
  simp only [blockFindings, names, rule.isTaken_congr same]

/-! ## What a check learns -/

theorem toOption_mapError {ε δ α : Type} (f : ε → δ) (answer : Except ε α) :
    (answer.mapError f).toOption = answer.toOption := by
  cases answer <;> rfl

/-- What matters of what a check learns, if it can prepare, when the questions have given
answers. -/
def Check.learns (answer : Query → Option Names) : Check → Option (Names × Option (Option String))
  | reference query _ _ | unique query _ none => (answer query).map fun known => (known, some none)
  | unique query _ (some _) =>
    (answer query).map fun known => (known, (answer .defaultVpc).map (·.head?))
  | _ => some Facts.none.gist

theorem Check.learns_of_not_needsProvider {check : Check} (quiet : check.needsProvider = false)
    (answer : Query → Option Names) : check.learns answer = some Facts.none.gist := by
  cases check with
  | reference => cases quiet
  | unique => cases quiet
  | _ => rfl

/-- What a check learns does not depend on what was asked before it. -/
theorem Check.gist_prepare_having {provider : Provider} (steady : provider.IsSteady)
    (needed : List Query) (check : Check) :
    (check.prepare (.having provider needed)).1.toOption.map Facts.gist =
      check.learns fun query => (provider [] query).toOption := by
  have told := Session.toOption_fetch_having steady needed
  cases check with
  | reference query shape noun =>
      rw [prepare_reference, toOption_map, told, Option.map_map, learns]
      rfl
  | unique query noun within =>
      cases within with
      | none =>
          rw [prepare_unique, toOption_map, told, Option.map_map, learns]
          rfl
      | some attr =>
          obtain ⟨answer, asked, -⟩ := Session.fetch_having steady needed query
          have first := told query
          rw [asked] at first
          rw [learns, ← first]
          cases answer with
          | error cause =>
              rw [prepare_within_of_error asked]
              rfl
          | ok known =>
              -- The default network is asked for in the session that the first question leaves.
              have second :=
                Session.toOption_fetch_having steady (needed ++ [query]) .defaultVpc
              rw [prepare_within_of_ok asked, Session.defaultVpc_eq, ← second]
              refine congrArg (fun network => some (known, network)) ?_
              rw [toOption_mapError, toOption_map]
  | _ => rfl

/-! ## Two runs with one rule -/

/-- Two outcomes agree if they differ at most in the text of a failure. -/
inductive Outcome.Agrees : Outcome → Outcome → Prop where
  | completed (issues : Nat) : Agrees (.completed issues) (.completed issues)
  | failed (error other : String) : Agrees (.failed error) (.failed other)
  | skipped (reason : SkipReason) : Agrees (.skipped reason) (.skipped reason)

namespace Lint

/-- The answer that the provider of a run gives to a question. -/
def answer? (lint : Lint) (query : Query) : Option Names :=
  lint.provider.bind fun provider => (provider [] query).toOption

/-- What a rule that runs learns in a module is told by the answers of the provider. -/
theorem gist_prepare_sessionAfter {lint : Lint} (steady : lint.IsSteady) {module : Module}
    {rule : Rule} (runs : lint.runsIn module rule = true) (needed : List Query) :
    (rule.check.prepare (lint.sessionAfter needed)).1.toOption.map Facts.gist =
      rule.check.learns lint.answer? := by
  rcases lint.deep_cases with ⟨provider, given, deep, -⟩ | shallow
  · have answers : lint.answer? = fun query => (provider [] query).toOption := by
      funext query
      rw [answer?, given, Option.bind_some]
    rw [sessionAfter_of_deep given deep, answers, Check.gist_prepare_having (steady provider given)]
  · have quiet := not_needsProvider_of_runsIn shallow runs
    rw [Check.prepare_of_not_needsProvider quiet, Check.learns_of_not_needsProvider quiet]
    rfl

/-- A rule stands alike in two runs: they have one state, one provider and one depth, and their
settings agree on whether the rule is enabled and on its severity. -/
structure Shares (first second : Lint) (rule : Rule) : Prop where
  state : first.state = second.state
  provider : first.provider = second.provider
  deepCheck : first.settings.deepCheck = second.settings.deepCheck
  enabled : first.settings.isRuleEnabled rule.name rule.enabledByDefault =
    second.settings.isRuleEnabled rule.name rule.enabledByDefault
  severity : first.severity rule = second.severity rule

namespace Shares

variable {first second : Lint} {rule : Rule}

theorem isDeep (shares : first.Shares second rule) : first.isDeep = second.isDeep := by
  rw [Lint.isDeep, Lint.isDeep, shares.deepCheck, shares.provider]

theorem skipReason? (shares : first.Shares second rule) (module : Module) (isAvailable : Bool) :
    first.skipReason? module isAvailable rule = second.skipReason? module isAvailable rule := by
  rw [Lint.skipReason?, Lint.skipReason?, shares.enabled]

theorem answer? (shares : first.Shares second rule) : first.answer? = second.answer? := by
  funext query
  rw [Lint.answer?, Lint.answer?, shares.provider]

theorem isSteady (shares : first.Shares second rule) (steady : first.IsSteady) :
    second.IsSteady := by
  intro provider given
  exact steady provider (shares.provider ▸ given)

end Shares

/-- Facts that agree in what matters give the same issues in both runs. -/
theorem reported_congr {first second : Lint} {rule : Rule} (shares : first.Shares second rule)
    (module : Module) {facts others : Facts} (same : facts.gist = others.gist)
    (severity : Severity) :
    first.reported module rule facts severity = second.reported module rule others severity := by
  rw [reported, reported, shares.state, rule.findings_congr same]

/-- A check that is refused learns nothing, and one that prepares learns what matters of its
facts. -/
theorem learns_of_prepare {lint : Lint} (steady : lint.IsSteady) {module : Module} {rule : Rule}
    {needed : List Query} {result : Except QueryError Facts} {next : Session}
    (skip : lint.skipReason? module (lint.sessionAfter needed).isAvailable rule = none)
    (prepared : rule.check.prepare (lint.sessionAfter needed) = (result, next)) :
    rule.check.learns lint.answer? = result.toOption.map Facts.gist := by
  rw [isAvailable_sessionAfter, skipReason?_eq_none_iff] at skip
  rw [← gist_prepare_sessionAfter steady skip needed, prepared]

/-- A rule that stands alike in two runs ends alike in them, after any other rules. -/
theorem Ends.agree {first second : Lint} {rule : Rule} (shares : first.Shares second rule)
    (steady : first.IsSteady) {module : Module} {needed others : List Query}
    {outcome outcome' : Outcome} {issues issues' : List Issue} {next next' : Session}
    (one : first.Ends module rule (first.sessionAfter needed) (.ok (outcome, issues)) next)
    (two : second.Ends module rule (second.sessionAfter others) (.ok (outcome', issues')) next') :
    outcome.Agrees outcome' ∧ issues = issues' := by
  have skips : first.skipReason? module (first.sessionAfter needed).isAvailable rule =
      second.skipReason? module (second.sessionAfter others).isAvailable rule := by
    rw [isAvailable_sessionAfter, isAvailable_sessionAfter, shares.isDeep, shares.skipReason?]
  have steady' := shares.isSteady steady
  cases one with
  | skipped skip =>
      cases two with
      | skipped skip' =>
          rw [skips, skip'] at skip
          cases skip
          exact ⟨.skipped _, rfl⟩
      | failed skip' _ =>
          rw [skips, skip'] at skip
          cases skip
      | completed skip' _ _ =>
          rw [skips, skip'] at skip
          cases skip
  | failed skip prepared =>
      have learnt := learns_of_prepare steady skip prepared
      rw [shares.answer?] at learnt
      cases two with
      | skipped skip' =>
          rw [skips, skip'] at skip
          cases skip
      | failed _ _ => exact ⟨.failed _ _, rfl⟩
      | completed skip' prepared' _ =>
          rw [learns_of_prepare steady' skip' prepared'] at learnt
          cases learnt
  | completed skip prepared level =>
      have learnt := learns_of_prepare steady skip prepared
      rw [shares.answer?] at learnt
      cases two with
      | skipped skip' =>
          rw [skips, skip'] at skip
          cases skip
      | failed skip' prepared' =>
          rw [learns_of_prepare steady' skip' prepared'] at learnt
          cases learnt
      | completed skip' prepared' level' =>
          rw [learns_of_prepare steady' skip' prepared'] at learnt
          rw [shares.severity, level'] at level
          cases level
          rw [reported_congr shares module (Option.some.inj learnt).symm]
          exact ⟨.completed _, rfl⟩

/-! ## What a report says on one rule -/

end Lint

namespace ModuleReport

/-- The outcomes of the rule with a given name. -/
def outcomesOf (report : ModuleReport) (name : String) : List Outcome :=
  (report.outcomes.filter (·.rule == name)).map (·.outcome)

/-- The issues of the rule with a given name. -/
def issuesOf (report : ModuleReport) (name : String) : List Issue :=
  report.issues.filter (·.rule == name)

end ModuleReport

namespace Lint

variable {lint : Lint} {module : Module}

/-- What a rule of a module has reported is how it ended after the rules before it. -/
structure Entry (lint : Lint) (module : Module) (rule : Rule) (entry : RuleReport × List Issue) :
    Prop where
  name : entry.1.rule = rule.name
  ends : ∃ needed next,
    lint.Ends module rule (lint.sessionAfter needed) (.ok (entry.1.outcome, entry.2)) next

/-- An entry carries the name of a rule throughout. -/
structure Named (rule : Rule) (entry : RuleReport × List Issue) : Prop where
  rule_eq : entry.1.rule = rule.name
  issues : ∀ issue ∈ entry.2, issue.rule = rule.name

theorem Entry.named {rule : Rule} {entry : RuleReport × List Issue}
    (made : lint.Entry module rule entry) : Named rule entry := by
  obtain ⟨needed, next, ends⟩ := made.ends
  exact ⟨made.name, fun issue member => ends.accounts.issue_name member⟩

theorem runRules_entries (steady : lint.IsSteady) {rules : List Rule} {needed : List Query}
    {reports : List (RuleReport × List Issue)} {last : Session}
    (ran : lint.runRules module rules (lint.sessionAfter needed) = (.ok reports, last)) :
    List.Forall₂ (lint.Entry module) rules reports := by
  induction rules generalizing needed reports with
  | nil =>
      cases ran
      exact .nil
  | cons rule rest ih =>
      obtain ⟨outcome, issues, next, others, first, rests, rfl⟩ := runRules_cons_ok_iff.1 ran
      have ends := Ends.of_runRule first
      refine .cons ⟨rfl, needed, next, ends⟩ ?_
      rw [ends.sessionAfter_eq steady] at rests
      exact ih rests

/-- Issues of an entry under a given name: all of them or none. -/
theorem Named.filter_issues {rule : Rule} {entry : RuleReport × List Issue}
    (named : Named rule entry) (name : String) :
    entry.2.filter (·.rule == name) = if rule.name = name then entry.2 else [] := by
  split
  · next same =>
    refine List.filter_eq_self.2 fun issue member => ?_
    rw [named.issues issue member, same, beq_self_eq_true]
  · next other =>
    refine List.filter_eq_nil_iff.2 fun issue member => ?_
    rw [named.issues issue member, beq_iff_eq]
    exact other

/-- Nothing is reported under a name that no rule has. -/
theorem filter_entries_of_fresh {rules : List Rule} {reports : List (RuleReport × List Issue)}
    (entries : List.Forall₂ Named rules reports) {name : String}
    (fresh : name ∉ rules.map (·.name)) :
    (reports.map (·.1)).filter (·.rule == name) = [] ∧
      (reports.flatMap (·.2)).filter (·.rule == name) = [] := by
  induction entries with
  | nil => exact ⟨rfl, rfl⟩
  | @cons rule entry rest others named _ ih =>
      rw [List.map_cons, List.mem_cons, not_or] at fresh
      obtain ⟨outcomes, issues⟩ := ih fresh.2
      have other : rule.name ≠ name := fun same => fresh.1 same.symm
      constructor
      · rw [List.map_cons, List.filter_cons_of_neg (by rw [named.rule_eq]; simpa using other),
          outcomes]
      · rw [List.flatMap_cons, List.filter_append, issues, named.filter_issues, if_neg other]
        rfl

/-- Under the name of a rule stands the entry of that rule alone, if no other has the name. -/
theorem exists_entry_of_name {made : Rule → RuleReport × List Issue → Prop}
    (named : ∀ {rule entry}, made rule entry → Named rule entry) {rules : List Rule}
    {reports : List (RuleReport × List Issue)} (distinct : (rules.map (·.name)).Nodup)
    (entries : List.Forall₂ made rules reports) {rule : Rule} (member : rule ∈ rules) :
    ∃ entry, made rule entry ∧
      (reports.map (·.1)).filter (·.rule == rule.name) = [entry.1] ∧
      (reports.flatMap (·.2)).filter (·.rule == rule.name) = entry.2 := by
  induction entries with
  | nil => cases member
  | @cons first entry rest others firstMade below ih =>
      rw [List.map_cons, List.nodup_cons] at distinct
      have firstNamed := named firstMade
      rw [List.map_cons, List.flatMap_cons, List.filter_append, firstNamed.filter_issues]
      rcases List.mem_cons.1 member with rfl | later
      · obtain ⟨outcomes, issues⟩ :=
          filter_entries_of_fresh (below.imp fun _ _ => named) distinct.1
        refine ⟨entry, firstMade, ?_, ?_⟩
        · rw [List.filter_cons_of_pos (by rw [firstNamed.rule_eq]; simp), outcomes]
        · rw [issues, if_pos rfl, List.append_nil]
      · obtain ⟨found, foundMade, outcomes, issues⟩ := ih distinct.2 later
        have other : first.name ≠ rule.name := by
          intro same
          exact distinct.1 (same ▸ List.mem_map_of_mem later)
        refine ⟨found, foundMade, ?_, ?_⟩
        · rw [List.filter_cons_of_neg (by rw [firstNamed.rule_eq]; simpa using other), outcomes]
        · rw [issues, if_neg other, List.nil_append]

/-- The report on a module holds one entry of each rule under its name. -/
theorem runModule_entry (steady : lint.IsSteady) (valid : lint.IsValid)
    (built : lint.registry.IsBuilt) {rule : Rule} (member : rule ∈ lint.registry.rules)
    (module : Module) (sent : List Query) :
    ∃ report last entry, lint.runModule module sent = (.ok report, last) ∧
      lint.Entry module rule entry ∧ report.outcomesOf rule.name = [entry.1.outcome] ∧
      report.issuesOf rule.name = entry.2 := by
  obtain ⟨reports, session, ran⟩ :=
    exists_runRules_eq_ok valid module lint.registry.rules (lint.session [])
  have alone := runModule_ok_iff.2 ⟨reports, session, ran, rfl, rfl⟩
  have entries := runRules_entries steady (sessionAfter_nil ▸ ran)
  obtain ⟨entry, made, outcomes, issues⟩ := exists_entry_of_name Entry.named
    built.nodup_names entries member
  refine ⟨⟨reports.flatMap (·.2), reports.map (·.1), session.roundTrips⟩, sent ++ session.sent,
    entry, ?_, made, ?_, ?_⟩
  · rw [runModule_eq steady, alone]
  · rw [ModuleReport.outcomesOf, outcomes]
    rfl
  · rw [ModuleReport.issuesOf, issues]

/-- Rules do not influence one another: a rule that stands alike in two runs has one outcome in a
module under either of them, the same but for the text of a failure, and the same issues, whatever
the other rules of the runs are, in whatever order they come and whatever becomes of them. -/
theorem runModule_rule_unaffected {first second : Lint} {rule : Rule}
    (steady : first.IsSteady) (validFirst : first.IsValid) (validSecond : second.IsValid)
    (builtFirst : first.registry.IsBuilt) (builtSecond : second.registry.IsBuilt)
    (inFirst : rule ∈ first.registry.rules) (inSecond : rule ∈ second.registry.rules)
    (shares : first.Shares second rule) (module : Module) (sent earlier : List Query) :
    ∃ report last report' last' outcome outcome',
      first.runModule module sent = (.ok report, last) ∧
      second.runModule module earlier = (.ok report', last') ∧
      report.issuesOf rule.name = report'.issuesOf rule.name ∧
      report.outcomesOf rule.name = [outcome] ∧ report'.outcomesOf rule.name = [outcome'] ∧
      outcome.Agrees outcome' := by
  obtain ⟨report, last, entry, ran, made, outcomes, issues⟩ :=
    runModule_entry steady validFirst builtFirst inFirst module sent
  obtain ⟨report', last', entry', ran', made', outcomes', issues'⟩ :=
    runModule_entry (shares.isSteady steady) validSecond builtSecond inSecond module earlier
  obtain ⟨needed, next, ends⟩ := made.ends
  obtain ⟨others, next', ends'⟩ := made'.ends
  obtain ⟨agree, same⟩ := Ends.agree shares steady ends ends'
  refine ⟨report, last, report', last', entry.1.outcome, entry'.1.outcome, ran, ran', ?_,
    outcomes, outcomes', agree⟩
  rw [issues, issues', same]

/-- A deep check with some rules, when the provider refuses to tell the machine images. -/
def refused (rules : List Rule) : Lint where
  registry := .ofRules rules
  settings := { Settings.default with deepCheck := true }
  state := .empty
  provider := some (Canned.provider ⟨[], [(.imageIds, "denied")]⟩)

/-- A module with two resources that name machine images. -/
def imageModule : Module :=
  .ofFiles "" [⟨"main.tf", [], [.bare "aws_launch_configuration" "web" "main.tf" 1,
    .bare "aws_instance" "web" "main.tf" 3], []⟩] .empty

/-- The rule on the images of virtual machines fails alone, and fails in the same way when another
rule has met the refusal before it. -/
theorem runModule_rule_unaffected_refused :
    ∃ rule other, rule.name = "aws_instance_invalid_ami" ∧
      other.name = "aws_launch_configuration_invalid_image_id" ∧
      ∃ report last report' last' outcome outcome',
        (refused [rule]).runModule imageModule [] = (.ok report, last) ∧
        (refused [other, rule]).runModule imageModule [.imageIds] = (.ok report', last') ∧
        report.issuesOf rule.name = report'.issuesOf rule.name ∧
        report.outcomesOf rule.name = [outcome] ∧ report'.outcomesOf rule.name = [outcome'] ∧
        outcome.Agrees outcome' := by
  let rule : Rule :=
    .reference "aws_instance_invalid_ami" "aws_instance" "ami" .imageIds .scalar "AMI ID"
  let other : Rule :=
    .reference "aws_launch_configuration_invalid_image_id" "aws_launch_configuration" "image_id"
      .imageIds .scalar "AMI ID"
  have steady : (refused [rule]).IsSteady := by
    intro provider given
    cases given
    exact fun _ _ => rfl
  have shares : (refused [rule]).Shares (refused [other, rule]) rule := ⟨rfl, rfl, rfl, rfl, rfl⟩
  exact ⟨rule, other, rfl, rfl,
    runModule_rule_unaffected steady ⟨_, rfl⟩ ⟨_, rfl⟩ ⟨_, rfl⟩ ⟨_, rfl⟩ (by decide) (by decide)
      shares imageModule [] [.imageIds]⟩

end Lint

end InfraLint
