import InfraLint.Proofs.Failure
import InfraLint.Proofs.Independence

/-!
# The questions of a run

Which questions a run sends can be told without running it: in each module, those that the rules
that run there need, in the order of the rules, each at the place where it is needed first
(`Lint.moduleQueries`).  The proof follows the session of a module from rule to rule.  Before each
rule the session is the one in which the rules so far have asked what they need
(`Session.having`), and a rule that is skipped leaves it alone.  A module without a session with
the provider sends nothing, and needs nothing either, since then no rule runs that asks.
-/

namespace InfraLint

/-- The first question of a check on names within an attribute. -/
def Check.withinQuery? : Check → Option Query
  | unique query _ (some _) => some query
  | _ => none

namespace Lint

variable (lint : Lint) (module : Module)

/-! ## What is needed -/

/-- Whether a run can ask the provider. -/
def isDeep : Bool := lint.settings.deepCheck && lint.provider.isSome

/-- Whether a rule runs in a module: it is enabled, it asks nothing or there is a provider to ask,
and the module has a resource of its type. -/
def runsIn (rule : Rule) : Bool :=
  lint.settings.isRuleEnabled rule.name rule.enabledByDefault &&
    (!rule.needsProvider || lint.isDeep) && module.hasResources rule.resourceType

/-- Whether the provider of a run answers a question. -/
def isAnswered (query : Query) : Bool :=
  match lint.provider with
  | some provider => (provider [] query).isOk
  | none => false

/-- The questions that the rules need which run in a module, in the order of the rules. -/
def neededBy (rules : List Rule) : List Query :=
  (rules.filter (lint.runsIn module)).flatMap fun rule => rule.check.needs lint.isAnswered

/-- The questions that a run sends for a module. -/
def moduleQueries : List Query := (lint.neededBy module lint.registry.rules).eraseDups

variable {lint module}

/-- There is no reason to skip a rule exactly if it runs. -/
theorem skipReason?_eq_none_iff {rule : Rule} :
    lint.skipReason? module lint.isDeep rule = none ↔ lint.runsIn module rule = true := by
  unfold skipReason? runsIn
  cases lint.settings.isRuleEnabled rule.name rule.enabledByDefault <;>
    cases rule.needsProvider <;> cases lint.isDeep <;>
      cases module.hasResources rule.resourceType <;> simp

theorem neededBy_singleton (rule : Rule) :
    lint.neededBy module [rule] =
      if lint.runsIn module rule then rule.check.needs lint.isAnswered else [] := by
  cases runs : lint.runsIn module rule <;> simp [neededBy, runs]

theorem neededBy_cons (rule : Rule) (rest : List Rule) :
    lint.neededBy module (rule :: rest) =
      lint.neededBy module [rule] ++ lint.neededBy module rest := by
  cases runs : lint.runsIn module rule <;> simp [neededBy, runs]

theorem not_needsProvider_of_runsIn {rule : Rule} (shallow : lint.isDeep = false)
    (runs : lint.runsIn module rule = true) : rule.check.needsProvider = false := by
  simpa [runsIn, shallow, Rule.needsProvider] using (Bool.and_eq_true_iff.1
    (Bool.and_eq_true_iff.1 runs).1).2

/-- Nothing is needed when there is no provider to ask. -/
theorem neededBy_eq_nil (shallow : lint.isDeep = false) (rules : List Rule) :
    lint.neededBy module rules = [] := by
  refine List.flatMap_eq_nil_iff.2 fun rule member => ?_
  have runs := (List.mem_filter.1 member).2
  exact Check.needs_of_not_needsProvider (not_needsProvider_of_runsIn shallow runs) _

/-! ## The session of a module -/

/-- The session of a module in which some questions were needed so far. -/
def sessionAfter (lint : Lint) (needed : List Query) : Session :=
  match lint.provider with
  | some provider => if lint.settings.deepCheck then .having provider needed else .offline []
  | none => .offline []

theorem sessionAfter_nil : lint.sessionAfter [] = lint.session [] := rfl

theorem sessionAfter_of_deep {provider : Provider} (given : lint.provider = some provider)
    (deep : lint.settings.deepCheck = true) (needed : List Query) :
    lint.sessionAfter needed = .having provider needed := by
  simp only [sessionAfter, given, deep, if_true]

theorem sessionAfter_of_shallow (shallow : lint.isDeep = false) (needed : List Query) :
    lint.sessionAfter needed = .offline [] := by
  unfold sessionAfter
  split
  · next given =>
    split
    · next deep => simp [isDeep, given, deep] at shallow
    · rfl
  · rfl

/-- A run is deep with a provider, or it is not deep. -/
theorem deep_cases (lint : Lint) :
    (∃ provider, lint.provider = some provider ∧ lint.settings.deepCheck = true ∧
      lint.isDeep = true) ∨ lint.isDeep = false := by
  unfold isDeep
  cases lint.provider <;> cases lint.settings.deepCheck <;> simp

theorem isAvailable_sessionAfter (needed : List Query) :
    (lint.sessionAfter needed).isAvailable = lint.isDeep := by
  rcases lint.deep_cases with ⟨provider, given, deep, isDeep⟩ | shallow
  · rw [sessionAfter_of_deep given deep, isDeep]
    rfl
  · rw [sessionAfter_of_shallow shallow, shallow]
    rfl

/-- A check that runs takes the session to the one in which its questions are needed too. -/
theorem prepare_sessionAfter (steady : lint.IsSteady) {rule : Rule}
    (runs : lint.runsIn module rule = true) (needed : List Query) :
    (rule.check.prepare (lint.sessionAfter needed)).2 =
      lint.sessionAfter (needed ++ rule.check.needs lint.isAnswered) := by
  rcases lint.deep_cases with ⟨provider, given, deep, -⟩ | shallow
  · have answers : lint.isAnswered = fun query => (provider [] query).isOk := by
      funext query
      simp only [isAnswered, given]
    rw [sessionAfter_of_deep given deep, sessionAfter_of_deep given deep, answers,
      Check.prepare_having (steady provider given)]
  · rw [sessionAfter_of_shallow shallow, sessionAfter_of_shallow shallow,
      Check.prepare_of_not_needsProvider (not_needsProvider_of_runsIn shallow runs)]

/-- One rule: it adds what it needs if it runs, and nothing if it is skipped. -/
theorem Ends.sessionAfter_eq (steady : lint.IsSteady) {rule : Rule} {needed : List Query}
    {result : Except LintError (Outcome × List Issue)} {next : Session}
    (ends : lint.Ends module rule (lint.sessionAfter needed) result next) :
    next = lint.sessionAfter (needed ++ lint.neededBy module [rule]) := by
  -- The three endings other than the first are alike: the rule runs and prepares.
  have ran {learnt : Except QueryError Facts} {next : Session}
      (skip : lint.skipReason? module (lint.sessionAfter needed).isAvailable rule = none)
      (prepared : rule.check.prepare (lint.sessionAfter needed) = (learnt, next)) :
      next = lint.sessionAfter (needed ++ lint.neededBy module [rule]) := by
    rw [isAvailable_sessionAfter, skipReason?_eq_none_iff] at skip
    have after := prepare_sessionAfter steady skip needed
    rw [prepared] at after
    rw [neededBy_singleton, if_pos skip]
    exact after
  cases ends with
  | skipped skip =>
      have idle : lint.runsIn module rule = false := by
        rw [isAvailable_sessionAfter] at skip
        rw [← Bool.not_eq_true, ← skipReason?_eq_none_iff, skip]
        simp
      rw [neededBy_singleton, idle, if_neg Bool.false_ne_true, List.append_nil]
  | failed skip prepared => exact ran skip prepared
  | stopped skip prepared _ => exact ran skip prepared
  | completed skip prepared _ => exact ran skip prepared

/-- All rules of a list: they add what those that run need. -/
theorem runRules_sessionAfter (steady : lint.IsSteady) {rules : List Rule} {needed : List Query}
    {reports : List (RuleReport × List Issue)} {last : Session}
    (ran : lint.runRules module rules (lint.sessionAfter needed) = (.ok reports, last)) :
    last = lint.sessionAfter (needed ++ lint.neededBy module rules) := by
  induction rules generalizing needed reports with
  | nil =>
      cases ran
      simp [neededBy]
  | cons rule rest ih =>
      obtain ⟨outcome, issues, next, others, first, rests, -⟩ := runRules_cons_ok_iff.1 ran
      have step := (Ends.of_runRule first).sessionAfter_eq steady
      rw [step] at rests
      rw [ih rests, List.append_assoc, ← neededBy_cons]

/-! ## The questions of modules -/

/-- The session that the rules of a module leave has sent the questions of the module. -/
theorem sessionAfter_neededBy (lint : Lint) (module : Module) :
    (lint.sessionAfter (lint.neededBy module lint.registry.rules)).sent =
        lint.moduleQueries module ∧
      (lint.sessionAfter (lint.neededBy module lint.registry.rules)).roundTrips =
        (lint.moduleQueries module).length := by
  unfold moduleQueries
  rcases lint.deep_cases with ⟨provider, given, deep, -⟩ | shallow
  · rw [sessionAfter_of_deep given deep]
    exact ⟨rfl, rfl⟩
  · rw [sessionAfter_of_shallow shallow, neededBy_eq_nil shallow]
    exact ⟨rfl, rfl⟩

/-- A module is sent its questions, after all those sent before, and their number is reported. -/
theorem runModule_sends (steady : lint.IsSteady) (valid : lint.IsValid) (module : Module)
    (sent : List Query) :
    ∃ report, lint.runModule module sent = (.ok report, sent ++ lint.moduleQueries module) ∧
      report.roundTrips = (lint.moduleQueries module).length := by
  obtain ⟨reports, last, ran⟩ :=
    exists_runRules_eq_ok valid module lint.registry.rules (lint.session [])
  have after := runRules_sessionAfter steady (sessionAfter_nil ▸ ran)
  rw [List.nil_append] at after
  subst after
  have alone := runModule_ok_iff.2 ⟨reports, _, ran, rfl, rfl⟩
  obtain ⟨sends, counts⟩ := lint.sessionAfter_neededBy module
  rw [runModule_eq steady, alone, sends]
  exact ⟨_, rfl, counts⟩

/-- Modules one after the other are sent their questions one after the other. -/
theorem runEach_sends (steady : lint.IsSteady) (valid : lint.IsValid) (modules : List Module)
    (sent : List Query) :
    ∃ reports, lint.runEach modules sent =
      (.ok reports, sent ++ modules.flatMap lint.moduleQueries) := by
  induction modules generalizing sent with
  | nil => exact ⟨[], by rw [List.flatMap_nil, List.append_nil]; rfl⟩
  | cons module rest ih =>
      obtain ⟨report, checked, -⟩ := runModule_sends steady valid module sent
      obtain ⟨others, rests⟩ := ih (sent ++ lint.moduleQueries module)
      refine ⟨report :: others, runEach_cons_ok_iff.2 ⟨report, _, others, checked, ?_, rfl⟩⟩
      rw [rests, List.flatMap_cons, List.append_assoc]

/-- Of the rules of the catalogue, those on names within an attribute ask for the names of security
groups. -/
theorem query_of_within {rule : Rule} (member : rule ∈ Rule.catalogue) {query : Query}
    {noun attr : String} (within : rule.check = .unique query noun (some attr)) :
    query = .securityGroupNames := by
  have every : ∀ rule ∈ Rule.catalogue, ∀ query ∈ rule.check.withinQuery?,
      query = .securityGroupNames := by decide
  exact every rule member query (by rw [within]; rfl)

/-! ## Which rules run -/

/-- A rule is skipped exactly if it does not run. -/
theorem Ends.skipped_iff {rule : Rule} {session next : Session} {outcome : Outcome}
    {issues : List Issue} (available : session.isAvailable = lint.isDeep)
    (ends : lint.Ends module rule session (.ok (outcome, issues)) next) :
    (∃ reason, outcome = .skipped reason) ↔ lint.runsIn module rule = false := by
  rw [← Bool.not_eq_true, ← skipReason?_eq_none_iff, ← available]
  cases ends with
  | skipped skip => simp [skip]
  | failed skip _ => simp [skip]
  | completed skip _ _ => simp [skip]

/-- What a rule of a module has reported tells how it ended, in a session that asks the provider
exactly if the run does. -/
structure Ended (lint : Lint) (module : Module) (rule : Rule) (entry : RuleReport × List Issue) :
    Prop where
  name : entry.1.rule = rule.name
  ends : ∃ session next, session.isAvailable = lint.isDeep ∧
    lint.Ends module rule session (.ok (entry.1.outcome, entry.2)) next

theorem ended_of_runRules {rules : List Rule} {session last : Session}
    {reports : List (RuleReport × List Issue)} (available : session.isAvailable = lint.isDeep)
    (ran : lint.runRules module rules session = (.ok reports, last)) :
    List.Forall₂ (lint.Ended module) rules reports := by
  induction rules generalizing session reports with
  | nil =>
      cases ran
      exact .nil
  | cons rule rest ih =>
      obtain ⟨outcome, issues, next, others, first, rests, rfl⟩ := runRules_cons_ok_iff.1 ran
      have ends := Ends.of_runRule first
      exact .cons ⟨rfl, session, next, available, ends⟩
        (ih (ends.isAvailable_eq.trans available) rests)

theorem isAvailable_session (sent : List Query) :
    (lint.session sent).isAvailable = lint.isDeep := by
  unfold session isDeep
  cases lint.provider <;> cases lint.settings.deepCheck <;> rfl

/-- In a module exactly the rules are skipped that do not run. -/
theorem runModule_skipped {sent last : List Query} {report : ModuleReport}
    (checked : lint.runModule module sent = (.ok report, last)) :
    List.Forall₂
      (fun rule done =>
        (∃ reason, done.outcome = .skipped reason) ↔ lint.runsIn module rule = false)
      lint.registry.rules report.outcomes := by
  obtain ⟨reports, session, ran, rfl, rfl⟩ := runModule_ok_iff.1 checked
  refine List.forall₂_map_right_iff.2 ((ended_of_runRules (isAvailable_session sent) ran).imp ?_)
  rintro rule entry ⟨-, before, after, available, ends⟩
  exact ends.skipped_iff available

/-! ## The questions of a run -/

/-- The questions that a run sends are those that its modules need, module after module in
depth-first order, and in a module rule after rule, each question where it is needed first.  In
particular no question is sent twice for a module, each is needed by a rule that runs there, and
their number is reported. -/
theorem run_sends_needed_queries (steady : lint.IsSteady) (valid : lint.IsValid) (root : Module)
    (sent : List Query) :
    (∃ report, lint.run root sent =
      (.ok report, sent ++ root.preorder.flatMap lint.moduleQueries)) ∧
    (∀ module earlier, ∃ report,
      lint.runModule module earlier = (.ok report, earlier ++ lint.moduleQueries module) ∧
      report.roundTrips = (lint.moduleQueries module).length ∧
      List.Forall₂
        (fun rule done =>
          (∃ reason, done.outcome = .skipped reason) ↔ lint.runsIn module rule = false)
        lint.registry.rules report.outcomes) ∧
    (∀ module, (lint.moduleQueries module).Nodup ∧
      ∀ query ∈ lint.moduleQueries module, ∃ rule ∈ lint.registry.rules,
        lint.runsIn module rule = true ∧ query ∈ rule.check.needs lint.isAnswered) ∧
    ∀ rule ∈ Rule.catalogue, ∀ query noun attr,
      rule.check = .unique query noun (some attr) → query = .securityGroupNames := by
  refine ⟨?_, ?_, ?_, fun rule member query noun attr => query_of_within member⟩
  · obtain ⟨reports, visited⟩ := runEach_sends steady valid root.preorder sent
    exact ⟨_, run_of_runEach valid visited⟩
  · intro module earlier
    obtain ⟨report, checked, counted⟩ := runModule_sends steady valid module earlier
    exact ⟨report, checked, counted, runModule_skipped checked⟩
  · intro module
    refine ⟨nodup_eraseDups _, fun query member => ?_⟩
    obtain ⟨rule, running, needed⟩ := List.mem_flatMap.1 (List.mem_eraseDups.1 member)
    obtain ⟨registered, runs⟩ := List.mem_filter.1 running
    exact ⟨rule, registered, runs, needed⟩

theorem run_sends_needed_queries_small :
    Lint.small.IsSteady ∧ Lint.small.IsValid ∧
      (∃ report, Lint.small.run .small [] =
        (.ok report, [.imageIds, .securityGroupNames, .defaultVpc, .imageIds])) ∧
      (Lint.small.moduleQueries .small).Nodup := by
  have valid : Lint.small.IsValid := ⟨_, rfl⟩
  obtain ⟨ran, -, distinct, -⟩ := run_sends_needed_queries small_isSteady valid .small []
  exact ⟨small_isSteady, valid, ran, (distinct .small).1⟩

end Lint

end InfraLint
