import InfraLint.Proofs.Books
import InfraLint.Proofs.Failure
import InfraLint.Proofs.Registration
import InfraLint.Proofs.Session

/-!
# Deep checks and others

A run that is not deep is the part of the deep run that needs no provider.  The settings tell a deep
run from another one only by the session that a module gets, so the proof compares one and the same
pass over the rules in two sessions.  A rule that asks nothing ends alike in every session and leaves
it as it is (`Lint.runRule_of_quiet`).  A rule that asks is skipped in a session without a provider
(`Lint.runRule_offline`), and what it reports in another one carries its name.  Pairing the entries
of the two passes (`Lint.Pared`) and going up from rules to modules and to the tree gives the
statement on whole runs.  Nothing is assumed of the provider: it may refuse and change its mind.
-/

namespace InfraLint

/-- Whether the rule with a given name asks the provider. -/
def Registry.asks (registry : Registry) (name : String) : Bool :=
  (registry.get? name).any (·.needsProvider)

theorem Registry.IsBuilt.asks_name {registry : Registry} (built : registry.IsBuilt) {rule : Rule}
    (member : rule ∈ registry.rules) : registry.asks rule.name = rule.needsProvider := by
  rw [asks, built.get?_name member, Option.any_some]

namespace Lint

/-- The run with deep checks on or off, and otherwise as it is. -/
def atDepth (lint : Lint) (deep : Bool) : Lint :=
  { lint with settings := { lint.settings with deepCheck := deep } }

/-- The run with another provider, or with none. -/
def withProvider (lint : Lint) (provider : Option Provider) : Lint :=
  { lint with provider := provider }

variable {lint : Lint} {module : Module}

theorem IsValid.atDepth (valid : lint.IsValid) (deep : Bool) : (lint.atDepth deep).IsValid := valid

theorem IsValid.withProvider (valid : lint.IsValid) (provider : Option Provider) :
    (lint.withProvider provider).IsValid := valid

/-- The rules of a module do not look at the depth themselves. -/
theorem runRules_atDepth (deep : Bool) (rules : List Rule) (session : Session) :
    (lint.atDepth deep).runRules module rules session = lint.runRules module rules session := by
  induction rules generalizing session with
  | nil => rfl
  | cons rule rest ih =>
      have same : (lint.atDepth deep).runRule module rule session =
        lint.runRule module rule session := rfl
      simp only [runRules, same, ih]

theorem runRules_withProvider (provider : Option Provider) (rules : List Rule)
    (session : Session) :
    (lint.withProvider provider).runRules module rules session =
      lint.runRules module rules session := by
  induction rules generalizing session with
  | nil => rfl
  | cons rule rest ih =>
      have same : (lint.withProvider provider).runRule module rule session =
        lint.runRule module rule session := rfl
      simp only [runRules, same, ih]

theorem session_shallow (provider : Option Provider) (sent : List Query) :
    ((lint.withProvider provider).atDepth false).session sent = .offline sent := by
  cases provider <;> rfl

/-! ## One rule in two sessions -/

/-- A rule that asks nothing ends alike in every session and leaves it as it is. -/
theorem runRule_of_quiet {rule : Rule} (quiet : rule.needsProvider = false)
    (session other : Session) :
    lint.runRule module rule session = ((lint.runRule module rule other).1, session) := by
  have unasked : ∀ isAvailable, lint.skipReason? module isAvailable rule =
      lint.skipReason? module true rule := by
    intro isAvailable
    simp only [skipReason?, quiet, Bool.false_and]
  have learnt := Check.prepare_of_not_needsProvider quiet
  simp only [runRule, unasked]
  cases lint.skipReason? module true rule with
  | some reason => rfl
  | none => simp only [runChosen, RuleRun.prepare_start_of_ok (learnt _)]

/-- A rule that asks is skipped where there is nobody to ask. -/
theorem runRule_offline {rule : Rule} (asks : rule.needsProvider = true) (sent : List Query) :
    lint.runRule module rule (.offline sent) =
      (.ok (.skipped (if lint.settings.isRuleEnabled rule.name rule.enabledByDefault then
        .deepCheckDisabled else .disabled), []), .offline sent) := by
  have skip : lint.skipReason? module false rule =
      some (if lint.settings.isRuleEnabled rule.name rule.enabledByDefault then
        .deepCheckDisabled else .disabled) := by
    unfold skipReason?
    cases lint.settings.isRuleEnabled rule.name rule.enabledByDefault <;> simp [asks]
  have available : (Session.offline sent).isAvailable = false := rfl
  simp only [runRule, available, skip]

/-- What a rule has reported without a provider and what it has reported in another session. -/
structure Pared (lint : Lint) (rule : Rule) (shallow deep : RuleReport × List Issue) : Prop where
  rule_eq : shallow.1.rule = rule.name
  rule_eq' : deep.1.rule = rule.name
  module_eq : shallow.1.module = deep.1.module
  /-- Without a provider, a rule that asks has no issues. -/
  issues_of_asks : rule.needsProvider = true → shallow.2 = []
  outcome_of_asks : rule.needsProvider = true →
    lint.settings.isRuleEnabled rule.name rule.enabledByDefault = true →
      shallow.1.outcome = .skipped .deepCheckDisabled
  /-- A rule that asks nothing reports the same. -/
  eq_of_quiet : rule.needsProvider = false → shallow = deep
  issue_name : ∀ issue ∈ deep.2, issue.rule = rule.name

/-- One rule in a session without a provider and in any other one. -/
theorem exists_pared (valid : lint.IsValid) (module : Module) (rule : Rule) (session : Session) :
    ∃ outcome issues outcome' issues' next,
      (∀ sent, lint.runRule module rule (.offline sent) =
        (.ok (outcome, issues), .offline sent)) ∧
      lint.runRule module rule session = (.ok (outcome', issues'), next) ∧
      lint.Pared rule (⟨rule.name, module.displayName, outcome⟩, issues)
        (⟨rule.name, module.displayName, outcome'⟩, issues') := by
  obtain ⟨outcome', issues', next, ran⟩ := exists_runRule_eq_ok valid module rule session
  have named : ∀ issue ∈ issues', issue.rule = rule.name := fun issue member =>
    (Ends.of_runRule ran).accounts.issue_name member
  cases asks : rule.needsProvider with
  | true =>
      refine ⟨_, _, outcome', issues', next, runRule_offline asks, ran, rfl, rfl, rfl,
        fun _ => rfl, fun _ enabled => ?_, fun quiet => ?_, named⟩
      · simp only [enabled, if_true]
      · rw [asks] at quiet
        cases quiet
  | false =>
      refine ⟨outcome', issues', outcome', issues', next, fun sent => ?_, ran, rfl, rfl, rfl,
        fun asked => ?_, fun asked => ?_, fun _ => rfl, named⟩
      · rw [runRule_of_quiet asks _ session, ran]
      · rw [asks] at asked
        cases asked
      · rw [asks] at asked
        cases asked

/-! ## Rules, modules and trees -/

/-- The rules of a module one after the other, without a provider and in any other session. -/
theorem exists_runRules_pared (valid : lint.IsValid) (module : Module) (rules : List Rule)
    (session : Session) :
    ∃ shallow deep last,
      (∀ sent, lint.runRules module rules (.offline sent) = (.ok shallow, .offline sent)) ∧
      lint.runRules module rules session = (.ok deep, last) ∧
      List.Forall₂ (fun part whole => ∃ rule ∈ rules, lint.Pared rule part whole)
        shallow deep := by
  induction rules generalizing session with
  | nil => exact ⟨[], [], session, fun _ => rfl, rfl, .nil⟩
  | cons rule rest ih =>
      obtain ⟨outcome, issues, outcome', issues', next, offline, ran, pared⟩ :=
        exists_pared valid module rule session
      obtain ⟨shallow, deep, last, offlines, rans, below⟩ := ih next
      refine ⟨_, _, last, fun sent => runRules_cons_ok_iff.2
          ⟨outcome, issues, _, shallow, offline sent, offlines sent, rfl⟩,
        runRules_cons_ok_iff.2 ⟨outcome', issues', next, deep, ran, rans, rfl⟩, .cons ?_ ?_⟩
      · exact ⟨rule, List.mem_cons_self, pared⟩
      · exact below.imp fun part whole ⟨other, member, both⟩ =>
          ⟨other, List.mem_cons_of_mem rule member, both⟩

/-- The outcomes and issues of a report are the part that needs no provider of those of another
report. -/
structure QuietPart (lint : Lint) (ended : List RuleReport) (found : List Issue)
    (allEnded : List RuleReport) (allFound : List Issue) : Prop where
  outcomes : List.Forall₂
    (fun part whole => part.module = whole.module ∧ part.rule = whole.rule ∧
      (lint.registry.asks part.rule = false → part.outcome = whole.outcome)) ended allEnded
  skipped : ∀ rule ∈ lint.registry.rules, rule.needsProvider = true →
    lint.settings.isRuleEnabled rule.name rule.enabledByDefault = true →
      ∀ done ∈ ended, done.rule = rule.name → done.outcome = .skipped .deepCheckDisabled
  issues : found = allFound.filter fun issue => !lint.registry.asks issue.rule

theorem QuietPart.nil : lint.QuietPart [] [] [] [] := by
  refine ⟨.nil, ?_, rfl⟩
  intro rule _ _ _ done member
  cases member

/-- Parts of reports one after the other. -/
theorem QuietPart.append {ended allEnded ended' allEnded' : List RuleReport}
    {found allFound found' allFound' : List Issue}
    (first : lint.QuietPart ended found allEnded allFound)
    (second : lint.QuietPart ended' found' allEnded' allFound') :
    lint.QuietPart (ended ++ ended') (found ++ found') (allEnded ++ allEnded')
      (allFound ++ allFound') := by
  refine ⟨List.rel_append first.outcomes second.outcomes, ?_, ?_⟩
  · intro rule registered asks enabled done member
    rcases List.mem_append.1 member with early | late
    · exact first.skipped rule registered asks enabled done early
    · exact second.skipped rule registered asks enabled done late
  · rw [List.filter_append, ← first.issues, ← second.issues]

/-- The entries of one rule. -/
theorem Pared.quietPart (built : lint.registry.IsBuilt) {rule : Rule}
    (member : rule ∈ lint.registry.rules) {part whole : RuleReport × List Issue}
    (pared : lint.Pared rule part whole) :
    lint.QuietPart [part.1] part.2 [whole.1] whole.2 := by
  have asked := built.asks_name member
  have marked : ∀ issue ∈ whole.2, lint.registry.asks issue.rule = rule.needsProvider := by
    intro issue found
    rw [pared.issue_name issue found, asked]
  refine ⟨.cons ⟨pared.module_eq, ?_, ?_⟩ .nil, ?_, ?_⟩
  · rw [pared.rule_eq, pared.rule_eq']
  · intro quiet
    rw [pared.rule_eq, asked] at quiet
    rw [pared.eq_of_quiet quiet]
  · intro other registered asks enabled done there named
    rw [List.mem_singleton.1 there, pared.rule_eq] at named
    rw [List.mem_singleton.1 there]
    have same : rule = other :=
      List.inj_on_of_nodup_map built.nodup_names member registered named
    subst same
    exact pared.outcome_of_asks asks enabled
  · cases asks : rule.needsProvider with
    | true =>
        rw [pared.issues_of_asks asks]
        refine (List.filter_eq_nil_iff.2 fun issue found => ?_).symm
        rw [marked issue found, asks]
        exact Bool.false_ne_true
    | false =>
        rw [pared.eq_of_quiet asks]
        refine (List.filter_eq_self.2 fun issue found => ?_).symm
        rw [marked issue found, asks]
        rfl

/-- The entries of the rules of a module. -/
theorem quietPart_of_forall₂ (built : lint.registry.IsBuilt)
    {shallow deep : List (RuleReport × List Issue)}
    (pared : List.Forall₂
      (fun part whole => ∃ rule ∈ lint.registry.rules, lint.Pared rule part whole) shallow deep) :
    lint.QuietPart (shallow.map (·.1)) (shallow.flatMap (·.2)) (deep.map (·.1))
      (deep.flatMap (·.2)) := by
  induction pared with
  | nil => exact .nil
  | cons first _ ih =>
      obtain ⟨rule, member, both⟩ := first
      exact (both.quietPart built member).append ih

/-- One module, not deep with any provider and deep with a given one. -/
theorem exists_runModule_quietPart (valid : lint.IsValid) (built : lint.registry.IsBuilt)
    (module : Module) (sent : List Query) :
    ∃ shallow deep last,
      (∀ provider earlier, ((lint.withProvider provider).atDepth false).runModule module earlier =
        (.ok shallow, earlier)) ∧
      (lint.atDepth true).runModule module sent = (.ok deep, last) ∧
      lint.QuietPart shallow.outcomes shallow.issues deep.outcomes deep.issues := by
  obtain ⟨shallow, deep, last, offline, ran, pared⟩ := exists_runRules_pared valid module
    lint.registry.rules ((lint.atDepth true).session sent)
  refine ⟨⟨shallow.flatMap (·.2), shallow.map (·.1), 0⟩,
    ⟨deep.flatMap (·.2), deep.map (·.1), last.roundTrips⟩, last.sent, ?_, ?_,
    quietPart_of_forall₂ built pared⟩
  · intro provider earlier
    refine runModule_ok_iff.2 ⟨shallow, .offline earlier, ?_, rfl, rfl⟩
    rw [session_shallow, runRules_atDepth, runRules_withProvider]
    exact offline earlier
  · refine runModule_ok_iff.2 ⟨deep, last, ?_, rfl, rfl⟩
    rw [runRules_atDepth]
    exact ran

/-- Modules one after the other. -/
theorem exists_runEach_quietPart (valid : lint.IsValid) (built : lint.registry.IsBuilt)
    (modules : List Module) (sent : List Query) :
    ∃ shallow deep last,
      (∀ provider earlier, ((lint.withProvider provider).atDepth false).runEach modules earlier =
        (.ok shallow, earlier)) ∧
      (lint.atDepth true).runEach modules sent = (.ok deep, last) ∧
      lint.QuietPart (shallow.flatMap (·.outcomes)) (shallow.flatMap (·.issues))
        (deep.flatMap (·.outcomes)) (deep.flatMap (·.issues)) := by
  induction modules generalizing sent with
  | nil => exact ⟨[], [], sent, fun _ _ => rfl, rfl, .nil⟩
  | cons module rest ih =>
      obtain ⟨shallow, deep, next, offline, ran, part⟩ :=
        exists_runModule_quietPart valid built module sent
      obtain ⟨shallows, deeps, last, offlines, rans, parts⟩ := ih next
      refine ⟨shallow :: shallows, deep :: deeps, last, fun provider earlier => ?_, ?_,
        part.append parts⟩
      · exact runEach_cons_ok_iff.2
          ⟨shallow, earlier, shallows, offline provider earlier, offlines provider earlier, rfl⟩
      · exact runEach_cons_ok_iff.2 ⟨deep, next, deeps, ran, rans, rfl⟩

/-- A run that is not deep sends nothing and reports the same with every provider and with none.  Its
issues are those of the deep run whose rules ask nothing, in order.  In every module the rules that
ask nothing end as in the deep run, and the enabled ones that ask are skipped because the run is not
deep. -/
theorem run_shallow_quietPart (valid : lint.IsValid) (built : lint.registry.IsBuilt)
    (root : Module) (sent : List Query) :
    ∃ shallow deep last,
      (∀ provider earlier, ((lint.withProvider provider).atDepth false).run root earlier =
        (.ok shallow, earlier)) ∧
      (lint.atDepth true).run root sent = (.ok deep, last) ∧
      shallow.issues = (deep.issues.filter fun issue => !lint.registry.asks issue.rule) ∧
      List.Forall₂
        (fun part whole => part.module = whole.module ∧ part.rule = whole.rule ∧
          (lint.registry.asks part.rule = false → part.outcome = whole.outcome))
        shallow.outcomes deep.outcomes ∧
      (shallow.outcomes.map fun done => (done.module, done.rule)) =
        (root.preorder.flatMap fun module =>
          lint.registry.rules.map fun rule => (module.displayName, rule.name)) ∧
      ∀ rule ∈ lint.registry.rules, rule.needsProvider = true →
        lint.settings.isRuleEnabled rule.name rule.enabledByDefault = true →
          ∀ done ∈ shallow.outcomes, done.rule = rule.name →
            done.outcome = .skipped .deepCheckDisabled := by
  obtain ⟨shallow, deep, last, offline, ran, part⟩ :=
    exists_runEach_quietPart valid built root.preorder sent
  have listed := map_outcomes_flatMap ((forall₂_of_runEach (offline none [])).imp
    fun module report ⟨_, _, checked⟩ => books_of_runModule checked)
  refine ⟨.ofModules shallow, .ofModules deep, last, fun provider earlier => ?_, ?_, ?_, ?_, ?_, ?_⟩
  · exact run_of_runEach ((valid.withProvider provider).atDepth false) (offline provider earlier)
  · exact run_of_runEach (valid.atDepth true) ran
  · rw [Report.issues_ofModules, Report.issues_ofModules]
    exact part.issues
  · rw [Report.outcomes_ofModules, Report.outcomes_ofModules]
    exact part.outcomes
  · rw [Report.outcomes_ofModules]
    exact listed
  · rw [Report.outcomes_ofModules]
    exact part.skipped

/-- The small configuration: the rule on routes is all that is left without the provider. -/
theorem run_shallow_quietPart_small :
    ∃ shallow deep last,
      (Lint.small.atDepth false).run .small [] = (.ok shallow, []) ∧
      (Lint.small.atDepth true).run .small [] = (.ok deep, last) ∧
      shallow.issues = deep.issues.filter fun issue => !Lint.small.registry.asks issue.rule := by
  have valid : Lint.small.IsValid := ⟨_, rfl⟩
  have built : Lint.small.registry.IsBuilt := ⟨_, rfl⟩
  obtain ⟨shallow, deep, last, offline, ran, issues, -⟩ :=
    run_shallow_quietPart valid built .small []
  exact ⟨shallow, deep, last, offline Lint.small.provider [], ran, issues⟩

end Lint

end InfraLint
