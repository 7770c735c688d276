import InfraLint.Proofs.Traversal
import Mathlib.Algebra.GroupWithZero.Nat

/-!
# The books of a run

A report holds two lists, the outcomes and the issues, and they agree.  In a module there is one
outcome for each rule, and the issues are made of one segment for each rule, which the outcome
accounts for (`Lint.Books`).  A run over a tree puts the books of its modules one after the other,
so over the whole report the stated numbers of issues add up to the number of issues there are.
-/

namespace InfraLint

/-! ## The books of a module -/

/-- The number of issues that an outcome states. -/
def Outcome.issueCount : Outcome → Nat
  | completed issues => issues
  | failed _ | skipped _ => 0

namespace Lint

variable {lint : Lint} {module : Module}

/-- An outcome accounts for the issues of a rule: a completed rule has as many as it states, each
with its name, its severity under the settings and its page, and any other rule has none. -/
def Accounts (lint : Lint) (rule : Rule) : Outcome → List Issue → Prop
  | .completed stated, issues =>
    issues.length = stated ∧ ∃ severity, lint.severity rule = .ok severity ∧
      ∀ issue ∈ issues,
        issue.rule = rule.name ∧ issue.severity = severity ∧ issue.link = some rule.link
  | .failed _, issues | .skipped _, issues => issues = []

/-- The outcomes and issues of rules in a module: one outcome for each rule in turn, and the issues
that it accounts for before those of the rules after it. -/
inductive Books (lint : Lint) (module : Module) :
    List Rule → List RuleReport → List Issue → Prop where
  | nil : Books lint module [] [] []
  | cons {rule : Rule} {rest : List Rule} {outcome : Outcome} {outcomes : List RuleReport}
      {segment issues : List Issue} :
      lint.Accounts rule outcome segment → Books lint module rest outcomes issues →
      Books lint module (rule :: rest) (⟨rule.name, module.displayName, outcome⟩ :: outcomes)
        (segment ++ issues)

/-- Every ending of a rule is accounted for. -/
theorem Ends.accounts {rule : Rule} {session next : Session} {outcome : Outcome}
    {issues : List Issue} (ends : lint.Ends module rule session (.ok (outcome, issues)) next) :
    lint.Accounts rule outcome issues := by
  cases ends with
  | skipped _ => rfl
  | failed _ _ => rfl
  | @completed facts _ severity _ _ known =>
      refine ⟨rfl, severity, known, fun issue member => ?_⟩
      obtain ⟨finding, -, rfl⟩ := List.mem_map.1 (List.mem_filter.1 member).1
      exact ⟨rfl, rfl, rfl⟩

theorem books_of_runRules {rules : List Rule} {session last : Session}
    {reports : List (RuleReport × List Issue)}
    (ran : lint.runRules module rules session = (.ok reports, last)) :
    lint.Books module rules (reports.map (·.1)) (reports.flatMap (·.2)) := by
  induction rules generalizing session reports with
  | nil =>
      cases ran
      exact .nil
  | cons rule rest ih =>
      obtain ⟨outcome, issues, next, others, first, rests, rfl⟩ := runRules_cons_ok_iff.1 ran
      exact .cons (Ends.of_runRule first).accounts (ih rests)

/-- The report on a module keeps the books of all rules. -/
theorem books_of_runModule {sent last : List Query} {report : ModuleReport}
    (checked : lint.runModule module sent = (.ok report, last)) :
    lint.Books module lint.registry.rules report.outcomes report.issues := by
  obtain ⟨reports, session, ran, rfl, rfl⟩ := runModule_ok_iff.1 checked
  exact books_of_runRules ran

/-! ## What the books say -/

theorem Accounts.issueCount_eq {rule : Rule} {outcome : Outcome} {segment : List Issue}
    (accounts : lint.Accounts rule outcome segment) : outcome.issueCount = segment.length := by
  cases outcome with
  | completed stated => exact accounts.1.symm
  | failed _ => rw [show segment = [] from accounts]; rfl
  | skipped _ => rw [show segment = [] from accounts]; rfl

/-- Every issue that is accounted for carries the name, the severity and the page of the rule. -/
theorem Accounts.marks {rule : Rule} {outcome : Outcome} {segment : List Issue}
    (accounts : lint.Accounts rule outcome segment) {issue : Issue} (member : issue ∈ segment) :
    issue.rule = rule.name ∧ lint.severity rule = .ok issue.severity ∧
      issue.link = some rule.link := by
  cases outcome with
  | completed stated =>
      obtain ⟨-, severity, level, marked⟩ := accounts
      obtain ⟨name, rfl, link⟩ := marked issue member
      exact ⟨name, level, link⟩
  | failed _ =>
      rw [show segment = [] from accounts] at member
      cases member
  | skipped _ =>
      rw [show segment = [] from accounts] at member
      cases member

theorem Accounts.issue_name {rule : Rule} {outcome : Outcome} {segment : List Issue}
    (accounts : lint.Accounts rule outcome segment) {issue : Issue} (member : issue ∈ segment) :
    issue.rule = rule.name :=
  (accounts.marks member).1

namespace Books

variable {rules : List Rule} {outcomes : List RuleReport} {issues : List Issue}

/-- There is one outcome for each rule, in the order of the rules. -/
theorem map_outcomes (books : lint.Books module rules outcomes issues) :
    outcomes.map (fun done => (done.module, done.rule)) =
      rules.map fun rule => (module.displayName, rule.name) := by
  induction books with
  | nil => rfl
  | cons _ _ ih => rw [List.map_cons, List.map_cons, ih]

/-- The stated numbers of issues add up. -/
theorem sum_issueCount (books : lint.Books module rules outcomes issues) :
    (outcomes.map (·.outcome.issueCount)).sum = issues.length := by
  induction books with
  | nil => rfl
  | cons accounts _ ih =>
      rw [List.map_cons, List.sum_cons, ih, accounts.issueCount_eq, List.length_append]

end Books

end Lint

/-! ## The books of a run -/

/-- Every issue has one of the three severities. -/
theorem Report.length_issues (report : Report) :
    report.issues.length = report.count .error + report.count .warning + report.count .notice := by
  unfold count
  induction report.issues with
  | nil => rfl
  | cons issue rest ih =>
      cases severity : issue.severity <;> simp [severity, ih] <;> omega

namespace Lint

variable {lint : Lint} {modules : List Module} {reports : List ModuleReport}

theorem sum_issueCount_flatMap
    (books : List.Forall₂ (fun module report =>
      lint.Books module lint.registry.rules report.outcomes report.issues) modules reports) :
    ((reports.flatMap (·.outcomes)).map (·.outcome.issueCount)).sum =
      (reports.flatMap (·.issues)).length := by
  induction books with
  | nil => rfl
  | cons first _ ih =>
      rw [List.flatMap_cons, List.flatMap_cons, List.map_append, List.sum_append, ih,
        first.sum_issueCount, List.length_append]

theorem map_outcomes_flatMap
    (books : List.Forall₂ (fun module report =>
      lint.Books module lint.registry.rules report.outcomes report.issues) modules reports) :
    (reports.flatMap (·.outcomes)).map (fun done => (done.module, done.rule)) =
      modules.flatMap fun module =>
        lint.registry.rules.map fun rule => (module.displayName, rule.name) := by
  induction books with
  | nil => rfl
  | cons first _ ih =>
      rw [List.flatMap_cons, List.flatMap_cons, List.map_append, ih, first.map_outcomes]

/-- There is an issue exactly if some completed rule states one. -/
theorem hasIssues_iff {report : Report}
    (total : (report.outcomes.map (·.outcome.issueCount)).sum = report.issues.length) :
    report.hasIssues = true ↔
      ∃ done ∈ report.outcomes, ∃ stated, done.outcome = .completed stated ∧ 0 < stated := by
  have nonempty : report.hasIssues = true ↔ 0 < report.issues.length := by
    rw [Report.hasIssues, List.length_pos_iff, Bool.not_eq_true', List.isEmpty_eq_false_iff]
  rw [nonempty, ← total, List.sum_pos_iff_exists_pos_nat]
  constructor
  · rintro ⟨_, counted, positive⟩
    obtain ⟨done, member, rfl⟩ := List.mem_map.1 counted
    refine ⟨done, member, ?_⟩
    cases outcome : done.outcome with
    | completed stated =>
        rw [outcome] at positive
        exact ⟨stated, rfl, positive⟩
    | failed _ =>
        rw [outcome] at positive
        cases positive
    | skipped _ =>
        rw [outcome] at positive
        cases positive
  · rintro ⟨done, member, stated, outcome, positive⟩
    refine ⟨_, List.mem_map_of_mem member, ?_⟩
    rw [outcome]
    exact positive

/-- A successful run has one outcome for each visited module and rule, and the issues of each module
are those that its outcomes account for.  So the numbers that completed rules state add up to the
number of issues, which is that of errors, warnings and notices together. -/
theorem run_keeps_books {root : Module} {sent last : List Query} {report : Report}
    (ran : lint.run root sent = (.ok report, last)) :
    (∃ reports : List ModuleReport,
      List.Forall₂
        (fun module part =>
          (∃ earlier next, lint.runModule module earlier = (.ok part, next)) ∧
          lint.Books module lint.registry.rules part.outcomes part.issues)
        root.preorder reports ∧
      report.outcomes = reports.flatMap (·.outcomes) ∧
      report.issues = reports.flatMap (·.issues)) ∧
    (report.outcomes.map fun done => (done.module, done.rule)) =
      (root.preorder.flatMap fun module =>
        lint.registry.rules.map fun rule => (module.displayName, rule.name)) ∧
    (report.outcomes.map (·.outcome.issueCount)).sum = report.issues.length ∧
    report.issues.length = report.count .error + report.count .warning + report.count .notice ∧
    (report.hasIssues = true ↔
      ∃ done ∈ report.outcomes, ∃ stated, done.outcome = .completed stated ∧ 0 < stated) := by
  obtain ⟨reports, visited, rfl⟩ := runEach_of_run ran
  have each := forall₂_of_runEach visited
  have books := each.imp fun module part ⟨_, _, checked⟩ => books_of_runModule checked
  have total : ((Report.ofModules reports).outcomes.map (·.outcome.issueCount)).sum =
      (Report.ofModules reports).issues.length := by
    rw [Report.outcomes_ofModules, Report.issues_ofModules]
    exact sum_issueCount_flatMap books
  refine ⟨⟨reports, ?_, by simp, by simp⟩, ?_, total, Report.length_issues _,
    hasIssues_iff total⟩
  · exact each.imp fun module part checked =>
      ⟨checked, checked.elim fun _ ⟨_, checked⟩ => books_of_runModule checked⟩
  · rw [Report.outcomes_ofModules]
    exact map_outcomes_flatMap books

theorem run_keeps_books_small :
    ∃ report last, Lint.small.run .small [] = (.ok report, last) ∧
      (report.outcomes.map fun done => (done.module, done.rule)) =
        (["root", "app"].flatMap fun module =>
          ["aws_instance_invalid_ami", "aws_security_group_duplicate_name",
            "aws_route_not_specified_target"].map fun rule => (module, rule)) ∧
      (report.outcomes.map (·.outcome.issueCount)).sum = report.issues.length ∧
      report.issues.length =
        report.count .error + report.count .warning + report.count .notice := by
  obtain ⟨report, ran⟩ := small_run
  obtain ⟨-, outcomes, total, counts, -⟩ := run_keeps_books ran
  exact ⟨report, _, ran, outcomes, total, counts⟩

end Lint

end InfraLint
