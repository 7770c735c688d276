import InfraLint.Proofs.RuleEnding
import InfraLint.Rule.Catalogue
import Mathlib.Data.List.Forall2

/-!
# The order of the modules

`Lint.runPending` keeps the modules that wait in a list and puts those that a module calls in front
of it.  `Lint.runEach` goes through a list of modules once and knows nothing of calls.  The first on
any list of trees is the second on their modules in depth-first order (`Lint.runPending_eq`).  What
ties them together is that the modules still to be visited are always those of the waiting trees:
taking the first tree apart leaves the same modules, less its root (`Module.preorderAll_cons`).
-/

namespace InfraLint

/-! ## Depth-first order -/

namespace Module

theorem preorderAll_eq_flatMap (modules : List Module) :
    preorderAll modules = modules.flatMap preorder := by
  induction modules with
  | nil => rfl
  | cons module rest ih => rw [preorderAll, ih, List.flatMap_cons]

/-- A module comes before those it calls, and these come in the order of the calls, each with all
modules below it. -/
theorem preorder_eq (module : Module) :
    module.preorder = module :: module.children.flatMap preorder := by
  cases module
  simp only [preorder, preorderAll_eq_flatMap]

/-- The modules of waiting trees: the root of the first one, and then those of the trees that wait
when it has been taken apart. -/
theorem preorderAll_cons (module : Module) (rest : List Module) :
    preorderAll (module :: rest) = module :: preorderAll (module.children ++ rest) := by
  simp only [preorderAll_eq_flatMap, List.flatMap_cons, List.flatMap_append, preorder_eq module,
    List.cons_append]

theorem preorderAll_singleton (module : Module) : preorderAll [module] = module.preorder :=
  List.append_nil _

mutual

/-- The order lists as many modules as the tree has. -/
theorem length_preorder : ∀ module : Module, module.preorder.length = module.count
  | ⟨_, _, _, _, _, children⟩ => by
      simp only [preorder, count, List.length_cons, length_preorderAll children]

theorem length_preorderAll : ∀ modules : List Module,
    (preorderAll modules).length = countAll modules
  | [] => rfl
  | module :: rest => by
      simp only [preorderAll, countAll, List.length_append, length_preorder module,
        length_preorderAll rest]

end

end Module

/-! ## Reports of several modules -/

namespace Report

/-- The reports of modules as one. -/
def ofModules (reports : List ModuleReport) : Report := reports.foldr add empty

@[simp] theorem issues_ofModules (reports : List ModuleReport) :
    (ofModules reports).issues = reports.flatMap (·.issues) := by
  induction reports with
  | nil => rfl
  | cons report rest ih => simpa [ofModules, add] using ih

@[simp] theorem outcomes_ofModules (reports : List ModuleReport) :
    (ofModules reports).outcomes = reports.flatMap (·.outcomes) := by
  induction reports with
  | nil => rfl
  | cons report rest ih => simpa [ofModules, add] using ih

@[simp] theorem modules_ofModules (reports : List ModuleReport) :
    (ofModules reports).modules = reports.length := by
  induction reports with
  | nil => rfl
  | cons report rest ih => simpa [ofModules, add] using ih

end Report

/-! ## Modules one after the other -/

namespace Lint

/-- Runs all rules in the modules of a list, one after the other. -/
def runEach (lint : Lint) :
    List Module → List Query → Except LintError (List ModuleReport) × List Query
  | [], sent => (.ok [], sent)
  | module :: rest, sent =>
    match lint.runModule module sent with
    | (.error cause, next) => (.error cause, next)
    | (.ok report, next) =>
      let (reports, last) := runEach lint rest next
      (reports.map (report :: ·), last)

/-- The work list visits the modules of the trees on it in depth-first order. -/
theorem runPending_eq (lint : Lint) (pending : List Module) (sent : List Query) :
    lint.runPending pending sent =
      ((lint.runEach (Module.preorderAll pending) sent).1.map .ofModules,
        (lint.runEach (Module.preorderAll pending) sent).2) := by
  fun_induction runPending lint pending sent with
  | case1 sent => rfl
  | case2 sent module rest cause next stopped =>
      simp only [Module.preorderAll_cons, runEach, stopped]
      rfl
  | case3 sent module rest report next checked others last rests ih =>
      -- The trees that wait now hold exactly the modules that are still to come.
      simp only [Module.preorderAll_cons, runEach, checked]
      simp only [rests, Prod.mk.injEq] at ih
      obtain ⟨rfl, rfl⟩ := ih
      cases lint.runEach (Module.preorderAll (module.children ++ rest)) next with
      | mk reports final => cases reports <;> rfl

/-- A list of modules is gone through exactly if each of them gives a report, when the questions of
those before it have been sent. -/
theorem runEach_cons_ok_iff {lint : Lint} {module : Module} {rest : List Module}
    {sent last : List Query} {reports : List ModuleReport} :
    lint.runEach (module :: rest) sent = (.ok reports, last) ↔
      ∃ report next others, lint.runModule module sent = (.ok report, next) ∧
        lint.runEach rest next = (.ok others, last) ∧ reports = report :: others := by
  constructor
  · intro ran
    rcases step : lint.runModule module sent with ⟨cause | report, next⟩
    · simp [runEach, step] at ran
    · rcases tail : lint.runEach rest next with ⟨cause | others, final⟩
      · simp [runEach, step, tail, Except.map] at ran
      · simp only [runEach, step, tail, Except.map, Prod.mk.injEq, Except.ok.injEq] at ran
        obtain ⟨rfl, rfl⟩ := ran
        exact ⟨report, next, others, rfl, tail, rfl⟩
  · rintro ⟨report, next, others, step, tail, rfl⟩
    simp [runEach, step, tail, Except.map]

/-- Each of the modules gone through has a report of its own, in order. -/
theorem forall₂_of_runEach {lint : Lint} {modules : List Module} {sent last : List Query}
    {reports : List ModuleReport} (ran : lint.runEach modules sent = (.ok reports, last)) :
    List.Forall₂
      (fun module report => ∃ earlier next, lint.runModule module earlier = (.ok report, next))
      modules reports := by
  induction modules generalizing sent reports with
  | nil =>
      cases ran
      exact .nil
  | cons module rest ih =>
      obtain ⟨report, next, others, checked, rests, rfl⟩ := runEach_cons_ok_iff.1 ran
      exact .cons ⟨sent, next, checked⟩ (ih rests)

/-- What a successful run over a tree goes through. -/
theorem runEach_of_run {lint : Lint} {root : Module} {sent last : List Query} {report : Report}
    (ran : lint.run root sent = (.ok report, last)) :
    ∃ reports, lint.runEach root.preorder sent = (.ok reports, last) ∧
      report = .ofModules reports := by
  unfold run at ran
  split at ran
  · simp at ran
  · rw [runPending_eq, Module.preorderAll_singleton] at ran
    rcases visited : lint.runEach root.preorder sent with ⟨cause | reports, final⟩
    · simp [visited, Except.map] at ran
    · simp only [visited, Except.map, Prod.mk.injEq, Except.ok.injEq] at ran
      obtain ⟨rfl, rfl⟩ := ran
      exact ⟨reports, rfl, rfl⟩

end Lint

/-! ## A small configuration

A tree of two modules on which the statements can be tried: the root has a virtual machine and a
security group, and the module that it calls has a virtual machine and a route without a target. -/

/-- A resource without attributes. -/
def Block.bare (type name file : String) (line : Nat) : Block :=
  ⟨"resource", [type, name], [], [], file, line⟩

/-- The module that the root of the small configuration calls. -/
def Module.smallChild : Module :=
  ⟨"app", some "./app", "././app",
    [⟨"app/main.tf", [], [.bare "aws_instance" "web" "app/main.tf" 1,
      .bare "aws_route" "out" "app/main.tf" 3], []⟩], .empty, []⟩

/-- The small configuration. -/
def Module.small : Module :=
  ⟨"", none, ".",
    [⟨"main.tf", [], [.bare "aws_instance" "web" "main.tf" 1,
      .bare "aws_security_group" "web" "main.tf" 3], []⟩], .empty, [.smallChild]⟩

/-- A deep check of the small configuration with three rules of the catalogue.  The provider knows
one image and nothing else. -/
def Lint.small : Lint where
  registry := .ofRules (Rule.catalogue.filter fun rule =>
    ["aws_instance_invalid_ami", "aws_security_group_duplicate_name",
      "aws_route_not_specified_target"].contains rule.name)
  settings := { Settings.default with deepCheck := true }
  state := .empty
  provider := some (Canned.provider ⟨[(.imageIds, ["ami-1"])], []⟩)

/-- The check of the small configuration sends four questions and ends with a report. -/
theorem Lint.small_run : ∃ report, Lint.small.run .small [] =
    (.ok report, [.imageIds, .securityGroupNames, .defaultVpc, .imageIds]) := by
  simp only [run, runPending_eq]
  exact ⟨_, rfl⟩

end InfraLint
