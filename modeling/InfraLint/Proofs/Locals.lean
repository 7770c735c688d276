import InfraLint.Proofs.Bindings
import InfraLint.Proofs.NamedLocals
import Mathlib.Logic.Relation

/-!
# The least solution of the locals

Locals may refer to one another, in any order and in circles.  The passes over them bind one local
after the other, each to the value that its expression has at that time (`Scope.Binds`), and end when
a pass binds none (`Scope.Settles`, which knows no bound on the number of passes).

Which local is bound when depends on how the locals are written down.  What they are bound to in the
end does not, if their names are distinct and their expressions reach other locals by name.  Then a
binding never changes what has been evaluated before, so every local stays bound to the value of its
expression (`Scope.Binds.isPartial`), and nothing is bound that could be missing from another
solution (`Scope.Binds.within`).  So the passes end at the least solution
(`Scope.ofInputs_solves_locals`), and there is only one.
-/

namespace InfraLint

/-! ## Bindings within others -/

namespace Assoc

variable {κ α : Type} [BEq κ] [LawfulBEq κ] {entries others : List (κ × α)} {key : κ} {value : α}

/-- A binding of a new key leaves the other ones as they are. -/
theorem within_insert (fresh : entries.lookup key = none) (value : α) :
    Within entries (insert key value entries) := by
  intro name found there
  by_cases same : name = key
  · rw [same, fresh] at there
    cases there
  · rw [lookup_insert_of_ne same, there]

theorem Within.insert (within : Within entries others) (there : others.lookup key = some value) :
    Within (insert key value entries) others := by
  intro name found bound
  by_cases same : name = key
  · rw [same, lookup_insert_self] at bound
    rw [same, there, bound]
  · rw [lookup_insert_of_ne same] at bound
    exact within name found bound

end Assoc

namespace Scope

/-! ## Binding one local after the other -/

/-- One of the pending locals is bound to the value that its expression has in the scope. -/
inductive Binds : Scope × List Local → Scope × List Local → Prop where
  | bind {scope : Scope} {before after : List Local} {name : String} {e : Expr} {value : Value} :
      scope.evaluate e = .ok value →
      Binds (scope, before ++ (name, e) :: after) (scope.setLocal name value, before ++ after)

/-- The passes over pending locals, however many it takes: they go on until a pass leaves no local
pending or binds none. -/
inductive Settles : Scope → List Local → Scope → Prop where
  | stop {scope next : Scope} {pending left : List Local} :
      localsPass scope pending = (next, left) →
      left = [] ∨ left.length = pending.length →
      Settles scope pending next
  | again {scope next last : Scope} {pending left : List Local} :
      localsPass scope pending = (next, left) →
      ¬ (left = [] ∨ left.length = pending.length) →
      Settles next left last →
      Settles scope pending last

/-- A pass binds locals one after the other.  Those before the pending ones have been passed over. -/
theorem localsPass_binds (scope : Scope) (passed pending : List Local) :
    Relation.ReflTransGen Binds (scope, passed ++ pending)
      ((localsPass scope pending).1, passed ++ (localsPass scope pending).2) := by
  induction pending generalizing scope passed with
  | nil => exact .refl
  | cons declared rest ih =>
      obtain ⟨name, e⟩ := declared
      rw [localsPass]
      cases evaluates : scope.evaluate e with
      | ok value => exact .head (.bind evaluates) (ih (scope.setLocal name value) passed)
      | error cause =>
          have after := ih scope (passed ++ [(name, e)])
          simpa only [List.append_assoc, List.singleton_append] using after

/-- A pass that leaves as many locals pending has bound none, since none of them has a value. -/
theorem localsPass_of_length {scope : Scope} {pending : List Local}
    (same : (localsPass scope pending).2.length = pending.length) :
    localsPass scope pending = (scope, pending) ∧
      ∀ declared ∈ pending, ∀ value, scope.evaluate declared.2 ≠ .ok value := by
  induction pending with
  | nil => exact ⟨rfl, fun declared member => by cases member⟩
  | cons declared rest ih =>
      obtain ⟨name, e⟩ := declared
      rw [localsPass] at same ⊢
      cases evaluates : scope.evaluate e with
      | ok value =>
          have fewer := length_localsPass_le (scope.setLocal name value) rest
          simp only [evaluates, List.length_cons] at same
          omega
      | error cause =>
          simp only [evaluates, List.length_cons, Nat.add_right_cancel_iff] at same ⊢
          obtain ⟨stays, without⟩ := ih same
          refine ⟨by rw [stays], List.forall_mem_cons.2 ⟨fun value given => ?_, without⟩⟩
          rw [evaluates] at given
          cases given

/-- As many passes as there are locals, and one more, are enough. -/
theorem settles_localsPasses {bound : Nat} {scope : Scope} {pending : List Local}
    (enough : pending.length < bound) :
    Settles scope pending (localsPasses bound scope pending) := by
  induction bound generalizing scope pending with
  | zero => exact absurd enough (Nat.not_lt_zero _)
  | succ bound ih =>
      have fewer := length_localsPass_le scope pending
      simp only [localsPasses]
      split
      · next ends =>
        refine .stop rfl ?_
        simpa only [Bool.or_eq_true, List.isEmpty_iff, beq_iff_eq] using ends
      · next going =>
        have going' : ¬ ((localsPass scope pending).2 = [] ∨
            (localsPass scope pending).2.length = pending.length) := by
          simpa only [Bool.or_eq_true, List.isEmpty_iff, beq_iff_eq] using going
        exact .again rfl going' (ih (by omega))

theorem Settles.unique {scope last last' : Scope} {pending : List Local}
    (settles : Settles scope pending last) (settles' : Settles scope pending last') :
    last = last' := by
  induction settles with
  | stop passes ends =>
      cases settles' with
      | stop passes' _ =>
          rw [passes] at passes'
          exact (Prod.mk.inj passes').1
      | again passes' going _ =>
          cases passes.symm.trans passes'
          exact absurd ends going
  | again passes going _ ih =>
      cases settles' with
      | stop passes' ends =>
          cases passes.symm.trans passes'
          exact absurd ends going
      | again passes' _ rests =>
          cases passes.symm.trans passes'
          exact ih rests

/-- When the passes have come to an end, no local that is still pending has a value. -/
theorem Settles.exists_stuck {scope last : Scope} {pending : List Local}
    (settles : Settles scope pending last) :
    ∃ left, Relation.ReflTransGen Binds (scope, pending) (last, left) ∧
      ∀ declared ∈ left, ∀ value, last.evaluate declared.2 ≠ .ok value := by
  induction settles with
  | @stop scope next pending left passes ends =>
      have binds := localsPass_binds scope [] pending
      rw [passes] at binds
      refine ⟨left, binds, ?_⟩
      rcases ends with rfl | same
      · exact fun declared member => by cases member
      · have kept : (localsPass scope pending).2.length = pending.length := by rw [passes, same]
        obtain ⟨stays, without⟩ := localsPass_of_length kept
        cases passes.symm.trans stays
        exact without
  | @again scope next last pending left passes _ _ ih =>
      have binds := localsPass_binds scope [] pending
      rw [passes] at binds
      obtain ⟨left, rests, without⟩ := ih
      exact ⟨left, binds.trans rests, without⟩

/-! ## What stays true -/

section

variable {inputs : List (String × Value)} {declared : List Local}

/-- Some of the declared locals are bound, each to the value of its expression, and the others are
pending. -/
structure IsPartial (inputs : List (String × Value)) (declared : List Local)
    (state : Scope × List Local) : Prop where
  inputs : state.1.inputs = inputs
  once : (state.1.locals.map (·.1)).Nodup
  bound : ∀ name value, state.1.locals.lookup name = some value →
    ∃ e, (name, e) ∈ declared ∧ state.1.evaluate e = .ok value
  pending : state.2.Sublist declared
  unbound : ∀ name e, (name, e) ∈ state.2 → state.1.locals.lookup name = none
  rest : ∀ name e, (name, e) ∈ declared → (name, e) ∉ state.2 →
    ∃ value, state.1.locals.lookup name = some value

theorem isPartial_start (inputs : List (String × Value)) (declared : List Local) :
    IsPartial inputs declared (⟨inputs, []⟩, declared) where
  inputs := rfl
  once := List.nodup_nil
  bound name value there := by cases there
  pending := List.Sublist.refl _
  unbound name e member := rfl
  rest name e member absent := absurd member absent

/-- Locals have distinct names, and their expressions reach other locals by name. -/
structure NameEachOther (declared : List Local) : Prop where
  distinct : (declared.map (·.1)).Nodup
  named : ∀ name e, (name, e) ∈ declared → e.namesLocals false = true

/-- A name that is bound next is a new one, so all bindings stay and expressions keep their
values. -/
theorem Binds.isPartial (each : NameEachOther declared) {state next : Scope × List Local}
    (binds : Binds state next) (isPartial : IsPartial inputs declared state) :
    IsPartial inputs declared next := by
  obtain @⟨scope, before, after, name, e, value, evaluates⟩ := binds
  have fresh : scope.locals.lookup name = none :=
    isPartial.unbound name e (List.mem_append_right _ List.mem_cons_self)
  have within : Assoc.Within scope.locals (scope.setLocal name value).locals :=
    Assoc.within_insert fresh value
  have same : scope.inputs = (scope.setLocal name value).inputs := rfl
  have keeps {other : String} {e' : Expr} {v : Value} (member : (other, e') ∈ declared)
      (given : scope.evaluate e' = .ok v) : (scope.setLocal name value).evaluate e' = .ok v :=
    evaluate_of_within (each.named other e' member) same within given
  have member : (name, e) ∈ declared :=
    isPartial.pending.subset (List.mem_append_right _ List.mem_cons_self)
  constructor
  · exact isPartial.inputs
  · exact Assoc.nodup_keys_insert name value isPartial.once
  · intro other v there
    by_cases same : other = name
    · subst same
      rw [setLocal, Assoc.lookup_insert_self, Option.some_inj] at there
      subst there
      exact ⟨e, member, keeps member evaluates⟩
    · rw [setLocal, Assoc.lookup_insert_of_ne same] at there
      obtain ⟨e', declares, given⟩ := isPartial.bound other v there
      exact ⟨e', declares, keeps declares given⟩
  · exact ((List.sublist_cons_self _ _).append_left before).trans isPartial.pending
  · intro other e' left
    have names : ((before ++ (name, e) :: after).map (·.1)).Nodup :=
      (isPartial.pending.map (·.1)).nodup each.distinct
    have apart : other ≠ name := by
      rintro rfl
      have middle := (List.perm_middle.map Prod.fst).nodup_iff.1 names
      exact (List.nodup_cons.1 middle).1 (List.mem_map.2 ⟨(other, e'), left, rfl⟩)
    rw [setLocal, Assoc.lookup_insert_of_ne apart]
    exact isPartial.unbound other e' (List.perm_middle.mem_iff.2 (List.mem_cons_of_mem _ left))
  · intro other e' declares gone
    by_cases left : (other, e') ∈ before ++ (name, e) :: after
    · rcases List.mem_cons.1 (List.perm_middle.mem_iff.1 left) with now | later
      · cases now
        exact ⟨value, Assoc.lookup_insert_self name value scope.locals⟩
      · exact absurd later gone
    · obtain ⟨v, there⟩ := isPartial.rest other e' declares left
      exact ⟨v, within other v there⟩

/-- Another scope has the value of every local that has one in it. -/
def IsClosed (scope : Scope) (declared : List Local) : Prop :=
  ∀ name e value, (name, e) ∈ declared → scope.evaluate e = .ok value →
    scope.locals.lookup name = some value

/-- What is bound next is bound in every closed scope with the same variables. -/
theorem Binds.within (each : NameEachOther declared) {state next : Scope × List Local}
    (binds : Binds state next) (isPartial : IsPartial inputs declared state) {other : Scope}
    (same : other.inputs = inputs) (closed : other.IsClosed declared)
    (within : Assoc.Within state.1.locals other.locals) :
    Assoc.Within next.1.locals other.locals := by
  obtain @⟨scope, before, after, name, e, value, evaluates⟩ := binds
  have member : (name, e) ∈ declared :=
    isPartial.pending.subset (List.mem_append_right _ List.mem_cons_self)
  have inputs : scope.inputs = other.inputs := isPartial.inputs.trans same.symm
  have given := evaluate_of_within (each.named name e member) inputs within evaluates
  exact Assoc.Within.insert within (closed name e value member given)

/-! ## The solution -/

/-- A scope solves locals, and binds no more than any other solution: each local that is bound has
the value of its expression, the expression of no other one has a value, and every scope with the
same variables that binds each local that has a value in it binds these locals to the same
values. -/
structure IsLeastSolution (scope : Scope) (declared : List Local) : Prop where
  once : (scope.locals.map (·.1)).Nodup
  bound : ∀ name value, scope.locals.lookup name = some value →
    ∃ e, (name, e) ∈ declared ∧ scope.evaluate e = .ok value
  unbound : ∀ name e, (name, e) ∈ declared → scope.locals.lookup name = none →
    ∀ value, scope.evaluate e ≠ .ok value
  least : ∀ other : Scope, other.inputs = scope.inputs → other.IsClosed declared →
    Assoc.Within scope.locals other.locals

theorem isPartial_of_binds (each : NameEachOther declared) {state : Scope × List Local}
    (binds : Relation.ReflTransGen Binds (⟨inputs, []⟩, declared) state) :
    IsPartial inputs declared state := by
  induction binds with
  | refl => exact isPartial_start inputs declared
  | tail _ step ih => exact step.isPartial each ih

theorem within_of_binds (each : NameEachOther declared) {state : Scope × List Local}
    (binds : Relation.ReflTransGen Binds (⟨inputs, []⟩, declared) state) {other : Scope}
    (same : other.inputs = inputs) (closed : other.IsClosed declared) :
    Assoc.Within state.1.locals other.locals := by
  induction binds with
  | refl => exact fun name value there => by cases there
  | tail before step ih => exact step.within each (isPartial_of_binds each before) same closed ih

/-- Binding locals one after the other, until none is left that has a value, gives the least
solution. -/
theorem isLeastSolution_of_stuck (each : NameEachOther declared) {last : Scope}
    {left : List Local}
    (binds : Relation.ReflTransGen Binds (⟨inputs, []⟩, declared) (last, left))
    (stuck : ∀ declared ∈ left, ∀ value, last.evaluate declared.2 ≠ .ok value) :
    last.IsLeastSolution declared := by
  have isPartial := isPartial_of_binds each binds
  refine ⟨isPartial.once, isPartial.bound, ?_, ?_⟩
  · intro name e member free
    by_cases pending : (name, e) ∈ left
    · exact stuck (name, e) pending
    · obtain ⟨value, there⟩ := isPartial.rest name e member pending
      rw [free] at there
      cases there
  · intro other same closed
    exact within_of_binds each binds (same.trans isPartial.inputs) closed

namespace IsLeastSolution

variable {scope other : Scope} {others : List Local}

/-- The order in which locals are declared makes no difference to what solves them. -/
theorem perm (least : scope.IsLeastSolution declared) (reordered : others.Perm declared) :
    scope.IsLeastSolution others where
  once := least.once
  bound name value there := by
    obtain ⟨e, member, given⟩ := least.bound name value there
    exact ⟨e, reordered.mem_iff.2 member, given⟩
  unbound name e member := least.unbound name e (reordered.mem_iff.1 member)
  least other same closed := by
    refine least.least other same fun name e value member => ?_
    exact closed name e value (reordered.mem_iff.2 member)

theorem isClosed (least : scope.IsLeastSolution declared)
    (distinct : (declared.map (·.1)).Nodup) : scope.IsClosed declared := by
  intro name e value member given
  cases there : scope.locals.lookup name with
  | none => exact absurd given (least.unbound name e member there value)
  | some v =>
      obtain ⟨e', member', given'⟩ := least.bound name v there
      cases List.inj_on_of_nodup_map distinct member member' rfl
      rw [given] at given'
      cases given'
      rfl

/-- There is one least solution, up to the order in which locals were bound. -/
theorem locals_perm (least : scope.IsLeastSolution declared)
    (least' : other.IsLeastSolution declared) (distinct : (declared.map (·.1)).Nodup)
    (same : scope.inputs = other.inputs) : scope.locals.Perm other.locals := by
  rw [List.perm_ext_iff_of_nodup least.once.of_map least'.once.of_map]
  rintro ⟨name, value⟩
  rw [Assoc.mem_iff_lookup least.once, Assoc.mem_iff_lookup least'.once]
  constructor
  · exact least.least other same.symm (least'.isClosed distinct) name value
  · exact least'.least scope same (least.isClosed distinct) name value

end IsLeastSolution

theorem settles_ofInputs (inputs : List (String × Value)) (files : List ConfigFile) :
    Settles ⟨inputs, []⟩ (declaredLocals files) (ofInputs inputs files) :=
  settles_localsPasses (Nat.lt_succ_self _)

theorem isLeastSolution_ofInputs {files : List ConfigFile}
    (each : NameEachOther (declaredLocals files)) (inputs : List (String × Value)) :
    (ofInputs inputs files).IsLeastSolution (declaredLocals files) := by
  obtain ⟨left, binds, stuck⟩ := (settles_ofInputs inputs files).exists_stuck
  exact isLeastSolution_of_stuck each binds stuck

end

/-- The passes over the locals of files come to an end, and only at one scope, whatever the variables
are.  If the locals have distinct names and name each other, this scope is their least solution:
under its variables and locals, the expression of each bound local has the value that the local is
bound to, and that of no other local has a value.  Files that declare the same locals in another
order, in other blocks or in other files give the same bindings. -/
theorem ofInputs_solves_locals {files : List ConfigFile}
    (each : NameEachOther (declaredLocals files)) (inputs : List (String × Value)) :
    (∀ last, Settles ⟨inputs, []⟩ (declaredLocals files) last ↔ last = ofInputs inputs files) ∧
    (ofInputs inputs files).inputs = inputs ∧
    (ofInputs inputs files).IsLeastSolution (declaredLocals files) ∧
    ∀ others, (declaredLocals others).Perm (declaredLocals files) →
      (ofInputs inputs others).locals.Perm (ofInputs inputs files).locals := by
  have settles := settles_ofInputs inputs files
  have least := isLeastSolution_ofInputs each inputs
  refine ⟨fun last => ⟨fun ends => ends.unique settles, fun same => same ▸ settles⟩,
    inputs_ofInputs inputs files, least, fun others reordered => ?_⟩
  have each' : NameEachOther (declaredLocals others) := by
    refine ⟨(reordered.map (·.1)).nodup_iff.2 each.distinct, fun name e member => ?_⟩
    exact each.named name e (reordered.mem_iff.1 member)
  have least' := (isLeastSolution_ofInputs each' inputs).perm reordered.symm
  exact least'.locals_perm least each.distinct (by rw [inputs_ofInputs, inputs_ofInputs])

/-- A file with one block of locals. -/
def localsFile (path : String) (declared : List Local) : ConfigFile where
  path := path
  attributes := []
  blocks := [⟨"locals", [], declared.map fun (name, e) => ⟨name, ⟨"", path, 2, .expression e⟩, none⟩,
    [], path, 1⟩]
  waivers := []

/-- Locals of which one needs another, two go in a circle and one is a list built by a `for` that
hides the locals. -/
def chained : List Local :=
  let named (name : String) : Expr := .traversal (.variable "local") [.member name]
  let env : Expr := .traversal (.variable "var") [.member "env"]
  [("name", .template [.interpolation (named "stage"), .literal "-app"]),
    ("left", named "right"), ("right", .array [named "left"]), ("stage", env),
    ("all", .forList ⟨none, "local"⟩ (.array [env]) (.variable "local") (.bool true))]

/-- The local that needs another one is bound, and those that go in a circle are not.  In one file
and in the opposite order the locals are bound to the same. -/
theorem ofInputs_solves_locals_chained :
    let inputs := [("env", Value.string "prod")]
    let files := [localsFile "a.tf" (chained.take 2), localsFile "b.tf" (chained.drop 2)]
    let others := [localsFile "c.tf" chained.reverse]
    NameEachOther (declaredLocals files) ∧
      (declaredLocals others).Perm (declaredLocals files) ∧
      Settles ⟨inputs, []⟩ (declaredLocals files) (ofInputs inputs files) ∧
      (ofInputs inputs files).IsLeastSolution (declaredLocals files) ∧
      (ofInputs inputs others).locals.Perm (ofInputs inputs files).locals ∧
      (ofInputs inputs files).locals.map (fun binding => (binding.1, binding.2.text)) =
        [("stage", "prod"), ("all", "[\n  \"prod\"\n]"), ("name", "prod-app")] := by
  intro inputs files others
  have each : NameEachOther (declaredLocals files) := by
    refine ⟨by decide +kernel, fun name e member => ?_⟩
    have named : ∀ declared ∈ declaredLocals files, declared.2.namesLocals false = true := by
      decide +kernel
    exact named (name, e) member
  have reordered : (declaredLocals others).Perm (declaredLocals files) := List.reverse_perm chained
  obtain ⟨settles, -, least, same⟩ := ofInputs_solves_locals each inputs
  exact ⟨each, reordered, (settles _).2 rfl, least, same others reordered, by decide +kernel⟩

end Scope

end InfraLint
