import InfraLint.Proofs.NamedLocals

/-!
# Values without null

A value is free of null if it is not null and holds none at any depth.  An expression is plain if
`null` is not written in it where it could become its value or a part of it (`Expr.isPlain`).  The
test of a conditional, the key of an index and the texts of a template do not count: they are
compared, looked up or written out, and what comes of that is no null.

Where the names in scope are free of null, a plain expression has no value with null in it
(`Expr.gives_eval`, by the recursion of evaluation).  A traversal only selects, a splat makes lists
of what it selects, and a `for` binds parts of its collection.
-/

namespace InfraLint

/-! ## What a computation gives -/

/-- What a computation gives has a property.  It may give nothing. -/
def Gives {ε α : Type} (computation : Except ε α) (has : α → Prop) : Prop :=
  ∀ a, computation = .ok a → has a

namespace Gives

variable {ε α β : Type} {first : α → Prop} {has : β → Prop}

theorem of_ok {a : α} (held : first a) : Gives (.ok a : Except ε α) first := by
  rintro _ ⟨⟩
  exact held

theorem of_error (cause : ε) (has : α → Prop) : Gives (.error cause) has := by
  rintro _ ⟨⟩

theorem bind {computation : Except ε α} {next : α → Except ε β} (start : Gives computation first)
    (rest : ∀ a, first a → Gives (next a) has) : Gives (computation >>= next) has := by
  intro b given
  obtain ⟨a, begun, ended⟩ := bind_eq_ok_iff.1 given
  exact rest a (start a begun) b ended

/-- Nothing is known of what the first computation gives. -/
theorem after {computation : Except ε α} {next : α → Except ε β}
    (rest : ∀ a, Gives (next a) has) : Gives (computation >>= next) has := by
  have start : Gives computation fun _ => True := fun _ _ => trivial
  exact start.bind fun a _ => rest a

theorem mapM {f : α → Except ε β} {items : List α} (each : ∀ a ∈ items, Gives (f a) has) :
    Gives (items.mapM f) fun results => ∀ b ∈ results, has b := by
  induction items with
  | nil => exact of_ok (by simp)
  | cons a rest ih =>
      rw [List.mapM_cons]
      refine (each a List.mem_cons_self).bind fun b held => ?_
      refine (ih fun other member => each other (List.mem_cons_of_mem _ member)).bind
        fun results others => ?_
      exact of_ok (List.forall_mem_cons.2 ⟨held, others⟩)

theorem foldlM {f : β → α → Except ε β} {items : List α}
    (each : ∀ a ∈ items, ∀ b, has b → Gives (f b a) has) {b : β} (held : has b) :
    Gives (items.foldlM f b) has := by
  induction items generalizing b with
  | nil => exact of_ok held
  | cons a rest ih =>
      rw [List.foldlM_cons]
      exact (each a List.mem_cons_self b held).bind fun next held' =>
        ih (fun other member => each other (List.mem_cons_of_mem _ member)) held'

theorem filterMapM {f : α → Except ε (Option β)} {items : List α}
    (each : ∀ a ∈ items, Gives (f a) fun found => ∀ b ∈ found, has b) :
    Gives (items.filterMapM f) fun results => ∀ b ∈ results, has b := by
  induction items with
  | nil => exact of_ok (by simp)
  | cons a rest ih =>
      have others := ih fun other member => each other (List.mem_cons_of_mem _ member)
      rw [List.filterMapM_cons]
      refine (each a List.mem_cons_self).bind fun found held => ?_
      cases found with
      | none => exact others
      | some b =>
          exact others.bind fun results rest =>
            of_ok (List.forall_mem_cons.2 ⟨held b rfl, rest⟩)

end Gives

/-! ## Values -/

/-- A value is not null and holds no null. -/
inductive Value.NullFree : Value → Prop where
  | bool (value : Bool) : NullFree (.bool value)
  | number (value : Number) : NullFree (.number value)
  | string (value : String) : NullFree (.string value)
  | list {items : List Value} : (∀ item ∈ items, NullFree item) → NullFree (.list items)
  | map {entries : List (String × Value)} :
      (∀ entry ∈ entries, NullFree entry.2) → NullFree (.map entries)

/-- No value of an association list holds null. -/
def Env.NullFree (env : Env) : Prop := ∀ entry ∈ env, entry.2.NullFree

namespace Env.NullFree

variable {env : Env}

theorem nil : Env.NullFree [] := by
  rintro _ ⟨⟩

theorem cons (free : env.NullFree) {value : Value} (held : value.NullFree) (name : String) :
    Env.NullFree ((name, value) :: env) :=
  List.forall_mem_cons.2 ⟨held, free⟩

theorem lookup (free : env.NullFree) {name : String} {value : Value}
    (found : env.lookup name = some value) : value.NullFree := by
  obtain ⟨before, after, rfl, -⟩ := List.lookup_eq_some_iff.1 found
  exact free (name, value) (List.mem_append_right _ List.mem_cons_self)

theorem insert (free : env.NullFree) {value : Value} (held : value.NullFree) (name : String) :
    Env.NullFree (Assoc.insert name value env) := by
  induction env with
  | nil => exact nil.cons held name
  | cons entry rest ih =>
      obtain ⟨first, others⟩ := List.forall_mem_cons.1 free
      rw [Assoc.insert]
      split
      · exact cons others held entry.1
      · exact (ih others).cons first entry.1

theorem bind (free : env.NullFree) (binder : Binder) {key value : Value} (keyFree : key.NullFree)
    (valueFree : value.NullFree) : Env.NullFree (binder.bind env key value) := by
  rcases binder with ⟨_ | name, other⟩
  · exact free.cons valueFree other
  · exact (free.cons keyFree name).cons valueFree other

end Env.NullFree

namespace Value.NullFree

variable {v : Value}

theorem ne_null (free : v.NullFree) : v ≠ .null := by
  rintro rfl
  cases free

theorem gives_member (free : v.NullFree) (name : String) :
    Gives (v.member name) Value.NullFree := by
  cases free with
  | bool | number | string | list => exact .of_error _ _
  | map each =>
      rw [Value.member]
      split
      · next found => exact .of_ok (Env.NullFree.lookup each found)
      · exact .of_error _ _

theorem gives_item (free : v.NullFree) (index : Nat) : Gives (v.item index) Value.NullFree := by
  cases free with
  | bool | number | string | map => exact .of_error _ _
  | list each =>
      rw [Value.item]
      split
      · next found => exact .of_ok (each _ (List.mem_of_getElem? found))
      · exact .of_error _ _

theorem gives_index (free : v.NullFree) (key : Value) : Gives (v.index key) Value.NullFree := by
  unfold Value.index
  split
  · exact free.gives_member _
  · exact free.gives_item _
  all_goals exact .of_error _ _

theorem elements (free : v.NullFree) : ∀ item ∈ v.elements, item.NullFree := by
  cases free with
  | bool b => simpa [Value.elements] using NullFree.bool b
  | number n => simpa [Value.elements] using NullFree.number n
  | string s => simpa [Value.elements] using NullFree.string s
  | list each => exact each
  | map each => simpa [Value.elements] using NullFree.map each

theorem gives_entries (free : v.NullFree) :
    Gives v.entries fun entries => ∀ entry ∈ entries, entry.1.NullFree ∧ entry.2.NullFree := by
  cases free with
  | bool | number | string => exact .of_error _ _
  | list each =>
      refine .of_ok fun entry member => ?_
      obtain ⟨⟨item, index⟩, inside, rfl⟩ := List.mem_map.1 member
      exact ⟨.number _, each _ (List.fst_mem_of_mem_zipIdx inside)⟩
  | map each =>
      refine .of_ok fun entry member => ?_
      obtain ⟨⟨name, item⟩, inside, rfl⟩ := List.mem_map.1 member
      exact ⟨.string _, each _ inside⟩

theorem gives_collect (free : v.NullFree) {entries : Env} (others : entries.NullFree)
    (grouped : Bool) (key : String) :
    Gives (Value.collect grouped key v entries) Env.NullFree := by
  unfold Value.collect
  split
  · next items found =>
    refine .of_ok (others.insert (.list fun item member => ?_) key)
    rcases List.mem_append.1 member with member | member
    · cases others.lookup found with
      | list each => exact each item member
    · exact List.mem_singleton.1 member ▸ free
  · refine .of_ok (others.insert (.list fun item member => ?_) key)
    exact List.mem_singleton.1 member ▸ free
  · exact .of_error _ _
  · exact .of_ok (others.insert free key)

end Value.NullFree

theorem UnaryOp.gives_apply (op : UnaryOp) (v : Value) : Gives (op.apply v) Value.NullFree := by
  cases op with
  | negate => exact .after fun n => .of_ok (.number _)
  | invert => exact .after fun b => .of_ok (.bool _)

theorem BinaryOp.gives_apply (op : BinaryOp) (a b : Value) :
    Gives (op.apply a b) Value.NullFree := by
  have ordered (accept : Ordering → Bool) : Gives (order accept a b) Value.NullFree :=
    .after fun x => .after fun y => .of_ok (.bool _)
  have computed (f : Number → Number → Option Number) : Gives (compute f a b) Value.NullFree := by
    refine .after fun x => .after fun y => ?_
    split
    · exact .of_ok (.number _)
    · exact .of_error _ _
  cases op with
  | or | and => exact .after fun x => .after fun y => .of_ok (.bool _)
  | eq | ne => exact .of_ok (.bool _)
  | lt => exact ordered (· == .lt)
  | le => exact ordered (· != .gt)
  | gt => exact ordered (· == .gt)
  | ge => exact ordered (· != .lt)
  | add | sub | mul | div | mod => exact computed _

/-! ## Expressions -/

mutual

/-- Whether `null` is written nowhere in an expression where it could get into its value. -/
def Expr.isPlain : Expr → Bool
  | .null => false
  | .bool _ | .number _ | .string _ => true
  | .array items => Expr.allPlain items
  | .object items => ObjectItem.allPlain items
  | .template [.interpolation e] => e.isPlain
  | .template _ | .heredoc _ => true
  | .variable _ => true
  | .traversal base _ => base.isPlain
  | .call _ _ => true
  | .paren e => e.isPlain
  | .conditional _ yes no => yes.isPlain && no.isPlain
  | .unary _ _ | .binary _ _ _ => true
  | .forList _ collection value _ => collection.isPlain && value.isPlain
  | .forObject _ collection _ value _ _ => collection.isPlain && value.isPlain

/-- Whether all expressions of a list are plain. -/
def Expr.allPlain : List Expr → Bool
  | [] => true
  | e :: rest => e.isPlain && Expr.allPlain rest

/-- Whether the values of all entries of an object are plain. -/
def ObjectItem.allPlain : List ObjectItem → Bool
  | [] => true
  | .mk _ value :: rest => value.isPlain && ObjectItem.allPlain rest

end

/-- Steps lead from values that are free of null to such values only. -/
theorem Step.gives_evalAll (env : Env) :
    ∀ (steps : List Step) {v : Value}, v.NullFree → Gives (Step.evalAll steps env v) Value.NullFree
  | [], v, free => by
      rw [Step.evalAll]
      exact .of_ok free
  | .member name :: rest, v, free => by
      rw [Step.evalAll]
      exact (free.gives_member name).bind fun _ next => Step.gives_evalAll env rest next
  | .index key :: rest, v, free => by
      rw [Step.evalAll]
      exact .after fun k => (free.gives_index k).bind fun _ next => Step.gives_evalAll env rest next
  | .position i :: rest, v, free => by
      rw [Step.evalAll]
      exact (free.gives_item i).bind fun _ next => Step.gives_evalAll env rest next
  | .eachMember names :: rest, v, free => by
      rw [Step.evalAll]
      refine (Gives.mapM fun x member => ?_).bind fun items each =>
        Step.gives_evalAll env rest (.list each)
      exact .foldlM (fun name _ y free => free.gives_member name) (free.elements x member)
  | .each :: rest, v, free => by
      rw [Step.evalAll]
      refine (Gives.mapM fun x member => ?_).bind fun items each => .of_ok (.list each)
      exact Step.gives_evalAll env rest (free.elements x member)

mutual

/-- A plain expression has no value with null in it, if the names in scope have none. -/
theorem Expr.gives_eval {env : Env} (free : env.NullFree) :
    ∀ e : Expr, e.isPlain = true → Gives (e.eval env) Value.NullFree
  | .bool b, _ => by
      rw [Expr.eval]
      exact .of_ok (.bool b)
  | .number n, _ => by
      rw [Expr.eval]
      exact .of_ok (.number n)
  | .string s, _ => by
      rw [Expr.eval]
      exact .of_ok (.string s)
  | .array items, plain => by
      rw [Expr.eval]
      exact (Expr.gives_evalAll free items plain).bind fun _ each => .of_ok (.list each)
  | .object items, plain => by
      rw [Expr.eval]
      exact (ObjectItem.gives_evalAll free items plain .nil).bind fun _ each => .of_ok (.map each)
  | .template [.interpolation e], plain => by
      rw [Expr.eval]
      exact Expr.gives_eval free e plain
  | .template [], _ | .template (_ :: _ :: _), _ | .template [.literal _], _
  | .template [.choice _ _ _], _ | .template [.loop _ _ _], _ | .template [.unreadable], _
  | .heredoc _, _ => by
      simp only [Expr.eval]
      exact .after fun s => .of_ok (.string s)
  | .variable name, _ => by
      rw [Expr.eval]
      split
      · next found => exact .of_ok (free.lookup found)
      · exact .of_error _ _
  | .traversal base steps, plain => by
      rw [Expr.eval]
      exact (Expr.gives_eval free base plain).bind fun _ start => Step.gives_evalAll env steps start
  | .call name _, _ => by
      rw [Expr.eval]
      exact .of_error _ _
  | .paren e, plain => by
      rw [Expr.eval]
      exact Expr.gives_eval free e plain
  | .conditional test yes no, plain => by
      obtain ⟨plainYes, plainNo⟩ := Bool.and_eq_true_iff.1 plain
      rw [Expr.eval]
      refine .after fun v => .after fun b => ?_
      cases b with
      | true => exact Expr.gives_eval free yes plainYes
      | false => exact Expr.gives_eval free no plainNo
  | .unary op e, _ => by
      rw [Expr.eval]
      exact .after op.gives_apply
  | .binary l op r, _ => by
      rw [Expr.eval]
      exact .after fun a => .after fun b => op.gives_apply a b
  | .forList binder collection value condition, plain => by
      obtain ⟨plainCollection, plainValue⟩ := Bool.and_eq_true_iff.1 plain
      rw [Expr.eval]
      refine (Expr.gives_eval free collection plainCollection).bind fun v held => ?_
      refine held.gives_entries.bind fun entries each => ?_
      refine (Gives.filterMapM fun entry member => ?_).bind fun _ items => .of_ok (.list items)
      obtain ⟨keyFree, valueFree⟩ := each entry member
      refine .after fun c => .after fun b => ?_
      cases b with
      | true =>
          refine (Expr.gives_eval (free.bind binder keyFree valueFree) value plainValue).bind
            fun w held => .of_ok ?_
          rintro _ ⟨⟩
          exact held
      | false => exact .of_ok (by simp)
  | .forObject binder collection key value condition grouped, plain => by
      obtain ⟨plainCollection, plainValue⟩ := Bool.and_eq_true_iff.1 plain
      rw [Expr.eval]
      refine (Expr.gives_eval free collection plainCollection).bind fun v held => ?_
      refine held.gives_entries.bind fun entries each => ?_
      refine Gives.bind (?_ : Gives _ Env.NullFree) fun _ built => .of_ok (.map built)
      refine .foldlM (fun entry member built others => ?_) .nil
      obtain ⟨keyFree, valueFree⟩ := each entry member
      refine .after fun c => .after fun b => ?_
      cases b with
      | true =>
          refine .after fun k => .after fun name => ?_
          exact (Expr.gives_eval (free.bind binder keyFree valueFree) value plainValue).bind
            fun w held => held.gives_collect others grouped name
      | false => exact .of_ok others

/-- Plain expressions give values without null. -/
theorem Expr.gives_evalAll {env : Env} (free : env.NullFree) :
    ∀ items : List Expr, Expr.allPlain items = true →
      Gives (Expr.evalAll items env) fun values => ∀ v ∈ values, v.NullFree
  | [], _ => by
      rw [Expr.evalAll]
      exact .of_ok (by simp)
  | e :: rest, plain => by
      obtain ⟨first, others⟩ := Bool.and_eq_true_iff.1 plain
      rw [Expr.evalAll]
      refine (Expr.gives_eval free e first).bind fun v held => ?_
      refine (Expr.gives_evalAll free rest others).bind fun values each => ?_
      exact .of_ok (List.forall_mem_cons.2 ⟨held, each⟩)

/-- Entries with plain values add values without null. -/
theorem ObjectItem.gives_evalAll {env : Env} (free : env.NullFree) :
    ∀ items : List ObjectItem, ObjectItem.allPlain items = true →
      ∀ {entries : Env}, entries.NullFree →
        Gives (ObjectItem.evalAll items env entries) Env.NullFree
  | [], _, entries, held => by
      rw [ObjectItem.evalAll]
      exact .of_ok held
  | .mk key value :: rest, plain, entries, held => by
      obtain ⟨first, others⟩ := Bool.and_eq_true_iff.1 plain
      rw [ObjectItem.evalAll]
      refine .after fun name => ?_
      refine (Expr.gives_eval free value first).bind fun v added => ?_
      exact ObjectItem.gives_evalAll free rest others (held.insert added name)

end

end InfraLint
