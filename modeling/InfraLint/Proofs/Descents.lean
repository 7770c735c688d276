import InfraLint.Proofs.Responses
import Mathlib.Data.List.Sort

/-!
# Arrays on the way down

A listing follows member names through a response, and arrays on the way are left through any of
their items.  So the strings that it gives are those at the end of a descent (`Json.Found`), and how
the items are spread over arrays makes no difference: a value may stand in an array of its own, items
may change places, and arrays may be joined to the array around them (`Json.Rearranged`).  The
strings of an array are those of its items together (`Json.names_descend`).

Only the arrays on the way are free.  Behind its last name a descent stands at an object, and the
string has to be a member of this object itself.
-/

namespace InfraLint

/-! ## Sets of names -/

namespace Names

theorem pairwise_lt_insert {names : Names} (increasing : names.Pairwise (· < ·)) (name : String) :
    (insert name names).Pairwise (· < ·) := by
  induction names with
  | nil => exact List.pairwise_singleton _ _
  | cons first rest ih =>
      obtain ⟨least, later⟩ := List.pairwise_cons.1 increasing
      rw [insert]
      split
      · next before =>
        refine List.pairwise_cons.2 ⟨fun other member => ?_, increasing⟩
        rcases List.mem_cons.1 member with rfl | member
        · exact before
        · exact String.lt_trans before (least other member)
      · next notBefore =>
        split
        · exact increasing
        · next differs =>
          refine List.pairwise_cons.2 ⟨fun other member => ?_, ih later⟩
          rcases mem_insert.1 member with rfl | member
          · by_contra notBehind
            exact differs (String.le_antisymm notBehind notBefore)
          · exact least other member

/-- Two sets with the same members are the same. -/
theorem ofList_eq_of_mem_iff {first second : List String}
    (same : ∀ name, name ∈ first ↔ name ∈ second) : ofList first = ofList second := by
  have increasing (names : List String) : (ofList names).Pairwise (· < ·) := by
    induction names with
    | nil => exact .nil
    | cons name rest ih => exact pairwise_lt_insert ih name
  have : Std.Antisymm (· < · : String → String → Prop) :=
    ⟨fun _ _ before behind => absurd before (String.lt_asymm behind)⟩
  have : Std.Irrefl (· < · : String → String → Prop) := ⟨String.lt_irrefl⟩
  refine (increasing first).eq_of_mem_iff (increasing second) fun name => ?_
  rw [mem_ofList, mem_ofList, same]

end Names

/-! ## Arrays -/

namespace Json

variable {field : String} {path : List String} {value other : Json} {text : String}

/-- Two values with the same items behind the arrays that a descent along a path can meet.  They
differ in how items are spread over arrays, at the top or under a name of the path. -/
inductive Rearranged : List String → Json → Json → Prop where
  | refl {path : List String} (value : Json) : Rearranged path value value
  | symm {path : List String} {value other : Json} :
      Rearranged path value other → Rearranged path other value
  | trans {path : List String} {first second third : Json} :
      Rearranged path first second → Rearranged path second third → Rearranged path first third
  /-- A value stands in an array of its own. -/
  | wrapped {path : List String} (value : Json) : Rearranged path value (.array [value])
  /-- The items of an array change places. -/
  | permuted {path : List String} {items others : List Json} : items.Perm others →
      Rearranged path (.array items) (.array others)
  /-- An array is joined to the array around it. -/
  | joined {path : List String} (before items after : List Json) :
      Rearranged path (.array (before ++ .array items :: after)) (.array (before ++ items ++ after))
  /-- An item of an array is rearranged. -/
  | item {path : List String} {value other : Json} (before after : List Json) :
      Rearranged path value other →
      Rearranged path (.array (before ++ value :: after)) (.array (before ++ other :: after))
  /-- The member that the path goes on with is rearranged. -/
  | member {key : String} {path : List String} {value other : Json}
      (before after : List (String × Json)) : Rearranged path value other →
      Rearranged (key :: path) (.object (before ++ (key, value) :: after))
        (.object (before ++ (key, other) :: after))

theorem lookupLast_append (name : String) (first second : List (String × Json)) :
    lookupLast name (first ++ second) = (lookupLast name second).or (lookupLast name first) := by
  induction first with
  | nil => simp [lookupLast]
  | cons pair rest ih =>
      rw [List.cons_append, lookupLast, lookupLast, ih]
      cases lookupLast name second <;> rfl

/-- The value of a member, unless a later member has the same name. -/
theorem get?_member (key : String) (value : Json) (before after : List (String × Json)) :
    get? key (.object (before ++ (key, value) :: after)) =
      some ((lookupLast key after).getD value) := by
  rw [get?, lookupLast_append, lookupLast]
  cases lookupLast key after <;> simp

theorem found_object_iff {key : String} {members : List (String × Json)} :
    Found field (key :: path) (.object members) text ↔
      ∃ next, get? key (.object members) = some next ∧ Found field path next text := by
  constructor
  · intro found
    cases found with
    | down there found => exact ⟨_, there, found⟩
  · rintro ⟨next, there, found⟩
    exact .down there found

/-- What is to be found does not depend on how items are spread over arrays. -/
theorem Rearranged.found_iff (rearranged : Rearranged path value other) :
    Found field path value text ↔ Found field path other text := by
  induction rearranged with
  | refl => rfl
  | symm _ ih => exact ih.symm
  | trans _ _ first second => exact first.trans second
  | wrapped value => simp [found_array_iff]
  | permuted same => simp only [found_array_iff, same.mem_iff]
  | joined before items after =>
      simp only [found_array_iff, List.mem_append, List.mem_cons, or_and_right, exists_or,
        exists_eq_left, or_assoc]
  | item before after _ ih =>
      simp only [found_array_iff, List.mem_append, List.mem_cons, or_and_right, exists_or,
        exists_eq_left, ih]
  | @member key path value other before after _ ih =>
      simp only [found_object_iff, get?_member, Option.some.injEq, exists_eq_left']
      cases lookupLast key after with
      | none => exact ih
      | some later => rfl

/-- The strings of a listing are those at the end of a descent.  They do not depend on how items are
spread over the arrays on the way, and those of an array are those of its items together. -/
theorem names_descend (field : String) :
    (∀ path value text, text ∈ Names.ofList (stringsAt field path value) ↔
      Found field path value text) ∧
    (∀ path value other, Rearranged path value other →
      Names.ofList (stringsAt field path value) = Names.ofList (stringsAt field path other)) ∧
    ∀ path items text, text ∈ Names.ofList (stringsAt field path (.array items)) ↔
      ∃ item ∈ items, text ∈ Names.ofList (stringsAt field path item) := by
  refine ⟨fun path value text => ?_, fun path value other rearranged => ?_,
    fun path items text => ?_⟩
  · rw [Names.mem_ofList, mem_stringsAt_iff]
  · refine Names.ofList_eq_of_mem_iff fun text => ?_
    rw [mem_stringsAt_iff, mem_stringsAt_iff, rearranged.found_iff]
  · simp only [Names.mem_ofList, mem_stringsAt_iff, found_array_iff]

/-- A machine with its identifier. -/
def machine (id : String) : Json := .object [("InstanceId", .string id), ("Tags", .null)]

/-- A reservation of machines. -/
def reservation (machines : Json) : Json := .object [("Instances", machines)]

/-- A response with two reservations and a scalar between them. -/
def plainResponse : Json :=
  .object [("Reservations", .array [reservation (.array [machine "i-1"]), .bool true,
    reservation (.array [machine "i-2"])])]

/-- The same with the second reservation first and in an array of its own, and the machine of the
other one without an array. -/
def spreadResponse : Json :=
  .object [("Reservations", .array [.array [reservation (.array [machine "i-2"])],
    reservation (machine "i-1"), .bool true])]

/-- Both responses list the same machines. -/
theorem names_descend_reservations :
    Rearranged ["Reservations", "Instances"] plainResponse spreadResponse ∧
    Names.ofList (stringsAt "InstanceId" ["Reservations", "Instances"] plainResponse) =
      ["i-1", "i-2"] ∧
    Names.ofList (stringsAt "InstanceId" ["Reservations", "Instances"] spreadResponse) =
      ["i-1", "i-2"] := by
  have moved : Rearranged ["Instances"]
      (.array [reservation (.array [machine "i-1"]), .bool true,
        reservation (.array [machine "i-2"])])
      (.array [reservation (.array [machine "i-2"]), reservation (.array [machine "i-1"]),
        .bool true]) :=
    .permuted (@List.perm_append_comm _ [_, _] [_])
  have single : Rearranged ["Instances"] (reservation (.array [machine "i-1"]))
      (reservation (machine "i-1")) :=
    .member [] [] (.symm (.wrapped _))
  have rearranged : Rearranged ["Reservations", "Instances"] plainResponse spreadResponse :=
    .member [] [] (moved.trans ((Rearranged.item [] _ (.wrapped _)).trans (.item [_] [_] single)))
  have plain : Names.ofList (stringsAt "InstanceId" ["Reservations", "Instances"] plainResponse) =
      ["i-1", "i-2"] := by decide
  exact ⟨rearranged, plain, ((names_descend "InstanceId").2.1 _ _ _ rearranged).symm.trans plain⟩

end Json

end InfraLint
