import InfraLint.Proofs.Records

/-!
# State documents with members in another order

The members of a JSON object stand in no order that means anything, apart from repeated names, of
which the last one counts.  `Json.Reordered` says that two values differ in this order only, anywhere
inside: neighbours with different names have traded places, any number of times.

Reading a state document hardly depends on it.  What is decoded from a value after one trade is
alike to what was decoded before (`StateDocument.stable_ofJson?`), so the snapshot of either document
describes the other one.  Two snapshots that describe one document agree in what they record, and in
the record of each type and name that the document settles (`Snapshot.agrees_of_reordered`).

A type and name that only the older layout deploys is settled if all its entries in the last module
that has one tell the same.  The entries of a counted resource do not, since they share a type and
name and have identifiers of their own.  Of these the one that is enumerated last counts
(`Snapshot.not_forall_records_agree`).
-/

namespace InfraLint

/-! ## Options that are related -/

section

variable {α β γ δ : Type} {R : α → β → Prop} {S : γ → δ → Prop}

theorem rel_bind {x : Option α} {y : Option β} {f : α → Option γ} {g : β → Option δ}
    (related : Option.Rel R x y) (after : ∀ a b, R a b → Option.Rel S (f a) (g b)) :
    Option.Rel S (x.bind f) (y.bind g) := by
  cases related with
  | none => exact .none
  | some same => exact after _ _ same

theorem rel_imp {T : α → β → Prop} {x : Option α} {y : Option β} (related : Option.Rel R x y)
    (stronger : ∀ a b, x = some a → y = some b → R a b → T a b) : Option.Rel T x y := by
  cases related with
  | none => exact .none
  | some same => exact .some (stronger _ _ rfl rfl same)

theorem exists_of_rel {x : Option α} {y : Option β} {a : α} (related : Option.Rel R x y)
    (found : x = some a) : ∃ b, y = some b ∧ R a b := by
  subst found
  cases related with
  | some same => exact ⟨_, rfl, same⟩

theorem exists_of_rel_right {x : Option α} {y : Option β} {b : β} (related : Option.Rel R x y)
    (found : y = some b) : ∃ a, x = some a ∧ R a b := by
  subst found
  cases related with
  | some same => exact ⟨_, rfl, same⟩

theorem eq_of_rel {x y : Option α} (same : Option.Rel Eq x y) : x = y := by
  cases same with
  | none => rfl
  | some same => rw [same]

theorem rel_refl {T : α → α → Prop} (refl : ∀ a, T a a) (x : Option α) : Option.Rel T x x := by
  cases x with
  | none => exact .none
  | some a => exact .some (refl a)

theorem rel_mapM {f : α → Option γ} {g : β → Option δ} {items : List α} {others : List β}
    (same : List.Forall₂ R items others) (each : ∀ a b, R a b → Option.Rel S (f a) (g b)) :
    Option.Rel (List.Forall₂ S) (items.mapM f) (others.mapM g) := by
  induction same with
  | nil => exact .some .nil
  | cons alike _ ih =>
      simp only [List.mapM_cons, Option.bind_eq_bind]
      exact rel_bind (each _ _ alike) fun _ _ first =>
        rel_bind ih fun _ _ rest => .some (.cons first rest)

end

theorem forall₂_replace {α : Type} {R : α → α → Prop} (refl : ∀ item, R item item)
    {before after : List α} {item other : α} (same : R item other) :
    List.Forall₂ R (before ++ item :: after) (before ++ other :: after) :=
  List.rel_append (List.forall₂_same.2 fun item _ => refl item)
    (.cons same (List.forall₂_same.2 fun item _ => refl item))

theorem rel_getElem? {α β : Type} {R : α → β → Prop} {items : List α} {others : List β}
    (same : List.Forall₂ R items others) (index : Nat) :
    Option.Rel R items[index]? others[index]? := by
  induction same generalizing index with
  | nil => exact .none
  | cons alike _ ih =>
      cases index with
      | zero => exact .some alike
      | succ index => exact ih index

/-! ## Neighbours that trade places -/

section

variable {α β : Type} {before after : List α} {first second : α}

theorem filter_swap {p : α → Bool} (apart : ¬ (p first = true ∧ p second = true)) :
    (before ++ first :: second :: after).filter p =
      (before ++ second :: first :: after).filter p := by
  simp only [List.filter_append, List.filter_cons]
  cases isFirst : p first <;> cases isSecond : p second <;> simp_all

/-- Of two neighbours that do not both have the property, the order makes no difference. -/
theorem IsLast.swap {has : α → Prop} {item : α} (apart : ¬ (has first ∧ has second))
    (last : IsLast has (before ++ first :: second :: after) item) :
    IsLast has (before ++ second :: first :: after) item := by
  induction before with
  | nil =>
      cases last with
      | here holds none =>
          exact .there (.here holds fun later member => none later (List.mem_cons_of_mem _ member))
      | there last =>
          cases last with
          | here holds none =>
              refine .here holds fun later member => ?_
              rcases List.mem_cons.1 member with rfl | member
              · exact fun holds' => apart ⟨holds', holds⟩
              · exact none later member
          | there last => exact .there (.there last)
  | cons other rest ih =>
      cases last with
      | here holds none =>
          refine .here holds fun later member => none later ?_
          exact ((List.Perm.swap ..).append_left rest).mem_iff.1 member
      | there last => exact .there (ih last)

theorem lookup_ofPairs_swap {κ : Type} [BEq κ] [LawfulBEq κ] {before after : List (κ × α)}
    {first second : κ × α} (apart : first.1 ≠ second.1) (key : κ) :
    (Assoc.ofPairs (before ++ first :: second :: after)).lookup key =
      (Assoc.ofPairs (before ++ second :: first :: after)).lookup key := by
  have apart' : ¬ (first.1 = key ∧ second.1 = key) := fun both => apart (both.1.trans both.2.symm)
  ext value
  simp only [Assoc.lookup_ofPairs_eq_some_iff]
  exact ⟨.swap apart', .swap fun both => apart' both.symm⟩

theorem rel_mapM_swap (f : α → Option β) :
    Option.Rel (fun items others => ∃ before after first' second', f first = some first' ∧
        f second = some second' ∧ items = before ++ first' :: second' :: after ∧
        others = before ++ second' :: first' :: after)
      ((before ++ first :: second :: after).mapM f)
      ((before ++ second :: first :: after).mapM f) := by
  simp only [List.mapM_append, List.mapM_cons, Option.bind_eq_bind]
  cases before.mapM f with
  | none => exact .none
  | some before =>
      cases made : f first with
      | none => cases f second <;> exact .none
      | some first' =>
          cases made' : f second with
          | none => exact .none
          | some second' =>
              cases after.mapM f with
              | none => exact .none
              | some after => exact .some ⟨before, after, first', second', rfl, rfl, rfl, rfl⟩

end

/-- Two entries have one key, and what is under it is related. -/
def SameKey {α : Type} (R : α → α → Prop) (entry other : String × α) : Prop :=
  entry.1 = other.1 ∧ R entry.2 other.2

namespace Assoc

variable {α : Type} {R : α → α → Prop} {entries others : List (String × α)}

theorem forall₂_insert {value other : α} (key : String) (alike : R value other)
    (same : List.Forall₂ (SameKey R) entries others) :
    List.Forall₂ (SameKey R) (insert key value entries) (insert key other others) := by
  induction same with
  | nil => exact .cons ⟨rfl, alike⟩ .nil
  | @cons entry entry' rest rest' first others ih =>
      obtain ⟨name, bound⟩ := entry
      obtain ⟨_, bound'⟩ := entry'
      obtain ⟨rfl, first⟩ := first
      rw [insert, insert]
      split
      · exact .cons ⟨rfl, alike⟩ others
      · exact .cons ⟨rfl, first⟩ ih

/-- Maps made from pairs with the same keys have entries under the same keys. -/
theorem rel_lookup_foldl_insert {pairs pairs' : List (String × α)}
    (each : List.Forall₂ (SameKey R) pairs pairs') (same : List.Forall₂ (SameKey R) entries others)
    (key : String) : Option.Rel R
      ((pairs.foldl (fun entries (key, value) => insert key value entries) entries).lookup key)
      ((pairs'.foldl (fun entries (key, value) => insert key value entries) others).lookup key) := by
  induction each generalizing entries others with
  | nil =>
      induction same with
      | nil => exact .none
      | @cons entry entry' rest rest' first _ ih =>
          obtain ⟨name, bound⟩ := entry
          obtain ⟨_, bound'⟩ := entry'
          obtain ⟨rfl, first⟩ := first
          simp only [List.foldl_nil, List.lookup_cons] at ih ⊢
          split
          · exact .some first
          · exact ih
  | @cons pair other _ _ first _ ih =>
      obtain ⟨name, value⟩ := pair
      obtain ⟨_, value'⟩ := other
      obtain ⟨rfl, first⟩ := first
      exact ih (forall₂_insert name first same)

end Assoc

/-! ## Reordered values -/

namespace Json

/-- Two members of an object somewhere in a value, next to each other and of different names, have
traded places. -/
inductive Swapped : Json → Json → Prop where
  | here {before after : List (String × Json)} {first second : String × Json} :
      first.1 ≠ second.1 →
      Swapped (.object (before ++ first :: second :: after))
        (.object (before ++ second :: first :: after))
  | item {before after : List Json} {item other : Json} :
      Swapped item other →
      Swapped (.array (before ++ item :: after)) (.array (before ++ other :: after))
  | member {before after : List (String × Json)} {name : String} {value other : Json} :
      Swapped value other →
      Swapped (.object (before ++ (name, value) :: after))
        (.object (before ++ (name, other) :: after))

/-- The members of objects anywhere in a value stand in another order. -/
def Reordered : Json → Json → Prop := Relation.ReflTransGen Swapped

/-- Two values are the same or two members of one of them have traded places. -/
abbrev Near : Json → Json → Prop := Relation.ReflGen Swapped

theorem Swapped.symm {json other : Json} (swapped : Swapped json other) : Swapped other json := by
  induction swapped with
  | here apart => exact .here apart.symm
  | item _ ih => exact .item ih
  | member _ ih => exact .member ih

/-! ## Decoding -/

/-- What is decoded from a value stays the same, up to a relation, when two members trade places. -/
def Stable {α : Type} (decode : Json → Option α) (R : α → α → Prop) : Prop :=
  ∀ ⦃json other⦄, Swapped json other → Option.Rel R (decode json) (decode other)

variable {α : Type} {decode : Json → Option α} {R : α → α → Prop} {json other : Json}

theorem Stable.near (stable : Stable decode R) (refl : ∀ a, R a a) (near : Near json other) :
    Option.Rel R (decode json) (decode other) := by
  cases near with
  | refl => exact rel_refl refl _
  | single swapped => exact stable swapped

/-- Scalars have no members. -/
theorem stable_string? : Stable string? Eq := by
  intro json other swapped
  cases swapped <;> exact .none

theorem stable_optional_string? : Stable (optional? string?) Eq := by
  intro json other swapped
  cases swapped <;> exact .none

theorem scalarText?_of_near (near : Near json other) : json.scalarText? = other.scalarText? := by
  cases near with
  | refl => rfl
  | single swapped => cases swapped <;> rfl

theorem areSound_append (items others : List Json) :
    areSound (items ++ others) = (areSound items && areSound others) := by
  induction items with
  | nil => rfl
  | cons item rest ih => rw [List.cons_append, areSound, areSound, ih, Bool.and_assoc]

theorem membersSound_append (members others : List (String × Json)) :
    membersSound (members ++ others) = (membersSound members && membersSound others) := by
  induction members with
  | nil => rfl
  | cons member rest ih => rw [List.cons_append, membersSound, membersSound, ih, Bool.and_assoc]

theorem isSound_of_swapped (swapped : Swapped json other) : json.isSound = other.isSound := by
  induction swapped with
  | here => simp only [isSound, membersSound_append, membersSound, Bool.and_left_comm]
  | item _ ih => simp only [isSound, areSound_append, areSound, ih]
  | member _ ih => simp only [isSound, membersSound_append, membersSound, ih]

theorem stable_sound? : Stable sound? Near := by
  intro json other swapped
  rw [sound?, sound?, isSound_of_swapped swapped]
  split
  · exact .some (.single swapped)
  · exact .none

theorem stable_listOf? (stable : Stable decode R) (refl : ∀ a, R a a) :
    Stable (listOf? decode) (List.Forall₂ R) := by
  intro json other swapped
  cases swapped with
  | here | member => exact .none
  | item swapped =>
      exact rel_mapM (forall₂_replace (fun _ => .refl) (.single swapped)) fun _ _ near =>
        stable.near refl near

theorem forall₂_member (before after : List (String × Json)) (name : String) {value other : Json}
    (swapped : Swapped value other) :
    List.Forall₂ (SameKey Near) (before ++ (name, value) :: after)
      (before ++ (name, other) :: after) :=
  forall₂_replace (fun _ => ⟨rfl, .refl⟩) ⟨rfl, .single swapped⟩

/-- The fields of a record are found in other places. -/
theorem stable_fields? (names : List String) :
    Stable (fields? names) (List.Forall₂ (Option.Rel Near)) := by
  intro json other swapped
  cases swapped with
  | @here before after first second apart =>
      refine rel_mapM (List.forall₂_same.2 fun name _ => rfl) fun name _ same => ?_
      subst same
      have found : (before ++ first :: second :: after).filter (·.1 == name) =
          (before ++ second :: first :: after).filter (·.1 == name) := by
        refine filter_swap fun both => apart ?_
        rw [eq_of_beq both.1, eq_of_beq both.2]
      rw [found]
      exact rel_refl (rel_refl fun _ => .refl) _
  | @item before after item other swapped =>
      have each : List.Forall₂ Near (before ++ item :: after) (before ++ other :: after) :=
        forall₂_replace (fun _ => .refl) (.single swapped)
      rw [fields?, fields?, each.length_eq]
      split
      · refine .some ?_
        rw [List.forall₂_map_left_iff, List.forall₂_map_right_iff]
        exact List.forall₂_same.2 fun index _ => rel_getElem? each index
      · exact .none
  | @member before after name value other swapped =>
      refine rel_mapM (List.forall₂_same.2 fun name _ => rfl) fun name' _ same => ?_
      subst same
      have each := forall₂_member before after name swapped
      have found := List.rel_filter (p := (·.1 == name')) (q := (·.1 == name'))
        (fun _ _ alike => Iff.of_eq (congrArg (fun key => (key == name') = true) alike.1)) each
      generalize List.filter _ (before ++ (name, value) :: after) = given at found ⊢
      generalize List.filter _ (before ++ (name, other) :: after) = given' at found ⊢
      cases found with
      | nil => exact .some .none
      | cons first rest =>
          cases rest with
          | nil => exact .some (.some first.2)
          | cons => exact .none

theorem stable_mapOf? (stable : Stable decode R) (refl : ∀ a, R a a) :
    Stable (mapOf? decode) fun entries others => ∀ key,
      Option.Rel R (entries.lookup key) (others.lookup key) := by
  intro json other swapped
  cases swapped with
  | @here before after first second apart =>
      refine rel_bind (rel_mapM_swap _) ?_
      rintro _ _ ⟨pairs, pairs', first', second', made, made', rfl, rfl⟩
      obtain ⟨value, -, made⟩ := Option.bind_eq_some_iff.1 made
      obtain ⟨value', -, made'⟩ := Option.bind_eq_some_iff.1 made'
      cases made
      cases made'
      refine .some fun key => ?_
      rw [lookup_ofPairs_swap (show (first.1, value).1 ≠ (second.1, value').1 from apart)]
      exact rel_refl refl _
  | item => exact .none
  | @member before after name value other swapped =>
      have each := forall₂_member before after name swapped
      have decoded := rel_mapM each fun (member member' : String × Json) alike => show
          Option.Rel (SameKey R) ((decode member.2).bind fun a => some (member.1, a))
            ((decode member'.2).bind fun a => some (member'.1, a)) from
        rel_bind (stable.near refl alike.2) fun _ _ same => .some ⟨alike.1, same⟩
      exact rel_bind decoded fun _ _ same => .some fun key =>
        Assoc.rel_lookup_foldl_insert same .nil key

variable {field field' : Option Json}

theorem rel_withDefault (stable : Stable decode R) (refl : ∀ a, R a a) (default : α)
    (near : Option.Rel Near field field') :
    Option.Rel R (withDefault decode default field) (withDefault decode default field') := by
  cases near with
  | none => exact .some (refl default)
  | some near => exact stable.near refl near

theorem rel_required (stable : Stable decode R) (refl : ∀ a, R a a)
    (near : Option.Rel Near field field') :
    Option.Rel R (required decode field) (required decode field') :=
  rel_bind near fun _ _ near => stable.near refl near

end Json

/-! ## Reading a reordered document -/

namespace StateDocument

open Json

theorem stable_legacyPrimary? : Stable legacyPrimary? fun primary other =>
    primary.1 = other.1 ∧ ∀ key, primary.2.lookup key = other.2.lookup key := by
  intro json other swapped
  refine rel_bind (stable_fields? _ swapped) fun fields others same => ?_
  -- one case for each number of fields, of which only the right one gives anything
  rcases same with _ | ⟨id, _ | ⟨attributes, _ | _⟩⟩
  · exact .none
  · exact .none
  · refine rel_bind (rel_withDefault stable_string? (fun _ => rfl) "" id) ?_
    rintro id _ rfl
    have texts := rel_withDefault (stable_mapOf? stable_string? fun _ => rfl)
      (fun _ _ => rel_refl (fun _ => rfl) _) [] attributes
    exact rel_bind texts fun _ _ same => .some ⟨rfl, fun key => eq_of_rel (same key)⟩
  · exact .none

theorem stable_legacyEntry? : Stable legacyEntry? LegacyEntry.Alike := by
  intro json other swapped
  refine rel_bind (stable_fields? _ swapped) fun fields others same => ?_
  rcases same with _ | ⟨type, _ | ⟨primary, _ | _⟩⟩
  · exact .none
  · exact .none
  · refine rel_bind (rel_required stable_string? (fun _ => rfl) type) ?_
    rintro type _ rfl
    have instance' := rel_withDefault stable_legacyPrimary? (fun _ => ⟨rfl, fun _ => rfl⟩) ("", [])
      primary
    exact rel_bind instance' fun _ _ same => .some ⟨rfl, same.1, same.2⟩
  · exact .none

theorem modulesAlike_of_rel {entries others : List (String × LegacyEntry)}
    (distinct : (entries.map (·.1)).Nodup) (distinct' : (others.map (·.1)).Nodup)
    (same : ∀ key, Option.Rel LegacyEntry.Alike (entries.lookup key) (others.lookup key)) :
    ModulesAlike entries others where
  left key entry member := by
    obtain ⟨other, found, alike⟩ := exists_of_rel (same key)
      ((Assoc.mem_iff_lookup distinct).1 member)
    exact ⟨other, (Assoc.mem_iff_lookup distinct').2 found, alike⟩
  right key other member := by
    obtain ⟨entry, found, alike⟩ := exists_of_rel_right (same key)
      ((Assoc.mem_iff_lookup distinct').1 member)
    exact ⟨entry, (Assoc.mem_iff_lookup distinct).2 found, alike⟩

theorem stable_mapOf?_legacyEntry? : Stable (mapOf? legacyEntry?) ModulesAlike := by
  intro json other swapped
  have same := stable_mapOf? stable_legacyEntry? LegacyEntry.Alike.refl swapped
  exact rel_imp same fun entries others read read' same =>
    modulesAlike_of_rel (nodup_of_mapOf? read) (nodup_of_mapOf? read') same

theorem stable_legacyModule? : Stable legacyModule? ModulesAlike := by
  intro json other swapped
  refine rel_bind (stable_fields? _ swapped) fun fields others same => ?_
  rcases same with _ | ⟨resources, _ | _⟩
  · exact .none
  · exact rel_withDefault stable_mapOf?_legacyEntry? (fun _ => .of_perm (.refl _)) [] resources
  · exact .none

theorem stable_instanceEntry? : Stable instanceEntry? fun attributes others => ∀ key,
    (attributes.lookup key).bind scalarText? = (others.lookup key).bind scalarText? := by
  intro json other swapped
  refine rel_bind (stable_fields? _ swapped) fun fields others same => ?_
  rcases same with _ | ⟨attributes, _ | _⟩
  · exact .none
  · have values := rel_withDefault (stable_mapOf? stable_sound? fun _ => .refl)
      (fun _ _ => rel_refl (fun _ => .refl) _) [] attributes
    refine rel_imp values fun attributes others _ _ same key => ?_
    refine eq_of_rel (rel_bind (same key) fun value other near => ?_)
    rw [scalarText?_of_near near]
    exact rel_refl (fun _ => rfl) _
  · exact .none

theorem stable_currentEntry? : Stable currentEntry? CurrentEntry.Alike := by
  intro json other swapped
  refine rel_bind (stable_fields? _ swapped) fun fields others same => ?_
  rcases same with _ | ⟨mode, _ | ⟨type, _ | ⟨name, _ | ⟨instances, _ | _⟩⟩⟩⟩
  · exact .none
  · exact .none
  · exact .none
  · exact .none
  · refine rel_bind (rel_withDefault stable_optional_string? (fun _ => rfl) none mode) ?_
    rintro mode _ rfl
    refine rel_bind (rel_required stable_string? (fun _ => rfl) type) ?_
    rintro type _ rfl
    refine rel_bind (rel_required stable_string? (fun _ => rfl) name) ?_
    rintro name _ rfl
    have listed := rel_withDefault (stable_listOf? stable_instanceEntry? fun _ _ => rfl)
      (fun _ => List.forall₂_same.2 fun _ _ _ => rfl) [] instances
    exact rel_bind listed fun _ _ same => .some ⟨rfl, rfl, rfl, same⟩
  · exact .none

theorem stable_ofJson? : Stable ofJson? Alike := by
  intro json other swapped
  refine rel_bind (stable_fields? _ swapped) fun fields others same => ?_
  rcases same with _ | ⟨modules, _ | ⟨resources, _ | _⟩⟩
  · exact .none
  · exact .none
  · have older := rel_withDefault (stable_listOf? stable_legacyModule? fun _ => .of_perm (.refl _))
      (fun _ => List.forall₂_same.2 fun _ _ => .of_perm (.refl _)) [] modules
    have current := rel_withDefault (stable_listOf? stable_currentEntry? CurrentEntry.Alike.refl)
      (fun _ => List.forall₂_same.2 fun _ _ => .refl _) [] resources
    exact rel_bind older fun _ _ same => rel_bind current fun _ _ same' => .some ⟨same, same'⟩
  · exact .none

/-- A value that is reordered is still read as a document, and the snapshot of this document describes
the document that was read before. -/
theorem exists_of_reordered {json other : Json} {document : StateDocument}
    (read : ofJson? json = some document) (same : json.Reordered other) :
    ∃ document', ofJson? other = some document' ∧
      ∀ snapshot : Snapshot, snapshot.Describes document' → snapshot.Describes document := by
  induction same with
  | refl => exact ⟨document, read, fun _ => id⟩
  | tail _ swapped ih =>
      -- one more trade: a snapshot is carried back over it, then over those before
      obtain ⟨document', read', carries⟩ := ih
      obtain ⟨document'', read'', alike⟩ := exists_of_rel_right (stable_ofJson? swapped.symm) read'
      exact ⟨document'', read'', fun snapshot describes => carries snapshot (describes.of_alike alike)⟩

/-- A document settles what the record of a type and name tells: the current layout deploys it, or all
entries for it in the last module that has one tell the same. -/
def Settles (document : StateDocument) (type name : String) : Prop :=
  (∃ entry ∈ document.resources, entry.Deploys type name) ∨
    ∀ entries, IsLast (ModuleDeploys type name) document.modules entries →
      ∀ key entry key' entry', (key, entry) ∈ entries → entry.Deploys key type name →
        (key', entry') ∈ entries → entry'.Deploys key' type name → entry.Alike entry'

end StateDocument

/-! ## Snapshots that agree -/

/-- Two records tell the same. -/
structure Recorded.Alike (recorded other : Recorded) : Prop where
  type : recorded.type = other.type
  name : recorded.name = other.name
  id : recorded.id = other.id
  texts : ∀ key, recorded.attribute? key = other.attribute? key

namespace Snapshot

variable {snapshot other : Snapshot} {document : StateDocument} {type name : String}

/-- Two snapshots record the same types and names, and for those that a document settles the records
tell the same. -/
structure Agrees (snapshot other : Snapshot) (document : StateDocument) : Prop where
  contains : ∀ type name, snapshot.contains type name = other.contains type name
  size : snapshot.size = other.size
  records : ∀ type name, document.Settles type name →
    Option.Rel Recorded.Alike (snapshot.get? type name) (other.get? type name)

theorem Describes.contains_eq (first : snapshot.Describes document)
    (second : other.Describes document) (type name : String) :
    snapshot.contains type name = other.contains type name := by
  rw [Bool.eq_iff_iff, first.contains, second.contains]

theorem Describes.size_eq (first : snapshot.Describes document)
    (second : other.Describes document) : snapshot.size = other.size := by
  obtain ⟨pairs, distinct, listed, size⟩ := first.size
  obtain ⟨pairs', distinct', listed', size'⟩ := second.size
  have same : pairs.Perm pairs' := (List.perm_ext_iff_of_nodup distinct distinct').2 fun pair => by
    rw [listed, listed', first.contains_eq second]
  rw [size, size', same.length_eq]

/-- In the current layout it is settled which instance counts. -/
theorem Describes.rel_get?_of_current (first : snapshot.Describes document)
    (second : other.Describes document)
    (deployed : ∃ entry ∈ document.resources, entry.Deploys type name) :
    Option.Rel Recorded.Alike (snapshot.get? type name) (other.get? type name) := by
  obtain ⟨entry, attributes, recorded, last, final, got, made⟩ := first.current type name deployed
  obtain ⟨entry', attributes', recorded', last', final', got', made'⟩ :=
    second.current type name deployed
  cases last.unique last'
  cases final.symm.trans final'
  rw [got, got']
  refine .some ⟨made.type.trans made'.type.symm, made.name.trans made'.name.symm,
    made.id.trans made'.id.symm, fun key => (made.texts key).trans (made'.texts key).symm⟩

theorem Describes.rel_get? (first : snapshot.Describes document) (second : other.Describes document)
    (settled : document.Settles type name) :
    Option.Rel Recorded.Alike (snapshot.get? type name) (other.get? type name) := by
  by_cases current : ∃ entry ∈ document.resources, entry.Deploys type name
  · exact first.rel_get?_of_current second current
  by_cases older : ∃ entries ∈ document.modules, ModuleDeploys type name entries
  · obtain ⟨entries, key, entry, recorded, last, member, deploys, got, copy⟩ :=
      first.legacy type name current older
    obtain ⟨entries', key', entry', recorded', last', member', deploys', got', copy'⟩ :=
      second.legacy type name current older
    cases last.unique last'
    have same := settled.resolve_left current entries last key entry key' entry' member deploys
      member' deploys'
    rw [got, got']
    refine .some ⟨copy.type.trans copy'.type.symm, copy.name.trans copy'.name.symm, ?_,
      fun key => ?_⟩
    · rw [copy.id, copy'.id, same.id]
    · rw [copy.texts, copy'.texts, same.texts]
  · have absent {snapshot : Snapshot} (describes : snapshot.Describes document) :
        snapshot.get? type name = none := by
      rw [← Option.not_isSome_iff_eq_none]
      exact fun recorded => ((describes.contains type name).1 recorded).elim older current
    rw [absent first, absent second]
    exact .none

theorem Describes.agrees (first : snapshot.Describes document) (second : other.Describes document) :
    snapshot.Agrees other document :=
  ⟨first.contains_eq second, first.size_eq second, fun _ _ => first.rel_get? second⟩

/-- If the members of objects in a state document are put in another order, it is still one.  Whatever
the order in which the entries of its modules are then gone through, its snapshot describes what has
been read before, and agrees with the snapshot from before. -/
theorem agrees_of_reordered {content : String} {json json' : Json} {snapshot : Snapshot}
    (parsed : parse? content = some snapshot) (read : Json.parse? content = some json)
    (same : json.Reordered json') :
    ∃ document document', StateDocument.ofJson? json = some document ∧
      StateDocument.ofJson? json' = some document' ∧ snapshot.Describes document ∧
      ∀ order : StateDocument, order.IsOrderOf document' →
        (ofDocument order).Describes document ∧ snapshot.Agrees (ofDocument order) document := by
  obtain ⟨json, document, read', decoded, rfl⟩ := exists_document_of_parse? parsed
  cases read.symm.trans read'
  have describes := describes_ofDocument (StateDocument.hasDistinctAttributes_of_ofJson? decoded)
  obtain ⟨document', decoded', carries⟩ := StateDocument.exists_of_reordered decoded same
  have distinct := StateDocument.hasDistinctAttributes_of_ofJson? decoded'
  refine ⟨document, document', decoded, decoded', describes, fun order same => ?_⟩
  have describes' := carries _ (describes_of_isOrderOf distinct same)
  exact ⟨describes', describes.agrees describes'⟩

end Snapshot

/-! ## Entries that share a name -/

/-- The two entries of a module of the older layout, if these are all there is, trade places. -/
def Json.exchanged : Json → Json
  | .object [(modules, .array [.object [(resources, .object [first, second])]])] =>
    .object [(modules, .array [.object [(resources, .object
      (if first.1 = second.1 then [first, second] else [second, first]))]])]
  | other => other

theorem Json.reordered_exchanged (json : Json) : json.Reordered json.exchanged := by
  unfold exchanged
  split
  · next modules resources first second =>
    split
    · exact .refl
    · next apart =>
      have here := @Swapped.here [] [] first second apart
      have inModule := @Swapped.member [] [] resources _ _ here
      have inList := @Swapped.item [] [] _ _ inModule
      exact .single (@Swapped.member [] [] modules _ _ inList)
  · exact .refl

namespace Snapshot

/-- Two entries of the older layout under given keys. -/
def twoEntries (first second : String) : String :=
  "\x7b\"modules\":[\x7b\"resources\":\x7b\"" ++ first ++ "\":\x7b\"type\":\"vpc\"," ++
    "\"primary\":\x7b\"id\":\"0\"\x7d\x7d,\"" ++ second ++ "\":\x7b\"type\":\"vpc\"," ++
    "\"primary\":\x7b\"id\":\"1\"\x7d\x7d\x7d\x7d]\x7d"

/-- The identifier of `vpc.a` in the snapshots of a text and of the text with its two entries
exchanged. -/
def identifiers (content : String) : Option (Option String × Option String) := do
  let json ← Json.parse? content
  let document ← StateDocument.ofJson? json
  let document' ← StateDocument.ofJson? json.exchanged
  return (((ofDocument document).get? "vpc" "a").map (·.id),
    ((ofDocument document').get? "vpc" "a").map (·.id))

theorem exists_of_identifiers {content : String} {first second : Option String}
    (shown : identifiers content = some (first, second)) :
    ∃ snapshot json document', parse? content = some snapshot ∧
      Json.parse? content = some json ∧ StateDocument.ofJson? json.exchanged = some document' ∧
      (snapshot.get? "vpc" "a").map (·.id) = first ∧
      ((ofDocument document').get? "vpc" "a").map (·.id) = second := by
  obtain ⟨json, read, shown⟩ := Option.bind_eq_some_iff.1 shown
  obtain ⟨document, decoded, shown⟩ := Option.bind_eq_some_iff.1 shown
  obtain ⟨document', decoded', made⟩ := Option.bind_eq_some_iff.1 shown
  cases made
  refine ⟨ofDocument document, json, document', ?_, read, decoded', rfl, rfl⟩
  exact Option.bind_eq_some_iff.2 ⟨json, read, Option.bind_eq_some_iff.2 ⟨document, decoded, rfl⟩⟩

/-- Where each entry has a name of its own, the order makes no difference. -/
theorem agrees_of_reordered_twoNames :
    ∃ snapshot json document document', parse? (twoEntries "vpc.a" "vpc.b") = some snapshot ∧
      Json.parse? (twoEntries "vpc.a" "vpc.b") = some json ∧
      StateDocument.ofJson? json = some document ∧
      StateDocument.ofJson? json.exchanged = some document' ∧
      snapshot.Agrees (ofDocument document') document ∧
      (snapshot.get? "vpc" "a").map (·.id) = some "0" ∧
      ((ofDocument document').get? "vpc" "a").map (·.id) = some "0" := by
  have shown : identifiers (twoEntries "vpc.a" "vpc.b") = some (some "0", some "0") := by
    decide +kernel
  obtain ⟨snapshot, json, document', parsed, read, decoded', id, id'⟩ := exists_of_identifiers shown
  obtain ⟨document, _, decoded, decoded'', -, agrees⟩ :=
    agrees_of_reordered parsed read json.reordered_exchanged
  cases decoded'.symm.trans decoded''
  exact ⟨snapshot, json, document, document', parsed, read, decoded, decoded',
    (agrees document' (.refl document')).2, id, id'⟩

/-- Two entries of one counted resource have one name, and the record is that of the last one.  So a
snapshot is not the same for every order of the members. -/
theorem not_forall_records_agree :
    ¬ ∀ (content : String) (json json' : Json) (snapshot : Snapshot) (document' : StateDocument)
        (type name : String), parse? content = some snapshot → Json.parse? content = some json →
      json.Reordered json' → StateDocument.ofJson? json' = some document' →
      Option.Rel Recorded.Alike (snapshot.get? type name)
        ((ofDocument document').get? type name) := by
  intro always
  have shown : identifiers (twoEntries "vpc.a.0" "vpc.a.1") = some (some "1", some "0") := by
    decide +kernel
  obtain ⟨snapshot, json, document', parsed, read, decoded', id, id'⟩ := exists_of_identifiers shown
  have related := always _ _ _ snapshot document' "vpc" "a" parsed read json.reordered_exchanged
    decoded'
  obtain ⟨recorded, got, last⟩ := Option.map_eq_some_iff.1 id
  obtain ⟨other, got', first⟩ := exists_of_rel related got
  rw [got', Option.map_some, Option.some_inj, ← first.id, last] at id'
  exact absurd id' (by decide)

end Snapshot

end InfraLint
