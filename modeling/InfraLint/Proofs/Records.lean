import InfraLint.Proofs.Citations
import InfraLint.State

/-!
# What a snapshot records

A state document gives its records one after the other, and the snapshot keeps the last one of each
type and name.  So everything about a snapshot is about last items (`IsLast`): the record of a type
and name is the last one in the document (`Snapshot.get?_ofDocument_eq_some_iff`), and it comes from
the last entry that gives one.

`LegacyEntry.Deploys` and `CurrentEntry.Deploys` say which entries give a record of a type and name,
and `Snapshot.Describes` says what a snapshot is in terms of them.  In the current layout the last
entry counts.  In the older one the entries of a module are the members of an object, which stand in
no order that means anything.  Whatever the order in which they are gone through, the snapshot
describes the document (`Snapshot.describes_document`).
-/

namespace InfraLint

/-! ## Last items -/

/-- The last item of a list that has a property. -/
inductive IsLast {α : Type} (has : α → Prop) : List α → α → Prop where
  | here {item : α} {rest : List α} :
      has item → (∀ later ∈ rest, ¬ has later) → IsLast has (item :: rest) item
  | there {item other : α} {rest : List α} :
      IsLast has rest item → IsLast has (other :: rest) item

namespace IsLast

variable {α β : Type} {has : α → Prop} {image : β → Prop} {items others : List α} {item : α}

theorem mem (last : IsLast has items item) : item ∈ items := by
  induction last with
  | here => exact List.mem_cons_self
  | there _ ih => exact List.mem_cons_of_mem _ ih

theorem holds (last : IsLast has items item) : has item := by
  induction last with
  | here holds _ => exact holds
  | there _ ih => exact ih

theorem exists_of_mem (member : item ∈ items) (holds : has item) : ∃ last, IsLast has items last := by
  induction items generalizing item with
  | nil => cases member
  | cons first rest ih =>
      by_cases later : ∃ other ∈ rest, has other
      · obtain ⟨other, inside, holds'⟩ := later
        obtain ⟨last, found⟩ := ih inside holds'
        exact ⟨last, .there found⟩
      · rcases List.mem_cons.1 member with rfl | inside
        · exact ⟨item, .here holds fun other inside holds' => later ⟨other, inside, holds'⟩⟩
        · exact absurd ⟨item, inside, holds⟩ later

theorem unique {other : α} (last : IsLast has items item) (last' : IsLast has items other) :
    item = other := by
  induction last with
  | here _ none =>
      cases last' with
      | here => rfl
      | there last' => exact absurd last'.holds (none _ last'.mem)
  | there last ih =>
      cases last' with
      | here _ none => exact absurd last.holds (none _ last.mem)
      | there last' => exact ih last'

theorem congr {other : α → Prop} (last : IsLast has items item)
    (agree : ∀ item, has item ↔ other item) : IsLast other items item := by
  have same : has = other := funext fun item => propext (agree item)
  exact same ▸ last

theorem append_right (last : IsLast has items item) : IsLast has (others ++ items) item := by
  induction others with
  | nil => exact last
  | cons _ _ ih => exact .there ih

theorem append_left (last : IsLast has items item) (none : ∀ later ∈ others, ¬ has later) :
    IsLast has (items ++ others) item := by
  induction last with
  | here holds quiet =>
      exact .here holds fun later member => (List.mem_append.1 member).elim (quiet later) (none later)
  | there _ ih => exact .there ih

theorem flatMap {f : α → List β} {found : β}
    (last : IsLast (fun item => ∃ inner ∈ f item, image inner) items item)
    (inner : IsLast image (f item) found) : IsLast image (items.flatMap f) found := by
  induction last with
  | here _ none =>
      rw [List.flatMap_cons]
      refine inner.append_left fun later member holds => ?_
      obtain ⟨other, inside, there⟩ := List.mem_flatMap.1 member
      exact none other inside ⟨later, there, holds⟩
  | there _ ih =>
      rw [List.flatMap_cons]
      exact (ih inner).append_right

theorem map_iff {f : α → β} (injective : ∀ first second, f first = f second → first = second) :
    IsLast image (items.map f) (f item) ↔ IsLast (fun item => image (f item)) items item := by
  induction items with
  | nil => exact ⟨nofun, nofun⟩
  | cons first rest ih =>
      rw [List.map_cons]
      constructor
      · intro last
        generalize same : f item = found at last
        cases last with
        | here holds none =>
            cases injective _ _ same
            exact .here holds fun later member => none _ (List.mem_map_of_mem member)
        | there last =>
            subst same
            exact .there (ih.1 last)
      · intro last
        cases last with
        | here holds none =>
            exact .here holds (List.forall_mem_map.2 none)
        | there last => exact .there (ih.2 last)

/-- Lists whose items correspond have last items that correspond. -/
theorem forall₂ {R : α → β → Prop} {images : List β} (same : List.Forall₂ R items images)
    (agree : ∀ ⦃item found⦄, R item found → (has item ↔ image found))
    (last : IsLast has items item) : ∃ found, R item found ∧ IsLast image images found := by
  induction same with
  | nil => cases last
  | @cons first found rest others alike same ih =>
      cases last with
      | here holds none =>
          refine ⟨found, alike, .here ((agree alike).1 holds) fun later member holds' => ?_⟩
          obtain ⟨item, inside, alike'⟩ := exists_of_forall₂ same member
          exact none item inside ((agree alike').2 holds')
      | there last =>
          obtain ⟨found, alike', last⟩ := ih last
          exact ⟨found, alike', .there last⟩

end IsLast

theorem exists_getLast?_of_forall₂ {α β : Type} {R : α → β → Prop} {items : List α}
    {images : List β} {item : α} (same : List.Forall₂ R items images)
    (last : items.getLast? = some item) : ∃ found, images.getLast? = some found ∧ R item found := by
  have reversed := List.forall₂_reverse_iff.2 same
  rw [← List.head?_reverse] at last ⊢
  generalize items.reverse = items at reversed last
  generalize images.reverse = images at reversed ⊢
  cases reversed with
  | nil => cases last
  | cons alike _ =>
      cases last
      exact ⟨_, rfl, alike⟩

/-! ## Maps made from pairs -/

namespace Assoc

variable {κ α : Type} [BEq κ] [LawfulBEq κ]

theorem lookup_foldl_insert {pairs entries : List (κ × α)} {key : κ} {value : α} :
    (pairs.foldl (fun entries (key, value) => insert key value entries) entries).lookup key =
        some value ↔
      IsLast (·.1 = key) pairs (key, value) ∨
        (∀ pair ∈ pairs, pair.1 ≠ key) ∧ entries.lookup key = some value := by
  induction pairs generalizing entries with
  | nil => simpa using fun last : IsLast _ [] _ => nomatch last
  | cons pair rest ih =>
      obtain ⟨name, bound⟩ := pair
      rw [List.foldl_cons, ih]
      by_cases same : name = key
      · subst same
        constructor
        · rintro (last | ⟨none, bound⟩)
          · exact .inl (.there last)
          · rw [lookup_insert_self] at bound
            cases bound
            exact .inl (.here rfl none)
        · rintro (last | ⟨none, -⟩)
          · cases last with
            | here _ none => exact .inr ⟨none, lookup_insert_self ..⟩
            | there last => exact .inl last
          · exact absurd rfl (none _ List.mem_cons_self)
      · rw [lookup_insert_of_ne (Ne.symm same)]
        constructor
        · rintro (last | ⟨none, bound⟩)
          · exact .inl (.there last)
          · exact .inr ⟨List.forall_mem_cons.2 ⟨same, none⟩, bound⟩
        · rintro (last | ⟨none, bound⟩)
          · cases last with
            | here holds _ => exact absurd holds same
            | there last => exact .inl last
          · exact .inr ⟨(List.forall_mem_cons.1 none).2, bound⟩

/-- The last pair of a key counts. -/
theorem lookup_ofPairs_eq_some_iff {pairs : List (κ × α)} {key : κ} {value : α} :
    (ofPairs pairs).lookup key = some value ↔ IsLast (·.1 = key) pairs (key, value) := by
  rw [ofPairs, lookup_foldl_insert]
  simp

/-- Of items that are kept under keys of their own the last one of a key counts. -/
theorem lookup_ofPairs_map_eq_some_iff {items : List α} {f : α → κ} {key : κ} {item : α} :
    (ofPairs (items.map fun item => (f item, item))).lookup key = some item ↔
      IsLast (fun item => f item = key) items item := by
  have injective (first second : α) (same : (f first, first) = (f second, second)) :
      first = second := congrArg Prod.snd same
  rw [lookup_ofPairs_eq_some_iff]
  constructor
  · intro last
    obtain ⟨other, -, same⟩ := List.mem_map.1 last.mem
    cases same
    exact (IsLast.map_iff injective).1 last
  · intro last
    cases last.holds
    exact (IsLast.map_iff injective).2 last

end Assoc

/-! ## Local names in keys -/

/-- The second of the components that dots separate in a key is a name.  A key that starts with
`data.` names nothing. -/
structure IsLocalName (key name : String) : Prop where
  managed : ¬ "data.".toList <+: key.toList
  second : ∃ components : List String, (∀ part ∈ components, '.' ∉ part.toList) ∧
    String.intercalate "." components = key ∧ components[1]? = some name

theorem Text.hasLead_iff {lead text : String} :
    hasLead lead text = true ↔ lead.toList <+: text.toList := by
  rw [hasLead, Option.isSome_iff_exists]
  constructor
  · rintro ⟨rest, found⟩
    exact ⟨rest, (eq_append_of_afterLead? found).symm⟩
  · rintro ⟨rest, split⟩
    rw [← split]
    exact ⟨rest, afterLead?_append ..⟩

theorem legacyName?_eq_some_iff {key name : String} :
    legacyName? key = some name ↔ IsLocalName key name := by
  unfold legacyName?
  constructor
  · intro named
    split at named
    · cases named
    · next managed =>
      rw [Text.hasLead_iff] at managed
      refine ⟨managed, (Text.splitAt '.' key.toList).map String.ofList, ?_, ?_, ?_⟩
      · simp only [List.forall_mem_map, String.toList_ofList]
        exact fun part member => Text.not_mem_of_mem_splitAt member
      · rw [← String.toList_inj, String.toList_intercalate, List.map_map]
        simpa using Text.intercalate_splitAt '.' key.toList
      · rw [List.getElem?_map]
        exact named
  · rintro ⟨managed, components, free, rfl, second⟩
    have nonempty : components.map String.toList ≠ [] := by
      rintro none
      rw [List.map_eq_nil_iff] at none
      rw [none] at second
      cases second
    rw [← Text.hasLead_iff] at managed
    rw [if_neg managed, String.toList_intercalate, show ".".toList = ['.'] from rfl,
      Text.splitAt_intercalate nonempty (by simpa using free)]
    simp [second]

/-! ## The entries of a document -/

/-- An entry of the older layout under a key gives a record of a type and name. -/
structure LegacyEntry.Deploys (key : String) (entry : LegacyEntry) (type name : String) : Prop where
  type : entry.type = type
  name : IsLocalName key name

/-- A module of the older layout has an entry that gives a record of a type and name. -/
def ModuleDeploys (type name : String) (entries : List (String × LegacyEntry)) : Prop :=
  ∃ key entry, (key, entry) ∈ entries ∧ entry.Deploys key type name

/-- An entry of the current layout gives records of a type and name: it is managed, which is what an
entry without a mode is too, and it has an instance. -/
structure CurrentEntry.Deploys (type name : String) (entry : CurrentEntry) : Prop where
  type : entry.type = type
  name : entry.name = name
  managed : ∀ mode, entry.mode = some mode → mode = "managed"
  deployed : entry.instances ≠ []

/-- A record of a type and name is a copy of an entry of the older layout. -/
structure Recorded.IsCopyOf (recorded : Recorded) (type name : String) (entry : LegacyEntry) :
    Prop where
  type : recorded.type = type
  name : recorded.name = name
  id : recorded.id = entry.id
  texts : ∀ key, recorded.attribute? key = entry.attributes.lookup key

/-- A record of a type and name is made from the attributes of an instance: those that are scalar as
text, and the one that is named `id` as its identifier. -/
structure Recorded.IsMadeFrom (recorded : Recorded) (type name : String)
    (attributes : List (String × Json)) : Prop where
  type : recorded.type = type
  name : recorded.name = name
  id : recorded.id = ((attributes.lookup "id").bind Json.scalarText?).getD ""
  texts : ∀ key, recorded.attribute? key = (attributes.lookup key).bind Json.scalarText?

/-- No instance of the current layout has two attributes of one name. -/
def StateDocument.HasDistinctAttributes (document : StateDocument) : Prop :=
  ∀ entry ∈ document.resources, ∀ attributes ∈ entry.instances, (attributes.map (·.1)).Nodup

variable {type name : String} {recorded : Recorded}

theorem LegacyEntry.recorded?_eq_some_iff {entry : LegacyEntry} {key : String} :
    entry.recorded? key = some recorded ↔
      ∃ name, IsLocalName key name ∧ ⟨entry.type, name, entry.id, entry.attributes⟩ = recorded := by
  simp only [recorded?, Option.map_eq_some_iff, legacyName?_eq_some_iff]

theorem CurrentEntry.isManaged_iff {entry : CurrentEntry} :
    entry.isManaged = true ↔ ∀ mode, entry.mode = some mode → mode = "managed" := by
  unfold isManaged
  cases entry.mode <;> simp

/-- Where the attributes of an instance have distinct names, each text comes from the attribute. -/
theorem lookup_filterMap_scalarText? {attributes : List (String × Json)}
    (distinct : (attributes.map (·.1)).Nodup) (key : String) :
    (attributes.filterMap fun (key, value) => value.scalarText?.map (key, ·)).lookup key =
      (attributes.lookup key).bind Json.scalarText? := by
  induction attributes with
  | nil => rfl
  | cons attr rest ih =>
      obtain ⟨name, value⟩ := attr
      obtain ⟨fresh, others⟩ := List.nodup_cons.1 distinct
      have later := ih others
      rw [List.filterMap_cons]
      by_cases same : key = name
      · subst same
        have absent : rest.lookup key = none :=
          List.lookup_eq_none_iff.2 fun other member =>
            bne_iff_ne.2 fun same => fresh (List.mem_map.2 ⟨other, member, same.symm⟩)
        rw [absent] at later
        cases text : value.scalarText? with
        | some found => simp [text]
        | none => simpa only [Option.map_none, List.lookup_cons_self, Option.bind_some, text]
      · have unlike : (key == name) = false := beq_false_of_ne same
        cases text : value.scalarText? with
        | some found => simpa only [text, Option.map_some, List.lookup_cons, unlike] using later
        | none => simpa only [text, Option.map_none, List.lookup_cons, unlike] using later

theorem CurrentEntry.recorded_isMadeFrom (entry : CurrentEntry) {attributes : List (String × Json)}
    (distinct : (attributes.map (·.1)).Nodup) :
    (entry.recorded attributes).IsMadeFrom entry.type entry.name attributes where
  type := rfl
  name := rfl
  id := congrArg (·.getD "") (lookup_filterMap_scalarText? distinct "id")
  texts := lookup_filterMap_scalarText? distinct

/-! ## The records of a document -/

/-- What a record is kept under. -/
def Recorded.key (recorded : Recorded) : String × String := (recorded.type, recorded.name)

/-- The records of a module of the older layout. -/
def legacyRecords (entries : List (String × LegacyEntry)) : List Recorded :=
  entries.filterMap fun (key, entry) => entry.recorded? key

theorem mem_legacyRecords_iff {entries : List (String × LegacyEntry)} :
    recorded ∈ legacyRecords entries ↔ ∃ key entry name, (key, entry) ∈ entries ∧
      IsLocalName key name ∧ ⟨entry.type, name, entry.id, entry.attributes⟩ = recorded := by
  simp only [legacyRecords, List.mem_filterMap, Prod.exists, LegacyEntry.recorded?_eq_some_iff]
  constructor
  · rintro ⟨key, entry, member, name, named, made⟩
    exact ⟨key, entry, name, member, named, made⟩
  · rintro ⟨key, entry, name, member, named, made⟩
    exact ⟨key, entry, member, name, named, made⟩

theorem moduleDeploys_iff {entries : List (String × LegacyEntry)} :
    ModuleDeploys type name entries ↔
      ∃ recorded ∈ legacyRecords entries, recorded.key = (type, name) := by
  simp only [mem_legacyRecords_iff]
  constructor
  · rintro ⟨key, entry, member, rfl, named⟩
    exact ⟨_, ⟨key, entry, name, member, named, rfl⟩, rfl⟩
  · rintro ⟨_, ⟨key, entry, found, member, named, rfl⟩, same⟩
    cases same
    exact ⟨key, entry, member, rfl, named⟩

theorem CurrentEntry.deploys_iff {entry : CurrentEntry} :
    entry.Deploys type name ↔ ∃ recorded ∈ entry.records, recorded.key = (type, name) := by
  unfold records
  constructor
  · rintro ⟨rfl, rfl, managed, deployed⟩
    obtain ⟨attributes, member⟩ := List.exists_mem_of_ne_nil _ deployed
    rw [if_pos (isManaged_iff.2 managed)]
    exact ⟨_, List.mem_map_of_mem member, rfl⟩
  · rintro ⟨recorded, member, same⟩
    split at member
    · next managed =>
      obtain ⟨attributes, inside, rfl⟩ := List.mem_map.1 member
      cases same
      exact ⟨rfl, rfl, isManaged_iff.1 managed, List.ne_nil_of_mem inside⟩
    · cases member

/-- The last record of an entry of the current layout is made from its last instance. -/
theorem CurrentEntry.isLast_records {entry : CurrentEntry} {attributes : List (String × Json)}
    (deploys : entry.Deploys type name) (last : entry.instances.getLast? = some attributes) :
    IsLast (·.key = (type, name)) entry.records (entry.recorded attributes) := by
  obtain ⟨rfl, rfl, managed, -⟩ := deploys
  obtain ⟨earlier, split⟩ := List.getLast?_eq_some_iff.1 last
  rw [records, if_pos (isManaged_iff.2 managed), split, List.map_append]
  exact .append_right (.here rfl nofun)

namespace Snapshot

variable {document : StateDocument}

theorem foldl_insert (records : List Recorded) (snapshot : Snapshot) :
    (records.foldl insert snapshot).resources =
      (records.map fun recorded => (recorded.key, recorded)).foldl
        (fun entries (key, value) => Assoc.insert key value entries) snapshot.resources := by
  induction records generalizing snapshot with
  | nil => rfl
  | cons recorded rest ih => exact ih (snapshot.insert recorded)

theorem resources_ofDocument : (ofDocument document).resources =
    Assoc.ofPairs (document.records.map fun recorded => (recorded.key, recorded)) :=
  foldl_insert document.records empty

/-- The last record of a type and name counts. -/
theorem get?_ofDocument_eq_some_iff : (ofDocument document).get? type name = some recorded ↔
    IsLast (·.key = (type, name)) document.records recorded := by
  rw [get?, resources_ofDocument, Assoc.lookup_ofPairs_map_eq_some_iff]

theorem contains_ofDocument_iff : (ofDocument document).contains type name = true ↔
    ∃ recorded ∈ document.records, recorded.key = (type, name) := by
  simp only [contains, Option.isSome_iff_exists, get?_ofDocument_eq_some_iff]
  constructor
  · rintro ⟨recorded, last⟩
    exact ⟨recorded, last.mem, last.holds⟩
  · rintro ⟨recorded, member, same⟩
    exact IsLast.exists_of_mem member same

/-! ## What a snapshot says about a document -/

/-- A snapshot is that of a document.

* A resource is recorded if an entry of either layout deploys it.
* If an entry of the current layout does, the record is made from the last instance of the last such
  entry.
* Otherwise it is a copy of an entry of the last module that has one.
* The size is the number of types and names that are recorded. -/
structure Describes (snapshot : Snapshot) (document : StateDocument) : Prop where
  contains : ∀ type name, snapshot.contains type name = true ↔
    (∃ entries ∈ document.modules, ModuleDeploys type name entries) ∨
      ∃ entry ∈ document.resources, entry.Deploys type name
  current : ∀ type name, (∃ entry ∈ document.resources, entry.Deploys type name) →
    ∃ entry attributes recorded, IsLast (·.Deploys type name) document.resources entry ∧
      entry.instances.getLast? = some attributes ∧
      snapshot.get? type name = some recorded ∧ recorded.IsMadeFrom type name attributes
  legacy : ∀ type name, (¬ ∃ entry ∈ document.resources, entry.Deploys type name) →
    (∃ entries ∈ document.modules, ModuleDeploys type name entries) →
    ∃ entries key entry recorded, IsLast (ModuleDeploys type name) document.modules entries ∧
      (key, entry) ∈ entries ∧ entry.Deploys key type name ∧
      snapshot.get? type name = some recorded ∧ recorded.IsCopyOf type name entry
  size : ∃ pairs : List (String × String), pairs.Nodup ∧
    (∀ type name, (type, name) ∈ pairs ↔ snapshot.contains type name = true) ∧
    snapshot.size = pairs.length

theorem describes_ofDocument (distinct : document.HasDistinctAttributes) :
    (ofDocument document).Describes document where
  contains := by
    intro type name
    rw [contains_ofDocument_iff]
    simp only [moduleDeploys_iff, CurrentEntry.deploys_iff]
    constructor
    · rintro ⟨recorded, member, same⟩
      rcases List.mem_append.1 member with member | member
      · obtain ⟨entries, inside, member⟩ := List.mem_flatMap.1 member
        exact .inl ⟨entries, inside, recorded, member, same⟩
      · obtain ⟨entry, inside, member⟩ := List.mem_flatMap.1 member
        exact .inr ⟨entry, inside, recorded, member, same⟩
    · rintro (⟨entries, inside, recorded, member, same⟩ | ⟨entry, inside, recorded, member, same⟩)
      · exact ⟨recorded, List.mem_append_left _ (List.mem_flatMap.2 ⟨entries, inside, member⟩), same⟩
      · exact ⟨recorded, List.mem_append_right _ (List.mem_flatMap.2 ⟨entry, inside, member⟩), same⟩
  current := by
    rintro type name ⟨_, inside, deploys⟩
    obtain ⟨entry, last⟩ := IsLast.exists_of_mem inside deploys
    have deploys := last.holds
    obtain ⟨attributes, final⟩ := Option.isSome_iff_exists.1
      (List.getLast?_isSome.2 deploys.deployed)
    have made := entry.recorded_isMadeFrom
      (distinct entry last.mem attributes (List.mem_of_getLast? final))
    rw [deploys.type, deploys.name] at made
    refine ⟨entry, attributes, _, last, final, get?_ofDocument_eq_some_iff.2 ?_, made⟩
    have giving := last.congr fun _ => CurrentEntry.deploys_iff
    exact (giving.flatMap (CurrentEntry.isLast_records deploys final)).append_right
  legacy := by
    rintro type name none ⟨_, inside, deploys⟩
    obtain ⟨entries, last⟩ := IsLast.exists_of_mem inside deploys
    obtain ⟨_, member, same⟩ := moduleDeploys_iff.1 last.holds
    obtain ⟨recorded, inner⟩ : ∃ recorded, IsLast (Recorded.key · = (type, name)) _ recorded :=
      IsLast.exists_of_mem member same
    obtain ⟨key, entry, local', member, named, rfl⟩ := mem_legacyRecords_iff.1 inner.mem
    cases inner.holds
    refine ⟨entries, key, entry, _, last, member, ⟨rfl, named⟩, get?_ofDocument_eq_some_iff.2 ?_,
      ⟨rfl, rfl, rfl, fun _ => rfl⟩⟩
    have giving := last.congr fun _ => moduleDeploys_iff
    -- the records of the current layout come later, and none of them has this type and name
    refine (giving.flatMap inner).append_left fun recorded member same => none ?_
    obtain ⟨entry, inside, member⟩ := List.mem_flatMap.1 member
    exact ⟨entry, inside, CurrentEntry.deploys_iff.2 ⟨recorded, member, same⟩⟩
  size := by
    refine ⟨(ofDocument document).resources.map (·.1), ?_, fun type name => ?_, ?_⟩
    · rw [resources_ofDocument]
      exact Assoc.nodup_keys_ofPairs _
    · rw [contains, get?, List.lookup_isSome_iff, List.mem_map]
      constructor
      · rintro ⟨entry, member, same⟩
        exact ⟨entry, member, beq_iff_eq.2 same.symm⟩
      · rintro ⟨entry, member, same⟩
        exact ⟨entry, member, (eq_of_beq same).symm⟩
    · exact (List.length_map ..).symm

end Snapshot

/-! ## Reading a document -/

theorem mapM_eq_some_iff {α β : Type} {f : α → Option β} {items : List α} {images : List β} :
    items.mapM f = some images ↔
      List.Forall₂ (fun item image => f item = some image) items images := by
  induction items generalizing images with
  | nil =>
      rw [List.mapM_nil, List.forall₂_nil_left_iff]
      exact Option.some_inj.trans eq_comm
  | cons item rest ih =>
      simp only [List.mapM_cons, Option.bind_eq_bind, Option.bind_eq_some_iff, Option.pure_def,
        Option.some_inj, List.forall₂_cons_left_iff, ih]
      constructor
      · rintro ⟨image, first, others, each, rfl⟩
        exact ⟨image, others, first, each, rfl⟩
      · rintro ⟨image, others, first, each, rfl⟩
        exact ⟨image, first, others, each, rfl⟩

namespace StateDocument

open Json

variable {json : Json} {document : StateDocument}

theorem exists_of_ofJson? (read : ofJson? json = some document) :
    ∃ resources, withDefault (listOf? currentEntry?) [] resources = some document.resources := by
  obtain ⟨fields, -, read⟩ := Option.bind_eq_some_iff.1 read
  split at read
  · obtain ⟨modules, -, read⟩ := Option.bind_eq_some_iff.1 read
    obtain ⟨resources, current, made⟩ := Option.bind_eq_some_iff.1 read
    cases made
    exact ⟨_, current⟩
  · cases read

theorem exists_of_currentEntry? {entry : CurrentEntry} (read : currentEntry? json = some entry) :
    ∃ mode type name instances,
      json.fields? ["mode", "type", "name", "instances"] = some [mode, type, name, instances] ∧
      withDefault (optional? string?) none mode = some entry.mode ∧
      withDefault (listOf? instanceEntry?) [] instances = some entry.instances := by
  obtain ⟨fields, given, read⟩ := Option.bind_eq_some_iff.1 read
  split at read
  · obtain ⟨mode, written, read⟩ := Option.bind_eq_some_iff.1 read
    obtain ⟨type, -, read⟩ := Option.bind_eq_some_iff.1 read
    obtain ⟨name, -, read⟩ := Option.bind_eq_some_iff.1 read
    obtain ⟨instances, listed, made⟩ := Option.bind_eq_some_iff.1 read
    cases made
    exact ⟨_, _, _, _, given, written, listed⟩
  · cases read

theorem nodup_of_mapOf? {α : Type} {decode : Json → Option α} {entries : List (String × α)}
    (read : mapOf? decode json = some entries) : (entries.map (·.1)).Nodup := by
  cases json with
  | object members =>
      obtain ⟨pairs, -, made⟩ := Option.bind_eq_some_iff.1 read
      cases made
      exact Assoc.nodup_keys_ofPairs pairs
  | _ => cases read

theorem nodup_of_instanceEntry? {attributes : List (String × Json)}
    (read : instanceEntry? json = some attributes) : (attributes.map (·.1)).Nodup := by
  obtain ⟨fields, -, read⟩ := Option.bind_eq_some_iff.1 read
  split at read
  · next given =>
    cases given with
    | none =>
        cases read
        exact List.nodup_nil
    | some value => exact nodup_of_mapOf? read
  · cases read

/-- The items of a list that has been read, or none if it is left out. -/
theorem exists_of_mem_withDefault {α : Type} {decode : Json → Option α} {field : Option Json}
    {items : List α} {item : α} (read : withDefault (listOf? decode) [] field = some items)
    (member : item ∈ items) : ∃ json, decode json = some item := by
  cases field with
  | none =>
      cases read
      cases member
  | some value =>
      cases value with
      | array values =>
          obtain ⟨json, -, decoded⟩ := exists_of_forall₂ (mapM_eq_some_iff.1 read) member
          exact ⟨json, decoded⟩
      | _ => cases read

theorem hasDistinctAttributes_of_ofJson? (read : ofJson? json = some document) :
    document.HasDistinctAttributes := by
  intro entry inside attributes member
  obtain ⟨resources, listed⟩ := exists_of_ofJson? read
  obtain ⟨json, read⟩ := exists_of_mem_withDefault listed inside
  obtain ⟨-, -, -, instances, -, -, listed⟩ := exists_of_currentEntry? read
  obtain ⟨json, read⟩ := exists_of_mem_withDefault listed member
  exact nodup_of_instanceEntry? read

/-- An entry is managed if its mode is left out, is `null` or is written so. -/
theorem managed_iff_of_currentEntry? {entry : CurrentEntry}
    (read : currentEntry? json = some entry) :
    ∃ mode type name instances,
      json.fields? ["mode", "type", "name", "instances"] = some [mode, type, name, instances] ∧
      ((∀ given, entry.mode = some given → given = "managed") ↔
        mode = none ∨ mode = some .null ∨ mode = some (.string "managed")) := by
  obtain ⟨mode, type, name, instances, given, written, -⟩ := exists_of_currentEntry? read
  refine ⟨mode, type, name, instances, given, ?_⟩
  cases mode with
  | none => simp [← Option.some_inj.1 written]
  | some value =>
      cases value with
      | null => simp [← Option.some_inj.1 written]
      | string text => simp [← Option.some_inj.1 written]
      | _ => cases written

end StateDocument

/-! ## Documents that tell the same -/

/-- Two entries of the older layout tell the same. -/
structure LegacyEntry.Alike (entry other : LegacyEntry) : Prop where
  type : entry.type = other.type
  id : entry.id = other.id
  texts : ∀ key, entry.attributes.lookup key = other.attributes.lookup key

/-- Two modules of the older layout have entries under the same keys, and these tell the same. -/
structure ModulesAlike (entries others : List (String × LegacyEntry)) : Prop where
  left : ∀ key entry, (key, entry) ∈ entries → ∃ other, (key, other) ∈ others ∧ entry.Alike other
  right : ∀ key other, (key, other) ∈ others → ∃ entry, (key, entry) ∈ entries ∧ entry.Alike other

/-- Two entries of the current layout tell the same: their instances have the same texts. -/
structure CurrentEntry.Alike (entry other : CurrentEntry) : Prop where
  mode : entry.mode = other.mode
  type : entry.type = other.type
  name : entry.name = other.name
  instances : List.Forall₂ (fun attributes others => ∀ key,
    (attributes.lookup key).bind Json.scalarText? = (others.lookup key).bind Json.scalarText?)
    entry.instances other.instances

/-- Two documents tell the same. -/
structure StateDocument.Alike (document other : StateDocument) : Prop where
  modules : List.Forall₂ ModulesAlike document.modules other.modules
  resources : List.Forall₂ CurrentEntry.Alike document.resources other.resources

theorem LegacyEntry.Alike.refl (entry : LegacyEntry) : entry.Alike entry :=
  ⟨rfl, rfl, fun _ => rfl⟩

theorem ModulesAlike.of_perm {entries others : List (String × LegacyEntry)}
    (same : entries.Perm others) : ModulesAlike entries others where
  left _ entry member := ⟨entry, same.mem_iff.1 member, .refl entry⟩
  right _ other member := ⟨other, same.mem_iff.2 member, .refl other⟩

theorem ModulesAlike.deploys_iff {entries others : List (String × LegacyEntry)}
    (alike : ModulesAlike entries others) :
    ModuleDeploys type name entries ↔ ModuleDeploys type name others := by
  constructor
  · rintro ⟨key, entry, member, rfl, named⟩
    obtain ⟨other, member', same⟩ := alike.left key entry member
    exact ⟨key, other, member', same.type.symm, named⟩
  · rintro ⟨key, other, member, rfl, named⟩
    obtain ⟨entry, member', same⟩ := alike.right key other member
    exact ⟨key, entry, member', same.type, named⟩

theorem CurrentEntry.Alike.refl (entry : CurrentEntry) : entry.Alike entry :=
  ⟨rfl, rfl, rfl, List.forall₂_same.2 fun _ _ _ => rfl⟩

theorem CurrentEntry.Alike.deploys_iff {entry other : CurrentEntry} (alike : entry.Alike other) :
    entry.Deploys type name ↔ other.Deploys type name := by
  have empty : entry.instances = [] ↔ other.instances = [] := by
    rw [← List.length_eq_zero_iff, alike.instances.length_eq, List.length_eq_zero_iff]
  constructor
  · rintro ⟨isType, isName, managed, deployed⟩
    exact ⟨alike.type ▸ isType, alike.name ▸ isName, alike.mode ▸ managed,
      fun none => deployed (empty.2 none)⟩
  · rintro ⟨isType, isName, managed, deployed⟩
    exact ⟨alike.type.symm ▸ isType, alike.name.symm ▸ isName, alike.mode.symm ▸ managed,
      fun none => deployed (empty.1 none)⟩

theorem exists_mem_iff_of_forall₂ {α β : Type} {R : α → β → Prop} {has : α → Prop}
    {image : β → Prop} {items : List α} {images : List β} (same : List.Forall₂ R items images)
    (agree : ∀ ⦃item found⦄, R item found → (has item ↔ image found)) :
    (∃ item ∈ items, has item) ↔ ∃ found ∈ images, image found := by
  induction same with
  | nil => simp
  | cons alike _ ih => simp only [List.exists_mem_cons_iff, agree alike, ih]

namespace Snapshot

variable {snapshot : Snapshot} {document order : StateDocument}

/-- A snapshot that describes a document describes every other one that tells the same. -/
theorem Describes.of_alike (describes : snapshot.Describes order) (alike : order.Alike document) :
    snapshot.Describes document where
  contains := by
    intro type name
    rw [describes.contains, exists_mem_iff_of_forall₂ alike.modules fun _ _ same => same.deploys_iff,
      exists_mem_iff_of_forall₂ alike.resources fun _ _ same => same.deploys_iff]
  current := by
    intro type name some
    rw [← exists_mem_iff_of_forall₂ alike.resources fun _ _ same => same.deploys_iff] at some
    obtain ⟨entry, attributes, recorded, last, final, got, made⟩ := describes.current type name some
    obtain ⟨other, same, last'⟩ := last.forall₂ alike.resources fun _ _ same => same.deploys_iff
    obtain ⟨others, final', texts⟩ := exists_getLast?_of_forall₂ same.instances final
    refine ⟨other, others, recorded, last', final', got, made.type, made.name, ?_, fun key => ?_⟩
    · rw [made.id, texts]
    · rw [made.texts, texts]
  legacy := by
    intro type name none some
    rw [← exists_mem_iff_of_forall₂ alike.resources fun _ _ same => same.deploys_iff] at none
    rw [← exists_mem_iff_of_forall₂ alike.modules fun _ _ same => same.deploys_iff] at some
    obtain ⟨entries, key, entry, recorded, last, member, deploys, got, copy⟩ :=
      describes.legacy type name none some
    obtain ⟨others, same, last'⟩ := last.forall₂ alike.modules fun _ _ same => same.deploys_iff
    obtain ⟨other, member', same⟩ := same.left key entry member
    refine ⟨others, key, other, recorded, last', member', ⟨same.type ▸ deploys.type, deploys.name⟩,
      got, copy.type, copy.name, ?_, fun key => ?_⟩
    · rw [copy.id, same.id]
    · rw [copy.texts, same.texts]
  size := describes.size

end Snapshot

/-- The entries of each module of a document are gone through in some order. -/
structure StateDocument.IsOrderOf (order document : StateDocument) : Prop where
  modules : List.Forall₂ List.Perm order.modules document.modules
  resources : order.resources = document.resources

namespace StateDocument

variable {order document : StateDocument}

theorem IsOrderOf.refl (document : StateDocument) : document.IsOrderOf document :=
  ⟨List.forall₂_same.2 fun entries _ => .refl entries, rfl⟩

theorem IsOrderOf.alike (same : order.IsOrderOf document) : order.Alike document where
  modules := same.modules.imp fun _ _ => .of_perm
  resources := same.resources ▸ List.forall₂_same.2 fun entry _ => .refl entry

end StateDocument

/-- Whatever the order, the snapshot describes the document. -/
theorem Snapshot.describes_of_isOrderOf {order document : StateDocument}
    (distinct : document.HasDistinctAttributes) (same : order.IsOrderOf document) :
    (ofDocument order).Describes document := by
  have distinct' : order.HasDistinctAttributes := by
    intro entry member
    exact distinct entry (same.resources ▸ member)
  exact (describes_ofDocument distinct').of_alike same.alike

theorem Snapshot.exists_document_of_parse? {content : String} {snapshot : Snapshot}
    (parsed : parse? content = some snapshot) :
    ∃ json document, Json.parse? content = some json ∧
      StateDocument.ofJson? json = some document ∧ ofDocument document = snapshot := by
  obtain ⟨json, read, parsed⟩ := Option.bind_eq_some_iff.1 parsed
  obtain ⟨document, decoded, made⟩ := Option.bind_eq_some_iff.1 parsed
  exact ⟨json, document, read, decoded, Option.some.inj made⟩

/-- The snapshot of a text describes the document that the text is read as.  This does not rest on the
order in which the entries of a module are gone through. -/
theorem Snapshot.describes_document {content : String} {snapshot : Snapshot}
    (parsed : parse? content = some snapshot) :
    ∃ json document, Json.parse? content = some json ∧
      StateDocument.ofJson? json = some document ∧ snapshot.Describes document ∧
      (∀ order : StateDocument, order.IsOrderOf document →
        (ofDocument order).Describes document) ∧
      ∀ item entry, StateDocument.currentEntry? item = some entry →
        ∃ mode type name instances,
          item.fields? ["mode", "type", "name", "instances"] = some [mode, type, name, instances] ∧
          ((∀ given, entry.mode = some given → given = "managed") ↔
            mode = none ∨ mode = some .null ∨ mode = some (.string "managed")) := by
  obtain ⟨json, document, read, decoded, rfl⟩ := exists_document_of_parse? parsed
  have distinct := StateDocument.hasDistinctAttributes_of_ofJson? decoded
  exact ⟨json, document, read, decoded, describes_ofDocument distinct,
    fun _ same => describes_of_isOrderOf distinct same,
    fun _ _ => StateDocument.managed_iff_of_currentEntry?⟩

namespace Snapshot

/-- A state in both layouts.  Each of them has an entry for `vpc.a`. -/
def bothLayouts : String :=
  "\x7b\"modules\":[\x7b\"resources\":\x7b" ++
    "\"vpc.b.0\":\x7b\"type\":\"vpc\",\"primary\":\x7b\"id\":\"b0\"\x7d\x7d," ++
    "\"data.vpc.c\":\x7b\"type\":\"vpc\"\x7d,\"vpc.a\":\x7b\"type\":\"vpc\"\x7d\x7d\x7d]," ++
  "\"resources\":[\x7b\"mode\":null,\"type\":\"vpc\",\"name\":\"a\",\"instances\":[" ++
    "\x7b\"attributes\":\x7b\"id\":\"a1\"\x7d\x7d," ++
    "\x7b\"attributes\":\x7b\"id\":\"a2\",\"n\":3\x7d\x7d]\x7d]\x7d"

/-- Two resources are recorded: `b` from the older layout, and the last instance of `a`. -/
theorem describes_document_bothLayouts :
    ∃ snapshot json document, parse? bothLayouts = some snapshot ∧
      Json.parse? bothLayouts = some json ∧ StateDocument.ofJson? json = some document ∧
      snapshot.Describes document ∧ snapshot.size = 2 ∧
      snapshot.get? "vpc" "b" = some ⟨"vpc", "b", "b0", []⟩ ∧
      snapshot.get? "vpc" "a" = some ⟨"vpc", "a", "a2", [("id", "a2"), ("n", "3")]⟩ := by
  have shown : (parse? bothLayouts).map (fun snapshot =>
      (snapshot.size, snapshot.get? "vpc" "b", snapshot.get? "vpc" "a")) =
        some (2, some ⟨"vpc", "b", "b0", []⟩,
          some ⟨"vpc", "a", "a2", [("id", "a2"), ("n", "3")]⟩) := by
    decide +kernel
  obtain ⟨snapshot, parsed, seen⟩ := Option.map_eq_some_iff.1 shown
  obtain ⟨size, seen⟩ := Prod.mk.inj seen
  obtain ⟨older, current⟩ := Prod.mk.inj seen
  obtain ⟨json, document, read, decoded, describes, -⟩ := describes_document parsed
  exact ⟨snapshot, json, document, parsed, read, decoded, describes, size, older, current⟩

end Snapshot

end InfraLint
