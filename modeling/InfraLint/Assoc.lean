/-!
# Association lists

Finite maps as lists of pairs with distinct keys, in the order in which keys were first given.
`List.lookup` reads them and `Assoc.insert` writes them.
-/

namespace InfraLint.Assoc

variable {κ α : Type} [BEq κ]

/-- Binds `key` to `value`. A key that is bound already keeps its place. -/
def insert (key : κ) (value : α) : List (κ × α) → List (κ × α)
  | [] => [(key, value)]
  | (k, v) :: rest => if k == key then (k, value) :: rest else (k, v) :: insert key value rest

/-- The association list of pairs in which later ones override earlier ones. -/
def ofPairs (pairs : List (κ × α)) : List (κ × α) :=
  pairs.foldl (fun entries (key, value) => insert key value entries) []

/-- Looking up the key just bound gives its value. -/
@[simp] theorem lookup_insert_self [LawfulBEq κ] (key : κ) (value : α) (entries : List (κ × α)) :
    (insert key value entries).lookup key = some value := by
  induction entries with
  | nil => simp [insert]
  | cons entry rest ih =>
    obtain ⟨k, v⟩ := entry
    by_cases h : k = key
    · subst h; simp [insert]
    · have hk : (key == k) = false := by simpa using fun e => h e.symm
      simp [insert, h, List.lookup_cons, hk, ih]

/-- Looking up another key gives what it gave before. -/
theorem lookup_insert_of_ne [LawfulBEq κ] {key other : κ} (h : other ≠ key) (value : α)
    (entries : List (κ × α)) : (insert key value entries).lookup other = entries.lookup other := by
  induction entries with
  | nil =>
    have : (other == key) = false := by simpa using h
    simp [insert, List.lookup_cons, this]
  | cons entry rest ih =>
    obtain ⟨k, v⟩ := entry
    by_cases hk : k = key
    · subst hk
      have : (other == k) = false := by simpa using h
      simp [insert, List.lookup_cons, this]
    · simp only [insert, beq_iff_eq, hk, if_false, List.lookup_cons, ih]

/-! ## Keys -/

/-- The keys after a binding: a new key comes last. -/
theorem keys_insert [LawfulBEq κ] (key : κ) (value : α) (entries : List (κ × α)) :
    (insert key value entries).map (·.1) =
      if key ∈ entries.map (·.1) then entries.map (·.1) else entries.map (·.1) ++ [key] := by
  induction entries with
  | nil => simp [insert]
  | cons entry rest ih =>
    obtain ⟨k, v⟩ := entry
    by_cases h : k = key
    · simp [insert, h]
    · have hk : key ≠ k := fun e => h e.symm
      simp only [insert, beq_iff_eq, h, if_false, List.map_cons, ih, List.mem_cons, hk, false_or]
      split <;> simp

/-- A binding keeps keys distinct. -/
theorem nodup_keys_insert [LawfulBEq κ] (key : κ) (value : α) {entries : List (κ × α)}
    (distinct : (entries.map (·.1)).Nodup) : ((insert key value entries).map (·.1)).Nodup := by
  rw [keys_insert]
  split
  · exact distinct
  · next fresh =>
    refine List.nodup_append.2 ⟨distinct, by simp, ?_⟩
    intro k hk other hother
    rw [List.mem_singleton.1 hother]
    exact fun e => fresh (e ▸ hk)

/-- Bindings one after the other keep keys distinct. -/
theorem nodup_keys_foldl_insert [LawfulBEq κ] (pairs : List (κ × α)) {entries : List (κ × α)}
    (distinct : (entries.map (·.1)).Nodup) :
    ((pairs.foldl (fun entries (key, value) => insert key value entries) entries).map
      (·.1)).Nodup := by
  induction pairs generalizing entries with
  | nil => exact distinct
  | cons pair rest ih => exact ih (nodup_keys_insert _ _ distinct)

/-- The association list of any pairs has distinct keys. -/
theorem nodup_keys_ofPairs [LawfulBEq κ] (pairs : List (κ × α)) :
    ((ofPairs pairs).map (·.1)).Nodup :=
  nodup_keys_foldl_insert pairs List.nodup_nil

/-- Where keys are distinct, the bindings are what is looked up. -/
theorem mem_iff_lookup [LawfulBEq κ] {entries : List (κ × α)} {key : κ} {value : α}
    (distinct : (entries.map (·.1)).Nodup) :
    (key, value) ∈ entries ↔ entries.lookup key = some value := by
  rw [List.lookup_eq_some_iff]
  constructor
  · intro member
    obtain ⟨before, after, rfl⟩ := List.append_of_mem member
    refine ⟨before, after, rfl, fun entry early => ?_⟩
    rw [List.map_append, List.map_cons, List.nodup_append] at distinct
    have apart := distinct.2.2 entry.1 (List.mem_map_of_mem early) key List.mem_cons_self
    exact bne_iff_ne.2 (Ne.symm apart)
  · rintro ⟨before, after, rfl, -⟩
    exact List.mem_append_right _ List.mem_cons_self

end InfraLint.Assoc
