import InfraLint.Inventory.Client

/-!
# What the provider's responses tell

A listing is read from a response by following member names and going through arrays at any depth.
`Json.Found` says which strings are there to be found, one rule for each way to go on, and reading
gives exactly these (`Json.mem_stringsAt_iff`).

A client answers a question when it succeeds and prints a document (`Client.Prints`).  What it prints
for one question is all that its answer depends on, so it is a steady provider
(`Client.toOption_provider_eq_some_iff`).  Answers are sorted, so the first name of one is the least
(`Names.head?_ofList_eq_some_iff`).
-/

namespace InfraLint

theorem toOption_eq_some_iff {ε α : Type} {result : Except ε α} {a : α} :
    result.toOption = some a ↔ result = .ok a := by
  cases result <;> simp [Except.toOption]

/-! ## Strings in a document -/

namespace Json

/-- A string is found in a value: under `field` in an object to which `path` leads, where arrays on
the way are left through any of their items. -/
inductive Found (field : String) : List String → Json → String → Prop where
  | item {path : List String} {items : List Json} {value : Json} {text : String} :
      value ∈ items → Found field path value text → Found field path (.array items) text
  | down {key : String} {path : List String} {value next : Json} {text : String} :
      value.get? key = some next → Found field path next text → Found field (key :: path) value text
  | here {value : Json} {text : String} :
      value.get? field = some (.string text) → Found field [] value text

theorem string?_eq_some_iff {value : Json} {text : String} :
    value.string? = some text ↔ value = .string text := by
  cases value <;> simp [string?]

/-- The string under a name, in a value that has one. -/
theorem bind_string?_eq_some_iff {value : Json} {name text : String} :
    (value.get? name).bind (·.string?) = some text ↔ value.get? name = some (.string text) := by
  rw [Option.bind_eq_some_iff]
  constructor
  · rintro ⟨member, there, isText⟩
    rw [there, string?_eq_some_iff.1 isText]
  · exact fun there => ⟨.string text, there, rfl⟩

/-- What holds of an array whenever it holds of its items, and of every other value, holds of every
value. -/
theorem array_induction {motive : Json → Prop}
    (array : ∀ items, (∀ item ∈ items, motive item) → motive (.array items))
    (other : ∀ value, (∀ items, value ≠ .array items) → motive value) (value : Json) :
    motive value := by
  match value with
  | .array items => exact array items fun item _ => array_induction array other item
  | .null | .bool _ | .number _ | .string _ | .object _ | .unreadable =>
      exact other _ fun items same => by cases same
termination_by sizeOf value
decreasing_by
  have smaller := List.sizeOf_lt_of_mem ‹item ∈ items›
  simp only [Json.array.sizeOf_spec]
  omega

theorem flattenedAll_eq_flatMap (items : List Json) :
    flattenedAll items = items.flatMap flattened := by
  induction items with
  | nil => rfl
  | cons item rest ih => rw [flattenedAll, ih, List.flatMap_cons]

theorem flattened_of_ne_array {value : Json} (other : ∀ items, value ≠ .array items) :
    flattened value = [value] := by
  cases value with
  | array items => exact absurd rfl (other items)
  | _ => rfl

/-- An array is read item by item, wherever it stands. -/
theorem stringsAt_array (field : String) (path : List String) (items : List Json) :
    stringsAt field path (.array items) = items.flatMap (stringsAt field path) := by
  cases path with
  | nil =>
      simp only [stringsAt, flattened, flattenedAll_eq_flatMap, List.filterMap_flatMap]
  | cons key path =>
      simp only [stringsAt, flattened, flattenedAll_eq_flatMap, List.flatMap_assoc]

theorem found_array_iff {field : String} {path : List String} {items : List Json} {text : String} :
    Found field path (.array items) text ↔ ∃ item ∈ items, Found field path item text := by
  constructor
  · intro found
    cases found with
    | item member found => exact ⟨_, member, found⟩
    | down there => cases there
    | here there => cases there
  · rintro ⟨item, member, found⟩
    exact .item member found

/-- Reading gives the strings that are to be found. -/
theorem mem_stringsAt_iff {field : String} {path : List String} {value : Json} {text : String} :
    text ∈ stringsAt field path value ↔ Found field path value text := by
  induction path generalizing value with
  | nil =>
      induction value using array_induction with
      | array items ih =>
          rw [stringsAt_array, List.mem_flatMap, found_array_iff]
          exact exists_congr fun item => and_congr_right (ih item)
      | other value other =>
          rw [stringsAt, flattened_of_ne_array other, List.mem_filterMap]
          simp only [List.mem_singleton, exists_eq_left, bind_string?_eq_some_iff]
          refine ⟨.here, fun found => ?_⟩
          cases found with
          | item => exact absurd rfl (other _)
          | here there => exact there
  | cons key path below =>
      induction value using array_induction with
      | array items ih =>
          rw [stringsAt_array, List.mem_flatMap, found_array_iff]
          exact exists_congr fun item => and_congr_right (ih item)
      | other value other =>
          rw [stringsAt, flattened_of_ne_array other, List.flatMap_singleton]
          constructor
          · intro read
            split at read
            · next next there => exact .down there (below.1 read)
            · cases read
          · intro found
            cases found with
            | item => exact absurd rfl (other _)
            | down there found =>
                rw [there]
                exact below.2 found

end Json

/-! ## The least name -/

namespace Names

theorem pairwise_insert {names : Names} (sorted : names.Pairwise fun a b => ¬ b < a)
    (name : String) : (insert name names).Pairwise fun a b => ¬ b < a := by
  induction names with
  | nil => exact List.pairwise_singleton _ _
  | cons first rest ih =>
      obtain ⟨least, ordered⟩ := List.pairwise_cons.1 sorted
      rw [insert]
      split
      · next before =>
        refine List.pairwise_cons.2 ⟨fun other member => ?_, sorted⟩
        rcases List.mem_cons.1 member with rfl | member
        · exact String.lt_asymm before
        · exact fun smaller => least other member (String.lt_trans smaller before)
      · next notBefore =>
        split
        · exact sorted
        · refine List.pairwise_cons.2 ⟨fun other member => ?_, ih ordered⟩
          rcases mem_insert.1 member with rfl | member
          · exact notBefore
          · exact least other member

theorem pairwise_ofList (names : List String) : (ofList names).Pairwise fun a b => ¬ b < a := by
  induction names with
  | nil => exact .nil
  | cons name rest ih => exact pairwise_insert ih name

/-- The first name of a set is the least one of those it was made of. -/
theorem head?_ofList_eq_some_iff {names : List String} {name : String} :
    (ofList names).head? = some name ↔ name ∈ names ∧ ∀ other ∈ names, ¬ other < name := by
  have sorted := pairwise_ofList names
  have members (other : String) : other ∈ names ↔ other ∈ ofList names := mem_ofList.symm
  simp only [members]
  clear members
  generalize ofList names = made at sorted
  cases made with
  | nil => simp
  | cons first rest =>
      have least := (List.pairwise_cons.1 sorted).1
      rw [List.head?_cons, Option.some_inj]
      constructor
      · rintro rfl
        refine ⟨List.mem_cons_self, fun other member => ?_⟩
        rcases List.mem_cons.1 member with rfl | member
        · exact String.lt_irrefl other
        · exact least other member
      · rintro ⟨member, minimal⟩
        rcases List.mem_cons.1 member with rfl | member
        · rfl
        · exact String.le_antisymm (least name member) (minimal first List.mem_cons_self)

theorem head?_ofList_eq_none_iff {names : List String} :
    (ofList names).head? = none ↔ ∀ name, name ∉ names := by
  simp only [List.head?_eq_none_iff, List.eq_nil_iff_forall_not_mem, mem_ofList]

/-- Of a set cut down to its first name, that name is left. -/
theorem head?_ofList_take_one (names : Names) : (ofList (names.take 1)).head? = names.head? := by
  cases names with
  | nil => rfl
  | cons name rest => rfl

end Names

/-! ## Documents of a client -/

namespace Client

variable {client : Client} {query : Query}

/-- A client answers a question with a document: it succeeds, and its output is the text of one. -/
def Prints (client : Client) (query : Query) (response : Json) : Prop :=
  ∃ output errors, client.run (client.invocation query) = .finished true (some output) errors ∧
    Json.parse? output = some response ∧ response.isSound = true

theorem Prints.parse?_eq {output errors : String} {response : Json}
    (printed : client.Prints query response)
    (ran : client.run (client.invocation query) = .finished true (some output) errors) :
    Json.parse? output = some response := by
  obtain ⟨output', errors', ran', parsed, -⟩ := printed
  cases ran.symm.trans ran'
  exact parsed

theorem Prints.unique {first second : Json} (one : client.Prints query first)
    (two : client.Prints query second) : first = second := by
  obtain ⟨output, errors, ran, parsed, -⟩ := two
  exact Option.some.inj ((one.parse?_eq ran).symm.trans parsed)

theorem sound?_eq_some_iff {value response : Json} :
    value.sound? = some response ↔ value = response ∧ response.isSound = true := by
  rw [Json.sound?, Option.ite_none_right_eq_some, Option.some_inj]
  constructor
  · rintro ⟨sound, rfl⟩
    exact ⟨rfl, sound⟩
  · rintro ⟨rfl, sound⟩
    exact ⟨sound, rfl⟩

/-- The answer of a client is read from the document that it prints, and there is none without. -/
theorem toOption_provider_eq_some_iff {earlier : List Query} {names : Names} :
    (client.provider earlier query).toOption = some names ↔
      ∃ response, client.Prints query response ∧
        names = Names.ofList (query.endpoint.read response) := by
  constructor
  · intro answered
    unfold provider at answered
    split at answered
    · cases answered
    · cases answered
    · cases answered
    · next output errors ran =>
      split at answered
      · next response read =>
        cases answered
        obtain ⟨value, parsed, sound⟩ := Option.bind_eq_some_iff.1 read
        obtain ⟨text, rfl, parsed⟩ := Option.bind_eq_some_iff.1 parsed
        obtain ⟨rfl, sound⟩ := sound?_eq_some_iff.1 sound
        exact ⟨value, ⟨text, errors, ran, parsed, sound⟩, rfl⟩
      · cases answered
  · rintro ⟨response, ⟨output, errors, ran, parsed, sound⟩, rfl⟩
    have read : response.sound? = some response := sound?_eq_some_iff.2 ⟨rfl, sound⟩
    simp only [provider, ran, Option.bind_some, parsed, read, Except.toOption]

theorem provider_isSteady (client : Client) : client.provider.IsSteady := fun _ _ => rfl

end Client

end InfraLint
