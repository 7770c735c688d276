import InfraLint.Inventory.Query

/-!
# Providers

A provider answers each question with a set of names, or refuses. Things may change between two
questions, so what it answers may depend on the questions that came before; a steady provider gives
each question the same answer every time. Sets of names are kept sorted and without repetition.
-/

namespace InfraLint

/-- A set of names or identifiers, sorted and without repetition. -/
abbrev Names := List String

namespace Names

/-- Puts a name at its place in a set. -/
def insert (name : String) : Names → Names
  | [] => [name]
  | first :: rest =>
    if name < first then name :: first :: rest
    else if name = first then first :: rest
    else first :: insert name rest

/-- The set of the names in a list. -/
def ofList (names : List String) : Names :=
  names.foldr insert []

/-- A set has a name after an insertion if it had it before or if it is the one inserted. -/
@[simp] theorem mem_insert {name other : String} {names : Names} :
    other ∈ insert name names ↔ other = name ∨ other ∈ names := by
  induction names with
  | nil => simp [insert]
  | cons first rest ih =>
    unfold insert
    split
    · simp
    · split
      · next h => simp [h]
      · simp only [List.mem_cons, ih]
        exact or_left_comm

/-- A set has exactly the names of the list it was made of. -/
@[simp] theorem mem_ofList {name : String} {names : List String} :
    name ∈ ofList names ↔ name ∈ names := by
  induction names with
  | nil => simp [ofList]
  | cons first rest ih =>
    have : ofList (first :: rest) = insert first (ofList rest) := rfl
    simp [this, ih]

end Names

/-- Why a question has no answer. -/
inductive QueryError where
  /-- There is no access to the provider. -/
  | unavailable (reason : String)
  | failed (query message : String)
  | invalidResponse (query message : String)
  /-- The client of the provider could not be started. -/
  | notStarted (message : String)
  /-- What the provider says cannot be read. -/
  | malformed (message : String)
deriving Repr, DecidableEq

/-- The wording of a missing answer. -/
def QueryError.message : QueryError → String
  | unavailable reason => "Cloud provider client not available: " ++ reason
  | failed query text => "Query " ++ query ++ " failed: " ++ text
  | invalidResponse query text => "Unexpected response for " ++ query ++ ": " ++ text
  | notStarted text => "IO error: " ++ text
  | malformed text => "JSON error: " ++ text

/-- The answers of a cloud provider: to a question that comes after those sent before, which are
given in order. -/
abbrev Provider := List Query → Query → Except QueryError Names

/-- A steady provider gives the answers that it gives when nothing was asked before. -/
def Provider.IsSteady (provider : Provider) : Prop :=
  ∀ earlier query, provider earlier query = provider [] query

/-- Answers prepared in advance. -/
structure Canned where
  answers : List (Query × Names)
  failures : List (Query × String)

namespace Canned

/-- The provider that gives prepared answers. A failure counts before an answer, and a question
without either has an empty answer. There is at most one default network. -/
def provider (canned : Canned) : Provider := fun _ query =>
  match canned.failures.lookup query with
  | some text => .error (.failed query.name text)
  | none =>
    let names := (canned.answers.lookup query).getD []
    .ok (if query = .defaultVpc then names.take 1 else names)

end Canned

end InfraLint
