import InfraLint.Json.Decode
import InfraLint.Json.Read
import InfraLint.FileTree

/-!
# Deployment state

A snapshot of the resources that a state file records as deployed, by type and local name. State
files come in two layouts: the older one lists resources under keys such as `type.name` inside
modules, the current one lists them with their instances. Of several records for one type and name
the last one counts, and the current layout comes after the older one.
-/

namespace InfraLint

/-- A resource recorded as deployed. -/
structure Recorded where
  type : String
  name : String
  id : String
  attributes : List (String × String)
deriving Repr, DecidableEq

/-- The recorded value of an attribute. -/
def Recorded.attribute? (recorded : Recorded) (key : String) : Option String :=
  recorded.attributes.lookup key

/-- The deployed resources, by type and local name. -/
structure Snapshot where
  resources : List ((String × String) × Recorded)
deriving Repr, DecidableEq

/-! ## The document -/

/-- An entry of the older layout. -/
structure LegacyEntry where
  type : String
  id : String
  attributes : List (String × String)

/-- An entry of the current layout. Each instance is given by its attributes. -/
structure CurrentEntry where
  mode : Option String
  type : String
  name : String
  instances : List (List (String × Json))

/-- A state document: the modules of the older layout, each a map from keys to entries, and the
entries of the current one. -/
structure StateDocument where
  modules : List (List (String × LegacyEntry))
  resources : List CurrentEntry

namespace StateDocument

open Json

/-- The identifier and the attributes of the instance of an older entry. -/
def legacyPrimary? (json : Json) : Option (String × List (String × String)) := do
  match ← json.fields? ["id", "attributes"] with
  | [id, attributes] =>
    return (← withDefault string? "" id, ← withDefault (mapOf? string?) [] attributes)
  | _ => none

/-- An entry of the older layout; one without an instance has an empty identifier. -/
def legacyEntry? (json : Json) : Option LegacyEntry := do
  match ← json.fields? ["type", "primary"] with
  | [type, primary] =>
    let type ← required string? type
    let (id, attributes) ← withDefault legacyPrimary? ("", []) primary
    return ⟨type, id, attributes⟩
  | _ => none

/-- The entries of a module of the older layout. -/
def legacyModule? (json : Json) : Option (List (String × LegacyEntry)) := do
  match ← json.fields? ["resources"] with
  | [resources] => withDefault (mapOf? legacyEntry?) [] resources
  | _ => none

/-- The attributes of an instance of the current layout. -/
def instanceEntry? (json : Json) : Option (List (String × Json)) := do
  match ← json.fields? ["attributes"] with
  | [attributes] => withDefault (mapOf? sound?) [] attributes
  | _ => none

/-- An entry of the current layout, whose type and name are required. -/
def currentEntry? (json : Json) : Option CurrentEntry := do
  match ← json.fields? ["mode", "type", "name", "instances"] with
  | [mode, type, name, instances] =>
    return ⟨← withDefault (optional? string?) none mode, ← required string? type,
      ← required string? name, ← withDefault (listOf? instanceEntry?) [] instances⟩
  | _ => none

/-- Reads a state document. -/
def ofJson? (json : Json) : Option StateDocument := do
  match ← json.fields? ["modules", "resources"] with
  | [modules, resources] =>
    return ⟨← withDefault (listOf? legacyModule?) [] modules,
      ← withDefault (listOf? currentEntry?) [] resources⟩
  | _ => none

end StateDocument

/-- The local name in a key of the older layout: its second component. Keys of data sources and keys
of one component have none. -/
def legacyName? (key : String) : Option String :=
  if Text.hasLead "data." key then none
  else (Text.splitAt '.' key.toList)[1]?.map String.ofList

/-- The record of an entry of the older layout under a key. -/
def LegacyEntry.recorded? (entry : LegacyEntry) (key : String) : Option Recorded :=
  (legacyName? key).map fun name => ⟨entry.type, name, entry.id, entry.attributes⟩

/-- Whether an entry of the current layout is a deployment, and not a read of foreign data. -/
def CurrentEntry.isManaged (entry : CurrentEntry) : Bool :=
  match entry.mode with
  | none => true
  | some mode => mode == "managed"

/-- The record of one instance: its scalar attributes as text. -/
def CurrentEntry.recorded (entry : CurrentEntry) (attributes : List (String × Json)) : Recorded :=
  let texts := attributes.filterMap fun (key, value) => value.scalarText?.map (key, ·)
  ⟨entry.type, entry.name, (texts.lookup "id").getD "", texts⟩

/-- The records of an entry of the current layout, one for each instance. -/
def CurrentEntry.records (entry : CurrentEntry) : List Recorded :=
  if entry.isManaged then entry.instances.map entry.recorded else []

/-- All records of a document, in the order in which they count. -/
def StateDocument.records (document : StateDocument) : List Recorded :=
  (document.modules.flatMap fun entries => entries.filterMap fun (key, entry) =>
      entry.recorded? key) ++
    document.resources.flatMap CurrentEntry.records

namespace Snapshot

/-- A snapshot without resources. -/
def empty : Snapshot := ⟨[]⟩

/-- Records a resource, in place of an earlier one of the same type and name. -/
def insert (snapshot : Snapshot) (recorded : Recorded) : Snapshot :=
  ⟨Assoc.insert (recorded.type, recorded.name) recorded snapshot.resources⟩

/-- The snapshot of a document. -/
def ofDocument (document : StateDocument) : Snapshot :=
  document.records.foldl insert empty

/-- Reads the text of a state file, or fails when it is none. -/
def parse? (content : String) : Option Snapshot := do
  return ofDocument (← StateDocument.ofJson? (← Json.parse? content))

/-- The record of a resource. -/
def get? (snapshot : Snapshot) (type name : String) : Option Recorded :=
  snapshot.resources.lookup (type, name)

/-- Whether a resource is recorded. -/
def contains (snapshot : Snapshot) (type name : String) : Bool :=
  (snapshot.get? type name).isSome

/-- Whether a resource is recorded and its record passes a test. -/
def containsWith (snapshot : Snapshot) (type name : String) (test : Recorded → Bool) : Bool :=
  (snapshot.get? type name).any test

/-- The number of recorded resources. -/
def size (snapshot : Snapshot) : Nat := snapshot.resources.length

/-- Whether nothing is recorded. -/
def isEmpty (snapshot : Snapshot) : Bool := snapshot.resources.isEmpty

/-- The snapshot in a state file. A file that is missing or malformed gives an empty one. -/
def load (tree : FileTree) (path : RawText) : Snapshot :=
  ((tree.read? path).bind parse?).getD empty

end Snapshot

end InfraLint
