/-!
# YAML documents

A settings file is a YAML document. Besides its text a scalar keeps how it was written and its tag,
because only some scalars can stand for a truth value or for nothing. An alias stands for a value
that is marked with an anchor elsewhere in the document; `Document.resolve` finds that value.
-/

namespace InfraLint

namespace Yaml

/-- How a scalar is written. -/
inductive Style where
  | plain
  | singleQuoted
  | doubleQuoted
  | literal
  | folded
deriving Repr, DecidableEq

end Yaml

/-- A YAML value. Anchors are numbered. -/
inductive Yaml where
  | alias (anchor : Nat)
  | scalar (anchor : Option Nat) (tag : Option String) (style : Yaml.Style) (text : String)
  | sequence (anchor : Option Nat) (items : List Yaml)
  | mapping (anchor : Option Nat) (entries : List (Yaml × Yaml))
deriving Inhabited

namespace Yaml

/-- What stands where nothing is written. -/
def nothing : Yaml := .scalar none none .plain ""

/-- The pair of an anchor, if there is one, and the value that it marks. -/
def anchorPair (anchor : Option Nat) (value : Yaml) : List (Nat × Yaml) :=
  anchor.toList.map (·, value)

mutual

/-- The values that are marked with anchors, in the order in which they start. -/
def anchored : Yaml → List (Nat × Yaml)
  | .alias _ => []
  | .scalar anchor tag style text => anchorPair anchor (.scalar anchor tag style text)
  | .sequence anchor items => anchorPair anchor (.sequence anchor items) ++ anchoredItems items
  | .mapping anchor entries =>
    anchorPair anchor (.mapping anchor entries) ++ anchoredEntries entries

/-- The values that are marked with anchors in a list. -/
def anchoredItems : List Yaml → List (Nat × Yaml)
  | [] => []
  | item :: rest => item.anchored ++ anchoredItems rest

/-- The values that are marked with anchors in the entries of a mapping. -/
def anchoredEntries : List (Yaml × Yaml) → List (Nat × Yaml)
  | [] => []
  | (key, value) :: rest => key.anchored ++ value.anchored ++ anchoredEntries rest

end

/-- A document: its value and the values that aliases can stand for. -/
structure Document where
  root : Yaml
  targets : List (Nat × Yaml)

namespace Document

/-- The document with a given value. -/
def ofRoot (root : Yaml) : Document := ⟨root, root.anchored⟩

/-- The value that an alias stands for, and any other value itself. Of several values with one
anchor the one that starts last counts. -/
def resolve (document : Document) : Yaml → Yaml
  | .alias anchor => (document.targets.reverse.lookup anchor).getD nothing
  | value => value

/-- The tag of null. -/
def nullTag : String := "tag:yaml.org,2002:null"

/-- The tag of truth values. -/
def boolTag : String := "tag:yaml.org,2002:bool"

/-- The words for null. -/
def nullWords : List String := ["~", "null", "Null", "NULL"]

/-- The text of a scalar. -/
def text? (document : Document) (value : Yaml) : Option String :=
  match document.resolve value with
  | .scalar _ _ _ text => some text
  | _ => none

/-- The truth value that a word stands for. -/
def boolWord? (text : String) : Option Bool :=
  if ["true", "True", "TRUE"].contains text then some true
  else if ["false", "False", "FALSE"].contains text then some false
  else none

/-- The truth value of a plain scalar, or of a literal one that is tagged as such. -/
def bool? (document : Document) (value : Yaml) : Option Bool :=
  match document.resolve value with
  | .scalar _ _ .plain text => boolWord? text
  | .scalar _ (some tag) .literal text => if tag == boolTag then boolWord? text else none
  | _ => none

/-- The items of a sequence. Where nothing is written there are none. -/
def items? (document : Document) (value : Yaml) : Option (List Yaml) :=
  match document.resolve value with
  | .sequence _ items => some items
  | .scalar _ _ .plain "" => some []
  | _ => none

/-- The texts of a sequence of scalars. -/
def texts? (document : Document) (value : Yaml) : Option (List String) := do
  (← document.items? value).mapM document.text?

/-- The entries of a mapping whose keys are scalars. Where nothing is written there are none. -/
def entries? (document : Document) (value : Yaml) : Option (List (String × Yaml)) :=
  match document.resolve value with
  | .mapping _ entries => entries.mapM fun (key, value) => return (← document.text? key, value)
  | .scalar _ _ .plain "" => some []
  | _ => none

/-- A value that may be null. A plain scalar is null if it is one of the words for it or, without a
tag, if nothing is written. What is tagged as null must be such a word. -/
def optional? (document : Document) (read : Yaml → Option α) (value : Yaml) :
    Option (Option α) :=
  match document.resolve value with
  | .scalar _ none .plain text =>
    if text.isEmpty || nullWords.contains text then some none else (read value).map some
  | .scalar _ (some tag) .plain text =>
    if tag != nullTag then (read value).map some
    else if nullWords.contains text then some none
    else none
  | _ => (read value).map some

end Document

/-- Reads the field with a given name, which must not be given twice. A field that is missing has
the value `fallback`. -/
def field? (entries : List (String × Yaml)) (name : String) (read : Yaml → Option α)
    (fallback : α) : Option α :=
  match entries.filter (·.1 == name) with
  | [] => some fallback
  | [(_, value)] => read value
  | _ => none

end Yaml

end InfraLint
