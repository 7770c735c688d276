/-!
# Cutting texts

Ways to take a text apart: at separators, and at a fixed start. Bytes are cut at separators in the
same way as characters.
-/

namespace InfraLint.Text

/-- The pieces of `cs` when `acc`, last character first, is the piece being read. -/
def piecesFrom (isSep : Char → Bool) (acc : List Char) : List Char → List (List Char)
  | [] => if acc.isEmpty then [] else [acc.reverse]
  | c :: rest =>
    if isSep c then
      if acc.isEmpty then piecesFrom isSep [] rest else acc.reverse :: piecesFrom isSep [] rest
    else piecesFrom isSep (c :: acc) rest

/-- The maximal pieces of `cs` that hold no separator, leaving out empty ones. -/
def pieces (isSep : Char → Bool) (cs : List Char) : List (List Char) :=
  piecesFrom isSep [] cs

/-- Cuts `cs` at every occurrence of `sep`, keeping empty parts: `n` separators make `n + 1`
parts. -/
def splitAt {α : Type} [DecidableEq α] (sep : α) : List α → List (List α)
  | [] => [[]]
  | c :: rest =>
    if c == sep then [] :: splitAt sep rest
    else
      match splitAt sep rest with
      | [] => [[c]]
      | part :: parts => (c :: part) :: parts

/-- What follows `lead` at the start of `cs`, if `cs` starts with it. -/
def afterLead? : List Char → List Char → Option (List Char)
  | [], cs => some cs
  | _ :: _, [] => none
  | l :: ls, c :: cs => if l == c then afterLead? ls cs else none

/-- Whether a text starts with `lead`. -/
def hasLead (lead s : String) : Bool :=
  (afterLead? lead.toList s.toList).isSome

end InfraLint.Text
