import InfraLint.Text.Escape

/-!
# Text in quotes

How a text of the configuration language is written between quotes. Besides the characters that a
quoted string cannot hold as they are, the signs that would open an interpolation or a directive
need care: they are doubled.
-/

namespace InfraLint.Quoted

/-- Doubles the sign of `${` and `%{` from an opening on. A sign is looked at together with the
character behind it, so of two signs in a row the second is never doubled. -/
def escapePairs : List Char → List Char
  | [] => []
  | [c] => [c]
  | c :: d :: rest =>
    if c == '$' || c == '%' then
      if d == '\x7b' then c :: c :: d :: escapePairs rest else c :: d :: escapePairs rest
    else c :: escapePairs (d :: rest)

/-- Doubles the sign of `${` and `%{`, so that they open nothing. Text is left alone up to the first
opening, whatever signs stand in front of it. -/
def escapeMarkers : List Char → List Char
  | [] => []
  | [c] => [c]
  | c :: d :: rest =>
    if (c == '$' || c == '%') && d == '\x7b' then escapePairs (c :: d :: rest)
    else c :: escapeMarkers (d :: rest)

/-- Whether an opening sign with at least one character behind it stands in a text. A doubled sign
counts as text. -/
def isTemplated : List Char → Bool
  | a :: b :: c :: rest =>
    if (a == '$' || a == '%') && b == a && c == '\x7b' then
      isTemplated (c :: rest)
    else if (a == '$' || a == '%') && b == '\x7b' then true
    else isTemplated (b :: c :: rest)
  | _ => false

/-- A text in quotes, with its special characters escaped and its signs doubled. -/
def quote (s : String) : String :=
  String.ofList ('"' :: Text.escape (escapeMarkers s.toList) ++ ['"'])

/-- A text in quotes as a value: a text that opens an interpolation stands there as it is. -/
def quoteValue (s : String) : String :=
  if isTemplated s.toList then String.ofList ('"' :: s.toList ++ ['"']) else quote s

end InfraLint.Quoted
