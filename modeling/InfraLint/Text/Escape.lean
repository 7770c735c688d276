/-!
# Escaped characters

How a text is written between quotes: quotes, backslashes and controls are escaped, by a letter
where there is one and else by the number of the character.
-/

namespace InfraLint.Text

/-- A digit of base sixteen, in lower case. -/
def hexDigit (n : Nat) : Char :=
  if n < 10 then Char.ofNat ('0'.toNat + n) else Char.ofNat ('a'.toNat + (n - 10))

/-- One character inside quotes. -/
def escapeChar (c : Char) : List Char :=
  match c with
  | '"' => ['\\', '"']
  | '\\' => ['\\', '\\']
  | '\n' => ['\\', 'n']
  | '\r' => ['\\', 'r']
  | '\t' => ['\\', 't']
  | '\x08' => ['\\', 'b']
  | '\x0c' => ['\\', 'f']
  | c =>
    if c.toNat < 0x20 then ['\\', 'u', '0', '0', hexDigit (c.toNat / 16), hexDigit (c.toNat % 16)]
    else [c]

/-- The characters of a text inside quotes. -/
def escape (cs : List Char) : List Char :=
  cs.flatMap escapeChar

/-- A text in quotes. -/
def quoted (s : String) : String :=
  String.ofList ('"' :: escape s.toList ++ ['"'])

end InfraLint.Text
