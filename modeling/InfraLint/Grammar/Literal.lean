import InfraLint.Grammar.Cursor
import InfraLint.Number.Basic

/-!
# Literals

Numbers, quoted strings and the text parts of templates.
-/

namespace InfraLint.Reader

/-! ## Numbers -/

/-- The number that a run of decimal digits denotes. -/
def digitsValue (cs : List Char) : Nat :=
  cs.foldl (fun n c => 10 * n + (c.toNat - '0'.toNat)) 0

/-- Reads an index: a zero, or digits that start with another one, below `2 ^ 64`. -/
def indexNumber : Reader Nat := do
  let first ← satisfy Char.isDigit
  let rest ← if first == '0' then pure [] else takeWhile Char.isDigit
  let n := digitsValue (first :: rest)
  if n < pow2 64 then return n else failure

/-- Reads one or more decimal digits. -/
def digits1 : Reader (List Char) := takeWhile1 Char.isDigit

/-- Reads the exponent of a number. -/
def exponent : Reader Int := do
  let _ ← satisfy fun c => c == 'e' || c == 'E'
  let sign ← attempt (satisfy fun c => c == '+' || c == '-')
  let digits ← digits1
  return if sign == some '-' then -(digitsValue digits : Int) else digitsValue digits

/-- Reads a number with a fraction, an exponent or both. -/
def realNumber : Reader Number := do
  let whole ← digits1
  let fraction ← attempt (exactly "." *> digits1)
  let power ← attempt exponent
  let digits := whole ++ fraction.getD []
  if fraction.isNone && power.isNone then failure
  else
    match Number.ofDecimal? false (digitsValue digits)
      (power.getD 0 - ((fraction.getD []).length : Int)) with
    | some n => return n
    | none => failure

/-- Reads a whole number of at most 64 bits. -/
def wholeNumber : Reader Number := do
  let n := digitsValue (← digits1)
  if n < pow2 64 then return .natural n else failure

/-- Reads a number without sign. -/
def number : Reader Number :=
  realNumber <|> wholeNumber

/-- Reads a number with a minus sign, which is part of the literal. -/
def negativeNumber : Reader Number := do
  exactly "-"
  inlineBlanks
  return (← number).neg

/-! ## Strings -/

/-- The value of a hexadecimal digit. -/
def hexValue? (c : Char) : Option Nat :=
  if c.isDigit then some (c.toNat - '0'.toNat)
  else if 'a' ≤ c && c ≤ 'f' then some (c.toNat - 'a'.toNat + 10)
  else if 'A' ≤ c && c ≤ 'F' then some (c.toNat - 'A'.toNat + 10)
  else none

/-- Reads `count` hexadecimal digits. -/
def hexDigits : Nat → Nat → Reader Nat
  | 0, n => pure n
  | count + 1, n => do
    let c ← satisfy fun c => (hexValue? c).isSome
    hexDigits count (16 * n + (hexValue? c).getD 0)

/-- Reads a character given by `count` hexadecimal digits. -/
def codePoint (count : Nat) : Reader Char := do
  let n ← hexDigits count 0
  if n.isValidChar then return Char.ofNat n else failure

/-- Reads an escaped character of a quoted string. -/
def escapedChar : Reader Char := do
  exactly "\\"
  match ← satisfy fun _ => true with
  | 'n' => return '\n'
  | 'r' => return '\r'
  | 't' => return '\t'
  | '\\' => return '\\'
  | '"' => return '"'
  | '/' => return '/'
  | 'b' => return '\x08'
  | 'f' => return '\x0c'
  | 'u' => codePoint 4
  | 'U' => codePoint 8
  | _ => failure

/-- Reads an opening of an interpolation or directive that is meant as text. -/
def escapedOpening : Reader (List Char) :=
  exactly "$$\x7b" *> pure ['$', '\x7b'] <|> exactly "%%\x7b" *> pure ['%', '\x7b']

/-- Fails where an interpolation or directive opens. -/
def notOpening : Reader Unit := do
  if (← startsWith "$\x7b") || (← startsWith "%\x7b") then failure

/-- Reads one character of a quoted string. -/
def quotedChar : Reader (List Char) :=
  escapedOpening <|> (do return [← escapedChar]) <|> do
    notOpening
    return [← satisfy fun c => c != '"' && c != '\\']

/-- Reads text, at least one character. -/
def textOf (char : Reader (List Char)) : Reader (List Char) := do
  let parts ← many char
  if parts.isEmpty then failure else return parts.flatten

/-- Reads a quoted string without interpolation. -/
def quotedString : Reader String := do
  exactly "\""
  let parts ← many quotedChar
  exactly "\""
  return String.ofList parts.flatten

/-- Reads the line that closes a heredoc, up to and including its delimiter. -/
def heredocEnd (delimiter : String) : Reader Unit := do
  let _ ← takeWhile fun c => c == ' ' || c == '\t'
  exactly delimiter

/-- Reads one character of a heredoc. The line end in front of the closing line is not one. -/
def heredocChar (delimiter : String) : Reader (List Char) :=
  escapedOpening <|> do
    notOpening
    if (← attempt (lineEnd *> heredocEnd delimiter)).isSome then failure
    return [← satisfy fun _ => true]

/-- Reads one character of a text that nothing but the end of the whole text closes. -/
def plainChar : Reader (List Char) :=
  escapedOpening <|> do
    notOpening
    return [← satisfy fun _ => true]

end InfraLint.Reader
