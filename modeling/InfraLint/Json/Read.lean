import InfraLint.Grammar.Literal
import InfraLint.Json.Basic

/-!
# Reading JSON

A strict reader: no comments, no trailing commas, nothing but blanks around the document. What
follows the grammar is read even if it has no value; arrays and objects have one if they nest less
than 128 deep. A number without fraction and exponent that fits in 64 bits is whole; any other is a
double-precision number, read from as many leading digits as fit in 64 bits by one multiplication or
division with a power of ten.
-/

namespace InfraLint.Json

open Reader

/-- Passes the blanks that JSON allows. -/
def skip : Reader Unit := do
  let _ ← takeWhile fun c => c == ' ' || c == '\n' || c == '\t' || c == '\r'

/-! ## Numbers -/

/-- The leading digits of a number, as many as fit in 64 bits, appended to those already read. Gives
the number they make, how many were taken and how many were left. -/
def takeDigits (start : Nat) : List Char → Nat × Nat × Nat
  | [] => (start, 0, 0)
  | c :: rest =>
    let next := 10 * start + (c.toNat - '0'.toNat)
    if next < pow2 64 then
      let (value, taken, left) := takeDigits next rest
      (value, taken + 1, left)
    else (start, 0, rest.length + 1)

/-- `10 ^ n` as a double-precision number, for `n` up to 308. -/
def powerOfTen? (n : Nat) : Option Binary64 :=
  if n ≤ 308 then Binary64.ofDecimal? false 1 n else none

/-- Divides a number by `10 ^ 308`, at most `fuel` times, until the exponent is one of a power that
can be written. -/
def scaleDown : Nat → Binary64 → Nat → Option (Binary64 × Nat)
  | 0, x, n => some (x, n)
  | fuel + 1, x, n =>
    if n ≤ 308 then some (x, n)
    else do scaleDown fuel (← x.div? (← powerOfTen? 308)) (n - 308)

/-- The double-precision number for `significand * 10 ^ exponent`, or nothing when it is too
large. Two divisions by `10 ^ 308` make any significand zero. -/
def scaled? (significand : Nat) (exponent : Int) : Option Binary64 := do
  let x ← Binary64.ofScaled? significand 0
  match exponent with
  | .ofNat n => if significand == 0 then some x else x.mul? (← powerOfTen? n)
  | .negSucc n =>
    let (y, m) ← scaleDown 3 x (n + 1)
    if m ≤ 308 then y.div? (← powerOfTen? m) else some ⟨false, 0, Binary64.minExponent⟩

/-- The digits of a number as they are written. -/
structure Numeral where
  negative : Bool
  whole : List Char
  fraction : Option (List Char)
  power : Option Int

/-- The number that a numeral denotes. -/
def Numeral.value? (n : Numeral) : Option Number :=
  let (significand, _, left) := takeDigits 0 n.whole
  if n.fraction.isNone && n.power.isNone && left == 0 then
    if !n.negative then some (.natural significand)
    else if significand == 0 || pow2 63 < significand then
      (Binary64.ofScaled? significand 0).map fun x => .real x.neg
    else some (.signed (-(significand : Int)))
  else do
    let (significand, taken, _) := takeDigits significand (n.fraction.getD [])
    let x ← scaled? significand ((left : Int) - taken + n.power.getD 0)
    return .real (if n.negative then x.neg else x)

/-- Reads the digits in front of a point: a zero, or digits that do not start with one. -/
def wholeDigits : Reader (List Char) := do
  let digits ← digits1
  match digits with
  | '0' :: _ :: _ => failure
  | _ => return digits

/-- Reads a number. -/
def readNumber : Reader Json := do
  let negative ← accept "-"
  let whole ← wholeDigits
  let fraction ← if ← accept "." then some <$> digits1 else pure none
  let power ← match ← peek? with
    | some 'e' | some 'E' => some <$> exponent
    | _ => pure none
  match Numeral.value? ⟨negative, whole, fraction, power⟩ with
  | some n => return .number n
  | none => return .unreadable

/-! ## Strings -/

/-- One unit of a string: a character, or half of one that is given by two numbers. -/
inductive StringUnit where
  | char (c : Char)
  /-- The first half. -/
  | high (bits : Nat)
  /-- The second half. -/
  | low (bits : Nat)

/-- The unit with a given number. -/
def StringUnit.ofNat (n : Nat) : StringUnit :=
  if 0xD800 ≤ n && n < 0xDC00 then .high (n - 0xD800)
  else if 0xDC00 ≤ n && n < 0xE000 then .low (n - 0xDC00)
  else .char (Char.ofNat n)

/-- The characters of a string. A half without the other one is none. -/
def StringUnit.chars? : List StringUnit → Option (List Char)
  | [] => some []
  | .char c :: rest => (chars? rest).map (c :: ·)
  | .high a :: .low b :: rest => (chars? rest).map (Char.ofNat (0x10000 + a * 0x400 + b) :: ·)
  | _ => none

/-- Reads one unit of a string. -/
def stringUnit : Reader StringUnit := do
  match ← satisfy fun c => c != '"' && 0x20 ≤ c.toNat with
  | '\\' =>
    match ← satisfy fun _ => true with
    | '"' => return .char '"'
    | '\\' => return .char '\\'
    | '/' => return .char '/'
    | 'b' => return .char '\x08'
    | 'f' => return .char '\x0c'
    | 'n' => return .char '\n'
    | 'r' => return .char '\r'
    | 't' => return .char '\t'
    | 'u' => return .ofNat (← hexDigits 4 0)
    | _ => failure
  | c => return .char c

/-- Reads a string. One with half a pair is nothing. -/
def readString : Reader (Option String) := do
  exactly "\""
  let units ← many stringUnit
  exactly "\""
  return (StringUnit.chars? units).map String.ofList

/-! ## Arrays and objects -/

/-- Reads `item`s separated by commas up to `close`; the opening sign has been read. At most `fuel`
items. -/
def itemsUpTo (item : Reader α) (close : String) : Nat → Reader (List α)
  | 0 => failure
  | fuel + 1 => do
    skip
    let first ← item
    skip
    if ← accept close then return [first]
    exactly ","
    return first :: (← itemsUpTo item close fuel)

/-- Reads `item`s separated by commas up to `close`, possibly none. -/
def enclosed (item : Reader α) (close : String) : Reader (List α) := fun c =>
  (do
    skip
    if ← accept close then return []
    itemsUpTo item close c.rest.length : Reader (List α)) c

/-- Reads one member of an object. One without a name is nothing. -/
def readMember (value : Reader Json) : Reader (Option (String × Json)) := do
  let key ← readString
  skip
  exactly ":"
  skip
  let found ← value
  return key.map (·, found)

/-- Reads a value with at most `fuel` levels. Of the arrays and objects, `room` levels have a
value. -/
def valueTo : Nat → Nat → Reader Json
  | 0, _ => failure
  | fuel + 1, room => do
    match ← peek? with
    | some 'n' => exactly "null" *> pure .null
    | some 't' => exactly "true" *> pure (.bool true)
    | some 'f' => exactly "false" *> pure (.bool false)
    | some '"' => return ((← readString).map Json.string).getD .unreadable
    | some '[' =>
      exactly "["
      let items ← enclosed (valueTo fuel (room - 1)) "]"
      return if room == 0 then .unreadable else .array items
    | some '\x7b' =>
      exactly "\x7b"
      let members ← enclosed (readMember (valueTo fuel (room - 1))) "\x7d"
      return if room == 0 then .unreadable else (members.mapM id).elim .unreadable Json.object
    | _ => readNumber

/-- Reads a document. Each level takes up a character, so the length of the text bounds their
number. -/
def parse? (text : String) : Option Json := do
  let whole : Reader Json := fun c => (skip *> valueTo (c.rest.length + 1) 127 <* skip <* atEnd) c
  let (value, _) ← whole (Cursor.start text)
  return value

end InfraLint.Json
