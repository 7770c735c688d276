import InfraLint.Number.Binary64

/-!
# Shortest decimal text

`shortest` gives the decimal with the fewest digits that reads back as a given double-precision
number, and of those the nearest one. A `Layout` then says how such a decimal is written: where the
positional form ends, and how an exponent looks.
-/

namespace InfraLint

/-- The number `digits * 10 ^ exponent`. -/
structure Decimal where
  digits : Nat
  exponent : Int
deriving Repr, DecidableEq

namespace Decimal

/-- Moves trailing zeros of the digits into the exponent, at most `fuel` of them. -/
def dropZeros : Nat → Decimal → Decimal
  | 0, d => d
  | fuel + 1, d =>
    if d.digits != 0 && d.digits % 10 == 0 then dropZeros fuel ⟨d.digits / 10, d.exponent + 1⟩
    else d

end Decimal

namespace Binary64

/-- The exponent of the leading decimal digit of `mantissa * 2 ^ exponent`, for a positive
mantissa. -/
def leadingExponent (mantissa : Nat) (exponent : Int) : Int :=
  match exponent with
  | .ofNat k => (digitCount (mantissa * pow2 k) : Int) - 1
  | .negSucc k =>
    let den := pow2 (k + 1)
    if den ≤ mantissa then (digitCount (mantissa / den) : Int) - 1
    else -(digitCount (den / mantissa) : Int)

/-- The decimal with `count` digits nearest to `mantissa * 2 ^ exponent`, if one of the two
neighbours on that grid reads back as the number. Numbers that round to it form the interval from
`low / 4` to `high / 4` units, with the ends when the mantissa is even. -/
def withDigits? (mantissa : Nat) (exponent : Int) (count : Nat) : Option Decimal :=
  let grid := leadingExponent mantissa exponent - (count : Int) + 1
  let unit := exponent - 2
  let low := if mantissa == pow2 52 && minExponent < exponent then 4 * mantissa - 1
    else 4 * mantissa - 2
  let high := 4 * mantissa + 2
  -- `x` quarter units are `x * scale / step` steps of the grid
  let scale := pow2 unit.toNat * pow10 (-grid).toNat
  let step := pow10 grid.toNat * pow2 (-unit).toNat
  let value := 4 * mantissa * scale
  let inside := fun (t : Nat) =>
    if mantissa % 2 == 0 then low * scale ≤ t * step && t * step ≤ high * scale
    else low * scale < t * step && t * step < high * scale
  let below := value / step
  let nearBelow := 2 * (value % step)
  match inside below, inside (below + 1) with
  | true, true =>
    if nearBelow < step || (nearBelow == step && below % 2 == 0) then some ⟨below, grid⟩
    else some ⟨below + 1, grid⟩
  | true, false => some ⟨below, grid⟩
  | false, true => some ⟨below + 1, grid⟩
  | false, false => none

/-- The shortest decimal that reads back as the magnitude of `x`. Seventeen digits always do. -/
def shortest (x : Binary64) : Decimal :=
  if x.mantissa == 0 then ⟨0, 0⟩
  else
    match (List.range 17).findSome? fun n => withDigits? x.mantissa x.exponent (n + 1) with
    | some d => Decimal.dropZeros 20 d
    | none => ⟨x.mantissa, 0⟩

end Binary64

/-- How a decimal is written. `point` is the number of digits before the point of the positional
form. -/
structure Layout where
  /-- The positional form is used only for a `point` above this. -/
  pointAbove : Int
  /-- The positional form is used only for a `point` up to this. -/
  pointUpTo : Int
  /-- Whether an exponent that is not negative gets a plus sign. -/
  plusSign : Bool
deriving Repr, DecidableEq

namespace Layout

/-- The text of an exponent. -/
def exponentText (layout : Layout) (e : Int) : String :=
  if e < 0 then "e-" ++ toString e.natAbs
  else if layout.plusSign then "e+" ++ toString e.natAbs
  else "e" ++ toString e.natAbs

/-- The text of a decimal. A whole number in positional form ends in `.0`. -/
def decimalText (layout : Layout) (d : Decimal) : String :=
  let digits := Nat.toDigits 10 d.digits
  let point : Int := digits.length + d.exponent
  if layout.pointAbove < point && point ≤ layout.pointUpTo then
    if 0 ≤ d.exponent then
      String.ofList (digits ++ List.replicate d.exponent.toNat '0') ++ ".0"
    else if 0 < point then
      String.ofList (digits.take point.toNat) ++ "." ++ String.ofList (digits.drop point.toNat)
    else "0." ++ String.ofList (List.replicate (-point).toNat '0' ++ digits)
  else
    let fraction := digits.drop 1
    String.ofList (digits.take 1) ++
      (if fraction.isEmpty then "" else "." ++ String.ofList fraction) ++
      layout.exponentText (point - 1)

/-- The text of a double-precision number. -/
def text (layout : Layout) (x : Binary64) : String :=
  (if x.negative then "-" else "") ++ layout.decimalText x.shortest

end Layout

end InfraLint
