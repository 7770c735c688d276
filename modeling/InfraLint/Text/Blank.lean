/-!
# Blank characters

The characters that count as white space in texts that people write: list separators in
annotations, the margins of an expression's source text, the margins of a comma-separated flag.
-/

namespace InfraLint.Text

/-- Whether `c` is white space. The set is the Unicode property `White_Space`, which has
twenty-five members. -/
def isBlank (c : Char) : Bool :=
  let n := c.toNat
  (0x9 ≤ n && n ≤ 0xD) || n == 0x20 || n == 0x85 || n == 0xA0 || n == 0x1680 ||
    (0x2000 ≤ n && n ≤ 0x200A) || n == 0x2028 || n == 0x2029 || n == 0x202F || n == 0x205F ||
    n == 0x3000

/-- The characters left when the blanks at the end are taken off. -/
def trimRight (cs : List Char) : List Char :=
  (cs.reverse.dropWhile isBlank).reverse

/-- The characters left when the blanks at both ends are taken off. -/
def trimBlank (cs : List Char) : List Char :=
  trimRight (cs.dropWhile isBlank)

/-- A text without the blanks at its ends. -/
def trim (s : String) : String :=
  String.ofList (trimBlank s.toList)

end InfraLint.Text
