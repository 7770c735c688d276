import InfraLint.Text.Identifier

/-!
# Words

A word is a run of letters, digits, combining marks, connecting punctuation and joiners. These are
the characters of identifiers with a few exceptions on either side: enclosing marks, circled letters
and presentation forms belong to words only, some dots and letter-like signs to identifiers only. So
do the letters and marks of the last two versions of the character set, which identifiers know and
words do not.
-/

namespace InfraLint.Text

/-- The characters of words that cannot stand in identifiers, as closed ranges of code points in
increasing order. -/
def wordOnlyRanges : Array (Nat × Nat) := #[
    (0x37A, 0x37A), (0x488, 0x489), (0x1ABE, 0x1ABE), (0x20DD, 0x20E0), (0x20E2, 0x20E4),
    (0x24B6, 0x24E9), (0x2E2F, 0x2E2F), (0xA670, 0xA672), (0xFC5E, 0xFC63), (0xFDFA, 0xFDFB),
    (0xFE70, 0xFE70), (0xFE72, 0xFE72), (0xFE74, 0xFE74), (0xFE76, 0xFE76), (0xFE78, 0xFE78),
    (0xFE7A, 0xFE7A), (0xFE7C, 0xFE7C), (0xFE7E, 0xFE7E), (0x1F130, 0x1F149), (0x1F150, 0x1F169),
    (0x1F170, 0x1F189)]

/-- The characters of identifiers above ASCII that cannot stand in words, as closed ranges of code
points in increasing order. -/
def identifierOnlyRanges : Array (Nat × Nat) := #[
    (0xB7, 0xB7), (0x387, 0x387), (0x558, 0x558), (0x58B, 0x58B), (0x5C8, 0x5C8), (0x88F, 0x88F),
    (0xC5C, 0xC5C), (0xCDC, 0xCDC), (0x1369, 0x1371), (0x19DA, 0x19DA), (0x1ACF, 0x1ADE),
    (0x1AE0, 0x1AEB), (0x2118, 0x2118), (0x212E, 0x212E), (0x30FB, 0x30FB), (0xA7CE, 0xA7CF),
    (0xA7D2, 0xA7D2), (0xA7D4, 0xA7D4), (0xA7DD, 0xA7DD), (0xA7F1, 0xA7F1), (0xAB6C, 0xAB6C),
    (0xFF65, 0xFF65), (0x10940, 0x10959), (0x10EC5, 0x10EC7), (0x10EFA, 0x10EFB),
    (0x11B60, 0x11B67), (0x11DB0, 0x11DDB), (0x11DE0, 0x11DE9), (0x16EA0, 0x16EB8),
    (0x16EBB, 0x16ED3), (0x16FF2, 0x16FF6), (0x187F8, 0x187FF), (0x18D09, 0x18D1E),
    (0x18D80, 0x18DF2), (0x1E6C0, 0x1E6DE), (0x1E6E0, 0x1E6F5), (0x1E6FE, 0x1E6FF),
    (0x2B73A, 0x2B73F), (0x2CEA2, 0x2CEAD), (0x323B0, 0x33479), (0x3D000, 0x3FC3F)]

/-- Whether a character belongs to a word. -/
def isWord (c : Char) : Bool :=
  if inRanges wordOnlyRanges c.toNat then true
  else isIdContinue c && c != '-' && !inRanges identifierOnlyRanges c.toNat

/-- Whether a word can start behind `before`. -/
def startsWord (before : Option Char) : Bool :=
  match before with
  | some c => !isWord c
  | none => true

end InfraLint.Text
