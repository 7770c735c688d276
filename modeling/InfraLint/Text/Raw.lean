/-!
# Raw texts

The names and the paths of files are bytes. Most of them are the encoding of a text, but they need
not be: `RawText.display` shows any of them as a text, with a mark for what encodes no character.
-/

namespace InfraLint

/-- Bytes that stand for a text. They need not encode one. -/
structure RawText where
  bytes : List UInt8
deriving Repr, DecidableEq

namespace RawText

/-- The encoding of a text. -/
def ofText (text : String) : RawText := ⟨text.toList.flatMap String.utf8EncodeChar⟩

instance : Coe String RawText := ⟨ofText⟩

instance : Append RawText := ⟨fun first second => ⟨first.bytes ++ second.bytes⟩⟩

/-- Whether there are no bytes. -/
def isEmpty (raw : RawText) : Bool := raw.bytes.isEmpty

/-- Whether the bytes encode a text. -/
def IsText (raw : RawText) : Prop := ∃ text, raw = ofText text

/-- Whether a byte can follow the first one of a character. -/
def isTail (byte : UInt8) : Bool := 0x80 ≤ byte && byte ≤ 0xBF

/-- Whether a character of three or four bytes can begin with these two. -/
def begins (first second : UInt8) : Bool :=
  if first == 0xE0 then 0xA0 ≤ second && second ≤ 0xBF
  else if first == 0xED then 0x80 ≤ second && second ≤ 0x9F
  else if first == 0xF0 then 0x90 ≤ second && second ≤ 0xBF
  else if first == 0xF4 then 0x80 ≤ second && second ≤ 0x8F
  else 0xE1 ≤ first && first ≤ 0xF3 && isTail second

/-- How many bytes after the first one belong to a character that is begun and not completed. -/
def brokenTail : List UInt8 → Nat
  | first :: second :: rest =>
    if begins first second then
      if 0xF0 ≤ first && rest.head?.any isTail then 2 else 1
    else 0
  | _ => 0

/-- The characters that bytes encode. A character that is not completed is shown by a mark, and so
is a byte that begins none. The number is that of the bytes still to skip, which belong to a
character that has been shown. -/
def decode : Nat → List UInt8 → List Char
  | _, [] => []
  | skipped + 1, _ :: rest => decode skipped rest
  | 0, first :: rest =>
    match (first :: rest).toByteArray.utf8DecodeChar? 0 with
    | some c => c :: decode (c.utf8Size - 1) rest
    | none => '\uFFFD' :: decode (brokenTail (first :: rest)) rest

/-- Bytes as a text. -/
def display (raw : RawText) : String := String.ofList (decode 0 raw.bytes)

/-! ## Raw texts that are texts -/

/-- A byte below 128 is the encoding of its own character, and no part of another one. -/
theorem toNat_of_mem_encodeChar {c : Char} {byte : UInt8} (member : byte ∈ String.utf8EncodeChar c)
    (low : byte.toNat < 128) : c.val.toNat = byte.toNat := by
  have value_of_eq (n : Nat) (same : byte = UInt8.ofNat n) : byte.toNat = n % 256 := by
    rw [same, UInt8.toNat_ofNat']
  unfold String.utf8EncodeChar at member
  dsimp only at member
  -- the first byte of a longer character is above 191, each further byte is above 127
  split at member
  · have value := value_of_eq _ (List.mem_singleton.1 member)
    omega
  · split at member
    · simp only [List.mem_cons, List.not_mem_nil, or_false] at member
      rcases member with same | same <;> have value := value_of_eq _ same <;> omega
    · split at member
      · simp only [List.mem_cons, List.not_mem_nil, or_false] at member
        rcases member with same | same | same <;> have value := value_of_eq _ same <;> omega
      · simp only [List.mem_cons, List.not_mem_nil, or_false] at member
        rcases member with same | same | same | same <;> have value := value_of_eq _ same <;> omega

theorem decode_append (skipped rest : List UInt8) :
    decode skipped.length (skipped ++ rest) = decode 0 rest := by
  induction skipped with
  | nil => rfl
  | cons byte skipped ih => rw [List.length_cons, List.cons_append, decode, ih]

theorem decode_encodeChar (c : Char) (rest : List UInt8) :
    decode 0 (String.utf8EncodeChar c ++ rest) = c :: decode 0 rest := by
  have size := String.length_utf8EncodeChar c
  cases bytes : String.utf8EncodeChar c with
  | nil => exact absurd bytes String.utf8EncodeChar_ne_nil
  | cons first tail =>
      have read : (first :: (tail ++ rest)).toByteArray.utf8DecodeChar? 0 = some c := by
        rw [← List.cons_append, ← bytes, List.toByteArray_append]
        exact ByteArray.utf8DecodeChar?_utf8EncodeChar_append
      have length : c.utf8Size - 1 = tail.length := by
        rw [← size, bytes, List.length_cons, Nat.add_sub_cancel]
      rw [List.cons_append, decode, read]
      simp only [length, decode_append]

/-- A text is shown as it is. -/
@[simp] theorem display_ofText (text : String) : (ofText text).display = text := by
  have decoded (cs : List Char) : decode 0 (cs.flatMap String.utf8EncodeChar) = cs := by
    induction cs with
    | nil => rfl
    | cons c rest ih => rw [List.flatMap_cons, decode_encodeChar, ih]
  rw [display, ofText, decoded, String.ofList_toList]

theorem ofText_append (first second : String) :
    ofText (first ++ second) = ofText first ++ ofText second := by
  rw [ofText, String.toList_append, List.flatMap_append]
  rfl

theorem IsText.append {first second : RawText} (isText : first.IsText) (isText' : second.IsText) :
    (first ++ second).IsText := by
  obtain ⟨text, rfl⟩ := isText
  obtain ⟨text', rfl⟩ := isText'
  exact ⟨text ++ text', (ofText_append text text').symm⟩

/-- A raw text that is a text is the text that it is shown as, so no two of these are shown alike. -/
theorem IsText.ofText_display {raw : RawText} (isText : raw.IsText) : ofText raw.display = raw := by
  obtain ⟨text, rfl⟩ := isText
  rw [display_ofText]

/-- Bytes that are no texts can be shown alike. -/
example : display ⟨[0x61, 0xFE]⟩ = display ⟨[0x61, 0xFF]⟩ := by decide +kernel

end RawText

end InfraLint
