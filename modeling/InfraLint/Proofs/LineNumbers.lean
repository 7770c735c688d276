import InfraLint.Proofs.Reading
import InfraLint.Text.Raw
import InfraLint.Waiver

/-!
# Two ways to number lines

A `LineIndex` gives the line of a byte offset, and findings cite these lines.  The search for
waivers goes through `splitLines`, which enumerates the lines themselves.  Both give the same
numbers (`Text.LineIndex.lineOf_agrees_with_lines`), whatever ends the lines and however many bytes
their characters have.

The index counts line feeds: the line of an offset is one more than the number of line feeds among
the bytes before it, since in UTF-8 the byte of a line feed occurs in no other character.  On the
other side, `Text.MadeOf` says what the lines of a text are, each with what ends it.  A text is made
of lines in one way, and `splitLines` gives the lines without their ends.  When a line starts, as
many line feeds have gone by as there are lines before it, and inside the line there is none except
as its last byte.
-/

namespace InfraLint.Text

/-! ## Bytes of a text -/

/-- The bytes of a text in UTF-8. -/
def bytes (cs : List Char) : List UInt8 := cs.flatMap String.utf8EncodeChar

@[simp] theorem bytes_nil : bytes [] = [] := rfl

@[simp] theorem bytes_cons (c : Char) (rest : List Char) :
    bytes (c :: rest) = String.utf8EncodeChar c ++ bytes rest := rfl

/-- These are the bytes in which a string is stored. -/
theorem bytes_toList (source : String) :
    bytes source.toList = source.toByteArray.data.toList := by
  have stored : source.toByteArray = source.toList.utf8Encode := by
    rw [← String.toByteArray_ofList, String.ofList_toList]
  rw [stored, List.utf8Encode, List.data_toByteArray, bytes]

/-- The byte of a line feed occurs in no other character. -/
theorem count_utf8EncodeChar (c : Char) :
    (String.utf8EncodeChar c).count 10 = if c = '\n' then 1 else 0 := by
  by_cases feed : c = '\n'
  · subst feed
    rfl
  · rw [if_neg feed, List.count_eq_zero]
    intro member
    have code : c.val.toNat = 10 := RawText.toNat_of_mem_encodeChar member (by decide)
    exact feed (Char.ext (UInt32.toNat_inj.1 code))

/-! ## The index of a text -/

namespace LineIndex

variable {base offset : Nat} {cs : List Char}

theorem lt_of_mem_startsAfter {start : Nat} (member : start ∈ startsAfter base cs) :
    base < start := by
  induction cs generalizing base with
  | nil => cases member
  | cons c rest ih =>
      have some := c.utf8Size_pos
      rw [startsAfter] at member
      split at member
      · rcases List.mem_cons.1 member with rfl | later
        · omega
        · have behind := ih later
          omega
      · have behind := ih member
        omega

theorem pairwise_startsAfter (base : Nat) (cs : List Char) :
    (startsAfter base cs).Pairwise (· < ·) := by
  induction cs generalizing base with
  | nil => exact .nil
  | cons c rest ih =>
      rw [startsAfter]
      split
      · exact .cons (fun start member => lt_of_mem_startsAfter member) (ih _)
      · exact ih _

/-- The lines of a text start one behind the other. -/
theorem pairwise_starts (source : String) : (ofText source).starts.Pairwise (· < ·) :=
  .cons (fun _ member => lt_of_mem_startsAfter member) (pairwise_startsAfter 0 source.toList)

theorem lineOf_mono (index : LineIndex) {first second : Nat} (before : first ≤ second) :
    index.lineOf first ≤ index.lineOf second := by
  refine List.countP_mono_left fun start _ reached => ?_
  rw [decide_eq_true_iff] at reached ⊢
  exact Nat.le_trans reached before

/-- In an increasing list the numbers up to a bound come first. -/
theorem le_iff_lt_countP {starts : List Nat} (increasing : starts.Pairwise (· < ·))
    {position start : Nat} (there : starts[position]? = some start) :
    start ≤ offset ↔ position < starts.countP (· ≤ offset) := by
  induction starts generalizing position with
  | nil => cases there
  | cons first rest ih =>
      obtain ⟨above, increasing⟩ := List.pairwise_cons.1 increasing
      have none (beyond : ¬ first ≤ offset) : rest.countP (· ≤ offset) = 0 := by
        rw [List.countP_eq_zero]
        intro later member reached
        have behind := above later member
        rw [decide_eq_true_iff] at reached
        omega
      simp only [List.countP_cons, decide_eq_true_iff]
      cases position with
      | zero =>
          cases there
          split
          · omega
          · next beyond => simp [none beyond, beyond]
      | succ position =>
          have later : rest[position]? = some start := there
          have behind := above start (List.mem_of_getElem? later)
          rw [ih increasing later]
          split
          · omega
          · next beyond => simp [none beyond]

/-- The line of an offset is found by search: the lines up to it are those that start at the offset
or before it. -/
theorem le_iff_lt_lineOf (source : String) {position start : Nat}
    (there : (ofText source).starts[position]? = some start) :
    start ≤ offset ↔ position < (ofText source).lineOf offset :=
  le_iff_lt_countP (pairwise_starts source) there

/-! ## Counting line feeds -/

theorem lineOf_ofText (source : String) (offset : Nat) :
    (ofText source).lineOf offset =
      1 + (startsAfter 0 source.toList).countP (· ≤ offset) := by
  rw [lineOf, ofText, List.countP_cons_of_pos (by simp), Nat.add_comm]

/-- The starts up to an offset are as many as the line feeds among the bytes before it. -/
theorem countP_startsAfter (base offset : Nat) (cs : List Char) :
    (startsAfter base cs).countP (· ≤ offset) = ((bytes cs).take (offset - base)).count 10 := by
  induction cs generalizing base with
  | nil => simp [startsAfter]
  | cons c rest ih =>
      have later := ih (base + c.utf8Size)
      have count := count_utf8EncodeChar c
      rw [bytes_cons, List.take_append, List.count_append, String.length_utf8EncodeChar,
        Nat.sub_sub, ← later, startsAfter]
      by_cases feed : c = '\n'
      · subst feed
        -- its one byte is before the offset exactly if the next line has started
        by_cases reached : base + 1 ≤ offset
        · have whole : (String.utf8EncodeChar '\n').take (offset - base) = [10] :=
            List.take_of_length_le (show 1 ≤ offset - base by omega)
          rw [whole]
          simp [show '\n'.utf8Size = 1 from rfl, reached, Nat.add_comm]
        · have nothing : offset - base = 0 := by omega
          rw [nothing]
          simp [show '\n'.utf8Size = 1 from rfl, reached]
      · rw [if_neg feed, List.count_eq_zero] at count
        have nothing : ((String.utf8EncodeChar c).take (offset - base)).count 10 = 0 :=
          List.count_eq_zero.2 fun member => count (List.mem_of_mem_take member)
        rw [nothing]
        simp [feed]

/-- The line of an offset is one more than the number of line feeds among the bytes before it. -/
theorem lineOf_eq_count (source : String) (offset : Nat) :
    (ofText source).lineOf offset =
      1 + (source.toByteArray.data.toList.take (min offset source.utf8ByteSize)).count 10 := by
  have size : source.utf8ByteSize = source.toByteArray.data.toList.length := rfl
  rw [lineOf_ofText, countP_startsAfter, bytes_toList, Nat.sub_zero, size, ← List.take_eq_take_min]

theorem length_startsAfter (base : Nat) (cs : List Char) :
    (startsAfter base cs).length = cs.count '\n' := by
  induction cs generalizing base with
  | nil => rfl
  | cons c rest ih =>
      by_cases feed : c = '\n' <;> simp [startsAfter, feed, ih]

/-- Lines are numbered from one, and there is one more than there are line feeds. -/
theorem lineOf_bounds (source : String) (offset : Nat) :
    1 ≤ (ofText source).lineOf offset ∧
      (ofText source).lineOf offset ≤ 1 + source.toList.count '\n' := by
  rw [lineOf_ofText, ← length_startsAfter 0]
  have most : (startsAfter 0 source.toList).countP (· ≤ offset) ≤ _ := List.countP_le_length
  omega

end LineIndex

/-! ## What the lines of a text are -/

/-- A line and the characters that end it. -/
structure Line where
  text : List Char
  ending : List Char

/-- A line with what ends it. -/
def Line.chars (line : Line) : List Char := line.text ++ line.ending

/-- A text is made of lines.  A line ends at a line feed, and a carriage return directly before the
line feed belongs to the end.  What follows the last line feed is a line without an end, unless it
is empty. -/
inductive MadeOf : List Char → List Line → Prop where
  | nil : MadeOf [] []
  | last {line : List Char} : '\n' ∉ line → line ≠ [] → MadeOf line [⟨line, []⟩]
  | feed {line rest : List Char} {lines : List Line} : '\n' ∉ line → line.getLast? ≠ some '\r' →
      MadeOf rest lines → MadeOf (line ++ '\n' :: rest) (⟨line, ['\n']⟩ :: lines)
  | returnFeed {line rest : List Char} {lines : List Line} : '\n' ∉ line →
      MadeOf rest lines → MadeOf (line ++ '\r' :: '\n' :: rest) (⟨line, ['\r', '\n']⟩ :: lines)

/-- A line up to a line feed, with the carriage return before it or without. -/
theorem MadeOf.cons {line rest : List Char} {lines : List Line} (clear : '\n' ∉ line)
    (made : MadeOf rest lines) : ∃ first, MadeOf (line ++ '\n' :: rest) (first :: lines) := by
  rcases List.eq_nil_or_concat line with rfl | ⟨front, c, rfl⟩
  · exact ⟨_, .feed clear (by simp) made⟩
  · by_cases isReturn : c = '\r'
    · subst isReturn
      rw [List.concat_eq_append] at clear ⊢
      rw [List.append_assoc, List.singleton_append]
      exact ⟨_, .returnFeed (fun member => clear (List.mem_append_left _ member)) made⟩
    · refine ⟨_, .feed clear ?_ made⟩
      simpa using isReturn

/-- Every text is made of lines. -/
theorem exists_madeOf (cs : List Char) : ∃ lines, MadeOf cs lines := by
  have front (line cs : List Char) (clear : '\n' ∉ line) : ∃ lines, MadeOf (line ++ cs) lines := by
    induction cs generalizing line with
    | nil =>
        rw [List.append_nil]
        by_cases empty : line = []
        · exact ⟨[], empty ▸ .nil⟩
        · exact ⟨_, .last clear empty⟩
    | cons c rest ih =>
        by_cases feed : c = '\n'
        · obtain ⟨lines, made⟩ := ih [] List.not_mem_nil
          obtain ⟨first, made⟩ := made.cons clear
          exact ⟨first :: lines, feed ▸ made⟩
        · rw [← List.singleton_append, ← List.append_assoc]
          refine ih (line ++ [c]) ?_
          simpa [clear] using Ne.symm feed
  exact front [] cs List.not_mem_nil

/-- The lines and their ends are the whole text. -/
theorem MadeOf.flatMap_chars {cs : List Char} {lines : List Line} (made : MadeOf cs lines) :
    lines.flatMap Line.chars = cs := by
  induction made with
  | nil => rfl
  | last => simp [Line.chars]
  | feed _ _ _ ih => simp [Line.chars, ih]
  | returnFeed _ _ ih => simp [Line.chars, ih]

/-! ## The lines that are enumerated -/

theorem linesFrom_append {acc line cs : List Char} (clear : '\n' ∉ line) :
    linesFrom acc (line ++ cs) = linesFrom (line.reverse ++ acc) cs := by
  induction line generalizing acc with
  | nil => rfl
  | cons c rest ih =>
      rw [List.mem_cons, not_or] at clear
      have other : (c == '\n') = false := beq_false_of_ne (Ne.symm clear.1)
      rw [List.cons_append, linesFrom, other, if_neg Bool.false_ne_true, ih clear.2,
        List.reverse_cons, List.append_assoc, List.singleton_append]

theorem dropReturn_of_head? {line : List Char} (other : line.head? ≠ some '\r') :
    dropReturn line = line := by
  cases line with
  | nil => rfl
  | cons c rest =>
      have differs : c ≠ '\r' := by simpa using other
      unfold dropReturn
      split
      · next same =>
        cases same
        exact absurd rfl differs
      · rfl

/-- The lines of a text are those that it is made of. -/
theorem splitLines_of_madeOf {cs : List Char} {lines : List Line} (made : MadeOf cs lines) :
    splitLines cs = lines.map Line.text := by
  induction made with
  | nil => rfl
  | @last line clear some =>
      rw [splitLines, ← List.append_nil line, linesFrom_append clear]
      simp [linesFrom, some]
  | @feed line rest lines clear other _ ih =>
      have whole : dropReturn line.reverse = line.reverse :=
        dropReturn_of_head? (by rwa [List.head?_reverse])
      rw [splitLines, linesFrom_append clear, List.append_nil, linesFrom, beq_self_eq_true,
        if_pos rfl, whole, List.reverse_reverse, ← splitLines, ih]
      rfl
  | @returnFeed line rest lines clear _ ih =>
      have clear' : '\n' ∉ line ++ ['\r'] := by simpa using clear
      rw [splitLines, ← List.singleton_append, ← List.append_assoc, linesFrom_append clear',
        linesFrom, beq_self_eq_true, if_pos rfl, ← splitLines, ih]
      simp [dropReturn]

/-! ## Bytes and lines -/

/-- The number of bytes of lines with their ends. -/
def extent (lines : List Line) : Nat := (bytes (lines.flatMap Line.chars)).length

theorem length_bytes (cs : List Char) : (bytes cs).length = Cursor.byteLength cs := by
  induction cs with
  | nil => rfl
  | cons c rest ih =>
      rw [bytes_cons, List.length_append, String.length_utf8EncodeChar, ih, Cursor.byteLength_cons]

@[simp] theorem extent_nil : extent [] = 0 := rfl

@[simp] theorem extent_cons (line : Line) (lines : List Line) :
    extent (line :: lines) = Cursor.byteLength line.chars + extent lines := by
  rw [extent, extent, length_bytes, length_bytes, List.flatMap_cons, Cursor.byteLength_append]

/-- Lines that start at `base` are numbered by the starts of the lines after the first one: as far
as a line and its end go, as many of these starts have been passed as there are lines before it. -/
def Numbers (base : Nat) (starts : List Nat) (lines : List Line) : Prop :=
  ∀ before line after, lines = before ++ line :: after → ∀ offset,
    base + extent before ≤ offset → offset < base + extent (before ++ [line]) →
      starts.countP (· ≤ offset) = before.length

namespace Numbers

variable {base : Nat} {starts : List Nat} {first : Line} {lines : List Line}

theorem nil : Numbers base starts [] := by
  intro before line after cut
  simp at cut

theorem last : Numbers base [] [first] := by
  intro before line after cut offset _ _
  cases before with
  | nil => rfl
  | cons _ _ => simp at cut

theorem cons (above : ∀ start ∈ starts, base + Cursor.byteLength first.chars < start)
    (rest : Numbers (base + Cursor.byteLength first.chars) starts lines) :
    Numbers base ((base + Cursor.byteLength first.chars) :: starts) (first :: lines) := by
  intro before line after cut offset reached inside
  cases before with
  | nil =>
      -- inside the first line none of the starts has been passed
      cases cut
      simp only [List.nil_append, extent_cons, extent_nil] at inside
      rw [List.length_nil, List.countP_eq_zero]
      intro start member passed
      rw [decide_eq_true_iff] at passed
      rcases List.mem_cons.1 member with rfl | member
      · omega
      · have behind := above start member
        omega
  | cons other before =>
      rw [List.cons_append, List.cons.injEq] at cut
      obtain ⟨rfl, cut⟩ := cut
      rw [extent_cons] at reached
      rw [List.cons_append, extent_cons] at inside
      have passed : base + Cursor.byteLength first.chars ≤ offset := by omega
      rw [List.countP_cons_of_pos (by simpa using passed), List.length_cons,
        rest before line after cut offset (by omega) (by omega)]

end Numbers

namespace LineIndex

variable {base : Nat}

/-- No line starts inside a text without line feeds. -/
theorem startsAfter_append {line cs : List Char} (clear : '\n' ∉ line) :
    startsAfter base (line ++ cs) = startsAfter (base + Cursor.byteLength line) cs := by
  induction line generalizing base with
  | nil => rfl
  | cons c rest ih =>
      rw [List.mem_cons, not_or] at clear
      have other : (c == '\n') = false := beq_false_of_ne (Ne.symm clear.1)
      rw [List.cons_append, startsAfter, other, Cursor.byteLength_cons, ← Nat.add_assoc,
        ← ih clear.2]
      rfl

/-- Behind a line feed the next line starts. -/
theorem startsAfter_line {line rest : List Char} (clear : '\n' ∉ line) :
    startsAfter base (line ++ '\n' :: rest) =
      (base + Cursor.byteLength (line ++ ['\n'])) ::
        startsAfter (base + Cursor.byteLength (line ++ ['\n'])) rest := by
  rw [startsAfter_append clear, Cursor.byteLength_append, ← Nat.add_assoc]
  rfl

/-- The starts in the index of a text number the lines that the text is made of. -/
theorem numbers_startsAfter {cs : List Char} {lines : List Line} (made : MadeOf cs lines) :
    Numbers base (startsAfter base cs) lines := by
  induction made generalizing base with
  | nil => exact .nil
  | @last line clear _ =>
      have none : startsAfter base line = [] := by
        rw [← List.append_nil line, startsAfter_append clear]
        rfl
      rw [none]
      exact .last
  | feed clear _ _ ih =>
      rw [startsAfter_line clear]
      exact .cons (fun start member => lt_of_mem_startsAfter member) ih
  | @returnFeed line rest lines clear _ ih =>
      have clear' : '\n' ∉ line ++ ['\r'] := by simpa using clear
      have chars : line ++ ['\r'] ++ ['\n'] = Line.chars ⟨line, ['\r', '\n']⟩ := by
        simp [Line.chars]
      rw [← List.singleton_append, ← List.append_assoc, startsAfter_line clear', chars]
      exact .cons (fun start member => lt_of_mem_startsAfter member) ih

/-- Both ways to number lines agree on every text.  The line of an offset is one more than the
number of line feeds among the bytes before it, it does not fall, and it is found by search.  A
text is made of lines, which are those that the search for waivers enumerates, and each offset
within a line or its end is on the line with that number. -/
theorem lineOf_agrees_with_lines (source : String) :
    (∀ offset, (ofText source).lineOf offset =
      1 + (source.toByteArray.data.toList.take (min offset source.utf8ByteSize)).count 10) ∧
    (∀ first second, first ≤ second →
      (ofText source).lineOf first ≤ (ofText source).lineOf second) ∧
    (∀ position start offset, (ofText source).starts[position]? = some start →
      (start ≤ offset ↔ position < (ofText source).lineOf offset)) ∧
    (∃ lines, MadeOf source.toList lines) ∧
    ∀ lines, MadeOf source.toList lines →
      Waiver.scan source =
        ((lines.zipIdx 1).filterMap fun (line, number) => Waiver.ofLine? number line.text) ∧
      extent lines = source.utf8ByteSize ∧
      ∀ before line after, lines = before ++ line :: after → ∀ offset,
        extent before ≤ offset → offset < extent (before ++ [line]) →
          (ofText source).lineOf offset = before.length + 1 := by
  refine ⟨lineOf_eq_count source, fun _ _ => (ofText source).lineOf_mono,
    fun _ _ _ => le_iff_lt_lineOf source, exists_madeOf _, fun lines made => ⟨?_, ?_, ?_⟩⟩
  · rw [Waiver.scan, splitLines_of_madeOf made, List.zipIdx_map, List.filterMap_map]
    rfl
  · rw [extent, made.flatMap_chars, bytes_toList]
    rfl
  · intro before line after cut offset reached inside
    have passed := numbers_startsAfter made before line after cut offset
      (by rwa [Nat.zero_add]) (by rwa [Nat.zero_add])
    rw [lineOf_ofText, passed, Nat.add_comm]

/-- A carriage return ends a line only together with a line feed, and characters may be long. -/
example : splitLines "a\rb\r\n\né\r\r\nc".toList =
      ["a\rb".toList, [], "é\r".toList, "c".toList] ∧
    ([0, 1, 4, 5, 6, 7, 9, 10, 11].map (ofText "a\rb\r\n\né\r\r\nc").lineOf) =
      [1, 1, 1, 2, 3, 3, 3, 3, 4] := by
  decide

end LineIndex

end InfraLint.Text
