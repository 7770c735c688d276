import InfraLint.Proofs.LineNumbers
import Mathlib.Data.List.TakeWhile

/-!
# The lists of waivers

A waiver is a comment sign, blanks, the marker and a list of rule names.  `Waiver.ListAt` says where
such a list stands, and the list of a line is the leftmost one (`Waiver.ListOn`).  Its names are the
runs between commas and blanks (`Text.Row`).  A text has the waivers of its lines, one for each line
whose list has a name (`Waiver.scan_reads_lists`).

The list can also be described by a pattern that is searched with backtracking: a sign, any number of
blanks, the marker, any number of blanks, and then the list.  Blanks are list characters too, so the
second run of blanks competes with the list for them: it takes as many as it can and gives one back
if nothing else is left for the list.  Either way the captured list has the same names
(`Waiver.map_names_capture?`).
-/

namespace InfraLint

/-! ## Rows of pieces -/

namespace Text

/-- A text is a row of pieces.  A piece is a run without separators, and separators stand around the
pieces and between two of them. -/
inductive Row (isSep : Char → Bool) : List Char → List (List Char) → Prop where
  | gap {gap : List Char} : (∀ c ∈ gap, isSep c = true) → Row isSep gap []
  | piece {gap piece rest : List Char} {others : List (List Char)} :
      (∀ c ∈ gap, isSep c = true) → piece ≠ [] → (∀ c ∈ piece, isSep c = false) →
      (∀ c ∈ rest.head?, isSep c = true) → Row isSep rest others →
      Row isSep (gap ++ piece ++ rest) (piece :: others)

variable {isSep : Char → Bool} {cs : List Char} {found : List (List Char)}

theorem Row.cons {c : Char} (sep : isSep c = true) (row : Row isSep cs found) :
    Row isSep (c :: cs) found := by
  cases row with
  | gap all => exact .gap (List.forall_mem_cons.2 ⟨sep, all⟩)
  | piece all some clear ends rest =>
      exact .piece (List.forall_mem_cons.2 ⟨sep, all⟩) some clear ends rest

/-- A piece at the start of a text. -/
theorem Row.start {piece rest : List Char} {others : List (List Char)} (full : piece ≠ [])
    (clear : ∀ c ∈ piece, isSep c = false) (ends : ∀ c ∈ rest.head?, isSep c = true)
    (row : Row isSep rest others) : Row isSep (piece ++ rest) (piece :: others) :=
  .piece (List.forall_mem_nil _) full clear ends row

theorem row_piecesFrom (acc : List Char) (clear : ∀ c ∈ acc, isSep c = false) (cs : List Char) :
    Row isSep (acc.reverse ++ cs) (piecesFrom isSep acc cs) := by
  have clear' (acc : List Char) (clear : ∀ c ∈ acc, isSep c = false) :
      ∀ c ∈ acc.reverse, isSep c = false := fun c member => clear c (List.mem_reverse.1 member)
  induction cs generalizing acc with
  | nil =>
      unfold piecesFrom
      split
      · next empty =>
        rw [List.isEmpty_iff.1 empty]
        exact .gap (by simp)
      · next some =>
        exact .start (by simpa using some) (clear' acc clear) (by simp) (.gap (by simp))
  | cons c rest ih =>
      unfold piecesFrom
      split
      · next sep =>
        have later : Row isSep (c :: rest) (piecesFrom isSep [] rest) :=
          .cons sep (ih [] (List.forall_mem_nil _))
        split
        · next empty => rwa [List.isEmpty_iff.1 empty]
        · next some =>
          exact .start (by simpa using some) (clear' acc clear) (by simpa using sep) later
      · next other =>
        have further := ih (c :: acc) (List.forall_mem_cons.2 ⟨Bool.eq_false_iff.2 other, clear⟩)
        rwa [List.reverse_cons, List.append_assoc] at further

theorem row_pieces (isSep : Char → Bool) (cs : List Char) : Row isSep cs (pieces isSep cs) :=
  row_piecesFrom [] (List.forall_mem_nil _) cs

theorem piecesFrom_gap {gap : List Char} (all : ∀ c ∈ gap, isSep c = true) (cs : List Char) :
    piecesFrom isSep [] (gap ++ cs) = piecesFrom isSep [] cs := by
  induction gap with
  | nil => rfl
  | cons c rest ih =>
      obtain ⟨sep, all⟩ := List.forall_mem_cons.1 all
      rw [List.cons_append, piecesFrom, if_pos sep]
      exact ih all

theorem piecesFrom_piece {piece acc : List Char} (clear : ∀ c ∈ piece, isSep c = false)
    (cs : List Char) :
    piecesFrom isSep acc (piece ++ cs) = piecesFrom isSep (piece.reverse ++ acc) cs := by
  induction piece generalizing acc with
  | nil => rfl
  | cons c rest ih =>
      obtain ⟨other, clear⟩ := List.forall_mem_cons.1 clear
      rw [List.cons_append, piecesFrom, other, if_neg Bool.false_ne_true, ih clear,
        List.reverse_cons, List.append_assoc, List.singleton_append]

/-- A piece ends at a separator. -/
theorem piecesFrom_of_head? {acc : List Char} (some : acc ≠ [])
    (ends : ∀ c ∈ cs.head?, isSep c = true) :
    piecesFrom isSep acc cs = acc.reverse :: piecesFrom isSep [] cs := by
  have full : acc.isEmpty = false := by simpa using some
  cases cs with
  | nil => simp [piecesFrom, full]
  | cons c rest =>
      have sep : isSep c = true := ends c rfl
      simp [piecesFrom, full, sep]

theorem Row.pieces_eq (row : Row isSep cs found) : pieces isSep cs = found := by
  induction row with
  | gap all =>
      have none := piecesFrom_gap all []
      rwa [List.append_nil] at none
  | @piece gap piece rest others all some clear ends _ ih =>
      rw [pieces, List.append_assoc, piecesFrom_gap all, piecesFrom_piece clear, List.append_nil,
        piecesFrom_of_head? (by simpa using some) ends, List.reverse_reverse, ← pieces, ih]

/-- The pieces of a text are those that it is a row of. -/
theorem pieces_eq_iff : pieces isSep cs = found ↔ Row isSep cs found := by
  constructor
  · rintro rfl
    exact row_pieces isSep cs
  · exact Row.pieces_eq

/-- Characters of pieces and separators are all there is in a row. -/
theorem Row.forall_mem {has : Char → Prop} (row : Row isSep cs found)
    (separators : ∀ c, isSep c = true → has c) (pieces : ∀ piece ∈ found, ∀ c ∈ piece, has c) :
    ∀ c ∈ cs, has c := by
  induction row with
  | gap all => exact fun c member => separators c (all c member)
  | piece all _ _ _ _ ih =>
      obtain ⟨first, others⟩ := List.forall_mem_cons.1 pieces
      intro c member
      rcases List.mem_append.1 member with member | member
      · rcases List.mem_append.1 member with member | member
        · exact separators c (all c member)
        · exact first c member
      · exact ih others c member

end Text

namespace Waiver

open Text

/-! ## Where a list stands -/

/-- A waiver opens where a comment sign, blanks and the marker stand.  Behind them follows `rest`. -/
inductive Opens : List Char → List Char → Prop where
  | intro {sign blanks rest : List Char} : sign = ['#'] ∨ sign = ['/', '/'] →
      (∀ c ∈ blanks, isBlank c = true) → Opens (sign ++ blanks ++ marker ++ rest) rest

/-- A list stands where a waiver opens: the longest run of list characters behind the marker, which
is not empty. -/
inductive ListAt : List Char → List Char → Prop where
  | intro {cs list rest : List Char} : Opens cs (list ++ rest) → list ≠ [] →
      (∀ c ∈ list, isListChar c = true) → (∀ c ∈ rest.head?, isListChar c = false) → ListAt cs list

/-- The list of a line is the one at the leftmost place where one stands. -/
inductive ListOn : List Char → List Char → Prop where
  | intro {before cs list : List Char} : ListAt cs list →
      (∀ earlier later, before = earlier ++ later → later ≠ [] →
        ∀ other, ¬ ListAt (later ++ cs) other) →
      ListOn (before ++ cs) list

variable {cs line list rest : List Char}

/-- What follows the marker of a waiver that opens at the start of a text. -/
def afterMarker? (cs : List Char) : Option (List Char) :=
  (afterSign? cs).bind fun rest => afterLead? marker (rest.dropWhile isBlank)

/-- The list characters at the start of a text, if there are any. -/
def run? (cs : List Char) : Option (List Char) :=
  let list := cs.takeWhile isListChar
  if list.isEmpty then none else some list

theorem listAt?_eq (cs : List Char) : listAt? cs = (afterMarker? cs).bind run? := by
  rw [afterMarker?, Option.bind_assoc]
  rfl

theorem afterSign?_eq_some_iff :
    afterSign? cs = some rest ↔ cs = ['#'] ++ rest ∨ cs = ['/', '/'] ++ rest := by
  unfold afterSign?
  split <;> simp_all

theorem dropWhile_isBlank_marker (rest : List Char) :
    (marker ++ rest).dropWhile isBlank = marker ++ rest := rfl

theorem afterMarker?_eq_some_iff : afterMarker? cs = some rest ↔ Opens cs rest := by
  rw [afterMarker?, Option.bind_eq_some_iff]
  constructor
  · rintro ⟨behind, signed, marked⟩
    have text : behind = behind.takeWhile isBlank ++ (marker ++ rest) := by
      rw [← eq_append_of_afterLead? marked, List.takeWhile_append_dropWhile]
    have blanks : ∀ c ∈ behind.takeWhile isBlank, isBlank c = true :=
      fun c => List.mem_takeWhile_imp
    rcases afterSign?_eq_some_iff.1 signed with rfl | rfl <;> rw [text]
    · simpa using (Opens.intro (.inl rfl) blanks : Opens _ rest)
    · simpa using (Opens.intro (.inr rfl) blanks : Opens _ rest)
  · rintro ⟨sign, all⟩
    rename_i sign' blanks
    refine ⟨blanks ++ marker ++ rest, afterSign?_eq_some_iff.2 ?_, ?_⟩
    · rcases sign with rfl | rfl <;> simp
    · rw [List.append_assoc, List.dropWhile_append_of_pos all, dropWhile_isBlank_marker,
        afterLead?_append]

theorem run?_eq_some_iff : run? cs = some list ↔
    list ≠ [] ∧ ∃ rest, cs = list ++ rest ∧ (∀ c ∈ list, isListChar c = true) ∧
      ∀ c ∈ rest.head?, isListChar c = false := by
  rw [← takeWhile_eq_iff, run?]
  constructor
  · intro found
    split at found
    · cases found
    · next full =>
      cases found
      exact ⟨by simpa using full, rfl⟩
  · rintro ⟨full, rfl⟩
    simpa using full

theorem listAt?_eq_some_iff : listAt? cs = some list ↔ ListAt cs list := by
  rw [listAt?_eq, Option.bind_eq_some_iff]
  constructor
  · rintro ⟨behind, marked, run⟩
    obtain ⟨full, rest, rfl, all, stops⟩ := run?_eq_some_iff.1 run
    exact .intro (afterMarker?_eq_some_iff.1 marked) full all stops
  · rintro ⟨opens, full, all, stops⟩
    exact ⟨_, afterMarker?_eq_some_iff.2 opens, run?_eq_some_iff.2 ⟨full, _, rfl, all, stops⟩⟩

theorem ListOn.of_listAt (stands : ListAt cs list) : ListOn cs list := by
  refine @ListOn.intro [] _ _ stands fun earlier later cut full => ?_
  exact absurd (List.append_eq_nil_iff.1 cut.symm).2 full

/-- Where no list stands at the start of a line, its list is that of the rest. -/
theorem listOn_cons_iff {c : Char} (free : ∀ other, ¬ ListAt (c :: line) other) :
    ListOn (c :: line) list ↔ ListOn line list := by
  constructor
  · intro found
    generalize text : c :: line = whole at found
    cases found with
    | @intro before cs _ stands leftmost =>
        cases before with
        | nil => exact absurd (text ▸ stands) (free list)
        | cons d before =>
            cases text
            exact .intro stands fun earlier later cut full =>
              leftmost (c :: earlier) later (by rw [cut, List.cons_append]) full
  · intro found
    cases found with
    | @intro before cs _ stands leftmost =>
        refine @ListOn.intro (c :: before) _ _ stands fun earlier later cut full other there => ?_
        cases earlier with
        | nil =>
            cases cut
            exact free other there
        | cons d earlier => exact leftmost earlier later (List.cons.inj cut).2 full other there

theorem findList?_eq_some_iff : findList? line = some list ↔ ListOn line list := by
  induction line with
  | nil =>
      constructor
      · intro found
        cases found
      · intro found
        generalize text : [] = whole at found
        obtain ⟨stands, -⟩ := found
        cases (List.append_eq_nil_iff.1 text.symm).2
        cases listAt?_eq_some_iff.2 stands
  | cons c rest ih =>
      rw [findList?]
      cases here : listAt? (c :: rest) with
      | some other =>
          have stands := listAt?_eq_some_iff.1 here
          rw [Option.some_or, Option.some_inj]
          refine ⟨fun same => same ▸ .of_listAt stands, fun found => ?_⟩
          generalize text : c :: rest = whole at found
          cases found with
          | @intro before cs _ stands' leftmost =>
              cases before with
              | nil =>
                  have again := listAt?_eq_some_iff.2 stands'
                  rw [← List.nil_append cs, ← text, here] at again
                  exact Option.some.inj again
              | cons d before =>
                  rw [text] at stands
                  exact absurd stands (leftmost [] (d :: before) rfl (List.cons_ne_nil _ _) other)
      | none =>
          rw [Option.none_or, ih, listOn_cons_iff fun other stands => ?_]
          cases here.symm.trans (listAt?_eq_some_iff.2 stands)

/-! ## Waivers of a text -/

theorem names_eq_iff {rules : List String} :
    names list = rules ↔ Row isSeparator list (rules.map String.toList) := by
  rw [← pieces_eq_iff, names]
  constructor
  · rintro rfl
    simp [Function.comp_def]
  · intro same
    simp [same, Function.comp_def]

theorem ofLine?_eq_some_iff {number : Nat} {waiver : Waiver} :
    ofLine? number line = some waiver ↔ waiver.line = number ∧ waiver.rules ≠ [] ∧
      ∃ list, ListOn line list ∧ Row isSeparator list (waiver.rules.map String.toList) := by
  constructor
  · intro found
    obtain ⟨list, listed, made⟩ := Option.bind_eq_some_iff.1 found
    dsimp only at made
    split at made
    · cases made
    · next full =>
      cases made
      exact ⟨rfl, by simpa using full, list, findList?_eq_some_iff.1 listed, names_eq_iff.1 rfl⟩
  · rintro ⟨rfl, full, list, found, row⟩
    refine Option.bind_eq_some_iff.2 ⟨list, findList?_eq_some_iff.2 found, ?_⟩
    rw [names_eq_iff.2 row, if_neg (by simpa using full)]

theorem mem_scan_iff {source : String} {lines : List Line} (made : MadeOf source.toList lines)
    {waiver : Waiver} : waiver ∈ scan source ↔
      ∃ position line, lines[position]? = some line ∧
        ofLine? (position + 1) line.text = some waiver := by
  rw [scan, splitLines_of_madeOf made, List.zipIdx_map, List.filterMap_map, List.mem_filterMap]
  constructor
  · rintro ⟨⟨line, number⟩, member, found⟩
    obtain ⟨positive, there⟩ := List.mk_mem_zipIdx_iff_le_and_getElem?_sub.1 member
    obtain ⟨position, rfl⟩ := Nat.exists_eq_add_of_le' positive
    exact ⟨position, line, there, found⟩
  · rintro ⟨position, line, there, found⟩
    exact ⟨(line, position + 1),
      List.mk_mem_zipIdx_iff_le_and_getElem?_sub.2 ⟨Nat.le_add_left 1 position, there⟩, found⟩

/-- Waivers come in the order of their lines. -/
theorem pairwise_scan (source : String) : (scan source).Pairwise (·.line < ·.line) := by
  rw [scan, List.pairwise_filterMap]
  have numbers := List.pairwise_lt_range' (s := 1) (n := (splitLines source.toList).length)
  rw [← List.zipIdx_map_snd, List.pairwise_map] at numbers
  refine numbers.imp fun earlier first found second found' => ?_
  rw [(ofLine?_eq_some_iff.1 found).1, (ofLine?_eq_some_iff.1 found').1]
  exact earlier

/-- The characters of rule names. -/
def isNameChar (c : Char) : Bool := c.isAlphanum || c == '_'

theorem isListChar_of_isNameChar {c : Char} (named : isNameChar c = true) :
    isListChar c = true := by
  rw [isListChar, ← isNameChar, named]
  rfl

theorem isListChar_of_isSeparator {c : Char} (separates : isSeparator c = true) :
    isListChar c = true := by
  rcases Bool.or_eq_true_iff.1 separates with comma | blank <;> simp [isListChar, *]

/-- Names that are written behind the marker up to the end of a line are a list. -/
theorem listAt_of_row {rules : List String} (opens : Opens cs list)
    (row : Row isSeparator list (rules.map String.toList)) (full : rules ≠ [])
    (named : ∀ rule ∈ rules, ∀ c ∈ rule.toList, isNameChar c = true) : ListAt cs list := by
  rw [← List.append_nil list] at opens
  refine .intro opens ?_ ?_ (by simp)
  · rintro rfl
    exact full (List.map_eq_nil_iff.1 row.pieces_eq.symm)
  · refine row.forall_mem (fun c => isListChar_of_isSeparator) fun piece member c inside => ?_
    obtain ⟨rule, among, rfl⟩ := List.mem_map.1 member
    exact isListChar_of_isNameChar (named rule among c inside)

end Waiver

/-! ## Patterns -/

/-- A pattern of characters. -/
inductive Pattern where
  | text (chars : List Char)
  | one (isIn : Char → Bool)
  /-- As many characters as there are, or fewer. -/
  | many (isIn : Char → Bool)
  /-- Either of two patterns; the first one is tried first. -/
  | either (first second : Pattern)
  | next (first second : Pattern)

namespace Pattern

/-- What is left of a text when some characters are taken from its start, first as many as there
are. -/
def afterMany (isIn : Char → Bool) : List Char → List (List Char)
  | [] => [[]]
  | c :: rest => if isIn c then afterMany isIn rest ++ [c :: rest] else [c :: rest]

/-- What is left of a text when a pattern has matched its start, for each way to match it, in the
order in which the ways are tried. -/
def after : Pattern → List Char → List (List Char)
  | text chars, cs => (Text.afterLead? chars cs).toList
  | one isIn, c :: rest => if isIn c then [rest] else []
  | one _, [] => []
  | many isIn, cs => afterMany isIn cs
  | either first second, cs => first.after cs ++ second.after cs
  | next first second, cs => (first.after cs).flatMap second.after

/-- What `group` matches behind `front` at the start of a text, in the first way that does not
fail. -/
def captureAt? (openingPattern listPattern : Pattern) (cs : List Char) : Option (List Char) :=
  ((openingPattern.after cs).flatMap fun start =>
    (listPattern.after start).map fun rest => start.take (start.length - rest.length)).head?

/-- What `group` matches behind `front` at the leftmost place of a text where both match. -/
def capture? (openingPattern listPattern : Pattern) : List Char → Option (List Char)
  | [] => captureAt? openingPattern listPattern []
  | c :: rest =>
    (captureAt? openingPattern listPattern (c :: rest)).or
      (capture? openingPattern listPattern rest)

theorem head?_afterMany (isIn : Char → Bool) (cs : List Char) :
    (afterMany isIn cs).head? = some (cs.dropWhile isIn) := by
  induction cs with
  | nil => rfl
  | cons c rest ih =>
      rw [afterMany, List.dropWhile_cons]
      split
      · rw [List.head?_append, ih, Option.some_or]
      · rfl

end Pattern

namespace Waiver

open Text

variable {cs line list rest : List Char}

/-- What stands in front of the list of a waiver. -/
def openingPattern : Pattern :=
  .next (.either (.text ['#']) (.text ['/', '/']))
    (.next (.many isBlank) (.next (.text marker) (.many isBlank)))

/-- One list character or more. -/
def listPattern : Pattern := .next (.one isListChar) (.many isListChar)

theorem after_sign (cs : List Char) :
    (Pattern.either (.text ['#']) (.text ['/', '/'])).after cs = (afterSign? cs).toList := by
  simp only [Pattern.after]
  unfold afterSign?
  split
  · rfl
  · rfl
  · next hash slashes =>
    have none : afterLead? ['#'] cs = none ∧ afterLead? ['/', '/'] cs = none := by
      simp only [Option.eq_none_iff_forall_ne_some]
      exact ⟨fun rest found => hash rest (eq_append_of_afterLead? found),
        fun rest found => slashes rest (eq_append_of_afterLead? found)⟩
    rw [none.1, none.2]
    rfl

/-- The marker starts with no blank, so all blanks in front of it have to be taken. -/
theorem flatMap_afterMany_marker (next : Pattern) (cs : List Char) :
    (Pattern.afterMany isBlank cs).flatMap (Pattern.next (.text marker) next).after =
      (Pattern.next (.text marker) next).after (cs.dropWhile isBlank) := by
  induction cs with
  | nil => simp [Pattern.afterMany]
  | cons c rest ih =>
      rw [Pattern.afterMany, List.dropWhile_cons]
      split
      · next blank =>
        have none : afterLead? marker (c :: rest) = none := by
          rw [Option.eq_none_iff_forall_ne_some]
          intro behind found
          cases eq_append_of_afterLead? found
          cases blank
        rw [List.flatMap_append, ih]
        simp [Pattern.after, none]
      · simp

theorem after_openingPattern (cs : List Char) :
    openingPattern.after cs = (afterMarker? cs).toList.flatMap (Pattern.afterMany isBlank) := by
  rw [openingPattern, Pattern.after, after_sign, afterMarker?]
  cases afterSign? cs with
  | none => rfl
  | some behind =>
      rw [Option.toList_some, List.flatMap_singleton, Pattern.after]
      exact flatMap_afterMany_marker (.many isBlank) behind

theorem take_sub_dropWhile (isIn : Char → Bool) (cs : List Char) :
    cs.take (cs.length - (cs.dropWhile isIn).length) = cs.takeWhile isIn := by
  have lengths := congrArg List.length (List.takeWhile_append_dropWhile (p := isIn) (l := cs))
  rw [List.length_append] at lengths
  rw [List.prefix_iff_eq_take.1 (List.takeWhile_prefix isIn)]
  congr 1
  omega

/-- The first way to match the list takes all list characters. -/
theorem head?_captured (start : List Char) :
    ((listPattern.after start).map fun rest => start.take (start.length - rest.length)).head? =
      run? start := by
  cases start with
  | nil => rfl
  | cons c rest =>
      cases inList : isListChar c with
      | false => simp [listPattern, Pattern.after, run?, inList]
      | true =>
          have first : listPattern.after (c :: rest) = Pattern.afterMany isListChar rest := by
            simp [listPattern, Pattern.after, inList]
          have left : rest.dropWhile isListChar = (c :: rest).dropWhile isListChar := by
            rw [List.dropWhile_cons_of_pos inList]
          rw [first, List.head?_map, Pattern.head?_afterMany, left, Option.map_some,
            take_sub_dropWhile, run?]
          simp [inList]

theorem names_cons {c : Char} (separates : isSeparator c = true) (list : List Char) :
    names (c :: list) = names list := by
  rw [names, pieces, ← List.singleton_append, piecesFrom_gap (by simpa using separates)]
  rfl

/-- The blanks in front of a list can go to the list or not. -/
theorem map_names_captured (cs : List Char) :
    ((Pattern.afterMany isBlank cs).flatMap fun start =>
      (listPattern.after start).map fun rest =>
        start.take (start.length - rest.length)).head?.map names = (run? cs).map names := by
  induction cs with
  | nil => rfl
  | cons c rest ih =>
      rw [Pattern.afterMany]
      split
      · next blank =>
        have inList : isListChar c = true := by simp [isListChar, blank]
        have separates : isSeparator c = true := by simp [isSeparator, blank]
        have longer : run? (c :: rest) = some (c :: rest.takeWhile isListChar) := by
          simp [run?, inList]
        rw [List.flatMap_append, List.flatMap_singleton, List.head?_append, head?_captured,
          Option.map_or, ih, longer, Option.map_some, names_cons separates, run?]
        split
        · rfl
        · rfl
      · rw [List.flatMap_singleton, head?_captured]

theorem map_names_captureAt? (cs : List Char) :
    (Pattern.captureAt? openingPattern listPattern cs).map names = (listAt? cs).map names := by
  rw [Pattern.captureAt?, after_openingPattern, listAt?_eq]
  cases afterMarker? cs with
  | none => rfl
  | some behind =>
      rw [Option.toList_some, List.flatMap_singleton, map_names_captured]
      rfl

/-- The search with backtracking finds a list with the same names. -/
theorem map_names_capture? (line : List Char) :
    (Pattern.capture? openingPattern listPattern line).map names = (findList? line).map names := by
  induction line with
  | nil => exact map_names_captureAt? []
  | cons c rest ih =>
      rw [Pattern.capture?, findList?, Option.map_or, Option.map_or, map_names_captureAt?, ih]

/-- The waiver that the pattern finds on a line. -/
def ofPattern? (number : Nat) (line : List Char) : Option Waiver :=
  ((Pattern.capture? openingPattern listPattern line).map names).bind fun rules =>
    if rules.isEmpty then none else some ⟨number, rules⟩

theorem ofPattern?_eq (number : Nat) (line : List Char) :
    ofPattern? number line = ofLine? number line := by
  rw [ofPattern?, map_names_capture?, Option.bind_map]
  rfl

/-! ## The grammar of waivers -/

/-- The waivers of a text follow a grammar.  There is one at most on each line, in the order of the
lines.  A line has one exactly if its list has a name, and the rules are the pieces of the list, in
order.  Names that a waiver lists up to the end of a line, with any commas and blanks between them,
are read back if no other list stands before them.  The pattern, searched with backtracking, finds
the same waivers. -/
theorem scan_reads_lists (source : String) :
    (scan source).Pairwise (·.line < ·.line) ∧
    (∃ lines, MadeOf source.toList lines) ∧
    ∀ lines, MadeOf source.toList lines →
      (∀ waiver, waiver ∈ scan source ↔ ∃ position line list, lines[position]? = some line ∧
        waiver.line = position + 1 ∧ ListOn line.text list ∧
        Row isSeparator list (waiver.rules.map String.toList) ∧ waiver.rules ≠ []) ∧
      (∀ position line before cs list rules, lines[position]? = some line →
        line.text = before ++ cs → Opens cs list →
        (∀ earlier later, before = earlier ++ later → later ≠ [] →
          ∀ other, ¬ ListAt (later ++ cs) other) →
        Row isSeparator list (rules.map String.toList) → rules ≠ [] →
        (∀ rule ∈ rules, ∀ c ∈ rule.toList, isNameChar c = true) →
        ⟨position + 1, rules⟩ ∈ scan source) ∧
      scan source =
        (lines.zipIdx 1).filterMap fun (line, number) => ofPattern? number line.text := by
  refine ⟨pairwise_scan source, exists_madeOf _, fun lines made => ⟨fun waiver => ?_, ?_, ?_⟩⟩
  · rw [mem_scan_iff made]
    constructor
    · rintro ⟨position, line, there, found⟩
      obtain ⟨number, full, list, stands, row⟩ := ofLine?_eq_some_iff.1 found
      exact ⟨position, line, list, there, number, stands, row, full⟩
    · rintro ⟨position, line, list, there, number, stands, row, full⟩
      exact ⟨position, line, there, ofLine?_eq_some_iff.2 ⟨number, full, list, stands, row⟩⟩
  · intro position line before cs list rules there text opens leftmost row full named
    have stands : ListOn line.text list :=
      text ▸ .intro (listAt_of_row opens row full named) leftmost
    exact (mem_scan_iff made).2
      ⟨position, line, there, ofLine?_eq_some_iff.2 ⟨rfl, full, list, stands, row⟩⟩
  · rw [scan, splitLines_of_madeOf made, List.zipIdx_map, List.filterMap_map]
    simp only [ofPattern?_eq]
    rfl

/-- Three lines that open a waiver: two names among commas and blanks in front of a carriage return,
no name at all, and a name that ends at a dash. -/
def mixed : String :=
  "a = 1 // tfsift-ignore: x,, y_2 \r\n# tfsift-ignore: ,\n#\ttfsift-ignore:z-1"

/-- The first and the last one have a list with names. -/
theorem scan_reads_lists_mixed :
    scan mixed = [⟨1, ["x", "y_2"]⟩, ⟨3, ["z"]⟩] ∧
    ∃ lines line list, MadeOf mixed.toList lines ∧ lines[2]? = some line ∧
      ListOn line.text list ∧ Row isSeparator list ["z".toList] := by
  have waivers : scan mixed = [⟨1, ["x", "y_2"]⟩, ⟨3, ["z"]⟩] := by decide +kernel
  obtain ⟨-, ⟨lines, made⟩, reads⟩ := scan_reads_lists mixed
  have last : ⟨3, ["z"]⟩ ∈ scan mixed := by simp [waivers]
  obtain ⟨position, line, list, there, number, stands, row, -⟩ := ((reads lines made).1 _).1 last
  cases number
  exact ⟨waivers, lines, line, list, made, there, stands, row⟩

end Waiver

end InfraLint
