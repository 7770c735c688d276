import InfraLint.Proofs.Citations
import InfraLint.Proofs.PlainTemplates
import InfraLint.Proofs.Spelling
import InfraLint.Proofs.WaiverLists

/-!
# Where waivers stand

Waivers are found line by line, without regard to what a line is part of.  In a text that is a row of
lexemes they can nevertheless not stand anywhere: code holds no comment sign (`Lexeme.Precedes`), so a
waiver starts in a comment or in the text of a template (`Waiver.exists_standsIn`).  In a text it stands
as a whole, since a text ends in front of a mark or at the end of a line (`Reader.EndsText`) and a
waiver is made of plain characters on one line.

So a file without comments has no waiver as long as none is written in its strings and heredocs
(`ConfigFile.waivers_stand_in_lexemes`).  One that is written there counts like any other
(`ConfigFile.not_forall_waivers_nil_of_no_comment`).
-/

namespace InfraLint

/-! ## Where a text ends -/

namespace Reader

open Lexeme

variable {α β : Type} {c d : Cursor}

/-- Whatever the reader reads, it leaves less of the text. -/
class Advances (p : Reader α) : Prop where
  lt {c d : Cursor} {a : α} : p c = some (a, d) → d.rest.length < c.rest.length

theorem Forward.length_le {p : Reader α} [Forward p] {a : α} (ran : p c = some (a, d)) :
    d.rest.length ≤ c.rest.length := by
  obtain ⟨read, text, -⟩ := Forward.reaches ran
  rw [text, List.length_append]
  omega

instance advances_satisfy (p : Char → Bool) : Advances (satisfy p) where
  lt ran := by
    rw [(satisfy_eq_some ran).1]
    simp

theorem advances_exactly {text : String} (some : text ≠ "") : Advances (exactly text) where
  lt ran := by
    have longer : text.toList ≠ [] := by simpa using some
    have := List.length_pos_iff.2 longer
    rw [exactly_eq_some ran, List.length_append]
    omega

instance advances_bind {p : Reader α} {f : α → Reader β} [first : Advances p]
    [∀ a, Forward (f a)] : Advances (p >>= f) where
  lt ran := by
    obtain ⟨a, m, ran, next⟩ := bind_eq_some_iff.1 ran
    exact (Forward.length_le next).trans_lt (first.lt ran)

instance advances_bind_last {p : Reader α} {f : α → Reader β} [Forward p]
    [second : ∀ a, Advances (f a)] : Advances (p >>= f) where
  lt ran := by
    obtain ⟨a, m, ran, next⟩ := bind_eq_some_iff.1 ran
    exact ((second a).lt next).trans_le (Forward.length_le ran)

instance advances_orElse {p q : Reader α} [first : Advances p] [second : Advances q] :
    Advances (p <|> q) where
  lt ran := by
    rcases orElse_eq_some ran with ran | ran
    · exact first.lt ran
    · exact second.lt ran

instance advances_ite {test : Prop} [Decidable test] {p q : Reader α} [first : Advances p]
    [second : Advances q] : Advances (if test then p else q) := by
  split
  · exact first
  · exact second

instance advances_escapedOpening : Advances escapedOpening := by
  have := advances_exactly (by decide : "$$\x7b" ≠ "")
  have := advances_exactly (by decide : "%%\x7b" ≠ "")
  unfold escapedOpening
  simp only [seqRight_eq_bind]
  infer_instance

instance advances_escapedChar : Advances escapedChar := by
  have := advances_exactly (by decide : "\\" ≠ "")
  unfold escapedChar
  refine @advances_bind _ _ _ _ this fun _ => .bind inferInstance fun c => ?_
  split <;> infer_instance

instance advances_char (script : Script) : Advances script.char := by
  unfold Script.char
  split
  · unfold quotedChar
    infer_instance
  · unfold heredocChar
    infer_instance
  · unfold plainChar
    infer_instance

/-- A repetition stops where its reader fails. -/
theorem eq_none_of_manyUpTo {p : Reader α} [inner : Advances p] {fuel : Nat} {found : List α}
    (enough : c.rest.length ≤ fuel) (ran : manyUpTo p fuel c = some (found, d)) : p d = none := by
  induction fuel generalizing c found with
  | zero =>
      cases ran
      refine Option.eq_none_iff_forall_ne_some.2 fun read ran => ?_
      have := inner.lt ran
      omega
  | succ fuel ih =>
      unfold manyUpTo at ran
      split at ran
      · next none =>
        cases ran
        exact none
      · next a m first =>
          have := inner.lt first
          split at ran
          · next others =>
              cases ran
              exact ih (by omega) others
          · cases ran

/-- The text of a template ends in front of a mark, at the end of a line or at the end of
everything. -/
def EndsText (rest : List Char) : Prop :=
  (∃ c ∈ rest.head?, PlainText.isPlain c = false) ∨ lineCommentEnd rest = true

theorem lineCommentEnd_of_lineEnd (ran : lineEnd c = some ((), d)) :
    lineCommentEnd c.rest = true := by
  rcases orElse_eq_some ran with ran | ran
  · rw [exactly_eq_some ran]
    rfl
  · rw [exactly_eq_some ran]
    rfl

theorem reads_heredocChar {x : Char} {rest : List Char} {delimiter : String}
    (unsigned : IsUnsigned (x :: rest)) (inLine : lineEnd.Fails (x :: rest)) :
    (heredocChar delimiter).Reads [x] rest [x] := by
  have goes : (lineEnd *> heredocEnd delimiter).Fails (x :: rest) := by
    rw [seqRight_eq_bind]
    exact inLine.bind
  refine Fails.orElse (fails_escapedOpening unsigned) ((reads_notOpening unsigned).bind_nil ?_)
  refine goes.attempt.bind_nil ?_
  rw [Option.isSome_none, if_neg Bool.false_ne_true]
  exact Reads.bind_pure (reads_satisfy rfl rest)

/-- A plain character is read as such, unless a heredoc ends in front of it. -/
theorem endsText_of_char (script : Script) (none : script.char d = none) : EndsText d.rest := by
  obtain ⟨rest, offset⟩ := d
  cases rest with
  | nil => exact .inr rfl
  | cons x rest =>
      by_cases plain : PlainText.isPlain x = true
      · by_contra goes
        obtain ⟨next, ran⟩ : ∃ next, script.char ⟨x :: rest, offset⟩ = some ([x], ⟨rest, next⟩) := by
          cases script with
          | quoted => exact (readsText_quotedChar []).plain plain rest offset
          | plain => exact readsText_plainChar.plain plain rest offset
          | heredoc delimiter =>
              refine reads_heredocChar (isUnsigned_of_isPlain plain rest) (fun start => ?_) offset
              refine Option.eq_none_iff_forall_ne_some.2 fun read ran => ?_
              have ends := lineCommentEnd_of_lineEnd ran
              exact goes (.inr ends)
        cases none.symm.trans ran
      · exact .inl ⟨x, rfl, Bool.eq_false_iff.2 plain⟩

theorem endsText_of_textOf {script : Script} {content : List Char}
    (ran : textOf script.char c = some (content, d)) : EndsText d.rest := by
  obtain ⟨parts, m, read, ran⟩ := bind_eq_some_iff.1 ran
  have ends := endsText_of_char script (eq_none_of_manyUpTo le_rfl read)
  split at ran
  · cases ran
  · cases ran
    exact ends

end Reader

/-! ## What stands in front of what -/

namespace Lexeme

open Reader

/-- What can follow a lexeme: no comment opens with a character of the code, and a text goes on as
far as it can. -/
def Precedes : Lexeme → List Char → Prop
  | code x, rest => Waiver.afterSign? (x :: rest) = none
  | comment _, _ => True
  | literal _, rest => EndsText rest

/-- Each lexeme of a row precedes what follows it. -/
def Fits : List Lexeme → List Char → Prop
  | [], _ => True
  | lexeme :: row, rest => lexeme.Precedes (row.flatMap text ++ rest) ∧ Fits row rest

theorem fits_append {row row' : List Lexeme} {rest : List Char} :
    Fits (row ++ row') rest ↔ Fits row (row'.flatMap text ++ rest) ∧ Fits row' rest := by
  induction row with
  | nil => simp [Fits]
  | cons lexeme row ih => simp [Fits, ih, and_assoc]

theorem afterSign?_eq_none {x : Char} {rest : List Char} (free : opensComment (x :: rest) = false) :
    Waiver.afterSign? (x :: rest) = none := by
  unfold Waiver.afterSign?
  split
  · next text =>
    cases text
    cases free
  · next text =>
    cases text
    cases free
  · rfl

/-- Whether no comment sign holds the character. -/
def isSignFree (c : Char) : Bool := c != '#' && c != '/'

/-- Marks hold no comment sign. -/
theorem fits_codes {marks : List Char} (free : marks.all isSignFree = true) (rest : List Char) :
    Fits (codes marks) rest := by
  induction marks with
  | nil => trivial
  | cons x marks ih =>
      rw [List.all_cons, Bool.and_eq_true] at free
      obtain ⟨first, others⟩ := free
      refine ⟨?_, ih others⟩
      show Waiver.afterSign? (x :: _) = none
      unfold Waiver.afterSign?
      split
      · next text =>
        obtain rfl := (List.cons.inj text).1
        cases first
      · next text =>
        obtain rfl := (List.cons.inj text).1
        cases first
      · rfl

theorem Encloses.free {mode inner : Mode} {opening closing : String}
    (marks : Encloses mode opening inner closing) :
    opening.toList.all isSignFree = true ∧ closing.toList.all isSignFree = true := by
  cases marks <;> decide

end Lexeme

namespace Lexed

open Lexeme

variable {mode : Mode} {c d : Cursor} {row : List Lexeme}

/-- In a row that a text is taken apart into, each lexeme precedes what follows it. -/
theorem fits (lexed : Lexed mode c row d) : Fits row d.rest := by
  induction lexed with
  | done => trivial
  | append _ _ second ih ih' =>
      rw [fits_append, ← second.rest_eq]
      exact ⟨ih, ih'⟩
  | code ran free =>
      rw [(Reader.satisfy_eq_some ran).1] at free
      exact ⟨afterSign?_eq_none free, trivial⟩
  | comment => exact ⟨trivial, trivial⟩
  | literal ran => exact ⟨Reader.endsText_of_textOf ran, trivial⟩
  | enclosed marks _ _ closed ih =>
      rw [fits_append, fits_append, flatMap_codes, ← Reader.exactly_eq_some closed]
      exact ⟨⟨fits_codes marks.free.1 _, ih⟩, fits_codes marks.free.2 _⟩
  | heredoc _ _ _ text _ last ih ih' ih'' =>
      rw [fits_append, fits_append, fits_append, ← last.rest_eq, ← text.rest_eq]
      exact ⟨⟨⟨fits_codes (by decide) _, ih⟩, ih'⟩, ih''⟩
  | tag _ _ _ closed ih =>
      rw [fits_append, fits_append, flatMap_codes, ← Reader.exactly_eq_some closed]
      exact ⟨⟨fits_codes (by decide) _, ih⟩, fits_codes (by decide) _⟩
  | directive _ inside last ih ih' ih'' =>
      rw [fits_append, fits_append, ← last.rest_eq, ← inside.rest_eq]
      exact ⟨⟨ih, ih'⟩, ih''⟩
  | branch _ ih => exact ih

end Lexed

/-- Every place in a text that is a row of lexemes lies in one of them. -/
theorem Lexeme.exists_of_flatMap_eq {row : List Lexeme} {before after : List Char}
    (whole : row.flatMap text = before ++ after) (some : after ≠ []) :
    ∃ earlier lexeme later first last, row = earlier ++ lexeme :: later ∧
      lexeme.text = first ++ last ∧ last ≠ [] ∧ before = earlier.flatMap text ++ first ∧
      after = last ++ later.flatMap text := by
  induction row generalizing before with
  | nil => exact absurd (List.append_eq_nil_iff.1 whole.symm).2 some
  | cons lexeme row ih =>
      have further (front : List Char) (rest : row.flatMap text = front ++ after)
          (passed : before = lexeme.text ++ front) :
          ∃ earlier found later first last, lexeme :: row = earlier ++ found :: later ∧
            found.text = first ++ last ∧ last ≠ [] ∧ before = earlier.flatMap text ++ first ∧
            after = last ++ later.flatMap text := by
        obtain ⟨earlier, found, later, first, last, rfl, parts, full, front, tail⟩ := ih rest
        refine ⟨lexeme :: earlier, found, later, first, last, rfl, parts, full, ?_, tail⟩
        rw [passed, front, List.flatMap_cons, List.append_assoc]
      rw [List.flatMap_cons] at whole
      rcases List.append_eq_append_iff.1 whole with ⟨front, passed, rest⟩ | ⟨last, parts, tail⟩
      · exact further front rest passed
      · by_cases empty : last = []
        · subst empty
          rw [List.append_nil] at parts
          exact further [] tail.symm (by rw [List.append_nil, parts])
        · exact ⟨[], lexeme, row, before, last, rfl, parts, empty, rfl, tail⟩

/-! ## Waivers on their lines -/

/-- A line of a text stands behind as many line feeds as there are lines before it. -/
theorem Text.MadeOf.exists_eq_append {cs : List Char} {lines : List Line} (made : MadeOf cs lines)
    {position : Nat} {line : Line} (there : lines[position]? = some line) :
    ∃ before after, cs = before ++ (line.text ++ after) ∧ before.count '\n' = position ∧
      '\n' ∉ line.text ∧ (after.head? = some '\n' → line.text.getLast? ≠ some '\r') := by
  induction made generalizing position with
  | nil => cases there
  | last clear full =>
      cases position with
      | zero =>
          cases there
          exact ⟨[], [], by simp, rfl, clear, by simp⟩
      | succ position => cases there
  | @feed text rest lines clear noReturn _ ih =>
      cases position with
      | zero =>
          cases there
          exact ⟨[], '\n' :: rest, rfl, rfl, clear, fun _ => noReturn⟩
      | succ position =>
          obtain ⟨before, after, rfl, count, facts⟩ := ih there
          refine ⟨text ++ '\n' :: before, after, by simp, ?_, facts⟩
          simp [count, List.count_eq_zero_of_not_mem clear]
  | @returnFeed text rest lines clear _ ih =>
      cases position with
      | zero =>
          cases there
          exact ⟨[], '\r' :: '\n' :: rest, rfl, rfl, clear, by simp⟩
      | succ position =>
          obtain ⟨before, after, rfl, count, facts⟩ := ih there
          refine ⟨text ++ '\r' :: '\n' :: before, after, by simp, ?_, facts⟩
          simp [count, List.count_eq_zero_of_not_mem clear]

namespace Waiver

open Text Lexeme

/-- A test that no mark passes. -/
theorem isPlain_of_test (test : Char → Bool) (free : ['"', '\\', '$', '%'].any test = false)
    {c : Char} (passes : test c = true) : PlainText.isPlain c = true := by
  rw [List.any_eq_false] at free
  simp only [PlainText.isPlain, Bool.and_eq_true, bne_iff_ne]
  refine ⟨⟨⟨?_, ?_⟩, ?_⟩, ?_⟩ <;> (rintro rfl; exact free _ (by decide) passes)

/-- A list and what opens it are plain characters, whatever follows. -/
theorem ListAt.exists_front {cs list : List Char} (stands : ListAt cs list) :
    ∃ front rest, cs = front ++ rest ∧ ListAt front list ∧
      ∀ c ∈ front, PlainText.isPlain c = true := by
  obtain ⟨opens, full, listed, -⟩ := stands
  rename_i rest
  cases opens with
  | @intro sign blanks _ signed blank =>
      refine ⟨sign ++ blanks ++ marker ++ (list ++ []), rest, by simp,
        .intro (.intro signed blank) full listed (by simp), fun c member => ?_⟩
      have plainSign : sign.all PlainText.isPlain = true := by
        rcases signed with rfl | rfl <;> rfl
      have plainMarker : marker.all PlainText.isPlain = true := by decide
      simp only [List.append_nil, List.mem_append] at member
      rcases member with ((member | member) | member) | member
      · exact List.all_eq_true.1 plainSign c member
      · exact isPlain_of_test isBlank (by decide) (blank c member)
      · exact List.all_eq_true.1 plainMarker c member
      · exact isPlain_of_test isListChar (by decide) (listed c member)

theorem ListAt.isSome_afterSign? {cs list : List Char} (stands : ListAt cs list)
    (more : List Char) : (afterSign? (cs ++ more)).isSome = true := by
  obtain ⟨opens, -, -, -⟩ := stands
  cases opens with
  | intro signed _ => rcases signed with rfl | rfl <;> rfl

theorem lineCommentEnd_cons {x : Char} {rest : List Char}
    (line : Reader.lineCommentEnd (x :: rest) = true) :
    x = '\n' ∨ x = '\r' ∧ rest.head? = some '\n' := by
  unfold Reader.lineCommentEnd at line
  split at line
  · next text => cases text
  · next text =>
    cases text
    exact .inl rfl
  · next text =>
    cases text
    exact .inr ⟨rfl, rfl⟩
  · cases line

/-- A text that ends with its template holds all of a list that starts in it: the list and what opens
it are plain, and on one line. -/
theorem eq_append_of_endsText {front rest text more : List Char}
    (same : front ++ rest = text ++ more) (ends : Reader.EndsText more)
    (plain : ∀ c ∈ front, PlainText.isPlain c = true) (clear : '\n' ∉ front)
    (noReturn : rest.head? = some '\n' → front.getLast? ≠ some '\r') :
    ∃ others, text = front ++ others := by
  rcases List.append_eq_append_iff.1 same with ⟨others, longer, -⟩ | ⟨cut, longer, behind⟩
  · exact ⟨others, longer⟩
  · cases cut with
    | nil => exact ⟨[], by rw [longer]; simp⟩
    | cons x cut =>
        exfalso
        rw [behind, List.cons_append] at ends
        rcases ends with ⟨mark, ⟨⟩, special⟩ | line
        · rw [plain x (by simp [longer])] at special
          cases special
        · rcases lineCommentEnd_cons line with rfl | ⟨rfl, feed⟩
          · exact clear (by simp [longer])
          · cases cut with
            | nil => exact noReturn feed (by simp [longer])
            | cons y cut =>
                cases feed
                exact clear (by simp [longer])

/-- A waiver is written at the start of a stretch of a line: a list with its rules stands there. -/
def IsWritten (waiver : Waiver) (stretch : List Char) : Prop :=
  '\n' ∉ stretch ∧ waiver.rules ≠ [] ∧
    ∃ list, ListAt stretch list ∧ Row isSeparator list (waiver.rules.map String.toList)

/-- Some waiver is written in a text. -/
def Holds (text : List Char) : Prop :=
  ∃ before stretch after, text = before ++ stretch ++ after ∧ ∃ waiver, IsWritten waiver stretch

/-- A waiver stands in a lexeme of a row.  In a text it stands as a whole; of a comment it is said
that it starts there. -/
inductive StandsIn (row : List Lexeme) (waiver : Waiver) : Lexeme → Prop where
  | comment {earlier later : List Lexeme} {first last stretch more : List Char} :
      row = earlier ++ .comment (first ++ last) :: later → last ≠ [] →
      last ++ later.flatMap text = stretch ++ more → waiver.IsWritten stretch →
      waiver.line = (earlier.flatMap text ++ first).count '\n' + 1 →
      StandsIn row waiver (.comment (first ++ last))
  | literal {earlier later : List Lexeme} {first stretch more : List Char} :
      row = earlier ++ .literal (first ++ stretch ++ more) :: later → waiver.IsWritten stretch →
      waiver.line = (earlier.flatMap text ++ first).count '\n' + 1 →
      StandsIn row waiver (.literal (first ++ stretch ++ more))

theorem StandsIn.mem {row : List Lexeme} {waiver : Waiver} {lexeme : Lexeme}
    (stands : waiver.StandsIn row lexeme) : lexeme ∈ row := by
  cases stands with
  | comment row_eq => simp [row_eq]
  | literal row_eq => simp [row_eq]

/-- Every waiver of a text stands in a comment or in a literal. -/
theorem exists_standsIn {source : String} {row : List Lexeme} (made : IsRowOf source row)
    {waiver : Waiver} (member : waiver ∈ scan source) : ∃ lexeme, waiver.StandsIn row lexeme := by
  obtain ⟨stop, lexed, ended⟩ := made
  have fits := lexed.fits
  have whole : source.toList = row.flatMap text := by
    have read := lexed.rest_eq
    rwa [ended, List.append_nil] at read
  obtain ⟨lines, cut⟩ := exists_madeOf source.toList
  obtain ⟨position, line, there, found⟩ := (mem_scan_iff cut).1 member
  obtain ⟨number, full, list, listed, rules⟩ := ofLine?_eq_some_iff.1 found
  obtain ⟨before, after, placed, count, clear, noReturn⟩ := cut.exists_eq_append there
  rw [whole] at placed
  generalize line.text = chars at listed placed clear noReturn
  cases listed with
  | @intro lead cs _ stands _ =>
      obtain ⟨front, rest, rfl, fronted, plain⟩ := stands.exists_front
      have some : front ≠ [] := by
        rintro rfl
        cases fronted.isSome_afterSign? []
      simp only [List.mem_append, not_or] at clear
      obtain ⟨clear, clear', clear''⟩ := clear
      have placed' : row.flatMap text = before ++ lead ++ (front ++ (rest ++ after)) := by
        rw [placed]
        simp
      obtain ⟨earlier, lexeme, later, first, last, rfl, parts, some', reached, tail⟩ :=
        exists_of_flatMap_eq placed' (by simp [some])
      have written : waiver.IsWritten front := ⟨clear', full, list, fronted, rules⟩
      have lineNumber : waiver.line = (earlier.flatMap text ++ first).count '\n' + 1 := by
        rw [number, ← reached, List.count_append, count, List.count_eq_zero_of_not_mem clear,
          Nat.add_zero]
      obtain ⟨-, behind, -⟩ := fits_append.1 fits
      rw [ended, List.append_nil] at behind
      cases lexeme with
      | code x =>
          -- a character of the code is no comment sign
          obtain rfl : last = [x] := by
            rcases List.singleton_eq_append_iff.1 parts with ⟨-, only⟩ | ⟨-, none⟩
            · exact only
            · exact absurd none some'
          have sign := fronted.isSome_afterSign? (rest ++ after)
          rw [tail, List.singleton_append, behind] at sign
          cases sign
      | comment chars =>
          cases parts
          exact ⟨_, .comment rfl some' tail.symm written lineNumber⟩
      | literal chars =>
          obtain ⟨others, rfl⟩ := eq_append_of_endsText tail behind plain clear' fun feed => by
            cases rest with
            | nil =>
                rw [← List.getLast?_append_of_ne_nil lead some, ← List.append_nil front]
                exact noReturn feed
            | cons y rest =>
                cases feed
                exact absurd List.mem_cons_self clear''
          rw [← List.append_assoc] at parts
          cases parts
          exact ⟨_, .literal rfl written lineNumber⟩

end Waiver

/-! ## Texts in quotes -/

/-- A file with one attribute, whose value is a text in quotes. -/
def quoting (text : List Char) : String :=
  String.ofList ("a = ".toList ++ ("\"".toList ++ (text ++ "\"\n".toList)))

theorem toList_quoting (text : List Char) :
    (quoting text).toList = "a = ".toList ++ ("\"".toList ++ (text ++ "\"\n".toList)) :=
  String.toList_ofList

/-- The lexemes of that file. -/
def Lexeme.quotingRow (text : List Char) : List Lexeme :=
  codes "a = ".toList ++
    (codes "\"".toList ++ [.literal text] ++ codes "\"".toList ++ codes "\n".toList)

/-- Without marks in it the text is the one literal of the file. -/
theorem Lexeme.isRowOf_quoting (text : PlainText) (some : text.chars ≠ []) :
    IsRowOf (quoting text.chars) (quotingRow text.chars) := by
  have bland (chars : List Char) (all : chars.all isBland = true) (rest : List Char) (offset : Nat) :
      Lexed .code ⟨chars ++ rest, offset⟩ (codes chars)
        ⟨rest, offset + Cursor.byteLength chars⟩ :=
    .codes ⟨chars, rfl, rfl⟩ rfl (List.all_eq_true.1 all)
  obtain ⟨start, opened⟩ := Reader.reads_exactly "\"" (text.chars ++ "\"\n".toList) 4
  obtain ⟨stop, read⟩ := (Reader.readsText_quotedChar ['\n']).textOf
    (Reader.readsText_quotedChar ['\n']).stops text some start
  obtain ⟨next, closed⟩ := Reader.reads_exactly "\"" ['\n'] stop
  have quoted := Lexed.enclosed .quotes opened (.literal read rfl) closed
  have ended := bland ['\n'] (by decide) [] next
  refine ⟨_, .append inferInstance ?_ (.append inferInstance quoted ended), rfl⟩
  rw [Cursor.start, toList_quoting]
  exact bland "a = ".toList (by decide) _ 0

theorem Lexeme.mem_quotingRow {text : List Char} {lexeme : Lexeme}
    (member : lexeme ∈ quotingRow text) : lexeme = .literal text ∨ ∃ c, lexeme = .code c := by
  simp only [quotingRow, codes, List.mem_append, List.mem_map, List.mem_singleton] at member
  rcases member with ⟨c, -, rfl⟩ | ((⟨c, -, rfl⟩ | rfl) | ⟨c, -, rfl⟩) | ⟨c, -, rfl⟩
  all_goals simp

/-- A waiver is longer than its marker. -/
theorem Waiver.Holds.length_lt {text : List Char} (holds : Holds text) :
    marker.length < text.length := by
  obtain ⟨before, stretch, after, rfl, waiver, -, -, list, stands, -⟩ := holds
  obtain ⟨opens, -, -, -⟩ := stands
  cases opens with
  | intro signed _ => rcases signed with rfl | rfl <;> simp <;> omega

/-- The waivers of a file stand in its comments and in its strings and heredocs.  If none of these
texts holds a waiver, only comments do: then every waiver starts in a comment, and a file
without comments has no waiver and waives no rule anywhere. -/
theorem ConfigFile.waivers_stand_in_lexemes {path source : String} {file : ConfigFile}
    (parsed : parse? path source = some file) :
    (∃ row, Lexeme.IsRowOf source row) ∧ ∀ row, Lexeme.IsRowOf source row →
      (∀ waiver ∈ file.waivers, ∃ lexeme, waiver.StandsIn row lexeme) ∧
      ((∀ text, .literal text ∈ row → ¬ Waiver.Holds text) →
        (∀ waiver ∈ file.waivers, ∃ text, waiver.StandsIn row (.comment text)) ∧
        ((∀ text, .comment text ∉ row) →
          file.waivers = [] ∧ ∀ rule line, file.isWaived rule line = false)) := by
  refine ⟨exists_isRowOf_of_parse? parsed, fun row made => ?_⟩
  have places : ∀ waiver ∈ file.waivers, ∃ lexeme, waiver.StandsIn row lexeme := by
    rw [waivers_of_parse? parsed]
    exact fun waiver => Waiver.exists_standsIn made
  refine ⟨places, fun free => ?_⟩
  have comments : ∀ waiver ∈ file.waivers, ∃ text, waiver.StandsIn row (.comment text) := by
    intro waiver member
    obtain ⟨lexeme, stands⟩ := places waiver member
    have inRow := stands.mem
    cases stands with
    | comment row_eq full tail written number => exact ⟨_, .comment row_eq full tail written number⟩
    | literal _ written _ => exact absurd ⟨_, _, _, rfl, waiver, written⟩ (free _ inRow)
  refine ⟨comments, fun none => ?_⟩
  have empty : file.waivers = [] := by
    refine List.eq_nil_iff_forall_not_mem.2 fun waiver member => ?_
    obtain ⟨text, stands⟩ := comments waiver member
    exact none text stands.mem
  refine ⟨empty, fun rule line => ?_⟩
  rw [isWaived, empty, List.any_nil]

/-- The text of a string, a hash apart. -/
def hashed : PlainText := ⟨"# x".toList, List.all_eq_true.1 (by decide)⟩

/-- A comment sign in a string makes no waiver. -/
theorem ConfigFile.waivers_stand_in_lexemes_hashed :
    ∃ file, parse? "main.tf" (quoting hashed.chars) = some file ∧ file.waivers = [] ∧
      ∀ rule line, file.isWaived rule line = false := by
  obtain ⟨file, parsed⟩ : ∃ file, parse? "main.tf" (quoting hashed.chars) = some file :=
    Option.isSome_iff_exists.1 (by decide +kernel)
  have row := Lexeme.isRowOf_quoting hashed (by decide)
  obtain ⟨-, free⟩ := (waivers_stand_in_lexemes parsed).2 _ row
  refine ⟨file, parsed, (free fun text member holds => ?_).2 fun text member => ?_⟩
  · rcases Lexeme.mem_quotingRow member with ⟨⟨⟩⟩ | ⟨c, ⟨⟩⟩
    exact absurd holds.length_lt (by decide)
  · rcases Lexeme.mem_quotingRow member with ⟨⟨⟩⟩ | ⟨c, ⟨⟩⟩

/-- The text of a string that is written like a waiver. -/
def disguised : PlainText := ⟨"# tfsift-ignore: all".toList, List.all_eq_true.1 (by decide)⟩

/-- A file without comments can have a waiver all the same. -/
theorem ConfigFile.not_forall_waivers_nil_of_no_comment :
    ¬ ∀ (path source : String) (file : ConfigFile), parse? path source = some file →
      (∃ row, Lexeme.IsRowOf source row ∧ ∀ text, .comment text ∉ row) →
      file.waivers = [] ∧ ∀ rule line, file.isWaived rule line = false := by
  intro always
  obtain ⟨file, parsed⟩ : ∃ file, parse? "main.tf" (quoting disguised.chars) = some file :=
    Option.isSome_iff_exists.1 (by decide +kernel)
  have none := always _ _ file parsed
    ⟨_, Lexeme.isRowOf_quoting disguised (by decide), fun text member => by
      rcases Lexeme.mem_quotingRow member with ⟨⟨⟩⟩ | ⟨c, ⟨⟩⟩⟩
  have found : Waiver.scan (quoting disguised.chars) = [⟨1, ["all"]⟩] := by decide +kernel
  rw [waivers_of_parse? parsed, found] at none
  cases none.1

end InfraLint
