import InfraLint.Proofs.KnownText

/-!
# What a source text is made of

A source text is a row of lexemes: comments, the texts of strings and heredocs, and the characters of
the code around them.  `Lexed` says how a text is taken apart.  It knows two kinds of text.  In code a
comment sign opens a comment, a quote opens a string and `<<` with a word opens a heredoc; in the text
of a template nothing is special but what interpolates code or opens a directive.  Braces are matched,
so the code of an interpolation ends where the template goes on.

What opens a lexeme is a matter of a few special characters.  A text without them is code
(`Lexed.codes`).
-/

namespace InfraLint

/-- A smallest part of a source text. -/
inductive Lexeme where
  | code (c : Char)
  | comment (text : List Char)
  | literal (text : List Char)

namespace Lexeme

/-- The text of a lexeme. -/
def text : Lexeme → List Char
  | code c => [c]
  | comment text => text
  | literal text => text

/-- A text as code. -/
def codes (text : List Char) : List Lexeme := text.map code

@[simp] theorem flatMap_codes (text : List Char) : (codes text).flatMap Lexeme.text = text := by
  rw [codes, List.flatMap_map]
  exact List.flatMap_singleton' text

/-! ## Taking a text apart -/

/-- The ways to write the text of a template. -/
inductive Script where
  | quoted
  | heredoc (delimiter : String)
  /-- Inside a directive. -/
  | plain

/-- The reader for the characters of such a text. -/
def Script.char : Script → Reader (List Char)
  | quoted => Reader.quotedChar
  | heredoc delimiter => Reader.heredocChar delimiter
  | plain => Reader.plainChar

/-- What a stretch of text is taken for: code, the text of a template, or a directive with one of
these words. -/
inductive Mode where
  | code
  | text (script : Script)
  | tag (words : List String)

/-- Code and text can be of any length. -/
class Mode.Repeats (mode : Mode) : Prop where
  ne_tag : ∀ words, mode ≠ .tag words

instance : Mode.code.Repeats := ⟨by simp⟩

instance (script : Script) : (Mode.text script).Repeats := ⟨by simp⟩

/-- Whether a comment opens at the start of a text. -/
def opensComment : List Char → Bool
  | '#' :: _ => true
  | '/' :: '/' :: _ => true
  | '/' :: '*' :: _ => true
  | _ => false

/-- Whether a character is neither a quote nor a brace. -/
def isPlainCode (c : Char) : Bool := c != '"' && c != '\x7b' && c != '\x7d'

/-- Reads what is left of the opening line of a heredoc behind its sign, and gives the delimiter. -/
def heredocName : Reader String := do
  let _ ← Reader.accept "-"
  let delimiter ← Reader.identifier
  Reader.lineEnd
  return delimiter

/-- Reads the opening line of a heredoc. -/
def heredocOpening : Reader String := do
  Reader.exactly "<<"
  heredocName

/-- One of these words stands at the start of a directive. -/
def WordAhead (words : List String) (c : Cursor) : Prop :=
  ∃ word ∈ words, ∃ d,
    (do
      let _ ← Reader.accept "~"
      Reader.anyBlanks
      Reader.exactly word : Reader Unit) c = some ((), d)

/-- What stands between an opening and a closing mark. -/
inductive Encloses : Mode → String → Mode → String → Prop where
  | braces : Encloses .code "\x7b" .code "\x7d"
  | quotes : Encloses .code "\"" (.text .quoted) "\""
  | interpolation {script : Script} : Encloses (.text script) "$\x7b" .code "\x7d"

end Lexeme

open Lexeme in
/-- The text between two places is a row of lexemes. -/
inductive Lexed : Mode → Cursor → List Lexeme → Cursor → Prop where
  | done {mode : Mode} {c : Cursor} : mode.Repeats → Lexed mode c [] c
  | append {mode : Mode} {c m d : Cursor} {row row' : List Lexeme} : mode.Repeats →
      Lexed mode c row m → Lexed mode m row' d → Lexed mode c (row ++ row') d
  | code {c d : Cursor} {x : Char} : Reader.satisfy isPlainCode c = some (x, d) →
      opensComment c.rest = false → heredocOpening c = none → Lexed .code c [.code x] d
  | comment {c d : Cursor} {text : List Char} :
      Reader.lineComment c = some ((), d) ∨ Reader.blockComment c = some ((), d) →
      c.rest = text ++ d.rest → Lexed .code c [.comment text] d
  | literal {script : Script} {c d : Cursor} {text content : List Char} :
      Reader.textOf script.char c = some (content, d) →
      c.rest = text ++ d.rest → Lexed (.text script) c [.literal text] d
  | enclosed {mode inner : Mode} {opening closing : String} {c m m' d : Cursor}
      {row : List Lexeme} : Encloses mode opening inner closing →
      Reader.exactly opening c = some ((), m) → Lexed inner m row m' →
      Reader.exactly closing m' = some ((), d) →
      Lexed mode c (codes opening.toList ++ row ++ codes closing.toList) d
  | heredoc {c b m m' d : Cursor} {delimiter : String} {first row last : List Lexeme} :
      Reader.exactly "<<" c = some ((), b) → heredocName b = some (delimiter, m) →
      Lexed .code b first m → Lexed (.text (.heredoc delimiter)) m row m' →
      -- a heredoc without text can be closed right behind its opening line
      (Reader.lineEnd >>= fun _ => Reader.heredocEnd delimiter) m' = some ((), d) ∨
        m' = m ∧ Reader.heredocEnd delimiter m = some ((), d) →
      Lexed .code m' last d → Lexed .code c (codes "<<".toList ++ first ++ row ++ last) d
  | tag {words : List String} {c m m' d : Cursor} {row : List Lexeme} :
      Reader.exactly "%\x7b" c = some ((), m) → WordAhead words m → Lexed .code m row m' →
      Reader.exactly "\x7d" m' = some ((), d) →
      Lexed (.tag words) c (codes "%\x7b".toList ++ row ++ codes "\x7d".toList) d
  | directive {script : Script} {c m m' d : Cursor} {first row last : List Lexeme} :
      Lexed (.tag ["if", "for"]) c first m → Lexed (.text .plain) m row m' →
      Lexed (.tag ["endif", "endfor"]) m' last d →
      Lexed (.text script) c (first ++ row ++ last) d
  | branch {c d : Cursor} {row : List Lexeme} :
      Lexed (.tag ["else"]) c row d → Lexed (.text .plain) c row d

/-- A source text as a whole is a row of lexemes. -/
def Lexeme.IsRowOf (source : String) (row : List Lexeme) : Prop :=
  ∃ stop, Lexed .code (Cursor.start source) row stop ∧ stop.rest = []

/-! ## Characters that mean nothing special -/

/-- The characters that open or close something in code. -/
def Lexeme.special : List Char := ['"', '\x7b', '\x7d', '#', '/', '<']

/-- Whether a character, read as code, is code whatever follows it. -/
def Lexeme.isBland (c : Char) : Bool := !special.contains c

/-- A fixed text of such characters. -/
class Lexeme.IsBland (text : String) : Prop where
  all : text.toList.all isBland = true

namespace Reader

open Lexeme

variable {c d : Cursor}

theorem accept_eq_some {text : String} {found : Bool} (ran : accept text c = some (found, d)) :
    found = true ∧ exactly text c = some ((), d) ∨ found = false ∧ d = c := by
  unfold accept at ran
  split at ran
  · next _ first =>
      cases ran
      exact .inl ⟨rfl, first⟩
  · cases ran
    exact .inr ⟨rfl, rfl⟩

theorem written_eq_some {α : Type} {p : Reader α} {found : String × α}
    (ran : written p c = some (found, d)) : p c = some (found.2, d) := by
  obtain ⟨_, _, ⟨⟩, ran⟩ := bind_eq_some_iff.1 ran
  obtain ⟨a, m, read, ran⟩ := bind_eq_some_iff.1 ran
  obtain ⟨_, _, ⟨⟩, ran⟩ := bind_eq_some_iff.1 ran
  cases ran
  exact read

theorem fails_heredocOpening {rest : List Char} (other : rest.head? ≠ some '<') :
    heredocOpening.Fails rest :=
  .bind (fails_exactly (Text.afterLead?_eq_none_of_head? rfl other))

end Reader

namespace Lexed

open Lexeme

variable {mode : Mode} {c d : Cursor} {row : List Lexeme}

/-- Nothing is left out of a row. -/
theorem rest_eq (lexed : Lexed mode c row d) : c.rest = row.flatMap Lexeme.text ++ d.rest := by
  induction lexed with
  | done => rfl
  | append _ _ _ ih ih' => rw [ih, ih', List.flatMap_append, List.append_assoc]
  | code ran => exact (Reader.satisfy_eq_some ran).1
  | comment _ read => simpa [Lexeme.text] using read
  | literal _ read => simpa [Lexeme.text] using read
  | enclosed _ opened _ closed ih =>
      rw [Reader.exactly_eq_some opened, ih, Reader.exactly_eq_some closed]
      simp
  | heredoc angles _ _ _ _ _ ih ih' ih'' =>
      rw [Reader.exactly_eq_some angles, ih, ih', ih'']
      simp
  | tag opened _ _ closed ih =>
      rw [Reader.exactly_eq_some opened, ih, Reader.exactly_eq_some closed]
      simp
  | directive _ _ _ ih ih' ih'' =>
      rw [ih, ih', ih'']
      simp
  | branch _ ih => exact ih

/-- A character that is no mark and opens nothing. -/
theorem code_of_rest {x : Char} {rest : List Char} (read : c.rest = x :: rest)
    (plain : isPlainCode x = true) (free : opensComment c.rest = false)
    (none : heredocOpening c = none) :
    Lexed .code c [.code x] ⟨rest, c.offset + x.utf8Size⟩ := by
  refine .code ?_ free none
  unfold Reader.satisfy
  simp only [read, plain, if_true]

theorem code_of_isBland {x : Char} {rest : List Char} (read : c.rest = x :: rest)
    (bland : isBland x = true) : Lexed .code c [.code x] ⟨rest, c.offset + x.utf8Size⟩ := by
  simp only [isBland, special, List.contains_cons, List.contains_nil, Bool.or_false, Bool.not_eq_true',
    Bool.or_eq_false_iff, beq_eq_false_iff_ne] at bland
  obtain ⟨quote, opening, closing, hash, slash, angle⟩ := bland
  refine code_of_rest read ?_ ?_ ?_
  · simp [isPlainCode, quote, opening, closing]
  · rw [read]
    unfold opensComment
    split <;> simp_all
  · exact Reader.fails_heredocOpening (by rw [read]; simpa using angle) c.offset

theorem codes_of_offset {text : List Char} (read : c.rest = text ++ d.rest)
    (offset : d.offset = c.offset + Cursor.byteLength text) (bland : ∀ x ∈ text, isBland x = true) :
    Lexed .code c (codes text) d := by
  induction text generalizing c with
  | nil =>
      obtain rfl : c = d := by
        obtain ⟨rest, start⟩ := c
        obtain ⟨rest', stop⟩ := d
        cases read
        cases offset
        rfl
      exact .done inferInstance
  | cons x text ih =>
      obtain ⟨first, others⟩ := List.forall_mem_cons.1 bland
      refine .append inferInstance (code_of_isBland read first) (ih rfl ?_ others)
      rw [offset, Cursor.byteLength_cons, Nat.add_assoc]

/-- A text without special characters is code. -/
theorem codes {text : List Char} (reaches : c.Reaches d) (read : c.rest = text ++ d.rest)
    (bland : ∀ x ∈ text, isBland x = true) : Lexed .code c (codes text) d := by
  obtain ⟨text', read', offset⟩ := reaches
  obtain rfl := List.append_cancel_right (read.symm.trans read')
  exact codes_of_offset read offset bland

/-- So is one whose first character might open something, but does not. -/
theorem codes_cons {x : Char} {more : List Char} (reaches : c.Reaches d)
    (read : c.rest = x :: more ++ d.rest) (plain : isPlainCode x = true)
    (free : opensComment c.rest = false) (none : heredocOpening c = none)
    (bland : ∀ y ∈ more, isBland y = true) : Lexed .code c (Lexeme.codes (x :: more)) d := by
  obtain ⟨text, read', offset⟩ := reaches
  obtain rfl := List.append_cancel_right (read.symm.trans read')
  refine .append inferInstance (code_of_rest read plain free none) (codes_of_offset rfl ?_ bland)
  rw [offset, Cursor.byteLength_cons, Nat.add_assoc]

end Lexed

end InfraLint
