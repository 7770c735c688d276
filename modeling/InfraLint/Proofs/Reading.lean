import InfraLint.Config.File
import Mathlib.Algebra.BigOperators.Group.List.Basic
import Mathlib.Algebra.GroupWithZero.Nat
import Mathlib.Data.List.TakeWhile

/-!
# Reading moves forward

A cursor that a reader leaves stands behind the one it was given: the text in between has been read,
and the offset has grown by its bytes (`Cursor.Reaches`).  `Reader.Forward` says this of a reader.  It
passes through every way in which readers are put together, so it is a class with one instance for
each of these, and of a reader without choices it is inferred from its text.
-/

namespace InfraLint

namespace Cursor

/-! ## Places one behind the other -/

theorem byteLength_eq_sum (cs : List Char) : byteLength cs = (cs.map Char.utf8Size).sum := by
  rw [byteLength, List.sum_eq_foldl, List.foldl_map]

@[simp] theorem byteLength_nil : byteLength [] = 0 := rfl

@[simp] theorem byteLength_cons (c : Char) (rest : List Char) :
    byteLength (c :: rest) = c.utf8Size + byteLength rest := by
  simp [byteLength_eq_sum]

@[simp] theorem byteLength_append (first second : List Char) :
    byteLength (first ++ second) = byteLength first + byteLength second := by
  simp [byteLength_eq_sum]

theorem byteLength_ofList (cs : List Char) :
    (String.ofList cs).utf8ByteSize = byteLength cs := by
  induction cs with
  | nil => simp
  | cons c rest ih =>
      rw [byteLength_cons, ← ih, String.ofList_cons, String.utf8ByteSize_append,
        String.utf8ByteSize_singleton]

/-- Reading on from the first place leads to the second one. -/
def Reaches (first second : Cursor) : Prop :=
  ∃ read, first.rest = read ++ second.rest ∧ second.offset = first.offset + byteLength read

theorem Reaches.refl (c : Cursor) : c.Reaches c := ⟨[], rfl, rfl⟩

theorem Reaches.trans {c d e : Cursor} (first : c.Reaches d) (second : d.Reaches e) :
    c.Reaches e := by
  obtain ⟨read, rest, offset⟩ := first
  obtain ⟨more, rest', offset'⟩ := second
  refine ⟨read ++ more, ?_, ?_⟩
  · rw [rest, rest', List.append_assoc]
  · rw [offset', offset, byteLength_append, Nat.add_assoc]

theorem Reaches.offset_le {c d : Cursor} (reaches : c.Reaches d) : c.offset ≤ d.offset := by
  obtain ⟨read, -, offset⟩ := reaches
  omega

theorem reaches_advance (n : Nat) (c : Cursor) : c.Reaches (c.advance n) := by
  induction n generalizing c with
  | zero => exact .refl c
  | succ n ih =>
      obtain ⟨rest, offset⟩ := c
      cases rest with
      | nil => exact .refl _
      | cons x xs => exact .trans ⟨[x], rfl, by simp⟩ (ih ⟨xs, offset + x.utf8Size⟩)

end Cursor

/-- What is taken while a test holds is the longest front on which it does. -/
theorem Text.takeWhile_eq_iff {p : Char → Bool} {cs run : List Char} :
    cs.takeWhile p = run ↔
      ∃ rest, cs = run ++ rest ∧ (∀ c ∈ run, p c = true) ∧ ∀ c ∈ rest.head?, p c = false := by
  constructor
  · rintro rfl
    refine ⟨cs.dropWhile p, List.takeWhile_append_dropWhile.symm, fun c => List.mem_takeWhile_imp,
      fun c ahead => ?_⟩
    have stops := List.head?_dropWhile_not p cs
    rw [Option.mem_def.1 ahead] at stops
    simpa using stops
  · rintro ⟨rest, rfl, all, stops⟩
    rw [List.takeWhile_append_of_pos all]
    cases rest with
    | nil => simp
    | cons c rest => simp [stops c rfl]

theorem Text.eq_append_of_afterLead? {lead cs rest : List Char}
    (found : afterLead? lead cs = some rest) : cs = lead ++ rest := by
  induction lead generalizing cs with
  | nil =>
      cases found
      rfl
  | cons l ls ih =>
      cases cs with
      | nil => cases found
      | cons c cs =>
          simp only [afterLead?] at found
          split at found
          · next same => rw [eq_of_beq same, ih found, List.cons_append]
          · cases found

theorem Text.afterLead?_append (lead rest : List Char) :
    afterLead? lead (lead ++ rest) = some rest := by
  induction lead with
  | nil => rfl
  | cons c lead ih => rw [List.cons_append, afterLead?, beq_self_eq_true, if_pos rfl, ih]

namespace Reader

variable {α β : Type}

/-! ## Readers that move forward -/

/-- Whatever the reader reads, it ends at a place behind the one where it starts. -/
class Forward (p : Reader α) : Prop where
  reaches {c d : Cursor} {a : α} : p c = some (a, d) → c.Reaches d

theorem bind_eq_some_iff {p : Reader α} {f : α → Reader β} {c d : Cursor} {b : β} :
    (p >>= f) c = some (b, d) ↔ ∃ a m, p c = some (a, m) ∧ f a m = some (b, d) := by
  simp only [bind, StateT.bind, Option.bind_eq_some_iff, Prod.exists]

theorem orElse_eq_some {p q : Reader α} {c d : Cursor} {a : α}
    (ran : (p <|> q) c = some (a, d)) : p c = some (a, d) ∨ q c = some (a, d) := by
  change (p c <|> q c) = some (a, d) at ran
  cases first : p c with
  | none =>
      rw [first] at ran
      exact .inr ran
  | some read =>
      rw [first] at ran
      exact .inl ran

theorem attempt_eq_some {p : Reader α} {c d : Cursor} {found : Option α}
    (ran : attempt p c = some (found, d)) :
    (∃ a, found = some a ∧ p c = some (a, d)) ∨ found = none ∧ d = c := by
  unfold attempt at ran
  split at ran
  · next a d' first =>
      cases ran
      exact .inl ⟨a, rfl, first⟩
  · cases ran
    exact .inr ⟨rfl, rfl⟩

instance forward_pure (a : α) : Forward (pure a) where
  reaches := by
    rintro c d b ⟨⟩
    exact .refl c

instance forward_failure : Forward (failure : Reader α) where
  reaches := by rintro c d b ⟨⟩

theorem Forward.bind {p : Reader α} {f : α → Reader β} (first : Forward p)
    (second : ∀ a, Forward (f a)) : Forward (p >>= f) where
  reaches := by
    intro c d b ran
    obtain ⟨a, m, ran, next⟩ := bind_eq_some_iff.1 ran
    exact (first.reaches ran).trans ((second a).reaches next)

instance forward_bind {p : Reader α} {f : α → Reader β} [first : Forward p]
    [second : ∀ a, Forward (f a)] : Forward (p >>= f) :=
  first.bind second

instance forward_seqRight {p : Reader α} {q : Reader β} [Forward p] [Forward q] :
    Forward (p *> q) := by
  rw [seqRight_eq_bind]
  infer_instance

instance forward_orElse {p q : Reader α} [first : Forward p] [second : Forward q] :
    Forward (p <|> q) where
  reaches := by
    intro c d a ran
    rcases orElse_eq_some ran with ran | ran
    · exact first.reaches ran
    · exact second.reaches ran

instance forward_ite {test : Prop} [Decidable test] {p q : Reader α} [first : Forward p]
    [second : Forward q] : Forward (if test then p else q) := by
  split
  · exact first
  · exact second

instance forward_attempt {p : Reader α} [inner : Forward p] : Forward (attempt p) where
  reaches := by
    intro c d found ran
    rcases attempt_eq_some ran with ⟨a, -, ran⟩ | ⟨-, rfl⟩
    · exact inner.reaches ran
    · exact .refl d

instance forward_manyUpTo {p : Reader α} [inner : Forward p] (fuel : Nat) :
    Forward (manyUpTo p fuel) := by
  induction fuel with
  | zero => exact forward_pure []
  | succ fuel ih =>
      refine ⟨fun {c d found} ran => ?_⟩
      unfold manyUpTo at ran
      split at ran
      · cases ran
        exact .refl c
      · next a m first =>
          split at ran
          · next rest d' others =>
              cases ran
              exact (inner.reaches first).trans (ih.reaches others)
          · cases ran

instance forward_many {p : Reader α} [Forward p] : Forward (many p) where
  reaches ran := (forward_manyUpTo _).reaches ran

/-! ## Single characters and fixed texts -/

/-- A look at the text ahead reads nothing. -/
theorem forward_look (look : Cursor → α) : Forward fun c => some (look c, c) where
  reaches := by
    rintro c d a ⟨⟩
    exact .refl c

instance forward_here : Forward here := forward_look id

instance forward_peek? : Forward peek? := forward_look (·.rest.head?)

instance forward_startsWith (text : String) : Forward (startsWith text) :=
  forward_look fun c => (Text.afterLead? text.toList c.rest).isSome

/-- Nor does a test of it. -/
theorem forward_guard (test : Cursor → Bool) :
    Forward fun c => if test c then some ((), c) else none where
  reaches := by
    intro c d b ran
    split at ran
    · cases ran
      exact .refl c
    · cases ran

instance forward_atEnd : Forward atEnd := forward_guard (·.rest.isEmpty)

instance forward_satisfy (p : Char → Bool) : Forward (satisfy p) where
  reaches := by
    intro c d x ran
    unfold satisfy at ran
    split at ran
    · next y ys text =>
        split at ran
        · cases ran
          exact ⟨[x], text, by simp⟩
        · cases ran
    · cases ran

instance forward_exactly (text : String) : Forward (exactly text) where
  reaches := by
    intro c d u ran
    unfold exactly at ran
    split at ran
    · next rest found =>
        cases ran
        refine ⟨text.toList, Text.eq_append_of_afterLead? found, ?_⟩
        rw [← Cursor.byteLength_ofList, String.ofList_toList]
    · cases ran

instance forward_accept (text : String) : Forward (accept text) where
  reaches := by
    intro c d found ran
    unfold accept at ran
    split at ran
    · next d' first =>
        cases ran
        exact (forward_exactly text).reaches first
    · cases ran
      exact .refl c

instance forward_takeWhile (p : Char → Bool) : Forward (takeWhile p) where
  reaches := by
    rintro c d taken ⟨⟩
    exact ⟨_, List.takeWhile_append_dropWhile.symm, rfl⟩

instance forward_takeWhile1 (p : Char → Bool) : Forward (takeWhile1 p) := by
  unfold takeWhile1
  infer_instance

instance forward_written {p : Reader α} [Forward p] : Forward (written p) := by
  unfold written
  infer_instance

instance forward_blockComment : Forward blockComment := by
  refine (forward_exactly _).bind fun _ => ⟨fun {c d u} ran => ?_⟩
  split at ran
  · cases ran
    exact Cursor.reaches_advance _ c
  · cases ran

instance forward_lineComment : Forward lineComment := by
  have := forward_guard fun c => lineCommentEnd c.rest
  unfold lineComment
  infer_instance

instance forward_lineEnd : Forward lineEnd := by
  unfold lineEnd
  infer_instance

instance forward_inlineBlanks : Forward inlineBlanks := by
  unfold inlineBlanks
  infer_instance

instance forward_anyBlanks : Forward anyBlanks := by
  unfold anyBlanks
  infer_instance

instance forward_blanks (newlines : Bool) : Forward (blanks newlines) := by
  unfold blanks
  infer_instance

instance forward_identifier : Forward identifier := by
  unfold identifier
  infer_instance

/-! ## Literals -/

instance forward_indexNumber : Forward indexNumber := by
  unfold indexNumber
  infer_instance

instance forward_digits1 : Forward digits1 := by
  unfold digits1
  infer_instance

instance forward_exponent : Forward exponent := by
  unfold exponent
  infer_instance

instance forward_realNumber : Forward realNumber := by
  unfold realNumber
  refine .bind inferInstance fun whole => .bind inferInstance fun fraction =>
    .bind inferInstance fun power => ?_
  dsimp only
  split
  · infer_instance
  · split <;> infer_instance

instance forward_wholeNumber : Forward wholeNumber := by
  unfold wholeNumber
  infer_instance

instance forward_number : Forward number := by
  unfold number
  infer_instance

instance forward_negativeNumber : Forward negativeNumber := by
  unfold negativeNumber
  infer_instance

instance forward_hexDigits (count n : Nat) : Forward (hexDigits count n) := by
  induction count generalizing n with
  | zero => exact forward_pure n
  | succ count ih =>
      unfold hexDigits
      infer_instance

instance forward_codePoint (count : Nat) : Forward (codePoint count) := by
  unfold codePoint
  infer_instance

instance forward_escapedChar : Forward escapedChar := by
  unfold escapedChar
  refine .bind inferInstance fun _ => .bind inferInstance fun c => ?_
  split <;> infer_instance

instance forward_escapedOpening : Forward escapedOpening := by
  unfold escapedOpening
  infer_instance

instance forward_notOpening : Forward notOpening := by
  unfold notOpening
  infer_instance

instance forward_quotedChar : Forward quotedChar := by
  unfold quotedChar
  infer_instance

instance forward_textOf {char : Reader (List Char)} [Forward char] : Forward (textOf char) := by
  unfold textOf
  infer_instance

instance forward_quotedString : Forward quotedString := by
  unfold quotedString
  infer_instance

instance forward_heredocEnd (delimiter : String) : Forward (heredocEnd delimiter) := by
  unfold heredocEnd
  infer_instance

instance forward_heredocChar (delimiter : String) : Forward (heredocChar delimiter) := by
  unfold heredocChar
  infer_instance

instance forward_plainChar : Forward plainChar := by
  unfold plainChar
  infer_instance

end Reader

/-! ## Expressions -/

/-- The readers for nested expressions move forward. -/
class Nested.Forward (nested : Nested) : Prop where
  expr (flags : Flags) : (nested.expr flags).Forward
  chain (flags : Flags) : (nested.chain flags).Forward

attribute [instance] Nested.Forward.expr Nested.Forward.chain

namespace Reader

/-- A reader that depends on where it starts moves forward if it does so for each place. -/
theorem forward_of_start {p : Cursor → Reader α} (each : ∀ c, Forward (p c)) :
    Forward fun c => p c c where
  reaches {c _ _} ran := (each c).reaches ran

section Expressions

-- a long reader makes a long instance
set_option synthInstance.maxSize 100000

variable {nested : Nested} [nested.Forward]

instance forward_multiline : Forward (multiline nested) := by
  unfold multiline
  infer_instance

instance forward_singleLine : Forward (singleLine nested) := by
  unfold singleLine
  infer_instance

instance forward_spanned {p : Reader Parsed} [Forward p] : Forward (spanned p) := by
  unfold spanned
  infer_instance

instance forward_control {opening : String} {inner : Reader α} [Forward inner] :
    Forward (control opening inner) := by
  unfold control
  infer_instance

instance forward_interpolation : Forward (interpolation nested) := by
  unfold interpolation
  infer_instance

instance forward_wordDirective (word : String) : Forward (wordDirective word) := by
  unfold wordDirective
  infer_instance

instance forward_binder : Forward binder := by
  unfold binder
  infer_instance

instance forward_choiceDirective {inner : Reader (List SourcePart)} [Forward inner] :
    Forward (choiceDirective nested inner) := by
  unfold choiceDirective
  infer_instance

instance forward_loopDirective {inner : Reader (List SourcePart)} [Forward inner] :
    Forward (loopDirective nested inner) := by
  unfold loopDirective
  infer_instance

instance forward_partsWith {char : Reader (List Char)} {inner : Reader (List SourcePart)}
    [Forward char] [Forward inner] : Forward (partsWith nested char inner) := by
  unfold partsWith
  infer_instance

instance forward_plainParts (depth : Nat) : Forward (plainParts nested depth) := by
  induction depth with
  | zero => exact forward_pure []
  | succ depth ih =>
      unfold plainParts
      infer_instance

instance forward_templateParts {char : Reader (List Char)} [Forward char] :
    Forward (templateParts nested char) :=
  forward_of_start (p := fun c => partsWith nested char (plainParts nested c.rest.length))
    fun _ => inferInstance

instance forward_stringLike : Forward (stringLike nested) := by
  unfold stringLike
  infer_instance

instance forward_heredocParts (delimiter : String) : Forward (heredocParts nested delimiter) := by
  unfold heredocParts
  infer_instance

instance forward_heredoc : Forward (heredoc nested) := by
  unfold heredoc
  infer_instance

instance forward_forAhead : Forward forAhead where
  reaches := by
    intro c d found ran
    unfold forAhead at ran
    split at ran <;> cases ran <;> exact .refl c

instance forward_forHead : Forward (forHead nested) := by
  unfold forHead
  infer_instance

instance forward_forCondition (flags : Flags) : Forward (forCondition nested flags) := by
  unfold forCondition
  infer_instance

instance forward_forList (flags : Flags) : Forward (forList nested flags) := by
  unfold forList
  infer_instance

instance forward_forObject (flags : Flags) : Forward (forObject nested flags) := by
  unfold forObject
  infer_instance

instance forward_commaSeparated (flags : Flags) : Forward (commaSeparated nested flags) := by
  unfold commaSeparated
  infer_instance

instance forward_array (flags : Flags) : Forward (array nested flags) := by
  unfold array
  infer_instance

instance forward_objectItem (fresh : Bool) : Forward (objectItem nested fresh) := by
  unfold objectItem
  infer_instance

instance forward_commentedLineEnd : Forward commentedLineEnd := by
  unfold commentedLineEnd
  infer_instance

instance forward_lineEndAhead : Forward lineEndAhead :=
  forward_look fun c => ((inlineBlanks *> commentedLineEnd : Reader Unit) c).isSome

instance forward_itemEnd : Forward itemEnd := by
  unfold itemEnd
  infer_instance

instance forward_objectEntries (items : List SourceItem) (fuel : Nat) :
    Forward (objectEntries nested items fuel) := by
  induction fuel generalizing items with
  | zero => exact forward_failure
  | succ fuel ih =>
      unfold objectEntries
      infer_instance

instance forward_object (flags : Flags) : Forward (object nested flags) := by
  have entries : Forward fun c => objectEntries nested [] (c.rest.length + 1) c :=
    forward_of_start (p := fun c => objectEntries nested [] (c.rest.length + 1))
      fun _ => inferInstance
  unfold object
  infer_instance

instance forward_arguments (flags : Flags) : Forward (arguments nested flags) := by
  unfold arguments
  infer_instance

instance forward_namespaced (newlines : Bool) : Forward (namespaced newlines) := by
  unfold namespaced
  infer_instance

instance forward_identLike (flags : Flags) : Forward (identLike nested flags) := by
  unfold identLike
  refine .bind inferInstance fun name => .bind inferInstance fun called => ?_
  split <;> infer_instance

instance forward_unaryOp : Forward unaryOp := by
  unfold unaryOp
  infer_instance

instance forward_unaryOps : Forward unaryOps := by
  unfold unaryOps
  dsimp only
  infer_instance

instance forward_plainTerm (flags : Flags) : Forward (plainTerm nested flags) := by
  unfold plainTerm
  refine .bind inferInstance fun ahead => ?_
  split <;> infer_instance

instance forward_term (flags : Flags) : Forward (term nested flags) := by
  unfold term
  infer_instance

instance forward_step : Forward (step nested) := by
  unfold step
  infer_instance

instance forward_steps (newlines : Bool) : Forward (steps nested newlines) := by
  unfold steps
  infer_instance

instance forward_binaryOp : Forward binaryOp := by
  unfold binaryOp binaryOps
  simp only [List.foldr_cons, List.foldr_nil]
  infer_instance

instance forward_chain (flags : Flags) : Forward (chain nested flags) := by
  unfold chain
  refine .bind inferInstance fun head => .bind inferInstance fun path =>
    .bind inferInstance fun op => ?_
  split <;> infer_instance

instance forward_conditional (flags : Flags) : Forward (conditional nested flags) := by
  unfold conditional
  refine .bind inferInstance fun found => .bind inferInstance fun asked => ?_
  split <;> infer_instance

end Expressions

/-- Tying the knot: the readers of one level move forward if those of the level below do. -/
instance forward_nestedTo (depth : Nat) : (nestedTo depth).Forward := by
  induction depth with
  | zero => exact ⟨fun _ => forward_failure, fun _ => forward_failure⟩
  | succ depth ih => exact ⟨forward_conditional, forward_chain⟩

instance forward_expr (flags : Flags) : Forward (expr flags) :=
  forward_of_start (p := fun c => (nestedTo (c.rest.length + 1)).expr flags) fun _ => inferInstance

/-! ## Bodies -/

section Bodies

set_option synthInstance.maxSize 100000

variable {origin : Origin}

instance forward_settingValue (name : String) (line : Nat) :
    Forward (settingValue origin name line) := by
  unfold settingValue
  infer_instance

instance forward_setting : Forward (setting origin) := by
  unfold setting
  infer_instance

instance forward_labels : Forward labels := by
  unfold labels
  infer_instance

instance forward_blockBody {body : Reader Body} [Forward body] : Forward (blockBody origin body) := by
  unfold blockBody
  infer_instance

instance forward_bodyItem {body : Reader Body} [Forward body] : Forward (bodyItem origin body) := by
  unfold bodyItem
  refine .bind inferInstance fun first => .bind inferInstance fun name =>
    .bind inferInstance fun _ => .bind inferInstance fun ahead => ?_
  split <;> infer_instance

instance forward_bodyItems {body : Reader Body} [Forward body] (fuel : Nat) :
    Forward (bodyItems origin body fuel) := by
  induction fuel with
  | zero => exact forward_pure []
  | succ fuel ih =>
      unfold bodyItems
      refine .bind inferInstance fun ahead => ?_
      split <;> infer_instance

instance forward_bodyTo (depth : Nat) : Forward (bodyTo origin depth) := by
  induction depth with
  | zero => exact forward_failure
  | succ depth ih =>
      have items : Forward fun c => bodyItems origin (bodyTo origin depth) (c.rest.length + 1) c :=
        forward_of_start (p := fun c => bodyItems origin (bodyTo origin depth) (c.rest.length + 1))
          fun _ => inferInstance
      unfold bodyTo
      refine .bind inferInstance fun _ => .bind items fun found => ?_
      split <;> infer_instance

end Bodies

/-! ## What makes up a body

The parts of what has been read, each with the place where it is read. -/

section Parts

variable {origin : Origin} {c d : Cursor}

/-- What follows the name of an attribute: its value, read at a place further on. -/
theorem settingValue_eq_some {name : String} {line : Nat} {attr : Attribute}
    (ran : settingValue origin name line c = some (attr, d)) :
    ∃ m parsed, c.Reaches m ∧ expr ⟨false, false⟩ m = some (parsed, d) ∧
      attr = ⟨name, origin.token ⟨m, d, parsed.expr⟩ line, parsed.elements.map fun found =>
        found.map fun element => origin.token element (origin.lineAt element.first)⟩ := by
  obtain ⟨_, m, equals, ran⟩ := bind_eq_some_iff.1 ran
  obtain ⟨_, m₁, blanks, ran⟩ := bind_eq_some_iff.1 ran
  obtain ⟨_, _, ⟨⟩, ran⟩ := bind_eq_some_iff.1 ran
  obtain ⟨parsed, m₂, value, ran⟩ := bind_eq_some_iff.1 ran
  obtain ⟨_, _, ⟨⟩, ran⟩ := bind_eq_some_iff.1 ran
  cases ran
  exact ⟨m₁, parsed, (Forward.reaches equals).trans (Forward.reaches blanks), value, rfl⟩

/-- An attribute is its name, and what follows that. -/
theorem setting_eq_some {attr : Attribute} (ran : setting origin c = some (attr, d)) :
    ∃ name m m', identifier c = some (name, m) ∧ m.Reaches m' ∧
      settingValue origin name (origin.lineAt c) m' = some (attr, d) := by
  obtain ⟨_, _, ⟨⟩, ran⟩ := bind_eq_some_iff.1 ran
  obtain ⟨name, m, word, ran⟩ := bind_eq_some_iff.1 ran
  obtain ⟨_, m', blanks, ran⟩ := bind_eq_some_iff.1 ran
  exact ⟨name, m, m', word, Forward.reaches blanks, ran⟩

/-- A body in braces is one on lines of its own, or at most one attribute on the line of the
braces. -/
theorem blockBody_eq_some {body : Reader Body} {inner : Body}
    (ran : blockBody origin body c = some (inner, d)) :
    (∃ m m', c.Reaches m ∧ body m = some (inner, m') ∧ m'.Reaches d) ∨
    ∃ given m m', inner = { attributes := given.toList } ∧ c.Reaches m ∧
      attempt (setting origin) m = some (given, m') ∧ m'.Reaches d := by
  obtain ⟨_, m, opened, ran⟩ := bind_eq_some_iff.1 ran
  rcases orElse_eq_some ran with ran | ran
  · obtain ⟨_, m₁, blanks, ran⟩ := bind_eq_some_iff.1 ran
    obtain ⟨_, m₂, comment, ran⟩ := bind_eq_some_iff.1 ran
    obtain ⟨_, m₃, ended, ran⟩ := bind_eq_some_iff.1 ran
    obtain ⟨found, m₄, read, ran⟩ := bind_eq_some_iff.1 ran
    obtain ⟨_, m₅, closed, ran⟩ := bind_eq_some_iff.1 ran
    cases ran
    have before := (((Forward.reaches opened).trans (Forward.reaches blanks)).trans
      (Forward.reaches comment)).trans (Forward.reaches ended)
    exact .inl ⟨m₃, m₄, before, read, Forward.reaches closed⟩
  · obtain ⟨_, m₁, before, ran⟩ := bind_eq_some_iff.1 ran
    obtain ⟨given, m₂, read, ran⟩ := bind_eq_some_iff.1 ran
    obtain ⟨_, m₃, after, ran⟩ := bind_eq_some_iff.1 ran
    obtain ⟨_, m₄, closed, ran⟩ := bind_eq_some_iff.1 ran
    cases ran
    exact .inr ⟨given, m₁, m₂, rfl, (Forward.reaches opened).trans (Forward.reaches before), read,
      (Forward.reaches after).trans (Forward.reaches closed)⟩

/-- An entry of a body is an attribute, or a block with a body in braces. -/
theorem bodyItem_eq_some {body : Reader Body} {item : BodyItem}
    (ran : bodyItem origin body c = some (item, d)) :
    (∃ attr, item = .setting attr ∧ setting origin c = some (attr, d)) ∨
    ∃ kind labels inner m m', item =
        .block ⟨kind, labels, inner.attributes, inner.blocks, origin.file, origin.lineAt c⟩ ∧
      identifier c = some (kind, m) ∧ m.Reaches m' ∧
      blockBody origin body m' = some (inner, d) := by
  obtain ⟨_, _, ⟨⟩, ran⟩ := bind_eq_some_iff.1 ran
  obtain ⟨name, m, word, ran⟩ := bind_eq_some_iff.1 ran
  obtain ⟨_, m₁, blanks, ran⟩ := bind_eq_some_iff.1 ran
  obtain ⟨ahead, m₂, look, ran⟩ := bind_eq_some_iff.1 ran
  -- the character ahead decides, and is left where it stands
  obtain rfl : m₁ = m₂ := by
    cases look
    rfl
  split at ran
  · obtain ⟨attr, m₃, value, ran⟩ := bind_eq_some_iff.1 ran
    cases ran
    refine .inl ⟨attr, rfl, ?_⟩
    exact bind_eq_some_iff.2 ⟨c, c, rfl, bind_eq_some_iff.2 ⟨name, m, word,
      bind_eq_some_iff.2 ⟨_, m₁, blanks, value⟩⟩⟩
  · obtain ⟨labels, m₃, read, ran⟩ := bind_eq_some_iff.1 ran
    obtain ⟨inner, m₄, braces, ran⟩ := bind_eq_some_iff.1 ran
    cases ran
    exact .inr ⟨name, labels, inner, m, m₃, rfl, word,
      (Forward.reaches blanks).trans (Forward.reaches read), braces⟩

/-- Where entries of a body are read there is none, or there is one and the others come further
on. -/
theorem bodyItems_eq_some {body : Reader Body} {fuel : Nat} {items : List BodyItem}
    (ran : bodyItems origin body (fuel + 1) c = some (items, d)) :
    items = [] ∧ d = c ∨ ∃ item rest m m', items = item :: rest ∧
      bodyItem origin body c = some (item, m) ∧ m.Reaches m' ∧
      bodyItems origin body fuel m' = some (rest, d) := by
  obtain ⟨_, _, ⟨⟩, ran⟩ := bind_eq_some_iff.1 ran
  generalize c.rest.head? = ahead at ran
  split at ran
  · split at ran
    · obtain ⟨item, m, first, ran⟩ := bind_eq_some_iff.1 ran
      obtain ⟨_, m₁, blanks, ran⟩ := bind_eq_some_iff.1 ran
      obtain ⟨_, m₂, comment, ran⟩ := bind_eq_some_iff.1 ran
      obtain ⟨_, m₃, ended, ran⟩ := bind_eq_some_iff.1 ran
      obtain ⟨_, m₄, lines, ran⟩ := bind_eq_some_iff.1 ran
      obtain ⟨rest, m₅, others, ran⟩ := bind_eq_some_iff.1 ran
      cases ran
      have later : m.Reaches m₄ :=
        (((Forward.reaches blanks).trans (Forward.reaches comment)).trans
          (Forward.reaches ended)).trans (Forward.reaches lines)
      exact .inr ⟨item, rest, m, m₄, rfl, first, later, others⟩
    · cases ran
      exact .inl ⟨rfl, rfl⟩
  · cases ran
    exact .inl ⟨rfl, rfl⟩

/-- The entries of a body follow one another from where the blanks in front of them end. -/
theorem bodyTo_eq_some {depth : Nat} {body : Body}
    (ran : bodyTo origin (depth + 1) c = some (body, d)) :
    ∃ items fuel m, c.Reaches m ∧
      bodyItems origin (bodyTo origin depth) fuel m = some (items, d) ∧
      Body.ofItems? items = some body := by
  obtain ⟨_, m, blanks, ran⟩ := bind_eq_some_iff.1 ran
  obtain ⟨items, m', read, ran⟩ := bind_eq_some_iff.1 ran
  cases made : Body.ofItems? items with
  | none =>
      rw [made] at ran
      cases ran
  | some found =>
      rw [made] at ran
      cases ran
      exact ⟨items, _, m, Forward.reaches blanks, read, made⟩

end Parts

end Reader

/-- A body is made of its entries. -/
theorem Body.mem_of_ofItems? {items : List BodyItem} {body : Body}
    (made : ofItems? items = some body) :
    (∀ attr ∈ body.attributes, .setting attr ∈ items) ∧
      ∀ block ∈ body.blocks, .block block ∈ items := by
  induction items generalizing body with
  | nil =>
      cases made
      exact ⟨by simp, by simp⟩
  | cons item rest ih =>
      cases item with
      | setting attr =>
          obtain ⟨others, made', made⟩ := Option.bind_eq_some_iff.1 made
          obtain ⟨attributes, blocks⟩ := ih made'
          split at made
          · cases made
          · cases made
            refine ⟨fun other member => ?_, fun block member =>
              List.mem_cons_of_mem _ (blocks block member)⟩
            rcases List.mem_cons.1 member with rfl | member
            · exact List.mem_cons_self
            · exact List.mem_cons_of_mem _ (attributes other member)
      | block block =>
          obtain ⟨others, made', made⟩ := Option.bind_eq_some_iff.1 made
          obtain ⟨attributes, blocks⟩ := ih made'
          cases made
          refine ⟨fun attr member => List.mem_cons_of_mem _ (attributes attr member),
            fun other member => ?_⟩
          rcases List.mem_cons.1 member with rfl | member
          · exact List.mem_cons_self
          · exact List.mem_cons_of_mem _ (blocks other member)

end InfraLint
