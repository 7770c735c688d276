import InfraLint.Proofs.Lexemes

/-!
# Readers take lexemes as they are

The grammar of configuration files says much more about a text than that it is a row of lexemes, but
each of its readers respects them: what it reads is a row of lexemes (`Reader.Spells`).  The class
passes through the ways in which readers are put together, as `Reader.Forward` does, and through fixed
texts without special characters (`Lexeme.IsBland`).  Readers that end with a brace are classed on
their own (`Reader.Closes`), so that the brace can be put together with the one that it closes.

An operator needs a look at its surroundings.  A slash is one only where no comment opens
(`Reader.opensComment_of_startsWith`), and an angle bracket only where no heredoc does: what follows it
is a chain of operators, which could itself only start with a heredoc
(`Reader.heredocOpening_eq_none`).

A file that can be read is therefore a row of lexemes (`ConfigFile.exists_isRowOf_of_parse?`).
-/

namespace InfraLint

/-! ## Readers put together -/

namespace Reader

open Lexeme

variable {α β : Type} {mode : Mode}

/-- Whatever the reader reads is a row of lexemes. -/
class Spells (mode : Mode) (p : Reader α) : Prop where
  lexed {c d : Cursor} {a : α} : p c = some (a, d) → ∃ row, Lexed mode c row d

instance spells_pure [mode.Repeats] (a : α) : Spells mode (pure a : Reader α) where
  lexed := by
    rintro c d b ⟨⟩
    exact ⟨[], .done inferInstance⟩

instance spells_failure : Spells mode (failure : Reader α) where
  lexed := by rintro c d b ⟨⟩

theorem Spells.bind [mode.Repeats] {p : Reader α} {f : α → Reader β} (first : Spells mode p)
    (second : ∀ a, Spells mode (f a)) : Spells mode (p >>= f) where
  lexed := by
    intro c d b ran
    obtain ⟨a, m, ran, next⟩ := bind_eq_some_iff.1 ran
    obtain ⟨row, lexed⟩ := first.lexed ran
    obtain ⟨row', lexed'⟩ := (second a).lexed next
    exact ⟨row ++ row', .append inferInstance lexed lexed'⟩

instance spells_bind [mode.Repeats] {p : Reader α} {f : α → Reader β} [first : Spells mode p]
    [second : ∀ a, Spells mode (f a)] : Spells mode (p >>= f) :=
  first.bind second

instance spells_seqRight [mode.Repeats] {p : Reader α} {q : Reader β} [Spells mode p]
    [Spells mode q] : Spells mode (p *> q) := by
  rw [seqRight_eq_bind]
  infer_instance

instance spells_orElse {p q : Reader α} [first : Spells mode p] [second : Spells mode q] :
    Spells mode (p <|> q) where
  lexed := by
    intro c d a ran
    rcases orElse_eq_some ran with ran | ran
    · exact first.lexed ran
    · exact second.lexed ran

instance spells_ite {test : Prop} [Decidable test] {p q : Reader α} [first : Spells mode p]
    [second : Spells mode q] : Spells mode (if test then p else q) := by
  split
  · exact first
  · exact second

instance spells_attempt [mode.Repeats] {p : Reader α} [inner : Spells mode p] :
    Spells mode (attempt p) where
  lexed := by
    intro c d found ran
    rcases attempt_eq_some ran with ⟨a, -, ran⟩ | ⟨-, rfl⟩
    · exact inner.lexed ran
    · exact ⟨[], .done inferInstance⟩

instance spells_manyUpTo [mode.Repeats] {p : Reader α} [inner : Spells mode p] (fuel : Nat) :
    Spells mode (manyUpTo p fuel) := by
  induction fuel with
  | zero => exact spells_pure []
  | succ fuel ih =>
      refine ⟨fun {c d found} ran => ?_⟩
      unfold manyUpTo at ran
      split at ran
      · cases ran
        exact ⟨[], .done inferInstance⟩
      · next a m first =>
          split at ran
          · next rest d' others =>
              cases ran
              obtain ⟨row, lexed⟩ := inner.lexed first
              obtain ⟨row', lexed'⟩ := ih.lexed others
              exact ⟨row ++ row', .append inferInstance lexed lexed'⟩
          · cases ran

instance spells_many [mode.Repeats] {p : Reader α} [Spells mode p] : Spells mode (many p) where
  lexed ran := (spells_manyUpTo _).lexed ran

theorem spells_of_start {p : Cursor → Reader α} (each : ∀ c, Spells mode (p c)) :
    Spells mode fun c => p c c where
  lexed {c _ _} ran := (each c).lexed ran

theorem spells_look [mode.Repeats] (look : Cursor → α) : Spells mode fun c => some (look c, c) where
  lexed := by
    rintro c d a ⟨⟩
    exact ⟨[], .done inferInstance⟩

instance spells_here [mode.Repeats] : Spells mode here := spells_look id

instance spells_peek? [mode.Repeats] : Spells mode peek? := spells_look (·.rest.head?)

instance spells_forAhead [mode.Repeats] : Spells mode forAhead where
  lexed := by
    intro c d found ran
    unfold forAhead at ran
    split at ran <;> cases ran <;> exact ⟨[], .done inferInstance⟩

instance spells_atEnd [mode.Repeats] : Spells mode atEnd where
  lexed := by
    intro c d b ran
    unfold atEnd at ran
    split at ran
    · cases ran
      exact ⟨[], .done inferInstance⟩
    · cases ran

instance spells_written {p : Reader α} [inner : Spells mode p] : Spells mode (written p) where
  lexed ran := inner.lexed (written_eq_some ran)

/-! ## Fixed texts and single characters -/

instance : IsBland "=" := ⟨by decide⟩
instance : IsBland "," := ⟨by decide⟩
instance : IsBland ":" := ⟨by decide⟩
instance : IsBland "." := ⟨by decide⟩
instance : IsBland "*" := ⟨by decide⟩
instance : IsBland "?" := ⟨by decide⟩
instance : IsBland "!" := ⟨by decide⟩
instance : IsBland "-" := ⟨by decide⟩
instance : IsBland "~" := ⟨by decide⟩
instance : IsBland "(" := ⟨by decide⟩
instance : IsBland ")" := ⟨by decide⟩
instance : IsBland "[" := ⟨by decide⟩
instance : IsBland "]" := ⟨by decide⟩
instance : IsBland "=>" := ⟨by decide⟩
instance : IsBland "::" := ⟨by decide⟩
instance : IsBland "..." := ⟨by decide⟩
instance : IsBland "\n" := ⟨by decide⟩
instance : IsBland "\r\n" := ⟨by decide⟩
instance : IsBland "in" := ⟨by decide⟩
instance : IsBland "if" := ⟨by decide⟩
instance : IsBland "for" := ⟨by decide⟩
instance : IsBland "else" := ⟨by decide⟩
instance : IsBland "endif" := ⟨by decide⟩
instance : IsBland "endfor" := ⟨by decide⟩

instance spells_exactly (text : String) [bland : IsBland text] : Spells .code (exactly text) where
  lexed ran :=
    ⟨_, .codes (Forward.reaches ran) (exactly_eq_some ran) (List.all_eq_true.1 bland.all)⟩

instance spells_accept (text : String) [IsBland text] : Spells .code (accept text) where
  lexed ran := by
    rcases accept_eq_some ran with ⟨-, read⟩ | ⟨-, rfl⟩
    · exact Spells.lexed read
    · exact ⟨[], .done inferInstance⟩

section Tests

variable (test : Char → Bool) (free : special.any test = false)

include free

/-- A test that no special character passes. -/
theorem isBland_of_test {x : Char} (passes : test x = true) : isBland x = true := by
  rw [List.any_eq_false] at free
  simp only [isBland, Bool.not_eq_true', ← Bool.not_eq_true, List.contains_iff_mem]
  exact fun special => free x special passes

theorem spells_satisfy : Spells .code (satisfy test) where
  lexed {c d x} ran := by
    obtain ⟨read, passes⟩ := satisfy_eq_some ran
    have bland : ∀ y ∈ [x], isBland y = true :=
      List.forall_mem_singleton.2 (isBland_of_test test free passes)
    exact ⟨_, .codes (Forward.reaches ran) read bland⟩

theorem spells_takeWhile : Spells .code (takeWhile test) where
  lexed {c d taken} ran := by
    have reaches := Forward.reaches ran
    cases ran
    exact ⟨_, .codes reaches List.takeWhile_append_dropWhile.symm fun x member =>
      isBland_of_test test free (List.mem_takeWhile_imp member)⟩

theorem spells_takeWhile1 : Spells .code (takeWhile1 test) := by
  have := spells_takeWhile test free
  unfold takeWhile1
  infer_instance

end Tests

instance spells_lineComment : Spells .code lineComment where
  lexed ran := by
    obtain ⟨text, read, -⟩ := Forward.reaches ran
    exact ⟨_, .comment (.inl ran) read⟩

instance spells_blockComment : Spells .code blockComment where
  lexed ran := by
    obtain ⟨text, read, -⟩ := Forward.reaches ran
    exact ⟨_, .comment (.inr ran) read⟩

instance spells_lineEnd : Spells .code lineEnd := by
  unfold lineEnd
  infer_instance

instance spells_inlineBlanks : Spells .code inlineBlanks := by
  have := spells_takeWhile1 (fun c => c == ' ' || c == '\t') (by decide)
  unfold inlineBlanks
  infer_instance

instance spells_anyBlanks : Spells .code anyBlanks := by
  have := spells_takeWhile1
    (fun c => c == ' ' || c == '\t' || c == '\r' || c == '\n') (by decide)
  unfold anyBlanks
  infer_instance

instance spells_blanks (newlines : Bool) : Spells .code (blanks newlines) := by
  unfold blanks
  infer_instance

instance spells_identifier : Spells .code identifier := by
  have := spells_satisfy Text.isIdStart (by decide)
  have := spells_takeWhile Text.isIdContinue (by decide)
  unfold identifier
  infer_instance

/-! ## Numbers -/

instance spells_digits1 : Spells .code digits1 := spells_takeWhile1 Char.isDigit (by decide)

instance spells_indexNumber : Spells .code indexNumber := by
  have := spells_satisfy Char.isDigit (by decide)
  have := spells_takeWhile Char.isDigit (by decide)
  unfold indexNumber
  infer_instance

instance spells_exponent : Spells .code exponent := by
  have := spells_satisfy (fun c => c == 'e' || c == 'E') (by decide)
  have := spells_satisfy (fun c => c == '+' || c == '-') (by decide)
  unfold exponent
  infer_instance

instance spells_realNumber : Spells .code realNumber := by
  unfold realNumber
  refine .bind inferInstance fun whole => .bind inferInstance fun fraction =>
    .bind inferInstance fun power => ?_
  dsimp only
  split
  · infer_instance
  · split <;> infer_instance

instance spells_number : Spells .code number := by
  unfold number wholeNumber
  infer_instance

instance spells_negativeNumber : Spells .code negativeNumber := by
  unfold negativeNumber
  infer_instance

/-! ## Braces and templates -/

/-- Whatever the reader reads is a row of lexemes up to a closing brace. -/
class Closes (p : Reader α) : Prop where
  lexed {c d : Cursor} {a : α} : p c = some (a, d) →
    ∃ row m, Lexed .code c row m ∧ exactly "\x7d" m = some ((), d)

instance closes_brace : Closes (exactly "\x7d") where
  lexed {c _ _} ran := ⟨[], c, .done inferInstance, ran⟩

instance closes_failure : Closes (failure : Reader α) where
  lexed := by rintro c d b ⟨⟩

theorem Closes.bind {p : Reader α} {f : α → Reader β} (first : Spells .code p)
    (second : ∀ a, Closes (f a)) : Closes (p >>= f) where
  lexed := by
    intro c d b ran
    obtain ⟨a, m, ran, next⟩ := bind_eq_some_iff.1 ran
    obtain ⟨row, lexed⟩ := first.lexed ran
    obtain ⟨row', m', lexed', closed⟩ := (second a).lexed next
    exact ⟨row ++ row', m', .append inferInstance lexed lexed', closed⟩

instance closes_bind {p : Reader α} {f : α → Reader β} [first : Spells .code p]
    [second : ∀ a, Closes (f a)] : Closes (p >>= f) :=
  .bind first second

instance closes_bind_pure {p : Reader α} {f : α → β} [inner : Closes p] :
    Closes (p >>= fun a => pure (f a)) where
  lexed := by
    intro c d b ran
    obtain ⟨a, m, ran, ⟨⟩⟩ := bind_eq_some_iff.1 ran
    exact inner.lexed ran

instance closes_orElse {p q : Reader α} [first : Closes p] [second : Closes q] :
    Closes (p <|> q) where
  lexed := by
    intro c d a ran
    rcases orElse_eq_some ran with ran | ran
    · exact first.lexed ran
    · exact second.lexed ran

instance closes_ite {test : Prop} [Decidable test] {p q : Reader α} [first : Closes p]
    [second : Closes q] : Closes (if test then p else q) := by
  split
  · exact first
  · exact second

/-- Braces around code, the opening one in whatever mode it is a mark. -/
theorem spells_braces {opening : String} {f : Unit → Reader α}
    (marks : Encloses mode opening .code "\x7d") [inner : Closes (f ())] :
    Spells mode (exactly opening >>= f) where
  lexed := by
    intro c d a ran
    obtain ⟨_, m, opened, ran⟩ := bind_eq_some_iff.1 ran
    obtain ⟨row, m', lexed, closed⟩ := inner.lexed ran
    exact ⟨_, .enclosed marks opened lexed closed⟩

/-! ## Operators -/

theorem opensComment_of_startsWith {rest : List Char} (slash : rest.head? = some '/')
    (line : Text.afterLead? "//".toList rest = none) (block : Text.afterLead? "/*".toList rest = none) :
    opensComment rest = false := by
  unfold opensComment
  split
  · cases slash
  · cases line
  · cases block
  · rfl

/-- The operators that hold a special character start with it. -/
theorem isBland_of_mem_binaryOps : ∀ entry ∈ binaryOps,
    entry.1.toList.all isBland = true ∨ entry.1 = "/" ∨ entry.1 = "<=" ∨ entry.1 = "<" := by
  decide

/-- A binary operator is code, also if it is an angle bracket where no heredoc opens. -/
theorem lexed_of_binaryOp {op : BinaryOp} {c d : Cursor} (ran : binaryOp c = some (op, d))
    (angle : c.rest = '<' :: d.rest → heredocOpening c = none) :
    ∃ row, Lexed .code c row d := by
  have reaches := Forward.reaches ran
  obtain ⟨line, block, text, member, found⟩ := binaryOp_eq_some ran
  have read := exactly_eq_some found
  rcases isBland_of_mem_binaryOps _ member with bland | rfl | rfl | rfl
  · exact ⟨_, .codes reaches read (List.all_eq_true.1 bland)⟩
  · refine ⟨_, .codes_cons reaches read rfl ?_ ?_ (List.forall_mem_nil _)⟩
    · exact opensComment_of_startsWith (by rw [read]; rfl) line block
    · exact fails_heredocOpening (by rw [read]; simp) c.offset
  · refine ⟨_, .codes_cons reaches read rfl (by rw [read]; rfl) ?_
      (List.forall_mem_singleton.2 rfl)⟩
    have apart : Text.afterLead? "<<".toList c.rest = none := by rw [read]; rfl
    exact (Fails.bind (fails_exactly apart) : heredocOpening.Fails c.rest) c.offset
  · exact ⟨_, .codes_cons reaches read rfl (by rw [read]; rfl) (angle read)
      (List.forall_mem_nil _)⟩

/-- Where an angle bracket stands, only a heredoc can be read. -/
theorem exists_angles_of_term {nested : Nested} {flags : Flags} {c d : Cursor} {found : Term}
    (ran : term nested flags c = some (found, d)) (angle : c.rest.head? = some '<') :
    ∃ m, exactly "<<" c = some ((), m) := by
  rcases orElse_eq_some ran with ran | ran
  · obtain ⟨_, _, ⟨⟩, ran⟩ := bind_eq_some_iff.1 ran
    rw [angle] at ran
    obtain ⟨e, m, ran, -⟩ := bind_eq_some_iff.1 ran
    obtain ⟨_, m', read, -⟩ := bind_eq_some_iff.1 ran
    exact ⟨m', read⟩
  · obtain ⟨op, m, ran, -⟩ := bind_eq_some_iff.1 ran
    obtain ⟨first, m', ran, -⟩ := bind_eq_some_iff.1 ran
    rcases orElse_eq_some ran with ran | ran
    all_goals
      rw [seqRight_eq_bind] at ran
      obtain ⟨_, m'', sign, -⟩ := bind_eq_some_iff.1 ran
      rw [exactly_eq_some sign] at angle
      cases angle

/-- The name of a heredoc does not start with an angle bracket. -/
theorem head?_of_heredocName {c d : Cursor} {name : String}
    (ran : heredocName c = some (name, d)) : c.rest.head? ≠ some '<' := by
  obtain ⟨indented, m, dash, named⟩ := bind_eq_some_iff.1 ran
  rcases accept_eq_some dash with ⟨-, dash⟩ | ⟨-, rfl⟩
  · rw [exactly_eq_some dash]
    simp
  · obtain ⟨delimiter, m', word, -⟩ := bind_eq_some_iff.1 named
    obtain ⟨first, m'', letter, -⟩ := bind_eq_some_iff.1 word
    obtain ⟨read, starts⟩ := satisfy_eq_some letter
    rw [read]
    rintro ⟨⟩
    cases starts

/-- An angle bracket opens no heredoc if a second one behind it does so. -/
theorem heredocOpening_eq_none {c d m : Cursor} {newlines : Bool} (angle : c.rest = '<' :: d.rest)
    (gap : blanks newlines d = some ((), m))
    (again : m.rest.head? = some '<' → ∃ b, exactly "<<" m = some ((), b)) :
    heredocOpening c = none := by
  by_contra opens
  obtain ⟨⟨name, e⟩, opens⟩ := Option.ne_none_iff_exists'.1 opens
  obtain ⟨_, b, angles, named⟩ := bind_eq_some_iff.1 opens
  have second : d.rest = '<' :: b.rest :=
    (List.cons.inj (angle.symm.trans (exactly_eq_some angles))).2
  have clear : IsClear d.rest := by
    rw [second]
    rintro _ ⟨⟩
    decide
  -- no blank can be read in front of the second bracket
  obtain ⟨offset, none⟩ := reads_blanks newlines clear d.offset
  obtain rfl : m = ⟨d.rest, offset⟩ := by
    have same := gap.symm.trans none
    cases same
    rfl
  obtain ⟨b', third⟩ := again (by simp [second])
  have third := (List.cons.inj (second.symm.trans (exactly_eq_some third))).2
  refine head?_of_heredocName named ?_
  rw [third]
  rfl

end Reader

/-- The readers for nested expressions take lexemes as they are.  Where an angle bracket stands, a
chain of operators can only start with a heredoc. -/
class Nested.Spells (nested : Nested) : Prop where
  expr (flags : Flags) : (nested.expr flags).Spells .code
  chain (flags : Flags) : (nested.chain flags).Spells .code
  angle {flags : Flags} {c d : Cursor} {found : ParsedChain} :
    nested.chain flags c = some (found, d) → c.rest.head? = some '<' →
    ∃ m, Reader.exactly "<<" c = some ((), m)

attribute [instance] Nested.Spells.expr Nested.Spells.chain

namespace Reader

open Lexeme

variable {α β : Type} {mode : Mode}

section Expressions

-- a long reader makes a long instance
set_option synthInstance.maxSize 100000

variable {nested : Nested} [nested.Spells]

instance spells_multiline : Spells .code (multiline nested) := by
  unfold multiline
  infer_instance

instance spells_singleLine : Spells .code (singleLine nested) := by
  unfold singleLine
  infer_instance

instance spells_spanned {p : Reader Parsed} [Spells .code p] : Spells .code (spanned p) := by
  unfold spanned
  infer_instance

/-- The inside of an interpolation or directive is code up to its brace. -/
theorem control_eq_some {opening : String} {inner : Reader α} [Spells .code inner] {c d : Cursor}
    {found : Marks × α} (ran : control opening inner c = some (found, d)) :
    ∃ m, exactly opening c = some ((), m) ∧
      (∃ b m₁ m₂ m₃ a, accept "~" m = some (b, m₁) ∧ anyBlanks m₁ = some ((), m₂) ∧
        inner m₂ = some (a, m₃)) ∧
      ∃ row m', Lexed .code m row m' ∧ exactly "\x7d" m' = some ((), d) := by
  obtain ⟨_, m, opened, ran⟩ := bind_eq_some_iff.1 ran
  refine ⟨m, opened, ?_, Closes.lexed ran⟩
  obtain ⟨b, m₁, mark, ran⟩ := bind_eq_some_iff.1 ran
  obtain ⟨_, m₂, blanks, ran⟩ := bind_eq_some_iff.1 ran
  obtain ⟨a, m₃, read, -⟩ := bind_eq_some_iff.1 ran
  exact ⟨b, m₁, m₂, m₃, a, mark, blanks, read⟩

instance spells_interpolation {script : Script} : Spells (.text script) (interpolation nested) where
  lexed := by
    intro c d part ran
    obtain ⟨_, m, ran, ⟨⟩⟩ := bind_eq_some_iff.1 ran
    obtain ⟨m', opened, -, row, m'', lexed, closed⟩ := control_eq_some ran
    exact ⟨_, .enclosed .interpolation opened lexed closed⟩

/-- A directive whose inside starts with one of the words. -/
theorem spells_control {words : List String} (word : String) {inner : Reader α}
    (member : word ∈ words) [Spells .code inner]
    (leads : ∀ {c d : Cursor} {a : α}, inner c = some (a, d) → ∃ m, exactly word c = some ((), m)) :
    Spells (.tag words) (control "%\x7b" inner) where
  lexed := by
    intro c d found ran
    obtain ⟨m, opened, ⟨b, m₁, m₂, m₃, a, mark, blanks, read⟩, row, m', lexed, closed⟩ :=
      control_eq_some ran
    obtain ⟨m₄, first⟩ := leads read
    refine ⟨_, .tag opened ⟨word, member, m₄, ?_⟩ lexed closed⟩
    exact bind_eq_some_iff.2 ⟨b, m₁, mark, bind_eq_some_iff.2 ⟨(), m₂, blanks, first⟩⟩

theorem spells_wordDirective {words : List String} {word : String} (member : word ∈ words)
    [IsBland word] : Spells (.tag words) (wordDirective word) where
  lexed := by
    intro c d marks ran
    obtain ⟨_, m, ran, ⟨⟩⟩ := bind_eq_some_iff.1 ran
    exact (spells_control word member fun read => ⟨_, read⟩).lexed ran

/-- Inside a directive the text goes on behind an `else`. -/
instance spells_else : Spells (.text .plain) (wordDirective "else") where
  lexed ran := by
    obtain ⟨row, lexed⟩ := (spells_wordDirective (List.mem_singleton_self _)).lexed ran
    exact ⟨row, .branch lexed⟩

instance spells_binder : Spells .code binder := by
  unfold binder
  infer_instance

/-- A directive with its parts: an opening tag, a text, and a closing tag. -/
theorem exists_lexed_directive {script : Script} {c m m' d : Cursor} {row : List Lexeme}
    (opening : ∃ first, Lexed (.tag ["if", "for"]) c first m) (inside : Lexed (.text .plain) m row m')
    (closing : ∃ last, Lexed (.tag ["endif", "endfor"]) m' last d) :
    ∃ row, Lexed (.text script) c row d := by
  obtain ⟨first, opening⟩ := opening
  obtain ⟨last, closing⟩ := closing
  exact ⟨_, .directive opening inside closing⟩

instance spells_choiceDirective {script : Script} {inner : Reader (List SourcePart)}
    [text : Spells (.text .plain) inner] : Spells (.text script) (choiceDirective nested inner) where
  lexed := by
    intro c d part ran
    obtain ⟨⟨marks, test⟩, m₁, opening, ran⟩ := bind_eq_some_iff.1 ran
    obtain ⟨yes, m₂, first, ran⟩ := bind_eq_some_iff.1 ran
    obtain ⟨middle, m₃, branch, ran⟩ := bind_eq_some_iff.1 ran
    have branches : Spells (.text .plain) (attempt (wordDirective "else")) := inferInstance
    obtain ⟨row₁, lexed₁⟩ := text.lexed first
    obtain ⟨row₂, lexed₂⟩ := branches.lexed branch
    obtain ⟨row₃, m₄, last, lexed₃, closing⟩ : ∃ row₃ m₄ last, Lexed (.text .plain) m₃ row₃ m₄ ∧
        wordDirective "endif" m₄ = some (last, d) := by
      split at ran
      · obtain ⟨no, m₄, second, ran⟩ := bind_eq_some_iff.1 ran
        obtain ⟨last, m₅, closing, ⟨⟩⟩ := bind_eq_some_iff.1 ran
        obtain ⟨row₃, lexed₃⟩ := text.lexed second
        exact ⟨row₃, m₄, last, lexed₃, closing⟩
      · obtain ⟨no, m₄, ⟨⟩, ran⟩ := bind_eq_some_iff.1 ran
        obtain ⟨last, m₅, closing, ⟨⟩⟩ := bind_eq_some_iff.1 ran
        exact ⟨[], m₃, last, .done inferInstance, closing⟩
    refine exists_lexed_directive ?_
      (.append inferInstance lexed₁ (.append inferInstance lexed₂ lexed₃)) ?_
    · refine (spells_control "if" (by decide) fun read => ?_).lexed opening
      obtain ⟨_, m, word, -⟩ := bind_eq_some_iff.1 read
      exact ⟨m, word⟩
    · exact (spells_wordDirective (by decide)).lexed closing

instance spells_loopDirective {script : Script} {inner : Reader (List SourcePart)}
    [text : Spells (.text .plain) inner] : Spells (.text script) (loopDirective nested inner) where
  lexed := by
    intro c d part ran
    obtain ⟨⟨marks, names, collection⟩, m₁, opening, ran⟩ := bind_eq_some_iff.1 ran
    obtain ⟨body, m₂, inside, ran⟩ := bind_eq_some_iff.1 ran
    obtain ⟨last, m₃, closing, ⟨⟩⟩ := bind_eq_some_iff.1 ran
    obtain ⟨row, lexed⟩ := text.lexed inside
    refine exists_lexed_directive ?_ lexed ?_
    · refine (spells_control "for" (by decide) fun read => ?_).lexed opening
      obtain ⟨_, m, word, -⟩ := bind_eq_some_iff.1 read
      exact ⟨m, word⟩
    · exact (spells_wordDirective (by decide)).lexed closing

instance forward_char (script : Script) : Forward script.char := by
  unfold Script.char
  split <;> infer_instance

instance spells_textOf {script : Script} : Spells (.text script) (textOf script.char) where
  lexed ran := by
    obtain ⟨text, read, -⟩ := Forward.reaches ran
    exact ⟨_, .literal ran read⟩

instance spells_partsWith {script : Script} {inner : Reader (List SourcePart)}
    [Spells (.text .plain) inner] :
    Spells (.text script) (partsWith nested script.char inner) := by
  unfold partsWith
  infer_instance

instance spells_plainParts (depth : Nat) : Spells (.text .plain) (plainParts nested depth) := by
  induction depth with
  | zero => exact spells_pure []
  | succ depth ih =>
      have := @spells_partsWith nested _ .plain _ ih
      exact this

theorem spells_templateParts (script : Script) :
    Spells (.text script) (templateParts nested script.char) :=
  spells_of_start (p := fun c => partsWith nested script.char (plainParts nested c.rest.length))
    fun _ => inferInstance

/-! ## Strings and heredocs -/

/-- Text, if there is any. -/
theorem spells_many_char (script : Script) : Spells (.text script) (many script.char) where
  lexed {c d parts} ran := by
    cases parts with
    | cons part parts => exact spells_textOf.lexed (bind_eq_some_iff.2 ⟨_, d, ran, rfl⟩)
    | nil =>
        suffices same : d = c from ⟨[], same ▸ .done inferInstance⟩
        unfold many at ran
        cases fuel : c.rest.length with
        | zero =>
            rw [fuel] at ran
            cases ran
            rfl
        | succ n =>
            rw [fuel] at ran
            unfold manyUpTo at ran
            split at ran
            · cases ran
              rfl
            · split at ran <;> cases ran

/-- Quotes around text. -/
theorem spells_quotes {p : Reader α} {f : α → β} (text : Spells (.text .quoted) p) :
    Spells .code (do exactly "\""; let a ← p; exactly "\""; return f a) where
  lexed := by
    intro c d b ran
    obtain ⟨_, m, opened, ran⟩ := bind_eq_some_iff.1 ran
    obtain ⟨a, m', inside, ran⟩ := bind_eq_some_iff.1 ran
    obtain ⟨_, m'', closed, ⟨⟩⟩ := bind_eq_some_iff.1 ran
    obtain ⟨row, lexed⟩ := text.lexed inside
    exact ⟨_, .enclosed .quotes opened lexed closed⟩

instance spells_quotedString : Spells .code quotedString :=
  spells_quotes (spells_many_char .quoted)

instance spells_stringLike : Spells .code (stringLike nested) := by
  have := spells_quotes (p := templateParts nested quotedChar) (f := SourceExpr.template)
    (spells_templateParts .quoted)
  unfold stringLike
  infer_instance

theorem isBland_of_identifier {c d : Cursor} {name : String} (ran : identifier c = some (name, d)) :
    IsBland name := by
  obtain ⟨first, m, letter, ran⟩ := bind_eq_some_iff.1 ran
  obtain ⟨more, m', ⟨⟩, ⟨⟩⟩ := bind_eq_some_iff.1 ran
  obtain ⟨-, starts⟩ := satisfy_eq_some letter
  refine ⟨List.all_eq_true.2 fun x member => ?_⟩
  rw [String.toList_ofList, List.mem_cons] at member
  rcases member with rfl | member
  · exact isBland_of_test Text.isIdStart (by decide) starts
  · exact isBland_of_test Text.isIdContinue (by decide) (List.mem_takeWhile_imp member)

instance spells_heredocEnd (delimiter : String) [IsBland delimiter] :
    Spells .code (heredocEnd delimiter) := by
  have := spells_takeWhile (fun c => c == ' ' || c == '\t') (by decide)
  unfold heredocEnd
  infer_instance

instance spells_heredocName : Spells .code heredocName := by
  unfold heredocName
  infer_instance

instance spells_heredoc : Spells .code (heredoc nested) where
  lexed := by
    intro c d e ran
    obtain ⟨_, b, angles, ran⟩ := bind_eq_some_iff.1 ran
    obtain ⟨indented, m₁, dash, ran⟩ := bind_eq_some_iff.1 ran
    obtain ⟨delimiter, m₂, word, ran⟩ := bind_eq_some_iff.1 ran
    obtain ⟨_, m, ended, ran⟩ := bind_eq_some_iff.1 ran
    obtain ⟨found, m', inside, ran⟩ := bind_eq_some_iff.1 ran
    obtain rfl : d = m' := by
      split at ran <;> cases ran <;> rfl
    have bland := isBland_of_identifier word
    have named : heredocName b = some (delimiter, m) :=
      bind_eq_some_iff.2 ⟨indented, m₁, dash, bind_eq_some_iff.2 ⟨delimiter, m₂, word,
        bind_eq_some_iff.2 ⟨(), m, ended, rfl⟩⟩⟩
    obtain ⟨first, opens⟩ := spells_heredocName.lexed named
    rcases orElse_eq_some inside with inside | inside
    · obtain ⟨parts, n, text, inside⟩ := bind_eq_some_iff.1 inside
      obtain ⟨_, n', line, inside⟩ := bind_eq_some_iff.1 inside
      obtain ⟨_, n'', closed, ⟨⟩⟩ := bind_eq_some_iff.1 inside
      obtain ⟨row, lexed⟩ := (spells_templateParts (.heredoc delimiter)).lexed text
      have closing : (lineEnd >>= fun _ => heredocEnd delimiter) n = some ((), d) :=
        bind_eq_some_iff.2 ⟨(), n', written_eq_some line, closed⟩
      obtain ⟨last, closes⟩ := (spells_lineEnd.bind fun _ => spells_heredocEnd _).lexed closing
      exact ⟨_, .heredoc angles named opens lexed (.inl closing) closes⟩
    · rw [seqRight_eq_bind] at inside
      obtain ⟨_, n, closed, ⟨⟩⟩ := bind_eq_some_iff.1 inside
      obtain ⟨last, closes⟩ := (spells_heredocEnd _).lexed closed
      exact ⟨_, .heredoc angles named opens (.done inferInstance) (.inr ⟨rfl, closed⟩) closes⟩

/-! ## Arrays, objects and calls -/

instance spells_forHead : Spells .code (forHead nested) := by
  unfold forHead
  infer_instance

instance spells_forCondition (flags : Flags) : Spells .code (forCondition nested flags) := by
  unfold forCondition
  infer_instance

instance spells_forList (flags : Flags) : Spells .code (forList nested flags) := by
  unfold forList
  infer_instance

instance spells_forObject (flags : Flags) : Spells .code (forObject nested flags) := by
  unfold forObject
  infer_instance

instance spells_commaSeparated (flags : Flags) : Spells .code (commaSeparated nested flags) := by
  unfold commaSeparated
  infer_instance

instance spells_array (flags : Flags) : Spells .code (array nested flags) := by
  unfold array
  infer_instance

instance spells_objectItem (fresh : Bool) : Spells .code (objectItem nested fresh) := by
  unfold objectItem
  infer_instance

instance spells_commentedLineEnd : Spells .code commentedLineEnd := by
  unfold commentedLineEnd
  infer_instance

instance spells_lineEndAhead : Spells .code lineEndAhead :=
  spells_look fun c => ((inlineBlanks *> commentedLineEnd : Reader Unit) c).isSome

instance spells_itemEnd : Spells .code itemEnd := by
  unfold itemEnd
  infer_instance

/-- A closing brace, or something that ends with one. -/
instance closes_accept {a : α} {p : Reader α} [others : Closes p] :
    Closes (accept "\x7d" >>= fun closed => if closed then pure a else p) where
  lexed := by
    intro c d b ran
    obtain ⟨closed, m, ran, next⟩ := bind_eq_some_iff.1 ran
    rcases accept_eq_some ran with ⟨rfl, brace⟩ | ⟨rfl, rfl⟩
    · cases next
      exact ⟨[], c, .done inferInstance, brace⟩
    · exact others.lexed next

instance closes_objectEntries (items : List SourceItem) (fuel : Nat) :
    Closes (objectEntries nested items fuel) := by
  induction fuel generalizing items with
  | zero => exact closes_failure
  | succ fuel ih =>
      unfold objectEntries
      infer_instance

instance spells_object (flags : Flags) : Spells .code (object nested flags) := by
  have entries : Closes fun c => objectEntries nested [] (c.rest.length + 1) c :=
    ⟨fun ran => (closes_objectEntries [] _).lexed ran⟩
  unfold object
  exact spells_braces .braces

instance spells_arguments (flags : Flags) : Spells .code (arguments nested flags) := by
  unfold arguments
  infer_instance

instance spells_namespaced (newlines : Bool) : Spells .code (namespaced newlines) := by
  unfold namespaced
  infer_instance

instance spells_identLike (flags : Flags) : Spells .code (identLike nested flags) := by
  unfold identLike
  refine .bind inferInstance fun name => .bind inferInstance fun called => ?_
  split <;> infer_instance

/-! ## Terms and chains of operators -/

instance spells_unaryOp : Spells .code unaryOp := by
  unfold unaryOp
  infer_instance

instance spells_unaryOps : Spells .code unaryOps := by
  unfold unaryOps
  dsimp only
  infer_instance

instance spells_plainTerm (flags : Flags) : Spells .code (plainTerm nested flags) := by
  unfold plainTerm
  refine .bind inferInstance fun ahead => ?_
  split <;> infer_instance

instance spells_term (flags : Flags) : Spells .code (term nested flags) := by
  unfold term
  infer_instance

instance spells_step : Spells .code (step nested) := by
  unfold step
  infer_instance

instance spells_steps (newlines : Bool) : Spells .code (steps nested newlines) := by
  unfold steps
  infer_instance

instance spells_chain (flags : Flags) : Spells .code (chain nested flags) := by
  unfold chain
  refine .bind inferInstance fun head => .bind inferInstance fun path => ⟨fun {c d found} ran => ?_⟩
  obtain ⟨tried, m, ahead, next⟩ := bind_eq_some_iff.1 ran
  rcases attempt_eq_some ahead with ⟨op, rfl, read⟩ | ⟨rfl, rfl⟩
  · rw [seqRight_eq_bind] at read
    obtain ⟨_, m₁, gap, operator⟩ := bind_eq_some_iff.1 read
    obtain ⟨_, m₂, gap', next⟩ := bind_eq_some_iff.1 next
    obtain ⟨right, m₃, chained, ⟨⟩⟩ := bind_eq_some_iff.1 next
    obtain ⟨row, lexed⟩ := (spells_blanks _).lexed gap
    obtain ⟨row₁, lexed₁⟩ := lexed_of_binaryOp operator fun angle =>
      heredocOpening_eq_none angle gap' (Nested.Spells.angle chained)
    obtain ⟨row₂, lexed₂⟩ := (spells_blanks _).lexed gap'
    obtain ⟨row₃, lexed₃⟩ := (Nested.Spells.chain _).lexed chained
    exact ⟨_, .append inferInstance lexed (.append inferInstance lexed₁
      (.append inferInstance lexed₂ lexed₃))⟩
  · cases next
    exact ⟨[], .done inferInstance⟩

instance spells_conditional (flags : Flags) : Spells .code (conditional nested flags) := by
  unfold conditional
  refine .bind inferInstance fun found => .bind inferInstance fun asked => ?_
  split <;> infer_instance

end Expressions

/-- Tying the knot: the readers of one level take lexemes as they are if those of the level below
do. -/
instance spells_nestedTo (depth : Nat) : (nestedTo depth).Spells := by
  induction depth with
  | zero => exact ⟨fun _ => spells_failure, fun _ => spells_failure, by rintro _ _ _ _ ⟨⟩⟩
  | succ depth ih =>
      refine ⟨spells_conditional, spells_chain, fun ran angle => ?_⟩
      obtain ⟨head, m, first, -⟩ := bind_eq_some_iff.1 ran
      exact exists_angles_of_term first angle

instance spells_expr (flags : Flags) : Spells .code (expr flags) :=
  spells_of_start (p := fun c => (nestedTo (c.rest.length + 1)).expr flags) fun _ => inferInstance

/-! ## Bodies -/

section Bodies

set_option synthInstance.maxSize 100000

variable {origin : Origin}

instance spells_settingValue (name : String) (line : Nat) :
    Spells .code (settingValue origin name line) := by
  unfold settingValue
  infer_instance

instance spells_setting : Spells .code (setting origin) := by
  unfold setting
  infer_instance

instance spells_labels : Spells .code labels := by
  unfold labels
  infer_instance

instance spells_blockBody {body : Reader Body} [Spells .code body] :
    Spells .code (blockBody origin body) := by
  unfold blockBody
  exact spells_braces .braces

instance spells_bodyItem {body : Reader Body} [Spells .code body] :
    Spells .code (bodyItem origin body) := by
  unfold bodyItem
  refine .bind inferInstance fun first => .bind inferInstance fun name =>
    .bind inferInstance fun _ => .bind inferInstance fun ahead => ?_
  split <;> infer_instance

instance spells_bodyItems {body : Reader Body} [Spells .code body] (fuel : Nat) :
    Spells .code (bodyItems origin body fuel) := by
  induction fuel with
  | zero => exact spells_pure []
  | succ fuel ih =>
      unfold bodyItems
      refine .bind inferInstance fun ahead => ?_
      split <;> infer_instance

instance spells_bodyTo (depth : Nat) : Spells .code (bodyTo origin depth) := by
  induction depth with
  | zero => exact spells_failure
  | succ depth ih =>
      have items : Spells .code fun c =>
          bodyItems origin (bodyTo origin depth) (c.rest.length + 1) c :=
        spells_of_start (p := fun c => bodyItems origin (bodyTo origin depth) (c.rest.length + 1))
          fun _ => inferInstance
      unfold bodyTo
      refine .bind inferInstance fun _ => .bind items fun found => ?_
      split <;> infer_instance

end Bodies

end Reader

/-- A configuration file that can be read is a row of lexemes. -/
theorem ConfigFile.exists_isRowOf_of_parse? {path source : String} {file : ConfigFile}
    (parsed : parse? path source = some file) : ∃ row, Lexeme.IsRowOf source row := by
  obtain ⟨⟨body, d⟩, ran, -⟩ := Option.bind_eq_some_iff.1 parsed
  unfold Reader.wholeBody at ran
  rw [seqLeft_eq_bind] at ran
  obtain ⟨_, m, read, ran⟩ := Reader.bind_eq_some_iff.1 ran
  obtain ⟨_, m', ended, ⟨⟩⟩ := Reader.bind_eq_some_iff.1 ran
  obtain ⟨row, lexed⟩ := (Reader.spells_bodyTo _).lexed read
  unfold Reader.atEnd at ended
  split at ended
  · next empty =>
      cases ended
      exact ⟨row, _, lexed, List.isEmpty_iff.1 empty⟩
  · cases ended

end InfraLint
