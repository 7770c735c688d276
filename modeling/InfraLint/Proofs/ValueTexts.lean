import InfraLint.Proofs.PlainTemplates
import Mathlib.Data.List.TakeWhile

/-!
# Values from their texts

The text of an attribute's value is what the expression was read from, without the blanks around it.
For two kinds of text this tells the expression: a plain template in quotes
(`Node.IsReadAt.value_of_template`) and a single input variable (`Node.IsReadAt.value_of_variable`).

The readers of terms do not look at what follows the text, so they read it as it is.  Whatever else
an expression could go on with, a further step, an operator or a question mark, is neither blank nor
part of the text (`Cursor.Passes`).
-/

namespace InfraLint

/-! ## Passing a character -/

namespace Cursor

/-- Reading on from the first place leads to the second one, past a character that is not blank. -/
def Passes (first second : Cursor) : Prop :=
  ∃ read, first.rest = read ++ second.rest ∧ ∃ c ∈ read, Text.isBlank c = false

variable {c d e : Cursor}

theorem Reaches.passes (first : c.Reaches d) (second : d.Passes e) : c.Passes e := by
  obtain ⟨read, rest, -⟩ := first
  obtain ⟨more, rest', x, inside, solid⟩ := second
  exact ⟨read ++ more, by rw [rest, rest', List.append_assoc], x,
    List.mem_append_right _ inside, solid⟩

/-- What has been passed stays so wherever the text is read on. -/
theorem Passes.append (first : c.Passes d) {more : List Char} (further : d.rest = more ++ e.rest) :
    c.Passes e := by
  obtain ⟨read, rest, x, inside, solid⟩ := first
  exact ⟨read ++ more, by rw [rest, further, List.append_assoc], x,
    List.mem_append_left _ inside, solid⟩

theorem Passes.reaches (first : c.Passes d) (second : d.Reaches e) : c.Passes e := by
  obtain ⟨more, further, -⟩ := second
  exact first.append further

theorem Passes.trans (first : c.Passes d) (second : d.Passes e) : c.Passes e := by
  obtain ⟨more, further, -⟩ := second
  exact first.append further

theorem takeBytes_append (read rest : List Char) :
    takeBytes (byteLength read) (read ++ rest) = read := by
  induction read with
  | nil => cases rest <;> rfl
  | cons c read ih =>
      have size : byteLength (c :: read) = byteLength read + c.utf8Size := by
        rw [byteLength_cons, Nat.add_comm]
      obtain ⟨bytes, positive⟩ : ∃ n, byteLength (c :: read) = n + 1 :=
        Nat.exists_eq_succ_of_ne_zero (by have := c.utf8Size_pos; omega)
      have left : bytes + 1 - c.utf8Size = byteLength read := by omega
      rw [positive, List.cons_append, takeBytes, left, ih]
      exact Nat.succ_ne_zero bytes

/-- The text between two places is what is read from the first to the second. -/
theorem Reaches.rest_eq (reaches : c.Reaches d) : c.rest = c.between d ++ d.rest := by
  obtain ⟨read, rest, offset⟩ := reaches
  rw [between, offset, Nat.add_sub_cancel_left, rest, takeBytes_append]

end Cursor

namespace Reader

variable {c d : Cursor} {nested : Nested}

theorem passes_exactly {text : String} (ran : exactly text c = some ((), d))
    (solid : (text.toList.head?.any fun x => !Text.isBlank x) = true) : c.Passes d := by
  obtain ⟨x, first, solid⟩ := (Option.any_eq_true ..).1 solid
  exact ⟨text.toList, exactly_eq_some ran, x, List.mem_of_head? first, by simpa using solid⟩

theorem passes_binaryOp {op : BinaryOp} (ran : binaryOp c = some (op, d)) : c.Passes d := by
  have solid : ∀ entry ∈ binaryOps,
      (entry.1.toList.head?.any fun x => !Text.isBlank x) = true := by decide
  obtain ⟨-, -, text, member, sign⟩ := binaryOp_eq_some ran
  exact passes_exactly sign (solid _ member)

theorem manyUpTo_cases {α : Type} {p : Reader α} {fuel : Nat} {found : List α}
    (ran : manyUpTo p fuel c = some (found, d)) :
    found = [] ∧ d = c ∧ (p c = none ∨ fuel = 0) ∨ ∃ first others m fuel',
      found = first :: others ∧ p c = some (first, m) ∧
        manyUpTo p fuel' m = some (others, d) := by
  cases fuel with
  | zero =>
      cases ran
      exact .inl ⟨rfl, rfl, .inr rfl⟩
  | succ fuel =>
      unfold manyUpTo at ran
      split at ran
      · next none =>
        cases ran
        exact .inl ⟨rfl, rfl, .inl none⟩
      · next a m first =>
        split at ran
        · next others e rest =>
          cases ran
          exact .inr ⟨a, others, m, fuel, rfl, first, rest⟩
        · cases ran

variable [nested.Forward]

theorem passes_step {found : SourceStep} (ran : step nested c = some (found, d)) :
    c.Passes d := by
  rcases orElse_eq_some ran with ran | ran
  · have member : Forward (do
        anyBlanks
        exactly "*" *> pure .eachMember <|> (do return .position (← indexNumber)) <|>
          do return .member (← identifier) : Reader SourceStep) := inferInstance
    obtain ⟨_, m, dot, further⟩ := bind_eq_some_iff.1 ran
    exact (passes_exactly dot (by decide)).reaches (member.reaches further)
  · have index : Forward (do
        anyBlanks
        let found ← exactly "*" *> pure .each <|> do return .index (← multiline nested)
        anyBlanks
        exactly "]"
        return found : Reader SourceStep) := inferInstance
    obtain ⟨_, m, bracket, further⟩ := bind_eq_some_iff.1 ran
    exact (passes_exactly bracket (by decide)).reaches (index.reaches further)

theorem passes_nextStep {newlines : Bool} {found : SourceStep}
    (ran : nextStep nested newlines c = some (found, d)) : c.Passes d := by
  obtain ⟨_, m, blanks, ran⟩ := bind_eq_some_iff.1 ran
  obtain ⟨_, _, ⟨⟩, ran⟩ := bind_eq_some_iff.1 ran
  split at ran
  · exact (Forward.reaches blanks).passes (passes_step ran)
  · cases ran

/-- The steps behind a term: none, or a first one and others behind it. -/
theorem steps_cases {newlines : Bool} {path : List SourceStep}
    (ran : steps nested newlines c = some (path, d)) :
    path = [] ∧ d = c ∧ (nextStep nested newlines c = none ∨ c.rest = []) ∨
      ∃ first others m, path = first :: others ∧
        nextStep nested newlines c = some (first, m) ∧ (others = [] ∧ d = m ∨ m.Passes d) := by
  obtain ⟨found, m, read, checked⟩ := bind_eq_some_iff.1 ran
  obtain ⟨broken, m', look, last⟩ := bind_eq_some_iff.1 checked
  rcases attempt_eq_some look with ⟨_, rfl, -⟩ | ⟨rfl, rfl⟩
  · cases last
  · cases last
    rcases manyUpTo_cases read with ⟨rfl, rfl, none⟩ | ⟨first, others, m₁, fuel, rfl, ran₁, rest⟩
    · exact .inl ⟨rfl, rfl, none.imp id List.length_eq_zero_iff.1⟩
    · refine .inr ⟨first, others, m₁, rfl, ran₁, ?_⟩
      rcases manyUpTo_cases rest with ⟨rfl, rfl, -⟩ | ⟨second, more, m₂, fuel, rfl, ran₂, rest⟩
      · exact .inl ⟨rfl, rfl⟩
      · exact .inr ((passes_nextStep ran₂).reaches (Forward.reaches rest))

/-- A chain is its first term with the steps behind it, or goes on past an operator. -/
theorem chain_cases {flags : Flags} {found : ParsedChain} {head : Term} {m : Cursor}
    (first : term nested flags c = some (head, m))
    (ran : chain nested flags c = some (found, d)) :
    ∃ path m', steps nested (flags.newlines || head.newlines) m = some (path, m') ∧
      (found.expr = (if path.isEmpty then head.expr else .traversal head.expr path) ∧ d = m' ∨
        m'.Passes d) := by
  obtain ⟨_, _, first', ran⟩ := bind_eq_some_iff.1 ran
  cases first.symm.trans first'
  obtain ⟨path, m', steps, ran⟩ := bind_eq_some_iff.1 ran
  obtain ⟨asked, m'', look, last⟩ := bind_eq_some_iff.1 ran
  refine ⟨path, m', steps, ?_⟩
  rcases attempt_eq_some look with ⟨op, rfl, sign⟩ | ⟨rfl, rfl⟩
  · rw [seqRight_eq_bind] at sign
    obtain ⟨_, m₁, blanks, sign⟩ := bind_eq_some_iff.1 sign
    obtain ⟨_, m₂, blanks', last⟩ := bind_eq_some_iff.1 last
    obtain ⟨right, m₃, further, last⟩ := bind_eq_some_iff.1 last
    cases last
    refine .inr (((Forward.reaches blanks).passes (passes_binaryOp sign)).reaches ?_)
    exact (Forward.reaches blanks').trans (Forward.reaches further)
  · cases last
    exact .inl ⟨rfl, rfl⟩

/-- An expression is its first term with the steps behind it, or goes on past an operator or a
question mark. -/
theorem conditional_cases {flags : Flags} {parsed : Parsed} {head : Term} {m : Cursor}
    (first : term nested flags c = some (head, m))
    (ran : conditional nested flags c = some (parsed, d)) :
    ∃ path m', steps nested (flags.newlines || head.newlines) m = some (path, m') ∧
      (parsed.expr = (if path.isEmpty then head.expr else .traversal head.expr path) ∧ d = m' ∨
        m'.Passes d) := by
  obtain ⟨found, e, chained, ran⟩ := bind_eq_some_iff.1 ran
  obtain ⟨asked, e', look, last⟩ := bind_eq_some_iff.1 ran
  obtain ⟨path, m', steps, chain⟩ := chain_cases first chained
  refine ⟨path, m', steps, ?_⟩
  rcases attempt_eq_some look with ⟨_, rfl, question⟩ | ⟨rfl, rfl⟩
  · obtain ⟨_, e₁, passed, question⟩ := bind_eq_some_iff.1 question
    obtain ⟨_, _, ⟨⟩, question⟩ := bind_eq_some_iff.1 question
    have branches (flags : Flags) : Forward (do
        blanks found.newlines
        let yes ← nested.expr flags
        blanks found.newlines
        exactly ":"
        blanks found.newlines
        let no ← nested.expr flags
        return (⟨.conditional found.expr yes.expr no.expr, none⟩ : Parsed)) := inferInstance
    have further : e'.Reaches d := (branches _).reaches last
    split at question
    · have sign : e.Passes e' :=
        (Forward.reaches passed).passes (passes_exactly question (by decide))
      refine .inr ?_
      rcases chain with ⟨-, rfl⟩ | chain
      · exact sign.reaches further
      · exact chain.trans (sign.reaches further)
    · cases question
  · cases last
    exact chain

/-- Where nothing is passed behind the first term, it is all of the expression. -/
theorem expr_eq_of_term {flags : Flags} {parsed : Parsed} {head : Term} {m : Cursor}
    (first : term nested flags c = some (head, m))
    (ran : conditional nested flags c = some (parsed, d)) (last : ¬ m.Passes d) :
    parsed.expr = head.expr := by
  obtain ⟨path, m', steps, ended⟩ := conditional_cases first ran
  rcases steps_cases steps with ⟨rfl, rfl, -⟩ | ⟨found, others, m₁, rfl, read, further⟩
  · rcases ended with ⟨found, -⟩ | passes
    · exact found
    · exact absurd passes last
  · have passes : m.Passes m' := by
      rcases further with ⟨-, rfl⟩ | further
      · exact passes_nextStep read
      · exact (passes_nextStep read).trans further
    rcases ended with ⟨-, rfl⟩ | passes'
    · exact absurd passes last
    · exact absurd (passes.trans passes') last

/-- Where nothing is passed behind the first step, the expression ends there. -/
theorem expr_eq_of_step {flags : Flags} {parsed : Parsed} {head : Term} {found : SourceStep}
    {m m₁ : Cursor} (first : term nested flags c = some (head, m))
    (read : nextStep nested (flags.newlines || head.newlines) m = some (found, m₁))
    (ran : conditional nested flags c = some (parsed, d)) (last : ¬ m₁.Passes d) :
    parsed.expr = .traversal head.expr [found] ∧ d = m₁ := by
  obtain ⟨path, m', steps, ended⟩ := conditional_cases first ran
  rcases steps_cases steps with ⟨-, -, none | none⟩ | ⟨found', others, _, rfl, read', further⟩
  · cases read.symm.trans none
  · obtain ⟨_, rest, x, inside, -⟩ := passes_nextStep read
    rw [none] at rest
    rw [(List.append_eq_nil_iff.1 rest.symm).1] at inside
    cases inside
  · cases read.symm.trans read'
    rcases further with ⟨rfl, rfl⟩ | passes
    · rcases ended with ⟨found, rfl⟩ | passes
      · exact ⟨found, rfl⟩
      · exact absurd passes last
    · rcases ended with ⟨-, rfl⟩ | passes'
      · exact absurd passes last
      · exact absurd (passes.trans passes') last

end Reader

/-! ## Texts without blanks around them -/

namespace Text

theorem eq_trimRight_append (cs : List Char) :
    ∃ blanks, cs = trimRight cs ++ blanks ∧ ∀ c ∈ blanks, isBlank c = true := by
  refine ⟨(cs.reverse.takeWhile isBlank).reverse, ?_, fun c member => ?_⟩
  · rw [trimRight, ← List.reverse_append, List.takeWhile_append_dropWhile, List.reverse_reverse]
  · exact List.mem_takeWhile_imp (List.mem_reverse.1 member)

/-- Where no blank stands in front of a text, it is what is left of it and blanks behind that. -/
theorem eq_trimBlank_append {cs : List Char} (solid : ∀ c ∈ cs.head?, isBlank c = false) :
    ∃ blanks, cs = trimBlank cs ++ blanks ∧ ∀ c ∈ blanks, isBlank c = true := by
  have front : cs.dropWhile isBlank = cs := by
    cases cs with
    | nil => rfl
    | cons c cs => rw [List.dropWhile_cons_of_neg (by simp [solid c rfl])]
  rw [trimBlank, front]
  exact eq_trimRight_append cs

theorem inRanges_extend_of_mem_wideBlanks :
    ∀ n ∈ wideBlanks, inRanges idExtendRanges n = false := by
  simp only [inRanges_eq_any]
  decide +kernel

/-- No character of a name is a blank. -/
theorem isBlank_of_isIdContinue {c : Char} (continues : isIdContinue c = true) :
    isBlank c = false := by
  unfold isIdContinue at continues
  split at continues
  · next narrow =>
    simp only [Char.isAlphanum, Bool.or_eq_true, beq_iff_eq] at continues
    rcases continues with ((letter | digit) | rfl) | rfl
    · refine isBlank_of_isMargin (isMargin_of_isIdStart ?_)
      rw [isIdStart, if_pos narrow, letter, Bool.true_or]
    · exact isBlank_of_isMargin (isMargin_of_isDigit digit)
    · decide
    · decide
  · next wide =>
    rw [← Bool.not_eq_true]
    intro blank
    have member : c.toNat ∈ wideBlanks := by
      simp only [isBlank, Bool.or_eq_true, Bool.and_eq_true, decide_eq_true_eq, beq_iff_eq]
        at blank
      simp only [wideBlanks, List.mem_cons, List.not_mem_nil, or_false]
      omega
    rw [inRanges_of_mem_wideBlanks _ member, inRanges_extend_of_mem_wideBlanks _ member]
      at continues
    cases continues

end Text

/-- Where only blanks are left in between, nothing else is passed. -/
theorem Cursor.not_passes_of_blank {c d : Cursor} {blanks : List Char}
    (rest : c.rest = blanks ++ d.rest) (blank : ∀ x ∈ blanks, Text.isBlank x = true) :
    ¬ c.Passes d := by
  rintro ⟨read, rest', x, inside, solid⟩
  rw [List.append_cancel_right (rest'.symm.trans rest)] at inside
  rw [blank x inside] at solid
  cases solid

/-! ## Values -/

namespace Node.IsReadAt

variable {origin : Origin} {place : Cursor} {attr : Attribute}

/-- The value of an attribute is read from its text, with blanks behind it. -/
theorem exists_conditional (read : IsReadAt origin place (.key attr)) {text : List Char}
    (raw : attr.token.raw = String.ofList text) :
    ∃ depth c d parsed blanks,
      Reader.conditional (Reader.nestedTo (depth + 1)) ⟨false, false⟩ c = some (parsed, d) ∧
      attr.token.value = .expression parsed.expr.toExpr ∧
      c.rest = text ++ (blanks ++ d.rest) ∧ ∀ x ∈ blanks, Text.isBlank x = true := by
  cases read with
  | @key _ d ran =>
    obtain ⟨name, m, m', -, -, ran⟩ := Reader.setting_eq_some ran
    obtain ⟨c, parsed, -, value, rfl⟩ := Reader.settingValue_eq_some ran
    obtain ⟨x, rest, ahead, sound⟩ := Reader.isSolid_of_nestedTo value
    have whole := (Reader.Forward.reaches value).rest_eq
    have solid : ∀ y ∈ (c.between d).head?, Text.isBlank y = false := by
      intro y here
      obtain ⟨more, between⟩ := List.head?_eq_some_iff.1 here
      rw [ahead, between, List.cons_append] at whole
      cases whole
      exact Text.isBlank_of_isMargin sound
    obtain ⟨blanks, between, blank⟩ := Text.eq_trimBlank_append solid
    have trimmed : Text.trimBlank (c.between d) = text := String.ofList_injective raw
    rw [Reader.expr, ahead] at value
    refine ⟨rest.length, c, d, parsed, blanks, value, rfl, ?_, blank⟩
    rw [← List.append_assoc, ← trimmed, ← between]
    exact whole

/-- The value written as a plain template in quotes is the template. -/
theorem value_of_template (read : IsReadAt origin place (.key attr)) (template : PlainTemplate)
    (raw : attr.token.raw = String.ofList ('"' :: (template.chars ++ ['"']))) :
    attr.token.value = .expression template.expr := by
  obtain ⟨depth, c, d, parsed, blanks, ran, value, ahead, blank⟩ := read.exists_conditional raw
  have quoted : (Reader.term (Reader.nestedTo (depth + 1)) ⟨false, false⟩).Reads
      ('"' :: (template.chars ++ ['"'])) (blanks ++ d.rest) { expr := template.source } := by
    refine Reader.Reads.orElse ((Reader.reads_peek? _).bind_nil ?_)
    exact (Reader.reads_stringLike depth template _).bind_pure
  obtain ⟨next, first⟩ := quoted c.offset
  rw [← ahead] at first
  rw [value, Reader.expr_eq_of_term first ran (Cursor.not_passes_of_blank rfl blank)]
  rw [template.toExpr_source]

/-- The value written as a variable is the variable. -/
theorem value_of_variable (read : IsReadAt origin place (.key attr)) (name : VariableName)
    (raw : attr.token.raw = String.ofList name.written) :
    attr.token.value = .expression name.expr := by
  obtain ⟨depth, c, d, parsed, blanks, ran, value, ahead, blank⟩ := read.exists_conditional raw
  -- the step takes every character of a name that follows, and only blanks follow
  generalize run : (blanks ++ d.rest).takeWhile Text.isIdContinue = more
  obtain ⟨after, cut, all, stops⟩ := Text.takeWhile_eq_iff.1 run
  obtain ⟨offset, first⟩ := @Reader.reads_term (Reader.nestedTo (depth + 1)) ⟨false, false⟩
    (name.chars ++ (more ++ after)) c.offset
  obtain ⟨offset', second⟩ := @Reader.reads_nextStep (Reader.nestedTo (depth + 1)) after false
    name more all stops offset
  have here : c = ⟨"var".toList ++ '.' :: (name.chars ++ (more ++ after)), c.offset⟩ := by
    rw [← cut, ← List.cons_append, ← List.append_assoc]
    exact congrArg (Cursor.mk · c.offset) ahead
  rw [← here] at first
  rw [List.cons_append, List.append_assoc] at second
  have last : ¬ Cursor.Passes ⟨after, offset'⟩ d := by
    rintro ⟨read, rest, x, inside, solid⟩
    rw [show after = read ++ d.rest from rest, ← List.append_assoc] at cut
    rw [List.append_cancel_right cut] at blank
    rw [blank x (List.mem_append_right _ inside)] at solid
    cases solid
  obtain ⟨found, rfl⟩ := Reader.expr_eq_of_step first second ran last
  have none : more = [] := by
    rw [List.append_cancel_right cut] at blank
    refine List.eq_nil_iff_forall_not_mem.2 fun x inside => ?_
    have solid := Text.isBlank_of_isIdContinue (all x inside)
    rw [blank x inside] at solid
    cases solid
  rw [value, found, none, List.append_nil]
  rfl

end Node.IsReadAt

end InfraLint
