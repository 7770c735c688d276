import InfraLint.Proofs.KnownText
import InfraLint.Rule.Password

/-!
# Plain templates

A plain template is text with input variables set in, as in `"app-${var.name}-db"`.  Its text has no
character with a meaning of its own: no quote, no backslash, and none of the signs that open an
interpolation or a directive.  The names of its variables are made of ASCII characters.

In quotes, a plain template is read as the template with these parts, or as a string if no variable
is set in (`PlainTemplate.reads_stringLike`).
-/

namespace InfraLint

/-! ## Names and texts -/

namespace Text

theorem toNat_lt_of_isAlphanum {c : Char} (given : c.isAlphanum = true) : c.toNat < 0x80 := by
  unfold Char.isAlphanum Char.isAlpha Char.isUpper Char.isLower Char.isDigit at given
  simp only [Bool.or_eq_true, Bool.and_eq_true, decide_eq_true_eq, ge_iff_le,
    UInt32.le_iff_toNat_le] at given
  rcases given with (⟨-, below⟩ | ⟨-, below⟩) | ⟨-, below⟩ <;> exact below.trans_lt (by decide)

theorem isIdContinue_of_isInName {c : Char} (inside : Password.isInName c = true) :
    isIdContinue c = true := by
  have narrow : c.toNat < 0x80 := by
    simp only [Password.isInName, Bool.or_eq_true, beq_iff_eq] at inside
    rcases inside with (given | rfl) | rfl
    · exact toNat_lt_of_isAlphanum given
    · decide
    · decide
  rw [isIdContinue, if_pos narrow]
  exact inside

theorem isIdStart_of_startsName {c : Char} (starts : Password.startsName c = true) :
    isIdStart c = true := by
  have narrow : c.toNat < 0x80 := by
    simp only [Password.startsName, Bool.or_eq_true, beq_iff_eq] at starts
    rcases starts with letter | rfl
    · exact toNat_lt_of_isAlphanum (by rw [Char.isAlphanum, letter, Bool.true_or])
    · decide
  rw [isIdStart, if_pos narrow]
  exact starts

end Text

/-- The name of a variable in ASCII. -/
structure VariableName where
  first : Char
  more : List Char
  starts : Password.startsName first = true
  follow : ∀ c ∈ more, Password.isInName c = true

namespace VariableName

def chars (name : VariableName) : List Char := name.first :: name.more

def text (name : VariableName) : String := String.ofList name.chars

theorem isIdStart (name : VariableName) : Text.isIdStart name.first = true :=
  Text.isIdStart_of_startsName name.starts

theorem isDigit_first (name : VariableName) : name.first.isDigit = false := by
  have starts := name.starts
  generalize name.first = c at starts
  rw [← Bool.not_eq_true]
  intro digit
  simp only [Password.startsName, Bool.or_eq_true, beq_iff_eq] at starts
  rcases starts with letter | rfl
  · unfold Char.isDigit at digit
    unfold Char.isAlpha Char.isUpper Char.isLower at letter
    simp only [Bool.or_eq_true, Bool.and_eq_true, decide_eq_true_eq, ge_iff_le,
      UInt32.le_iff_toNat_le] at letter digit
    have nine : '9'.val.toNat = 57 := rfl
    have upper : 'A'.val.toNat = 65 := rfl
    have lower : 'a'.val.toNat = 97 := rfl
    omega
  · cases digit

theorem first_ne (name : VariableName) {c : Char} (other : Password.startsName c = false) :
    name.first ≠ c := by
  rintro rfl
  rw [name.starts] at other
  cases other

/-- The variable with the name, as it is written. -/
def written (name : VariableName) : List Char := "var".toList ++ '.' :: name.chars

/-- The variable with the name, as an expression. -/
def source (name : VariableName) : SourceExpr :=
  .traversal (.variable "var") [.member name.text]

end VariableName

/-- Whether a character of a text stands for itself wherever it stands. -/
def PlainText.isPlain (c : Char) : Bool := c != '"' && c != '\\' && c != '$' && c != '%'

/-- A text of which all characters stand for themselves. -/
structure PlainText where
  chars : List Char
  plain : ∀ c ∈ chars, PlainText.isPlain c = true

/-- The part of a template that a text is; an empty one is none. -/
def PlainText.parts (text : PlainText) : List SourcePart :=
  if text.chars = [] then [] else [.text text.chars]

/-- A text with variables set in. -/
inductive PlainTemplate where
  | ending (text : PlainText)
  | insert (front : PlainText) (name : VariableName) (rest : PlainTemplate)

namespace PlainTemplate

/-- The template as it is written. -/
def chars : PlainTemplate → List Char
  | .ending text => text.chars
  | .insert front name rest =>
    front.chars ++ ("$\x7b".toList ++ name.written ++ ['\x7d'] ++ rest.chars)

/-- The parts of the template. -/
def parts : PlainTemplate → List SourcePart
  | .ending text => text.parts
  | .insert front name rest =>
    front.parts ++ .interpolation ⟨false, false⟩ name.source :: rest.parts

/-- The names of the variables that are set in, from left to right. -/
def names : PlainTemplate → List String
  | .ending _ => []
  | .insert _ name rest => name.text :: rest.names

/-- The template as an expression: a string if no variable is set in. -/
def source : PlainTemplate → SourceExpr
  | .ending text => .string (String.ofList text.chars)
  | template@(.insert _ _ _) => .template template.parts

end PlainTemplate

/-! ## Reading a variable -/

namespace Reader

variable {nested : Nested} {rest : List Char}

theorem isClear_cons {c : Char} (solid : Text.isMargin c = false) (rest : List Char) :
    IsClear (c :: rest) := by
  rintro _ ⟨⟩
  exact solid

/-- No call stands behind a name that a dot follows. -/
theorem reads_identLike (flags : Flags) (rest : List Char) :
    (identLike nested flags).Reads "var".toList ('.' :: rest) (.variable "var", false) := by
  have word : identifier.Reads "var".toList ('.' :: rest) "var" :=
    reads_identifier (by decide) (List.all_eq_true.1 (by decide)) (by rintro _ ⟨⟩; decide)
  have clear : IsClear ('.' :: rest) := isClear_cons (by decide) rest
  have parts : (namespaced flags.newlines).Reads [] ('.' :: rest) [] := by
    refine (Repeats.stop ?_).many
    exact (reads_blanks flags.newlines clear).bind_fails (.bind (fails_exactly rfl))
  refine Reads.bind_last word ((Fails.attempt ?_).bind_nil (reads_pure _ _))
  refine parts.bind_fails ((reads_blanks flags.newlines clear).bind_fails ?_)
  exact .bind (.bind (fails_exactly rfl))

theorem reads_term (flags : Flags) (rest : List Char) :
    (term nested flags).Reads "var".toList ('.' :: rest) { expr := .variable "var" } := by
  refine Reads.orElse ((reads_peek? _).bind_nil ?_)
  exact (reads_identLike flags rest).bind_pure

/-- A step to a member goes as far as its name. -/
theorem reads_step (name : VariableName) {more : List Char}
    (all : ∀ c ∈ more, Text.isIdContinue c = true)
    (stops : ∀ c ∈ rest.head?, Text.isIdContinue c = false) :
    (step nested).Reads ('.' :: (name.chars ++ more)) rest
      (.member (String.ofList (name.chars ++ more))) := by
  have read : identifier.Reads (name.chars ++ more) rest (String.ofList (name.chars ++ more)) := by
    refine reads_identifier name.isIdStart (fun c member => ?_) stops
    rcases List.mem_append.1 member with member | member
    · exact Text.isIdContinue_of_isInName (name.follow c member)
    · exact all c member
  have clear : IsClear (name.chars ++ more ++ rest) :=
    isClear_cons (Text.isMargin_of_isIdStart name.isIdStart) _
  have star : (exactly "*").Fails (name.chars ++ more ++ rest) :=
    fails_exactly (Text.afterLead?_eq_none_of_head? rfl fun here =>
      name.first_ne (by decide) (Option.some.inj here))
  have digit : indexNumber.Fails (name.chars ++ more ++ rest) :=
    .bind (fails_satisfy fun c here => Option.some.inj here ▸ name.isDigit_first)
  refine .orElse ((reads_exactly "." _).bind ((reads_anyBlanks clear).bind_nil ?_))
  exact Fails.orElse (.bind star) (Fails.orElse (.bind digit) read.bind_pure)

/-- What reads one of the steps behind a term, with the blanks in front of it. -/
abbrev nextStep (nested : Nested) (newlines : Bool) : Reader SourceStep := do
  blanks newlines
  if stepAhead (← here) then step nested else failure

theorem reads_nextStep (newlines : Bool) (name : VariableName) {more : List Char}
    (all : ∀ c ∈ more, Text.isIdContinue c = true)
    (stops : ∀ c ∈ rest.head?, Text.isIdContinue c = false) :
    (nextStep nested newlines).Reads ('.' :: (name.chars ++ more)) rest
      (.member (String.ofList (name.chars ++ more))) := by
  refine (reads_blanks newlines (isClear_cons (by decide) _)).bind_nil (reads_here fun offset => ?_)
  have ahead : stepAhead ⟨'.' :: (name.chars ++ more) ++ rest, offset⟩ = true := by
    have dot : name.first ≠ '.' := name.first_ne (by decide)
    simp [stepAhead, VariableName.chars]
  rw [ahead, if_pos rfl]
  exact reads_step name all stops

/-- Steps end in front of a text that opens none. -/
theorem reads_steps (newlines : Bool) (name : VariableName) (rest : List Char) :
    (steps nested newlines).Reads ('.' :: name.chars) ('\x7d' :: rest) [.member name.text] := by
  have clear : IsClear ('\x7d' :: rest) := isClear_cons (by decide) rest
  have stop : (nextStep nested newlines).Fails ('\x7d' :: rest) :=
    (reads_blanks newlines clear).bind_fails (fails_here fun _ => fails_failure _)
  have first : (nextStep nested newlines).Reads ('.' :: name.chars) ('\x7d' :: rest)
      (.member name.text) := by
    have read := @reads_nextStep nested ('\x7d' :: rest) newlines name [] (List.forall_mem_nil _)
      (by rintro _ ⟨⟩; decide)
    rwa [List.append_nil] at read
  have found : (many (nextStep nested newlines)).Reads ('.' :: name.chars) ('\x7d' :: rest)
      [.member name.text] := by
    rw [← List.append_nil ('.' :: name.chars)]
    exact (Repeats.more (List.cons_ne_nil _ _) first (.stop stop)).many
  refine found.bind_last ((Fails.attempt ?_).bind_nil (reads_pure _ _))
  exact (reads_blanks newlines clear).bind_fails (fails_here fun _ => fails_failure _)

theorem fails_binaryOp (rest : List Char) : binaryOp.Fails ('\x7d' :: rest) := by
  refine (reads_startsWith _ _).bind_fails ((reads_startsWith _ _).bind_fails ?_)
  intro offset
  rfl

/-- A variable in front of a closing brace is all of an expression. -/
theorem reads_multiline (depth : Nat) (name : VariableName) (rest : List Char) :
    (multiline (nestedTo (depth + 1))).Reads name.written ('\x7d' :: rest) name.source := by
  have clear : IsClear ('\x7d' :: rest) := isClear_cons (by decide) rest
  have passed := reads_blanks true clear
  have noOperator : (blanks true *> binaryOp).Fails ('\x7d' :: rest) := by
    rw [seqRight_eq_bind]
    exact passed.bind_fails (fails_binaryOp rest)
  have chained : (chain (nestedTo depth) ⟨true, false⟩).Reads name.written ('\x7d' :: rest)
      ⟨name.source, none, true⟩ := by
    refine Reads.bind (reads_term _ (name.chars ++ '\x7d' :: rest)) ?_
    exact (reads_steps true name rest).bind_last (noOperator.attempt.bind_nil (reads_pure _ _))
  have noQuestion : (do
      blanks true
      if !false && questionAhead (← here) then exactly "?" else failure).Fails
        ('\x7d' :: rest) :=
    passed.bind_fails (fails_here fun _ => fails_failure _)
  have read : (conditional (nestedTo depth) ⟨true, false⟩).Reads name.written ('\x7d' :: rest)
      ⟨name.source, none⟩ :=
    chained.bind_last (noQuestion.attempt.bind_nil (reads_pure _ _))
  exact Reads.bind_pure (f := Parsed.expr) read

theorem reads_interpolation (depth : Nat) (name : VariableName) (rest : List Char) :
    (interpolation (nestedTo (depth + 1))).Reads ("$\x7b".toList ++ name.written ++ ['\x7d']) rest
      (.interpolation ⟨false, false⟩ name.source) := by
  have front : IsClear (name.written ++ ['\x7d'] ++ rest) := isClear_cons (by decide) _
  have back : IsClear ('\x7d' :: rest) := isClear_cons (by decide) rest
  have marked : (control "$\x7b" (multiline (nestedTo (depth + 1)))).Reads
      ("$\x7b".toList ++ (name.written ++ ['\x7d'])) rest (⟨false, false⟩, name.source) := by
    refine (reads_exactly _ _).bind ?_
    refine (reads_accept_of_none rfl).bind_nil ((reads_anyBlanks front).bind_nil ?_)
    refine (reads_multiline depth name rest).bind ?_
    refine (reads_anyBlanks back).bind_nil ((reads_accept_of_none rfl).bind_nil ?_)
    exact (reads_exactly "\x7d" rest).bind_last (reads_pure _ _)
  rw [List.append_assoc]
  exact marked.bind_last (reads_pure _ _)

/-! ## Reading text -/

/-- A reader of the characters of a text that stops in front of `stop`, and in front of an
interpolation. -/
structure ReadsText (char : Reader (List Char)) (stop : List Char) : Prop where
  plain {c : Char} : PlainText.isPlain c = true → ∀ rest, char.Reads [c] rest [c]
  opening : ∀ rest, char.Fails ("$\x7b".toList ++ rest)
  stops : char.Fails stop

/-- Neither sign that opens an interpolation or a directive stands here. -/
def IsUnsigned (rest : List Char) : Prop := rest.head? ≠ some '$' ∧ rest.head? ≠ some '%'

theorem reads_notOpening (unsigned : IsUnsigned rest) : notOpening.Reads [] rest () := by
  have dollar : Text.afterLead? "$\x7b".toList rest = none :=
    Text.afterLead?_eq_none_of_head? rfl unsigned.1
  have percent : Text.afterLead? "%\x7b".toList rest = none :=
    Text.afterLead?_eq_none_of_head? rfl unsigned.2
  refine (reads_startsWith _ _).bind_nil ((reads_startsWith _ _).bind_nil ?_)
  rw [List.nil_append, dollar, percent]
  exact reads_pure () rest

theorem fails_notOpening (rest : List Char) : notOpening.Fails ("$\x7b".toList ++ rest) := by
  refine (reads_startsWith _ _).bind_fails ((reads_startsWith _ _).bind_fails ?_)
  exact fails_failure _

theorem fails_escapedOpening (unsigned : IsUnsigned rest) : escapedOpening.Fails rest :=
  .orElse_fails (.bind (fails_exactly (Text.afterLead?_eq_none_of_head? rfl unsigned.1)))
    (.bind (fails_exactly (Text.afterLead?_eq_none_of_head? rfl unsigned.2)))

theorem isUnsigned_of_isPlain {c : Char} (plain : PlainText.isPlain c = true) (rest : List Char) :
    IsUnsigned (c :: rest) := by
  simp only [PlainText.isPlain, Bool.and_eq_true, bne_iff_ne] at plain
  exact ⟨fun here => plain.1.2 (Option.some.inj here), fun here => plain.2 (Option.some.inj here)⟩

theorem readsText_quotedChar (rest : List Char) : ReadsText quotedChar ('"' :: rest) where
  plain {c} plain rest := by
    have unsigned := isUnsigned_of_isPlain plain rest
    simp only [PlainText.isPlain, Bool.and_eq_true, bne_iff_ne] at plain
    have backslash : (exactly "\\").Fails (c :: rest) :=
      fails_exactly (Text.afterLead?_eq_none_of_head? rfl fun here =>
        plain.1.1.2 (Option.some.inj here))
    refine Fails.orElse (fails_escapedOpening unsigned) (Fails.orElse (.bind (.bind backslash)) ?_)
    refine (reads_notOpening unsigned).bind_nil (Reads.bind_pure (reads_satisfy ?_ rest))
    simpa using plain.1.1
  opening rest := by
    refine .orElse_fails (.orElse_fails (.bind (fails_exactly rfl)) (.bind (fails_exactly rfl))) ?_
    exact .orElse_fails (.bind (.bind (fails_exactly rfl))) (.bind (fails_notOpening rest))
  stops := by
    have unsigned : IsUnsigned ('"' :: rest) := ⟨by simp, by simp⟩
    refine .orElse_fails (fails_escapedOpening unsigned) (.orElse_fails ?_ ?_)
    · exact .bind (.bind (fails_exactly rfl))
    · exact (reads_notOpening unsigned).bind_fails (.bind (fails_satisfy (by rintro _ ⟨⟩; rfl)))

theorem readsText_plainChar : ReadsText plainChar [] where
  plain {c} plain rest := by
    have unsigned := isUnsigned_of_isPlain plain rest
    refine Fails.orElse (fails_escapedOpening unsigned) ?_
    exact (reads_notOpening unsigned).bind_nil (Reads.bind_pure (reads_satisfy rfl rest))
  opening rest := by
    refine .orElse_fails (.orElse_fails (.bind (fails_exactly rfl)) (.bind (fails_exactly rfl))) ?_
    exact .bind (fails_notOpening rest)
  stops := by
    have unsigned : IsUnsigned [] := ⟨by decide, by decide⟩
    refine .orElse_fails (fails_escapedOpening unsigned) ?_
    exact (reads_notOpening unsigned).bind_fails (.bind (fails_satisfy (by rintro _ ⟨⟩)))

namespace ReadsText

variable {char : Reader (List Char)} {stop : List Char}

theorem repeats (reads : ReadsText char stop) (ends : char.Fails rest) {cs : List Char}
    (plain : ∀ c ∈ cs, PlainText.isPlain c = true) :
    Repeats char rest cs (cs.map ([·])) := by
  induction cs with
  | nil => exact .stop ends
  | cons c cs ih =>
      obtain ⟨first, others⟩ := List.forall_mem_cons.1 plain
      exact .more (List.cons_ne_nil c []) (reads.plain first _) (ih others)

/-- A text is read as a whole where its reader stops behind it. -/
theorem textOf (reads : ReadsText char stop) (ends : char.Fails rest) (text : PlainText)
    (some : text.chars ≠ []) : (textOf char).Reads text.chars rest text.chars := by
  refine Reads.bind_last (reads.repeats ends text.plain).many ?_
  have full : (text.chars.map ([·])).isEmpty = false := by simpa using some
  rw [full, ← List.flatMap_def, List.flatMap_singleton']
  exact reads_pure _ _

theorem fails_textOf (ends : char.Fails rest) : (Reader.textOf char).Fails rest :=
  Reads.bind_fails (Repeats.stop ends).many (fails_failure rest)

end ReadsText

/-! ## Reading templates -/

/-- What reads one part of a template. -/
abbrev part (nested : Nested) (char : Reader (List Char)) (inner : Reader (List SourcePart)) :
    Reader SourcePart :=
  (do return .text (← textOf char)) <|> interpolation nested <|> choiceDirective nested inner <|>
    loopDirective nested inner

variable {char : Reader (List Char)} {stop : List Char} {inner : Reader (List SourcePart)}

/-- Text in front of other parts is a part if there is any. -/
theorem ReadsText.repeats_part (reads : ReadsText char stop) (text : PlainText)
    {others : List Char} {parts : List SourcePart} (ends : char.Fails (others ++ rest))
    (rests : Repeats (part nested char inner) rest others parts) :
    Repeats (part nested char inner) rest (text.chars ++ others) (text.parts ++ parts) := by
  unfold PlainText.parts
  split
  · next none => rwa [none]
  · next some => exact .more some (.orElse (reads.textOf ends text some).bind_pure) rests

/-- A plain template is read part by part. -/
theorem ReadsText.repeats_template (reads : ReadsText char stop) (depth : Nat)
    (ends : (part (nestedTo (depth + 1)) char inner).Fails stop) (template : PlainTemplate) :
    Repeats (part (nestedTo (depth + 1)) char inner) stop template.chars template.parts := by
  induction template with
  | ending text =>
      rw [PlainTemplate.chars, PlainTemplate.parts, ← List.append_nil text.chars,
        ← List.append_nil text.parts]
      exact reads.repeats_part text reads.stops (.stop ends)
  | insert front name rest ih =>
      refine reads.repeats_part front ?_ (.more (by simp) ?_ ih)
      · simp only [List.append_assoc]
        exact reads.opening _
      · refine Fails.orElse (.bind (ReadsText.fails_textOf ?_))
          (.orElse (reads_interpolation depth name _))
        simp only [List.append_assoc]
        exact reads.opening _

theorem ReadsText.templateParts (reads : ReadsText char stop) (depth : Nat)
    (ends : ∀ inner, (part (nestedTo (depth + 1)) char inner).Fails stop)
    (template : PlainTemplate) :
    (templateParts (nestedTo (depth + 1)) char).Reads template.chars stop template.parts := by
  intro offset
  exact (reads.repeats_template depth (ends _) template).many offset

/-- No part starts with a sign other than those of an interpolation and a directive. -/
theorem fails_part (ends : char.Fails rest) (unsigned : IsUnsigned rest) :
    (part nested char inner).Fails rest := by
  have dollar : (exactly "$\x7b").Fails rest :=
    fails_exactly (Text.afterLead?_eq_none_of_head? rfl unsigned.1)
  have percent : (exactly "%\x7b").Fails rest :=
    fails_exactly (Text.afterLead?_eq_none_of_head? rfl unsigned.2)
  refine .orElse_fails (.bind (ReadsText.fails_textOf ends)) (.orElse_fails ?_ (.orElse_fails ?_ ?_))
  · exact .bind (.bind dollar)
  · exact .bind (.bind percent)
  · exact .bind (.bind percent)

/-- A string ends at an interpolation, and not at a quote. -/
theorem fails_quotedString (front : PlainText) (rest : List Char) :
    quotedString.Fails ('"' :: (front.chars ++ ("$\x7b".toList ++ rest))) := by
  have reads := (readsText_quotedChar []).repeats ((readsText_quotedChar []).opening rest)
    front.plain
  exact (reads_exactly "\"" _).bind_fails (reads.many.bind_fails (.bind (fails_exactly rfl)))

/-- In quotes, a plain template is read as what it is. -/
theorem reads_stringLike (depth : Nat) (template : PlainTemplate) (rest : List Char) :
    (stringLike (nestedTo (depth + 1))).Reads ('"' :: (template.chars ++ ['"'])) rest
      template.source := by
  have reads := readsText_quotedChar rest
  cases template with
  | ending text =>
      have string : quotedString.Reads ('"' :: (text.chars ++ ['"'])) rest
          (String.ofList text.chars) := by
        refine (reads_exactly "\"" _).bind ((reads.repeats reads.stops text.plain).many.bind ?_)
        rw [← List.flatMap_def, List.flatMap_singleton']
        exact (reads_exactly "\"" rest).bind_last (reads_pure _ _)
      exact .orElse string.bind_pure
  | insert front name others =>
      refine Fails.orElse (.bind ?_) ?_
      · simp only [PlainTemplate.chars, List.cons_append, List.append_assoc]
        exact fails_quotedString front _
      · refine (reads_exactly "\"" _).bind ((reads.templateParts depth ?_ _).bind ?_)
        · exact fun inner => fails_part reads.stops ⟨by simp, by simp⟩
        · exact (reads_exactly "\"" rest).bind_last (reads_pure _ _)

/-- A plain template that is all of a text. -/
theorem reads_wholeTemplate (template : PlainTemplate) :
    wholeTemplate.Reads template.chars [] template.parts := by
  have ended : atEnd.Reads [] [] () := fun offset => ⟨offset, rfl⟩
  have ends (depth : Nat) (inner : Reader (List SourcePart)) :
      (part (nestedTo (depth + 1)) plainChar inner).Fails [] :=
    fails_part readsText_plainChar.stops ⟨by simp, by simp⟩
  have read (depth : Nat) : (templateParts (nestedTo (depth + 1)) plainChar <* atEnd).Reads
      template.chars [] template.parts := by
    rw [seqLeft_eq_bind]
    exact (readsText_plainChar.templateParts depth (ends depth) template).bind_last
      (ended.bind_pure)
  exact fun offset => read _ offset

end Reader

/-! ## Meaning -/

/-- The part of a template that a text means. -/
def PlainText.meaning (text : PlainText) : List TemplatePart :=
  if text.chars = [] then [] else [.literal (String.ofList text.chars)]

/-- The variable with the name. -/
def VariableName.expr (name : VariableName) : Expr :=
  .traversal (.variable "var") [.member name.text]

namespace PlainTemplate

/-- The parts of the template that a plain template means. -/
def meaning : PlainTemplate → List TemplatePart
  | .ending text => text.meaning
  | .insert front name rest => front.meaning ++ .interpolation name.expr :: rest.meaning

/-- The expression that a plain template in quotes means. -/
def expr : PlainTemplate → Expr
  | .ending text => .string (String.ofList text.chars)
  | template@(.insert _ _ _) => .template template.meaning

end PlainTemplate

theorem Quoted.escapeMarkers_eq_self {cs : List Char}
    (plain : ∀ c ∈ cs, PlainText.isPlain c = true) : escapeMarkers cs = cs := by
  induction cs using escapeMarkers.induct with
  | case1 => rfl
  | case2 c => rfl
  | case3 c d rest signs =>
      have first := plain c List.mem_cons_self
      simp only [PlainText.isPlain, Bool.and_eq_true, bne_iff_ne] at first
      simp [first.2, first.1.2] at signs
  | case4 c d rest signs ih =>
      rw [escapeMarkers, if_neg signs, ih fun other member =>
        plain other (List.mem_cons_of_mem _ member)]

namespace PlainTemplate

theorem writeAll_text (text : PlainText) (parts : List SourcePart) :
    SourcePart.writeAll (text.parts ++ parts) false =
      (String.ofList text.chars ++ (SourcePart.writeAll parts false).1,
        (SourcePart.writeAll parts false).2) := by
  unfold PlainText.parts
  split
  · next none =>
    rw [none, List.nil_append, String.ofList_nil, String.empty_append]
    rfl
  · have written : Writing.text text.chars false = (String.ofList text.chars, false) := by
      show (String.ofList (Quoted.escapeMarkers text.chars), false) = _
      rw [Quoted.escapeMarkers_eq_self text.plain]
    show ((Writing.text text.chars false).1 ++ _, _) = _
    rw [written]
    rfl

/-- A plain template is written down as it is. -/
theorem writeAll_parts (template : PlainTemplate) :
    SourcePart.writeAll template.parts false = (String.ofList template.chars, false) := by
  induction template with
  | ending text =>
      rw [parts, chars, ← List.append_nil text.parts, writeAll_text]
      show (String.ofList text.chars ++ "", false) = _
      rw [String.append_empty]
  | insert front name rest ih =>
      have inserted : SourcePart.writeAll
          (.interpolation ⟨false, false⟩ name.source :: rest.parts) false =
            (String.ofList ("$\x7b".toList ++ name.written ++ ['\x7d'] ++ rest.chars), false) := by
        show ("$\x7b" ++ "" ++ ("var" ++ "" ++ ("." ++ name.text ++ "")) ++ "" ++ "\x7d" ++
          (SourcePart.writeAll rest.parts false).1, (SourcePart.writeAll rest.parts false).2) = _
        rw [ih]
        refine Prod.ext (String.toList_inj.1 ?_) rfl
        simp [VariableName.written, VariableName.text]
      rw [parts, chars, writeAll_text, inserted]
      exact Prod.ext String.ofList_append.symm rfl

theorem meanings_text (reread : String → List TemplatePart) (text : PlainText)
    {parts : List SourcePart} (unmarked : SourcePart.trimsBefore false parts = false) :
    SourcePart.meanings reread false false (text.parts ++ parts) =
      text.meaning ++ SourcePart.meanings reread false false parts := by
  unfold PlainText.parts PlainText.meaning
  split
  · rfl
  · rw [List.singleton_append, SourcePart.meanings, unmarked]
    rfl

theorem meanings_parts (reread : String → List TemplatePart) (template : PlainTemplate) :
    SourcePart.meanings reread false false template.parts = template.meaning := by
  induction template with
  | ending text =>
      rw [parts, ← List.append_nil text.parts, meanings_text reread text rfl, SourcePart.meanings,
        List.append_nil]
      rfl
  | insert front name rest ih =>
      rw [parts, meanings_text reread front rfl, SourcePart.meanings, ih]
      rfl

theorem read_chars (template : PlainTemplate) :
    TemplatePart.read (String.ofList template.chars) = template.meaning := by
  obtain ⟨next, ran⟩ := Reader.reads_wholeTemplate template 0
  rw [List.append_nil] at ran
  rw [TemplatePart.read, TemplatePart.readTo, Cursor.start, String.toList_ofList, ran]
  exact meanings_parts _ template

theorem toExpr_source (template : PlainTemplate) : template.source.toExpr = template.expr := by
  cases template with
  | ending text => rfl
  | insert front name rest =>
      have read := read_chars (.insert front name rest)
      show Expr.template (TemplatePart.read (SourcePart.textOf _)) = _
      rw [SourcePart.textOf, writeAll_parts, read]
      rfl

end PlainTemplate

end InfraLint
