import InfraLint.Proofs.ListForms
import InfraLint.Proofs.ValueTexts

/-!
# Names of input variables

An expression references input variables by name, as in `var.name` and `var["name"]`
(`Expr.inputs`).  The text that it is read from mentions names too (`Password.Mentions`).  The text
is searched from left to right, and what has been taken for a name mentions no other one.

The two need not agree.  A string or a comment can mention a name that is not referenced, and a
reference need not look like one.  They do agree where the value is written as a variable or as a
plain template of which no text mentions a name (`Attribute.IsParsed.mentionsInputs`): the signs
around a text and around a variable end every name (`Password.Mentions.append`).
-/

namespace InfraLint

/-! ## References -/

/-- Whether a `for` has a variable that hides the input variables. -/
def Binder.hidesInputs (binder : Binder) : Bool :=
  binder.value == "var" || binder.key == some "var"

/-- The name of the input variable that a traversal starts with. -/
def Expr.input? : Expr → List Step → Option String
  | .variable "var", .member name :: _ => some name
  | .variable "var", .index (.string name) :: _ => some name
  | _, _ => none

mutual

/-- The names of the input variables that an expression references, unless they are hidden. -/
def Expr.inputs (hidden : Bool) : Expr → List String
  | .null | .bool _ | .number _ | .string _ | .variable _ => []
  | .array items | .call _ items => Expr.allInputs hidden items
  | .object items => ObjectItem.allInputs hidden items
  | .template parts | .heredoc parts => TemplatePart.allInputs hidden parts
  | .traversal base steps =>
    (if hidden then [] else (base.input? steps).toList) ++ base.inputs hidden ++
      Step.allInputs hidden steps
  | .paren e | .unary _ e => e.inputs hidden
  | .conditional test yes no => test.inputs hidden ++ yes.inputs hidden ++ no.inputs hidden
  | .binary l _ r => l.inputs hidden ++ r.inputs hidden
  | .forList binder collection value condition =>
    let inside := hidden || binder.hidesInputs
    collection.inputs hidden ++ value.inputs inside ++ condition.inputs inside
  | .forObject binder collection key value condition _ =>
    let inside := hidden || binder.hidesInputs
    collection.inputs hidden ++ key.inputs inside ++ value.inputs inside ++
      condition.inputs inside

/-- The names of the input variables that the expressions of a list reference. -/
def Expr.allInputs (hidden : Bool) : List Expr → List String
  | [] => []
  | e :: rest => e.inputs hidden ++ Expr.allInputs hidden rest

/-- The names of the input variables that the key of an object entry references. -/
def ObjectKey.inputs (hidden : Bool) : ObjectKey → List String
  | .name _ => []
  | .computed e => e.inputs hidden

/-- The names of the input variables that the entries of an object reference. -/
def ObjectItem.allInputs (hidden : Bool) : List ObjectItem → List String
  | [] => []
  | .mk key value :: rest =>
    key.inputs hidden ++ value.inputs hidden ++ ObjectItem.allInputs hidden rest

/-- The names of the input variables that the steps of a traversal reference. -/
def Step.allInputs (hidden : Bool) : List Step → List String
  | [] => []
  | .index key :: rest => key.inputs hidden ++ Step.allInputs hidden rest
  | _ :: rest => Step.allInputs hidden rest

/-- The names of the input variables that the parts of a template reference. -/
def TemplatePart.allInputs (hidden : Bool) : List TemplatePart → List String
  | [] => []
  | .literal _ :: rest | .unreadable :: rest => TemplatePart.allInputs hidden rest
  | .interpolation e :: rest => e.inputs hidden ++ TemplatePart.allInputs hidden rest
  | .choice test yes no :: rest =>
    test.inputs hidden ++ TemplatePart.allInputs hidden yes ++ TemplatePart.allInputs hidden no ++
      TemplatePart.allInputs hidden rest
  | .loop binder collection body :: rest =>
    collection.inputs hidden ++ TemplatePart.allInputs (hidden || binder.hidesInputs) body ++
      TemplatePart.allInputs hidden rest

end

/-- The names of the input variables that the expression of a token references. -/
def Token.inputs (token : Token) : List String :=
  token.expression?.elim [] (Expr.inputs false)

/-! ## Mentions -/

namespace Password

/-- A variable stands in front of `rest` at the start of a text: the character before it belongs to
no word, and the one behind it to no name. -/
structure StandsAt (before : Option Char) (cs : List Char) (name : VariableName)
    (rest : List Char) : Prop where
  text : cs = name.written ++ rest
  free : Text.startsWord before = true
  whole : ∀ c ∈ rest.head?, isInName c = false

/-- The names mentioned in a text that stands behind `before`, from left to right. -/
inductive Mentions : Option Char → List Char → List String → Prop where
  | ended {before : Option Char} : Mentions before [] []
  | named {before : Option Char} {cs rest : List Char} {name : VariableName}
      {names : List String} :
      StandsAt before cs name rest → Mentions name.chars.getLast? rest names →
      Mentions before cs (name.text :: names)
  | passed {before : Option Char} {c : Char} {cs : List Char} {names : List String} :
      (∀ name rest, ¬ StandsAt before (c :: cs) name rest) → Mentions (some c) cs names →
      Mentions before (c :: cs) names

variable {before : Option Char} {cs rest : List Char} {name : VariableName}

theorem length_written (name : VariableName) : name.written.length = name.chars.length + 4 := by
  simp [VariableName.written]

theorem reference?_of_standsAt (stands : StandsAt before cs name rest) :
    reference? before cs = some (name.text, name.written.length) := by
  obtain ⟨rfl, free, whole⟩ := stands
  have text : name.written ++ rest = "var.".toList ++ name.first :: (name.more ++ rest) := by
    simp [VariableName.written, VariableName.chars]
  have more : (name.more ++ rest).takeWhile isInName = name.more :=
    Text.takeWhile_eq_iff.2 ⟨rest, rfl, name.follow, whole⟩
  rw [reference?, text, Text.afterLead?_append]
  simp only [free, name.starts, Bool.and_self, if_true, more]
  rw [length_written]
  rfl

theorem exists_standsAt_of_reference? {found : String × Nat}
    (given : reference? before cs = some found) : ∃ name rest, StandsAt before cs name rest := by
  unfold reference? at given
  split at given
  · next c rest lead =>
    split at given
    · next starts =>
      obtain ⟨free, starts⟩ := Bool.and_eq_true_iff.1 starts
      generalize run : rest.takeWhile isInName = more at given
      obtain ⟨behind, rfl, follow, whole⟩ := Text.takeWhile_eq_iff.1 run
      refine ⟨⟨c, more, starts, follow⟩, behind, ?_, free, whole⟩
      rw [Text.eq_append_of_afterLead? lead]
      simp [VariableName.written, VariableName.chars]
    · cases given
  · cases given

/-- Skipping what has been read. -/
theorem mentionedFrom_append (before : Option Char) (read rest : List Char) :
    mentionedFrom before read.length (read ++ rest) =
      mentionedFrom (read.getLast?.or before) 0 rest := by
  induction read generalizing before with
  | nil => rfl
  | cons c read ih =>
      show mentionedFrom (some c) read.length (read ++ rest) = _
      rw [ih, List.getLast?_cons]
      cases read.getLast? <;> rfl

theorem mentionedFrom_of_standsAt (stands : StandsAt before cs name rest) :
    mentionedFrom before 0 cs = name.text :: mentionedFrom name.chars.getLast? 0 rest := by
  have found := reference?_of_standsAt stands
  obtain ⟨rfl, -, -⟩ := stands
  have front : name.written = 'v' :: ("ar.".toList ++ name.chars) := rfl
  have last : (("ar.".toList ++ name.chars).getLast?.or (some 'v')) = name.chars.getLast? := by
    simp [VariableName.chars, List.getLast?_cons]
  rw [front, List.cons_append] at found ⊢
  rw [mentionedFrom, found, ← last]
  exact congrArg (name.text :: ·) (mentionedFrom_append _ _ rest)

theorem mentionedFrom_of_not_standsAt {c : Char}
    (none : ∀ name rest, ¬ StandsAt before (c :: cs) name rest) :
    mentionedFrom before 0 (c :: cs) = mentionedFrom (some c) 0 cs := by
  have absent : reference? before (c :: cs) = .none := by
    refine Option.eq_none_iff_forall_ne_some.2 fun found given => ?_
    obtain ⟨name, rest, stands⟩ := exists_standsAt_of_reference? given
    exact none name rest stands
  rw [mentionedFrom, absent]

theorem Mentions.mentionedFrom_eq {names : List String} (mentions : Mentions before cs names) :
    mentionedFrom before 0 cs = names := by
  induction mentions with
  | ended => rfl
  | named stands _ ih => rw [mentionedFrom_of_standsAt stands, ih]
  | passed none _ ih => rw [mentionedFrom_of_not_standsAt none, ih]

theorem mentions_mentionedFrom (before : Option Char) (cs : List Char) :
    Mentions before cs (mentionedFrom before 0 cs) := by
  by_cases here : ∃ name rest, StandsAt before cs name rest
  · obtain ⟨name, rest, stands⟩ := here
    have shorter : rest.length < cs.length := by
      rw [stands.text, List.length_append, length_written]
      omega
    rw [mentionedFrom_of_standsAt stands]
    exact .named stands (mentions_mentionedFrom _ rest)
  · have none : ∀ name rest, ¬ StandsAt before cs name rest := fun name rest stands =>
      here ⟨name, rest, stands⟩
    cases cs with
    | nil => exact .ended
    | cons c cs =>
        rw [mentionedFrom_of_not_standsAt none]
        exact .passed none (mentions_mentionedFrom _ cs)
termination_by cs.length

/-- The names that are mentioned in a text are those found in it. -/
theorem mentioned_eq_iff {source : String} {names : List String} :
    mentioned source = names ↔ Mentions none source.toList names := by
  constructor
  · rintro rfl
    exact mentions_mentionedFrom none source.toList
  · exact Mentions.mentionedFrom_eq

/-! ### Mentions around a sign -/

/-- Whether a character is part of no variable as it is written. -/
def isSign (c : Char) : Bool := c != '.' && !isInName c

theorem isInName_of_startsName {c : Char} (starts : startsName c = true) : isInName c = true := by
  simp only [startsName, Bool.or_eq_true, beq_iff_eq] at starts
  rcases starts with letter | rfl
  · simp [isInName, Char.isAlphanum, letter]
  · decide

theorem not_mem_written_of_isSign {c : Char} (sign : isSign c = true) (name : VariableName) :
    c ∉ name.written := by
  simp only [isSign, Bool.and_eq_true, bne_iff_ne, Bool.not_eq_true'] at sign
  intro inside
  have named : c = '.' ∨ isInName c = true := by
    rcases List.mem_append.1 inside with letter | inside
    · have letters : "var".toList.all isInName = true := by decide
      exact .inr (List.all_eq_true.1 letters c letter)
    · rcases List.mem_cons.1 inside with dot | inside
      · exact .inl dot
      · rcases List.mem_cons.1 inside with rfl | inside
        · exact .inr (isInName_of_startsName name.starts)
        · exact .inr (name.follow c inside)
  rcases named with dot | named
  · exact sign.1 dot
  · rw [sign.2] at named
    cases named

theorem StandsAt.append {c : Char} (sign : isSign c = true) (stands : StandsAt before cs name rest)
    (more : List Char) : StandsAt before (cs ++ c :: more) name (rest ++ c :: more) where
  text := by rw [stands.text, List.append_assoc]
  free := stands.free
  whole := by
    cases rest with
    | nil =>
      rintro _ ⟨⟩
      simpa using (Bool.and_eq_true_iff.1 sign).2
    | cons d rest => exact stands.whole

/-- Where a sign follows a text, a variable that stands at the start stands in the text. -/
theorem StandsAt.exists_of_append (cs : List Char) {c : Char} (sign : isSign c = true)
    {more : List Char} (stands : StandsAt before (cs ++ c :: more) name rest) :
    ∃ rest', StandsAt before cs name rest' := by
  obtain ⟨text, free, whole⟩ := stands
  rcases List.append_eq_append_iff.1 text with ⟨left, written, split⟩ | ⟨left, rfl, rfl⟩
  · cases left with
    | nil => exact ⟨[], by simpa using written.symm, free, by rintro _ ⟨⟩⟩
    | cons d left =>
        cases split
        refine absurd ?_ (not_mem_written_of_isSign sign name)
        rw [written]
        exact List.mem_append_right _ List.mem_cons_self
  · refine ⟨left, rfl, free, fun d here => whole d ?_⟩
    rw [List.head?_append, Option.mem_def.1 here]
    rfl

/-- A sign is passed. -/
theorem Mentions.sign {c : Char} (sign : isSign c = true) {names : List String}
    (back : Mentions (some c) rest names) : Mentions before (c :: rest) names := by
  refine .passed (fun name behind stands => ?_) back
  obtain ⟨rest', inside⟩ := stands.exists_of_append [] sign
  cases inside.text

/-- A sign ends every name, so the names mentioned on its two sides are found apart. -/
theorem Mentions.append {c : Char} (sign : isSign c = true) {names others : List String}
    (front : Mentions before cs names) (back : Mentions (some c) rest others) :
    Mentions before (cs ++ c :: rest) (names ++ others) := by
  induction front with
  | ended => exact .sign sign back
  | named stands _ ih => exact .named (stands.append sign rest) ih
  | @passed before d cs _ none _ ih =>
      refine .passed (fun name behind stands => ?_) ih
      obtain ⟨rest', inside⟩ := stands.exists_of_append (d :: cs) sign
      exact none name rest' inside

/-- Any two places at which a word can start are the same to a text. -/
theorem Mentions.behind {before' : Option Char} {names : List String}
    (mentions : Mentions before cs names)
    (same : Text.startsWord before = Text.startsWord before') : Mentions before' cs names := by
  have carried {name : VariableName} {cs rest : List Char} {b b' : Option Char}
      (same : Text.startsWord b = Text.startsWord b') (stands : StandsAt b cs name rest) :
      StandsAt b' cs name rest := ⟨stands.text, same.symm.trans stands.free, stands.whole⟩
  cases mentions with
  | ended => exact .ended
  | named stands rest => exact .named (carried same stands) rest
  | passed none rest =>
      exact .passed (fun name rest stands => none name rest (carried same.symm stands)) rest

/-! ### Mentions in plain texts -/

theorem mentions_written (name : VariableName) : Mentions none name.written [name.text] := by
  have stands : StandsAt none name.written name [] :=
    ⟨(List.append_nil _).symm, rfl, by rintro _ ⟨⟩⟩
  exact .named stands .ended

end Password

/-- The names that a text mentions. -/
def PlainText.mentions (text : PlainText) : List String :=
  Password.mentioned (String.ofList text.chars)

/-- The names that a plain template mentions: those that its texts mention and those of its
variables, from left to right. -/
def PlainTemplate.mentions : PlainTemplate → List String
  | .ending text => text.mentions
  | .insert front name rest => front.mentions ++ name.text :: rest.mentions

/-- No text of a template mentions a name. -/
def PlainTemplate.IsSilent : PlainTemplate → Prop
  | .ending text => text.mentions = []
  | .insert front _ rest => front.mentions = [] ∧ rest.IsSilent

namespace PlainTemplate

instance decidableIsSilent : (template : PlainTemplate) → Decidable template.IsSilent
  | .ending text => inferInstanceAs (Decidable (text.mentions = []))
  | .insert front _ rest =>
    have := decidableIsSilent rest
    inferInstanceAs (Decidable (front.mentions = [] ∧ rest.IsSilent))

theorem mentions_eq_names {template : PlainTemplate} (silent : template.IsSilent) :
    template.mentions = template.names := by
  induction template with
  | ending text => exact silent
  | insert front name rest ih => rw [mentions, silent.1, ih silent.2, names, List.nil_append]

theorem allInputs_meaning (text : PlainText) (parts : List TemplatePart) :
    TemplatePart.allInputs false (text.meaning ++ parts) = TemplatePart.allInputs false parts := by
  unfold PlainText.meaning
  split
  · rfl
  · rfl

/-- A plain template references the variables that are set in. -/
theorem inputs_expr (template : PlainTemplate) : template.expr.inputs false = template.names := by
  have parts : TemplatePart.allInputs false template.meaning = template.names := by
    induction template with
    | ending text =>
        rw [meaning, ← List.append_nil text.meaning, allInputs_meaning]
        rfl
    | insert front name rest ih =>
        rw [meaning, allInputs_meaning, TemplatePart.allInputs, ih]
        rfl
  cases template with
  | ending text => rfl
  | insert front name rest => exact parts

theorem mentions_text (text : PlainText) {c : Char} (sign : Password.isSign c = true)
    {before : Option Char} (free : Text.startsWord before = true) {rest : List Char}
    {others : List String} (back : Password.Mentions (some c) rest others) :
    Password.Mentions before (text.chars ++ c :: rest) (text.mentions ++ others) := by
  have alone : Password.Mentions none text.chars text.mentions := by
    have found := Password.mentioned_eq_iff.1 (Eq.refl text.mentions)
    rwa [String.toList_ofList] at found
  exact .append sign (alone.behind free.symm) back

theorem mentions_chars (template : PlainTemplate) {before : Option Char}
    (free : Text.startsWord before = true) :
    Password.Mentions before (template.chars ++ ['"']) template.mentions := by
  induction template generalizing before with
  | ending text =>
      rw [mentions, ← List.append_nil text.mentions]
      exact mentions_text text (by decide) free .ended
  | insert front name rest ih =>
      have stands : Password.StandsAt (some '\x7b')
          (name.written ++ '\x7d' :: (rest.chars ++ ['"'])) name
          ('\x7d' :: (rest.chars ++ ['"'])) :=
        ⟨rfl, by decide +kernel, by rintro _ ⟨⟩; decide⟩
      have inner : Password.Mentions (some '$')
          ('\x7b' :: (name.written ++ '\x7d' :: (rest.chars ++ ['"'])))
          (name.text :: rest.mentions) := by
        exact .sign (by decide) (.named stands (.sign (by decide) (ih (by decide +kernel))))
      have text : (PlainTemplate.insert front name rest).chars ++ ['"'] =
          front.chars ++ '$' :: '\x7b' :: (name.written ++ '\x7d' :: (rest.chars ++ ['"'])) := by
        simp [chars]
      rw [text]
      exact mentions_text front (by decide) free inner

/-- The names that a plain template in quotes mentions. -/
theorem mentions_quoted (template : PlainTemplate) :
    Password.Mentions none ('"' :: (template.chars ++ ['"'])) template.mentions :=
  .sign (by decide) (template.mentions_chars (by decide +kernel))

end PlainTemplate

/-! ## Agreement -/

/-- The text of a token mentions the names of the input variables that its expression references,
and no others. -/
def Token.MentionsInputs (token : Token) : Prop :=
  ∀ name, name ∈ Password.mentioned token.raw ↔ name ∈ token.inputs

/-- The value of an attribute is written as a variable, or as a plain template of which no text
mentions a name. -/
inductive Attribute.IsPlain (attr : Attribute) : Prop where
  | single (name : VariableName) : attr.token.raw = String.ofList name.written → IsPlain attr
  | quoted (template : PlainTemplate) :
      attr.token.raw = String.ofList ('"' :: (template.chars ++ ['"'])) → template.IsSilent →
      IsPlain attr

namespace Attribute

variable {attr : Attribute}

/-- A plain template in quotes mentions names as its texts and variables do. -/
theorem mentioned_of_template (template : PlainTemplate)
    (raw : attr.token.raw = String.ofList ('"' :: (template.chars ++ ['"']))) :
    Password.mentioned attr.token.raw = template.mentions := by
  rw [raw, Password.mentioned_eq_iff, String.toList_ofList]
  exact template.mentions_quoted

theorem inputs_of_value {e : Expr} (value : attr.token.value = .expression e) :
    attr.token.inputs = e.inputs false := by
  rw [Token.inputs, Token.expression?, value]
  rfl

/-- A plain value that has been read mentions what it references. -/
theorem IsParsed.mentionsInputs (parsed : attr.IsParsed) (plain : attr.IsPlain) :
    attr.token.MentionsInputs := by
  obtain ⟨origin, place, read⟩ := parsed.exists_place
  suffices same : Password.mentioned attr.token.raw = attr.token.inputs from
    fun name => by rw [same]
  cases plain with
  | single name raw =>
      have mentioned : Password.mentioned attr.token.raw = [name.text] := by
        rw [raw, Password.mentioned_eq_iff, String.toList_ofList]
        exact Password.mentions_written name
      rw [mentioned, inputs_of_value (read.value_of_variable name raw)]
      rfl
  | quoted template raw silent =>
      rw [mentioned_of_template template raw, inputs_of_value (read.value_of_template template raw),
        template.inputs_expr, PlainTemplate.mentions_eq_names silent]

end Attribute

end InfraLint
