import InfraLint.Proofs.Nodes

/-!
# Reading a known text

What a reader makes of a text is said by two relations.  It reads a text in front of another one and
gives something, wherever the text stands (`Reader.Reads`), or it fails on a text (`Reader.Fails`).
Both pass through the ways in which readers are put together, the text being cut where one reader
hands over to the next.  A repetition reads one part after the other until its reader fails
(`Reader.Repeats`), and the length of the text is enough fuel for that.

No blank is read where neither a blank nor a comment can start (`Reader.reads_anyBlanks`).
-/

namespace InfraLint

theorem Text.afterLead?_eq_none_of_head? {lead cs : List Char} {c : Char}
    (first : lead.head? = some c) (other : cs.head? ≠ some c) : afterLead? lead cs = none := by
  obtain ⟨ls, rfl⟩ := List.head?_eq_some_iff.1 first
  cases cs with
  | nil => rfl
  | cons d ds =>
      have apart : (c == d) = false := beq_false_of_ne fun same => other (by rw [same]; rfl)
      rw [afterLead?, apart]
      rfl

namespace Reader

variable {α β : Type} {p q : Reader α} {text more rest : List Char} {a : α}

/-- The reader reads a text that stands in front of `rest`, and gives `a`. -/
def Reads (p : Reader α) (text rest : List Char) (a : α) : Prop :=
  ∀ offset, ∃ next, p ⟨text ++ rest, offset⟩ = some (a, ⟨rest, next⟩)

/-- The reader reads nothing from the start of a text on. -/
def Fails (p : Reader α) (text : List Char) : Prop :=
  ∀ offset, p ⟨text, offset⟩ = none

/-! ## Readers put together -/

theorem reads_pure (a : α) (rest : List Char) : (pure a : Reader α).Reads [] rest a :=
  fun offset => ⟨offset, rfl⟩

theorem fails_failure (text : List Char) : (failure : Reader α).Fails text := fun _ => rfl

theorem Reads.bind {f : α → Reader β} {b : β} (first : p.Reads text (more ++ rest) a)
    (second : (f a).Reads more rest b) : (p >>= f).Reads (text ++ more) rest b := by
  intro offset
  obtain ⟨middle, ran⟩ := first offset
  obtain ⟨next, ran'⟩ := second middle
  refine ⟨next, bind_eq_some_iff.2 ⟨a, _, ?_, ran'⟩⟩
  rw [List.append_assoc]
  exact ran

/-- A reader that looks ahead leaves the text to the next one. -/
theorem Reads.bind_nil {f : α → Reader β} {b : β} (first : p.Reads [] (text ++ rest) a)
    (second : (f a).Reads text rest b) : (p >>= f).Reads text rest b :=
  first.bind second

/-- The last reader only looks ahead. -/
theorem Reads.bind_last {f : α → Reader β} {b : β} (first : p.Reads text rest a)
    (second : (f a).Reads [] rest b) : (p >>= f).Reads text rest b := by
  rw [← List.append_nil text]
  exact first.bind second

theorem Reads.bind_pure {f : α → β} (first : p.Reads text rest a) :
    (p >>= fun a => pure (f a)).Reads text rest (f a) :=
  first.bind_last (reads_pure (f a) rest)

theorem Reads.bind_fails {f : α → Reader β} (first : p.Reads text rest a)
    (second : (f a).Fails rest) : (p >>= f).Fails (text ++ rest) := by
  intro offset
  obtain ⟨middle, ran⟩ := first offset
  show (p ⟨text ++ rest, offset⟩).bind _ = none
  rw [ran]
  exact second middle

theorem Fails.bind {f : α → Reader β} (first : p.Fails text) : (p >>= f).Fails text := by
  intro offset
  show (p ⟨text, offset⟩).bind _ = none
  rw [first offset]
  rfl

theorem Reads.orElse (first : p.Reads text rest a) : (p <|> q).Reads text rest a := by
  intro offset
  obtain ⟨next, ran⟩ := first offset
  refine ⟨next, ?_⟩
  change (p _ <|> q _) = _
  rw [ran]
  rfl

theorem Fails.orElse (first : p.Fails (text ++ rest)) (second : q.Reads text rest a) :
    (p <|> q).Reads text rest a := by
  intro offset
  obtain ⟨next, ran⟩ := second offset
  refine ⟨next, ?_⟩
  change (p _ <|> q _) = _
  rw [first offset]
  exact ran

theorem Fails.orElse_fails (first : p.Fails text) (second : q.Fails text) :
    (p <|> q).Fails text := by
  intro offset
  change (p _ <|> q _) = _
  rw [first offset]
  exact second offset

theorem Fails.attempt (inner : p.Fails rest) : (Reader.attempt p).Reads [] rest none := by
  refine fun offset => ⟨offset, ?_⟩
  rw [List.nil_append, Reader.attempt, inner offset]

/-- A reader that starts by telling its place. -/
theorem reads_here {f : Cursor → Reader β} {b : β}
    (each : ∀ offset, (f ⟨text ++ rest, offset⟩).Reads text rest b) :
    (here >>= f).Reads text rest b :=
  fun offset => each offset offset

theorem fails_here {f : Cursor → Reader β} (each : ∀ offset, (f ⟨text, offset⟩).Fails text) :
    (here >>= f).Fails text :=
  fun offset => each offset offset

/-! ## Repetitions -/

/-- Repeating the reader goes through a text part by part, up to a rest on which it fails. -/
inductive Repeats (p : Reader α) (rest : List Char) : List Char → List α → Prop where
  | stop : p.Fails rest → Repeats p rest [] []
  | more {text others : List Char} {a : α} {as : List α} :
      text ≠ [] → p.Reads text (others ++ rest) a → Repeats p rest others as →
      Repeats p rest (text ++ others) (a :: as)

theorem Repeats.manyUpTo {as : List α} (repeats : Repeats p rest text as) {fuel : Nat}
    (enough : text.length ≤ fuel) : (manyUpTo p fuel).Reads text rest as := by
  induction repeats generalizing fuel with
  | stop fails =>
      cases fuel with
      | zero => exact reads_pure [] rest
      | succ fuel =>
          refine fun offset => ⟨offset, ?_⟩
          simp only [List.nil_append, Reader.manyUpTo, fails offset]
  | @more text others a as some reads _ ih =>
      have longer := List.length_pos_iff.2 some
      rw [List.length_append] at enough
      obtain ⟨fuel, rfl⟩ : ∃ n, fuel = n + 1 := ⟨fuel - 1, by omega⟩
      intro offset
      obtain ⟨middle, ran⟩ := reads offset
      obtain ⟨next, ran'⟩ := ih (by omega : others.length ≤ fuel) middle
      refine ⟨next, ?_⟩
      simp only [List.append_assoc, Reader.manyUpTo, ran, ran']

theorem Repeats.many {as : List α} (repeats : Repeats p rest text as) :
    (many p).Reads text rest as := by
  have enough : text.length ≤ (text ++ rest).length := by
    rw [List.length_append]
    omega
  exact repeats.manyUpTo enough

/-! ## Single characters and fixed texts -/

theorem reads_exactly (text : String) (rest : List Char) :
    (exactly text).Reads text.toList rest () := by
  refine fun offset => ⟨offset + text.utf8ByteSize, ?_⟩
  rw [exactly, Text.afterLead?_append]

theorem fails_exactly {text : String} (absent : Text.afterLead? text.toList rest = none) :
    (exactly text).Fails rest := by
  intro offset
  rw [exactly, absent]

theorem reads_accept_of_none {text : String} (absent : Text.afterLead? text.toList rest = none) :
    (accept text).Reads [] rest false := by
  refine fun offset => ⟨offset, ?_⟩
  rw [List.nil_append, accept, fails_exactly absent offset]

theorem reads_peek? (rest : List Char) : peek?.Reads [] rest rest.head? :=
  fun offset => ⟨offset, rfl⟩

theorem reads_startsWith (text : String) (rest : List Char) :
    (startsWith text).Reads [] rest (Text.afterLead? text.toList rest).isSome :=
  fun offset => ⟨offset, rfl⟩

theorem reads_satisfy {test : Char → Bool} {c : Char} (passes : test c = true) (rest : List Char) :
    (satisfy test).Reads [c] rest c := by
  refine fun offset => ⟨offset + c.utf8Size, ?_⟩
  simp only [List.singleton_append, satisfy, passes, if_true]

theorem fails_satisfy {test : Char → Bool} (none : ∀ c ∈ rest.head?, test c = false) :
    (satisfy test).Fails rest := by
  intro offset
  cases rest with
  | nil => rfl
  | cons c cs => simp only [satisfy, none c rfl, Bool.false_eq_true, if_false]

theorem reads_takeWhile {test : Char → Bool} (all : ∀ c ∈ text, test c = true)
    (stops : ∀ c ∈ rest.head?, test c = false) : (takeWhile test).Reads text rest text := by
  have ended : rest.takeWhile test = [] ∧ rest.dropWhile test = rest := by
    cases rest with
    | nil => exact ⟨rfl, rfl⟩
    | cons c cs => simp [stops c rfl]
  refine fun offset => ⟨offset + Cursor.byteLength text, ?_⟩
  simp only [takeWhile, List.takeWhile_append_of_pos all, List.dropWhile_append_of_pos all,
    ended.1, ended.2, List.append_nil]

theorem fails_takeWhile1 {test : Char → Bool} (stops : ∀ c ∈ rest.head?, test c = false) :
    (takeWhile1 test).Fails rest :=
  (reads_takeWhile (List.forall_mem_nil _) stops).bind_fails (fails_failure rest)

/-- The reader of identifiers takes a letter and all characters that can follow it. -/
theorem reads_identifier {c : Char} (starts : Text.isIdStart c = true)
    (all : ∀ d ∈ more, Text.isIdContinue d = true)
    (stops : ∀ d ∈ rest.head?, Text.isIdContinue d = false) :
    identifier.Reads (c :: more) rest (String.ofList (c :: more)) :=
  (reads_satisfy starts (more ++ rest)).bind (reads_takeWhile all stops).bind_pure

/-! ## Blanks -/

/-- Neither a blank nor a comment can start here. -/
def IsClear (rest : List Char) : Prop := ∀ c ∈ rest.head?, Text.isMargin c = false

theorem IsClear.ne {c : Char} (clear : IsClear rest) (margin : Text.isMargin c = true) :
    rest.head? ≠ some c := by
  intro here
  rw [clear c here] at margin
  cases margin

theorem fails_lineComment (clear : IsClear rest) : lineComment.Fails rest := by
  refine Fails.bind (.orElse_fails (fails_exactly ?_) (fails_exactly ?_))
  · exact Text.afterLead?_eq_none_of_head? rfl (clear.ne (by decide))
  · exact Text.afterLead?_eq_none_of_head? rfl (clear.ne (by decide))

theorem fails_blockComment (clear : IsClear rest) : blockComment.Fails rest :=
  .bind (fails_exactly (Text.afterLead?_eq_none_of_head? rfl (clear.ne (by decide))))

theorem fails_spaces (clear : IsClear rest) {test : Char → Bool}
    (margins : ∀ c, test c = true → Text.isMargin c = true) : (takeWhile1 test).Fails rest := by
  refine fails_takeWhile1 fun c here => Bool.eq_false_iff.2 fun passes => ?_
  exact clear.ne (margins c passes) here

theorem reads_inlineBlanks (clear : IsClear rest) : inlineBlanks.Reads [] rest () := by
  refine (Repeats.stop ?_).many.bind_nil (reads_pure () rest)
  refine .orElse_fails (.bind (fails_spaces clear fun c space => ?_)) (fails_blockComment clear)
  rcases Bool.or_eq_true_iff.1 space with space | tab
  · rw [eq_of_beq space]
    decide
  · rw [eq_of_beq tab]
    decide

theorem reads_anyBlanks (clear : IsClear rest) : anyBlanks.Reads [] rest () := by
  refine (Repeats.stop ?_).many.bind_nil (reads_pure () rest)
  refine .orElse_fails (.bind (fails_spaces clear fun c space => ?_))
    (.orElse_fails (fails_lineComment clear) (fails_blockComment clear))
  simp only [Bool.or_eq_true, beq_iff_eq] at space
  rcases space with ((rfl | rfl) | rfl) | rfl <;> decide

theorem reads_blanks (newlines : Bool) (clear : IsClear rest) :
    (blanks newlines).Reads [] rest () := by
  cases newlines with
  | false => exact reads_inlineBlanks clear
  | true => exact reads_anyBlanks clear

end Reader

end InfraLint
