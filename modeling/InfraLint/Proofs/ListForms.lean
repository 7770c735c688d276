import InfraLint.Proofs.Places

/-!
# The two forms of a list

An attribute gives a list as an array literal or as an expression, such as the name of a variable,
that evaluates to one.  The elements of a literal are kept when the file is read and are resolved one
by one, each at its own place.  An expression is evaluated as a whole, and the items of the list that
comes out share the place of the attribute.

The two forms agree on the strings (`Scope.list_forms_agree`).  Three facts carry this.

* What the grammar keeps of an array literal are the items of the expression, in order, and it keeps
  elements of no other expression (`Reader.yields_expr`).
* An array evaluates to the values of its items, in order (`Expr.evalAll_eq_ok_iff`).
* An expression that evaluates to a string is resolved to this string, whatever form it has
  (`Scope.resolve_of_evaluate`).

An error always cites the token that could not be resolved (`Scope.spot_of_resolve`,
`Scope.spot_of_resolveList`).
-/

namespace InfraLint

/-! ## Readers and what they read -/

namespace Reader

variable {α β : Type} {p q : Reader α}

/-- Whatever the reader reads has a property. -/
def Yields (p : Reader α) (has : α → Prop) : Prop :=
  ∀ ⦃c a d⦄, p c = some (a, d) → has a

theorem yields_true (p : Reader α) : Yields p fun _ => True := fun _ _ _ _ => trivial

theorem yields_pure {has : α → Prop} {a : α} (held : has a) : Yields (pure a) has := by
  rintro c b d ⟨⟩
  exact held

theorem yields_failure (has : α → Prop) : Yields failure has := by
  rintro c a d ⟨⟩

theorem Yields.bind {first : α → Prop} {has : β → Prop} {f : α → Reader β} (before : Yields p first)
    (after : ∀ a, first a → Yields (f a) has) : Yields (p >>= f) has := by
  intro c b d ran
  obtain ⟨a, m, read, ran⟩ := bind_eq_some_iff.1 ran
  exact after a (before read) ran

/-- What is read last decides. -/
theorem yields_bind {has : β → Prop} {f : α → Reader β} (after : ∀ a, Yields (f a) has) :
    Yields (p >>= f) has :=
  (yields_true p).bind fun a _ => after a

theorem Yields.orElse {has : α → Prop} (first : Yields p has) (second : Yields q has) :
    Yields (p <|> q) has := by
  intro c a d ran
  rcases orElse_eq_some ran with ran | ran
  · exact first ran
  · exact second ran

theorem Yields.attempt {has : α → Prop} (inner : Yields p has) :
    Yields (Reader.attempt p) fun found => ∀ a, found = some a → has a := by
  intro c found d ran a there
  rcases attempt_eq_some ran with ⟨b, rfl, read⟩ | ⟨rfl, -⟩
  · cases there
    exact inner read
  · cases there

end Reader

/-! ## The elements of an array literal -/

/-- Whether an expression is an array literal. -/
def SourceExpr.isArray : SourceExpr → Bool
  | .array _ _ => true
  | _ => false

/-- What is kept of an expression: the elements of an array literal, and nothing of any other
expression. -/
inductive SourceExpr.Keeps : SourceExpr → Option (List Spanned) → Prop where
  | array (spans : List Spanned) (ending : ListEnd) :
      Keeps (.array (spans.map Spanned.expr) ending) (some spans)
  | other {e : SourceExpr} : e.isArray = false → Keeps e none

namespace Reader

variable {nested : Nested}

theorem yields_stringLike : Yields (stringLike nested) (·.isArray = false) := by
  refine .orElse (yields_bind fun text => yields_pure rfl) ?_
  exact yields_bind fun _ => yields_bind fun found => yields_bind fun _ => yields_pure rfl

theorem yields_heredoc : Yields (heredoc nested) (·.isArray = false) := by
  refine yields_bind fun _ => yields_bind fun indented => yields_bind fun _ => yields_bind fun _ =>
    yields_bind fun found => ?_
  split
  · exact yields_pure rfl
  · exact yields_pure rfl

theorem yields_objectEntries (items : List SourceItem) (fuel : Nat) :
    Yields (objectEntries nested items fuel) (·.isArray = false) := by
  induction fuel generalizing items with
  | zero => exact yields_failure _
  | succ fuel ih =>
      refine yields_bind fun fresh => yields_bind fun gap => yields_bind fun closed => ?_
      split
      · exact yields_pure rfl
      · refine yields_bind fun item => yields_bind fun _ => yields_bind fun closed => ?_
        split
        · exact yields_pure rfl
        · exact yields_bind fun ending => ih _

theorem yields_object (flags : Flags) :
    Yields (object nested flags) (·.1.isArray = false) := by
  refine yields_bind fun _ => yields_bind fun isFor => ?_
  split
  · have loop : Yields (forObject nested { flags with newlines := true }) (·.isArray = false) := by
      iterate 11 refine yields_bind fun _ => ?_
      exact yields_pure rfl
    exact loop.bind fun e other => yields_bind fun _ => yields_pure other
  · have entries : Yields (fun c => objectEntries nested [] (c.rest.length + 1) c)
        (·.isArray = false) := fun c e d ran => yields_objectEntries [] _ ran
    exact entries.bind fun e other => yields_pure other

theorem isArray_wordExpr (name : String) : (wordExpr name).isArray = false := by
  unfold wordExpr
  split <;> rfl

theorem yields_call (flags : Flags) (name : String) :
    Yields (do
      let parts ← namespaced flags.newlines
      blanks flags.newlines
      let (given, ending) ← arguments nested flags
      return SourceExpr.call (String.intercalate "::" (name :: parts)) given ending)
      (·.isArray = false) :=
  yields_bind fun _ => yields_bind fun _ => yields_bind fun _ => yields_pure rfl

theorem yields_identLike (flags : Flags) :
    Yields (identLike nested flags) (·.1.isArray = false) := by
  refine yields_bind fun name => ?_
  refine (yields_call flags name).attempt.bind fun found other => ?_
  split
  · next call => exact yields_pure (other call rfl)
  · exact yields_pure (isArray_wordExpr name)

/-- Between brackets stand the elements, or a `for`. -/
theorem yields_array (flags : Flags) :
    Yields (array nested flags) fun parsed => parsed.expr.Keeps parsed.elements := by
  refine yields_bind fun _ => yields_bind fun isFor => ?_
  split
  · have loop : Yields (forList nested { flags with newlines := true }) (·.isArray = false) := by
      iterate 5 refine yields_bind fun _ => ?_
      exact yields_pure rfl
    exact loop.bind fun e other => yields_bind fun _ => yields_pure (.other other)
  · exact yields_bind fun found => yields_bind fun gap => yields_bind fun _ =>
      yields_pure (.array _ _)

theorem yields_plainTerm (flags : Flags) :
    Yields (plainTerm nested flags) fun found => found.expr.Keeps found.elements := by
  refine yields_bind fun ahead => ?_
  split
  · exact yields_stringLike.bind fun e other => yields_pure (.other other)
  · exact (yields_array flags).bind fun parsed keeps => yields_pure keeps
  · exact (yields_object flags).bind fun found other => yields_pure (.other other)
  · exact yields_heredoc.bind fun e other => yields_pure (.other other)
  · iterate 5 refine yields_bind fun _ => ?_
    exact yields_pure (.other rfl)
  · exact yields_bind fun number => yields_pure (.other rfl)
  · split
    · exact yields_bind fun number => yields_pure (.other rfl)
    · exact (yields_identLike flags).bind fun found other => yields_pure (.other other)
  · exact yields_failure _

theorem yields_term (flags : Flags) :
    Yields (term nested flags) fun found => found.expr.Keeps found.elements :=
  .orElse (yields_plainTerm flags) (yields_bind fun _ => yields_bind fun _ =>
    yields_pure (.other rfl))

/-- A chain is its first term, unless steps or an operator follow. -/
theorem yields_chain (flags : Flags) :
    Yields (chain nested flags) fun found => found.expr.Keeps found.elements := by
  refine (yields_term flags).bind fun head keeps => yields_bind fun path =>
    yields_bind fun op => ?_
  split
  · refine yields_pure ?_
    cases path with
    | nil => exact keeps
    | cons step rest => exact .other rfl
  · exact yields_bind fun _ => yields_bind fun right => yields_pure (.other rfl)

theorem yields_conditional (flags : Flags) :
    Yields (conditional nested flags) fun parsed => parsed.expr.Keeps parsed.elements := by
  refine (yields_chain flags).bind fun found keeps => yields_bind fun asked => ?_
  split
  · exact yields_pure keeps
  · iterate 6 refine yields_bind fun _ => ?_
    exact yields_pure (.other rfl)

theorem yields_expr (flags : Flags) :
    Yields (expr flags) fun parsed => parsed.expr.Keeps parsed.elements :=
  fun _ _ _ ran => yields_conditional flags ran

end Reader

/-! ## What expressions mean -/

namespace OpTree

/-- Operands that an operator joins are grouped under some operator. -/
theorem exists_regroup_node (left right : OpTree) (op : BinaryOp) :
    ∃ l o r, regroup (node left op right) = .binary l o r := by
  simp only [regroup, size, regroupFuel]
  cases settled : (node left op right).settle with
  | leaf e =>
      have operators := size_settle (node left op right)
      rw [settled, size, size] at operators
      omega
  | node l o r => exact ⟨_, o, _, rfl⟩

end OpTree

namespace SourceExpr

theorem meanings_eq_map (reread : String → List TemplatePart) (items : List SourceExpr) :
    meanings reread items = items.map (·.meaning reread) := by
  induction items with
  | nil => rfl
  | cons item rest ih => rw [meanings, ih, List.map_cons, meaning]

theorem toExpr_array (items : List SourceExpr) (ending : ListEnd) :
    (array items ending).toExpr = .array (items.map toExpr) := by
  rw [toExpr, meaning, tree, meanings_eq_map]
  rfl

theorem toExpr_ne_array {e : SourceExpr} (other : e.isArray = false) (items : List Expr) :
    e.toExpr ≠ .array items := by
  rw [toExpr, meaning]
  cases e with
  | array => cases other
  | binary left op right =>
      obtain ⟨l, o, r, grouped⟩ :=
        OpTree.exists_regroup_node (left.tree TemplatePart.read) (right.tree TemplatePart.read) op
      rw [tree, grouped]
      exact Expr.noConfusion
  | _ =>
      rw [tree]
      exact Expr.noConfusion

end SourceExpr

/-! ## The elements of an attribute -/

namespace Node.IsReadAt

variable {origin : Origin} {place : Cursor} {attr : Attribute}

/-- The elements of an attribute are what is kept of the expression that its value is written as. -/
theorem exists_keeps (read : IsReadAt origin place (.key attr)) :
    ∃ e spans, SourceExpr.Keeps e spans ∧ attr.token.value = .expression e.toExpr ∧
      Option.Rel (List.Forall₂ fun token span => token.value = .expression span.expr.toExpr)
        attr.elements spans := by
  cases read with
  | key ran =>
      obtain ⟨name, m, m', -, -, ran⟩ := Reader.setting_eq_some ran
      obtain ⟨m'', parsed, -, value, rfl⟩ := Reader.settingValue_eq_some ran
      refine ⟨parsed.expr, parsed.elements, Reader.yields_expr _ value, rfl, ?_⟩
      cases parsed.elements with
      | none => exact .none
      | some spans =>
          exact .some (List.forall₂_map_left_iff.2 (List.forall₂_same.2 fun span _ => rfl))

/-- The elements of an attribute whose value is an array literal hold the items of the literal. -/
theorem exists_elements (read : IsReadAt origin place (.key attr)) {items : List Expr}
    (literal : attr.token.value = .expression (.array items)) :
    ∃ tokens, attr.elements = some tokens ∧
      List.Forall₂ (fun token item => token.value = .expression item) tokens items := by
  obtain ⟨e, spans, keeps, written, hold⟩ := read.exists_keeps
  have means : e.toExpr = .array items := TokenValue.expression.inj (written.symm.trans literal)
  cases keeps with
  | array spans ending =>
      rw [SourceExpr.toExpr_array] at means
      generalize attr.elements = elements at hold
      cases hold with
      | some hold =>
          rw [← Expr.array.inj means, List.map_map]
          exact ⟨_, rfl, List.forall₂_map_right_iff.2 hold⟩
  | other other => exact absurd means (SourceExpr.toExpr_ne_array other items)

/-- An attribute with any other value has no elements. -/
theorem elements_eq_none (read : IsReadAt origin place (.key attr))
    (other : ∀ items, attr.token.value ≠ .expression (.array items)) : attr.elements = none := by
  obtain ⟨e, spans, keeps, written, hold⟩ := read.exists_keeps
  cases keeps with
  | array spans ending =>
      rw [SourceExpr.toExpr_array] at written
      exact absurd written (other _)
  | other _ =>
      generalize attr.elements = elements at hold
      cases hold with
      | none => rfl

end Node.IsReadAt

/-! ## Evaluating lists -/

/-- Expressions evaluate to values in order exactly if each of them evaluates to its value. -/
theorem Expr.evalAll_eq_ok_iff {items : List Expr} {env : Env} {values : List Value} :
    Expr.evalAll items env = .ok values ↔
      List.Forall₂ (fun item value => item.eval env = .ok value) items values := by
  induction items generalizing values with
  | nil =>
      rw [List.forall₂_nil_left_iff, Expr.evalAll, Except.ok.injEq, eq_comm]
  | cons item rest ih =>
      rw [Expr.evalAll, List.forall₂_cons_left_iff, bind_eq_ok_iff]
      constructor
      · rintro ⟨value, first, ran⟩
        obtain ⟨others, later, made⟩ := bind_eq_ok_iff.1 ran
        cases made
        exact ⟨value, others, first, ih.1 later, rfl⟩
      · rintro ⟨value, others, first, later, rfl⟩
        exact ⟨value, first, bind_eq_ok_iff.2 ⟨others, ih.2 later, rfl⟩⟩

namespace Scope

variable {scope : Scope}

theorem evaluate_array_iff {items : List Expr} {values : List Value} :
    scope.evaluate (.array items) = .ok (.list values) ↔
      List.Forall₂ (fun item value => scope.evaluate item = .ok value) items values := by
  simp only [evaluate, Expr.eval, ← Expr.evalAll_eq_ok_iff]
  constructor
  · intro ran
    obtain ⟨found, each, made⟩ := bind_eq_ok_iff.1 ran
    cases made
    exact each
  · intro each
    exact bind_eq_ok_iff.2 ⟨values, each, rfl⟩

/-! ## Resolving tokens -/

/-- What an expression evaluates to as a string is what a token with it is resolved to. -/
theorem resolve_of_evaluate {token : Token} {e : Expr} {text : String}
    (written : token.value = .expression e) (value : scope.evaluate e = .ok (.string text)) :
    scope.resolve token = .ok text := by
  have placed : scope.evaluateAt token e = .ok (.string text) := by rw [evaluateAt, value]
  unfold resolve
  rw [written]
  cases e with
  | string s =>
      cases value
      rfl
  | number n => cases value
  | bool b => cases value
  | array items =>
      obtain ⟨values, -, made⟩ := bind_eq_ok_iff.1 (show Expr.eval _ _ = _ from value)
      cases made
  | object items =>
      obtain ⟨entries, -, made⟩ := bind_eq_ok_iff.1 (show Expr.eval _ _ = _ from value)
      cases made
  | _ => exact bind_eq_ok_iff.2 ⟨_, placed, rfl⟩

end Scope

/-! ## Errors -/

/-- The file and line that an error cites. -/
def ResolveError.spot : ResolveError → String × Nat
  | evaluation file line _ => (file, line)
  | mismatch file line _ _ => (file, line)

namespace Scope

variable {scope : Scope} {cause : ResolveError}

theorem spot_of_evaluateAt {token : Token} {e : Expr}
    (failed : scope.evaluateAt token e = .error cause) : cause.spot = token.spot := by
  unfold evaluateAt at failed
  split at failed
  · cases failed
  · cases failed
    rfl

theorem spot_of_resolve {token : Token} (failed : scope.resolve token = .error cause) :
    cause.spot = token.spot := by
  unfold resolve at failed
  split at failed
  case h_8 e _ _ _ _ _ _ =>
    cases value : scope.evaluateAt token e with
    | error other =>
        rw [value] at failed
        cases failed
        exact spot_of_evaluateAt value
    | ok v =>
        rw [value] at failed
        cases v with
        | string text => cases failed
        | _ =>
            cases failed
            rfl
  case h_1 | h_3 | h_4 | h_5 => cases failed
  case h_2 | h_6 | h_7 =>
    cases failed
    rfl

theorem spot_of_resolveList {attr : Attribute} (failed : scope.resolveList attr = .error cause) :
    cause.spot = attr.token.spot := by
  unfold resolveList at failed
  split at failed
  · cases failed
  · dsimp only at failed
    split at failed
    · cases failed
      rfl
    · cases failed
      rfl
    · next e written =>
      split at failed
      · cases failed
        rfl
      · cases value : scope.evaluateAt attr.token e with
        | error other =>
            rw [value] at failed
            cases failed
            exact spot_of_evaluateAt value
        | ok v =>
            rw [value] at failed
            cases v with
            | list items => cases failed
            | _ =>
                cases failed
                rfl

end Scope

/-! ## The strings of a list -/

namespace Scope

variable {scope : Scope} {attr : Attribute} {texts : List String}

theorem filterMap_resolved? {tokens : List Token}
    (each : List.Forall₂ (fun token text => scope.resolve token = .ok text) tokens texts) :
    tokens.filterMap scope.resolved? = List.zipWith ResolvedValue.mk texts tokens := by
  induction each with
  | nil => rfl
  | @cons token text tokens texts first rest ih =>
      rw [List.filterMap_cons, resolved?, first, ih]
      rfl

theorem map_value_zipWith {tokens : List Token}
    (each : List.Forall₂ (fun token text => scope.resolve token = .ok text) tokens texts) :
    (List.zipWith ResolvedValue.mk texts tokens).map (·.value) = texts := by
  induction each with
  | nil => rfl
  | cons _ _ ih => rw [List.zipWith_cons_cons, List.map_cons, ih]

/-- Tokens are resolved to what the expressions they hold evaluate to. -/
theorem resolve_of_forall₂ {tokens : List Token} {items : List Expr}
    (hold : List.Forall₂ (fun token item => token.value = .expression item) tokens items)
    (each : List.Forall₂ (fun item text => scope.evaluate item = .ok (.string text)) items texts) :
    List.Forall₂ (fun token text => scope.resolve token = .ok text) tokens texts := by
  induction hold generalizing texts with
  | nil =>
      cases each
      exact .nil
  | cons written _ ih =>
      cases each with
      | cons value others => exact .cons (resolve_of_evaluate written value) (ih others)

/-- The elements of an array literal give their strings at their own places. -/
theorem values_of_elements {tokens : List Token} (given : attr.elements = some tokens)
    (each : List.Forall₂ (fun token text => scope.resolve token = .ok text) tokens texts) :
    scope.values attr .list = List.zipWith ResolvedValue.mk texts tokens := by
  have listed : scope.tokens attr .list = tokens := by
    simp only [Scope.tokens, resolveList, given]
  rw [values, listed, filterMap_resolved? each]

/-- The items of a list that an expression gives have the place of the attribute. -/
theorem values_of_evaluate {e : Expr} (absent : attr.elements = none)
    (written : attr.token.value = .expression e)
    (value : scope.evaluate e = .ok (.list (texts.map .string))) :
    scope.values attr .list =
      texts.map fun text => ⟨text, .ofString text attr.file attr.line⟩ := by
  have listed : scope.resolveList attr = .ok (texts.map fun text =>
      .ofString text attr.file attr.line) := by
    rw [scope.resolveList_of_evaluate absent (Token.expression?_eq_some_iff.2 written) value,
      List.map_map]
    rfl
  have resolves (text : String) : scope.resolved? (.ofString text attr.file attr.line) =
      some ⟨text, .ofString text attr.file attr.line⟩ := rfl
  rw [values, Scope.tokens, listed]
  dsimp only
  rw [List.filterMap_map, ← List.filterMap_eq_map]
  exact List.filterMap_congr fun text _ => resolves text

end Scope

/-! ## Agreement -/

/-- An attribute of a configuration file that has been read. -/
def Attribute.IsParsed (attr : Attribute) : Prop :=
  ∃ path source file, ConfigFile.parse? path source = some file ∧ file.body.Has (.key attr)

/-- An expression that is the name of an input variable, be it bare or within quotes, as in
`"${var.x}"`, or parentheses. -/
inductive Expr.IsInput (name : String) : Expr → Prop where
  | bare : IsInput name (.traversal (.variable "var") [.member name])
  | quoted {e : Expr} : e.IsInput name → IsInput name (.template [.interpolation e])
  | paren {e : Expr} : e.IsInput name → IsInput name (.paren e)

/-- The value of an attribute is the name of an input variable. -/
def Attribute.RefersTo (attr : Attribute) (name : String) : Prop :=
  ∃ e, attr.token.value = .expression e ∧ e.IsInput name

theorem Attribute.IsParsed.exists_place {attr : Attribute} (parsed : attr.IsParsed) :
    ∃ origin place, Node.IsReadAt origin place (.key attr) := by
  obtain ⟨path, source, file, parsed, has⟩ := parsed
  obtain ⟨place, -, read⟩ := ConfigFile.exists_place_of_parse? parsed has
  exact ⟨_, place, read⟩

namespace Scope

/-- An array literal and a variable give the same strings.  The array evaluates to the list of the
strings.  The attribute with the literal pairs each of them with the element that holds its item, and
this element is written at a place of the file of its own.  An attribute that refers to a variable
which is bound to the list, in whatever scope, has the same strings, all at the file and line of the
attribute. -/
structure ListFormsAgree (scope : Scope) (origin : Origin) (attr : Attribute) (items : List Expr)
    (texts : List String) : Prop where
  value : scope.evaluate (.array items) = .ok (.list (texts.map .string))
  literal : ∃ tokens, attr.elements = some tokens ∧
    List.Forall₂ (fun token item => token.value = .expression item ∧
      ∃ place, Node.IsReadAt origin place (.element token)) tokens items ∧
    scope.values attr .list = List.zipWith ResolvedValue.mk texts tokens
  reference : ∀ (other : Scope) (reference : Attribute) (name : String), reference.IsParsed →
    reference.RefersTo name → other.inputs.lookup name = some (.list (texts.map .string)) →
    (other.values reference .list).map (·.value) = (scope.values attr .list).map (·.value) ∧
    ∀ found ∈ other.values reference .list, found.token.spot = (reference.file, reference.line)

variable {scope : Scope} {attr : Attribute} {items : List Expr} {texts : List String}

theorem evaluate_input {e : Expr} {name : String} {value : Value} (input : e.IsInput name)
    (bound : scope.inputs.lookup name = some value) : scope.evaluate e = .ok value := by
  induction input with
  | bare =>
      simp only [evaluate, env, Expr.eval, Step.evalAll, Value.member, List.lookup_cons,
        beq_self_eq_true, bound, ok_bind]
  | quoted _ ih => simpa only [evaluate, Expr.eval] using ih
  | paren _ ih => simpa only [evaluate, Expr.eval] using ih

theorem values_of_refersTo {name : String} (parsed : attr.IsParsed) (refers : attr.RefersTo name)
    (bound : scope.inputs.lookup name = some (.list (texts.map .string))) :
    scope.values attr .list =
      texts.map fun text => ⟨text, .ofString text attr.file attr.line⟩ := by
  obtain ⟨origin, place, read⟩ := parsed.exists_place
  obtain ⟨e, written, input⟩ := refers
  have absent : attr.elements = none := read.elements_eq_none fun items literal => by
    cases written.symm.trans literal
    cases input
  exact values_of_evaluate absent written (evaluate_input input bound)

theorem listFormsAgree {path source : String} {file : ConfigFile}
    (parsed : ConfigFile.parse? path source = some file) (has : file.body.Has (.key attr))
    (literal : attr.token.value = .expression (.array items))
    (each : List.Forall₂ (fun item text => scope.evaluate item = .ok (.string text)) items texts) :
    scope.ListFormsAgree ⟨path, Text.LineIndex.ofText source⟩ attr items texts := by
  obtain ⟨place, -, read⟩ := ConfigFile.exists_place_of_parse? parsed has
  obtain ⟨tokens, given, hold⟩ := read.exists_elements literal
  have resolved := resolve_of_forall₂ hold each
  have values := values_of_elements given resolved
  refine ⟨?_, ⟨tokens, given, ?_, values⟩, fun other reference name parsed' refers bound => ?_⟩
  · exact evaluate_array_iff.2 (List.forall₂_map_right_iff.2 each)
  · have placed : ∀ token ∈ tokens, ∃ place', Node.IsReadAt _ place' (.element token) :=
      fun token member => by
        obtain ⟨place', -, element⟩ := read.elements given member
        exact ⟨place', element⟩
    exact ((List.forall₂_and_left _ _).2 ⟨placed, hold⟩).imp fun _ _ both => ⟨both.2, both.1⟩
  · rw [values_of_refersTo parsed' refers bound, values, map_value_zipWith resolved]
    refine ⟨?_, fun found member => ?_⟩
    · rw [List.map_map]
      exact List.map_id texts
    · obtain ⟨text, -, rfl⟩ := List.mem_map.1 member
      rfl

/-- The two forms of a list agree.  For an attribute of a file whose value is an array literal, all
items of which evaluate to strings, an attribute that refers to a variable bound to the list of these
strings gives the same strings in the same order.  The literal cites for each string the element it
comes from, the variable cites the attribute.  Whenever a token or a list cannot be resolved, be it
in a file or made from a value, the error cites the file and line of the token. -/
theorem list_forms_agree (scope : Scope) :
    (∀ {path source : String} {file : ConfigFile} {attr : Attribute} {items : List Expr}
        {texts : List String}, ConfigFile.parse? path source = some file →
      file.body.Has (.key attr) → attr.token.value = .expression (.array items) →
      List.Forall₂ (fun item text => scope.evaluate item = .ok (.string text)) items texts →
      scope.ListFormsAgree ⟨path, Text.LineIndex.ofText source⟩ attr items texts) ∧
    (∀ token cause, scope.resolve token = .error cause → cause.spot = token.spot) ∧
    ∀ attr cause, scope.resolveList attr = .error cause → cause.spot = attr.token.spot :=
  ⟨listFormsAgree, fun _ _ => spot_of_resolve, fun _ _ => spot_of_resolveList⟩

/-- Whether an expression evaluates to a string can be computed. -/
instance (item : Expr) (text : String) :
    Decidable (scope.evaluate item = .ok (.string text)) :=
  match scope.evaluate item with
  | .ok (.string found) => decidable_of_iff (found = text) (by simp)
  | .ok .null | .ok (.bool _) | .ok (.number _) | .ok (.list _) | .ok (.map _) | .error _ =>
      isFalse (by simp)

/-- A scope with a list of two groups, and with the second one on its own. -/
def twoGroups : Scope :=
  ⟨[("groups", .list [.string "sg-1", .string "sg-2"]), ("extra", .string "sg-2")], []⟩

end Scope

/-- The items of an array literal. -/
def Expr.items? : Expr → Option (List Expr)
  | .array items => some items
  | _ => none

theorem Expr.items?_eq_some_iff {e : Expr} {items : List Expr} :
    e.items? = some items ↔ e = .array items := by
  cases e <;> simp [items?]

/-- A file that gives the groups of `Scope.twoGroups` in both forms. -/
def ConfigFile.twoForms : String :=
  "literal = [\n  \"sg-1\",\n  var.extra,\n]\nreference = var.groups\n"

namespace Scope

/-- The literal cites the lines of its elements, the reference its own line twice. -/
theorem list_forms_agree_twoGroups :
    ∃ file attr reference items, ConfigFile.parse? "main.tf" ConfigFile.twoForms = some file ∧
      file.attributes = [attr, reference] ∧
      twoGroups.ListFormsAgree ⟨"main.tf", Text.LineIndex.ofText ConfigFile.twoForms⟩ attr items
        ["sg-1", "sg-2"] ∧
      (twoGroups.values attr .list).map (fun found => (found.value, found.token.line)) =
        [("sg-1", 2), ("sg-2", 3)] ∧
      (twoGroups.values reference .list).map (fun found => (found.value, found.token.line)) =
        [("sg-1", 5), ("sg-2", 5)] := by
  have reads : (ConfigFile.parse? "main.tf" ConfigFile.twoForms).map (fun file =>
      file.attributes.map fun attr =>
        (twoGroups.values attr .list).map fun found => (found.value, found.token.line)) =
      some [[("sg-1", 2), ("sg-2", 3)], [("sg-1", 5), ("sg-2", 5)]] := by
    decide +kernel
  have written : (ConfigFile.parse? "main.tf" ConfigFile.twoForms).any (fun file =>
      file.attributes.head?.any fun attr => attr.token.expression?.any fun e =>
        e.items?.any fun items => decide (List.Forall₂ (fun item text =>
          twoGroups.evaluate item = .ok (.string text)) items ["sg-1", "sg-2"])) = true := by
    decide +kernel
  obtain ⟨file, parsed, seen⟩ := Option.map_eq_some_iff.1 reads
  obtain ⟨attr, _, given, first, seen⟩ := List.map_eq_cons_iff.1 seen
  obtain ⟨reference, _, rfl, second, seen⟩ := List.map_eq_cons_iff.1 seen
  cases List.map_eq_nil_iff.1 seen
  simp only [parsed, given, Option.any_some, List.head?_cons, Option.any_eq_true,
    decide_eq_true_eq, Expr.items?_eq_some_iff] at written
  obtain ⟨e, there, items, rfl, each⟩ := written
  have literal := Token.expression?_eq_some_iff.1 there
  have among : attr ∈ file.attributes := given ▸ List.mem_cons_self
  exact ⟨file, attr, reference, items, parsed, given,
    (list_forms_agree twoGroups).1 parsed (.key among) literal each, first, second⟩

end Scope

end InfraLint
