import InfraLint.Expr.Eval
import InfraLint.Proofs.Loading

/-!
# Reaching locals by name

An expression that reaches the locals of its scope through named members only, as in `local.name`,
depends on the locals that it names and on no others.  `Expr.namesLocals` tells such expressions by
their form.  A `for` may give the name `local` to a variable of its own; what stands inside it then
sees that variable, and the locals are hidden.

If such an expression has a value, it keeps that value when further locals are bound
(`Expr.carries_eval`, by the recursion of evaluation).  No other way to use the locals has this
property: `local` as a whole is a map that grows.
-/

namespace InfraLint

/-! ## Results that carry over -/

/-- What one computation gives another one gives too.  Where the first fails, the second is free. -/
def CarriesOver {ε α : Type} (first second : Except ε α) : Prop :=
  ∀ a, first = .ok a → second = .ok a

namespace CarriesOver

variable {ε α β : Type}

theorem refl (result : Except ε α) : CarriesOver result result := fun _ given => given

theorem of_error (cause : ε) (result : Except ε α) : CarriesOver (.error cause) result := by
  intro a given
  cases given

theorem bind {first second : Except ε α} {next next' : α → Except ε β}
    (start : CarriesOver first second) (rest : ∀ a, CarriesOver (next a) (next' a)) :
    CarriesOver (first >>= next) (second >>= next') := by
  intro b given
  obtain ⟨a, begun, ended⟩ := bind_eq_ok_iff.1 given
  exact bind_eq_ok_iff.2 ⟨a, start a begun, rest a b ended⟩

/-- The same is done with a result. -/
theorem map {first second : Except ε α} (start : CarriesOver first second)
    (next : α → Except ε β) : CarriesOver (first >>= next) (second >>= next) :=
  start.bind fun a => refl (next a)

theorem mapM {f g : α → Except ε β} (each : ∀ a, CarriesOver (f a) (g a)) (items : List α) :
    CarriesOver (items.mapM f) (items.mapM g) := by
  induction items with
  | nil => exact refl _
  | cons a rest ih =>
      rw [List.mapM_cons, List.mapM_cons]
      exact (each a).bind fun b => ih.map _

theorem foldlM {f g : β → α → Except ε β} (each : ∀ b a, CarriesOver (f b a) (g b a))
    (items : List α) (b : β) : CarriesOver (items.foldlM f b) (items.foldlM g b) := by
  induction items generalizing b with
  | nil => exact refl _
  | cons a rest ih =>
      rw [List.foldlM_cons, List.foldlM_cons]
      exact (each b a).bind ih

theorem filterMapM {f g : α → Except ε (Option β)} (each : ∀ a, CarriesOver (f a) (g a))
    (items : List α) : CarriesOver (items.filterMapM f) (items.filterMapM g) := by
  induction items with
  | nil => exact refl _
  | cons a rest ih =>
      rw [List.filterMapM_cons, List.filterMapM_cons]
      refine (each a).bind fun found => ?_
      cases found with
      | none => exact ih
      | some b => exact ih.map _

end CarriesOver

/-! ## The form of expressions -/

/-- Whether a `for` has a variable that hides the locals. -/
def Binder.hidesLocals (binder : Binder) : Bool :=
  binder.value == "local" || binder.key == some "local"

/-- Whether a traversal starts with a named member of a variable. -/
def Expr.isMember : Expr → List Step → Bool
  | .variable _, .member _ :: _ => true
  | _, _ => false

mutual

/-- Whether an expression reaches the locals through named members only, unless they are hidden. -/
def Expr.namesLocals (hidden : Bool) : Expr → Bool
  | .null | .bool _ | .number _ | .string _ => true
  | .array items | .call _ items => Expr.allNameLocals hidden items
  | .object items => ObjectItem.allNameLocals hidden items
  | .template parts | .heredoc parts => TemplatePart.allNameLocals hidden parts
  | .variable name => hidden || name != "local"
  | .traversal base steps =>
    (base.isMember steps || base.namesLocals hidden) && Step.allNameLocals hidden steps
  | .paren e | .unary _ e => e.namesLocals hidden
  | .conditional test yes no =>
    test.namesLocals hidden && yes.namesLocals hidden && no.namesLocals hidden
  | .binary l _ r => l.namesLocals hidden && r.namesLocals hidden
  | .forList binder collection value condition =>
    let inside := hidden || binder.hidesLocals
    collection.namesLocals hidden && value.namesLocals inside && condition.namesLocals inside
  | .forObject binder collection key value condition _ =>
    let inside := hidden || binder.hidesLocals
    collection.namesLocals hidden && key.namesLocals inside && value.namesLocals inside &&
      condition.namesLocals inside

/-- Whether all expressions of a list reach the locals through named members only. -/
def Expr.allNameLocals (hidden : Bool) : List Expr → Bool
  | [] => true
  | e :: rest => e.namesLocals hidden && Expr.allNameLocals hidden rest

/-- Whether the key of an object entry reaches the locals through named members only. -/
def ObjectKey.namesLocals (hidden : Bool) : ObjectKey → Bool
  | .name _ => true
  | .computed e => e.namesLocals hidden

/-- Whether the entries of an object reach the locals through named members only. -/
def ObjectItem.allNameLocals (hidden : Bool) : List ObjectItem → Bool
  | [] => true
  | .mk key value :: rest =>
    key.namesLocals hidden && value.namesLocals hidden && ObjectItem.allNameLocals hidden rest

/-- Whether the steps of a traversal reach the locals through named members only. -/
def Step.allNameLocals (hidden : Bool) : List Step → Bool
  | [] => true
  | .index key :: rest => key.namesLocals hidden && Step.allNameLocals hidden rest
  | _ :: rest => Step.allNameLocals hidden rest

/-- Whether the parts of a template reach the locals through named members only. -/
def TemplatePart.allNameLocals (hidden : Bool) : List TemplatePart → Bool
  | [] => true
  | .literal _ :: rest | .unreadable :: rest => TemplatePart.allNameLocals hidden rest
  | .interpolation e :: rest => e.namesLocals hidden && TemplatePart.allNameLocals hidden rest
  | .choice test yes no :: rest =>
    test.namesLocals hidden && TemplatePart.allNameLocals hidden yes &&
      TemplatePart.allNameLocals hidden no && TemplatePart.allNameLocals hidden rest
  | .loop binder collection body :: rest =>
    collection.namesLocals hidden &&
      TemplatePart.allNameLocals (hidden || binder.hidesLocals) body &&
      TemplatePart.allNameLocals hidden rest

end

/-! ## Scopes that know more -/

/-- What is bound in a list is bound to the same value in another one. -/
def Assoc.Within {κ α : Type} [BEq κ] (bound others : List (κ × α)) : Prop :=
  ∀ name value, bound.lookup name = some value → others.lookup name = some value

/-- Names mean the same in two environments, but the second may know more locals, if these are not
hidden. -/
structure Env.Reveals (hidden : Bool) (env other : Env) : Prop where
  same : ∀ name, hidden = true ∨ name ≠ "local" → env.lookup name = other.lookup name
  more : hidden = false → ∃ bound others, env.lookup "local" = some (.map bound) ∧
    other.lookup "local" = some (.map others) ∧ Assoc.Within bound others

theorem lookup_cons_eq_ite {α : Type} (name key : String) (a : α) (rest : List (String × α)) :
    ((key, a) :: rest).lookup name = if name = key then some a else rest.lookup name := by
  by_cases same : name = key
  · rw [if_pos same, same, List.lookup_cons_self]
  · rw [if_neg same, List.lookup_cons, beq_false_of_ne same]

/-- A name is looked up among the variables of a `for` first. -/
theorem Binder.lookup_bind (binder : Binder) (env : Env) (key value : Value) (name : String) :
    (binder.bind env key value).lookup name =
      if name = binder.value then some value
      else if binder.key = some name then some key
      else env.lookup name := by
  rcases binder with ⟨_ | first, second⟩
  · simp only [Binder.bind, lookup_cons_eq_ite, reduceCtorEq, if_false]
  · simp only [Binder.bind, lookup_cons_eq_ite, Option.some_inj, @eq_comm _ name]

namespace Env.Reveals

variable {hidden : Bool} {env other : Env}

/-- The variables of a `for` mean the same, and the names around it mean what they did. -/
theorem bind (reveals : Env.Reveals hidden env other) (binder : Binder) (key value : Value) :
    Env.Reveals (hidden || binder.hidesLocals) (binder.bind env key value)
      (binder.bind other key value) := by
  constructor
  · intro name plain
    rw [Binder.lookup_bind, Binder.lookup_bind]
    split
    · rfl
    · next notValue =>
      split
      · rfl
      · next notKey =>
        refine reveals.same name ?_
        -- If the `for` hides the locals, then one of its variables has their name.
        by_contra open'
        obtain ⟨shown, rfl⟩ := not_or.1 open' |>.imp id not_not.1
        simp_all [Binder.hidesLocals]
  · intro shown
    obtain ⟨hidden, free⟩ := Bool.or_eq_false_iff.1 shown
    obtain ⟨bound, others, there, there', within⟩ := reveals.more hidden
    simp only [Binder.hidesLocals, Bool.or_eq_false_iff, beq_eq_false_iff_ne] at free
    refine ⟨bound, others, ?_, ?_, within⟩
    · rw [Binder.lookup_bind, if_neg (Ne.symm free.1), if_neg free.2, there]
    · rw [Binder.lookup_bind, if_neg (Ne.symm free.1), if_neg free.2, there']

end Env.Reveals

/-! ## Evaluation -/

theorem Value.carries_member {bound others : List (String × Value)}
    (within : Assoc.Within bound others) (name : String) :
    CarriesOver (Value.member name (.map bound)) (Value.member name (.map others)) := by
  intro value found
  cases there : bound.lookup name with
  | none => simp [Value.member, there] at found
  | some v =>
      simp only [Value.member, there] at found
      simp only [Value.member, within name v there]
      exact found

/-- Values from which steps lead to the same: equal ones or, where the first step takes a named
member, maps of which the second binds what the first binds. -/
inductive Step.Starts : List Step → Value → Value → Prop where
  | same {steps : List Step} (v : Value) : Starts steps v v
  | member {name : String} {rest : List Step} {bound others : List (String × Value)} :
      Assoc.Within bound others → Starts (.member name :: rest) (.map bound) (.map others)

/-- A named member of a variable, which may be one of the locals. -/
theorem Env.Reveals.carries_member {hidden : Bool} {env other : Env}
    (reveals : Env.Reveals hidden env other) {base : Expr} {steps : List Step}
    (isMember : base.isMember steps = true)
    (followed : ∀ v w, Step.Starts steps v w →
      CarriesOver (Step.evalAll steps env v) (Step.evalAll steps other w)) :
    CarriesOver (base.eval env >>= Step.evalAll steps env)
      (base.eval other >>= Step.evalAll steps other) := by
  unfold Expr.isMember at isMember
  split at isMember
  · next name member rest =>
    simp only [Expr.eval]
    by_cases plain : hidden = true ∨ name ≠ "local"
    · rw [reveals.same name plain]
      exact (CarriesOver.refl _).bind fun v => followed v v (.same v)
    · obtain ⟨shown, rfl⟩ := (not_or.1 plain).imp eq_false_of_ne_true not_not.1
      obtain ⟨bound, others, there, there', within⟩ := reveals.more shown
      simp only [there, there', ok_bind]
      exact followed _ _ (.member within)
  · cases isMember

mutual

/-- An expression that names the locals it reaches keeps its value when more locals are known. -/
theorem Expr.carries_eval {hidden : Bool} {env other : Env}
    (reveals : Env.Reveals hidden env other) :
    ∀ e : Expr, e.namesLocals hidden = true → CarriesOver (e.eval env) (e.eval other)
  | .null, _ | .bool _, _ | .number _, _ | .string _, _ => by simpa only [Expr.eval] using .refl _
  | .array items, named => by
      simp only [Expr.eval]
      exact (Expr.carries_evalAll reveals items named).map _
  | .object items, named => by
      simp only [Expr.eval]
      exact (ObjectItem.carries_evalAll reveals items [] named).map _
  | .template [.interpolation e], named => by
      simp only [Expr.namesLocals, TemplatePart.allNameLocals, Bool.and_true] at named
      simp only [Expr.eval]
      exact Expr.carries_eval reveals e named
  | .template [], named | .template (_ :: _ :: _), named | .template [.literal _], named
  | .template [.choice _ _ _], named | .template [.loop _ _ _], named
  | .template [.unreadable], named => by
      simp only [Expr.eval]
      exact (TemplatePart.carries_evalAll reveals _ named).map _
  | .heredoc parts, named => by
      simp only [Expr.eval]
      exact (TemplatePart.carries_evalAll reveals parts named).map _
  | .variable name, named => by
      have plain : hidden = true ∨ name ≠ "local" := by
        simpa only [Expr.namesLocals, Bool.or_eq_true_iff, bne_iff_ne] using named
      simp only [Expr.eval, reveals.same name plain]
      exact .refl _
  | .traversal base steps, named => by
      obtain ⟨start, rest⟩ := Bool.and_eq_true_iff.1 named
      have followed := Step.carries_evalAll reveals steps rest
      simp only [Expr.eval]
      rcases Bool.or_eq_true_iff.1 start with isMember | plain
      · exact reveals.carries_member isMember followed
      · exact (Expr.carries_eval reveals base plain).bind fun v => followed v v (.same v)
  | .call name arguments, _ => by
      simp only [Expr.eval]
      exact .of_error _ _
  | .paren e, named => by
      simp only [Expr.eval]
      exact Expr.carries_eval reveals e named
  | .conditional test yes no, named => by
      simp only [Expr.namesLocals, Bool.and_eq_true] at named
      obtain ⟨⟨testNamed, yesNamed⟩, noNamed⟩ := named
      simp only [Expr.eval]
      refine (Expr.carries_eval reveals test testNamed).bind fun v => ?_
      refine (CarriesOver.refl v.asBool).bind fun b => ?_
      cases b with
      | true => exact Expr.carries_eval reveals yes yesNamed
      | false => exact Expr.carries_eval reveals no noNamed
  | .unary op e, named => by
      simp only [Expr.eval]
      exact (Expr.carries_eval reveals e named).map _
  | .binary l op r, named => by
      obtain ⟨left, right⟩ := Bool.and_eq_true_iff.1 named
      simp only [Expr.eval]
      exact (Expr.carries_eval reveals l left).bind fun a =>
        (Expr.carries_eval reveals r right).map _
  | .forList binder collection value condition, named => by
      simp only [Expr.namesLocals, Bool.and_eq_true] at named
      obtain ⟨⟨collectionNamed, valueNamed⟩, conditionNamed⟩ := named
      simp only [Expr.eval]
      refine (Expr.carries_eval reveals collection collectionNamed).bind fun v => ?_
      refine (CarriesOver.refl v.entries).bind fun entries => ?_
      refine (CarriesOver.filterMapM (fun entry => ?_) entries).map _
      have inner := reveals.bind binder entry.1 entry.2
      refine (Expr.carries_eval inner condition conditionNamed).bind fun v => ?_
      refine (CarriesOver.refl v.asBool).bind fun b => ?_
      cases b with
      | true => exact (Expr.carries_eval inner value valueNamed).map _
      | false => exact .refl _
  | .forObject binder collection key value condition grouped, named => by
      simp only [Expr.namesLocals, Bool.and_eq_true] at named
      obtain ⟨⟨⟨collectionNamed, keyNamed⟩, valueNamed⟩, conditionNamed⟩ := named
      simp only [Expr.eval]
      refine (Expr.carries_eval reveals collection collectionNamed).bind fun v => ?_
      refine (CarriesOver.refl v.entries).bind fun entries => ?_
      refine (CarriesOver.foldlM (fun built entry => ?_) entries []).map _
      have inner := reveals.bind binder entry.1 entry.2
      refine (Expr.carries_eval inner condition conditionNamed).bind fun v => ?_
      refine (CarriesOver.refl v.asBool).bind fun b => ?_
      cases b with
      | true =>
          refine (Expr.carries_eval inner key keyNamed).bind fun v => ?_
          refine (CarriesOver.refl v.asKey).bind fun name => ?_
          exact (Expr.carries_eval inner value valueNamed).map _
      | false => exact .refl _

theorem Expr.carries_evalAll {hidden : Bool} {env other : Env}
    (reveals : Env.Reveals hidden env other) :
    ∀ items : List Expr, Expr.allNameLocals hidden items = true →
      CarriesOver (Expr.evalAll items env) (Expr.evalAll items other)
  | [], _ => by simpa only [Expr.evalAll] using .refl _
  | e :: rest, named => by
      obtain ⟨first, others⟩ := Bool.and_eq_true_iff.1 named
      simp only [Expr.evalAll]
      exact (Expr.carries_eval reveals e first).bind fun v =>
        (Expr.carries_evalAll reveals rest others).map _

theorem ObjectKey.carries_eval {hidden : Bool} {env other : Env}
    (reveals : Env.Reveals hidden env other) :
    ∀ key : ObjectKey, key.namesLocals hidden = true → CarriesOver (key.eval env) (key.eval other)
  | .name text, _ => by simpa only [ObjectKey.eval] using .refl _
  | .computed e, named => by
      simp only [ObjectKey.eval]
      exact (Expr.carries_eval reveals e named).map _

theorem ObjectItem.carries_evalAll {hidden : Bool} {env other : Env}
    (reveals : Env.Reveals hidden env other) :
    ∀ (items : List ObjectItem) (entries : List (String × Value)),
      ObjectItem.allNameLocals hidden items = true →
      CarriesOver (ObjectItem.evalAll items env entries) (ObjectItem.evalAll items other entries)
  | [], _, _ => by simpa only [ObjectItem.evalAll] using .refl _
  | .mk key value :: rest, entries, named => by
      simp only [ObjectItem.allNameLocals, Bool.and_eq_true] at named
      obtain ⟨⟨keyNamed, valueNamed⟩, others⟩ := named
      simp only [ObjectItem.evalAll]
      refine (ObjectKey.carries_eval reveals key keyNamed).bind fun name => ?_
      refine (Expr.carries_eval reveals value valueNamed).bind fun v => ?_
      exact ObjectItem.carries_evalAll reveals rest _ others

theorem Step.carries_evalAll {hidden : Bool} {env other : Env}
    (reveals : Env.Reveals hidden env other) :
    ∀ steps : List Step, Step.allNameLocals hidden steps = true →
      ∀ v w : Value, Step.Starts steps v w →
        CarriesOver (Step.evalAll steps env v) (Step.evalAll steps other w)
  | [], _, v, _, .same _ => by simpa only [Step.evalAll] using .refl _
  | .member name :: rest, named, v, w, starts => by
      simp only [Step.evalAll]
      have found : CarriesOver (v.member name) (w.member name) := by
        cases starts with
        | same => exact .refl _
        | member within => exact Value.carries_member within name
      exact found.bind fun x => Step.carries_evalAll reveals rest named x x (.same x)
  | .index key :: rest, named, v, _, .same _ => by
      obtain ⟨keyNamed, others⟩ := Bool.and_eq_true_iff.1 named
      simp only [Step.evalAll]
      refine (Expr.carries_eval reveals key keyNamed).bind fun k => ?_
      exact (CarriesOver.refl _).bind fun x =>
        Step.carries_evalAll reveals rest others x x (.same x)
  | .position i :: rest, named, v, _, .same _ => by
      simp only [Step.evalAll]
      exact (CarriesOver.refl _).bind fun x =>
        Step.carries_evalAll reveals rest named x x (.same x)
  | .eachMember names :: rest, named, v, _, .same _ => by
      simp only [Step.evalAll]
      exact (CarriesOver.refl _).bind fun items =>
        Step.carries_evalAll reveals rest named _ _ (.same _)
  | .each :: rest, named, v, _, .same _ => by
      simp only [Step.evalAll]
      exact (CarriesOver.mapM (fun x => Step.carries_evalAll reveals rest named x x (.same x)) _).map
        _

theorem TemplatePart.carries_evalAll {hidden : Bool} {env other : Env}
    (reveals : Env.Reveals hidden env other) :
    ∀ parts : List TemplatePart, TemplatePart.allNameLocals hidden parts = true →
      CarriesOver (TemplatePart.evalAll parts env) (TemplatePart.evalAll parts other)
  | [], _ => by simpa only [TemplatePart.evalAll] using .refl _
  | .literal s :: rest, named => by
      simp only [TemplatePart.evalAll]
      exact (TemplatePart.carries_evalAll reveals rest named).map _
  | .interpolation e :: rest, named => by
      obtain ⟨first, others⟩ := Bool.and_eq_true_iff.1 named
      simp only [TemplatePart.evalAll]
      exact (Expr.carries_eval reveals e first).bind fun v =>
        (TemplatePart.carries_evalAll reveals rest others).map _
  | .choice test yes no :: rest, named => by
      simp only [TemplatePart.allNameLocals, Bool.and_eq_true] at named
      obtain ⟨⟨⟨testNamed, yesNamed⟩, noNamed⟩, others⟩ := named
      simp only [TemplatePart.evalAll]
      refine (Expr.carries_eval reveals test testNamed).bind fun v => ?_
      refine (CarriesOver.refl v.asBool).bind fun b => ?_
      have after (s : String) := (TemplatePart.carries_evalAll reveals rest others).map
        fun text => (pure (s ++ text) : Except EvalError String)
      cases b with
      | true => exact (TemplatePart.carries_evalAll reveals yes yesNamed).bind after
      | false => exact (TemplatePart.carries_evalAll reveals no noNamed).bind after
  | .loop binder collection body :: rest, named => by
      simp only [TemplatePart.allNameLocals, Bool.and_eq_true] at named
      obtain ⟨⟨collectionNamed, bodyNamed⟩, others⟩ := named
      simp only [TemplatePart.evalAll]
      refine (Expr.carries_eval reveals collection collectionNamed).bind fun v => ?_
      refine (CarriesOver.refl v.entries).bind fun entries => ?_
      refine (CarriesOver.mapM (fun entry => ?_) entries).bind fun texts =>
        (TemplatePart.carries_evalAll reveals rest others).map _
      exact TemplatePart.carries_evalAll (reveals.bind binder entry.1 entry.2) body bodyNamed
  | .unreadable :: _, _ => by
      simp only [TemplatePart.evalAll]
      exact .of_error _ _

end

namespace Scope

/-- An expression that names the locals it reaches keeps its value when further locals are bound. -/
theorem evaluate_of_within {scope other : Scope} {e : Expr} {value : Value}
    (named : e.namesLocals false = true) (same : scope.inputs = other.inputs)
    (within : Assoc.Within scope.locals other.locals) (evaluates : scope.evaluate e = .ok value) :
    other.evaluate e = .ok value := by
  have reveals : Env.Reveals false scope.env other.env := by
    constructor
    · intro name plain
      have notLocal : name ≠ "local" := plain.resolve_left (by decide)
      simp only [env, lookup_cons_eq_ite, same, notLocal, if_false]
    · intro _
      exact ⟨scope.locals, other.locals, rfl, rfl, within⟩
  exact Expr.carries_eval reveals e named value evaluates

end Scope

end InfraLint
