import InfraLint.Proofs.NullFree
import InfraLint.Proofs.RuleEnding
import InfraLint.Proofs.SourceOrder
import InfraLint.Rule.Catalogue

/-!
# Targets of routes

Two rules count the targets that a route names: one reports a route without a target, the other a
route with more than one.  A target is not named if its value is null.  Of the attributes whose value
is null, the rules see those that are written as the word `null`.  The others are masked: a null in
parentheses, a variable or a local that is null, a conditional that gives null.  A masked attribute
counts as a target.

So a route is judged by the number of targets that it names together with those that are masked
(`RuleRun.detects_targets`), and where none is masked it is judged by the targets that it names.
None is masked where the variables and locals of the module are free of null and `null` is written as
the whole value of an attribute or not at all.
-/

namespace InfraLint

/-! ## Named and masked targets -/

namespace Scope

variable {scope : Scope}

/-- Whether the value of a token is null. What cannot be evaluated is not. -/
def isNull (scope : Scope) (token : Token) : Bool :=
  match token.expression?.map scope.evaluate with
  | some (.ok .null) => true
  | _ => false

theorem isNull_eq_true_iff {token : Token} : scope.isNull token = true ↔
    ∃ e, token.expression? = some e ∧ scope.evaluate e = .ok .null := by
  unfold isNull
  cases token.expression? with
  | none => simp
  | some e =>
      simp only [Option.map_some, Option.some_inj, exists_eq_left']
      split
      · next given => simpa using given
      · next other => simpa using fun given => other (congrArg some given)

/-- The word `null` has the value null. -/
theorem isNull_of_isNull {token : Token} (written : token.isNull = true) :
    scope.isNull token = true := by
  unfold Token.isNull at written
  split at written
  · next e given =>
    cases e with
    | null => exact isNull_eq_true_iff.2 ⟨_, given, rfl⟩
    | _ => cases written
  · cases written

/-- No variable and no local of a scope holds null. -/
def NullFree (scope : Scope) : Prop := Env.NullFree scope.inputs ∧ Env.NullFree scope.locals

theorem NullFree.env (free : scope.NullFree) : scope.env.NullFree :=
  (Env.NullFree.nil.cons (.map free.2) "local").cons (.map free.1) "var"

/-- A plain expression is not null where no name is. -/
theorem NullFree.isNull_eq_false (free : scope.NullFree) {token : Token} {e : Expr}
    (given : token.expression? = some e) (plain : e.isPlain = true) :
    scope.isNull token = false := by
  rw [Bool.eq_false_iff, ne_eq, isNull_eq_true_iff]
  rintro ⟨_, given', evaluated⟩
  cases given.symm.trans given'
  exact (Expr.gives_eval free.env e plain _ evaluated).ne_null rfl

end Scope

namespace Route

/-- The number of targets that a route names: its attributes whose value is not null. -/
def named (scope : Scope) (block : Block) : Nat :=
  targets.countP fun name => (block.attribute? name).any fun attr => !scope.isNull attr.token

/-- The number of masked attributes of a route: their value is null, which the word `null` does not
say. -/
def masked (scope : Scope) (block : Block) : Nat :=
  targets.countP fun name => (block.attribute? name).any fun attr =>
    scope.isNull attr.token && !attr.token.isNull

/-- A part of what is counted, and the rest of it. -/
theorem countP_eq_add {α : Type} {p q r : α → Bool} (split : ∀ a, p a = (q a || r a))
    (apart : ∀ a, q a = true → r a = false) (items : List α) :
    items.countP p = items.countP q + items.countP r := by
  induction items with
  | nil => rfl
  | cons a rest ih =>
      rw [List.countP_cons, List.countP_cons, List.countP_cons, ih, split a]
      cases here : q a with
      | true => simp [apart a here]; omega
      | false => simp; omega

/-- The attributes that count are the named and the masked ones. -/
theorem targetCount_eq (scope : Scope) (block : Block) :
    targetCount block = named scope block + masked scope block := by
  rw [targetCount, ← List.countP_eq_length_filter, List.countP_filterMap, named, masked]
  refine countP_eq_add (fun name => ?_) (fun name => ?_) targets
  · cases block.attribute? name with
    | none => rfl
    | some attr =>
        cases written : attr.token.isNull with
        | true => simp [written, scope.isNull_of_isNull written]
        | false => simp [written]
  · cases block.attribute? name with
    | none => simp
    | some attr => simp_all

/-- Each attribute that can name the target is written as the word `null`, or `null` is not written
in it where it could become its value. -/
def IsPlain (block : Block) : Prop :=
  ∀ name ∈ targets, ∀ attr, block.attribute? name = some attr →
    attr.token.isNull = true ∨ ∀ e, attr.token.expression? = some e → e.isPlain = true

/-- A plain route has no masked attribute where no name is null. -/
theorem masked_eq_zero {scope : Scope} (free : scope.NullFree) {block : Block}
    (plain : IsPlain block) : masked scope block = 0 := by
  refine List.countP_eq_zero.2 fun name member hidden => ?_
  obtain ⟨attr, given, hidden⟩ := (Option.any_eq_true ..).1 hidden
  obtain ⟨isNull, unwritten⟩ := Bool.and_eq_true_iff.1 hidden
  rcases plain name member attr given with written | plain
  · rw [written] at unwritten
    cases unwritten
  · obtain ⟨e, told, -⟩ := Scope.isNull_eq_true_iff.1 isNull
    rw [free.isNull_eq_false told (plain e told)] at isNull
    cases isNull

end Route

/-! ## Findings -/

/-- The checks that count targets: what each says of a route, and of which numbers. -/
inductive Check.CountsTargets : Check → String → (Nat → Prop) → Prop where
  | given : CountsTargets .targetGiven
      ("The routing target is not specified, each aws_route must contain either " ++
        "egress_only_gateway_id, gateway_id, instance_id, nat_gateway_id, network_interface_id, " ++
        "transit_gateway_id, or vpc_peering_connection_id.") (· = 0)
  | single : CountsTargets .targetSingle
      "More than one routing target specified. It must be one." (1 < ·)

namespace Rule

variable {rule : Rule} {complaint : String} {wrong : Nat → Prop} {block : Block}

/-- A rule that counts targets judges a block by their number. -/
theorem reports_of_countsTargets (counts : rule.check.CountsTargets complaint wrong) (facts : Facts)
    (module : Module) (state : Snapshot) :
    RuleRun.Reports rule facts module state fun block finding =>
      finding = ⟨complaint, block.file, block.line⟩ ∧ wrong (Route.targetCount block) := by
  refine .of_blocks fun block => ?_
  generalize check : rule.check = kind at counts
  cases counts with
  | given | single =>
      simp only [blockFindings, check]
      split
      · next holds => exact ⟨some _, rfl, fun finding => by simp [holds, Block.finding, eq_comm]⟩
      · next fails => exact ⟨none, rfl, fun finding => by simp [fails]⟩

end Rule

namespace RuleRun

/-- A prepared run of a rule that counts targets reports a route, once and at its first line, if the
targets that it names and the masked ones together are a wrong number.  So it judges the routes by
the targets that they name if none of them has a masked one.  A route has none if it is plain and no
variable and no local of the module holds null. -/
theorem detects_targets {rule : Rule} {complaint : String} {wrong : Nat → Prop}
    (counts : rule.check.CountsTargets complaint wrong) (facts : Facts) (module : Module)
    (state : Snapshot) :
    Reports rule facts module state (fun block finding =>
      finding = ⟨complaint, block.file, block.line⟩ ∧
        wrong (Route.named module.scope block + Route.masked module.scope block)) ∧
    ((∀ block ∈ module.resources rule.resourceType, Route.masked module.scope block = 0) →
      Reports rule facts module state fun block finding =>
        finding = ⟨complaint, block.file, block.line⟩ ∧
          wrong (Route.named module.scope block)) ∧
    (module.scope.NullFree → ∀ block, Route.IsPlain block →
      Route.masked module.scope block = 0) := by
  have judged := Rule.reports_of_countsTargets counts facts module state
  simp only [Route.targetCount_eq module.scope] at judged
  refine ⟨judged, fun open' => ?_, fun free block => Route.masked_eq_zero free⟩
  refine judged.congr fun block member finding => ?_
  rw [open' block member, Nat.add_zero]

end RuleRun

/-- The rule on routes with several targets. -/
def Rule.surplusTarget : Rule :=
  ⟨"aws_route_specified_multiple_targets", "aws_route", "", .error, true, .targetSingle⟩

/-- A route whose gateway is a variable that is null, and one whose gateway is written as `null`.
Both name another target. -/
def Module.gateways : Module :=
  let files := (ConfigFile.parse? "main.tf" ("variable \"none\" \x7b\n  default = null\n\x7d\n" ++
    "resource \"aws_route\" \"a\" \x7b\n  gateway_id = var.none\n" ++
    "  nat_gateway_id = \"nat-1\"\n\x7d\n" ++
    "resource \"aws_route\" \"b\" \x7b\n  gateway_id = null\n" ++
    "  nat_gateway_id = \"nat-1\"\n\x7d\n")).toList
  .ofFiles "" files (.ofInputs (Scope.variableDefaults files) files)

/-- The null in a variable counts as a second target, the word does not. -/
theorem RuleRun.detects_targets_gateways :
    Rule.surplusTarget ∈ Rule.catalogue ∧
      Rule.surplusTarget.check.CountsTargets
        "More than one routing target specified. It must be one." (1 < ·) ∧
      (Module.gateways.resources "aws_route").map (fun block =>
        (Route.named Module.gateways.scope block, Route.masked Module.gateways.scope block)) =
          [(1, 1), (1, 0)] ∧
      Reports .surplusTarget .none .gateways .empty (fun block finding =>
        finding = ⟨"More than one routing target specified. It must be one.", block.file,
          block.line⟩ ∧
        1 < Route.named Module.gateways.scope block + Route.masked Module.gateways.scope block) ∧
      (Rule.surplusTarget.findings .none .gateways .empty).map (·.line) = [4] := by
  have shown : (Module.gateways.resources "aws_route").map (fun block =>
        (Route.named Module.gateways.scope block, Route.masked Module.gateways.scope block)) =
          [(1, 1), (1, 0)] ∧
      (Rule.surplusTarget.findings .none .gateways .empty).map (·.line) = [4] := by
    decide +kernel
  obtain ⟨reports, -⟩ :=
    detects_targets (show Rule.surplusTarget.check.CountsTargets _ _ from .single) .none .gateways
      .empty
  exact ⟨by decide +kernel, .single, shown.1, reports, shown.2⟩

/-- A route whose only target is a null in parentheses. -/
def Module.unrouted : Module :=
  .ofFiles "" (ConfigFile.parse? "main.tf"
    "resource \"aws_route\" \"r\" \x7b\n  gateway_id = (null)\n\x7d\n").toList .empty

/-- A null in parentheses counts as a target.  So the rules do not judge every route by the targets
that it names. -/
theorem RuleRun.not_forall_targets_named :
    ¬ ∀ (rule : Rule) (complaint : String) (wrong : Nat → Prop) (facts : Facts) (module : Module)
        (state : Snapshot),
      rule ∈ Rule.catalogue → rule.check.CountsTargets complaint wrong →
      (∀ file ∈ module.files, ∃ source, ConfigFile.parse? file.path source = some file) →
      Reports rule facts module state fun block finding =>
        finding = ⟨complaint, block.file, block.line⟩ ∧
          wrong (Route.named module.scope block) := by
  intro always
  obtain ⟨rule, member, check, type⟩ : ∃ rule ∈ Rule.catalogue,
      rule.check = .targetGiven ∧ rule.resourceType = "aws_route" := by decide +kernel
  have parsed : ∀ file ∈ Module.unrouted.files,
      ∃ source, ConfigFile.parse? file.path source = some file := by
    intro file inside
    simp only [Module.unrouted, Module.ofFiles] at inside
    exact ConfigFile.exists_source_of_mem inside
  have shown : (∀ block ∈ Module.unrouted.resources "aws_route",
      Route.named Module.unrouted.scope block = 0 ∧ Route.targetCount block = 1) ∧
      0 < (Module.unrouted.resources "aws_route").length := by decide +kernel
  rw [← type] at shown
  obtain ⟨numbers, some⟩ := shown
  have counts := check.symm ▸ Check.CountsTargets.given
  have byName := always rule _ _ .none .unrouted .empty member counts parsed
  have byNumber := rule.reports_of_countsTargets counts .none .unrouted .empty
  -- By what it names the route would be reported, by what is counted it is not.
  obtain ⟨block, inside⟩ := List.exists_mem_of_length_pos some
  have reported := byName.mem_findings_iff.2 ⟨block, inside, rfl, (numbers block inside).1⟩
  obtain ⟨other, inside, -, none⟩ := byNumber.mem_findings_iff.1 reported
  rw [(numbers other inside).2] at none
  cases none

end InfraLint
