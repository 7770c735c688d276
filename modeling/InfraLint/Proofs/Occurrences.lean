import InfraLint.Proofs.Places
import InfraLint.Rule.Catalogue

/-!
# Occurrences of wrong values

A rule that compares values with a table, or with the names that exist at the provider, reports every
wrong value that it meets.  Where a value occurs is told by three numbers: the position of the file
in the module, of the block in the file, and of the element in the attribute.  A scalar attribute has
one element, a list has as many as it has items, be it an array literal or a list that an expression
gives.

The report is one finding for each position with a wrong value, in the order of the positions
(`RuleRun.detects_occurrences`).  What stands in a position depends on the element there and on no
other one (`Rule.WrongAt`), so that an element that cannot be resolved is missing from the report and
changes nothing else.

The report is made by going through lists inside lists and leaving things out.  `Enumerates` says
what each of these steps does to positions.
-/

namespace InfraLint

/-! ## Enumerations -/

section

variable {ι κ α β : Type} {before : ι → ι → Prop} {after : κ → κ → Prop} {stands : ι → α → Prop}
  {items : List α}

/-- A list holds what stands in positions: each of them once, and in their order. -/
def Enumerates (before : ι → ι → Prop) (stands : ι → α → Prop) (items : List α) : Prop :=
  ∃ occurrences : List (ι × α), occurrences.map Prod.snd = items ∧
    occurrences.Pairwise (fun first second => before first.1 second.1) ∧
    ∀ position item, (position, item) ∈ occurrences ↔ stands position item

namespace Enumerates

/-- A list holds its items by their indices. -/
theorem of_list (items : List α) :
    Enumerates (· < ·) (fun (index : Nat) item => items[index]? = some item) items := by
  refine ⟨items.zipIdx.map Prod.swap, ?_, ?_, fun index item => ?_⟩
  · rw [List.map_map]
    exact List.zipIdx_map_fst 0 items
  · rw [List.pairwise_map]
    have indices := List.pairwise_lt_range' (s := 0) (n := items.length)
    rw [← List.zipIdx_map_snd, List.pairwise_map] at indices
    exact indices
  · show _ ↔ items[index]? = some item
    rw [← List.mk_mem_zipIdx_iff_getElem?]
    simp

theorem congr {other : ι → α → Prop} (listed : Enumerates before stands items)
    (same : ∀ position item, stands position item ↔ other position item) :
    Enumerates before other items := by
  obtain ⟨occurrences, shown, ordered, each⟩ := listed
  exact ⟨occurrences, shown, ordered, fun position item =>
    (each position item).trans (same position item)⟩

theorem filterMap (listed : Enumerates before stands items) (f : α → Option β) :
    Enumerates before (fun position image => ∃ item, stands position item ∧ f item = some image)
      (items.filterMap f) := by
  obtain ⟨occurrences, rfl, ordered, each⟩ := listed
  refine ⟨occurrences.filterMap fun found => (f found.2).map (found.1, ·), ?_, ?_,
    fun position image => ?_⟩
  · rw [List.map_filterMap, List.filterMap_map]
    refine List.filterMap_congr fun found _ => ?_
    simp
  · rw [List.pairwise_filterMap]
    refine ordered.imp fun earlier x first y second => ?_
    obtain ⟨_, -, rfl⟩ := Option.map_eq_some_iff.1 first
    obtain ⟨_, -, rfl⟩ := Option.map_eq_some_iff.1 second
    exact earlier
  · simp [← each]

theorem filter (listed : Enumerates before stands items) (p : α → Bool) :
    Enumerates before (fun position item => stands position item ∧ p item = true)
      (items.filter p) := by
  rw [← List.filterMap_eq_filter]
  refine (listed.filterMap _).congr fun position item => ?_
  simp [Option.guard_eq_some_iff]

theorem map (listed : Enumerates before stands items) (f : α → β) :
    Enumerates before (fun position image => ∃ item, stands position item ∧ f item = image)
      (items.map f) := by
  rw [← List.filterMap_eq_map]
  refine (listed.filterMap _).congr fun position item => ?_
  simp

/-- Lists inside a list are gone through one after the other. -/
theorem flatMap {inside : α → κ → β → Prop} {f : α → List β}
    (listed : Enumerates before stands items)
    (inner : ∀ item, Enumerates after (inside item) (f item)) :
    Enumerates (Prod.Lex before after)
      (fun position image => ∃ item, stands position.1 item ∧ inside item position.2 image)
      (items.flatMap f) := by
  obtain ⟨occurrences, rfl, ordered, each⟩ := listed
  choose parts shown orderedParts eachPart using inner
  refine ⟨occurrences.flatMap fun found =>
    (parts found.2).map fun part => ((found.1, part.1), part.2), ?_, ?_, fun position image => ?_⟩
  · rw [List.map_flatMap, List.flatMap_map]
    refine congrArg (List.flatMap · occurrences) (funext fun found => ?_)
    rw [List.map_map, ← shown found.2]
    rfl
  · -- within one part the second positions tell, between two parts the first ones
    rw [List.pairwise_flatMap]
    constructor
    · intro found _
      rw [List.pairwise_map]
      exact (orderedParts found.2).imp fun earlier => .right _ earlier
    · refine ordered.imp fun earlier x first y second => ?_
      obtain ⟨_, -, rfl⟩ := List.mem_map.1 first
      obtain ⟨_, -, rfl⟩ := List.mem_map.1 second
      exact .left _ _ earlier
  · obtain ⟨outer, deep⟩ := position
    simp only [← each, ← eachPart, List.mem_flatMap, List.mem_map, Prod.exists, Prod.mk.injEq]
    constructor
    · rintro ⟨_, item, there, _, _, part, ⟨rfl, rfl⟩, rfl⟩
      exact ⟨item, there, part⟩
    · rintro ⟨item, there, part⟩
      exact ⟨outer, item, there, deep, image, part, ⟨rfl, rfl⟩, rfl⟩

end Enumerates

end

/-! ## The elements of an attribute -/

/-- An attribute of a shape gives a string as the element with an index, and the string is cited at a
file and line. -/
inductive Scope.GivesAt (scope : Scope) (attr : Attribute) :
    Shape → Nat → String → String × Nat → Prop where
  /-- The value of the attribute is its only element. -/
  | scalar {value : String} :
      scope.resolve attr.token = .ok value →
      GivesAt scope attr .scalar 0 value (attr.file, attr.line)
  /-- An element of an array literal is cited where it is written. -/
  | element {tokens : List Token} {index : Nat} {token : Token} {value : String} :
      attr.elements = some tokens → tokens[index]? = some token →
      scope.resolve token = .ok value →
      GivesAt scope attr .list index value (token.file, token.line)
  /-- An item of a list that an expression gives is cited at the attribute. -/
  | item {e : Expr} {items : List Value} {index : Nat} {value : String} :
      attr.elements = none → attr.token.expression? = some e →
      scope.evaluate e = .ok (.list items) → items[index]? = some (.string value) →
      GivesAt scope attr .list index value (attr.file, attr.line)

namespace Scope

variable {scope : Scope} {attr : Attribute} {shape : Shape} {index : Nat} {value : String}
  {spot : String × Nat}

/-- The tokens of an attribute by their indices are what gives its strings. -/
theorem givesAt_iff : scope.GivesAt attr shape index value spot ↔
    ∃ token, (scope.tokens attr shape)[index]? = some token ∧ scope.resolve token = .ok value ∧
      token.spot = spot := by
  constructor
  · intro gives
    cases gives with
    | scalar resolved => exact ⟨attr.token, rfl, resolved, rfl⟩
    | @element tokens _ token _ given there resolved =>
        have listed : scope.resolveList attr = .ok tokens := by rw [resolveList, given]
        refine ⟨token, ?_, resolved, rfl⟩
        rw [Scope.tokens, listed]
        exact there
    | @item e items _ _ absent written evaluated there =>
        have listed := scope.resolveList_of_evaluate absent written evaluated
        refine ⟨elementToken attr.token (.string value), ?_, rfl, rfl⟩
        rw [Scope.tokens, listed]
        exact (List.getElem?_map ..).trans (congrArg (Option.map _) there)
  · rintro ⟨token, there, resolved, rfl⟩
    cases shape with
    | scalar =>
        rw [tokens, List.getElem?_singleton] at there
        split at there
        · next first =>
          cases there
          subst first
          exact .scalar resolved
        · cases there
    | list =>
        simp only [tokens] at there
        cases listed : scope.resolveList attr with
        | error cause =>
            rw [listed] at there
            cases there
        | ok elements =>
            rw [listed] at there
            rcases scope.resolveList_eq_ok listed with written |
              ⟨e, items, absent, expression, evaluated, rfl⟩
            · exact .element written there resolved
            · rw [List.getElem?_map, Option.map_eq_some_iff] at there
              obtain ⟨item, there, rfl⟩ := there
              cases resolve_elementToken resolved
              exact .item absent expression evaluated there

/-- The values of an attribute are those of its elements that can be resolved. -/
theorem enumerates_values (scope : Scope) (attr : Attribute) (shape : Shape) :
    Enumerates (· < ·) (fun (index : Nat) found =>
      ∃ token, (scope.tokens attr shape)[index]? = some token ∧ scope.resolved? token = some found)
      (scope.values attr shape) :=
  (Enumerates.of_list _).filterMap _

theorem resolved?_eq_some_iff {token : Token} {found : ResolvedValue} :
    scope.resolved? token = some found ↔
      scope.resolve token = .ok found.value ∧ found.token = token := by
  unfold resolved?
  cases scope.resolve token with
  | error cause => simp
  | ok text =>
      obtain ⟨value, other⟩ := found
      simp [eq_comm]

end Scope

/-! ## The findings in a block -/

namespace Rule

/-- The element of an attribute with an index gives a wrong value.  The finding quotes it. -/
inductive WrongIn (rule : Rule) (shape : Shape) (wrong : String → Prop) (complaint : String)
    (scope : Scope) (block : Block) : Nat → Finding → Prop where
  | value {attr : Attribute} {index : Nat} {value file : String} {line : Nat} :
      block.attribute? rule.attr = some attr →
      scope.GivesAt attr shape index value (file, line) → wrong value →
      WrongIn rule shape wrong complaint scope block index
        ⟨"\"" ++ value ++ "\" " ++ complaint, file, line⟩

variable {rule : Rule} {shape : Shape} {wrong : String → Prop} {complaint : String}
  {scope : Scope} {block : Block}

theorem enumerates_valueFindings {isWrong : String → Bool}
    (decides : ∀ value, isWrong value = true ↔ wrong value) :
    Enumerates (· < ·) (rule.WrongIn shape wrong complaint scope block)
      (rule.valueFindings scope block shape isWrong complaint) := by
  unfold valueFindings Block.values
  cases given : block.attribute? rule.attr with
  | none =>
      refine ((Enumerates.of_list []).map _).congr fun index finding => ⟨?_, ?_⟩
      · rintro ⟨found, there, -⟩
        cases there
      · rintro ⟨given', -, -⟩
        cases given.symm.trans given'
  | some attr =>
      refine (((scope.enumerates_values attr shape).filter _).map _).congr
        fun index finding => ⟨?_, ?_⟩
      · rintro ⟨found, ⟨⟨token, there, resolved⟩, isWrong⟩, rfl⟩
        obtain ⟨resolved, rfl⟩ := Scope.resolved?_eq_some_iff.1 resolved
        exact .value given (Scope.givesAt_iff.2 ⟨_, there, resolved, rfl⟩) ((decides _).1 isWrong)
      · rintro ⟨given', gives, isWrong⟩
        cases given.symm.trans given'
        obtain ⟨token, there, resolved, spot⟩ := Scope.givesAt_iff.1 gives
        cases spot
        exact ⟨⟨_, token⟩, ⟨⟨token, there, Scope.resolved?_eq_some_iff.2 ⟨resolved, rfl⟩⟩,
          (decides _).2 isWrong⟩, rfl⟩

end Rule

/-! ## The findings in a module -/

/-- What a check of values takes for wrong, given a session with the provider: the shape of the
attribute, the wrong values, and what is said about them. -/
inductive Check.Rejects (session : Session) :
    Check → Shape → (String → Prop) → String → Prop where
  /-- The provider has answered, and a name is not among those that exist. -/
  | reference {query : Query} {shape : Shape} {noun : String} {known : Names} {next : Session} :
      session.fetch query = (.ok known, next) →
      Rejects session (.reference query shape noun) shape (· ∉ known) ("is invalid " ++ noun ++ ".")
  /-- A value is not among those that are allowed. -/
  | required {table : List String} {complaint : String} :
      Rejects session (.listed table .required complaint) .scalar (· ∉ table) complaint
  /-- A value is among those that are not allowed. -/
  | forbidden {table : List String} {complaint : String} :
      Rejects session (.listed table .forbidden complaint) .scalar (· ∈ table) complaint

/-- Where a value occurs in a module: the positions of the file, of the block in it and of the
element in the attribute. -/
abbrev Position := Nat × Nat × Nat

/-- The order of positions: by file, then by block, then by element. -/
def Position.Before : Position → Position → Prop :=
  Prod.Lex (· < ·) (Prod.Lex (· < ·) (· < ·))

namespace Rule

/-- In a position of a module there is a wrong value of a resource that the rule looks at. -/
inductive WrongAt (rule : Rule) (shape : Shape) (wrong : String → Prop) (complaint : String)
    (module : Module) : Position → Finding → Prop where
  | element {file : ConfigFile} {block : Block} {finding : Finding} {place number index : Nat} :
      module.files[place]? = some file → file.blocks[number]? = some block →
      block.isResourceOf rule.resourceType = true →
      rule.WrongIn shape wrong complaint module.scope block index finding →
      WrongAt rule shape wrong complaint module (place, number, index) finding

variable {rule : Rule} {shape : Shape} {wrong : String → Prop} {complaint : String}

theorem enumerates_findings {facts : Facts} {module : Module} {state : Snapshot}
    (each : ∀ block, Enumerates (· < ·) (rule.WrongIn shape wrong complaint module.scope block)
      (rule.blockFindings facts module state block)) :
    Enumerates Position.Before (rule.WrongAt shape wrong complaint module)
      (rule.findings facts module state) := by
  unfold findings Module.resources
  rw [List.flatMap_assoc]
  have inFile (file : ConfigFile) :=
    ((Enumerates.of_list file.blocks).filter (·.isResourceOf rule.resourceType)).flatMap each
  refine ((Enumerates.of_list module.files).flatMap inFile).congr fun position finding => ⟨?_, ?_⟩
  · rintro ⟨file, atFile, block, ⟨atBlock, isResource⟩, wrong⟩
    exact .element atFile atBlock isResource wrong
  · rintro ⟨atFile, atBlock, isResource, wrong⟩
    exact ⟨_, atFile, _, ⟨atBlock, isResource⟩, wrong⟩

/-- A check that rejects values prepares, and finds the rejected values of each block. -/
theorem exists_prepare_of_rejects {session : Session}
    (rejects : rule.check.Rejects session shape wrong complaint) :
    ∃ facts next, rule.check.prepare session = (.ok facts, next) ∧
      ∀ module state block, Enumerates (· < ·)
        (rule.WrongIn shape wrong complaint module.scope block)
        (rule.blockFindings facts module state block) := by
  generalize check : rule.check = kind at rejects
  cases rejects with
  | @reference query shape noun known next fetched =>
      refine ⟨⟨known, .ok none⟩, next, ?_, fun module state block => ?_⟩
      · rw [Check.prepare_reference, fetched]
        rfl
      · simp only [blockFindings, check]
        exact enumerates_valueFindings fun value => by simp
  | required | forbidden =>
      refine ⟨.none, session, rfl, fun module state block => ?_⟩
      simp only [blockFindings, check]
      exact enumerates_valueFindings fun value => by simp [Membership.isViolated]

end Rule

/-- A rule that compares values with a table or with the names that exist, which the provider has
told, prepares and detects one finding for each position of the module with a wrong value, in the
order of the positions.  This is so for every module, whatever its scope, and every state. -/
theorem RuleRun.detects_occurrences {rule : Rule} {session : Session} {shape : Shape}
    {wrong : String → Prop} {complaint : String}
    (rejects : rule.check.Rejects session shape wrong complaint) (module : Module)
    (state : Snapshot) :
    ∃ facts next findings, (start rule).prepare session = (.ok (), prepared rule facts, next) ∧
      (prepared rule facts).detect module state = (.ok (), ⟨rule, .detected, facts, findings⟩) ∧
      Enumerates Position.Before (rule.WrongAt shape wrong complaint module) findings := by
  obtain ⟨facts, next, learnt, each⟩ := Rule.exists_prepare_of_rejects rejects
  exact ⟨facts, next, rule.findings facts module state, prepare_start_of_ok learnt, rfl,
    Rule.enumerates_findings fun block => each module state block⟩

/-- Two load balancers.  The subnets of the first one are an array literal with an element that cannot
be resolved, those of the second one are an input variable. -/
def Module.balancers : Module :=
  .ofFiles "" (ConfigFile.parse? "main.tf" ("resource \"aws_elb\" \"a\" \x7b\n  subnets = [\n" ++
    "    \"old\", var.missing, \"new\",\n    \"old\"]\n\x7d\n" ++
    "resource \"aws_elb\" \"b\" \x7b\n  subnets = var.subnets\n\x7d\n")).toList
    ⟨[("subnets", .list [.string "gone", .bool true, .string "new", .string "old"])], []⟩

/-- The rule on the subnets of load balancers. -/
def Rule.balancerSubnets : Rule :=
  reference "aws_elb_invalid_subnet" "aws_elb" "subnets" .subnetIds .list "subnet ID"

/-- Only `new` exists.  The literal is cited at the lines of its elements, the variable at the line of
the attribute. -/
theorem RuleRun.detects_occurrences_balancers :
    Registry.default.get? "aws_elb_invalid_subnet" = some .balancerSubnets ∧
    ∃ facts next findings, (start .balancerSubnets).prepare (.start (fun _ _ => .ok ["new"]) []) =
        (.ok (), prepared .balancerSubnets facts, next) ∧
      (prepared .balancerSubnets facts).detect .balancers .empty =
        (.ok (), ⟨.balancerSubnets, .detected, facts, findings⟩) ∧
      Enumerates Position.Before (Rule.balancerSubnets.WrongAt .list (· ∉ ["new"])
        "is invalid subnet ID." .balancers) findings ∧
      findings.map (fun finding => (finding.message, finding.line)) =
        [("\"old\" is invalid subnet ID.", 3), ("\"old\" is invalid subnet ID.", 4),
          ("\"gone\" is invalid subnet ID.", 7), ("\"old\" is invalid subnet ID.", 7)] := by
  have found : (((start .balancerSubnets).prepare (.start (fun _ _ => .ok ["new"]) [])).2.1.detect
      .balancers .empty).2.findings.map (fun finding => (finding.message, finding.line)) =
        [("\"old\" is invalid subnet ID.", 3), ("\"old\" is invalid subnet ID.", 4),
          ("\"gone\" is invalid subnet ID.", 7), ("\"old\" is invalid subnet ID.", 7)] := by
    decide +kernel
  have rejects : Rule.balancerSubnets.check.Rejects (.start (fun _ _ => .ok ["new"]) []) .list
      (· ∉ ["new"]) ("is invalid " ++ "subnet ID" ++ ".") := .reference rfl
  obtain ⟨facts, next, findings, prepares, detects, listed⟩ :=
    detects_occurrences rejects .balancers .empty
  rw [prepares, detects] at found
  exact ⟨by decide +kernel, facts, next, findings, prepares, detects, listed, found⟩

end InfraLint
