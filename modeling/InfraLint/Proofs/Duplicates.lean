import InfraLint.Proofs.GroupNames

/-!
# Names that are in use

A rule on unique names looks at one block of its type at a time.  Four things can be missing there:
the name, the attribute that the name is unique within, the default network that stands for it, and
a record of the block in the state.  Each can also be there and of no use: a value that cannot be
resolved, a network that could not be looked up, a record of something else.

`Unique.KeyOf` says which key a value has in each of these cases, and `Recorded.Contradicts` which
record is of something else.  `Rule.IsDuplicate` puts them together.  A prepared run detects exactly
the duplicates, one for each block that has one and in the order of the blocks, whatever it has
learnt (`RuleRun.detects_duplicates`).
-/

namespace InfraLint

/-! ## Keys -/

/-- The key that a value of a block is looked up under: the value itself, or the value within the
scope that the block gives, or within the default network if it gives none.  There is no key if the
scope cannot be resolved, or if it is not given and the default could not be looked up. -/
inductive Unique.KeyOf (facts : Facts) (scope : Scope) (block : Block) (value : String) :
    Option String → String → Prop where
  | unscoped : KeyOf facts scope block value none value
  | given {attr place : String} {found : Attribute} :
      block.attribute? attr = some found → scope.resolve found.token = .ok place →
      KeyOf facts scope block value (some attr) (place ++ "." ++ value)
  | default {attr network : String} :
      block.attribute? attr = none → facts.network = .ok (some network) →
      KeyOf facts scope block value (some attr) (network ++ "." ++ value)
  | unlisted {attr : String} :
      block.attribute? attr = none → facts.network = .ok none →
      KeyOf facts scope block value (some attr) ("" ++ "." ++ value)

namespace Unique

variable {facts : Facts} {scope : Scope} {block : Block} {value key : String}

theorem KeyOf.key?_eq {within : Option String} (told : KeyOf facts scope block value within key) :
    key? facts scope block within value = some key := by
  cases told with
  | unscoped => rfl
  | given given resolved => rw [key?_of_given given, resolved]; rfl
  | default absent looked => rw [key?_of_absent absent, looked]; rfl
  | unlisted absent looked => rw [key?_of_absent absent, looked]; rfl

theorem key?_eq_some_iff {within : Option String} :
    key? facts scope block within value = some key ↔ KeyOf facts scope block value within key := by
  refine ⟨fun made => ?_, KeyOf.key?_eq⟩
  cases within with
  | none =>
      cases made
      exact .unscoped
  | some attr =>
      cases written : block.attribute? attr with
      | some found =>
          rw [key?_of_given written, Option.map_eq_some_iff] at made
          obtain ⟨place, resolved, rfl⟩ := made
          exact .given written (toOption_eq_some_iff.1 resolved)
      | none =>
          rw [key?_of_absent written, Option.map_eq_some_iff] at made
          obtain ⟨network, looked, rfl⟩ := made
          rw [toOption_eq_some_iff] at looked
          cases network with
          | some network => exact .default written looked
          | none => exact .unlisted written looked

end Unique

/-! ## Records -/

/-- A record contradicts a value: it tells the attribute with another value, and its identifier is
another one too. -/
structure Recorded.Contradicts (recorded : Recorded) (attr value : String) : Prop where
  tells : ∃ text, recorded.attribute? attr = some text ∧ text ≠ value
  id : recorded.id ≠ value

/-- A block is not deployed under a value if every record of it contradicts the value. -/
theorem Snapshot.not_deploys_iff {state : Snapshot} {type attr : String} {block : Block}
    {value : String} :
    ¬ state.Deploys type attr block value ↔
      ∀ name recorded, block.resourceName? = some name → state.get? type name = some recorded →
        recorded.Contradicts attr value := by
  constructor
  · intro foreign name recorded named there
    constructor
    · by_contra agrees
      refine foreign ⟨name, recorded, named, there, .inl fun text told => ?_⟩
      by_contra other
      exact agrees ⟨text, told, other⟩
    · exact fun same => foreign ⟨name, recorded, named, there, .inr same⟩
  · rintro contradicts ⟨name, recorded, named, there, own⟩
    obtain ⟨⟨text, told, other⟩, another⟩ := contradicts name recorded named there
    exact own.elim (fun agrees => other (agrees text told)) another

/-! ## Duplicates -/

namespace Rule

variable {rule : Rule} {query : Query} {noun : String} {within : Option String} {facts : Facts}
  {module : Module} {scope : Scope} {state : Snapshot} {block : Block} {finding : Finding}

/-- A block has a name that is in use, and the state does not record that the block itself is what
uses it.  The finding is at the place of the name. -/
inductive IsDuplicate (rule : Rule) (noun : String) (within : Option String) (facts : Facts)
    (scope : Scope) (state : Snapshot) (block : Block) : Finding → Prop where
  | inUse {attr : Attribute} {value key : String} :
      block.attribute? rule.attr = some attr → scope.resolve attr.token = .ok value →
      Unique.KeyOf facts scope block value within key → key ∈ facts.known →
      (∀ name recorded, block.resourceName? = some name →
        state.get? rule.resourceType name = some recorded →
          recorded.Contradicts rule.attr value) →
      IsDuplicate rule noun within facts scope state block
        ⟨"\"" ++ value ++ "\" is duplicate " ++ noun ++ ". It must be unique.", attr.file,
          attr.line⟩

theorem isTaken_iff {value : String} :
    rule.isTaken facts scope state block within value = true ↔
      ∃ key, Unique.KeyOf facts scope block value within key ∧ key ∈ facts.known ∧
        ¬ state.Deploys rule.resourceType rule.attr block value := by
  simp only [← Unique.key?_eq_some_iff, ← Unique.isDeployed_iff, isTaken]
  cases Unique.key? facts scope block within value with
  | none => simp
  | some key => simp

theorem blockFindings_unique (check : rule.check = .unique query noun within) :
    rule.blockFindings facts module state block =
      rule.valueFindings module.scope block .scalar
        (rule.isTaken facts module.scope state block within)
        ("is duplicate " ++ noun ++ ". It must be unique.") := by
  simp only [blockFindings, check]

/-- The finding of a duplicate at the place of a name. -/
theorem finding_duplicate (attr : Attribute) (value noun : String) :
    ResolvedValue.finding ⟨value, attr.token⟩ ("is duplicate " ++ noun ++ ". It must be unique.") =
      ⟨"\"" ++ value ++ "\" is duplicate " ++ noun ++ ". It must be unique.", attr.file,
        attr.line⟩ := by
  simp only [ResolvedValue.finding, String.append_assoc]
  rfl

theorem IsDuplicate.blockFindings_eq (check : rule.check = .unique query noun within)
    (duplicate : rule.IsDuplicate noun within facts module.scope state block finding) :
    rule.blockFindings facts module state block = [finding] := by
  obtain ⟨given, resolved, told, live, foreign⟩ := duplicate
  have taken := isTaken_iff.2 ⟨_, told, live, Snapshot.not_deploys_iff.2 foreign⟩
  rw [blockFindings_unique check, rule.valueFindings_of_resolve given resolved, if_pos taken,
    finding_duplicate]

theorem isDuplicate_of_mem (check : rule.check = .unique query noun within)
    (found : finding ∈ rule.blockFindings facts module state block) :
    rule.IsDuplicate noun within facts module.scope state block finding := by
  rw [blockFindings_unique check] at found
  by_cases named : ∃ attr value, block.attribute? rule.attr = some attr ∧
      module.scope.resolve attr.token = .ok value
  · obtain ⟨attr, value, given, resolved⟩ := named
    rw [rule.valueFindings_of_resolve given resolved] at found
    split at found
    · next taken =>
      obtain ⟨key, told, live, foreign⟩ := isTaken_iff.1 taken
      rw [List.mem_singleton.1 found, finding_duplicate]
      exact .inUse given resolved told live (Snapshot.not_deploys_iff.1 foreign)
    · cases found
  · rw [rule.valueFindings_of_unresolved fun attr given value resolved =>
      named ⟨attr, value, given, resolved⟩] at found
    cases found

/-- A block has one duplicate at most, so the first one is all there is. -/
theorem toList_head?_blockFindings (check : rule.check = .unique query noun within) :
    (rule.blockFindings facts module state block).head?.toList =
      rule.blockFindings facts module state block := by
  cases found : rule.blockFindings facts module state block with
  | nil => rfl
  | cons finding rest =>
      have duplicate : rule.IsDuplicate noun within facts module.scope state block finding :=
        isDuplicate_of_mem check (found ▸ List.mem_cons_self)
      rw [duplicate.blockFindings_eq check] at found
      rw [← found]
      rfl

theorem head?_blockFindings_eq_some_iff (check : rule.check = .unique query noun within) :
    (rule.blockFindings facts module state block).head? = some finding ↔
      rule.IsDuplicate noun within facts module.scope state block finding := by
  constructor
  · intro first
    exact isDuplicate_of_mem check (List.mem_of_head? first)
  · intro duplicate
    rw [duplicate.blockFindings_eq check]
    rfl

/-- What is a duplicate in a block that gives the scope does not depend on the default network. -/
theorem IsDuplicate.of_given {attr : String} {network : Except String (Option String)}
    (given : block.hasAttribute attr = true)
    (duplicate : rule.IsDuplicate noun (some attr) facts scope state block finding) :
    rule.IsDuplicate noun (some attr) ⟨facts.known, network⟩ scope state block finding := by
  obtain ⟨named, resolved, told, live, foreign⟩ := duplicate
  refine .inUse named resolved ?_ live foreign
  cases told with
  | given given resolved => exact .given given resolved
  | default absent => simp [Block.hasAttribute, absent] at given
  | unlisted absent => simp [Block.hasAttribute, absent] at given

end Rule

/-- A prepared run of a rule on unique names detects exactly the duplicates: one for each block that
has one, in file then source order of the blocks.  This is so for every set of names that exist and
every result of looking up the default network, and for a block that gives the scope of its name the
result makes no difference, be it a network, none or a failure. -/
theorem RuleRun.detects_duplicates {rule : Rule} {query : Query} {noun : String}
    {within : Option String} (check : rule.check = .unique query noun within) (known : Names)
    (module : Module) (state : Snapshot) :
    ∃ report : Except String (Option String) → Block → Option Finding,
      (∀ network, (prepared rule ⟨known, network⟩).detect module state =
        (.ok (), ⟨rule, .detected, ⟨known, network⟩,
          (module.resources rule.resourceType).filterMap (report network)⟩)) ∧
      (∀ network block finding, report network block = some finding ↔
        rule.IsDuplicate noun within ⟨known, network⟩ module.scope state block finding) ∧
      ∀ attr block network other, within = some attr → block.hasAttribute attr = true →
        report network block = report other block := by
  refine ⟨fun network block => (rule.blockFindings ⟨known, network⟩ module state block).head?,
    ?_, ?_, ?_⟩
  · intro network
    have each : (module.resources rule.resourceType).filterMap
          (fun block => (rule.blockFindings ⟨known, network⟩ module state block).head?) =
        rule.findings ⟨known, network⟩ module state := by
      simp only [List.filterMap_eq_flatMap_toList, Rule.toList_head?_blockFindings check]
      rfl
    rw [each]
    rfl
  · intro network block finding
    exact Rule.head?_blockFindings_eq_some_iff check
  · rintro attr block network other rfl given
    ext finding
    simp only [Rule.head?_blockFindings_eq_some_iff check]
    exact ⟨.of_given given, .of_given given⟩

/-- Two groups of one name that is in use in `vpc-d`: the one that names its network is reported even
if the default network could not be looked up, the other one only if the default is `vpc-d`. -/
theorem RuleRun.detects_duplicates_groups :
    Rule.groupNames.check = .unique .securityGroupNames "name" (some "vpc_id") ∧
    ∃ report : Except String (Option String) → Block → Option Finding,
      (∀ network, (prepared .groupNames ⟨["vpc-d.web.public"], network⟩).detect .groups .empty =
        (.ok (), ⟨.groupNames, .detected, ⟨["vpc-d.web.public"], network⟩,
          (Module.groups.resources "aws_security_group").filterMap (report network)⟩)) ∧
      (∀ network block finding, report network block = some finding ↔
        Rule.groupNames.IsDuplicate "name" (some "vpc_id") ⟨["vpc-d.web.public"], network⟩
          Module.groups.scope .empty block finding) ∧
      (∀ block network other, block.hasAttribute "vpc_id" = true →
        report network block = report other block) ∧
      (Module.groups.resources "aws_security_group").filterMap (report (.error "denied")) =
        [⟨"\"web.public\" is duplicate name. It must be unique.", "main.tf", 5⟩] ∧
      (Module.groups.resources "aws_security_group").filterMap (report (.ok (some "vpc-d"))) =
        [⟨"\"web.public\" is duplicate name. It must be unique.", "main.tf", 2⟩,
          ⟨"\"web.public\" is duplicate name. It must be unique.", "main.tf", 5⟩] := by
  have found : ((prepared .groupNames ⟨["vpc-d.web.public"], .error "denied"⟩).detect .groups
        .empty).2.findings =
          [⟨"\"web.public\" is duplicate name. It must be unique.", "main.tf", 5⟩] ∧
      ((prepared .groupNames ⟨["vpc-d.web.public"], .ok (some "vpc-d")⟩).detect .groups
        .empty).2.findings =
          [⟨"\"web.public\" is duplicate name. It must be unique.", "main.tf", 2⟩,
            ⟨"\"web.public\" is duplicate name. It must be unique.", "main.tf", 5⟩] := by
    decide +kernel
  obtain ⟨report, detects, each, given⟩ :=
    detects_duplicates (show Rule.groupNames.check = _ from rfl) ["vpc-d.web.public"] .groups .empty
  simp only [detects] at found
  exact ⟨rfl, report, detects, each, fun block network other =>
    given "vpc_id" block network other rfl, found⟩

end InfraLint
