import InfraLint.Proofs.Isolation
import InfraLint.Proofs.Responses
import InfraLint.Rule.Catalogue

/-!
# Names of security groups

The name of a security group is unique within its network only, so the rule on these names compares
keys that are made of a network, a dot and a name.  They are made twice: from the response of the
provider, for each group it lists, and from each block of the configuration.

Here both sides are said without keys.  `Json.HasGroup` tells of a response that it lists a name in a
network, `Client.NetworkOf` tells the network of a block, if it can be told, and `Client.Collides`
puts them together with what the state records.  Names may hold dots.  Networks hold none, which is
what makes a key tell both its parts (`qualified_inj`), and so a group is reported exactly if it
collides (`RuleRun.reports_colliding_groups`).
-/

namespace InfraLint

/-! ## Keys -/

/-- A text up to its first dot. -/
theorem takeWhile_before_dot {front : List Char} (free : '.' ∉ front) (rest : List Char) :
    (front ++ '.' :: rest).takeWhile (· != '.') = front := by
  have whole : ∀ c ∈ front, (c != '.') = true := fun c member =>
    bne_iff_ne.2 fun dot => free (dot ▸ member)
  rw [List.takeWhile_append_of_pos whole, List.takeWhile_cons_of_neg (by simp), List.append_nil]

/-- A name behind a network and a dot tells both, as long as networks hold no dots. -/
theorem qualified_inj {network other name name' : String} (undotted : '.' ∉ network.toList)
    (undotted' : '.' ∉ other.toList) :
    network ++ "." ++ name = other ++ "." ++ name' ↔ network = other ∧ name = name' := by
  constructor
  · intro same
    have chars : network.toList ++ '.' :: name.toList = other.toList ++ '.' :: name'.toList := by
      simpa using congrArg String.toList same
    have networks : network.toList = other.toList := by
      rw [← takeWhile_before_dot undotted name.toList, chars, takeWhile_before_dot undotted']
    rw [networks] at chars
    have names := (List.cons.inj (List.append_cancel_left chars)).2
    exact ⟨String.toList_inj.1 networks, String.toList_inj.1 names⟩
  · rintro ⟨rfl, rfl⟩
    rfl

/-! ## Groups in a response -/

namespace Json

/-- A group is in a network: in the one it names, or in the empty one if it names none. -/
def InNetwork (group : Json) (network : String) : Prop :=
  group.get? "VpcId" = some (.string network) ∨
    network = "" ∧ ∀ id, group.get? "VpcId" ≠ some (.string id)

/-- A response lists a group of a name in a network. -/
def HasGroup (response : Json) (network name : String) : Prop :=
  ∃ groups group, response.get? "SecurityGroups" = some (.array groups) ∧ group ∈ groups ∧
    group.get? "GroupName" = some (.string name) ∧ group.InNetwork network

theorem inNetwork_iff {group : Json} {network : String} :
    group.InNetwork network ↔ ((group.get? "VpcId").bind (·.string?)).getD "" = network := by
  simp only [InNetwork, ne_eq, ← bind_string?_eq_some_iff]
  cases (group.get? "VpcId").bind (·.string?) with
  | none => simp [eq_comm]
  | some id => simp

theorem groupKey?_eq_some_iff {group : Json} {key : String} :
    groupKey? group = some key ↔ ∃ network name, group.InNetwork network ∧
      group.get? "GroupName" = some (.string name) ∧ key = network ++ "." ++ name := by
  constructor
  · intro made
    simp only [groupKey?, Option.bind_eq_bind, Option.bind_eq_some_iff] at made
    obtain ⟨value, there, name, isText, made⟩ := made
    rw [string?_eq_some_iff.1 isText] at there
    exact ⟨_, name, inNetwork_iff.2 rfl, there, (Option.some.inj made).symm⟩
  · rintro ⟨network, name, inside, there, rfl⟩
    have isText : (Json.string name).string? = some name := rfl
    rw [inNetwork_iff] at inside
    simp only [groupKey?, there, isText, inside, Option.bind_eq_bind, Option.bind_some]
    rfl

theorem mem_itemsUnder_iff {name : String} {value item : Json} :
    item ∈ itemsUnder name value ↔
      ∃ items, value.get? name = some (.array items) ∧ item ∈ items := by
  rw [itemsUnder]
  cases value.get? name with
  | none => simp
  | some member =>
      cases member with
      | array items => simp [items?]
      | _ => simp [items?]

/-- The keys of a response are those of the groups it lists. -/
theorem mem_groupKeys_iff {response : Json} {key : String} :
    key ∈ groupKeys response ↔
      ∃ network name, response.HasGroup network name ∧ key = network ++ "." ++ name := by
  simp only [groupKeys, List.mem_filterMap, mem_itemsUnder_iff, groupKey?_eq_some_iff]
  constructor
  · rintro ⟨group, ⟨groups, listed, member⟩, network, name, inside, named, rfl⟩
    exact ⟨network, name, ⟨groups, group, listed, member, named, inside⟩, rfl⟩
  · rintro ⟨network, name, ⟨groups, group, listed, member, named, inside⟩, rfl⟩
    exact ⟨group, ⟨groups, listed, member⟩, network, name, inside, named, rfl⟩

end Json

/-! ## Keys of blocks -/

namespace Unique

variable {facts : Facts} {scope : Scope} {block : Block} {attr : String}

theorem key?_of_given {found : Attribute} (given : block.attribute? attr = some found)
    (value : String) :
    key? facts scope block (some attr) value =
      (scope.resolve found.token).toOption.map (· ++ "." ++ value) := by
  simp only [key?, given]

theorem key?_of_absent (absent : block.attribute? attr = none) (value : String) :
    key? facts scope block (some attr) value =
      facts.network.toOption.map fun network => network.getD "" ++ "." ++ value := by
  simp only [key?, absent]
  cases facts.network <;> rfl

end Unique

/-! ## The network of a block -/

namespace Client

variable {client : Client}

/-- The network that stands for one that is left out: the least one listed, or the empty one if none
is.  Without a listing there is no such network. -/
inductive DefaultNetwork (client : Client) : String → Prop where
  | least {vpcs : Json} {id : String} :
      client.Prints .defaultVpc vpcs → vpcs.Found "VpcId" ["Vpcs"] id →
      (∀ other, vpcs.Found "VpcId" ["Vpcs"] other → ¬ other < id) → DefaultNetwork client id
  | unlisted {vpcs : Json} :
      client.Prints .defaultVpc vpcs → (∀ id, ¬ vpcs.Found "VpcId" ["Vpcs"] id) →
      DefaultNetwork client ""

/-- The network of a block: the one that it gives, which must be resolved, or else the default. -/
inductive NetworkOf (client : Client) (scope : Scope) (block : Block) : String → Prop where
  | given {attr : Attribute} {id : String} :
      block.attribute? "vpc_id" = some attr → scope.resolve attr.token = .ok id →
      NetworkOf client scope block id
  | default {network : String} :
      block.attribute? "vpc_id" = none → client.DefaultNetwork network →
      NetworkOf client scope block network

theorem defaultNetwork_iff {network : String} :
    client.DefaultNetwork network ↔ ∃ names,
      (client.provider [] .defaultVpc).toOption = some names ∧ names.head?.getD "" = network := by
  have first (vpcs : Json) : (Names.ofList (Query.defaultVpc.endpoint.read vpcs)).head? =
      (Names.ofList (vpcs.stringsAt "VpcId" ["Vpcs"])).head? := Names.head?_ofList_take_one _
  simp only [toOption_provider_eq_some_iff]
  constructor
  · rintro (⟨printed, found, minimal⟩ | ⟨printed, nowhere⟩)
    · refine ⟨_, ⟨_, printed, rfl⟩, ?_⟩
      rw [first, Names.head?_ofList_eq_some_iff.2, Option.getD_some]
      exact ⟨Json.mem_stringsAt_iff.2 found, fun other member =>
        minimal other (Json.mem_stringsAt_iff.1 member)⟩
    · refine ⟨_, ⟨_, printed, rfl⟩, ?_⟩
      rw [first, Names.head?_ofList_eq_none_iff.2, Option.getD_none]
      exact fun id member => nowhere id (Json.mem_stringsAt_iff.1 member)
  · rintro ⟨names, ⟨vpcs, printed, rfl⟩, rfl⟩
    rw [first]
    cases least : (Names.ofList (vpcs.stringsAt "VpcId" ["Vpcs"])).head? with
    | none =>
        refine .unlisted printed fun id found => ?_
        exact Names.head?_ofList_eq_none_iff.1 least id (Json.mem_stringsAt_iff.2 found)
    | some id =>
        obtain ⟨member, minimal⟩ := Names.head?_ofList_eq_some_iff.1 least
        refine .least printed (Json.mem_stringsAt_iff.1 member) fun other found => ?_
        exact minimal other (Json.mem_stringsAt_iff.2 found)

theorem networkOf_of_given {scope : Scope} {block : Block} {attr : Attribute} {network : String}
    (given : block.attribute? "vpc_id" = some attr) :
    client.NetworkOf scope block network ↔ scope.resolve attr.token = .ok network := by
  constructor
  · intro place
    cases place with
    | given given' resolved =>
        cases given.symm.trans given'
        exact resolved
    | default absent => cases given.symm.trans absent
  · exact .given given

theorem networkOf_of_absent {scope : Scope} {block : Block} {network : String}
    (absent : block.attribute? "vpc_id" = none) :
    client.NetworkOf scope block network ↔ client.DefaultNetwork network := by
  constructor
  · intro place
    cases place with
    | given given => cases absent.symm.trans given
    | default _ place => exact place
  · exact .default absent

/-- The key of a block is made of its network, and there is one exactly if there is the other. -/
theorem key?_eq_some_iff {facts : Facts} {scope : Scope} {block : Block} {name key : String}
    (told : facts.network.toOption = (client.provider [] .defaultVpc).toOption.map (·.head?)) :
    Unique.key? facts scope block (some "vpc_id") name = some key ↔
      ∃ network, client.NetworkOf scope block network ∧ key = network ++ "." ++ name := by
  cases written : block.attribute? "vpc_id" with
  | some attr =>
      rw [Unique.key?_of_given written, Option.map_eq_some_iff]
      simp only [networkOf_of_given written, toOption_eq_some_iff]
      exact exists_congr fun _ => and_congr_right fun _ => eq_comm
  | none =>
      rw [Unique.key?_of_absent written, told]
      simp only [networkOf_of_absent written, defaultNetwork_iff]
      cases (client.provider [] .defaultVpc).toOption with
      | none => simp
      | some names => simp [eq_comm]

end Client

/-! ## Collisions -/

/-- The state records a block as deployed under a value: it has a record of the type and local name
of the block, and the record has the value as attribute or as identifier, or tells no such
attribute. -/
def Snapshot.Deploys (state : Snapshot) (type attr : String) (block : Block) (value : String) :
    Prop :=
  ∃ name recorded, block.resourceName? = some name ∧ state.get? type name = some recorded ∧
    ((∀ text, recorded.attribute? attr = some text → text = value) ∨ recorded.id = value)

theorem Unique.isDeployed_iff {state : Snapshot} {type attr : String} {block : Block}
    {value : String} :
    isDeployed state type attr block value = true ↔ state.Deploys type attr block value := by
  simp only [isDeployed, Snapshot.Deploys, Snapshot.containsWith]
  cases block.resourceName? with
  | none => simp
  | some name =>
      cases recorded : state.get? type name with
      | none => simp [recorded]
      | some record =>
          cases told : record.attribute? attr with
          | none => simp [recorded, told]
          | some text => simp [recorded, told]

namespace Client

variable {client : Client}

/-- A security group of the configuration collides with another one: its network can be told, the
provider lists a group of its name there, and the state does not record that the group is this
one. -/
structure Collides (client : Client) (module : Module) (state : Snapshot) (block : Block)
    (name : String) : Prop where
  taken : ∃ network response, client.NetworkOf module.scope block network ∧
    client.Prints .securityGroupNames response ∧ response.HasGroup network name
  foreign : ¬ state.Deploys "aws_security_group" "name" block name

/-- No network holds a dot: none of a group that the client lists, none that it lists as default, and
none that a block gives. -/
structure NetworksUndotted (client : Client) (module : Module) : Prop where
  groups : ∀ response groups group id, client.Prints .securityGroupNames response →
    response.get? "SecurityGroups" = some (.array groups) → group ∈ groups →
    group.get? "VpcId" = some (.string id) → '.' ∉ id.toList
  defaults : ∀ vpcs id, client.Prints .defaultVpc vpcs → vpcs.Found "VpcId" ["Vpcs"] id →
    '.' ∉ id.toList
  blocks : ∀ block ∈ module.resources "aws_security_group", ∀ attr id,
    block.attribute? "vpc_id" = some attr → module.scope.resolve attr.token = .ok id →
    '.' ∉ id.toList

/-- What a rule has learnt is what a client tells: the groups of a response, and the default network
if it tells one. -/
structure Teaches (client : Client) (response : Json) (facts : Facts) : Prop where
  answered : client.Prints .securityGroupNames response
  known : facts.known = Names.ofList response.groupKeys
  network : facts.network.toOption = (client.provider [] .defaultVpc).toOption.map (·.head?)

namespace NetworksUndotted

variable {module : Module} (undotted : client.NetworksUndotted module)

include undotted

theorem of_hasGroup {response : Json} {network name : String}
    (printed : client.Prints .securityGroupNames response)
    (listed : response.HasGroup network name) : '.' ∉ network.toList := by
  obtain ⟨groups, group, listed, member, -, given | ⟨rfl, -⟩⟩ := listed
  · exact undotted.groups response groups group network printed listed member given
  · exact List.not_mem_nil

theorem of_networkOf {block : Block} {network : String}
    (member : block ∈ module.resources "aws_security_group")
    (place : client.NetworkOf module.scope block network) : '.' ∉ network.toList := by
  cases place with
  | given written resolved => exact undotted.blocks block member _ network written resolved
  | default _ place =>
      cases place with
      | least printed found => exact undotted.defaults _ network printed found
      | unlisted => exact List.not_mem_nil

end NetworksUndotted

/-- What is reported of a block: a group whose name can be resolved is reported, at the place of its
name and once, exactly if it collides. -/
structure Reports (client : Client) (module : Module) (state : Snapshot) (block : Block)
    (part : List Finding) : Prop where
  named : ∀ attr name, block.attribute? "name" = some attr →
    module.scope.resolve attr.token = .ok name →
    (client.Collides module state block name →
      part = [⟨"\"" ++ name ++ "\" is duplicate name. It must be unique.", attr.token.file,
        attr.token.line⟩]) ∧
    (¬ client.Collides module state block name → part = [])
  unnamed : (∀ attr, block.attribute? "name" = some attr →
    ∀ name, module.scope.resolve attr.token ≠ .ok name) → part = []

end Client

/-! ## The rule -/

namespace Rule

/-- A value that can be resolved is reported once or not at all. -/
theorem valueFindings_of_resolve (rule : Rule) {scope : Scope} {block : Block} {found : Attribute}
    {value : String} (given : block.attribute? rule.attr = some found)
    (resolved : scope.resolve found.token = .ok value) (isWrong : String → Bool)
    (complaint : String) :
    rule.valueFindings scope block .scalar isWrong complaint =
      if isWrong value then [ResolvedValue.finding ⟨value, found.token⟩ complaint] else [] := by
  have values : block.values scope rule.attr .scalar = [⟨value, found.token⟩] := by
    simp [Block.values, given, Scope.values, Scope.tokens, Scope.resolved?, resolved]
  rw [valueFindings, values]
  cases wrong : isWrong value <;> simp [wrong]

/-- Without a value that can be resolved there is nothing to report. -/
theorem valueFindings_of_unresolved (rule : Rule) {scope : Scope} {block : Block}
    (unresolved : ∀ found, block.attribute? rule.attr = some found →
      ∀ value, scope.resolve found.token ≠ .ok value) (isWrong : String → Bool)
    (complaint : String) : rule.valueFindings scope block .scalar isWrong complaint = [] := by
  rw [valueFindings, Block.values]
  split
  · next found given =>
    cases resolved : scope.resolve found.token with
    | error cause => simp [Scope.values, Scope.tokens, Scope.resolved?, resolved]
    | ok value => exact absurd resolved (unresolved found given value)
  · rfl

/-- The rule on the names of security groups. -/
def groupNames : Rule :=
  unique "aws_security_group_duplicate_name" "aws_security_group" "name" .securityGroupNames "name"
    (some "vpc_id")

theorem get?_groupNames :
    Registry.default.get? "aws_security_group_duplicate_name" = some groupNames := by
  decide +kernel

variable {client : Client} {response : Json} {module : Module} {facts : Facts}

/-- With what a client tells, a name is taken exactly if the group collides. -/
theorem isTaken_groupNames_iff (taught : client.Teaches response facts)
    (undotted : client.NetworksUndotted module) {block : Block}
    (member : block ∈ module.resources "aws_security_group") (state : Snapshot) (name : String) :
    groupNames.isTaken facts module.scope state block (some "vpc_id") name = true ↔
      client.Collides module state block name := by
  have deployed : Unique.isDeployed state "aws_security_group" "name" block name = true ↔
      state.Deploys "aws_security_group" "name" block name := Unique.isDeployed_iff
  rw [isTaken]
  constructor
  · intro taken
    split at taken
    · next key made =>
      obtain ⟨network, place, rfl⟩ := (Client.key?_eq_some_iff taught.network).1 made
      rw [taught.known, Bool.and_eq_true, List.contains_iff_mem, Names.mem_ofList,
        Bool.not_eq_true', ← Bool.not_eq_true] at taken
      obtain ⟨network', name', listed, same⟩ := Json.mem_groupKeys_iff.1 taken.1
      -- The key was made of this network and name, so the group listed has both of them.
      obtain ⟨rfl, rfl⟩ := (qualified_inj (undotted.of_networkOf member place)
        (undotted.of_hasGroup taught.answered listed)).1 same
      exact ⟨⟨network, response, place, taught.answered, listed⟩,
        fun own => taken.2 (deployed.2 own)⟩
    · cases taken
  · rintro ⟨⟨network, response', place, printed, listed⟩, foreign⟩
    cases taught.answered.unique printed
    rw [(Client.key?_eq_some_iff taught.network).2 ⟨network, place, rfl⟩, taught.known,
      Bool.and_eq_true, List.contains_iff_mem, Names.mem_ofList, Bool.not_eq_true',
      ← Bool.not_eq_true]
    exact ⟨Json.mem_groupKeys_iff.2 ⟨network, name, listed, rfl⟩,
      fun own => foreign (deployed.1 own)⟩

/-- What the rule finds in a block is what is to be reported of it. -/
theorem reports_blockFindings (taught : client.Teaches response facts)
    (undotted : client.NetworksUndotted module) {block : Block}
    (member : block ∈ module.resources "aws_security_group") (state : Snapshot) :
    client.Reports module state block (groupNames.blockFindings facts module state block) := by
  have found : groupNames.blockFindings facts module state block =
      groupNames.valueFindings module.scope block .scalar
        (groupNames.isTaken facts module.scope state block (some "vpc_id"))
        "is duplicate name. It must be unique." := rfl
  rw [found]
  constructor
  · intro attr name given resolved
    have taken := isTaken_groupNames_iff taught undotted member state name
    rw [groupNames.valueFindings_of_resolve given resolved]
    constructor
    · intro collides
      rw [if_pos (taken.2 collides), ResolvedValue.finding, String.append_assoc]
      rfl
    · intro free
      rw [if_neg fun own => free (taken.1 own)]
  · intro unresolved
    exact groupNames.valueFindings_of_unresolved unresolved _ _

/-- What a client teaches the rule, whatever has been asked before in the session or before it. -/
theorem exists_teaches_groupNames (answered : client.Prints .securityGroupNames response)
    (earlier needed : List Query) :
    ∃ facts next,
      groupNames.check.prepare ((Session.having client.provider needed).after earlier) =
        (.ok facts, next) ∧ client.Teaches response facts := by
  have names : (client.provider [] .securityGroupNames).toOption =
      some (Names.ofList response.groupKeys) :=
    Client.toOption_provider_eq_some_iff.2 ⟨response, answered, rfl⟩
  have learns : groupNames.check.learns (fun query => (client.provider [] query).toOption) =
      some (Names.ofList response.groupKeys,
        (client.provider [] .defaultVpc).toOption.map (·.head?)) := by
    show Option.map _ (client.provider [] .securityGroupNames).toOption = _
    rw [names]
    rfl
  have learnt := Check.gist_prepare_having client.provider_isSteady needed groupNames.check
  rw [learns] at learnt
  obtain ⟨facts, prepared, gist⟩ := Option.map_eq_some_iff.1 learnt
  have steady : (Session.having client.provider needed).IsSteady := by
    intro provider given
    cases given
    exact client.provider_isSteady
  have prepares := Check.prepare_after steady earlier groupNames.check
  rw [toOption_eq_some_iff.1 prepared] at prepares
  exact ⟨facts, _, prepares, answered, congrArg Prod.fst gist, congrArg Prod.snd gist⟩

end Rule

/-- The rule on the names of security groups, put to a client that lists the groups, reports exactly
the blocks that collide, in file then source order.  What has been asked before, in the session or in
sessions before it, makes no difference. -/
theorem RuleRun.reports_colliding_groups {client : Client} {response : Json} {module : Module}
    (answered : client.Prints .securityGroupNames response)
    (undotted : client.NetworksUndotted module) (state : Snapshot) (earlier needed : List Query) :
    ∃ rule prepared next detected parts,
      Registry.default.get? "aws_security_group_duplicate_name" = some rule ∧
      (start rule).prepare ((Session.having client.provider needed).after earlier) =
        (.ok (), prepared, next) ∧
      prepared.detect module state = (.ok (), detected) ∧
      detected.findings = parts.flatten ∧
      List.Forall₂ (client.Reports module state) (module.resources "aws_security_group") parts := by
  obtain ⟨facts, next, prepares, taught⟩ := Rule.exists_teaches_groupNames answered earlier needed
  refine ⟨.groupNames, .prepared .groupNames facts, next, _,
    (module.resources "aws_security_group").map
      (Rule.groupNames.blockFindings facts module state), Rule.get?_groupNames,
    prepare_start_of_ok prepares, rfl, List.nil_append _, ?_⟩
  rw [List.forall₂_map_right_iff, List.forall₂_same]
  exact fun block member => Rule.reports_blockFindings taught undotted member state

namespace Client

/-- Two default networks. -/
def networksDocument : String :=
  "\x7b\"Vpcs\": [\x7b\"VpcId\": \"vpc-c\"\x7d, \x7b\"VpcId\": \"vpc-b\"\x7d]\x7d"

/-- A group with a dot in its name, and one without a network. -/
def groupsDocument : String :=
  "\x7b\"SecurityGroups\": [\x7b\"GroupName\": \"web.public\", \"VpcId\": \"vpc-b\"\x7d, " ++
    "\x7b\"GroupName\": \"old\"\x7d]\x7d"

/-- A client that prints these documents. -/
def listing : Client where
  program := "aws"
  credentials := .none
  home := none
  run := fun call =>
    .finished true
      (some (if "describe-vpcs" ∈ call.arguments then networksDocument else groupsDocument)) ""

end Client

/-- A module with a group in the default network and one in a network of its own, under one name. -/
def Module.groups : Module :=
  .ofFiles "" (ConfigFile.parse? "main.tf" ("resource \"aws_security_group\" \"a\" \x7b\n" ++
    "  name = \"web.public\"\n\x7d\nresource \"aws_security_group\" \"b\" \x7b\n" ++
    "  name = \"web.public\"\n  vpc_id = \"vpc-d\"\n\x7d\n")).toList .empty

/-- The group in the default network is reported, and the other one is not. -/
theorem RuleRun.reports_colliding_groups_listing :
    ∃ response, Client.listing.Prints .securityGroupNames response ∧
      Client.listing.NetworksUndotted .groups ∧
      ∃ rule prepared next detected parts,
        Registry.default.get? "aws_security_group_duplicate_name" = some rule ∧
        (start rule).prepare ((Session.having Client.listing.provider []).after []) =
          (.ok (), prepared, next) ∧
        prepared.detect .groups .empty = (.ok (), detected) ∧
        detected.findings = parts.flatten ∧
        List.Forall₂ (Client.listing.Reports .groups .empty)
          (Module.groups.resources "aws_security_group") parts ∧
        detected.findings =
          [⟨"\"web.public\" is duplicate name. It must be unique.", "main.tf", 2⟩] := by
  have listed : (Client.listing.provider [] .securityGroupNames).toOption =
      some [".old", "vpc-b.web.public"] := by decide +kernel
  have found : (((start .groupNames).prepare
      ((Session.having Client.listing.provider []).after [])).2.1.detect .groups .empty).2.findings =
      [⟨"\"web.public\" is duplicate name. It must be unique.", "main.tf", 2⟩] := by decide +kernel
  obtain ⟨response, answered, -⟩ := Client.toOption_provider_eq_some_iff.1 listed
  have undotted : Client.listing.NetworksUndotted .groups := by
    constructor
    · intro response groups group id printed listed member given
      have parsed : Json.parse? Client.groupsDocument = some response := printed.parse?_eq rfl
      have free : ((Json.parse? Client.groupsDocument).map fun response =>
          decide (∀ group ∈ response.itemsUnder "SecurityGroups",
            ∀ id ∈ (group.get? "VpcId").bind (·.string?), '.' ∉ id.toList)) = some true := by
        decide +kernel
      rw [parsed, Option.map_some, Option.some_inj, decide_eq_true_iff] at free
      exact free group (Json.mem_itemsUnder_iff.2 ⟨groups, listed, member⟩) id
        (Json.bind_string?_eq_some_iff.2 given)
    · intro vpcs id printed found
      have parsed : Json.parse? Client.networksDocument = some vpcs := printed.parse?_eq rfl
      have free : ((Json.parse? Client.networksDocument).map fun vpcs =>
          decide (∀ id ∈ vpcs.stringsAt "VpcId" ["Vpcs"], '.' ∉ id.toList)) = some true := by
        decide +kernel
      rw [parsed, Option.map_some, Option.some_inj, decide_eq_true_iff] at free
      exact free id (Json.mem_stringsAt_iff.2 found)
    · have free : ∀ block ∈ Module.groups.resources "aws_security_group",
          ∀ attr ∈ block.attribute? "vpc_id",
            ∀ id ∈ (Module.groups.scope.resolve attr.token).toOption, '.' ∉ id.toList := by
        decide +kernel
      intro block member attr id given resolved
      exact free block member attr given id (toOption_eq_some_iff.2 resolved)
  obtain ⟨rule, prepared, next, detected, parts, registered, prepares, detects, flat, each⟩ :=
    reports_colliding_groups answered undotted .empty [] []
  refine ⟨response, answered, undotted, rule, prepared, next, detected, parts, registered, prepares,
    detects, flat, each, ?_⟩
  cases Rule.get?_groupNames.symm.trans registered
  rw [prepares, detects] at found
  exact found

end InfraLint
