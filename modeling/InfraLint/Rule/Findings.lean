import InfraLint.Rule.Basic
import InfraLint.Rule.Password
import InfraLint.State

/-!
# Findings of rules

What each kind of check reports in a block. A rule goes through the resources of its type in file
then source order, and through the values of an attribute in the order in which they are written, so
its findings come in that order too.
-/

namespace InfraLint

namespace Block

/-- A finding at the first line of a block. -/
def finding (block : Block) (message : String) : Finding :=
  ⟨message, block.file, block.line⟩

/-- The values of an attribute; none if it is not given. -/
def values (block : Block) (scope : Scope) (attr : String) (shape : Shape) : List ResolvedValue :=
  match block.attribute? attr with
  | some found => scope.values found shape
  | none => []

end Block

namespace ResolvedValue

/-- A finding at the place of a value, which the message quotes. -/
def finding (value : ResolvedValue) (complaint : String) : Finding :=
  ⟨"\"" ++ value.value ++ "\" " ++ complaint, value.token.file, value.token.line⟩

end ResolvedValue

/-- Whether a value goes against a table. -/
def Membership.isViolated (membership : Membership) (table : List String) (value : String) : Bool :=
  match membership with
  | .required => !table.contains value
  | .forbidden => table.contains value

namespace Unique

/-- The name under which a resource is known at the provider, if that can be told. -/
def key? (facts : Facts) (scope : Scope) (block : Block) (within : Option String)
    (value : String) : Option String :=
  match within with
  | none => some value
  | some attr =>
    match block.attribute? attr with
    | some found => (scope.resolve found.token).toOption.map (· ++ "." ++ value)
    | none =>
      match facts.network with
      | .ok network => some (network.getD "" ++ "." ++ value)
      | .error _ => none

/-- Whether the state records the resource itself as deployed under a value. A record that does not
tell the attribute agrees with every value. -/
def isDeployed (state : Snapshot) (type attr : String) (block : Block) (value : String) : Bool :=
  match block.resourceName? with
  | none => false
  | some name =>
    state.containsWith type name fun recorded =>
      (match recorded.attribute? attr with
        | some text => text == value
        | none => true) || recorded.id == value

end Unique

namespace Route

/-- The attributes that can name the target of a route. -/
def targets : List String :=
  ["egress_only_gateway_id", "gateway_id", "instance_id", "nat_gateway_id",
    "network_interface_id", "transit_gateway_id", "vpc_peering_connection_id"]

/-- The number of targets that a route names. One that is written as `null` does not count. -/
def targetCount (block : Block) : Nat :=
  ((targets.filterMap block.attribute?).filter (!·.token.isNull)).length

end Route

/-- The kinds of blocks that describe the devices of a virtual machine. -/
def deviceKinds : List String := ["root_block_device", "ebs_block_device"]

namespace Rule

/-- Values of an attribute that fail a test, each reported with a complaint. -/
def valueFindings (rule : Rule) (scope : Scope) (block : Block) (shape : Shape)
    (isWrong : String → Bool) (complaint : String) : List Finding :=
  ((block.values scope rule.attr shape).filter fun v => isWrong v.value).map (·.finding complaint)

/-- Whether a value is in use at the provider by another resource. -/
def isTaken (rule : Rule) (facts : Facts) (scope : Scope) (state : Snapshot) (block : Block)
    (within : Option String) (value : String) : Bool :=
  match Unique.key? facts scope block within value with
  | some key => facts.known.contains key &&
      !Unique.isDeployed state rule.resourceType rule.attr block value
  | none => false

/-- The password of a block, reported if it is readable. -/
def passwordFindings (rule : Rule) (module : Module) (block : Block) : List Finding :=
  match block.attribute? rule.attr with
  | some found =>
    if Password.isReadable module found.token then
      [⟨"Password for the master DB user is readable. Recommend using environment variables or " ++
        "variable files.", found.file, found.line⟩]
    else []
  | none => []

/-- The findings of a rule in one block. -/
def blockFindings (rule : Rule) (facts : Facts) (module : Module) (state : Snapshot)
    (block : Block) : List Finding :=
  let scope := module.scope
  match rule.check with
  | .listed table membership complaint =>
    rule.valueFindings scope block .scalar (membership.isViolated table) complaint
  | .reference _ shape noun =>
    rule.valueFindings scope block shape (!facts.known.contains ·) ("is invalid " ++ noun ++ ".")
  | .unique _ noun within =>
    rule.valueFindings scope block .scalar (rule.isTaken facts scope state block within)
      ("is duplicate " ++ noun ++ ". It must be unique.")
  | .ownParameterGroup =>
    rule.valueFindings scope block .scalar (Text.hasLead "default")
      "is default parameter group. You cannot edit it."
  | .secretPassword => rule.passwordFindings module block
  | .profileGiven =>
    if block.hasAttribute rule.attr then []
    else [block.finding ("\"iam_instance_profile\" is not specified. If you want to change it, " ++
      "you need to recreate the instance.")]
  | .volumeTypeGiven =>
    ((deviceKinds.flatMap block.nested).filter (!·.hasAttribute "volume_type")).map
      (·.finding ("\"volume_type\" is not specified. Default standard volume type is not " ++
        "recommended. You can use \"gp2\", \"io1\", etc instead."))
  | .targetGiven =>
    if Route.targetCount block = 0 then
      [block.finding ("The routing target is not specified, each aws_route must contain either " ++
        "egress_only_gateway_id, gateway_id, instance_id, nat_gateway_id, network_interface_id, " ++
        "transit_gateway_id, or vpc_peering_connection_id.")]
    else []
  | .targetSingle =>
    if 1 < Route.targetCount block then
      [block.finding "More than one routing target specified. It must be one."]
    else []

/-- The findings of a rule in a module, in file then source order of the resources. -/
def findings (rule : Rule) (facts : Facts) (module : Module) (state : Snapshot) : List Finding :=
  (module.resources rule.resourceType).flatMap (rule.blockFindings facts module state)

end Rule

end InfraLint
