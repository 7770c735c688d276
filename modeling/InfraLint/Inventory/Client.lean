import InfraLint.Inventory.Credentials
import InfraLint.Inventory.Provider
import InfraLint.Inventory.Response
import InfraLint.Json.Read
import InfraLint.Text.Blank

/-!
# The command line client of the provider

Each question is one call of the client: a service, an operation and some options. The client prints
a JSON document, from which the names are read. A client is a function from arguments and
environment to what it prints, so that a provider can be made of any.
-/

namespace InfraLint

/-- How a question is put to the client and how its response is read. -/
structure Endpoint where
  service : String
  operation : String
  options : List String
  read : Json → List String

namespace Endpoint

/-- A question answered by the strings under `field` in the objects at `path`. -/
def listing (service operation : String) (path : List String) (field : String) : Endpoint :=
  ⟨service, operation, [], Json.stringsAt field path⟩

/-- How messages refer to the call. -/
def title (endpoint : Endpoint) : String :=
  endpoint.service ++ " " ++ endpoint.operation

end Endpoint

/-- The call that answers each question. -/
def Query.endpoint : Query → Endpoint
  | securityGroupIds => .listing "ec2" "describe-security-groups" ["SecurityGroups"] "GroupId"
  | securityGroupNames => ⟨"ec2", "describe-security-groups", [], Json.groupKeys⟩
  | subnetIds => .listing "ec2" "describe-subnets" ["Subnets"] "SubnetId"
  | instanceIds => .listing "ec2" "describe-instances" ["Reservations", "Instances"] "InstanceId"
  | keyPairNames => .listing "ec2" "describe-key-pairs" ["KeyPairs"] "KeyName"
  | imageIds => .listing "ec2" "describe-images" ["Images"] "ImageId"
  | defaultVpc => ⟨"ec2", "describe-vpcs", ["--filters", "Name=isDefault,Values=true"],
      fun response => (Names.ofList (response.stringsAt "VpcId" ["Vpcs"])).take 1⟩
  | egressOnlyInternetGatewayIds =>
    .listing "ec2" "describe-egress-only-internet-gateways" ["EgressOnlyInternetGateways"]
      "EgressOnlyInternetGatewayId"
  | internetGatewayIds =>
    .listing "ec2" "describe-internet-gateways" ["InternetGateways"] "InternetGatewayId"
  | natGatewayIds => .listing "ec2" "describe-nat-gateways" ["NatGateways"] "NatGatewayId"
  | networkInterfaceIds =>
    .listing "ec2" "describe-network-interfaces" ["NetworkInterfaces"] "NetworkInterfaceId"
  | routeTableIds => .listing "ec2" "describe-route-tables" ["RouteTables"] "RouteTableId"
  | vpcPeeringConnectionIds =>
    .listing "ec2" "describe-vpc-peering-connections" ["VpcPeeringConnections"]
      "VpcPeeringConnectionId"
  | dbSubnetGroupNames =>
    .listing "rds" "describe-db-subnet-groups" ["DBSubnetGroups"] "DBSubnetGroupName"
  | optionGroupNames =>
    .listing "rds" "describe-option-groups" ["OptionGroupsList"] "OptionGroupName"
  | dbParameterGroupNames =>
    .listing "rds" "describe-db-parameter-groups" ["DBParameterGroups"] "DBParameterGroupName"
  | dbInstanceIdentifiers =>
    .listing "rds" "describe-db-instances" ["DBInstances"] "DBInstanceIdentifier"
  | cacheParameterGroupNames =>
    .listing "elasticache" "describe-cache-parameter-groups" ["CacheParameterGroups"]
      "CacheParameterGroupName"
  | cacheSubnetGroupNames =>
    .listing "elasticache" "describe-cache-subnet-groups" ["CacheSubnetGroups"]
      "CacheSubnetGroupName"
  | cacheClusterIds =>
    .listing "elasticache" "describe-cache-clusters" ["CacheClusters"] "CacheClusterId"
  | classicLoadBalancerNames =>
    .listing "elb" "describe-load-balancers" ["LoadBalancerDescriptions"] "LoadBalancerName"
  | loadBalancerNames =>
    .listing "elbv2" "describe-load-balancers" ["LoadBalancers"] "LoadBalancerName"
  | instanceProfileNames =>
    .listing "iam" "list-instance-profiles" ["InstanceProfiles"] "InstanceProfileName"
  | ecsClusterNames => ⟨"ecs", "list-clusters", [], Json.clusterNames⟩

/-- The arguments of one call. A profile is left out when both keys are known. -/
def Credentials.arguments (credentials : Credentials) (service operation : String)
    (options : List String) : List String :=
  let region := (credentials.region.map fun r => ["--region", r]).getD []
  let profile :=
    if credentials.hasStaticKeys then []
    else (credentials.profile.map fun p => ["--profile", p]).getD []
  [service, operation, "--output", "json", "--no-paginate"] ++ options ++ region ++ profile

/-- One call of the client. -/
structure Invocation where
  arguments : List String
  environment : List (String × String)
deriving Repr, DecidableEq

/-- How a call ended. -/
inductive Reply where
  /-- The client does not exist. -/
  | missing
  /-- The client exists but could not be started. -/
  | unstartable (reason : String)
  /-- The client ran. Output that is no text cannot be read. -/
  | finished (success : Bool) (output : Option String) (errors : String)

/-- The client of the provider. -/
structure Client where
  program : String
  credentials : Credentials
  home : Option String
  run : Invocation → Reply

namespace Client

/-- The call for a question. -/
def invocation (client : Client) (query : Query) : Invocation :=
  let endpoint := query.endpoint
  ⟨client.credentials.arguments endpoint.service endpoint.operation endpoint.options,
    client.credentials.environment client.home⟩

/-- The provider that a client gives access to. -/
def provider (client : Client) : Provider := fun _ query =>
  let endpoint := query.endpoint
  match client.run (client.invocation query) with
  | .missing => .error (.unavailable (client.program ++ " executable not found"))
  | .unstartable reason => .error (.notStarted reason)
  | .finished false _ errors => .error (.failed endpoint.title (Text.trim errors))
  | .finished true output _ =>
    match (output.bind Json.parse?).bind Json.sound? with
    | some response => .ok (Names.ofList (endpoint.read response))
    | none => .error (.invalidResponse endpoint.title "not a JSON document")

end Client

end InfraLint
