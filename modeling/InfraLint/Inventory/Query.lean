/-!
# Questions to the cloud provider

A question asks for all identifiers or names of one kind of resource that exist in the account. Each
belongs to one group of services of the provider.
-/

namespace InfraLint

/-- A group of services of the provider. -/
inductive Capability where
  | compute
  | database
  | cache
  | loadBalancing
  | loadBalancingV2
  | identity
  | container
deriving Repr, DecidableEq

/-- The name of a group. -/
def Capability.name : Capability → String
  | compute => "compute"
  | database => "database"
  | cache => "cache"
  | loadBalancing => "load_balancing"
  | loadBalancingV2 => "load_balancing_v2"
  | identity => "identity"
  | container => "container"

/-- One kind of question. -/
inductive Query where
  | securityGroupIds
  /-- Names of security groups, each with the network it lives in before a dot. -/
  | securityGroupNames
  | subnetIds
  | instanceIds
  | keyPairNames
  | imageIds
  | defaultVpc
  | egressOnlyInternetGatewayIds
  | internetGatewayIds
  | natGatewayIds
  | networkInterfaceIds
  | routeTableIds
  | vpcPeeringConnectionIds
  | dbSubnetGroupNames
  | optionGroupNames
  | dbParameterGroupNames
  | dbInstanceIdentifiers
  | cacheParameterGroupNames
  | cacheSubnetGroupNames
  | cacheClusterIds
  | classicLoadBalancerNames
  | loadBalancerNames
  | instanceProfileNames
  | ecsClusterNames
deriving Repr, DecidableEq

namespace Query

/-- All questions. -/
def all : List Query :=
  [securityGroupIds, securityGroupNames, subnetIds, instanceIds, keyPairNames, imageIds, defaultVpc,
    egressOnlyInternetGatewayIds, internetGatewayIds, natGatewayIds, networkInterfaceIds,
    routeTableIds, vpcPeeringConnectionIds, dbSubnetGroupNames, optionGroupNames,
    dbParameterGroupNames, dbInstanceIdentifiers, cacheParameterGroupNames, cacheSubnetGroupNames,
    cacheClusterIds, classicLoadBalancerNames, loadBalancerNames, instanceProfileNames,
    ecsClusterNames]

/-- The name of a question. -/
def name : Query → String
  | securityGroupIds => "security_group_ids"
  | securityGroupNames => "security_group_names"
  | subnetIds => "subnet_ids"
  | instanceIds => "instance_ids"
  | keyPairNames => "key_pair_names"
  | imageIds => "image_ids"
  | defaultVpc => "default_vpc"
  | egressOnlyInternetGatewayIds => "egress_only_internet_gateway_ids"
  | internetGatewayIds => "internet_gateway_ids"
  | natGatewayIds => "nat_gateway_ids"
  | networkInterfaceIds => "network_interface_ids"
  | routeTableIds => "route_table_ids"
  | vpcPeeringConnectionIds => "vpc_peering_connection_ids"
  | dbSubnetGroupNames => "db_subnet_group_names"
  | optionGroupNames => "option_group_names"
  | dbParameterGroupNames => "db_parameter_group_names"
  | dbInstanceIdentifiers => "db_instance_identifiers"
  | cacheParameterGroupNames => "cache_parameter_group_names"
  | cacheSubnetGroupNames => "cache_subnet_group_names"
  | cacheClusterIds => "cache_cluster_ids"
  | classicLoadBalancerNames => "classic_load_balancer_names"
  | loadBalancerNames => "load_balancer_names"
  | instanceProfileNames => "instance_profile_names"
  | ecsClusterNames => "ecs_cluster_names"

/-- The question with a given name. -/
def ofName? (text : String) : Option Query :=
  all.find? (·.name == text)

/-- The group of services that answers a question. -/
def capability : Query → Capability
  | securityGroupIds | securityGroupNames | subnetIds | instanceIds | keyPairNames | imageIds
  | defaultVpc | egressOnlyInternetGatewayIds | internetGatewayIds | natGatewayIds
  | networkInterfaceIds | routeTableIds | vpcPeeringConnectionIds => .compute
  | dbSubnetGroupNames | optionGroupNames | dbParameterGroupNames | dbInstanceIdentifiers =>
    .database
  | cacheParameterGroupNames | cacheSubnetGroupNames | cacheClusterIds => .cache
  | classicLoadBalancerNames => .loadBalancing
  | loadBalancerNames => .loadBalancingV2
  | instanceProfileNames => .identity
  | ecsClusterNames => .container

end Query

end InfraLint
