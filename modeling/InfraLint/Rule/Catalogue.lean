import InfraLint.Rule.Registry
import InfraLint.Rule.Table

/-!
# The catalogue

The rules that come with the linter, in the order in which they report. Each is given by its name,
the type of resource and the attribute it is about, and what it checks.
-/

namespace InfraLint

namespace Rule

/-- A rule that compares values with a table. -/
def listed (name type attr : String) (severity : Severity) (table : List String)
    (membership : Membership) (complaint : String) : Rule :=
  ⟨name, type, attr, severity, true, .listed table membership complaint⟩

/-- A rule that values name something that exists. -/
def reference (name type attr : String) (query : Query) (shape : Shape) (noun : String) : Rule :=
  ⟨name, type, attr, .error, true, .reference query shape noun⟩

/-- A rule that a value is not in use yet. -/
def unique (name type attr : String) (query : Query) (noun : String) (within : Option String) :
    Rule :=
  ⟨name, type, attr, .error, true, .unique query noun within⟩

/-- All rules. -/
def catalogue : List Rule :=
  [listed "aws_instance_invalid_type" "aws_instance" "instance_type" .error Table.instanceTypes
      .required "is invalid instance type.",
    listed "aws_instance_previous_type" "aws_instance" "instance_type" .warning
      Table.previousInstanceTypes .forbidden "is previous generation instance type.",
    ⟨"aws_instance_not_specified_iam_profile", "aws_instance", "iam_instance_profile", .notice,
      false, .profileGiven⟩,
    ⟨"aws_instance_default_standard_volume", "aws_instance", "volume_type", .warning, true,
      .volumeTypeGiven⟩,
    reference "aws_instance_invalid_ami" "aws_instance" "ami" .imageIds .scalar "AMI ID",
    reference "aws_instance_invalid_vpc_security_group" "aws_instance" "vpc_security_group_ids"
      .securityGroupIds .list "security group",
    reference "aws_instance_invalid_subnet" "aws_instance" "subnet_id" .subnetIds .scalar
      "subnet ID",
    reference "aws_instance_invalid_iam_profile" "aws_instance" "iam_instance_profile"
      .instanceProfileNames .scalar "IAM profile name",
    reference "aws_instance_invalid_key_name" "aws_instance" "key_name" .keyPairNames .scalar
      "key name",
    reference "aws_alb_invalid_security_group" "aws_alb" "security_groups" .securityGroupIds
      .list "security group",
    reference "aws_alb_invalid_subnet" "aws_alb" "subnets" .subnetIds .list "subnet ID",
    unique "aws_alb_duplicate_name" "aws_alb" "name" .loadBalancerNames "name" none,
    reference "aws_elb_invalid_security_group" "aws_elb" "security_groups" .securityGroupIds
      .list "security group",
    reference "aws_elb_invalid_subnet" "aws_elb" "subnets" .subnetIds .list "subnet ID",
    reference "aws_elb_invalid_instance" "aws_elb" "instances" .instanceIds .list "instance",
    unique "aws_elb_duplicate_name" "aws_elb" "name" .classicLoadBalancerNames "name" none,
    listed "aws_db_instance_invalid_type" "aws_db_instance" "instance_class" .error
      Table.databaseClasses .required "is invalid instance type.",
    listed "aws_db_instance_previous_type" "aws_db_instance" "instance_class" .warning
      Table.previousDatabaseClasses .forbidden "is previous generation instance type.",
    ⟨"aws_db_instance_default_parameter_group", "aws_db_instance", "parameter_group_name",
      .notice, true, .ownParameterGroup⟩,
    ⟨"aws_db_instance_readable_password", "aws_db_instance", "password", .warning, true,
      .secretPassword⟩,
    reference "aws_db_instance_invalid_db_subnet_group" "aws_db_instance" "db_subnet_group_name"
      .dbSubnetGroupNames .scalar "DB subnet group name",
    reference "aws_db_instance_invalid_option_group" "aws_db_instance" "option_group_name"
      .optionGroupNames .scalar "option group name",
    reference "aws_db_instance_invalid_parameter_group" "aws_db_instance" "parameter_group_name"
      .dbParameterGroupNames .scalar "parameter group name",
    reference "aws_db_instance_invalid_vpc_security_group" "aws_db_instance"
      "vpc_security_group_ids" .securityGroupIds .list "security group",
    unique "aws_db_instance_duplicate_identifier" "aws_db_instance" "identifier"
      .dbInstanceIdentifiers "identifier" none,
    listed "aws_elasticache_cluster_invalid_type" "aws_elasticache_cluster" "node_type" .error
      Table.cacheNodeTypes .required "is invalid node type.",
    listed "aws_elasticache_cluster_previous_type" "aws_elasticache_cluster" "node_type"
      .warning Table.previousCacheNodeTypes .forbidden "is previous generation node type.",
    ⟨"aws_elasticache_cluster_default_parameter_group", "aws_elasticache_cluster",
      "parameter_group_name", .notice, true, .ownParameterGroup⟩,
    reference "aws_elasticache_cluster_invalid_parameter_group" "aws_elasticache_cluster"
      "parameter_group_name" .cacheParameterGroupNames .scalar "parameter group name",
    reference "aws_elasticache_cluster_invalid_subnet_group" "aws_elasticache_cluster"
      "subnet_group_name" .cacheSubnetGroupNames .scalar "subnet group name",
    reference "aws_elasticache_cluster_invalid_security_group" "aws_elasticache_cluster"
      "security_group_ids" .securityGroupIds .list "security group",
    unique "aws_elasticache_cluster_duplicate_id" "aws_elasticache_cluster" "cluster_id"
      .cacheClusterIds "Cluster ID" none,
    unique "aws_security_group_duplicate_name" "aws_security_group" "name" .securityGroupNames
      "name" (some "vpc_id"),
    listed "aws_cloudwatch_metric_alarm_invalid_unit" "aws_cloudwatch_metric_alarm" "unit"
      .error Table.metricUnits .required "is invalid unit.",
    unique "aws_ecs_cluster_duplicate_name" "aws_ecs_cluster" "name" .ecsClusterNames "name" none,
    ⟨"aws_route_not_specified_target", "aws_route", "", .error, true, .targetGiven⟩,
    ⟨"aws_route_specified_multiple_targets", "aws_route", "", .error, true, .targetSingle⟩,
    reference "aws_route_invalid_route_table" "aws_route" "route_table_id" .routeTableIds
      .scalar "route table ID",
    reference "aws_route_invalid_gateway" "aws_route" "gateway_id" .internetGatewayIds .scalar
      "internet gateway ID",
    reference "aws_route_invalid_egress_only_gateway" "aws_route" "egress_only_gateway_id"
      .egressOnlyInternetGatewayIds .scalar "egress only internet gateway ID",
    reference "aws_route_invalid_nat_gateway" "aws_route" "nat_gateway_id" .natGatewayIds
      .scalar "NAT gateway ID",
    reference "aws_route_invalid_instance" "aws_route" "instance_id" .instanceIds .scalar
      "instance ID",
    reference "aws_route_invalid_network_interface" "aws_route" "network_interface_id"
      .networkInterfaceIds .scalar "network interface ID",
    reference "aws_route_invalid_vpc_peering_connection" "aws_route" "vpc_peering_connection_id"
      .vpcPeeringConnectionIds .scalar "VPC peering connection ID",
    listed "aws_launch_configuration_invalid_type" "aws_launch_configuration" "instance_type"
      .error Table.instanceTypes .required "is invalid instance type.",
    reference "aws_launch_configuration_invalid_image_id" "aws_launch_configuration" "image_id"
      .imageIds .scalar "AMI ID",
    reference "aws_launch_configuration_invalid_iam_profile" "aws_launch_configuration"
      "iam_instance_profile" .instanceProfileNames .scalar "IAM profile name"]

end Rule

/-- The registry of all rules. -/
def Registry.default : Registry := Registry.ofRules Rule.catalogue

end InfraLint
