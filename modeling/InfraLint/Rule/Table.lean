/-!
# Tables of known values

Values that attributes may take, and values that are out of date.
-/

namespace InfraLint.Table

/-- Types of virtual machines. -/
def instanceTypes : List String :=
  ["t2.nano", "t2.micro", "t2.small", "t2.medium", "t2.large", "t2.xlarge", "t2.2xlarge",
    "m4.large", "m4.xlarge", "m4.2xlarge", "m4.4xlarge", "m4.10xlarge", "m4.16xlarge",
    "m3.medium", "m3.large", "m3.xlarge", "m3.2xlarge",
    "c4.large", "c4.2xlarge", "c4.4xlarge", "c4.8xlarge",
    "c3.large", "c3.xlarge", "c3.2xlarge", "c3.4xlarge", "c3.8xlarge",
    "x1.16xlarge", "x1.32xlarge",
    "r4.large", "r4.xlarge", "r4.2xlarge", "r4.4xlarge", "r4.8xlarge", "r4.16xlarge",
    "r3.large", "r3.xlarge", "r3.2xlarge", "r3.4xlarge", "r3.8xlarge",
    "p2.xlarge", "p2.8xlarge", "p2.16xlarge",
    "g2.2xlarge", "g2.8xlarge",
    "i2.xlarge", "i2.2xlarge", "i2.4xlarge", "i2.8xlarge",
    "d2.xlarge", "d2.2xlarge", "d2.4xlarge", "d2.8xlarge",
    "t1.micro",
    "m1.small", "m1.medium", "m1.large", "m1.xlarge",
    "c1.medium", "c1.xlarge",
    "cc2.8xlarge", "cg1.4xlarge",
    "m2.xlarge", "m2.2xlarge", "m2.4xlarge",
    "cr1.8xlarge", "hi1.4xlarge", "hs1.8xlarge",
    "i3.large", "i3.xlarge", "i3.2xlarge", "i3.4xlarge", "i3.8xlarge", "i3.16xlarge",
    "f1.2xlarge", "f1.16xlarge"]

/-- Types of virtual machines of earlier generations. -/
def previousInstanceTypes : List String :=
  ["t1.micro", "m1.small", "m1.medium", "m1.large", "m1.xlarge", "c1.medium", "c1.xlarge",
    "cc2.8xlarge", "cg1.4xlarge", "m2.xlarge", "m2.2xlarge", "m2.4xlarge", "cr1.8xlarge",
    "hi1.4xlarge", "hs1.8xlarge"]

/-- Classes of database machines. -/
def databaseClasses : List String :=
  ["db.t2.micro", "db.t2.small", "db.t2.medium", "db.t2.large", "db.t2.xlarge", "db.t2.2xlarge",
    "db.m4.large", "db.m4.xlarge", "db.m4.2xlarge", "db.m4.4xlarge", "db.m4.10xlarge",
    "db.m4.16xlarge",
    "db.m3.medium", "db.m3.large", "db.m3.xlarge", "db.m3.2xlarge",
    "db.r4.large", "db.r4.xlarge", "db.r4.2xlarge", "db.r4.4xlarge", "db.r4.8xlarge",
    "db.r4.16xlarge",
    "db.r3.large", "db.r3.xlarge", "db.r3.2xlarge", "db.r3.4xlarge", "db.r3.8xlarge",
    "db.t1.micro",
    "db.m1.small", "db.m1.medium", "db.m1.large", "db.m1.xlarge",
    "db.m2.xlarge", "db.m2.2xlarge", "db.m2.4xlarge",
    "db.cr1.8xlarge",
    "db.x1.16xlarge", "db.x1.32xlarge",
    "db.x1e.xlarge", "db.x1e.2xlarge", "db.x1e.4xlarge", "db.x1e.8xlarge", "db.x1e.16xlarge",
    "db.x1e.32xlarge"]

/-- Classes of database machines of earlier generations. -/
def previousDatabaseClasses : List String :=
  ["db.t1.micro", "db.m1.small", "db.m1.medium", "db.m1.large", "db.m1.xlarge",
    "db.m2.xlarge", "db.m2.2xlarge", "db.m2.4xlarge", "db.cr1.8xlarge"]

/-- Types of cache nodes. -/
def cacheNodeTypes : List String :=
  ["cache.t2.micro", "cache.t2.small", "cache.t2.medium",
    "cache.m3.medium", "cache.m3.large", "cache.m3.xlarge", "cache.m3.2xlarge",
    "cache.m4.large", "cache.m4.xlarge", "cache.m4.2xlarge", "cache.m4.4xlarge",
    "cache.m4.10xlarge",
    "cache.r3.large", "cache.r3.xlarge", "cache.r3.2xlarge", "cache.r3.4xlarge",
    "cache.r3.8xlarge",
    "cache.r4.large", "cache.r4.xlarge", "cache.r4.2xlarge", "cache.r4.4xlarge",
    "cache.r4.8xlarge", "cache.r4.16xlarge",
    "cache.m1.small", "cache.m1.medium", "cache.m1.large", "cache.m1.xlarge",
    "cache.m2.xlarge", "cache.m2.2xlarge", "cache.m2.4xlarge",
    "cache.c1.xlarge", "cache.t1.micro"]

/-- Types of cache nodes of earlier generations. -/
def previousCacheNodeTypes : List String :=
  ["cache.m1.small", "cache.m1.medium", "cache.m1.large", "cache.m1.xlarge",
    "cache.m2.xlarge", "cache.m2.2xlarge", "cache.m2.4xlarge",
    "cache.c1.xlarge", "cache.t1.micro"]

/-- Units of metrics. -/
def metricUnits : List String :=
  ["Seconds", "Microseconds", "Milliseconds",
    "Bytes", "Kilobytes", "Megabytes", "Gigabytes", "Terabytes",
    "Bits", "Kilobits", "Megabits", "Gigabits", "Terabits",
    "Percent", "Count",
    "Bytes/Second", "Kilobytes/Second", "Megabytes/Second", "Gigabytes/Second",
    "Terabytes/Second",
    "Bits/Second", "Kilobits/Second", "Megabits/Second", "Gigabits/Second", "Terabits/Second",
    "Count/Second", "None"]

end InfraLint.Table
