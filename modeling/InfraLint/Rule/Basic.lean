import InfraLint.Config.Resolve
import InfraLint.Inventory.Session
import InfraLint.Issue

/-!
# Rules

A rule looks at the resources of one type in a module and reports findings. What it checks is one of
a few kinds of check. Some checks compare with what exists at the provider: they first ask, once per
module, and then look at the module with the facts they have learnt. So a rule works in two parts,
`Check.prepare`, which asks, and `Rule.findings`, which cannot.
-/

namespace InfraLint

/-- Something wrong at a place. -/
structure Finding where
  message : String
  file : String
  line : Nat
deriving Repr, DecidableEq

/-- Whether values have to be in a table or must not be. -/
inductive Membership where
  | required
  | forbidden
deriving Repr, DecidableEq

/-- What a rule checks. -/
inductive Check where
  /-- The value is in a table, or is not. The complaint follows the value in quotes. -/
  | listed (table : List String) (membership : Membership) (complaint : String)
  /-- Every value names something that exists. -/
  | reference (query : Query) (shape : Shape) (noun : String)
  /-- The value is not in use yet. Names may be unique within the value of another attribute only,
  for which the default network stands where it is left out. -/
  | unique (query : Query) (noun : String) (within : Option String)
  /-- The value is no parameter group that the provider manages. -/
  | ownParameterGroup
  /-- The value is no readable password. -/
  | secretPassword
  /-- The attribute is given. -/
  | profileGiven
  /-- Each block device names its type of volume. -/
  | volumeTypeGiven
  /-- A route has a target. -/
  | targetGiven
  /-- A route has at most one target. -/
  | targetSingle
deriving Repr, DecidableEq

/-- A rule on an attribute of a type of resource. -/
structure Rule where
  name : String
  resourceType : String
  attr : String
  severity : Severity
  /-- Whether the rule runs when the settings do not say. -/
  enabledByDefault : Bool
  check : Check
deriving Repr, DecidableEq

/-- What a rule has learnt from the provider. -/
structure Facts where
  /-- The names that exist. -/
  known : Names
  /-- The default network, or why it is not known. -/
  network : Except String (Option String)

/-- The facts when nothing has been asked. -/
def Facts.none : Facts := ⟨[], .ok .none⟩

namespace Check

/-- Whether a check asks the provider. -/
def needsProvider : Check → Bool
  | reference _ _ _ | unique _ _ _ => true
  | _ => false

/-- Asks the provider what the check has to know. That the default network is not known does not
stop a check: only the resources that depend on it are passed over. -/
def prepare (check : Check) (session : Session) : Except QueryError Facts × Session :=
  match check with
  | reference query _ _ | unique query _ none =>
    match session.fetch query with
    | (.ok known, next) => (.ok ⟨known, .ok none⟩, next)
    | (.error cause, next) => (.error cause, next)
  | unique query _ (some _) =>
    match session.fetch query with
    | (.error cause, next) => (.error cause, next)
    | (.ok known, next) =>
      let (network, last) := next.defaultVpc
      (.ok ⟨known, network.mapError (·.message)⟩, last)
  | _ => (.ok .none, session)

end Check

namespace Rule

/-- Whether a rule asks the provider. -/
def needsProvider (rule : Rule) : Bool := rule.check.needsProvider

/-- The page that describes a rule. -/
def link (rule : Rule) : String :=
  "https://github.com/tfsift/tfsift/blob/main/docs/rules/" ++ rule.name ++ ".md"

/-- A finding as an issue of a given severity. -/
def issue (rule : Rule) (severity : Severity) (finding : Finding) : Issue :=
  ⟨rule.name, severity, finding.message, finding.file, finding.line, some rule.link⟩

end Rule

end InfraLint
