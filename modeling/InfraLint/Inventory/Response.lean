import InfraLint.Json.Basic
import InfraLint.Text.Cut

/-!
# Names in responses

A response of the provider is a JSON value. Names are found by following member names from the top
down; arrays on the way are gone through item by item, at any depth.
-/

namespace InfraLint.Json

mutual

/-- The values that are no arrays and that are reached by choosing items of arrays only. -/
def flattened : Json → List Json
  | .array items => flattenedAll items
  | value => [value]

/-- The same for each value of a list. -/
def flattenedAll : List Json → List Json
  | [] => []
  | value :: rest => flattened value ++ flattenedAll rest

end

/-- The strings under `field` in the objects reached by following `path`. -/
def stringsAt (field : String) : List String → Json → List String
  | [], value => (flattened value).filterMap fun reached => (reached.get? field).bind (·.string?)
  | key :: path, value =>
    (flattened value).flatMap fun reached =>
      match reached.get? key with
      | some next => stringsAt field path next
      | none => []

/-- The items of an array that is a member of an object; nothing for any other value. -/
def itemsUnder (name : String) (value : Json) : List Json :=
  ((value.get? name).bind (·.items?)).getD []

/-- One security group as its network, a dot and its name. A group without a network has nothing
before the dot. -/
def groupKey? (group : Json) : Option String := do
  let name ← (← group.get? "GroupName").string?
  let network := ((group.get? "VpcId").bind (·.string?)).getD ""
  return network ++ "." ++ name

/-- The security groups of a response. -/
def groupKeys (response : Json) : List String :=
  (response.itemsUnder "SecurityGroups").filterMap groupKey?

/-- The part of a resource name after its last slash. -/
def afterLastSlash (text : String) : String :=
  String.ofList (text.toList.reverse.takeWhile (· != '/')).reverse

/-- The clusters of a response, by the last part of their resource names. -/
def clusterNames (response : Json) : List String :=
  (response.itemsUnder "clusterArns").filterMap fun item => item.string?.map afterLastSlash

end InfraLint.Json
