import InfraLint.Proofs.Citations
import InfraLint.Proofs.Nodes
import InfraLint.Proofs.Questions

/-!
# Issues cite real places

An issue is about a node of the resource that a rule looks at (`Rule.Concerns`).  Three cases say
which node it is.

* A check that goes through the values of an attribute is about the node that gives the value
  (`Scope.Gives`): an element of an array literal, and otherwise the key.  This is where the tokens
  of a list that an expression gives are made anew, at the place of the key.
* The check of a password is about the key.
* The other checks are about a block: the resource, or a device inside it.

A module that has been loaded has the files of its directory, and every node of such a file is read
at a place of its text.  So the line that an issue cites is the line of this place.
-/

namespace InfraLint

/-! ## Where values come from -/

/-- An attribute of a shape gives a string at a node. -/
inductive Scope.Gives (scope : Scope) (attr : Attribute) : Shape → String → Node → Prop where
  /-- The value of the attribute itself. -/
  | scalar {value : String} :
      scope.resolve attr.token = .ok value →
      Gives scope attr .scalar value (.key attr)
  /-- An element of an array literal. -/
  | element {tokens : List Token} {token : Token} {value : String} :
      attr.elements = some tokens → token ∈ tokens → scope.resolve token = .ok value →
      Gives scope attr .list value (.element token)
  /-- An item of a list that an expression gives. -/
  | item {e : Expr} {items : List Value} {value : String} :
      attr.elements = none → attr.token.expression? = some e →
      scope.evaluate e = .ok (.list items) → .string value ∈ items →
      Gives scope attr .list value (.key attr)

namespace Scope

variable {scope : Scope} {attr : Attribute}

theorem resolve_elementToken {token : Token} {item : Value} {value : String}
    (resolved : scope.resolve (elementToken token item) = .ok value) : item = .string value := by
  cases item with
  | string text =>
      cases resolved
      rfl
  | _ => cases resolved

/-- The strings of an attribute come from its nodes, and carry their places. -/
theorem exists_gives {shape : Shape} {found : ResolvedValue}
    (member : found ∈ scope.values attr shape) :
    ∃ node, scope.Gives attr shape found.value node ∧ found.token.spot = node.spot := by
  obtain ⟨token, among, resolved⟩ := List.mem_filterMap.1 member
  unfold resolved? at resolved
  split at resolved
  · next value given =>
    cases resolved
    cases shape with
    | scalar =>
        rw [tokens, List.mem_singleton] at among
        subst among
        exact ⟨.key attr, .scalar given, rfl⟩
    | list =>
        simp only [tokens] at among
        cases listed : scope.resolveList attr with
        | error cause =>
            rw [listed] at among
            cases among
        | ok elements =>
            rw [listed] at among
            rcases scope.resolveList_eq_ok listed with written |
              ⟨e, items, absent, expression, evaluated, rfl⟩
            · exact ⟨.element token, .element written among given, rfl⟩
            · obtain ⟨item, there, rfl⟩ := List.mem_map.1 among
              have same := resolve_elementToken given
              subst same
              refine ⟨.key attr, .item absent expression evaluated there, ?_⟩
              rw [spot_elementToken]
              rfl
  · cases resolved

end Scope

/-! ## What a finding is about -/

/-- The shape of the attribute whose values a check goes through, if it does so. -/
def Check.shape? : Check → Option Shape
  | .listed _ _ _ | .unique _ _ _ | .ownParameterGroup => some .scalar
  | .reference _ shape _ => some shape
  | _ => none

/-- The message that a rule gives on a resource is about a node, which is at fault. -/
inductive Rule.Concerns (rule : Rule) (module : Module) (resource : Block) :
    String → Node → Prop where
  /-- A value that is quoted, where it is written. -/
  | value {attr : Attribute} {shape : Shape} {value complaint : String} {node : Node} :
      rule.check.shape? = some shape → resource.attribute? rule.attr = some attr →
      module.scope.Gives attr shape value node →
      Concerns rule module resource ("\"" ++ value ++ "\" " ++ complaint) node
  /-- A password that can be read. -/
  | password {attr : Attribute} {message : String} :
      rule.check = .secretPassword → resource.attribute? rule.attr = some attr →
      Password.isReadable module attr.token = true →
      Concerns rule module resource message (.key attr)
  /-- A resource without a profile. -/
  | profile {message : String} :
      rule.check = .profileGiven → resource.hasAttribute rule.attr = false →
      Concerns rule module resource message (.block resource)
  /-- A route without a target. -/
  | noTarget {message : String} :
      rule.check = .targetGiven → Route.targetCount resource = 0 →
      Concerns rule module resource message (.block resource)
  /-- A route with more than one target. -/
  | manyTargets {message : String} :
      rule.check = .targetSingle → 1 < Route.targetCount resource →
      Concerns rule module resource message (.block resource)
  /-- A device that does not name its type of volume. -/
  | device {kind message : String} {device : Block} :
      rule.check = .volumeTypeGiven → kind ∈ deviceKinds → device ∈ resource.nested kind →
      device.hasAttribute "volume_type" = false →
      Concerns rule module resource message (.block device)

namespace Rule

variable {rule : Rule} {module : Module} {resource : Block}

theorem exists_concerned_of_values {shape : Shape} (goes : rule.check.shape? = some shape)
    {isWrong : String → Bool} {complaint : String} {finding : Finding}
    (member : finding ∈ rule.valueFindings module.scope resource shape isWrong complaint) :
    ∃ node, rule.Concerns module resource finding.message node ∧ finding.spot = node.spot := by
  unfold valueFindings Block.values at member
  obtain ⟨found, wrong, rfl⟩ := List.mem_map.1 member
  obtain ⟨wrong, -⟩ := List.mem_filter.1 wrong
  cases given : resource.attribute? rule.attr with
  | none =>
      rw [given] at wrong
      cases wrong
  | some attr =>
      rw [given] at wrong
      obtain ⟨node, gives, spot⟩ := Scope.exists_gives wrong
      exact ⟨node, .value goes given gives, spot⟩

/-- Every finding of a rule in a resource is about a node, and carries its file and line. -/
theorem exists_concerned (rule : Rule) (facts : Facts) (module : Module) (state : Snapshot)
    {resource : Block} {finding : Finding}
    (member : finding ∈ rule.blockFindings facts module state resource) :
    ∃ node, rule.Concerns module resource finding.message node ∧
      finding.spot = node.spot := by
  unfold blockFindings at member
  dsimp only at member
  split at member
  case h_1 given | h_2 given | h_3 given | h_4 given =>
    exact exists_concerned_of_values (by rw [given, Check.shape?]) member
  case h_5 given =>
    unfold passwordFindings at member
    cases looked : resource.attribute? rule.attr with
    | none =>
        rw [looked] at member
        cases member
    | some attr =>
        simp only [looked] at member
        split at member
        · next readable =>
          cases List.mem_singleton.1 member
          exact ⟨.key attr, .password given looked readable, rfl⟩
        · cases member
  case h_6 given =>
    split at member
    · cases member
    · next lacks =>
      cases List.mem_singleton.1 member
      exact ⟨.block resource, .profile given (Bool.eq_false_iff.2 lacks), rfl⟩
  case h_7 given =>
    obtain ⟨device, bare, rfl⟩ := List.mem_map.1 member
    obtain ⟨nested, bare⟩ := List.mem_filter.1 bare
    obtain ⟨kind, known, inside⟩ := List.mem_flatMap.1 nested
    exact ⟨.block device, .device given known inside (by simpa using bare), rfl⟩
  case h_8 given =>
    split at member
    · next none =>
      cases List.mem_singleton.1 member
      exact ⟨.block resource, .noTarget given none, rfl⟩
    · cases member
  case h_9 given =>
    split at member
    · next many =>
      cases List.mem_singleton.1 member
      exact ⟨.block resource, .manyTargets given many, rfl⟩
    · cases member

/-- The node is one of the body that the resource stands in. -/
theorem Concerns.has {message : String} {node : Node}
    (concerns : rule.Concerns module resource message node) {body : Body}
    (inside : resource ∈ body.blocks) : body.Has node := by
  cases concerns with
  | value _ given gives =>
      have member : _ ∈ resource.body.attributes := List.mem_of_find?_eq_some given
      cases gives with
      | scalar _ => exact .inside inside (.key member)
      | element written among _ => exact .inside inside (.element member written among)
      | item _ _ _ _ => exact .inside inside (.key member)
  | password _ given _ => exact .inside inside (.key (List.mem_of_find?_eq_some given))
  | profile _ _ | noTarget _ _ | manyTargets _ _ => exact .block inside
  | device _ _ nested _ => exact .inside inside (.block (List.mem_filter.1 nested).1)

end Rule

/-! ## The issues of a run -/

/-- An issue cites a node in the text of a file: the node is read at a place of the text and begins
there, and the line of the issue is the line of this place, which is one of the text. -/
structure Issue.Cites (issue : Issue) (file : ConfigFile) (source : String) (node : Node)
    (place : Cursor) : Prop where
  file_eq : issue.file = file.path
  within : (Cursor.start source).Reaches place
  read : node.IsReadAt ⟨file.path, Text.LineIndex.ofText source⟩ place
  begins : place.IsSolid ∧ node.text.toList <+: place.rest
  line_eq : issue.line = (Text.LineIndex.ofText source).lineOf place.offset
  bounds : 1 ≤ issue.line ∧ issue.line ≤ 1 + source.toList.count '\n'

namespace Lint

variable {lint : Lint} {module : Module}

/-- The issues of a rule that has ended are findings of the rule. -/
theorem Ends.exists_finding {rule : Rule} {session next : Session} {outcome : Outcome}
    {issues : List Issue} (ends : lint.Ends module rule session (.ok (outcome, issues)) next) :
    ∀ issue ∈ issues, ∃ facts severity, ∃ finding ∈ rule.findings facts module lint.state,
      issue = rule.issue severity finding := by
  cases ends with
  | skipped _ => simp
  | failed _ _ => simp
  | @completed facts _ severity _ _ _ =>
      intro issue member
      obtain ⟨finding, found, rfl⟩ := List.mem_map.1 (List.mem_filter.1 member).1
      exact ⟨facts, severity, finding, found, rfl⟩

/-- An issue of a module is about a node of a resource in one of the module's files, and cites it in
the text that the file tree has for this file in the directory of the module.  If the path of the
file is a text, the path that is cited leads to it. -/
def IsPlaced (lint : Lint) (tree : FileTree) (module : Module) (issue : Issue) : Prop :=
  ∃ file ∈ module.files, ∃ name ∈ tree.configNames module.dir, ∃ source,
    tree.ReadsAs (PathText.join module.dir name) source file ∧
    ((PathText.join module.dir name).IsText → tree.read? file.path = some source) ∧
    ∃ rule ∈ lint.registry.rules, issue.rule = rule.name ∧
      ∃ resource ∈ file.resources rule.resourceType, ∃ node place,
        rule.Concerns module resource issue.message node ∧
        issue.Cites file source node place

theorem isPlaced_of_finding {tree : FileTree}
    (held : ∀ file ∈ module.files, tree.HoldsIn module.dir file)
    {rule : Rule} (registered : rule ∈ lint.registry.rules) {facts : Facts} {finding : Finding}
    (found : finding ∈ rule.findings facts module lint.state) (severity : Severity) :
    lint.IsPlaced tree module (rule.issue severity finding) := by
  obtain ⟨resource, among, found⟩ := List.mem_flatMap.1 found
  obtain ⟨file, there, inside⟩ := List.mem_flatMap.1 among
  obtain ⟨name, listed, source, reads⟩ := held file there
  obtain ⟨node, concerns, spot⟩ := rule.exists_concerned facts module lint.state found
  have has : file.body.Has node := concerns.has (List.mem_filter.1 inside).1
  obtain ⟨place, within, readAt⟩ := ConfigFile.exists_place_of_parse? reads.parse?_path has
  obtain ⟨cited, line⟩ := Prod.mk.inj (spot.trans readAt.spot_eq)
  refine ⟨file, there, name, listed, source, reads, reads.read?_path, rule, registered, rfl, resource,
    inside, node, place, concerns, cited, within, readAt, readAt.begins, line, ?_⟩
  rw [show (rule.issue severity finding).line = _ from line]
  exact Text.LineIndex.lineOf_bounds source place.offset

theorem isPlaced_of_runModule {tree : FileTree}
    (held : ∀ file ∈ module.files, tree.HoldsIn module.dir file)
    {sent last : List Query} {report : ModuleReport}
    (checked : lint.runModule module sent = (.ok report, last)) :
    ∀ issue ∈ report.issues, lint.IsPlaced tree module issue := by
  obtain ⟨reports, session, ran, rfl, rfl⟩ := runModule_ok_iff.1 checked
  intro issue member
  obtain ⟨entry, among, member⟩ := List.mem_flatMap.1 member
  obtain ⟨rule, registered, ended⟩ :=
    exists_of_forall₂ (ended_of_runRules (isAvailable_session sent) ran) among
  obtain ⟨before, after, -, ends⟩ := ended.ends
  obtain ⟨facts, severity, finding, found, rfl⟩ := ends.exists_finding issue member
  exact isPlaced_of_finding held registered found severity

/-- Every issue of a run over a tree that has been loaded is placed: it names a file of its module,
and its line is the line where the node that it is about is read in the text of this file. -/
theorem run_cites_real_places {tree : FileTree} {options : LoadOptions} {dir : RawText}
    {root : Module} (loaded : Module.load tree options dir = .ok root) {sent last : List Query}
    {report : Report} (ran : lint.run root sent = (.ok report, last)) :
    ∃ reports, report.issues = reports.flatMap (·.issues) ∧
      List.Forall₂ (fun module part =>
        (∃ earlier next, lint.runModule module earlier = (.ok part, next)) ∧
        ∀ issue ∈ part.issues, lint.IsPlaced tree module issue) root.preorder reports := by
  obtain ⟨reports, visited, rfl⟩ := runEach_of_run ran
  have held := Module.holds_of_load loaded
  refine ⟨reports, Report.issues_ofModules reports, ?_⟩
  refine ((List.forall₂_and_left _ _).2 ⟨held, forall₂_of_runEach visited⟩).imp ?_
  rintro module part ⟨held, earlier, next, checked⟩
  exact ⟨⟨earlier, next, checked⟩, isPlaced_of_runModule held checked⟩

end Lint

/-- A balancer with two security groups, each on a line of its own, and a route without a target. -/
def FileTree.balancer : FileTree :=
  FileTree.empty.write "main.tf" (.text ("resource \"aws_elb\" \"web\" \x7b\n" ++
    "  security_groups = [\n    \"sg-1\",\n    \"sg-2\",\n  ]\n\x7d\n" ++
    "resource \"aws_route\" \"out\" \x7b\x7d\n"))

namespace Lint

/-- A deep check for groups and targets.  The provider knows one group. -/
def onBalancers : Lint where
  registry := .ofRules [
    .reference "aws_elb_invalid_security_group" "aws_elb" "security_groups" .securityGroupIds .list
      "security group",
    ⟨"aws_route_not_specified_target", "aws_route", "", .error, true, .targetGiven⟩]
  settings := { Settings.default with deepCheck := true }
  state := .empty
  provider := some (Canned.provider ⟨[(.securityGroupIds, ["sg-1"])], []⟩)

/-- The group that does not exist is reported at its own line and not at that of the attribute, and
the route at its first line. -/
theorem run_cites_real_places_balancer :
    ∃ root report last, ∃ reports : List ModuleReport, Module.load .balancer {} "." = .ok root ∧
      onBalancers.run root [] = (.ok report, last) ∧
      report.issues.map Issue.spot = [("main.tf", 4), ("main.tf", 7)] ∧
      report.issues = reports.flatMap (·.issues) ∧
      List.Forall₂ (fun (module : Module) (part : ModuleReport) => ∀ issue ∈ part.issues,
        onBalancers.IsPlaced .balancer module issue) root.preorder reports := by
  have located : FileTree.balancer.locate "." = some [] := by decide +kernel
  have listed : (FileTree.balancer.fileNames []).filter PathText.isConfiguration =
      [.ofText "main.tf"] := by decide +kernel
  have names : FileTree.balancer.configNames "." = [.ofText "main.tf"] :=
    FileTree.configNames_eq located listed (by decide)
  have loads : (Module.load .balancer {} ".").toOption.map (fun root =>
      (onBalancers.run root []).1.toOption.map fun report => report.issues.map Issue.spot) =
      some (some [("main.tf", 4), ("main.tf", 7)]) := by
    simp only [Module.load, Module.openRoot, FileTree.readDir, located, names, Site.loadChildren_eq,
      run, runPending_eq]
    decide +kernel
  obtain ⟨root, loaded, runs⟩ := exists_ok_of_map_toOption loads
  obtain ⟨report, ended, spots⟩ := exists_ok_of_map_toOption runs
  have ran : onBalancers.run root [] = (.ok report, (onBalancers.run root []).2) :=
    Prod.ext ended rfl
  obtain ⟨reports, issues, placed⟩ := run_cites_real_places loaded ran
  exact ⟨root, report, _, reports, loaded, ran, spots, issues, placed.imp fun _ _ both => both.2⟩

end Lint

end InfraLint
