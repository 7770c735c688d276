import InfraLint.Proofs.Failure
import InfraLint.Proofs.Registration
import InfraLint.Proofs.SourceOrder

/-!
# The order of issues

The issues of a module are sorted: first by the position of the rule in the registry, then by that of
the cited file in the module, then by line (`Lint.IsSorted`).  For a rule and a file this follows from
the order of the source, since a rule goes through the blocks of a file, and through the values of an
attribute, as they are written.

One rule does not.  The rule on the volumes of virtual machines looks at the root devices of a resource
before it looks at the others, so that it reports in line order only where the root device is written
first (`Block.DevicesInOrder`).
-/

namespace InfraLint

/-- The file and line of a finding. -/
def Finding.spot (finding : Finding) : String × Nat := (finding.file, finding.line)

/-- The file and line of an issue. -/
def Issue.spot (issue : Issue) : String × Nat := (issue.file, issue.line)

variable {file : String} {low high : Nat}

/-! ## The values of an attribute -/

theorem Token.expression?_eq_some_iff {token : Token} {e : Expr} :
    token.expression? = some e ↔ token.value = .expression e := by
  unfold expression?
  cases token.value <;> simp

namespace Scope

variable (scope : Scope)

theorem spot_elementToken (token : Token) (value : Value) :
    (elementToken token value).spot = token.spot := by
  cases value <;> rfl

/-- A list is an array literal, or the expression of the attribute gives it. -/
theorem resolveList_eq_ok {attr : Attribute} {tokens : List Token}
    (resolved : scope.resolveList attr = .ok tokens) :
    attr.elements = some tokens ∨ ∃ e items, attr.elements = none ∧
      attr.token.expression? = some e ∧ scope.evaluate e = .ok (.list items) ∧
      tokens = items.map (elementToken attr.token) := by
  unfold resolveList at resolved
  split at resolved
  · next elements given =>
      cases resolved
      exact .inl given
  · next absent =>
      dsimp only at resolved
      split at resolved
      · cases resolved
      · cases resolved
      · next e written =>
          have expression : attr.token.expression? = some e := by rw [Token.expression?, written]
          split at resolved
          · cases resolved
          · rw [evaluateAt] at resolved
            cases value : scope.evaluate e with
            | error cause =>
                rw [value] at resolved
                cases resolved
            | ok value' =>
                rw [value] at resolved
                cases value' with
                | list items =>
                    cases resolved
                    exact .inr ⟨e, items, absent, expression, value, rfl⟩
                | _ => cases resolved

/-- A list that the expression of an attribute gives has the place of the attribute. -/
theorem resolveList_of_evaluate {attr : Attribute} {e : Expr} {items : List Value}
    (absent : attr.elements = none) (written : attr.token.expression? = some e)
    (value : scope.evaluate e = .ok (.list items)) :
    scope.resolveList attr = .ok (items.map (elementToken attr.token)) := by
  rw [Token.expression?_eq_some_iff] at written
  have solid : e.isLiteral = false := by
    cases e with
    | string | number | bool => cases value
    | _ => rfl
  have placed : scope.evaluateAt attr.token e = .ok (.list items) := by
    rw [evaluateAt, value]
  simp only [resolveList, absent, written, solid, placed, Bool.false_eq_true, if_false]
  rfl

/-- The tokens of an attribute stand in order: the elements of an array literal as they are written,
those of a list that an expression gives all at the attribute. -/
theorem ascends_tokens {attr : Attribute} (lies : attr.LiesIn file low high) (shape : Shape) :
    Ascends file low high ((scope.tokens attr shape).map Token.spot) := by
  have spot : attr.token.spot = (file, attr.line) := by
    rw [Token.spot, ← lies.cited]
    rfl
  cases shape with
  | scalar =>
      rw [tokens, List.map_singleton, spot]
      exact .singleton lies.least lies.most
  | list =>
      simp only [tokens]
      cases resolved : scope.resolveList attr with
      | error cause => exact .nil
      | ok tokens =>
          rcases scope.resolveList_eq_ok resolved with given | ⟨e, items, -, -, -, rfl⟩
          · exact (lies.elements tokens given).widen lies.least le_rfl
          · refine .of_forall_eq (fun found member => ?_) lies.least lies.most
            simp only [List.map_map, List.mem_map, Function.comp_apply, spot_elementToken] at member
            obtain ⟨item, -, rfl⟩ := member
            exact spot

theorem map_token_values_sublist (attr : Attribute) (shape : Shape) :
    ((scope.values attr shape).map (·.token)).Sublist (scope.tokens attr shape) := by
  unfold values
  induction scope.tokens attr shape with
  | nil => exact .slnil
  | cons token rest ih =>
      simp only [List.filterMap_cons, resolved?]
      cases scope.resolve token with
      | error cause => exact ih.cons token
      | ok value => exact ih.cons_cons token

end Scope

/-! ## The findings of a rule in a block -/

theorem filter_append_filter_sublist {α : Type} {p q : α → Bool} {items : List α}
    (apart : ∀ item, p item = true → q item = false)
    (ordered : items.Pairwise fun item later => ¬ (q item = true ∧ p later = true)) :
    (items.filter p ++ items.filter q).Sublist items := by
  induction items with
  | nil => exact .slnil
  | cons item rest ih =>
      obtain ⟨first, others⟩ := List.pairwise_cons.1 ordered
      cases isFirst : p item with
      | true =>
          rw [List.filter_cons_of_pos isFirst, List.filter_cons_of_neg (by simp [apart item isFirst])]
          exact (ih others).cons_cons item
      | false =>
          rw [List.filter_cons_of_neg (by simp [isFirst])]
          cases isSecond : q item with
          | false =>
              rw [List.filter_cons_of_neg (by simp [isSecond])]
              exact (ih others).cons item
          | true =>
              have none : rest.filter p = [] :=
                List.filter_eq_nil_iff.2 fun later member there => first later member ⟨isSecond, there⟩
              rw [List.filter_cons_of_pos isSecond, none, List.nil_append]
              exact List.filter_sublist.cons_cons item

namespace Block

/-- No root device stands behind another device. -/
def DevicesInOrder (block : Block) : Prop :=
  block.blocks.Pairwise fun earlier later =>
    ¬ (earlier.kind = "ebs_block_device" ∧ later.kind = "root_block_device")

instance (block : Block) : Decidable block.DevicesInOrder :=
  inferInstanceAs (Decidable (List.Pairwise _ _))

theorem DevicesInOrder.devices_sublist {block : Block} (ordered : block.DevicesInOrder) :
    (deviceKinds.flatMap block.nested).Sublist block.blocks := by
  have kinds : deviceKinds.flatMap block.nested =
      block.nested "root_block_device" ++ block.nested "ebs_block_device" := by
    simp [deviceKinds]
  rw [kinds]
  refine filter_append_filter_sublist (fun other isRoot => ?_) (ordered.imp fun apart both => ?_)
  · rw [eq_of_beq isRoot]
    decide
  · exact apart ⟨eq_of_beq both.1, eq_of_beq both.2⟩

end Block

namespace Rule

variable {block : Block}

theorem ascends_block (lies : block.LiesIn file low high) (message : String) :
    Ascends file low high ([block.finding message].map Finding.spot) := by
  have spot : (block.finding message).spot = (file, block.line) := by
    rw [← lies.cited]
    rfl
  rw [List.map_singleton, spot]
  exact .singleton lies.least lies.most

theorem ascends_valueFindings (rule : Rule) (scope : Scope) (lies : block.LiesIn file low high)
    (shape : Shape) (isWrong : String → Bool) (complaint : String) :
    Ascends file low high
      ((rule.valueFindings scope block shape isWrong complaint).map Finding.spot) := by
  unfold valueFindings Block.values
  cases given : block.attribute? rule.attr with
  | none => exact .nil
  | some attr =>
      have within := lies.attributes attr (List.mem_of_find?_eq_some given)
      have tokens := scope.ascends_tokens (within.widen lies.least le_rfl) shape
      refine tokens.sublist ?_
      have chosen : (((scope.values attr shape).filter fun v => isWrong v.value).map
          (·.token)).Sublist (scope.tokens attr shape) :=
        (List.filter_sublist.map _).trans (scope.map_token_values_sublist attr shape)
      have spots := chosen.map Token.spot
      rw [List.map_map] at spots ⊢
      exact spots

theorem ascends_passwordFindings (rule : Rule) (module : Module)
    (lies : block.LiesIn file low high) :
    Ascends file low high ((rule.passwordFindings module block).map Finding.spot) := by
  unfold passwordFindings
  cases given : block.attribute? rule.attr with
  | none => exact .nil
  | some attr =>
      have within := lies.attributes attr (List.mem_of_find?_eq_some given)
      dsimp only
      split
      · rw [List.map_singleton, Finding.spot, within.cited]
        exact .singleton (lies.least.trans within.least) within.most
      · exact .nil

/-- What a rule finds in a block stands inside the block, in the order of the lines. -/
theorem ascends_blockFindings (rule : Rule) (facts : Facts) (module : Module) (state : Snapshot)
    (lies : block.LiesIn file low high)
    (devices : rule.check = .volumeTypeGiven → block.DevicesInOrder) :
    Ascends file low high ((rule.blockFindings facts module state block).map Finding.spot) := by
  unfold blockFindings
  dsimp only
  split
  case h_1 | h_2 | h_3 | h_4 => exact rule.ascends_valueFindings _ lies _ _ _
  case h_5 => exact rule.ascends_passwordFindings module lies
  case h_6 =>
    split
    · exact .nil
    · exact ascends_block lies _
  case h_7 given =>
    -- the devices are looked at by kind, which is the order of the source only if the root is first
    have inside := lies.blocks.widen lies.least le_rfl
    refine inside.sublist ?_
    rw [List.map_map]
    exact (List.filter_sublist.trans (devices given).devices_sublist).map _
  case h_8 | h_9 =>
    split
    · exact ascends_block lies _
    · exact .nil

end Rule

/-! ## The issues of a rule in a file -/

/-- Issues cite what the findings cite. -/
theorem Rule.map_spot_issue (rule : Rule) (severity : Severity) (findings : List Finding) :
    (findings.map (rule.issue severity)).map Issue.spot = findings.map Finding.spot := by
  rw [List.map_map]
  rfl

/-- Issues of a rule that cite a file, in the order of its lines. -/
def Rule.Lists (rule : Rule) (file : ConfigFile) (issues : List Issue) : Prop :=
  (∀ issue ∈ issues, issue.rule = rule.name) ∧
    ∃ low high, Ascends file.path low high (issues.map Issue.spot)

namespace Lint

variable {lint : Lint} {module : Module}

/-- The issues of a rule in one file of a module that no waiver silences. -/
def reportedIn (lint : Lint) (module : Module) (rule : Rule) (facts : Facts) (severity : Severity)
    (file : ConfigFile) : List Issue :=
  (((file.resources rule.resourceType).flatMap
    (rule.blockFindings facts module lint.state)).map (rule.issue severity)).filter
      fun issue => !isWaived module issue

theorem reported_eq_flatMap (lint : Lint) (module : Module) (rule : Rule) (facts : Facts)
    (severity : Severity) :
    lint.reported module rule facts severity =
      module.files.flatMap (lint.reportedIn module rule facts severity) := by
  unfold reported Rule.findings Module.resources
  rw [List.flatMap_assoc, List.map_flatMap, List.filter_flatMap]
  rfl

theorem lists_reportedIn {file : ConfigFile} (inOrder : file.InOrder) (rule : Rule)
    (devices : rule.check = .volumeTypeGiven →
      ∀ block ∈ file.resources rule.resourceType, block.DevicesInOrder)
    (module : Module) (facts : Facts) (severity : Severity) :
    rule.Lists file (lint.reportedIn module rule facts severity file) := by
  constructor
  · intro issue member
    obtain ⟨finding, -, rfl⟩ := List.mem_map.1 (List.mem_filter.1 member).1
    rfl
  · obtain ⟨low, high, stacked⟩ := inOrder
    have each : ∀ block ∈ file.resources rule.resourceType, ∀ low high,
        block.LiesIn file.path low high → Ascends file.path low high
          ((rule.blockFindings facts module lint.state block).map Finding.spot) :=
      fun block member low high lies =>
        rule.ascends_blockFindings facts module lint.state lies fun given =>
          devices given block member
    have found := (stacked.filter _).ascends_flatMap each
    rw [← List.map_flatMap, ← rule.map_spot_issue severity] at found
    exact ⟨low, high, found.sublist (List.filter_sublist.map _)⟩

/-- The issues of a rule that has ended are made of those in each file. -/
theorem Ends.exists_lists {rule : Rule} {session next : Session} {outcome : Outcome}
    {issues : List Issue} (ends : lint.Ends module rule session (.ok (outcome, issues)) next)
    (inOrder : ∀ file ∈ module.files, file.InOrder)
    (devices : rule.check = .volumeTypeGiven →
      ∀ block ∈ module.resources rule.resourceType, block.DevicesInOrder) :
    ∃ parts : ConfigFile → List Issue, issues = module.files.flatMap parts ∧
      ∀ file ∈ module.files, rule.Lists file (parts file) := by
  have nothing : ∃ parts : ConfigFile → List Issue, [] = module.files.flatMap parts ∧
      ∀ file ∈ module.files, rule.Lists file (parts file) :=
    ⟨fun _ => [], by simp, fun _ _ => ⟨by simp, 0, 0, .nil⟩⟩
  cases ends with
  | skipped _ => exact nothing
  | failed _ _ => exact nothing
  | @completed facts _ severity _ _ _ =>
      refine ⟨lint.reportedIn module rule facts severity, lint.reported_eq_flatMap module rule _ _,
        fun file member => ?_⟩
      refine lists_reportedIn (inOrder file member) rule (fun given block inside => ?_) module _ _
      exact devices given block (List.mem_flatMap.2 ⟨file, member, inside⟩)

end Lint

/-! ## Sorted issues -/

/-- Where an issue stands: the positions of its rule and of its file, and its line. -/
structure Rank where
  rule : Nat
  file : Nat
  line : Nat

/-- The order of ranks: by rule, then by file, then by line. -/
def Rank.Before (first second : Rank) : Prop :=
  first.rule < second.rule ∨ first.rule = second.rule ∧
    (first.file < second.file ∨ first.file = second.file ∧ first.line ≤ second.line)

namespace Lint

variable {lint : Lint} {module : Module}

/-- An issue of a module has a rank if a rule and a file with its names are in those positions. -/
structure HasRank (lint : Lint) (module : Module) (issue : Issue) (rank : Rank) : Prop where
  rule : lint.registry.names[rank.rule]? = some issue.rule
  file : (module.files.map (·.path))[rank.file]? = some issue.file
  line : rank.line = issue.line

/-- Ranks of issues, one for each and in order. -/
structure Ranks (lint : Lint) (module : Module) (issues : List Issue) (ranks : List Rank) : Prop where
  each : List.Forall₂ (lint.HasRank module) issues ranks
  ordered : ranks.Pairwise Rank.Before

/-- Issues are sorted by rule, then by file, then by line. -/
def IsSorted (lint : Lint) (module : Module) (issues : List Issue) : Prop :=
  ∃ ranks, lint.Ranks module issues ranks

theorem Ranks.nil : lint.Ranks module [] [] := ⟨.nil, .nil⟩

theorem Ranks.append {issues others : List Issue} {ranks more : List Rank}
    (first : lint.Ranks module issues ranks) (second : lint.Ranks module others more)
    (apart : ∀ rank ∈ ranks, ∀ later ∈ more, rank.Before later) :
    lint.Ranks module (issues ++ others) (ranks ++ more) :=
  ⟨List.rel_append first.each second.each,
    List.pairwise_append.2 ⟨first.ordered, second.ordered, apart⟩⟩

/-- The issues of one rule in one file, at the positions of both. -/
theorem exists_ranks_of_lists {rule : Rule} {position place : Nat} {file : ConfigFile}
    {issues : List Issue} (named : lint.registry.names[position]? = some rule.name)
    (found : (module.files.map (·.path))[place]? = some file.path)
    (lists : rule.Lists file issues) :
    ∃ ranks, lint.Ranks module issues ranks ∧
      ∀ rank ∈ ranks, rank.rule = position ∧ rank.file = place := by
  obtain ⟨names, low, high, ascends⟩ := lists
  refine ⟨issues.map fun issue => ⟨position, place, issue.line⟩, ⟨?_, ?_⟩, by simp⟩
  · refine List.forall₂_map_right_iff.2 (List.forall₂_same.2 fun issue member => ⟨?_, ?_, rfl⟩)
    · rw [names issue member, named]
    · rw [found, ← (ascends.within issue.spot (List.mem_map_of_mem member)).1]
      rfl
  · refine List.pairwise_map.2 ((List.pairwise_map.1 ascends.ordered).imp fun falls => ?_)
    exact .inr ⟨rfl, .inr ⟨rfl, falls⟩⟩

/-- The issues of one rule, file by file. -/
theorem exists_ranks_of_files {rule : Rule} {position : Nat}
    (named : lint.registry.names[position]? = some rule.name) {parts : ConfigFile → List Issue}
    {before files : List ConfigFile} (split : module.files = before ++ files)
    (lists : ∀ file ∈ files, rule.Lists file (parts file)) :
    ∃ ranks, lint.Ranks module (files.flatMap parts) ranks ∧
      ∀ rank ∈ ranks, rank.rule = position ∧ before.length ≤ rank.file := by
  induction files generalizing before with
  | nil => exact ⟨[], .nil, by simp⟩
  | cons file rest ih =>
      have found : (module.files.map (·.path))[before.length]? = some file.path := by
        simp [split]
      have split' : module.files = (before ++ [file]) ++ rest := by
        rw [split, List.append_assoc, List.singleton_append]
      obtain ⟨ranks, first, placed⟩ :=
        exists_ranks_of_lists named found (lists file List.mem_cons_self)
      obtain ⟨more, others, later⟩ :=
        ih split' fun other member => lists other (List.mem_cons_of_mem _ member)
      refine ⟨ranks ++ more, first.append others fun rank member rank' member' => ?_, ?_⟩
      · obtain ⟨samePosition, samePlace⟩ := placed rank member
        obtain ⟨position', behind⟩ := later rank' member'
        rw [List.length_append, List.length_singleton] at behind
        exact .inr ⟨by omega, .inl (by omega)⟩
      · intro rank member
        rcases List.mem_append.1 member with member | member
        · obtain ⟨samePosition, samePlace⟩ := placed rank member
          exact ⟨samePosition, by omega⟩
        · obtain ⟨position', behind⟩ := later rank member
          rw [List.length_append, List.length_singleton] at behind
          exact ⟨position', by omega⟩

/-- The issues of rules, one rule after the other. -/
theorem exists_ranks_of_runRules (inOrder : ∀ file ∈ module.files, file.InOrder)
    {before rules : List Rule} (split : lint.registry.rules = before ++ rules)
    (devices : ∀ rule ∈ rules, rule.check = .volumeTypeGiven →
      ∀ block ∈ module.resources rule.resourceType, block.DevicesInOrder)
    {session last : Session} {reports : List (RuleReport × List Issue)}
    (ran : lint.runRules module rules session = (.ok reports, last)) :
    ∃ ranks, lint.Ranks module (reports.flatMap (·.2)) ranks ∧
      ∀ rank ∈ ranks, before.length ≤ rank.rule := by
  induction rules generalizing before session reports with
  | nil =>
      cases ran
      exact ⟨[], .nil, by simp⟩
  | cons rule rest ih =>
      obtain ⟨outcome, issues, next, others, first, rests, rfl⟩ := runRules_cons_ok_iff.1 ran
      have named : lint.registry.names[before.length]? = some rule.name := by
        simp [Registry.names, split]
      have split' : lint.registry.rules = (before ++ [rule]) ++ rest := by
        rw [split, List.append_assoc, List.singleton_append]
      obtain ⟨parts, rfl, lists⟩ := (Ends.of_runRule first).exists_lists inOrder
        (devices rule List.mem_cons_self)
      obtain ⟨ranks, head, placed⟩ :=
        exists_ranks_of_files named (List.nil_append _).symm lists
      obtain ⟨more, tail, later⟩ :=
        ih split' (fun other member => devices other (List.mem_cons_of_mem _ member)) rests
      rw [List.length_append, List.length_singleton] at later
      refine ⟨ranks ++ more, head.append tail fun rank member rank' member' => ?_, ?_⟩
      · have here := (placed rank member).1
        have behind := later rank' member'
        exact .inl (by omega)
      · intro rank member
        rcases List.mem_append.1 member with member | member
        · have here := (placed rank member).1
          omega
        · have behind := later rank member
          omega

/-- The issues of a module whose files have been read from their sources are sorted by rule, file and
line, provided that the rule on volumes, if it is registered, meets no resource with a root device
behind another device. -/
theorem runModule_issues_sorted (valid : lint.IsValid) (module : Module)
    (read : ∀ file ∈ module.files, ∃ source, ConfigFile.parse? file.path source = some file)
    (devices : ∀ rule ∈ lint.registry.rules, rule.check = .volumeTypeGiven →
      ∀ block ∈ module.resources rule.resourceType, block.DevicesInOrder) (sent : List Query) :
    ∃ report last, lint.runModule module sent = (.ok report, last) ∧
      lint.IsSorted module report.issues := by
  have inOrder : ∀ file ∈ module.files, file.InOrder := by
    intro file member
    obtain ⟨source, parsed⟩ := read file member
    exact ConfigFile.inOrder_of_parse? parsed
  obtain ⟨report, last, ran⟩ := exists_runModule_eq_ok valid module sent
  obtain ⟨reports, session, rules, rfl, rfl⟩ := runModule_ok_iff.1 ran
  obtain ⟨ranks, ranked, -⟩ :=
    exists_ranks_of_runRules inOrder (List.nil_append _).symm devices rules
  exact ⟨_, _, ran, ranks, ranked⟩

/-- The rule on the volumes of virtual machines alone, without a provider. -/
def volumes : Lint where
  registry := .ofRules (Rule.catalogue.filter (·.check = .volumeTypeGiven))
  settings := .default
  state := .empty
  provider := none

/-- A virtual machine with two devices of given kinds, on lines 2 and 4. -/
def twoDevices (first second : String) : String :=
  "resource \"aws_instance\" \"web\" \x7b\n  " ++ first ++ " \x7b\n  \x7d\n  " ++ second ++
    " \x7b\n  \x7d\n\x7d\n"

/-- The lines that the rule on volumes reports in a file. -/
def volumeLines (file : ConfigFile) : Option (List Nat) :=
  (volumes.runModule (.ofFiles "" [file] .empty) []).1.toOption.map (·.issues.map (·.line))

theorem volumes_isValid : volumes.IsValid := ⟨_, rfl⟩

theorem lines_eq_of_volumeLines {file : ConfigFile} {lines : List Nat} {report : ModuleReport}
    {last : List Query} (shown : volumeLines file = some lines)
    (ran : volumes.runModule (.ofFiles "" [file] .empty) [] = (.ok report, last)) :
    report.issues.map (·.line) = lines := by
  rw [volumeLines, ran] at shown
  exact Option.some.inj shown

theorem exists_source_of_parse? {path source : String} {file : ConfigFile}
    (parsed : ConfigFile.parse? path source = some file) :
    ∀ other ∈ [file], ∃ source, ConfigFile.parse? other.path source = some other := by
  intro other member
  cases List.mem_singleton.1 member
  exact ⟨source, (ConfigFile.path_of_parse? parsed).symm ▸ parsed⟩

/-- With the root device first, both devices are reported, in the order of their lines. -/
theorem runModule_issues_sorted_rootFirst :
    ∃ file report last,
      ConfigFile.parse? "main.tf" (twoDevices "root_block_device" "ebs_block_device") = some file ∧
      volumes.runModule (.ofFiles "" [file] .empty) [] = (.ok report, last) ∧
      report.issues.map (·.line) = [2, 4] ∧
      volumes.IsSorted (.ofFiles "" [file] .empty) report.issues := by
  have shown : (ConfigFile.parse? "main.tf"
      (twoDevices "root_block_device" "ebs_block_device")).map (fun file => (volumeLines file,
        decide (∀ block ∈ file.resources "aws_instance", block.DevicesInOrder))) =
      some (some [2, 4], true) := by decide +kernel
  obtain ⟨file, parsed, facts⟩ := Option.map_eq_some_iff.1 shown
  obtain ⟨lines, ordered⟩ := Prod.mk.inj facts
  have types : ∀ rule ∈ volumes.registry.rules, rule.resourceType = "aws_instance" := by decide
  have devices : ∀ rule ∈ volumes.registry.rules, rule.check = .volumeTypeGiven →
      ∀ block ∈ (Module.ofFiles "" [file] .empty).resources rule.resourceType,
        block.DevicesInOrder := by
    intro rule member _ block inside
    rw [types rule member, Module.resources, Module.ofFiles, List.flatMap_singleton] at inside
    exact of_decide_eq_true ordered block inside
  obtain ⟨report, last, ran, sorted⟩ := runModule_issues_sorted volumes_isValid
    (.ofFiles "" [file] .empty) (exists_source_of_parse? parsed) devices []
  exact ⟨file, report, last, parsed, ran, lines_eq_of_volumeLines lines ran, sorted⟩

/-- With the root device last, the rule on volumes reports line 4 before line 2.  So the issues of a
module are not sorted for every registry of rules and every source. -/
theorem not_forall_issues_sorted :
    ¬ ∀ (lint : Lint) (module : Module) (sent last : List Query) (report : ModuleReport),
      lint.IsValid → lint.registry.IsBuilt →
      (∀ rule ∈ lint.registry.rules, rule ∈ Rule.catalogue) →
      (∀ file ∈ module.files, ∃ source, ConfigFile.parse? file.path source = some file) →
      lint.runModule module sent = (.ok report, last) → lint.IsSorted module report.issues := by
  intro always
  have shown : (ConfigFile.parse? "main.tf"
      (twoDevices "ebs_block_device" "root_block_device")).map volumeLines = some (some [4, 2]) := by
    decide +kernel
  obtain ⟨file, parsed, lines⟩ := Option.map_eq_some_iff.1 shown
  obtain ⟨report, last, ran⟩ :=
    exists_runModule_eq_ok volumes_isValid (.ofFiles "" [file] .empty) []
  obtain ⟨ranks, each, ordered⟩ :=
    always volumes _ [] last report volumes_isValid ⟨_, rfl⟩ (by decide)
      (exists_source_of_parse? parsed) ran
  obtain ⟨first, rest, two, four, lines⟩ :=
    List.map_eq_cons_iff.1 (lines_eq_of_volumeLines lines ran)
  obtain ⟨second, rest, rfl, second_line, lines⟩ := List.map_eq_cons_iff.1 lines
  cases List.map_eq_nil_iff.1 lines
  rw [two] at each
  cases each with
  | @cons _ rank _ _ ranked each =>
      cases each with
      | @cons _ rank' _ _ ranked' each =>
          -- one rule and one file, so only the lines can tell the two ranks apart
          have oneRule : volumes.registry.names.length = 1 := by decide
          have rule := (List.getElem?_eq_some_iff.1 ranked.rule).1
          have rule' := (List.getElem?_eq_some_iff.1 ranked'.rule).1
          have place : rank.file < 1 := (List.getElem?_eq_some_iff.1 ranked.file).1
          have place' : rank'.file < 1 := (List.getElem?_eq_some_iff.1 ranked'.file).1
          have line := ranked.line
          have line' := ranked'.line
          have before := (List.pairwise_cons.1 ordered).1 rank' List.mem_cons_self
          unfold Rank.Before at before
          omega

end Lint

end InfraLint
