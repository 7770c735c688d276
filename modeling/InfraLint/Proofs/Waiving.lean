import InfraLint.Proofs.Citations
import InfraLint.Proofs.Isolation

/-!
# What waivers silence

A rule that completes in a module of a loaded tree reports what it has found, in the same order,
without what is waived: an issue is covered by a waiver on the line that it cites or on the line
before it (`Issue.IsCovered`).  The module looks the file of the waiver up by the path that the issue
cites, and takes the first of its files that has this path (`Module.Waives`).

Where the paths of the files are texts this is the file that the issue stands in, so a waiver counts
for its own file alone.  Other paths can be shown alike, and then a waiver of one file silences what
stands in another one (`Lint.runModule_drops_unwaived`).
-/

namespace InfraLint

/-! ## Waivers that count for an issue -/

/-- One of the waivers names the rule of an issue, or all rules, on its line or on the line
before. -/
def Issue.IsCovered (issue : Issue) (waivers : List Waiver) : Prop :=
  ∃ waiver ∈ waivers, (issue.line = waiver.line ∨ issue.line = waiver.line + 1) ∧
    ("all" ∈ waiver.rules ∨ issue.rule ∈ waiver.rules)

/-- The first of the files of a module that has the path of an issue has a waiver for the issue. -/
def Module.Waives (module : Module) (issue : Issue) : Prop :=
  ∃ before file after, module.files = before ++ file :: after ∧
    (∀ other ∈ before, other.path ≠ issue.file) ∧ file.path = issue.file ∧
    issue.IsCovered file.waivers

theorem Waiver.covers_iff {waiver : Waiver} {rule : String} {line : Nat} :
    waiver.covers rule line = true ↔
      (line = waiver.line ∨ line = waiver.line + 1) ∧
        ("all" ∈ waiver.rules ∨ rule ∈ waiver.rules) := by
  simp [covers, and_or_left, exists_or]

theorem ConfigFile.isWaived_iff {file : ConfigFile} {issue : Issue} :
    file.isWaived issue.rule issue.line = true ↔ issue.IsCovered file.waivers := by
  simp [isWaived, Issue.IsCovered, Waiver.covers_iff]

namespace Module

variable {module : Module} {issue : Issue}

theorem file?_eq_some_iff {path : String} {file : ConfigFile} :
    module.file? path = some file ↔ file.path = path ∧ ∃ before after,
      module.files = before ++ file :: after ∧ ∀ other ∈ before, other.path ≠ path := by
  simp [file?, List.find?_eq_some_iff_append]

/-- If no other file has the path of an issue, its own file decides. -/
theorem waives_iff {file : ConfigFile} (there : file ∈ module.files)
    (cited : file.path = issue.file)
    (alone : ∀ other ∈ module.files, other.path = issue.file → other = file) :
    module.Waives issue ↔ issue.IsCovered file.waivers := by
  constructor
  · rintro ⟨before, first, after, split, -, path, covered⟩
    have member : first ∈ module.files := by simp [split]
    rwa [alone first member path] at covered
  · intro covered
    obtain ⟨before, after, split, new⟩ := List.eq_append_cons_of_mem there
    refine ⟨before, file, after, split, fun other member path => ?_, cited, covered⟩
    rw [alone other (by simp [split, member]) path] at member
    exact new member

end Module

namespace Lint

variable {lint : Lint} {module : Module}

theorem isWaived_iff {issue : Issue} : isWaived module issue = true ↔ module.Waives issue := by
  rw [isWaived]
  constructor
  · intro waived
    split at waived
    · next file looked =>
      obtain ⟨path, before, after, split, others⟩ := Module.file?_eq_some_iff.1 looked
      exact ⟨before, file, after, split, others, path, ConfigFile.isWaived_iff.1 waived⟩
    · cases waived
  · rintro ⟨before, file, after, split, others, path, covered⟩
    rw [Module.file?_eq_some_iff.2 ⟨path, before, after, split, others⟩]
    exact ConfigFile.isWaived_iff.2 covered

instance (issue : Issue) : Decidable (module.Waives issue) :=
  decidable_of_iff _ isWaived_iff

/-! ## The turn of a rule -/

/-- Rules that have ended one after the other, and one more behind them. -/
theorem runRules_concat {rules : List Rule} {rule : Rule} {start session next : Session}
    {reports : List (RuleReport × List Issue)} {outcome : Outcome} {issues : List Issue}
    (ran : lint.runRules module rules start = (.ok reports, session))
    (ends : lint.runRule module rule session = (.ok (outcome, issues), next)) :
    lint.runRules module (rules ++ [rule]) start =
      (.ok (reports ++ [(⟨rule.name, module.displayName, outcome⟩, issues)]), next) := by
  induction rules generalizing start reports with
  | nil =>
      cases ran
      exact runRules_cons_ok_iff.2 ⟨outcome, issues, next, [], ends, rfl, rfl⟩
  | cons first rest ih =>
      obtain ⟨outcome', issues', next', others, begins, rests, rfl⟩ := runRules_cons_ok_iff.1 ran
      exact runRules_cons_ok_iff.2 ⟨outcome', issues', next', _, begins, ih rests, rfl⟩

/-- An entry of a rule is how it ended when its turn came after the rules before it. -/
inductive Turn (lint : Lint) (module : Module) (rules : List Rule) (start : Session) (rule : Rule) :
    RuleReport × List Issue → Prop where
  | intro {before after : List Rule} {reports : List (RuleReport × List Issue)}
      {session next : Session} {outcome : Outcome} {issues : List Issue} :
      rules = before ++ rule :: after →
      lint.runRules module before start = (.ok reports, session) →
      lint.runRule module rule session = (.ok (outcome, issues), next) →
      Turn lint module rules start rule (⟨rule.name, module.displayName, outcome⟩, issues)

theorem Turn.named {rules : List Rule} {start : Session} {rule : Rule}
    {entry : RuleReport × List Issue} (turn : lint.Turn module rules start rule entry) :
    Named rule entry := by
  obtain ⟨-, -, ends⟩ := turn
  exact ⟨rfl, fun issue member => (Ends.of_runRule ends).accounts.issue_name member⟩

/-- Every rule has its turn. -/
theorem turns_of_runRules {before rules : List Rule} {start session last : Session}
    {front reports : List (RuleReport × List Issue)}
    (begins : lint.runRules module before start = (.ok front, session))
    (ran : lint.runRules module rules session = (.ok reports, last)) :
    List.Forall₂ (lint.Turn module (before ++ rules) start) rules reports := by
  induction rules generalizing before session front reports with
  | nil =>
      cases ran
      exact .nil
  | cons rule rest ih =>
      obtain ⟨outcome, issues, next, others, ends, rests, rfl⟩ := runRules_cons_ok_iff.1 ran
      have later := ih (runRules_concat begins ends) rests
      rw [List.append_assoc, List.singleton_append] at later
      exact .cons (.intro rfl begins ends) later

/-- What a rule finds when its turn comes in a module: it prepares in the session that the rules before
it have left, and then it detects. -/
inductive Finds (lint : Lint) (module : Module) (sent : List Query) (rule : Rule) :
    List Issue → Prop where
  | intro {before after : List Rule} {reports : List (RuleReport × List Issue)}
      {session next : Session} {run detected : RuleRun} {severity : Severity} :
      lint.registry.rules = before ++ rule :: after →
      lint.runRules module before (lint.session sent) = (.ok reports, session) →
      (RuleRun.start rule).prepare session = (.ok (), run, next) →
      run.detect module lint.state = (.ok (), detected) →
      lint.severity rule = .ok severity →
      Finds lint module sent rule (detected.findings.map (rule.issue severity))

/-- An issue of a rule stands in a resource of a file. -/
def StandsIn (lint : Lint) (module : Module) (rule : Rule) (issue : Issue) (file : ConfigFile) :
    Prop :=
  ∃ facts severity, ∃ block ∈ file.resources rule.resourceType,
    ∃ finding ∈ rule.blockFindings facts module lint.state block, issue = rule.issue severity finding

/-- A rule that completes in its turn reports what it has found and what is not waived. -/
theorem Turn.finds {sent : List Query} {rule : Rule} {stated : Nat} {issues : List Issue}
    (turn : lint.Turn module lint.registry.rules (lint.session sent) rule
      (⟨rule.name, module.displayName, .completed stated⟩, issues)) :
    ∃ facts severity,
      lint.Finds module sent rule
        ((rule.findings facts module lint.state).map (rule.issue severity)) ∧
      issues = lint.reported module rule facts severity ∧ stated = issues.length := by
  cases turn with
  | intro split ran ends =>
      cases Ends.of_runRule ends with
      | @completed facts next severity _ prepared level =>
          exact ⟨facts, severity,
            .intro split ran (RuleRun.prepare_start_of_ok prepared) rfl level, rfl, rfl⟩

/-- The issues that a module reports for a rule that completes are those that the rule has found, in
the same order, without those that the module waives, and the outcome states their number.  An issue
stands in a file of the module and cites its path.  If no other file has this path, the waivers of the
text of this file alone decide on the issue.  Where the paths are texts, no other file of the module
has it, and no file of any other module. -/
theorem runModule_drops_waived {tree : FileTree} {options : LoadOptions} {dir : RawText}
    {root : Module} (loaded : Module.load tree options dir = .ok root)
    (visited : module ∈ root.preorder) (built : lint.registry.IsBuilt) {rule : Rule}
    (member : rule ∈ lint.registry.rules) {sent last : List Query} {report : ModuleReport}
    (checked : lint.runModule module sent = (.ok report, last)) {stated : Nat}
    (completed : ⟨rule.name, module.displayName, .completed stated⟩ ∈ report.outcomes) :
    ∃ found, lint.Finds module sent rule found ∧
      report.issuesOf rule.name = found.filter (fun issue => ¬ module.Waives issue) ∧
      stated = (report.issuesOf rule.name).length ∧
      ∀ issue ∈ found, ∃ file ∈ module.files, ∃ name ∈ tree.configNames module.dir, ∃ text,
        tree.ReadsAs (PathText.join module.dir name) text file ∧ file.path = issue.file ∧
        lint.StandsIn module rule issue file ∧
        ((∀ other ∈ module.files, other.path = issue.file → other = file) →
          (module.Waives issue ↔ issue.IsCovered (Waiver.scan text))) ∧
        (tree.HasTextPaths module.dir → ∀ other ∈ root.preorder, tree.HasTextPaths other.dir →
          ∀ file' ∈ other.files, file'.path = issue.file → file' = file) := by
  obtain ⟨reports, session, ran, rfl, rfl⟩ := runModule_ok_iff.1 checked
  have held := Module.holds_of_load loaded module visited
  have turns : List.Forall₂ (lint.Turn module ([] ++ lint.registry.rules) (lint.session sent))
      lint.registry.rules reports := turns_of_runRules rfl ran
  obtain ⟨⟨done, issues⟩, turn, outcomes, reported⟩ :=
    exists_entry_of_name Turn.named built.nodup_names turns member
  have same : done = ⟨rule.name, module.displayName, .completed stated⟩ := by
    have listed : ⟨rule.name, module.displayName, .completed stated⟩ ∈
        (reports.map (·.1)).filter (·.rule == rule.name) :=
      List.mem_filter.2 ⟨completed, beq_self_eq_true rule.name⟩
    rw [outcomes, List.mem_singleton] at listed
    exact listed.symm
  subst same
  obtain ⟨facts, severity, finds, rfl, counted⟩ := turn.finds
  refine ⟨_, finds, ?_, ?_, fun issue found => ?_⟩
  · rw [ModuleReport.issuesOf, reported]
    refine List.filter_congr fun issue _ => ?_
    rw [Bool.eq_iff_iff, Bool.not_eq_true', ← Bool.not_eq_true, isWaived_iff, decide_eq_true_iff]
  · rw [ModuleReport.issuesOf, reported, counted]
  · obtain ⟨finding, member', rfl⟩ := List.mem_map.1 found
    obtain ⟨file, there, block, inside, stands, cited⟩ := rule.exists_file_of_mem_findings facts
      lint.state (fun file there => (held file there).inOrder) member'
    obtain ⟨name, listed, text, reads⟩ := held file there
    refine ⟨file, there, name, listed, text, reads, cited.symm,
      ⟨facts, severity, block, inside, finding, stands, rfl⟩, fun alone => ?_,
      fun texts other visited' texts' file' there' path => ?_⟩
    · rw [← reads.waivers_eq]
      exact Module.waives_iff there cited.symm alone
    · have held' := Module.holds_of_load loaded other visited' file' there'
      exact held'.eq_of_path texts' texts (held file there) (path.trans cited)

/-- The rule on the targets of routes. -/
def routeTarget : Rule :=
  ⟨"aws_route_not_specified_target", "aws_route", "", .error, true, .targetGiven⟩

/-- A check with this rule alone. -/
def onRoutes : Lint where
  registry := .ofRules [routeTarget]
  settings := .default
  state := .empty
  provider := none

end Lint

/-- Routes on the second lines of two files of the root, of which one has a waiver above the route,
and of a file in another module, which has a waiver for all rules there. -/
def FileTree.routes : FileTree :=
  ((FileTree.empty.write "main.tf" (.text ("# tfsift-ignore: aws_route_not_specified_target\n" ++
    "resource \"aws_route\" \"a\" \x7b\x7d\n" ++
    "module \"app\" \x7b source = \"./app\" \x7d\n"))).write
    "net.tf" (.text "\nresource \"aws_route\" \"b\" \x7b\x7d\n")).write
    "app/main.tf" (.text "# tfsift-ignore: all\nresource \"aws_route\" \"c\" \x7b\x7d\n")

namespace Lint

/-- In the root the rule finds two routes on the same line, and only the one in the file with the
waiver is dropped. -/
theorem runModule_drops_waived_routes :
    ∃ root report found, Module.load .routes {} "." = .ok root ∧
      (root.preorder.map fun module => module.files.map (·.path)) =
        [["main.tf", "net.tf"], ["app/main.tf"]] ∧
      (onRoutes.runModule root []).1 = .ok report ∧
      (routeTarget.findings .none root .empty).map Finding.spot = [("main.tf", 2), ("net.tf", 2)] ∧
      (report.issuesOf routeTarget.name).map Issue.spot = [("net.tf", 2)] ∧
      onRoutes.Finds root [] routeTarget found ∧
      report.issuesOf routeTarget.name = found.filter (fun issue => ¬ root.Waives issue) ∧
      ∀ issue ∈ found, ∃ file ∈ root.files, onRoutes.StandsIn root routeTarget issue file ∧
        (root.Waives issue ↔ issue.IsCovered file.waivers) := by
  have located : FileTree.routes.locate "." = some [] := by decide +kernel
  have listed : (FileTree.routes.fileNames []).filter PathText.isConfiguration =
      [.ofText "main.tf", .ofText "net.tf"] := by decide +kernel
  have names : FileTree.routes.configNames "." = [.ofText "main.tf", .ofText "net.tf"] :=
    FileTree.configNames_eq located listed (by decide +kernel)
  have texts : FileTree.routes.HasTextPaths "." := by
    simp only [FileTree.HasTextPaths, names, List.forall_mem_cons]
    exact ⟨⟨"./main.tf", by decide +kernel⟩, ⟨"./net.tf", by decide +kernel⟩, nofun⟩
  have loads : (Module.load .routes {} ".").toOption.map (fun root =>
      (decide (root.dir = .ofText "." ∧ (root.preorder.map fun module => module.files.map (·.path)) =
          [["main.tf", "net.tf"], ["app/main.tf"]]),
        decide ((routeTarget.findings .none root .empty).map Finding.spot =
          [("main.tf", 2), ("net.tf", 2)]),
        decide ((onRoutes.runModule root []).1.toOption.map (fun report =>
          ((report.issuesOf routeTarget.name).map Issue.spot,
            decide (⟨routeTarget.name, root.displayName, .completed 1⟩ ∈ report.outcomes))) =
          some ([("net.tf", 2)], true)))) = some (true, true, true) := by
    simp only [Module.load, Module.openRoot, FileTree.readDir, located, names, Site.loadChildren_eq]
    decide +kernel
  obtain ⟨root, loaded, seen⟩ := exists_ok_of_map_toOption loads
  simp only [Prod.mk.injEq, decide_eq_true_iff] at seen
  obtain ⟨⟨dir, paths⟩, spots, checks⟩ := seen
  obtain ⟨report, checked, seen⟩ := exists_ok_of_map_toOption checks
  rw [Prod.mk.injEq, decide_eq_true_iff] at seen
  have built : onRoutes.registry.IsBuilt := ⟨_, rfl⟩
  have member : routeTarget ∈ onRoutes.registry.rules := by decide
  have ran : onRoutes.runModule root [] = (.ok report, (onRoutes.runModule root []).2) :=
    Prod.ext checked rfl
  obtain ⟨found, finds, drops, -, stands⟩ :=
    runModule_drops_waived loaded root.mem_preorder_self built member ran seen.2
  refine ⟨root, report, found, loaded, paths, checked, spots, seen.1, finds, drops, ?_⟩
  intro issue inside
  obtain ⟨file, there, name, -, text, reads, -, standing, decides, alone⟩ := stands issue inside
  refine ⟨file, there, standing, ?_⟩
  rw [reads.waivers_eq]
  exact decides (alone (dir ▸ texts) root root.mem_preorder_self (dir ▸ texts))

end Lint

/-- Two files whose names encode no text: one with a waiver for all rules, and one with a route on
its second line. -/
def FileTree.alike : FileTree :=
  (FileTree.empty.write ⟨[0x61, 0xFE, 0x2E, 0x74, 0x66]⟩ (.text "# tfsift-ignore: all\n")).write
    ⟨[0x61, 0xFF, 0x2E, 0x74, 0x66]⟩ (.text "\nresource \"aws_route\" \"b\" \x7b\x7d\n")

/-- Routes on the second lines of two files, of which one has a text above the route that spells out
a waiver. -/
def FileTree.noted : FileTree :=
  (FileTree.empty.write "main.tf" (.text ("locals \x7b note = \"# tfsift-ignore: all\" \x7d\n" ++
    "resource \"aws_route\" \"r\" \x7b\n\x7d\n"))).write
    "net.tf" (.text "\nresource \"aws_route\" \"s\" \x7b\n\x7d\n")

namespace Lint

/-- The waiver that silences a route need not be one of its file.  Two files can be shown by the same
path: the route stands in the second one, which has no waiver, and the waiver of the first one
silences it.  And what is taken for a waiver can be the text of an attribute. -/
theorem runModule_drops_unwaived :
    (∃ root report, Module.load .alike {} "." = .ok root ∧
      root.files.map (·.path) = ["a\uFFFD.tf", "a\uFFFD.tf"] ∧
      root.files.map (·.waivers) = [[⟨1, ["all"]⟩], []] ∧
      (root.files.map fun file => ((file.resources "aws_route").flatMap
        (routeTarget.blockFindings .none root .empty)).map Finding.spot) =
        [[], [("a\uFFFD.tf", 2)]] ∧
      (onRoutes.runModule root []).1 = .ok report ∧
      ⟨routeTarget.name, "root", .completed 0⟩ ∈ report.outcomes ∧ report.issues = []) ∧
    ∃ root report, Module.load .noted {} "." = .ok root ∧
      ((root.blocksOf "locals").flatMap fun block =>
        block.attributes.map fun attr => (attr.file, attr.token.raw)) =
        [("main.tf", "\"# tfsift-ignore: all\"")] ∧
      (routeTarget.findings .none root .empty).map Finding.spot = [("main.tf", 2), ("net.tf", 2)] ∧
      (onRoutes.runModule root []).1 = .ok report ∧
      ⟨routeTarget.name, "root", .completed 1⟩ ∈ report.outcomes ∧
      report.issues.map Issue.spot = [("net.tf", 2)] := by
  constructor
  · have located : FileTree.alike.locate "." = some [] := by decide +kernel
    have listed : (FileTree.alike.fileNames []).filter PathText.isConfiguration =
        [⟨[0x61, 0xFE, 0x2E, 0x74, 0x66]⟩, ⟨[0x61, 0xFF, 0x2E, 0x74, 0x66]⟩] := by decide +kernel
    have names := FileTree.configNames_eq located listed (by decide +kernel)
    have loads : (Module.load .alike {} ".").toOption.map (fun root =>
        (decide (root.files.map (·.path) = ["a\uFFFD.tf", "a\uFFFD.tf"] ∧
            root.files.map (·.waivers) = [[⟨1, ["all"]⟩], []] ∧
            (root.files.map fun file => ((file.resources "aws_route").flatMap
              (routeTarget.blockFindings .none root .empty)).map Finding.spot) =
              [[], [("a\uFFFD.tf", 2)]]),
          decide ((onRoutes.runModule root []).1.toOption.map (fun report =>
            decide (⟨routeTarget.name, "root", .completed 0⟩ ∈ report.outcomes ∧
              report.issues = [])) = some true))) = some (true, true) := by
      simp only [Module.load, Module.openRoot, FileTree.readDir, located, names,
        Site.loadChildren_eq]
      decide +kernel
    obtain ⟨root, loaded, seen⟩ := exists_ok_of_map_toOption loads
    simp only [Prod.mk.injEq, decide_eq_true_iff] at seen
    obtain ⟨⟨paths, waivers, spots⟩, checks⟩ := seen
    obtain ⟨report, checked, seen⟩ := exists_ok_of_map_toOption checks
    obtain ⟨completed, none⟩ := of_decide_eq_true seen
    exact ⟨root, report, loaded, paths, waivers, spots, checked, completed, none⟩
  · have located : FileTree.noted.locate "." = some [] := by decide +kernel
    have listed : (FileTree.noted.fileNames []).filter PathText.isConfiguration =
        [.ofText "main.tf", .ofText "net.tf"] := by decide +kernel
    have names := FileTree.configNames_eq located listed (by decide +kernel)
    have loads : (Module.load .noted {} ".").toOption.map (fun root =>
        (decide (((root.blocksOf "locals").flatMap fun block =>
              block.attributes.map fun attr => (attr.file, attr.token.raw)) =
              [("main.tf", "\"# tfsift-ignore: all\"")] ∧
            (routeTarget.findings .none root .empty).map Finding.spot =
              [("main.tf", 2), ("net.tf", 2)]),
          decide ((onRoutes.runModule root []).1.toOption.map (fun report =>
            decide (⟨routeTarget.name, "root", .completed 1⟩ ∈ report.outcomes ∧
              report.issues.map Issue.spot = [("net.tf", 2)])) = some true))) =
        some (true, true) := by
      simp only [Module.load, Module.openRoot, FileTree.readDir, located, names,
        Site.loadChildren_eq]
      decide +kernel
    obtain ⟨root, loaded, seen⟩ := exists_ok_of_map_toOption loads
    simp only [Prod.mk.injEq, decide_eq_true_iff] at seen
    obtain ⟨⟨noted, spots⟩, checks⟩ := seen
    obtain ⟨report, checked, seen⟩ := exists_ok_of_map_toOption checks
    obtain ⟨completed, left⟩ := of_decide_eq_true seen
    exact ⟨root, report, loaded, noted, spots, checked, completed, left⟩

end Lint

end InfraLint
