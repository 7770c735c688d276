import InfraLint.Command.Run
import InfraLint.Proofs.Failure
import InfraLint.Proofs.LoadErrors

/-!
# The exit code of a check

A check reads its settings, loads the modules and runs the rules, and the first of these steps that
fails ends it.  Its exit code tells whether issues were found, and, if a step fails, whether the
settings or the arguments are to blame.

Each step says what it blames them for.  The settings are refused if the file that is named for them
is missing, or if their text holds no settings (`Settings.IsRefused`); the modules if the directory
or a variable file is missing (`Module.IsRefused`); the run if a severity is not known
(`Settings.HasUnknown`).  `CheckArguments.IsToBlame` puts them one behind the other.  Nothing else
gives the exit code 2, and every other failure gives 1 (`Command.run_exit_of_check`).
-/

namespace InfraLint

/-! ## Settings -/

theorem FileTree.isFile_of_read? {tree : FileTree} {path : RawText} {content : String}
    (read : tree.read? path = some content) : tree.isFile path = true := by
  rw [read?] at read
  split at read
  · next found => rw [isFile, found]
  · cases read

namespace Settings

/-- A text holds no settings: it is not blank, and it is no document or one of another shape. -/
def IsMisshapen (content : String) : Prop :=
  (Text.trim content).isEmpty = false ∧
    (Yaml.Document.parse? content = none ∨ ∃ document,
      Yaml.Document.parse? content = some (some document) ∧ ofDocument? document = none)

theorem parse_eq_error_iff {content : String} {cause : SettingsError} :
    parse content = .error cause ↔ IsMisshapen content ∧ cause = .malformed := by
  rw [parse, IsMisshapen]
  cases (Text.trim content).isEmpty with
  | true => simp
  | false =>
      cases Yaml.Document.parse? content with
      | none => simp [eq_comm]
      | some document? =>
          cases document? with
          | none => simp
          | some document =>
              cases made : ofDocument? document with
              | none => simp [made, eq_comm]
              | some settings => simp [made]

/-- Settings are read from the file that is named, or from the one with the default name. -/
def IsSource (named : Option RawText) (dir path : RawText) : Prop :=
  named = some path ∨ named = none ∧ path = PathText.join dir defaultFile

/-- Settings are refused: the file that is named is missing, or the text of the file holds none. -/
inductive IsRefused (tree : FileTree) (named : Option RawText) (dir : RawText) : Prop where
  | missing {path : RawText} :
      named = some path → tree.isFile path = false → IsRefused tree named dir
  | misshapen {path : RawText} {content : String} :
      IsSource named dir path → tree.read? path = some content → IsMisshapen content →
      IsRefused tree named dir

section

variable {tree : FileTree} {named : Option RawText} {dir path : RawText} {cause : SettingsError}

/-- A source that is a file is the one that is read. -/
theorem discover_of_isSource (source : IsSource named dir path) (there : tree.isFile path = true) :
    discover tree named dir = load tree path := by
  rcases source with rfl | ⟨rfl, rfl⟩
  · simp only [discover, there, if_true]
  · simp only [discover, there, if_true]

/-- Settings that cannot be discovered are refused, or their file is no text. -/
theorem isRefused_of_discover (failed : discover tree named dir = .error cause) :
    IsRefused tree named dir ∨ ∃ path, cause = .unreadable path := by
  have loads : ∀ path, IsSource named dir path → load tree path = .error cause →
      IsRefused tree named dir ∨ ∃ path, cause = .unreadable path := by
    intro path source failed
    rw [load] at failed
    split at failed
    · next content read =>
      exact .inl (.misshapen source read (parse_eq_error_iff.1 failed).1)
    · cases failed
      exact .inr ⟨path, rfl⟩
  rw [discover.eq_def] at failed
  split at failed
  · next path =>
    split at failed
    · exact loads path (.inl rfl) failed
    · next missing => exact .inl (.missing rfl (Bool.eq_false_iff.2 missing))
  · simp only at failed
    split at failed
    · exact loads _ (.inr ⟨rfl, rfl⟩) failed
    · cases failed

theorem exists_discover_eq_error (refused : IsRefused tree named dir) :
    ∃ cause, discover tree named dir = .error cause ∧ ∀ path, cause ≠ .unreadable path := by
  cases refused with
  | @missing path given missing =>
      refine ⟨.notFound path, ?_, nofun⟩
      simp only [discover, given, missing, Bool.false_eq_true, if_false]
  | misshapen source read misshapen =>
      refine ⟨.malformed, ?_, nofun⟩
      rw [discover_of_isSource source (FileTree.isFile_of_read? read), load, read]
      exact parse_eq_error_iff.2 ⟨misshapen, rfl⟩

end

/-- The entry under a name has a severity that is not known. -/
def IsUnknownFor (settings : Settings) (name : String) : Prop :=
  ∃ rule text, (name, rule) ∈ settings.rules.entries ∧ rule.IsUnknown text

/-- Some entry has a severity that is not known. -/
def HasUnknown (settings : Settings) : Prop := ∃ name, settings.IsUnknownFor name

theorem validate_fails_iff {settings : Settings} {known : List String} :
    (∃ cause, settings.validate known = .error cause) ↔ settings.HasUnknown := by
  constructor
  · rintro ⟨cause, failed⟩
    obtain ⟨name, text, ⟨⟨rule, member, unknown⟩, -⟩, -⟩ := validate_eq_error_iff.1 failed
    exact ⟨name, rule, text, member, unknown⟩
  · rintro ⟨name, rule, text, member, unknown⟩
    exact exists_validate_eq_error known member unknown

end Settings

/-! ## Runs -/

namespace Lint

/-- A run gives a report if all severities are known. -/
theorem exists_run_of_not_hasUnknown (lint : Lint) (known : ¬ lint.settings.HasUnknown)
    (root : Module) (sent : List Query) :
    ∃ report last, lint.run root sent = (.ok report, last) := by
  cases checked : lint.settings.validate lint.registry.names with
  | error cause => exact absurd (Settings.validate_fails_iff.1 ⟨cause, checked⟩) known
  | ok warnings => exact exists_run_eq_ok ⟨warnings, checked⟩ root sent

/-- A run fails over a severity if one is not known. -/
theorem exists_run_of_hasUnknown (lint : Lint) (unknown : lint.settings.HasUnknown)
    (root : Module) (sent : List Query) :
    ∃ text, lint.run root sent = (.error (.settings (.unknownSeverity text)), sent) := by
  obtain ⟨cause, failed⟩ := Settings.validate_fails_iff.2 unknown
  obtain ⟨name, text, -, rfl⟩ := Settings.validate_eq_error_iff.1 failed
  exact ⟨text, by rw [run, failed]⟩

end Lint

/-! ## Checks -/

namespace Command

namespace CheckArguments

/-- What a check runs in the modules it has loaded. -/
def lint (arguments : CheckArguments) (world : Surroundings) (settings : Settings)
    (root : Module) : Lint :=
  ⟨.default, settings, Snapshot.load world.tree (settings.statePath arguments.dir),
    if settings.deepCheck then some (world.clientFor settings root).provider else none⟩

/-- Every step of a check succeeds, and this is the report. -/
def Checks (arguments : CheckArguments) (world : Surroundings) (report : Report) : Prop :=
  ∃ settings root sent, arguments.settings world.tree = .ok settings ∧
    Module.load world.tree settings.loadOptions arguments.dir = .ok root ∧
    (arguments.lint world settings root).run root [] = (.ok report, sent)

/-- The first step of a check that fails does so over the settings or the arguments. -/
inductive IsToBlame (arguments : CheckArguments) (tree : FileTree) : Prop where
  | settings : Settings.IsRefused tree arguments.config arguments.dir → IsToBlame arguments tree
  | modules {settings : Settings} :
      arguments.settings tree = .ok settings →
      Module.IsRefused tree settings.loadOptions arguments.dir → IsToBlame arguments tree
  | severity {settings : Settings} {root : Module} :
      arguments.settings tree = .ok settings →
      Module.load tree settings.loadOptions arguments.dir = .ok root → settings.HasUnknown →
      IsToBlame arguments tree

variable {arguments : CheckArguments} {world : Surroundings} {settings : Settings} {root : Module}

/-- There is one report at most. -/
theorem Checks.unique {report other : Report} (checks : arguments.Checks world report)
    (also : arguments.Checks world other) : report = other := by
  obtain ⟨settings, root, sent, found, loaded, ran⟩ := checks
  obtain ⟨settings', root', sent', found', loaded', ran'⟩ := also
  cases found.symm.trans found'
  cases loaded.symm.trans loaded'
  cases ran.symm.trans ran'
  rfl

/-! ### How each step ends a check -/

theorem exit_of_discover {cause : SettingsError}
    (failed : Settings.discover world.tree arguments.config arguments.dir = .error cause)
    (quiet : Bool) : (arguments.execute quiet world).exit = (Failure.settings cause).exit := by
  simp only [execute, report, CheckArguments.settings, failed, error_bind]
  rfl

theorem exit_of_load {cause : LoadError} (found : arguments.settings world.tree = .ok settings)
    (failed : Module.load world.tree settings.loadOptions arguments.dir = .error cause)
    (quiet : Bool) :
    (arguments.execute quiet world).exit = (Failure.load arguments.dir cause).exit := by
  simp only [execute, report, found, failed, Except.mapError, ok_bind, error_bind]
  rfl

theorem report_of_load (found : arguments.settings world.tree = .ok settings)
    (loaded : Module.load world.tree settings.loadOptions arguments.dir = .ok root) :
    arguments.report world = do
      let (result, sent) := (arguments.lint world settings root).run root []
      let report ← result.mapError .run
      return (report, sent.map (world.clientFor settings root).invocation) := by
  simp only [report, found, loaded, Except.mapError, ok_bind]
  rfl

theorem exit_of_run {cause : LintError} {sent : List Query}
    (found : arguments.settings world.tree = .ok settings)
    (loaded : Module.load world.tree settings.loadOptions arguments.dir = .ok root)
    (failed : (arguments.lint world settings root).run root [] = (.error cause, sent))
    (quiet : Bool) : (arguments.execute quiet world).exit = (Failure.run cause).exit := by
  simp only [execute, report_of_load found loaded, failed, Except.mapError, error_bind]
  rfl

theorem exit_of_checks {report : Report} (checks : arguments.Checks world report) (quiet : Bool) :
    (arguments.execute quiet world).exit = if report.issues = [] then 0 else 3 := by
  obtain ⟨settings, root, sent, found, loaded, ran⟩ := checks
  simp only [execute, report_of_load found loaded, ran, Except.mapError, ok_bind]
  cases written : report.issues with
  | nil => simp [Report.hasIssues, written, pure, Except.pure]
  | cons issue rest => simp [Report.hasIssues, written, pure, Except.pure]

/-! ### Who is to blame -/

theorem exit_of_isToBlame (blamed : arguments.IsToBlame world.tree) (quiet : Bool) :
    (arguments.execute quiet world).exit = 2 := by
  cases blamed with
  | settings refused =>
      obtain ⟨cause, failed, readable⟩ := Settings.exists_discover_eq_error refused
      rw [exit_of_discover failed]
      cases cause with
      | unreadable path => exact absurd rfl (readable path)
      | _ => rfl
  | modules found refused =>
      obtain ⟨cause, failed, other⟩ := Module.load_refused_iff.2 refused
      rw [exit_of_load found failed]
      cases cause with
      | unreadable path => exact absurd (.unreadable path) other
      | malformed file => exact absurd (.malformed file) other
      | badManifest => exact absurd .badManifest other
      | _ => rfl
  | @severity settings root found loaded unknown =>
      obtain ⟨text, failed⟩ :=
        (arguments.lint world settings root).exists_run_of_hasUnknown unknown root []
      rw [exit_of_run found loaded failed]
      rfl

/-- Without a report, and if neither the settings nor the arguments are to blame, something else has
gone wrong. -/
theorem exit_of_not_isToBlame (stopped : ¬ ∃ report, arguments.Checks world report)
    (innocent : ¬ arguments.IsToBlame world.tree) (quiet : Bool) :
    (arguments.execute quiet world).exit = 1 := by
  cases discovered : Settings.discover world.tree arguments.config arguments.dir with
  | error cause =>
      rw [exit_of_discover discovered]
      rcases Settings.isRefused_of_discover discovered with refused | ⟨path, rfl⟩
      · exact absurd (.settings refused) innocent
      · rfl
  | ok base =>
      obtain ⟨settings, found⟩ : ∃ settings, arguments.settings world.tree = .ok settings := by
        rw [CheckArguments.settings, discovered]
        exact ⟨_, rfl⟩
      cases loaded : Module.load world.tree settings.loadOptions arguments.dir with
      | error cause =>
          rw [exit_of_load found loaded]
          by_cases content : cause.IsContent
          · cases content <;> rfl
          · exact absurd (.modules found (Module.load_refused_iff.1 ⟨cause, loaded, content⟩))
              innocent
      | ok root =>
          -- A run fails over a severity only, and then the settings are to blame.
          have known : ¬ settings.HasUnknown := fun unknown =>
            innocent (.severity found loaded unknown)
          obtain ⟨report, sent, ran⟩ :=
            (arguments.lint world settings root).exists_run_of_not_hasUnknown known root []
          exact absurd ⟨report, settings, root, sent, found, loaded, ran⟩ stopped

end CheckArguments

theorem run_of_check {args : List String} {arguments : CheckArguments} {quiet : Bool}
    (asked : Request.parse programName args = .check arguments quiet) (world : Surroundings) :
    run args world = arguments.execute quiet world := by
  rw [run, asked]

/-- The exit code of a check is 3 or 0 if all its steps succeed, as there are issues or not and
however its rules have ended.  Otherwise it is 2 if the settings or the arguments are to blame for
the first step that fails, and 1 if they are not. -/
theorem run_exit_of_check {args : List String} {arguments : CheckArguments} {quiet : Bool}
    (asked : Request.parse programName args = .check arguments quiet) (world : Surroundings) :
    ((run args world).exit = 3 ↔ ∃ report, arguments.Checks world report ∧ report.issues ≠ []) ∧
    ((run args world).exit = 0 ↔ ∃ report, arguments.Checks world report ∧ report.issues = []) ∧
    ((run args world).exit = 2 ↔ arguments.IsToBlame world.tree) ∧
    ((run args world).exit = 1 ↔ (¬ ∃ report, arguments.Checks world report) ∧
      ¬ arguments.IsToBlame world.tree) := by
  rw [run_of_check asked]
  by_cases checked : ∃ report, arguments.Checks world report
  · obtain ⟨report, checks⟩ := checked
    have code := CheckArguments.exit_of_checks checks quiet
    have innocent : ¬ arguments.IsToBlame world.tree := by
      intro blamed
      rw [CheckArguments.exit_of_isToBlame blamed] at code
      split at code <;> cases code
    have only (kind : Report → Prop) :
        (∃ other, arguments.Checks world other ∧ kind other) ↔ kind report :=
      ⟨fun ⟨_, also, holds⟩ => also.unique checks ▸ holds, fun holds => ⟨report, checks, holds⟩⟩
    have succeeds : ∃ report, arguments.Checks world report := ⟨report, checks⟩
    rw [code, only, only]
    by_cases clean : report.issues = [] <;> simp [clean, innocent, succeeds]
  · have nothing (kind : Report → Prop) : ¬ ∃ report, arguments.Checks world report ∧ kind report :=
      fun ⟨report, checks, _⟩ => checked ⟨report, checks⟩
    by_cases blamed : arguments.IsToBlame world.tree
    · rw [CheckArguments.exit_of_isToBlame blamed]
      simp [nothing, blamed]
    · rw [CheckArguments.exit_of_not_isToBlame checked blamed]
      simp [nothing, checked, blamed]

/-- A directory with a route that has no target, and no client of the provider. -/
def Surroundings.oneRoute : Surroundings where
  tree := FileTree.empty.write "main.tf" (.text "resource \"aws_route\" \"a\" \x7b\n\x7d\n")
  home := none
  client := fun _ => .missing

/-- A variable file that is named but missing is blamed, though the route has an issue. -/
theorem run_exit_of_check_oneRoute :
    ∃ arguments,
      Request.parse programName ["check", "--var-file", "prod.tfvars"] = .check arguments false ∧
      let ended := run ["check", "--var-file", "prod.tfvars"] .oneRoute
      (ended.exit = 3 ↔
        ∃ report, arguments.Checks .oneRoute report ∧ report.issues ≠ []) ∧
      (ended.exit = 0 ↔ ∃ report, arguments.Checks .oneRoute report ∧ report.issues = []) ∧
      (ended.exit = 2 ↔ arguments.IsToBlame Surroundings.oneRoute.tree) ∧
      (ended.exit = 1 ↔ (¬ ∃ report, arguments.Checks .oneRoute report) ∧
        ¬ arguments.IsToBlame Surroundings.oneRoute.tree) ∧
      ended.exit = 2 ∧ (run ["check"] .oneRoute).exit = 3 := by
  have asked : Request.parse programName ["check", "--var-file", "prod.tfvars"] =
      .check ⟨".", none, false, [], [], ["prod.tfvars"], none, .none, .text⟩ false := by
    decide +kernel
  have ends : (run ["check", "--var-file", "prod.tfvars"] .oneRoute).exit = 2 ∧
      (run ["check"] .oneRoute).exit = 3 := by decide +kernel
  obtain ⟨issues, clean, blamed, failed⟩ := run_exit_of_check asked .oneRoute
  exact ⟨_, asked, issues, clean, blamed, failed, ends⟩

end Command

end InfraLint
