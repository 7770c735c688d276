import InfraLint.Proofs.ExitCodes

/-!
# Which settings a command accepts

The entries of single rules can hold a severity that is not known.  A check refuses settings with
such an entry, whatever name it is under, since all entries are gone through before the rules are
run.  The listing of the rules goes through the rules that there are and looks up the severity of
each.  It refuses settings with such an entry under the name of a rule, and never reads an entry
under another name.

So whatever the listing refuses a check refuses too, and the two differ over an entry for a rule that
does not exist (`Command.commands_refuse`, `Command.not_forall_commands_agree`).
-/

namespace InfraLint

/-! ## Severities that cannot be looked up -/

theorem RuleTable.get?_eq_some_iff {table : RuleTable} {name : String} {rule : RuleSettings} :
    table.get? name = some rule ↔ (name, rule) ∈ table.entries := by
  have distinct : (table.entries.map (·.1)).Nodup :=
    List.pairwise_map.2 (table.sorted.imp Std.ne_of_lt)
  exact (Assoc.mem_iff_lookup distinct).symm

namespace Settings

variable {settings : Settings} {name : String}

/-- The severity of a rule cannot be looked up exactly if its entry has one that is not known. -/
theorem severityOf_eq_error_iff {cause : SettingsError} :
    settings.severityOf name = .error cause ↔ ∃ rule text,
      (name, rule) ∈ settings.rules.entries ∧ rule.IsUnknown text ∧
        cause = .unknownSeverity text := by
  simp only [severityOf, ← RuleTable.get?_eq_some_iff, ← RuleSettings.unknown?_eq_some_iff]
  cases found : settings.rules.get? name with
  | none => simp
  | some rule =>
      have level := rule.level_of_unknown?
      cases unknown : rule.unknown? with
      | none =>
          rw [unknown] at level
          obtain ⟨known, level⟩ := level
          simp [level, unknown]
      | some text =>
          rw [unknown] at level
          simp [level, unknown, eq_comm]

theorem severityOf_fails_iff :
    (∃ cause, settings.severityOf name = .error cause) ↔ settings.IsUnknownFor name := by
  simp only [severityOf_eq_error_iff]
  constructor
  · rintro ⟨cause, rule, text, member, unknown, -⟩
    exact ⟨rule, text, member, unknown⟩
  · rintro ⟨rule, text, member, unknown⟩
    exact ⟨_, rule, text, member, unknown, rfl⟩

end Settings

namespace Command

variable {registry : Registry} {settings : Settings} {world : Surroundings}

/-! ## The listing -/

theorem RuleRow.ofRule_eq_error_iff {rule : Rule} {cause : SettingsError} :
    RuleRow.ofRule settings rule = .error cause ↔
      settings.severityOf rule.name = .error cause := by
  rw [ofRule]
  cases settings.severityOf rule.name with
  | error other => rw [error_bind, Except.error.injEq, Except.error.injEq]
  | ok level => simp [pure, Except.pure]

/-- The rules cannot be listed exactly if the entry of one of them has a severity that is not
known. -/
theorem ruleRows_fails_iff :
    (∃ cause, ruleRows registry settings = .error cause) ↔
      ∃ name ∈ registry.names, settings.IsUnknownFor name := by
  rw [ruleRows, mapM_fails_iff, Registry.names]
  simp only [RuleRow.ofRule_eq_error_iff, Settings.severityOf_fails_iff, List.mem_map,
    exists_exists_and_eq_and]

theorem raises_ruleRows :
    Raises (ruleRows registry settings) fun cause => ∃ text, cause = .unknownSeverity text := by
  refine .mapM fun rule _ cause failed => ?_
  rw [RuleRow.ofRule_eq_error_iff, Settings.severityOf_eq_error_iff] at failed
  obtain ⟨-, text, -, -, same⟩ := failed
  exact ⟨text, same⟩

/-- Under settings that are found the listing ends with 2 if it cannot be made, and with 0 if it
can. -/
theorem RulesArguments.exit_of_discover {arguments : RulesArguments}
    (found : Settings.discover world.tree arguments.config "." = .ok settings) :
    (arguments.execute world).exit = 2 ∧ (∃ cause, ruleRows .default settings = .error cause) ∨
      (arguments.execute world).exit = 0 ∧
        ¬ ∃ cause, ruleRows .default settings = .error cause := by
  rw [execute, found]
  cases listed : ruleRows .default settings with
  | ok rows => simp [listed]
  | error cause =>
      obtain ⟨text, rfl⟩ := raises_ruleRows cause listed
      exact .inl ⟨by simp only [listed]; rfl, _, rfl⟩

/-! ## Checks -/

theorem CheckArguments.rules_of_settings {arguments : CheckArguments} {tree : FileTree}
    {adjusted : Settings}
    (found : Settings.discover tree arguments.config arguments.dir = .ok settings)
    (adjusts : arguments.settings tree = .ok adjusted) : adjusted.rules = settings.rules := by
  rw [CheckArguments.settings, found] at adjusts
  cases adjusts
  rfl

/-- A check that has loaded its modules ends with 2 exactly if some severity is not known. -/
theorem CheckArguments.exit_eq_two_iff {arguments : CheckArguments} {root : Module}
    (found : arguments.settings world.tree = .ok settings)
    (loaded : Module.load world.tree settings.loadOptions arguments.dir = .ok root) (quiet : Bool) :
    (arguments.execute quiet world).exit = 2 ↔ settings.HasUnknown := by
  constructor
  · intro code
    by_contra known
    obtain ⟨report, sent, ran⟩ :=
      (arguments.lint world settings root).exists_run_of_not_hasUnknown known root []
    rw [exit_of_checks ⟨settings, root, sent, found, loaded, ran⟩] at code
    split at code <;> cases code
  · exact fun unknown => exit_of_isToBlame (.severity found loaded unknown) quiet

/-! ## Both commands -/

/-- Listing the rules fails exactly if the entry of a rule that there is has a severity that is not
known, and validating the settings exactly if any entry has one.  The commands end with 2
accordingly: the listing once it has found its settings, a check once it has loaded its modules
too. -/
theorem commands_refuse (settings : Settings) :
    ((∃ cause, ruleRows .default settings = .error cause) ↔
      ∃ name ∈ Registry.default.names, settings.IsUnknownFor name) ∧
    ((∃ cause, settings.validate Registry.default.names = .error cause) ↔
      ∃ name, settings.IsUnknownFor name) ∧
    (∀ args arguments world, Request.parse programName args = .rules arguments →
      Settings.discover world.tree arguments.config "." = .ok settings →
      ((run args world).exit = 2 ↔ ∃ name ∈ Registry.default.names, settings.IsUnknownFor name) ∧
      ((run args world).exit = 0 ↔
        ¬ ∃ name ∈ Registry.default.names, settings.IsUnknownFor name)) ∧
    ∀ args arguments quiet world adjusted root,
      Request.parse programName args = .check arguments quiet →
      Settings.discover world.tree arguments.config arguments.dir = .ok settings →
      arguments.settings world.tree = .ok adjusted →
      Module.load world.tree adjusted.loadOptions arguments.dir = .ok root →
      ((run args world).exit = 2 ↔ ∃ name, settings.IsUnknownFor name) := by
  refine ⟨ruleRows_fails_iff, Settings.validate_fails_iff, ?_, ?_⟩
  · intro args arguments world asked found
    have executed : run args world = arguments.execute world := by rw [run, asked]
    rw [executed, ← ruleRows_fails_iff]
    rcases RulesArguments.exit_of_discover found with ⟨code, failed⟩ | ⟨code, listed⟩
    · simp [code, failed]
    · simp [code, listed]
  · intro args arguments quiet world adjusted root asked found adjusts loaded
    rw [run_of_check asked, CheckArguments.exit_eq_two_iff adjusts loaded, Settings.HasUnknown]
    simp only [Settings.IsUnknownFor, CheckArguments.rules_of_settings found adjusts]

/-- Settings with a severity that is not known, for a rule that does not exist. -/
def straySettings : Settings :=
  { Settings.default with
    rules := ⟨[("unknown_rule", ⟨none, some "bad"⟩)], List.pairwise_singleton _ _⟩ }

/-- A directory with nothing but a file of these settings, and no client of the provider. -/
def Surroundings.stray : Surroundings where
  tree := FileTree.empty.write ".tfsift.yml"
    (.text "rules: \x7bunknown_rule: \x7bseverity: bad\x7d\x7d\n")
  home := none
  client := fun _ => .missing

theorem isUnknownFor_straySettings : straySettings.IsUnknownFor "unknown_rule" :=
  ⟨⟨none, some "bad"⟩, "bad", List.mem_cons_self,
    RuleSettings.unknown?_eq_some_iff.1 (by decide +kernel)⟩

/-- No rule has the name of the entry. -/
theorem not_isUnknownFor_straySettings :
    ¬ ∃ name ∈ Registry.default.names, straySettings.IsUnknownFor name := by
  rintro ⟨name, registered, rule, text, member, -⟩
  have unregistered : "unknown_rule" ∉ Registry.default.names := by decide +kernel
  cases List.mem_singleton.1 member
  exact unregistered registered

/-- With the same file the rules are listed and the check refuses the settings. -/
theorem commands_refuse_stray :
    ((run ["rules"] .stray).exit = 2 ↔
      ∃ name ∈ Registry.default.names, straySettings.IsUnknownFor name) ∧
    ((run ["check"] .stray).exit = 2 ↔ ∃ name, straySettings.IsUnknownFor name) ∧
    (run ["rules"] .stray).exit = 0 ∧ (run ["check"] .stray).exit = 2 := by
  have asked : Request.parse programName ["rules"] = .rules ⟨none, .text⟩ := by decide +kernel
  have asked' : Request.parse programName ["check"] =
      .check ⟨".", none, false, [], [], [], none, .none, .text⟩ false := by decide +kernel
  have found : Settings.discover Surroundings.stray.tree none "." = .ok straySettings := by
    decide +kernel
  have adjusts : CheckArguments.settings ⟨".", none, false, [], [], [], none, .none, .text⟩
      Surroundings.stray.tree = .ok straySettings := by
    rw [CheckArguments.settings, found]
    rfl
  have loads : (Module.load Surroundings.stray.tree straySettings.loadOptions ".").isOk = true := by
    decide +kernel
  obtain ⟨-, -, listing, checking⟩ := commands_refuse straySettings
  have listed := listing ["rules"] _ .stray asked found
  cases loaded : Module.load Surroundings.stray.tree straySettings.loadOptions "." with
  | error cause =>
      rw [loaded] at loads
      cases loads
  | ok root =>
      have checked := checking ["check"] _ false .stray _ root asked' found adjusts loaded
      exact ⟨listed.1, checked, listed.2.2 not_isUnknownFor_straySettings,
        checked.2 ⟨_, isUnknownFor_straySettings⟩⟩

/-- The commands do not refuse the same settings. -/
theorem not_forall_commands_agree :
    ¬ ∀ settings : Settings, (∃ cause, ruleRows .default settings = .error cause) ↔
      ∃ cause, settings.validate Registry.default.names = .error cause := by
  intro agree
  have refused : ∃ cause, straySettings.validate Registry.default.names = .error cause :=
    Settings.validate_fails_iff.2 ⟨"unknown_rule", isUnknownFor_straySettings⟩
  exact not_isUnknownFor_straySettings (ruleRows_fails_iff.1 ((agree straySettings).2 refused))

end Command

end InfraLint
