import InfraLint.Settings
import Mathlib.Data.List.Forall2

/-!
# Severities in the settings

Settings hold severities as text.  A text is known if it is one of three words in letters of either
case (`Severity.IsWord`), and reading it succeeds for just these texts.  The settings can be used
exactly if all severities in them are known, and otherwise the complaint is about the entry with the
least name among those that are not (`Settings.validate_eq_error_iff`).
-/

namespace InfraLint

/-! ## Letters of either case -/

theorem toUpper_val {d : Char} (low : 97 ≤ d.val) (high : d.val ≤ 122) :
    d.toUpper.val = d.val - 32 := by
  have inside : 'a'.val ≤ d.val ∧ d.val ≤ 'z'.val := ⟨low, high⟩
  have shift : 'A'.val - 'a'.val = -32 := by decide
  unfold Char.toUpper
  simp only [dif_pos inside, shift, UInt32.sub_eq_add_neg]

theorem toLower_val (c : Char) :
    c.toLower.val = if 65 ≤ c.val ∧ c.val ≤ 90 then c.val + 32 else c.val := by
  unfold Char.toLower
  split
  · next h => exact (if_pos h).symm
  · next h => exact (if_neg h).symm

/-- Two characters become one small letter: the letter itself and its capital. -/
theorem toLower_eq_iff {c d : Char} (small : d.isLower) :
    c.toLower = d ↔ c = d ∨ c = d.toUpper := by
  obtain ⟨low, high⟩ : 97 ≤ d.val ∧ d.val ≤ 122 := by
    unfold Char.isLower at small
    simpa using small
  rw [← Char.val_inj, ← Char.val_inj, ← Char.val_inj, toLower_val, toUpper_val low high]
  grind

/-- A text spells a word if each of its characters is that of the word or the capital of it. -/
def Spells (text word : String) : Prop :=
  List.Forall₂ (fun c d => c = d ∨ c = d.toUpper) text.toList word.toList

theorem map_toLower_eq_iff {cs ds : List Char} (small : ∀ d ∈ ds, d.isLower) :
    cs.map Char.toLower = ds ↔ List.Forall₂ (fun c d => c = d ∨ c = d.toUpper) cs ds := by
  rw [← List.forall₂_eq_eq_eq, List.forall₂_map_left_iff]
  induction ds generalizing cs with
  | nil => simp
  | cons d rest ih =>
      simp only [List.forall₂_cons_right_iff, toLower_eq_iff (small d List.mem_cons_self),
        ih fun e member => small e (.tail _ member)]

/-! ## Words for severities -/

namespace Severity

/-- Whether a text is a word for a severity. -/
def IsWord (text : String) : Prop :=
  Spells text "error" ∨ Spells text "warning" ∨ Spells text "notice"

/-- Folding a text gives the name of a severity exactly if the text spells it. -/
theorem name_eq_iff (severity : Severity) (text : String) :
    severity.name = String.ofList (text.toList.map Char.toLower) ↔ Spells text severity.name := by
  have small : ∀ d ∈ severity.name.toList, d.isLower := by cases severity <;> simp [name]
  rw [Spells, ← map_toLower_eq_iff small, eq_comm, ← String.toList_inj, String.toList_ofList]

/-- A text is not read exactly if it is no word for a severity. -/
theorem ofText?_eq_none_iff (text : String) : ofText? text = none ↔ ¬ IsWord text := by
  simp only [ofText?, List.find?_eq_none, beq_iff_eq, name_eq_iff]
  simp [all, name, IsWord]

end Severity

/-! ## Severities of single rules -/

/-- The settings of a rule give it a severity that is not known. -/
def RuleSettings.IsUnknown (rule : RuleSettings) (text : String) : Prop :=
  rule.severity = some text ∧ ¬ Severity.IsWord text

/-- The severity of a rule that is not known, if it has one. -/
def RuleSettings.unknown? (rule : RuleSettings) : Option String :=
  rule.severity.filter fun text => (Severity.ofText? text).isNone

theorem RuleSettings.unknown?_eq_some_iff {rule : RuleSettings} {text : String} :
    rule.unknown? = some text ↔ rule.IsUnknown text := by
  simp only [unknown?, Option.filter_eq_some_iff, Option.isNone_iff_eq_none,
    Severity.ofText?_eq_none_iff, IsUnknown]

/-- Only an unknown severity is an error. -/
theorem RuleSettings.level_of_unknown? (rule : RuleSettings) :
    match rule.unknown? with
    | none => ∃ level, rule.level = .ok level
    | some text => rule.level = .error (.unknownSeverity text) := by
  rcases rule with ⟨enabled, _ | text⟩
  · exact ⟨none, rfl⟩
  · cases read : Severity.ofText? text with
    | none => simp [unknown?, level, Option.filter, read]
    | some severity => simp [unknown?, level, Option.filter, read]

/-- An entry is the first by name of which the severity is not known. -/
def RuleTable.IsFirstUnknown (table : RuleTable) (name text : String) : Prop :=
  (∃ rule, (name, rule) ∈ table.entries ∧ rule.IsUnknown text) ∧
    ∀ other rule given, (other, rule) ∈ table.entries → rule.IsUnknown given → name ≤ other

/-- Entries come by name, so the first unknown severity is that of the least name. -/
theorem RuleTable.findSome?_unknown?_eq_some_iff {table : RuleTable} {text : String} :
    table.entries.findSome? (·.2.unknown?) = some text ↔ ∃ name, table.IsFirstUnknown name text := by
  have sorted := table.sorted
  rw [List.findSome?_eq_some_iff]
  constructor
  · rintro ⟨before, ⟨name, rule⟩, after, split, unknown, clear⟩
    rw [split, List.pairwise_append, List.pairwise_cons] at sorted
    refine ⟨name, ⟨rule, by simp [split], RuleSettings.unknown?_eq_some_iff.1 unknown⟩, ?_⟩
    intro other setting given member claimed
    rw [split] at member
    rcases List.mem_append.1 member with early | late
    -- The entries before have known severities, and those after have greater names.
    · have := RuleSettings.unknown?_eq_some_iff.2 claimed
      rw [clear _ early] at this
      cases this
    · rcases List.mem_cons.1 late with same | later
      · cases same
        exact String.le_refl name
      · exact Std.le_of_lt (sorted.2.1.1 _ later)
  · rintro ⟨name, ⟨rule, member, unknown⟩, least⟩
    obtain ⟨before, after, split⟩ := List.append_of_mem member
    refine ⟨before, (name, rule), after, split, RuleSettings.unknown?_eq_some_iff.2 unknown, ?_⟩
    intro entry early
    rw [split, List.pairwise_append] at sorted
    refine Option.eq_none_iff_forall_ne_some.2 fun given claimed => ?_
    have le := least entry.1 entry.2 given (by simp [split, early])
      (RuleSettings.unknown?_eq_some_iff.1 claimed)
    exact le (sorted.2.2 entry early (name, rule) List.mem_cons_self)

namespace Settings

/-- The complaint is about the first severity that is not known. -/
theorem checkLevels_eq (entries : List (String × RuleSettings)) :
    checkLevels entries =
      match entries.findSome? (·.2.unknown?) with
      | none => .ok ()
      | some text => .error (.unknownSeverity text) := by
  induction entries with
  | nil => rfl
  | cons entry rest ih =>
      have first := entry.2.level_of_unknown?
      cases unknown : entry.2.unknown? with
      | none =>
          rw [unknown] at first
          obtain ⟨level, known⟩ := first
          simp only [checkLevels, known, ih, List.findSome?_cons, unknown]
      | some text =>
          rw [unknown] at first
          simp only [checkLevels, first, List.findSome?_cons, unknown]

theorem validate_eq (settings : Settings) (known : List String) :
    settings.validate known =
      match settings.rules.entries.findSome? (·.2.unknown?) with
      | none => .ok (settings.warnings known)
      | some text => .error (.unknownSeverity text) := by
  rw [validate, checkLevels_eq]
  cases settings.rules.entries.findSome? (·.2.unknown?) with
  | none => rfl
  | some text => rfl

/-- Settings are refused exactly if some severity in them is not known, and the complaint is about
the first entry by name with such a severity. -/
theorem validate_eq_error_iff {settings : Settings} {known : List String} {cause : SettingsError} :
    settings.validate known = .error cause ↔
      ∃ name text, settings.rules.IsFirstUnknown name text ∧ cause = .unknownSeverity text := by
  rw [validate_eq]
  constructor
  · intro refused
    cases first : settings.rules.entries.findSome? (·.2.unknown?) with
    | none => simp [first] at refused
    | some text =>
        obtain ⟨name, least⟩ := RuleTable.findSome?_unknown?_eq_some_iff.1 first
        simp only [first, Except.error.injEq] at refused
        exact ⟨name, text, least, refused.symm⟩
  · rintro ⟨name, text, least, rfl⟩
    rw [RuleTable.findSome?_unknown?_eq_some_iff.2 ⟨name, least⟩]

/-- Settings in which some severity is not known are refused. -/
theorem exists_validate_eq_error {settings : Settings} (known : List String) {name text : String}
    {rule : RuleSettings} (member : (name, rule) ∈ settings.rules.entries)
    (unknown : rule.IsUnknown text) : ∃ cause, settings.validate known = .error cause := by
  rw [validate_eq]
  cases first : settings.rules.entries.findSome? (·.2.unknown?) with
  | none =>
      have clear := List.findSome?_eq_none_iff.1 first _ member
      rw [RuleSettings.unknown?_eq_some_iff.2 unknown] at clear
      cases clear
  | some text => exact ⟨_, rfl⟩

/-- Under accepted settings every rule has a severity, whatever its name. -/
theorem exists_severityOf_eq_ok {settings : Settings} {known warnings : List String}
    (valid : settings.validate known = .ok warnings) (name : String) :
    ∃ level, settings.severityOf name = .ok level := by
  cases found : settings.rules.get? name with
  | none => exact ⟨none, by rw [severityOf, found]⟩
  | some rule =>
      obtain ⟨before, after, split, -⟩ := List.lookup_eq_some_iff.1 found
      have member : (name, rule) ∈ settings.rules.entries := by simp [split]
      have read := rule.level_of_unknown?
      cases unknown : rule.unknown? with
      | none =>
          rw [unknown] at read
          obtain ⟨level, ok⟩ := read
          exact ⟨level, by simp only [severityOf, found, ok]⟩
      | some text =>
          obtain ⟨cause, refused⟩ := exists_validate_eq_error known member
            (RuleSettings.unknown?_eq_some_iff.1 unknown)
          rw [refused] at valid
          cases valid

end Settings

end InfraLint
