import InfraLint.Proofs.InputNames
import InfraLint.Proofs.RuleEnding
import InfraLint.Rule.Catalogue

/-!
# Readable passwords

A password can be read if every input variable that it references has a default: then its value is
written in the configuration.  The rule on passwords goes by the names that the text of the password
mentions (`RuleRun.detects_passwords`).  Where the text mentions the variables that the expression
references, and no others, this is the same.  In the files of a module this holds of every password
that is written as a variable, as a text that mentions no name, or as a template of such texts and of
variables.

Elsewhere the rule can err.  A password that spells out `var.x` as a text is not reported if the
module declares no such variable (`RuleRun.not_forall_passwords_by_inputs`).
-/

namespace InfraLint

/-! ## Defaults -/

/-- A module declares a variable with a default that is not written as `null`.  It goes by how the
default is written, and not by its value: `(null)` counts as a default. -/
def Module.HasDefault (module : Module) (name : String) : Prop :=
  ∃ file ∈ module.files, ∃ block ∈ file.blocks, block.kind = "variable" ∧
    block.labels[0]? = some name ∧
    ∃ default, block.attribute? "default" = some default ∧ default.token.isNull = false

namespace Password

theorem hasDefault_eq_true_iff {module : Module} {name : String} :
    hasDefault module name = true ↔ module.HasDefault name := by
  simp only [hasDefault, Module.blocksOf, ConfigFile.blocksOf, List.any_eq_true, List.mem_flatMap,
    List.mem_filter, Bool.and_eq_true, beq_iff_eq]
  constructor
  · rintro ⟨block, ⟨file, member, inside, kind⟩, label, given⟩
    split at given
    · next default found =>
      exact ⟨file, member, block, inside, kind, label, default, found, by simpa using given⟩
    · cases given
  · rintro ⟨file, member, block, inside, kind, label, default, found, unwritten⟩
    refine ⟨block, ⟨file, member, inside, kind⟩, label, ?_⟩
    rw [found]
    simpa using unwritten

/-- A password is readable if every name that its text mentions has a default. -/
theorem isReadable_eq_true_iff {module : Module} {token : Token} :
    isReadable module token = true ↔ ∀ name ∈ mentioned token.raw, module.HasDefault name := by
  simp only [isReadable, List.all_eq_true, hasDefault_eq_true_iff]

/-- What is said of a readable password, at its line. -/
def finding (attr : Attribute) : Finding :=
  ⟨"Password for the master DB user is readable. Recommend using environment variables or " ++
    "variable files.", attr.file, attr.line⟩

end Password

/-! ## Findings -/

namespace Rule

variable {rule : Rule}

/-- A rule on passwords judges a block by the names that the text of its password mentions. -/
theorem reports_of_secretPassword (secret : rule.check = .secretPassword) (facts : Facts)
    (module : Module) (state : Snapshot) :
    RuleRun.Reports rule facts module state fun block finding =>
      ∃ attr, block.attribute? rule.attr = some attr ∧ finding = Password.finding attr ∧
        ∀ name ∈ Password.mentioned attr.token.raw, module.HasDefault name := by
  refine .of_blocks fun block => ?_
  simp only [blockFindings, secret, passwordFindings]
  cases given : block.attribute? rule.attr with
  | none => exact ⟨none, rfl, fun finding => by simp⟩
  | some attr =>
      simp only [Option.some_inj, exists_eq_left', ← Password.isReadable_eq_true_iff]
      split
      · next readable =>
        exact ⟨some (Password.finding attr), rfl, fun finding => by simp [readable, eq_comm]⟩
      · next hidden => exact ⟨none, rfl, fun finding => by simp [hidden]⟩

end Rule

/-- The attributes of the resources of a module whose files have been read have been read. -/
theorem Module.isParsed_of_resources {module : Module}
    (parsed : ∀ file ∈ module.files, ∃ source, ConfigFile.parse? file.path source = some file)
    {type name : String} {block : Block} (inside : block ∈ module.resources type)
    {attr : Attribute} (given : block.attribute? name = some attr) : attr.IsParsed := by
  obtain ⟨file, member, inside⟩ := List.mem_flatMap.1 inside
  obtain ⟨source, read⟩ := parsed file member
  exact ⟨file.path, source, file, read,
    .inside (List.mem_filter.1 inside).1 (.key (List.mem_of_find?_eq_some given))⟩

namespace RuleRun

/-- A prepared run of a rule on passwords reports a password, once and at its line, if every name
that its text mentions has a default.  So it judges the passwords by the variables that they
reference if the text of each of them mentions these and no others.  The text does so if the files of
the module have been read and the password is plain. -/
theorem detects_passwords {rule : Rule} (secret : rule.check = .secretPassword) (facts : Facts)
    (module : Module) (state : Snapshot) :
    Reports rule facts module state (fun block finding =>
      ∃ attr, block.attribute? rule.attr = some attr ∧ finding = Password.finding attr ∧
        ∃ names, Password.Mentions none attr.token.raw.toList names ∧
          ∀ name ∈ names, module.HasDefault name) ∧
    ((∀ block ∈ module.resources rule.resourceType, ∀ attr,
        block.attribute? rule.attr = some attr → attr.token.MentionsInputs) →
      Reports rule facts module state fun block finding =>
        ∃ attr, block.attribute? rule.attr = some attr ∧ finding = Password.finding attr ∧
          ∀ name ∈ attr.token.inputs, module.HasDefault name) ∧
    ((∀ file ∈ module.files, ∃ source, ConfigFile.parse? file.path source = some file) →
      ∀ block ∈ module.resources rule.resourceType, ∀ attr,
        block.attribute? rule.attr = some attr → attr.IsPlain → attr.token.MentionsInputs) := by
  have judged := Rule.reports_of_secretPassword secret facts module state
  refine ⟨?_, fun agree => ?_, fun parsed block inside attr given plain => ?_⟩
  · refine judged.congr fun block _ finding => exists_congr fun attr => ?_
    simp only [← Password.mentioned_eq_iff, exists_eq_left']
  · refine judged.congr fun block inside finding => exists_congr fun attr => ?_
    refine and_congr_right fun given => and_congr_right fun _ => ?_
    exact forall_congr' fun name => imp_congr_left (agree block inside attr given name)
  · exact (Module.isParsed_of_resources parsed inside given).mentionsInputs plain

end RuleRun

/-- The rule on passwords of database instances. -/
def Rule.readablePassword : Rule :=
  ⟨"aws_db_instance_readable_password", "aws_db_instance", "password", .warning, true,
    .secretPassword⟩

/-- Two passwords made of variables, one of which has a default: both variables in a template, and
this one alone. -/
def Module.databases : Module :=
  let files := (ConfigFile.parse? "main.tf" (
    "variable \"app\" \x7b\n  default = \"shop\"\n\x7d\n" ++
    "resource \"aws_db_instance\" \"a\" \x7b\n" ++
    "  password = \"$\x7bvar.app\x7d-$\x7bvar.key\x7d\"\n\x7d\n" ++
    "resource \"aws_db_instance\" \"b\" \x7b\n  password = var.app\n\x7d\n")).toList
  .ofFiles "" files .empty

theorem Module.databases_shown :
    ((Module.databases.resources "aws_db_instance").filterMap
      (·.attribute? "password")).map (·.token.raw) =
        ["\"$\x7bvar.app\x7d-$\x7bvar.key\x7d\"", "var.app"] ∧
      (Rule.readablePassword.findings .none .databases .empty).map (·.line) = [8] := by
  decide +kernel

/-- Both passwords are plain. -/
theorem Module.isPlain_of_databases {block : Block}
    (inside : block ∈ Module.databases.resources "aws_db_instance") {attr : Attribute}
    (given : block.attribute? "password" = some attr) : attr.IsPlain := by
  have raw : attr.token.raw ∈ ((Module.databases.resources "aws_db_instance").filterMap
      (·.attribute? "password")).map (·.token.raw) :=
    List.mem_map.2 ⟨attr, List.mem_filterMap.2 ⟨block, inside, given⟩, rfl⟩
  let app : VariableName := ⟨'a', "pp".toList, by decide, List.all_eq_true.1 (by decide)⟩
  let key : VariableName := ⟨'k', "ey".toList, by decide, List.all_eq_true.1 (by decide)⟩
  let empty : PlainText := ⟨[], List.forall_mem_nil _⟩
  let dash : PlainText := ⟨"-".toList, List.all_eq_true.1 (by decide)⟩
  simp only [databases_shown.1, List.mem_cons, List.not_mem_nil, or_false] at raw
  rcases raw with raw | raw
  · exact .quoted (.insert empty app (.insert dash key (.ending empty))) raw (by decide +kernel)
  · exact .single app raw

/-- The variable without a default keeps the first password from being reported. -/
theorem RuleRun.detects_passwords_databases :
    Rule.readablePassword ∈ Rule.catalogue ∧ Rule.readablePassword.check = .secretPassword ∧
      Reports .readablePassword .none .databases .empty (fun block finding =>
        ∃ attr, block.attribute? "password" = some attr ∧ finding = Password.finding attr ∧
          ∀ name ∈ attr.token.inputs, Module.databases.HasDefault name) ∧
      (Rule.readablePassword.findings .none .databases .empty).map (·.line) = [8] := by
  have parsed : ∀ file ∈ Module.databases.files,
      ∃ source, ConfigFile.parse? file.path source = some file := by
    intro file inside
    simp only [Module.databases, Module.ofFiles] at inside
    exact ConfigFile.exists_source_of_mem inside
  obtain ⟨-, byInputs, agree⟩ := detects_passwords (show Rule.readablePassword.check = _ from rfl)
    .none .databases .empty
  refine ⟨by decide +kernel, rfl, byInputs fun block inside attr given => ?_,
    Module.databases_shown.2⟩
  exact agree parsed block inside attr given (Module.isPlain_of_databases inside given)

/-- A password that spells out the name of a variable. -/
def Module.spelled : Module :=
  .ofFiles "" (ConfigFile.parse? "main.tf"
    "resource \"aws_db_instance\" \"db\" \x7b\n  password = \"var.x\"\n\x7d\n").toList .empty

/-- A text that spells out the name of a variable is no reference, but it keeps the password from
being reported.  So the rule does not judge every password by the variables that it references. -/
theorem RuleRun.not_forall_passwords_by_inputs :
    ¬ ∀ (rule : Rule) (facts : Facts) (module : Module) (state : Snapshot),
      rule ∈ Rule.catalogue → rule.check = .secretPassword →
      (∀ file ∈ module.files, ∃ source, ConfigFile.parse? file.path source = some file) →
      Reports rule facts module state fun block finding =>
        ∃ attr, block.attribute? rule.attr = some attr ∧ finding = Password.finding attr ∧
          ∀ name ∈ attr.token.inputs, module.HasDefault name := by
  intro always
  have parsed : ∀ file ∈ Module.spelled.files,
      ∃ source, ConfigFile.parse? file.path source = some file := by
    intro file inside
    simp only [Module.spelled, Module.ofFiles] at inside
    exact ConfigFile.exists_source_of_mem inside
  have shown : ((Module.spelled.resources "aws_db_instance").filterMap
      (·.attribute? "password")).map (·.token.inputs) = [[]] ∧
      (Rule.readablePassword.findings .none .spelled .empty).length = 0 := by
    decide +kernel
  obtain ⟨inputs, silent⟩ := shown
  have byInputs := always .readablePassword .none .spelled .empty (by decide +kernel) rfl parsed
  obtain ⟨attr, rest, passwords, none, -⟩ := List.map_eq_cons_iff.1 inputs
  obtain ⟨block, inside, given⟩ := List.mem_filterMap.1 (passwords ▸ List.mem_cons_self)
  have reported := byInputs.mem_findings_iff.2 ⟨block, inside, attr, given, rfl, by simp [none]⟩
  rw [List.length_eq_zero_iff.1 silent] at reported
  cases reported

end InfraLint
