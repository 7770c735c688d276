import InfraLint.Module.Scope
import InfraLint.Proofs.Reading
import Mathlib.Data.List.Induction
import Mathlib.Data.List.Nodup

/-!
# What variables are bound to

Variables get their values from settings, one after the other: `Scope.bindAll` overrides what was
bound before, and a setting that cannot be evaluated binds nothing.  So a variable has the value of
the last setting of its name that can be evaluated (`Scope.LastValue`, `Scope.lookup_bindAll`).

A call has at most one argument of each name, since a body with two attributes of one name cannot be
read (`ConfigFile.namesOnce_of_parse?`).  What a call passes under a name is therefore the value of
the attribute of that name (`Scope.lookup_callArguments`).
-/

namespace InfraLint

/-! ## Bodies name each attribute once -/

/-- No two attributes of a block have the same name. -/
def Block.NamesOnce (block : Block) : Prop := (block.attributes.map (·.name)).Nodup

/-- No two attributes of a body have the same name, and none of a block in it. -/
structure Body.NamesOnce (body : Body) : Prop where
  attributes : (body.attributes.map (·.name)).Nodup
  blocks : ∀ block ∈ body.blocks, block.NamesOnce

/-- Entries make a body only if their names are distinct. -/
theorem Body.nodup_of_items {items : List BodyItem} {body : Body}
    (made : Body.ofItems? items = some body) : (body.attributes.map (·.name)).Nodup := by
  induction items generalizing body with
  | nil =>
      cases made
      exact List.nodup_nil
  | cons item rest ih =>
      cases item with
      | setting a =>
          obtain ⟨others, made', made⟩ := Option.bind_eq_some_iff.1 made
          split at made
          · cases made
          · next fresh =>
            cases made
            refine List.nodup_cons.2 ⟨fun again => fresh ?_, ih made'⟩
            obtain ⟨other, member, same⟩ := List.mem_map.1 again
            exact List.any_eq_true.2 ⟨other, member, beq_iff_eq.2 same⟩
      | block b =>
          obtain ⟨others, made', made⟩ := Option.bind_eq_some_iff.1 made
          have inner := ih made'
          cases made
          exact inner

theorem Body.NamesOnce.of_items {items : List BodyItem} {body : Body}
    (each : ∀ block, .block block ∈ items → block.NamesOnce)
    (made : Body.ofItems? items = some body) : body.NamesOnce where
  attributes := Body.nodup_of_items made
  blocks block member := each block ((Body.mem_of_ofItems? made).2 block member)

namespace Reader

variable {origin : Origin} {c d : Cursor}

/-- Every body that is read names its attributes once. -/
def NamesOnce (body : Reader Body) : Prop :=
  ∀ ⦃c inner d⦄, body c = some (inner, d) → inner.NamesOnce

theorem namesOnce_blockBody {body : Reader Body} (inner : NamesOnce body) {found : Body}
    (ran : blockBody origin body c = some (found, d)) :
    (found.attributes.map (·.name)).Nodup := by
  rcases blockBody_eq_some ran with ⟨m, m', -, read, -⟩ | ⟨given, m, m', rfl, -⟩
  · exact (inner read).attributes
  · -- a body on one line has at most one attribute
    cases given with
    | none => exact List.nodup_nil
    | some attr => exact List.nodup_singleton _

theorem namesOnce_bodyItem {body : Reader Body} (inner : NamesOnce body) {block : Block}
    (ran : bodyItem origin body c = some (.block block, d)) : block.NamesOnce := by
  rcases bodyItem_eq_some ran with ⟨attr, ⟨⟩, -⟩ |
    ⟨kind, labels, held, m, m', ⟨⟩, -, -, braces⟩
  exact namesOnce_blockBody inner braces

theorem namesOnce_bodyItems {body : Reader Body} (inner : NamesOnce body) {fuel : Nat}
    {items : List BodyItem} (ran : bodyItems origin body fuel c = some (items, d)) :
    ∀ block, .block block ∈ items → block.NamesOnce := by
  induction fuel generalizing c items with
  | zero =>
      cases ran
      exact fun block member => by cases member
  | succ fuel ih =>
      rcases bodyItems_eq_some ran with ⟨rfl, rfl⟩ | ⟨item, rest, m, m', rfl, first, -, others⟩
      · exact fun block member => by cases member
      · intro block member
        rcases List.mem_cons.1 member with rfl | member
        · exact namesOnce_bodyItem inner first
        · exact ih others block member

theorem namesOnce_bodyTo (depth : Nat) : NamesOnce (bodyTo origin depth) := by
  induction depth with
  | zero => rintro c inner d ⟨⟩
  | succ depth ih =>
      intro c inner d ran
      obtain ⟨items, fuel, m, -, read, made⟩ := bodyTo_eq_some ran
      exact .of_items (namesOnce_bodyItems ih read) made

end Reader

/-- The blocks of a file that has been read name each of their attributes once. -/
theorem ConfigFile.namesOnce_of_parse? {path source : String} {file : ConfigFile}
    (read : parse? path source = some file) : ∀ block ∈ file.blocks, block.NamesOnce := by
  obtain ⟨⟨body, last⟩, ran, made⟩ := Option.bind_eq_some_iff.1 read
  cases made
  rw [Reader.wholeBody, seqLeft_eq_bind] at ran
  obtain ⟨found, m, whole, ran⟩ := Reader.bind_eq_some_iff.1 ran
  obtain ⟨_, m', -, ran⟩ := Reader.bind_eq_some_iff.1 ran
  cases ran
  exact (Reader.namesOnce_bodyTo _ whole).blocks

theorem Block.name_of_attribute? {block : Block} {name : String} {attr : Attribute}
    (found : block.attribute? name = some attr) : attr ∈ block.attributes ∧ attr.name = name := by
  rw [attribute?] at found
  have same := List.find?_some found
  exact ⟨List.mem_of_find?_eq_some found, eq_of_beq same⟩

/-- Names that occur once tell the attributes apart. -/
theorem Block.NamesOnce.attribute?_name {block : Block} (once : block.NamesOnce) {attr : Attribute}
    (member : attr ∈ block.attributes) : block.attribute? attr.name = some attr := by
  cases found : block.attribute? attr.name with
  | none =>
      have absent := List.find?_eq_none.1 found attr member
      exact absurd (beq_self_eq_true _) absent
  | some other =>
      obtain ⟨there, same⟩ := Block.name_of_attribute? found
      rw [List.inj_on_of_nodup_map once there member same]

/-! ## The last value of a name -/

namespace Scope

/-- The value of a token in a scope, if it can be evaluated. -/
def value? (scope : Scope) (token : Token) : Option Value :=
  token.expression?.bind fun e => (scope.evaluate e).toOption

/-- What settings give a name in a scope: the value of the last one of that name that can be
evaluated, or nothing if none of them can. -/
inductive LastValue (scope : Scope) (settings : List (String × Token)) (name : String) :
    Option Value → Prop where
  | bound {before after : List (String × Token)} {token : Token} {value : Value} :
      settings = before ++ (name, token) :: after →
      scope.value? token = some value →
      (∀ later, (name, later) ∈ after → scope.value? later = none) →
      LastValue scope settings name (some value)
  | unbound :
      (∀ token, (name, token) ∈ settings → scope.value? token = none) →
      LastValue scope settings name none

variable {scope : Scope}

theorem evaluable_append (first second : List (String × Token)) :
    scope.evaluable (first ++ second) = scope.evaluable first ++ scope.evaluable second :=
  List.filterMap_append

theorem evaluable_singleton (name : String) (token : Token) :
    scope.evaluable [(name, token)] = ((scope.value? token).map (name, ·)).toList := by
  simp only [evaluable, value?, List.filterMap_cons, List.filterMap_nil]
  cases token.expression? with
  | none => rfl
  | some e =>
      cases scope.evaluate e with
      | error cause => rfl
      | ok value => rfl

/-- Looking from the end finds the last value of a name. -/
theorem lastValue_evaluable (scope : Scope) (settings : List (String × Token)) (name : String) :
    scope.LastValue settings name ((scope.evaluable settings).reverse.lookup name) := by
  induction settings using List.reverseRecOn with
  | nil => exact .unbound fun token member => by cases member
  | append_singleton settings setting ih =>
      obtain ⟨other, token⟩ := setting
      rw [evaluable_append, evaluable_singleton, List.reverse_append]
      -- A setting in the last place that gives the name nothing leaves what the others gave it.
      have kept (idle : other = name → scope.value? token = none) :
          scope.LastValue (settings ++ [(other, token)]) name
            ((scope.evaluable settings).reverse.lookup name) := by
        generalize (scope.evaluable settings).reverse.lookup name = result at ih
        cases ih with
        | @bound before after found value split evaluates last =>
            have split' : settings ++ [(other, token)] =
                before ++ (name, found) :: (after ++ [(other, token)]) := by
              rw [split, List.append_assoc, List.cons_append]
            refine .bound split' evaluates fun later member => ?_
            rcases List.mem_append.1 member with member | member
            · exact last later member
            · cases List.mem_singleton.1 member
              exact idle rfl
        | unbound none =>
            refine .unbound fun found member => ?_
            rcases List.mem_append.1 member with member | member
            · exact none found member
            · cases List.mem_singleton.1 member
              exact idle rfl
      cases evaluates : scope.value? token with
      | none => exact kept fun _ => evaluates
      | some value =>
          by_cases same : name = other
          · subst same
            simp only [Option.map_some, Option.toList_some, List.reverse_singleton,
              List.singleton_append, List.lookup_cons, beq_self_eq_true]
            exact .bound rfl evaluates fun later member => by cases member
          · have apart : (name == other) = false := beq_false_of_ne same
            simp only [Option.map_some, Option.toList_some, List.reverse_singleton,
              List.singleton_append, List.lookup_cons, apart]
            exact kept fun again => absurd again.symm same

/-! ## Bindings one after the other -/

/-- A variable is bound to the last value given for it, or else to what it was bound to before. -/
theorem lookup_bindAll (inputs bindings : List (String × Value)) (name : String) :
    (bindAll inputs bindings).lookup name =
      (bindings.reverse.lookup name).or (inputs.lookup name) := by
  induction bindings generalizing inputs with
  | nil => rfl
  | cons binding rest ih =>
      obtain ⟨other, value⟩ := binding
      rw [bindAll, List.foldl_cons, ← bindAll, ih, List.reverse_cons, List.lookup_append,
        Option.or_assoc]
      by_cases same : name = other
      · subst same
        rw [Assoc.lookup_insert_self, List.lookup_cons_self, Option.some_or]
      · have apart : (name == other) = false := beq_false_of_ne same
        simp only [Assoc.lookup_insert_of_ne same, List.lookup_cons, apart, List.lookup_nil,
          Option.none_or]

/-- The settings by which files declare defaults, in file then source order. -/
def defaults (files : List ConfigFile) : List (String × Token) :=
  (files.flatMap (·.blocksOf "variable")).filterMap declaredDefault?

theorem lookup_variableDefaults (files : List ConfigFile) (name : String) :
    empty.LastValue (defaults files) name ((variableDefaults files).lookup name) := by
  rw [variableDefaults, lookup_bindAll, List.lookup_nil, Option.or_none]
  exact lastValue_evaluable empty (defaults files) name

/-- The settings of a file, in source order. -/
def settingsOf (file : ConfigFile) : List (String × Token) :=
  file.attributes.map fun attr => (attr.name, attr.token)

theorem flatMap_fileSettings (files : List ConfigFile) :
    files.flatMap fileSettings = empty.evaluable (files.flatMap settingsOf) := by
  induction files with
  | nil => rfl
  | cons file rest ih =>
      rw [List.flatMap_cons, List.flatMap_cons, evaluable_append, ih]
      rfl

/-- Variable files override the defaults, and one another in order. -/
theorem lookup_bindAll_files (files variableFiles : List ConfigFile) (name : String) :
    empty.LastValue (defaults files ++ variableFiles.flatMap settingsOf) name
      ((bindAll (variableDefaults files) (variableFiles.flatMap fileSettings)).lookup name) := by
  have joined : bindAll (variableDefaults files) (variableFiles.flatMap fileSettings) =
      bindAll [] (empty.evaluable (defaults files ++ variableFiles.flatMap settingsOf)) := by
    rw [flatMap_fileSettings, evaluable_append, bindAll, bindAll, List.foldl_append]
    rfl
  rw [joined, lookup_bindAll, List.lookup_nil, Option.or_none]
  exact lastValue_evaluable empty _ name

/-! ## Arguments -/

/-- What a call passes under a name: the value of its attribute of that name where the call stands,
unless the name is one of those that are no input variables. -/
def argument? (scope : Scope) (call : Block) (name : String) : Option Value :=
  if name ∈ metaArguments then none
  else (call.attribute? name).bind fun attr => scope.value? attr.token

theorem lookup_callArguments (scope : Scope) {call : Block} (once : call.NamesOnce)
    (name : String) :
    (scope.callArguments call).reverse.lookup name = scope.argument? call name := by
  have last := scope.lastValue_evaluable ((call.attributes.filter fun attr =>
    !metaArguments.contains attr.name).map fun attr => (attr.name, attr.token)) name
  rw [← callArguments] at last
  generalize (scope.callArguments call).reverse.lookup name = result at last
  -- There is one attribute of the name at most, so the last one is the only one.
  cases last with
  | @bound before after token value split evaluates _ =>
      have member : (name, token) ∈ before ++ (name, token) :: after :=
        List.mem_append_right _ List.mem_cons_self
      rw [← split] at member
      obtain ⟨attr, kept, same⟩ := List.mem_map.1 member
      obtain ⟨given, input⟩ := List.mem_filter.1 kept
      cases same
      have plain : attr.name ∉ metaArguments := by simpa using input
      rw [argument?, if_neg plain, once.attribute?_name given, Option.bind_some, evaluates]
  | unbound idle =>
      rw [argument?]
      split
      · rfl
      · next plain =>
        cases found : call.attribute? name with
        | none => rfl
        | some attr =>
            obtain ⟨given, rfl⟩ := Block.name_of_attribute? found
            have input : (!metaArguments.contains attr.name) = true := by simpa using plain
            exact (idle attr.token (List.mem_map_of_mem (List.mem_filter.2 ⟨given, input⟩))).symm

/-! ## Locals -/

/-- Locals leave the variables as they are. -/
theorem inputs_localsPass (scope : Scope) (pending : List Local) :
    (localsPass scope pending).1.inputs = scope.inputs := by
  induction pending generalizing scope with
  | nil => rfl
  | cons declared rest ih =>
      obtain ⟨name, e⟩ := declared
      rw [localsPass]
      cases scope.evaluate e with
      | ok value => exact ih _
      | error cause => exact ih scope

theorem inputs_localsPasses (bound : Nat) (scope : Scope) (pending : List Local) :
    (localsPasses bound scope pending).inputs = scope.inputs := by
  induction bound generalizing scope pending with
  | zero => rfl
  | succ bound ih =>
      simp only [localsPasses]
      split
      · exact inputs_localsPass scope pending
      · rw [ih, inputs_localsPass]

@[simp] theorem inputs_ofInputs (inputs : List (String × Value)) (files : List ConfigFile) :
    (ofInputs inputs files).inputs = inputs :=
  inputs_localsPasses _ _ _

end Scope

end InfraLint
