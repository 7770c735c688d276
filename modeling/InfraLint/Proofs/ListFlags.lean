import InfraLint.Proofs.FirstOccurrences
import InfraLint.Proofs.Records
import InfraLint.Proofs.ValueTexts
import InfraLint.Settings

/-!
# Lists given by flags

A flag gives a comma-separated list, and settings take over the items that they do not have yet.
`Settings.Lists` says what the items of a text are: the parts between its commas without the blanks
around them, as far as something is left.

One item is added at a time, to a list that grows with each.  What is added is `EachOnce` of what the
flags list and the settings lack (`Settings.addLists_eq_append`).  Since only the items count and
their order, it makes no difference how they are spread over flags (`Settings.addLists_extends`).
-/

namespace InfraLint

/-! ## Texts without the blanks at their ends -/

namespace Text

/-- A text is another one with blanks around it.  No blank stands at an end of the other one. -/
inductive Trims : List Char → List Char → Prop where
  | intro {lead core tail : List Char} :
      (∀ c ∈ lead, isBlank c = true) → (∀ c ∈ tail, isBlank c = true) →
      (∀ c ∈ core.head?, isBlank c = false) → (∀ c ∈ core.getLast?, isBlank c = false) →
      Trims (lead ++ core ++ tail) core

variable {cs core : List Char}

theorem dropWhile_isBlank_of_head? (solid : ∀ c ∈ cs.head?, isBlank c = false) :
    cs.dropWhile isBlank = cs := by
  cases cs with
  | nil => rfl
  | cons c rest => rw [List.dropWhile_cons_of_neg (by simp [solid c rfl])]

theorem trims_trimBlank (cs : List Char) : Trims cs (trimBlank cs) := by
  have front (cs : List Char) : ∀ c ∈ (cs.dropWhile isBlank).head?, isBlank c = false := by
    intro c first
    have stops := List.head?_dropWhile_not isBlank cs
    rw [Option.mem_def.1 first] at stops
    simpa using stops
  obtain ⟨blanks, split, blank⟩ := eq_trimRight_append (cs.dropWhile isBlank)
  have whole : cs = cs.takeWhile isBlank ++ trimBlank cs ++ blanks := by
    rw [List.append_assoc, trimBlank, ← split, List.takeWhile_append_dropWhile]
  have solid : ∀ c ∈ (trimBlank cs).head?, isBlank c = false := by
    intro c first
    refine front cs c ?_
    rw [split, List.head?_append, ← trimBlank, Option.mem_def.1 first]
    rfl
  have ends : ∀ c ∈ (trimBlank cs).getLast?, isBlank c = false := by
    rw [trimBlank, trimRight, List.getLast?_reverse]
    exact front _
  have lead : ∀ c ∈ cs.takeWhile isBlank, isBlank c = true := fun c => List.mem_takeWhile_imp
  have made := Trims.intro lead blank solid ends
  rwa [← whole] at made

theorem Trims.trimBlank_eq (trims : Trims cs core) : trimBlank cs = core := by
  obtain @⟨lead, core, tail, before, behind, solid, ends⟩ := trims
  have back : trimRight (core ++ tail) = core := by
    rw [trimRight, List.reverse_append, List.dropWhile_append_of_pos (by simpa using behind),
      dropWhile_isBlank_of_head? (by simpa using ends), List.reverse_reverse]
  rw [trimBlank, List.append_assoc, List.dropWhile_append_of_pos before]
  -- blanks are all there is if nothing is left
  cases core with
  | nil =>
      rw [List.nil_append, List.dropWhile_eq_nil_iff.2 behind]
      rfl
  | cons c rest => rwa [dropWhile_isBlank_of_head? (by simpa using solid)]

end Text

namespace Settings

open Text

/-! ## The items of a list -/

/-- The items of a comma-separated list: its parts without the blanks around them, leaving out those
of which nothing is left. -/
inductive Lists : String → List String → Prop where
  | intro {parts cores : List (List Char)} : parts ≠ [] → (∀ part ∈ parts, ',' ∉ part) →
      List.Forall₂ Trims parts cores →
      Lists (String.ofList ([','].intercalate parts)) ((cores.map String.ofList).filter (!·.isEmpty))

theorem listItems_eq (text : String) :
    listItems text =
      (((splitAt ',' text.toList).map trimBlank).map String.ofList).filter (!·.isEmpty) := by
  simp only [listItems, trim, String.toList_ofList, List.map_map]
  rfl

theorem lists_listItems (text : String) : Lists text (listItems text) := by
  have trims : List.Forall₂ Trims (splitAt ',' text.toList)
      ((splitAt ',' text.toList).map trimBlank) :=
    List.forall₂_map_right_iff.2 (List.forall₂_same.2 fun part _ => trims_trimBlank part)
  have made := Lists.intro (splitAt_ne_nil ',' text.toList) (fun part => not_mem_of_mem_splitAt) trims
  rwa [intercalate_splitAt, String.ofList_toList, ← listItems_eq] at made

theorem Lists.listItems_eq {text : String} {items : List String} (lists : Lists text items) :
    listItems text = items := by
  obtain @⟨parts, cores, nonempty, free, trims⟩ := lists
  have same : parts.map trimBlank = cores := by
    rw [← List.forall₂_eq_eq_eq, List.forall₂_map_left_iff]
    exact trims.imp fun part core => Trims.trimBlank_eq
  rw [Settings.listItems_eq, String.toList_ofList, splitAt_intercalate nonempty free, same]

/-- One list joined from several has the items of all of them. -/
theorem listItems_intercalate (lists : List String) :
    listItems (",".intercalate lists) = lists.flatMap listItems := by
  induction lists with
  | nil => rfl
  | cons first others ih =>
      cases others with
      | nil => simp
      | cons second rest =>
          have cut : splitAt ',' (",".intercalate (first :: second :: rest)).toList =
              splitAt ',' first.toList ++
                splitAt ',' (",".intercalate (second :: rest)).toList := by
            rw [String.intercalate_cons_cons, String.toList_append, String.toList_append,
              show ",".toList = [','] from rfl, List.append_assoc, List.singleton_append,
              splitAt_append]
          rw [List.flatMap_cons, ← ih, listItems_eq, cut, List.map_append, List.map_append,
            List.filter_append, ← listItems_eq, ← listItems_eq]

/-! ## Adding items -/

variable {names items : List String}

theorem mem_addName_iff {name other : String} :
    other ∈ addName names name ↔ other ∈ names ∨ other = name := by
  unfold addName
  split
  · next known =>
    rw [List.contains_iff_mem] at known
    exact ⟨.inl, fun either => either.elim id fun same => same ▸ known⟩
  · simp

theorem mem_foldl_addName_iff {name : String} :
    name ∈ items.foldl addName names ↔ name ∈ names ∨ name ∈ items := by
  induction items generalizing names with
  | nil => simp
  | cons item rest ih => rw [List.foldl_cons, ih, mem_addName_iff, List.mem_cons, or_assoc]

theorem foldl_addName_of_subset (known : ∀ item ∈ items, item ∈ names) :
    items.foldl addName names = names := by
  induction items with
  | nil => rfl
  | cons item rest ih =>
      obtain ⟨first, others⟩ := List.forall_mem_cons.1 known
      rw [List.foldl_cons, addName, if_pos (List.contains_iff_mem.2 first), ih others]

/-- Adding one more item to what has been added to a list. -/
theorem addName_append {seen added : List String} (item : String)
    (once : EachOnce (seen.filter (· ∉ names)) added) :
    ∃ more, addName (names ++ added) item = names ++ more ∧
      EachOnce ((seen ++ [item]).filter (· ∉ names)) more := by
  rw [List.filter_append]
  by_cases had : item ∈ names
  · refine ⟨added, ?_, ?_⟩
    · rw [addName, if_pos (List.contains_iff_mem.2 (List.mem_append_left _ had))]
    · simpa [had] using once
  · have kept : [item].filter (· ∉ names) = [item] := by simp [had]
    rw [kept]
    by_cases known : item ∈ added
    · refine ⟨added, ?_, once.concat_of_mem known⟩
      rw [addName, if_pos (List.contains_iff_mem.2 (List.mem_append_right _ known))]
    · refine ⟨added ++ [item], ?_, once.concat_of_not_mem known⟩
      have fresh : ¬ (names ++ added).contains item = true := by simp [had, known]
      rw [addName, if_neg fresh, List.append_assoc]

theorem foldl_addName_append (items : List String) {seen added : List String}
    (once : EachOnce (seen.filter (· ∉ names)) added) :
    ∃ more, items.foldl addName (names ++ added) = names ++ more ∧
      EachOnce ((seen ++ items).filter (· ∉ names)) more := by
  induction items generalizing seen added with
  | nil => exact ⟨added, rfl, by simpa using once⟩
  | cons item rest ih =>
      obtain ⟨more, grown, once'⟩ := addName_append item once
      obtain ⟨all, grown', once''⟩ := ih once'
      refine ⟨all, ?_, ?_⟩
      · rw [List.foldl_cons, grown, grown']
      · rwa [List.append_assoc, List.singleton_append] at once''

/-! ## Adding lists -/

/-- A list of settings stays in front, and behind it comes what the lists have that it lacks. -/
theorem addLists_eq_append (names lists : List String) :
    ∃ added, addLists names lists = names ++ added ∧
      EachOnce ((lists.flatMap listItems).filter (· ∉ names)) added := by
  have none : EachOnce (([] : List String).filter (· ∉ names)) [] := .nil
  obtain ⟨added, grown, once⟩ := foldl_addName_append (lists.flatMap listItems) none
  rw [List.append_nil] at grown
  exact ⟨added, grown, by rwa [List.nil_append] at once⟩

theorem addLists_addLists (names lists : List String) :
    addLists (addLists names lists) lists = addLists names lists :=
  foldl_addName_of_subset fun _ member => mem_foldl_addName_iff.2 (.inr member)

theorem addLists_eq_foldl (names lists : List String) :
    addLists names lists = lists.foldl (fun names list => addLists names [list]) names := by
  simp only [addLists, List.foldl_flatMap, List.flatMap_singleton]

theorem addLists_intercalate (names lists : List String) :
    addLists names [",".intercalate lists] = addLists names lists := by
  rw [addLists, List.flatMap_singleton, listItems_intercalate, addLists]

/-- Flags extend a list of settings.  The list stays in front.  Behind it comes every item of the
flags that the list does not have, once and in the order of first appearance, and nothing else.  The
same flags once more change nothing, and it makes no difference whether the flags are given one after
the other or as a single flag with commas between their values.  The rules and the modules to ignore
are extended in this way, and nothing else of the settings changes. -/
theorem addLists_extends (names lists : List String) :
    (∃ items, List.Forall₂ Lists lists items) ∧
    (∀ items, List.Forall₂ Lists lists items → ∃ added, addLists names lists = names ++ added ∧
      EachOnce (items.flatten.filter (· ∉ names)) added) ∧
    addLists (addLists names lists) lists = addLists names lists ∧
    addLists names lists = lists.foldl (fun names list => addLists names [list]) names ∧
    addLists names lists = addLists names [",".intercalate lists] ∧
    ∀ settings : Settings,
      settings.ignoreRules lists =
        { settings with ignoredRules := addLists settings.ignoredRules lists } ∧
      settings.ignoreModules lists =
        { settings with ignoredModules := addLists settings.ignoredModules lists } := by
  refine ⟨⟨lists.map listItems, ?_⟩, fun items listed => ?_, addLists_addLists names lists,
    addLists_eq_foldl names lists, (addLists_intercalate names lists).symm,
    fun settings => ⟨rfl, rfl⟩⟩
  · exact List.forall₂_map_right_iff.2 (List.forall₂_same.2 fun list _ => lists_listItems list)
  · have same : lists.map listItems = items := by
      rw [← List.forall₂_eq_eq_eq, List.forall₂_map_left_iff]
      exact listed.imp fun list items => Lists.listItems_eq
    rw [← same, ← List.flatMap_def]
    exact addLists_eq_append names lists

example : addLists ["a", "b"] [" c,b,, d", "", "d , c,e"] = ["a", "b", "c", "d", "e"] := by
  decide +kernel

end Settings

end InfraLint
