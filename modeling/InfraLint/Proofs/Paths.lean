import InfraLint.FileTree
import Mathlib.Data.List.Basic

/-!
# Paths

A path is cut into components at its slashes, and it leads to the same place without the `.`
components at its front (`FileTree.read?_trimmed`).

What findings cite is the trimmed path as a text.  For a path that is a text the components are
texts too, since no byte of another character is a slash, and so is the trimmed path.  So what
findings cite of such a path leads to the same place again (`FileTree.read?_shown`).  For other paths
it need not: all bytes that encode no character are shown by the same mark.
-/

namespace InfraLint

/-! ## Cutting at separators -/

namespace Text

theorem flatMap_intercalate {α β : Type} (f : α → List β) (sep : List α) (parts : List (List α)) :
    (sep.intercalate parts).flatMap f =
      (sep.flatMap f).intercalate (parts.map fun part => part.flatMap f) := by
  induction parts with
  | nil => rfl
  | cons part rest ih =>
      cases rest with
      | nil => simp
      | cons next rest =>
          rw [List.intercalate_cons_cons, List.map_cons, List.map_cons, List.intercalate_cons_cons,
            List.flatMap_append, List.flatMap_append, ih, List.map_cons]

variable {α : Type} [DecidableEq α]

theorem splitAt_ne_nil (sep : α) (cs : List α) : splitAt sep cs ≠ [] := by
  cases cs with
  | nil => simp [splitAt]
  | cons c rest =>
      rw [splitAt]
      split
      · simp
      · split
        · simp
        · simp

theorem splitAt_of_not_mem {sep : α} {cs : List α} (free : sep ∉ cs) :
    splitAt sep cs = [cs] := by
  induction cs with
  | nil => rfl
  | cons c rest ih =>
      rw [List.mem_cons, not_or] at free
      have other : (c == sep) = false := beq_false_of_ne fun same => free.1 same.symm
      simp [splitAt, other, ih free.2]

/-- A text joined by the separator is cut into the parts of both. -/
theorem splitAt_append (sep : α) (first second : List α) :
    splitAt sep (first ++ sep :: second) = splitAt sep first ++ splitAt sep second := by
  induction first with
  | nil => simp [splitAt]
  | cons c rest ih =>
      rw [List.cons_append, splitAt, splitAt, ih]
      split
      · rfl
      · cases parts : splitAt sep rest with
        | nil => exact absurd parts (splitAt_ne_nil sep rest)
        | cons part others => rfl

theorem not_mem_of_mem_splitAt {sep : α} {part cs : List α} (member : part ∈ splitAt sep cs) :
    sep ∉ part := by
  induction cs generalizing part with
  | nil => simp_all [splitAt]
  | cons c rest ih =>
      rw [splitAt] at member
      split at member
      · rcases List.mem_cons.1 member with rfl | member
        · exact List.not_mem_nil
        · exact ih member
      · next other =>
        cases parts : splitAt sep rest with
        | nil => exact absurd parts (splitAt_ne_nil sep rest)
        | cons first others =>
            rw [parts] at member
            rcases List.mem_cons.1 member with rfl | member
            · have unlike : sep ≠ c := by
                rintro rfl
                exact other (beq_self_eq_true _)
              exact List.not_mem_cons_of_ne_of_not_mem unlike (ih (parts ▸ List.mem_cons_self))
            · exact ih (parts ▸ List.mem_cons_of_mem _ member)

/-- A text joined from parts without the separator is cut into these parts. -/
theorem splitAt_intercalate {sep : α} {parts : List (List α)} (nonempty : parts ≠ [])
    (free : ∀ part ∈ parts, sep ∉ part) : splitAt sep ([sep].intercalate parts) = parts := by
  induction parts with
  | nil => exact absurd rfl nonempty
  | cons part rest ih =>
      obtain ⟨first, others⟩ := List.forall_mem_cons.1 free
      cases rest with
      | nil => simpa using splitAt_of_not_mem first
      | cons next rest =>
          rw [List.intercalate_cons_cons, List.append_assoc, List.singleton_append, splitAt_append,
            splitAt_of_not_mem first, ih (List.cons_ne_nil _ _) others, List.singleton_append]

theorem intercalate_splitAt (sep : α) (cs : List α) :
    [sep].intercalate (splitAt sep cs) = cs := by
  induction cs with
  | nil => rfl
  | cons c rest ih =>
      rw [splitAt]
      cases parts : splitAt sep rest with
      | nil => exact absurd parts (splitAt_ne_nil sep rest)
      | cons part others =>
          rw [parts] at ih
          split
          · next same =>
            rw [List.intercalate_cons_cons, ih, eq_of_beq same]
            rfl
          · cases others with
            | nil => rw [← ih]; rfl
            | cons next others =>
                rw [← ih, List.intercalate_cons_cons, List.intercalate_cons_cons]
                rfl

end Text

/-! ## Components -/

namespace PathText

variable {path name : RawText} {names rest : List RawText}

theorem not_mem_of_mem_components (member : name ∈ components path) : slash ∉ name.bytes := by
  obtain ⟨part, inside, rfl⟩ := List.mem_map.1 member
  exact Text.not_mem_of_mem_splitAt inside

theorem components_ofComponents (nonempty : names ≠ [])
    (free : ∀ name ∈ names, slash ∉ name.bytes) : components (ofComponents names) = names := by
  rw [components, ofComponents, Text.splitAt_intercalate (by simpa using nonempty)
    (by simpa using free), List.map_map]
  exact List.map_id names

/-- A path whose first component is not empty does not lead on from the root. -/
theorem isFromRoot_of_components (cut : components path = name :: rest)
    (named : name.isEmpty = false) : isFromRoot path = false := by
  rw [components] at cut
  rw [isFromRoot]
  cases bytes : path.bytes with
  | nil => rfl
  | cons first others =>
      by_cases same : first = slash
      · subst same
        rw [bytes, Text.splitAt, beq_self_eq_true, if_pos rfl, List.map_cons] at cut
        rw [← (List.cons.inj cut).1] at named
        cases named
      · simp [same]

theorem trimmed_eq (path : RawText) :
    (∃ rest, components path = RawText.ofText "." :: rest ∧
      trimmed path = ofComponents (rest.dropWhile isIdle)) ∨ trimmed path = path := by
  unfold trimmed
  split
  · next name rest cut =>
    split
    · next dot => exact .inl ⟨rest, by rw [cut, eq_of_beq dot], rfl⟩
    · exact .inr rfl
  · exact .inr rfl

/-! ## Paths that are texts -/

/-- No byte of another character is a slash. -/
theorem slash_not_mem_encodeChar {c : Char} (other : c ≠ '/') :
    slash ∉ String.utf8EncodeChar c := by
  intro member
  have code : c.val.toNat = 47 := RawText.toNat_of_mem_encodeChar member (by decide)
  exact other (Char.ext (UInt32.toNat_inj.1 code))

/-- The components of a text are those that its slashes separate. -/
theorem components_ofText (text : String) :
    components (.ofText text) =
      (Text.splitAt '/' text.toList).map fun part => .ofText (String.ofList part) := by
  have free : ∀ part ∈ (Text.splitAt '/' text.toList).map
      fun part => part.flatMap String.utf8EncodeChar, slash ∉ part := by
    intro part member
    obtain ⟨chars, inside, rfl⟩ := List.mem_map.1 member
    intro member
    obtain ⟨c, among, encodes⟩ := List.mem_flatMap.1 member
    refine slash_not_mem_encodeChar (fun same => ?_) encodes
    exact Text.not_mem_of_mem_splitAt inside (same ▸ among)
  have encoded : (RawText.ofText text).bytes = [slash].intercalate
      ((Text.splitAt '/' text.toList).map fun part => part.flatMap String.utf8EncodeChar) := by
    rw [RawText.ofText, ← Text.intercalate_splitAt '/' text.toList, Text.flatMap_intercalate,
      Text.intercalate_splitAt]
    rfl
  rw [components, encoded, Text.splitAt_intercalate (by simpa using Text.splitAt_ne_nil _ _) free,
    List.map_map]
  exact List.map_congr_left fun part _ => by simp [RawText.ofText]

theorem isText_of_mem_components (isText : path.IsText) (member : name ∈ components path) :
    name.IsText := by
  obtain ⟨text, rfl⟩ := isText
  rw [components_ofText] at member
  obtain ⟨part, -, rfl⟩ := List.mem_map.1 member
  exact ⟨_, rfl⟩

theorem isText_ofComponents (texts : ∀ name ∈ names, name.IsText) :
    (ofComponents names).IsText := by
  induction names with
  | nil => exact ⟨"", rfl⟩
  | cons name rest ih =>
      obtain ⟨first, others⟩ := List.forall_mem_cons.1 texts
      cases rest with
      | nil => simpa [ofComponents] using first
      | cons next rest =>
          have joined : ofComponents (name :: next :: rest) =
              name ++ RawText.ofText "/" ++ ofComponents (next :: rest) := by
            simp only [ofComponents, List.map_cons, List.intercalate_cons_cons]
            rfl
          rw [joined]
          exact (first.append ⟨"/", rfl⟩).append (ih others)

theorem isText_trimmed (isText : path.IsText) : (trimmed path).IsText := by
  rcases trimmed_eq path with ⟨rest, cut, trims⟩ | same
  · rw [trims]
    refine isText_ofComponents fun name member => isText_of_mem_components isText ?_
    rw [cut]
    exact List.mem_cons_of_mem _ ((List.dropWhile_sublist _).subset member)
  · rwa [same]

/-- What findings cite of a path that is a text is the path, without `.` components at its front. -/
theorem ofText_shown (isText : path.IsText) : RawText.ofText (shown path) = trimmed path :=
  (isText_trimmed isText).ofText_display

end PathText

/-! ## Where paths lead -/

namespace FileTree

open PathText

variable {tree : FileTree} {path : RawText}

theorem locate_of_components {name : RawText} {rest : List RawText}
    (cut : components path = name :: rest) (named : name.isEmpty = false) :
    tree.locate path = tree.follow tree.workingDir (name :: rest) := by
  have nonempty : path.isEmpty = false := by
    cases empty : path.isEmpty with
    | false => rfl
    | true =>
        rw [RawText.isEmpty, List.isEmpty_iff] at empty
        rw [components, empty] at cut
        rw [← (List.cons.inj cut).1] at named
        cases named
  simp [locate, nonempty, isFromRoot_of_components cut named, cut]

theorem follow_cons_idle {place : Place} {name : RawText} (names : List RawText)
    (there : tree.entryAt? place = some .directory) (idle : isIdle name = true) :
    tree.follow place (name :: names) = tree.follow place names := by
  rw [follow, there]
  simp only [beq_self_eq_true, if_true, idle]

theorem follow_dropWhile_idle {place : Place} (names : List RawText)
    (there : tree.entryAt? place = some .directory) :
    tree.follow place (names.dropWhile isIdle) = tree.follow place names := by
  induction names with
  | nil => rfl
  | cons name rest ih =>
      cases idle : isIdle name with
      | true => rw [List.dropWhile_cons_of_pos idle, ih, follow_cons_idle rest there idle]
      | false => rw [List.dropWhile_cons_of_neg (by simp [idle])]

theorem read?_eq_some_iff {text : String} :
    tree.read? path = some text ↔
      ∃ place, tree.locate path = some place ∧ tree.entryAt? place = some (.text text) := by
  rw [read?, entry?]
  cases located : tree.locate path with
  | none => simp
  | some place =>
      rcases there : tree.entryAt? place with _ | _ | content | _ <;> simp [there]

/-- Where a text can be read, it can be read at the trimmed path. -/
theorem read?_trimmed {text : String} (read : tree.read? path = some text) :
    tree.read? (trimmed path) = some text := by
  rcases trimmed_eq path with ⟨rest, cut, trims⟩ | same
  · obtain ⟨place, found, there⟩ := read?_eq_some_iff.1 read
    rw [locate_of_components cut rfl] at found
    have working : tree.entryAt? tree.workingDir = some .directory := by
      rw [follow] at found
      split at found
      · next isDirectory => exact eq_of_beq isDirectory
      · cases found
    rw [follow_cons_idle rest working rfl, ← follow_dropWhile_idle rest working] at found
    cases kept : rest.dropWhile isIdle with
    | nil =>
        -- the path leads to the working directory itself, which is no text
        rw [kept] at found
        cases found
        rw [working] at there
        cases there
    | cons name others =>
        have front : isIdle name = false := by
          have head := List.head?_dropWhile_not isIdle rest
          rwa [kept] at head
        have named : name.isEmpty = false := (Bool.or_eq_false_iff.1 front).2
        have free : ∀ name ∈ rest.dropWhile isIdle, slash ∉ name.bytes := by
          intro other member
          have inside : other ∈ components path :=
            cut ▸ List.mem_cons_of_mem _ ((List.dropWhile_sublist _).subset member)
          exact not_mem_of_mem_components inside
        have cut' := components_ofComponents (by simp [kept]) free
        rw [trims, read?_eq_some_iff]
        refine ⟨place, ?_, there⟩
        rw [kept] at cut' found ⊢
        rw [locate_of_components cut' named, found]
  · rw [same, read]

/-- A text at a path that is a text can be read at the path that findings cite. -/
theorem read?_shown {text : String} (isText : path.IsText) (read : tree.read? path = some text) :
    tree.read? (shown path) = some text := by
  rw [ofText_shown isText]
  exact read?_trimmed read

end FileTree

end InfraLint
