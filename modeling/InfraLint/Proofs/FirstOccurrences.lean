import Mathlib.Data.List.Nodup

/-!
# First occurrences

A list that grows by what it does not hold yet lists everything that has come by, once and in the
order in which it came first (`EachOnce`).  The names of a registry grow in this way, and so do the
lists of settings that flags add to.
-/

namespace InfraLint

variable {α : Type} [DecidableEq α]

/-- `found` holds what stands in `items`, once each, in the order in which it stands there first. -/
structure EachOnce (items found : List α) : Prop where
  mem_iff (a : α) : a ∈ found ↔ a ∈ items
  ordered : found.Pairwise fun a b => items.idxOf a < items.idxOf b

namespace EachOnce

variable {items found : List α}

theorem nil : EachOnce ([] : List α) [] := ⟨fun _ => Iff.rfl, .nil⟩

theorem nodup (once : EachOnce items found) : found.Nodup := by
  refine once.ordered.imp fun before same => ?_
  rw [same] at before
  exact Nat.lt_irrefl _ before

/-- A further item does not move what has come by. -/
theorem ordered_concat (once : EachOnce items found) (a : α) :
    found.Pairwise fun b c => (items ++ [a]).idxOf b < (items ++ [a]).idxOf c := by
  refine once.ordered.imp_of_mem fun first second before => ?_
  rwa [List.idxOf_append_of_mem ((once.mem_iff _).1 first),
    List.idxOf_append_of_mem ((once.mem_iff _).1 second)]

/-- What has come by before changes nothing. -/
theorem concat_of_mem (once : EachOnce items found) {a : α} (known : a ∈ found) :
    EachOnce (items ++ [a]) found := by
  refine ⟨fun b => ?_, once.ordered_concat a⟩
  rw [List.mem_append, List.mem_singleton, ← once.mem_iff]
  exact ⟨.inl, fun either => either.elim id fun same => same ▸ known⟩

/-- What is new comes behind all the rest. -/
theorem concat_of_not_mem (once : EachOnce items found) {a : α} (fresh : a ∉ found) :
    EachOnce (items ++ [a]) (found ++ [a]) := by
  refine ⟨fun b => ?_, List.pairwise_append.2
    ⟨once.ordered_concat a, List.pairwise_singleton _ _, fun b member c last => ?_⟩⟩
  · rw [List.mem_append, List.mem_append, once.mem_iff]
  · have known : b ∈ items := (once.mem_iff b).1 member
    have unknown : a ∉ items := fun member => fresh ((once.mem_iff a).2 member)
    rw [List.mem_singleton.1 last, List.idxOf_append_of_mem known,
      List.idxOf_append_of_notMem unknown, List.idxOf_cons_self, Nat.add_zero]
    exact List.idxOf_lt_length_of_mem known

end EachOnce

end InfraLint
