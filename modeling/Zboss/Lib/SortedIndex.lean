import Mathlib.Data.List.Nodup
import Mathlib.Data.List.Perm.Basic
import Mathlib.Order.Basic

/-!
An index of the members of a set, as a list without duplicates ordered by a key.
Equal keys are allowed and keep no particular order.  Removing an element and
inserting one at a place that fits its key are the only two changes.
-/

namespace Zboss

variable {α β : Type*} [Preorder β]

/-- Inserting an element between the smaller and the larger keys keeps the order. -/
theorem pairwise_insertIdx {key : α → β} {l : List α} {x : α} {i : ℕ}
    (ordered : l.Pairwise fun a b => key a ≤ key b) (inside : i ≤ l.length)
    (below : ∀ a ∈ l.take i, key a ≤ key x) (above : ∀ a ∈ l.drop i, key x ≤ key a) :
    (l.insertIdx i x).Pairwise fun a b => key a ≤ key b := by
  obtain ⟨before, behind, rfl, rfl, shape⟩ :=
    List.exists_of_modifyTailIdx (List.cons x) inside
  rw [List.take_left] at below
  rw [List.drop_left] at above
  rw [List.pairwise_append] at ordered
  rw [List.insertIdx, shape, List.pairwise_append, List.pairwise_cons]
  refine ⟨ordered.1, ⟨above, ordered.2.1⟩, fun a left b right => ?_⟩
  rcases List.mem_cons.mp right with rfl | right
  · exact below a left
  · exact ordered.2.2 a left b right

/-- The list holds exactly the members, once each, in order of the key. -/
structure SortedIndex (key : α → β) (members : α → Prop) (l : List α) : Prop where
  nodup : l.Nodup
  ordered : l.Pairwise fun a b => key a ≤ key b
  exact : ∀ a, a ∈ l ↔ members a

namespace SortedIndex

variable {key key' : α → β} {members members' : α → Prop} {l : List α}

/-- Only the keys of the members matter. -/
theorem congr (index : SortedIndex key members l) (same : ∀ a, members' a ↔ members a)
    (keys : ∀ a, members a → key' a = key a) : SortedIndex key' members' l where
  nodup := index.nodup
  ordered := index.ordered.imp_of_mem fun left right le => by
    rwa [keys _ ((index.exact _).mp left), keys _ ((index.exact _).mp right)]
  exact a := (index.exact a).trans (same a).symm

/-- Removing an element leaves the others indexed. -/
theorem erase [BEq α] [LawfulBEq α] (index : SortedIndex key members l) (x : α) :
    SortedIndex key (fun a => members a ∧ a ≠ x) (l.erase x) where
  nodup := index.nodup.erase x
  ordered := index.ordered.sublist List.erase_sublist
  exact a := by
    rw [index.nodup.mem_erase_iff, index.exact, and_comm]

/-- Inserting a new element between the smaller and the larger keys. -/
theorem insertIdx (index : SortedIndex key members l) {x : α} {i : ℕ} (fresh : ¬ members x)
    (inside : i ≤ l.length) (below : ∀ a ∈ l.take i, key a ≤ key x)
    (above : ∀ a ∈ l.drop i, key x ≤ key a) :
    SortedIndex key (fun a => members a ∨ a = x) (l.insertIdx i x) := by
  have permuted := List.perm_insertIdx x l inside
  refine ⟨?_, pairwise_insertIdx index.ordered inside below above, fun a => ?_⟩
  · rw [permuted.nodup_iff, List.nodup_cons]
    exact ⟨fun member => fresh ((index.exact x).mp member), index.nodup⟩
  · rw [permuted.mem_iff, List.mem_cons, index.exact, or_comm]

/-- An index of numbers below a bound is no longer than the bound. -/
theorem length_le {key : ℕ → β} {members : ℕ → Prop} {l : List ℕ} {bound : ℕ}
    (index : SortedIndex key members l) (bounded : ∀ a, members a → a < bound) :
    l.length ≤ bound := by
  have subset : l ⊆ List.range bound := fun a member =>
    List.mem_range.mpr (bounded a ((index.exact a).mp member))
  simpa using (List.subperm_of_subset index.nodup subset).length_le

end SortedIndex

end Zboss
