import Mathlib.Data.List.Induction
import Mathlib.Data.List.Nodup

/-!
The first element of each key, in the order of a list.
-/

namespace Zboss.FirstByKey

variable {α κ : Type*} [DecidableEq κ] (key : α → κ)

/-- An element joins those kept unless one of them has its key. -/
def keep (kept : List α) (x : α) : List α :=
  if kept.any fun y => decide (key y = key x) then kept else kept ++ [x]

/-- The first elements of their keys. -/
def firsts (list : List α) : List α := list.foldl (keep key) []

/-- The first element with a key. -/
def firstOf (list : List α) (k : κ) : Option α := list.find? fun x => decide (key x = k)

variable {key} {list : List α} {x : α}

theorem firsts_append (list : List α) (x : α) :
    firsts key (list ++ [x]) = keep key (firsts key list) x := by
  simp [firsts]

theorem firstOf_append (list : List α) (x : α) (k : κ) :
    firstOf key (list ++ [x]) k =
      (firstOf key list k).or (if key x = k then some x else none) := by
  rw [firstOf, List.find?_append]
  by_cases same : key x = k <;> simp [firstOf, same]

theorem firstOf_key {k : κ} (first : firstOf key list k = some x) : key x = k := by
  simpa using List.find?_some first

theorem firstOf_isSome {k : κ} (member : x ∈ list) (same : key x = k) :
    ∃ y, firstOf key list k = some y := by
  rw [← Option.isSome_iff_exists, firstOf, List.find?_isSome]
  exact ⟨x, member, by simpa using same⟩

/-- What is kept is the first of its key. -/
theorem mem_firsts_iff : x ∈ firsts key list ↔ firstOf key list (key x) = some x := by
  induction list using List.reverseRecOn generalizing x with
  | nil => simp [firsts, firstOf]
  | append_singleton list last searched =>
    rw [firsts_append, firstOf_append, keep]
    split
    · rename_i known
      obtain ⟨y, kept, same⟩ := List.any_eq_true.mp known
      rw [decide_eq_true_eq] at same
      rw [searched]
      by_cases key_ : key last = key x
      · rw [← key_, ← same, searched.mp kept, Option.some_or]
      · rw [if_neg key_, Option.or_none]
    · rename_i unknown
      have none_ : firstOf key list (key last) = none := by
        by_contra some_
        obtain ⟨y, first⟩ := Option.ne_none_iff_exists'.mp some_
        have same := firstOf_key first
        have kept : y ∈ firsts key list := searched.mpr (by rw [same, first])
        exact unknown (List.any_eq_true.mpr ⟨y, kept, by simpa using same⟩)
      rw [List.mem_append, List.mem_singleton, searched]
      by_cases key_ : key last = key x
      · rw [if_pos key_, ← key_, none_, Option.none_or]
        simp [eq_comm]
      · rw [if_neg key_, Option.or_none]
        constructor
        · rintro (before | rfl)
          · exact before
          · exact absurd rfl key_
        · exact Or.inl

theorem firsts_nodup (list : List α) : ((firsts key list).map key).Nodup := by
  induction list using List.reverseRecOn with
  | nil => exact List.nodup_nil
  | append_singleton list last searched =>
    rw [firsts_append, keep]
    split
    · exact searched
    · rename_i unknown
      rw [List.map_append, List.map_singleton, List.nodup_append]
      refine ⟨searched, List.nodup_singleton _, ?_⟩
      rintro k kept k' last_ rfl
      obtain ⟨y, member, rfl⟩ := List.mem_map.mp kept
      rw [List.mem_singleton] at last_
      exact unknown (List.any_eq_true.mpr ⟨y, member, by simpa using last_⟩)

theorem mem_of_mem_firsts (kept : x ∈ firsts key list) : x ∈ list :=
  List.mem_of_find?_eq_some (mem_firsts_iff.mp kept)

/-- Every key is kept. -/
theorem exists_first (member : x ∈ list) : ∃ y ∈ firsts key list, key y = key x := by
  obtain ⟨y, first⟩ : ∃ y, firstOf key list (key x) = some y := firstOf_isSome member rfl
  have same := firstOf_key first
  exact ⟨y, mem_firsts_iff.mpr (by rw [same, first]), same⟩

end Zboss.FirstByKey
