import Mathlib.Data.List.Basic

/-!
An object in the memory of a C program: a list of cells of fixed length.  A write
that leaves the object has no defined result.
-/

namespace Zboss.Object

variable {α : Type*}

/-- Write cells from `pos` on. -/
def store (object : List α) (pos : ℕ) (cells : List α) : Option (List α) :=
  if pos + cells.length ≤ object.length then
    some (object.take pos ++ cells ++ object.drop (pos + cells.length))
  else none

/-- A write behind a prefix of the object. -/
theorem store_append (front rest cells : List α) : store (front ++ rest) front.length cells =
    if cells.length ≤ rest.length then some (front ++ cells ++ rest.drop cells.length) else none := by
  unfold store
  by_cases fits : cells.length ≤ rest.length
  · rw [if_pos fits, if_pos (by rw [List.length_append]; omega), List.take_left', List.drop_append,
      List.drop_eq_nil_of_le (by omega), Nat.add_sub_cancel_left, List.nil_append]
    rfl
  · rw [if_neg fits, if_neg (by rw [List.length_append]; omega)]

/-- Writing over cells in the middle. -/
theorem store_over {front middle rest cells : List α} {pos : ℕ} (place : front.length = pos)
    (same : middle.length = cells.length) :
    store (front ++ (middle ++ rest)) pos cells = some (front ++ cells ++ rest) := by
  rw [← place, store_append, if_pos (by rw [List.length_append]; omega), ← same, List.drop_left]

theorem store_length {object cells after : List α} {pos : ℕ}
    (stored : store object pos cells = some after) : after.length = object.length := by
  unfold store at stored
  split at stored
  · next fits =>
    cases stored
    simp only [List.length_append, List.length_take, List.length_drop]
    omega
  · cases stored

end Zboss.Object
