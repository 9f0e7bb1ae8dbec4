import Mathlib

/-!
Search over `n` cells: the first cell that meets a test, in order or around the ring
from a start on, and the last one.
-/

namespace Zboss.Ring

variable {n : ℕ}

/-- A search in order stops at the least cell that meets the test. -/
theorem find?_finRange_eq_some {test : Fin n → Bool} {i : Fin n} :
    (List.finRange n).find? test = some i ↔ test i = true ∧ ∀ j < i, test j = false := by
  rw [List.find?_eq_some_iff_getElem]
  constructor
  · rintro ⟨hit, k, inside, here, before⟩
    simp only [List.getElem_finRange] at here before
    subst here
    refine ⟨hit, fun j less => ?_⟩
    have := before j.val less
    simpa using this
  · rintro ⟨hit, before⟩
    refine ⟨hit, i.val, by simp, by simp, fun j less => ?_⟩
    have := before ⟨j, less.trans i.isLt⟩ less
    simpa using this

/-- The first cell from `start` on that meets the test. -/
def firstFrom [NeZero n] (start : Fin n) (test : Fin n → Bool) : Option (Fin n) :=
  ((List.finRange n).find? fun i => test (start + i)).map (start + ·)

variable [NeZero n] {start : Fin n} {test : Fin n → Bool} {i : Fin n}

/-- The cell found meets the test, and none before it, counted from the start, does. -/
theorem firstFrom_eq_some :
    firstFrom start test = some i ↔
      test i = true ∧ ∀ j, j - start < i - start → test j = false := by
  rw [firstFrom, Option.map_eq_some_iff]
  constructor
  · rintro ⟨offset, hit, rfl⟩
    obtain ⟨met, before⟩ := find?_finRange_eq_some.mp hit
    refine ⟨met, fun j less => ?_⟩
    rw [add_sub_cancel_left] at less
    have missed := before _ less
    rwa [add_sub_cancel] at missed
  · rintro ⟨met, before⟩
    refine ⟨i - start, find?_finRange_eq_some.mpr ⟨?_, fun j less => ?_⟩, add_sub_cancel _ _⟩
    · rwa [add_sub_cancel]
    · refine before _ ?_
      rwa [add_sub_cancel_left]

theorem firstFrom_holds (found : firstFrom start test = some i) : test i = true :=
  (firstFrom_eq_some.mp found).1

/-- Nothing is found just when no cell meets the test. -/
theorem firstFrom_eq_none : firstFrom start test = none ↔ ∀ i, test i = false := by
  rw [firstFrom, Option.map_eq_none_iff, List.find?_eq_none]
  constructor
  · intro missed i
    have := missed (i - start) (List.mem_finRange _)
    rwa [add_sub_cancel, Bool.not_eq_true] at this
  · intro missed i _
    rw [missed]
    exact Bool.false_ne_true

theorem firstFrom_start (here : test start = true) : firstFrom start test = some start := by
  obtain ⟨m, rfl⟩ : ∃ m, n = m + 1 := ⟨n - 1, (Nat.succ_pred (NeZero.ne n)).symm⟩
  have first : (List.finRange (m + 1)).find? (fun i => test (start + i)) = some 0 := by
    rw [List.finRange_succ, List.find?_cons_of_pos]
    rwa [add_zero]
  rw [firstFrom, first, Option.map_some, add_zero]

/-- When one cell meets the test, it is found. -/
theorem firstFrom_unique (here : test i = true) (only : ∀ j, test j = true → j = i) :
    firstFrom start test = some i := by
  cases found : firstFrom start test with
  | none => rw [firstFrom_eq_none.mp found i] at here; contradiction
  | some j => rw [only j (firstFrom_holds found)]

/-- The last cell, counted from `start`, that meets the test. -/
def lastFrom (start : Fin n) (test : Fin n → Bool) : Option (Fin n) :=
  ((List.finRange n).reverse.find? fun i => test (start + i)).map (start + ·)

omit [NeZero n] in
theorem lastFrom_holds (found : lastFrom start test = some i) : test i = true := by
  obtain ⟨offset, hit, rfl⟩ := Option.map_eq_some_iff.mp found
  simpa using List.find?_some hit

theorem lastFrom_eq_none : lastFrom start test = none ↔ ∀ i, test i = false := by
  rw [lastFrom, Option.map_eq_none_iff, List.find?_eq_none]
  constructor
  · intro missed i
    have := missed (i - start) (List.mem_reverse.mpr (List.mem_finRange _))
    rwa [add_sub_cancel, Bool.not_eq_true] at this
  · intro missed i _
    rw [missed]
    exact Bool.false_ne_true

end Zboss.Ring
