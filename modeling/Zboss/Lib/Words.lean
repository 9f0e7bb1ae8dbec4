import Mathlib.Data.List.GetD
import Zboss.Lib.Cells

/-!
Loops that copy words of two cells, one word after the other.  Between two memories such a loop is
one copy; within one memory it is, where the words read and the words written lie apart.
-/

namespace Zboss.Words

open Zboss.Cells

variable {α : Type*} {a : ℕ → α} {n : ℕ}

/-- `dst[i] = src[i]` for the words `i < n`, from the memory `source`. -/
def copyWords (source : ℕ → α) (src dst : ℕ) : ℕ → (ℕ → α) → ℕ → α
  | 0, a => a
  | n + 1, a =>
    memcpy (copyWords source src dst n a) (dst + 2 * n) (segment source (src + 2 * n) 2)

/-- `dst[i] = src[i]` for the words `i < n`, within one memory. -/
def moveWords (src dst : ℕ) : ℕ → (ℕ → α) → ℕ → α
  | 0, a => a
  | n + 1, a =>
    memcpy (moveWords src dst n a) (dst + 2 * n)
      (segment (moveWords src dst n a) (src + 2 * n) 2)

theorem memcpy_nil (a : ℕ → α) (dst : ℕ) : memcpy a dst [] = a := by
  funext i
  simp [memcpy]

theorem memcpy_outside {dst i : ℕ} (a : ℕ → α) (xs : List α)
    (outside : i < dst ∨ dst + xs.length ≤ i) : memcpy a dst xs i = a i := by
  simp only [memcpy]
  rcases outside with before | behind
  · rw [if_neg (by omega)]
  · rw [if_pos (by omega), List.getD_eq_default xs _ (by omega)]

/-- Two copies, the second behind the first, are one. -/
theorem memcpy_memcpy (a : ℕ → α) (dst : ℕ) (xs ys : List α) :
    memcpy (memcpy a dst xs) (dst + xs.length) ys = memcpy a dst (xs ++ ys) := by
  funext i
  simp only [memcpy]
  by_cases behind : dst + xs.length ≤ i
  · rw [if_pos behind, if_pos (by omega), if_pos (by omega),
      List.getD_append_right _ _ _ _ (by omega), List.getD_eq_default xs _ (by omega), Nat.sub_sub]
  · rw [if_neg behind]
    by_cases inside : dst ≤ i
    · rw [if_pos inside, if_pos inside, List.getD_append _ _ _ _ (by omega)]
    · rw [if_neg inside, if_neg inside]

/-- Cells that a copy does not reach. -/
theorem segment_memcpy_apart {dst first : ℕ} (xs : List α)
    (apart : first + n ≤ dst ∨ dst + xs.length ≤ first) :
    segment (memcpy a dst xs) first n = segment a first n :=
  apart.elim (segment_memcpy_before xs) (segment_memcpy_behind xs)

/-- A copy behind an earlier one, of cells that the earlier one did not reach. -/
theorem memcpy_segment {dst first : ℕ} (xs : List α)
    (apart : first + n ≤ dst ∨ dst + xs.length ≤ first) :
    memcpy (memcpy a dst xs) (dst + xs.length) (segment (memcpy a dst xs) first n) =
      memcpy a dst (xs ++ segment a first n) := by
  rw [segment_memcpy_apart xs apart, memcpy_memcpy]

/-- Within one memory, the loop is one copy of words that lie apart from it. -/
theorem moveWords_eq {src dst : ℕ} (apart : src + 2 * n ≤ dst ∨ dst + 2 * n ≤ src) :
    moveWords src dst n a = memcpy a dst (segment a src (2 * n)) := by
  induction n with
  | zero => exact (memcpy_nil a dst).symm
  | succ n ih =>
    have done := ih (by omega)
    have copied : dst + 2 * n = dst + (segment a src (2 * n)).length := by rw [segment_length]
    have unread : segment (memcpy a dst (segment a src (2 * n))) (src + 2 * n) 2 =
        segment a (src + 2 * n) 2 := by
      refine segment_memcpy_apart _ ?_
      rw [segment_length]
      omega
    rw [moveWords, done, unread, copied, memcpy_memcpy, ← segment_add, Nat.mul_succ]

end Zboss.Words
