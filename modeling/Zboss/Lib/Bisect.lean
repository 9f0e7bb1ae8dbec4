import Mathlib.Data.Nat.Notation

/-!
Binary search over an index interval, in the form C code writes it: halve
`[l, r)` until it is empty, going right exactly when the test holds of the
middle.  For a test that holds on a prefix of the interval the result is the
length of that prefix (`bisect_spec`).
-/

namespace Zboss.Bisect

/-- `while (l < r) { i = l + (r - l) / 2; if (p i) l = i + 1; else r = i; }`.
The interval shrinks in every round, so its length is fuel enough. -/
def bisect (p : ℕ → Bool) : ℕ → ℕ → ℕ → ℕ
  | 0, l, _ => l
  | fuel + 1, l, r =>
    if l < r then
      let i := l + (r - l) / 2
      if p i then bisect p fuel (i + 1) r else bisect p fuel l i
    else l

variable {p : ℕ → Bool}

/-- The search stops at the boundary of a test that holds on a prefix. -/
theorem bisect_spec (fuel l r : ℕ) (ordered : l ≤ r) (enough : r - l ≤ fuel)
    (prefixed : ∀ i j, l ≤ i → i ≤ j → j < r → p j = true → p i = true) :
    l ≤ bisect p fuel l r ∧ bisect p fuel l r ≤ r ∧
      (∀ i, l ≤ i → i < bisect p fuel l r → p i = true) ∧
      ∀ i, bisect p fuel l r ≤ i → i < r → p i = false := by
  induction fuel generalizing l r with
  | zero =>
    rw [bisect]
    exact ⟨Nat.le_refl l, ordered, fun i low high => by omega, fun i low high => by omega⟩
  | succ fuel induction_ =>
    rw [bisect]
    by_cases nonempty : l < r
    · rw [if_pos nonempty]
      generalize middleDef : l + (r - l) / 2 = middle
      have above : l ≤ middle := by omega
      have below : middle < r := by omega
      dsimp only
      cases test : p middle with
      | true =>
        rw [if_pos rfl]
        obtain ⟨lower, upper, yes, no⟩ := induction_ (middle + 1) r (by omega) (by omega)
          fun i j low middle_ high holds => prefixed i j (by omega) middle_ high holds
        refine ⟨by omega, upper, fun i low high => ?_, no⟩
        by_cases left : i ≤ middle
        · exact prefixed i middle low left below test
        · exact yes i (by omega) high
      | false =>
        rw [if_neg (by simp)]
        obtain ⟨lower, upper, yes, no⟩ := induction_ l middle above (by omega)
          fun i j low middle_ high holds => prefixed i j low middle_ (by omega) holds
        refine ⟨lower, by omega, yes, fun i low high => ?_⟩
        by_cases left : i < middle
        · exact no i low left
        · cases holds : p i with
          | false => rfl
          | true =>
            have := prefixed middle i above (by omega) high holds
            simp [test] at this
    · rw [if_neg nonempty]
      exact ⟨Nat.le_refl l, ordered, fun i low high => by omega, fun i low high => by omega⟩

end Zboss.Bisect
