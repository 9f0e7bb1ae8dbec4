import Mathlib.Tactic.Common

/-!
A ledger of payloads, each sealed under a key with a count.  It is unambiguous when key
and count determine the payload.  A counter that is above everything a key was used with
may go on to be used with that key.
-/

namespace Zboss.Ledger

variable {κ φ : Type*}

structure Entry (κ φ : Type*) where
  key : κ
  count : ℕ
  payload : φ

/-- The key was used with counts below `n` only. -/
def Below (ledger : List (Entry κ φ)) (k : κ) (n : ℕ) : Prop :=
  ∀ e ∈ ledger, e.key = k → e.count < n

/-- Key and count determine the payload. -/
def Unambiguous (ledger : List (Entry κ φ)) : Prop :=
  ∀ a ∈ ledger, ∀ b ∈ ledger, a.key = b.key → a.count = b.count → a.payload = b.payload

variable {ledger : List (Entry κ φ)} {k : κ} {n m : ℕ} {payload : φ}

theorem Below.nil : Below ([] : List (Entry κ φ)) k n := fun _ mem => by cases mem

theorem Unambiguous.nil : Unambiguous ([] : List (Entry κ φ)) := fun _ mem => by cases mem

theorem Below.mono (below : Below ledger k n) (le : n ≤ m) : Below ledger k m :=
  fun e mem same => Nat.lt_of_lt_of_le (below e mem same) le

/-- After the count `n` was used the counter goes on at `n + 1`. -/
theorem Below.use (below : Below ledger k n) : Below (ledger ++ [⟨k, n, payload⟩]) k (n + 1) := by
  intro e mem same
  obtain old | new := List.mem_append.mp mem
  · exact Nat.lt_succ_of_lt (below e old same)
  · rw [List.mem_singleton.mp new]
    exact Nat.lt_succ_self n

/-- Other keys are not concerned. -/
theorem Below.useOther {k' : κ} (below : Below ledger k m) (other : k' ≠ k) :
    Below (ledger ++ [⟨k', n, payload⟩]) k m := by
  intro e mem same
  obtain old | new := List.mem_append.mp mem
  · exact below e old same
  · rw [List.mem_singleton.mp new] at same
    exact absurd same other

/-- A counter above all uses of its key keeps the ledger unambiguous. -/
theorem Unambiguous.use (unambiguous : Unambiguous ledger) (below : Below ledger k n) :
    Unambiguous (ledger ++ [⟨k, n, payload⟩]) := by
  intro a mem b mem' key_ count_
  obtain old | new := List.mem_append.mp mem <;> obtain old' | new' := List.mem_append.mp mem'
  · exact unambiguous a old b old' key_ count_
  · rw [List.mem_singleton.mp new'] at key_ count_
    have less := below a old key_
    exact absurd count_ (Nat.ne_of_lt less)
  · rw [List.mem_singleton.mp new] at key_ count_
    have less := below b old' key_.symm
    exact absurd count_.symm (Nat.ne_of_lt less)
  · rw [List.mem_singleton.mp new, List.mem_singleton.mp new']

end Zboss.Ledger
