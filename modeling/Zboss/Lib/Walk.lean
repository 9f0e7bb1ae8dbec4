import Mathlib.Logic.Relation
import Mathlib.Order.Basic
import Mathlib.Tactic.Common

/-!
Walks along a partial next-hop function.  A rank that falls with every hop bounds
the number of hops to the goal; a set of places that no hop leaves and that lacks
the goal shows that it is never reached.  A rank that falls along every edge of a relation
falls along every path, so there is no cycle.
-/

namespace Zboss.Walk

variable {α : Type*}

/-- The goal is reached in at most `n` hops. -/
def Arrives (next : α → Option α) (goal : α) : ℕ → α → Prop
  | 0, a => a = goal
  | n + 1, a => a = goal ∨ ∃ b, next a = some b ∧ Arrives next goal n b

variable {next : α → Option α} {goal : α}

/-- When every hop lowers the rank, the rank bounds the number of hops. -/
theorem arrives_of_rank {Rank : ℕ → α → Prop}
    (progress : ∀ n a, Rank n a → a ≠ goal → ∃ b m, next a = some b ∧ Rank m b ∧ m < n)
    {n bound : ℕ} {a : α} (ranked : Rank n a) (bounded : n ≤ bound) :
    Arrives next goal bound a := by
  induction bound generalizing n a with
  | zero =>
    by_contra away
    obtain ⟨b, m, -, -, less⟩ := progress n a ranked away
    omega
  | succ bound induction_ =>
    by_cases here : a = goal
    · exact .inl here
    · obtain ⟨b, m, hop, ranked', less⟩ := progress n a ranked here
      exact .inr ⟨b, hop, induction_ ranked' (by omega)⟩

/-- A walk does not leave a set that is closed under hops. -/
theorem not_arrives_of_closed (Trap : α → Prop)
    (closed : ∀ a b, Trap a → next a = some b → Trap b) (apart : ¬ Trap goal) (n : ℕ) {a : α}
    (inside : Trap a) : ¬ Arrives next goal n a := by
  induction n generalizing a with
  | zero =>
    intro here
    exact apart (here ▸ inside)
  | succ n induction_ =>
    rintro (here | ⟨b, hop, rest⟩)
    · exact apart (here ▸ inside)
    · exact induction_ (closed a b inside hop) rest

/-! ### Relations -/

section Relations

variable {β : Type*} [Preorder β] {edge : α → α → Prop} {rank : α → Option β}

/-- A rank may be missing only at the end of a path. -/
theorem falls_along
    (falls : ∀ a b, edge a b → ∃ x, rank a = some x ∧ ∀ y, rank b = some y → y < x) {a b : α}
    (path : Relation.TransGen edge a b) :
    ∃ x, rank a = some x ∧ ∀ y, rank b = some y → y < x := by
  induction path with
  | single first => exact falls _ _ first
  | tail _ last induction_ =>
    obtain ⟨x, ranked, less⟩ := induction_
    obtain ⟨z, ranked', less'⟩ := falls _ _ last
    refine ⟨x, ranked, ?_⟩
    intro y final
    exact lt_trans (less' y final) (less z ranked')

theorem no_cycle
    (falls : ∀ a b, edge a b → ∃ x, rank a = some x ∧ ∀ y, rank b = some y → y < x) (a : α) :
    ¬ Relation.TransGen edge a a := by
  intro cycle
  obtain ⟨x, ranked, less⟩ := falls_along falls cycle
  exact lt_irrefl x (less x ranked)

end Relations

end Zboss.Walk
