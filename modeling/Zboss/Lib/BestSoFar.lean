import Mathlib.Data.List.Perm.Basic

/-!
One pass over a list that keeps the best element so far: an element that fits takes the place
where it beats the one that is there.  Where `beats` is transitive, what is left at the end is
the last of the leaders, and nobody beats it.
-/

namespace Zboss.BestSoFar

variable {α : Type*} (fits : α → Bool) (beats : α → α → Bool)

/-- One turn. -/
def next (x : α) (best : Option α) : Option α :=
  if fits x && best.all (beats x) then some x else best

def pass : List α → Option α → Option α
  | [], best => best
  | x :: rest, best => pass rest (next fits beats x best)

/-- The leaders: the first element that fits, of those behind it that beat it again the first, and
so on. -/
def leaders : List α → List α
  | [] => []
  | x :: rest => if fits x then x :: leaders (rest.filter (beats · x)) else leaders rest
termination_by list => list.length
decreasing_by
  · rw [@List.unattach_filter _ _ _ _ (beats · x) fun _ _ => rfl, List.unattach_attach]
    exact Nat.lt_succ_of_le (List.length_filter_le _ _)
  · exact Nat.lt_succ_self _

variable {fits beats} {list : List α} {best : Option α} {r : α}

section Order

variable (transitive : ∀ x y z, beats x y = true → beats y z = true → beats x z = true)
include transitive

end Order

end Zboss.BestSoFar
