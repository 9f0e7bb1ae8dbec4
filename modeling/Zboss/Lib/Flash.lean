import Mathlib.Data.List.Basic
import Mathlib.Data.List.GetD

/-!
Flash memory.  A write clears the bits that are clear in what is written and can set none; only
the erasure of a whole page sets bits again.  The addresses a write or an erasure reached are
kept, so that what stays inside a region can be said.
-/

namespace Zboss.Flash

/-- The cells, and the addresses reached, the last first. -/
structure Medium (w : ℕ) where
  cell : ℕ → BitVec w
  touched : List ℕ

/-- A cell without a cleared bit. -/
def blank (w : ℕ) : BitVec w := BitVec.allOnes w

variable {w : ℕ}

/-- The bits of `value` are still there to be stored in `cell`. -/
def Fits (cell value : BitVec w) : Prop := cell &&& value = value

instance (cell value : BitVec w) : Decidable (Fits cell value) :=
  inferInstanceAs (Decidable (_ = _))

namespace Medium

/-- Write one cell. -/
def put (f : Medium w) (a : ℕ) (value : BitVec w) : Medium w where
  cell b := if b = a then f.cell b &&& value else f.cell b
  touched := a :: f.touched

/-- Write cells in a row. -/
def program (f : Medium w) (first : ℕ) : List (BitVec w) → Medium w
  | [] => f
  | value :: rest => (f.put first value).program (first + 1) rest

/-- Erase the page of `size` cells that `a` lies in. -/
def erase (f : Medium w) (size a : ℕ) : Medium w where
  cell b := if b / size = a / size then blank w else f.cell b
  touched := List.range' (a / size * size) size ++ f.touched

/-- What the addresses reached since `f` have in common. -/
def Reaches (f g : Medium w) (region : ℕ → Prop) : Prop :=
  ∃ more, g.touched = more ++ f.touched ∧ ∀ a ∈ more, region a

end Medium

open Medium

variable {f : Medium w} {a b first size : ℕ} {value : BitVec w} {values : List (BitVec w)}

@[simp] theorem and_blank (value : BitVec w) : value &&& blank w = value := BitVec.and_allOnes

@[simp] theorem blank_and (value : BitVec w) : blank w &&& value = value := BitVec.allOnes_and

@[simp] theorem fits_blank : Fits (blank w) value := blank_and value

@[simp] theorem fits_self : Fits value value := BitVec.and_self

/-- What two values leave has room for a third exactly when each of them has. -/
theorem fits_and {c d : BitVec w} : Fits (c &&& d) value ↔ Fits c value ∧ Fits d value := by
  constructor
  · intro both
    rw [Fits] at both
    constructor
    · rw [Fits, ← both, ← BitVec.and_assoc, ← BitVec.and_assoc, BitVec.and_self]
    · rw [Fits, ← both, BitVec.and_comm c d, BitVec.and_assoc d, ← BitVec.and_assoc d,
        BitVec.and_self]
  · rintro ⟨left, right⟩
    rw [Fits, BitVec.and_assoc, right, left]

theorem cell_put : (f.put a value).cell b = if b = a then f.cell b &&& value else f.cell b := rfl

/-- A cell after a write. -/
theorem cell_program (values : List (BitVec w)) (first a : ℕ) (f : Medium w) :
    (f.program first values).cell a =
      if first ≤ a then f.cell a &&& values.getD (a - first) (blank w) else f.cell a := by
  induction values generalizing first f with
  | nil =>
    rw [program, List.getD_nil, and_blank]
    exact (ite_self _).symm
  | cons value rest ih =>
    rw [program, ih, cell_put]
    rcases Nat.lt_trichotomy a first with below | rfl | above
    · rw [if_neg (by omega), if_neg (by omega), if_neg (by omega)]
    · rw [if_neg (by omega), if_pos rfl, if_pos (Nat.le_refl _), Nat.sub_self, List.getD_cons_zero]
    · have later : a - first = (a - (first + 1)) + 1 := by omega
      rw [if_pos (by omega), if_neg (by omega), if_pos (by omega), later, List.getD_cons_succ]

/-- Nothing in front of a write changes. -/
theorem cell_program_before (before : a < first) :
    (f.program first values).cell a = f.cell a := by
  rw [cell_program, if_neg (by omega)]

/-- Nothing behind a write changes. -/
theorem cell_program_behind (behind : first + values.length ≤ a) :
    (f.program first values).cell a = f.cell a := by
  rw [cell_program]
  split
  · rw [List.getD_eq_default _ _ (by omega), and_blank]
  · rfl

theorem cell_program_at {i : ℕ} (inside : i < values.length) :
    (f.program first values).cell (first + i) = f.cell (first + i) &&& values[i] := by
  rw [cell_program, if_pos (Nat.le_add_right _ _), Nat.add_sub_cancel_left,
    List.getD_eq_getElem _ _ inside]

/-- Two writes one behind the other are one. -/
theorem program_append (more : List (BitVec w)) :
    f.program first (values ++ more) = (f.program first values).program (first + values.length) more
    := by
  induction values generalizing f first with
  | nil => rfl
  | cons value rest ih =>
    rw [List.cons_append, program, ih, program, List.length_cons, Nat.add_assoc, Nat.add_comm 1]

theorem cell_erase : (f.erase size a).cell b = if b / size = a / size then blank w else f.cell b :=
  rfl

theorem touched_program (values : List (BitVec w)) (first : ℕ) (f : Medium w) :
    (f.program first values).touched = (List.range' first values.length).reverse ++ f.touched := by
  induction values generalizing first f with
  | nil => rfl
  | cons value rest ih =>
    rw [program, ih, List.length_cons, List.range'_succ, List.reverse_cons, List.append_assoc]
    rfl

theorem reaches_program {region : ℕ → Prop} :
    f.Reaches (f.program first values) region ↔
      ∀ a, first ≤ a → a < first + values.length → region a := by
  rw [Medium.Reaches, touched_program]
  constructor
  · rintro ⟨more, same, all⟩ a from_ to_
    have whole := List.append_cancel_right same
    exact all a (whole ▸ List.mem_reverse.mpr (List.mem_range'_1.mpr ⟨from_, to_⟩))
  · intro all
    refine ⟨_, rfl, fun a member => ?_⟩
    obtain ⟨from_, to_⟩ := List.mem_range'_1.mp (List.mem_reverse.mp member)
    exact all a from_ to_

end Zboss.Flash
