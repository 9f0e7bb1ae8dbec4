import Mathlib.Data.Nat.Notation

/-!
What can go wrong while a buffer is parsed: octets behind its end are reached, a length is
subtracted from a smaller one, a variable is used that was not assigned.  A scan moves a
pointer over the octets it reaches; it stays inside exactly when its pointer does.
-/

namespace Zboss.Extent

/-- One thing a parser does. -/
inductive Access
  | octets (first count : ℕ)
  | minus (whole part : ℕ)
  | value (assigned : Bool)
  deriving DecidableEq, Repr

/-- The access is fine in a buffer of `len` octets. -/
def Access.Within (len : ℕ) : Access → Prop
  | .octets first count => first + count ≤ len
  | .minus whole part => part ≤ whole
  | .value assigned => assigned = true

instance withinDecidable (len : ℕ) : ∀ access : Access, Decidable (access.Within len)
  | .octets _ _ => inferInstanceAs (Decidable (_ ≤ _))
  | .minus _ _ => inferInstanceAs (Decidable (_ ≤ _))
  | .value _ => inferInstanceAs (Decidable (_ = _))

/-- All accesses are fine. -/
def Within (len : ℕ) (accesses : List Access) : Prop := ∀ access ∈ accesses, access.Within len

instance (len : ℕ) (accesses : List Access) : Decidable (Within len accesses) :=
  inferInstanceAs (Decidable (∀ access ∈ accesses, access.Within len))

variable {len : ℕ} {accesses : List Access}

@[simp] theorem octets_within {first count : ℕ} :
    (Access.octets first count).Within len ↔ first + count ≤ len := Iff.rfl

@[simp] theorem minus_within {whole part : ℕ} :
    (Access.minus whole part).Within len ↔ part ≤ whole := Iff.rfl

@[simp] theorem value_within {assigned : Bool} :
    (Access.value assigned).Within len ↔ assigned = true := Iff.rfl

@[simp] theorem within_nil : Within len [] := fun _ member => nomatch member

@[simp] theorem within_cons {access : Access} :
    Within len (access :: accesses) ↔ access.Within len ∧ Within len accesses :=
  List.forall_mem_cons

@[simp] theorem within_append {more : List Access} :
    Within len (accesses ++ more) ↔ Within len accesses ∧ Within len more :=
  List.forall_mem_append

/-- A pointer and what was done on its way. -/
structure Scan where
  ptr : ℕ
  accesses : List Access

namespace Scan

/-- A pointer at `ptr`. -/
def start (ptr : ℕ) : Scan := ⟨ptr, []⟩

/-- Reach the next `count` octets and move behind them. -/
def next (count : ℕ) (s : Scan) : Scan := ⟨s.ptr + count, s.accesses ++ [.octets s.ptr count]⟩

/-- Where the scan may start, it stays inside exactly when its pointer does. -/
def Covers (first : ℕ) (s : Scan) : Prop :=
  ∀ len, first ≤ len → (Within len s.accesses ↔ s.ptr ≤ len)

variable {first : ℕ} {s : Scan}

theorem covers_start : (start first).Covers first := fun _ inside => by simp [start, inside]

theorem Covers.next (covers : s.Covers first) (count : ℕ) : (s.next count).Covers first := by
  intro len inside
  simp only [Scan.next, within_append, within_cons, within_nil, octets_within, and_true]
  rw [covers len inside]
  omega

end Scan

end Zboss.Extent
