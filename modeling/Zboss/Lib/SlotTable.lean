import Mathlib.Data.UInt
import Zboss.Lib.Cells

/-!
Fixed tables of slots with a `used` mark in every slot and an octet that counts the
used ones.  The count is kept by the operations alone, so it may drift; `Accounted`
says that it has not.  An operation on a used slot keeps the account, and an account
that shows room finds a free slot.
-/

namespace Zboss.SlotTable

open Zboss.Cells

variable {α : Type*} {size : ℕ}

/-- One slot; the entry stays behind when the slot is given back. -/
structure Slot (α : Type*) where
  used : Bool
  ent : α

/-- `size` slots and the count kept beside them. -/
structure Table (α : Type*) (size : ℕ) where
  slots : ℕ → Slot α
  cnt : UInt8

namespace Table

/-- All slots free and the count zero. -/
def cleared (ent : α) : Table α size := ⟨fun _ => ⟨false, ent⟩, 0⟩

/-- The first used slot whose entry meets the condition. -/
def findEnt (t : Table α size) (cond : α → Bool) : Option ℕ :=
  (List.range size).find? fun i => (t.slots i).used && cond (t.slots i).ent

/-- The first used slot that meets a condition on its number and its entry. -/
def findSlot (t : Table α size) (cond : ℕ → α → Bool) : Option ℕ :=
  (List.range size).find? fun i => (t.slots i).used && cond i (t.slots i).ent

/-- Mark slot `i`. -/
def mark (t : Table α size) (i : ℕ) (used : Bool) : ℕ → Slot α :=
  Function.update t.slots i { t.slots i with used := used }

/-- Take the first free slot and count it. -/
def getEnt (t : Table α size) : Option (ℕ × Table α size) :=
  ((List.range size).find? fun i => !(t.slots i).used).map fun i => (i, ⟨t.mark i true, t.cnt + 1⟩)

/-- Give slot `i` back and count down. -/
def putEnt (t : Table α size) (i : ℕ) : Table α size := ⟨t.mark i false, t.cnt - 1⟩

/-- Rewrite the entry of slot `i`. -/
def modify (t : Table α size) (i : ℕ) (f : α → α) : Table α size :=
  { t with slots := Function.update t.slots i { t.slots i with ent := f (t.slots i).ent } }

/-- Free every slot and reset the count. -/
def clear (t : Table α size) : Table α size := ⟨fun i => { t.slots i with used := false }, 0⟩

/-- How many slots are in use. -/
def usedCnt (t : Table α size) : ℕ := (live t.slots size).countP (·.used)

/-- How many used slots hold an entry that meets the condition. -/
def usedWith (t : Table α size) (p : α → Bool) : ℕ :=
  (live t.slots size).countP fun slot => slot.used && p slot.ent

/-- Some slot is free. -/
def HasFree (t : Table α size) : Prop := ∃ i < size, (t.slots i).used = false

/-- The count is the number of used slots. -/
def Accounted (t : Table α size) : Prop := t.cnt.toNat = t.usedCnt

/-- The used slots are the first `cnt`. -/
def Stacked (t : Table α size) : Prop :=
  t.cnt.toNat ≤ size ∧ ∀ i < size, (t.slots i).used = true ↔ i < t.cnt.toNat

instance (t : Table α size) : Decidable t.Accounted := inferInstanceAs (Decidable (_ = _))

instance (t : Table α size) : Decidable t.HasFree :=
  inferInstanceAs (Decidable (∃ i, i < size ∧ (t.slots i).used = false))

variable {t : Table α size} {i : ℕ}

@[simp] theorem modify_used (f : α → α) (j : ℕ) :
    ((t.modify i f).slots j).used = (t.slots j).used := by
  by_cases same : j = i
  · subst same
    simp [modify]
  · simp [modify, same]

@[simp] theorem modify_ent (f : α → α) : ((t.modify i f).slots i).ent = f (t.slots i).ent := by
  simp [modify]

theorem modify_slots_of_ne (f : α → α) {j : ℕ} (other : j ≠ i) :
    (t.modify i f).slots j = t.slots j := by
  simp [modify, other]

@[simp] theorem mark_used (b : Bool) (j : ℕ) :
    (t.mark i b j).used = if j = i then b else (t.slots j).used := by
  by_cases same : j = i
  · subst same
    simp [mark]
  · simp [mark, same]

@[simp] theorem mark_ent (b : Bool) (j : ℕ) : (t.mark i b j).ent = (t.slots j).ent := by
  by_cases same : j = i
  · subst same
    simp [mark]
  · simp [mark, same]

theorem findEnt_spec {cond : α → Bool} (found : t.findEnt cond = some i) :
    i < size ∧ (t.slots i).used = true ∧ cond (t.slots i).ent = true := by
  have inside := List.mem_range.mp (List.mem_of_find?_eq_some found)
  have holds := List.find?_some found
  simp only [Bool.and_eq_true] at holds
  exact ⟨inside, holds.1, holds.2⟩

theorem findSlot_spec {cond : ℕ → α → Bool} (found : t.findSlot cond = some i) :
    i < size ∧ (t.slots i).used = true ∧ cond i (t.slots i).ent = true := by
  have inside := List.mem_range.mp (List.mem_of_find?_eq_some found)
  have holds := List.find?_some found
  simp only [Bool.and_eq_true] at holds
  exact ⟨inside, holds.1, holds.2⟩

theorem getEnt_spec {t' : Table α size} (got : t.getEnt = some (i, t')) :
    i < size ∧ (t.slots i).used = false ∧ t' = ⟨t.mark i true, t.cnt + 1⟩ ∧
      ∀ j < i, (t.slots j).used = true := by
  simp only [getEnt, Option.map_eq_some_iff, Prod.mk.injEq] at got
  obtain ⟨k, found, rfl, rfl⟩ := got
  have inside := List.mem_range.mp (List.mem_of_find?_eq_some found)
  refine ⟨inside, by simpa using List.find?_some found, rfl, ?_⟩
  intro j before
  simpa using (List.find?_range_eq_some.mp found).2.2 j before

/-! ### The account -/

private theorem pred_toNat {cnt : UInt8} (positive : 0 < cnt.toNat) :
    (cnt - 1).toNat = cnt.toNat - 1 := by
  apply UInt8.toNat_sub_of_le
  rw [UInt8.le_iff_toNat_le, UInt8.toNat_one]
  exact positive

theorem usedCnt_le : t.usedCnt ≤ size := by
  simpa [usedCnt] using List.countP_le_length (p := fun slot : Slot α => slot.used)
    (l := live t.slots size)

theorem usedCnt_congr {s : Table α size} (same : ∀ j < size, (s.slots j).used = (t.slots j).used) :
    s.usedCnt = t.usedCnt := by
  simp only [usedCnt, live, List.countP_map]
  apply List.countP_congr
  intro j member
  simp [same j (List.mem_range.mp member)]

/-- Marking a slot changes the number of used slots by that slot alone. -/
theorem usedCnt_mark (b : Bool) (inside : i < size) (cnt : UInt8) :
    (⟨t.mark i b, cnt⟩ : Table α size).usedCnt + (t.slots i).used.toNat =
      t.usedCnt + b.toNat := by
  have moved := countP_live_update (a := t.slots) (fun slot => slot.used)
    { t.slots i with used := b } inside
  cases b <;> cases now : (t.slots i).used <;> simp_all [usedCnt, mark]

theorem exists_free_of_usedCnt_lt (room : t.usedCnt < size) :
    ∃ i < size, (t.slots i).used = false := by
  by_contra taken
  have every : ∀ slot ∈ live t.slots size, slot.used = true := by
    intro slot member
    obtain ⟨i, inside, rfl⟩ := mem_live.mp member
    by_contra free
    exact taken ⟨i, inside, by simpa using free⟩
  rw [usedCnt, List.countP_eq_length.mpr every, live_length] at room
  exact Nat.lt_irrefl size room

theorem usedCnt_pos (inside : i < size) (inUse : (t.slots i).used = true) : 0 < t.usedCnt := by
  apply List.countP_pos_iff.mpr
  exact ⟨t.slots i, mem_live.mpr ⟨i, inside, rfl⟩, inUse⟩

theorem getEnt_isSome_iff : t.getEnt.isSome = true ↔ t.HasFree := by
  simp [getEnt, HasFree]

/-- An account that shows room finds a free slot. -/
theorem Accounted.getEnt_isSome (account : t.Accounted) (room : t.cnt.toNat < size) :
    t.getEnt.isSome = true := by
  apply getEnt_isSome_iff.mpr
  exact exists_free_of_usedCnt_lt (by rwa [← account])

theorem usedCnt_eq_zero_iff : t.usedCnt = 0 ↔ ∀ i < size, (t.slots i).used = false := by
  simp only [usedCnt, List.countP_eq_zero, Bool.not_eq_true]
  constructor
  · intro free i inside
    exact free _ (mem_live.mpr ⟨i, inside, rfl⟩)
  · intro free slot member
    obtain ⟨i, inside, rfl⟩ := mem_live.mp member
    exact free i inside

theorem accounted_clear : t.clear.Accounted := by
  apply Eq.symm
  exact usedCnt_eq_zero_iff.mpr fun i _ => rfl

theorem Accounted.modify (account : t.Accounted) (f : α → α) : (t.modify i f).Accounted := by
  have same := usedCnt_congr (s := t.modify i f) (t := t) fun j _ => modify_used f j
  rw [Accounted, same]
  exact account

theorem Accounted.getEnt {t' : Table α size} (account : t.Accounted) (small : size < 256)
    (got : t.getEnt = some (i, t')) : t'.Accounted := by
  obtain ⟨inside, free, rfl, -⟩ := getEnt_spec got
  have moved := usedCnt_mark (t := t) true inside (t.cnt + 1)
  have bounded := usedCnt_le (t := (⟨t.mark i true, t.cnt + 1⟩ : Table α size))
  simp only [Accounted, free, Bool.toNat_false, Bool.toNat_true] at account moved ⊢
  rw [UInt8.toNat_add, UInt8.toNat_one]
  omega

theorem Accounted.putEnt (account : t.Accounted) (inside : i < size)
    (inUse : (t.slots i).used = true) : (t.putEnt i).Accounted := by
  have moved := usedCnt_mark (t := t) false inside (t.cnt - 1)
  have positive := usedCnt_pos inside inUse
  have bounded := t.cnt.toNat_lt
  simp only [Accounted, Table.putEnt, inUse, Bool.toNat_false, Bool.toNat_true] at account moved ⊢
  rw [pred_toNat (by omega)]
  omega

/-! ### Entries that meet a condition -/

theorem usedWith_update {p : α → Bool} (inside : i < size) (slot : Slot α) (cnt : UInt8) :
    (⟨Function.update t.slots i slot, cnt⟩ : Table α size).usedWith p +
        ((t.slots i).used && p (t.slots i).ent).toNat =
      t.usedWith p + (slot.used && p slot.ent).toNat := by
  have moved := countP_live_update (a := t.slots) (fun slot => slot.used && p slot.ent) slot inside
  simpa only [usedWith, Bool.toNat, cond_eq_ite] using moved

@[simp] theorem usedWith_cleared (p : α → Bool) (ent : α) :
    (cleared ent : Table α size).usedWith p = 0 := by
  simp only [usedWith, cleared, List.countP_eq_zero]
  intro slot member
  obtain ⟨i, -, rfl⟩ := mem_live.mp member
  simp

/-- An entry written into a free slot adds itself. -/
theorem usedWith_getEnt {p : α → Bool} {t' : Table α size} (got : t.getEnt = some (i, t'))
    (f : α → α) :
    (t'.modify i f).usedWith p = t.usedWith p + (p (f (t.slots i).ent)).toNat := by
  obtain ⟨inside, free, rfl, -⟩ := getEnt_spec got
  have moved := usedWith_update (t := t) (p := p) inside ⟨true, f (t.slots i).ent⟩ (t.cnt + 1)
  simpa [Table.modify, mark, free] using moved

/-- An entry given back takes itself away. -/
theorem usedWith_putEnt {p : α → Bool} (inside : i < size) (used : (t.slots i).used = true) :
    (t.putEnt i).usedWith p + (p (t.slots i).ent).toNat = t.usedWith p := by
  have moved := usedWith_update (t := t) (p := p) inside { t.slots i with used := false }
    (t.cnt - 1)
  simpa [Table.putEnt, mark, used] using moved

theorem usedWith_modify {p : α → Bool} {f : α → α} (same : ∀ ent, p (f ent) = p ent) :
    (t.modify i f).usedWith p = t.usedWith p := by
  simp only [usedWith, live, List.countP_map]
  apply List.countP_congr
  intro j _
  by_cases at_ : j = i
  · subst at_
    simp [same]
  · simp [modify_slots_of_ne f at_]

theorem usedWith_mono {p q : α → Bool} (implies : ∀ ent, p ent = true → q ent = true) :
    t.usedWith p ≤ t.usedWith q := by
  apply List.countP_mono_left
  intro slot _ counted
  simp only [Bool.and_eq_true] at counted ⊢
  exact ⟨counted.1, implies _ counted.2⟩

theorem usedWith_pos_iff {p : α → Bool} :
    0 < t.usedWith p ↔ ∃ i < size, (t.slots i).used = true ∧ p (t.slots i).ent = true := by
  simp only [usedWith, List.countP_pos_iff, Bool.and_eq_true]
  constructor
  · rintro ⟨slot, member, counted⟩
    obtain ⟨i, inside, rfl⟩ := mem_live.mp member
    exact ⟨i, inside, counted⟩
  · rintro ⟨i, inside, counted⟩
    exact ⟨t.slots i, mem_live.mpr ⟨i, inside, rfl⟩, counted⟩

private theorem countP_eq_iff {β : Type*} {l : List β} {p q : β → Bool}
    (implies : ∀ b ∈ l, q b = true → p b = true) :
    l.countP q = l.countP p ↔ ∀ b ∈ l, p b = true → q b = true := by
  induction l with
  | nil => simp
  | cons b rest induction_ =>
    obtain ⟨first, others⟩ := List.forall_mem_cons.mp implies
    have le := List.countP_mono_left others
    have tail := induction_ others
    rw [List.forall_mem_cons, ← tail, List.countP_cons, List.countP_cons]
    cases now : p b with
    | true =>
      cases q b with
      | true => simp
      | false =>
        simp only [if_true, Bool.false_eq_true, if_false, imp_false, not_true_eq_false, false_and,
          iff_false]
        omega
    | false =>
      have gone : q b = false := by
        by_contra held
        rw [first (by simpa using held)] at now
        cases now
      simp [gone]

/-- A table with fewer entries that meet the condition has as many only if it has them all. -/
theorem usedWith_eq_iff {t' : Table α size} {p : α → Bool}
    (thinner : ∀ j < size, (t'.slots j).used = true → p (t'.slots j).ent = true →
      (t.slots j).used = true ∧ p (t.slots j).ent = true) :
    t'.usedWith p = t.usedWith p ↔
      ∀ j < size, (t.slots j).used = true → p (t.slots j).ent = true →
        (t'.slots j).used = true ∧ p (t'.slots j).ent = true := by
  have counts : ∀ s : Table α size, s.usedWith p =
      (List.range size).countP fun j => (s.slots j).used && p (s.slots j).ent := by
    intro s
    simp only [usedWith, live, List.countP_map]
    rfl
  rw [counts, counts, countP_eq_iff]
  · simp only [List.mem_range, Bool.and_eq_true, and_imp]
  · intro j member held
    simp only [Bool.and_eq_true] at held ⊢
    exact thinner j (List.mem_range.mp member) held.1 held.2

/-! ### Tables used as stacks -/

theorem stacked_cleared (ent : α) : (cleared ent : Table α size).Stacked := by
  simp [Stacked, cleared]

private theorem countP_range_lt {n k : ℕ} (le : k ≤ n) :
    (List.range n).countP (fun i => decide (i < k)) = k := by
  induction n with
  | zero => simp [Nat.le_zero.mp le]
  | succ n induction_ =>
    rw [List.range_succ, List.countP_append, List.countP_singleton]
    rcases Nat.lt_or_ge n k with full | early
    · have all : (List.range n).countP (fun i => decide (i < k)) = (List.range n).length := by
        apply List.countP_eq_length.mpr
        intro i member
        simp only [decide_eq_true_eq]
        exact Nat.lt_trans (List.mem_range.mp member) full
      rw [all, List.length_range, if_pos (by simpa using full)]
      omega
    · rw [induction_ early, if_neg (by simpa using early), Nat.add_zero]

theorem Stacked.accounted (stack : t.Stacked) : t.Accounted := by
  have ofRange : t.usedCnt = (List.range size).countP fun i => i < t.cnt.toNat := by
    simp only [usedCnt, live, List.countP_map]
    apply List.countP_congr
    intro i member
    simp [stack.2 i (List.mem_range.mp member)]
  rw [Accounted, ofRange, countP_range_lt stack.1]

theorem Stacked.modify (stack : t.Stacked) (f : α → α) : (t.modify i f).Stacked := by
  refine ⟨stack.1, ?_⟩
  intro j inside
  rw [modify_used]
  exact stack.2 j inside

/-- The slot taken is the one above the stack. -/
theorem Stacked.getEnt {t' : Table α size} (stack : t.Stacked) (small : size < 256)
    (got : t.getEnt = some (i, t')) : t'.Stacked := by
  obtain ⟨inside, free, rfl, below⟩ := getEnt_spec got
  have above : ¬ i < t.cnt.toNat := by
    rw [← stack.2 i inside, free]
    simp
  have top : i = t.cnt.toNat := by
    by_contra apart
    have used := below t.cnt.toNat (by omega)
    rw [stack.2 _ (by omega)] at used
    omega
  have counted : (t.cnt + 1).toNat = t.cnt.toNat + 1 := by
    rw [UInt8.toNat_add, UInt8.toNat_one]
    omega
  refine ⟨by rw [counted]; omega, ?_⟩
  intro j jInside
  rw [mark_used, counted]
  split
  · simp
    omega
  · rw [stack.2 j jInside]
    omega

/-- Giving the top of the stack back. -/
theorem Stacked.putEnt (stack : t.Stacked) (some_ : t.cnt ≠ 0) :
    (t.putEnt (t.cnt.toNat - 1)).Stacked := by
  have positive : 0 < t.cnt.toNat := by
    apply Nat.pos_of_ne_zero
    intro zero
    exact some_ (UInt8.toNat_inj.mp zero)
  have counted := pred_toNat positive
  have within := stack.1
  refine ⟨by rw [Table.putEnt, counted]; omega, ?_⟩
  intro j inside
  simp only [Table.putEnt, mark_used, counted]
  split
  · simp
    omega
  · rw [stack.2 j inside]
    omega

end Table

end Zboss.SlotTable
