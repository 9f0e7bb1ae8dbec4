import Mathlib.Data.Nat.ModEq
import Zboss.Lib.Cells

/-!
A ring buffer: an array with an index to read at, one to write at and the number of cells
written.  The cells written form a queue (`contents`), however often the indices have gone
round.  A cell is reserved and peeked at by its index, so that the caller may fill or read it
before the index moves on.
-/

namespace Zboss

open Cells

/-- A ring buffer of `capacity` cells. -/
structure RingBuffer (α : Type*) (capacity : ℕ) where
  ringBuf : ℕ → α
  readI : ℕ
  writeI : ℕ
  written : ℕ

namespace RingBuffer

variable {α : Type*} {capacity : ℕ}

/-- The empty ring buffer; what the cells hold does not matter. -/
def init (ringBuf : ℕ → α) : RingBuffer α capacity := ⟨ringBuf, 0, 0, 0⟩

def isFull (rb : RingBuffer α capacity) : Bool := decide (capacity ≤ rb.written)

def isEmpty (rb : RingBuffer α capacity) : Bool := decide (rb.written = 0)

/-- The cell the next value goes to. -/
def putReserve (rb : RingBuffer α capacity) : Option ℕ :=
  if rb.isFull then none else some rb.writeI

/-- Write a cell. -/
def fill (rb : RingBuffer α capacity) (i : ℕ) (x : α) : RingBuffer α capacity :=
  { rb with ringBuf := Function.update rb.ringBuf i x }

/-- The cell reserved has been written. -/
def flushPut (rb : RingBuffer α capacity) : RingBuffer α capacity :=
  { rb with written := rb.written + 1, writeI := (rb.writeI + 1) % capacity }

/-- The cell the next value is in. -/
def peek (rb : RingBuffer α capacity) : Option ℕ := if rb.isEmpty then none else some rb.readI

/-- The cell peeked at is done with. -/
def flushGet (rb : RingBuffer α capacity) : RingBuffer α capacity :=
  { rb with written := rb.written - 1, readI := (rb.readI + 1) % capacity }

/-- The values written and not yet taken, oldest first. -/
def contents (rb : RingBuffer α capacity) : List α :=
  segment (fun i => rb.ringBuf (i % capacity)) rb.readI rb.written

/-- The write index is where the contents end. -/
structure Sound (rb : RingBuffer α capacity) : Prop where
  inside : rb.readI < capacity
  fits : rb.written ≤ capacity
  ends : rb.writeI = (rb.readI + rb.written) % capacity

variable {rb : RingBuffer α capacity} {x : α}

@[simp] theorem contents_length : rb.contents.length = rb.written := segment_length _

theorem Sound.init (positive : 0 < capacity) (ringBuf : ℕ → α) :
    Sound (init ringBuf : RingBuffer α capacity) where
  inside := positive
  fits := Nat.zero_le _
  ends := (Nat.zero_mod _).symm

theorem putReserve_eq_none (sound : rb.Sound) :
    rb.putReserve = none ↔ rb.contents.length = capacity := by
  rw [putReserve, isFull, contents_length]
  have fits := sound.fits
  constructor
  · intro full
    split at full
    · rename_i reached
      exact Nat.le_antisymm fits (of_decide_eq_true reached)
    · cases full
  · intro full
    rw [if_pos (decide_eq_true full.ge)]

/-- A value put comes last; the cells between the indices are not touched. -/
theorem contents_put (sound : rb.Sound) {i : ℕ} (reserved : rb.putReserve = some i) (x : α) :
    (rb.fill i x).flushPut.contents = rb.contents ++ [x] := by
  have room : rb.written < capacity := by
    by_contra full
    rw [putReserve, isFull, if_pos (decide_eq_true (Nat.le_of_not_lt full))] at reserved
    cases reserved
  have place : i = (rb.readI + rb.written) % capacity := by
    rw [putReserve, isFull, if_neg (by simpa using room)] at reserved
    exact (Option.some.inj reserved).symm.trans sound.ends
  have old : segment (fun j => Function.update rb.ringBuf i x (j % capacity)) rb.readI rb.written =
      rb.contents := by
    apply segment_congr
    intro j first last
    apply Function.update_of_ne
    intro same
    rw [place] at same
    have apart := (Nat.modEq_iff_dvd' (Nat.le_of_lt last)).mp same
    have short := Nat.le_of_dvd (Nat.sub_pos_of_lt last) apart
    omega
  calc (rb.fill i x).flushPut.contents
      = segment (fun j => Function.update rb.ringBuf i x (j % capacity)) rb.readI
          (rb.written + 1) := rfl
    _ = segment (fun j => Function.update rb.ringBuf i x (j % capacity)) rb.readI rb.written ++
          [Function.update rb.ringBuf i x ((rb.readI + rb.written) % capacity)] :=
        live_succ _ _
    _ = rb.contents ++ [x] := by rw [old, place, Function.update_self]

theorem Sound.put (sound : rb.Sound) {i : ℕ} (reserved : rb.putReserve = some i) (x : α) :
    (rb.fill i x).flushPut.Sound where
  inside := sound.inside
  fits := by
    by_contra full
    have reached : capacity ≤ rb.written := Nat.le_of_lt_succ (Nat.lt_of_not_le full)
    rw [putReserve, isFull, if_pos (decide_eq_true reached)] at reserved
    cases reserved
  ends := by
    show (rb.writeI + 1) % capacity = (rb.readI + (rb.written + 1)) % capacity
    rw [sound.ends, Nat.mod_add_mod, Nat.add_assoc]

theorem peek_eq_none : rb.peek = none ↔ rb.contents = [] := by
  rw [← List.length_eq_zero_iff, contents_length, peek, isEmpty]
  split <;> simp_all

/-- The cell peeked at holds the oldest value. -/
theorem head_contents (sound : rb.Sound) {i : ℕ} (here : rb.peek = some i) :
    rb.contents.head? = some (rb.ringBuf i) := by
  rw [peek, isEmpty] at here
  split at here
  · cases here
  · rename_i some_
    cases here
    have first : 0 < rb.contents.length := by
      rw [contents_length]
      exact Nat.pos_of_ne_zero (by simpa using some_)
    rw [List.head?_eq_getElem?, List.getElem?_eq_getElem first]
    simp only [contents, segment_getElem, Nat.add_zero, Nat.mod_eq_of_lt sound.inside]

theorem contents_flushGet : rb.flushGet.contents = rb.contents.tail := by
  rw [← List.drop_one, contents, contents, segment_drop]
  apply List.ext_getElem
  · simp [flushGet]
  · intro i left right
    simp [flushGet]

theorem Sound.flushGet (sound : rb.Sound) (some_ : rb.contents ≠ []) : rb.flushGet.Sound where
  inside := Nat.mod_lt _ (Nat.lt_of_le_of_lt (Nat.zero_le _) sound.inside)
  fits := (Nat.sub_le _ _).trans sound.fits
  ends := by
    have positive : 0 < rb.written := by
      rw [← contents_length]
      exact List.length_pos_iff.mpr some_
    show rb.writeI = ((rb.readI + 1) % capacity + (rb.written - 1)) % capacity
    rw [Nat.mod_add_mod, sound.ends, Nat.add_assoc, Nat.add_sub_cancel' positive]

end RingBuffer

end Zboss
