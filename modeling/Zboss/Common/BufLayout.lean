import Mathlib
import Zboss.Lib.Cells
import Zboss.Lib.Run

/-!
The layout of a packet buffer (`zb_bufpool.c`): a payload of `len` octets at `data_offset` in a
fixed data area.  Room on the left is made by a slide to the right, and room for a parameter at
the end of the area by a slide to the left; an allocation on the right takes what lies behind the
payload and does not slide.
-/

namespace Zboss.BufLayout

open Zboss.Cells Zboss.Run

def ioBufSize : ℕ := 148

/-- `zb_buf_t` with the two octets of its header that place the payload.  The cells of `buf` from
`ioBufSize` on are the memory behind the data area. -/
structure Buf where
  len : ℕ
  dataOffset : ℕ
  buf : ℕ → UInt8

/-- A pointer into the data area and the octets it is for. -/
structure Span where
  first : ℕ
  count : ℕ
  deriving DecidableEq, Repr

/-- The span lies in the data area. -/
def Span.Inside (s : Span) : Prop := s.first + s.count ≤ ioBufSize

namespace Buf

/-- `zb_buf_initial_alloc`; none, here and below, where an assertion fails. -/
def initialAlloc (b : Buf) (size : ℕ) : Option (Buf × Span) :=
  if size < ioBufSize then
    let offset := (ioBufSize - size) / 2
    some (⟨size, offset, b.buf⟩, ⟨offset, size⟩)
  else none

/-- The slide of `zb_buf_smart_alloc_left`. -/
def slideRight (b : Buf) (size : ℕ) : Buf :=
  if b.dataOffset < size then
    { b with
      buf := memmove b.buf (b.dataOffset + (size - b.dataOffset)) b.dataOffset b.len
      dataOffset := size }
  else b

/-- `zb_buf_smart_alloc_left`. -/
def smartAllocLeft (b : Buf) (size : ℕ) : Option (Buf × Span) :=
  if size + b.len < ioBufSize then
    let b := b.slideRight size
    let offset := b.dataOffset - size
    some (⟨(b.len + size) % 2 ^ 8, offset, b.buf⟩, ⟨offset, size⟩)
  else none

/-- `zb_buf_smart_alloc_right`. -/
def smartAllocRight (b : Buf) (size : ℕ) : Option (Buf × Span) :=
  if size + b.len < ioBufSize then
    some ({ b with len := (b.len + size) % 2 ^ 8 }, ⟨b.dataOffset + b.len, size⟩)
  else none

/-- `zb_buf_cut_left`. -/
def cutLeft (b : Buf) (size : ℕ) : Option (Buf × Span) :=
  if size ≤ b.len then
    let offset := (b.dataOffset + size) % 2 ^ 8
    some (⟨b.len - size, offset, b.buf⟩, ⟨offset, b.len - size⟩)
  else none

/-- `zb_buf_cut_right`. -/
def cutRight (b : Buf) (size : ℕ) : Option Buf :=
  if size ≤ b.len then some { b with len := b.len - size } else none

def getBufTail (b : Buf) (size : ℕ) : Option Span :=
  if b.len + b.dataOffset + size ≤ ioBufSize then some ⟨ioBufSize - size, size⟩ else none

/-- `ZB_SET_BUF_PARAM_PTR`: the parameter is copied to the tail. -/
def setBufParam (b : Buf) (param : List UInt8) : Option (Buf × Span) :=
  (b.getBufTail param.length).map fun tail => ({ b with buf := memcpy b.buf tail.first param }, tail)

/-- The slide of `zb_buf_assign_param`; `delta` is what the tail lacks. -/
def slideLeft (b : Buf) (size : ℕ) : Buf :=
  if ioBufSize < b.dataOffset + b.len + size then
    let delta := b.dataOffset + b.len + size - ioBufSize
    { b with
      buf := memmove b.buf (b.dataOffset - delta) b.dataOffset b.len
      dataOffset := b.dataOffset - delta }
  else b

/-- `zb_buf_assign_param`. -/
def assignParam (b : Buf) (param : List UInt8) : Option (Buf × Span) :=
  if b.len + param.length ≤ ioBufSize then (b.slideLeft param.length).setBufParam param else none

/-- The octets of the payload. -/
def payload (b : Buf) : List UInt8 := segment b.buf b.dataOffset b.len

/-- The payload lies in the data area. -/
def Fits (b : Buf) : Prop := b.dataOffset + b.len ≤ ioBufSize

instance (b : Buf) : Decidable b.Fits := inferInstanceAs (Decidable (_ ≤ _))

variable {b b' : Buf} {size : ℕ} {span : Span} {param : List UInt8}

theorem initialAlloc_spec (done : b.initialAlloc size = some (b', span)) :
    b'.Fits ∧ span = ⟨b'.dataOffset, size⟩ ∧ b'.len = size := by
  unfold initialAlloc at done
  split at done
  · rename_i small
    cases done
    refine ⟨?_, rfl, rfl⟩
    simp only [Fits, ioBufSize] at small ⊢
    omega
  · cases done

/-- A slide makes the room asked for and leaves the payload in order. -/
theorem slideRight_spec (b : Buf) (size : ℕ) :
    size ≤ (b.slideRight size).dataOffset ∧ (b.slideRight size).len = b.len ∧
      (b.slideRight size).payload = b.payload ∧
      ((b.slideRight size).dataOffset = b.dataOffset ∨ (b.slideRight size).dataOffset = size) := by
  unfold slideRight
  split
  · rename_i short
    refine ⟨Nat.le_refl _, rfl, ?_, Or.inr rfl⟩
    have moved : b.dataOffset + (size - b.dataOffset) = size := Nat.add_sub_of_le (Nat.le_of_lt short)
    rw [moved]
    exact segment_memmove size b.dataOffset
  · rename_i room
    exact ⟨Nat.le_of_not_lt room, rfl, rfl, Or.inl rfl⟩

theorem smartAllocLeft_spec (fits : b.Fits) (done : b.smartAllocLeft size = some (b', span)) :
    b'.Fits ∧ span = ⟨b'.dataOffset, size⟩ ∧ b'.len = b.len + size ∧
      b'.payload.drop size = b.payload := by
  unfold smartAllocLeft at done
  split at done
  · rename_i small
    obtain ⟨room, len, payload_, offset⟩ := b.slideRight_spec size
    generalize b.slideRight size = c at *
    dsimp only at done
    have whole : (c.len + size) % 2 ^ 8 = b.len + size := by
      rw [len]
      apply Nat.mod_eq_of_lt
      simp only [ioBufSize] at small
      omega
    rw [whole] at done
    cases done
    refine ⟨?_, rfl, rfl, ?_⟩
    · simp only [Fits, ioBufSize] at fits small ⊢
      omega
    · rw [← payload_, payload, payload, segment_drop, len, Nat.add_sub_cancel,
        Nat.sub_add_cancel room]
  · cases done

/-- An allocation on the right stays inside just when there is room behind the payload. -/
theorem smartAllocRight_spec (done : b.smartAllocRight size = some (b', span)) :
    (b'.Fits ↔ b.dataOffset + b.len + size ≤ ioBufSize) ∧
      span = ⟨b.dataOffset + b.len, size⟩ ∧ b'.len = b.len + size ∧
      b'.payload.take b.len = b.payload := by
  unfold smartAllocRight at done
  split at done
  · rename_i small
    have whole : (b.len + size) % 2 ^ 8 = b.len + size := by
      apply Nat.mod_eq_of_lt
      simp only [ioBufSize] at small
      omega
    rw [whole] at done
    cases done
    refine ⟨?_, rfl, rfl, segment_take (Nat.le_add_right _ _)⟩
    rw [Fits, Nat.add_assoc]
  · cases done

theorem cutLeft_spec (fits : b.Fits) (done : b.cutLeft size = some (b', span)) :
    b'.Fits ∧ span = ⟨b'.dataOffset, b'.len⟩ ∧ b'.payload = b.payload.drop size := by
  unfold cutLeft at done
  split at done
  · rename_i long
    have whole : (b.dataOffset + size) % 2 ^ 8 = b.dataOffset + size := by
      apply Nat.mod_eq_of_lt
      simp only [Fits, ioBufSize] at fits
      omega
    rw [whole] at done
    cases done
    refine ⟨?_, rfl, segment_drop.symm⟩
    simp only [Fits] at fits ⊢
    omega
  · cases done

theorem cutRight_spec (fits : b.Fits) (done : b.cutRight size = some b') :
    b'.Fits ∧ b'.payload = b.payload.take (b.len - size) := by
  unfold cutRight at done
  split at done
  · cases done
    refine ⟨?_, (segment_take (Nat.sub_le _ _)).symm⟩
    simp only [Fits] at fits ⊢
    omega
  · cases done

/-- The parameter stands at the end of the area, behind the payload. -/
theorem setBufParam_spec (done : b.setBufParam param = some (b', span)) :
    b'.Fits ∧ span = ⟨ioBufSize - param.length, param.length⟩ ∧ span.Inside ∧
      b'.payload = b.payload ∧ segment b'.buf span.first span.count = param := by
  obtain ⟨tail, room, same⟩ := Option.map_eq_some_iff.mp done
  unfold getBufTail at room
  split at room
  · rename_i fits
    cases room
    cases same
    have behind : b.dataOffset + b.len ≤ ioBufSize - param.length := by omega
    have small : param.length ≤ ioBufSize := by omega
    refine ⟨Nat.le_trans behind (Nat.sub_le _ _), rfl, ?_, segment_memcpy_before param behind,
      segment_memcpy _ _⟩
    exact Nat.le_of_eq (Nat.sub_add_cancel small)
  · cases room

theorem slideLeft_payload (b : Buf) (size : ℕ) : (b.slideLeft size).payload = b.payload := by
  unfold slideLeft
  split
  · dsimp only
    generalize b.dataOffset + b.len + size - ioBufSize = delta
    exact segment_memmove (b.dataOffset - delta) b.dataOffset
  · rfl

theorem assignParam_spec (done : b.assignParam param = some (b', span)) :
    b'.Fits ∧ span = ⟨ioBufSize - param.length, param.length⟩ ∧ span.Inside ∧
      b'.payload = b.payload ∧ segment b'.buf span.first span.count = param := by
  unfold assignParam at done
  split at done
  · rw [← b.slideLeft_payload param.length]
    exact setBufParam_spec done
  · cases done

end Buf

/-- What is done with a buffer. -/
inductive Op where
  | initialAlloc (size : ℕ)
  | smartAllocLeft (size : ℕ)
  | smartAllocRight (size : ℕ)
  | cutLeft (size : ℕ)
  | cutRight (size : ℕ)
  | setBufParam (param : List UInt8)
  | assignParam (param : List UInt8)

/-- The buffer after the operation and the pointer the caller gets. -/
def Buf.step (b : Buf) : Op → Option (Buf × Option Span)
  | .initialAlloc size => (b.initialAlloc size).map fun (b, span) => (b, some span)
  | .smartAllocLeft size => (b.smartAllocLeft size).map fun (b, span) => (b, some span)
  | .smartAllocRight size => (b.smartAllocRight size).map fun (b, span) => (b, some span)
  | .cutLeft size => (b.cutLeft size).map fun (b, span) => (b, some span)
  | .cutRight size => (b.cutRight size).map (·, none)
  | .setBufParam param => (b.setBufParam param).map fun (b, span) => (b, some span)
  | .assignParam param => (b.assignParam param).map fun (b, span) => (b, some span)

/-- The buffer after the operation; where an assertion fails the program has stopped. -/
def Buf.after (b : Buf) (op : Op) : Buf := (b.step op).elim b Prod.fst

/-- Every assertion of the operation holds. -/
def Passes (b : Buf) (op : Op) : Prop := (b.step op).isSome = true

/-- What becomes of the payload.  An initial allocation starts a new one. -/
def Preserved (b b' : Buf) : Op → Prop
  | .initialAlloc size => b'.len = size
  | .smartAllocLeft size => b'.payload.drop size = b.payload
  | .smartAllocRight _ => b'.payload.take b.len = b.payload
  | .cutLeft size => b'.payload = b.payload.drop size
  | .cutRight size => b'.payload = b.payload.take (b.len - size)
  | .setBufParam _ => b'.payload = b.payload
  | .assignParam _ => b'.payload = b.payload

/-- The operation leaves the payload inside the area, gives a pointer to octets of the area only,
and preserves the payload. -/
structure Safe (b : Buf) (op : Op) : Prop where
  fits : (b.after op).Fits
  inside : ∀ b' span, b.step op = some (b', some span) → span.Inside
  preserved : Preserved b (b.after op) op

/-- Behind the payload there is room for what is allocated on the right. -/
def Roomy (b : Buf) : Op → Prop
  | .smartAllocRight size => b.dataOffset + b.len + size ≤ ioBufSize
  | _ => True

instance (b : Buf) (op : Op) : Decidable (Passes b op) := inferInstanceAs (Decidable (_ = _))

instance (b : Buf) : ∀ op, Decidable (Roomy b op)
  | .smartAllocRight _ => inferInstanceAs (Decidable (_ ≤ _))
  | .initialAlloc _ | .smartAllocLeft _ | .cutLeft _ | .cutRight _ | .setBufParam _
  | .assignParam _ => inferInstanceAs (Decidable True)

variable {b : Buf} {op : Op}

/-- One operation on a payload inside the area is safe just when there is room behind it. -/
theorem safe_iff_step (fits : b.Fits) (passes : Passes b op) : Safe b op ↔ Roomy b op := by
  obtain ⟨⟨b', span⟩, done⟩ := Option.isSome_iff_exists.mp passes
  have after : b.after op = b' := by rw [Buf.after, done]; rfl
  have safe : b'.Fits → (∀ s, span = some s → s.Inside) → Preserved b b' op → Safe b op := by
    intro fits inside preserved
    refine ⟨after ▸ fits, fun c s same => inside s ?_, after ▸ preserved⟩
    exact congrArg Prod.snd (Option.some.inj (done.symm.trans same))
  cases op with
  | initialAlloc size =>
    obtain ⟨⟨c, s⟩, spec, same⟩ := Option.map_eq_some_iff.mp done
    cases same
    obtain ⟨fits, rfl, len⟩ := Buf.initialAlloc_spec spec
    refine iff_of_true (safe fits ?_ len) trivial
    rintro _ ⟨⟩
    exact len ▸ fits
  | smartAllocLeft size =>
    obtain ⟨⟨c, s⟩, spec, same⟩ := Option.map_eq_some_iff.mp done
    cases same
    obtain ⟨fits', rfl, len, preserved⟩ := Buf.smartAllocLeft_spec fits spec
    refine iff_of_true (safe fits' ?_ preserved) trivial
    rintro _ ⟨⟩
    have covered : b'.dataOffset + size ≤ b'.dataOffset + b'.len := by omega
    exact Nat.le_trans covered fits'
  | smartAllocRight size =>
    obtain ⟨⟨c, s⟩, spec, same⟩ := Option.map_eq_some_iff.mp done
    cases same
    obtain ⟨room, rfl, -, preserved⟩ := Buf.smartAllocRight_spec spec
    constructor
    · intro safe
      exact room.mp (after ▸ safe.fits)
    · intro roomy
      refine safe (room.mpr roomy) ?_ preserved
      rintro _ ⟨⟩
      exact roomy
  | cutLeft size =>
    obtain ⟨⟨c, s⟩, spec, same⟩ := Option.map_eq_some_iff.mp done
    cases same
    obtain ⟨fits', rfl, preserved⟩ := Buf.cutLeft_spec fits spec
    refine iff_of_true (safe fits' ?_ preserved) trivial
    rintro _ ⟨⟩
    exact fits'
  | cutRight size =>
    obtain ⟨c, spec, same⟩ := Option.map_eq_some_iff.mp done
    cases same
    obtain ⟨fits', preserved⟩ := Buf.cutRight_spec fits spec
    exact iff_of_true (safe fits' (fun _ absurd_ => nomatch absurd_) preserved) trivial
  | setBufParam param =>
    obtain ⟨⟨c, s⟩, spec, same⟩ := Option.map_eq_some_iff.mp done
    cases same
    obtain ⟨fits', -, inside, preserved, -⟩ := Buf.setBufParam_spec spec
    refine iff_of_true (safe fits' ?_ preserved) trivial
    rintro _ ⟨⟩
    exact inside
  | assignParam param =>
    obtain ⟨⟨c, s⟩, spec, same⟩ := Option.map_eq_some_iff.mp done
    cases same
    obtain ⟨fits', -, inside, preserved, -⟩ := Buf.assignParam_spec spec
    refine iff_of_true (safe fits' ?_ preserved) trivial
    rintro _ ⟨⟩
    exact inside

/-- A sequence of operations whose assertions hold is safe just when every allocation on the
right finds room behind the payload. -/
theorem safe_iff_roomy (b : Buf) (fits : b.Fits) (ops : List Op)
    (passing : Along Buf.after Passes b ops) :
    Along Buf.after Safe b ops ↔ Along Buf.after Roomy b ops := by
  induction ops generalizing b with
  | nil => exact Iff.rfl
  | cons op rest induction_ =>
    have step := safe_iff_step fits passing.1
    constructor
    · rintro ⟨safe, later⟩
      exact ⟨step.mp safe, (induction_ (b.after op) safe.fits passing.2).mp later⟩
    · rintro ⟨roomy, later⟩
      have safe := step.mpr roomy
      exact ⟨safe, (induction_ (b.after op) safe.fits passing.2).mpr later⟩

/-- A frame built from the middle to both sides. -/
def roomyOps : List Op :=
  [.initialAlloc 20, .smartAllocLeft 70, .smartAllocRight 40, .cutLeft 10, .assignParam [1, 2, 3]]

theorem safe_iff_roomy_roomyOps :
    Along Buf.after Safe ⟨0, 0, fun _ => 0⟩ roomyOps ↔
      Along Buf.after Roomy ⟨0, 0, fun _ => 0⟩ roomyOps :=
  safe_iff_roomy ⟨0, 0, fun _ => 0⟩ (by decide) roomyOps (by decide)

/-- The assertion of the allocation on the right does not look at the offset. -/
theorem right_overflows :
    ¬∀ (b : Buf) (ops : List Op), b.Fits → Along Buf.after Passes b ops →
      Along Buf.after Safe b ops := by
  intro claim
  have safe := claim ⟨0, 0, fun _ => 0⟩ [.initialAlloc 20, .smartAllocRight 100] (by decide)
    (by decide)
  exact absurd safe.2.1.fits (by decide)

end Zboss.BufLayout
