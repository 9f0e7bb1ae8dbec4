import Zboss.Lib.Run
import Zboss.Nwk.NeighborTable

/-!
The index of the neighbour table over whole runs.  Packing, deleting and promoting
keep `addr_to_neighbor` the inverse of the used base entries; the exceptions are
the promotion that does not look whether the device is known already, writes that miss
their table, and octets of extended entries that read as used base entries once the
discovery is over.
-/

namespace Zboss.NeighborTable

open Zboss.AddressTable Zboss.Run

/-- The device a base entry describes. -/
def deviceOf (t : NeighborTbl) (n : ℕ) : Option ℕ :=
  if (t.baseNeighbor n).used then some (t.baseNeighbor n).addrRef else none

/-- Where the index finds a device. -/
def indexOf (t : NeighborTbl) (ref : ℕ) : Option ℕ :=
  if t.addrToNeighbor ref = 0xff then none else some (t.addrToNeighbor ref)

/-- The index is the inverse of the used entries, which lie below
`base_neighbor_used`. -/
structure Consistent (t : NeighborTbl) : Prop where
  inverse : ReverseIndex (deviceOf t) (indexOf t)
  below : ∀ n, (t.baseNeighbor n).used = true → n < t.baseNeighborUsed
  room : t.baseNeighborUsed ≤ t.baseNeighborSize
  size : t.baseNeighborSize ≤ neighborTableSize

/-! ## Updates of the table -/

section

variable {t : NeighborTbl} {n : ℕ}

theorem deviceOf_setBase (ent : NeighborTblEnt) (n : ℕ) :
    deviceOf (t.setBase n ent) =
      Function.update (deviceOf t) n (if ent.used then some ent.addrRef else none) := by
  funext m
  by_cases same : m = n
  · subst same
    simp [deviceOf]
  · simp [deviceOf, same]

theorem indexOf_setIndex (ref n : ℕ) :
    indexOf (t.setIndex ref n) =
      Function.update (indexOf t) ref (if n = 0xff then none else some n) := by
  funext r
  by_cases same : r = ref
  · subst same
    simp [indexOf]
  · simp [indexOf, same]

theorem indexOf_eq_some {ref : ℕ} (present : n ≠ 0xff) :
    indexOf t ref = some n ↔ t.addrToNeighbor ref = n := by
  unfold indexOf
  split
  · next absent =>
    constructor
    · intro impossible
      cases impossible
    · intro found
      exact absurd (found.symm.trans absent) present
  · simp

theorem indexOf_eq_none {ref : ℕ} : indexOf t ref = none ↔ t.addrToNeighbor ref = 0xff := by
  unfold indexOf
  split <;> simp_all

theorem deviceOf_eq_some {ref : ℕ} : deviceOf t n = some ref ↔
    (t.baseNeighbor n).used = true ∧ (t.baseNeighbor n).addrRef = ref := by
  unfold deviceOf
  split <;> simp_all

theorem deviceOf_eq_none : deviceOf t n = none ↔ (t.baseNeighbor n).used = false := by
  unfold deviceOf
  split <;> simp_all

end

namespace Consistent

variable {t : NeighborTbl}

/-- Nothing but the entries, the index and the sizes matters. -/
theorem congr {t' : NeighborTbl} (consistent : Consistent t)
    (base : t'.baseNeighbor = t.baseNeighbor) (index : t'.addrToNeighbor = t.addrToNeighbor)
    (used : t'.baseNeighborUsed = t.baseNeighborUsed)
    (room : t.baseNeighborUsed ≤ t'.baseNeighborSize)
    (size : t'.baseNeighborSize ≤ neighborTableSize) : Consistent t' where
  inverse := by
    have devices : deviceOf t' = deviceOf t := by
      funext n
      rw [deviceOf, deviceOf, base]
    have indexes : indexOf t' = indexOf t := by
      funext ref
      rw [indexOf, indexOf, index]
    rw [devices, indexes]
    exact consistent.inverse
  below := by
    rw [base, used]
    exact consistent.below
  room := used ▸ room
  size := size

/-- An index cell that is set leads to a used entry of its device. -/
theorem found (consistent : Consistent t) {ref : ℕ} (present : t.addrToNeighbor ref ≠ 0xff) :
    deviceOf t (t.addrToNeighbor ref) = some ref :=
  (consistent.inverse _ _).mp ((indexOf_eq_some present).mpr rfl)

/-- A free place behind the used entries. -/
theorem unused (consistent : Consistent t) {n : ℕ} (behind : t.baseNeighborUsed ≤ n) :
    deviceOf t n = none := by
  rw [deviceOf_eq_none]
  cases used : (t.baseNeighbor n).used with
  | false => rfl
  | true => exact absurd (consistent.below n used) (Nat.not_lt.mpr behind)

/-- Appending an entry for a device that has none. -/
theorem append (consistent : Consistent t) {ref : ℕ} {ent : NeighborTblEnt}
    (free : t.baseNeighborUsed < t.baseNeighborSize) (absent : t.addrToNeighbor ref = 0xff)
    (used : ent.used = true) (own : ent.addrRef = ref) : Consistent (appendBase t ref ent) where
  inverse := by
    have size := consistent.size
    have place : t.baseNeighborUsed ≠ 0xff := by
      rw [neighborTableSize] at size
      omega
    have devices : deviceOf (appendBase t ref ent) =
        Function.update (deviceOf t) t.baseNeighborUsed (some ref) := by
      rw [← own, ← if_pos (c := ent.used = true) (t := some ent.addrRef) (e := none) used]
      exact deviceOf_setBase ent t.baseNeighborUsed
    have indexes : indexOf (appendBase t ref ent) =
        Function.update (indexOf t) ref (some t.baseNeighborUsed) := by
      rw [← if_neg (c := t.baseNeighborUsed = 0xff) (t := none) (e := some t.baseNeighborUsed) place]
      exact indexOf_setIndex ref t.baseNeighborUsed
    rw [devices, indexes]
    exact consistent.inverse.fill (consistent.unused (Nat.le_refl _)) (indexOf_eq_none.mpr absent)
  below n isUsed := by
    change n < t.baseNeighborUsed + 1
    by_cases last : n = t.baseNeighborUsed
    · omega
    · have earlier : (t.baseNeighbor n).used = true := by
        simpa [appendBase, last] using isUsed
      exact Nat.lt_succ_of_lt (consistent.below n earlier)
  room := free
  size := consistent.size

/-- Updating an entry in use, which stays with its device. -/
theorem update (consistent : Consistent t) {n ref : ℕ} {ent : NeighborTblEnt}
    (held : deviceOf t n = some ref) (used : ent.used = true) (own : ent.addrRef = ref) :
    Consistent (t.setBase n ent) where
  inverse := by
    have devices : deviceOf (t.setBase n ent) = deviceOf t := by
      rw [deviceOf_setBase, if_pos used, own, ← held, Function.update_eq_self]
    rw [devices]
    exact consistent.inverse
  below m isUsed := by
    by_cases same : m = n
    · subst same
      exact consistent.below m (deviceOf_eq_some.mp held).1
    · apply consistent.below m
      simpa [same] using isUsed
  room := consistent.room
  size := consistent.size

theorem neighborDelete (consistent : Consistent t) (ref : ℕ) :
    Consistent (neighborDelete t ref) := by
  unfold NeighborTable.neighborDelete
  dsimp only
  split
  · next present =>
    have held := consistent.found present
    refine ⟨?_, fun n isUsed => ?_, consistent.room, consistent.size⟩
    · rw [deviceOf_setBase]
      have indexes : indexOf ((t.setIndex ref 0xff).setBase (t.addrToNeighbor ref)
          (t.baseNeighbor (t.addrToNeighbor ref)).unused) =
          Function.update (indexOf t) ref none := indexOf_setIndex ref 0xff
      rw [indexes]
      exact consistent.inverse.clear held
    · apply consistent.below n
      by_cases same : n = t.addrToNeighbor ref
      · subst same
        exact (deviceOf_eq_some.mp held).1
      · simpa [same] using isUsed
  · exact consistent

/-- Moving an entry to the left, into a hole. -/
theorem moveBase (consistent : Consistent t) {i place : ℕ} (used : (t.baseNeighbor i).used = true)
    (hole : (t.baseNeighbor place).used = false) (left : place < i) :
    Consistent (moveBase t i place) where
  inverse := by
    have inside := consistent.below i used
    have room := consistent.room
    have size := consistent.size
    have held : deviceOf t i = some (t.baseNeighbor i).addrRef := deviceOf_eq_some.mpr ⟨used, rfl⟩
    have octet : place ≠ 0xff := by
      rw [neighborTableSize] at size
      omega
    have devices : deviceOf (NeighborTable.moveBase t i place) =
        Function.update (Function.update (deviceOf t) i none) place
          (some (t.baseNeighbor i).addrRef) := by
      rw [Function.update_comm (Nat.ne_of_gt left), ← if_pos (c := (t.baseNeighbor i).used = true)
        (t := some (t.baseNeighbor i).addrRef) (e := none) used, ← deviceOf_setBase]
      exact deviceOf_setBase _ i
    have indexes : indexOf (NeighborTable.moveBase t i place) =
        Function.update (indexOf t) (t.baseNeighbor i).addrRef (some place) := by
      rw [← if_neg (c := place = 0xff) (t := none) (e := some place) octet]
      exact indexOf_setIndex _ place
    rw [devices, indexes]
    exact consistent.inverse.move held (deviceOf_eq_none.mpr hole)
  below n isUsed := by
    have inside := consistent.below i used
    change n < t.baseNeighborUsed
    by_cases atPlace : n = place
    · omega
    · by_cases atSource : n = i
      · omega
      · apply consistent.below n
        simpa [NeighborTable.moveBase, atPlace, atSource] using isUsed
  room := consistent.room
  size := consistent.size

theorem promote (consistent : Consistent t) (ext : ExtNeighborTblEnt) (ref : ℕ) :
    Consistent (promote t ext ref) := by
  unfold NeighborTable.promote
  dsimp only
  split
  · next present => exact consistent.update (consistent.found present) rfl rfl
  · next absent =>
    split
    · next free => exact consistent.append free (not_not.mp absent) rfl rfl
    · exact consistent

end Consistent

/-! ## Sizes -/

/-- The bytes of the base array are enough for both tables.  Only a table whose entries
are all taken is left without extended entries. -/
structure Sized (t : NeighborTbl) : Prop where
  used : t.extNeighborUsed ≤ t.extNeighborSize
  uncut : t.extNeighborSize = 0 → t.baseNeighborSize = neighborTableSize ∨
    t.baseNeighborUsed = t.baseNeighborSize ∧ neighborTableSize ≤ t.baseNeighborSize + 1
  area : linuxSizes.ExtApart t → t.baseNeighborSize * linuxSizes.base +
    t.extNeighborSize * linuxSizes.ext ≤ neighborTableSize * linuxSizes.base
  bytes : t.baseNeighborSize * linuxSizes.base +
    t.extNeighborUsed * linuxSizes.ext ≤ neighborTableSize * linuxSizes.base

/-- The invariant of the table. -/
structure Invariant (t : NeighborTbl) : Prop where
  consistent : Consistent t
  sized : Sized t

theorem init_invariant : Invariant .init where
  consistent :=
    { inverse := fun n ref => by simp [indexOf, deviceOf, NeighborTbl.init, NeighborTblEnt.zero]
      below := fun n isUsed => by simp [NeighborTbl.init, NeighborTblEnt.zero] at isUsed
      room := Nat.zero_le _
      size := Nat.le_refl _ }
  sized :=
    { used := Nat.le_refl _
      uncut := fun _ => .inl rfl
      area := fun apart => by
        simp [Sizes.ExtApart, NeighborTbl.init, neighborTableSize] at apart
      bytes := Nat.le_refl _ }

/-- Appending below the end keeps the sizes. -/
theorem Sized.appendBase {t : NeighborTbl} (sized : Sized t) {ref : ℕ} {ent : NeighborTblEnt}
    (free : t.baseNeighborUsed < t.baseNeighborSize) : Sized (appendBase t ref ent) where
  used := sized.used
  uncut none := by
    rcases sized.uncut none with whole | ⟨full, -⟩
    · exact .inl whole
    · exact absurd full (Nat.ne_of_lt free)
  area := sized.area
  bytes := sized.bytes

/-- The cut leaves the entries in use, and room for the extended ones. -/
structure CutFits (size used : ℕ) : Prop where
  kept : used ≤ cutSize size used
  shorter : cutSize size used ≤ neighborTableSize
  uncut : linuxSizes.extCount (cutOff size used) (cutSize size used) = 0 →
    cutSize size used = neighborTableSize ∨
      used = cutSize size used ∧ neighborTableSize ≤ cutSize size used + 1
  area : cutSize size used * linuxSizes.base ≤ linuxSizes.extStart (cutSize size used) →
    cutSize size used * linuxSizes.base +
      linuxSizes.extCount (cutOff size used) (cutSize size used) * linuxSizes.ext ≤
        neighborTableSize * linuxSizes.base

instance (size used : ℕ) : Decidable (CutFits size used) :=
  decidable_of_iff (_ ∧ _ ∧ (_ → _) ∧ (_ → _))
    ⟨fun ⟨kept, shorter, uncut, area⟩ => ⟨kept, shorter, uncut, area⟩,
      fun fits => ⟨fits.kept, fits.shorter, fits.uncut, fits.area⟩⟩

/-- The arithmetic of the cut, for every number of entries in use. -/
theorem cut_fits : ∀ used < neighborTableSize + 1, ∀ size < neighborTableSize + 1,
    (size = neighborTableSize ∨ used = size ∧ neighborTableSize ≤ size + 1) → used ≤ size →
      CutFits size used := by
  decide +kernel

/-- Cutting the table: the packed entries stay in front of the cut. -/
theorem cutExt_invariant {t : NeighborTbl} (consistent : Consistent t) (sized : Sized t)
    (none : t.extNeighborSize = 0) : Invariant (linuxSizes.cutExt t) := by
  have size := consistent.size
  have fits := cut_fits t.baseNeighborUsed (by have := consistent.room; omega)
    t.baseNeighborSize (by omega) (sized.uncut none) consistent.room
  have empty : t.extNeighborUsed = 0 := Nat.le_zero.mp (none ▸ sized.used)
  obtain ⟨base, index, same, noExt⟩ := linuxSizes.cutExt_fields t
  rw [empty] at noExt
  constructor
  · refine consistent.congr base index same ?_ ?_
    · rw [Sizes.cutExt_baseNeighborSize]
      exact fits.kept
    · rw [Sizes.cutExt_baseNeighborSize]
      exact fits.shorter
  · constructor
    · rw [noExt]
      exact Nat.zero_le _
    · rw [Sizes.cutExt_extNeighborSize, Sizes.cutExt_baseNeighborSize, same]
      exact fits.uncut
    · rw [Sizes.ExtApart, Sizes.cutExt_extNeighborSize, Sizes.cutExt_baseNeighborSize,
        Sizes.cutExt_extOffset]
      exact fits.area
    · rw [Sizes.cutExt_baseNeighborSize, noExt, Nat.zero_mul, Nat.add_zero]
      exact Nat.mul_le_mul_right _ fits.shorter

/-! ## Operations -/

/-- The loop that packs the table moves used entries into free places: the places before `i`
that are counted as holes are free.  It keeps what such moves keep. -/
theorem packBase_kept {P : NeighborTbl → Prop} {t : NeighborTbl}
    (moves : ∀ t i j, P t → (t.baseNeighbor i).used = true → j < i →
      (∀ n, j ≤ n → n < i → (t.baseNeighbor n).used = false) → P (moveBase t i j))
    (holds : P t) {rounds i used hole : ℕ} (inside : hole ≤ i)
    (free : ∀ n, i ≤ n + hole → n < i → (t.baseNeighbor n).used = false) :
    P (packBase rounds i used hole t) := by
  induction rounds generalizing i used hole t with
  | zero => exact holds
  | succ rounds induction_ =>
    unfold packBase
    split
    · split
      · next isUsed =>
        split
        · next some_ =>
          refine induction_ (moves t i (i - hole) holds isUsed (by omega) fun n low high =>
            free n (by omega) high) (by omega) fun n low high => ?_
          by_cases here : n = i
          · simp [moveBase, here, NeighborTblEnt.unused]
          · have differs : n ≠ i - hole := by omega
            simpa [moveBase, here, differs] using free n (by omega) (by omega)
        · exact induction_ holds (by omega) fun n low high => by omega
      · next isFree =>
        refine induction_ holds (by omega) fun n low high => ?_
        by_cases here : n = i
        · simpa [here] using isFree
        · exact free n (by omega) (by omega)
    · exact holds

theorem Consistent.packBase {t : NeighborTbl} (consistent : Consistent t) {rounds i used hole : ℕ}
    (inside : hole ≤ i) (free : ∀ n, i ≤ n + hole → n < i → (t.baseNeighbor n).used = false) :
    Consistent (packBase rounds i used hole t) :=
  packBase_kept (fun _ i _ kept isUsed below places =>
    kept.moveBase isUsed (places _ (Nat.le_refl _) below) below) consistent inside free

/-- Packing moves entries and changes no size. -/
theorem packBase_sizes (rounds i used hole : ℕ) (t : NeighborTbl) :
    let t' := packBase rounds i used hole t
    t'.baseNeighborSize = t.baseNeighborSize ∧ t'.baseNeighborUsed = t.baseNeighborUsed ∧
      t'.extNeighborSize = t.extNeighborSize ∧ t'.extNeighborUsed = t.extNeighborUsed ∧
      t'.extOffset = t.extOffset := by
  induction rounds generalizing i used hole t with
  | zero => exact ⟨rfl, rfl, rfl, rfl, rfl⟩
  | succ rounds induction_ =>
    unfold packBase
    split
    · split
      · split
        · exact induction_ (i + 1) (used + 1) (hole - 1) (moveBase t i (i - hole))
        · exact induction_ (i + 1) (used + 1) hole t
      · exact induction_ (i + 1) used (hole + 1) t
    · exact ⟨rfl, rfl, rfl, rfl, rfl⟩

namespace Invariant

variable {t : NeighborTbl}

theorem exneighborStart (invariant : Invariant t) :
    Invariant (linuxSizes.exneighborStart t) := by
  unfold Sizes.exneighborStart
  split
  · exact invariant
  · next none =>
    have none' : t.extNeighborSize = 0 := not_not.mp none
    split
    · obtain ⟨size, used, extSize, extUsed, offset⟩ := packBase_sizes t.baseNeighborSize 0 0 0 t
      have packed : Consistent (packBase t.baseNeighborSize 0 0 0 t) :=
        invariant.consistent.packBase (Nat.le_refl 0) fun n _ before => by omega
      obtain ⟨fits, uncut, area, bytes⟩ := invariant.sized
      refine cutExt_invariant packed ⟨?_, ?_, ?_, ?_⟩ (extSize.trans none')
      · rw [extUsed, extSize]
        exact fits
      · rw [extSize, size, used]
        exact uncut
      · rw [Sizes.ExtApart, extSize, size, offset]
        exact area
      · rw [size, extUsed]
        exact bytes
    · exact cutExt_invariant invariant.consistent invariant.sized none'

theorem neighborDelete (invariant : Invariant t) (ref : ℕ) :
    Invariant (neighborDelete t ref) where
  consistent := invariant.consistent.neighborDelete ref
  sized := by
    obtain ⟨used, uncut, area, bytes⟩ := invariant.sized
    unfold NeighborTable.neighborDelete
    dsimp only
    split <;> exact ⟨used, uncut, area, bytes⟩

theorem append (invariant : Invariant t) {ref : ℕ} {ent : NeighborTblEnt}
    (free : t.baseNeighborUsed < t.baseNeighborSize) (absent : t.addrToNeighbor ref = 0xff)
    (used : ent.used = true) (own : ent.addrRef = ref) : Invariant (appendBase t ref ent) :=
  ⟨invariant.consistent.append free absent used own, invariant.sized.appendBase free⟩

/-- A write into the extended table that begins behind the base table. -/
theorem fillOrAllocExt (invariant : Invariant t) (found : Option ℕ) (fresh : ExtNeighborTblEnt)
    (beacon : Beacon) (overrun : NeighborTbl)
    (apart : t.extNeighborSize ≠ 0 → linuxSizes.ExtApart t)
    (inside : ∀ i ∈ found, i < t.extNeighborUsed) :
    Invariant (linuxSizes.fillOrAllocExt t found fresh beacon overrun) := by
  have used := invariant.sized.used
  unfold Sizes.fillOrAllocExt
  cases found with
  | some i =>
    have nonempty : t.extNeighborSize ≠ 0 := by
      have := inside i rfl
      omega
    dsimp only
    rw [if_pos (apart nonempty)]
    exact ⟨invariant.consistent.congr rfl rfl rfl invariant.consistent.room
      invariant.consistent.size, ⟨used, invariant.sized.uncut, invariant.sized.area,
        invariant.sized.bytes⟩⟩
  | none =>
    dsimp only
    split
    · exact invariant
    · next free =>
      have nonempty : t.extNeighborSize ≠ 0 := by omega
      have room : t.extNeighborUsed + 1 ≤ t.extNeighborSize := by omega
      rw [if_pos (apart nonempty)]
      refine ⟨invariant.consistent.congr rfl rfl rfl invariant.consistent.room
        invariant.consistent.size, ⟨room, invariant.sized.uncut, invariant.sized.area, ?_⟩⟩
      have area := invariant.sized.area (apart nonempty)
      have entries := Nat.mul_le_mul_right linuxSizes.ext room
      change t.baseNeighborSize * linuxSizes.base +
        (t.extNeighborUsed + 1) * linuxSizes.ext ≤ _
      exact Nat.le_trans (Nat.add_le_add_left entries _) area

end Invariant

/-- Promoting an extended entry leaves the sizes and the extended table alone. -/
theorem promoteExt_sizes (s : Tables) (myPanidRef i : ℕ) (junk : IeeeAddrCompressed) :
    (promoteExt s myPanidRef i junk).neighbor.baseNeighborSize = s.neighbor.baseNeighborSize := by
  unfold promoteExt promote
  dsimp only
  split
  · split
    · dsimp only
      split
      · rfl
      · split <;> rfl
    · rfl
  · rfl

theorem promoteExt_consistent {s : Tables} (consistent : Consistent s.neighbor)
    (myPanidRef i : ℕ) (junk : IeeeAddrCompressed) :
    Consistent (promoteExt s myPanidRef i junk).neighbor := by
  unfold promoteExt
  dsimp only
  split
  · split
    · exact consistent.promote _ _
    · exact consistent
  · exact consistent

/-- A condition that is met before every turn of the loop of `zb_nwk_exneighbor_stop`. -/
def EachTurn (ok : Tables → ℕ → Prop) (myPanidRef : ℕ) (junk : ℕ → IeeeAddrCompressed) :
    ℕ → ℕ → ℕ → Tables → Prop
  | 0, _, _, _ => True
  | rounds + 1, i, freeSize, s =>
    ok s i ∧
      let s := promoteExt s myPanidRef i (junk i)
      let freeSize := (freeSize + linuxSizes.ext) % 2 ^ 8
      let size := s.neighbor.baseNeighborSize + freeSize / linuxSizes.base
      EachTurn ok myPanidRef junk rounds (i + 1) (freeSize % linuxSizes.base)
        ⟨s.addr, s.neighbor.setBaseSize size⟩

theorem eachTurn_of_forall {ok : Tables → ℕ → Prop} (all : ∀ s i, ok s i) (myPanidRef : ℕ)
    (junk : ℕ → IeeeAddrCompressed) (rounds i freeSize : ℕ) (s : Tables) :
    EachTurn ok myPanidRef junk rounds i freeSize s := by
  induction rounds generalizing i freeSize s with
  | zero => trivial
  | succ rounds induction_ => exact ⟨all s i, induction_ _ _ _⟩

/-- The loop of `zb_nwk_exneighbor_stop`: the base table grows by no more bytes than the
extended entries leave, and the loop keeps what the promotions and the growth keep. -/
theorem promoteAll_kept {P : Tables → Prop} {ok : Tables → ℕ → Prop} {s : Tables} (myPanidRef : ℕ)
    (junk : ℕ → IeeeAddrCompressed) {rounds i freeSize : ℕ} (consistent : Consistent s.neighbor)
    (few : freeSize < linuxSizes.base)
    (bytes : s.neighbor.baseNeighborSize * linuxSizes.base + freeSize +
      rounds * linuxSizes.ext ≤ neighborTableSize * linuxSizes.base)
    (initial : P s) (turns : EachTurn ok myPanidRef junk rounds i freeSize s)
    (promotes : ∀ s i, Consistent s.neighbor → P s → ok s i → P (promoteExt s myPanidRef i (junk i)))
    (grows : ∀ s size, P s → P ⟨s.addr, s.neighbor.setBaseSize size⟩) :
    Consistent (linuxSizes.promoteAll myPanidRef junk rounds i freeSize s).neighbor ∧
      P (linuxSizes.promoteAll myPanidRef junk rounds i freeSize s) := by
  induction rounds generalizing i freeSize s with
  | zero => exact ⟨consistent, initial⟩
  | succ rounds induction_ =>
    obtain ⟨turn, turns⟩ := turns
    unfold Sizes.promoteAll
    have same := promoteExt_sizes s myPanidRef i (junk i)
    have promoted := promoteExt_consistent consistent myPanidRef i (junk i)
    have room := promoted.room
    rw [same] at room
    simp only [linuxSizes_base, linuxSizes_ext, neighborTableSize] at *
    apply induction_
    · refine promoted.congr rfl rfl rfl ?_ ?_
      · rw [NeighborTbl.setBaseSize_baseNeighborSize, same]
        omega
      · rw [NeighborTbl.setBaseSize_baseNeighborSize, same]
        simp only [neighborTableSize]
        omega
    · omega
    · rw [NeighborTbl.setBaseSize_baseNeighborSize, same]
      omega
    · exact grows _ _ (promotes s i consistent initial turn)
    · exact turns

/-- A promotion appends an entry at most. -/
theorem promoteExt_used (s : Tables) (myPanidRef i : ℕ) (junk : IeeeAddrCompressed) :
    s.neighbor.baseNeighborUsed ≤
      (promoteExt s myPanidRef i junk).neighbor.baseNeighborUsed := by
  unfold promoteExt promote
  dsimp only
  split
  · split
    · dsimp only
      split
      · exact Nat.le_refl _
      · split
        · exact Nat.le_succ _
        · exact Nat.le_refl _
    · exact Nat.le_refl _
  · exact Nat.le_refl _

/-- What extended entries have left behind the entries in use does not read as used. -/
def LeavesUnused (t : NeighborTbl) (left : ℕ → NeighborTblEnt) : Prop :=
  ∀ n < neighborTableSize, t.baseNeighborUsed ≤ n → linuxSizes.Overlaid t n →
    (left n).used = false

instance (t : NeighborTbl) (left : ℕ → NeighborTblEnt) : Decidable (LeavesUnused t left) :=
  inferInstanceAs (Decidable (∀ n < _, _))

/-- The entries that come to light are free. -/
theorem Consistent.uncover {t after : NeighborTbl} (consistent : Consistent after)
    {left : ℕ → NeighborTblEnt} (more : t.baseNeighborUsed ≤ after.baseNeighborUsed)
    (unused : LeavesUnused t left) : Consistent (linuxSizes.uncover t left after) := by
  have same : ∀ n, (linuxSizes.uncover t left after).baseNeighbor n = after.baseNeighbor n ∨
      after.baseNeighborUsed ≤ n ∧
        ((linuxSizes.uncover t left after).baseNeighbor n).used = false := by
    intro n
    by_cases covered : after.baseNeighborUsed ≤ n ∧ linuxSizes.Overlaid t n
    · have entry : (linuxSizes.uncover t left after).baseNeighbor n = left n := if_pos covered
      refine .inr ⟨covered.1, ?_⟩
      rw [entry]
      exact unused n covered.2.1 (Nat.le_trans more covered.1) covered.2
    · exact .inl (if_neg covered)
  have devices : deviceOf (linuxSizes.uncover t left after) = deviceOf after := by
    funext n
    rcases same n with kept | ⟨behind, free⟩
    · rw [deviceOf, deviceOf, kept]
    · rw [deviceOf_eq_none.mpr free, consistent.unused behind]
  refine ⟨?_, fun n isUsed => ?_, consistent.room, consistent.size⟩
  · rw [devices]
    exact consistent.inverse
  · rcases same n with kept | ⟨-, free⟩
    · rw [kept] at isUsed
      exact consistent.below n isUsed
    · rw [free] at isUsed
      cases isUsed

/-- The table once the extended entries of the network have been promoted. -/
theorem stopped_consistent {s : Tables} (invariant : Invariant s.neighbor) (joined : Bool)
    (myPanidRef : ℕ) (junk : ℕ → IeeeAddrCompressed) :
    let after := if joined then
      linuxSizes.promoteAll myPanidRef junk s.neighbor.extNeighborUsed 0 0 s else s
    Consistent after.neighbor ∧ s.neighbor.baseNeighborUsed ≤ after.neighbor.baseNeighborUsed := by
  intro after
  cases joined with
  | false => exact ⟨invariant.consistent, Nat.le_refl _⟩
  | true =>
    exact promoteAll_kept
      (P := fun s' => s.neighbor.baseNeighborUsed ≤ s'.neighbor.baseNeighborUsed) myPanidRef junk
      invariant.consistent (by decide) invariant.sized.bytes (Nat.le_refl _)
      (eachTurn_of_forall (fun _ _ => trivial) ..)
      (fun s' i _ more _ => Nat.le_trans more (promoteExt_used s' myPanidRef i (junk i)))
      fun _ _ more => more

theorem exneighborStop_invariant {s : Tables} (invariant : Invariant s.neighbor) (joined : Bool)
    (myPanidRef : ℕ) (junk : ℕ → IeeeAddrCompressed) {left : ℕ → NeighborTblEnt}
    (unused : LeavesUnused s.neighbor left) :
    Invariant (linuxSizes.exneighborStop s joined myPanidRef junk left).neighbor := by
  obtain ⟨after, more⟩ := stopped_consistent invariant joined myPanidRef junk
  have consistent := after.uncover more unused
  refine ⟨consistent.congr rfl rfl rfl (Nat.le_trans consistent.room consistent.size)
    (Nat.le_refl _), Nat.le_refl _, fun _ => .inl rfl, fun apart => ?_, Nat.le_refl _⟩
  have impossible : neighborTableSize * linuxSizes.base ≤ 0 := apart
  exact absurd impossible (by decide)

/-! ## Runs -/

/-- The lookup has found a device that has no base entry. -/
def FoundNew (t : NeighborTbl) : Except RetError ℕ → Prop
  | .ok ref => t.addrToNeighbor ref = 0xff
  | .error _ => False

instance (t : NeighborTbl) : DecidablePred (FoundNew t)
  | .ok _ => inferInstanceAs (Decidable (_ = _))
  | .error _ => isFalse id

/-- The step misses no table, promotes no device that has a base entry, and brings no used entry
to light. -/
def Clean (s : Tables) : Op → Prop
  | .neighborGet addr createIfAbsent _ _ => createIfAbsent = true →
      s.neighbor.addrToNeighbor addr = 0xff →
        s.neighbor.baseNeighborUsed < s.neighbor.baseNeighborSize
  | .exneighborByShort .. | .exneighborByIeee .. =>
      s.neighbor.extNeighborSize ≠ 0 → linuxSizes.ExtApart s.neighbor
  | .neighborExtToBaseTmp i junk _ =>
      s.neighbor.baseNeighborUsed < s.neighbor.baseNeighborSize →
        FoundNew s.neighbor (addressByIeee s.addr
          (addressDecompress s.addr (s.neighbor.extNeighbor i).longAddr) true false junk).2
  | .exneighborStop _ _ _ left => LeavesUnused s.neighbor left
  | .neighborDelete _ | .exneighborStart | .addressTable _ => True

instance (s : Tables) : DecidablePred (Clean s)
  | .neighborGet .. => inferInstanceAs (Decidable (_ → _))
  | .exneighborByShort .. | .exneighborByIeee .. => inferInstanceAs (Decidable (_ → _))
  | .neighborExtToBaseTmp .. => inferInstanceAs (Decidable (_ → _))
  | .exneighborStop _ _ _ left => inferInstanceAs (Decidable (LeavesUnused s.neighbor left))
  | .neighborDelete _ | .exneighborStart | .addressTable _ => isTrue trivial

theorem neighborGet_invariant {s : Tables} (invariant : Invariant s.neighbor) (addr : ℕ)
    (createIfAbsent : Bool) (nibDepth : ℕ) (overrun : NeighborTbl)
    (clean : Clean s (.neighborGet addr createIfAbsent nibDepth overrun)) :
    Invariant (neighborGet s addr createIfAbsent nibDepth overrun).1.neighbor := by
  unfold neighborGet
  dsimp only
  split
  · exact invariant
  · next absent =>
    split
    · next create =>
      split
      · exact invariant
      · have free := clean create (not_not.mp absent)
        dsimp only
        rw [if_pos free]
        exact invariant.append free (not_not.mp absent) rfl rfl
    · exact invariant

theorem neighborExtToBaseTmp_invariant {s : Tables} (invariant : Invariant s.neighbor) (i : ℕ)
    (junk : IeeeAddrCompressed) (junkRef : ℕ)
    (clean : Clean s (.neighborExtToBaseTmp i junk junkRef)) :
    Invariant (neighborExtToBaseTmp s (s.neighbor.extNeighbor i) junk junkRef).neighbor := by
  unfold neighborExtToBaseTmp
  dsimp only
  split
  · exact invariant
  · next room =>
    have free : s.neighbor.baseNeighborUsed < s.neighbor.baseNeighborSize := Nat.lt_of_not_le room
    have new := clean free
    unfold tmpRef
    cases found : (addressByIeee s.addr
        (addressDecompress s.addr (s.neighbor.extNeighbor i).longAddr) true false junk) with
    | mk addr result =>
      rw [found] at new
      cases result with
      | ok ref => exact invariant.append free new rfl rfl
      | error e => exact absurd new id

theorem step_invariant (s : Tables) (op : Op) (invariant : Invariant s.neighbor)
    (clean : Clean s op) : Invariant (linuxSizes.step s op).neighbor := by
  have known : ∀ (p : ℕ → Bool) (l : List ℕ), (∀ i ∈ l, i < s.neighbor.extNeighborUsed) →
      ∀ i ∈ l.find? p, i < s.neighbor.extNeighborUsed :=
    fun p l inside i found => inside i (List.mem_of_find?_eq_some found)
  cases op with
  | neighborGet addr createIfAbsent nibDepth overrun =>
    exact neighborGet_invariant invariant addr createIfAbsent nibDepth overrun clean
  | neighborDelete ref => exact invariant.neighborDelete ref
  | exneighborStart => exact invariant.exneighborStart
  | exneighborByShort panidRef shortAddr beacon overrun =>
    apply invariant.fillOrAllocExt _ _ _ _ clean
    exact known _ _ fun i inside => List.mem_range.mp inside
  | exneighborByIeee panidRef longAddr beacon junk overrun =>
    apply invariant.fillOrAllocExt _ _ _ _ clean
    exact known _ _ fun i inside => List.mem_range.mp (List.mem_reverse.mp inside)
  | neighborExtToBaseTmp i junk junkRef =>
    exact neighborExtToBaseTmp_invariant invariant i junk junkRef clean
  | exneighborStop joined myPanidRef junk left =>
    exact exneighborStop_invariant invariant joined myPanidRef junk clean
  | addressTable addr => exact invariant

/-- In every run of clean steps the index is the inverse of the used base entries, no
device has two of them, and all lie below `base_neighbor_used`.  The entries of the base table
are those before `base_neighbor_size`. -/
theorem neighbor_index_consistent (addr : AddrGlobals) (ops : List Op)
    (met : Along linuxSizes.step Clean ⟨addr, .init⟩ ops) :
    let t := (run linuxSizes.step ⟨addr, .init⟩ ops).neighbor
    (∀ r n, n < t.baseNeighborSize → (t.addrToNeighbor r = n ↔
      (t.baseNeighbor n).used = true ∧ (t.baseNeighbor n).addrRef = r)) ∧
    (∀ r, t.addrToNeighbor r ≠ 0xff → t.addrToNeighbor r < t.baseNeighborSize) ∧
    (∀ m n, m < t.baseNeighborSize → n < t.baseNeighborSize →
      (t.baseNeighbor m).used = true → (t.baseNeighbor n).used = true →
        (t.baseNeighbor m).addrRef = (t.baseNeighbor n).addrRef → m = n) ∧
    (∀ n < t.baseNeighborSize, (t.baseNeighbor n).used = true → n < t.baseNeighborUsed) ∧
    t.baseNeighborUsed ≤ t.baseNeighborSize ∧ t.baseNeighborSize ≤ neighborTableSize := by
  intro t
  have invariant : Invariant t :=
    invariant_of_along step_invariant _ ops init_invariant met
  have consistent := invariant.consistent
  obtain ⟨inverse, below, room, size⟩ := invariant.consistent
  refine ⟨fun r n inside => ?_, fun r present => ?_, fun m n _ _ first second same => ?_,
    fun n _ used => below n used, room, size⟩
  · have octet : n ≠ 0xff := by
      rw [neighborTableSize] at size
      omega
    rw [← indexOf_eq_some octet, inverse, deviceOf_eq_some]
  · have used := (deviceOf_eq_some.mp (consistent.found present)).1
    exact Nat.lt_of_lt_of_le (below _ used) room
  · exact inverse.injective (deviceOf_eq_some.mpr ⟨first, same⟩)
      (deviceOf_eq_some.mpr ⟨second, rfl⟩)

/-- A device heard in a beacon and promoted twice. -/
def promotedTwice : List Op :=
  let heard : Beacon := ⟨200, 1, 1, .router⟩
  let device : IeeeAddr := ⟨⟨1, 2, 3⟩, ⟨4, 5, 6, 7, 8⟩⟩
  [.exneighborStart, .exneighborByIeee 0 device heard .zero .init,
    .neighborExtToBaseTmp 0 .zero 0, .neighborExtToBaseTmp 0 .zero 0]

/-- The second promotion leaves two used entries of one device. -/
theorem neighbor_index_duplicated :
    ¬ ∀ addr ops, let t := (run linuxSizes.step ⟨addr, .init⟩ ops).neighbor
      ∀ m n, m < t.baseNeighborSize → n < t.baseNeighborSize →
        (t.baseNeighbor m).used = true → (t.baseNeighbor n).used = true →
          (t.baseNeighbor m).addrRef = (t.baseNeighbor n).addrRef → m = n := by
  intro claim
  have same := claim .zero promotedTwice 0 1 (by decide +kernel) (by decide +kernel)
    (by decide +kernel) (by decide +kernel) (by decide +kernel)
  exact absurd same (by decide)

/-- Entries come and go, the table is packed, and two devices of the PAN are promoted,
one in each way. -/
def cleanOps : List Op :=
  let heard : Beacon := ⟨200, 1, 1, .router⟩
  [.neighborGet 5 true 1 .init, .neighborGet 6 true 1 .init, .neighborDelete 5, .exneighborStart,
    .exneighborByIeee 0 ⟨⟨1, 2, 3⟩, ⟨4, 5, 6, 7, 8⟩⟩ heard .zero .init,
    .exneighborByShort 0 9 heard .init, .neighborExtToBaseTmp 0 .zero 0,
    .exneighborStop true 0 (fun _ => .zero) fun _ => .zero]

theorem neighbor_index_consistent_cleanOps :
    let t := (run linuxSizes.step ⟨.zero, .init⟩ cleanOps).neighbor
    t.addrToNeighbor 6 = 0 ↔ (t.baseNeighbor 0).used = true ∧ (t.baseNeighbor 0).addrRef = 6 :=
  (neighbor_index_consistent .zero cleanOps (by decide +kernel)).1 6 0 (by decide +kernel)

end Zboss.NeighborTable
