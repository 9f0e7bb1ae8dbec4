import Zboss.Nwk.NeighborIndex

/-!
The neighbour table as bytes, for all sizes of its two structures.  The start of a discovery
computes where the extended table begins and how many entries fit, in part in octets; its end
moves extended entries to the base table while that grows into the bytes they leave.

As long as no device is deleted there are no holes, packing moves nothing, and what may stand
behind the entries in use does not matter.
-/

namespace Zboss.NeighborTable

open Zboss.AddressTable Zboss.Run

/-- The base entry a round of `zb_nwk_exneighbor_stop` writes. -/
def promotedPlace (s : Tables) (myPanidRef i : ℕ) (junk : IeeeAddrCompressed) : Option ℕ :=
  let ext := s.neighbor.extNeighbor i
  if ext.panidRef = myPanidRef then
    match (extAddress s.addr ext junk).2 with
    | .ok ref =>
      if s.neighbor.addrToNeighbor ref ≠ 0xff then some (s.neighbor.addrToNeighbor ref)
      else if s.neighbor.baseNeighborUsed < s.neighbor.baseNeighborSize then
        some s.neighbor.baseNeighborUsed
      else none
    | .error _ => none
  else none

/-- A write to a base entry while extended entries are moved, the round it is made in, and the
size of the base table then. -/
structure StopWrite where
  round : ℕ
  place : ℕ
  size : ℕ

namespace Sizes

variable (z : Sizes)

/-- The writes of the loop of `zb_nwk_exneighbor_stop`. -/
def stopWrites (myPanidRef : ℕ) (junk : ℕ → IeeeAddrCompressed) :
    ℕ → ℕ → ℕ → Tables → List StopWrite
  | 0, _, _, _ => []
  | rounds + 1, i, freeSize, s =>
    let s' := promoteExt s myPanidRef i (junk i)
    let freeSize' := (freeSize + z.ext) % 2 ^ 8
    let size := s'.neighbor.baseNeighborSize + freeSize' / z.base
    (promotedPlace s myPanidRef i (junk i)).toList.map (⟨i, ·, s.neighbor.baseNeighborSize⟩) ++
      stopWrites myPanidRef junk rounds (i + 1) (freeSize' % z.base)
        ⟨s'.addr, s'.neighbor.setBaseSize size⟩

/-- The bytes of base entry `place` are none of those of extended entry `j`. -/
def Disjoint (t : NeighborTbl) (place j : ℕ) : Prop :=
  (place + 1) * z.base ≤ t.extOffset + j * z.ext ∨
    t.extOffset + (j + 1) * z.ext ≤ place * z.base

/-- The extended table lies in the array, behind the base entries. -/
def ExtPlaced (t : NeighborTbl) : Prop :=
  t.extNeighborSize ≠ 0 → t.baseNeighborSize * z.base ≤ t.extOffset ∧
    t.extOffset + t.extNeighborSize * z.ext ≤ neighborTableSize * z.base

/-- What is expected of one step: a base index handed out is below the size of the base table,
the extended table is placed well, its entries in use are entries of it, and no base entry is
written over an extended one that is still to be read. -/
def Good (s : Tables) : Op → Prop
  | .neighborGet addr createIfAbsent nibDepth overrun =>
    ∀ n ∈ (neighborGet s addr createIfAbsent nibDepth overrun).2,
      n < s.neighbor.baseNeighborSize
  | .neighborExtToBaseTmp i junk junkRef =>
    s.neighbor.baseNeighborUsed <
      (neighborExtToBaseTmp s (s.neighbor.extNeighbor i) junk junkRef).neighbor.baseNeighborUsed →
        s.neighbor.baseNeighborUsed < s.neighbor.baseNeighborSize
  | .exneighborStart => z.ExtPlaced (z.exneighborStart s.neighbor)
  | .exneighborByShort panidRef shortAddr beacon overrun =>
    let t := z.exneighborByShort s.neighbor panidRef shortAddr beacon overrun
    z.ExtPlaced t ∧ t.extNeighborUsed ≤ t.extNeighborSize
  | .exneighborByIeee panidRef longAddr beacon junk overrun =>
    let t := (z.exneighborByIeee s panidRef longAddr beacon junk overrun).neighbor
    z.ExtPlaced t ∧ t.extNeighborUsed ≤ t.extNeighborSize
  | .exneighborStop joined myPanidRef junk _ => joined = true →
    ∀ w ∈ z.stopWrites myPanidRef junk s.neighbor.extNeighborUsed 0 0 s,
      w.place < w.size ∧ w.size ≤ neighborTableSize ∧
        ∀ j, w.round ≤ j → j < s.neighbor.extNeighborUsed → z.Disjoint s.neighbor w.place j
  | .neighborDelete _ | .addressTable _ => True

/-- Entries are created only while there are unused places, none is deleted, and the octets of the
start hold what they should: the offset of the extended table, and bytes that are more than the
padding. -/
def Roomy (s : Tables) : Op → Prop
  | .neighborGet addr createIfAbsent _ _ => createIfAbsent = true →
    s.neighbor.addrToNeighbor addr = 0xff →
      s.neighbor.baseNeighborUsed < s.neighbor.baseNeighborSize
  | .exneighborStart => s.neighbor.extNeighborSize = 0 →
    let size := cutSize s.neighbor.baseNeighborSize s.neighbor.baseNeighborUsed
    let cut := cutOff s.neighbor.baseNeighborSize s.neighbor.baseNeighborUsed
    roundTo4 (size * z.base) < 2 ^ 8 ∧ roundTo4 (size * z.base) - size * z.base ≤ cut * z.base
  | .neighborDelete ref => s.neighbor.addrToNeighbor ref = 0xff
  | .exneighborByShort .. | .exneighborByIeee .. | .neighborExtToBaseTmp .. | .exneighborStop ..
  | .addressTable _ => True

instance (s : Tables) : DecidablePred (z.Roomy s)
  | .neighborGet .. => inferInstanceAs (Decidable (_ → _))
  | .exneighborStart => inferInstanceAs (Decidable (_ → _ ∧ _))
  | .neighborDelete _ => inferInstanceAs (Decidable (_ = _))
  | .exneighborByShort .. | .exneighborByIeee .. | .neighborExtToBaseTmp .. | .exneighborStop ..
  | .addressTable _ => isTrue trivial

end Sizes

/-- The base table is in bounds: indexes lie below `base_neighbor_used`. -/
structure InBounds (t : NeighborTbl) : Prop where
  index : ∀ ref, t.addrToNeighbor ref ≠ 0xff → t.addrToNeighbor ref < t.baseNeighborUsed
  room : t.baseNeighborUsed ≤ t.baseNeighborSize
  size : t.baseNeighborSize ≤ neighborTableSize

namespace InBounds

variable {t : NeighborTbl}

theorem init : InBounds .init where
  index := fun _ present => absurd rfl present
  room := Nat.zero_le _
  size := Nat.le_refl _

/-- Nothing but the index and the sizes matters. -/
theorem congr {t' : NeighborTbl} (bounds : InBounds t) (index : t'.addrToNeighbor = t.addrToNeighbor)
    (used : t'.baseNeighborUsed = t.baseNeighborUsed)
    (room : t.baseNeighborUsed ≤ t'.baseNeighborSize)
    (size : t'.baseNeighborSize ≤ neighborTableSize) : InBounds t' where
  index := by
    rw [index, used]
    exact bounds.index
  room := used ▸ room
  size := size

theorem append (bounds : InBounds t) (ref : ℕ) (ent : NeighborTblEnt)
    (free : t.baseNeighborUsed < t.baseNeighborSize) : InBounds (appendBase t ref ent) where
  index := by
    intro other present
    change (appendBase t ref ent).addrToNeighbor other < t.baseNeighborUsed + 1
    by_cases same : other = ref
    · simp [appendBase, same]
    · have before : (appendBase t ref ent).addrToNeighbor other = t.addrToNeighbor other := by
        simp [appendBase, same]
      rw [before] at present ⊢
      exact Nat.lt_succ_of_lt (bounds.index other present)
  room := free
  size := bounds.size

theorem promoteExt {s : Tables} (bounds : InBounds s.neighbor) (myPanidRef i : ℕ)
    (junk : IeeeAddrCompressed) : InBounds (promoteExt s myPanidRef i junk).neighbor := by
  unfold NeighborTable.promoteExt NeighborTable.promote
  dsimp only
  split
  · split
    · dsimp only
      split
      · exact bounds.congr rfl rfl bounds.room bounds.size
      · split
        · next free => exact bounds.append _ _ free
        · exact bounds
    · exact bounds
  · exact bounds

/-- What is promoted has its place below the size of the table. -/
theorem promotedPlace {s : Tables} (bounds : InBounds s.neighbor) {myPanidRef i n : ℕ}
    {junk : IeeeAddrCompressed} (place : n ∈ promotedPlace s myPanidRef i junk) :
    n < s.neighbor.baseNeighborSize := by
  unfold NeighborTable.promotedPlace at place
  dsimp only at place
  split at place
  · split at place
    · split at place
      · next present =>
        cases place
        exact Nat.lt_of_lt_of_le (bounds.index _ present) bounds.room
      · split at place
        · next free =>
          cases place
          exact free
        · cases place
    · cases place
  · cases place

end InBounds

/-! ## Holes -/

/-- There are no holes among the entries in use. -/
def Full (t : NeighborTbl) : Prop := ∀ n < t.baseNeighborUsed, (t.baseNeighbor n).used = true

/-- Packing moves nothing where there are no holes. -/
theorem packBase_full {t : NeighborTbl} (full : Full t) (rounds i : ℕ) :
    packBase rounds i i 0 t = t := by
  induction rounds generalizing i with
  | zero => rfl
  | succ rounds induction_ =>
    unfold packBase
    split
    · next inside =>
      rw [if_pos (full i inside), if_neg (not_not.mpr rfl)]
      exact induction_ (i + 1)
    · rfl

/-- The loop keeps what each promotion and each growth of the table keep. -/
theorem promoteAll_preserves {z : Sizes} {P : Tables → Prop} {myPanidRef : ℕ}
    {junk : ℕ → IeeeAddrCompressed} {rounds i freeSize : ℕ} {s : Tables} (initial : P s)
    (promotes : ∀ s i, P s → P (promoteExt s myPanidRef i (junk i)))
    (grows : ∀ s size, P s → P ⟨s.addr, s.neighbor.setBaseSize size⟩) :
    P (z.promoteAll myPanidRef junk rounds i freeSize s) := by
  induction rounds generalizing i freeSize s with
  | zero => exact initial
  | succ rounds induction_ => exact induction_ (grows _ _ (promotes s i initial))

namespace Full

variable {t : NeighborTbl}

theorem init : Full .init := fun _ absurd_ => absurd absurd_ (Nat.not_lt_zero _)

/-- An entry in use stays so, or one that was not in use is entered. -/
theorem setBase (full : Full t) (n : ℕ) {ent : NeighborTblEnt} (used : ent.used = true) :
    Full (t.setBase n ent) := by
  intro m inside
  by_cases here : m = n
  · rw [here, NeighborTbl.setBase_baseNeighbor, Function.update_self]
    exact used
  · rw [NeighborTbl.setBase_baseNeighbor, Function.update_of_ne here]
    exact full m inside

theorem append (full : Full t) (ref : ℕ) {ent : NeighborTblEnt} (used : ent.used = true) :
    Full (appendBase t ref ent) := by
  intro m inside
  by_cases here : m = t.baseNeighborUsed
  · rw [here]
    simpa [appendBase] using used
  · have before : m < t.baseNeighborUsed := Nat.lt_of_le_of_ne (Nat.le_of_lt_succ inside) here
    simpa [appendBase, here] using full m before

theorem promoteExt {s : Tables} (full : Full s.neighbor) (myPanidRef i : ℕ)
    (junk : IeeeAddrCompressed) : Full (promoteExt s myPanidRef i junk).neighbor := by
  unfold NeighborTable.promoteExt NeighborTable.promote
  dsimp only
  split
  · split
    · dsimp only
      split
      · exact full.setBase _ rfl
      · split
        · exact full.append _ rfl
        · exact full
    · exact full
  · exact full

theorem promoteAll {z : Sizes} {s : Tables} (full : Full s.neighbor) (myPanidRef : ℕ)
    (junk : ℕ → IeeeAddrCompressed) (rounds i freeSize : ℕ) :
    Full (z.promoteAll myPanidRef junk rounds i freeSize s).neighbor := by
  exact promoteAll_preserves (P := fun s => Full s.neighbor) full
    (fun _ i full => full.promoteExt myPanidRef i (junk i)) fun _ _ full => full

/-- What comes to light stands behind the entries in use. -/
theorem uncover {z : Sizes} {before : NeighborTbl} (full : Full t) (left : ℕ → NeighborTblEnt) :
    Full (z.uncover before left t) := by
  intro n inside
  have kept : (z.uncover before left t).baseNeighbor n = t.baseNeighbor n :=
    if_neg fun covered => Nat.not_lt.mpr covered.1 inside
  rw [kept]
  exact full n inside

end Full

/-! ## Sizes -/

/-- Machine subtraction of what is not more. -/
theorem sub_wrapped {a b : ℕ} (whole : ℕ) (inside : b ≤ a) (small : a < whole) :
    (a + whole - b) % whole = a - b := by
  rw [Nat.sub_add_comm inside, Nat.add_mod_right]
  exact Nat.mod_eq_of_lt (Nat.lt_of_le_of_lt (Nat.sub_le a b) small)

/-- The cut leaves the entries in use. -/
theorem cutOff_le {size used : ℕ} (room : used ≤ size) :
    cutOff size used ≤ size - used := by
  have half : size / 2 % 2 ^ 8 ≤ size / 2 := Nat.mod_le _ _
  unfold cutOff
  dsimp only
  split
  · calc (size + 2 ^ 32 - used) % 2 ^ 8 = (size - used) % 2 ^ 8 := by omega
      _ ≤ size - used := Nat.mod_le _ _
  · omega

/-- The cut divides the base table. -/
theorem cut_sum {size used : ℕ} (room : used ≤ size) (small : size ≤ neighborTableSize) :
    used ≤ cutSize size used ∧ cutSize size used + cutOff size used = size := by
  have off := cutOff_le room
  have kept : cutSize size used = size - cutOff size used :=
    sub_wrapped _ (Nat.le_trans off (Nat.sub_le _ _)) (Nat.lt_of_le_of_lt small (by decide))
  rw [kept]
  generalize cutOff size used = cut at off
  omega

/-- The whole table: the base table is in bounds, and the extended one has its place. -/
structure LaidOut (z : Sizes) (t : NeighborTbl) : Prop where
  bounds : InBounds t
  used : t.extNeighborUsed ≤ t.extNeighborSize
  placed : z.ExtPlaced t

namespace LaidOut

variable {z : Sizes} {t : NeighborTbl}

theorem init : LaidOut z .init := ⟨.init, Nat.le_refl _, fun some_ => absurd rfl some_⟩

/-- The extended entries fit into the bytes cut off when the octets hold what they should. -/
theorem setExtArea {rest cut : ℕ} (bounds : InBounds t) (none_ : t.extNeighborUsed = 0)
    (kept : t.baseNeighborUsed ≤ rest) (sum : rest + cut = t.baseNeighborSize)
    (octet : roundTo4 (rest * z.base) < 2 ^ 8)
    (padding : roundTo4 (rest * z.base) - rest * z.base ≤ cut * z.base) :
    LaidOut z ((t.setBaseSize rest).setExtArea (z.extStart rest) (z.extCount cut rest)) := by
  have size := bounds.size
  have rounded : rest * z.base ≤ roundTo4 (rest * z.base) := by
    unfold roundTo4
    omega
  have start : z.extStart rest = roundTo4 (rest * z.base) := Nat.mod_eq_of_lt octet
  have whole : rest * z.base + cut * z.base ≤ neighborTableSize * z.base := by
    rw [← Nat.add_mul, sum]
    exact Nat.mul_le_mul_right _ size
  have bytes : (cut : ℤ) * z.base - ((z.extStart rest : ℤ) - rest * z.base) =
      ((cut * z.base + rest * z.base - roundTo4 (rest * z.base) : ℕ) : ℤ) := by
    rw [start, Int.natCast_sub (by omega)]
    push_cast
    omega
  have count : z.extCount cut rest * z.ext ≤
      cut * z.base + rest * z.base - roundTo4 (rest * z.base) := by
    unfold Sizes.extCount
    dsimp only
    rw [bytes]
    refine Nat.le_trans (Nat.div_mul_le_self _ _) ?_
    omega
  constructor
  · exact bounds.congr rfl rfl kept (Nat.le_trans (sum ▸ Nat.le_add_right _ _) size)
  · exact none_ ▸ Nat.zero_le _
  · intro _
    change rest * z.base ≤ z.extStart rest ∧
      z.extStart rest + z.extCount cut rest * z.ext ≤ neighborTableSize * z.base
    rw [start]
    omega

theorem cutExt (bounds : InBounds t) (none_ : t.extNeighborUsed = 0)
    (octet : roundTo4 (cutSize t.baseNeighborSize t.baseNeighborUsed * z.base) < 2 ^ 8)
    (padding : roundTo4 (cutSize t.baseNeighborSize t.baseNeighborUsed * z.base) -
      cutSize t.baseNeighborSize t.baseNeighborUsed * z.base ≤
        cutOff t.baseNeighborSize t.baseNeighborUsed * z.base) : LaidOut z (z.cutExt t) := by
  obtain ⟨kept, sum⟩ := cut_sum bounds.room bounds.size
  exact setExtArea bounds none_ kept sum octet padding

theorem exneighborStart {s : Tables} (laid : LaidOut z s.neighbor) (full : Full s.neighbor)
    (roomy : z.Roomy s .exneighborStart) : LaidOut z (z.exneighborStart s.neighbor) := by
  unfold Sizes.exneighborStart
  split
  · exact laid
  · next none_ =>
    have none_ : s.neighbor.extNeighborSize = 0 := not_not.mp none_
    obtain ⟨octet, padding⟩ := roomy none_
    have idle : s.neighbor.extNeighborUsed = 0 := Nat.le_zero.mp (none_ ▸ laid.used)
    rw [packBase_full full, ite_self]
    exact cutExt laid.bounds idle octet padding

theorem fillOrAllocExt (laid : LaidOut z t) (found : Option ℕ) (fresh : ExtNeighborTblEnt)
    (beacon : Beacon) (overrun : NeighborTbl)
    (inside : ∀ i ∈ found, i < t.extNeighborUsed) :
    LaidOut z (z.fillOrAllocExt t found fresh beacon overrun) := by
  have used := laid.used
  unfold Sizes.fillOrAllocExt
  cases found with
  | some i =>
    have active : t.extNeighborSize ≠ 0 := by
      have := inside i rfl
      omega
    have apart : z.ExtApart t := (laid.placed active).1
    dsimp only
    rw [if_pos apart]
    exact ⟨laid.bounds.congr rfl rfl laid.bounds.room laid.bounds.size, laid.used,
      laid.placed⟩
  | none =>
    dsimp only
    split
    · exact laid
    · next free =>
      have active : t.extNeighborSize ≠ 0 := by omega
      have apart : z.ExtApart t := (laid.placed active).1
      have room : t.extNeighborUsed + 1 ≤ t.extNeighborSize := by omega
      rw [if_pos apart]
      exact ⟨laid.bounds.congr rfl rfl laid.bounds.room laid.bounds.size, room, laid.placed⟩

end LaidOut

/-- The loop of `zb_nwk_exneighbor_stop`: the base table grows by no more bytes than the extended
entries read leave, so no write reaches an entry still to be read. -/
theorem promoteAll_laidOut {z : Sizes} {offset : ℕ} (myPanidRef : ℕ)
    (junk : ℕ → IeeeAddrCompressed) {rounds i freeSize : ℕ} {s : Tables}
    (bounds : InBounds s.neighbor)
    (grown : s.neighbor.baseNeighborSize * z.base + freeSize ≤ offset + i * z.ext)
    (inside : offset + (i + rounds) * z.ext ≤ neighborTableSize * z.base) :
    InBounds (z.promoteAll myPanidRef junk rounds i freeSize s).neighbor ∧
      ∀ w ∈ z.stopWrites myPanidRef junk rounds i freeSize s,
        w.place < w.size ∧ w.size ≤ neighborTableSize ∧
          ∀ j, w.round ≤ j → (w.place + 1) * z.base ≤ offset + j * z.ext := by
  induction rounds generalizing i freeSize s with
  | zero => exact ⟨bounds, fun w absurd_ => nomatch absurd_⟩
  | succ rounds induction_ =>
    unfold Sizes.promoteAll Sizes.stopWrites
    have same := promoteExt_sizes s myPanidRef i (junk i)
    have promoted := bounds.promoteExt myPanidRef i (junk i)
    dsimp only
    rw [same]
    have next : (s.neighbor.baseNeighborSize + (freeSize + z.ext) % 2 ^ 8 / z.base) * z.base +
        (freeSize + z.ext) % 2 ^ 8 % z.base ≤ offset + (i + 1) * z.ext := by
      have parts := Nat.div_add_mod' ((freeSize + z.ext) % 2 ^ 8) z.base
      have octet := Nat.mod_le (freeSize + z.ext) (2 ^ 8)
      rw [Nat.add_mul, Nat.add_mul]
      omega
    have later : offset + (i + 1) * z.ext ≤ neighborTableSize * z.base := by
      refine Nat.le_trans (Nat.add_le_add_left (Nat.mul_le_mul_right _ ?_) _) inside
      omega
    have small : s.neighbor.baseNeighborSize + (freeSize + z.ext) % 2 ^ 8 / z.base ≤
        neighborTableSize := by
      refine Nat.le_of_mul_le_mul_right ?_ z.base_pos
      omega
    have grownBounds : InBounds ((promoteExt s myPanidRef i (junk i)).neighbor.setBaseSize
        (s.neighbor.baseNeighborSize + (freeSize + z.ext) % 2 ^ 8 / z.base)) :=
      promoted.congr rfl rfl (Nat.le_trans promoted.room (same ▸ Nat.le_add_right _ _)) small
    have shifted : offset + (i + 1 + rounds) * z.ext ≤ neighborTableSize * z.base := by
      rwa [Nat.add_assoc, Nat.add_comm 1 rounds]
    obtain ⟨after, writes⟩ := induction_ (s := ⟨(promoteExt s myPanidRef i (junk i)).addr, _⟩)
      grownBounds next shifted
    refine ⟨after, fun w member => ?_⟩
    rcases List.mem_append.mp member with first | rest
    · obtain ⟨place, held, rfl⟩ := List.mem_map.mp first
      have below := bounds.promotedPlace (Option.mem_toList.mp held)
      refine ⟨below, bounds.size, fun j reached => ?_⟩
      calc (place + 1) * z.base ≤ s.neighbor.baseNeighborSize * z.base :=
            Nat.mul_le_mul_right _ below
        _ ≤ offset + i * z.ext := Nat.le_trans (Nat.le_add_right _ _) grown
        _ ≤ offset + j * z.ext := Nat.add_le_add_left (Nat.mul_le_mul_right _ reached) _
    · exact writes w rest

/-! ## Runs -/

namespace LaidOut

variable {z : Sizes} {s : Tables}

theorem neighborGet (laid : LaidOut z s.neighbor) (addr : ℕ) (createIfAbsent : Bool)
    (nibDepth : ℕ) (overrun : NeighborTbl)
    (roomy : z.Roomy s (.neighborGet addr createIfAbsent nibDepth overrun)) :
    LaidOut z (neighborGet s addr createIfAbsent nibDepth overrun).1.neighbor ∧
      z.Good s (.neighborGet addr createIfAbsent nibDepth overrun) := by
  unfold Sizes.Good NeighborTable.neighborGet
  dsimp only
  split
  · next present =>
    refine ⟨laid, fun n found => ?_⟩
    cases found
    exact Nat.lt_of_lt_of_le (laid.bounds.index addr present) laid.bounds.room
  · next absent =>
    split
    · next create =>
      split
      · exact ⟨laid, fun n absurd_ => nomatch absurd_⟩
      · have free := roomy create (not_not.mp absent)
        rw [if_pos free]
        refine ⟨⟨laid.bounds.append _ _ free, laid.used, laid.placed⟩, fun n found => ?_⟩
        cases found
        exact free
    · exact ⟨laid, fun n absurd_ => nomatch absurd_⟩

theorem neighborExtToBaseTmp (laid : LaidOut z s.neighbor) (ext : ExtNeighborTblEnt)
    (junk : IeeeAddrCompressed) (junkRef : ℕ) :
    LaidOut z (neighborExtToBaseTmp s ext junk junkRef).neighbor := by
  unfold NeighborTable.neighborExtToBaseTmp
  dsimp only
  split
  · exact laid
  · next room =>
    exact ⟨laid.bounds.append _ _ (Nat.lt_of_not_le room), laid.used, laid.placed⟩

/-- All that is moved at the end of a discovery lies where the loop may write. -/
theorem stopWrites (laid : LaidOut z s.neighbor) (myPanidRef : ℕ)
    (junk : ℕ → IeeeAddrCompressed) :
    InBounds (z.promoteAll myPanidRef junk s.neighbor.extNeighborUsed 0 0 s).neighbor ∧
      ∀ w ∈ z.stopWrites myPanidRef junk s.neighbor.extNeighborUsed 0 0 s,
        w.place < w.size ∧ w.size ≤ neighborTableSize ∧
          ∀ j, w.round ≤ j → j < s.neighbor.extNeighborUsed →
            z.Disjoint s.neighbor w.place j := by
  by_cases idle : s.neighbor.extNeighborSize = 0
  · have none_ : s.neighbor.extNeighborUsed = 0 := Nat.le_zero.mp (idle ▸ laid.used)
    rw [none_]
    exact ⟨laid.bounds, fun w absurd_ => nomatch absurd_⟩
  · obtain ⟨apart, inside⟩ := laid.placed idle
    have fits : s.neighbor.extOffset + (0 + s.neighbor.extNeighborUsed) * z.ext ≤
        neighborTableSize * z.base := by
      refine Nat.le_trans (Nat.add_le_add_left (Nat.mul_le_mul_right _ ?_) _) inside
      rw [Nat.zero_add]
      exact laid.used
    have grown : s.neighbor.baseNeighborSize * z.base + 0 ≤ s.neighbor.extOffset + 0 * z.ext := by
      rwa [Nat.zero_mul]
    obtain ⟨after, writes⟩ := promoteAll_laidOut myPanidRef junk laid.bounds grown fits
    refine ⟨after, fun w member => ?_⟩
    obtain ⟨below, size, free⟩ := writes w member
    exact ⟨below, size, fun j reached _ => .inl (free j reached)⟩

theorem exneighborStop (laid : LaidOut z s.neighbor) (joined : Bool) (myPanidRef : ℕ)
    (junk : ℕ → IeeeAddrCompressed) (left : ℕ → NeighborTblEnt) :
    LaidOut z (z.exneighborStop s joined myPanidRef junk left).neighbor := by
  have bounds : InBounds (if joined then
      z.promoteAll myPanidRef junk s.neighbor.extNeighborUsed 0 0 s else s).neighbor := by
    split
    · exact (laid.stopWrites myPanidRef junk).1
    · exact laid.bounds
  exact ⟨bounds.congr rfl rfl (Nat.le_trans bounds.room bounds.size) (Nat.le_refl _),
    Nat.le_refl _, fun some_ => absurd rfl some_⟩

theorem found_used {t : NeighborTbl} (p : ℕ → Bool) (l : List ℕ)
    (used : ∀ i ∈ l, i < t.extNeighborUsed) : ∀ i ∈ l.find? p, i < t.extNeighborUsed :=
  fun i found => used i (List.mem_of_find?_eq_some found)

theorem exneighborByShort (laid : LaidOut z s.neighbor) (panidRef shortAddr : ℕ)
    (beacon : Beacon) (overrun : NeighborTbl) :
    LaidOut z (z.exneighborByShort s.neighbor panidRef shortAddr beacon overrun) := by
  apply laid.fillOrAllocExt
  apply found_used
  exact fun i inside => List.mem_range.mp inside

theorem exneighborByIeee (laid : LaidOut z s.neighbor) (panidRef : ℕ) (longAddr : IeeeAddr)
    (beacon : Beacon) (junk : IeeeAddrCompressed) (overrun : NeighborTbl) :
    LaidOut z (z.exneighborByIeee s panidRef longAddr beacon junk overrun).neighbor := by
  apply laid.fillOrAllocExt
  apply found_used
  exact fun i inside => List.mem_range.mp (List.mem_reverse.mp inside)

theorem step (laid : LaidOut z s.neighbor) (full : Full s.neighbor) (op : Op)
    (roomy : z.Roomy s op) : LaidOut z (z.step s op).neighbor ∧ z.Good s op := by
  cases op with
  | neighborGet addr createIfAbsent nibDepth overrun =>
    exact laid.neighborGet addr createIfAbsent nibDepth overrun roomy
  | neighborDelete ref =>
    have kept : NeighborTable.neighborDelete s.neighbor ref = s.neighbor :=
      if_neg (not_not.mpr roomy)
    rw [Sizes.step, kept]
    exact ⟨laid, trivial⟩
  | exneighborStart =>
    have started := laid.exneighborStart full roomy
    exact ⟨started, started.placed⟩
  | exneighborByShort panidRef shortAddr beacon overrun =>
    have filled := laid.exneighborByShort panidRef shortAddr beacon overrun
    exact ⟨filled, filled.placed, filled.used⟩
  | exneighborByIeee panidRef longAddr beacon junk overrun =>
    have filled := laid.exneighborByIeee panidRef longAddr beacon junk overrun
    exact ⟨filled, filled.placed, filled.used⟩
  | neighborExtToBaseTmp i junk junkRef =>
    refine ⟨laid.neighborExtToBaseTmp _ junk junkRef, fun more => ?_⟩
    by_contra whole
    rw [NeighborTable.neighborExtToBaseTmp, if_pos (Nat.le_of_not_lt whole)] at more
    exact Nat.lt_irrefl _ more
  | exneighborStop joined myPanidRef junk left =>
    exact ⟨laid.exneighborStop joined myPanidRef junk left, fun _ =>
      (laid.stopWrites myPanidRef junk).2⟩
  | addressTable addr => exact ⟨laid, trivial⟩

/-- A write into the extended table leaves the base table alone. -/
theorem fillOrAllocExt_base {t : NeighborTbl} (laid : LaidOut z t) {found : Option ℕ}
    (fresh : ExtNeighborTblEnt) (beacon : Beacon) (overrun : NeighborTbl)
    (inside : ∀ i ∈ found, i < t.extNeighborUsed) :
    (z.fillOrAllocExt t found fresh beacon overrun).baseNeighbor = t.baseNeighbor ∧
      (z.fillOrAllocExt t found fresh beacon overrun).addrToNeighbor = t.addrToNeighbor ∧
      (z.fillOrAllocExt t found fresh beacon overrun).baseNeighborUsed = t.baseNeighborUsed := by
  have used := laid.used
  unfold Sizes.fillOrAllocExt
  cases found with
  | some i =>
    have active : t.extNeighborSize ≠ 0 := by
      have := inside i rfl
      omega
    have apart : z.ExtApart t := (laid.placed active).1
    dsimp only
    rw [if_pos apart]
    exact ⟨rfl, rfl, rfl⟩
  | none =>
    dsimp only
    split
    · exact ⟨rfl, rfl, rfl⟩
    · have active : t.extNeighborSize ≠ 0 := by omega
      have apart : z.ExtApart t := (laid.placed active).1
      rw [if_pos apart]
      exact ⟨rfl, rfl, rfl⟩

/-- Nothing makes holes. -/
theorem full_step (laid : LaidOut z s.neighbor) (full : Full s.neighbor) (op : Op)
    (roomy : z.Roomy s op) : Full (z.step s op).neighbor := by
  have filled : ∀ {found : Option ℕ} {c : AddrGlobals} (fresh : ExtNeighborTblEnt) (beacon : Beacon)
      (overrun : NeighborTbl), (∀ i ∈ found, i < s.neighbor.extNeighborUsed) →
        Full (⟨c, z.fillOrAllocExt s.neighbor found fresh beacon overrun⟩ : Tables).neighbor := by
    intro found c fresh beacon overrun inside
    obtain ⟨base, -, used⟩ := laid.fillOrAllocExt_base fresh beacon overrun inside
    rw [Full, base, used]
    exact full
  cases op with
  | neighborGet addr createIfAbsent nibDepth overrun =>
    rw [Sizes.step, NeighborTable.neighborGet]
    dsimp only
    split
    · exact full
    · next absent =>
      split
      · next create =>
        split
        · exact full
        · rw [if_pos (roomy create (not_not.mp absent))]
          exact full.append addr rfl
      · exact full
  | neighborDelete ref =>
    have kept : NeighborTable.neighborDelete s.neighbor ref = s.neighbor :=
      if_neg (not_not.mpr roomy)
    rw [Sizes.step, kept]
    exact full
  | exneighborStart =>
    rw [Sizes.step, Sizes.exneighborStart]
    split
    · exact full
    · rw [packBase_full full, ite_self]
      obtain ⟨base, -, used, -⟩ := z.cutExt_fields s.neighbor
      rw [Full, base, used]
      exact full
  | exneighborByShort panidRef shortAddr beacon overrun =>
    exact filled _ beacon overrun <| found_used _ _ fun i inside => List.mem_range.mp inside
  | exneighborByIeee panidRef longAddr beacon junk overrun =>
    exact filled _ beacon overrun <| found_used _ _ fun i inside =>
      List.mem_range.mp (List.mem_reverse.mp inside)
  | neighborExtToBaseTmp i junk junkRef =>
    rw [Sizes.step, NeighborTable.neighborExtToBaseTmp]
    dsimp only
    split
    · exact full
    · exact full.append _ rfl
  | exneighborStop joined myPanidRef junk left =>
    have after : Full (if joined then
        z.promoteAll myPanidRef junk s.neighbor.extNeighborUsed 0 0 s else s).neighbor := by
      split
      · exact full.promoteAll myPanidRef junk s.neighbor.extNeighborUsed 0 0
      · exact full
    exact after.uncover left
  | addressTable addr => exact full

end LaidOut

/-- Whatever the sizes of the two structures are, every step of a run with room is well. -/
theorem layout_good (z : Sizes) (addr : AddrGlobals) (ops : List Op)
    (roomy : Along z.step z.Roomy ⟨addr, .init⟩ ops) :
    Along z.step z.Good ⟨addr, .init⟩ ops := by
  have kept : ∀ (s : Tables) op, LaidOut z s.neighbor ∧ Full s.neighbor → z.Roomy s op →
      LaidOut z (z.step s op).neighbor ∧ Full (z.step s op).neighbor :=
    fun s op laid met => ⟨(laid.1.step laid.2 op met).1, laid.1.full_step laid.2 op met⟩
  exact along_of_invariant kept (fun s op laid met => (laid.1.step laid.2 op met).2) _ ops
    ⟨LaidOut.init, Full.init⟩ roomy

/-- Three devices, one of them heard in a beacon. -/
def roomyOps : List Op :=
  let heard : Beacon := ⟨200, 1, 1, .router⟩
  [.neighborGet 5 true 1 .init, .neighborGet 6 true 1 .init, .exneighborStart,
    .exneighborByShort 0 9 heard .init, .exneighborStop true 0 (fun _ => .zero) fun _ => .zero]

theorem layout_good_roomyOps : Along linuxSizes.step linuxSizes.Good ⟨.zero, .init⟩ roomyOps :=
  layout_good linuxSizes .zero roomyOps (by decide +kernel)

/-- With 17 entries in use the cut leaves no place, and the next device gets the first behind
the base table. -/
def seventeenEntries : List Op :=
  (List.range 17).map (.neighborGet · true 1 .init) ++ [.exneighborStart]

theorem layout_outside :
    ¬∀ (z : Sizes) addr ops, Along z.step z.Good ⟨addr, .init⟩ ops := by
  intro claim
  have whole := claim linuxSizes .zero (seventeenEntries ++ [.neighborGet 17 true 1 .init])
  have last := ((along_append _ _ _).mp whole).2.1
  have below : 17 < (run linuxSizes.step ⟨.zero, .init⟩ seventeenEntries).neighbor.baseNeighborSize :=
    last 17 (by decide +kernel)
  exact absurd below (by decide +kernel)

end Zboss.NeighborTable
