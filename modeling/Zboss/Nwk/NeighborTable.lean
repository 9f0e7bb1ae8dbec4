import Zboss.Common.AddressTable
import Zboss.Lib.ReverseIndex

/-!
The neighbour table of a router or coordinator (`nwk_neighbor.c`).  Base entries
stand in one array, found by address reference through `addr_to_neighbor`; for a
discovery the array is packed and its end is cut off for the extended table, whose
entries are promoted to base entries when the device has joined.

Both kinds of entries stand in one array of octets, whatever the sizes of their structures
are.  What a discovery has written there is not cleared at its end, so base entries behind
those in use then read as the octets that extended entries left.  The extended table starts
at a byte offset that is kept in an octet.  A write that falls into memory of another table
leaves there an arbitrary `overrun`.
-/

namespace Zboss.NeighborTable

open Zboss.AddressTable

def neighborTableSize : ℕ := 32

/-- The sizes of `zb_neighbor_tbl_ent_t` and `zb_ext_neighbor_tbl_ent_t`. -/
structure Sizes where
  base : ℕ
  ext : ℕ
  base_pos : 0 < base
  ext_pos : 0 < ext

/-- The sizes in the Linux build with security, where a reference has four octets: with the
references of one octet that the comment in the header counts, base entries have ten. -/
def linuxSizes : Sizes := ⟨13, 14, by decide, by decide⟩

@[simp] theorem linuxSizes_base : linuxSizes.base = 13 := rfl

@[simp] theorem linuxSizes_ext : linuxSizes.ext = 14 := rfl

/-- `zb_nwk_device_type_t`. -/
inductive DeviceType
  | ed
  | router
  | coordinator
  | none
  deriving DecidableEq, Repr

/-- `zb_nwk_relationship_e`. -/
inductive Relationship
  | parent
  | child
  | sibling
  | noneOfTheAbove
  | previousChild
  | unauthenticatedChild
  deriving DecidableEq, Repr

/-- `zb_neighbor_tbl_ent_t`, less the fields of failures and frame counters. -/
structure NeighborTblEnt where
  addrRef : ℕ
  permitJoining : ℕ
  deviceType : DeviceType
  depth : ℕ
  used : Bool
  rxOnWhenIdle : Bool
  relationship : Relationship
  lqi : ℕ
  deriving DecidableEq, Repr

/-- `zb_ext_neighbor_tbl_ent_t`, less what only the choice of a parent reads. -/
structure ExtNeighborTblEnt where
  shortAddr : ℕ
  longAddr : IeeeAddrCompressed
  lqi : ℕ
  panidRef : ℕ
  depth : ℕ
  permitJoining : ℕ
  deviceType : DeviceType
  deriving DecidableEq, Repr

/-- `zb_neighbor_tbl_t`; `extOffset` is where `ext_neighbor` points to, in bytes from
the first base entry. -/
structure NeighborTbl where
  baseNeighbor : ℕ → NeighborTblEnt
  addrToNeighbor : ℕ → ℕ
  baseNeighborSize : ℕ
  baseNeighborUsed : ℕ
  extNeighbor : ℕ → ExtNeighborTblEnt
  extOffset : ℕ
  extNeighborSize : ℕ
  extNeighborUsed : ℕ

/-- The address and neighbour tables. -/
structure Tables where
  addr : AddrGlobals
  neighbor : NeighborTbl

/-- A zeroed base entry. -/
def NeighborTblEnt.zero : NeighborTblEnt :=
  ⟨0, 0, .ed, 0, false, false, .parent, 0⟩

/-- A zeroed extended entry. -/
def ExtNeighborTblEnt.zero : ExtNeighborTblEnt := ⟨0, .zero, 0, 0, 0, 0, .ed⟩

/-- The zeroed table after `zb_nwk_neighbor_init`. -/
def NeighborTbl.init : NeighborTbl where
  baseNeighbor _ := .zero
  addrToNeighbor _ := 0xff
  baseNeighborSize := neighborTableSize
  baseNeighborUsed := 0
  extNeighbor _ := .zero
  extOffset := 0
  extNeighborSize := 0
  extNeighborUsed := 0

namespace NeighborTbl

/-- Overwrite one base entry. -/
@[simps]
def setBase (t : NeighborTbl) (n : ℕ) (ent : NeighborTblEnt) : NeighborTbl :=
  { t with baseNeighbor := Function.update t.baseNeighbor n ent }

/-- Overwrite one cell of the index. -/
@[simps]
def setIndex (t : NeighborTbl) (ref n : ℕ) : NeighborTbl :=
  { t with addrToNeighbor := Function.update t.addrToNeighbor ref n }

/-- Overwrite one extended entry. -/
@[simps]
def setExt (t : NeighborTbl) (i : ℕ) (ent : ExtNeighborTblEnt) : NeighborTbl :=
  { t with extNeighbor := Function.update t.extNeighbor i ent }

@[simps]
def setBaseUsed (t : NeighborTbl) (used : ℕ) : NeighborTbl := { t with baseNeighborUsed := used }

@[simps]
def setBaseSize (t : NeighborTbl) (size : ℕ) : NeighborTbl := { t with baseNeighborSize := size }

@[simps]
def setExtUsed (t : NeighborTbl) (used : ℕ) : NeighborTbl := { t with extNeighborUsed := used }

@[simps]
def setExtArea (t : NeighborTbl) (offset size : ℕ) : NeighborTbl :=
  { t with extOffset := offset, extNeighborSize := size }

end NeighborTbl

/-- Append a base entry and index it. -/
def appendBase (t : NeighborTbl) (ref : ℕ) (ent : NeighborTblEnt) : NeighborTbl :=
  ((t.setBase t.baseNeighborUsed ent).setIndex ref t.baseNeighborUsed).setBaseUsed
    (t.baseNeighborUsed + 1)

/-- The entry `zb_nwk_neighbor_get` creates; `nibDepth` is the device's own depth. -/
def createdEnt (addr nibDepth : ℕ) : NeighborTblEnt :=
  { NeighborTblEnt.zero with
    used := true, addrRef := addr, relationship := .noneOfTheAbove, permitJoining := 2,
    depth := nibDepth }

/-- `zb_nwk_neighbor_get`.  The test for a full table compares with the last place, so
behind that place entries are appended beyond the end. -/
def neighborGet (s : Tables) (addr : ℕ) (createIfAbsent : Bool) (nibDepth : ℕ)
    (overrun : NeighborTbl) : Tables × Option ℕ :=
  let t := s.neighbor
  if t.addrToNeighbor addr ≠ 0xff then (s, some (t.addrToNeighbor addr))
  else if createIfAbsent then
    if t.baseNeighborUsed + 1 = t.baseNeighborSize then (s, none)
    else
      let t' := if t.baseNeighborUsed < t.baseNeighborSize
        then appendBase t addr (createdEnt addr nibDepth) else overrun
      (⟨addressLock s.addr addr, t'⟩, some t.baseNeighborUsed)
  else (s, none)

/-- A base entry taken out of use. -/
def NeighborTblEnt.unused (ent : NeighborTblEnt) : NeighborTblEnt := { ent with used := false }

/-- `zb_nwk_neighbor_delete`. -/
def neighborDelete (t : NeighborTbl) (ref : ℕ) : NeighborTbl :=
  let n := t.addrToNeighbor ref
  if n ≠ 0xff then (t.setIndex ref 0xff).setBase n (t.baseNeighbor n).unused else t

/-- Move a base entry; its old place stays as a hole. -/
def moveBase (t : NeighborTbl) (i place : ℕ) : NeighborTbl :=
  ((t.setBase place (t.baseNeighbor i)).setIndex (t.baseNeighbor i).addrRef place).setBase i
    (t.baseNeighbor i).unused

/-- The packing loop of `zb_nwk_exneighbor_start` from entry `i` on.  A hole that an
entry was moved over is forgotten. -/
def packBase : ℕ → ℕ → ℕ → ℕ → NeighborTbl → NeighborTbl
  | 0, _, _, _, t => t
  | rounds + 1, i, used, hole, t =>
    if used < t.baseNeighborUsed then
      if (t.baseNeighbor i).used then
        if hole ≠ 0 then packBase rounds (i + 1) (used + 1) (hole - 1) (moveBase t i (i - hole))
        else packBase rounds (i + 1) (used + 1) hole t
      else packBase rounds (i + 1) used (hole + 1) t
    else t

/-- `MAGIC_ROUND_TO_4`. -/
def roundTo4 (a : ℕ) : ℕ := (a + 3) / 4 * 4

/-- `cut`: half of the base entries, or those never used; an octet. -/
def cutOff (size used : ℕ) : ℕ :=
  let cut := size / 2 % 2 ^ 8
  if used > size - cut then (size + 2 ^ 32 - used) % 2 ^ 8 else cut

/-- The size of the base table after the cut. -/
def cutSize (size used : ℕ) : ℕ := (size + 2 ^ 32 - cutOff size used) % 2 ^ 32

/-- What a beacon says about its sender. -/
structure Beacon where
  lqi : ℕ
  depth : ℕ
  permitJoining : ℕ
  deviceType : DeviceType
  deriving DecidableEq

/-- The fields a beacon fills. -/
def fillExt (ent : ExtNeighborTblEnt) (beacon : Beacon) : ExtNeighborTblEnt :=
  { ent with
    lqi := beacon.lqi, depth := beacon.depth, permitJoining := beacon.permitJoining,
    deviceType := beacon.deviceType }

namespace Sizes

variable (z : Sizes)

/-- `off`: where the extended table starts behind the base table; an octet. -/
def extStart (size : ℕ) : ℕ := roundTo4 (size * z.base) % 2 ^ 8

/-- The number of extended entries in the bytes cut off; the bytes are counted in an
octet. -/
def extCount (cut size : ℕ) : ℕ :=
  let bytes : ℤ := cut * z.base - ((z.extStart size : ℤ) - size * z.base)
  (bytes % 2 ^ 8).toNat / z.ext

/-- The last part of `zb_nwk_exneighbor_start`. -/
def cutExt (t : NeighborTbl) : NeighborTbl :=
  let size := cutSize t.baseNeighborSize t.baseNeighborUsed
  let cut := cutOff t.baseNeighborSize t.baseNeighborUsed
  (t.setBaseSize size).setExtArea (z.extStart size) (z.extCount cut size)

/-- `zb_nwk_exneighbor_start`. -/
def exneighborStart (t : NeighborTbl) : NeighborTbl :=
  if t.extNeighborSize ≠ 0 then t
  else
    z.cutExt (if t.baseNeighborUsed ≠ 0 then packBase t.baseNeighborSize 0 0 0 t else t)

/-- The extended table begins behind the base entries. -/
def ExtApart (t : NeighborTbl) : Prop := t.baseNeighborSize * z.base ≤ t.extOffset

instance (t : NeighborTbl) : Decidable (z.ExtApart t) := inferInstanceAs (Decidable (_ ≤ _))

/-- Fill the extended entry found, or the next free one (`alloc_new_extneiboard`). -/
def fillOrAllocExt (t : NeighborTbl) (found : Option ℕ) (fresh : ExtNeighborTblEnt)
    (beacon : Beacon) (overrun : NeighborTbl) : NeighborTbl :=
  match found with
  | some i =>
    if z.ExtApart t then t.setExt i (fillExt (t.extNeighbor i) beacon) else overrun
  | none =>
    if t.extNeighborUsed = t.extNeighborSize then t
    else if z.ExtApart t then
      (t.setExt t.extNeighborUsed (fillExt fresh beacon)).setExtUsed (t.extNeighborUsed + 1)
    else overrun

/-- `zb_nwk_exneighbor_by_short` and what the beacon handler writes into the entry. -/
def exneighborByShort (t : NeighborTbl) (panidRef shortAddr : ℕ) (beacon : Beacon)
    (overrun : NeighborTbl) : NeighborTbl :=
  let found := (List.range t.extNeighborUsed).find? fun i =>
    decide ((t.extNeighbor i).shortAddr = shortAddr ∧ (t.extNeighbor i).panidRef = panidRef)
  z.fillOrAllocExt t found
    { ExtNeighborTblEnt.zero with shortAddr := shortAddr, panidRef := panidRef } beacon overrun

/-- `zb_nwk_exneighbor_by_ieee` and what the beacon handler writes into the entry; the
search does not stop at the first match. -/
def exneighborByIeee (s : Tables) (panidRef : ℕ) (longAddr : IeeeAddr) (beacon : Beacon)
    (junk : IeeeAddrCompressed) (overrun : NeighborTbl) : Tables :=
  let t := s.neighbor
  let (addr, compressed) := ieeeAddrCompress s.addr longAddr junk
  let found := (List.range t.extNeighborUsed).reverse.find? fun i =>
    decide ((t.extNeighbor i).panidRef = panidRef ∧ (t.extNeighbor i).longAddr = compressed)
  ⟨addr, z.fillOrAllocExt t found
    { ExtNeighborTblEnt.zero with
      shortAddr := 0xffff, panidRef := panidRef, longAddr := compressed } beacon overrun⟩

theorem cutExt_fields (t : NeighborTbl) : (z.cutExt t).baseNeighbor = t.baseNeighbor ∧
    (z.cutExt t).addrToNeighbor = t.addrToNeighbor ∧
    (z.cutExt t).baseNeighborUsed = t.baseNeighborUsed ∧
    (z.cutExt t).extNeighborUsed = t.extNeighborUsed := by
  refine ⟨?_, ?_, by simp [cutExt], by simp [cutExt]⟩
  · funext n
    simp [cutExt]
  · funext ref
    simp [cutExt]

theorem cutExt_baseNeighborSize (t : NeighborTbl) : (z.cutExt t).baseNeighborSize =
    cutSize t.baseNeighborSize t.baseNeighborUsed := by
  simp only [cutExt, NeighborTbl.setExtArea_baseNeighborSize,
    NeighborTbl.setBaseSize_baseNeighborSize]

theorem cutExt_extOffset (t : NeighborTbl) : (z.cutExt t).extOffset =
    z.extStart (cutSize t.baseNeighborSize t.baseNeighborUsed) := by
  simp only [cutExt, NeighborTbl.setExtArea_extOffset]

theorem cutExt_extNeighborSize (t : NeighborTbl) : (z.cutExt t).extNeighborSize =
    z.extCount (cutOff t.baseNeighborSize t.baseNeighborUsed)
      (cutSize t.baseNeighborSize t.baseNeighborUsed) := by
  simp only [cutExt, NeighborTbl.setExtArea_extNeighborSize]

end Sizes

/-- The base entry made from an extended one by `zb_nwk_neighbor_ext_to_base_tmp`. -/
def tmpEnt (ext : ExtNeighborTblEnt) (ref : ℕ) : NeighborTblEnt :=
  { NeighborTblEnt.zero with
    deviceType := ext.deviceType, rxOnWhenIdle := ext.deviceType ≠ .ed,
    relationship := .noneOfTheAbove, used := true, addrRef := ref, lqi := ext.lqi }

/-- The reference `zb_nwk_neighbor_ext_to_base_tmp` works with: it does not look at the
result of the lookup, and after a failure the variable is uninitialised. -/
def tmpRef (s : Tables) (ext : ExtNeighborTblEnt) (junk : IeeeAddrCompressed) (junkRef : ℕ) :
    AddrGlobals × ℕ :=
  match addressByIeee s.addr (addressDecompress s.addr ext.longAddr) true false junk with
  | (addr, .ok ref) => (addr, ref)
  | (addr, .error _) => (addr, junkRef)

/-- `zb_nwk_neighbor_ext_to_base_tmp`; `addr_to_neighbor` is not consulted. -/
def neighborExtToBaseTmp (s : Tables) (ext : ExtNeighborTblEnt) (junk : IeeeAddrCompressed)
    (junkRef : ℕ) : Tables :=
  let t := s.neighbor
  if t.baseNeighborUsed ≥ t.baseNeighborSize then s
  else
    let (addr, ref) := tmpRef s ext junk junkRef
    ⟨addr, appendBase t ref (tmpEnt ext ref)⟩

/-- The address lookup `zb_nwk_exneighbor_stop` makes for an extended entry. -/
def extAddress (c : AddrGlobals) (ext : ExtNeighborTblEnt) (junk : IeeeAddrCompressed) :
    AddrGlobals × Except RetError ℕ :=
  let longAddress := addressDecompress c ext.longAddr
  if ext.shortAddr ≠ 0xffff then
    if ext.longAddr ≠ .zero then addressUpdate c longAddress ext.shortAddr false junk
    else addressByShort c ext.shortAddr true false
  else addressByIeee c longAddress true false junk

/-- The base entry made from an extended one by `zb_nwk_exneighbor_stop`. -/
def promotedEnt (ext : ExtNeighborTblEnt) (ref : ℕ) : NeighborTblEnt :=
  { tmpEnt ext ref with depth := ext.depth, permitJoining := ext.permitJoining }

/-- The base entry updated from an extended one. -/
def updatedEnt (ent : NeighborTblEnt) (ext : ExtNeighborTblEnt) (ref : ℕ) : NeighborTblEnt :=
  { ent with
    deviceType := if ent.deviceType = .none then ext.deviceType else ent.deviceType
    used := true, addrRef := ref, lqi := ext.lqi }

/-- Enter an extended entry whose address is known into the base table. -/
def promote (t : NeighborTbl) (ext : ExtNeighborTblEnt) (ref : ℕ) : NeighborTbl :=
  let n := t.addrToNeighbor ref
  if n ≠ 0xff then t.setBase n (updatedEnt (t.baseNeighbor n) ext ref)
  else if t.baseNeighborUsed < t.baseNeighborSize then appendBase t ref (promotedEnt ext ref)
  else t

/-- The body of the loop of `zb_nwk_exneighbor_stop` up to the growth of the table. -/
def promoteExt (s : Tables) (myPanidRef i : ℕ) (junk : IeeeAddrCompressed) : Tables :=
  let ext := s.neighbor.extNeighbor i
  if ext.panidRef = myPanidRef then
    match extAddress s.addr ext junk with
    | (addr, .ok ref) => ⟨addr, promote s.neighbor ext ref⟩
    | (addr, .error _) => ⟨addr, s.neighbor⟩
  else s

namespace Sizes

variable (z : Sizes)

/-- The loop of `zb_nwk_exneighbor_stop`: each extended entry left behind frees bytes
that the base table grows by. -/
def promoteAll (myPanidRef : ℕ) (junk : ℕ → IeeeAddrCompressed) : ℕ → ℕ → ℕ → Tables → Tables
  | 0, _, _, s => s
  | rounds + 1, i, freeSize, s =>
    let s := promoteExt s myPanidRef i (junk i)
    let freeSize := (freeSize + z.ext) % 2 ^ 8
    let size := s.neighbor.baseNeighborSize + freeSize / z.base
    promoteAll myPanidRef junk rounds (i + 1) (freeSize % z.base)
      ⟨s.addr, s.neighbor.setBaseSize size⟩

/-- An extended entry that has been filled has octets of base entry `n`. -/
def Overlaid (t : NeighborTbl) (n : ℕ) : Prop :=
  n < neighborTableSize ∧ t.extNeighborUsed ≠ 0 ∧ t.extOffset < (n + 1) * z.base ∧
    n * z.base < t.extOffset + t.extNeighborUsed * z.ext

instance (t : NeighborTbl) (n : ℕ) : Decidable (z.Overlaid t n) :=
  inferInstanceAs (Decidable (_ ∧ _ ∧ _ ∧ _))

/-- The base entries that were not in use while a discovery ran from `t`: what its extended
entries left reads as `left`. -/
def uncover (t : NeighborTbl) (left : ℕ → NeighborTblEnt) (after : NeighborTbl) : NeighborTbl :=
  { after with
    baseNeighbor := fun n =>
      if after.baseNeighborUsed ≤ n ∧ z.Overlaid t n then left n else after.baseNeighbor n }

/-- `zb_nwk_exneighbor_stop`. -/
def exneighborStop (s : Tables) (joined : Bool) (myPanidRef : ℕ)
    (junk : ℕ → IeeeAddrCompressed) (left : ℕ → NeighborTblEnt) : Tables :=
  let after := if joined then z.promoteAll myPanidRef junk s.neighbor.extNeighborUsed 0 0 s else s
  ⟨after.addr, (((z.uncover s.neighbor left after.neighbor).setBaseSize
    neighborTableSize).setExtUsed 0).setExtArea 0 0⟩

end Sizes

/-! ## Runs -/

/-- A use of the neighbour table, or anything that happens to the address table. -/
inductive Op
  | neighborGet (addr : ℕ) (createIfAbsent : Bool) (nibDepth : ℕ) (overrun : NeighborTbl)
  | neighborDelete (ref : ℕ)
  | exneighborStart
  | exneighborByShort (panidRef shortAddr : ℕ) (beacon : Beacon) (overrun : NeighborTbl)
  | exneighborByIeee (panidRef : ℕ) (longAddr : IeeeAddr) (beacon : Beacon)
      (junk : IeeeAddrCompressed) (overrun : NeighborTbl)
  | neighborExtToBaseTmp (i : ℕ) (junk : IeeeAddrCompressed) (junkRef : ℕ)
  | exneighborStop (joined : Bool) (myPanidRef : ℕ) (junk : ℕ → IeeeAddrCompressed)
      (left : ℕ → NeighborTblEnt)
  | addressTable (addr : AddrGlobals)

/-- The tables after a step. -/
def Sizes.step (z : Sizes) (s : Tables) : Op → Tables
  | .neighborGet addr createIfAbsent nibDepth overrun =>
    (neighborGet s addr createIfAbsent nibDepth overrun).1
  | .neighborDelete ref => ⟨s.addr, neighborDelete s.neighbor ref⟩
  | .exneighborStart => ⟨s.addr, z.exneighborStart s.neighbor⟩
  | .exneighborByShort panidRef shortAddr beacon overrun =>
    ⟨s.addr, z.exneighborByShort s.neighbor panidRef shortAddr beacon overrun⟩
  | .exneighborByIeee panidRef longAddr beacon junk overrun =>
    z.exneighborByIeee s panidRef longAddr beacon junk overrun
  | .neighborExtToBaseTmp i junk junkRef =>
    neighborExtToBaseTmp s (s.neighbor.extNeighbor i) junk junkRef
  | .exneighborStop joined myPanidRef junk left =>
    z.exneighborStop s joined myPanidRef junk left
  | .addressTable addr => ⟨addr, s.neighbor⟩

end Zboss.NeighborTable
