import Zboss.Common.AddressTable

/-!
The binding table (`aps_bind.c`): source records and destination records in two
compact arrays, the latter with the index of their source.  The searches are
`do .. while` loops, which look at record 0 of an empty table as well; a count that
is taken below zero makes a move run over the memory behind the arrays, which
leaves there an arbitrary `overrun`.
-/

namespace Zboss.Binding

open Zboss.AddressTable Zboss.Cells

/-- `ZB_APS_SRC_BINDING_TABLE_SIZE`. -/
def srcBindingTableSize : ℕ := 32

/-- `ZB_APS_DST_BINDING_TABLE_SIZE`. -/
def dstBindingTableSize : ℕ := 32

/-- `ZB_APS_ADDR_MODE_16_GROUP_ENDP_NOT_PRESENT`. -/
def groupMode : ℕ := 1

/-- `ZB_APS_ADDR_MODE_64_ENDP_PRESENT`. -/
def longMode : ℕ := 3

/-- `zb_aps_bind_src_table_t`. -/
structure BindSrc where
  srcAddr : ℕ
  srcEnd : ℕ
  clusterId : ℕ
  deriving DecidableEq, Repr

/-- The mode and the union of `zb_aps_bind_dst_table_t`. -/
inductive BindDstAddr
  | group (groupAddr : ℕ)
  | long (dstAddr dstEnd : ℕ)
  deriving DecidableEq, Repr

/-- `zb_aps_bind_dst_table_t`. -/
structure BindDst where
  addr : BindDstAddr
  srcTableIndex : ℕ
  deriving DecidableEq, Repr

/-- `zb_aps_binding_table_t`. -/
structure BindingTable where
  srcTable : ℕ → BindSrc
  dstTable : ℕ → BindDst
  srcNElements : ℕ
  dstNElements : ℕ

/-- The zeroed table. -/
def BindingTable.zero : BindingTable where
  srcTable _ := ⟨0, 0, 0⟩
  dstTable _ := ⟨.group 0, 0⟩
  srcNElements := 0
  dstNElements := 0

/-- `zb_apsme_binding_req_t`, with both readings of the destination. -/
structure BindingReq where
  srcAddr : IeeeAddr
  srcEndpoint : ℕ
  clusterid : ℕ
  addrMode : ℕ
  dstAddrLong : IeeeAddr
  dstAddrShort : ℕ
  dstEndpoint : ℕ
  deriving DecidableEq

/-- The status a request ends with. -/
inductive Status
  | ok
  | lookup (e : RetError)
  | invalidBinding
  | illegalRequest
  | tableFull
  deriving DecidableEq, Repr

/-- The binding table and the address table it refers to. -/
structure Tables where
  addr : AddrGlobals
  binding : BindingTable

/-- `aps_find_src_ref`; 255 means not found. -/
def findSrcRef (t : BindingTable) (src : BindSrc) : ℕ :=
  ((List.range (max 1 t.srcNElements)).find? fun l => decide (t.srcTable l = src)).getD 0xff

/-- The destination of a request, its address looked up. -/
def dstLookup (c : AddrGlobals) (req : BindingReq) (junk : IeeeAddrCompressed) :
    AddrGlobals × Except Status BindDstAddr :=
  if req.addrMode = longMode then
    match addressByIeee c req.dstAddrLong true false junk with
    | (c, .ok ref) => (c, .ok (.long ref req.dstEndpoint))
    | (c, .error e) => (c, .error (.lookup e))
  else if req.addrMode = groupMode then (c, .ok (.group req.dstAddrShort))
  else (c, .error .invalidBinding)

/-- The place of the source of a bind: its record, or the next free one. -/
def bindPlace (t : BindingTable) (src : BindSrc) : ℕ :=
  if findSrcRef t src = 0xff then t.srcNElements else findSrcRef t src

/-- Add a destination record, and the source record where it is new. -/
def addBinding (t : BindingTable) (src : BindSrc) (s : ℕ) (addr : BindDstAddr) : BindingTable where
  srcTable := if s = t.srcNElements then Function.update t.srcTable s src else t.srcTable
  srcNElements := if s = t.srcNElements then t.srcNElements + 1 else t.srcNElements
  dstTable := Function.update t.dstTable t.dstNElements ⟨addr, s⟩
  dstNElements := t.dstNElements + 1

/-- `zb_apsme_bind_request`. -/
def bindRequest (tables : Tables) (req : BindingReq) (junk junk' : IeeeAddrCompressed) :
    Tables × Status :=
  let t := tables.binding
  match addressByIeee tables.addr req.srcAddr true false junk with
  | (c, .error e) => (⟨c, t⟩, .lookup e)
  | (c, .ok srcRef) =>
    let src : BindSrc := ⟨srcRef, req.srcEndpoint, req.clusterid⟩
    let s := bindPlace t src
    if s < srcBindingTableSize ∧ t.dstNElements < dstBindingTableSize then
      match dstLookup c req junk' with
      | (c, .error status) => (⟨c, t⟩, status)
      | (c, .ok addr) => (⟨c, addBinding t src s addr⟩, .ok)
    else (⟨c, t⟩, .tableFull)

/-- Move the destination records behind `d` one place to the left. -/
def removeDst (t : BindingTable) (d : ℕ) : BindingTable :=
  { t with
    dstNElements := t.dstNElements - 1
    dstTable := memmove t.dstTable d (d + 1) (t.dstNElements - 1 - d) }

/-- The loop that removes the destination records `ent`, from record `d` on; `found`
says that other records of the same source were met. -/
def dstScan (ent : BindDst) : ℕ → ℕ → Bool → BindingTable → Option (BindingTable × Bool)
  | 0, _, found, t => some (t, found)
  | rounds + 1, d, found, t =>
    if t.dstTable d = ent then
      if t.dstNElements = 0 then none
      else
        let t := removeDst t d
        if d < t.dstNElements then dstScan ent rounds d found t else some (t, found)
    else
      let found := found || decide ((t.dstTable d).srcTableIndex = ent.srcTableIndex)
      if d + 1 < t.dstNElements then dstScan ent rounds (d + 1) found t else some (t, found)

/-- The index correction behind a removed source. -/
def shiftIndex (s : ℕ) (ent : BindDst) : BindDst :=
  if ent.srcTableIndex > s then { ent with srcTableIndex := ent.srcTableIndex - 1 } else ent

/-- Remove a source record and correct the indexes of the destination records. -/
def removeSrc (t : BindingTable) (s : ℕ) : Option BindingTable :=
  if t.srcNElements = 0 then none
  else some { t with
    srcNElements := t.srcNElements - 1
    srcTable := memmove t.srcTable s (s + 1) (t.srcNElements - 1 - s)
    dstTable := fun d =>
      if d < max 1 t.dstNElements then shiftIndex s (t.dstTable d) else t.dstTable d }

/-- Remove a destination record of a source, and the source with its last one. -/
def removeBinding (t : BindingTable) (s : ℕ) (addr : BindDstAddr) : Option BindingTable :=
  match dstScan ⟨addr, s⟩ (t.dstNElements + 1) 0 false t with
  | none => none
  | some (t, found) => if found then some t else removeSrc t s

/-- `zb_apsme_unbind_request`. -/
def unbindRequest (tables : Tables) (req : BindingReq) (junk junk' : IeeeAddrCompressed)
    (overrun : BindingTable) : Tables × Status :=
  let t := tables.binding
  match addressByIeee tables.addr req.srcAddr false false junk with
  | (c, .error _) => (⟨c, t⟩, .illegalRequest)
  | (c, .ok srcRef) =>
    let s := findSrcRef t ⟨srcRef, req.srcEndpoint, req.clusterid⟩
    if s = 0xff then (⟨c, t⟩, .invalidBinding)
    else
      match dstLookup c req junk' with
      | (c, .error status) => (⟨c, t⟩, status)
      | (c, .ok addr) => (⟨c, (removeBinding t s addr).getD overrun⟩, .ok)

end Zboss.Binding
