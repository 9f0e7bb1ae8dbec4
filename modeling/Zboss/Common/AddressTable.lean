import Mathlib
import Zboss.Lib.Bisect
import Zboss.Lib.Cells

/-!
The address translation table (`zb_address.c`): an open hash from the compressed
IEEE address to an entry, an index of the entries sorted by short address, and a
table of manufacturer prefixes.  References to entries are array indexes.

Loops over an array are searches over the list of positions they visit.  The
array `short_sorted` is followed in memory by `n_elements`, so that the byte
behind its last cell reads as the low byte of that counter.
-/

namespace Zboss.AddressTable

open Zboss.Cells Zboss.Bisect

def ieeeAddrTableSize : ℕ := 101

/-- `ZB_DEV_MANUFACTORER_TABLE_SIZE`. -/
def devManufacturerTableSize : ℕ := 16

/-- `(zb_uint16_t)~0`: the entry has no short address. -/
def noShortAddr : ℕ := 0xffff

/-- The first three octets of an IEEE address. -/
structure DevManufacturer where
  octet0 : UInt8
  octet1 : UInt8
  octet2 : UInt8
  deriving DecidableEq, Repr

/-- The last five octets of an IEEE address. -/
structure DeviceId where
  octet0 : UInt8
  octet1 : UInt8
  octet2 : UInt8
  octet3 : UInt8
  octet4 : UInt8
  deriving DecidableEq, Repr

structure IeeeAddr where
  devManufacturer : DevManufacturer
  deviceId : DeviceId
  deriving DecidableEq, Repr

/-- `g_zero_addr`. -/
def IeeeAddr.zero : IeeeAddr := ⟨⟨0, 0, 0⟩, ⟨0, 0, 0, 0, 0⟩⟩

/-- `zb_ieee_addr_compressed_t`: the manufacturer is an index into its table. -/
structure IeeeAddrCompressed where
  devManufacturer : ℕ
  deviceId : DeviceId
  deriving DecidableEq, Repr

def IeeeAddrCompressed.zero : IeeeAddrCompressed := ⟨0, ⟨0, 0, 0, 0, 0⟩⟩

/-- `zb_address_map_t`; `lockCnt` has 4 bits and `apsDupClock` 2. -/
structure AddressMap where
  ieeeAddr : IeeeAddrCompressed
  addr : ℕ
  apsDupCounter : ℕ
  used : Bool
  lockCnt : ℕ
  clock : Bool
  apsDupClock : ℕ
  deriving DecidableEq, Repr

/-- `zb_addr_globals_t`, less its PAN id map. -/
structure AddrGlobals where
  usedManufacturer : ℕ → Bool
  devManufacturer : ℕ → DevManufacturer
  addrMap : ℕ → AddressMap
  shortSorted : ℕ → ℕ
  nElements : ℕ
  nSortedElements : ℕ
  clockI : ℕ

/-- A zeroed `zb_address_map_t`. -/
def AddressMap.zero : AddressMap := ⟨.zero, 0, 0, false, 0, false, 0⟩

/-- The zeroed address context. -/
def AddrGlobals.zero : AddrGlobals where
  usedManufacturer _ := false
  devManufacturer _ := ⟨0, 0, 0⟩
  addrMap _ := .zero
  shortSorted _ := 0
  nElements := 0
  nSortedElements := 0
  clockI := 0

namespace AddressMap

@[simps]
def setPair (ent : AddressMap) (shortAddr : ℕ) (ieee : IeeeAddrCompressed) : AddressMap :=
  { ent with addr := shortAddr, clock := true, ieeeAddr := ieee }

@[simps]
def setIeeeAddr (ent : AddressMap) (ieee : IeeeAddrCompressed) : AddressMap :=
  { ent with ieeeAddr := ieee }

@[simps]
def setAddr (ent : AddressMap) (shortAddr : ℕ) : AddressMap := { ent with addr := shortAddr }

@[simps]
def setUsed (ent : AddressMap) (used : Bool) : AddressMap := { ent with used := used }

@[simps]
def setClock (ent : AddressMap) (clock : Bool) : AddressMap := { ent with clock := clock }

/-- The lock counter is a field of 4 bits. -/
@[simps]
def setLockCnt (ent : AddressMap) (lockCnt : ℕ) : AddressMap :=
  { ent with lockCnt := lockCnt % 16 }

end AddressMap

/-- The `zb_ret_t` codes other than `RET_OK` that the table returns. -/
inductive RetError
  | notFound
  | overflow
  deriving DecidableEq, Repr

namespace AddrGlobals

/-- Overwrite one entry. -/
def setEntry (c : AddrGlobals) (ref : ℕ) (ent : AddressMap) : AddrGlobals :=
  { c with addrMap := Function.update c.addrMap ref ent }

/-- The bytes from `&short_sorted[0]` on: one byte behind the array is the low
byte of `n_elements`. -/
def sortedBytes (c : AddrGlobals) (i : ℕ) : ℕ :=
  if i < ieeeAddrTableSize then c.shortSorted i else c.nElements % 256

@[simp] theorem setEntry_addrMap (c : AddrGlobals) (ref : ℕ) (ent : AddressMap) :
    (c.setEntry ref ent).addrMap = Function.update c.addrMap ref ent := rfl

end AddrGlobals

/-- The 101 positions an open-address scan visits, from `start` on. -/
def probe (start : ℕ) : List ℕ :=
  (List.range ieeeAddrTableSize).map fun cnt => (start + cnt) % ieeeAddrTableSize

/-- The manufacturer slot `zb_ieee_addr_compress` settles on: a used slot with
these octets, else the last free one. -/
def manufacturerSlot (c : AddrGlobals) (manufacturer : DevManufacturer) : Option ℕ :=
  ((List.range devManufacturerTableSize).find? fun i =>
    c.usedManufacturer i && decide (c.devManufacturer i = manufacturer)).or
  ((List.range devManufacturerTableSize).reverse.find? fun i => !c.usedManufacturer i)

/-- `zb_ieee_addr_compress`.  With the manufacturer table full the output stays
uninitialised: it is `junk`. -/
def ieeeAddrCompress (c : AddrGlobals) (address : IeeeAddr) (junk : IeeeAddrCompressed) :
    AddrGlobals × IeeeAddrCompressed :=
  match manufacturerSlot c address.devManufacturer with
  | some i =>
    ({ c with
        usedManufacturer := Function.update c.usedManufacturer i true
        devManufacturer := Function.update c.devManufacturer i address.devManufacturer },
      ⟨i, address.deviceId⟩)
  | none => (c, junk)

def addressDecompress (c : AddrGlobals) (compressed : IeeeAddrCompressed) : IeeeAddr :=
  ⟨c.devManufacturer compressed.devManufacturer, compressed.deviceId⟩

/-- `ZB_HASH_FUNC_STEP` on 32-bit words. -/
def hashFuncStep (hashVar v : ℕ) : ℕ := (hashVar * 32 + hashVar + v) % 2 ^ 32

/-- `zb_address_compressed_ieee_hash`. -/
def compressedIeeeHash (compressed : IeeeAddrCompressed) : ℕ :=
  let d := compressed.deviceId
  hashFuncStep (hashFuncStep (hashFuncStep (hashFuncStep 5381 d.octet0.toNat)
    d.octet2.toNat) d.octet3.toNat) d.octet4.toNat % 2 ^ 31 % ieeeAddrTableSize

def ieeeSearch (c : AddrGlobals) (compressed : IeeeAddrCompressed) : Option ℕ :=
  (probe (compressedIeeeHash compressed)).find? fun i =>
    (c.addrMap i).used && decide ((c.addrMap i).ieeeAddr = compressed)

/-- The short address of the entry in the given cell of the sorted index. -/
def sortedAddr (c : AddrGlobals) (i : ℕ) : ℕ := (c.addrMap (c.shortSorted i)).addr

/-- The cell the binary search of `short_search` ends at. -/
def searchPlace (c : AddrGlobals) (shortAddr : ℕ) : ℕ :=
  let n := c.nSortedElements
  if 1 < n then bisect (fun i => decide (shortAddr > sortedAddr c i)) n 0 n else 0

def shortSearch (c : AddrGlobals) (shortAddr : ℕ) : Option ℕ :=
  let l := searchPlace c shortAddr
  if 0 < c.nSortedElements ∧ l < c.nSortedElements ∧ shortAddr = sortedAddr c l
    then some (c.shortSorted l)
    else none

/-- The place `add_short_sorted` finds for a new short address. -/
def sortedPlace (c : AddrGlobals) (shortAddr : ℕ) : ℕ :=
  let n := c.nSortedElements
  let l := if 1 < n then bisect (fun i => decide (shortAddr ≥ sortedAddr c i)) n 0 n else 0
  if 0 < n ∧ l < n ∧ shortAddr > sortedAddr c l then l + 1 else l

def addShortSorted (c : AddrGlobals) (ref shortAddr : ℕ) : AddrGlobals :=
  let n := c.nSortedElements
  let l := sortedPlace c shortAddr
  let moved := if l < n then memmove c.shortSorted (l + 1) l (n - l) else c.shortSorted
  { c with shortSorted := Function.update moved l ref, nSortedElements := n + 1 }

/-- The loop of `del_short_sorted` from cell `i` on, over the bytes of the index:
`n` is not decremented before the loop ends, and the move takes `n - i` bytes,
the one behind the live cells among them. -/
def delScan (ref n : ℕ) : ℕ → ℕ → (ℕ → ℕ) → ℕ → (ℕ → ℕ) × ℕ
  | 0, _, bytes, dec => (bytes, dec)
  | rounds + 1, i, bytes, dec =>
    if bytes i = ref then
      delScan ref n rounds (i + 1)
        (if i ≠ n - 1 then memmove bytes i (i + 1) (n - i) else bytes) (dec + 1)
    else delScan ref n rounds (i + 1) bytes dec

def delShortSorted (c : AddrGlobals) (ref : ℕ) : AddrGlobals :=
  let scanned := delScan ref c.nSortedElements c.nSortedElements 0 c.sortedBytes 0
  { c with shortSorted := scanned.1, nSortedElements := c.nSortedElements - scanned.2 }

/-- The variables of the loops of `clock_tick`. -/
structure ClockScan where
  addrMap : ℕ → AddressMap
  clockI : ℕ
  cnt : ℕ
  found : Bool

/-- One of the two loops of `clock_tick`. -/
def clockScan (nElements limit : ℕ) : ℕ → ClockScan → ClockScan
  | 0, scan => scan
  | rounds + 1, scan =>
    if scan.clockI < limit ∧ scan.cnt < nElements then
      let ent := scan.addrMap scan.clockI
      if ent.used then
        if ent.lockCnt = 0 then
          { addrMap := Function.update scan.addrMap scan.clockI (ent.setClock false)
            clockI := scan.clockI + 1
            cnt := scan.cnt + 1
            found := true }
        else clockScan nElements limit rounds
          { scan with clockI := scan.clockI + 1, cnt := scan.cnt + 1 }
      else clockScan nElements limit rounds { scan with clockI := scan.clockI + 1 }
    else scan

/-- `clock_tick`: clear the clock of the next used and unlocked entry. -/
def clockTick (c : AddrGlobals) : AddrGlobals :=
  let limit := c.clockI
  let first := clockScan c.nElements ieeeAddrTableSize ieeeAddrTableSize
    ⟨c.addrMap, c.clockI, 0, false⟩
  let second := if !first.found && decide (first.cnt < c.nElements)
    then clockScan c.nElements limit limit { first with clockI := 0 }
    else first
  { c with addrMap := second.addrMap, clockI := second.clockI }

/-- Where `addr_add` starts; a missing `ieeeCompressed` is the null pointer. -/
def startSlot : Option IeeeAddrCompressed → ℕ
  | some compressed => compressedIeeeHash compressed
  | none => 0

/-- The first free position from the start on. -/
def freeSlot (c : AddrGlobals) (ieeeCompressed : Option IeeeAddrCompressed) : Option ℕ :=
  (probe (startSlot ieeeCompressed)).find? fun i => !(c.addrMap i).used

/-- The rest of `addr_add`: fill the entry and enter it into the index. -/
def fillEntry (c : AddrGlobals) (i : ℕ) (ieeeCompressed : Option IeeeAddrCompressed)
    (shortAddr : ℕ) : AddrGlobals :=
  let used := (c.addrMap i).used
  let c := c.setEntry i ((c.addrMap i).setPair shortAddr (ieeeCompressed.getD .zero))
  let c := if shortAddr ≠ noShortAddr
    then addShortSorted (if used then delShortSorted c i else c) i shortAddr
    else c
  let c := if used then c else { c with nElements := c.nElements + 1 }
  c.setEntry i ((c.addrMap i).setUsed true)

def addrAdd (c : AddrGlobals) (ieeeCompressed : Option IeeeAddrCompressed) (shortAddr : ℕ) :
    AddrGlobals × Except RetError ℕ :=
  match freeSlot c ieeeCompressed with
  | none => (c, .error .overflow)
  | some i => (fillEntry (clockTick c) i ieeeCompressed shortAddr, .ok i)

/-- `zb_address_delete`; the counter is an unsigned 32-bit word. -/
def addressDelete (c : AddrGlobals) (ref : ℕ) : AddrGlobals :=
  let c := delShortSorted c ref
  let c := c.setEntry ref ((c.addrMap ref).setUsed false)
  { c with nElements := (c.nElements + (2 ^ 32 - 1)) % 2 ^ 32 }

def addressLock (c : AddrGlobals) (ref : ℕ) : AddrGlobals :=
  c.setEntry ref (((c.addrMap ref).setLockCnt ((c.addrMap ref).lockCnt + 1)).setClock true)

def addressUnlock (c : AddrGlobals) (ref : ℕ) : AddrGlobals :=
  c.setEntry ref ((c.addrMap ref).setLockCnt ((c.addrMap ref).lockCnt + 15))

/-- The common tail of the two lookups: lock what was found or created. -/
def lockResult (lock : Bool) (result : AddrGlobals × Except RetError ℕ) :
    AddrGlobals × Except RetError ℕ :=
  match result with
  | (c, .ok ref) => (if lock then addressLock c ref else c, .ok ref)
  | (c, .error e) => (c, .error e)

/-- Mark an entry as recently used. -/
def touch (c : AddrGlobals) (ref : ℕ) : AddrGlobals :=
  c.setEntry ref ((c.addrMap ref).setClock true)

def addressByIeee (c : AddrGlobals) (ieee : IeeeAddr) (create lock : Bool)
    (junk : IeeeAddrCompressed) : AddrGlobals × Except RetError ℕ :=
  let (c, compressed) := ieeeAddrCompress c ieee junk
  lockResult lock <| match ieeeSearch c compressed with
    | some ref => (touch c ref, .ok ref)
    | none => if create then addrAdd c (some compressed) noShortAddr else (c, .error .notFound)

def addressByShort (c : AddrGlobals) (shortAddress : ℕ) (create lock : Bool) :
    AddrGlobals × Except RetError ℕ :=
  lockResult lock <| match shortSearch c shortAddress with
    | some ref => (touch c ref, .ok ref)
    | none => if create then addrAdd c none shortAddress else (c, .error .notFound)

/-- The first half of `zb_address_update`: when both addresses are known but in
two entries, the unlocked one goes.  Yields the entry to store the pair in. -/
def resolveConflict (c : AddrGlobals) : Option ℕ → Option ℕ → AddrGlobals × Option ℕ
  | some ref, some refLong =>
    if ref ≠ refLong then
      if (c.addrMap ref).lockCnt = 0 then (addressDelete c ref, some refLong)
      else if (c.addrMap refLong).lockCnt = 0 then (addressDelete c refLong, some ref)
      else (c, some ref)
    else (c, some ref)
  | some ref, none => (c, some ref)
  | none, refLong => (c, refLong)

/-- The second half of `zb_address_update`: store the pair in a known entry. -/
def storePair (c : AddrGlobals) (ref : ℕ) (compressed : IeeeAddrCompressed)
    (shortAddress : ℕ) : AddrGlobals :=
  let c := c.setEntry ref ((c.addrMap ref).setIeeeAddr compressed)
  let c := if (c.addrMap ref).addr ≠ shortAddress then
      let c := if (c.addrMap ref).addr ≠ noShortAddr then delShortSorted c ref else c
      let c := c.setEntry ref ((c.addrMap ref).setAddr shortAddress)
      addShortSorted c ref shortAddress
    else c
  touch c ref

def addressUpdate (c : AddrGlobals) (ieeeAddress : IeeeAddr) (shortAddress : ℕ) (lock : Bool)
    (junk : IeeeAddrCompressed) : AddrGlobals × Except RetError ℕ :=
  let (c, compressed) := ieeeAddrCompress c ieeeAddress junk
  let (c, known) := resolveConflict c (shortSearch c shortAddress) (ieeeSearch c compressed)
  lockResult lock <| match known with
    | some ref => (storePair c ref compressed shortAddress, .ok ref)
    | none => addrAdd c (some compressed) shortAddress

def addressShortByRef (c : AddrGlobals) (ref : ℕ) : ℕ := (c.addrMap ref).addr

def addressIeeeByRef (c : AddrGlobals) (ref : ℕ) : IeeeAddr :=
  addressDecompress c (c.addrMap ref).ieeeAddr

end Zboss.AddressTable
