import Zboss.Nwk.CommandFrames

/-!
The MAC header codec.  `zb_mac_fill_mhr`, `zb_parse_mhr` and `zb_mac_calculate_mhr_length` each
have their own rules for which fields a header has; they agree on every header without a reserved
addressing mode.  MAC security is not compiled in.
-/

namespace Zboss.MacHeader

open Zboss.AddressTable (IeeeAddr)
open Zboss.Cells
open Zboss.CommandFrames (ieeeOctets le16_shortOctets shortOctets)
open Zboss.FrameHeaders

/-! ## Headers -/

/-- `union zb_addr_u`: a short address lies over the first two octets of the long one. -/
structure AddrU where
  addrLong : IeeeAddr
  deriving DecidableEq, Repr

namespace AddrU

def zero : AddrU := ⟨.zero⟩

def addrShort (addr : AddrU) : UInt16 := (Octets.ofList (ieeeOctets addr.addrLong)).le16 0

/-- A zeroed union whose short address is set. -/
def ofShort (addr : UInt16) : AddrU :=
  ⟨⟨⟨addr.toUInt8, (addr >>> 8).toUInt8, 0⟩, ⟨0, 0, 0, 0, 0⟩⟩⟩

theorem addrShort_ofShort (addr : UInt16) : (ofShort addr).addrShort = addr :=
  le16_shortOctets rfl rfl

end AddrU

/-- `zb_mac_mhr_t`. -/
structure Mhr where
  frameControl : UInt8 × UInt8
  seqNumber : UInt8
  dstPanId : UInt16
  dstAddr : AddrU
  srcPanId : UInt16
  srcAddr : AddrU
  deriving DecidableEq, Repr

namespace Mhr

/-- The frame control as the `ZB_FCF` macros see it. -/
def fcf (mhr : Mhr) : Octets := Octets.ofList [mhr.frameControl.1, mhr.frameControl.2]

def dstMode (mhr : Mhr) : UInt8 := fcfGetDstAddressingMode mhr.fcf

def srcMode (mhr : Mhr) : UInt8 := fcfGetSrcAddressingMode mhr.fcf

def panidCompression (mhr : Mhr) : Bool := fcfGetPanidCompressionBit mhr.fcf

end Mhr

def zbAddr64bitDev : UInt8 := 3

def panIdLength : ℕ := 2

def macCalculateMhrLength (srcAddrMode dstAddrMode : UInt8) (panidCompression : Bool) : ℕ :=
  let len := 3
  let len :=
    if srcAddrMode ≠ 0 then
      let len := if panidCompression then len else len + panIdLength
      let len := len + 2
      if srcAddrMode = zbAddr64bitDev then len + 6 else len
    else len
  if dstAddrMode ≠ 0 then
    let len := len + (panIdLength + 2)
    if dstAddrMode = zbAddr64bitDev then len + 6 else len
  else len

/-- The octets of an address; every mode but the short one is written as a long one. -/
def fillAddr (mode : UInt8) (addr : AddrU) : List UInt8 :=
  if mode = zbAddr16bitDevOrBroadcast then shortOctets addr.addrShort else ieeeOctets addr.addrLong

def fillDst (mhr : Mhr) : List UInt8 :=
  if mhr.dstMode ≠ 0 then shortOctets mhr.dstPanId ++ fillAddr mhr.dstMode mhr.dstAddr else []

def fillSrc (mhr : Mhr) : List UInt8 :=
  if mhr.srcMode ≠ 0 then
    (if mhr.panidCompression then [] else shortOctets mhr.srcPanId) ++
      fillAddr mhr.srcMode mhr.srcAddr
  else []

/-- `zb_mac_fill_mhr`: the octets that are written. -/
def macFillMhr (mhr : Mhr) : List UInt8 :=
  [mhr.frameControl.1, mhr.frameControl.2, mhr.seqNumber] ++ fillDst mhr ++ fillSrc mhr

/-- The address at `i`. -/
def parseAddr (mode : UInt8) (p : Octets) (i : ℕ) : AddrU :=
  if mode = zbAddr16bitDevOrBroadcast then .ofShort (p.le16 i) else ⟨p.ieeeAddr i⟩

/-- The destination fields of `zb_parse_mhr`, read at the second component, which moves on. -/
def parseDst (p : Octets) : Mhr × ℕ → Mhr × ℕ
  | (mhr, ptr) =>
    let val := mhr.dstMode
    if val ≠ 0 then
      ({ mhr with dstPanId := p.le16 ptr, dstAddr := parseAddr val p (ptr + 2) },
        ptr + 2 + addrSize val)
    else (mhr, ptr)

/-- The source fields. -/
def parseSrc (p : Octets) : Mhr × ℕ → Mhr × ℕ
  | (mhr, ptr) =>
    let val := mhr.srcMode
    if val ≠ 0 then
      let (srcPanId, ptr) :=
        if mhr.panidCompression then (mhr.dstPanId, ptr) else (p.le16 ptr, ptr + 2)
      ({ mhr with srcPanId, srcAddr := parseAddr val p ptr }, ptr + addrSize val)
    else (mhr, ptr)

/-- `zb_parse_mhr`: the header, and how long it is. -/
def parseMhr (p : Octets) : Mhr × ℕ :=
  parseSrc p (parseDst p (⟨(p 0, p 1), p 2, 0, .zero, 0, .zero⟩, 3))

/-! ## What is written is read -/

/-- The octets stand at `i`. -/
def Holds (p : Octets) (i : ℕ) (octets : List UInt8) : Prop := segment p i octets.length = octets

variable {p : Octets} {i : ℕ}

theorem holds_append {first second : List UInt8} :
    Holds p i (first ++ second) ↔ Holds p i first ∧ Holds p (i + first.length) second := by
  constructor
  · intro same
    exact (segment_eq_append same).2
  · rintro ⟨left, right⟩
    rw [Holds, List.length_append, segment_add, left, right]

theorem holds_memcpy (octets : List UInt8) : Holds (memcpy p i octets) i octets :=
  segment_memcpy i octets

theorem holds_getD {octets : List UInt8} (holds : Holds p i octets) {j : ℕ}
    (inside : j < octets.length) : p (i + j) = octets.getD j 0 := by
  have cell : (segment p i octets.length)[j]? = octets[j]? := by rw [holds]
  rw [List.getElem?_eq_getElem (by rwa [segment_length]), segment_getElem] at cell
  rw [List.getD_eq_getElem?_getD, ← cell, Option.getD_some]

theorem holds_ofList (octets : List UInt8) : Holds (Octets.ofList octets) 0 octets := by
  apply List.ext_getElem
  · exact segment_length _
  · intro i left right
    rw [segment_getElem, Nat.zero_add, Octets.ofList, List.getD_eq_getElem _ _ right]

theorem segment_cut (q : Octets) (n i m : ℕ) : segment (q.cut n) i m = segment q (n + i) m := by
  apply live_congr
  intro j _
  rw [Octets.cut, Nat.add_assoc]

theorem holds_cut {q : Octets} {n : ℕ} {octets : List UInt8} :
    Holds (q.cut n) i octets ↔ Holds q (n + i) octets := by
  rw [Holds, Holds, segment_cut]

theorem holds_shortOctets {addr : UInt16} (holds : Holds p i (shortOctets addr)) :
    p.le16 i = addr := by
  have octets : [p i, p (i + 1)] = shortOctets addr := holds
  injection octets with low rest
  injection rest with high
  exact le16_shortOctets low high

/-- One octet of a number, shifted back to its place. -/
theorem getLsbD_octet (x n : UInt32) {i k : ℕ} (inside : i < 32)
    (same : n.toBitVec.toNat % 32 = k) :
    ((x >>> n).toUInt8.toUInt32 <<< n).toBitVec.getLsbD i =
      (decide (k ≤ i ∧ i < k + 8) && x.toBitVec.getLsbD i) := by
  have width : BitVec.toNat (32 : BitVec 32) = 32 := rfl
  simp only [UInt32.toBitVec_shiftLeft, UInt8.toBitVec_toUInt32, UInt32.toBitVec_toUInt8,
    UInt32.toBitVec_shiftRight, BitVec.shiftLeft_eq', BitVec.ushiftRight_eq', BitVec.toNat_umod,
    BitVec.getLsbD_setWidth, BitVec.getLsbD_shiftLeft, BitVec.getLsbD_ushiftRight, width, same]
  by_cases here : k ≤ i ∧ i < k + 8
  · have before : ¬i < k := by omega
    have octet : i - k < 8 := by omega
    have word : i - k < 32 := by omega
    simp [here, inside, before, octet, word]
  · by_cases before : i < k
    · simp [here, before]
    · have octet : ¬i - k < 8 := by omega
      simp [here, octet]

theorem le32_octets (x : UInt32) : x.toUInt8.toUInt32 ||| (x >>> 8).toUInt8.toUInt32 <<< 8 |||
    (x >>> 16).toUInt8.toUInt32 <<< 16 ||| (x >>> 24).toUInt8.toUInt32 <<< 24 = x := by
  apply UInt32.toBitVec_inj.mp
  apply BitVec.eq_of_getLsbD_eq
  intro i inside
  have first := getLsbD_octet x 0 inside (k := 0) rfl
  rw [UInt32.shiftRight_zero, UInt32.shiftLeft_zero] at first
  simp only [UInt32.toBitVec_or, BitVec.getLsbD_or]
  rw [first, getLsbD_octet x 8 inside (k := 8) rfl, getLsbD_octet x 16 inside (k := 16) rfl,
    getLsbD_octet x 24 inside (k := 24) rfl]
  cases x.toBitVec.getLsbD i with
  | false => simp only [Bool.and_false, Bool.or_false]
  | true =>
    simp only [Bool.and_true, Bool.or_eq_true, decide_eq_true_eq]
    omega

theorem holds_le32 {value : UInt32} (holds : Holds p i [value.toUInt8, (value >>> 8).toUInt8,
    (value >>> 16).toUInt8, (value >>> 24).toUInt8]) : p.le32 i = value := by
  have octets : [p i, p (i + 1), p (i + 2), p (i + 3)] = [value.toUInt8, (value >>> 8).toUInt8,
    (value >>> 16).toUInt8, (value >>> 24).toUInt8] := holds
  simp only [List.cons.injEq] at octets
  obtain ⟨o0, o1, o2, o3, -⟩ := octets
  rw [Octets.le32, o0, o1, o2, o3, le32_octets]

theorem holds_ieeeOctets {addr : IeeeAddr} (holds : Holds p i (ieeeOctets addr)) :
    p.ieeeAddr i = addr := by
  have octets : [p i, p (i + 1), p (i + 2), p (i + 3), p (i + 4), p (i + 5), p (i + 6),
    p (i + 7)] = ieeeOctets addr := holds
  simp only [ieeeOctets, List.cons.injEq] at octets
  obtain ⟨o0, o1, o2, o3, o4, o5, o6, o7, -⟩ := octets
  rw [Octets.ieeeAddr, o0, o1, o2, o3, o4, o5, o6, o7]

/-- What is read of an address. -/
def AddrU.received (mode : UInt8) (addr : AddrU) : AddrU :=
  if mode = zbAddr16bitDevOrBroadcast then .ofShort addr.addrShort else addr

theorem parseAddr_fillAddr {mode : UInt8} {addr : AddrU} (holds : Holds p i (fillAddr mode addr)) :
    parseAddr mode p i = addr.received mode := by
  rw [fillAddr] at holds
  rw [parseAddr, AddrU.received]
  by_cases short : mode = zbAddr16bitDevOrBroadcast
  · rw [if_pos short] at holds
    rw [if_pos short, if_pos short, holds_shortOctets holds]
  · rw [if_neg short] at holds
    rw [if_neg short, if_neg short, holds_ieeeOctets holds]

theorem fillAddr_length (mode : UInt8) (addr : AddrU) :
    (fillAddr mode addr).length = addrSize mode := by
  rw [fillAddr, addrSize]
  split <;> rfl

/-- A PAN id with an address behind it. -/
theorem parse_pan {panId : UInt16} {mode : UInt8} {addr : AddrU}
    (holds : Holds p i (shortOctets panId ++ fillAddr mode addr)) :
    p.le16 i = panId ∧ parseAddr mode p (i + 2) = addr.received mode := by
  obtain ⟨pan, long⟩ := holds_append.mp holds
  exact ⟨holds_shortOctets pan, parseAddr_fillAddr long⟩

section
variable (mhr : Mhr) {read : Mhr} (same : read.frameControl = mhr.frameControl)
include same

theorem modes_same : read.dstMode = mhr.dstMode ∧ read.srcMode = mhr.srcMode ∧
    read.panidCompression = mhr.panidCompression := by
  rw [Mhr.dstMode, Mhr.srcMode, Mhr.panidCompression, Mhr.fcf, same]
  exact ⟨rfl, rfl, rfl⟩

/-- The header as it is read, with the destination fields of the one that was written. -/
theorem parseDst_holds (holds : Holds p i (fillDst mhr)) :
    parseDst p (read, i) =
      (if mhr.dstMode ≠ 0 then
        { read with dstPanId := mhr.dstPanId, dstAddr := mhr.dstAddr.received mhr.dstMode }
      else read, i + (fillDst mhr).length) := by
  obtain ⟨mode, -, -⟩ := modes_same mhr same
  rw [parseDst, mode]
  rw [fillDst] at holds ⊢
  by_cases present : mhr.dstMode ≠ 0
  · rw [if_pos present] at holds ⊢
    obtain ⟨pan, addr⟩ := parse_pan holds
    rw [if_pos present, if_pos present, pan, addr, List.length_append, fillAddr_length,
      Nat.add_assoc]
    rfl
  · rw [if_neg present, if_neg present, if_neg present]
    rfl

theorem parseSrc_holds (holds : Holds p i (fillSrc mhr)) :
    parseSrc p (read, i) =
      (if mhr.srcMode ≠ 0 then
        { read with
          srcPanId := if mhr.panidCompression then read.dstPanId else mhr.srcPanId
          srcAddr := mhr.srcAddr.received mhr.srcMode }
      else read, i + (fillSrc mhr).length) := by
  obtain ⟨-, mode, compression⟩ := modes_same mhr same
  rw [parseSrc]
  dsimp only
  rw [mode, compression]
  rw [fillSrc] at holds ⊢
  by_cases present : mhr.srcMode ≠ 0
  · rw [if_pos present] at holds ⊢
    rw [if_pos present, if_pos present]
    cases bit : mhr.panidCompression with
    | true =>
      rw [bit] at holds
      have addr := parseAddr_fillAddr (i := i) holds
      rw [if_pos rfl, if_pos rfl, if_pos rfl, addr, List.nil_append, fillAddr_length]
    | false =>
      rw [bit] at holds
      obtain ⟨pan, addr⟩ := parse_pan holds
      rw [if_neg nofun, if_neg nofun, if_neg nofun, pan, addr, List.length_append,
        fillAddr_length, Nat.add_assoc]
      rfl
  · rw [if_neg present, if_neg present, if_neg present]
    rfl

end

/-- What is read of a header: absent fields are zero, and under PAN id compression the source is
in the PAN of the destination. -/
def Mhr.received (mhr : Mhr) : Mhr :=
  let read : Mhr := ⟨mhr.frameControl, mhr.seqNumber, 0, .zero, 0, .zero⟩
  let read :=
    if mhr.dstMode ≠ 0 then
      { read with dstPanId := mhr.dstPanId, dstAddr := mhr.dstAddr.received mhr.dstMode }
    else read
  if mhr.srcMode ≠ 0 then
    { read with
      srcPanId := if mhr.panidCompression then read.dstPanId else mhr.srcPanId
      srcAddr := mhr.srcAddr.received mhr.srcMode }
  else read

/-- Where a header stands it is read, and all of it. -/
theorem parseMhr_holds {mhr : Mhr} (holds : Holds p 0 (macFillMhr mhr)) :
    parseMhr p = (mhr.received, (macFillMhr mhr).length) := by
  rw [macFillMhr, holds_append, holds_append] at holds
  obtain ⟨⟨fixed, dst⟩, src⟩ := holds
  have octets : [p 0, p 1, p 2] = [mhr.frameControl.1, mhr.frameControl.2, mhr.seqNumber] := fixed
  simp only [List.cons.injEq] at octets
  obtain ⟨o0, o1, o2, -⟩ := octets
  have first : parseDst p (⟨mhr.frameControl, mhr.seqNumber, 0, .zero, 0, .zero⟩, 3) = _ :=
    parseDst_holds mhr rfl dst
  rw [Nat.zero_add, List.length_append] at src
  change Holds p (3 + (fillDst mhr).length) _ at src
  rw [parseMhr, o0, o1, o2]
  change parseSrc p (parseDst p (⟨mhr.frameControl, _, _, _, _, _⟩, 3)) = _
  rw [first, parseSrc_holds mhr (by split <;> rfl) src, Mhr.received, macFillMhr, List.length_append,
    List.length_append]
  rfl

/-! ## The codec -/

/-- The modes that are not reserved. -/
def addrModes : List UInt8 := [0, zbAddr16bitDevOrBroadcast, zbAddr64bitDev]

/-- The octets of an address, as the length function counts them. -/
theorem addrSize_eq {mode : UInt8} (known : mode ∈ addrModes) (present : mode ≠ 0) :
    addrSize mode = if mode = zbAddr64bitDev then 8 else 2 := by
  simp only [addrModes, List.mem_cons, List.not_mem_nil, or_false] at known
  rcases known with rfl | rfl | rfl
  · exact absurd rfl present
  · rfl
  · rfl

theorem macFillMhr_length {mhr : Mhr} (dst : mhr.dstMode ∈ addrModes)
    (src : mhr.srcMode ∈ addrModes) :
    (macFillMhr mhr).length =
      macCalculateMhrLength mhr.srcMode mhr.dstMode mhr.panidCompression := by
  have dstLength : (fillDst mhr).length =
      if mhr.dstMode ≠ 0 then 4 + if mhr.dstMode = zbAddr64bitDev then 6 else 0 else 0 := by
    rw [fillDst]
    by_cases present : mhr.dstMode ≠ 0
    · rw [if_pos present, if_pos present, List.length_append, fillAddr_length,
        addrSize_eq dst present]
      split <;> rfl
    · rw [if_neg present, if_neg present]
      rfl
  have srcLength : (fillSrc mhr).length =
      if mhr.srcMode ≠ 0 then
        (if mhr.panidCompression then 0 else 2) + (2 + if mhr.srcMode = zbAddr64bitDev then 6 else 0)
      else 0 := by
    rw [fillSrc]
    by_cases present : mhr.srcMode ≠ 0
    · rw [if_pos present, if_pos present, List.length_append, fillAddr_length,
        addrSize_eq src present]
      split <;> split <;> rfl
    · rw [if_neg present, if_neg present]
      rfl
  rw [macFillMhr, List.length_append, List.length_append, dstLength, srcLength,
    macCalculateMhrLength]
  dsimp only [List.length_cons, List.length_nil, panIdLength]
  split_ifs <;> rfl

/-- The addresses agree as far as the mode has them in the frame. -/
def SameAddr (mode : UInt8) (addr addr' : AddrU) : Prop :=
  if mode = zbAddr16bitDevOrBroadcast then addr.addrShort = addr'.addrShort else addr = addr'

theorem sameAddr_received (mode : UInt8) (addr : AddrU) :
    SameAddr mode (addr.received mode) addr := by
  rw [SameAddr, AddrU.received]
  split
  · exact AddrU.addrShort_ofShort _
  · rfl

/-- What is read is what was written, as far as it is present. -/
structure Mhr.Same (read mhr : Mhr) : Prop where
  frameControl : read.frameControl = mhr.frameControl
  seqNumber : read.seqNumber = mhr.seqNumber
  dst : mhr.dstMode ≠ 0 →
    read.dstPanId = mhr.dstPanId ∧ SameAddr mhr.dstMode read.dstAddr mhr.dstAddr
  src : mhr.srcMode ≠ 0 →
    read.srcPanId = (if mhr.panidCompression then read.dstPanId else mhr.srcPanId) ∧
      SameAddr mhr.srcMode read.srcAddr mhr.srcAddr

theorem same_received (mhr : Mhr) : mhr.received.Same mhr := by
  rw [Mhr.received]
  dsimp only
  constructor
  · split <;> split <;> rfl
  · split <;> split <;> rfl
  · intro present
    rw [if_pos present]
    split <;> exact ⟨rfl, sameAddr_received _ _⟩
  · intro present
    rw [if_pos present]
    exact ⟨rfl, sameAddr_received _ _⟩

theorem fillAddr_congr {mode : UInt8} {addr addr' : AddrU} (same : SameAddr mode addr addr') :
    fillAddr mode addr = fillAddr mode addr' := by
  rw [SameAddr] at same
  rw [fillAddr, fillAddr]
  by_cases short : mode = zbAddr16bitDevOrBroadcast
  · rw [if_pos short] at same
    rw [if_pos short, if_pos short, same]
  · rw [if_neg short] at same
    rw [same]

/-- A header that was read is written as it was. -/
theorem macFillMhr_received (mhr : Mhr) : macFillMhr mhr.received = macFillMhr mhr := by
  obtain ⟨control, seq, dst, src⟩ := same_received mhr
  obtain ⟨dstMode, srcMode, compression⟩ := modes_same mhr control
  have dstSame : fillDst mhr.received = fillDst mhr := by
    rw [fillDst, fillDst, dstMode]
    by_cases present : mhr.dstMode ≠ 0
    · obtain ⟨pan, addr⟩ := dst present
      rw [if_pos present, if_pos present, pan, fillAddr_congr addr]
    · rw [if_neg present, if_neg present]
  have srcSame : fillSrc mhr.received = fillSrc mhr := by
    rw [fillSrc, fillSrc, srcMode, compression]
    by_cases present : mhr.srcMode ≠ 0
    · obtain ⟨pan, addr⟩ := src present
      rw [if_pos present, if_pos present, fillAddr_congr addr]
      cases bit : mhr.panidCompression with
      | true => rfl
      | false =>
        rw [bit] at pan
        rw [pan]
        rfl
    · rw [if_neg present, if_neg present]
  rw [macFillMhr, macFillMhr, dstSame, srcSame, control, seq]

/-- **The MAC header codec**: a header without reserved modes is read as it was written, and the
builder, the parser and the length function agree on its length. -/
theorem parseMhr_macFillMhr (mhr : Mhr) (dst : mhr.dstMode ∈ addrModes)
    (src : mhr.srcMode ∈ addrModes) (p : Octets) :
    let (read, size) := parseMhr (memcpy p 0 (macFillMhr mhr))
    let length := macCalculateMhrLength mhr.srcMode mhr.dstMode mhr.panidCompression
    read.Same mhr ∧ (macFillMhr mhr).length = length ∧ size = length := by
  have length := macFillMhr_length dst src
  rw [parseMhr_holds (holds_memcpy _)]
  exact ⟨same_received mhr, length, length⟩

/-- A data frame between short addresses in one PAN. -/
theorem parseMhr_macFillMhr_short :
    let mhr : Mhr := ⟨(0x61, 0x88), 1, 0x1aaa, .ofShort 0, 0x1aaa, .ofShort 0x1234⟩
    let (read, size) := parseMhr (memcpy (fun _ => 0) 0 (macFillMhr mhr))
    read.Same mhr ∧ (macFillMhr mhr).length = 9 ∧ size = 9 :=
  parseMhr_macFillMhr ⟨(0x61, 0x88), 1, 0x1aaa, .ofShort 0, 0x1aaa, .ofShort 0x1234⟩ (by decide)
    (by decide) fun _ => 0

end Zboss.MacHeader
