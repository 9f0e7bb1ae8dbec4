import Zboss.Common.PanIds
import Zboss.Mac.HeaderCodec
import Zboss.Nwk.NeighborTable

/-!
Beacons from the sender's state to the receiver's extended neighbour table: the payload that the
NWK layer prepares, the frame that MAC builds around it, and what the discovery reads of it.  The
update id is never written to the entry, and the beacon order is read without its high bit.  Bit
fields are bit vectors of their width.
-/

namespace Zboss.BeaconRoundTrip

open Zboss.AddressTable
open Zboss.Cells
open Zboss.CommandFrames (ieeeOctets shortOctets)
open Zboss.FrameHeaders hiding parseMhr
open Zboss.MacHeader
open Zboss.NeighborTable (DeviceType)
open Zboss.PanIds (ExtPanId PanIdRef PanTable SetReply panidTableSize)
open Zboss.Run

/-! ## The sender -/

def protocolVersion : BitVec 4 := 2

def nwkMaxDepth : UInt8 := 5

def macFrameBeacon : UInt8 := 0

def macFrameVersion : UInt8 := 0

structure MacBeaconPayload where
  protocolId : UInt8
  stackProfile : BitVec 4
  protocolVersion : BitVec 4
  reserved : BitVec 2
  routerCapacity : Bool
  deviceDepth : BitVec 4
  endDeviceCapacity : Bool
  extendedPanid : ExtPanId
  txoffset : UInt8 × UInt8 × UInt8
  nwkUpdateId : UInt8

namespace MacBeaconPayload

/-- The payload in memory; the fields of an octet begin with its low bits. -/
def octets (payload : MacBeaconPayload) : List UInt8 :=
  [payload.protocolId,
    .ofBitVec (payload.protocolVersion ++ payload.stackProfile),
    .ofBitVec (BitVec.ofBool payload.endDeviceCapacity ++ payload.deviceDepth ++
      BitVec.ofBool payload.routerCapacity ++ payload.reserved)] ++
  List.ofFn payload.extendedPanid ++
  [payload.txoffset.1, payload.txoffset.2.1, payload.txoffset.2.2, payload.nwkUpdateId]

/-- The payload that stands at `i`. -/
def read (p : Octets) (i : ℕ) : MacBeaconPayload where
  protocolId := p i
  stackProfile := (p (i + 1)).toBitVec.extractLsb' 0 4
  protocolVersion := (p (i + 1)).toBitVec.extractLsb' 4 4
  reserved := (p (i + 2)).toBitVec.extractLsb' 0 2
  routerCapacity := (p (i + 2)).toBitVec.getLsbD 2
  deviceDepth := (p (i + 2)).toBitVec.extractLsb' 3 4
  endDeviceCapacity := (p (i + 2)).toBitVec.getLsbD 7
  extendedPanid k := p (i + 3 + k)
  txoffset := (p (i + 11), p (i + 12), p (i + 13))
  nwkUpdateId := p (i + 14)

end MacBeaconPayload

structure BeaconFrameParams where
  srcAddrMode : UInt8
  framePending : Bool
  ble : UInt8
  beaconOrder : UInt8
  superframeOrder : UInt8

/-- What a beacon is built from: the NIB, the PIB with the payload, the stack profile of the
build, and whether the device is designated coordinator in a build that can be one. -/
structure Sender where
  extendedPanId : ExtPanId
  depth : UInt8
  updateId : UInt8
  stackProfile : BitVec 4
  designatedCoordinator : Bool
  macPanId : UInt16
  macShortAddress : UInt16
  macExtendedAddress : IeeeAddr
  macBsn : UInt8
  macAssociationPermit : UInt8
  macBattLifeExt : UInt8
  macBeaconOrder : UInt8
  macSuperframeOrder : UInt16
  macBeaconPayload : MacBeaconPayload
  macBeaconPayloadLength : ℕ

namespace Sender

/-- `zb_nwk_update_beacon_payload`. -/
def updateBeaconPayload (w : Sender) : Sender :=
  let permit := if w.depth < nwkMaxDepth then w.macAssociationPermit else 0
  { w with
    macAssociationPermit := permit
    macBeaconPayload := {
      protocolId := 0
      stackProfile := w.stackProfile
      protocolVersion := protocolVersion
      reserved := 0
      routerCapacity := permit.toBitVec.getLsbD 0
      deviceDepth := w.depth.toBitVec.setWidth 4
      endDeviceCapacity := permit.toBitVec.getLsbD 0
      extendedPanid := w.extendedPanId
      txoffset := (0xFF, 0xFF, 0xFF)
      nwkUpdateId := w.updateId }
    macBeaconPayloadLength := 15 }

/-- The frame control that `ZB_FCF_SET_FRAME_TYPE`, `ZB_FCF_SET_SRC_ADDRESSING_MODE`,
`ZB_FCF_SET_FRAME_VERSION` and `ZB_FCF_SET_FRAME_PENDING_BIT` leave. -/
def beaconFcf (params : BeaconFrameParams) : UInt8 × UInt8 :=
  ((macFrameBeacon &&& (0xEF : UInt8)) ||| (if params.framePending then (1 : UInt8) else 0) <<< 4,
    (params.srcAddrMode <<< 6 &&& (0xCF : UInt8)) ||| macFrameVersion <<< 4)

/-- The MAC header of the beacon. -/
def beaconMhr (w : Sender) (params : BeaconFrameParams) : Mhr where
  frameControl := beaconFcf params
  seqNumber := w.macBsn
  dstPanId := 0
  dstAddr := .zero
  srcPanId := w.macPanId
  srcAddr := if params.srcAddrMode = zbAddr64bitDev then ⟨w.macExtendedAddress⟩
    else .ofShort w.macShortAddress

/-- The superframe specification: `ZB_SUPERFRAME_SET_BEACON_ORDER` and
`ZB_SUPERFRAME_SET_SUPERFRAME_ORDER` in the first octet, the other macros in the second. -/
def superframeSpec (w : Sender) (params : BeaconFrameParams) : UInt8 × UInt8 :=
  let first : UInt8 := params.beaconOrder
  let first := (first &&& (0x0F : UInt8)) ||| params.superframeOrder <<< 4
  let second : UInt8 := 0x0F
  let second := (second &&& (0xEF : UInt8)) ||| params.ble <<< 4
  let second :=
    if w.designatedCoordinator then (second &&& (0xBF : UInt8)) ||| (1 : UInt8) <<< 6 else second
  (first, (second &&& (0x7F : UInt8)) ||| w.macAssociationPermit <<< 7)

/-- `zb_send_beacon_frame`: the buffer, and the length of the packet. -/
def sendBeaconFrame (w : Sender) (params : BeaconFrameParams) (buf : Octets) : Octets × ℕ :=
  let mhrLen := macCalculateMhrLength params.srcAddrMode 0 false
  let packetLength := mhrLen + 2 + 2 + w.macBeaconPayloadLength
  let buf := memcpy buf 0 (List.replicate packetLength 0)
  let buf := memcpy buf 0 (macFillMhr (w.beaconMhr params))
  let (first, second) := w.superframeSpec params
  let buf := memcpy buf mhrLen [first, second]
  let buf := memcpy buf (mhrLen + 4)
    (w.macBeaconPayload.octets.take w.macBeaconPayloadLength)
  (buf, packetLength)

/-- The parameters of the beacon that `zb_handle_beacon_req` sends. -/
def handleBeaconReq (w : Sender) : BeaconFrameParams :=
  ⟨zbAddr16bitDevOrBroadcast, false, w.macBattLifeExt, w.macBeaconOrder,
    w.macSuperframeOrder.toUInt8⟩

/-- The octets on the air. -/
def frame (w : Sender) (buf : Octets) : List UInt8 :=
  let (buf, packetLength) := w.sendBeaconFrame w.handleBeaconReq buf
  segment buf 0 packetLength

end Sender

/-! ## The receiver -/

structure ExtNeighborTblEnt where
  shortAddr : UInt16
  longAddr : IeeeAddrCompressed
  lqi : UInt8
  updateId : UInt8
  logicalChannel : BitVec 5
  panidRef : PanIdRef
  beaconOrder : BitVec 4
  depth : BitVec 4
  stackProfile : BitVec 4
  superframeOrder : BitVec 4
  permitJoining : Bool
  deviceType : DeviceType
  routerCapacity : Bool
  endDeviceCapacity : Bool
  potentialParent : Bool

/-- A zeroed entry with its address and PAN. -/
def ExtNeighborTblEnt.fresh (shortAddr : UInt16) (panidRef : PanIdRef) : ExtNeighborTblEnt :=
  ⟨shortAddr, .zero, 0, 0, 0, panidRef, 0, 0, 0, 0, false, .ed, false, false, false⟩

/-- What the beacons are looked at for: a discovery, or a rejoin of a network. -/
inductive Scan
  | disc
  | rejoin (extendedPanId : ExtPanId)

/-- What a received beacon reads and writes: the build and the device type, the PAN ids, the address
table for long addresses, and the extended neighbour table with its size. -/
structure Receiver where
  routerRole : Bool
  deviceType : DeviceType
  scan : Scan
  pans : PanTable
  addr : AddrGlobals
  ext : List ExtNeighborTblEnt
  extNeighborSize : ℕ

namespace Receiver

variable (w : Receiver)

/-- `alloc_new_extneiboard`: the table with the new entry, and its place. -/
def allocNewExtneiboard (panidRef : PanIdRef) (shortAddr : UInt16) :
    Option (List ExtNeighborTblEnt × ℕ) :=
  if w.ext.length = w.extNeighborSize then none
  else some (w.ext ++ [.fresh shortAddr panidRef], w.ext.length)

/-- `zb_nwk_exneighbor_by_short`. -/
def exneighborByShort (panidRef : PanIdRef) (shortAddr : UInt16) :
    Option (List ExtNeighborTblEnt × ℕ) :=
  match w.ext.findIdx? fun en => en.shortAddr = shortAddr ∧ en.panidRef = panidRef with
  | some i => some (w.ext, i)
  | none => w.allocNewExtneiboard panidRef shortAddr

/-- `zb_nwk_exneighbor_by_ieee`; the loop goes on to the last entry that fits. -/
def exneighborByIeee (panidRef : PanIdRef) (compressed : IeeeAddrCompressed) :
    Option (List ExtNeighborTblEnt × ℕ) :=
  match (List.range w.ext.length).reverse.find? fun i =>
      (w.ext[i]?).any fun en => en.panidRef = panidRef ∧ en.longAddr = compressed with
  | some i => some (w.ext, i)
  | none => (w.allocNewExtneiboard panidRef 0xffff).map fun (ext, i) =>
      (ext.modify i fun en => { en with longAddr := compressed }, i)

/-- The entry written by `zb_mlme_beacon_notify_indication`. -/
def fill (payload : MacBeaconPayload) (spec : UInt8 × UInt8) (lqi : UInt8) (channel : BitVec 5)
    (panidRef : PanIdRef) (en : ExtNeighborTblEnt) : ExtNeighborTblEnt :=
  -- ZB_MAC_GET_ASSOCIATION_PERMIT
  let permitJoining := spec.2.toBitVec.getLsbD 7
  { en with
    lqi := if lqi < 100 then 100 else lqi
    panidRef := panidRef
    logicalChannel := channel
    depth := payload.deviceDepth
    -- ZB_MAC_GET_BEACON_ORDER, which takes three bits
    beaconOrder := (spec.1 &&& 0x07).toBitVec.setWidth 4
    permitJoining := permitJoining
    stackProfile := payload.stackProfile
    -- ZB_MAC_GET_SUPERFRAME_ORDER
    superframeOrder := ((spec.1 >>> 4) &&& (0x0F : UInt8)).toBitVec.setWidth 4
    routerCapacity := payload.routerCapacity
    endDeviceCapacity := payload.endDeviceCapacity
    potentialParent :=
      if w.routerRole ∧ w.deviceType ≠ .ed ∧ payload.stackProfile ≠ 2 then
        permitJoining && payload.routerCapacity
      else permitJoining && payload.endDeviceCapacity
    deviceType :=
      if payload.deviceDepth = 0 then .coordinator
      else if permitJoining || payload.routerCapacity || payload.endDeviceCapacity then .router
      else .none }

/-- A rejoin takes the devices of its own network alone. -/
def Passes (extendedPanid : ExtPanId) : Prop :=
  ∃ own, w.scan = .rejoin own ∧ extendedPanid ≠ own

instance (extendedPanid : ExtPanId) : Decidable (w.Passes extendedPanid) :=
  match scan : w.scan with
  | .disc => isFalse fun ⟨_, rejoin, _⟩ => nomatch scan.symm.trans rejoin
  | .rejoin own => decidable_of_iff (extendedPanid ≠ own)
      ⟨fun other => ⟨own, scan, other⟩, fun ⟨_, rejoin, other⟩ => by
        rw [scan] at rejoin
        cases rejoin
        exact other⟩

/-- `zb_mlme_beacon_notify_indication` during a discovery or a rejoin.  `junk` is what the
compression of an address leaves when the table of manufacturers is full. -/
def beaconNotifyIndication (p : Octets) (lqi : UInt8) (channel : BitVec 5)
    (junk : IeeeAddrCompressed) : Receiver :=
  let (mhr, mhrLen) := parseMhr p
  let payload := MacBeaconPayload.read p (mhrLen + 2 + 1 + 1)
  if payload.protocolId = 0 ∧ payload.protocolVersion = protocolVersion ∧
      ¬ w.Passes payload.extendedPanid then
    let (pans, reply) := w.pans.setPanId mhr.srcPanId payload.extendedPanid
    let w := { w with pans }
    match reply.ref with
    | none => w
    | some panidRef =>
      let (w, found) :=
        if mhr.srcMode = zbAddr16bitDevOrBroadcast then
          (w, w.exneighborByShort panidRef mhr.srcAddr.addrShort)
        else
          let (addr, compressed) := ieeeAddrCompress w.addr mhr.srcAddr.addrLong junk
          ({ w with addr }, w.exneighborByIeee panidRef compressed)
      match found with
      | none => w
      | some (ext, i) =>
        { w with
          ext := ext.modify i
            (w.fill payload (p mhrLen, p (mhrLen + 1)) lqi channel panidRef) }
  else w

end Receiver

/-! ## What the sender writes is read -/

namespace MacBeaconPayload

variable {payload : MacBeaconPayload} {p : Octets} {i : ℕ}

theorem octets_length (payload : MacBeaconPayload) : payload.octets.length = 15 := by
  rw [octets, List.length_append, List.length_append, List.length_ofFn]
  rfl

/-- The three fields of an octet whose width is two nibbles, a bit at each end. -/
theorem capacities (reserved : BitVec 2) (router : Bool) (depth : BitVec 4) (endDevice : Bool) :
    let octet := BitVec.ofBool endDevice ++ depth ++ BitVec.ofBool router ++ reserved
    octet.extractLsb' 0 2 = reserved ∧ octet.getLsbD 2 = router ∧
      octet.extractLsb' 3 4 = depth ∧ octet.getLsbD 7 = endDevice := by
  revert reserved router depth endDevice
  decide

theorem profiles (profile version : BitVec 4) :
    (version ++ profile).extractLsb' 0 4 = profile ∧
      (version ++ profile).extractLsb' 4 4 = version := by
  revert profile version
  decide

/-- The payload that stands there is read. -/
theorem read_holds (holds : Holds p i payload.octets) : read p i = payload := by
  have cell (j : ℕ) (inside : j < 15) : p (i + j) = payload.octets.getD j 0 :=
    holds_getD holds (payload.octets_length.symm ▸ inside)
  have extended : (fun k : Fin 8 => p (i + 3 + k)) = payload.extendedPanid := by
    funext k
    have inside : k.val < (List.ofFn payload.extendedPanid).length := by
      rw [List.length_ofFn]
      exact k.isLt
    rw [Nat.add_assoc, cell (3 + k) (by omega), octets, List.append_assoc,
      List.getD_append_right _ _ _ _ (Nat.le_add_right 3 k)]
    simp only [List.length_cons, List.length_nil, Nat.zero_add, Nat.reduceAdd,
      Nat.add_sub_cancel_left]
    rw [List.getD_append _ _ _ _ inside, List.getD_eq_getElem _ _ inside, List.getElem_ofFn]
  have first := cell 0 (by decide)
  obtain ⟨profile, version⟩ := profiles payload.stackProfile payload.protocolVersion
  obtain ⟨reserved, router, depth, endDevice⟩ := capacities payload.reserved
    payload.routerCapacity payload.deviceDepth payload.endDeviceCapacity
  have second : (p (i + 1)).toBitVec = payload.protocolVersion ++ payload.stackProfile := by
    rw [cell 1 (by decide)]
    rfl
  have third : (p (i + 2)).toBitVec = BitVec.ofBool payload.endDeviceCapacity ++
      payload.deviceDepth ++ BitVec.ofBool payload.routerCapacity ++ payload.reserved := by
    rw [cell 2 (by decide)]
    rfl
  have offsets : (p (i + 11), p (i + 12), p (i + 13)) = payload.txoffset := by
    rw [cell 11 (by decide), cell 12 (by decide), cell 13 (by decide)]
    simp [octets]
  have update : p (i + 14) = payload.nwkUpdateId := by
    rw [cell 14 (by decide)]
    simp [octets]
  rw [Nat.add_zero] at first
  rw [read, first, second, third, extended, offsets, update, profile, version, reserved, router,
    depth, endDevice]
  rfl

end MacBeaconPayload

namespace Sender

variable (s : Sender)

theorem updateBeaconPayload_octets :
    s.updateBeaconPayload.macBeaconPayload.octets.take
        s.updateBeaconPayload.macBeaconPayloadLength =
      s.updateBeaconPayload.macBeaconPayload.octets :=
  List.take_of_length_le (Nat.le_of_eq (MacBeaconPayload.octets_length _))

theorem beaconMhr_modes (s' : Sender) :
    (s'.beaconMhr s.handleBeaconReq).dstMode = 0 ∧
      (s'.beaconMhr s.handleBeaconReq).srcMode = zbAddr16bitDevOrBroadcast ∧
      (s'.beaconMhr s.handleBeaconReq).panidCompression = false := by
  have control : beaconFcf s.handleBeaconReq = (0, 0x80) := by
    simp only [beaconFcf, handleBeaconReq, Bool.false_eq_true, if_false]
    decide
  rw [Mhr.dstMode, Mhr.srcMode, Mhr.panidCompression, Mhr.fcf, beaconMhr, control]
  dsimp only
  decide

theorem macFillMhr_beacon_length (s' : Sender) :
    (macFillMhr (s'.beaconMhr s.handleBeaconReq)).length = 7 := by
  obtain ⟨dst, src, compression⟩ := s.beaconMhr_modes s'
  have known : (s'.beaconMhr s.handleBeaconReq).dstMode ∈ addrModes := by
    rw [dst]
    decide
  rw [macFillMhr_length known (by rw [src]; decide), dst, src, compression]
  decide

/-- The frame of the beacon, whatever stood in the buffer. -/
theorem frame_eq (buf : Octets) : s.updateBeaconPayload.frame buf =
    macFillMhr (s.updateBeaconPayload.beaconMhr s.handleBeaconReq) ++
      ([(s.updateBeaconPayload.superframeSpec s.handleBeaconReq).1,
        (s.updateBeaconPayload.superframeSpec s.handleBeaconReq).2] ++
      ([0, 0] ++ s.updateBeaconPayload.macBeaconPayload.octets)) := by
  have length := s.macFillMhr_beacon_length s.updateBeaconPayload
  have payload := s.updateBeaconPayload.macBeaconPayload.octets_length
  have request : s.updateBeaconPayload.handleBeaconReq = s.handleBeaconReq := rfl
  rw [frame, sendBeaconFrame, request, updateBeaconPayload_octets]
  generalize macFillMhr (s.updateBeaconPayload.beaconMhr s.handleBeaconReq) = mhr at *
  generalize s.updateBeaconPayload.superframeSpec s.handleBeaconReq = spec
  generalize s.updateBeaconPayload.macBeaconPayload.octets = octets at *
  obtain ⟨first, second⟩ := spec
  have place : macCalculateMhrLength s.handleBeaconReq.srcAddrMode 0 false = 7 := by
    rw [handleBeaconReq]
    dsimp only
    decide
  have size : s.updateBeaconPayload.macBeaconPayloadLength = 15 := rfl
  dsimp only
  rw [place, size]
  have header : segment (memcpy (memcpy buf 0 (List.replicate 26 0)) 0 mhr) 0 7 = mhr := by
    rw [← length]
    exact segment_memcpy 0 mhr
  have written : segment (memcpy (memcpy buf 0 (List.replicate 26 0)) 0 mhr) 9 2 = [0, 0] := by
    rw [segment_memcpy_behind mhr (by omega)]
    rfl
  change segment (memcpy (memcpy (memcpy (memcpy buf 0 (List.replicate 26 0)) 0 mhr) 7 _) 11 _) 0
    (7 + (2 + (2 + 15))) = _
  generalize memcpy (memcpy buf 0 (List.replicate 26 0)) 0 mhr = buf at *
  have spec : segment (memcpy (memcpy buf 7 [first, second]) 11 octets) 7 2 = [first, second] := by
    rw [segment_memcpy_before octets (Nat.le_add_left 9 2)]
    exact segment_memcpy 7 [first, second]
  have zeros : segment (memcpy (memcpy buf 7 [first, second]) 11 octets) 9 2 = [0, 0] := by
    rw [segment_memcpy_before octets (Nat.le_refl 11),
      segment_memcpy_behind [first, second] (Nat.le_refl 9), written]
  have rest : segment (memcpy (memcpy buf 7 [first, second]) 11 octets) 11 15 = octets := by
    rw [← payload]
    exact segment_memcpy 11 octets
  rw [segment_add, segment_add, segment_add, segment_memcpy_before octets (Nat.le_add_right 7 4),
    segment_memcpy_before [first, second] (Nat.le_refl 7), header, spec, zeros, rest]

end Sender

/-! ## The superframe specification -/

/-- The two orders lie in the nibbles of the first octet. -/
theorem orders_octet (beaconOrder superframeOrder : UInt8) :
    ((beaconOrder &&& (0x0F : UInt8)) ||| superframeOrder <<< 4) =
      .ofBitVec (superframeOrder.toBitVec.setWidth 4 ++ beaconOrder.toBitVec.setWidth 4) := by
  apply UInt8.toBitVec_inj.mp
  apply BitVec.eq_of_getLsbD_eq
  intro i inside
  have masks : ∀ i < 8, (0x0F : UInt8).toBitVec.getLsbD i = decide (i < 4) := by decide
  have width : (4 : UInt8).toBitVec.toNat % 8 = 4 := rfl
  simp only [UInt8.toBitVec_or, UInt8.toBitVec_and, UInt8.toBitVec_shiftLeft, BitVec.getLsbD_or,
    BitVec.getLsbD_and, BitVec.getLsbD_append, BitVec.getLsbD_setWidth, masks i inside,
    BitVec.shiftLeft_eq', BitVec.getLsbD_shiftLeft, BitVec.toNat_umod, inside]
  by_cases low : i < 4
  · simp [low]
  · simp [low]
    omega

/-- What `ZB_MAC_GET_BEACON_ORDER` and `ZB_MAC_GET_SUPERFRAME_ORDER` read of the nibbles. -/
theorem orders_read (high low : BitVec 4) :
    ((UInt8.ofBitVec (high ++ low)) &&& 0x07).toBitVec.setWidth 4 = low &&& 7#4 ∧
      (((UInt8.ofBitVec (high ++ low)) >>> 4) &&& 0x0F).toBitVec.setWidth 4 = high := by
  revert high low
  decide

/-- The last bit of the specification is the low bit of the permit. -/
theorem permit_read (second permit : UInt8) :
    ((second &&& (0x7F : UInt8)) ||| permit <<< 7).toBitVec.getLsbD 7 =
      permit.toBitVec.getLsbD 0 := by
  simp

theorem beaconOrder_iff (order : UInt8) :
    (order.toBitVec.setWidth 4 &&& 7#4).toNat = order.toNat ↔ order < 8 := by
  have small : (7#4).toNat = 2 ^ 3 - 1 := rfl
  rw [BitVec.toNat_and, BitVec.toNat_setWidth, small, Nat.and_two_pow_sub_one_eq_mod,
    UInt8.lt_iff_toNat_lt]
  change order.toNat % 16 % 8 = order.toNat ↔ order.toNat < 8
  omega

theorem superframeOrder_iff (order : UInt16) :
    (order.toUInt8.toBitVec.setWidth 4).toNat = order.toNat ↔ order < 16 := by
  rw [BitVec.toNat_setWidth, UInt16.lt_iff_toNat_lt]
  change order.toUInt8.toNat % 16 = order.toNat ↔ order.toNat < 16
  rw [UInt16.toNat_toUInt8]
  omega

theorem depth_iff (depth : UInt8) :
    (depth.toBitVec.setWidth 4).toNat = depth.toNat ↔ depth < 16 := by
  rw [BitVec.toNat_setWidth, UInt8.lt_iff_toNat_lt]
  change depth.toNat % 16 = depth.toNat ↔ depth.toNat < 16
  omega

theorem permit_iff (permit : UInt8) :
    (permit.toBitVec.getLsbD 0).toNat = permit.toNat ↔ permit < 2 := by
  rw [BitVec.getLsbD, Nat.testBit_zero, UInt8.lt_iff_toNat_lt]
  change (decide (permit.toNat % 2 = 1)).toNat = permit.toNat ↔ permit.toNat < 2
  rcases Nat.mod_two_eq_zero_or_one permit.toNat with even | odd
  · rw [even]
    simp only [Nat.zero_ne_one, decide_false, Bool.toNat_false]
    omega
  · rw [odd]
    simp only [decide_true, Bool.toNat_true]
    omega

/-! ## What is recorded -/

/-- The entry shows the sender. -/
structure Recorded (pans : PanTable) (s : Sender) (en : ExtNeighborTblEnt) : Prop where
  depth : en.depth.toNat = s.depth.toNat
  permitJoining : en.permitJoining.toNat = s.macAssociationPermit.toNat
  beaconOrder : en.beaconOrder.toNat = s.macBeaconOrder.toNat
  superframeOrder : en.superframeOrder.toNat = s.macSuperframeOrder.toNat
  stackProfile : en.stackProfile = s.stackProfile
  routerCapacity : en.routerCapacity = s.macBeaconPayload.routerCapacity
  endDeviceCapacity : en.endDeviceCapacity = s.macBeaconPayload.endDeviceCapacity
  updateId : en.updateId = s.updateId
  extendedPanId : pans.getPanId en.panidRef = some s.extendedPanId
  shortPanId : pans.getShortPanId en.panidRef = some s.macPanId

/-- The entries for the PAN and the short address of the sender. -/
def Receiver.entries (r : Receiver) (s : Sender) : List ExtNeighborTblEnt :=
  r.ext.filter fun en =>
    en.shortAddr = s.macShortAddress ∧ r.pans.getPanId en.panidRef = some s.extendedPanId

/-- One entry, and it shows the sender. -/
def Receiver.Shows (r : Receiver) (s : Sender) : Prop :=
  ∃ en, r.entries s = [en] ∧ Recorded r.pans s en

/-- What a beacon of the sender is to leave, the first or a later one. -/
structure RoundTrip (before after : Receiver) (s : Sender) : Prop where
  shows : after.Shows s
  adds : before.entries s ≠ [] → after.ext.length = before.ext.length

/-- The values the entry can carry: four bits of the depth, one of the permit, three of the beacon
order, four of the superframe order, and no update id. -/
structure Fits (s : Sender) : Prop where
  depth : s.depth < 16
  permit : s.depth < nwkMaxDepth → s.macAssociationPermit < 2
  beaconOrder : s.macBeaconOrder < 8
  superframeOrder : s.macSuperframeOrder < 16
  updateId : s.updateId = 0

section
variable (s : Sender)

/-- What the receiver reads of the specification of a beacon. -/
theorem spec_read :
    let spec := s.updateBeaconPayload.superframeSpec s.handleBeaconReq
    (spec.1 &&& 0x07).toBitVec.setWidth 4 = s.macBeaconOrder.toBitVec.setWidth 4 &&& 7#4 ∧
      ((spec.1 >>> 4) &&& 0x0F).toBitVec.setWidth 4 =
        s.macSuperframeOrder.toUInt8.toBitVec.setWidth 4 ∧
      spec.2.toBitVec.getLsbD 7 =
        s.updateBeaconPayload.macAssociationPermit.toBitVec.getLsbD 0 := by
  dsimp only [Sender.superframeSpec, Sender.handleBeaconReq]
  rw [orders_octet]
  obtain ⟨beacon, superframe⟩ := orders_read (s.macSuperframeOrder.toUInt8.toBitVec.setWidth 4)
    (s.macBeaconOrder.toBitVec.setWidth 4)
  exact ⟨beacon, superframe, permit_read _ _⟩

theorem updated_permit_iff : s.updateBeaconPayload.macAssociationPermit < 2 ↔
    (s.depth < nwkMaxDepth → s.macAssociationPermit < 2) := by
  change (if s.depth < nwkMaxDepth then s.macAssociationPermit else 0) < 2 ↔ _
  by_cases shallow : s.depth < nwkMaxDepth
  · rw [if_pos shallow]
    exact ⟨fun small _ => small, fun small => small shallow⟩
  · rw [if_neg shallow]
    exact iff_of_true (by decide) fun below => absurd below shallow

/-- The entry of a beacon shows the sender just when the values fit and the PAN ids are right. -/
theorem recorded_fill_iff (r : Receiver) {pans : PanTable} (lqi : UInt8) (channel : BitVec 5)
    {ref : PanIdRef} {en : ExtNeighborTblEnt} (zero : en.updateId = 0)
    (extended : pans.getPanId ref = some s.extendedPanId) :
    Recorded pans s.updateBeaconPayload
        (r.fill s.updateBeaconPayload.macBeaconPayload
          (s.updateBeaconPayload.superframeSpec s.handleBeaconReq) lqi channel ref en) ↔
      Fits s ∧ pans.getShortPanId ref = some s.macPanId := by
  obtain ⟨beacon, superframe, permit⟩ := spec_read s
  constructor
  · intro recorded
    refine ⟨⟨?_, ?_, ?_, ?_, ?_⟩, recorded.shortPanId⟩
    · exact (depth_iff s.depth).mp recorded.depth
    · have same := recorded.permitJoining
      dsimp only [Receiver.fill] at same
      rw [permit] at same
      exact (updated_permit_iff s).mp ((permit_iff _).mp same)
    · have same := recorded.beaconOrder
      dsimp only [Receiver.fill] at same
      rw [beacon] at same
      exact (beaconOrder_iff s.macBeaconOrder).mp same
    · have same := recorded.superframeOrder
      dsimp only [Receiver.fill] at same
      rw [superframe] at same
      exact (superframeOrder_iff s.macSuperframeOrder).mp same
    · exact recorded.updateId.symm.trans zero
  · rintro ⟨fits, short⟩
    exact {
      depth := (depth_iff s.depth).mpr fits.depth
      permitJoining := by
        dsimp only [Receiver.fill]
        rw [permit]
        exact (permit_iff _).mpr ((updated_permit_iff s).mpr fits.permit)
      beaconOrder := by
        dsimp only [Receiver.fill]
        rw [beacon]
        exact (beaconOrder_iff s.macBeaconOrder).mpr fits.beaconOrder
      superframeOrder := by
        dsimp only [Receiver.fill]
        rw [superframe]
        exact (superframeOrder_iff s.macSuperframeOrder).mpr fits.superframeOrder
      stackProfile := rfl
      routerCapacity := rfl
      endDeviceCapacity := rfl
      updateId := zero.trans fits.updateId.symm
      extendedPanId := extended
      shortPanId := short }

end

/-! ## The beacon at the receiver -/

namespace Receiver

variable (r : Receiver) (s : Sender)

/-- What a beacon of the sender does. -/
def takeBeacon (lqi : UInt8) (channel : BitVec 5) : Receiver :=
  if r.Passes s.extendedPanId then r
  else
    let (pans, reply) := r.pans.setPanId s.macPanId s.extendedPanId
    let r := { r with pans }
    match reply.ref with
    | none => r
    | some panidRef =>
      match r.exneighborByShort panidRef s.macShortAddress with
      | none => r
      | some (ext, i) =>
        { r with
          ext := ext.modify i (r.fill s.updateBeaconPayload.macBeaconPayload
            (s.updateBeaconPayload.superframeSpec s.handleBeaconReq) lqi channel panidRef) }

/-- The header, the specification and the payload of the frame are read at the receiver. -/
theorem beaconNotifyIndication_frame {p buf : Octets} (lqi : UInt8) (channel : BitVec 5)
    (junk : IeeeAddrCompressed) (holds : Holds p 0 (s.updateBeaconPayload.frame buf)) :
    r.beaconNotifyIndication p lqi channel junk = r.takeBeacon s lqi channel := by
  obtain ⟨dst, src, compression⟩ := s.beaconMhr_modes s.updateBeaconPayload
  have length := s.macFillMhr_beacon_length s.updateBeaconPayload
  rw [s.frame_eq, holds_append, holds_append, holds_append, length] at holds
  obtain ⟨header, spec, -, payload⟩ := holds
  have octets : [p 7, p 8] = [_, _] := spec
  simp only [List.cons.injEq] at octets
  obtain ⟨first, second, -⟩ := octets
  have received : (s.updateBeaconPayload.beaconMhr s.handleBeaconReq).received =
      { s.updateBeaconPayload.beaconMhr s.handleBeaconReq with
        srcAddr := AddrU.received zbAddr16bitDevOrBroadcast (.ofShort s.macShortAddress) } := by
    rw [Mhr.received, dst, src, compression]
    rfl
  have mode : (s.updateBeaconPayload.beaconMhr s.handleBeaconReq).received.srcMode =
      zbAddr16bitDevOrBroadcast := by
    rw [received]
    exact src
  have pan : (s.updateBeaconPayload.beaconMhr s.handleBeaconReq).received.srcPanId =
      s.macPanId := by
    rw [received]
    rfl
  have short : (s.updateBeaconPayload.beaconMhr s.handleBeaconReq).received.srcAddr.addrShort =
      s.macShortAddress := by
    rw [received]
    dsimp only
    rw [AddrU.received, if_pos rfl, AddrU.addrShort_ofShort, AddrU.addrShort_ofShort]
  have read : MacBeaconPayload.read p (7 + 2 + 1 + 1) = s.updateBeaconPayload.macBeaconPayload :=
    MacBeaconPayload.read_holds payload
  rw [beaconNotifyIndication, parseMhr_holds header, length]
  dsimp only
  rw [read, mode, pan, short, first, second, takeBeacon]
  have extended : s.updateBeaconPayload.macBeaconPayload.extendedPanid = s.extendedPanId := rfl
  rw [extended]
  by_cases passes : r.Passes s.extendedPanId
  · rw [if_neg fun interesting => interesting.2.2 passes, if_pos passes]
  · rw [if_pos ⟨rfl, rfl, passes⟩, if_neg passes]
    dsimp only [if_true]
    rfl

end Receiver

/-! ## The extended table -/

section
variable {α β : Type*} {f : α → α} {l : List α} {i : ℕ} {en : α}

theorem modify_split (f : α → α) (here : l[i]? = some en) :
    ∃ front back, l = front ++ en :: back ∧ l.modify i f = front ++ f en :: back := by
  obtain ⟨inside, same⟩ := List.getElem?_eq_some_iff.mp here
  obtain ⟨front, other, back, parts, place, modified⟩ := List.exists_of_modify f inside
  have there : l[i]? = some other := by
    rw [parts, ← place, List.getElem?_append_right (Nat.le_refl _), Nat.sub_self]
    rfl
  rw [here] at there
  cases there
  exact ⟨front, back, parts, modified⟩

theorem modify_last (f : α → α) (l : List α) :
    (l ++ [en]).modify l.length f = l ++ [f en] := by
  induction l with
  | nil => rfl
  | cons first rest induction_ => exact congrArg (first :: ·) induction_

theorem map_modify (g : α → β) (keeps : ∀ en, l[i]? = some en → g (f en) = g en) :
    (l.modify i f).map g = l.map g := by
  cases here : l[i]? with
  | none => rw [List.modify_eq_self (List.getElem?_eq_none_iff.mp here)]
  | some en =>
    obtain ⟨front, back, parts, modified⟩ := modify_split f here
    rw [modified, parts, List.map_append, List.map_append, List.map_cons, List.map_cons,
      keeps en here]

end

/-- What a beacon of a sender goes by. -/
def keys (ext : List ExtNeighborTblEnt) : List (UInt16 × PanIdRef) :=
  ext.map fun en => (en.shortAddr, en.panidRef)

namespace Receiver

/-- Entries lie in stored PANs, have no update id, and no short address stands twice for a PAN but
the one of entries found by their long address. -/
structure Sound (r : Receiver) : Prop where
  distinct : r.pans.Distinct
  stored : ∀ ref ∈ r.ext.map (·.panidRef), (r.pans.getPanId ref).isSome
  zero : ∀ updateId ∈ r.ext.map (·.updateId), updateId = 0
  apart : ∀ short ≠ 0xffff, ∀ ref, (keys r.ext).count (short, ref) ≤ 1

/-- What a lookup for a PAN gives: the table, with a new entry where none fits, and the place of an
entry of the PAN. -/
structure Found (r : Receiver) (panidRef : PanIdRef) (ext : List ExtNeighborTblEnt) (i : ℕ) :
    Prop where
  here : ∃ en, ext[i]? = some en ∧ en.panidRef = panidRef
  table : ext = r.ext ∨ ∃ en, ext = r.ext ++ [en] ∧ en.panidRef = panidRef ∧ en.updateId = 0 ∧
    (en.shortAddr ≠ 0xffff → (en.shortAddr, panidRef) ∉ keys r.ext)

variable {r : Receiver} {panidRef : PanIdRef} {ext : List ExtNeighborTblEnt} {i : ℕ}

theorem allocNewExtneiboard_eq_some {short : UInt16}
    (given : r.allocNewExtneiboard panidRef short = some (ext, i)) :
    ext = r.ext ++ [.fresh short panidRef] ∧ i = r.ext.length := by
  rw [allocNewExtneiboard] at given
  split at given
  · cases given
  · cases given
    exact ⟨rfl, rfl⟩

theorem found_byShort {short : UInt16}
    (given : r.exneighborByShort panidRef short = some (ext, i)) : r.Found panidRef ext i := by
  rw [exneighborByShort] at given
  split at given
  · rename_i found
    cases given
    obtain ⟨inside, fits, -⟩ := List.findIdx?_eq_some_iff_getElem.mp found
    exact ⟨⟨_, List.getElem?_eq_getElem inside, (of_decide_eq_true fits).2⟩, .inl rfl⟩
  · rename_i missing
    obtain ⟨rfl, rfl⟩ := allocNewExtneiboard_eq_some given
    refine ⟨⟨.fresh short panidRef, by simp, rfl⟩, .inr ⟨_, rfl, rfl, rfl, fun _ member => ?_⟩⟩
    obtain ⟨en, recorded, same⟩ := List.mem_map.mp member
    have other := List.findIdx?_eq_none_iff.mp missing en recorded
    exact of_decide_eq_false other (Prod.mk.inj same)

theorem found_byIeee {compressed : IeeeAddrCompressed}
    (given : r.exneighborByIeee panidRef compressed = some (ext, i)) : r.Found panidRef ext i := by
  rw [exneighborByIeee] at given
  split at given
  · rename_i found
    cases given
    have fits := List.find?_some found
    cases here : r.ext[i]? with
    | none =>
      rw [here] at fits
      cases fits
    | some en =>
      rw [here] at fits
      exact ⟨⟨en, here, (of_decide_eq_true fits).1⟩, .inl rfl⟩
  · obtain ⟨⟨ext', i'⟩, alloc, same⟩ := Option.map_eq_some_iff.mp given
    cases same
    obtain ⟨rfl, rfl⟩ := allocNewExtneiboard_eq_some alloc
    refine ⟨⟨{ ExtNeighborTblEnt.fresh 0xffff panidRef with longAddr := compressed }, ?_, rfl⟩,
      .inr ⟨{ ExtNeighborTblEnt.fresh 0xffff panidRef with longAddr := compressed }, ?_, rfl, rfl,
        fun short => absurd rfl short⟩⟩
    · simp
    · exact modify_last _ r.ext

/-! ## The invariant -/

theorem Sound.setPanId (sound : r.Sound) (shortPanId : UInt16) (panId : ExtPanId) :
    Sound { r with pans := (r.pans.setPanId shortPanId panId).1 } where
  distinct := sound.distinct.setPanId shortPanId panId
  stored := by
    intro ref member
    obtain ⟨held, here⟩ := Option.isSome_iff_exists.mp (sound.stored ref member)
    exact Option.isSome_of_eq_some (PanTable.setPanId_keeps shortPanId held here)
  zero := sound.zero
  apart := sound.apart

/-- What the invariant reads of an entry. -/
def row (en : ExtNeighborTblEnt) : UInt16 × PanIdRef × UInt8 :=
  (en.shortAddr, en.panidRef, en.updateId)

theorem Sound.of_rows (sound : r.Sound) (addr : AddrGlobals)
    (same : ext.map row = r.ext.map row) : Sound { r with addr, ext } := by
  have pans : ext.map (·.panidRef) = r.ext.map (·.panidRef) := by
    have columns := congrArg (List.map fun columns => columns.2.1) same
    rwa [List.map_map, List.map_map] at columns
  have updates : ext.map (·.updateId) = r.ext.map (·.updateId) := by
    have columns := congrArg (List.map fun columns => columns.2.2) same
    rwa [List.map_map, List.map_map] at columns
  have keyed : keys ext = keys r.ext := by
    have columns := congrArg (List.map fun columns => (columns.1, columns.2.1)) same
    rwa [List.map_map, List.map_map] at columns
  exact {
    distinct := sound.distinct
    stored := fun ref member => sound.stored ref (pans ▸ member)
    zero := fun updateId member => sound.zero updateId (updates ▸ member)
    apart := fun short known ref => keyed ▸ sound.apart short known ref }

/-- A new entry of a stored PAN. -/
theorem Sound.append (sound : r.Sound) {en : ExtNeighborTblEnt}
    (stored : (r.pans.getPanId en.panidRef).isSome) (zero : en.updateId = 0)
    (fresh : en.shortAddr ≠ 0xffff → (en.shortAddr, en.panidRef) ∉ keys r.ext) :
    Sound { r with ext := r.ext ++ [en] } where
  distinct := sound.distinct
  stored := by
    intro ref member
    rcases List.mem_append.mp (List.map_append ▸ member) with old | added
    · exact sound.stored ref old
    · exact List.mem_singleton.mp added ▸ stored
  zero := by
    intro updateId member
    rcases List.mem_append.mp (List.map_append ▸ member) with old | added
    · exact sound.zero updateId old
    · exact List.mem_singleton.mp added ▸ zero
  apart := by
    intro short known ref
    have columns : keys (r.ext ++ [en]) = keys r.ext ++ [(en.shortAddr, en.panidRef)] :=
      List.map_append
    dsimp only
    rw [columns, List.count_append, List.count_singleton]
    split
    · rename_i same
      cases beq_iff_eq.mp same
      rw [List.count_eq_zero.mpr (fresh known)]
    · exact sound.apart short known ref

/-- An entry found and written without a change of its keys. -/
theorem Sound.modify (sound : r.Sound) (found : r.Found panidRef ext i)
    (stored : (r.pans.getPanId panidRef).isSome) (addr : AddrGlobals)
    {f : ExtNeighborTblEnt → ExtNeighborTblEnt}
    (keeps : ∀ en, en.panidRef = panidRef → row (f en) = row en) :
    Sound { r with addr, ext := ext.modify i f } := by
  obtain ⟨en, here, pan⟩ := found.here
  have rows : (ext.modify i f).map row = ext.map row := by
    apply map_modify
    intro other there
    rw [here] at there
    cases there
    exact keeps en pan
  have base : Sound { r with ext } := by
    rcases found.table with rfl | ⟨new, rfl, rfl, zero, fresh⟩
    · exact sound
    · exact sound.append stored zero fresh
  exact base.of_rows addr rows

theorem row_fill (payload : MacBeaconPayload) (spec : UInt8 × UInt8) (lqi : UInt8)
    (channel : BitVec 5) {en : ExtNeighborTblEnt} (pan : en.panidRef = panidRef) :
    row (r.fill payload spec lqi channel panidRef en) = row en := by
  rw [row, row, pan]
  rfl

/-- Any beacon keeps the invariant. -/
theorem Sound.beaconNotifyIndication (sound : r.Sound) (p : Octets) (lqi : UInt8)
    (channel : BitVec 5) (junk : IeeeAddrCompressed) :
    (r.beaconNotifyIndication p lqi channel junk).Sound := by
  rw [Receiver.beaconNotifyIndication]
  dsimp only
  split
  · have learned := sound.setPanId (parseMhr p).1.srcPanId
      (MacBeaconPayload.read p ((parseMhr p).2 + 2 + 1 + 1)).extendedPanid
    cases given : (r.pans.setPanId (parseMhr p).1.srcPanId
      (MacBeaconPayload.read p ((parseMhr p).2 + 2 + 1 + 1)).extendedPanid).2.ref with
    | none => exact learned
    | some panidRef =>
      have stored := Option.isSome_of_eq_some (PanTable.setPanId_here _ given)
      dsimp only
      by_cases short : (parseMhr p).1.srcMode = zbAddr16bitDevOrBroadcast
      · rw [if_pos short]
        dsimp only
        split
        · exact learned
        · rename_i found
          exact learned.modify (found_byShort found) stored _ fun en pan => row_fill _ _ _ _ pan
      · rw [if_neg short]
        dsimp only
        have compressed := learned.of_rows
          (ieeeAddrCompress r.addr (parseMhr p).1.srcAddr.addrLong junk).1 rfl
        split
        · exact compressed
        · rename_i found
          exact compressed.modify (found_byIeee found) stored _ fun en pan => row_fill _ _ _ _ pan
  · exact sound

/-! ## One beacon of a sender -/

/-- The tables can take the sender: its PAN is known by its short id or can be stored, and its
entry is there, once, or can be added. -/
structure Takes (r : Receiver) (s : Sender) : Prop where
  pan : ¬(r.pans.stored.length = panidTableSize ∧ s.extendedPanId ∉ r.pans.stored)
  shortPan : ∀ ref ∈ r.pans.getPanIdRef s.extendedPanId,
    r.pans.getShortPanId ref = some s.macPanId
  entry : r.entries s ≠ [] ∨ r.ext.length ≠ r.extNeighborSize
  once : s.macShortAddress = 0xffff → (r.entries s).length ≤ 1

/-- When a beacon of the sender leaves what it is to leave.  The beacon of another network than the
one to rejoin changes nothing. -/
def Comes (r : Receiver) (s : Sender) : Prop :=
  if r.Passes s.extendedPanId then r.Shows s.updateBeaconPayload else Fits s ∧ r.Takes s

variable {s : Sender}

/-- The entries of a sender, by the reference of its PAN. -/
def entriesOf (ext : List ExtNeighborTblEnt) (short : UInt16) (panidRef : PanIdRef) :
    List ExtNeighborTblEnt :=
  ext.filter fun en => en.shortAddr = short ∧ en.panidRef = panidRef

theorem entries_eq (distinct : r.pans.Distinct)
    (here : r.pans.getPanId panidRef = some s.extendedPanId) :
    r.entries s = entriesOf r.ext s.macShortAddress panidRef := by
  apply List.filter_congr
  intro en _
  apply decide_eq_decide.mpr
  refine and_congr_right fun _ => ⟨fun there => distinct _ _ _ there here, ?_⟩
  rintro rfl
  exact here

/-- The entries before the PAN is looked up are those after it. -/
theorem Sound.entries_before (sound : r.Sound) {shortPanId : UInt16}
    (given : (r.pans.setPanId shortPanId s.extendedPanId).2.ref = some panidRef) :
    r.entries s = entriesOf r.ext s.macShortAddress panidRef := by
  have here := PanTable.setPanId_here shortPanId given
  have distinct := sound.distinct.setPanId shortPanId s.extendedPanId
  apply List.filter_congr
  intro en member
  apply decide_eq_decide.mpr
  refine and_congr_right fun _ => ⟨fun there => ?_, ?_⟩
  · exact distinct _ _ _ (PanTable.setPanId_keeps shortPanId _ there) here
  · rintro rfl
    have stored := sound.stored en.panidRef (List.mem_map_of_mem member)
    obtain ⟨other, there⟩ := Option.isSome_iff_exists.mp stored
    have kept : (r.pans.setPanId shortPanId s.extendedPanId).1.getPanId en.panidRef = some other :=
      PanTable.setPanId_keeps shortPanId other there
    rw [here] at kept
    rw [there, kept]

theorem Sound.entries_length (sound : r.Sound) {short : UInt16} (known : short ≠ 0xffff) :
    (entriesOf r.ext short panidRef).length ≤ 1 := by
  have count := sound.apart short known panidRef
  rw [keys, List.count, List.countP_map, List.countP_eq_length_filter] at count
  refine Nat.le_trans (Nat.le_of_eq ?_) count
  apply congrArg List.length
  apply List.filter_congr
  intro en _
  rw [Function.comp_apply, Bool.decide_and]
  rfl

/-- The entry looked up is there, or no entry is. -/
theorem exneighborByShort_cases (r : Receiver) (panidRef : PanIdRef) (short : UInt16) :
    (∃ i en, r.exneighborByShort panidRef short = some (r.ext, i) ∧ r.ext[i]? = some en ∧
        en.shortAddr = short ∧ en.panidRef = panidRef) ∨
      entriesOf r.ext short panidRef = [] ∧
        r.exneighborByShort panidRef short = r.allocNewExtneiboard panidRef short := by
  rw [exneighborByShort]
  split
  · rename_i i found
    obtain ⟨inside, fits, -⟩ := List.findIdx?_eq_some_iff_getElem.mp found
    obtain ⟨addr, pan⟩ := of_decide_eq_true fits
    exact .inl ⟨i, r.ext[i], rfl, List.getElem?_eq_getElem inside, addr, pan⟩
  · rename_i missing
    refine .inr ⟨List.filter_eq_nil_iff.mpr fun en member => ?_, rfl⟩
    rw [List.findIdx?_eq_none_iff.mp missing en member]
    exact Bool.false_ne_true

/-- An entry written where it stands is the only one just when it was. -/
theorem entriesOf_modify {short : UInt16} {en : ExtNeighborTblEnt}
    {f : ExtNeighborTblEnt → ExtNeighborTblEnt} (here : ext[i]? = some en)
    (addr : en.shortAddr = short) (pan : en.panidRef = panidRef)
    (keeps : (f en).shortAddr = en.shortAddr ∧ (f en).panidRef = en.panidRef) :
    entriesOf ext short panidRef ≠ [] ∧ ∀ other,
      entriesOf (ext.modify i f) short panidRef = [other] ↔
        (entriesOf ext short panidRef).length ≤ 1 ∧ f en = other := by
  obtain ⟨front, back, rfl, modified⟩ := modify_split f here
  have before : (decide (en.shortAddr = short ∧ en.panidRef = panidRef)) = true :=
    decide_eq_true ⟨addr, pan⟩
  have after : (decide ((f en).shortAddr = short ∧ (f en).panidRef = panidRef)) = true :=
    decide_eq_true ⟨keeps.1.trans addr, keeps.2.trans pan⟩
  rw [modified, entriesOf, entriesOf, List.filter_append, List.filter_append,
    List.filter_cons_of_pos (by exact before), List.filter_cons_of_pos (by exact after)]
  generalize front.filter _ = front
  generalize back.filter _ = back
  refine ⟨by simp, fun other => ?_⟩
  constructor
  · intro one
    obtain ⟨rfl, rfl, rfl⟩ : front = [] ∧ f en = other ∧ back = [] := by
      cases front with
      | nil => exact ⟨rfl, List.cons.inj one⟩
      | cons first rest => simp at one
    exact ⟨Nat.le_refl 1, rfl⟩
  · rintro ⟨one, rfl⟩
    rw [List.length_append, List.length_cons] at one
    have first : front = [] := List.eq_nil_of_length_eq_zero (by omega)
    have last : back = [] := List.eq_nil_of_length_eq_zero (by omega)
    rw [first, last]
    rfl

theorem entriesOf_append {short : UInt16} {en : ExtNeighborTblEnt}
    (missing : entriesOf r.ext short panidRef = []) (addr : en.shortAddr = short)
    (pan : en.panidRef = panidRef) : entriesOf (r.ext ++ [en]) short panidRef = [en] := by
  have fits : decide (en.shortAddr = short ∧ en.panidRef = panidRef) = true :=
    decide_eq_true ⟨addr, pan⟩
  rw [entriesOf] at missing ⊢
  rw [List.filter_append, missing, List.nil_append, List.filter_cons_of_pos (by exact fits)]
  rfl

/-- With eight other PANs stored, the sender stays unknown. -/
theorem overflow_iff {pans : PanTable}
    (full : r.pans.setPanId s.macPanId s.extendedPanId = (pans, .overflow)) :
    RoundTrip r { r with pans } s.updateBeaconPayload ↔ Fits s ∧ r.Takes s := by
  have overflow : (r.pans.setPanId s.macPanId s.extendedPanId).2 = .overflow := by rw [full]
  have others := (PanTable.setPanId_overflow_iff s.macPanId).mp overflow
  have same := PanTable.setPanId_overflow s.macPanId overflow
  rw [full] at same
  dsimp only at same
  refine iff_of_false (fun trip => ?_) fun takes => takes.2.pan others
  obtain ⟨en, -, recorded⟩ := trip.shows
  have there := recorded.extendedPanId
  dsimp only at there
  rw [same] at there
  exact others.2 (PanTable.mem_stored.mpr ⟨_, there⟩)

section
variable (sound : r.Sound) (lqi : UInt8) (channel : BitVec 5)
include sound

/-- What is expected where the PAN has a reference. -/
theorem takes_iff {pans : PanTable} {reply : SetReply}
    (learned : r.pans.setPanId s.macPanId s.extendedPanId = (pans, reply))
    (given : reply.ref = some panidRef) :
    Fits s ∧ r.Takes s ↔ (Fits s ∧ pans.getShortPanId panidRef = some s.macPanId) ∧
      (entriesOf r.ext s.macShortAddress panidRef ≠ [] ∨ r.ext.length ≠ r.extNeighborSize) ∧
      (entriesOf r.ext s.macShortAddress panidRef).length ≤ 1 := by
  have short : (∀ ref ∈ (r.pans.setPanId s.macPanId s.extendedPanId).2.ref,
      (r.pans.setPanId s.macPanId s.extendedPanId).1.getShortPanId ref = some s.macPanId) ↔ _ :=
    PanTable.setPanId_short_iff s.macPanId
  have given' : (r.pans.setPanId s.macPanId s.extendedPanId).2.ref = some panidRef := by
    rw [learned]
    exact given
  rw [given', learned] at short
  have before := sound.entries_before given'
  constructor
  · rintro ⟨fits, takes⟩
    have entry := takes.entry
    have once := takes.once
    rw [before] at entry once
    refine ⟨⟨fits, short.mpr takes.shortPan panidRef rfl⟩, entry, ?_⟩
    by_cases known : s.macShortAddress = 0xffff
    · exact once known
    · exact sound.entries_length known
  · rintro ⟨⟨fits, right⟩, entry, once⟩
    rw [← before] at entry once
    refine ⟨fits, ⟨fun full => ?_, short.mp ?_, entry, fun _ => once⟩⟩
    · have overflow := (PanTable.setPanId_overflow_iff s.macPanId).mpr full
      rw [overflow] at given'
      cases given'
    · intro ref same
      cases same
      exact right

/-- A beacon of the sender leaves what it is to leave just when it comes to it. -/
theorem takeBeacon_iff :
    RoundTrip r (r.takeBeacon s lqi channel) s.updateBeaconPayload ↔ r.Comes s := by
  rw [takeBeacon, Comes]
  by_cases passes : r.Passes s.extendedPanId
  · rw [if_pos passes, if_pos passes]
    exact ⟨fun trip => trip.shows, fun shows => ⟨shows, fun _ => rfl⟩⟩
  rw [if_neg passes, if_neg passes]
  cases learned : r.pans.setPanId s.macPanId s.extendedPanId with | mk pans reply
  dsimp only
  cases given : reply.ref with
  | none =>
    cases reply with
    | overflow => exact overflow_iff learned
    | ok | alreadyExists => cases given
  | some panidRef =>
    rw [takes_iff sound learned given]
    have given' : (r.pans.setPanId s.macPanId s.extendedPanId).2.ref = some panidRef := by
      rw [learned]
      exact given
    have here := PanTable.setPanId_here s.macPanId given'
    have distinct := sound.distinct.setPanId s.macPanId s.extendedPanId
    rw [learned] at here distinct
    have after (ext : List ExtNeighborTblEnt) :
        entries { r with pans, ext } s.updateBeaconPayload =
          entriesOf ext s.macShortAddress panidRef :=
      entries_eq (r := { r with pans, ext }) distinct here
    dsimp only
    rcases exneighborByShort_cases { r with pans } panidRef s.macShortAddress with
      ⟨i, en, found, at_, addr, pan⟩ | ⟨missing, alloc⟩
    · have zero := sound.zero en.updateId
        (List.mem_map_of_mem (List.mem_of_getElem? (by exact at_)))
      rw [found]
      dsimp only
      have written := entriesOf_modify (f := fill { r with pans }
        s.updateBeaconPayload.macBeaconPayload
        (s.updateBeaconPayload.superframeSpec s.handleBeaconReq) lqi channel panidRef) at_ addr pan
        ⟨rfl, pan.symm⟩
      have fits := recorded_fill_iff s { r with pans } lqi channel zero here
      constructor
      · intro trip
        obtain ⟨other, one, recorded⟩ := trip.shows
        rw [after] at one
        obtain ⟨once, rfl⟩ := (written.2 other).mp one
        exact ⟨fits.mp recorded, .inl written.1, once⟩
      · rintro ⟨right, -, once⟩
        refine ⟨⟨_, ?_, fits.mpr right⟩, fun _ => List.length_modify _ _ _⟩
        rw [after]
        exact (written.2 _).mpr ⟨once, rfl⟩
    · rw [alloc, allocNewExtneiboard]
      dsimp only at missing ⊢
      by_cases full : r.ext.length = r.extNeighborSize
      · rw [if_pos full]
        dsimp only
        refine iff_of_false (fun trip => ?_) fun takes => ?_
        · obtain ⟨other, one, -⟩ := trip.shows
          rw [after, missing] at one
          cases one
        · rcases takes.2.1 with there | room
          · exact there missing
          · exact room full
      · rw [if_neg full]
        dsimp only
        rw [modify_last]
        have zero : (ExtNeighborTblEnt.fresh s.macShortAddress panidRef).updateId = 0 := rfl
        have fits := recorded_fill_iff s { r with pans } lqi channel zero here
        have added : entriesOf (r.ext ++ [fill { r with pans }
            s.updateBeaconPayload.macBeaconPayload
            (s.updateBeaconPayload.superframeSpec s.handleBeaconReq) lqi channel panidRef
            (.fresh s.macShortAddress panidRef)]) s.macShortAddress panidRef = [_] :=
          entriesOf_append missing rfl rfl
        have before : r.entries s.updateBeaconPayload =
            entriesOf r.ext s.macShortAddress panidRef := sound.entries_before given'
        constructor
        · intro trip
          obtain ⟨other, one, recorded⟩ := trip.shows
          rw [after, added] at one
          cases one
          exact ⟨fits.mp recorded, .inr full, by rw [missing]; exact Nat.zero_le 1⟩
        · rintro ⟨right, -, -⟩
          refine ⟨⟨_, ?_, fits.mpr right⟩, fun there => absurd (before.trans missing) there⟩
          rw [after, added]

end

end Receiver

/-! ## Runs of the receiver -/

/-- What happens at the receiver: a beacon of a sender, whatever stood in the buffers of both; any
other frame taken for a beacon; and what else touches the state. -/
inductive Event
  | beacon (s : Sender) (sent received : Octets) (lqi : UInt8) (channel : BitVec 5)
      (junk : IeeeAddrCompressed)
  | heard (p : Octets) (lqi : UInt8) (channel : BitVec 5) (junk : IeeeAddrCompressed)
  | exneighborStart (size : ℕ)
  | exneighborStop
  | scan (scan : Scan)
  | deviceType (deviceType : DeviceType)
  | addresses (addr : AddrGlobals)
  | potentialParent (i : ℕ) (value : Bool)

namespace Receiver

/-- `zb_nwk_exneighbor_start`; the table of an end device is there from the beginning. -/
def exneighborStart (r : Receiver) (size : ℕ) : Receiver :=
  if r.routerRole ∧ r.extNeighborSize = 0 then { r with extNeighborSize := size } else r

/-- `zb_nwk_exneighbor_stop`, as far as the extended table goes. -/
def exneighborStop (r : Receiver) : Receiver :=
  { r with ext := [], extNeighborSize := if r.routerRole then 0 else r.extNeighborSize }

def step (r : Receiver) : Event → Receiver
  | .beacon s sent received lqi channel junk =>
    r.beaconNotifyIndication (memcpy received 0 (s.updateBeaconPayload.frame sent)) lqi channel junk
  | .heard p lqi channel junk => r.beaconNotifyIndication p lqi channel junk
  | .exneighborStart size => r.exneighborStart size
  | .exneighborStop => r.exneighborStop
  | .scan scan => { r with scan }
  | .deviceType deviceType => { r with deviceType }
  | .addresses addr => { r with addr }
  | .potentialParent i value =>
    { r with ext := r.ext.modify i fun en => { en with potentialParent := value } }

/-- A receiver that has heard nothing. -/
def fresh (routerRole : Bool) (deviceType : DeviceType) (scan : Scan) (addr : AddrGlobals)
    (extNeighborSize : ℕ) : Receiver :=
  ⟨routerRole, deviceType, scan, .zero, addr, [], extNeighborSize⟩

theorem Sound.fresh (routerRole : Bool) (deviceType : DeviceType) (scan : Scan)
    (addr : AddrGlobals) (size : ℕ) : (fresh routerRole deviceType scan addr size).Sound where
  distinct := fun _ _ _ here => nomatch here
  stored := fun _ member => nomatch member
  zero := fun _ member => nomatch member
  apart := fun _ _ _ => Nat.zero_le 1

/-- Every event keeps the invariant. -/
theorem Sound.step {r : Receiver} (sound : r.Sound) (event : Event) : (r.step event).Sound := by
  cases event with
  | beacon s sent received lqi channel junk =>
    exact sound.beaconNotifyIndication _ lqi channel junk
  | heard p lqi channel junk => exact sound.beaconNotifyIndication p lqi channel junk
  | exneighborStart size =>
    rw [Receiver.step, exneighborStart]
    split
    · exact ⟨sound.distinct, sound.stored, sound.zero, sound.apart⟩
    · exact sound
  | exneighborStop =>
    exact {
      distinct := sound.distinct
      stored := fun _ member => nomatch member
      zero := fun _ member => nomatch member
      apart := fun _ _ _ => Nat.zero_le 1 }
  | scan scan => exact ⟨sound.distinct, sound.stored, sound.zero, sound.apart⟩
  | deviceType deviceType => exact ⟨sound.distinct, sound.stored, sound.zero, sound.apart⟩
  | addresses addr => exact sound.of_rows addr rfl
  | potentialParent i value => exact sound.of_rows r.addr (map_modify row fun _ _ => rfl)

/-- Each beacon of a sender is to make the round trip. -/
def Good (r : Receiver) : Event → Prop
  | event@(.beacon s ..) => RoundTrip r (r.step event) s.updateBeaconPayload
  | _ => True

/-- When it does. -/
def Cond (r : Receiver) : Event → Prop
  | .beacon s .. => r.Comes s
  | _ => True

theorem good_iff {r : Receiver} (sound : r.Sound) (event : Event) :
    r.Good event ↔ r.Cond event := by
  cases event with
  | beacon s sent received lqi channel junk =>
    have taken : r.step (.beacon s sent received lqi channel junk) =
        r.takeBeacon s lqi channel :=
      r.beaconNotifyIndication_frame s lqi channel junk (holds_memcpy _)
    rw [Good, Cond, taken]
    exact takeBeacon_iff sound lqi channel
  | _ => exact Iff.rfl

/-- Over any run, every beacon of a sender makes the round trip just when at each of them its
values fit the entry and the tables take it. -/
theorem round_trips_iff (routerRole : Bool) (deviceType : DeviceType) (scan : Scan)
    (addr : AddrGlobals) (size : ℕ) (events : List Event) :
    Along step Good (fresh routerRole deviceType scan addr size) events ↔
      Along step Cond (fresh routerRole deviceType scan addr size) events := by
  have agree : ∀ r event, Sound r → (Good r event ↔ Cond r event) :=
    fun r event sound => good_iff sound event
  have kept : ∀ r event, Sound r → Cond r event → Sound (step r event) :=
    fun r event sound _ => sound.step event
  exact along_iff_of_invariant agree kept _ _ (.fresh routerRole deviceType scan addr size)

/-- A coordinator of a network whose update id is one, without periodic beacons. -/
def updatedCoordinator : Sender where
  extendedPanId _ := 7
  depth := 0
  updateId := 1
  stackProfile := 1
  designatedCoordinator := true
  macPanId := 0x1AAA
  macShortAddress := 0
  macExtendedAddress := .zero
  macBsn := 0
  macAssociationPermit := 1
  macBattLifeExt := 0
  macBeaconOrder := 15
  macSuperframeOrder := 15
  macBeaconPayload := ⟨0, 0, 0, 0, false, 0, false, fun _ => 0, (0, 0, 0), 0⟩
  macBeaconPayloadLength := 0

/-- Its first beacon is recorded with the update id zero and the beacon order seven. -/
theorem update_id_lost :
    ¬∀ (routerRole : Bool) (deviceType : DeviceType) (scan : Scan) (addr : AddrGlobals) (size : ℕ)
      (events : List Event),
      Along step Good (fresh routerRole deviceType scan addr size) events := by
  intro claim
  have trip := (claim true .none .disc .zero 8
    [.beacon updatedCoordinator (fun _ => 0) (fun _ => 0) 255 11 .zero]).1
  obtain ⟨en, one, recorded⟩ := trip.shows
  have entries : ((fresh true .none .disc .zero 8).step
      (.beacon updatedCoordinator (fun _ => 0) (fun _ => 0) 255 11 .zero)).ext.map
        (fun en => (en.updateId, en.beaconOrder)) = [(0, 7)] := by
    decide +kernel
  have member := List.mem_of_mem_filter (one ▸ List.mem_singleton_self en)
  have same := List.mem_singleton.mp (entries ▸ List.mem_map_of_mem member)
  exact absurd ((Prod.mk.inj same).1.symm.trans recorded.updateId) (by decide)

end Receiver

end Zboss.BeaconRoundTrip
