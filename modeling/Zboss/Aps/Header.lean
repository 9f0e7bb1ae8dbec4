import Zboss.Nwk.CommandFrames

/-!
The APS header: the frame control, how data requests, commands and acknowledgements write a
header, how `zb_aps_hdr_parse` reads it, and the size that `ZB_APS_HDR_SIZE` computes.
-/

namespace Zboss.Aps

open Zboss.FrameHeaders

def apsStatusTableFull : UInt8 := 0xae

/-! ## Frame control -/

def apsFcGetAckFormat (fc : UInt8) : Bool := fc >>> 4 &&& 1 != 0

def apsFcGetAckRequest (fc : UInt8) : Bool := fc >>> 6 &&& 1 != 0

def apsFcSetDeliveryMode (fc mode : UInt8) : UInt8 := fc ||| mode <<< 2

def apsFcSetAckFormat (fc : UInt8) (flag : Bool) : UInt8 := fc ||| flag.toUInt8 <<< 4

def apsFcSetSecurity (fc : UInt8) (flag : Bool) : UInt8 := fc ||| flag.toUInt8 <<< 5

def apsFcSetAckRequest (fc : UInt8) (flag : Bool) : UInt8 := fc ||| flag.toUInt8 <<< 6

def apsFcSetCommand (fc : UInt8) (needAck : Bool) : UInt8 :=
  fc ||| (apsFrameCommand ||| needAck.toUInt8 <<< 6 ||| (1 : UInt8) <<< 4)

def apsDeliveryUnicast : UInt8 := 0

def apsDeliveryBroadcast : UInt8 := 2

/-! ## Data requests -/

/-- `zb_aps_addr_mode_e`; any other mode is strange. -/
inductive AddrMode
  | dstAddrEndpNotPresent
  | groupEndpNotPresent16
  | endpPresent16
  | endpPresent64
  | strange
  deriving DecidableEq, Repr

/-- `zb_apsde_data_req_t`.  The short address is that of the request, of its long address or,
where it has no address, of the destination in the binding table, if there is one. -/
structure ApsdeDataReq where
  addrMode : AddrMode
  dstAddr : UInt16
  bound : Bool
  clusterid : UInt16
  profileid : UInt16
  srcEndpoint : UInt8
  dstEndpoint : UInt8
  ackTx : Bool
  securityEnabled : Bool
  deriving DecidableEq, Repr

/-- The four addresses that `zb_apsde_data_request` takes for a broadcast. -/
def isBroadcast (addr : UInt16) : Bool :=
  addr == 0xffff || addr == 0xfffd || addr == 0xfffc || addr == 0xfffb

namespace ApsdeDataReq

variable (req : ApsdeDataReq)

/-- Groups are not asked for an acknowledgement. -/
def wantsAck : Bool := req.ackTx && req.addrMode != .groupEndpNotPresent16

def deliveryMode : UInt8 :=
  match req.addrMode with
  | .groupEndpNotPresent16 => apsDeliveryGroup
  | .endpPresent16 => if isBroadcast req.dstAddr then apsDeliveryBroadcast else apsDeliveryUnicast
  | _ => apsDeliveryUnicast

/-- The frame control of `zb_apsde_data_request` with the bit that `aps_data_hdr_fill_datareq`
sets for a frame secured at this layer. -/
def frameControl (secured : Bool) : UInt8 :=
  let fc := apsFcSetDeliveryMode 0 req.deliveryMode
  let fc := if req.wantsAck then apsFcSetAckRequest fc true else fc
  if secured then apsFcSetSecurity fc true else fc

end ApsdeDataReq

/-! ## Headers -/

/-- `zb_put_next_htole16`. -/
def htole16 (x : UInt16) : List UInt8 := [x.toUInt8, (x >>> 8).toUInt8]

/-- `ZB_APS_NWK_STD_SECUR_CONTROL`: level 5, the NWK key. -/
def apsNwkStdSecurControl : UInt8 := (5 : UInt8) ||| (1 : UInt8) <<< 3

/-- `zb_aps_nwk_aux_frame_hdr_t` as `zb_secur_aps_aux_hdr_fill` fills it. -/
structure AuxHdr where
  frameCounter : UInt32
  keySeqNumber : UInt8
  deriving DecidableEq, Repr

def AuxHdr.octets (aux : AuxHdr) : List UInt8 :=
  [apsNwkStdSecurControl, aux.frameCounter.toUInt8, (aux.frameCounter >>> 8).toUInt8,
    (aux.frameCounter >>> 16).toUInt8, (aux.frameCounter >>> 24).toUInt8, aux.keySeqNumber]

/-- `aps_data_hdr_fill_datareq`: the octets in front of the payload.  A frame secured here has
an auxiliary header. -/
def apsDataHdrFillDatareq (req : ApsdeDataReq) (apsCounter : UInt8) (aux : Option AuxHdr) :
    List UInt8 :=
  let fc := req.frameControl aux.isSome
  [fc] ++ (if apsFcGetDeliveryMode fc = apsDeliveryGroup then htole16 req.dstAddr
    else [req.dstEndpoint]) ++ htole16 req.clusterid ++ htole16 req.profileid ++
      [req.srcEndpoint, apsCounter] ++ aux.elim [] AuxHdr.octets

/-- The header of `zb_aps_send_command`, with the command id. -/
def apsCommandHdr (needAck : Bool) (apsCounter : UInt8) (aux : Option AuxHdr) (commandId : UInt8) :
    List UInt8 :=
  [apsFcSetCommand (if aux.isSome then apsFcSetSecurity 0 true else 0) needAck, apsCounter] ++
    aux.elim [] AuxHdr.octets ++ [commandId]

structure ApsHdr where
  fc : UInt8
  srcAddr : UInt16
  dstAddr : UInt16
  groupAddr : UInt16
  dstEndpoint : UInt8
  srcEndpoint : UInt8
  clusterid : UInt16
  profileid : UInt16
  apsCounter : UInt8
  deriving DecidableEq, Repr

/-- `zb_aps_hdr_parse` behind a network header with these addresses, and the number of octets
it has read.  What the frame does not have stays as it is in `old`. -/
def apsHdrParse (old : ApsHdr) (srcAddr dstAddr : UInt16) (p : Octets) : ApsHdr × ℕ :=
  let hdr := { old with fc := p 0, srcAddr, dstAddr, srcEndpoint := 0xff }
  if apsFcGetAckFormat (p 0) = false then
    let (hdr, i) :=
      if apsFcGetDeliveryMode (p 0) ≠ apsDeliveryGroup then ({ hdr with dstEndpoint := p 1 }, 2)
      else ({ hdr with groupAddr := p.le16 1 }, 3)
    ({ hdr with
      clusterid := p.le16 i
      profileid := p.le16 (i + 2)
      srcEndpoint := p (i + 4)
      apsCounter := p (i + 5) }, i + 6)
  else ({ hdr with apsCounter := p 1 }, 2)

/-- `zb_aps_full_hdr_size`: what `ZB_APS_HDR_CUT` cuts. -/
def apsFullHdrSize (p : Octets) : ℕ :=
  apsHdrSize (p 0) +
    if apsFcGetSecurity (p 0) then
      if securAuxHdrGetKeyType (p (apsHdrSize (p 0))) = securDataKey then 5 else 6
    else 0

/-- `aps_ack_send_handle`: the acknowledgement of a frame that has been read. -/
def apsAckHdr (hdr : ApsHdr) : List UInt8 :=
  let command := apsFcGetFrameType hdr.fc = apsFrameCommand
  let fc := apsFcSetAckFormat apsFrameAck command
  [fc] ++ (if apsFcGetAckFormat fc = false then
    [hdr.srcEndpoint] ++ htole16 hdr.clusterid ++ htole16 hdr.profileid ++ [hdr.dstEndpoint]
    else []) ++ [hdr.apsCounter]

/-! ## What is written is read -/

section
variable {req : ApsdeDataReq} {p : Octets} {old : ApsHdr} {srcAddr dstAddr : UInt16}

theorem ApsdeDataReq.deliveryMode_cases (req : ApsdeDataReq) :
    req.addrMode = .groupEndpNotPresent16 ∧ req.deliveryMode = apsDeliveryGroup ∨
      req.addrMode ≠ .groupEndpNotPresent16 ∧
        (req.deliveryMode = apsDeliveryUnicast ∨ req.deliveryMode = apsDeliveryBroadcast) := by
  rw [deliveryMode]
  cases req.addrMode with
  | groupEndpNotPresent16 => exact Or.inl ⟨rfl, rfl⟩
  | endpPresent16 =>
    refine Or.inr ⟨by decide, ?_⟩
    dsimp only
    split
    · exact Or.inr rfl
    · exact Or.inl rfl
  | dstAddrEndpNotPresent | endpPresent64 | strange => exact Or.inr ⟨by decide, Or.inl rfl⟩

theorem ApsdeDataReq.frameControl_bits (req : ApsdeDataReq) (secured : Bool) :
    apsFcGetFrameType (req.frameControl secured) = 0 ∧
      (apsFcGetDeliveryMode (req.frameControl secured) = apsDeliveryGroup ↔
        req.addrMode = .groupEndpNotPresent16) ∧
      apsFcGetAckFormat (req.frameControl secured) = false ∧
      apsFcGetSecurity (req.frameControl secured) = secured ∧
      apsFcGetAckRequest (req.frameControl secured) = req.wantsAck := by
  have bits : ∀ mode ∈ [0, 2, 3], ∀ wants secured : Bool,
      let fc := apsFcSetDeliveryMode 0 mode
      let fc := if wants then apsFcSetAckRequest fc true else fc
      let fc := if secured then apsFcSetSecurity fc true else fc
      apsFcGetFrameType fc = 0 ∧ (apsFcGetDeliveryMode fc = apsDeliveryGroup ↔ mode = 3) ∧
        apsFcGetAckFormat fc = false ∧ apsFcGetSecurity fc = secured ∧
          apsFcGetAckRequest fc = wants := by decide +kernel
  have mode : req.deliveryMode ∈ [0, 2, 3] ∧
      (req.deliveryMode = 3 ↔ req.addrMode = .groupEndpNotPresent16) := by
    rcases req.deliveryMode_cases with ⟨group, is⟩ | ⟨other, is | is⟩
    · rw [is]
      exact ⟨by decide, iff_of_true rfl group⟩
    · rw [is]
      exact ⟨by decide, iff_of_false (by decide) other⟩
    · rw [is]
      exact ⟨by decide, iff_of_false (by decide) other⟩
  rw [← mode.2]
  exact bits req.deliveryMode mode.1 req.wantsAck secured

end

end Zboss.Aps
