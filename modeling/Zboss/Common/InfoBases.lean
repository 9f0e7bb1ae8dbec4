import Zboss.Nwk.CommandFrames

/-!
The information bases of the three layers (PIB, NIB and AIB) with their SET and GET primitives.
A set stores into the field of its attribute alone.  A get allocates the confirm over what its
buffer held and writes the value behind it; for most wide attributes it writes one octet only.
-/

namespace Zboss.InfoBases

open Zboss.BufLayout Zboss.Cells Zboss.FrameHeaders Zboss.Run
open Zboss.CommandFrames (shortOctets)

/-- What is compiled in: `ZB_CONFIGURABLE_MAC_PIB`. -/
structure Config where
  configurableMacPib : Bool

/-- A structured attribute, as octets. -/
abbrev Block (n : ℕ) := Fin n → UInt8

namespace Block

/-- `memcpy` from a pointer. -/
def copy {n : ℕ} (ptr : Octets) : Block n := fun i => ptr i

def octets {n : ℕ} (block : Block n) : List UInt8 := List.ofFn block

end Block

/-- The octets of a little-endian 32-bit value. -/
def longOctets (value : UInt32) : List UInt8 :=
  [value.toUInt8, (value >>> 8).toUInt8, (value >>> 16).toUInt8, (value >>> 24).toUInt8]

/-- The octet that a bit-field is read as. -/
def bitsOctet {n : ℕ} (field : BitVec n) : UInt8 := UInt8.ofNat field.toNat

/-- The octet that is stored into a bit-field. -/
def bitsOf (n : ℕ) (octet : UInt8) : BitVec n := BitVec.ofNat n octet.toNat

/-- `status` of a confirm. -/
inductive Status
  | success
  | unsupportedAttribute
  deriving DecidableEq, Repr

/-! ## PIB -/

/-- `sizeof(zb_mac_beacon_payload_t)`. -/
def beaconPayloadSize : ℕ := 15

/-- `zb_mac_pib_t`, as far as attributes go. -/
structure Pib where
  macAckWaitDuration : UInt16
  macAssociationPermit : UInt8
  macBattLifeExt : UInt8
  macBeaconPayload : Block beaconPayloadSize
  macBeaconPayloadLength : UInt8
  macBeaconOrder : UInt8
  macBsn : UInt8
  macCoordExtendedAddress : Block 8
  macCoordShortAddress : UInt16
  macDsn : UInt8
  macPanId : UInt16
  macRxOnWhenIdle : UInt8
  macShortAddress : UInt16
  macSuperframeOrder : UInt16
  macMaxFrameRetries : UInt8
  macTransactionPersistenceTime : UInt16
  macResponseWaitTime : UInt8
  macMaxFrameTotalWaitTime : UInt16
  phyCurrentPage : UInt8
  phyCurrentChannel : UInt8

/-- `zb_mac_pib_attr_t`. -/
inductive PibAttr
  | currentChannel
  | currentPage
  | ackWaitDuration
  | associationPermit
  | autoRequest
  | battLifeExt
  | battLifeExtPeriods
  | beaconPayload
  | beaconPayloadLength
  | beaconOrder
  | beaconTxTime
  | bsn
  | coordExtendAddress
  | coordShortAddress
  | dsn
  | gtsPermit
  | maxCsmaBackoffs
  | minBe
  | panid
  | promiscuousMode
  | rxOnWhenIdle
  | shortAddress
  | superFrameOrder
  | transactionPersistenceTime
  | associatedPanCoord
  | maxBe
  | maxFrameTotalWaitTime
  | maxFrameRetries
  | responseWaitTime
  | syncSymbolOffset
  | timestampSupported
  | securityEnabled
  deriving DecidableEq, Repr

def macMaxFrameRetries : UInt8 := 3

/-- The value that a get finds: its length, where it is written counting from the confirm, and
the octets that are written. -/
structure Answer where
  length : ℕ
  offset : ℕ
  octets : List UInt8

/-- `sizeof(zb_mlme_get_confirm_t)`. -/
def mlmeGetConfirmSize : ℕ := 7

/-- A value written through an octet pointer behind the confirm: the whole of an octet, the low
octet of anything else. -/
def Answer.octet (confirmSize length : ℕ) (octet : UInt8) : Answer := ⟨length, confirmSize, [octet]⟩

/-- A structure that is copied behind the confirm. -/
def Answer.block (confirmSize : ℕ) (octets : List UInt8) : Answer :=
  ⟨octets.length, confirmSize, octets⟩

/-- A 16-bit value written through a 16-bit pointer, which counts the size of the confirm in
words. -/
def Answer.word (confirmSize : ℕ) (value : UInt16) : Answer :=
  ⟨2, 2 * confirmSize, shortOctets value⟩

/-- The branches of `zb_mlme_get_request`; without the configurable PIB the timing attributes are
constants. -/
def mlmeGetRequest (config : Config) (pib : Pib) : PibAttr → Option Answer
  | .currentChannel => some (.octet mlmeGetConfirmSize 1 pib.phyCurrentChannel)
  | .currentPage => some (.octet mlmeGetConfirmSize 1 pib.phyCurrentPage)
  | .ackWaitDuration =>
    some (.octet mlmeGetConfirmSize 2
      (if config.configurableMacPib then pib.macAckWaitDuration.toUInt8 else 88))
  | .associationPermit => some (.octet mlmeGetConfirmSize 1 pib.macAssociationPermit)
  | .battLifeExt => some (.octet mlmeGetConfirmSize 1 pib.macBattLifeExt)
  | .beaconPayload => some (.block mlmeGetConfirmSize pib.macBeaconPayload.octets)
  | .beaconPayloadLength => some (.octet mlmeGetConfirmSize 1 pib.macBeaconPayloadLength)
  | .beaconOrder => some (.octet mlmeGetConfirmSize 1 pib.macBeaconOrder)
  | .bsn => some (.octet mlmeGetConfirmSize 1 pib.macBsn)
  | .coordShortAddress => some (.octet mlmeGetConfirmSize 2 pib.macCoordShortAddress.toUInt8)
  | .dsn => some (.octet mlmeGetConfirmSize 1 pib.macDsn)
  | .panid => some (.octet mlmeGetConfirmSize 2 pib.macPanId.toUInt8)
  | .rxOnWhenIdle => some (.octet mlmeGetConfirmSize 1 pib.macRxOnWhenIdle)
  | .shortAddress => some (.octet mlmeGetConfirmSize 2 pib.macShortAddress.toUInt8)
  | .superFrameOrder => some (.octet mlmeGetConfirmSize 2 pib.macSuperframeOrder.toUInt8)
  | .transactionPersistenceTime =>
    some (.word mlmeGetConfirmSize
      (if config.configurableMacPib then pib.macTransactionPersistenceTime else 0x01f4))
  | .maxFrameTotalWaitTime =>
    some (.word mlmeGetConfirmSize
      (if config.configurableMacPib then pib.macMaxFrameTotalWaitTime else 800))
  | .maxFrameRetries => some (.octet mlmeGetConfirmSize 1 macMaxFrameRetries)
  | .responseWaitTime =>
    some (.octet mlmeGetConfirmSize 1
      (if config.configurableMacPib then pib.macResponseWaitTime else 64))
  | _ => none

/-- `zb_mlme_set_request`, with the value at `ptr`; none where the attribute is not supported. -/
def mlmeSetRequest (config : Config) (pib : Pib) (ptr : Octets) : PibAttr → Option Pib
  | .currentChannel => some { pib with phyCurrentChannel := ptr 0 }
  | .currentPage => some { pib with phyCurrentPage := ptr 0 }
  | .ackWaitDuration =>
    if config.configurableMacPib then some { pib with macAckWaitDuration := ptr.le16 0 } else none
  | .transactionPersistenceTime =>
    if config.configurableMacPib then
      some { pib with macTransactionPersistenceTime := ptr.le16 0 }
    else none
  | .maxFrameTotalWaitTime =>
    if config.configurableMacPib then some { pib with macMaxFrameTotalWaitTime := ptr.le16 0 }
    else none
  | .maxFrameRetries =>
    if config.configurableMacPib then some { pib with macMaxFrameRetries := ptr 0 } else none
  | .responseWaitTime =>
    if config.configurableMacPib then some { pib with macResponseWaitTime := ptr 0 } else none
  | .associationPermit => some { pib with macAssociationPermit := ptr 0 }
  | .battLifeExt => some { pib with macBattLifeExt := ptr 0 }
  | .beaconPayload => some { pib with macBeaconPayload := .copy ptr }
  | .beaconPayloadLength => some { pib with macBeaconPayloadLength := ptr 0 }
  | .beaconOrder => some { pib with macBeaconOrder := ptr 0 }
  | .bsn => some { pib with macBsn := ptr 0 }
  | .coordShortAddress => some { pib with macCoordShortAddress := ptr.le16 0 }
  | .coordExtendAddress => some { pib with macCoordExtendedAddress := .copy ptr }
  | .dsn => some { pib with macDsn := ptr 0 }
  | .panid => some { pib with macPanId := ptr.le16 0 }
  | .rxOnWhenIdle => some { pib with macRxOnWhenIdle := ptr 0 }
  | .shortAddress => some { pib with macShortAddress := ptr.le16 0 }
  | .superFrameOrder => some { pib with macSuperframeOrder := ptr.le16 0 }
  | _ => none

/-! ## NIB -/

/-- `zb_nib_t`, as far as attributes go; some fields are bit-fields. -/
structure Nib where
  sequenceNumber : UInt8
  passiveAckTimeout : UInt16
  maxBroadcastRetries : UInt8
  extendedPanId : Block 8
  updateId : UInt8
  maxDepth : UInt8
  maxChildren : UInt8
  maxRouters : UInt8
  useTreeRouting : BitVec 1
  addrAlloc : BitVec 3
  securityLevel : BitVec 4
  secureAllFrames : BitVec 1
  activeSecurMaterialI : BitVec 2
  activeKeySeqNumber : UInt8
  nwkManagerAddr : UInt16

/-- `zb_nib_attribute_t`; `other` are the ones that neither primitive knows. -/
inductive NibAttr
  | sequenceNumber
  | passiveAskTimeout
  | maxBroadcastRetries
  | maxChildren
  | maxDepth
  | maxRouters
  | addrAlloc
  | useTreeRouting
  | managerAddr
  | updateId
  | extendedPanid
  | securityLevel
  | securityMaterialSet
  | activeKeySeqNumber
  | secureAllFrames
  | other
  deriving DecidableEq, Repr

/-- `sizeof(zb_nlme_get_confirm_t)`. -/
def nlmeGetConfirmSize : ℕ := 10

/-- The branches of `zb_nlme_get_request`. -/
def nlmeGetRequest (nib : Nib) : NibAttr → Option Answer
  | .sequenceNumber => some (.octet nlmeGetConfirmSize 1 nib.sequenceNumber)
  | .passiveAskTimeout => some (.octet nlmeGetConfirmSize 2 nib.passiveAckTimeout.toUInt8)
  | .maxBroadcastRetries => some (.octet nlmeGetConfirmSize 1 nib.maxBroadcastRetries)
  | .maxChildren => some (.octet nlmeGetConfirmSize 1 nib.maxChildren)
  | .maxDepth => some (.octet nlmeGetConfirmSize 1 nib.maxDepth)
  | .maxRouters => some (.octet nlmeGetConfirmSize 1 nib.maxRouters)
  | .addrAlloc => some (.octet nlmeGetConfirmSize 1 (bitsOctet nib.addrAlloc))
  | .useTreeRouting => some (.octet nlmeGetConfirmSize 1 (bitsOctet nib.useTreeRouting))
  | .managerAddr => some (.octet nlmeGetConfirmSize 2 nib.nwkManagerAddr.toUInt8)
  | .updateId => some (.octet nlmeGetConfirmSize 1 nib.updateId)
  | .extendedPanid => some (.block nlmeGetConfirmSize nib.extendedPanId.octets)
  | .securityLevel => some (.octet nlmeGetConfirmSize 1 (bitsOctet nib.securityLevel))
  | .securityMaterialSet => some (.octet nlmeGetConfirmSize 1 (bitsOctet nib.activeSecurMaterialI))
  | .activeKeySeqNumber => some (.octet nlmeGetConfirmSize 1 nib.activeKeySeqNumber)
  | .secureAllFrames => some (.octet nlmeGetConfirmSize 1 (bitsOctet nib.secureAllFrames))
  | .other => none

/-- `zb_nlme_set_request`; it reads one octet of a 16-bit value. -/
def nlmeSetRequest (nib : Nib) (ptr : Octets) : NibAttr → Option Nib
  | .sequenceNumber => some { nib with sequenceNumber := ptr 0 }
  | .passiveAskTimeout => some { nib with passiveAckTimeout := (ptr 0).toUInt16 }
  | .maxBroadcastRetries => some { nib with maxBroadcastRetries := ptr 0 }
  | .maxChildren => some { nib with maxChildren := ptr 0 }
  | .maxDepth => some { nib with maxDepth := ptr 0 }
  | .maxRouters => some { nib with maxRouters := ptr 0 }
  | .addrAlloc => some { nib with addrAlloc := bitsOf 3 (ptr 0) }
  | .useTreeRouting => some { nib with useTreeRouting := bitsOf 1 (ptr 0) }
  | .managerAddr => some { nib with nwkManagerAddr := (ptr 0).toUInt16 }
  | .updateId => some { nib with updateId := ptr 0 }
  | .extendedPanid => some { nib with extendedPanId := .copy ptr }
  | .securityLevel => some { nib with securityLevel := bitsOf 4 (ptr 0) }
  | .securityMaterialSet => some { nib with activeSecurMaterialI := bitsOf 2 (ptr 0) }
  | .activeKeySeqNumber => some { nib with activeKeySeqNumber := ptr 0 }
  | .secureAllFrames => some { nib with secureAllFrames := bitsOf 1 (ptr 0) }
  | .other => none

/-! ## AIB -/

/-- `zb_apsib_t`, as far as attributes go. -/
structure Aib where
  apsDesignatedCoordinator : UInt8
  apsInsecureJoin : UInt8
  apsChannelMask : UInt32
  apsUseExtendedPanId : Block 8

/-- `zb_aps_aib_attr_id_t`; `other` are the ones that neither primitive knows. -/
inductive AibAttr
  | designatedCoord
  | channelMask
  | useExtPanid
  | nonmemberRadius
  | useInsecureJoin
  | other
  deriving DecidableEq, Repr

/-- `sizeof(zb_apsme_get_confirm_t)`. -/
def apsmeGetConfirmSize : ℕ := 9

/-- The branches of `zb_apsme_get_request`. -/
def apsmeGetRequest (aib : Aib) : AibAttr → Option Answer
  | .designatedCoord => some (.octet apsmeGetConfirmSize 1 aib.apsDesignatedCoordinator)
  | .useInsecureJoin => some (.octet apsmeGetConfirmSize 1 aib.apsInsecureJoin)
  | .channelMask => some (.octet apsmeGetConfirmSize 4 aib.apsChannelMask.toUInt8)
  | .useExtPanid => some (.block apsmeGetConfirmSize aib.apsUseExtendedPanId.octets)
  | .nonmemberRadius => some (.octet apsmeGetConfirmSize 1 2)
  | .other => none

/-- `zb_apsme_set_request`; it reads one octet of the channel mask. -/
def apsmeSetRequest (aib : Aib) (ptr : Octets) : AibAttr → Option Aib
  | .designatedCoord => some { aib with apsDesignatedCoordinator := ptr 0 }
  | .useInsecureJoin => some { aib with apsInsecureJoin := ptr 0 }
  | .channelMask => some { aib with apsChannelMask := (ptr 0).toUInt32 }
  | .useExtPanid => some { aib with apsUseExtendedPanId := .copy ptr }
  | _ => none

/-! ## The three layers -/

/-- The information bases of a device. -/
structure Bases where
  pib : Pib
  nib : Nib
  aib : Aib

/-- An attribute of one of the layers. -/
inductive Attr
  | mlme (attr : PibAttr)
  | nlme (attr : NibAttr)
  | apsme (attr : AibAttr)
  deriving DecidableEq, Repr

/-- A set request of a layer: its attribute, and the memory behind it with the value. -/
structure SetRequest where
  attr : Attr
  ptr : Octets

/-- The bases, none where the layer does not support the attribute. -/
def setRequest? (config : Config) (s : Bases) (req : SetRequest) : Option Bases :=
  match req.attr with
  | .mlme attr => (mlmeSetRequest config s.pib req.ptr attr).map fun pib => { s with pib }
  | .nlme attr => (nlmeSetRequest s.nib req.ptr attr).map fun nib => { s with nib }
  | .apsme attr => (apsmeSetRequest s.aib req.ptr attr).map fun aib => { s with aib }

/-- The set primitive of the attribute's layer: the bases after it, and the status. -/
def setRequest (config : Config) (s : Bases) (req : SetRequest) : Bases × Status :=
  match setRequest? config s req with
  | some s => (s, .success)
  | none => (s, .unsupportedAttribute)

/-- The size of the confirm of the attribute's layer. -/
def Attr.confirmSize : Attr → ℕ
  | .mlme _ => mlmeGetConfirmSize
  | .nlme _ => nlmeGetConfirmSize
  | .apsme _ => apsmeGetConfirmSize

/-- What the get primitive of the attribute's layer finds. -/
def answer (config : Config) (s : Bases) : Attr → Option Answer
  | .mlme attr => mlmeGetRequest config s.pib attr
  | .nlme attr => nlmeGetRequest s.nib attr
  | .apsme attr => apsmeGetRequest s.aib attr

/-- A get confirm, with the octets at its value position. -/
structure Confirm where
  status : Status
  attr : Attr
  length : ℕ
  value : List UInt8
  deriving DecidableEq

/-- `ZB_BUF_INITIAL_ALLOC`: where the confirm stands in the data area. -/
def confirmOffset (attr : Attr) (length : ℕ) : ℕ := (ioBufSize - (attr.confirmSize + length)) / 2

/-- The get primitive of the attribute's layer; the confirm is made in the buffer of the request,
whose octets are not cleared. -/
def getRequest (config : Config) (s : Bases) (attr : Attr) (buf : Octets) : Confirm :=
  match answer config s attr with
  | some found =>
    let conf := confirmOffset attr found.length
    let buf := memcpy buf (conf + found.offset) found.octets
    ⟨.success, attr, found.length, segment buf (conf + attr.confirmSize) found.length⟩
  | none => ⟨.unsupportedAttribute, attr, 0, []⟩

/-- The bases after a series of sets. -/
def afterSets (config : Config) (s : Bases) (reqs : List SetRequest) : Bases :=
  run (fun s req => (setRequest config s req).1) s reqs

/-- Both primitives of the attribute's layer support it. -/
def Attr.Supported (config : Config) (attr : Attr) : Prop :=
  ∀ s ptr buf, (setRequest config s ⟨attr, ptr⟩).2 = .success ∧
    (getRequest config s attr buf).status = .success

/-! ## Fields -/

/-- The octets of the attribute's field. -/
def Pib.field (pib : Pib) : PibAttr → List UInt8
  | .currentChannel => [pib.phyCurrentChannel]
  | .currentPage => [pib.phyCurrentPage]
  | .ackWaitDuration => shortOctets pib.macAckWaitDuration
  | .associationPermit => [pib.macAssociationPermit]
  | .battLifeExt => [pib.macBattLifeExt]
  | .beaconPayload => pib.macBeaconPayload.octets
  | .beaconPayloadLength => [pib.macBeaconPayloadLength]
  | .beaconOrder => [pib.macBeaconOrder]
  | .bsn => [pib.macBsn]
  | .coordExtendAddress => pib.macCoordExtendedAddress.octets
  | .coordShortAddress => shortOctets pib.macCoordShortAddress
  | .dsn => [pib.macDsn]
  | .panid => shortOctets pib.macPanId
  | .rxOnWhenIdle => [pib.macRxOnWhenIdle]
  | .shortAddress => shortOctets pib.macShortAddress
  | .superFrameOrder => shortOctets pib.macSuperframeOrder
  | .transactionPersistenceTime => shortOctets pib.macTransactionPersistenceTime
  | .maxFrameTotalWaitTime => shortOctets pib.macMaxFrameTotalWaitTime
  | .maxFrameRetries => [pib.macMaxFrameRetries]
  | .responseWaitTime => [pib.macResponseWaitTime]
  | _ => []

/-- The octets of the attribute's field. -/
def Nib.field (nib : Nib) : NibAttr → List UInt8
  | .sequenceNumber => [nib.sequenceNumber]
  | .passiveAskTimeout => shortOctets nib.passiveAckTimeout
  | .maxBroadcastRetries => [nib.maxBroadcastRetries]
  | .maxChildren => [nib.maxChildren]
  | .maxDepth => [nib.maxDepth]
  | .maxRouters => [nib.maxRouters]
  | .addrAlloc => [bitsOctet nib.addrAlloc]
  | .useTreeRouting => [bitsOctet nib.useTreeRouting]
  | .managerAddr => shortOctets nib.nwkManagerAddr
  | .updateId => [nib.updateId]
  | .extendedPanid => nib.extendedPanId.octets
  | .securityLevel => [bitsOctet nib.securityLevel]
  | .securityMaterialSet => [bitsOctet nib.activeSecurMaterialI]
  | .activeKeySeqNumber => [nib.activeKeySeqNumber]
  | .secureAllFrames => [bitsOctet nib.secureAllFrames]
  | .other => []

/-- The octets of the attribute's field. -/
def Aib.field (aib : Aib) : AibAttr → List UInt8
  | .designatedCoord => [aib.apsDesignatedCoordinator]
  | .useInsecureJoin => [aib.apsInsecureJoin]
  | .channelMask => longOctets aib.apsChannelMask
  | .useExtPanid => aib.apsUseExtendedPanId.octets
  | _ => []

/-- What the bases hold for an attribute. -/
def Bases.field (s : Bases) : Attr → List UInt8
  | .mlme attr => s.pib.field attr
  | .nlme attr => s.nib.field attr
  | .apsme attr => s.aib.field attr

/-- The full width of the attribute, in octets. -/
def Attr.width : Attr → ℕ
  | .mlme .beaconPayload => beaconPayloadSize
  | .mlme .coordExtendAddress | .nlme .extendedPanid | .apsme .useExtPanid => 8
  | .mlme .ackWaitDuration | .mlme .coordShortAddress | .mlme .panid | .mlme .shortAddress
  | .mlme .superFrameOrder | .mlme .transactionPersistenceTime | .mlme .maxFrameTotalWaitTime
  | .nlme .passiveAskTimeout | .nlme .managerAddr => 2
  | .apsme .channelMask => 4
  | _ => 1

section
variable {config : Config} {ptr : Octets}

theorem mlmeSetRequest_other {pib pib' : Pib} {own attr : PibAttr}
    (set : mlmeSetRequest config pib ptr own = some pib') (other : attr ≠ own) :
    pib'.field attr = pib.field attr := by
  obtain ⟨_ | _⟩ := config
  all_goals cases own <;> cases set
  all_goals cases attr <;> first | rfl | exact absurd rfl other

theorem nlmeSetRequest_other {nib nib' : Nib} {own attr : NibAttr}
    (set : nlmeSetRequest nib ptr own = some nib') (other : attr ≠ own) :
    nib'.field attr = nib.field attr := by
  cases own <;> cases set
  all_goals cases attr <;> first | rfl | exact absurd rfl other

theorem apsmeSetRequest_other {aib aib' : Aib} {own attr : AibAttr}
    (set : apsmeSetRequest aib ptr own = some aib') (other : attr ≠ own) :
    aib'.field attr = aib.field attr := by
  cases own <;> cases set
  all_goals cases attr <;> first | rfl | exact absurd rfl other

end

section
variable {config : Config} {s s' : Bases}

/-- A set stores into the field of its attribute alone. -/
theorem setRequest_other {req : SetRequest} {attr : Attr} (other : attr ≠ req.attr) :
    (setRequest config s req).1.field attr = s.field attr := by
  obtain ⟨own, ptr⟩ := req
  dsimp only at other
  rw [setRequest]
  cases set : setRequest? config s ⟨own, ptr⟩ with
  | none => rfl
  | some s' =>
    dsimp only
    cases own with
    | mlme own =>
      obtain ⟨pib, stored, rfl⟩ := Option.map_eq_some_iff.mp set
      cases attr with
      | mlme attr => exact mlmeSetRequest_other stored fun same => other (by rw [same])
      | nlme attr => rfl
      | apsme attr => rfl
    | nlme own =>
      obtain ⟨nib, stored, rfl⟩ := Option.map_eq_some_iff.mp set
      cases attr with
      | mlme attr => rfl
      | nlme attr => exact nlmeSetRequest_other stored fun same => other (by rw [same])
      | apsme attr => rfl
    | apsme own =>
      obtain ⟨aib, stored, rfl⟩ := Option.map_eq_some_iff.mp set
      cases attr with
      | mlme attr => rfl
      | nlme attr => rfl
      | apsme attr => exact apsmeSetRequest_other stored fun same => other (by rw [same])

theorem afterSets_other {reqs : List SetRequest} {attr : Attr}
    (others : ∀ req ∈ reqs, req.attr ≠ attr) :
    (afterSets config s reqs).field attr = s.field attr := by
  induction reqs generalizing s with
  | nil => rfl
  | cons req rest ih =>
    rw [afterSets, run_cons, ← afterSets,
      ih fun later member => others later (List.mem_cons_of_mem _ member)]
    exact setRequest_other (others req List.mem_cons_self).symm

/-- What a get finds is in the field. -/
theorem answer_congr {attr : Attr} (same : s'.field attr = s.field attr) :
    answer config s' attr = answer config s attr := by
  cases attr with
  | mlme attr =>
    change s'.pib.field attr = s.pib.field attr at same
    change mlmeGetRequest config s'.pib attr = mlmeGetRequest config s.pib attr
    obtain ⟨_ | _⟩ := config
    all_goals
      cases attr
      all_goals
        simp only [Pib.field, shortOctets, List.cons.injEq, and_true] at same
        simp only [mlmeGetRequest, shortOctets, Answer.word, Bool.false_eq_true, if_true, if_false,
          same]
  | nlme attr =>
    change s'.nib.field attr = s.nib.field attr at same
    change nlmeGetRequest s'.nib attr = nlmeGetRequest s.nib attr
    cases attr
    all_goals
      simp only [Nib.field, shortOctets, List.cons.injEq, and_true] at same
      simp only [nlmeGetRequest, same]
  | apsme attr =>
    change s'.aib.field attr = s.aib.field attr at same
    change apsmeGetRequest s'.aib attr = apsmeGetRequest s.aib attr
    cases attr
    all_goals
      simp only [Aib.field, longOctets, List.cons.injEq, and_true] at same
      simp only [apsmeGetRequest, same]

end

/-! ## A get after a set -/

/-- The get that follows a set, with other sets in between, confirms the full width of the
attribute and the octets that were set. -/
def ReadsBack (config : Config) (s : Bases) (req : SetRequest) (later : List SetRequest)
    (buf : Octets) : Prop :=
  let conf := getRequest config (afterSets config (setRequest config s req).1 later) req.attr buf
  conf.status = .success ∧ conf.length = req.attr.width ∧
    conf.value = segment req.ptr 0 req.attr.width

/-- When the octets that were set come back.  Behind the octet that a get writes of a wide value
the buffer keeps what it held, and a 16-bit pointer writes past the value; the number of retries
is answered with its default; a bit-field keeps what fits. -/
def Kept (req : SetRequest) (buf : Octets) : Prop :=
  let held (i : ℕ) := buf (confirmOffset req.attr req.attr.width + req.attr.confirmSize + i)
  match req.attr with
  | .mlme .ackWaitDuration | .mlme .coordShortAddress | .mlme .panid | .mlme .shortAddress
  | .mlme .superFrameOrder | .nlme .passiveAskTimeout | .nlme .managerAddr =>
    held 1 = req.ptr 1
  | .apsme .channelMask => held 1 = req.ptr 1 ∧ held 2 = req.ptr 2 ∧ held 3 = req.ptr 3
  | .mlme .transactionPersistenceTime | .mlme .maxFrameTotalWaitTime =>
    held 0 = req.ptr 0 ∧ held 1 = req.ptr 1
  | .mlme .maxFrameRetries => req.ptr 0 = macMaxFrameRetries
  | .nlme .useTreeRouting | .nlme .secureAllFrames => req.ptr 0 < 2
  | .nlme .securityMaterialSet => req.ptr 0 < 4
  | .nlme .addrAlloc => req.ptr 0 < 8
  | .nlme .securityLevel => req.ptr 0 < 16
  | _ => True

theorem bitsOctet_bitsOf_eq {n : ℕ} (octet : UInt8) :
    bitsOctet (bitsOf n octet) = octet ↔ octet.toNat < 2 ^ n := by
  have bound := octet.toNat_lt
  rw [bitsOctet, bitsOf, BitVec.toNat_ofNat, ← UInt8.toNat_inj, UInt8.toNat_ofNat']
  have below : octet.toNat % 2 ^ n < 2 ^ 8 := Nat.lt_of_le_of_lt (Nat.mod_le _ _) bound
  rw [Nat.mod_eq_of_lt below]
  exact Nat.mod_eq_iff_lt (Nat.two_pow_pos n).ne'

theorem le16_low (p : Octets) : (p.le16 0).toUInt8 = p 0 := by
  have high : ((p 1).toUInt16 <<< 8).toUInt8 = 0 := by
    rw [← UInt8.toNat_inj, UInt16.toNat_toUInt8, UInt16.toNat_shiftLeft, Nat.shiftLeft_eq]
    change (p 1).toUInt16.toNat * 256 % 2 ^ 16 % 2 ^ 8 = 0
    omega
  rw [Octets.le16, UInt16.toUInt8_or, high, UInt8.toUInt8_toUInt16]
  exact UInt8.or_zero

/-- The value position after the octet that is written, for a value of two octets. -/
theorem wide_iff {buf ptr : Octets} {octet : UInt8} (low : octet = ptr 0) (i : ℕ) :
    (octet = ptr 0 ∧ segment buf i 1 = segment ptr 1 1) ↔ buf i = ptr 1 := by
  rw [and_iff_right low]
  exact List.singleton_inj

theorem long_iff {buf ptr : Octets} {octet : UInt8} (low : octet = ptr 0) (i : ℕ) :
    (octet = ptr 0 ∧ segment buf i 3 = segment ptr 1 3) ↔
      buf i = ptr 1 ∧ buf (i + 1) = ptr 2 ∧ buf (i + 2) = ptr 3 := by
  rw [and_iff_right low]
  simp [Cells.segment, live, List.range_succ]

theorem pair_iff {buf ptr : Octets} (i : ℕ) :
    segment buf i 2 = segment ptr 0 2 ↔ buf i = ptr 0 ∧ buf (i + 1) = ptr 1 := by
  simp [Cells.segment, live, List.range_succ]

section
variable {config : Config} {s : Bases} {ptr buf : Octets} {attr : Attr}

/-- The octet that a value begins with is written, the rest is what the buffer held. -/
theorem readsBack_octet {n : ℕ} {octet : UInt8}
    (is : answer config (setRequest config s ⟨attr, ptr⟩).1 attr =
      some (.octet attr.confirmSize (n + 1) octet)) (width : attr.width = n + 1) :
    ReadsBack config s ⟨attr, ptr⟩ [] buf ↔
      octet = ptr 0 ∧
        segment buf (confirmOffset attr attr.width + attr.confirmSize + 1) n = segment ptr 1 n := by
  have split_ (a : Octets) (i : ℕ) : segment a i (n + 1) = a i :: segment a (i + 1) n := by
    rw [← List.take_append_drop 1 (segment a i (n + 1)), segment_take (Nat.le_add_left _ _),
      segment_drop, Nat.add_sub_cancel]
    rfl
  rw [ReadsBack, afterSets, run_nil, getRequest, is, width]
  dsimp only [Answer.octet]
  rw [and_iff_right rfl, and_iff_right rfl, split_, split_, List.cons.injEq]
  generalize confirmOffset attr (n + 1) + attr.confirmSize = i
  have head : memcpy buf i [octet] i = octet := by simp [memcpy]
  have tail : segment (memcpy buf i [octet]) (i + 1) n = segment buf (i + 1) n := by
    apply segment_congr
    intro j after _
    have behind : [octet].length ≤ j - i := by
      rw [List.length_singleton]
      omega
    rw [memcpy, if_pos (by omega), List.getD_eq_getElem?_getD, List.getElem?_eq_none behind]
    rfl
  rw [head, tail]

/-- A structure is written as a whole. -/
theorem readsBack_block {n : ℕ}
    (is : answer config (setRequest config s ⟨attr, ptr⟩).1 attr =
      some (.block attr.confirmSize (Block.copy ptr : Block n).octets)) (width : attr.width = n) :
    ReadsBack config s ⟨attr, ptr⟩ [] buf := by
  have octets : (Block.copy ptr : Block n).octets = segment ptr 0 n := by
    apply List.ext_getElem
    · simp [Block.octets]
    · intro i inside inside'
      simp [Block.octets, Block.copy]
  rw [ReadsBack, afterSets, run_nil, getRequest, is, width]
  dsimp only [Answer.block]
  rw [segment_memcpy, octets, segment_length]
  exact ⟨rfl, rfl, rfl⟩

/-- A word is written behind the value. -/
theorem readsBack_word {value : UInt16}
    (is : answer config (setRequest config s ⟨attr, ptr⟩).1 attr =
      some (.word attr.confirmSize value)) (width : attr.width = 2) (size : 2 ≤ attr.confirmSize) :
    ReadsBack config s ⟨attr, ptr⟩ [] buf ↔
      segment buf (confirmOffset attr attr.width + attr.confirmSize) 2 = segment ptr 0 2 := by
  rw [ReadsBack, afterSets, run_nil, getRequest, is, width]
  dsimp only [Answer.word]
  rw [and_iff_right rfl, and_iff_right rfl, segment_memcpy_before _ (by omega)]

/-- A get right after the set. -/
theorem readsBack_nil_iff {req : SetRequest} (supported : req.attr.Supported config) :
    ReadsBack config s req [] buf ↔ Kept req buf := by
  obtain ⟨attr, ptr⟩ := req
  obtain ⟨settable, gettable⟩ := supported s ptr buf
  clear supported
  obtain ⟨_ | _⟩ := config
  all_goals rcases attr with attr | attr | attr
  all_goals cases attr
  all_goals first
    | (change Status.unsupportedAttribute = Status.success at settable; cases settable)
    | (change Status.unsupportedAttribute = Status.success at gettable; cases gettable)
    | clear settable gettable
  all_goals first
    | exact iff_of_true (readsBack_block rfl rfl) trivial
    | refine (readsBack_octet rfl rfl).trans ?_
    | refine (readsBack_word rfl rfl (by decide)).trans ?_
  all_goals first
    | exact wide_iff (le16_low ptr) _
    | exact wide_iff (UInt8.toUInt8_toUInt16 _) _
    | exact (and_iff_left rfl).trans (bitsOctet_bitsOf_eq _)
    | exact (and_iff_left rfl).trans eq_comm
    | exact long_iff (UInt8.toUInt8_toUInt32 _) _
    | exact pair_iff _

end

/-- **A get returns what a set stored** exactly where the octets are kept. -/
theorem readsBack_iff (config : Config) (s : Bases) (req : SetRequest) (later : List SetRequest)
    (buf : Octets) (supported : req.attr.Supported config)
    (others : ∀ req' ∈ later, req'.attr ≠ req.attr) :
    (ReadsBack config s req later buf ∧
      ∀ attr, attr ≠ req.attr → (setRequest config s req).1.field attr = s.field attr) ↔
        Kept req buf := by
  have other : (afterSets config (setRequest config s req).1 later).field req.attr = _ :=
    afterSets_other others
  have found : answer config _ req.attr = answer config _ req.attr := answer_congr other
  rw [and_iff_left fun attr other => setRequest_other other, ← readsBack_nil_iff supported,
    ReadsBack, ReadsBack, getRequest, getRequest, found]
  rfl

/-- Bases with nothing set. -/
def Bases.zero : Bases where
  pib := ⟨0, 0, 0, fun _ => 0, 0, 0, 0, fun _ => 0, 0, 0, 0, 0, 0, 0, 0, 0, 0, 0, 0, 0⟩
  nib := ⟨0, 0, 0, fun _ => 0, 0, 0, 0, 0, 0, 0, 0, 0, 0, 0, 0⟩
  aib := ⟨0, 0, 0, fun _ => 0⟩

def panidSet : SetRequest := ⟨.mlme .panid, Octets.ofList [0x34, 0x12]⟩

def bsnSet : SetRequest := ⟨.mlme .bsn, Octets.ofList [7]⟩

theorem readsBack_iff_bsn :
    (ReadsBack ⟨false⟩ .zero bsnSet [panidSet] (fun _ => 0) ∧
      ∀ attr, attr ≠ bsnSet.attr →
        (setRequest ⟨false⟩ .zero bsnSet).1.field attr = Bases.zero.field attr) ↔
          Kept bsnSet fun _ => 0 :=
  readsBack_iff ⟨false⟩ .zero bsnSet [panidSet] (fun _ => 0) (fun _ _ _ => ⟨rfl, rfl⟩) (by decide)

/-- In a buffer of zeros the high octet of the PAN id is lost. -/
theorem readsBack_panid : ¬ ReadsBack ⟨false⟩ .zero panidSet [] fun _ => 0 := by
  rw [readsBack_nil_iff fun _ _ _ => ⟨rfl, rfl⟩]
  change ¬ (0 : UInt8) = 0x12
  decide

end Zboss.InfoBases
