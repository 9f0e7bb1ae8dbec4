import Mathlib.Data.List.Count
import Zboss.Lib.Run

/-!
NLME-JOIN by association and by rejoining: the requests, the choice of a parent, and the
handlers of scans, confirms, responses, polls and of the timer that lead from a request to its
confirm.  The buffer of a request goes from handler to handler, and so does that of a
response; the lists of the device say who has which.  Where the code reads a pointer that does
not point to an entry of the table, or the wrong member of `tmp`, the device is `broken`.
-/

namespace Zboss.Join

open Zboss.Run

/-- `MAC_SUCCESS` and `ZB_NWK_STATUS_SUCCESS`. -/
def success : UInt8 := 0

/-- `ZB_NWK_STATUS_INVALID_REQUEST`. -/
def invalidRequest : UInt8 := 0xc2

/-- `ZB_NWK_STATUS_NOT_PERMITTED`. -/
def notPermitted : UInt8 := 0xc3

def panidTableSize : ℕ := 8

/-- `ext_neighbor_size` is an octet. -/
def maxExtNeighbors : ℕ := 255

/-- `ZB_MAC_CAP_GET_DEVICE_TYPE`: the device asks to be a router. -/
def capDeviceType (cap : UInt8) : Bool := (cap >>> 1) &&& 1 ≠ 0

/-- `ZB_MAC_CAP_SET_DEVICE_TYPE(cap, 0)`. -/
def capClearDeviceType (cap : UInt8) : UInt8 := cap &&& 0xfd

/-- `ZB_NWK_IS_ADDRESS_BROADCAST`. -/
def isAddressBroadcast (addr : UInt16) : Bool := addr &&& 0xfff0 = 0xfff0

/-- `ZB_NWK_UPDATE_ID1_GE_ID2`, on `int`. -/
def updateIdGe (id1 id2 : UInt8) : Bool := (id1.toNat : Int) - id2.toNat < 127

/-- `ZB_LINK_QUALITY_IS_OK_FOR_JOIN` with `ZB_NS_BUILD`, where there is no link quality. -/
def linkQualityOk (_lqi : UInt8) : Bool := true

/-- `zb_ext_neighbor_tbl_ent_t`; a long address of 0 is not known. -/
structure ExtNeighbor where
  shortAddr : UInt16
  longAddr : UInt64
  panidRef : ℕ
  depth : UInt8
  lqi : UInt8
  updateId : UInt8
  stackProfile : UInt8
  permitJoining : Bool
  routerCapacity : Bool
  endDeviceCapacity : Bool
  potentialParent : Bool
  deriving DecidableEq, Repr

inductive DeviceType
  | ed
  | router
  | coordinator
  | none
  deriving DecidableEq, Repr

/-- The states of `zb_nlme_state_t` that matter to joining. -/
inductive NlmeState
  | idle
  | rejoin
  deriving DecidableEq, Repr

inductive RejoinMethod
  | association
  | rejoin
  deriving DecidableEq, Repr

/-- `zb_nlme_join_request_t`. -/
structure JoinRequest where
  extendedPanId : UInt64
  rejoinNetwork : RejoinMethod
  capabilityInformation : UInt8
  deriving DecidableEq, Repr

/-- The union `tmp`.  A parent is a position in the table; `none` is what an earlier use of the
memory has left there. -/
inductive Tmp
  | join (parent : ℕ)
  | rejoin (extendedPanId : UInt64) (capabilityInformation : UInt8) (parent : Option ℕ)
  | other
  deriving DecidableEq, Repr

/-- A scheduled callback with its buffer. -/
inductive Call
  | rejoinScanConfirm (buf : ℕ)
  | forward (buf : ℕ)
  deriving DecidableEq, Repr

def Call.buf : Call → ℕ
  | .rejoinScanConfirm buf => buf
  | .forward buf => buf

/-- Who gets a buffer for good. -/
inductive Owner
  | joinConfirm
  | nldeDataConfirm
  | syncConfirm
  | dropped
  deriving DecidableEq, Repr

/-- `zb_nlme_join_confirm_t`, with whether a parent has accepted the device. -/
structure JoinConfirm where
  status : UInt8
  networkAddress : UInt16
  extendedPanId : UInt64
  accepted : Bool
  deriving DecidableEq, Repr

/-- A received rejoin response: the flags of the header, the octets where a header with both
addresses has them, and the payload. -/
structure RejoinResponse where
  sourceIeee : Bool
  destinationIeee : Bool
  dstIeeeAddr : UInt64
  srcIeeeAddr : UInt64
  networkAddr : UInt16
  rejoinStatus : UInt8
  deriving DecidableEq, Repr

/-- A beacon of the network that is rejoined, as MAC header, superframe and payload say. -/
structure Beacon where
  extendedPanId : UInt64
  srcAddr : UInt16
  lqi : UInt8
  depth : UInt8
  stackProfile : UInt8
  permitJoining : Bool
  routerCapacity : Bool
  endDeviceCapacity : Bool
  deriving DecidableEq, Repr

/-- What the handlers learn from outside: the address table, the random address, and whether
`zb_nwk_forward` gives the frame to the MAC. -/
structure Surroundings where
  ieeeByShort : UInt16 → Option UInt64
  random : UInt16
  forwarded : Bool

/-- The device.  `routerRole` is the build; the lists are buffers at the MAC for an association
request, a scan, a frame or a poll, and in alarms of the rejoin timeout.  Then the buffers that
came in and that were given away, the requests and confirms, whether a parent has accepted the
device since the last request, and the parents tried since, with the role. -/
structure Device where
  routerRole : Bool
  rxOnWhenIdle : Bool
  extendedAddress : UInt64
  state : NlmeState
  joined : Bool
  joinedPro : Bool
  savedReq : JoinRequest
  tmp : Tmp
  panMap : List UInt64
  extNeighbor : List ExtNeighbor
  extNeighborSize : ℕ
  deviceType : DeviceType
  extPanId : UInt64
  networkAddress : UInt16
  updateId : UInt8
  depth : UInt8
  calls : List Call
  associating : List ℕ
  scanning : List ℕ
  sending : List ℕ
  alarms : List ℕ
  polling : List ℕ
  taken : List ℕ
  given : List (ℕ × Owner)
  requests : ℕ
  confirms : List JoinConfirm
  accepted : Bool
  tried : List (ℕ × Bool)
  broken : Bool

namespace ExtNeighbor

/-- The test of `nwk_choose_parent`. -/
def suitable (routerRole : Bool) (panidRef : ℕ) (cap nibUpdateId : UInt8) (ne : ExtNeighbor) :
    Bool :=
  ne.panidRef = panidRef && ne.potentialParent && ne.permitJoining &&
    (if routerRole && capDeviceType cap && ne.stackProfile = 1 then ne.routerCapacity
      else ne.endDeviceCapacity) &&
    linkQualityOk ne.lqi && updateIdGe ne.updateId nibUpdateId

/-- `ret` stays, `ne` is skipped. -/
def skipped (ret ne : ExtNeighbor) : Bool := ret.depth ≤ ne.depth || ne.lqi < ret.lqi

end ExtNeighbor

/-- One turn of the loop of `nwk_choose_parent`. -/
def chooseNext (fits : ExtNeighbor → Bool) (i : ℕ) (ne : ExtNeighbor)
    (ret : Option (ℕ × ExtNeighbor)) : Option (ℕ × ExtNeighbor) :=
  if fits ne && !ret.any (fun best => best.2.skipped ne) then some (i, ne) else ret

/-- The loop of `nwk_choose_parent` from position `i` on. -/
def chooseScan (fits : ExtNeighbor → Bool) :
    List ExtNeighbor → ℕ → Option (ℕ × ExtNeighbor) → Option (ℕ × ExtNeighbor)
  | [], _, ret => ret
  | ne :: rest, i, ret => chooseScan fits rest (i + 1) (chooseNext fits i ne ret)

namespace RejoinResponse

/-- The check of `zb_nlme_rejoin_response`. -/
def valid (r : RejoinResponse) (extendedAddress parentAddr : UInt64) : Bool :=
  r.rejoinStatus = success && !isAddressBroadcast r.networkAddr && r.sourceIeee &&
    (!r.destinationIeee || r.dstIeeeAddr = extendedAddress) &&
    (parentAddr = 0 || r.srcIeeeAddr = parentAddr)

/-- The source address: without a destination address it takes its place. -/
def source (r : RejoinResponse) : UInt64 :=
  if r.destinationIeee then r.srcIeeeAddr else r.dstIeeeAddr

/-- The parent accepts the device. -/
def accepts (r : RejoinResponse) (extendedAddress parentAddr : UInt64) : Bool :=
  r.rejoinStatus = success && !isAddressBroadcast r.networkAddr && r.sourceIeee &&
    (!r.destinationIeee || r.dstIeeeAddr = extendedAddress) &&
    (parentAddr = 0 || r.source = parentAddr)

end RejoinResponse

namespace Device

variable (w : Device)

/-- `zb_address_get_pan_id_ref`. -/
def getPanIdRef (extendedPanId : UInt64) : Option ℕ := w.panMap.findIdx? (· == extendedPanId)

/-- `zb_nlme_join_confirm` gets a buffer. -/
def joinConfirm (buf : ℕ) (status : UInt8) (accepted : Bool) : Device :=
  { w with
    confirms := w.confirms ++ [{
      status := status
      networkAddress := if status = success then w.networkAddress else 0xffff
      extendedPanId := w.extPanId
      accepted := accepted }]
    given := w.given ++ [(buf, .joinConfirm)] }

/-- `zb_nwk_exneighbor_start`, which is there with the router role; `room` is what the base table
leaves. -/
def exneighborStart (room : ℕ) : Device :=
  if w.routerRole ∧ w.extNeighborSize = 0 then
    { w with extNeighborSize := min room maxExtNeighbors }
  else w

/-- `zb_nwk_exneighbor_stop`. -/
def exneighborStop : Device :=
  { w with
    extNeighbor := []
    extNeighborSize := if w.routerRole then 0 else w.extNeighborSize }

/-- The parent the loop of `nwk_choose_parent` finds. -/
def bestParent (panidRef : ℕ) (cap : UInt8) : Option (ℕ × ExtNeighbor) :=
  chooseScan (ExtNeighbor.suitable w.routerRole panidRef cap w.updateId) w.extNeighbor 0 none

/-- `nwk_choose_parent`: in a build with the router role it looks at the stack profile of the
parent, also where there is none. -/
def chooseParent (panidRef : ℕ) (cap : UInt8) : Option (Device × Option (ℕ × ExtNeighbor)) :=
  match w.bestParent panidRef cap with
  | none => if w.routerRole then none else some (w, none)
  | some (i, ne) =>
    if w.routerRole ∧ ne.stackProfile ≠ 1 then
      some ({ w with joinedPro := true, deviceType := .ed }, some (i, ne))
    else some (w, some (i, ne))

/-- Parent `i` is not to be chosen again. -/
def giveUp (i : ℕ) : Device :=
  { w with extNeighbor := w.extNeighbor.modify i fun ne => { ne with potentialParent := false } }

/-- The association request to parent `i` is built. -/
def associateTo (buf : ℕ) (request : JoinRequest) (i : ℕ) : Device :=
  { w with
    savedReq := request
    tmp := .join i
    associating := w.associating ++ [buf]
    tried := w.tried ++ [(i, capDeviceType request.capabilityInformation)] }

/-- `nwk_association_join`. -/
def associationJoin (buf : ℕ) (request : JoinRequest) : Option (Device × UInt8) :=
  if w.joined then some (w, invalidRequest)
  else
    match w.getPanIdRef request.extendedPanId with
    | none => some (w, notPermitted)
    | some panidRef =>
      match w.chooseParent panidRef request.capabilityInformation with
      | none => none
      | some (d, none) => some (d, notPermitted)
      | some (d, some (i, _)) => some (d.associateTo buf request i, success)

/-- A pointer was read that points to no entry. -/
def break_ : Device := { w with broken := true }

/-- A search begins: no parent has accepted the device, and none was tried. -/
def begin_ : Device := if w.joined then w else { w with accepted := false, tried := [] }

/-- `zb_nlme_join_request` by association. -/
def joinAssociation (buf : ℕ) (request : JoinRequest) : Device :=
  match w.begin_.associationJoin buf request with
  | none => w.break_
  | some (d, ret) => if ret = success then d else d.joinConfirm buf ret false

def nlmeRejoin (buf : ℕ) (request : JoinRequest) (room : ℕ) : Device :=
  if w.state = .idle then
    { w.exneighborStart room with
      tmp := .rejoin request.extendedPanId request.capabilityInformation none
      scanning := w.scanning ++ [buf]
      state := .rejoin
      accepted := false
      tried := [] }
  else w.joinConfirm buf notPermitted false

/-- `zb_nlme_join_request`. -/
def joinRequest (buf : ℕ) (request : JoinRequest) (room : ℕ) : Device :=
  let d := { w with requests := w.requests + 1, taken := w.taken ++ [buf] }
  match request.rejoinNetwork with
  | .association => d.joinAssociation buf request
  | .rejoin => d.nlmeRejoin buf request room

/-- `zb_mlme_associate_confirm` with a success. -/
def associated (buf : ℕ) (parent : ExtNeighbor) (shortAddress : UInt16) : Device :=
  { w with
    accepted := true
    deviceType := if capDeviceType w.savedReq.capabilityInformation then .router else .ed
    joined := true
    extPanId := w.savedReq.extendedPanId
    networkAddress := shortAddress
    updateId := parent.updateId
    depth :=
      if w.routerRole then if parent.depth ≠ 0xf then parent.depth + 1 else parent.depth
      else w.depth }.exneighborStop.joinConfirm buf success true

/-- "Reset potential_parent: try all parents again", as an end device. -/
def asEndDevice : Device :=
  { w with
    savedReq := { w.savedReq with
      capabilityInformation := capClearDeviceType w.savedReq.capabilityInformation }
    extNeighbor := w.extNeighbor.map fun ne => { ne with potentialParent := true } }

/-- `zb_mlme_associate_confirm` with a failure: another parent, then the other role. -/
def associateRetry (buf : ℕ) (status : UInt8) : Device :=
  match w.associationJoin buf w.savedReq with
  | none => w.break_
  | some (d, ret) =>
    if ret = notPermitted ∧ capDeviceType d.savedReq.capabilityInformation then
      match d.asEndDevice.associationJoin buf d.asEndDevice.savedReq with
      | none => d.break_
      | some (d', ret') => if ret' = success then d' else d'.joinConfirm buf status d'.accepted
    else if ret = success then d else d.joinConfirm buf status d.accepted

/-- `zb_mlme_associate_confirm`. -/
def associateConfirm (buf : ℕ) (status : UInt8) (shortAddress : UInt16) : Device :=
  if buf ∈ w.associating then
    let d := { w with associating := w.associating.erase buf }
    match w.tmp with
    | .join i =>
      match w.extNeighbor[i]? with
      | some parent =>
        if status = success then d.associated buf parent shortAddress
        else (d.giveUp i).associateRetry buf status
      | none => d.break_
    | .rejoin _ _ _ => d.break_
    | .other => d.break_
  else w

/-- The search is over without a parent. -/
def rejoinFailed (buf : ℕ) : Device :=
  { w with state := .idle }.exneighborStop.joinConfirm buf notPermitted w.accepted

/-- The rejoin request to parent `i` is built. -/
def rejoinTo (buf : ℕ) (extendedPanId : UInt64) (cap : UInt8) (i : ℕ) (env : Surroundings) :
    Device :=
  { w with
    extNeighbor := w.extNeighbor.modify i fun ne =>
      if ne.longAddr = 0 then { ne with longAddr := (env.ieeeByShort ne.shortAddr).getD 0 }
      else ne
    networkAddress :=
      if w.networkAddress = 0 ∨ w.networkAddress = 0xffff then env.random else w.networkAddress
    calls := w.calls ++ [.forward buf]
    tmp := .rejoin extendedPanId cap (some i)
    tried := w.tried ++ [(i, capDeviceType cap)] }

/-- `zb_nlme_rejoin_scan_confirm`. -/
def rejoinScanConfirm (buf : ℕ) (env : Surroundings) : Device :=
  match w.tmp with
  | .rejoin extendedPanId cap _ =>
    match w.getPanIdRef extendedPanId with
    | none => w.rejoinFailed buf
    | some panidRef =>
      match w.chooseParent panidRef cap with
      | none => w.break_
      | some (d, none) => d.rejoinFailed buf
      | some (d, some (i, _)) => d.rejoinTo buf extendedPanId cap i env
  | .join _ => w.break_
  | .other => w.break_

/-- `zb_mlme_scan_confirm`. -/
def scanConfirm (buf : ℕ) (env : Surroundings) : Device :=
  if buf ∈ w.scanning then
    let d := { w with scanning := w.scanning.erase buf }
    match w.state with
    | .rejoin => d.rejoinScanConfirm buf env
    | .idle => d.break_
  else w

/-- The entry `zb_nwk_exneighbor_by_short` finds. -/
def exneighborByShort (panidRef : ℕ) (shortAddr : UInt16) : Option ℕ :=
  w.extNeighbor.findIdx? fun ne => ne.shortAddr = shortAddr && ne.panidRef = panidRef

/-- An entry as a beacon fills it. -/
def fill (b : Beacon) (ne : ExtNeighbor) : ExtNeighbor :=
  { ne with
    lqi := b.lqi
    depth := b.depth
    permitJoining := b.permitJoining
    stackProfile := b.stackProfile
    routerCapacity := b.routerCapacity
    endDeviceCapacity := b.endDeviceCapacity
    potentialParent :=
      if w.routerRole ∧ w.deviceType ≠ .ed ∧ b.stackProfile ≠ 2 then
        b.permitJoining && b.routerCapacity
      else b.permitJoining && b.endDeviceCapacity }

/-- `zb_address_set_pan_id`. -/
def setPanId (extendedPanId : UInt64) : Option (Device × ℕ) :=
  match w.getPanIdRef extendedPanId with
  | some panidRef => some (w, panidRef)
  | none =>
    if w.panMap.length < panidTableSize then
      some ({ w with panMap := w.panMap ++ [extendedPanId] }, w.panMap.length)
    else none

/-- The entry of a beacon is found or allocated, and filled. -/
def beaconEntry (b : Beacon) (panidRef : ℕ) : Device :=
  match w.exneighborByShort panidRef b.srcAddr with
  | some i => { w with extNeighbor := w.extNeighbor.modify i (w.fill b) }
  | none =>
    if w.extNeighbor.length = w.extNeighborSize then w
    else
      { w with
        extNeighbor := w.extNeighbor ++ [w.fill b {
          shortAddr := b.srcAddr
          longAddr := 0
          panidRef := panidRef
          depth := 0
          lqi := 0
          updateId := 0
          stackProfile := 0
          permitJoining := false
          routerCapacity := false
          endDeviceCapacity := false
          potentialParent := false }] }

/-- `zb_mlme_beacon_notify_indication` while rejoining. -/
def beaconNotify (b : Beacon) : Device :=
  match w.state, w.tmp with
  | .rejoin, .rejoin extendedPanId _ _ =>
    if b.extendedPanId = extendedPanId then
      match w.setPanId b.extendedPanId with
      | some (d, panidRef) => d.beaconEntry b panidRef
      | none => w
    else w
  | .rejoin, .join _ => w.break_
  | .rejoin, .other => w.break_
  | .idle, _ => w

/-- The first callback runs. -/
def call (env : Surroundings) : Device :=
  match w.calls with
  | [] => w
  | .rejoinScanConfirm buf :: rest => { w with calls := rest }.rejoinScanConfirm buf env
  | .forward buf :: rest =>
    if env.forwarded then { w with calls := rest, sending := w.sending ++ [buf] }
    else { w with calls := rest, given := w.given ++ [(buf, .dropped)] }

/-- `zb_mcps_data_confirm` for a rejoin request. -/
def dataConfirm (buf : ℕ) : Device :=
  if buf ∈ w.sending then
    let d := { w with sending := w.sending.erase buf }
    match w.state with
    | .rejoin => { d with alarms := d.alarms.tail ++ [buf] }
    | .idle => { d with given := d.given ++ [(buf, .nldeDataConfirm)] }
  else w

/-- The rest of `zb_nlme_rejoin_response` after a valid response. -/
def rejoined (buf : ℕ) (extendedPanId : UInt64) (parent : ExtNeighbor) (r : RejoinResponse) :
    Device :=
  { w with
    networkAddress := r.networkAddr
    joined := true
    depth := if w.routerRole then parent.depth + (if w.depth ≠ 0xf then 1 else 0) else w.depth
    extPanId := extendedPanId
    state := .idle }.exneighborStop.joinConfirm buf success w.accepted

/-- `zb_nlme_rejoin_response`, with the cancelled alarm. -/
def rejoinResponse (buf : ℕ) (r : RejoinResponse) : Device :=
  let d := { w with taken := w.taken ++ [buf] }
  match w.state with
  | .rejoin =>
    match w.tmp with
    | .rejoin extendedPanId _ (some i) =>
      match w.extNeighbor[i]? with
      | some parent =>
        let heard := { d with
          accepted := w.accepted || r.accepts w.extendedAddress parent.longAddr
          alarms := w.alarms.tail }
        if r.valid w.extendedAddress parent.longAddr then
          heard.rejoined buf extendedPanId parent r
        else
          { heard.giveUp i with calls := heard.calls ++ [.rejoinScanConfirm buf] }
      | none => d.break_
    | .rejoin _ _ none => d.break_
    | .join _ => d.break_
    | .other => d.break_
  | .idle => { d with given := d.given ++ [(buf, .dropped)] }

/-- `remove_parent_from_potential_parents`, and the search goes on. -/
def nextParent (buf i : ℕ) : Device :=
  if i < w.extNeighbor.length then
    { w.giveUp i with calls := w.calls ++ [.rejoinScanConfirm buf] }
  else w.break_

/-- `zb_nlme_rejoin_response_timeout`. -/
def responseTimeout (buf : ℕ) : Device :=
  if buf ∈ w.alarms then
    let d := { w with alarms := w.alarms.erase buf }
    match w.tmp with
    | .rejoin _ _ (some i) =>
      if w.rxOnWhenIdle then d.nextParent buf i else { d with polling := d.polling ++ [buf] }
    | .rejoin _ _ none => d.break_
    | .join _ => d.break_
    | .other => d.break_
  else w

/-- `zb_mlme_poll_confirm`. -/
def pollConfirm (buf : ℕ) (status : UInt8) : Device :=
  if buf ∈ w.polling then
    let d := { w with polling := w.polling.erase buf }
    match w.state with
    | .rejoin =>
      if status ≠ success then
        match w.tmp with
        | .rejoin _ _ (some i) => d.nextParent buf i
        | .rejoin _ _ none => d.break_
        | .join _ => d.break_
        | .other => d.break_
      else d
    | .idle => { d with given := d.given ++ [(buf, .syncConfirm)] }
  else w

/-- A discovery, while nothing else is going on, fills the tables. -/
def discovered (panMap : List UInt64) (extNeighbor : List ExtNeighbor) (size : ℕ) : Device :=
  if w.state = .idle ∧ w.associating = [] ∧ extNeighbor.length ≤ size ∧ size ≤ maxExtNeighbors then
    { w with panMap := panMap, extNeighbor := extNeighbor, extNeighborSize := size }
  else w

end Device

/-- What the device does or what happens to it. -/
inductive Op
  | discovered (panMap : List UInt64) (extNeighbor : List ExtNeighbor) (size : ℕ)
  | left
  | joinRequest (buf : ℕ) (request : JoinRequest) (room : ℕ)
  | associateConfirm (buf : ℕ) (status : UInt8) (shortAddress : UInt16)
  | beacon (b : Beacon)
  | scanConfirm (buf : ℕ) (env : Surroundings)
  | call (env : Surroundings)
  | dataConfirm (buf : ℕ)
  | rejoinResponse (buf : ℕ) (r : RejoinResponse)
  | responseTimeout (buf : ℕ)
  | pollConfirm (buf : ℕ) (status : UInt8)

/-- One step; a broken device does nothing. -/
def step (w : Device) (op : Op) : Device :=
  if w.broken then w
  else
    match op with
    | .discovered panMap extNeighbor size => w.discovered panMap extNeighbor size
    | .left => { w with joined := false }
    | .joinRequest buf request room => w.joinRequest buf request room
    | .associateConfirm buf status shortAddress => w.associateConfirm buf status shortAddress
    | .beacon b => w.beaconNotify b
    | .scanConfirm buf env => w.scanConfirm buf env
    | .call env => w.call env
    | .dataConfirm buf => w.dataConfirm buf
    | .rejoinResponse buf r => w.rejoinResponse buf r
    | .responseTimeout buf => w.responseTimeout buf
    | .pollConfirm buf status => w.pollConfirm buf status

namespace Device

variable (w : Device)

/-- The buffers that are on their way. -/
def under : List ℕ :=
  w.calls.map Call.buf ++ w.associating ++ w.scanning ++ w.sending ++ w.alarms ++ w.polling

/-- Joining completes exactly once: no request has two confirms, and each has one when the
device is IDLE again and no association goes on, and when no buffer is on its way; confirms say
success exactly if a parent has accepted the device; with all confirms issued the state is IDLE;
no parent is tried twice in a role, and they are finitely many; and every buffer that came in
is on its way in one place or was given away once. -/
structure Once : Prop where
  whole : w.broken = false
  atMost : w.confirms.length ≤ w.requests
  settled : w.state = .idle → w.associating = [] → w.confirms.length = w.requests
  answered : w.under = [] → w.confirms.length = w.requests
  accepted : ∀ c ∈ w.confirms, c.status = success ↔ c.accepted = true
  idle : w.confirms.length = w.requests → w.state = .idle
  once : w.tried.Nodup
  ends : w.tried.length ≤ 2 * maxExtNeighbors
  owned : ∀ b, w.under.count b + (w.given.map Prod.fst).count b = w.taken.count b

/-- A device that has joined or not, with nothing under way. -/
structure Start : Prop where
  whole : w.broken = false
  state : w.state = .idle
  under : w.under = []
  size : w.extNeighbor.length ≤ w.extNeighborSize ∧ w.extNeighborSize ≤ maxExtNeighbors
  taken : w.taken = []
  given : w.given = []
  requests : w.requests = 0
  confirms : w.confirms = []
  tried : w.tried = []

/-- Where the build has the router role and the network is known, a parent can be chosen. -/
def finds (extendedPanId : UInt64) (cap : UInt8) : Bool :=
  !w.routerRole || (w.getPanIdRef extendedPanId).all fun panidRef =>
    w.extNeighbor.any (ExtNeighbor.suitable w.routerRole panidRef cap w.updateId)

/-- The parent of the rejoin request. -/
def rejoinParent : Option ℕ :=
  match w.tmp with
  | .rejoin _ _ parent => parent
  | .join _ => none
  | .other => none

/-- The entry the parent of the rejoin request has. -/
def parentEntry : Option ExtNeighbor := w.rejoinParent.bind fun i => w.extNeighbor[i]?

/-- The rejoin finds a parent for its network and role. -/
def rejoinFinds : Bool :=
  match w.tmp with
  | .rejoin extendedPanId cap _ => w.finds extendedPanId cap
  | .join _ => true
  | .other => true

/-- With the parent that refused given up, the association finds another. -/
def associateFinds : Bool :=
  match w.tmp with
  | .join i =>
    (w.giveUp i).finds w.savedReq.extendedPanId w.savedReq.capabilityInformation
  | .rejoin _ _ _ => true
  | .other => true

/-- The beacon makes a parent that was tried and given up a candidate again. -/
def revives (b : Beacon) : Bool :=
  ((w.setPanId b.extendedPanId).bind fun found => w.exneighborByShort found.2 b.srcAddr).any
    fun i => (w.tried.map Prod.fst).contains i && (w.extNeighbor[i]?).any fun ne =>
      !ne.potentialParent && (w.fill b ne).potentialParent

end Device

/-- The step does not reach the places where the procedure goes wrong: an association and a
rejoin share `tmp` and only the rejoin checks the state; with the router role a missing parent
is looked at; a search that starts again must be the only one and not over, with its parent given
up; the request must be sent or another search must go on; the alarm that a response or a second
confirm cancels has a buffer; so has a poll that ends well; the response is read from where
a header without a destination address has the payload; and beacons bring parents back. -/
def Careful (w : Device) : Op → Prop
  | .discovered _ _ _ => True
  | .left => True
  | .joinRequest _ request _ =>
    match request.rejoinNetwork with
    | .association =>
      w.joined ∨ w.state = .idle ∧ w.associating = [] ∧
        w.finds request.extendedPanId request.capabilityInformation
    | .rejoin => w.state = .rejoin ∨ w.associating = []
  | .associateConfirm buf status _ =>
    buf ∈ w.associating → status ≠ success → w.associateFinds
  | .beacon b => w.state = .rejoin → w.revives b = false
  | .scanConfirm buf _ => buf ∈ w.scanning → w.rejoinFinds
  | .call env =>
    match w.calls with
    | [] => True
    | .rejoinScanConfirm _ :: _ =>
      w.state = .rejoin ∧ w.parentEntry.any (fun ne => !ne.potentialParent) ∧ w.rejoinFinds
    | .forward _ :: rest =>
      env.forwarded ∨ w.state = .idle ∨ { w with calls := rest }.under ≠ []
  | .dataConfirm buf => buf ∈ w.sending → w.state = .rejoin → w.alarms = []
  | .rejoinResponse _ r =>
    w.state = .rejoin → w.alarms = [] ∧ w.parentEntry.any fun parent =>
      r.valid w.extendedAddress parent.longAddr = r.accepts w.extendedAddress parent.longAddr
  | .responseTimeout buf =>
    buf ∈ w.alarms → w.rejoinParent.isSome ∧ (w.state = .rejoin ∨ w.rxOnWhenIdle = false)
  | .pollConfirm buf status =>
    buf ∈ w.polling → w.state = .rejoin → w.rejoinParent.isSome ∧ status ≠ success

end Zboss.Join
