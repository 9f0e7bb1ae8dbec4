import Zboss.Aps.Header
import Zboss.Zdo.ChannelChange
import Zboss.Zdo.EndDeviceBind
import Zboss.Zdo.Transactions

/-!
The dispatch of ZDP frames (`zdo_rx.c`), and what its handlers do with the buffers they get.  A
handler that answers uses the buffer of the request for it.  What the handlers write into the
buffers and tables is left out where nothing that becomes of a buffer depends on it.
-/

namespace Zboss.Dispatch

open Zboss.Aps Zboss.FrameHeaders Zboss.ChannelChange Zboss.Transactions Zboss.EndDeviceBind

/-! ## Clusters -/

/-- Cluster ids of requests, `ZDO_..._REQ_CLID`, and the two that are neither request nor
response. -/
def nwkAddrReqClid : UInt16 := 0x0
@[inherit_doc nwkAddrReqClid] def ieeeAddrReqClid : UInt16 := 0x1
@[inherit_doc nwkAddrReqClid] def nodeDescReqClid : UInt16 := 0x2
@[inherit_doc nwkAddrReqClid] def powerDescReqClid : UInt16 := 0x3
@[inherit_doc nwkAddrReqClid] def simpleDescReqClid : UInt16 := 0x4
@[inherit_doc nwkAddrReqClid] def activeEpReqClid : UInt16 := 0x5
@[inherit_doc nwkAddrReqClid] def matchDescReqClid : UInt16 := 0x6
@[inherit_doc nwkAddrReqClid] def deviceAnnceClid : UInt16 := 0x13
@[inherit_doc nwkAddrReqClid] def systemServerDiscoveryReqClid : UInt16 := 0x15
@[inherit_doc nwkAddrReqClid] def endDeviceBindReqClid : UInt16 := 0x20
@[inherit_doc nwkAddrReqClid] def bindReqClid : UInt16 := 0x21
@[inherit_doc nwkAddrReqClid] def unbindReqClid : UInt16 := 0x22
@[inherit_doc nwkAddrReqClid] def mgmtLqiReqClid : UInt16 := 0x31
@[inherit_doc nwkAddrReqClid] def mgmtLeaveReqClid : UInt16 := 0x34
@[inherit_doc nwkAddrReqClid] def mgmtPermitJoiningClid : UInt16 := 0x36
@[inherit_doc nwkAddrReqClid] def mgmtNwkUpdateReqClid : UInt16 := 0x38

/-- Cluster ids of responses, `ZDO_..._RESP_CLID`. -/
def nwkAddrRespClid : UInt16 := 0x8000
@[inherit_doc nwkAddrRespClid] def ieeeAddrRespClid : UInt16 := 0x8001
@[inherit_doc nwkAddrRespClid] def nodeDescRespClid : UInt16 := 0x8002
@[inherit_doc nwkAddrRespClid] def powerDescRespClid : UInt16 := 0x8003
@[inherit_doc nwkAddrRespClid] def simpleDescRespClid : UInt16 := 0x8004
@[inherit_doc nwkAddrRespClid] def activeEpRespClid : UInt16 := 0x8005
@[inherit_doc nwkAddrRespClid] def matchDescRespClid : UInt16 := 0x8006
@[inherit_doc nwkAddrRespClid] def systemServerDiscoveryRespClid : UInt16 := 0x8015
@[inherit_doc nwkAddrRespClid] def endDeviceBindRespClid : UInt16 := 0x8020
@[inherit_doc nwkAddrRespClid] def bindRespClid : UInt16 := 0x8021
@[inherit_doc nwkAddrRespClid] def unbindRespClid : UInt16 := 0x8022
@[inherit_doc nwkAddrRespClid] def mgmtLqiRespClid : UInt16 := 0x8031
@[inherit_doc nwkAddrRespClid] def mgmtLeaveRespClid : UInt16 := 0x8034
@[inherit_doc nwkAddrRespClid] def mgmtNwkUpdateNotifyClid : UInt16 := 0x8038

/-- The responses that go to `zdo_af_resp`, and are freed where it finds no callback. -/
def respClids : List UInt16 :=
  [nodeDescRespClid, powerDescRespClid, simpleDescRespClid, nwkAddrRespClid, ieeeAddrRespClid,
    activeEpRespClid, matchDescRespClid, mgmtLeaveRespClid, mgmtLqiRespClid, bindRespClid,
    unbindRespClid, endDeviceBindRespClid]

/-! ## What becomes of a buffer -/

inductive Handler
  | deviceAnnceSrv
  | sendDescResp
  | sendSimpleDescResp
  | deviceNwkAddrRes
  | deviceIeeeAddrRes
  | activeEpRes
  | matchDescRes
  | mgmtNwkUpdateHandler
  | systemServerDiscoveryRes
  | lqiResp
  | mgmtLeaveSrv
  | bindUnbindRes (bind : Bool)
  | endDeviceBindHandler
  | mgmtPermitJoiningHandle
  deriving DecidableEq, Repr

/-- Who has a buffer next: a callback with it in the ring, or the end device bind, which keeps it
until the second request comes or its alarm is due. -/
inductive Owner
  | apsdeDataRequest (clusterid : UInt16) (tsn : UInt8) (dstAddr : UInt16)
  | nlmeEdScanRequest
  | nlmeLeaveRequest
  | nlmePermitJoiningRequest
  | zdoCb (func : ℕ)
  | systemServerDiscoveryCb (func : ℕ)
  | endDeviceBind
  deriving DecidableEq, Repr

/-- `freedInside` is `zb_free_buf` with an address within the buffer. -/
inductive Disposal
  | freed
  | freedInside
  | handed (owner : Owner)
  deriving DecidableEq, Repr

/-- The buffer of the frame, and the one that waits for the second end device bind request. -/
inductive Buf
  | incoming
  | waiting
  deriving DecidableEq, Repr

/-- The room left in the ring, the handler that was called, and what became of buffers. -/
structure Outcome where
  cbRoom : ℕ
  handler : Option Handler
  disposed : List (Buf × Disposal)
  deriving DecidableEq, Repr

namespace Outcome

variable (o : Outcome)

/-- `ZB_SCHEDULE_CALLBACK`; the status is not looked at. -/
def schedule (buf : Buf) (owner : Owner) : Outcome :=
  if o.cbRoom = 0 then o
  else { o with cbRoom := o.cbRoom - 1, disposed := o.disposed ++ [(buf, .handed owner)] }

def freeBuf (buf : Buf) : Outcome := { o with disposed := o.disposed ++ [(buf, .freed)] }

/-- A handler is called. -/
def call (handler : Handler) : Outcome := { o with handler := some handler }

end Outcome

/-! ## The device -/

inductive DeviceType
  | coordinator
  | router
  | endDevice
  deriving DecidableEq, Repr

/-- What the language says nothing about: shifts by 32 or more, and whether matched clusters are
counted when those found do not fit into their array. -/
structure Machine where
  beyond : UInt8 → UInt32
  spill : Bool

/-- What the dispatch and its handlers read: `routerRole` is `ZB_ROUTER_ROLE`; of the neighbors
the IEEE and the short addresses; `waiting` is the request of the first device of an end device
bind, and `bindBusy` says that there is a second; `outBuf` that there is an out buffer. -/
structure Device where
  routerRole : Bool
  deviceType : DeviceType
  joinedPro : Bool
  shortAddress : UInt16
  extendedAddress : List UInt8
  neighbors : List (List UInt8 × UInt16)
  serverMask : UInt16
  zdoCb : ℕ → CbHashEnt
  systemServerDiscoveryTsn : UInt8
  systemServerDiscoveryCb : Option ℕ
  pendingLeave : List Bool
  waiting : Option BindReq
  bindBusy : Bool
  outBuf : Bool
  channel : ChannelChange.Device
  cbRoom : ℕ

/-- A ZDP frame: the cluster and the source in its indication, the frame control of its APS header
and the octets behind that header, with what the buffer holds after them. -/
structure Zdp where
  clusterid : UInt16
  srcAddr : UInt16
  fc : UInt8
  body : ℕ → UInt8

namespace Device

variable (d : Device) (z : Zdp) (o : Outcome)

/-- `zdo_send_resp_by_short` with the buffer of the request. -/
def sendRespByShort (clusterid : UInt16) : Outcome :=
  o.schedule .incoming (.apsdeDataRequest clusterid (z.body 0) z.srcAddr)

/-- A coordinator or a router. -/
def ffd : Bool := d.deviceType = .coordinator || d.deviceType = .router

/-- `ZB_ZDO_SINGLE_DEV_RESPONSE` and `ZB_ZDO_EXTENDED_RESPONSE`. -/
def singleDevResponse : UInt8 := 0
@[inherit_doc singleDevResponse] def extendedResponse : UInt8 := 1

def unknownShortAddr : UInt16 := 0xffff

/-- `ZB_ZDP_STATUS_DEVICE_NOT_FOUND`. -/
def zdpDeviceNotFound : UInt8 := 0x81

/-- No neighbor is left from the start index on: `count - req.start_index` is an octet. -/
def noneLeft (startIndex : UInt8) : Bool := .ofNat d.neighbors.length - startIndex = 0

/-- The short address that `zdo_device_nwk_addr_res` finds. -/
def findNwkAddr (ieeeAddr : List UInt8) (requestType : UInt8) : UInt16 :=
  if requestType = singleDevResponse then
    if d.extendedAddress = ieeeAddr then d.shortAddress
    else ((d.neighbors.find? fun ent => ent.1 = ieeeAddr).map (·.2)).getD unknownShortAddr
  else unknownShortAddr

/-- The status that `zdo_device_nwk_addr_res` answers with. -/
def nwkAddrStatus : UInt8 :=
  let requestType := z.body 9
  let nwkAddr := d.findNwkAddr ((List.range 8).map fun k => z.body (1 + k)) requestType
  let status := if nwkAddr = unknownShortAddr ∧ apsFcGetDeliveryMode z.fc = apsDeliveryUnicast then
    zdpDeviceNotFound else zdpSuccess
  if status = zdpSuccess ∧ requestType > extendedResponse then zdpInvRequesttype else status

/-- `zdo_device_nwk_addr_res`. -/
def deviceNwkAddrRes : Outcome :=
  if d.nwkAddrStatus z = zdpSuccess ∧ z.body 9 = extendedResponse ∧ d.ffd = true ∧
      d.noneLeft (z.body 10) = true then o.freeBuf .incoming
  else sendRespByShort z o nwkAddrRespClid

/-- `zdo_device_ieee_addr_res`. -/
def deviceIeeeAddrRes : Outcome :=
  if d.shortAddress ≠ letoh16 z.body 1 then
    if apsFcGetDeliveryMode z.fc = apsDeliveryBroadcast then o
    else sendRespByShort z o ieeeAddrRespClid
  else if z.body 3 = extendedResponse ∧ d.ffd = true ∧ d.noneLeft (z.body 4) = true then
    o.freeBuf .incoming
  else sendRespByShort z o ieeeAddrRespClid

/-- `zdo_system_server_discovery_res`. -/
def systemServerDiscoveryRes : Outcome :=
  if letoh16 z.body 1 &&& d.serverMask ≠ 0 then
    sendRespByShort z o systemServerDiscoveryRespClid
  else o.freeBuf .incoming

/-- `zdo_mgmt_leave_srv`: it answers at once where the table of pending requests is full. -/
def mgmtLeaveSrv : Outcome :=
  if d.pendingLeave.all id then sendRespByShort z o mgmtLeaveRespClid
  else o.schedule .incoming .nlmeLeaveRequest

/-- The request asks for an energy scan that is begun. -/
def AsksScan : Prop := z.body 5 ≤ maxScanDuration ∧ 0 < z.body 6 ∧ z.body 6 ≤ 5

instance : Decidable (AsksScan z) := inferInstanceAs (Decidable (_ ∧ _))

/-- `zb_zdo_mgmt_nwk_update_handler`; without result where its loop does not end. -/
def mgmtNwkUpdateHandler (machine : Machine) : Option Outcome :=
  let unicast : Bool := apsFcGetDeliveryMode z.fc = apsDeliveryUnicast
  match d.channel.mgmtNwkUpdateHandler machine.beyond z.srcAddr unicast z.body with
  | none => none
  -- `zb_zdo_nwk_upd_notify`
  | some (_, some _) => some (sendRespByShort z o mgmtNwkUpdateNotifyClid)
  | some (_, none) =>
    if AsksScan z then some (o.schedule .incoming .nlmeEdScanRequest) else some o

/-- The clusters of a list in a request. -/
def readClusters (body : ℕ → UInt8) (at_ count : ℕ) : List UInt16 :=
  (List.range count).map fun k => letoh16 body (at_ + 2 * k)

/-- An end device bind request. -/
def bindReq (body : ℕ → UInt8) : BindReq :=
  let numIn := (body 14).toNat
  { bindingTarget := letoh16 body 1
    srcEndp := body 11
    profileId := letoh16 body 12
    inClusters := readClusters body 15 numIn
    outClusters := readClusters body (16 + 2 * numIn) (body (15 + 2 * numIn)).toNat }

/-- Two requests have clusters in common. -/
def clustersMatch (machine : Machine) (req1 req2 : BindReq) : Bool :=
  let list1 := checkClusterList req1.outClusters req2.inClusters
  let list2 := checkClusterList req1.inClusters req2.outClusters
  req1.profileId = req2.profileId &&
    if maxClusterList < list1.length ∨ maxClusterList < list2.length then machine.spill
    else !(list1 = [] && list2 = [])

/-- `zb_zdo_end_device_bind_resp`; the request that waits is answered with its own number and to
its own source, which `answer` are. -/
def endDeviceBindResp (buf : Buf) (answer : UInt8 × UInt16) : Outcome :=
  o.schedule buf (.apsdeDataRequest endDeviceBindRespClid answer.1 answer.2)

/-- `ZB_GET_OUT_BUF_DELAYED(zb_zdo_send_check_bind_unbind)` where there is an out buffer: its
callback takes its place in the ring. -/
def getOutBufDelayed : Outcome :=
  if d.outBuf then { o with cbRoom := o.cbRoom - 1 } else o

/-- `zb_zdo_end_device_bind_handler`. -/
def endDeviceBindHandler (machine : Machine) (answer : UInt8 × UInt16) : Outcome :=
  let req := bindReq z.body
  let own := (z.body 0, z.srcAddr)
  if req.srcEndp < minEndpointNumber ∨ req.srcEndp > maxEndpointNumber then
    endDeviceBindResp o .incoming own
  else
    match d.waiting with
    | none => { o with disposed := o.disposed ++ [(.incoming, .handed .endDeviceBind)] }
    | some req1 =>
      if d.bindBusy then endDeviceBindResp o .incoming own
      else
        let o := if clustersMatch machine req1 req then d.getOutBufDelayed o else o
        endDeviceBindResp (endDeviceBindResp o .incoming own) .waiting answer

/-- `zdo_af_resp`, and whether it returns `RET_OK`. -/
def afResp : Outcome × Bool :=
  match (Zdo.findTsn d.zdoCb (z.body 0)).bind fun i => (d.zdoCb i).func with
  | some func => (o.schedule .incoming (.zdoCb func), true)
  | none => (o, false)

/-- The energy report behind the number of a frame. -/
def report (body : ℕ → UInt8) : Report where
  status := body 1
  scannedChannels := letoh32 body 2
  totalTransmissions := letoh16 body 6
  transmissionFailures := letoh16 body 8
  scannedChannelsListCount := body 10
  energyValues k := body (11 + k)

/-- `zdo_change_channel`; without result where building the request does not end. -/
def changeChannel (machine : Machine) : Option Outcome :=
  match d.channel.changeChannel machine.beyond (report z.body) with
  | none => none
  | some (channel, some packet) =>
    some (o.schedule .incoming (.apsdeDataRequest mgmtNwkUpdateReqClid channel.tsn packet.dstAddr))
  | some (_, none) => some (o.freeBuf .incoming)

/-- What a branch of the dispatch leaves: `skip_free_buf`, and whether `asdu` has been moved into
the buffer. -/
structure Branch where
  outcome : Outcome
  skipFreeBuf : Bool
  moved : Bool

/-- A branch that calls a handler, which disposes of the buffer. -/
def Branch.done (outcome : Outcome) : Branch := ⟨outcome, true, false⟩

/-- The end of the dispatch. -/
def Branch.finish (b : Branch) : Outcome :=
  if b.skipFreeBuf then b.outcome
  else if b.moved then
    { b.outcome with disposed := b.outcome.disposed ++ [(.incoming, .freedInside)] }
  else b.outcome.freeBuf .incoming

/-- The branches for responses, and the last one. -/
def dispatchResponse (machine : Machine) : Option Branch :=
  if z.clusterid ∈ respClids then
    let (o, ok) := d.afResp z o
    some ⟨o, ok, false⟩
  else if z.clusterid = systemServerDiscoveryRespClid then
    -- `ZB_BUF_CUT_LEFT` leaves `asdu` at the data behind the number.
    if z.body 0 = d.systemServerDiscoveryTsn then
      match d.systemServerDiscoveryCb with
      | some func => some ⟨o.schedule .incoming (.systemServerDiscoveryCb func), true, true⟩
      | none => some ⟨{ o with cbRoom := o.cbRoom - 1 }, true, true⟩
    else some ⟨o, false, true⟩
  else if z.clusterid = mgmtNwkUpdateNotifyClid then
    let (o, ok) := d.afResp z o
    if ok then some (.done o) else (d.changeChannel z o machine).map .done
  else some ⟨o, false, false⟩

/-- The chain of `zb_zdo_data_indication`. -/
def dispatch (machine : Machine) (answer : UInt8 × UInt16) : Option Branch :=
  if d.routerRole = true ∧ z.clusterid = deviceAnnceClid ∧ d.joinedPro = false then
    some ⟨o.call .deviceAnnceSrv, false, false⟩
  else if z.clusterid = nodeDescReqClid ∧ z.clusterid = powerDescReqClid then
    some (.done (sendRespByShort z (o.call .sendDescResp) (z.clusterid ||| 0x8000)))
  else if z.clusterid = simpleDescReqClid then
    some (.done (sendRespByShort z (o.call .sendSimpleDescResp) simpleDescRespClid))
  else if z.clusterid = nwkAddrReqClid then
    some (.done (d.deviceNwkAddrRes z (o.call .deviceNwkAddrRes)))
  else if z.clusterid = ieeeAddrReqClid then
    some (.done (d.deviceIeeeAddrRes z (o.call .deviceIeeeAddrRes)))
  else if z.clusterid = activeEpReqClid then
    some (.done (sendRespByShort z (o.call .activeEpRes) activeEpRespClid))
  else if z.clusterid = matchDescReqClid then
    some (.done (sendRespByShort z (o.call .matchDescRes) matchDescRespClid))
  else if z.clusterid = mgmtNwkUpdateReqClid then
    (d.mgmtNwkUpdateHandler z (o.call .mgmtNwkUpdateHandler) machine).map .done
  else if z.clusterid = systemServerDiscoveryReqClid then
    some (.done (d.systemServerDiscoveryRes z (o.call .systemServerDiscoveryRes)))
  else if z.clusterid = mgmtLqiReqClid then
    some (.done (sendRespByShort z (o.call .lqiResp) mgmtLqiRespClid))
  else if z.clusterid = mgmtLeaveReqClid then
    some (.done (d.mgmtLeaveSrv z (o.call .mgmtLeaveSrv)))
  else if z.clusterid = bindReqClid then
    some (.done (sendRespByShort z (o.call (.bindUnbindRes true)) bindRespClid))
  else if z.clusterid = unbindReqClid then
    some (.done (sendRespByShort z (o.call (.bindUnbindRes false)) unbindRespClid))
  else if z.clusterid = endDeviceBindReqClid then
    some (.done (d.endDeviceBindHandler z (o.call .endDeviceBindHandler) machine answer))
  else if z.clusterid = mgmtPermitJoiningClid then
    if d.routerRole then
      if d.joinedPro then some ⟨o, false, false⟩
      else
        some (.done ((o.call .mgmtPermitJoiningHandle).schedule .incoming
          .nlmePermitJoiningRequest))
    else some ⟨o, true, false⟩
  else d.dispatchResponse z o machine

/-- `zb_zdo_data_indication`; without result where it does not return. -/
def zdoDataIndication (machine : Machine) (answer : UInt8 × UInt16) : Option Outcome :=
  (d.dispatch z ⟨d.cbRoom, none, []⟩ machine answer).map Branch.finish

end Device

/-! ## What is expected -/

/-- The supported requests and their handlers. -/
def requests : List (UInt16 × Handler) :=
  [(nodeDescReqClid, .sendDescResp), (powerDescReqClid, .sendDescResp),
    (simpleDescReqClid, .sendSimpleDescResp), (nwkAddrReqClid, .deviceNwkAddrRes),
    (ieeeAddrReqClid, .deviceIeeeAddrRes), (activeEpReqClid, .activeEpRes),
    (matchDescReqClid, .matchDescRes),
    (systemServerDiscoveryReqClid, .systemServerDiscoveryRes),
    (bindReqClid, .bindUnbindRes true), (unbindReqClid, .bindUnbindRes false),
    (endDeviceBindReqClid, .endDeviceBindHandler), (mgmtLqiReqClid, .lqiResp),
    (mgmtLeaveReqClid, .mgmtLeaveSrv), (mgmtNwkUpdateReqClid, .mgmtNwkUpdateHandler)]

/-- A callback waits for responses with the number. -/
def Device.Registered (d : Device) (tsn : UInt8) (func : ℕ) : Prop :=
  ∃ i < tranTableSize, (d.zdoCb i).tsn = tsn ∧ (d.zdoCb i).func = some func

/-- What became of one buffer. -/
def Outcome.fates (o : Outcome) (buf : Buf) : List Disposal :=
  o.disposed.filterMap fun entry => if entry.1 = buf then some entry.2 else none

/-- It was freed or handed on, once. -/
def Outcome.Once (o : Outcome) (buf : Buf) : Prop :=
  ∃ disposal, disposal ≠ .freedInside ∧ o.fates buf = [disposal]

/-- The request is the second of an end device bind. -/
def Device.Pairs (d : Device) (z : Zdp) : Prop :=
  z.clusterid = endDeviceBindReqClid ∧ (Device.bindReq z.body).ValidEndp ∧
    d.waiting ≠ none ∧ d.bindBusy = false

instance (d : Device) (z : Zdp) : Decidable (d.Pairs z) := inferInstanceAs (Decidable (_ ∧ _))

/-- A supported request gets to its handler, a response to a callback that waits for it, and each
buffer that is involved is freed or handed on, once. -/
@[mk_iff]
structure Served (d : Device) (z : Zdp) (o : Outcome) : Prop where
  request : ∀ handler, (z.clusterid, handler) ∈ requests → o.handler = some handler
  response : z.clusterid ∈ respClids ∨ z.clusterid = mgmtNwkUpdateNotifyClid →
    (∃ func, d.Registered (z.body 0) func) →
    ∃ func, d.Registered (z.body 0) func ∧ o.fates .incoming = [.handed (.zdoCb func)]
  discovery : z.clusterid = systemServerDiscoveryRespClid →
    z.body 0 = d.systemServerDiscoveryTsn → ∀ func ∈ d.systemServerDiscoveryCb,
    o.fates .incoming = [.handed (.systemServerDiscoveryCb func)]
  once : o.Once .incoming
  waiting : if d.Pairs z then o.Once .waiting else o.fates .waiting = []

/-- The clusters whose handlers answer or hand on every frame. -/
def answered : List UInt16 :=
  [simpleDescReqClid, activeEpReqClid, matchDescReqClid, mgmtLqiReqClid, mgmtLeaveReqClid,
    bindReqClid, unbindReqClid]

/-- The energy report does not make the device change the channel, or it does, the request can be
built and there is room for it. -/
def Device.Changes (d : Device) (machine : Machine) (body : ℕ → UInt8) : Prop :=
  d.channel.Accepts (Device.report body) → 0 < d.cbRoom ∧
    channelOf machine.beyond
      (parseScanResults d.channel.currentChannel (Device.report body)).newChannelNum.toUInt32 ≠ none

/-- The room that the answers to two end device bind requests take. -/
def Device.pairRoom (d : Device) (machine : Machine) (z : Zdp) : ℕ :=
  if d.outBuf = true ∧ ∀ req ∈ d.waiting,
    Device.clustersMatch machine req (Device.bindReq z.body) = true then 3 else 2

/-- A request to report is answered: it asks for a scan, or is to be refused or confirmed. -/
def Reports (z : Zdp) : Prop :=
  Device.AsksScan z ∨ z.srcAddr < broadcastLowPowerRouter ∧ z.body 5 ≠ newActiveChannel ∧
    z.body 5 ≠ newChannelMask ∧
    (z.body 5 ≤ maxScanDuration ∨ apsFcGetDeliveryMode z.fc = apsDeliveryUnicast)

/-- The frame is not one of those that are dropped or leave their buffer behind, and there is room
in the ring for what is scheduled. -/
@[mk_iff]
structure Answerable (machine : Machine) (d : Device) (z : Zdp) : Prop where
  descriptors : z.clusterid ≠ nodeDescReqClid ∧ z.clusterid ≠ powerDescReqClid
  answers : z.clusterid ∈ answered → 0 < d.cbRoom
  nwkAddr : z.clusterid = nwkAddrReqClid → 0 < d.cbRoom ∨ d.nwkAddrStatus z = zdpSuccess ∧
    z.body 9 = Device.extendedResponse ∧ d.ffd = true ∧ d.noneLeft (z.body 10) = true
  ieeeAddr : z.clusterid = ieeeAddrReqClid →
    if d.shortAddress = letoh16 z.body 1 then
      0 < d.cbRoom ∨
        z.body 3 = Device.extendedResponse ∧ d.ffd = true ∧ d.noneLeft (z.body 4) = true
    else apsFcGetDeliveryMode z.fc ≠ apsDeliveryBroadcast ∧ 0 < d.cbRoom
  nwkUpdate : z.clusterid = mgmtNwkUpdateReqClid → Reports z ∧ 0 < d.cbRoom
  discovery : z.clusterid = systemServerDiscoveryReqClid →
    letoh16 z.body 1 &&& d.serverMask ≠ 0 → 0 < d.cbRoom
  bind : z.clusterid = endDeviceBindReqClid →
    if d.Pairs z then d.pairRoom machine z ≤ d.cbRoom
    else (Device.bindReq z.body).ValidEndp ∧ d.waiting = none ∨ 0 < d.cbRoom
  permitJoining : z.clusterid = mgmtPermitJoiningClid →
    d.routerRole = true ∧ (d.joinedPro = false → 0 < d.cbRoom)
  responses : z.clusterid ∈ respClids ∨ z.clusterid = mgmtNwkUpdateNotifyClid →
    (∃ func, d.Registered (z.body 0) func) → 0 < d.cbRoom
  discoveryResponse : z.clusterid = systemServerDiscoveryRespClid →
    z.body 0 = d.systemServerDiscoveryTsn ∧ d.systemServerDiscoveryCb ≠ none ∧ 0 < d.cbRoom
  notify : z.clusterid = mgmtNwkUpdateNotifyClid →
    (¬ ∃ func, d.Registered (z.body 0) func) → d.Changes machine z.body

section
variable {d : Device} {z : Zdp} {machine : Machine} {answer : UInt8 × UInt16} {o : Outcome}

/-! ## Outcomes -/

/-- The dispatch returns and serves the frame. -/
def Good (d : Device) (z : Zdp) (machine : Machine) (answer : UInt8 × UInt16) : Prop :=
  ∃ o, d.zdoDataIndication z machine answer = some o ∧ Served d z o

theorem good_iff (eq : d.zdoDataIndication z machine answer = some o) :
    Good d z machine answer ↔ Served d z o := by
  rw [Good, eq]
  constructor
  · rintro ⟨o', same, served⟩
    exact Option.some.inj same ▸ served
  · exact fun served => ⟨o, rfl, served⟩

theorem schedule_handler (o : Outcome) (buf : Buf) (owner : Owner) :
    (o.schedule buf owner).handler = o.handler := by
  rw [Outcome.schedule]
  split <;> rfl

theorem fates_schedule (o : Outcome) (buf other : Buf) (owner : Owner) :
    (o.schedule buf owner).fates other =
      o.fates other ++ if o.cbRoom ≠ 0 ∧ buf = other then [.handed owner] else [] := by
  rw [Outcome.schedule]
  by_cases full : o.cbRoom = 0
  · simp [full]
  · by_cases same : buf = other <;> simp [full, same, Outcome.fates, List.filterMap_append]

/-- A frame whose buffer is handed on, and nothing else has happened. -/
theorem fates_handed (room : ℕ) (handler : Option Handler) (owner : Owner) :
    ((⟨room, handler, []⟩ : Outcome).schedule .incoming owner).fates .incoming =
      if 0 < room then [.handed owner] else [] := by
  rw [fates_schedule]
  simp [Outcome.fates, Nat.pos_iff_ne_zero]

theorem once_handed (room : ℕ) (handler : Option Handler) (owner : Owner) :
    ((⟨room, handler, []⟩ : Outcome).schedule .incoming owner).Once .incoming ↔ 0 < room := by
  rw [Outcome.Once, fates_handed]
  split
  · next some_ => exact iff_of_true ⟨_, by simp, rfl⟩ some_
  · next none_ => exact iff_of_false (by simp) none_

theorem waiting_handed (room : ℕ) (handler : Option Handler) (owner : Owner) :
    ((⟨room, handler, []⟩ : Outcome).schedule .incoming owner).fates .waiting = [] := by
  rw [fates_schedule]
  simp [Outcome.fates]

theorem once_freed (room : ℕ) (handler : Option Handler) :
    ((⟨room, handler, []⟩ : Outcome).freeBuf .incoming).Once .incoming := ⟨.freed, by simp, rfl⟩

/-- Nothing has become of the buffer. -/
theorem not_once_nil (room : ℕ) (handler : Option Handler) :
    ¬ (⟨room, handler, []⟩ : Outcome).Once .incoming := by
  rintro ⟨disposal, -, nothing⟩
  exact List.cons_ne_nil disposal [] nothing.symm

/-- A check of the clusters of a list, one by one. -/
theorem of_all {p : UInt16 → Prop} [DecidablePred p] {clusterids : List UInt16}
    (all : clusterids.all fun clusterid => decide (p clusterid)) {clusterid : UInt16}
    (inside : clusterid ∈ clusterids) : p clusterid :=
  of_decide_eq_true (List.all_eq_true.mp all clusterid inside)

theorem notPairs (differs : z.clusterid ≠ endDeviceBindReqClid) : ¬ d.Pairs z :=
  fun pairs => differs pairs.1

/-- A frame that is not a response, nor a request to bind end devices. -/
def Plain (clusterid : UInt16) : Prop :=
  clusterid ≠ endDeviceBindReqClid ∧ clusterid ∉ respClids ∧
    clusterid ≠ mgmtNwkUpdateNotifyClid ∧ clusterid ≠ systemServerDiscoveryRespClid

instance (clusterid : UInt16) : Decidable (Plain clusterid) := inferInstanceAs (Decidable (_ ∧ _))

theorem served_plain (plain : Plain z.clusterid) : Served d z o ↔
    (∀ handler, (z.clusterid, handler) ∈ requests → o.handler = some handler) ∧
      o.Once .incoming ∧ o.fates .waiting = [] := by
  obtain ⟨notBind, notResp, notNotify, notDiscovery⟩ := plain
  rw [served_iff, if_neg (notPairs notBind)]
  simp only [notResp, notNotify, notDiscovery, or_self, false_imp_iff, true_and]

theorem served_handed (plain : Plain z.clusterid) {room : ℕ} {handler : Option Handler}
    (called : ∀ handler', (z.clusterid, handler') ∈ requests → handler = some handler')
    (owner : Owner) :
    Served d z ((⟨room, handler, []⟩ : Outcome).schedule .incoming owner) ↔ 0 < room := by
  rw [served_plain plain, once_handed, waiting_handed, schedule_handler]
  exact ⟨fun served => served.2.1, fun some_ => ⟨called, some_, rfl⟩⟩

theorem served_freed (plain : Plain z.clusterid) {room : ℕ} {handler : Option Handler}
    (called : ∀ handler', (z.clusterid, handler') ∈ requests → handler = some handler') :
    Served d z ((⟨room, handler, []⟩ : Outcome).freeBuf .incoming) :=
  (served_plain plain).mpr ⟨called, once_freed room handler, rfl⟩

/-- A request that is not for a binding is plain, and has one handler. -/
theorem plain_called {clusterid : UInt16} (same : z.clusterid = clusterid) (handler : Handler)
    (entry : (clusterid, handler) ∈ requests) (notBind : clusterid ≠ endDeviceBindReqClid) :
    Plain z.clusterid ∧
      ∀ handler', (z.clusterid, handler') ∈ requests → some handler = some handler' := by
  have plain : ∀ first ∈ requests, first.1 ≠ endDeviceBindReqClid → Plain first.1 := by decide
  have one : ∀ first ∈ requests, ∀ second ∈ requests, first.1 = second.1 →
      first.2 = second.2 := by decide
  rw [same]
  exact ⟨plain _ entry notBind, fun _ other => congrArg some (one _ entry _ other rfl)⟩

/-- A frame that is left behind. -/
theorem not_served_nil {room : ℕ} {handler : Option Handler} :
    ¬ Served d z ⟨room, handler, []⟩ := fun served => not_once_nil room handler served.once

/-! ## Requests -/

theorem good_descriptors
    (desc : z.clusterid = nodeDescReqClid ∨ z.clusterid = powerDescReqClid) :
    ¬ Good d z machine answer := by
  have eq : d.zdoDataIndication z machine answer =
      some ((⟨d.cbRoom, none, []⟩ : Outcome).freeBuf .incoming) := by
    rw [Device.zdoDataIndication, Device.dispatch, Device.dispatchResponse]
    obtain node | power := desc
    · rw [node]
      simp +decide [Device.Branch.finish]
    · rw [power]
      simp +decide [Device.Branch.finish]
  rw [good_iff eq]
  intro served
  obtain node | power := desc
  · have called := served.request .sendDescResp (by rw [node]; decide)
    exact nomatch called
  · have called := served.request .sendDescResp (by rw [power]; decide)
    exact nomatch called

/-- The requests that are always answered, with the clusters of their answers. -/
def answering : List (UInt16 × Handler × UInt16) :=
  [(simpleDescReqClid, .sendSimpleDescResp, simpleDescRespClid),
    (activeEpReqClid, .activeEpRes, activeEpRespClid),
    (matchDescReqClid, .matchDescRes, matchDescRespClid),
    (mgmtLqiReqClid, .lqiResp, mgmtLqiRespClid),
    (bindReqClid, .bindUnbindRes true, bindRespClid),
    (unbindReqClid, .bindUnbindRes false, unbindRespClid)]

theorem dispatch_answering {handler : Handler} {resp : UInt16}
    (inside : (z.clusterid, handler, resp) ∈ answering) :
    d.zdoDataIndication z machine answer =
      some ((⟨d.cbRoom, some handler, []⟩ : Outcome).schedule .incoming
        (.apsdeDataRequest resp (z.body 0) z.srcAddr)) := by
  rw [Device.zdoDataIndication, Device.dispatch]
  simp only [answering, List.mem_cons, List.not_mem_nil, or_false, Prod.mk.injEq] at inside
  obtain ⟨h, rfl, rfl⟩ | ⟨h, rfl, rfl⟩ | ⟨h, rfl, rfl⟩ | ⟨h, rfl, rfl⟩ | ⟨h, rfl, rfl⟩ |
    ⟨h, rfl, rfl⟩ := inside <;>
  · rw [h]
    simp +decide [Device.Branch.done, Device.Branch.finish, Device.sendRespByShort, Outcome.call]

theorem good_answering {handler : Handler} {resp : UInt16}
    (inside : (z.clusterid, handler, resp) ∈ answering) :
    Good d z machine answer ↔ 0 < d.cbRoom := by
  have plain : ∀ entry ∈ answering, Plain entry.1 := by decide
  have called : ∀ first ∈ answering, ∀ second ∈ requests, first.1 = second.1 →
      first.2.1 = second.2 := by decide
  rw [good_iff (dispatch_answering inside)]
  exact served_handed (plain _ inside)
    (fun _ entry => congrArg some (called _ inside _ entry rfl)) _

theorem good_leave (leave : z.clusterid = mgmtLeaveReqClid) :
    Good d z machine answer ↔ 0 < d.cbRoom := by
  obtain ⟨plain, called⟩ := plain_called leave .mgmtLeaveSrv (by decide) (by decide)
  have eq : d.zdoDataIndication z machine answer =
      some (d.mgmtLeaveSrv z ⟨d.cbRoom, some .mgmtLeaveSrv, []⟩) := by
    rw [Device.zdoDataIndication, Device.dispatch, leave]
    simp +decide [Device.Branch.done, Device.Branch.finish, Outcome.call]
  rw [good_iff eq, Device.mgmtLeaveSrv]
  split <;> exact served_handed plain called _

theorem good_nwkAddr (nwkAddr : z.clusterid = nwkAddrReqClid) :
    Good d z machine answer ↔ 0 < d.cbRoom ∨ d.nwkAddrStatus z = zdpSuccess ∧
      z.body 9 = Device.extendedResponse ∧ d.ffd = true ∧ d.noneLeft (z.body 10) = true := by
  obtain ⟨plain, called⟩ := plain_called nwkAddr .deviceNwkAddrRes (by decide) (by decide)
  have eq : d.zdoDataIndication z machine answer =
      some (d.deviceNwkAddrRes z ⟨d.cbRoom, some .deviceNwkAddrRes, []⟩) := by
    rw [Device.zdoDataIndication, Device.dispatch, nwkAddr]
    simp +decide [Device.Branch.done, Device.Branch.finish, Outcome.call]
  rw [good_iff eq, Device.deviceNwkAddrRes]
  split
  · next none_ => exact iff_of_true (served_freed plain called) (.inr none_)
  · next some_ =>
    rw [Device.sendRespByShort, served_handed plain called]
    exact (or_iff_left some_).symm

theorem good_ieeeAddr (ieeeAddr : z.clusterid = ieeeAddrReqClid) :
    Good d z machine answer ↔
      if d.shortAddress = letoh16 z.body 1 then
        0 < d.cbRoom ∨
          z.body 3 = Device.extendedResponse ∧ d.ffd = true ∧ d.noneLeft (z.body 4) = true
      else apsFcGetDeliveryMode z.fc ≠ apsDeliveryBroadcast ∧ 0 < d.cbRoom := by
  obtain ⟨plain, called⟩ := plain_called ieeeAddr .deviceIeeeAddrRes (by decide) (by decide)
  have eq : d.zdoDataIndication z machine answer =
      some (d.deviceIeeeAddrRes z ⟨d.cbRoom, some .deviceIeeeAddrRes, []⟩) := by
    rw [Device.zdoDataIndication, Device.dispatch, ieeeAddr]
    simp +decide [Device.Branch.done, Device.Branch.finish, Outcome.call]
  rw [good_iff eq, Device.deviceIeeeAddrRes]
  by_cases own : d.shortAddress = letoh16 z.body 1
  · rw [if_neg (not_not_intro own), if_pos own]
    split
    · next none_ => exact iff_of_true (served_freed plain called) (.inr none_)
    · next some_ =>
      rw [Device.sendRespByShort, served_handed plain called]
      exact (or_iff_left some_).symm
  · rw [if_pos own, if_neg own]
    split
    · next broadcast => exact iff_of_false not_served_nil fun unicast => unicast.1 broadcast
    · next unicast =>
      rw [Device.sendRespByShort, served_handed plain called]
      exact (and_iff_right unicast).symm

theorem good_discovery (discovery : z.clusterid = systemServerDiscoveryReqClid) :
    Good d z machine answer ↔ (letoh16 z.body 1 &&& d.serverMask ≠ 0 → 0 < d.cbRoom) := by
  obtain ⟨plain, called⟩ := plain_called discovery .systemServerDiscoveryRes (by decide) (by decide)
  have eq : d.zdoDataIndication z machine answer =
      some (d.systemServerDiscoveryRes z ⟨d.cbRoom, some .systemServerDiscoveryRes, []⟩) := by
    rw [Device.zdoDataIndication, Device.dispatch, discovery]
    simp +decide [Device.Branch.done, Device.Branch.finish, Outcome.call]
  rw [good_iff eq, Device.systemServerDiscoveryRes]
  split
  · next some_ =>
    rw [Device.sendRespByShort, served_handed plain called]
    exact ⟨fun room _ => room, fun room => room some_⟩
  · next none_ => exact iff_of_true (served_freed plain called) fun some_ => absurd some_ none_

/-- What the result of the handler of update requests tells about the frame. -/
def Tells (z : Zdp) : Option (ChannelChange.Device × Option UInt8) → Prop
  | none => ¬ Reports z
  | some (_, some _) => Reports z
  | some (_, none) => Reports z ↔ Device.AsksScan z

theorem mgmtNwkUpdate_tells (beyond : UInt8 → UInt32) (channel : ChannelChange.Device) :
    Tells z (channel.mgmtNwkUpdateHandler beyond z.srcAddr
      (decide (apsFcGetDeliveryMode z.fc = apsDeliveryUnicast)) z.body) := by
  have silent : z.body 5 = newActiveChannel ∨ z.body 5 = newChannelMask → ¬ Reports z := by
    rintro (active | mask) (asks | ⟨-, notActive, notMask, -⟩)
    · exact absurd (active ▸ asks.1) (by decide)
    · exact notActive active
    · exact absurd (mask ▸ asks.1) (by decide)
    · exact notMask mask
  have quiet (channel : ChannelChange.Device) (no : ¬ Reports z) : Tells z (some (channel, none)) :=
    iff_of_false no fun asks => no (.inl asks)
  have respond (channel : ChannelChange.Device) (status : UInt8)
      (reports : Reports z ↔ z.srcAddr < broadcastLowPowerRouter) :
      Tells z (some (channel, if z.srcAddr < broadcastLowPowerRouter then some status
        else none)) := by
    split
    · next own => exact reports.mpr own
    · next foreign => exact quiet channel fun yes => foreign (reports.mp yes)
  rw [ChannelChange.Device.mgmtNwkUpdateHandler]
  dsimp only
  by_cases active : z.body 5 = newActiveChannel
  · rw [if_pos active]
    split
    · split
      · exact silent (.inl active)
      · exact quiet _ (silent (.inl active))
    · exact quiet _ (silent (.inl active))
  rw [if_neg active]
  by_cases mask : z.body 5 = newChannelMask
  · rw [if_pos mask]
    exact quiet _ (silent (.inr mask))
  rw [if_neg mask]
  by_cases short : z.body 5 ≤ maxScanDuration
  · have answered (noScan : ¬ Device.AsksScan z) :
        Reports z ↔ z.srcAddr < broadcastLowPowerRouter := by
      constructor
      · rintro (asks | ⟨own, -⟩)
        · exact absurd asks noScan
        · exact own
      · exact fun own => .inr ⟨own, active, mask, .inl short⟩
    rw [if_pos short]
    split
    · next many => exact respond _ _ (answered fun asks => UInt8.not_lt.mpr asks.2.2 many)
    · next few =>
      split
      · next some_ =>
        have asks : Device.AsksScan z := ⟨short, some_, UInt8.not_lt.mp few⟩
        exact iff_of_true (.inl asks) asks
      · next none_ => exact respond _ _ (answered fun asks => none_ asks.2.1)
  · have noScan : ¬ Device.AsksScan z := fun asks => short asks.1
    rw [if_neg short]
    by_cases unicast : apsFcGetDeliveryMode z.fc = apsDeliveryUnicast
    · rw [if_pos (decide_eq_true unicast)]
      refine respond _ _ ⟨?_, fun own => .inr ⟨own, active, mask, .inr unicast⟩⟩
      rintro (asks | ⟨own, -⟩)
      · exact absurd asks noScan
      · exact own
    · rw [if_neg (fun yes => unicast (of_decide_eq_true yes))]
      refine quiet _ ?_
      rintro (asks | ⟨-, -, -, scan | direct⟩)
      · exact noScan asks
      · exact short scan
      · exact unicast direct

theorem finish_done : Device.Branch.finish ∘ Device.Branch.done = id := rfl

theorem good_nwkUpdate (nwkUpdate : z.clusterid = mgmtNwkUpdateReqClid) :
    Good d z machine answer ↔ Reports z ∧ 0 < d.cbRoom := by
  obtain ⟨plain, called⟩ := plain_called nwkUpdate .mgmtNwkUpdateHandler (by decide) (by decide)
  have eq : d.zdoDataIndication z machine answer =
      d.mgmtNwkUpdateHandler z ⟨d.cbRoom, some .mgmtNwkUpdateHandler, []⟩ machine := by
    rw [Device.zdoDataIndication, Device.dispatch, nwkUpdate]
    simp +decide only [if_false, if_true, and_false, false_and, Option.map_map, Outcome.call]
    rw [finish_done, Option.map_id]
    rfl
  have tells := mgmtNwkUpdate_tells (z := z) machine.beyond d.channel
  rw [Device.mgmtNwkUpdateHandler] at eq
  split at eq
  · next never =>
    rw [never] at tells
    refine iff_of_false ?_ fun good => tells good.1
    rintro ⟨o, returned, -⟩
    exact nomatch eq.symm.trans returned
  · next channel status responds =>
    rw [responds] at tells
    rw [good_iff eq, Device.sendRespByShort, served_handed plain called]
    exact (and_iff_right tells).symm
  · next channel responds =>
    rw [responds] at tells
    split at eq
    · next asks =>
      rw [good_iff eq, served_handed plain called]
      exact (and_iff_right (tells.mpr asks)).symm
    · next noScan =>
      rw [good_iff eq]
      exact iff_of_false not_served_nil fun good => noScan (tells.mp good.1)

theorem served_bind (bind : z.clusterid = endDeviceBindReqClid)
    (called : o.handler = some .endDeviceBindHandler) : Served d z o ↔
      o.Once .incoming ∧ if d.Pairs z then o.Once .waiting else o.fates .waiting = [] := by
  constructor
  · exact fun served => ⟨served.once, served.waiting⟩
  · rintro ⟨once, waiting⟩
    refine ⟨?_, ?_, ?_, once, waiting⟩
    · rw [bind]
      simp +decide [requests, called]
    · rw [bind]
      exact fun resp => absurd resp (by decide)
    · rw [bind]
      exact fun resp => absurd resp (by decide)

/-- Two buffers are handed on, one after the other. -/
def handBoth (room : ℕ) (handler : Option Handler) (first second : Owner) : Outcome :=
  ((⟨room, handler, []⟩ : Outcome).schedule .incoming first).schedule .waiting second

/-- Both requests are answered if there is room for two answers. -/
theorem once_both (room : ℕ) (handler : Option Handler) (first second : Owner) :
    (handBoth room handler first second).Once .incoming ∧
      (handBoth room handler first second).Once .waiting ↔ 2 ≤ room := by
  have incoming : (handBoth room handler first second).fates .incoming =
      if 0 < room then [.handed first] else [] := by
    rw [handBoth, fates_schedule, fates_handed]
    simp
  have waiting : (handBoth room handler first second).fates .waiting =
      if 2 ≤ room then [.handed second] else [] := by
    have less : room - 1 ≠ 0 ↔ 2 ≤ room := by omega
    rw [handBoth, fates_schedule, waiting_handed, List.nil_append, Outcome.schedule]
    by_cases full : room = 0
    · simp [full]
    · simp [full, less]
  rw [Outcome.Once, Outcome.Once, incoming, waiting]
  constructor
  · rintro ⟨-, disposal, -, handed⟩
    by_contra none_
    rw [if_neg none_] at handed
    exact nomatch handed
  · intro two
    rw [if_pos two, if_pos (Nat.lt_of_lt_of_le Nat.zero_lt_two two)]
    exact ⟨⟨_, by simp, rfl⟩, _, by simp, rfl⟩

theorem served_both (pairs : d.Pairs z) (room : ℕ) (first second : Owner) :
    Served d z (handBoth room (some .endDeviceBindHandler) first second) ↔ 2 ≤ room := by
  have called : (handBoth room (some .endDeviceBindHandler) first second).handler =
      some .endDeviceBindHandler := by
    rw [handBoth, schedule_handler, schedule_handler]
  rw [served_bind pairs.1 called, if_pos pairs]
  exact once_both room _ first second

theorem good_bind (bind : z.clusterid = endDeviceBindReqClid) : Good d z machine answer ↔
    if d.Pairs z then d.pairRoom machine z ≤ d.cbRoom
    else (Device.bindReq z.body).ValidEndp ∧ d.waiting = none ∨ 0 < d.cbRoom := by
  have eq : d.zdoDataIndication z machine answer = some (d.endDeviceBindHandler z
      ⟨d.cbRoom, some .endDeviceBindHandler, []⟩ machine answer) := by
    rw [Device.zdoDataIndication, Device.dispatch, bind]
    simp +decide [Device.Branch.done, Device.Branch.finish, Outcome.call]
  -- The request is answered, and no other buffer is involved.
  have single (alone : ¬ d.Pairs z) (owner : Owner) : Served d z ((⟨d.cbRoom,
      some .endDeviceBindHandler, []⟩ : Outcome).schedule .incoming owner) ↔ 0 < d.cbRoom := by
    rw [served_bind bind (schedule_handler _ _ _), if_neg alone, once_handed, waiting_handed]
    exact and_iff_left rfl
  rw [good_iff eq, Device.endDeviceBindHandler]
  dsimp only
  split
  · next invalid =>
    have alone : ¬ d.Pairs z := fun pairs => pairs.2.1 invalid
    rw [Device.endDeviceBindResp, single alone, if_neg alone]
    exact (or_iff_right fun valid => valid.1 invalid).symm
  · next valid =>
    split
    · next first =>
      have alone : ¬ d.Pairs z := fun pairs => pairs.2.2.1 first
      rw [served_bind bind rfl, if_neg alone, if_neg alone]
      exact iff_of_true ⟨⟨_, by simp, rfl⟩, rfl⟩ (.inl ⟨valid, first⟩)
    · next req1 second =>
      have waits : d.waiting ≠ none := by simp [second]
      split
      · next busy =>
        have alone : ¬ d.Pairs z := fun pairs => Bool.noConfusion (busy.symm.trans pairs.2.2.2)
        rw [Device.endDeviceBindResp, single alone, if_neg alone]
        exact (or_iff_right fun first => waits first.2).symm
      · next free =>
        have pairs : d.Pairs z := ⟨bind, valid, waits, by simpa using free⟩
        have room : d.pairRoom machine z =
            if d.outBuf = true ∧ Device.clustersMatch machine req1 (Device.bindReq z.body) = true
              then 3 else 2 := by
          rw [Device.pairRoom, second]
          simp
        rw [if_pos pairs, room]
        by_cases outBuf : d.outBuf = true ∧
            Device.clustersMatch machine req1 (Device.bindReq z.body) = true
        · rw [if_pos outBuf.2, if_pos outBuf, Device.getOutBufDelayed, if_pos outBuf.1]
          refine (served_both pairs (d.cbRoom - 1) _ _).trans ?_
          omega
        · have kept : (if Device.clustersMatch machine req1 (Device.bindReq z.body) = true then
              d.getOutBufDelayed ⟨d.cbRoom, some .endDeviceBindHandler, []⟩
              else ⟨d.cbRoom, some .endDeviceBindHandler, []⟩) =
              (⟨d.cbRoom, some .endDeviceBindHandler, []⟩ : Outcome) := by
            split
            · next matched => exact if_neg fun some_ => outBuf ⟨some_, matched⟩
            · rfl
          rw [kept, if_neg outBuf]
          exact served_both pairs d.cbRoom _ _

theorem good_permitJoining (permit : z.clusterid = mgmtPermitJoiningClid) :
    Good d z machine answer ↔ d.routerRole = true ∧ (d.joinedPro = false → 0 < d.cbRoom) := by
  have plain : Plain z.clusterid := by
    rw [permit]
    decide
  have called (handler : Option Handler) :
      ∀ handler', (z.clusterid, handler') ∈ requests → handler = some handler' := by
    rw [permit]
    simp +decide [requests]
  have eq : d.zdoDataIndication z machine answer = some (
      if d.routerRole = true then
        if d.joinedPro = true then (⟨d.cbRoom, none, []⟩ : Outcome).freeBuf .incoming
        else (⟨d.cbRoom, some .mgmtPermitJoiningHandle, []⟩ : Outcome).schedule .incoming
          .nlmePermitJoiningRequest
      else ⟨d.cbRoom, none, []⟩) := by
    rw [Device.zdoDataIndication, Device.dispatch, permit]
    simp +decide only [if_false, if_true, and_false, false_and]
    split
    · split <;> rfl
    · rfl
  rw [good_iff eq]
  split
  · next router =>
    rw [and_iff_right router]
    split
    · next pro =>
      exact iff_of_true (served_freed plain (called _))
        fun joined => Bool.noConfusion (pro.symm.trans joined)
    · next open_ =>
      rw [served_handed plain (called _)]
      exact ⟨fun room _ => room, fun room => room (by simpa using open_)⟩
  · next endDevice => exact iff_of_false not_served_nil fun router => endDevice router.1

/-! ## Responses -/

/-- `zdo_af_resp` finds a callback if one is registered. -/
theorem afResp_cases (d : Device) (z : Zdp) (o : Outcome) :
    (∃ func, d.Registered (z.body 0) func ∧
      d.afResp z o = (o.schedule .incoming (.zdoCb func), true)) ∨
    (¬ ∃ func, d.Registered (z.body 0) func) ∧ d.afResp z o = (o, false) := by
  rw [Device.afResp]
  cases found : Zdo.findTsn d.zdoCb (z.body 0) with
  | none =>
    refine .inr ⟨?_, rfl⟩
    rintro ⟨func, i, inside, tsn, registered⟩
    have missed := List.find?_eq_none.mp found i (Zdo.mem_probe.mpr inside)
    simp [tsn, registered] at missed
  | some i =>
    have holds := List.find?_some found
    simp only [decide_eq_true_eq] at holds
    obtain ⟨func, registered⟩ := Option.ne_none_iff_exists'.mp holds.2
    refine .inl ⟨func, ⟨i, Zdo.mem_probe.mp (List.mem_of_find?_eq_some found), holds.1,
      registered⟩, ?_⟩
    rw [Option.bind_some, registered]

/-- A response that goes to a callback. -/
theorem served_callback
    (resp : z.clusterid ∈ respClids ∨ z.clusterid = mgmtNwkUpdateNotifyClid) {func : ℕ}
    (registered : d.Registered (z.body 0) func) : Served d z
      ((⟨d.cbRoom, none, []⟩ : Outcome).schedule .incoming (.zdoCb func)) ↔ 0 < d.cbRoom := by
  constructor
  · exact fun served => (once_handed _ _ _).mp served.once
  · intro room
    have notBind : z.clusterid ≠ endDeviceBindReqClid := by
      rintro bind
      rw [bind] at resp
      exact absurd resp (by decide)
    refine ⟨?_, fun _ _ => ⟨func, registered, ?_⟩, ?_, (once_handed _ _ _).mpr room, ?_⟩
    · intro handler entry
      have none_ : ∀ entry ∈ requests,
          ¬ (entry.1 ∈ respClids ∨ entry.1 = mgmtNwkUpdateNotifyClid) := by decide
      exact absurd resp (none_ _ entry)
    · rw [fates_handed, if_pos room]
    · intro discovery
      rw [discovery] at resp
      exact absurd resp (by decide)
    · rw [if_neg (notPairs notBind)]
      exact waiting_handed _ _ _

/-- A response without a callback. -/
theorem served_unregistered
    (resp : z.clusterid ∈ respClids ∨ z.clusterid = mgmtNwkUpdateNotifyClid)
    (none_ : ¬ ∃ func, d.Registered (z.body 0) func) :
    Served d z o ↔ o.Once .incoming ∧ o.fates .waiting = [] := by
  have notBind : z.clusterid ≠ endDeviceBindReqClid := by
    rintro bind
    rw [bind] at resp
    exact absurd resp (by decide)
  have noRequest : ∀ entry ∈ requests,
      ¬ (entry.1 ∈ respClids ∨ entry.1 = mgmtNwkUpdateNotifyClid) := by decide
  rw [served_iff, if_neg (notPairs notBind)]
  constructor
  · exact fun served => ⟨served.2.2.2.1, served.2.2.2.2⟩
  · rintro ⟨once, waiting⟩
    refine ⟨fun handler entry => absurd resp (noRequest _ entry), fun _ some_ => absurd some_ none_,
      ?_, once, waiting⟩
    intro discovery
    rw [discovery] at resp
    exact absurd resp (by decide)

/-- A response is not taken for a request. -/
theorem dispatch_response (resp : z.clusterid ∈ respClids ∨
      z.clusterid = mgmtNwkUpdateNotifyClid ∨ z.clusterid = systemServerDiscoveryRespClid) :
    d.dispatch z o machine answer = d.dispatchResponse z o machine := by
  have noRequest : ∀ clusterid, clusterid ∈ respClids ∨ clusterid = mgmtNwkUpdateNotifyClid ∨
      clusterid = systemServerDiscoveryRespClid → ¬ clusterid < 0x8000 := by
    intro clusterid resp
    obtain inside | rfl | rfl := resp
    · exact of_all (p := fun clusterid => ¬ clusterid < 0x8000) (by decide) inside
    · decide
    · decide
  have high := noRequest _ resp
  have differs (clusterid : UInt16) (low : clusterid < 0x8000) : z.clusterid ≠ clusterid :=
    fun same => high (same ▸ low)
  rw [Device.dispatch, if_neg (fun annce => differs deviceAnnceClid (by decide) annce.2.1),
    if_neg (fun desc => differs nodeDescReqClid (by decide) desc.1),
    if_neg (differs simpleDescReqClid (by decide)), if_neg (differs nwkAddrReqClid (by decide)),
    if_neg (differs ieeeAddrReqClid (by decide)), if_neg (differs activeEpReqClid (by decide)),
    if_neg (differs matchDescReqClid (by decide)),
    if_neg (differs mgmtNwkUpdateReqClid (by decide)),
    if_neg (differs systemServerDiscoveryReqClid (by decide)),
    if_neg (differs mgmtLqiReqClid (by decide)), if_neg (differs mgmtLeaveReqClid (by decide)),
    if_neg (differs bindReqClid (by decide)), if_neg (differs unbindReqClid (by decide)),
    if_neg (differs endDeviceBindReqClid (by decide)),
    if_neg (differs mgmtPermitJoiningClid (by decide))]

theorem good_response (resp : z.clusterid ∈ respClids) : Good d z machine answer ↔
    ((∃ func, d.Registered (z.body 0) func) → 0 < d.cbRoom) := by
  have eq : d.dispatch z ⟨d.cbRoom, none, []⟩ machine answer = _ := dispatch_response (.inl resp)
  rw [Device.dispatchResponse, if_pos resp] at eq
  obtain ⟨func, registered, done⟩ | ⟨none_, done⟩ := afResp_cases d z ⟨d.cbRoom, none, []⟩
  · rw [done] at eq
    rw [good_iff (by rw [Device.zdoDataIndication, eq]; rfl)]
    refine (served_callback (.inl resp) registered).trans ?_
    exact ⟨fun room _ => room, fun room => room ⟨func, registered⟩⟩
  · rw [done] at eq
    rw [good_iff (by rw [Device.zdoDataIndication, eq]; rfl)]
    refine iff_of_true ((served_unregistered (.inl resp) none_).mpr ?_)
      fun some_ => absurd some_ none_
    exact ⟨once_freed _ _, rfl⟩

theorem good_discoveryResponse (resp : z.clusterid = systemServerDiscoveryRespClid) :
    Good d z machine answer ↔ z.body 0 = d.systemServerDiscoveryTsn ∧
      d.systemServerDiscoveryCb ≠ none ∧ 0 < d.cbRoom := by
  have notResp : z.clusterid ∉ respClids := by
    rw [resp]
    decide
  have eq : d.dispatch z ⟨d.cbRoom, none, []⟩ machine answer = _ := dispatch_response (.inr (.inr resp))
  rw [Device.dispatchResponse, if_neg notResp, if_pos resp] at eq
  split at eq
  · next same =>
    rw [and_iff_right same]
    cases cb : d.systemServerDiscoveryCb with
    | none =>
      rw [cb] at eq
      rw [good_iff (by rw [Device.zdoDataIndication, eq]; rfl)]
      exact iff_of_false not_served_nil fun some_ => some_.1 rfl
    | some func =>
      rw [cb] at eq
      rw [good_iff (by rw [Device.zdoDataIndication, eq]; rfl)]
      constructor
      · exact fun served => ⟨Option.some_ne_none func, (once_handed _ _ _).mp served.once⟩
      · rintro ⟨-, room⟩
        refine ⟨?_, ?_, fun _ _ func' registered => ?_, (once_handed _ _ _).mpr room, ?_⟩
        · rw [resp]
          exact fun handler entry => by simp +decide [requests] at entry
        · rw [resp]
          exact fun other => absurd other (by decide)
        · obtain rfl : func = func' := Option.some.inj (cb.symm.trans registered)
          exact (fates_handed _ _ _).trans (if_pos room)
        · rw [if_neg (notPairs (by rw [resp]; decide))]
          exact waiting_handed _ _ _
  · next differs =>
    rw [good_iff (by rw [Device.zdoDataIndication, eq]; rfl)]
    refine iff_of_false (fun served => ?_) fun good => differs good.1
    obtain ⟨disposal, proper, inside⟩ := served.once
    exact proper (List.singleton_injective inside).symm

theorem changeChannel_cases (beyond : UInt8 → UInt32) (channel : ChannelChange.Device)
    (report : Report) :
    ¬ channel.Accepts report ∧ channel.changeChannel beyond report = some (channel, none) ∨
      channel.Accepts report ∧
        (channelOf beyond
            (parseScanResults channel.currentChannel report).newChannelNum.toUInt32 = none ∧
          channel.changeChannel beyond report = none ∨
        channelOf beyond
            (parseScanResults channel.currentChannel report).newChannelNum.toUInt32 ≠ none ∧
          ∃ channel' packet,
            channel.changeChannel beyond report = some (channel', some packet)) := by
  rw [ChannelChange.Device.changeChannel]
  split
  · next accepts =>
    refine .inr ⟨accepts, ?_⟩
    have scan : ¬ newActiveChannel ≤ maxScanDuration := by decide
    have mask : newActiveChannel ≠ newChannelMask := by decide
    dsimp only [ChannelChange.Device.mgmtNwkUpdateReq, ChannelChange.Device.changeReq]
    rw [if_neg scan, if_neg mask, if_pos rfl]
    cases channelOf beyond
        (parseScanResults channel.currentChannel report).newChannelNum.toUInt32 with
    | none => exact .inl ⟨rfl, rfl⟩
    | some i => exact .inr ⟨Option.some_ne_none i, _, _, rfl⟩
  · next refuses => exact .inl ⟨refuses, rfl⟩

theorem good_notify (notify : z.clusterid = mgmtNwkUpdateNotifyClid) : Good d z machine answer ↔
    ((∃ func, d.Registered (z.body 0) func) → 0 < d.cbRoom) ∧
      ((¬ ∃ func, d.Registered (z.body 0) func) → d.Changes machine z.body) := by
  have notResp : z.clusterid ∉ respClids := by
    rw [notify]
    decide
  have notDiscovery : z.clusterid ≠ systemServerDiscoveryRespClid := by
    rw [notify]
    decide
  have eq : d.dispatch z ⟨d.cbRoom, none, []⟩ machine answer = _ := dispatch_response (.inr (.inl notify))
  rw [Device.dispatchResponse, if_neg notResp, if_neg notDiscovery, if_pos notify] at eq
  obtain ⟨func, registered, done⟩ | ⟨none_, done⟩ := afResp_cases d z ⟨d.cbRoom, none, []⟩
  · rw [done] at eq
    rw [good_iff (by rw [Device.zdoDataIndication, eq]; rfl)]
    refine (served_callback (.inr notify) registered).trans ?_
    exact ⟨fun room => ⟨fun _ => room, fun none_ => absurd ⟨func, registered⟩ none_⟩,
      fun good => good.1 ⟨func, registered⟩⟩
  · have served (o : Outcome) := served_unregistered (o := o) (.inr notify) none_
    have returned : d.zdoDataIndication z machine answer =
        d.changeChannel z ⟨d.cbRoom, none, []⟩ machine := by
      rw [Device.zdoDataIndication, eq, done]
      dsimp only
      rw [if_neg Bool.false_ne_true, Option.map_map, finish_done, Option.map_id]
      rfl
    rw [Device.changeChannel] at returned
    have only : ((∃ func, d.Registered (z.body 0) func) → 0 < d.cbRoom) ∧
        ((¬ ∃ func, d.Registered (z.body 0) func) → d.Changes machine z.body) ↔
        d.Changes machine z.body :=
      ⟨fun good => good.2 none_, fun changes => ⟨fun some_ => absurd some_ none_, fun _ => changes⟩⟩
    rw [only, Device.Changes]
    obtain ⟨refuses, result⟩ | ⟨accepts, ⟨never, result⟩ | ⟨ends, channel, packet, result⟩⟩ :=
      changeChannel_cases machine.beyond d.channel (Device.report z.body)
    · rw [result] at returned
      rw [good_iff returned, served]
      exact iff_of_true ⟨once_freed _ _, rfl⟩ fun accepts => absurd accepts refuses
    · rw [result] at returned
      refine iff_of_false ?_ fun changes => (changes accepts).2 never
      rintro ⟨o, impossible, -⟩
      exact nomatch returned.symm.trans impossible
    · rw [result] at returned
      rw [good_iff returned, served, once_handed, waiting_handed]
      exact ⟨fun room _ => ⟨room.1, ends⟩, fun changes => ⟨(changes accepts).1, rfl⟩⟩

/-! ## All frames -/

/-- The clusters that the dispatch knows, but for the device announcement. -/
def knownClids : List UInt16 :=
  requests.map (·.1) ++ mgmtPermitJoiningClid :: mgmtNwkUpdateNotifyClid ::
    systemServerDiscoveryRespClid :: respClids

theorem good_other (other : z.clusterid ∉ knownClids) : Good d z machine answer := by
  have differs (clusterid : UInt16) (inside : clusterid ∈ knownClids) : z.clusterid ≠ clusterid :=
    fun same => other (same ▸ inside)
  have notRequest (handler : Handler) : (z.clusterid, handler) ∉ requests :=
    fun entry => other (List.mem_append_left _ (List.mem_map_of_mem (f := (·.1)) entry))
  have notResp : z.clusterid ∉ respClids := fun inside => other <| List.mem_append_right _
    (List.mem_cons_of_mem _ (List.mem_cons_of_mem _ (List.mem_cons_of_mem _ inside)))
  have plain : Plain z.clusterid := ⟨differs _ (by decide), notResp, differs _ (by decide),
    differs _ (by decide)⟩
  have eq : ∃ handler, d.zdoDataIndication z machine answer =
      some ((⟨d.cbRoom, handler, []⟩ : Outcome).freeBuf .incoming) := by
    rw [Device.zdoDataIndication, Device.dispatch]
    by_cases annce : d.routerRole = true ∧ z.clusterid = deviceAnnceClid ∧ d.joinedPro = false
    · rw [if_pos annce]
      exact ⟨some .deviceAnnceSrv, rfl⟩
    · rw [if_neg annce, if_neg (fun desc => differs nodeDescReqClid (by decide) desc.1),
        if_neg (differs simpleDescReqClid (by decide)),
        if_neg (differs nwkAddrReqClid (by decide)),
        if_neg (differs ieeeAddrReqClid (by decide)),
        if_neg (differs activeEpReqClid (by decide)),
        if_neg (differs matchDescReqClid (by decide)),
        if_neg (differs mgmtNwkUpdateReqClid (by decide)),
        if_neg (differs systemServerDiscoveryReqClid (by decide)),
        if_neg (differs mgmtLqiReqClid (by decide)), if_neg (differs mgmtLeaveReqClid (by decide)),
        if_neg (differs bindReqClid (by decide)), if_neg (differs unbindReqClid (by decide)),
        if_neg (differs endDeviceBindReqClid (by decide)),
        if_neg (differs mgmtPermitJoiningClid (by decide)), Device.dispatchResponse,
        if_neg notResp, if_neg (differs systemServerDiscoveryRespClid (by decide)),
        if_neg (differs mgmtNwkUpdateNotifyClid (by decide))]
      exact ⟨none, rfl⟩
  obtain ⟨handler, eq⟩ := eq
  rw [good_iff eq]
  exact served_freed plain fun handler' entry => absurd entry (notRequest handler')

/-- The clusters of requests, one by one. -/
theorem known_cases (known : z.clusterid ∈ knownClids) :
    z.clusterid = nodeDescReqClid ∨ z.clusterid = powerDescReqClid ∨ z.clusterid ∈ answered ∨
      z.clusterid = nwkAddrReqClid ∨ z.clusterid = ieeeAddrReqClid ∨
      z.clusterid = systemServerDiscoveryReqClid ∨ z.clusterid = endDeviceBindReqClid ∨
      z.clusterid = mgmtNwkUpdateReqClid ∨ z.clusterid = mgmtPermitJoiningClid ∨
      z.clusterid = mgmtNwkUpdateNotifyClid ∨ z.clusterid = systemServerDiscoveryRespClid ∨
      z.clusterid ∈ respClids := by
  refine of_all (p := fun clusterid => clusterid = nodeDescReqClid ∨
      clusterid = powerDescReqClid ∨ clusterid ∈ answered ∨ clusterid = nwkAddrReqClid ∨
      clusterid = ieeeAddrReqClid ∨ clusterid = systemServerDiscoveryReqClid ∨
      clusterid = endDeviceBindReqClid ∨ clusterid = mgmtNwkUpdateReqClid ∨
      clusterid = mgmtPermitJoiningClid ∨ clusterid = mgmtNwkUpdateNotifyClid ∨
      clusterid = systemServerDiscoveryRespClid ∨ clusterid ∈ respClids) ?_ known
  decide

theorem good_answered (inside : z.clusterid ∈ answered) :
    Good d z machine answer ↔ 0 < d.cbRoom := by
  have split_ := of_all (p := fun clusterid => clusterid = mgmtLeaveReqClid ∨
    ∃ entry ∈ answering, entry.1 = clusterid) (by decide) inside
  obtain leave | ⟨⟨clusterid, handler, resp⟩, entry, same⟩ := split_
  · exact good_leave leave
  · have entry : (z.clusterid, handler, resp) ∈ answering := by
      rw [← same]
      exact entry
    exact good_answering entry

/-- For one cluster the condition comes down to the clause about it. -/
theorem answerable_other (other : z.clusterid ∉ knownClids) : Answerable machine d z := by
  have differs (clusterid : UInt16) (inside : clusterid ∈ knownClids) : z.clusterid ≠ clusterid :=
    fun same => other (same ▸ inside)
  have answering (clusterid : UInt16) (inside : clusterid ∈ answered) : clusterid ∈ knownClids :=
    of_all (p := fun clusterid => clusterid ∈ knownClids) (by decide) inside
  have responding : ∀ clusterid,
      clusterid ∈ respClids ∨ clusterid = mgmtNwkUpdateNotifyClid → clusterid ∈ knownClids := by
    rintro clusterid (inside | rfl)
    · exact of_all (p := fun clusterid => clusterid ∈ knownClids) (by decide) inside
    · decide
  exact {
    descriptors := ⟨differs _ (by decide), differs _ (by decide)⟩
    answers := fun inside => absurd (answering _ inside) other
    nwkAddr := fun same => absurd same (differs _ (by decide))
    ieeeAddr := fun same => absurd same (differs _ (by decide))
    nwkUpdate := fun same => absurd same (differs _ (by decide))
    discovery := fun same => absurd same (differs _ (by decide))
    bind := fun same => absurd same (differs _ (by decide))
    permitJoining := fun same => absurd same (differs _ (by decide))
    responses := fun inside => absurd (responding _ inside) other
    discoveryResponse := fun same => absurd same (differs _ (by decide))
    notify := fun same => absurd same (differs _ (by decide)) }

end

/-- Whatever the frame and the state of the device, the frame is served exactly when it is not one
of those that are dropped or leave their buffer behind, and there is room in the ring for what is
scheduled. -/
theorem served_iff_answerable (machine : Machine) (answer : UInt8 × UInt16) (d : Device)
    (z : Zdp) :
    (∃ o, d.zdoDataIndication z machine answer = some o ∧ Served d z o) ↔
      Answerable machine d z := by
  change Good d z machine answer ↔ _
  by_cases known : z.clusterid ∈ knownClids
  · obtain h | h | h | h | h | h | h | h | h | h | h | h := known_cases known
    · refine iff_of_false (good_descriptors (.inl h)) fun can => can.descriptors.1 h
    · refine iff_of_false (good_descriptors (.inr h)) fun can => can.descriptors.2 h
    · rw [good_answered h, answerable_iff]
      simp only [answered, List.mem_cons, List.not_mem_nil, or_false] at h
      obtain h | h | h | h | h | h | h := h <;>
      · rw [h]
        simp +decide
    · rw [good_nwkAddr h, answerable_iff, h]
      simp +decide
    · rw [good_ieeeAddr h, answerable_iff, h]
      simp +decide
    · rw [good_discovery h, answerable_iff, h]
      simp +decide
    · rw [good_bind h, answerable_iff, h]
      simp +decide
    · rw [good_nwkUpdate h, answerable_iff, h]
      simp +decide
    · rw [good_permitJoining h, answerable_iff, h]
      simp +decide
    · rw [good_notify h, answerable_iff, h]
      simp +decide
    · rw [good_discoveryResponse h, answerable_iff, h]
      simp +decide
    · rw [good_response h, answerable_iff]
      simp only [respClids, List.mem_cons, List.not_mem_nil, or_false] at h
      obtain h | h | h | h | h | h | h | h | h | h | h | h := h <;>
      · rw [h]
        simp +decide
  · exact iff_of_true (good_other known) (answerable_other known)

/-- A coordinator without neighbors, callbacks and requests. -/
def idleCoordinator : Device where
  routerRole := true
  deviceType := .coordinator
  joinedPro := false
  shortAddress := 0
  extendedAddress := [1, 0, 0, 0, 0, 0, 0, 0]
  neighbors := []
  serverMask := 0
  zdoCb _ := ⟨none, 0, 0, 0⟩
  systemServerDiscoveryTsn := 0
  systemServerDiscoveryCb := none
  pendingLeave := [false, false, false, false]
  waiting := none
  bindBusy := false
  outBuf := true
  channel := ⟨11, 0, 0, 0, false, 0, 0, 0, 0, none, []⟩
  cbRoom := 16

/-- A request for the node descriptor of the coordinator is dropped, an address request that was
broadcast for another device leaves its buffer behind, and a stray response is freed at an address
within its buffer. -/
theorem frames_not_served :
    (¬ ∀ machine answer d z, ∃ o, Device.zdoDataIndication d z machine answer = some o ∧
      Served d z o) ∧
    ((idleCoordinator.zdoDataIndication ⟨nodeDescReqClid, 1, 0, fun _ => 0⟩
      ⟨fun _ => 0, false⟩ (0, 0)).map fun o => (o.handler, o.fates .incoming)) =
        some (none, [.freed]) ∧
    ((idleCoordinator.zdoDataIndication ⟨ieeeAddrReqClid, 1, 8, fun _ => 1⟩
      ⟨fun _ => 0, false⟩ (0, 0)).map fun o => o.fates .incoming) = some [] ∧
    ((idleCoordinator.zdoDataIndication ⟨systemServerDiscoveryRespClid, 1, 0, fun _ => 1⟩
      ⟨fun _ => 0, false⟩ (0, 0)).map fun o => o.fates .incoming) = some [.freedInside] := by
  refine ⟨fun all => ?_, by decide +kernel, by decide +kernel, by decide +kernel⟩
  exact good_descriptors (.inl rfl)
    (all ⟨fun _ => 0, false⟩ (0, 0) idleCoordinator ⟨nodeDescReqClid, 1, 0, fun _ => 0⟩)

end Zboss.Dispatch
