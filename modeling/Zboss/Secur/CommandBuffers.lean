import Zboss.Aps.AckData
import Zboss.Common.AddressLookup
import Zboss.Common.CallbackQueue
import Zboss.Secur.DataIndication
import Zboss.Secur.KeyTransport

/-!
What the handlers of security commands do with the buffers they get: the dispatch of APS commands,
the APSME indications and requests they lead to, the steps of a key update, and the confirm that
ends one.  A handler frees its buffer, sends it, or schedules a callback with it; what the frames
contain is left out where nothing that becomes of a buffer depends on it.
-/

namespace Zboss.CommandBuffers

open Zboss.AddressTable Zboss.FrameHeaders Zboss.KeyStore
open Zboss.Aps (nApsRetransEntries)
open Zboss.CallbackQueue (schedulerQSize)
open Zboss.DataIndication (apsCmdSwitchKey apsCmdTransportKey apsCommandHdrSize transportKeyDsc)
open Zboss.KeyTransport (Dest TransportKeyReq emptyKey)
open Zboss.NeighborTable (Relationship Tables neighborDelete)

/-! ## Callbacks -/

def apsCmdUpdateDevice : UInt8 := 6

def apsCmdRemoveDevice : UInt8 := 7

def apsCmdRequestKey : UInt8 := 8

def zbDeviceLeft : UInt8 := 2

/-- `RET_NO_ACK` as the octet of the status. -/
def retNoAck : UInt8 := 190

/-- `(zb_ushort_t)~0`: the iterator has passed the last neighbour. -/
def noNeighbor : ℕ := 2 ^ 32 - 1

/-- `zb_apsme_update_device_ind_t`. -/
structure UpdateDeviceInd where
  srcAddress : IeeeAddr
  deviceAddress : IeeeAddr
  deviceShortAddress : UInt16
  status : UInt8
  deriving DecidableEq

/-- The handlers, each with what its buffer holds for it. -/
inductive Handler
  | apsInCommandHandle (srcAddr : UInt16) (p : Octets)
  | apsmeTransportKeyIndication (ind : TransportKeyIndication)
  | apsmeUpdateDeviceIndication (ind : UpdateDeviceInd)
  | apsmeRemoveDeviceIndication (srcAddress childAddress : IeeeAddr)
  | apsmeRequestKeyIndication (srcAddress : IeeeAddr) (keyType : UInt8)
  | apsmeSwitchKeyIndication (srcAddress : IeeeAddr) (keySeqNumber : UInt8)
  | apsmeTransportKeyRequest (req : TransportKeyReq)
  | apsmeSwitchKeyRequest (dest : Dest) (keySeqNumber : UInt8)
  | apsmeRemoveDevice (parentAddress childAddress : IeeeAddr)
  | switchNwkKeyBr
  | sendNwkKeyUpdateBr (destBr : UInt16)
  | sendNwkKeySwitch (destBr : UInt16)
  | sendKeySwNext
  | apsdeDataConfirm (status : UInt8)

/-- Who a buffer is handed to: one of the handlers, or a callback of another part of the stack. -/
inductive Callback
  | handler (handler : Handler)
  | nldeDataRequest (destAddr : UInt16) (command : UInt8) (secure : Bool)
  | deviceAnnce
  | nlmeLeaveRequest (deviceAddress : IeeeAddr)
  | nlmeJoinRequest
  | zdoStartupComplete (status : UInt8)
  | apsdeDataAcknowledged (status : UInt8)
  | nwkDoLeaveLocal

/-! ## The device -/

/-- The build and the NIB, with `ZB_COORDINATOR_ROLE`, which implies the router role. -/
structure Config extends DataIndication.Config where
  coordinatorRole : Bool
  router_of_coordinator : coordinatorRole = true → routerRole = true

/-- The key is for this device. -/
def ForUs (config : Config) (p : Octets) : Prop :=
  p.ieeeAddr 18 = config.extendedAddress ∨ p.ieeeAddr 18 = IeeeAddr.zero

instance (config : Config) (p : Octets) : Decidable (ForUs config p) :=
  inferInstanceAs (Decidable (_ ∨ _))

/-- The command identifier of a frame. -/
def apsCommandId (config : Config) (p : Octets) : UInt8 :=
  p (apsCommandHdrSize config.toConfig p)

/-- What is behind the command identifier. -/
def apsCommandPayload (config : Config) (p : Octets) : Octets :=
  p.cut (apsCommandHdrSize config.toConfig p + 1)

/-- `zb_leave_pending_list_t`. -/
structure LeavePending where
  used : Bool
  srcAddr : UInt16
  bufRef : ℕ

/-- What the handlers read and write.  `retrans` is the table of frames that wait for an
acknowledgement, with destination, buffer and `nwk_insecure`; `outBuf` says that there is an out
buffer, and `cbQ` is the ring of callbacks.  A callback that waits for an out buffer is left out. -/
structure Device where
  keys : KeyState
  tables : Tables
  allowAuth : Bool
  neighborTableIterator : ℕ
  devAnnce : ℕ
  keySw : ℕ
  started : Bool
  leaveAfterMgmtLeaveRspConf : Bool
  rejoinAfterLeave : Bool
  pendingList : List LeavePending
  retrans : List (UInt16 × ℕ × Bool)
  outBuf : Bool
  cbQ : List Callback

/-- What is read uninitialised: in the compression of an address, in the parameter of a buffer, and
the key octets of a request; and the key a trust centre makes. -/
structure Env where
  junk : IeeeAddrCompressed
  stale : IeeeAddr
  staleKey : Key × UInt8
  random : Key

/-- There is room in the ring for `n` callbacks. -/
def Device.Room (n : ℕ) (d : Device) : Prop := d.cbQ.length + n ≤ schedulerQSize

instance (n : ℕ) (d : Device) : Decidable (d.Room n) := inferInstanceAs (Decidable (_ ≤ _))

/-- The buffer a handler gets, and an out buffer it asks for. -/
inductive Buf
  | incoming
  | taken
  deriving DecidableEq, Repr

inductive Disposal
  | freed
  | handed (callback : Callback)

/-- The device, whether an out buffer was taken, and what became of the buffers. -/
structure Outcome where
  device : Device
  took : Bool
  disposed : List (Buf × Disposal)

namespace Outcome

variable (o : Outcome)

/-- `ZB_SCHEDULE_CALLBACK`; the status is not looked at. -/
def schedule (buf : Buf) (callback : Callback) : Outcome :=
  if o.device.Room 1 then
    { o with
      device := { o.device with cbQ := o.device.cbQ ++ [callback] }
      disposed := o.disposed ++ [(buf, .handed callback)] }
  else o

def freeBuf (buf : Buf) : Outcome := { o with disposed := o.disposed ++ [(buf, .freed)] }

def getOutBufDelayed (callback : Callback) : Outcome :=
  if o.device.outBuf then { o with took := true }.schedule .taken callback else o

/-- What became of a buffer. -/
def fates (buf : Buf) : List Disposal :=
  o.disposed.filterMap fun entry => if entry.1 = buf then some entry.2 else none

/-- Every buffer involved is freed once, or handed to one next owner. -/
def DisposedOnce : Prop :=
  (o.fates .incoming).length = 1 ∧ (o.fates .taken).length = if o.took then 1 else 0

instance : Decidable o.DisposedOnce := inferInstanceAs (Decidable (_ ∧ _))

end Outcome

namespace Device

variable (d : Device)

/-- The handler has done nothing with its buffer. -/
def start : Outcome := ⟨d, false, []⟩

def schedule (callback : Callback) : Outcome := d.start.schedule .incoming callback

def freeBuf : Outcome := d.start.freeBuf .incoming

def setAddr (addr : AddrGlobals) : Device := { d with tables := { d.tables with addr } }

/-- `zb_aps_send_command`: a command that is to be acknowledged is kept in the table, if there is
room; an acknowledgement of TRANSPORT-KEY is not asked for. -/
def apsSendCommand (param : ℕ) (destAddr : UInt16) (command : UInt8) (secure : Bool) : Outcome :=
  let needAck := !nwkIsAddressBroadcast destAddr && command != apsCmdTransportKey
  let retrans := if needAck ∧ d.retrans.length < nApsRetransEntries
    then d.retrans ++ [(destAddr, param, !secure)] else d.retrans
  { d with retrans }.schedule (.nldeDataRequest destAddr command secure)

/-- `zb_aps_send_command` to a device known by its IEEE address. -/
def sendByIeee (env : Env) (param : ℕ) (ieeeAddress : IeeeAddr) (command : UInt8)
    (secure : Bool) : Outcome :=
  let (addr, destShort) := addressShortByIeee d.tables.addr ieeeAddress env.junk
  (d.setAddr addr).apsSendCommand param (UInt16.ofNat destShort) command secure

/-! ## Received commands -/

/-- A neighbour found by its IEEE address: `zb_address_by_ieee`, then `zb_nwk_neighbor_get`. -/
def neighborByIeee (env : Env) (ieeeAddress : IeeeAddr) : Device × Option (ℕ × Relationship) :=
  match addressByIeee d.tables.addr ieeeAddress false false env.junk with
  | (addr, .ok ref) =>
    let n := d.tables.neighbor.addrToNeighbor ref
    (d.setAddr addr, if n ≠ 0xff
      then some (ref, (d.tables.neighbor.baseNeighbor n).relationship) else none)
  | (addr, .error _) => (d.setAddr addr, none)

/-- `nbe->relationship = ZB_NWK_RELATIONSHIP_CHILD`. -/
def setChild (ref : ℕ) : Device :=
  let t := d.tables.neighbor
  let n := t.addrToNeighbor ref
  { d with tables := { d.tables with
      neighbor := t.setBase n { t.baseNeighbor n with relationship := .child } } }

/-- `zb_aps_in_transport_key`; a build without the router role has no branch for the keys of
others. -/
def apsInTransportKey (config : Config) (env : Env) (param : ℕ) (p : Octets) : Outcome :=
  if p 0 = zbStandardNetworkKey then
    if ForUs config p then
      d.schedule (.handler (.apsmeTransportKeyIndication (transportKeyDsc p)))
    else if config.routerRole then
      match d.neighborByIeee env (p.ieeeAddr 18) with
      | (d, some (ref, relationship)) =>
        if relationship = .unauthenticatedChild ∨ relationship = .child then
          (d.setChild ref).apsSendCommand param
            (UInt16.ofNat (addressShortByRef d.tables.addr ref)) apsCmdTransportKey
            (relationship != .unauthenticatedChild)
        else d.freeBuf
      | (d, none) => d.freeBuf
    else d.start
  else d.start

/-- `zb_address_ieee_by_short`; the caller's variable keeps what was in it where the address is
not known. -/
def ieeeByShort (env : Env) (shortAddr : UInt16) : Device × IeeeAddr :=
  match addressByShort d.tables.addr shortAddr.toNat false false with
  | (addr, .ok ref) => (d.setAddr addr, addressIeeeByRef addr ref)
  | (addr, .error _) => (d.setAddr addr, env.stale)

def apsInUpdateDevice (env : Env) (srcAddr : UInt16) (p : Octets) : Outcome :=
  let (d, srcAddress) := d.ieeeByShort env srcAddr
  let (addr, _) := addressUpdate d.tables.addr (p.ieeeAddr 0) (p.le16 8).toNat false env.junk
  (d.setAddr addr).schedule
    (.handler (.apsmeUpdateDeviceIndication ⟨srcAddress, p.ieeeAddr 0, p.le16 8, p 10⟩))

def apsInRemoveDevice (env : Env) (srcAddr : UInt16) (p : Octets) : Outcome :=
  let (d, srcAddress) := d.ieeeByShort env srcAddr
  d.schedule (.handler (.apsmeRemoveDeviceIndication srcAddress (p.ieeeAddr 0)))

def apsInRequestKey (env : Env) (srcAddr : UInt16) (p : Octets) : Outcome :=
  let (d, srcAddress) := d.ieeeByShort env srcAddr
  d.schedule (.handler (.apsmeRequestKeyIndication srcAddress (p 0)))

def apsInSwitchKey (env : Env) (srcAddr : UInt16) (p : Octets) : Outcome :=
  let (d, srcAddress) := d.ieeeByShort env srcAddr
  d.schedule (.handler (.apsmeSwitchKeyIndication srcAddress (p 0)))

/-- `zb_aps_in_command_handle`; on a device joined to a PRO network most commands are looked at no
further. -/
def apsInCommandHandle (config : Config) (env : Env) (param : ℕ) (srcAddr : UInt16)
    (p : Octets) : Outcome :=
  let cmdId := apsCommandId config p
  let payload := apsCommandPayload config p
  if cmdId = apsCmdTransportKey then
    if !config.joinedPro then d.apsInTransportKey config env param payload else d.start
  else if config.routerRole ∧ cmdId = apsCmdUpdateDevice then
    if !config.joinedPro then d.apsInUpdateDevice env srcAddr payload else d.start
  else if config.routerRole ∧ cmdId = apsCmdRemoveDevice then
    if !config.joinedPro then d.apsInRemoveDevice env srcAddr payload else d.start
  else if config.routerRole ∧ cmdId = apsCmdRequestKey then
    if !config.joinedPro then d.apsInRequestKey env srcAddr payload else d.start
  else if !config.routerRole ∧ cmdId = apsCmdSwitchKey then
    d.apsInSwitchKey env srcAddr payload
  else d.freeBuf

/-! ## Indications -/

/-- `zb_apsme_transport_key_indication`: the first key a device gets starts its announcement, with
the buffer of the indication. -/
def apsmeTransportKeyIndication (param : ℕ) (ind : TransportKeyIndication) : Outcome :=
  let keys := transportKeyIndication ind d.keys
  if ind.keyType = zbStandardNetworkKey ∧ !d.keys.authenticated then
    { d with keys, devAnnce := param }.schedule .deviceAnnce
  else { d with keys }.freeBuf

/-- `zb_nwk_forget_device`. -/
def forgetDevice (ref : ℕ) : Device :=
  { d with tables := ⟨addressDelete d.tables.addr ref, neighborDelete d.tables.neighbor ref⟩ }

/-- The lookups for a device that left: by short address, else by IEEE address. -/
def leftRef (env : Env) (ind : UpdateDeviceInd) : AddrGlobals × Except RetError ℕ :=
  match addressByShort d.tables.addr ind.deviceShortAddress.toNat false false with
  | (addr, .ok ref) => (addr, .ok ref)
  | (addr, .error _) => addressByIeee addr ind.deviceAddress false false env.junk

/-- `zb_apsme_update_device_indication`.  For a status it does not know the request keeps the key
octets that stand in the buffer. -/
def apsmeUpdateDeviceIndication (env : Env) (ind : UpdateDeviceInd) : Outcome :=
  if ind.status = zbDeviceLeft then
    match d.leftRef env ind with
    | (addr, .ok ref) => ((d.setAddr addr).forgetDevice ref).freeBuf
    | (addr, .error _) => (d.setAddr addr).start
  else if d.allowAuth then
    let (key, keySeqNumber) :=
      if ind.status = 0 then (emptyKey, 0)
      else if ind.status = 1 ∨ ind.status = 3 then (activeKey d.keys, d.keys.activeKeySeqNumber)
      else env.staleKey
    d.schedule (.handler (.apsmeTransportKeyRequest
      ⟨.addr64 ind.deviceAddress, some ind.srcAddress, key, keySeqNumber⟩))
  else d.schedule (.handler (.apsmeRemoveDevice ind.srcAddress ind.deviceAddress))

def apsmeRemoveDeviceIndication (srcAddress childAddress : IeeeAddr) : Outcome :=
  if srcAddress = d.keys.trustCenterAddress then d.schedule (.nlmeLeaveRequest childAddress)
  else d.freeBuf

def apsmeSwitchKeyIndication (env : Env) (keySeqNumber : UInt8) : Outcome :=
  { d with keys := nwkKeySwitch keySeqNumber env.random d.keys }.freeBuf

def apsmeRequestKeyIndication (env : Env) (srcAddress : IeeeAddr) (keyType : UInt8) : Outcome :=
  if keyType = zbStandardNetworkKey then
    match d.neighborByIeee env srcAddress with
    | (d, some (_, relationship)) =>
      if relationship ≠ .unauthenticatedChild ∧ relationship ≠ .previousChild ∧
          relationship ≠ .noneOfTheAbove then
        d.schedule (.handler (.apsmeTransportKeyRequest
          ⟨.addr64 srcAddress, none, activeKey d.keys, d.keys.activeKeySeqNumber⟩))
      else d.freeBuf
    | (d, none) => d.freeBuf
  else d.freeBuf

/-! ## Requests -/

def apsmeTransportKeyRequest (env : Env) (param : ℕ) (req : TransportKeyReq) : Outcome :=
  match req.useParent, req.dest with
  | some parentAddress, _ => d.sendByIeee env param parentAddress apsCmdTransportKey true
  | none, .addr16 addr =>
    d.apsSendCommand param addr apsCmdTransportKey (nwkIsAddressBroadcast addr)
  | none, .addr64 addr => d.sendByIeee env param addr apsCmdTransportKey false

def apsmeSwitchKeyRequest (env : Env) (param : ℕ) : Dest → Outcome
  | .addr16 addr => d.apsSendCommand param addr apsCmdSwitchKey true
  | .addr64 addr => d.sendByIeee env param addr apsCmdSwitchKey true

/-- `zb_secur_apsme_remove_device`. -/
def apsmeRemoveDevice (env : Env) (param : ℕ) (parentAddress : IeeeAddr) : Outcome :=
  d.sendByIeee env param parentAddress apsCmdRemoveDevice true

/-! ## A key update -/

/-- `zb_nwk_neighbor_next_rx_on_i`. -/
def neighborNextRxOnI (i : ℕ) : ℕ :=
  let t := d.tables.neighbor
  match (List.range t.baseNeighborUsed).find? fun j =>
      i ≤ j && (t.baseNeighbor j).used && (t.baseNeighbor j).rxOnWhenIdle with
  | some j => j
  | none => noNeighbor

/-- `secur_send_key_sw_next`. -/
def sendKeySwNext : Outcome :=
  let ref := (d.tables.neighbor.baseNeighbor d.neighborTableIterator).addrRef
  let o := d.schedule (.handler (.apsmeSwitchKeyRequest
    (.addr64 (addressIeeeByRef d.tables.addr ref)) d.keys.activeKeySeqNumber))
  let iterator := d.neighborNextRxOnI ((d.neighborTableIterator + 1) % 2 ^ 32)
  let o := { o with device := { o.device with neighborTableIterator := iterator } }
  if iterator ≠ noNeighbor then o.getOutBufDelayed (.handler .sendKeySwNext) else o

/-- `zb_secur_switch_nwk_key_br`. -/
def switchNwkKeyBr : Outcome := d.schedule (.handler (.sendNwkKeySwitch 0xFFFD))

/-- `zb_secur_send_nwk_key_update_br`. -/
def sendNwkKeyUpdateBr (destBr : UInt16) : Outcome :=
  match nwkKeyBySeq (d.keys.activeKeySeqNumber + 1) d.keys with
  | some key =>
    d.schedule (.handler (.apsmeTransportKeyRequest
      ⟨.addr16 destBr, none, key, d.keys.activeKeySeqNumber + 1⟩))
  | none => d.start

/-- The switch to the next key. -/
def switchToNext (env : Env) : Device :=
  { d with keys := nwkKeySwitch (d.keys.activeKeySeqNumber + 1) env.random d.keys }

/-- `zb_secur_send_nwk_key_switch`: to each neighbour that listens, or by a broadcast, after which
the confirm switches the key. -/
def sendNwkKeySwitch (env : Env) (param : ℕ) (destBr : UInt16) : Outcome :=
  if destBr = 0 then
    let d := d.switchToNext env
    let d := { d with neighborTableIterator := d.neighborNextRxOnI 0 }
    if d.neighborTableIterator ≠ noNeighbor then d.sendKeySwNext else d.freeBuf
  else
    { d with keySw := param }.schedule (.handler
      (.apsmeSwitchKeyRequest (.addr16 destBr) (d.keys.activeKeySeqNumber + 1)))

/-! ## The confirm -/

/-- `zb_nwk_do_leave`. -/
def doLeave (config : Config) (rejoin : Bool) : Outcome :=
  let d := { d with leaveAfterMgmtLeaveRspConf := false, started := false, pendingList := [] }
  if rejoin then d.schedule .nlmeJoinRequest
  else
    match addressByShort d.tables.addr config.networkAddress.toNat false false with
    | (addr, .ok ref) => ((d.setAddr addr).forgetDevice ref).freeBuf
    | (addr, .error _) => (d.setAddr addr).freeBuf

/-- The pending leave that waits for the confirm of the buffer. -/
def pendingOf (param : ℕ) : Option ℕ :=
  d.pendingList.findIdx? fun pending => pending.used && decide (pending.bufRef = param)

/-- Release an entry of the list of pending leaves; the last one goes. -/
def release (i : ℕ) : Device :=
  if d.pendingList.length = i + 1 then { d with pendingList := d.pendingList.take i }
  else { d with pendingList := d.pendingList.modify i fun pending => { pending with used := false } }

/-- The leave was asked for by this device. -/
def LocalLeave (config : Config) (i : ℕ) : Prop :=
  (d.pendingList[i]?.map LeavePending.srcAddr) = some config.networkAddress

instance (config : Config) (i : ℕ) : Decidable (d.LocalLeave config i) :=
  inferInstanceAs (Decidable (_ = _))

/-- `zb_apsde_data_confirm` with `zdo_try_mgmt_leave_complete`. -/
def apsdeDataConfirm (config : Config) (env : Env) (param : ℕ) (status : UInt8) : Outcome :=
  if d.devAnnce = param then
    let (addr, _) := addressByShort d.tables.addr config.networkAddress.toNat true true
    let d := { d.setAddr addr with devAnnce := 0 }
    if !d.started then { d with started := true }.schedule (.zdoStartupComplete status)
    else d.start
  else if config.coordinatorRole ∧ d.keySw = param then
    ({ d with keySw := 0 }.switchToNext env).start
  else
    match if d.leaveAfterMgmtLeaveRspConf then d.pendingOf param else none with
    | some i =>
      if d.LocalLeave config i then (d.release i).start.getOutBufDelayed .nwkDoLeaveLocal
      else (d.release i).doLeave config d.rejoinAfterLeave
    | none =>
      if status = 0 ∨ status = retNoAck then d.schedule (.apsdeDataAcknowledged status)
      else d.freeBuf

end Device

open Device in
/-- One handler with its buffer. -/
def run (config : Config) (env : Env) (param : ℕ) (d : Device) : Handler → Outcome
  | .apsInCommandHandle srcAddr p => d.apsInCommandHandle config env param srcAddr p
  | .apsmeTransportKeyIndication ind => d.apsmeTransportKeyIndication param ind
  | .apsmeUpdateDeviceIndication ind => d.apsmeUpdateDeviceIndication env ind
  | .apsmeRemoveDeviceIndication src child => d.apsmeRemoveDeviceIndication src child
  | .apsmeRequestKeyIndication src keyType => d.apsmeRequestKeyIndication env src keyType
  | .apsmeSwitchKeyIndication _ keySeqNumber => d.apsmeSwitchKeyIndication env keySeqNumber
  | .apsmeTransportKeyRequest req => d.apsmeTransportKeyRequest env param req
  | .apsmeSwitchKeyRequest dest _ => d.apsmeSwitchKeyRequest env param dest
  | .apsmeRemoveDevice parentAddress _ => d.apsmeRemoveDevice env param parentAddress
  | .switchNwkKeyBr => d.switchNwkKeyBr
  | .sendNwkKeyUpdateBr destBr => d.sendNwkKeyUpdateBr destBr
  | .sendNwkKeySwitch destBr => d.sendNwkKeySwitch env param destBr
  | .sendKeySwNext => d.sendKeySwNext
  | .apsdeDataConfirm status => d.apsdeDataConfirm config env param status

/-! ## When a handler disposes of its buffer -/

namespace Device

variable (d : Device)

/-- The key is sent on to a child, authenticated or not. -/
def KnownChild (env : Env) (ieeeAddress : IeeeAddr) : Prop :=
  ∃ neighbor, (d.neighborByIeee env ieeeAddress).2 = some neighbor ∧
    (neighbor.2 = .unauthenticatedChild ∨ neighbor.2 = .child)

/-- The key is sent to a neighbour that asks for it. -/
def KnownMember (env : Env) (ieeeAddress : IeeeAddr) : Prop :=
  ∃ neighbor, (d.neighborByIeee env ieeeAddress).2 = some neighbor ∧
    neighbor.2 ≠ .unauthenticatedChild ∧ neighbor.2 ≠ .previousChild ∧
    neighbor.2 ≠ .noneOfTheAbove

/-- A TRANSPORT-KEY holds a network key, and a device that is no router gets it for itself. -/
def TransportKeyServed (config : Config) (env : Env) (p : Octets) : Prop :=
  p 0 = zbStandardNetworkKey ∧
    if ForUs config p then d.Room 1
    else config.routerRole = true ∧ (d.KnownChild env (p.ieeeAddr 18) → d.Room 1)

/-- A device joined to a PRO network gets no command but SWITCH-KEY, which routers do not know, and
there is room for the indication. -/
def CommandServed (config : Config) (env : Env) (p : Octets) : Prop :=
  let cmdId := apsCommandId config p
  if cmdId = apsCmdTransportKey then
    config.joinedPro = false ∧ d.TransportKeyServed config env (apsCommandPayload config p)
  else if config.routerRole ∧ (cmdId = apsCmdUpdateDevice ∨ cmdId = apsCmdRemoveDevice ∨
      cmdId = apsCmdRequestKey) then config.joinedPro = false ∧ d.Room 1
  else if !config.routerRole ∧ cmdId = apsCmdSwitchKey then d.Room 1
  else True

/-- There is room for the request to one neighbour, and for the callback that goes on with the
next. -/
def SwitchRoom : Prop :=
  if d.neighborNextRxOnI ((d.neighborTableIterator + 1) % 2 ^ 32) ≠ noNeighbor ∧ d.outBuf then
    d.Room 2
  else d.Room 1

/-- The confirm is not that of an announcement after the start, of the broadcast of SWITCH-KEY, or
of the answer to a request of this device to leave. -/
def ConfirmServed (config : Config) (param : ℕ) (status : UInt8) : Prop :=
  if d.devAnnce = param then d.started = false ∧ d.Room 1
  else if config.coordinatorRole ∧ d.keySw = param then False
  else
    match if d.leaveAfterMgmtLeaveRspConf then d.pendingOf param else none with
    | some i => ¬ d.LocalLeave config i ∧ (d.rejoinAfterLeave = true → d.Room 1)
    | none => status = 0 ∨ status = retNoAck → d.Room 1

/-- The handler does not take a branch that leaves its buffer behind, and there is room in the ring
for what it schedules. -/
def Served (config : Config) (env : Env) (param : ℕ) : Handler → Prop
  | .apsInCommandHandle _ p => d.CommandServed config env p
  | .apsmeTransportKeyIndication ind =>
    ind.keyType = zbStandardNetworkKey ∧ !d.keys.authenticated → d.Room 1
  | .apsmeUpdateDeviceIndication ind =>
    if ind.status = zbDeviceLeft then ∃ ref, (d.leftRef env ind).2 = .ok ref else d.Room 1
  | .apsmeRemoveDeviceIndication srcAddress _ =>
    srcAddress = d.keys.trustCenterAddress → d.Room 1
  | .apsmeRequestKeyIndication srcAddress keyType =>
    keyType = zbStandardNetworkKey ∧ d.KnownMember env srcAddress → d.Room 1
  | .apsmeSwitchKeyIndication _ _ => True
  | .apsmeTransportKeyRequest _ | .apsmeSwitchKeyRequest _ _ | .apsmeRemoveDevice _ _ => d.Room 1
  | .switchNwkKeyBr => d.Room 1
  | .sendNwkKeyUpdateBr _ =>
    nwkKeyBySeq (d.keys.activeKeySeqNumber + 1) d.keys ≠ none ∧ d.Room 1
  | .sendNwkKeySwitch destBr =>
    if destBr = 0 then
      d.neighborNextRxOnI 0 ≠ noNeighbor →
        { d with neighborTableIterator := d.neighborNextRxOnI 0 }.SwitchRoom
    else d.Room 1
  | .sendKeySwNext => d.SwitchRoom
  | .apsdeDataConfirm status => d.ConfirmServed config param status

end Device

variable {config : Config} {env : Env} {param : ℕ} {d : Device}

/-! ## Outcomes -/

theorem fates_schedule (callback : Callback) :
    (d.schedule callback).fates .incoming = (if d.Room 1 then [.handed callback] else []) ∧
      (d.schedule callback).fates .taken = [] := by
  rw [Device.schedule, Outcome.schedule]
  by_cases room : d.Room 1
  · rw [if_pos (show d.start.device.Room 1 from room), if_pos room]
    exact ⟨rfl, rfl⟩
  · rw [if_neg (show ¬ d.start.device.Room 1 from room), if_neg room]
    exact ⟨rfl, rfl⟩

theorem took_schedule (callback : Callback) : (d.schedule callback).took = false := by
  rw [Device.schedule, Outcome.schedule]
  split <;> rfl

theorem freeBuf_disposes : d.freeBuf.DisposedOnce := ⟨rfl, rfl⟩

theorem start_disposes_not : ¬ d.start.DisposedOnce := fun disposed => by
  simpa [Device.start, Outcome.fates] using disposed.1

theorem schedule_disposes_iff (callback : Callback) :
    (d.schedule callback).DisposedOnce ↔ d.Room 1 := by
  rw [Outcome.DisposedOnce, (fates_schedule callback).1, (fates_schedule callback).2,
    took_schedule callback]
  by_cases room : d.Room 1 <;> simp [room]

theorem send_disposes_iff (destAddr : UInt16) (command : UInt8) (secure : Bool) :
    (d.apsSendCommand param destAddr command secure).DisposedOnce ↔ d.Room 1 :=
  schedule_disposes_iff _

theorem sendByIeee_disposes_iff (ieeeAddress : IeeeAddr) (command : UInt8) (secure : Bool) :
    (d.sendByIeee env param ieeeAddress command secure).DisposedOnce ↔ d.Room 1 :=
  send_disposes_iff _ _ _

/-! ## Received commands -/

theorem neighborByIeee_cbQ (ieeeAddress : IeeeAddr) :
    (d.neighborByIeee env ieeeAddress).1.cbQ = d.cbQ := by
  rw [Device.neighborByIeee]
  cases addressByIeee d.tables.addr ieeeAddress false false env.junk with
  | mk addr found => cases found <;> rfl

theorem ieeeByShort_cbQ (shortAddr : UInt16) :
    (d.ieeeByShort env shortAddr).1.cbQ = d.cbQ := by
  rw [Device.ieeeByShort]
  cases addressByShort d.tables.addr shortAddr.toNat false false with
  | mk addr found => cases found <;> rfl

theorem Device.Room.congr {d' : Device} (same : d'.cbQ = d.cbQ) (n : ℕ) :
    d'.Room n ↔ d.Room n := by
  rw [Device.Room, Device.Room, same]

theorem transportKey_disposes_iff (p : Octets) :
    (d.apsInTransportKey config env param p).DisposedOnce ↔ d.TransportKeyServed config env p := by
  rw [Device.apsInTransportKey, Device.TransportKeyServed]
  by_cases standard : p 0 = zbStandardNetworkKey
  · rw [if_pos standard, and_iff_right standard]
    by_cases own : ForUs config p
    · rw [if_pos own, if_pos own]
      exact schedule_disposes_iff _
    · rw [if_neg own, if_neg own]
      by_cases router : config.routerRole
      · rw [if_pos router, and_iff_right router, Device.KnownChild]
        have kept : (d.neighborByIeee env (p.ieeeAddr 18)).1.cbQ = d.cbQ :=
          neighborByIeee_cbQ (p.ieeeAddr 18)
        cases looked : d.neighborByIeee env (p.ieeeAddr 18) with
        | mk d' found =>
          rw [looked] at kept
          cases found with
          | none => simpa using freeBuf_disposes
          | some neighbor =>
            obtain ⟨ref, relationship⟩ := neighbor
            by_cases child : relationship = .unauthenticatedChild ∨ relationship = .child
            · simp only [if_pos child]
              rw [send_disposes_iff]
              refine (Device.Room.congr kept 1).trans ⟨fun room _ => room, fun room => ?_⟩
              exact room ⟨_, rfl, child⟩
            · simp only [if_neg child]
              refine iff_of_true freeBuf_disposes ?_
              rintro ⟨neighbor, same, isChild⟩
              cases same
              exact absurd isChild child
      · rw [if_neg router]
        exact iff_of_false start_disposes_not fun served => router served.1
  · rw [if_neg standard]
    exact iff_of_false start_disposes_not fun served => standard served.1

/-- The four commands a device looks at only outside PRO networks. -/
theorem notPro_disposes_iff {o : Outcome} {served : Prop} (inside : o.DisposedOnce ↔ served) :
    (if !config.joinedPro then o else d.start).DisposedOnce ↔
      config.joinedPro = false ∧ served := by
  cases pro : config.joinedPro with
  | false => simpa using inside
  | true => simpa using start_disposes_not

theorem command_disposes_iff (srcAddr : UInt16) (p : Octets) :
    (d.apsInCommandHandle config env param srcAddr p).DisposedOnce ↔
      d.CommandServed config env p := by
  have kept : (d.ieeeByShort env srcAddr).1.cbQ = d.cbQ := ieeeByShort_cbQ srcAddr
  have room := Device.Room.congr kept 1
  rw [Device.apsInCommandHandle, Device.CommandServed]
  generalize apsCommandId config p = cmdId
  generalize apsCommandPayload config p = payload
  by_cases transport : cmdId = apsCmdTransportKey
  · rw [if_pos transport, if_pos transport]
    exact notPro_disposes_iff (transportKey_disposes_iff payload)
  rw [if_neg transport, if_neg transport]
  by_cases router : config.routerRole = true
  · simp only [router, true_and]
    by_cases update : cmdId = apsCmdUpdateDevice
    · rw [if_pos update, if_pos (Or.inl update)]
      exact notPro_disposes_iff ((schedule_disposes_iff _).trans room)
    rw [if_neg update]
    by_cases remove : cmdId = apsCmdRemoveDevice
    · rw [if_pos remove, if_pos (Or.inr (Or.inl remove))]
      exact notPro_disposes_iff ((schedule_disposes_iff _).trans room)
    rw [if_neg remove]
    by_cases request : cmdId = apsCmdRequestKey
    · rw [if_pos request, if_pos (Or.inr (Or.inr request))]
      exact notPro_disposes_iff ((schedule_disposes_iff _).trans room)
    have others : ¬ (cmdId = apsCmdUpdateDevice ∨ cmdId = apsCmdRemoveDevice ∨
        cmdId = apsCmdRequestKey) := by
      simp only [update, remove, request, or_self, not_false_eq_true]
    rw [if_neg request, if_neg others, if_neg (by simp), if_neg (by simp)]
    exact iff_of_true freeBuf_disposes trivial
  · rw [Bool.not_eq_true] at router
    simp only [router, false_and, if_false, Bool.false_eq_true, Bool.not_false, true_and]
    by_cases switch : cmdId = apsCmdSwitchKey
    · rw [if_pos switch, if_pos switch]
      exact (schedule_disposes_iff _).trans room
    · rw [if_neg switch, if_neg switch]
      exact iff_of_true freeBuf_disposes trivial

/-! ## Indications -/

theorem updateDevice_disposes_iff (ind : UpdateDeviceInd) :
    (d.apsmeUpdateDeviceIndication env ind).DisposedOnce ↔
      if ind.status = zbDeviceLeft then ∃ ref, (d.leftRef env ind).2 = .ok ref else d.Room 1 := by
  rw [Device.apsmeUpdateDeviceIndication]
  by_cases left : ind.status = zbDeviceLeft
  · rw [if_pos left, if_pos left]
    cases d.leftRef env ind with
    | mk addr found =>
      cases found with
      | ok ref => exact iff_of_true freeBuf_disposes ⟨ref, rfl⟩
      | error => exact iff_of_false start_disposes_not fun ⟨_, found⟩ => nomatch found
  · rw [if_neg left, if_neg left]
    split <;> exact schedule_disposes_iff _

theorem requestKey_disposes_iff (srcAddress : IeeeAddr) (keyType : UInt8) :
    (d.apsmeRequestKeyIndication env srcAddress keyType).DisposedOnce ↔
      (keyType = zbStandardNetworkKey ∧ d.KnownMember env srcAddress → d.Room 1) := by
  rw [Device.apsmeRequestKeyIndication]
  by_cases standard : keyType = zbStandardNetworkKey
  · rw [if_pos standard, and_iff_right standard, Device.KnownMember]
    have kept : (d.neighborByIeee env srcAddress).1.cbQ = d.cbQ := neighborByIeee_cbQ srcAddress
    cases looked : d.neighborByIeee env srcAddress with
    | mk d' found =>
      rw [looked] at kept
      cases found with
      | none => simpa using freeBuf_disposes
      | some neighbor =>
        obtain ⟨ref, relationship⟩ := neighbor
        by_cases member : relationship ≠ .unauthenticatedChild ∧ relationship ≠ .previousChild ∧
            relationship ≠ .noneOfTheAbove
        · simp only [if_pos member]
          rw [schedule_disposes_iff]
          refine (Device.Room.congr kept 1).trans ⟨fun room _ => room, fun room => ?_⟩
          exact room ⟨_, rfl, member⟩
        · simp only [if_neg member]
          refine iff_of_true freeBuf_disposes ?_
          rintro ⟨neighbor, same, isMember⟩
          cases same
          exact absurd isMember member
  · rw [if_neg standard]
    exact iff_of_true freeBuf_disposes fun asked => absurd asked.1 standard

/-! ## A key update -/

theorem Device.Room.of_two (room : d.Room 2) : d.Room 1 := by
  rw [Device.Room] at room ⊢
  omega

theorem schedule_device (callback : Callback) : (d.schedule callback).device =
    if d.Room 1 then { d with cbQ := d.cbQ ++ [callback] } else d := by
  rw [Device.schedule, Outcome.schedule]
  by_cases room : d.Room 1
  · rw [if_pos (show d.start.device.Room 1 from room), if_pos room]
    rfl
  · rw [if_neg (show ¬ d.start.device.Room 1 from room), if_neg room]
    rfl

/-- An out buffer that is there has to be handed on as well. -/
theorem getOutBuf_disposes_iff {o : Outcome} (small : o.took = false)
    (nothing : o.fates .taken = []) (callback : Callback) :
    (o.getOutBufDelayed callback).DisposedOnce ↔
      (o.fates .incoming).length = 1 ∧ (o.device.outBuf = true → o.device.Room 1) := by
  rw [Outcome.getOutBufDelayed]
  cases out : o.device.outBuf with
  | false => simp [Outcome.DisposedOnce, small, nothing]
  | true =>
    rw [if_pos rfl, Outcome.schedule, imp_iff_right rfl]
    by_cases room : o.device.Room 1
    · rw [if_pos room, and_iff_left room]
      have incoming : (⟨{ o.device with cbQ := o.device.cbQ ++ [callback] }, true,
          o.disposed ++ [(.taken, .handed callback)]⟩ : Outcome).fates .incoming =
          o.fates .incoming := by
        simp [Outcome.fates, List.filterMap_append]
      have taken : (⟨{ o.device with cbQ := o.device.cbQ ++ [callback] }, true,
          o.disposed ++ [(.taken, .handed callback)]⟩ : Outcome).fates .taken =
          o.fates .taken ++ [.handed callback] := by
        simp [Outcome.fates, List.filterMap_append]
      rw [Outcome.DisposedOnce, incoming, taken, nothing]
      exact and_iff_left rfl
    · rw [if_neg room]
      refine iff_of_false (fun disposed => ?_) fun both => room both.2
      have taken : (o.fates .taken).length = 1 := disposed.2
      simp [nothing] at taken

theorem sendKeySwNext_disposes_iff : d.sendKeySwNext.DisposedOnce ↔ d.SwitchRoom := by
  rw [Device.sendKeySwNext, Device.SwitchRoom]
  dsimp only
  generalize d.neighborNextRxOnI ((d.neighborTableIterator + 1) % 2 ^ 32) = next
  generalize Callback.handler (.apsmeSwitchKeyRequest _ _) = request
  have fates := fates_schedule (d := d) request
  have small := took_schedule (d := d) request
  have device := schedule_device (d := d) request
  have one : ((d.schedule request).fates .incoming).length = 1 ↔ d.Room 1 := by
    rw [fates.1]
    by_cases room : d.Room 1 <;> simp [room]
  by_cases more : next ≠ noNeighbor
  · rw [if_pos more]
    refine (getOutBuf_disposes_iff (o := { d.schedule request with
      device := { (d.schedule request).device with neighborTableIterator := next } })
      small fates.2 _).trans ((and_congr_left' one).trans ?_)
    by_cases room : d.Room 1
    · rw [if_pos room] at device
      simp only [device, room, true_and]
      cases d.outBuf with
      | false => simp
      | true =>
        rw [if_pos ⟨more, rfl⟩]
        simp [Device.Room, Nat.add_assoc]
    · simp only [room, false_and, false_iff]
      split
      · exact fun both => room both.of_two
      · exact not_false
  · rw [if_neg more, if_neg fun both => more both.1]
    exact schedule_disposes_iff request

theorem sendKeySwitch_disposes_iff (destBr : UInt16) :
    (d.sendNwkKeySwitch env param destBr).DisposedOnce ↔
      d.Served config env param (.sendNwkKeySwitch destBr) := by
  rw [Device.sendNwkKeySwitch, Device.Served]
  by_cases unicast : destBr = 0
  · rw [if_pos unicast, if_pos unicast]
    dsimp only
    by_cases listener : d.neighborNextRxOnI 0 ≠ noNeighbor
    · rw [if_pos (show (d.switchToNext env).neighborNextRxOnI 0 ≠ noNeighbor from listener),
        sendKeySwNext_disposes_iff]
      exact (imp_iff_right listener).symm
    · rw [if_neg (show ¬ (d.switchToNext env).neighborNextRxOnI 0 ≠ noNeighbor from listener)]
      exact iff_of_true freeBuf_disposes fun some_ => absurd some_ listener
  · rw [if_neg unicast, if_neg unicast]
    exact schedule_disposes_iff _

/-! ## The confirm -/

theorem doLeave_disposes_iff (rejoin : Bool) :
    (d.doLeave config rejoin).DisposedOnce ↔ (rejoin = true → d.Room 1) := by
  rw [Device.doLeave]
  cases rejoin with
  | true => exact (schedule_disposes_iff _).trans (imp_iff_right rfl).symm
  | false =>
    refine iff_of_true ?_ (by simp)
    dsimp only
    rw [if_neg Bool.false_ne_true]
    split <;> exact freeBuf_disposes

theorem release_cbQ (i : ℕ) : (d.release i).cbQ = d.cbQ := by
  rw [Device.release]
  split <;> rfl

/-- An out buffer that is asked for does nothing to the buffer at hand. -/
theorem getOutBuf_disposes_not (callback : Callback) :
    ¬ (d.start.getOutBufDelayed callback).DisposedOnce := by
  have nothing : (d.start.getOutBufDelayed callback).fates .incoming = [] := by
    rw [Outcome.getOutBufDelayed]
    split
    · rw [Outcome.schedule]
      split <;> rfl
    · rfl
  intro disposed
  simpa [nothing] using disposed.1

theorem confirm_disposes_iff (status : UInt8) :
    (d.apsdeDataConfirm config env param status).DisposedOnce ↔
      d.ConfirmServed config param status := by
  rw [Device.apsdeDataConfirm, Device.ConfirmServed]
  by_cases announced : d.devAnnce = param
  · rw [if_pos announced, if_pos announced]
    have kept : ∀ addr, (d.setAddr addr).started = d.started := fun _ => rfl
    cases started : d.started with
    | false =>
      simp only [kept, started, Bool.not_false, if_true, true_and]
      exact schedule_disposes_iff _
    | true =>
      simp only [kept, started, Bool.not_true, Bool.false_eq_true, if_false]
      exact iff_of_false start_disposes_not (by simp)
  rw [if_neg announced, if_neg announced]
  by_cases switched : config.coordinatorRole ∧ d.keySw = param
  · rw [if_pos switched, if_pos switched]
    exact iff_of_false start_disposes_not not_false
  rw [if_neg switched, if_neg switched]
  cases if d.leaveAfterMgmtLeaveRspConf then d.pendingOf param else none with
  | some i =>
    dsimp only
    by_cases localLeave : d.LocalLeave config i
    · rw [if_pos localLeave]
      exact iff_of_false (getOutBuf_disposes_not _) fun served => served.1 localLeave
    · rw [if_neg localLeave, doLeave_disposes_iff, and_iff_right localLeave]
      exact imp_congr_right fun _ => Device.Room.congr (release_cbQ i) 1
  | none =>
    dsimp only
    by_cases sent : status = 0 ∨ status = retNoAck
    · rw [if_pos sent, schedule_disposes_iff, imp_iff_right sent]
    · rw [if_neg sent]
      exact iff_of_true freeBuf_disposes fun good => absurd good sent

/-! ## All handlers -/

/-- Whatever a handler is given, on a device of any role and in any state, it disposes of every
buffer exactly once just when it takes no branch that leaves its buffer behind, and finds room for
what it schedules. -/
theorem handler_disposes_iff (config : Config) (env : Env) (param : ℕ) (d : Device)
    (handler : Handler) :
    (run config env param d handler).DisposedOnce ↔ d.Served config env param handler := by
  cases handler with
  | apsInCommandHandle srcAddr p => exact command_disposes_iff srcAddr p
  | apsmeTransportKeyIndication ind =>
    rw [run, Device.apsmeTransportKeyIndication, Device.Served]
    by_cases first : ind.keyType = zbStandardNetworkKey ∧ !d.keys.authenticated
    · rw [if_pos first, imp_iff_right first]
      exact schedule_disposes_iff _
    · rw [if_neg first]
      exact iff_of_true freeBuf_disposes fun asked => absurd asked first
  | apsmeUpdateDeviceIndication ind => exact updateDevice_disposes_iff ind
  | apsmeRemoveDeviceIndication srcAddress childAddress =>
    rw [run, Device.apsmeRemoveDeviceIndication, Device.Served]
    by_cases center : srcAddress = d.keys.trustCenterAddress
    · rw [if_pos center, imp_iff_right center]
      exact schedule_disposes_iff _
    · rw [if_neg center]
      exact iff_of_true freeBuf_disposes fun asked => absurd asked center
  | apsmeRequestKeyIndication srcAddress keyType => exact requestKey_disposes_iff srcAddress keyType
  | apsmeSwitchKeyIndication => exact iff_of_true freeBuf_disposes trivial
  | apsmeTransportKeyRequest req =>
    rw [run, Device.apsmeTransportKeyRequest, Device.Served]
    split
    · exact sendByIeee_disposes_iff _ _ _
    · exact send_disposes_iff _ _ _
    · exact sendByIeee_disposes_iff _ _ _
  | apsmeSwitchKeyRequest dest =>
    cases dest with
    | addr16 => exact send_disposes_iff _ _ _
    | addr64 => exact sendByIeee_disposes_iff _ _ _
  | apsmeRemoveDevice => exact sendByIeee_disposes_iff _ _ _
  | switchNwkKeyBr => exact schedule_disposes_iff _
  | sendNwkKeyUpdateBr destBr =>
    rw [run, Device.sendNwkKeyUpdateBr, Device.Served]
    cases nwkKeyBySeq (d.keys.activeKeySeqNumber + 1) d.keys with
    | none => exact iff_of_false start_disposes_not fun served => served.1 rfl
    | some => exact (schedule_disposes_iff _).trans (and_iff_right (Option.some_ne_none _)).symm
  | sendNwkKeySwitch destBr => exact sendKeySwitch_disposes_iff destBr
  | sendKeySwNext => exact sendKeySwNext_disposes_iff
  | apsdeDataConfirm status => exact confirm_disposes_iff status

section

local instance slots_neZero : NeZero 3 := ⟨by decide⟩

/-- A router outside PRO networks, with nothing to do. -/
def idleRouter : Config where
  apsFrameSecurity := false
  routerRole := true
  joinedPro := false
  rxOnWhenIdle := true
  networkAddress := 1
  extendedAddress := ⟨⟨1, 2, 3⟩, ⟨4, 5, 6, 7, 8⟩⟩
  coordinatorRole := false
  router_of_coordinator _ := rfl

@[inherit_doc idleRouter]
def idleDevice : Device where
  keys := ⟨fun _ => ⟨emptyKey, 0⟩, 0, 0, 0, 0, true, false, IeeeAddr.zero⟩
  tables := ⟨.zero, .init⟩
  allowAuth := true
  neighborTableIterator := 0
  devAnnce := 0
  keySw := 0
  started := true
  leaveAfterMgmtLeaveRspConf := false
  rejoinAfterLeave := false
  pendingList := []
  retrans := []
  outBuf := true
  cbQ := []

end

def noEnv : Env := ⟨.zero, .zero, (emptyKey, 0), emptyKey⟩

/-- A TRANSPORT-KEY command with an application link key: a header, the command identifier, and
the type of the key. -/
def linkKeyCommand : Octets := fun i => [1, 0, 5, 3].getD i 0

/-- The device that gets an application link key keeps the buffer of the command for good. -/
theorem link_key_leaks : ¬ (run idleRouter noEnv 7 idleDevice
    (.apsInCommandHandle 0 linkKeyCommand)).DisposedOnce := by
  decide +kernel

end Zboss.CommandBuffers
