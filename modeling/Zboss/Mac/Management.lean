import Mathlib.Data.List.Count
import Zboss.Lib.Run
import Zboss.Mac.Queues

/-!
The requests that share `pending_buf`: MLME-ASSOCIATE, MLME-SCAN, orphan responses and
MCPS-DATA, direct or indirect, with the frames that are received meanwhile.  Buffers are
numbered in the order they come, and a request has the number of its buffer.  Callbacks and
alarms of the code carry no such number where they take none; here they do, so that it can be
said whose they are.  What the transceiver answers, whether a header is filled and a frame
secured, which frame is kept for a device that polls, and whether an alarm is left, is chosen.
The build is one with a transceiver that acknowledges by itself: neither `ZB_NS_BUILD` nor
`ZB_MANUAL_ACK` is defined.
-/

namespace Zboss.Management

open Zboss.Queues Zboss.Run

/-- The values of `mac_status` that occur here; `associated` is the status of an association
response. -/
inductive MacStatus
  | success
  | channelAccessFailure
  | noAck
  | noData
  | noBeacon
  | invalidParameter
  | scanInProgress
  | transactionExpired
  | transactionOverflow
  | associated (status : ℕ)
  deriving DecidableEq, Repr

inductive ScanType
  | ed
  | active
  | passive
  | orphan
  deriving DecidableEq, Repr

/-- `zb_mlme_scan_params_t`: how many channels are to be scanned. -/
structure ScanParams where
  scanType : ScanType
  channels : ℕ
  deriving DecidableEq, Repr

/-- What a callback that needs the transceiver is for; an indirect data request comes with the
status its buffer has. -/
inductive Kind
  | associate
  | orphanResponse
  | data
  | indirectData (hdrStatus : MacStatus)
  | dataRequestCmd
  | beaconReq
  deriving DecidableEq, Repr

/-- A callback in `mac_tx_q` or in `tx_wait_cb`, with its request or the buffer of its frame. -/
structure TxCb where
  kind : Kind
  number : ℕ
  deriving DecidableEq, Repr

/-- The request the callback is for. -/
def TxCb.request (cb : TxCb) : Option ℕ :=
  match cb.kind with
  | .associate | .orphanResponse | .data | .indirectData _ => some cb.number
  | .dataRequestCmd | .beaconReq => none

/-- The buffer of the command the callback is for. -/
def TxCb.frame (cb : TxCb) : Option ℕ := if cb.kind = .dataRequestCmd then some cb.number else none

/-- The callback that waits for the end of the transmission works in `pending_buf`. -/
def Kind.usesPendingBuf (kind : Kind) : Bool := kind == .orphanResponse || kind == .dataRequestCmd

/-- An entry of `pending_data_queue`: an association response, or a data request with the status
its buffer has. -/
structure PendingData where
  number : ℕ
  response : Bool
  hdrStatus : MacStatus
  deriving DecidableEq, Repr

/-- A scheduled callback: of a scan, or of a received frame. -/
inductive Callback
  | handleScanRequest (n : ℕ)
  | scanStep (n : ℕ)
  | handleDataFrame (buf : ℕ) (accepted : Bool)
  | acceptAssReqCmd (buf : ℕ)
  | associationResponse (buf status : ℕ)
  | dataRequestCmd (buf : ℕ)
  | beaconReq (buf : ℕ)
  | realignment
  deriving DecidableEq, Repr

inductive Alarm
  | scanStep (n : ℕ)
  | respTimeout (n : ℕ)
  | indirectDataTimeout (n : ℕ)
  | pendingDataTimeout (n : ℕ)
  deriving DecidableEq, Repr

/-- The request whose buffer the callback has. -/
def Callback.request : Callback → Option ℕ
  | .handleScanRequest n | .scanStep n => some n
  | .handleDataFrame .. | .acceptAssReqCmd _ | .associationResponse .. | .dataRequestCmd _
  | .beaconReq _ | .realignment => none

/-- The buffer of the frame the callback is for. -/
def Callback.frame : Callback → Option ℕ
  | .handleDataFrame buf _ | .acceptAssReqCmd buf | .associationResponse buf _
  | .dataRequestCmd buf | .beaconReq buf => some buf
  | .handleScanRequest _ | .scanStep _ | .realignment => none

/-- The scan whose step the callback takes. -/
def Callback.step : Callback → Option ℕ
  | .scanStep n => some n
  | .handleScanRequest _ | .handleDataFrame .. | .acceptAssReqCmd _ | .associationResponse ..
  | .dataRequestCmd _ | .beaconReq _ | .realignment => none

/-- The callback is for an association response. -/
def Callback.response : Callback → Bool
  | .associationResponse .. => true
  | .handleScanRequest _ | .scanStep _ | .handleDataFrame .. | .acceptAssReqCmd _
  | .dataRequestCmd _ | .beaconReq _ | .realignment => false

@[inherit_doc Callback.request]
def Alarm.request : Alarm → Option ℕ
  | .scanStep n | .respTimeout n => some n
  | .indirectDataTimeout _ | .pendingDataTimeout _ => none

@[inherit_doc Callback.step]
def Alarm.step : Alarm → Option ℕ
  | .scanStep n => some n
  | .respTimeout _ | .indirectDataTimeout _ | .pendingDataTimeout _ => none

/-- The association whose response the alarm waits for. -/
def Alarm.indirect : Alarm → Option ℕ
  | .indirectDataTimeout n => some n
  | .scanStep _ | .respTimeout _ | .pendingDataTimeout _ => none

/-- The entry of `pending_data_queue` whose time the alarm ends. -/
def Alarm.pending : Alarm → Option ℕ
  | .pendingDataTimeout n => some n
  | .scanStep _ | .respTimeout _ | .indirectDataTimeout _ => none

/-- The MAC.  `macDataReq` is the entry of `pending_data_queue` that is sent.  `assRequest` is
the flag, with the association that set it; `expired` are those that wait for a buffer to say
that there was no response; `scanner` is the scan that steps.  `got_realignment`,
`beacon_found` and the `cb_type` of an expired association lie over the fields of an ED scan,
and `edFields` says that the last two of these are not zero.  Then the requests,
the confirms and indications that answer them, the buffers that were given away or freed,
how the requests ended, whether the scan has heard what it is for, the number of buffers, and
which operation read or wrote which buffer. -/
structure Mac where
  pendingBuf : Option ℕ
  macTxQ : List TxCb
  txWaitCb : Option TxCb
  txCnt : Bool
  onAir : List (Option TxCb)
  txStatus : Option MacStatus
  macStatus : MacStatus
  pendingDataQueue : List PendingData
  macDataReq : Option PendingData
  callbacks : List Callback
  alarms : List Alarm
  assRequest : Option ℕ
  indirectDataRequest : Bool
  expired : List ℕ
  mlmeScanInProgress : Bool
  unscannedChannels : ℕ
  beaconFound : Bool
  gotRealignment : Bool
  edFields : Bool
  scanParams : ℕ → Option ScanParams
  scanner : Option ℕ
  requests : List ℕ
  confirms : List (ℕ × MacStatus)
  handed : List ℕ
  results : ℕ → Option MacStatus
  heard : Bool
  issued : ℕ
  touched : List (ℕ × Option ℕ)

namespace Mac

def init : Mac where
  pendingBuf := none
  macTxQ := []
  txWaitCb := none
  txCnt := false
  onAir := []
  txStatus := none
  macStatus := .success
  pendingDataQueue := []
  macDataReq := none
  callbacks := []
  alarms := []
  assRequest := none
  indirectDataRequest := false
  expired := []
  mlmeScanInProgress := false
  unscannedChannels := 0
  beaconFound := false
  gotRealignment := false
  edFields := false
  scanParams := fun _ => none
  scanner := none
  requests := []
  confirms := []
  handed := []
  results := fun _ => none
  heard := false
  issued := 0
  touched := []

def scheduleTxCb (w : Mac) (cb : TxCb) : Mac :=
  { w with macTxQ := Queues.scheduleTxCb w.macTxQ cb }

def scheduleCallback (w : Mac) (cb : Callback) : Mac := { w with callbacks := w.callbacks ++ [cb] }

/-- `ZB_SCHEDULE_ALARM`; `armed` says that there is an alarm left. -/
def scheduleAlarm (w : Mac) (alarm : Alarm) (armed : Bool) : Mac :=
  if armed then { w with alarms := w.alarms ++ [alarm] } else w

/-- Operation `n` reads or writes a buffer. -/
def touch (w : Mac) (n : ℕ) (buf : Option ℕ) : Mac := { w with touched := w.touched ++ [(n, buf)] }

/-- Request `n` is answered with the buffer. -/
def confirm (w : Mac) (n : ℕ) (buf : Option ℕ) (status : MacStatus) : Mac :=
  match buf with
  | some b =>
    { w with
      touched := w.touched ++ [(n, buf)]
      confirms := w.confirms ++ [(n, status)]
      handed := w.handed ++ [b] }
  | none => w.touch n buf

/-- How request `n` ended. -/
def record (w : Mac) (n : ℕ) (status : MacStatus) : Mac :=
  { w with results := Function.update w.results n (some status) }

def transSendCommand (w : Mac) (frame : Option TxCb) : Mac :=
  { w with txCnt := false, onAir := w.onAir ++ [frame] }

/-- The status that is reported when something failed. -/
def failure (status : MacStatus) : MacStatus :=
  if status = .success then .invalidParameter else status

/-- Whose request the end of a frame's transmission decides, and how. -/
def outcome (w : Mac) (status : Option MacStatus) (frame : TxCb) : Option (ℕ × MacStatus) :=
  match frame.kind with
  | .orphanResponse | .data => some (frame.number, status.getD .success)
  | .dataRequestCmd => w.macDataReq.map fun entry =>
    (entry.number, if entry.response then status.elim .success failure else status.getD .success)
  | .associate | .indirectData _ | .beaconReq => none

/-- The status of the frame is that of its request. -/
def settle (w : Mac) (status : Option MacStatus) (frame : Option TxCb) : Mac :=
  match frame.bind (w.outcome status) with
  | some (n, result) => w.record n result
  | none => w

/-- The interrupt at the end of a transmission. -/
def txComplete (w : Mac) (status : Option MacStatus) : Mac :=
  match w.onAir with
  | [] => w
  | frame :: rest =>
    { w with onAir := rest, txCnt := true, txStatus := status }.settle status frame

/-- Send a frame, and wait for the end of a transmission: `ZB_WAIT_FOR_TX`. -/
def sendAndWait (w : Mac) (status : Option MacStatus) : Mac :=
  (w.transSendCommand none).txComplete status

def checkCmdTxStatus (w : Mac) : Mac :=
  match w.txStatus with
  | some status => { w with macStatus := status }
  | none => w

/-! ## MLME-ASSOCIATE -/

/-- `zb_mlme_associate_request`: `pending_buf` is not set. -/
def mlmeAssociateRequest (w : Mac) (n : ℕ) : Mac :=
  { w with macStatus := .success }.scheduleTxCb ⟨.associate, n⟩

def mlmeSendAssociationReqCmd (w : Mac) (n : ℕ) : Mac :=
  { (w.touch n (some n)).transSendCommand (some ⟨.associate, n⟩) with
    txWaitCb := some ⟨.associate, n⟩ }

def mlmeSendAssociationReqContinue (w : Mac) (n : ℕ) (armed : Bool) : Mac :=
  let w := { w with txCnt := true }.checkCmdTxStatus
  if w.txStatus = none then w.scheduleAlarm (.respTimeout n) armed else w

/-- `zb_mac_resp_timeout`, with `zb_mac_get_indirect_data`, which fails with a status. -/
def macRespTimeout (w : Mac) (n : ℕ) (poll : Option MacStatus) (armed : Bool) : Mac :=
  let w := (w.touch n w.pendingBuf).sendAndWait (poll.filter (· ≠ .noData))
  let w := { w with assRequest := some n, indirectDataRequest := true }
  match poll with
  | none =>
    let w := w.scheduleAlarm (.indirectDataTimeout n) armed
    { w.touch n w.pendingBuf with
      handed := w.handed ++ w.pendingBuf.toList
      pendingBuf := none }
  | some status =>
    ({ w with macStatus := status, assRequest := none }.record n (failure status)).confirm n
      w.pendingBuf (failure status)

/-- `zb_mac_indirect_data_timeout` of an association: there is no buffer yet.  `cb_type` is
`MAC_ASS_CONFIRM_CALLBACK`, which is 0. -/
def macIndirectDataTimeout (w : Mac) (n : ℕ) : Mac :=
  { w with
    expired := w.expired ++ [n]
    gotRealignment := false
    beaconFound := false
    edFields := false }

/-- `indirect_data_callback_caller`, in a new buffer.  With another `cb_type` the buffer goes to
the confirm of a poll, or an assertion fails. -/
def indirectDataCallbackCaller (w : Mac) : Mac :=
  match w.expired with
  | [] => w
  | n :: rest =>
    if w.gotRealignment || w.beaconFound || w.edFields then
      { w with expired := rest, issued := w.issued + 1 }
    else
      { w with
        expired := rest
        assRequest := none
        issued := w.issued + 1
        confirms := w.confirms ++ [(n, MacStatus.noData)]
        handed := w.handed ++ [w.issued] }.record n .noData

/-- `zb_mlme_command_accept` for an association response. -/
def acceptAssociationResponse (w : Mac) (buf status : ℕ) : Mac :=
  let w := { w.touch buf (some buf) with handed := w.handed ++ [buf] }
  match w.assRequest with
  | some n =>
    { w with
      assRequest := none
      confirms := w.confirms ++ [(n, MacStatus.associated status)] }.record n (.associated status)
  | none => w

/-! ## MLME-SCAN -/

/-- `zb_mlme_scan_request`; `valid` says that the duration is not over its maximum. -/
def mlmeScanRequest (w : Mac) (n : ℕ) (params : ScanParams) (valid : Bool) : Mac :=
  let refused := valid = false ∧ params.scanType ≠ .orphan
  let w := { w with
    scanParams := Function.update w.scanParams n (some params)
    macStatus := if refused then .invalidParameter else .success }
  if ¬refused ∧ w.mlmeScanInProgress = false then
    { w with pendingBuf := some n }.scheduleCallback (.handleScanRequest n)
  else
    (w.record n (if refused then .invalidParameter else .scanInProgress)).confirm n w.pendingBuf
      w.macStatus

/-- `zb_handle_scan_request`, with the three scans. -/
def handleScanRequest (w : Mac) (n : ℕ) (armed : Bool) : Mac :=
  let w := { w.touch n (some n) with pendingBuf := some n }
  match w.scanParams n with
  | none => w
  | some params =>
    match params.scanType with
    | .active =>
      { w with
        beaconFound := false
        unscannedChannels := params.channels
        scanner := some n
        heard := false }.scheduleCallback (.scanStep n)
    | .ed =>
      -- scan_timeout and channel_number are not zero
      { w with
        unscannedChannels := params.channels
        gotRealignment := true
        beaconFound := true
        edFields := true
        scanner := some n
        heard := false }.scheduleAlarm (.scanStep n) armed
    | .orphan =>
      { w with
        unscannedChannels := params.channels
        gotRealignment := false
        scanner := some n
        heard := false }.scheduleAlarm (.scanStep n) armed
    | .passive => { w with macStatus := .invalidParameter }

/-- The scan type that is read from a buffer, if there are parameters of a scan in it. -/
def scanType (w : Mac) (buf : Option ℕ) : Option ScanType :=
  (buf.bind w.scanParams).map (·.scanType)

/-- `ZB_SCHEDULE_ALARM_CANCEL(zb_mlme_scan_step, 0)`. -/
def cancelScanStep (w : Mac) : Mac := { w with alarms := w.alarms.eraseP (·.step.isSome) }

/-- How a scan ends. -/
def scanStatus (type : Option ScanType) (heard : Bool) : MacStatus :=
  if type = some .ed ∨ heard = true then .success else .noBeacon

/-- `zb_mlme_scan_step`; `sent` is the status of the frame that an active or orphan scan sends. -/
def mlmeScanStep (w : Mac) (n : ℕ) (sent : Option MacStatus) (armed : Bool) : Mac :=
  let type := w.scanType w.pendingBuf
  let w := { w.touch n w.pendingBuf with mlmeScanInProgress := true }
  match w.unscannedChannels with
  | left + 1 =>
    let w := if type = some .ed then w.scheduleAlarm (.scanStep n) armed else w
    let w := { w with unscannedChannels := left }
    let w := if type = some .active then (w.sendAndWait sent).checkCmdTxStatus
      else if type = some .orphan then w.sendAndWait sent else w
    w.cancelScanStep.scheduleAlarm (.scanStep n) armed
  | 0 =>
    let status := scanStatus type (w.beaconFound || w.gotRealignment)
    { (w.record n (scanStatus (w.scanType (some n)) w.heard)).confirm n w.pendingBuf status with
      beaconFound := if status = .success then false else w.beaconFound
      mlmeScanInProgress := false
      scanner := none }

/-- `zb_mlme_command_accept` for a coordinator realignment. -/
def acceptRealignment (w : Mac) : Mac :=
  if w.mlmeScanInProgress then
    let w' := match w.scanner with
      | some n => w.touch n w.pendingBuf
      | none => w
    if w.scanType w.pendingBuf = some .orphan then
      { w' with gotRealignment := true, heard := w.scanType w.scanner = some .orphan || w.heard }
    else w'
  else w

/-! ## Orphan responses, MCPS-DATA and received frames -/

/-- `zb_mac_put_data_to_pending_queue`, when there is a slot. -/
def putData (w : Mac) (entry : PendingData) (armed : Bool) : Mac :=
  { w with pendingDataQueue := w.pendingDataQueue ++ [entry] }.scheduleAlarm
    (.pendingDataTimeout entry.number) armed

/-- `zb_mlme_handle_orphan_response`. -/
def handleOrphanResponse (w : Mac) (n : ℕ) : Mac :=
  { w.touch n (some n) with
    pendingBuf := some n
    txWaitCb := some ⟨.orphanResponse, n⟩ }.transSendCommand (some ⟨.orphanResponse, n⟩)

/-- `zb_mlme_handle_orphan_response_continue`. -/
def handleOrphanResponseContinue (w : Mac) (n : ℕ) : Mac :=
  let w := ({ w with txCnt := true }.checkCmdTxStatus).touch n w.pendingBuf
  if w.txStatus = none then w.confirm n w.pendingBuf .success else w

/-- `zb_handle_mcps_data_req`, for direct transmission. -/
def handleMcpsDataReq (w : Mac) (n : ℕ) (ready : Bool) : Mac :=
  let w := { w.touch n (some n) with pendingBuf := some n, macStatus := .success }
  if ready then
    { w with txWaitCb := some ⟨.data, n⟩ }.transSendCommand (some ⟨.data, n⟩)
  else w

/-- `zb_handle_mcps_data_req`, for indirect transmission: without a slot the request goes to
`MAC_CTX().out`, which nothing reads. -/
def handleIndirectDataReq (w : Mac) (n : ℕ) (hdrStatus : MacStatus) (ready armed : Bool) : Mac :=
  let w := { w.touch n (some n) with pendingBuf := some n, macStatus := .success }
  if ready = true ∧ w.pendingDataQueue.length < macPendingQueueSize then
    w.putData ⟨n, false, hdrStatus⟩ armed
  else w

def handleMcpsDataReqContinue (w : Mac) (n : ℕ) : Mac :=
  let w := { w with txCnt := true }.checkCmdTxStatus
  { w.confirm n (some n) w.macStatus with pendingBuf := none }

/-- `zb_mlme_associate_response` with `zb_handle_associate_response`. -/
def mlmeAssociateResponse (w : Mac) (n : ℕ) (joinedPro armed : Bool) : Mac :=
  if joinedPro then { w with handed := w.handed ++ [n] }
  else
    let w := { w.touch n (some n) with macStatus := .success, pendingBuf := some n }
    if w.pendingDataQueue.length < macPendingQueueSize then w.putData ⟨n, true, .success⟩ armed
    else
      let w := { w with macStatus := .transactionOverflow }.record n .transactionOverflow
      { w.confirm n (some n) .transactionOverflow with pendingBuf := none }

def macPendingDataTimeout (w : Mac) (n : ℕ) : Mac :=
  match w.pendingDataQueue.find? (·.number == n) with
  | some entry =>
    { (w.record n .transactionExpired).confirm n (some n) .transactionExpired with
      pendingDataQueue := w.pendingDataQueue.erase entry }
  | none => w.touch n none

/-- `zb_accept_data_request_cmd` and `zb_handle_data_request_cmd`, with the entry that is found;
the callback waits, also when nothing was sent. -/
def acceptDataRequestCmd (w : Mac) (buf : ℕ) (found : Option PendingData) (ready : Bool) : Mac :=
  let w := { w.touch buf (some buf) with pendingBuf := some buf, macStatus := .success }
  match found with
  | some entry =>
    let w := { w with macDataReq := some entry, txWaitCb := some ⟨.dataRequestCmd, buf⟩ }
    if ready then w.transSendCommand (some ⟨.dataRequestCmd, buf⟩) else w
  | none => { w with handed := w.handed ++ [buf], pendingBuf := none }

/-- The comm-status indication of an association response takes `pending_buf`, and the buffer of
the response is freed. -/
def sendCommStatus (w : Mac) (buf : ℕ) (entry : PendingData) (status : MacStatus) : Mac :=
  { w.touch buf w.pendingBuf with
    confirms := w.confirms ++ [(entry.number, status)]
    handed := w.handed ++ w.pendingBuf.toList ++ [entry.number]
    pendingBuf := none }

/-- `zb_free_buf(MAC_CTX().pending_buf)`, if there is one. -/
def freePendingBuf (w : Mac) (buf : ℕ) : Mac :=
  match w.pendingBuf with
  | some b => { w.touch buf (some b) with handed := w.handed ++ [b], pendingBuf := none }
  | none => w

/-- `zb_handle_data_request_cmd_continue`; a data frame is confirmed with the status its buffer
has. -/
def handleDataRequestCmdContinue (w : Mac) (buf : ℕ) : Mac :=
  let w := { w with txCnt := true }.checkCmdTxStatus
  match w.macDataReq with
  | none => w
  | some entry =>
    if entry ∈ w.pendingDataQueue then
      let w' := if entry.response then
          w.sendCommStatus buf entry (if w.txStatus = none then .success else failure w.macStatus)
        else w.confirm entry.number (some entry.number) entry.hdrStatus
      { w' with
        alarms := w'.alarms.erase (.pendingDataTimeout entry.number)
        pendingDataQueue := w'.pendingDataQueue.erase entry }.freePendingBuf buf
    else w.touch entry.number none

def handleDataFrame (w : Mac) (buf : ℕ) (accepted : Bool) : Mac :=
  { w.touch buf (some buf) with
    pendingBuf := if accepted then some buf else none
    handed := w.handed ++ [buf] }

/-- `zb_accept_ass_request_cmd`. -/
def acceptAssReqCmd (w : Mac) (buf : ℕ) : Mac :=
  { w.touch buf (some buf) with pendingBuf := some buf, handed := w.handed ++ [buf] }

/-- `zb_mlme_command_accept` for a data request command. -/
def acceptDataRequest (w : Mac) (buf : ℕ) : Mac := w.scheduleTxCb ⟨.dataRequestCmd, buf⟩

/-- `zb_mlme_command_accept` for a beacon request. -/
def acceptBeaconRequest (w : Mac) (buf : ℕ) : Mac :=
  { w.scheduleTxCb ⟨.beaconReq, buf⟩ with handed := w.handed ++ [buf] }

/-- `zb_mac_parse_recv_data`, the part for a frame that is sent to this device. -/
def gotIndirectData (w : Mac) (direct : Bool) : Mac :=
  if w.indirectDataRequest && direct then
    { w with
      alarms := w.alarms.eraseP (·.indirect.isSome)
      indirectDataRequest := false }
  else w

/-- A beacon is received. -/
def beacon (w : Mac) : Mac :=
  if w.mlmeScanInProgress then
    { w with
      beaconFound := true
      heard := w.scanType w.scanner = some .active || w.heard }
  else w

end Mac

/-- A received frame; `direct` says that it is sent to this device alone. -/
inductive Frame
  | data (direct accepted : Bool)
  | associationRequest
  | associationResponse (status : ℕ)
  | dataRequest (direct : Bool)
  | beaconRequest
  | realignment (direct : Bool)
  | beacon
  deriving DecidableEq, Repr

/-- `check_frame_dst_addr`. -/
def Frame.direct : Frame → Bool
  | .data direct _ => direct
  | .associationRequest => true
  | .associationResponse _ => true
  | .dataRequest direct => direct
  | .beaconRequest => false
  | .realignment direct => direct
  | .beacon => false

/-- The frame is an association response. -/
def Frame.response : Frame → Bool
  | .data _ _ => false
  | .associationRequest => false
  | .associationResponse _ => true
  | .dataRequest _ => false
  | .beaconRequest => false
  | .realignment _ => false
  | .beacon => false

/-- A request for the transceiver; an indirect data request comes with the status of its
buffer. -/
inductive Primitive
  | associate
  | orphanResponse
  | data
  | indirectData (hdrStatus : MacStatus)
  deriving DecidableEq, Repr

/-- What happens at the MAC; what is chosen in an iteration of the main loop, a callback or an
alarm comes with it.  A request that comes `again` is in the buffer `pending_buf` still has, if
that was handed back. -/
inductive Event
  | request (primitive : Primitive) (again : Bool)
  | associateResponse (joinedPro armed again : Bool)
  | scan (params : ScanParams) (valid again : Bool)
  | receive (frame : Frame)
  | complete (status : Option MacStatus)
  | loop (ready armed : Bool) (found : Option PendingData)
  | callback (sent : Option MacStatus) (armed : Bool)
  | alarm (alarm : Alarm) (sent : Option MacStatus) (armed : Bool)
  | buffer
  deriving DecidableEq, Repr

namespace Mac

/-- A new buffer. -/
def issue (w : Mac) : Mac := { w with issued := w.issued + 1 }

/-- A request; a buffer that is used again has a new number from then on. -/
def ask (w : Mac) (again : Bool) : Mac :=
  { w.issue with
    requests := w.requests ++ [w.issued]
    pendingBuf :=
      if again = true ∧ w.pendingBuf.any (· ∈ w.handed) = true then some w.issued
      else w.pendingBuf }

/-- `zb_mlme_associate_request`, `zb_mlme_orphan_indication`, which answers in the buffer, or
`zb_mcps_data_request`. -/
def request (w : Mac) (n : ℕ) : Primitive → Mac
  | .associate => w.mlmeAssociateRequest n
  | .orphanResponse => w.scheduleTxCb ⟨.orphanResponse, n⟩
  | .data => w.scheduleTxCb ⟨.data, n⟩
  | .indirectData hdrStatus => w.scheduleTxCb ⟨.indirectData hdrStatus, n⟩

/-- Call a callback that needs the transceiver; `found` is the entry that `check_pending_data`
finds for a device that polls. -/
def callTxCb (w : Mac) (n : ℕ) (ready armed : Bool) (found : Option PendingData) : Kind → Mac
  | .associate => w.mlmeSendAssociationReqCmd n
  | .orphanResponse => w.handleOrphanResponse n
  | .data => w.handleMcpsDataReq n ready
  | .indirectData hdrStatus => w.handleIndirectDataReq n hdrStatus ready armed
  | .dataRequestCmd => w.acceptDataRequestCmd n (found.filter (· ∈ w.pendingDataQueue)) ready
  | .beaconReq => if ready then w.transSendCommand none else w

/-- Call the callback that waits for the end of a transmission. -/
def callWaitCb (w : Mac) (n : ℕ) (armed : Bool) : Kind → Mac
  | .associate => w.mlmeSendAssociationReqContinue n armed
  | .orphanResponse => w.handleOrphanResponseContinue n
  | .data => w.handleMcpsDataReqContinue n
  | .indirectData _ => w
  | .dataRequestCmd => w.handleDataRequestCmdContinue n
  | .beaconReq => w

/-- `zb_mac_main_loop`, the part that sends. -/
def mainLoop (w : Mac) (ready armed : Bool) (found : Option PendingData) : Mac :=
  match w.txWaitCb with
  | some cb =>
    if w.txCnt then
      { { w with txCnt := false }.callWaitCb cb.number armed cb.kind with txWaitCb := none }
    else w
  | none =>
    match w.macTxQ with
    | [] => w
    | cb :: rest => { w with macTxQ := rest }.callTxCb cb.number ready armed found cb.kind

/-- `zb_mac_parse_recv_data` for an accepted frame in a new buffer. -/
def receive (w : Mac) (frame : Frame) : Mac :=
  let n := w.issued
  let w := w.issue.gotIndirectData frame.direct
  match frame with
  | .data _ accepted => w.scheduleCallback (.handleDataFrame n accepted)
  | .associationRequest => w.scheduleCallback (.acceptAssReqCmd n)
  | .associationResponse status => w.scheduleCallback (.associationResponse n status)
  | .dataRequest _ => w.scheduleCallback (.dataRequestCmd n)
  | .beaconRequest => w.scheduleCallback (.beaconReq n)
  | .realignment _ => w.scheduleCallback .realignment
  | .beacon => w.beacon

/-- A scheduled callback. -/
def call (w : Mac) (sent : Option MacStatus) (armed : Bool) : Callback → Mac
  | .handleScanRequest n => w.handleScanRequest n armed
  | .scanStep n => w.mlmeScanStep n sent armed
  | .handleDataFrame buf accepted => w.handleDataFrame buf accepted
  | .acceptAssReqCmd buf => w.acceptAssReqCmd buf
  | .associationResponse buf status => w.acceptAssociationResponse buf status
  | .dataRequestCmd buf => w.acceptDataRequest buf
  | .beaconReq buf => w.acceptBeaconRequest buf
  | .realignment => w.acceptRealignment

/-- An alarm ends. -/
def ring (w : Mac) (sent : Option MacStatus) (armed : Bool) : Alarm → Mac
  | .scanStep n => w.mlmeScanStep n sent armed
  | .respTimeout n => w.macRespTimeout n sent armed
  | .indirectDataTimeout n => w.macIndirectDataTimeout n
  | .pendingDataTimeout n => w.macPendingDataTimeout n

/-- One event. -/
def step (w : Mac) : Event → Mac
  | .request primitive again => (w.ask again).request w.issued primitive
  | .associateResponse joinedPro armed again =>
    (w.ask again).mlmeAssociateResponse w.issued joinedPro armed
  | .scan params valid again => (w.ask again).mlmeScanRequest w.issued params valid
  | .receive frame => w.receive frame
  | .complete status => w.txComplete status
  | .loop ready armed found => w.mainLoop ready armed found
  | .callback sent armed =>
    match w.callbacks with
    | [] => w
    | cb :: rest => { w with callbacks := rest }.call sent armed cb
  | .alarm alarm sent armed =>
    if alarm ∈ w.alarms then { w with alarms := w.alarms.erase alarm }.ring sent armed alarm
    else w
  | .buffer => w.indirectDataCallbackCaller

/-! ## The property -/

/-- The requests whose buffers the MAC has. -/
def held (w : Mac) : List ℕ :=
  w.macTxQ.filterMap TxCb.request ++ w.txWaitCb.toList.filterMap TxCb.request ++
    w.callbacks.filterMap Callback.request ++ w.alarms.filterMap Alarm.request ++
      w.pendingDataQueue.map (·.number)

/-- The timers for an association response. -/
def indirects (w : Mac) : List ℕ := w.alarms.filterMap Alarm.indirect

/-- Every request is answered once, or is on its way there; an association whose data request
command goes through gives its buffer back first.  Every buffer of a request is given back
once, or the MAC has it once.  An answer has the result of its request.  No operation reads
or writes the buffer of another one. -/
structure Owned (w : Mac) : Prop where
  once : ∀ n ∈ w.requests,
    (w.confirms.map (·.1)).count n + w.held.count n + w.assRequest.toList.count n = 1
  back : ∀ n ∈ w.requests, w.handed.count n + w.held.count n = 1
  status : ∀ call ∈ w.confirms, w.results call.1 = some call.2
  own : ∀ use ∈ w.touched, use.2 = some use.1
  sends : w.txWaitCb ≠ none → w.txCnt = true ∨ w.onAir ≠ []
  waits : ∀ n, w.assRequest = some n →
    n ∈ w.indirects ∨ n ∈ w.expired ∨ ∃ cb ∈ w.callbacks, cb.response = true

/-- No scan steps, and no orphan response and no frame for a device that polls is being sent:
`pending_buf` may be written. -/
def Free (w : Mac) : Prop :=
  w.scanner = none ∧ w.txWaitCb.any (·.kind.usesPendingBuf) = false

instance (w : Mac) : Decidable w.Free := inferInstanceAs (Decidable (_ ∧ _))

/-- A step of a scan starts its timer again, and sends while nothing else is sent. -/
def StepCareful (w : Mac) (armed : Bool) : Prop :=
  w.unscannedChannels ≠ 0 → armed = true ∧
    (w.scanType w.scanner ≠ some .ed → w.txWaitCb = none ∧ w.onAir = [])

instance (w : Mac) (armed : Bool) : Decidable (w.StepCareful armed) :=
  inferInstanceAs (Decidable (_ → _ ∧ (_ → _ ∧ _)))

/-- What is asked of a callback. -/
def CallCareful (w : Mac) (armed : Bool) : Callback → Prop
  | .handleScanRequest n => w.Free ∧ w.expired = [] ∧
    if w.scanType (some n) = some .active then w.gotRealignment = false else armed = true
  | .scanStep _ => w.StepCareful armed
  | .handleDataFrame .. | .acceptAssReqCmd _ => w.Free
  | .associationResponse _ _ => w.assRequest ≠ none → w.indirects = [] ∧ w.expired = []
  | .dataRequestCmd _ => w.macTxQ.length < macQueueSize
  | .beaconReq _ | .realignment => True

instance callCarefulDecidable (w : Mac) (armed : Bool) : ∀ cb, Decidable (w.CallCareful armed cb)
  | .handleScanRequest _ => inferInstanceAs (Decidable (_ ∧ _ ∧ _))
  | .scanStep _ => inferInstanceAs (Decidable (w.StepCareful armed))
  | .handleDataFrame .. | .acceptAssReqCmd _ => inferInstanceAs (Decidable w.Free)
  | .associationResponse _ _ => inferInstanceAs (Decidable (_ → _ ∧ _))
  | .dataRequestCmd _ => inferInstanceAs (Decidable (_ < _))
  | .beaconReq _ | .realignment => isTrue trivial

/-- What is asked of an alarm. -/
def RingCareful (w : Mac) (sent : Option MacStatus) (armed : Bool) : Alarm → Prop
  | .scanStep _ => w.StepCareful armed
  | .respTimeout n => w.pendingBuf = some n ∧ w.Free ∧ w.txWaitCb = none ∧ w.onAir = [] ∧
    w.assRequest = none ∧ (sent = none → armed = true)
  | .indirectDataTimeout _ => w.scanner = none
  | .pendingDataTimeout n => w.txWaitCb.any (·.kind == .dataRequestCmd) = true →
    w.macDataReq.any (·.number == n) = false

instance ringCarefulDecidable (w : Mac) (sent : Option MacStatus) (armed : Bool) :
    ∀ alarm, Decidable (w.RingCareful sent armed alarm)
  | .scanStep _ => inferInstanceAs (Decidable (w.StepCareful armed))
  | .respTimeout _ => inferInstanceAs (Decidable (_ ∧ _ ∧ _ ∧ _ ∧ _ ∧ (_ → _)))
  | .indirectDataTimeout _ => inferInstanceAs (Decidable (_ = _))
  | .pendingDataTimeout _ => inferInstanceAs (Decidable (_ → _))

/-- There is a slot and a timer for a frame that is kept. -/
def Keeps (w : Mac) (armed : Bool) : Prop :=
  w.pendingDataQueue.length < macPendingQueueSize ∧ armed = true

instance (w : Mac) (armed : Bool) : Decidable (w.Keeps armed) :=
  inferInstanceAs (Decidable (_ ∧ _))

/-- What is asked of a callback that needs the transceiver. -/
def SendCareful (w : Mac) (ready armed : Bool) (found : Option PendingData) : Kind → Prop
  | .associate => w.onAir = []
  | .orphanResponse => w.Free ∧ w.onAir = []
  | .data => w.Free ∧ ready = true ∧ w.onAir = []
  | .indirectData _ => w.Free ∧ ready = true ∧ w.Keeps armed
  | .dataRequestCmd => w.Free ∧
    (found.any (· ∈ w.pendingDataQueue) = true → ready = true ∧ w.onAir = [])
  | .beaconReq => True

instance sendCarefulDecidable (w : Mac) (ready armed : Bool) (found : Option PendingData) :
    ∀ kind, Decidable (w.SendCareful ready armed found kind)
  | .associate => inferInstanceAs (Decidable (_ = _))
  | .orphanResponse => inferInstanceAs (Decidable (_ ∧ _))
  | .data | .indirectData _ => inferInstanceAs (Decidable (_ ∧ _ ∧ _))
  | .dataRequestCmd => inferInstanceAs (Decidable (_ ∧ (_ → _ ∧ _)))
  | .beaconReq => isTrue trivial

/-- What is asked of a callback that waited for the end of a transmission. -/
def WaitCareful (w : Mac) (armed : Bool) : Kind → Prop
  | .associate => armed = true
  | .data => w.scanner = none
  | .orphanResponse | .indirectData _ | .dataRequestCmd | .beaconReq => True

instance waitCarefulDecidable (w : Mac) (armed : Bool) :
    ∀ kind, Decidable (w.WaitCareful armed kind)
  | .associate | .data => inferInstanceAs (Decidable (_ = _))
  | .orphanResponse | .indirectData _ | .dataRequestCmd | .beaconReq => isTrue trivial

/-- What is asked of the callback that waits, or else of the first of the queue. -/
def LoopCareful (w : Mac) (ready armed : Bool) (found : Option PendingData) :
    Option TxCb → Prop
  | some cb => w.txCnt = true → w.WaitCareful armed cb.kind
  | none => ∀ cb ∈ w.macTxQ.head?, w.SendCareful ready armed found cb.kind

instance loopCarefulDecidable (w : Mac) (ready armed : Bool) (found : Option PendingData) :
    ∀ wait, Decidable (w.LoopCareful ready armed found wait)
  | some _ => inferInstanceAs (Decidable (_ → _))
  | none => (Option.decidableForallMem _ :
    Decidable (∀ cb ∈ w.macTxQ.head?, w.SendCareful ready armed found cb.kind))

/-- The frames of associations and orphan responses are sent well, and a data frame for a device
that polls is sent with the status its buffer has. -/
def TxCareful (w : Mac) (status : Option MacStatus) : Kind → Prop
  | .associate | .orphanResponse => status = none
  | .dataRequestCmd => w.macDataReq.any (fun entry =>
    !entry.response && entry.hdrStatus != status.getD .success) = false
  | .data | .indirectData _ | .beaconReq => True

instance txCarefulDecidable (w : Mac) (status : Option MacStatus) :
    ∀ kind, Decidable (w.TxCareful status kind)
  | .associate | .orphanResponse | .dataRequestCmd => inferInstanceAs (Decidable (_ = _))
  | .data | .indirectData _ | .beaconReq => isTrue trivial

/-- A request finds room in the queue.  An association response comes while `pending_buf` may be
written, to a device that has not joined a PRO network, and finds a slot and a timer, or no
data request is being sent.  A scan is requested while `pending_buf` may be written, and has a
known type; one that is refused for its duration has the buffer `pending_buf` has, and no data
request is being sent.  While the timer for an association response runs, no other frame comes
for this device alone; no beacon comes during an orphan scan. -/
def Careful (w : Mac) : Event → Prop
  | .request _ _ => w.macTxQ.length < macQueueSize
  | .associateResponse joinedPro armed _ => w.Free ∧ joinedPro = false ∧
    if w.pendingDataQueue.length < macPendingQueueSize then armed = true
    else w.txWaitCb.any (·.kind == .data) = false
  | .scan params valid again =>
    if valid = false ∧ params.scanType ≠ .orphan then
      (w.ask again).pendingBuf = some w.issued ∧ w.txWaitCb.any (·.kind == .data) = false
    else w.Free ∧ params.scanType ≠ .passive
  | .receive frame => (w.indirects ≠ [] → frame.direct = true → frame.response = true) ∧
    (frame = .beacon → w.scanType w.scanner ≠ some .orphan)
  | .complete status => ∀ cb ∈ w.txWaitCb, w.TxCareful status cb.kind
  | .loop ready armed found => w.LoopCareful ready armed found w.txWaitCb
  | .callback _ armed => ∀ cb ∈ w.callbacks.head?, w.CallCareful armed cb
  | .alarm alarm sent armed => alarm ∈ w.alarms → w.RingCareful sent armed alarm
  | .buffer => True

instance carefulDecidable (w : Mac) : ∀ e, Decidable (w.Careful e)
  | .request _ _ => inferInstanceAs (Decidable (_ < _))
  | .associateResponse _ armed _ => inferInstanceAs (Decidable (_ ∧ _ ∧
    if w.pendingDataQueue.length < macPendingQueueSize then armed = true else _))
  | .scan params valid _ => inferInstanceAs
    (Decidable (if valid = false ∧ params.scanType ≠ .orphan then _ ∧ _ else _ ∧ _))
  | .receive _ => inferInstanceAs (Decidable ((_ → _ → _) ∧ (_ → _)))
  | .complete status =>
    (Option.decidableForallMem _ : Decidable (∀ cb ∈ w.txWaitCb, w.TxCareful status cb.kind))
  | .loop ready armed found =>
    inferInstanceAs (Decidable (w.LoopCareful ready armed found w.txWaitCb))
  | .callback _ armed =>
    (Option.decidableForallMem _ : Decidable (∀ cb ∈ w.callbacks.head?, w.CallCareful armed cb))
  | .alarm _ _ _ => inferInstanceAs (Decidable (_ → _))
  | .buffer => isTrue trivial

end Mac

end Zboss.Management
