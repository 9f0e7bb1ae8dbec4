import Zboss.Mac.HeaderCodec

/-!
The receive path.  `zb_mac_parse_recv_data` dispatches on the type of the frame,
`zb_mlme_command_accept` on the command; each branch frees the buffer, hands it to the layer above
or schedules a callback that has it.  Between the callbacks of a frame the MAC does other work, so
each of them finds a state of its own.
-/

namespace Zboss.Receive

open Zboss.AddressTable (IeeeAddr)
open Zboss.FrameHeaders Zboss.MacHeader

/-! ## Frames -/

def fcfGetFrameType (p : Octets) : UInt8 := p 0 &&& 7

def fcfGetSecurityBit (p : Octets) : Bool := p 0 &&& 8 != 0

def fcfGetFramePendingBit (p : Octets) : Bool := p 0 &&& 0x10 != 0

def fcfGetFrameVersion (p : Octets) : UInt8 := (p 1 &&& 0x30) >>> 4

def macFrameBeacon : UInt8 := 0

def macFrameData : UInt8 := 1

def macFrameAcknowledgment : UInt8 := 2

def macFrameCommand : UInt8 := 3

def macCmdAssociationRequest : UInt8 := 1

def macCmdAssociationResponse : UInt8 := 2

def macCmdDataRequest : UInt8 := 4

def macCmdOrphanNotification : UInt8 := 6

def macCmdBeaconRequest : UInt8 := 7

def macCmdCoordinatorRealignment : UInt8 := 8

def macFrameIeee802154 : UInt8 := 1

def orphanScan : UInt8 := 3

def macInvalidParameter : UInt8 := 0xe8

/-- The header of a frame. -/
def header (p : Octets) : Mhr := (MacHeader.parseMhr p).1

/-- Where the header ends. -/
def headerEnd (p : Octets) : ℕ := (MacHeader.parseMhr p).2

/-- The octet behind the header. -/
def commandId (p : Octets) : UInt8 := p (headerEnd p)

/-! ## The state -/

/-- A coordinator or router, or an end device: what is compiled in. -/
inductive Role
  | router
  | endDevice
  deriving DecidableEq, Repr

/-- A primitive of the layer above, with its parameters. -/
inductive Primitive
  | mcpsDataIndication
  | mcpsDataConfirm
  | beaconNotifyIndication
  | associateIndication (deviceAddress : IeeeAddr) (capability : UInt8)
  | associateConfirm (parentAddress : IeeeAddr) (assocShortAddress : UInt16) (status : UInt8)
  | orphanIndication (orphanAddr : IeeeAddr)
  | commStatusIndication (status : UInt8)
  | pollConfirm (status : UInt8)
  deriving DecidableEq, Repr

/-- What is done with a buffer. -/
inductive Disposal
  | freed
  | handed (primitive : Primitive)
  deriving DecidableEq, Repr

inductive CallbackType
  | macAssConfirmCallback
  | macPollRequestCallback
  deriving DecidableEq, Repr

/-- An entry of `pending_data_queue` that is used: the buffer of the frame, its destination and its
octets. -/
structure PendingData where
  pendingData : ℕ
  dstAddrMode : UInt8
  dstAddr : AddrU
  octets : Octets

/-- `mac_storage.mac_data_req`: the slot that is sent, and its frame. -/
structure MacDataReq where
  dataFoundIndex : ℕ
  octets : Octets

/-- The frame is an association response. -/
def MacDataReq.isResponse (req : MacDataReq) : Bool :=
  fcfGetFrameType req.octets == macFrameCommand &&
    commandId req.octets == macCmdAssociationResponse

/-- A callback that has the buffer of the frame. -/
inductive Callback
  | handleDataFrame
  | commandAccept
  | acceptAssRequestCmd
  | acceptDataRequestCmd
  | handleDataRequestCmdContinue (req : MacDataReq)

/-- What the receive path uses of `MAC_CTX()`, `MAC_PIB()` and the scheduler.  `cbRoom` and
`txRoom` are the free entries of the two queues, `scanType` is read from `pending_buf`, `bufRef` is
`rt_ctx.indirect_data.buf_ref`, and `txOk` says what `zb_check_cmd_tx_status` finds.  Then the
callbacks that have the buffer of the frame, and what has been done with buffers. -/
structure Mac where
  macShortAddress : UInt16
  macExtendedAddress : IeeeAddr
  macPanId : UInt16
  macCoordShortAddress : UInt16
  phyCurrentChannel : UInt8
  rxOnWhenIdle : Bool
  joinedPro : Bool
  mlmeScanInProgress : Bool
  scanType : UInt8
  beaconFound : Bool
  gotRealignment : Bool
  ackDsn : UInt8
  ackOk : Bool
  pendingDataFlag : Bool
  assRequest : Bool
  indirectDataRequest : Bool
  pollRequest : Bool
  macStatus : UInt8
  bufRef : ℕ
  indirectDataAlarms : List CallbackType
  ackAlarms : ℕ
  txOk : Bool
  pendingBuf : Option ℕ
  pendingDataQueue : List (Option PendingData)
  cbRoom : ℕ
  txRoom : ℕ
  waiting : List Callback
  disposed : List (ℕ × Disposal)

namespace Mac

variable (w : Mac) (p : Octets) (buf : ℕ)

def freeBuf : Mac := { w with disposed := w.disposed ++ [(buf, .freed)] }

/-- `ZB_SCHEDULE_CALLBACK` of a function of the MAC, with the buffer of the frame; nobody looks at
the status. -/
def scheduleCallback (cb : Callback) : Mac :=
  if w.cbRoom = 0 then w else { w with cbRoom := w.cbRoom - 1, waiting := w.waiting ++ [cb] }

/-- `ZB_SCHEDULE_CALLBACK` of a primitive of the layer above. -/
def handUp (primitive : Primitive) : Mac :=
  if w.cbRoom = 0 then w
  else { w with cbRoom := w.cbRoom - 1, disposed := w.disposed ++ [(buf, .handed primitive)] }

/-- `ZB_SCHEDULE_TX_CB` with the buffer of the frame. -/
def scheduleTxCb (cb : Callback) : Mac :=
  if w.txRoom = 0 then w else { w with txRoom := w.txRoom - 1, waiting := w.waiting ++ [cb] }

def canAcceptFrame (mhr : Mhr) : Bool :=
  if !w.rxOnWhenIdle && mhr.dstAddr.addrShort == 0xffff then false
  else !(fcfGetSecurityBit mhr.fcf && decide (fcfGetFrameVersion mhr.fcf < macFrameIeee802154))

def checkFrameDstAddr (mhr : Mhr) : Bool :=
  if mhr.dstMode = zbAddr16bitDevOrBroadcast then mhr.dstAddr.addrShort == w.macShortAddress
  else mhr.dstAddr.addrLong == w.macExtendedAddress

/-- An indirect frame for this device is there: a data frame completes the poll. -/
def receiveIndirect : Mac :=
  let w := { w with
    indirectDataAlarms := w.indirectDataAlarms.tail
    indirectDataRequest := false
    pendingDataFlag := w.pendingDataFlag || fcfGetFramePendingBit p }
  if w.pollRequest ∧ fcfGetFrameType p = macFrameData ∧ w.bufRef ≠ 0 then
    { w with pollRequest := false }.handUp w.bufRef (.pollConfirm w.macStatus)
  else w

def mlmeAckAccept : Mac :=
  let mhr := header p
  let w :=
    if w.ackDsn = mhr.seqNumber then
      { w with
        ackOk := true
        pendingDataFlag := fcfGetFramePendingBit mhr.fcf
        ackAlarms := w.ackAlarms - 1 }
    else w
  w.freeBuf buf

/-- `zb_mac_parse_recv_data`; in the simulator an acknowledgement is taken at once. -/
def macParseRecvData : Mac :=
  let mhr := header p
  if w.canAcceptFrame mhr then
    let w := if w.indirectDataRequest && w.checkFrameDstAddr mhr then w.receiveIndirect p else w
    let type := fcfGetFrameType p
    if type = macFrameData then w.scheduleCallback .handleDataFrame
    else if type = macFrameBeacon then
      let w := w.handUp buf .beaconNotifyIndication
      { w with beaconFound := w.beaconFound || w.mlmeScanInProgress }
    else if type = macFrameAcknowledgment then w.mlmeAckAccept p buf
    else if type = macFrameCommand then w.scheduleCallback .commandAccept
    else w
  else w.freeBuf buf

/-- The association response of `zb_mlme_command_accept`. -/
def acceptAssociationResponse : Mac :=
  let mhr := header p
  let parentAddress := if mhr.srcMode = zbAddr64bitDev then mhr.srcAddr.addrLong else .zero
  if w.assRequest then
    let assocShortAddress := p.le16 (headerEnd p + 1)
    let w := { w with macShortAddress := assocShortAddress }
    let w := w.handUp buf
      (.associateConfirm parentAddress assocShortAddress (p (headerEnd p + 3)))
    { w with assRequest := false }
  else w.freeBuf buf

/-- The coordinator realignment of `zb_mlme_command_accept`: the buffer stays where it is. -/
def acceptCoordinatorRealignment : Mac :=
  if w.mlmeScanInProgress ∧ w.scanType = orphanScan then
    { w with
      gotRealignment := true
      macPanId := p.le16 (headerEnd p + 1)
      macCoordShortAddress := p.le16 (headerEnd p + 3)
      phyCurrentChannel := p (headerEnd p + 5)
      macShortAddress := p.le16 (headerEnd p + 6) }
  else w

def mlmeCommandAccept (role : Role) : Mac :=
  let mhr := header p
  let command := commandId p
  if role = .router ∧ command = macCmdBeaconRequest ∧ w.joinedPro = false then w.freeBuf buf
  else if role = .router ∧ command = macCmdAssociationRequest then
    w.scheduleCallback .acceptAssRequestCmd
  else if command = macCmdAssociationResponse then w.acceptAssociationResponse p buf
  else if command = macCmdDataRequest then
    if role = .router then w.scheduleTxCb .acceptDataRequestCmd else w
  else if command = macCmdCoordinatorRealignment then w.acceptCoordinatorRealignment p
  else if command = macCmdOrphanNotification then
    if mhr.srcMode = zbAddr64bitDev then w.handUp buf (.orphanIndication mhr.srcAddr.addrLong)
    else w
  else w

def handleDataFrame : Mac := { w with pendingBuf := some buf }.handUp buf .mcpsDataIndication

def acceptAssRequestCmd : Mac :=
  { w with pendingBuf := some buf }.handUp buf
    (.associateIndication (header p).srcAddr.addrLong (p (headerEnd p + 1)))

/-- A slot has a frame for the device that sent the request. -/
def isFor (mhr : Mhr) (slot : Option PendingData) : Bool :=
  match slot with
  | none => false
  | some pend =>
    mhr.srcMode == pend.dstAddrMode &&
      if mhr.srcMode = zbAddr64bitDev then pend.dstAddr.addrLong == mhr.srcAddr.addrLong
      else mhr.srcMode == zbAddr16bitDevOrBroadcast &&
        mhr.srcAddr.addrShort == pend.dstAddr.addrShort

/-- `check_pending_data` from the first slot on, with the frame it finds. -/
def checkPendingData (mhr : Mhr) : Option MacDataReq := do
  let i ← w.pendingDataQueue.findIdx? (isFor mhr)
  let pend ← w.pendingDataQueue.getD i none
  return ⟨i, pend.octets⟩

/-- `zb_accept_data_request_cmd` and `zb_handle_data_request_cmd`: a frame that is found is sent,
and the rest is done when the transmission is over. -/
def acceptDataRequestCmd : Mac :=
  let w := { w with pendingBuf := some buf, macStatus := 0 }
  match w.checkPendingData (header p) with
  | some req => { w with waiting := w.waiting ++ [.handleDataRequestCmdContinue req] }
  | none => { w.freeBuf buf with pendingBuf := none }

/-- `zb_mac_send_comm_status` and what follows it: the buffer goes up with the status. -/
def sendCommStatus : Mac :=
  let status := if w.txOk then 0 else if w.macStatus ≠ 0 then w.macStatus else macInvalidParameter
  let w := match w.pendingBuf with
    | some buf => w.handUp buf (.commStatusIndication status)
    | none => w
  { w with pendingBuf := none }

/-- The slot of a frame that was sent is cleared. -/
def clearSlot (req : MacDataReq) : Mac :=
  let w := match w.pendingDataQueue.getD req.dataFoundIndex none with
    | some pend =>
      if fcfGetFrameType req.octets = macFrameCommand then w.freeBuf pend.pendingData
      else w.handUp pend.pendingData .mcpsDataConfirm
    | none => w
  { w with pendingDataQueue := w.pendingDataQueue.set req.dataFoundIndex none }

def handleDataRequestCmdContinue (req : MacDataReq) : Mac :=
  let w := if req.isResponse then w.sendCommStatus else w
  let w := w.clearSlot req
  match w.pendingBuf with
  | some buf => { w.freeBuf buf with pendingBuf := none }
  | none => w

/-- A callback is run. -/
def run (role : Role) : Callback → Mac
  | .handleDataFrame => w.handleDataFrame buf
  | .commandAccept => w.mlmeCommandAccept p buf role
  | .acceptAssRequestCmd => w.acceptAssRequestCmd p buf
  | .acceptDataRequestCmd => w.acceptDataRequestCmd p buf
  | .handleDataRequestCmdContinue req => w.handleDataRequestCmdContinue req

/-- The first callback of the frame is run, in the state `m` that it finds. -/
def turn (role : Role) (m : Mac) : Mac :=
  match w.waiting with
  | [] => w
  | cb :: rest => { m with waiting := rest, disposed := w.disposed }.run p buf role cb

end Mac

/-! ## Runs -/

section
variable (role : Role) (p : Octets) (buf : ℕ)

/-- After `k` callbacks, which find the states `env`. -/
def after (w : Mac) (env : ℕ → Mac) : ℕ → Mac
  | 0 => w
  | k + 1 => after (w.turn p buf role (env 0)) (fun n => env (n + 1)) k

/-- How often the buffer has been freed or handed up. -/
def given (disposed : List (ℕ × Disposal)) : ℕ := (disposed.map Prod.fst).count buf

/-- When all callbacks of the frame have run, its buffer has been freed or handed up once. -/
def DisposedOnce (w : Mac) (env : ℕ → Mac) : Prop :=
  ∃ k, (after role p buf w env k).waiting = [] ∧
    given buf (after role p buf w env k).disposed = 1

/-- A frame is received in a state. -/
def received (w : Mac) : Mac := { w with waiting := [], disposed := [] }.macParseRecvData p buf

/-! ## The condition -/

/-- The frame completes a poll, in another buffer. -/
def Mac.CompletesPoll (w : Mac) : Prop :=
  w.indirectDataRequest = true ∧ w.checkFrameDstAddr (header p) = true ∧ w.pollRequest = true ∧
    w.bufRef ≠ 0

instance (w : Mac) : Decidable (w.CompletesPoll p) := inferInstanceAs (Decidable (_ ∧ _))

/-- A command with a handler, and room for the callbacks it leads to.  The state is that of
`zb_mlme_command_accept`, then those of the callbacks after it. -/
def RegularCommand (w : Mac) (env : ℕ → Mac) : Prop :=
  let command := commandId p
  if role = .router ∧ command = macCmdBeaconRequest ∧ w.joinedPro = false then True
  else if role = .router ∧ command = macCmdAssociationRequest then
    0 < w.cbRoom ∧ 0 < (env 0).cbRoom
  else if command = macCmdAssociationResponse then w.assRequest = true → 0 < w.cbRoom
  else if command = macCmdDataRequest then
    role = .router ∧ 0 < w.txRoom ∧
      ∀ req, (env 0).checkPendingData (header p) = some req →
        (env 1).pendingBuf = some buf ∧ (req.isResponse = true → 0 < (env 1).cbRoom)
  else if command = macCmdOrphanNotification then
    (header p).srcMode = zbAddr64bitDev ∧ 0 < w.cbRoom
  else False

/-- A frame with a handler, and room for the callbacks it leads to. -/
def Regular (w : Mac) (env : ℕ → Mac) : Prop :=
  let type := fcfGetFrameType p
  if w.canAcceptFrame (header p) = false then True
  else if type = macFrameData then
    (if w.CompletesPoll p then 1 else 0) < w.cbRoom ∧ 0 < (env 0).cbRoom
  else if type = macFrameBeacon then 0 < w.cbRoom
  else if type = macFrameAcknowledgment then True
  else if type = macFrameCommand then
    0 < w.cbRoom ∧ RegularCommand role p buf (env 0) fun n => env (n + 1)
  else False

/-- The buffer is neither that of a poll nor that of a frame in the queue. -/
structure Unheld (w : Mac) : Prop where
  poll : w.bufRef ≠ buf
  pending : ∀ i pend, w.pendingDataQueue.getD i none = some pend → pend.pendingData ≠ buf

end

/-! ## Steps -/

section
variable {role : Role} {p : Octets} {buf : ℕ} {w w' : Mac} {env : ℕ → Mac} {cb : Callback}

theorem after_done (done : w.waiting = []) (k : ℕ) : after role p buf w env k = w := by
  induction k generalizing env with
  | zero => rfl
  | succ k induction_ =>
    have same : w.turn p buf role (env 0) = w := by rw [Mac.turn, done]
    rw [after, same, induction_]

/-- All callbacks have run. -/
theorem once_done (done : w.waiting = []) :
    DisposedOnce role p buf w env ↔ given buf w.disposed = 1 := by
  constructor
  · rintro ⟨k, -, once⟩
    rwa [after_done done] at once
  · exact fun once => ⟨0, done, once⟩

/-- The state of a callback of the frame: the MAC has done other work before. -/
def Mac.enter (m w : Mac) : Mac := { m with waiting := [], disposed := w.disposed }

theorem once_waits (waits : w.waiting = [cb]) : DisposedOnce role p buf w env ↔
    DisposedOnce role p buf (((env 0).enter w).run p buf role cb) fun n => env (n + 1) := by
  have step : w.turn p buf role (env 0) = ((env 0).enter w).run p buf role cb := by
    rw [Mac.turn, waits]
    rfl
  rw [← step]
  constructor
  · rintro ⟨k, done, once⟩
    cases k with
    | zero =>
      rw [after, waits] at done
      cases done
    | succ k => exact ⟨k, done, once⟩
  · rintro ⟨k, done, once⟩
    exact ⟨k + 1, done, once⟩

theorem given_append (disposed : List (ℕ × Disposal)) (b : ℕ) (d : Disposal) :
    given buf (disposed ++ [(b, d)]) = given buf disposed + if b = buf then 1 else 0 := by
  rw [given, List.map_append, List.count_append]
  exact congrArg (given buf disposed + ·) (by simp [List.count_singleton])

@[simp] theorem freeBuf_given (w : Mac) (b : ℕ) : given buf (w.freeBuf b).disposed =
    given buf w.disposed + if b = buf then 1 else 0 := given_append _ _ _

@[simp] theorem handUp_waiting (w : Mac) (b : ℕ) (primitive : Primitive) :
    (w.handUp b primitive).waiting = w.waiting := by
  rw [Mac.handUp]
  split <;> rfl

@[simp] theorem handUp_pendingBuf (w : Mac) (b : ℕ) (primitive : Primitive) :
    (w.handUp b primitive).pendingBuf = w.pendingBuf := by
  rw [Mac.handUp]
  split <;> rfl

@[simp] theorem handUp_given (w : Mac) (b : ℕ) (primitive : Primitive) :
    given buf (w.handUp b primitive).disposed =
      given buf w.disposed + if 0 < w.cbRoom ∧ b = buf then 1 else 0 := by
  rw [Mac.handUp]
  by_cases full : w.cbRoom = 0
  · simp [full]
  · rw [if_neg full, given_append]
    simp [Nat.pos_of_ne_zero full]

/-- Nothing has been done with the buffer, and no callback has it. -/
structure Fresh (buf : ℕ) (w : Mac) : Prop where
  waiting : w.waiting = []
  given : given buf w.disposed = 0

/-- A buffer that is dropped. -/
theorem Fresh.lost (fresh : Fresh buf w) : ¬ DisposedOnce role p buf w env := by
  rw [once_done fresh.waiting, fresh.given]
  exact Nat.zero_ne_one

theorem Fresh.freeBuf (fresh : Fresh buf w) : DisposedOnce role p buf (w.freeBuf buf) env := by
  rw [once_done]
  · rw [freeBuf_given, fresh.given, if_pos rfl]
  · exact fresh.waiting

theorem Fresh.handUp (fresh : Fresh buf w) (primitive : Primitive) :
    DisposedOnce role p buf (w.handUp buf primitive) env ↔ 0 < w.cbRoom := by
  rw [once_done ((handUp_waiting _ _ _).trans fresh.waiting), handUp_given, fresh.given]
  simp

theorem Fresh.scheduleCallback (fresh : Fresh buf w) :
    DisposedOnce role p buf (w.scheduleCallback cb) env ↔ 0 < w.cbRoom ∧
      DisposedOnce role p buf (((env 0).enter w).run p buf role cb) fun n => env (n + 1) := by
  rw [Mac.scheduleCallback]
  split
  case isTrue full =>
    exact iff_of_false fresh.lost fun later => Nat.not_lt.mpr (Nat.le_of_eq full) later.1
  case isFalse room =>
    rw [and_iff_right (Nat.pos_of_ne_zero room), once_waits (congrArg (· ++ [cb]) fresh.waiting)]
    rfl

theorem Fresh.scheduleTxCb (fresh : Fresh buf w) :
    DisposedOnce role p buf (w.scheduleTxCb cb) env ↔ 0 < w.txRoom ∧
      DisposedOnce role p buf (((env 0).enter w).run p buf role cb) fun n => env (n + 1) := by
  rw [Mac.scheduleTxCb]
  split
  case isTrue full =>
    exact iff_of_false fresh.lost fun later => Nat.not_lt.mpr (Nat.le_of_eq full) later.1
  case isFalse room =>
    rw [and_iff_right (Nat.pos_of_ne_zero room), once_waits (congrArg (· ++ [cb]) fresh.waiting)]
    rfl

/-! ## Handlers -/

theorem Fresh.handleDataFrame (fresh : Fresh buf w) :
    DisposedOnce role p buf (w.handleDataFrame buf) env ↔ 0 < w.cbRoom := by
  have entered : Fresh buf { w with pendingBuf := some buf } := ⟨fresh.waiting, fresh.given⟩
  exact entered.handUp _

theorem Fresh.acceptAssRequestCmd (fresh : Fresh buf w) :
    DisposedOnce role p buf (w.acceptAssRequestCmd p buf) env ↔ 0 < w.cbRoom := by
  have entered : Fresh buf { w with pendingBuf := some buf } := ⟨fresh.waiting, fresh.given⟩
  exact entered.handUp _

theorem Fresh.acceptAssociationResponse (fresh : Fresh buf w) :
    DisposedOnce role p buf (w.acceptAssociationResponse p buf) env ↔
      (w.assRequest = true → 0 < w.cbRoom) := by
  rw [Mac.acceptAssociationResponse]
  dsimp only
  split
  case isTrue asked =>
    rw [once_done, forall_prop_of_true asked]
    · dsimp only
      rw [handUp_given, fresh.given]
      simp
    · exact (handUp_waiting _ _ _).trans fresh.waiting
  case isFalse unasked =>
    exact iff_of_true fresh.freeBuf fun asked => absurd asked unasked

theorem Fresh.acceptCoordinatorRealignment (fresh : Fresh buf w) :
    ¬ DisposedOnce role p buf (w.acceptCoordinatorRealignment p) env := by
  rw [Mac.acceptCoordinatorRealignment]
  split
  · exact Fresh.lost ⟨fresh.waiting, fresh.given⟩
  · exact fresh.lost

theorem clearSlot_spec (unheld : Unheld buf w) (req : MacDataReq) :
    (w.clearSlot req).waiting = w.waiting ∧
      given buf (w.clearSlot req).disposed = given buf w.disposed ∧
      (w.clearSlot req).pendingBuf = w.pendingBuf := by
  rw [Mac.clearSlot]
  dsimp only
  split
  case h_1 pend found =>
    have different := unheld.pending _ _ found
    split
    · refine ⟨rfl, ?_, rfl⟩
      rw [freeBuf_given, if_neg different]
      rfl
    · refine ⟨handUp_waiting _ _ _, ?_, handUp_pendingBuf _ _ _⟩
      rw [handUp_given, if_neg fun same => different same.2]
      rfl
  case h_2 => exact ⟨rfl, rfl, rfl⟩

/-- The buffer goes up where `pending_buf` has it. -/
theorem sendCommStatus_spec (unheld : Unheld buf w) :
    w.sendCommStatus.waiting = w.waiting ∧
      given buf w.sendCommStatus.disposed =
        given buf w.disposed + (if w.pendingBuf = some buf ∧ 0 < w.cbRoom then 1 else 0) ∧
      w.sendCommStatus.pendingBuf = none ∧ Unheld buf w.sendCommStatus := by
  rw [Mac.sendCommStatus]
  dsimp only
  cases held : w.pendingBuf with
  | none => exact ⟨rfl, by simp, rfl, unheld.poll, unheld.pending⟩
  | some b =>
    dsimp only
    refine ⟨handUp_waiting _ _ _, ?_, rfl, ?_⟩
    · rw [handUp_given]
      simp [and_comm]
    · rw [Mac.handUp]
      split
      · exact ⟨unheld.poll, unheld.pending⟩
      · exact ⟨unheld.poll, unheld.pending⟩

/-- The end of an answer: it is right where `pending_buf` still has the buffer. -/
theorem Fresh.handleDataRequestCmdContinue (fresh : Fresh buf w) (unheld : Unheld buf w)
    (req : MacDataReq) :
    DisposedOnce role p buf (w.handleDataRequestCmdContinue req) env ↔
      w.pendingBuf = some buf ∧ (req.isResponse = true → 0 < w.cbRoom) := by
  rw [Mac.handleDataRequestCmdContinue]
  dsimp only
  cases response : req.isResponse with
  | false =>
    obtain ⟨waiting, same, pendingBuf⟩ := clearSlot_spec unheld req
    rw [if_neg Bool.false_ne_true, pendingBuf]
    cases held : w.pendingBuf with
    | none =>
      dsimp only
      rw [once_done (waiting.trans fresh.waiting), same, fresh.given]
      simp
    | some b =>
      dsimp only
      rw [once_done]
      · dsimp only
        rw [freeBuf_given, same, fresh.given]
        simp
      · exact waiting.trans fresh.waiting
  | true =>
    obtain ⟨waiting, sent, none_, unheld'⟩ := sendCommStatus_spec unheld
    obtain ⟨waiting', same, pendingBuf⟩ := clearSlot_spec unheld' req
    rw [if_pos rfl, pendingBuf, none_]
    dsimp only
    rw [once_done (waiting'.trans (waiting.trans fresh.waiting)), same, sent, fresh.given]
    simp

theorem Fresh.acceptDataRequestCmd (fresh : Fresh buf w) (unheld : Unheld buf (env 0)) :
    DisposedOnce role p buf (w.acceptDataRequestCmd p buf) env ↔
      ∀ req, w.checkPendingData (header p) = some req →
        (env 0).pendingBuf = some buf ∧ (req.isResponse = true → 0 < (env 0).cbRoom) := by
  have found : { w with pendingBuf := some buf, macStatus := 0 }.checkPendingData (header p) =
    w.checkPendingData (header p) := rfl
  rw [Mac.acceptDataRequestCmd]
  dsimp only
  rw [found]
  cases pend : w.checkPendingData (header p) with
  | none =>
    refine iff_of_true ?_ nofun
    dsimp only
    rw [once_done]
    · dsimp only
      rw [freeBuf_given, fresh.given, if_pos rfl]
    · exact fresh.waiting
  | some req =>
    have waits : w.waiting ++ [Callback.handleDataRequestCmdContinue req] = [_] :=
      congrArg (· ++ [Callback.handleDataRequestCmdContinue req]) fresh.waiting
    have continued : Fresh buf ((env 0).enter w) := ⟨rfl, fresh.given⟩
    have held : Unheld buf ((env 0).enter w) := ⟨unheld.poll, unheld.pending⟩
    dsimp only
    rw [once_waits waits]
    refine (continued.handleDataRequestCmdContinue held req).trans ?_
    constructor
    · rintro right _ ⟨⟩
      exact right
    · exact fun right => right req rfl

theorem Fresh.enter (fresh : Fresh buf w) (m : Mac) : Fresh buf (m.enter w) := ⟨rfl, fresh.given⟩

theorem Fresh.mlmeCommandAccept (fresh : Fresh buf w) (unheld : ∀ k, Unheld buf (env k)) :
    DisposedOnce role p buf (w.mlmeCommandAccept p buf role) env ↔
      RegularCommand role p buf w env := by
  rw [Mac.mlmeCommandAccept, RegularCommand]
  split
  case isTrue => exact iff_true_intro fresh.freeBuf
  split
  case isTrue =>
    rw [fresh.scheduleCallback]
    exact and_congr_right fun _ => (fresh.enter (env 0)).acceptAssRequestCmd
  split
  case isTrue => exact fresh.acceptAssociationResponse
  split
  case isTrue =>
    split
    case isTrue router =>
      rw [fresh.scheduleTxCb, and_iff_right router]
      exact and_congr_right fun _ => (fresh.enter (env 0)).acceptDataRequestCmd (unheld 1)
    case isFalse other => exact iff_of_false fresh.lost fun right => other right.1
  split
  case isTrue realignment =>
    -- realignment is none of the commands after it
    rw [if_neg (by rw [realignment]; decide)]
    exact iff_of_false fresh.acceptCoordinatorRealignment not_false
  split
  case isTrue =>
    split
    case isTrue long => rw [fresh.handUp, and_iff_right long]
    case isFalse other => exact iff_of_false fresh.lost fun right => other right.1
  case isFalse => exact iff_of_false fresh.lost not_false

theorem Fresh.mlmeAckAccept (fresh : Fresh buf w) :
    DisposedOnce role p buf (w.mlmeAckAccept p buf) env := by
  rw [Mac.mlmeAckAccept]
  split
  · exact Fresh.freeBuf ⟨fresh.waiting, fresh.given⟩
  · exact fresh.freeBuf

/-- The confirm of a poll takes a callback and nothing else. -/
theorem receiveIndirect_spec (fresh : Fresh buf w) (unheld : Unheld buf w) :
    Fresh buf (w.receiveIndirect p) ∧ (w.receiveIndirect p).cbRoom = w.cbRoom -
      if w.pollRequest = true ∧ fcfGetFrameType p = macFrameData ∧ w.bufRef ≠ 0 then 1 else 0 := by
  rw [Mac.receiveIndirect]
  dsimp only
  split
  case isTrue =>
    refine ⟨⟨(handUp_waiting _ _ _).trans fresh.waiting, ?_⟩, ?_⟩
    · rw [handUp_given, if_neg fun same => unheld.poll same.2]
      exact fresh.given
    · rw [Mac.handUp]
      split
      case isTrue full =>
        dsimp only at full ⊢
        rw [full]
      case isFalse => rfl
  case isFalse => exact ⟨⟨fresh.waiting, fresh.given⟩, rfl⟩

theorem indirect_spec (fresh : Fresh buf w) (unheld : Unheld buf w) :
    ∃ v, v = (if w.indirectDataRequest && w.checkFrameDstAddr (header p) then w.receiveIndirect p
        else w) ∧ Fresh buf v ∧ v.cbRoom = w.cbRoom -
      if w.CompletesPoll p ∧ fcfGetFrameType p = macFrameData then 1 else 0 := by
  refine ⟨_, rfl, ?_⟩
  split
  case isTrue forUs =>
    rw [Bool.and_eq_true] at forUs
    obtain ⟨fresh', room⟩ := receiveIndirect_spec (p := p) fresh unheld
    refine ⟨fresh', room.trans ?_⟩
    congr 2
    simp only [Mac.CompletesPoll, forUs, true_and, eq_iff_iff]
    exact ⟨fun ⟨poll, type, ref⟩ => ⟨⟨poll, ref⟩, type⟩,
      fun ⟨⟨poll, ref⟩, type⟩ => ⟨poll, type, ref⟩⟩
  case isFalse other =>
    refine ⟨fresh, ?_⟩
    rw [if_neg]
    · rfl
    · rintro ⟨⟨request, dst, -⟩, -⟩
      exact other (by rw [request, dst]; rfl)

/-- A received frame is freed or handed up once exactly when it has a handler and there is room for
the callbacks it leads to. -/
theorem received_once_iff (unheld : Unheld buf w) (unheld' : ∀ k, Unheld buf (env k)) :
    DisposedOnce role p buf (received p buf w) env ↔ Regular role p buf w env := by
  have fresh : Fresh buf { w with waiting := [], disposed := [] } := ⟨rfl, rfl⟩
  have accepts : { w with waiting := [], disposed := [] }.canAcceptFrame (header p) =
    w.canAcceptFrame (header p) := rfl
  obtain ⟨v, is, fresh', room⟩ := indirect_spec (p := p) fresh ⟨unheld.poll, unheld.pending⟩
  rw [received, Mac.macParseRecvData, Regular, accepts]
  dsimp only at is ⊢
  rw [← is]
  cases accepted : w.canAcceptFrame (header p) with
  | false => exact iff_true_intro fresh.freeBuf
  | true =>
    have accepted_ : ¬ true = false := by decide
    rw [if_pos rfl, if_neg accepted_]
    by_cases data : fcfGetFrameType p = macFrameData
    · rw [if_pos data, if_pos data, fresh'.scheduleCallback, room]
      refine and_congr ?_ (fresh'.enter (env 0)).handleDataFrame
      have completes : { w with waiting := [], disposed := [] }.CompletesPoll p ↔
        w.CompletesPoll p := Iff.rfl
      simp only [completes, data, and_true]
      exact Nat.sub_pos_iff_lt
    rw [if_neg data, if_neg data]
    rw [if_neg fun completes => data completes.2] at room
    split
    case isTrue =>
      rw [once_done]
      · dsimp only
        rw [handUp_given, fresh'.given, room]
        simp
      · exact (handUp_waiting _ _ _).trans fresh'.waiting
    split
    case isTrue => exact iff_true_intro fresh'.mlmeAckAccept
    split
    case isTrue =>
      rw [fresh'.scheduleCallback, room]
      exact and_congr_right fun _ =>
        (fresh'.enter (env 0)).mlmeCommandAccept fun k => unheld' (k + 1)
    case isFalse => exact iff_of_false fresh'.lost not_false

/-- A device with free queues and nothing under way. -/
def quietMac : Mac where
  macShortAddress := 0x1234
  macExtendedAddress := .zero
  macPanId := 0x1aaa
  macCoordShortAddress := 0
  phyCurrentChannel := 11
  rxOnWhenIdle := true
  joinedPro := false
  mlmeScanInProgress := false
  scanType := 0
  beaconFound := false
  gotRealignment := false
  ackDsn := 0
  ackOk := false
  pendingDataFlag := false
  assRequest := false
  indirectDataRequest := false
  pollRequest := false
  macStatus := 0
  bufRef := 0
  indirectDataAlarms := []
  ackAlarms := 0
  txOk := true
  pendingBuf := none
  pendingDataQueue := []
  cbRoom := 16
  txRoom := 4
  waiting := []
  disposed := []

theorem unheld_quietMac : Unheld 5 quietMac := ⟨by decide, nofun⟩

/-- A data frame from 0x0000 to 0x1234 on 0x1aaa. -/
def dataFrame : Octets := Octets.ofList [0x41, 0x88, 7, 0xaa, 0x1a, 0x34, 0x12, 0, 0]

/-- A data frame is handed up. -/
theorem received_once_data :
    DisposedOnce .endDevice dataFrame 5 (received dataFrame 5 quietMac) fun _ => quietMac := by
  refine (received_once_iff unheld_quietMac fun _ => unheld_quietMac).mpr ?_
  have accepted : ¬ quietMac.canAcceptFrame (header dataFrame) = false := by decide +kernel
  have data : fcfGetFrameType dataFrame = macFrameData := by decide +kernel
  rw [Regular, if_neg accepted, if_pos data]
  decide +kernel

/-- A frame of a reserved type keeps its buffer for ever. -/
theorem received_lost_reserved : ¬ DisposedOnce .router (Octets.ofList [4, 0, 7]) 5
    (received (Octets.ofList [4, 0, 7]) 5 quietMac) fun _ => quietMac := by
  have done : (received (Octets.ofList [4, 0, 7]) 5 quietMac).waiting.isEmpty = true := by
    decide +kernel
  rw [once_done (List.isEmpty_iff.mp done)]
  decide +kernel

end

end Zboss.Receive
