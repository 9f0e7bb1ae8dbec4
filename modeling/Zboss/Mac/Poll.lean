import Zboss.Mac.Receive

/-!
The polls of an end device.  A poll asks the parent for data, and waits for the answer with a flag,
an alarm and the reference of its buffer; the receive path completes it when a data frame comes.
Polls are numbered, and the number is also that of the buffer.
-/

namespace Zboss.Poll

open Zboss.FrameHeaders Zboss.MacHeader Zboss.Receive Zboss.Run

def macNoData : UInt8 := 0xeb

/-! ## The device -/

/-- The MAC, `MAC_PIB().mac_dsn`, what is kept in `rt_ctx.indirect_data` for
`indirect_data_callback_caller`, and how many buffers have been asked for for it.  Then the number
of polls that have been handled, and the polls whose request the frame heard acknowledges. -/
structure Device where
  mac : Mac
  macDsn : UInt8
  cbType : CallbackType
  cbStatus : UInt8
  callers : ℕ
  polls : ℕ
  acked : List ℕ

/-- A device that has not polled yet. -/
def Device.init (mac : Mac) : Device where
  mac := { mac with
    indirectDataRequest := false
    pollRequest := false
    bufRef := 0
    indirectDataAlarms := []
    disposed := [] }
  macDsn := 0
  cbType := .macPollRequestCallback
  cbStatus := 0
  callers := 0
  polls := 0
  acked := []

def callIndirectDataCallback (w : Mac) (cbType : CallbackType) (cbStatus : UInt8) (buf : ℕ) : Mac :=
  match cbType with
  | .macAssConfirmCallback =>
    { w with assRequest := false }.handUp buf (.associateConfirm .zero 0 cbStatus)
  | .macPollRequestCallback =>
    { w with pollRequest := false }.handUp buf (.pollConfirm cbStatus)

namespace Device

variable (d : Device)

/-- `zb_mac_check_ack`: the flags have just been cleared, so it takes one frame, if there is one
and a buffer for it, and does not wait. -/
def macCheckAck (heard : Option (Octets × ℕ)) : Device :=
  let mac := { d.mac with ackOk := false, ackAlarms := 1 }
  match heard with
  | some (p, buf) => { d with mac := mac.macParseRecvData p buf }
  | none => { d with mac }

/-- What `zb_mac_get_indirect_data` does when it has looked for the acknowledgement; the result says
whether data is awaited, `armed` whether there is an alarm left. -/
def awaitIndirectData (cbType : CallbackType) (armed : Bool) : Device × Bool :=
  if d.mac.ackOk then
    if d.mac.pendingDataFlag then
      let alarms := d.mac.indirectDataAlarms
      ({ d with mac := { d.mac with
        indirectDataRequest := true
        bufRef := 0
        indirectDataAlarms := if armed then alarms ++ [cbType] else alarms } }, true)
    else ({ d with mac := { d.mac with macStatus := macNoData } }, false)
  else (d, false)

def macGetIndirectData (cbType : CallbackType) (heard : Option (Octets × ℕ)) (armed : Bool) :
    Device × Bool :=
  let d := { d with
    macDsn := d.macDsn + 1
    mac := { d.mac with indirectDataRequest := true, ackDsn := d.macDsn } }
  (d.macCheckAck heard).awaitIndirectData cbType armed

/-- The end of `zb_handle_poll_request`: the poll in the last buffer waits, or is confirmed. -/
def pollRequested (awaited : Bool) : Device :=
  let buf := d.polls
  let mac :=
    if awaited then { d.mac with pollRequest := true, bufRef := buf }
    else
      let status := if d.mac.macStatus = 0 then macInvalidParameter else d.mac.macStatus
      d.mac.handUp buf (.pollConfirm status)
  { d with mac := { mac with pendingBuf := none } }

/-- `zb_handle_poll_request` with a new buffer. -/
def handlePollRequest (heard : Option (Octets × ℕ)) (armed : Bool) : Device :=
  let buf := d.polls + 1
  let d := { d with polls := buf, mac := { d.mac with pendingBuf := some buf } }
  let result := d.macGetIndirectData .macPollRequestCallback heard armed
  result.1.pollRequested result.2

/-- `zb_mac_indirect_data_timeout`, when the first alarm is due. -/
def macIndirectDataTimeout : Device :=
  match d.mac.indirectDataAlarms with
  | [] => d
  | cbType :: rest =>
    let mac := { d.mac with indirectDataAlarms := rest }
    if mac.bufRef ≠ 0 then
      let mac := callIndirectDataCallback mac cbType macNoData mac.bufRef
      { d with mac := { mac with bufRef := 0 } }
    else { d with mac, cbType, cbStatus := macNoData, callers := d.callers + 1 }

/-- `indirect_data_callback_caller` with the buffer it has asked for. -/
def indirectDataCallbackCaller (buf : ℕ) : Device :=
  if d.callers = 0 then d
  else { d with
    callers := d.callers - 1
    mac := callIndirectDataCallback d.mac d.cbType d.cbStatus buf }

/-- The MAC does other work: everything but what belongs to the polls may change. -/
def otherWork (mac : Mac) : Device :=
  { d with mac := { mac with
    indirectDataRequest := d.mac.indirectDataRequest
    pollRequest := d.mac.pollRequest
    bufRef := d.mac.bufRef
    indirectDataAlarms := d.mac.indirectDataAlarms
    disposed := d.mac.disposed } }

end Device

/-- The frame acknowledges a data request with the number. -/
def Acks (w : Mac) (dsn : UInt8) (p : Octets) : Prop :=
  w.canAcceptFrame (header p) = true ∧ fcfGetFrameType p = macFrameAcknowledgment ∧
    (header p).seqNumber = dsn

/-- The frame that is heard acknowledges the request. -/
def Acked (w : Mac) (dsn : UInt8) (heard : Option (Octets × ℕ)) : Prop :=
  ∃ frame ∈ heard, Acks w dsn frame.1

instance (w : Mac) (dsn : UInt8) (heard : Option (Octets × ℕ)) : Decidable (Acked w dsn heard) :=
  inferInstanceAs (Decidable (∃ _ ∈ heard, _ ∧ _ ∧ _))

inductive Event
  | poll (heard : Option (Octets × ℕ)) (armed : Bool)
  | receive (p : Octets) (buf : ℕ)
  | timeout
  | granted (buf : ℕ)
  | other (mac : Mac)

def step (d : Device) : Event → Device
  | .poll heard armed =>
    { d.handlePollRequest heard armed with
      acked := if Acked d.mac d.macDsn heard then d.acked ++ [d.polls + 1] else d.acked }
  | .receive p buf => { d with mac := d.mac.macParseRecvData p buf }
  | .timeout => d.macIndirectDataTimeout
  | .granted buf => d.indirectDataCallbackCaller buf
  | .other mac => d.otherWork mac

/-! ## What is expected -/

/-- The status of a disposal that is a confirm of a poll in the buffer. -/
def confirmOf (buf : ℕ) : ℕ × Disposal → Option UInt8
  | (b, .handed (.pollConfirm status)) => if b = buf then some status else none
  | _ => none

/-- The confirms of the poll in the buffer. -/
def confirms (w : Mac) (buf : ℕ) : List UInt8 := w.disposed.filterMap (confirmOf buf)

/-- The last poll waits for its data, and its alarm is set. -/
structure Waits (d : Device) : Prop where
  polled : 0 < d.polls
  request : d.mac.indirectDataRequest = true
  flag : d.mac.pollRequest = true
  ref : d.mac.bufRef = d.polls
  alarm : d.mac.indirectDataAlarms = [.macPollRequestCallback]
  unconfirmed : confirms d.mac d.polls = []

/-- Each poll has been confirmed once in its own buffer, but for one that waits, whose alarm will
confirm it; without data the status says so; and when no poll waits, nothing is left of one. -/
structure Complete (d : Device) : Prop where
  once : ∀ b, 0 < b → b ≤ d.polls →
    (∃ status, confirms d.mac b = [status]) ∨ b = d.polls ∧ Waits d
  own : ∀ b, confirms d.mac b ≠ [] → 0 < b ∧ b ≤ d.polls
  noData : ∀ b ∈ d.acked, confirms d.mac b = [macNoData] ∨ b = d.polls ∧ Waits d
  ends : Waits d → 0 < d.mac.cbRoom → confirms (step d .timeout).mac d.polls = [macNoData]
  forgotten : ¬ Waits d → d.mac.indirectDataAlarms = [] ∧ d.mac.pollRequest = false ∧
    d.mac.bufRef = 0

/-- The frame is taken as an answer to a data request. -/
def ForUs (w : Mac) (p : Octets) : Prop :=
  w.canAcceptFrame (header p) = true ∧ w.indirectDataRequest = true ∧
    w.checkFrameDstAddr (header p) = true

instance (w : Mac) (p : Octets) : Decidable (ForUs w p) := inferInstanceAs (Decidable (_ ∧ _))

/-- The frame that is heard acknowledges the request and says that there is data. -/
def Pends (w : Mac) (dsn : UInt8) (heard : Option (Octets × ℕ)) : Prop :=
  ∃ frame ∈ heard, Acks w dsn frame.1 ∧ fcfGetFramePendingBit (header frame.1).fcf = true

/-- The callbacks that a frame takes, where no poll waits. -/
def taken (w : Mac) (p : Octets) : ℕ :=
  if w.canAcceptFrame (header p) = true ∧ (fcfGetFrameType p = macFrameData ∨
    fcfGetFrameType p = macFrameBeacon ∨ fcfGetFrameType p = macFrameCommand) then 1 else 0

/-- A poll is issued when the one before is confirmed, and there is an alarm left for it if it will
wait, else room for its confirm; there is room when its alarm is due; and what comes in for the
device while it waits is a data frame, and there is room for the confirm. -/
def Careful (d : Device) : Event → Prop
  | .poll heard armed =>
    (d.polls = 0 ∨ confirms d.mac d.polls ≠ []) ∧ (Pends d.mac d.macDsn heard → armed = true) ∧
      (¬ Pends d.mac d.macDsn heard →
        ((heard.map fun frame => taken d.mac frame.1).getD 0) < d.mac.cbRoom)
  | .receive p _ => d.mac.pollRequest = true → ForUs d.mac p →
      fcfGetFrameType p = macFrameData ∧ 0 < d.mac.cbRoom
  | .timeout => d.mac.indirectDataAlarms ≠ [] → 0 < d.mac.cbRoom
  | .granted _ => True
  | .other _ => True

/-- And nothing comes in for the device while a poll waits. -/
def Undisturbed (d : Device) : Event → Prop
  | .receive p _ => ¬ (d.mac.pollRequest = true ∧ ForUs d.mac p)
  | event => Careful d event

/-! ## The receive path -/

section
variable {w w' : Mac} {p : Octets} {buf b : ℕ}

/-- What belongs to the polls. -/
structure Keeps (w w' : Mac) : Prop where
  request : w'.indirectDataRequest = w.indirectDataRequest
  flag : w'.pollRequest = w.pollRequest
  ref : w'.bufRef = w.bufRef
  alarms : w'.indirectDataAlarms = w.indirectDataAlarms
  confirms : ∀ b, confirms w' b = confirms w b

theorem Keeps.refl (w : Mac) : Keeps w w := ⟨rfl, rfl, rfl, rfl, fun _ => rfl⟩

theorem Keeps.trans {w'' : Mac} (first : Keeps w w') (second : Keeps w' w'') : Keeps w w'' where
  request := second.request.trans first.request
  flag := second.flag.trans first.flag
  ref := second.ref.trans first.ref
  alarms := second.alarms.trans first.alarms
  confirms b := (second.confirms b).trans (first.confirms b)

theorem confirms_append (w : Mac) (entry : ℕ × Disposal) (b : ℕ) :
    (w.disposed ++ [entry]).filterMap (confirmOf b) =
      confirms w b ++ (confirmOf b entry).toList := by
  rw [List.filterMap_append]
  cases one : confirmOf b entry <;> simp [one, confirms]

/-- Another buffer is freed or handed up. -/
theorem keeps_freeBuf (w : Mac) (buf : ℕ) : Keeps w (w.freeBuf buf) :=
  ⟨rfl, rfl, rfl, rfl, fun b => (confirms_append w _ b).trans (List.append_nil _)⟩

theorem keeps_handUp (w : Mac) (buf : ℕ) (primitive : Primitive)
    (other : ∀ b, confirmOf b (buf, .handed primitive) = none) :
    Keeps w (w.handUp buf primitive) := by
  rw [Mac.handUp]
  split
  · exact .refl w
  · refine ⟨rfl, rfl, rfl, rfl, fun b => (confirms_append w _ b).trans ?_⟩
    rw [other]
    exact List.append_nil _

theorem keeps_scheduleCallback (w : Mac) (cb : Callback) : Keeps w (w.scheduleCallback cb) := by
  rw [Mac.scheduleCallback]
  split
  · exact .refl w
  · exact ⟨rfl, rfl, rfl, rfl, fun _ => rfl⟩

theorem keeps_mlmeAckAccept (w : Mac) (p : Octets) (buf : ℕ) : Keeps w (w.mlmeAckAccept p buf) := by
  rw [Mac.mlmeAckAccept]
  split
  · have flags : Keeps w { w with
        ackOk := true
        pendingDataFlag := fcfGetFramePendingBit (header p).fcf
        ackAlarms := w.ackAlarms - 1 } := ⟨rfl, rfl, rfl, rfl, fun _ => rfl⟩
    exact flags.trans (keeps_freeBuf _ buf)
  · exact keeps_freeBuf w buf

/-- What belongs to the polls is touched by a frame for the device only. -/
theorem keeps_parse (w : Mac) (p : Octets) (buf : ℕ) :
    Keeps (if ForUs w p then w.receiveIndirect p else w) (w.macParseRecvData p buf) := by
  rw [Mac.macParseRecvData]
  cases accepted : w.canAcceptFrame (header p) with
  | false =>
    have other : ¬ ForUs w p := fun forUs => Bool.noConfusion (accepted.symm.trans forUs.1)
    rw [if_neg other]
    exact keeps_freeBuf w buf
  | true =>
    have same : (if (w.indirectDataRequest && w.checkFrameDstAddr (header p)) = true
        then w.receiveIndirect p else w) = if ForUs w p then w.receiveIndirect p else w := by
      simp only [ForUs, accepted, true_and, Bool.and_eq_true]
    dsimp only
    rw [if_pos rfl, same]
    generalize (if ForUs w p then w.receiveIndirect p else w) = v
    split
    · exact keeps_scheduleCallback _ _
    split
    · have up := keeps_handUp v buf .beaconNotifyIndication fun _ => rfl
      exact ⟨up.request, up.flag, up.ref, up.alarms, up.confirms⟩
    split
    · exact keeps_mlmeAckAccept _ p buf
    split
    · exact keeps_scheduleCallback _ _
    · exact .refl _

theorem handUp_confirms (room : 0 < w.cbRoom) (buf : ℕ) (status : UInt8) (b : ℕ) :
    confirms (w.handUp buf (.pollConfirm status)) b =
      confirms w b ++ if buf = b then [status] else [] := by
  rw [Mac.handUp, if_neg (Nat.ne_of_gt room)]
  refine (confirms_append w _ b).trans (congrArg (confirms w b ++ ·) ?_)
  rw [confirmOf]
  split <;> rfl

/-- Without a poll the flag and the alarm of the data request are taken back. -/
theorem receiveIndirect_eq (flag : w.pollRequest = false) (p : Octets) :
    w.receiveIndirect p = { w with
      indirectDataAlarms := w.indirectDataAlarms.tail
      indirectDataRequest := false
      pendingDataFlag := w.pendingDataFlag || fcfGetFramePendingBit p } := by
  have idle : ¬ (w.pollRequest = true ∧ fcfGetFrameType p = macFrameData ∧ w.bufRef ≠ 0) :=
    fun polls => Bool.noConfusion (flag.symm.trans polls.1)
  rw [Mac.receiveIndirect]
  exact if_neg idle

/-- A data frame for the device completes the poll. -/
theorem receiveIndirect_data (flag : w.pollRequest = true) (data : fcfGetFrameType p = macFrameData)
    (ref : w.bufRef ≠ 0) (room : 0 < w.cbRoom) :
    (w.receiveIndirect p).pollRequest = false ∧
      (w.receiveIndirect p).indirectDataAlarms = w.indirectDataAlarms.tail ∧
      ∀ b, confirms (w.receiveIndirect p) b =
        confirms w b ++ if w.bufRef = b then [w.macStatus] else [] := by
  have completes : w.pollRequest = true ∧ fcfGetFrameType p = macFrameData ∧ w.bufRef ≠ 0 :=
    ⟨flag, data, ref⟩
  have eq : w.receiveIndirect p = { w with
      indirectDataAlarms := w.indirectDataAlarms.tail
      indirectDataRequest := false
      pendingDataFlag := w.pendingDataFlag || fcfGetFramePendingBit p
      pollRequest := false }.handUp w.bufRef (.pollConfirm w.macStatus) := by
    rw [Mac.receiveIndirect]
    exact if_pos completes
  rw [eq]
  refine ⟨?_, ?_, fun b => (handUp_confirms ?_ _ _ b).trans rfl⟩
  · rw [Mac.handUp, if_neg (Nat.ne_of_gt room)]
  · rw [Mac.handUp, if_neg (Nat.ne_of_gt room)]
  · exact room

theorem scheduleCallback_room (w : Mac) (cb : Callback) :
    (w.scheduleCallback cb).cbRoom = w.cbRoom - 1 ∧ (w.scheduleCallback cb).ackOk = w.ackOk := by
  rw [Mac.scheduleCallback]
  split
  case isTrue full => exact ⟨by rw [full], rfl⟩
  case isFalse => exact ⟨rfl, rfl⟩

theorem handUp_room (w : Mac) (buf : ℕ) (primitive : Primitive) :
    (w.handUp buf primitive).cbRoom = w.cbRoom - 1 ∧ (w.handUp buf primitive).ackOk = w.ackOk := by
  rw [Mac.handUp]
  split
  case isTrue full => exact ⟨by rw [full], rfl⟩
  case isFalse => exact ⟨rfl, rfl⟩

/-- What a frame does besides, where no poll waits. -/
theorem parse_quiet (flag : w.pollRequest = false) (p : Octets) (buf : ℕ) :
    (w.macParseRecvData p buf).cbRoom = w.cbRoom - taken w p ∧
      (Acks w w.ackDsn p → (w.macParseRecvData p buf).ackOk = true ∧
        (w.macParseRecvData p buf).pendingDataFlag = fcfGetFramePendingBit (header p).fcf) ∧
      (¬ Acks w w.ackDsn p → (w.macParseRecvData p buf).ackOk = w.ackOk) := by
  obtain ⟨v, is, room, ackOk, ackDsn⟩ : ∃ v,
      v = (if w.indirectDataRequest && w.checkFrameDstAddr (header p) then w.receiveIndirect p
        else w) ∧ v.cbRoom = w.cbRoom ∧ v.ackOk = w.ackOk ∧ v.ackDsn = w.ackDsn := by
    refine ⟨_, rfl, ?_⟩
    split
    · rw [receiveIndirect_eq flag]
      exact ⟨rfl, rfl, rfl⟩
    · exact ⟨rfl, rfl, rfl⟩
  rw [Mac.macParseRecvData, taken, Acks]
  dsimp only
  rw [← is]
  cases accepted : w.canAcceptFrame (header p) with
  | false => simp [Mac.freeBuf]
  | true =>
    rw [if_pos rfl]
    by_cases data : fcfGetFrameType p = macFrameData
    · have other : macFrameData ≠ macFrameAcknowledgment := by decide
      rw [if_pos data, ← room, ← ackOk]
      simpa [data, other] using scheduleCallback_room v .handleDataFrame
    rw [if_neg data]
    by_cases beacon : fcfGetFrameType p = macFrameBeacon
    · have other : macFrameBeacon ≠ macFrameAcknowledgment := by decide
      rw [if_pos beacon, ← room, ← ackOk]
      simpa [beacon, other] using handUp_room v buf .beaconNotifyIndication
    rw [if_neg beacon]
    by_cases ack : fcfGetFrameType p = macFrameAcknowledgment
    · have others : macFrameAcknowledgment ≠ macFrameData ∧
          macFrameAcknowledgment ≠ macFrameBeacon ∧ macFrameAcknowledgment ≠ macFrameCommand := by
        decide
      rw [if_pos ack, Mac.mlmeAckAccept, ackDsn, ← room, ← ackOk]
      by_cases same : (header p).seqNumber = w.ackDsn
      · simp [same, ack, others, Mac.freeBuf]
      · simp [same, Ne.symm same, ack, others, Mac.freeBuf]
    rw [if_neg ack]
    by_cases command : fcfGetFrameType p = macFrameCommand
    · have other : macFrameCommand ≠ macFrameAcknowledgment := by decide
      rw [if_pos command, ← room, ← ackOk]
      simpa [command, other] using scheduleCallback_room v .commandAccept
    · rw [if_neg command, ← room, ← ackOk]
      simp [data, beacon, ack, command]

end

/-! ## Polls -/

section
variable {d : Device} {b : ℕ}

/-- The frame that is taken for the acknowledgement leaves the poll fields as they are, where no
poll waits; the request is acknowledged by no other frame. -/
theorem macCheckAck_spec (flag : d.mac.pollRequest = false) (alarms : d.mac.indirectDataAlarms = [])
    (heard : Option (Octets × ℕ)) :
    ∃ mac, d.macCheckAck heard = { d with mac } ∧ mac.pollRequest = false ∧
      mac.bufRef = d.mac.bufRef ∧ mac.indirectDataAlarms = [] ∧
      (∀ b, confirms mac b = confirms d.mac b) ∧
      mac.cbRoom = d.mac.cbRoom - ((heard.map fun frame => taken d.mac frame.1).getD 0) ∧
      (Acked d.mac d.mac.ackDsn heard → mac.ackOk = true) ∧
      (mac.ackOk = true ∧ mac.pendingDataFlag = true ↔ Pends d.mac d.mac.ackDsn heard) := by
  unfold Device.macCheckAck
  cases heard with
  | none =>
    refine ⟨_, rfl, flag, rfl, alarms, fun _ => rfl, rfl, ?_, ?_⟩
    · rintro ⟨_, none_, -⟩
      cases none_
    · refine iff_of_false (fun ok => Bool.noConfusion ok.1) ?_
      rintro ⟨_, none_, -⟩
      cases none_
  | some frame =>
    obtain ⟨p, buf⟩ := frame
    have begun : { d.mac with ackOk := false, ackAlarms := 1 }.pollRequest = false := flag
    obtain ⟨room, ack, other⟩ := parse_quiet begun p buf
    have keeps := keeps_parse { d.mac with ackOk := false, ackAlarms := 1 } p buf
    refine ⟨_, rfl, ?_, ?_, ?_, fun b => ?_, room, ?_, ?_⟩
    · rw [keeps.flag]
      split
      · rw [receiveIndirect_eq begun]
        exact flag
      · exact flag
    · rw [keeps.ref]
      split
      · rw [receiveIndirect_eq begun]
      · rfl
    · rw [keeps.alarms]
      split
      · rw [receiveIndirect_eq begun]
        dsimp only
        rw [alarms]
        rfl
      · exact alarms
    · rw [keeps.confirms]
      split
      · rw [receiveIndirect_eq begun]
        rfl
      · rfl
    · rintro ⟨_, ⟨⟩, acks⟩
      exact (ack acks).1
    · have only : Pends d.mac d.mac.ackDsn (some (p, buf)) ↔
          Acks d.mac d.mac.ackDsn p ∧ fcfGetFramePendingBit (header p).fcf = true := by
        constructor
        · rintro ⟨_, ⟨⟩, pends⟩
          exact pends
        · exact fun pends => ⟨_, rfl, pends⟩
      rw [only]
      by_cases acks : Acks d.mac d.mac.ackDsn p
      · rw [(ack acks).1, (ack acks).2, and_iff_right rfl, and_iff_right acks]
      · exact iff_of_false (fun ok => Bool.noConfusion ((other acks).symm.trans ok.1))
          fun ok => acks ok.1

/-- The data request has been sent. -/
def Device.requested (d : Device) : Device :=
  { d with
    polls := d.polls + 1
    macDsn := d.macDsn + 1
    mac := { d.mac with
      pendingBuf := some (d.polls + 1)
      indirectDataRequest := true
      ackDsn := d.macDsn } }

theorem handlePollRequest_eq (d : Device) (heard : Option (Octets × ℕ)) (armed : Bool) :
    d.handlePollRequest heard armed =
      let result := (d.requested.macCheckAck heard).awaitIndirectData .macPollRequestCallback armed
      result.1.pollRequested result.2 := rfl

/-- A request whose acknowledgement says that there is data is awaited, with an alarm. -/
theorem handlePollRequest_waits (flag : d.mac.pollRequest = false)
    (alarms : d.mac.indirectDataAlarms = []) {heard : Option (Octets × ℕ)}
    (pends : Pends d.mac d.macDsn heard) :
    ∃ mac, d.handlePollRequest heard true = { d with
        macDsn := d.macDsn + 1
        mac
        polls := d.polls + 1 } ∧
      mac.indirectDataRequest = true ∧ mac.pollRequest = true ∧ mac.bufRef = d.polls + 1 ∧
      mac.indirectDataAlarms = [.macPollRequestCallback] ∧
      ∀ b, confirms mac b = confirms d.mac b := by
  have flag' : d.requested.mac.pollRequest = false := flag
  obtain ⟨mac, checked, -, -, alarms', confirms', -, -, pends'⟩ :=
    macCheckAck_spec (d := d.requested) flag' alarms heard
  obtain ⟨ackOk, pending⟩ := pends'.mpr pends
  rw [handlePollRequest_eq, checked]
  dsimp only [Device.awaitIndirectData]
  rw [if_pos ackOk, if_pos pending, if_pos rfl, alarms']
  dsimp only [Device.pollRequested]
  rw [if_pos rfl]
  exact ⟨_, rfl, rfl, rfl, rfl, rfl, confirms'⟩

theorem pollRequested_confirms (left_ : 0 < d.mac.cbRoom) :
    ∃ mac, d.pollRequested false = { d with mac } ∧
      mac.pollRequest = d.mac.pollRequest ∧ mac.bufRef = d.mac.bufRef ∧
      mac.indirectDataAlarms = d.mac.indirectDataAlarms ∧
      ∀ b, confirms mac b = confirms d.mac b ++
        if d.polls = b then
          [if d.mac.macStatus = 0 then macInvalidParameter else d.mac.macStatus]
        else [] := by
  refine ⟨_, rfl, ?_, ?_, ?_, fun b => ?_⟩
  · dsimp only
    rw [if_neg Bool.false_ne_true, Mac.handUp, if_neg (Nat.ne_of_gt left_)]
  · dsimp only
    rw [if_neg Bool.false_ne_true, Mac.handUp, if_neg (Nat.ne_of_gt left_)]
  · dsimp only
    rw [if_neg Bool.false_ne_true, Mac.handUp, if_neg (Nat.ne_of_gt left_)]
  · exact handUp_confirms left_ _ _ b

/-- Every other request is confirmed at once, and without data if it was acknowledged. -/
theorem handlePollRequest_confirms (flag : d.mac.pollRequest = false)
    (alarms : d.mac.indirectDataAlarms = []) {heard : Option (Octets × ℕ)} (armed : Bool)
    (pends : ¬ Pends d.mac d.macDsn heard)
    (room : ((heard.map fun frame => taken d.mac frame.1).getD 0) < d.mac.cbRoom) :
    ∃ mac status, d.handlePollRequest heard armed = { d with
        macDsn := d.macDsn + 1
        mac
        polls := d.polls + 1 } ∧
      (Acked d.mac d.macDsn heard → status = macNoData) ∧
      mac.pollRequest = false ∧ mac.bufRef = d.mac.bufRef ∧ mac.indirectDataAlarms = [] ∧
      ∀ b, confirms mac b = confirms d.mac b ++ if d.polls + 1 = b then [status] else [] := by
  have flag' : d.requested.mac.pollRequest = false := flag
  obtain ⟨mac, checked, flag'', ref, alarms', confirms', room', acks, pends'⟩ :=
    macCheckAck_spec (d := d.requested) flag' alarms heard
  have left_ : 0 < mac.cbRoom := by
    rw [room']
    exact Nat.sub_pos_of_lt room
  rw [handlePollRequest_eq, checked]
  dsimp only [Device.awaitIndirectData]
  by_cases ackOk : mac.ackOk = true
  · have empty : ¬ mac.pendingDataFlag = true := fun pending => pends (pends'.mp ⟨ackOk, pending⟩)
    rw [if_pos ackOk, if_neg empty]
    obtain ⟨mac', done, flag', ref', alarms'', confirms''⟩ :=
      pollRequested_confirms (d := { d.requested with mac := { mac with macStatus := macNoData } })
        left_
    refine ⟨mac', macNoData, done, fun _ => rfl, flag'.trans flag'', ref'.trans ref,
      alarms''.trans alarms', fun b => (confirms'' b).trans ?_⟩
    · have status : ¬ macNoData = 0 := by decide
      dsimp only
      rw [if_neg status]
      exact congrArg (· ++ _) (confirms' b)
  · rw [if_neg ackOk]
    obtain ⟨mac', done, flag', ref', alarms'', confirms''⟩ :=
      pollRequested_confirms (d := { d.requested with mac }) left_
    exact ⟨mac', if mac.macStatus = 0 then macInvalidParameter else mac.macStatus, done,
      fun acked => absurd (acks acked) ackOk, flag'.trans flag'', ref'.trans ref,
      alarms''.trans alarms', fun b => (confirms'' b).trans (congrArg (· ++ _) (confirms' b))⟩

/-- The timer of a poll that waits confirms it without data. -/
theorem timeout_waits (waits : Waits d) (room : 0 < d.mac.cbRoom) :
    ∃ mac, d.macIndirectDataTimeout = { d with mac } ∧ mac.pollRequest = false ∧ mac.bufRef = 0 ∧
      mac.indirectDataAlarms = [] ∧
      ∀ b, confirms mac b = confirms d.mac b ++ if d.polls = b then [macNoData] else [] := by
  have used : d.mac.bufRef ≠ 0 := waits.ref ▸ Nat.ne_of_gt waits.polled
  rw [Device.macIndirectDataTimeout, waits.alarm]
  dsimp only
  rw [if_pos used]
  refine ⟨_, rfl, ?_, rfl, ?_, fun b => ?_⟩
  · dsimp only [callIndirectDataCallback]
    rw [Mac.handUp, if_neg (Nat.ne_of_gt room)]
  · dsimp only [callIndirectDataCallback]
    rw [Mac.handUp, if_neg (Nat.ne_of_gt room)]
  · refine (handUp_confirms ?_ _ _ b).trans ?_
    · exact room
    · dsimp only
      rw [waits.ref]
      rfl

/-! ## The invariant -/

/-- No poll waits; the last one has been confirmed. -/
structure Rests (d : Device) : Prop where
  flag : d.mac.pollRequest = false
  alarms : d.mac.indirectDataAlarms = []
  confirmed : d.polls = 0 ∨ ∃ status, confirms d.mac d.polls = [status]

/-- The polls have been confirmed once in their own buffers, but for one that waits. -/
structure Sound (d : Device) : Prop where
  callers : d.callers = 0
  others : ∀ b, ¬ (0 < b ∧ b ≤ d.polls) → confirms d.mac b = []
  earlier : ∀ b, 0 < b → b < d.polls → ∃ status, confirms d.mac b = [status]
  current : Waits d ∨ Rests d

theorem Rests.not_waits (rests : Rests d) : ¬ Waits d :=
  fun waits => Bool.noConfusion (rests.flag.symm.trans waits.flag)

theorem Waits.keeps {mac : Mac} (waits : Waits d) (keeps : Keeps d.mac mac) :
    Waits { d with mac } where
  polled := waits.polled
  request := keeps.request.trans waits.request
  flag := keeps.flag.trans waits.flag
  ref := keeps.ref.trans waits.ref
  alarm := keeps.alarms.trans waits.alarm
  unconfirmed := (keeps.confirms _).trans waits.unconfirmed

theorem Rests.keeps {mac : Mac} (rests : Rests d) (flag : mac.pollRequest = d.mac.pollRequest)
    (alarms : mac.indirectDataAlarms = []) (confirms : ∀ b, confirms mac b = confirms d.mac b) :
    Rests { d with mac } where
  flag := flag.trans rests.flag
  alarms := alarms
  confirmed := by
    dsimp only
    rw [confirms]
    exact rests.confirmed

/-- Nothing is confirmed. -/
theorem Sound.keeps {mac : Mac} (sound : Sound d)
    (confirms : ∀ b, confirms mac b = confirms d.mac b)
    (current : Waits { d with mac } ∨ Rests { d with mac }) : Sound { d with mac } where
  callers := sound.callers
  others b outside := (confirms b).trans (sound.others b outside)
  earlier b positive below := by
    dsimp only
    rw [confirms]
    exact sound.earlier b positive below
  current := current

/-- The last poll, which waits, is confirmed. -/
theorem Sound.confirm {mac : Mac} (sound : Sound d) (waits : Waits d) (status : UInt8)
    (flag : mac.pollRequest = false) (alarms : mac.indirectDataAlarms = [])
    (confirms : ∀ b, confirms mac b = confirms d.mac b ++ if d.polls = b then [status] else []) :
    Sound { d with mac } where
  callers := sound.callers
  others b outside := by
    have other : d.polls ≠ b := by
      rintro rfl
      exact outside ⟨waits.polled, Nat.le_refl _⟩
    dsimp only
    rw [confirms, if_neg other, List.append_nil]
    exact sound.others b outside
  earlier b positive below := by
    dsimp only
    rw [confirms, if_neg (Nat.ne_of_gt below), List.append_nil]
    exact sound.earlier b positive below
  current := by
    refine .inr ⟨flag, alarms, .inr ⟨status, ?_⟩⟩
    dsimp only
    rw [confirms, if_pos rfl, waits.unconfirmed]
    rfl

theorem Sound.confirmed (sound : Sound d) (rests : Rests d) (positive : 0 < b)
    (below : b ≤ d.polls) : ∃ status, confirms d.mac b = [status] := by
  rcases Nat.lt_or_eq_of_le below with earlier | rfl
  · exact sound.earlier b positive earlier
  · exact rests.confirmed.resolve_left (Nat.ne_of_gt positive)

theorem Sound.unused (sound : Sound d) : confirms d.mac (d.polls + 1) = [] :=
  sound.others _ fun inside => Nat.not_succ_le_self _ inside.2

theorem Sound.poll (sound : Sound d) {heard : Option (Octets × ℕ)} {armed : Bool}
    (careful : Careful d (.poll heard armed)) : Sound (step d (.poll heard armed)) := by
  obtain ⟨done, left_, room⟩ := careful
  have rests : Rests d := by
    refine sound.current.resolve_left fun waits => ?_
    rcases done with none_ | some_
    · exact absurd none_ (Nat.ne_of_gt waits.polled)
    · exact some_ waits.unconfirmed
  by_cases pends : Pends d.mac d.macDsn heard
  · obtain rfl := left_ pends
    obtain ⟨mac, result, request, flag, ref, alarms, same⟩ :=
      handlePollRequest_waits rests.flag rests.alarms pends
    rw [Poll.step, result]
    refine ⟨sound.callers, fun b outside => ?_, fun b positive below => ?_, .inl ?_⟩
    · dsimp only at outside ⊢
      rw [same]
      exact sound.others b fun inside => outside ⟨inside.1, Nat.le_succ_of_le inside.2⟩
    · dsimp only at below ⊢
      rw [same]
      exact sound.confirmed rests positive (Nat.le_of_lt_succ below)
    · exact ⟨Nat.succ_pos _, request, flag, ref, alarms, (same _).trans sound.unused⟩
  · obtain ⟨mac, status, result, -, flag, -, alarms, confirms'⟩ :=
      handlePollRequest_confirms rests.flag rests.alarms armed pends (room pends)
    rw [Poll.step, result]
    refine ⟨sound.callers, fun b outside => ?_, fun b positive below => ?_,
      .inr ⟨flag, alarms, .inr ⟨status, ?_⟩⟩⟩
    · dsimp only at outside ⊢
      have other : d.polls + 1 ≠ b := by
        rintro rfl
        exact outside ⟨Nat.succ_pos _, Nat.le_refl _⟩
      rw [confirms', if_neg other, List.append_nil]
      exact sound.others b fun inside => outside ⟨inside.1, Nat.le_succ_of_le inside.2⟩
    · dsimp only at below ⊢
      rw [confirms', if_neg (Nat.ne_of_gt below), List.append_nil]
      exact sound.confirmed rests positive (Nat.le_of_lt_succ below)
    · dsimp only
      rw [confirms', if_pos rfl, sound.unused]
      rfl

theorem Sound.receive (sound : Sound d) {p : Octets} {buf : ℕ}
    (careful : Careful d (.receive p buf)) :
    Sound { d with mac := d.mac.macParseRecvData p buf } := by
  have keeps := keeps_parse d.mac p buf
  by_cases forUs : ForUs d.mac p
  · rw [if_pos forUs] at keeps
    rcases sound.current with waits | rests
    · obtain ⟨data, room⟩ := careful waits.flag forUs
      have used : d.mac.bufRef ≠ 0 := waits.ref ▸ Nat.ne_of_gt waits.polled
      obtain ⟨flag, alarms, confirms'⟩ := receiveIndirect_data waits.flag data used room
      refine sound.confirm waits d.mac.macStatus (keeps.flag.trans flag) ?_ fun b => ?_
      · rw [keeps.alarms, alarms, waits.alarm]
        rfl
      · rw [keeps.confirms, confirms', waits.ref]
    · rw [receiveIndirect_eq rests.flag] at keeps
      refine sound.keeps keeps.confirms (.inr (rests.keeps keeps.flag ?_ keeps.confirms))
      rw [keeps.alarms]
      dsimp only
      rw [rests.alarms]
      rfl
  · rw [if_neg forUs] at keeps
    refine sound.keeps keeps.confirms ?_
    rcases sound.current with waits | rests
    · exact .inl (waits.keeps keeps)
    · exact .inr (rests.keeps keeps.flag (keeps.alarms.trans rests.alarms) keeps.confirms)

theorem Sound.timeout (sound : Sound d) (careful : Careful d .timeout) :
    Sound d.macIndirectDataTimeout := by
  rcases sound.current with waits | rests
  · have armed : d.mac.indirectDataAlarms ≠ [] := by
      rw [waits.alarm]
      exact List.cons_ne_nil _ _
    obtain ⟨mac, result, flag, -, alarms, confirms'⟩ := timeout_waits waits (careful armed)
    rw [result]
    exact sound.confirm waits macNoData flag alarms confirms'
  · rw [Device.macIndirectDataTimeout, rests.alarms]
    exact sound

theorem Sound.step (sound : Sound d) (event : Event) (careful : Careful d event) :
    Sound (step d event) := by
  cases event with
  | poll heard armed => exact sound.poll careful
  | receive p buf => exact sound.receive careful
  | timeout => exact sound.timeout careful
  | granted buf =>
    rw [Poll.step, Device.indirectDataCallbackCaller, if_pos sound.callers]
    exact sound
  | other mac =>
    refine sound.keeps (fun _ => rfl) ?_
    rcases sound.current with waits | rests
    · exact .inl (waits.keeps ⟨rfl, rfl, rfl, rfl, fun _ => rfl⟩)
    · exact .inr (rests.keeps rfl rests.alarms fun _ => rfl)

/-- The polls after which nothing is left: nothing has come in for them. -/
structure Quiet (d : Device) : Prop where
  sound : Sound d
  inside : ∀ b ∈ d.acked, b ≤ d.polls
  noData : ∀ b ∈ d.acked, confirms d.mac b = [macNoData] ∨ b = d.polls ∧ Waits d
  forgotten : Rests d → d.mac.bufRef = 0

theorem Undisturbed.careful {event : Event} (undisturbed : Undisturbed d event) :
    Careful d event := by
  cases event with
  | receive p buf => exact fun flag forUs => absurd ⟨flag, forUs⟩ undisturbed
  | poll heard armed => exact undisturbed
  | timeout => exact undisturbed
  | granted buf => exact undisturbed
  | other mac => exact undisturbed

theorem Quiet.poll (quiet : Quiet d) {heard : Option (Octets × ℕ)} {armed : Bool}
    (careful : Careful d (.poll heard armed)) : Quiet (step d (.poll heard armed)) := by
  have sound' := quiet.sound.poll careful
  obtain ⟨done, left_, room⟩ := careful
  have rests : Rests d := by
    refine quiet.sound.current.resolve_left fun waits => ?_
    rcases done with none_ | some_
    · exact absurd none_ (Nat.ne_of_gt waits.polled)
    · exact some_ waits.unconfirmed
  have before (b : ℕ) (member : b ∈ d.acked) : confirms d.mac b = [macNoData] :=
    (quiet.noData b member).resolve_right fun waiting => rests.not_waits waiting.2
  by_cases pends : Pends d.mac d.macDsn heard
  · obtain rfl := left_ pends
    obtain ⟨mac, result, request, flag, ref, alarms, same⟩ :=
      handlePollRequest_waits rests.flag rests.alarms pends
    have acked : Acked d.mac d.macDsn heard := pends.imp fun _ heard => ⟨heard.1, heard.2.1⟩
    rw [Poll.step, result, if_pos acked] at sound' ⊢
    have waits : Waits { d with
        macDsn := d.macDsn + 1
        mac
        polls := d.polls + 1
        acked := d.acked ++ [d.polls + 1] } :=
      ⟨Nat.succ_pos _, request, flag, ref, alarms, (same _).trans quiet.sound.unused⟩
    refine ⟨sound', fun b member => ?_, fun b member => ?_, fun rests' => ?_⟩
    · rcases List.mem_append.mp member with old | new
      · exact Nat.le_succ_of_le (quiet.inside b old)
      · exact Nat.le_of_eq (List.mem_singleton.mp new)
    · rcases List.mem_append.mp member with old | new
      · exact .inl ((same b).trans (before b old))
      · exact .inr ⟨List.mem_singleton.mp new, waits⟩
    · exact absurd waits rests'.not_waits
  · obtain ⟨mac, status, result, acks, flag, ref, alarms, confirms'⟩ :=
      handlePollRequest_confirms rests.flag rests.alarms armed pends (room pends)
    rw [Poll.step, result] at sound' ⊢
    have old (b : ℕ) (member : b ∈ d.acked) : confirms mac b = [macNoData] := by
      have other : d.polls + 1 ≠ b := Nat.ne_of_gt (Nat.lt_succ_of_le (quiet.inside b member))
      rw [confirms', if_neg other, List.append_nil]
      exact before b member
    have forgotten := ref.trans (quiet.forgotten rests)
    by_cases acked : Acked d.mac d.macDsn heard
    · rw [if_pos acked] at sound' ⊢
      refine ⟨sound', fun b member => ?_, fun b member => .inl ?_, fun _ => forgotten⟩
      · rcases List.mem_append.mp member with old | new
        · exact Nat.le_succ_of_le (quiet.inside b old)
        · exact Nat.le_of_eq (List.mem_singleton.mp new)
      · rcases List.mem_append.mp member with earlier | new
        · exact old b earlier
        · obtain rfl := List.mem_singleton.mp new
          dsimp only
          rw [confirms', if_pos rfl, quiet.sound.unused, acks acked]
          rfl
    · rw [if_neg acked] at sound' ⊢
      exact ⟨sound', fun b member => Nat.le_succ_of_le (quiet.inside b member),
        fun b member => .inl (old b member), fun _ => forgotten⟩

theorem Quiet.receive (quiet : Quiet d) {p : Octets} {buf : ℕ}
    (undisturbed : Undisturbed d (.receive p buf)) :
    Quiet { d with mac := d.mac.macParseRecvData p buf } := by
  have keeps := keeps_parse d.mac p buf
  have sound' := quiet.sound.receive undisturbed.careful
  rcases quiet.sound.current with waits | rests
  · have other : ¬ ForUs d.mac p := fun forUs => undisturbed ⟨waits.flag, forUs⟩
    rw [if_neg other] at keeps
    have waits' : Waits { d with mac := d.mac.macParseRecvData p buf } := waits.keeps keeps
    refine ⟨sound', quiet.inside, fun b member => ?_, fun rests' => absurd waits' rests'.not_waits⟩
    exact (quiet.noData b member).imp (keeps.confirms b).trans fun last => ⟨last.1, waits'⟩
  · have same : (d.mac.macParseRecvData p buf).bufRef = d.mac.bufRef ∧
        ∀ b, confirms (d.mac.macParseRecvData p buf) b = confirms d.mac b := by
      split at keeps
      · rw [receiveIndirect_eq rests.flag] at keeps
        exact ⟨keeps.ref, keeps.confirms⟩
      · exact ⟨keeps.ref, keeps.confirms⟩
    refine ⟨sound', quiet.inside, fun b member => .inl ?_, fun _ => same.1.trans
      (quiet.forgotten rests)⟩
    refine (same.2 b).trans ((quiet.noData b member).resolve_right fun last => ?_)
    exact rests.not_waits last.2

theorem Quiet.timeout (quiet : Quiet d) (careful : Careful d .timeout) :
    Quiet d.macIndirectDataTimeout := by
  have sound' := quiet.sound.timeout careful
  rcases quiet.sound.current with waits | rests
  · have armed : d.mac.indirectDataAlarms ≠ [] := by
      rw [waits.alarm]
      exact List.cons_ne_nil _ _
    obtain ⟨mac, result, flag, ref, alarms, confirms'⟩ := timeout_waits waits (careful armed)
    rw [result] at sound' ⊢
    refine ⟨sound', quiet.inside, fun b member => .inl ?_, fun _ => ref⟩
    dsimp only
    rw [confirms']
    rcases quiet.noData b member with said | ⟨rfl, -⟩
    · have other : d.polls ≠ b := by
        rintro rfl
        rw [waits.unconfirmed] at said
        cases said
      rw [if_neg other, said]
      rfl
    · rw [if_pos rfl, waits.unconfirmed]
      rfl
  · have same : d.macIndirectDataTimeout = d := by
      rw [Device.macIndirectDataTimeout, rests.alarms]
    rw [same]
    exact quiet

theorem Quiet.step (quiet : Quiet d) (event : Event) (undisturbed : Undisturbed d event) :
    Quiet (step d event) := by
  cases event with
  | poll heard armed => exact quiet.poll undisturbed
  | receive p buf => exact quiet.receive undisturbed
  | timeout => exact quiet.timeout undisturbed
  | granted buf =>
    rw [Poll.step, Device.indirectDataCallbackCaller, if_pos quiet.sound.callers]
    exact quiet
  | other mac =>
    have sound' := quiet.sound.step (.other mac) trivial
    have keeps : Keeps d.mac (d.otherWork mac).mac := ⟨rfl, rfl, rfl, rfl, fun _ => rfl⟩
    refine ⟨sound', quiet.inside, fun b member => ?_, fun rests => ?_⟩
    · exact (quiet.noData b member).imp id fun last => ⟨last.1, last.2.keeps keeps⟩
    · exact quiet.forgotten ⟨rests.flag, rests.alarms, rests.confirmed⟩

theorem Quiet.complete (quiet : Quiet d) : Complete d where
  once b positive below := by
    rcases quiet.sound.current with waits | rests
    · rcases Nat.lt_or_eq_of_le below with earlier | rfl
      · exact .inl (quiet.sound.earlier b positive earlier)
      · exact .inr ⟨rfl, waits⟩
    · exact .inl (quiet.sound.confirmed rests positive below)
  own b some_ := Decidable.byContradiction fun outside => some_ (quiet.sound.others b outside)
  noData := quiet.noData
  ends waits room := by
    obtain ⟨mac, result, -, -, -, confirms'⟩ := timeout_waits waits room
    rw [Poll.step, result]
    dsimp only
    rw [confirms', if_pos rfl, waits.unconfirmed]
    rfl
  forgotten idle := by
    have rests := quiet.sound.current.resolve_left idle
    exact ⟨rests.alarms, rests.flag, quiet.forgotten rests⟩

theorem init_quiet (mac : Mac) : Quiet (Device.init mac) where
  sound := ⟨rfl, fun _ _ => rfl, fun b _ below => absurd below (Nat.not_lt_zero b),
    .inr ⟨rfl, rfl, .inl rfl⟩⟩
  inside := nofun
  noData := nofun
  forgotten _ := rfl

/-- Where data frames come in for the polls, each poll is still confirmed once in its own buffer;
only the reference of the last one that was answered is kept. -/
theorem confirmed_once (mac : Mac) (events : List Event)
    (careful : Along step Careful (Device.init mac) events) :
    Sound (run step (Device.init mac) events) :=
  invariant_of_along (fun _ event sound careful => sound.step event careful) _ events
    (init_quiet mac).sound careful

/-- Polls complete, and nothing is left of them, as long as nothing comes in for the device while
one waits. -/
theorem polls_complete (mac : Mac) (events : List Event)
    (undisturbed : Along step Undisturbed (Device.init mac) events) :
    Complete (run step (Device.init mac) events) :=
  (invariant_of_along (fun _ event quiet undisturbed => quiet.step event undisturbed) _ events
    (init_quiet mac) undisturbed).complete

/-- The acknowledgement of the first request, which says that there is data. -/
def firstAck : Octets := Octets.ofList [0x12, 0, 0]

/-- A poll whose data does not come. -/
theorem polls_complete_timeout : Complete
    (run step (Device.init quietMac) [.poll (some (firstAck, 100)) true, .timeout]) := by
  refine polls_complete quietMac _ ⟨⟨.inl rfl, fun _ => rfl, fun _ => ?_⟩, fun _ => ?_, trivial⟩
  · decide +kernel
  · decide +kernel

/-- A MAC command to the device ends the wait of a poll, which is never confirmed. -/
theorem poll_lost_command : ¬ ∀ events, Complete (run step (Device.init quietMac) events) := by
  intro complete
  obtain ⟨once, -, -, -, -⟩ := complete
    [.poll (some (firstAck, 100)) true, .receive (Octets.ofList [3, 8, 1, 0, 0, 0x34, 0x12, 8]) 101]
  rcases once 1 (by decide +kernel) (by decide +kernel) with ⟨status, confirmed⟩ | ⟨-, waits⟩
  · have unconfirmed : confirms (run step (Device.init quietMac) [.poll (some (firstAck, 100)) true,
        .receive (Octets.ofList [3, 8, 1, 0, 0, 0x34, 0x12, 8]) 101]).mac 1 = [] := by
      decide +kernel
    rw [unconfirmed] at confirmed
    cases confirmed
  · have alarm := waits.alarm
    revert alarm
    decide +kernel

end

end Zboss.Poll
