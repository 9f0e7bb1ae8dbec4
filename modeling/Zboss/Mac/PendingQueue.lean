import Mathlib.Data.List.Count
import Zboss.Lib.Cells
import Zboss.Lib.Run
import Zboss.Mac.Queues

/-!
The frames a coordinator keeps for devices that poll.  A data request command takes the frame
out in two steps: it is sent, with its slot remembered, and when the transmission is over the
slot and the buffers are released.  `pending_buf` is shared with the association responses,
and timers of the slots may end in between.  Frames and received commands are numbered in
the order they come; the number is also that of the buffer.
-/

namespace Zboss.PendingQueue

open Zboss.Cells Zboss.Queues Zboss.Run

/-- A frame for a polling device: an association response or a data frame, its destination, and
whether the status in its buffer is a success. -/
structure Frame where
  number : ℕ
  response : Bool
  dstAddr : ℕ
  hdrOk : Bool
  deriving DecidableEq, Repr

/-- A callback in `mac_tx_q`: an indirect `zb_handle_mcps_data_req`, or
`zb_accept_data_request_cmd` with its buffer and the device that polls. -/
inductive TxCb
  | dataReq (frame : Frame)
  | dataRequestCmd (buf srcAddr : ℕ)
  deriving DecidableEq, Repr

/-- The callback has the command in buffer `n`. -/
def TxCb.carries (n : ℕ) : TxCb → Bool
  | .dataReq _ => false
  | .dataRequestCmd buf _ => buf == n

/-- The callback has frame `n`. -/
def TxCb.hasFrame (n : ℕ) : TxCb → Bool
  | .dataReq frame => frame.number == n
  | .dataRequestCmd _ _ => false

/-- What becomes of a frame: a confirm or a comm-status indication, with a result, or a
comm-status indication that says it has expired. -/
inductive Outcome
  | reported (ok : Bool)
  | expired
  deriving DecidableEq, Repr

/-- `mac_data_req`: the slot that is sent, and whether its frame is an association response. -/
structure MacDataReq where
  dataFoundIndex : ℕ
  response : Bool
  deriving DecidableEq, Repr

/-- The coordinator.  `alarms` are the slots with a running timer, `onAir` the frame in the
transceiver, and `txOk` whether the last one was sent.  Then the frames that were put into
the queue, the commands that were received, the outcomes, the buffers that were freed or
given to the next layer, how the frames were sent, the number of buffers, and accesses to
no buffer. -/
structure Coordinator where
  macTxQ : List TxCb
  txWaitCb : Option MacDataReq
  txCnt : Bool
  onAir : Option ℕ
  txOk : Bool
  pendingBuf : Option ℕ
  pendingDataQueue : ℕ → Option Frame
  alarms : List ℕ
  put : List ℕ
  commands : List ℕ
  outcomes : List (ℕ × Outcome)
  released : List ℕ
  results : List (ℕ × Bool)
  issued : ℕ
  strays : ℕ

namespace Coordinator

def init : Coordinator where
  macTxQ := []
  txWaitCb := none
  txCnt := false
  onAir := none
  txOk := true
  pendingBuf := none
  pendingDataQueue := fun _ => none
  alarms := []
  put := []
  commands := []
  outcomes := []
  released := []
  results := []
  issued := 0
  strays := 0

def scheduleTxCb (w : Coordinator) (cb : TxCb) : Coordinator :=
  { w with macTxQ := Queues.scheduleTxCb w.macTxQ cb }

/-- Write slot `i`. -/
def setSlot (w : Coordinator) (i : ℕ) (frame : Option Frame) : Coordinator :=
  { w with pendingDataQueue := Function.update w.pendingDataQueue i frame }

/-- `zb_mac_put_data_to_pending_queue`; `armed` says that there is an alarm left. -/
def putData (w : Coordinator) (frame : Frame) (armed : Bool) : Coordinator :=
  match freeSlot w.pendingDataQueue with
  | some i =>
    { w with
      alarms := if armed then w.alarms ++ [i] else w.alarms
      put := w.put ++ [frame.number] }.setSlot i (some frame)
  | none => w

/-- The buffer is freed, or belongs to the next layer. -/
def release (w : Coordinator) (buf : ℕ) : Coordinator := { w with released := w.released ++ [buf] }

/-- What becomes of a frame is told. -/
def tell (w : Coordinator) (number : ℕ) (outcome : Outcome) : Coordinator :=
  { w with outcomes := w.outcomes ++ [(number, outcome)] }

/-- An access through `NULL`. -/
def stray (w : Coordinator) : Coordinator := { w with strays := w.strays + 1 }

/-- `zb_mac_pending_data_timeout`, when the timer of slot `i` is over. -/
def pendingDataTimeout (w : Coordinator) (i : ℕ) : Coordinator :=
  if i ∈ w.alarms then
    let w := { w with alarms := w.alarms.erase i }
    let w' := match w.pendingDataQueue i with
      | some frame => (w.tell frame.number .expired).release frame.number
      | none => w.stray
    w'.setSlot i none
  else w

def checkPendingData (w : Coordinator) (srcAddr : ℕ) : Option ℕ :=
  Queues.checkPendingData Frame.dstAddr w.pendingDataQueue srcAddr

/-- `zb_accept_data_request_cmd` and `zb_handle_data_request_cmd`. -/
def handleDataRequestCmd (w : Coordinator) (buf srcAddr : ℕ) (secures : Bool) : Coordinator :=
  let w := { w with pendingBuf := some buf }
  match w.checkPendingData srcAddr with
  | none => { w.release buf with pendingBuf := none }
  | some i =>
    match w.pendingDataQueue i with
    | none => w
    | some frame =>
      -- the callback waits, also when nothing was sent
      { (if secures then { w with txCnt := false, onAir := some frame.number } else w) with
        txWaitCb := some ⟨i, frame.response⟩ }

/-- The end of an association response: `zb_mac_send_comm_status` in `pending_buf`, and the
frame's buffer is freed. -/
def commStatus (w : Coordinator) (frame : Frame) : Coordinator :=
  match w.pendingBuf with
  | some buf =>
    { ((w.tell frame.number (.reported w.txOk)).release buf).release frame.number with
      pendingBuf := none }
  | none => w.stray

def handleDataRequestCmdContinue (w : Coordinator) (req : MacDataReq) : Coordinator :=
  let w := { w with txCnt := true }
  let w' := match w.pendingDataQueue req.dataFoundIndex with
    | none => w.stray
    | some frame =>
      if req.response then w.commStatus frame
      -- the buffer keeps the status it had
      else (w.tell frame.number (.reported frame.hdrOk)).release frame.number
  let w'' := { w' with alarms := w'.alarms.erase req.dataFoundIndex }.setSlot
    req.dataFoundIndex none
  match w''.pendingBuf with
  | some buf => { w''.release buf with pendingBuf := none }
  | none => w''

/-- `zb_mac_main_loop`, the part that sends; what `zb_mcps_data_request_fill_hdr` and
`zb_mac_check_security` return is chosen. -/
def mainLoop (w : Coordinator) (fills secures armed : Bool) : Coordinator :=
  match w.txWaitCb with
  | some req =>
    if w.txCnt then
      { { w with txCnt := false }.handleDataRequestCmdContinue req with txWaitCb := none }
    else w
  | none =>
    match w.macTxQ with
    | [] => w
    | .dataReq frame :: rest =>
      let w := { w with macTxQ := rest, pendingBuf := some frame.number }
      if fills then w.putData frame armed else w
    | .dataRequestCmd buf srcAddr :: rest =>
      { w with macTxQ := rest }.handleDataRequestCmd buf srcAddr secures

/-- `zb_handle_associate_response` in a new buffer. -/
def handleAssociateResponse (w : Coordinator) (dstAddr : ℕ) (armed : Bool) : Coordinator :=
  let frame : Frame := ⟨w.issued, true, dstAddr, true⟩
  let w := { w with issued := w.issued + 1, pendingBuf := some frame.number }
  match freeSlot w.pendingDataQueue with
  | some _ => w.putData frame armed
  -- a comm-status indication takes the buffer
  | none => { w with pendingBuf := none }

/-- The interrupt at the end of a transmission. -/
def txComplete (w : Coordinator) (ok : Bool) : Coordinator :=
  match w.onAir with
  | none => w
  | some n => { w with onAir := none, txCnt := true, txOk := ok, results := w.results ++ [(n, ok)] }

end Coordinator

/-- What happens at the coordinator. -/
inductive Event
  | dataReq (dstAddr : ℕ) (hdrOk : Bool)
  | associateResponse (dstAddr : ℕ) (armed : Bool)
  | dataRequestCmd (srcAddr : ℕ)
  | complete (ok : Bool)
  | timeout (i : ℕ)
  | loop (fills secures armed : Bool)
  deriving DecidableEq, Repr

namespace Coordinator

/-- One event. -/
def step (w : Coordinator) : Event → Coordinator
  | .dataReq dstAddr hdrOk =>
    { w with issued := w.issued + 1 }.scheduleTxCb (.dataReq ⟨w.issued, false, dstAddr, hdrOk⟩)
  | .associateResponse dstAddr armed => w.handleAssociateResponse dstAddr armed
  | .dataRequestCmd srcAddr =>
    { w with issued := w.issued + 1, commands := w.commands ++ [w.issued] }.scheduleTxCb
      (.dataRequestCmd w.issued srcAddr)
  | .complete ok => w.txComplete ok
  | .timeout i => w.pendingDataTimeout i
  | .loop fills secures armed => w.mainLoop fills secures armed

/-! ## The property -/

/-- How many slots have frame `n`. -/
def kept (w : Coordinator) (n : ℕ) : ℕ :=
  (live w.pendingDataQueue macPendingQueueSize).countP (·.any (·.number == n))

/-- The buffer of the command whose frame is being sent. -/
def carrier (w : Coordinator) : List ℕ := if w.txWaitCb.isSome then w.pendingBuf.toList else []

/-- How often buffer `n` has a place: as a frame in a slot, a command in the queue, or the command
whose frame is being sent. -/
def placed (w : Coordinator) (n : ℕ) : ℕ :=
  w.kept n + w.macTxQ.countP (TxCb.carries n) + w.carrier.count n

/-- Every frame in the queue has one outcome or is still there, and what is reported is how it was
sent; every buffer is released once or has one place; the timers are those of the slots in
use; a frame that is being sent is in its slot; and there is no access through `NULL`. -/
structure Settled (w : Coordinator) : Prop where
  outcome : ∀ n ∈ w.put, w.outcomes.countP (·.1 == n) + w.kept n = 1
  report : ∀ n ok, (n, .reported ok) ∈ w.outcomes → (n, ok) ∈ w.results
  buffers : ∀ n, n ∈ w.put ∨ n ∈ w.commands → w.released.count n + w.placed n = 1
  timers : w.alarms.Nodup ∧ ∀ i, i ∈ w.alarms ↔
    i < macPendingQueueSize ∧ w.pendingDataQueue i ≠ none
  sending : ∀ n ∈ w.onAir, w.kept n = 1
  own : w.strays = 0

/-- The callback of the queue does its work: a timer starts for a frame that gets a slot, and the
frame for a device that polls is sent. -/
def Works (w : Coordinator) (fills secures armed : Bool) : TxCb → Prop
  | .dataReq _ => fills = true → (freeSlot w.pendingDataQueue).isSome = true → armed = true
  | .dataRequestCmd _ srcAddr => (w.checkPendingData srcAddr).isSome = true → secures = true

instance worksDecidable (w : Coordinator) (fills secures armed : Bool) :
    ∀ cb, Decidable (w.Works fills secures armed cb)
  | .dataReq _ => inferInstanceAs (Decidable (_ → _ → _))
  | .dataRequestCmd _ _ => inferInstanceAs (Decidable (_ → _))

/-- An association response comes while no frame is being sent, and its timer starts.  A data
request command finds room in the queue.  A data frame is sent with the status that its
buffer has.  The timer of a slot that is being sent does not end.  The callbacks of the
queue do their work. -/
def Careful (w : Coordinator) : Event → Prop
  | .dataReq _ _ => True
  | .associateResponse _ armed =>
    w.txWaitCb = none ∧ ((freeSlot w.pendingDataQueue).isSome = true → armed = true)
  | .dataRequestCmd _ => w.macTxQ.length < macQueueSize
  | .complete ok => ∀ req ∈ w.txWaitCb, req.response = false →
    (w.pendingDataQueue req.dataFoundIndex).any (·.hdrOk == ok) = true
  | .timeout i => ∀ req ∈ w.txWaitCb, req.dataFoundIndex ≠ i
  | .loop fills secures armed =>
    w.txWaitCb = none → ∀ cb ∈ w.macTxQ.head?, w.Works fills secures armed cb

instance carefulDecidable (w : Coordinator) : ∀ e, Decidable (w.Careful e)
  | .dataReq _ _ => isTrue trivial
  | .associateResponse _ _ => inferInstanceAs (Decidable (_ ∧ (_ → _)))
  | .dataRequestCmd _ => inferInstanceAs (Decidable (_ < _))
  | .complete _ => (Option.decidableForallMem _ : Decidable (∀ req ∈ _, _ → _))
  | .timeout _ => (Option.decidableForallMem _ : Decidable (∀ req ∈ _, _))
  | .loop fills secures armed =>
    have : Decidable (∀ cb ∈ w.macTxQ.head?, w.Works fills secures armed cb) :=
      Option.decidableForallMem _
    inferInstanceAs (Decidable (_ → _))

/-! ## What the coordinator keeps -/

/-- How many callbacks of the queue have frame `n`. -/
def queued (w : Coordinator) (n : ℕ) : ℕ := w.macTxQ.countP (TxCb.hasFrame n)

/-- The frame is being sent, or it was the last that was; a data frame has the status of that in
its buffer. -/
def Flies (w : Coordinator) (frame : Frame) : Prop :=
  w.onAir = some frame.number ∧ w.txCnt = false ∨
    w.onAir = none ∧ w.txCnt = true ∧ (frame.number, w.txOk) ∈ w.results ∧
      (frame.response = false → frame.hdrOk = w.txOk)

/-- What holds while a callback waits, or none does. -/
def Waits (w : Coordinator) : Option MacDataReq → Prop
  | none => w.onAir = none
  | some req => req.dataFoundIndex < macPendingQueueSize ∧ w.pendingBuf.isSome = true ∧
    ∃ frame, w.pendingDataQueue req.dataFoundIndex = some frame ∧
      frame.response = req.response ∧ w.Flies frame

/-- What the coordinator keeps between events: the numbers are used once, every frame in the
pending queue has one outcome or one slot, and every buffer is released or placed once. -/
structure Sound (w : Coordinator) : Prop where
  fresh : ∀ n, w.put.count n + w.commands.count n + w.queued n ≤ if n < w.issued then 1 else 0
  outcome : ∀ n, w.outcomes.countP (·.1 == n) + w.kept n = w.put.count n
  buffers : ∀ n, w.released.count n + w.placed n = w.put.count n + w.commands.count n
  report : ∀ n ok, (n, .reported ok) ∈ w.outcomes → (n, ok) ∈ w.results
  timers : w.alarms.Nodup ∧ ∀ i, i ∈ w.alarms ↔
    i < macPendingQueueSize ∧ w.pendingDataQueue i ≠ none
  waits : w.Waits w.txWaitCb
  own : w.strays = 0

variable {w : Coordinator}

theorem setSlot_kept {i : ℕ} (inside : i < macPendingQueueSize) (frame : Option Frame) (n : ℕ) :
    (w.setSlot i frame).kept n + (if (w.pendingDataQueue i).any (·.number == n) then 1 else 0) =
      w.kept n + if frame.any (·.number == n) then 1 else 0 :=
  countP_live_update (a := w.pendingDataQueue) (Option.any fun frame => frame.number == n) frame
    inside

theorem setSlot_kept_some {i : ℕ} (inside : i < macPendingQueueSize)
    (free : w.pendingDataQueue i = none) (frame : Frame) (n : ℕ) :
    (w.setSlot i (some frame)).kept n = w.kept n + if frame.number = n then 1 else 0 := by
  have moved := setSlot_kept (w := w) inside (some frame) n
  simpa [free] using moved

theorem setSlot_kept_none {i : ℕ} (inside : i < macPendingQueueSize) {frame : Frame}
    (there : w.pendingDataQueue i = some frame) (n : ℕ) :
    (w.setSlot i none).kept n + (if frame.number = n then 1 else 0) = w.kept n := by
  have moved := setSlot_kept (w := w) inside none n
  simpa [there] using moved

/-- A frame in a slot is kept. -/
theorem kept_pos {i : ℕ} (inside : i < macPendingQueueSize) {frame : Frame}
    (there : w.pendingDataQueue i = some frame) : 0 < w.kept frame.number := by
  have moved := setSlot_kept_none inside there frame.number
  rw [if_pos rfl] at moved
  omega

theorem setSlot_timers (timers : w.alarms.Nodup ∧ ∀ i, i ∈ w.alarms ↔
    i < macPendingQueueSize ∧ w.pendingDataQueue i ≠ none) (i : ℕ) :
    (w.alarms.erase i).Nodup ∧ ∀ j, j ∈ w.alarms.erase i ↔
      j < macPendingQueueSize ∧ (w.setSlot i none).pendingDataQueue j ≠ none := by
  refine ⟨timers.1.erase i, fun j => ?_⟩
  rw [timers.1.mem_erase_iff, timers.2 j]
  by_cases same : j = i
  · simp [same, setSlot]
  · simp [same, setSlot]

/-! ## The steps -/

/-- While no frame is being sent, `pending_buf` is not looked at. -/
theorem Sound.setPendingBuf (sound : w.Sound) (wait : w.txWaitCb = none) (buf : Option ℕ) :
    ({ w with pendingBuf := buf } : Coordinator).Sound := by
  refine ⟨sound.fresh, sound.outcome, fun n => ?_, sound.report, sound.timers, ?_, sound.own⟩
  · have buffers := sound.buffers n
    simp only [placed, carrier, wait] at buffers ⊢
    exact buffers
  · have waits := sound.waits
    show Waits _ w.txWaitCb
    rw [wait] at waits ⊢
    exact waits

/-- Waiting looks at the slots and the transmission alone. -/
theorem Waits.issue {req : Option MacDataReq} (waits : w.Waits req) (queue : List TxCb)
    (commands : List ℕ) :
    ({ w with
      issued := w.issued + 1
      commands := commands
      macTxQ := queue } : Coordinator).Waits req := by
  cases req with
  | none => exact waits
  | some req => exact waits

/-- A number is given away. -/
theorem Sound.issue (sound : w.Sound) :
    ({ w with issued := w.issued + 1 } : Coordinator).Sound := by
  refine ⟨fun n => ?_, sound.outcome, sound.buffers, sound.report, sound.timers,
    sound.waits.issue w.macTxQ w.commands, sound.own⟩
  have fresh := sound.fresh n
  show w.put.count n + w.commands.count n + w.queued n ≤ if n < w.issued + 1 then 1 else 0
  split at fresh <;> split <;> omega

/-- A number that was not given away is used nowhere. -/
theorem Sound.unused (sound : w.Sound) :
    w.put.count w.issued + w.commands.count w.issued + w.queued w.issued = 0 := by
  have fresh := sound.fresh w.issued
  rw [if_neg (by omega)] at fresh
  omega

theorem Sound.dataReq (sound : w.Sound) (dstAddr : ℕ) (hdrOk : Bool) :
    (w.step (.dataReq dstAddr hdrOk)).Sound := by
  unfold step scheduleTxCb Queues.scheduleTxCb
  dsimp only
  split
  · refine ⟨fun n => ?_, sound.outcome, fun n => ?_, sound.report, sound.timers,
      sound.waits.issue _ w.commands, sound.own⟩
    · have fresh := sound.fresh n
      have unused := sound.unused
      simp only [queued, List.countP_append, List.countP_singleton, TxCb.hasFrame,
        beq_iff_eq] at fresh unused ⊢
      by_cases same : w.issued = n
      · subst same
        rw [if_pos rfl, if_pos (by omega)]
        omega
      · rw [if_neg same]
        split at fresh <;> split <;> omega
    · have buffers := sound.buffers n
      simp only [placed, List.countP_append, List.countP_singleton, TxCb.carries,
        Bool.false_eq_true, if_false, Nat.add_zero] at buffers ⊢
      exact buffers
  · exact sound.issue

theorem Sound.dataRequestCmd (sound : w.Sound) {srcAddr : ℕ}
    (room : w.macTxQ.length < macQueueSize) : (w.step (.dataRequestCmd srcAddr)).Sound := by
  unfold step scheduleTxCb Queues.scheduleTxCb
  dsimp only
  rw [if_pos room]
  refine ⟨fun n => ?_, sound.outcome, fun n => ?_, sound.report, sound.timers,
    sound.waits.issue _ _, sound.own⟩
  · have fresh := sound.fresh n
    have unused := sound.unused
    simp only [queued, List.countP_append, List.countP_singleton, TxCb.hasFrame,
      Bool.false_eq_true, if_false, List.count_append, List.count_singleton,
      beq_iff_eq] at fresh unused ⊢
    by_cases same : w.issued = n
    · subst same
      rw [if_pos rfl, if_pos (by omega)]
      omega
    · rw [if_neg same]
      split at fresh <;> split <;> omega
  · have buffers := sound.buffers n
    simp only [placed, List.countP_append, List.countP_singleton, TxCb.carries,
      List.count_append, List.count_singleton, beq_iff_eq] at buffers ⊢
    show w.released.count n + (w.kept n + _ + w.carrier.count n) = _
    omega

/-- A frame that has a new number is put into the queue. -/
theorem Sound.putData (sound : w.Sound) {frame : Frame} {armed : Bool}
    (fresh : ∀ n, w.put.count n + w.commands.count n + w.queued n +
      (if frame.number = n then 1 else 0) ≤ if n < w.issued then 1 else 0)
    (starts : (freeSlot w.pendingDataQueue).isSome = true → armed = true)
    (wait : w.txWaitCb = none) :
    (w.putData frame armed).Sound := by
  unfold Coordinator.putData
  split
  · next i found =>
    obtain ⟨inside, free⟩ := freeSlot_spec found
    rw [if_pos (starts (by simp [found]))]
    have slot := setSlot_kept_some inside free frame
    refine ⟨fun n => ?_, fun n => ?_, fun n => ?_, sound.report, ⟨?_, fun j => ?_⟩, ?_, sound.own⟩
    · have fresh := fresh n
      show (w.put ++ [frame.number]).count n + w.commands.count n + w.queued n ≤ _
      simp only [List.count_append, List.count_singleton, beq_iff_eq]
      show _ ≤ if n < w.issued then 1 else 0
      omega
    · have outcome := sound.outcome n
      show w.outcomes.countP (·.1 == n) + (w.setSlot i (some frame)).kept n =
        (w.put ++ [frame.number]).count n
      rw [slot n]
      simp only [List.count_append, List.count_singleton, beq_iff_eq]
      omega
    · have buffers := sound.buffers n
      simp only [placed] at buffers
      show w.released.count n + ((w.setSlot i (some frame)).kept n +
          w.macTxQ.countP (TxCb.carries n) + w.carrier.count n) =
        (w.put ++ [frame.number]).count n + w.commands.count n
      rw [slot n]
      simp only [List.count_append, List.count_singleton, beq_iff_eq]
      omega
    · refine List.nodup_append.mpr ⟨sound.timers.1, by simp, fun a member b new => ?_⟩
      rw [List.mem_singleton.mp new]
      rintro rfl
      exact ((sound.timers.2 a).mp member).2 free
    · show j ∈ w.alarms ++ [i] ↔ j < macPendingQueueSize ∧
        Function.update w.pendingDataQueue i (some frame) j ≠ none
      rw [List.mem_append, List.mem_singleton, sound.timers.2 j]
      by_cases same : j = i
      · simp [same, inside]
      · simp [same]
    · have waits := sound.waits
      show Waits _ w.txWaitCb
      rw [wait] at waits ⊢
      exact waits
  · exact sound

theorem Sound.handleAssociateResponse (sound : w.Sound) {dstAddr : ℕ} {armed : Bool}
    (careful : w.Careful (.associateResponse dstAddr armed)) :
    (w.handleAssociateResponse dstAddr armed).Sound := by
  obtain ⟨wait, starts⟩ := careful
  have issued := sound.issue
  unfold Coordinator.handleAssociateResponse
  dsimp only
  split
  · refine Sound.putData (issued.setPendingBuf wait _) (fun n => ?_) starts wait
    have fresh := sound.fresh n
    have unused := sound.unused
    show w.put.count n + w.commands.count n + w.queued n + (if w.issued = n then 1 else 0) ≤
      if n < w.issued + 1 then 1 else 0
    by_cases same : w.issued = n
    · subst same
      rw [if_pos rfl, if_pos (by omega)]
      omega
    · rw [if_neg same]
      split at fresh <;> split <;> omega
  · exact issued.setPendingBuf wait none

/-- A frame leaves its slot with an outcome, and its buffer is released with others. -/
theorem Sound.leave (sound : w.Sound) {i : ℕ} (inside : i < macPendingQueueSize) {frame : Frame}
    (there : w.pendingDataQueue i = some frame) {outcome : Outcome}
    (report : ∀ ok, outcome = .reported ok → (frame.number, ok) ∈ w.results)
    {out : List ℕ} {txCnt : Bool} {buf : Option ℕ} {wait : Option MacDataReq}
    (freed : ∀ n, out.count n + (if wait.isSome then buf.toList else []).count n =
      w.released.count n + (if frame.number = n then 1 else 0) + w.carrier.count n)
    (waits : ({ w with txCnt := txCnt, pendingBuf := buf }.setSlot i none).Waits wait) :
    ({ w with
      txCnt := txCnt
      outcomes := w.outcomes ++ [(frame.number, outcome)]
      released := out
      pendingBuf := buf
      alarms := w.alarms.erase i
      txWaitCb := wait }.setSlot i none).Sound := by
  have slot := setSlot_kept_none inside there
  refine ⟨sound.fresh, fun n => ?_, fun n => ?_, fun n ok member => ?_,
    setSlot_timers sound.timers i, ?_, sound.own⟩
  · have before := sound.outcome n
    have moved := slot n
    show (w.outcomes ++ [(frame.number, outcome)]).countP (·.1 == n) + (w.setSlot i none).kept n =
      w.put.count n
    simp only [List.countP_append, List.countP_singleton, beq_iff_eq]
    omega
  · have buffers := sound.buffers n
    have moved := slot n
    have gone := freed n
    simp only [placed] at buffers
    show out.count n + ((w.setSlot i none).kept n + w.macTxQ.countP (TxCb.carries n) +
        (if wait.isSome then buf.toList else []).count n) =
      w.put.count n + w.commands.count n
    omega
  · rcases List.mem_append.mp member with old | new
    · exact sound.report n ok old
    · obtain ⟨rfl, same⟩ := Prod.ext_iff.mp (List.mem_singleton.mp new)
      exact report ok same.symm
  · cases wait with
    | none => exact waits
    | some req => exact waits

theorem Sound.pendingDataTimeout (sound : w.Sound) {i : ℕ}
    (quiet : ∀ req ∈ w.txWaitCb, req.dataFoundIndex ≠ i) : (w.pendingDataTimeout i).Sound := by
  unfold Coordinator.pendingDataTimeout
  split
  · next runs =>
    obtain ⟨inside, used⟩ := (sound.timers.2 i).mp runs
    obtain ⟨frame, there⟩ := Option.ne_none_iff_exists'.mp used
    dsimp only
    rw [there]
    show ({ w with
      outcomes := w.outcomes ++ [(frame.number, Outcome.expired)]
      released := w.released ++ [frame.number]
      alarms := w.alarms.erase i }.setSlot i none).Sound
    refine sound.leave inside there (fun ok none => by cases none) (fun n => ?_) ?_
    · simp only [List.count_append, List.count_singleton, beq_iff_eq, carrier]
    · have waits := sound.waits
      cases wait : w.txWaitCb with
      | none =>
        rw [wait] at waits
        exact waits
      | some req =>
        rw [wait] at waits
        obtain ⟨within, buf, other, at_, kind, flies⟩ := waits
        refine ⟨within, buf, other, ?_, kind, flies⟩
        simpa [setSlot, quiet req (by simp [wait])] using at_
  · exact sound

theorem Sound.complete (sound : w.Sound) {ok : Bool} (careful : w.Careful (.complete ok)) :
    (w.txComplete ok).Sound := by
  unfold txComplete
  split
  · exact sound
  · next n air =>
    refine ⟨sound.fresh, sound.outcome, sound.buffers, fun m sent member => ?_, sound.timers, ?_,
      sound.own⟩
    · exact List.mem_append_left _ (sound.report m sent member)
    · have waits := sound.waits
      show Waits _ w.txWaitCb
      cases wait : w.txWaitCb with
      | none => rfl
      | some req =>
        rw [wait] at waits
        obtain ⟨within, buf, frame, there, kind, ⟨sends, -⟩ | ⟨gone, -⟩⟩ := waits
        · have same : frame.number = n := by simpa [sends] using air
          refine ⟨within, buf, frame, there, kind, .inr ⟨rfl, rfl, ?_, fun data => ?_⟩⟩
          · simp [same]
          · have status := careful req (by simp [wait]) (kind ▸ data)
            simpa [there] using status
        · rw [gone] at air
          cases air

/-- The end of a transmission: the frame leaves the queue, and its buffer and that of the command
are released. -/
theorem Sound.continue (sound : w.Sound) {req : MacDataReq} (wait : w.txWaitCb = some req)
    (done : w.txCnt = true) :
    ({ { w with txCnt := false }.handleDataRequestCmdContinue req with
      txWaitCb := none } : Coordinator).Sound := by
  have waits := sound.waits
  rw [wait] at waits
  obtain ⟨within, pending, frame, there, kind, ⟨-, busy⟩ | ⟨gone, -, sent, data⟩⟩ := waits
  · rw [done] at busy
    cases busy
  · obtain ⟨buf, pending⟩ := Option.isSome_iff_exists.mp pending
    have carried : w.carrier = [buf] := by simp [carrier, wait, pending]
    obtain ⟨i, response⟩ := req
    cases response with
    | true =>
      have after : ({ { w with txCnt := false }.handleDataRequestCmdContinue ⟨i, true⟩ with
          txWaitCb := none } : Coordinator) =
          { w with
            txCnt := true
            outcomes := w.outcomes ++ [(frame.number, Outcome.reported w.txOk)]
            released := w.released ++ [buf] ++ [frame.number]
            pendingBuf := none
            alarms := w.alarms.erase i
            txWaitCb := none }.setSlot i none := by
        simp [handleDataRequestCmdContinue, show w.pendingDataQueue i = _ from there, commStatus,
          pending, tell, release, setSlot]
      rw [after]
      refine sound.leave within there (fun ok same => ?_) (fun n => ?_) gone
      · cases same
        exact sent
      · simp only [carried, List.count_append, List.count_singleton, List.count_nil, beq_iff_eq,
          Option.isSome_none, Bool.false_eq_true, if_false]
        omega
    | false =>
      have after : ({ { w with txCnt := false }.handleDataRequestCmdContinue ⟨i, false⟩ with
          txWaitCb := none } : Coordinator) =
          { w with
            txCnt := true
            outcomes := w.outcomes ++ [(frame.number, Outcome.reported frame.hdrOk)]
            released := w.released ++ [frame.number] ++ [buf]
            pendingBuf := none
            alarms := w.alarms.erase i
            txWaitCb := none }.setSlot i none := by
        simp [handleDataRequestCmdContinue, show w.pendingDataQueue i = _ from there, pending,
          tell, release, setSlot]
      rw [after]
      refine sound.leave within there (fun ok same => ?_) (fun n => ?_) gone
      · cases same
        rw [data kind]
        exact sent
      · simp only [carried, List.count_append, List.count_singleton, List.count_nil, beq_iff_eq,
          Option.isSome_none, Bool.false_eq_true, if_false]
        omega

/-- The first callback of the queue, a data request command, is taken and its buffer released. -/
theorem Sound.dropCmd (sound : w.Sound) (wait : w.txWaitCb = none) {buf srcAddr : ℕ}
    {rest : List TxCb} (queue : w.macTxQ = .dataRequestCmd buf srcAddr :: rest) :
    ({ w with
      macTxQ := rest
      pendingBuf := none
      released := w.released ++ [buf] } : Coordinator).Sound := by
  refine ⟨fun n => ?_, sound.outcome, fun n => ?_, sound.report, sound.timers, ?_, sound.own⟩
  · have fresh := sound.fresh n
    simp only [queued, queue, List.countP_cons, TxCb.hasFrame, Bool.false_eq_true,
      if_false] at fresh ⊢
    exact fresh
  · have buffers := sound.buffers n
    simp only [placed, carrier, queue, wait, List.countP_cons, TxCb.carries, beq_iff_eq,
      List.count_append, List.count_singleton, List.count_nil, Option.isSome_none,
      Bool.false_eq_true, if_false] at buffers ⊢
    show w.released.count n + _ + (w.kept n + _ + 0) = _
    omega
  · have waits := sound.waits
    show Waits _ w.txWaitCb
    rw [wait] at waits ⊢
    exact waits

/-- The first callback of the queue, a data request command, is taken and the frame of its slot is
sent. -/
theorem Sound.serveCmd (sound : w.Sound) (wait : w.txWaitCb = none) {buf srcAddr : ℕ}
    {rest : List TxCb} (queue : w.macTxQ = .dataRequestCmd buf srcAddr :: rest) {i : ℕ}
    (inside : i < macPendingQueueSize) {frame : Frame}
    (there : w.pendingDataQueue i = some frame) :
    ({ w with
      macTxQ := rest
      pendingBuf := some buf
      txCnt := false
      onAir := some frame.number
      txWaitCb := some ⟨i, frame.response⟩ } : Coordinator).Sound := by
  refine ⟨fun n => ?_, sound.outcome, fun n => ?_, sound.report, sound.timers,
    ⟨inside, rfl, frame, there, rfl, .inl ⟨rfl, rfl⟩⟩, sound.own⟩
  · have fresh := sound.fresh n
    simp only [queued, queue, List.countP_cons, TxCb.hasFrame, Bool.false_eq_true,
      if_false] at fresh ⊢
    exact fresh
  · have buffers := sound.buffers n
    simp only [placed, carrier, queue, wait, List.countP_cons, TxCb.carries, beq_iff_eq,
      List.count_singleton, List.count_nil, Option.isSome_none, Option.isSome_some,
      Option.toList_some, Bool.false_eq_true, if_false, if_true] at buffers ⊢
    show w.released.count n + (w.kept n + _ + _) = _
    omega

/-- The first callback of the queue, a data request, is taken. -/
theorem Sound.serveData (sound : w.Sound) (wait : w.txWaitCb = none) {frame : Frame}
    {rest : List TxCb} (queue : w.macTxQ = .dataReq frame :: rest) {fills armed : Bool}
    (starts : fills = true → (freeSlot w.pendingDataQueue).isSome = true → armed = true) :
    (if fills then
      { w with macTxQ := rest, pendingBuf := some frame.number }.putData frame armed
    else { w with macTxQ := rest, pendingBuf := some frame.number }).Sound := by
  have taken : ∀ n, w.queued n =
      rest.countP (TxCb.hasFrame n) + if frame.number = n then 1 else 0 := fun n => by
    simp only [queued, queue, List.countP_cons, TxCb.hasFrame, beq_iff_eq]
  have popped : ({ w with macTxQ := rest, pendingBuf := some frame.number } :
      Coordinator).Sound := by
    refine ⟨fun n => ?_, sound.outcome, fun n => ?_, sound.report, sound.timers, ?_, sound.own⟩
    · have fresh := sound.fresh n
      rw [taken n] at fresh
      show w.put.count n + w.commands.count n + rest.countP (TxCb.hasFrame n) ≤ _
      exact Nat.le_trans (by omega) fresh
    · have buffers := sound.buffers n
      simp only [placed, carrier, queue, wait, List.countP_cons, TxCb.carries,
        Bool.false_eq_true, if_false, Option.isSome_none] at buffers ⊢
      exact buffers
    · have waits := sound.waits
      show Waits _ w.txWaitCb
      rw [wait] at waits ⊢
      exact waits
  split
  · next is_ =>
    refine popped.putData (fun n => ?_) (starts is_) wait
    have fresh := sound.fresh n
    rw [taken n, ← Nat.add_assoc] at fresh
    exact fresh
  · exact popped

theorem Sound.mainLoop (sound : w.Sound) {fills secures armed : Bool}
    (careful : w.Careful (.loop fills secures armed)) :
    (w.mainLoop fills secures armed).Sound := by
  unfold Coordinator.mainLoop
  split
  · next req wait =>
    split
    · next done => exact sound.continue wait done
    · exact sound
  · next wait =>
    split
    · exact sound
    · next frame rest queue =>
      exact sound.serveData wait queue (careful wait (.dataReq frame) (by simp [queue]))
    · next buf srcAddr rest queue =>
      have works := careful wait (.dataRequestCmd buf srcAddr) (by simp [queue])
      cases found : w.checkPendingData srcAddr with
      | none =>
        have after : ({ w with macTxQ := rest } : Coordinator).handleDataRequestCmd buf srcAddr
            secures =
            { w with
              macTxQ := rest
              pendingBuf := none
              released := w.released ++ [buf] } := by
          have missed : ({ w with macTxQ := rest, pendingBuf := some buf } :
              Coordinator).checkPendingData srcAddr = none := found
          simp [handleDataRequestCmd, missed, release]
        rw [after]
        exact sound.dropCmd wait queue
      | some i =>
        obtain ⟨inside, frame, there⟩ := checkPendingData_spec found
        have after : ({ w with macTxQ := rest } : Coordinator).handleDataRequestCmd buf srcAddr
            secures =
            { w with
              macTxQ := rest
              pendingBuf := some buf
              txCnt := false
              onAir := some frame.number
              txWaitCb := some ⟨i, frame.response⟩ } := by
          have same : ({ w with macTxQ := rest, pendingBuf := some buf } :
              Coordinator).checkPendingData srcAddr = some i := found
          simp [handleDataRequestCmd, same, there, works (by simp [found])]
        rw [after]
        exact sound.serveCmd wait queue inside there

theorem Sound.step (sound : w.Sound) (e : Event) (careful : w.Careful e) : (w.step e).Sound := by
  cases e with
  | dataReq dstAddr hdrOk => exact sound.dataReq dstAddr hdrOk
  | associateResponse dstAddr armed => exact sound.handleAssociateResponse careful
  | dataRequestCmd srcAddr => exact sound.dataRequestCmd careful
  | complete ok => exact sound.complete careful
  | timeout i => exact sound.pendingDataTimeout careful
  | loop fills secures armed => exact sound.mainLoop careful

theorem init_sound : init.Sound where
  fresh := fun n => by simp [init, queued]
  outcome := fun n => by simp [init, kept, live]
  buffers := fun n => by simp [init, placed, kept, carrier, live]
  report := fun n ok member => by cases member
  timers := ⟨List.nodup_nil, fun i => by simp [init]⟩
  waits := rfl
  own := rfl

/-- A number is that of one frame or one command. -/
theorem Sound.unique (sound : w.Sound) (n : ℕ) : w.put.count n + w.commands.count n ≤ 1 := by
  have fresh := sound.fresh n
  split at fresh <;> omega

/-- A frame that is being sent is in its slot. -/
theorem Sound.sending (sound : w.Sound) {n : ℕ} (air : w.onAir = some n) : w.kept n = 1 := by
  have waits := sound.waits
  obtain ⟨wait, is_⟩ : ∃ wait, w.txWaitCb = wait := ⟨_, rfl⟩
  rw [is_] at waits
  match wait, waits with
  | none, gone =>
    rw [show w.onAir = none from gone] at air
    cases air
  | some _, ⟨inside, _, frame, there, _, flies⟩ =>
    have same : frame.number = n := by
      rcases flies with ⟨sends, -⟩ | ⟨gone, -⟩
      · simpa [sends] using air
      · rw [gone] at air
        cases air
    have present := kept_pos inside there
    have outcome := sound.outcome n
    have unique := sound.unique n
    rw [same] at present
    omega

theorem Sound.settled (sound : w.Sound) : w.Settled where
  outcome := fun n member => by
    have outcome := sound.outcome n
    have unique := sound.unique n
    have present := List.count_pos_iff.mpr member
    omega
  report := sound.report
  buffers := fun n member => by
    have buffers := sound.buffers n
    have unique := sound.unique n
    have present : 0 < w.put.count n + w.commands.count n := by
      rcases member with frame | command
      · exact Nat.lt_of_lt_of_le (List.count_pos_iff.mpr frame) (Nat.le_add_right _ _)
      · exact Nat.lt_of_lt_of_le (List.count_pos_iff.mpr command) (Nat.le_add_left _ _)
    omega
  timers := sound.timers
  sending := fun n air => sound.sending air
  own := sound.own

/-- **Indirect transmission.**  Where association responses come while no frame is being sent, the
timer of a slot that is being sent does not end, data request commands find room, securing
succeeds, timers start, and a data frame is sent with the status its buffer has, every frame
in the pending queue has one outcome, which is how it was sent, its slot and buffer are
released once and not while it is sent, its timer goes with it, and every buffer of a data
request command is freed once. -/
theorem pending_queue (events : List Event) (careful : Along step Careful init events) :
    (run step init events).Settled :=
  (invariant_of_along (fun _ e sound careful => sound.step e careful) init events init_sound
    careful).settled

/-- Two frames: one is sent to the device that polls, and one expires. -/
theorem pending_queue_twoFrames :
    (run step init [.associateResponse 1 true, .dataReq 2 true, .loop true true true,
      .dataRequestCmd 2, .loop true true true, .complete true, .loop true true true,
      .dataRequestCmd 2, .loop true true true, .timeout 0]).Settled :=
  pending_queue _ (by decide)

/-- The timer of an association response ends while it is being sent: the slot is released. -/
theorem sentFrame_expires : ¬∀ events, (run step init events).Settled := by
  intro claim
  have sending := (claim [.associateResponse 1 true, .dataRequestCmd 1, .loop true true true,
    .timeout 0]).sending 0 (by decide)
  exact absurd sending (by decide)

end Coordinator

end Zboss.PendingQueue
