import Zboss.Lib.Cells
import Zboss.Lib.Run
import Zboss.Mac.Queues

/-!
MCPS-DATA requests in the MAC: the queue of callbacks that need the transceiver, the callback
that waits for the end of a transmission, and the frames kept for devices that poll.  The
queue also serves received data request commands and beacon requests.  What filling the
header, securing and the transceiver answer is chosen by the environment.
-/

namespace Zboss.McpsData

open Zboss.Cells Zboss.Queues Zboss.Run

/-- The values of `mac_status` that a data request can meet. -/
inductive MacStatus
  | success
  | channelAccessFailure
  | noAck
  | transactionOverflow
  | counterError
  deriving DecidableEq, Repr

/-- A request, numbered in the order of the calls: its transmission option, destination, and the
status its buffer has already. -/
structure Request where
  number : ℕ
  indirect : Bool
  dstAddr : ℕ
  hdrStatus : MacStatus
  deriving DecidableEq, Repr

/-- A callback in `mac_tx_q`: `zb_handle_mcps_data_req`, `zb_accept_data_request_cmd` for a command
of a device, or `zb_handle_beacon_req`. -/
inductive TxCb
  | dataReq (req : Request)
  | dataRequestCmd (srcAddr : ℕ)
  | beaconReq
  deriving DecidableEq, Repr

/-- `tx_wait_cb`: `zb_handle_mcps_data_req_continue`, or `zb_handle_data_request_cmd_continue` with
the slot and whether its frame is a data frame, as `mac_data_req` keeps them. -/
inductive WaitCb
  | dataReq (req : Request)
  | dataRequestCmd (dataFoundIndex : ℕ) (data : Bool)
  deriving DecidableEq, Repr

/-- The callback waits for the end of a direct data request. -/
def WaitCb.direct : WaitCb → Bool
  | .dataReq _ => true
  | .dataRequestCmd _ _ => false

/-- The callback waits for the end of a data frame for a polling device. -/
def WaitCb.polledData : WaitCb → Bool
  | .dataReq _ => false
  | .dataRequestCmd _ data => data

/-- The frame in slot `i` is the one that is sent. -/
def WaitCb.uses (i : ℕ) : WaitCb → Bool
  | .dataReq _ => false
  | .dataRequestCmd dataFoundIndex _ => dataFoundIndex == i

/-- `zb_mac_pending_data_t`: a data request, or an association response. -/
structure PendingData where
  req : Option Request
  dstAddr : ℕ
  deriving DecidableEq, Repr

/-- The callback is the one of request `n`. -/
def TxCb.isOf (n : ℕ) : TxCb → Bool
  | .dataReq req => req.number == n
  | .dataRequestCmd _ => false
  | .beaconReq => false

@[inherit_doc TxCb.isOf]
def WaitCb.isOf (n : ℕ) : WaitCb → Bool
  | .dataReq req => req.number == n
  | .dataRequestCmd _ _ => false

@[inherit_doc TxCb.isOf]
def PendingData.isOf (n : ℕ) (data : PendingData) : Bool := data.req.any (·.number == n)

/-- The MAC.  `onAir` are the frames in the transceiver, the request of each if any; `txStatus` the
channel error of the last one that completed.  Then the confirms, how the transmission of a
request ended, the number of requests, and confirms of no request's buffer. -/
structure Mac where
  macTxQ : List TxCb
  txWaitCb : Option WaitCb
  txCnt : Bool
  onAir : List (Option ℕ)
  txStatus : Option MacStatus
  macStatus : MacStatus
  pendingDataQueue : ℕ → Option PendingData
  out : List Request
  confirms : List (ℕ × MacStatus)
  results : ℕ → Option MacStatus
  issued : ℕ
  strays : ℕ

namespace Mac

/-- A MAC before the first request. -/
def init : Mac where
  macTxQ := []
  txWaitCb := none
  txCnt := false
  onAir := []
  txStatus := none
  macStatus := .success
  pendingDataQueue := fun _ => none
  out := []
  confirms := []
  results := fun _ => none
  issued := 0
  strays := 0

def scheduleTxCb (w : Mac) (cb : TxCb) : Mac :=
  { w with macTxQ := Queues.scheduleTxCb w.macTxQ cb }

def transSendCommand (w : Mac) (frame : Option ℕ) : Mac :=
  { w with txCnt := false, onAir := w.onAir ++ [frame] }

/-- Write slot `i`. -/
def setSlot (w : Mac) (i : ℕ) (data : Option PendingData) : Mac :=
  { w with pendingDataQueue := Function.update w.pendingDataQueue i data }

/-- `zb_mcps_data_confirm` is scheduled for the buffer of a request. -/
def confirm (w : Mac) (req : Request) (status : MacStatus) : Mac :=
  { w with confirms := w.confirms ++ [(req.number, status)] }

/-- `zb_handle_mcps_data_req`: what `zb_mcps_data_request_fill_hdr` and `zb_mac_check_security`
return is chosen. -/
def handleMcpsDataReq (w : Mac) (req : Request) (fills secures : Bool) : Mac :=
  let w := { w with macStatus := .success }
  if fills then
    if req.indirect then
      match freeSlot w.pendingDataQueue with
      | some i => w.setSlot i (some ⟨some req, req.dstAddr⟩)
      -- zb_mac_put_request_to_queue: nothing takes requests out again
      | none => { w with out := w.out ++ [req] }
    else if secures then
      { w with txWaitCb := some (.dataReq req) }.transSendCommand (some req.number)
    else w
  else { w with macStatus := .counterError }

def checkCmdTxStatus (w : Mac) : Mac :=
  match w.txStatus with
  | some status => { w with macStatus := status }
  | none => w

def handleMcpsDataReqContinue (w : Mac) (req : Request) : Mac :=
  let w := { w with txCnt := true }.checkCmdTxStatus
  w.confirm req w.macStatus

def checkPendingData (w : Mac) (srcAddr : ℕ) : Option ℕ :=
  Queues.checkPendingData PendingData.dstAddr w.pendingDataQueue srcAddr

def handleDataRequestCmd (w : Mac) (srcAddr : ℕ) (secures : Bool) : Mac :=
  let w' := { w with macStatus := .success }
  match w.checkPendingData srcAddr with
  | none => w'
  | some i =>
    match w.pendingDataQueue i with
    | none => w'
    | some data =>
      -- the callback waits, also when nothing was sent
      { (if secures then w'.transSendCommand (data.req.map (·.number)) else w') with
        txWaitCb := some (.dataRequestCmd i data.req.isSome) }

/-- `zb_handle_data_request_cmd_continue`: a data frame is confirmed without a status, an
association response is freed. -/
def handleDataRequestCmdContinue (w : Mac) (i : ℕ) (data : Bool) : Mac :=
  let w := { w with txCnt := true }.checkCmdTxStatus
  let w' :=
    if data then
      match (w.pendingDataQueue i).bind (·.req) with
      | some req => w.confirm req req.hdrStatus
      | none => { w with strays := w.strays + 1 }
    else w
  w'.setSlot i none

/-- Call the callback that waits for the end of a transmission. -/
def callWaitCb (w : Mac) : WaitCb → Mac
  | .dataReq req => w.handleMcpsDataReqContinue req
  | .dataRequestCmd i data => w.handleDataRequestCmdContinue i data

/-- Call a callback that needs the transceiver. -/
def callTxCb (w : Mac) (fills secures : Bool) : TxCb → Mac
  | .dataReq req => w.handleMcpsDataReq req fills secures
  | .dataRequestCmd srcAddr => w.handleDataRequestCmd srcAddr secures
  -- no callback waits for the end of the beacon
  | .beaconReq => w.transSendCommand none

/-- `zb_mac_main_loop`, the part that sends. -/
def mainLoop (w : Mac) (fills secures : Bool) : Mac :=
  match w.txWaitCb with
  | some cb =>
    if w.txCnt then { callWaitCb { w with txCnt := false } cb with txWaitCb := none } else w
  | none =>
    match w.macTxQ with
    | [] => w
    | cb :: rest => { w.callTxCb fills secures cb with macTxQ := rest }

/-- The interrupt at the end of a transmission. -/
def txComplete (w : Mac) (status : Option MacStatus) : Mac :=
  match w.onAir with
  | [] => w
  | frame :: rest =>
    { w with
      onAir := rest
      txCnt := true
      txStatus := status
      results := match frame with
        | some n => Function.update w.results n (some (status.getD .success))
        | none => w.results }

def mlmeAssociateResponse (w : Mac) (dstAddr : ℕ) : Mac :=
  match freeSlot w.pendingDataQueue with
  | some i => { w with macStatus := .success }.setSlot i (some ⟨none, dstAddr⟩)
  | none => { w with macStatus := .transactionOverflow }

end Mac

/-- What happens at the MAC: a data request, received data request commands and beacon requests,
an association response, the end of a transmission, a frame for a polling device that
expires, and an iteration of the main loop. -/
inductive Event
  | request (indirect : Bool) (dstAddr : ℕ) (hdrStatus : MacStatus)
  | dataRequestCmd (srcAddr : ℕ)
  | beaconReq
  | associateResponse (dstAddr : ℕ)
  | complete (status : Option MacStatus)
  | expire (i : ℕ)
  | loop (fills secures : Bool)
  deriving DecidableEq, Repr

namespace Mac

/-- One event. -/
def step (w : Mac) : Event → Mac
  | .request indirect dstAddr hdrStatus =>
    { w with issued := w.issued + 1 }.scheduleTxCb
      (.dataReq ⟨w.issued, indirect, dstAddr, hdrStatus⟩)
  | .dataRequestCmd srcAddr => w.scheduleTxCb (.dataRequestCmd srcAddr)
  | .beaconReq => w.scheduleTxCb .beaconReq
  | .associateResponse dstAddr => w.mlmeAssociateResponse dstAddr
  | .complete status => w.txComplete status
  | .expire i => w.setSlot i none
  | .loop fills secures => w.mainLoop fills secures

/-! ## The property -/

/-- How often the buffer of request `n` is queued, waits for the end of its transmission, or is
kept for a polling device. -/
def held (w : Mac) (n : ℕ) : ℕ :=
  w.macTxQ.countP (TxCb.isOf n) + w.txWaitCb.toList.countP (WaitCb.isOf n) +
    (live w.pendingDataQueue macPendingQueueSize).countP (·.any (PendingData.isOf n))

/-- How often request `n` was confirmed. -/
def confirmed (w : Mac) (n : ℕ) : ℕ := w.confirms.countP (·.1 == n)

/-- Every request is either confirmed, once, or in one place from which it will be; its confirm has
the status of its transmission; no other buffer was confirmed; and a callback waits only for
a frame that the transceiver has, or one that has completed. -/
structure Served (w : Mac) : Prop where
  once : ∀ n < w.issued, w.confirmed n + w.held n = 1
  status : ∀ call ∈ w.confirms, w.results call.1 = some call.2
  own : w.strays = 0
  waits : w.txWaitCb ≠ none → w.txCnt = true ∨ w.onAir ≠ []

/-- The callback sends what it is for: header, security and slot are there, and a frame whose end
a data request waits for is alone in the transceiver. -/
def Sends (w : Mac) (fills secures : Bool) : TxCb → Prop
  | .dataReq req =>
    fills = true ∧ if req.indirect then (freeSlot w.pendingDataQueue).isSome = true
      else secures = true ∧ w.onAir = []
  | .dataRequestCmd srcAddr => ∀ i ∈ w.checkPendingData srcAddr,
    secures = true ∧ ((w.pendingDataQueue i).any (·.req.isSome) = true → w.onAir = [])
  | .beaconReq => True

instance sendsDecidable (w : Mac) (fills secures : Bool) :
    ∀ cb, Decidable (w.Sends fills secures cb)
  | .dataReq _ => inferInstanceAs (Decidable (_ ∧ _))
  | .dataRequestCmd _ => (Option.decidableForallMem _ : Decidable (∀ i ∈ _, _ ∧ (_ → _)))
  | .beaconReq => isTrue trivial

/-- A request finds room in the queue, and the buffer of an indirect one has no status.  An
association response finds a slot unless no direct request waits.  A frame for a polling
device is transmitted well; it does not expire if it is a data frame or being sent.  The
main loop serves callbacks that send what they are for. -/
def Careful (w : Mac) : Event → Prop
  | .request indirect _ hdrStatus =>
    w.macTxQ.length < macQueueSize ∧ (indirect = true → hdrStatus = .success)
  | .dataRequestCmd _ => True
  | .beaconReq => True
  | .associateResponse _ =>
    (freeSlot w.pendingDataQueue).isSome ∨ w.txWaitCb.any WaitCb.direct = false
  | .complete status => w.txWaitCb.any WaitCb.polledData = true → status = none
  | .expire i => (w.pendingDataQueue i).any (·.req.isSome) = false ∧
    w.txWaitCb.any (WaitCb.uses i) = false
  | .loop fills secures =>
    w.txWaitCb = none → ∀ cb ∈ w.macTxQ.head?, w.Sends fills secures cb

instance carefulDecidable (w : Mac) : ∀ e, Decidable (w.Careful e)
  | .request _ _ _ => inferInstanceAs (Decidable (_ ∧ _))
  | .dataRequestCmd _ => isTrue trivial
  | .beaconReq => isTrue trivial
  | .associateResponse _ => inferInstanceAs (Decidable (_ ∨ _))
  | .complete _ => inferInstanceAs (Decidable (_ → _))
  | .expire _ => inferInstanceAs (Decidable (_ ∧ _))
  | .loop fills secures =>
    have : Decidable (∀ cb ∈ w.macTxQ.head?, w.Sends fills secures cb) :=
      Option.decidableForallMem _
    inferInstanceAs (Decidable (_ → _))

/-! ## What the MAC keeps -/

/-- The frame of request `n` is alone in the transceiver, or it was the last to complete. -/
def Flies (w : Mac) (n : ℕ) : Prop :=
  w.onAir = [some n] ∧ w.txCnt = false ∨
    w.onAir = [] ∧ w.txCnt = true ∧ w.results n = some (w.txStatus.getD .success)

/-- What holds while a callback waits, or none does. -/
def Waits (w : Mac) : Option WaitCb → Prop
  | none => ∀ frame ∈ w.onAir, frame = none
  | some (.dataReq req) => w.macStatus = .success ∧ w.Flies req.number
  | some (.dataRequestCmd i true) => i < macPendingQueueSize ∧
    ∃ req dstAddr, w.pendingDataQueue i = some ⟨some req, dstAddr⟩ ∧ w.Flies req.number ∧
      (w.txCnt = true → w.txStatus = none)
  | some (.dataRequestCmd i false) => i < macPendingQueueSize ∧
    (∃ dstAddr, w.pendingDataQueue i = some ⟨none, dstAddr⟩) ∧
      (∀ frame ∈ w.onAir, frame = none) ∧ (w.txCnt = true ∨ w.onAir ≠ [])

/-- What the MAC keeps between events. -/
structure Sound (w : Mac) : Prop where
  once : ∀ n, w.confirmed n + w.held n = if n < w.issued then 1 else 0
  status : ∀ call ∈ w.confirms, w.results call.1 = some call.2
  own : w.strays = 0
  waits : w.Waits w.txWaitCb
  queued : ∀ req, .dataReq req ∈ w.macTxQ → req.indirect = true → req.hdrStatus = .success
  kept : ∀ i req dstAddr, w.pendingDataQueue i = some ⟨some req, dstAddr⟩ →
    req.hdrStatus = .success

variable {w : Mac}

theorem setSlot_held {i : ℕ} (inside : i < macPendingQueueSize) (data : Option PendingData)
    (n : ℕ) :
    (w.setSlot i data).held n +
        (if (w.pendingDataQueue i).any (PendingData.isOf n) then 1 else 0) =
      w.held n + if data.any (PendingData.isOf n) then 1 else 0 := by
  have moved := countP_live_update (a := w.pendingDataQueue) (·.any (PendingData.isOf n)) data
    inside
  unfold held
  simp only [setSlot] at *
  omega

theorem confirm_confirmed (req : Request) (status : MacStatus) (n : ℕ) :
    (w.confirm req status).confirmed n = w.confirmed n + if req.number = n then 1 else 0 := by
  simp [confirm, confirmed, List.countP_append, List.countP_cons]

/-- A callback that is not a data request is queued, or is not. -/
theorem Sound.scheduleTxCb (sound : w.Sound) {cb : TxCb} (other : ∀ n, cb.isOf n = false) :
    (w.scheduleTxCb cb).Sound := by
  unfold Mac.scheduleTxCb Queues.scheduleTxCb
  split
  · refine ⟨fun n => ?_, sound.status, sound.own, sound.waits, fun req member => ?_, sound.kept⟩
    · have once := sound.once n
      simp only [held, List.countP_append, List.countP_singleton, other n] at once ⊢
      exact once
    · rcases List.mem_append.mp member with old | new
      · exact sound.queued req old
      · have own := other req.number
        rw [← List.mem_singleton.mp new] at own
        simp [TxCb.isOf] at own
  · exact sound

theorem Sound.request (sound : w.Sound) {indirect : Bool} {dstAddr : ℕ} {hdrStatus : MacStatus}
    (room : w.macTxQ.length < macQueueSize) (fresh : indirect = true → hdrStatus = .success) :
    (w.step (.request indirect dstAddr hdrStatus)).Sound := by
  simp only [Mac.step, Mac.scheduleTxCb, Queues.scheduleTxCb, if_pos room]
  refine ⟨fun n => ?_, sound.status, sound.own, sound.waits, fun req member => ?_, sound.kept⟩
  · have once := sound.once n
    simp only [held, confirmed, List.countP_append, List.countP_singleton, TxCb.isOf,
      beq_iff_eq] at once ⊢
    split_ifs at once ⊢ <;> omega
  · rcases List.mem_append.mp member with old | new
    · exact sound.queued req old
    · obtain rfl : req = ⟨w.issued, indirect, dstAddr, hdrStatus⟩ := by
        simpa using List.mem_singleton.mp new
      exact fresh

/-- A waiting callback stays served when other slots are written. -/
theorem Waits.setSlot {wait : Option WaitCb} (waits : w.Waits wait) {i : ℕ}
    (other : wait.any (WaitCb.uses i) = false) (data : Option PendingData) :
    (w.setSlot i data).Waits wait := by
  match wait, waits with
  | none, waits => exact waits
  | some (.dataReq _), waits => exact waits
  | some (.dataRequestCmd j true), ⟨inside, req, dstAddr, there, flies⟩ =>
    have differs : j ≠ i := by simpa [WaitCb.uses] using other
    exact ⟨inside, req, dstAddr, by simpa [Mac.setSlot, differs] using there, flies⟩
  | some (.dataRequestCmd j false), ⟨inside, ⟨dstAddr, there⟩, rest⟩ =>
    have differs : j ≠ i := by simpa [WaitCb.uses] using other
    exact ⟨inside, ⟨dstAddr, by simpa [Mac.setSlot, differs] using there⟩, rest⟩

/-- The slot a waiting callback uses is taken. -/
theorem Waits.slot {wait : Option WaitCb} (waits : w.Waits wait) {i : ℕ}
    (uses : wait.any (WaitCb.uses i) = true) : ∃ data, w.pendingDataQueue i = some data := by
  match wait, waits with
  | some (.dataRequestCmd j true), ⟨_, req, dstAddr, there, _⟩ =>
    obtain rfl : j = i := by simpa [WaitCb.uses] using uses
    exact ⟨_, there⟩
  | some (.dataRequestCmd j false), ⟨_, ⟨dstAddr, there⟩, _⟩ =>
    obtain rfl : j = i := by simpa [WaitCb.uses] using uses
    exact ⟨_, there⟩

/-- A slot that holds no data request, and is not being sent, may be written with another such
entry. -/
theorem Sound.setSlot (sound : w.Sound) {i : ℕ} {data : Option PendingData}
    (empty : (w.pendingDataQueue i).any (·.req.isSome) = false)
    (plain : data.any (·.req.isSome) = false) (other : w.txWaitCb.any (WaitCb.uses i) = false) :
    (w.setSlot i data).Sound := by
  have noReq : ∀ {data : Option PendingData}, data.any (·.req.isSome) = false → ∀ n,
      data.any (PendingData.isOf n) = false := by
    intro data plain n
    cases data with
    | none => rfl
    | some data =>
      cases has : data.req with
      | none => simp [PendingData.isOf, has]
      | some req => simp [has] at plain
  refine ⟨fun n => ?_, sound.status, sound.own, sound.waits.setSlot other data, sound.queued,
    fun j req dstAddr there => ?_⟩
  · have once := sound.once n
    by_cases inside : i < macPendingQueueSize
    · have moved := setSlot_held (w := w) inside data n
      simp only [noReq empty n, noReq plain n] at moved
      show w.confirmed n + (w.setSlot i data).held n = _
      simp only [Bool.false_eq_true, if_false, Nat.add_zero] at moved
      rw [moved]
      exact once
    · have same := live_update_of_le (a := w.pendingDataQueue) data (Nat.le_of_not_lt inside)
      simp only [held, Mac.setSlot, same]
      exact once
  · by_cases same : j = i
    · subst same
      simp only [Mac.setSlot, Function.update_self] at there
      rw [there] at plain
      simp at plain
    · exact sound.kept j req dstAddr (by simpa [Mac.setSlot, same] using there)

theorem Sound.clearStatus (sound : w.Sound) : ({ w with macStatus := .success } : Mac).Sound := by
  refine ⟨sound.once, sound.status, sound.own, ?_, sound.queued, sound.kept⟩
  have waits := sound.waits
  show Mac.Waits _ w.txWaitCb
  match w.txWaitCb, waits with
  | none, waits => exact waits
  | some (.dataReq _), ⟨_, flies⟩ => exact ⟨rfl, flies⟩
  | some (.dataRequestCmd _ true), waits => exact waits
  | some (.dataRequestCmd _ false), waits => exact waits

theorem Sound.mlmeAssociateResponse (sound : w.Sound) {dstAddr : ℕ}
    (careful : w.Careful (.associateResponse dstAddr)) :
    (w.mlmeAssociateResponse dstAddr).Sound := by
  unfold Mac.mlmeAssociateResponse
  split
  · next i found =>
    obtain ⟨-, free⟩ := freeSlot_spec found
    refine sound.clearStatus.setSlot (by simp [free]) (by simp)
      (Bool.eq_false_iff.mpr fun uses => ?_)
    obtain ⟨data, there⟩ := sound.waits.slot uses
    rw [free] at there
    cases there
  · next full =>
    have direct : w.txWaitCb.any WaitCb.direct = false := by simpa [Careful, full] using careful
    refine ⟨sound.once, sound.status, sound.own, ?_, sound.queued, sound.kept⟩
    have waits := sound.waits
    show Mac.Waits _ w.txWaitCb
    match wait : w.txWaitCb, waits with
    | none, waits => exact waits
    | some (.dataReq _), _ => simp [wait, WaitCb.direct] at direct
    | some (.dataRequestCmd _ true), waits => exact waits
    | some (.dataRequestCmd _ false), waits => exact waits

/-- A request whose buffer is held was not confirmed. -/
theorem Sound.unconfirmed (sound : w.Sound) {n : ℕ} (is : 1 ≤ w.held n) :
    ∀ call ∈ w.confirms, call.1 ≠ n := by
  have once := sound.once n
  have none : w.confirmed n = 0 := by split at once <;> omega
  intro call member same
  have no := List.countP_eq_zero.mp none call member
  simp [same] at no

theorem held_of_wait {req : Request} (wait : w.txWaitCb = some (.dataReq req)) :
    1 ≤ w.held req.number := by
  simp [held, wait, WaitCb.isOf]
  omega

theorem held_of_slot {i : ℕ} {req : Request} {dstAddr : ℕ} (inside : i < macPendingQueueSize)
    (there : w.pendingDataQueue i = some ⟨some req, dstAddr⟩) : 1 ≤ w.held req.number := by
  have kept : 0 < (live w.pendingDataQueue macPendingQueueSize).countP
      (·.any (PendingData.isOf req.number)) :=
    List.countP_pos_iff.mpr ⟨_, mem_live.mpr ⟨i, inside, there⟩, by simp [PendingData.isOf]⟩
  unfold held
  omega

/-- The end of the transmission of a request that was not confirmed is recorded. -/
theorem Sound.record (sound : w.Sound) {n : ℕ} (is : 1 ≤ w.held n) (result : MacStatus) :
    ∀ call ∈ w.confirms, Function.update w.results n (some result) call.1 = some call.2 := by
  intro call member
  rw [Function.update_of_ne (sound.unconfirmed is call member)]
  exact sound.status call member

theorem Sound.complete (sound : w.Sound) {status : Option MacStatus}
    (careful : w.Careful (.complete status)) : (w.txComplete status).Sound := by
  obtain ⟨cb, wait⟩ : ∃ cb, w.txWaitCb = cb := ⟨_, rfl⟩
  have waits := sound.waits
  rw [wait] at waits
  unfold Mac.txComplete
  split
  · exact sound
  · next frame rest air =>
    match cb, wait, waits with
    | none, wait, waits =>
      obtain rfl : frame = none := waits frame (by simp [air])
      refine ⟨sound.once, sound.status, sound.own, ?_, sound.queued, sound.kept⟩
      show Mac.Waits _ w.txWaitCb
      rw [wait]
      exact fun other member => waits other (by simp [air, show other ∈ rest from member])
    | some (.dataReq req), wait, ⟨idle, flies⟩ =>
      obtain ⟨alone, -⟩ | ⟨gone, -⟩ := flies
      · obtain ⟨rfl, rfl⟩ : frame = some req.number ∧ rest = [] := by simpa [air] using alone
        refine ⟨sound.once, sound.record (held_of_wait wait) _, sound.own, ?_, sound.queued,
          sound.kept⟩
        show Mac.Waits _ w.txWaitCb
        rw [wait]
        exact ⟨idle, .inr ⟨rfl, rfl, by simp⟩⟩
      · rw [air] at gone
        cases gone
    | some (.dataRequestCmd i true), wait, ⟨inside, req, dstAddr, there, flies, _⟩ =>
      obtain rfl : status = none := careful (by simp [wait, WaitCb.polledData])
      obtain ⟨alone, -⟩ | ⟨gone, -⟩ := flies
      · obtain ⟨rfl, rfl⟩ : frame = some req.number ∧ rest = [] := by simpa [air] using alone
        refine ⟨sound.once, sound.record (held_of_slot inside there) _, sound.own, ?_,
          sound.queued, sound.kept⟩
        show Mac.Waits _ w.txWaitCb
        rw [wait]
        exact ⟨inside, req, dstAddr, there, .inr ⟨rfl, rfl, by simp⟩, fun _ => rfl⟩
      · rw [air] at gone
        cases gone
    | some (.dataRequestCmd i false), wait, ⟨inside, there, air', _⟩ =>
      obtain rfl : frame = none := air' frame (by simp [air])
      refine ⟨sound.once, sound.status, sound.own, ?_, sound.queued, sound.kept⟩
      show Mac.Waits _ w.txWaitCb
      rw [wait]
      exact ⟨inside, there, fun other member =>
        air' other (by simp [air, show other ∈ rest from member]), .inl rfl⟩

/-- A callback that has been called waits no longer. -/
def idle (w : Mac) : Mac := { w with txWaitCb := none }

/-- The end of a direct request: its buffer is confirmed with the status of the transmission. -/
theorem Sound.dataReqContinue (sound : w.Sound) {req : Request}
    (wait : w.txWaitCb = some (.dataReq req)) (done : w.txCnt = true) :
    (w.handleMcpsDataReqContinue req).idle.Sound := by
  have waits := sound.waits
  rw [wait] at waits
  obtain ⟨idle, ⟨-, busy⟩ | ⟨gone, -, result⟩⟩ := waits
  · rw [done] at busy
    cases busy
  · have status : ({ w with txCnt := true }.checkCmdTxStatus).macStatus =
        w.txStatus.getD .success := by
      unfold checkCmdTxStatus
      cases failed : w.txStatus with
      | none => simpa [failed] using idle
      | some status => simp
    have frame : ∀ status, ({ w with txCnt := true }.checkCmdTxStatus.confirm req status).idle =
        { w with
          txCnt := true
          macStatus := ({ w with txCnt := true }.checkCmdTxStatus).macStatus
          txWaitCb := none
          confirms := w.confirms ++ [(req.number, status)] } := by
      intro status
      unfold checkCmdTxStatus
      cases w.txStatus <;> rfl
    unfold handleMcpsDataReqContinue
    dsimp only
    rw [frame, status]
    refine ⟨fun n => ?_, fun call member => ?_, sound.own, ?_, sound.queued, sound.kept⟩
    · have once := sound.once n
      simp only [held, confirmed, wait, Option.toList_some, Option.toList_none, List.countP_append,
        List.countP_singleton, List.countP_nil, WaitCb.isOf, beq_iff_eq] at once ⊢
      omega
    · rcases List.mem_append.mp member with old | new
      · exact sound.status call old
      · rw [List.mem_singleton.mp new]
        exact result
    · intro other member
      rw [show _ = [] from gone] at member
      cases member

theorem checkCmdTxStatus_of_ok (ok : w.txStatus = none) : w.checkCmdTxStatus = w := by
  simp [checkCmdTxStatus, ok]

/-- The end of a data frame for a polling device: its buffer is confirmed, and the slot is free. -/
theorem Sound.polledContinue (sound : w.Sound) {i : ℕ}
    (wait : w.txWaitCb = some (.dataRequestCmd i true)) (done : w.txCnt = true) :
    (w.handleDataRequestCmdContinue i true).idle.Sound := by
  have waits := sound.waits
  rw [wait] at waits
  obtain ⟨inside, req, dstAddr, there, ⟨-, busy⟩ | ⟨gone, -, result⟩, ok⟩ := waits
  · rw [done] at busy
    cases busy
  · have after : w.handleDataRequestCmdContinue i true =
        ({ w with txCnt := true }.confirm req req.hdrStatus).setSlot i none := by
      have cleared : { w with txCnt := true }.checkCmdTxStatus = { w with txCnt := true } :=
        checkCmdTxStatus_of_ok (ok done)
      unfold handleDataRequestCmdContinue
      dsimp only
      rw [cleared]
      simp [there]
    rw [after]
    refine ⟨fun n => ?_, fun call member => ?_, sound.own, ?_, sound.queued,
      fun j other dst at_ => ?_⟩
    · have once := sound.once n
      have moved := setSlot_held (w := w) inside none n
      simp only [there, Option.any_some, Option.any_none, PendingData.isOf, beq_iff_eq,
        Bool.false_eq_true, if_false] at moved
      have sent := confirm_confirmed (w := w) req req.hdrStatus n
      have frame :
          ((({ w with txCnt := true }.confirm req req.hdrStatus).setSlot i none).idle).held n =
            (w.setSlot i none).held n := by
        simp [held, idle, wait, Mac.setSlot, confirm, WaitCb.isOf]
      show (w.confirm req req.hdrStatus).confirmed n + _ = _
      rw [frame, sent]
      show _ = if n < w.issued then 1 else 0
      omega
    · rcases List.mem_append.mp member with old | new
      · exact sound.status call old
      · rw [List.mem_singleton.mp new]
        show w.results req.number = some req.hdrStatus
        rw [result, sound.kept i req dstAddr there, ok done]
        rfl
    · intro other member
      rw [show _ = [] from gone] at member
      cases member
    · by_cases same : j = i
      · subst same
        simp [idle, Mac.setSlot] at at_
      · exact sound.kept j other dst (by simpa [idle, Mac.setSlot, confirm, same] using at_)

/-- The end of an association response: the slot is free. -/
theorem Sound.responseContinue (sound : w.Sound) {i : ℕ}
    (wait : w.txWaitCb = some (.dataRequestCmd i false)) :
    (w.handleDataRequestCmdContinue i false).idle.Sound := by
  have waits := sound.waits
  rw [wait] at waits
  obtain ⟨inside, ⟨dstAddr, there⟩, air, -⟩ := waits
  have freed : ({ w with txCnt := true }.checkCmdTxStatus.idle).Sound := by
    have frame : { w with txCnt := true }.checkCmdTxStatus.idle =
        { w with
          txCnt := true
          macStatus := ({ w with txCnt := true }.checkCmdTxStatus).macStatus
          txWaitCb := none } := by
      unfold checkCmdTxStatus
      cases w.txStatus <;> rfl
    rw [frame]
    refine ⟨fun n => ?_, sound.status, sound.own, air, sound.queued, sound.kept⟩
    have once := sound.once n
    simp only [held, wait, Option.toList_some, Option.toList_none, List.countP_singleton,
      List.countP_nil, WaitCb.isOf, Bool.false_eq_true, if_false] at once ⊢
    exact once
  have slot : ({ w with txCnt := true }.checkCmdTxStatus.idle).pendingDataQueue i =
      some ⟨none, dstAddr⟩ := by
    unfold checkCmdTxStatus
    cases w.txStatus <;> exact there
  exact freed.setSlot (by simp [slot]) rfl rfl

/-- The first callback of the queue is taken. -/
theorem queue_held {cb : TxCb} {rest : List TxCb} (queue : w.macTxQ = cb :: rest) (n : ℕ) :
    w.held n = ({ w with macTxQ := rest } : Mac).held n + if cb.isOf n then 1 else 0 := by
  simp only [held, queue, List.countP_cons]
  omega

/-- A callback that is no data request leaves the queue. -/
theorem Sound.pop (sound : w.Sound) {cb : TxCb} {rest : List TxCb} (queue : w.macTxQ = cb :: rest)
    (other : ∀ n, cb.isOf n = false) : ({ w with macTxQ := rest } : Mac).Sound := by
  refine ⟨fun n => ?_, sound.status, sound.own, sound.waits, fun req member => ?_, sound.kept⟩
  · have once := sound.once n
    rw [queue_held queue n, other n] at once
    exact once
  · exact sound.queued req (by simp [queue, show _ ∈ rest from member])

/-- The frame of a callback that no data request waits for is sent. -/
theorem Sound.send (sound : w.Sound) (wait : w.txWaitCb = none) :
    (w.transSendCommand none).Sound := by
  have waits := sound.waits
  rw [wait] at waits
  refine ⟨sound.once, sound.status, sound.own, ?_, sound.queued, sound.kept⟩
  show Mac.Waits _ w.txWaitCb
  rw [wait]
  intro frame member
  rcases List.mem_append.mp member with old | new
  · exact waits frame old
  · exact List.mem_singleton.mp new

/-- An indirect request is kept for its device. -/
theorem Sound.keep (sound : w.Sound) {req : Request} {rest : List TxCb}
    (queue : w.macTxQ = .dataReq req :: rest) (indirect : req.indirect = true) {i : ℕ}
    (found : freeSlot w.pendingDataQueue = some i) {status : MacStatus}
    (wait : w.txWaitCb = none) :
    ({ w with macStatus := status, macTxQ := rest }.setSlot i
      (some ⟨some req, req.dstAddr⟩)).Sound := by
  obtain ⟨inside, free⟩ := freeSlot_spec found
  have waits := sound.waits
  rw [wait] at waits
  refine ⟨fun n => ?_, sound.status, sound.own, ?_, fun other member => ?_,
    fun j other dst at_ => ?_⟩
  · have once := sound.once n
    rw [queue_held queue n] at once
    have moved := setSlot_held (w := { w with macStatus := status, macTxQ := rest }) inside
      (some ⟨some req, req.dstAddr⟩) n
    simp only [free, Option.any_none, Option.any_some, PendingData.isOf, TxCb.isOf,
      Bool.false_eq_true, if_false] at moved once
    show w.confirmed n + Mac.held _ n = if n < w.issued then 1 else 0
    rw [← once, ← Nat.add_zero (Mac.held _ n), moved]
    rfl
  · show Mac.Waits _ w.txWaitCb
    rw [wait]
    exact waits
  · exact sound.queued other (by simp [queue, show _ ∈ rest from member])
  · by_cases same : j = i
    · subst same
      obtain ⟨rfl, -⟩ : req = other ∧ req.dstAddr = dst := by simpa [Mac.setSlot] using at_
      exact sound.queued req (by simp [queue]) indirect
    · exact sound.kept j other dst (by simpa [Mac.setSlot, same] using at_)

/-- A direct request is sent, and its callback waits. -/
theorem Sound.sendReq (sound : w.Sound) {req : Request} {rest : List TxCb}
    (queue : w.macTxQ = .dataReq req :: rest) (wait : w.txWaitCb = none) (idle : w.onAir = []) :
    ({ w with
      macStatus := .success
      macTxQ := rest
      txWaitCb := some (.dataReq req) }.transSendCommand (some req.number)).Sound := by
  refine ⟨fun n => ?_, sound.status, sound.own, ⟨rfl, .inl ⟨?_, rfl⟩⟩, fun other member => ?_,
    sound.kept⟩
  · have once := sound.once n
    simp only [held, transSendCommand, queue, wait, Option.toList_some, Option.toList_none,
      List.countP_cons, List.countP_nil, TxCb.isOf, WaitCb.isOf, beq_iff_eq] at once ⊢
    show w.confirmed n + _ = if n < w.issued then 1 else 0
    omega
  · simp [transSendCommand, idle]
  · exact sound.queued other (by simp [queue, show _ ∈ rest from member])

/-- The frame of a slot is sent to the device that polls, and its callback waits. -/
theorem Sound.sendSlot (sound : w.Sound) (wait : w.txWaitCb = none) {i : ℕ} {data : PendingData}
    (inside : i < macPendingQueueSize) (there : w.pendingDataQueue i = some data)
    (idle : data.req.isSome = true → w.onAir = []) {status : MacStatus} :
    ({ w with
      macStatus := status
      txWaitCb := some (.dataRequestCmd i data.req.isSome) }.transSendCommand
        (data.req.map Request.number)).Sound := by
  have waits := sound.waits
  rw [wait] at waits
  refine ⟨fun n => ?_, sound.status, sound.own, ?_, sound.queued, sound.kept⟩
  · have once := sound.once n
    simp only [held, transSendCommand, wait, Option.toList_some, Option.toList_none,
      List.countP_singleton, List.countP_nil, WaitCb.isOf, Bool.false_eq_true, if_false] at once ⊢
    exact once
  · obtain ⟨req, dstAddr⟩ := data
    cases req with
    | none =>
      refine ⟨inside, ⟨dstAddr, there⟩, fun frame member => ?_, .inr ?_⟩
      · rcases List.mem_append.mp member with old | new
        · exact waits frame old
        · exact List.mem_singleton.mp new
      · simp [transSendCommand]
    | some req =>
      refine ⟨inside, req, dstAddr, there, .inl ⟨?_, rfl⟩, fun done => ?_⟩
      · simp [transSendCommand, idle rfl]
      · cases done

/-- The main loop serves the first callback of the queue. -/
theorem Sound.serve (sound : w.Sound) (wait : w.txWaitCb = none) {cb : TxCb} {rest : List TxCb}
    (queue : w.macTxQ = cb :: rest) {fills secures : Bool} (sends : w.Sends fills secures cb) :
    ({ w.callTxCb fills secures cb with macTxQ := rest } : Mac).Sound := by
  cases cb with
  | dataReq req =>
    obtain ⟨rfl, sends⟩ := sends
    by_cases indirect : req.indirect = true
    · rw [if_pos indirect] at sends
      obtain ⟨i, found⟩ := Option.isSome_iff_exists.mp sends
      have after : { w.callTxCb true secures (.dataReq req) with macTxQ := rest } =
          { w with macStatus := .success, macTxQ := rest }.setSlot i
            (some ⟨some req, req.dstAddr⟩) := by
        simp [callTxCb, handleMcpsDataReq, indirect, found, Mac.setSlot]
      rw [after]
      exact sound.keep queue indirect found wait
    · rw [if_neg indirect] at sends
      obtain ⟨rfl, idle⟩ := sends
      have after : { w.callTxCb true true (.dataReq req) with macTxQ := rest } =
          { w with
            macStatus := .success
            macTxQ := rest
            txWaitCb := some (.dataReq req) }.transSendCommand (some req.number) := by
        simp [callTxCb, handleMcpsDataReq, indirect, transSendCommand]
      rw [after]
      exact sound.sendReq queue wait idle
  | dataRequestCmd srcAddr =>
    have popped : ({ w with macTxQ := rest } : Mac).Sound := sound.pop queue fun _ => rfl
    cases found : w.checkPendingData srcAddr with
    | none =>
      have after : { w.callTxCb fills secures (.dataRequestCmd srcAddr) with macTxQ := rest } =
          { w with macTxQ := rest, macStatus := .success } := by
        simp [callTxCb, handleDataRequestCmd, found]
      rw [after]
      refine ⟨popped.once, popped.status, popped.own, ?_, popped.queued, popped.kept⟩
      have waits := popped.waits
      show Mac.Waits _ w.txWaitCb
      rw [show _ = none from wait] at waits ⊢
      exact waits
    | some i =>
      obtain ⟨inside, data, there⟩ := checkPendingData_spec found
      obtain ⟨rfl, idle⟩ := sends i found
      have after : { w.callTxCb fills true (.dataRequestCmd srcAddr) with macTxQ := rest } =
          { w with
            macTxQ := rest
            macStatus := .success
            txWaitCb := some (.dataRequestCmd i data.req.isSome) }.transSendCommand
              (data.req.map Request.number) := by
        simp [callTxCb, handleDataRequestCmd, found, there, transSendCommand]
      rw [after]
      exact popped.sendSlot wait inside there (by simpa [there] using idle)
  | beaconReq => exact (sound.pop queue fun _ => rfl).send wait

theorem Sound.mainLoop (sound : w.Sound) {fills secures : Bool}
    (careful : w.Careful (.loop fills secures)) : (w.mainLoop fills secures).Sound := by
  unfold Mac.mainLoop
  split
  · next cb wait =>
    split
    · next done =>
      cases cb with
      | dataReq req => exact sound.dataReqContinue wait done
      | dataRequestCmd i data =>
        cases data with
        | true => exact sound.polledContinue wait done
        | false => exact sound.responseContinue wait
    · exact sound
  · next wait =>
    split
    · exact sound
    · next cb rest queue =>
      exact sound.serve wait queue (careful wait cb (by simp [queue]))

theorem Sound.step (sound : w.Sound) (e : Event) (careful : w.Careful e) : (w.step e).Sound := by
  cases e with
  | request indirect dstAddr hdrStatus => exact sound.request careful.1 careful.2
  | dataRequestCmd srcAddr => exact sound.scheduleTxCb fun _ => rfl
  | beaconReq => exact sound.scheduleTxCb fun _ => rfl
  | associateResponse dstAddr => exact sound.mlmeAssociateResponse careful
  | complete status => exact sound.complete careful
  | expire i => exact sound.setSlot careful.1 rfl careful.2
  | loop fills secures => exact sound.mainLoop careful

theorem init_sound : init.Sound where
  once := fun n => by simp [init, confirmed, held, live]
  status := fun call member => by cases member
  own := rfl
  waits := fun frame member => by cases member
  queued := fun req member => by cases member
  kept := fun i req dstAddr there => by cases there

/-- A callback waits only while the transceiver has a frame or one has completed. -/
theorem Sound.waiting (sound : w.Sound) (wait : w.txWaitCb ≠ none) :
    w.txCnt = true ∨ w.onAir ≠ [] := by
  obtain ⟨cb, is⟩ := Option.ne_none_iff_exists'.mp wait
  have waits := sound.waits
  rw [is] at waits
  match cb, waits with
  | .dataReq _, ⟨_, .inl ⟨air, _⟩⟩ => exact .inr (by simp [air])
  | .dataReq _, ⟨_, .inr ⟨_, done, _⟩⟩ => exact .inl done
  | .dataRequestCmd _ true, ⟨_, _, _, _, .inl ⟨air, _⟩, _⟩ => exact .inr (by simp [air])
  | .dataRequestCmd _ true, ⟨_, _, _, _, .inr ⟨_, done, _⟩, _⟩ => exact .inl done
  | .dataRequestCmd _ false, ⟨_, _, _, either⟩ => exact either

theorem Sound.served (sound : w.Sound) : w.Served :=
  ⟨fun n made => by rw [sound.once n, if_pos made], sound.status, sound.own, sound.waiting⟩

/-- **MCPS-DATA.**  Where requests find room in the queue and the pending queue, header and
securing succeed, no frame is sent while one without a callback is in the transceiver, no
association response overflows while a direct request waits, and frames for polling
devices are sent well and do not expire, every request is confirmed once with the status
of its transmission or is in one place on its way there, and a callback waits only for a
frame in the transceiver or one that has completed. -/
theorem mcps_data (events : List Event) (careful : Along step Careful init events) :
    (run step init events).Served :=
  (invariant_of_along (fun _ e sound careful => sound.step e careful) init events init_sound
    careful).served

/-- A direct request that is not acknowledged, and an indirect one whose device polls. -/
theorem mcps_data_twoRequests :
    (run step init [.request false 1 .success, .request true 2 .success, .loop true true,
      .complete (some .noAck), .loop true true, .loop true true, .dataRequestCmd 2,
      .loop true true, .complete none, .loop true true]).Served :=
  mcps_data _ (by decide)

/-- The fifth of five requests finds the queue full, and is never confirmed. -/
theorem fifthRequest_lost : ¬∀ events, (run step init events).Served := by
  intro claim
  have once := (claim (List.replicate 5 (.request false 1 .success))).once 4 (by decide)
  exact absurd once (by decide)

end Mac

end Zboss.McpsData
