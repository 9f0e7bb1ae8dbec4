import Zboss.Aps.AckData
import Zboss.Common.Alarm

/-!
Rejection of duplicates (`aps_dups.c`), between two devices.  The sender retransmits a data
request until it is acknowledged or given up.  The receiver keeps, for three turns of a timer, the
counter of the last frame of a source.  On the way frames and acknowledgements may be lost,
doubled and reordered.
-/

namespace Zboss.ApsDups

open Zboss.Aps
open Zboss.Alarm (timeOneSecond)
open Zboss.DynamicTables (BufRef)
open Zboss.FrameHeaders (Octets apsFcGetSecurity)
open Zboss.Run

/-! ## The receiver -/

/-- What a frame sets the clock of its source to. -/
def apsDupClockStart : ℕ := 3

def apsDupCheckTimeout : ℕ := timeOneSecond

/-- `ZB_N_APS_ACK_WAIT_DURATION`, which is `2*ZB_ZDO_INDIRECT_POLL_TIMER`. -/
def nApsAckWaitDuration : ℕ := 2 * (5 * timeOneSecond)

def apsRetransAckQSize : ℕ := 4

/-- The short addresses of the two devices. -/
structure Pair where
  sender : UInt16
  receiver : UInt16
  deriving DecidableEq, Repr

/-- The octets of a data frame from the APS header on, and the request they are of. -/
structure Packet where
  request : ℕ
  octets : List UInt8
  deriving DecidableEq, Repr

/-- What the receiver reads of it. -/
def Packet.hdr (pair : Pair) (p : Packet) : ApsHdr :=
  (apsHdrParse ⟨0, 0, 0, 0, 0, 0, 0, 0, 0⟩ pair.sender pair.receiver (Octets.ofList p.octets)).1

/-- A frame has been looked up, or the timer has gone off. -/
inductive Past
  | frame (apsCounter : UInt8)
  | timer
  deriving DecidableEq, Repr

/-- The duplicate fields in the address entry of the sender, the timer, and the frames that wait
for a buffer for their acknowledgement; with the requests that were passed up, and what has
happened so far, the last first. -/
structure Receiver where
  apsDupCounter : UInt8
  apsDupClock : ℕ
  dupsAlarmRunning : Bool
  alarm : Bool
  ackQ : List Packet
  passedUp : List ℕ
  past : List Past

/-- What a frame meets: whether it is unsecured, if it has to be, and whether there is room for
the callback and for the alarm. -/
structure Env where
  unsecured : Bool
  callbackOk : Bool
  alarmOk : Bool
  deriving DecidableEq, Repr

namespace Receiver

/-- `aps_check_dups`, for a source that has an address entry or gets one. -/
def apsCheckDups (r : Receiver) (apsCounter : UInt8) (alarmOk : Bool) : Bool × Receiver :=
  (decide (r.apsDupClock ≠ 0 ∧ r.apsDupCounter = apsCounter),
    { r with
      apsDupCounter := apsCounter
      apsDupClock := apsDupClockStart
      dupsAlarmRunning := true
      alarm := if r.dupsAlarmRunning then r.alarm else alarmOk
      past := .frame apsCounter :: r.past })

def apsCheckTimerCb (r : Receiver) (alarmOk : Bool) : Receiver :=
  let apsDupClock := r.apsDupClock - 1
  let dupsAlarmRunning := decide (apsDupClock ≠ 0)
  { r with
    apsDupClock
    dupsAlarmRunning
    alarm := dupsAlarmRunning && alarmOk
    past := .timer :: r.past }

/-- `zb_nlde_data_indication_continue` of a data frame to one device. -/
def nldeDataIndicationContinue (pair : Pair) (r : Receiver) (p : Packet) (env : Env) : Receiver :=
  let hdr := p.hdr pair
  let (isDup, r) := r.apsCheckDups hdr.apsCounter env.alarmOk
  if isDup then r
  else if apsFcGetSecurity hdr.fc && !env.unsecured then r
  else if env.callbackOk then { r with passedUp := p.request :: r.passedUp }
  else r

/-- The frame waits for a buffer first. -/
def Waits (pair : Pair) (r : Receiver) (p : Packet) : Prop :=
  apsFcGetAckRequest (p.hdr pair).fc = true ∧ r.ackQ.length < apsRetransAckQSize

instance (pair : Pair) (r : Receiver) (p : Packet) : Decidable (r.Waits pair p) :=
  inferInstanceAs (Decidable (_ ∧ _))

def nldeDataIndication (pair : Pair) (r : Receiver) (p : Packet) (env : Env) : Receiver :=
  if r.Waits pair p then { r with ackQ := r.ackQ ++ [p] }
  else r.nldeDataIndicationContinue pair p env

end Receiver

/-! ## Two devices -/

/-- The sender with what its buffers hold, what is on the way, and the receiver. -/
structure System where
  sender : Layer
  packet : BufRef → Packet
  frames : List Packet
  acks : List (List UInt8)
  receiver : Receiver

/-- Nothing has been sent. -/
def System.init (apsCounter : UInt8) (secureAllFrames : Bool) : System where
  sender := Layer.init apsCounter secureAllFrames
  packet _ := ⟨0, []⟩
  frames := []
  acks := []
  receiver := ⟨0, 0, false, false, [], [], []⟩

/-- Events of the sender, of the network and of the receiver.  What is on the way stays there, so
that it may come late, more than once or never. -/
inductive Event
  | request (param : BufRef) (req : ApsdeDataReq) (aux : AuxHdr) (payload : List UInt8)
      (callbackOk alarmOk : Bool)
  | confirm (param : BufRef) (callbackOk : Bool)
  | alarm (i : ℕ) (callbackOk alarmOk : Bool)
  | transmit (param : BufRef)
  | arrive (p : Packet) (env : Env)
  | granted (env : Env)
  | acked (ack : List UInt8) (callbackOk : Bool)
  | timer (alarmOk : Bool)
  deriving DecidableEq

/-- The packet that a request makes. -/
def System.make (w : System) (req : ApsdeDataReq) (aux : AuxHdr) (payload : List UInt8) : Packet :=
  let secured := req.securityEnabled && !w.sender.secureAllFrames
  ⟨w.sender.issued.length,
    apsDataHdrFillDatareq req w.sender.apsCounter (if secured then some aux else none) ++ payload⟩

/-- One event.  The sender issues requests that want an acknowledgement; the frame of a buffer
goes out while the network layer has it. -/
def step (pair : Pair) (w : System) : Event → System
  | .request param req aux payload callbackOk alarmOk =>
    if req.wantsAck ∧ w.sender.Idle param then
      { w with
        sender := Aps.step w.sender (.request param req callbackOk alarmOk)
        packet := Function.update w.packet param (w.make req aux payload) }
    else w
  | .confirm param callbackOk =>
    { w with sender := Aps.step w.sender (.confirm param callbackOk) }
  | .alarm i callbackOk alarmOk =>
    { w with sender := Aps.step w.sender (.alarm i callbackOk alarmOk) }
  | .transmit param =>
    if param ∈ w.sender.nwk ∧ (w.sender.nldeReq param).dstAddr = pair.receiver then
      { w with frames := w.packet param :: w.frames }
    else w
  | .arrive p env =>
    if p ∈ w.frames then { w with receiver := w.receiver.nldeDataIndication pair p env } else w
  | .granted env =>
    -- `zb_aps_send_ack_and_continue`
    match w.receiver.ackQ with
    | [] => w
    | p :: ackQ =>
      { w with
        receiver := { w.receiver with ackQ }.nldeDataIndicationContinue pair p env
        acks := apsAckHdr (p.hdr pair) :: w.acks }
  | .acked ack callbackOk =>
    if ack ∈ w.acks then
      let hdr := (apsHdrParse ⟨0, 0, 0, 0, 0, 0, 0, 0, 0⟩ pair.receiver pair.sender
        (Octets.ofList ack)).1
      { w with sender := Aps.step w.sender (.ack hdr callbackOk) }
    else w
  | .timer alarmOk =>
    if w.receiver.alarm then { w with receiver := w.receiver.apsCheckTimerCb alarmOk } else w

/-! ## What is remembered -/

/-- The counter of the last frame, and how often the timer has gone off since. -/
def lastFrame : List Past → Option (UInt8 × ℕ)
  | [] => none
  | .frame apsCounter :: _ => some (apsCounter, 0)
  | .timer :: earlier => (lastFrame earlier).map fun last => (last.1, last.2 + 1)

/-- The last frame had the counter, and the timer has gone off less than three times since. -/
def Recent (past : List Past) (apsCounter : UInt8) : Prop :=
  ∃ n < apsDupClockStart, lastFrame past = some (apsCounter, n)

/-- The frame that is looked up. -/
def lookedUp (pair : Pair) (w : System) : Event → Option (Packet × Env)
  | .arrive p env => if p ∈ w.frames ∧ ¬ w.receiver.Waits pair p then some (p, env) else none
  | .granted env => w.receiver.ackQ.head?.map fun p => (p, env)
  | _ => none

/-- Nothing but the lookup stops the frame. -/
def Passes (pair : Pair) (p : Packet) (env : Env) : Prop :=
  (apsFcGetSecurity (p.hdr pair).fc = true → env.unsecured = true) ∧ env.callbackOk = true

/-- Where a copy of a request that was passed up would be passed up again, the last frame had its
counter and the timer has gone off less than three times since. -/
def InTime (pair : Pair) (w : System) (e : Event) : Prop :=
  ∀ p env, lookedUp pair w e = some (p, env) → p.request ∈ w.receiver.passedUp →
    Passes pair p env → Recent w.receiver.past (p.hdr pair).apsCounter

/-- The duplicate fields say what has happened. -/
structure Kept (r : Receiver) : Prop where
  unused : lastFrame r.past = none → r.apsDupClock = 0
  last : ∀ apsCounter n, lastFrame r.past = some (apsCounter, n) →
    r.apsDupCounter = apsCounter ∧ r.apsDupClock = apsDupClockStart - n

variable {pair : Pair} {r : Receiver} {p : Packet} {env : Env} {w : System} {e : Event}

/-- **A frame is taken for a duplicate** exactly when its counter is remembered. -/
theorem Kept.isDup_iff (kept : Kept r) (apsCounter : UInt8) (alarmOk : Bool) :
    (r.apsCheckDups apsCounter alarmOk).1 = true ↔ Recent r.past apsCounter := by
  rw [Receiver.apsCheckDups, decide_eq_true_eq, Recent]
  cases last : lastFrame r.past with
  | none => simp [kept.unused last]
  | some before =>
    obtain ⟨counter, n⟩ := before
    obtain ⟨same, clock⟩ := kept.last counter n last
    rw [same, clock]
    constructor
    · rintro ⟨running, rfl⟩
      exact ⟨n, by omega, rfl⟩
    · rintro ⟨m, early, is⟩
      cases is
      exact ⟨by omega, rfl⟩

theorem Kept.continue_ (pair : Pair) (r : Receiver) (p : Packet) (env : Env) :
    Kept (r.nldeDataIndicationContinue pair p env) := by
  have fields : Kept (r.apsCheckDups (p.hdr pair).apsCounter env.alarmOk).2 := by
    refine ⟨nofun, ?_⟩
    rintro apsCounter n is
    cases is
    exact ⟨rfl, rfl⟩
  rw [Receiver.nldeDataIndicationContinue]
  dsimp only
  split
  · exact fields
  · split
    · exact fields
    · split
      · exact ⟨fields.unused, fields.last⟩
      · exact fields

theorem Kept.timer (kept : Kept r) (alarmOk : Bool) : Kept (r.apsCheckTimerCb alarmOk) := by
  constructor
  · intro none_
    have before : lastFrame r.past = none := by
      simpa [Receiver.apsCheckTimerCb, lastFrame] using none_
    change r.apsDupClock - 1 = 0
    rw [kept.unused before]
  · intro apsCounter n is
    cases last : lastFrame r.past with
    | none =>
      rw [Receiver.apsCheckTimerCb, lastFrame, last] at is
      cases is
    | some before =>
      rw [Receiver.apsCheckTimerCb, lastFrame, last] at is
      cases is
      obtain ⟨same, clock⟩ := kept.last before.1 before.2 last
      refine ⟨same, ?_⟩
      change r.apsDupClock - 1 = _
      omega

/-! ## One event -/

/-- What an event does at the receiver. -/
inductive Received (pair : Pair) (w : System) (e : Event) : Prop
  | looked (p : Packet) (env : Env) (ackQ : List Packet) (up : lookedUp pair w e = some (p, env))
      (receiver : (step pair w e).receiver =
        { w.receiver with ackQ }.nldeDataIndicationContinue pair p env)
  | timer (alarmOk : Bool) (up : lookedUp pair w e = none)
      (receiver : (step pair w e).receiver = w.receiver.apsCheckTimerCb alarmOk)
  | queued (ackQ : List Packet) (up : lookedUp pair w e = none)
      (receiver : (step pair w e).receiver = { w.receiver with ackQ })

theorem received (pair : Pair) (w : System) (e : Event) : Received pair w e := by
  have same (up : lookedUp pair w e = none) (receiver : (step pair w e).receiver = w.receiver) :
      Received pair w e := .queued w.receiver.ackQ up receiver
  cases e with
  | request | transmit | acked =>
    refine same rfl ?_
    rw [step]
    split
    · rfl
    · rfl
  | confirm | alarm => exact same rfl rfl
  | arrive p env =>
    by_cases present : p ∈ w.frames
    · by_cases waits : w.receiver.Waits pair p
      · refine .queued (w.receiver.ackQ ++ [p]) (if_neg fun up => up.2 waits) ?_
        rw [step, if_pos present, Receiver.nldeDataIndication, if_pos waits]
      · refine .looked p env w.receiver.ackQ (if_pos ⟨present, waits⟩) ?_
        rw [step, if_pos present, Receiver.nldeDataIndication, if_neg waits]
    · refine same (if_neg fun up => present up.1) ?_
      rw [step, if_neg present]
  | granted env =>
    cases queue : w.receiver.ackQ with
    | nil =>
      refine same (by rw [lookedUp, queue]; rfl) ?_
      rw [step, queue]
    | cons p ackQ =>
      refine .looked p env ackQ (by rw [lookedUp, queue]; rfl) ?_
      rw [step, queue]
  | timer alarmOk =>
    cases set : w.receiver.alarm with
    | false => exact same rfl (by rw [step, if_neg (by simp [set])])
    | true => exact .timer alarmOk rfl (by rw [step, if_pos set])

/-- The receiver's fields stay true. -/
theorem Kept.step (kept : Kept w.receiver) (e : Event) : Kept (step pair w e).receiver := by
  cases received pair w e with
  | looked p env ackQ up receiver =>
    rw [receiver]
    exact Kept.continue_ ..
  | timer alarmOk up receiver =>
    rw [receiver]
    exact kept.timer alarmOk
  | queued ackQ up receiver =>
    rw [receiver]
    exact ⟨kept.unused, kept.last⟩

/-- A frame is passed up exactly when nothing stops it and its counter is not remembered. -/
theorem Kept.passedUp_continue (kept : Kept r) (p : Packet) (env : Env) :
    (Passes pair p env ∧ ¬ Recent r.past (p.hdr pair).apsCounter) ∧
        (r.nldeDataIndicationContinue pair p env).passedUp = p.request :: r.passedUp ∨
      ¬ (Passes pair p env ∧ ¬ Recent r.past (p.hdr pair).apsCounter) ∧
        (r.nldeDataIndicationContinue pair p env).passedUp = r.passedUp := by
  rw [← kept.isDup_iff _ env.alarmOk, Receiver.nldeDataIndicationContinue, Passes]
  dsimp only
  split
  · rename_i dup
    exact Or.inr ⟨fun up => up.2 dup, rfl⟩
  · rename_i new
    split
    · rename_i stopped
      rw [Bool.and_eq_true, Bool.not_eq_true'] at stopped
      refine Or.inr ⟨fun up => ?_, rfl⟩
      rw [up.1.1 stopped.1] at stopped
      cases stopped.2
    · rename_i secure
      rw [Bool.and_eq_true, Bool.not_eq_true', not_and, Bool.not_eq_false] at secure
      split
      · rename_i room
        exact Or.inl ⟨⟨⟨secure, room⟩, new⟩, rfl⟩
      · rename_i full
        exact Or.inr ⟨fun up => full up.1.2, rfl⟩

/-- No request that was passed up is passed up again exactly when the copy comes in time. -/
theorem nodup_step_iff (kept : Kept w.receiver) (once : w.receiver.passedUp.Nodup) :
    (step pair w e).receiver.passedUp.Nodup ↔ InTime pair w e := by
  cases received pair w e with
  | looked p env ackQ up receiver =>
    have kept : Kept { w.receiver with ackQ } := ⟨kept.unused, kept.last⟩
    rw [receiver, InTime, up]
    have continued := @Kept.passedUp_continue pair _ kept p env
    rcases continued with ⟨⟨passes, new⟩, after⟩ | ⟨stopped, after⟩
    · rw [after, List.nodup_cons]
      constructor
      · rintro ⟨fresh, -⟩ p' env' ⟨⟩ before
        exact absurd before fresh
      · intro inTime
        exact ⟨fun before => new (inTime p env rfl before passes), once⟩
    · rw [after]
      refine iff_of_true once ?_
      rintro p' env' ⟨⟩ - passes
      exact by_contra fun new => stopped ⟨passes, new⟩
  | timer alarmOk up receiver =>
    rw [receiver, InTime, up]
    exact iff_of_true once nofun
  | queued ackQ up receiver =>
    rw [receiver, InTime, up]
    exact iff_of_true once nofun

/-- What was passed up stays so. -/
theorem suffix_continue (pair : Pair) (r : Receiver) (p : Packet) (env : Env) :
    r.passedUp <:+ (r.nldeDataIndicationContinue pair p env).passedUp := by
  rw [Receiver.nldeDataIndicationContinue]
  dsimp only
  split
  · exact List.suffix_rfl
  · split
    · exact List.suffix_rfl
    · split
      · exact List.suffix_cons ..
      · exact List.suffix_rfl

theorem nodup_of_step (once : (step pair w e).receiver.passedUp.Nodup) :
    w.receiver.passedUp.Nodup := by
  cases received pair w e with
  | looked p env ackQ up receiver =>
    rw [receiver] at once
    exact once.sublist (suffix_continue pair { w.receiver with ackQ } p env).sublist
  | timer alarmOk up receiver =>
    rw [receiver] at once
    exact once
  | queued ackQ up receiver =>
    rw [receiver] at once
    exact once

/-! ## Runs -/

/-- **No request reaches the application twice** exactly when every copy of one that has been
passed up comes while its counter is remembered. -/
theorem atMostOnce_iff (pair : Pair) (apsCounter : UInt8) (secureAllFrames : Bool)
    (events : List Event) :
    (run (step pair) (System.init apsCounter secureAllFrames) events).receiver.passedUp.Nodup ↔
      Along (step pair) (InTime pair) (System.init apsCounter secureAllFrames) events := by
  have agree (w : System) (e : Event) (kept : Kept w.receiver)
      (once : w.receiver.passedUp.Nodup) :
      (step pair w e).receiver.passedUp.Nodup ↔ InTime pair w e := nodup_step_iff kept once
  have lasting (w : System) (e : Event) (once : (step pair w e).receiver.passedUp.Nodup) :
      w.receiver.passedUp.Nodup := nodup_of_step once
  exact run_iff_along (fun _ e kept => Kept.step kept e) agree lasting _ events
    ⟨fun _ => rfl, nofun⟩ List.nodup_nil

/-- A request of device 1 to device 2. -/
def toReceiver : ApsdeDataReq where
  addrMode := .endpPresent16
  dstAddr := 2
  bound := false
  clusterid := 6
  profileid := 0x0104
  srcEndpoint := 1
  dstEndpoint := 2
  ackTx := true
  securityEnabled := false

/-- The frame of the request that has counter 0. -/
def firstPacket : Packet := ⟨0, apsDataHdrFillDatareq toReceiver 0 none⟩

/-- The acknowledgement of the first frame is lost, and the sender retransmits when it has waited
for it. -/
def lostAck : List Event :=
  let sent : List Event := [.transmit 5, .confirm 5 true, .arrive firstPacket ⟨true, true, true⟩,
    .granted ⟨true, true, true⟩]
  [.request 5 toReceiver ⟨0, 0⟩ [] true true] ++ sent ++
    [.timer true, .timer true, .timer true, .alarm 0 true true] ++ sent

/-- The request reaches the application twice. -/
theorem lostAck_passedUp_twice :
    ¬ (run (step ⟨1, 2⟩) (System.init 0 false) lostAck).receiver.passedUp.Nodup := by
  decide +kernel

/-- The timer has gone off as often before the sender has waited long enough. -/
example : apsDupClockStart * apsDupCheckTimeout < nApsAckWaitDuration := by decide

end Zboss.ApsDups
