import Mathlib.Data.List.Count
import Zboss.Lib.Run

/-!
Polling of the parent by a sleepy end device: the alarm of `zb_zdo_poll_parent`, the buffer
it asks for, the poll on its way through the NWK layer and the MAC, and its confirm.  A poll
that the rejoin asks for takes the same way back.  The queues that may be full when a
callback is scheduled are named by the argument `room` of a step.
-/

namespace Zboss.PollParent

open Zboss.Run

def macSuccess : UInt8 := 0

def macNoData : UInt8 := 0xeb

/-- Who asked the MAC to poll: `zb_zdo_poll_parent` or `zb_nlme_rejoin_response_timeout`. -/
inductive Asker
  | pollParent
  | rejoin
  deriving DecidableEq, Repr

/-- `joined` and the state `ZB_NLME_STATE_REJOIN` of the NWK handle, what the ZDO keeps about
polls, and the configuration.  Then what is scheduled: the alarm of `zb_zdo_poll_parent` with
its timeout, the delayed buffer requests for it, the calls of `zb_nlme_sync_request`, the polls
the MAC has, the calls of `zb_nlme_sync_confirm` with their status, and the joins that
`zdo_join_done` was not yet called for. -/
structure World where
  joined : Bool
  rejoin : Bool
  insidePoll : Bool
  parentThresholdRetry : UInt8
  maxParentThresholdRetry : UInt8
  nwkIndirectPollRate : UInt16
  macRxOnWhenIdle : Bool
  alarm : Option UInt16
  requests : ℕ
  syncRequests : ℕ
  mac : List Asker
  syncConfirms : List (Asker × UInt8)
  joining : ℕ
  deriving DecidableEq, Repr

/-- A sleepy end device that has joined no network. -/
def init (rate : UInt16) (maxRetry : UInt8) : World where
  joined := false
  rejoin := false
  insidePoll := false
  parentThresholdRetry := 0
  maxParentThresholdRetry := maxRetry
  nwkIndirectPollRate := rate
  macRxOnWhenIdle := false
  alarm := none
  requests := 0
  syncRequests := 0
  mac := []
  syncConfirms := []
  joining := 0

namespace World

/-- `zb_zdo_reschedule_poll_parent`; `pending` is `ZB_MAC_GET_PENDING_DATA`. -/
def reschedulePollParent (w : World) (timeout : UInt16) (pending room : Bool) : World :=
  if !(w.macRxOnWhenIdle || w.insidePoll) then
    { w with alarm := if room then some (if pending then 1 else timeout) else none }
  else
    w

/-- `zb_zdo_poll_parent` without a buffer, called by its alarm. -/
def pollParent (w : World) (room : Bool) : World :=
  if w.joined then { w with requests := w.requests + room.toNat } else w

/-- `zb_zdo_poll_parent` with the buffer it asked for. -/
def pollParentBuf (w : World) (room : Bool) : World :=
  { w with insidePoll := true, syncRequests := w.syncRequests + room.toNat }

/-- `zb_nlme_sync_request`; `track` is false in every request. -/
def syncRequest (w : World) (room : Bool) : World :=
  if room then { w with mac := w.mac ++ [.pollParent] } else w

/-- `zb_nlme_rejoin_response_timeout` while a parent is chosen. -/
def rejoinResponseTimeout (w : World) (room : Bool) : World :=
  if !w.macRxOnWhenIdle && room then { w with mac := w.mac ++ [.rejoin] } else w

/-- `zb_mlme_poll_confirm`: during a rejoin the confirm ends here or goes on as
`zb_nlme_rejoin_scan_confirm`. -/
def mlmePollConfirm (w : World) (asker : Asker) (status : UInt8) (room : Bool) : World :=
  if w.rejoin then
    w
  else if room then
    { w with syncConfirms := w.syncConfirms ++ [(asker, status)] }
  else
    w

/-- `zdo_initiate_rejoin`. -/
def initiateRejoin (w : World) : World := { w with joined := false }

/-- The parent did not answer often enough to be given up. -/
def GivenUp (w : World) (status : UInt8) : Prop :=
  status ≠ macSuccess ∧ status ≠ macNoData ∧
    w.maxParentThresholdRetry ≤ w.parentThresholdRetry + 1

instance (w : World) (status : UInt8) : Decidable (w.GivenUp status) :=
  inferInstanceAs (Decidable (_ ∧ _ ∧ _))

/-- The failures of the parent after a confirm. -/
def counted (w : World) (status : UInt8) : UInt8 :=
  if status = macSuccess ∨ status = macNoData then w.parentThresholdRetry
  else w.parentThresholdRetry + 1

/-- `zb_nlme_sync_confirm`. -/
def syncConfirm (w : World) (status : UInt8) (pending room : Bool) : World :=
  let asked := { w with insidePoll := false, parentThresholdRetry := w.counted status }
  if w.GivenUp status then
    asked.initiateRejoin
  else if w.joined then
    asked.reschedulePollParent w.nwkIndirectPollRate pending room
  else
    asked

/-- `zdo_join_done`. -/
def joinDone (w : World) (pending room : Bool) : World :=
  { w with parentThresholdRetry := 0 }.reschedulePollParent w.nwkIndirectPollRate pending room

/-- The successful branch of `zb_mlme_associate_confirm` of a device that is not joined. -/
def associated (w : World) : World :=
  if w.joined then w else { w with joined := true, joining := w.joining + 1 }

def nlmeRejoin (w : World) : World := if w.rejoin then w else { w with rejoin := true }

/-- `zb_nlme_rejoin_response`; a response that is not accepted starts the search again. -/
def rejoinResponse (w : World) (accepted : Bool) : World :=
  if w.rejoin && accepted then
    { w with joined := true, rejoin := false, joining := w.joining + 1 }
  else
    w

/-- `zb_nlme_rejoin_scan_confirm` that finds no parent. -/
def rejoinScanFailed (w : World) : World := { w with rejoin := false }

/-- The polls between the buffer request of `zb_zdo_poll_parent` and the end of
`zb_nlme_sync_confirm`. -/
def underWay (w : World) : ℕ :=
  w.requests + w.syncRequests + w.mac.count .pollParent +
    (w.syncConfirms.map Prod.fst).count .pollParent

/-- The device is joined, `zdo_join_done` was called for it, and it does not rejoin. -/
def Settled (w : World) : Prop := w.joined = true ∧ w.rejoin = false ∧ w.joining = 0

instance (w : World) : Decidable w.Settled := inferInstanceAs (Decidable (_ ∧ _ ∧ _))

/-- One poll at a time, and a settled device has its alarm or one poll under way. -/
structure Polled (w : World) : Prop where
  one : w.underWay ≤ 1
  some_ : w.Settled → w.alarm.isSome.toNat + w.underWay = 1

theorem polled_iff {w : World} :
    w.Polled ↔ w.underWay ≤ 1 ∧ (w.Settled → w.alarm.isSome.toNat + w.underWay = 1) :=
  ⟨fun h => ⟨h.one, h.some_⟩, fun h => ⟨h.1, h.2⟩⟩

instance (w : World) : Decidable w.Polled := decidable_of_iff _ polled_iff.symm

end World

/-- What happens to the device: a call of `zb_zdo_reschedule_poll_parent` for a request that
is to be acknowledged, the run of the alarm, the grant of a buffer, the next scheduled callback
of each kind, the confirm of the poll the MAC has, and what joins, rejoins and leaves do. -/
inductive Event
  | reschedule (timeout : UInt16) (pending room : Bool)
  | alarm (room : Bool)
  | grant (room : Bool)
  | syncRequest (room : Bool)
  | pollConfirm (status : UInt8) (room : Bool)
  | syncConfirm (pending room : Bool)
  | rejoinResponseTimeout (room : Bool)
  | associated
  | joinDone (pending room : Bool)
  | rejoin
  | rejoinResponse (accepted : Bool)
  | rejoinScanFailed
  | initiateRejoin
  | leave
  deriving DecidableEq, Repr

/-- One event; an event that cannot happen changes nothing. -/
def step (w : World) : Event → World
  | .reschedule timeout pending room => w.reschedulePollParent timeout pending room
  | .alarm room =>
    match w.alarm with
    | none => w
    | some _ => { w with alarm := none }.pollParent room
  | .grant room =>
    match w.requests with
    | 0 => w
    | requests + 1 => { w with requests := requests }.pollParentBuf room
  | .syncRequest room =>
    match w.syncRequests with
    | 0 => w
    | syncRequests + 1 => { w with syncRequests := syncRequests }.syncRequest room
  | .pollConfirm status room =>
    match w.mac with
    | [] => w
    | asker :: mac => { w with mac := mac }.mlmePollConfirm asker status room
  | .syncConfirm pending room =>
    match w.syncConfirms with
    | [] => w
    | (_, status) :: syncConfirms =>
      { w with syncConfirms := syncConfirms }.syncConfirm status pending room
  | .rejoinResponseTimeout room => w.rejoinResponseTimeout room
  | .associated => w.associated
  | .joinDone pending room =>
    match w.joining with
    | 0 => w
    | joining + 1 => { w with joining := joining }.joinDone pending room
  | .rejoin => w.nlmeRejoin
  | .rejoinResponse accepted => w.rejoinResponse accepted
  | .rejoinScanFailed => w.rejoinScanFailed
  | .initiateRejoin | .leave => w.initiateRejoin

/-! ### When a step leaves the device polled -/

/-- The condition on a step: a settled device schedules its next poll exactly when none is under
way, what carries its poll on finds room, an alarm that is left over asks for no second buffer,
and a device that settles has its alarm or poll by then. -/
def Safe (w : World) : Event → Prop
  | .reschedule _ _ room => w.Settled → w.insidePoll = false → (room = true ↔ w.underWay = 0)
  | .alarm room =>
    w.alarm ≠ none → w.joined = true →
      (w.Settled → room = true) ∧ (room = true → w.underWay = 0)
  | .grant room => w.requests ≠ 0 → w.Settled → room = true
  | .syncRequest room => w.syncRequests ≠ 0 → w.Settled → room = true
  | .pollConfirm _ room => w.mac.head? = some .pollParent → w.Settled → room = true
  | .syncConfirm _ room =>
    ∀ confirm ∈ w.syncConfirms.head?, w.Settled → ¬ w.GivenUp confirm.2 →
      (room = true ↔ confirm.1 = .pollParent ∨ w.underWay = 0)
  | .joinDone _ room =>
    w.joined = true → w.rejoin = false → w.joining = 1 →
      ((if w.insidePoll then w.alarm.isSome else room) = true ↔ w.underWay = 0)
  | .rejoinScanFailed =>
    w.rejoin = true → w.joined = true → w.joining = 0 → (w.alarm.isSome = true ↔ w.underWay = 0)
  | .rejoinResponseTimeout _ | .associated | .rejoin | .rejoinResponse _ | .initiateRejoin
  | .leave => True

instance : ∀ (w : World) (e : Event), Decidable (Safe w e)
  | _, .reschedule _ _ _ => inferInstanceAs (Decidable (_ → _ → _))
  | _, .alarm _ => inferInstanceAs (Decidable (_ → _ → _))
  | _, .grant _ => inferInstanceAs (Decidable (_ → _ → _))
  | _, .syncRequest _ => inferInstanceAs (Decidable (_ → _ → _))
  | _, .pollConfirm _ _ => inferInstanceAs (Decidable (_ → _ → _))
  | _, .syncConfirm _ _ => inferInstanceAs (Decidable (∀ confirm ∈ _, _))
  | _, .joinDone _ _ => inferInstanceAs (Decidable (_ → _ → _ → _))
  | _, .rejoinScanFailed => inferInstanceAs (Decidable (_ → _ → _ → _))
  | _, .rejoinResponseTimeout _ | _, .associated | _, .rejoin | _, .rejoinResponse _
  | _, .initiateRejoin | _, .leave => inferInstanceAs (Decidable True)

variable {w : World}

section Reschedule

variable (timeout : UInt16) (pending room : Bool)

theorem reschedule_underWay :
    (w.reschedulePollParent timeout pending room).underWay = w.underWay := by
  unfold World.reschedulePollParent
  split <;> rfl

theorem reschedule_settled :
    (w.reschedulePollParent timeout pending room).Settled ↔ w.Settled := by
  unfold World.reschedulePollParent
  split <;> rfl

theorem reschedule_sleepy :
    (w.reschedulePollParent timeout pending room).macRxOnWhenIdle = w.macRxOnWhenIdle := by
  unfold World.reschedulePollParent
  split <;> rfl

/-- Outside a poll the alarm is what was just scheduled, inside one it stays. -/
theorem reschedule_alarm (sleepy : w.macRxOnWhenIdle = false) :
    (w.reschedulePollParent timeout pending room).alarm.isSome =
      if w.insidePoll then w.alarm.isSome else room := by
  unfold World.reschedulePollParent
  cases inside : w.insidePoll <;> cases room <;> simp [sleepy]

theorem reschedule_polled (sleepy : w.macRxOnWhenIdle = false) :
    (w.reschedulePollParent timeout pending room).Polled ↔ w.underWay ≤ 1 ∧
      (w.Settled → (if w.insidePoll then w.alarm.isSome else room).toNat + w.underWay = 1) := by
  rw [World.polled_iff, reschedule_underWay, reschedule_settled, reschedule_alarm _ _ _ sleepy]

end Reschedule

/-- With at most one poll under way, exactly one is left when an alarm is set for none. -/
theorem toNat_add_eq_one {room : Bool} {n : ℕ} (one : n ≤ 1) :
    room.toNat + n = 1 ↔ (room = true ↔ n = 0) := by
  cases room
  · simp only [Bool.toNat_false, Bool.false_eq_true, false_iff]
    omega
  · simp only [Bool.toNat_true, true_iff]
    omega

theorem syncConfirm_polled (one : w.underWay ≤ 1) (sleepy : w.macRxOnWhenIdle = false)
    (status : UInt8) (pending room : Bool) :
    (w.syncConfirm status pending room).Polled ↔
      (w.Settled → ¬ w.GivenUp status → (room = true ↔ w.underWay = 0)) := by
  unfold World.syncConfirm
  by_cases given : w.GivenUp status
  · have apart : ¬ World.Settled
        (World.initiateRejoin { w with
          insidePoll := false, parentThresholdRetry := w.counted status }) :=
      fun settled => Bool.false_ne_true settled.1
    simp only [given, if_true, not_true_eq_false, false_implies, implies_true, iff_true]
    exact ⟨one, fun settled => absurd settled apart⟩
  · simp only [given, if_false, not_false_eq_true, true_implies]
    by_cases joined : w.joined = true
    · rw [if_pos joined]
      refine (reschedule_polled _ _ _ (by exact sleepy)).trans ?_
      simp only [Bool.false_eq_true, if_false]
      exact (and_iff_right one).trans (imp_congr Iff.rfl (toNat_add_eq_one one))
    · rw [if_neg joined]
      exact iff_of_true ⟨one, fun settled => absurd settled.1 joined⟩
        fun settled => absurd settled.1 joined

section Steps

variable (polled : w.Polled) (sleepy : w.macRxOnWhenIdle = false)
include polled

include sleepy in
theorem polled_reschedule (timeout : UInt16) (pending room : Bool) :
    (step w (.reschedule timeout pending room)).Polled ↔
      Safe w (.reschedule timeout pending room) := by
  rw [show step w _ = w.reschedulePollParent timeout pending room from rfl,
    reschedule_polled _ _ _ sleepy, Safe, ← toNat_add_eq_one polled.one]
  cases inside : w.insidePoll
  · simp [polled.one]
  · simpa using ⟨polled.one, polled.some_⟩

theorem polled_alarm (room : Bool) : (step w (.alarm room)).Polled ↔ Safe w (.alarm room) := by
  have one := polled.one
  cases due : w.alarm with
  | none => simp [step, Safe, due, polled]
  | some timeout =>
    have some_ : w.Settled → w.underWay = 0 := fun settled => by
      have exact_ := polled.some_ settled
      simp only [due, Option.isSome_some, Bool.toNat_true] at exact_
      omega
    cases joined : w.joined
    · have unsettled : ¬ w.Settled := fun settled => by simp [settled.1] at joined
      simp [step, Safe, due, World.pollParent, joined, World.polled_iff, World.Settled,
        World.underWay] at one ⊢
      exact one
    · simp only [step, due, World.pollParent, joined, if_true, World.polled_iff, World.Settled,
        World.underWay, Safe, Option.isSome_none, Bool.toNat_false] at one some_ ⊢
      cases room <;> simp <;> grind

theorem polled_grant (room : Bool) : (step w (.grant room)).Polled ↔ Safe w (.grant room) := by
  have one := polled.one
  have some_ := polled.some_
  cases waiting : w.requests with
  | zero => simp [step, Safe, waiting, polled]
  | succ requests =>
    simp only [step, waiting, World.pollParentBuf, World.polled_iff, World.Settled,
      World.underWay, Safe] at one some_ ⊢
    cases room <;> simp <;> grind

theorem polled_syncRequest (room : Bool) :
    (step w (.syncRequest room)).Polled ↔ Safe w (.syncRequest room) := by
  have one := polled.one
  have some_ := polled.some_
  cases waiting : w.syncRequests with
  | zero => simp [step, Safe, waiting, polled]
  | succ requests =>
    simp only [step, waiting, World.syncRequest, World.polled_iff, World.Settled,
      World.underWay, Safe] at one some_ ⊢
    cases room <;> simp <;> grind

theorem polled_pollConfirm (status : UInt8) (room : Bool) :
    (step w (.pollConfirm status room)).Polled ↔ Safe w (.pollConfirm status room) := by
  have one := polled.one
  have some_ := polled.some_
  cases has : w.mac with
  | nil => simp [step, Safe, has, polled]
  | cons asker mac =>
    simp only [step, has, World.mlmePollConfirm, World.polled_iff, World.Settled, World.underWay,
      Safe, List.head?_cons] at one some_ ⊢
    cases rejoin : w.rejoin
    · cases asker <;> cases room <;> simp [rejoin] at one some_ ⊢ <;> grind
    · cases asker <;> simp [rejoin] at one some_ ⊢ <;> omega

include sleepy in
/-- After the confirm of a poll nothing but the next alarm is to come; after another confirm
the poll under way is. -/
theorem polled_syncConfirm (pending room : Bool) :
    (step w (.syncConfirm pending room)).Polled ↔ Safe w (.syncConfirm pending room) := by
  have one := polled.one
  cases has : w.syncConfirms with
  | nil => simp [step, Safe, has, polled]
  | cons confirm syncConfirms =>
    obtain ⟨asker, status⟩ := confirm
    rw [show step w (.syncConfirm pending room) = World.syncConfirm
      { w with syncConfirms := syncConfirms } status pending room by simp [step, has]]
    have left : w.underWay = World.underWay { w with syncConfirms := syncConfirms } +
        if asker = .pollParent then 1 else 0 := by
      simp only [World.underWay, has, List.map_cons, List.count_cons, beq_iff_eq]
      omega
    have served := syncConfirm_polled (w := { w with syncConfirms := syncConfirms })
      (by omega) sleepy status pending room
    rw [served]
    simp only [Safe, has, List.head?_cons, Option.mem_some_iff, forall_eq']
    cases asker
    · have none_ : World.underWay { w with syncConfirms := syncConfirms } = 0 := by
        simp only [if_true] at left
        omega
      simp only [none_, true_or]
      rfl
    · simp only [reduceCtorEq, if_false, Nat.add_zero] at left
      simp only [left, reduceCtorEq, false_or]
      rfl

include sleepy in
theorem polled_joinDone (pending room : Bool) :
    (step w (.joinDone pending room)).Polled ↔ Safe w (.joinDone pending room) := by
  have one := polled.one
  cases left : w.joining with
  | zero => simp [step, Safe, left, polled]
  | succ joining =>
    rw [show step w (.joinDone pending room) = World.joinDone { w with joining := joining }
      pending room by simp [step, left]]
    refine (reschedule_polled _ _ _ (by exact sleepy)).trans ?_
    simp only [World.underWay, World.Settled, Safe, left] at one ⊢
    rw [and_iff_right one, toNat_add_eq_one one]
    grind

/-- Where the polls stay, and a device that is settled then has been so with this alarm. -/
theorem polled_of_kept {w' : World} (same : w'.underWay = w.underWay)
    (kept : w'.Settled → w.Settled ∧ w'.alarm = w.alarm) : w'.Polled where
  one := same ▸ polled.one
  some_ settled := by
    obtain ⟨before, alarm⟩ := kept settled
    rw [same, alarm]
    exact polled.some_ before

theorem polled_associated : (step w .associated).Polled := by
  simp only [step, World.associated]
  split
  · exact polled
  · exact polled_of_kept polled rfl fun settled => absurd settled.2.2 (Nat.succ_ne_zero _)

theorem polled_rejoin : (step w .rejoin).Polled := by
  simp only [step, World.nlmeRejoin]
  split
  · exact polled
  · exact polled_of_kept polled rfl fun settled => Bool.noConfusion settled.2.1

theorem polled_rejoinResponse (accepted : Bool) : (step w (.rejoinResponse accepted)).Polled := by
  simp only [step, World.rejoinResponse]
  split
  · exact polled_of_kept polled rfl fun settled => absurd settled.2.2 (Nat.succ_ne_zero _)
  · exact polled

/-- The poll of a rejoin is none of `zb_zdo_poll_parent`. -/
theorem polled_rejoinResponseTimeout (room : Bool) :
    (step w (.rejoinResponseTimeout room)).Polled := by
  simp only [step, World.rejoinResponseTimeout]
  split
  · refine polled_of_kept polled ?_ fun settled => ⟨settled, rfl⟩
    simp [World.underWay, List.count_append]
  · exact polled

theorem polled_initiateRejoin : w.initiateRejoin.Polled :=
  polled_of_kept polled rfl fun settled => absurd settled.1 Bool.false_ne_true

theorem polled_rejoinScanFailed :
    (step w .rejoinScanFailed).Polled ↔ Safe w .rejoinScanFailed := by
  have one := polled.one
  have some_ := polled.some_
  simp only [step, World.rejoinScanFailed, World.polled_iff, World.Settled, World.underWay,
    Safe] at one some_ ⊢
  rw [toNat_add_eq_one one] at some_ ⊢
  cases rejoin : w.rejoin <;> simp [rejoin] at some_ ⊢ <;> grind

include sleepy in
theorem polled_step (e : Event) : (step w e).Polled ↔ Safe w e := by
  cases e with
  | reschedule timeout pending room => exact polled_reschedule polled sleepy timeout pending room
  | alarm room => exact polled_alarm polled room
  | grant room => exact polled_grant polled room
  | syncRequest room => exact polled_syncRequest polled room
  | pollConfirm status room => exact polled_pollConfirm polled status room
  | syncConfirm pending room => exact polled_syncConfirm polled sleepy pending room
  | rejoinResponseTimeout room =>
    exact iff_of_true (polled_rejoinResponseTimeout polled room) trivial
  | associated => exact iff_of_true (polled_associated polled) trivial
  | joinDone pending room => exact polled_joinDone polled sleepy pending room
  | rejoin => exact iff_of_true (polled_rejoin polled) trivial
  | rejoinResponse accepted => exact iff_of_true (polled_rejoinResponse polled accepted) trivial
  | rejoinScanFailed => exact polled_rejoinScanFailed polled
  | initiateRejoin => exact iff_of_true (polled_initiateRejoin polled) trivial
  | leave => exact iff_of_true (polled_initiateRejoin polled) trivial

end Steps

/-- No step changes when the receiver is on. -/
theorem step_macRxOnWhenIdle (w : World) (e : Event) :
    (step w e).macRxOnWhenIdle = w.macRxOnWhenIdle := by
  cases e with
  | reschedule timeout pending room => exact reschedule_sleepy timeout pending room
  | syncConfirm pending room =>
    simp only [step]
    split
    · rfl
    · simp only [World.syncConfirm]
      split
      · rfl
      · split
        · exact reschedule_sleepy _ _ _
        · rfl
  | joinDone pending room =>
    simp only [step]
    split
    · rfl
    · exact reschedule_sleepy _ _ _
  | _ =>
    simp only [step, World.pollParent, World.pollParentBuf, World.syncRequest,
      World.mlmePollConfirm, World.rejoinResponseTimeout, World.associated, World.nlmeRejoin,
      World.rejoinResponse, World.rejoinScanFailed, World.initiateRejoin]
    repeat' first | rfl | split

theorem init_polled (rate : UInt16) (maxRetry : UInt8) : (init rate maxRetry).Polled where
  one := Nat.zero_le _
  some_ settled := absurd settled.1 Bool.false_ne_true

/-- A sleepy device polls one at a time, and has its next poll to come whenever it is settled,
in every state of a run exactly when every step of the run is safe. -/
theorem next_poll_pending (rate : UInt16) (maxRetry : UInt8) (events : List Event) :
    Along step (fun w e => (step w e).Polled) (init rate maxRetry) events ↔
      Along step Safe (init rate maxRetry) events := by
  have agree : ∀ w e, w.Polled ∧ w.macRxOnWhenIdle = false →
      ((step w e).Polled ↔ Safe w e) := fun w e ⟨polled, sleepy⟩ => polled_step polled sleepy e
  have kept : ∀ w e, w.Polled ∧ w.macRxOnWhenIdle = false → Safe w e →
      (step w e).Polled ∧ (step w e).macRxOnWhenIdle = false := fun w e before safe =>
    ⟨(agree w e before).mpr safe, (step_macRxOnWhenIdle w e).trans before.2⟩
  exact along_iff_of_invariant agree kept _ _ ⟨init_polled rate maxRetry, rfl⟩

/-- A request that is to be acknowledged is sent while the buffer for a poll is awaited: the
alarm is set beside it, and runs after the buffer came. -/
def doubledRun : List Event :=
  [.associated, .joinDone false true, .alarm true, .reschedule 5 false true, .grant true,
    .alarm true, .grant true]

/-- The device rejoins during a poll: its confirm ends in `zb_mlme_poll_confirm`, and the flag
it should clear keeps `zdo_join_done` from setting the alarm. -/
def lostRun : List Event :=
  [.associated, .joinDone false true, .alarm true, .grant true, .syncRequest true,
    .initiateRejoin, .rejoin, .pollConfirm 0 true, .rejoinResponse true, .joinDone false true]

/-- After the first run two polls are under way, after the second the device is settled and
nothing will poll again. -/
theorem doubled_and_lost :
    (run step (init 50 3) doubledRun).underWay = 2 ∧
      (run step (init 50 3) lostRun).Settled ∧
      (run step (init 50 3) lostRun).alarm = none ∧
      (run step (init 50 3) lostRun).underWay = 0 := by
  decide

end Zboss.PollParent
