import Mathlib.Data.UInt
import Zboss.Lib.RingBuffer
import Zboss.Lib.Run

/-!
The queue of immediate callbacks (`zb_scheduler.c`).  The scheduler's loop peeks at the oldest
entry, calls it and takes it out of the ring buffer only when it has returned, so that the
callback running occupies a cell while it schedules others.
-/

namespace Zboss.CallbackQueue

open Zboss.Run

def schedulerQSize : ℕ := 16

variable {φ : Type*}

structure CbQEnt (φ : Type*) where
  func : φ
  param : UInt8
  deriving DecidableEq

/-- `zb_ret_t` as far as `zb_schedule_callback` uses it. -/
inductive Ret where
  | ok
  | overflow
  deriving DecidableEq, Repr

/-- The queue with what has happened to it: the callbacks accepted and those invoked, in order,
and whether the last one invoked has yet to return. -/
structure Sched (φ : Type*) where
  cbQ : RingBuffer (CbQEnt φ) schedulerQSize
  accepted : List (CbQEnt φ)
  invoked : List (CbQEnt φ)
  running : Bool

namespace Sched

/-- The queue at start. -/
def init (ringBuf : ℕ → CbQEnt φ) : Sched φ := ⟨.init ringBuf, [], [], false⟩

def scheduleCallback (w : Sched φ) (func : φ) (param : UInt8) : Sched φ × Ret :=
  match w.cbQ.putReserve with
  | some ent =>
    ({ w with
        cbQ := (w.cbQ.fill ent ⟨func, param⟩).flushPut
        accepted := w.accepted ++ [⟨func, param⟩] }, .ok)
  | none => (w, .overflow)

/-- The loop of `zb_sched_loop_iteration` comes round: it peeks at the ring buffer and calls what
it finds there. -/
def callNext (w : Sched φ) : Sched φ :=
  match w.cbQ.peek with
  | some ent => { w with invoked := w.invoked ++ [w.cbQ.ringBuf ent], running := true }
  | none => w

/-- The callback has returned to the loop. -/
def callReturns (w : Sched φ) : Sched φ := { w with cbQ := w.cbQ.flushGet, running := false }

/-- The callbacks pending, the one running included. -/
def pending (w : Sched φ) : List (CbQEnt φ) := w.cbQ.contents

/-- The callbacks accepted and not yet invoked. -/
def waiting (w : Sched φ) : List (CbQEnt φ) := if w.running then w.pending.tail else w.pending

end Sched

/-- What happens to the queue.  Callbacks are scheduled by the callback running as well as by
anyone else. -/
inductive Event (φ : Type*) where
  | scheduleCallback (func : φ) (param : UInt8)
  | callNext
  | callReturns

/-- The loop comes round, perhaps to find the queue empty. -/
def Event.isRound : Event φ → Bool
  | callNext => true
  | _ => false

open Sched

def Sched.step (w : Sched φ) : Event φ → Sched φ
  | .scheduleCallback func param => (w.scheduleCallback func param).1
  | .callNext => w.callNext
  | .callReturns => w.callReturns

/-- The loop calls one callback after the other: it is not entered again from a callback. -/
def Possible (w : Sched φ) : Event φ → Prop
  | .scheduleCallback _ _ => True
  | .callNext => w.running = false
  | .callReturns => w.running = true

instance (w : Sched φ) : ∀ event, Decidable (Possible w event)
  | .scheduleCallback _ _ => inferInstanceAs (Decidable True)
  | .callNext | .callReturns => inferInstanceAs (Decidable (_ = _))

/-- What was accepted has been invoked or waits, in this order, and a callback running is at the
head of the ring buffer. -/
structure Sound (w : Sched φ) : Prop where
  ring : w.cbQ.Sound
  fifo : w.accepted = w.invoked ++ w.waiting
  running : w.running = true → ∃ ent ∈ w.invoked.getLast?, w.pending.head? = some ent

namespace Sound

variable {w : Sched φ}

theorem init (ringBuf : ℕ → CbQEnt φ) : Sound (Sched.init ringBuf) where
  ring := .init (by decide) ringBuf
  fifo := rfl
  running := fun absurd_ => nomatch absurd_

theorem busy (sound : Sound w) (running : w.running = true) : w.pending ≠ [] := by
  obtain ⟨ent, -, head⟩ := sound.running running
  intro empty
  rw [empty] at head
  cases head

theorem overflow_iff (sound : Sound w) (func : φ) (param : UInt8) :
    (w.scheduleCallback func param).2 = .overflow ↔ w.pending.length = schedulerQSize := by
  rw [Sched.pending, ← RingBuffer.putReserve_eq_none sound.ring, scheduleCallback]
  cases w.cbQ.putReserve <;> simp

theorem scheduleCallback (sound : Sound w) (func : φ) (param : UInt8) :
    Sound (w.scheduleCallback func param).1 := by
  cases reserved : w.cbQ.putReserve with
  | none =>
    simp only [Sched.scheduleCallback, reserved]
    exact sound
  | some ent =>
    simp only [Sched.scheduleCallback, reserved]
    have put := RingBuffer.contents_put sound.ring reserved ⟨func, param⟩
    refine ⟨sound.ring.put reserved _, ?_, fun running => ?_⟩
    · have fifo := sound.fifo
      simp only [waiting, Sched.pending, put] at fifo ⊢
      rw [fifo]
      cases running : w.running with
      | true =>
        have some_ : w.cbQ.contents ≠ [] := sound.busy running
        rw [if_pos rfl, if_pos rfl, List.tail_append_of_ne_nil some_, List.append_assoc]
      | false =>
        rw [if_neg Bool.false_ne_true, if_neg Bool.false_ne_true, List.append_assoc]
    · obtain ⟨ent, last, head⟩ := sound.running running
      refine ⟨ent, last, ?_⟩
      rw [Sched.pending, put, List.head?_append, ← Sched.pending, head]
      rfl

/-- The loop invokes the callback that has waited longest. -/
theorem callNext_eq (sound : Sound w) (idle : w.running = false) :
    w.waiting = [] ∧ w.callNext = w ∨
    ∃ ent rest, w.waiting = ent :: rest ∧ w.pending = ent :: rest ∧
      w.callNext = { w with invoked := w.invoked ++ [ent], running := true } := by
  have all : w.waiting = w.pending := by
    rw [waiting, idle]
    rfl
  cases here : w.cbQ.peek with
  | none =>
    have empty : w.pending = [] := RingBuffer.peek_eq_none.mp here
    refine Or.inl ⟨all.trans empty, ?_⟩
    rw [Sched.callNext, here]
  | some i =>
    have head : w.pending.head? = some (w.cbQ.ringBuf i) :=
      RingBuffer.head_contents sound.ring here
    obtain ⟨rest, shape⟩ := List.head?_eq_some_iff.mp head
    refine Or.inr ⟨w.cbQ.ringBuf i, rest, all.trans shape, shape, ?_⟩
    rw [Sched.callNext, here]

theorem callNext (sound : Sound w) (idle : w.running = false) : Sound w.callNext := by
  rcases sound.callNext_eq idle with ⟨-, same⟩ | ⟨ent, rest, waits, pending_, called⟩
  · rwa [same]
  · rw [called]
    refine ⟨sound.ring, ?_, fun _ => ?_⟩
    · have left : waiting { w with invoked := w.invoked ++ [ent], running := true } = rest :=
        congrArg List.tail pending_
      rw [left, sound.fifo, waits, List.append_assoc]
      rfl
    · exact ⟨ent, List.getLast?_concat, congrArg List.head? pending_⟩

theorem callReturns (sound : Sound w) (running : w.running = true) : Sound w.callReturns where
  ring := sound.ring.flushGet (sound.busy running)
  fifo := by
    have left : w.callReturns.waiting = w.waiting := by
      rw [waiting, waiting, running]
      exact RingBuffer.contents_flushGet
    rw [left]
    exact sound.fifo
  running := fun absurd_ => nomatch absurd_

theorem step (sound : Sound w) (event : Event φ) (possible : Possible w event) :
    Sound (w.step event) := by
  cases event with
  | scheduleCallback func param => exact sound.scheduleCallback func param
  | callNext => exact sound.callNext possible
  | callReturns => exact sound.callReturns possible

/-- A step never takes back what was accepted or invoked. -/
theorem accepted_grows (sound : Sound w) (event : Event φ) (possible : Possible w event) :
    w.accepted <+: (w.step event).accepted := by
  cases event with
  | scheduleCallback func param =>
    simp only [Sched.step, Sched.scheduleCallback]
    split
    · exact List.prefix_append _ _
    · exact List.prefix_refl _
  | callNext =>
    rcases sound.callNext_eq possible with ⟨-, same⟩ | ⟨ent, rest, -, -, called⟩
    · rw [Sched.step, same]
    · rw [Sched.step, called]
  | callReturns => exact List.prefix_refl _

/-- The ring buffer holds the callback running and those that wait. -/
theorem pending_eq (sound : Sound w) :
    w.pending = (if w.running then w.invoked.getLast?.toList else []) ++ w.waiting := by
  cases running : w.running with
  | true =>
    obtain ⟨ent, last, head⟩ := sound.running running
    obtain ⟨rest, shape⟩ := List.head?_eq_some_iff.mp head
    rw [if_pos rfl, Option.mem_def.mp last, waiting, running, if_pos rfl, shape]
    rfl
  | false =>
    rw [waiting, running]
    rfl

/-- The first `n` accepted are invoked once the loop has come round often enough. -/
theorem take_invoked (sound : Sound w) (later : List (Event φ))
    (possible : Along Sched.step Possible w later) (n : ℕ) (accepted : n ≤ w.accepted.length)
    (rounds : n ≤ w.invoked.length + later.countP Event.isRound) :
    w.accepted.take n <+: (run Sched.step w later).invoked := by
  induction later generalizing w with
  | nil =>
    have enough : n ≤ w.invoked.length := by simpa using rounds
    rw [sound.fifo, List.take_append_of_le_length enough]
    exact List.take_prefix n w.invoked
  | cons event rest induction_ =>
    have grows := sound.accepted_grows event possible.1
    have same : (w.step event).accepted.take n = w.accepted.take n := by
      obtain ⟨more, shape⟩ := grows
      rw [← shape, List.take_append_of_le_length accepted]
    rw [← same]
    refine induction_ (sound.step event possible.1) possible.2 (accepted.trans grows.length_le) ?_
    rw [List.countP_cons] at rounds
    cases event with
    | scheduleCallback func param =>
      have kept : (w.scheduleCallback func param).1.invoked = w.invoked := by
        rw [Sched.scheduleCallback]
        split <;> rfl
      rw [Sched.step, kept]
      simpa [Event.isRound] using rounds
    | callNext =>
      rcases sound.callNext_eq possible.1 with ⟨none_, idle⟩ | ⟨ent, left, -, -, called⟩
      · have all : w.accepted.length = w.invoked.length := by
          rw [sound.fifo, none_, List.append_nil]
        rw [Sched.step, idle]
        omega
      · rw [Sched.step, called, List.length_append, List.length_singleton]
        simp only [Event.isRound, ↓reduceIte] at rounds
        omega
    | callReturns =>
      have kept : (w.step .callReturns).invoked = w.invoked := rfl
      rw [kept]
      simpa [Event.isRound] using rounds

end Sound

/-- **Callbacks are invoked once each, in the order they were accepted.**  The queue refuses one
just when `ZB_SCHEDULER_Q_SIZE` are pending, the one running among them, and then nothing
changes; and all that wait are invoked once the loop has come round as many times. -/
theorem callbacks_fifo (ringBuf : ℕ → CbQEnt φ) (events : List (Event φ))
    (possible : Along step Possible (init ringBuf) events) :
    let w := run step (init ringBuf) events
    w.accepted = w.invoked ++ w.waiting ∧
      w.pending = (if w.running then w.invoked.getLast?.toList else []) ++ w.waiting ∧
      (∀ func param,
        ((w.scheduleCallback func param).2 = .overflow ↔ w.pending.length = schedulerQSize) ∧
        ((w.scheduleCallback func param).2 = .overflow →
          (w.scheduleCallback func param).1 = w) ∧
        ((w.scheduleCallback func param).2 = .ok →
          (w.scheduleCallback func param).1.accepted = w.accepted ++ [⟨func, param⟩])) ∧
      ∀ later, Along step Possible w later → w.waiting.length ≤ later.countP Event.isRound →
        w.accepted <+: (run step w later).invoked := by
  intro w
  have sound : Sound w := invariant_of_along
    (fun _ event sound possible => sound.step event possible) _ events (.init ringBuf) possible
  refine ⟨sound.fifo, sound.pending_eq, fun func param => ⟨sound.overflow_iff func param, ?_, ?_⟩,
    fun later possible rounds => ?_⟩
  · intro refused
    rw [scheduleCallback] at refused ⊢
    split
    · rename_i reserved
      rw [reserved] at refused
      cases refused
    · rfl
  · intro taken
    rw [scheduleCallback] at taken ⊢
    split
    · rfl
    · rename_i full
      rw [full] at taken
      cases taken
  · have all : w.accepted.length = w.invoked.length + w.waiting.length := by
      rw [sound.fifo, List.length_append]
    have invoked := sound.take_invoked later possible w.accepted.length (Nat.le_refl _)
      (all ▸ Nat.add_le_add_left rounds _)
    rwa [List.take_length] at invoked

/-- A callback that schedules two others, one of which has been called. -/
def nestedEvents : List (Event ℕ) :=
  [.scheduleCallback 7 1, .callNext, .scheduleCallback 8 2, .scheduleCallback 9 3, .callReturns,
    .callNext]

theorem callbacks_fifo_nestedEvents :
    (run step (init fun _ => ⟨0, 0⟩) nestedEvents).accepted =
      [⟨7, 1⟩, ⟨8, 2⟩] ++ (run step (init fun _ => ⟨0, 0⟩) nestedEvents).waiting :=
  (callbacks_fifo (fun _ => ⟨0, 0⟩) nestedEvents (by decide)).1

end Zboss.CallbackQueue
