import Mathlib.Order.Nat
import Zboss.Lib.Run

/-!
Alarms of the scheduler.  The timer has 16 bits, times are compared within half of its
range, and a pass of the main loop compares the alarms with the time read at its start.
`ticks` counts every tick, the timer is its low half; an alarm remembers the tick it was
scheduled at.  Callbacks are named by numbers.
-/

namespace Zboss.Alarm

open Zboss.Run

/-- `ZB_HALF_MAX_TIME_VAL`, half of `ZB_UINT16_MAX`. -/
def halfMaxTimeVal : UInt16 := 65535 / 2

def timeAdd (a b : UInt16) : UInt16 := a + b

def timeSubtract (a b : UInt16) : UInt16 := if a - b < halfMaxTimeVal then a - b else b - a

def timeGe (a b : UInt16) : Bool := a - b < halfMaxTimeVal

/-- `ZB_TIME_ONE_SECOND` in beacon intervals of 15360 microseconds. -/
def timeOneSecond : ℕ := (10 * 1000 + 3) / (15360 / 100)

/-- `ZB_ZDO_15_MIN_TIMEOUT`, also `ZB_ZDO_CHANNEL_CHECK_TIMEOUT`. -/
def zdo15MinTimeout : UInt16 := .ofNat (timeOneSecond * 60 * 15)

def schedulerQSize : ℕ := 16

def alarmAnyParam : UInt8 := 0xff

def alarmAllCb : UInt8 := 0xfe

inductive Ret
  | ok
  | notFound
  | overflow
  deriving DecidableEq, Repr

/-- An entry of the timer queue, and the tick it was scheduled at. -/
structure TmQEnt where
  func : ℕ
  param : UInt8
  runTime : UInt16
  scheduled : ℕ
  deriving DecidableEq, Repr

/-- The timer queue and the number of free entries, the timer, the time `pass` the running
pass over the alarms works with, and the alarm whose callback runs. -/
structure Sched where
  tmQueue : List TmQEnt
  tmFreelist : ℕ
  ticks : ℕ
  timerStop : UInt16
  started : Bool
  pass : Option UInt16
  running : Option TmQEnt
  deriving DecidableEq, Repr

namespace Sched

/-- `zb_sched_init`. -/
def init : Sched where
  tmQueue := []
  tmFreelist := schedulerQSize
  ticks := 0
  timerStop := 0
  started := false
  pass := none
  running := none

/-- `ZB_TIMER_GET`. -/
def timer (s : Sched) : UInt16 := .ofNat s.ticks

def timerStart (s : Sched) (timeout : UInt16) : Sched :=
  let t := timeAdd s.timer timeout
  if !s.started || !timeGe t s.timerStop || !timeGe s.timerStop s.timer then
    { s with timerStop := t, started := true }
  else s

def timerStopAsync (s : Sched) : Sched := { s with started := false }

/-- Where `zb_schedule_alarm` puts an entry. -/
def insert (nent : TmQEnt) (queue : List TmQEnt) : List TmQEnt :=
  match queue with
  | [] => [nent]
  | head :: _ =>
    if timeGe head.runTime nent.runTime then nent :: queue
    else
      let before := queue.takeWhile fun ent => timeGe nent.runTime ent.runTime
      let rest := queue.dropWhile fun ent => timeGe nent.runTime ent.runTime
      -- the entry before the head is the tail
      if before = [] then queue ++ [nent] else before ++ nent :: rest

/-- The entry `zb_schedule_alarm` fills. -/
def alarm (s : Sched) (func : ℕ) (param : UInt8) (runAfter : UInt16) : TmQEnt where
  func := func
  param := param
  runTime := timeAdd s.timer runAfter
  scheduled := s.ticks

/-- Start the timer for the head of the queue unless its time has come. -/
def startForHead (s : Sched) : Sched :=
  match s.tmQueue with
  | [] => s
  | ent :: _ =>
    if ent.runTime ≠ s.timer ∧ timeGe ent.runTime s.timer then
      s.timerStart (timeSubtract ent.runTime s.timer)
    else s

def scheduleAlarm (s : Sched) (func : ℕ) (param : UInt8) (runAfter : UInt16) : Ret × Sched :=
  match s.tmFreelist with
  | 0 => (.overflow, s)
  | free + 1 =>
    let queue := insert (s.alarm func param runAfter) s.tmQueue
    (.ok, { s with tmQueue := queue, tmFreelist := free }.startForHead)

/-- The alarms a cancellation leaves in the queue. -/
def cancelScan (func : ℕ) (param : UInt8) : List TmQEnt → List TmQEnt
  | [] => []
  | ent :: rest =>
    if ent.func = func ∧ (param = alarmAnyParam ∨ param = alarmAllCb ∨ param = ent.param) then
      if param = alarmAllCb then cancelScan func param rest else rest
    else ent :: cancelScan func param rest

def scheduleAlarmCancel (s : Sched) (func : ℕ) (param : UInt8) : Ret × Sched :=
  let queue := cancelScan func param s.tmQueue
  let cancelled := s.tmQueue.length - queue.length
  (if cancelled = 0 then .notFound else .ok,
    { s with tmQueue := queue, tmFreelist := s.tmFreelist + cancelled })

/-- Code that can schedule alarms runs: anything outside a pass, a callback within. -/
def InCallback (s : Sched) : Prop := s.pass = none ∨ s.running.isSome

instance (s : Sched) : Decidable s.InCallback := inferInstanceAs (Decidable (_ ∨ _))

/-- The alarm a pass invokes next. -/
def due (s : Sched) : Option TmQEnt :=
  match s.running, s.pass, s.tmQueue with
  | none, some t, ent :: _ => if timeGe t ent.runTime then some ent else none
  | _, _, _ => none

/-- The end of a pass: start the timer again or stop it. -/
def rearm (s : Sched) (t : UInt16) : Sched :=
  match s.tmQueue with
  | [] => s.timerStopAsync
  | ent :: _ => s.timerStart (timeSubtract ent.runTime t)

end Sched

/-- Steps of scheduler, timer and callbacks.  A pass over the alarms starts with reading the
timer, invokes alarms, and ends when none is due or when the transceiver interrupts it. -/
inductive Op
  | tick (n : UInt16)
  | schedule (func : ℕ) (param : UInt8) (runAfter : UInt16)
  | cancel (func : ℕ) (param : UInt8)
  | beginPass
  | invoke
  | return_
  | endPass (interrupted : Bool)
  deriving DecidableEq, Repr

namespace Sched

/-- The alarm whose callback a step invokes. -/
def invokes (s : Sched) : Op → Option TmQEnt
  | .invoke => s.due
  | _ => none

/-- One step; a step that is not its turn changes nothing. -/
def step (s : Sched) : Op → Sched
  | .tick n => if s.started then { s with ticks := s.ticks + n.toNat } else s
  | .schedule func param runAfter =>
    if s.InCallback then (s.scheduleAlarm func param runAfter).2 else s
  | .cancel func param => if s.InCallback then (s.scheduleAlarmCancel func param).2 else s
  | .beginPass =>
    if s.pass = none ∧ s.tmQueue ≠ [] then { s with pass := some s.timer } else s
  | .invoke =>
    match s.due with
    | some ent => { s with tmQueue := s.tmQueue.tail, running := some ent }
    | none => s
  | .return_ =>
    if s.running.isSome then { s with running := none, tmFreelist := s.tmFreelist + 1 } else s
  | .endPass interrupted =>
    match s.pass with
    | some t =>
      if s.running = none ∧ (interrupted ∨ s.due = none) then
        { s with pass := none }.rearm t
      else s
    | none => s

/-- Every alarm `ent` that is invoked in a run from `s` is invoked when `runAfter` ticks have
passed since it was scheduled. -/
def NeverEarly (s : Sched) (ent : TmQEnt) (runAfter : UInt16) : Prop :=
  ∀ ops op, (run step s ops).invokes op = some ent →
    ent.scheduled + runAfter.toNat ≤ (run step s ops).ticks

/-- An alarm for `runAfter` ticks from now is not past for the timer, nor for the time that
the running pass read. -/
def Ahead (s : Sched) (runAfter : UInt16) : Prop :=
  runAfter = 0 ∨ runAfter ≤ 32769 ∧
    ∀ t ∈ s.pass, 0 < runAfter + (s.timer - t) ∧ runAfter + (s.timer - t) ≤ 32769

end Sched

theorem timeGe_iff (a b : UInt16) : timeGe a b = true ↔ (a - b).toNat < 32767 := by
  simp only [timeGe, halfMaxTimeVal, decide_eq_true_eq, UInt16.lt_iff_toNat_lt]
  rfl

/-- A time that lies at most half of the range ahead is not past before it has come. -/
theorem come_of_timeGe {now since : ℕ} {runAfter : UInt16} (short : runAfter ≤ 32769)
    (later : since ≤ now) (past : timeGe (.ofNat now) (timeAdd (.ofNat since) runAfter)) :
    since + runAfter.toNat ≤ now := by
  have short : runAfter.toNat ≤ 32769 := UInt16.le_iff_toNat_le.mp short
  rw [timeGe_iff] at past
  simp only [timeAdd, UInt16.toNat_sub, UInt16.toNat_add, UInt16.toNat_ofNat'] at past
  omega

/-- When time `t` takes an alarm for `runAfter` ticks from now for past. -/
theorem timeGe_timeAdd (t timer runAfter : UInt16) :
    timeGe t (timeAdd timer runAfter) = true ↔
      ¬(0 < runAfter + (timer - t) ∧ runAfter + (timer - t) ≤ 32769) := by
  rw [timeGe_iff]
  simp only [timeAdd, UInt16.lt_iff_toNat_lt, UInt16.le_iff_toNat_le, UInt16.toNat_sub,
    UInt16.toNat_add]
  have := t.toNat_lt
  have := timer.toNat_lt
  have := runAfter.toNat_lt
  change _ ↔ ¬(0 < _ ∧ _ ≤ 32769)
  omega

namespace Sched

variable {s : Sched} {ent : TmQEnt} {runAfter : UInt16}

@[simp] theorem timerStart_pass (s : Sched) (timeout : UInt16) :
    (s.timerStart timeout).pass = s.pass := by
  unfold timerStart; dsimp only; split <;> rfl

@[simp] theorem timerStart_ticks (s : Sched) (timeout : UInt16) :
    (s.timerStart timeout).ticks = s.ticks := by
  unfold timerStart; dsimp only; split <;> rfl

@[simp] theorem timerStart_running (s : Sched) (timeout : UInt16) :
    (s.timerStart timeout).running = s.running := by
  unfold timerStart; dsimp only; split <;> rfl

@[simp] theorem timerStart_tmQueue (s : Sched) (timeout : UInt16) :
    (s.timerStart timeout).tmQueue = s.tmQueue := by
  unfold timerStart; dsimp only; split <;> rfl

/-- Starting the timer touches only the timer. -/
theorem startForHead_frame (s : Sched) :
    s.startForHead.pass = s.pass ∧ s.startForHead.ticks = s.ticks ∧
      s.startForHead.running = s.running ∧ s.startForHead.tmQueue = s.tmQueue := by
  unfold startForHead
  split
  · simp
  · split <;> simp

theorem scheduleAlarm_frame (s : Sched) (func : ℕ) (param : UInt8) (runAfter : UInt16) :
    (s.scheduleAlarm func param runAfter).2.pass = s.pass ∧
      (s.scheduleAlarm func param runAfter).2.ticks = s.ticks ∧
      (s.scheduleAlarm func param runAfter).2.running = s.running ∧
      ((s.scheduleAlarm func param runAfter).1 = .ok →
        (s.scheduleAlarm func param runAfter).2.tmQueue =
          insert (s.alarm func param runAfter) s.tmQueue) := by
  unfold scheduleAlarm
  split
  · simp
  · simp [startForHead_frame]

theorem rearm_frame (s : Sched) (t : UInt16) :
    (s.rearm t).pass = s.pass ∧ (s.rearm t).ticks = s.ticks ∧
      (s.rearm t).tmQueue = s.tmQueue ∧ (s.rearm t).running = s.running := by
  unfold rearm
  split <;> simp_all [timerStopAsync]

/-- The timer only goes forward. -/
theorem step_ticks (s : Sched) (op : Op) : s.ticks ≤ (s.step op).ticks := by
  cases op with
  | tick n => simp only [step]; split <;> simp
  | schedule func param runAfter => simp only [step]; split <;> simp [scheduleAlarm_frame]
  | cancel func param => simp only [step]; split <;> simp [scheduleAlarmCancel]
  | beginPass => simp only [step]; split <;> simp
  | invoke => simp only [step]; split <;> simp
  | return_ => simp only [step]; split <;> simp
  | endPass interrupted =>
    simp only [step]
    split
    · split <;> simp [rearm_frame]
    · exact le_rfl

/-- A pass keeps the time it read when it began. -/
theorem step_pass (s : Sched) (op : Op) :
    ∀ t ∈ (s.step op).pass, t ∈ s.pass ∨ t = (s.step op).timer := by
  intro t reads
  cases op with
  | tick n =>
    left
    simp only [step] at reads
    split at reads <;> exact reads
  | schedule func param runAfter =>
    left
    simp only [step] at reads
    split at reads
    · rwa [(scheduleAlarm_frame s func param runAfter).1] at reads
    · exact reads
  | cancel func param =>
    left
    simp only [step] at reads
    split at reads <;> exact reads
  | beginPass =>
    simp only [step] at reads ⊢
    split
    · rename_i begins
      rw [if_pos begins] at reads
      exact Or.inr (Option.some.inj reads).symm
    · rename_i waits
      rw [if_neg waits] at reads
      exact Or.inl reads
  | invoke =>
    left
    simp only [step] at reads
    split at reads <;> exact reads
  | return_ =>
    left
    simp only [step] at reads
    split at reads <;> exact reads
  | endPass interrupted =>
    left
    simp only [step] at reads
    split at reads
    · split at reads
      · rw [(rearm_frame _ _).1] at reads
        cases reads
      · exact reads
    · exact reads

/-- The alarm is not past for the running pass unless its time has come. -/
structure Awaited (ent : TmQEnt) (runAfter : UInt16) (s : Sched) : Prop where
  since : ent.scheduled ≤ s.ticks
  come : ∀ t ∈ s.pass, timeGe t ent.runTime → ent.scheduled + runAfter.toNat ≤ s.ticks

theorem Awaited.step (awaited : Awaited ent runAfter s) (op : Op)
    (short : runAfter ≤ 32769) (at_ : ent.runTime = timeAdd (.ofNat ent.scheduled) runAfter) :
    Awaited ent runAfter (s.step op) := by
  have forward := s.step_ticks op
  have since : ent.scheduled ≤ (s.step op).ticks := awaited.since.trans forward
  refine ⟨since, fun t reads past => ?_⟩
  rcases s.step_pass op t reads with kept | now
  · exact (awaited.come t kept past).trans forward
  · rw [now, at_] at past
    exact come_of_timeGe short since past

/-- An invoked alarm is past for the running pass. -/
theorem invokes_past {op : Op} (invoked : s.invokes op = some ent) :
    ∃ t ∈ s.pass, timeGe t ent.runTime := by
  cases op with
  | invoke =>
    simp only [invokes, due] at invoked
    split at invoked
    · rename_i t head rest idle reads queue
      split at invoked
      · rename_i past
        cases invoked
        exact ⟨t, reads, past⟩
      · cases invoked
    · cases invoked
  | tick | schedule | cancel | beginPass | return_ | endPass => cases invoked

theorem Awaited.neverEarly (awaited : Awaited ent runAfter s) (short : runAfter ≤ 32769)
    (at_ : ent.runTime = timeAdd (.ofNat ent.scheduled) runAfter) :
    s.NeverEarly ent runAfter := by
  intro ops op invoked
  have after : Awaited ent runAfter (run _ s ops) :=
    invariant_of_run (fun _ op awaited => awaited.step op short at_) s ops awaited
  obtain ⟨t, reads, past⟩ := invokes_past invoked
  exact after.come t reads past

theorem neverEarly_of_ahead (func : ℕ) (param : UInt8) (ahead : s.Ahead runAfter) :
    (s.scheduleAlarm func param runAfter).2.NeverEarly (s.alarm func param runAfter)
      runAfter := by
  obtain ⟨samePass, sameTicks, -, -⟩ := scheduleAlarm_frame s func param runAfter
  have short : runAfter ≤ 32769 := by
    rcases ahead with rfl | ⟨short, -⟩
    · decide
    · exact short
  refine Awaited.neverEarly ⟨sameTicks.ge, fun t reads past => ?_⟩ short rfl
  rw [sameTicks]
  rw [samePass] at reads
  rcases ahead with rfl | ⟨-, open_⟩
  · exact le_rfl
  · exact absurd (open_ t reads) ((timeGe_timeAdd t s.timer runAfter).mp past)

/-! An alarm that is not ahead is early in some run: the alarms before it are cancelled and
the pass goes on, or the next one begins. -/

theorem mem_insert (nent : TmQEnt) (queue : List TmQEnt) : nent ∈ insert nent queue := by
  unfold insert
  split
  · simp
  · split
    · simp
    · dsimp only
      split <;> simp

theorem cancel_head {head : TmQEnt} {rest : List TmQEnt} (callback : s.InCallback)
    (queue : s.tmQueue = head :: rest) :
    (s.step (.cancel head.func alarmAnyParam)).tmQueue = rest ∧
      (s.step (.cancel head.func alarmAnyParam)).pass = s.pass ∧
      (s.step (.cancel head.func alarmAnyParam)).running = s.running ∧
      (s.step (.cancel head.func alarmAnyParam)).ticks = s.ticks := by
  have one : alarmAnyParam ≠ alarmAllCb := by decide
  simp [step, callback, scheduleAlarmCancel, queue, cancelScan, one]

/-- Cancelling what lies before an alarm makes it the head of the queue. -/
theorem cancel_until (callback : s.InCallback) (member : ent ∈ s.tmQueue) :
    ∃ ops rest, (run step s ops).tmQueue = ent :: rest ∧ (run step s ops).pass = s.pass ∧
      (run step s ops).running = s.running ∧ (run step s ops).ticks = s.ticks := by
  generalize before : s.tmQueue = queue at member
  induction queue generalizing s with
  | nil => cases member
  | cons head rest induction_ =>
    rcases List.mem_cons.mp member with rfl | later
    · exact ⟨[], rest, before, rfl, rfl, rfl⟩
    · obtain ⟨queue, pass, running, ticks⟩ := cancel_head callback before
      have callback' : (s.step (.cancel head.func alarmAnyParam)).InCallback := by
        rwa [InCallback, pass, running]
      obtain ⟨ops, rest', reached, pass', running', ticks'⟩ := induction_ callback' queue later
      exact ⟨.cancel head.func alarmAnyParam :: ops, rest', reached, pass'.trans pass,
        running'.trans running, ticks'.trans ticks⟩

/-- A callback that runs returns. -/
theorem return_idle (s : Sched) :
    (s.step .return_).running = none ∧ (s.step .return_).tmQueue = s.tmQueue ∧
      (s.step .return_).pass = s.pass ∧ (s.step .return_).ticks = s.ticks := by
  simp only [step]
  split
  · simp
  · simp_all

/-- The head of the queue is invoked in a pass for which it is past. -/
theorem invokes_head {t : UInt16} {rest : List TmQEnt} (idle : s.running = none)
    (queue : s.tmQueue = ent :: rest) (reads : s.pass = some t)
    (past : timeGe t ent.runTime) : s.invokes .invoke = some ent := by
  simp [invokes, due, idle, queue, reads, past]

/-- The head of the queue is invoked at once when the timer takes it for past. -/
theorem invokes_at_once {rest : List TmQEnt} (idle : s.running = none)
    (queue : s.tmQueue = ent :: rest) (past : timeGe s.timer ent.runTime) :
    ∃ ops, (run step s ops).invokes .invoke = some ent ∧
      (run step s ops).ticks = s.ticks := by
  have begins {s' : Sched} (idle : s'.running = none) (queue : s'.tmQueue = ent :: rest)
      (closed : s'.pass = none) (past : timeGe s'.timer ent.runTime) :
      (s'.step .beginPass).invokes .invoke = some ent ∧
        (s'.step .beginPass).ticks = s'.ticks := by
    have opens : s'.step .beginPass = { s' with pass := some s'.timer } := by
      simp [step, closed, queue]
    rw [opens]
    exact ⟨invokes_head idle queue rfl past, rfl⟩
  cases reads : s.pass with
  | none => exact ⟨[.beginPass], begins idle queue reads past⟩
  | some t =>
    have ends : s.step (.endPass true) = { s with pass := none }.rearm t := by
      simp [step, reads, idle]
    obtain ⟨closed, ticks, queue', idle'⟩ := rearm_frame { s with pass := none } t
    rw [← ends] at closed ticks queue' idle'
    have again := begins (idle'.trans idle) (queue'.trans queue) closed (by
      rwa [timer, ticks])
    exact ⟨[.endPass true, .beginPass], again.1, again.2.trans ticks⟩

/-- An alarm that is not ahead is invoked before its time in some run. -/
theorem early_of_not_ahead (func : ℕ) (param : UInt8) (callback : s.InCallback)
    (accepted : (s.scheduleAlarm func param runAfter).1 = .ok) (behind : ¬s.Ahead runAfter) :
    ¬(s.scheduleAlarm func param runAfter).2.NeverEarly (s.alarm func param runAfter)
      runAfter := by
  intro never
  obtain ⟨samePass, sameTicks, sameRunning, queue⟩ := scheduleAlarm_frame s func param runAfter
  generalize (s.scheduleAlarm func param runAfter).2 = s₁ at *
  have member : s.alarm func param runAfter ∈ s₁.tmQueue := by
    rw [queue accepted]
    exact mem_insert _ _
  have callback₁ : s₁.InCallback := by rwa [InCallback, samePass, sameRunning]
  obtain ⟨ops, rest, head, pass₂, -, ticks₂⟩ := cancel_until callback₁ member
  obtain ⟨idle, queue₃, pass₃, ticks₃⟩ := return_idle (run step s₁ ops)
  have sameTicks₃ := (ticks₃.trans ticks₂).trans sameTicks
  -- it is enough to see it invoked without a tick more
  have late : ∀ more, (run step (step (run step s₁ ops) .return_) more).invokes .invoke =
      some (s.alarm func param runAfter) →
      (run step (step (run step s₁ ops) .return_) more).ticks = s.ticks → runAfter = 0 := by
    intro more invoked ticks
    have joined := never (ops ++ .return_ :: more) .invoke
    rw [run_append] at joined
    have bound := joined invoked
    rw [run_cons, ticks] at bound
    have none_ : runAfter.toNat = 0 := by
      simp only [alarm] at bound
      omega
    exact UInt16.toNat_inj.mp none_
  have later : runAfter ≠ 0 := fun zero => behind (Or.inl zero)
  by_cases short : runAfter ≤ 32769
  · have missed : ∃ t ∈ s.pass, timeGe t (timeAdd s.timer runAfter) := by
      by_contra none_
      push Not at none_
      exact behind (Or.inr ⟨short, fun t reads =>
        not_not.mp ((timeGe_timeAdd t s.timer runAfter).not.mp (none_ t reads))⟩)
    obtain ⟨t, reads, past⟩ := missed
    have reads₃ := ((pass₃.trans pass₂).trans samePass).trans reads
    exact later (late [] (invokes_head idle (queue₃.trans head) reads₃ past) sameTicks₃)
  · have past : timeGe s.timer (timeAdd s.timer runAfter) := by
      rw [timeGe_timeAdd]
      simp [short]
    have past₃ : timeGe (step (run step s₁ ops) .return_).timer
        (s.alarm func param runAfter).runTime := by
      rwa [timer, sameTicks₃]
    obtain ⟨more, invoked, ticks⟩ := invokes_at_once idle (queue₃.trans head) past₃
    exact later (late more invoked (ticks.trans sameTicks₃))

/-- **An alarm never fires early** exactly if it is scheduled for at most half of the range
of the timer, counted from the time the running pass works with where there is one. -/
theorem alarm_never_early_iff (s : Sched) (func : ℕ) (param : UInt8) (runAfter : UInt16)
    (callback : s.InCallback) (accepted : (s.scheduleAlarm func param runAfter).1 = .ok) :
    (s.scheduleAlarm func param runAfter).2.NeverEarly (s.alarm func param runAfter) runAfter ↔
      s.Ahead runAfter := by
  constructor
  · intro never
    by_contra behind
    exact early_of_not_ahead func param callback accepted behind never
  · exact neverEarly_of_ahead func param

/-- A minute is within half of the range. -/
theorem oneMinute_never_early :
    (init.scheduleAlarm 1 0 3900).2.NeverEarly (init.alarm 1 0 3900) 3900 :=
  (alarm_never_early_iff init 1 0 3900 (by decide) (by decide)).mpr
    (Or.inr ⟨by decide, by simp [init]⟩)

/-- The alarm of the channel manager, for fifteen minutes, is invoked by the next pass. -/
theorem fifteenMinutes_early :
    ¬∀ (s : Sched) (func : ℕ) (param : UInt8) (runAfter : UInt16), s.InCallback →
      (s.scheduleAlarm func param runAfter).1 = .ok →
      (s.scheduleAlarm func param runAfter).2.NeverEarly (s.alarm func param runAfter)
        runAfter := by
  intro claim
  have never := claim init 1 0 zdo15MinTimeout (by decide) (by decide)
  exact absurd (never [.beginPass] .invoke (by decide)) (by decide)

end Sched

end Zboss.Alarm
