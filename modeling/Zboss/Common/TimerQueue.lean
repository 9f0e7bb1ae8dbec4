import Mathlib.Data.List.Perm.Basic
import Mathlib.Data.List.TakeWhile
import Zboss.Common.Alarm
import Zboss.Lib.DoublyLinked

/-!
The timer queue in memory (`zb_scheduler.c`): the entries of `tm_buffer` are linked into the
queue, in both directions, or into the free list, by macros that assign one link after the other.
An entry leaves the queue when its callback is called and goes to the free list when that has
returned.  Pointers are the numbers of the entries from 1 on, and 0 is the null pointer.
-/

namespace Zboss.TimerQueue

open Zboss.Run Zboss.DoublyLinked
open Zboss.Alarm (Ret timeAdd timeGe timeGe_iff schedulerQSize alarmAnyParam alarmAllCb)

variable {φ : Type*}

/-- `zb_tm_q_ent_t` less its links, and the number of the alarm it holds. -/
structure TmQEnt (φ : Type*) where
  func : φ
  param : UInt8
  runTime : UInt16
  alarmNo : ℕ

/-- The timer queue, the timer and the time the running pass over the alarms works with, the
entry whose callback runs, how many alarms were accepted, and the numbers of those fired and of
those cancelled. -/
structure Sched (φ : Type*) where
  tmBuffer : ℕ → TmQEnt φ
  links : Links
  tmQueue : ℕ
  tmFreelist : ℕ
  timer : UInt16
  pass : Option UInt16
  running : Option ℕ
  alarms : ℕ
  fired : List ℕ
  cancelled : List ℕ

namespace Sched

/-- `ZB_STK_PUSH` to the free list. -/
def stkPush (w : Sched φ) (ent : ℕ) : Sched φ :=
  { w with links := w.links.setNext ent w.tmFreelist, tmFreelist := ent }

/-- `ZB_STK_POP` from the free list. -/
def stkPop (w : Sched φ) : Sched φ × ℕ :=
  if w.tmFreelist ≠ 0 then
    ({ w with tmFreelist := w.links.next w.tmFreelist }, w.tmFreelist)
  else (w, 0)

/-- The zeroed scheduler context. -/
def zero (tmBuffer : ℕ → TmQEnt φ) : Sched φ where
  tmBuffer := tmBuffer
  links := ⟨fun _ => 0, fun _ => 0⟩
  tmQueue := 0
  tmFreelist := 0
  timer := 0
  pass := none
  running := none
  alarms := 0
  fired := []
  cancelled := []

/-- `zb_sched_init`: every entry goes to the free list. -/
def init (tmBuffer : ℕ → TmQEnt φ) : Sched φ :=
  (List.range schedulerQSize).foldl (fun w i => w.stkPush (i + 1)) (zero tmBuffer)

/-- A list macro is applied to the queue. -/
def onQueue (w : Sched φ) (result : Links × ℕ) : Sched φ :=
  { w with links := result.1, tmQueue := result.2 }

/-- The loop of `zb_schedule_alarm`: the first entry from `ent` on that runs later. -/
def firstLater (w : Sched φ) (runTime : UInt16) : ℕ → ℕ → ℕ
  | 0, ent => ent
  | fuel + 1, ent =>
    if ent ≠ 0 ∧ timeGe runTime (w.tmBuffer ent).runTime then
      firstLater w runTime fuel (w.links.next ent)
    else ent

/-- Where `zb_schedule_alarm` links a filled entry. -/
def enqueue (w : Sched φ) (nent : ℕ) : Sched φ :=
  let runTime := (w.tmBuffer nent).runTime
  if w.tmQueue = 0 ∨ timeGe (w.tmBuffer w.tmQueue).runTime runTime then
    w.onQueue (w.links.insertHead w.tmQueue nent)
  else
    let ent := w.firstLater runTime schedulerQSize w.tmQueue
    if ent ≠ 0 then
      let ent := w.links.prev ent
      if ent ≠ 0 then w.onQueue (w.links.insertAfter w.tmQueue ent nent)
      else w.onQueue (w.links.insertHead w.tmQueue nent)
    else w.onQueue (w.links.insertTail w.tmQueue nent)

/-- The entry is filled for an alarm. -/
def fill (w : Sched φ) (nent : ℕ) (func : φ) (param : UInt8) (runAfter : UInt16) : Sched φ :=
  { w with
    tmBuffer := Function.update w.tmBuffer nent
      ⟨func, param, timeAdd w.timer runAfter, w.alarms⟩
    alarms := w.alarms + 1 }

/-- `zb_schedule_alarm`; starting the timer is left to the model of the alarms' times. -/
def scheduleAlarm (w : Sched φ) (func : φ) (param : UInt8) (runAfter : UInt16) :
    Sched φ × Ret :=
  let (w, nent) := w.stkPop
  if nent ≠ 0 then ((w.fill nent func param runAfter).enqueue nent, .ok) else (w, .overflow)

/-- The entry is what a cancellation looks for. -/
def matches_ [DecidableEq φ] (w : Sched φ) (func : φ) (param : UInt8) (ent : ℕ) : Bool :=
  decide ((w.tmBuffer ent).func = func ∧
    (param = alarmAnyParam ∨ param = alarmAllCb ∨ param = (w.tmBuffer ent).param))

/-- An entry goes from the queue to the free list. -/
def cancelEnt (w : Sched φ) (ent : ℕ) : Sched φ :=
  let w := (w.onQueue (w.links.remove w.tmQueue ent)).stkPush ent
  { w with cancelled := w.cancelled ++ [(w.tmBuffer ent).alarmNo] }

/-- The loop of `zb_schedule_alarm_cancel`. -/
def cancelLoop [DecidableEq φ] (func : φ) (param : UInt8) :
    ℕ → ℕ → Sched φ → Ret → Sched φ × Ret
  | 0, _, w, ret => (w, ret)
  | fuel + 1, ent, w, ret =>
    if ent = 0 then (w, ret)
    else
      let next := w.links.next ent
      if w.matches_ func param ent then
        if param ≠ alarmAllCb then (w.cancelEnt ent, .ok)
        else cancelLoop func param fuel next (w.cancelEnt ent) .ok
      else cancelLoop func param fuel next w ret

def scheduleAlarmCancel [DecidableEq φ] (w : Sched φ) (func : φ) (param : UInt8) :
    Sched φ × Ret :=
  cancelLoop func param schedulerQSize w.tmQueue w .notFound

/-- The entry whose callback a pass of `zb_sched_loop_iteration` calls next. -/
def due (w : Sched φ) : Option ℕ :=
  match w.running, w.pass with
  | none, some t =>
    if w.tmQueue ≠ 0 ∧ timeGe t (w.tmBuffer w.tmQueue).runTime then some w.tmQueue else none
  | _, _ => none

/-- The head is cut off and its callback called. -/
def fire (w : Sched φ) : Sched φ :=
  match w.due with
  | some ent =>
    let w := w.onQueue (w.links.cutHead w.tmQueue)
    { w with running := some ent, fired := w.fired ++ [(w.tmBuffer ent).alarmNo] }
  | none => w

/-- The callback has returned to the pass. -/
def alarmReturns (w : Sched φ) : Sched φ :=
  match w.running with
  | some ent => { w.stkPush ent with running := none }
  | none => w

/-- The entries of the queue, from its head on. -/
def queue (w : Sched φ) : List ℕ := walk w.links.next schedulerQSize w.tmQueue

/-- The entries of the free list. -/
def free (w : Sched φ) : List ℕ := walk w.links.next schedulerQSize w.tmFreelist

end Sched

/-- Steps of scheduler, timer and callbacks. -/
inductive Event (φ : Type*) where
  | tick (timer : UInt16)
  | scheduleAlarm (func : φ) (param : UInt8) (runAfter : UInt16)
  | scheduleAlarmCancel (func : φ) (param : UInt8)
  | beginPass
  | fire
  | alarmReturns
  | endPass

open Sched

/-- One step; a step that is not its turn changes nothing. -/
def Sched.step [DecidableEq φ] (w : Sched φ) : Event φ → Sched φ
  | .tick timer => { w with timer := timer }
  | .scheduleAlarm func param runAfter => (w.scheduleAlarm func param runAfter).1
  | .scheduleAlarmCancel func param => (w.scheduleAlarmCancel func param).1
  | .beginPass =>
    if w.pass = none ∧ w.tmQueue ≠ 0 then { w with pass := some w.timer } else w
  | .fire => w.fire
  | .alarmReturns => w.alarmReturns
  | .endPass => if w.running = none then { w with pass := none } else w

/-- The queue consists of the entries `q` and the free list of `f`. -/
structure Holds (w : Sched φ) (q f : List ℕ) : Prop where
  queue : DList w.links w.tmQueue q
  free : Chain w.links.next w.tmFreelist f
  parts : (q ++ f ++ w.running.toList).Perm (List.range' 1 schedulerQSize)
  once : (q.map (fun ent => (w.tmBuffer ent).alarmNo) ++ w.fired ++ w.cancelled).Perm
    (List.range w.alarms)

namespace Holds

variable {w : Sched φ} {q f : List ℕ}

theorem nodup (holds : Holds w q f) : (q ++ f ++ w.running.toList).Nodup :=
  holds.parts.nodup_iff.mpr List.nodup_range'

theorem size (holds : Holds w q f) :
    q.length + f.length + w.running.toList.length = schedulerQSize := by
  simpa [Nat.add_assoc] using holds.parts.length_eq

/-- Reading the memory gives the lists. -/
theorem queue_eq (holds : Holds w q f) : w.queue = q := by
  have size := holds.size
  exact holds.queue.chain.walk_eq (by omega)

theorem free_eq (holds : Holds w q f) : w.free = f := by
  have size := holds.size
  exact holds.free.walk_eq (by omega)

/-- No entry is in the queue and in the free list. -/
theorem apart (holds : Holds w q f) {ent : ℕ} (member : ent ∈ q) : ent ∉ f := by
  have nodup := (List.nodup_append.mp holds.nodup).1
  exact fun free => (List.nodup_append.mp nodup).2.2 ent member ent free rfl

/-- The entry whose callback runs is in neither list. -/
theorem running_apart (holds : Holds w q f) {ent : ℕ} (running : w.running = some ent) :
    ent ≠ 0 ∧ ent ∉ q ∧ ent ∉ f := by
  have nodup := holds.nodup
  have inside : ent ∈ q ++ f ++ w.running.toList := by simp [running]
  have number := List.mem_range'.mp (holds.parts.mem_iff.mp inside)
  rw [running] at nodup
  have disjoint := (List.nodup_append.mp nodup).2.2
  refine ⟨by omega, fun member => ?_, fun member => ?_⟩
  · exact disjoint ent (List.mem_append_left _ member) ent List.mem_cons_self rfl
  · exact disjoint ent (List.mem_append_right _ member) ent List.mem_cons_self rfl

/-- An entry that is in neither list goes to the free list. -/
theorem stkPush (holds : Holds w q f) {ent : ℕ} (running : w.running = some ent) :
    Holds { w.stkPush ent with running := none } q (ent :: f) := by
  obtain ⟨valid, notQueued, notFree⟩ := holds.running_apart running
  have other : ∀ node, node ≠ ent → (w.stkPush ent).links.next node = w.links.next node :=
    fun node differs => Function.update_of_ne differs _ _
  refine ⟨holds.queue.congr (fun node member => ?_) fun _ _ => rfl, ?_, ?_, holds.once⟩
  · exact other node fun same => notQueued (same ▸ member)
  · exact holds.free.push valid notFree (Function.update_self ..) other
  · have parts := holds.parts
    rw [running] at parts
    refine List.Perm.trans ?_ parts
    rw [List.perm_iff_count]
    intro x
    simp only [List.count_append, List.count_cons, Option.toList_none, Option.toList_some,
      List.count_nil]
    omega

theorem alarmReturns (holds : Holds w q f) : ∃ f', Holds w.alarmReturns q f' := by
  cases running : w.running with
  | none =>
    refine ⟨f, ?_⟩
    rw [Sched.alarmReturns, running]
    exact holds
  | some ent =>
    refine ⟨ent :: f, ?_⟩
    rw [Sched.alarmReturns, running]
    exact holds.stkPush running

/-- The head of the queue is cut off when its callback is called. -/
theorem fire_some {ent : ℕ} (holds : Holds w q f) (due : w.due = some ent) :
    ∃ rest, q = ent :: rest ∧ Holds w.fire rest f ∧
      w.fire.fired = w.fired ++ [(w.tmBuffer ent).alarmNo] ∧ w.fire.running = some ent := by
  obtain ⟨idle, some_, head⟩ : w.running = none ∧ w.tmQueue ≠ 0 ∧ ent = w.tmQueue := by
    rw [Sched.due] at due
    split at due
    · rename_i idle _
      split at due
      · rename_i ready
        exact ⟨idle, ready.1, (Option.some.inj due).symm⟩
      · cases due
    · cases due
  subst head
  cases q with
  | nil => exact absurd (holds.queue.head_eq_zero_iff.mpr rfl) some_
  | cons first rest =>
    have head := holds.queue.chain.1
    obtain ⟨cut, next⟩ := holds.queue.cutHead
    have after : w.fire = { w.onQueue (w.links.cutHead w.tmQueue) with
        running := some w.tmQueue
        fired := w.fired ++ [(w.tmBuffer w.tmQueue).alarmNo] } := by
      rw [Sched.fire, due]
      rfl
    refine ⟨rest, by rw [head], ?_, by rw [after], by rw [after]⟩
    rw [after]
    refine ⟨cut, ?_, ?_, ?_⟩
    · exact holds.free.congr fun node _ => congrFun next node
    · refine List.Perm.trans ?_ holds.parts
      rw [List.perm_iff_count, idle, head]
      intro x
      simp only [List.count_append, List.count_cons, Option.toList_none, Option.toList_some,
        List.count_nil]
      omega
    · refine List.Perm.trans ?_ holds.once
      rw [List.perm_iff_count, head]
      intro x
      simp only [Sched.onQueue, List.map_cons, List.count_append, List.count_cons, List.count_nil]
      omega

/-- An entry of the queue is cancelled. -/
theorem cancelEnt {pre rest : List ℕ} {ent : ℕ} (holds : Holds w (pre ++ ent :: rest) f) :
    Holds (w.cancelEnt ent) (pre ++ rest) (ent :: f) ∧
      ∀ node ∉ pre, node ≠ ent → (w.cancelEnt ent).links.next node = w.links.next node := by
  obtain ⟨removed, next⟩ := holds.queue.remove
  have member : ent ∈ pre ++ ent :: rest := by simp
  have valid := holds.queue.chain.ne_zero ent member
  have outside : ent ∉ pre ++ rest :=
    (List.nodup_cons.mp (List.nodup_middle.mp holds.queue.nodup)).1
  have other : ∀ node, node ≠ ent → (w.cancelEnt ent).links.next node =
      (w.links.remove w.tmQueue ent).1.next node :=
    fun node differs => Function.update_of_ne differs _ _
  refine ⟨⟨removed.congr (fun node member => ?_) fun _ _ => rfl, ?_, ?_, ?_⟩,
    fun node notPre differs => (other node differs).trans (next node notPre)⟩
  · exact other node fun same => outside (same ▸ member)
  · have free := holds.free.congr fun node inFree => next node fun inPre =>
      holds.apart (List.mem_append_left _ inPre) inFree
    exact free.push valid (holds.apart member) (Function.update_self ..) other
  · refine List.Perm.trans ?_ holds.parts
    rw [List.perm_iff_count]
    intro x
    simp only [Sched.cancelEnt, Sched.stkPush, Sched.onQueue, List.count_append, List.count_cons]
    omega
  · refine List.Perm.trans ?_ holds.once
    rw [List.perm_iff_count]
    intro x
    simp only [Sched.cancelEnt, Sched.stkPush, Sched.onQueue, List.map_append, List.map_cons,
      List.count_append, List.count_cons, List.count_nil]
    omega

/-- The loop stops at the first entry that runs later. -/
theorem firstLater_eq (runTime : UInt16) {ent fuel : ℕ} (chain : Chain w.links.next ent q)
    (enough : q.length ≤ fuel) :
    w.firstLater runTime fuel ent =
      (q.dropWhile fun node => timeGe runTime (w.tmBuffer node).runTime).headD 0 := by
  induction q generalizing ent fuel with
  | nil =>
    have null : ent = 0 := chain
    cases fuel <;> simp [Sched.firstLater, null]
  | cons first rest induction_ =>
    obtain ⟨rfl, valid, tail⟩ := chain
    cases fuel with
    | zero => exact absurd enough (Nat.not_succ_le_zero _)
    | succ fuel =>
      rw [Sched.firstLater]
      cases before : timeGe runTime (w.tmBuffer ent).runTime with
      | true =>
        rw [if_pos ⟨valid, rfl⟩, List.dropWhile_cons_of_pos (by simpa using before)]
        exact induction_ tail (Nat.le_of_succ_le_succ enough)
      | false =>
        rw [if_neg (fun both => Bool.false_ne_true both.2),
          List.dropWhile_cons_of_neg (by simp [before])]
        rfl

end Holds

/-- The place of a new entry: before a head that runs no earlier; behind some entries that run no
later, where the next one runs later; or at the end, when its time cannot be compared with that
of the head. -/
inductive Placed (key : ℕ → UInt16) (runTime : UInt16) (q : List ℕ) : List ℕ → List ℕ → Prop where
  | first (early : ∀ node ∈ q.head?, timeGe (key node) runTime = true) : Placed key runTime q [] q
  | between (pre post : List ℕ) (whole : q = pre ++ post) (some_ : pre ≠ [])
      (early : ∀ node ∈ pre, timeGe runTime (key node) = true)
      (late : ∀ node ∈ post.head?, timeGe runTime (key node) = false) :
      Placed key runTime q pre post
  | last (node : ℕ) (head : node ∈ q.head?) (notBefore : timeGe (key node) runTime = false)
      (notBehind : timeGe runTime (key node) = false) : Placed key runTime q q []

/-- The entry is linked between two parts of the queue. -/
theorem enqueue_spec {w : Sched φ} {q : List ℕ} {nent : ℕ} (queue : DList w.links w.tmQueue q)
    (valid : nent ≠ 0) (fresh : nent ∉ q) (small : q.length ≤ schedulerQSize) :
    ∃ pre post result, w.enqueue nent = w.onQueue result ∧
      Placed (fun node => (w.tmBuffer node).runTime) (w.tmBuffer nent).runTime q pre post ∧
      DList result.1 result.2 (pre ++ nent :: post) ∧
      ∀ node ∉ q, node ≠ nent → result.1.next node = w.links.next node := by
  generalize times : (fun node => (w.tmBuffer node).runTime) = time
  have key (node : ℕ) : (w.tmBuffer node).runTime = time node := congrFun times node
  unfold Sched.enqueue
  simp only [key]
  split
  · rename_i early
    obtain ⟨inserted, next⟩ := queue.insertHead valid fresh
    refine ⟨[], q, _, rfl, .first fun node head => ?_, inserted, fun node _ => next node⟩
    obtain ⟨rest, shape⟩ := List.head?_eq_some_iff.mp (Option.mem_def.mp head)
    subst shape
    have first := queue.chain.1
    rw [← first]
    exact early.resolve_left fun null => queue.chain.2.1 (first ▸ null)
  · rename_i late
    obtain ⟨some_, notBefore⟩ := not_or.mp late
    have stops := Holds.firstLater_eq (w := w) (w.tmBuffer nent).runTime queue.chain small
    simp only [key] at stops
    rw [stops]
    have whole := List.takeWhile_append_dropWhile (p := fun node => timeGe (time nent) (time node))
      (l := q)
    have early : ∀ node ∈ q.takeWhile fun node => timeGe (time nent) (time node),
        timeGe (time nent) (time node) = true := by
      intro node member
      exact List.mem_takeWhile_imp (p := fun node => timeGe (time nent) (time node)) member
    have later := List.head?_dropWhile_not (fun node => timeGe (time nent) (time node)) q
    generalize (q.takeWhile fun node => timeGe (time nent) (time node)) = pre at *
    generalize (q.dropWhile fun node => timeGe (time nent) (time node)) = post at *
    cases post with
    | nil =>
      rw [List.append_nil] at whole
      subst whole
      obtain ⟨inserted, next⟩ := queue.insertTail valid fresh
      refine ⟨pre, [], _, rfl, .between pre [] (List.append_nil _).symm ?_ early ?_, inserted, next⟩
      · exact fun empty => some_ (queue.head_eq_zero_iff.mpr empty)
      · exact fun node absurd_ => nomatch absurd_
    | cons second rest =>
      subst whole
      have member : second ∈ pre ++ second :: rest := by simp
      have validSecond := queue.chain.ne_zero second member
      have linked := queue.prev_ne_zero member
      rw [List.headD_cons, if_pos validSecond, if_pos linked]
      have late : timeGe (time nent) (time second) = false := by simpa using later
      obtain rfl | ⟨front, before, concat⟩ := List.eq_nil_or_concat pre
      · obtain ⟨front, tail⟩ := queue.prev_head (List.cons_ne_nil _ _)
        have head := queue.chain.1
        rw [head, List.nil_append] at tail
        rw [head] at notBefore
        rw [tail] at queue
        rw [List.nil_append, tail] at fresh
        obtain ⟨inserted, next⟩ := queue.insertAfter valid fresh
        refine ⟨second :: rest, [], _, rfl, .last second rfl (by simpa using notBefore)
          late, ?_, ?_⟩
        · rw [tail, List.append_assoc, head]
          rw [head] at inserted
          exact inserted
        · rw [List.nil_append, tail]
          exact next
      · rw [List.concat_eq_append] at concat
        subst concat
        have tied : w.links.prev second = before := by
          rw [List.append_assoc] at queue
          exact queue.prev_inner
        rw [tied]
        rw [List.append_assoc] at queue fresh
        obtain ⟨inserted, next⟩ := queue.insertAfter valid fresh
        refine ⟨front ++ [before], second :: rest, _, rfl,
          .between _ _ rfl (by simp) early fun node head => ?_, ?_, ?_⟩
        · cases head
          exact late
        · rw [List.append_assoc]
          exact inserted
        · rw [List.append_assoc]
          exact next

theorem Placed.whole {key : ℕ → UInt16} {runTime : UInt16} {q pre post : List ℕ}
    (placed : Placed key runTime q pre post) : q = pre ++ post := by
  cases placed with
  | first early => rfl
  | between pre post whole some_ early late => exact whole
  | last node head notBefore notBehind => exact (List.append_nil q).symm

namespace Holds

variable {w : Sched φ} {q f : List ℕ}

/-- An alarm is refused when no entry is free, and otherwise takes the first free one to its place
in the queue. -/
theorem scheduleAlarm (holds : Holds w q f) (func : φ) (param : UInt8) (runAfter : UInt16) :
    (f = [] ∧ w.scheduleAlarm func param runAfter = (w, .overflow)) ∨
    ∃ nent rest pre post, f = nent :: rest ∧
      (w.scheduleAlarm func param runAfter).2 = .ok ∧
      Holds (w.scheduleAlarm func param runAfter).1 (pre ++ nent :: post) rest ∧
      Placed (fun node => ((w.scheduleAlarm func param runAfter).1.tmBuffer node).runTime)
        ((w.scheduleAlarm func param runAfter).1.tmBuffer nent).runTime q pre post ∧
      ∀ node, node ≠ nent →
        (w.scheduleAlarm func param runAfter).1.tmBuffer node = w.tmBuffer node := by
  cases f with
  | nil =>
    have null : w.tmFreelist = 0 := holds.free
    refine Or.inl ⟨rfl, ?_⟩
    simp [Sched.scheduleAlarm, Sched.stkPop, null]
  | cons nent rest =>
    obtain ⟨head, valid, tail⟩ := holds.free
    have fresh : nent ∉ q := fun member => holds.apart member List.mem_cons_self
    have once_ : nent ∉ rest := by
      have nodup := (List.nodup_append.mp (List.nodup_append.mp holds.nodup).1).2.1
      exact (List.nodup_cons.mp nodup).1
    have size := holds.size
    -- the entry popped and filled
    generalize filled_ : Sched.fill { w with tmFreelist := w.links.next nent } nent func param
      runAfter = filled
    have same : w.scheduleAlarm func param runAfter = (filled.enqueue nent, .ok) := by
      rw [← filled_]
      simp [Sched.scheduleAlarm, Sched.stkPop, head, valid]
    have queue : DList filled.links filled.tmQueue q := filled_ ▸ holds.queue
    obtain ⟨pre, post, result, after, placed, linked, next⟩ :=
      enqueue_spec queue valid fresh (by omega)
    have buffer : ∀ node, node ≠ nent → filled.tmBuffer node = w.tmBuffer node := by
      intro node differs
      rw [← filled_]
      exact Function.update_of_ne differs _ _
    have whole := placed.whole
    rw [same, after]
    refine Or.inr ⟨nent, rest, pre, post, rfl, rfl, ⟨linked, ?_, ?_, ?_⟩, placed, buffer⟩
    · have free : Chain filled.links.next filled.tmFreelist rest := by
        rw [← filled_]
        exact tail
      refine free.congr fun node member => next node ?_ fun same => once_ (same ▸ member)
      exact fun inQueue => holds.apart inQueue (List.mem_cons_of_mem _ member)
    · refine List.Perm.trans ?_ holds.parts
      rw [List.perm_iff_count, whole, ← filled_]
      intro x
      simp only [Sched.onQueue, Sched.fill, List.count_append, List.count_cons]
      omega
    · have others : ∀ l : List ℕ, (∀ node ∈ l, node ∈ q) →
          (l.map fun ent => (filled.tmBuffer ent).alarmNo) =
            l.map fun ent => (w.tmBuffer ent).alarmNo := by
        intro l inside
        refine List.map_congr_left fun node member => ?_
        rw [buffer node fun same => fresh (same ▸ inside node member)]
      have number : (filled.tmBuffer nent).alarmNo = w.alarms := by
        rw [← filled_]
        simp [Sched.fill]
      have kept : filled.fired = w.fired ∧ filled.cancelled = w.cancelled ∧
          filled.alarms = w.alarms + 1 := by
        rw [← filled_]
        exact ⟨rfl, rfl, rfl⟩
      have once := holds.once
      rw [whole] at once
      simp only [Sched.onQueue, kept, List.range_succ]
      refine List.Perm.trans ?_ (once.append_right [w.alarms])
      rw [List.perm_iff_count, List.map_append, List.map_cons, number,
        others pre fun node member => whole ▸ List.mem_append_left _ member,
        others post fun node member => whole ▸ List.mem_append_right _ member]
      intro x
      simp only [List.map_append, List.count_append, List.count_cons, List.count_nil]
      omega

variable [DecidableEq φ]

/-- What the loop of a cancellation leaves in the queue, all of whose entries before `rest` it
has passed. -/
theorem cancelLoop (func : φ) (param : UInt8) {pre rest : List ℕ} {ent fuel : ℕ} {r : Ret}
    (holds : Holds w (pre ++ rest) f) (here : Chain w.links.next ent rest)
    (enough : rest.length ≤ fuel) :
    ∃ f', Holds (Sched.cancelLoop func param fuel ent w r).1
      (pre ++ if param = alarmAllCb then rest.filter (!w.matches_ func param ·)
        else rest.eraseP (w.matches_ func param)) f' ∧
      ((Sched.cancelLoop func param fuel ent w r).2 =
        if rest.any (w.matches_ func param) then .ok else r) := by
  induction rest generalizing w pre f ent fuel r with
  | nil =>
    have null : ent = 0 := here
    have stop : Sched.cancelLoop func param fuel ent w r = (w, r) := by
      cases fuel <;> simp [Sched.cancelLoop, null]
    rw [stop]
    refine ⟨f, ?_, rfl⟩
    split <;> exact holds
  | cons first rest induction_ =>
    obtain ⟨rfl, valid, tail⟩ := here
    cases fuel with
    | zero => exact absurd enough (Nat.not_succ_le_zero _)
    | succ fuel =>
      have enough := Nat.le_of_succ_le_succ enough
      rw [Sched.cancelLoop, if_neg valid]
      cases match_ : w.matches_ func param ent with
      | false =>
        have holds' : Holds w ((pre ++ [ent]) ++ rest) f := by rwa [List.append_assoc]
        obtain ⟨f', after, ret_⟩ := induction_ (r := r) holds' tail enough
        rw [if_neg Bool.false_ne_true]
        refine ⟨f', ?_, ?_⟩
        · rw [List.append_assoc] at after
          convert after using 1
          split <;> simp [match_]
        · rw [ret_, List.any_cons, match_, Bool.false_or]
      | true =>
        obtain ⟨cancelled, next⟩ := holds.cancelEnt
        have fresh := List.nodup_middle.mp holds.queue.nodup
        have tail' : Chain (w.cancelEnt ent).links.next (w.links.next ent) rest :=
          tail.congr fun node member => next node
            (fun inPre => (List.nodup_append.mp (List.nodup_cons.mp fresh).2).2.2 node inPre node
              member rfl)
            fun same => (List.nodup_cons.mp fresh).1 (List.mem_append_right _ (same ▸ member))
        rw [if_pos rfl, List.any_cons, match_, Bool.true_or, if_pos rfl]
        by_cases all : param = alarmAllCb
        · obtain ⟨f', after, ret_⟩ := induction_ (r := .ok) cancelled tail' enough
          rw [if_neg (not_not_intro all)]
          refine ⟨f', ?_, ?_⟩
          · rw [if_pos all] at after ⊢
            rw [List.filter_cons_of_neg (by simp [match_])]
            exact after
          · rw [ret_]
            split <;> rfl
        · rw [if_pos all, if_neg all, List.eraseP_cons_of_pos match_]
          exact ⟨ent :: f, cancelled, rfl⟩

theorem cancelLoop_tmBuffer (func : φ) (param : UInt8) (fuel ent : ℕ) (ret : Ret) :
    (Sched.cancelLoop func param fuel ent w ret).1.tmBuffer = w.tmBuffer := by
  induction fuel generalizing w ent ret with
  | zero => rfl
  | succ fuel induction_ =>
    rw [Sched.cancelLoop]
    split
    · rfl
    · split
      · split
        · rfl
        · exact induction_ ..
      · exact induction_ ..

/-- A cancellation removes the first entry that matches, or all of them, and succeeds when there
is one. -/
theorem scheduleAlarmCancel (holds : Holds w q f) (func : φ) (param : UInt8) :
    ∃ f', Holds (w.scheduleAlarmCancel func param).1
      (if param = alarmAllCb then q.filter (!w.matches_ func param ·)
        else q.eraseP (w.matches_ func param)) f' ∧
      ((w.scheduleAlarmCancel func param).2 =
        if q.any (w.matches_ func param) then .ok else .notFound) := by
  have size := holds.size
  have started : Holds w ([] ++ q) f := holds
  exact started.cancelLoop func param holds.queue.chain (by omega)

end Holds

/-- The entries are in non-decreasing order of their run times. -/
def InOrder (w : Sched φ) (q : List ℕ) : Prop :=
  q.Pairwise fun a b => timeGe (w.tmBuffer b).runTime (w.tmBuffer a).runTime = true

/-- All pending run times lie within half the timer range. -/
def WithinHalf (w : Sched φ) : Prop :=
  ∃ base, ∀ ent ∈ w.queue, timeGe (w.tmBuffer ent).runTime base = true

/-- Within half the range, times compare by their distance from its start. -/
theorem timeGe_within {a b base : UInt16} (here : timeGe a base = true)
    (there : timeGe b base = true) :
    timeGe a b = true ↔ (b - base).toNat ≤ (a - base).toNat := by
  rw [timeGe_iff] at here there ⊢
  rw [UInt16.toNat_sub] at here there ⊢
  rw [UInt16.toNat_sub, UInt16.toNat_sub]
  have bounds := a.toNat_lt
  have bounds' := b.toNat_lt
  have bounds'' := base.toNat_lt
  omega

/-- A new entry put in its place keeps the order, as long as all times can be compared. -/
theorem Placed.inOrder {time : ℕ → UInt16} {q pre post : List ℕ} {nent : ℕ}
    (placed : Placed time (time nent) q pre post)
    (order : q.Pairwise fun a b => timeGe (time b) (time a) = true) {base : UInt16}
    (within : ∀ ent ∈ pre ++ nent :: post, timeGe (time ent) base = true) :
    (pre ++ nent :: post).Pairwise fun a b => timeGe (time b) (time a) = true := by
  have whole := placed.whole
  have withinQ : ∀ ent ∈ q, timeGe (time ent) base = true := by
    intro ent member
    rw [whole] at member
    refine within ent ?_
    rcases List.mem_append.mp member with before | behind
    · exact List.mem_append_left _ before
    · exact List.mem_append_right _ (List.mem_cons_of_mem _ behind)
  have new := within nent (by simp)
  -- what is behind the new entry runs no earlier, what is before it no later
  have sides : (∀ node ∈ pre, timeGe (time nent) (time node) = true) ∧
      ∀ node ∈ post.head?, timeGe (time node) (time nent) = true := by
    cases placed with
    | first early => exact ⟨fun node absurd_ => (nomatch absurd_), early⟩
    | between _ _ _ _ early late =>
      refine ⟨early, fun node head => ?_⟩
      have member : node ∈ q := whole ▸ List.mem_append_right _ (List.mem_of_mem_head? head)
      have later := late node head
      rw [timeGe_within (withinQ node member) new]
      rw [← Bool.not_eq_true, timeGe_within new (withinQ node member)] at later
      omega
    | last node head notBefore notBehind =>
      have member : node ∈ q := List.mem_of_mem_head? head
      rw [← Bool.not_eq_true, timeGe_within (withinQ node member) new] at notBefore
      rw [← Bool.not_eq_true, timeGe_within new (withinQ node member)] at notBehind
      omega
  rw [whole, List.pairwise_append] at order
  obtain ⟨orderPre, orderPost, across⟩ := order
  have behind : ∀ node ∈ post, timeGe (time node) (time nent) = true := by
    cases post with
    | nil => exact fun node absurd_ => nomatch absurd_
    | cons head rest =>
      have first := sides.2 head rfl
      intro node member
      rcases List.mem_cons.mp member with rfl | later
      · exact first
      · have next := (List.pairwise_cons.mp orderPost).1 node later
        have headIn := withinQ head (by simp [whole])
        have nodeIn := withinQ node (by simp [whole, later])
        rw [timeGe_within headIn new] at first
        rw [timeGe_within nodeIn headIn] at next
        rw [timeGe_within nodeIn new]
        omega
  rw [List.pairwise_append]
  refine ⟨orderPre, List.pairwise_cons.mpr ⟨behind, orderPost⟩, fun a before b member => ?_⟩
  rcases List.mem_cons.mp member with rfl | later
  · exact sides.1 a before
  · exact across a before b later

section

variable [DecidableEq φ] {w : Sched φ} {q f : List ℕ}

/-- A step keeps the lists, and the order when the times can be compared after it. -/
theorem Holds.step (holds : Holds w q f) (order : InOrder w q) (event : Event φ)
    (within : WithinHalf (w.step event)) :
    ∃ q' f', Holds (w.step event) q' f' ∧ InOrder (w.step event) q' := by
  cases event with
  | tick timer => exact ⟨q, f, ⟨holds.queue, holds.free, holds.parts, holds.once⟩, order⟩
  | beginPass =>
    refine ⟨q, f, ?_⟩
    rw [Sched.step]
    split
    · exact ⟨⟨holds.queue, holds.free, holds.parts, holds.once⟩, order⟩
    · exact ⟨holds, order⟩
  | endPass =>
    refine ⟨q, f, ?_⟩
    rw [Sched.step]
    split
    · exact ⟨⟨holds.queue, holds.free, holds.parts, holds.once⟩, order⟩
    · exact ⟨holds, order⟩
  | scheduleAlarm func param runAfter =>
    rcases holds.scheduleAlarm func param runAfter with
      ⟨-, refused⟩ | ⟨nent, rest, pre, post, free, -, after, placed, others⟩
    · rw [Sched.step, refused]
      exact ⟨q, f, holds, order⟩
    · refine ⟨pre ++ nent :: post, rest, after, ?_⟩
      obtain ⟨base, within⟩ := within
      rw [Sched.step, after.queue_eq] at within
      have fresh : ∀ node ∈ q, node ≠ nent := by
        rintro node member rfl
        exact holds.apart member (free ▸ List.mem_cons_self)
      refine placed.inOrder (List.Pairwise.imp_of_mem (fun member member' earlier => ?_) order) within
      rw [others _ (fresh _ member), others _ (fresh _ member')]
      exact earlier
  | scheduleAlarmCancel func param =>
    obtain ⟨f', after, -⟩ := holds.scheduleAlarmCancel func param
    refine ⟨_, f', after, ?_⟩
    have buffer : (w.step (.scheduleAlarmCancel func param)).tmBuffer = w.tmBuffer :=
      cancelLoop_tmBuffer ..
    rw [InOrder, buffer]
    split
    · exact order.sublist List.filter_sublist
    · exact order.sublist (List.eraseP_sublist)
  | fire =>
    cases due : w.due with
    | none =>
      have same : w.step .fire = w := by rw [Sched.step, Sched.fire, due]
      rw [same]
      exact ⟨q, f, holds, order⟩
    | some ent =>
      obtain ⟨rest, shape, after, -⟩ := holds.fire_some due
      have buffer : (w.step .fire).tmBuffer = w.tmBuffer := by
        rw [Sched.step, Sched.fire, due]
        rfl
      refine ⟨rest, f, after, ?_⟩
      rw [InOrder, buffer]
      exact (List.pairwise_cons.mp (shape ▸ order)).2
  | alarmReturns =>
    obtain ⟨f', after⟩ := holds.alarmReturns
    have buffer : (w.step .alarmReturns).tmBuffer = w.tmBuffer := by
      rw [Sched.step, Sched.alarmReturns]
      split <;> rfl
    refine ⟨q, f', after, ?_⟩
    rw [InOrder, buffer]
    exact order

omit [DecidableEq φ] in
/-- The entries pushed so far form the free list. -/
theorem pushed (tmBuffer : ℕ → TmQEnt φ) (n : ℕ) :
    ∃ links head, (List.range n).foldl (fun w i => w.stkPush (i + 1)) (Sched.zero tmBuffer) =
        { Sched.zero tmBuffer with links := links, tmFreelist := head } ∧
      Chain links.next head (List.range' 1 n).reverse := by
  induction n with
  | zero => exact ⟨_, _, rfl, rfl⟩
  | succ n induction_ =>
    obtain ⟨links, head, state, chain⟩ := induction_
    refine ⟨links.setNext (n + 1) head, n + 1, ?_, ?_⟩
    · rw [List.range_succ, List.foldl_append, state]
      rfl
    · rw [List.range'_1_concat, List.reverse_append, Nat.add_comm 1 n]
      have fresh : n + 1 ∉ (List.range' 1 n).reverse := by
        rw [List.mem_reverse, List.mem_range'_1]
        omega
      exact chain.push (Nat.succ_ne_zero n) fresh (Function.update_self ..)
        fun other differs => Function.update_of_ne differs _ _

omit [DecidableEq φ] in
/-- At start every entry is free. -/
theorem Holds.init (tmBuffer : ℕ → TmQEnt φ) :
    Holds (Sched.init tmBuffer) [] (List.range' 1 schedulerQSize).reverse := by
  obtain ⟨links, head, state, chain⟩ := pushed tmBuffer schedulerQSize
  have after : Sched.init tmBuffer =
      { Sched.zero tmBuffer with links := links, tmFreelist := head } := state
  rw [after]
  exact ⟨.nil, chain, by simp [Sched.zero], .refl _⟩

/-- **The timer queue stays a queue.**  As long as the pending run times lie within half the
timer range, it is a doubly linked list in the order of the times; with the free list, and the
entry whose callback runs, it holds every entry once; a cancellation removes just what it
promises; and every alarm accepted is pending, or cancelled, or was fired, once, in the order of
the queue. -/
theorem timer_queue_kept (tmBuffer : ℕ → TmQEnt φ) (events : List (Event φ))
    (within : Along Sched.step (fun w event => WithinHalf (w.step event)) (Sched.init tmBuffer)
      events) :
    let w := run Sched.step (Sched.init tmBuffer) events
    DList w.links w.tmQueue w.queue ∧ Chain w.links.next w.tmFreelist w.free ∧
      (w.queue ++ w.free ++ w.running.toList).Perm (List.range' 1 schedulerQSize) ∧
      InOrder w w.queue ∧
      (∀ func param,
        (w.scheduleAlarmCancel func param).1.queue =
          (if param = alarmAllCb then w.queue.filter (!w.matches_ func param ·)
            else w.queue.eraseP (w.matches_ func param)) ∧
        (w.scheduleAlarmCancel func param).2 =
          if w.queue.any (w.matches_ func param) then .ok else .notFound) ∧
      (∀ ent ∈ w.due, w.queue.head? = some ent ∧ w.fire.queue = w.queue.tail ∧
        w.fire.fired = w.fired ++ [(w.tmBuffer ent).alarmNo]) ∧
      (w.queue.map (fun ent => (w.tmBuffer ent).alarmNo) ++ w.fired ++ w.cancelled).Perm
        (List.range w.alarms) := by
  intro w
  have kept : ∀ (w : Sched φ) (event : Event φ), (∃ q f, Holds w q f ∧ InOrder w q) →
      WithinHalf (w.step event) → ∃ q f, Holds (w.step event) q f ∧ InOrder (w.step event) q := by
    rintro w event ⟨q, f, holds, order⟩ within
    exact holds.step order event within
  have started : ∃ q f, Holds (Sched.init tmBuffer) q f ∧ InOrder (Sched.init tmBuffer) q :=
    ⟨[], _, Holds.init tmBuffer, List.Pairwise.nil⟩
  obtain ⟨q, f, holds, order⟩ := invariant_of_along kept _ events started within
  change Holds w q f at holds
  rw [holds.queue_eq, holds.free_eq]
  refine ⟨holds.queue, holds.free, holds.parts, order, fun func param => ?_, fun ent due => ?_,
    holds.once⟩
  · obtain ⟨f', after, ret⟩ := holds.scheduleAlarmCancel func param
    exact ⟨after.queue_eq, ret⟩
  · obtain ⟨rest, shape, after, fired, -⟩ := holds.fire_some due
    rw [shape, after.queue_eq]
    exact ⟨rfl, rfl, fired⟩

end

/-- An alarm whose callback schedules another one. -/
def nestedEvents : List (Event ℕ) :=
  [.tick 65530, .scheduleAlarm 7 1 10, .tick 5, .beginPass, .fire, .scheduleAlarm 8 2 10]

theorem timer_queue_kept_nestedEvents :
    let w := run Sched.step (Sched.init fun _ => ⟨0, 0, 0, 0⟩) nestedEvents
    (w.queue ++ w.free ++ w.running.toList).Perm (List.range' 1 schedulerQSize) ∧
      w.running = some 16 :=
  ⟨(timer_queue_kept (fun _ => ⟨0, 0, 0, 0⟩) nestedEvents
    ⟨⟨0, by decide +kernel⟩, ⟨4, by decide +kernel⟩, ⟨4, by decide +kernel⟩, ⟨4, by decide +kernel⟩,
      ⟨0, by decide +kernel⟩, ⟨15, by decide +kernel⟩, trivial⟩).2.2.1, by decide +kernel⟩

/-- While a callback runs, its entry is neither in the queue nor free. -/
theorem running_in_neither :
    ¬∀ events : List (Event ℕ), Along Sched.step (fun w event => WithinHalf (w.step event))
      (Sched.init fun _ => ⟨0, 0, 0, 0⟩) events →
        ((run Sched.step (Sched.init fun _ => ⟨0, 0, 0, 0⟩) events).queue ++
          (run Sched.step (Sched.init fun _ => ⟨0, 0, 0, 0⟩) events).free).Perm
            (List.range' 1 schedulerQSize) := by
  intro claim
  have parts := claim [.scheduleAlarm 7 1 0, .beginPass, .fire]
    ⟨⟨0, by decide +kernel⟩, ⟨0, by decide +kernel⟩, ⟨0, by decide +kernel⟩, trivial⟩
  exact absurd parts.length_eq (by decide +kernel)

end Zboss.TimerQueue
