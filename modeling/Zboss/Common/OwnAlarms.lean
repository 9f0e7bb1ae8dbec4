import Mathlib
import Zboss.Common.Alarm

/-!
The alarms of one callback.  Where a callback is scheduled and cancelled in one place only, the
alarms the queue has for it are known there, whatever the scheduler does with all others; an alarm
scheduled for less than half of the range of the timer is not invoked before its time.
-/

namespace Zboss.Alarm

/-- A step that schedules and cancels alarms of others only. -/
def Op.LeavesAlone (func : ℕ) : Op → Prop
  | .schedule other _ _ => other ≠ func
  | .cancel other _ => other ≠ func
  | _ => True

instance (func : ℕ) (op : Op) : Decidable (op.LeavesAlone func) := by
  cases op <;> unfold Op.LeavesAlone <;> infer_instance

namespace Sched

/-- The alarms of a callback that wait in the queue. -/
def alarmsOf (s : Sched) (func : ℕ) : List TmQEnt := s.tmQueue.filter (·.func = func)

/-- The alarm that is waited for was scheduled `runAfter` ticks ahead. -/
structure Due (ent : TmQEnt) (func : ℕ) (runAfter : UInt16) (s : Sched) : Prop where
  own : ent.func = func
  short : runAfter ≤ 32769
  at_ : ent.runTime = timeAdd (.ofNat ent.scheduled) runAfter
  awaited : Awaited ent runAfter s

variable {s : Sched} {ent : TmQEnt} {func : ℕ} {runAfter : UInt16} {op : Op}

theorem Due.step (due : Due ent func runAfter s) (op : Op) : Due ent func runAfter (s.step op) :=
  { due with awaited := due.awaited.step op due.short due.at_ }

/-- An alarm that is due is invoked when its time has come. -/
theorem Due.come (due : Due ent func runAfter s) (invoked : s.invokes op = some ent) :
    ent.scheduled + runAfter.toNat ≤ s.ticks := by
  obtain ⟨t, reads, past⟩ := invokes_past invoked
  exact due.awaited.come t reads past

/-- Where an alarm is put, the others are as before. -/
theorem insert_perm (nent : TmQEnt) (queue : List TmQEnt) :
    (insert nent queue).Perm (nent :: queue) := by
  cases queue with
  | nil => exact List.Perm.refl _
  | cons head rest =>
    rw [insert]
    dsimp only
    generalize head :: rest = queue
    split_ifs with first tail
    · exact List.Perm.refl _
    · exact List.perm_append_singleton _ _
    · refine List.perm_middle.trans (List.Perm.cons _ ?_)
      rw [List.takeWhile_append_dropWhile]

/-- Alarms of others keep their order. -/
theorem filter_insert {nent : TmQEnt} (queue : List TmQEnt) (other : nent.func ≠ func) :
    (insert nent queue).filter (·.func = func) = queue.filter (·.func = func) := by
  have left_out : decide (nent.func = func) = false := decide_eq_false other
  cases queue with
  | nil => rw [insert, List.filter_cons_of_neg (by simpa using other)]
  | cons head rest =>
    rw [insert]
    dsimp only
    generalize head :: rest = queue
    split_ifs with first tail
    · rw [List.filter_cons_of_neg (by simpa using other)]
    · rw [List.filter_append, List.filter_cons_of_neg (by simpa using other), List.filter_nil,
        List.append_nil]
    · rw [List.filter_append, List.filter_cons_of_neg (by simpa using other), ← List.filter_append,
        List.takeWhile_append_dropWhile]

theorem filter_cancelScan (other : ℕ) (param : UInt8) (different : other ≠ func)
    (queue : List TmQEnt) :
    (cancelScan other param queue).filter (·.func = func) = queue.filter (·.func = func) := by
  induction queue with
  | nil => rfl
  | cons ent rest ih =>
    rw [cancelScan]
    split_ifs with found all
    · rw [ih, List.filter_cons_of_neg]
      simpa [found.1] using different
    · rw [List.filter_cons_of_neg]
      simpa [found.1] using different
    · rw [List.filter_cons, List.filter_cons, ih]

theorem alarmsOf_eq_of_tmQueue {s' : Sched} (same : s'.tmQueue = s.tmQueue) :
    s'.alarmsOf func = s.alarmsOf func := by
  rw [alarmsOf, alarmsOf, same]

/-- A step that invokes an alarm takes it from the head of the queue. -/
theorem invokes_spec (invoked : s.invokes op = some ent) :
    s.tmQueue = ent :: (s.step op).tmQueue ∧ (s.step op).pass = s.pass ∧
      (s.step op).ticks = s.ticks := by
  cases op with
  | invoke =>
    have due : s.due = some ent := invoked
    rw [step, due]
    refine ⟨?_, rfl, rfl⟩
    rw [Sched.due] at due
    split at due
    · split at due
      · cases due
        rename_i queue _
        rw [queue]
        rfl
      · cases due
    · cases due
  | tick | schedule | cancel | beginPass | return_ | endPass => cases invoked

/-- A step of others takes no alarm of the callback but one it invokes. -/
theorem step_alarmsOf (alone : op.LeavesAlone func)
    (silent : ∀ ent, s.invokes op = some ent → ent.func ≠ func) :
    (s.step op).alarmsOf func = s.alarmsOf func := by
  cases op with
  | tick n =>
    rw [step]
    split_ifs <;> rfl
  | schedule other param runAfter =>
    rw [step]
    split_ifs with callback
    · rw [scheduleAlarm]
      cases s.tmFreelist with
      | zero => rfl
      | succ free =>
        dsimp only
        rw [alarmsOf, (startForHead_frame _).2.2.2]
        exact filter_insert _ alone
    · rfl
  | cancel other param =>
    rw [step]
    split_ifs with callback
    · exact filter_cancelScan other param alone _
    · rfl
  | beginPass =>
    rw [step]
    split_ifs <;> rfl
  | invoke =>
    cases invoked : s.invokes .invoke with
    | none =>
      have idle : s.due = none := invoked
      rw [step, idle]
    | some ent =>
      have other := silent ent invoked
      rw [alarmsOf, alarmsOf, (invokes_spec invoked).1,
        List.filter_cons_of_neg (by simpa using other)]
  | return_ =>
    rw [step]
    split_ifs <;> rfl
  | endPass interrupted =>
    rw [step]
    cases s.pass with
    | none => rfl
    | some t =>
      dsimp only
      split_ifs
      · exact alarmsOf_eq_of_tmQueue (rearm_frame _ t).2.2.1
      · rfl

/-- The queue has this alarm for the callback, scheduled that far ahead, and no other. -/
structure Only (func : ℕ) (alarm : Option (TmQEnt × UInt16)) (s : Sched) : Prop where
  alarms : s.alarmsOf func = (alarm.map Prod.fst).toList
  due : ∀ ent runAfter, alarm = some (ent, runAfter) → Due ent func runAfter s

namespace Only

variable {alarm : Option (TmQEnt × UInt16)}

theorem of_none (alarms : s.alarmsOf func = []) : Only func none s :=
  ⟨alarms, fun _ _ none_ => by cases none_⟩

theorem step (only : Only func alarm s) (alone : op.LeavesAlone func)
    (silent : ∀ ent, s.invokes op = some ent → ent.func ≠ func) :
    Only func alarm (s.step op) where
  alarms := (step_alarmsOf alone silent).trans only.alarms
  due ent runAfter scheduled := (only.due ent runAfter scheduled).step op

theorem scheduleAlarm (only : Only func none s) (param : UInt8) (ahead : s.Ahead runAfter) :
    Only func (if s.tmFreelist = 0 then none else some (s.alarm func param runAfter, runAfter))
      (s.scheduleAlarm func param runAfter).2 := by
  obtain ⟨samePass, sameTicks, -, queue⟩ := scheduleAlarm_frame s func param runAfter
  have none_ : s.tmQueue.filter (·.func = func) = [] := only.alarms
  rw [Sched.scheduleAlarm] at queue samePass sameTicks ⊢
  cases room : s.tmFreelist with
  | zero =>
    rw [if_pos rfl]
    exact of_none none_
  | succ free =>
    rw [if_neg (Nat.succ_ne_zero free)]
    rw [room] at queue samePass sameTicks
    dsimp only at queue samePass sameTicks ⊢
    have one : ((insert (s.alarm func param runAfter) s.tmQueue).filter (·.func = func)) =
        [s.alarm func param runAfter] := by
      have perm := (insert_perm (s.alarm func param runAfter) s.tmQueue).filter (·.func = func)
      rw [List.filter_cons_of_pos (by simp [alarm]), none_] at perm
      exact List.perm_singleton.mp perm
    refine ⟨by rw [alarmsOf, queue rfl, one]; rfl, ?_⟩
    rintro ent runAfter' scheduled
    cases scheduled
    refine ⟨rfl, ?_, rfl, ⟨sameTicks.ge, fun t reads past => ?_⟩⟩
    · rcases ahead with rfl | ⟨short, -⟩
      · decide
      · exact short
    · rw [samePass] at reads
      rw [sameTicks]
      rcases ahead with rfl | ⟨-, open_⟩
      · exact le_rfl
      · exact absurd (open_ t reads) ((timeGe_timeAdd t s.timer runAfter).mp past)

/-- The alarm that is invoked is the one there is, and its time has come. -/
theorem invokes (only : Only func alarm s) (invoked : s.invokes op = some ent)
    (own : ent.func = func) :
    ∃ runAfter, alarm = some (ent, runAfter) ∧ ent.scheduled + runAfter.toNat ≤ s.ticks ∧
      Only func none (s.step op) := by
  have alarms : s.tmQueue.filter (·.func = func) = (alarm.map Prod.fst).toList := only.alarms
  rw [(invokes_spec invoked).1, List.filter_cons_of_pos (by simpa using own)] at alarms
  cases waiting : alarm with
  | none =>
    rw [waiting] at alarms
    cases alarms
  | some scheduled =>
    rw [waiting] at alarms
    obtain ⟨same, rest⟩ := List.cons.inj alarms
    refine ⟨scheduled.2, by rw [same], ?_, of_none rest⟩
    exact (only.due ent scheduled.2 (by rw [waiting, same])).come invoked

end Only

end Sched

end Zboss.Alarm
