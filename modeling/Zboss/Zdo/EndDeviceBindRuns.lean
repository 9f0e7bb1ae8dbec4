import Mathlib.Data.List.Infix
import Zboss.Lib.Run
import Zboss.Zdo.EndDeviceBind

/-!
Runs of end device binds.  At any time the coordinator is idle, waits for a second request
with its timer, or has one callback of an exchange due; the clusters still to be sent count
down, so an exchange ends, and what was sent has the links toggled.
-/

namespace Zboss.EndDeviceBind

open Zboss.Run

/-- The clusters still to be sent are left from those that matched. -/
structure Sending (w : Coordinator) (x : Exchange) : Prop where
  dev1 : { w.dev1 with clusterList := x.dev1.clusterList } = x.dev1
  dev2 : { w.dev2 with clusterList := x.dev2.clusterList } = x.dev2
  rest1 : w.dev1.clusterList <+: x.dev1.clusterList
  rest2 : w.dev2.clusterList <+: x.dev2.clusterList
  current : w.currentDevice = 0 ∨ w.currentDevice = 1 ∧ w.dev1.clusterList = []

/-- Where an exchange is, seen from the callback that is due. -/
inductive Stage (w : Coordinator) (x : Exchange) : Task → Prop
  | toTest (dev1 : w.dev1 = x.dev1) (dev2 : w.dev2 = x.dev2) : Stage w x .sendCheck
  | test (dev1 : w.dev1 = x.dev1) (dev2 : w.dev2 = x.dev2) (tested : x.tested = some asked)
      (sending : Sending w x) : Stage w x (.checkCb asked)
  | sending {bind : Bool} (sending : Sending w x) : Stage w x (.endDeviceCb bind asked)

/-- An exchange goes on. -/
structure Exchanging (w : Coordinator) (x : Exchange) : Prop where
  held1 : w.dev1.param ≠ none
  held2 : w.dev2.param ≠ none
  timers : w.timers = []
  exchange : w.exchange = some x
  matches_ : x.links ≠ []
  exact_ : x.Exact

/-- What holds of the coordinator between two events. -/
inductive Consistent (w : Coordinator) : Prop
  | idle (idle : w.Idle) (timers : w.timers = []) (tasks : w.tasks = [])
      (exchange : w.exchange = none)
  | waiting (dev1 : w.dev1.param = some (param, req)) (dev2 : w.dev2.param = none)
      (timers : w.timers = [param]) (tasks : w.tasks = []) (exchange : w.exchange = none)
  | busy (exchanging : Exchanging w x) (tasks : w.tasks = [task]) (stage : Stage w x task)

/-- What `send_bind_unbind_with_check` still has to send, and the change of device. -/
def Coordinator.left (w : Coordinator) : ℕ :=
  w.dev1.clusterList.length + w.dev2.clusterList.length + if w.currentDevice = 0 then 1 else 0

/-- Callbacks and timers until the coordinator is idle. -/
def Coordinator.remaining (w : Coordinator) : ℕ :=
  match w.tasks with
  | [] => if w.timers = [] then 0 else 100
  | .sendCheck :: _ => w.dev1.clusterList.length + w.dev2.clusterList.length + 4
  | .checkCb _ :: _ => w.left + 2
  | .endDeviceCb _ _ :: _ => w.left + 1

variable {spill : Coordinator → Coordinator} {w : Coordinator} {x : Exchange}

/-- An exchange goes on with the task. -/
theorem Consistent.at_ (task : Task) (exchanging : Exchanging w x) (tasks : w.tasks = [task])
    (stage : Stage w x task) : Consistent w := .busy exchanging tasks stage

theorem Consistent.alive (consistent : Consistent w) : w.Alive := by
  cases consistent with
  | idle idle timers tasks exchange => exact Or.inl idle
  | waiting dev1 dev2 timers tasks exchange => exact Or.inr (Or.inl (by simp [timers]))
  | busy exchanging tasks stage => exact Or.inr (Or.inr (by simp [tasks]))

/-- What `send_bind_unbind_with_check` does: turn to the second device, ask for the last
cluster of a list, or end the exchange. -/
theorem sendBindUnbindWithCheck_cases (bind : Bool)
    (current : w.currentDevice = 0 ∨ w.currentDevice = 1) :
    (w.currentDevice = 0 ∧ w.dev1.clusterList = [] ∧
      w.sendBindUnbindWithCheck bind =
        { w with currentDevice := 1, tasks := w.tasks ++ [.endDeviceCb bind none] }) ∨
    (w.currentDevice = 0 ∧ ∃ rest c, w.dev1.clusterList = rest ++ [c] ∧
      w.sendBindUnbindWithCheck bind = { w with
        dev1 := { w.dev1 with clusterList := rest }
        tasks := w.tasks ++ [.endDeviceCb bind (some (w.dev1.link w.dev2 c))] }) ∨
    (w.currentDevice = 1 ∧ w.dev2.clusterList = [] ∧
      w.sendBindUnbindWithCheck bind = { w with currentDevice := 2 }.finish) ∨
    (w.currentDevice = 1 ∧ ∃ rest c, w.dev2.clusterList = rest ++ [c] ∧
      w.sendBindUnbindWithCheck bind = { w with
        dev2 := { w.dev2 with clusterList := rest }
        tasks := w.tasks ++ [.endDeviceCb bind (some (w.dev2.link w.dev1 c))] }) := by
  rcases current with first | second
  · rcases List.eq_nil_or_concat w.dev1.clusterList with empty | ⟨rest, c, split⟩
    · refine Or.inl ⟨first, empty, ?_⟩
      simp [Coordinator.sendBindUnbindWithCheck, Coordinator.info, first, empty]
    · rw [List.concat_eq_append] at split
      refine Or.inr (Or.inl ⟨first, rest, c, split, ?_⟩)
      simp [Coordinator.sendBindUnbindWithCheck, Coordinator.info, Coordinator.setClusterList,
        Coordinator.linkOf, Coordinator.peerDeviceNum, first, split]
  · rcases List.eq_nil_or_concat w.dev2.clusterList with empty | ⟨rest, c, split⟩
    · refine Or.inr (Or.inr (Or.inl ⟨second, empty, ?_⟩))
      simp [Coordinator.sendBindUnbindWithCheck, Coordinator.info, second, empty]
    · rw [List.concat_eq_append] at split
      refine Or.inr (Or.inr (Or.inr ⟨second, rest, c, split, ?_⟩))
      simp [Coordinator.sendBindUnbindWithCheck, Coordinator.info, Coordinator.setClusterList,
        Coordinator.linkOf, Coordinator.peerDeviceNum, second, split]

/-- Sending goes on or is over. -/
theorem sendBindUnbindWithCheck_consistent (exchanging : Exchanging w x) (tasks : w.tasks = [])
    (sending : Sending w x) (bind : Bool) :
    Consistent (w.sendBindUnbindWithCheck bind) ∧
      (w.sendBindUnbindWithCheck bind).remaining ≤ w.left := by
  obtain ⟨held1, held2, timers, exchange, matches_, exact_⟩ := exchanging
  obtain ⟨dev1, dev2, rest1, rest2, current⟩ := sending
  rcases sendBindUnbindWithCheck_cases bind (current.imp_right And.left) with
    ⟨first, empty, is⟩ | ⟨first, rest, c, split, is⟩ | ⟨second, empty, is⟩ |
      ⟨second, rest, c, split, is⟩
  · rw [is]
    constructor
    · exact .at_ (.endDeviceCb bind none) ⟨held1, held2, timers, exchange, matches_, exact_⟩
        (by simp [tasks]) (.sending ⟨dev1, dev2, rest1, rest2, Or.inr ⟨rfl, empty⟩⟩)
    · simp [Coordinator.remaining, Coordinator.left, tasks, first]
  · rw [is]
    constructor
    · exact .at_ (.endDeviceCb bind (some (w.dev1.link w.dev2 c)))
        ⟨held1, held2, timers, exchange, matches_, exact_⟩ (by simp [tasks])
        (.sending ⟨dev1, dev2, (split ▸ List.prefix_append rest [c]).trans rest1, rest2,
          Or.inl first⟩)
    · simp only [Coordinator.remaining, Coordinator.left, tasks, first, split,
        List.nil_append, List.length_append, List.length_singleton, ↓reduceIte]
      omega
  · rw [is]
    constructor
    · exact .idle ⟨rfl, rfl⟩ timers tasks rfl
    · simp [Coordinator.remaining, Coordinator.finish, Coordinator.release, tasks, timers]
  · have none_ : w.dev1.clusterList = [] := by
      rcases current with first | ⟨-, none_⟩
      · omega
      · exact none_
    rw [is]
    constructor
    · exact .at_ (.endDeviceCb bind (some (w.dev2.link w.dev1 c)))
        ⟨held1, held2, timers, exchange, matches_, exact_⟩ (by simp [tasks])
        (.sending ⟨dev1, dev2, rest1, (split ▸ List.prefix_append rest [c]).trans rest2,
          Or.inr ⟨second, none_⟩⟩)
    · simp only [Coordinator.remaining, Coordinator.left, tasks, second, split,
        List.nil_append, List.length_append, List.length_singleton, Nat.one_ne_zero, ↓reduceIte]
      omega

/-- The test asks for the first matched link. -/
theorem sendCheckBindUnbind_eq (matches_ : x.links ≠ []) (dev1 : w.dev1 = x.dev1)
    (dev2 : w.dev2 = x.dev2) :
    ∃ asked current, x.tested = some asked ∧
      (current = 0 ∨ current = 1 ∧ w.dev1.clusterList = []) ∧
      w.sendCheckBindUnbind =
        { w with currentDevice := current, tasks := w.tasks ++ [.checkCb asked] } := by
  cases first : x.dev1.clusterList with
  | cons c rest =>
    refine ⟨x.dev1.link x.dev2 c, 0, by simp [Exchange.tested, Exchange.links, first],
      Or.inl rfl, ?_⟩
    simp [Coordinator.sendCheckBindUnbind, first, dev1, dev2, Coordinator.linkOf,
      Coordinator.info, Coordinator.peerDeviceNum]
  | nil =>
    cases second : x.dev2.clusterList with
    | cons c rest =>
      refine ⟨x.dev2.link x.dev1 c, 1, by simp [Exchange.tested, Exchange.links, first, second],
        Or.inr ⟨rfl, dev1 ▸ first⟩, ?_⟩
      simp [Coordinator.sendCheckBindUnbind, first, second, dev1, dev2, Coordinator.linkOf,
        Coordinator.info, Coordinator.peerDeviceNum]
    | nil => exact absurd (by simp [Exchange.links, first, second]) matches_

theorem sendCheckBindUnbind_consistent (exchanging : Exchanging w x) (tasks : w.tasks = [])
    (dev1 : w.dev1 = x.dev1) (dev2 : w.dev2 = x.dev2) :
    Consistent w.sendCheckBindUnbind ∧
      w.sendCheckBindUnbind.remaining ≤
        w.dev1.clusterList.length + w.dev2.clusterList.length + 3 := by
  obtain ⟨held1, held2, timers, exchange, matches_, exact_⟩ := exchanging
  obtain ⟨asked, current, tested, turn, is⟩ := sendCheckBindUnbind_eq matches_ dev1 dev2
  rw [is]
  constructor
  · refine .at_ (.checkCb asked) ⟨held1, held2, timers, exchange, matches_, exact_⟩
      (by simp [tasks]) (.test dev1 dev2 tested ⟨?_, ?_, ?_, ?_, turn⟩)
    · rw [dev1]
    · rw [dev2]
    · rw [dev1]
    · rw [dev2]
  · simp only [Coordinator.remaining, Coordinator.left, tasks, List.nil_append]
    split <;> omega

/-- A callback that runs brings its exchange forward. -/
theorem call_consistent {task : Task} (exchanging : Exchanging w x) (tasks : w.tasks = [])
    (stage : Stage w x task) (status : ZdpStatus) :
    Consistent (w.call status task) ∧
      (w.call status task).remaining < { w with tasks := [task] }.remaining := by
  cases stage with
  | toTest dev1 dev2 =>
    obtain ⟨consistent, less⟩ := sendCheckBindUnbind_consistent exchanging tasks dev1 dev2
    exact ⟨consistent, Nat.lt_of_le_of_lt less (by simp [Coordinator.remaining])⟩
  | test dev1 dev2 tested sending =>
    obtain ⟨consistent, less⟩ := sendBindUnbindWithCheck_consistent exchanging tasks sending
      (status = .noEntry)
    exact ⟨consistent, Nat.lt_of_le_of_lt less (by simp [Coordinator.remaining, Coordinator.left])⟩
  | @sending asked bind sending =>
    obtain ⟨consistent, less⟩ := sendBindUnbindWithCheck_consistent exchanging tasks sending bind
    exact ⟨consistent, Nat.lt_of_le_of_lt less (by simp [Coordinator.remaining, Coordinator.left])⟩

/-! ## Events -/

/-- A stage is about the devices only. -/
theorem Stage.taken {w' : Coordinator} {task : Task} (stage : Stage w x task)
    (dev1 : w'.dev1 = w.dev1) (dev2 : w'.dev2 = w.dev2)
    (current : w'.currentDevice = w.currentDevice) : Stage w' x task := by
  have sends (sending : Sending w x) : Sending w' x := by
    constructor
    · rw [dev1, sending.dev1]
    · rw [dev2, sending.dev2]
    · exact dev1 ▸ sending.rest1
    · exact dev2 ▸ sending.rest2
    · rw [current, dev1]
      exact sending.current
  cases stage with
  | toTest dev1' dev2' => exact .toTest (dev1.trans dev1') (dev2.trans dev2')
  | test dev1' dev2' tested sending =>
    exact .test (dev1.trans dev1') (dev2.trans dev2') tested (sends sending)
  | sending sending => exact .sending (sends sending)

/-- The same coordinator but for responses, links and records. -/
structure Alike (w w' : Coordinator) : Prop where
  dev1 : w'.dev1 = w.dev1
  dev2 : w'.dev2 = w.dev2
  currentDevice : w'.currentDevice = w.currentDevice
  timers : w'.timers = w.timers
  tasks : w'.tasks = w.tasks
  exchange : w'.exchange = w.exchange

theorem Alike.exchanging {w' : Coordinator} (alike : Alike w w')
    (exchanging : Exchanging w x) : Exchanging w' x where
  held1 := alike.dev1 ▸ exchanging.held1
  held2 := alike.dev2 ▸ exchanging.held2
  timers := alike.timers.trans exchanging.timers
  exchange := alike.exchange.trans exchanging.exchange
  matches_ := exchanging.matches_
  exact_ := exchanging.exact_

theorem Alike.consistent {w' : Coordinator} (alike : Alike w w')
    (consistent : Consistent w) : Consistent w' := by
  obtain ⟨dev1, dev2, current, timers, tasks, exchange⟩ := id alike
  cases consistent with
  | idle idle timers₀ tasks₀ exchange₀ =>
    exact .idle ⟨dev1 ▸ idle.1, dev2 ▸ idle.2⟩ (timers.trans timers₀) (tasks.trans tasks₀)
      (exchange.trans exchange₀)
  | waiting dev1₀ dev2₀ timers₀ tasks₀ exchange₀ =>
    exact .waiting (dev1 ▸ dev1₀) (dev2 ▸ dev2₀) (timers.trans timers₀) (tasks.trans tasks₀)
      (exchange.trans exchange₀)
  | busy exchanging tasks₀ stage =>
    exact .busy (alike.exchanging exchanging) (tasks.trans tasks₀)
      (stage.taken dev1 dev2 current)

theorem Alike.remaining {w' : Coordinator} (alike : Alike w w') :
    w'.remaining = w.remaining := by
  simp [Coordinator.remaining, Coordinator.left, alike.dev1, alike.dev2, alike.currentDevice,
    alike.timers, alike.tasks]

/-- A second request that fits starts an exchange with exactly the common clusters, or ends
the waiting. -/
theorem meet_consistent (spill : Coordinator → Coordinator) (param : BufRef) {param1 : BufRef}
    {req req1 : BindReq} (alarmOk : Bool) {bufOk : Bool}
    (dev1 : w.dev1.param = some (param1, req1)) (dev2 : w.dev2.param = none)
    (tasks : w.tasks = []) (exchange : w.exchange = none) (valid : req.ValidEndp)
    (meets : req1.profileId = req.profileId → bufOk = true ∧ PairFits req1 req) :
    let w' := w.endDeviceBindHandler spill param req alarmOk bufOk
    Consistent w' ∧ w'.remaining < 100 ∧ ∀ x ∈ w'.started, x ∈ w.started ∨ x.Exact := by
  unfold Coordinator.endDeviceBindHandler
  rw [if_neg valid]
  simp only [dev1, dev2, ne_eq, not_true_eq_false, ↓reduceIte]
  split
  · refine ⟨.idle ⟨rfl, rfl⟩ rfl tasks exchange, ?_, fun x member => Or.inl member⟩
    simp [Coordinator.remaining, Coordinator.release, Coordinator.respond, tasks]
  · rename_i same
    obtain ⟨rfl, fits⟩ := meets (Decidable.not_not.mp same)
    have short1 := (checkClusterList_fits req1.outClusters req.inClusters).mpr fits.1
    have short2 := (checkClusterList_fits req1.inClusters req.outClusters).mpr fits.2
    rw [if_neg (by omega)]
    split
    · refine ⟨.idle ⟨rfl, rfl⟩ rfl tasks exchange, ?_, fun x member => Or.inl member⟩
      simp [Coordinator.remaining, Coordinator.release, Coordinator.respond,
        Coordinator.setClusterList, tasks]
    · rename_i some_
      refine ⟨.at_ .sendCheck ⟨by simp [Coordinator.startExchange,
        Coordinator.respond, dev1], Option.some_ne_none _, rfl, rfl, ?_, mem_checkClusterList _ _,
        mem_checkClusterList _ _, short1, short2⟩ ?_ (.toTest rfl rfl), ?_, ?_⟩
      · intro none_
        simp only [Exchange.links, List.append_eq_nil_iff, List.map_eq_nil_iff] at none_
        exact some_ none_
      · simp [Coordinator.startExchange, Coordinator.respond, tasks]
      · simp only [Coordinator.remaining, Coordinator.startExchange, Coordinator.respond, tasks,
          List.nil_append, ↓reduceIte, maxClusterList] at short1 short2 ⊢
        omega
      · intro x member
        rcases List.mem_append.mp member with old | new
        · exact Or.inl old
        · right
          cases List.mem_singleton.mp new
          exact ⟨mem_checkClusterList _ _, mem_checkClusterList _ _, short1, short2⟩

theorem call_started (w : Coordinator) (status : ZdpStatus) (task : Task) :
    (w.call status task).started = w.started := by
  have sends (bind : Bool) : (w.sendBindUnbindWithCheck bind).started = w.started := by
    simp only [Coordinator.sendBindUnbindWithCheck, Coordinator.setClusterList]
    split
    · split <;> rfl
    · split <;> rfl
  cases task with
  | sendCheck => rfl
  | checkCb asked => exact sends _
  | endDeviceCb bind asked => exact sends bind

/-- A request that finds an exchange or an invalid endpoint is only answered. -/
theorem respond_consistent (consistent : Consistent w) (param : BufRef) (status : ZdpStatus) :
    Consistent (w.respond param status) ∧
      (∀ x ∈ (w.respond param status).started, x ∈ w.started ∨ x.Exact) ∧
      (w.respond param status).remaining ≤ w.remaining := by
  have alike : Alike w (w.respond param status) := ⟨rfl, rfl, rfl, rfl, rfl, rfl⟩
  exact ⟨alike.consistent consistent, fun x member => Or.inl member, alike.remaining.le⟩

theorem request_consistent (spill : Coordinator → Coordinator)
    (consistent : Consistent w) (param : BufRef) (req : BindReq)
    (alarmOk bufOk : Bool) (held : Held w (.request param req alarmOk bufOk)) :
    let w' := w.endDeviceBindHandler spill param req alarmOk bufOk
    Consistent w' ∧ (∀ x ∈ w'.started, x ∈ w.started ∨ x.Exact) ∧
      (¬w.Idle → w'.remaining ≤ w.remaining) := by
  obtain ⟨alarm, meets⟩ := held
  intro w'
  by_cases valid : req.ValidEndp
  · cases consistent with
    | idle idle timers tasks exchange =>
      have is : w' = { w with
          dev1 := { w.dev1 with param := some (param, req) }, timers := [param] } := by
        simp [w', Coordinator.endDeviceBindHandler, if_neg valid, idle.1, timers,
          alarm valid idle.1]
      rw [is]
      exact ⟨.waiting rfl idle.2 rfl tasks exchange, fun x member => Or.inl member,
        fun busy => absurd idle busy⟩
    | @waiting param1 req1 dev1 dev2 timers tasks exchange =>
      obtain ⟨kept, less, exact_⟩ := meet_consistent spill param alarmOk dev1 dev2 tasks exchange
        valid (meets valid dev2 _ dev1)
      refine ⟨kept, exact_, fun _ => ?_⟩
      have hundred : w.remaining = 100 := by simp [Coordinator.remaining, tasks, timers]
      rw [hundred]
      exact less.le
    | @busy x task exchanging tasks stage =>
      have is : w' = w.respond param .timeout := by
        obtain ⟨waiting, held⟩ := Option.ne_none_iff_exists'.mp exchanging.held1
        simp [w', Coordinator.endDeviceBindHandler, if_neg valid, held, exchanging.held2]
      rw [is]
      obtain ⟨kept, same, less⟩ :=
        respond_consistent (.busy exchanging tasks stage) param .timeout
      exact ⟨kept, same, fun _ => less⟩
  · have is : w' = w.respond param .invalidEp := by
      simp only [w', Coordinator.endDeviceBindHandler, if_pos (Decidable.not_not.mp valid)]
    rw [is]
    obtain ⟨kept, same, less⟩ := respond_consistent consistent param .invalidEp
    exact ⟨kept, same, fun _ => less⟩

theorem timer_consistent (spill : Coordinator → Coordinator)
    (consistent : Consistent w) (i : ℕ) (due : i < w.timers.length) :
    let w' := w.step spill (.timer i)
    Consistent w' ∧ w'.started = w.started ∧ w'.remaining < w.remaining := by
  cases consistent with
  | idle idle timers => simp [timers] at due
  | @waiting param req dev1 dev2 timers tasks exchange =>
    obtain rfl : i = 0 := by simpa [timers] using due
    have is : w.step spill (.timer 0) =
        { w with timers := [] }.endDeviceBindTimer param := by simp [Coordinator.step, timers]
    rw [is]
    refine ⟨.idle ⟨rfl, rfl⟩ rfl tasks exchange, rfl, ?_⟩
    simp [Coordinator.remaining, Coordinator.endDeviceBindTimer, Coordinator.release,
      Coordinator.respond, tasks, timers]
  | busy exchanging => simp [exchanging.timers] at due

theorem callback_consistent (spill : Coordinator → Coordinator)
    (consistent : Consistent w) (i : ℕ) (status : ZdpStatus)
    (bound : Link → Bool) (due : i < w.tasks.length) :
    let w' := w.step spill (.callback i status bound)
    Consistent w' ∧ w'.started = w.started ∧ w'.remaining < w.remaining := by
  cases consistent with
  | idle idle timers tasks => simp [tasks] at due
  | waiting dev1 dev2 timers tasks => simp [tasks] at due
  | @busy x task exchanging tasks stage =>
    obtain rfl : i = 0 := by simpa [tasks] using due
    let taken : Coordinator := { w with
      tasks := [], bound := if task.asked.isSome then bound else w.bound }
    have is : w.step spill (.callback 0 status bound) = taken.call status task := by
      simp [Coordinator.step, tasks, taken]
    obtain ⟨kept, less⟩ := call_consistent (w := taken) ⟨exchanging.held1, exchanging.held2,
      exchanging.timers, exchanging.exchange, exchanging.matches_, exchanging.exact_⟩ rfl
      (stage.taken rfl rfl rfl) status
    rw [is]
    refine ⟨kept, call_started taken status task, ?_⟩
    have before : { taken with tasks := [task] }.remaining = w.remaining := by
      have alike : Alike w { taken with tasks := [task] } :=
        ⟨rfl, rfl, rfl, rfl, tasks.symm, rfl⟩
      exact alike.remaining
    omega

/-- What one event keeps.  Only a request that finds the coordinator idle adds to what is
remaining. -/
theorem step_consistent (spill : Coordinator → Coordinator) (consistent : Consistent w)
    (e : Event) (held : Held w e) :
    Consistent (w.step spill e) ∧ (∀ x ∈ (w.step spill e).started, x ∈ w.started ∨ x.Exact) ∧
      (¬w.Idle → (w.step spill e).remaining ≤ w.remaining) ∧
      (e.wakes = true → (w.step spill e).remaining < w.remaining) := by
  cases e with
  | request param req alarmOk bufOk =>
    obtain ⟨kept, exact_, less⟩ :=
      request_consistent spill consistent param req alarmOk bufOk held
    exact ⟨kept, exact_, less, fun wakes => by cases wakes⟩
  | timer i =>
    obtain ⟨kept, same, less⟩ := timer_consistent spill consistent i held
    exact ⟨kept, fun x member => Or.inl (same ▸ member), fun _ => less.le, fun _ => less⟩
  | callback i status bound =>
    obtain ⟨kept, same, less⟩ :=
      callback_consistent spill consistent i status bound held
    exact ⟨kept, fun x member => Or.inl (same ▸ member), fun _ => less.le, fun _ => less⟩
  | lose i => exact absurd held id

/-! ## The links of an exchange -/

/-- The matched links that have not been asked for. -/
def unsent (w : Coordinator) (x : Exchange) : List Link :=
  w.dev1.clusterList.map (x.dev1.link x.dev2) ++ w.dev2.clusterList.map (x.dev2.link x.dev1)

/-- The links that were asked for are toggled, the other matched ones are unsent, and nothing
else changed. -/
structure Partly (w : Coordinator) (x : Exchange) (bind : Bool) : Prop where
  toggles : ∀ tested ∈ x.tested, bind = !x.before tested
  inside : ∀ l ∈ x.links, l ∈ unsent w x ∨ w.bound l = bind
  outside : ∀ l, l ∉ x.links → w.bound l = x.before l

/-- How far the links of an exchange are toggled. -/
def Tracked (w : Coordinator) (x : Exchange) : Task → Prop
  | .sendCheck | .checkCb _ => w.bound = x.before
  | .endDeviceCb bind asked =>
    (∀ l ∈ asked, l ∈ x.links) ∧
      Partly { w with bound := match asked with
        | none => w.bound
        | some l => Function.update w.bound l bind } x bind

/-- The links of the running exchange are tracked, and ended exchanges have toggled theirs. -/
structure Toggling (w : Coordinator) : Prop where
  tracked : ∀ x ∈ w.exchange, ∀ task ∈ w.tasks, Tracked w x task
  finished : ∀ done ∈ w.finished, done.1.Toggled done.2

/-- Tracking is about the links and the clusters to be sent. -/
theorem Toggling.kept {w' : Coordinator} (toggling : Toggling w) (bound : w'.bound = w.bound)
    (list1 : w'.dev1.clusterList = w.dev1.clusterList)
    (list2 : w'.dev2.clusterList = w.dev2.clusterList) (exchange : w'.exchange = w.exchange)
    (tasks : w'.tasks = w.tasks) (finished : w'.finished = w.finished) : Toggling w' := by
  refine ⟨fun x same task member => ?_, finished ▸ toggling.finished⟩
  have tracked := toggling.tracked x (exchange ▸ same) task (tasks ▸ member)
  have sent : unsent w' x = unsent w x := by rw [unsent, list1, list2, unsent]
  cases task with
  | sendCheck => exact bound.trans tracked
  | checkCb asked => exact bound.trans tracked
  | endDeviceCb bind asked =>
    obtain ⟨inside, partly⟩ := tracked
    refine ⟨inside, partly.toggles, fun l member => ?_, fun l other => ?_⟩
    · have old := partly.inside l member
      simp only [unsent, list1, list2, bound] at old ⊢
      exact old
    · have old := partly.outside l other
      simp only [bound] at old ⊢
      exact old

theorem Partly.toggled {bind : Bool} (partly : Partly w x bind)
    (empty1 : w.dev1.clusterList = []) (empty2 : w.dev2.clusterList = []) :
    x.Toggled w.bound := by
  intro tested first l
  have sent : unsent w x = [] := by simp [unsent, empty1, empty2]
  split
  · rename_i member
    rcases partly.inside l member with unsent_ | done
    · simp [sent] at unsent_
    · rw [done, partly.toggles tested first]
  · rename_i other
    exact partly.outside l other

/-- The answer to a request for an unsent link toggles that link. -/
theorem Partly.ask {w' : Coordinator} {bind : Bool} {asked : Link} (partly : Partly w x bind)
    (member : asked ∈ x.links) (bound : w'.bound = Function.update w.bound asked bind)
    (rest : ∀ l ∈ unsent w x, l = asked ∨ l ∈ unsent w' x) : Partly w' x bind := by
  refine ⟨partly.toggles, fun l inside => ?_, fun l other => ?_⟩
  · rw [bound]
    by_cases same : l = asked
    · exact Or.inr (by simp [same])
    · rw [Function.update_of_ne same]
      exact (partly.inside l inside).imp_left fun unsent_ => (rest l unsent_).resolve_left same
  · have same : l ≠ asked := fun same => other (same ▸ member)
    rw [bound, Function.update_of_ne same]
    exact partly.outside l other

/-- Sending the next cluster keeps the links on their way. -/
theorem sendBindUnbindWithCheck_toggling (exchanging : Exchanging w x) (tasks : w.tasks = [])
    (sending : Sending w x) (bind : Bool) (partly : Partly w x bind)
    (finished : ∀ done ∈ w.finished, done.1.Toggled done.2) :
    Toggling (w.sendBindUnbindWithCheck bind) := by
  have names1 (c : UInt16) : w.dev1.link w.dev2 c = x.dev1.link x.dev2 c := by
    rw [← sending.dev1, ← sending.dev2]
    rfl
  have names2 (c : UInt16) : w.dev2.link w.dev1 c = x.dev2.link x.dev1 c := by
    rw [← sending.dev1, ← sending.dev2]
    rfl
  -- the one task that is left is tracked
  have track {w' : Coordinator} {task : Task} (exchange : w'.exchange = w.exchange)
      (tasks' : w'.tasks = w.tasks ++ [task]) (done : w'.finished = w.finished)
      (tracked : Tracked w' x task) : Toggling w' := by
    refine ⟨fun y same task' member => ?_, done ▸ finished⟩
    cases exchanging.exchange.symm.trans (exchange.symm.trans same)
    rw [tasks', tasks, List.nil_append, List.mem_singleton] at member
    exact member ▸ tracked
  rcases sendBindUnbindWithCheck_cases bind (sending.current.imp_right And.left) with
    ⟨first, empty, is⟩ | ⟨first, rest, c, split, is⟩ | ⟨second, empty, is⟩ |
      ⟨second, rest, c, split, is⟩
  · rw [is]
    exact track rfl rfl rfl
      ⟨fun l none_ => (nomatch none_), partly.toggles, partly.inside, partly.outside⟩
  · have asked : x.dev1.link x.dev2 c ∈ x.links :=
      List.mem_append_left _ (List.mem_map_of_mem (sending.rest1.subset (by simp [split])))
    rw [is, names1]
    refine track rfl rfl rfl ⟨fun l some_ => Option.some.inj some_ ▸ asked,
      partly.ask asked rfl fun l unsent_ => ?_⟩
    simp only [unsent, split, List.map_append, List.mem_append, List.map_cons, List.map_nil,
      List.mem_singleton] at unsent_ ⊢
    grind
  · have none_ : w.dev1.clusterList = [] := by
      rcases sending.current with first | ⟨-, none_⟩
      · omega
      · exact none_
    rw [is]
    refine ⟨fun y same => (nomatch same), fun done member => ?_⟩
    simp only [Coordinator.finish, exchanging.exchange, Option.map_some, Option.toList_some,
      List.mem_append, List.mem_singleton] at member
    rcases member with old | rfl
    · exact finished done old
    · exact partly.toggled none_ empty
  · have asked : x.dev2.link x.dev1 c ∈ x.links :=
      List.mem_append_right _ (List.mem_map_of_mem (sending.rest2.subset (by simp [split])))
    rw [is, names2]
    refine track rfl rfl rfl ⟨fun l some_ => Option.some.inj some_ ▸ asked,
      partly.ask asked rfl fun l unsent_ => ?_⟩
    simp only [unsent, split, List.map_append, List.mem_append, List.map_cons, List.map_nil,
      List.mem_singleton] at unsent_ ⊢
    grind

/-- At the test every matched link is unsent. -/
theorem unsent_all (dev1 : w.dev1 = x.dev1) (dev2 : w.dev2 = x.dev2) : unsent w x = x.links := by
  rw [unsent, dev1, dev2]
  rfl

/-- A callback with a faithful answer keeps track of the links. -/
theorem call_toggling {task : Task} (before : Link → Bool) {status : ZdpStatus}
    (exchanging : Exchanging w x) (tasks : w.tasks = []) (stage : Stage w x task)
    (tracked : Tracked { w with bound := before } x task)
    (answered : if task.asked.isSome then task.Answered before status w.bound
      else w.bound = before)
    (finished : ∀ done ∈ w.finished, done.1.Toggled done.2) :
    Toggling (w.call status task) := by
  cases stage with
  | toTest dev1 dev2 =>
    obtain ⟨asked, current, tested, turn, is⟩ :=
      sendCheckBindUnbind_eq exchanging.matches_ dev1 dev2
    rw [Coordinator.call, is]
    refine ⟨fun y same task member => ?_, finished⟩
    cases exchanging.exchange.symm.trans same
    simp only [tasks, List.nil_append, List.mem_singleton] at member
    subst member
    have same : w.bound = before := answered
    exact same.trans tracked
  | @test asked dev1 dev2 tested sending =>
    obtain ⟨after, reports⟩ : (Task.checkCb asked).Answered before status w.bound := answered
    have before_ : before = x.before := tracked
    rw [before_] at after reports
    have head : asked ∈ x.links := List.mem_of_head? tested
    refine sendBindUnbindWithCheck_toggling exchanging tasks sending _ ⟨?_, ?_, ?_⟩ finished
    · intro tested' first
      cases tested.symm.trans first
      cases bound : x.before asked <;> simp_all
    · intro l member
      exact Or.inl (unsent_all dev1 dev2 ▸ member)
    · intro l other
      have same : l ≠ asked := fun same => other (same ▸ head)
      rw [after, Function.update_of_ne same]
  | @sending asked bind sending =>
    obtain ⟨inside, partly⟩ := tracked
    refine sendBindUnbindWithCheck_toggling exchanging tasks sending bind ?_ finished
    cases asked with
    | none =>
      have same : w.bound = before := answered
      exact ⟨partly.toggles, same ▸ partly.inside, same ▸ partly.outside⟩
    | some l =>
      have after : w.bound = Function.update before l bind := answered l rfl
      exact ⟨partly.toggles, after ▸ partly.inside, after ▸ partly.outside⟩

/-- Where a request starts an exchange, its links are those that exist. -/
theorem request_toggling (consistent : Consistent w) (toggling : Toggling w) (param : BufRef)
    (req : BindReq) (alarmOk bufOk : Bool) (held : Held w (.request param req alarmOk bufOk)) :
    Toggling (w.endDeviceBindHandler spill param req alarmOk bufOk) := by
  unfold Coordinator.endDeviceBindHandler
  split
  · exact toggling.kept rfl rfl rfl rfl rfl rfl
  · rename_i valid
    split
    · exact toggling.kept rfl rfl rfl rfl rfl rfl
    · rename_i param1 req1 waiting
      split
      · exact toggling.kept rfl rfl rfl rfl rfl rfl
      · rename_i second
        have idle : w.exchange = none ∧ w.tasks = [] := by
          cases consistent with
          | idle idle timers tasks exchange => exact ⟨exchange, tasks⟩
          | waiting dev1 dev2 timers tasks exchange => exact ⟨exchange, tasks⟩
          | busy exchanging => exact absurd exchanging.held2 second
        dsimp only
        split
        · exact ⟨fun x same => by simp [Coordinator.release, Coordinator.respond, idle] at same,
            toggling.finished⟩
        · rename_i same
          obtain ⟨-, fits⟩ := held.2 valid (Decidable.not_not.mp second) _ waiting
            (Decidable.not_not.mp same)
          have short1 := (checkClusterList_fits req1.outClusters req.inClusters).mpr fits.1
          have short2 := (checkClusterList_fits req1.inClusters req.outClusters).mpr fits.2
          rw [if_neg (by omega)]
          split
          · exact ⟨fun x same => by
              simp [Coordinator.release, Coordinator.respond, Coordinator.setClusterList, idle]
                at same, toggling.finished⟩
          · refine ⟨fun x same task member => ?_, toggling.finished⟩
            simp only [Coordinator.respond, Coordinator.startExchange, idle, List.nil_append]
              at member
            cases same
            split at member
            · cases List.mem_singleton.mp member
              exact rfl
            · cases member

/-- Faithful answers keep track of the links. -/
theorem step_toggling (consistent : Consistent w) (toggling : Toggling w) (e : Event)
    (held : Held w e) (faithful : Faithful w e) : Toggling (w.step spill e) := by
  cases e with
  | request param req alarmOk bufOk =>
    exact request_toggling consistent toggling param req alarmOk bufOk held
  | timer i =>
    simp only [Coordinator.step]
    split
    · exact toggling
    · exact toggling.kept rfl rfl rfl rfl rfl rfl
  | callback i status bound =>
    cases consistent with
    | idle idle timers tasks => simp [Held, tasks] at held
    | waiting dev1 dev2 timers tasks => simp [Held, tasks] at held
    | @busy x task exchanging tasks stage =>
      obtain rfl : i = 0 := by simpa [Held, tasks] using held
      let taken : Coordinator := { w with
        tasks := [], bound := if task.asked.isSome then bound else w.bound }
      have is : w.step spill (.callback 0 status bound) = taken.call status task := by
        simp [Coordinator.step, tasks, taken]
      have tracked := toggling.tracked x exchanging.exchange task (by simp [tasks])
      have answered := faithful task (by simp [tasks])
      rw [is]
      refine call_toggling w.bound ⟨exchanging.held1, exchanging.held2,
        exchanging.timers, exchanging.exchange, exchanging.matches_, exchanging.exact_⟩ rfl
        (stage.taken rfl rfl rfl) ?_ ?_ toggling.finished
      · cases task with
        | sendCheck => exact tracked
        | checkCb asked => exact tracked
        | endDeviceCb bind asked =>
          exact ⟨tracked.1, tracked.2.toggles, tracked.2.inside, tracked.2.outside⟩
      · by_cases asks : task.asked.isSome
        · simp only [asks, ↓reduceIte, taken]
          exact answered
        · simp only [asks, Bool.false_eq_true, ↓reduceIte, taken]
  | lose i => exact absurd held id

/-! ## Whole runs -/

theorem init_consistent (bound : Link → Bool) : Consistent (.init bound) :=
  .idle ⟨rfl, rfl⟩ rfl rfl rfl

/-- The invariant of held runs. -/
def Sound (w : Coordinator) : Prop := Consistent w ∧ ∀ x ∈ w.started, x.Exact

theorem Sound.step (sound : Sound w) (spill : Coordinator → Coordinator) (e : Event)
    (held : Held w e) : Sound (w.step spill e) := by
  obtain ⟨kept, new, -, -⟩ := step_consistent spill sound.1 e held
  exact ⟨kept, fun x member => (new x member).elim (sound.2 x) id⟩

/-- The invariant of held runs with faithful answers. -/
def SoundLinks (w : Coordinator) : Prop := Consistent w ∧ Toggling w

theorem SoundLinks.step (sound : SoundLinks w) (e : Event) (held : Held w e)
    (faithful : Faithful w e) : SoundLinks (w.step spill e) :=
  ⟨(step_consistent _ sound.1 e held).1, step_toggling sound.1 sound.2 e held faithful⟩

theorem init_soundLinks (bound : Link → Bool) : SoundLinks (.init bound) :=
  ⟨init_consistent bound, fun _ same => (nomatch same), fun _ member => (nomatch member)⟩

/-- An exchange, or the waiting for a second request, is over after the callbacks and timers
that remain. -/
theorem returns_to_idle (n : ℕ) (sound : Sound w) (bounded : w.remaining ≤ n)
    (events : List Event) (held : Along (Coordinator.step spill) Held w events)
    (enough : n < events.countP (·.wakes)) :
    ∃ k ≤ events.length, (run (Coordinator.step spill) w (events.take k)).Idle := by
  induction events generalizing w n with
  | nil => simp at enough
  | cons e rest induction_ =>
    by_cases idle : w.Idle
    · exact ⟨0, Nat.zero_le _, idle⟩
    · obtain ⟨-, -, less, wakes⟩ := step_consistent spill sound.1 e held.1
      have kept := sound.step spill e held.1
      have less := less idle
      rw [List.countP_cons] at enough
      obtain ⟨k, within, reached⟩ : ∃ k ≤ rest.length,
          (run (Coordinator.step spill) (w.step spill e) (rest.take k)).Idle := by
        by_cases awake : e.wakes = true
        · have strictly := wakes awake
          refine induction_ (n - 1) kept (by omega) held.2 ?_
          simp only [awake, ↓reduceIte] at enough
          omega
        · refine induction_ n kept (less.trans bounded) held.2 ?_
          simpa [awake] using enough
      exact ⟨k + 1, Nat.succ_le_succ within, reached⟩

theorem Consistent.remaining_le (consistent : Consistent w) : w.remaining ≤ 100 := by
  cases consistent with
  | idle idle timers tasks => simp [Coordinator.remaining, tasks, timers]
  | waiting dev1 dev2 timers tasks => simp [Coordinator.remaining, tasks, timers]
  | @busy x task exchanging tasks stage =>
    have short : w.dev1.clusterList.length ≤ maxClusterList ∧
        w.dev2.clusterList.length ≤ maxClusterList := by
      have sends (sending : Sending w x) := And.intro
        (sending.rest1.length_le.trans exchanging.exact_.short1)
        (sending.rest2.length_le.trans exchanging.exact_.short2)
      cases stage with
      | toTest dev1 dev2 => exact dev1 ▸ dev2 ▸ ⟨exchanging.exact_.short1, exchanging.exact_.short2⟩
      | test dev1 dev2 tested sending => exact sends sending
      | sending sending => exact sends sending
    simp only [maxClusterList] at short
    cases task with
    | sendCheck =>
      simp only [Coordinator.remaining, tasks]
      omega
    | checkCb asked =>
      simp only [Coordinator.remaining, Coordinator.left, tasks]
      split <;> omega
    | endDeviceCb bind asked =>
      simp only [Coordinator.remaining, Coordinator.left, tasks]
      split <;> omega

/-- **End device binds toggle.**  Where alarms, buffers and callbacks are not lost and the
clusters fit, every exchange starts from exactly the common clusters, the coordinator is idle
or on its way, and is idle again after 101 timers and callbacks at the latest; where the
devices also answer faithfully, every exchange that ended has toggled its links. -/
theorem end_device_bind_toggles (spill : Coordinator → Coordinator) (bound : Link → Bool)
    (events : List Event)
    (held : Along (Coordinator.step spill) Held (.init bound) events) :
    let w := run (Coordinator.step spill) (.init bound) events
    (∀ x ∈ w.started, x.Exact) ∧ w.Alive ∧
      (∀ more, Along (Coordinator.step spill) Held w more → 100 < more.countP (·.wakes) →
        ∃ k ≤ more.length, (run (Coordinator.step spill) w (more.take k)).Idle) ∧
      (Along (Coordinator.step spill) Faithful (.init bound) events →
        ∀ done ∈ w.finished, done.1.Toggled done.2) := by
  intro w
  have sound : Sound w := invariant_of_along (fun _ e sound held => sound.step _ e held)
    _ events ⟨init_consistent bound, fun x member => by cases member⟩ held
  refine ⟨sound.2, sound.1.alive, fun more held enough =>
    returns_to_idle 100 sound sound.1.remaining_le more held enough, fun faithful => ?_⟩
  have both : Along (Coordinator.step spill) (fun w e => Held w e ∧ Faithful w e)
      (.init bound) events := along_and held faithful
  have toggling : SoundLinks w := invariant_of_along
    (fun _ e sound met => sound.step e met.1 met.2) _ events (init_soundLinks bound) both
  exact toggling.2.finished

/-- A lamp and a switch that share the on/off cluster. -/
def lampReq : BindReq := ⟨1, 10, 0x104, [6], []⟩

@[inherit_doc lampReq] def switchReq : BindReq := ⟨2, 20, 0x104, [], [6]⟩

/-- Both requests, and the test of the switch's link. -/
def lampEvents : List Event :=
  [.request 1 lampReq true true, .request 2 switchReq true true, .callback 0 .success fun _ => false]

/-- The link of the switch to the lamp. -/
def lampLink : Link := ⟨2, 20, 6, 1, 10⟩

/-- The switch has no such link, and is asked to bind it. -/
def lampAnswers : List Event :=
  [.callback 0 .noEntry (Function.update (fun _ => false) lampLink false),
    .callback 0 .success
      (Function.update (Function.update (fun _ => false) lampLink false) lampLink true)]

theorem end_device_bind_toggles_lamp :
    let w := run (Coordinator.step id) (.init fun _ => false) (lampEvents ++ lampAnswers)
    w.Idle ∧ w.finished.map (·.2 lampLink) = [true] ∧ ∀ done ∈ w.finished, done.1.Toggled done.2 := by
  refine ⟨by decide, by decide, (end_device_bind_toggles id (fun _ => false)
    (lampEvents ++ lampAnswers) (by decide)).2.2.2 ?_⟩
  refine ⟨trivial, trivial, fun task due => ?_, fun task due => ?_, fun task due => ?_, trivial⟩
  · cases (show some .sendCheck = some task from due)
    exact trivial
  · cases (show some (.checkCb lampLink) = some task from due)
    exact ⟨rfl, by decide⟩
  · cases (show some (.endDeviceCb true (some lampLink)) = some task from due)
    rintro _ ⟨⟩
    rfl

/-- When the answer to the test is lost, nothing is due any more and the coordinator never
serves a request again. -/
theorem lostAnswer_stuck :
    ¬∀ (spill : Coordinator → Coordinator) (bound : Link → Bool) (events : List Event),
      let w := run (Coordinator.step spill) (.init bound) events
      (∀ x ∈ w.started, x.Exact) ∧ w.Alive ∧ ∀ done ∈ w.finished, done.1.Toggled done.2 := by
  intro claim
  have alive := (claim id (fun _ => false) (lampEvents ++ [.lose 0])).2.1
  exact absurd alive (by decide)

end Zboss.EndDeviceBind
