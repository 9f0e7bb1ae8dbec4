import Mathlib.Data.List.Nodup
import Zboss.Mac.Management

/-!
Runs of the requests that share `pending_buf`.  What the MAC keeps between events says where
each request is, which one has `pending_buf`, and what its flags stand for; every event of a
careful run keeps it.
-/

namespace Zboss.Management

open Zboss.Queues Zboss.Run

/-! ## Where the buffers are -/

/-- The numbers are used once, every request is answered, held or waits, and every buffer is given
away or in one place. -/
structure Accounts (requests : List ℕ) (issued : ℕ) (answered held waits handed frames : List ℕ) :
    Prop where
  fresh : requests.Nodup ∧ ∀ n ∈ requests, n < issued
  once : ∀ n, answered.count n + held.count n + waits.count n = requests.count n
  place : ∀ n, n ∈ requests ∨ n ∈ frames →
    handed.count n + held.count n + frames.count n = 1
  foreign : ∀ n ∈ frames, n ∉ requests
  past : ∀ n, n ∈ handed ∨ n ∈ frames → n < issued

namespace Accounts

variable {requests answered held waits handed frames : List ℕ} {issued : ℕ}
  {answered' held' waits' handed' frames' : List ℕ}
  (accounts : Accounts requests issued answered held waits handed frames)

include accounts

theorem unused : issued ∉ requests :=
  fun member => Nat.lt_irrefl _ (accounts.fresh.2 _ member)

theorem of_held {n : ℕ} (has : n ∈ held) : n ∈ requests := by
  have once := accounts.once n
  have present := List.count_pos_iff.mpr has
  exact List.count_pos_iff.mp (by omega)

theorem of_answered {n : ℕ} (member : n ∈ answered) : n ∈ requests := by
  have once := accounts.once n
  have present := List.count_pos_iff.mpr member
  exact List.count_pos_iff.mp (by omega)

/-- The buffer of a request is held once or was given back. -/
theorem back {n : ℕ} (member : n ∈ requests) : handed.count n + held.count n = 1 := by
  have place := accounts.place n (.inl member)
  have foreign := List.count_eq_zero.mpr fun frame => accounts.foreign n frame member
  omega

/-- A buffer that is held once was not given back. -/
theorem has {n : ℕ} (has : n ∈ held) : held.count n = 1 ∧ n ∉ handed := by
  have back := accounts.back (accounts.of_held has)
  have present := List.count_pos_iff.mpr has
  exact ⟨by omega, List.count_eq_zero.mp (by omega)⟩

/-- A request that is on its way is not answered yet. -/
theorem unanswered {n : ℕ} (on : 0 < held.count n + waits.count n) : n ∉ answered := by
  have once := accounts.once n
  have single := List.nodup_iff_count_le_one.mp accounts.fresh.1 n
  exact List.count_eq_zero.mp (by omega)

/-- No buffer has the next number. -/
theorem next : handed.count issued = 0 ∧ held.count issued = 0 ∧ frames.count issued = 0 :=
  ⟨List.count_eq_zero.mpr fun was => Nat.lt_irrefl _ (accounts.past _ (.inl was)),
    List.count_eq_zero.mpr fun has => accounts.unused (accounts.of_held has),
    List.count_eq_zero.mpr fun frame => Nat.lt_irrefl _ (accounts.past _ (.inr frame))⟩

/-- What a buffer is counted for has a number that was used. -/
theorem counted {n : ℕ} (some_ : 0 < handed.count n + held.count n + frames.count n) :
    n < issued := by
  rcases Nat.eq_zero_or_pos (held.count n) with none_ | has
  · rcases Nat.eq_zero_or_pos (frames.count n) with none' | frame
    · exact accounts.past n (.inl (List.count_pos_iff.mp (by omega)))
    · exact accounts.past n (.inr (List.count_pos_iff.mp frame))
  · exact accounts.fresh.2 n (accounts.of_held (List.count_pos_iff.mp has))

/-- Buffers go from place to place, and a new one may come. -/
theorem issue
    (once : ∀ n, answered'.count n + held'.count n + waits'.count n =
      answered.count n + held.count n + waits.count n) {new : ℕ} (most : new ≤ 1)
    (place : ∀ n, handed'.count n + held'.count n + frames'.count n =
      handed.count n + held.count n + frames.count n + if issued = n then new else 0)
    (fewer : ∀ n, frames'.count n ≤ frames.count n + if issued = n then new else 0) :
    Accounts requests (issued + 1) answered' held' waits' handed' frames' := by
  have old : ∀ n ∈ frames', n ∈ frames ∨ n = issued := by
    intro n member
    have present := List.count_pos_iff.mpr member
    have fewer := fewer n
    by_cases same : issued = n
    · exact .inr same.symm
    · rw [if_neg same] at fewer
      exact .inl (List.count_pos_iff.mp (by omega))
  have used : ∀ n, 0 < handed'.count n + frames'.count n → n < issued + 1 := by
    intro n some_
    have place := place n
    by_cases same : issued = n
    · omega
    · rw [if_neg same] at place
      exact Nat.lt_succ_of_lt (accounts.counted (by omega))
  refine ⟨⟨accounts.fresh.1, fun n member => Nat.lt_succ_of_lt (accounts.fresh.2 n member)⟩,
    fun n => (once n).trans (accounts.once n), fun n member => ?_, fun n member => ?_,
    fun n member => used n ?_⟩
  · have place := place n
    by_cases same : issued = n
    · subst same
      obtain ⟨unhanded, unheld, unframed⟩ := accounts.next
      have present : 0 < frames'.count issued :=
        List.count_pos_iff.mpr (member.resolve_left accounts.unused)
      rw [if_pos rfl] at place
      omega
    · rw [if_neg same] at place
      have known := accounts.place n (member.imp_right fun frame =>
        (old n frame).resolve_right (Ne.symm same))
      omega
  · rcases old n member with old | rfl
    · exact accounts.foreign n old
    · exact accounts.unused
  · rcases member with given | frame
    · have present := List.count_pos_iff.mpr given
      omega
    · have present := List.count_pos_iff.mpr frame
      omega

/-- Buffers go from place to place. -/
theorem move
    (once : ∀ n, answered'.count n + held'.count n + waits'.count n =
      answered.count n + held.count n + waits.count n)
    (place : ∀ n, handed'.count n + held'.count n + frames'.count n =
      handed.count n + held.count n + frames.count n)
    (fewer : ∀ n, frames'.count n ≤ frames.count n) :
    Accounts requests issued answered' held' waits' handed' frames' := by
  have old : ∀ n ∈ frames', n ∈ frames := by
    intro n member
    have present := List.count_pos_iff.mpr member
    have fewer := fewer n
    exact List.count_pos_iff.mp (by omega)
  refine ⟨accounts.fresh, fun n => (once n).trans (accounts.once n),
    fun n member => (place n).trans (accounts.place n (member.imp_right (old n))),
    fun n member => accounts.foreign n (old n member), fun n member => accounts.counted ?_⟩
  rw [← place n]
  rcases member with given | frame
  · have present := List.count_pos_iff.mpr given
    omega
  · have present := List.count_pos_iff.mpr frame
    omega

/-- A request comes with the next number. -/
theorem ask
    (once : ∀ n, answered'.count n + held'.count n + waits'.count n =
      answered.count n + held.count n + waits.count n + if issued = n then 1 else 0)
    (place : ∀ n, handed'.count n + held'.count n + frames'.count n =
      handed.count n + held.count n + frames.count n + if issued = n then 1 else 0)
    (fewer : ∀ n, frames'.count n ≤ frames.count n) :
    Accounts (requests ++ [issued]) (issued + 1) answered' held' waits' handed' frames' := by
  have old : ∀ n ∈ frames', n ∈ frames := by
    intro n member
    have present := List.count_pos_iff.mpr member
    have fewer := fewer n
    exact List.count_pos_iff.mp (by omega)
  have before : ∀ n < issued, issued ≠ n := fun n less same => Nat.lt_irrefl _ (same ▸ less)
  refine ⟨⟨List.nodup_append.mpr ⟨accounts.fresh.1, by simp, ?_⟩, fun n member => ?_⟩,
    fun n => ?_, fun n member => ?_, fun n member asked => ?_, fun n member => ?_⟩
  · intro a old b new same
    rw [List.mem_singleton.mp new] at same
    exact accounts.unused (same ▸ old)
  · rcases List.mem_append.mp member with old | new
    · exact Nat.lt_succ_of_lt (accounts.fresh.2 n old)
    · rw [List.mem_singleton.mp new]
      exact Nat.lt_succ_self _
  · rw [once n, accounts.once n, List.count_append, List.count_singleton]
    simp only [beq_iff_eq]
  · rw [place n]
    by_cases same : issued = n
    · subst same
      obtain ⟨unhanded, unheld, unframed⟩ := accounts.next
      rw [if_pos rfl]
      omega
    · rw [if_neg same]
      refine accounts.place n (member.imp (fun asked => ?_) (old n))
      exact (List.mem_append.mp asked).resolve_right fun new =>
        same (List.mem_singleton.mp new).symm
  · rcases List.mem_append.mp asked with known | new
    · exact accounts.foreign n (old n member) known
    · exact before n (accounts.past n (.inr (old n member))) (List.mem_singleton.mp new).symm
  · by_cases same : issued = n
    · omega
    · have place := place n
      rw [if_neg same] at place
      refine Nat.lt_succ_of_lt (accounts.counted ?_)
      rcases member with given | frame
      · have present := List.count_pos_iff.mpr given
        omega
      · have present := List.count_pos_iff.mpr frame
        omega

end Accounts

/-- The association that waits for its response has a timer, has expired, or its response is
there. -/
structure Waits (assRequest : Option ℕ) (indirects expired : List ℕ) (asks : Bool)
    (response : Prop) : Prop where
  settled : assRequest = none → indirects = [] ∧ expired = []
  answers : ∀ n ∈ assRequest,
    indirects = [n] ∧ expired = [] ∧ asks = true ∨ indirects = [] ∧ expired = [n] ∨
      indirects = [] ∧ expired = [] ∧ response

theorem Waits.mono {assRequest : Option ℕ} {indirects indirects' expired : List ℕ} {asks : Bool}
    {response response' : Prop} (waits : Waits assRequest indirects expired asks response)
    (same : indirects' = indirects) (more : response → response') :
    Waits assRequest indirects' expired asks response' := by
  subst same
  refine ⟨waits.settled, fun n is_ => ?_⟩
  rcases waits.answers n is_ with timer | late | ⟨clear, none_, there⟩
  · exact .inl timer
  · exact .inr (.inl late)
  · exact .inr (.inr ⟨clear, none_, more there⟩)

namespace Mac

/-! ## What the MAC keeps -/

/-- The scans whose steps are scheduled. -/
def steps (w : Mac) : List ℕ :=
  w.callbacks.filterMap Callback.step ++ w.alarms.filterMap Alarm.step

/-- The buffers of received frames that the MAC has. -/
def frames (w : Mac) : List ℕ :=
  w.callbacks.filterMap Callback.frame ++ w.macTxQ.filterMap TxCb.frame ++
    w.txWaitCb.toList.filterMap TxCb.frame

/-- The requests whose frames a transmission may be about. -/
def sending (w : Mac) : List ℕ :=
  w.txWaitCb.toList.filterMap TxCb.request ++ w.pendingDataQueue.map (·.number)

/-- The flags say what the scan has heard. -/
def Hears (w : Mac) (type : ScanType) : Prop :=
  type ≠ .passive ∧ (type = .active → w.gotRealignment = false ∧ w.beaconFound = w.heard) ∧
    (type = .orphan → w.beaconFound = false ∧ w.gotRealignment = w.heard)

/-- The frame of the callback that waits is alone in the transceiver, and comes from its place. -/
structure Transmits (w : Mac) : Prop where
  idle : w.txWaitCb = none → ∀ frame ∈ w.onAir, frame = none
  kinds : ∀ cb ∈ w.txWaitCb, (∀ status, cb.kind ≠ .indirectData status) ∧ cb.kind ≠ .beaconReq
  flies : ∀ cb ∈ w.txWaitCb,
    w.onAir = [some cb] ∧ w.txCnt = false ∨ w.onAir = [] ∧ w.txCnt = true
  sent : ∀ cb ∈ w.txWaitCb, w.txCnt = true → w.TxCareful w.txStatus cb.kind
  result : ∀ cb ∈ w.txWaitCb, w.txCnt = true →
    ∀ call ∈ w.outcome w.txStatus cb, w.results call.1 = some call.2
  data : ∀ cb ∈ w.txWaitCb, cb.kind = .data → w.macStatus = .success
  pending : ∀ cb ∈ w.txWaitCb, cb.kind.usesPendingBuf = true →
    w.pendingBuf = some cb.number ∧ w.scanner = none
  polled : ∀ cb ∈ w.txWaitCb, cb.kind = .dataRequestCmd →
    ∃ entry ∈ w.pendingDataQueue, w.macDataReq = some entry

/-- The scan that steps has `pending_buf`. -/
structure Scans (w : Mac) : Prop where
  quiet : w.scanner = none →
    w.steps = [] ∧ w.mlmeScanInProgress = false ∧ w.beaconFound = false
  runs : ∀ n ∈ w.scanner, w.steps = [n] ∧ w.pendingBuf = some n ∧
    ∃ params, w.scanParams n = some params ∧ w.Hears params.scanType

/-- What the MAC keeps between events: where the buffers are, what the answers say, what is being
sent, a timer for each frame that is kept for a device that polls, the scan that steps, and the
association that waits for its response; one that has expired has its `cb_type` unharmed. -/
structure Sound (w : Mac) : Prop where
  accounts : Accounts w.requests w.issued (w.confirms.map (·.1)) w.held w.assRequest.toList
    w.handed w.frames
  asked : ∀ n, .handleScanRequest n ∈ w.callbacks →
    ∃ params, w.scanParams n = some params ∧ params.scanType ≠ .passive
  status : ∀ call ∈ w.confirms, w.results call.1 = some call.2
  own : ∀ use ∈ w.touched, use.2 = some use.1
  transmits : w.Transmits
  timers : ∀ n, (w.alarms.filterMap Alarm.pending).count n =
    (w.pendingDataQueue.map (·.number)).count n
  scans : w.Scans
  waits : Waits w.assRequest w.indirects w.expired w.indirectDataRequest
    (∃ cb ∈ w.callbacks, cb.response = true)
  late : w.expired ≠ [] →
    w.scanner = none ∧ (w.gotRealignment || w.beaconFound || w.edFields) = false

variable {w : Mac}

/-! ## Buffers that the MAC has -/

theorem filterMap_cons_toList {α : Type} (f : α → Option ℕ) (x : α) (l : List α) :
    (x :: l).filterMap f = (f x).toList ++ l.filterMap f := by
  cases is_ : f x with
  | none => rw [List.filterMap_cons_none is_, Option.toList_none, List.nil_append]
  | some y => rw [List.filterMap_cons_some is_, Option.toList_some, List.singleton_append]

/-- Another use of an operation's own buffer. -/
theorem touches {touched : List (ℕ × Option ℕ)} (own : ∀ use ∈ touched, use.2 = some use.1)
    (n : ℕ) : ∀ use ∈ touched ++ [(n, some n)], use.2 = some use.1 := by
  intro use member
  rcases List.mem_append.mp member with old | new
  · exact own use old
  · rw [List.mem_singleton.mp new]

/-- A request that is on its way is not answered yet. -/
theorem Sound.unanswered (sound : w.Sound) {n : ℕ}
    (waits : 0 < w.held.count n + w.assRequest.toList.count n) :
    ∀ call ∈ w.confirms, call.1 ≠ n := by
  intro call member same
  exact sound.accounts.unanswered waits (List.mem_map.mpr ⟨call, member, same⟩)

/-- What was answered stays as it is when the result of another request is known. -/
theorem Sound.recorded (sound : w.Sound) {n : ℕ}
    (waits : 0 < w.held.count n + w.assRequest.toList.count n) (status : MacStatus) :
    ∀ call ∈ w.confirms, (w.record n status).results call.1 = some call.2 := by
  intro call member
  rw [show (w.record n status).results call.1 = w.results call.1 from
    Function.update_of_ne (sound.unanswered waits call member) _ _]
  exact sound.status call member

/-- A request is answered when its result is known. -/
theorem Sound.answers (sound : w.Sound) {n : ℕ} {status : MacStatus}
    (result : w.results n = some status) :
    ∀ call ∈ w.confirms ++ [(n, status)], w.results call.1 = some call.2 := by
  intro call member
  rcases List.mem_append.mp member with old | new
  · exact sound.status call old
  · rw [List.mem_singleton.mp new]
    exact result

/-- A request is answered with the result that is recorded. -/
theorem Sound.records (sound : w.Sound) {n : ℕ}
    (waits : 0 < w.held.count n + w.assRequest.toList.count n) (status : MacStatus) :
    ∀ call ∈ w.confirms ++ [(n, status)], (w.record n status).results call.1 = some call.2 := by
  intro call member
  rcases List.mem_append.mp member with old | new
  · exact sound.recorded waits status call old
  · rw [List.mem_singleton.mp new]
    exact Function.update_self _ _ _

theorem held_on {n : ℕ} (has : n ∈ w.held) :
    0 < w.held.count n + w.assRequest.toList.count n :=
  Nat.lt_of_lt_of_le (List.count_pos_iff.mpr has) (Nat.le_add_right _ _)

theorem scanRequest_mem_held {n : ℕ} (member : .handleScanRequest n ∈ w.callbacks) :
    n ∈ w.held := by
  simp only [held, List.mem_append, List.mem_filterMap]
  exact .inl (.inl (.inr ⟨_, member, rfl⟩))

theorem step_mem_held {n : ℕ} (steps : w.steps = [n]) : n ∈ w.held := by
  have member : n ∈ w.steps := by simp [steps]
  simp only [Mac.steps, List.mem_append, List.mem_filterMap] at member
  simp only [held, List.mem_append, List.mem_filterMap]
  rcases member with ⟨cb, at_, is_⟩ | ⟨alarm, at_, is_⟩
  · refine .inl (.inl (.inr ⟨cb, at_, ?_⟩))
    cases cb <;> first | exact is_ | cases is_
  · refine .inl (.inr ⟨alarm, at_, ?_⟩)
    cases alarm <;> first | exact is_ | cases is_

theorem sending_count_le (n : ℕ) : w.sending.count n ≤ w.held.count n := by
  simp only [sending, held, List.count_append]
  omega

theorem sending_subset_held {n : ℕ} (member : n ∈ w.sending) : n ∈ w.held :=
  List.count_pos_iff.mp
    (Nat.lt_of_lt_of_le (List.count_pos_iff.mpr member) (sending_count_le n))

theorem wait_mem_held {cb : TxCb} {n : ℕ} (wait : w.txWaitCb = some cb)
    (request : cb.request = some n) : n ∈ w.held :=
  sending_subset_held (by simp [sending, wait, request])

theorem entry_mem_held {entry : PendingData} (member : entry ∈ w.pendingDataQueue) :
    entry.number ∈ w.held :=
  sending_subset_held (List.mem_append_right _ (List.mem_map_of_mem member))

/-- What a transmission decides is about a request that is being sent. -/
theorem Sound.outcome_sending (sound : w.Sound) {cb : TxCb} (wait : w.txWaitCb = some cb)
    {status : Option MacStatus} {call : ℕ × MacStatus} (is_ : w.outcome status cb = some call) :
    call.1 ∈ w.sending := by
  obtain ⟨kind, n⟩ := cb
  cases kind with
  | associate => cases is_
  | orphanResponse =>
    cases is_
    simp [sending, wait, TxCb.request]
  | data =>
    cases is_
    simp [sending, wait, TxCb.request]
  | indirectData hdrStatus => cases is_
  | dataRequestCmd =>
    obtain ⟨entry, member, found⟩ := sound.transmits.polled _ wait rfl
    simp only [outcome, found, Option.map_some, Option.some.injEq] at is_
    subst is_
    exact List.mem_append_right _ (List.mem_map_of_mem member)
  | beaconReq => cases is_

/-- The result of a request that is not being sent may be recorded. -/
theorem Sound.record_sent (sound : w.Sound) {n : ℕ} (other : n ∉ w.sending)
    (status : MacStatus) : (w.record n status).Transmits :=
  { sound.transmits with
    result := fun cb wait done call is_ => by
      have differs : call.1 ≠ n := by
        rintro rfl
        exact other (sound.outcome_sending wait is_)
      rw [show (w.record n status).results call.1 = w.results call.1 from
        Function.update_of_ne differs _ _]
      exact sound.transmits.result cb wait done call is_ }

/-- Nothing waits for the end of a transmission. -/
theorem nobody_waits (wait : w.txWaitCb = none) {p : TxCb → Prop} : ∀ cb ∈ w.txWaitCb, p cb := by
  intro cb is_
  rw [show w.txWaitCb = some cb from is_] at wait
  cases wait

theorem Transmits.silent (wait : w.txWaitCb = none) (idle : ∀ frame ∈ w.onAir, frame = none) :
    w.Transmits :=
  ⟨fun _ => idle, nobody_waits wait, nobody_waits wait, nobody_waits wait, nobody_waits wait,
    nobody_waits wait, nobody_waits wait, nobody_waits wait⟩

/-- A buffer that `pending_buf` has for a transmission was not given away. -/
theorem Sound.pending_kept (sound : w.Sound) {cb : TxCb} (wait : w.txWaitCb = some cb)
    (uses : cb.kind.usesPendingBuf = true) : cb.number ∉ w.handed := by
  obtain ⟨kind, n⟩ := cb
  cases kind with
  | associate => cases uses
  | orphanResponse => exact (sound.accounts.has (wait_mem_held wait rfl)).2
  | data => cases uses
  | indirectData hdrStatus => cases uses
  | dataRequestCmd =>
    have member : n ∈ w.frames := by simp [Mac.frames, wait, TxCb.frame]
    have once := sound.accounts.place n (.inr member)
    have present := List.count_pos_iff.mpr member
    exact List.count_eq_zero.mp (show w.handed.count n = 0 by omega)
  | beaconReq => cases uses

/-- No scan steps: nothing has to be said about the one that does. -/
theorem Scans.idle (idle : w.scanner = none) (steps : w.steps = [])
    (quiet : w.mlmeScanInProgress = false ∧ w.beaconFound = false) : w.Scans :=
  ⟨fun _ => ⟨steps, quiet⟩, fun n scanner => by
    rw [show w.scanner = some n from scanner] at idle
    cases idle⟩

/-- Where a scan steps no association has expired. -/
theorem Sound.timely (sound : w.Sound) (runs : w.scanner ≠ none) : w.expired = [] := by
  by_contra late
  exact runs (sound.late late).1

/-- `pending_buf` may be written: no callback that waits works in it. -/
theorem Free.unused (free : w.Free) {p : TxCb → Prop} :
    ∀ cb ∈ w.txWaitCb, cb.kind.usesPendingBuf = true → p cb := by
  intro cb wait uses
  have quiet := free.2
  simp [show w.txWaitCb = some cb from wait, uses] at quiet

/-- More callbacks do not hide a response. -/
theorem response_append (cb : Callback) (there : ∃ other ∈ w.callbacks, other.response = true) :
    ∃ other ∈ w.callbacks ++ [cb], other.response = true :=
  there.imp fun _ is_ => is_.imp_left (List.mem_append_left _)

/-- A callback that is no step of a scan. -/
theorem steps_append {cb : Callback} (quiet : cb.step = none) :
    (w.callbacks ++ [cb]).filterMap Callback.step ++ w.alarms.filterMap Alarm.step = w.steps := by
  simp [Mac.steps, quiet]

/-! ## Requests -/

/-- A buffer that was not handed back keeps its number. -/
theorem ask_pendingBuf (again : Bool) {n : ℕ} (kept : n ∉ w.handed)
    (pending : w.pendingBuf = some n) : (w.ask again).pendingBuf = some n := by
  have known : ¬(again = true ∧ w.pendingBuf.any (· ∈ w.handed) = true) := by
    simp [pending, kept]
  show (if _ then _ else _) = some n
  rw [if_neg known, pending]

/-- What has `pending_buf` keeps it when a request comes. -/
theorem Sound.ask_transmits (sound : w.Sound) (again : Bool) : (w.ask again).Transmits :=
  { sound.transmits with
    pending := fun cb wait uses => by
      obtain ⟨pending, idle⟩ := sound.transmits.pending cb wait uses
      exact ⟨ask_pendingBuf again (sound.pending_kept wait uses) pending, idle⟩ }

theorem Sound.ask_scans (sound : w.Sound) (again : Bool) : (w.ask again).Scans :=
  { sound.scans with
    runs := fun n scanner => by
      obtain ⟨steps, pending, rest⟩ := sound.scans.runs n scanner
      exact ⟨steps, ask_pendingBuf again (sound.accounts.has (step_mem_held steps)).2 pending,
        rest⟩ }

/-- A request is queued for the transceiver. -/
theorem Sound.queue (sound : w.Sound) (kind : Kind) (again : Bool) {status : MacStatus}
    (request : TxCb.request ⟨kind, w.issued⟩ = some w.issued)
    (frame : TxCb.frame ⟨kind, w.issued⟩ = none)
    (success : status = .success ∨ status = w.macStatus) :
    ({ w.ask again with
      macStatus := status
      macTxQ := w.macTxQ ++ [⟨kind, w.issued⟩] } : Mac).Sound := by
  refine { sound with
    accounts := sound.accounts.ask (fun n => ?_) (fun n => ?_) (fun n => ?_)
    transmits := { sound.ask_transmits again with
      data := fun cb wait is_ => by
        rcases success with rfl | rfl
        · rfl
        · exact sound.transmits.data cb wait is_ }
    scans := { sound.ask_scans again with }
    waits := sound.waits.mono rfl id } <;>
  simp [held, Mac.frames, Mac.ask, Mac.issue, request, frame, List.count_cons] <;>
  omega

theorem Sound.request (sound : w.Sound) {primitive : Primitive} {again : Bool}
    (room : w.macTxQ.length < macQueueSize) : (w.step (.request primitive again)).Sound := by
  cases primitive <;>
    simp only [step, Mac.request, mlmeAssociateRequest, Mac.scheduleTxCb, Queues.scheduleTxCb,
      Mac.ask, Mac.issue, room, if_true] <;>
    exact sound.queue _ again rfl rfl (by simp)

/-- The parameters of a new scan are in a buffer of its own. -/
theorem Sound.ask_asked (sound : w.Sound) (params : ScanParams) {n : ℕ}
    (member : .handleScanRequest n ∈ w.callbacks) :
    ∃ known, Function.update w.scanParams w.issued (some params) n = some known ∧
      known.scanType ≠ .passive := by
  have old := sound.accounts.fresh.2 n (sound.accounts.of_held (scanRequest_mem_held member))
  rw [Function.update_of_ne (Nat.ne_of_lt old)]
  exact sound.asked n member

theorem Sound.startScan (sound : w.Sound) {params : ScanParams} (again : Bool) (free : w.Free)
    (known : params.scanType ≠ .passive) :
    ({ w.ask again with
      scanParams := Function.update w.scanParams w.issued (some params)
      macStatus := .success
      pendingBuf := some w.issued
      callbacks := w.callbacks ++ [.handleScanRequest w.issued] } : Mac).Sound := by
  obtain ⟨stopped, quiet⟩ := sound.scans.quiet free.1
  refine { sound with
    accounts := sound.accounts.ask (fun n => ?_) (fun n => ?_) (fun n => ?_)
    asked := fun n member => by
      rcases List.mem_append.mp member with old | new
      · exact sound.ask_asked params old
      · obtain rfl : n = w.issued := by simpa using new
        exact ⟨params, Function.update_self _ _ _, known⟩
    transmits := { sound.transmits with
      data := fun cb wait is_ => rfl
      pending := free.unused }
    scans := .idle free.1 ((steps_append rfl).trans stopped) quiet
    waits := sound.waits.mono rfl (response_append _) } <;>
  simp [held, Mac.frames, Mac.ask, Mac.issue, filterMap_cons_toList, Callback.request,
    Callback.frame, List.count_cons] <;>
  omega

/-- A request is answered in its own buffer at once. -/
theorem Sound.refuse (sound : w.Sound) {status : MacStatus} {buf : Option ℕ}
    {scanParams : ℕ → Option ScanParams} {mac : MacStatus}
    {touched : List (ℕ × Option ℕ)} (own : ∀ use ∈ touched, use.2 = some use.1)
    (asked : ∀ n, .handleScanRequest n ∈ w.callbacks →
      ∃ params, scanParams n = some params ∧ params.scanType ≠ .passive)
    (quiet : mac = .success ∨ w.txWaitCb.any (·.kind == .data) = false)
    (pending : ∀ cb ∈ w.txWaitCb, cb.kind.usesPendingBuf = true →
      buf = some cb.number ∧ w.scanner = none)
    (runs : ∀ n ∈ w.scanner, w.steps = [n] ∧ buf = some n ∧
      ∃ params, scanParams n = some params ∧ w.Hears params.scanType) :
    ({ w with
      scanParams := scanParams
      macStatus := mac
      pendingBuf := buf
      requests := w.requests ++ [w.issued]
      issued := w.issued + 1
      touched := touched
      confirms := w.confirms ++ [(w.issued, status)]
      handed := w.handed ++ [w.issued] }.record w.issued status).Sound := by
  have unsent : w.issued ∉ w.sending := fun sends =>
    sound.accounts.unused (sound.accounts.of_held (sending_subset_held sends))
  refine { sound with
    accounts := sound.accounts.ask (fun n => ?_) (fun n => ?_) (fun n => Nat.le_refl _)
    asked := asked
    status := fun call member => ?_
    own := own
    transmits := { sound.record_sent unsent status with
      data := fun cb wait is_ => by
        rcases quiet with success | quiet
        · exact success
        · simp [show w.txWaitCb = some cb from wait, is_] at quiet
      pending := pending }
    scans := { sound.scans with runs := runs } }
  · simp only [record, List.map_append, List.map_cons, List.map_nil, List.count_append,
      List.count_singleton, beq_iff_eq]
    show _ + w.held.count n + _ = _
    omega
  · simp only [record, List.count_append, List.count_singleton, beq_iff_eq]
    show _ + w.held.count n + w.frames.count n = _
    omega
  · show Function.update w.results w.issued _ call.1 = some call.2
    rcases List.mem_append.mp member with old | new
    · have before := sound.accounts.of_answered (List.mem_map_of_mem (f := fun call => call.1) old)
      rw [Function.update_of_ne (Nat.ne_of_lt (sound.accounts.fresh.2 _ before))]
      exact sound.status call old
    · rw [List.mem_singleton.mp new]
      exact Function.update_self _ _ _

theorem Sound.refuseScan (sound : w.Sound) {params : ScanParams} {again : Bool}
    (own : (w.ask again).pendingBuf = some w.issued)
    (quiet : w.txWaitCb.any (·.kind == .data) = false) :
    (({ w.ask again with
      scanParams := Function.update w.scanParams w.issued (some params)
      macStatus := .invalidParameter }.record w.issued .invalidParameter).confirm w.issued
        (w.ask again).pendingBuf .invalidParameter).Sound := by
  rw [own]
  refine sound.refuse (touches sound.own _) (fun n => sound.ask_asked params) (.inr quiet)
    (sound.ask_transmits again).pending fun n scanner => ?_
  obtain ⟨steps, pending, -⟩ := (sound.ask_scans again).runs n scanner
  have same := pending.symm.trans own
  exact absurd (sound.accounts.of_held (step_mem_held (w := w) steps))
    (Option.some.inj same ▸ sound.accounts.unused)

theorem Sound.scan (sound : w.Sound) {params : ScanParams} {valid again : Bool}
    (careful : w.Careful (.scan params valid again)) :
    (w.step (.scan params valid again)).Sound := by
  simp only [Careful] at careful
  simp only [step, mlmeScanRequest]
  split at careful
  · next refused =>
    rw [if_neg (by simp [refused])]
    simp only [refused, not_false_eq_true, if_true, and_self, ne_eq]
    exact sound.refuseScan careful.1 careful.2
  · next accepted =>
    obtain ⟨free, known⟩ := careful
    have idle : (w.ask again).mlmeScanInProgress = false := (sound.scans.quiet free.1).2.1
    rw [if_pos ⟨accepted, idle⟩, if_neg accepted]
    exact sound.startScan again free known

/-- The timer of a frame that is kept is neither a step of a scan nor for a response. -/
theorem Sound.keep (sound : w.Sound) {number : ℕ} {response : Bool} {status : MacStatus} (n : ℕ) :
    ((w.alarms ++ [Alarm.pendingDataTimeout number]).filterMap Alarm.pending).count n =
      ((w.pendingDataQueue ++ [PendingData.mk number response status]).map (·.number)).count n := by
  have timers := sound.timers n
  simp only [List.filterMap_append, List.filterMap_cons, List.filterMap_nil, Alarm.pending,
    List.map_append, List.map_cons, List.map_nil, List.count_append]
  omega

theorem indirects_keep (number : ℕ) :
    (w.alarms ++ [Alarm.pendingDataTimeout number]).filterMap Alarm.indirect = w.indirects := by
  simp [Mac.indirects, Alarm.indirect]

theorem steps_keep (number : ℕ) : w.callbacks.filterMap Callback.step ++
    (w.alarms ++ [Alarm.pendingDataTimeout number]).filterMap Alarm.step = w.steps := by
  simp [Mac.steps, Alarm.step]

/-- An association response is kept for its device. -/
theorem Sound.keepResponse (sound : w.Sound) (again : Bool) (free : w.Free) :
    ({ w.ask again with
      touched := w.touched ++ [(w.issued, some w.issued)]
      macStatus := .success
      pendingBuf := some w.issued
      pendingDataQueue := w.pendingDataQueue ++ [⟨w.issued, true, .success⟩]
      alarms := w.alarms ++ [.pendingDataTimeout w.issued] } : Mac).Sound := by
  obtain ⟨stopped, quiet⟩ := sound.scans.quiet free.1
  refine { sound with
    accounts := sound.accounts.ask (fun n => ?_) (fun n => ?_) (fun n => Nat.le_refl _)
    own := touches sound.own _
    transmits := { sound.transmits with
      data := fun cb wait is_ => rfl
      pending := free.unused
      polled := fun cb wait is_ =>
        have ⟨entry, member, found⟩ := sound.transmits.polled cb wait is_
        ⟨entry, List.mem_append_left _ member, found⟩ }
    timers := sound.keep
    scans := .idle free.1 ((steps_keep w.issued).trans stopped) quiet
    waits := sound.waits.mono (indirects_keep w.issued) id } <;>
  simp [held, Mac.frames, Mac.ask, Mac.issue, filterMap_cons_toList, Alarm.request,
    List.count_cons] <;>
  omega

theorem Sound.associateResponse (sound : w.Sound) {joinedPro armed again : Bool}
    (careful : w.Careful (.associateResponse joinedPro armed again)) :
    (w.step (.associateResponse joinedPro armed again)).Sound := by
  obtain ⟨free, rfl, room⟩ := careful
  split at room
  · next slot =>
    subst room
    simp only [Mac.step, mlmeAssociateResponse, touch, putData, scheduleAlarm, Mac.ask, Mac.issue,
      slot, if_true]
    exact sound.keepResponse again free
  · next full =>
    simp only [Mac.step, mlmeAssociateResponse, touch, record, confirm, Mac.ask, Mac.issue, full,
      if_false]
    refine sound.refuse (touches (touches sound.own _) _) sound.asked (.inr room) free.unused
      fun n scanner => ?_
    have idle := free.1
    simp [show w.scanner = some n from scanner] at idle

/-! ## Received frames -/

/-- What is not in the cancelled entry stays. -/
theorem filterMap_eraseP {α β : Type} {f : α → Option β} {p : α → Bool}
    (other : ∀ x, p x = true → f x = none) (l : List α) :
    (l.eraseP p).filterMap f = l.filterMap f := by
  induction l with
  | nil => rfl
  | cons x rest induction_ =>
    by_cases first : p x = true
    · rw [List.eraseP_cons_of_pos first, List.filterMap_cons_none (other x first)]
    · rw [List.eraseP_cons_of_neg first, List.filterMap_cons, List.filterMap_cons, induction_]

/-- The first entry of its kind is cancelled. -/
theorem filterMap_eraseP_isSome {α β : Type} (f : α → Option β) (l : List α) :
    (l.eraseP fun x => (f x).isSome).filterMap f = (l.filterMap f).tail := by
  induction l with
  | nil => rfl
  | cons x rest induction_ =>
    cases is_ : f x with
    | none =>
      rw [List.eraseP_cons_of_neg (by simp [is_]), List.filterMap_cons_none is_,
        List.filterMap_cons_none is_, induction_]
    | some y =>
      rw [List.eraseP_cons_of_pos (by simp [is_]), List.filterMap_cons_some is_]
      rfl

/-- The callback of a received frame is scheduled: its buffer has a new number. -/
theorem Sound.frame (sound : w.Sound) {cb : Callback} (request : cb.request = none)
    (step : cb.step = none) (new : cb.frame = none ∨ cb.frame = some w.issued) :
    (w.issue.scheduleCallback cb).Sound := by
  obtain ⟨buffers, most, one⟩ : ∃ buffers ≤ 1, ∀ n,
      cb.frame.toList.count n = if w.issued = n then buffers else 0 := by
    rcases new with none_ | new
    · exact ⟨0, Nat.zero_le _, fun n => by simp [none_]⟩
    · exact ⟨1, Nat.le_refl _, fun n => by simp [new, List.count_singleton]⟩
  have requests : (w.callbacks ++ [cb]).filterMap Callback.request =
      w.callbacks.filterMap Callback.request := by
    simp [request]
  have frames : ∀ n, (w.issue.scheduleCallback cb).frames.count n =
      w.frames.count n + if w.issued = n then buffers else 0 := by
    intro n
    simp only [Mac.frames, scheduleCallback, Mac.issue, List.filterMap_append,
      filterMap_cons_toList, List.filterMap_nil, List.count_append, List.count_nil, one]
    omega
  exact { sound with
    accounts := sound.accounts.issue
      (fun n => by simp only [held, scheduleCallback, Mac.issue, requests]) most
      (fun n => by
        rw [frames n]
        simp only [held, scheduleCallback, Mac.issue, requests]
        omega)
      fun n => Nat.le_of_eq (frames n)
    asked := fun n member => by
      rcases List.mem_append.mp member with old | last
      · exact sound.asked n old
      · rw [← List.mem_singleton.mp last] at request
        cases request
    transmits := { sound.transmits with }
    scans := {
      quiet := fun idle => (sound.scans.quiet idle).imp_left (steps_append step).trans
      runs := fun n scanner => (sound.scans.runs n scanner).imp_left (steps_append step).trans }
    waits := sound.waits.mono rfl (response_append cb) }

/-- A frame for this device cancels the timer, when the response is there. -/
theorem Sound.gotIndirectData (sound : w.Sound) {direct : Bool}
    (there : w.indirects ≠ [] → direct = true → ∃ cb ∈ w.callbacks, cb.response = true) :
    (w.gotIndirectData direct).Sound := by
  unfold Mac.gotIndirectData
  split
  · next cancels =>
    have direct : direct = true := by simp_all
    have other : ∀ {f : Alarm → Option ℕ}, (∀ n, f (.indirectDataTimeout n) = none) →
        (w.alarms.eraseP (·.indirect.isSome)).filterMap f = w.alarms.filterMap f := by
      intro f none_
      refine filterMap_eraseP (fun alarm is_ => ?_) _
      cases alarm <;> first | exact none_ _ | cases is_
    have requests := other (f := Alarm.request) fun _ => rfl
    have steps := other (f := Alarm.step) fun _ => rfl
    have timers := other (f := Alarm.pending) fun _ => rfl
    have cancelled : (w.alarms.eraseP (·.indirect.isSome)).filterMap Alarm.indirect =
        w.indirects.tail := filterMap_eraseP_isSome Alarm.indirect w.alarms
    have kept : w.callbacks.filterMap Callback.step ++
        (w.alarms.eraseP (·.indirect.isSome)).filterMap Alarm.step = w.steps := by
      rw [steps]
      rfl
    exact { sound with
      accounts := sound.accounts.move (fun n => by simp only [held, requests])
        (fun n => by
          simp only [held, requests]
          rfl) fun n => Nat.le_refl _
      transmits := { sound.transmits with }
      timers := fun n => (congrArg (List.count n) timers).trans (sound.timers n)
      scans := {
        quiet := fun idle => (sound.scans.quiet idle).imp_left kept.trans
        runs := fun n scanner => (sound.scans.runs n scanner).imp_left kept.trans }
      waits := {
        settled := fun none_ => by
          obtain ⟨clear, late⟩ := sound.waits.settled none_
          rw [clear] at cancelled
          exact ⟨cancelled, late⟩
        answers := fun n is_ => by
          rcases sound.waits.answers n is_ with ⟨one, late, -⟩ | ⟨clear, late⟩ | ⟨clear, rest⟩
          · rw [one] at cancelled
            exact .inr (.inr ⟨cancelled, late, there (by simp [one]) direct⟩)
          · rw [clear] at cancelled
            exact .inr (.inl ⟨cancelled, late⟩)
          · rw [clear] at cancelled
            exact .inr (.inr ⟨cancelled, rest⟩) } }
  · exact sound

/-- A beacon comes while no orphan scan steps. -/
theorem Sound.beacon (sound : w.Sound) (other : w.scanType w.scanner ≠ some .orphan) :
    w.beacon.Sound := by
  unfold Mac.beacon
  split
  · next runs =>
    have steps : w.scanner ≠ none := by
      intro idle
      have stopped := (sound.scans.quiet idle).2.1
      rw [runs] at stopped
      cases stopped
    exact { sound with
      transmits := { sound.transmits with }
      scans := {
        quiet := fun idle => absurd idle steps
        runs := fun n scanner => by
          obtain ⟨steps, pending, params, known, proper, active, -⟩ := sound.scans.runs n scanner
          have is_ : w.scanType w.scanner = some params.scanType := by
            simp [scanType, show w.scanner = some n from scanner, known]
          refine ⟨steps, pending, params, known, proper, fun type => ⟨(active type).1, ?_⟩,
            fun type => ?_⟩
          · simp [is_, type]
          · exact absurd (is_.trans (congrArg some type)) other }
      late := fun late => absurd (sound.timely steps) late }
  · exact sound

/-- The callback is scheduled after the timer was cancelled, or before: it is the same. -/
theorem gotIndirectData_scheduleCallback (direct : Bool) (cb : Callback) :
    (w.gotIndirectData direct).scheduleCallback cb =
      (w.scheduleCallback cb).gotIndirectData direct := by
  by_cases cancels : (w.indirectDataRequest && direct) = true <;>
    simp [Mac.gotIndirectData, scheduleCallback, cancels]

/-- A frame comes whose callback is scheduled. -/
theorem Sound.receiveFrame (sound : w.Sound) {frame : Frame} {cb : Callback}
    (only : w.indirects ≠ [] → frame.direct = true → frame.response = true)
    (request : cb.request = none) (step : cb.step = none)
    (new : cb.frame = none ∨ cb.frame = some w.issued)
    (response : frame.response = true → cb.response = true) :
    ((w.issue.gotIndirectData frame.direct).scheduleCallback cb).Sound := by
  rw [gotIndirectData_scheduleCallback]
  refine (sound.frame request step new).gotIndirectData fun timer direct => ?_
  exact ⟨cb, List.mem_append_right _ (List.mem_singleton_self cb), response (only timer direct)⟩

/-- A frame comes that is not scheduled. -/
theorem Sound.issue (sound : w.Sound) : w.issue.Sound :=
  { sound with
    accounts := sound.accounts.issue (fun n => rfl) (Nat.zero_le 1)
      (fun n => by
        rw [ite_self]
        rfl) fun n => Nat.le_add_right _ _
    transmits := { sound.transmits with }
    scans := { sound.scans with } }

theorem Sound.receive (sound : w.Sound) {frame : Frame} (careful : w.Careful (.receive frame)) :
    (w.receive frame).Sound := by
  obtain ⟨only, other⟩ := careful
  cases frame with
  | data direct accepted =>
    exact sound.receiveFrame only rfl rfl (.inr rfl) fun is_ => by cases is_
  | associationRequest =>
    exact sound.receiveFrame only rfl rfl (.inr rfl) fun is_ => by cases is_
  | associationResponse status =>
    exact sound.receiveFrame only rfl rfl (.inr rfl) fun _ => rfl
  | dataRequest direct =>
    exact sound.receiveFrame only rfl rfl (.inr rfl) fun is_ => by cases is_
  | beaconRequest =>
    exact sound.receiveFrame only rfl rfl (.inr rfl) fun is_ => by cases is_
  | realignment direct =>
    exact sound.receiveFrame only rfl rfl (.inl rfl) fun is_ => by cases is_
  | beacon =>
    have missed : w.issue.gotIndirectData false = w.issue := by simp [Mac.gotIndirectData]
    show (w.issue.gotIndirectData false).beacon.Sound
    rw [missed]
    exact sound.issue.beacon (other rfl)

/-! ## Transmissions -/

theorem Sound.complete (sound : w.Sound) {status : Option MacStatus}
    (careful : w.Careful (.complete status)) : (w.txComplete status).Sound := by
  unfold txComplete
  split
  · exact sound
  · next frame rest air =>
    obtain ⟨wait, is_⟩ : ∃ wait, w.txWaitCb = wait := ⟨_, rfl⟩
    cases wait with
    | none =>
      have beacons := sound.transmits.idle is_
      rw [air] at beacons
      obtain rfl : frame = none := beacons frame (List.mem_cons_self ..)
      exact { sound with
        transmits := .silent is_ fun other member => beacons other (List.mem_cons_of_mem _ member)
        scans := { sound.scans with } }
    | some cb =>
      obtain ⟨rfl, rfl⟩ : frame = some cb ∧ rest = [] := by
        rcases sound.transmits.flies cb is_ with ⟨sends, -⟩ | ⟨gone, -⟩
        · simpa [eq_comm] using sends.symm.trans air
        · simp [gone] at air
      have only : ∀ other ∈ w.txWaitCb, other = cb := fun other wait =>
        Option.some.inj (wait.symm.trans is_)
      unfold Mac.settle
      cases decided : (some cb).bind (w.outcome status) with
      | none =>
        have undecided : w.outcome status cb = none := decided
        have after : (some cb).bind (({ w with
            onAir := [], txCnt := true, txStatus := status } : Mac).outcome status) = none := decided
        rw [after]
        exact { sound with
          transmits := { sound.transmits with
            idle := fun _ frame member => by cases member
            flies := fun _ _ => .inr ⟨rfl, rfl⟩
            sent := fun other wait _ => careful other wait
            result := fun other wait _ call is_ => by
              have found : w.outcome status other = some call := is_
              rw [only other wait, undecided] at found
              cases found }
          scans := { sound.scans with } }
      | some call =>
        have decides : w.outcome status cb = some call := decided
        have after : (some cb).bind (({ w with
            onAir := [], txCnt := true, txStatus := status } : Mac).outcome status) =
            some call := decided
        have has := sending_subset_held (sound.outcome_sending is_ decides)
        rw [after]
        exact { sound with
          status := sound.recorded (held_on has) call.2
          transmits := { sound.transmits with
            idle := fun _ frame member => by cases member
            flies := fun _ _ => .inr ⟨rfl, rfl⟩
            sent := fun other wait _ => careful other wait
            result := fun other wait _ call' is_ => by
              have found : w.outcome status other = some call' := is_
              rw [only other wait, decides] at found
              cases found
              exact Function.update_self _ _ _ }
          scans := { sound.scans with } }

/-- A frame without a callback is sent while the transceiver has no other. -/
theorem sendAndWait_eq (air : w.onAir = []) (status : Option MacStatus) :
    w.sendAndWait status = { w with txCnt := true, txStatus := status } := by
  simp [sendAndWait, transSendCommand, txComplete, Mac.settle, air]

/-- The first callback of the queue sends its frame. -/
theorem Sound.send (sound : w.Sound) (wait : w.txWaitCb = none) {cb : TxCb} {rest : List TxCb}
    (queue : w.macTxQ = cb :: rest) {buf : Option ℕ} {status : MacStatus}
    {dataReq : Option PendingData}
    (kinds : (∀ status, cb.kind ≠ .indirectData status) ∧ cb.kind ≠ .beaconReq)
    (data : cb.kind = .data → status = .success)
    (pending : w.scanner = none ∧ buf = some cb.number ∨
      buf = w.pendingBuf ∧ cb.kind.usesPendingBuf = false)
    (polled : cb.kind = .dataRequestCmd → ∃ entry ∈ w.pendingDataQueue, dataReq = some entry) :
    ({ w with
      macTxQ := rest
      touched := w.touched ++ [(cb.number, some cb.number)]
      pendingBuf := buf
      macStatus := status
      macDataReq := dataReq
      txCnt := false
      onAir := [some cb]
      txWaitCb := some cb } : Mac).Sound := by
  have only : ∀ other, some cb = some other → cb = other := fun _ => Option.some.inj
  refine { sound with
    accounts := sound.accounts.move (fun n => ?_) (fun n => ?_) (fun n => ?_)
    own := touches sound.own _
    transmits := {
      idle := fun none_ => by cases none_
      kinds := fun other is_ => only other is_ ▸ kinds
      flies := fun other is_ => .inl ⟨by rw [only other is_], rfl⟩
      sent := fun _ _ done => by cases done
      result := fun _ _ done => by cases done
      data := fun other is_ kind => data (only other is_ ▸ kind)
      pending := fun other is_ uses => by
        obtain rfl := only other is_
        rcases pending with ⟨idle, own⟩ | ⟨-, not_⟩
        · exact ⟨own, idle⟩
        · rw [uses] at not_
          cases not_
      polled := fun other is_ kind => polled (only other is_ ▸ kind) }
    scans := { sound.scans with
      runs := fun n scanner => by
        rcases pending with ⟨idle, -⟩ | ⟨same, -⟩
        · simp [show w.scanner = some n from scanner] at idle
        · obtain ⟨steps, has, rest⟩ := sound.scans.runs n scanner
          exact ⟨steps, same.trans has, rest⟩ } } <;>
  simp [held, Mac.frames, queue, wait, filterMap_cons_toList] <;>
  omega

/-- The first callback of the queue keeps its frame for a device that polls. -/
theorem Sound.keepData (sound : w.Sound) (wait : w.txWaitCb = none) {n : ℕ} {status : MacStatus}
    {rest : List TxCb} (queue : w.macTxQ = ⟨.indirectData status, n⟩ :: rest)
    (idle : w.scanner = none) :
    ({ w with
      macTxQ := rest
      touched := w.touched ++ [(n, some n)]
      pendingBuf := some n
      macStatus := .success
      pendingDataQueue := w.pendingDataQueue ++ [⟨n, false, status⟩]
      alarms := w.alarms ++ [.pendingDataTimeout n] } : Mac).Sound := by
  obtain ⟨stopped, quiet⟩ := sound.scans.quiet idle
  refine { sound with
    accounts := sound.accounts.move (fun n => ?_) (fun n => ?_) (fun n => ?_)
    own := touches sound.own _
    transmits := .silent wait (sound.transmits.idle wait)
    timers := sound.keep
    scans := .idle idle ((steps_keep n).trans stopped) quiet
    waits := sound.waits.mono (indirects_keep n) id } <;>
  simp [held, Mac.frames, queue, TxCb.request, TxCb.frame, Alarm.request, filterMap_cons_toList,
    List.count_cons] <;>
  omega

/-- There is nothing for the device that polls: the command is given away. -/
theorem Sound.dropCommand (sound : w.Sound) (wait : w.txWaitCb = none) {n : ℕ}
    {rest : List TxCb} (queue : w.macTxQ = ⟨.dataRequestCmd, n⟩ :: rest)
    (idle : w.scanner = none) :
    ({ w with
      macTxQ := rest
      touched := w.touched ++ [(n, some n)]
      pendingBuf := none
      macStatus := .success
      handed := w.handed ++ [n] } : Mac).Sound := by
  obtain ⟨stopped, quiet⟩ := sound.scans.quiet idle
  refine { sound with
    accounts := sound.accounts.move (fun n => ?_) (fun n => ?_) (fun n => ?_)
    own := touches sound.own _
    transmits := .silent wait (sound.transmits.idle wait)
    scans := .idle idle stopped quiet } <;>
  simp [held, Mac.frames, queue, TxCb.request, TxCb.frame, filterMap_cons_toList,
    List.count_cons] <;>
  omega

/-- A beacon is sent, or nothing. -/
theorem Sound.sendBeacon (sound : w.Sound) (wait : w.txWaitCb = none) {n : ℕ}
    {rest : List TxCb} (queue : w.macTxQ = ⟨.beaconReq, n⟩ :: rest) (txCnt : Bool)
    (onAir : List (Option TxCb)) (air : ∀ frame ∈ onAir, frame ∈ w.onAir ∨ frame = none) :
    ({ w with macTxQ := rest, txCnt := txCnt, onAir := onAir } : Mac).Sound := by
  refine { sound with
    accounts := sound.accounts.move (fun n => ?_) (fun n => ?_) (fun n => ?_)
    transmits := .silent wait fun frame member =>
      (air frame member).elim (sound.transmits.idle wait frame) id
    scans := { sound.scans with } } <;>
  simp only [held, Mac.frames, queue, TxCb.request, TxCb.frame, reduceCtorEq, if_false,
    filterMap_cons_toList, Option.toList_none, List.nil_append, Nat.le_refl]

theorem Sound.callTxCb (sound : w.Sound) (wait : w.txWaitCb = none) {cb : TxCb}
    {rest : List TxCb} (queue : w.macTxQ = cb :: rest) {ready armed : Bool}
    {found : Option PendingData} (careful : w.SendCareful ready armed found cb.kind) :
    (({ w with macTxQ := rest } : Mac).callTxCb cb.number ready armed found cb.kind).Sound := by
  obtain ⟨kind, n⟩ := cb
  cases kind with
  | associate =>
    have air : w.onAir = [] := careful
    simp only [Mac.callTxCb, mlmeSendAssociationReqCmd, transSendCommand, touch, air,
      List.nil_append]
    exact sound.send wait queue (by simp) (by simp) (.inr ⟨rfl, rfl⟩) (by simp)
  | orphanResponse =>
    obtain ⟨free, air⟩ := careful
    simp only [Mac.callTxCb, handleOrphanResponse, transSendCommand, touch, air, List.nil_append]
    exact sound.send wait queue (by simp) (by simp) (.inl ⟨free.1, rfl⟩) (by simp)
  | data =>
    obtain ⟨free, rfl, air⟩ := careful
    simp only [Mac.callTxCb, handleMcpsDataReq, transSendCommand, touch, air, List.nil_append,
      if_true]
    exact sound.send wait queue (by simp) (fun _ => rfl) (.inl ⟨free.1, rfl⟩) (by simp)
  | indirectData status =>
    obtain ⟨free, rfl, slot, rfl⟩ := careful
    simp only [Mac.callTxCb, handleIndirectDataReq, putData, scheduleAlarm, touch, slot, if_true]
    exact sound.keepData wait queue free.1
  | dataRequestCmd =>
    obtain ⟨free, finds⟩ := careful
    cases is_ : found.filter (· ∈ w.pendingDataQueue) with
    | none =>
      simp only [Mac.callTxCb, acceptDataRequestCmd, is_, touch]
      exact sound.dropCommand wait queue free.1
    | some entry =>
      obtain ⟨rfl, member⟩ : found = some entry ∧ entry ∈ w.pendingDataQueue := by
        simpa [Option.filter_eq_some_iff] using is_
      obtain ⟨rfl, air⟩ := finds (by simpa using member)
      simp only [Mac.callTxCb, acceptDataRequestCmd, is_, touch, transSendCommand, air,
        List.nil_append, if_true]
      exact sound.send wait queue (by simp) (by simp) (.inl ⟨free.1, rfl⟩)
        fun _ => ⟨entry, member, rfl⟩
  | beaconReq =>
    cases ready with
    | true =>
      refine sound.sendBeacon wait queue false (w.onAir ++ [none]) fun frame member => ?_
      simpa using member
    | false =>
      exact sound.sendBeacon wait queue w.txCnt w.onAir fun frame member => .inl member

/-- When the callback that waits is called the transceiver has no frame. -/
theorem Sound.aired (sound : w.Sound) {cb : TxCb} (wait : w.txWaitCb = some cb)
    (done : w.txCnt = true) : ∀ frame ∈ w.onAir, frame = none := by
  rcases sound.transmits.flies cb wait with ⟨-, busy⟩ | ⟨gone, -⟩
  · rw [done] at busy
    cases busy
  · rw [gone]
    exact fun frame member => by cases member

/-- The callback that waited answers its request. -/
theorem Sound.answer (sound : w.Sound) {cb : TxCb} (wait : w.txWaitCb = some cb)
    (done : w.txCnt = true) (request : cb.request = some cb.number) (frame : cb.frame = none)
    {status mac : MacStatus} (result : w.results cb.number = some status) {buf : Option ℕ}
    {touched : List (ℕ × Option ℕ)} (own : ∀ use ∈ touched, use.2 = some use.1)
    (idle : w.scanner = none) {txStatus : Option MacStatus} :
    ({ w with
      txCnt := true
      txStatus := txStatus
      macStatus := mac
      touched := touched
      confirms := w.confirms ++ [(cb.number, status)]
      handed := w.handed ++ [cb.number]
      pendingBuf := buf
      txWaitCb := none } : Mac).Sound := by
  obtain ⟨stopped, quiet⟩ := sound.scans.quiet idle
  refine { sound with
    accounts := sound.accounts.move (fun n => ?_) (fun n => ?_) (fun n => ?_)
    status := sound.answers result
    own := own
    transmits := .silent rfl (sound.aired wait done)
    scans := .idle idle stopped quiet } <;>
  simp [held, Mac.frames, wait, request, frame, List.count_cons] <;>
  omega

/-- The association request is sent: its timer starts. -/
theorem Sound.startTimer (sound : w.Sound) {n : ℕ} (wait : w.txWaitCb = some ⟨.associate, n⟩)
    (done : w.txCnt = true) {txStatus : Option MacStatus} :
    ({ w with
      txCnt := true
      txStatus := txStatus
      alarms := w.alarms ++ [.respTimeout n]
      txWaitCb := none } : Mac).Sound := by
  have steps : w.callbacks.filterMap Callback.step ++
      (w.alarms ++ [Alarm.respTimeout n]).filterMap Alarm.step = w.steps := by
    simp [Mac.steps, Alarm.step]
  refine { sound with
    accounts := sound.accounts.move (fun n => ?_) (fun n => ?_) (fun n => ?_)
    transmits := .silent rfl (sound.aired wait done)
    timers := fun k => by
      rw [List.filterMap_append, List.filterMap_cons_none rfl, List.filterMap_nil,
        List.append_nil]
      exact sound.timers k
    scans := {
      quiet := fun idle => (sound.scans.quiet idle).imp_left steps.trans
      runs := fun k scanner => (sound.scans.runs k scanner).imp_left steps.trans }
    waits := sound.waits.mono (by simp [Mac.indirects, Alarm.indirect]) id } <;>
  simp [held, Mac.frames, wait, TxCb.request, TxCb.frame, Alarm.request, filterMap_cons_toList,
    List.count_cons] <;>
  omega

/-- Taking an entry takes what it stands for. -/
theorem filterMap_erase_perm {α β : Type} [DecidableEq α] {f : α → Option β} {a : α} {b : β}
    {l : List α} (member : a ∈ l) (is_ : f a = some b) :
    (l.filterMap f).Perm (b :: (l.erase a).filterMap f) := by
  have same := (List.perm_cons_erase member).filterMap f
  rwa [List.filterMap_cons_some is_] at same

theorem filterMap_erase {α β : Type} [DecidableEq α] {f : α → Option β} {a : α}
    (none_ : f a = none) (l : List α) : (l.erase a).filterMap f = l.filterMap f := by
  rw [List.erase_eq_eraseP']
  refine filterMap_eraseP (fun x same => ?_) l
  rwa [eq_of_beq same]

/-- A frame that is kept leaves the queue. -/
theorem map_number_erase {entry : PendingData} (member : entry ∈ w.pendingDataQueue) :
    (w.pendingDataQueue.map (·.number)).Perm
      (entry.number :: (w.pendingDataQueue.erase entry).map (·.number)) :=
  (List.perm_cons_erase member).map _

theorem Sound.timer_runs (sound : w.Sound) {entry : PendingData}
    (member : entry ∈ w.pendingDataQueue) : .pendingDataTimeout entry.number ∈ w.alarms := by
  have timers := sound.timers entry.number
  have present : 0 < (w.pendingDataQueue.map (·.number)).count entry.number :=
    List.count_pos_iff.mpr (List.mem_map_of_mem member)
  rw [← timers] at present
  obtain ⟨alarm, there, is_⟩ := List.mem_filterMap.mp (List.count_pos_iff.mp present)
  cases alarm with
  | scanStep n => cases is_
  | respTimeout n => cases is_
  | indirectDataTimeout n => cases is_
  | pendingDataTimeout n =>
    cases is_
    exact there

/-- Each frame that is left has its timer. -/
theorem Sound.timers_erase (sound : w.Sound) {entry : PendingData}
    (member : entry ∈ w.pendingDataQueue) (n : ℕ) :
    ((w.alarms.erase (.pendingDataTimeout entry.number)).filterMap Alarm.pending).count n =
      ((w.pendingDataQueue.erase entry).map (·.number)).count n := by
  have timers := sound.timers n
  have alarms := (filterMap_erase_perm (f := Alarm.pending) (sound.timer_runs member)
    rfl).count_eq n
  have entries := (map_number_erase member).count_eq n
  rw [List.count_cons] at alarms entries
  omega

/-- An alarm ends that is no step of a scan. -/
theorem steps_erase {alarm : Alarm} (quiet : alarm.step = none) :
    w.callbacks.filterMap Callback.step ++ (w.alarms.erase alarm).filterMap Alarm.step =
      w.steps := by
  rw [filterMap_erase quiet]
  rfl

/-- The frame was sent to the device that polls: its request is answered, and the command is given
away. -/
theorem Sound.polledAnswer (sound : w.Sound) {buf : ℕ}
    (wait : w.txWaitCb = some ⟨.dataRequestCmd, buf⟩) (done : w.txCnt = true)
    {entry : PendingData} (member : entry ∈ w.pendingDataQueue) {status mac : MacStatus}
    (result : w.results entry.number = some status) {touched : List (ℕ × Option ℕ)}
    (own : ∀ use ∈ touched, use.2 = some use.1) {handed : List ℕ}
    (gives : handed.Perm (entry.number :: buf :: w.handed)) {dataReq : Option PendingData} :
    ({ w with
      txCnt := true
      macDataReq := dataReq
      macStatus := mac
      touched := touched
      confirms := w.confirms ++ [(entry.number, status)]
      handed := handed
      pendingBuf := none
      alarms := w.alarms.erase (.pendingDataTimeout entry.number)
      pendingDataQueue := w.pendingDataQueue.erase entry
      txWaitCb := none } : Mac).Sound := by
  have idle := (sound.transmits.pending _ wait rfl).2
  obtain ⟨stopped, quiet⟩ := sound.scans.quiet idle
  have requests : (w.alarms.erase (.pendingDataTimeout entry.number)).filterMap Alarm.request =
      w.alarms.filterMap Alarm.request := filterMap_erase rfl w.alarms
  have entries := fun n => (map_number_erase member).count_eq n
  have given := fun n => gives.count_eq n
  simp only [List.count_cons, beq_iff_eq] at entries given
  refine { sound with
    accounts := sound.accounts.move (fun n => ?_) (fun n => ?_) (fun n => ?_)
    status := sound.answers result
    own := own
    transmits := .silent rfl (sound.aired wait done)
    timers := sound.timers_erase member
    scans := .idle idle ((steps_erase rfl).trans stopped) quiet
    waits := sound.waits.mono (filterMap_erase rfl w.alarms) id } <;>
  simp [held, Mac.frames, wait, requests, entries, given, TxCb.request, TxCb.frame,
    filterMap_cons_toList, List.count_cons] <;>
  omega

/-- The status that is read after a transmission. -/
theorem checkCmdTxStatus_eq :
    w.checkCmdTxStatus = { w with macStatus := w.txStatus.getD w.macStatus } := by
  unfold checkCmdTxStatus
  split
  · next status is_ => simp [is_]
  · next is_ =>
    have same : w.txStatus.getD w.macStatus = w.macStatus := by simp [is_]
    rw [same]

/-- The frame for the device that polls was sent. -/
theorem Sound.commandSent (sound : w.Sound) {buf : ℕ}
    (wait : w.txWaitCb = some ⟨.dataRequestCmd, buf⟩) (done : w.txCnt = true) {armed : Bool} :
    ({ { w with txCnt := false }.callWaitCb buf armed .dataRequestCmd with
      txWaitCb := none } : Mac).Sound := by
  have held_ := (sound.transmits.pending _ wait rfl).1
  have pending : w.pendingBuf = some buf := held_
  obtain ⟨entry, member, found⟩ := sound.transmits.polled _ wait rfl
  obtain ⟨number, response, hdrStatus⟩ := entry
  cases response with
  | true =>
    have result := sound.transmits.result _ wait done (number, w.txStatus.elim .success failure)
      (by simp [outcome, found])
    have status : (if w.txStatus = none then MacStatus.success
        else failure (w.txStatus.getD w.macStatus)) = w.txStatus.elim .success failure := by
      cases w.txStatus <;> simp
    simp only [callWaitCb, handleDataRequestCmdContinue, checkCmdTxStatus_eq, found, member,
      sendCommStatus, touch, freePendingBuf, pending, status, if_true]
    refine sound.polledAnswer wait done member result (touches sound.own _) ?_
    rw [List.append_assoc]
    exact List.perm_append_comm.trans (List.Perm.swap ..)
  | false =>
    have result := sound.transmits.result _ wait done (number, w.txStatus.getD .success)
      (by simp [outcome, found])
    have careful := sound.transmits.sent _ wait done
    obtain rfl : hdrStatus = w.txStatus.getD .success := by
      simpa [TxCareful, found] using careful
    simp only [callWaitCb, handleDataRequestCmdContinue, checkCmdTxStatus_eq, found, member,
      confirm, touch, freePendingBuf, pending, Bool.false_eq_true, if_false, if_true]
    refine sound.polledAnswer wait done member result (touches (touches sound.own _) _) ?_
    rw [List.append_assoc]
    exact List.perm_append_comm

theorem Sound.continue (sound : w.Sound) {cb : TxCb} (wait : w.txWaitCb = some cb)
    (done : w.txCnt = true) {armed : Bool} (careful : w.WaitCareful armed cb.kind) :
    ({ { w with txCnt := false }.callWaitCb cb.number armed cb.kind with
      txWaitCb := none } : Mac).Sound := by
  obtain ⟨kind, n⟩ := cb
  cases kind with
  | associate =>
    obtain rfl : armed = true := careful
    have ok : w.txStatus = none := sound.transmits.sent _ wait done
    simp only [callWaitCb, mlmeSendAssociationReqContinue, checkCmdTxStatus, ok, scheduleAlarm,
      if_true]
    exact sound.startTimer wait done
  | orphanResponse =>
    have ok : w.txStatus = none := sound.transmits.sent _ wait done
    obtain ⟨pending, idle⟩ := sound.transmits.pending _ wait rfl
    have result := sound.transmits.result _ wait done (n, .success) (by simp [outcome, ok])
    simp only [callWaitCb, handleOrphanResponseContinue, checkCmdTxStatus, ok, touch, confirm,
      pending, if_true]
    exact sound.answer wait done rfl rfl result (touches (touches sound.own _) _) idle
  | data =>
    have success := sound.transmits.data _ wait rfl
    have result := sound.transmits.result _ wait done (n, w.txStatus.getD .success) rfl
    simp only [callWaitCb, handleMcpsDataReqContinue, checkCmdTxStatus_eq, success, confirm]
    exact sound.answer wait done rfl rfl result (touches sound.own _) careful
  | indirectData status => exact absurd rfl ((sound.transmits.kinds _ wait).1 status)
  | dataRequestCmd => exact sound.commandSent wait done
  | beaconReq => exact absurd rfl (sound.transmits.kinds _ wait).2

theorem Sound.mainLoop (sound : w.Sound) {ready armed : Bool} {found : Option PendingData}
    (careful : w.Careful (.loop ready armed found)) : (w.mainLoop ready armed found).Sound := by
  unfold Mac.mainLoop
  simp only [Careful] at careful
  split
  · next cb wait =>
    rw [wait] at careful
    split
    · next done => exact sound.continue wait done (careful done)
    · exact sound
  · next wait =>
    rw [wait] at careful
    split
    · exact sound
    · next cb rest queue => exact sound.callTxCb wait queue (careful cb (by simp [queue]))

/-! ## Scans -/

/-- What remains when the callback or the alarm of a scan's next step is taken. -/
structure Taken (w : Mac) (n : ℕ) (callbacks : List Callback) (alarms : List Alarm) : Prop where
  requests : ∀ k, (w.callbacks.filterMap Callback.request).count k +
      (w.alarms.filterMap Alarm.request).count k =
    (callbacks.filterMap Callback.request).count k + (alarms.filterMap Alarm.request).count k +
      if n = k then 1 else 0
  calls : callbacks.filterMap Callback.step = []
  rings : alarms.filterMap Alarm.step = []
  indirects : alarms.filterMap Alarm.indirect = w.indirects
  timers : alarms.filterMap Alarm.pending = w.alarms.filterMap Alarm.pending
  frames : callbacks.filterMap Callback.frame = w.callbacks.filterMap Callback.frame
  old : ∀ cb ∈ callbacks, cb ∈ w.callbacks
  responses : ∀ cb ∈ w.callbacks, cb.response = true → cb ∈ callbacks

variable {n : ℕ} {callbacks : List Callback} {alarms : List Alarm}

theorem Taken.response (taken : w.Taken n callbacks alarms)
    (there : ∃ cb ∈ w.callbacks, cb.response = true) : ∃ cb ∈ callbacks, cb.response = true :=
  there.imp fun cb is_ => ⟨taken.responses cb is_.1 is_.2, is_.2⟩

/-- The scan takes its next step: the timer starts again, with other flags of the transceiver. -/
theorem Taken.again (taken : w.Taken n callbacks alarms) (sound : w.Sound)
    (scanner : w.scanner = some n) {txCnt : Bool} {txStatus : Option MacStatus}
    {macStatus : MacStatus} {left : ℕ} {onAir : List (Option TxCb)}
    (quiet : w.txWaitCb = none ∧ onAir = [] ∨
      onAir = w.onAir ∧ txCnt = w.txCnt ∧ txStatus = w.txStatus ∧ macStatus = w.macStatus) :
    ({ w with
      callbacks := callbacks
      alarms := alarms ++ [.scanStep n]
      touched := w.touched ++ [(n, w.pendingBuf)]
      mlmeScanInProgress := true
      unscannedChannels := left
      onAir := onAir
      txCnt := txCnt
      txStatus := txStatus
      macStatus := macStatus } : Mac).Sound := by
  obtain ⟨-, pending, rest⟩ := sound.scans.runs n scanner
  have requests := taken.requests
  refine { sound with
    accounts := sound.accounts.move (fun k => ?_) (fun k => ?_) (fun k => ?_)
    asked := fun k member => sound.asked k (taken.old _ member)
    own := by
      rw [pending]
      exact touches sound.own n
    transmits := by
      rcases quiet with ⟨idle, rfl⟩ | ⟨rfl, rfl, rfl, rfl⟩
      · exact .silent idle fun frame member => by cases member
      · exact { sound.transmits with }
    timers := fun k => by
      rw [List.filterMap_append, taken.timers, List.filterMap_cons_none rfl, List.filterMap_nil,
        List.append_nil]
      exact sound.timers k
    scans := {
      quiet := fun idle => by
        rw [show w.scanner = none from idle] at scanner
        cases scanner
      runs := fun k is_ => by
        obtain rfl : n = k := Option.some.inj (scanner.symm.trans is_)
        exact ⟨by simp [Mac.steps, taken.calls, taken.rings, Alarm.step], pending, rest⟩ }
    waits := sound.waits.mono
      (by
        show (alarms ++ [Alarm.scanStep n]).filterMap Alarm.indirect = _
        rw [List.filterMap_append, taken.indirects, List.filterMap_cons_none rfl,
          List.filterMap_nil, List.append_nil]) taken.response
    late := fun late => absurd (sound.timely (by simp [scanner])) late } <;>
  specialize requests k <;>
  simp [held, Mac.frames, taken.frames, Alarm.request, filterMap_cons_toList, List.count_cons] <;>
  omega

/-- What the flags say is how the scan ended. -/
theorem Sound.scanStatus (sound : w.Sound) (scanner : w.scanner = some n) :
    Mac.scanStatus (w.scanType w.pendingBuf) (w.beaconFound || w.gotRealignment) =
      Mac.scanStatus (w.scanType (some n)) w.heard := by
  obtain ⟨-, pending, params, known, proper, active, orphan⟩ := sound.scans.runs n scanner
  rw [pending]
  have type : w.scanType (some n) = some params.scanType := by simp [scanType, known]
  rw [type]
  cases is_ : params.scanType with
  | ed => simp [Mac.scanStatus]
  | active =>
    obtain ⟨never, found⟩ := active is_
    rw [never, found, Bool.or_false]
  | passive => exact absurd is_ proper
  | orphan =>
    obtain ⟨never, found⟩ := orphan is_
    rw [never, found, Bool.false_or]

/-- The scan is over, and confirmed in its buffer. -/
theorem Taken.over_ (taken : w.Taken n callbacks alarms) (sound : w.Sound)
    (scanner : w.scanner = some n) {status : MacStatus} {found : Bool} {left : ℕ} {buf : Option ℕ}
    (result : status = Mac.scanStatus (w.scanType (some n)) w.heard) (clear : found = false) :
    (({ w with
      pendingBuf := buf
      unscannedChannels := left
      callbacks := callbacks
      alarms := alarms
      touched := w.touched ++ [(n, some n)] ++ [(n, some n)]
      confirms := w.confirms ++ [(n, status)]
      handed := w.handed ++ [n]
      beaconFound := found
      mlmeScanInProgress := false
      scanner := none } : Mac).record n
        (Mac.scanStatus (w.scanType (some n)) w.heard)).Sound := by
  have has := step_mem_held (sound.scans.runs n scanner).1
  have requests := taken.requests
  have unsent : n ∉ w.sending := by
    intro sends
    have single := (sound.accounts.has has).1
    have present := List.count_pos_iff.mpr sends
    have requests := requests n
    rw [if_pos rfl] at requests
    simp only [held, List.count_append] at single
    simp only [sending, List.count_append] at present
    omega
  subst result
  refine { sound with
    accounts := sound.accounts.move (fun k => ?_) (fun k => ?_) (fun k => ?_)
    asked := fun k member => sound.asked k (taken.old _ member)
    status := sound.records (held_on has) _
    own := touches (touches sound.own n) n
    transmits := { sound.record_sent unsent _ with
      pending := fun cb wait uses => by
        have idle := (sound.transmits.pending cb wait uses).2
        simp [scanner] at idle }
    timers := fun k => (congrArg (List.count k) taken.timers).trans (sound.timers k)
    scans := .idle rfl (by simp [Mac.steps, record, taken.calls, taken.rings]) ⟨rfl, clear⟩
    waits := sound.waits.mono taken.indirects taken.response
    late := fun late => absurd (sound.timely (by simp [scanner])) late } <;>
  specialize requests k <;>
  simp [record, held, Mac.frames, taken.frames, List.count_cons] <;>
  omega

/-- Cancelling the step of a scan leaves nothing else behind. -/
theorem eraseP_step (rings : alarms.filterMap Alarm.step = []) (more : List Alarm) :
    (alarms ++ more).eraseP (·.step.isSome) = alarms ++ more.eraseP (·.step.isSome) := by
  refine List.eraseP_append_right _ fun alarm member => ?_
  simp [List.filterMap_eq_nil_iff.mp rings alarm member]

/-- An active or orphan scan sends, and its timer starts again. -/
theorem Taken.step (taken : w.Taken n callbacks alarms) (sound : w.Sound)
    (scanner : w.scanner = some n) {sent : Option MacStatus} {armed : Bool}
    (careful : w.StepCareful armed) :
    (({ w with callbacks := callbacks, alarms := alarms } : Mac).mlmeScanStep n sent
      armed).Sound := by
  obtain ⟨-, pending, params, known, proper, -⟩ := sound.scans.runs n scanner
  have type : w.scanType w.pendingBuf = some params.scanType := by
    simp [scanType, pending, known]
  have type' : w.scanType w.scanner = some params.scanType := by
    simp [scanType, scanner, known]
  have read : ({ w with callbacks := callbacks, alarms := alarms } : Mac).scanType w.pendingBuf =
      some params.scanType := type
  unfold mlmeScanStep
  dsimp only [touch]
  rw [read]
  cases channels : w.unscannedChannels with
  | zero =>
    have result := sound.scanStatus scanner
    have idle : (if Mac.scanStatus (some params.scanType) (w.beaconFound || w.gotRealignment) =
        .success then false else w.beaconFound) = false := by
      split
      · rfl
      · next failed =>
        cases found : w.beaconFound with
        | false => rfl
        | true => simp [Mac.scanStatus, found] at failed
    rw [type] at result
    dsimp only
    simp only [record, confirm, pending]
    exact taken.over_ sound scanner result idle
  | succ left =>
    obtain ⟨rfl, alone⟩ := careful (by simp [channels])
    rw [type'] at alone
    have cleared : (alarms.eraseP fun alarm => alarm.step.isSome) = alarms :=
      List.eraseP_of_forall_not fun alarm member => by
        simp [List.filterMap_eq_nil_iff.mp taken.rings alarm member]
    dsimp only
    cases is_ : params.scanType with
    | ed =>
      have cleared' : ((alarms ++ [Alarm.scanStep n]).eraseP fun alarm => alarm.step.isSome) =
          alarms := by
        rw [eraseP_step taken.rings]
        simp [Alarm.step]
      simp only [if_true, Option.some.injEq, reduceCtorEq, if_false, scheduleAlarm,
        cancelScanStep, cleared']
      exact taken.again sound scanner (.inr ⟨rfl, rfl, rfl, rfl⟩)
    | active =>
      obtain ⟨wait, air⟩ := alone (by simp [is_])
      simp only [if_true, Option.some.injEq, reduceCtorEq, if_false, scheduleAlarm, sendAndWait_eq,
        air]
      cases sent with
      | none =>
        simp only [checkCmdTxStatus, cancelScanStep, cleared]
        exact taken.again sound scanner (.inl ⟨wait, rfl⟩)
      | some status =>
        simp only [checkCmdTxStatus, cancelScanStep, cleared]
        exact taken.again sound scanner (.inl ⟨wait, rfl⟩)
    | passive => exact absurd is_ proper
    | orphan =>
      obtain ⟨wait, air⟩ := alone (by simp [is_])
      simp only [if_true, Option.some.injEq, reduceCtorEq, if_false, scheduleAlarm, sendAndWait_eq,
        air, cancelScanStep, cleared]
      exact taken.again sound scanner (.inl ⟨wait, rfl⟩)

/-- A scan begins: its step is a callback, or an alarm. -/
theorem Sound.beginScan (sound : w.Sound) {rest : List Callback}
    (queue : w.callbacks = .handleScanRequest n :: rest) (free : w.Free) (timely : w.expired = [])
    {params : ScanParams} (known : w.scanParams n = some params) {found got ed : Bool} {left : ℕ}
    (place : callbacks = rest ++ [.scanStep n] ∧ alarms = w.alarms ∨
      callbacks = rest ∧ alarms = w.alarms ++ [.scanStep n])
    (hears : ({ w with beaconFound := found, gotRealignment := got, heard := false } : Mac).Hears
      params.scanType) :
    ({ w with
      callbacks := callbacks
      alarms := alarms
      touched := w.touched ++ [(n, some n)]
      pendingBuf := some n
      beaconFound := found
      gotRealignment := got
      edFields := ed
      unscannedChannels := left
      scanner := some n
      heard := false } : Mac).Sound := by
  have later : ∀ cb ∈ rest, cb ∈ w.callbacks := fun cb member => by simp [queue, member]
  have responses : ∀ cb ∈ w.callbacks, cb.response = true → cb ∈ rest := by
    intro cb member response
    rw [queue] at member
    exact (List.mem_cons.mp member).resolve_left fun same => by
      rw [same] at response
      cases response
  have steps : callbacks.filterMap Callback.step ++ alarms.filterMap Alarm.step = [n] := by
    have none_ := (sound.scans.quiet free.1).1
    simp only [Mac.steps, queue, List.filterMap_cons, Callback.step,
      List.append_eq_nil_iff] at none_
    rcases place with ⟨rfl, rfl⟩ | ⟨rfl, rfl⟩
    · simp [none_.1, none_.2, Callback.step]
    · simp [none_.1, none_.2, Alarm.step]
  refine { sound with
    accounts := sound.accounts.move (fun k => ?_) (fun k => ?_) (fun k => ?_)
    asked := fun k member => sound.asked k (later _ ?_)
    own := touches sound.own n
    transmits := { sound.transmits with pending := free.unused }
    timers := fun k => ?_
    scans := ⟨fun idle => (by cases idle), fun k is_ => ?_⟩
    waits := sound.waits.mono ?_ fun there => ?_
    late := fun late => absurd timely late }
  · rcases place with ⟨rfl, rfl⟩ | ⟨rfl, rfl⟩ <;>
    simp [held, queue, filterMap_cons_toList, Callback.request, Alarm.request, List.count_cons] <;>
    omega
  · rcases place with ⟨rfl, rfl⟩ | ⟨rfl, rfl⟩ <;>
    simp [held, Mac.frames, queue, filterMap_cons_toList, Callback.request, Callback.frame,
      Alarm.request, List.count_cons] <;>
    omega
  · rcases place with ⟨rfl, rfl⟩ | ⟨rfl, rfl⟩ <;>
    simp only [Mac.frames, queue, filterMap_cons_toList, List.filterMap_append,
      List.filterMap_nil, Callback.frame, Option.toList_none, List.nil_append, List.append_nil,
      Nat.le_refl]
  · rcases place with ⟨rfl, rfl⟩ | ⟨rfl, rfl⟩
    · simpa using member
    · exact member
  · refine Eq.trans ?_ (sound.timers k)
    rcases place with ⟨rfl, rfl⟩ | ⟨rfl, rfl⟩ <;> simp [Alarm.pending, filterMap_cons_toList]
  · obtain rfl : n = k := Option.some.inj is_
    exact ⟨steps, rfl, params, known, hears⟩
  · rcases place with ⟨rfl, rfl⟩ | ⟨rfl, rfl⟩ <;> simp [Mac.indirects, Alarm.indirect]
  · obtain ⟨cb, member, is_⟩ := there
    have member := responses cb member is_
    rcases place with ⟨rfl, rfl⟩ | ⟨rfl, rfl⟩
    · exact ⟨cb, List.mem_append_left _ member, is_⟩
    · exact ⟨cb, member, is_⟩

theorem Sound.handleScanRequest (sound : w.Sound) {rest : List Callback} {armed : Bool}
    (queue : w.callbacks = .handleScanRequest n :: rest)
    (careful : w.CallCareful armed (.handleScanRequest n)) :
    (({ w with callbacks := rest } : Mac).handleScanRequest n armed).Sound := by
  obtain ⟨free, timely, starts⟩ := careful
  obtain ⟨params, known, proper⟩ := sound.asked n (by simp [queue])
  obtain ⟨-, -, missed⟩ := sound.scans.quiet free.1
  unfold Mac.handleScanRequest
  dsimp only [touch]
  rw [show ({ w with callbacks := rest } : Mac).scanParams n = some params from known]
  cases is_ : params.scanType with
  | ed =>
    have starts : armed = true := by simpa [scanType, known, is_] using starts
    simp only [is_, starts, scheduleAlarm, if_true]
    exact sound.beginScan queue free timely known (.inr ⟨rfl, rfl⟩) (by simp [Hears, is_])
  | active =>
    have never : w.gotRealignment = false := by simpa [scanType, known, is_] using starts
    simp only [is_, scheduleCallback]
    exact sound.beginScan queue free timely known (.inl ⟨rfl, rfl⟩) (by simp [Hears, is_, never])
  | passive => exact absurd is_ proper
  | orphan =>
    have starts : armed = true := by simpa [scanType, known, is_] using starts
    simp only [is_, starts, scheduleAlarm, if_true]
    exact sound.beginScan queue free timely known (.inr ⟨rfl, rfl⟩) (by simp [Hears, is_, missed])

/-! ## Callbacks of received frames -/

/-- What is left when a callback that is neither a request nor a response is called: its frame is
given away, or goes to the queue for the transceiver. -/
theorem Sound.pop (sound : w.Sound) {cb : Callback} {rest : List Callback}
    (queue : w.callbacks = cb :: rest) (gives keeps : List ℕ) (request : cb.request = none)
    (step : cb.step = none) (other : w.assRequest ≠ none → cb.response = false)
    {macTxQ : List TxCb} {touched : List (ℕ × Option ℕ)} (own : ∀ use ∈ touched, use.2 = some use.1)
    (requests : macTxQ.filterMap TxCb.request = w.macTxQ.filterMap TxCb.request)
    (frames : macTxQ.filterMap TxCb.frame = w.macTxQ.filterMap TxCb.frame ++ keeps)
    (place : gives ++ keeps = cb.frame.toList) :
    ({ w with
      callbacks := rest
      macTxQ := macTxQ
      touched := touched
      handed := w.handed ++ gives } : Mac).Sound := by
  have steps : rest.filterMap Callback.step ++ w.alarms.filterMap Alarm.step = w.steps := by
    simp only [Mac.steps, queue, List.filterMap_cons_none step]
  refine { sound with
    accounts := sound.accounts.move (fun n => ?_) (fun n => ?_) (fun n => ?_)
    asked := fun n member => sound.asked n (by simp [queue, member])
    own := own
    transmits := { sound.transmits with }
    scans := {
      quiet := fun idle => (sound.scans.quiet idle).imp_left steps.trans
      runs := fun n scanner => (sound.scans.runs n scanner).imp_left steps.trans }
    waits := ⟨sound.waits.settled, fun n waits => ?_⟩ }
  · simp only [held, queue, requests, List.filterMap_cons_none request]
  · simp only [held, Mac.frames, queue, requests, frames, List.filterMap_cons_none request,
      filterMap_cons_toList, ← place, List.count_append]
    omega
  · simp only [Mac.frames, queue, frames, filterMap_cons_toList, ← place, List.count_append]
    omega
  · rcases sound.waits.answers n waits with timer | late | ⟨clear, none_, later, member, is_⟩
    · exact .inl timer
    · exact .inr (.inl late)
    · refine .inr (.inr ⟨clear, none_, later, ?_, is_⟩)
      rw [queue] at member
      rcases List.mem_cons.mp member with rfl | inside
      · simp [other (by simp [show w.assRequest = some n from waits])] at is_
      · exact inside

/-- The buffer of a received frame is written and given away. -/
theorem Sound.give (sound : w.Sound) {cb : Callback} {rest : List Callback} {buf : ℕ}
    (queue : w.callbacks = cb :: rest) (request : cb.request = none) (step : cb.step = none)
    (other : w.assRequest ≠ none → cb.response = false) (frame : cb.frame = some buf) :
    ({ w with
      callbacks := rest
      macTxQ := w.macTxQ
      touched := w.touched ++ [(buf, some buf)]
      handed := w.handed ++ [buf] } : Mac).Sound :=
  sound.pop queue [buf] [] request step other (touches sound.own buf) rfl (by simp)
    (by simp [frame])

/-- `pending_buf` is written while it may be. -/
theorem Sound.setPendingBuf (sound : w.Sound) (free : w.Free) (buf : Option ℕ) :
    ({ w with pendingBuf := buf } : Mac).Sound := by
  obtain ⟨stopped, quiet⟩ := sound.scans.quiet free.1
  exact { sound with
    transmits := { sound.transmits with pending := free.unused }
    scans := .idle free.1 stopped quiet }

theorem Sound.answerAssociation (sound : w.Sound) (waits : w.assRequest = some n)
    (clear : w.indirects = []) (status : MacStatus) :
    ({ w with
      expired := []
      assRequest := none
      confirms := w.confirms ++ [(n, status)] }.record n status).Sound := by
  have on : 0 < w.held.count n + w.assRequest.toList.count n := by simp [waits]
  have gone : w.held.count n = 0 := by
    have once := sound.accounts.once n
    have single := List.nodup_iff_count_le_one.mp sound.accounts.fresh.1 n
    simp only [waits, Option.toList_some, List.count_singleton_self] at once
    omega
  exact { sound with
    accounts := sound.accounts.move
      (fun k => by
        simp only [record, waits, Option.toList_some, Option.toList_none, List.map_append,
          List.map_cons, List.map_nil, List.count_append, List.count_nil]
        show _ + w.held.count k + _ = _
        omega)
      (fun k => rfl) fun k => Nat.le_refl _
    status := sound.records on status
    transmits := { sound.record_sent
      (fun sends => List.count_eq_zero.mp gone (sending_subset_held sends)) status with }
    scans := { sound.scans with }
    waits := ⟨fun _ => ⟨clear, rfl⟩, fun k is_ => by cases is_⟩
    late := fun late => absurd rfl late }

theorem Sound.acceptAssociationResponse (sound : w.Sound) {rest : List Callback}
    {buf status : ℕ} (queue : w.callbacks = .associationResponse buf status :: rest)
    (careful : w.assRequest ≠ none → w.indirects = [] ∧ w.expired = []) :
    (({ w with callbacks := rest } : Mac).acceptAssociationResponse buf status).Sound := by
  unfold Mac.acceptAssociationResponse
  dsimp only [touch]
  cases waits : w.assRequest with
  | none =>
    have popped := sound.give queue rfl rfl (fun some_ => absurd waits some_) rfl
    simp only
    rw [← waits]
    exact popped
  | some n =>
    obtain ⟨clear, none_⟩ := careful (by simp [waits])
    have answered := sound.answerAssociation waits clear (.associated status)
    have popped := answered.give queue rfl rfl (fun some_ => absurd rfl some_) rfl
    simp only
    rw [none_]
    exact popped

theorem Sound.acceptRealignment (sound : w.Sound) : w.acceptRealignment.Sound := by
  unfold Mac.acceptRealignment
  split
  · next runs =>
    cases scanner : w.scanner with
    | none =>
      have stopped := (sound.scans.quiet scanner).2.1
      rw [runs] at stopped
      cases stopped
    | some n =>
      obtain ⟨steps, pending, params, known, proper, active, orphan⟩ := sound.scans.runs n scanner
      have own : ∀ use ∈ w.touched ++ [(n, w.pendingBuf)], use.2 = some use.1 := by
        rw [pending]
        exact touches sound.own n
      dsimp only [touch]
      split
      · next read =>
        have type : params.scanType = .orphan := by simpa [scanType, pending, known] using read
        have type' : w.scanType (some n) = some .orphan := by simp [scanType, known, type]
        rw [← scanner]
        exact { sound with
          own := own
          transmits := { sound.transmits with }
          scans := {
            quiet := fun idle => by
              rw [show w.scanner = none from idle] at scanner
              cases scanner
            runs := fun k is_ => by
              obtain rfl : n = k := Option.some.inj (scanner.symm.trans is_)
              refine ⟨steps, pending, params, known, proper, fun other => ?_, fun _ =>
                ⟨(orphan type).1, ?_⟩⟩
              · rw [type] at other
                cases other
              · show true = (w.scanType w.scanner = some .orphan || w.heard)
                rw [scanner, type']
                simp }
          late := fun late => absurd (sound.timely (by simp [scanner])) late }
      · exact { sound with
          own := own
          transmits := { sound.transmits with }
          scans := { sound.scans with } }
  · exact sound

/-- A command that polls goes to the queue for the transceiver. -/
theorem Sound.acceptDataRequest (sound : w.Sound) {buf : ℕ} {rest : List Callback}
    (queue : w.callbacks = .dataRequestCmd buf :: rest) (room : w.macTxQ.length < macQueueSize) :
    (({ w with callbacks := rest } : Mac).acceptDataRequest buf).Sound := by
  simp only [Mac.acceptDataRequest, Mac.scheduleTxCb, Queues.scheduleTxCb, room, if_true]
  rw [← List.append_nil w.handed]
  refine sound.pop queue [] [buf] rfl rfl (fun _ => rfl) sound.own ?_ ?_ rfl
  · rw [List.filterMap_append, List.filterMap_cons_none rfl, List.filterMap_nil, List.append_nil]
  · rw [List.filterMap_append]
    rfl

/-- A beacon request is given away, and a beacon is queued when there is room. -/
theorem Sound.acceptBeaconRequest (sound : w.Sound) {buf : ℕ} {rest : List Callback}
    (queue : w.callbacks = .beaconReq buf :: rest) :
    (({ w with callbacks := rest } : Mac).acceptBeaconRequest buf).Sound := by
  by_cases room : w.macTxQ.length < macQueueSize
  · simp only [Mac.acceptBeaconRequest, Mac.scheduleTxCb, Queues.scheduleTxCb, room, if_true]
    refine sound.pop queue [buf] [] rfl rfl (fun _ => rfl) sound.own ?_ ?_ rfl
    · rw [List.filterMap_append, List.filterMap_cons_none rfl, List.filterMap_nil, List.append_nil]
    · rw [List.filterMap_append, List.filterMap_cons_none rfl, List.filterMap_nil]
  · simp only [Mac.acceptBeaconRequest, Mac.scheduleTxCb, Queues.scheduleTxCb, room, if_false]
    exact sound.pop queue [buf] [] rfl rfl (fun _ => rfl) sound.own rfl (by simp) rfl

theorem Sound.callback (sound : w.Sound) {sent : Option MacStatus} {armed : Bool} {cb : Callback}
    {rest : List Callback} (queue : w.callbacks = cb :: rest)
    (careful : w.CallCareful armed cb) :
    (({ w with callbacks := rest } : Mac).call sent armed cb).Sound := by
  cases cb with
  | handleScanRequest n => exact sound.handleScanRequest queue careful
  | scanStep n =>
    obtain ⟨k, scanner⟩ : ∃ k, w.scanner = some k := by
      refine Option.ne_none_iff_exists'.mp fun idle => ?_
      have none_ := (sound.scans.quiet idle).1
      simp [Mac.steps, queue, Callback.step] at none_
    have steps := (sound.scans.runs k scanner).1
    simp only [Mac.steps, queue, List.filterMap_cons, Callback.step, List.cons_append,
      List.cons.injEq, List.append_eq_nil_iff] at steps
    obtain ⟨rfl, calls, rings⟩ := steps
    have taken : w.Taken n rest w.alarms := by
      refine ⟨fun j => ?_, calls, rings, rfl, rfl, ?_, fun cb member => ?_,
        fun cb member response => ?_⟩
      · simp only [queue, List.filterMap_cons, Callback.request, List.count_cons, beq_iff_eq]
        omega
      · rw [queue, List.filterMap_cons_none rfl]
      · simp [queue, member]
      · rw [queue] at member
        rcases List.mem_cons.mp member with rfl | later
        · cases response
        · exact later
    exact taken.step sound scanner careful
  | handleDataFrame buf accepted =>
    exact (sound.give queue rfl rfl (fun _ => rfl) rfl).setPendingBuf careful _
  | acceptAssReqCmd buf =>
    exact (sound.give queue rfl rfl (fun _ => rfl) rfl).setPendingBuf careful _
  | associationResponse buf status => exact sound.acceptAssociationResponse queue careful
  | dataRequestCmd buf => exact sound.acceptDataRequest queue careful
  | beaconReq buf => exact sound.acceptBeaconRequest queue
  | realignment =>
    have popped := sound.pop queue [] [] rfl rfl (fun _ => rfl) sound.own rfl (by simp) rfl
    rw [List.append_nil] at popped
    exact popped.acceptRealignment

/-! ## Alarms -/

theorem Sound.ringStep (sound : w.Sound) {sent : Option MacStatus} {armed : Bool}
    (member : .scanStep n ∈ w.alarms) (careful : w.StepCareful armed) :
    (({ w with alarms := w.alarms.erase (.scanStep n) } : Mac).mlmeScanStep n sent
      armed).Sound := by
  have requests := filterMap_erase_perm (f := Alarm.request) member rfl
  have steps := filterMap_erase_perm (f := Alarm.step) member rfl
  obtain ⟨k, scanner⟩ : ∃ k, w.scanner = some k := by
    refine Option.ne_none_iff_exists'.mp fun idle => ?_
    have none_ := (sound.scans.quiet idle).1
    rw [Mac.steps, List.append_eq_nil_iff] at none_
    rw [none_.2] at steps
    exact absurd steps.length_eq (by simp)
  have one := (sound.scans.runs k scanner).1
  have length := congrArg List.length one
  rw [Mac.steps, List.length_append, steps.length_eq, List.length_cons, List.length_singleton]
    at length
  have calls : w.callbacks.filterMap Callback.step = [] := List.length_eq_zero_iff.mp (by omega)
  have rings : (w.alarms.erase (.scanStep n)).filterMap Alarm.step = [] :=
    List.length_eq_zero_iff.mp (by omega)
  rw [rings] at steps
  rw [Mac.steps, calls, List.nil_append, List.perm_singleton.mp steps] at one
  obtain rfl : n = k := by simpa using one
  have taken : w.Taken n w.callbacks (w.alarms.erase (.scanStep n)) := by
    refine ⟨fun j => ?_, calls, rings, filterMap_erase rfl w.alarms, filterMap_erase rfl w.alarms,
      rfl, fun cb member => member, fun cb member _ => member⟩
    have count := requests.count_eq j
    simp only [List.count_cons, beq_iff_eq] at count
    omega
  exact taken.step sound scanner careful

theorem Sound.respTimeout (sound : w.Sound) {sent : Option MacStatus} {armed : Bool}
    (member : .respTimeout n ∈ w.alarms) (careful : w.RingCareful sent armed (.respTimeout n)) :
    (({ w with alarms := w.alarms.erase (.respTimeout n) } : Mac).macRespTimeout n sent
      armed).Sound := by
  obtain ⟨pending, free, wait, air, alone, starts⟩ := careful
  obtain ⟨clear, none_⟩ := sound.waits.settled alone
  have requests := filterMap_erase_perm (f := Alarm.request) member rfl
  have indirects : (w.alarms.erase (.respTimeout n)).filterMap Alarm.indirect = w.indirects :=
    filterMap_erase rfl w.alarms
  have has : n ∈ w.held := by
    simp only [held, List.mem_append, List.mem_filterMap]
    exact .inl (.inr ⟨_, member, rfl⟩)
  have count := fun k => requests.count_eq k
  simp only [List.count_cons, beq_iff_eq] at count
  have own := touches (touches sound.own n) n
  obtain ⟨stopped, quiet⟩ := sound.scans.quiet free.1
  have kept : w.callbacks.filterMap Callback.step ++
      (w.alarms.erase (.respTimeout n)).filterMap Alarm.step = [] :=
    (steps_erase rfl).trans stopped
  have timers : (w.alarms.erase (.respTimeout n)).filterMap Alarm.pending =
      w.alarms.filterMap Alarm.pending := filterMap_erase rfl w.alarms
  cases sent with
  | none =>
    obtain rfl : armed = true := starts rfl
    simp only [macRespTimeout, touch, sendAndWait_eq, air, scheduleAlarm, pending, if_true]
    refine { sound with
      accounts := sound.accounts.move (fun k => ?_) (fun k => ?_) (fun k => Nat.le_refl _)
      own := own
      transmits := .silent wait fun frame member => by cases member
      timers := fun k => by
        rw [List.filterMap_append, timers, List.filterMap_cons_none rfl, List.filterMap_nil,
          List.append_nil]
        exact sound.timers k
      scans := .idle free.1 ?_ quiet
      waits := ⟨fun none_ => (by cases none_), fun k is_ => ?_⟩
      late := fun late => absurd none_ late }
    · have count := count k
      simp [held, alone, Alarm.request, filterMap_cons_toList, List.count_cons]
      omega
    · have count := count k
      simp [held, Mac.frames, alone, Alarm.request, filterMap_cons_toList, List.count_cons]
      omega
    · rw [← kept]
      simp [Mac.steps, Alarm.step]
    · obtain rfl : n = k := Option.some.inj is_
      refine .inl ⟨?_, none_, rfl⟩
      show (w.alarms.erase _ ++ [Alarm.indirectDataTimeout n]).filterMap Alarm.indirect = [n]
      rw [List.filterMap_append, indirects, clear]
      rfl
  | some status =>
    simp only [macRespTimeout, touch, sendAndWait_eq, air, record, confirm, pending]
    refine { sound with
      accounts := sound.accounts.move (fun k => ?_) (fun k => ?_) (fun k => Nat.le_refl _)
      status := sound.records (held_on has) _
      own := own
      transmits := .silent wait fun frame member => by cases member
      timers := fun k => (congrArg (List.count k) timers).trans (sound.timers k)
      scans := .idle free.1 kept quiet
      waits := ⟨fun _ => ⟨indirects.trans clear, none_⟩, fun k is_ => (by cases is_)⟩ }
    · have count := count k
      simp [held, alone, List.count_cons]
      omega
    · have count := count k
      simp [held, Mac.frames, List.count_cons]
      omega

theorem Sound.indirectTimeout (sound : w.Sound) (member : .indirectDataTimeout n ∈ w.alarms)
    (idle : w.scanner = none) :
    (({ w with alarms := w.alarms.erase (.indirectDataTimeout n) } :
      Mac).macIndirectDataTimeout n).Sound := by
  have requests : (w.alarms.erase (.indirectDataTimeout n)).filterMap Alarm.request =
      w.alarms.filterMap Alarm.request := filterMap_erase rfl w.alarms
  have timers : (w.alarms.erase (.indirectDataTimeout n)).filterMap Alarm.pending =
      w.alarms.filterMap Alarm.pending := filterMap_erase rfl w.alarms
  have indirects : w.indirects.Perm
      (n :: (w.alarms.erase (.indirectDataTimeout n)).filterMap Alarm.indirect) :=
    filterMap_erase_perm (f := Alarm.indirect) member rfl
  have there : n ∈ w.indirects := indirects.mem_iff.mpr (by simp)
  obtain ⟨stopped, quiet⟩ := sound.scans.quiet idle
  refine { sound with
    accounts := sound.accounts.move (fun k => ?_) (fun k => ?_) (fun k => Nat.le_refl _)
    transmits := { sound.transmits with }
    timers := fun k => (congrArg (List.count k) timers).trans (sound.timers k)
    scans := .idle idle ((steps_erase rfl).trans stopped) ⟨quiet.1, rfl⟩
    waits := ⟨fun none_ => ?_, fun k is_ => ?_⟩
    late := fun _ => ⟨idle, rfl⟩ }
  · simp only [held, macIndirectDataTimeout, requests]
  · simp only [held, Mac.frames, macIndirectDataTimeout, requests]
  · rw [(sound.waits.settled none_).1] at there
    cases there
  · rcases sound.waits.answers k is_ with ⟨one, late, -⟩ | ⟨clear, -⟩ | ⟨clear, -⟩
    · rw [one] at there indirects
      obtain rfl : n = k := by simpa using there
      have rest := (List.perm_cons n).mp indirects
      refine .inr (.inl ⟨List.nil_perm.mp rest, ?_⟩)
      show w.expired ++ [n] = [n]
      rw [late, List.nil_append]
    · rw [clear] at there
      cases there
    · rw [clear] at there
      cases there

/-- The frame that is kept for a device that polls is not the one that is being sent. -/
theorem Sound.unsent (sound : w.Sound) {entry : PendingData} (member : entry ∈ w.pendingDataQueue)
    (other : w.txWaitCb.any (·.kind == .dataRequestCmd) = true →
      w.macDataReq.any (·.number == entry.number) = false) {cb : TxCb}
    (wait : w.txWaitCb = some cb) {status : Option MacStatus} {call : ℕ × MacStatus}
    (is_ : w.outcome status cb = some call) : call.1 ≠ entry.number := by
  have single := (sound.accounts.has (entry_mem_held member)).1
  have present : 0 < (w.pendingDataQueue.map (·.number)).count entry.number :=
    List.count_pos_iff.mpr (List.mem_map_of_mem member)
  have twice : cb.request ≠ some entry.number := by
    intro request
    simp only [held, wait, Option.toList_some, List.filterMap_cons_some request,
      List.filterMap_nil, List.count_append, List.count_singleton_self] at single
    omega
  obtain ⟨kind, n⟩ := cb
  cases kind with
  | associate => cases is_
  | orphanResponse =>
    cases is_
    exact fun same => twice (congrArg some same)
  | data =>
    cases is_
    exact fun same => twice (congrArg some same)
  | indirectData hdrStatus => cases is_
  | dataRequestCmd =>
    obtain ⟨sent, -, found⟩ := sound.transmits.polled _ wait rfl
    simp only [outcome, found, Option.map_some, Option.some.injEq] at is_
    subst is_
    simpa [found] using other (by simp [wait])
  | beaconReq => cases is_

/-- The time of a frame that is kept is over: its request is answered. -/
theorem Sound.pendingTimeout (sound : w.Sound) (member : .pendingDataTimeout n ∈ w.alarms)
    (other : w.txWaitCb.any (·.kind == .dataRequestCmd) = true →
      w.macDataReq.any (·.number == n) = false) :
    (({ w with alarms := w.alarms.erase (.pendingDataTimeout n) } :
      Mac).macPendingDataTimeout n).Sound := by
  have there : n ∈ w.pendingDataQueue.map (·.number) := by
    have present : 0 < (w.alarms.filterMap Alarm.pending).count n :=
      List.count_pos_iff.mpr (List.mem_filterMap.mpr ⟨_, member, rfl⟩)
    rw [sound.timers n] at present
    exact List.count_pos_iff.mp present
  obtain ⟨entry, found⟩ : ∃ entry, w.pendingDataQueue.find? (·.number == n) = some entry := by
    obtain ⟨entry, place, is_⟩ := List.mem_map.mp there
    exact Option.isSome_iff_exists.mp
      (List.find?_isSome.mpr ⟨entry, place, by simpa using is_⟩)
  have place := List.mem_of_find?_eq_some found
  obtain rfl : entry.number = n := by simpa using List.find?_some found
  have has := entry_mem_held place
  have requests : (w.alarms.erase (.pendingDataTimeout entry.number)).filterMap Alarm.request =
      w.alarms.filterMap Alarm.request := filterMap_erase rfl w.alarms
  have entries := fun k => (map_number_erase place).count_eq k
  simp only [List.count_cons, beq_iff_eq] at entries
  simp only [macPendingDataTimeout, found, record, confirm]
  refine { sound with
    accounts := sound.accounts.move (fun k => ?_) (fun k => ?_) (fun k => Nat.le_refl _)
    status := sound.records (held_on has) _
    own := touches sound.own _
    transmits := { sound.transmits with
      result := fun cb wait done call is_ => by
        show Function.update w.results entry.number _ call.1 = some call.2
        rw [Function.update_of_ne (sound.unsent place other wait is_)]
        exact sound.transmits.result cb wait done call is_
      polled := fun cb wait kind => by
        obtain ⟨sent, queued, request⟩ := sound.transmits.polled cb wait kind
        have differs : sent.number ≠ entry.number := by
          have waits : w.txWaitCb = some cb := wait
          have sends : w.macDataReq = some sent := request
          simpa [sends] using other (by simp [waits, kind])
        exact ⟨sent, (List.mem_erase_of_ne fun same => differs (congrArg _ same)).mpr queued,
          request⟩ }
    timers := sound.timers_erase place
    scans := {
      quiet := fun idle => (sound.scans.quiet idle).imp_left (steps_erase rfl).trans
      runs := fun k scanner => (sound.scans.runs k scanner).imp_left (steps_erase rfl).trans }
    waits := sound.waits.mono (filterMap_erase rfl w.alarms) id } <;>
  simp [held, Mac.frames, requests, entries, List.count_cons] <;>
  omega

/-- A new buffer is given away. -/
theorem Sound.issueGiven (sound : w.Sound) :
    ({ w.issue with handed := w.handed ++ [w.issued] } : Mac).Sound := by
  refine { sound with
    accounts := sound.accounts.issue (fun n => rfl) (Nat.le_refl 1) (fun n => ?_)
      fun n => Nat.le_add_right _ _
    transmits := { sound.transmits with }
    scans := { sound.scans with } }
  show (w.handed ++ [w.issued]).count n + w.held.count n + w.frames.count n = _
  simp only [List.count_append, List.count_singleton, beq_iff_eq]
  omega

theorem Sound.buffer (sound : w.Sound) : w.indirectDataCallbackCaller.Sound := by
  unfold indirectDataCallbackCaller
  split
  · exact sound
  · next n rest late =>
    obtain ⟨k, waits⟩ : ∃ k, w.assRequest = some k := by
      refine Option.ne_none_iff_exists'.mp fun none_ => ?_
      have clear := (sound.waits.settled none_).2
      simp [late] at clear
    rcases sound.waits.answers k waits with ⟨-, none_, -⟩ | ⟨clear, one⟩ | ⟨-, none_, -⟩
    · simp [late] at none_
    · rw [late] at one
      obtain ⟨rfl, rfl⟩ : n = k ∧ rest = [] := by simpa using one
      -- no scan has begun since the time-out, so `cb_type` is still that of the association
      have unharmed := (sound.late (by simp [late])).2
      rw [if_neg (by simp [unharmed])]
      exact (sound.answerAssociation waits clear .noData).issueGiven
    · simp [late] at none_

theorem Sound.step (sound : w.Sound) (e : Event) (careful : w.Careful e) : (w.step e).Sound := by
  cases e with
  | request primitive again => exact sound.request careful
  | associateResponse joinedPro armed again => exact sound.associateResponse careful
  | scan params valid again => exact sound.scan careful
  | receive frame => exact sound.receive careful
  | complete status => exact sound.complete careful
  | loop ready armed found => exact sound.mainLoop careful
  | callback sent armed =>
    unfold Mac.step
    dsimp only
    split
    · exact sound
    · next cb rest queue => exact sound.callback queue (careful cb (by simp [queue]))
  | alarm alarm sent armed =>
    unfold Mac.step
    dsimp only
    split
    · next member =>
      have careful := careful member
      cases alarm with
      | scanStep n => exact sound.ringStep member careful
      | respTimeout n => exact sound.respTimeout member careful
      | indirectDataTimeout n => exact sound.indirectTimeout member careful
      | pendingDataTimeout n => exact sound.pendingTimeout member careful
    · exact sound
  | buffer => exact sound.buffer

theorem init_sound : init.Sound where
  accounts := {
    fresh := ⟨List.nodup_nil, fun n member => by cases member⟩
    once := fun n => rfl
    place := fun n member => by rcases member with asked | frame <;> contradiction
    foreign := fun n member => by cases member
    past := fun n member => by rcases member with given | frame <;> contradiction }
  asked := fun n member => by cases member
  status := fun call member => by cases member
  own := fun use member => by cases member
  transmits := .silent rfl fun frame member => by cases member
  timers := fun n => rfl
  scans := .idle rfl rfl ⟨rfl, rfl⟩
  waits := ⟨fun _ => ⟨rfl, rfl⟩, fun n waits => by cases waits⟩
  late := fun late => absurd rfl late

theorem Sound.owned (sound : w.Sound) : w.Owned where
  once := fun n member => by
    rw [sound.accounts.once n]
    exact List.count_eq_one_of_mem sound.accounts.fresh.1 member
  back := fun n member => sound.accounts.back member
  status := sound.status
  own := sound.own
  sends := fun wait => by
    obtain ⟨cb, is_⟩ := Option.ne_none_iff_exists'.mp wait
    rcases sound.transmits.flies cb is_ with ⟨air, -⟩ | ⟨-, done⟩
    · exact .inr (by simp [air])
    · exact .inl done
  waits := fun n waits => by
    rcases sound.waits.answers n waits with ⟨timer, -⟩ | ⟨-, late⟩ | ⟨-, -, response⟩
    · exact .inl (by simp [timer])
    · exact .inr (.inl (by simp [late]))
    · exact .inr (.inr response)

/-- **`pending_buf`.**  Where `pending_buf` is written only while no scan steps and no orphan
response or frame for a device that polls is sent, and has the association's buffer when its
response time is over, where no scan begins or steps while an expired association waits for a
buffer, scans have a known type, are refused in no other buffer and hear nothing but what they are
for, one association at a time waits for its response and nothing else comes for the device
meanwhile, a frame for a device that polls does not expire while it is sent and is sent with the
status its buffer has, and requests and received commands find room, timers start, one frame at
a time is sent and the frames of associations and orphan responses are sent well, every request
has one answer with its own result or is on its way there, its buffer is given back once, and no
operation reads or writes the buffer of another. -/
theorem pending_buf (events : List Event) (careful : Along step Careful init events) :
    (run step init events).Owned :=
  (invariant_of_along (fun _ e sound careful => sound.step e careful) init events init_sound
    careful).owned

/-- An indirect data request and the command of the device that polls; then an active scan, and an
association in the same buffer, with a data request and a data frame before it. -/
theorem pending_buf_join :
    (run step init [.request (.indirectData .success) false, .loop true true none,
      .receive (.dataRequest true), .callback none true,
      .loop true true (some ⟨0, false, .success⟩), .complete none, .loop true true none,
      .request .data false, .loop true true none, .complete none, .loop true true none,
      .receive (.data true true), .callback none true, .scan ⟨.active, 1⟩ true false,
      .callback none true, .callback none true, .receive .beacon, .alarm (.scanStep 4) none true,
      .request .associate true, .loop true true none, .complete none, .loop true true none,
      .alarm (.respTimeout 6) none true, .receive (.associationResponse 0),
      .callback none true]).Owned :=
  pending_buf _ (by decide)

/-- A second scan is refused: the buffer of the first is handed back, with success. -/
theorem secondScan_refused : ¬∀ events, (run step init events).Owned := by
  intro claim
  have once := (claim [.scan ⟨.active, 1⟩ true false, .callback none true, .callback none true,
    .scan ⟨.active, 1⟩ true false]).status (1, .success) (by decide)
  exact absurd once (by decide)

end Mac

end Zboss.Management
