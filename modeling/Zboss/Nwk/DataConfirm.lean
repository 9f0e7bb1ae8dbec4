import Zboss.Nwk.BroadcastTransfers

/-!
One confirm for each request.  The packet of a request is in one place at a time, a
table, a scheduled callback or the MAC, until its confirm is called; then the network
layer no longer holds the buffer.
-/

namespace Zboss.DynamicTables

open Zboss.SlotTable Zboss.SlotTable.Table Zboss.Run

variable {s : Nwk} {w : DataService}

/-! ### One operation -/

theorem exec_transfers (kept : Consistent False s) (spill : Spill) (op : Op)
    (lossless : Lossless s op) (inside : ∀ n ∈ marked s op, n < 8) :
    Transfers s (exec spill s op).1 (exec spill s op).2 op.bufs := by
  cases op with
  | configure device => exact SameBuffers.silent ⟨⟨rfl, rfl, rfl⟩, rfl⟩
  | nldeDataRequest nsdu nsduHandle => exact nldeDataRequest_transfers s nsdu nsduHandle
  | mcpsDataConfirm param msduHandle success =>
    exact mcpsDataConfirm_transfers s param msduHandle success
  | forward param handle nwhdr hops => exact forward_transfers s param handle nwhdr hops
  | broadcastTransmition param env =>
    exact broadcastTransmition_transfers kept.brrt spill param env inside
  | mcpsDataIndication frame => exact mcpsDataIndication_transfers spill frame inside
  | newBufferAllocated param => exact newBufferAllocated_transfers kept.waitAlloc param
  | btrExpiry =>
    apply SameBuffers.silent
    simp only [exec, btrExpiry]
    split
    all_goals exact ⟨⟨rfl, rfl, rfl⟩, rfl⟩
  | rreq rreq => exact meshRreqHandler_transfers s rreq
  | rrep rrep => exact meshRrepHandler_transfers rrep lossless
  | initiateRouteDiscovery cbuf dst => exact meshInitiateRouteDiscovery_transfers s cbuf dst
  | nlmeRouteDiscoveryRequest buf unicast noAddr networkAddr neighbor =>
    exact nlmeRouteDiscoveryRequest_transfers s buf unicast noAddr networkAddr neighbor
  | expiryRouteDisc =>
    simp only [exec, meshExpiryRouteDisc]
    split
    · apply SameBuffers.transfers (expireRouteDisc_same _ s)
      intro b
      split <;> exact Nat.le_refl 0
    · exact Transfers.refl s
  | expiryPending => exact meshExpiryPending_transfers lossless
  | leave =>
    exact ⟨fun _ => Nat.le_refl _, fun _ _ => rfl, fun _ _ => Nat.le_add_right _ _,
      fun _ => .inl (Nat.le_refl _)⟩
  | resetRequest warmStart =>
    apply SameBuffers.silent
    simp only [exec, nlmeResetRequest]
    split_ifs
    all_goals exact ⟨⟨rfl, rfl, rfl⟩, rfl⟩
  | resetConfirm => exact mlmeResetConfirm_transfers lossless

/-- The operation takes in the packet of a request in buffer `b`. -/
def Carries (b : BufRef) : Op → Prop
  | .nldeDataRequest nsdu handle => nsdu = b ∧ isRequestHandle handle = true
  | .forward param handle _ _ => param = b ∧ isRequestHandle handle = true
  | .mcpsDataConfirm param handle _ => param = b ∧ isRequestHandle handle = true
  | _ => False

/-- What an operation takes in for a request it passes on. -/
theorem exec_carries {b : BufRef} (spill : Spill) {op : Op} (carries : Carries b op)
    (lossless : Lossless s op) :
    1 ≤ (exec spill s op).1.requests b + callRequests (exec spill s op).1 (exec spill s op).2 b := by
  cases op with
  | nldeDataRequest nsdu handle =>
    obtain ⟨rfl, request⟩ := carries
    exact Nat.le_add_left_of_le (nldeDataRequest_request s nsdu request)
  | forward param handle nwhdr hops =>
    obtain ⟨rfl, request⟩ := carries
    obtain ⟨routable, room⟩ := lossless request
    exact forward_request request routable room
  | mcpsDataConfirm param handle success =>
    obtain ⟨rfl, request⟩ := carries
    exact Nat.le_add_left_of_le (mcpsDataConfirm_request s param request success)
  | _ => exact carries.elim

theorem usedWith_eq_zero {α : Type*} {size : ℕ} {t : Table α size} (account : t.Accounted)
    (empty : t.cnt = 0) (p : α → Bool) : t.usedWith p = 0 := by
  have unused : t.usedCnt = 0 := by rw [← account, empty, UInt8.toNat_zero]
  by_contra some_
  obtain ⟨i, inside, used, -⟩ := usedWith_pos_iff.mp (Nat.pos_of_ne_zero some_)
  rw [usedCnt_eq_zero_iff.mp unused i inside] at used
  cases used

theorem transmitAgain_scheduled (account : s.brrt.Accounted) (b : BufRef) :
    s.brrt.usedWith (·.buf == b) = 0 ∨ Call.broadcastTransmition ∈ transmitAgain s := by
  simp only [transmitAgain]
  split
  · exact .inr (List.mem_singleton_self _)
  · rename_i empty
    exact .inl (usedWith_eq_zero account (not_not.mp empty) _)

/-- After a transmission the next one is scheduled while the table is in use. -/
theorem broadcastTransmition_scheduled (kept : Consistent False s) (spill : Spill)
    (param : BufRef) (env : Surroundings)
    (inside : ∀ n ∈ marked s (.broadcastTransmition param env), n < 8) (b : BufRef) :
    (broadcastTransmition spill s param env).1.brrt.usedWith (·.buf == b) = 0 ∨
      Call.getBuf .broadcastTransmition ∈ (broadcastTransmition spill s param env).2 ∨
      Call.broadcastTransmition ∈ (broadcastTransmition spill s param env).2 := by
  have after := (broadcastTransmition_consistent kept spill param env inside).brrt
  simp only [broadcastTransmition] at after ⊢
  split
  · rename_i none_
    simp only [none_] at after
    exact (transmitAgain_scheduled after b).imp_right fun scheduled =>
      .inr (List.mem_append_right _ scheduled)
  · rename_i chosen
    simp only [chosen] at after
    split
    · exact .inr (.inl (List.mem_singleton_self _))
    · rename_i present
      rw [if_neg present] at after
      exact (transmitAgain_scheduled after b).imp_right fun scheduled =>
        .inr (List.mem_append_right _ scheduled)

/-! ### The service -/

namespace DataService

/-- The places where the packet of a request is held in buffer `b`. -/
def requests (w : DataService) (b : BufRef) : ℕ :=
  w.nwk.requests b + callRequests w.nwk w.tasks b +
    if isRequestHandle (w.nwk.reqParams b).msduHandle then w.mac.count b else 0

/-- A transmission of broadcasts is scheduled, with or without its buffer. -/
def Transmitting (w : DataService) : Prop :=
  Call.getBuf .broadcastTransmition ∈ w.tasks ∨ Call.broadcastTransmition ∈ w.tasks

/-- Request `n` has been confirmed once and its buffer is no longer held, or it has not been
confirmed and its buffer is held in one place. -/
def Settled (w : DataService) (n : ℕ) : Prop :=
  (w.confirms n = 1 ∧ ∀ b, w.request b = some n → w.refs b = 0) ∨
    (w.confirms n = 0 ∧ ∃ b, w.request b = some n ∧ w.refs b = 1)

/-- What every careful run keeps, while an operation has the buffers `bufs` in hand and, of
the requests, carries those of `carried`. -/
structure Served (w : DataService) (bufs : List BufRef) (carried : BufRef → Prop) : Prop where
  consistent : Consistent False w.nwk
  single : ∀ b, w.refs b + bufs.count b ≤ 1
  known : ∀ b n, w.request b = some n → n < w.issued
  unique : ∀ b b' n, w.request b = some n → w.request b' = some n → b = b'
  settled : ∀ n < w.issued,
    (w.confirms n = 1 ∧ ∀ b, w.request b = some n → w.refs b + bufs.count b = 0) ∨
      (w.confirms n = 0 ∧ ∃ b, w.request b = some n ∧ (1 ≤ w.requests b ∨ carried b))
  fresh : ∀ n, w.issued ≤ n → w.confirms n = 0

theorem requests_le_refs (w : DataService) (b : BufRef) : w.requests b ≤ w.refs b := by
  have tables : w.nwk.requests b ≤ w.nwk.refs b := by
    have parked : w.nwk.pending.usedWith (fun ent => ent.buf == b && isRequestHandle ent.handle) ≤
        w.nwk.pending.usedWith (·.buf == b) := by
      apply usedWith_mono
      intro ent both
      simp only [Bool.and_eq_true] at both
      exact both.1
    simp only [Nwk.requests, Nwk.refs]
    split
    · omega
    · omega
  have calls : callRequests w.nwk w.tasks b ≤ callRefs w.tasks b := callRequests_le_callRefs
  simp only [requests, refs]
  split
  · omega
  · omega

theorem callRequests_scheduled (s : Nwk) (calls : List Call) (b : BufRef) :
    callRequests s (calls.filter (·.isScheduled)) b = callRequests s calls b := by
  rw [callRequests, List.countP_filter]
  apply List.countP_congr
  intro call _
  cases call <;> simp [isRequestCall, Call.isScheduled]

theorem callRefs_scheduled_le (calls : List Call) (b : BufRef) :
    callRefs (calls.filter (·.isScheduled)) b ≤ callRefs calls b :=
  List.filter_sublist.countP_le

@[simp] theorem perform_nwk (spill : Spill) (op : Op) :
    (w.perform spill op).nwk = (exec spill w.nwk op).1 := rfl

@[simp] theorem perform_tasks (spill : Spill) (op : Op) : (w.perform spill op).tasks =
    w.tasks ++ (exec spill w.nwk op).2.filter (·.isScheduled) := rfl

@[simp] theorem perform_mac (spill : Spill) (op : Op) : (w.perform spill op).mac = w.mac := rfl

theorem brrt_empty_of_leave {op : Op} (leave : isLeave op = true) (lossless : Lossless s op) :
    s.brrt.usedCnt = 0 := by
  cases op with
  | leave => exact lossless
  | _ => cases leave

/-- An operation settles what it has in hand. -/
theorem perform_served (spill : Spill) {op : Op} (served : Served w op.bufs (Carries · op))
    (lossless : Lossless w.nwk op) (inside : ∀ n ∈ marked w.nwk op, n < 8) :
    Served (w.perform spill op) [] fun _ => False := by
  have moved := exec_transfers served.consistent spill op lossless inside
  have refs (b : BufRef) : (w.perform spill op).refs b ≤ w.refs b + op.bufs.count b := by
    have kept := moved.refs b
    have queued := callRefs_scheduled_le (exec spill w.nwk op).2 b
    simp only [DataService.refs, perform_nwk, perform_tasks, perform_mac, callRefs_append]
    omega
  refine ⟨?_, ?_, served.known, served.unique, ?_, served.fresh⟩
  · apply step_consistent spill op served.consistent _ inside
    intro leave
    exact ⟨fun watch => watch.elim, brrt_empty_of_leave leave lossless⟩
  · intro b
    exact Nat.le_trans (refs b) (served.single b)
  · intro n issued
    rcases served.settled n issued with ⟨once, gone⟩ | ⟨never, b, carries, place⟩
    · refine .inl ⟨once, ?_⟩
      intro b carries
      have bound := refs b
      rw [gone b carries] at bound
      exact Nat.le_zero.mp bound
    · refine .inr ⟨never, b, carries, .inl ?_⟩
      simp only [requests, perform_nwk, perform_tasks, perform_mac, callRequests_append,
        callRequests_scheduled]
      rcases place with held | carried
      · have one := served.single b
        have bounded := requests_le_refs w b
        have others : b ∉ op.bufs := by
          intro member
          have taken := List.count_pos_iff.mpr member
          omega
        have kept := moved.requests b others
        simp only [requests] at held
        simp only [moved.handles b others, callRequests_congr (moved.handles b others)] at kept ⊢
        omega
      · have passed := exec_carries (s := w.nwk) spill carried lossless
        omega

/-! ### Taking from the scheduler and the MAC -/

/-- Taking one call off the queue. -/
theorem callRefs_eraseIdx {calls : List Call} {i : ℕ} {call : Call} (at_ : calls[i]? = some call)
    (b : BufRef) :
    callRefs calls b = callRefs (calls.eraseIdx i) b + (call.buf == some b).toNat := by
  obtain ⟨inside, rfl⟩ := List.getElem?_eq_some_iff.mp at_
  rw [← callRefs_cons]
  exact (List.getElem_cons_eraseIdx_perm inside).symm.countP_eq _

theorem callRequests_eraseIdx {calls : List Call} {i : ℕ} {call : Call}
    (at_ : calls[i]? = some call) (s : Nwk) (b : BufRef) :
    callRequests s calls b =
      callRequests s (calls.eraseIdx i) b + (isRequestCall s b call).toNat := by
  obtain ⟨inside, rfl⟩ := List.getElem?_eq_some_iff.mp at_
  rw [← callRequests_cons]
  exact (List.getElem_cons_eraseIdx_perm inside).symm.countP_eq _

theorem count_eraseIdx {mac : List BufRef} {i : ℕ} {p : BufRef} (at_ : mac[i]? = some p)
    (b : BufRef) : mac.count b = (mac.eraseIdx i).count b + (p == b).toNat := by
  obtain ⟨inside, rfl⟩ := List.getElem?_eq_some_iff.mp at_
  rw [(List.getElem_cons_eraseIdx_perm inside).symm.count_eq b, List.count_cons, Bool.toNat,
    cond_eq_ite]

/-- Between two events nothing is in hand. -/
abbrev AtRest (w : DataService) : Prop := Served w [] fun _ => False

theorem AtRest.settled_iff (rest : AtRest w) {n : ℕ} (issued : n < w.issued) : w.Settled n := by
  rcases rest.settled n issued with ⟨once, gone⟩ | ⟨never, b, carries, held | ⟨⟨⟩⟩⟩
  · exact .inl ⟨once, gone⟩
  · have bounded := requests_le_refs w b
    have single := rest.single b
    rw [List.count_nil] at single
    exact .inr ⟨never, b, carries, by omega⟩

/-- A buffer the layer does not hold comes in, without a request. -/
theorem disown_served (rest : AtRest w) {bufs : List BufRef} (fresh : ∀ b ∈ bufs, w.refs b = 0)
    (single : ∀ b, bufs.count b ≤ 1) (carried : BufRef → Prop) :
    Served (w.disown bufs) bufs carried := by
  have refs (b : BufRef) : (w.disown bufs).refs b = w.refs b := rfl
  have owned {b : BufRef} {n : ℕ} (carries : (w.disown bufs).request b = some n) :
      b ∉ bufs ∧ w.request b = some n := by
    simp only [disown] at carries
    split at carries
    · cases carries
    · rename_i others
      exact ⟨others, carries⟩
  refine ⟨rest.consistent, ?_, fun b n carries => rest.known b n (owned carries).2, ?_, ?_,
    rest.fresh⟩
  · intro b
    by_cases member : b ∈ bufs
    · rw [refs, fresh b member, Nat.zero_add]
      exact single b
    · rw [refs, List.count_eq_zero.mpr member]
      exact rest.single b
  · intro b b' n carries carries'
    exact rest.unique b b' n (owned carries).2 (owned carries').2
  · intro n issued
    rcases rest.settled n issued with ⟨once, gone⟩ | ⟨never, b, carries, held | ⟨⟨⟩⟩⟩
    · refine .inl ⟨once, ?_⟩
      intro b carries
      obtain ⟨others, carries⟩ := owned carries
      rw [refs, List.count_eq_zero.mpr others]
      exact gone b carries
    · refine .inr ⟨never, b, ?_, .inl held⟩
      have others : b ∉ bufs := by
        intro member
        have bounded := requests_le_refs w b
        rw [fresh b member] at bounded
        omega
      simp [disown, others, carries]

/-- Taking a buffer from the queue or the MAC into the hands of an operation. -/
theorem handed_served (rest : AtRest w) {w' : DataService} {bufs : List BufRef}
    {carried : BufRef → Prop} (same : w'.nwk = w.nwk ∧ w'.request = w.request ∧
      w'.issued = w.issued ∧ w'.confirms = w.confirms)
    (refs : ∀ b, w'.refs b + bufs.count b ≤ w.refs b)
    (requests : ∀ b, 1 ≤ w.requests b → 1 ≤ w'.requests b ∨ carried b) :
    Served w' bufs carried := by
  obtain ⟨nwk, request, issued, confirms⟩ := same
  refine ⟨by rw [nwk]; exact rest.consistent, fun b => Nat.le_trans (refs b) (rest.single b), ?_, ?_,
    ?_, ?_⟩
  · rw [request, issued]
    exact rest.known
  · rw [request]
    exact rest.unique
  · rw [request, issued, confirms]
    intro n given
    rcases rest.settled n given with ⟨once, gone⟩ | ⟨never, b, carries, held | ⟨⟨⟩⟩⟩
    · refine .inl ⟨once, ?_⟩
      intro b carries
      have none_ := gone b carries
      rw [List.count_nil, Nat.add_zero] at none_
      exact Nat.le_zero.mp (none_ ▸ refs b)
    · exact .inr ⟨never, b, carries, requests b held⟩
  · rw [issued, confirms]
    exact rest.fresh

theorem bufs_count_le (op : Op) (b : BufRef) : op.bufs.count b ≤ 1 := by
  have single (p : BufRef) : [p].count b ≤ 1 := by
    rw [List.count_singleton]
    split <;> omega
  cases op with
  | broadcastTransmition param env =>
    simp only [Op.bufs]
    split
    · exact Nat.zero_le 1
    · exact single param
  | _ => first | exact single _ | exact Nat.zero_le 1

/-- A request comes in under the next number. -/
theorem take_request (rest : AtRest w) {nsdu : BufRef} {handle : UInt8}
    (free : w.refs nsdu = 0) (request : isRequestHandle handle = true) :
    Served (w.take (.request nsdu handle)) (Op.nldeDataRequest nsdu handle).bufs
      (Carries · (.nldeDataRequest nsdu handle)) := by
  have refs (b : BufRef) : (w.take (.request nsdu handle)).refs b = w.refs b := rfl
  have own : (w.take (.request nsdu handle)).request nsdu = some w.issued := Function.update_self ..
  have other {b : BufRef} (apart : b ≠ nsdu) :
      (w.take (.request nsdu handle)).request b = w.request b := Function.update_of_ne apart ..
  have older {b : BufRef} {n : ℕ} (carries : w.request b = some n) : n < w.issued :=
    rest.known b n carries
  refine ⟨rest.consistent, ?_, ?_, ?_, ?_, ?_⟩
  · intro b
    rw [refs]
    by_cases at_ : b = nsdu
    · rw [at_, free, Nat.zero_add]
      exact bufs_count_le _ _
    · have absent : (Op.nldeDataRequest nsdu handle).bufs.count b = 0 := by
        simpa [Op.bufs, List.count_singleton] using Ne.symm at_
      rw [absent]
      exact rest.single b
  · intro b n carries
    by_cases at_ : b = nsdu
    · rw [at_, own] at carries
      cases carries
      exact Nat.lt_succ_self _
    · rw [other at_] at carries
      exact Nat.lt_succ_of_lt (older carries)
  · intro b b' n carries carries'
    by_cases at_ : b = nsdu
    · by_cases at' : b' = nsdu
      · rw [at_, at']
      · rw [at_, own] at carries
        rw [other at'] at carries'
        cases carries
        exact absurd (older carries') (Nat.lt_irrefl _)
    · by_cases at' : b' = nsdu
      · rw [at', own] at carries'
        rw [other at_] at carries
        cases carries'
        exact absurd (older carries) (Nat.lt_irrefl _)
      · rw [other at_] at carries
        rw [other at'] at carries'
        exact rest.unique b b' n carries carries'
  · intro n issued
    rcases Nat.lt_succ_iff_lt_or_eq.mp issued with earlier | rfl
    · rcases rest.settled n earlier with ⟨once, gone⟩ | ⟨never, b, carries, held | ⟨⟨⟩⟩⟩
      · refine .inl ⟨once, ?_⟩
        intro b carries
        have at_ : b ≠ nsdu := by
          rintro rfl
          rw [own] at carries
          cases carries
          exact Nat.lt_irrefl _ earlier
        rw [other at_] at carries
        have absent : (Op.nldeDataRequest nsdu handle).bufs.count b = 0 := by
          simpa [Op.bufs, List.count_singleton] using Ne.symm at_
        rw [refs, absent]
        exact gone b carries
      · have at_ : b ≠ nsdu := by
          rintro rfl
          have bounded := requests_le_refs w b
          omega
        exact .inr ⟨never, b, by rw [other at_, carries], .inl held⟩
    · exact .inr ⟨rest.fresh _ (Nat.le_refl _), nsdu, own, .inr ⟨rfl, request⟩⟩
  · intro n later
    exact rest.fresh n (Nat.le_of_succ_le later)

/-- A call taken off the queue: its buffer goes into the hands of an operation, which carries
the request there is in it, or leaves the layer. -/
theorem erase_served (rest : AtRest w) {i : ℕ} {call : Call} (at_ : w.tasks[i]? = some call)
    {bufs : List BufRef} {carried : BufRef → Prop}
    (passed : ∀ b, bufs.count b ≤ (call.buf == some b).toNat)
    (request : ∀ b, isRequestCall w.nwk b call = true → carried b) :
    Served { w with tasks := w.tasks.eraseIdx i } bufs carried := by
  refine handed_served rest ⟨rfl, rfl, rfl, rfl⟩ ?_ ?_
  · intro b
    have taken := callRefs_eraseIdx at_ b
    have within := passed b
    simp only [DataService.refs]
    omega
  · intro b held
    have taken := callRequests_eraseIdx at_ w.nwk b
    cases isRequest : isRequestCall w.nwk b call with
    | true => exact .inr (request b isRequest)
    | false =>
      rw [isRequest, Bool.toNat_false, Nat.add_zero] at taken
      simp only [requests] at held ⊢
      rw [← taken]
      exact .inl held

theorem count_singleton_toNat (p b : BufRef) : [p].count b ≤ (some p == some b).toNat := by
  rw [List.count_singleton, Option.some_beq_some]
  cases p == b <;> decide

/-- Fewer buffers in hand. -/
theorem Served.mono {bufs fewer : List BufRef} {carried more : BufRef → Prop}
    (served : Served w bufs carried) (less : ∀ b, fewer.count b ≤ bufs.count b)
    (implies : ∀ b, carried b → more b) : Served w fewer more where
  consistent := served.consistent
  single b := Nat.le_trans (Nat.add_le_add_left (less b) _) (served.single b)
  known := served.known
  unique := served.unique
  settled n issued := by
    rcases served.settled n issued with ⟨once, gone⟩ | ⟨never, b, carries, place⟩
    · refine .inl ⟨once, ?_⟩
      intro b carries
      have none_ := gone b carries
      have within := less b
      omega
    · exact .inr ⟨never, b, carries, place.imp_right (implies b)⟩
  fresh := served.fresh

theorem waiterOp_bufs {args : Args} {waiter : Waiter} {op : Op}
    (goes : waiterOp args waiter = some op) (b : BufRef) :
    op.bufs.count b ≤ [args.param].count b := by
  cases waiter <;> cases goes
  · exact Nat.le_refl _
  · simp only [Op.bufs]
    split
    · exact Nat.zero_le _
    · exact Nat.le_refl _
  · exact Nat.le_refl _

/-- What a callback takes off the queue for its operation. -/
theorem take_callback (rest : AtRest w) {i : ℕ} {args : Args} {op : Op}
    (runs : w.operation (.callback i args) = some op) :
    Served (w.take (.callback i args)) op.bufs (Carries · op) := by
  obtain ⟨call, at_, taskOp⟩ := Option.bind_eq_some_iff.mp runs
  simp only [take, at_]
  cases call with
  | forward b handle =>
    cases taskOp
    apply erase_served rest at_ (count_singleton_toNat b)
    intro b' request
    simpa [isRequestCall, Carries] using request
  | callBrConfirm b =>
    cases taskOp
    apply erase_served rest at_ (count_singleton_toNat b)
    intro b' request
    simp only [isRequestCall, Bool.and_eq_true, beq_iff_eq] at request
    obtain ⟨rfl, request⟩ := request
    exact ⟨rfl, request⟩
  | broadcastTransmition =>
    cases taskOp
    exact erase_served rest at_ (fun _ => Nat.zero_le _) fun _ request => by cases request
  | getBuf waiter =>
    simp only [DataService.taskOp] at taskOp
    split at taskOp
    · rename_i free
      have erased : AtRest { w with tasks := w.tasks.eraseIdx i } :=
        erase_served rest at_ (fun _ => Nat.zero_le _) fun _ request => by cases request
      have unheld : ∀ b ∈ [args.param],
          DataService.refs { w with tasks := w.tasks.eraseIdx i } b = 0 := by
        intro b member
        have taken := callRefs_eraseIdx at_ b
        rw [List.mem_singleton.mp member] at taken ⊢
        simp only [DataService.refs] at free ⊢
        omega
      have disowned : Served _ [args.param] (Carries · op) :=
        disown_served erased unheld (bufs_count_le (.newBufferAllocated args.param)) _
      exact disowned.mono (waiterOp_bufs taskOp) fun _ carries => carries
    · cases taskOp
  | _ => cases taskOp

theorem take_macConfirm (rest : AtRest w) {i : ℕ} {success : Bool} {op : Op}
    (runs : w.operation (.macConfirm i success) = some op) :
    Served (w.take (.macConfirm i success)) op.bufs (Carries · op) := by
  obtain ⟨p, at_, rfl⟩ := Option.map_eq_some_iff.mp runs
  refine handed_served rest ⟨rfl, rfl, rfl, rfl⟩ ?_ ?_
  · intro b
    have taken := count_eraseIdx at_ b
    have within := count_singleton_toNat p b
    rw [Option.some_beq_some] at within
    simp only [DataService.refs, take, Op.bufs]
    omega
  · intro b held
    have taken := count_eraseIdx at_ b
    simp only [requests, take] at held ⊢
    by_cases same : p = b
    · subst same
      split at held
      · rename_i request
        exact .inr ⟨rfl, request⟩
      · rename_i foreign
        simp only [foreign]
        exact .inl held
    · have apart : (p == b) = false := beq_eq_false_iff_ne.mpr same
      rw [apart, Bool.toNat_false, Nat.add_zero] at taken
      rw [← taken]
      exact .inl held

theorem take_served (rest : AtRest w) {event : Event} {op : Op}
    (runs : w.operation event = some op) (lossless : Lossless w.nwk op) :
    Served (w.take event) op.bufs (Carries · op) := by
  cases event with
  | request nsdu handle =>
    simp only [operation] at runs
    split at runs
    · rename_i free
      cases runs
      exact take_request rest free lossless
    · cases runs
  | input input =>
    simp only [operation] at runs
    split at runs
    · rename_i enters
      cases runs
      simp only [Bool.and_eq_true, List.all_eq_true, beq_iff_eq] at enters
      exact disown_served rest enters.2 (bufs_count_le op) _
    · cases runs
  | callback i args => exact take_callback rest runs
  | macConfirm i success => exact take_macConfirm rest runs

/-! ### Passing on -/

/-- A request's confirm is called: the request is settled. -/
theorem confirm_rest {b : BufRef} (served : Served w [b] (· = b)) : AtRest (w.confirm b) := by
  have free := served.single b
  simp only [List.count_singleton_self] at free
  have confirmed : (w.confirm b).refs = w.refs ∧ (w.confirm b).requests = w.requests ∧
      (w.confirm b).request = w.request ∧ (w.confirm b).issued = w.issued ∧
      (w.confirm b).nwk = w.nwk := by
    simp only [confirm]
    split <;> exact ⟨rfl, rfl, rfl, rfl, rfl⟩
  obtain ⟨refs, requests, request, issued, nwk⟩ := confirmed
  refine ⟨by rw [nwk]; exact served.consistent, ?_, ?_, by rw [request]; exact served.unique, ?_,
    ?_⟩
  · intro b'
    rw [refs]
    exact Nat.le_trans (Nat.le_add_right _ _) (served.single b')
  · rw [request, issued]
    exact served.known
  · rw [refs, requests, request, issued]
    intro n given
    cases owner : w.request b with
    | none =>
      have same : (w.confirm b).confirms = w.confirms := by simp [confirm, owner]
      rw [same]
      rcases served.settled n given with ⟨once, gone⟩ | ⟨never, b', carries, held | rfl⟩
      · exact .inl ⟨once, fun b' carries => Nat.le_zero.mp (gone b' carries ▸ Nat.le_add_right _ _)⟩
      · exact .inr ⟨never, b', carries, .inl held⟩
      · rw [owner] at carries
        cases carries
    | some m =>
      have counted : (w.confirm b).confirms = Function.update w.confirms m (w.confirms m + 1) := by
        simp [confirm, owner]
      rw [counted]
      by_cases at_ : n = m
      · subst at_
        rw [Function.update_self]
        rcases served.settled n given with ⟨-, gone⟩ | ⟨never, -⟩
        · have none_ := gone b owner
          simp at none_
        · refine .inl ⟨by rw [never], ?_⟩
          intro b' carries
          rw [served.unique b' b n carries owner, List.count_nil]
          omega
      · rw [Function.update_of_ne at_]
        rcases served.settled n given with ⟨once, gone⟩ | ⟨never, b', carries, held | rfl⟩
        · exact .inl ⟨once, fun b' carries =>
            Nat.le_zero.mp (gone b' carries ▸ Nat.le_add_right _ _)⟩
        · exact .inr ⟨never, b', carries, .inl held⟩
        · rw [owner] at carries
          cases carries
          exact absurd rfl at_
  · rw [issued]
    intro n later
    cases owner : w.request b with
    | none => simpa [confirm, owner] using served.fresh n later
    | some m =>
      have earlier := served.known b m owner
      have apart : n ≠ m := by omega
      simpa [confirm, owner, apart] using served.fresh n later

/-- The MAC takes a packet over. -/
theorem mcpsDataRequest_rest (rest : AtRest w) {i : ℕ} {p : BufRef}
    (at_ : w.tasks[i]? = some (.mcpsDataRequest p)) :
    AtRest { w with tasks := w.tasks.eraseIdx i, mac := p :: w.mac } := by
  refine handed_served rest ⟨rfl, rfl, rfl, rfl⟩ ?_ ?_
  · intro b
    have taken := callRefs_eraseIdx at_ b
    simp only [Call.buf, Option.some_beq_some, Bool.toNat, cond_eq_ite] at taken
    simp only [DataService.refs, List.count_cons, List.count_nil]
    omega
  · intro b held
    have taken := callRequests_eraseIdx at_ w.nwk b
    simp only [isRequestCall, Bool.toNat, cond_eq_ite, Bool.and_eq_true] at taken
    simp only [requests, List.count_cons] at held ⊢
    refine .inl ?_
    split at held
    · rename_i request
      simp only [request, and_true, if_true] at taken ⊢
      omega
    · rename_i foreign
      simp only [foreign, Bool.false_eq_true, and_false, if_false] at taken ⊢
      omega

theorem passOn_rest (rest : AtRest w) {event : Event} (none_ : w.operation event = none) :
    AtRest (w.passOn event) := by
  cases event with
  | callback i args =>
    have dropped {call : Call} (at_ : w.tasks[i]? = some call)
        (foreign : ∀ b, isRequestCall w.nwk b call = false) :
        AtRest { w with tasks := w.tasks.eraseIdx i } :=
      erase_served rest at_ (fun _ => Nat.zero_le _) fun b request => by simp [foreign] at request
    simp only [passOn]
    split
    · rename_i at_
      exact mcpsDataRequest_rest rest at_
    · rename_i p at_
      apply confirm_rest
      apply erase_served rest at_ (count_singleton_toNat p)
      intro b request
      exact (beq_iff_eq.mp request).symm
    · rename_i at_
      split
      · exact dropped at_ fun _ => rfl
      · exact rest
    · rename_i call notRequest notConfirm notWaiting at_
      simp only [operation, at_, Option.bind_some] at none_
      apply dropped at_
      cases call with
      | forward => cases none_
      | callBrConfirm => cases none_
      | mcpsDataRequest b => exact absurd rfl (notRequest b)
      | nldeDataConfirm b => exact absurd rfl (notConfirm b)
      | _ => exact fun _ => rfl
    · exact rest
  | _ => exact rest

theorem take_nwk (w : DataService) (event : Event) : (w.take event).nwk = w.nwk := by
  cases event with
  | callback i args =>
    simp only [take]
    split <;> rfl
  | _ => rfl

/-- One careful event keeps every request settled. -/
theorem step_rest (spill : Spill) {event : Event} (rest : AtRest w) (careful : Careful w event) :
    AtRest (w.step spill event) := by
  simp only [DataService.step]
  split
  · rename_i op runs
    obtain ⟨lossless, inside⟩ := careful op runs
    have taken := take_served rest runs lossless
    rw [← take_nwk w event] at lossless inside
    exact perform_served spill taken lossless inside
  · rename_i none_
    exact passOn_rest rest none_

theorem init_rest (device : Device) : AtRest (init device) where
  consistent := consistent_init False device
  single b := by simp [init, DataService.refs, Nwk.init, Nwk.refs]
  known _ _ carries := by cases carries
  unique _ _ _ carries := by cases carries
  settled n issued := absurd issued (Nat.not_lt_zero n)
  fresh _ _ := rfl

/-! ### No broadcast is stranded -/

/-- While a broadcast is in the retransmission table, its transmission is scheduled. -/
def Scheduled (w : DataService) : Prop :=
  ∀ b, w.nwk.brrt.usedWith (·.buf == b) = 0 ∨ w.Transmitting

theorem mem_eraseIdx_of_ne {calls : List Call} {i : ℕ} {call other : Call}
    (at_ : calls[i]? = some call) (member : other ∈ calls) (apart : other ≠ call) :
    other ∈ calls.eraseIdx i := by
  obtain ⟨inside, rfl⟩ := List.getElem?_eq_some_iff.mp at_
  have split_ := (List.getElem_cons_eraseIdx_perm inside).symm.mem_iff.mp member
  exact (List.mem_cons.mp split_).resolve_left apart

theorem transmitting_erase {i : ℕ} {call : Call} (at_ : w.tasks[i]? = some call)
    (transmitting : w.Transmitting) (notWaiting : call ≠ .getBuf .broadcastTransmition)
    (notScheduled : call ≠ .broadcastTransmition) {w' : DataService}
    (tasks : w'.tasks = w.tasks.eraseIdx i) : w'.Transmitting := by
  rw [Transmitting, tasks]
  exact transmitting.imp (fun member => mem_eraseIdx_of_ne at_ member notWaiting.symm)
    fun member => mem_eraseIdx_of_ne at_ member notScheduled.symm

/-- Only a transmission takes a scheduled transmission off the queue. -/
theorem take_transmitting {event : Event} {op : Op} (runs : w.operation event = some op)
    (transmitting : w.Transmitting) :
    (w.take event).Transmitting ∨ ∃ param env, op = .broadcastTransmition param env := by
  cases event with
  | callback i args =>
    obtain ⟨call, at_, taskOp⟩ := Option.bind_eq_some_iff.mp runs
    by_cases waiting : call = .getBuf .broadcastTransmition
    · subst waiting
      simp only [DataService.taskOp] at taskOp
      split at taskOp
      · cases taskOp
        exact .inr ⟨_, _, rfl⟩
      · cases taskOp
    by_cases scheduled : call = .broadcastTransmition
    · subst scheduled
      cases taskOp
      exact .inr ⟨_, _, rfl⟩
    · refine .inl (transmitting_erase at_ transmitting waiting scheduled ?_)
      simp only [take, at_]
      split <;> rfl
  | _ => exact .inl transmitting

theorem passOn_scheduled (scheduled : Scheduled w) {event : Event}
    (none_ : w.operation event = none) : Scheduled (w.passOn event) := by
  cases event with
  | callback i args =>
    have nwk : (w.passOn (.callback i args)).nwk = w.nwk := by
      simp only [passOn]
      split
      · rfl
      · simp only [confirm]
        split <;> rfl
      · split <;> rfl
      · rfl
      · rfl
    intro b
    rw [nwk]
    refine (scheduled b).imp_right fun transmitting => ?_
    cases at_ : w.tasks[i]? with
    | none =>
      simp only [passOn, at_]
      exact transmitting
    | some call =>
      simp only [operation, at_, Option.bind_some] at none_
      by_cases free : w.refs args.param = 0
      · have other : call ≠ .getBuf .broadcastTransmition := by
          rintro rfl
          simp [DataService.taskOp, free, waiterOp] at none_
        have apart : call ≠ .broadcastTransmition := by
          rintro rfl
          cases none_
        apply transmitting_erase at_ transmitting other apart
        cases call <;> simp [passOn, at_, free, confirm]
        split <;> rfl
      · cases call with
        | getBuf waiter =>
          simp only [passOn, at_, free, if_false]
          exact transmitting
        | broadcastTransmition => cases none_
        | _ =>
          apply transmitting_erase at_ transmitting (by simp) (by simp)
          simp only [passOn, at_, confirm]
          try split <;> rfl
  | _ => exact scheduled

theorem step_scheduled (spill : Spill) {event : Event} (rest : AtRest w)
    (scheduled : Scheduled w) (careful : Careful w event) :
    Scheduled (w.step spill event) := by
  simp only [DataService.step]
  split
  · rename_i op runs
    obtain ⟨lossless, inside⟩ := careful op runs
    have moved := exec_transfers rest.consistent spill op lossless inside
    intro b
    have queue {call : Call} (member : call ∈ (exec spill w.nwk op).2)
        (isScheduled : call.isScheduled = true) :
        call ∈ ((w.take event).perform spill op).tasks := by
      rw [perform_tasks, take_nwk]
      exact List.mem_append_right _ (List.mem_filter.mpr ⟨member, isScheduled⟩)
    rw [perform_nwk, take_nwk]
    by_cases transmission : ∃ param env, op = .broadcastTransmition param env
    · obtain ⟨param, env, rfl⟩ := transmission
      rcases broadcastTransmition_scheduled rest.consistent spill param env inside b with
        empty | waiting | again
      · exact .inl empty
      · exact .inr (.inl (queue waiting rfl))
      · exact .inr (.inr (queue again rfl))
    · rcases moved.queued b with fewer | queued
      · rcases scheduled b with empty | transmitting
        · rw [empty] at fewer
          exact .inl (Nat.le_zero.mp fewer)
        · have survives := (take_transmitting runs transmitting).resolve_right transmission
          refine .inr (survives.imp ?_ ?_)
          all_goals exact fun member => List.mem_append_left _ member
      · exact .inr (.inl (queue queued rfl))
  · rename_i none_
    exact passOn_scheduled scheduled none_

end DataService

/-- **Each request is confirmed exactly once.** In every careful run a request has been confirmed
once and its buffer is held no more, or it has not been confirmed and its buffer is held in one
place; once the layer holds no buffer, all are confirmed.  While a broadcast is queued its next
transmission is scheduled. -/
theorem one_confirm_per_request (spill : Spill) (device : Device) (events : List Event)
    (careful : Along (DataService.step spill) Careful (DataService.init device) events) :
    let w := run (DataService.step spill) (DataService.init device) events
    (∀ n < w.issued, w.Settled n) ∧
      ((∀ b, w.refs b = 0) → ∀ n < w.issued, w.confirms n = 1) ∧ w.Scheduled := by
  intro w
  have kept (w : DataService) (event : Event) (settled : w.AtRest ∧ w.Scheduled)
      (careful : Careful w event) : (w.step spill event).AtRest ∧ (w.step spill event).Scheduled :=
    ⟨DataService.step_rest spill settled.1 careful,
      DataService.step_scheduled spill settled.1 settled.2 careful⟩
  obtain ⟨rest, scheduled⟩ := invariant_of_along kept _ events
    ⟨DataService.init_rest device, fun b => .inl (usedWith_cleared _ _)⟩ careful
  refine ⟨fun n issued => rest.settled_iff issued, ?_, scheduled⟩
  intro idle n issued
  rcases rest.settled_iff issued with ⟨once, -⟩ | ⟨-, b, -, held⟩
  · exact once
  · rw [idle b] at held
    cases held

/-- What a callback finds where a packet goes to a neighbour. -/
def toNeighbor : Args where
  param := 0
  nwhdr := ⟨0x5678, 0x1234, 1, true⟩
  hops := ⟨some true, 0, none, fun _ => false, none⟩
  env := ⟨0, fun _ => 0, fun _ => 0, fun _ _ => none, 0⟩
  dst _ := 0x5678
  success := true

/-- A request for a neighbour is sent, and its buffer used for another one. -/
theorem one_confirm_per_request_neighbor :
    let events := [.request 3 0, .callback 0 toNeighbor, .callback 0 toNeighbor, .macConfirm 0 true,
      .callback 0 toNeighbor, .request 3 1]
    let w := run (DataService.step fun t _ _ => t) (DataService.init router) events
    (∀ n < w.issued, w.Settled n) ∧
      ((∀ b, w.refs b = 0) → ∀ n < w.issued, w.confirms n = 1) ∧ w.Scheduled :=
  one_confirm_per_request (fun t _ _ => t) router _ (by decide +kernel)

/-- What a callback finds where no route to the destination is known. -/
def toStranger : Args := { toNeighbor with hops := { toNeighbor.hops with neighbor := none } }

/-- A request whose route discovery finds nothing. -/
def expiredRequest : DataService :=
  run (DataService.step fun t _ _ => t) (DataService.init router)
    ([.request 3 0, .callback 0 toStranger] ++ List.replicate 21 (.input .expiryPending))

/-- It is dropped without a confirm. -/
theorem expiredRequest_unconfirmed :
    expiredRequest.issued = 1 ∧ expiredRequest.confirms 0 = 0 ∧ expiredRequest.refs 3 = 0 ∧
      ¬ expiredRequest.Settled 0 := by
  refine ⟨by decide +kernel, by decide +kernel, by decide +kernel, ?_⟩
  rintro (⟨once, -⟩ | ⟨-, b, -, held⟩)
  · exact absurd once (by decide +kernel)
  · have idle : ∀ n < 256, expiredRequest.refs (UInt8.ofNat n) = 0 := by decide +kernel
    have free := idle b.toNat b.toNat_lt
    rw [UInt8.ofNat_toNat, held] at free
    cases free

end Zboss.DynamicTables
