import Zboss.Nwk.DataTransfers

/-!
What becomes of the buffer of a route request, a route reply or a confirm of a route discovery.
The handlers free it or schedule a callback that has it; a callback that finds the callback
queue full is lost, and nobody looks at the status of `ZB_SCHEDULE_CALLBACK`.
-/

namespace Zboss.RouteBuffers

open Zboss.DynamicTables Zboss.SlotTable Zboss.SlotTable.Table

/-- `zb_nlme_route_discovery_confirm`: it looks at the parameter and returns. -/
def nlmeRouteDiscoveryConfirm (_ : BufRef) : List Call := []

/-- What comes in with a buffer. -/
inductive Received
  | rreq (rreq : RouteRequest)
  | rrep (rrep : RouteReply)
  | confirm (param : BufRef)

/-- The buffer that comes in. -/
def Received.buf : Received → BufRef
  | .rreq cmd => cmd.buf
  | .rrep cmd => cmd.buf
  | .confirm param => param

/-- The handlers. -/
def handle (s : Nwk) : Received → Nwk × List Call
  | .rreq rreq => meshRreqHandler s rreq
  | .rrep rrep => meshRrepHandler s rrep
  | .confirm param => (s, nlmeRouteDiscoveryConfirm param)

/-- The calls that have an effect while the callback queue has `room`. -/
def taken : ℕ → List Call → List Call
  | _, [] => []
  | 0, call :: rest => if call.isScheduled then taken 0 rest else call :: taken 0 rest
  | room + 1, call :: rest => call :: taken (if call.isScheduled then room else room + 1) rest

/-- Every buffer is where it was, the new one aside, or has been passed on or freed; and none
more than once. -/
def DisposedOnce (s : Nwk) (room : ℕ) (received : Received) : Prop :=
  ∀ b, (handle s received).1.refs b + callRefs (taken room (handle s received).2) b =
    s.refs b + [received.buf].count b

/-! ## The condition -/

/-- The layers above wait for the confirm of a discovery of `dest`. -/
def askedByAps (s : Nwk) (dest : UInt16) : Prop := s.apsRreqAddr ≠ 0 ∧ s.apsRreqAddr = dest

/-- A request that goes no further: there is no room for it in the tables and nobody waits for a
confirm, or it is known from a path that costs no more. -/
def rreqDropped (s : Nwk) (rreq : RouteRequest) : Prop :=
  match rreqRouting s rreq.destAddr with
  | none => ¬ askedByAps s rreq.destAddr
  | some (_, s') =>
    match rreqDiscovery s' rreq (nwkCalcPathCost s rreq.srcAddr rreq.lqi + rreq.pathCost) with
    | .worse => True
    | .noMemory => ¬ askedByAps s' rreq.destAddr
    | .process _ => False

/-- A reply that goes no further: it is not known which request it is for, or there is a path
that costs less. -/
def rrepDropped (s : Nwk) (rrep : RouteReply) : Prop :=
  match s.routeDisc.findEnt fun ent =>
      ent.requestId == rrep.rreqId && ent.sourceAddr == rrep.originator,
    s.routing.findEnt fun ent => ent.destAddr == rrep.responder with
  | some d, some _ =>
    (s.routeDisc.slots d).ent.residualCost <
      nwkCalcPathCost s rrep.srcAddr rrep.lqi + rrep.pathCost
  | _, _ => True

/-- The packets that wait for a route to `dest`. -/
def waitingFor (s : Nwk) (dest : UInt16) : ℕ := s.pending.usedWith (·.destAddr == dest)

/-- The callback queue has room for what is scheduled; and a reply does not complete a discovery
that the layers above wait for, unless the packets that waited fill the queue.  A confirm is
never regular. -/
def Regular (s : Nwk) (room : ℕ) : Received → Prop
  | .rreq rreq => rreqDropped s rreq ∨ 0 < room
  | .rrep rrep =>
    rrepDropped s rrep ∨
      if rrep.originator = s.device.networkAddress then
        waitingFor s rrep.responder ≤ room ∧
          (s.apsRreqAddr = rrep.responder → room = waitingFor s rrep.responder)
      else 0 < room
  | .confirm _ => False

/-! ## Calls and the queue -/

variable {s s' : Nwk} {room : ℕ} {calls : List Call}

theorem taken_append (more : List Call) (scheduled : ∀ call ∈ calls, call.isScheduled = true) :
    taken room (calls ++ more) = calls.take room ++ taken (room - calls.length) more := by
  induction calls generalizing room with
  | nil => simp
  | cons call rest induction_ =>
    obtain ⟨first, others⟩ := List.forall_mem_cons.mp scheduled
    cases room with
    | zero =>
      have none_ : taken 0 (rest ++ more) = _ := induction_ others
      simpa [taken, first] using none_
    | succ room => simp [taken, first, induction_ others]

theorem taken_single (call : Call) :
    taken room [call] = if call.isScheduled = true ∧ room = 0 then [] else [call] := by
  cases room <;> cases scheduled : call.isScheduled <;> simp [taken, scheduled]

/-- Calls are all taken exactly when there is room for them. -/
theorem callRefs_take_iff (passed : ∀ call ∈ calls, call.buf.isSome = true) :
    (∀ b, callRefs (calls.take room) b = callRefs calls b) ↔ calls.length ≤ room := by
  constructor
  · intro all
    by_contra short
    rw [Nat.not_le] at short
    obtain ⟨b, buf⟩ := Option.isSome_iff_exists.mp (passed _ (List.getElem_mem short))
    have split_ : callRefs (calls.take room ++ calls.drop room) b = _ := callRefs_append _
    rw [List.take_append_drop, all b, List.drop_eq_getElem_cons short, callRefs_cons, buf] at split_
    simp at split_
  · intro fits b
    rw [List.take_of_length_le fits]

theorem callRefs_call {call : Call} {p : BufRef} (buf : call.buf = some p) (b : BufRef) :
    callRefs [call] b = [p].count b := by
  rw [callRefs_cons, callRefs_nil, List.count_singleton, Nat.zero_add, buf]
  simp [Bool.toNat, cond_eq_ite]

/-- One call for the one buffer. -/
theorem disposed_single_iff (same : SameTables s s') {call : Call} {p : BufRef}
    (buf : call.buf = some p) :
    (∀ b, s'.refs b + callRefs (taken room [call]) b = s.refs b + [p].count b) ↔
      (call.isScheduled = true → 0 < room) := by
  have refs (b : BufRef) : s'.refs b = s.refs b := by
    simp only [Nwk.refs, same.pending, same.brrt, same.waitAlloc]
  simp only [refs, taken_single, ← callRefs_call buf]
  split
  · rename_i lost
    have owed : callRefs [call] p = 1 := by simp [callRefs_call buf]
    constructor
    · intro kept
      have none_ := kept p
      rw [owed, callRefs_nil] at none_
      omega
    · intro room_
      have positive := room_ lost.1
      omega
  · rename_i accepted
    simp only [implies_true, true_iff]
    intro scheduled
    by_contra full
    exact accepted ⟨scheduled, by omega⟩

/-! ## The handlers -/

theorem rreqFailed_disposed_iff (same : SameTables s s') (rreq : RouteRequest) (s'' : Nwk) :
    (∀ b, s'.refs b + callRefs (taken room (rreqFailed s'' rreq)) b =
        s.refs b + [rreq.buf].count b) ↔
      ¬ askedByAps s'' rreq.destAddr ∨ 0 < room := by
  rw [rreqFailed]
  change _ ↔ ¬ (s''.apsRreqAddr ≠ 0 ∧ s''.apsRreqAddr = rreq.destAddr) ∨ 0 < room
  split
  · rename_i asked
    rw [disposed_single_iff same rfl, or_iff_right (not_not.mpr asked)]
    simp [Call.isScheduled]
  · rename_i unasked
    rw [disposed_single_iff same rfl]
    exact iff_of_true (by simp [Call.isScheduled]) (Or.inl unasked)

theorem rreq_disposed_iff (rreq : RouteRequest) :
    DisposedOnce s room (.rreq rreq) ↔ rreqDropped s rreq ∨ 0 < room := by
  simp only [DisposedOnce, handle, meshRreqHandler, rreqDropped, Received.buf]
  cases found : rreqRouting s rreq.destAddr with
  | none => exact rreqFailed_disposed_iff ⟨rfl, rfl, rfl⟩ rreq s
  | some routed =>
    obtain ⟨r, s'⟩ := routed
    have routed := (rreqRouting_same found).toSameTables
    dsimp only
    cases processed : rreqDiscovery s' rreq
        (nwkCalcPathCost s rreq.srcAddr rreq.lqi + rreq.pathCost) with
    | worse => exact (disposed_single_iff routed rfl).trans (by simp [Call.isScheduled])
    | noMemory => exact rreqFailed_disposed_iff { routed with } rreq s'
    | process s'' =>
      have noted := (rreqDiscovery_same processed).toSameTables
      have both : SameTables s s'' := ⟨noted.pending.trans routed.pending,
        noted.brrt.trans routed.brrt, noted.waitAlloc.trans routed.waitAlloc⟩
      exact (disposed_single_iff both rfl).trans (by simp [Call.isScheduled])

/-- As many packets are released as waited. -/
theorem releasePending_length (dest : UInt16) :
    ∀ (slots : List ℕ) (t : Table NwkPend nwkPendingTableSize),
      (∀ i ∈ slots, i < nwkPendingTableSize) →
        (releasePending dest slots t).1.usedWith (·.destAddr == dest) +
          (releasePending dest slots t).2.length = t.usedWith (·.destAddr == dest) := by
  intro slots
  induction slots with
  | nil => exact fun t _ => rfl
  | cons i rest induction_ =>
    intro t inside
    obtain ⟨first, others⟩ := List.forall_mem_cons.mp inside
    rw [releasePending]
    split
    · rename_i waiting
      simp only [Bool.and_eq_true] at waiting
      have released := induction_ (t.putEnt i) others
      have given := usedWith_putEnt (p := fun ent => ent.destAddr == dest) first waiting.1
      rw [waiting.2, Bool.toNat_true] at given
      dsimp only
      rw [List.length_cons]
      omega
    · exact induction_ t others

theorem releasePending_all (dest : UInt16) (t : Table NwkPend nwkPendingTableSize) :
    (releasePending dest (List.range nwkPendingTableSize) t).2.length =
      t.usedWith (·.destAddr == dest) := by
  have released := releasePending_length dest (List.range nwkPendingTableSize) t
    fun i member => List.mem_range.mp member
  have none_ : (releasePending dest (List.range nwkPendingTableSize) t).1.usedWith
      (·.destAddr == dest) = 0 := by
    by_contra some_
    obtain ⟨i, inside, used, waits⟩ := usedWith_pos_iff.mp (Nat.pos_of_ne_zero some_)
    rw [releasePending_slots] at used waits
    split at used
    · cases used
    · rename_i stays
      rw [if_neg stays, beq_iff_eq] at waits
      exact stays ⟨List.mem_range.mpr inside, used, waits⟩
  omega

/-- The packets that waited are passed on, and then `rest` is done. -/
theorem released_disposed_iff (s : Nwk) (dest : UInt16) (rest : List Call) (p : BufRef)
    {released : Table NwkPend nwkPendingTableSize × List Call}
    (release : releasePending dest (List.range nwkPendingTableSize) s.pending = released)
    (same : ∀ b, s'.refs b + s.pending.usedWith (·.buf == b) =
      s.refs b + released.1.usedWith (·.buf == b)) :
    (∀ b, s'.refs b + callRefs (taken room (released.2 ++ rest)) b = s.refs b + [p].count b) ↔
      ∀ b, callRefs (released.2.take room) b +
          callRefs (taken (room - waitingFor s dest) rest) b =
        callRefs released.2 b + [p].count b := by
  have length : released.2.length = waitingFor s dest := release ▸ releasePending_all dest s.pending
  have scheduled : ∀ call ∈ released.2, call.isScheduled = true := by
    intro call member
    rw [← release] at member
    obtain ⟨_, _, rfl⟩ := releasePending_calls dest _ s.pending call member
    rfl
  apply forall_congr'
  intro b
  have moved := (releasePending_spec (s := s) dest b (List.range nwkPendingTableSize) s.pending
    fun i member => List.mem_range.mp member).1
  rw [release] at moved
  have kept := same b
  rw [taken_append rest scheduled, callRefs_append, length]
  omega

/-- Behind the packets the buffer is freed. -/
theorem freed_iff (p : BufRef) (passed : ∀ call ∈ calls, call.buf.isSome = true) (left : ℕ) :
    (∀ b, callRefs (calls.take room) b + callRefs (taken left [.freeBuf p]) b =
        callRefs calls b + [p].count b) ↔ calls.length ≤ room := by
  rw [← callRefs_take_iff passed, taken_single, if_neg (by simp [Call.isScheduled])]
  apply forall_congr'
  intro b
  rw [callRefs_call rfl]
  omega

/-- Behind the packets the buffer is put into a confirm, and freed. -/
theorem confirmed_iff (p : BufRef) (passed : ∀ call ∈ calls, call.buf.isSome = true) :
    (∀ b, callRefs (calls.take room) b + callRefs (taken (room - calls.length)
        [.nlmeRouteDiscoveryConfirm p true, .freeBuf p]) b = callRefs calls b + [p].count b) ↔
      room = calls.length := by
  cases left : room - calls.length with
  | zero =>
    have skipped : taken 0 [.nlmeRouteDiscoveryConfirm p true, .freeBuf p] =
        taken 0 [.freeBuf p] := by
      simp [taken, Call.isScheduled]
    rw [skipped, freed_iff p passed]
    omega
  | succ n =>
    refine iff_of_false ?_ (by omega)
    intro kept
    have twice := kept p
    rw [List.take_of_length_le (by omega)] at twice
    have both : taken (n + 1) [.nlmeRouteDiscoveryConfirm p true, .freeBuf p] =
        [.nlmeRouteDiscoveryConfirm p true] ++ [.freeBuf p] := by
      cases n <;> simp [taken, Call.isScheduled]
    rw [both, callRefs_append, callRefs_call rfl, callRefs_call rfl, List.count_singleton_self]
      at twice
    omega

theorem rrep_disposed_iff (rrep : RouteReply) :
    DisposedOnce s room (.rrep rrep) ↔ Regular s room (.rrep rrep) := by
  have dropped {s' : Nwk} (same : SameTables s s') :
      ∀ b, s'.refs b + callRefs (taken room [.freeBuf rrep.buf]) b =
        s.refs b + [rrep.buf].count b :=
    (disposed_single_iff same rfl).mpr nofun
  simp only [DisposedOnce, handle, meshRrepHandler, Regular, rrepDropped, Received.buf]
  generalize s.routeDisc.findEnt (fun ent =>
    ent.requestId == rrep.rreqId && ent.sourceAddr == rrep.originator) = disc
  generalize s.routing.findEnt (fun ent => ent.destAddr == rrep.responder) = route
  rcases disc with _ | d <;> rcases route with _ | r
  · exact iff_of_true (dropped ⟨rfl, rfl, rfl⟩) (Or.inl trivial)
  · exact iff_of_true (dropped ⟨rfl, rfl, rfl⟩) (Or.inl trivial)
  · exact iff_of_true (dropped ⟨rfl, rfl, rfl⟩) (Or.inl trivial)
  · dsimp only
    split
    · rename_i worse
      exact iff_of_true (dropped ⟨rfl, rfl, rfl⟩) (Or.inl worse)
    rename_i better
    rw [or_iff_right better]
    split
    · generalize release : releasePending rrep.responder (List.range nwkPendingTableSize)
        s.pending = released
      have length : released.2.length = waitingFor s rrep.responder :=
        release ▸ releasePending_all rrep.responder s.pending
      have passed : ∀ call ∈ released.2, call.buf.isSome = true := by
        intro call member
        rw [← release] at member
        obtain ⟨_, _, rfl⟩ := releasePending_calls _ _ s.pending call member
        rfl
      split
      · rename_i asked
        refine (released_disposed_iff s rrep.responder _ rrep.buf release ?_).trans ?_
        · intro b
          simp only [Nwk.refs]
          omega
        · rw [← length, confirmed_iff rrep.buf passed]
          constructor
          · exact fun full => ⟨full.ge, fun _ => full⟩
          · exact fun full => full.2 asked
      · rename_i unasked
        refine (released_disposed_iff s rrep.responder _ rrep.buf release ?_).trans ?_
        · intro b
          simp only [Nwk.refs]
          omega
        · rw [freed_iff rrep.buf passed, length]
          exact ⟨fun fits => ⟨fits, fun asked => absurd asked unasked⟩, And.left⟩
    · have same : SameTables s _ := ⟨rfl, rfl, rfl⟩
      exact (disposed_single_iff same rfl).trans (by simp [Call.isScheduled])

/-- **A buffer is freed or handed over once** exactly when what is scheduled finds room and the
buffer does not come with a confirm: neither one that is received nor one that is sent. -/
theorem disposed_once_iff (s : Nwk) (room : ℕ) (received : Received) :
    DisposedOnce s room received ↔ Regular s room received := by
  cases received with
  | rreq rreq => exact rreq_disposed_iff rreq
  | rrep rrep => exact rrep_disposed_iff rrep
  | confirm param =>
    refine iff_of_false ?_ id
    intro kept
    have lost : s.refs param + 0 = s.refs param + [param].count param := kept param
    rw [List.count_singleton_self] at lost
    omega

/-- The layers above have asked for a route to 0x5678. -/
def asking : Nwk :=
  (nlmeRouteDiscoveryRequest (Nwk.init router) 1 true false 0x5678 false).1

/-- The reply to that request. -/
def answer : RouteReply := ⟨2, 0x5678, 0x5678, 1, 0x1234, 0x5678, 0, none⟩

/-- The buffer of the reply is scheduled for the confirm and freed. -/
theorem confirmed_and_freed : ¬ DisposedOnce asking 15 (.rrep answer) := by
  intro kept
  exact absurd (kept 2) (by decide +kernel)

end Zboss.RouteBuffers
