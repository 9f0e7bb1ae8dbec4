import Zboss.Nwk.DataService

/-!
What every handler of the network layer does with buffers.  None is multiplied: what
stays in the tables and what the calls pass on was there before or came in.  And the
packet of a request stays with a handle of the layers above, in a table or in a call,
until it is confirmed.
-/

namespace Zboss.DynamicTables

open Zboss.SlotTable Zboss.SlotTable.Table
open Zboss.FrameHeaders (nwkIsAddressBroadcast)

/-- Table entries that hold the packet of a request in buffer `b`. -/
def Nwk.requests (s : Nwk) (b : BufRef) : ℕ :=
  s.pending.usedWith (fun ent => ent.buf == b && isRequestHandle ent.handle) +
    if isRequestHandle (s.reqParams b).msduHandle then s.brrt.usedWith (·.buf == b) else 0

/-- The call passes on the packet of a request in buffer `b`. -/
def isRequestCall (s : Nwk) (b : BufRef) : Call → Bool
  | .forward b' handle => b' == b && isRequestHandle handle
  | .mcpsDataRequest b' | .callBrConfirm b' =>
    b' == b && isRequestHandle (s.reqParams b).msduHandle
  | .nldeDataConfirm b' => b' == b
  | _ => false

/-- Calls that pass on the packet of a request in buffer `b`. -/
def callRequests (s : Nwk) (calls : List Call) (b : BufRef) : ℕ :=
  calls.countP (isRequestCall s b)

/-- What a handler with the buffers `bufs` may do to the buffers there are. -/
structure Transfers (s s' : Nwk) (calls : List Call) (bufs : List BufRef) : Prop where
  refs : ∀ b, s'.refs b + callRefs calls b ≤ s.refs b + bufs.count b
  handles : ∀ b, b ∉ bufs → (s'.reqParams b).msduHandle = (s.reqParams b).msduHandle
  requests : ∀ b, b ∉ bufs → s.requests b ≤ s'.requests b + callRequests s' calls b
  queued : ∀ b, s'.brrt.usedWith (·.buf == b) ≤ s.brrt.usedWith (·.buf == b) ∨
    Call.getBuf .broadcastTransmition ∈ calls

section Calls

variable {s s' : Nwk} {calls : List Call} {b : BufRef}

@[simp] theorem callRefs_nil : callRefs [] b = 0 := rfl

theorem callRefs_cons (c : Call) :
    callRefs (c :: calls) b = callRefs calls b + (c.buf == some b).toNat := by
  rw [callRefs, List.countP_cons, Bool.toNat, cond_eq_ite]
  rfl

theorem callRequests_cons (c : Call) :
    callRequests s (c :: calls) b = callRequests s calls b + (isRequestCall s b c).toNat := by
  rw [callRequests, List.countP_cons, Bool.toNat, cond_eq_ite]
  rfl

theorem callRefs_append (more : List Call) :
    callRefs (calls ++ more) b = callRefs calls b + callRefs more b := List.countP_append

@[simp] theorem callRequests_nil : callRequests s [] b = 0 := rfl

theorem callRequests_append (more : List Call) :
    callRequests s (calls ++ more) b = callRequests s calls b + callRequests s more b :=
  List.countP_append

theorem isRequestCall_congr (same : (s'.reqParams b).msduHandle = (s.reqParams b).msduHandle) :
    isRequestCall s' b = isRequestCall s b := by
  funext call
  cases call <;> simp [isRequestCall, same]

theorem callRequests_congr (same : (s'.reqParams b).msduHandle = (s.reqParams b).msduHandle) :
    callRequests s' calls b = callRequests s calls b := by
  simp [callRequests, isRequestCall_congr same]

theorem buf_of_isRequestCall {call : Call} (request : isRequestCall s b call = true) :
    call.buf = some b := by
  cases call <;> simp_all [isRequestCall, Call.buf]

theorem callRequests_le_callRefs : callRequests s calls b ≤ callRefs calls b := by
  apply List.countP_mono_left
  intro call _ request
  simp [buf_of_isRequestCall request]

end Calls

namespace Transfers

variable {s s' s'' : Nwk} {calls more : List Call} {bufs : List BufRef} {b : BufRef}

theorem refl (s : Nwk) : Transfers s s [] [] :=
  ⟨fun _ => Nat.le_refl _, fun _ _ => rfl, fun _ _ => Nat.le_refl _, fun _ => .inl (Nat.le_refl _)⟩

/-- Two handlers, the first without a buffer of its own. -/
theorem trans (first : Transfers s s' calls []) (second : Transfers s' s'' more bufs) :
    Transfers s s'' (calls ++ more) bufs where
  refs b := by
    have one := first.refs b
    have two := second.refs b
    rw [callRefs_append]
    simp only [List.count_nil] at one
    omega
  handles b others := by rw [second.handles b others, first.handles b (List.not_mem_nil)]
  requests b others := by
    have one := first.requests b List.not_mem_nil
    have two := second.requests b others
    rw [callRequests_append, callRequests_congr (second.handles b others)]
    omega
  queued b := by
    rcases first.queued b with one | one
    · rcases second.queued b with two | two
      · exact .inl (Nat.le_trans two one)
      · exact .inr (List.mem_append_right _ two)
    · exact .inr (List.mem_append_left _ one)

/-- Two handlers, the second without buffers and calls. -/
theorem andThen (first : Transfers s s' calls bufs) (second : Transfers s' s'' [] []) :
    Transfers s s'' calls bufs where
  refs b := by
    have one := first.refs b
    have two := second.refs b
    simp only [callRefs_nil, List.count_nil] at two
    omega
  handles b others := by rw [second.handles b List.not_mem_nil, first.handles b others]
  requests b others := by
    have one := first.requests b others
    have two := second.requests b List.not_mem_nil
    rw [callRequests_nil] at two
    rw [callRequests_congr (second.handles b List.not_mem_nil)]
    omega
  queued b := by
    have two := (second.queued b).resolve_right List.not_mem_nil
    exact (first.queued b).imp_left (Nat.le_trans two)

end Transfers

/-- One call that passes on the one buffer. -/
theorem callRefs_single {call : Call} {p : BufRef} (buf : call.buf = some p ∨ call.buf = none)
    (b : BufRef) : callRefs [call] b ≤ [p].count b := by
  rw [callRefs_cons, callRefs_nil, List.count_singleton, Nat.zero_add]
  rcases buf with passed | none_
  · simp [passed, Bool.toNat, cond_eq_ite]
  · simp [none_]

/-- The tables that hold buffers are as they were. -/
structure SameTables (s s' : Nwk) : Prop where
  pending : s'.pending = s.pending
  brrt : s'.brrt = s.brrt
  waitAlloc : s'.waitAlloc = s.waitAlloc

/-- The tables that hold buffers, and the handles in the buffers, are as they were. -/
structure SameBuffers (s s' : Nwk) : Prop extends SameTables s s' where
  reqParams : s'.reqParams = s.reqParams

variable {s s' : Nwk}

/-- A handler that only changes other tables passes its own buffers on. -/
theorem SameTables.transfers (same : SameTables s s') {calls : List Call} {bufs : List BufRef}
    (handles : ∀ b, b ∉ bufs → (s'.reqParams b).msduHandle = (s.reqParams b).msduHandle)
    (passed : ∀ b, callRefs calls b ≤ bufs.count b) : Transfers s s' calls bufs where
  refs b := by
    simp only [Nwk.refs, same.pending, same.brrt, same.waitAlloc]
    exact Nat.add_le_add_left (passed b) _
  handles := handles
  requests b others := by
    simp only [Nwk.requests, same.pending, same.brrt, handles b others]
    exact Nat.le_add_right _ _
  queued b := .inl (by rw [same.brrt])

theorem SameBuffers.transfers (same : SameBuffers s s') {calls : List Call} {bufs : List BufRef}
    (passed : ∀ b, callRefs calls b ≤ bufs.count b) : Transfers s s' calls bufs :=
  same.toSameTables.transfers (fun b _ => by rw [same.reqParams]) passed

theorem SameBuffers.silent (same : SameBuffers s s') : Transfers s s' [] [] :=
  same.transfers fun _ => Nat.le_refl _

/-- The one buffer that came in is passed on by the one call. -/
theorem passes_on (same : SameBuffers s s') {call : Call} {p : BufRef}
    (buf : call.buf = some p ∨ call.buf = none) : Transfers s s' [call] [p] :=
  same.transfers (callRefs_single buf)

/-! ### Mesh routing -/

theorem rreqFailed_refs (rreq : RouteRequest) (b : BufRef) :
    callRefs (rreqFailed s rreq) b ≤ [rreq.buf].count b := by
  simp only [rreqFailed]
  split
  all_goals exact callRefs_single (.inl rfl) b

theorem rreqRouting_same {destAddr : UInt16} {r : ℕ} (found : rreqRouting s destAddr = some (r, s')) :
    SameBuffers s s' := by
  obtain ⟨routing, rfl⟩ := rreqRouting_writes found
  exact ⟨⟨rfl, rfl, rfl⟩, rfl⟩

theorem rreqDiscovery_same {rreq : RouteRequest} {pathCost : UInt8}
    (processed : rreqDiscovery s rreq pathCost = .process s') : SameBuffers s s' := by
  obtain ⟨routeDisc, rfl⟩ := rreqDiscovery_writes processed
  exact ⟨⟨rfl, rfl, rfl⟩, rfl⟩

theorem meshRreqHandler_transfers (s : Nwk) (rreq : RouteRequest) :
    Transfers s (meshRreqHandler s rreq).1 (meshRreqHandler s rreq).2 [rreq.buf] := by
  simp only [meshRreqHandler]
  split
  · exact SameBuffers.transfers ⟨⟨rfl, rfl, rfl⟩, rfl⟩ (rreqFailed_refs rreq)
  · rename_i found
    have routed := rreqRouting_same found
    split
    · exact passes_on routed (.inl rfl)
    · apply SameBuffers.transfers _ (rreqFailed_refs rreq)
      exact { routed with }
    · rename_i processed
      have noted := rreqDiscovery_same processed
      refine passes_on ?_ (.inl rfl)
      exact ⟨⟨noted.pending.trans routed.pending, noted.brrt.trans routed.brrt,
        noted.waitAlloc.trans routed.waitAlloc⟩, noted.reqParams.trans routed.reqParams⟩

theorem meshRouteDiscovery_transfers (s : Nwk) (cbuf : BufRef) (destAddr : UInt16) :
    Transfers s (meshRouteDiscovery s cbuf destAddr).1 (meshRouteDiscovery s cbuf destAddr).2
      [cbuf] := by
  have counted : SameBuffers s { s with rreqId := s.rreqId + 1 } := ⟨⟨rfl, rfl, rfl⟩, rfl⟩
  exact counted.silent.trans (meshRreqHandler_transfers _ _)

/-- Rewriting pending entries in place moves no buffer. -/
theorem modifyPending_transfers (s : Nwk) (p : ℕ) {f : NwkPend → NwkPend}
    (buf : ∀ ent, (f ent).buf = ent.buf) (handle : ∀ ent, (f ent).handle = ent.handle) :
    Transfers s { s with pending := s.pending.modify p f } [] [] where
  refs b := by simp [Nwk.refs, usedWith_modify, buf]
  handles _ _ := rfl
  requests b _ := by simp [Nwk.requests, usedWith_modify, buf, handle]
  queued _ := .inl (Nat.le_refl _)

theorem meshInitiateRouteDiscovery_transfers (s : Nwk) (cbuf : BufRef) (dst : BufRef → UInt16) :
    Transfers s (meshInitiateRouteDiscovery s cbuf dst).1
      (meshInitiateRouteDiscovery s cbuf dst).2 [cbuf] := by
  simp only [meshInitiateRouteDiscovery]
  split
  · rename_i p waiting
    have discovered := meshRouteDiscovery_transfers s cbuf (dst (s.pending.slots p).ent.buf)
    apply discovered.andThen
    exact modifyPending_transfers _ p (fun _ => rfl) fun _ => rfl
  · exact passes_on ⟨⟨rfl, rfl, rfl⟩, rfl⟩ (.inl rfl)

theorem nlmeRouteDiscoveryRequest_transfers (s : Nwk) (buf : BufRef) (unicast noAddr : Bool)
    (networkAddr : UInt16) (neighbor : Bool) :
    Transfers s (nlmeRouteDiscoveryRequest s buf unicast noAddr networkAddr neighbor).1
      (nlmeRouteDiscoveryRequest s buf unicast noAddr networkAddr neighbor).2 [buf] := by
  have refused (success : Bool) : Transfers s s [.nlmeRouteDiscoveryConfirm buf success] [buf] :=
    passes_on ⟨⟨rfl, rfl, rfl⟩, rfl⟩ (.inl rfl)
  have asked : SameBuffers s { s with apsRreqAddr := networkAddr } := ⟨⟨rfl, rfl, rfl⟩, rfl⟩
  simp only [nlmeRouteDiscoveryRequest]
  split_ifs
  all_goals first
    | exact refused _
    | exact asked.silent.trans (meshRouteDiscovery_transfers _ _ _)

/-- Every packet released from the pending list is forwarded under its own handle. -/
theorem releasePending_spec (dest : UInt16) (b : BufRef) :
    ∀ (slots : List ℕ) (t : Table NwkPend nwkPendingTableSize),
      (∀ i ∈ slots, i < nwkPendingTableSize) →
      (releasePending dest slots t).1.usedWith (·.buf == b) +
          callRefs (releasePending dest slots t).2 b = t.usedWith (·.buf == b) ∧
        (releasePending dest slots t).1.usedWith
            (fun ent => ent.buf == b && isRequestHandle ent.handle) +
          callRequests s (releasePending dest slots t).2 b =
            t.usedWith (fun ent => ent.buf == b && isRequestHandle ent.handle) := by
  intro slots
  induction slots with
  | nil => exact fun t _ => ⟨rfl, rfl⟩
  | cons i rest induction_ =>
    intro t inside
    obtain ⟨first, others⟩ := List.forall_mem_cons.mp inside
    simp only [releasePending]
    split
    · rename_i waiting
      simp only [Bool.and_eq_true] at waiting
      obtain ⟨refs, requests⟩ := induction_ (t.putEnt i) others
      have givenRefs := usedWith_putEnt (p := fun ent => ent.buf == b) first waiting.1
      have givenRequests := usedWith_putEnt
        (p := fun ent => ent.buf == b && isRequestHandle ent.handle) first waiting.1
      constructor
      · simp only [callRefs_cons, Call.buf, Option.some_beq_some]
        omega
      · simp only [callRequests_cons, isRequestCall]
        omega
    · exact induction_ t others

theorem meshRrepHandler_transfers (rrep : RouteReply)
    (lossless : Lossless s (.rrep rrep)) :
    Transfers s (meshRrepHandler s rrep).1 (meshRrepHandler s rrep).2 [rrep.buf] := by
  have dropped {s' : Nwk} (same : SameBuffers s s') :
      Transfers s s' [.freeBuf rrep.buf] [rrep.buf] := passes_on same (.inl rfl)
  simp only [meshRrepHandler]
  split
  · exact dropped ⟨⟨rfl, rfl, rfl⟩, rfl⟩
  · exact dropped ⟨⟨rfl, rfl, rfl⟩, rfl⟩
  · exact dropped ⟨⟨rfl, rfl, rfl⟩, rfl⟩
  · split
    · exact dropped ⟨⟨rfl, rfl, rfl⟩, rfl⟩
    split
    · rename_i own
      rw [if_neg (lossless own)]
      have released (b : BufRef) := releasePending_spec (s := s) rrep.responder b
        (List.range nwkPendingTableSize) s.pending fun i member => List.mem_range.mp member
      refine ⟨?_, fun _ _ => rfl, ?_, fun _ => .inl (Nat.le_refl _)⟩
      · intro b
        have freed : callRefs [.freeBuf rrep.buf] b ≤ [rrep.buf].count b :=
          callRefs_single (.inl rfl) b
        have moved := (released b).1
        simp only [Nwk.refs, callRefs_append]
        omega
      · intro b _
        have moved := (released b).2
        simp only [Nwk.requests, callRequests_append]
        rw [callRequests_congr (s := s) (by rfl)]
        omega
    · apply passes_on
      · exact ⟨⟨rfl, rfl, rfl⟩, rfl⟩
      · exact .inl rfl

theorem expireRouteDisc_same (slots : List ℕ) (s : Nwk) :
    SameBuffers s (expireRouteDisc slots s).1 := by
  obtain ⟨routing, routeDisc, after⟩ := expireRouteDisc_writes slots s
  rw [after]
  exact ⟨⟨rfl, rfl, rfl⟩, rfl⟩

/-- No packet of a request expires unless one was about to. -/
theorem expirePending_spec (b : BufRef) :
    ∀ (slots : List ℕ) (t : Table NwkPend nwkPendingTableSize),
      slots.Nodup → (∀ i ∈ slots, i < nwkPendingTableSize ∧
        ((t.slots i).used = true → (t.slots i).ent.expiry = 0 →
          isRequestHandle (t.slots i).ent.handle = false)) →
      (expirePending slots t).1.usedWith (·.buf == b) + callRefs (expirePending slots t).2 b =
          t.usedWith (·.buf == b) ∧
        (expirePending slots t).1.usedWith (fun ent => ent.buf == b && isRequestHandle ent.handle) =
          t.usedWith (fun ent => ent.buf == b && isRequestHandle ent.handle) := by
  intro slots
  induction slots with
  | nil => exact fun t _ _ => ⟨rfl, rfl⟩
  | cons i rest induction_ =>
    intro t distinct spared
    obtain ⟨apart, distinctRest⟩ := List.nodup_cons.mp distinct
    obtain ⟨⟨inside, foreign⟩, others⟩ := List.forall_mem_cons.mp spared
    simp only [expirePending]
    split
    · rename_i used
      split
      · rename_i expired
        have later := induction_ (t.putEnt i) distinctRest fun j member => by
          have other : j ≠ i := fun same => apart (same ▸ member)
          simpa [Table.putEnt, other] using others j member
        have givenRefs := usedWith_putEnt (p := fun ent => ent.buf == b) inside used
        have givenRequests := usedWith_putEnt
          (p := fun ent => ent.buf == b && isRequestHandle ent.handle) inside used
        simp only [foreign used expired, Bool.and_false, Bool.toNat_false] at givenRequests
        simp only [callRefs_cons, Call.buf, Option.some_beq_some]
        omega
      · have later := induction_ (t.modify i fun ent => { ent with expiry := ent.expiry - 1 })
          distinctRest fun j member => by
            have other : j ≠ i := fun same => apart (same ▸ member)
            simpa [modify_slots_of_ne _ other] using others j member
        simpa [usedWith_modify] using later
    · exact induction_ t distinctRest others

theorem meshExpiryPending_transfers (lossless : Lossless s .expiryPending) :
    Transfers s (meshExpiryPending s).1 (meshExpiryPending s).2 [] := by
  simp only [meshExpiryPending]
  split
  · rename_i counted
    have spared : ∀ i ∈ List.range nwkPendingTableSize, i < nwkPendingTableSize ∧
        ((s.pending.slots i).used = true → (s.pending.slots i).ent.expiry = 0 →
          isRequestHandle (s.pending.slots i).ent.handle = false) := by
      intro i member
      refine ⟨List.mem_range.mp member, ?_⟩
      intro used expired
      by_contra request
      have found : 0 < s.pending.usedWith fun ent =>
          ent.expiry == 0 && isRequestHandle ent.handle :=
        usedWith_pos_iff.mpr ⟨i, List.mem_range.mp member, used, by simpa [expired] using request⟩
      rw [lossless counted] at found
      exact Nat.lt_irrefl 0 found
    have expired (b : BufRef) := expirePending_spec b _ s.pending List.nodup_range spared
    refine ⟨?_, fun _ _ => rfl, ?_, fun _ => .inl (Nat.le_refl _)⟩
    · intro b
      have moved := (expired b).1
      simp only [Nwk.refs, List.count_nil]
      omega
    · intro b _
      have moved := (expired b).2
      simp only [Nwk.requests]
      omega
  · exact Transfers.refl s

/-! ### Forwarding -/

theorem park_transfers (s : Nwk) (nsdu : BufRef) (handle : UInt8) (dst : UInt16)
    (discover : Bool) (parked : (park s nsdu handle dst discover).2.1 = .busy) :
    Transfers s (park s nsdu handle dst discover).1 (park s nsdu handle dst discover).2.2 [nsdu] ∧
      (isRequestHandle handle = true → 1 ≤ (park s nsdu handle dst discover).1.requests nsdu) := by
  simp only [park, meshAddBufToPending] at parked ⊢
  cases got : s.pending.getEnt with
  | none => simp [got] at parked
  | some taken =>
    obtain ⟨p, pending⟩ := taken
    simp only [Option.map_some]
    refine ⟨⟨?_, fun _ _ => rfl, ?_, fun _ => .inl (Nat.le_refl _)⟩, ?_⟩
    · intro b
      have added := usedWith_getEnt (p := fun ent => ent.buf == b) got
        fun _ => ⟨nsdu, handle, dst, nwkPendingEntryExpiry, true⟩
      have silent : callRefs (if discover = true then [Call.getBuf .initiateRouteDiscovery] else [])
          b = 0 := by
        cases discover <;> rfl
      simp only [Nwk.refs, added, silent, List.count_singleton, Bool.toNat, cond_eq_ite]
      omega
    · intro b _
      have added := usedWith_getEnt
        (p := fun ent => ent.buf == b && isRequestHandle ent.handle) got
        fun _ => ⟨nsdu, handle, dst, nwkPendingEntryExpiry, true⟩
      simp only [Nwk.requests, added]
      omega
    · intro request
      have added := usedWith_getEnt
        (p := fun ent => ent.buf == nsdu && isRequestHandle ent.handle) got
        fun _ => ⟨nsdu, handle, dst, nwkPendingEntryExpiry, true⟩
      simp only [Nwk.requests, added, beq_self_eq_true, request, Bool.and_self, Bool.toNat_true]
      omega

/-- What `nwk_calc_destination` leaves: only a packet that has to wait is put anywhere. -/
def Destination.Leaves (s s' : Nwk) (calls : List Call) (nsdu : BufRef) (handle : UInt8) :
    Destination → Prop
  | .busy => Transfers s s' calls [nsdu] ∧
    (isRequestHandle handle = true → 1 ≤ s'.requests nsdu)
  | .hop _ _ | .error _ => SameBuffers s s' ∧ s'.btt = s.btt ∧ s'.device = s.device

theorem park_leaves (s : Nwk) (nsdu : BufRef) (handle : UInt8) (dst : UInt16) (discover : Bool) :
    (park s nsdu handle dst discover).2.1.Leaves s (park s nsdu handle dst discover).1
      (park s nsdu handle dst discover).2.2 nsdu handle := by
  cases got : s.pending.getEnt with
  | none =>
    simp only [park, meshAddBufToPending, got, Option.map_none]
    exact ⟨⟨⟨rfl, rfl, rfl⟩, rfl⟩, rfl, rfl⟩
  | some taken =>
    have busy : (park s nsdu handle dst discover).2.1 = .busy := by
      simp [park, meshAddBufToPending, got]
    rw [busy]
    exact park_transfers s nsdu handle dst discover busy

theorem treeDestination_leaves (s : Nwk) (nsdu : BufRef) (handle : UInt8) (nwhdr : NwkHdr)
    (hops : Hops) : (treeDestination s nwhdr hops).Leaves s s [] nsdu handle := by
  simp only [treeDestination]
  split
  · split
    all_goals exact ⟨⟨⟨rfl, rfl, rfl⟩, rfl⟩, rfl, rfl⟩
  · exact ⟨⟨⟨rfl, rfl, rfl⟩, rfl⟩, rfl, rfl⟩

theorem calcDestination_leaves (s : Nwk) (nsdu : BufRef) (handle : UInt8) (nwhdr : NwkHdr)
    (hops : Hops) :
    (calcDestination s nsdu handle nwhdr hops).2.1.Leaves s
      (calcDestination s nsdu handle nwhdr hops).1
      (calcDestination s nsdu handle nwhdr hops).2.2 nsdu handle := by
  simp only [calcDestination]
  split
  · exact ⟨⟨⟨rfl, rfl, rfl⟩, rfl⟩, rfl, rfl⟩
  split
  · exact ⟨⟨⟨rfl, rfl, rfl⟩, rfl⟩, rfl, rfl⟩
  split
  · exact ⟨⟨⟨rfl, rfl, rfl⟩, rfl⟩, rfl, rfl⟩
  split
  · split
    · exact park_leaves s nsdu handle _ _
    · split
      · exact ⟨⟨⟨rfl, rfl, rfl⟩, rfl⟩, rfl, rfl⟩
      split
      · exact park_leaves s nsdu handle _ _
      · exact treeDestination_leaves s nsdu handle nwhdr hops
  · exact treeDestination_leaves s nsdu handle nwhdr hops

theorem park_busy (nsdu : BufRef) (handle : UInt8) (dst : UInt16) (discover : Bool)
    (room : s.pending.HasFree) : (park s nsdu handle dst discover).2.1 = .busy := by
  obtain ⟨taken, got⟩ := Option.isSome_iff_exists.mp (getEnt_isSome_iff.mpr room)
  simp [park, meshAddBufToPending, got]

theorem calcDestination_of_routable (nsdu : BufRef) (handle : UInt8) {nwhdr : NwkHdr}
    {hops : Hops} (routable : Routable s nwhdr hops) (status : NwkCommandStatus) :
    (calcDestination s nsdu handle nwhdr hops).2.1 ≠ .error status := by
  simp only [Routable] at routable
  simp only [calcDestination]
  split
  · simp
  rename_i router
  split
  · simp
  rename_i unicast
  split
  · simp
  rename_i apart
  simp only [router, unicast, apart, Option.isSome_none, Bool.false_eq_true, false_or] at routable
  obtain ⟨discover, way⟩ := routable
  rw [if_pos discover]
  split
  · rename_i unknown
    simp only [unknown, routeOpen, decide_eq_true_eq] at way
    simp [park_busy nsdu handle _ _ way]
  · rename_i r known
    simp only [known, routeOpen] at way
    split
    · simp
    · rename_i inactive
      split
      · rename_i underway
        simp only [underway, decide_eq_true_eq] at way
        simp [park_busy nsdu handle _ _ way]
      · rename_i ended
        cases state : (s.routing.slots r).ent.status <;> simp_all [treeDestination]
        all_goals
          obtain ⟨hop, found⟩ := Option.isSome_iff_exists.mp way.2
          simp [found]

theorem undeliverable_buf (hops : Hops) (macDst : UInt16) (packet : BufRef) :
    (undeliverable hops macDst packet).buf = some packet := by
  simp only [undeliverable]
  split
  all_goals rfl

/-- Writing the parameters of a packet concerns no other packet. -/
theorem update_handle {param b : BufRef} (other : b ∉ [param]) (params : McpsDataReqParams) :
    (Function.update s.reqParams param params b).msduHandle = (s.reqParams b).msduHandle := by
  rw [Function.update_of_ne (by simpa using other)]

theorem stamp_transfers (s : Nwk) (btt : Table NwkBtr nwkBtrTableSize) (param : BufRef)
    (params : McpsDataReqParams) {call : Call} (buf : call.buf = some param ∨ call.buf = none) :
    Transfers s { s with btt, reqParams := Function.update s.reqParams param params } [call]
      [param] := by
  apply SameTables.transfers
  · exact ⟨rfl, rfl, rfl⟩
  · exact fun _ other => update_handle other params
  · exact callRefs_single buf

/-- A packet queued for retransmission. -/
theorem queue_transfers (s : Nwk) (btt : Table NwkBtr nwkBtrTableSize) (param : BufRef)
    (params : McpsDataReqParams) {i : ℕ} {brrt : RetransmitTable}
    (got : s.brrt.getEnt = some (i, brrt))
    {f : NwkBroadcastRetransmit → NwkBroadcastRetransmit} (buf : ∀ ent, (f ent).buf = param) :
    Transfers s { s with
      btt, brrt := brrt.modify i f, reqParams := Function.update s.reqParams param params }
      [.getBuf .broadcastTransmition] [param] where
  refs b := by
    have added := usedWith_getEnt (p := fun ent => ent.buf == b) got f
    have silent : callRefs [.getBuf .broadcastTransmition] b = 0 := rfl
    simp only [Nwk.refs, added, silent, buf, List.count_singleton, Bool.toNat, cond_eq_ite]
    omega
  handles b other := update_handle other params
  requests b other := by
    have added := usedWith_getEnt (p := fun ent => ent.buf == b) got f
    have apart : (param == b) = false := by
      rw [beq_eq_false_iff_ne]
      rintro rfl
      exact other List.mem_cons_self
    simp only [Nwk.requests, update_handle other params, added, buf, apart, Bool.toNat_false,
      Nat.add_zero]
    exact Nat.le_add_right _ _
  queued _ := .inr (List.mem_singleton_self _)

/-- Where the next hop is known, the packet is queued for retransmission, goes to the MAC, or
is dropped. -/
theorem sendTo_transfers (s : Nwk) (param : BufRef) (handle : UInt8) (nwhdr : NwkHdr)
    (hops : Hops) (macDst : UInt16) (indirect : Bool) :
    Transfers s (sendTo s param handle nwhdr hops macDst indirect).1
      (sendTo s param handle nwhdr hops macDst indirect).2 [param] := by
  simp only [sendTo]
  split
  · exact passes_on ⟨⟨rfl, rfl, rfl⟩, rfl⟩ (.inl (undeliverable_buf hops macDst param))
  · split
    · split
      · split
        · rename_i got
          exact queue_transfers s _ param _ got fun _ => rfl
        · exact stamp_transfers s _ param _ (.inr rfl)
      · exact stamp_transfers s _ param _ (.inl (undeliverable_buf hops macDst param))
    · exact stamp_transfers s _ param _ (.inl rfl)

/-- With room for a broadcast the packet of a request is not dropped. -/
theorem sendTo_request {param : BufRef} {handle : UInt8} {nwhdr : NwkHdr}
    (room : BroadcastRoom s nwhdr) (request : isRequestHandle handle = true) (hops : Hops)
    (macDst : UInt16) (indirect : Bool) :
    1 ≤ (sendTo s param handle nwhdr hops macDst indirect).1.requests param +
      callRequests (sendTo s param handle nwhdr hops macDst indirect).1
        (sendTo s param handle nwhdr hops macDst indirect).2 param := by
  simp only [sendTo]
  split
  · rename_i full
    split at full
    · rename_i unknown
      simp only [Bool.and_eq_true, Option.isNone_iff_eq_none] at unknown
      have free := (room unknown.1).1
      simp only [unknown.2, Option.isSome_none, Bool.false_eq_true, false_or] at free
      obtain ⟨taken, got⟩ := Option.isSome_iff_exists.mp (getEnt_isSome_iff.mpr free)
      simp [noteBroadcast, got] at full
    · cases full
  · split
    · rename_i broadcast
      obtain ⟨counted, free⟩ := (room broadcast.1).2 broadcast.2
      obtain ⟨⟨i, brrt⟩, got⟩ := Option.isSome_iff_exists.mp (getEnt_isSome_iff.mpr free)
      rw [if_pos counted]
      simp only [got, Nwk.requests, Function.update_self, request, if_true]
      rw [usedWith_getEnt got]
      simp only [beq_self_eq_true, Bool.toNat_true]
      omega
    · simp [callRequests, isRequestCall, request]

theorem forward_transfers (s : Nwk) (param : BufRef) (handle : UInt8) (nwhdr : NwkHdr)
    (hops : Hops) :
    Transfers s (forward s param handle nwhdr hops).1 (forward s param handle nwhdr hops).2
      [param] := by
  have leaves := calcDestination_leaves s param handle nwhdr hops
  simp only [forward]
  split
  · rename_i hop
    simp only [hop] at leaves
    exact leaves.1.silent.trans (sendTo_transfers _ param handle nwhdr hops _ _)
  · rename_i busy
    simp only [busy] at leaves
    exact leaves.1
  · rename_i failed
    simp only [failed] at leaves
    exact passes_on leaves.1 (.inl (undeliverable_buf hops _ param))

/-- The packet of a request that can be routed and queued is not dropped. -/
theorem forward_request {param : BufRef} {handle : UInt8} {nwhdr : NwkHdr} {hops : Hops}
    (request : isRequestHandle handle = true) (routable : Routable s nwhdr hops)
    (room : BroadcastRoom s nwhdr) :
    1 ≤ (forward s param handle nwhdr hops).1.requests param +
      callRequests (forward s param handle nwhdr hops).1 (forward s param handle nwhdr hops).2
        param := by
  have leaves := calcDestination_leaves s param handle nwhdr hops
  have routed := calcDestination_of_routable param handle routable
  simp only [forward]
  split
  · rename_i s' _ _ _ hop
    simp only [hop] at leaves
    obtain ⟨same, btt, device⟩ := leaves
    have room' : BroadcastRoom s' nwhdr := by
      simpa only [BroadcastRoom, findBroadcast, same.brrt, btt, device] using room
    exact sendTo_request room' request hops _ _
  · rename_i busy
    simp only [busy] at leaves
    exact Nat.le_add_right_of_le (leaves.2 request)
  · rename_i status _ failed
    exact absurd (by rw [failed]) (routed status)

end Zboss.DynamicTables
