import Zboss.Nwk.RouteMaps

/-!
The pending list and the buffers granted for route discovery.  A grant does not say for which
packet it was asked for: it goes to the first entry that waits for one.  So packets and grants
stay paired only as long as every packet that is queued asks for a buffer and none leaves the
list before its grant.
-/

namespace Zboss.PendingGrants

open Zboss.DynamicTables Zboss.Run Zboss.SlotTable Zboss.SlotTable.Table
open Zboss.FrameHeaders (nwkIsAddressBroadcast)

/-- The network layer with the number of buffers asked for and not yet granted and the
destination in the header of each packet. -/
structure Layer where
  nwk : Nwk
  grants : ℕ
  dst : BufRef → UInt16

/-- An operation of the network layer, `accepted` if the buffer pool takes a request made in
it, or a buffer granted for route discovery. -/
inductive Event
  | op (op : Op) (accepted : Bool)
  | grant (cbuf : BufRef)

/-- A buffer is asked for. -/
def ask : Call := .getBuf .initiateRouteDiscovery

/-- The buffer belongs to the pending list. -/
def Held (s : Nwk) (buf : BufRef) : Prop :=
  ∃ i < nwkPendingTableSize, (s.pending.slots i).used = true ∧ (s.pending.slots i).ent.buf = buf

instance (s : Nwk) (buf : BufRef) : Decidable (Held s buf) :=
  inferInstanceAs (Decidable (∃ i, i < nwkPendingTableSize ∧ _))

/-- Nobody else forwards a packet of the pending list, and grants are events of their own. -/
def Admissible (s : Nwk) : Op → Prop
  | .forward param .. => ¬ Held s param
  | .initiateRouteDiscovery .. => False
  | _ => True

instance (s : Nwk) : (op : Op) → Decidable (Admissible s op)
  | .forward param .. => inferInstanceAs (Decidable (¬ Held s param))
  | .initiateRouteDiscovery .. => isFalse fun h => h
  | .configure .. | .nldeDataRequest .. | .mcpsDataConfirm .. | .broadcastTransmition ..
  | .mcpsDataIndication .. | .newBufferAllocated .. | .btrExpiry | .rreq .. | .rrep ..
  | .nlmeRouteDiscoveryRequest .. | .expiryRouteDisc | .expiryPending | .leave
  | .resetRequest .. | .resetConfirm => isTrue trivial

/-- The headers, that of a packet as it is forwarded. -/
def written (dst : BufRef → UInt16) : Op → BufRef → UInt16
  | .forward param _ nwhdr _ => Function.update dst param nwhdr.dstAddr
  | _ => dst

/-- One event. -/
def step (spill : Spill) (w : Layer) : Event → Layer
  | .op op accepted =>
    if Admissible w.nwk op then
      { nwk := (exec spill w.nwk op).1
        grants := w.grants + if accepted then (exec spill w.nwk op).2.count ask else 0
        dst := written w.dst op }
    else w
  | .grant cbuf =>
    if w.grants = 0 then w
    else
      { w with
        nwk := (meshInitiateRouteDiscovery w.nwk cbuf w.dst).1
        grants := w.grants - 1 }

/-- The network layer after `zb_nwk_init`. -/
def Layer.init (device : Device) (dst : BufRef → UInt16) : Layer := ⟨Nwk.init device, 0, dst⟩

/-- The entries that wait for a buffer. -/
def waiting (s : Nwk) : ℕ := s.pending.usedWith (·.waitingBuf)

/-- There are as many buffers outstanding as entries that wait for one. -/
def Paired (w : Layer) : Prop := w.grants = waiting w.nwk

instance (w : Layer) : Decidable (Paired w) := inferInstanceAs (Decidable (_ = _))

/-- The granted buffer is used for a packet that waits, in which a request for the destination
of this packet goes out. -/
def Serves (w : Layer) (cbuf : BufRef) : Prop :=
  ∃ p < nwkPendingTableSize, (w.nwk.pending.slots p).used = true ∧
    (w.nwk.pending.slots p).ent.waitingBuf = true ∧
      ∃ s', meshRouteDiscovery w.nwk cbuf (w.nwk.pending.slots p).ent.destAddr =
          (s', [.forward cbuf nwkInternalNsduHandle]) ∧
        meshInitiateRouteDiscovery w.nwk cbuf w.dst =
          ({ s' with pending := s'.pending.modify p fun ent => { ent with waitingBuf := false } },
            [.forward cbuf nwkInternalNsduHandle])

/-- After the event the buffers outstanding are paired with the entries that wait, and a
granted buffer has been used as it was meant. -/
def Handled (spill : Spill) (w : Layer) (event : Event) : Prop :=
  Paired (step spill w event) ∧ match event with
    | .op .. => True
    | .grant cbuf => w.grants ≠ 0 → Serves w cbuf

/-! ## When events are handled -/

/-- A packet goes to the pending list. -/
def Parks (s : Nwk) (nwhdr : NwkHdr) (hops : Hops) : Prop :=
  s.device.deviceType ≠ .ed ∧ nwkIsAddressBroadcast nwhdr.dstAddr = false ∧
    hops.neighbor = none ∧ nwhdr.discoverRoute = true ∧
      (∀ r ∈ meshFindRoute s nwhdr.dstAddr,
        (s.routing.slots r).ent.status = .discoveryUnderway) ∧ s.pending.HasFree

/-- No discovery of this router's own is under way for the destination. -/
def Undiscovered (s : Nwk) (destAddr : UInt16) : Prop :=
  meshFindRoute s destAddr = none ∨
    ∀ d ∈ meshFindRouteDiscoveryEntry s destAddr,
      (s.routeDisc.slots d).ent.sourceAddr ≠ s.device.networkAddress

/-- The reply ends a discovery of this router. -/
def Completes (s : Nwk) (rrep : RouteReply) : Prop :=
  rrepEnts s rrep ≠ none ∧ rrep.originator = s.device.networkAddress

/-- There is room for a discovery: a routing entry, and a discovery entry for the next request,
new or of a higher cost. -/
def CanDiscover (s : Nwk) (destAddr : UInt16) : Prop :=
  (meshFindRoute s destAddr ≠ none ∨ s.routing.HasFree) ∧
    match s.routeDisc.findEnt fun ent =>
      ent.requestId == s.rreqId + 1 && ent.sourceAddr == s.device.networkAddress with
    | none => s.routeDisc.HasFree
    | some d =>
      nwkCalcPathCost s s.device.networkAddress none < (s.routeDisc.slots d).ent.forwardCost

/-- A packet that goes to the pending list has no discovery of its own under way and its
request for a buffer is accepted; no packet leaves the list, with its route or too old, before
its grant; and where a buffer is granted there is room for the discovery. -/
def Regular (w : Layer) : Event → Prop
  | .op (.forward param _ nwhdr hops) accepted =>
    ¬ Held w.nwk param → Parks w.nwk nwhdr hops →
      Undiscovered w.nwk nwhdr.dstAddr ∧ accepted = true
  | .op (.rrep rrep) _ =>
    Completes w.nwk rrep → ∀ j < nwkPendingTableSize, (w.nwk.pending.slots j).used = true →
      (w.nwk.pending.slots j).ent.destAddr = rrep.responder →
        (w.nwk.pending.slots j).ent.waitingBuf = false
  | .op .expiryPending _ =>
    w.nwk.pending.cnt ≠ 0 → ∀ j < nwkPendingTableSize, (w.nwk.pending.slots j).used = true →
      (w.nwk.pending.slots j).ent.expiry = 0 → (w.nwk.pending.slots j).ent.waitingBuf = false
  | .op _ _ => True
  | .grant _ =>
    w.grants ≠ 0 → ∀ p ∈ w.nwk.pending.findEnt (·.waitingBuf),
      CanDiscover w.nwk (w.nwk.pending.slots p).ent.destAddr

/-! ## The pending list -/

/-- What the timer leaves of the pending list. -/
theorem expirePending_slots :
    ∀ (slots : List ℕ), slots.Nodup → ∀ (t : Table NwkPend nwkPendingTableSize) (j : ℕ),
      (expirePending slots t).1.slots j =
        if j ∈ slots ∧ (t.slots j).used = true then
          if (t.slots j).ent.expiry = 0 then { t.slots j with used := false }
          else { t.slots j with
            ent := { (t.slots j).ent with expiry := (t.slots j).ent.expiry - 1 } }
        else t.slots j := by
  intro slots
  induction slots with
  | nil =>
    intro _ t j
    simp [expirePending]
  | cons i rest induction_ =>
    intro nodup t j
    obtain ⟨fresh, nodup'⟩ := List.nodup_cons.mp nodup
    rw [expirePending]
    by_cases here : j = i
    · subst here
      split
      · rename_i used
        split
        · rw [induction_ nodup']
          simp [putEnt, mark, fresh, used]
        · rw [induction_ nodup']
          simp [Table.modify, fresh, used]
      · rename_i free
        rw [induction_ nodup']
        simp [fresh, free]
    · simp only [List.mem_cons, here, false_or]
      split
      · split
        · rw [induction_ nodup']
          simp [putEnt, mark, here]
        · rw [induction_ nodup']
          simp [Table.modify, here]
      · rw [induction_ nodup']

/-! ## The operations -/

variable {s : Nwk}

/-- The operation leaves the pending list alone and asks for no buffer. -/
def Apart (s : Nwk) (after : Nwk × List Call) : Prop :=
  after.1.pending = s.pending ∧ ask ∉ after.2

theorem park_cases (s : Nwk) (nsdu : BufRef) (handle : UInt8) (dst : UInt16) (discover : Bool) :
    (∃ i pending, s.pending.getEnt = some (i, pending) ∧
      park s nsdu handle dst discover =
        ({ s with pending := pending.modify i fun _ =>
            ⟨nsdu, handle, dst, nwkPendingEntryExpiry, true⟩ }, .busy,
          if discover then [ask] else [])) ∨
      ¬ s.pending.HasFree ∧
        park s nsdu handle dst discover = (s, .error .noRouteAvailable, []) := by
  rw [park, meshAddBufToPending]
  cases got : s.pending.getEnt with
  | some e => exact Or.inl ⟨e.1, e.2, rfl, rfl⟩
  | none =>
    refine Or.inr ⟨?_, rfl⟩
    rw [← getEnt_isSome_iff, got]
    simp

/-- The packet is put into the list. -/
structure Parked (s : Nwk) (param : BufRef) (handle : UInt8) (destAddr : UInt16)
    (after : Nwk × List Call) : Prop where
  pending : ∃ i pending, s.pending.getEnt = some (i, pending) ∧
    after.1 = { s with pending := pending.modify i fun _ =>
      ⟨param, handle, destAddr, nwkPendingEntryExpiry, true⟩ }
  asks : after.2 = [ask] ∧ Undiscovered s destAddr ∨ after.2 = [] ∧ ¬ Undiscovered s destAddr

/-- A packet to be put into the list, if there is room. -/
theorem forward_park {param : BufRef} {handle : UInt8} {nwhdr : NwkHdr} {hops : Hops}
    {discover : Bool}
    (parks : calcDestination s param handle nwhdr hops =
      park s param handle nwhdr.dstAddr discover)
    (undiscovered : discover = true ↔ Undiscovered s nwhdr.dstAddr) :
    s.pending.HasFree ∧ Parked s param handle nwhdr.dstAddr (forward s param handle nwhdr hops) ∨
      ¬ s.pending.HasFree ∧ Apart s (forward s param handle nwhdr hops) := by
  rw [forward, parks]
  rcases park_cases s param handle nwhdr.dstAddr discover with
    ⟨i, pending, got, parked⟩ | ⟨full, refused⟩
  · rw [parked]
    refine Or.inl ⟨?_, ⟨i, pending, got, rfl⟩, ?_⟩
    · rw [← getEnt_isSome_iff, got]
      rfl
    · rw [← undiscovered]
      cases discover with
      | true => exact Or.inl ⟨rfl, rfl⟩
      | false => exact Or.inr ⟨rfl, by simp⟩
  · rw [refused]
    exact Or.inr ⟨full, rfl, (undeliverable_asks hops nwhdr.dstAddr param).not_mem (by simp)⟩

/-- A packet with its next hop at hand, or none to be had. -/
theorem forward_apart {param : BufRef} {handle : UInt8} {nwhdr : NwkHdr} {hops : Hops}
    {s' : Nwk} {destination : Destination} {calls : List Call}
    (found : calcDestination s param handle nwhdr hops = (s', destination, calls))
    (same : s'.pending = s.pending) (decided : destination ≠ .busy) :
    Apart s (forward s param handle nwhdr hops) := by
  rw [forward, found]
  cases destination with
  | hop macDst indirect =>
    obtain ⟨⟨btt, brrt, reqParams, after⟩, asks⟩ :=
      sendTo_writes s' param handle nwhdr hops macDst indirect
    refine ⟨?_, asks.not_mem (by simp)⟩
    dsimp only
    rw [after]
    exact same
  | busy => exact absurd rfl decided
  | error status =>
    exact ⟨same, (undeliverable_asks hops nwhdr.dstAddr param).not_mem (by simp)⟩

theorem treeDestination_ne_busy (s : Nwk) (nwhdr : NwkHdr) (hops : Hops) :
    treeDestination s nwhdr hops ≠ .busy := by
  rw [treeDestination]
  split
  · split <;> simp
  · simp

theorem forward_cases (s : Nwk) (param : BufRef) (handle : UInt8) (nwhdr : NwkHdr) (hops : Hops) :
    Parks s nwhdr hops ∧ Parked s param handle nwhdr.dstAddr (forward s param handle nwhdr hops) ∨
      ¬ Parks s nwhdr hops ∧ Apart s (forward s param handle nwhdr hops) := by
  by_cases ed : s.device.deviceType = .ed
  · refine Or.inr ⟨fun parks => parks.1 ed, ?_⟩
    exact forward_apart (by rw [calcDestination, if_pos ed]) rfl (by simp)
  by_cases broadcast : nwkIsAddressBroadcast nwhdr.dstAddr = true
  · refine Or.inr ⟨fun parks => by simp [parks.2.1] at broadcast, ?_⟩
    exact forward_apart (by rw [calcDestination, if_neg ed, if_pos broadcast]) rfl (by simp)
  cases neighbor : hops.neighbor with
  | some rxOn =>
    refine Or.inr ⟨fun parks => by simp [parks.2.2.1] at neighbor, ?_⟩
    exact forward_apart (by rw [calcDestination, if_neg ed, if_neg broadcast, neighbor]) rfl
      (by simp)
  | none =>
    by_cases discover : nwhdr.discoverRoute = true
    · have calc_ := calcDestination.eq_def s param handle nwhdr hops
      rw [if_neg ed, if_neg broadcast, neighbor] at calc_
      dsimp only at calc_
      rw [if_pos discover] at calc_
      cases route : meshFindRoute s nwhdr.dstAddr with
      | none =>
        rw [route] at calc_
        rcases forward_park calc_ (by simp [Undiscovered, route]) with ⟨room, parked⟩ |
          ⟨full, apart⟩
        · refine Or.inl ⟨⟨ed, by simpa using broadcast, neighbor, discover, ?_, room⟩, parked⟩
          simp [route]
        · exact Or.inr ⟨fun parks => full parks.2.2.2.2.2, apart⟩
      | some r =>
        rw [route] at calc_
        dsimp only at calc_
        by_cases formed : (s.routing.slots r).ent.status = .active ∨
          (s.routing.slots r).ent.status = .validationUnderway
        · rw [if_pos formed] at calc_
          refine Or.inr ⟨?_, forward_apart calc_ rfl (by simp)⟩
          intro parks
          have underway := parks.2.2.2.2.1 r route
          rw [underway] at formed
          simp at formed
        · rw [if_neg formed] at calc_
          by_cases underway : (s.routing.slots r).ent.status = .discoveryUnderway
          · rw [if_pos underway] at calc_
            have asks : (match meshFindRouteDiscoveryEntry s nwhdr.dstAddr with
                | none => true
                | some d =>
                  (s.routeDisc.slots d).ent.sourceAddr != s.device.networkAddress) = true ↔
                Undiscovered s nwhdr.dstAddr := by
              rw [Undiscovered, route]
              cases meshFindRouteDiscoveryEntry s nwhdr.dstAddr <;> simp
            rcases forward_park calc_ asks with ⟨room, parked⟩ | ⟨full, apart⟩
            · refine Or.inl ⟨⟨ed, by simpa using broadcast, neighbor, discover, ?_, room⟩, parked⟩
              rw [route]
              simpa using underway
            · exact Or.inr ⟨fun parks => full parks.2.2.2.2.2, apart⟩
          · rw [if_neg underway] at calc_
            refine Or.inr ⟨fun parks => underway (parks.2.2.2.2.1 r route), ?_⟩
            exact forward_apart calc_ rfl (treeDestination_ne_busy s nwhdr hops)
    · refine Or.inr ⟨fun parks => discover parks.2.2.2.1, ?_⟩
      have found : calcDestination s param handle nwhdr hops =
          (s, treeDestination s nwhdr hops, []) := by
        rw [calcDestination, if_neg ed, if_neg broadcast, neighbor]
        dsimp only
        rw [if_neg discover]
      exact forward_apart found rfl (treeDestination_ne_busy s nwhdr hops)

/-! ### Operations apart from the list -/

/-- The operation forwards a packet, is a route reply or counts the pending list down. -/
def Touches : Op → Prop
  | .forward .. | .rrep .. | .expiryPending | .initiateRouteDiscovery .. => True
  | _ => False

theorem exec_quiet (spill : Spill) (s : Nwk) {op : Op} (other : ∀ param handle nwhdr hops,
    op ≠ .forward param handle nwhdr hops) : ask ∉ (exec spill s op).2 := by
  apply (exec_asks s spill op).not_mem
  cases op with
  | forward param handle nwhdr hops => exact absurd rfl (other param handle nwhdr hops)
  | _ => simp [Op.waiters]

theorem meshRouteDiscovery_pending (s : Nwk) (cbuf : BufRef) (destAddr : UInt16) :
    (meshRouteDiscovery s cbuf destAddr).1.pending = s.pending := by
  obtain ⟨routing, routeDisc, rreqId, after⟩ := (meshRouteDiscovery_writes s cbuf destAddr).1
  rw [after]

theorem exec_apart (spill : Spill) (s : Nwk) {op : Op} (other : ¬ Touches op) :
    Apart s (exec spill s op) := by
  refine ⟨?_, exec_quiet spill s fun param handle nwhdr hops same => other (same ▸ trivial)⟩
  cases op with
  | forward | rrep | expiryPending | initiateRouteDiscovery => exact absurd trivial other
  | configure | nldeDataRequest | mcpsDataConfirm | leave | resetConfirm => rfl
  | broadcastTransmition param env =>
    obtain ⟨brrt, reqParams, after⟩ := (broadcastTransmition_writes s spill param env).1
    rw [exec, after]
  | mcpsDataIndication frame =>
    obtain ⟨btt, brrt, waitAlloc, after⟩ := (mcpsDataIndication_writes s spill frame).1
    rw [exec, after]
  | newBufferAllocated param =>
    obtain ⟨waitAlloc, after⟩ := (newBufferAllocated_writes s param).1
    rw [exec, after]
  | btrExpiry =>
    obtain ⟨btt, after⟩ := btrExpiry_writes s
    rw [exec, after]
  | rreq rreq =>
    obtain ⟨routing, routeDisc, after⟩ := (meshRreqHandler_writes s rreq).1
    rw [exec, after]
  | nlmeRouteDiscoveryRequest buf unicast noAddr networkAddr neighbor =>
    obtain ⟨routing, routeDisc, rreqId, apsRreqAddr, after⟩ :=
      (nlmeRouteDiscoveryRequest_writes s buf unicast noAddr networkAddr neighbor).1
    rw [exec, after]
  | expiryRouteDisc =>
    obtain ⟨routing, routeDisc, after⟩ := (meshExpiryRouteDisc_writes s).1
    rw [exec, after]
  | resetRequest warmStart =>
    obtain ⟨device, routing, routeDisc, after⟩ := nlmeResetRequest_writes s warmStart
    rw [exec, after]

/-! ### Replies and the timer -/

/-- What the entries of the list keep of their packets. -/
def Thinned (s s' : Nwk) : Prop :=
  ∀ j < nwkPendingTableSize, (s'.pending.slots j).used = true →
    (s.pending.slots j).used = true ∧
      (s'.pending.slots j).ent.buf = (s.pending.slots j).ent.buf ∧
        (s'.pending.slots j).ent.destAddr = (s.pending.slots j).ent.destAddr ∧
          (s'.pending.slots j).ent.waitingBuf = (s.pending.slots j).ent.waitingBuf

/-- As many entries wait as before exactly if no entry that waits has gone. -/
theorem Thinned.waiting_eq_iff {s s' : Nwk} (thinned : Thinned s s') :
    waiting s' = waiting s ↔ ∀ j < nwkPendingTableSize, (s.pending.slots j).used = true →
      (s.pending.slots j).ent.waitingBuf = true → (s'.pending.slots j).used = true := by
  rw [waiting, waiting, usedWith_eq_iff]
  · constructor
    · intro all j inside used waits
      exact (all j inside used waits).1
    · intro all j inside used waits
      have still := all j inside used waits
      exact ⟨still, by rw [(thinned j inside still).2.2.2]; exact waits⟩
  · intro j inside used waits
    obtain ⟨was, -, -, same⟩ := thinned j inside used
    rw [same] at waits
    exact ⟨was, waits⟩

/-- The pending list after a reply. -/
theorem meshRrepHandler_pending (s : Nwk) (rrep : RouteReply) :
    Completes s rrep ∧ (meshRrepHandler s rrep).1.pending =
        (releasePending rrep.responder (List.range nwkPendingTableSize) s.pending).1 ∨
      ¬ Completes s rrep ∧ (meshRrepHandler s rrep).1.pending = s.pending := by
  rw [Completes, rrepEnts, meshRrepHandler]
  generalize (s.routeDisc.findEnt fun ent =>
    ent.requestId == rrep.rreqId && ent.sourceAddr == rrep.originator) = disc
  generalize (s.routing.findEnt fun ent => ent.destAddr == rrep.responder) = route
  cases disc with
  | none =>
    cases route with
    | none => exact Or.inr ⟨by simp, rfl⟩
    | some r => exact Or.inr ⟨by simp, rfl⟩
  | some d =>
    cases route with
    | none => exact Or.inr ⟨by simp, rfl⟩
    | some r =>
      dsimp only
      split
      · exact Or.inr ⟨by simp, rfl⟩
      · split
        · rename_i own
          refine Or.inl ⟨⟨by simp, own⟩, ?_⟩
          split <;> rfl
        · rename_i other
          exact Or.inr ⟨fun both => other both.2, rfl⟩

theorem rrep_thinned (s : Nwk) (rrep : RouteReply) : Thinned s (meshRrepHandler s rrep).1 := by
  intro j inside used
  rcases meshRrepHandler_pending s rrep with ⟨-, after⟩ | ⟨-, after⟩
  · rw [after, releasePending_slots] at used ⊢
    split at used
    · cases used
    · rename_i stays
      rw [if_neg stays]
      exact ⟨used, rfl, rfl, rfl⟩
  · rw [after] at used ⊢
    exact ⟨used, rfl, rfl, rfl⟩

/-- A reply keeps every entry that waits exactly if it completes no discovery for one. -/
theorem rrep_waiting_iff (s : Nwk) (rrep : RouteReply) :
    waiting (meshRrepHandler s rrep).1 = waiting s ↔
      (Completes s rrep → ∀ j < nwkPendingTableSize, (s.pending.slots j).used = true →
        (s.pending.slots j).ent.destAddr = rrep.responder →
          (s.pending.slots j).ent.waitingBuf = false) := by
  rw [(rrep_thinned s rrep).waiting_eq_iff]
  rcases meshRrepHandler_pending s rrep with ⟨completes, after⟩ | ⟨incomplete, after⟩
  · rw [after]
    constructor
    · intro all _ j inside used dest
      by_contra waits
      have still := all j inside used (by simpa using waits)
      rw [releasePending_slots, if_pos ⟨List.mem_range.mpr inside, used, dest⟩] at still
      cases still
    · intro none_ j inside used waits
      rw [releasePending_slots, if_neg]
      · exact used
      · rintro ⟨-, -, dest⟩
        rw [none_ completes j inside used dest] at waits
        cases waits
  · rw [after]
    exact ⟨fun _ completes => absurd completes incomplete, fun _ j _ used _ => used⟩

/-- An entry after the timer. -/
theorem meshExpiryPending_slots {s : Nwk} (counted : s.pending.cnt ≠ 0) {j : ℕ}
    (inside : j < nwkPendingTableSize) (used : (s.pending.slots j).used = true) :
    (meshExpiryPending s).1.pending.slots j =
      if (s.pending.slots j).ent.expiry = 0 then { s.pending.slots j with used := false }
      else { s.pending.slots j with
        ent := { (s.pending.slots j).ent with
          expiry := (s.pending.slots j).ent.expiry - 1 } } := by
  rw [meshExpiryPending, if_pos counted]
  dsimp only
  rw [expirePending_slots _ List.nodup_range, if_pos ⟨List.mem_range.mpr inside, used⟩]

theorem expiryPending_thinned (s : Nwk) : Thinned s (meshExpiryPending s).1 := by
  intro j inside still
  by_cases counted : s.pending.cnt ≠ 0
  · by_cases used : (s.pending.slots j).used = true
    · rw [meshExpiryPending_slots counted inside used] at still ⊢
      split at still
      · cases still
      · rename_i young
        rw [if_neg young]
        exact ⟨used, rfl, rfl, rfl⟩
    · rw [meshExpiryPending, if_pos counted] at still
      dsimp only at still
      rw [expirePending_slots _ List.nodup_range, if_neg fun both => used both.2] at still
      exact absurd still used
  · rw [meshExpiryPending, if_neg counted] at still ⊢
    exact ⟨still, rfl, rfl, rfl⟩

/-- The timer keeps every entry that waits exactly if none of them is too old. -/
theorem expiryPending_waiting_iff (s : Nwk) :
    waiting (meshExpiryPending s).1 = waiting s ↔
      (s.pending.cnt ≠ 0 → ∀ j < nwkPendingTableSize, (s.pending.slots j).used = true →
        (s.pending.slots j).ent.expiry = 0 → (s.pending.slots j).ent.waitingBuf = false) := by
  rw [(expiryPending_thinned s).waiting_eq_iff]
  constructor
  · intro all counted j inside used old
    by_contra waits
    have still := all j inside used (by simpa using waits)
    rw [meshExpiryPending_slots counted inside used, if_pos old] at still
    cases still
  · intro none_ j inside used waits
    by_cases counted : s.pending.cnt ≠ 0
    · rw [meshExpiryPending_slots counted inside used]
      split
      · rename_i old
        rw [none_ counted j inside used old] at waits
        cases waits
      · exact used
    · rw [meshExpiryPending, if_neg counted]
      exact used

/-! ### Grants -/

theorem rreqRouting_eq_none_iff (s : Nwk) (destAddr : UInt16) :
    rreqRouting s destAddr = none ↔ ¬ (meshFindRoute s destAddr ≠ none ∨ s.routing.HasFree) := by
  rw [rreqRouting, meshFindRoute, not_or, not_not, ← getEnt_isSome_iff]
  cases s.routing.findEnt fun ent => ent.destAddr == destAddr with
  | some r => simp
  | none => simp

/-- A request is passed on exactly if there is room for it. -/
theorem rreqPassed_iff (s : Nwk) (rreq : RouteRequest) :
    rreqPassed s rreq ↔ (meshFindRoute s rreq.destAddr ≠ none ∨ s.routing.HasFree) ∧
      match s.routeDisc.findEnt fun ent =>
        ent.requestId == rreq.rreqId && ent.sourceAddr == rreq.srcAddr with
      | none => s.routeDisc.HasFree
      | some d => totalCost s rreq.srcAddr rreq.lqi rreq.pathCost <
          (s.routeDisc.slots d).ent.forwardCost := by
  rw [rreqPassed, meshRreqHandler, totalCost]
  cases found : rreqRouting s rreq.destAddr with
  | none =>
    have full := (rreqRouting_eq_none_iff s rreq.destAddr).mp found
    exact iff_of_false (rreqFailed_ne_forward s rreq) fun both => full both.1
  | some e =>
    obtain ⟨r, s'⟩ := e
    have room : meshFindRoute s rreq.destAddr ≠ none ∨ s.routing.HasFree := by
      by_contra full
      rw [(rreqRouting_eq_none_iff s rreq.destAddr).mpr full] at found
      cases found
    dsimp only
    rw [rreqDiscovery, RoutePacket.rreqRouting_routeDisc found]
    cases s.routeDisc.findEnt fun ent =>
      ent.requestId == rreq.rreqId && ent.sourceAddr == rreq.srcAddr with
    | some d =>
      dsimp only
      by_cases better : nwkCalcPathCost s rreq.srcAddr rreq.lqi + rreq.pathCost <
        (s.routeDisc.slots d).ent.forwardCost
      · rw [if_pos better]
        exact iff_of_true rfl ⟨room, better⟩
      · rw [if_neg better]
        exact iff_of_false (by simp) fun both => better both.2
    | none =>
      dsimp only
      rw [← getEnt_isSome_iff (t := s.routeDisc)]
      cases s.routeDisc.getEnt with
      | some e => exact iff_of_true rfl ⟨room, rfl⟩
      | none => exact iff_of_false (rreqFailed_ne_forward s' rreq) fun both => by simp at both

theorem canDiscover_iff (s : Nwk) (cbuf : BufRef) (destAddr : UInt16) :
    CanDiscover s destAddr ↔
      (meshRouteDiscovery s cbuf destAddr).2 = [.forward cbuf nwkInternalNsduHandle] := by
  have passed := rreqPassed_iff { s with rreqId := s.rreqId + 1 }
    { buf := cbuf, srcAddr := s.device.networkAddress, macSrc := s.device.networkAddress,
      rreqId := s.rreqId + 1, destAddr, pathCost := 0, lqi := none }
  rw [totalCost, UInt8.add_zero] at passed
  exact passed.symm

/-- The account, and the headers of the packets in the list as they were. -/
structure Books (w : Layer) : Prop where
  paired : Paired w
  headers : ∀ j < nwkPendingTableSize, (w.nwk.pending.slots j).used = true →
    w.dst (w.nwk.pending.slots j).ent.buf = (w.nwk.pending.slots j).ent.destAddr

namespace Books

variable {w : Layer} {spill : Spill}

theorem init (device : Device) (dst : BufRef → UInt16) : Books (Layer.init device dst) where
  paired := by
    rw [Paired, waiting]
    exact (usedWith_cleared _ _).symm
  headers := by
    intro j _ used
    cases used

/-- While a buffer is outstanding an entry waits. -/
theorem findEnt_isSome (books : Books w) (outstanding : w.grants ≠ 0) :
    ∃ p, w.nwk.pending.findEnt (·.waitingBuf) = some p := by
  have positive : 0 < waiting w.nwk := by
    rw [← books.paired]
    exact Nat.pos_of_ne_zero outstanding
  obtain ⟨i, inside, used, waits⟩ := usedWith_pos_iff.mp positive
  cases found : w.nwk.pending.findEnt (·.waitingBuf) with
  | some p => exact ⟨p, rfl⟩
  | none =>
    have fails := List.find?_eq_none.mp found i (List.mem_range.mpr inside)
    simp [used, waits] at fails

/-- What a grant does. -/
theorem meshInitiateRouteDiscovery_eq (books : Books w) {p : ℕ}
    (found : w.nwk.pending.findEnt (·.waitingBuf) = some p) (cbuf : BufRef) :
    meshInitiateRouteDiscovery w.nwk cbuf w.dst =
      ({ (meshRouteDiscovery w.nwk cbuf (w.nwk.pending.slots p).ent.destAddr).1 with
          pending := w.nwk.pending.modify p fun ent => { ent with waitingBuf := false } },
        (meshRouteDiscovery w.nwk cbuf (w.nwk.pending.slots p).ent.destAddr).2) := by
  obtain ⟨inside, used, -⟩ := findEnt_spec found
  rw [meshInitiateRouteDiscovery, found]
  dsimp only
  rw [books.headers p inside used, meshRouteDiscovery_pending w.nwk cbuf]

/-- An entry that is served waits no longer. -/
theorem waiting_modify {s : Nwk} {p : ℕ} (found : s.pending.findEnt (·.waitingBuf) = some p) :
    (s.pending.modify p fun ent => { ent with waitingBuf := false }).usedWith (·.waitingBuf) + 1 =
      waiting s := by
  obtain ⟨inside, used, waits⟩ := findEnt_spec found
  have moved := usedWith_update (t := s.pending) (p := (·.waitingBuf)) inside
    { s.pending.slots p with ent := { (s.pending.slots p).ent with waitingBuf := false } }
    s.pending.cnt
  simpa [used, waits, waiting, Table.modify] using moved

theorem serves_iff (books : Books w) {p : ℕ}
    (found : w.nwk.pending.findEnt (·.waitingBuf) = some p) (cbuf : BufRef) :
    Serves w cbuf ↔ CanDiscover w.nwk (w.nwk.pending.slots p).ent.destAddr := by
  have granted := books.meshInitiateRouteDiscovery_eq found cbuf
  obtain ⟨inside, used, waits⟩ := findEnt_spec found
  rw [canDiscover_iff w.nwk cbuf]
  constructor
  · rintro ⟨_, _, _, _, _, _, same⟩
    rw [granted] at same
    exact congrArg Prod.snd same
  · intro discovers
    refine ⟨p, inside, used, waits,
      (meshRouteDiscovery w.nwk cbuf (w.nwk.pending.slots p).ent.destAddr).1, ?_, ?_⟩
    · rw [← discovers]
    · rw [granted, discovers, meshRouteDiscovery_pending w.nwk cbuf]

/-- The number of entries that wait after an operation that asks for no buffer. -/
theorem paired_iff_of_quiet (books : Books w) {op : Op} (accepted : Bool)
    (admissible : Admissible w.nwk op) (quiet : ask ∉ (exec spill w.nwk op).2) :
    Paired (step spill w (.op op accepted)) ↔
      waiting (exec spill w.nwk op).1 = waiting w.nwk := by
  have paired := books.paired
  rw [Paired] at paired
  rw [Paired, step, if_pos admissible]
  dsimp only
  rw [List.count_eq_zero_of_not_mem quiet, ite_self, Nat.add_zero, paired]
  exact eq_comm

theorem handled_apart (books : Books w) {op : Op} (accepted : Bool)
    (admissible : Admissible w.nwk op) (apart : Apart w.nwk (exec spill w.nwk op)) :
    Handled spill w (.op op accepted) := by
  refine ⟨(books.paired_iff_of_quiet accepted admissible apart.2).mpr ?_, trivial⟩
  rw [waiting, waiting, apart.1]

theorem handled_forward_iff (books : Books w) (param : BufRef) (handle : UInt8) (nwhdr : NwkHdr)
    (hops : Hops) (accepted : Bool) :
    Handled spill w (.op (.forward param handle nwhdr hops) accepted) ↔
      Regular w (.op (.forward param handle nwhdr hops) accepted) := by
  rw [Regular]
  by_cases held : Held w.nwk param
  · have inadmissible : ¬ Admissible w.nwk (.forward param handle nwhdr hops) := not_not.mpr held
    refine iff_of_true ⟨?_, trivial⟩ fun free => absurd held free
    rw [step, if_neg inadmissible]
    exact books.paired
  · have admissible : Admissible w.nwk (.forward param handle nwhdr hops) := held
    rcases forward_cases w.nwk param handle nwhdr hops with ⟨parks, parked⟩ | ⟨passes, apart⟩
    · obtain ⟨⟨i, pending, got, after⟩, asks⟩ := parked
      have more : waiting (exec spill w.nwk (.forward param handle nwhdr hops)).1 =
          waiting w.nwk + 1 := by
        rw [waiting, waiting, exec, after]
        dsimp only
        rw [usedWith_getEnt got]
        rfl
      have paired := books.paired
      rw [Paired] at paired
      have now : Paired (step spill w (.op (.forward param handle nwhdr hops) accepted)) ↔
          (if accepted then (forward w.nwk param handle nwhdr hops).2.count ask else 0) = 1 := by
        rw [Paired, step, if_pos admissible]
        dsimp only
        rw [more, exec, paired]
        exact Nat.add_left_cancel_iff
      rw [Handled, now]
      rcases asks with ⟨calls, undiscovered⟩ | ⟨calls, discovered⟩
      · rw [calls]
        cases accepted with
        | true => exact iff_of_true ⟨by simp, trivial⟩ fun _ _ => ⟨undiscovered, rfl⟩
        | false => exact iff_of_false (by simp) fun ok => by simpa using (ok held parks).2
      · rw [calls]
        exact iff_of_false (by simp) fun ok => discovered (ok held parks).1
    · exact iff_of_true (books.handled_apart accepted admissible apart)
        fun _ parks => absurd parks passes

theorem handled_grant_iff (books : Books w) (cbuf : BufRef) :
    Handled spill w (.grant cbuf) ↔ Regular w (.grant cbuf) := by
  rw [Handled, Regular]
  by_cases none_ : w.grants = 0
  · refine iff_of_true ⟨?_, fun some_ => absurd none_ some_⟩ fun some_ => absurd none_ some_
    rw [step, if_pos none_]
    exact books.paired
  · obtain ⟨p, found⟩ := books.findEnt_isSome none_
    have paired : Paired (step spill w (.grant cbuf)) := by
      have before := books.paired
      have after := waiting_modify found
      rw [Paired] at before
      rw [Paired, step, if_neg none_, books.meshInitiateRouteDiscovery_eq found cbuf]
      dsimp only
      rw [waiting]
      dsimp only
      omega
    rw [found]
    constructor
    · rintro ⟨-, serves⟩ some_ q same
      cases same
      exact (books.serves_iff found cbuf).mp (serves some_)
    · intro room
      exact ⟨paired, fun some_ => (books.serves_iff found cbuf).mpr (room some_ p rfl)⟩

/-- In a state of the books an event is handled exactly if it is regular. -/
theorem handled_iff_regular (books : Books w) (event : Event) :
    Handled spill w event ↔ Regular w event := by
  cases event with
  | grant cbuf => exact books.handled_grant_iff cbuf
  | op op accepted =>
    cases op with
    | forward param handle nwhdr hops =>
      exact books.handled_forward_iff param handle nwhdr hops accepted
    | rrep rrep =>
      have admissible : Admissible w.nwk (.rrep rrep) := trivial
      rw [Handled, and_true,
        books.paired_iff_of_quiet accepted admissible (exec_quiet spill w.nwk (by simp))]
      exact rrep_waiting_iff w.nwk rrep
    | expiryPending =>
      have admissible : Admissible w.nwk .expiryPending := trivial
      rw [Handled, and_true,
        books.paired_iff_of_quiet accepted admissible (exec_quiet spill w.nwk (by simp))]
      exact expiryPending_waiting_iff w.nwk
    | initiateRouteDiscovery cbuf dst =>
      refine iff_of_true ⟨?_, trivial⟩ trivial
      have inadmissible : ¬ Admissible w.nwk (.initiateRouteDiscovery cbuf dst) := id
      rw [step, if_neg inadmissible]
      exact books.paired
    | configure | nldeDataRequest | mcpsDataConfirm | broadcastTransmition | mcpsDataIndication
    | newBufferAllocated | btrExpiry | rreq | nlmeRouteDiscoveryRequest | expiryRouteDisc | leave
    | resetRequest | resetConfirm =>
      exact iff_of_true (books.handled_apart accepted trivial (exec_apart spill w.nwk id)) trivial

/-- Headers stay right where entries keep their packets. -/
theorem headers_of_kept (books : Books w) {t : Table NwkPend nwkPendingTableSize}
    (kept : ∀ j < nwkPendingTableSize, (t.slots j).used = true →
      (w.nwk.pending.slots j).used = true ∧
        (t.slots j).ent.buf = (w.nwk.pending.slots j).ent.buf ∧
          (t.slots j).ent.destAddr = (w.nwk.pending.slots j).ent.destAddr) :
    ∀ j < nwkPendingTableSize, (t.slots j).used = true →
      w.dst (t.slots j).ent.buf = (t.slots j).ent.destAddr := by
  intro j inside used
  obtain ⟨was, buf, destAddr⟩ := kept j inside used
  rw [buf, destAddr]
  exact books.headers j inside was

theorem headers_of_thinned (books : Books w) {s' : Nwk} (thinned : Thinned w.nwk s') :
    ∀ j < nwkPendingTableSize, (s'.pending.slots j).used = true →
      w.dst (s'.pending.slots j).ent.buf = (s'.pending.slots j).ent.destAddr := by
  apply books.headers_of_kept
  intro j inside used
  obtain ⟨was, buf, destAddr, -⟩ := thinned j inside used
  exact ⟨was, buf, destAddr⟩

/-- A packet of the list keeps its header while another is forwarded. -/
theorem headers_of_other (books : Books w) {param : BufRef} (free : ¬ Held w.nwk param)
    (destAddr : UInt16) {j : ℕ} (inside : j < nwkPendingTableSize)
    (used : (w.nwk.pending.slots j).used = true) :
    Function.update w.dst param destAddr (w.nwk.pending.slots j).ent.buf =
      (w.nwk.pending.slots j).ent.destAddr := by
  have other : (w.nwk.pending.slots j).ent.buf ≠ param := fun same => free ⟨j, inside, used, same⟩
  rw [Function.update_of_ne other]
  exact books.headers j inside used

theorem headers_forward (books : Books w) {param : BufRef} (handle : UInt8) (nwhdr : NwkHdr)
    (hops : Hops) (free : ¬ Held w.nwk param) :
    ∀ j < nwkPendingTableSize,
      ((forward w.nwk param handle nwhdr hops).1.pending.slots j).used = true →
        Function.update w.dst param nwhdr.dstAddr
            ((forward w.nwk param handle nwhdr hops).1.pending.slots j).ent.buf =
          ((forward w.nwk param handle nwhdr hops).1.pending.slots j).ent.destAddr := by
  intro j inside used
  rcases forward_cases w.nwk param handle nwhdr hops with ⟨-, parked⟩ | ⟨-, apart⟩
  · obtain ⟨i, pending, got, after⟩ := parked.pending
    obtain ⟨-, -, rfl, -⟩ := getEnt_spec got
    rw [after] at used ⊢
    dsimp only at used ⊢
    by_cases here : j = i
    · subst here
      rw [modify_ent]
      exact Function.update_self ..
    · rw [modify_slots_of_ne _ here, mark_used, if_neg here] at used
      rw [modify_slots_of_ne _ here, mark_ent]
      exact books.headers_of_other free nwhdr.dstAddr inside used
  · rw [apart.1] at used ⊢
    exact books.headers_of_other free nwhdr.dstAddr inside used

theorem headers_apart (books : Books w) {op : Op} (apart : Apart w.nwk (exec spill w.nwk op)) :
    ∀ j < nwkPendingTableSize, ((exec spill w.nwk op).1.pending.slots j).used = true →
      w.dst ((exec spill w.nwk op).1.pending.slots j).ent.buf =
        ((exec spill w.nwk op).1.pending.slots j).ent.destAddr := by
  rw [apart.1]
  exact books.headers

theorem headers_grant (books : Books w) (some_ : w.grants ≠ 0) (cbuf : BufRef) :
    ∀ j < nwkPendingTableSize,
      ((meshInitiateRouteDiscovery w.nwk cbuf w.dst).1.pending.slots j).used = true →
        w.dst ((meshInitiateRouteDiscovery w.nwk cbuf w.dst).1.pending.slots j).ent.buf =
          ((meshInitiateRouteDiscovery w.nwk cbuf w.dst).1.pending.slots j).ent.destAddr := by
  obtain ⟨p, found⟩ := books.findEnt_isSome some_
  rw [books.meshInitiateRouteDiscovery_eq found cbuf]
  apply books.headers_of_kept
  intro j inside used
  rw [modify_used] at used
  by_cases here : j = p
  · subst here
    rw [modify_ent]
    exact ⟨used, rfl, rfl⟩
  · rw [modify_slots_of_ne _ here]
    exact ⟨used, rfl, rfl⟩

theorem step (books : Books w) {event : Event} (regular : Regular w event) :
    Books (step spill w event) := by
  refine ⟨((books.handled_iff_regular event).mpr regular).1, ?_⟩
  cases event with
  | grant cbuf =>
    rw [PendingGrants.step]
    split
    · exact books.headers
    · rename_i some_
      exact books.headers_grant some_ cbuf
  | op op accepted =>
    rw [PendingGrants.step]
    split
    · rename_i admissible
      cases op with
      | forward param handle nwhdr hops =>
        exact books.headers_forward handle nwhdr hops admissible
      | rrep rrep => exact books.headers_of_thinned (rrep_thinned w.nwk rrep)
      | expiryPending => exact books.headers_of_thinned (expiryPending_thinned w.nwk)
      | initiateRouteDiscovery => exact absurd admissible id
      | configure | nldeDataRequest | mcpsDataConfirm | broadcastTransmition | mcpsDataIndication
      | newBufferAllocated | btrExpiry | rreq | nlmeRouteDiscoveryRequest | expiryRouteDisc | leave
      | resetRequest | resetConfirm =>
        exact books.headers_apart (exec_apart spill w.nwk id)
    · exact books.headers

end Books

/-- **In every order of events, buffers and waiting packets stay paired and every grant serves a
packet that waits for it exactly as long as every event is regular.** -/
theorem handled_iff (spill : Spill) (device : Device) (dst : BufRef → UInt16)
    (events : List Event) :
    Along (step spill) (Handled spill) (Layer.init device dst) events ↔
      Along (step spill) Regular (Layer.init device dst) events :=
  along_iff_of_invariant (fun _ event books => Books.handled_iff_regular books event)
    (fun _ _ books regular => Books.step books regular) _ events (Books.init device dst)

/-- A packet for a destination that the layers above are having discovered waits for a buffer
that nobody asks for. -/
theorem waits_unasked :
    ¬ Along (step fun t _ _ => t) (Handled fun t _ _ => t) (Layer.init router fun _ => 0)
      [.op (.nlmeRouteDiscoveryRequest 1 true false 0x10 false) true,
        .op (.forward 2 7 ⟨0x10, 0x1234, 1, true⟩ ⟨none, 0, none, fun _ => false, none⟩) true] := by
  intro met
  exact absurd met.2.1.1 (by decide +kernel)

end Zboss.PendingGrants
