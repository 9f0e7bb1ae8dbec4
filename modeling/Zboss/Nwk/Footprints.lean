import Zboss.Nwk.TableAccounting

/-!
What the operations of the network layer write, and whom they ask a buffer for.  A lemma names
the parts of the state that a handler may change, so that all others are seen to stay, and
everyone who may be given a buffer that its calls ask for.
-/

namespace Zboss.DynamicTables

open Zboss.SlotTable Zboss.SlotTable.Table

/-- Buffers are asked for by these alone. -/
def AsksFor (waiters : List Waiter) (calls : List Call) : Prop :=
  ∀ waiter, .getBuf waiter ∈ calls → waiter ∈ waiters

theorem AsksFor.append {waiters : List Waiter} {calls calls' : List Call}
    (first : AsksFor waiters calls) (second : AsksFor waiters calls') :
    AsksFor waiters (calls ++ calls') := by
  intro waiter asked
  rcases List.mem_append.mp asked with asked | asked
  · exact first waiter asked
  · exact second waiter asked

theorem AsksFor.not_mem {waiters : List Waiter} {calls : List Call} {waiter : Waiter}
    (asks : AsksFor waiters calls) (other : waiter ∉ waiters) : .getBuf waiter ∉ calls :=
  fun asked => other (asks waiter asked)

variable (s : Nwk)

/-! ### Mesh routing -/

theorem rreqRouting_writes {s s' : Nwk} {destAddr : UInt16} {r : ℕ}
    (found : rreqRouting s destAddr = some (r, s')) : ∃ routing, s' = { s with routing } := by
  rw [rreqRouting] at found
  split at found
  · cases found
    exact ⟨_, rfl⟩
  · obtain ⟨e, -, same⟩ := Option.map_eq_some_iff.mp found
    cases same
    exact ⟨_, rfl⟩

theorem rreqDiscovery_writes {s s' : Nwk} {rreq : RouteRequest} {pathCost : UInt8}
    (processed : rreqDiscovery s rreq pathCost = .process s') :
    ∃ routeDisc, s' = { s with routeDisc } := by
  rw [rreqDiscovery] at processed
  split at processed
  · split at processed
    · cases processed
      exact ⟨_, rfl⟩
    · cases processed
  · split at processed
    · cases processed
      exact ⟨_, rfl⟩
    · cases processed

theorem rreqFailed_asks (rreq : RouteRequest) : AsksFor [] (rreqFailed s rreq) := by
  rw [rreqFailed]
  split <;> simp [AsksFor]

theorem meshRreqHandler_writes (rreq : RouteRequest) :
    (∃ routing routeDisc, (meshRreqHandler s rreq).1 = { s with routing, routeDisc }) ∧
      AsksFor [] (meshRreqHandler s rreq).2 := by
  rw [meshRreqHandler]
  split
  · exact ⟨⟨_, _, rfl⟩, rreqFailed_asks s rreq⟩
  · rename_i r s' found
    obtain ⟨routing, rfl⟩ := rreqRouting_writes found
    split
    · exact ⟨⟨_, _, rfl⟩, by simp [AsksFor]⟩
    · exact ⟨⟨_, _, rfl⟩, rreqFailed_asks _ rreq⟩
    · rename_i s'' processed
      obtain ⟨routeDisc, rfl⟩ := rreqDiscovery_writes processed
      exact ⟨⟨_, _, rfl⟩, by simp [AsksFor]⟩

theorem meshRouteDiscovery_writes (cbuf : BufRef) (destAddr : UInt16) :
    (∃ routing routeDisc rreqId,
        (meshRouteDiscovery s cbuf destAddr).1 = { s with routing, routeDisc, rreqId }) ∧
      AsksFor [] (meshRouteDiscovery s cbuf destAddr).2 := by
  rw [meshRouteDiscovery]
  obtain ⟨⟨routing, routeDisc, after⟩, quiet⟩ :=
    meshRreqHandler_writes { s with rreqId := s.rreqId + 1 } _
  exact ⟨⟨routing, routeDisc, _, after⟩, quiet⟩

theorem meshInitiateRouteDiscovery_writes (cbuf : BufRef) (dst : BufRef → UInt16) :
    (∃ routing routeDisc rreqId pending, (meshInitiateRouteDiscovery s cbuf dst).1 =
        { s with routing, routeDisc, rreqId, pending }) ∧
      AsksFor [] (meshInitiateRouteDiscovery s cbuf dst).2 := by
  rw [meshInitiateRouteDiscovery]
  split
  · rename_i p _
    obtain ⟨⟨routing, routeDisc, rreqId, after⟩, quiet⟩ :=
      meshRouteDiscovery_writes s cbuf (dst (s.pending.slots p).ent.buf)
    dsimp only
    rw [after]
    exact ⟨⟨_, _, _, _, rfl⟩, quiet⟩
  · exact ⟨⟨_, _, _, _, rfl⟩, by simp [AsksFor]⟩

theorem nlmeRouteDiscoveryRequest_writes (buf : BufRef) (unicast noAddr : Bool)
    (networkAddr : UInt16) (neighbor : Bool) :
    (∃ routing routeDisc rreqId apsRreqAddr,
        (nlmeRouteDiscoveryRequest s buf unicast noAddr networkAddr neighbor).1 =
          { s with routing, routeDisc, rreqId, apsRreqAddr }) ∧
      AsksFor [] (nlmeRouteDiscoveryRequest s buf unicast noAddr networkAddr neighbor).2 := by
  have refused (success : Bool) : (∃ routing routeDisc rreqId apsRreqAddr,
      s = { s with routing, routeDisc, rreqId, apsRreqAddr }) ∧
        AsksFor [] [.nlmeRouteDiscoveryConfirm buf success] :=
    ⟨⟨_, _, _, _, rfl⟩, by simp [AsksFor]⟩
  rw [nlmeRouteDiscoveryRequest]
  split
  · exact refused _
  split
  · exact refused _
  split
  · exact refused _
  split
  · exact refused _
  split
  · obtain ⟨⟨routing, routeDisc, rreqId, after⟩, quiet⟩ :=
      meshRouteDiscovery_writes { s with apsRreqAddr := networkAddr } buf networkAddr
    exact ⟨⟨routing, routeDisc, rreqId, _, after⟩, quiet⟩
  · exact refused _

theorem meshRrepHandler_writes (rrep : RouteReply) :
    (∃ routing routeDisc pending apsRreqAddr, (meshRrepHandler s rrep).1 =
        { s with routing, routeDisc, pending, apsRreqAddr }) ∧
      AsksFor [] (meshRrepHandler s rrep).2 := by
  have released : AsksFor []
      (releasePending rrep.responder (List.range nwkPendingTableSize) s.pending).2 := by
    intro waiter asked
    obtain ⟨buf, handle, same⟩ := releasePending_calls _ _ _ _ asked
    cases same
  rw [meshRrepHandler]
  dsimp only
  split
  · exact ⟨⟨_, _, _, _, rfl⟩, by simp [AsksFor]⟩
  · exact ⟨⟨_, _, _, _, rfl⟩, by simp [AsksFor]⟩
  · exact ⟨⟨_, _, _, _, rfl⟩, by simp [AsksFor]⟩
  · split
    · exact ⟨⟨_, _, _, _, rfl⟩, by simp [AsksFor]⟩
    · split
      · split
        · exact ⟨⟨_, _, _, _, rfl⟩, released.append (by simp [AsksFor])⟩
        · exact ⟨⟨_, _, _, _, rfl⟩, released.append (by simp [AsksFor])⟩
      · exact ⟨⟨_, _, _, _, rfl⟩, by simp [AsksFor]⟩

theorem expireRouteDisc_writes :
    ∀ (slots : List ℕ) (s : Nwk),
      ∃ routing routeDisc, (expireRouteDisc slots s).1 = { s with routing, routeDisc } := by
  intro slots
  induction slots with
  | nil => exact fun s => ⟨_, _, rfl⟩
  | cons i rest induction_ =>
    intro s
    rw [expireRouteDisc]
    split
    · split
      · exact induction_ { s with routeDisc := _ }
      · split
        · exact induction_ { s with routeDisc := _ }
        · exact ⟨_, _, rfl⟩
    · exact induction_ s

theorem meshExpiryRouteDisc_writes :
    (∃ routing routeDisc, (meshExpiryRouteDisc s).1 = { s with routing, routeDisc }) ∧
      AsksFor [.routeDiscFailed] (meshExpiryRouteDisc s).2 := by
  rw [meshExpiryRouteDisc]
  split
  · refine ⟨expireRouteDisc_writes _ s, ?_⟩
    dsimp only
    split <;> simp [AsksFor]
  · exact ⟨⟨_, _, rfl⟩, by simp [AsksFor]⟩

theorem meshExpiryPending_writes :
    (∃ pending, (meshExpiryPending s).1 = { s with pending }) ∧
      AsksFor [] (meshExpiryPending s).2 := by
  rw [meshExpiryPending]
  split
  · refine ⟨⟨_, rfl⟩, fun waiter asked => ?_⟩
    obtain ⟨buf, same⟩ := expirePending_calls _ _ _ asked
    cases same
  · exact ⟨⟨_, rfl⟩, by simp [AsksFor]⟩

/-! ### Forwarding -/

theorem undeliverable_asks (hops : Hops) (macDst : UInt16) (param : BufRef) :
    AsksFor [] [undeliverable hops macDst param] := by
  rw [undeliverable]
  split <;> simp [AsksFor]

theorem park_writes (nsdu : BufRef) (handle : UInt8) (dst : UInt16) (discover : Bool) :
    (∃ routing pending,
        (park s nsdu handle dst discover).1 = { s with routing, pending }) ∧
      ∀ call ∈ (park s nsdu handle dst discover).2.2, call = .getBuf .initiateRouteDiscovery := by
  rw [park, meshAddBufToPending]
  cases s.pending.getEnt with
  | none => exact ⟨⟨_, _, rfl⟩, by simp⟩
  | some e =>
    refine ⟨⟨_, _, rfl⟩, ?_⟩
    cases discover <;> simp

theorem calcDestination_writes (nsdu : BufRef) (handle : UInt8) (nwhdr : NwkHdr) (hops : Hops) :
    (∃ routing pending,
        (calcDestination s nsdu handle nwhdr hops).1 = { s with routing, pending }) ∧
      ∀ call ∈ (calcDestination s nsdu handle nwhdr hops).2.2,
        call = .getBuf .initiateRouteDiscovery := by
  rw [calcDestination]
  split
  · exact ⟨⟨_, _, rfl⟩, by simp⟩
  split
  · exact ⟨⟨_, _, rfl⟩, by simp⟩
  split
  · exact ⟨⟨_, _, rfl⟩, by simp⟩
  split
  · split
    · exact park_writes s ..
    · dsimp only
      split
      · exact ⟨⟨_, _, rfl⟩, by simp⟩
      · split
        · exact park_writes s ..
        · exact ⟨⟨_, _, rfl⟩, by simp⟩
  · exact ⟨⟨_, _, rfl⟩, by simp⟩

theorem sendTo_writes (param : BufRef) (handle : UInt8) (nwhdr : NwkHdr) (hops : Hops)
    (macDst : UInt16) (indirect : Bool) :
    (∃ btt brrt reqParams, (sendTo s param handle nwhdr hops macDst indirect).1 =
        { s with btt, brrt, reqParams }) ∧
      AsksFor [.broadcastTransmition] (sendTo s param handle nwhdr hops macDst indirect).2 := by
  have lost (waiters : List Waiter) : AsksFor waiters [undeliverable hops macDst param] :=
    fun waiter asked => absurd asked ((undeliverable_asks hops macDst param).not_mem (by simp))
  rw [sendTo]
  dsimp only
  split
  · exact ⟨⟨_, _, _, rfl⟩, lost _⟩
  · split
    · split
      · split
        · exact ⟨⟨_, _, _, rfl⟩, by simp [AsksFor]⟩
        · exact ⟨⟨_, _, _, rfl⟩, by simp [AsksFor]⟩
      · exact ⟨⟨_, _, _, rfl⟩, lost _⟩
    · exact ⟨⟨_, _, _, rfl⟩, by simp [AsksFor]⟩

theorem forward_writes (param : BufRef) (handle : UInt8) (nwhdr : NwkHdr) (hops : Hops) :
    (∃ btt brrt routing pending reqParams, (forward s param handle nwhdr hops).1 =
        { s with btt, brrt, routing, pending, reqParams }) ∧
      AsksFor [.initiateRouteDiscovery, .broadcastTransmition]
        (forward s param handle nwhdr hops).2 := by
  obtain ⟨⟨routing, pending, after⟩, asks⟩ := calcDestination_writes s param handle nwhdr hops
  rw [forward]
  generalize calcDestination s param handle nwhdr hops = result at *
  obtain ⟨s', destination, calls⟩ := result
  dsimp only at after asks
  subst after
  cases destination with
  | hop macDst indirect =>
    obtain ⟨⟨btt, brrt, reqParams, sent⟩, asks'⟩ :=
      sendTo_writes { s with routing, pending } param handle nwhdr hops macDst indirect
    exact ⟨⟨btt, brrt, _, _, reqParams, sent⟩, fun waiter asked =>
      List.mem_cons_of_mem _ (asks' waiter asked)⟩
  | busy =>
    refine ⟨⟨_, _, _, _, _, rfl⟩, fun waiter asked => ?_⟩
    cases asks _ asked
    exact List.mem_cons_self
  | error status =>
    refine ⟨⟨_, _, _, _, _, rfl⟩, fun waiter asked => ?_⟩
    exact absurd asked ((undeliverable_asks hops _ param).not_mem (by simp))

/-! ### Broadcasts -/

theorem transmit_writes (brrt : RetransmitTable) (i : ℕ) (child : Option ℕ) (param : BufRef)
    (env : Surroundings) :
    (∃ brrt' reqParams, (transmit s brrt i child param env).1 =
        { s with brrt := brrt', reqParams }) ∧
      AsksFor [.broadcastTransmition] (transmit s brrt i child param env).2 := by
  rw [transmit]
  dsimp only
  split
  · exact ⟨⟨_, _, rfl⟩, by simp [AsksFor]⟩
  · exact ⟨⟨_, _, rfl⟩, by simp [AsksFor]⟩

theorem transmitAgain_asks : AsksFor [.broadcastTransmition] (transmitAgain s) := by
  rw [transmitAgain]
  split <;> simp [AsksFor]

theorem broadcastTransmition_writes (spill : Spill) (param : BufRef) (env : Surroundings) :
    (∃ brrt reqParams,
        (broadcastTransmition spill s param env).1 = { s with brrt, reqParams }) ∧
      AsksFor [.broadcastTransmition] (broadcastTransmition spill s param env).2 := by
  rw [broadcastTransmition]
  split
  · refine ⟨⟨_, _, rfl⟩, AsksFor.append ?_ (transmitAgain_asks _)⟩
    split <;> simp [AsksFor]
  · split
    · exact ⟨⟨_, _, rfl⟩, by simp [AsksFor]⟩
    · rename_i brrt i child _ _
      obtain ⟨after, asks⟩ :=
        transmit_writes s (noteTransmission spill env brrt i child) i child param env
      exact ⟨after, asks.append (transmitAgain_asks _)⟩

theorem deliver_writes (frame : RxFrame) :
    (∃ waitAlloc, (deliver s frame).1 = { s with waitAlloc }) ∧
      AsksFor [.newBufferAllocated] (deliver s frame).2 := by
  rw [deliver]
  split
  · exact ⟨⟨_, rfl⟩, by simp [AsksFor]⟩
  · split
    · split
      · exact ⟨⟨_, rfl⟩, by simp [AsksFor]⟩
      · exact ⟨⟨_, rfl⟩, by simp [AsksFor]⟩
    · exact ⟨⟨_, rfl⟩, by simp [AsksFor]⟩
    · exact ⟨⟨_, rfl⟩, by simp [AsksFor]⟩
    · exact ⟨⟨_, rfl⟩, by simp [AsksFor]⟩

theorem notePassiveAck_writes (spill : Spill) (frame : RxFrame) :
    (∃ brrt, (notePassiveAck spill s frame).1 = { s with brrt }) ∧
      ∀ call ∈ (notePassiveAck spill s frame).2, ∃ buf, call = .callBrConfirm buf := by
  rw [notePassiveAck]
  split
  · rw [passiveAcked]
    split
    · exact ⟨⟨_, rfl⟩, by simp⟩
    · exact ⟨⟨_, rfl⟩, by simp⟩
  · exact ⟨⟨_, rfl⟩, by simp⟩

theorem notePassiveAck_asks (spill : Spill) (frame : RxFrame) (waiters : List Waiter) :
    AsksFor waiters (notePassiveAck spill s frame).2 := by
  intro waiter asked
  obtain ⟨buf, same⟩ := (notePassiveAck_writes s spill frame).2 _ asked
  cases same

theorem receiveBroadcast_writes (frame : RxFrame) :
    (∃ btt waitAlloc, (receiveBroadcast s frame).1 = { s with btt, waitAlloc }) ∧
      AsksFor [.newBufferAllocated] (receiveBroadcast s frame).2 := by
  rw [receiveBroadcast]
  split
  · exact ⟨⟨_, _, rfl⟩, by simp [AsksFor]⟩
  · split
    · exact ⟨⟨_, _, rfl⟩, by simp [AsksFor]⟩
    · rename_i btt _
      obtain ⟨⟨waitAlloc, after⟩, asks⟩ := deliver_writes { s with btt } frame
      exact ⟨⟨_, waitAlloc, after⟩, asks⟩

theorem mcpsDataIndication_writes (spill : Spill) (frame : RxFrame) :
    (∃ btt brrt waitAlloc,
        (mcpsDataIndication spill s frame).1 = { s with btt, brrt, waitAlloc }) ∧
      AsksFor [.newBufferAllocated] (mcpsDataIndication spill s frame).2 := by
  rw [mcpsDataIndication]
  split
  · exact ⟨⟨_, _, _, rfl⟩, by simp [AsksFor]⟩
  · split
    · split
      · obtain ⟨brrt, noted⟩ := (notePassiveAck_writes s spill frame).1
        have confirms := notePassiveAck_asks s spill frame [.newBufferAllocated]
        dsimp only
        rw [noted]
        obtain ⟨⟨btt, waitAlloc, after⟩, asks⟩ := receiveBroadcast_writes { s with brrt } frame
        exact ⟨⟨btt, _, waitAlloc, after⟩, confirms.append asks⟩
      · exact ⟨⟨_, _, _, rfl⟩, by simp [AsksFor]⟩
    · obtain ⟨⟨waitAlloc, after⟩, asks⟩ := deliver_writes s frame
      exact ⟨⟨_, _, waitAlloc, after⟩, asks⟩

theorem newBufferAllocated_writes (param : BufRef) :
    (∃ waitAlloc, (newBufferAllocated s param).1 = { s with waitAlloc }) ∧
      AsksFor [.newBufferAllocated] (newBufferAllocated s param).2 := by
  rw [newBufferAllocated]
  split
  · refine ⟨⟨_, rfl⟩, ?_⟩
    dsimp only
    split <;> simp [AsksFor]
  · exact ⟨⟨_, rfl⟩, by simp [AsksFor]⟩

theorem btrExpiry_writes : ∃ btt, btrExpiry s = { s with btt } := by
  rw [btrExpiry]
  split <;> exact ⟨_, rfl⟩

theorem nlmeResetRequest_writes (warmStart : Bool) :
    ∃ device routing routeDisc,
      nlmeResetRequest s warmStart = { s with device, routing, routeDisc } := by
  rw [nlmeResetRequest]
  split
  · split <;> exact ⟨_, _, _, rfl⟩
  · exact ⟨_, _, _, rfl⟩

/-! ### Operations -/

/-- Whom the calls of an operation may ask a buffer for. -/
def Op.waiters : Op → List Waiter
  | .mcpsDataConfirm .. => [.callStatusIndication]
  | .forward .. => [.initiateRouteDiscovery, .broadcastTransmition]
  | .broadcastTransmition .. => [.broadcastTransmition]
  | .mcpsDataIndication _ | .newBufferAllocated _ => [.newBufferAllocated]
  | .expiryRouteDisc => [.routeDiscFailed]
  | .configure _ | .nldeDataRequest .. | .btrExpiry | .rreq _ | .rrep _
  | .initiateRouteDiscovery .. | .nlmeRouteDiscoveryRequest .. | .expiryPending | .leave
  | .resetRequest _ | .resetConfirm => []

theorem exec_asks (spill : Spill) (op : Op) : AsksFor op.waiters (exec spill s op).2 := by
  cases op with
  | configure | btrExpiry | leave | resetRequest | resetConfirm => simp [exec, AsksFor]
  | nldeDataRequest nsdu handle =>
    rw [exec, nldeDataRequest]
    split <;> simp [AsksFor]
  | mcpsDataConfirm param handle success =>
    rw [exec, mcpsDataConfirm, Op.waiters]
    split_ifs <;> simp [AsksFor]
  | forward param handle nwhdr hops => exact (forward_writes s param handle nwhdr hops).2
  | broadcastTransmition param env => exact (broadcastTransmition_writes s spill param env).2
  | mcpsDataIndication frame => exact (mcpsDataIndication_writes s spill frame).2
  | newBufferAllocated param => exact (newBufferAllocated_writes s param).2
  | rreq rreq => exact (meshRreqHandler_writes s rreq).2
  | rrep rrep => exact (meshRrepHandler_writes s rrep).2
  | initiateRouteDiscovery cbuf dst => exact (meshInitiateRouteDiscovery_writes s cbuf dst).2
  | nlmeRouteDiscoveryRequest buf unicast noAddr networkAddr neighbor =>
    exact (nlmeRouteDiscoveryRequest_writes s buf unicast noAddr networkAddr neighbor).2
  | expiryRouteDisc => exact (meshExpiryRouteDisc_writes s).2
  | expiryPending => exact (meshExpiryPending_writes s).2

/-- The operation is on the tables of routes alone. -/
def RouteSide : Op → Prop
  | .forward .. | .broadcastTransmition .. | .mcpsDataIndication .. | .newBufferAllocated ..
  | .btrExpiry | .leave | .resetConfirm => False
  | _ => True

theorem exec_routeSide (spill : Spill) {op : Op} (side : RouteSide op) :
    ∃ device routing routeDisc pending rreqId apsRreqAddr, (exec spill s op).1 =
      { s with device, routing, routeDisc, pending, rreqId, apsRreqAddr } := by
  cases op with
  | configure | nldeDataRequest | mcpsDataConfirm => exact ⟨_, _, _, _, _, _, rfl⟩
  | rreq rreq =>
    obtain ⟨routing, routeDisc, after⟩ := (meshRreqHandler_writes s rreq).1
    exact ⟨_, routing, routeDisc, _, _, _, after⟩
  | rrep rrep =>
    obtain ⟨routing, routeDisc, pending, apsRreqAddr, after⟩ := (meshRrepHandler_writes s rrep).1
    exact ⟨_, routing, routeDisc, pending, _, apsRreqAddr, after⟩
  | initiateRouteDiscovery cbuf dst =>
    obtain ⟨routing, routeDisc, rreqId, pending, after⟩ :=
      (meshInitiateRouteDiscovery_writes s cbuf dst).1
    exact ⟨_, routing, routeDisc, pending, rreqId, _, after⟩
  | nlmeRouteDiscoveryRequest buf unicast noAddr networkAddr neighbor =>
    obtain ⟨routing, routeDisc, rreqId, apsRreqAddr, after⟩ :=
      (nlmeRouteDiscoveryRequest_writes s buf unicast noAddr networkAddr neighbor).1
    exact ⟨_, routing, routeDisc, _, rreqId, apsRreqAddr, after⟩
  | expiryRouteDisc =>
    obtain ⟨routing, routeDisc, after⟩ := (meshExpiryRouteDisc_writes s).1
    exact ⟨_, routing, routeDisc, _, _, _, after⟩
  | expiryPending =>
    obtain ⟨pending, after⟩ := (meshExpiryPending_writes s).1
    exact ⟨_, _, _, pending, _, _, after⟩
  | resetRequest warmStart =>
    obtain ⟨device, routing, routeDisc, after⟩ := nlmeResetRequest_writes s warmStart
    exact ⟨device, routing, routeDisc, _, _, _, after⟩
  | forward | broadcastTransmition | mcpsDataIndication | newBufferAllocated | btrExpiry | leave
  | resetConfirm => exact absurd side id

end Zboss.DynamicTables
