import Zboss.Nwk.Footprints

/-!
Route requests and replies that come to nothing.  A request for which there is no discovery
entry, and a reply to an unknown request, give the route of their destination back also where
it was there before; every other failure leaves the active routes alone.
-/

namespace Zboss.DynamicTables

open Zboss.SlotTable Zboss.SlotTable.Table

/-- A packet of the route discovery. -/
inductive RoutePacket
  | request (rreq : RouteRequest)
  | reply (rrep : RouteReply)
  deriving DecidableEq, Repr

namespace RoutePacket

/-- The state after the handler. -/
def handle (s : Nwk) : RoutePacket → Nwk
  | request rreq => (meshRreqHandler s rreq).1
  | reply rrep => (meshRrepHandler s rrep).1

/-- The destination of the route. -/
def destAddr : RoutePacket → UInt16
  | request rreq => rreq.destAddr
  | reply rrep => rrep.responder

/-- The discovery entry of the packet. -/
def discovery (s : Nwk) : RoutePacket → Option ℕ
  | request rreq => s.routeDisc.findEnt fun ent =>
    ent.requestId == rreq.rreqId && ent.sourceAddr == rreq.srcAddr
  | reply rrep => s.routeDisc.findEnt fun ent =>
    ent.requestId == rrep.rreqId && ent.sourceAddr == rrep.originator

/-- The total path cost. -/
def cost (s : Nwk) : RoutePacket → UInt8
  | request rreq => nwkCalcPathCost s rreq.srcAddr rreq.lqi + rreq.pathCost
  | reply rrep => nwkCalcPathCost s rrep.srcAddr rrep.lqi + rrep.pathCost

/-- The handler cannot complete: there is no routing entry to be had, no discovery entry to be
had, or the path is no better. -/
def Fails (s : Nwk) (p : RoutePacket) : Prop :=
  match p with
  | request _ =>
    meshFindRoute s p.destAddr = none ∧ s.routing.getEnt.isNone = true ∨
      p.discovery s = none ∧ s.routeDisc.getEnt.isNone = true ∨
      ∃ d, p.discovery s = some d ∧ (s.routeDisc.slots d).ent.forwardCost ≤ p.cost s
  | reply _ =>
    meshFindRoute s p.destAddr = none ∨ p.discovery s = none ∨
      ∃ d, p.discovery s = some d ∧ (s.routeDisc.slots d).ent.residualCost < p.cost s

/-- A failure leaves every active route as it is. -/
def KeepsActive (s : Nwk) (p : RoutePacket) : Prop :=
  p.Fails s → ∀ j < nwkRoutingTableSize, (s.routing.slots j).used = true →
    (s.routing.slots j).ent.status = .active →
      ((p.handle s).routing.slots j).used = true ∧
        ((p.handle s).routing.slots j).ent.status = .active ∧
          ((p.handle s).routing.slots j).ent.nextHopAddr = (s.routing.slots j).ent.nextHopAddr

/-- Where there is an active route to the destination, the discovery table knows the packet or,
for a request, has room. -/
def Known (s : Nwk) (p : RoutePacket) : Prop :=
  ∀ r, meshFindRoute s p.destAddr = some r → (s.routing.slots r).ent.status = .active →
    p.discovery s = none → match p with
      | request _ => s.routeDisc.HasFree
      | reply _ => False

/-! ## Requests -/

/-- What a request does to the routing entry is nothing to an active one. -/
theorem rreqRouting_active {s s' : Nwk} {destAddr : UInt16} {r j : ℕ}
    (found : rreqRouting s destAddr = some (r, s')) (used : (s.routing.slots j).used = true)
    (active : (s.routing.slots j).ent.status = .active) :
    s'.routing.slots j = s.routing.slots j := by
  rw [rreqRouting] at found
  split at found
  · cases found
    by_cases same : j = r
    · subst same
      simp [Table.modify, active]
    · exact modify_slots_of_ne _ same
  · obtain ⟨⟨q, routing⟩, got, same⟩ := Option.map_eq_some_iff.mp found
    cases same
    obtain ⟨-, free, rfl, -⟩ := getEnt_spec got
    have other : j ≠ r := by
      rintro rfl
      rw [free] at used
      cases used
    dsimp only
    rw [modify_slots_of_ne _ other]
    simp [mark, other]

theorem rreqRouting_routeDisc {s s' : Nwk} {destAddr : UInt16} {r : ℕ}
    (found : rreqRouting s destAddr = some (r, s')) : s'.routeDisc = s.routeDisc := by
  obtain ⟨routing, rfl⟩ := rreqRouting_writes found
  rfl

/-- The entry for a destination that is known is the one found. -/
theorem rreqRouting_of_found {s : Nwk} {destAddr : UInt16} {r : ℕ}
    (found : meshFindRoute s destAddr = some r) : ∃ s', rreqRouting s destAddr = some (r, s') := by
  rw [meshFindRoute] at found
  rw [rreqRouting, found]
  exact ⟨_, rfl⟩

/-- A new entry is none that was in use. -/
theorem rreqRouting_of_not_found {s s' : Nwk} {destAddr : UInt16} {r : ℕ}
    (missing : meshFindRoute s destAddr = none) (found : rreqRouting s destAddr = some (r, s')) :
    (s.routing.slots r).used = false := by
  rw [meshFindRoute] at missing
  rw [rreqRouting, missing] at found
  obtain ⟨⟨q, routing⟩, got, same⟩ := Option.map_eq_some_iff.mp found
  cases same
  exact (getEnt_spec got).2.1

/-- Whether the discovery table has an entry for a request. -/
theorem rreqDiscovery_noMemory_iff {s s' : Nwk} (same : s'.routeDisc = s.routeDisc)
    (rreq : RouteRequest) (pathCost : UInt8) :
    rreqDiscovery s' rreq pathCost = .noMemory ↔
      (request rreq).discovery s = none ∧ ¬ s.routeDisc.HasFree := by
  rw [rreqDiscovery, same, discovery]
  cases s.routeDisc.findEnt fun ent =>
    ent.requestId == rreq.rreqId && ent.sourceAddr == rreq.srcAddr with
  | some d =>
    dsimp only
    split <;> simp
  | none =>
    rw [← getEnt_isSome_iff]
    cases s.routeDisc.getEnt <;> simp

/-- A request without a discovery entry gives its routing entry back. -/
theorem request_lost {s s' : Nwk} {rreq : RouteRequest} {r : ℕ}
    (found : rreqRouting s rreq.destAddr = some (r, s'))
    (lost : rreqDiscovery s' rreq ((request rreq).cost s) = .noMemory) :
    ((request rreq).handle s).routing = s'.routing.putEnt r := by
  rw [cost] at lost
  rw [handle, meshRreqHandler, found]
  dsimp only
  rw [lost]

/-- Another one leaves the routes of its first half. -/
theorem request_kept {s s' : Nwk} {rreq : RouteRequest} {r : ℕ}
    (found : rreqRouting s rreq.destAddr = some (r, s'))
    (kept : rreqDiscovery s' rreq ((request rreq).cost s) ≠ .noMemory) :
    ((request rreq).handle s).routing = s'.routing := by
  rw [cost] at kept
  rw [handle, meshRreqHandler, found]
  dsimp only
  cases second : rreqDiscovery s' rreq
    (nwkCalcPathCost s rreq.srcAddr rreq.lqi + rreq.pathCost) with
  | process s'' =>
    obtain ⟨routeDisc, rfl⟩ := rreqDiscovery_writes second
    rfl
  | worse => rfl
  | noMemory => exact absurd second kept

theorem request_keepsActive_iff (s : Nwk) (rreq : RouteRequest) :
    (request rreq).KeepsActive s ↔ (request rreq).Known s := by
  constructor
  · intro keeps r route active unknown
    by_contra full
    obtain ⟨s', found⟩ := rreqRouting_of_found route
    obtain ⟨inside, used, -⟩ := findEnt_spec route
    have lost := (rreqDiscovery_noMemory_iff (rreqRouting_routeDisc found) rreq
      ((request rreq).cost s)).mpr ⟨unknown, full⟩
    have fails : (request rreq).Fails s := by
      refine Or.inr (Or.inl ⟨unknown, ?_⟩)
      rw [Option.isNone_iff_eq_none, ← Option.not_isSome_iff_eq_none, getEnt_isSome_iff]
      exact full
    have still := (keeps fails r inside used active).1
    rw [request_lost found lost] at still
    simp [putEnt] at still
  · intro known _ j inside used active
    cases found : rreqRouting s rreq.destAddr with
    | none =>
      have idle : (request rreq).handle s = s := by
        rw [handle, meshRreqHandler, found]
      rw [idle]
      exact ⟨used, active, rfl⟩
    | some e =>
      obtain ⟨r, s'⟩ := e
      have same := rreqRouting_active found used active
      by_cases lost : rreqDiscovery s' rreq ((request rreq).cost s) = .noMemory
      · obtain ⟨unknown, full⟩ := (rreqDiscovery_noMemory_iff (rreqRouting_routeDisc found) rreq
          ((request rreq).cost s)).mp lost
        have other : j ≠ r := by
          rintro rfl
          cases route : meshFindRoute s rreq.destAddr with
          | none =>
            rw [rreqRouting_of_not_found route found] at used
            cases used
          | some q =>
            obtain ⟨s'', again⟩ := rreqRouting_of_found route
            rw [found] at again
            cases again
            exact full (known _ route active unknown)
        rw [request_lost found lost, putEnt, mark_used, mark_ent, if_neg other, same]
        exact ⟨used, active, rfl⟩
      · rw [request_kept found lost, same]
        exact ⟨used, active, rfl⟩

/-! ## Replies -/

theorem reply_keepsActive_iff (s : Nwk) (rrep : RouteReply) :
    (reply rrep).KeepsActive s ↔ (reply rrep).Known s := by
  constructor
  · intro keeps r route active unknown
    obtain ⟨inside, used, -⟩ := findEnt_spec route
    have still := (keeps (Or.inr (Or.inl unknown)) r inside used active).1
    have lost : ((reply rrep).handle s).routing = s.routing.putEnt r := by
      have route' : (s.routing.findEnt fun ent => ent.destAddr == rrep.responder) = some r := route
      rw [discovery] at unknown
      rw [handle, meshRrepHandler, unknown, route']
    rw [lost] at still
    simp [putEnt] at still
  · intro known fails j inside used active
    rw [handle, meshRrepHandler]
    split
    · exact ⟨used, active, rfl⟩
    · exact ⟨used, active, rfl⟩
    · rename_i r unknown route
      have other : j ≠ r := by
        rintro rfl
        exact known _ route active unknown
      dsimp only
      rw [putEnt, mark_used, mark_ent, if_neg other]
      exact ⟨used, active, rfl⟩
    · rename_i d r found route
      have worse : (s.routeDisc.slots d).ent.residualCost < (reply rrep).cost s := by
        rcases fails with missing | missing | ⟨d', found', worse⟩
        · cases missing.symm.trans route
        · cases missing.symm.trans found
        · cases found.symm.trans found'
          exact worse
      rw [cost] at worse
      rw [if_pos worse]
      exact ⟨used, active, rfl⟩

/-- Failures keep the active routes exactly where the packet of an active route is known. -/
theorem keepsActive_iff (s : Nwk) (p : RoutePacket) : p.KeepsActive s ↔ p.Known s := by
  cases p with
  | request rreq => exact request_keepsActive_iff s rreq
  | reply rrep => exact reply_keepsActive_iff s rrep

/-- A router with an active route and no discovery. -/
def routed : Nwk :=
  { Nwk.init router with
    routing := { slots := fun j => if j = 0 then ⟨true, .active, 0x10, 0x30⟩
                                   else ⟨false, .active, 0, 0⟩
                 cnt := 1 } }

/-- A late reply, whose discovery has expired, takes the route away. -/
theorem late_reply_frees :
    ¬ (reply { buf := 1, srcAddr := 0x30, macSrc := 0x30, rreqId := 4, originator := 0x1234,
               responder := 0x10, pathCost := 3, lqi := none }).KeepsActive routed := by
  intro keeps
  have still := keeps (Or.inr (Or.inl (by decide))) 0 (by decide) rfl rfl
  exact absurd still.1 (by decide +kernel)

end RoutePacket

end Zboss.DynamicTables
