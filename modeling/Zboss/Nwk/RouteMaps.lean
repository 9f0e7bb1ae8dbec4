import Zboss.Lib.KeyedTable
import Zboss.Nwk.RouteFailure

/-!
The route discovery table as a map from requests to discovery entries and the routing table
as a map from destinations to routes, and what the handlers of mesh routing do to them.
-/

namespace Zboss.DynamicTables

open Zboss.SlotTable Zboss.SlotTable.Table

/-- A request is known by its id and its originator. -/
abbrev RreqKey := UInt8 × UInt16

/-- The request an entry is for. -/
def NwkRouteDiscovery.key (ent : NwkRouteDiscovery) : RreqKey := (ent.requestId, ent.sourceAddr)

/-- The next hop of the route is in use. -/
def NwkRouting.Formed (ent : NwkRouting) : Prop :=
  ent.status = .active ∨ ent.status = .validationUnderway

instance (ent : NwkRouting) : Decidable ent.Formed := inferInstanceAs (Decidable (_ ∨ _))

namespace Nwk

/-- The discovery entry of a request. -/
def discovery (s : Nwk) : RreqKey → Option NwkRouteDiscovery :=
  s.routeDisc.lookup NwkRouteDiscovery.key

/-- The route to a destination. -/
def route (s : Nwk) : UInt16 → Option NwkRouting := s.routing.lookup NwkRouting.destAddr

/-- One entry a request, and one a destination. -/
structure Keyed (s : Nwk) : Prop where
  routeDisc : s.routeDisc.Distinct NwkRouteDiscovery.key
  routing : s.routing.Distinct NwkRouting.destAddr

/-- No route is formed. -/
def NoNewRoute (s s' : Nwk) : Prop :=
  ∀ dest ent', s'.route dest = some ent' → ent'.Formed →
    ∃ ent, s.route dest = some ent ∧ ent.Formed ∧ ent.nextHopAddr = ent'.nextHopAddr

/-- Entries may go, and no cost changes. -/
structure Kept (s s' : Nwk) : Prop where
  keyed : s'.Keyed
  device : s'.device = s.device
  discovery : ∀ key ent', s'.discovery key = some ent' → ∃ ent, s.discovery key = some ent ∧
    ent.senderAddr = ent'.senderAddr ∧ ent.forwardCost = ent'.forwardCost ∧
      ent.residualCost = ent'.residualCost
  route : NoNewRoute s s'

end Nwk

open Nwk

theorem findDiscovery_eq (s : Nwk) (rreqId : UInt8) (src : UInt16) :
    (s.routeDisc.findEnt fun ent => ent.requestId == rreqId && ent.sourceAddr == src) =
      s.routeDisc.findKey NwkRouteDiscovery.key (rreqId, src) := by
  rw [findKey]
  congr
  funext ent
  simp [NwkRouteDiscovery.key, Bool.beq_eq_decide_eq]

theorem findRoute_eq (s : Nwk) (dest : UInt16) :
    (s.routing.findEnt fun ent => ent.destAddr == dest) =
      s.routing.findKey NwkRouting.destAddr dest := rfl

variable {s s' s'' : Nwk}

theorem Nwk.NoNewRoute.refl (s : Nwk) : NoNewRoute s s :=
  fun _ ent found formed => ⟨ent, found, formed, rfl⟩

theorem Nwk.NoNewRoute.trans (first : NoNewRoute s s') (second : NoNewRoute s' s'') :
    NoNewRoute s s'' := by
  intro dest ent'' found'' formed''
  obtain ⟨ent', found', formed', same'⟩ := second dest ent'' found'' formed''
  obtain ⟨ent, found, formed, same⟩ := first dest ent' found' formed'
  exact ⟨ent, found, formed, same.trans same'⟩

namespace Nwk.Kept

theorem refl (keyed : s.Keyed) : Kept s s where
  keyed := keyed
  device := rfl
  discovery := fun _ ent found => ⟨ent, found, rfl, rfl, rfl⟩
  route := NoNewRoute.refl s

theorem trans (first : Kept s s') (second : Kept s' s'') : Kept s s'' where
  keyed := second.keyed
  device := second.device.trans first.device
  discovery := by
    intro key ent'' found''
    obtain ⟨ent', found', sender', forward', residual'⟩ := second.discovery key ent'' found''
    obtain ⟨ent, found, sender, forward, residual⟩ := first.discovery key ent' found'
    exact ⟨ent, found, sender.trans sender', forward.trans forward', residual.trans residual'⟩
  route := first.route.trans second.route

/-- An entry is rewritten, its costs are not. -/
theorem modifyDisc (keyed : s.Keyed) {i : ℕ} (inside : i < nwkRouteDiscoveryTableSize)
    (used : (s.routeDisc.slots i).used = true) {f : NwkRouteDiscovery → NwkRouteDiscovery}
    (key : ∀ ent, (f ent).key = ent.key) (sender : ∀ ent, (f ent).senderAddr = ent.senderAddr)
    (forward : ∀ ent, (f ent).forwardCost = ent.forwardCost)
    (residual : ∀ ent, (f ent).residualCost = ent.residualCost) :
    Kept s { s with routeDisc := s.routeDisc.modify i f } where
  keyed := { keyed with routeDisc := keyed.routeDisc.modify (key _) }
  device := rfl
  discovery := by
    intro k ent' found
    rw [Nwk.discovery, keyed.routeDisc.lookup_modify inside used (key _)] at found
    by_cases here : k = (s.routeDisc.slots i).ent.key
    · subst here
      rw [Function.update_self] at found
      cases found
      refine ⟨(s.routeDisc.slots i).ent, ?_, (sender _).symm, (forward _).symm, (residual _).symm⟩
      exact keyed.routeDisc.lookup_eq_some_iff.mpr ⟨i, inside, used, rfl, rfl⟩
    · rw [Function.update_of_ne here] at found
      exact ⟨ent', found, rfl, rfl, rfl⟩
  route := NoNewRoute.refl s

/-- A discovery entry is given back. -/
theorem putDisc (keyed : s.Keyed) {i : ℕ} (inside : i < nwkRouteDiscoveryTableSize)
    (used : (s.routeDisc.slots i).used = true) :
    Kept s { s with routeDisc := s.routeDisc.putEnt i } where
  keyed := { keyed with routeDisc := keyed.routeDisc.putEnt i }
  device := rfl
  discovery := by
    intro k ent' found
    rw [Nwk.discovery, keyed.routeDisc.lookup_putEnt inside used] at found
    by_cases here : k = (s.routeDisc.slots i).ent.key
    · subst here
      rw [Function.update_self] at found
      cases found
    · rw [Function.update_of_ne here] at found
      exact ⟨ent', found, rfl, rfl, rfl⟩
  route := NoNewRoute.refl s

/-- A route is given back. -/
theorem putRoute (keyed : s.Keyed) {r : ℕ} (inside : r < nwkRoutingTableSize)
    (used : (s.routing.slots r).used = true) :
    Kept s { s with routing := s.routing.putEnt r } where
  keyed := { keyed with routing := keyed.routing.putEnt r }
  device := rfl
  discovery := fun _ ent found => ⟨ent, found, rfl, rfl, rfl⟩
  route := by
    intro dest ent' found formed
    rw [Nwk.route, keyed.routing.lookup_putEnt inside used] at found
    by_cases here : dest = (s.routing.slots r).ent.destAddr
    · subst here
      rw [Function.update_self] at found
      cases found
    · rw [Function.update_of_ne here] at found
      exact ⟨ent', found, formed, rfl⟩

end Nwk.Kept

/-! ## Requests -/

/-- The routing half of a request forms no route. -/
theorem rreqRouting_kept (keyed : s.Keyed) {destAddr : UInt16} {r : ℕ}
    (found : rreqRouting s destAddr = some (r, s')) :
    Kept s s' ∧ r < nwkRoutingTableSize ∧ (s'.routing.slots r).used = true := by
  rw [rreqRouting, findRoute_eq] at found
  cases known : s.routing.findKey NwkRouting.destAddr destAddr with
  | some q =>
    rw [known] at found
    cases found
    obtain ⟨inside, used, dest⟩ := findKey_spec known
    refine ⟨⟨{ keyed with routing := keyed.routing.modify ?_ }, rfl,
      fun _ ent found => ⟨ent, found, rfl, rfl, rfl⟩, ?_⟩, inside, ?_⟩
    · split <;> rfl
    · intro d ent' found formed
      rw [Nwk.route, keyed.routing.lookup_modify inside used (by split <;> rfl)] at found
      by_cases here : d = (s.routing.slots r).ent.destAddr
      · subst here
        rw [Function.update_self] at found
        refine ⟨(s.routing.slots r).ent,
          keyed.routing.lookup_eq_some_iff.mpr ⟨r, inside, used, rfl, rfl⟩, ?_⟩
        split at found
        · cases found
          rcases formed with active | underway
          · cases active
          · cases underway
        · cases found
          exact ⟨formed, rfl⟩
      · rw [Function.update_of_ne here] at found
        exact ⟨ent', found, formed, rfl⟩
    · rw [modify_used, used]
  | none =>
    rw [known] at found
    obtain ⟨⟨q, routing⟩, got, same⟩ := Option.map_eq_some_iff.mp found
    cases same
    have distinct := keyed.routing.insert
      (f := fun ent => { ent with destAddr, status := .discoveryUnderway }) got known rfl
    refine ⟨⟨{ keyed with routing := distinct }, rfl,
      fun _ ent found => ⟨ent, found, rfl, rfl, rfl⟩, ?_⟩, (getEnt_spec got).1, ?_⟩
    · intro d ent' found formed
      rw [Nwk.route, keyed.routing.lookup_insert got known rfl] at found
      by_cases here : d = destAddr
      · subst here
        rw [Function.update_self] at found
        cases found
        rcases formed with active | underway
        · cases active
        · cases underway
      · rw [Function.update_of_ne here] at found
        exact ⟨ent', found, formed, rfl⟩
    · obtain ⟨-, -, rfl, -⟩ := getEnt_spec got
      simp

/-- A request is noted in the discovery table with total cost `total`. -/
structure Noted (s s' : Nwk) (rreq : RouteRequest) (total : UInt8) : Prop where
  keyed : s'.Keyed
  device : s'.device = s.device
  route : NoNewRoute s s'
  discovery : ∃ ent', ent'.senderAddr = rreq.macSrc ∧ ent'.forwardCost = total ∧
    s'.discovery = Function.update s.discovery (rreq.rreqId, rreq.srcAddr) (some ent') ∧
      (s.discovery (rreq.rreqId, rreq.srcAddr) = none ∧ ent'.residualCost = 0xff ∨
        ∃ ent, s.discovery (rreq.rreqId, rreq.srcAddr) = some ent ∧ total < ent.forwardCost ∧
          ent'.residualCost = ent.residualCost)

theorem rreqDiscovery_noted (keyed : s.Keyed) {rreq : RouteRequest} {total : UInt8}
    (processed : rreqDiscovery s rreq total = .process s') : Noted s s' rreq total := by
  rw [rreqDiscovery, findDiscovery_eq] at processed
  cases known : s.routeDisc.findKey NwkRouteDiscovery.key (rreq.rreqId, rreq.srcAddr) with
  | some d =>
    rw [known] at processed
    obtain ⟨inside, used, key⟩ := findKey_spec known
    dsimp only at processed
    split at processed
    · rename_i better
      cases processed
      let f : NwkRouteDiscovery → NwkRouteDiscovery := fun ent =>
        { ent with senderAddr := rreq.macSrc, forwardCost := total }
      have distinct := keyed.routeDisc.modify (f := f) (i := d) rfl
      have now := keyed.routeDisc.lookup_modify (f := f) inside used rfl
      rw [key] at now
      exact ⟨{ keyed with routeDisc := distinct }, rfl, NoNewRoute.refl s,
        _, rfl, rfl, now, Or.inr ⟨_, lookup_of_findKey known, better, rfl⟩⟩
    · cases processed
  | none =>
    rw [known] at processed
    dsimp only at processed
    split at processed
    · rename_i d routeDisc got
      cases processed
      let f : NwkRouteDiscovery → NwkRouteDiscovery := fun _ =>
        { requestId := rreq.rreqId, sourceAddr := rreq.srcAddr, senderAddr := rreq.macSrc,
          destAddr := rreq.destAddr, forwardCost := total, residualCost := 0xff,
          expirationTime := nwkRouteDiscoveryExpiry }
      have distinct := keyed.routeDisc.insert (f := f) got known rfl
      have now := keyed.routeDisc.lookup_insert (f := f) got known rfl
      exact ⟨{ keyed with routeDisc := distinct }, rfl,
        NoNewRoute.refl s, _, rfl, rfl, now, Or.inl ⟨lookup_eq_none_iff.mpr known, rfl⟩⟩
    · cases processed

/-- The request goes on, as a request or as a reply. -/
def rreqPassed (s : Nwk) (rreq : RouteRequest) : Prop :=
  (meshRreqHandler s rreq).2 = [.forward rreq.buf nwkInternalNsduHandle]

instance (s : Nwk) (rreq : RouteRequest) : Decidable (rreqPassed s rreq) :=
  inferInstanceAs (Decidable (_ = _))

/-- The cost of a path with the link the packet came by. -/
def totalCost (s : Nwk) (srcAddr : UInt16) (lqi : Option UInt8) (pathCost : UInt8) : UInt8 :=
  nwkCalcPathCost s srcAddr lqi + pathCost

theorem rreqFailed_ne_forward (s : Nwk) (rreq : RouteRequest) :
    rreqFailed s rreq ≠ [.forward rreq.buf nwkInternalNsduHandle] := by
  rw [rreqFailed]
  split <;> simp

/-- What a request does to the two maps. -/
theorem meshRreqHandler_cases (keyed : s.Keyed) (rreq : RouteRequest) :
    ¬ rreqPassed s rreq ∧ Kept s (meshRreqHandler s rreq).1 ∨
      rreqPassed s rreq ∧ Noted s (meshRreqHandler s rreq).1 rreq
        (totalCost s rreq.srcAddr rreq.lqi rreq.pathCost) := by
  rw [rreqPassed, meshRreqHandler, totalCost]
  cases found : rreqRouting s rreq.destAddr with
  | none => exact Or.inl ⟨rreqFailed_ne_forward s rreq, Kept.refl keyed⟩
  | some e =>
    obtain ⟨r, s'⟩ := e
    obtain ⟨kept, inside, used⟩ := rreqRouting_kept keyed found
    have same : s'.discovery = s.discovery := by
      rw [Nwk.discovery, Nwk.discovery, RoutePacket.rreqRouting_routeDisc found]
    dsimp only
    cases second : rreqDiscovery s' rreq
      (nwkCalcPathCost s rreq.srcAddr rreq.lqi + rreq.pathCost) with
    | process s'' =>
      obtain ⟨keyed'', device, route, ent', noted⟩ := rreqDiscovery_noted kept.keyed second
      rw [same] at noted
      exact Or.inr ⟨rfl, keyed'', device.trans kept.device, kept.route.trans route, ent', noted⟩
    | worse => exact Or.inl ⟨by simp, kept⟩
    | noMemory =>
      exact Or.inl ⟨rreqFailed_ne_forward s' rreq,
        kept.trans (Kept.putRoute kept.keyed inside used)⟩

/-! ## Replies -/

/-- The entries a reply is meant for, where its path is good enough. -/
def rrepEnts (s : Nwk) (rrep : RouteReply) : Option (ℕ × ℕ) :=
  match s.routeDisc.findEnt fun ent =>
      ent.requestId == rrep.rreqId && ent.sourceAddr == rrep.originator,
    s.routing.findEnt fun ent => ent.destAddr == rrep.responder with
  | some d, some r =>
    if (s.routeDisc.slots d).ent.residualCost <
        nwkCalcPathCost s rrep.srcAddr rrep.lqi + rrep.pathCost then none
    else some (d, r)
  | _, _ => none

/-- A reply is taken in with total cost `total`. -/
structure Taken (s s' : Nwk) (rrep : RouteReply) (d : ℕ) (total : UInt8) : Prop where
  keyed : s'.Keyed
  device : s'.device = s.device
  known : s.discovery (rrep.rreqId, rrep.originator) = some (s.routeDisc.slots d).ent
  better : total ≤ (s.routeDisc.slots d).ent.residualCost
  discovery : ∃ ent', ent'.senderAddr = (s.routeDisc.slots d).ent.senderAddr ∧
    ent'.forwardCost = (s.routeDisc.slots d).ent.forwardCost ∧ ent'.residualCost = total ∧
      s'.discovery = Function.update s.discovery (rrep.rreqId, rrep.originator) (some ent')
  route : ∃ ent', ent'.nextHopAddr = rrep.macSrc ∧
    s'.route = Function.update s.route rrep.responder (some ent')

/-- The state of a reply that is taken in, before the pending packets are looked at. -/
def rrepTaken (s : Nwk) (rrep : RouteReply) (d r : ℕ) : Nwk :=
  { s with
    routeDisc := s.routeDisc.modify d fun ent =>
      { ent with
        residualCost := nwkCalcPathCost s rrep.srcAddr rrep.lqi + rrep.pathCost
        expirationTime := nwkRouteDiscoveryExpiry }
    routing := s.routing.modify r fun ent =>
      { ent with
        nextHopAddr := rrep.macSrc
        status := if ent.status = .discoveryUnderway then .validationUnderway else ent.status } }

theorem rrepTaken_taken (keyed : s.Keyed) {rrep : RouteReply} {d r : ℕ}
    (disc : s.routeDisc.findKey NwkRouteDiscovery.key (rrep.rreqId, rrep.originator) = some d)
    (route : s.routing.findKey NwkRouting.destAddr rrep.responder = some r)
    (better : totalCost s rrep.srcAddr rrep.lqi rrep.pathCost ≤
      (s.routeDisc.slots d).ent.residualCost) :
    Taken s (rrepTaken s rrep d r) rrep d
      (totalCost s rrep.srcAddr rrep.lqi rrep.pathCost) := by
  obtain ⟨dInside, dUsed, dKey⟩ := findKey_spec disc
  obtain ⟨rInside, rUsed, rKey⟩ := findKey_spec route
  let f : NwkRouteDiscovery → NwkRouteDiscovery := fun ent =>
    { ent with
      residualCost := totalCost s rrep.srcAddr rrep.lqi rrep.pathCost
      expirationTime := nwkRouteDiscoveryExpiry }
  let g : NwkRouting → NwkRouting := fun ent =>
    { ent with
      nextHopAddr := rrep.macSrc
      status := if ent.status = .discoveryUnderway then .validationUnderway else ent.status }
  have discNow := keyed.routeDisc.lookup_modify (f := f) dInside dUsed rfl
  have routeNow := keyed.routing.lookup_modify (f := g) rInside rUsed rfl
  rw [dKey] at discNow
  rw [rKey] at routeNow
  have discDistinct := keyed.routeDisc.modify (f := f) (i := d) rfl
  have routeDistinct := keyed.routing.modify (f := g) (i := r) rfl
  exact ⟨⟨discDistinct, routeDistinct⟩, rfl, lookup_of_findKey disc, better,
    ⟨f (s.routeDisc.slots d).ent, rfl, rfl, rfl, discNow⟩,
    ⟨g (s.routing.slots r).ent, rfl, routeNow⟩⟩

theorem meshRrepHandler_taken {rrep : RouteReply} {d r : ℕ}
    (ents : rrepEnts s rrep = some (d, r)) :
    ∃ pending apsRreqAddr, (meshRrepHandler s rrep).1 =
      { rrepTaken s rrep d r with pending, apsRreqAddr } := by
  rw [rrepEnts] at ents
  rw [meshRrepHandler]
  split at ents
  · rename_i d' r' disc route
    split at ents
    · cases ents
    · rename_i better
      cases ents
      rw [disc, route]
      dsimp only
      rw [if_neg better]
      split
      · split
        · exact ⟨_, _, rfl⟩
        · exact ⟨_, _, rfl⟩
      · exact ⟨_, _, rfl⟩
  · cases ents

/-- What a reply does to the two maps. -/
theorem meshRrepHandler_cases (keyed : s.Keyed) (rrep : RouteReply) :
    rrepEnts s rrep = none ∧ Kept s (meshRrepHandler s rrep).1 ∨
      ∃ d r, rrepEnts s rrep = some (d, r) ∧ Taken s (meshRrepHandler s rrep).1 rrep d
        (totalCost s rrep.srcAddr rrep.lqi rrep.pathCost) := by
  cases ents : rrepEnts s rrep with
  | none =>
    refine Or.inl ⟨rfl, ?_⟩
    rw [rrepEnts] at ents
    rw [meshRrepHandler]
    split
    · exact Kept.refl keyed
    · rename_i disc _
      obtain ⟨inside, used, -⟩ := findEnt_spec disc
      exact Kept.putDisc keyed inside used
    · rename_i _ route
      obtain ⟨inside, used, -⟩ := findEnt_spec route
      exact Kept.putRoute keyed inside used
    · rename_i disc route
      rw [disc, route] at ents
      dsimp only at ents
      split at ents
      · rename_i worse
        rw [if_pos worse]
        exact Kept.refl keyed
      · cases ents
  | some e =>
    obtain ⟨d, r⟩ := e
    refine Or.inr ⟨d, r, rfl, ?_⟩
    obtain ⟨pending, apsRreqAddr, after⟩ := meshRrepHandler_taken ents
    rw [after]
    rw [rrepEnts, findDiscovery_eq, findRoute_eq] at ents
    split at ents
    · rename_i d' r' disc route
      split at ents
      · cases ents
      · rename_i better
        cases ents
        obtain ⟨⟨routeDisc, routing⟩, device, known, better, disc', route'⟩ :=
          rrepTaken_taken keyed disc route (UInt8.not_lt.mp better)
        exact ⟨⟨routeDisc, routing⟩, device, known, better, disc', route'⟩
    · cases ents

/-! ## Expiry -/

theorem expireRouteDisc_kept : ∀ (slots : List ℕ) (s : Nwk), s.Keyed →
    (∀ i ∈ slots, i < nwkRouteDiscoveryTableSize) → Kept s (expireRouteDisc slots s).1 := by
  intro slots
  induction slots with
  | nil => exact fun s keyed _ => Kept.refl keyed
  | cons i rest induction_ =>
    intro s keyed inside
    obtain ⟨first, others⟩ := List.forall_mem_cons.mp inside
    rw [expireRouteDisc]
    split
    · rename_i used
      split
      · have counted := Kept.modifyDisc keyed first used
          (f := fun ent => { ent with expirationTime := ent.expirationTime - 1 })
          (fun _ => rfl) (fun _ => rfl) (fun _ => rfl) (fun _ => rfl)
        exact counted.trans (induction_ _ counted.keyed others)
      · have given := Kept.putDisc keyed first used
        split
        · exact given.trans (induction_ _ given.keyed others)
        · rename_i route
          obtain ⟨routeInside, routeUsed, -⟩ := findSlot_spec route
          exact given.trans (Kept.putRoute given.keyed routeInside routeUsed)
    · exact induction_ s keyed others

theorem meshExpiryRouteDisc_kept (keyed : s.Keyed) : Kept s (meshExpiryRouteDisc s).1 := by
  rw [meshExpiryRouteDisc]
  split
  · exact expireRouteDisc_kept _ s keyed fun i member => List.mem_range.mp member
  · exact Kept.refl keyed

end Zboss.DynamicTables
