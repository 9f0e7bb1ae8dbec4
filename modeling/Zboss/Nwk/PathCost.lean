import Zboss.Lib.Walk
import Zboss.Nwk.RouteMaps

/-!
Path costs in a network.  Routers send each other route requests and replies; what is in the
air may be heard late, more than once or never, and routers outside the network send what they
like.  As long as no total leaves the eight bits, no link costs nothing, replies are only taken
in for a lower cost and no request is noted a second time after its entry has gone, costs rise
with every hop of a request and fall with every hop of a route.
-/

namespace Zboss.PathCost

open Zboss.DynamicTables Zboss.Run Zboss.Walk Zboss.SlotTable.Table

/-! ## Frames -/

/-- A route request or a route reply in the air, with its sender at the MAC. -/
inductive Frame
  | rreq (sender srcAddr : UInt16) (rreqId : UInt8) (destAddr : UInt16) (pathCost : UInt8)
  | rrep (sender dst srcAddr : UInt16) (rreqId : UInt8) (originator responder : UInt16)
    (pathCost : UInt8)
  deriving DecidableEq, Repr

namespace Frame

def sender : Frame → UInt16
  | rreq sender .. => sender
  | rrep sender .. => sender

def pathCost : Frame → UInt8
  | rreq _ _ _ _ pathCost => pathCost
  | rrep _ _ _ _ _ _ pathCost => pathCost

/-- Requests are broadcast. -/
def Reaches (v : UInt16) : Frame → Prop
  | rreq .. => True
  | rrep _ dst .. => dst = v

instance (v : UInt16) : DecidablePred (Reaches v)
  | rreq .. => isTrue trivial
  | rrep _ dst .. => inferInstanceAs (Decidable (dst = v))

end Frame

/-- `zb_nwk_mesh_send_rreq`. -/
def meshSendRreq (s : Nwk) (rreq : RouteRequest) (pathCost : UInt8) : Frame :=
  .rreq s.device.networkAddress rreq.srcAddr rreq.rreqId rreq.destAddr pathCost

/-- `zb_nwk_mesh_send_rrep`. -/
def meshSendRrep (s : Nwk) (rreqId : UInt8) (originator responder : UInt16) (pathCost : UInt8)
    (senderAddr : UInt16) : Frame :=
  .rrep s.device.networkAddress senderAddr s.device.networkAddress rreqId originator responder
    pathCost

/-- The destination of the request is this router or a neighbour. -/
def answers (s : Nwk) (rreq : RouteRequest) (neighbor : Bool) : Bool :=
  rreq.destAddr == s.device.networkAddress || neighbor

/-- What `zb_nwk_mesh_rreq_handler` sends. -/
def rreqSends (s : Nwk) (rreq : RouteRequest) (neighbor : Bool) : Frame :=
  let pathCost := totalCost s rreq.srcAddr rreq.lqi rreq.pathCost
  if answers s rreq neighbor then
    meshSendRrep s rreq.rreqId rreq.srcAddr rreq.destAddr pathCost rreq.macSrc
  else meshSendRreq s rreq pathCost

/-- What `zb_nwk_mesh_rrep_handler` sends for a reply it takes in with discovery entry `d`. -/
def rrepSends (s : Nwk) (rrep : RouteReply) (d : ℕ) : Option Frame :=
  if rrep.originator = s.device.networkAddress then none
  else some (meshSendRrep s rrep.rreqId rrep.originator rrep.responder
    (totalCost s rrep.srcAddr rrep.lqi rrep.pathCost) (s.routeDisc.slots d).ent.senderAddr)

/-! ## The network -/

/-- A router, a discovery and the destination of a route. -/
abbrev Leg := UInt16 × RreqKey × UInt16

/-- The routers of a network and what is in the air.  `totals` has each cost received with the
costs stored and sent on for it, `replaced` each stored cost with the one that replaced it,
`noted` the requests a router has made an entry for, `told` the next hop and the cost of the
last reply taken in, and `answered` the requests that a router has replied to itself. -/
structure World where
  node : UInt16 → Nwk
  air : List Frame
  totals : List (UInt8 × UInt8)
  replaced : List (UInt8 × UInt8)
  noted : UInt16 → List RreqKey
  told : Leg → Option (UInt16 × UInt8)
  answered : List Leg

/-- A router asks for a route, a router hears a frame, or its discovery entries are counted
down.  `lqi` is the link quality of the frame's source, if that is a neighbour, and `neighbor`
says whether the destination of a request is one. -/
inductive Op
  | discover (v : UInt16) (cbuf : BufRef) (destAddr : UInt16) (neighbor : Bool)
  | receive (v : UInt16) (buf : BufRef) (frame : Frame) (lqi : Option UInt8) (neighbor : Bool)
  | expiry (v : UInt16)

/-- A stored cost and the one in its place. -/
def replacement (cost : NwkRouteDiscovery → UInt8) :
    Option NwkRouteDiscovery → Option NwkRouteDiscovery → List (UInt8 × UInt8)
  | some ent, some ent' => [(cost ent, cost ent')]
  | _, _ => []

/-- A cost received, with the cost stored for it and the cost sent on. -/
def passedOn (pathCost : UInt8) (cost : NwkRouteDiscovery → UInt8)
    (stored : Option NwkRouteDiscovery) (sent : Option Frame) : List (UInt8 × UInt8) :=
  stored.toList.map (fun ent => (pathCost, cost ent)) ++
    sent.toList.map fun frame => (pathCost, frame.pathCost)

theorem mem_replacement {cost : NwkRouteDiscovery → UInt8} {before after : Option NwkRouteDiscovery}
    {p : UInt8 × UInt8} (member : p ∈ replacement cost before after) :
    ∃ ent ent', before = some ent ∧ after = some ent' ∧ p = (cost ent, cost ent') := by
  cases before with
  | none => cases member
  | some ent =>
    cases after with
    | none => cases member
    | some ent' => exact ⟨ent, ent', rfl, rfl, List.mem_singleton.mp member⟩

theorem mem_passedOn {pathCost : UInt8} {cost : NwkRouteDiscovery → UInt8}
    {stored : Option NwkRouteDiscovery} {sent : Option Frame} {p : UInt8 × UInt8}
    (member : p ∈ passedOn pathCost cost stored sent) :
    (∃ ent, stored = some ent ∧ p = (pathCost, cost ent)) ∨
      ∃ frame, sent = some frame ∧ p = (pathCost, frame.pathCost) := by
  simp only [passedOn, List.mem_append, List.mem_map, Option.mem_toList] at member
  rcases member with ⟨ent, found, rfl⟩ | ⟨frame, found, rfl⟩
  · exact Or.inl ⟨ent, found, rfl⟩
  · exact Or.inr ⟨frame, found, rfl⟩

namespace World

/-- A network at start; the address of a router is its place. -/
def init (device : UInt16 → Device) : World where
  node v := Nwk.init { device v with networkAddress := v }
  air := []
  totals := []
  replaced := []
  noted _ := []
  told _ := none
  answered := []

/-- Router `v` in state `s` handles a request. -/
def request (w : World) (v : UInt16) (s : Nwk) (rreq : RouteRequest) (neighbor : Bool) : World :=
  let key := (rreq.rreqId, rreq.srcAddr)
  let s' := (meshRreqHandler s rreq).1
  if rreqPassed s rreq then
    { w with
      node := Function.update w.node v s'
      air := rreqSends s rreq neighbor :: w.air
      replaced := replacement (·.forwardCost) (s.discovery key) (s'.discovery key) ++ w.replaced
      noted := Function.update w.noted v (key :: w.noted v)
      answered := if answers s rreq neighbor then (v, key, rreq.destAddr) :: w.answered
        else w.answered }
  else { w with node := Function.update w.node v s' }

/-- Router `v` hears a request. -/
def hearRequest (w : World) (v : UInt16) (rreq : RouteRequest) (neighbor : Bool) : World :=
  let s := w.node v
  let stored := (meshRreqHandler s rreq).1.discovery (rreq.rreqId, rreq.srcAddr)
  if rreqPassed s rreq then
    { w.request v s rreq neighbor with
      totals := passedOn rreq.pathCost (·.forwardCost) stored (some (rreqSends s rreq neighbor)) ++
        w.totals }
  else w.request v s rreq neighbor

/-- Router `v` hears a reply. -/
def hearReply (w : World) (v : UInt16) (rrep : RouteReply) : World :=
  let s := w.node v
  let key := (rrep.rreqId, rrep.originator)
  let s' := (meshRrepHandler s rrep).1
  match rrepEnts s rrep with
  | some (d, _) =>
    { w with
      node := Function.update w.node v s'
      air := (rrepSends s rrep d).toList ++ w.air
      totals := passedOn rrep.pathCost (·.residualCost) (s'.discovery key) (rrepSends s rrep d) ++
        w.totals
      replaced := replacement (·.residualCost) (s.discovery key) (s'.discovery key) ++ w.replaced
      told := Function.update w.told (v, key, rrep.responder)
        (some (rrep.macSrc, totalCost s rrep.srcAddr rrep.lqi rrep.pathCost)) }
  | none => { w with node := Function.update w.node v s' }

/-- The state in which `zb_nwk_mesh_route_discovery` calls the request handler. -/
def asking (w : World) (v : UInt16) : Nwk :=
  { w.node v with rreqId := (w.node v).rreqId + 1 }

/-- The request it calls it with. -/
def asked (w : World) (v : UInt16) (cbuf : BufRef) (destAddr : UInt16) : RouteRequest :=
  let s := w.asking v
  { buf := cbuf, srcAddr := s.device.networkAddress, macSrc := s.device.networkAddress,
    rreqId := s.rreqId, destAddr, pathCost := 0, lqi := none }

/-- A router of the network hears a frame of another; those of its own network are in the
air. -/
def Hears (member : UInt16 → Bool) (w : World) (v : UInt16) (frame : Frame) : Prop :=
  member v = true ∧ frame.sender ≠ v ∧ frame.Reaches v ∧
    (member frame.sender = true → frame ∈ w.air)

instance (member : UInt16 → Bool) (w : World) (v : UInt16) (frame : Frame) :
    Decidable (w.Hears member v frame) := inferInstanceAs (Decidable (_ ∧ _ ∧ _ ∧ _))

end World

/-- The request a frame is read as. -/
def Frame.handled (w : World) (v : UInt16) (buf : BufRef) (lqi : Option UInt8) (neighbor : Bool) :
    Frame → World
  | rreq sender srcAddr rreqId destAddr pathCost =>
    w.hearRequest v
      { buf, srcAddr, macSrc := sender, rreqId, destAddr, pathCost, lqi } neighbor
  | rrep sender _ srcAddr rreqId originator responder pathCost =>
    w.hearReply v
      { buf, srcAddr, macSrc := sender, rreqId, originator, responder, pathCost, lqi }

/-- One step of the network. -/
def step (member : UInt16 → Bool) (w : World) : Op → World
  | .discover v cbuf destAddr neighbor =>
    if member v then w.request v (w.asking v) (w.asked v cbuf destAddr) neighbor else w
  | .receive v buf frame lqi neighbor =>
    if w.Hears member v frame then frame.handled w v buf lqi neighbor else w
  | .expiry v => { w with node := Function.update w.node v (meshExpiryRouteDisc (w.node v)).1 }

/-! ## What the costs are good for -/

namespace World

variable (member : UInt16 → Bool) (w : World)

/-- `v` has its request from `u`; the path of the request ends at the originator. -/
def Upstream (key : RreqKey) (v u : UInt16) : Prop :=
  member u = true ∧ v ≠ key.2 ∧ ∃ ent, (w.node v).discovery key = some ent ∧ ent.senderAddr = u

/-- `v` sends to `dest` by `u`, as a reply of the discovery has told it; the route ends at the
router that has answered the request. -/
def NextHop (key : RreqKey) (dest : UInt16) (v u : UInt16) : Prop :=
  member u = true ∧ (v, key, dest) ∉ w.answered ∧ (∃ t, w.told (v, key, dest) = some (u, t)) ∧
    ∃ ent, (w.node v).route dest = some ent ∧ ent.Formed ∧ ent.nextHopAddr = u

/-- The cost of the path a request has come by. -/
def requestCost (key : RreqKey) (v : UInt16) : Option ℕ :=
  ((w.node v).discovery key).map (·.forwardCost.toNat)

/-- The cost of the route of a router that has not answered the request. -/
def routeCost (key : RreqKey) (dest : UInt16) (v : UInt16) : Option ℕ :=
  if (v, key, dest) ∈ w.answered then none else (w.told (v, key, dest)).map (·.2.toNat)

/-- Path costs are monotone: a total is above the cost received, a stored cost is only replaced
by a lower one, costs fall along the path of a request back to its originator and along a
route to its destination, neither has a loop, and every route has been formed by a reply. -/
structure Monotone : Prop where
  totals : ∀ p ∈ w.totals, p.1.toNat + 1 ≤ p.2.toNat
  replaced : ∀ p ∈ w.replaced, p.2 < p.1
  upstream : ∀ key v u, Relation.TransGen (w.Upstream member key) v u →
    ∃ x, w.requestCost key v = some x ∧ ∀ y, w.requestCost key u = some y → y < x
  upstream_acyclic : ∀ key v, ¬ Relation.TransGen (w.Upstream member key) v v
  route : ∀ key dest v u, Relation.TransGen (w.NextHop member key dest) v u →
    ∃ x, w.routeCost key dest v = some x ∧ ∀ y, w.routeCost key dest u = some y → y < x
  route_acyclic : ∀ key dest v, ¬ Relation.TransGen (w.NextHop member key dest) v v
  formed : ∀ v dest ent, (w.node v).route dest = some ent → ent.Formed →
    ∃ key t, w.told (v, key, dest) = some (ent.nextHopAddr, t)

end World

/-- The link costs something and the total fits into eight bits. -/
def InRange (s : Nwk) (srcAddr : UInt16) (lqi : Option UInt8) (pathCost : UInt8) : Prop :=
  1 ≤ (nwkCalcPathCost s srcAddr lqi).toNat ∧
    (nwkCalcPathCost s srcAddr lqi).toNat + pathCost.toNat ≤ 255

instance (s : Nwk) (srcAddr : UInt16) (lqi : Option UInt8) (pathCost : UInt8) :
    Decidable (InRange s srcAddr lqi pathCost) := inferInstanceAs (Decidable (_ ∧ _))

/-- A router that has had an entry for the request has it still. -/
def Fresh (w : World) (v : UInt16) (s : Nwk) (rreq : RouteRequest) : Prop :=
  s.discovery (rreq.rreqId, rreq.srcAddr) = none → (rreq.rreqId, rreq.srcAddr) ∉ w.noted v

instance (w : World) (v : UInt16) (s : Nwk) (rreq : RouteRequest) :
    Decidable (Fresh w v s rreq) := inferInstanceAs (Decidable (_ → _))

/-- The step keeps clear of the limits of the costs: of a request that is passed on, the total
is in range and the request is new or known; of a reply that is taken in, the total is in
range and below the cost it replaces. -/
def Clear (member : UInt16 → Bool) (w : World) : Op → Prop
  | .discover v cbuf destAddr _ =>
    member v = true → rreqPassed (w.asking v) (w.asked v cbuf destAddr) →
      Fresh w v (w.asking v) (w.asked v cbuf destAddr)
  | .receive v buf (.rreq sender srcAddr rreqId destAddr pathCost) lqi _ =>
    let rreq : RouteRequest :=
      { buf, srcAddr, macSrc := sender, rreqId, destAddr, pathCost, lqi }
    w.Hears member v (.rreq sender srcAddr rreqId destAddr pathCost) →
      rreqPassed (w.node v) rreq →
        InRange (w.node v) srcAddr lqi pathCost ∧ Fresh w v (w.node v) rreq
  | .receive v buf (.rrep sender dst srcAddr rreqId originator responder pathCost) lqi _ =>
    let rrep : RouteReply :=
      { buf, srcAddr, macSrc := sender, rreqId, originator, responder, pathCost, lqi }
    w.Hears member v (.rrep sender dst srcAddr rreqId originator responder pathCost) →
      ∀ e ∈ rrepEnts (w.node v) rrep,
        InRange (w.node v) srcAddr lqi pathCost ∧
          totalCost (w.node v) srcAddr lqi pathCost <
            ((w.node v).routeDisc.slots e.1).ent.residualCost
  | .expiry _ => True

/-! ## The invariant -/

variable {member : UInt16 → Bool} {w : World}

/-- What holds in every state: the costs in the air are no lower than those stored where they
come from, and those stored are higher than where they have been heard from. -/
structure Sound (member : UInt16 → Bool) (w : World) : Prop where
  addr : ∀ v, (w.node v).device.networkAddress = v
  keyed : ∀ v, (w.node v).Keyed
  totals : ∀ p ∈ w.totals, p.1.toNat + 1 ≤ p.2.toNat
  replaced : ∀ p ∈ w.replaced, p.2 < p.1
  asked : ∀ u srcAddr rreqId destAddr c, Frame.rreq u srcAddr rreqId destAddr c ∈ w.air →
    member u = true → (rreqId, srcAddr) ∈ w.noted u ∧
      ∀ ent, (w.node u).discovery (rreqId, srcAddr) = some ent → ent.forwardCost ≤ c
  noted : ∀ v key ent, (w.node v).discovery key = some ent → key ∈ w.noted v
  upstream : ∀ v key ent, (w.node v).discovery key = some ent → v ≠ key.2 →
    member ent.senderAddr = true → key ∈ w.noted ent.senderAddr ∧
      ∀ ent', (w.node ent.senderAddr).discovery key = some ent' →
        ent'.forwardCost < ent.forwardCost
  residual : ∀ v key dest ent hop t, (w.node v).discovery key = some ent →
    w.told (v, key, dest) = some (hop, t) → ent.residualCost ≤ t
  toldNoted : ∀ v key dest e, w.told (v, key, dest) = some e → key ∈ w.noted v
  replied : ∀ u dst srcAddr rreqId originator responder c,
    Frame.rrep u dst srcAddr rreqId originator responder c ∈ w.air → member u = true →
      (u, (rreqId, originator), responder) ∈ w.answered ∨
        ∃ hop t, w.told (u, (rreqId, originator), responder) = some (hop, t) ∧ t ≤ c
  route : ∀ v key dest u t, w.told (v, key, dest) = some (u, t) → member u = true →
    (u, key, dest) ∈ w.answered ∨ ∃ hop t', w.told (u, key, dest) = some (hop, t') ∧ t' < t
  formed : ∀ v dest ent, (w.node v).route dest = some ent → ent.Formed →
    ∃ key t, w.told (v, key, dest) = some (ent.nextHopAddr, t)

theorem InRange.toNat {s : Nwk} {srcAddr : UInt16} {lqi : Option UInt8} {pathCost : UInt8}
    (inRange : InRange s srcAddr lqi pathCost) :
    pathCost.toNat + 1 ≤ (totalCost s srcAddr lqi pathCost).toNat := by
  obtain ⟨positive, small⟩ := inRange
  rw [totalCost, UInt8.toNat_add]
  omega

theorem InRange.lt {s : Nwk} {srcAddr : UInt16} {lqi : Option UInt8} {pathCost : UInt8}
    (inRange : InRange s srcAddr lqi pathCost) : pathCost < totalCost s srcAddr lqi pathCost :=
  UInt8.lt_iff_toNat_lt.mpr inRange.toNat

namespace Sound

theorem monotone (sound : Sound member w) : w.Monotone member := by
  have upstream : ∀ key v u, w.Upstream member key v u →
      ∃ x, w.requestCost key v = some x ∧ ∀ y, w.requestCost key u = some y → y < x := by
    rintro key v u ⟨inside, away, ent, found, rfl⟩
    refine ⟨ent.forwardCost.toNat, by rw [World.requestCost, found, Option.map_some], ?_⟩
    intro y stored
    obtain ⟨ent', found', rfl⟩ := Option.map_eq_some_iff.mp stored
    exact UInt8.lt_iff_toNat_lt.mp ((sound.upstream v key ent found away inside).2 ent' found')
  have route : ∀ key dest v u, w.NextHop member key dest v u →
      ∃ x, w.routeCost key dest v = some x ∧ ∀ y, w.routeCost key dest u = some y → y < x := by
    rintro key dest v u ⟨inside, unanswered, ⟨t, told⟩, -⟩
    refine ⟨t.toNat, by rw [World.routeCost, if_neg unanswered, told, Option.map_some], ?_⟩
    intro y stored
    rw [World.routeCost] at stored
    split at stored
    · cases stored
    · rename_i unanswered'
      rcases sound.route v key dest u t told inside with answered | ⟨hop, t', told', less⟩
      · exact absurd answered unanswered'
      · rw [told'] at stored
        cases stored
        exact UInt8.lt_iff_toNat_lt.mp less
  exact {
    totals := sound.totals
    replaced := sound.replaced
    upstream := fun key _ _ path => falls_along (upstream key) path
    upstream_acyclic := by
      intro key v
      exact no_cycle (upstream key) v
    route := fun key dest _ _ path => falls_along (route key dest) path
    route_acyclic := by
      intro key dest v
      exact no_cycle (route key dest) v
    formed := sound.formed }

theorem init (member : UInt16 → Bool) (device : UInt16 → Device) :
    Sound member (World.init device) where
  addr _ := rfl
  keyed _ := ⟨distinct_cleared _, distinct_cleared _⟩
  totals := by simp [World.init]
  replaced := by simp [World.init]
  asked := by simp [World.init]
  noted := by
    intro v key ent found
    exact absurd found (by simp [World.init, Nwk.init, Nwk.discovery, lookup, findKey, findEnt,
      cleared])
  upstream := by
    intro v key ent found
    exact absurd found (by simp [World.init, Nwk.init, Nwk.discovery, lookup, findKey, findEnt,
      cleared])
  residual := by simp [World.init]
  toldNoted := by simp [World.init]
  replied := by simp [World.init]
  route := by simp [World.init]
  formed := by
    intro v dest ent found
    exact absurd found (by simp [World.init, Nwk.init, Nwk.route, lookup, findKey, findEnt,
      cleared])

/-- Each discovery entry was there before, with its sender and its cost of the request. -/
def FromBefore (node node' : UInt16 → Nwk) : Prop :=
  ∀ u key ent', (node' u).discovery key = some ent' →
    ∃ ent, (node u).discovery key = some ent ∧ ent.senderAddr = ent'.senderAddr ∧
      ent.forwardCost = ent'.forwardCost

theorem FromBefore.forwardCost_le {node node' : UInt16 → Nwk} (before : FromBefore node node')
    {u : UInt16} {key : RreqKey} {c : UInt8}
    (least : ∀ ent, (node u).discovery key = some ent → ent.forwardCost ≤ c) :
    ∀ ent', (node' u).discovery key = some ent' → ent'.forwardCost ≤ c := by
  intro ent' found'
  obtain ⟨ent, found, -, forward⟩ := before u key ent' found'
  rw [← forward]
  exact least ent found

theorem noted_of_before (sound : Sound member w) {node' : UInt16 → Nwk}
    (before : FromBefore w.node node') {u : UInt16} {key : RreqKey} {ent' : NwkRouteDiscovery}
    (found' : (node' u).discovery key = some ent') : key ∈ w.noted u := by
  obtain ⟨ent, found, -⟩ := before u key ent' found'
  exact sound.noted u key ent found

theorem upstream_of_before (sound : Sound member w) {node' : UInt16 → Nwk}
    (before : FromBefore w.node node') {u : UInt16} {key : RreqKey} {ent' : NwkRouteDiscovery}
    (found' : (node' u).discovery key = some ent') (away : u ≠ key.2)
    (inside : member ent'.senderAddr = true) :
    key ∈ w.noted ent'.senderAddr ∧
      ∀ above, (node' ent'.senderAddr).discovery key = some above →
        above.forwardCost < ent'.forwardCost := by
  obtain ⟨ent, found, sender, forward⟩ := before u key ent' found'
  rw [← sender] at inside ⊢
  obtain ⟨noted, less⟩ := sound.upstream u key ent found away inside
  refine ⟨noted, ?_⟩
  intro above' aboveFound'
  obtain ⟨above, aboveFound, -, aboveForward⟩ := before _ key above' aboveFound'
  rw [← forward, ← aboveForward]
  exact less above aboveFound

theorem addr_update (sound : Sound member w) {v : UInt16} {s' : Nwk}
    (device : s'.device = (w.node v).device) :
    ∀ u, (Function.update w.node v s' u).device.networkAddress = u := by
  rw [Function.forall_update_iff w.node fun u s => s.device.networkAddress = u, device]
  exact ⟨sound.addr v, fun u _ => sound.addr u⟩

theorem keyed_update (sound : Sound member w) {v : UInt16} {s' : Nwk} (keyed : s'.Keyed) :
    ∀ u, (Function.update w.node v s' u).Keyed := by
  rw [Function.forall_update_iff w.node fun _ s => s.Keyed]
  exact ⟨keyed, fun u _ => sound.keyed u⟩

/-- Entries that go take nothing with them. -/
theorem kept (sound : Sound member w) {v : UInt16} {s' : Nwk} (kept : Nwk.Kept (w.node v) s') :
    Sound member { w with node := Function.update w.node v s' } := by
  have was : ∀ u key ent', (Function.update w.node v s' u).discovery key = some ent' →
      ∃ ent, (w.node u).discovery key = some ent ∧ ent.senderAddr = ent'.senderAddr ∧
        ent.forwardCost = ent'.forwardCost ∧ ent.residualCost = ent'.residualCost := by
    intro u key ent' found
    by_cases here : u = v
    · subst here
      rw [Function.update_self] at found
      exact kept.discovery key ent' found
    · rw [Function.update_of_ne here] at found
      exact ⟨ent', found, rfl, rfl, rfl⟩
  have before : FromBefore w.node (Function.update w.node v s') := by
    intro u key ent' found
    obtain ⟨ent, found, sender, forward, -⟩ := was u key ent' found
    exact ⟨ent, found, sender, forward⟩
  refine { sound with
    addr := sound.addr_update kept.device
    keyed := sound.keyed_update kept.keyed
    asked := ?_
    noted := fun _ _ _ found => sound.noted_of_before before found
    upstream := fun _ _ _ found => sound.upstream_of_before before found
    residual := ?_
    formed := ?_ }
  · intro u srcAddr rreqId destAddr c sent inside
    obtain ⟨noted, least⟩ := sound.asked u srcAddr rreqId destAddr c sent inside
    exact ⟨noted, before.forwardCost_le least⟩
  · intro u key dest ent' hop t found' told
    obtain ⟨ent, found, -, -, residual⟩ := was u key ent' found'
    rw [← residual]
    exact sound.residual u key dest ent hop t found told
  · intro u dest ent' found' formed'
    by_cases here : u = v
    · subst here
      dsimp only at found'
      rw [Function.update_self] at found'
      obtain ⟨ent, found, formed, hop⟩ := kept.route dest ent' found' formed'
      rw [← hop]
      exact sound.formed u dest ent found formed
    · dsimp only at found'
      rw [Function.update_of_ne here] at found'
      exact sound.formed u dest ent' found' formed'

/-- The discovery entries where one of them changes. -/
theorem discovery_update {s' : Nwk} {v : UInt16} {key : RreqKey} {ent' : NwkRouteDiscovery}
    (now : s'.discovery = Function.update (w.node v).discovery key (some ent')) (u : UInt16)
    (k : RreqKey) : (Function.update w.node v s' u).discovery k =
      if u = v ∧ k = key then some ent' else (w.node u).discovery k := by
  by_cases here : u = v
  · subst here
    rw [Function.update_self, now, Function.update_apply]
    simp
  · rw [Function.update_of_ne here, if_neg fun both => here both.1]

theorem mem_noted_of_mem {v u : UInt16} {key k : RreqKey} (noted : k ∈ w.noted u) :
    k ∈ Function.update w.noted v (key :: w.noted v) u := by
  by_cases here : u = v
  · subst here
    rw [Function.update_self]
    exact List.mem_cons_of_mem key noted
  · rwa [Function.update_of_ne here]

/-- A request that is passed on.  It comes from the router itself or, if from a router of the
network, for a cost below the total. -/
theorem request (sound : Sound member w) {v : UInt16} {s : Nwk} {rreq : RouteRequest}
    (neighbor : Bool) (device : s.device = (w.node v).device)
    (discovery : s.discovery = (w.node v).discovery) (routes : s.route = (w.node v).route)
    (passed : rreqPassed s rreq)
    (noted : Noted s (meshRreqHandler s rreq).1 rreq
      (totalCost s rreq.srcAddr rreq.lqi rreq.pathCost))
    (fresh : Fresh w v s rreq)
    (origin : rreq.srcAddr = v ∨ rreq.macSrc ≠ v ∧ (member rreq.macSrc = true →
      (rreq.rreqId, rreq.srcAddr) ∈ w.noted rreq.macSrc ∧
        ∀ ent, (w.node rreq.macSrc).discovery (rreq.rreqId, rreq.srcAddr) = some ent →
          ent.forwardCost < totalCost s rreq.srcAddr rreq.lqi rreq.pathCost)) :
    Sound member (w.request v s rreq neighbor) := by
  obtain ⟨keyed', device', noRoute, ent', sender, forward, now, was⟩ := noted
  have own : s.device.networkAddress = v := by
    rw [device]
    exact sound.addr v
  rw [Fresh] at fresh
  rw [World.request, if_pos passed]
  rw [rreqSends]
  generalize totalCost s rreq.srcAddr rreq.lqi rreq.pathCost = total at *
  generalize (meshRreqHandler s rreq).1 = s' at *
  generalize key_ : (rreq.rreqId, rreq.srcAddr) = key at *
  rw [discovery] at now was fresh
  have disc := discovery_update now
  have unheard : ∀ ent, (w.node v).discovery key = some ent → total < ent.forwardCost ∧
      ent'.residualCost = ent.residualCost := by
    intro ent found
    rcases was with ⟨missing, -⟩ | ⟨old, found', better, residual⟩
    · rw [missing] at found
      cases found
    · cases found'.symm.trans found
      exact ⟨better, residual⟩
  refine ⟨sound.addr_update (device'.trans device), sound.keyed_update keyed', sound.totals,
    ?_, ?_, ?_, ?_, ?_, ?_, ?_, ?_, ?_⟩
  · intro p member_
    rcases List.mem_append.mp member_ with new | old
    · obtain ⟨ent, after, found, found', rfl⟩ := mem_replacement new
      rw [discovery] at found
      rw [now, Function.update_self] at found'
      cases found'
      dsimp only
      rw [forward]
      exact (unheard ent found).1
    · exact sound.replaced p old
  · intro u srcAddr rreqId destAddr c sent inside
    dsimp only at sent ⊢
    rcases List.mem_cons.mp sent with new | old
    · split at new
      · cases new
      · rw [meshSendRreq] at new
        cases new
        rw [own, key_]
        refine ⟨by simp, ?_⟩
        intro ent found
        rw [disc, if_pos ⟨rfl, rfl⟩] at found
        cases found
        rw [forward]
        exact UInt8.le_refl total
    · obtain ⟨noted, least⟩ := sound.asked u srcAddr rreqId destAddr c old inside
      refine ⟨mem_noted_of_mem noted, ?_⟩
      intro ent found
      rw [disc] at found
      split at found
      · rename_i here
        cases found
        rw [here.1, here.2] at noted least
        cases known : (w.node v).discovery key with
        | none => exact absurd noted (fresh known)
        | some old =>
          rw [forward]
          exact UInt8.le_trans (UInt8.le_of_lt (unheard old known).1) (least old known)
      · exact least ent found
  · intro u k ent found
    dsimp only at found ⊢
    rw [disc] at found
    split at found
    · rename_i here
      rw [here.1, here.2, Function.update_self]
      exact List.mem_cons_self
    · exact mem_noted_of_mem (sound.noted u k ent found)
  · intro u k ent found away inside
    dsimp only at found ⊢
    rw [disc] at found
    have above : k ∈ w.noted ent.senderAddr ∧
        ∀ above, (w.node ent.senderAddr).discovery k = some above →
          above.forwardCost < ent.forwardCost := by
      split at found
      · rename_i here
        cases found
        rw [here.2, sender, forward]
        rw [sender] at inside
        rcases origin with itself | ⟨-, heard⟩
        · rw [here.1, here.2, ← key_] at away
          exact absurd itself.symm away
        · exact heard inside
      · exact sound.upstream u k ent found away inside
    refine ⟨mem_noted_of_mem above.1, ?_⟩
    intro upper found'
    rw [disc] at found'
    split at found'
    · rename_i there
      cases found'
      rw [forward]
      rw [there.1, there.2] at above
      cases known : (w.node v).discovery key with
      | none => exact absurd above.1 (fresh known)
      | some old => exact UInt8.lt_trans (unheard old known).1 (above.2 old known)
    · exact above.2 upper found'
  · intro u k dest ent hop t found told
    dsimp only at found
    rw [disc] at found
    split at found
    · rename_i here
      cases found
      rw [here.1, here.2] at told
      cases known : (w.node v).discovery key with
      | none => exact absurd (sound.toldNoted v key dest _ told) (fresh known)
      | some old =>
        rw [(unheard old known).2]
        exact sound.residual v key dest old hop t known told
    · exact sound.residual u k dest ent hop t found told
  · intro u k dest e told
    exact mem_noted_of_mem (sound.toldNoted u k dest e told)
  · intro u dst srcAddr rreqId originator responder c sent inside
    dsimp only at sent ⊢
    rcases List.mem_cons.mp sent with new | old
    · split at new
      · rename_i ours
        rw [meshSendRrep] at new
        cases new
        rw [own, key_, if_pos ours]
        exact Or.inl List.mem_cons_self
      · cases new
    · rcases sound.replied u dst srcAddr rreqId originator responder c old inside with
        answered | told
      · left
        split
        · exact List.mem_cons_of_mem _ answered
        · exact answered
      · exact Or.inr told
  · intro u k dest hop t told inside
    rcases sound.route u k dest hop t told inside with answered | below
    · left
      dsimp only
      split
      · exact List.mem_cons_of_mem _ answered
      · exact answered
    · exact Or.inr below
  · intro u dest ent found formed
    dsimp only at found
    by_cases here : u = v
    · subst here
      rw [Function.update_self] at found
      obtain ⟨ent, found, formed, hop⟩ := noRoute dest ent found formed
      rw [routes] at found
      rw [← hop]
      exact sound.formed u dest ent found formed
    · rw [Function.update_of_ne here] at found
      exact sound.formed u dest ent found formed

theorem reply (sound : Sound member w) {v : UInt16} {rrep : RouteReply} {d r : ℕ}
    (ents : rrepEnts (w.node v) rrep = some (d, r))
    (taken : Taken (w.node v) (meshRrepHandler (w.node v) rrep).1 rrep d
      (totalCost (w.node v) rrep.srcAddr rrep.lqi rrep.pathCost))
    (inRange : InRange (w.node v) rrep.srcAddr rrep.lqi rrep.pathCost)
    (lower : totalCost (w.node v) rrep.srcAddr rrep.lqi rrep.pathCost <
      ((w.node v).routeDisc.slots d).ent.residualCost)
    (away : rrep.macSrc ≠ v)
    (origin : member rrep.macSrc = true →
      (rrep.macSrc, (rrep.rreqId, rrep.originator), rrep.responder) ∈ w.answered ∨
        ∃ hop t, w.told (rrep.macSrc, (rrep.rreqId, rrep.originator), rrep.responder) =
          some (hop, t) ∧ t < totalCost (w.node v) rrep.srcAddr rrep.lqi rrep.pathCost) :
    Sound member (w.hearReply v rrep) := by
  obtain ⟨keyed', device', known, -, ⟨ent', sender, forward, residual, now⟩, ⟨entR, hopR, nowR⟩⟩ :=
    taken
  have raised := inRange.toNat
  have own := sound.addr v
  rw [World.hearReply, ents]
  dsimp only
  rw [rrepSends]
  generalize totalCost (w.node v) rrep.srcAddr rrep.lqi rrep.pathCost = total at *
  generalize (meshRrepHandler (w.node v) rrep).1 = s' at *
  generalize ((w.node v).routeDisc.slots d).ent = ent at *
  generalize key_ : (rrep.rreqId, rrep.originator) = key at *
  have disc := discovery_update now
  have lowered : ∀ hop t, w.told (v, key, rrep.responder) = some (hop, t) → total < t := by
    intro hop t told
    exact UInt8.lt_of_lt_of_le lower (sound.residual v key rrep.responder ent hop t known told)
  have before : FromBefore w.node (Function.update w.node v s') := by
    intro u k e found
    rw [disc] at found
    split at found
    · rename_i here
      cases found
      rw [here.1, here.2]
      exact ⟨ent, known, sender.symm, forward.symm⟩
    · exact ⟨e, found, rfl, rfl⟩
  -- what a router is told only gets lower
  have falls : ∀ leg hop t, w.told leg = some (hop, t) →
      ∃ hop' t', Function.update w.told (v, key, rrep.responder) (some (rrep.macSrc, total)) leg =
        some (hop', t') ∧ t' ≤ t := by
    intro leg hop t told
    by_cases here : leg = (v, key, rrep.responder)
    · subst here
      rw [Function.update_self]
      exact ⟨_, _, rfl, UInt8.le_of_lt (lowered hop t told)⟩
    · rw [Function.update_of_ne here]
      exact ⟨hop, t, told, UInt8.le_refl t⟩
  refine ⟨sound.addr_update device', sound.keyed_update keyed', ?_, ?_, ?_,
    fun _ _ _ found => sound.noted_of_before before found,
    fun _ _ _ found => sound.upstream_of_before before found, ?_, ?_, ?_, ?_, ?_⟩
  · intro p member_
    rcases List.mem_append.mp member_ with new | old
    · rcases mem_passedOn new with ⟨e, found, rfl⟩ | ⟨frame, sent, rfl⟩
      · rw [now, Function.update_self] at found
        cases found
        dsimp only
        rw [residual]
        exact raised
      · split at sent
        · cases sent
        · cases sent
          exact raised
    · exact sound.totals p old
  · intro p member_
    rcases List.mem_append.mp member_ with new | old
    · obtain ⟨old, e, found, found', rfl⟩ := mem_replacement new
      rw [known] at found
      rw [now, Function.update_self] at found'
      cases found
      cases found'
      dsimp only
      rw [residual]
      exact lower
    · exact sound.replaced p old
  · intro u srcAddr rreqId destAddr c sent inside
    dsimp only at sent ⊢
    rcases List.mem_append.mp sent with new | old
    · split at new
      · cases new
      · rw [Option.mem_toList, meshSendRrep] at new
        cases new
    · obtain ⟨noted, least⟩ := sound.asked u srcAddr rreqId destAddr c old inside
      exact ⟨noted, before.forwardCost_le least⟩
  · intro u k dest e hop t found told
    dsimp only at found told
    rw [disc] at found
    split at found
    · rename_i here
      cases found
      rw [residual]
      rw [here.1, here.2] at told
      by_cases same : dest = rrep.responder
      · rw [same, Function.update_self] at told
        cases told
        exact UInt8.le_refl _
      · rw [Function.update_of_ne (by simp [same])] at told
        exact UInt8.le_of_lt (UInt8.lt_of_lt_of_le lower
          (sound.residual v key dest ent hop t known told))
    · rename_i other
      rw [Function.update_of_ne (by rintro ⟨⟩; exact other ⟨rfl, rfl⟩)] at told
      exact sound.residual u k dest e hop t found told
  · intro u k dest e told
    dsimp only at told
    by_cases here : (u, k, dest) = (v, key, rrep.responder)
    · cases here
      exact sound.noted v key ent known
    · rw [Function.update_of_ne here] at told
      exact sound.toldNoted u k dest e told
  · intro u dst srcAddr rreqId originator responder c sent inside
    dsimp only at sent ⊢
    rcases List.mem_append.mp sent with new | old
    · split at new
      · cases new
      · rw [Option.mem_toList, meshSendRrep] at new
        cases new
        rw [own, key_, Function.update_self]
        exact Or.inr ⟨_, _, rfl, UInt8.le_refl _⟩
    · rcases sound.replied u dst srcAddr rreqId originator responder c old inside with
        answered | ⟨hop, t, told, least⟩
      · exact Or.inl answered
      · obtain ⟨hop', t', told', less⟩ := falls _ hop t told
        exact Or.inr ⟨hop', t', told', UInt8.le_trans less least⟩
  · intro u k dest hop t told inside
    dsimp only at told ⊢
    have below : (hop, k, dest) ∈ w.answered ∨
        ∃ next t', w.told (hop, k, dest) = some (next, t') ∧ t' < t := by
      by_cases here : (u, k, dest) = (v, key, rrep.responder)
      · cases here
        rw [Function.update_self] at told
        cases told
        exact origin inside
      · rw [Function.update_of_ne here] at told
        exact sound.route u k dest hop t told inside
    rcases below with answered | ⟨next, t', told', less⟩
    · exact Or.inl answered
    · obtain ⟨next', t'', told'', least⟩ := falls _ next t' told'
      exact Or.inr ⟨next', t'', told'', UInt8.lt_of_le_of_lt least less⟩
  · intro u dest e found formed
    dsimp only at found ⊢
    by_cases here : u = v
    · subst here
      rw [Function.update_self, nowR] at found
      by_cases same : dest = rrep.responder
      · subst same
        rw [Function.update_self] at found
        cases found
        rw [hopR]
        exact ⟨key, total, Function.update_self ..⟩
      · rw [Function.update_of_ne same] at found
        obtain ⟨k, t, told⟩ := sound.formed u dest e found formed
        refine ⟨k, t, ?_⟩
        rw [Function.update_of_ne (by simp [same]), told]
    · rw [Function.update_of_ne here] at found
      obtain ⟨k, t, told⟩ := sound.formed u dest e found formed
      refine ⟨k, t, ?_⟩
      rw [Function.update_of_ne (by simp [here]), told]

/-- A router asks for a route. -/
theorem discover (sound : Sound member w) {v : UInt16} {cbuf : BufRef} {destAddr : UInt16}
    (neighbor : Bool)
    (fresh : rreqPassed (w.asking v) (w.asked v cbuf destAddr) →
      Fresh w v (w.asking v) (w.asked v cbuf destAddr)) :
    Sound member (w.request v (w.asking v) (w.asked v cbuf destAddr) neighbor) := by
  have keyed : (w.asking v).Keyed := ⟨(sound.keyed v).routeDisc, (sound.keyed v).routing⟩
  rcases meshRreqHandler_cases keyed (w.asked v cbuf destAddr) with ⟨dropped, kept⟩ |
    ⟨passed, noted⟩
  · rw [World.request, if_neg dropped]
    exact sound.kept ⟨kept.keyed, kept.device, kept.discovery, kept.route⟩
  · exact sound.request neighbor rfl rfl rfl passed noted (fresh passed) (Or.inl (sound.addr v))

theorem hearRequest (sound : Sound member w) {v : UInt16} {rreq : RouteRequest} (neighbor : Bool)
    (clear : rreqPassed (w.node v) rreq →
      InRange (w.node v) rreq.srcAddr rreq.lqi rreq.pathCost ∧ Fresh w v (w.node v) rreq)
    (away : rreq.macSrc ≠ v)
    (inAir : member rreq.macSrc = true →
      Frame.rreq rreq.macSrc rreq.srcAddr rreq.rreqId rreq.destAddr rreq.pathCost ∈ w.air) :
    Sound member (w.hearRequest v rreq neighbor) := by
  rcases meshRreqHandler_cases (sound.keyed v) rreq with ⟨dropped, kept⟩ | ⟨passed, noted⟩
  · rw [World.hearRequest, if_neg dropped, World.request, if_neg dropped]
    exact sound.kept kept
  · obtain ⟨inRange, fresh⟩ := clear passed
    have requested := sound.request neighbor rfl rfl rfl passed noted fresh (Or.inr ⟨away, by
      intro inside
      obtain ⟨known, least⟩ := sound.asked _ _ _ _ _ (inAir inside) inside
      exact ⟨known, fun ent found => UInt8.lt_of_le_of_lt (least ent found) inRange.lt⟩⟩)
    rw [World.hearRequest, if_pos passed]
    refine { requested with totals := ?_ }
    intro p member_
    rcases List.mem_append.mp member_ with new | old
    · obtain ⟨-, -, -, ent', -, forward, now, -⟩ := noted
      rcases mem_passedOn new with ⟨e, found, rfl⟩ | ⟨frame, sent, rfl⟩
      · rw [now, Function.update_self] at found
        cases found
        dsimp only
        rw [forward]
        exact inRange.toNat
      · cases sent
        rw [rreqSends]
        dsimp only
        split
        · exact inRange.toNat
        · exact inRange.toNat
    · exact sound.totals p old

theorem hearReply (sound : Sound member w) {v : UInt16} {rrep : RouteReply} {dst : UInt16}
    (clear : ∀ e ∈ rrepEnts (w.node v) rrep,
      InRange (w.node v) rrep.srcAddr rrep.lqi rrep.pathCost ∧
        totalCost (w.node v) rrep.srcAddr rrep.lqi rrep.pathCost <
          ((w.node v).routeDisc.slots e.1).ent.residualCost)
    (away : rrep.macSrc ≠ v)
    (inAir : member rrep.macSrc = true →
      Frame.rrep rrep.macSrc dst rrep.srcAddr rrep.rreqId rrep.originator rrep.responder
        rrep.pathCost ∈ w.air) :
    Sound member (w.hearReply v rrep) := by
  rcases meshRrepHandler_cases (sound.keyed v) rrep with ⟨dropped, kept⟩ | ⟨d, r, ents, taken⟩
  · rw [World.hearReply, dropped]
    exact sound.kept kept
  · obtain ⟨inRange, lower⟩ := clear (d, r) ents
    refine sound.reply ents taken inRange lower away ?_
    intro inside
    rcases sound.replied _ _ _ _ _ _ _ (inAir inside) inside with answered | ⟨hop, t, told, least⟩
    · exact Or.inl answered
    · exact Or.inr ⟨hop, t, told, UInt8.lt_of_le_of_lt least inRange.lt⟩

theorem step (sound : Sound member w) {op : Op} (clear : Clear member w op) :
    Sound member (step member w op) := by
  cases op with
  | discover v cbuf destAddr neighbor =>
    rw [PathCost.step]
    split
    · rename_i inside
      exact sound.discover neighbor (clear inside)
    · exact sound
  | receive v buf frame lqi neighbor =>
    rw [PathCost.step]
    split
    · rename_i hears
      cases frame with
      | rreq sender srcAddr rreqId destAddr pathCost =>
        exact sound.hearRequest neighbor (clear hears) hears.2.1 hears.2.2.2
      | rrep sender dst srcAddr rreqId originator responder pathCost =>
        exact sound.hearReply (clear hears) hears.2.1 hears.2.2.2
    · exact sound
  | expiry v => exact sound.kept (meshExpiryRouteDisc_kept (sound.keyed v))

end Sound

/-- **In every run whose steps keep clear of the limits of the costs, path costs are
monotone**, and no route has a loop. -/
theorem pathCost_monotone (member : UInt16 → Bool) (device : UInt16 → Device) (ops : List Op)
    (clear : Along (step member) (Clear member) (World.init device) ops) :
    (run (step member) (World.init device) ops).Monotone member := by
  apply Sound.monotone
  exact invariant_of_along (fun _ _ sound clear => sound.step clear) _ ops
    (Sound.init member device) clear

instance (member : UInt16 → Bool) (w : World) : (op : Op) → Decidable (Clear member w op)
  | .discover v cbuf destAddr _ =>
    inferInstanceAs (Decidable (member v = true →
      rreqPassed (w.asking v) (w.asked v cbuf destAddr) →
        Fresh w v (w.asking v) (w.asked v cbuf destAddr)))
  | .receive v buf (.rreq sender srcAddr rreqId destAddr pathCost) lqi _ =>
    inferInstanceAs (Decidable (w.Hears member v (.rreq sender srcAddr rreqId destAddr pathCost) →
      rreqPassed (w.node v)
          { buf, srcAddr, macSrc := sender, rreqId, destAddr, pathCost, lqi } →
        InRange (w.node v) srcAddr lqi pathCost ∧ Fresh w v (w.node v)
          { buf, srcAddr, macSrc := sender, rreqId, destAddr, pathCost, lqi }))
  | .receive v buf (.rrep sender dst srcAddr rreqId originator responder pathCost) lqi _ =>
    have : Decidable (∀ e ∈ rrepEnts (w.node v)
        { buf, srcAddr, macSrc := sender, rreqId, originator, responder, pathCost, lqi },
          InRange (w.node v) srcAddr lqi pathCost ∧
            totalCost (w.node v) srcAddr lqi pathCost <
              ((w.node v).routeDisc.slots e.1).ent.residualCost) :=
      Option.decidableForallMem _
    inferInstanceAs (Decidable
      (w.Hears member v (.rrep sender dst srcAddr rreqId originator responder pathCost) → _))
  | .expiry _ => isTrue trivial

/-- Routers 1 to 3 in a row. -/
def row : UInt16 → Bool := fun v => v == 1 || v == 2 || v == 3

def routers : UInt16 → Device := fun v => { router with networkAddress := v }

/-- Router 1 finds its way to 9 by router 2 and router 3, which has it as a neighbour. -/
def discovery : List Op :=
  [.discover 1 1 9 false,
    .receive 2 1 (.rreq 1 1 1 9 0) (some 200) false,
    .receive 3 1 (.rreq 2 1 1 9 1) none true,
    .receive 2 2 (.rrep 3 2 3 1 1 9 8) (some 90) false,
    .receive 1 2 (.rrep 2 1 2 1 1 9 13) (some 200) false,
    .expiry 2]

theorem pathCost_monotone_discovery :
    (run (step row) (World.init routers) discovery).Monotone row :=
  pathCost_monotone row routers discovery (by decide +kernel)

/-- A request with cost 250 from outside is stored and sent on with cost 1. -/
theorem cost_wraps :
    ¬ (run (step row) (World.init routers)
        [.receive 2 1 (.rreq 7 7 1 9 250) none false]).Monotone row := by
  intro monotone
  exact absurd (monotone.totals (250, 1) (by decide +kernel)) (by decide)

end Zboss.PathCost
