import Zboss.Common.AddressTable
import Zboss.Lib.Run
import Zboss.Nwk.TreeAddress

/-!
Joining and leaving a network with distributed address assignment.  A parent
accepts a child (`zb_nwk_accept_child`) from its own two counters and its own
neighbour table; the counter of end devices also goes down again when the end
device accepted last is asked to leave (`zb_nlme_leave_request`).

Two ghosts name addresses by the tree they belong to: the path of a device is the
list of slots its address was computed from, and the ledger says which device an
address was last given to.  The condition `InShare` of the main result is where the
counters stop being indexes of free slots.
-/

namespace Zboss.TreeAssign

open Zboss.AddressTable (IeeeAddr)
open Zboss.IntervalTree Zboss.Run Zboss.TreeAddress

/-- The relationships of a neighbour the leave request distinguishes. -/
inductive Relationship
  | child
  | unauthenticatedChild
  | other
  deriving DecidableEq

/-- A neighbour table entry, with the short address its reference stands for. -/
structure NeighborEnt where
  addr : ℕ
  isRouter : Bool
  rxOnWhenIdle : Bool
  relationship : Relationship
  deriving DecidableEq

/-- The fields of `zb_mac_capability_info_t` the parent looks at. -/
structure MacCapabilityInfo where
  isRouter : Bool
  rxOnWhenIdle : Bool
  allocateAddress : Bool
  deriving DecidableEq

/-- The part of a device's NIB and tables that joining and leaving work on; the
counters and the depth are octets. -/
structure Device where
  joined : Bool
  isRouter : Bool
  networkAddress : ℕ
  depth : ℕ
  cskip : ℕ
  routerChildNum : ℕ
  edChildNum : ℕ
  neighbor : IeeeAddr → Option NeighborEnt

variable (nib : TreeParams)

/-- `ZB_NWK_ROUTER_ADDRESS_ASSIGN`. -/
def routerAddressAssign (dev : Device) : ℕ :=
  dev.networkAddress + dev.routerChildNum * dev.cskip + 1

/-- `ZB_NWK_ED_ADDRESS_ASSIGN`. -/
def edAddressAssign (dev : Device) : ℕ :=
  dev.networkAddress + nib.maxRouters * dev.cskip + dev.edChildNum + 1

/-- The neighbour an accepting parent recognises: same device type and same
receiver.  An entry that differs is deleted. -/
def knownNeighbor (dev : Device) (deviceAddress : IeeeAddr) (capability : MacCapabilityInfo) :
    Option NeighborEnt :=
  (dev.neighbor deviceAddress).filter fun ent =>
    ent.isRouter == capability.isRouter && capability.rxOnWhenIdle == ent.rxOnWhenIdle

/-- The final update of the child's neighbour entry. -/
def recordChild (securityLevel : Bool) (dev : Device) (deviceAddress : IeeeAddr)
    (capability : MacCapabilityInfo) (addr : ℕ) : Device :=
  { dev with neighbor := Function.update dev.neighbor deviceAddress (some
      { addr := addr
        isRouter := capability.isRouter
        rxOnWhenIdle := capability.rxOnWhenIdle
        relationship := if securityLevel then .unauthenticatedChild else .child }) }

/-- There is room for one more child. -/
def HasRoom (dev : Device) : Prop :=
  nib.maxChildren > dev.edChildNum + dev.routerChildNum ∧ dev.depth < nib.maxDepth

instance (dev : Device) : Decidable (HasRoom nib dev) := inferInstanceAs (Decidable (_ ∧ _))

/-- `zb_nwk_accept_child`: the parent afterwards and the address given.  The flag
`tableOk` says whether the address and neighbour tables had room for the child;
the counters have moved by then. -/
def acceptChild (securityLevel : Bool) (dev : Device) (deviceAddress : IeeeAddr)
    (capability : MacCapabilityInfo) (tableOk : Bool) : Device × Option ℕ :=
  let store (dev : Device) (addr : ℕ) : Device × Option ℕ :=
    if tableOk then (recordChild securityLevel dev deviceAddress capability addr, some addr)
    else (dev, none)
  match knownNeighbor dev deviceAddress capability with
  | some ent => (recordChild securityLevel dev deviceAddress capability ent.addr, some ent.addr)
  | none =>
    let dev := { dev with neighbor := Function.update dev.neighbor deviceAddress none }
    if HasRoom nib dev then
      if capability.isRouter then
        if dev.routerChildNum < nib.maxRouters then
          let addr := if capability.allocateAddress
            then routerAddressAssign dev % 2 ^ 16 else 0xfffe
          store { dev with routerChildNum := (dev.routerChildNum + 1) % 2 ^ 8 } addr
        else (dev, none)
      else
        let addr := if capability.allocateAddress
          then edAddressAssign nib dev % 2 ^ 16 else 0xfffe
        store { dev with edChildNum := (dev.edChildNum + 1) % 2 ^ 8 } addr
    else (dev, none)

/-- What the child stores when its parent's answer arrives
(`zb_mlme_associate_confirm`, `zb_nlme_rejoin_response`).  The parent's depth comes
from a field of four bits; the rejoin tests the child's own old depth. -/
def joinConfirm (dev : Device) (capability : MacCapabilityInfo) (address parentDepth : ℕ)
    (rejoin : Bool) : Device :=
  let parentDepth := parentDepth % 2 ^ 4
  let depth := if rejoin then parentDepth + (if dev.depth ≠ 0xf then 1 else 0)
    else if parentDepth ≠ 0xf then parentDepth + 1 else parentDepth
  { dev with
    joined := true
    isRouter := capability.isRouter
    networkAddress := address
    depth := depth
    cskip := daaCalcCskip nib depth }

/-- The counter part of `zb_nlme_leave_request`, on the child address it compares. -/
def takeBackEd (dev : Device) (childAddr : ℕ) : Device :=
  if childAddr = edAddressAssign nib dev - 1
  then { dev with edChildNum := (dev.edChildNum + 2 ^ 8 - 1) % 2 ^ 8 } else dev

/-- `zb_nlme_leave_request` for a neighbour: only an authenticated child is asked. -/
def leaveRequest (dev : Device) (deviceAddress : IeeeAddr) : Device :=
  match dev.neighbor deviceAddress with
  | some ent => if ent.relationship = .child then takeBackEd nib dev ent.addr else dev
  | none => dev

/-- A network: its devices and the two ghosts. -/
structure Network where
  device : IeeeAddr → Device
  path : IeeeAddr → List ℕ
  ledger : List ℕ → Option IeeeAddr

/-- The address a device computes for a slot. -/
def childAddress (dev : Device) (slot : ℕ) : ℕ :=
  if slot < nib.maxRouters then dev.networkAddress + slot * dev.cskip + 1
  else dev.networkAddress + nib.maxRouters * dev.cskip + (slot - nib.maxRouters) + 1

/-- The address is that of a slot of the parent, right for the child's role, and was
last given to this child. -/
def RecordedSlot (net : Network) (parent child : IeeeAddr) (capability : MacCapabilityInfo)
    (addr slot : ℕ) : Prop :=
  (capability.isRouter = true → slot < nib.maxRouters) ∧
    addr = childAddress nib (net.device parent) slot ∧
    net.ledger (net.path parent ++ [slot]) = some child

instance (net : Network) (parent child : IeeeAddr) (capability : MacCapabilityInfo)
    (addr : ℕ) : DecidablePred (RecordedSlot nib net parent child capability addr) :=
  fun _ => inferInstanceAs (Decidable (_ ∧ _))

/-- The slot of the address a parent gives (ghost). -/
def assignedSlot (net : Network) (parent child : IeeeAddr) (capability : MacCapabilityInfo) : ℕ :=
  match knownNeighbor (net.device parent) child capability with
  | some ent => ((List.range nib.maxChildren).find? fun slot =>
      RecordedSlot nib net parent child capability ent.addr slot).getD 0
  | none =>
    if capability.isRouter then (net.device parent).routerChildNum
    else nib.maxRouters + (net.device parent).edChildNum

/-- A parent gives the address of a slot (ghost). -/
def give (net : Network) (place : List ℕ) (child : IeeeAddr) : Network :=
  { net with ledger := Function.update net.ledger place (some child) }

/-- A child takes the address it was given. -/
def take (net : Network) (place : List ℕ) (child : IeeeAddr) (dev : Device) : Network :=
  { net with
    device := Function.update net.device child dev
    path := Function.update net.path child place }

/-- Replace one device. -/
def setDevice (net : Network) (d : IeeeAddr) (dev : Device) : Network :=
  { net with device := Function.update net.device d dev }

theorem setDevice_self (net : Network) (d : IeeeAddr) (dev : Device) :
    (setDevice net d dev).device d = dev := Function.update_self _ _ _

theorem setDevice_of_ne (net : Network) {d e : IeeeAddr} (differs : e ≠ d) (dev : Device) :
    (setDevice net d dev).device e = net.device e := Function.update_of_ne differs _ _

/-- A step of the network.  An answer may be lost.  What else happens to a parent's
neighbour table is an arbitrary `learn`; the request of a device to leave on its own
compares an address read through a null pointer. -/
inductive Op
  | join (parent child : IeeeAddr) (capability : MacCapabilityInfo)
      (rejoin tableOk answered : Bool)
  | leaveRequest (parent child : IeeeAddr)
  | ownLeaveRequest (d : IeeeAddr) (junk : ℕ)
  | leave (d : IeeeAddr)
  | learn (d ieee : IeeeAddr) (ent : Option NeighborEnt)

/-- The network after a step. -/
def step (securityLevel : Bool) (net : Network) : Op → Network
  | .join parent child capability rejoin tableOk answered =>
    let place := net.path parent ++ [assignedSlot nib net parent child capability]
    let accepted := acceptChild nib securityLevel (net.device parent) child capability tableOk
    let after := setDevice net parent accepted.1
    match accepted.2 with
    | none => after
    | some address =>
      let after := give after place child
      if answered then take after place child
        (joinConfirm nib (after.device child) capability address (net.device parent).depth rejoin)
      else after
  | .leaveRequest parent child =>
    setDevice net parent (leaveRequest nib (net.device parent) child)
  | .ownLeaveRequest d junk => setDevice net d (takeBackEd nib (net.device d) junk)
  | .leave d => setDevice net d { net.device d with joined := false }
  | .learn d ieee ent =>
    setDevice net d { net.device d with
      neighbor := Function.update (net.device d).neighbor ieee ent }

/-- A device that was never in a network. -/
def Device.fresh : Device where
  joined := false
  isRouter := false
  networkAddress := 0xffff
  depth := 0
  cskip := 0xffff
  routerChildNum := 0
  edChildNum := 0
  neighbor _ := none

/-- The network the coordinator has just formed. -/
def formed (coordinator : IeeeAddr) : Network where
  device d := if d = coordinator then
    { Device.fresh with
      joined := true, isRouter := true, networkAddress := 0, cskip := daaCalcCskip nib 0 }
    else .fresh
  path _ := []
  ledger place := if place = [] then some coordinator else none

/-- The rules of the network: a device joins a router or the coordinator, asks for
an address, and the coordinator stays. -/
def Permitted (coordinator : IeeeAddr) (net : Network) : Op → Prop
  | .join parent child capability _ _ _ =>
    (net.device parent).joined = true ∧ (net.device parent).isRouter = true ∧
      parent ≠ child ∧ child ≠ coordinator ∧ capability.allocateAddress = true
  | .leave d => d ≠ coordinator
  | _ => True

/-- The depth a joining router stores is one more than its parent's. -/
def DepthExact (net : Network) (parent child : IeeeAddr) (rejoin : Bool) : Prop :=
  if rejoin then (net.device parent).depth < 2 ^ 4 ∧ (net.device child).depth ≠ 0xf
  else (net.device parent).depth < 0xf

/-- The end devices stay in their share, and the end device last given the next
address of the share has left it. -/
def EdShare (net : Network) (parent child : IeeeAddr) : Prop :=
  nib.maxRouters + (net.device parent).edChildNum < nib.maxChildren ∧
    ∀ holder ∈ net.ledger (net.path parent ++ [nib.maxRouters + (net.device parent).edChildNum]),
      holder ≠ child → ¬ ((net.device holder).joined = true ∧
        (net.device holder).networkAddress = edAddressAssign nib (net.device parent))

/-- The address given is one of the parent's slots: the one a known neighbour was
given before, or the next of its share. -/
def SlotInShare (net : Network) (parent child : IeeeAddr) (capability : MacCapabilityInfo)
    (tableOk : Bool) : Option NeighborEnt → Prop
  | some ent => ∃ slot < nib.maxChildren, RecordedSlot nib net parent child capability ent.addr slot
  | none => tableOk = true → HasRoom nib (net.device parent) → capability.isRouter = false →
      EdShare nib net parent child

/-- The address a join gives is a free one of the parent's block. -/
def InShare (net : Network) : Op → Prop
  | .join parent child capability rejoin tableOk answered =>
    SlotInShare nib net parent child capability tableOk
      (knownNeighbor (net.device parent) child capability) ∧
    (capability.isRouter = true → answered = true → DepthExact net parent child rejoin)
  | _ => True

instance (coordinator : IeeeAddr) (net : Network) : DecidablePred (Permitted coordinator net)
  | .join .. => inferInstanceAs (Decidable (_ ∧ _))
  | .leave _ => inferInstanceAs (Decidable (_ ≠ _))
  | .leaveRequest .. | .ownLeaveRequest .. | .learn .. => isTrue trivial

instance (net : Network) (parent child : IeeeAddr) (rejoin : Bool) :
    Decidable (DepthExact net parent child rejoin) := by
  unfold DepthExact
  infer_instance

instance (net : Network) (parent child : IeeeAddr) : Decidable (EdShare nib net parent child) :=
  inferInstanceAs (Decidable (_ ∧ _))

instance (net : Network) (parent child : IeeeAddr) (capability : MacCapabilityInfo)
    (tableOk : Bool) : DecidablePred (SlotInShare nib net parent child capability tableOk)
  | some _ => inferInstanceAs (Decidable (∃ slot < _, _))
  | none => inferInstanceAs (Decidable (_ → _))

instance (net : Network) : DecidablePred (InShare nib net)
  | .join .. => inferInstanceAs (Decidable (_ ∧ _))
  | .leave _ | .leaveRequest .. | .ownLeaveRequest .. | .learn .. => isTrue trivial

/-! ## The invariant -/

/-- Devices hold the addresses of the paths they were last given, and the router
slots of a path are given by its only holder, in the order of its counter. -/
structure Sound (coordinator : IeeeAddr) (net : Network) : Prop where
  root : (net.device coordinator).joined = true ∧ net.path coordinator = []
  valid : ∀ place d, net.ledger place = some d → (cskipTree nib).Valid 0 place
  holds : ∀ d, (net.device d).joined = true → net.ledger (net.path d) = some d ∧
    (net.device d).networkAddress = (cskipTree nib).offset 0 (net.path d)
  router : ∀ d, (net.device d).joined = true → (net.device d).isRouter = true →
    (cskipTree nib).InnerPath 0 (net.path d) ∧ (net.device d).depth = (net.path d).length ∧
      (net.device d).cskip = daaCalcCskip nib (net.path d).length
  counted : ∀ place slot d, net.ledger (place ++ [slot]) = some d → slot < nib.maxRouters →
    ∃ parent, net.ledger place = some parent ∧ slot < (net.device parent).routerChildNum

namespace Sound

variable {nib} {coordinator : IeeeAddr} {net : Network}

/-- Joined devices have different addresses. -/
theorem distinct (sound : Sound nib coordinator net) {d e : IeeeAddr}
    (joined : (net.device d).joined = true) (joined' : (net.device e).joined = true)
    (same : (net.device d).networkAddress = (net.device e).networkAddress) : d = e := by
  obtain ⟨given, address⟩ := sound.holds d joined
  obtain ⟨given', address'⟩ := sound.holds e joined'
  have places : net.path d = net.path e :=
    offset_injective (sound.valid _ _ given) (sound.valid _ _ given')
      (address.symm.trans (same.trans address'))
  exact Option.some_injective _ (given.symm.trans (places ▸ given'))

/-- A change of one device that leaves its address alone and takes no router slot
back. -/
theorem setDevice (sound : Sound nib coordinator net) (d : IeeeAddr) {dev : Device}
    (stays : d = coordinator → dev.joined = true)
    (joined : dev.joined = true → (net.device d).joined = true)
    (isRouter : dev.isRouter = (net.device d).isRouter)
    (address : dev.networkAddress = (net.device d).networkAddress)
    (depth : dev.depth = (net.device d).depth) (cskip : dev.cskip = (net.device d).cskip)
    (routers : (net.device d).routerChildNum ≤ dev.routerChildNum) :
    Sound nib coordinator (setDevice net d dev) := by
  have others : ∀ e, e ≠ d → (TreeAssign.setDevice net d dev).device e = net.device e :=
    fun e differs => setDevice_of_ne net differs dev
  have here : (TreeAssign.setDevice net d dev).device d = dev := setDevice_self net d dev
  refine ⟨⟨?_, sound.root.2⟩, sound.valid, fun e joined' => ?_, fun e joined' router => ?_,
    fun place slot e given inside => ?_⟩
  · by_cases same : coordinator = d
    · rw [same, here]
      exact stays same.symm
    · rw [others _ same]
      exact sound.root.1
  · by_cases same : e = d
    · subst same
      rw [here] at joined' ⊢
      rw [address]
      exact sound.holds e (joined joined')
    · rw [others e same] at joined' ⊢
      exact sound.holds e joined'
  · by_cases same : e = d
    · subst same
      rw [here] at joined' router ⊢
      rw [depth, cskip]
      exact sound.router e (joined joined') (isRouter ▸ router)
    · rw [others e same] at joined' router ⊢
      exact sound.router e joined' router
  · obtain ⟨parent, held, before⟩ := sound.counted place slot e given inside
    refine ⟨parent, held, ?_⟩
    by_cases same : parent = d
    · subst same
      rw [here]
      omega
    · rw [others parent same]
      exact before

/-- Giving a slot nobody else holds: it was this child's before, or an end device's,
or the next one of the counter. -/
theorem give (sound : Sound nib coordinator net) {parent child : IeeeAddr} {slot : ℕ}
    (held : net.ledger (net.path parent) = some parent)
    (valid : (cskipTree nib).Valid 0 (net.path parent ++ [slot]))
    (free : ∀ e, (net.device e).joined = true → net.path e = net.path parent ++ [slot] →
      e = child)
    (counter : slot < nib.maxRouters → slot < (net.device parent).routerChildNum ∧
      ∀ e ∈ net.ledger (net.path parent ++ [slot]), e = child) :
    Sound nib coordinator (give net (net.path parent ++ [slot]) child) := by
  generalize placeDef : net.path parent ++ [slot] = given at *
  have others : ∀ place, place ≠ given →
      (TreeAssign.give net given child).ledger place = net.ledger place :=
    fun place differs => Function.update_of_ne differs _ _
  have here : (TreeAssign.give net given child).ledger given = some child :=
    Function.update_self given _ _
  refine ⟨sound.root, fun place d ledger => ?_, fun d joined => ?_, sound.router,
    fun place s d ledger inside => ?_⟩
  · by_cases same : place = given
    · rw [same]
      exact valid
    · rw [others place same] at ledger
      exact sound.valid place d ledger
  · obtain ⟨ledger, address⟩ := sound.holds d joined
    refine ⟨?_, address⟩
    change (TreeAssign.give net given child).ledger (net.path d) = some d
    by_cases same : net.path d = given
    · rw [same, here, free d joined same]
    · rw [others _ same, ledger]
  · by_cases same : place ++ [s] = given
    · -- the slot given now
      rw [← placeDef] at same
      obtain ⟨rfl, slots⟩ := List.append_inj' same rfl
      obtain rfl : s = slot := by simpa using slots
      refine ⟨parent, ?_, (counter inside).1⟩
      rw [others _ fun equal => by simp [← placeDef] at equal]
      exact held
    · rw [others _ same] at ledger
      obtain ⟨owner, holder, before⟩ := sound.counted place s d ledger inside
      by_cases extended : place = given
      · -- a slot below the one given now: its owner is the child itself
        subst extended
        have inner := (valid_append_singleton.mp (sound.valid _ _ ledger)).1
        rw [← placeDef, innerPath_append_singleton] at inner
        have owned := (counter inner.2.2).2 owner holder
        exact ⟨child, here, owned ▸ before⟩
      · exact ⟨owner, by rw [others _ extended]; exact holder, before⟩

/-- A child that takes the address it was last given. -/
theorem take (sound : Sound nib coordinator net) {child : IeeeAddr} {place : List ℕ}
    {dev : Device} (differs : child ≠ coordinator) (given : net.ledger place = some child)
    (address : dev.networkAddress = (cskipTree nib).offset 0 place)
    (router : dev.isRouter = true → (cskipTree nib).InnerPath 0 place ∧
      dev.depth = place.length ∧ dev.cskip = daaCalcCskip nib place.length)
    (routers : (net.device child).routerChildNum ≤ dev.routerChildNum) :
    Sound nib coordinator (take net place child dev) := by
  have others : ∀ e, e ≠ child → (TreeAssign.take net place child dev).device e = net.device e ∧
      (TreeAssign.take net place child dev).path e = net.path e :=
    fun e other => ⟨Function.update_of_ne other _ _, Function.update_of_ne other _ _⟩
  have here : (TreeAssign.take net place child dev).device child = dev ∧
      (TreeAssign.take net place child dev).path child = place :=
    ⟨Function.update_self child _ _, Function.update_self child _ _⟩
  refine ⟨?_, sound.valid, fun e joined => ?_, fun e joined isRouter => ?_,
    fun p slot e ledger inside => ?_⟩
  · rw [(others _ differs.symm).1, (others _ differs.symm).2]
    exact sound.root
  · by_cases same : e = child
    · subst same
      rw [here.1, here.2]
      exact ⟨given, address⟩
    · rw [(others e same).1] at joined ⊢
      rw [(others e same).2]
      exact sound.holds e joined
  · by_cases same : e = child
    · subst same
      rw [here.1] at isRouter ⊢
      rw [here.2]
      exact router isRouter
    · rw [(others e same).1] at joined isRouter ⊢
      rw [(others e same).2]
      exact sound.router e joined isRouter
  · obtain ⟨owner, holder, before⟩ := sound.counted p slot e ledger inside
    refine ⟨owner, holder, ?_⟩
    by_cases same : owner = child
    · subst same
      rw [here.1]
      omega
    · rw [(others owner same).1]
      exact before

end Sound

/-! ## Accepting a child -/

section

variable {nib : TreeParams} {coordinator : IeeeAddr} {net : Network}

/-- Accepting a child moves counters and the neighbour table only. -/
theorem acceptChild_frame (nib : TreeParams) (securityLevel : Bool) (dev : Device)
    (deviceAddress : IeeeAddr) (capability : MacCapabilityInfo) (tableOk : Bool) :
    let after := (acceptChild nib securityLevel dev deviceAddress capability tableOk).1
    after.joined = dev.joined ∧ after.isRouter = dev.isRouter ∧
      after.networkAddress = dev.networkAddress ∧ after.depth = dev.depth ∧
      after.cskip = dev.cskip ∧ dev.routerChildNum ≤ after.routerChildNum := by
  have routers := nib.maxRouters_lt
  unfold acceptChild
  cases knownNeighbor dev deviceAddress capability with
  | some ent => exact ⟨rfl, rfl, rfl, rfl, rfl, Nat.le_refl _⟩
  | none =>
    dsimp only
    split
    · split
      · split
        · next below =>
          have count : dev.routerChildNum ≤ (dev.routerChildNum + 1) % 2 ^ 8 := by
            have := Nat.lt_trans below routers
            omega
          cases tableOk <;> exact ⟨rfl, rfl, rfl, rfl, rfl, count⟩
        · exact ⟨rfl, rfl, rfl, rfl, rfl, Nat.le_refl _⟩
      · cases tableOk <;> exact ⟨rfl, rfl, rfl, rfl, rfl, Nat.le_refl _⟩
    · exact ⟨rfl, rfl, rfl, rfl, rfl, Nat.le_refl _⟩

/-- Where a given address comes from: the neighbour table, or one of the counters. -/
theorem acceptChild_cases {securityLevel : Bool} {dev : Device} {deviceAddress : IeeeAddr}
    {capability : MacCapabilityInfo} {tableOk : Bool} {addr : ℕ}
    (allocate : capability.allocateAddress = true)
    (accepted : (acceptChild nib securityLevel dev deviceAddress capability tableOk).2 =
      some addr) :
    (∃ ent, knownNeighbor dev deviceAddress capability = some ent ∧ addr = ent.addr) ∨
    (knownNeighbor dev deviceAddress capability = none ∧ tableOk = true ∧ HasRoom nib dev ∧
      ((capability.isRouter = true ∧ dev.routerChildNum < nib.maxRouters ∧
          addr = routerAddressAssign dev % 2 ^ 16 ∧
          (acceptChild nib securityLevel dev deviceAddress capability tableOk).1.routerChildNum =
            dev.routerChildNum + 1) ∨
        (capability.isRouter = false ∧ addr = edAddressAssign nib dev % 2 ^ 16))) := by
  have routers := nib.maxRouters_lt
  unfold acceptChild at accepted ⊢
  cases known : knownNeighbor dev deviceAddress capability with
  | some ent =>
    rw [known] at accepted
    cases accepted
    exact .inl ⟨ent, rfl, rfl⟩
  | none =>
    rw [known] at accepted
    dsimp only at accepted ⊢
    split at accepted
    · next room =>
      have room' : HasRoom nib dev := room
      rw [if_pos room]
      split at accepted
      · next router =>
        rw [if_pos router]
        split at accepted
        · next below =>
          rw [if_pos below]
          cases tableOk with
          | false => cases accepted
          | true =>
            cases accepted
            rw [if_pos allocate]
            have count : (dev.routerChildNum + 1) % 2 ^ 8 = dev.routerChildNum + 1 := by
              have := Nat.lt_trans below routers
              exact Nat.mod_eq_of_lt (by omega)
            exact .inr ⟨rfl, rfl, room', .inl ⟨router, below, rfl, count⟩⟩
        · cases accepted
      · next device =>
        cases tableOk with
        | false => cases accepted
        | true =>
          cases accepted
          rw [if_pos allocate]
          exact .inr ⟨rfl, rfl, room', .inr ⟨by simpa using device, rfl⟩⟩
    · cases accepted

/-- The address of a slot is that of the longer path. -/
theorem childAddress_eq (fits : Fits nib) (sound : Sound nib coordinator net) {parent : IeeeAddr}
    (joined : (net.device parent).joined = true) (router : (net.device parent).isRouter = true)
    (shallow : (net.path parent).length < nib.maxDepth) (slot : ℕ) :
    childAddress nib (net.device parent) slot =
      (cskipTree nib).offset 0 (net.path parent ++ [slot]) := by
  obtain ⟨-, address⟩ := sound.holds parent joined
  obtain ⟨-, -, cskip⟩ := sound.router parent joined router
  rw [offset_append_singleton, ← address, Nat.zero_add, childAddress, cskip,
    daaCalcCskip_eq fits shallow]
  simp only [cskipTree]
  split <;> omega

/-- What is known about the place of an address that a parent gives. -/
structure Placed (nib : TreeParams) (net : Network) (parent child : IeeeAddr)
    (capability : MacCapabilityInfo) (routers address slot : ℕ) : Prop where
  valid : (cskipTree nib).Valid 0 (net.path parent ++ [slot])
  address : address = (cskipTree nib).offset 0 (net.path parent ++ [slot])
  free : ∀ e, (net.device e).joined = true → net.path e = net.path parent ++ [slot] → e = child
  counter : slot < nib.maxRouters → slot < routers ∧
    ∀ e ∈ net.ledger (net.path parent ++ [slot]), e = child
  role : capability.isRouter = true → slot < nib.maxRouters

/-- A known neighbour gets back the slot it was last given. -/
theorem known_placed (fits : Fits nib) (sound : Sound nib coordinator net)
    {parent child : IeeeAddr} {capability : MacCapabilityInfo} {routers addr slot : ℕ}
    (joined : (net.device parent).joined = true) (router : (net.device parent).isRouter = true)
    (recorded : RecordedSlot nib net parent child capability addr slot)
    (more : (net.device parent).routerChildNum ≤ routers) :
    Placed nib net parent child capability routers addr slot := by
  obtain ⟨role, address, given⟩ := recorded
  have valid := sound.valid _ _ given
  have shallow : (net.path parent).length < nib.maxDepth := by
    simpa using (valid_append_singleton.mp valid).2.1
  refine ⟨valid, address.trans (childAddress_eq fits sound joined router shallow slot),
    fun e joined' place => ?_, fun inside => ⟨?_, fun e held => ?_⟩, role⟩
  · have held := (sound.holds e joined').1
    rw [place, given] at held
    exact (Option.some_injective _ held).symm
  · obtain ⟨owner, held, before⟩ := sound.counted _ _ _ given inside
    rw [(sound.holds parent joined).1] at held
    cases held
    omega
  · rw [Option.mem_def, given] at held
    exact (Option.some_injective _ held).symm

/-- The next router slot was never given. -/
theorem router_placed (fits : Fits nib) (sound : Sound nib coordinator net)
    {parent : IeeeAddr} (child : IeeeAddr) {capability : MacCapabilityInfo} {routers : ℕ}
    (joined : (net.device parent).joined = true) (router : (net.device parent).isRouter = true)
    (room : HasRoom nib (net.device parent))
    (below : (net.device parent).routerChildNum < nib.maxRouters)
    (counted : routers = (net.device parent).routerChildNum + 1) :
    Placed nib net parent child capability routers
      (routerAddressAssign (net.device parent) % 2 ^ 16) (net.device parent).routerChildNum := by
  obtain ⟨inner, depth, -⟩ := sound.router parent joined router
  have shallow : (net.path parent).length < nib.maxDepth := depth ▸ room.2
  have unused : net.ledger (net.path parent ++ [(net.device parent).routerChildNum]) = none := by
    cases given : net.ledger (net.path parent ++ [(net.device parent).routerChildNum]) with
    | none => rfl
    | some e =>
      obtain ⟨owner, held, before⟩ := sound.counted _ _ _ given below
      rw [(sound.holds parent joined).1] at held
      cases held
      exact absurd before (Nat.lt_irrefl _)
  have few : (net.device parent).routerChildNum < nib.maxChildren := by
    have := room.1
    omega
  have valid : (cskipTree nib).Valid 0
      (net.path parent ++ [(net.device parent).routerChildNum]) :=
    valid_append_singleton.mpr ⟨inner, by simpa using shallow, few⟩
  have address : routerAddressAssign (net.device parent) =
      childAddress nib (net.device parent) (net.device parent).routerChildNum := by
    rw [childAddress, if_pos below, routerAddressAssign]
  refine ⟨valid, ?_, fun e joined' place => ?_, fun _ => ⟨by omega, fun e held => ?_⟩,
    fun _ => below⟩
  · rw [address, childAddress_eq fits sound joined router shallow,
      Nat.mod_eq_of_lt (offset_lt fits valid)]
  · have held := (sound.holds e joined').1
    rw [place, unused] at held
    cases held
  · rw [unused] at held
    cases held

/-- The next end device slot is free when the device last given it has left. -/
theorem ed_placed (fits : Fits nib) (sound : Sound nib coordinator net)
    {parent child : IeeeAddr} {capability : MacCapabilityInfo} {routers : ℕ}
    (joined : (net.device parent).joined = true) (router : (net.device parent).isRouter = true)
    (room : HasRoom nib (net.device parent)) (device : capability.isRouter = false)
    (share : EdShare nib net parent child) :
    Placed nib net parent child capability routers
      (edAddressAssign nib (net.device parent) % 2 ^ 16)
      (nib.maxRouters + (net.device parent).edChildNum) := by
  obtain ⟨inner, depth, -⟩ := sound.router parent joined router
  have shallow : (net.path parent).length < nib.maxDepth := depth ▸ room.2
  obtain ⟨few, left⟩ := share
  have valid : (cskipTree nib).Valid 0
      (net.path parent ++ [nib.maxRouters + (net.device parent).edChildNum]) :=
    valid_append_singleton.mpr ⟨inner, by simpa using shallow, few⟩
  have address : edAddressAssign nib (net.device parent) =
      (cskipTree nib).offset 0
        (net.path parent ++ [nib.maxRouters + (net.device parent).edChildNum]) := by
    rw [← childAddress_eq fits sound joined router shallow, childAddress, if_neg (by omega),
      edAddressAssign, Nat.add_sub_cancel_left]
  refine ⟨valid, ?_, fun e joined' place => ?_, fun inside => by omega, fun isRouter => ?_⟩
  · rw [address, Nat.mod_eq_of_lt (offset_lt fits valid)]
  · obtain ⟨held, own⟩ := sound.holds e joined'
    rw [place] at held own
    by_contra other
    exact left e held other ⟨joined', own.trans address.symm⟩
  · rw [device] at isRouter
    cases isRouter

/-- Every address a permitted join gives within the shares is well placed. -/
theorem accepted_placed (fits : Fits nib) (sound : Sound nib coordinator net)
    {securityLevel rejoin tableOk answered : Bool} {parent child : IeeeAddr}
    {capability : MacCapabilityInfo} {address : ℕ}
    (permitted : Permitted coordinator net
      (.join parent child capability rejoin tableOk answered))
    (share : InShare nib net (.join parent child capability rejoin tableOk answered))
    (accepted : (acceptChild nib securityLevel (net.device parent) child capability tableOk).2 =
      some address) :
    Placed nib net parent child capability
      (acceptChild nib securityLevel (net.device parent) child capability tableOk).1.routerChildNum
      address (assignedSlot nib net parent child capability) := by
  obtain ⟨joined, router, -, -, allocate⟩ := permitted
  have share := share.1
  have more := (acceptChild_frame nib securityLevel (net.device parent) child capability
    tableOk).2.2.2.2.2
  rcases acceptChild_cases allocate accepted with
    ⟨ent, known, rfl⟩ | ⟨unknown, ok, room, ⟨isRouter, below, rfl, count⟩ | ⟨device, rfl⟩⟩
  · rw [known] at share
    obtain ⟨slot, inside, recorded⟩ := share
    refine known_placed fits sound joined router ?_ more
    rw [assignedSlot, known]
    cases found : (List.range nib.maxChildren).find? fun slot =>
        decide (RecordedSlot nib net parent child capability ent.addr slot) with
    | some slot =>
      simpa [found] using List.find?_some found
    | none =>
      have missing := List.find?_eq_none.mp found slot (List.mem_range.mpr inside)
      exact absurd recorded (by simpa using missing)
  · rw [assignedSlot, unknown, isRouter]
    exact router_placed fits sound child joined router room below count
  · rw [unknown] at share
    rw [assignedSlot, unknown, device]
    exact ed_placed fits sound joined router room device (share ok room device)

/-! ## Steps -/

theorem formed_sound (nib : TreeParams) (coordinator : IeeeAddr) :
    Sound nib coordinator (formed nib coordinator) := by
  have only : ∀ place d, (formed nib coordinator).ledger place = some d →
      place = [] ∧ d = coordinator := by
    intro place d given
    simp only [formed] at given
    split at given
    · next root => exact ⟨root, (Option.some_injective _ given).symm⟩
    · cases given
  have joined : ∀ d, ((formed nib coordinator).device d).joined = true → d = coordinator := by
    intro d joined
    by_contra other
    simp [formed, Device.fresh, other] at joined
  refine ⟨by simp [formed], fun place d given => ?_, fun d isJoined => ?_,
    fun d isJoined _ => ?_, fun place slot d given _ => ?_⟩
  · rw [(only place d given).1]
    trivial
  · rw [joined d isJoined]
    simp [formed]
  · rw [joined d isJoined]
    simp [formed, InnerPath, Device.fresh]
  · have root := (only _ _ given).1
    simp at root

/-- The parent alone, after it has accepted or refused a child. -/
theorem accepting_sound (sound : Sound nib coordinator net) (securityLevel : Bool)
    {parent : IeeeAddr} (joined : (net.device parent).joined = true) (child : IeeeAddr)
    (capability : MacCapabilityInfo) (tableOk : Bool) :
    Sound nib coordinator (setDevice net parent
      (acceptChild nib securityLevel (net.device parent) child capability tableOk).1) := by
  obtain ⟨isJoined, isRouter, address, depth, cskip, routers⟩ :=
    acceptChild_frame nib securityLevel (net.device parent) child capability tableOk
  exact sound.setDevice parent (fun _ => isJoined.trans joined) (fun _ => joined) isRouter address
    depth cskip routers

/-- What a joining child stores fits the place it was given. -/
theorem joinConfirm_router {parent child : IeeeAddr} {capability : MacCapabilityInfo}
    {address slot routers : ℕ} {rejoin : Bool} (sound : Sound nib coordinator net)
    (joined : (net.device parent).joined = true) (router : (net.device parent).isRouter = true)
    (placed : Placed nib net parent child capability routers address slot)
    (exact_ : DepthExact net parent child rejoin) (dev : Device)
    (depth : dev.depth = (net.device child).depth)
    (isRouter : capability.isRouter = true) :
    let confirmed := joinConfirm nib dev capability address (net.device parent).depth rejoin
    (cskipTree nib).InnerPath 0 (net.path parent ++ [slot]) ∧
      confirmed.depth = (net.path parent ++ [slot]).length ∧
      confirmed.cskip = daaCalcCskip nib (net.path parent ++ [slot]).length := by
  obtain ⟨inner, parentDepth, -⟩ := sound.router parent joined router
  have last := (valid_append_singleton.mp placed.valid).2
  have deeper : (joinConfirm nib dev capability address (net.device parent).depth rejoin).depth =
      (net.path parent ++ [slot]).length := by
    rw [List.length_append, List.length_singleton, ← parentDepth]
    cases rejoin with
    | true =>
      obtain ⟨small, own⟩ : (net.device parent).depth < 2 ^ 4 ∧ (net.device child).depth ≠ 0xf :=
        exact_
      change (net.device parent).depth % 2 ^ 4 + (if dev.depth ≠ 0xf then 1 else 0) = _
      rw [Nat.mod_eq_of_lt small, depth, if_pos own]
    | false =>
      have small : (net.device parent).depth < 0xf := exact_
      change (if (net.device parent).depth % 2 ^ 4 ≠ 0xf then
        (net.device parent).depth % 2 ^ 4 + 1 else _) = _
      rw [Nat.mod_eq_of_lt (by omega), if_pos (by omega)]
  exact ⟨innerPath_append_singleton.mpr ⟨inner, last, placed.role isRouter⟩, deeper,
    congrArg (daaCalcCskip nib) deeper⟩

/-- A join within the shares keeps the invariant. -/
theorem join_sound (fits : Fits nib) (sound : Sound nib coordinator net)
    {securityLevel rejoin tableOk answered : Bool} {parent child : IeeeAddr}
    {capability : MacCapabilityInfo}
    (permitted : Permitted coordinator net
      (.join parent child capability rejoin tableOk answered))
    (share : InShare nib net (.join parent child capability rejoin tableOk answered)) :
    Sound nib coordinator
      (step nib securityLevel net (.join parent child capability rejoin tableOk answered)) := by
  obtain ⟨joined, router, differs, notRoot, -⟩ := id permitted
  have after := accepting_sound sound securityLevel joined child capability tableOk
  cases accepted :
      (acceptChild nib securityLevel (net.device parent) child capability tableOk).2 with
  | none => simpa only [step, accepted] using after
  | some address =>
    have placed := accepted_placed fits sound permitted share accepted
    have frame :=
      acceptChild_frame nib securityLevel (net.device parent) child capability tableOk
    have same : ∀ e, ((setDevice net parent (acceptChild nib securityLevel (net.device parent)
        child capability tableOk).1).device e).joined = (net.device e).joined := by
      intro e
      by_cases here : e = parent
      · rw [here, setDevice_self, frame.1]
      · rw [setDevice_of_ne _ here]
    have own : (setDevice net parent (acceptChild nib securityLevel (net.device parent)
        child capability tableOk).1).device child = net.device child :=
      setDevice_of_ne _ differs.symm _
    have given := after.give (sound.holds parent joined).1 placed.valid
      (fun e isJoined place => placed.free e ((same e).symm.trans isJoined) place)
      (fun inside => by
        rw [setDevice_self]
        exact placed.counter inside)
    simp only [step, accepted]
    cases answered with
    | false => exact given
    | true =>
      rw [if_pos rfl]
      refine given.take notRoot (Function.update_self _ _ _) placed.address
        (fun isRouter => ?_) (Nat.le_of_eq rfl)
      exact joinConfirm_router sound joined router placed (share.2 isRouter rfl) _
        (congrArg Device.depth own) isRouter

theorem takeBackEd_frame (nib : TreeParams) (dev : Device) (childAddr : ℕ) :
    let after := takeBackEd nib dev childAddr
    after.joined = dev.joined ∧ after.isRouter = dev.isRouter ∧
      after.networkAddress = dev.networkAddress ∧ after.depth = dev.depth ∧
      after.cskip = dev.cskip ∧ dev.routerChildNum ≤ after.routerChildNum := by
  unfold takeBackEd
  split <;> exact ⟨rfl, rfl, rfl, rfl, rfl, Nat.le_refl _⟩

theorem leaveRequest_frame (nib : TreeParams) (dev : Device) (child : IeeeAddr) :
    let after := leaveRequest nib dev child
    after.joined = dev.joined ∧ after.isRouter = dev.isRouter ∧
      after.networkAddress = dev.networkAddress ∧ after.depth = dev.depth ∧
      after.cskip = dev.cskip ∧ dev.routerChildNum ≤ after.routerChildNum := by
  unfold leaveRequest
  cases dev.neighbor child with
  | none => exact ⟨rfl, rfl, rfl, rfl, rfl, Nat.le_refl _⟩
  | some ent =>
    dsimp only
    split
    · exact takeBackEd_frame nib dev ent.addr
    · exact ⟨rfl, rfl, rfl, rfl, rfl, Nat.le_refl _⟩

/-- Every step within the shares keeps the invariant. -/
theorem step_sound (fits : Fits nib) (securityLevel : Bool) (net : Network) (op : Op)
    (sound : Sound nib coordinator net)
    (met : Permitted coordinator net op ∧ InShare nib net op) :
    Sound nib coordinator (step nib securityLevel net op) := by
  have rooted : ∀ d (dev : Device), dev.joined = (net.device d).joined →
      d = coordinator → dev.joined = true := by
    intro d dev same root
    rw [same, root]
    exact sound.root.1
  cases op with
  | join parent child capability rejoin tableOk answered => exact join_sound fits sound met.1 met.2
  | leaveRequest parent child =>
    obtain ⟨joined, isRouter, address, depth, cskip, routers⟩ :=
      leaveRequest_frame nib (net.device parent) child
    exact sound.setDevice parent (rooted parent _ joined) (fun isJoined => joined ▸ isJoined)
      isRouter address depth cskip routers
  | ownLeaveRequest d junk =>
    obtain ⟨joined, isRouter, address, depth, cskip, routers⟩ :=
      takeBackEd_frame nib (net.device d) junk
    exact sound.setDevice d (rooted d _ joined) (fun isJoined => joined ▸ isJoined)
      isRouter address depth cskip routers
  | leave d =>
    exact sound.setDevice d (fun root => absurd root met.1) (fun isJoined => by cases isJoined)
      rfl rfl rfl rfl (Nat.le_refl _)
  | learn d ieee ent =>
    exact sound.setDevice d (rooted d _ rfl) id rfl rfl rfl rfl (Nat.le_refl _)

/-- The invariant after a run within the shares. -/
theorem run_sound (fits : Fits nib) (securityLevel : Bool) (ops : List Op)
    (met : Along (step nib securityLevel)
      (fun net op => Permitted coordinator net op ∧ InShare nib net op)
      (formed nib coordinator) ops) :
    Sound nib coordinator (run (step nib securityLevel) (formed nib coordinator) ops) :=
  invariant_of_along (fun net op sound ok => step_sound fits securityLevel net op sound ok) _ ops
    (formed_sound nib coordinator) met

/-! ## The addresses of a network -/

/-- A well placed address lies behind the parent's own, in its block. -/
theorem Placed.inBlock {parent child : IeeeAddr} {capability : MacCapabilityInfo}
    {routers address slot : ℕ} (sound : Sound nib coordinator net)
    (joined : (net.device parent).joined = true) (router : (net.device parent).isRouter = true)
    (placed : Placed nib net parent child capability routers address slot) :
    (net.device parent).networkAddress < address ∧
      address < (net.device parent).networkAddress +
        blockSize nib (net.device parent).depth := by
  obtain ⟨inner, depth, -⟩ := sound.router parent joined router
  have below : (cskipTree nib).Valid (0 + (net.path parent).length) [slot] :=
    ⟨(valid_append_singleton.mp placed.valid).2, fun more => absurd rfl more, trivial⟩
  have some_ : [slot] ≠ [] := List.cons_ne_nil slot []
  have low : 0 < (cskipTree nib).offset (0 + (net.path parent).length) [slot] := offset_pos some_
  have high := offset_lt_width below some_
  rw [Nat.zero_add] at low high
  rw [cskipTree_width] at high
  rw [placed.address, offset_append, (sound.holds parent joined).2, depth, Nat.zero_add]
  exact ⟨Nat.lt_add_of_pos_right low, Nat.add_lt_add_left high _⟩

/-- The block of a router ends before the next slot of its own parent. -/
theorem block_le_nextSibling (fits : Fits nib) (sound : Sound nib coordinator net)
    {grand parent : IeeeAddr} {slot : ℕ} (joined : (net.device parent).joined = true)
    (router : (net.device parent).isRouter = true) (joined' : (net.device grand).joined = true)
    (router' : (net.device grand).isRouter = true)
    (path : net.path parent = net.path grand ++ [slot]) :
    (net.device parent).networkAddress + blockSize nib (net.device parent).depth ≤
      childAddress nib (net.device grand) (slot + 1) := by
  obtain ⟨inner, depth, -⟩ := sound.router parent joined router
  rw [path] at inner depth
  obtain ⟨-, exists_, last⟩ := innerPath_append_singleton.mp inner
  have shallow : (net.path grand).length < nib.maxDepth := by simpa using exists_.1
  have apart := (cskipTree nib).apart (0 + (net.path grand).length) slot (slot + 1)
    (Nat.lt_succ_self slot)
  rw [(cskipTree nib).inner_extent _ _ last, cskipTree_width] at apart
  rw [childAddress_eq fits sound joined' router' shallow, (sound.holds parent joined).2, path,
    offset_append_singleton, offset_append_singleton, depth, List.length_append,
    List.length_singleton]
  rw [Nat.zero_add] at apart ⊢
  omega

/-- Within the shares no two joined devices have one address, and every address a
parent gives lies in the parent's own block, before its next sibling. -/
theorem addresses_never_collide (nib : TreeParams) (fits : Fits nib) (securityLevel : Bool)
    (coordinator : IeeeAddr) (ops : List Op)
    (met : Along (step nib securityLevel)
      (fun net op => Permitted coordinator net op ∧ InShare nib net op)
      (formed nib coordinator) ops) :
    let net := run (step nib securityLevel) (formed nib coordinator) ops
    (∀ d e, (net.device d).joined = true → (net.device e).joined = true →
      (net.device d).networkAddress = (net.device e).networkAddress → d = e) ∧
    ∀ parent child capability rejoin tableOk answered address,
      Permitted coordinator net (.join parent child capability rejoin tableOk answered) →
      InShare nib net (.join parent child capability rejoin tableOk answered) →
      (acceptChild nib securityLevel (net.device parent) child capability tableOk).2 =
        some address →
      ((net.device parent).networkAddress < address ∧
        address < (net.device parent).networkAddress +
          blockSize nib (net.device parent).depth) ∧
      ∀ grand slot, (net.device grand).joined = true → (net.device grand).isRouter = true →
        net.path parent = net.path grand ++ [slot] →
        address < childAddress nib (net.device grand) (slot + 1) := by
  intro net
  have sound : Sound nib coordinator net := run_sound fits securityLevel ops met
  refine ⟨fun d e joined joined' same => sound.distinct joined joined' same, ?_⟩
  intro parent child capability rejoin tableOk answered address permitted share accepted
  obtain ⟨joined, router, -⟩ := id permitted
  have inside := (accepted_placed fits sound permitted share accepted).inBlock sound joined router
  refine ⟨inside, fun grand slot joined' router' path => ?_⟩
  exact Nat.lt_of_lt_of_le inside.2
    (block_le_nextSibling fits sound joined router joined' router' path)

end

/-- The device with a given last octet. -/
def deviceNo (n : UInt8) : IeeeAddr := ⟨⟨0, 0, 0⟩, ⟨0, 0, 0, 0, n⟩⟩

def routerCapability : MacCapabilityInfo := ⟨true, true, true⟩

def edCapability : MacCapabilityInfo := ⟨false, false, true⟩

/-- A first join whose answer arrives. -/
def firstJoin (parent child : UInt8) (capability : MacCapabilityInfo) : Op :=
  .join (deviceNo parent) (deviceNo child) capability false true true

/-- The router accepts two end devices although its share is one; the second gets the
address its own parent gives next. -/
def overrunOps : List Op :=
  [firstJoin 0 1 routerCapability, firstJoin 1 2 edCapability, firstJoin 1 3 edCapability,
    firstJoin 0 4 edCapability]

/-- Two joined devices have one address after the end devices overrun their share. -/
theorem addresses_collide :
    ¬ ∀ nib, Fits nib → ∀ ops, Along (step nib true) (Permitted (deviceNo 0))
        (formed nib (deviceNo 0)) ops →
      let net := run (step nib true) (formed nib (deviceNo 0)) ops
      ∀ d e, (net.device d).joined = true → (net.device e).joined = true →
        (net.device d).networkAddress = (net.device e).networkAddress → d = e := by
  intro claim
  have same := claim smallTree (by decide +kernel) overrunOps (by decide +kernel) (deviceNo 3)
    (deviceNo 4) (by decide +kernel) (by decide +kernel) (by decide +kernel)
  exact absurd same (by decide +kernel)

/-- A run within the shares: a router and an end device join, and the end device comes
back to the same slot. -/
def withinOps : List Op :=
  [firstJoin 0 1 routerCapability, firstJoin 1 2 edCapability, .leave (deviceNo 2),
    firstJoin 1 2 edCapability]

theorem addresses_never_collide_withinOps :
    let net := run (step smallTree true) (formed smallTree (deviceNo 0)) withinOps
    (net.device (deviceNo 1)).networkAddress ≠ (net.device (deviceNo 2)).networkAddress ∧
      (net.device (deviceNo 1)).networkAddress < 2 ∧
      2 < childAddress smallTree (net.device (deviceNo 0)) 1 := by
  intro net
  obtain ⟨distinct, given⟩ := addresses_never_collide smallTree (by decide +kernel) true
    (deviceNo 0) withinOps (by decide +kernel)
  have inside := given (deviceNo 1) (deviceNo 3) routerCapability false true true 2
    (by decide +kernel) (by decide +kernel) (by decide +kernel)
  refine ⟨fun same => ?_, inside.1.1, ?_⟩
  · have equal := distinct (deviceNo 1) (deviceNo 2) (by decide +kernel) (by decide +kernel) same
    exact absurd equal (by decide +kernel)
  · exact inside.2 (deviceNo 0) 0 (by decide +kernel) (by decide +kernel) (by decide +kernel)

end Zboss.TreeAssign
