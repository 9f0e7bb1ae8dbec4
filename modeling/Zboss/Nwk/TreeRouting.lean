import Mathlib
import Zboss.Lib.Walk
import Zboss.Nwk.TreeAddress

/-!
Tree routing (`nwk_cr_tree_routing.c`) in a network whose addresses are those of
the distributed scheme.  A frame climbs to the common ancestor of source and
destination and descends from there; on the way down a router looks for the child
whose block holds the destination, computing the blocks as if its own address were
zero.  The condition `RelaysDown` says when that finds the child all the same.
-/

namespace Zboss.TreeRouting

open Zboss.IntervalTree Zboss.TreeAddress Zboss.Walk

/-- The field of a neighbour table entry that the next hop is read from. -/
structure NeighborTblEnt where
  addrRef : ℕ
  deriving DecidableEq

/-- What routing reads of a device: its NIB, and the address and neighbour tables.
`addressByShort` is a lookup that creates nothing. -/
structure Device where
  isRouter : Bool
  macShortAddress : ℕ
  depth : ℕ
  cskip : ℕ
  parent : ℕ
  addressByShort : ℕ → Option ℕ
  addressShortByRef : ℕ → ℕ
  addrToNeighbor : ℕ → ℕ
  baseNeighbor : ℕ → NeighborTblEnt

/-- The neighbour an address reference stands for. -/
def neighborByRef (dev : Device) (ref : ℕ) : Option NeighborTblEnt :=
  if dev.addrToNeighbor ref ≠ 0xff then some (dev.baseNeighbor (dev.addrToNeighbor ref)) else none

/-- The neighbour with a short address. -/
def neighborByShort (dev : Device) (shortAddr : ℕ) : Option NeighborTblEnt :=
  (dev.addressByShort shortAddr).bind (neighborByRef dev)

/-- `lower_address` of the loop; the device's own address is not added. -/
def lowerAddress (dev : Device) (i : ℕ) : ℕ := (dev.cskip * i + 1) % 2 ^ 16

/-- `upper_address` of the loop. -/
def upperAddress (dev : Device) (i : ℕ) : ℕ := (lowerAddress dev i + dev.cskip) % 2 ^ 16

/-- The test of the loop. -/
def InAddressSpace (dev : Device) (destAddress i : ℕ) : Prop :=
  destAddress > lowerAddress dev i ∧ destAddress < upperAddress dev i

instance (dev : Device) (destAddress : ℕ) : DecidablePred (InAddressSpace dev destAddress) :=
  fun _ => inferInstanceAs (Decidable (_ ∧ _))

variable (nib : TreeParams)

/-- `zb_nwk_tree_routing_find_router`. -/
def findRouter (dev : Device) (destAddress : ℕ) : Option NeighborTblEnt :=
  match neighborByShort dev destAddress with
  | some ent => some ent
  | none =>
    match (List.range nib.maxRouters).find? fun i => InAddressSpace dev destAddress i with
    | some i => neighborByShort dev (lowerAddress dev i)
    | none => none

def cskipParent (dev : Device) : ℕ :=
  if dev.depth = 0 then 0 else daaCalcCskip nib (dev.depth - 1)

def RouteDown (dev : Device) (destAddress : ℕ) : Prop :=
  destAddress > dev.macShortAddress ∧ destAddress < dev.macShortAddress + cskipParent nib dev

instance (dev : Device) : DecidablePred (RouteDown nib dev) :=
  fun _ => inferInstanceAs (Decidable (_ ∧ _))

/-- `zb_nwk_tree_routing_route`. -/
def treeRoutingRoute (dev : Device) (destAddress : ℕ) : Option NeighborTblEnt :=
  if dev.macShortAddress = 0 ∨ RouteDown nib dev destAddress then findRouter nib dev destAddress
  else neighborByRef dev dev.parent

/-- The short address of the neighbour chosen. -/
def nextHop (dev : Device) (destAddress : ℕ) : Option ℕ :=
  (treeRoutingRoute nib dev destAddress).map fun ent => dev.addressShortByRef ent.addrRef

/-! ## Networks with assigned addresses -/

/-- A network: the paths of its devices in the tree, and the devices by address. -/
structure TreeNetwork where
  members : List (List ℕ)
  device : ℕ → Device

/-- The address of a path. -/
def addressOf (path : List ℕ) : ℕ := (cskipTree nib).offset 0 path

/-- The device with the address of a path. -/
def TreeNetwork.at (net : TreeNetwork) (path : List ℕ) : Device := net.device (addressOf nib path)

/-- One hop of a frame: the routers of the network forward. -/
def forward (net : TreeNetwork) (destAddress addr : ℕ) : Option ℕ :=
  if (∃ path ∈ net.members, addressOf nib path = addr) ∧ (net.device addr).isRouter then
    nextHop nib (net.device addr) destAddress
  else none

/-- The addresses and the blocks are those of the distributed scheme. -/
structure Assigned (net : TreeNetwork) : Prop where
  valid : ∀ path ∈ net.members, (cskipTree nib).Valid 0 path
  closed : ∀ path ∈ net.members, path.dropLast ∈ net.members
  relays : ∀ path ∈ net.members, path ≠ [] → (net.at nib path.dropLast).isRouter = true
  router : ∀ path ∈ net.members, (net.at nib path).isRouter = true →
    (cskipTree nib).InnerPath 0 path ∧ (net.at nib path).macShortAddress = addressOf nib path ∧
      (net.at nib path).depth = path.length ∧
      (net.at nib path).cskip = daaCalcCskip nib path.length

/-- The tables are consistent and hold the device's parent and children. -/
structure KnowsKin (net : TreeNetwork) : Prop where
  indexed : ∀ path ∈ net.members, ∀ ref ent, neighborByRef (net.at nib path) ref = some ent →
    ent.addrRef = ref
  short : ∀ path ∈ net.members, ∀ addr ref, (net.at nib path).addressByShort addr = some ref →
    (net.at nib path).addressShortByRef ref = addr
  parent : ∀ path ∈ net.members, path ≠ [] →
    (net.at nib path).addressShortByRef (net.at nib path).parent = addressOf nib path.dropLast ∧
      (neighborByRef (net.at nib path) (net.at nib path).parent).isSome = true
  child : ∀ path ∈ net.members, path ≠ [] →
    (neighborByShort (net.at nib path.dropLast) (addressOf nib path)).isSome = true

/-- The neighbour tables hold nobody else. -/
def OnlyKin (net : TreeNetwork) : Prop :=
  ∀ path ∈ net.members, ∀ addr, (neighborByShort (net.at nib path) addr).isSome = true →
    (path ≠ [] ∧ addr = addressOf nib path.dropLast) ∨
      ∃ child ∈ net.members, child ≠ [] ∧ child.dropLast = path ∧ addr = addressOf nib child

/-- At every router that hands a frame from `source` on to a descendant, though not a
child, the block of the child above the destination is one of those computed without
the router's own address. -/
def RelaysDown (source dest : List ℕ) : Prop :=
  ∀ path slot rest, dest = path ++ slot :: rest → rest ≠ [] → ¬ path ++ [slot] <+: source →
    ∃ i < nib.maxRouters,
      addressOf nib path + daaCalcCskip nib path.length * slot = daaCalcCskip nib path.length * i

/-- What the addresses and the tables say of the way to `dest`, in so many hops.  Who is not above
it in the tree leaves the frame to its parent.  Who is above it hands it over, if it knows `dest`;
otherwise the frame goes on from the neighbour at the start of the first block that holds `dest`
among those computed without the router's own address, wherever in the tree that is. -/
inductive Comes (net : TreeNetwork) (dest : List ℕ) : ℕ → List ℕ → Prop
  | arrived : Comes net dest 0 dest
  | up {path : List ℕ} {n : ℕ} (router : (net.at nib path).isRouter = true)
      (elsewhere : ¬ path <+: dest) (rest : Comes net dest n path.dropLast) :
      Comes net dest (n + 1) path
  | last {path : List ℕ} (above : path <+: dest) (other : path ≠ dest)
      (known : (neighborByShort (net.at nib path) (addressOf nib dest)).isSome = true) :
      Comes net dest 1 path
  | down {path place : List ℕ} {n i : ℕ} (above : path <+: dest) (other : path ≠ dest)
      (unknown : neighborByShort (net.at nib path) (addressOf nib dest) = none)
      (inside : i < nib.maxRouters) (space : InAddressSpace (net.at nib path) (addressOf nib dest) i)
      (first : ∀ j < i, ¬ InAddressSpace (net.at nib path) (addressOf nib dest) j)
      (member : place ∈ net.members) (lower : addressOf nib place = lowerAddress (net.at nib path) i)
      (known : (neighborByShort (net.at nib path) (addressOf nib place)).isSome = true)
      (rest : Comes net dest n place) : Comes net dest (n + 1) path

section

variable {nib : TreeParams} {net : TreeNetwork}

theorem neighborByShort_address (kin : KnowsKin nib net) {path : List ℕ}
    (member : path ∈ net.members) {addr : ℕ} {ent : NeighborTblEnt}
    (found : neighborByShort (net.at nib path) addr = some ent) :
    (net.at nib path).addressShortByRef ent.addrRef = addr := by
  obtain ⟨ref, known, entry⟩ := Option.bind_eq_some_iff.mp found
  rw [kin.indexed path member ref ent entry]
  exact kin.short path member addr ref known

/-- Prefixes of devices are devices. -/
theorem prefix_member (assigned : Assigned nib net) {path rest : List ℕ}
    (member : path ++ rest ∈ net.members) : path ∈ net.members := by
  induction rest using List.reverseRecOn with
  | nil => simpa using member
  | append_singleton rest slot induction_ =>
    apply induction_
    have shorter := assigned.closed _ member
    rwa [← List.append_assoc, List.dropLast_concat] at shorter

theorem top_member (assigned : Assigned nib net) {path rest : List ℕ} {slot : ℕ}
    (member : path ++ slot :: rest ∈ net.members) : path ++ [slot] ∈ net.members := by
  rw [List.append_cons] at member
  exact prefix_member assigned member

theorem above_router (assigned : Assigned nib net) {path rest : List ℕ} {slot : ℕ}
    (member : path ++ slot :: rest ∈ net.members) : (net.at nib path).isRouter = true := by
  have child := top_member assigned member
  simpa using assigned.relays _ child (by simp)

/-! ## One hop -/

/-- Where a hop leads: up to the parent, to the destination, or into a computed block. -/
theorem nextHop_cases (kin : KnowsKin nib net) {path : List ℕ} (member : path ∈ net.members)
    {dest addr : ℕ} (hop : nextHop nib (net.at nib path) dest = some addr) :
    ((net.at nib path).macShortAddress ≠ 0 ∧
      addr = (net.at nib path).addressShortByRef (net.at nib path).parent) ∨
    ((neighborByShort (net.at nib path) addr).isSome = true ∧
      (addr = dest ∨ ∃ i < nib.maxRouters, addr = lowerAddress (net.at nib path) i ∧
        InAddressSpace (net.at nib path) dest i)) := by
  obtain ⟨ent, route, rfl⟩ := Option.map_eq_some_iff.mp hop
  unfold treeRoutingRoute at route
  split at route
  · right
    unfold findRouter at route
    cases exact_ : neighborByShort (net.at nib path) dest with
    | some found =>
      rw [exact_] at route
      cases route
      rw [neighborByShort_address kin member exact_, exact_]
      exact ⟨rfl, .inl rfl⟩
    | none =>
      rw [exact_] at route
      dsimp only at route
      cases space : (List.range nib.maxRouters).find? fun i =>
          decide (InAddressSpace (net.at nib path) dest i) with
      | none =>
        rw [space] at route
        cases route
      | some i =>
        rw [space] at route
        dsimp only at route
        rw [neighborByShort_address kin member route, route]
        refine ⟨rfl, .inr ⟨i, ?_, rfl, ?_⟩⟩
        · exact List.mem_range.mp (List.mem_of_find?_eq_some space)
        · simpa using List.find?_some space
  · next up =>
    left
    rw [kin.indexed path member _ ent route]
    exact ⟨fun zero => up (.inl zero), rfl⟩

/-- A device with children is a router of the scheme, above the maximal depth. -/
structure Parent (nib : TreeParams) (net : TreeNetwork) (path : List ℕ) : Prop where
  member : path ∈ net.members
  router : (net.at nib path).isRouter = true
  inner : (cskipTree nib).InnerPath 0 path
  shallow : path.length < nib.maxDepth
  address : (net.at nib path).macShortAddress = addressOf nib path
  depth : (net.at nib path).depth = path.length
  cskip : (net.at nib path).cskip = blockSize nib (path.length + 1)

theorem parent_of_member (fits : Fits nib) (assigned : Assigned nib net) {path rest : List ℕ}
    {slot : ℕ} (member : path ++ slot :: rest ∈ net.members) : Parent nib net path := by
  have here := prefix_member assigned member
  have router := above_router assigned member
  obtain ⟨inner, address, depth, cskip⟩ := assigned.router path here router
  have below := ((valid_append (List.cons_ne_nil slot rest)).mp (assigned.valid _ member)).2
  have shallow : path.length < nib.maxDepth := by simpa using below.1.1
  exact ⟨here, router, inner, shallow, address, depth, cskip.trans (daaCalcCskip_eq fits shallow)⟩

theorem addressOf_slot (path : List ℕ) (slot : ℕ) :
    addressOf nib (path ++ [slot]) =
      addressOf nib path + (cskipTree nib).start path.length slot := by
  rw [addressOf, offset_append_singleton, Nat.zero_add, addressOf]

theorem addressOf_router (path : List ℕ) {slot : ℕ} (router : slot < nib.maxRouters) :
    addressOf nib (path ++ [slot]) =
      addressOf nib path + blockSize nib (path.length + 1) * slot + 1 := by
  have start : (cskipTree nib).start path.length slot =
      slot * blockSize nib (path.length + 1) + 1 := if_pos router
  rw [addressOf_slot, start, Nat.mul_comm]
  omega

theorem nextHop_child_block (fits : Fits nib) (assigned : Assigned nib net)
    (kin : KnowsKin nib net) {path : List ℕ} {slot : ℕ} (member : path ++ [slot] ∈ net.members)
    {dest : ℕ} (hop : nextHop nib (net.at nib path) dest = some (addressOf nib (path ++ [slot]))) :
    addressOf nib (path ++ [slot]) ≤ dest ∧
      dest < addressOf nib (path ++ [slot]) + (cskipTree nib).extent path.length slot := by
  have parent := parent_of_member fits assigned member
  have positive := (cskipTree nib).extent_pos path.length slot
  rcases nextHop_cases kin parent.member hop with
    ⟨below, up⟩ | ⟨-, rfl | ⟨i, router, lower, above, before⟩⟩
  · have nonempty : path ≠ [] := by
      rintro rfl
      exact below parent.address
    rw [(kin.parent path parent.member nonempty).1] at up
    have valid := assigned.valid _ member
    rw [← List.dropLast_append_getLast nonempty, List.append_assoc] at valid up
    have := (mem_block valid (by simp)).1
    rw [List.dropLast_concat] at up
    exact absurd up (Nat.ne_of_gt this)
  · exact ⟨Nat.le_refl _, Nat.lt_add_of_pos_right positive⟩
  · rw [upperAddress, ← lower, parent.cskip] at before
    rw [← lower] at above
    have before' := Nat.lt_of_lt_of_le before (Nat.mod_le _ _)
    by_cases inner : slot < nib.maxRouters
    · rw [(cskipTree nib).inner_extent _ _ inner]
      exact ⟨Nat.le_of_lt above, before'⟩
    · -- end devices have addresses behind all the computed blocks
      have start : (cskipTree nib).start path.length slot =
          nib.maxRouters * blockSize nib (path.length + 1) + (slot - nib.maxRouters) + 1 :=
        if_neg inner
      have small : lowerAddress (net.at nib path) i ≤
          blockSize nib (path.length + 1) * i + 1 := by
        rw [lowerAddress, parent.cskip]
        exact Nat.mod_le _ _
      have size := blockSize_pos nib (path.length + 1)
      have := Nat.mul_lt_mul_of_pos_left router size
      rw [Nat.mul_comm _ nib.maxRouters] at this
      rw [addressOf_slot, start] at lower
      omega

/-- The size of a router's own block, as its parent computed it. -/
theorem cskipParent_eq (fits : Fits nib) {path : List ℕ} {dev : Device}
    (valid : (cskipTree nib).Valid 0 path) (nonempty : path ≠ []) (depth : dev.depth = path.length) :
    cskipParent nib dev = blockSize nib path.length := by
  have deep := valid_length_le valid nonempty
  have positive : 0 < path.length := List.length_pos_of_ne_nil nonempty
  have size := daaCalcCskip_eq fits (show path.length - 1 < nib.maxDepth by omega)
  rw [Nat.sub_add_cancel positive] at size
  rw [cskipParent, if_neg (by omega), depth, size]

/-- A frame for a device elsewhere goes to the parent. -/
theorem nextHop_up (fits : Fits nib) (assigned : Assigned nib net) (kin : KnowsKin nib net)
    {path dest : List ℕ} (member : path ∈ net.members) (router : (net.at nib path).isRouter = true)
    (target : dest ∈ net.members) (elsewhere : ¬ path <+: dest) :
    nextHop nib (net.at nib path) (addressOf nib dest) = some (addressOf nib path.dropLast) := by
  obtain ⟨inner, address, depth, -⟩ := assigned.router path member router
  have nonempty : path ≠ [] := by
    rintro rfl
    exact elsewhere List.nil_prefix
  have size := cskipParent_eq fits inner.valid nonempty depth
  have notDown : ¬ ((net.at nib path).macShortAddress = 0 ∨
      RouteDown nib (net.at nib path) (addressOf nib dest)) := by
    rw [RouteDown, size, address]
    rintro (zero | ⟨low, high⟩)
    · have : 0 < addressOf nib path := offset_pos nonempty
      exact absurd zero (Nat.ne_of_gt this)
    · apply elsewhere
      apply prefix_of_mem_block inner (assigned.valid dest target) (Nat.le_of_lt low)
      rw [cskipTree_width, Nat.zero_add]
      exact high
  obtain ⟨address', known⟩ := kin.parent path member nonempty
  obtain ⟨ent, found⟩ := Option.isSome_iff_exists.mp known
  rw [nextHop, treeRoutingRoute, if_neg notDown, found, Option.map_some,
    kin.indexed path member _ ent found, address']

theorem treeRoutingRoute_down (fits : Fits nib) (assigned : Assigned nib net)
    {path rest : List ℕ} {slot : ℕ} (member : path ++ slot :: rest ∈ net.members) :
    treeRoutingRoute nib (net.at nib path) (addressOf nib (path ++ slot :: rest)) =
      findRouter nib (net.at nib path) (addressOf nib (path ++ slot :: rest)) := by
  have parent := parent_of_member fits assigned member
  have valid := assigned.valid _ member
  obtain ⟨low, high⟩ := mem_block valid (List.cons_ne_nil slot rest)
  rw [treeRoutingRoute, if_pos]
  by_cases root : path = []
  · subst root
    exact .inl parent.address
  · right
    rw [RouteDown, cskipParent_eq fits parent.inner.valid root parent.depth, parent.address]
    rw [cskipTree_width, Nat.zero_add] at high
    exact ⟨low, high⟩

/-- The loop stops at the block of the child above the destination when that block is
among the computed ones. -/
theorem find_block (fits : Fits nib) (assigned : Assigned nib net) {path rest : List ℕ}
    {slot i : ℕ} (member : path ++ slot :: rest ∈ net.members) (nonempty : rest ≠ [])
    (inside : i < nib.maxRouters)
    (aligned : addressOf nib path + blockSize nib (path.length + 1) * slot =
      blockSize nib (path.length + 1) * i) :
    (List.range nib.maxRouters).find? (fun i => decide (InAddressSpace (net.at nib path)
        (addressOf nib (path ++ slot :: rest)) i)) = some i ∧
      lowerAddress (net.at nib path) i = addressOf nib (path ++ [slot]) := by
  have parent := parent_of_member fits assigned member
  have split : path ++ slot :: rest = (path ++ [slot]) ++ rest := List.append_cons ..
  rw [split] at member ⊢
  have valid := assigned.valid _ member
  have inner := ((valid_append nonempty).mp valid).1
  have router : slot < nib.maxRouters := (innerPath_append_singleton.mp inner).2.2
  obtain ⟨low, high⟩ := mem_block valid nonempty
  have bound := block_end_lt fits inner (by simp)
  have here := addressOf_router path router
  rw [cskipTree_width, Nat.zero_add, List.length_append, List.length_singleton] at high
  rw [List.length_append, List.length_singleton] at bound
  have lower : lowerAddress (net.at nib path) i = addressOf nib (path ++ [slot]) := by
    rw [lowerAddress, parent.cskip, ← aligned, ← here]
    apply Nat.mod_eq_of_lt
    exact Nat.lt_of_le_of_lt (Nat.le_add_right _ _) bound
  refine ⟨?_, lower⟩
  rw [List.find?_range_eq_some]
  refine ⟨?_, List.mem_range.mpr inside, fun j before => ?_⟩
  · have upper : upperAddress (net.at nib path) i =
        addressOf nib (path ++ [slot]) + blockSize nib (path.length + 1) := by
      rw [upperAddress, lower, parent.cskip]
      exact Nat.mod_eq_of_lt bound
    rw [decide_eq_true_iff, InAddressSpace, lower, upper]
    exact ⟨low, high⟩
  · -- the blocks before end at the child's address
    have upper : upperAddress (net.at nib path) j ≤
        blockSize nib (path.length + 1) * j + 1 + blockSize nib (path.length + 1) := by
      rw [upperAddress, lowerAddress, parent.cskip, Nat.mod_add_mod]
      exact Nat.mod_le _ _
    have blocks := Nat.mul_le_mul_left (blockSize nib (path.length + 1))
      (show j + 1 ≤ i from before)
    rw [Nat.mul_add, Nat.mul_one, ← aligned] at blocks
    have apart : ¬ InAddressSpace (net.at nib path) (addressOf nib (path ++ [slot] ++ rest)) j := by
      rintro ⟨-, under⟩
      change addressOf nib (path ++ [slot]) < addressOf nib (path ++ [slot] ++ rest) at low
      omega
    rw [decide_eq_false apart]
    rfl

/-- A frame for a descendant goes to the destination itself or to the child above it. -/
theorem nextHop_down (fits : Fits nib) (assigned : Assigned nib net) (kin : KnowsKin nib net)
    {path rest : List ℕ} {slot : ℕ} (member : path ++ slot :: rest ∈ net.members)
    (aligned : rest ≠ [] → ∃ i < nib.maxRouters, addressOf nib path +
      daaCalcCskip nib path.length * slot = daaCalcCskip nib path.length * i) :
    nextHop nib (net.at nib path) (addressOf nib (path ++ slot :: rest)) =
        some (addressOf nib (path ++ slot :: rest)) ∨
      (rest ≠ [] ∧ nextHop nib (net.at nib path) (addressOf nib (path ++ slot :: rest)) =
        some (addressOf nib (path ++ [slot]))) := by
  have parent := parent_of_member fits assigned member
  rw [nextHop, treeRoutingRoute_down fits assigned member, findRouter]
  cases exact_ : neighborByShort (net.at nib path) (addressOf nib (path ++ slot :: rest)) with
  | some ent =>
    left
    rw [Option.map_some, neighborByShort_address kin parent.member exact_]
  | none =>
    right
    have known : ∀ child ∈ net.members, child ≠ [] → child.dropLast = path →
        (neighborByShort (net.at nib path) (addressOf nib child)).isSome = true := by
      rintro child inside nonempty rfl
      exact kin.child child inside nonempty
    have nonempty : rest ≠ [] := by
      rintro rfl
      have found := known _ member (by simp) (by simp)
      rw [exact_] at found
      cases found
    obtain ⟨i, inside, aligned⟩ := aligned nonempty
    rw [daaCalcCskip_eq fits parent.shallow] at aligned
    obtain ⟨found, lower⟩ := find_block fits assigned member nonempty inside aligned
    have child := top_member assigned member
    obtain ⟨ent, entry⟩ := Option.isSome_iff_exists.mp (known _ child (by simp) (by simp))
    refine ⟨nonempty, ?_⟩
    dsimp only
    rw [found]
    dsimp only
    rw [lower, entry, Option.map_some, neighborByShort_address kin parent.member entry]

/-! ## Whole routes -/

theorem forward_router {path : List ℕ} (member : path ∈ net.members)
    (router : (net.at nib path).isRouter = true) (destAddress : ℕ) :
    forward nib net destAddress (addressOf nib path) = nextHop nib (net.at nib path) destAddress :=
  if_pos ⟨⟨path, member, rfl⟩, router⟩

theorem arrives_here {next : ℕ → Option ℕ} {goal : ℕ} (bound : ℕ) :
    Arrives next goal bound goal := by
  cases bound with
  | zero => rfl
  | succ bound => exact .inl rfl

/-- A frame arrives only from devices of the network. -/
theorem arrives_member {dest : List ℕ} {bound addr : ℕ}
    (arrives : Arrives (forward nib net (addressOf nib dest)) (addressOf nib dest) bound addr)
    (target : dest ∈ net.members) : ∃ place ∈ net.members, addressOf nib place = addr := by
  cases bound with
  | zero => exact ⟨dest, target, arrives.symm⟩
  | succ bound =>
    rcases arrives with rfl | ⟨next, hop, -⟩
    · exact ⟨dest, target, rfl⟩
    · unfold forward at hop
      split at hop
      · next answers => exact answers.1
      · cases hop

theorem router_above (assigned : Assigned nib net) {path dest : List ℕ} (target : dest ∈ net.members)
    (above : path <+: dest) (other : path ≠ dest) : (net.at nib path).isRouter = true := by
  obtain ⟨below, rfl⟩ := above
  cases below with
  | nil => exact absurd (List.append_nil path).symm other
  | cons slot rest => exact above_router assigned target

/-- The distance to the destination: down the tree below it, else at most all the way
up and down. -/
def distance (dest path : List ℕ) : ℕ :=
  if path <+: dest then dest.length - path.length else path.length + dest.length

theorem distance_le (dest path : List ℕ) : distance dest path ≤ path.length + dest.length := by
  unfold distance
  split <;> omega

/-- The frame is where the condition still holds, or has arrived. -/
def EnRoute (nib : TreeParams) (net : TreeNetwork) (dest : List ℕ) (n addr : ℕ) : Prop :=
  ∃ path ∈ net.members, addr = addressOf nib path ∧ n = distance dest path ∧
    (path = dest ∨ ((net.at nib path).isRouter = true ∧ RelaysDown nib path dest))

theorem RelaysDown.parent {path dest : List ℕ} (relays : RelaysDown nib path dest)
    (elsewhere : ¬ path <+: dest) : RelaysDown nib path.dropLast dest := by
  intro above slot rest split more apart
  apply relays above slot rest split more
  intro below
  apply apart
  have nonempty : path ≠ [] := by
    rintro rfl
    exact elsewhere List.nil_prefix
  rw [← List.dropLast_append_getLast nonempty, List.prefix_concat_iff] at below
  rcases below with whole | inside
  · rw [List.dropLast_append_getLast nonempty] at whole
    refine absurd ?_ elsewhere
    rw [← whole, split]
    exact ⟨rest, by simp⟩
  · exact inside

theorem RelaysDown.child {path dest : List ℕ} (relays : RelaysDown nib path dest) (slot : ℕ) :
    RelaysDown nib (path ++ [slot]) dest := by
  intro above slot' rest split more apart
  refine relays above slot' rest split more fun below => apart ?_
  exact below.trans (List.prefix_append path [slot])

/-- Every hop shortens the distance and keeps the condition. -/
theorem enRoute_step (fits : Fits nib) (assigned : Assigned nib net) (kin : KnowsKin nib net)
    {dest : List ℕ} (target : dest ∈ net.members) (n addr : ℕ)
    (enRoute : EnRoute nib net dest n addr) (away : addr ≠ addressOf nib dest) :
    ∃ addr' m, forward nib net (addressOf nib dest) addr = some addr' ∧
      EnRoute nib net dest m addr' ∧ m < n := by
  obtain ⟨path, member, rfl, rfl, rfl | ⟨router, relays⟩⟩ := enRoute
  · exact absurd rfl away
  · rw [forward_router member router]
    by_cases above : path <+: dest
    · -- down: to the destination or to the child above it
      obtain ⟨below, rfl⟩ := above
      cases below with
      | nil => exact absurd (by rw [List.append_nil]) away
      | cons slot rest =>
        have here : distance (path ++ slot :: rest) path = rest.length + 1 := by
          rw [distance, if_pos (List.prefix_append _ _), List.length_append,
            Nat.add_sub_cancel_left, List.length_cons]
        have split : path ++ slot :: rest = (path ++ [slot]) ++ rest := List.append_cons ..
        have onward := nextHop_down fits assigned kin target fun more => by
          apply relays path slot rest rfl more
          intro longer
          have := longer.length_le
          simp at this
        rcases onward with arrived | ⟨more, child⟩
        · refine ⟨_, 0, arrived, ⟨_, target, rfl, ?_, .inl rfl⟩, by omega⟩
          rw [distance, if_pos (List.prefix_refl _), Nat.sub_self]
        · refine ⟨_, rest.length, child, ⟨_, top_member assigned target, rfl, ?_,
            .inr ⟨?_, relays.child slot⟩⟩, by omega⟩
          · rw [distance, split, if_pos (List.prefix_append _ _), List.length_append,
              Nat.add_sub_cancel_left]
          · cases rest with
            | nil => contradiction
            | cons next rest =>
              rw [split] at target
              exact above_router assigned target
    · -- up: the parent is no farther up than needed
      have nonempty : path ≠ [] := by
        rintro rfl
        exact above List.nil_prefix
      have positive : 0 < path.length := List.length_pos_of_ne_nil nonempty
      refine ⟨_, _, nextHop_up fits assigned kin member router target above,
        ⟨_, assigned.closed path member, rfl, rfl,
          .inr ⟨assigned.relays path member nonempty, relays.parent above⟩⟩, ?_⟩
      have farther : distance dest path = path.length + dest.length := if_neg above
      have nearer := distance_le dest path.dropLast
      rw [List.length_dropLast] at nearer
      omega

/-- Under the condition a frame arrives. -/
theorem relaysDown_arrives (fits : Fits nib) (assigned : Assigned nib net)
    (kin : KnowsKin nib net) {source dest : List ℕ} (member : source ∈ net.members)
    (router : (net.at nib source).isRouter = true) (target : dest ∈ net.members)
    (relays : RelaysDown nib source dest) :
    Arrives (forward nib net (addressOf nib dest)) (addressOf nib dest)
      (source.length + dest.length) (addressOf nib source) :=
  arrives_of_rank (enRoute_step fits assigned kin target)
    ⟨source, member, rfl, rfl, .inr ⟨router, relays⟩⟩ (distance_le dest source)

/-- With no other neighbours, only the parent's hop to the top enters a subtree. -/
theorem enters_subtree (assigned : Assigned nib net) (kin : KnowsKin nib net)
    (only : OnlyKin nib net) {path place : List ℕ} {slot : ℕ} (member : place ∈ net.members)
    (router : (net.at nib place).isRouter = true) (outside : ¬ path ++ [slot] <+: place)
    {dest addr : ℕ} (hop : nextHop nib (net.at nib place) dest = some addr) :
    ∃ next ∈ net.members, addr = addressOf nib next ∧ (path ++ [slot] <+: next →
      next = path ++ [slot] ∧ place = path ∧ (addr = dest ∨
        ∃ i < nib.maxRouters, addr = lowerAddress (net.at nib place) i)) := by
  have up : ∃ next ∈ net.members, addressOf nib place.dropLast = addressOf nib next ∧
      ¬ path ++ [slot] <+: next :=
    ⟨_, assigned.closed place member, rfl,
      fun inside => outside (inside.trans (List.dropLast_prefix place))⟩
  have toParent : addr = addressOf nib place.dropLast → ∃ next ∈ net.members,
      addr = addressOf nib next ∧ (path ++ [slot] <+: next →
        next = path ++ [slot] ∧ place = path ∧ (addr = dest ∨
          ∃ i < nib.maxRouters, addr = lowerAddress (net.at nib place) i)) := by
    rintro rfl
    obtain ⟨next, inside, address, apart⟩ := up
    exact ⟨next, inside, address, fun below => absurd below apart⟩
  rcases nextHop_cases kin member hop with ⟨below, parent⟩ | ⟨known, reason⟩
  · have nonempty : place ≠ [] := by
      rintro rfl
      exact below (assigned.router [] member router).2.1
    exact toParent (parent.trans (kin.parent place member nonempty).1)
  · rcases only place member addr known with ⟨-, parent⟩ | ⟨child, inside, nonempty, rfl, rfl⟩
    · exact toParent parent
    · refine ⟨child, inside, rfl, fun below => ?_⟩
      rw [← List.dropLast_append_getLast nonempty, List.prefix_concat_iff] at below
      rcases below with whole | inner
      · rw [List.dropLast_append_getLast nonempty] at whole
        refine ⟨whole.symm, by rw [← whole, List.dropLast_concat], ?_⟩
        exact reason.imp id fun ⟨i, few, lower, _⟩ => ⟨i, few, lower⟩
      · exact absurd inner outside

/-- Without other neighbours a frame arrives only under the condition. -/
theorem arrives_relaysDown (fits : Fits nib) (assigned : Assigned nib net)
    (kin : KnowsKin nib net) (only : OnlyKin nib net) {source dest : List ℕ}
    (member : source ∈ net.members) (target : dest ∈ net.members) {hops : ℕ}
    (arrives : Arrives (forward nib net (addressOf nib dest)) (addressOf nib dest) hops
      (addressOf nib source)) : RelaysDown nib source dest := by
  intro path slot rest split more apart
  by_contra unaligned
  subst split
  have parent := parent_of_member fits assigned target
  have valid := assigned.valid _ target
  rw [daaCalcCskip_eq fits parent.shallow] at unaligned
  have whole : path ++ slot :: rest = (path ++ [slot]) ++ rest := List.append_cons ..
  have inner : slot < nib.maxRouters := ((valid_append (List.cons_ne_nil slot rest)).mp
    valid).2.2.1 more
  have deep : path ≠ [] := by
    rintro rfl
    exact unaligned ⟨slot, inner, Nat.zero_add _⟩
  -- the frame never enters the subtree of the child above the destination
  refine not_arrives_of_closed (fun addr => ∃ place ∈ net.members,
    addr = addressOf nib place ∧ ¬ path ++ [slot] <+: place) ?_ ?_ hops
    ⟨source, member, rfl, apart⟩ arrives
  · rintro addr next ⟨place, here, rfl, outside⟩ hop
    unfold forward at hop
    split at hop
    · next answers =>
      have router := answers.2
      obtain ⟨after, inside, rfl, enters⟩ :=
        enters_subtree assigned kin only here router outside hop
      refine ⟨after, inside, rfl, fun below => ?_⟩
      obtain ⟨rfl, rfl, reached | ⟨i, few, lower⟩⟩ := enters below
      · have same := offset_injective (assigned.valid _ inside) valid reached
        rw [whole] at same
        exact more (List.append_cancel_left (same.symm.trans (List.append_nil _).symm))
      · have positive : 0 < place.length := List.length_pos_of_ne_nil deep
        rw [lowerAddress, parent.cskip,
          Nat.mod_eq_of_lt (routerSlot_lt fits positive parent.shallow few),
          addressOf_router _ inner] at lower
        exact unaligned ⟨i, few, by omega⟩
    · cases hop
  · rintro ⟨place, here, address, outside⟩
    have same := offset_injective valid (assigned.valid place here) address
    apply outside
    rw [← same, whole]
    exact List.prefix_append _ _

/-- A router above the destination looks for it in its table, and then for the first computed
block that holds it. -/
theorem nextHop_above (fits : Fits nib) (assigned : Assigned nib net) (kin : KnowsKin nib net)
    {path dest : List ℕ} (target : dest ∈ net.members) (above : path <+: dest)
    (other : path ≠ dest) {addr : ℕ} :
    nextHop nib (net.at nib path) (addressOf nib dest) = some addr ↔
      (neighborByShort (net.at nib path) addr).isSome = true ∧ (addr = addressOf nib dest ∨
        neighborByShort (net.at nib path) (addressOf nib dest) = none ∧
          ∃ i < nib.maxRouters, InAddressSpace (net.at nib path) (addressOf nib dest) i ∧
            (∀ j < i, ¬ InAddressSpace (net.at nib path) (addressOf nib dest) j) ∧
              addr = lowerAddress (net.at nib path) i) := by
  obtain ⟨below, rfl⟩ := above
  cases below with
  | nil => exact absurd (List.append_nil path).symm other
  | cons slot rest =>
    have parent := parent_of_member fits assigned target
    have entry : ∀ {x ent}, neighborByShort (net.at nib path) x = some ent →
        (net.at nib path).addressShortByRef ent.addrRef = x :=
      fun found => neighborByShort_address kin parent.member found
    rw [nextHop, treeRoutingRoute_down fits assigned target, findRouter]
    cases exact_ : neighborByShort (net.at nib path) (addressOf nib (path ++ slot :: rest)) with
    | some ent =>
      rw [Option.map_some, entry exact_, Option.some.injEq]
      constructor
      · rintro rfl
        exact ⟨by rw [exact_]; rfl, .inl rfl⟩
      · rintro ⟨-, rfl | ⟨unknown, -⟩⟩
        · rfl
        · cases unknown
    | none =>
      dsimp only
      constructor
      · intro hop
        obtain ⟨ent, route, rfl⟩ := Option.map_eq_some_iff.mp hop
        split at route
        · next i space =>
          rw [List.find?_range_eq_some] at space
          obtain ⟨holds, inside, before⟩ := space
          rw [entry route]
          refine ⟨by rw [route]; rfl, .inr ⟨rfl, i, List.mem_range.mp inside, by simpa using holds,
            fun j early => by simpa using before j early, rfl⟩⟩
        · cases route
      · rintro ⟨known, rfl | ⟨-, i, inside, space, first, rfl⟩⟩
        · rw [exact_] at known
          cases known
        · have found : (List.range nib.maxRouters).find? (fun i => decide (InAddressSpace
              (net.at nib path) (addressOf nib (path ++ slot :: rest)) i)) = some i := by
            rw [List.find?_range_eq_some]
            exact ⟨decide_eq_true space, List.mem_range.mpr inside,
              fun j before => by simpa using first j before⟩
          obtain ⟨ent, route⟩ := Option.isSome_iff_exists.mp known
          rw [found]
          dsimp only
          rw [route, Option.map_some, entry route]

/-- A frame arrives in the hops that the addresses and tables say, and in no other way. -/
theorem arrives_iff_comes (fits : Fits nib) (assigned : Assigned nib net) (kin : KnowsKin nib net)
    {source dest : List ℕ} (member : source ∈ net.members) (target : dest ∈ net.members)
    (bound : ℕ) :
    Arrives (forward nib net (addressOf nib dest)) (addressOf nib dest) bound
      (addressOf nib source) ↔ ∃ n ≤ bound, Comes nib net dest n source := by
  constructor
  · intro arrives
    induction bound generalizing source with
    | zero =>
      obtain rfl := offset_injective (assigned.valid _ member) (assigned.valid _ target) arrives
      exact ⟨0, Nat.le_refl 0, .arrived⟩
    | succ bound induction_ =>
      rcases arrives with here | ⟨addr, hop, arrives⟩
      · obtain rfl := offset_injective (assigned.valid _ member) (assigned.valid _ target) here
        exact ⟨0, Nat.zero_le _, .arrived⟩
      unfold forward at hop
      split at hop
      · next answers =>
        have router : (net.at nib source).isRouter = true := answers.2
        by_cases above : source <+: dest
        · by_cases same : source = dest
          · subst same
            exact ⟨0, Nat.zero_le _, .arrived⟩
          obtain ⟨known, rfl | ⟨unknown, i, inside, space, first, rfl⟩⟩ :=
            (nextHop_above fits assigned kin target above same).mp hop
          · exact ⟨1, Nat.succ_le_succ (Nat.zero_le _), .last above same known⟩
          · obtain ⟨place, here, lower⟩ := arrives_member arrives target
            rw [← lower] at arrives known
            obtain ⟨n, few, rest⟩ := induction_ here arrives
            exact ⟨n + 1, Nat.succ_le_succ few,
              .down above same unknown inside space first here lower known rest⟩
        · have up := nextHop_up fits assigned kin member router target above
          rw [show nextHop nib (net.device (addressOf nib source)) (addressOf nib dest) =
            some (addressOf nib source.dropLast) from up, Option.some.injEq] at hop
          subst hop
          obtain ⟨n, few, rest⟩ := induction_ (assigned.closed _ member) arrives
          exact ⟨n + 1, Nat.succ_le_succ few, .up router above rest⟩
      · cases hop
  · rintro ⟨n, few, comes⟩
    induction comes generalizing bound with
    | arrived => exact arrives_here bound
    | @up path n router elsewhere rest induction_ =>
      cases bound with
      | zero => cases few
      | succ bound =>
        refine .inr ⟨_, ?_, induction_ (assigned.closed _ member) bound (Nat.le_of_succ_le_succ few)⟩
        rw [forward_router member router, nextHop_up fits assigned kin member router target elsewhere]
    | @last path above other known =>
      cases bound with
      | zero => cases few
      | succ bound =>
        refine .inr ⟨_, ?_, arrives_here bound⟩
        rw [forward_router member (router_above assigned target above other)]
        exact (nextHop_above fits assigned kin target above other).mpr ⟨known, .inl rfl⟩
    | @down path place n i above other unknown inside space first here lower known rest induction_ =>
      cases bound with
      | zero => cases few
      | succ bound =>
        refine .inr ⟨_, ?_, induction_ here bound (Nat.le_of_succ_le_succ few)⟩
        rw [forward_router member (router_above assigned target above other)]
        exact (nextHop_above fits assigned kin target above other).mpr
          ⟨known, .inr ⟨unknown, i, inside, space, first, lower⟩⟩

/-- A frame arrives, within the depths of source and destination, if and only if the addresses and
tables say so; it does if every router that hands it down finds the child's block, and only then
when the neighbour tables hold parents and children alone; and no child is handed a frame that is
not for its block. -/
theorem tree_routing_delivers (nib : TreeParams) (fits : Fits nib) (net : TreeNetwork)
    (assigned : Assigned nib net) (kin : KnowsKin nib net) :
    (∀ source ∈ net.members, (net.at nib source).isRouter = true → ∀ dest ∈ net.members,
      (Arrives (forward nib net (addressOf nib dest)) (addressOf nib dest)
          (source.length + dest.length) (addressOf nib source) ↔
        ∃ n ≤ source.length + dest.length, Comes nib net dest n source) ∧
      (RelaysDown nib source dest → Arrives (forward nib net (addressOf nib dest))
        (addressOf nib dest) (source.length + dest.length) (addressOf nib source)) ∧
      (OnlyKin nib net → ∀ hops, Arrives (forward nib net (addressOf nib dest))
        (addressOf nib dest) hops (addressOf nib source) → RelaysDown nib source dest)) ∧
    ∀ path slot, path ++ [slot] ∈ net.members → ∀ dest,
      nextHop nib (net.at nib path) dest = some (addressOf nib (path ++ [slot])) →
      addressOf nib (path ++ [slot]) ≤ dest ∧
        dest < addressOf nib (path ++ [slot]) + (cskipTree nib).extent path.length slot := by
  refine ⟨fun source member router dest target => ⟨?_, fun relays => ?_, fun only hops arrives => ?_⟩,
    fun path slot member dest hop => nextHop_child_block fits assigned kin member hop⟩
  · exact arrives_iff_comes fits assigned kin member target _
  · exact relaysDown_arrives fits assigned kin member router target relays
  · exact arrives_relaysDown fits assigned kin only member target arrives

end

/-- Four routers in a line below the coordinator's first slot; their addresses are their
depths, and serve as references too. -/
def lineDevice (addr : ℕ) : Device :=
  let kin (ref : ℕ) : Prop := ref + 1 = addr ∨ ref = addr + 1 ∧ ref < 4
  { isRouter := true
    macShortAddress := addr
    depth := addr
    cskip := daaCalcCskip binaryTree addr
    parent := addr - 1
    addressByShort := some
    addressShortByRef := id
    addrToNeighbor ref := if kin ref then ref else 0xff
    baseNeighbor n := ⟨n⟩ }

def lineNetwork : TreeNetwork where
  members := [[], [0], [0, 0], [0, 0, 0]]
  device := lineDevice

theorem lineNetwork_assigned : Assigned binaryTree lineNetwork where
  valid := by decide +kernel
  closed := by decide +kernel
  relays := by decide +kernel
  router := by decide +kernel

theorem lineNetwork_kin : KnowsKin binaryTree lineNetwork where
  indexed path _ ref ent entry := by
    simp only [neighborByRef, TreeNetwork.at, lineNetwork, lineDevice] at entry
    grind
  short path _ addr ref known := by
    simpa [TreeNetwork.at, lineNetwork, lineDevice] using known.symm
  parent := by decide +kernel
  child := by decide +kernel

/-- The router at address 1 looks for the block of its grandchild 3 under its own
address, so the frame goes nowhere. -/
theorem tree_routing_loses_frame :
    ¬ ∀ nib, Fits nib → ∀ net, Assigned nib net → KnowsKin nib net →
      ∀ source ∈ net.members, (net.at nib source).isRouter = true → ∀ dest ∈ net.members,
        Arrives (forward nib net (addressOf nib dest)) (addressOf nib dest)
          (source.length + dest.length) (addressOf nib source) := by
  intro claim
  have arrives := claim binaryTree (by decide +kernel) lineNetwork lineNetwork_assigned
    lineNetwork_kin [] (by decide) rfl [0, 0, 0] (by decide)
  have first : forward binaryTree lineNetwork 3 0 = some 1 := by decide +kernel
  have stuck : forward binaryTree lineNetwork 3 1 = none := by decide +kernel
  have dest : addressOf binaryTree [0, 0, 0] = 3 := by decide +kernel
  have source : addressOf binaryTree [] = 0 := rfl
  rw [dest, source] at arrives
  simp [Arrives, first, stuck] at arrives

theorem tree_routing_delivers_lineNetwork :
    Arrives (forward binaryTree lineNetwork 2) 2 2 0 ∧
      Arrives (forward binaryTree lineNetwork 0) 0 3 3 := by
  obtain ⟨routes, -⟩ := tree_routing_delivers binaryTree (by decide +kernel) lineNetwork
    lineNetwork_assigned lineNetwork_kin
  constructor
  · refine (routes [] (by decide) rfl [0, 0] (by decide)).2.1 ?_
    rintro (_ | ⟨x, _ | ⟨y, path⟩⟩) slot rest split more -
    · simp only [List.nil_append, List.cons.injEq] at split
      exact ⟨0, by decide, by rw [← split.1]; rfl⟩
    · simp at split
      exact absurd split.2.2 more
    · simp at split
  · refine (routes [0, 0, 0] (by decide) rfl [] (by decide)).2.1 ?_
    intro path slot rest split
    simp at split

end Zboss.TreeRouting
