import Zboss.Nwk.NeighborIndex
import Zboss.Nwk.TreeAssign

/-!
Accepting a child on the tables themselves (`zb_nwk_accept_child`), for an association and
for a rejoin.  A device that is known with other capabilities is deleted first; the counters
of children move before the address and neighbour tables are asked for an entry; and what was
done by then stays when they have none.
-/

namespace Zboss.AcceptChild

open Zboss.AddressTable Zboss.Cells Zboss.NeighborTable
open Zboss.TreeAssign (MacCapabilityInfo)

/-- The part of the NIB that accepting a child reads and writes. -/
structure Nib where
  maxChildren : UInt8
  maxRouters : UInt8
  maxDepth : UInt8
  depth : UInt8
  cskip : ℕ
  macShortAddress : ℕ
  routerChildNum : UInt8
  edChildNum : UInt8
  securityLevel : Bool

structure Device where
  nib : Nib
  tables : Tables
  associationPermit : Bool

/-- The arguments of `zb_nwk_accept_child`.  The two `junk` values are what the compression of an
address leaves when the manufacturer table is full, in the lookup and in the update. -/
structure Request where
  deviceAddress : IeeeAddr
  capability : MacCapabilityInfo
  lqi : ℕ
  junk : IeeeAddrCompressed
  junkUpdate : IeeeAddrCompressed

/-- `zb_nwk_neighbor_get_by_ieee`. -/
def neighborGetByIeee (s : Tables) (longAddr : IeeeAddr) (junk : IeeeAddrCompressed) :
    Tables × Option ℕ :=
  match addressByIeee s.addr longAddr false false junk with
  | (addr, .ok ref) => neighborGet ⟨addr, s.neighbor⟩ ref false 0 s.neighbor
  | (addr, .error _) => (⟨addr, s.neighbor⟩, none)

/-- The capabilities are those of the entry. -/
def sameCaps (ent : NeighborTblEnt) (capability : MacCapabilityInfo) : Bool :=
  decide (ent.deviceType = .router) == capability.isRouter &&
    capability.rxOnWhenIdle == ent.rxOnWhenIdle

/-- An entry found is used again, or deleted when the capabilities differ. -/
def recognise (s : Tables) (found : Option ℕ) (capability : MacCapabilityInfo) :
    Tables × Option ℕ :=
  match found with
  | some n =>
    if sameCaps (s.neighbor.baseNeighbor n) capability then (s, some n)
    else (⟨s.addr, neighborDelete s.neighbor (s.neighbor.baseNeighbor n).addrRef⟩, none)
  | none => (s, none)

namespace Nib

/-- `ZB_NWK_ROUTER_ADDRESS_ASSIGN`. -/
def routerAddressAssign (nib : Nib) : ℕ :=
  nib.macShortAddress + nib.routerChildNum.toNat * nib.cskip + 1

/-- `ZB_NWK_ED_ADDRESS_ASSIGN`. -/
def edAddressAssign (nib : Nib) : ℕ :=
  nib.macShortAddress + nib.maxRouters.toNat * nib.cskip + nib.edChildNum.toNat + 1

/-- The room for one more child: the counters that count it, and its address. -/
def assign (nib : Nib) (capability : MacCapabilityInfo) : Option (Nib × ℕ) :=
  if nib.maxChildren.toNat > nib.edChildNum.toNat + nib.routerChildNum.toNat ∧
      nib.depth < nib.maxDepth then
    if capability.isRouter then
      if nib.routerChildNum < nib.maxRouters then
        some ({ nib with routerChildNum := nib.routerChildNum + 1 },
          if capability.allocateAddress then nib.routerAddressAssign % 2 ^ 16 else 0xfffe)
      else none
    else
      some ({ nib with edChildNum := nib.edChildNum + 1 },
        if capability.allocateAddress then nib.edAddressAssign % 2 ^ 16 else 0xfffe)
  else none

end Nib

/-- The entries of a child in the address and neighbour tables. -/
def admits (s : Tables) (deviceAddress : IeeeAddr) (addr nibDepth : ℕ) (junk : IeeeAddrCompressed)
    (overrun : NeighborTbl) : Tables × Option ℕ :=
  match addressUpdate s.addr deviceAddress addr true junk with
  | (a, .ok ref) =>
    match neighborGet ⟨a, s.neighbor⟩ ref true nibDepth overrun with
    | (s', some n) => (s', some n)
    | (s', none) => (⟨addressUnlock s'.addr ref, s'.neighbor⟩, none)
  | (a, .error _) => (⟨a, s.neighbor⟩, none)

/-- The entry of an accepted child; its depth is a field of four bits. -/
def childEnt (nib : Nib) (capability : MacCapabilityInfo) (lqi : ℕ) (ent : NeighborTblEnt) :
    NeighborTblEnt :=
  { ent with
    deviceType := if capability.isRouter then .router else .ed
    rxOnWhenIdle := capability.rxOnWhenIdle
    relationship := if nib.securityLevel then .unauthenticatedChild else .child
    depth := (nib.depth.toNat + if nib.depth < nib.maxDepth then 1 else 0) % 2 ^ 4
    permitJoining := if capability.isRouter then ent.permitJoining else 0
    lqi := lqi }

/-- `zb_nwk_accept_child` up to the entry and the address of the child. -/
def place (d : Device) (request : Request) (overrun : NeighborTbl) :
    Nib × Tables × Option (ℕ × ℕ) :=
  let (s, found) := neighborGetByIeee d.tables request.deviceAddress request.junk
  let (s, known) := recognise s found request.capability
  match known with
  | some n => (d.nib, s, some (n, addressShortByRef s.addr (s.neighbor.baseNeighbor n).addrRef))
  | none =>
    match d.nib.assign request.capability with
    | some (nib, addr) =>
      let (s, ent) := admits s request.deviceAddress addr nib.depth.toNat request.junkUpdate overrun
      (nib, s, ent.map (·, addr))
    | none => (d.nib, s, none)

/-- `zb_nwk_accept_child`: the device afterwards, and the child's address unless the status is
`MAC_OUT_OF_CAP`.  The beacon payload is left out. -/
def acceptChild (d : Device) (request : Request) (overrun : NeighborTbl) : Device × Option ℕ :=
  let (nib, s, placed) := place d request overrun
  let permit := d.associationPermit &&
    decide (nib.routerChildNum.toNat + nib.edChildNum.toNat < nib.maxChildren.toNat)
  match placed with
  | some (n, addr) =>
    let ent := childEnt nib request.capability request.lqi (s.neighbor.baseNeighbor n)
    (⟨nib, ⟨s.addr, s.neighbor.setBase n ent⟩, permit⟩, some addr)
  | none => (⟨nib, s, permit⟩, none)

/-! ## What is expected -/

/-- The entry is a child's of the given type. -/
def isChildOf (type : DeviceType) (ent : NeighborTblEnt) : Bool :=
  ent.used && (decide (ent.relationship = .child) ||
    decide (ent.relationship = .unauthenticatedChild)) && decide (ent.deviceType = type)

/-- The child entries of a type in the table. -/
def childNum (t : NeighborTbl) (type : DeviceType) : ℕ :=
  (live t.baseNeighbor neighborTableSize).countP (isChildOf type)

/-- The counters are the numbers of child entries. -/
structure Matched (d : Device) : Prop where
  routers : d.nib.routerChildNum.toNat = childNum d.tables.neighbor .router
  eds : d.nib.edChildNum.toNat = childNum d.tables.neighbor .ed

/-- The two address tables hold the same; the mark of recent use and the prefixes of
manufacturers do not count. -/
structure SameEntries (c c' : AddrGlobals) : Prop where
  entries : ∀ ref, (c'.addrMap ref).setClock true = (c.addrMap ref).setClock true
  sorted : c'.shortSorted = c.shortSorted
  nSorted : c'.nSortedElements = c.nSortedElements
  nElements : c'.nElements = c.nElements

/-- What is expected: a failure leaves the counters and the tables as they were, and a success
leaves the counters right if they were, whatever lies behind the tables. -/
structure AllOrNothing (d : Device) (request : Request) : Prop where
  failed : ∀ overrun, (acceptChild d request overrun).2 = none →
    let d' := (acceptChild d request overrun).1
    d'.nib.routerChildNum = d.nib.routerChildNum ∧ d'.nib.edChildNum = d.nib.edChildNum ∧
      d'.tables.neighbor = d.tables.neighbor ∧ SameEntries d.tables.addr d'.tables.addr
  succeeded : Consistent d.tables.neighbor → Matched d →
    ∀ overrun, (acceptChild d request overrun).2 ≠ none → Matched (acceptChild d request overrun).1

/-- The type of device that the capabilities announce. -/
def childType (capability : MacCapabilityInfo) : DeviceType :=
  if capability.isRouter then .router else .ed

/-- The entry counts as a child's. -/
def Counts (ent : NeighborTblEnt) : Prop := isChildOf .router ent = true ∨ isChildOf .ed ent = true

instance (ent : NeighborTblEnt) : Decidable (Counts ent) := inferInstanceAs (Decidable (_ ∨ _))

/-- The tables take the child: the address table has an entry for it, and so has the neighbour
table.  If the table was right, then no entry of a child is replaced, and a new entry has a place. -/
def Admitted (d : Device) (s : Tables) (found : Option ℕ) (deviceAddress : IeeeAddr) (addr : ℕ)
    (junk : IeeeAddrCompressed) : Prop :=
  match (addressUpdate s.addr deviceAddress addr true junk).2 with
  | .ok ref =>
    (s.neighbor.addrToNeighbor ref = 0xff →
      s.neighbor.baseNeighborUsed + 1 ≠ s.neighbor.baseNeighborSize) ∧
    (Consistent d.tables.neighbor → Matched d →
      (∀ n ∈ found, ¬Counts (d.tables.neighbor.baseNeighbor n)) ∧
      (if s.neighbor.addrToNeighbor ref = 0xff then
        s.neighbor.baseNeighborUsed < s.neighbor.baseNeighborSize
      else ¬Counts (s.neighbor.baseNeighbor (s.neighbor.addrToNeighbor ref))))
  | .error _ => False

/-- When the call keeps its promise. -/
def Keeps (d : Device) (request : Request) : Prop :=
  let (s, found) := neighborGetByIeee d.tables request.deviceAddress request.junk
  let (s', known) := recognise s found request.capability
  match known with
  | some n => Consistent d.tables.neighbor → Matched d →
    isChildOf (childType request.capability) (d.tables.neighbor.baseNeighbor n) = true
  | none =>
    match d.nib.assign request.capability with
    | some (_, addr) => Admitted d s' found request.deviceAddress addr request.junkUpdate
    | none => ∀ n ∈ found,
      d.tables.neighbor.addrToNeighbor (d.tables.neighbor.baseNeighbor n).addrRef = 0xff

/-! ## Counting children -/

section

variable {t : NeighborTbl} (type : DeviceType)

theorem childNum_setBase {n : ℕ} (ent : NeighborTblEnt) (inside : n < neighborTableSize) :
    childNum (t.setBase n ent) type + (if isChildOf type (t.baseNeighbor n) then 1 else 0) =
      childNum t type + if isChildOf type ent then 1 else 0 :=
  countP_live_update (isChildOf type) ent inside

theorem childNum_congr {t' : NeighborTbl} (base : t'.baseNeighbor = t.baseNeighbor) :
    childNum t' type = childNum t type := by
  rw [childNum, childNum, base]

theorem index_inside (consistent : Consistent t) {ref : ℕ}
    (present : t.addrToNeighbor ref ≠ 0xff) :
    t.addrToNeighbor ref < neighborTableSize :=
  Nat.lt_of_lt_of_le
    (consistent.below _ (deviceOf_eq_some.mp (consistent.found present)).1)
    (Nat.le_trans consistent.room consistent.size)

theorem childNum_neighborDelete (consistent : Consistent t) {ref : ℕ}
    (present : t.addrToNeighbor ref ≠ 0xff) :
    childNum (neighborDelete t ref) type +
      (if isChildOf type (t.baseNeighbor (t.addrToNeighbor ref)) then 1 else 0) =
        childNum t type := by
  have count := childNum_setBase (t := t) type (t.baseNeighbor (t.addrToNeighbor ref)).unused
    (index_inside consistent present)
  have out : isChildOf type (t.baseNeighbor (t.addrToNeighbor ref)).unused = false := rfl
  have same : childNum (neighborDelete t ref) type = childNum (t.setBase (t.addrToNeighbor ref)
      (t.baseNeighbor (t.addrToNeighbor ref)).unused) type := by
    rw [neighborDelete, if_pos present]
    exact childNum_congr type rfl
  rw [out, if_neg Bool.false_ne_true] at count
  rw [same]
  exact count

/-- A table without entries has no children. -/
theorem childNum_unused (unused : ∀ n, (t.baseNeighbor n).used = false) :
    childNum t type = 0 := by
  apply List.countP_eq_zero.mpr
  intro ent member
  obtain ⟨n, -, rfl⟩ := mem_live.mp member
  simp [isChildOf, unused n]

/-- An entry created for a device is no child's yet. -/
theorem childNum_appendBase (consistent : Consistent t) (ref nibDepth : ℕ)
    (free : t.baseNeighborUsed < t.baseNeighborSize) :
    childNum (appendBase t ref (createdEnt ref nibDepth)) type = childNum t type := by
  have unused := deviceOf_eq_none.mp (consistent.unused (Nat.le_refl t.baseNeighborUsed))
  have count := childNum_setBase (t := t) type (createdEnt ref nibDepth)
    (Nat.lt_of_lt_of_le free consistent.size)
  have before : isChildOf type (t.baseNeighbor t.baseNeighborUsed) = false := by
    rw [isChildOf, unused]
    rfl
  have created : isChildOf type (createdEnt ref nibDepth) = false := rfl
  rw [before, created] at count
  exact count

end

/-- The entry of an accepted child counts as one of its type alone. -/
theorem isChildOf_childEnt (type : DeviceType) (nib : Nib) (capability : MacCapabilityInfo)
    (lqi : ℕ) (ent : NeighborTblEnt) : isChildOf type (childEnt nib capability lqi ent) =
      (ent.used && decide (childType capability = type)) := by
  cases security : nib.securityLevel <;> cases role : capability.isRouter <;>
    simp [isChildOf, childEnt, childType, security, role]

theorem isChildOf_unique {type type' : DeviceType} {ent : NeighborTblEnt}
    (child : isChildOf type ent = true) (differs : type' ≠ type) : isChildOf type' ent = false := by
  simp only [isChildOf, Bool.and_eq_true, decide_eq_true_eq] at child
  simp only [isChildOf, Bool.and_eq_false_iff, decide_eq_false_iff_not]
  exact .inr fun same => differs (same.symm.trans child.2)

theorem not_counts {ent : NeighborTblEnt} :
    ¬Counts ent ↔ isChildOf .router ent = false ∧ isChildOf .ed ent = false := by
  simp [Counts]

/-! ## The lookup -/

theorem SameEntries.refl (c : AddrGlobals) : SameEntries c c := ⟨fun _ => rfl, rfl, rfl, rfl⟩

/-- A lookup marks what it finds, and registers prefixes. -/
theorem addressByIeee_sameEntries (c : AddrGlobals) (ieee : IeeeAddr) (junk : IeeeAddrCompressed) :
    SameEntries c (addressByIeee c ieee false false junk).1 := by
  have compressed : SameEntries c (ieeeAddrCompress c ieee junk).1 := by
    unfold ieeeAddrCompress
    split
    · exact ⟨fun _ => rfl, rfl, rfl, rfl⟩
    · exact .refl c
  unfold addressByIeee
  dsimp only
  split
  · next ref found =>
    refine ⟨fun other => ?_, compressed.sorted, compressed.nSorted, compressed.nElements⟩
    rw [← compressed.entries other]
    by_cases same : other = ref
    · simp [lockResult, touch, same, AddressMap.setClock]
    · simp [lockResult, touch, same]
  · exact compressed

/-- What the lookup of a neighbour finds and changes. -/
theorem neighborGetByIeee_spec {s s' : Tables} {ieee : IeeeAddr} {junk : IeeeAddrCompressed}
    {found : Option ℕ} (look : neighborGetByIeee s ieee junk = (s', found)) :
    s'.neighbor = s.neighbor ∧ SameEntries s.addr s'.addr ∧
      ∀ n ∈ found, ∃ ref, s.neighbor.addrToNeighbor ref = n ∧ n ≠ 0xff := by
  have same := addressByIeee_sameEntries s.addr ieee junk
  unfold neighborGetByIeee at look
  cases result : addressByIeee s.addr ieee false false junk with
  | mk addr answer =>
    rw [result] at look same
    cases answer with
    | error e =>
      obtain ⟨rfl, rfl⟩ := Prod.mk.inj look
      exact ⟨rfl, same, fun n absurd_ => nomatch absurd_⟩
    | ok ref =>
      unfold neighborGet at look
      dsimp only at look
      split at look
      · next present =>
        obtain ⟨rfl, rfl⟩ := Prod.mk.inj look
        refine ⟨rfl, same, ?_⟩
        rintro n ⟨⟩
        exact ⟨ref, rfl, present⟩
      · obtain ⟨rfl, rfl⟩ := Prod.mk.inj look
        exact ⟨rfl, same, fun n absurd_ => nomatch absurd_⟩

/-- With the same counters right before and after, the children of the type are as many. -/
theorem matched_childNum {d d' : Device} (after : Matched d') (before : Matched d)
    (same : d'.nib = d.nib) (capability : MacCapabilityInfo) :
    childNum d'.tables.neighbor (childType capability) =
      childNum d.tables.neighbor (childType capability) := by
  unfold childType
  split
  · rw [← after.routers, ← before.routers, same]
  · rw [← after.eds, ← before.eds, same]

/-! ## The three outcomes -/

section

variable {d : Device} {request : Request} {s : Tables}

/-- A device recognised is a child of its type already, or it is not counted. -/
theorem known_iff {n : ℕ}
    (look : neighborGetByIeee d.tables request.deviceAddress request.junk = (s, some n))
    (same : sameCaps (s.neighbor.baseNeighbor n) request.capability = true) :
    AllOrNothing d request ↔ Keeps d request := by
  obtain ⟨table, -, index⟩ := neighborGetByIeee_spec look
  obtain ⟨ref, leads, present⟩ := index n rfl
  obtain ⟨addr, permit, accepted⟩ : ∃ addr permit, ∀ overrun, acceptChild d request overrun =
      (⟨d.nib, ⟨s.addr, s.neighbor.setBase n (childEnt d.nib request.capability request.lqi
        (s.neighbor.baseNeighbor n))⟩, permit⟩, some addr) :=
    ⟨_, _, fun overrun => by simp only [acceptChild, place, look, recognise, same, if_true]; rfl⟩
  have keeps : Keeps d request ↔ (Consistent d.tables.neighbor → Matched d →
      isChildOf (childType request.capability) (d.tables.neighbor.baseNeighbor n) = true) := by
    simp only [Keeps, look, recognise, same, if_true]
  have counted : Consistent d.tables.neighbor → ∀ type,
      childNum (s.neighbor.setBase n (childEnt d.nib request.capability request.lqi
          (s.neighbor.baseNeighbor n))) type +
        (if isChildOf type (d.tables.neighbor.baseNeighbor n) then 1 else 0) =
      childNum d.tables.neighbor type + if childType request.capability = type then 1 else 0 := by
    intro consistent type
    subst leads
    have used := (deviceOf_eq_some.mp (consistent.found present)).1
    have count := childNum_setBase (t := s.neighbor) type (childEnt d.nib request.capability
      request.lqi (s.neighbor.baseNeighbor (d.tables.neighbor.addrToNeighbor ref)))
      (index_inside consistent present)
    rw [isChildOf_childEnt, table, used, Bool.true_and] at count
    rw [table, count]
    simp only [decide_eq_true_eq]
  rw [keeps]
  constructor
  · intro kept consistent matched
    have after := kept.succeeded consistent matched .init (by simp [accepted])
    rw [accepted] at after
    have unchanged := matched_childNum after matched rfl request.capability
    have count := counted consistent (childType request.capability)
    rw [if_pos rfl] at count
    by_contra other
    rw [if_neg other] at count
    change childNum (s.neighbor.setBase n _) _ = _ at unchanged
    omega
  · intro child
    refine ⟨fun overrun nothing => by simp [accepted] at nothing, ?_⟩
    intro consistent matched overrun _
    rw [accepted]
    have old := child consistent matched
    have unchanged : ∀ type, childNum (s.neighbor.setBase n (childEnt d.nib request.capability
        request.lqi (s.neighbor.baseNeighbor n))) type = childNum d.tables.neighbor type := by
      intro type
      have count := counted consistent type
      by_cases own : childType request.capability = type
      · rw [← own, old, if_pos rfl, if_pos rfl] at count
        rw [← own]
        omega
      · rw [isChildOf_unique old fun same => own same.symm, if_neg own] at count
        exact count
    exact ⟨matched.routers.trans (unchanged _).symm, matched.eds.trans (unchanged _).symm⟩

/-- A device not recognised leaves the tables of the lookup, less an entry of its own. -/
theorem recognise_unknown {s s' : Tables} {found : Option ℕ} {capability : MacCapabilityInfo}
    (unknown : recognise s found capability = (s', none)) : s'.addr = s.addr ∧
      (found = none ∧ s'.neighbor = s.neighbor ∨ ∃ n, found = some n ∧
        s'.neighbor = neighborDelete s.neighbor (s.neighbor.baseNeighbor n).addrRef) := by
  unfold recognise at unknown
  cases found with
  | none =>
    obtain ⟨rfl, -⟩ := Prod.mk.inj unknown
    exact ⟨rfl, .inl ⟨rfl, rfl⟩⟩
  | some n =>
    dsimp only at unknown
    split at unknown
    · exact nomatch (Prod.mk.inj unknown).2
    · obtain ⟨rfl, -⟩ := Prod.mk.inj unknown
      exact ⟨rfl, .inr ⟨n, rfl, rfl⟩⟩

/-- Without room a failure deletes nothing, or it is no longer harmless. -/
theorem full_iff {s' : Tables} {found : Option ℕ}
    (look : neighborGetByIeee d.tables request.deviceAddress request.junk = (s, found))
    (unknown : recognise s found request.capability = (s', none))
    (full : d.nib.assign request.capability = none) : AllOrNothing d request ↔ Keeps d request := by
  obtain ⟨table, entries, -⟩ := neighborGetByIeee_spec look
  obtain ⟨addr, cases_⟩ := recognise_unknown unknown
  obtain ⟨permit, refused⟩ : ∃ permit, ∀ overrun, acceptChild d request overrun =
      (⟨d.nib, s', permit⟩, none) :=
    ⟨_, fun overrun => by simp only [acceptChild, place, look, unknown, full]; rfl⟩
  have keeps : Keeps d request ↔ ∀ n ∈ found,
      d.tables.neighbor.addrToNeighbor (d.tables.neighbor.baseNeighbor n).addrRef = 0xff := by
    simp only [Keeps, look, unknown, full]
  rw [keeps]
  constructor
  · rintro kept n ⟨⟩
    have after := (kept.failed .init (by rw [refused])).2.2.1
    rw [refused] at after
    rcases cases_ with ⟨none_, -⟩ | ⟨m, same, deleted⟩
    · exact nomatch none_
    · obtain rfl := Option.some.inj same
      by_contra present
      apply present
      rw [table] at deleted
      have cleared : s'.neighbor.addrToNeighbor (d.tables.neighbor.baseNeighbor n).addrRef =
          0xff := by
        rw [deleted, neighborDelete, if_pos present]
        simp
      rw [after] at cleared
      exact cleared
  · intro nothing
    have same : s'.neighbor = d.tables.neighbor := by
      rcases cases_ with ⟨-, same⟩ | ⟨n, here, deleted⟩
      · exact same.trans table
      · rw [deleted, table, neighborDelete]
        exact if_neg (not_not.mpr (nothing n here))
    refine ⟨fun overrun _ => ?_, fun _ _ overrun accepted => absurd (by rw [refused]) accepted⟩
    rw [refused]
    exact ⟨rfl, rfl, same, addr ▸ entries⟩

/-- The counters after the room is found. -/
theorem assign_counters {nib nib' : Nib} {capability : MacCapabilityInfo} {addr : ℕ}
    (room : nib.assign capability = some (nib', addr)) :
    nib'.routerChildNum.toNat =
      nib.routerChildNum.toNat + (if childType capability = .router then 1 else 0) ∧
    nib'.edChildNum.toNat =
      nib.edChildNum.toNat + if childType capability = .ed then 1 else 0 := by
  have small := nib.maxChildren.toNat_lt
  unfold Nib.assign at room
  split at room
  · next some_ =>
    obtain ⟨children, -⟩ := some_
    split at room
    · next router =>
      split at room
      · obtain ⟨rfl, -⟩ := Prod.mk.inj (Option.some.inj room)
        simp only [childType, router, if_true, reduceCtorEq, if_false, UInt8.toNat_add]
        exact ⟨Nat.mod_eq_of_lt (by simp; omega), rfl⟩
      · exact nomatch room
    · next ed =>
      obtain ⟨rfl, -⟩ := Prod.mk.inj (Option.some.inj room)
      simp only [childType, ed, if_true, reduceCtorEq, if_false, UInt8.toNat_add]
      exact ⟨rfl, Nat.mod_eq_of_lt (by simp; omega)⟩
  · exact nomatch room

/-- Counters that moved by one and a table that lost children match when it lost none. -/
theorem matched_iff {d d' : Device} (matched : Matched d) {capability : MacCapabilityInfo}
    {addr : ℕ} (room : d.nib.assign capability = some (d'.nib, addr)) (lost : DeviceType → ℕ)
    (count : ∀ type, childNum d'.tables.neighbor type + lost type =
      childNum d.tables.neighbor type + if childType capability = type then 1 else 0) :
    Matched d' ↔ lost .router = 0 ∧ lost .ed = 0 := by
  obtain ⟨routers, eds⟩ := assign_counters room
  have router := count .router
  have ed := count .ed
  have routers' := matched.routers
  have eds' := matched.eds
  constructor
  · rintro ⟨afterRouters, afterEds⟩
    omega
  · rintro ⟨noRouter, noEd⟩
    constructor <;> omega

/-- The children of a type that are deleted with the entry found. -/
def gone (t : NeighborTbl) (found : Option ℕ) (type : DeviceType) : ℕ :=
  found.toList.countP fun n => isChildOf type (t.baseNeighbor n)

theorem gone_eq_zero {t : NeighborTbl} {found : Option ℕ} :
    (∀ n ∈ found, ¬Counts (t.baseNeighbor n)) ↔ gone t found .router = 0 ∧ gone t found .ed = 0 := by
  cases found with
  | none => simp [gone]
  | some n => simp [gone, not_counts]

/-- The table after the deletion, and its children. -/
theorem unknown_childNum (consistent : Consistent d.tables.neighbor) {s' : Tables}
    {found : Option ℕ}
    (look : neighborGetByIeee d.tables request.deviceAddress request.junk = (s, found))
    (unknown : recognise s found request.capability = (s', none)) :
    Consistent s'.neighbor ∧ ∀ type,
      childNum s'.neighbor type + gone d.tables.neighbor found type =
        childNum d.tables.neighbor type := by
  obtain ⟨table, -, index⟩ := neighborGetByIeee_spec look
  rcases (recognise_unknown unknown).2 with ⟨rfl, same⟩ | ⟨n, rfl, deleted⟩
  · rw [same, table]
    exact ⟨consistent, fun type => rfl⟩
  · obtain ⟨ref, rfl, present⟩ := index n rfl
    have own := (deviceOf_eq_some.mp (consistent.found present)).2
    rw [table, own] at deleted
    rw [deleted]
    refine ⟨consistent.neighborDelete ref, fun type => ?_⟩
    simpa [gone, List.countP_singleton] using childNum_neighborDelete type consistent present

/-- What the two tables do with a new child. -/
theorem admit_cases (s : Tables) (deviceAddress : IeeeAddr) (addr nibDepth : ℕ)
    (junk : IeeeAddrCompressed) (overrun : NeighborTbl) :
    let admitted := admits s deviceAddress addr nibDepth junk overrun
    match (addressUpdate s.addr deviceAddress addr true junk).2 with
    | .error _ => admitted.2 = none
    | .ok ref =>
      if s.neighbor.addrToNeighbor ref = 0xff then
        if s.neighbor.baseNeighborUsed + 1 = s.neighbor.baseNeighborSize then admitted.2 = none
        else admitted.2 = some s.neighbor.baseNeighborUsed ∧ admitted.1.neighbor =
          if s.neighbor.baseNeighborUsed < s.neighbor.baseNeighborSize
          then appendBase s.neighbor ref (createdEnt ref nibDepth) else overrun
      else admitted.2 = some (s.neighbor.addrToNeighbor ref) ∧
        admitted.1.neighbor = s.neighbor := by
  unfold admits
  cases addressUpdate s.addr deviceAddress addr true junk with
  | mk a result =>
    cases result with
    | error e => rfl
    | ok ref =>
      unfold neighborGet
      by_cases absent : s.neighbor.addrToNeighbor ref = 0xff
      · by_cases full : s.neighbor.baseNeighborUsed + 1 = s.neighbor.baseNeighborSize
        · simp [absent, full]
        · simp [absent, full]
      · simp [absent]

theorem childNum_accepted {t : NeighborTbl} {n : ℕ} (nib : Nib) (capability : MacCapabilityInfo)
    (lqi : ℕ) (inside : n < neighborTableSize) (used : (t.baseNeighbor n).used = true)
    (type : DeviceType) :
    childNum (t.setBase n (childEnt nib capability lqi (t.baseNeighbor n))) type +
      (if isChildOf type (t.baseNeighbor n) then 1 else 0) =
        childNum t type + if childType capability = type then 1 else 0 := by
  have count := childNum_setBase (t := t) type (childEnt nib capability lqi (t.baseNeighbor n))
    inside
  rw [isChildOf_childEnt, used, Bool.true_and] at count
  simpa only [decide_eq_true_eq] using count

/-- Where every call succeeds, the counters decide. -/
theorem allOrNothing_iff_of_accepted {addr : ℕ}
    (accepted : ∀ overrun, (acceptChild d request overrun).2 = some addr) :
    AllOrNothing d request ↔ (Consistent d.tables.neighbor → Matched d →
      ∀ overrun, Matched (acceptChild d request overrun).1) := by
  constructor
  · intro kept consistent matched overrun
    exact kept.succeeded consistent matched overrun (by simp [accepted])
  · intro matches_
    refine ⟨fun overrun refused => ?_, fun consistent matched overrun _ =>
      matches_ consistent matched overrun⟩
    exact absurd ((accepted overrun).symm.trans refused) (Option.some_ne_none addr)

variable {s' : Tables} {found : Option ℕ} {nib : Nib} {addr : ℕ}
  (look : neighborGetByIeee d.tables request.deviceAddress request.junk = (s, found))
  (unknown : recognise s found request.capability = (s', none))
  (room : d.nib.assign request.capability = some (nib, addr))

include look unknown room

/-- A child that the counters count and the tables do not take. -/
theorem not_allOrNothing_of_refused
    (refused : (admits s' request.deviceAddress addr nib.depth.toNat request.junkUpdate .init).2 =
      none) : ¬AllOrNothing d request := by
  intro kept
  obtain ⟨routers, eds⟩ := assign_counters room
  have status : (acceptChild d request .init).2 = none := by
    simp [acceptChild, place, look, unknown, room, refused]
  have counters : (acceptChild d request .init).1.nib = nib := by
    simp [acceptChild, place, look, unknown, room, refused]
  obtain ⟨sameRouters, sameEds, -⟩ := kept.failed .init status
  rw [counters] at sameRouters sameEds
  rw [sameRouters] at routers
  rw [sameEds] at eds
  cases role : request.capability.isRouter <;> simp [childType, role] at routers eds

/-- A child that the tables take. -/
theorem acceptChild_admitted {n : ℕ} {overrun : NeighborTbl}
    (taken : (admits s' request.deviceAddress addr nib.depth.toNat request.junkUpdate overrun).2 =
      some n) :
    let t := (admits s' request.deviceAddress addr nib.depth.toNat request.junkUpdate
      overrun).1.neighbor
    (acceptChild d request overrun).2 = some addr ∧ (acceptChild d request overrun).1.nib = nib ∧
      (acceptChild d request overrun).1.tables.neighbor =
        t.setBase n (childEnt nib request.capability request.lqi (t.baseNeighbor n)) := by
  simp [acceptChild, place, look, unknown, room, taken]

/-- The neighbour table has an entry for the address already. -/
theorem room_present_iff {ref : ℕ}
    (present : s'.neighbor.addrToNeighbor ref ≠ 0xff)
    (admits : ∀ overrun,
      (admits s' request.deviceAddress addr nib.depth.toNat request.junkUpdate overrun).2 =
        some (s'.neighbor.addrToNeighbor ref) ∧
      (admits s' request.deviceAddress addr nib.depth.toNat request.junkUpdate overrun).1.neighbor =
        s'.neighbor) :
    AllOrNothing d request ↔ (Consistent d.tables.neighbor → Matched d →
      (∀ n ∈ found, ¬Counts (d.tables.neighbor.baseNeighbor n)) ∧
        ¬Counts (s'.neighbor.baseNeighbor (s'.neighbor.addrToNeighbor ref))) := by
  have accepted := fun overrun => acceptChild_admitted look unknown room (admits overrun).1
  have matches_ : Consistent d.tables.neighbor → Matched d → ∀ overrun,
      (Matched (acceptChild d request overrun).1 ↔
        (∀ n ∈ found, ¬Counts (d.tables.neighbor.baseNeighbor n)) ∧
          ¬Counts (s'.neighbor.baseNeighbor (s'.neighbor.addrToNeighbor ref))) := by
    intro consistent matched overrun
    obtain ⟨-, counters, table⟩ := accepted overrun
    obtain ⟨after, count⟩ := unknown_childNum consistent look unknown
    rw [(admits overrun).2] at table
    have inside := index_inside after present
    have used := (deviceOf_eq_some.mp (after.found present)).1
    rw [matched_iff matched (counters ▸ room) (fun type =>
      gone d.tables.neighbor found type + if isChildOf type
        (s'.neighbor.baseNeighbor (s'.neighbor.addrToNeighbor ref)) then 1 else 0) fun type => by
        have taken := childNum_accepted nib request.capability request.lqi inside used type
        have before := count type
        rw [table]
        omega, gone_eq_zero, not_counts]
    simp only [Nat.add_eq_zero_iff, ite_eq_right_iff, one_ne_zero, imp_false, Bool.not_eq_true]
    exact and_and_and_comm
  rw [allOrNothing_iff_of_accepted fun overrun => (accepted overrun).1]
  constructor
  · intro kept consistent matched
    exact (matches_ consistent matched .init).mp (kept consistent matched .init)
  · intro free consistent matched overrun
    exact (matches_ consistent matched overrun).mpr (free consistent matched)

/-- A new entry is made for the child. -/
theorem room_absent_iff {ref : ℕ}
    (admits : ∀ overrun,
      (admits s' request.deviceAddress addr nib.depth.toNat request.junkUpdate overrun).2 =
        some s'.neighbor.baseNeighborUsed ∧
      (admits s' request.deviceAddress addr nib.depth.toNat request.junkUpdate overrun).1.neighbor =
        if s'.neighbor.baseNeighborUsed < s'.neighbor.baseNeighborSize
        then appendBase s'.neighbor ref (createdEnt ref nib.depth.toNat) else overrun) :
    AllOrNothing d request ↔ (Consistent d.tables.neighbor → Matched d →
      (∀ n ∈ found, ¬Counts (d.tables.neighbor.baseNeighbor n)) ∧
        s'.neighbor.baseNeighborUsed < s'.neighbor.baseNeighborSize) := by
  have accepted := fun overrun => acceptChild_admitted look unknown room (admits overrun).1
  rw [allOrNothing_iff_of_accepted fun overrun => (accepted overrun).1]
  by_cases free : s'.neighbor.baseNeighborUsed < s'.neighbor.baseNeighborSize
  · have matches_ : Consistent d.tables.neighbor → Matched d → ∀ overrun,
        (Matched (acceptChild d request overrun).1 ↔
          ∀ n ∈ found, ¬Counts (d.tables.neighbor.baseNeighbor n)) := by
      intro consistent matched overrun
      obtain ⟨-, counters, table⟩ := accepted overrun
      obtain ⟨after, count⟩ := unknown_childNum consistent look unknown
      rw [(admits overrun).2, if_pos free] at table
      have inside := Nat.lt_of_lt_of_le free after.size
      have created : (appendBase s'.neighbor ref (createdEnt ref nib.depth.toNat)).baseNeighbor
          s'.neighbor.baseNeighborUsed = createdEnt ref nib.depth.toNat := by simp [appendBase]
      rw [matched_iff matched (counters ▸ room) (gone d.tables.neighbor found)
        fun type => by
          have taken := childNum_accepted nib request.capability request.lqi inside
            (congrArg NeighborTblEnt.used created) type
          have new : isChildOf type (createdEnt ref nib.depth.toNat) = false := rfl
          have appended := childNum_appendBase type after ref nib.depth.toNat free
          have before := count type
          rw [created, new, if_neg Bool.false_ne_true] at taken
          rw [table, created]
          omega, gone_eq_zero]
    constructor
    · intro kept consistent matched
      exact ⟨(matches_ consistent matched .init).mp (kept consistent matched .init), free⟩
    · intro none_ consistent matched overrun
      exact (matches_ consistent matched overrun).mpr (none_ consistent matched).1
  · constructor
    · intro kept consistent matched
      have after := kept consistent matched .init
      obtain ⟨routers, eds⟩ := assign_counters room
      obtain ⟨-, counters, table⟩ := accepted .init
      rw [(admits .init).2, if_neg free] at table
      have none_ : ∀ type, childNum (acceptChild d request .init).1.tables.neighbor type = 0 := by
        intro type
        rw [table]
        apply childNum_unused
        intro n
        by_cases last : n = s'.neighbor.baseNeighborUsed
        · simp [last, childEnt, NeighborTbl.init, NeighborTblEnt.zero]
        · simp [last, NeighborTbl.init, NeighborTblEnt.zero]
      have noRouter := after.routers
      have noEd := after.eds
      rw [counters, none_] at noRouter noEd
      cases role : request.capability.isRouter with
      | true =>
        rw [childType, if_pos role, if_pos rfl] at routers
        omega
      | false =>
        rw [childType, if_neg (ne_true_of_eq_false role), if_pos rfl] at eds
        omega
    · intro room_ consistent matched
      exact absurd (room_ consistent matched).2 free

/-- With room, the call keeps its promise when the tables take the child without replacing
another. -/
theorem room_iff : AllOrNothing d request ↔ Keeps d request := by
  have keeps : Keeps d request ↔
      Admitted d s' found request.deviceAddress addr request.junkUpdate := by
    simp only [Keeps, look, unknown, room]
  rw [keeps]
  unfold Admitted
  have admits := admit_cases s' request.deviceAddress addr nib.depth.toNat request.junkUpdate
  cases answer : (addressUpdate s'.addr request.deviceAddress addr true request.junkUpdate).2 with
  | error e =>
    simp only [answer] at admits ⊢
    exact iff_of_false (not_allOrNothing_of_refused look unknown room (admits .init)) id
  | ok ref =>
    simp only [answer] at admits ⊢
    by_cases absent : s'.neighbor.addrToNeighbor ref = 0xff
    · simp only [absent, if_true, forall_const] at admits ⊢
      by_cases full : s'.neighbor.baseNeighborUsed + 1 = s'.neighbor.baseNeighborSize
      · simp only [full, if_true] at admits
        exact iff_of_false (not_allOrNothing_of_refused look unknown room (admits .init))
          fun absurd_ => absurd_.1 full
      · simp only [full, if_false] at admits
        rw [room_absent_iff look unknown room admits, and_iff_right full]
    · simp only [absent, if_false, false_implies, true_and] at admits ⊢
      exact room_present_iff look unknown room absent admits

end

/-- A call is all or nothing exactly when it meets the condition. -/
theorem all_or_nothing_iff (d : Device) (request : Request) :
    AllOrNothing d request ↔ Keeps d request := by
  cases look : neighborGetByIeee d.tables request.deviceAddress request.junk with
  | mk s found =>
    cases unknown : recognise s found request.capability with
    | mk s' known =>
      cases known with
      | some n =>
        have recognised : found = some n ∧
            sameCaps (s.neighbor.baseNeighbor n) request.capability = true := by
          unfold recognise at unknown
          cases found with
          | none => exact nomatch (Prod.mk.inj unknown).2
          | some m =>
            dsimp only at unknown
            split at unknown
            · next same =>
              obtain rfl := Option.some.inj (Prod.mk.inj unknown).2
              exact ⟨rfl, same⟩
            · exact nomatch (Prod.mk.inj unknown).2
        obtain ⟨rfl, same⟩ := recognised
        exact known_iff look same
      | none =>
        cases room : d.nib.assign request.capability with
        | none => exact full_iff look unknown room
        | some found_ =>
          obtain ⟨nib, addr⟩ := found_
          exact room_iff look unknown room

/-- A coordinator with room for children, and a neighbour table that refuses new entries. -/
def fullTable : Device where
  nib := ⟨32, 4, 5, 0, 0, 0, 0, 0, true⟩
  tables := ⟨.zero, NeighborTbl.init.setBaseUsed 31⟩
  associationPermit := true

/-- An end device that asks to join. -/
def joiningEd : Request := ⟨⟨⟨1, 2, 3⟩, ⟨4, 5, 6, 7, 8⟩⟩, ⟨false, true, true⟩, 200, .zero, .zero⟩

/-- The refused device counts as a child. -/
theorem refused_child_counted : ¬∀ d request, AllOrNothing d request := by
  intro claim
  have failed := (claim fullTable joiningEd).failed .init (by decide +kernel)
  exact absurd failed.2.1 (by decide +kernel)

end Zboss.AcceptChild
