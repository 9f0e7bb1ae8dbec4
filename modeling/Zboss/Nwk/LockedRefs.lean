import Zboss.Aps.BindingTable
import Zboss.Common.AddressLocks
import Zboss.Nwk.AcceptChild
import Zboss.Nwk.NeighborSlots

/-!
References to the translation table.  The neighbour table and the binding table hold references
to address entries, and an entry is to be locked once for each of them.  Only
`zb_nwk_neighbor_get` does so: bindings are made and neighbours promoted without a lock, nothing
that drops a reference unlocks, and several lookups lock what no table holds.
-/

namespace Zboss.LockedRefs

open Zboss.AddressTable Zboss.Binding Zboss.Cells Zboss.NeighborTable Zboss.Run
open Zboss.AcceptChild (admits)

/-! ## The three tables -/

/-- The address, neighbour and binding tables. -/
structure Stack where
  tables : NeighborTable.Tables
  binding : BindingTable

/-- The tables of a device that has just started. -/
def Stack.init : Stack := ⟨⟨.zero, .init⟩, .zero⟩

/-- The base entries in use that hold a reference. -/
def neighborHolders (t : NeighborTbl) (ref : ℕ) : ℕ :=
  (usedEnts t).countP fun ent => decide (ent.addrRef = ref)

/-- The destination is a device with the reference. -/
def holdsDst (ref : ℕ) (dst : BindDst) : Bool :=
  match dst.addr with
  | .long dstAddr _ => decide (dstAddr = ref)
  | .group _ => false

/-- The records of the binding table that hold a reference. -/
def bindingHolders (t : BindingTable) (ref : ℕ) : ℕ :=
  (live t.srcTable t.srcNElements).countP (fun src => decide (src.srcAddr = ref)) +
    (live t.dstTable t.dstNElements).countP (holdsDst ref)

/-- The entries of the two tables that hold a reference. -/
def holders (w : Stack) (ref : ℕ) : ℕ :=
  neighborHolders w.tables.neighbor ref + bindingHolders w.binding ref

/-! ## Events -/

/-- The long address that a rejoin has for its parent: the one the extended entry has, or one
known for its short address, which the extended entry gets then. -/
def parentAddr (s : NeighborTable.Tables) (i : ℕ) (junk : IeeeAddrCompressed)
    (overrun : NeighborTbl) : NeighborTable.Tables × IeeeAddr :=
  let ext := s.neighbor.extNeighbor i
  let ieee := addressDecompress s.addr ext.longAddr
  if ieee = .zero then
    match addressByShort s.addr ext.shortAddr false false with
    | (c, .ok ref) =>
      let ieee := addressIeeeByRef c ref
      let (c, longAddr) := ieeeAddrCompress c ieee junk
      (⟨c, if linuxSizes.ExtApart s.neighbor then s.neighbor.setExt i { ext with longAddr }
        else overrun⟩, ieee)
    | (c, .error _) => (⟨c, s.neighbor⟩, ieee)
  else (s, ieee)

/-- The end of `zb_nlme_rejoin_scan_confirm`, where a parent has been chosen: its address is
entered and locked, and a temporary base entry is made. -/
def chooseParent (s : NeighborTable.Tables) (i : ℕ) (junk junkUpdate junkTmp : IeeeAddrCompressed)
    (junkRef : ℕ) (overrun : NeighborTbl) : NeighborTable.Tables :=
  let (s, ieee) := parentAddr s i junk overrun
  let ext := s.neighbor.extNeighbor i
  let (c, _) := addressUpdate s.addr ieee ext.shortAddr true junkUpdate
  neighborExtToBaseTmp ⟨c, s.neighbor⟩ ext junkTmp junkRef

/-- What the stack does with the tables.  `junk` and `overrun` are what the memory holds where
the code has not written, or has written behind a table, and `left` what extended entries leave in
the array. -/
inductive Op
  | address (op : AddressTable.Op)
  | neighborGet (ref : ℕ) (createIfAbsent : Bool) (nibDepth : ℕ) (overrun : NeighborTbl)
  | neighborDelete (ref : ℕ)
  | exneighborStart
  | exneighborByShort (panidRef shortAddr : ℕ) (beacon : Beacon) (overrun : NeighborTbl)
  | exneighborByIeee (panidRef : ℕ) (longAddr : IeeeAddr) (beacon : Beacon)
      (junk : IeeeAddrCompressed) (overrun : NeighborTbl)
  | exneighborStop (joined : Bool) (myPanidRef : ℕ) (junk : ℕ → IeeeAddrCompressed)
      (left : ℕ → NeighborTblEnt)
  | acceptChild (deviceAddress : IeeeAddr) (addr nibDepth : ℕ) (junk : IeeeAddrCompressed)
      (overrun : NeighborTbl)
  | chooseParent (i : ℕ) (junk junkUpdate junkTmp : IeeeAddrCompressed) (junkRef : ℕ)
      (overrun : NeighborTbl)
  | bind (req : BindingReq) (junk junk' : IeeeAddrCompressed)
  | unbind (req : BindingReq) (junk junk' : IeeeAddrCompressed) (overrun : BindingTable)

/-- The binding request or its removal, with the status it ends with. -/
def bound (w : Stack) (result : Binding.Tables × Status) : Stack :=
  ⟨⟨result.1.addr, w.tables.neighbor⟩, result.1.binding⟩

/-- The tables after an event. -/
def step (w : Stack) : Op → Stack
  | .address op => { w with tables := ⟨AddressTable.step w.tables.addr op, w.tables.neighbor⟩ }
  | .neighborGet ref createIfAbsent nibDepth overrun =>
    { w with tables := (neighborGet w.tables ref createIfAbsent nibDepth overrun).1 }
  | .neighborDelete ref =>
    { w with tables := ⟨w.tables.addr, neighborDelete w.tables.neighbor ref⟩ }
  | .exneighborStart =>
    { w with tables := ⟨w.tables.addr, linuxSizes.exneighborStart w.tables.neighbor⟩ }
  | .exneighborByShort panidRef shortAddr beacon overrun =>
    { w with tables := ⟨w.tables.addr,
      linuxSizes.exneighborByShort w.tables.neighbor panidRef shortAddr beacon overrun⟩ }
  | .exneighborByIeee panidRef longAddr beacon junk overrun =>
    { w with tables := linuxSizes.exneighborByIeee w.tables panidRef longAddr beacon junk overrun }
  | .exneighborStop joined myPanidRef junk left =>
    { w with tables := linuxSizes.exneighborStop w.tables joined myPanidRef junk left }
  | .acceptChild deviceAddress addr nibDepth junk overrun =>
    { w with tables := (admits w.tables deviceAddress addr nibDepth junk overrun).1 }
  | .chooseParent i junk junkUpdate junkTmp junkRef overrun =>
    { w with tables := chooseParent w.tables i junk junkUpdate junkTmp junkRef overrun }
  | .bind req junk junk' => bound w (bindRequest ⟨w.tables.addr, w.binding⟩ req junk junk')
  | .unbind req junk junk' overrun =>
    bound w (unbindRequest ⟨w.tables.addr, w.binding⟩ req junk junk' overrun)

/-! ## What is expected -/

/-- Every entry is locked once for each reference to it that is held. -/
def Locked (w : Stack) : Prop :=
  ∀ ref, (w.tables.addr.addrMap ref).lockCnt = holders w ref

/-- No lookup locks what it finds, no locked entry is deleted, and no update gives one to
another device. -/
def BalancedAddress (c : AddrGlobals) : AddressTable.Op → Prop
  | .byIeee ieee create lock junk => lock = true → Fails (addressByIeee c ieee create lock junk).2
  | .byShort shortAddress create lock =>
    lock = true → Fails (addressByShort c shortAddress create lock).2
  | .update ieee shortAddress lock junk =>
    (lock = true → Fails (addressUpdate c ieee shortAddress lock junk).2) ∧
      UpdateSuits c ieee shortAddress junk
  | .delete ref => (c.addrMap ref).lockCnt = 0

/-- The lookup has a base entry for what it finds, or there is no room for one. -/
def PromotesNone (t : NeighborTbl) : Except RetError ℕ → Prop
  | .ok ref => t.addrToNeighbor ref ≠ 0xff ∨ t.baseNeighborSize ≤ t.baseNeighborUsed
  | .error _ => True

/-- The turn of `zb_nwk_exneighbor_stop` promotes no device that has no base entry, and gives no
locked entry to another device. -/
def BalancedTurn (myPanidRef : ℕ) (junk : ℕ → IeeeAddrCompressed) (s : NeighborTable.Tables)
    (i : ℕ) : Prop :=
  let ext := s.neighbor.extNeighbor i
  ext.panidRef = myPanidRef →
    (ext.shortAddr ≠ 0xffff → ext.longAddr ≠ .zero →
      UpdateSuits s.addr (addressDecompress s.addr ext.longAddr) ext.shortAddr (junk i)) ∧
    PromotesNone s.neighbor (extAddress s.addr ext (junk i)).2

/-- An entry that is locked here is in use, has no base entry yet and gets one in its place. -/
def Temporary (s : NeighborTable.Tables) (ref : ℕ) (longAddr : IeeeAddrCompressed)
    (junk : IeeeAddrCompressed) : Prop :=
  (s.addr.addrMap ref).used = true ∧ s.neighbor.addrToNeighbor ref = 0xff ∧
    s.neighbor.baseNeighborUsed < s.neighbor.baseNeighborSize ∧
      (addressByIeee (addressLock s.addr ref) (addressDecompress s.addr longAddr) true false
        junk).2 = .ok ref

/-- The temporary entry of a parent takes the lock that its address was given; if that could not
be entered there is no room for the entry either. -/
def BalancedParent (s : NeighborTable.Tables) (ieee : IeeeAddr) (i : ℕ)
    (junkUpdate junkTmp : IeeeAddrCompressed) : Prop :=
  let ext := s.neighbor.extNeighbor i
  UpdateSuits s.addr ieee ext.shortAddr junkUpdate ∧
    match addressUpdate s.addr ieee ext.shortAddr false junkUpdate with
    | (c, .ok ref) => Temporary ⟨c, s.neighbor⟩ ref ext.longAddr junkTmp
    | (_, .error _) => s.neighbor.baseNeighborSize ≤ s.neighbor.baseNeighborUsed

/-- The destination of a request is not found, or its address mode says nothing. -/
def NoDst (c : AddrGlobals) (req : BindingReq) (junk : IeeeAddrCompressed) : Prop :=
  ∀ addr, (dstLookup c req junk).2 ≠ .ok addr

/-- A binding request is refused: its source gets no entry, a table is full, or there is no
destination. -/
def BindRefused (c : AddrGlobals) (t : BindingTable) (req : BindingReq)
    (junk junk' : IeeeAddrCompressed) : Prop :=
  match addressByIeee c req.srcAddr true false junk with
  | (_, .error _) => True
  | (d, .ok srcRef) => srcBindingTableSize ≤ bindPlace t ⟨srcRef, req.srcEndpoint, req.clusterid⟩ ∨
    dstBindingTableSize ≤ t.dstNElements ∨ NoDst d req junk'

/-- A request to remove a binding is refused: its source is unknown or has no record, or there is no
destination. -/
def UnbindRefused (c : AddrGlobals) (t : BindingTable) (req : BindingReq)
    (junk junk' : IeeeAddrCompressed) : Prop :=
  match addressByIeee c req.srcAddr false false junk with
  | (_, .error _) => True
  | (d, .ok srcRef) => findSrcRef t ⟨srcRef, req.srcEndpoint, req.clusterid⟩ = 0xff ∨
    NoDst d req junk'

/-- The event takes as many locks as it stores references and leaves locked entries with their
devices. -/
def Balanced (w : Stack) : Op → Prop
  | .address op => BalancedAddress w.tables.addr op
  | .neighborGet ref createIfAbsent _ _ =>
    createIfAbsent = true → w.tables.neighbor.addrToNeighbor ref = 0xff →
      w.tables.neighbor.baseNeighborUsed + 1 ≠ w.tables.neighbor.baseNeighborSize →
        w.tables.neighbor.baseNeighborUsed < w.tables.neighbor.baseNeighborSize ∧
          (w.tables.addr.addrMap ref).used = true
  | .neighborDelete ref => w.tables.neighbor.addrToNeighbor ref = 0xff
  | .exneighborStart => True
  | .exneighborByShort .. | .exneighborByIeee .. =>
    w.tables.neighbor.extNeighborSize ≠ 0 → linuxSizes.ExtApart w.tables.neighbor
  | .exneighborStop joined myPanidRef junk left =>
    LeavesUnused w.tables.neighbor left ∧ (joined = true →
      EachTurn (BalancedTurn myPanidRef junk) myPanidRef junk w.tables.neighbor.extNeighborUsed 0 0
        w.tables)
  | .acceptChild deviceAddress addr _ junk _ =>
    UpdateSuits w.tables.addr deviceAddress addr junk ∧
      ∀ ref, (addressUpdate w.tables.addr deviceAddress addr true junk).2 = .ok ref →
        w.tables.neighbor.addrToNeighbor ref = 0xff ∧
          w.tables.neighbor.baseNeighborUsed + 1 = w.tables.neighbor.baseNeighborSize
  | .chooseParent i junk junkUpdate junkTmp _ overrun =>
    (w.tables.neighbor.extNeighborSize ≠ 0 → linuxSizes.ExtApart w.tables.neighbor) ∧
      i < w.tables.neighbor.extNeighborUsed ∧
        BalancedParent (parentAddr w.tables i junk overrun).1 (parentAddr w.tables i junk overrun).2
          i junkUpdate junkTmp
  | .bind req junk junk' => BindRefused w.tables.addr w.binding req junk junk'
  | .unbind req junk junk' _ => UnbindRefused w.tables.addr w.binding req junk junk'

/-! ## Holders in the neighbour table -/

section

variable {t : NeighborTbl} {n ref : ℕ} {ent : NeighborTblEnt}

theorem neighborHolders_congr {t' : NeighborTbl} (base : t'.baseNeighbor = t.baseNeighbor)
    (ref : ℕ) : neighborHolders t' ref = neighborHolders t ref := by
  rw [neighborHolders, neighborHolders, usedEnts_congr base]

/-- Overwriting an entry changes the holders by that entry alone. -/
theorem neighborHolders_setBase (ent : NeighborTblEnt) (inside : n < neighborTableSize) (ref : ℕ) :
    neighborHolders (t.setBase n ent) ref + (if deviceOf t n = some ref then 1 else 0) =
      neighborHolders t ref + if ent.used = true ∧ ent.addrRef = ref then 1 else 0 := by
  have counted := countP_live_update
    (fun ent => decide (ent.addrRef = ref) && ent.used) (a := t.baseNeighbor) ent inside
  simp only [neighborHolders, usedEnts, List.countP_filter, deviceOf_eq_some]
  have written : (t.setBase n ent).baseNeighbor = Function.update t.baseNeighbor n ent := rfl
  rw [written]
  simpa [and_comm] using counted

/-- An entry that is in use stays with its device. -/
theorem neighborHolders_update (consistent : Consistent t) {own : ℕ}
    (held : deviceOf t n = some own) (used : ent.used = true) (same : ent.addrRef = own) (ref : ℕ) :
    neighborHolders (t.setBase n ent) ref = neighborHolders t ref := by
  have inside := Nat.lt_of_lt_of_le (consistent.below n (deviceOf_eq_some.mp held).1)
    (Nat.le_trans consistent.room consistent.size)
  have counted := neighborHolders_setBase (t := t) ent inside ref
  rw [held, used, same] at counted
  simpa using counted

theorem neighborHolders_append (consistent : Consistent t)
    (free : t.baseNeighborUsed < t.baseNeighborSize) (used : ent.used = true)
    (own : ent.addrRef = n) (ref : ℕ) :
    neighborHolders (appendBase t n ent) ref =
      neighborHolders t ref + if n = ref then 1 else 0 := by
  have counted := neighborHolders_setBase (t := t) ent
    (Nat.lt_of_lt_of_le free consistent.size) ref
  rw [consistent.unused (Nat.le_refl _), used, own] at counted
  have entries : neighborHolders (appendBase t n ent) ref =
      neighborHolders (t.setBase t.baseNeighborUsed ent) ref := neighborHolders_congr rfl ref
  rw [entries]
  simpa using counted

/-- What the index does not find is held by no base entry. -/
theorem neighborHolders_absent (consistent : Consistent t) (absent : t.addrToNeighbor ref = 0xff) :
    neighborHolders t ref = 0 := by
  rw [neighborHolders, List.countP_eq_zero]
  intro ent member same
  rw [usedEnts, List.mem_filter, mem_live] at member
  obtain ⟨⟨n, -, rfl⟩, used⟩ := member
  have held : deviceOf t n = some ref := deviceOf_eq_some.mpr ⟨used, by simpa using same⟩
  have found := (consistent.inverse _ _).mpr held
  rw [indexOf_eq_none.mpr absent] at found
  cases found

end

/-! ## What the tables keep -/

/-- The neighbour table is consistent, and entries are locked for their base entries alone. -/
structure Sound (s : NeighborTable.Tables) : Prop where
  invariant : Invariant s.neighbor
  count : ∀ ref, (s.addr.addrMap ref).lockCnt = neighborHolders s.neighbor ref
  used : LockedUsed s.addr

/-- The tables stay sound, and locked entries locked and with their devices. -/
structure Goes (s s' : NeighborTable.Tables) : Prop where
  sound : Sound s'
  locked : ∀ ref, (s.addr.addrMap ref).lockCnt ≠ 0 → (s'.addr.addrMap ref).lockCnt ≠ 0
  device : ∀ ref, (s.addr.addrMap ref).lockCnt ≠ 0 →
    SameDevice (s.addr.addrMap ref) (s'.addr.addrMap ref)

/-- Neither locks nor holders change. -/
structure Quiet (s s' : NeighborTable.Tables) : Prop where
  addr : LocksKept s.addr s'.addr
  holders : ∀ ref, neighborHolders s'.neighbor ref = neighborHolders s.neighbor ref

variable {s s' s'' : NeighborTable.Tables}

theorem Quiet.trans (first : Quiet s s') (second : Quiet s' s'') : Quiet s s'' :=
  ⟨first.addr.trans second.addr, fun ref => (second.holders ref).trans (first.holders ref)⟩

theorem Quiet.goes (quiet : Quiet s s') (sound : Sound s) (invariant : Invariant s'.neighbor) :
    Goes s s' where
  sound :=
    { invariant
      count := fun ref => by rw [quiet.addr.count, sound.count, quiet.holders]
      used := quiet.addr.lockedUsed }
  locked ref locked := by rwa [quiet.addr.count]
  device := quiet.addr.device

theorem Goes.trans (first : Goes s s') (second : Goes s' s'') : Goes s s'' where
  sound := second.sound
  locked ref locked := second.locked ref (first.locked ref locked)
  device ref locked := (first.device ref locked).trans (second.device ref (first.locked ref locked))

theorem Goes.refl (sound : Sound s) : Goes s s :=
  ⟨sound, fun _ locked => locked, fun ref locked => .refl (sound.used ref locked)⟩

/-- An entry without a base entry is not locked. -/
theorem Sound.unlocked (sound : Sound s) {ref : ℕ} (absent : s.neighbor.addrToNeighbor ref = 0xff) :
    (s.addr.addrMap ref).lockCnt = 0 :=
  (sound.count ref).trans (neighborHolders_absent sound.invariant.consistent absent)

/-- An entry gets a base entry, and is locked for it. -/
theorem Sound.lockNew (sound : Sound s) {ref : ℕ} {ent : NeighborTblEnt}
    (inUse : (s.addr.addrMap ref).used = true) (absent : s.neighbor.addrToNeighbor ref = 0xff)
    (free : s.neighbor.baseNeighborUsed < s.neighbor.baseNeighborSize) (used : ent.used = true)
    (own : ent.addrRef = ref) :
    Goes s ⟨addressLock s.addr ref, appendBase s.neighbor ref ent⟩ := by
  have unlocked := sound.unlocked absent
  have other {r : ℕ} (differs : r ≠ ref) :
      (addressLock s.addr ref).addrMap r = s.addr.addrMap r := by
    rw [addressLock, AddrGlobals.setEntry_addrMap, Function.update_of_ne differs]
  have own_ : (addressLock s.addr ref).addrMap ref =
      ((s.addr.addrMap ref).setLockCnt 1).setClock true := by
    rw [addressLock, AddrGlobals.setEntry_addrMap, Function.update_self, unlocked]
  refine ⟨⟨sound.invariant.append free absent used own, fun r => ?_, fun r locked => ?_⟩,
    fun r locked => ?_, fun r locked => ?_⟩
  · rw [neighborHolders_append sound.invariant.consistent free used own]
    by_cases same : r = ref
    · subst same
      rw [neighborHolders_absent sound.invariant.consistent absent, if_pos rfl]
      change ((addressLock s.addr r).addrMap r).lockCnt = _
      rw [own_]
      rfl
    · rw [if_neg (Ne.symm same), Nat.add_zero, ← sound.count]
      exact congrArg AddressMap.lockCnt (other same)
  · by_cases same : r = ref
    · subst same
      change ((addressLock s.addr r).addrMap r).used = true
      rw [own_]
      exact inUse
    · dsimp only at locked ⊢
      rw [other same] at locked ⊢
      exact sound.used r locked
  · have differs : r ≠ ref := fun same => locked (same ▸ unlocked)
    dsimp only
    rwa [other differs]
  · have differs : r ≠ ref := fun same => locked (same ▸ unlocked)
    dsimp only
    rw [other differs]
    exact .refl (sound.used r locked)

/-! ## One event -/

theorem goes_address (sound : Sound s) {op : AddressTable.Op}
    (balanced : BalancedAddress s.addr op) :
    Goes s ⟨AddressTable.step s.addr op, s.neighbor⟩ := by
  have kept : LocksKept s.addr (AddressTable.step s.addr op) := by
    cases op with
    | byIeee ieee create lock junk =>
      have balanced : lock = true → Fails _ := balanced
      rw [addressByIeee_lock] at balanced
      rw [AddressTable.step, addressByIeee_lock]
      exact (LocksKept.addressByIeee sound.used ieee create junk).lockResult balanced
    | byShort shortAddress create lock =>
      have balanced : lock = true → Fails _ := balanced
      rw [addressByShort_lock] at balanced
      rw [AddressTable.step, addressByShort_lock]
      exact (LocksKept.addressByShort sound.used shortAddress create).lockResult balanced
    | update ieee shortAddress lock junk =>
      obtain ⟨fails, suits⟩ := balanced
      rw [addressUpdate_lock] at fails
      rw [AddressTable.step, addressUpdate_lock]
      exact (LocksKept.addressUpdate sound.used suits).lockResult fails
    | delete ref => exact .addressDelete sound.used balanced
  exact Quiet.goes ⟨kept, fun _ => rfl⟩ sound sound.invariant

theorem goes_neighborGet (sound : Sound s) {ref : ℕ} {createIfAbsent : Bool} {nibDepth : ℕ}
    {overrun : NeighborTbl}
    (balanced : createIfAbsent = true → s.neighbor.addrToNeighbor ref = 0xff →
      s.neighbor.baseNeighborUsed + 1 ≠ s.neighbor.baseNeighborSize →
        s.neighbor.baseNeighborUsed < s.neighbor.baseNeighborSize ∧
          (s.addr.addrMap ref).used = true) :
    Goes s (neighborGet s ref createIfAbsent nibDepth overrun).1 := by
  rw [neighborGet]
  dsimp only
  split
  · exact .refl sound
  · rename_i absent
    rw [not_not] at absent
    split
    · rename_i create
      split
      · exact .refl sound
      · rename_i room
        obtain ⟨free, inUse⟩ := balanced create absent room
        rw [if_pos free]
        exact sound.lockNew inUse absent free rfl rfl
    · exact .refl sound

/-- What a beacon writes leaves the base entries. -/
theorem fillOrAllocExt_baseNeighbor {t : NeighborTbl} (sized : Sized t) {found : Option ℕ}
    (fresh : ExtNeighborTblEnt) (beacon : Beacon) (overrun : NeighborTbl)
    (apart : t.extNeighborSize ≠ 0 → linuxSizes.ExtApart t)
    (inside : ∀ i ∈ found, i < t.extNeighborUsed) :
    (linuxSizes.fillOrAllocExt t found fresh beacon overrun).baseNeighbor = t.baseNeighbor := by
  have used := sized.used
  unfold Sizes.fillOrAllocExt
  cases found with
  | some i =>
    have below := inside i rfl
    dsimp only
    rw [if_pos (apart (by omega))]
    rfl
  | none =>
    dsimp only
    split
    · rfl
    · rename_i room
      rw [if_pos (apart (by omega))]
      rfl

theorem goes_fillOrAllocExt (sound : Sound s) {addr : AddrGlobals} (kept : LocksKept s.addr addr)
    {found : Option ℕ} {fresh : ExtNeighborTblEnt} {beacon : Beacon} {overrun : NeighborTbl}
    (apart : s.neighbor.extNeighborSize ≠ 0 → linuxSizes.ExtApart s.neighbor)
    (inside : ∀ i ∈ found, i < s.neighbor.extNeighborUsed) :
    Goes s ⟨addr, linuxSizes.fillOrAllocExt s.neighbor found fresh beacon overrun⟩ := by
  have base := fillOrAllocExt_baseNeighbor sound.invariant.sized fresh beacon overrun apart inside
  exact Quiet.goes ⟨kept, neighborHolders_congr base⟩ sound
    (sound.invariant.fillOrAllocExt found fresh beacon overrun apart inside)

theorem goes_exneighborByShort (sound : Sound s) (panidRef shortAddr : ℕ) (beacon : Beacon)
    (overrun : NeighborTbl) (apart : s.neighbor.extNeighborSize ≠ 0 → linuxSizes.ExtApart s.neighbor) :
    Goes s ⟨s.addr, linuxSizes.exneighborByShort s.neighbor panidRef shortAddr beacon overrun⟩ :=
  goes_fillOrAllocExt sound (.refl sound.used) apart fun _ found =>
    List.mem_range.mp (List.mem_of_find?_eq_some found)

theorem goes_exneighborByIeee (sound : Sound s) (panidRef : ℕ) (longAddr : IeeeAddr)
    (beacon : Beacon) (junk : IeeeAddrCompressed) (overrun : NeighborTbl)
    (apart : s.neighbor.extNeighborSize ≠ 0 → linuxSizes.ExtApart s.neighbor) :
    Goes s (linuxSizes.exneighborByIeee s panidRef longAddr beacon junk overrun) :=
  goes_fillOrAllocExt sound (.compress sound.used longAddr junk) apart fun _ found =>
    List.mem_range.mp (List.mem_reverse.mp (List.mem_of_find?_eq_some found))

theorem goes_exneighborStart (sound : Sound s) :
    Goes s ⟨s.addr, linuxSizes.exneighborStart s.neighbor⟩ := by
  refine Quiet.goes ⟨.refl sound.used, fun ref => ?_⟩ sound sound.invariant.exneighborStart
  rw [neighborHolders, neighborHolders,
    (exneighborStart_fields sound.invariant.consistent).1]

theorem Quiet.turn {myPanidRef i : ℕ} {junk : ℕ → IeeeAddrCompressed}
    (consistent : Consistent s.neighbor) (used : LockedUsed s.addr)
    (balanced : BalancedTurn myPanidRef junk s i) :
    Quiet s (promoteExt s myPanidRef i (junk i)) := by
  unfold promoteExt
  dsimp only
  split
  · rename_i own
    obtain ⟨suits, promotes⟩ := balanced own
    have kept : LocksKept s.addr
        (extAddress s.addr (s.neighbor.extNeighbor i) (junk i)).1 := by
      rw [extAddress]
      split
      · rename_i short
        split
        · rename_i long
          exact .addressUpdate used (suits short long)
        · exact .addressByShort used _ true
      · exact .addressByIeee used _ true _
    generalize extAddress s.addr (s.neighbor.extNeighbor i) (junk i) = result at *
    obtain ⟨addr, reply⟩ := result
    cases reply with
    | error e => exact ⟨kept, fun _ => rfl⟩
    | ok ref =>
      refine ⟨kept, fun other => ?_⟩
      dsimp only
      rw [promote]
      split
      · rename_i present
        exact neighborHolders_update consistent (consistent.found present) rfl rfl other
      · rename_i absent
        rw [if_neg (Nat.not_lt.mpr (promotes.resolve_left absent))]
  · exact ⟨.refl used, fun _ => rfl⟩

theorem goes_exneighborStop (sound : Sound s) {joined : Bool} {myPanidRef : ℕ}
    {junk : ℕ → IeeeAddrCompressed} {left : ℕ → NeighborTblEnt}
    (unused : LeavesUnused s.neighbor left)
    (balanced : joined = true → EachTurn (BalancedTurn myPanidRef junk) myPanidRef junk
      s.neighbor.extNeighborUsed 0 0 s) :
    Goes s (linuxSizes.exneighborStop s joined myPanidRef junk left) := by
  obtain ⟨consistent, more⟩ := stopped_consistent sound.invariant joined myPanidRef junk
  have promoted : Quiet s (if joined then
      linuxSizes.promoteAll myPanidRef junk s.neighbor.extNeighborUsed 0 0 s else s) := by
    split
    · rename_i isJoined
      have start : Quiet s s := ⟨.refl sound.used, fun _ => rfl⟩
      have turn (s' : NeighborTable.Tables) (i : ℕ) (consistent : Consistent s'.neighbor)
          (quiet : Quiet s s') (ok : BalancedTurn myPanidRef junk s' i) :
          Quiet s (promoteExt s' myPanidRef i (junk i)) :=
        quiet.trans (.turn consistent quiet.addr.lockedUsed ok)
      exact (promoteAll_kept myPanidRef junk sound.invariant.consistent (by decide)
        sound.invariant.sized.bytes start (balanced isJoined) turn
        fun _ _ quiet => ⟨quiet.addr, quiet.holders⟩).2
    · exact ⟨.refl sound.used, fun _ => rfl⟩
  have holders (ref : ℕ) :
      neighborHolders (linuxSizes.exneighborStop s joined myPanidRef junk left).neighbor ref =
        neighborHolders s.neighbor ref := by
    rw [← promoted.holders, neighborHolders, neighborHolders,
      ← usedEnts_uncover consistent more unused]
    rfl
  exact Quiet.goes ⟨promoted.addr, holders⟩ sound
    (exneighborStop_invariant sound.invariant joined myPanidRef junk unused)

/-- A lock is given back. -/
theorem addressUnlock_addressLock {c : AddrGlobals} {ref : ℕ} (used : LockedUsed c)
    (unlocked : (c.addrMap ref).lockCnt = 0) :
    LocksKept c (addressUnlock (addressLock c ref) ref) := by
  refine .of_setClock used fun other => ?_
  by_cases same : other = ref
  · subst same
    simp [addressUnlock, addressLock, AddressMap.setClock, AddressMap.setLockCnt, unlocked]
  · simp [addressUnlock, addressLock, Function.update_of_ne same]

theorem goes_acceptChild (sound : Sound s) {deviceAddress : IeeeAddr} {addr nibDepth : ℕ}
    {junk : IeeeAddrCompressed} {overrun : NeighborTbl}
    (suits : UpdateSuits s.addr deviceAddress addr junk)
    (full : ∀ ref, (addressUpdate s.addr deviceAddress addr true junk).2 = .ok ref →
      s.neighbor.addrToNeighbor ref = 0xff ∧
        s.neighbor.baseNeighborUsed + 1 = s.neighbor.baseNeighborSize) :
    Goes s (admits s deviceAddress addr nibDepth junk overrun).1 := by
  have kept := LocksKept.addressUpdate sound.used suits
  rw [addressUpdate_lock] at full
  rw [admits, addressUpdate_lock]
  generalize addressUpdate s.addr deviceAddress addr false junk = result at *
  cases reply : result.2 with
  | error e =>
    rw [lockResult_error reply]
    obtain ⟨c, _⟩ := result
    cases reply
    exact Quiet.goes ⟨kept, fun _ => rfl⟩ sound sound.invariant
  | ok ref =>
    rw [lockResult_true_ok reply] at full ⊢
    obtain ⟨absent, last⟩ := full ref rfl
    have unlocked : (result.1.addrMap ref).lockCnt = 0 := by
      rw [kept.count, sound.unlocked absent]
    have refused : neighborGet ⟨addressLock result.1 ref, s.neighbor⟩ ref true nibDepth overrun =
        (⟨addressLock result.1 ref, s.neighbor⟩, none) := by
      rw [neighborGet]
      dsimp only
      rw [if_neg (not_not.mpr absent), if_pos rfl, if_pos last]
    dsimp only
    rw [refused]
    exact Quiet.goes ⟨kept.trans (addressUnlock_addressLock kept.lockedUsed unlocked),
      fun _ => rfl⟩ sound sound.invariant

theorem goes_parentAddr (sound : Sound s) {i : ℕ} (junk : IeeeAddrCompressed)
    (overrun : NeighborTbl) (apart : s.neighbor.extNeighborSize ≠ 0 → linuxSizes.ExtApart s.neighbor)
    (inside : i < s.neighbor.extNeighborUsed) : Goes s (parentAddr s i junk overrun).1 := by
  have nonempty := sound.invariant.sized.used
  rw [parentAddr]
  dsimp only
  split
  · have found := LocksKept.addressByShort sound.used
      (s.neighbor.extNeighbor i).shortAddr false
    generalize addressByShort s.addr (s.neighbor.extNeighbor i).shortAddr false false = result at *
    obtain ⟨c, reply⟩ := result
    cases reply with
    | error e => exact Quiet.goes ⟨found, fun _ => rfl⟩ sound sound.invariant
    | ok ref =>
      have compressed := found.trans
        (LocksKept.compress found.lockedUsed (addressIeeeByRef c ref) junk)
      have apart := apart (by omega)
      have sized := sound.invariant.sized
      have consistent := sound.invariant.consistent
      dsimp only
      rw [if_pos apart]
      refine Quiet.goes ⟨compressed, neighborHolders_congr rfl⟩ sound ?_
      exact ⟨consistent.congr rfl rfl rfl consistent.room consistent.size,
        ⟨sized.used, sized.uncut, sized.area, sized.bytes⟩⟩
  · exact .refl sound

theorem goes_temporary (sound : Sound s) {ref : ℕ} {ext : ExtNeighborTblEnt}
    {junk : IeeeAddrCompressed} {junkRef : ℕ} (temporary : Temporary s ref ext.longAddr junk) :
    Goes s (neighborExtToBaseTmp ⟨addressLock s.addr ref, s.neighbor⟩ ext junk junkRef) := by
  obtain ⟨inUse, absent, free, found⟩ := temporary
  have locked : Goes s ⟨addressLock s.addr ref, appendBase s.neighbor ref (tmpEnt ext ref)⟩ :=
    sound.lockNew inUse absent free rfl rfl
  have lookedUp := LocksKept.addressByIeee locked.sound.used
    (addressDecompress s.addr ext.longAddr) true junk
  rw [neighborExtToBaseTmp]
  dsimp only
  rw [if_neg (Nat.not_le.mpr free), tmpRef]
  dsimp only at *
  have names : addressDecompress (addressLock s.addr ref) ext.longAddr =
      addressDecompress s.addr ext.longAddr := rfl
  rw [names]
  generalize addressByIeee (addressLock s.addr ref) (addressDecompress s.addr ext.longAddr) true
    false junk = result at *
  obtain ⟨c, reply⟩ := result
  cases found
  exact locked.trans (Quiet.goes ⟨lookedUp, fun _ => rfl⟩ locked.sound locked.sound.invariant)

theorem goes_chooseParent (sound : Sound s) {i : ℕ} {junk junkUpdate junkTmp : IeeeAddrCompressed}
    {junkRef : ℕ} {overrun : NeighborTbl}
    (apart : s.neighbor.extNeighborSize ≠ 0 → linuxSizes.ExtApart s.neighbor)
    (inside : i < s.neighbor.extNeighborUsed)
    (balanced : BalancedParent (parentAddr s i junk overrun).1 (parentAddr s i junk overrun).2 i
      junkUpdate junkTmp) :
    Goes s (chooseParent s i junk junkUpdate junkTmp junkRef overrun) := by
  have before := goes_parentAddr sound junk overrun apart inside
  rw [chooseParent]
  generalize parentAddr s i junk overrun = result at *
  obtain ⟨s', ieee⟩ := result
  obtain ⟨suits, temporary⟩ := balanced
  have kept := LocksKept.addressUpdate before.sound.used suits
  dsimp only at *
  rw [addressUpdate_lock]
  generalize addressUpdate s'.addr ieee (s'.neighbor.extNeighbor i).shortAddr false junkUpdate =
    result at *
  obtain ⟨c, reply⟩ := result
  have updated : Goes s' ⟨c, s'.neighbor⟩ :=
    Quiet.goes ⟨kept, fun _ => rfl⟩ before.sound before.sound.invariant
  cases reply with
  | ok ref => exact (before.trans updated).trans (goes_temporary updated.sound temporary)
  | error e =>
    refine (before.trans updated).trans ?_
    change Goes _ (neighborExtToBaseTmp ⟨c, s'.neighbor⟩ _ junkTmp junkRef)
    rw [neighborExtToBaseTmp]
    dsimp only
    rw [if_pos temporary]
    exact .refl updated.sound

theorem LocksKept.dstLookup {c : AddrGlobals} (used : LockedUsed c) (req : BindingReq)
    (junk : IeeeAddrCompressed) : LocksKept c (dstLookup c req junk).1 := by
  rw [Binding.dstLookup]
  split
  · have kept := LocksKept.addressByIeee used req.dstAddrLong true junk
    generalize addressByIeee c req.dstAddrLong true false junk = result at *
    obtain ⟨d, reply⟩ := result
    cases reply <;> exact kept
  · split <;> exact .refl used

/-- A request that is refused leaves the binding table, and locks nothing. -/
theorem bindRequest_refused {c : AddrGlobals} (used : LockedUsed c) {t : BindingTable}
    {req : BindingReq} {junk junk' : IeeeAddrCompressed} (refused : BindRefused c t req junk junk') :
    LocksKept c (bindRequest ⟨c, t⟩ req junk junk').1.addr ∧
      (bindRequest ⟨c, t⟩ req junk junk').1.binding = t := by
  have found := LocksKept.addressByIeee used req.srcAddr true junk
  rw [BindRefused] at refused
  rw [bindRequest]
  dsimp only at *
  generalize addressByIeee c req.srcAddr true false junk = result at *
  obtain ⟨d, reply⟩ := result
  cases reply with
  | error e => exact ⟨found, rfl⟩
  | ok srcRef =>
    dsimp only at *
    split
    · rename_i room
      have lookedUp := found.trans (LocksKept.dstLookup found.lockedUsed req junk')
      have missing : NoDst d req junk' := by
        rcases refused with full | full | missing
        · exact absurd room.1 (Nat.not_lt.mpr full)
        · exact absurd room.2 (Nat.not_lt.mpr full)
        · exact missing
      rw [NoDst] at missing
      generalize Binding.dstLookup d req junk' = result at *
      obtain ⟨d', answer⟩ := result
      cases answer with
      | error status => exact ⟨lookedUp, rfl⟩
      | ok addr => exact absurd rfl (missing addr)
    · exact ⟨found, rfl⟩

theorem unbindRequest_refused {c : AddrGlobals} (used : LockedUsed c) {t overrun : BindingTable}
    {req : BindingReq} {junk junk' : IeeeAddrCompressed}
    (refused : UnbindRefused c t req junk junk') :
    LocksKept c (unbindRequest ⟨c, t⟩ req junk junk' overrun).1.addr ∧
      (unbindRequest ⟨c, t⟩ req junk junk' overrun).1.binding = t := by
  have found := LocksKept.addressByIeee used req.srcAddr false junk
  rw [UnbindRefused] at refused
  rw [unbindRequest]
  dsimp only at *
  generalize addressByIeee c req.srcAddr false false junk = result at *
  obtain ⟨d, reply⟩ := result
  cases reply with
  | error e => exact ⟨found, rfl⟩
  | ok srcRef =>
    dsimp only at *
    split
    · exact ⟨found, rfl⟩
    · rename_i known
      have lookedUp := found.trans (LocksKept.dstLookup found.lockedUsed req junk')
      have missing : NoDst d req junk' := refused.resolve_left known
      rw [NoDst] at missing
      generalize Binding.dstLookup d req junk' = result at *
      obtain ⟨d', answer⟩ := result
      cases answer with
      | error status => exact ⟨lookedUp, rfl⟩
      | ok addr => exact absurd rfl (missing addr)

/-! ## Runs -/

/-- The tables are sound, and nothing is bound. -/
structure Unbound (w : Stack) : Prop where
  sound : Sound w.tables
  srcs : w.binding.srcNElements = 0
  dsts : w.binding.dstNElements = 0

variable {w : Stack}

theorem Unbound.locked (unbound : Unbound w) : Locked w := by
  intro ref
  rw [unbound.sound.count, holders, bindingHolders, unbound.srcs, unbound.dsts]
  rfl

/-- What a balanced event does. -/
theorem Unbound.after (unbound : Unbound w) {op : Op} (balanced : Balanced w op) :
    Unbound (step w op) ∧ Goes w.tables (step w op).tables := by
  have sound := unbound.sound
  have goes (binding : (step w op).binding = w.binding)
      (goes : Goes w.tables (step w op).tables) :
      Unbound (step w op) ∧ Goes w.tables (step w op).tables :=
    ⟨⟨goes.sound, binding ▸ unbound.srcs, binding ▸ unbound.dsts⟩, goes⟩
  cases op with
  | address op => exact goes rfl (goes_address sound balanced)
  | neighborGet ref createIfAbsent nibDepth overrun =>
    exact goes rfl (goes_neighborGet sound balanced)
  | neighborDelete ref =>
    have same : neighborDelete w.tables.neighbor ref = w.tables.neighbor :=
      if_neg (not_not.mpr balanced)
    refine goes rfl ?_
    rw [step, same]
    exact .refl sound
  | exneighborStart => exact goes rfl (goes_exneighborStart sound)
  | exneighborByShort panidRef shortAddr beacon overrun =>
    exact goes rfl (goes_exneighborByShort sound panidRef shortAddr beacon overrun balanced)
  | exneighborByIeee panidRef longAddr beacon junk overrun =>
    exact goes rfl (goes_exneighborByIeee sound panidRef longAddr beacon junk overrun balanced)
  | exneighborStop joined myPanidRef junk left =>
    exact goes rfl (goes_exneighborStop sound balanced.1 balanced.2)
  | acceptChild deviceAddress addr nibDepth junk overrun =>
    exact goes rfl (goes_acceptChild sound balanced.1 balanced.2)
  | chooseParent i junk junkUpdate junkTmp junkRef overrun =>
    obtain ⟨apart, inside, parent⟩ := balanced
    exact goes rfl (goes_chooseParent sound apart inside parent)
  | bind req junk junk' =>
    obtain ⟨kept, same⟩ := bindRequest_refused sound.used balanced
    exact goes same (Quiet.goes ⟨kept, fun _ => rfl⟩ sound sound.invariant)
  | unbind req junk junk' overrun =>
    obtain ⟨kept, same⟩ := unbindRequest_refused sound.used balanced
    exact goes same (Quiet.goes ⟨kept, fun _ => rfl⟩ sound sound.invariant)

/-- A reference that is held stays with its device. -/
theorem Unbound.held (unbound : Unbound w) {ref : ℕ} {later : List Op}
    (met : Along step Balanced w later) (first : holders w ref ≠ 0) :
    SameDevice (w.tables.addr.addrMap ref) ((run step w later).tables.addr.addrMap ref) := by
  have initial : (w.tables.addr.addrMap ref).lockCnt ≠ 0 := by rwa [unbound.locked ref]
  clear first
  induction later generalizing w with
  | nil => exact .refl (unbound.sound.used ref initial)
  | cons op rest induction_ =>
    obtain ⟨next, goes⟩ := unbound.after met.1
    exact (goes.device ref initial).trans (induction_ next met.2 (goes.locked ref initial))

end Zboss.LockedRefs
