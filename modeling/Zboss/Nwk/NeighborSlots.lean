import Zboss.Nwk.NeighborIndex

/-!
The slots of the neighbour table over whole runs.  A device that is deleted leaves a hole,
`base_neighbor_used` stays where it was, and packing the table moves entries but does not
lower it either; so each deleted device costs the table one slot for good, and the packed
entries have holes between them.
-/

namespace Zboss.NeighborTable

open Zboss.AddressTable Zboss.Cells Zboss.Run

/-- The used entries in the order of their slots. -/
def usedEnts (t : NeighborTbl) : List NeighborTblEnt :=
  (live t.baseNeighbor neighborTableSize).filter (·.used)

/-- `base_neighbor_used` counts `k` slots that hold no device. -/
def Lost (t : NeighborTbl) (k : ℕ) : Prop := t.baseNeighborUsed = (usedEnts t).length + k

section

variable {t : NeighborTbl} {k : ℕ}

theorem usedEnts_congr {t' : NeighborTbl} (base : t'.baseNeighbor = t.baseNeighbor) :
    usedEnts t' = usedEnts t := by
  rw [usedEnts, usedEnts, base]

/-- Overwriting an entry changes the number of those in use by that entry alone. -/
theorem usedEnts_setBase {n : ℕ} (ent : NeighborTblEnt) (inside : n < neighborTableSize) :
    (usedEnts (t.setBase n ent)).length + (if (t.baseNeighbor n).used then 1 else 0) =
      (usedEnts t).length + if ent.used then 1 else 0 := by
  simp only [usedEnts, ← List.countP_eq_length_filter]
  exact countP_live_update (·.used) ent inside

namespace Lost

theorem congr {t' : NeighborTbl} (lost : Lost t k) (base : t'.baseNeighbor = t.baseNeighbor)
    (used : t'.baseNeighborUsed = t.baseNeighborUsed) : Lost t' k := by
  rw [Lost, usedEnts_congr base, used]
  exact lost

/-- An entry in use is overwritten by another. -/
theorem update (lost : Lost t k) {n : ℕ} {ent : NeighborTblEnt} (inside : n < neighborTableSize)
    (before : (t.baseNeighbor n).used = true) (after : ent.used = true) :
    Lost (t.setBase n ent) k := by
  have count := usedEnts_setBase (t := t) ent inside
  rw [if_pos before, if_pos after] at count
  rw [Lost, NeighborTbl.setBase_baseNeighborUsed, lost]
  omega

theorem append (lost : Lost t k) (consistent : Consistent t) {ref : ℕ} {ent : NeighborTblEnt}
    (free : t.baseNeighborUsed < t.baseNeighborSize) (used : ent.used = true) :
    Lost (appendBase t ref ent) k := by
  have unused := deviceOf_eq_none.mp (consistent.unused (Nat.le_refl t.baseNeighborUsed))
  have count := usedEnts_setBase (t := t) ent (Nat.lt_of_lt_of_le free consistent.size)
  rw [unused, if_neg Bool.false_ne_true, if_pos used] at count
  have same : usedEnts (appendBase t ref ent) = usedEnts (t.setBase t.baseNeighborUsed ent) :=
    usedEnts_congr rfl
  rw [Lost, same]
  change t.baseNeighborUsed + 1 = _
  rw [lost] at count ⊢
  omega

/-- A device that is deleted leaves its slot behind. -/
theorem neighborDelete (lost : Lost t k) (consistent : Consistent t) (ref : ℕ) :
    Lost (neighborDelete t ref) (k + if t.addrToNeighbor ref ≠ 0xff then 1 else 0) := by
  unfold NeighborTable.neighborDelete
  dsimp only
  split
  · next present =>
    have used := (deviceOf_eq_some.mp (consistent.found present)).1
    have inside : t.addrToNeighbor ref < neighborTableSize :=
      Nat.lt_of_lt_of_le (consistent.below _ used) (Nat.le_trans consistent.room consistent.size)
    have count := usedEnts_setBase (t := t) (t.baseNeighbor (t.addrToNeighbor ref)).unused inside
    rw [if_pos used, NeighborTblEnt.unused, if_neg Bool.false_ne_true] at count
    have same : usedEnts ((t.setIndex ref 0xff).setBase (t.addrToNeighbor ref)
        (t.baseNeighbor (t.addrToNeighbor ref)).unused) = usedEnts (t.setBase
          (t.addrToNeighbor ref) (t.baseNeighbor (t.addrToNeighbor ref)).unused) :=
      usedEnts_congr rfl
    rw [Lost, same]
    change t.baseNeighborUsed = _
    rw [lost]
    simp only [NeighborTblEnt.unused] at count ⊢
    omega
  · exact lost

theorem promote (lost : Lost t k) (consistent : Consistent t) (ext : ExtNeighborTblEnt)
    (ref : ℕ) : Lost (promote t ext ref) k := by
  unfold NeighborTable.promote
  dsimp only
  split
  · next present =>
    have used := (deviceOf_eq_some.mp (consistent.found present)).1
    have inside : t.addrToNeighbor ref < neighborTableSize :=
      Nat.lt_of_lt_of_le (consistent.below _ used) (Nat.le_trans consistent.room consistent.size)
    exact lost.update inside used rfl
  · split
    · next free => exact lost.append consistent free rfl
    · exact lost

end Lost

/-! ## Packing -/

/-- Moving an entry into a hole keeps the order of the used entries. -/
theorem usedEnts_moveBase {i place : ℕ} (down : place < i) (inside : i < neighborTableSize)
    (hole : ∀ n, place ≤ n → n < i → (t.baseNeighbor n).used = false) :
    usedEnts (moveBase t i place) = usedEnts t := by
  have base : (moveBase t i place).baseNeighbor = Function.update (Function.update t.baseNeighbor
      place (t.baseNeighbor i)) i (t.baseNeighbor i).unused := rfl
  rw [usedEnts, base]
  exact filter_live_move NeighborTblEnt.used down inside hole rfl

/-- Packing keeps the used entries and their order; the places before `i` counted as holes are
free. -/
theorem usedEnts_packBase (consistent : Consistent t) {rounds i used hole : ℕ} (inside : hole ≤ i)
    (free : ∀ n, i ≤ n + hole → n < i → (t.baseNeighbor n).used = false) :
    usedEnts (packBase rounds i used hole t) = usedEnts t := by
  refine (packBase_kept (P := fun t' => Consistent t' ∧ usedEnts t' = usedEnts t) ?_
    ⟨consistent, rfl⟩ inside free).2
  rintro t' i j ⟨kept, same⟩ isUsed below places
  have whole := Nat.lt_of_lt_of_le (kept.below i isUsed) (Nat.le_trans kept.room kept.size)
  refine ⟨kept.moveBase isUsed (places j (Nat.le_refl j) below) below, ?_⟩
  rw [usedEnts_moveBase below whole places, same]

/-- All used entries stand below `base_neighbor_used`. -/
theorem usedEnts_eq (consistent : Consistent t) :
    usedEnts t = (live t.baseNeighbor t.baseNeighborUsed).filter (·.used) :=
  filter_live_gap _ (Nat.le_trans consistent.room consistent.size) fun _ behind _ =>
    deviceOf_eq_none.mp (consistent.unused behind)

/-- What comes to light at the end of a discovery adds none. -/
theorem usedEnts_uncover {before : NeighborTbl} {left : ℕ → NeighborTblEnt}
    (consistent : Consistent t) (more : before.baseNeighborUsed ≤ t.baseNeighborUsed)
    (unused : LeavesUnused before left) :
    usedEnts (linuxSizes.uncover before left t) = usedEnts t := by
  rw [usedEnts_eq consistent, usedEnts_eq (consistent.uncover more unused)]
  have kept : live (linuxSizes.uncover before left t).baseNeighbor t.baseNeighborUsed =
      live t.baseNeighbor t.baseNeighborUsed :=
    live_congr fun _ inside => if_neg fun covered => Nat.not_lt.mpr covered.1 inside
  exact congrArg (List.filter (·.used)) kept

/-- Where no slot is lost, the used entries stand side by side. -/
theorem Lost.full (lost : Lost t 0) (consistent : Consistent t) {n : ℕ}
    (inside : n < t.baseNeighborUsed) : (t.baseNeighbor n).used = true := by
  have length : ((live t.baseNeighbor t.baseNeighborUsed).filter (·.used)).length =
      (live t.baseNeighbor t.baseNeighborUsed).length := by
    rw [← usedEnts_eq consistent, live_length, lost, Nat.add_zero]
  exact List.length_filter_eq_length_iff.mp length _ (mem_live.mpr ⟨n, inside, rfl⟩)

/-- What a compaction leaves. -/
theorem exneighborStart_fields (consistent : Consistent t) :
    usedEnts (linuxSizes.exneighborStart t) = usedEnts t ∧
      (linuxSizes.exneighborStart t).baseNeighborUsed = t.baseNeighborUsed := by
  unfold Sizes.exneighborStart
  split
  · exact ⟨rfl, rfl⟩
  · split
    · obtain ⟨base, -, used, -⟩ := linuxSizes.cutExt_fields (packBase t.baseNeighborSize 0 0 0 t)
      rw [usedEnts_congr base, used]
      have kept : usedEnts (packBase t.baseNeighborSize 0 0 0 t) = usedEnts t :=
        usedEnts_packBase consistent (Nat.le_refl 0) fun n _ before =>
          absurd before (Nat.not_lt_zero n)
      exact ⟨kept, (packBase_sizes t.baseNeighborSize 0 0 0 t).2.1⟩
    · obtain ⟨base, -, used, -⟩ := linuxSizes.cutExt_fields t
      exact ⟨usedEnts_congr base, used⟩

end

/-! ## Runs -/

/-- The step deletes a device that has an entry. -/
def Deletes (s : Tables) : Op → Prop
  | .neighborDelete ref => s.neighbor.addrToNeighbor ref ≠ 0xff
  | .neighborGet .. | .exneighborStart | .exneighborByShort .. | .exneighborByIeee ..
  | .neighborExtToBaseTmp .. | .exneighborStop .. | .addressTable _ => False

instance (s : Tables) : DecidablePred (Deletes s)
  | .neighborDelete _ => inferInstanceAs (Decidable (_ ≠ _))
  | .neighborGet .. | .exneighborStart | .exneighborByShort .. | .exneighborByIeee ..
  | .neighborExtToBaseTmp .. | .exneighborStop .. | .addressTable _ => isFalse id

/-- The tables, and how many devices were deleted so far. -/
structure Counted where
  tables : Tables
  deleted : ℕ

/-- A step, counted. -/
def Counted.step (w : Counted) (op : Op) : Counted :=
  ⟨linuxSizes.step w.tables op, w.deleted + if Deletes w.tables op then 1 else 0⟩

/-- What is expected of one step.  A new device is refused only by a table with at most one place
that holds no device; and a compaction leaves the used entries in the first slots, in their
order, and every other slot to be used. -/
def Reuses (s : Tables) : Op → Prop
  | .neighborGet addr createIfAbsent nibDepth overrun => createIfAbsent = true →
    (neighborGet s addr createIfAbsent nibDepth overrun).2 = none →
      s.neighbor.baseNeighborSize ≤ (usedEnts s.neighbor).length + 1
  | .exneighborStart => s.neighbor.extNeighborSize = 0 →
    let t := linuxSizes.exneighborStart s.neighbor
    t.baseNeighborUsed = (usedEnts t).length ∧
      (∀ n, (t.baseNeighbor n).used = true ↔ n < (usedEnts t).length) ∧
      usedEnts t = usedEnts s.neighbor
  | .neighborDelete _ | .exneighborByShort .. | .exneighborByIeee .. | .neighborExtToBaseTmp ..
  | .exneighborStop .. | .addressTable _ => True

/-- The step packs the table, or refuses a new device. -/
def Tests (s : Tables) : Op → Prop
  | .neighborGet addr createIfAbsent _ _ => createIfAbsent = true ∧
    s.neighbor.addrToNeighbor addr = 0xff ∧
      s.neighbor.baseNeighborUsed + 1 = s.neighbor.baseNeighborSize
  | .exneighborStart => s.neighbor.extNeighborSize = 0
  | .neighborDelete _ | .exneighborByShort .. | .exneighborByIeee .. | .neighborExtToBaseTmp ..
  | .exneighborStop .. | .addressTable _ => False

instance (s : Tables) : DecidablePred (Tests s)
  | .neighborGet .. => inferInstanceAs (Decidable (_ ∧ _ ∧ _))
  | .exneighborStart => inferInstanceAs (Decidable (_ = _))
  | .neighborDelete _ | .exneighborByShort .. | .exneighborByIeee .. | .neighborExtToBaseTmp ..
  | .exneighborStop .. | .addressTable _ => isFalse id

/-- No device was deleted before the table is packed or refuses a new one. -/
def Counted.Undeleted (w : Counted) (op : Op) : Prop := Tests w.tables op → w.deleted = 0

instance (w : Counted) : DecidablePred w.Undeleted :=
  fun op => inferInstanceAs (Decidable (Tests w.tables op → w.deleted = 0))

namespace Lost

variable {s : Tables} {k : ℕ}

theorem neighborGet (lost : Lost s.neighbor k) (consistent : Consistent s.neighbor) (addr : ℕ)
    (createIfAbsent : Bool) (nibDepth : ℕ) (overrun : NeighborTbl)
    (clean : Clean s (.neighborGet addr createIfAbsent nibDepth overrun)) :
    Lost (neighborGet s addr createIfAbsent nibDepth overrun).1.neighbor k := by
  unfold NeighborTable.neighborGet
  dsimp only
  split
  · exact lost
  · next absent =>
    split
    · next create =>
      split
      · exact lost
      · have free := clean create (not_not.mp absent)
        dsimp only
        rw [if_pos free]
        exact lost.append consistent free rfl
    · exact lost

theorem neighborExtToBaseTmp (lost : Lost s.neighbor k) (consistent : Consistent s.neighbor)
    (ext : ExtNeighborTblEnt) (junk : IeeeAddrCompressed) (junkRef : ℕ) :
    Lost (neighborExtToBaseTmp s ext junk junkRef).neighbor k := by
  unfold NeighborTable.neighborExtToBaseTmp
  dsimp only
  split
  · exact lost
  · next room => exact lost.append consistent (Nat.lt_of_not_le room) rfl

theorem promoteExt (lost : Lost s.neighbor k) (consistent : Consistent s.neighbor)
    (myPanidRef i : ℕ) (junk : IeeeAddrCompressed) :
    Lost (promoteExt s myPanidRef i junk).neighbor k := by
  unfold NeighborTable.promoteExt
  dsimp only
  split
  · split
    · exact lost.promote consistent _ _
    · exact lost
  · exact lost

theorem exneighborStop (lost : Lost s.neighbor k) (invariant : Invariant s.neighbor)
    (joined : Bool) (myPanidRef : ℕ) (junk : ℕ → IeeeAddrCompressed) {left : ℕ → NeighborTblEnt}
    (unused : LeavesUnused s.neighbor left) :
    Lost (linuxSizes.exneighborStop s joined myPanidRef junk left).neighbor k := by
  obtain ⟨consistent, more⟩ := stopped_consistent invariant joined myPanidRef junk
  have moved : Lost (if joined then linuxSizes.promoteAll myPanidRef junk
      s.neighbor.extNeighborUsed 0 0 s else s).neighbor k := by
    split
    · exact (promoteAll_kept (P := fun s => Lost s.neighbor k) myPanidRef junk
        invariant.consistent (by decide) invariant.sized.bytes lost
        (eachTurn_of_forall (fun _ _ => trivial) ..)
        (fun _ i consistent lost _ => lost.promoteExt consistent myPanidRef i (junk i))
        fun _ _ lost => lost.congr rfl rfl).2
    · exact lost
  have ents : usedEnts (linuxSizes.exneighborStop s joined myPanidRef junk left).neighbor =
      usedEnts (if joined then linuxSizes.promoteAll myPanidRef junk
        s.neighbor.extNeighborUsed 0 0 s else s).neighbor :=
    (usedEnts_congr rfl).trans (usedEnts_uncover consistent more unused)
  rw [Lost, ents]
  exact moved

/-- A write into the extended table. -/
theorem fillOrAllocExt {t : NeighborTbl} (lost : Lost t k) (sized : Sized t) (found : Option ℕ)
    (fresh : ExtNeighborTblEnt) (beacon : Beacon) (overrun : NeighborTbl)
    (apart : t.extNeighborSize ≠ 0 → linuxSizes.ExtApart t) (inside : ∀ i ∈ found, i < t.extNeighborUsed) :
    Lost (linuxSizes.fillOrAllocExt t found fresh beacon overrun) k := by
  have used := sized.used
  unfold Sizes.fillOrAllocExt
  cases found with
  | some i =>
    have below := inside i rfl
    dsimp only
    rw [if_pos (apart (by omega))]
    exact lost.congr rfl rfl
  | none =>
    dsimp only
    split
    · exact lost
    · rw [if_pos (apart (by omega))]
      exact lost.congr rfl rfl

/-- Only a deletion loses a slot. -/
theorem step (lost : Lost s.neighbor k) (invariant : Invariant s.neighbor) (op : Op)
    (clean : Clean s op) :
    Lost (linuxSizes.step s op).neighbor (k + if Deletes s op then 1 else 0) := by
  have known : ∀ (p : ℕ → Bool) (l : List ℕ), (∀ i ∈ l, i < s.neighbor.extNeighborUsed) →
      ∀ i ∈ l.find? p, i < s.neighbor.extNeighborUsed :=
    fun p l inside i found => inside i (List.mem_of_find?_eq_some found)
  have consistent := invariant.consistent
  cases op with
  | neighborGet addr createIfAbsent nibDepth overrun =>
    exact lost.neighborGet consistent addr createIfAbsent nibDepth overrun clean
  | neighborDelete ref => exact lost.neighborDelete consistent ref
  | exneighborStart =>
    obtain ⟨ents, used⟩ := exneighborStart_fields consistent
    change (linuxSizes.exneighborStart s.neighbor).baseNeighborUsed =
      (usedEnts (linuxSizes.exneighborStart s.neighbor)).length + k
    rw [ents, used]
    exact lost
  | exneighborByShort panidRef shortAddr beacon overrun =>
    apply lost.fillOrAllocExt invariant.sized _ _ _ _ clean
    exact known _ _ fun i inside => List.mem_range.mp inside
  | exneighborByIeee panidRef longAddr beacon junk overrun =>
    apply lost.fillOrAllocExt invariant.sized _ _ _ _ clean
    exact known _ _ fun i inside => List.mem_range.mp (List.mem_reverse.mp inside)
  | neighborExtToBaseTmp i junk junkRef => exact lost.neighborExtToBaseTmp consistent _ junk junkRef
  | exneighborStop joined myPanidRef junk left =>
    exact lost.exneighborStop invariant joined myPanidRef junk clean
  | addressTable addr => exact lost

/-- What is expected of a step, by the slots lost. -/
theorem reuses_iff (lost : Lost s.neighbor k) (invariant : Invariant s.neighbor) (op : Op) :
    Reuses s op ↔ (Tests s op → k = 0) := by
  have consistent := invariant.consistent
  cases op with
  | neighborGet addr createIfAbsent nibDepth overrun =>
    have refused : createIfAbsent = true →
        ((NeighborTable.neighborGet s addr createIfAbsent nibDepth overrun).2 = none ↔
          s.neighbor.addrToNeighbor addr = 0xff ∧
            s.neighbor.baseNeighborUsed + 1 = s.neighbor.baseNeighborSize) := by
      intro create
      unfold NeighborTable.neighborGet
      simp only [create, if_true]
      split
      · next present => simp [present]
      · next absent =>
        split
        · next full => simp [full, not_not.mp absent]
        · next room => simp [room]
    constructor
    · rintro reuses ⟨create, absent, last⟩
      have few := reuses create ((refused create).mpr ⟨absent, last⟩)
      unfold Lost at lost
      omega
    · intro none_ create nothing
      obtain ⟨absent, last⟩ := (refused create).mp nothing
      have zero := none_ ⟨create, absent, last⟩
      unfold Lost at lost
      omega
  | exneighborStart =>
    obtain ⟨ents, used⟩ := exneighborStart_fields consistent
    constructor
    · intro reuses idle
      obtain ⟨all, -, -⟩ := reuses idle
      rw [used, ents, lost] at all
      omega
    · intro none_ idle
      obtain rfl := none_ idle
      have started := invariant.exneighborStart.consistent
      have kept : Lost (linuxSizes.exneighborStart s.neighbor) 0 := by
        rw [Lost, ents, used]
        exact lost
      refine ⟨kept, fun n => ?_, ents⟩
      have count : (usedEnts (linuxSizes.exneighborStart s.neighbor)).length =
          (linuxSizes.exneighborStart s.neighbor).baseNeighborUsed := kept.symm
      rw [count]
      exact ⟨started.below n, kept.full started⟩
  | neighborDelete ref => exact iff_of_true trivial False.elim
  | exneighborByShort panidRef shortAddr beacon overrun => exact iff_of_true trivial False.elim
  | exneighborByIeee panidRef longAddr beacon junk overrun => exact iff_of_true trivial False.elim
  | neighborExtToBaseTmp i junk junkRef => exact iff_of_true trivial False.elim
  | exneighborStop joined myPanidRef junk left => exact iff_of_true trivial False.elim
  | addressTable addr => exact iff_of_true trivial False.elim

end Lost

/-- A table with nothing in it has lost nothing. -/
theorem init_lost : Lost .init 0 := by
  have none_ : usedEnts .init = [] := by
    apply List.filter_eq_nil_iff.mpr
    intro ent member
    obtain ⟨n, -, rfl⟩ := mem_live.mp member
    exact Bool.false_ne_true
  rw [Lost, none_]
  rfl

/-- From any state of the invariant the steps of a run do what is expected exactly when no device
is deleted before one that could tell. -/
theorem reuses_iff_undeleted {w : Counted} {ops : List Op} (invariant : Invariant w.tables.neighbor)
    (lost : Lost w.tables.neighbor w.deleted) (clean : Along linuxSizes.step Clean w.tables ops) :
    Along linuxSizes.step Reuses w.tables ops ↔ Along Counted.step Counted.Undeleted w ops := by
  induction ops generalizing w with
  | nil => exact Iff.rfl
  | cons op rest induction_ =>
    apply and_congr (lost.reuses_iff invariant op)
    exact induction_ (w := w.step op) (step_invariant w.tables op invariant clean.1)
      (lost.step invariant op clean.1) clean.2

/-- In a run of clean steps the slots are reused exactly when no device that has an entry is
deleted before the table is packed or refuses a new device. -/
theorem slots_reused_iff (addr : AddrGlobals) (ops : List Op)
    (clean : Along linuxSizes.step Clean ⟨addr, .init⟩ ops) :
    Along linuxSizes.step Reuses ⟨addr, .init⟩ ops ↔
      Along Counted.step Counted.Undeleted ⟨⟨addr, .init⟩, 0⟩ ops :=
  reuses_iff_undeleted (w := ⟨⟨addr, .init⟩, 0⟩) init_invariant init_lost clean

/-- Devices come, the table is packed twice, and the last device goes. -/
def keptOps : List Op :=
  [.neighborGet 5 true 1 .init, .neighborGet 6 true 1 .init, .exneighborStart,
    .exneighborStop true 0 (fun _ => .zero) fun _ => .zero, .neighborGet 7 true 1 .init, .exneighborStart,
    .exneighborStop true 0 (fun _ => .zero) fun _ => .zero, .neighborDelete 7]

theorem slots_reused_keptOps : Along linuxSizes.step Reuses ⟨.zero, .init⟩ keptOps :=
  (slots_reused_iff .zero keptOps (by decide +kernel)).mpr (by decide +kernel)

/-- One device comes and goes until the table is full. -/
def comesAndGoes : List Op :=
  (List.replicate 31 [.neighborGet 0 true 1 .init, .neighborDelete 0]).flatten

/-- The table refuses a device although it holds none. -/
theorem slots_never_reused : ¬∀ addr ops, Along linuxSizes.step Reuses ⟨addr, .init⟩ ops := by
  intro claim
  have whole := claim .zero (comesAndGoes ++ [.neighborGet 0 true 1 .init])
  have last := ((along_append _ _ _).mp whole).2.1
  have few : (run linuxSizes.step ⟨.zero, .init⟩ comesAndGoes).neighbor.baseNeighborSize ≤
      (usedEnts (run linuxSizes.step ⟨.zero, .init⟩ comesAndGoes).neighbor).length + 1 :=
    last rfl (by decide +kernel)
  exact absurd few (by decide +kernel)

end Zboss.NeighborTable
