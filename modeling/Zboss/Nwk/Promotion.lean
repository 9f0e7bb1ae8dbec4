import Zboss.Nwk.NeighborLayout

/-!
What `zb_nwk_exneighbor_stop` makes of the base table.  The address table gives the extended
entries of the network their references, one after the other; each reference without a base entry
gets one, but the first has no room in a base table that is full.  No entry changes its
relationship, and none of the new ones is a parent.  Behind them stands what stood there before, or
what the extended entries have left.
-/

namespace Zboss.NeighborTable

open Zboss.AddressTable Zboss.Run

/-! ## The address table -/

/-- One turn of the loop, as far as the address table is concerned: the reference of the entry, if
it is of the network and gets one. -/
def turn (t : NeighborTbl) (myPanidRef i : ℕ) (junk : IeeeAddrCompressed) (c : AddrGlobals) :
    AddrGlobals × Option ℕ :=
  if (t.extNeighbor i).panidRef = myPanidRef then
    let (c, reply) := extAddress c (t.extNeighbor i) junk
    (c, reply.toOption)
  else (c, none)

/-- The turns from entry `i` on. -/
def turns (t : NeighborTbl) (myPanidRef : ℕ) (junk : ℕ → IeeeAddrCompressed) :
    ℕ → ℕ → AddrGlobals → AddrGlobals × List (Option ℕ)
  | 0, _, c => (c, [])
  | rounds + 1, i, c =>
    let (c, reply) := turn t myPanidRef i (junk i) c
    let (c, replies) := turns t myPanidRef junk rounds (i + 1) c
    (c, reply :: replies)

/-- What is written into the base table for a reference. -/
def answered (t : NeighborTbl) (i : ℕ) : Option ℕ → NeighborTbl
  | some ref => promote t (t.extNeighbor i) ref
  | none => t

theorem promoteExt_eq (s : Tables) (myPanidRef i : ℕ) (junk : IeeeAddrCompressed) :
    promoteExt s myPanidRef i junk = ⟨(turn s.neighbor myPanidRef i junk s.addr).1,
      answered s.neighbor i (turn s.neighbor myPanidRef i junk s.addr).2⟩ := by
  rw [promoteExt, turn]
  dsimp only
  by_cases mine : (s.neighbor.extNeighbor i).panidRef = myPanidRef
  · rw [if_pos mine, if_pos mine]
    cases extAddress s.addr (s.neighbor.extNeighbor i) junk with
    | mk c reply => cases reply <;> rfl
  · rw [if_neg mine, if_neg mine]
    rfl

/-! ## New references -/

/-- The reference of entry `i`, if it gets a base entry that it has not had. -/
def newRef (t : NeighborTbl) (i : ℕ) : Option ℕ → Finset ℕ
  | some ref =>
    if t.addrToNeighbor ref = 0xff ∧ (i ≠ 0 ∨ t.baseNeighborUsed < t.baseNeighborSize) then {ref}
    else ∅
  | none => ∅

/-- The references that get base entries. -/
def newRefs (t : NeighborTbl) : ℕ → List (Option ℕ) → Finset ℕ
  | _, [] => ∅
  | i, reply :: replies => newRef t i reply ∪ newRefs t (i + 1) replies

theorem mem_newRef {t : NeighborTbl} {i ref : ℕ} {reply : Option ℕ} :
    ref ∈ newRef t i reply ↔ reply = some ref ∧ t.addrToNeighbor ref = 0xff ∧
      (i ≠ 0 ∨ t.baseNeighborUsed < t.baseNeighborSize) := by
  cases reply with
  | none => simp [newRef]
  | some other =>
    rw [newRef]
    split
    · rename_i enters
      rw [Finset.mem_singleton, Option.some.injEq]
      constructor
      · rintro rfl
        exact ⟨rfl, enters⟩
      · exact fun same => same.1.symm
    · rename_i stays
      constructor
      · intro absurd_
        cases absurd_
      · rintro ⟨same, enters⟩
        cases same
        exact absurd enters stays

theorem mem_newRefs {t : NeighborTbl} {i ref : ℕ} {replies : List (Option ℕ)} :
    ref ∈ newRefs t i replies ↔ t.addrToNeighbor ref = 0xff ∧ ∃ j, replies[j]? = some (some ref) ∧
      (i + j ≠ 0 ∨ t.baseNeighborUsed < t.baseNeighborSize) := by
  induction replies generalizing i with
  | nil => simp [newRefs]
  | cons reply replies ih =>
    rw [newRefs, Finset.mem_union, mem_newRef, ih]
    constructor
    · rintro (⟨rfl, absent, room⟩ | ⟨absent, j, here, room⟩)
      · exact ⟨absent, 0, rfl, room⟩
      · exact ⟨absent, j + 1, here, by rwa [← Nat.add_assoc, Nat.add_right_comm]⟩
    · rintro ⟨absent, j, here, room⟩
      cases j with
      | zero => exact Or.inl ⟨Option.some.inj here, absent, room⟩
      | succ j => exact Or.inr ⟨absent, j, here, by rwa [Nat.add_right_comm, Nat.add_assoc]⟩

/-! ## The base table -/

/-- A cell of the index that is set leads to the entry of its reference. -/
def IndexLeads (t : NeighborTbl) : Prop := ∀ ref, t.addrToNeighbor ref ≠ 0xff →
  (t.baseNeighbor (t.addrToNeighbor ref)).used = true ∧
    (t.baseNeighbor (t.addrToNeighbor ref)).addrRef = ref

/-- What the table has become since `t₀`: entries for new references stand behind the old ones. -/
structure Entered (t₀ t : NeighborTbl) (news : Finset ℕ) : Prop where
  used : t.baseNeighborUsed = t₀.baseNeighborUsed + news.card
  ext : t.extNeighbor = t₀.extNeighbor
  new : ∀ ref ∈ news, t₀.addrToNeighbor ref = 0xff
  kept : ∀ ref ∉ news, t.addrToNeighbor ref = t₀.addrToNeighbor ref
  fresh : ∀ ref ∈ news, t₀.baseNeighborUsed ≤ t.addrToNeighbor ref ∧
    t.addrToNeighbor ref < t.baseNeighborUsed
  leads : IndexLeads t
  old : ∀ n < t₀.baseNeighborUsed, (t.baseNeighbor n).used = (t₀.baseNeighbor n).used ∧
    (t.baseNeighbor n).relationship = (t₀.baseNeighbor n).relationship ∧
    (t.baseNeighbor n).addrRef = (t₀.baseNeighbor n).addrRef
  behind : ∀ n, t₀.baseNeighborUsed ≤ n → n < t.baseNeighborUsed →
    (t.baseNeighbor n).relationship ≠ .parent

namespace Entered

variable {t₀ t : NeighborTbl} {news : Finset ℕ}

theorem refl (leads : IndexLeads t₀) : Entered t₀ t₀ ∅ where
  used := rfl
  ext := rfl
  new _ none_ := absurd none_ (Finset.notMem_empty _)
  kept _ _ := rfl
  fresh _ none_ := absurd none_ (Finset.notMem_empty _)
  leads := leads
  old _ _ := ⟨rfl, rfl, rfl⟩
  behind _ low high := absurd high (Nat.not_lt.mpr low)

theorem setBaseSize (entered : Entered t₀ t news) (size : ℕ) :
    Entered t₀ (t.setBaseSize size) news where
  __ := entered

/-- An entry that is found gets what the extended entry says, and stays what it was. -/
theorem update (entered : Entered t₀ t news) (ext : ExtNeighborTblEnt) {ref : ℕ}
    (found : t.addrToNeighbor ref ≠ 0xff) :
    Entered t₀ (t.setBase (t.addrToNeighbor ref)
      (updatedEnt (t.baseNeighbor (t.addrToNeighbor ref)) ext ref)) news := by
  obtain ⟨used, own⟩ := entered.leads ref found
  have same : ∀ n, ((t.setBase (t.addrToNeighbor ref)
      (updatedEnt (t.baseNeighbor (t.addrToNeighbor ref)) ext ref)).baseNeighbor n).used =
        (t.baseNeighbor n).used ∧
      ((t.setBase (t.addrToNeighbor ref)
      (updatedEnt (t.baseNeighbor (t.addrToNeighbor ref)) ext ref)).baseNeighbor n).relationship =
        (t.baseNeighbor n).relationship ∧
      ((t.setBase (t.addrToNeighbor ref)
      (updatedEnt (t.baseNeighbor (t.addrToNeighbor ref)) ext ref)).baseNeighbor n).addrRef =
        (t.baseNeighbor n).addrRef := by
    intro n
    by_cases here : n = t.addrToNeighbor ref
    · rw [here, NeighborTbl.setBase_baseNeighbor, Function.update_self]
      exact ⟨used.symm, rfl, own.symm⟩
    · rw [NeighborTbl.setBase_baseNeighbor, Function.update_of_ne here]
      exact ⟨rfl, rfl, rfl⟩
  refine ⟨entered.used, entered.ext, entered.new, entered.kept, entered.fresh, ?_, ?_, ?_⟩
  · intro other there
    obtain ⟨usedThere, ownThere⟩ := entered.leads other there
    exact ⟨(same _).1.trans usedThere, (same _).2.2.trans ownThere⟩
  · intro n inside
    obtain ⟨used', relationship, addrRef⟩ := entered.old n inside
    exact ⟨(same n).1.trans used', (same n).2.1.trans relationship, (same n).2.2.trans addrRef⟩
  · intro n low high
    rw [(same n).2.1]
    exact entered.behind n low high

/-- A reference without an entry is not one of the new ones. -/
theorem unknown (entered : Entered t₀ t news) (bounds : InBounds t) {ref : ℕ}
    (absent : t.addrToNeighbor ref = 0xff) : ref ∉ news := by
  intro known
  have below := (entered.fresh ref known).2
  have small := Nat.le_trans bounds.room bounds.size
  rw [neighborTableSize] at small
  omega

/-- An entry for a reference that has none. -/
theorem append (entered : Entered t₀ t news) (bounds : InBounds t) (ext : ExtNeighborTblEnt)
    {ref : ℕ} (absent : t.addrToNeighbor ref = 0xff)
    (room : t.baseNeighborUsed < t.baseNeighborSize) :
    Entered t₀ (appendBase t ref (promotedEnt ext ref)) (insert ref news) := by
  have before : t₀.baseNeighborUsed ≤ t.baseNeighborUsed :=
    Nat.le_trans (Nat.le_add_right _ _) (Nat.le_of_eq entered.used.symm)
  have octet : t.baseNeighborUsed ≠ 0xff := by
    have size := Nat.lt_of_lt_of_le room bounds.size
    rw [neighborTableSize] at size
    omega
  have unknown : ref ∉ news := entered.unknown bounds absent
  have index : ∀ other, other ≠ ref → (appendBase t ref (promotedEnt ext ref)).addrToNeighbor other =
      t.addrToNeighbor other := fun _ apart => Function.update_of_ne apart _ _
  have own : (appendBase t ref (promotedEnt ext ref)).addrToNeighbor ref = t.baseNeighborUsed :=
    Function.update_self ..
  have entry : ∀ n, n ≠ t.baseNeighborUsed →
      (appendBase t ref (promotedEnt ext ref)).baseNeighbor n = t.baseNeighbor n :=
    fun _ apart => Function.update_of_ne apart _ _
  have last : (appendBase t ref (promotedEnt ext ref)).baseNeighbor t.baseNeighborUsed =
      promotedEnt ext ref := Function.update_self ..
  constructor
  case used =>
    change t.baseNeighborUsed + 1 = _
    rw [Finset.card_insert_of_notMem unknown, entered.used, Nat.add_assoc]
  case ext => exact entered.ext
  case new =>
    intro other member
    rcases Finset.mem_insert.mp member with rfl | earlier
    · exact (entered.kept other unknown).symm.trans absent
    · exact entered.new other earlier
  case kept =>
    intro other apart
    rw [Finset.mem_insert, not_or] at apart
    exact (index other apart.1).trans (entered.kept other apart.2)
  case fresh =>
    intro other member
    change t₀.baseNeighborUsed ≤ _ ∧ _ < t.baseNeighborUsed + 1
    rcases Finset.mem_insert.mp member with rfl | earlier
    · rw [own]
      exact ⟨before, Nat.lt_succ_self _⟩
    · have apart : other ≠ ref := fun same => unknown (same ▸ earlier)
      rw [index other apart]
      obtain ⟨low, high⟩ := entered.fresh other earlier
      exact ⟨low, Nat.lt_succ_of_lt high⟩
  case leads =>
    intro other there
    by_cases same : other = ref
    · rw [same, own, last]
      exact ⟨rfl, rfl⟩
    · rw [index other same] at there ⊢
      rw [entry _ (Nat.ne_of_lt (bounds.index other there))]
      exact entered.leads other there
  case old =>
    intro n inside
    rw [entry n (Nat.ne_of_lt (Nat.lt_of_lt_of_le inside before))]
    exact entered.old n inside
  case behind =>
    intro n low high
    by_cases here : n = t.baseNeighborUsed
    · rw [here, last]
      exact Relationship.noConfusion
    · rw [entry n here]
      exact entered.behind n low (Nat.lt_of_le_of_ne (Nat.le_of_lt_succ high) here)

/-- What a turn writes enters the reference it got, if there is room or an entry of it. -/
theorem answered (entered : Entered t₀ t news) (bounds : InBounds t) (i : ℕ) (reply : Option ℕ)
    (room : t.baseNeighborUsed < t.baseNeighborSize ↔
      (i ≠ 0 ∨ t₀.baseNeighborUsed < t₀.baseNeighborSize)) :
    Entered t₀ (answered t i reply) (news ∪ newRef t₀ i reply) := by
  cases reply with
  | none => rwa [newRef, Finset.union_empty]
  | some ref =>
    rw [NeighborTable.answered, promote]
    by_cases absent : t.addrToNeighbor ref = 0xff
    · have unknown : ref ∉ news := entered.unknown bounds absent
      have before : t₀.addrToNeighbor ref = 0xff := (entered.kept ref unknown).symm.trans absent
      rw [if_neg (not_not.mpr absent)]
      by_cases free : t.baseNeighborUsed < t.baseNeighborSize
      · rw [if_pos free, newRef, if_pos ⟨before, room.mp free⟩, Finset.union_comm]
        exact entered.append bounds _ absent free
      · rw [if_neg free, newRef, if_neg fun enters => free (room.mpr enters.2), Finset.union_empty]
        exact entered
    · rw [if_pos absent]
      have same : news ∪ newRef t₀ i (some ref) = news := by
        refine Finset.union_eq_left.mpr fun other member => ?_
        obtain ⟨reply, before, -⟩ := mem_newRef.mp member
        cases reply
        by_contra unknown
        exact absent ((entered.kept ref unknown).trans before)
      rw [same]
      exact entered.update _ absent

end Entered

/-! ## The loop -/

theorem card_newRef (t : NeighborTbl) (i : ℕ) (reply : Option ℕ) : (newRef t i reply).card ≤ 1 := by
  refine Finset.card_le_one.mpr fun ref member other member' => ?_
  have same := (mem_newRef.mp member).1.symm.trans (mem_newRef.mp member').1
  exact Option.some.inj same

/-- The first turn enters nothing into a table that is full. -/
theorem newRef_full {t : NeighborTbl} (full : ¬t.baseNeighborUsed < t.baseNeighborSize)
    (reply : Option ℕ) : newRef t 0 reply = ∅ := by
  refine Finset.eq_empty_of_forall_notMem fun ref member => ?_
  rcases (mem_newRef.mp member).2.2 with absurd_ | room
  · exact absurd_ rfl
  · exact full room

/-- The loop finds the references that the address table gives on its own, and enters them.  The
table grows by at least one entry a turn, so that only the first can find it full. -/
theorem promoteAll_entered {t₀ : NeighborTbl} (myPanidRef : ℕ) (junk : ℕ → IeeeAddrCompressed)
    (used₀ : t₀.baseNeighborUsed ≤ t₀.baseNeighborSize) (rounds i freeSize : ℕ) (c : AddrGlobals)
    {t : NeighborTbl} {news : Finset ℕ} (entered : Entered t₀ t news) (bounds : InBounds t)
    (bytes : t.baseNeighborSize * linuxSizes.base + freeSize =
      t₀.baseNeighborSize * linuxSizes.base + i * linuxSizes.ext)
    (rest : freeSize < linuxSizes.base)
    (inside : t₀.baseNeighborSize * linuxSizes.base + (i + rounds) * linuxSizes.ext ≤
      neighborTableSize * linuxSizes.base)
    (few : news.card ≤ i)
    (fewer : ¬t₀.baseNeighborUsed < t₀.baseNeighborSize → i ≠ 0 → news.card < i) :
    (linuxSizes.promoteAll myPanidRef junk rounds i freeSize ⟨c, t⟩).addr =
        (turns t₀ myPanidRef junk rounds i c).1 ∧
      Entered t₀ (linuxSizes.promoteAll myPanidRef junk rounds i freeSize ⟨c, t⟩).neighbor
        (news ∪ newRefs t₀ i (turns t₀ myPanidRef junk rounds i c).2) := by
  induction rounds generalizing i freeSize c t news with
  | zero => exact ⟨rfl, by rwa [turns, newRefs, Finset.union_empty]⟩
  | succ rounds induction_ =>
    have turn_ : turn t myPanidRef i (junk i) c = turn t₀ myPanidRef i (junk i) c := by
      rw [turn, turn, entered.ext]
    have promoted := bounds.promoteExt (s := ⟨c, t⟩) myPanidRef i (junk i)
    have size := promoteExt_sizes ⟨c, t⟩ myPanidRef i (junk i)
    have used := entered.used
    rw [Sizes.promoteAll, turns]
    rw [promoteExt_eq] at promoted size ⊢
    dsimp only at promoted size ⊢
    rw [turn_] at promoted size ⊢
    cases turned : turn t₀ myPanidRef i (junk i) c with
    | mk c reply =>
      rw [turned] at promoted size
      dsimp only at promoted size ⊢
      rw [linuxSizes_base, linuxSizes_ext] at bytes inside
      rw [linuxSizes_base] at rest
      have entered' := entered.answered bounds i reply (by omega)
      have octet : (freeSize + 14) % 2 ^ 8 = freeSize + 14 := Nat.mod_eq_of_lt (by omega)
      rw [neighborTableSize] at inside
      have grown := induction_ (i + 1) ((freeSize + 14) % 13) c
        (entered'.setBaseSize (t.baseNeighborSize + (freeSize + 14) / 13))
        (promoted.congr rfl rfl (Nat.le_trans promoted.room (size ▸ Nat.le_add_right _ _))
          (by rw [NeighborTbl.setBaseSize_baseNeighborSize, neighborTableSize]; omega))
        (by
          rw [NeighborTbl.setBaseSize_baseNeighborSize, linuxSizes_base, linuxSizes_ext]
          omega)
        (Nat.mod_lt _ (by decide))
        (by
          rw [neighborTableSize, linuxSizes_base, linuxSizes_ext]
          omega)
        (Nat.le_trans (Finset.card_union_le _ _) (Nat.add_le_add few (card_newRef t₀ i reply)))
        (by
          intro full _
          have both := Finset.card_union_le news (newRef t₀ i reply)
          by_cases first : i = 0
          · subst first
            rw [newRef_full full, Finset.union_empty]
            omega
          · have less := fewer full first
            have one := card_newRef t₀ i reply
            omega)
      rw [linuxSizes_base, linuxSizes_ext, octet, size, newRefs, ← Finset.union_assoc]
      exact grown

/-- Behind the entries in use the loop writes nothing. -/
theorem promoteAll_rest {z : Sizes} {s : Tables} (bounds : InBounds s.neighbor) (myPanidRef : ℕ)
    (junk : ℕ → IeeeAddrCompressed) (rounds i freeSize : ℕ) :
    let t := (z.promoteAll myPanidRef junk rounds i freeSize s).neighbor
    ∀ n, t.baseNeighborUsed ≤ n → t.baseNeighbor n = s.neighbor.baseNeighbor n := by
  intro t
  suffices kept : (∀ ref, t.addrToNeighbor ref ≠ 0xff →
      t.addrToNeighbor ref < t.baseNeighborUsed) ∧
        ∀ n, t.baseNeighborUsed ≤ n → t.baseNeighbor n = s.neighbor.baseNeighbor n from kept.2
  refine promoteAll_preserves (P := fun s' => (∀ ref, s'.neighbor.addrToNeighbor ref ≠ 0xff →
        s'.neighbor.addrToNeighbor ref < s'.neighbor.baseNeighborUsed) ∧
      ∀ n, s'.neighbor.baseNeighborUsed ≤ n →
        s'.neighbor.baseNeighbor n = s.neighbor.baseNeighbor n)
    ⟨bounds.index, fun _ _ => rfl⟩ ?_ fun _ _ kept => kept
  rintro s' i ⟨index, rest⟩
  rw [promoteExt_eq]
  dsimp only
  cases (turn s'.neighbor myPanidRef i (junk i) s'.addr).2 with
  | none => exact ⟨index, rest⟩
  | some ref =>
    rw [answered, promote]
    split
    · next present =>
      refine ⟨index, fun n behind => ?_⟩
      have apart : n ≠ s'.neighbor.addrToNeighbor ref :=
        Nat.ne_of_gt (Nat.lt_of_lt_of_le (index ref present) behind)
      rw [NeighborTbl.setBase_baseNeighbor, Function.update_of_ne apart]
      exact rest n behind
    · split
      · refine ⟨fun other there => ?_, fun n behind => ?_⟩
        · change (appendBase s'.neighbor ref (promotedEnt (s'.neighbor.extNeighbor i)
            ref)).addrToNeighbor other < s'.neighbor.baseNeighborUsed + 1
          by_cases same : other = ref
          · have own : (appendBase s'.neighbor ref (promotedEnt
                (s'.neighbor.extNeighbor i) ref)).addrToNeighbor other =
                s'.neighbor.baseNeighborUsed := same ▸ Function.update_self ..
            rw [own]
            exact Nat.lt_succ_self _
          · have before : (appendBase s'.neighbor ref (promotedEnt
                (s'.neighbor.extNeighbor i) ref)).addrToNeighbor other =
                s'.neighbor.addrToNeighbor other := Function.update_of_ne same _ _
            rw [before] at there ⊢
            exact Nat.lt_succ_of_lt (index other there)
        · change s'.neighbor.baseNeighborUsed + 1 ≤ n at behind
          have entry : (appendBase s'.neighbor ref (promotedEnt
              (s'.neighbor.extNeighbor i) ref)).baseNeighbor n = s'.neighbor.baseNeighbor n :=
            Function.update_of_ne (Nat.ne_of_gt behind) _ _
          rw [entry]
          exact rest n (Nat.le_of_succ_le behind)
      · exact ⟨index, rest⟩

/-- What stands at place `n` when a discovery that ran from `t` has left it: where an extended entry
was, what it left. -/
def remains (t : NeighborTbl) (left : ℕ → NeighborTblEnt) (n : ℕ) : NeighborTblEnt :=
  if linuxSizes.Overlaid t n then left n else t.baseNeighbor n

/-- The table after the end of a discovery. -/
structure Stopped (t₀ : NeighborTbl) (left : ℕ → NeighborTblEnt) (t : NeighborTbl)
    (news : Finset ℕ) : Prop where
  entered : Entered t₀ t news
  bounds : InBounds t
  rest : ∀ n, t.baseNeighborUsed ≤ n → t.baseNeighbor n = remains t₀ left n

/-- Nothing but what lies behind the entries in use comes to light. -/
theorem Entered.uncover {t₀ t : NeighborTbl} {news : Finset ℕ} (entered : Entered t₀ t news)
    (bounds : InBounds t) (left : ℕ → NeighborTblEnt) :
    Entered t₀ (linuxSizes.uncover t₀ left t) news := by
  have kept : ∀ n < t.baseNeighborUsed,
      (linuxSizes.uncover t₀ left t).baseNeighbor n = t.baseNeighbor n :=
    fun n inside => if_neg fun covered => Nat.not_lt.mpr covered.1 inside
  have more : t₀.baseNeighborUsed ≤ t.baseNeighborUsed :=
    Nat.le_trans (Nat.le_add_right _ _) (Nat.le_of_eq entered.used.symm)
  refine { entered with leads := ?_, old := ?_, behind := ?_ }
  · intro ref there
    change ((linuxSizes.uncover t₀ left t).baseNeighbor (t.addrToNeighbor ref)).used = true ∧
      ((linuxSizes.uncover t₀ left t).baseNeighbor (t.addrToNeighbor ref)).addrRef = ref
    rw [kept _ (bounds.index ref there)]
    exact entered.leads ref there
  · intro n inside
    rw [kept n (Nat.lt_of_lt_of_le inside more)]
    exact entered.old n inside
  · intro n low high
    rw [kept n high]
    exact entered.behind n low high

/-- What the end of a discovery makes of the tables. -/
theorem exneighborStop_stopped {s : Tables} (laid : LaidOut linuxSizes s.neighbor)
    (leads : IndexLeads s.neighbor) (myPanidRef : ℕ) (junk : ℕ → IeeeAddrCompressed)
    (left : ℕ → NeighborTblEnt) :
    (linuxSizes.exneighborStop s true myPanidRef junk left).addr =
        (turns s.neighbor myPanidRef junk s.neighbor.extNeighborUsed 0 s.addr).1 ∧
      Stopped s.neighbor left (linuxSizes.exneighborStop s true myPanidRef junk left).neighbor
        (newRefs s.neighbor 0
          (turns s.neighbor myPanidRef junk s.neighbor.extNeighborUsed 0 s.addr).2) := by
  have inside : s.neighbor.baseNeighborSize * linuxSizes.base +
      (0 + s.neighbor.extNeighborUsed) * linuxSizes.ext ≤ neighborTableSize * linuxSizes.base := by
    rw [Nat.zero_add]
    by_cases idle : s.neighbor.extNeighborSize = 0
    · have none_ : s.neighbor.extNeighborUsed = 0 := Nat.le_zero.mp (idle ▸ laid.used)
      rw [none_, Nat.zero_mul]
      exact Nat.mul_le_mul_right _ laid.bounds.size
    · obtain ⟨apart, placed⟩ := laid.placed idle
      calc s.neighbor.baseNeighborSize * linuxSizes.base +
            s.neighbor.extNeighborUsed * linuxSizes.ext
          ≤ s.neighbor.extOffset + s.neighbor.extNeighborSize * linuxSizes.ext :=
            Nat.add_le_add apart (Nat.mul_le_mul_right _ laid.used)
        _ ≤ _ := placed
  obtain ⟨addr, entered⟩ := promoteAll_entered myPanidRef junk laid.bounds.room
    s.neighbor.extNeighborUsed 0 0 s.addr (.refl leads) laid.bounds (by rw [Nat.zero_mul])
    (by decide) inside (Nat.zero_le _) (fun _ absurd_ => absurd rfl absurd_)
  rw [Finset.empty_union] at entered
  have bounds := (laid.stopWrites myPanidRef junk).1
  have rest := promoteAll_rest (z := linuxSizes) laid.bounds myPanidRef junk
    s.neighbor.extNeighborUsed 0 0
  refine ⟨addr, { entered.uncover bounds left with },
    (laid.exneighborStop true myPanidRef junk left).bounds, fun n behind => ?_⟩
  rw [remains, ← rest n behind]
  by_cases covered : linuxSizes.Overlaid s.neighbor n
  · rw [if_pos covered]
    exact if_pos ⟨behind, covered⟩
  · rw [if_neg covered]
    exact if_neg fun both => covered both.2

/-! ## Runs -/

namespace IndexLeads

variable {t : NeighborTbl}

theorem init : IndexLeads .init := fun _ present => absurd rfl present

theorem congr {t' : NeighborTbl} (leads : IndexLeads t)
    (base : t'.baseNeighbor = t.baseNeighbor) (index : t'.addrToNeighbor = t.addrToNeighbor) :
    IndexLeads t' := by
  rw [IndexLeads, base, index]
  exact leads

theorem append (leads : IndexLeads t) (bounds : InBounds t) (ref : ℕ) {ent : NeighborTblEnt}
    (used : ent.used = true) (own : ent.addrRef = ref) : IndexLeads (appendBase t ref ent) := by
  intro other there
  by_cases same : other = ref
  · subst same
    simpa [appendBase] using ⟨used, own⟩
  · have before : (appendBase t ref ent).addrToNeighbor other = t.addrToNeighbor other :=
      Function.update_of_ne same _ _
    rw [before] at there ⊢
    have entry : (appendBase t ref ent).baseNeighbor (t.addrToNeighbor other) =
        t.baseNeighbor (t.addrToNeighbor other) :=
      Function.update_of_ne (Nat.ne_of_lt (bounds.index other there)) _ _
    rw [entry]
    exact leads other there

end IndexLeads

theorem indexLeads_step {s : Tables} (laid : LaidOut linuxSizes s.neighbor)
    (full : Full s.neighbor) (leads : IndexLeads s.neighbor) (op : Op)
    (roomy : linuxSizes.Roomy s op) : IndexLeads (linuxSizes.step s op).neighbor := by
  cases op with
  | neighborGet addr createIfAbsent nibDepth overrun =>
    rw [Sizes.step, neighborGet]
    dsimp only
    split
    · exact leads
    · rename_i absent
      split
      · rename_i create
        split
        · exact leads
        · rw [if_pos (roomy create (not_not.mp absent))]
          exact leads.append laid.bounds addr rfl rfl
      · exact leads
  | neighborDelete ref =>
    have kept : neighborDelete s.neighbor ref = s.neighbor := if_neg (not_not.mpr roomy)
    rw [Sizes.step, kept]
    exact leads
  | exneighborStart =>
    rw [Sizes.step, Sizes.exneighborStart, packBase_full full, ite_self]
    split
    · exact leads
    · obtain ⟨base, index, -⟩ := linuxSizes.cutExt_fields s.neighbor
      exact leads.congr base index
  | exneighborByShort panidRef shortAddr beacon overrun =>
    obtain ⟨base, index, -⟩ := laid.fillOrAllocExt_base _ beacon overrun <|
      LaidOut.found_used _ _ fun i inside => List.mem_range.mp inside
    exact leads.congr base index
  | exneighborByIeee panidRef longAddr beacon junk overrun =>
    obtain ⟨base, index, -⟩ := laid.fillOrAllocExt_base _ beacon overrun <|
      LaidOut.found_used _ _ fun i inside => List.mem_range.mp (List.mem_reverse.mp inside)
    exact leads.congr base index
  | neighborExtToBaseTmp i junk junkRef =>
    rw [Sizes.step, neighborExtToBaseTmp]
    dsimp only
    split
    · exact leads
    · exact leads.append laid.bounds _ rfl rfl
  | exneighborStop joined myPanidRef junk left =>
    cases joined with
    | true => exact (exneighborStop_stopped laid leads myPanidRef junk left).2.entered.leads
    | false =>
      intro ref there
      have kept : (linuxSizes.uncover s.neighbor left s.neighbor).baseNeighbor
          (s.neighbor.addrToNeighbor ref) = s.neighbor.baseNeighbor (s.neighbor.addrToNeighbor ref) :=
        if_neg fun covered => Nat.not_lt.mpr covered.1 (laid.bounds.index ref there)
      change ((linuxSizes.uncover s.neighbor left s.neighbor).baseNeighbor
        (s.neighbor.addrToNeighbor ref)).used = true ∧
          ((linuxSizes.uncover s.neighbor left s.neighbor).baseNeighbor
            (s.neighbor.addrToNeighbor ref)).addrRef = ref
      rw [kept]
      exact leads ref there
  | addressTable addr => exact leads

/-- In every run of steps with room the extended table lies apart and the index leads to the
entries. -/
theorem indexLeads_run (addr : AddrGlobals) (ops : List Op)
    (roomy : Along linuxSizes.step linuxSizes.Roomy ⟨addr, .init⟩ ops) :
    LaidOut linuxSizes (run linuxSizes.step ⟨addr, .init⟩ ops).neighbor ∧
      IndexLeads (run linuxSizes.step ⟨addr, .init⟩ ops).neighbor := by
  have kept : ∀ (s : Tables) op,
      LaidOut linuxSizes s.neighbor ∧ Full s.neighbor ∧ IndexLeads s.neighbor →
        linuxSizes.Roomy s op → LaidOut linuxSizes (linuxSizes.step s op).neighbor ∧
          Full (linuxSizes.step s op).neighbor ∧ IndexLeads (linuxSizes.step s op).neighbor := by
    rintro s op ⟨laid, full, leads⟩ roomy
    exact ⟨(laid.step full op roomy).1, laid.full_step full op roomy,
      indexLeads_step laid full leads op roomy⟩
  obtain ⟨laid, -, leads⟩ :=
    invariant_of_along kept _ ops ⟨LaidOut.init, Full.init, IndexLeads.init⟩ roomy
  exact ⟨laid, leads⟩

end Zboss.NeighborTable
