import Zboss.Aps.BindingTable

/-!
The two arrays of the binding table as a set of links.  A table is sound when the
records are distinct, every destination has its source and every source a
destination; binding a new link adds it, and unbinding a present one removes it and
nothing else.
-/

namespace Zboss.Binding

open Zboss.Cells

/-- The source records in use. -/
def srcs (t : BindingTable) : List BindSrc := live t.srcTable t.srcNElements

/-- The destination records in use. -/
def dsts (t : BindingTable) : List BindDst := live t.dstTable t.dstNElements

/-- The invariant of the two arrays. -/
structure Sound (t : BindingTable) : Prop where
  srcFits : t.srcNElements ≤ srcBindingTableSize
  dstFits : t.dstNElements ≤ dstBindingTableSize
  srcOnce : (srcs t).Nodup
  dstOnce : (dsts t).Nodup
  indexed : ∀ e ∈ dsts t, e.srcTableIndex < t.srcNElements
  needed : ∀ s < t.srcNElements, ∃ e ∈ dsts t, e.srcTableIndex = s

/-- The table links a source to a destination. -/
def Linked (t : BindingTable) (src : BindSrc) (addr : BindDstAddr) : Prop :=
  ∃ s < t.srcNElements, t.srcTable s = src ∧ ⟨addr, s⟩ ∈ dsts t

theorem zero_sound : Sound .zero where
  srcFits := Nat.zero_le _
  dstFits := Nat.zero_le _
  srcOnce := List.nodup_nil
  dstOnce := List.nodup_nil
  indexed e member := by cases member
  needed s inside := absurd inside (Nat.not_lt_zero s)

variable {t : BindingTable}

/-! ## Searching -/

/-- Source records with equal contents are one. -/
theorem Sound.src_eq (sound : Sound t) {s s' : ℕ} (inside : s < t.srcNElements)
    (inside' : s' < t.srcNElements) (same : t.srcTable s = t.srcTable s') : s = s' :=
  live_nodup_iff.mp sound.srcOnce s inside s' inside' same

theorem findSrcRef_present (sound : Sound t) {s : ℕ} (inside : s < t.srcNElements) :
    findSrcRef t (t.srcTable s) = s := by
  have found : (List.range (max 1 t.srcNElements)).find?
      (fun l => decide (t.srcTable l = t.srcTable s)) = some s := by
    rw [List.find?_range_eq_some]
    refine ⟨by simp, List.mem_range.mpr (by omega), fun j before => ?_⟩
    have differs : t.srcTable j ≠ t.srcTable s := by
      intro same
      have := sound.src_eq (by omega) inside same
      omega
    simp [differs]
  rw [findSrcRef, found, Option.getD_some]

/-- A search in vain, but for the stale record of an empty table. -/
theorem findSrcRef_absent {src : BindSrc} (absent : ∀ s < t.srcNElements, t.srcTable s ≠ src) :
    findSrcRef t src = 0xff ∨ (t.srcNElements = 0 ∧ findSrcRef t src = 0) := by
  unfold findSrcRef
  cases found : (List.range (max 1 t.srcNElements)).find?
      fun l => decide (t.srcTable l = src) with
  | none => exact .inl rfl
  | some l =>
    right
    have inside := List.mem_range.mp (List.mem_of_find?_eq_some found)
    have same : t.srcTable l = src := by simpa using List.find?_some found
    have stale : ¬ l < t.srcNElements := fun live => absent l live same
    exact ⟨by omega, by rw [Option.getD_some]; omega⟩

/-- A bind works on the record of its source or on the next free one. -/
theorem bindPlace_cases (sound : Sound t) (src : BindSrc) :
    (bindPlace t src < t.srcNElements ∧ t.srcTable (bindPlace t src) = src) ∨
      (bindPlace t src = t.srcNElements ∧ ∀ s < t.srcNElements, t.srcTable s ≠ src) := by
  by_cases present : ∃ s < t.srcNElements, t.srcTable s = src
  · left
    obtain ⟨s, inside, rfl⟩ := present
    have size := sound.srcFits
    rw [srcBindingTableSize] at size
    rw [bindPlace, findSrcRef_present sound inside, if_neg (by omega)]
    exact ⟨inside, rfl⟩
  · right
    have absent : ∀ s < t.srcNElements, t.srcTable s ≠ src :=
      fun s inside same => present ⟨s, inside, same⟩
    refine ⟨?_, absent⟩
    rcases findSrcRef_absent absent with missing | ⟨empty, zero⟩
    · rw [bindPlace, if_pos missing]
    · rw [bindPlace, zero, if_neg (by decide), empty]

/-! ## Binding -/

theorem dsts_addBinding (src : BindSrc) (s : ℕ) (addr : BindDstAddr) :
    dsts (addBinding t src s addr) = dsts t ++ [⟨addr, s⟩] := by
  have cells : dsts (addBinding t src s addr) =
      live (Function.update t.dstTable t.dstNElements ⟨addr, s⟩) (t.dstNElements + 1) := rfl
  rw [cells, live_succ, live_update_of_le _ (Nat.le_refl _), Function.update_self, dsts]

/-- The source records after a bind: those before, and the bound one. -/
theorem addBinding_src {src : BindSrc} {s : ℕ} (addr : BindDstAddr)
    (place : (s < t.srcNElements ∧ t.srcTable s = src) ∨
      (s = t.srcNElements ∧ ∀ i < t.srcNElements, t.srcTable i ≠ src)) :
    let t' := addBinding t src s addr
    s < t'.srcNElements ∧ t'.srcTable s = src ∧ t.srcNElements ≤ t'.srcNElements ∧
      (∀ i < t.srcNElements, t'.srcTable i = t.srcTable i) ∧
      ∀ i < t'.srcNElements, i < t.srcNElements ∨ i = s := by
  dsimp only
  rcases place with ⟨inside, same⟩ | ⟨rfl, -⟩
  · have old : s ≠ t.srcNElements := Nat.ne_of_lt inside
    have srcTable : (addBinding t src s addr).srcTable = t.srcTable := if_neg old
    have srcN : (addBinding t src s addr).srcNElements = t.srcNElements := if_neg old
    rw [srcTable, srcN]
    exact ⟨inside, same, Nat.le_refl _, fun i _ => rfl, fun i live => .inl live⟩
  · have srcTable : (addBinding t src t.srcNElements addr).srcTable =
        Function.update t.srcTable t.srcNElements src := if_pos rfl
    have srcN : (addBinding t src t.srcNElements addr).srcNElements = t.srcNElements + 1 :=
      if_pos rfl
    rw [srcTable, srcN]
    refine ⟨Nat.lt_succ_self _, Function.update_self _ _ _, Nat.le_succ _, fun i live => ?_,
      fun i live => ?_⟩
    · exact Function.update_of_ne (Nat.ne_of_lt live) _ _
    · omega

theorem addBinding_linked (sound : Sound t) {src : BindSrc} {s : ℕ} (addr : BindDstAddr)
    (place : (s < t.srcNElements ∧ t.srcTable s = src) ∨
      (s = t.srcNElements ∧ ∀ i < t.srcNElements, t.srcTable i ≠ src))
    (src' : BindSrc) (addr' : BindDstAddr) :
    Linked (addBinding t src s addr) src' addr' ↔
      (src' = src ∧ addr' = addr) ∨ Linked t src' addr' := by
  obtain ⟨inside, same, more, kept, -⟩ := addBinding_src addr place
  unfold Linked
  rw [dsts_addBinding]
  constructor
  · rintro ⟨i, live, rfl, member⟩
    rcases List.mem_append.mp member with old | new
    · have before := sound.indexed _ old
      exact .inr ⟨i, before, (kept i before).symm, old⟩
    · rw [List.mem_singleton, BindDst.mk.injEq] at new
      obtain ⟨rfl, rfl⟩ := new
      exact .inl ⟨same, rfl⟩
  · rintro (⟨rfl, rfl⟩ | ⟨i, before, rfl, member⟩)
    · exact ⟨s, inside, same, List.mem_append_right _ (List.mem_singleton.mpr rfl)⟩
    · exact ⟨i, Nat.lt_of_lt_of_le before more, kept i before, List.mem_append_left _ member⟩

/-- Binding a new link keeps the table sound. -/
theorem addBinding_sound (sound : Sound t) {src : BindSrc} {s : ℕ} {addr : BindDstAddr}
    (place : (s < t.srcNElements ∧ t.srcTable s = src) ∨
      (s = t.srcNElements ∧ ∀ i < t.srcNElements, t.srcTable i ≠ src))
    (srcRoom : s < srcBindingTableSize) (dstRoom : t.dstNElements < dstBindingTableSize)
    (new : ¬ Linked t src addr) : Sound (addBinding t src s addr) := by
  obtain ⟨inside, same, more, kept, only⟩ := addBinding_src addr place
  have fresh : (⟨addr, s⟩ : BindDst) ∉ dsts t := by
    intro member
    have live := sound.indexed _ member
    exact new ⟨s, live, (kept s live).symm.trans same, member⟩
  refine ⟨?_, dstRoom, ?_, ?_, fun e member => ?_, fun i live => ?_⟩
  · simp only [addBinding]
    split
    · omega
    · exact sound.srcFits
  · rw [srcs, live_nodup_iff]
    intro i live j live' equal
    rcases place with ⟨before, held⟩ | ⟨rfl, absent⟩
    · have old : ∀ k < (addBinding t src s addr).srcNElements, k < t.srcNElements := by
        intro k live
        rcases only k live with old | rfl
        · exact old
        · exact before
      rw [kept i (old i live), kept j (old j live')] at equal
      exact sound.src_eq (old i live) (old j live') equal
    · rcases only i live with oldI | rfl
      · rcases only j live' with oldJ | rfl
        · rw [kept i oldI, kept j oldJ] at equal
          exact sound.src_eq oldI oldJ equal
        · rw [kept i oldI, same] at equal
          exact absurd equal (absent i oldI)
      · rcases only j live' with oldJ | rfl
        · rw [kept j oldJ, same] at equal
          exact absurd equal.symm (absent j oldJ)
        · rfl
  · rw [dsts_addBinding, List.nodup_append]
    refine ⟨sound.dstOnce, List.nodup_singleton _, ?_⟩
    rintro e old e' isNew rfl
    rw [List.mem_singleton] at isNew
    exact fresh (isNew ▸ old)
  · rw [dsts_addBinding] at member
    rcases List.mem_append.mp member with old | isNew
    · exact Nat.lt_of_lt_of_le (sound.indexed e old) more
    · rw [List.mem_singleton.mp isNew]
      exact inside
  · rw [dsts_addBinding]
    rcases only i live with old | rfl
    · obtain ⟨e, member, index⟩ := sound.needed i old
      exact ⟨e, List.mem_append_left _ member, index⟩
    · exact ⟨_, List.mem_append_right _ (List.mem_singleton.mpr rfl), rfl⟩

/-! ## Unbinding -/

theorem dsts_removeDst {d : ℕ} (inside : d < t.dstNElements) :
    dsts (removeDst t d) = (dsts t).eraseIdx d :=
  live_memmove_down inside (by omega)

theorem dsts_drop {d : ℕ} (inside : d < t.dstNElements) :
    (dsts t).drop d = t.dstTable d :: (dsts t).drop (d + 1) := by
  have bound : d < (dsts t).length := by simpa [dsts] using inside
  rw [List.drop_eq_getElem_cons bound]
  simp [dsts]

theorem dsts_drop_last {d : ℕ} (behind : t.dstNElements ≤ d) : (dsts t).drop d = [] := by
  rw [List.drop_eq_nil_iff]
  simpa [dsts] using behind

/-- The removing loop filters the records from `d` on. -/
theorem dstScan_spec (ent : BindDst) {rounds d : ℕ} (found : Bool) (inside : d < t.dstNElements)
    (enough : t.dstNElements ≤ rounds + d) :
    ∃ t', dstScan ent rounds d found t = some (t', found || ((dsts t).drop d).any fun e =>
        decide (e ≠ ent ∧ e.srcTableIndex = ent.srcTableIndex)) ∧
      dsts t' = (dsts t).take d ++ ((dsts t).drop d).filter (fun e => decide (e ≠ ent)) ∧
      t'.srcTable = t.srcTable ∧ t'.srcNElements = t.srcNElements ∧
      t'.dstNElements ≤ t.dstNElements := by
  induction rounds generalizing d found t with
  | zero => omega
  | succ rounds induction_ =>
    have cells := dsts_drop inside
    have bound : d < (dsts t).length := by simpa [dsts] using inside
    unfold dstScan
    split
    · next same =>
      rw [if_neg (by omega)]
      have removed := dsts_removeDst inside
      have take : (dsts (removeDst t d)).take d = (dsts t).take d := by
        rw [removed, List.take_eraseIdx_eq_take_of_le _ _ _ (Nat.le_refl d)]
      have drop : (dsts (removeDst t d)).drop d = (dsts t).drop (d + 1) := by
        rw [removed, List.eraseIdx_eq_take_drop_succ, List.drop_append_of_le_length (by simp; omega)]
        simp
      have filtered : ((dsts t).drop d).filter (fun e => decide (e ≠ ent)) =
          ((dsts (removeDst t d)).drop d).filter (fun e => decide (e ≠ ent)) := by
        rw [cells, same, drop, List.filter_cons_of_neg (by simp)]
      have others : ((dsts t).drop d).any (fun e =>
          decide (e ≠ ent ∧ e.srcTableIndex = ent.srcTableIndex)) =
          ((dsts (removeDst t d)).drop d).any (fun e =>
            decide (e ≠ ent ∧ e.srcTableIndex = ent.srcTableIndex)) := by
        rw [cells, same, drop, List.any_cons]
        simp
      rw [filtered, others, ← take]
      have fewer : (removeDst t d).dstNElements = t.dstNElements - 1 := rfl
      dsimp only
      split
      · next more =>
        obtain ⟨t', scanned, kept, srcTable, srcN, dstN⟩ := induction_ found more (by omega)
        exact ⟨t', scanned, kept, srcTable, srcN, by omega⟩
      · next last =>
        have empty := dsts_drop_last (Nat.not_lt.mp last)
        refine ⟨removeDst t d, ?_, ?_, rfl, rfl, by omega⟩
        · rw [empty, List.any_nil, Bool.or_false]
        · rw [empty, List.filter_nil, List.append_nil, List.take_of_length_le]
          simpa [dsts] using last
    · next differs =>
      dsimp only
      have split : (dsts t).take (d + 1) = (dsts t).take d ++ [t.dstTable d] := by
        rw [List.take_succ_eq_append_getElem bound]
        simp [dsts]
      have others : (found || ((dsts t).drop d).any fun e =>
          decide (e ≠ ent ∧ e.srcTableIndex = ent.srcTableIndex)) =
          ((found || decide ((t.dstTable d).srcTableIndex = ent.srcTableIndex)) ||
            ((dsts t).drop (d + 1)).any fun e =>
              decide (e ≠ ent ∧ e.srcTableIndex = ent.srcTableIndex)) := by
        rw [cells, List.any_cons, Bool.or_assoc]
        simp [differs]
      rw [others, cells, List.filter_cons_of_pos (by simpa using differs), List.append_cons, ← split]
      split
      · next more => exact induction_ _ more (by omega)
      · next last =>
        have empty := dsts_drop_last (Nat.not_lt.mp last)
        refine ⟨t, ?_, ?_, rfl, rfl, Nat.le_refl _⟩
        · rw [empty, List.any_nil, Bool.or_false]
        · rw [empty, List.filter_nil, List.append_nil, List.take_of_length_le]
          simpa [dsts] using last

theorem dsts_map_shift (s : ℕ) :
    live (fun d => if d < max 1 t.dstNElements then shiftIndex s (t.dstTable d) else t.dstTable d)
      t.dstNElements = (dsts t).map (shiftIndex s) := by
  apply List.ext_getElem
  · simp [dsts]
  · intro d left right
    have inside : d < max 1 t.dstNElements := by
      rw [live_length] at left
      omega
    simp only [dsts, live_getElem, List.getElem_map]
    rw [if_pos inside]

/-- The place of a source record after record `s` is gone. -/
theorem memmove_srcTable {s i : ℕ} (inside : i < t.srcNElements) (differs : i ≠ s) :
    memmove t.srcTable s (s + 1) (t.srcNElements - 1 - s) (if i > s then i - 1 else i) =
      t.srcTable i := by
  unfold memmove
  split
  · next behind =>
    rw [if_pos (by omega)]
    congr 1
    omega
  · next before => rw [if_neg (by omega)]

theorem shiftIndex_index (s : ℕ) (e : BindDst) : (shiftIndex s e).srcTableIndex =
    if e.srcTableIndex > s then e.srcTableIndex - 1 else e.srcTableIndex := by
  unfold shiftIndex
  split <;> rfl

theorem shiftIndex_addr (s : ℕ) (e : BindDst) : (shiftIndex s e).addr = e.addr := by
  unfold shiftIndex
  split <;> rfl

/-- Removing a source record without destinations: the others keep their links. -/
theorem removeSrc_spec {s : ℕ} (srcFits : t.srcNElements ≤ srcBindingTableSize)
    (dstFits : t.dstNElements ≤ dstBindingTableSize) (srcOnce : (srcs t).Nodup)
    (dstOnce : (dsts t).Nodup) (inside : s < t.srcNElements)
    (indexed : ∀ e ∈ dsts t, e.srcTableIndex < t.srcNElements ∧ e.srcTableIndex ≠ s)
    (needed : ∀ i < t.srcNElements, i ≠ s → ∃ e ∈ dsts t, e.srcTableIndex = i) :
    ∃ t', removeSrc t s = some t' ∧ Sound t' ∧
      ∀ src addr, Linked t' src addr ↔ Linked t src addr := by
  rw [removeSrc, if_neg (by omega)]
  refine ⟨_, rfl, ?_⟩
  generalize table : ({ t with
    srcNElements := t.srcNElements - 1
    srcTable := memmove t.srcTable s (s + 1) (t.srcNElements - 1 - s)
    dstTable := fun d =>
      if d < max 1 t.dstNElements then shiftIndex s (t.dstTable d) else t.dstTable d } :
    BindingTable) = t'
  have srcN : t'.srcNElements = t.srcNElements - 1 := by rw [← table]
  have dstN : t'.dstNElements = t.dstNElements := by rw [← table]
  have srcList : srcs t' = (srcs t).eraseIdx s := by
    rw [← table]
    exact live_memmove_down inside (by omega)
  have dstList : dsts t' = (dsts t).map (shiftIndex s) := by
    rw [← table]
    exact dsts_map_shift s
  have srcTable : ∀ i < t.srcNElements, i ≠ s →
      t'.srcTable (if i > s then i - 1 else i) = t.srcTable i := by
    intro i live differs
    rw [← table]
    exact memmove_srcTable live differs
  constructor
  · refine ⟨by omega, dstN ▸ dstFits, ?_, ?_, fun e member => ?_, fun i live => ?_⟩
    · rw [srcList]
      exact srcOnce.eraseIdx s
    · rw [dstList]
      refine dstOnce.map_on fun e member f member' same => ?_
      obtain ⟨-, differs⟩ := indexed e member
      obtain ⟨-, differs'⟩ := indexed f member'
      have index := congrArg BindDst.srcTableIndex same
      have addr := congrArg BindDst.addr same
      rw [shiftIndex_index, shiftIndex_index] at index
      rw [shiftIndex_addr, shiftIndex_addr] at addr
      cases e
      cases f
      simp only [BindDst.mk.injEq] at *
      refine ⟨addr, ?_⟩
      split at index <;> split at index <;> omega
    · rw [dstList] at member
      obtain ⟨old, held, rfl⟩ := List.mem_map.mp member
      obtain ⟨live, differs⟩ := indexed old held
      rw [shiftIndex_index, srcN]
      split <;> omega
    · -- the record that had the place before is `i` or the next one
      obtain ⟨e, member, index⟩ := needed (if i < s then i else i + 1) (by split <;> omega)
        (by split <;> omega)
      refine ⟨shiftIndex s e, dstList ▸ List.mem_map_of_mem member, ?_⟩
      rw [shiftIndex_index, index]
      split <;> split <;> omega
  · intro src addr
    unfold Linked
    rw [dstList]
    constructor
    · rintro ⟨i, live, rfl, member⟩
      obtain ⟨e, member, shifted⟩ := List.mem_map.mp member
      obtain ⟨before, differs⟩ := indexed e member
      have index := congrArg BindDst.srcTableIndex shifted
      have same := congrArg BindDst.addr shifted
      rw [shiftIndex_index] at index
      rw [shiftIndex_addr] at same
      refine ⟨e.srcTableIndex, before, ?_, ?_⟩
      · rw [← srcTable _ before differs, index]
      · change e.addr = addr at same
        rw [← same]
        exact member
    · rintro ⟨i, live, rfl, member⟩
      obtain ⟨-, differs⟩ := indexed _ member
      refine ⟨if i > s then i - 1 else i, ?_, srcTable i live differs, ?_⟩
      · change i ≠ s at differs
        rw [srcN]
        split <;> omega
      · refine List.mem_map.mpr ⟨_, member, ?_⟩
        unfold shiftIndex
        split <;> rfl

/-- Unbinding a present link keeps the table sound and removes that link only. -/
theorem removeBinding_spec (sound : Sound t) {s : ℕ} {addr : BindDstAddr}
    (inside : s < t.srcNElements) (present : ⟨addr, s⟩ ∈ dsts t) :
    ∃ t', removeBinding t s addr = some t' ∧ Sound t' ∧ ∀ src' addr',
      Linked t' src' addr' ↔ Linked t src' addr' ∧ ¬ (src' = t.srcTable s ∧ addr' = addr) := by
  have nonempty : 0 < t.dstNElements := by
    have some_ := List.length_pos_of_mem present
    simpa [dsts] using some_
  obtain ⟨t1, scanned, kept, srcTable, srcN, dstN⟩ :=
    dstScan_spec ⟨addr, s⟩ false nonempty (Nat.le_succ t.dstNElements)
  rw [List.take_zero, List.nil_append, List.drop_zero] at kept
  rw [List.drop_zero, Bool.false_or] at scanned
  have member : ∀ e, e ∈ dsts t1 ↔ e ∈ dsts t ∧ e ≠ ⟨addr, s⟩ := by
    intro e
    rw [kept, List.mem_filter, decide_eq_true_iff]
  have srcList : srcs t1 = srcs t := by rw [srcs, srcs, srcTable, srcN]
  have linked : ∀ src' addr', Linked t1 src' addr' ↔
      Linked t src' addr' ∧ ¬ (src' = t.srcTable s ∧ addr' = addr) := by
    intro src' addr'
    unfold Linked
    rw [srcTable, srcN]
    constructor
    · rintro ⟨i, live, rfl, held⟩
      obtain ⟨old, differs⟩ := (member _).mp held
      refine ⟨⟨i, live, rfl, old⟩, ?_⟩
      rintro ⟨same, rfl⟩
      exact differs (by rw [sound.src_eq live inside same])
    · rintro ⟨⟨i, live, rfl, held⟩, other⟩
      refine ⟨i, live, rfl, (member _).mpr ⟨held, ?_⟩⟩
      intro same
      rw [BindDst.mk.injEq] at same
      obtain ⟨rfl, rfl⟩ := same
      exact other ⟨rfl, rfl⟩
  have dstFits : t1.dstNElements ≤ dstBindingTableSize := Nat.le_trans dstN sound.dstFits
  have dstOnce : (dsts t1).Nodup := by
    rw [kept]
    exact sound.dstOnce.filter _
  have others : ∀ i < t.srcNElements, i ≠ s → ∃ e ∈ dsts t1, e.srcTableIndex = i := by
    intro i live differs
    obtain ⟨e, held, index⟩ := sound.needed i live
    refine ⟨e, (member e).mpr ⟨held, ?_⟩, index⟩
    rintro rfl
    exact differs index.symm
  rw [removeBinding, scanned]
  dsimp only
  split
  · next more =>
    obtain ⟨e, held, differs⟩ := List.any_eq_true.mp more
    rw [decide_eq_true_iff] at differs
    refine ⟨t1, rfl, ⟨srcN ▸ sound.srcFits, dstFits, srcList ▸ sound.srcOnce, dstOnce,
      fun e held => ?_, fun i live => ?_⟩, linked⟩
    · rw [srcN]
      exact sound.indexed e ((member e).mp held).1
    · by_cases last : i = s
      · exact ⟨e, (member e).mpr ⟨held, differs.1⟩, differs.2.trans last.symm⟩
      · exact others i (srcN ▸ live) last
  · next none =>
    obtain ⟨t', removed, sound', same⟩ := removeSrc_spec
      (srcN ▸ sound.srcFits) dstFits (srcList ▸ sound.srcOnce) dstOnce (srcN ▸ inside)
      (fun e held => by
        obtain ⟨old, differs⟩ := (member e).mp held
        refine ⟨srcN ▸ sound.indexed e old, fun index => none ?_⟩
        exact List.any_eq_true.mpr ⟨e, old, decide_eq_true ⟨differs, index⟩⟩)
      (fun i live => others i (srcN ▸ live))
    exact ⟨t', removed, sound', fun src' addr' => (same src' addr').trans (linked src' addr')⟩

end Zboss.Binding
