import Zboss.Lib.Run
import Zboss.Lib.SortedIndex
import Zboss.Common.AddressTable

/-!
The short-address index of the translation table against the entries it stands
for.  `del_short_sorted` moves one byte too many: the stale cell behind the index
slides into its last place and is scanned like a live one.  When it holds the
reference being deleted (`StaleHit`) a second cell is dropped, and with it another
device.  Away from that case every operation keeps the index exact.
-/

namespace Zboss.AddressTable

open Zboss.Cells Zboss.Bisect Zboss.Run

/-- The live part of `short_sorted`. -/
def sortedRefs (c : AddrGlobals) : List ℕ := live c.shortSorted c.nSortedElements

/-- The entry is used and has a short address. -/
def Indexed (c : AddrGlobals) (ref : ℕ) : Prop :=
  ref < ieeeAddrTableSize ∧ (c.addrMap ref).used = true ∧ (c.addrMap ref).addr ≠ noShortAddr

instance (c : AddrGlobals) (ref : ℕ) : Decidable (Indexed c ref) :=
  inferInstanceAs (Decidable (_ ∧ _))

/-- The number of used entries. -/
def usedCount (c : AddrGlobals) : ℕ :=
  (live c.addrMap ieeeAddrTableSize).countP AddressMap.used

/-- The index lists the used entries that have a short address, once each and by
short address, and `n_elements` counts the used entries. -/
structure IndexInvariant (c : AddrGlobals) : Prop where
  index : SortedIndex (addressShortByRef c) (Indexed c) (sortedRefs c)
  counted : c.nElements = usedCount c

/-- Deleting `ref` closes a gap before the last cell, and the byte behind the
index is a stale copy of `ref`. -/
def StaleHit (c : AddrGlobals) (ref : ℕ) : Prop :=
  (∃ i < c.nSortedElements - 1, c.shortSorted i = ref) ∧ c.sortedBytes c.nSortedElements = ref

instance (c : AddrGlobals) (ref : ℕ) : Decidable (StaleHit c ref) :=
  inferInstanceAs (Decidable (_ ∧ _))

/-! ## The index alone -/

private theorem delScan_skip {ref n : ℕ} {bytes : ℕ → ℕ} (rounds m i dec : ℕ)
    (absent : ∀ j, i ≤ j → j < i + m → bytes j ≠ ref) :
    delScan ref n (m + rounds) i bytes dec = delScan ref n rounds (i + m) bytes dec := by
  induction m generalizing i with
  | zero => rw [Nat.zero_add, Nat.add_zero]
  | succ m induction_ =>
    rw [Nat.succ_add, delScan, if_neg (absent i (Nat.le_refl i) (by omega)),
      induction_ (i + 1) fun j low high => absent j (by omega) (by omega), Nat.add_right_comm,
      Nat.add_assoc]

private theorem delScan_absent {ref n : ℕ} {bytes : ℕ → ℕ} (absent : ∀ j < n, bytes j ≠ ref) :
    delScan ref n n 0 bytes 0 = (bytes, 0) := by
  have skipped : delScan ref n (n + 0) 0 bytes 0 = delScan ref n 0 (0 + n) bytes 0 :=
    delScan_skip 0 n 0 0 fun j _ high => absent j (by omega)
  rwa [Nat.add_zero] at skipped

/-- The scan for a reference found once: it is found again in the last cell when
the byte behind the index slid there. -/
private theorem delScan_present {ref n p : ℕ} {bytes : ℕ → ℕ} (inside : p < n)
    (here : bytes p = ref) (only : ∀ j < n, bytes j = ref → j = p) :
    delScan ref n n 0 bytes 0 =
      (if p ≠ n - 1 then memmove bytes p (p + 1) (n - p) else bytes,
        if p < n - 1 ∧ bytes n = ref then 2 else 1) := by
  obtain ⟨rest, rfl⟩ : ∃ rest, n = p + (rest + 1) := ⟨n - p - 1, by omega⟩
  rw [delScan_skip (rest + 1) p 0 0
    (fun j _ high found => by have := only j (by omega) found; omega), Nat.zero_add, delScan,
    if_pos here]
  by_cases final : p = p + (rest + 1) - 1
  · obtain rfl : rest = 0 := by omega
    rw [if_neg (not_not.mpr final), if_neg (by omega)]
    rfl
  · obtain ⟨rest, rfl⟩ : ∃ k, rest = k + 1 := ⟨rest - 1, by omega⟩
    have shifted : ∀ j, p + 1 ≤ j → j < p + 1 + (rest + 1) →
        memmove bytes p (p + 1) (p + (rest + 1 + 1) - p) j = bytes (j + 1) := by
      intro j low high
      rw [memmove, if_pos (by omega)]
      congr 1
      omega
    rw [if_pos final, Nat.add_comm rest 1, Nat.add_comm 1 rest, delScan_skip 1 rest (p + 1) 1]
    · have last := shifted (p + 1 + rest) (by omega) (by omega)
      have edge : p + 1 + rest + 1 = p + (rest + 1 + 1) := by omega
      rw [delScan, last, edge, if_neg (show ¬ p + 1 + rest ≠ p + (rest + 1 + 1) - 1 by omega)]
      have early : p < p + (rest + 1 + 1) - 1 := by omega
      by_cases stale : bytes (p + (rest + 1 + 1)) = ref
      · rw [if_pos stale, if_pos ⟨early, stale⟩]
        rfl
      · rw [if_neg stale, if_neg fun both => stale both.2]
        rfl
    · intro j low high found
      rw [shifted j low (by omega)] at found
      have := only (j + 1) (by omega) found
      omega

section

variable {c : AddrGlobals} {ref : ℕ}

private theorem sortedBytes_live (fits : c.nSortedElements ≤ ieeeAddrTableSize) :
    live c.sortedBytes c.nSortedElements = sortedRefs c :=
  live_congr fun i inside => by rw [AddrGlobals.sortedBytes, if_pos (by omega)]

/-- Deleting a reference that is not indexed changes nothing. -/
theorem delShortSorted_absent (fits : c.nSortedElements ≤ ieeeAddrTableSize)
    (absent : ref ∉ sortedRefs c) : sortedRefs (delShortSorted c ref) = sortedRefs c := by
  rw [← sortedBytes_live fits] at absent ⊢
  have scanned : delScan ref c.nSortedElements c.nSortedElements 0 c.sortedBytes 0 =
      (c.sortedBytes, 0) := delScan_absent fun j inside found =>
    absent (mem_live.mpr ⟨j, inside, found⟩)
  simp [delShortSorted, sortedRefs, scanned]

/-- Deleting an indexed reference removes it, and the last of the others as well
when the byte behind the index is a stale copy. -/
theorem delShortSorted_present (fits : c.nSortedElements ≤ ieeeAddrTableSize)
    (nodup : (sortedRefs c).Nodup) (present : ref ∈ sortedRefs c) :
    sortedRefs (delShortSorted c ref) =
      if StaleHit c ref then ((sortedRefs c).erase ref).dropLast
      else (sortedRefs c).erase ref := by
  rw [← sortedBytes_live fits] at nodup present ⊢
  obtain ⟨p, inside, here⟩ := mem_live.mp present
  have only : ∀ j < c.nSortedElements, c.sortedBytes j = ref → j = p := fun j inside' found =>
    live_nodup_iff.mp nodup j inside' p inside (found.trans here.symm)
  have erased : (live c.sortedBytes c.nSortedElements).erase ref =
      (live c.sortedBytes c.nSortedElements).eraseIdx p := by
    rw [List.erase_eq_eraseIdx_of_idxOf]
    have := nodup.idxOf_getElem p (by simpa using inside)
    simpa [here] using this
  have stale : StaleHit c ref ↔
      p < c.nSortedElements - 1 ∧ c.sortedBytes c.nSortedElements = ref := by
    refine and_congr_left fun _ => ⟨?_, fun before => ⟨p, before, ?_⟩⟩
    · rintro ⟨i, before, found⟩
      have same : i = p := only i (by omega) <| by
        rwa [AddrGlobals.sortedBytes, if_pos (by omega)]
      rwa [← same]
    · rwa [AddrGlobals.sortedBytes, if_pos (by omega)] at here
  have scanned := delScan_present inside here only
  have moved : live (if p ≠ c.nSortedElements - 1
      then memmove c.sortedBytes p (p + 1) (c.nSortedElements - p) else c.sortedBytes)
      (c.nSortedElements - 1) = (live c.sortedBytes c.nSortedElements).eraseIdx p := by
    split
    · exact live_memmove_down inside (by omega)
    · next final =>
      rw [not_not] at final
      rw [← final, ← live_take (n := c.nSortedElements) (by omega),
        List.eraseIdx_eq_take_drop_succ, List.drop_of_length_le (by simp; omega),
        List.append_nil]
  rw [sortedRefs, delShortSorted, scanned, erased]
  by_cases hit : StaleHit c ref
  · rw [if_pos hit, if_pos (stale.mp hit), ← moved, List.dropLast_eq_take, live_length,
      live_take (by omega)]
    rfl
  · rw [if_neg hit, if_neg fun both => hit (stale.mpr both), moved]

/-- The place found for a new short address: no larger address before it, no
smaller one from it on. -/
theorem sortedPlace_spec
    (ordered : (sortedRefs c).Pairwise fun a b => addressShortByRef c a ≤ addressShortByRef c b)
    (shortAddr : ℕ) :
    sortedPlace c shortAddr ≤ c.nSortedElements ∧
      (∀ i < sortedPlace c shortAddr, sortedAddr c i ≤ shortAddr) ∧
      ∀ i, sortedPlace c shortAddr ≤ i → i < c.nSortedElements → shortAddr ≤ sortedAddr c i := by
  have monotone : ∀ i j, i ≤ j → j < c.nSortedElements → sortedAddr c i ≤ sortedAddr c j := by
    intro i j before inside
    rcases Nat.lt_or_eq_of_le before with earlier | rfl
    · exact live_pairwise_iff.mp ordered i j earlier inside
    · exact Nat.le_refl _
  rw [sortedPlace]
  by_cases several : 1 < c.nSortedElements
  · obtain ⟨-, inside, yes, no⟩ := bisect_spec (p := fun i => decide (shortAddr ≥ sortedAddr c i))
      c.nSortedElements 0 c.nSortedElements (Nat.zero_le _) (Nat.le_refl _)
      fun i j _ before inside holds => decide_eq_true
        (Nat.le_trans (monotone i j before inside) (of_decide_eq_true holds))
    simp only [if_pos several]
    generalize bisect _ c.nSortedElements 0 c.nSortedElements = place at *
    rw [if_neg]
    · refine ⟨inside, fun i before => of_decide_eq_true (yes i (Nat.zero_le i) before), ?_⟩
      intro i behind inside
      have := of_decide_eq_false (no i behind inside)
      omega
    · rintro ⟨-, strict, above⟩
      have := of_decide_eq_false (no place (Nat.le_refl _) strict)
      omega
  · simp only [if_neg several]
    split
    · next both =>
      refine ⟨by omega, fun i before => ?_, by omega⟩
      obtain rfl : i = 0 := by omega
      omega
    · refine ⟨by omega, by omega, fun i _ inside => ?_⟩
      obtain rfl : i = 0 := by omega
      omega

/-- A reference is inserted at the place found for its address. -/
theorem sortedRefs_addShortSorted {shortAddr : ℕ}
    (inside : sortedPlace c shortAddr ≤ c.nSortedElements) :
    sortedRefs (addShortSorted c ref shortAddr) =
      (sortedRefs c).insertIdx (sortedPlace c shortAddr) ref := by
  rw [sortedRefs, addShortSorted]
  dsimp only
  split
  · exact live_memmove_up ref inside
  · rename_i final
    have place : sortedPlace c shortAddr = c.nSortedElements := by omega
    rw [place, live_succ, Function.update_self, live_update_of_le _ (Nat.le_refl _)]
    have appended := List.insertIdx_length_self (l := sortedRefs c) (x := ref)
    rw [sortedRefs, live_length] at appended
    exact appended.symm

/-- Adding a reference that is not indexed, under the address of its entry. -/
theorem addShortSorted_index {members : ℕ → Prop}
    (index : SortedIndex (addressShortByRef c) members (sortedRefs c)) (fresh : ¬ members ref) :
    SortedIndex (addressShortByRef c) (fun a => members a ∨ a = ref)
      (sortedRefs (addShortSorted c ref (addressShortByRef c ref))) := by
  obtain ⟨inside, below, above⟩ := sortedPlace_spec index.ordered (addressShortByRef c ref)
  rw [sortedRefs_addShortSorted inside]
  refine index.insertIdx fresh (by rwa [sortedRefs, live_length]) (fun a member => ?_)
    fun a member => ?_
  · rw [sortedRefs, live_take inside, mem_live] at member
    obtain ⟨i, before, rfl⟩ := member
    exact below i before
  · obtain ⟨i, behind, inside, rfl⟩ := mem_live_drop member
    exact above i behind inside

/-- Deleting a reference away from the stale case. -/
theorem delShortSorted_index {members : ℕ → Prop}
    (index : SortedIndex (addressShortByRef c) members (sortedRefs c))
    (bounded : ∀ a, members a → a < ieeeAddrTableSize) (clean : ¬ StaleHit c ref) :
    SortedIndex (addressShortByRef (delShortSorted c ref)) (fun a => members a ∧ a ≠ ref)
      (sortedRefs (delShortSorted c ref)) := by
  have fits : c.nSortedElements ≤ ieeeAddrTableSize := by
    simpa [sortedRefs] using index.length_le bounded
  have erased : sortedRefs (delShortSorted c ref) = (sortedRefs c).erase ref := by
    by_cases present : ref ∈ sortedRefs c
    · rw [delShortSorted_present fits index.nodup present, if_neg clean]
    · rw [delShortSorted_absent fits present, List.erase_of_not_mem present]
  rw [erased]
  exact index.erase ref

end

/-! ## The operations -/

/-- The parts of an entry the index depends on are the same. -/
def SameProfile (c d : AddrGlobals) : Prop :=
  ∀ ref, (d.addrMap ref).used = (c.addrMap ref).used ∧ (d.addrMap ref).addr = (c.addrMap ref).addr

theorem usedCount_congr {c d : AddrGlobals} (same : SameProfile c d) :
    usedCount d = usedCount c := by
  simp only [usedCount, live, List.countP_map]
  exact List.countP_congr fun ref _ => by simp [(same ref).1]

theorem indexed_congr {c d : AddrGlobals} (same : SameProfile c d) (ref : ℕ) :
    Indexed d ref ↔ Indexed c ref := by
  rw [Indexed, Indexed, (same ref).1, (same ref).2]

/-- A change that keeps the profiles and the index keeps the invariant. -/
theorem IndexInvariant.congr {c d : AddrGlobals} (invariant : IndexInvariant c)
    (same : SameProfile c d) (sorted : sortedRefs d = sortedRefs c)
    (elements : d.nElements = c.nElements) : IndexInvariant d where
  index := by
    rw [sorted]
    exact invariant.index.congr (indexed_congr same) fun ref _ => (same ref).2
  counted := by rw [elements, invariant.counted, usedCount_congr same]

/-- Writing an entry without touching its profile. -/
theorem sameProfile_setEntry {c : AddrGlobals} {ref : ℕ} {ent : AddressMap}
    (used : ent.used = (c.addrMap ref).used) (addr : ent.addr = (c.addrMap ref).addr) :
    SameProfile c (c.setEntry ref ent) := by
  intro r
  by_cases same : r = ref
  · subst same
    simp [used, addr]
  · simp [Function.update_of_ne same]

private theorem clockScan_entry (nElements limit rounds : ℕ) (scan : ClockScan) (ref : ℕ) :
    ((clockScan nElements limit rounds scan).addrMap ref).setClock false =
      (scan.addrMap ref).setClock false := by
  induction rounds generalizing scan with
  | zero => rfl
  | succ rounds induction_ =>
    rw [clockScan]
    split
    · dsimp only
      split
      · split
        · by_cases same : ref = scan.clockI
          · subst same
            simp [AddressMap.setClock]
          · simp [Function.update_of_ne same]
        · exact induction_ _
      · exact induction_ _
    · rfl

theorem clockTick_entry (c : AddrGlobals) (ref : ℕ) :
    ((clockTick c).addrMap ref).setClock false = (c.addrMap ref).setClock false := by
  have first := clockScan_entry c.nElements ieeeAddrTableSize ieeeAddrTableSize
    ⟨c.addrMap, c.clockI, 0, false⟩ ref
  simp only [clockTick]
  split
  · have second := clockScan_entry c.nElements c.clockI c.clockI
      { clockScan c.nElements ieeeAddrTableSize ieeeAddrTableSize
          ⟨c.addrMap, c.clockI, 0, false⟩ with clockI := 0 } ref
    exact second.trans first
  · exact first

theorem clockTick_profile (c : AddrGlobals) : SameProfile c (clockTick c) := by
  intro ref
  have entry := clockTick_entry c ref
  simp only [AddressMap.setClock, AddressMap.mk.injEq] at entry
  exact ⟨entry.2.2.2.1, entry.2.1⟩

theorem touch_keeps {c : AddrGlobals} (invariant : IndexInvariant c) (ref : ℕ) :
    IndexInvariant (touch c ref) :=
  invariant.congr (sameProfile_setEntry rfl rfl) rfl rfl

theorem addressLock_keeps {c : AddrGlobals} (invariant : IndexInvariant c) (ref : ℕ) :
    IndexInvariant (addressLock c ref) :=
  invariant.congr (sameProfile_setEntry rfl rfl) rfl rfl

theorem lockResult_keeps {lock : Bool} {result : AddrGlobals × Except RetError ℕ}
    (invariant : IndexInvariant result.1) : IndexInvariant (lockResult lock result).1 := by
  obtain ⟨c, reply⟩ := result
  cases reply with
  | error e => exact invariant
  | ok ref =>
    cases lock with
    | false => exact invariant
    | true => exact addressLock_keeps invariant ref

theorem ieeeAddrCompress_keeps {c : AddrGlobals} (invariant : IndexInvariant c)
    (address : IeeeAddr) (junk : IeeeAddrCompressed) :
    IndexInvariant (ieeeAddrCompress c address junk).1 := by
  rw [ieeeAddrCompress]
  split
  · exact invariant.congr (fun _ => ⟨rfl, rfl⟩) rfl rfl
  · exact invariant

theorem mem_probe {start i : ℕ} (member : i ∈ probe start) : i < ieeeAddrTableSize := by
  obtain ⟨cnt, -, rfl⟩ := List.mem_map.mp member
  exact Nat.mod_lt _ (by decide)

/-- What the search by IEEE address finds is used and has that address. -/
theorem ieeeSearch_spec {c : AddrGlobals} {compressed : IeeeAddrCompressed} {ref : ℕ}
    (found : ieeeSearch c compressed = some ref) :
    ref < ieeeAddrTableSize ∧ (c.addrMap ref).used = true ∧
      (c.addrMap ref).ieeeAddr = compressed := by
  have held := List.find?_some found
  rw [Bool.and_eq_true, decide_eq_true_eq] at held
  exact ⟨mem_probe (List.mem_of_find?_eq_some found), held⟩

/-- The slot a new entry takes was free. -/
theorem freeSlot_spec {c : AddrGlobals} {ieeeCompressed : Option IeeeAddrCompressed} {i : ℕ}
    (found : freeSlot c ieeeCompressed = some i) :
    i < ieeeAddrTableSize ∧ (c.addrMap i).used = false := by
  rw [freeSlot] at found
  exact ⟨mem_probe (List.mem_of_find?_eq_some found), by simpa using List.find?_some found⟩

theorem usedCount_setEntry {c : AddrGlobals} {ref : ℕ} (ent : AddressMap)
    (inside : ref < ieeeAddrTableSize) :
    usedCount (c.setEntry ref ent) + (if (c.addrMap ref).used then 1 else 0) =
      usedCount c + if ent.used then 1 else 0 :=
  countP_live_update AddressMap.used ent inside

theorem index_setEntry {c : AddrGlobals} {members : ℕ → Prop} {ref : ℕ} (ent : AddressMap)
    (index : SortedIndex (addressShortByRef c) members (sortedRefs c)) (outside : ¬ members ref) :
    SortedIndex (addressShortByRef (c.setEntry ref ent)) members
      (sortedRefs (c.setEntry ref ent)) := by
  refine index.congr (fun _ => Iff.rfl) fun r member => ?_
  have other : r ≠ ref := fun same => outside (same ▸ member)
  simp [addressShortByRef, Function.update_of_ne other]

/-- What filling a free entry changes: the entry, the index and the count. -/
theorem fillEntry_eq {c : AddrGlobals} {i : ℕ} (free : (c.addrMap i).used = false)
    (ieeeCompressed : Option IeeeAddrCompressed) (shortAddr : ℕ) :
    let ent := (c.addrMap i).setPair shortAddr (ieeeCompressed.getD .zero)
    fillEntry c i ieeeCompressed shortAddr =
      { (if shortAddr ≠ noShortAddr then addShortSorted (c.setEntry i ent) i shortAddr
          else c.setEntry i ent) with
        nElements := c.nElements + 1
        addrMap := Function.update c.addrMap i (ent.setUsed true) } := by
  simp only [fillEntry, free, Bool.false_eq_true, if_false]
  split <;> simp [AddrGlobals.setEntry, addShortSorted]

theorem fillEntry_addrMap {c : AddrGlobals} {i : ℕ} (free : (c.addrMap i).used = false)
    (ieeeCompressed : Option IeeeAddrCompressed) (shortAddr : ℕ) :
    (fillEntry c i ieeeCompressed shortAddr).addrMap = Function.update c.addrMap i
      (((c.addrMap i).setPair shortAddr (ieeeCompressed.getD .zero)).setUsed true) := by
  rw [fillEntry_eq free]

theorem fillEntry_manufacturers {c : AddrGlobals} {i : ℕ} (free : (c.addrMap i).used = false)
    (ieeeCompressed : Option IeeeAddrCompressed) (shortAddr : ℕ) :
    (fillEntry c i ieeeCompressed shortAddr).usedManufacturer = c.usedManufacturer ∧
      (fillEntry c i ieeeCompressed shortAddr).devManufacturer = c.devManufacturer := by
  rw [fillEntry_eq free]
  dsimp only
  split <;> exact ⟨rfl, rfl⟩

/-- A free entry that is filled joins the index when it gets a short address. -/
theorem fillEntry_keeps {c : AddrGlobals} (invariant : IndexInvariant c) {i : ℕ}
    (inside : i < ieeeAddrTableSize) (free : (c.addrMap i).used = false)
    (ieeeCompressed : Option IeeeAddrCompressed) (shortAddr : ℕ) :
    IndexInvariant (fillEntry c i ieeeCompressed shortAddr) := by
  have outside : ¬ Indexed c i := fun indexed => by simp [indexed.2.1] at free
  generalize entDef : (c.addrMap i).setPair shortAddr (ieeeCompressed.getD .zero) = ent
  have addr : ent.addr = shortAddr := by rw [← entDef]; rfl
  have unused : ent.used = false := by rw [← entDef]; exact free
  have index := index_setEntry ent invariant.index outside
  have final := fillEntry_eq free ieeeCompressed shortAddr
  rw [entDef] at final
  have entry : (fillEntry c i ieeeCompressed shortAddr).addrMap =
      Function.update c.addrMap i (ent.setUsed true) := by rw [final]
  have indexed : ∀ ref, Indexed (fillEntry c i ieeeCompressed shortAddr) ref ↔
      Indexed c ref ∨ (shortAddr ≠ noShortAddr ∧ ref = i) := by
    intro ref
    rw [Indexed, entry]
    by_cases same : ref = i
    · subst same
      simp [Indexed, inside, addr, free]
    · simp [Indexed, same]
  have keys : addressShortByRef (fillEntry c i ieeeCompressed shortAddr) =
      addressShortByRef (c.setEntry i ent) := by
    funext ref
    rw [addressShortByRef, entry, addressShortByRef]
    by_cases same : ref = i
    · subst same
      simp
    · simp [same]
  constructor
  · rw [keys]
    by_cases addressed : shortAddr ≠ noShortAddr
    · have joined := addShortSorted_index index outside
      rw [show addressShortByRef (c.setEntry i ent) i = shortAddr by
        simp [addressShortByRef, addr]] at joined
      have sorted : sortedRefs (fillEntry c i ieeeCompressed shortAddr) =
          sortedRefs (addShortSorted (c.setEntry i ent) i shortAddr) := by
        rw [final, if_pos addressed]; rfl
      rw [sorted]
      exact joined.congr (fun ref => by rw [indexed]; simp [addressed]) fun _ _ => rfl
    · have sorted : sortedRefs (fillEntry c i ieeeCompressed shortAddr) =
          sortedRefs (c.setEntry i ent) := by
        rw [final, if_neg addressed]; rfl
      rw [sorted]
      exact index.congr (fun ref => by rw [indexed]; simp [addressed]) fun _ _ => rfl
  · have counted := usedCount_setEntry (c := c) (ent.setUsed true) inside
    have shape : usedCount (fillEntry c i ieeeCompressed shortAddr) =
        usedCount (c.setEntry i (ent.setUsed true)) := by
      rw [usedCount, entry]; rfl
    have elements : (fillEntry c i ieeeCompressed shortAddr).nElements = c.nElements + 1 := by
      rw [final]
    rw [free, AddressMap.setUsed_used] at counted
    rw [elements, invariant.counted, shape]
    simpa using counted.symm

theorem addrAdd_keeps {c : AddrGlobals} (invariant : IndexInvariant c)
    (ieeeCompressed : Option IeeeAddrCompressed) (shortAddr : ℕ) :
    IndexInvariant (addrAdd c ieeeCompressed shortAddr).1 := by
  rw [addrAdd]
  cases found : freeSlot c ieeeCompressed with
  | none => exact invariant
  | some i =>
    obtain ⟨inside, unused⟩ := freeSlot_spec found
    have ticked := clockTick_profile c
    exact fillEntry_keeps (invariant.congr ticked rfl rfl) inside
      ((ticked i).1.trans unused) ieeeCompressed shortAddr

theorem usedCount_pos {c : AddrGlobals} {ref : ℕ} (inside : ref < ieeeAddrTableSize)
    (used : (c.addrMap ref).used = true) : 0 < usedCount c := by
  rw [usedCount, List.countP_pos_iff]
  exact ⟨c.addrMap ref, mem_live.mpr ⟨ref, inside, rfl⟩, used⟩

theorem usedCount_le (c : AddrGlobals) : usedCount c ≤ ieeeAddrTableSize := by
  simpa [usedCount] using List.countP_le_length (p := AddressMap.used)
    (l := live c.addrMap ieeeAddrTableSize)

section

variable {c : AddrGlobals} {ref : ℕ}

@[simp] theorem addressDelete_addrMap :
    (addressDelete c ref).addrMap =
      Function.update c.addrMap ref ((c.addrMap ref).setUsed false) := rfl

theorem addressDelete_sortedRefs :
    sortedRefs (addressDelete c ref) = sortedRefs (delShortSorted c ref) := rfl

/-- Deleting a used entry, away from the stale case, removes it and nothing else. -/
theorem addressDelete_keeps (invariant : IndexInvariant c) (inside : ref < ieeeAddrTableSize)
    (used : (c.addrMap ref).used = true) (clean : ¬ StaleHit c ref) :
    IndexInvariant (addressDelete c ref) := by
  have removed := delShortSorted_index invariant.index (fun _ indexed => indexed.1) clean
  have index := index_setEntry ((c.addrMap ref).setUsed false) removed
    (show ¬ (Indexed c ref ∧ ref ≠ ref) by simp)
  constructor
  · rw [addressDelete_sortedRefs]
    refine index.congr (fun r => ?_) fun r _ => by
      rw [addressShortByRef, addressDelete_addrMap, addressShortByRef]; rfl
    by_cases same : r = ref
    · subst same
      simp [Indexed]
    · simp [Indexed, same]
  · have counted := usedCount_setEntry (c := c) ((c.addrMap ref).setUsed false) inside
    have positive := usedCount_pos inside used
    have bounded := usedCount_le c
    have shape : usedCount (addressDelete c ref) =
        usedCount (c.setEntry ref ((c.addrMap ref).setUsed false)) := rfl
    have elements : (addressDelete c ref).nElements = (c.nElements + (2 ^ 32 - 1)) % 2 ^ 32 := rfl
    simp only [used, AddressMap.setUsed_used, if_true, Bool.false_eq_true, if_false] at counted
    have table : ieeeAddrTableSize = 101 := rfl
    rw [elements, invariant.counted, shape]
    omega

/-- In the stale case the last of the other devices leaves the index with the
deleted one, so the condition is exact for a deletion. -/
theorem addressDelete_keeps_iff (invariant : IndexInvariant c)
    (inside : ref < ieeeAddrTableSize) (used : (c.addrMap ref).used = true) :
    IndexInvariant (addressDelete c ref) ↔ ¬ StaleHit c ref := by
  refine ⟨fun kept stale => ?_, addressDelete_keeps invariant inside used⟩
  obtain ⟨⟨i, early, here⟩, -⟩ := id stale
  have fits : c.nSortedElements ≤ ieeeAddrTableSize := by
    simpa [sortedRefs] using invariant.index.length_le fun _ indexed => indexed.1
  have nodup := invariant.index.nodup
  have present : ref ∈ sortedRefs c := mem_live.mpr ⟨i, by omega, here⟩
  -- the last device of the index is another one, and it is dropped
  obtain ⟨last, lastDef⟩ : ∃ last, last = c.shortSorted (c.nSortedElements - 1) := ⟨_, rfl⟩
  have member : last ∈ sortedRefs c := mem_live.mpr ⟨_, by omega, lastDef.symm⟩
  have other : last ≠ ref := by
    intro same
    have := live_nodup_iff.mp nodup _ (by omega) i (by omega)
      (lastDef.symm.trans (same.trans here.symm))
    omega
  have gone : last ∉ sortedRefs (addressDelete c ref) := by
    have shape := live_succ c.shortSorted (c.nSortedElements - 1)
    rw [Nat.sub_add_cancel (by omega), ← lastDef] at shape
    have before : ref ∈ live c.shortSorted (c.nSortedElements - 1) :=
      mem_live.mpr ⟨i, early, here⟩
    rw [addressDelete_sortedRefs, delShortSorted_present fits nodup present, if_pos stale,
      sortedRefs, shape, List.erase_append_left _ before, List.dropLast_concat]
    intro member
    rw [sortedRefs, shape, List.nodup_append] at nodup
    exact nodup.2.2 last (List.mem_of_mem_erase member) last (by simp) rfl
  refine gone ((kept.index.exact last).mpr ?_)
  obtain ⟨bound, alive, addressed⟩ := (invariant.index.exact last).mp member
  exact ⟨bound, by simpa [Function.update_of_ne other] using alive,
    by simpa [Function.update_of_ne other] using addressed⟩

/-- Storing a pair in a used entry, away from the stale case. -/
theorem storePair_keeps (invariant : IndexInvariant c) (inside : ref < ieeeAddrTableSize)
    (used : (c.addrMap ref).used = true) (compressed : IeeeAddrCompressed) {shortAddress : ℕ}
    (valid : shortAddress ≠ noShortAddr)
    (clean : (c.addrMap ref).addr ≠ shortAddress → (c.addrMap ref).addr ≠ noShortAddr →
      ¬ StaleHit c ref) : IndexInvariant (storePair c ref compressed shortAddress) := by
  generalize namedDef : c.setEntry ref ((c.addrMap ref).setIeeeAddr compressed) = named
  have entry : named.addrMap ref = (c.addrMap ref).setIeeeAddr compressed := by
    simp [← namedDef]
  have renamed : IndexInvariant named := by
    rw [← namedDef]
    exact invariant.congr (sameProfile_setEntry rfl rfl) rfl rfl
  have stale : StaleHit named ref ↔ StaleHit c ref := by rw [← namedDef]; rfl
  rw [storePair]
  refine touch_keeps ?_ ref
  simp only [namedDef, entry, AddressMap.setIeeeAddr_addr]
  by_cases changed : (c.addrMap ref).addr ≠ shortAddress
  · rw [if_pos changed]
    generalize deletedDef : (if (c.addrMap ref).addr ≠ noShortAddr then delShortSorted named ref
      else named) = deleted
    have map : deleted.addrMap = named.addrMap := by rw [← deletedDef]; split <;> rfl
    have elements : deleted.nElements = named.nElements := by rw [← deletedDef]; split <;> rfl
    have index : SortedIndex (addressShortByRef deleted) (fun r => Indexed named r ∧ r ≠ ref)
        (sortedRefs deleted) := by
      rw [← deletedDef]
      split
      · next addressed =>
        exact delShortSorted_index renamed.index (fun _ indexed => indexed.1)
          (mt stale.mp (clean changed addressed))
      · next unaddressed =>
        refine renamed.index.congr (fun r => ⟨And.left, fun indexed => ⟨indexed, ?_⟩⟩)
          fun _ _ => rfl
        rintro rfl
        exact unaddressed (by simpa [entry] using indexed.2.2)
    have outside : ¬ (Indexed named ref ∧ ref ≠ ref) := by simp
    have joined := addShortSorted_index
      (index_setEntry ((deleted.addrMap ref).setAddr shortAddress) index outside) outside
    rw [show addressShortByRef (deleted.setEntry ref ((deleted.addrMap ref).setAddr shortAddress))
      ref = shortAddress by simp [addressShortByRef]] at joined
    constructor
    · refine joined.congr (fun r => ?_) fun _ _ => rfl
      by_cases same : r = ref
      · subst same
        simp [Indexed, addShortSorted, map, entry, inside, used, valid]
      · simp [Indexed, addShortSorted, map, same]
    · have counted := usedCount_setEntry (c := named)
        ((deleted.addrMap ref).setAddr shortAddress) inside
      have shape : usedCount (addShortSorted (deleted.setEntry ref
          ((deleted.addrMap ref).setAddr shortAddress)) ref shortAddress) =
          usedCount (named.setEntry ref ((deleted.addrMap ref).setAddr shortAddress)) := by
        simp [usedCount, addShortSorted, map]
      rw [shape]
      rw [AddressMap.setAddr_used, map] at counted
      rw [map]
      exact (elements.trans renamed.counted).trans (Nat.add_right_cancel counted).symm
  · rw [if_neg changed]
    exact renamed

end

end Zboss.AddressTable
