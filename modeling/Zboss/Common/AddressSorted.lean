import Zboss.Common.AddressIndex

/-!
The two primitives of the sorted index on their own, on any array that is in order, of any length
and with any number of equal addresses.  The search is the linear one, and adding a reference is
inserting it.
-/

namespace Zboss.AddressTable

open Zboss.Cells Zboss.Bisect

/-- The first reference in the array with the address. -/
def linearSearch (c : AddrGlobals) (shortAddr : ℕ) : Option ℕ :=
  (sortedRefs c).find? fun ref => decide (addressShortByRef c ref = shortAddr)

/-- The array is in the order of the addresses. -/
def InOrder (c : AddrGlobals) : Prop :=
  (sortedRefs c).Pairwise fun a b => addressShortByRef c a ≤ addressShortByRef c b

instance (c : AddrGlobals) : Decidable (InOrder c) :=
  inferInstanceAs (Decidable (List.Pairwise _ _))

namespace InOrder

variable {c : AddrGlobals}

theorem monotone (ordered : InOrder c) {i j : ℕ} (before : i ≤ j) (inside : j < c.nSortedElements) :
    sortedAddr c i ≤ sortedAddr c j := by
  rcases Nat.lt_or_eq_of_le before with earlier | rfl
  · exact live_pairwise_iff.mp ordered i j earlier inside
  · exact Nat.le_refl _

/-- The binary search ends at the first address that is not smaller; without it, for one element
or none, the search stays at the beginning. -/
theorem searchPlace_spec (ordered : InOrder c) (shortAddr : ℕ) :
    (∀ i < searchPlace c shortAddr, sortedAddr c i < shortAddr) ∧
      (1 < c.nSortedElements → ∀ i, searchPlace c shortAddr ≤ i → i < c.nSortedElements →
        shortAddr ≤ sortedAddr c i) ∧
      (c.nSortedElements ≤ 1 → searchPlace c shortAddr = 0) := by
  rw [searchPlace]
  by_cases several : 1 < c.nSortedElements
  · obtain ⟨-, -, yes, no⟩ := bisect_spec (p := fun i => decide (shortAddr > sortedAddr c i))
      c.nSortedElements 0 c.nSortedElements (Nat.zero_le _) (Nat.le_refl _)
      fun i j _ before inside holds => decide_eq_true
        (Nat.lt_of_le_of_lt (ordered.monotone before inside) (of_decide_eq_true holds))
    rw [if_pos several]
    refine ⟨fun i before => of_decide_eq_true (yes i (Nat.zero_le i) before), ?_,
      fun few => absurd several (Nat.not_lt.mpr few)⟩
    exact fun _ i behind inside => Nat.le_of_not_lt (of_decide_eq_false (no i behind inside))
  · rw [if_neg several]
    exact ⟨fun i absurd_ => absurd absurd_ (Nat.not_lt_zero i), fun many => absurd many several,
      fun _ => rfl⟩

/-- What stands before the place has not the address. -/
theorem linearSearch_eq (c : AddrGlobals) (shortAddr : ℕ) {place : ℕ}
    (inside : place < c.nSortedElements) (here : sortedAddr c place = shortAddr)
    (before : ∀ i < place, sortedAddr c i ≠ shortAddr) :
    linearSearch c shortAddr = some (c.shortSorted place) := by
  rw [linearSearch, List.find?_eq_some_iff_getElem]
  refine ⟨decide_eq_true here, place, by rwa [sortedRefs, live_length], ?_, fun i earlier => ?_⟩
  · exact live_getElem _ _ _ _
  · have differs := before i earlier
    simp only [sortedRefs, live_getElem, Bool.not_eq_true', decide_eq_false_iff_not]
    exact differs

theorem shortSearch_eq (ordered : InOrder c) (shortAddr : ℕ) :
    shortSearch c shortAddr = linearSearch c shortAddr := by
  obtain ⟨smaller, larger, first⟩ := ordered.searchPlace_spec shortAddr
  rw [shortSearch]
  by_cases found : 0 < c.nSortedElements ∧ searchPlace c shortAddr < c.nSortedElements ∧
      shortAddr = sortedAddr c (searchPlace c shortAddr)
  · rw [if_pos found]
    exact (linearSearch_eq c shortAddr found.2.1 found.2.2.symm fun i before =>
      Nat.ne_of_lt (smaller i before)).symm
  · rw [if_neg found]
    symm
    rw [linearSearch, List.find?_eq_none]
    intro ref member same
    obtain ⟨i, inside, rfl⟩ := mem_live.mp member
    have same : sortedAddr c i = shortAddr := of_decide_eq_true same
    apply found
    refine ⟨Nat.zero_lt_of_lt inside, ?_⟩
    rcases Nat.lt_or_ge 1 c.nSortedElements with many | few
    · -- the entry is not before the place, and the one at the place is no larger
      have behind : searchPlace c shortAddr ≤ i := by
        by_contra earlier
        exact Nat.ne_of_lt (smaller i (Nat.lt_of_not_le earlier)) same
      have there := Nat.lt_of_le_of_lt behind inside
      have below := ordered.monotone behind inside
      rw [same] at below
      exact ⟨there, Nat.le_antisymm (larger many _ (Nat.le_refl _) there) below⟩
    · have only : i = searchPlace c shortAddr := by
        rw [first few]
        omega
      rw [← only]
      exact ⟨inside, same.symm⟩

theorem addShortSorted (ordered : InOrder c) {ref shortAddr : ℕ}
    (own : addressShortByRef c ref = shortAddr) : InOrder (addShortSorted c ref shortAddr) := by
  obtain ⟨inside, below, above⟩ := sortedPlace_spec ordered shortAddr
  rw [InOrder, sortedRefs_addShortSorted inside]
  refine pairwise_insertIdx ordered (by rwa [sortedRefs, live_length]) (fun a member => ?_)
    fun a member => ?_
  · rw [sortedRefs, live_take inside, mem_live] at member
    obtain ⟨i, before, rfl⟩ := member
    exact (below i before).trans_eq own.symm
  · obtain ⟨i, behind, inside, rfl⟩ := mem_live_drop member
    exact own.trans_le (above i behind inside)

end InOrder

/-- On every array in order the search finds what a linear scan finds, and adding a reference under
the address of its entry inserts it and keeps the order. -/
theorem short_sorted_primitives (c : AddrGlobals) (ordered : InOrder c) :
    (∀ shortAddr, shortSearch c shortAddr = linearSearch c shortAddr) ∧
      ∀ ref shortAddr, addressShortByRef c ref = shortAddr →
        InOrder (addShortSorted c ref shortAddr) ∧
          (sortedRefs (addShortSorted c ref shortAddr)).length = (sortedRefs c).length + 1 ∧
          ∃ i ≤ (sortedRefs c).length,
            sortedRefs (addShortSorted c ref shortAddr) = (sortedRefs c).insertIdx i ref := by
  refine ⟨ordered.shortSearch_eq, fun ref shortAddr own => ⟨ordered.addShortSorted own, ?_, ?_⟩⟩
  · rw [sortedRefs, sortedRefs, live_length, live_length]
    rfl
  · obtain ⟨inside, -, -⟩ := sortedPlace_spec ordered shortAddr
    exact ⟨_, by rwa [sortedRefs, live_length],
      sortedRefs_addShortSorted inside⟩

/-- Three entries, two of them with one address. -/
def equalAddresses : AddrGlobals :=
  { AddrGlobals.zero with
    addrMap := fun ref => { AddrGlobals.zero.addrMap ref with
      addr := if ref = 4 then 9 else if ref = 8 then 3 else 7 }
    shortSorted := fun i => if i = 0 then 8 else i
    nSortedElements := 3 }

theorem short_sorted_primitives_equalAddresses :
    shortSearch equalAddresses 7 = linearSearch equalAddresses 7 ∧
      InOrder (addShortSorted equalAddresses 4 9) :=
  ⟨(short_sorted_primitives equalAddresses (by decide)).1 7,
    ((short_sorted_primitives equalAddresses (by decide)).2 4 9 rfl).1⟩

end Zboss.AddressTable
