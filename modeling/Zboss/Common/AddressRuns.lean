import Zboss.Common.AddressIndex

/-!
Runs of the translation table from the zeroed context, under the notes of
`zb_address.h` on the arguments.  A run in which no deletion from the index meets
a stale copy of the deleted reference keeps the index exact; one in which it does
loses a device.
-/

namespace Zboss.AddressTable

open Zboss.Run

/-- A call of the table's interface.  `junk` is what an uninitialised compressed
address on the caller's stack holds. -/
inductive Op
  | byIeee (ieee : IeeeAddr) (create lock : Bool) (junk : IeeeAddrCompressed)
  | byShort (shortAddress : ℕ) (create lock : Bool)
  | update (ieee : IeeeAddr) (shortAddress : ℕ) (lock : Bool) (junk : IeeeAddrCompressed)
  | delete (ref : ℕ)

/-- The table after a call. -/
def step (c : AddrGlobals) : Op → AddrGlobals
  | .byIeee ieee create lock junk => (addressByIeee c ieee create lock junk).1
  | .byShort shortAddress create lock => (addressByShort c shortAddress create lock).1
  | .update ieee shortAddress lock junk => (addressUpdate c ieee shortAddress lock junk).1
  | .delete ref => addressDelete c ref

/-- The notes of the header: no zero IEEE address, no short address `0xffff`, and
only used references are deleted. -/
def Respects (c : AddrGlobals) : Op → Prop
  | .byIeee ieee _ _ _ => ieee ≠ .zero
  | .byShort shortAddress _ _ => shortAddress ≠ noShortAddr
  | .update ieee shortAddress _ _ => ieee ≠ .zero ∧ shortAddress ≠ noShortAddr
  | .delete ref => ref < ieeeAddrTableSize ∧ (c.addrMap ref).used = true

/-- The deletion that resolves a conflict of `zb_address_update` is not stale. -/
def ConflictClean (c : AddrGlobals) : Option ℕ → Option ℕ → Prop
  | some ref, some refLong => ref ≠ refLong →
    ((c.addrMap ref).lockCnt = 0 → ¬ StaleHit c ref) ∧
      ((c.addrMap ref).lockCnt ≠ 0 → (c.addrMap refLong).lockCnt = 0 → ¬ StaleHit c refLong)
  | _, _ => True

/-- The deletion that precedes a changed short address is not stale. -/
def StoreClean (c : AddrGlobals) (shortAddress ref : ℕ) : Prop :=
  (c.addrMap ref).addr ≠ shortAddress → (c.addrMap ref).addr ≠ noShortAddr → ¬ StaleHit c ref

/-- No deletion from the index that `zb_address_update` makes is stale. -/
def UpdateClean (c : AddrGlobals) (compressed : IeeeAddrCompressed) (shortAddress : ℕ) : Prop :=
  ConflictClean c (shortSearch c shortAddress) (ieeeSearch c compressed) ∧
    ∀ ref ∈ (resolveConflict c (shortSearch c shortAddress) (ieeeSearch c compressed)).2,
      StoreClean (resolveConflict c (shortSearch c shortAddress) (ieeeSearch c compressed)).1
        shortAddress ref

/-- No deletion from the index that the call makes is stale. -/
def Clean (c : AddrGlobals) : Op → Prop
  | .update ieee shortAddress _ junk =>
    UpdateClean (ieeeAddrCompress c ieee junk).1 (ieeeAddrCompress c ieee junk).2 shortAddress
  | .delete ref => ¬ StaleHit c ref
  | _ => True

instance (c : AddrGlobals) : DecidablePred (Respects c)
  | .byIeee .. => inferInstanceAs (Decidable (_ ≠ _))
  | .byShort .. => inferInstanceAs (Decidable (_ ≠ _))
  | .update .. => inferInstanceAs (Decidable (_ ∧ _))
  | .delete _ => inferInstanceAs (Decidable (_ ∧ _))

instance (c : AddrGlobals) : ∀ short long, Decidable (ConflictClean c short long)
  | some _, some _ => inferInstanceAs (Decidable (_ → _))
  | some _, none => isTrue trivial
  | none, _ => isTrue trivial

instance (c : AddrGlobals) (shortAddress : ℕ) : DecidablePred (StoreClean c shortAddress) :=
  fun _ => inferInstanceAs (Decidable (_ → _))

instance (c : AddrGlobals) : DecidablePred (Clean c)
  | .byIeee .. => isTrue trivial
  | .byShort .. => isTrue trivial
  | .update .. => inferInstanceAs (Decidable (_ ∧ _))
  | .delete _ => inferInstanceAs (Decidable (¬ _))

/-! ## One step -/

variable {c : AddrGlobals}

theorem zero_indexInvariant : IndexInvariant .zero where
  index := ⟨by simp [sortedRefs, AddrGlobals.zero], by simp [sortedRefs, AddrGlobals.zero], by
    simp [sortedRefs, Indexed, AddrGlobals.zero, AddressMap.zero]⟩
  counted := by decide

/-- What the search by short address finds is used and has that address. -/
theorem shortSearch_spec (invariant : IndexInvariant c) {shortAddr ref : ℕ}
    (found : shortSearch c shortAddr = some ref) :
    Indexed c ref ∧ (c.addrMap ref).addr = shortAddr := by
  rw [shortSearch] at found
  split at found
  · next both =>
    cases found
    refine ⟨(invariant.index.exact _).mp (Cells.mem_live.mpr ⟨_, both.2.1, rfl⟩), ?_⟩
    exact both.2.2.symm
  · cases found

/-- Resolving a conflict keeps the index and leaves a used entry to write to. -/
theorem resolveConflict_keeps (invariant : IndexInvariant c) {short long : Option ℕ}
    (shortUsed : ∀ ref ∈ short, ref < ieeeAddrTableSize ∧ (c.addrMap ref).used = true)
    (longUsed : ∀ ref ∈ long, ref < ieeeAddrTableSize ∧ (c.addrMap ref).used = true)
    (clean : ConflictClean c short long) :
    IndexInvariant (resolveConflict c short long).1 ∧
      ∀ ref ∈ (resolveConflict c short long).2, ref < ieeeAddrTableSize ∧
        ((resolveConflict c short long).1.addrMap ref).used = true := by
  cases short with
  | none => exact ⟨invariant, longUsed⟩
  | some ref =>
    obtain ⟨inside, used⟩ := shortUsed ref rfl
    cases long with
    | none => exact ⟨invariant, shortUsed⟩
    | some refLong =>
      obtain ⟨insideLong, usedLong⟩ := longUsed refLong rfl
      rw [resolveConflict]
      by_cases differ : ref ≠ refLong
      · rw [if_pos differ]
        obtain ⟨first, second⟩ := clean differ
        by_cases unlocked : (c.addrMap ref).lockCnt = 0
        · rw [if_pos unlocked]
          refine ⟨addressDelete_keeps invariant inside used (first unlocked), ?_⟩
          rintro _ ⟨⟩
          exact ⟨insideLong, by simpa [Function.update_of_ne (Ne.symm differ)] using usedLong⟩
        · rw [if_neg unlocked]
          by_cases unlockedLong : (c.addrMap refLong).lockCnt = 0
          · rw [if_pos unlockedLong]
            refine ⟨addressDelete_keeps invariant insideLong usedLong
              (second unlocked unlockedLong), ?_⟩
            rintro _ ⟨⟩
            exact ⟨inside, by simpa [Function.update_of_ne differ] using used⟩
          · rw [if_neg unlockedLong]
            exact ⟨invariant, shortUsed⟩
      · rw [if_neg differ]
        exact ⟨invariant, shortUsed⟩

theorem addressUpdate_keeps (invariant : IndexInvariant c) (ieee : IeeeAddr) {shortAddress : ℕ}
    (valid : shortAddress ≠ noShortAddr) (lock : Bool) (junk : IeeeAddrCompressed)
    (clean : Clean c (.update ieee shortAddress lock junk)) :
    IndexInvariant (addressUpdate c ieee shortAddress lock junk).1 := by
  have compressed := ieeeAddrCompress_keeps invariant ieee junk
  obtain ⟨conflict, store⟩ := clean
  obtain ⟨resolved, used⟩ := resolveConflict_keeps compressed
    (fun ref found => (shortSearch_spec compressed found).1.imp id And.left)
    (fun ref found => (ieeeSearch_spec found).imp id And.left) conflict
  rw [addressUpdate]
  refine lockResult_keeps ?_
  split
  · next ref known =>
    obtain ⟨inside, alive⟩ := used ref known
    exact storePair_keeps resolved inside alive _ valid (store ref known)
  · exact addrAdd_keeps resolved _ _

/-- A lookup keeps the index, whether it finds, creates or fails. -/
theorem lookup_keeps (invariant : IndexInvariant c) (found : Option ℕ) (create lock : Bool)
    (ieeeCompressed : Option IeeeAddrCompressed) (shortAddr : ℕ) :
    IndexInvariant (lockResult lock <| match found with
      | some ref => (touch c ref, .ok ref)
      | none => if create then addrAdd c ieeeCompressed shortAddr
        else (c, .error .notFound)).1 := by
  refine lockResult_keeps ?_
  cases found with
  | some ref => exact touch_keeps invariant ref
  | none =>
    cases create with
    | true => exact addrAdd_keeps invariant ieeeCompressed shortAddr
    | false => exact invariant

/-- A call that respects the header and meets no stale copy keeps the index exact. -/
theorem step_keeps (op : Op) (invariant : IndexInvariant c) (respects : Respects c op)
    (clean : Clean c op) : IndexInvariant (step c op) := by
  cases op with
  | byIeee ieee create lock junk =>
    exact lookup_keeps (ieeeAddrCompress_keeps invariant ieee junk) _ create lock _ _
  | byShort shortAddress create lock => exact lookup_keeps invariant _ create lock none _
  | update ieee shortAddress lock junk =>
    exact addressUpdate_keeps invariant ieee respects.2 lock junk clean
  | delete ref => exact addressDelete_keeps invariant respects.1 respects.2 clean

/-! ## Runs -/

/-- In a run that respects the header and meets no stale copy, the index is exact
in every state, and deleting one device removes no other from it. -/
theorem address_index_exact (ops : List Op)
    (met : Along step (fun c op => Respects c op ∧ Clean c op) .zero ops) :
    IndexInvariant (run step .zero ops) ∧
      ∀ ref < ieeeAddrTableSize, ((run step .zero ops).addrMap ref).used = true →
        ¬ StaleHit (run step .zero ops) ref → ∀ other ≠ ref,
          (other ∈ sortedRefs (addressDelete (run step .zero ops) ref) ↔
            other ∈ sortedRefs (run step .zero ops)) := by
  have invariant := invariant_of_along (fun c op held ready => step_keeps op held ready.1 ready.2)
    _ ops zero_indexInvariant met
  refine ⟨invariant, fun ref inside used clean other differs => ?_⟩
  have deleted := addressDelete_keeps invariant inside used clean
  rw [deleted.index.exact, invariant.index.exact]
  simp [Indexed, differs]

/-- Two devices are created and one is deleted again. -/
def staleOps : List Op := [.byShort 1 true false, .byShort 2 true false, .delete 0]

/-- Deleting the first of two devices empties the index: the second is lost. -/
theorem address_index_loses_device :
    ¬ ∀ ops, Along step Respects .zero ops → IndexInvariant (run step .zero ops) := by
  intro claim
  have invariant := claim staleOps (by decide +kernel)
  have listed := (invariant.index.exact 1).mpr (by decide +kernel)
  exact absurd listed (by decide +kernel)

/-- A run that meets the condition: a pair is stored, moved to another short
address, and a third device comes and goes. -/
def cleanOps : List Op :=
  [.byShort 7 true true, .update ⟨⟨1, 2, 3⟩, ⟨4, 5, 6, 7, 8⟩⟩ 9 false .zero,
    .update ⟨⟨1, 2, 3⟩, ⟨4, 5, 6, 7, 8⟩⟩ 11 false .zero, .byShort 5 true false, .delete 1]

theorem address_index_exact_cleanOps : IndexInvariant (run step .zero cleanOps) :=
  (address_index_exact cleanOps (by decide +kernel)).1

end Zboss.AddressTable
