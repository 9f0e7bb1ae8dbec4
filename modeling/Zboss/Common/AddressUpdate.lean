import Zboss.Common.AddressIeee
import Zboss.Common.AddressRuns

/-!
`zb_address_update` on the table as a partial map from references to pairs of a short and a
compressed address.  It gives one reference the pair, takes from the table whoever else held
one of the two addresses, and leaves all others as they are.
-/

namespace Zboss.AddressTable

open Zboss.Bisect Zboss.Run

variable {c d : AddrGlobals}

/-- The pair of addresses the reference stands for. -/
def pairAt (c : AddrGlobals) (ref : ℕ) : Option (ℕ × IeeeAddrCompressed) :=
  if ref < ieeeAddrTableSize ∧ (c.addrMap ref).used = true then
    some ((c.addrMap ref).addr, (c.addrMap ref).ieeeAddr)
  else none

theorem pairAt_eq_some {ref short : ℕ} {z : IeeeAddrCompressed} :
    pairAt c ref = some (short, z) ↔ ref < ieeeAddrTableSize ∧ (c.addrMap ref).used = true ∧
      (c.addrMap ref).addr = short ∧ (c.addrMap ref).ieeeAddr = z := by
  unfold pairAt
  split
  · rename_i used
    simp [used.1, used.2]
  · rename_i unused
    constructor
    · intro none_
      cases none_
    · rintro ⟨inside, used, -⟩
      exact absurd ⟨inside, used⟩ unused

theorem indexed_iff_pairAt {ref : ℕ} :
    Indexed c ref ↔ ∃ short z, pairAt c ref = some (short, z) ∧ short ≠ noShortAddr := by
  simp only [pairAt_eq_some, Indexed]
  constructor
  · rintro ⟨inside, used, addressed⟩
    exact ⟨_, _, ⟨inside, used, rfl, rfl⟩, addressed⟩
  · rintro ⟨_, _, ⟨inside, used, rfl, rfl⟩, addressed⟩
    exact ⟨inside, used, addressed⟩

theorem known_iff_pairAt {ref : ℕ} :
    Known c ref ↔ ∃ short z, pairAt c ref = some (short, z) ∧ z ≠ .zero := by
  simp only [pairAt_eq_some]
  constructor
  · rintro ⟨inside, used, nonzero⟩
    exact ⟨_, _, ⟨inside, used, rfl, rfl⟩, nonzero⟩
  · rintro ⟨_, _, ⟨inside, used, rfl, rfl⟩, nonzero⟩
    exact ⟨inside, used, nonzero⟩

/-- The index is exact, no device has two entries and no short address has two. -/
structure Sound (c : AddrGlobals) : Prop where
  index : IndexInvariant c
  ieee : IeeeUnique c
  shorts : ∀ r s short z y, pairAt c r = some (short, z) → pairAt c s = some (short, y) →
    short ≠ noShortAddr → r = s

theorem zero_sound : Sound .zero where
  index := zero_indexInvariant
  ieee := zero_ieeeUnique
  shorts r s short z y held := by
    have used := (pairAt_eq_some.mp held).2.1
    cases used

theorem Sound.devices (sound : Sound c) {r s a b : ℕ} {z : IeeeAddrCompressed}
    (left : pairAt c r = some (a, z)) (right : pairAt c s = some (b, z)) (nonzero : z ≠ .zero) :
    r = s := by
  obtain ⟨-, -, -, sameR⟩ := pairAt_eq_some.mp left
  obtain ⟨-, -, -, sameS⟩ := pairAt_eq_some.mp right
  exact sound.ieee.devices r s (known_iff_pairAt.mpr ⟨a, z, left, nonzero⟩)
    (known_iff_pairAt.mpr ⟨b, z, right, nonzero⟩) (sameR.trans sameS.symm)

/-! ## Searches -/

/-- The search by short address finds an entry that has it. -/
theorem shortSearch_of_indexed (invariant : IndexInvariant c) {ref : ℕ} (indexed : Indexed c ref) :
    ∃ r, shortSearch c (c.addrMap ref).addr = some r := by
  obtain ⟨j, inside, here⟩ := Cells.mem_live.mp ((invariant.index.exact ref).mpr indexed)
  have monotone : ∀ i k, i ≤ k → k < c.nSortedElements → sortedAddr c i ≤ sortedAddr c k := by
    intro i k before inside
    rcases Nat.lt_or_eq_of_le before with earlier | rfl
    · exact Cells.live_pairwise_iff.mp invariant.index.ordered i k earlier inside
    · exact Nat.le_refl _
  have own : sortedAddr c j = (c.addrMap ref).addr := by rw [sortedAddr, here]
  have place : searchPlace c (c.addrMap ref).addr < c.nSortedElements ∧
      (c.addrMap ref).addr = sortedAddr c (searchPlace c (c.addrMap ref).addr) := by
    rw [searchPlace]
    by_cases several : 1 < c.nSortedElements
    · obtain ⟨-, -, less, notLess⟩ :=
        bisect_spec (p := fun i => decide ((c.addrMap ref).addr > sortedAddr c i))
          c.nSortedElements 0 c.nSortedElements (Nat.zero_le _) (Nat.le_refl _)
          fun i k _ before inside holds => decide_eq_true
            (Nat.lt_of_le_of_lt (monotone i k before inside) (of_decide_eq_true holds))
      simp only [if_pos several]
      generalize bisect _ c.nSortedElements 0 c.nSortedElements = place at *
      have before : place ≤ j := by
        by_contra behind
        have := of_decide_eq_true (less j (Nat.zero_le j) (Nat.lt_of_not_le behind))
        omega
      have low := monotone place j before inside
      have high := of_decide_eq_false (notLess place (Nat.le_refl _) (by omega))
      exact ⟨by omega, by omega⟩
    · simp only [if_neg several]
      obtain rfl : j = 0 := by omega
      exact ⟨by omega, own.symm⟩
  refine ⟨c.shortSorted (searchPlace c (c.addrMap ref).addr), ?_⟩
  rw [shortSearch]
  exact if_pos ⟨by omega, place⟩

theorem Sound.shortSearch_eq_some (sound : Sound c) {short ref : ℕ} (valid : short ≠ noShortAddr) :
    shortSearch c short = some ref ↔ ∃ z, pairAt c ref = some (short, z) := by
  constructor
  · intro found
    obtain ⟨⟨inside, used, -⟩, same⟩ := shortSearch_spec sound.index found
    exact ⟨_, pairAt_eq_some.mpr ⟨inside, used, same, rfl⟩⟩
  · rintro ⟨z, held⟩
    obtain ⟨r, found⟩ := shortSearch_of_indexed sound.index
      (indexed_iff_pairAt.mpr ⟨short, z, held, valid⟩)
    rw [(pairAt_eq_some.mp held).2.2.1] at found
    obtain ⟨⟨inside, used, -⟩, same⟩ := shortSearch_spec sound.index found
    rw [found, sound.shorts r ref short _ z (pairAt_eq_some.mpr ⟨inside, used, same, rfl⟩) held
      valid]

theorem Sound.ieeeSearch_eq_some (sound : Sound c) {z : IeeeAddrCompressed} {ref : ℕ}
    (nonzero : z ≠ .zero) :
    ieeeSearch c z = some ref ↔ ∃ short, pairAt c ref = some (short, z) := by
  constructor
  · intro found
    obtain ⟨inside, used, same⟩ := ieeeSearch_spec found
    exact ⟨_, pairAt_eq_some.mpr ⟨inside, used, rfl, same⟩⟩
  · rintro ⟨short, held⟩
    cases found : ieeeSearch c z with
    | none =>
      have known := known_iff_pairAt.mpr ⟨short, z, held, nonzero⟩
      exact absurd (pairAt_eq_some.mp held).2.2.2 (ieeeSearch_eq_none found known)
    | some r =>
      obtain ⟨inside, used, same⟩ := ieeeSearch_spec found
      rw [sound.devices (pairAt_eq_some.mpr ⟨inside, used, rfl, same⟩) held nonzero]

/-! ## What the parts of an update do to the pairs -/

theorem pairAt_setEntry {ref : ℕ} (ent : AddressMap) (inside : ref < ieeeAddrTableSize) :
    pairAt (c.setEntry ref ent) = Function.update (pairAt c) ref
      (if ent.used = true then some (ent.addr, ent.ieeeAddr) else none) := by
  funext r
  by_cases same : r = ref
  · subst same
    simp [pairAt, inside]
  · simp [pairAt, same]

/-- Only the maps of entries matter. -/
theorem pairAt_congr (same : ∀ ref, (d.addrMap ref).used = (c.addrMap ref).used ∧
    (d.addrMap ref).addr = (c.addrMap ref).addr ∧
      (d.addrMap ref).ieeeAddr = (c.addrMap ref).ieeeAddr) : pairAt d = pairAt c := by
  funext ref
  obtain ⟨used, addr, ieee⟩ := same ref
  rw [pairAt, pairAt, used, addr, ieee]

theorem pairAt_addressDelete {ref : ℕ} (inside : ref < ieeeAddrTableSize) :
    pairAt (addressDelete c ref) = Function.update (pairAt c) ref none := by
  have entries : (addressDelete c ref).addrMap =
      (c.setEntry ref ((c.addrMap ref).setUsed false)).addrMap := addressDelete_addrMap
  rw [pairAt_congr (c := c.setEntry ref ((c.addrMap ref).setUsed false)) fun r => by
    rw [entries]
    exact ⟨rfl, rfl, rfl⟩]
  exact pairAt_setEntry ((c.addrMap ref).setUsed false) inside

/-- A deletion leaves the pairs of others, wherever the reference points. -/
theorem addressDelete_others (victim other : ℕ) :
    pairAt (addressDelete c victim) other = pairAt c other ∨
      pairAt (addressDelete c victim) other = none := by
  by_cases same : other = victim
  · right
    rw [pairAt, addressDelete_addrMap, same, Function.update_self]
    exact if_neg fun both => Bool.false_ne_true both.2
  · left
    rw [pairAt, pairAt, addressDelete_addrMap, Function.update_of_ne same]

/-- Storing a pair changes the entry alone. -/
theorem storePair_addrMap (ref : ℕ) (z : IeeeAddrCompressed) (short : ℕ) :
    (storePair c ref z short).addrMap = Function.update c.addrMap ref
      ((((c.addrMap ref).setIeeeAddr z).setAddr short).setClock true) := by
  simp only [storePair, AddrGlobals.setEntry_addrMap, Function.update_self,
    AddressMap.setIeeeAddr_addr]
  split
  · split <;> simp [touch, addShortSorted, AddrGlobals.setEntry, delShortSorted]
  · rename_i same
    rw [not_not] at same
    simp [touch, AddrGlobals.setEntry, AddressMap.setIeeeAddr, AddressMap.setAddr,
      AddressMap.setClock, same]

theorem pairAt_storePair {ref : ℕ} {p : ℕ × IeeeAddrCompressed} (held : pairAt c ref = some p)
    (z : IeeeAddrCompressed) (short : ℕ) :
    pairAt (storePair c ref z short) = Function.update (pairAt c) ref (some (short, z)) := by
  obtain ⟨inside, used, -⟩ := pairAt_eq_some.mp held
  funext r
  by_cases same : r = ref
  · subst same
    rw [Function.update_self, pairAt, storePair_addrMap, Function.update_self]
    exact if_pos ⟨inside, used⟩
  · rw [Function.update_of_ne same, pairAt, pairAt, storePair_addrMap, Function.update_of_ne same]

theorem pairAt_clockTick : pairAt (clockTick c) = pairAt c := by
  refine pairAt_congr fun ref => ?_
  have entry := clockTick_entry c ref
  simp only [AddressMap.setClock, AddressMap.mk.injEq] at entry
  exact ⟨entry.2.2.2.1, entry.2.1, entry.1⟩

/-- A new entry takes a free reference. -/
theorem pairAt_addrAdd {z : Option IeeeAddrCompressed} {short ref : ℕ}
    (added : (addrAdd c z short).2 = .ok ref) :
    pairAt c ref = none ∧ pairAt (addrAdd c z short).1 =
      Function.update (pairAt c) ref (some (short, z.getD .zero)) := by
  unfold addrAdd at added ⊢
  split at added
  · cases added
  · rename_i i found
    cases added
    obtain ⟨inside, free⟩ := freeSlot_spec found
    have free' : ((clockTick c).addrMap ref).used = false := (clockTick_profile c ref).1.trans free
    refine ⟨if_neg fun both => absurd (both.2.symm.trans free) (by simp), ?_⟩
    rw [← pairAt_clockTick (c := c)]
    funext r
    by_cases same : r = ref
    · subst same
      rw [Function.update_self, pairAt, fillEntry_addrMap free', Function.update_self]
      exact if_pos ⟨inside, rfl⟩
    · rw [Function.update_of_ne same, pairAt, pairAt, fillEntry_addrMap free',
        Function.update_of_ne same]

theorem lockResult_false (result : AddrGlobals × Except RetError ℕ) :
    lockResult false result = result := by
  obtain ⟨c, reply⟩ := result
  cases reply <;> rfl

theorem lockResult_snd (lock : Bool) (result : AddrGlobals × Except RetError ℕ) :
    (lockResult lock result).2 = result.2 := by
  obtain ⟨c, reply⟩ := result
  cases reply <;> rfl

theorem pairAt_lockResult {result : AddrGlobals × Except RetError ℕ} (lock : Bool) :
    pairAt (lockResult lock result).1 = pairAt result.1 := by
  obtain ⟨c, reply⟩ := result
  cases reply with
  | error e => rfl
  | ok ref =>
    cases lock with
    | false => rfl
    | true =>
      refine pairAt_congr fun r => ?_
      by_cases same : r = ref
      · subst same
        simp [lockResult, addressLock]
      · simp [lockResult, addressLock, same]

/-! ## The update -/

/-- Apart from the reference, those keep their pair that held neither address, and no others
have one. -/
def Frame (c d : AddrGlobals) (ref : Option ℕ) (short : ℕ) (z : IeeeAddrCompressed) : Prop :=
  ∀ other, ref ≠ some other → ∀ s y,
    pairAt d other = some (s, y) ↔ pairAt c other = some (s, y) ∧ s ≠ short ∧ y ≠ z

/-- Of two entries in conflict one is not locked. -/
def Resolvable (c : AddrGlobals) (short : ℕ) (z : IeeeAddrCompressed) : Prop :=
  ∀ ref ∈ shortSearch c short, ∀ refLong ∈ ieeeSearch c z,
    ref ≠ refLong → (c.addrMap ref).lockCnt = 0 ∨ (c.addrMap refLong).lockCnt = 0

/-- What the first half of an update leaves: who holds one of the addresses is gone, but for
the entry the pair is stored in. -/
theorem resolveConflict_frame (sound : Sound c) {short : ℕ} {z : IeeeAddrCompressed}
    (valid : short ≠ noShortAddr) (nonzero : z ≠ .zero) (resolvable : Resolvable c short z) :
    Frame c (resolveConflict c (shortSearch c short) (ieeeSearch c z)).1
        (resolveConflict c (shortSearch c short) (ieeeSearch c z)).2 short z ∧
      ∀ ref, (resolveConflict c (shortSearch c short) (ieeeSearch c z)).2 = some ref →
        ∃ p, pairAt (resolveConflict c (shortSearch c short) (ieeeSearch c z)).1 ref = some p ∧
          pairAt c ref = some p ∧ (p.1 = short ∨ p.2 = z) := by
  have shortOf : ∀ other s y, pairAt c other = some (s, y) →
      (s = short ↔ shortSearch c short = some other) := by
    intro other s y held
    rw [sound.shortSearch_eq_some valid]
    constructor
    · rintro rfl
      exact ⟨y, held⟩
    · rintro ⟨y', held'⟩
      cases held.symm.trans held'
      rfl
  have ieeeOf : ∀ other s y, pairAt c other = some (s, y) →
      (y = z ↔ ieeeSearch c z = some other) := by
    intro other s y held
    rw [sound.ieeeSearch_eq_some nonzero]
    constructor
    · rintro rfl
      exact ⟨s, held⟩
    · rintro ⟨s', held'⟩
      cases held.symm.trans held'
      rfl
  -- nothing is deleted
  have untouched : ∀ known, (∀ other, known ≠ some other → shortSearch c short ≠ some other) →
      (∀ other, known ≠ some other → ieeeSearch c z ≠ some other) → Frame c c known short z := by
    intro known noShort noIeee other differs s y
    refine ⟨fun held => ⟨held, ?_, ?_⟩, And.left⟩
    · exact fun same => noShort other differs ((shortOf other s y held).mp same)
    · exact fun same => noIeee other differs ((ieeeOf other s y held).mp same)
  -- one of the two is deleted
  have deleted : ∀ victim keeper, victim < ieeeAddrTableSize → victim ≠ keeper →
      (∀ other, shortSearch c short = some other → other = victim ∨ other = keeper) →
      (∀ other, ieeeSearch c z = some other → other = victim ∨ other = keeper) →
      (shortSearch c short = some victim ∨ ieeeSearch c z = some victim) →
      Frame c (addressDelete c victim) (some keeper) short z := by
    intro victim keeper inside differ shorts ieees found other differs s y
    have notKeeper : other ≠ keeper := fun same => differs (congrArg some same.symm)
    rw [pairAt_addressDelete inside]
    by_cases gone : other = victim
    · subst gone
      rw [Function.update_self]
      constructor
      · intro held
        cases held
      · rintro ⟨held, notShort, notIeee⟩
        rcases found with byShort | byIeee
        · exact absurd ((shortOf other s y held).mpr byShort) notShort
        · exact absurd ((ieeeOf other s y held).mpr byIeee) notIeee
    · rw [Function.update_of_ne gone]
      refine ⟨fun held => ⟨held, fun same => ?_, fun same => ?_⟩, And.left⟩
      · rcases shorts other ((shortOf other s y held).mp same) with here | here
        · exact gone here
        · exact notKeeper here
      · rcases ieees other ((ieeeOf other s y held).mp same) with here | here
        · exact gone here
        · exact notKeeper here
  cases byShort : shortSearch c short with
  | none =>
    refine ⟨untouched _ (fun other _ => by rw [byShort]; simp) fun other differs same => ?_, ?_⟩
    · exact differs same
    · intro ref found
      obtain ⟨s, held⟩ := (sound.ieeeSearch_eq_some nonzero).mp found
      exact ⟨_, held, held, Or.inr rfl⟩
  | some a =>
    obtain ⟨ya, heldA⟩ := (sound.shortSearch_eq_some valid).mp byShort
    have insideA := (pairAt_eq_some.mp heldA).1
    cases byIeee : ieeeSearch c z with
    | none =>
      refine ⟨untouched _ (fun other differs same => ?_) (fun other _ => by rw [byIeee]; simp), ?_⟩
      · exact differs (byShort.symm.trans same)
      · rintro ref ⟨⟩
        exact ⟨_, heldA, heldA, Or.inl rfl⟩
    | some b =>
      obtain ⟨sb, heldB⟩ := (sound.ieeeSearch_eq_some nonzero).mp byIeee
      have insideB := (pairAt_eq_some.mp heldB).1
      have shortsAt : ∀ other, shortSearch c short = some other → other = a := by
        intro other same
        cases byShort.symm.trans same
        rfl
      have ieeesAt : ∀ other, ieeeSearch c z = some other → other = b := by
        intro other same
        cases byIeee.symm.trans same
        rfl
      rw [resolveConflict]
      by_cases differ : a ≠ b
      · rw [if_pos differ]
        by_cases unlocked : (c.addrMap a).lockCnt = 0
        · rw [if_pos unlocked]
          refine ⟨deleted a b insideA differ (fun other same => Or.inl (shortsAt other same))
            (fun other same => Or.inr (ieeesAt other same)) (Or.inl byShort), ?_⟩
          rintro ref ⟨⟩
          refine ⟨(sb, z), ?_, heldB, Or.inr rfl⟩
          rw [pairAt_addressDelete insideA, Function.update_of_ne (Ne.symm differ)]
          exact heldB
        · have unlockedB : (c.addrMap b).lockCnt = 0 :=
            (resolvable a byShort b byIeee differ).resolve_left unlocked
          rw [if_neg unlocked, if_pos unlockedB]
          refine ⟨deleted b a insideB (Ne.symm differ)
            (fun other same => Or.inr (shortsAt other same))
            (fun other same => Or.inl (ieeesAt other same)) (Or.inr byIeee), ?_⟩
          rintro ref ⟨⟩
          refine ⟨(short, ya), ?_, heldA, Or.inl rfl⟩
          rw [pairAt_addressDelete insideB, Function.update_of_ne differ]
          exact heldA
      · rw [if_neg differ]
        rw [not_not] at differ
        subst differ
        refine ⟨untouched _ (fun other differs same => ?_) (fun other differs same => ?_), ?_⟩
        · exact differs (byShort.symm.trans same)
        · exact differs (byIeee.symm.trans same)
        · rintro ref ⟨⟩
          exact ⟨_, heldA, heldA, Or.inl rfl⟩

/-- An update leaves the manufacturers as the compression leaves them. -/
theorem lockResult_manufacturers (lock : Bool) (result : AddrGlobals × Except RetError ℕ) :
    (lockResult lock result).1.usedManufacturer = result.1.usedManufacturer ∧
      (lockResult lock result).1.devManufacturer = result.1.devManufacturer := by
  obtain ⟨d, reply⟩ := result
  cases reply with
  | error e => exact ⟨rfl, rfl⟩
  | ok ref => cases lock <;> exact ⟨rfl, rfl⟩

theorem addrAdd_manufacturers (z : Option IeeeAddrCompressed) (short : ℕ) :
    (addrAdd c z short).1.usedManufacturer = c.usedManufacturer ∧
      (addrAdd c z short).1.devManufacturer = c.devManufacturer := by
  unfold addrAdd
  split
  · exact ⟨rfl, rfl⟩
  · rename_i i found
    exact fillEntry_manufacturers ((clockTick_profile c i).1.trans (freeSlot_spec found).2) z short

theorem addressUpdate_manufacturers (ieee : IeeeAddr) (short : ℕ) (lock : Bool)
    (junk : IeeeAddrCompressed) :
    (addressUpdate c ieee short lock junk).1.usedManufacturer =
        (ieeeAddrCompress c ieee junk).1.usedManufacturer ∧
      (addressUpdate c ieee short lock junk).1.devManufacturer =
        (ieeeAddrCompress c ieee junk).1.devManufacturer := by
  unfold addressUpdate
  generalize ieeeAddrCompress c ieee junk = compressed
  obtain ⟨c, z⟩ := compressed
  dsimp only
  have resolved : ∀ short long,
      (resolveConflict c short long).1.usedManufacturer = c.usedManufacturer ∧
        (resolveConflict c short long).1.devManufacturer = c.devManufacturer := by
    intro short long
    unfold resolveConflict
    split
    · split
      · split
        · exact ⟨rfl, rfl⟩
        · split <;> exact ⟨rfl, rfl⟩
      · exact ⟨rfl, rfl⟩
    · exact ⟨rfl, rfl⟩
    · exact ⟨rfl, rfl⟩
  obtain ⟨used, dev⟩ := resolved (shortSearch c short) (ieeeSearch c z)
  generalize resolveConflict c (shortSearch c short) (ieeeSearch c z) = known at *
  obtain ⟨d, known⟩ := known
  rw [(lockResult_manufacturers lock _).1, (lockResult_manufacturers lock _).2]
  dsimp only at used dev ⊢
  split
  · rename_i ref
    rw [← used, ← dev]
    unfold storePair
    dsimp only
    split
    · split <;> exact ⟨rfl, rfl⟩
    · exact ⟨rfl, rfl⟩
  · obtain ⟨filledUsed, filledDev⟩ := addrAdd_manufacturers (c := d) (some z) short
    exact ⟨filledUsed.trans used, filledDev.trans dev⟩

theorem ieeeAddrCompress_addrMap (ieee : IeeeAddr) (junk : IeeeAddrCompressed) :
    (ieeeAddrCompress c ieee junk).1.addrMap = c.addrMap := by
  unfold ieeeAddrCompress
  split <;> rfl

theorem pairAt_ieeeAddrCompress (ieee : IeeeAddr) (junk : IeeeAddrCompressed) :
    pairAt (ieeeAddrCompress c ieee junk).1 = pairAt c :=
  pairAt_congr fun ref => by
    rw [ieeeAddrCompress_addrMap]
    exact ⟨rfl, rfl, rfl⟩

/-- Compressing changes no pair. -/
theorem Sound.compress (sound : Sound c) {ieee : IeeeAddr}
    (compressible : Compressible c ieee) (junk : IeeeAddrCompressed) :
    Sound (ieeeAddrCompress c ieee junk).1 ∧ pairAt (ieeeAddrCompress c ieee junk).1 = pairAt c := by
  obtain ⟨names, -⟩ := ieeeAddrCompress_spec sound.ieee compressible junk
  have same := pairAt_ieeeAddrCompress (c := c) ieee junk
  refine ⟨⟨ieeeAddrCompress_keeps sound.index ieee junk, names.unique, ?_⟩, same⟩
  rw [same]
  exact sound.shorts

theorem addressUpdate_pairs (sound : Sound c) {ieee : IeeeAddr} {short : ℕ}
    (valid : short ≠ noShortAddr) (compressible : Compressible c ieee) {lock : Bool}
    {junk : IeeeAddrCompressed}
    (resolvable : Resolvable (ieeeAddrCompress c ieee junk).1 short
      (ieeeAddrCompress c ieee junk).2) {ref : ℕ}
    (ok : (addressUpdate c ieee short lock junk).2 = .ok ref) :
    Frame c (addressUpdate c ieee short lock junk).1 (some ref) short
        (ieeeAddrCompress c ieee junk).2 ∧
      pairAt (addressUpdate c ieee short lock junk).1 ref =
        some (short, (ieeeAddrCompress c ieee junk).2) ∧
      ∀ p, pairAt c ref = some p → p.1 = short ∨ p.2 = (ieeeAddrCompress c ieee junk).2 := by
  obtain ⟨-, -, -, nonzero, -⟩ := ieeeAddrCompress_spec sound.ieee compressible junk
  obtain ⟨sound', samePairs⟩ := sound.compress compressible junk
  unfold addressUpdate at ok ⊢
  generalize ieeeAddrCompress c ieee junk = compressed at *
  obtain ⟨c', z⟩ := compressed
  dsimp only at *
  obtain ⟨frame, held⟩ := resolveConflict_frame sound' valid nonzero resolvable
  generalize resolveConflict c' (shortSearch c' short) (ieeeSearch c' z) = resolved at *
  obtain ⟨e, known⟩ := resolved
  dsimp only at *
  rw [pairAt_lockResult]
  -- the pair is entered, and all others are as the first half leaves them
  have entered : ∀ d, pairAt d = Function.update (pairAt e) ref (some (short, z)) →
      (∀ other, known = some other → other = ref) →
      (∀ p, pairAt c ref = some p → p.1 = short ∨ p.2 = z) →
      Frame c d (some ref) short z ∧ pairAt d ref = some (short, z) ∧
        ∀ p, pairAt c ref = some p → p.1 = short ∨ p.2 = z := by
    intro d pairs only own
    rw [pairs, Function.update_self]
    refine ⟨fun other differs s y => ?_, rfl, own⟩
    have notRef : other ≠ ref := fun same => differs (congrArg some same.symm)
    rw [pairs, Function.update_of_ne notRef, ← samePairs]
    exact frame other (fun same => notRef (only other same)) s y
  rw [lockResult_snd] at ok
  unfold Frame at entered ⊢
  rw [pairAt_lockResult]
  cases known with
  | some r =>
    cases ok
    obtain ⟨p, heldHere, before, own⟩ := held ref rfl
    refine entered _ (pairAt_storePair heldHere z short)
      (fun other same => (Option.some.inj same).symm) fun p' held' => ?_
    rw [← samePairs, before] at held'
    cases held'
    exact own
  | none =>
    obtain ⟨free, pairs⟩ := pairAt_addrAdd ok
    refine entered _ pairs (fun other same => nomatch same) fun p held' => ?_
    rw [← samePairs] at held'
    obtain ⟨s, y⟩ := p
    -- who holds neither address is still there, and the reference is free
    by_contra neither
    rw [not_or] at neither
    have there := (frame ref (Option.some_ne_none ref).symm s y).mpr
      ⟨held', neither.1, neither.2⟩
    cases free.symm.trans there

/-- Where the manufacturers are kept apart, so are devices if their pairs are. -/
theorem ieeeUnique_of_pairs (unique : IeeeUnique c) (used : d.usedManufacturer = c.usedManufacturer)
    (dev : d.devManufacturer = c.devManufacturer)
    (slots : ∀ ref s z, pairAt d ref = some (s, z) → z ≠ .zero →
      c.usedManufacturer z.devManufacturer = true)
    (devices : ∀ r s a b z, pairAt d r = some (a, z) → pairAt d s = some (b, z) → z ≠ .zero →
      r = s) : IeeeUnique d where
  range := by
    rw [used]
    exact unique.range
  manufacturers := by
    rw [used, dev]
    exact unique.manufacturers
  slots ref known := by
    obtain ⟨s, z, held, nonzero⟩ := known_iff_pairAt.mp known
    rw [used, (pairAt_eq_some.mp held).2.2.2]
    exact slots ref s z held nonzero
  devices r s knownR knownS same := by
    obtain ⟨a, z, heldR, nonzero⟩ := known_iff_pairAt.mp knownR
    obtain ⟨b, y, heldS, -⟩ := known_iff_pairAt.mp knownS
    rw [(pairAt_eq_some.mp heldR).2.2.2, (pairAt_eq_some.mp heldS).2.2.2] at same
    subst same
    exact devices r s a b z heldR heldS nonzero

/-- A table in which only some pairs have gone, or a new one of fresh addresses has come. -/
theorem Sound.of_frame (sound : Sound c) (index : IndexInvariant d)
    (used : d.usedManufacturer = c.usedManufacturer)
    (dev : d.devManufacturer = c.devManufacturer) (ref short : ℕ) {z : IeeeAddrCompressed}
    (slot : z ≠ .zero → c.usedManufacturer z.devManufacturer = true)
    (here : ∀ p, pairAt d ref = some p → p = (short, z))
    (others : ∀ other, other ≠ ref → ∀ s y, pairAt d other = some (s, y) →
      pairAt c other = some (s, y) ∧ (s = short → s = noShortAddr) ∧ (y = z → y = .zero)) :
    Sound d where
  index := index
  ieee := by
    refine ieeeUnique_of_pairs sound.ieee used dev (fun r s y held nonzero => ?_)
      fun r r' s s' y held held' nonzero => ?_
    · by_cases at_ : r = ref
      · rw [at_] at held
        cases here _ held
        exact slot nonzero
      · obtain ⟨before, -⟩ := others r at_ s y held
        have known := known_iff_pairAt.mpr ⟨s, y, before, nonzero⟩
        rw [← (pairAt_eq_some.mp before).2.2.2]
        exact sound.ieee.slots r known
    · by_cases at_ : r = ref
      · by_cases at' : r' = ref
        · rw [at_, at']
        · rw [at_] at held
          cases here _ held
          exact absurd ((others r' at' s' z held').2.2 rfl) nonzero
      · by_cases at' : r' = ref
        · rw [at'] at held'
          cases here _ held'
          exact absurd ((others r at_ s z held).2.2 rfl) nonzero
        · exact sound.devices (others r at_ s y held).1 (others r' at' s' y held').1 nonzero
  shorts r r' s y y' held held' valid := by
    by_cases at_ : r = ref
    · by_cases at' : r' = ref
      · rw [at_, at']
      · rw [at_] at held
        cases here _ held
        exact absurd ((others r' at' short y' held').2.1 rfl) valid
    · by_cases at' : r' = ref
      · rw [at'] at held'
        cases here _ held'
        exact absurd ((others r at_ short y held).2.1 rfl) valid
      · exact sound.shorts r r' s y y' (others r at_ s y held).1 (others r' at' s y' held').1 valid

/-! ## Lookups of what is there -/

theorem compressible_of_known (unique : IeeeUnique c) {ref : ℕ} (known : Known c ref) :
    Compressible c (addressIeeeByRef c ref) := by
  have used := unique.slots ref known
  have stored : manufacturerSlot c (addressIeeeByRef c ref).devManufacturer =
      some (c.addrMap ref).ieeeAddr.devManufacturer := by
    cases found : manufacturerSlot c (addressIeeeByRef c ref).devManufacturer with
    | none =>
      have absent := List.find?_eq_none.mp (Option.or_eq_none_iff.mp found).1 _
        (List.mem_range.mpr (unique.range _ used))
      simp [used, addressIeeeByRef, addressDecompress] at absent
    | some i =>
      obtain ⟨usedHere, same⟩ := manufacturerSlot_known found (unique.range _ used) used rfl
      rw [unique.manufacturers _ _ usedHere used same]
  exact ⟨_, stored, known.nonzero⟩

/-- A known device is found by its IEEE address. -/
theorem Sound.byIeee_found (sound : Sound c) {ref s : ℕ} {y : IeeeAddrCompressed}
    (held : pairAt c ref = some (s, y)) (nonzero : y ≠ .zero) (lock : Bool)
    (junk : IeeeAddrCompressed) :
    (addressByIeee c (addressDecompress c y) false lock junk).2 = .ok ref := by
  have known := known_iff_pairAt.mpr ⟨s, y, held, nonzero⟩
  have own : addressIeeeByRef c ref = addressDecompress c y := by
    rw [addressIeeeByRef, (pairAt_eq_some.mp held).2.2.2]
  have compressible := compressible_of_known sound.ieee known
  rw [own] at compressible
  exact (addressByIeee_spec sound.ieee compressible false lock junk).found ref known own

theorem Sound.byShort_found (sound : Sound c) {ref s : ℕ} {y : IeeeAddrCompressed}
    (held : pairAt c ref = some (s, y)) (valid : s ≠ noShortAddr) (lock : Bool) :
    (addressByShort c s false lock).2 = .ok ref := by
  have found := (sound.shortSearch_eq_some valid).mpr ⟨y, held⟩
  unfold addressByShort
  rw [found]
  cases lock <;> rfl

/-! ## Runs -/

/-- A call of the table's interface, locks included. -/
inductive Call
  | table (op : Op)
  | lock (ref : ℕ)
  | unlock (ref : ℕ)

def callStep (c : AddrGlobals) : Call → AddrGlobals
  | .table op => step c op
  | .lock ref => addressLock c ref
  | .unlock ref => addressUnlock c ref

/-- The IEEE addresses of the call can be compressed, and the entries it finds in conflict are
not both locked. -/
def Named (c : AddrGlobals) : Op → Prop
  | .byIeee ieee _ _ _ => Compressible c ieee
  | .byShort _ _ _ => True
  | .update ieee short _ junk => Compressible c ieee ∧
    Resolvable (ieeeAddrCompress c ieee junk).1 short (ieeeAddrCompress c ieee junk).2
  | .delete _ => True

/-- The call respects the header, meets no stale copy, and its addresses fit the table. -/
def Ready (c : AddrGlobals) : Call → Prop
  | .table op => Respects c op ∧ Clean c op ∧ Named c op
  | .lock _ => True
  | .unlock _ => True

instance (c : AddrGlobals) (short : ℕ) (z : IeeeAddrCompressed) :
    Decidable (Resolvable c short z) :=
  inferInstanceAs (Decidable (∀ ref ∈ shortSearch c short, ∀ refLong ∈ ieeeSearch c z, _ ≠ _ → _ ∨ _))

instance (c : AddrGlobals) : DecidablePred (Named c)
  | .byIeee ieee _ _ _ => inferInstanceAs (Decidable (Compressible c ieee))
  | .byShort _ _ _ => isTrue trivial
  | .update _ _ _ _ => inferInstanceAs (Decidable (_ ∧ _))
  | .delete _ => isTrue trivial

instance (c : AddrGlobals) (call : Call) : Decidable (Ready c call) :=
  match call with
  | .table _ => inferInstanceAs (Decidable (_ ∧ _ ∧ _))
  | .lock _ => isTrue trivial
  | .unlock _ => isTrue trivial

/-- A lookup changes no pair, or makes one for an address it has not found. -/
theorem lookup_pairs {found : Option ℕ} (create lock : Bool) {z : Option IeeeAddrCompressed}
    {short : ℕ} {result : AddrGlobals × Except RetError ℕ}
    (hit : ∀ ref, found = some ref → result = lockResult lock (touch c ref, .ok ref))
    (miss : found = none →
      result = lockResult lock (if create then addrAdd c z short else (c, .error .notFound))) :
    pairAt result.1 = pairAt c ∨ found = none ∧ ∃ ref, result.2 = .ok ref ∧
      pairAt c ref = none ∧
        pairAt result.1 = Function.update (pairAt c) ref (some (short, z.getD .zero)) := by
  cases found with
  | some ref =>
    rw [hit ref rfl, pairAt_lockResult]
    refine Or.inl (pairAt_congr fun r => ?_)
    by_cases same : r = ref
    · subst same
      simp [touch]
    · simp [touch, same]
  | none =>
    rw [miss rfl, pairAt_lockResult]
    cases create with
    | false => exact Or.inl rfl
    | true =>
      rw [if_pos rfl]
      cases reply : (addrAdd c z short).2 with
      | ok ref =>
        refine Or.inr ⟨rfl, ref, ?_, pairAt_addrAdd reply⟩
        rw [lockResult_snd, reply]
      | error e =>
        left
        unfold addrAdd at reply ⊢
        split at reply
        · rfl
        · cases reply

theorem addressByShort_pairs (short : ℕ) (create lock : Bool) :
    pairAt (addressByShort c short create lock).1 = pairAt c ∨
      shortSearch c short = none ∧ ∃ ref, (addressByShort c short create lock).2 = .ok ref ∧
        pairAt c ref = none ∧ pairAt (addressByShort c short create lock).1 =
          Function.update (pairAt c) ref (some (short, .zero)) := by
  refine lookup_pairs (c := c) create lock (z := none) (fun ref found => ?_) fun missing => ?_
  · rw [addressByShort, found]
  · rw [addressByShort, missing]

theorem addressByIeee_pairs (ieee : IeeeAddr) (create lock : Bool) (junk : IeeeAddrCompressed) :
    pairAt (addressByIeee c ieee create lock junk).1 =
        pairAt (ieeeAddrCompress c ieee junk).1 ∨
      ieeeSearch (ieeeAddrCompress c ieee junk).1 (ieeeAddrCompress c ieee junk).2 = none ∧
        ∃ ref, (addressByIeee c ieee create lock junk).2 = .ok ref ∧
          pairAt (ieeeAddrCompress c ieee junk).1 ref = none ∧
          pairAt (addressByIeee c ieee create lock junk).1 =
            Function.update (pairAt (ieeeAddrCompress c ieee junk).1) ref
              (some (noShortAddr, (ieeeAddrCompress c ieee junk).2)) := by
  refine lookup_pairs (c := (ieeeAddrCompress c ieee junk).1) create lock
    (z := some (ieeeAddrCompress c ieee junk).2) (fun ref found => ?_) fun missing => ?_
  · simp only [addressByIeee, found]
  · simp only [addressByIeee, missing]

/-- One more short address that nobody has. -/
theorem shorts_update {f : ℕ → Option (ℕ × IeeeAddrCompressed)}
    (shorts : ∀ r s short z y, f r = some (short, z) → f s = some (short, y) →
      short ≠ noShortAddr → r = s) {ref new : ℕ} {x : IeeeAddrCompressed}
    (fresh : new ≠ noShortAddr → ∀ s y, f s ≠ some (new, y)) (r s short : ℕ)
    (z y : IeeeAddrCompressed) (left : Function.update f ref (some (new, x)) r = some (short, z))
    (right : Function.update f ref (some (new, x)) s = some (short, y))
    (valid : short ≠ noShortAddr) : r = s := by
  by_cases atR : r = ref
  · by_cases atS : s = ref
    · rw [atR, atS]
    · rw [atR, Function.update_self] at left
      rw [Function.update_of_ne atS] at right
      cases left
      exact absurd right (fresh valid s y)
  · by_cases atS : s = ref
    · rw [atS, Function.update_self] at right
      rw [Function.update_of_ne atR] at left
      cases right
      exact absurd left (fresh valid r z)
    · rw [Function.update_of_ne atR] at left
      rw [Function.update_of_ne atS] at right
      exact shorts r s short z y left right valid

namespace Sound

/-- A lookup by short address leaves the manufacturers alone. -/
theorem byShort_manufacturers (short : ℕ) (create lock : Bool) :
    (addressByShort c short create lock).1.usedManufacturer = c.usedManufacturer ∧
      (addressByShort c short create lock).1.devManufacturer = c.devManufacturer := by
  unfold addressByShort
  rw [(lockResult_manufacturers lock _).1, (lockResult_manufacturers lock _).2]
  split
  · exact ⟨rfl, rfl⟩
  · cases create with
    | false => exact ⟨rfl, rfl⟩
    | true => exact addrAdd_manufacturers none short

theorem byIeee (sound : Sound c) (ieee : IeeeAddr) (create lock : Bool)
    (junk : IeeeAddrCompressed) (ready : Ready c (.table (.byIeee ieee create lock junk))) :
    Sound (addressByIeee c ieee create lock junk).1 where
  index := step_keeps (.byIeee ieee create lock junk) sound.index ready.1 ready.2.1
  ieee := (addressByIeee_spec sound.ieee ready.2.2 create lock junk).names.unique
  shorts := by
    obtain ⟨sound', -⟩ := sound.compress ready.2.2 junk
    rcases addressByIeee_pairs (c := c) ieee create lock junk with same | ⟨-, ref, -, -, new⟩
    · rw [same]
      exact sound'.shorts
    · rw [new]
      exact shorts_update sound'.shorts (absurd rfl ·)

theorem byShort (sound : Sound c) (short : ℕ) (create lock : Bool)
    (ready : Ready c (.table (.byShort short create lock))) :
    Sound (addressByShort c short create lock).1 := by
  have index : IndexInvariant (addressByShort c short create lock).1 :=
    step_keeps (.byShort short create lock) sound.index ready.1 ready.2.1
  obtain ⟨used, dev⟩ := byShort_manufacturers (c := c) short create lock
  have valid : short ≠ noShortAddr := ready.1
  rcases addressByShort_pairs (c := c) short create lock with
    same | ⟨missing, ref, -, -, new⟩
  · refine ⟨index, ieeeUnique_of_pairs sound.ieee used dev (fun r s z held nonzero => ?_)
      (fun r s a b z held held' nonzero => ?_), ?_⟩
    · rw [same] at held
      rw [← (pairAt_eq_some.mp held).2.2.2]
      exact sound.ieee.slots r (known_iff_pairAt.mpr ⟨s, z, held, nonzero⟩)
    · rw [same] at held held'
      exact sound.devices held held' nonzero
    · rw [same]
      exact sound.shorts
  · refine sound.of_frame index used dev ref short (z := .zero)
      (fun nonzero => absurd rfl nonzero) (fun p held => ?_) fun other differs s y held => ?_
    · rw [new, Function.update_self] at held
      exact (Option.some.inj held).symm
    · rw [new, Function.update_of_ne differs] at held
      refine ⟨held, fun same => ?_, id⟩
      subst same
      rw [(sound.shortSearch_eq_some valid).mpr ⟨y, held⟩] at missing
      cases missing

theorem delete (sound : Sound c) (ref : ℕ) (ready : Ready c (.table (.delete ref))) :
    Sound (addressDelete c ref) := by
  have pairs := pairAt_addressDelete (c := c) ready.1.1
  refine sound.of_frame (addressDelete_keeps sound.index ready.1.1 ready.1.2 ready.2.1) rfl rfl
    ref noShortAddr (z := .zero) (fun nonzero => absurd rfl nonzero) (fun p held => ?_)
    fun other differs s y held => ?_
  · rw [pairs, Function.update_self] at held
    cases held
  · rw [pairs, Function.update_of_ne differs] at held
    exact ⟨held, id, id⟩

/-- An update that fails changes no pair. -/
theorem update_error {ieee : IeeeAddr} {short : ℕ} {lock : Bool} {junk : IeeeAddrCompressed}
    {e : RetError} (error : (addressUpdate c ieee short lock junk).2 = .error e) :
    pairAt (addressUpdate c ieee short lock junk).1 = pairAt (ieeeAddrCompress c ieee junk).1 := by
  unfold addressUpdate at error ⊢
  generalize ieeeAddrCompress c ieee junk = compressed at *
  obtain ⟨c', z⟩ := compressed
  dsimp only at *
  rw [pairAt_lockResult]
  have none_ : (resolveConflict c' (shortSearch c' short) (ieeeSearch c' z)).2 = none →
      (resolveConflict c' (shortSearch c' short) (ieeeSearch c' z)).1 = c' := by
    unfold resolveConflict
    split
    · split
      · split
        · intro absurd_
          cases absurd_
        · split <;> (intro absurd_; cases absurd_)
      · exact fun _ => rfl
    · exact fun _ => rfl
    · exact fun _ => rfl
  generalize resolveConflict c' (shortSearch c' short) (ieeeSearch c' z) = resolved at *
  obtain ⟨d, known⟩ := resolved
  dsimp only at *
  cases known with
  | some ref => cases error
  | none =>
    obtain rfl := none_ rfl
    dsimp only at error ⊢
    unfold addrAdd at error ⊢
    split at error
    · rfl
    · cases error

theorem update (sound : Sound c) (ieee : IeeeAddr) (short : ℕ) (lock : Bool)
    (junk : IeeeAddrCompressed) (ready : Ready c (.table (.update ieee short lock junk))) :
    Sound (addressUpdate c ieee short lock junk).1 := by
  obtain ⟨respects, clean, compressible, resolvable⟩ := ready
  obtain ⟨sound', samePairs⟩ := sound.compress compressible junk
  obtain ⟨-, -, -, -, slot⟩ := ieeeAddrCompress_spec sound.ieee compressible junk
  obtain ⟨used, dev⟩ := addressUpdate_manufacturers (c := c) ieee short lock junk
  have index := addressUpdate_keeps sound.index ieee respects.2 lock junk clean
  cases reply : (addressUpdate c ieee short lock junk).2 with
  | error e =>
    have same := update_error reply
    refine ⟨index, ieeeUnique_of_pairs sound'.ieee used dev (fun r s z held nonzero => ?_)
      (fun r s a b z held held' nonzero => ?_), ?_⟩
    · rw [same] at held
      rw [← (pairAt_eq_some.mp held).2.2.2]
      exact sound'.ieee.slots r (known_iff_pairAt.mpr ⟨s, z, held, nonzero⟩)
    · rw [same] at held held'
      exact sound'.devices held held' nonzero
    · rw [same]
      exact sound'.shorts
  | ok ref =>
    obtain ⟨frame, here, -⟩ := addressUpdate_pairs sound respects.2 compressible resolvable reply
    refine sound'.of_frame index used dev ref short (fun _ => slot) (fun p held => ?_)
      fun other differs s y held => ?_
    · exact (Option.some.inj (here.symm.trans held)).symm
    · obtain ⟨before, notShort, notIeee⟩ :=
        (frame other (fun same => differs (Option.some.inj same).symm) s y).mp held
      rw [samePairs]
      exact ⟨before, fun same => absurd same notShort, fun same => absurd same notIeee⟩

/-- Locking and unlocking change no pair. -/
theorem locked (sound : Sound c) (ref : ℕ) (ent : AddressMap)
    (used : ent.used = (c.addrMap ref).used) (addr : ent.addr = (c.addrMap ref).addr)
    (ieee : ent.ieeeAddr = (c.addrMap ref).ieeeAddr) : Sound (c.setEntry ref ent) where
  index := sound.index.congr (sameProfile_setEntry used addr) rfl rfl
  ieee := (namesKept_setEntry sound.ieee used ieee).unique
  shorts := by
    have same : pairAt (c.setEntry ref ent) = pairAt c := pairAt_congr fun r => by
      by_cases at_ : r = ref
      · subst at_
        simp [used, addr, ieee]
      · simp [at_]
    rw [same]
    exact sound.shorts

theorem step (sound : Sound c) (call : Call) (ready : Ready c call) : Sound (callStep c call) := by
  cases call with
  | table op =>
    cases op with
    | byIeee ieee create lock junk => exact sound.byIeee ieee create lock junk ready
    | byShort short create lock => exact sound.byShort short create lock ready
    | update ieee short lock junk => exact sound.update ieee short lock junk ready
    | delete ref => exact sound.delete ref ready
  | lock ref => exact sound.locked ref _ rfl rfl rfl
  | unlock ref => exact sound.locked ref _ rfl rfl rfl

end Sound

/-- The pair is stored under the reference alone, and who held neither address keeps its pair
and is found by it. -/
structure Updated (c d : AddrGlobals) (ieee : IeeeAddr) (short ref : ℕ) : Prop where
  byIeee : ∀ lock junk, (addressByIeee d ieee false lock junk).2 = .ok ref
  byShort : ∀ lock, (addressByShort d short false lock).2 = .ok ref
  alone : ∀ other ≠ ref, ∀ s y, pairAt d other = some (s, y) →
    s ≠ short ∧ (y ≠ .zero → addressDecompress d y ≠ ieee)
  kept : ∀ other s y, pairAt c other = some (s, y) → s ≠ short →
    (y ≠ .zero → addressDecompress c y ≠ ieee) → pairAt d other = some (s, y) ∧
      (y ≠ .zero → addressDecompress d y = addressDecompress c y ∧
        ∀ lock junk, (addressByIeee d (addressDecompress c y) false lock junk).2 = .ok other) ∧
      (s ≠ noShortAddr → ∀ lock, (addressByShort d s false lock).2 = .ok other)

theorem Sound.updated (sound : Sound c) {ieee : IeeeAddr} {short : ℕ} {lock : Bool}
    {junk : IeeeAddrCompressed} {ref : ℕ}
    (ready : Ready c (.table (.update ieee short lock junk)))
    (ok : (addressUpdate c ieee short lock junk).2 = .ok ref) :
    Updated c (addressUpdate c ieee short lock junk).1 ieee short ref := by
  have after := sound.update ieee short lock junk ready
  obtain ⟨respects, -, compressible, resolvable⟩ := ready
  obtain ⟨frame, here, theirs⟩ :=
    addressUpdate_pairs sound respects.2 compressible resolvable ok
  obtain ⟨names, entries, decompressed, nonzero, slot⟩ :=
    ieeeAddrCompress_spec sound.ieee compressible junk
  obtain ⟨-, samePairs⟩ := sound.compress compressible junk
  obtain ⟨-, dev⟩ := addressUpdate_manufacturers (c := c) ieee short lock junk
  generalize (addressUpdate c ieee short lock junk).1 = d at *
  -- the address reads the same after the update as after the compression
  have reads : ∀ y, addressDecompress d y =
      addressDecompress (ieeeAddrCompress c ieee junk).1 y := by
    intro y
    rw [addressDecompress, addressDecompress, dev]
  have own : addressDecompress d (ieeeAddrCompress c ieee junk).2 = ieee :=
    (reads _).trans decompressed
  have notHere : ∀ other, other ≠ ref → (some ref : Option ℕ) ≠ some other :=
    fun other differs same => differs (Option.some.inj same).symm
  have stays : ∀ other s y, pairAt c other = some (s, y) → y ≠ .zero →
      addressDecompress d y = addressDecompress c y := by
    intro other s y held known
    have same := names.same other (known_iff_pairAt.mpr ⟨s, y, held, known⟩)
    have entry := (pairAt_eq_some.mp held).2.2.2
    rw [addressIeeeByRef, addressIeeeByRef, entries, entry] at same
    exact (reads y).trans same
  refine ⟨fun lock junk => ?_, fun lock => ?_, fun other differs s y held => ?_,
    fun other s y held notShort notIeee => ?_⟩
  · have found := after.byIeee_found here nonzero lock junk
    rwa [own] at found
  · exact after.byShort_found here respects.2 lock
  · obtain ⟨before, notShort, differs'⟩ := (frame other (notHere other differs) s y).mp held
    refine ⟨notShort, fun known same => ?_⟩
    exact differs (after.ieee.ref_eq (known_iff_pairAt.mpr ⟨s, y, held, known⟩)
      (known_iff_pairAt.mpr ⟨short, _, here, nonzero⟩) (by
        rw [addressIeeeByRef, addressIeeeByRef, (pairAt_eq_some.mp held).2.2.2,
          (pairAt_eq_some.mp here).2.2.2, same, own]))
  · have differsIeee : y ≠ (ieeeAddrCompress c ieee junk).2 := by
      rintro rfl
      refine notIeee nonzero ?_
      rw [← stays other s _ held nonzero, own]
    have differs : other ≠ ref := by
      rintro rfl
      rcases theirs _ held with same | same
      · exact notShort same
      · exact differsIeee same
    have still := (frame other (notHere other differs) s y).mpr ⟨held, notShort, differsIeee⟩
    refine ⟨still, fun known => ?_, fun valid lock => after.byShort_found still valid lock⟩
    have same := stays other s y held known
    refine ⟨same, fun lock junk => ?_⟩
    rw [← same]
    exact after.byIeee_found still known lock junk

/-- In every run of calls that meet no stale copy and whose addresses fit the table, an update
that succeeds establishes the pair and disturbs nobody else. -/
theorem update_establishes (calls : List Call) (ieee : IeeeAddr) (short : ℕ) (lock : Bool)
    (junk : IeeeAddrCompressed) (ref : ℕ)
    (met : Along callStep Ready .zero (calls ++ [.table (.update ieee short lock junk)]))
    (ok : (addressUpdate (run callStep .zero calls) ieee short lock junk).2 = .ok ref) :
    Updated (run callStep .zero calls)
      (addressUpdate (run callStep .zero calls) ieee short lock junk).1 ieee short ref := by
  obtain ⟨before, last⟩ := (along_append _ _ _).mp met
  have sound : Sound (run callStep .zero calls) :=
    invariant_of_along (fun _ call sound ready => sound.step call ready) _ calls zero_sound before
  exact sound.updated last.1 ok

/-- Two devices, and the first gets another short address. -/
def movedCalls : List Call :=
  [.table (.update ⟨⟨1, 2, 3⟩, ⟨4, 5, 6, 7, 8⟩⟩ 7 true .zero),
    .table (.update ⟨⟨1, 2, 3⟩, ⟨4, 5, 6, 7, 9⟩⟩ 9 false .zero), .unlock 0]

theorem update_establishes_movedCalls :
    Updated (run callStep .zero movedCalls)
      (addressUpdate (run callStep .zero movedCalls) ⟨⟨1, 2, 3⟩, ⟨4, 5, 6, 7, 9⟩⟩ 5 false .zero).1
      ⟨⟨1, 2, 3⟩, ⟨4, 5, 6, 7, 9⟩⟩ 5 (compressedIeeeHash ⟨15, ⟨4, 5, 6, 7, 9⟩⟩) :=
  update_establishes movedCalls _ _ _ _ _ (by decide +kernel) (by decide +kernel)

/-- The first of two devices that were entered by their short addresses moves, and the second
is not found any more. -/
theorem update_loses_device :
    ¬∀ (calls : List Call) (ieee : IeeeAddr) (short : ℕ) (lock : Bool) (junk : IeeeAddrCompressed)
      (ref : ℕ), ieee ≠ .zero → short ≠ noShortAddr →
      (addressUpdate (run callStep .zero calls) ieee short lock junk).2 = .ok ref →
        Updated (run callStep .zero calls)
          (addressUpdate (run callStep .zero calls) ieee short lock junk).1 ieee short ref := by
  intro claim
  have updated := claim
    [.table (.byShort 1 true false), .table (.byShort 2 true false),
      .table (.update ⟨⟨1, 2, 3⟩, ⟨4, 5, 6, 7, 8⟩⟩ 1 false .zero)]
    ⟨⟨1, 2, 3⟩, ⟨4, 5, 6, 7, 8⟩⟩ 3 false .zero 0 (by decide) (by decide) (by decide +kernel)
  have found := (updated.kept 1 2 .zero (by decide +kernel) (by decide) (absurd rfl ·)).2.2
    (by decide) false
  exact absurd found (by decide +kernel)

end Zboss.AddressTable
