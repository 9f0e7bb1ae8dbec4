import Zboss.Common.AddressLookup
import Zboss.Common.AddressUpdate

/-!
One entry of the address table while others are looked up and updated.  A call that names both of
its addresses or neither leaves the entry its pair, and no call takes a slot from a manufacturer,
so the pair can still be read back.
-/

namespace Zboss.AddressTable

variable {c d : AddrGlobals}

/-- The call takes neither address of the entry away from the other. -/
def Undisturbed (c : AddrGlobals) (ref : ℕ) : Op → Prop
  | .update ieee short _ _ => ∀ pair ∈ pairAt c ref,
      (short = pair.1 ↔ pair.2 ≠ .zero ∧ addressDecompress c pair.2 = ieee)
  | .delete other => other ≠ ref
  | .byIeee .. | .byShort .. => True

instance (c : AddrGlobals) (ref : ℕ) : DecidablePred (Undisturbed c ref)
  | .update .. => inferInstanceAs (Decidable (∀ pair ∈ pairAt c ref, _))
  | .delete _ => inferInstanceAs (Decidable (_ ≠ _))
  | .byIeee .. => isTrue trivial
  | .byShort .. => isTrue trivial

/-- The reference stands for the device with the two addresses. -/
def Stands (c : AddrGlobals) (ref short : ℕ) (ieee : IeeeAddr) : Prop :=
  ∃ z, pairAt c ref = some (short, z) ∧ z ≠ .zero ∧ addressDecompress c z = ieee

/-- An entry keeps its pair. -/
def Keeps (c d : AddrGlobals) (ref : ℕ) : Prop :=
  ∀ pair, pairAt c ref = some pair → pairAt d ref = some pair

theorem Keeps.trans {e : AddrGlobals} {ref : ℕ} (first : Keeps c d ref) (second : Keeps d e ref) :
    Keeps c e ref := fun pair held => second pair (first pair held)

/-! ## Manufacturers -/

theorem SlotsKept.trans {e : AddrGlobals} (first : SlotsKept c d) (second : SlotsKept d e) :
    SlotsKept c e := by
  intro i used
  obtain ⟨usedD, same⟩ := first i used
  obtain ⟨usedE, same'⟩ := second i usedD
  exact ⟨usedE, same'.trans same⟩

theorem SlotsKept.of_eq (used : d.usedManufacturer = c.usedManufacturer)
    (dev : d.devManufacturer = c.devManufacturer) : SlotsKept c d := by
  intro i isUsed
  rw [used, dev]
  exact ⟨isUsed, rfl⟩

/-- A lookup by IEEE address leaves the manufacturers as the compression leaves them. -/
theorem byIeee_manufacturers (ieee : IeeeAddr) (create lock : Bool) (junk : IeeeAddrCompressed) :
    (addressByIeee c ieee create lock junk).1.usedManufacturer =
        (ieeeAddrCompress c ieee junk).1.usedManufacturer ∧
      (addressByIeee c ieee create lock junk).1.devManufacturer =
        (ieeeAddrCompress c ieee junk).1.devManufacturer := by
  unfold addressByIeee
  generalize ieeeAddrCompress c ieee junk = compressed
  obtain ⟨c, z⟩ := compressed
  dsimp only
  rw [(lockResult_manufacturers lock _).1, (lockResult_manufacturers lock _).2]
  split
  · exact ⟨rfl, rfl⟩
  · cases create with
    | false => exact ⟨rfl, rfl⟩
    | true => exact addrAdd_manufacturers (some z) noShortAddr

/-- No call takes a slot from its manufacturer. -/
theorem slotsKept_step (c : AddrGlobals) (op : Op) : SlotsKept c (step c op) := by
  cases op with
  | byIeee ieee create lock junk =>
    obtain ⟨used, dev⟩ := byIeee_manufacturers (c := c) ieee create lock junk
    exact (ieeeAddrCompress_slotsKept ieee junk).trans (.of_eq used dev)
  | byShort short create lock =>
    obtain ⟨used, dev⟩ := Sound.byShort_manufacturers (c := c) short create lock
    exact .of_eq used dev
  | update ieee short lock junk =>
    obtain ⟨used, dev⟩ := addressUpdate_manufacturers (c := c) ieee short lock junk
    exact (ieeeAddrCompress_slotsKept ieee junk).trans (.of_eq used dev)
  | delete ref => exact .of_eq rfl rfl

namespace Sound

/-- What stands for a device still does while the entry keeps its pair. -/
theorem stands_kept (sound : Sound c) {ref short : ℕ} {ieee : IeeeAddr}
    (stands : Stands c ref short ieee) (kept : Keeps c d ref) (slots : SlotsKept c d) :
    Stands d ref short ieee := by
  obtain ⟨z, held, nonzero, reads⟩ := stands
  refine ⟨z, kept _ held, nonzero, ?_⟩
  have used := sound.ieee.slots ref (known_iff_pairAt.mpr ⟨short, z, held, nonzero⟩)
  rw [(pairAt_eq_some.mp held).2.2.2] at used
  exact (slots.addressDecompress used).trans reads

/-! ## One call -/

/-- The compressed form of a device in the table is the one stored. -/
theorem compress_stands (sound : Sound c) {ref short : ℕ} {ieee : IeeeAddr}
    (compressible : Compressible c ieee) (junk : IeeeAddrCompressed)
    (stands : Stands c ref short ieee) :
    ieeeSearch (ieeeAddrCompress c ieee junk).1 (ieeeAddrCompress c ieee junk).2 = some ref ∧
      pairAt c ref = some (short, (ieeeAddrCompress c ieee junk).2) := by
  obtain ⟨z, held, nonzero, reads⟩ := stands
  obtain ⟨-, -, -, nonzero', -⟩ := ieeeAddrCompress_spec sound.ieee compressible junk
  obtain ⟨sound', samePairs⟩ := sound.compress compressible junk
  have known := known_iff_pairAt.mpr ⟨short, z, held, nonzero⟩
  have named : addressIeeeByRef c ref = ieee := by
    rw [addressIeeeByRef, (pairAt_eq_some.mp held).2.2.2, reads]
  have found := (addressByIeee_spec sound.ieee compressible false false junk).found ref known named
  rw [addressByIeee, lockResult_snd] at found
  cases searched : ieeeSearch (ieeeAddrCompress c ieee junk).1 (ieeeAddrCompress c ieee junk).2 with
  | none =>
    simp only [searched] at found
    cases found
  | some other =>
    simp only [searched] at found
    cases found
    obtain ⟨s, here⟩ := (sound'.ieeeSearch_eq_some nonzero').mp searched
    rw [samePairs, held] at here
    cases here
    exact ⟨rfl, held⟩

/-- An update with the pair that an entry has leaves it to the entry. -/
theorem update_same (sound : Sound c) {ref short : ℕ} {ieee : IeeeAddr} (lock : Bool)
    (junk : IeeeAddrCompressed) (ready : Ready c (.table (.update ieee short lock junk)))
    (stands : Stands c ref short ieee) :
    (addressUpdate c ieee short lock junk).2 = .ok ref ∧
      Keeps c (addressUpdate c ieee short lock junk).1 ref := by
  obtain ⟨respects, -, compressible, resolvable⟩ := ready
  obtain ⟨byIeee, held⟩ := sound.compress_stands compressible junk stands
  obtain ⟨sound', samePairs⟩ := sound.compress compressible junk
  have byShort := (sound'.shortSearch_eq_some respects.2).mpr ⟨_, samePairs ▸ held⟩
  have ok : (addressUpdate c ieee short lock junk).2 = .ok ref := by
    simp only [addressUpdate, lockResult_snd, byIeee, byShort, resolveConflict, ne_eq,
      not_true_eq_false, if_false]
  obtain ⟨-, here, -⟩ := addressUpdate_pairs sound respects.2 compressible resolvable ok
  refine ⟨ok, fun pair before => ?_⟩
  rw [held] at before
  cases before
  exact here

/-- An entry that a call does not disturb keeps its pair. -/
theorem undisturbed (sound : Sound c) {op : Op} (ready : Ready c (.table op)) {ref : ℕ}
    (calm : Undisturbed c ref op) : Keeps c (AddressTable.step c op) ref := by
  intro pair held
  obtain ⟨s, z⟩ := pair
  cases op with
  | byIeee ieee create lock junk =>
    have same := pairAt_ieeeAddrCompress (c := c) ieee junk
    rcases addressByIeee_pairs (c := c) ieee create lock junk with
      kept | ⟨-, new, -, free, entered⟩
    · exact (congrFun (kept.trans same) ref).trans held
    · have apart : ref ≠ new := by
        rintro rfl
        rw [same, held] at free
        cases free
      rw [AddressTable.step, entered, Function.update_of_ne apart, same, held]
  | byShort short create lock =>
    rcases addressByShort_pairs (c := c) short create lock with kept | ⟨-, new, -, free, entered⟩
    · exact (congrFun kept ref).trans held
    · have apart : ref ≠ new := by
        rintro rfl
        rw [held] at free
        cases free
      rw [AddressTable.step, entered, Function.update_of_ne apart, held]
  | update ieee short lock junk =>
    have agrees := calm (s, z) held
    rw [AddressTable.step]
    by_cases named : short = s
    · subst named
      obtain ⟨nonzero, reads⟩ := agrees.mp rfl
      exact (sound.update_same lock junk ready ⟨z, held, nonzero, reads⟩).2 _ held
    · cases reply : (addressUpdate c ieee short lock junk).2 with
      | error e =>
        rw [update_error reply, pairAt_ieeeAddrCompress, held]
      | ok other =>
        refine ((sound.updated ready reply).kept ref s z held (Ne.symm named) ?_).1
        exact fun nonzero reads => named (agrees.mpr ⟨nonzero, reads⟩)
  | delete other =>
    have inside := ready.1.1
    rw [AddressTable.step, pairAt_addressDelete inside, Function.update_of_ne (Ne.symm calm), held]

/-! ## Replies -/

theorem byShort_stands (sound : Sound c) {short ref : ℕ} {create lock : Bool}
    (valid : short ≠ noShortAddr) (ok : (addressByShort c short create lock).2 = .ok ref) :
    ∃ z, pairAt (addressByShort c short create lock).1 ref = some (short, z) := by
  cases searched : shortSearch c short with
  | some other =>
    have same : other = ref := by
      simp only [addressByShort, searched, lockResult_snd] at ok
      exact Except.ok.inj ok
    obtain ⟨z, held⟩ := (sound.shortSearch_eq_some valid).mp (same ▸ searched)
    rcases addressByShort_pairs (c := c) short create lock with kept | ⟨absent, -⟩
    · exact ⟨z, (congrFun kept ref).trans held⟩
    · cases searched.symm.trans absent
  | none =>
    cases create with
    | false =>
      simp only [addressByShort, searched, lockResult_snd] at ok
      cases ok
    | true =>
      have added : (addrAdd c none short).2 = .ok ref := by
        simpa only [addressByShort, searched, lockResult_snd, if_true] using ok
      refine ⟨.zero, ?_⟩
      simp only [addressByShort, searched, if_true, pairAt_lockResult]
      rw [(pairAt_addrAdd added).2, Function.update_self]
      rfl

theorem byIeee_stands (sound : Sound c) {ieee : IeeeAddr} {create lock : Bool}
    {junk : IeeeAddrCompressed} (compressible : Compressible c ieee) {ref : ℕ}
    (ok : (addressByIeee c ieee create lock junk).2 = .ok ref) :
    ∃ short, Stands (addressByIeee c ieee create lock junk).1 ref short ieee := by
  obtain ⟨known, reads⟩ :=
    (addressByIeee_spec sound.ieee compressible create lock junk).stands ref ok
  obtain ⟨short, z, held, nonzero⟩ := known_iff_pairAt.mp known
  refine ⟨short, z, held, nonzero, ?_⟩
  rwa [addressIeeeByRef, (pairAt_eq_some.mp held).2.2.2] at reads

theorem update_stands (sound : Sound c) {ieee : IeeeAddr} {short ref : ℕ} {lock : Bool}
    {junk : IeeeAddrCompressed} (ready : Ready c (.table (.update ieee short lock junk)))
    (ok : (addressUpdate c ieee short lock junk).2 = .ok ref) :
    Stands (addressUpdate c ieee short lock junk).1 ref short ieee := by
  obtain ⟨respects, -, compressible, resolvable⟩ := ready
  obtain ⟨-, -, decompressed, nonzero, -⟩ := ieeeAddrCompress_spec sound.ieee compressible junk
  obtain ⟨-, here, -⟩ := addressUpdate_pairs sound respects.2 compressible resolvable ok
  obtain ⟨-, dev⟩ := addressUpdate_manufacturers (c := c) ieee short lock junk
  refine ⟨_, here, nonzero, ?_⟩
  rw [addressDecompress, dev]
  exact decompressed

theorem compressible_stands (sound : Sound c) {ref short : ℕ} {ieee : IeeeAddr}
    (stands : Stands c ref short ieee) : Compressible c ieee := by
  obtain ⟨z, held, nonzero, rfl⟩ := stands
  have fits := compressible_of_known sound.ieee (known_iff_pairAt.mpr ⟨short, z, held, nonzero⟩)
  rwa [addressIeeeByRef, (pairAt_eq_some.mp held).2.2.2] at fits

/-- A device that stands in the table is found, and the table stays as it is. -/
theorem byIeee_stands_found (sound : Sound c) {ref short : ℕ} {ieee : IeeeAddr}
    (stands : Stands c ref short ieee) (lock : Bool) (junk : IeeeAddrCompressed) :
    (addressByIeee c ieee false lock junk).2 = .ok ref ∧
      pairAt (addressByIeee c ieee false lock junk).1 = pairAt c := by
  obtain ⟨z, held, nonzero, rfl⟩ := stands
  have ok := sound.byIeee_found held nonzero lock junk
  refine ⟨ok, ?_⟩
  rcases addressByIeee_pairs (c := c) (addressDecompress c z) false lock junk with
    kept | ⟨absent, -⟩
  · exact kept.trans (pairAt_ieeeAddrCompress _ _)
  · rw [addressByIeee, lockResult_snd] at ok
    simp only [absent] at ok
    cases ok

theorem shortByIeee_stands (sound : Sound c) {ref short : ℕ} {ieee : IeeeAddr}
    (stands : Stands c ref short ieee) (junk : IeeeAddrCompressed) :
    (addressShortByIeee c ieee junk).2 = short := by
  obtain ⟨ok, pairs⟩ := sound.byIeee_stands_found stands false junk
  obtain ⟨z, held, -⟩ := stands
  rw [addressShortByIeee]
  cases looked : addressByIeee c ieee false false junk with
  | mk d reply =>
    rw [looked] at ok pairs
    obtain rfl : reply = .ok ref := ok
    dsimp only at pairs ⊢
    rw [← pairs] at held
    exact (pairAt_eq_some.mp held).2.2.1

/-- Two references that stand for one IEEE address are equal. -/
theorem stands_unique (sound : Sound c) {r s a b : ℕ} {ieee : IeeeAddr} (left : Stands c r a ieee)
    (right : Stands c s b ieee) : r = s := by
  obtain ⟨z, heldZ, nonzeroZ, readsZ⟩ := left
  obtain ⟨y, heldY, nonzeroY, readsY⟩ := right
  refine sound.ieee.ref_eq (known_iff_pairAt.mpr ⟨a, z, heldZ, nonzeroZ⟩)
    (known_iff_pairAt.mpr ⟨b, y, heldY, nonzeroY⟩) ?_
  rw [addressIeeeByRef, addressIeeeByRef, (pairAt_eq_some.mp heldZ).2.2.2,
    (pairAt_eq_some.mp heldY).2.2.2, readsZ, readsY]

end Sound

end Zboss.AddressTable
