import Zboss.Common.AddressIndex

/-!
The translation table as a naming of devices: which IEEE address a reference stands
for.  A lookup that may create entries keeps every name, and its answer stands for
the address looked up, as long as the address can be compressed: its manufacturer
must find a slot, and the compressed form must not be the one that means "unknown".
-/

namespace Zboss.AddressTable

/-- The reference stands for a device with a known IEEE address. -/
structure Known (c : AddrGlobals) (ref : ℕ) : Prop where
  inside : ref < ieeeAddrTableSize
  used : (c.addrMap ref).used = true
  nonzero : (c.addrMap ref).ieeeAddr ≠ .zero

/-- No manufacturer and no device has two entries. -/
structure IeeeUnique (c : AddrGlobals) : Prop where
  range : ∀ i, c.usedManufacturer i = true → i < devManufacturerTableSize
  manufacturers : ∀ i j, c.usedManufacturer i = true → c.usedManufacturer j = true →
    c.devManufacturer i = c.devManufacturer j → i = j
  slots : ∀ ref, Known c ref →
    c.usedManufacturer (c.addrMap ref).ieeeAddr.devManufacturer = true
  devices : ∀ r s, Known c r → Known c s →
    (c.addrMap r).ieeeAddr = (c.addrMap s).ieeeAddr → r = s

/-- The compressed form of an address is defined and says that it is known. -/
def Compressible (c : AddrGlobals) (ieee : IeeeAddr) : Prop :=
  ∃ i ∈ manufacturerSlot c ieee.devManufacturer,
    (⟨i, ieee.deviceId⟩ : IeeeAddrCompressed) ≠ .zero

instance (c : AddrGlobals) (ieee : IeeeAddr) : Decidable (Compressible c ieee) :=
  match found : manufacturerSlot c ieee.devManufacturer with
  | none => isFalse fun ⟨i, member, _⟩ => by
      rw [found] at member
      cases member
  | some i => decidable_of_iff ((⟨i, ieee.deviceId⟩ : IeeeAddrCompressed) ≠ .zero) <| by
      simp [Compressible, found]

theorem zero_ieeeUnique : IeeeUnique .zero where
  range i used := by simp [AddrGlobals.zero] at used
  manufacturers i j used := by simp [AddrGlobals.zero] at used
  slots ref known := by simpa [AddrGlobals.zero, AddressMap.zero] using known.used
  devices r s known := by simpa [AddrGlobals.zero, AddressMap.zero] using known.used

variable {c d : AddrGlobals}

/-- The names of a table go on in a later one. -/
structure NamesKept (c d : AddrGlobals) : Prop where
  unique : IeeeUnique d
  known : ∀ ref, Known c ref → Known d ref
  same : ∀ ref, Known c ref → addressIeeeByRef d ref = addressIeeeByRef c ref

theorem NamesKept.refl (unique : IeeeUnique c) : NamesKept c c :=
  ⟨unique, fun _ known => known, fun _ _ => rfl⟩

theorem NamesKept.trans {e : AddrGlobals} (first : NamesKept c d) (second : NamesKept d e) :
    NamesKept c e where
  unique := second.unique
  known ref known := second.known ref (first.known ref known)
  same ref known := (second.same ref (first.known ref known)).trans (first.same ref known)

/-- References that stand for one device are equal. -/
theorem IeeeUnique.ref_eq (unique : IeeeUnique c) {r s : ℕ} (known : Known c r)
    (known' : Known c s) (same : addressIeeeByRef c r = addressIeeeByRef c s) : r = s := by
  simp only [addressIeeeByRef, addressDecompress, IeeeAddr.mk.injEq] at same
  obtain ⟨manufacturer, device⟩ := same
  have slot := unique.manufacturers _ _ (unique.slots r known) (unique.slots s known') manufacturer
  refine unique.devices r s known known' ?_
  cases left : (c.addrMap r).ieeeAddr
  cases right : (c.addrMap s).ieeeAddr
  simp_all

/-- Only the names matter: references in use with their compressed addresses, and the
manufacturers. -/
theorem NamesKept.of_same (unique : IeeeUnique c)
    (entries : ∀ ref, (d.addrMap ref).used = (c.addrMap ref).used ∧
      (d.addrMap ref).ieeeAddr = (c.addrMap ref).ieeeAddr)
    (usedManufacturer : d.usedManufacturer = c.usedManufacturer)
    (devManufacturer : d.devManufacturer = c.devManufacturer) : NamesKept c d := by
  have back : ∀ ref, Known d ref → Known c ref := fun ref known =>
    ⟨known.inside, (entries ref).1 ▸ known.used, (entries ref).2 ▸ known.nonzero⟩
  refine ⟨⟨?_, ?_, fun ref known => ?_, fun r s known known' same => ?_⟩, fun ref known => ?_,
    fun ref known => ?_⟩
  · rw [usedManufacturer]
    exact unique.range
  · rw [usedManufacturer, devManufacturer]
    exact unique.manufacturers
  · rw [usedManufacturer, (entries ref).2]
    exact unique.slots ref (back ref known)
  · rw [(entries r).2, (entries s).2] at same
    exact unique.devices r s (back r known) (back s known') same
  · refine ⟨known.inside, ?_, ?_⟩
    · rw [(entries ref).1]
      exact known.used
    · rw [(entries ref).2]
      exact known.nonzero
  · rw [addressIeeeByRef, addressIeeeByRef, addressDecompress, addressDecompress,
      (entries ref).2, devManufacturer]

/-- Touching or locking an entry does not change its name. -/
theorem namesKept_setEntry (unique : IeeeUnique c) {ref : ℕ} {ent : AddressMap}
    (used : ent.used = (c.addrMap ref).used) (ieee : ent.ieeeAddr = (c.addrMap ref).ieeeAddr) :
    NamesKept c (c.setEntry ref ent) := by
  refine NamesKept.of_same unique (fun r => ?_) rfl rfl
  by_cases same : r = ref
  · subst same
    simp [used, ieee]
  · simp [same]

/-- A manufacturer's slot holds it already, or is free and it has none. -/
theorem manufacturerSlot_spec {manufacturer : DevManufacturer} {i : ℕ}
    (found : manufacturerSlot c manufacturer = some i) :
    (c.usedManufacturer i = true ∧ c.devManufacturer i = manufacturer) ∨
      c.usedManufacturer i = false := by
  rcases Option.or_eq_some_iff.mp found with held | ⟨-, free⟩
  · have holds := List.find?_some held
    rw [Bool.and_eq_true, decide_eq_true_eq] at holds
    exact .inl holds
  · right
    simpa using List.find?_some free

theorem manufacturerSlot_known {manufacturer : DevManufacturer} {i j : ℕ}
    (found : manufacturerSlot c manufacturer = some i) (inside : j < devManufacturerTableSize)
    (used : c.usedManufacturer j = true) (held : c.devManufacturer j = manufacturer) :
    c.usedManufacturer i = true ∧ c.devManufacturer i = manufacturer := by
  rcases Option.or_eq_some_iff.mp found with here | ⟨none, -⟩
  · have holds := List.find?_some here
    rwa [Bool.and_eq_true, decide_eq_true_eq] at holds
  · have absent := List.find?_eq_none.mp none j (List.mem_range.mpr inside)
    simp [used, held] at absent

/-- Compressing an address keeps the names; the compressed form stands for it. -/
theorem ieeeAddrCompress_spec (unique : IeeeUnique c) {ieee : IeeeAddr}
    (compressible : Compressible c ieee) (junk : IeeeAddrCompressed) :
    let result := ieeeAddrCompress c ieee junk
    NamesKept c result.1 ∧ result.1.addrMap = c.addrMap ∧
      addressDecompress result.1 result.2 = ieee ∧ result.2 ≠ .zero ∧
      result.1.usedManufacturer result.2.devManufacturer = true := by
  obtain ⟨i, found, nonzero⟩ := compressible
  have inside : i < devManufacturerTableSize := by
    rcases Option.or_eq_some_iff.mp found with held | ⟨-, free⟩
    · exact List.mem_range.mp (List.mem_of_find?_eq_some held)
    · exact List.mem_range.mp (List.mem_reverse.mp (List.mem_of_find?_eq_some free))
  -- a used slot is the only one that holds the manufacturer
  have others : ∀ j, c.usedManufacturer j = true →
      c.devManufacturer j = ieee.devManufacturer → j = i := by
    intro j used held
    obtain ⟨usedSlot, heldSlot⟩ := manufacturerSlot_known found (unique.range j used) used held
    exact unique.manufacturers j i used usedSlot (held.trans heldSlot.symm)
  have kept : ∀ j, c.usedManufacturer j = true →
      Function.update c.devManufacturer i ieee.devManufacturer j = c.devManufacturer j := by
    intro j used
    by_cases same : j = i
    · subst same
      rcases manufacturerSlot_spec found with ⟨-, held⟩ | free
      · rw [Function.update_self, held]
      · rw [used] at free
        cases free
    · rw [Function.update_of_ne same]
  have used : ∀ j, Function.update c.usedManufacturer i true j = true →
      j = i ∨ c.usedManufacturer j = true := by
    intro j isUsed
    by_cases same : j = i
    · exact .inl same
    · rw [Function.update_of_ne same] at isUsed
      exact .inr isUsed
  rw [ieeeAddrCompress, found]
  refine ⟨⟨⟨fun j isUsed => ?_, fun j k usedJ usedK same => ?_, fun ref known => ?_, ?_⟩,
    fun ref known => ⟨known.inside, known.used, known.nonzero⟩, fun ref known => ?_⟩, rfl, ?_,
    nonzero, Function.update_self _ _ _⟩
  · rcases used j isUsed with rfl | before
    · exact inside
    · exact unique.range j before
  · dsimp only at same
    rcases used j usedJ with rfl | beforeJ
    · rcases used k usedK with rfl | beforeK
      · rfl
      · rw [Function.update_self, kept k beforeK] at same
        exact (others k beforeK same.symm).symm
    · rcases used k usedK with rfl | beforeK
      · rw [Function.update_self, kept j beforeJ] at same
        exact others j beforeJ same
      · rw [kept j beforeJ, kept k beforeK] at same
        exact unique.manufacturers j k beforeJ beforeK same
  · have before := unique.slots ref ⟨known.inside, known.used, known.nonzero⟩
    by_cases same : (c.addrMap ref).ieeeAddr.devManufacturer = i
    · dsimp only
      rw [same, Function.update_self]
    · dsimp only
      rw [Function.update_of_ne same]
      exact before
  · intro r s known known' same
    exact unique.devices r s ⟨known.inside, known.used, known.nonzero⟩
      ⟨known'.inside, known'.used, known'.nonzero⟩ same
  · have before := kept _ (unique.slots ref known)
    simp only [addressIeeeByRef, addressDecompress, before]
  · simp [addressDecompress]

/-- What a lookup by IEEE address does to the names. -/
structure LookedUp (c : AddrGlobals) (ieee : IeeeAddr) (create : Bool)
    (result : AddrGlobals × Except RetError ℕ) : Prop where
  names : NamesKept c result.1
  stands : ∀ ref, result.2 = .ok ref →
    Known result.1 ref ∧ addressIeeeByRef result.1 ref = ieee
  found : ∀ ref, Known c ref → addressIeeeByRef c ref = ieee → result.2 = .ok ref
  old : create = false → ∀ ref, result.2 = .ok ref → Known c ref

/-- Locking the entry found changes no name. -/
theorem LookedUp.lockResult {ieee : IeeeAddr} {create : Bool}
    {result : AddrGlobals × Except RetError ℕ} (lookedUp : LookedUp c ieee create result)
    (lock : Bool) : LookedUp c ieee create (lockResult lock result) := by
  obtain ⟨d, reply⟩ := result
  cases reply with
  | error e => exact lookedUp
  | ok ref =>
    cases lock with
    | false => exact lookedUp
    | true =>
      have locked : NamesKept d (addressLock d ref) :=
        namesKept_setEntry lookedUp.names.unique rfl rfl
      refine ⟨lookedUp.names.trans locked, fun r same => ?_, lookedUp.found, lookedUp.old⟩
      obtain ⟨known, address⟩ := lookedUp.stands r same
      exact ⟨locked.known r known, (locked.same r known).trans address⟩

/-- The scan visits every position. -/
theorem probe_complete (start : ℕ) {i : ℕ} (inside : i < ieeeAddrTableSize) :
    i ∈ probe start := by
  rw [probe, List.mem_map]
  refine ⟨(i + ieeeAddrTableSize - start % ieeeAddrTableSize) % ieeeAddrTableSize, ?_, ?_⟩
  · exact List.mem_range.mpr (Nat.mod_lt _ (by decide))
  · rw [ieeeAddrTableSize] at *
    omega

theorem ieeeSearch_eq_none {compressed : IeeeAddrCompressed}
    (none : ieeeSearch c compressed = none) {ref : ℕ} (known : Known c ref) :
    (c.addrMap ref).ieeeAddr ≠ compressed := by
  intro same
  have absent := List.find?_eq_none.mp none ref (probe_complete _ known.inside)
  simp [known.used, same] at absent

/-- A new entry is a new name. -/
theorem fillEntry_names (unique : IeeeUnique c) {i : ℕ} (inside : i < ieeeAddrTableSize)
    (free : (c.addrMap i).used = false) (compressed : IeeeAddrCompressed)
    (slot : c.usedManufacturer compressed.devManufacturer = true)
    (new : ∀ ref, Known c ref → (c.addrMap ref).ieeeAddr ≠ compressed) (shortAddr : ℕ) :
    let d := fillEntry c i (some compressed) shortAddr
    NamesKept c d ∧ (d.addrMap i).used = true ∧ (d.addrMap i).ieeeAddr = compressed ∧
      d.devManufacturer = c.devManufacturer := by
  obtain ⟨usedManufacturer, devManufacturer⟩ :=
    fillEntry_manufacturers free (some compressed) shortAddr
  have entries := fillEntry_addrMap free (some compressed) shortAddr
  generalize fillEntry c i (some compressed) shortAddr = d at *
  have here : (d.addrMap i).used = true ∧ (d.addrMap i).ieeeAddr = compressed := by
    rw [entries, Function.update_self]
    exact ⟨rfl, rfl⟩
  have others : ∀ ref, ref ≠ i → d.addrMap ref = c.addrMap ref := by
    intro ref differs
    rw [entries, Function.update_of_ne differs]
  have back : ∀ ref, ref ≠ i → Known d ref → Known c ref := by
    intro ref differs known
    have same := others ref differs
    exact ⟨known.inside, same ▸ known.used, same ▸ known.nonzero⟩
  have old : ∀ ref, Known c ref → ref ≠ i := by
    rintro ref known rfl
    rw [known.used] at free
    cases free
  refine ⟨⟨⟨?_, ?_, fun ref known => ?_, fun r s known known' same => ?_⟩, fun ref known => ?_,
    fun ref known => ?_⟩, here.1, here.2, devManufacturer⟩
  · rw [usedManufacturer]
    exact unique.range
  · rw [usedManufacturer, devManufacturer]
    exact unique.manufacturers
  · rw [usedManufacturer]
    by_cases isNew : ref = i
    · rw [isNew, here.2]
      exact slot
    · rw [others ref isNew]
      exact unique.slots ref (back ref isNew known)
  · by_cases left : r = i
    · by_cases right : s = i
      · rw [left, right]
      · rw [left, here.2, others s right] at same
        exact absurd same.symm (new s (back s right known'))
    · by_cases right : s = i
      · rw [right, here.2, others r left] at same
        exact absurd same (new r (back r left known))
      · rw [others r left, others s right] at same
        exact unique.devices r s (back r left known) (back s right known') same
  · have same := others ref (old ref known)
    exact ⟨known.inside, same ▸ known.used, same ▸ known.nonzero⟩
  · rw [addressIeeeByRef, addressIeeeByRef, others ref (old ref known), addressDecompress,
      addressDecompress, devManufacturer]

theorem clockTick_names (unique : IeeeUnique c) : NamesKept c (clockTick c) := by
  refine NamesKept.of_same unique (fun ref => ?_) rfl rfl
  have entry := clockTick_entry c ref
  simp only [AddressMap.setClock, AddressMap.mk.injEq] at entry
  exact ⟨entry.2.2.2.1, entry.1⟩

/-- Where a compressed address belongs to one device only, no other reference has it. -/
theorem known_compressed (unique : IeeeUnique c) {compressed : IeeeAddrCompressed} {ref : ℕ}
    (slot : c.usedManufacturer compressed.devManufacturer = true) (known : Known c ref)
    (same : addressIeeeByRef c ref = addressDecompress c compressed) :
    (c.addrMap ref).ieeeAddr = compressed := by
  simp only [addressIeeeByRef, addressDecompress, IeeeAddr.mk.injEq] at same
  have manufacturer := unique.manufacturers _ _ (unique.slots ref known) slot same.1
  cases left : (c.addrMap ref).ieeeAddr
  cases compressed
  simp_all

/-- `zb_address_by_ieee` finds the device, or creates it, or reports an error. -/
theorem addressByIeee_spec (unique : IeeeUnique c) {ieee : IeeeAddr}
    (compressible : Compressible c ieee) (create lock : Bool) (junk : IeeeAddrCompressed) :
    LookedUp c ieee create (addressByIeee c ieee create lock junk) := by
  obtain ⟨names, entries, decompressed, nonzero, slot⟩ :=
    ieeeAddrCompress_spec unique compressible junk
  unfold addressByIeee
  generalize ieeeAddrCompress c ieee junk = result at *
  obtain ⟨d, compressed⟩ := result
  dsimp only at *
  apply LookedUp.lockResult
  have knownIff : ∀ ref, Known d ref → Known c ref := fun ref known =>
    ⟨known.inside, entries ▸ known.used, entries ▸ known.nonzero⟩
  cases found : ieeeSearch d compressed with
  | some ref =>
    obtain ⟨inside, used, address⟩ := ieeeSearch_spec found
    have known : Known d ref := ⟨inside, used, by rw [address]; exact nonzero⟩
    have stands : addressIeeeByRef d ref = ieee := by
      rw [addressIeeeByRef, address, decompressed]
    have touched : NamesKept d (touch d ref) := namesKept_setEntry names.unique rfl rfl
    refine ⟨names.trans touched, fun r same => ?_, fun r known' same => ?_, fun _ r same => ?_⟩
    · cases same
      exact ⟨touched.known ref known, (touched.same ref known).trans stands⟩
    · have equal := names.unique.ref_eq (names.known r known') known
        (((names.same r known').trans same).trans stands.symm)
      rw [equal]
    · cases same
      exact knownIff ref known
  | none =>
    have new := fun ref (known : Known d ref) => ieeeSearch_eq_none found known
    have absent : ∀ r, Known c r → addressIeeeByRef c r ≠ ieee := by
      intro r known same
      have known' := names.known r known
      refine new r known' (known_compressed names.unique slot known' ?_)
      rw [decompressed, names.same r known, same]
    cases create with
    | false =>
      exact ⟨names, fun r same => (by cases same), fun r known same => absurd same (absent r known),
        fun _ r same => (by cases same)⟩
    | true =>
      rw [if_pos rfl]
      unfold addrAdd
      cases place : freeSlot d (some compressed) with
      | none =>
        exact ⟨names, fun r same => (by cases same),
          fun r known same => absurd same (absent r known), fun impossible => by cases impossible⟩
      | some i =>
        obtain ⟨inside, unused⟩ := freeSlot_spec place
        have ticked := clockTick_names names.unique
        have entry := clockTick_entry d
        simp only [AddressMap.setClock, AddressMap.mk.injEq] at entry
        obtain ⟨filled, used, address, manufacturers⟩ := fillEntry_names ticked.unique inside
          ((entry i).2.2.2.1.trans unused) compressed slot
          (fun ref known => by
            rw [(entry ref).1]
            exact new ref ⟨known.inside, (entry ref).2.2.2.1 ▸ known.used,
              (entry ref).1 ▸ known.nonzero⟩) noShortAddr
        refine ⟨names.trans (ticked.trans filled), fun r same => ?_,
          fun r known same => absurd same (absent r known), fun impossible => by cases impossible⟩
        cases same
        refine ⟨⟨inside, used, by rw [address]; exact nonzero⟩, ?_⟩
        rw [addressIeeeByRef, address, addressDecompress, manufacturers]
        exact decompressed

end Zboss.AddressTable
