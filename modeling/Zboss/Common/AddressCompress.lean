import Zboss.Common.AddressTable
import Zboss.Lib.Run

/-!
The table of manufacturers.  Compressing an address gives its manufacturer a slot for good, so
that the compressed form can be read back at any time; but a lookup compresses as well, and so
leaves a slot behind for every manufacturer it is asked for.
-/

namespace Zboss.AddressTable

open Zboss.Run

def addressCompressedCmp (one two : IeeeAddrCompressed) : Bool :=
  one.devManufacturer == two.devManufacturer && decide (one.deviceId = two.deviceId)

theorem addressCompressedCmp_iff {one two : IeeeAddrCompressed} :
    addressCompressedCmp one two = true ↔ one = two := by
  cases one
  cases two
  simp [addressCompressedCmp]

/-- No manufacturer has two slots. -/
structure ManufacturersUnique (c : AddrGlobals) : Prop where
  range : ∀ i, c.usedManufacturer i = true → i < devManufacturerTableSize
  unique : ∀ i j, c.usedManufacturer i = true → c.usedManufacturer j = true →
    c.devManufacturer i = c.devManufacturer j → i = j

/-- The manufacturer has a slot. -/
def Stored (c : AddrGlobals) (manufacturer : DevManufacturer) : Prop :=
  ∃ i < devManufacturerTableSize, c.usedManufacturer i = true ∧ c.devManufacturer i = manufacturer

instance (c : AddrGlobals) (manufacturer : DevManufacturer) :
    Decidable (Stored c manufacturer) :=
  inferInstanceAs (Decidable (∃ i < devManufacturerTableSize, _))

section

variable {c : AddrGlobals} {manufacturer : DevManufacturer} {i : ℕ}

theorem manufacturerSlot_lt (found : manufacturerSlot c manufacturer = some i) :
    i < devManufacturerTableSize := by
  rcases Option.or_eq_some_iff.mp found with held | ⟨-, free⟩
  · exact List.mem_range.mp (List.mem_of_find?_eq_some held)
  · exact List.mem_range.mp (List.mem_reverse.mp (List.mem_of_find?_eq_some free))

theorem manufacturerSlot_of_stored (stored : Stored c manufacturer) :
    ∃ i, manufacturerSlot c manufacturer = some i ∧ c.usedManufacturer i = true ∧
      c.devManufacturer i = manufacturer := by
  obtain ⟨j, inside, used, same⟩ := stored
  cases found : (List.range devManufacturerTableSize).find? fun i =>
      c.usedManufacturer i && decide (c.devManufacturer i = manufacturer) with
  | none =>
    have absent := List.find?_eq_none.mp found j (List.mem_range.mpr inside)
    simp [used, same] at absent
  | some i =>
    have holds := List.find?_some found
    rw [Bool.and_eq_true, decide_eq_true_eq] at holds
    exact ⟨i, by rw [manufacturerSlot, found]; rfl, holds⟩

theorem manufacturerSlot_of_not_stored (missing : ¬Stored c manufacturer)
    (found : manufacturerSlot c manufacturer = some i) : c.usedManufacturer i = false := by
  rcases Option.or_eq_some_iff.mp found with held | ⟨-, free⟩
  · have holds := List.find?_some held
    rw [Bool.and_eq_true, decide_eq_true_eq] at holds
    exact absurd ⟨i, manufacturerSlot_lt found, holds⟩ missing
  · simpa using List.find?_some free

theorem manufacturerSlot_eq_none (full : manufacturerSlot c manufacturer = none) :
    ∀ i < devManufacturerTableSize,
      c.usedManufacturer i = true ∧ c.devManufacturer i ≠ manufacturer := by
  intro i inside
  obtain ⟨other, taken⟩ := Option.or_eq_none_iff.mp full
  have used : c.usedManufacturer i = true := by
    simpa using List.find?_eq_none.mp taken i (List.mem_reverse.mpr (List.mem_range.mpr inside))
  have differs := List.find?_eq_none.mp other i (List.mem_range.mpr inside)
  rw [used] at differs
  exact ⟨used, by simpa using differs⟩

end

/-- The slots of `c` stay what they are. -/
def SlotsKept (c d : AddrGlobals) : Prop :=
  ∀ i, c.usedManufacturer i = true →
    d.usedManufacturer i = true ∧ d.devManufacturer i = c.devManufacturer i

theorem SlotsKept.refl (c : AddrGlobals) : SlotsKept c c := fun _ used => ⟨used, rfl⟩

/-- A compressed address that can be read back still can when the slots are kept. -/
theorem SlotsKept.addressDecompress {c d : AddrGlobals} (kept : SlotsKept c d)
    {compressed : IeeeAddrCompressed} (used : c.usedManufacturer compressed.devManufacturer = true) :
    addressDecompress d compressed = addressDecompress c compressed := by
  rw [AddressTable.addressDecompress, AddressTable.addressDecompress, (kept _ used).2]

section

variable {c : AddrGlobals} (address : IeeeAddr) (junk : IeeeAddrCompressed)

theorem ieeeAddrCompress_slotsKept : SlotsKept c (ieeeAddrCompress c address junk).1 := by
  intro j used
  unfold ieeeAddrCompress
  split
  · rename_i i found
    by_cases same : j = i
    · subst same
      refine ⟨Function.update_self .., (Function.update_self ..).trans ?_⟩
      by_contra differs
      have missing : ¬Stored c address.devManufacturer := by
        intro stored
        obtain ⟨i', found', -, same⟩ := manufacturerSlot_of_stored stored
        cases found.symm.trans found'
        exact differs same.symm
      exact absurd (used.symm.trans (manufacturerSlot_of_not_stored missing found)) (by simp)
    · exact ⟨(Function.update_of_ne same ..).trans used, Function.update_of_ne same ..⟩
  · exact ⟨used, rfl⟩

theorem ManufacturersUnique.ieeeAddrCompress (unique : ManufacturersUnique c) :
    ManufacturersUnique (ieeeAddrCompress c address junk).1 := by
  unfold AddressTable.ieeeAddrCompress
  split
  · rename_i i found
    by_cases stored : Stored c address.devManufacturer
    · obtain ⟨i', found', used, same⟩ := manufacturerSlot_of_stored stored
      cases found.symm.trans found'
      rw [← used, ← same, Function.update_eq_self, Function.update_eq_self]
      exact unique
    · have new : ∀ j, c.usedManufacturer j = true →
          c.devManufacturer j ≠ address.devManufacturer := fun j used same =>
        stored ⟨j, unique.range j used, used, same⟩
      refine ⟨fun j used => ?_, fun j k usedJ usedK same => ?_⟩
      · by_cases here : j = i
        · rw [here]
          exact manufacturerSlot_lt found
        · exact unique.range j ((Function.update_of_ne here ..).symm.trans used)
      · by_cases hereJ : j = i
        · by_cases hereK : k = i
          · rw [hereJ, hereK]
          · simp only [hereJ, Function.update_self, Function.update_of_ne hereK] at same usedK
            exact absurd same.symm (new k usedK)
        · by_cases hereK : k = i
          · simp only [hereK, Function.update_self, Function.update_of_ne hereJ] at same usedJ
            exact absurd same (new j usedJ)
          · simp only [Function.update_of_ne hereJ, Function.update_of_ne hereK] at *
            exact unique.unique j k usedJ usedK same
  · exact unique

end

/-! ## Runs of compressions -/

/-- The table and what each address was compressed to. -/
structure Compressions where
  table : AddrGlobals
  obtained : List (IeeeAddr × IeeeAddrCompressed)

/-- No address is compressed yet. -/
def Compressions.zero : Compressions := ⟨.zero, []⟩

/-- A call of `zb_ieee_addr_compress`, with what the result holds before it. -/
def Compressions.compress (h : Compressions) (call : IeeeAddr × IeeeAddrCompressed) :
    Compressions :=
  let result := ieeeAddrCompress h.table call.1 call.2
  ⟨result.1, h.obtained ++ [(call.1, result.2)]⟩

namespace Compressions

/-- The manufacturers of a list of addresses, each once. -/
def prefixes (addresses : List IeeeAddr) : List DevManufacturer :=
  (addresses.map IeeeAddr.devManufacturer).dedup

/-- The addresses of the calls can be read back, and the manufacturers are theirs. -/
structure Sound (h : Compressions) (addresses : List IeeeAddr) : Prop where
  unique : ManufacturersUnique h.table
  back : ∀ pair ∈ h.obtained,
    h.table.usedManufacturer pair.2.devManufacturer = true ∧
      addressDecompress h.table pair.2 = pair.1
  theirs : ∀ i, h.table.usedManufacturer i = true →
    h.table.devManufacturer i ∈ prefixes addresses

theorem Sound.zero (addresses : List IeeeAddr) : Sound .zero addresses where
  unique := ⟨fun _ used => (nomatch used), fun _ _ used => (nomatch used)⟩
  back _ member := nomatch member
  theirs _ used := nomatch used

/-- With few enough manufacturers a slot is found. -/
theorem Sound.slot {h : Compressions} {addresses : List IeeeAddr} (sound : Sound h addresses)
    (few : (prefixes addresses).length ≤ devManufacturerTableSize) {address : IeeeAddr}
    (member : address ∈ addresses) :
    ∃ i, manufacturerSlot h.table address.devManufacturer = some i := by
  cases found : manufacturerSlot h.table address.devManufacturer with
  | some i => exact ⟨i, rfl⟩
  | none =>
    have full := manufacturerSlot_eq_none found
    -- the manufacturers of all slots, and the one that has none
    let stored := (List.range devManufacturerTableSize).map h.table.devManufacturer
    have distinct : stored.Nodup := by
      refine List.Nodup.map_on (fun i inI j inJ same => ?_) List.nodup_range
      exact sound.unique.unique i j (full i (List.mem_range.mp inI)).1
        (full j (List.mem_range.mp inJ)).1 same
    have new : address.devManufacturer ∉ stored := by
      intro there
      obtain ⟨i, inside, same⟩ := List.mem_map.mp there
      exact (full i (List.mem_range.mp inside)).2 same
    have theirs : address.devManufacturer :: stored ⊆ prefixes addresses := by
      intro manufacturer there
      rcases List.mem_cons.mp there with rfl | inTable
      · exact List.mem_dedup.mpr (List.mem_map_of_mem member)
      · obtain ⟨i, inside, rfl⟩ := List.mem_map.mp inTable
        exact sound.theirs i (full i (List.mem_range.mp inside)).1
    have more := (List.Nodup.subperm (List.nodup_cons.mpr ⟨new, distinct⟩) theirs).length_le
    rw [List.length_cons, List.length_map, List.length_range] at more
    omega

theorem Sound.compress {h : Compressions} {addresses : List IeeeAddr} (sound : Sound h addresses)
    (few : (prefixes addresses).length ≤ devManufacturerTableSize)
    (call : IeeeAddr × IeeeAddrCompressed) (member : call.1 ∈ addresses) :
    Sound (h.compress call) addresses := by
  obtain ⟨i, found⟩ := sound.slot few member
  have kept := ieeeAddrCompress_slotsKept (c := h.table) call.1 call.2
  have after : ieeeAddrCompress h.table call.1 call.2 =
      ({ h.table with
          usedManufacturer := Function.update h.table.usedManufacturer i true
          devManufacturer := Function.update h.table.devManufacturer i call.1.devManufacturer },
        ⟨i, call.1.deviceId⟩) := by
    simp only [ieeeAddrCompress, found]
  refine ⟨sound.unique.ieeeAddrCompress call.1 call.2, fun pair obtained => ?_, fun j used => ?_⟩
  · rcases List.mem_append.mp obtained with before | new
    · obtain ⟨used, back⟩ := sound.back pair before
      exact ⟨(kept _ used).1, (kept.addressDecompress used).trans back⟩
    · cases List.mem_singleton.mp new
      show (ieeeAddrCompress h.table call.1 call.2).1.usedManufacturer
          (ieeeAddrCompress h.table call.1 call.2).2.devManufacturer = true ∧
        addressDecompress (ieeeAddrCompress h.table call.1 call.2).1
          (ieeeAddrCompress h.table call.1 call.2).2 = call.1
      rw [after]
      refine ⟨Function.update_self .., ?_⟩
      simp only [addressDecompress, Function.update_self]
  · show (ieeeAddrCompress h.table call.1 call.2).1.devManufacturer j ∈ prefixes addresses
    rw [Compressions.compress, after] at used
    rw [after]
    by_cases here : j = i
    · rw [here]
      simp only [Function.update_self]
      exact List.mem_dedup.mpr (List.mem_map_of_mem member)
    · simp only [Function.update_of_ne here] at used ⊢
      exact sound.theirs j used

/-- With at most `ZB_DEV_MANUFACTORER_TABLE_SIZE` manufacturers every compressed address can be
read back later, and comparing compressed addresses compares the addresses. -/
theorem compressed_bijective (calls : List (IeeeAddr × IeeeAddrCompressed))
    (few : (prefixes (calls.map Prod.fst)).length ≤ devManufacturerTableSize) :
    ∀ pair ∈ (run Compressions.compress .zero calls).obtained,
      addressDecompress (run Compressions.compress .zero calls).table pair.2 = pair.1 ∧
        ∀ pair' ∈ (run Compressions.compress .zero calls).obtained,
          addressCompressedCmp pair.2 pair'.2 = true ↔ pair.1 = pair'.1 := by
  have kept : ∀ (h : Compressions) (call : IeeeAddr × IeeeAddrCompressed),
      Sound h (calls.map Prod.fst) → call.1 ∈ calls.map Prod.fst →
        Sound (h.compress call) (calls.map Prod.fst) :=
    fun h call sound member => sound.compress few call member
  have sound := invariant_of_along kept .zero calls (Sound.zero _)
    (along_of_forall fun call member => List.mem_map_of_mem member)
  intro pair obtained
  obtain ⟨used, back⟩ := sound.back pair obtained
  refine ⟨back, fun pair' obtained' => ?_⟩
  obtain ⟨used', back'⟩ := sound.back pair' obtained'
  rw [addressCompressedCmp_iff]
  constructor
  · intro same
    rw [← back, ← back', same]
  · intro same
    rw [← back, ← back', addressDecompress, addressDecompress, IeeeAddr.mk.injEq] at same
    have slot := sound.unique.unique _ _ used used' same.1
    cases left : pair.2
    cases right : pair'.2
    simp_all

/-- Two addresses of one manufacturer, and one of another. -/
def threeCalls : List (IeeeAddr × IeeeAddrCompressed) :=
  [(⟨⟨1, 2, 3⟩, ⟨4, 5, 6, 7, 8⟩⟩, .zero), (⟨⟨3, 2, 1⟩, ⟨4, 5, 6, 7, 8⟩⟩, .zero),
    (⟨⟨1, 2, 3⟩, ⟨8, 7, 6, 5, 4⟩⟩, .zero)]

theorem compressed_bijective_threeCalls :
    (prefixes (threeCalls.map Prod.fst)).length ≤ devManufacturerTableSize ∧
      addressDecompress (run Compressions.compress .zero threeCalls).table ⟨14, ⟨4, 5, 6, 7, 8⟩⟩ =
        ⟨⟨3, 2, 1⟩, ⟨4, 5, 6, 7, 8⟩⟩ :=
  ⟨by decide, (compressed_bijective threeCalls (by decide)
    (⟨⟨3, 2, 1⟩, ⟨4, 5, 6, 7, 8⟩⟩, ⟨14, ⟨4, 5, 6, 7, 8⟩⟩) (by decide)).1⟩

end Compressions

end Zboss.AddressTable
