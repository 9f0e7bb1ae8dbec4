import Zboss.Common.AddressCompress
import Zboss.Common.AddressRuns

/-!
Lookups by IEEE address that find nothing.  They report it, but the compression of the address
has taken a slot for its manufacturer when it had none, or has found none to take.
-/

namespace Zboss.AddressTable

open Zboss.Run

def addressShortByIeee (c : AddrGlobals) (ieee : IeeeAddr) (junk : IeeeAddrCompressed) :
    AddrGlobals × ℕ :=
  match addressByIeee c ieee false false junk with
  | (c, .ok ref) => (c, addressShortByRef c ref)
  | (c, .error _) => (c, noShortAddr)

/-- A lookup that creates no entry. -/
inductive Lookup
  | byIeee (ieee : IeeeAddr) (lock : Bool) (junk : IeeeAddrCompressed)
  | shortByIeee (ieee : IeeeAddr) (junk : IeeeAddrCompressed)

namespace Lookup

def ieee : Lookup → IeeeAddr
  | byIeee ieee _ _ => ieee
  | shortByIeee ieee _ => ieee

def junk : Lookup → IeeeAddrCompressed
  | byIeee _ _ junk => junk
  | shortByIeee _ junk => junk

/-- The table after the lookup. -/
def table (c : AddrGlobals) : Lookup → AddrGlobals
  | byIeee ieee lock junk => (addressByIeee c ieee false lock junk).1
  | shortByIeee ieee junk => (addressShortByIeee c ieee junk).1

/-- The lookup returns that it has found nothing. -/
def NotFound (c : AddrGlobals) : Lookup → Prop
  | byIeee ieee lock junk => (addressByIeee c ieee false lock junk).2 = .error .notFound
  | shortByIeee ieee junk => (addressShortByIeee c ieee junk).2 = noShortAddr

/-- The search finds no entry. -/
def Missing (c : AddrGlobals) (l : Lookup) : Prop :=
  ieeeSearch (ieeeAddrCompress c l.ieee l.junk).1 (ieeeAddrCompress c l.ieee l.junk).2 = none

instance (c : AddrGlobals) (l : Lookup) : Decidable (Missing c l) :=
  inferInstanceAs (Decidable (_ = none))

/-- The lookup passes its assertion, returns that it has found nothing, and leaves the context
as it was. -/
def Harmless (c : AddrGlobals) (l : Lookup) : Prop :=
  manufacturerSlot c l.ieee.devManufacturer ≠ none ∧ NotFound c l ∧ table c l = c

variable {c : AddrGlobals} {l : Lookup}

/-- A lookup that finds nothing changes what the compression changes. -/
theorem table_of_missing (missing : Missing c l) :
    table c l = (ieeeAddrCompress c l.ieee l.junk).1 ∧ NotFound c l := by
  cases l with
  | byIeee ieee lock junk =>
    have reply : addressByIeee c ieee false lock junk =
        ((ieeeAddrCompress c ieee junk).1, .error .notFound) := by
      simp only [addressByIeee]
      rw [show ieeeSearch (ieeeAddrCompress c ieee junk).1 (ieeeAddrCompress c ieee junk).2 = none
        from missing]
      rfl
    exact ⟨congrArg Prod.fst reply, congrArg Prod.snd reply⟩
  | shortByIeee ieee junk =>
    have reply : addressByIeee c ieee false false junk =
        ((ieeeAddrCompress c ieee junk).1, .error .notFound) := by
      simp only [addressByIeee]
      rw [show ieeeSearch (ieeeAddrCompress c ieee junk).1 (ieeeAddrCompress c ieee junk).2 = none
        from missing]
      rfl
    have short : addressShortByIeee c ieee junk =
        ((ieeeAddrCompress c ieee junk).1, noShortAddr) := by
      simp only [addressShortByIeee, reply]
    exact ⟨congrArg Prod.fst short, congrArg Prod.snd short⟩

theorem ieeeAddrCompress_of_stored {address : IeeeAddr} (junk : IeeeAddrCompressed)
    (stored : Stored c address.devManufacturer) : (ieeeAddrCompress c address junk).1 = c := by
  obtain ⟨i, found, used, same⟩ := manufacturerSlot_of_stored stored
  simp only [ieeeAddrCompress, found]
  rw [← used, ← same, Function.update_eq_self, Function.update_eq_self]

/-- A lookup that finds nothing is harmless exactly if the manufacturer is stored. -/
theorem harmless_iff_stored (missing : Missing c l) :
    Harmless c l ↔ Stored c l.ieee.devManufacturer := by
  obtain ⟨after, notFound⟩ := table_of_missing missing
  constructor
  · rintro ⟨slot, -, unchanged⟩
    by_contra new
    obtain ⟨i, found⟩ := Option.ne_none_iff_exists'.mp slot
    have free := manufacturerSlot_of_not_stored new found
    have taken : (table c l).usedManufacturer i = true := by
      rw [after]
      simp only [ieeeAddrCompress, found, Function.update_self]
    rw [unchanged, free] at taken
    cases taken
  · intro stored
    obtain ⟨i, found, -⟩ := manufacturerSlot_of_stored stored
    refine ⟨?_, notFound, after.trans (ieeeAddrCompress_of_stored l.junk stored)⟩
    rw [found]
    exact Option.some_ne_none i

/-- Lookups that find nothing are harmless, and leave the context as it was, exactly if the
manufacturers of all addresses are stored before. -/
theorem lookups_harmless_iff (c : AddrGlobals) (lookups : List Lookup)
    (missing : Along table Missing c lookups) :
    (Along table Harmless c lookups ∧ run table c lookups = c) ↔
      ∀ l ∈ lookups, Stored c l.ieee.devManufacturer := by
  induction lookups with
  | nil => simp [Along]
  | cons l rest induction_ =>
    rw [List.forall_mem_cons]
    constructor
    · rintro ⟨⟨harmless, later⟩, same⟩
      have unchanged := harmless.2.2
      rw [run_cons, unchanged] at same
      rw [unchanged] at later
      have missing' := missing.2
      rw [unchanged] at missing'
      exact ⟨(harmless_iff_stored missing.1).mp harmless, (induction_ missing').mp ⟨later, same⟩⟩
    · rintro ⟨stored, others⟩
      have harmless := (harmless_iff_stored missing.1).mpr stored
      have missing' := missing.2
      rw [harmless.2.2] at missing'
      obtain ⟨later, same⟩ := (induction_ missing').mpr others
      refine ⟨⟨harmless, ?_⟩, ?_⟩
      · rw [harmless.2.2]
        exact later
      · rw [run_cons, harmless.2.2]
        exact same

/-- A context with one device, and lookups of two others of its manufacturer. -/
def oneDevice : AddrGlobals :=
  run step .zero [.update ⟨⟨1, 2, 3⟩, ⟨4, 5, 6, 7, 8⟩⟩ 9 false .zero]

def twoLookups : List Lookup :=
  [byIeee ⟨⟨1, 2, 3⟩, ⟨4, 5, 6, 7, 9⟩⟩ true .zero, shortByIeee ⟨⟨1, 2, 3⟩, ⟨0, 0, 0, 0, 1⟩⟩ .zero]

theorem lookups_harmless_iff_twoLookups :
    (Along table Harmless oneDevice twoLookups ∧ run table oneDevice twoLookups = oneDevice) ↔
      ∀ l ∈ twoLookups, Stored oneDevice l.ieee.devManufacturer :=
  lookups_harmless_iff oneDevice twoLookups (by decide +kernel)

/-- In the zeroed context a lookup takes a slot. -/
theorem lookup_takes_slot :
    ¬∀ (ops : List Op) (l : Lookup), Along step Respects .zero ops → l.ieee ≠ .zero →
      Missing (run step .zero ops) l → Harmless (run step .zero ops) l := by
  intro claim
  have missing : Missing .zero (byIeee ⟨⟨1, 2, 3⟩, ⟨4, 5, 6, 7, 8⟩⟩ false .zero) := by
    decide +kernel
  have harmless := claim [] _ trivial (by decide) missing
  exact absurd ((harmless_iff_stored missing).mp harmless) (by decide)

end Lookup

end Zboss.AddressTable
