import Zboss.Common.AddressUpdate

/-!
When a call leaves the address table as it is, down to the clock bits, the counts and the
manufacturers.  The duplicate records of APS lie in the entries; no call on addresses writes them.
-/

namespace Zboss.AddressTable

variable {c : AddrGlobals} {ref short : ℕ} {z junk : IeeeAddrCompressed} {ieee : IeeeAddr}

/-! ## Duplicate records -/

/-- What `aps_check_dups` keeps in an entry. -/
def dupRecord (c : AddrGlobals) (ref : ℕ) : ℕ × ℕ :=
  ((c.addrMap ref).apsDupCounter, (c.addrMap ref).apsDupClock)

theorem dupRecord_update {d : AddrGlobals} {ent : AddressMap}
    (entries : d.addrMap = Function.update c.addrMap ref ent)
    (counter : ent.apsDupCounter = (c.addrMap ref).apsDupCounter)
    (clock : ent.apsDupClock = (c.addrMap ref).apsDupClock) : dupRecord d = dupRecord c := by
  funext r
  rw [dupRecord, dupRecord, entries]
  by_cases same : r = ref
  · rw [same, Function.update_self, counter, clock]
  · rw [Function.update_of_ne same]

theorem dupRecord_clockTick (c : AddrGlobals) : dupRecord (clockTick c) = dupRecord c := by
  funext r
  have entry := clockTick_entry c r
  simp only [AddressMap.setClock, AddressMap.mk.injEq] at entry
  rw [dupRecord, dupRecord, entry.2.2.1, entry.2.2.2.2.2.2]

theorem dupRecord_addrAdd (c : AddrGlobals) (ieeeCompressed : Option IeeeAddrCompressed)
    (short : ℕ) : dupRecord (addrAdd c ieeeCompressed short).1 = dupRecord c := by
  rw [addrAdd]
  split
  · rfl
  · rename_i i found
    have free : ((clockTick c).addrMap i).used = false :=
      (clockTick_profile c i).1.trans (freeSlot_spec found).2
    exact (dupRecord_update (fillEntry_addrMap free ieeeCompressed short) rfl rfl).trans
      (dupRecord_clockTick c)

theorem dupRecord_addressDelete (c : AddrGlobals) (ref : ℕ) :
    dupRecord (addressDelete c ref) = dupRecord c :=
  dupRecord_update addressDelete_addrMap rfl rfl

theorem dupRecord_resolveConflict (c : AddrGlobals) (found foundLong : Option ℕ) :
    dupRecord (resolveConflict c found foundLong).1 = dupRecord c := by
  unfold resolveConflict
  split
  · split_ifs
    · exact dupRecord_addressDelete c _
    · exact dupRecord_addressDelete c _
    · rfl
    · rfl
  · rfl
  · rfl

theorem dupRecord_ieeeAddrCompress (c : AddrGlobals) (ieee : IeeeAddr)
    (junk : IeeeAddrCompressed) : dupRecord (ieeeAddrCompress c ieee junk).1 = dupRecord c := by
  rw [ieeeAddrCompress]
  split <;> rfl

theorem dupRecord_lockResult (lock : Bool) (result : AddrGlobals × Except RetError ℕ) :
    dupRecord (lockResult lock result).1 = dupRecord result.1 := by
  obtain ⟨c, reply⟩ := result
  cases reply with
  | error e => rfl
  | ok ref =>
    cases lock with
    | false => rfl
    | true => exact dupRecord_update rfl rfl rfl

/-- Storing a pair, adding an entry and deleting one leave the duplicate records. -/
theorem dupRecord_addressUpdate (c : AddrGlobals) (ieee : IeeeAddr) (short : ℕ) (lock : Bool)
    (junk : IeeeAddrCompressed) :
    dupRecord (addressUpdate c ieee short lock junk).1 = dupRecord c := by
  rw [addressUpdate]
  dsimp only
  rw [dupRecord_lockResult, ← dupRecord_ieeeAddrCompress c ieee junk,
    ← dupRecord_resolveConflict (ieeeAddrCompress c ieee junk).1]
  split
  · exact dupRecord_update (storePair_addrMap _ _ _) rfl rfl
  · exact dupRecord_addrAdd _ _ _

theorem dupRecord_addressByShort (c : AddrGlobals) (short : ℕ) (create lock : Bool) :
    dupRecord (addressByShort c short create lock).1 = dupRecord c := by
  rw [addressByShort, dupRecord_lockResult]
  split
  · exact dupRecord_update rfl rfl rfl
  · split
    · exact dupRecord_addrAdd _ _ _
    · rfl

/-! ## Manufacturers -/

/-- The manufacturer of the address is in its table, or that is full. -/
def ManufacturerSettled (c : AddrGlobals) (ieee : IeeeAddr) : Prop :=
  ∀ i, manufacturerSlot c ieee.devManufacturer = some i → c.usedManufacturer i = true

theorem ieeeAddrCompress_of_settled (settled : ManufacturerSettled c ieee) :
    (ieeeAddrCompress c ieee junk).1 = c := by
  rw [ieeeAddrCompress]
  split
  · rename_i i found
    have used := settled i found
    obtain ⟨-, held⟩ | unused := manufacturerSlot_spec found
    · dsimp only
      rw [← used, ← held, Function.update_eq_self, Function.update_eq_self]
    · rw [used] at unused
      contradiction
  · rfl

theorem settled_of_usedManufacturer
    (same : (ieeeAddrCompress c ieee junk).1.usedManufacturer = c.usedManufacturer) :
    ManufacturerSettled c ieee := by
  intro i found
  rw [ieeeAddrCompress, found] at same
  have here := congrFun same i
  dsimp only at here
  rw [Function.update_self] at here
  exact here.symm

/-! ## Settled addresses -/

theorem touch_eq_self : touch c ref = c ↔ (c.addrMap ref).clock = true := by
  constructor
  · intro same
    have entry := congrArg (fun d => (d.addrMap ref).clock) same
    simpa [touch] using entry.symm
  · intro clock
    have entry : (c.addrMap ref).setClock true = c.addrMap ref := by
      rw [AddressMap.setClock, ← clock]
    rw [touch, entry, AddrGlobals.setEntry, Function.update_eq_self]

/-- The mark of an entry does not matter to the lookup. -/
theorem shortSearch_touch : shortSearch (touch c ref) short = shortSearch c short := by
  have sorted : sortedAddr (touch c ref) = sortedAddr c := by
    funext i
    rw [sortedAddr, sortedAddr, touch, AddrGlobals.setEntry_addrMap]
    change (Function.update c.addrMap ref _ (c.shortSorted i)).addr = _
    by_cases same : c.shortSorted i = ref
    · rw [same, Function.update_self]
      rfl
    · rw [Function.update_of_ne same]
  rw [shortSearch, shortSearch, searchPlace, searchPlace, sorted]
  rfl

theorem storePair_eq_self : storePair c ref z short = c ↔
    (c.addrMap ref).ieeeAddr = z ∧ (c.addrMap ref).addr = short ∧
      (c.addrMap ref).clock = true := by
  constructor
  · intro same
    have entries := congrFun (congrArg AddrGlobals.addrMap same) ref
    rw [storePair_addrMap, Function.update_self] at entries
    rw [← entries]
    exact ⟨rfl, rfl, rfl⟩
  · rintro ⟨rfl, rfl, clock⟩
    have kept : c.setEntry ref ((c.addrMap ref).setIeeeAddr (c.addrMap ref).ieeeAddr) = c := by
      rw [AddrGlobals.setEntry]
      exact congrArg (fun m => { c with addrMap := m }) (Function.update_eq_self ref c.addrMap)
    rw [storePair]
    dsimp only
    rw [kept, if_neg (not_not.mpr rfl)]
    exact touch_eq_self.mpr clock

theorem addrAdd_eq_self {ieeeCompressed : Option IeeeAddrCompressed} :
    (addrAdd c ieeeCompressed short).1 = c ↔ freeSlot c ieeeCompressed = none := by
  rw [addrAdd]
  split
  · rename_i none_
    exact iff_of_true rfl none_
  · rename_i i found
    refine iff_of_false (fun same => ?_) (by rw [found]; exact Option.some_ne_none _)
    have free : ((clockTick c).addrMap i).used = false :=
      (clockTick_profile c i).1.trans (freeSlot_spec found).2
    have entry := congrFun (congrArg AddrGlobals.addrMap same) i
    rw [fillEntry_addrMap free, Function.update_self] at entry
    have used := congrArg AddressMap.used entry
    rw [(freeSlot_spec found).2] at used
    cases used

theorem addressByShort_eq_self {create : Bool} :
    (addressByShort c short create false).1 = c ↔
      match shortSearch c short with
      | some ref => (c.addrMap ref).clock = true
      | none => create = true → freeSlot c none = none := by
  rw [addressByShort, lockResult_false]
  cases shortSearch c short with
  | some ref => exact touch_eq_self
  | none =>
    cases create with
    | false => exact iff_of_true rfl fun same => absurd same Bool.false_ne_true
    | true =>
      exact ⟨fun same _ => addrAdd_eq_self.mp same, fun full => addrAdd_eq_self.mpr (full rfl)⟩

/-- The pair that an update stores is there: one lookup finds it in an entry that is marked as
used, or both find nothing and the table is full.  Where the lookups find two entries, a locked
one each, the update goes on with that of the short address. -/
def Settled (c : AddrGlobals) (ieee : IeeeAddr) (short : ℕ) (junk : IeeeAddrCompressed) : Prop :=
  let z := (ieeeAddrCompress c ieee junk).2
  ManufacturerSettled c ieee ∧
    match (shortSearch c short).or (ieeeSearch c z) with
    | some ref =>
      ((c.addrMap ref).ieeeAddr = z ∧ (c.addrMap ref).addr = short ∧
          (c.addrMap ref).clock = true) ∧
        ∀ other, ieeeSearch c z = some other → other ≠ ref →
          (c.addrMap ref).lockCnt ≠ 0 ∧ (c.addrMap other).lockCnt ≠ 0
    | none => freeSlot c (some z) = none

theorem storePair_nElements : (storePair c ref z short).nElements = c.nElements := by
  rw [storePair]
  dsimp only
  split
  · split <;> rfl
  · rfl

/-- What deletes an entry counts it down. -/
theorem storePair_addressDelete_ne (victim : ℕ) :
    storePair (addressDelete c victim) ref z short ≠ c := by
  intro same
  have count := congrArg AddrGlobals.nElements same
  rw [storePair_nElements] at count
  change (c.nElements + (2 ^ 32 - 1)) % 2 ^ 32 = c.nElements at count
  omega

/-- The update after the address is compressed. -/
theorem updateEntry_eq_self :
    (match resolveConflict c (shortSearch c short) (ieeeSearch c z) with
      | (c, some ref) => storePair c ref z short
      | (c, none) => (addrAdd c (some z) short).1) = c ↔
    match (shortSearch c short).or (ieeeSearch c z) with
    | some ref =>
      ((c.addrMap ref).ieeeAddr = z ∧ (c.addrMap ref).addr = short ∧
          (c.addrMap ref).clock = true) ∧
        ∀ other, ieeeSearch c z = some other → other ≠ ref →
          (c.addrMap ref).lockCnt ≠ 0 ∧ (c.addrMap other).lockCnt ≠ 0
    | none => freeSlot c (some z) = none := by
  cases found : shortSearch c short with
  | none =>
    cases foundLong : ieeeSearch c z with
    | none => exact addrAdd_eq_self
    | some other =>
      refine storePair_eq_self.trans (iff_self_and.mpr fun _ r same differs => ?_)
      exact absurd (Option.some.inj same).symm differs
  | some ref =>
    cases foundLong : ieeeSearch c z with
    | none => exact storePair_eq_self.trans (iff_self_and.mpr fun _ r same => nomatch same)
    | some other =>
      by_cases differs : ref ≠ other
      · simp only [resolveConflict, if_pos differs, Option.some_or]
        by_cases unlocked : (c.addrMap ref).lockCnt = 0
        · rw [if_pos unlocked]
          refine iff_of_false (storePair_addressDelete_ne ref) fun settled => ?_
          exact (settled.2 other rfl differs.symm).1 unlocked
        · rw [if_neg unlocked]
          by_cases unlockedLong : (c.addrMap other).lockCnt = 0
          · rw [if_pos unlockedLong]
            refine iff_of_false (storePair_addressDelete_ne other) fun settled => ?_
            exact (settled.2 other rfl differs.symm).2 unlockedLong
          · rw [if_neg unlockedLong]
            refine storePair_eq_self.trans (iff_self_and.mpr ?_)
            rintro - r ⟨⟩ -
            exact ⟨unlocked, unlockedLong⟩
      · obtain rfl := not_not.mp differs
        simp only [resolveConflict, if_neg differs, Option.some_or]
        refine storePair_eq_self.trans (iff_self_and.mpr fun _ r same other => ?_)
        exact absurd (Option.some.inj same).symm other

/-- An update leaves the whole table as it is just when the pair is settled. -/
theorem addressUpdate_eq_self :
    (addressUpdate c ieee short false junk).1 = c ↔ Settled c ieee short junk := by
  have parts : (addressUpdate c ieee short false junk).1 =
      match resolveConflict (ieeeAddrCompress c ieee junk).1
          (shortSearch (ieeeAddrCompress c ieee junk).1 short)
          (ieeeSearch (ieeeAddrCompress c ieee junk).1 (ieeeAddrCompress c ieee junk).2) with
      | (c', some ref) => storePair c' ref (ieeeAddrCompress c ieee junk).2 short
      | (c', none) => (addrAdd c' (some (ieeeAddrCompress c ieee junk).2) short).1 := by
    rw [addressUpdate]
    dsimp only
    rw [lockResult_false]
    generalize resolveConflict _ _ _ = resolved
    obtain ⟨c', known⟩ := resolved
    cases known <;> rfl
  by_cases settled : ManufacturerSettled c ieee
  · rw [parts, ieeeAddrCompress_of_settled settled, updateEntry_eq_self]
    exact (and_iff_right settled).symm
  · refine iff_of_false (fun same => settled ?_) fun all => settled all.1
    have manufacturers := (addressUpdate_manufacturers (c := c) ieee short false junk).1
    rw [same] at manufacturers
    exact settled_of_usedManufacturer manufacturers.symm

/-- The entry an update of a settled pair gives. -/
theorem addressUpdate_ref_of_settled (settled : Settled c ieee short junk) :
    (addressUpdate c ieee short false junk).2.toOption =
      (shortSearch c short).or (ieeeSearch c (ieeeAddrCompress c ieee junk).2) := by
  have entry := settled.2
  rw [addressUpdate]
  dsimp only
  rw [lockResult_false, ieeeAddrCompress_of_settled settled.1]
  generalize (ieeeAddrCompress c ieee junk).2 = w at *
  cases found : shortSearch c short with
  | none =>
    rw [found, Option.none_or] at entry
    cases foundLong : ieeeSearch c w with
    | none =>
      rw [foundLong] at entry
      dsimp only at entry
      dsimp only [resolveConflict]
      rw [addrAdd, entry]
      rfl
    | some other => rfl
  | some ref =>
    rw [found, Option.some_or] at entry
    cases foundLong : ieeeSearch c w with
    | none => rfl
    | some other =>
      by_cases differs : ref ≠ other
      · obtain ⟨unlocked, unlockedLong⟩ := entry.2 other foundLong differs.symm
        simp only [resolveConflict, if_pos differs, if_neg unlocked, if_neg unlockedLong]
        rfl
      · simp only [resolveConflict, if_neg differs]
        rfl

end Zboss.AddressTable
