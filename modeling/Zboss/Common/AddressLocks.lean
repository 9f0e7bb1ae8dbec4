import Zboss.Common.AddressUpdate

/-!
Lock counters of the translation table.  A lookup that is not asked to lock, and a deletion of
an entry that is not locked, leave the counters as they are and the locked entries with their
devices; only `zb_address_update` may give a locked entry to another device.
-/

namespace Zboss.AddressTable

variable {c c' c'' : AddrGlobals} {ref : ℕ}

/-! ## Devices -/

/-- The entry is still that of the device: it is in use and has the IEEE address it had; if that
was not known, and is not yet, it has the short address. -/
structure SameDevice (before after : AddressMap) : Prop where
  used : after.used = true
  known : before.ieeeAddr ≠ .zero → after.ieeeAddr = before.ieeeAddr
  unknown : before.ieeeAddr = .zero → after.ieeeAddr = .zero → after.addr = before.addr

theorem SameDevice.refl {ent : AddressMap} (used : ent.used = true) : SameDevice ent ent :=
  ⟨used, fun _ => rfl, fun _ _ => rfl⟩

theorem SameDevice.trans {a b d : AddressMap} (first : SameDevice a b) (second : SameDevice b d) :
    SameDevice a d where
  used := second.used
  known known := by
    have same := first.known known
    rw [second.known (by rwa [same]), same]
  unknown unknown still := by
    have middle : b.ieeeAddr = .zero := by
      by_contra found
      rw [second.known found] at still
      exact found still
    rw [second.unknown middle still, first.unknown unknown middle]

/-- Locked entries are in use. -/
def LockedUsed (c : AddrGlobals) : Prop :=
  ∀ ref, (c.addrMap ref).lockCnt ≠ 0 → (c.addrMap ref).used = true

/-- The counters are as they were, and the locked entries are those of the same devices. -/
structure LocksKept (c c' : AddrGlobals) : Prop where
  count : ∀ ref, (c'.addrMap ref).lockCnt = (c.addrMap ref).lockCnt
  device : ∀ ref, (c.addrMap ref).lockCnt ≠ 0 → SameDevice (c.addrMap ref) (c'.addrMap ref)

namespace LocksKept

theorem refl (used : LockedUsed c) : LocksKept c c :=
  ⟨fun _ => rfl, fun ref locked => .refl (used ref locked)⟩

theorem trans (first : LocksKept c c') (second : LocksKept c' c'') : LocksKept c c'' where
  count ref := (second.count ref).trans (first.count ref)
  device ref locked :=
    (first.device ref locked).trans (second.device ref (by rwa [first.count]))

theorem lockedUsed (kept : LocksKept c c') : LockedUsed c' := fun ref locked =>
  (kept.device ref (by rwa [← kept.count])).used

/-- The clock bits do not matter. -/
theorem of_setClock (used : LockedUsed c)
    (same : ∀ ref, (c'.addrMap ref).setClock false = (c.addrMap ref).setClock false) :
    LocksKept c c' := by
  have fields (ref : ℕ) := same ref
  simp only [AddressMap.setClock, AddressMap.mk.injEq] at fields
  refine ⟨fun ref => (fields ref).2.2.2.2.1, fun ref locked => ?_⟩
  obtain ⟨ieee, addr, -, inUse, -⟩ := fields ref
  exact ⟨inUse.trans (used ref locked), fun _ => ieee, fun _ _ => addr⟩

theorem of_addrMap (used : LockedUsed c) (same : c'.addrMap = c.addrMap) : LocksKept c c' :=
  of_setClock used fun ref => by rw [same]

/-- One entry is written. -/
theorem update {ent : AddressMap} (used : LockedUsed c)
    (entries : c'.addrMap = Function.update c.addrMap ref ent)
    (count : ent.lockCnt = (c.addrMap ref).lockCnt)
    (device : (c.addrMap ref).lockCnt ≠ 0 → SameDevice (c.addrMap ref) ent) : LocksKept c c' := by
  constructor
  · intro other
    rw [entries]
    by_cases same : other = ref
    · rw [same, Function.update_self, count]
    · rw [Function.update_of_ne same]
  · intro other locked
    rw [entries]
    by_cases same : other = ref
    · subst same
      rw [Function.update_self]
      exact device locked
    · rw [Function.update_of_ne same]
      exact .refl (used other locked)

theorem touch (used : LockedUsed c) (ref : ℕ) : LocksKept c (touch c ref) :=
  update used rfl rfl fun locked => ⟨used ref locked, fun _ => rfl, fun _ _ => rfl⟩

theorem clockTick (used : LockedUsed c) : LocksKept c (clockTick c) :=
  of_setClock used (clockTick_entry c)

theorem addressDelete (used : LockedUsed c) (unlocked : (c.addrMap ref).lockCnt = 0) :
    LocksKept c (addressDelete c ref) :=
  update used addressDelete_addrMap rfl fun locked => absurd unlocked locked

/-- A new entry takes a place that was not in use, and so not locked. -/
theorem addrAdd (used : LockedUsed c) (ieeeCompressed : Option IeeeAddrCompressed)
    (shortAddr : ℕ) : LocksKept c (addrAdd c ieeeCompressed shortAddr).1 := by
  rw [AddressTable.addrAdd]
  split
  · exact refl used
  · rename_i i found
    have ticked := clockTick used
    have free : ((AddressTable.clockTick c).addrMap i).used = false :=
      (clockTick_profile c i).1.trans (freeSlot_spec found).2
    refine ticked.trans (update ticked.lockedUsed (fillEntry_addrMap free ieeeCompressed shortAddr)
      rfl fun locked => ?_)
    rw [ticked.lockedUsed i locked] at free
    cases free

end LocksKept

/-! ## Calls -/

/-- The pair may be stored in the entry without giving it to another device. -/
def Suits (ent : AddressMap) (compressed : IeeeAddrCompressed) (shortAddress : ℕ) : Prop :=
  (ent.ieeeAddr ≠ .zero → compressed = ent.ieeeAddr) ∧
    (ent.ieeeAddr = .zero → compressed = .zero → shortAddress = ent.addr)

instance (ent : AddressMap) (compressed : IeeeAddrCompressed) (shortAddress : ℕ) :
    Decidable (Suits ent compressed shortAddress) :=
  inferInstanceAs (Decidable (_ ∧ _))

/-- If the entry that an update writes to is locked, the pair suits it. -/
def UpdateSuits (c : AddrGlobals) (ieee : IeeeAddr) (shortAddress : ℕ)
    (junk : IeeeAddrCompressed) : Prop :=
  let (c, compressed) := ieeeAddrCompress c ieee junk
  ∀ ref ∈ (resolveConflict c (shortSearch c shortAddress) (ieeeSearch c compressed)).2,
    (c.addrMap ref).lockCnt ≠ 0 → Suits (c.addrMap ref) compressed shortAddress

instance (c : AddrGlobals) (ieee : IeeeAddr) (shortAddress : ℕ) (junk : IeeeAddrCompressed) :
    Decidable (UpdateSuits c ieee shortAddress junk) :=
  inferInstanceAs (Decidable (∀ ref ∈ (_ : Option ℕ), _))

theorem lockResult_true_ok {result : AddrGlobals × Except RetError ℕ} (ok : result.2 = .ok ref) :
    lockResult true result = (addressLock result.1 ref, .ok ref) := by
  obtain ⟨c, reply⟩ := result
  cases ok
  rfl

theorem lockResult_error {result : AddrGlobals × Except RetError ℕ} {e : RetError} {lock : Bool}
    (error : result.2 = .error e) : lockResult lock result = result := by
  obtain ⟨c, reply⟩ := result
  cases error
  rfl

theorem lockResult_reply (lock : Bool) (result : AddrGlobals × Except RetError ℕ) :
    (lockResult lock result).2 = result.2 := by
  obtain ⟨c, reply⟩ := result
  cases reply <;> rfl

/-- The lookup finds and makes nothing, so that there is nothing to lock. -/
def Fails (reply : Except RetError ℕ) : Prop := ∀ ref, reply ≠ .ok ref

instance : DecidablePred Fails
  | .ok ref => isFalse fun fails => fails ref rfl
  | .error _ => isTrue nofun

theorem LocksKept.lockResult {lock : Bool} {result : AddrGlobals × Except RetError ℕ}
    (kept : LocksKept c result.1) (fails : lock = true → Fails (lockResult lock result).2) :
    LocksKept c (lockResult lock result).1 := by
  cases lock with
  | false =>
    rw [lockResult_false]
    exact kept
  | true =>
    cases reply : result.2 with
    | ok ref => exact absurd ((lockResult_reply true result).trans reply) (fails rfl ref)
    | error e =>
      rw [lockResult_error reply]
      exact kept

/-- The common part of the two lookups. -/
theorem LocksKept.lookup (used : LockedUsed c) (found : Option ℕ) (create : Bool)
    (ieeeCompressed : Option IeeeAddrCompressed) (shortAddr : ℕ) :
    LocksKept c (match found with
      | some ref => (AddressTable.touch c ref, Except.ok ref)
      | none => if create then AddressTable.addrAdd c ieeeCompressed shortAddr
          else (c, .error .notFound)).1 := by
  cases found with
  | some ref => exact .touch used ref
  | none =>
    cases create with
    | false => exact .refl used
    | true => exact .addrAdd used ieeeCompressed shortAddr

theorem LocksKept.compress (used : LockedUsed c) (ieee : IeeeAddr) (junk : IeeeAddrCompressed) :
    LocksKept c (ieeeAddrCompress c ieee junk).1 :=
  .of_addrMap used (ieeeAddrCompress_addrMap ieee junk)

theorem LocksKept.addressByIeee (used : LockedUsed c) (ieee : IeeeAddr) (create : Bool)
    (junk : IeeeAddrCompressed) : LocksKept c (addressByIeee c ieee create false junk).1 := by
  have compressed := LocksKept.compress used ieee junk
  rw [AddressTable.addressByIeee]
  dsimp only
  rw [lockResult_false]
  exact compressed.trans (.lookup compressed.lockedUsed _ create _ _)

theorem LocksKept.addressByShort (used : LockedUsed c) (shortAddress : ℕ) (create : Bool) :
    LocksKept c (addressByShort c shortAddress create false).1 := by
  rw [AddressTable.addressByShort, lockResult_false]
  exact .lookup used _ create _ _

theorem LocksKept.resolveConflict (used : LockedUsed c) (short long : Option ℕ) :
    LocksKept c (resolveConflict c short long).1 ∧
      ∀ ref ∈ (AddressTable.resolveConflict c short long).2,
        (AddressTable.resolveConflict c short long).1.addrMap ref = c.addrMap ref := by
  have untouched : LocksKept c c := .refl used
  cases short with
  | none => exact ⟨untouched, fun _ _ => rfl⟩
  | some ref =>
    cases long with
    | none => exact ⟨untouched, fun _ _ => rfl⟩
    | some refLong =>
      rw [AddressTable.resolveConflict]
      by_cases differ : ref ≠ refLong
      · rw [if_pos differ]
        by_cases unlocked : (c.addrMap ref).lockCnt = 0
        · rw [if_pos unlocked]
          refine ⟨.addressDelete used unlocked, ?_⟩
          rintro _ ⟨⟩
          rw [addressDelete_addrMap, Function.update_of_ne (Ne.symm differ)]
        · rw [if_neg unlocked]
          by_cases unlockedLong : (c.addrMap refLong).lockCnt = 0
          · rw [if_pos unlockedLong]
            refine ⟨.addressDelete used unlockedLong, ?_⟩
            rintro _ ⟨⟩
            rw [addressDelete_addrMap, Function.update_of_ne differ]
          · rw [if_neg unlockedLong]
            exact ⟨untouched, fun _ _ => rfl⟩
      · rw [if_neg differ]
        exact ⟨untouched, fun _ _ => rfl⟩

theorem LocksKept.storePair (used : LockedUsed c) {compressed : IeeeAddrCompressed}
    {shortAddress : ℕ}
    (suits : (c.addrMap ref).lockCnt ≠ 0 → Suits (c.addrMap ref) compressed shortAddress) :
    LocksKept c (storePair c ref compressed shortAddress) := by
  refine .update used (storePair_addrMap ref compressed shortAddress) rfl fun locked => ?_
  exact ⟨used ref locked, (suits locked).1, (suits locked).2⟩

theorem LocksKept.addressUpdate (used : LockedUsed c) {ieee : IeeeAddr} {shortAddress : ℕ}
    {junk : IeeeAddrCompressed} (suits : UpdateSuits c ieee shortAddress junk) :
    LocksKept c (addressUpdate c ieee shortAddress false junk).1 := by
  have compressed := LocksKept.compress used ieee junk
  rw [UpdateSuits] at suits
  rw [AddressTable.addressUpdate]
  generalize ieeeAddrCompress c ieee junk = result at *
  obtain ⟨d, z⟩ := result
  dsimp only at *
  rw [lockResult_false]
  obtain ⟨resolved, same⟩ := LocksKept.resolveConflict compressed.lockedUsed
    (shortSearch d shortAddress) (ieeeSearch d z)
  generalize AddressTable.resolveConflict d (shortSearch d shortAddress) (ieeeSearch d z) =
    result at *
  obtain ⟨d', known⟩ := result
  have before := compressed.trans resolved
  cases known with
  | none => exact before.trans (.addrAdd before.lockedUsed _ _)
  | some ref =>
    refine before.trans (.storePair before.lockedUsed fun locked => ?_)
    rw [same ref rfl] at locked ⊢
    exact suits ref rfl locked

/-- A lookup that locks answers as one that does not. -/
theorem addressByIeee_lock (c : AddrGlobals) (ieee : IeeeAddr) (create lock : Bool)
    (junk : IeeeAddrCompressed) : addressByIeee c ieee create lock junk =
      lockResult lock (addressByIeee c ieee create false junk) := by
  rw [addressByIeee, addressByIeee]
  dsimp only
  rw [lockResult_false]

theorem addressByShort_lock (c : AddrGlobals) (shortAddress : ℕ) (create lock : Bool) :
    addressByShort c shortAddress create lock =
      lockResult lock (addressByShort c shortAddress create false) := by
  rw [addressByShort, addressByShort, lockResult_false]

theorem addressUpdate_lock (c : AddrGlobals) (ieee : IeeeAddr) (shortAddress : ℕ) (lock : Bool)
    (junk : IeeeAddrCompressed) : addressUpdate c ieee shortAddress lock junk =
      lockResult lock (addressUpdate c ieee shortAddress false junk) := by
  rw [addressUpdate, addressUpdate]
  dsimp only
  rw [lockResult_false]

end Zboss.AddressTable
