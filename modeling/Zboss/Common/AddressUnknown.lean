import Zboss.Common.AddressUpdate

/-!
Entries made from a short address alone.  Their compressed address is all zero, which is also
the compressed form of one address of the manufacturer in slot 0; `given` remembers which
IEEE address the caller gave for an entry.
-/

namespace Zboss.AddressTable

open Zboss.Run

/-- The table and the IEEE addresses its entries were given. -/
structure History where
  table : AddrGlobals
  given : ℕ → Option IeeeAddr

def History.zero : History := ⟨.zero, fun _ => none⟩

namespace History

/-- An entry that a call has just made or found: what it is given if it is new. -/
def entered (h : History) (result : AddrGlobals × Except RetError ℕ) (ieee : Option IeeeAddr) :
    ℕ → Option IeeeAddr :=
  match result.2 with
  | .ok ref => if (h.table.addrMap ref).used then h.given else Function.update h.given ref ieee
  | .error _ => h.given

/-- An entry that a call has given the address. -/
def renamed (h : History) (result : AddrGlobals × Except RetError ℕ) (ieee : IeeeAddr) :
    ℕ → Option IeeeAddr :=
  match result.2 with
  | .ok ref => Function.update h.given ref (some ieee)
  | .error _ => h.given

def step (h : History) (call : Call) : History where
  table := callStep h.table call
  given :=
    match call with
    | .table (.byIeee ieee create lock junk) =>
      h.entered (addressByIeee h.table ieee create lock junk) (some ieee)
    | .table (.byShort short create lock) =>
      h.entered (addressByShort h.table short create lock) none
    | .table (.update ieee short lock junk) =>
      h.renamed (addressUpdate h.table ieee short lock junk) ieee
    | .table (.delete _) => h.given
    | .lock _ => h.given
    | .unlock _ => h.given

/-- The entry was made from a short address alone. -/
def Unknown (h : History) (ref : ℕ) : Prop :=
  ref < ieeeAddrTableSize ∧ (h.table.addrMap ref).used = true ∧ h.given ref = none

instance (h : History) (ref : ℕ) : Decidable (h.Unknown ref) :=
  inferInstanceAs (Decidable (_ ∧ _ ∧ _))

end History

/-- `zb_address_ieee_by_short`; `none` is `RET_NOT_FOUND`. -/
def addressIeeeByShort (c : AddrGlobals) (short : ℕ) : AddrGlobals × Option IeeeAddr :=
  match addressByShort c short false false with
  | (c, .ok ref) => (c, some (addressDecompress c (c.addrMap ref).ieeeAddr))
  | (c, .error _) => (c, none)

namespace History

/-- What the lookups of an IEEE address and of a short address say about devices whose IEEE
address is unknown: the first finds none, and the second has no address for one. -/
structure NotConfused (h : History) (ieee : IeeeAddr) (create lock : Bool)
    (junk : IeeeAddrCompressed) (short : ℕ) : Prop where
  byIeee : ∀ ref, (addressByIeee h.table ieee create lock junk).2 = .ok ref → ¬h.Unknown ref
  byShort : ∀ ref, shortSearch h.table short = some ref → h.Unknown ref →
    (addressIeeeByShort h.table short).2 = none

variable {h : History}

/-- Entries that were given no address have the form that means unknown. -/
def Zeroed (h : History) : Prop :=
  ∀ ref s z, pairAt h.table ref = some (s, z) → h.given ref = none → z = .zero

theorem zero_zeroed : Zeroed .zero := by
  intro ref s z held
  have used := (pairAt_eq_some.mp held).2.1
  cases used

/-- Pairs stay, go, are given an address or are zero; and what is given is not forgotten. -/
theorem Zeroed.keep {h' : History} (zeroed : Zeroed h)
    (pairs : ∀ ref, pairAt h'.table ref = pairAt h.table ref ∨ pairAt h'.table ref = none ∨
      h'.given ref ≠ none ∨ ∃ s, pairAt h'.table ref = some (s, .zero))
    (given : ∀ ref, pairAt h.table ref ≠ none → h'.given ref = none → h.given ref = none) :
    Zeroed h' := by
  intro ref s z held none_
  rcases pairs ref with same | gone | named | ⟨s', new⟩
  · rw [same] at held
    refine zeroed ref s z held (given ref ?_ none_)
    rw [held]
    exact Option.some_ne_none _
  · cases gone.symm.trans held
  · exact absurd none_ named
  · cases new.symm.trans held
    rfl

theorem pairAt_ne_none {c : AddrGlobals} {ref : ℕ} (held : pairAt c ref ≠ none) :
    (c.addrMap ref).used = true := by
  unfold pairAt at held
  split at held
  · rename_i both
    exact both.2
  · exact absurd rfl held

/-- An entry in use keeps what it was given when an entry is made or found. -/
theorem entered_of_used {result : AddrGlobals × Except RetError ℕ} {ieee : Option IeeeAddr}
    {ref : ℕ} (held : pairAt h.table ref ≠ none) : h.entered result ieee ref = h.given ref := by
  unfold entered
  cases result.2 with
  | ok r =>
    dsimp only
    by_cases used : (h.table.addrMap r).used = true
    · rw [if_pos used]
    · rw [if_neg used]
      refine Function.update_of_ne ?_ ..
      rintro rfl
      exact used (pairAt_ne_none held)
  | error e => rfl

/-- A new entry has what it is given. -/
theorem entered_of_free {result : AddrGlobals × Except RetError ℕ} {ieee : Option IeeeAddr}
    {ref : ℕ} (ok : result.2 = .ok ref) (free : (h.table.addrMap ref).used = false) :
    h.entered result ieee ref = ieee := by
  unfold entered
  rw [ok]
  dsimp only
  rw [if_neg (by rw [free]; exact Bool.false_ne_true), Function.update_self]

theorem free_of_new {c d : AddrGlobals} {ref short : ℕ} {z : IeeeAddrCompressed}
    (free : pairAt c ref = none)
    (new : pairAt d = Function.update (pairAt c) ref (some (short, z))) :
    (c.addrMap ref).used = false := by
  have inside : ref < ieeeAddrTableSize := by
    have here := congrFun new ref
    rw [Function.update_self] at here
    exact (pairAt_eq_some.mp here).1
  cases used : (c.addrMap ref).used with
  | false => rfl
  | true =>
    rw [pairAt, if_pos ⟨inside, used⟩] at free
    cases free

/-- An update leaves the pairs of others, or takes them. -/
theorem update_others {c : AddrGlobals} {ieee : IeeeAddr} {short : ℕ} {lock : Bool}
    {junk : IeeeAddrCompressed} {ref : ℕ}
    (ok : (addressUpdate c ieee short lock junk).2 = .ok ref) (other : ℕ) (differs : other ≠ ref) :
    pairAt (addressUpdate c ieee short lock junk).1 other = pairAt c other ∨
      pairAt (addressUpdate c ieee short lock junk).1 other = none := by
  have compressed := pairAt_ieeeAddrCompress (c := c) ieee junk
  unfold addressUpdate at ok ⊢
  generalize ieeeAddrCompress c ieee junk = result at *
  obtain ⟨c', z⟩ := result
  dsimp only at *
  rw [lockResult_snd] at ok
  rw [pairAt_lockResult, ← compressed]
  have resolved : pairAt (resolveConflict c' (shortSearch c' short) (ieeeSearch c' z)).1 other =
      pairAt c' other ∨
        pairAt (resolveConflict c' (shortSearch c' short) (ieeeSearch c' z)).1 other = none := by
    unfold resolveConflict
    split
    · split
      · split
        · exact addressDelete_others _ other
        · split
          · exact addressDelete_others _ other
          · exact Or.inl rfl
      · exact Or.inl rfl
    · exact Or.inl rfl
    · exact Or.inl rfl
  generalize resolveConflict c' (shortSearch c' short) (ieeeSearch c' z) = conflict at *
  obtain ⟨d, known⟩ := conflict
  cases known with
  | some r =>
    cases ok
    have stored : pairAt (storePair d ref z short) other = pairAt d other := by
      rw [pairAt, pairAt, storePair_addrMap, Function.update_of_ne differs]
    dsimp only at resolved ⊢
    rw [stored]
    exact resolved
  | none =>
    obtain ⟨-, pairs⟩ := pairAt_addrAdd ok
    dsimp only at resolved ⊢
    rw [pairs, Function.update_of_ne differs]
    exact resolved

theorem Zeroed.step (zeroed : Zeroed h) (call : Call) : Zeroed (h.step call) := by
  cases call with
  | lock ref =>
    refine zeroed.keep (fun r => Or.inl (congrFun (pairAt_congr fun r => ?_) r))
      fun r _ none_ => none_
    by_cases same : r = ref
    · subst same
      simp [History.step, callStep, addressLock]
    · simp [History.step, callStep, addressLock, same]
  | unlock ref =>
    refine zeroed.keep (fun r => Or.inl (congrFun (pairAt_congr fun r => ?_) r))
      fun r _ none_ => none_
    by_cases same : r = ref
    · subst same
      simp [History.step, callStep, addressUnlock]
    · simp [History.step, callStep, addressUnlock, same]
  | table op =>
    cases op with
    | byIeee ieee create lock junk =>
      refine zeroed.keep (fun r => ?_) fun r held none_ => (entered_of_used held).symm.trans none_
      have compressed := pairAt_ieeeAddrCompress (c := h.table) ieee junk
      rcases addressByIeee_pairs (c := h.table) ieee create lock junk with
        same | ⟨-, ref, ok, free, new⟩
      · exact Or.inl (congrFun (same.trans compressed) r)
      · rw [compressed] at free new
        by_cases here : r = ref
        · subst here
          refine Or.inr (Or.inr (Or.inl ?_))
          show h.entered _ _ r ≠ none
          rw [entered_of_free ok (free_of_new free new)]
          exact Option.some_ne_none ieee
        · exact Or.inl ((congrFun new r).trans (Function.update_of_ne here ..))
    | byShort short create lock =>
      refine zeroed.keep (fun r => ?_) fun r held none_ => (entered_of_used held).symm.trans none_
      rcases addressByShort_pairs (c := h.table) short create lock with same | ⟨-, ref, -, -, new⟩
      · exact Or.inl (congrFun same r)
      · by_cases here : r = ref
        · subst here
          exact Or.inr (Or.inr (Or.inr ⟨short, (congrFun new r).trans (Function.update_self ..)⟩))
        · exact Or.inl ((congrFun new r).trans (Function.update_of_ne here ..))
    | update ieee short lock junk =>
      cases reply : (addressUpdate h.table ieee short lock junk).2 with
      | error e =>
        have same := (Sound.update_error reply).trans (pairAt_ieeeAddrCompress (c := h.table) ieee junk)
        refine zeroed.keep (fun r => Or.inl (congrFun same r)) fun r _ none_ => ?_
        simpa only [History.step, renamed, reply] using none_
      | ok ref =>
        have named : (h.step (.table (.update ieee short lock junk))).given =
            Function.update h.given ref (some ieee) := by
          simp only [History.step, renamed, reply]
        refine zeroed.keep (fun r => ?_) fun r _ none_ => ?_
        · by_cases here : r = ref
          · subst here
            refine Or.inr (Or.inr (Or.inl ?_))
            rw [named, Function.update_self]
            exact Option.some_ne_none ieee
          · exact (update_others reply r here).imp id Or.inl
        · rw [named] at none_
          by_cases here : r = ref
          · subst here
            rw [Function.update_self] at none_
            cases none_
          · rwa [Function.update_of_ne here] at none_
    | delete ref =>
      exact zeroed.keep (fun r => (addressDelete_others ref r).imp id Or.inl)
        fun r _ none_ => none_

theorem ieeeSearch_compress (c : AddrGlobals) (ieee : IeeeAddr) (junk z : IeeeAddrCompressed) :
    ieeeSearch (ieeeAddrCompress c ieee junk).1 z = ieeeSearch c z := by
  rw [ieeeSearch, ieeeSearch, ieeeAddrCompress_addrMap]

/-- A lookup by IEEE address returns an unknown device exactly if the compressed address is
zero and the search for zero stops at that device. -/
theorem Zeroed.byIeee_iff (zeroed : Zeroed h) (ieee : IeeeAddr) (create lock : Bool)
    (junk : IeeeAddrCompressed) {ref : ℕ} (unknown : h.Unknown ref) :
    (addressByIeee h.table ieee create lock junk).2 = .ok ref ↔
      (ieeeAddrCompress h.table ieee junk).2 = .zero ∧ ieeeSearch h.table .zero = some ref := by
  rw [← ieeeSearch_compress h.table ieee junk .zero]
  have entries := ieeeAddrCompress_addrMap (c := h.table) ieee junk
  unfold addressByIeee
  generalize ieeeAddrCompress h.table ieee junk = result at *
  obtain ⟨c, z⟩ := result
  dsimp only at *
  rw [lockResult_snd]
  have used : (c.addrMap ref).used = true := by
    rw [entries]
    exact unknown.2.1
  have zeroHere : (c.addrMap ref).ieeeAddr = .zero := by
    rw [entries]
    exact zeroed ref _ _ (pairAt_eq_some.mpr ⟨unknown.1, unknown.2.1, rfl, rfl⟩) unknown.2.2
  constructor
  · intro ok
    cases found : ieeeSearch c z with
    | some r =>
      rw [found] at ok
      cases ok
      have same := (ieeeSearch_spec found).2.2.symm.trans zeroHere
      exact ⟨same, by rw [← same, found]⟩
    | none =>
      rw [found] at ok
      dsimp only at ok
      split at ok
      · unfold addrAdd at ok
        split at ok
        · cases ok
        · rename_i i free
          cases ok
          exact absurd (used.symm.trans (freeSlot_spec free).2) (by simp)
      · cases ok
  · rintro ⟨rfl, found⟩
    rw [found]

theorem addressIeeeByShort_of_found {c : AddrGlobals} {short ref : ℕ}
    (found : shortSearch c short = some ref) :
    (addressIeeeByShort c short).2 = some (addressIeeeByRef c ref) := by
  simp only [addressIeeeByShort, addressByShort, found, lockResult, touch]
  simp [addressIeeeByRef, addressDecompress, AddrGlobals.setEntry]

/-- After any calls the lookups confuse no unknown device exactly if the address is not
compressed to zero, or the search for zero stops at no unknown device, and the short address
leads to none. -/
theorem notConfused_iff (calls : List Call) (ieee : IeeeAddr) (create lock : Bool)
    (junk : IeeeAddrCompressed) (short : ℕ) :
    (run step .zero calls).NotConfused ieee create lock junk short ↔
      ¬((ieeeAddrCompress (run step .zero calls).table ieee junk).2 = .zero ∧
        ∃ ref ∈ ieeeSearch (run step .zero calls).table .zero,
          (run step .zero calls).Unknown ref) ∧
      ∀ ref ∈ shortSearch (run step .zero calls).table short,
        ¬(run step .zero calls).Unknown ref := by
  have kept : ∀ (h : History) (call : Call), Zeroed h → Zeroed (h.step call) :=
    fun h call zeroed => zeroed.step call
  have zeroed : Zeroed (run step .zero calls) := invariant_of_run kept zero calls zero_zeroed
  generalize run step .zero calls = h at *
  constructor
  · rintro ⟨byIeee, byShort⟩
    refine ⟨?_, fun ref found unknown => ?_⟩
    · rintro ⟨isZero, ref, found, unknown⟩
      exact byIeee ref ((zeroed.byIeee_iff ieee create lock junk unknown).mpr ⟨isZero, found⟩)
        unknown
    · have none_ := byShort ref found unknown
      rw [addressIeeeByShort_of_found found] at none_
      cases none_
  · rintro ⟨notZero, notShort⟩
    refine ⟨fun ref ok unknown => ?_, fun ref found unknown => absurd unknown (notShort ref found)⟩
    obtain ⟨isZero, found⟩ := (zeroed.byIeee_iff ieee create lock junk unknown).mp ok
    exact notZero ⟨isZero, ref, found, unknown⟩

/-- Devices of 15 manufacturers, and one with a short address only. -/
def sixteenCalls : List Call :=
  (List.range 15).map (fun i =>
    .table (.byIeee ⟨⟨1, 2, .ofNat i⟩, ⟨4, 5, 6, 7, 8⟩⟩ true false .zero)) ++
  [.table (.byShort 5 true false)]

/-- The next manufacturer gets slot 0, and its device with the number 0 is taken for the one
whose address is unknown. -/
theorem unknown_confused :
    ¬∀ (calls : List Call) (ieee : IeeeAddr) (create lock : Bool) (junk : IeeeAddrCompressed)
      (short : ℕ), ieee ≠ .zero →
        (run step .zero calls).NotConfused ieee create lock junk short := by
  intro claim
  have confused := (claim sixteenCalls ⟨⟨1, 2, 99⟩, ⟨0, 0, 0, 0, 0⟩⟩ true false .zero 0
    (by decide)).byIeee 0 (by decide +kernel)
  exact confused (by decide +kernel)

end History

end Zboss.AddressTable
