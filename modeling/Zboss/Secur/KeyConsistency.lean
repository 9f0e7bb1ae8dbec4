import Zboss.Lib.Run
import Zboss.Secur.KeyStore

/-!
Consistency of the key state.  NWK takes its key by the active sequence number and
APS takes the key of the active slot; the two agree while the active slot carries the
active number.  The switch loop leaves an index that is not the slot it looked at, so
a switch is right only for particular slot contents.
-/

namespace Zboss.KeyStore

open Zboss.Run

/-- The active slot carries the active sequence number. -/
def Consistent (s : KeyState) : Prop :=
  (s.securMaterialSet s.activeSecurMaterialI).keySeqNumber = s.activeKeySeqNumber

/-- On an authenticated device NWK and APS encrypt with the same key. -/
def KeysAgree (s : KeyState) : Prop :=
  s.authenticated → Consistent s ∧ nwkKeyBySeq s.activeKeySeqNumber s = some (activeKey s)

instance (s : KeyState) : Decidable (KeysAgree s) :=
  inferInstanceAs (Decidable (_ → (_ : UInt8) = _ ∧ _))

/-- A switch to `k` makes the slot that holds `k` active, and without such a slot a
device that is not the trust centre keeps its key state. -/
structure SwitchesExactly (k : UInt8) (s s' : KeyState) : Prop where
  held : (∃ i, (s.securMaterialSet i).keySeqNumber = k) →
    s'.securMaterialSet = s.securMaterialSet ∧ s'.activeKeySeqNumber = k ∧
      (s'.securMaterialSet s'.activeSecurMaterialI).keySeqNumber = k
  missing : (∀ i, (s.securMaterialSet i).keySeqNumber ≠ k) → s.isTc = false → s' = s

/-- The switch to `k` does so and leaves a consistent state. -/
def SwitchCorrect (k : UInt8) (random : Key) (s : KeyState) : Prop :=
  SwitchesExactly k s (nwkKeySwitch k random s) ∧ Consistent (nwkKeySwitch k random s)

section

local instance slots_neZero : NeZero 3 := ⟨by decide⟩

/-- The slot contents with which the switch loop is right: the least offset `i` whose
shifted slot lacks `k` is itself a slot that holds `k`, or all slots hold `k` and no
new key is generated. -/
def SwitchRight (k : UInt8) (s : KeyState) : Prop :=
  (∃ i, (s.securMaterialSet i).keySeqNumber = k ∧
    (s.securMaterialSet (i + (s.activeSecurMaterialI + 1))).keySeqNumber ≠ k ∧
    ∀ j < i, (s.securMaterialSet (j + (s.activeSecurMaterialI + 1))).keySeqNumber = k) ∨
  ((∀ i, (s.securMaterialSet i).keySeqNumber = k) ∧ s.isTc = false)

end

instance (k : UInt8) (s : KeyState) : Decidable (SwitchRight k s) :=
  inferInstanceAs (Decidable (_ ∨ _))

/-- The condition on one step: a switch finds slot contents for which its loop is
right, and a key is not configured over the active slot under another number. -/
def StepRight (s : KeyState) : Op → Prop
  | .switchKey k _ => SwitchRight k s
  | .frameUnsecured q _ =>
    s.authenticated ∧ (nwkKeyBySeq q s).isSome →
      q ≠ s.activeKeySeqNumber ∧ q - s.activeKeySeqNumber < 127 → SwitchRight q s
  | .setupPreconfiguredKey _ i =>
    i.toNat = s.activeSecurMaterialI.val → s.activeKeySeqNumber = i
  | .transportKey _ | .clearPreconfiguredKey | .tcInit _ => True

instance : ∀ s op, Decidable (StepRight s op)
  | _, .switchKey .. => inferInstanceAs (Decidable (SwitchRight ..))
  | _, .frameUnsecured .. => inferInstanceAs (Decidable (_ → _ → _))
  | _, .setupPreconfiguredKey .. => inferInstanceAs (Decidable (_ → _))
  | _, .transportKey _ | _, .clearPreconfiguredKey | _, .tcInit _ => isTrue trivial

/-- What every step keeps. -/
structure KeyInvariant (s : KeyState) : Prop where
  consistent : Consistent s
  fresh : s.authenticated = false → (s.securMaterialSet 0).keySeqNumber = 0

variable {s : KeyState} {k : UInt8} {key random : Key}

/-! ## Switches -/

/-- In a consistent state the switch does what it should just when the slots are right
for its loop. -/
theorem switchCorrect_iff (consistent : Consistent s) :
    (∀ random, SwitchCorrect k random s) ↔ SwitchRight k s := by
  cases found : keySwitchSearch k s with
  | none =>
    have all := keySwitchSearch_eq_none.mp found
    have never : ¬ ∃ i, (s.securMaterialSet i).keySeqNumber = k ∧
        (s.securMaterialSet (i + (s.activeSecurMaterialI + 1))).keySeqNumber ≠ k ∧
        ∀ j < i, (s.securMaterialSet (j + (s.activeSecurMaterialI + 1))).keySeqNumber = k :=
      fun ⟨_, _, differs, _⟩ => differs (all _)
    rw [SwitchRight, or_iff_right never, and_iff_right all]
    constructor
    · intro exact_
      -- a key that differs from the stored one replaces it
      by_contra tc
      have generates : s.isTc = true := by simpa using tc
      let other : Key := fun i => (s.securMaterialSet (s.activeSecurMaterialI + 1)).key i + 1
      have same := ((exact_ other).1.held ⟨0, all 0⟩).1
      have stored : (nwkKeySwitch k other s).securMaterialSet (s.activeSecurMaterialI + 1) =
          ⟨other, k⟩ := by
        simp only [nwkKeySwitch, found, generates, if_true, activate, generateKey]
        exact setMaterial_self
      have clash : other 0 = (s.securMaterialSet (s.activeSecurMaterialI + 1)).key 0 := by
        rw [← same, stored]
      simp [other] at clash
    · intro notTc random
      have stays : nwkKeySwitch k random s = s := by simp [nwkKeySwitch, found, notTc]
      rw [SwitchCorrect, stays]
      refine ⟨⟨fun _ => ⟨rfl, ?_, all _⟩, fun _ _ => rfl⟩, consistent⟩
      rw [← consistent, all]
  | some i =>
    obtain ⟨differs, before⟩ := keySwitchSearch_eq_some.mp found
    have switched : ∀ random, nwkKeySwitch k random s = activate i k s := fun random => by
      simp only [nwkKeySwitch, found]
    simp only [SwitchCorrect, switched, forall_const]
    have right : SwitchRight k s ↔ (s.securMaterialSet i).keySeqNumber = k := by
      constructor
      · rintro (⟨j, holds, lacks, earlier⟩ | ⟨all, -⟩)
        · have same : keySwitchSearch k s = some j := keySwitchSearch_eq_some.mpr ⟨lacks, earlier⟩
          rw [found, Option.some.injEq] at same
          rwa [same]
        · exact absurd (all _) differs
      · exact fun holds => .inl ⟨i, holds, differs, before⟩
    rw [right]
    constructor
    · rintro ⟨-, kept⟩
      exact kept
    · intro holds
      exact ⟨⟨fun _ => ⟨rfl, rfl, holds⟩, fun lacks => absurd holds (lacks i)⟩, holds⟩

theorem nwkKeySwitch_keeps (kept : KeyInvariant s) (right : SwitchRight k s) :
    KeyInvariant (nwkKeySwitch k random s) := by
  refine ⟨((switchCorrect_iff kept.consistent).mpr right random).2, ?_⟩
  have held : ∃ i, (s.securMaterialSet i).keySeqNumber = k := by
    obtain ⟨i, holds, -⟩ | ⟨all, -⟩ := right
    · exact ⟨i, holds⟩
    · exact ⟨0, all 0⟩
  have same := (((switchCorrect_iff kept.consistent).mpr right random).1.held held).1
  rw [same]
  intro outside
  refine kept.fresh ?_
  rw [← outside, nwkKeySwitch]
  split
  · rfl
  · split_ifs <;> rfl

/-! ## The other operations -/

theorem learnTrustCenter_keeps (kept : KeyInvariant s) (src : AddressTable.IeeeAddr) :
    KeyInvariant (learnTrustCenter src s) := by
  rw [learnTrustCenter]
  split_ifs
  · exact ⟨kept.consistent, kept.fresh⟩
  · exact kept

/-- Storing a key under its slot keeps the state consistent, and on a device that is
not authenticated yet the slot is then made active. -/
theorem storeTransportedKey_keeps (kept : KeyInvariant s) (key : Key) (q : UInt8) :
    KeyInvariant (authenticate (transportSlot q s) q (storeTransportedKey key q s)) := by
  rw [authenticate]
  split_ifs with already
  · refine ⟨?_, fun outside => by rw [already] at outside; contradiction⟩
    rw [Consistent, storeTransportedKey_activeKeySeqNumber, storeTransportedKey_securMaterialSet,
      storeTransportedKey_activeSecurMaterialI]
    split_ifs with here
    · rw [here, Function.update_self]
    · rw [Function.update_of_ne (Ne.symm here)]
      exact kept.consistent
  · refine ⟨?_, fun outside => by contradiction⟩
    rw [Consistent]
    dsimp only
    rw [storeTransportedKey_securMaterialSet, Function.update_self]

theorem transportKeyIndication_keeps (kept : KeyInvariant s)
    (ind : TransportKeyIndication) : KeyInvariant (transportKeyIndication ind s) := by
  obtain same | ⟨learned, known, cases_⟩ := transportKeyIndication_cases ind s
  · rwa [same]
  · have kept' : KeyInvariant learned := known ▸ learnTrustCenter_keeps kept ind.srcAddress
    obtain confirmed | stored := cases_
    · rw [confirmed, authenticate]
      split_ifs with already
      · exact kept'
      · exact ⟨kept'.fresh (by simpa using already), fun outside => by contradiction⟩
    · rw [stored]
      exact storeTransportedKey_keeps kept' ind.key ind.keySeqNumber

theorem setupPreconfiguredKey_keeps (kept : KeyInvariant s) {i : UInt8}
    (right : i.toNat = s.activeSecurMaterialI.val → s.activeKeySeqNumber = i) :
    KeyInvariant (setupPreconfiguredKey key i s) := by
  rw [setupPreconfiguredKey]
  split_ifs with inside
  · constructor
    · change ((setMaterial _ key i s).securMaterialSet s.activeSecurMaterialI).keySeqNumber =
        s.activeKeySeqNumber
      by_cases here : s.activeSecurMaterialI = ⟨i.toNat, inside⟩
      · rw [here, setMaterial_self]
        exact (right (by rw [here])).symm
      · rw [setMaterial_other here]
        exact kept.consistent
    · intro outside
      by_cases first : (0 : Slot) = ⟨i.toNat, inside⟩
      · rw [← first, setMaterial_self]
        exact UInt8.toNat_inj.mp (Fin.ext_iff.mp first).symm
      · rw [setMaterial_other first]
        exact kept.fresh outside
  · exact kept

theorem clearPreconfiguredKey_keeps (kept : KeyInvariant s) :
    KeyInvariant (clearPreconfiguredKey s) := by
  have same : ∀ i, ((clearPreconfiguredKey s).securMaterialSet i).keySeqNumber =
      (s.securMaterialSet i).keySeqNumber := fun i => by
    rw [clearPreconfiguredKey]
    by_cases first : i = 0
    · rw [first, setMaterial_self]
    · rw [setMaterial_other first]
  refine ⟨?_, fun outside => ?_⟩
  · rw [Consistent, same]
    exact kept.consistent
  · rw [same]
    exact kept.fresh outside

/-- Every step whose slot contents are right keeps the invariant. -/
theorem step_keeps (kept : KeyInvariant s) (op : Op) (right : StepRight s op) :
    KeyInvariant (step s op) := by
  cases op with
  | transportKey ind => exact transportKeyIndication_keeps kept ind
  | switchKey k random => exact nwkKeySwitch_keeps kept right
  | frameUnsecured q random =>
    dsimp only [step]
    split_ifs with accepted
    · rw [implicitKeySwitch]
      split_ifs with newer
      · exact nwkKeySwitch_keeps kept (right accepted newer)
      · exact kept
    · exact kept
  | setupPreconfiguredKey key i => exact setupPreconfiguredKey_keeps kept right
  | clearPreconfiguredKey => exact clearPreconfiguredKey_keeps kept
  | tcInit extendedAddress => exact ⟨kept.consistent, fun outside => by contradiction⟩

theorem initial_keeps (random : Option (Slot → Key)) : KeyInvariant (initial random) := by
  cases random with
  | none => exact ⟨rfl, fun _ => rfl⟩
  | some random => exact ⟨rfl, fun _ => rfl⟩

/-- **The key store is consistent** after every run whose switches find the slot
contents their loop is right for, and then a switch to any `k` is exact just when the
contents are right for it. -/
theorem key_store_consistent (random : Option (Slot → Key)) (ops : List Op)
    (right : Along step StepRight (initial random) ops) :
    KeysAgree (run step (initial random) ops) ∧
      ∀ k, (∀ generated, SwitchCorrect k generated (run step (initial random) ops)) ↔
        SwitchRight k (run step (initial random) ops) := by
  have keeps : ∀ s op, KeyInvariant s → StepRight s op → KeyInvariant (step s op) :=
    fun _ op kept right => step_keeps kept op right
  have kept := invariant_of_along keeps _ ops (initial_keeps random) right
  refine ⟨fun _ => ⟨kept.consistent, ?_⟩, fun k => switchCorrect_iff kept.consistent⟩
  rw [nwkKeyBySeq, slotBySeq_active kept.consistent, Option.map_some, activeKey]

/-- The trust centre gives the key of number `q`. -/
def transportNumber (q : UInt8) : Op :=
  .transportKey ⟨⟨⟨1, 0, 0⟩, ⟨0, 0, 0, 0, 1⟩⟩, zbStandardNetworkKey, fun _ => q + 1, q⟩

/-- A device joins with key 0 and takes part in one key update. -/
def firstUpdate : List Op :=
  [transportNumber 0, transportNumber 1, .switchKey 1 fun _ => 0]

theorem key_store_consistent_firstUpdate : KeysAgree (run step (initial none) firstUpdate) :=
  have right : Along step StepRight (initial none) firstUpdate := by decide +kernel
  (key_store_consistent none firstUpdate right).1

/-- The second update stores key 2 in slot 2 and makes slot 1, with key 1, active. -/
theorem key_store_inconsistent :
    ¬ ∀ random ops, KeysAgree (run step (initial random) ops) := fun consistent =>
  absurd (consistent none (firstUpdate ++ [transportNumber 2, .switchKey 2 fun _ => 0]))
    (by decide +kernel)

end Zboss.KeyStore
