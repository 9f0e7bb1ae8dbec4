import Zboss.Common.AddressTable
import Zboss.Lib.CcmStar
import Zboss.Lib.Ring

/-!
The network key state of one device (`zdo_secur.c`): the key material set, which
of its slots is active, and the outgoing frame counters.  Slots are found again by
key sequence number; an unused slot is all zero, so it carries number 0.
-/

namespace Zboss.KeyStore

open Zboss.AddressTable (IeeeAddr)
open Zboss.CcmStar Zboss.Ring

/-- A key of `ZB_CCM_KEY_SIZE` octets. -/
abbrev Key := Block 16

/-- An index into `secur_material_set`, of `ZB_SECUR_N_SECUR_MATERIAL` slots. -/
abbrev Slot := Fin 3

/-- `zb_secur_material_set_t`. -/
structure SecurMaterial where
  key : Key
  keySeqNumber : UInt8
  deriving DecidableEq

/-- The key state: the security part of the NIB, `aps.authenticated`,
`handle.is_tc` and the trust centre's address. -/
structure KeyState where
  securMaterialSet : Slot → SecurMaterial
  activeSecurMaterialI : Slot
  activeKeySeqNumber : UInt8
  outgoingFrameCounter : UInt32
  prevOutgoingFrameCounter : UInt32
  authenticated : Bool
  isTc : Bool
  trustCenterAddress : IeeeAddr
  deriving DecidableEq

def zbStandardNetworkKey : UInt8 := 1

/-- `zb_apsme_transport_key_indication_t`. -/
structure TransportKeyIndication where
  srcAddress : IeeeAddr
  keyType : UInt8
  key : Key
  keySeqNumber : UInt8
  deriving DecidableEq

/-! ## The key material -/

/-- `secur_nwk_key_is_empty`. -/
def nwkKeyIsEmpty (key : Key) : Bool := decide (∀ i, key i = 0)

/-- The slot `secur_nwk_key_by_seq` stops at. -/
def slotBySeq (keySeqNumber : UInt8) (s : KeyState) : Option Slot :=
  firstFrom s.activeSecurMaterialI fun i =>
    decide ((s.securMaterialSet i).keySeqNumber = keySeqNumber)

/-- `secur_nwk_key_by_seq`. -/
def nwkKeyBySeq (keySeqNumber : UInt8) (s : KeyState) : Option Key :=
  (slotBySeq keySeqNumber s).map fun i => (s.securMaterialSet i).key

/-- The key of the active slot, which APS encrypts with. -/
def activeKey (s : KeyState) : Key := (s.securMaterialSet s.activeSecurMaterialI).key

/-- Write a slot. -/
def setMaterial (i : Slot) (key : Key) (keySeqNumber : UInt8) (s : KeyState) : KeyState :=
  { s with securMaterialSet := Function.update s.securMaterialSet i ⟨key, keySeqNumber⟩ }

/-- `secur_generate_key`, with the octets the random generator gives. -/
def generateKey (i : Slot) (random : Key) (keySeq : UInt8) (s : KeyState) : KeyState :=
  setMaterial i random keySeq s

/-- `secur_generate_keys`. -/
def generateKeys (random : Slot → Key) (s : KeyState) : KeyState :=
  { s with securMaterialSet := fun i => ⟨random i, UInt8.ofNat i⟩ }

/-- `zb_secur_setup_preconfigured_key`. -/
def setupPreconfiguredKey (key : Key) (i : UInt8) (s : KeyState) : KeyState :=
  if inside : i.toNat < 3 then setMaterial ⟨i.toNat, inside⟩ key i s else s

/-- `secur_clear_preconfigured_key`: the octets go, the sequence number stays. -/
def clearPreconfiguredKey (s : KeyState) : KeyState :=
  setMaterial 0 (fun _ => 0) (s.securMaterialSet 0).keySeqNumber s

/-- `secur_tc_init`. -/
def tcInit (extendedAddress : IeeeAddr) (s : KeyState) : KeyState :=
  { s with isTc := true, trustCenterAddress := extendedAddress, authenticated := true }

/-! ## Switching keys -/

/-- The loop of `secur_nwk_key_switch`: it runs while the shifted slot does hold
the number, and leaves the unshifted index. -/
def keySwitchSearch (keyNumber : UInt8) (s : KeyState) : Option Slot :=
  (List.finRange 3).find? fun i =>
    decide ((s.securMaterialSet (i + (s.activeSecurMaterialI + 1))).keySeqNumber ≠ keyNumber)

/-- Make a slot active, with a fresh counter. -/
def activate (i : Slot) (keyNumber : UInt8) (s : KeyState) : KeyState :=
  { s with
    activeSecurMaterialI := i
    activeKeySeqNumber := keyNumber
    prevOutgoingFrameCounter := s.outgoingFrameCounter
    outgoingFrameCounter := 0 }

/-- `secur_nwk_key_switch`; `random` is what a trust centre generates. -/
def nwkKeySwitch (keyNumber : UInt8) (random : Key) (s : KeyState) : KeyState :=
  match keySwitchSearch keyNumber s with
  | some i => activate i keyNumber s
  | none =>
    if s.isTc then
      let shift := s.activeSecurMaterialI + 1
      activate shift keyNumber (generateKey shift random keyNumber s)
    else s

/-- The end of `zb_nwk_unsecure_frame`: a frame secured with a newer key switches to
that key. -/
def implicitKeySwitch (keySeqNumber : UInt8) (random : Key) (s : KeyState) : KeyState :=
  if keySeqNumber ≠ s.activeKeySeqNumber ∧ keySeqNumber - s.activeKeySeqNumber < 127 then
    nwkKeySwitch keySeqNumber random s
  else s

/-! ## Key transport -/

/-- The slot for a transported key, counted from the active one by the distance of
the sequence numbers. -/
def transportSlot (keySeqNumber : UInt8) (s : KeyState) : Slot :=
  Fin.ofNat 3 (s.activeSecurMaterialI.val + (keySeqNumber - s.activeKeySeqNumber).toNat)

/-- Remember the trust centre when it is not known. -/
def learnTrustCenter (srcAddress : IeeeAddr) (s : KeyState) : KeyState :=
  if s.trustCenterAddress = IeeeAddr.zero then { s with trustCenterAddress := srcAddress } else s

/-- Store a transported key; a new number in the active slot becomes the active one. -/
def storeTransportedKey (key : Key) (keySeqNumber : UInt8) (s : KeyState) : KeyState :=
  let i := transportSlot keySeqNumber s
  let s' := setMaterial i key keySeqNumber s
  if i = s.activeSecurMaterialI ∧ keySeqNumber ≠ s.activeKeySeqNumber then
    { s' with activeKeySeqNumber := keySeqNumber, outgoingFrameCounter := 0 }
  else s'

/-- A device that was not authenticated makes the slot its active one. -/
def authenticate (i : Slot) (keySeqNumber : UInt8) (s : KeyState) : KeyState :=
  if s.authenticated then s
  else
    { s with
      authenticated := true
      activeKeySeqNumber := keySeqNumber
      outgoingFrameCounter := 0
      activeSecurMaterialI := i }

/-- `zb_apsme_transport_key_indication`. -/
def transportKeyIndication (ind : TransportKeyIndication) (s : KeyState) : KeyState :=
  if ind.keyType = zbStandardNetworkKey then
    let s := learnTrustCenter ind.srcAddress s
    if nwkKeyIsEmpty ind.key ∧ ind.keySeqNumber = 0 then
      authenticate 0 ind.keySeqNumber s
    else
      authenticate (transportSlot ind.keySeqNumber s) ind.keySeqNumber
        (storeTransportedKey ind.key ind.keySeqNumber s)
  else s

/-! ## Runs -/

/-- What acts on the key state.  A received frame is one that was unsecured
successfully; keys made at random are arguments. -/
inductive Op
  | transportKey (ind : TransportKeyIndication)
  | switchKey (keySeqNumber : UInt8) (random : Key)
  | frameUnsecured (keySeqNumber : UInt8) (random : Key)
  | setupPreconfiguredKey (key : Key) (i : UInt8)
  | clearPreconfiguredKey
  | tcInit (extendedAddress : IeeeAddr)

def step (s : KeyState) : Op → KeyState
  | .transportKey ind => transportKeyIndication ind s
  | .switchKey keySeqNumber random => nwkKeySwitch keySeqNumber random s
  | .frameUnsecured keySeqNumber random =>
    if s.authenticated ∧ (nwkKeyBySeq keySeqNumber s).isSome then
      implicitKeySwitch keySeqNumber random s
    else s
  | .setupPreconfiguredKey key i => setupPreconfiguredKey key i s
  | .clearPreconfiguredKey => clearPreconfiguredKey s
  | .tcInit extendedAddress => tcInit extendedAddress s

/-- The slot and key a trust centre makes when a switch finds no slot. -/
def generated (k : UInt8) (random : Key) (s : KeyState) : Option (Slot × SecurMaterial) :=
  if (keySwitchSearch k s).isNone ∧ s.isTc then
    some (s.activeSecurMaterialI + 1, ⟨random, k⟩)
  else none

/-- The slot a step writes, with what it writes there. -/
def written (s : KeyState) : Op → Option (Slot × SecurMaterial)
  | .transportKey ind =>
    if ind.keyType = zbStandardNetworkKey ∧ ¬ (nwkKeyIsEmpty ind.key ∧ ind.keySeqNumber = 0) then
      some (transportSlot ind.keySeqNumber s, ⟨ind.key, ind.keySeqNumber⟩)
    else none
  | .switchKey k random => generated k random s
  | .frameUnsecured q random =>
    if (s.authenticated ∧ (nwkKeyBySeq q s).isSome) ∧
        (q ≠ s.activeKeySeqNumber ∧ q - s.activeKeySeqNumber < 127) then
      generated q random s
    else none
  | .setupPreconfiguredKey key i =>
    if inside : i.toNat < 3 then some (⟨i.toNat, inside⟩, ⟨key, i⟩) else none
  | .clearPreconfiguredKey => some (0, ⟨fun _ => 0, (s.securMaterialSet 0).keySeqNumber⟩)
  | .tcInit _ => none

/-- The key material after a write. -/
def overwrite (securMaterialSet : Slot → SecurMaterial) :
    Option (Slot × SecurMaterial) → Slot → SecurMaterial
  | some (i, material) => Function.update securMaterialSet i material
  | none => securMaterialSet

/-- The zeroed key state. -/
def zeroed : KeyState where
  securMaterialSet := fun _ => ⟨fun _ => 0, 0⟩
  activeSecurMaterialI := 0
  activeKeySeqNumber := 0
  outgoingFrameCounter := 0
  prevOutgoingFrameCounter := 0
  authenticated := false
  isTc := false
  trustCenterAddress := IeeeAddr.zero

/-- The key state after `zb_ib_init`: builds with the coordinator role generate keys. -/
def initial : Option (Slot → Key) → KeyState
  | none => zeroed
  | some random => generateKeys random zeroed

/-! ## What the routines change -/

section Lemmas

variable {s : KeyState} {i j : Slot} {q k : UInt8} {key random : Key}

@[simp] theorem setMaterial_self :
    (setMaterial i key q s).securMaterialSet i = ⟨key, q⟩ := Function.update_self ..

theorem setMaterial_other (away : j ≠ i) :
    (setMaterial i key q s).securMaterialSet j = s.securMaterialSet j :=
  Function.update_of_ne away ..

@[simp] theorem storeTransportedKey_securMaterialSet :
    (storeTransportedKey key q s).securMaterialSet =
      Function.update s.securMaterialSet (transportSlot q s) ⟨key, q⟩ := by
  rw [storeTransportedKey]
  split_ifs <;> rfl

@[simp] theorem storeTransportedKey_activeSecurMaterialI :
    (storeTransportedKey key q s).activeSecurMaterialI = s.activeSecurMaterialI := by
  rw [storeTransportedKey]
  split_ifs <;> rfl

theorem storeTransportedKey_activeKeySeqNumber :
    (storeTransportedKey key q s).activeKeySeqNumber =
      if transportSlot q s = s.activeSecurMaterialI then q else s.activeKeySeqNumber := by
  rw [storeTransportedKey]
  split_ifs with recover here here
  · rfl
  · exact absurd recover.1 here
  · by_contra differs
    exact recover ⟨here, fun same => differs same.symm⟩
  · rfl

@[simp] theorem learnTrustCenter_securMaterialSet (src : IeeeAddr) :
    (learnTrustCenter src s).securMaterialSet = s.securMaterialSet := by
  rw [learnTrustCenter]
  split_ifs <;> rfl

@[simp] theorem transportSlot_learnTrustCenter (src : IeeeAddr) :
    transportSlot q (learnTrustCenter src s) = transportSlot q s := by
  rw [learnTrustCenter]
  split_ifs <;> rfl

@[simp] theorem authenticate_securMaterialSet :
    (authenticate i q s).securMaterialSet = s.securMaterialSet := by
  rw [authenticate]
  split_ifs <;> rfl

theorem nwkKeySwitch_securMaterialSet :
    (nwkKeySwitch k random s).securMaterialSet =
      overwrite s.securMaterialSet (generated k random s) := by
  rw [nwkKeySwitch, generated]
  cases keySwitchSearch k s with
  | some i => rfl
  | none =>
    by_cases tc : s.isTc
    · simp only [tc, if_true, Option.isNone_none, and_self]
      rfl
    · simp only [tc, if_false, and_false, Bool.false_eq_true]
      rfl

/-- A step changes the key material by what it writes. -/
theorem step_securMaterialSet (s : KeyState) (op : Op) :
    (step s op).securMaterialSet = overwrite s.securMaterialSet (written s op) := by
  cases op with
  | transportKey ind =>
    dsimp only [step, written]
    rw [transportKeyIndication]
    by_cases standard : ind.keyType = zbStandardNetworkKey
    · by_cases empty : nwkKeyIsEmpty ind.key ∧ ind.keySeqNumber = 0
      · simp [standard, empty, overwrite]
      · simp [standard, empty, overwrite]
    · simp [standard, overwrite]
  | switchKey k random => exact nwkKeySwitch_securMaterialSet
  | frameUnsecured q random =>
    dsimp only [step, written, implicitKeySwitch]
    by_cases accepted : s.authenticated ∧ (nwkKeyBySeq q s).isSome
    · by_cases newer : q ≠ s.activeKeySeqNumber ∧ q - s.activeKeySeqNumber < 127
      · rw [if_pos accepted, if_pos newer, if_pos ⟨accepted, newer⟩]
        exact nwkKeySwitch_securMaterialSet
      · rw [if_pos accepted, if_neg newer, if_neg fun both => newer both.2]
        rfl
    · rw [if_neg accepted, if_neg fun both => accepted both.1]
      rfl
  | setupPreconfiguredKey key i =>
    dsimp only [step, written]
    rw [setupPreconfiguredKey]
    split_ifs <;> rfl
  | clearPreconfiguredKey => rfl
  | tcInit extendedAddress => rfl

/-- Past its guards, a transported key is stored and the device is authenticated. -/
theorem transportKeyIndication_cases (ind : TransportKeyIndication) (s : KeyState) :
    transportKeyIndication ind s = s ∨
      ∃ learned, learned = learnTrustCenter ind.srcAddress s ∧
        (transportKeyIndication ind s = authenticate 0 0 learned ∨
          transportKeyIndication ind s =
            authenticate (transportSlot ind.keySeqNumber learned) ind.keySeqNumber
              (storeTransportedKey ind.key ind.keySeqNumber learned)) := by
  rw [transportKeyIndication]
  split_ifs with standard empty
  · refine .inr ⟨_, rfl, .inl ?_⟩
    rw [empty.2]
  · exact .inr ⟨_, rfl, .inr rfl⟩
  · exact .inl rfl

/-- A device that is authenticated stays so. -/
theorem step_authenticated (op : Op) (authenticated : s.authenticated = true) :
    (step s op).authenticated = true := by
  have switch : ∀ k random, (nwkKeySwitch k random s).authenticated = true := fun k random => by
    rw [nwkKeySwitch]
    split
    · exact authenticated
    · split_ifs <;> exact authenticated
  cases op with
  | transportKey ind =>
    have learned : (learnTrustCenter ind.srcAddress s).authenticated = true := by
      rw [learnTrustCenter]
      split_ifs <;> exact authenticated
    dsimp only [step]
    obtain same | ⟨s', rfl, confirmed | stored⟩ := transportKeyIndication_cases ind s
    · rwa [same]
    · rw [confirmed, authenticate, if_pos learned]
      exact learned
    · rw [stored, authenticate]
      split_ifs with already
      · exact already
      · rfl
  | switchKey k random => exact switch k random
  | frameUnsecured q random =>
    dsimp only [step, implicitKeySwitch]
    split_ifs
    · exact switch q random
    · exact authenticated
    · exact authenticated
  | setupPreconfiguredKey key i =>
    dsimp only [step]
    rw [setupPreconfiguredKey]
    split_ifs <;> exact authenticated
  | clearPreconfiguredKey => exact authenticated
  | tcInit extendedAddress => rfl

/-- The lookup stops at the first slot, from the active one on, that carries the number. -/
theorem slotBySeq_eq_some :
    slotBySeq q s = some i ↔
      (s.securMaterialSet i).keySeqNumber = q ∧
        ∀ j, j - s.activeSecurMaterialI < i - s.activeSecurMaterialI →
          (s.securMaterialSet j).keySeqNumber ≠ q := by
  rw [slotBySeq, firstFrom_eq_some, decide_eq_true_eq]
  simp only [decide_eq_false_iff_not]

theorem slotBySeq_active (active : (s.securMaterialSet s.activeSecurMaterialI).keySeqNumber = q) :
    slotBySeq q s = some s.activeSecurMaterialI := firstFrom_start (decide_eq_true active)

theorem slotBySeq_eq_none : slotBySeq q s = none ↔ ∀ i, (s.securMaterialSet i).keySeqNumber ≠ q := by
  rw [slotBySeq, firstFrom_eq_none]
  exact forall_congr' fun i => decide_eq_false_iff_not

/-- The switch finds nothing just when every slot holds the number. -/
theorem keySwitchSearch_eq_none :
    keySwitchSearch k s = none ↔ ∀ i, (s.securMaterialSet i).keySeqNumber = k := by
  rw [keySwitchSearch, List.find?_eq_none]
  constructor
  · intro missed i
    have := missed (i - (s.activeSecurMaterialI + 1)) (List.mem_finRange _)
    rwa [sub_add_cancel, decide_eq_true_eq, not_not] at this
  · intro all i _
    rw [all]
    simp

/-- The switch stops at the least offset behind the active slot that does not hold
the number. -/
theorem keySwitchSearch_eq_some :
    keySwitchSearch k s = some i ↔
      (s.securMaterialSet (i + (s.activeSecurMaterialI + 1))).keySeqNumber ≠ k ∧
        ∀ j < i, (s.securMaterialSet (j + (s.activeSecurMaterialI + 1))).keySeqNumber = k := by
  rw [keySwitchSearch, find?_finRange_eq_some, decide_eq_true_eq]
  simp only [decide_eq_false_iff_not, not_not]

end Lemmas

end Zboss.KeyStore
