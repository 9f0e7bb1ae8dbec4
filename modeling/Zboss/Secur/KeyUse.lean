import Zboss.Lib.Run
import Zboss.Secur.Unsecure

/-!
Which slot a received frame is decrypted with.  A slot is tracked as installed from
the moment a key is stored in it until it is cleared.  Slots that are not installed
hold the zero key but still carry a sequence number, and the lookup goes by number.
-/

namespace Zboss.KeyUse

open Zboss.AddressTable (IeeeAddr)
open Zboss.KeyStore Zboss.Run Zboss.Unsecure

/-- The key state with the slots that are installed and not cleared since. -/
structure Tracked where
  keys : KeyState
  installed : Slot → Bool

/-- What the step writes is a cleared key. -/
def clears : Op → Bool
  | .clearPreconfiguredKey => true
  | _ => false

/-- The slots installed after a step: a key that is stored is installed, a cleared one is
not any more. -/
def installedStep (s : KeyState) (installed : Slot → Bool) (op : Op) : Slot → Bool :=
  match written s op with
  | some (i, _) => Function.update installed i (!clears op)
  | none => installed

def trackedStep (t : Tracked) (op : Op) : Tracked :=
  ⟨step t.keys op, installedStep t.keys t.installed op⟩

/-- After `zb_ib_init` the slots hold generated keys or nothing. -/
def trackedInitial (random : Option (Slot → Key)) : Tracked :=
  ⟨initial random, fun _ => random.isSome⟩

/-- Every slot that carries `q` and is not installed stands behind an installed slot
with `q`, counted from the active one. -/
def UnusedHidden (q : UInt8) (t : Tracked) : Prop :=
  ∀ i, t.installed i = false → (t.keys.securMaterialSet i).keySeqNumber = q →
    ∃ j, t.installed j = true ∧ (t.keys.securMaterialSet j).keySeqNumber = q ∧
      j - t.keys.activeSecurMaterialI < i - t.keys.activeSecurMaterialI

section

local instance slots_neZero : NeZero 3 := ⟨by decide⟩

/-- A slot that is not installed is all zero; only the number of a cleared slot 0 stays. -/
def UnusedZero (t : Tracked) : Prop :=
  ∀ i, t.installed i = false →
    (t.keys.securMaterialSet i).key = (fun _ => 0) ∧
      (i ≠ 0 → (t.keys.securMaterialSet i).keySeqNumber = 0)

end

variable {t : Tracked} {q : UInt8} {i : Slot}

/-! ## The tracking -/

theorem UnusedZero.initial (random : Option (Slot → Key)) : UnusedZero (trackedInitial random) := by
  cases random with
  | none => exact fun _ _ => ⟨rfl, fun _ => rfl⟩
  | some random => exact fun _ unused => by contradiction

theorem trackedStep_slot (t : Tracked) (op : Op) (i : Slot) :
    ((trackedStep t op).keys.securMaterialSet i = t.keys.securMaterialSet i ∧
      (trackedStep t op).installed i = t.installed i) ∨
    (trackedStep t op).installed i = true ∨
    (i = 0 ∧ ((trackedStep t op).keys.securMaterialSet i).key = fun _ => 0) := by
  dsimp only [trackedStep]
  rw [step_securMaterialSet, installedStep]
  cases wrote : written t.keys op with
  | none => exact .inl ⟨rfl, rfl⟩
  | some write =>
    obtain ⟨j, material⟩ := write
    by_cases here : i = j
    · subst here
      right
      cases op with
      | clearPreconfiguredKey =>
        cases wrote
        exact .inr ⟨rfl, by rw [overwrite, Function.update_self]⟩
      | _ => exact .inl (Function.update_self ..)
    · exact .inl ⟨Function.update_of_ne here .., Function.update_of_ne here ..⟩

theorem UnusedZero.step (zero : UnusedZero t) (op : Op) : UnusedZero (trackedStep t op) := by
  intro i unused
  obtain ⟨same, kept⟩ | installed | ⟨rfl, cleared⟩ := trackedStep_slot t op i
  · rw [same]
    exact zero i (kept ▸ unused)
  · rw [installed] at unused
    contradiction
  · exact ⟨cleared, fun differs => absurd rfl differs⟩

/-! ## The lookup -/

/-- The lookup of `q` gives installed slots only, just when the unused slots that carry
`q` are hidden. -/
theorem slotBySeq_installed_iff :
    (∀ i, slotBySeq q t.keys = some i → t.installed i = true) ↔ UnusedHidden q t := by
  constructor
  · intro installed i unused number
    cases found : slotBySeq q t.keys with
    | none => exact absurd number (slotBySeq_eq_none.mp found i)
    | some j =>
      obtain ⟨number', before⟩ := slotBySeq_eq_some.mp found
      refine ⟨j, installed j found, number', ?_⟩
      obtain less | same | greater :=
        lt_trichotomy (j - t.keys.activeSecurMaterialI) (i - t.keys.activeSecurMaterialI)
      · exact less
      · rw [sub_left_inj] at same
        rw [← same, installed j found] at unused
        contradiction
      · exact absurd number (before i greater)
  · intro hidden i found
    by_contra unused
    obtain ⟨number, before⟩ := slotBySeq_eq_some.mp found
    obtain ⟨j, -, number', less⟩ := hidden i (by simpa using unused) number
    exact before j less number'

/-! ## The frames -/

/-- Every NWK frame that carries `q` is decrypted with an installed key, if at all. -/
def NwkUsesInstalled (q : UInt8) (t : Tracked) : Prop :=
  ∀ decrypts frame addrRef room random neighbors, frame.keySeqNumber = q →
    ∀ i, (nwkUnsecureFrame decrypts frame addrRef room random ⟨t.keys, neighbors⟩).slot = some i →
      t.installed i = true

/-- Every APS frame that carries `q` is decrypted with an installed key, if at all. -/
def ApsUsesInstalled (q : UInt8) (t : Tracked) : Prop :=
  ∀ decrypts frame addr room neighbors, frame.keySeqNumber = q →
    ∀ i, (apsUnsecureFrame decrypts frame addr room ⟨t.keys, neighbors⟩).slot = some i →
      t.installed i = true

/-- A first frame from a direct neighbour with room for it, which gets to decryption. -/
def firstNwkFrame (q : UInt8) : NwkFrame := ⟨1, 1, IeeeAddr.zero, q, 0, [], [0, 0, 0, 0]⟩

def firstApsFrame (q : UInt8) : ApsFrame := ⟨true, q, 0, [], [0, 0, 0, 0]⟩

@[simp] theorem created_count (q : UInt8) :
    (NeighborSecur.created.followKey q).count 0 = some (NeighborSecur.created.followKey q) := by
  rw [NeighborSecur.followKey]
  split_ifs <;> rfl

theorem firstNwkFrame_slot {s : KeyState} (authenticated : s.authenticated = true) :
    (nwkUnsecureFrame (fun _ _ _ _ => true) (firstNwkFrame q) (some 0) true (fun _ => 0)
      ⟨s, fun _ => none⟩).slot = slotBySeq q s := by
  have trusted : NeighborSecur.created.doubtChild = NeighborSecur.created := rfl
  cases found : slotBySeq q s with
  | none => simp [nwkUnsecureFrame, authenticated, firstNwkFrame, neighborGet, found]
  | some i =>
    simp [nwkUnsecureFrame, authenticated, firstNwkFrame, neighborGet, found, trusted, Ccm.ccmM]

theorem firstApsFrame_slot {s : KeyState} :
    (apsUnsecureFrame (fun _ _ _ _ => true) (firstApsFrame q) (some (0, IeeeAddr.zero)) true
      ⟨s, fun _ => none⟩).slot = slotBySeq q s := by
  cases found : slotBySeq q s with
  | none =>
    have counted : NeighborSecur.created.count 0 = some NeighborSecur.created := rfl
    simp [apsUnsecureFrame, firstApsFrame, neighborGet, found, counted]
  | some i => simp [apsUnsecureFrame, firstApsFrame, neighborGet, found]

/-- **Which frames use a key nobody installed.**  After every history of the key state
the unused slots are all zero, and frames that carry `q` are decrypted with installed keys
only just when every unused slot with `q` is hidden behind an installed one; NWK looks
only once the device is authenticated. -/
theorem frames_use_installed_iff (random : Option (Slot → Key)) (ops : List Op) (q : UInt8) :
    UnusedZero (run trackedStep (trackedInitial random) ops) ∧
    (NwkUsesInstalled q (run trackedStep (trackedInitial random) ops) ↔
      ((run trackedStep (trackedInitial random) ops).keys.authenticated = true →
        UnusedHidden q (run trackedStep (trackedInitial random) ops))) ∧
    (ApsUsesInstalled q (run trackedStep (trackedInitial random) ops) ↔
      UnusedHidden q (run trackedStep (trackedInitial random) ops)) := by
  refine ⟨?_, ?_, ?_⟩
  · exact invariant_of_run (fun _ op zero => zero.step op) _ ops (UnusedZero.initial random)
  · constructor
    · intro uses authenticated
      rw [← slotBySeq_installed_iff]
      intro i found
      exact uses _ (firstNwkFrame q) (some 0) true _ (fun _ => none) rfl i
        ((firstNwkFrame_slot authenticated).trans found)
    · rintro hidden decrypts frame addrRef room generated neighbors rfl i used
      obtain ⟨authenticated, found⟩ := nwkUnsecureFrame_slot used
      exact slotBySeq_installed_iff.mpr (hidden authenticated) i found
  · rw [← slotBySeq_installed_iff]
    constructor
    · intro uses i found
      exact uses _ (firstApsFrame q) (some (0, IeeeAddr.zero)) true (fun _ => none) rfl i
        (firstApsFrame_slot.trans found)
    · rintro installed decrypts frame addr room neighbors rfl i used
      exact installed i (apsUnsecureFrame_slot used)

/-- A device without generated keys that was given key 1 decrypts a frame that carries
number 0 with the zero key of slot 2. -/
theorem frame_uses_zero_key :
    ¬ ∀ random ops q, NwkUsesInstalled q (run trackedStep (trackedInitial random) ops) := by
  intro uses
  have unused := uses none
    [.transportKey ⟨⟨⟨1, 0, 0⟩, ⟨0, 0, 0, 0, 1⟩⟩, zbStandardNetworkKey, fun _ => 7, 1⟩] 0
    (fun key _ _ _ => decide (key = fun _ => 0)) (firstNwkFrame 0) (some 0) true (fun _ => 0)
    (fun _ => none) rfl 2 (by decide +kernel)
  exact absurd unused (by decide +kernel)

end Zboss.KeyUse
