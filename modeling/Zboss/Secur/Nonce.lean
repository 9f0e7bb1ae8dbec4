import Zboss.Lib.Ledger
import Zboss.Lib.Run
import Zboss.Secur.Unsecure

/-!
The nonces of one device's secured frames.  NWK and APS draw from one outgoing counter,
forwards under an older key from the counter the last switch left behind.  Counters start
again at key switches and key transports, by sequence number and not by key, so a nonce
comes back unless every key that is taken up is one that was not used before.

A device authenticates again when a transport key finds it not authenticated.  What else the
source has for that, after a switch that fails or a frame that is not unsecured, is compiled
out with `ZB_DISABLE_REJOIN_AFTER_SEC_FAIL`.
-/

namespace Zboss.Nonce

open Zboss.AddressTable (IeeeAddr)
open Zboss.KeyStore Zboss.Ledger Zboss.Ring Zboss.Run Zboss.Unsecure

variable {φ : Type*}

/-- A frame that was encrypted. -/
structure Sent (φ : Type*) where
  key : Key
  nonce : CcmNonce
  frame : φ

/-- An APS frame with its auxiliary header filled, and the key that was active then.  It
is encrypted each time MAC sends it. -/
structure Filled (φ : Type*) where
  key : Key
  frameCounter : UInt32
  frame : φ

/-- The key state with what was encrypted, and the key the last switch retired unless
it was taken up again. -/
structure Sender (φ : Type*) where
  keys : KeyState
  nwkSent : List (Sent φ)
  apsFilled : List (Filled φ)
  apsSent : List (Sent φ)
  retired : Option Key

/-- The key NWK encrypts its own frames with. -/
def nwkKey (s : KeyState) : Option Key := nwkKeyBySeq s.activeKeySeqNumber s

/-- `zb_nwk_secure_frame`: the counter choice, and the encryption when there is a key.
`auxSeq` is the key number in the frame's auxiliary header before. -/
def nwkSecureFrame (extendedAddress : IeeeAddr) (frame : φ) (useSameKey : Bool) (auxSeq : UInt8)
    (s : KeyState) : KeyState × Option (Sent φ) :=
  if useSameKey ∧ auxSeq ≠ s.activeKeySeqNumber then
    ({ s with prevOutgoingFrameCounter := s.prevOutgoingFrameCounter + 1 },
      (nwkKeyBySeq auxSeq s).map fun key =>
        ⟨key, ⟨extendedAddress, s.prevOutgoingFrameCounter, zbNwkStdSecurControl⟩, frame⟩)
  else
    ({ s with outgoingFrameCounter := s.outgoingFrameCounter + 1 },
      (nwkKey s).map fun key =>
        ⟨key, ⟨extendedAddress, s.outgoingFrameCounter, zbNwkStdSecurControl⟩, frame⟩)

/-- `zb_secur_aps_aux_hdr_fill` with the network key. -/
def apsAuxHdrFill (frame : φ) (s : KeyState) : KeyState × Filled φ :=
  ({ s with outgoingFrameCounter := s.outgoingFrameCounter + 1 },
    ⟨activeKey s, s.outgoingFrameCounter, frame⟩)

/-- `zb_aps_secure_frame`: the key is the active slot's at the time of sending. -/
def apsSecureFrame (extendedAddress : IeeeAddr) (filled : Filled φ) (s : KeyState) : Sent φ :=
  ⟨activeKey s, ⟨extendedAddress, filled.frameCounter, zbApsNwkStdSecurControl⟩, filled.frame⟩

/-- What a device does with its keys.  `apsSend n` sends the `n`th filled frame, once more
if it is a retransmission. -/
inductive Op (φ : Type*)
  | nwkSend (frame : φ) (useSameKey : Bool) (auxSeq : UInt8)
  | apsFill (frame : φ)
  | apsSend (n : ℕ)
  | keys (op : KeyStore.Op)

/-- A switch to `k` takes place. -/
def switchesTo (k : UInt8) (s : KeyState) : Bool := (keySwitchSearch k s).isSome || s.isTc

/-- The operation switches: the previous counter takes over the outgoing one. -/
def switches (s : KeyState) : KeyStore.Op → Bool
  | .switchKey k _ => switchesTo k s
  | .frameUnsecured q _ =>
    decide ((s.authenticated ∧ (nwkKeyBySeq q s).isSome) ∧
      (q ≠ s.activeKeySeqNumber ∧ q - s.activeKeySeqNumber < 127)) && switchesTo q s
  | _ => false

/-- The retired key after a key operation. -/
def retire (m : Sender φ) (op : KeyStore.Op) : Option Key :=
  let retired := if switches m.keys op then nwkKey m.keys else m.retired
  if retired = nwkKey (KeyStore.step m.keys op) then none else retired

def step (extendedAddress : IeeeAddr) (m : Sender φ) : Op φ → Sender φ
  | .nwkSend frame useSameKey auxSeq =>
    let (keys, sent) := nwkSecureFrame extendedAddress frame useSameKey auxSeq m.keys
    { m with keys := keys, nwkSent := m.nwkSent ++ sent.toList }
  | .apsFill frame =>
    let (keys, filled) := apsAuxHdrFill frame m.keys
    { m with keys := keys, apsFilled := m.apsFilled ++ [filled] }
  | .apsSend n =>
    match m.apsFilled[n]? with
    | some filled =>
      { m with apsSent := m.apsSent ++ [apsSecureFrame extendedAddress filled m.keys] }
    | none => m
  | .keys op => { m with keys := KeyStore.step m.keys op, retired := retire m op }

section

local instance slots_neZero : NeZero 3 := ⟨by decide⟩

/-- The key that NWK has by the number `q` in these slots while slot `i` is active. -/
def keyFrom (slots : Slot → SecurMaterial) (i : Slot) (q : UInt8) : Option Key :=
  (firstFrom i fun j => decide ((slots j).keySeqNumber = q)).map fun j => (slots j).key

/-- The slots, with slot `i` active under the number `q`, are right to go on with from the counter:
for NWK and for APS each, key and counter are those of now, or the key was not used before. -/
structure Takes (m : Sender φ) (slots : Slot → SecurMaterial) (i : Slot) (q : UInt8)
    (counter : UInt32) : Prop where
  nwk : (keyFrom slots i q = nwkKey m.keys ∧ counter = m.keys.outgoingFrameCounter) ∨
    ∀ e ∈ m.nwkSent, keyFrom slots i q ≠ some e.key
  aps : ((slots i).key = activeKey m.keys ∧ counter = m.keys.outgoingFrameCounter) ∨
    ∀ f ∈ m.apsFilled, f.key ≠ (slots i).key

/-- The slot contents with which a switch to `k` is right: slot `i` is, for the least offset `i`
whose shifted slot lacks `k`; and where all slots hold `k`, the slot behind the active one is, with
the key that a trust centre makes for it. -/
def SwitchRight (m : Sender φ) (k : UInt8) (random : Key) : Prop :=
  (∀ i, (m.keys.securMaterialSet (i + (m.keys.activeSecurMaterialI + 1))).keySeqNumber ≠ k →
    (∀ j < i, (m.keys.securMaterialSet (j + (m.keys.activeSecurMaterialI + 1))).keySeqNumber = k) →
      Takes m m.keys.securMaterialSet i k 0) ∧
  ((∀ i, (m.keys.securMaterialSet i).keySeqNumber = k) → m.keys.isTc = true →
    Takes m (Function.update m.keys.securMaterialSet (m.keys.activeSecurMaterialI + 1) ⟨random, k⟩)
      (m.keys.activeSecurMaterialI + 1) k 0)

/-- The slots are right to go on with when `material` is written into slot `i`. -/
def WriteRight (m : Sender φ) (i : Slot) (material : SecurMaterial) : Prop :=
  Takes m (Function.update m.keys.securMaterialSet i material) m.keys.activeSecurMaterialI
    m.keys.activeKeySeqNumber m.keys.outgoingFrameCounter

/-- A transported key is right for its slot: it starts the counter again on a device that is not
authenticated, and in the active slot under a new number; anywhere else it is only written. -/
def TransportRight (m : Sender φ) (ind : TransportKeyIndication) : Prop :=
  let s := m.keys
  let i := transportSlot ind.keySeqNumber s
  ind.keyType = zbStandardNetworkKey →
    if nwkKeyIsEmpty ind.key ∧ ind.keySeqNumber = 0 then
      s.authenticated = false → Takes m s.securMaterialSet 0 0 0
    else if s.authenticated = false ∨
        i = s.activeSecurMaterialI ∧ ind.keySeqNumber ≠ s.activeKeySeqNumber then
      Takes m (Function.update s.securMaterialSet i ⟨ind.key, ind.keySeqNumber⟩) i
        ind.keySeqNumber 0
    else WriteRight m i ⟨ind.key, ind.keySeqNumber⟩

/-- The condition on a key operation, by the slots it finds. -/
def KeysRight (m : Sender φ) : KeyStore.Op → Prop
  | .transportKey ind => TransportRight m ind
  | .switchKey k random => SwitchRight m k random
  | .frameUnsecured q random =>
    m.keys.authenticated = true ∧ (nwkKeyBySeq q m.keys).isSome = true →
      q ≠ m.keys.activeKeySeqNumber ∧ q - m.keys.activeKeySeqNumber < 127 →
        SwitchRight m q random
  | .setupPreconfiguredKey key i =>
    if inside : i.toNat < 3 then WriteRight m ⟨i.toNat, inside⟩ ⟨key, i⟩ else True
  | .clearPreconfiguredKey =>
    WriteRight m 0 ⟨fun _ => 0, (m.keys.securMaterialSet 0).keySeqNumber⟩
  | .tcInit _ => True

end

/-- The condition on a step: no counter is at its end, a forward goes with the key the
last switch retired, an APS frame is sent while the key of its filling is active, and a
key operation takes up unused keys only. -/
def StepRight (m : Sender φ) : Op φ → Prop
  | .nwkSend _ useSameKey auxSeq =>
    if useSameKey ∧ auxSeq ≠ m.keys.activeKeySeqNumber then
      m.keys.prevOutgoingFrameCounter ≠ ~~~0 ∧
        ∀ key, nwkKeyBySeq auxSeq m.keys = some key → m.retired = some key
    else m.keys.outgoingFrameCounter ≠ ~~~0
  | .apsFill _ => m.keys.outgoingFrameCounter ≠ ~~~0
  | .apsSend n => ∀ filled, m.apsFilled[n]? = some filled → filled.key = activeKey m.keys
  | .keys op => KeysRight m op

instance (m : Sender φ) (slots : Slot → SecurMaterial) (i : Slot) (q : UInt8) (counter : UInt32) :
    Decidable (Takes m slots i q counter) :=
  decidable_of_iff ((_ ∨ _) ∧ (_ ∨ _))
    ⟨fun ⟨nwk, aps⟩ => ⟨nwk, aps⟩, fun right => ⟨right.nwk, right.aps⟩⟩

instance (m : Sender φ) (k : UInt8) (random : Key) : Decidable (SwitchRight m k random) :=
  inferInstanceAs (Decidable ((∀ _, _ → _ → _) ∧ (_ → _ → _)))

instance (m : Sender φ) (i : Slot) (material : SecurMaterial) : Decidable (WriteRight m i material) :=
  inferInstanceAs (Decidable (Takes ..))

instance (m : Sender φ) (ind : TransportKeyIndication) : Decidable (TransportRight m ind) :=
  inferInstanceAs (Decidable (_ → ite _ (_ → _) (ite _ _ _)))

instance (m : Sender φ) : ∀ op, Decidable (KeysRight m op)
  | .transportKey _ => inferInstanceAs (Decidable (TransportRight ..))
  | .switchKey .. => inferInstanceAs (Decidable (SwitchRight ..))
  | .frameUnsecured .. => inferInstanceAs (Decidable (_ → _ → _))
  | .setupPreconfiguredKey .. => inferInstanceAs (Decidable (dite ..))
  | .clearPreconfiguredKey => inferInstanceAs (Decidable (WriteRight ..))
  | .tcInit _ => isTrue trivial

instance (m : Sender φ) : ∀ op, Decidable (StepRight m op)
  | .nwkSend _ useSameKey auxSeq =>
    have : Decidable (∀ key, nwkKeyBySeq auxSeq m.keys = some key → m.retired = some key) :=
      (Option.decidableForallMem _ :
        Decidable (∀ key ∈ nwkKeyBySeq auxSeq m.keys, m.retired = some key))
    inferInstanceAs (Decidable (if useSameKey ∧ auxSeq ≠ m.keys.activeKeySeqNumber then
      m.keys.prevOutgoingFrameCounter ≠ ~~~0 ∧
        ∀ key, nwkKeyBySeq auxSeq m.keys = some key → m.retired = some key
      else m.keys.outgoingFrameCounter ≠ ~~~0))
  | .apsFill _ => inferInstanceAs (Decidable (_ ≠ _))
  | .apsSend n =>
    inferInstanceAs (Decidable (∀ filled ∈ m.apsFilled[n]?, filled.key = activeKey m.keys))
  | .keys _ => inferInstanceAs (Decidable (KeysRight ..))

/-- No two different frames were encrypted under one key with one nonce. -/
def NoReuse (sent : List (Sent φ)) : Prop :=
  ∀ a ∈ sent, ∀ b ∈ sent, a.key = b.key → a.nonce = b.nonce → a.frame = b.frame

/-- The counter is ahead of every frame NWK encrypted with the key it uses. -/
def CounterAhead (m : Sender φ) : Prop :=
  ∀ e ∈ m.nwkSent, nwkKey m.keys = some e.key →
    e.nonce.frameCounter < m.keys.outgoingFrameCounter

/-! ## The invariant -/

def Sent.entry (e : Sent φ) : Entry Key φ := ⟨e.key, e.nonce.frameCounter.toNat, e.frame⟩

def Filled.entry (f : Filled φ) : Entry Key φ := ⟨f.key, f.frameCounter.toNat, f.frame⟩

/-- What every step keeps. -/
structure Sealed (extendedAddress : IeeeAddr) (m : Sender φ) : Prop where
  nwk : Unambiguous (m.nwkSent.map Sent.entry)
  ahead : ∀ k, nwkKey m.keys = some k →
    Below (m.nwkSent.map Sent.entry) k m.keys.outgoingFrameCounter.toNat
  retired : ∀ k, m.retired = some k → nwkKey m.keys ≠ some k ∧
    Below (m.nwkSent.map Sent.entry) k m.keys.prevOutgoingFrameCounter.toNat
  nwkNonce : ∀ e ∈ m.nwkSent, e.nonce.securControl = zbNwkStdSecurControl
  aps : Unambiguous (m.apsFilled.map Filled.entry)
  apsAhead : Below (m.apsFilled.map Filled.entry) (activeKey m.keys)
    m.keys.outgoingFrameCounter.toNat
  apsSent : ∀ e ∈ m.apsSent, ∃ f ∈ m.apsFilled,
    e = ⟨f.key, ⟨extendedAddress, f.frameCounter, zbApsNwkStdSecurControl⟩, f.frame⟩

variable {extendedAddress : IeeeAddr} {m : Sender φ} {s : KeyState} {c : UInt32}

/-- A counter that is not at its end does not wrap. -/
theorem toNat_succ (inside : c ≠ ~~~0) : (c + 1).toNat = c.toNat + 1 := by
  have bound := c.toNat_lt
  have last : (~~~(0 : UInt32)).toNat = 4294967295 := by decide
  have differs : c.toNat ≠ 4294967295 := fun same =>
    inside (UInt32.toNat_inj.mp (same.trans last.symm))
  have one : (1 : UInt32).toNat = 1 := rfl
  rw [UInt32.toNat_add, one]
  omega

theorem nwkKeySwitch_prev (k : UInt8) (random : Key) (s : KeyState) :
    (nwkKeySwitch k random s).prevOutgoingFrameCounter =
      if switchesTo k s then s.outgoingFrameCounter else s.prevOutgoingFrameCounter := by
  rw [nwkKeySwitch, switchesTo]
  cases keySwitchSearch k s with
  | some i => rfl
  | none =>
    by_cases tc : s.isTc
    · simp only [tc, if_true, Option.isSome_none, Bool.false_or]
      rfl
    · simp only [tc, Bool.false_eq_true, if_false, Option.isSome_none, Bool.or_self]

theorem authenticate_prev (i : Slot) (q : UInt8) :
    (authenticate i q s).prevOutgoingFrameCounter = s.prevOutgoingFrameCounter := by
  rw [authenticate]
  split_ifs <;> rfl

theorem transportKeyIndication_prev (ind : TransportKeyIndication) (s : KeyState) :
    (transportKeyIndication ind s).prevOutgoingFrameCounter = s.prevOutgoingFrameCounter := by
  have learned : (learnTrustCenter ind.srcAddress s).prevOutgoingFrameCounter =
      s.prevOutgoingFrameCounter := by
    rw [learnTrustCenter]
    split_ifs <;> rfl
  obtain same | ⟨s', rfl, confirmed | stored⟩ := transportKeyIndication_cases ind s
  · rw [same]
  · rw [confirmed, authenticate_prev, learned]
  · rw [stored, authenticate_prev, ← learned, storeTransportedKey]
    split_ifs <;> rfl

/-- A switch moves the outgoing counter to the previous one. -/
theorem step_prev_of_switches {op : KeyStore.Op} (switched : switches s op = true) :
    (KeyStore.step s op).prevOutgoingFrameCounter = s.outgoingFrameCounter := by
  cases op with
  | switchKey k random =>
    dsimp only [switches] at switched
    dsimp only [KeyStore.step]
    rw [nwkKeySwitch_prev, if_pos switched]
  | frameUnsecured q random =>
    simp only [switches, Bool.and_eq_true, decide_eq_true_eq] at switched
    dsimp only [KeyStore.step, implicitKeySwitch]
    rw [if_pos switched.1.1, if_pos switched.1.2, nwkKeySwitch_prev, if_pos switched.2]
  | _ => contradiction

/-- Nothing else moves the previous counter. -/
theorem step_prev_of_not_switches {op : KeyStore.Op} (stays : switches s op = false) :
    (KeyStore.step s op).prevOutgoingFrameCounter = s.prevOutgoingFrameCounter := by
  cases op with
  | transportKey ind => exact transportKeyIndication_prev ind s
  | switchKey k random =>
    dsimp only [switches] at stays
    dsimp only [KeyStore.step]
    rw [nwkKeySwitch_prev, if_neg (Bool.not_eq_true _ ▸ stays)]
  | frameUnsecured q random =>
    simp only [switches, Bool.and_eq_false_iff, decide_eq_false_iff_not] at stays
    dsimp only [KeyStore.step, implicitKeySwitch]
    split_ifs with accepted newer
    · rw [nwkKeySwitch_prev, if_neg]
      rw [stays.resolve_left (not_not.mpr ⟨accepted, newer⟩)]
      exact Bool.false_ne_true
    · rfl
    · rfl
  | setupPreconfiguredKey key i =>
    dsimp only [KeyStore.step]
    rw [setupPreconfiguredKey]
    split_ifs <;> rfl
  | clearPreconfiguredKey => rfl
  | tcInit extendedAddress => rfl

/-! ## Steps -/

/-- NWK encrypts an own frame with the key it uses and counts on. -/
theorem sealed_nwkSend_own (kept : Sealed extendedAddress m) (frame : φ)
    (inside : m.keys.outgoingFrameCounter ≠ ~~~0) :
    Sealed extendedAddress
      { m with
        keys := { m.keys with outgoingFrameCounter := m.keys.outgoingFrameCounter + 1 }
        nwkSent := m.nwkSent ++ ((nwkKey m.keys).map fun key =>
          ⟨key, ⟨extendedAddress, m.keys.outgoingFrameCounter, zbNwkStdSecurControl⟩,
            frame⟩).toList } := by
  have le : m.keys.outgoingFrameCounter.toNat ≤ (m.keys.outgoingFrameCounter + 1).toNat := by
    rw [toNat_succ inside]
    exact Nat.le_succ _
  cases used : nwkKey m.keys with
  | none =>
    simp only [Option.map_none, Option.toList_none, List.append_nil]
    refine { kept with ahead := fun k current => ?_, apsAhead := kept.apsAhead.mono le }
    exact (kept.ahead k current).mono le
  | some key =>
    simp only [Option.map_some, Option.toList_some]
    have below := kept.ahead key used
    refine { kept with
      nwk := ?_, ahead := fun k current => ?_, retired := fun k retired => ?_,
      nwkNonce := ?_, apsAhead := kept.apsAhead.mono le }
    · rw [List.map_append]
      exact kept.nwk.use below
    · have same : k = key := Option.some.inj (current.symm.trans used)
      subst same
      dsimp only
      rw [List.map_append, toNat_succ inside]
      exact below.use
    · obtain ⟨differs, below'⟩ := kept.retired k retired
      refine ⟨differs, ?_⟩
      dsimp only
      rw [List.map_append]
      exact below'.useOther fun same => differs (same ▸ used)
    · intro e mem
      obtain old | new := List.mem_append.mp mem
      · exact kept.nwkNonce e old
      · rw [List.mem_singleton.mp new]

/-- A forward goes with the retired key and the previous counter. -/
theorem sealed_nwkSend_same (kept : Sealed extendedAddress m) (frame : φ) (found : Option Key)
    (inside : m.keys.prevOutgoingFrameCounter ≠ ~~~0)
    (retired : ∀ key, found = some key → m.retired = some key) :
    Sealed extendedAddress
      { m with
        keys := { m.keys with prevOutgoingFrameCounter := m.keys.prevOutgoingFrameCounter + 1 }
        nwkSent := m.nwkSent ++ (found.map fun key =>
          ⟨key, ⟨extendedAddress, m.keys.prevOutgoingFrameCounter, zbNwkStdSecurControl⟩,
            frame⟩).toList } := by
  cases found with
  | none =>
    simp only [Option.map_none, Option.toList_none, List.append_nil]
    refine { kept with retired := fun k retired => ?_ }
    obtain ⟨differs, below⟩ := kept.retired k retired
    refine ⟨differs, below.mono ?_⟩
    dsimp only
    rw [toNat_succ inside]
    exact Nat.le_succ _
  | some key =>
    simp only [Option.map_some, Option.toList_some]
    obtain ⟨differs, below⟩ := kept.retired key (retired key rfl)
    refine { kept with
      nwk := ?_, ahead := fun k current => ?_, retired := fun k retired' => ?_, nwkNonce := ?_ }
    · rw [List.map_append]
      exact kept.nwk.use below
    · dsimp only
      rw [List.map_append]
      exact (kept.ahead k current).useOther fun same =>
        differs (current.trans (congrArg some same.symm))
    · have same : k = key := Option.some.inj (retired'.symm.trans (retired key rfl))
      subst same
      refine ⟨differs, ?_⟩
      dsimp only
      rw [List.map_append, toNat_succ inside]
      exact below.use
    · intro e mem
      obtain old | new := List.mem_append.mp mem
      · exact kept.nwkNonce e old
      · rw [List.mem_singleton.mp new]

theorem sealed_apsFill (kept : Sealed extendedAddress m) (frame : φ)
    (inside : m.keys.outgoingFrameCounter ≠ ~~~0) :
    Sealed extendedAddress (step extendedAddress m (.apsFill frame)) := by
  have le : m.keys.outgoingFrameCounter.toNat ≤ (m.keys.outgoingFrameCounter + 1).toNat := by
    rw [toNat_succ inside]
    exact Nat.le_succ _
  dsimp only [step, apsAuxHdrFill]
  refine { kept with
    ahead := fun k current => (kept.ahead k current).mono le
    aps := ?_, apsAhead := ?_, apsSent := fun e mem => ?_ }
  · rw [List.map_append]
    exact kept.aps.use kept.apsAhead
  · dsimp only
    rw [List.map_append, toNat_succ inside]
    exact kept.apsAhead.use
  · obtain ⟨f, filled, same⟩ := kept.apsSent e mem
    exact ⟨f, List.mem_append_left _ filled, same⟩

theorem sealed_apsSend (kept : Sealed extendedAddress m) (n : ℕ)
    (right : ∀ filled, m.apsFilled[n]? = some filled → filled.key = activeKey m.keys) :
    Sealed extendedAddress (step extendedAddress m (.apsSend n)) := by
  dsimp only [step]
  cases here : m.apsFilled[n]? with
  | none => exact kept
  | some filled =>
    refine { kept with apsSent := fun e mem => ?_ }
    obtain old | new := List.mem_append.mp mem
    · exact kept.apsSent e old
    · refine ⟨filled, List.mem_of_getElem? here, ?_⟩
      rw [List.mem_singleton.mp new, apsSecureFrame, right filled here]

/-- For NWK and for APS a key state goes on with key and counter as they are, or with a key that was
not used before. -/
def GoesOn (m : Sender φ) (s' : KeyState) : Prop :=
  Takes m s'.securMaterialSet s'.activeSecurMaterialI s'.activeKeySeqNumber s'.outgoingFrameCounter

theorem goesOn_refl (m : Sender φ) : GoesOn m m.keys := ⟨.inl ⟨rfl, rfl⟩, .inl ⟨rfl, rfl⟩⟩

theorem goesOn_switch {k : UInt8} {random : Key} (right : SwitchRight m k random) :
    GoesOn m (nwkKeySwitch k random m.keys) := by
  rw [nwkKeySwitch]
  cases found : keySwitchSearch k m.keys with
  | some i =>
    obtain ⟨lacks, before⟩ := keySwitchSearch_eq_some.mp found
    exact right.1 i lacks before
  | none =>
    by_cases tc : m.keys.isTc
    · simp only [tc, if_true]
      exact right.2 (keySwitchSearch_eq_none.mp found) tc
    · simp only [tc, Bool.false_eq_true, if_false]
      exact goesOn_refl m

/-- Learning the trust centre changes nothing that keys are taken from. -/
theorem learnTrustCenter_frame (src : IeeeAddr) (s : KeyState) :
    ∃ address, learnTrustCenter src s = { s with trustCenterAddress := address } := by
  rw [learnTrustCenter]
  split_ifs
  · exact ⟨src, rfl⟩
  · exact ⟨s.trustCenterAddress, rfl⟩

/-- A device that is authenticated goes on as it is; another one starts with the slot. -/
theorem goesOn_authenticate {s' : KeyState} {i : Slot} {q : UInt8}
    (known : s'.authenticated = true → GoesOn m s')
    (new : s'.authenticated = false → Takes m s'.securMaterialSet i q 0) :
    GoesOn m (authenticate i q s') := by
  rw [authenticate]
  cases already : s'.authenticated with
  | true =>
    rw [if_pos rfl]
    exact known already
  | false =>
    rw [if_neg Bool.false_ne_true]
    exact new already

theorem goesOn_transport {ind : TransportKeyIndication} (right : TransportRight m ind) :
    GoesOn m (transportKeyIndication ind m.keys) := by
  obtain ⟨address, learned⟩ := learnTrustCenter_frame ind.srcAddress m.keys
  rw [transportKeyIndication, learned]
  by_cases standard : ind.keyType = zbStandardNetworkKey
  · rw [if_pos standard]
    have right := right standard
    dsimp only at right ⊢
    by_cases empty : nwkKeyIsEmpty ind.key ∧ ind.keySeqNumber = 0
    · rw [if_pos empty] at right ⊢
      rw [empty.2]
      exact goesOn_authenticate (fun _ => goesOn_refl m) right
    · rw [if_neg empty] at right ⊢
      have same : transportSlot ind.keySeqNumber { m.keys with trustCenterAddress := address } =
          transportSlot ind.keySeqNumber m.keys := rfl
      rw [storeTransportedKey, same]
      dsimp only
      by_cases active : transportSlot ind.keySeqNumber m.keys = m.keys.activeSecurMaterialI ∧
        ind.keySeqNumber ≠ m.keys.activeKeySeqNumber
      · rw [if_pos (Or.inr active)] at right
        rw [if_pos active]
        refine goesOn_authenticate (fun _ => ?_) fun _ => right
        rw [active.1] at right
        rw [active.1]
        exact right
      · rw [if_neg active]
        refine goesOn_authenticate (fun already => ?_) fun outside => ?_
        · have only : ¬(m.keys.authenticated = false ∨ transportSlot ind.keySeqNumber m.keys =
              m.keys.activeSecurMaterialI ∧ ind.keySeqNumber ≠ m.keys.activeKeySeqNumber) := by
            rintro (outside | taken)
            · cases already.symm.trans outside
            · exact active taken
          rw [if_neg only] at right
          exact right
        · have unknown : m.keys.authenticated = false := outside
          rw [if_pos (Or.inl unknown)] at right
          exact right
  · rw [if_neg standard]
    exact goesOn_refl m

theorem goesOn_step {op : KeyStore.Op} (right : KeysRight m op) :
    GoesOn m (KeyStore.step m.keys op) := by
  cases op with
  | transportKey ind => exact goesOn_transport right
  | switchKey k random => exact goesOn_switch right
  | frameUnsecured q random =>
    dsimp only [KeyStore.step, implicitKeySwitch]
    split_ifs with accepted newer
    · exact goesOn_switch (right accepted newer)
    · exact goesOn_refl m
    · exact goesOn_refl m
  | setupPreconfiguredKey key i =>
    dsimp only [KeyStore.step]
    rw [setupPreconfiguredKey]
    rw [KeysRight] at right
    split_ifs with inside
    · rwa [dif_pos inside] at right
    · exact goesOn_refl m
  | clearPreconfiguredKey => exact right
  | tcInit extendedAddress => exact goesOn_refl m

theorem sealed_keys (kept : Sealed extendedAddress m) (op : KeyStore.Op) (right : KeysRight m op) :
    Sealed extendedAddress (step extendedAddress m (.keys op)) := by
  have goes := goesOn_step right
  dsimp only [step]
  refine { kept with ahead := fun k current => ?_, retired := fun k retired => ?_, apsAhead := ?_ }
  · dsimp only at current ⊢
    obtain ⟨same, counter⟩ | unused := goes.nwk
    · rw [counter]
      exact kept.ahead k (same.symm.trans current)
    · intro e mem key_
      obtain ⟨sent, mem', rfl⟩ := List.mem_map.mp mem
      exact absurd (current.trans (congrArg some key_.symm)) (unused sent mem')
  · dsimp only [retire] at retired ⊢
    cases switched : switches m.keys op with
    | true =>
      simp only [switched, if_true] at retired
      split_ifs at retired with taken
      rw [step_prev_of_switches switched]
      exact ⟨fun current => taken (retired.trans current.symm), kept.ahead k retired⟩
    | false =>
      simp only [switched, Bool.false_eq_true, if_false] at retired
      split_ifs at retired with taken
      rw [step_prev_of_not_switches switched]
      exact ⟨fun current => taken (retired.trans current.symm), (kept.retired k retired).2⟩
  · obtain ⟨same, counter⟩ | unused := goes.aps
    · dsimp only
      rw [activeKey, same, counter]
      exact kept.apsAhead
    · intro e mem key_
      obtain ⟨filled, mem', rfl⟩ := List.mem_map.mp mem
      exact absurd key_ (unused filled mem')

/-- Every step that meets the condition keeps the invariant. -/
theorem sealed_step (kept : Sealed extendedAddress m) (op : Op φ) (right : StepRight m op) :
    Sealed extendedAddress (step extendedAddress m op) := by
  cases op with
  | nwkSend frame useSameKey auxSeq =>
    dsimp only [StepRight] at right
    dsimp only [step, nwkSecureFrame]
    split_ifs at right ⊢ with same
    · exact sealed_nwkSend_same kept frame _ right.1 right.2
    · exact sealed_nwkSend_own kept frame right
  | apsFill frame => exact sealed_apsFill kept frame right
  | apsSend n => exact sealed_apsSend kept n right
  | keys op => exact sealed_keys kept op right

/-- Frames of one layer do not share a nonce with frames of the other. -/
theorem Sealed.noReuse (kept : Sealed extendedAddress m) : NoReuse (m.nwkSent ++ m.apsSent) := by
  have control : zbNwkStdSecurControl ≠ zbApsNwkStdSecurControl := by decide
  have apart : ∀ a ∈ m.nwkSent, ∀ b ∈ m.apsSent, a.nonce ≠ b.nonce := by
    intro a mem b mem' nonce_
    obtain ⟨f, -, rfl⟩ := kept.apsSent b mem'
    have same := congrArg CcmNonce.securControl nonce_
    rw [kept.nwkNonce a mem] at same
    exact control same
  intro a mem b mem' key_ nonce_
  obtain nwk | aps := List.mem_append.mp mem <;> obtain nwk' | aps' := List.mem_append.mp mem'
  · exact kept.nwk a.entry (List.mem_map_of_mem nwk) b.entry (List.mem_map_of_mem nwk') key_
      (congrArg (·.frameCounter.toNat) nonce_)
  · exact absurd nonce_ (apart a nwk b aps')
  · exact absurd nonce_.symm (apart b nwk' a aps)
  · obtain ⟨f, filled, rfl⟩ := kept.apsSent a aps
    obtain ⟨f', filled', rfl⟩ := kept.apsSent b aps'
    exact kept.aps f.entry (List.mem_map_of_mem filled) f'.entry (List.mem_map_of_mem filled') key_
      (congrArg (·.frameCounter.toNat) nonce_)

/-- **No nonce is used twice.**  From every key state in which nothing was encrypted yet,
in every run whose steps meet the condition, no two different frames are encrypted under
one key with one nonce, and the counter stays ahead of the key in use. -/
theorem no_nonce_reuse (extendedAddress : IeeeAddr) (s : KeyState) (ops : List (Op φ))
    (right : Along (step extendedAddress) StepRight ⟨s, [], [], [], none⟩ ops) :
    NoReuse ((run (step extendedAddress) ⟨s, [], [], [], none⟩ ops).nwkSent ++
      (run (step extendedAddress) ⟨s, [], [], [], none⟩ ops).apsSent) ∧
    CounterAhead (run (step extendedAddress) ⟨s, [], [], [], none⟩ ops) := by
  have keeps : ∀ (m : Sender φ) op, Sealed extendedAddress m → StepRight m op →
      Sealed extendedAddress (step extendedAddress m op) :=
    fun _ op kept right => sealed_step kept op right
  have clean : Sealed extendedAddress (⟨s, [], [], [], none⟩ : Sender φ) :=
    { nwk := Unambiguous.nil, ahead := fun _ _ => Below.nil, retired := fun _ h => by contradiction
      nwkNonce := fun _ mem => by contradiction, aps := Unambiguous.nil, apsAhead := Below.nil
      apsSent := fun _ mem => by contradiction }
  have kept := invariant_of_along keeps _ ops clean right
  refine ⟨kept.noReuse, fun e mem used => ?_⟩
  rw [UInt32.lt_iff_toNat_lt]
  exact kept.ahead e.key used e.entry (List.mem_map_of_mem mem) rfl

/-- The trust centre gives the key of number `q`. -/
def transport (q : UInt8) : Op ℕ :=
  .keys (.transportKey ⟨⟨⟨1, 0, 0⟩, ⟨0, 0, 0, 0, 1⟩⟩, zbStandardNetworkKey, fun _ => q + 1, q⟩)

/-- Frames on both sides of a key update: an own one, then a forward under the old key, an
own one under the new key, and an APS frame that is sent twice. -/
def updateOps : List (Op ℕ) :=
  [transport 0, .nwkSend 10 false 0, transport 1, .keys (.switchKey 1 fun _ => 0),
    .nwkSend 11 true 0, .nwkSend 12 false 0, .apsFill 13, .apsSend 0, .apsSend 0]

/-- A device of a build that generates keys. -/
def generatedKeys : KeyState := initial (some fun _ _ => 9)

theorem no_nonce_reuse_updateOps :
    NoReuse ((run (step IeeeAddr.zero) ⟨generatedKeys, [], [], [], none⟩ updateOps).nwkSent ++
      (run (step IeeeAddr.zero) ⟨generatedKeys, [], [], [], none⟩ updateOps).apsSent) :=
  (no_nonce_reuse IeeeAddr.zero generatedKeys updateOps (by decide +kernel)).1

/-- A switch to the key that is active already starts the counter again. -/
theorem nonce_reused :
    ¬ ∀ extendedAddress s (ops : List (Op ℕ)),
      NoReuse ((run (step extendedAddress) ⟨s, [], [], [], none⟩ ops).nwkSent ++
        (run (step extendedAddress) ⟨s, [], [], [], none⟩ ops).apsSent) := by
  intro unambiguous
  have clash := unambiguous IeeeAddr.zero (initial none)
    [transport 1, .nwkSend 10 false 0, .keys (.switchKey 1 fun _ => 0), .nwkSend 11 false 0]
  exact absurd clash (by unfold NoReuse; decide +kernel)

end Zboss.Nonce
