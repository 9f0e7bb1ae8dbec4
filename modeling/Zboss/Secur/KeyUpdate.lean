import Zboss.Secur.Nonce

/-!
The update of the network key over a network of any number of devices.  The trust centre
broadcasts the next key, then has everybody switch, either by a broadcast whose confirm
makes it switch itself, or by switching first and telling its neighbours.  Frames stay on
the air, so that they arrive late, more than once or never; devices handle commands as
scheduled callbacks.
-/

namespace Zboss.KeyUpdate

open Zboss.AddressTable (IeeeAddr)
open Zboss.KeyStore Zboss.Nonce Zboss.Run

variable {ι : Type*} [DecidableEq ι]

/-! ## State -/

/-- A device: whether its build has `ZB_ROUTER_ROLE`, `joined_pro`, its address and its
keys. -/
structure Device where
  routerRole : Bool
  joinedPro : Bool
  extendedAddress : IeeeAddr
  keys : KeyState

inductive Content
  | data
  | transportKey (ind : TransportKeyIndication)
  | switchKey (keySeqNumber : UInt8)
  deriving DecidableEq

def Content.isCommand : Content → Bool
  | .data => false
  | .transportKey _ | .switchKey _ => true

/-- A frame on the air, with the key it is secured with and that key's number. -/
structure Frame where
  key : Key
  keySeqNumber : UInt8
  content : Content
  deriving DecidableEq

/-- A frame a device has to send.  A forwarded one has the key number it came with. -/
structure Outgoing (ι : Type*) where
  sender : ι
  auxSeq : Option UInt8
  content : Content
  deriving DecidableEq

/-- The network: the devices, what they have to send, the frames on the air and the
received commands to be handled; the trust centre's `key_sw` and whether it is telling
its neighbours to switch.  `told` and `switches` are kept for the statement: who was told
to use which key number, by SWITCH-KEY or by a frame it accepted, and the numbers the
trust centre switched to. -/
structure Network (ι : Type*) where
  devices : ι → Device
  outbox : List (Outgoing ι)
  air : List Frame
  inbox : List (ι × Content)
  keySw : Option ℕ
  iterating : Bool
  told : List (ι × UInt8)
  switches : List UInt8

def Network.keys (net : Network ι) (i : ι) : KeyState := (net.devices i).keys

def Network.setKeys (i : ι) (s : KeyState) (net : Network ι) : Network ι :=
  { net with devices := Function.update net.devices i { net.devices i with keys := s } }

/-! ## Steps -/

/-- What happens in the network; `tc` is the trust centre. -/
inductive Op (ι : Type*)
  | sendNwkKeyUpdateBr
  | sendNwkKeySwitch (param : ℕ)
  | sendNwkKeySwitchUnicast (random : Key)
  | sendKeySwNext
  | dataConfirm (param : ℕ) (random : Key)
  | send (out : Outgoing ι)
  | receive (i : ι) (frame : Frame) (mine : Bool) (random : Key)
  | handle (i : ι) (content : Content) (random : Key)

/-- `zb_secur_send_nwk_key_update_br`. -/
def sendNwkKeyUpdateBr (tc : ι) (net : Network ι) : Network ι :=
  let s := net.keys tc
  let keySeqNumber := s.activeKeySeqNumber + 1
  match nwkKeyBySeq keySeqNumber s with
  | some key =>
    let ind := ⟨s.trustCenterAddress, zbStandardNetworkKey, key, keySeqNumber⟩
    { net with outbox := net.outbox ++ [⟨tc, none, .transportKey ind⟩] }
  | none => net

/-- `zb_secur_send_nwk_key_switch` to a broadcast address: the switch itself waits for the
confirm of the buffer. -/
def sendNwkKeySwitch (tc : ι) (param : ℕ) (net : Network ι) : Network ι :=
  { net with
    outbox := net.outbox ++ [⟨tc, none, .switchKey ((net.keys tc).activeKeySeqNumber + 1)⟩]
    keySw := some param }

/-- The trust centre switches to the next key. -/
def switchNext (tc : ι) (random : Key) (net : Network ι) : Network ι :=
  let keySeqNumber := (net.keys tc).activeKeySeqNumber + 1
  { net.setKeys tc (nwkKeySwitch keySeqNumber random (net.keys tc)) with
    told := net.told ++ [(tc, keySeqNumber)]
    switches := net.switches ++ [keySeqNumber] }

/-- `secur_send_key_sw_next`. -/
def sendKeySwNext (tc : ι) (net : Network ι) : Network ι :=
  if net.iterating then
    { net with
      outbox := net.outbox ++ [⟨tc, none, .switchKey (net.keys tc).activeKeySeqNumber⟩] }
  else net

/-- `zb_apsde_data_confirm` at the trust centre. -/
def dataConfirm (tc : ι) (param : ℕ) (random : Key) (net : Network ι) : Network ι :=
  if net.keySw = some param then { switchNext tc random net with keySw := none } else net

/-- `zb_nwk_secure_frame`: the frame goes out under the active key, or a forwarded one
under the key it came with. -/
def transmit (out : Outgoing ι) (net : Network ι) : Network ι :=
  let s := net.keys out.sender
  let auxSeq := out.auxSeq.getD s.activeKeySeqNumber
  let (s', sent) := nwkSecureFrame (net.devices out.sender).extendedAddress out.content true auxSeq s
  { net.setKeys out.sender s' with
    air := net.air ++ sent.toList.map fun frame => ⟨frame.key, auxSeq, out.content⟩ }

/-- A frame is unsecured with the receiver's key of its number. -/
def accepts (frame : Frame) (s : KeyState) : Bool :=
  s.authenticated && nwkKeyBySeq frame.keySeqNumber s == some frame.key

/-- The frame is secured with a newer key than the active one. -/
def newer (keySeqNumber : UInt8) (s : KeyState) : Bool :=
  decide (keySeqNumber ≠ s.activeKeySeqNumber ∧ keySeqNumber - s.activeKeySeqNumber < 127)

/-- A frame arrives.  The trust centre finds its own broadcasts in its transaction table. -/
def arrives (tc i : ι) (frame : Frame) (net : Network ι) : Bool :=
  decide (frame ∈ net.air) && !(decide (i = tc) && frame.content.isCommand) &&
    accepts frame (net.keys i)

def receive (tc i : ι) (frame : Frame) (mine : Bool) (random : Key) (net : Network ι) :
    Network ι :=
  if arrives tc i frame net then
    let s := net.keys i
    { net.setKeys i (implicitKeySwitch frame.keySeqNumber random s) with
      outbox := net.outbox ++ (if (net.devices i).routerRole then
        [⟨i, some frame.keySeqNumber, frame.content⟩] else [])
      inbox := net.inbox ++ (if mine then [(i, frame.content)] else [])
      told := net.told ++ [(i, frame.keySeqNumber)]
      switches := net.switches ++ (if i = tc ∧ newer frame.keySeqNumber s then
        [frame.keySeqNumber] else []) }
  else net

/-- `zb_aps_in_command_handle`. -/
def handleCommand (i : ι) (random : Key) (net : Network ι) : Content → Network ι
  | .data => net
  | .transportKey ind =>
    if (net.devices i).joinedPro then net
    else net.setKeys i (transportKeyIndication ind (net.keys i))
  | .switchKey keySeqNumber =>
    let net' := if (net.devices i).routerRole then net
      else net.setKeys i (nwkKeySwitch keySeqNumber random (net.keys i))
    { net' with told := net.told ++ [(i, keySeqNumber)] }

def step (tc : ι) (net : Network ι) : Op ι → Network ι
  | .sendNwkKeyUpdateBr => sendNwkKeyUpdateBr tc net
  | .sendNwkKeySwitch param => sendNwkKeySwitch tc param net
  | .sendNwkKeySwitchUnicast random => { switchNext tc random net with iterating := true }
  | .sendKeySwNext => sendKeySwNext tc net
  | .dataConfirm param random => dataConfirm tc param random net
  | .send out =>
    if out ∈ net.outbox ∨ out.auxSeq = none ∧ out.content = .data then transmit out net else net
  | .receive i frame mine random => receive tc i frame mine random net
  | .handle i content random =>
    if (i, content) ∈ net.inbox then
      handleCommand i random { net with inbox := net.inbox.erase (i, content) } content
    else net

/-! ## The statement -/

/-- The device secures its frames with the key under the number: NWK goes by the number,
APS by the slot. -/
def Secures (key : Key) (k : UInt8) (s : KeyState) : Prop :=
  s.activeKeySeqNumber = k ∧ s.securMaterialSet s.activeSecurMaterialI = ⟨key, k⟩

/-- The device holds the key under the number. -/
def Holds (key : Key) (k : UInt8) (s : KeyState) : Prop := ∃ i, s.securMaterialSet i = ⟨key, k⟩

/-- An update from key number `n`, to the key the trust centre has as the next one. -/
structure Start (tc : ι) (newKey : Key) (n : UInt8) (net : Network ι) : Prop where
  authenticated : ∀ i, (net.keys i).authenticated = true
  active : ∀ i, (net.keys i).activeKeySeqNumber = n
  slot : ∀ i, ((net.keys i).securMaterialSet (net.keys i).activeSecurMaterialI).keySeqNumber = n
  next : nwkKeyBySeq (n + 1) (net.keys tc) = some newKey
  quiet : net.outbox = [] ∧ net.air = [] ∧ net.inbox = [] ∧ net.keySw = none ∧
    net.iterating = false ∧ net.told = [] ∧ net.switches = []

/-- Agreement on key number `k`. -/
structure Agreed (tc : ι) (newKey : Key) (k : UInt8) (net : Network ι) : Prop where
  switched : ∀ i, Holds newKey k (net.keys i) → (i, k) ∈ net.told → Secures newKey k (net.keys i)
  missing : ∀ i, ¬ Holds newKey k (net.keys i) → (net.keys i).activeKeySeqNumber ≠ k
  once : net.switches = if (tc, k) ∈ net.told then [k] else []
  complete : (∀ i, (i, k) ∈ net.told) → ∀ i, Secures newKey k (net.keys i)

section

local instance slots_neZero : NeZero 3 := ⟨by decide⟩

/-- The slot contents with which a switch to `k` ends at a slot that holds the key: slot `i` does,
for the least offset `i` whose shifted slot lacks `k`; or all slots hold `k`, no key is generated
and the device secures with the key already. -/
def SwitchLands (key : Key) (k : UInt8) (s : KeyState) : Prop :=
  (∃ i, s.securMaterialSet i = ⟨key, k⟩ ∧
    (s.securMaterialSet (i + (s.activeSecurMaterialI + 1))).keySeqNumber ≠ k ∧
    ∀ j < i, (s.securMaterialSet (j + (s.activeSecurMaterialI + 1))).keySeqNumber = k) ∨
  ((∀ i, (s.securMaterialSet i).keySeqNumber = k) ∧ s.isTc = false ∧ Secures key k s)

end

/-- The condition on a step.  The trust centre sends and switches from key `n`; every
switch ends at a slot that holds the new key; and a SWITCH-KEY that a router gets comes
after the router has switched. -/
def StepRight (tc : ι) (newKey : Key) (n : UInt8) (net : Network ι) : Op ι → Prop
  | .sendNwkKeyUpdateBr | .sendNwkKeySwitch _ => (net.keys tc).activeKeySeqNumber = n
  | .sendNwkKeySwitchUnicast _ =>
    (net.keys tc).activeKeySeqNumber = n ∧ SwitchLands newKey (n + 1) (net.keys tc)
  | .dataConfirm param _ =>
    net.keySw = some param →
      (net.keys tc).activeKeySeqNumber = n ∧ SwitchLands newKey (n + 1) (net.keys tc)
  | .receive i frame _ _ =>
    arrives tc i frame net = true → newer frame.keySeqNumber (net.keys i) = true →
      SwitchLands newKey (n + 1) (net.keys i)
  | .handle i (.switchKey q) _ =>
    (i, .switchKey q) ∈ net.inbox →
      if (net.devices i).routerRole then Secures newKey (n + 1) (net.keys i)
      else SwitchLands newKey (n + 1) (net.keys i)
  | .sendKeySwNext | .send _ | .handle _ .data _ | .handle _ (.transportKey _) _ => True

instance (key : Key) (k : UInt8) (s : KeyState) : Decidable (Secures key k s) :=
  inferInstanceAs (Decidable (_ ∧ _))

instance (key : Key) (k : UInt8) (s : KeyState) : Decidable (SwitchLands key k s) :=
  inferInstanceAs (Decidable (_ ∨ _))

instance (tc : ι) (newKey : Key) (n : UInt8) (net : Network ι) :
    ∀ op, Decidable (StepRight tc newKey n net op)
  | .sendNwkKeyUpdateBr | .sendNwkKeySwitch _ => inferInstanceAs (Decidable (_ = _))
  | .sendNwkKeySwitchUnicast _ => inferInstanceAs (Decidable (_ ∧ _))
  | .dataConfirm .. => inferInstanceAs (Decidable (_ → _ ∧ _))
  | .receive .. => inferInstanceAs (Decidable (_ → _ → _))
  | .handle i (.switchKey _) _ =>
    inferInstanceAs (Decidable (_ → if (net.devices i).routerRole = true then Secures ..
      else SwitchLands ..))
  | .sendKeySwNext | .send _ | .handle _ .data _ | .handle _ (.transportKey _) _ => isTrue trivial

/-! ## One device -/

/-- The device is at the old key, or secures with the new one. -/
def DeviceRight (newKey : Key) (n : UInt8) (s : KeyState) : Prop :=
  s.authenticated = true ∧
    (s.activeKeySeqNumber = n ∧
        (s.securMaterialSet s.activeSecurMaterialI).keySeqNumber = n ∨
      Secures newKey (n + 1) s)

variable {tc i : ι} {newKey random : Key} {n k : UInt8} {s : KeyState} {net : Network ι}

theorem next_sub (n : UInt8) : n + 1 - n = 1 := by
  grind

theorem ne_next (n : UInt8) : n ≠ n + 1 := by
  intro same
  have apart := next_sub n
  rw [← same, UInt8.sub_self] at apart
  contradiction

theorem sub_next (n : UInt8) : n - (n + 1) = 255 := by
  grind

theorem Secures.holds (secures : Secures newKey k s) : Holds newKey k s := ⟨_, secures.2⟩

/-- A device that secures with the new key has left the old one. -/
theorem Secures.ne (secures : Secures newKey (n + 1) s) : s.activeKeySeqNumber ≠ n :=
  fun old => ne_next n (old.symm.trans secures.1)

theorem DeviceRight.secures (right : DeviceRight newKey n s) (left : s.activeKeySeqNumber ≠ n) :
    Secures newKey (n + 1) s :=
  right.2.resolve_left fun old => left old.1

theorem SwitchLands.secures (lands : SwitchLands newKey k s) (random : Key) :
    Secures newKey k (nwkKeySwitch k random s) := by
  rw [nwkKeySwitch]
  obtain ⟨i, holds, lacks, earlier⟩ | ⟨all, notTc, secures⟩ := lands
  · rw [keySwitchSearch_eq_some.mpr ⟨lacks, earlier⟩]
    exact ⟨rfl, holds⟩
  · rw [keySwitchSearch_eq_none.mpr all]
    dsimp only
    rw [notTc]
    exact secures

/-- Frames under the two numbers of the update: the new one is newer at the old key, and
nothing else is newer. -/
theorem newer_iff (right : DeviceRight newKey n s) :
    newer (n + 1) s = true ↔ s.activeKeySeqNumber = n := by
  rw [newer, decide_eq_true_eq]
  constructor
  · intro newer_
    by_contra left
    exact newer_.1 (right.secures left).1.symm
  · intro old
    rw [old, next_sub]
    exact ⟨(ne_next n).symm, by decide⟩

theorem newer_old (right : DeviceRight newKey n s) : newer n s = false := by
  rw [newer, decide_eq_false_iff_not]
  rintro ⟨differs, near⟩
  rw [(right.secures differs.symm).1, sub_next] at near
  exact absurd near (by decide)

/-- An older number never switches. -/
theorem implicitKeySwitch_eq :
    implicitKeySwitch k random s = if newer k s then nwkKeySwitch k random s else s := by
  by_cases near : k ≠ s.activeKeySeqNumber ∧ k - s.activeKeySeqNumber < 127
  · rw [implicitKeySwitch, if_pos near, newer, decide_eq_true near, if_pos rfl]
  · rw [implicitKeySwitch, if_neg near, newer, decide_eq_false near, if_neg Bool.false_ne_true]

/-- A transported key is the new one. -/
def Carries (newKey : Key) (k : UInt8) (ind : TransportKeyIndication) : Prop :=
  ind.key = newKey ∧ ind.keySeqNumber = k

theorem storeTransportedKey_old (old : s.activeKeySeqNumber = n)
    (slot : (s.securMaterialSet s.activeSecurMaterialI).keySeqNumber = n) :
    (storeTransportedKey newKey (n + 1) s).activeKeySeqNumber = n ∧
      ((storeTransportedKey newKey (n + 1) s).securMaterialSet
        (storeTransportedKey newKey (n + 1) s).activeSecurMaterialI).keySeqNumber = n := by
  have beside : transportSlot (n + 1) s ≠ s.activeSecurMaterialI := by
    rw [transportSlot, old, next_sub]
    generalize s.activeSecurMaterialI = i
    decide +revert
  rw [storeTransportedKey_activeKeySeqNumber, if_neg beside, storeTransportedKey_securMaterialSet,
    storeTransportedKey_activeSecurMaterialI, Function.update_of_ne beside.symm]
  exact ⟨old, slot⟩

/-- A device that has switched stores it where it is. -/
theorem storeTransportedKey_new (secures : Secures newKey k s) :
    Secures newKey k (storeTransportedKey newKey k s) := by
  have here : transportSlot k s = s.activeSecurMaterialI := by
    rw [transportSlot, secures.1, UInt8.sub_self]
    generalize s.activeSecurMaterialI = i
    decide +revert
  refine ⟨?_, ?_⟩
  · rw [storeTransportedKey_activeKeySeqNumber, if_pos here]
  · rw [storeTransportedKey_securMaterialSet, storeTransportedKey_activeSecurMaterialI, here,
      Function.update_self]

theorem storeTransportedKey_authenticated {key : Key} :
    (storeTransportedKey key k s).authenticated = s.authenticated := by
  rw [storeTransportedKey]
  split_ifs <;> rfl

/-- A transported key leaves a device right, and one that secures with the new key stays
so. -/
theorem DeviceRight.transported {ind : TransportKeyIndication} (right : DeviceRight newKey n s)
    (carries : Carries newKey (n + 1) ind) :
    DeviceRight newKey n (transportKeyIndication ind s) ∧
      (Secures newKey (n + 1) s → Secures newKey (n + 1) (transportKeyIndication ind s)) := by
  obtain same | ⟨learned, known, cases_⟩ := transportKeyIndication_cases ind s
  · rw [same]
    exact ⟨right, id⟩
  · have right' : DeviceRight newKey n learned := by
      rw [known, learnTrustCenter]
      split_ifs <;> exact right
    have secures' : Secures newKey (n + 1) s → Secures newKey (n + 1) learned := by
      rw [known, learnTrustCenter]
      split_ifs <;> exact id
    obtain confirmed | stored := cases_
    · rw [confirmed, authenticate, if_pos right'.1]
      exact ⟨right', secures'⟩
    · have authenticated : (storeTransportedKey ind.key ind.keySeqNumber learned).authenticated =
          true := storeTransportedKey_authenticated.trans right'.1
      rw [stored, authenticate, if_pos authenticated, carries.1, carries.2]
      rw [carries.1, carries.2] at authenticated
      refine ⟨⟨authenticated, ?_⟩, fun secures => storeTransportedKey_new (secures' secures)⟩
      exact right'.2.imp (fun old => storeTransportedKey_old old.1 old.2) storeTransportedKey_new

end Zboss.KeyUpdate
