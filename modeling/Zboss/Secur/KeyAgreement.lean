import Zboss.Secur.KeyUpdate

/-!
A network key update reaches agreement.  Until a device switches it keeps the old key
active, and only the trust centre's own key state decides when the update ends; the
messages on their way never carry anything but the new key and its number.
-/

namespace Zboss.KeyUpdate

open Zboss.AddressTable (IeeeAddr)
open Zboss.KeyStore Zboss.Nonce Zboss.Run

variable {ι : Type*} [DecidableEq ι]

/-! ## The invariant -/

/-- The keys of the devices, with who was told and what the trust centre switched to. -/
structure KeysUpdating (tc : ι) (newKey : Key) (n : UInt8) (keys : ι → KeyState)
    (told : List (ι × UInt8)) (switches : List UInt8) : Prop where
  devices : ∀ i, DeviceRight newKey n (keys i)
  obeyed : ∀ i, (i, n + 1) ∈ told → Secures newKey (n + 1) (keys i)
  next : (keys tc).activeKeySeqNumber = n → nwkKeyBySeq (n + 1) (keys tc) = some newKey
  tcTold : (keys tc).activeKeySeqNumber ≠ n → (tc, n + 1) ∈ told
  once : switches = if (tc, n + 1) ∈ told then [n + 1] else []

/-- Every command is of this update. -/
def ContentRight (newKey : Key) (k : UInt8) : Content → Prop
  | .data => True
  | .transportKey ind => Carries newKey k ind
  | .switchKey q => q = k

/-- The messages on their way; the trust centre gets no commands. -/
structure MessagesUpdating (tc : ι) (newKey : Key) (n : UInt8) (outbox : List (Outgoing ι))
    (air : List Frame) (inbox : List (ι × Content)) : Prop where
  posted : ∀ out ∈ outbox, ContentRight newKey (n + 1) out.content ∧
    ∀ q ∈ out.auxSeq, q = n ∨ q = n + 1
  sent : ∀ frame ∈ air, ContentRight newKey (n + 1) frame.content ∧
    (frame.keySeqNumber = n ∨ frame.keySeqNumber = n + 1)
  received : ∀ got ∈ inbox, ContentRight newKey (n + 1) got.2 ∧ (got.1 = tc → got.2 = .data)

/-- What every step that meets the condition keeps. -/
structure Updating (tc : ι) (newKey : Key) (n : UInt8) (net : Network ι) : Prop where
  keys : KeysUpdating tc newKey n net.keys net.told net.switches
  messages : MessagesUpdating tc newKey n net.outbox net.air net.inbox
  iterating : net.iterating = true → (net.keys tc).activeKeySeqNumber ≠ n

variable {tc i : ι} {newKey random : Key} {n k : UInt8} {s : KeyState} {net : Network ι}
  {keys : ι → KeyState} {told : List (ι × UInt8)} {switches : List UInt8}

@[simp] theorem setKeys_keys : (net.setKeys i s).keys = Function.update net.keys i s := by
  funext j
  by_cases here : j = i
  · subst here
    simp [Network.keys, Network.setKeys]
  · simp [Network.keys, Network.setKeys, here]

/-! ## One device at a time -/

/-- A device's keys may change as long as it stays right, and the trust centre's as long as
it goes on at the same key. -/
theorem KeysUpdating.move (updating : KeysUpdating tc newKey n keys told switches)
    (right : DeviceRight newKey n s)
    (secures : Secures newKey (n + 1) (keys i) → Secures newKey (n + 1) s)
    (same : i = tc → s.activeKeySeqNumber = (keys tc).activeKeySeqNumber ∧
      nwkKeyBySeq (n + 1) s = nwkKeyBySeq (n + 1) (keys tc)) :
    KeysUpdating tc newKey n (Function.update keys i s) told switches := by
  have tc_ : (Function.update keys i s tc).activeKeySeqNumber = (keys tc).activeKeySeqNumber ∧
      nwkKeyBySeq (n + 1) (Function.update keys i s tc) = nwkKeyBySeq (n + 1) (keys tc) := by
    by_cases here : i = tc
    · rw [← here, Function.update_self, here]
      exact same here
    · rw [Function.update_of_ne (Ne.symm here)]
      exact ⟨rfl, rfl⟩
  constructor
  · intro j
    by_cases here : j = i
    · rw [here, Function.update_self]
      exact right
    · rw [Function.update_of_ne here]
      exact updating.devices j
  · intro j told_
    by_cases here : j = i
    · subst here
      rw [Function.update_self]
      exact secures (updating.obeyed j told_)
    · rw [Function.update_of_ne here]
      exact updating.obeyed j told_
  · rw [tc_.1, tc_.2]
    exact updating.next
  · rw [tc_.1]
    exact updating.tcTold
  · exact updating.once

/-- A device takes up the new key as it is told to; the trust centre does so once. -/
theorem KeysUpdating.takeUp (updating : KeysUpdating tc newKey n keys told switches)
    (authenticated : s.authenticated = true) (secures : Secures newKey (n + 1) s) :
    KeysUpdating tc newKey n (Function.update keys i s) (told ++ [(i, n + 1)])
      (switches ++ if i = tc ∧ (keys tc).activeKeySeqNumber = n then [n + 1] else []) := by
  have mem : ∀ j, (j, n + 1) ∈ told ++ [(i, n + 1)] ↔ (j, n + 1) ∈ told ∨ j = i := by simp
  constructor
  · intro j
    by_cases here : j = i
    · rw [here, Function.update_self]
      exact ⟨authenticated, .inr secures⟩
    · rw [Function.update_of_ne here]
      exact updating.devices j
  · intro j told_
    by_cases here : j = i
    · rw [here, Function.update_self]
      exact secures
    · rw [Function.update_of_ne here]
      exact updating.obeyed j (((mem j).mp told_).resolve_right here)
  · intro old
    by_cases here : i = tc
    · rw [here, Function.update_self] at old
      exact absurd old secures.ne
    · rw [Function.update_of_ne (Ne.symm here)] at old ⊢
      exact updating.next old
  · intro left
    by_cases here : tc = i
    · exact (mem tc).mpr (.inr here)
    · rw [Function.update_of_ne here] at left
      exact (mem tc).mpr (.inl (updating.tcTold left))
  · rw [updating.once]
    by_cases here : i = tc
    · rw [if_pos ((mem tc).mpr (.inr here.symm))]
      by_cases old : (keys tc).activeKeySeqNumber = n
      · have new : (tc, n + 1) ∉ told := fun told_ => (updating.obeyed tc told_).ne old
        rw [if_neg new, if_pos ⟨here, old⟩, List.nil_append]
      · rw [if_pos (updating.tcTold old), if_neg fun both => old both.2, List.append_nil]
    · rw [if_neg (fun both => here both.1 : ¬ (i = tc ∧ _)), List.append_nil]
      have same : (tc, n + 1) ∈ told ++ [(i, n + 1)] ↔ (tc, n + 1) ∈ told := by
        rw [mem, or_iff_left (Ne.symm here)]
      simp only [same]

/-- Frames under the old key tell nobody to switch. -/
theorem KeysUpdating.tellOld (updating : KeysUpdating tc newKey n keys told switches) (i : ι) :
    KeysUpdating tc newKey n keys (told ++ [(i, n)]) switches := by
  have mem : ∀ j, (j, n + 1) ∈ told ++ [(i, n)] ↔ (j, n + 1) ∈ told := fun j => by
    rw [List.mem_append, List.mem_singleton, Prod.mk.injEq]
    exact or_iff_left fun both => ne_next n both.2.symm
  refine ⟨updating.devices, fun j told_ => updating.obeyed j ((mem j).mp told_), updating.next,
    fun left => (mem tc).mpr (updating.tcTold left), ?_⟩
  simp only [mem]
  exact updating.once

/-! ## Messages -/

section Messages

variable {outbox : List (Outgoing ι)} {air : List Frame} {inbox : List (ι × Content)}

omit [DecidableEq ι] in
theorem MessagesUpdating.post (messages : MessagesUpdating tc newKey n outbox air inbox)
    {out : Outgoing ι} (right : ContentRight newKey (n + 1) out.content)
    (number : ∀ q ∈ out.auxSeq, q = n ∨ q = n + 1) :
    MessagesUpdating tc newKey n (outbox ++ [out]) air inbox := by
  refine ⟨fun out' mem => ?_, messages.sent, messages.received⟩
  obtain old | new := List.mem_append.mp mem
  · exact messages.posted out' old
  · rw [List.mem_singleton.mp new]
    exact ⟨right, number⟩

omit [DecidableEq ι] in
/-- A router has a frame to forward, and the receiver has a command to handle. -/
theorem MessagesUpdating.arrive (messages : MessagesUpdating tc newKey n outbox air inbox)
    {frame : Frame} (mem : frame ∈ air) (other : i = tc → frame.content = .data)
    (forwards mine : Bool) :
    MessagesUpdating tc newKey n
      (outbox ++ if forwards then [⟨i, some frame.keySeqNumber, frame.content⟩] else []) air
      (inbox ++ if mine then [(i, frame.content)] else []) := by
  obtain ⟨right, number⟩ := messages.sent frame mem
  refine ⟨fun out posted => ?_, messages.sent, fun got received => ?_⟩
  · obtain old | new := List.mem_append.mp posted
    · exact messages.posted out old
    · split_ifs at new
      · rw [List.mem_singleton.mp new]
        refine ⟨right, fun q named => ?_⟩
        cases named
        exact number
      · cases new
  · obtain old | new := List.mem_append.mp received
    · exact messages.received got old
    · split_ifs at new
      · rw [List.mem_singleton.mp new]
        exact ⟨right, other⟩
      · cases new

theorem MessagesUpdating.erase (messages : MessagesUpdating tc newKey n outbox air inbox)
    (got : ι × Content) : MessagesUpdating tc newKey n outbox air (inbox.erase got) :=
  ⟨messages.posted, messages.sent, fun got' mem => messages.received got' (List.mem_of_mem_erase mem)⟩

end Messages

/-! ## Steps -/

theorem updating_sendNwkKeyUpdateBr (updating : Updating tc newKey n net)
    (old : (net.keys tc).activeKeySeqNumber = n) :
    Updating tc newKey n (sendNwkKeyUpdateBr tc net) := by
  have next := updating.keys.next old
  rw [sendNwkKeyUpdateBr]
  dsimp only
  rw [old, next]
  exact ⟨updating.keys, updating.messages.post ⟨rfl, rfl⟩ (fun _ none_ => by contradiction),
    updating.iterating⟩

theorem updating_sendNwkKeySwitch (updating : Updating tc newKey n net)
    (old : (net.keys tc).activeKeySeqNumber = n) (param : ℕ) :
    Updating tc newKey n (sendNwkKeySwitch tc param net) := by
  have right : ContentRight newKey (n + 1)
      (.switchKey ((net.keys tc).activeKeySeqNumber + 1)) := by rw [old]; rfl
  exact ⟨updating.keys, updating.messages.post right (fun _ none_ => by contradiction),
    updating.iterating⟩

/-- The trust centre switches from the old key to the new one. -/
theorem updating_switchNext (updating : Updating tc newKey n net)
    (old : (net.keys tc).activeKeySeqNumber = n)
    (lands : SwitchLands newKey (n + 1) (net.keys tc)) (random : Key) :
    Updating tc newKey n (switchNext tc random net) ∧
      ((switchNext tc random net).keys tc).activeKeySeqNumber ≠ n := by
  have secures := lands.secures random
  have authenticated : (nwkKeySwitch (n + 1) random (net.keys tc)).authenticated = true :=
    step_authenticated (.switchKey (n + 1) random) (updating.keys.devices tc).1
  have taken := updating.keys.takeUp (i := tc) authenticated secures
  rw [if_pos ⟨rfl, old⟩] at taken
  have left : ((switchNext tc random net).keys tc).activeKeySeqNumber ≠ n := by
    change ((net.setKeys tc _).keys tc).activeKeySeqNumber ≠ n
    rw [setKeys_keys, Function.update_self, old]
    exact secures.ne
  refine ⟨⟨?_, updating.messages, fun _ => left⟩, left⟩
  change KeysUpdating tc newKey n (net.setKeys tc _).keys (net.told ++ [(tc, _)])
    (net.switches ++ [_])
  rw [setKeys_keys, old]
  exact taken

theorem updating_sendKeySwNext (updating : Updating tc newKey n net) :
    Updating tc newKey n (sendKeySwNext tc net) := by
  rw [sendKeySwNext]
  split_ifs with iterating
  · have secures := (updating.keys.devices tc).secures (updating.iterating iterating)
    exact ⟨updating.keys, updating.messages.post secures.1 (fun _ none_ => by contradiction),
      updating.iterating⟩
  · exact updating

/-- Securing a frame draws a counter and nothing else. -/
theorem nwkSecureFrame_keys (extendedAddress : IeeeAddr) (content : Content) (auxSeq : UInt8)
    (s : KeyState) :
    ∃ outgoing prev, (nwkSecureFrame extendedAddress content true auxSeq s).1 =
      { s with outgoingFrameCounter := outgoing, prevOutgoingFrameCounter := prev } := by
  rw [nwkSecureFrame]
  split_ifs
  · exact ⟨_, _, rfl⟩
  · exact ⟨_, _, rfl⟩

theorem updating_transmit (updating : Updating tc newKey n net) {out : Outgoing ι}
    (right : ContentRight newKey (n + 1) out.content)
    (number : ∀ q ∈ out.auxSeq, q = n ∨ q = n + 1) :
    Updating tc newKey n (transmit out net) := by
  have device := updating.keys.devices out.sender
  have auxSeq : out.auxSeq.getD (net.keys out.sender).activeKeySeqNumber = n ∨
      out.auxSeq.getD (net.keys out.sender).activeKeySeqNumber = n + 1 := by
    cases forwarded : out.auxSeq with
    | some q => exact number q forwarded
    | none => exact device.2.imp And.left And.left
  rw [transmit]
  dsimp only
  obtain ⟨outgoing, prev, drawn⟩ :=
    nwkSecureFrame_keys (net.devices out.sender).extendedAddress out.content
      (out.auxSeq.getD (net.keys out.sender).activeKeySeqNumber) (net.keys out.sender)
  generalize nwkSecureFrame (net.devices out.sender).extendedAddress out.content true
    (out.auxSeq.getD (net.keys out.sender).activeKeySeqNumber) (net.keys out.sender) = secured
    at drawn ⊢
  obtain ⟨s', sent⟩ := secured
  dsimp only at drawn ⊢
  subst drawn
  refine ⟨?_, ⟨updating.messages.posted, fun frame mem => ?_, updating.messages.received⟩, ?_⟩
  · change KeysUpdating tc newKey n (net.setKeys out.sender _).keys net.told net.switches
    rw [setKeys_keys]
    refine updating.keys.move device id fun here => ?_
    rw [← here]
    exact ⟨rfl, rfl⟩
  · obtain old | new := List.mem_append.mp mem
    · exact updating.messages.sent frame old
    · obtain ⟨_, -, rfl⟩ := List.mem_map.mp new
      exact ⟨right, auxSeq⟩
  · intro iterating
    change ((net.setKeys out.sender _).keys tc).activeKeySeqNumber ≠ n
    rw [setKeys_keys]
    by_cases here : tc = out.sender
    · subst here
      rw [Function.update_self]
      exact updating.iterating iterating
    · rw [Function.update_of_ne here]
      exact updating.iterating iterating

/-- A frame under the new number has the device take up the new key. -/
theorem DeviceRight.implicitKeySwitch (right : DeviceRight newKey n s)
    (lands : newer (n + 1) s = true → SwitchLands newKey (n + 1) s) (random : Key) :
    (implicitKeySwitch (n + 1) random s).authenticated = true ∧
      Secures newKey (n + 1) (implicitKeySwitch (n + 1) random s) := by
  rw [implicitKeySwitch_eq]
  split_ifs with newer_
  · exact ⟨step_authenticated (.switchKey (n + 1) random) right.1, (lands newer_).secures random⟩
  · exact ⟨right.1, right.secures fun old => newer_ ((newer_iff right).mpr old)⟩

theorem updating_receive (updating : Updating tc newKey n net) {frame : Frame} (mine : Bool)
    (random : Key)
    (lands : arrives tc i frame net = true → newer frame.keySeqNumber (net.keys i) = true →
      SwitchLands newKey (n + 1) (net.keys i)) :
    Updating tc newKey n (receive tc i frame mine random net) := by
  rw [receive]
  by_cases arrived : arrives tc i frame net = true
  · rw [if_pos arrived]
    have device := updating.keys.devices i
    have lands_ := lands arrived
    rw [arrives, Bool.and_eq_true, Bool.and_eq_true, decide_eq_true_eq] at arrived
    obtain ⟨⟨mem, notMine⟩, -⟩ := arrived
    have other : i = tc → frame.content = .data := fun here => by
      cases content : frame.content with
      | data => rfl
      | transportKey ind => simp [here, content, Content.isCommand] at notMine
      | switchKey q => simp [here, content, Content.isCommand] at notMine
    have messages := updating.messages.arrive mem other (net.devices i).routerRole mine
    obtain old | new := (updating.messages.sent frame mem).2
    · rw [old] at messages lands_ ⊢
      have stays : implicitKeySwitch n random (net.keys i) = net.keys i := by
        rw [implicitKeySwitch_eq, newer_old device, if_neg Bool.false_ne_true]
      have same : (net.setKeys i (implicitKeySwitch n random (net.keys i))).keys = net.keys := by
        rw [setKeys_keys, stays, Function.update_eq_self]
      refine ⟨?_, messages, fun iterating => ?_⟩
      · change KeysUpdating tc newKey n (net.setKeys i _).keys (net.told ++ _) (net.switches ++ _)
        rw [same, newer_old device, if_neg fun both => Bool.false_ne_true both.2, List.append_nil]
        exact updating.keys.tellOld i
      · change ((net.setKeys i _).keys tc).activeKeySeqNumber ≠ n
        rw [same]
        exact updating.iterating iterating
    · rw [new] at messages lands_ ⊢
      obtain ⟨authenticated, secures⟩ := device.implicitKeySwitch lands_ random
      have when_ : (i = tc ∧ newer (n + 1) (net.keys i) = true) ↔
          (i = tc ∧ (net.keys tc).activeKeySeqNumber = n) :=
        and_congr_right fun here => by rw [newer_iff device, here]
      refine ⟨?_, messages, fun iterating => ?_⟩
      · change KeysUpdating tc newKey n (net.setKeys i _).keys (net.told ++ _) (net.switches ++ _)
        rw [setKeys_keys]
        simp only [when_]
        exact updating.keys.takeUp authenticated secures
      · change ((net.setKeys i _).keys tc).activeKeySeqNumber ≠ n
        rw [setKeys_keys]
        by_cases here : tc = i
        · subst here
          rw [Function.update_self]
          exact secures.ne
        · rw [Function.update_of_ne here]
          exact updating.iterating iterating
  · rw [if_neg arrived]
    exact updating

theorem updating_handleCommand (updating : Updating tc newKey n net) {content : Content}
    (right : ContentRight newKey (n + 1) content) (other : i = tc → content = .data)
    (lands : ∀ q, content = .switchKey q → if (net.devices i).routerRole = true then
      Secures newKey (n + 1) (net.keys i) else SwitchLands newKey (n + 1) (net.keys i))
    (random : Key) :
    Updating tc newKey n (handleCommand i random net content) := by
  cases content with
  | data => exact updating
  | transportKey ind =>
    have other_ : i ≠ tc := fun here => by cases other here
    rw [handleCommand]
    split_ifs
    · exact updating
    · obtain ⟨device, secures⟩ := (updating.keys.devices i).transported right
      refine ⟨?_, updating.messages, fun iterating => ?_⟩
      · rw [setKeys_keys]
        exact updating.keys.move device secures fun here => absurd here other_
      · rw [setKeys_keys, Function.update_of_ne other_.symm]
        exact updating.iterating iterating
  | switchKey q =>
    have other_ : i ≠ tc := fun here => by cases other here
    cases right
    have lands_ := lands _ rfl
    rw [handleCommand]
    split_ifs at lands_ ⊢ with router
    · have taken := updating.keys.takeUp (i := i) (updating.keys.devices i).1 lands_
      rw [Function.update_eq_self, if_neg fun both => other_ both.1, List.append_nil] at taken
      exact ⟨taken, updating.messages, updating.iterating⟩
    · have authenticated : (nwkKeySwitch (n + 1) random (net.keys i)).authenticated = true :=
        step_authenticated (.switchKey (n + 1) random) (updating.keys.devices i).1
      have taken := updating.keys.takeUp (i := i) authenticated (lands_.secures random)
      rw [if_neg fun both => other_ both.1, List.append_nil] at taken
      refine ⟨?_, updating.messages, fun iterating => ?_⟩
      · change KeysUpdating tc newKey n (net.setKeys i _).keys (net.told ++ _) net.switches
        rw [setKeys_keys]
        exact taken
      · change ((net.setKeys i _).keys tc).activeKeySeqNumber ≠ n
        rw [setKeys_keys, Function.update_of_ne other_.symm]
        exact updating.iterating iterating

/-- Every step that meets the condition keeps the invariant. -/
theorem updating_step (updating : Updating tc newKey n net) (op : Op ι)
    (right : StepRight tc newKey n net op) : Updating tc newKey n (step tc net op) := by
  cases op with
  | sendNwkKeyUpdateBr => exact updating_sendNwkKeyUpdateBr updating right
  | sendNwkKeySwitch param => exact updating_sendNwkKeySwitch updating right param
  | sendNwkKeySwitchUnicast random =>
    obtain ⟨switched, left⟩ := updating_switchNext updating right.1 right.2 random
    exact ⟨switched.keys, switched.messages, fun _ => left⟩
  | sendKeySwNext => exact updating_sendKeySwNext updating
  | dataConfirm param random =>
    dsimp only [step]
    rw [dataConfirm]
    split_ifs with pending
    · obtain ⟨old, lands⟩ := right pending
      obtain ⟨switched, -⟩ := updating_switchNext updating old lands random
      exact ⟨switched.keys, switched.messages, switched.iterating⟩
    · exact updating
  | send out =>
    dsimp only [step]
    split_ifs with enabled
    · obtain posted | ⟨own, data⟩ := enabled
      · obtain ⟨content, number⟩ := updating.messages.posted out posted
        exact updating_transmit updating content number
      · refine updating_transmit updating ?_ fun q named => ?_
        · rw [data]
          trivial
        · rw [own] at named
          cases named
    · exact updating
  | receive i frame mine random => exact updating_receive updating mine random right
  | handle i content random =>
    dsimp only [step]
    split_ifs with got
    · obtain ⟨content_, other⟩ := updating.messages.received _ got
      have erased : Updating tc newKey n { net with inbox := net.inbox.erase (i, content) } :=
        ⟨updating.keys, updating.messages.erase _, updating.iterating⟩
      refine updating_handleCommand erased content_ other (fun q same => ?_) random
      subst same
      exact right got
    · exact updating

theorem updating_start (start : Start tc newKey n net) : Updating tc newKey n net := by
  obtain ⟨outbox, air, inbox, -, iterating, told, switches⟩ := start.quiet
  refine ⟨⟨fun i => ?_, fun i told_ => ?_, fun _ => start.next, fun left => ?_, ?_⟩,
    ⟨fun out mem => ?_, fun frame mem => ?_, fun got mem => ?_⟩, fun iterating_ => ?_⟩
  · exact ⟨start.authenticated i, .inl ⟨start.active i, start.slot i⟩⟩
  · rw [told] at told_
    cases told_
  · exact absurd (start.active tc) left
  · rw [told, switches, if_neg List.not_mem_nil]
  · rw [outbox] at mem
    cases mem
  · rw [air] at mem
    cases mem
  · rw [inbox] at mem
    cases mem
  · rw [iterating] at iterating_
    contradiction

/-- **A key update reaches agreement.**  From every network at key number `n`, in every run
whose steps meet the condition: a device that holds the new key secures with it once it
was told to, a device that does not hold it never makes its number active, the trust
centre switches once, and when everybody was told everybody secures with the new key. -/
theorem key_update_agrees (tc : ι) (newKey : Key) (n : UInt8) (net : Network ι)
    (ops : List (Op ι)) (start : Start tc newKey n net)
    (right : Along (step tc) (StepRight tc newKey n) net ops) :
    Agreed tc newKey (n + 1) (run (step tc) net ops) := by
  have keeps : ∀ net op, Updating tc newKey n net → StepRight tc newKey n net op →
      Updating tc newKey n (step tc net op) := fun _ op updating right_ =>
    updating_step updating op right_
  have updating := invariant_of_along keeps net ops (updating_start start) right
  refine ⟨fun i _ told => updating.keys.obeyed i told, fun i missing active => ?_,
    updating.keys.once, fun told i => updating.keys.obeyed i (told i)⟩
  refine missing ((updating.keys.devices i).secures fun old => ?_).holds
  exact ne_next n (old.symm.trans active)

/-! ## A trust centre and one device -/

/-- The trust centre of the examples has generated the keys 0, 1 and 2. -/
def trustCentre : Device where
  routerRole := true
  joinedPro := false
  extendedAddress := ⟨⟨1, 0, 0⟩, ⟨0, 0, 0, 0, 1⟩⟩
  keys := KeyStore.tcInit ⟨⟨1, 0, 0⟩, ⟨0, 0, 0, 0, 1⟩⟩
    (initial (some fun i _ => UInt8.ofNat i + 1))

/-- A device that joined with key 0. -/
def member (routerRole : Bool) : Device where
  routerRole := routerRole
  joinedPro := false
  extendedAddress := ⟨⟨1, 0, 0⟩, ⟨0, 0, 0, 0, 2⟩⟩
  keys := run KeyStore.step (initial none)
    [.transportKey ⟨⟨⟨1, 0, 0⟩, ⟨0, 0, 0, 0, 1⟩⟩, zbStandardNetworkKey, fun _ => 1, 0⟩]

/-- `true` is the trust centre, `false` the other device. -/
def pair (routerRole : Bool) : Network Bool where
  devices := fun tc => if tc then trustCentre else member routerRole
  outbox := []
  air := []
  inbox := []
  keySw := none
  iterating := false
  told := []
  switches := []

def transportOne : Content :=
  .transportKey ⟨⟨⟨1, 0, 0⟩, ⟨0, 0, 0, 0, 1⟩⟩, zbStandardNetworkKey, fun _ => 2, 1⟩

def command (content : Content) : List (Op Bool) :=
  [.send ⟨true, none, content⟩, .receive false ⟨fun _ => 1, 0, content⟩ true fun _ => 0,
    .handle false content fun _ => 0]

/-- The first update: both broadcasts arrive, then the trust centre's confirm. -/
def firstUpdate : List (Op Bool) :=
  [.sendNwkKeyUpdateBr] ++ command transportOne ++ [.sendNwkKeySwitch 1] ++
    command (.switchKey 1) ++ [.dataConfirm 1 fun _ => 0]

theorem pair_start (routerRole : Bool) : Start true (fun _ => 2) 0 (pair routerRole) :=
  ⟨by decide +revert +kernel, by decide +revert +kernel, by decide +revert +kernel,
    by decide +revert +kernel, ⟨rfl, rfl, rfl, rfl, rfl, rfl, rfl⟩⟩

theorem key_update_agrees_firstUpdate :
    Agreed true (fun _ => 2) (0 + 1) (run (step true) (pair false) firstUpdate) :=
  key_update_agrees true (fun _ => 2) 0 (pair false) firstUpdate (pair_start false)
    (by decide +kernel)

/-- A router that was given key 1 drops SWITCH-KEY and stays at key 0. -/
theorem router_keeps_old_key :
    ¬ ∀ (tc : Bool) newKey n net ops, Start tc newKey n net →
      Agreed tc newKey (n + 1) (run (step tc) net ops) := by
  intro agrees
  have agreed := agrees true (fun _ => 2) 0 (pair true) firstUpdate (pair_start true)
  have holds : Holds (fun _ => 2) 1 ((run (step true) (pair true) firstUpdate).keys false) :=
    ⟨1, by decide +kernel⟩
  exact absurd (agreed.switched false holds (by decide +kernel)) (by decide +kernel)

end Zboss.KeyUpdate
