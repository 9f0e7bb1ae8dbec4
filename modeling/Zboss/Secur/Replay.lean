import Zboss.Lib.Run
import Zboss.Lib.Windows
import Zboss.Secur.Unsecure

/-!
Protection against replays.  Each neighbour entry holds the last counter and the key
number it counts under, for NWK and APS together.  The check admits the stored counter
itself, and a frame with another key number starts the count again before it is
authenticated, so frames are accepted twice unless neither happens.
-/

namespace Zboss.Replay

open Zboss.AddressTable (IeeeAddr)
open Zboss.KeyStore Zboss.Run Zboss.Unsecure Zboss.Windows
open Zboss.NeighborTable (Relationship)

/-- An accepted frame: its sender and the key, the address ref and key number it came
under, and its counter. -/
structure Accepted where
  source : IeeeAddr
  key : Key
  addrRef : ℕ
  keySeqNumber : UInt8
  frameCounter : UInt32
  deriving DecidableEq

/-- The device with the frames accepted so far. -/
structure Monitored where
  device : Device
  accepted : List Accepted

/-- What acts on keys and counters.  Other code creates, drops and relabels neighbour
entries. -/
inductive Op
  | nwkFrame (frame : NwkFrame) (addrRef : Option ℕ) (room : Bool) (random : Key)
  | apsFrame (frame : ApsFrame) (addr : Option (ℕ × IeeeAddr)) (room : Bool)
  | keys (op : KeyStore.Op)
  | enter (addrRef : ℕ)
  | forget (addrRef : ℕ)
  | relate (addrRef : ℕ) (relationship : Relationship)

/-- Log a frame that was accepted. -/
def logged (s : KeyState) (source : IeeeAddr) (addrRef : ℕ) (keySeqNumber : UInt8)
    (frameCounter : UInt32) (r : Unsecured) : List Accepted :=
  match r.slot with
  | some i =>
    if r.ok then [⟨source, (s.securMaterialSet i).key, addrRef, keySeqNumber, frameCounter⟩]
    else []
  | none => []

def Device.mapNeighbor (addrRef : ℕ) (change : NeighborSecur → NeighborSecur) (d : Device) :
    Device :=
  match d.neighbors addrRef with
  | some nbe => d.setNeighbor addrRef (change nbe)
  | none => d

def Device.forget (addrRef : ℕ) (d : Device) : Device :=
  { d with neighbors := Function.update d.neighbors addrRef none }

def step (decrypts : Decrypts) (m : Monitored) : Op → Monitored
  | .nwkFrame frame (some ref) room random =>
    let r := nwkUnsecureFrame decrypts frame (some ref) room random m.device
    ⟨r.device, m.accepted ++ logged m.device.keys frame.sourceAddress ref frame.keySeqNumber
      frame.frameCounter r⟩
  | .nwkFrame frame none room random =>
    { m with device := (nwkUnsecureFrame decrypts frame none room random m.device).device }
  | .apsFrame frame (some (ref, source)) room =>
    let r := apsUnsecureFrame decrypts frame (some (ref, source)) room m.device
    ⟨r.device, m.accepted ++ logged m.device.keys source ref frame.keySeqNumber
      frame.frameCounter r⟩
  | .apsFrame frame none room =>
    { m with device := (apsUnsecureFrame decrypts frame none room m.device).device }
  | .keys op => { m with device := { m.device with keys := KeyStore.step m.device.keys op } }
  | .enter ref => { m with device := m.device.setNeighbor ref NeighborSecur.created }
  | .forget ref => { m with device := Device.forget ref m.device }
  | .relate ref relationship =>
    { m with device := Device.mapNeighbor ref ({ · with relationship := relationship }) m.device }

/-- The counters of the frames accepted from one neighbour under one key strictly
increase. -/
def Increasing (accepted : List Accepted) : Prop :=
  accepted.Pairwise fun a b => a.source = b.source → a.key = b.key → a.frameCounter < b.frameCounter

/-- The condition on a frame from `source` that is checked against the entry of `ref`.
Frames accepted before from the neighbour under this key came by the same ref and key
number; an entry frames were accepted by is not lost; and where frames with this number
were accepted by the entry, it still counts under the number and the frame does not
repeat the stored counter. -/
structure FrameRight (m : Monitored) (ref : ℕ) (source : IeeeAddr) (q : UInt8) (c : UInt32) :
    Prop where
  known : ∀ i, slotBySeq q m.device.keys = some i → ∀ a ∈ m.accepted, a.source = source →
    a.key = (m.device.keys.securMaterialSet i).key → a.addrRef = ref ∧ a.keySeqNumber = q
  held : m.device.neighbors ref = none → ∀ a ∈ m.accepted, a.addrRef ≠ ref
  counting : ∀ nbe, m.device.neighbors ref = some nbe →
    nbe.keySeqNumber ≠ q ∨ nbe.incomingFrameCounter = c →
    ∀ a ∈ m.accepted, a.addrRef = ref → a.keySeqNumber ≠ q

/-- The condition on a step. -/
def StepRight (m : Monitored) : Op → Prop
  | .nwkFrame frame (some ref) room _ =>
    m.device.keys.authenticated = true →
      (neighborGet ref (frame.nwkSrcAddr == frame.macSrcAddr) room m.device).isSome →
      FrameRight m ref frame.sourceAddress frame.keySeqNumber frame.frameCounter
  | .apsFrame frame (some (ref, source)) room =>
    (neighborGet ref true room m.device).isSome →
      FrameRight m ref source frame.keySeqNumber frame.frameCounter
  | .enter ref => ∀ a ∈ m.accepted, a.addrRef ≠ ref
  | .nwkFrame _ none _ _ | .apsFrame _ none _ | .keys _ | .forget _ | .relate _ _ => True

instance (m : Monitored) (ref : ℕ) (source : IeeeAddr) (q : UInt8) (c : UInt32) :
    Decidable (FrameRight m ref source q c) :=
  decidable_of_iff
    ((∀ i, slotBySeq q m.device.keys = some i → ∀ a ∈ m.accepted, a.source = source →
        a.key = (m.device.keys.securMaterialSet i).key → a.addrRef = ref ∧ a.keySeqNumber = q) ∧
      (m.device.neighbors ref = none → ∀ a ∈ m.accepted, a.addrRef ≠ ref) ∧
      ∀ nbe ∈ m.device.neighbors ref, nbe.keySeqNumber ≠ q ∨ nbe.incomingFrameCounter = c →
        ∀ a ∈ m.accepted, a.addrRef = ref → a.keySeqNumber ≠ q)
    ⟨fun ⟨known, held, counting⟩ => ⟨known, held, counting⟩,
      fun right => ⟨right.known, right.held, right.counting⟩⟩

instance (m : Monitored) : ∀ op, Decidable (StepRight m op)
  | .nwkFrame _ (some _) _ _ => inferInstanceAs (Decidable (_ → _ → FrameRight ..))
  | .apsFrame _ (some _) _ => inferInstanceAs (Decidable (_ → FrameRight ..))
  | .enter _ => inferInstanceAs (Decidable (∀ _ ∈ _, _))
  | .nwkFrame _ none _ _ | .apsFrame _ none _ | .keys _ | .forget _ | .relate _ _ => isTrue trivial

/-! ## Entries as windows -/

def window (nbe : NeighborSecur) : Window UInt8 ℕ :=
  ⟨nbe.keySeqNumber, nbe.incomingFrameCounter.toNat⟩

/-- The windows of a device. -/
def windows (d : Device) (ref : ℕ) : Option (Window UInt8 ℕ) := (d.neighbors ref).map window

def item (a : Accepted) : Item ℕ UInt8 ℕ := ⟨a.addrRef, a.keySeqNumber, a.frameCounter.toNat⟩

/-- What every step keeps: no accepted frame lies above its window, and the accepted
counters increase. -/
structure Guarded (m : Monitored) : Prop where
  covers : Covers (windows m.device) (m.accepted.map item)
  increasing : Increasing m.accepted

variable {decrypts : Decrypts} {m : Monitored} {d : Device} {nbe counted : NeighborSecur}
  {ref : ℕ} {q : UInt8} {c : UInt32} {log : List Accepted} {source : IeeeAddr}

@[simp] theorem windows_setNeighbor :
    windows (d.setNeighbor ref nbe) = Function.update (windows d) ref (some (window nbe)) := by
  funext r
  by_cases here : r = ref
  · subst here
    simp [windows, Device.setNeighbor]
  · simp [windows, Device.setNeighbor, here]

@[simp] theorem window_doubtChild : window nbe.doubtChild = window nbe := by
  rw [NeighborSecur.doubtChild]
  split_ifs <;> rfl

@[simp] theorem window_trustChild : window nbe.trustChild = window nbe := by
  rw [NeighborSecur.trustChild]
  split_ifs <;> rfl

/-- Following a key number leaves an entry that counts under it already, and starts the
count of any other. -/
theorem window_followKey (nbe : NeighborSecur) (q : UInt8) :
    window (nbe.followKey q) = if nbe.keySeqNumber = q then window nbe else ⟨q, 0⟩ := by
  rw [NeighborSecur.followKey]
  by_cases same : nbe.keySeqNumber = q
  · rw [if_neg (not_not.mpr same), if_pos same]
  · rw [if_pos same, if_neg same]
    rfl

@[simp] theorem window_doubtChild_followKey :
    window (nbe.doubtChild.followKey q) = window (nbe.followKey q) := by
  have same : nbe.doubtChild.keySeqNumber = nbe.keySeqNumber :=
    congrArg Window.stream window_doubtChild
  rw [window_followKey, window_followKey, window_doubtChild, same]

/-- The check raises the count within its key number. -/
theorem window_count (counts : nbe.count c = some counted) :
    (window nbe).count ≤ c.toNat ∧ window counted = ⟨nbe.keySeqNumber, c.toNat⟩ := by
  rw [NeighborSecur.count] at counts
  split_ifs at counts with refused
  rw [not_or, gt_iff_lt, UInt32.not_lt, UInt32.le_iff_toNat_le] at refused
  cases counts
  exact ⟨refused.1, rfl⟩

/-! ## One frame -/

/-- The entry a frame is checked against is there already, or is created. -/
theorem neighborGet_cases {create room : Bool} (got : neighborGet ref create room d = some nbe) :
    d.neighbors ref = some nbe ∨ d.neighbors ref = none ∧ nbe = NeighborSecur.created := by
  rw [neighborGet] at got
  split at got
  · rename_i there
    exact .inl (there.trans got)
  · rename_i absent
    split_ifs at got
    exact .inr ⟨absent, (Option.some.inj got).symm⟩

section Frame

variable {create room : Bool} (guarded : Guarded m) (right : FrameRight m ref source q c)
  (got : neighborGet ref create room m.device = some nbe)

include guarded right got

/-- The log stays covered when the entry is there as it was, or follows the key. -/
theorem covers_followed (w : Window UInt8 ℕ)
    (followed : w = window nbe ∨ w = window (nbe.followKey q)) :
    Covers (Function.update (windows m.device) ref (some w)) (m.accepted.map item) := by
  obtain there | ⟨absent, -⟩ := neighborGet_cases got
  · have here : windows m.device ref = some (window nbe) := by rw [windows, there]; rfl
    have stays : Covers (Function.update (windows m.device) ref (some (window nbe)))
        (m.accepted.map item) := guarded.covers.raise here rfl le_rfl
    obtain rfl | rfl := followed
    · exact stays
    · rw [window_followKey]
      split_ifs with same
      · exact stays
      · refine guarded.covers.start fun item_ mem channel => ?_
        obtain ⟨a, logged_, rfl⟩ := List.mem_map.mp mem
        exact right.counting nbe there (.inl same) a logged_ channel
  · refine guarded.covers.start fun item_ mem channel => ?_
    obtain ⟨a, logged_, rfl⟩ := List.mem_map.mp mem
    exact absurd channel (right.held absent a logged_)

/-- Counting the frame raises the window. -/
theorem covers_counted {followed : NeighborSecur}
    (follows : followed = nbe.doubtChild.followKey q ∨ followed = nbe.followKey q ∨ followed = nbe)
    (counts : followed.count c = some counted) :
    Covers (windows (m.device.setNeighbor ref counted)) (m.accepted.map item) := by
  have window_ : window followed = window nbe ∨ window followed = window (nbe.followKey q) := by
    obtain rfl | rfl | rfl := follows
    · exact .inr window_doubtChild_followKey
    · exact .inr rfl
    · exact .inl rfl
  have covers := covers_followed guarded right got (window followed) window_
  obtain ⟨above, counted_⟩ := window_count counts
  have same : (window counted).stream = (window followed).stream := by rw [counted_]; rfl
  have raised := covers.raise (Function.update_self ..) same (by rw [counted_]; exact above)
  rwa [Function.update_idem, ← windows_setNeighbor] at raised

/-- A frame that passes the check exceeds all accepted ones of its neighbour and key. -/
theorem newer {followed : NeighborSecur} {i : Slot}
    (follows : window followed = window (nbe.followKey q))
    (found : slotBySeq q m.device.keys = some i) (counts : followed.count c = some counted) :
    ∀ a ∈ m.accepted, a.source = source → a.key = (m.device.keys.securMaterialSet i).key →
      a.frameCounter < c := by
  intro a logged_ source_ key_
  obtain ⟨ref_, number⟩ := right.known i found a logged_ source_ key_
  obtain there | ⟨absent, -⟩ := neighborGet_cases got
  · have usable : nbe.keySeqNumber = q ∧ nbe.incomingFrameCounter ≠ c := by
      rw [← not_not (a := nbe.keySeqNumber = q), ← not_or]
      exact fun stale => right.counting nbe there stale a logged_ ref_ number
    have here : windows m.device a.addrRef = some (window nbe) := by rw [windows, ref_, there]; rfl
    have below : a.frameCounter.toNat ≤ nbe.incomingFrameCounter.toNat :=
      guarded.covers (item a) (List.mem_map_of_mem logged_) (window nbe) here
        (usable.1.trans number.symm)
    have above : nbe.incomingFrameCounter.toNat ≤ c.toNat := by
      have counted_ := (window_count counts).1
      rwa [follows, window_followKey, if_pos usable.1] at counted_
    have differs : nbe.incomingFrameCounter.toNat ≠ c.toNat := fun same =>
      usable.2 (UInt32.toNat_inj.mp same)
    rw [UInt32.lt_iff_toNat_lt]
    omega
  · exact absurd ref_ (right.held absent a logged_)

theorem guarded_accept {followed after : NeighborSecur} {i : Slot} {s' : KeyState}
    (follows : followed = nbe.doubtChild.followKey q ∨ followed = nbe.followKey q)
    (found : slotBySeq q m.device.keys = some i) (counts : followed.count c = some counted)
    (same : window after = window counted) :
    Guarded ⟨⟨s', (m.device.setNeighbor ref after).neighbors⟩,
      m.accepted ++ [⟨source, (m.device.keys.securMaterialSet i).key, ref, q, c⟩]⟩ := by
  have window_ : window followed = window (nbe.followKey q) := by
    obtain rfl | rfl := follows
    · exact window_doubtChild_followKey
    · rfl
  have number : followed.keySeqNumber = q := by
    have stream := congrArg Window.stream (window_.trans (window_followKey nbe q))
    split_ifs at stream with already
    · exact stream.trans already
    · exact stream
  constructor
  · have covers := covers_counted guarded right got (follows.imp_right .inl) counts
    have here : windows (m.device.setNeighbor ref counted) ref = some ⟨q, c.toNat⟩ := by
      rw [windows_setNeighbor, Function.update_self, (window_count counts).2, number]
    have appended := covers.append here
    have unchanged : windows ⟨s', (m.device.setNeighbor ref after).neighbors⟩ =
        windows (m.device.setNeighbor ref counted) := by
      change windows (m.device.setNeighbor ref after) = _
      rw [windows_setNeighbor, windows_setNeighbor, same]
    rw [unchanged, List.map_append]
    exact appended
  · refine List.pairwise_append.mpr ⟨guarded.increasing, List.pairwise_singleton .., ?_⟩
    intro a logged_ b new source_ key_
    rw [List.mem_singleton.mp new] at source_ key_ ⊢
    exact newer guarded right got window_ found counts a logged_ source_ key_

end Frame

/-! ## Runs -/

theorem guarded_nwkFrame (guarded : Guarded m) (frame : NwkFrame) (room : Bool) (random : Key)
    (right : StepRight m (.nwkFrame frame (some ref) room random)) :
    Guarded (step decrypts m (.nwkFrame frame (some ref) room random)) := by
  obtain dropped | ⟨_, nbe, authenticated, same, got, checked⟩ :=
    nwkUnsecureFrame_cases decrypts frame (some ref) room random m.device
  · simpa only [step, dropped, logged, List.append_nil] using guarded
  · cases same
    have right_ := right authenticated (Option.isSome_of_mem got)
    obtain rejected | ⟨i, counted, found, counts, ⟨slot, tried, failed⟩ | ok⟩ := checked
    · simp only [step, rejected, logged, List.append_nil]
      refine ⟨?_, guarded.increasing⟩
      rw [windows_setNeighbor, window_doubtChild_followKey]
      exact covers_followed guarded right_ got _ (.inr rfl)
    · have nothing : logged m.device.keys frame.sourceAddress ref frame.keySeqNumber
          frame.frameCounter ⟨m.device.setNeighbor ref counted, slot, false⟩ = [] := by
        obtain rfl | rfl := tried <;> rfl
      simp only [step, failed, nothing, List.append_nil]
      exact ⟨covers_counted guarded right_ got (.inl rfl) counts, guarded.increasing⟩
    · simp only [step, ok, logged, if_true]
      exact guarded_accept guarded right_ got (.inl rfl) found counts window_trustChild

theorem guarded_apsFrame (guarded : Guarded m) (frame : ApsFrame) (room : Bool)
    (right : StepRight m (.apsFrame frame (some (ref, source)) room)) :
    Guarded (step decrypts m (.apsFrame frame (some (ref, source)) room)) := by
  obtain dropped | ⟨_, _, nbe, followed, same, got, follows, checked⟩ :=
    apsUnsecureFrame_cases decrypts frame (some (ref, source)) room m.device
  · simpa only [step, dropped, logged, List.append_nil] using guarded
  · cases same
    have right_ := right (Option.isSome_of_mem got)
    obtain rejected | ⟨counted, counts, failed | ⟨i, ok, found, follows_, tried⟩⟩ := checked
    · simp only [step, rejected, logged, List.append_nil]
      refine ⟨?_, guarded.increasing⟩
      rw [windows_setNeighbor]
      refine covers_followed guarded right_ got _ ?_
      obtain rfl | rfl := follows
      · exact .inr rfl
      · exact .inl rfl
    · simp only [step, failed, logged, List.append_nil]
      exact ⟨covers_counted guarded right_ got (.inr follows) counts, guarded.increasing⟩
    · cases ok with
      | false =>
        simp only [step, tried, logged, Bool.false_eq_true, if_false, List.append_nil]
        exact ⟨covers_counted guarded right_ got (.inr follows) counts, guarded.increasing⟩
      | true =>
        simp only [step, tried, logged, if_true]
        exact guarded_accept guarded right_ got (.inr follows_) found counts rfl

/-- Every step that meets the condition keeps the guard. -/
theorem guarded_step (guarded : Guarded m) (op : Op) (right : StepRight m op) :
    Guarded (step decrypts m op) := by
  cases op with
  | nwkFrame frame addrRef room random =>
    cases addrRef with
    | none =>
      have dropped : nwkUnsecureFrame decrypts frame none room random m.device =
          ⟨m.device, none, false⟩ := by
        rw [nwkUnsecureFrame]
        split_ifs <;> rfl
      simpa only [step, dropped] using guarded
    | some ref => exact guarded_nwkFrame guarded frame room random right
  | apsFrame frame addr room =>
    cases addr with
    | none => exact guarded
    | some addr => exact guarded_apsFrame guarded frame room right
  | keys op => exact ⟨guarded.covers, guarded.increasing⟩
  | enter ref =>
    refine ⟨?_, guarded.increasing⟩
    dsimp only [step]
    rw [windows_setNeighbor]
    refine guarded.covers.start fun item_ mem channel => ?_
    obtain ⟨a, logged_, rfl⟩ := List.mem_map.mp mem
    exact absurd channel (right a logged_)
  | forget ref =>
    refine ⟨?_, guarded.increasing⟩
    have closed : windows (Device.forget ref m.device) =
        Function.update (windows m.device) ref none := by
      funext r
      by_cases here : r = ref
      · subst here
        simp [windows, Device.forget]
      · simp [windows, Device.forget, here]
    dsimp only [step]
    rw [closed]
    exact guarded.covers.close
  | relate ref relationship =>
    refine ⟨?_, guarded.increasing⟩
    dsimp only [step, Device.mapNeighbor]
    cases there : m.device.neighbors ref with
    | none => exact guarded.covers
    | some nbe =>
      rw [windows_setNeighbor]
      have here : windows m.device ref = some (window nbe) := by rw [windows, there]; rfl
      exact guarded.covers.raise here rfl le_rfl

/-- **Replay protection.**  From every device on which no frame was accepted yet, in every
run whose steps meet the condition, the counters accepted from one neighbour under one
key strictly increase. -/
theorem accepted_counters_increase (decrypts : Decrypts) (d : Device) (ops : List Op)
    (right : Along (step decrypts) StepRight ⟨d, []⟩ ops) :
    Increasing (run (step decrypts) ⟨d, []⟩ ops).accepted := by
  have keeps : ∀ m op, Guarded m → StepRight m op → Guarded (step decrypts m op) :=
    fun _ op guarded right => guarded_step guarded op right
  have clean : Guarded ⟨d, []⟩ := ⟨Covers.nil, List.Pairwise.nil⟩
  exact (invariant_of_along keeps _ ops clean right).increasing

/-- Frames are genuine when they are secured with this key. -/
def genuineKey : Key := fun _ => 7

def genuine : Decrypts := fun key _ _ _ => decide (key = genuineKey)

/-- A device that joins with the key under number 1. -/
def joined : List Op :=
  [.keys (.transportKey ⟨⟨⟨1, 0, 0⟩, ⟨0, 0, 0, 0, 1⟩⟩, zbStandardNetworkKey, genuineKey, 1⟩)]

/-- A frame of a direct neighbour. -/
def neighborFrame (c : UInt32) : Op :=
  .nwkFrame ⟨5, 5, ⟨⟨1, 0, 0⟩, ⟨0, 0, 0, 0, 2⟩⟩, 1, c, [], [0, 0, 0, 0]⟩ (some 0) true fun _ => 0

theorem accepted_counters_increase_twoFrames :
    Increasing (run (step genuine) ⟨⟨initial none, fun _ => none⟩, []⟩
      (joined ++ [neighborFrame 0, neighborFrame 1])).accepted :=
  accepted_counters_increase genuine ⟨initial none, fun _ => none⟩ _ (by decide +kernel)

/-- A frame that is sent again is accepted again. -/
theorem replayed_frame_accepted :
    ¬ ∀ decrypts d ops, Increasing (run (step decrypts) ⟨d, []⟩ ops).accepted := by
  intro increase
  have twice := increase genuine ⟨initial none, fun _ => none⟩
    (joined ++ [neighborFrame 3, neighborFrame 3])
  exact absurd twice (by unfold Increasing; decide +kernel)

end Zboss.Replay
