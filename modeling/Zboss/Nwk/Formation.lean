import Zboss.Nwk.Discovery

/-!
Forming a network (`nwk_cr_formation.c`).  An energy scan takes the busy channels out of the
mask, an active scan is to collect the networks there are, and then a channel and a PAN id are
chosen.  Beacons are collected while a discovery runs and at no other time, so that the choice
knows of no network; and it stops at the first channel without one.
-/

namespace Zboss.Formation

open Zboss.Run
open Zboss.Discovery (ExtNeighborTblEnt)
open Zboss.PanIds (PanTable PanIdRef ExtPanId)
open Zboss.NeighborTable (DeviceType)

def macStartChannelNumber : ℕ := 11

/-- `ZB_MAC_SUPPORTED_CHANNELS`; the last one is 26. -/
def macSupportedChannels : ℕ := 16

def nwkChannelAcceptLevel : UInt8 := 60

/-- `zb_nlme_state_t`, as far as scans go through it before the device has joined. -/
inductive NlmeState
  | idle
  | disc
  | formationEdScan
  | formationActiveScan
  | formation
  deriving DecidableEq, Repr

/-- A beacon of a ZigBee network, as header, superframe and payload say. -/
structure Beacon where
  srcPanId : UInt16
  extendedPanid : ExtPanId
  srcAddr : UInt16
  channel : UInt8
  beaconOrder : UInt8
  superframeOrder : UInt8
  associationPermit : Bool
  stackProfile : UInt8
  deviceDepth : UInt8
  routerCapacity : Bool
  endDeviceCapacity : Bool
  deriving DecidableEq

/-- What a formation ends with: `MLME-START` or a confirm that says it failed. -/
inductive Outcome
  | start (channel : ℕ) (panId : UInt16)
  | failure
  deriving DecidableEq, Repr

/-- What scans and the formation read and write; `cut` is the room that
`zb_nwk_exneighbor_start` makes for the extended table. -/
structure Layer where
  state : NlmeState
  joined : Bool
  macPanId : UInt16
  scanChannels : BitVec 32
  energyDetect : ℕ → UInt8
  ext : List ExtNeighborTblEnt
  extSize : ℕ
  cut : ℕ
  pans : PanTable
  outcome : Option Outcome

/-- The network layer before it does anything. -/
def Layer.init (macPanId : UInt16) (cut : ℕ) : Layer :=
  ⟨.idle, false, macPanId, 0, fun _ => 0, [], 0, cut, .zero, none⟩

/-! ## Beacons -/

/-- An entry as a beacon fills it. -/
def fill (b : Beacon) (ent : ExtNeighborTblEnt) : ExtNeighborTblEnt :=
  { ent with
    logicalChannel := b.channel
    depth := b.deviceDepth
    beaconOrder := b.beaconOrder
    permitJoining := b.associationPermit
    stackProfile := b.stackProfile
    superframeOrder := b.superframeOrder
    routerCapacity := b.routerCapacity
    endDeviceCapacity := b.endDeviceCapacity
    deviceType :=
      if b.deviceDepth = 0 then .coordinator
      else if b.associationPermit || b.routerCapacity || b.endDeviceCapacity then .router
      else .none }

/-- The entry of a beacon is found or allocated, and filled. -/
def remember (w : Layer) (b : Beacon) : Layer :=
  let (pans, reply) := w.pans.setPanId b.srcPanId b.extendedPanid
  let w := { w with pans }
  match reply.ref with
  | none => w
  | some panidRef =>
    match w.ext.findIdx? fun ent => ent.shortAddr == b.srcAddr && ent.panidRef == panidRef with
    | some i => { w with ext := w.ext.modify i (fill b) }
    | none =>
      if w.ext.length = w.extSize then w
      else
        { w with ext := w.ext ++ [fill b
            { shortAddr := b.srcAddr, panidRef, logicalChannel := 0, beaconOrder := 0,
              superframeOrder := 0, stackProfile := 0, permitJoining := false,
              routerCapacity := false, endDeviceCapacity := false, depth := 0,
              deviceType := .coordinator }] }

/-- `zb_mlme_beacon_notify_indication` of a device that has not joined; a discovery, but no
formation, comes to the branch that remembers the beacon. -/
def beaconNotifyIndication (w : Layer) (b : Beacon) : Layer :=
  match w.state with
  | .disc => remember w b
  | .idle | .formationEdScan | .formationActiveScan | .formation => w

/-! ## Channels -/

/-- `MAGIC_IS_POWER_OF_TWO`. -/
def isPowerOfTwo (x : BitVec 32) : Bool := x &&& (x - 1) == 0

/-- `zb_nlme_network_formation_request`; one channel alone needs no energy scan. -/
def formationRequest (w : Layer) (scanChannels : BitVec 32) : Layer :=
  if w.state = .idle ∧ w.joined = false then
    { w with
      scanChannels
      state := if isPowerOfTwo scanChannels then .formationActiveScan else .formationEdScan }
  else { w with outcome := some .failure }

/-- One turn of the loop over the results: a busy channel leaves the mask. -/
def dropBusy (energyDetect : ℕ → UInt8) (scanChannels : BitVec 32) (i : ℕ) : BitVec 32 :=
  if scanChannels.getLsbD (macStartChannelNumber + i) ∧ nwkChannelAcceptLevel < energyDetect i then
    scanChannels ^^^ BitVec.twoPow 32 (macStartChannelNumber + i)
  else scanChannels

/-- `nwk_formation_ed_scan_confirm`. -/
def edScanConfirm (w : Layer) (energyDetect : ℕ → UInt8) : Layer :=
  let scanChannels := (List.range macSupportedChannels).foldl (dropBusy energyDetect) w.scanChannels
  let w := { w with energyDetect, scanChannels }
  if scanChannels ≠ 0 then
    { w with
      extSize := if w.extSize ≠ 0 then w.extSize else w.cut
      state := .formationActiveScan }
  else { w with outcome := some .failure, state := .idle }

/-- The networks on each channel: a network counts where it is met first. -/
def countNetworks : List ExtNeighborTblEnt → (PanIdRef → Bool) → (ℕ → UInt8) → ℕ → UInt8
  | [], _, count => count
  | ent :: rest, handled, count =>
    if handled ent.panidRef then countNetworks rest handled count
    else
      let channel := ent.logicalChannel.toNat
      countNetworks rest (Function.update handled ent.panidRef true)
        (Function.update count channel (count channel + 1))

/-- `energy_detect` read at the number of a channel, which is not its place there; behind the
last place lie the counts of networks. -/
def energyAt (energyDetect count : ℕ → UInt8) (channel : ℕ) : UInt8 :=
  if channel < macSupportedChannels then energyDetect channel
  else count (channel - macSupportedChannels + macStartChannelNumber)

/-- The variables of `nwk_formation_select_channel`. -/
structure Choice where
  channel : ℕ
  channelNetworks : UInt8
  channelEd : UInt8
  panId : UInt16
  uniquePanId : Bool

/-- The loop over the channels, which ends at one without networks; `random` is what
`ZB_RANDOM` gives then. -/
def chooseChannel (scanChannels : BitVec 32) (count energy : ℕ → UInt8) (random : UInt16) :
    List ℕ → Choice → Choice
  | [], choice => choice
  | i :: rest, choice =>
    if scanChannels.getLsbD i ∧ count i ≤ choice.channelNetworks then
      if count i = choice.channelNetworks ∧ choice.channelEd < energy i then
        chooseChannel scanChannels count energy random rest choice
      else if count i = 0 then
        { channel := i, channelNetworks := count i, channelEd := energy i,
          panId := if choice.panId = 0 then random else choice.panId, uniquePanId := true }
      else
        chooseChannel scanChannels count energy random rest
          { choice with channel := i, channelNetworks := count i, channelEd := energy i }
    else chooseChannel scanChannels count energy random rest choice

/-- Some device on the channel has been heard under the PAN id. -/
def panIdUsed (w : Layer) (channel : ℕ) (panId : UInt16) : Bool :=
  w.ext.any fun ent =>
    ent.logicalChannel.toNat == channel && (w.pans.panMap ent.panidRef).shortPanid == panId

/-- The loop that draws PAN ids until one is not used, as far as it comes. -/
def drawPanId (used : UInt16 → Bool) (random : ℕ → UInt16) : ℕ → ℕ → Option UInt16
  | 0, _ => none
  | rounds + 1, k => if used (random k) then drawPanId used random rounds (k + 1) else some (random k)

/-- `nwk_formation_select_channel`; with networks on it the first channel cannot be chosen. -/
def selectChannel (w : Layer) (random : ℕ → UInt16) (rounds : ℕ) : Layer :=
  let count := countNetworks w.ext (fun _ => false) fun _ => 0
  let choice := chooseChannel w.scanChannels count (energyAt w.energyDetect count) (random 0)
    (List.range' macStartChannelNumber macSupportedChannels)
    ⟨macStartChannelNumber, 0xff, 0xff, w.macPanId, false⟩
  let start (panId : UInt16) : Layer :=
    { w with outcome := some (.start choice.channel panId), state := .formation }
  if choice.uniquePanId then start choice.panId
  else if choice.channel ≠ macStartChannelNumber then
    match drawPanId (panIdUsed w choice.channel) random rounds 0 with
    | some panId => start panId
    | none => w
  else { w with outcome := some .failure, state := .idle }

/-! ## The machine -/

/-- What happens while a network is formed; a confirm of a scan has the energy that was
measured, and the numbers that will be drawn. -/
inductive Event
  | request (scanChannels : BitVec 32)
  | beacon (b : Beacon)
  | scanConfirm (energyDetect : ℕ → UInt8) (random : ℕ → UInt16) (rounds : ℕ)

/-- One event; the confirm of a discovery is not followed here. -/
def step (w : Layer) : Event → Layer
  | .request scanChannels => formationRequest w scanChannels
  | .beacon b => beaconNotifyIndication w b
  | .scanConfirm energyDetect random rounds =>
    match w.state with
    | .formationEdScan => edScanConfirm w energyDetect
    | .formationActiveScan => selectChannel w random rounds
    | .disc => { w with state := .idle }
    | .idle | .formation => w

/-- A formation: the request, the energy scan of several channels, and the active scan with the
beacons that are heard. -/
def formation (scanChannels : BitVec 32) (energyDetect : ℕ → UInt8) (beacons : List Beacon)
    (random : ℕ → UInt16) (rounds : ℕ) : List Event :=
  [.request scanChannels] ++
    (if isPowerOfTwo scanChannels then [] else [.scanConfirm energyDetect random rounds]) ++
    beacons.map .beacon ++ [.scanConfirm energyDetect random rounds]

/-- The channel is in the mask, and was not found busy. -/
def Acceptable (scanChannels : BitVec 32) (energyDetect : ℕ → UInt8) (c : ℕ) : Prop :=
  macStartChannelNumber ≤ c ∧ c < macStartChannelNumber + macSupportedChannels ∧
    scanChannels.getLsbD c = true ∧
    (isPowerOfTwo scanChannels = true ∨
      energyDetect (c - macStartChannelNumber) ≤ nwkChannelAcceptLevel)

/-- The networks heard on a channel. -/
def networksOn (beacons : List Beacon) (c : ℕ) : ℕ :=
  ((beacons.filter (·.channel.toNat == c)).map (·.extendedPanid)).dedup.length

/-- A channel has no more networks than another, and where it has as many no more energy. -/
def NoWorse (energyDetect : ℕ → UInt8) (beacons : List Beacon) (c d : ℕ) : Prop :=
  networksOn beacons c < networksOn beacons d ∨ networksOn beacons c = networksOn beacons d ∧
    energyDetect (c - macStartChannelNumber) ≤ energyDetect (d - macStartChannelNumber)

/-- No network on the channel is heard under the PAN id. -/
def Unheard (beacons : List Beacon) (c : ℕ) (panId : UInt16) : Prop :=
  ∀ b ∈ beacons, b.channel.toNat = c → b.srcPanId ≠ panId

/-- If there is an acceptable channel the network starts on the best one, under a PAN id that is
not used there. -/
def FormsBest (scanChannels : BitVec 32) (energyDetect : ℕ → UInt8) (beacons : List Beacon)
    (outcome : Option Outcome) : Prop :=
  (∃ c, Acceptable scanChannels energyDetect c) →
    ∃ c panId, outcome = some (.start c panId) ∧ Acceptable scanChannels energyDetect c ∧
      (∀ d, Acceptable scanChannels energyDetect d → NoWorse energyDetect beacons c d) ∧
      Unheard beacons c panId

/-! ## The mask -/

/-- A turn of the loop clears the bit of its channel if that is busy. -/
theorem getLsbD_dropBusy (energyDetect : ℕ → UInt8) (scanChannels : BitVec 32) {i : ℕ}
    (inside : macStartChannelNumber + i < 32) (c : ℕ) :
    (dropBusy energyDetect scanChannels i).getLsbD c = true ↔ scanChannels.getLsbD c = true ∧
      ¬ (c = macStartChannelNumber + i ∧ nwkChannelAcceptLevel < energyDetect i) := by
  rw [dropBusy]
  split
  · rename_i busy
    rw [BitVec.getLsbD_xor, BitVec.getLsbD_twoPow]
    by_cases here : c = macStartChannelNumber + i
    · subst here
      simp [busy, inside]
    · simp [here, Ne.symm here]
  · rename_i quiet
    refine ⟨fun set => ⟨set, ?_⟩, And.left⟩
    rintro ⟨rfl, busy⟩
    exact quiet ⟨set, busy⟩

/-- The busy channels, and only they, leave the mask. -/
theorem foldl_dropBusy (energyDetect : ℕ → UInt8) (scanChannels : BitVec 32) (c : ℕ) :
    ∀ n, macStartChannelNumber + n ≤ 32 →
      (((List.range n).foldl (dropBusy energyDetect) scanChannels).getLsbD c = true ↔
        scanChannels.getLsbD c = true ∧
          ∀ i < n, c = macStartChannelNumber + i → ¬ nwkChannelAcceptLevel < energyDetect i) := by
  intro n
  induction n with
  | zero => exact fun _ => by simp
  | succ n induction_ =>
    intro inside
    rw [List.range_succ, List.foldl_append, List.foldl_cons, List.foldl_nil,
      getLsbD_dropBusy energyDetect _ (by omega), induction_ (by omega)]
    constructor
    · rintro ⟨⟨set, before⟩, last⟩
      refine ⟨set, fun i below here busy => ?_⟩
      rcases Nat.lt_succ_iff_lt_or_eq.mp below with earlier | rfl
      · exact before i earlier here busy
      · exact last ⟨here, busy⟩
    · rintro ⟨set, all⟩
      exact ⟨⟨set, fun i below => all i (by omega)⟩, fun last => all n (by omega) last.1 last.2⟩

/-- What the energy scan leaves is what is acceptable. -/
theorem acceptable_iff {scanChannels : BitVec 32} {energyDetect : ℕ → UInt8} {c : ℕ}
    (several : isPowerOfTwo scanChannels = false) :
    Acceptable scanChannels energyDetect c ↔
      macStartChannelNumber ≤ c ∧ c < macStartChannelNumber + macSupportedChannels ∧
        ((List.range macSupportedChannels).foldl (dropBusy energyDetect) scanChannels).getLsbD c =
          true := by
  rw [Acceptable, several, foldl_dropBusy energyDetect scanChannels c _ (by decide)]
  simp only [Bool.false_eq_true, false_or, UInt8.not_lt]
  constructor
  · rintro ⟨above, below, set, quiet⟩
    refine ⟨above, below, set, ?_⟩
    rintro i - rfl
    rwa [Nat.add_sub_cancel_left] at quiet
  · rintro ⟨above, below, set, quiet⟩
    exact ⟨above, below, set, quiet (c - macStartChannelNumber) (by omega) (by omega)⟩

/-! ## The choice -/

/-- Channels that are not in the mask are passed over. -/
theorem chooseChannel_skip {scanChannels : BitVec 32} {count energy : ℕ → UInt8} {random : UInt16}
    {before rest : List ℕ} {choice : Choice}
    (unmasked : ∀ d ∈ before, scanChannels.getLsbD d = false) :
    chooseChannel scanChannels count energy random (before ++ rest) choice =
      chooseChannel scanChannels count energy random rest choice := by
  induction before with
  | nil => rfl
  | cons d before induction_ =>
    obtain ⟨first, others⟩ := List.forall_mem_cons.mp unmasked
    rw [List.cons_append, chooseChannel, if_neg (by simp [first])]
    exact induction_ others

/-- The lowest channel of the mask is chosen if no network is known on it. -/
theorem chooseChannel_lowest {scanChannels : BitVec 32} {count energy : ℕ → UInt8}
    {random panId : UInt16} {c : ℕ} (above : macStartChannelNumber ≤ c)
    (below : c < macStartChannelNumber + macSupportedChannels)
    (masked : scanChannels.getLsbD c = true)
    (lowest : ∀ d, macStartChannelNumber ≤ d → d < c → scanChannels.getLsbD d = false)
    (free : count c = 0) :
    chooseChannel scanChannels count energy random
        (List.range' macStartChannelNumber macSupportedChannels)
        ⟨macStartChannelNumber, 0xff, 0xff, panId, false⟩ =
      ⟨c, 0, energy c, if panId = 0 then random else panId, true⟩ := by
  obtain ⟨m, rfl⟩ := Nat.exists_eq_add_of_le above
  obtain ⟨k, size⟩ : ∃ k, macSupportedChannels = m + (k + 1) :=
    ⟨macSupportedChannels - (m + 1), by omega⟩
  rw [size, ← List.range'_append_1, List.range'_succ, chooseChannel_skip, chooseChannel,
    if_pos ⟨masked, by simp [free]⟩, if_neg (by simp [free]), if_pos free, free]
  intro d member
  rw [List.mem_range'_1] at member
  exact lowest d member.1 member.2

/-! ## A formation -/

/-- While a network is formed beacons are not remembered. -/
theorem run_beacons {w : Layer} (scanning : w.state ≠ .disc) (beacons : List Beacon) :
    run step w (beacons.map .beacon) = w := by
  have ignored (b : Beacon) : step w (.beacon b) = w := by
    change beaconNotifyIndication w b = w
    rw [beaconNotifyIndication]
    split
    · rename_i disc
      exact absurd disc scanning
    · rfl
    · rfl
    · rfl
    · rfl
  induction beacons with
  | nil => rfl
  | cons b rest induction_ =>
    change run step (step w (.beacon b)) (rest.map .beacon) = w
    rw [ignored, induction_]

/-- The PAN id a network starts under. -/
def firstPanId (macPanId : UInt16) (random : ℕ → UInt16) : UInt16 :=
  if macPanId = 0 then random 0 else macPanId

/-- The lowest acceptable channel. -/
def Lowest (scanChannels : BitVec 32) (energyDetect : ℕ → UInt8) (c : ℕ) : Prop :=
  Acceptable scanChannels energyDetect c ∧
    ∀ d, Acceptable scanChannels energyDetect d → c ≤ d

variable {scanChannels : BitVec 32} {energyDetect : ℕ → UInt8} {beacons : List Beacon}
  {random : ℕ → UInt16} {rounds c : ℕ} {macPanId : UInt16} {cut : ℕ}

/-- Without networks in the table the lowest channel of the mask is chosen. -/
theorem selectChannel_lowest {w : Layer} (empty : w.ext = [])
    (above : macStartChannelNumber ≤ c) (below : c < macStartChannelNumber + macSupportedChannels)
    (masked : w.scanChannels.getLsbD c = true)
    (lowest : ∀ d, macStartChannelNumber ≤ d → d < c → w.scanChannels.getLsbD d = false) :
    (selectChannel w random rounds).outcome =
      some (.start c (firstPanId w.macPanId random)) := by
  rw [selectChannel, empty]
  dsimp only
  rw [chooseChannel_lowest above below masked lowest rfl, if_pos rfl, firstPanId]

/-- Before the active scan: no network is known, and the mask has what is acceptable. -/
structure Ready (scanChannels : BitVec 32) (energyDetect : ℕ → UInt8) (macPanId : UInt16)
    (w : Layer) : Prop where
  state : w.state = .formationActiveScan
  ext : w.ext = []
  panId : w.macPanId = macPanId
  mask : ∀ c, Acceptable scanChannels energyDetect c ↔ macStartChannelNumber ≤ c ∧
    c < macStartChannelNumber + macSupportedChannels ∧ w.scanChannels.getLsbD c = true

theorem Ready.afterRequest (acceptable : Acceptable scanChannels energyDetect c) :
    Ready scanChannels energyDetect macPanId
      (run step (Layer.init macPanId cut) ([.request scanChannels] ++
        if isPowerOfTwo scanChannels then [] else [.scanConfirm energyDetect random rounds])) := by
  have requested : step (Layer.init macPanId cut) (.request scanChannels) =
      { Layer.init macPanId cut with
        scanChannels := scanChannels
        state := if isPowerOfTwo scanChannels then .formationActiveScan
          else .formationEdScan } := by
    simp [step, formationRequest, Layer.init]
  rw [List.singleton_append]
  change Ready _ _ _ (run step (step (Layer.init macPanId cut) (.request scanChannels)) _)
  rw [requested]
  cases several : isPowerOfTwo scanChannels with
  | true => exact ⟨rfl, rfl, rfl, fun d => by simp [Acceptable, several, run]⟩
  | false =>
    have left := (acceptable_iff several).mp acceptable
    have some_ : (List.range macSupportedChannels).foldl (dropBusy energyDetect) scanChannels ≠ 0 := by
      intro none_
      rw [none_] at left
      simp at left
    change Ready _ _ _ (edScanConfirm _ energyDetect)
    rw [edScanConfirm]
    dsimp only
    rw [if_pos some_]
    exact ⟨rfl, rfl, rfl, fun d => acceptable_iff several⟩

/-- **A formation starts on the lowest acceptable channel**, whatever was heard. -/
theorem formation_lowest (lowest : Lowest scanChannels energyDetect c) :
    (run step (Layer.init macPanId cut)
        (formation scanChannels energyDetect beacons random rounds)).outcome =
      some (.start c (firstPanId macPanId random)) := by
  obtain ⟨acceptable, least⟩ := lowest
  have ready : Ready scanChannels energyDetect macPanId
      (run step (Layer.init macPanId cut) ([.request scanChannels] ++
        if isPowerOfTwo scanChannels then [] else [.scanConfirm energyDetect random rounds])) :=
    Ready.afterRequest acceptable
  rw [formation, run_append, run_append]
  generalize run step (Layer.init macPanId cut) ([.request scanChannels] ++
    if isPowerOfTwo scanChannels then [] else [.scanConfirm energyDetect random rounds]) = w at *
  rw [run_beacons (by rw [ready.state]; exact nofun)]
  change (step w (.scanConfirm energyDetect random rounds)).outcome = _
  rw [step, ready.state]
  dsimp only
  obtain ⟨above, below, masked⟩ := (ready.mask c).mp acceptable
  rw [selectChannel_lowest ready.ext above below masked, ready.panId]
  intro d from_ before
  by_contra set
  rw [Bool.not_eq_false] at set
  have lower := least d ((ready.mask d).mpr ⟨from_, by omega, set⟩)
  omega

theorem exists_lowest (acceptable : Acceptable scanChannels energyDetect c) :
    ∃ d, Lowest scanChannels energyDetect d := by
  classical
  have some_ : ∃ d, Acceptable scanChannels energyDetect d := ⟨c, acceptable⟩
  exact ⟨Nat.find some_, Nat.find_spec some_, fun d => Nat.find_min' some_⟩

/-- **A formation picks the best channel** exactly when the lowest acceptable channel is the best
one, and no network is heard there under the PAN id of the device. -/
theorem formation_best_iff (macPanId : UInt16) (cut : ℕ) (scanChannels : BitVec 32)
    (energyDetect : ℕ → UInt8) (beacons : List Beacon) (random : ℕ → UInt16) (rounds : ℕ) :
    FormsBest scanChannels energyDetect beacons
        (run step (Layer.init macPanId cut)
          (formation scanChannels energyDetect beacons random rounds)).outcome ↔
      ∀ c, Lowest scanChannels energyDetect c →
        (∀ d, Acceptable scanChannels energyDetect d → NoWorse energyDetect beacons c d) ∧
          Unheard beacons c (firstPanId macPanId random) := by
  constructor
  · intro best c lowest
    obtain ⟨c', panId, outcome, -, noWorse, unheard⟩ := best ⟨c, lowest.1⟩
    rw [formation_lowest lowest] at outcome
    cases outcome
    exact ⟨noWorse, unheard⟩
  · rintro condition ⟨c, acceptable⟩
    obtain ⟨d, lowest⟩ := exists_lowest acceptable
    obtain ⟨noWorse, unheard⟩ := condition d lowest
    exact ⟨d, _, formation_lowest lowest, lowest.1, noWorse, unheard⟩

/-- Channels 11 and 12, with a network on channel 11. -/
def heardOnFirst : List Beacon :=
  [⟨0x1234, fun _ => 7, 0, 11, 15, 15, true, 1, 0, true, true⟩]

/-- The network starts on channel 11, under the PAN id that is heard there. -/
theorem formation_on_used_channel :
    ¬ FormsBest 0x1800 (fun _ => 0) heardOnFirst
      (run step (Layer.init 0x1234 8)
        (formation 0x1800 (fun _ => 0) heardOnFirst (fun _ => 0) 0)).outcome := by
  intro best
  have first : Acceptable 0x1800 (fun _ => 0) 11 := by unfold Acceptable; decide
  have second : Acceptable 0x1800 (fun _ => 0) 12 := by unfold Acceptable; decide
  obtain ⟨c, panId, outcome, -, noWorse, -⟩ := best ⟨11, first⟩
  rw [formation_lowest ⟨first, fun d acceptable => acceptable.1⟩] at outcome
  cases outcome
  exact absurd (noWorse 12 second) (by unfold NoWorse; decide)

end Zboss.Formation
