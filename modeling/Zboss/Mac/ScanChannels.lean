import Zboss.Nwk.FrameHeaders

/-!
Channel scans on the transceiver.  One step function tunes to the next channel of the mask for all
three scans, and confirms when none is left.  The parameters of the request, and later the confirm,
lie at the end of the buffer, one over the other: an energy scan clears its parameters and goes on
with what the cleared confirm reads as.
-/

namespace Zboss.ScanChannels

open Zboss.Cells Zboss.FrameHeaders

/-! ## The buffer -/

def edScan : UInt8 := 0

def activeScan : UInt8 := 1

def orphanScan : UInt8 := 3

def maxScanDurationValue : UInt8 := 14

def macStartChannelNumber : ℕ := 11

def macMaxChannelNumber : ℕ := 26

def macSupportedChannels : ℕ := macMaxChannelNumber - macStartChannelNumber + 1

/-- `zb_mlme_scan_params_t`. -/
structure ScanParams where
  scanType : UInt8
  scanDuration : UInt8
  channels : BitVec 32
  deriving DecidableEq, Repr

/-- `zb_mac_scan_confirm_t`, without the channels. -/
structure ScanConfirm where
  status : UInt8
  scanType : UInt8
  resultListSize : UInt8
  energyDetect : List UInt8
  deriving DecidableEq, Repr

/-- Where the last 8 octets of a buffer begin: the parameters. -/
def paramsOffset : ℕ := 140

/-- Where the last 23 octets begin: the confirm. -/
def confirmOffset : ℕ := 125

/-- The parameters that a buffer reads as; the type and the duration are bit-fields. -/
def scanParams (buf : Octets) : ScanParams where
  scanType := buf paramsOffset &&& 3
  scanDuration := buf paramsOffset >>> 2 &&& 15
  channels := (buf.le32 (paramsOffset + 4)).toBitVec

/-- The confirm that a buffer reads as. -/
def scanConfirm (buf : Octets) : ScanConfirm where
  status := buf confirmOffset
  scanType := buf (confirmOffset + 1)
  resultListSize := buf (confirmOffset + 6)
  energyDetect := segment buf (confirmOffset + 7) macSupportedChannels

/-- The octets of a mask. -/
def maskOctets (mask : BitVec 32) : List UInt8 :=
  (List.range 4).map fun i => UInt8.ofNat (mask.toNat >>> (8 * i))

/-- `zb_mlme_ed_scan` clears the confirm and fills in the channels. -/
def clearConfirm (buf : Octets) (unscanned : BitVec 32) : Octets :=
  memcpy (memcpy buf confirmOffset (List.replicate 23 0)) (confirmOffset + 2) (maskOctets unscanned)

/-! ## Scans -/

inductive Callback
  | handleScanRequest
  | scanStep
  deriving DecidableEq, Repr

/-- What a scan uses of `MAC_CTX()`, and the alarms for its step; `rtCtx` are the octets of the
union `rt_ctx`.  Then the channels that were tuned to while scanning, the energies that were
measured and where, and the confirms. -/
structure Mac where
  pendingBuf : Octets
  unscannedChannels : BitVec 32
  mlmeScanInProgress : Bool
  edScanStepPassed : Bool
  rtCtx : ℕ → UInt8
  currentChannel : ℕ
  callbacks : List Callback
  alarms : ℕ
  tuned : List ℕ
  measured : List (ℕ × UInt8)
  confirms : List ScanConfirm

/-- What the driver and the scheduler answer: the energy, and whether an alarm is left. -/
structure Env where
  rssi : UInt8
  alarmLeft : Bool

/-- Offsets in `rt_ctx`. -/
def gotRealignment : ℕ := 0

def beaconFound : ℕ := 1

def saveChannel : ℕ := 2

def maxRssiValue : ℕ := 3

namespace Mac

variable (w : Mac) (env : Env)

def setRtCtx (offset : ℕ) (octet : UInt8) : Mac :=
  { w with rtCtx := Function.update w.rtCtx offset octet }

/-- `ZB_SCHEDULE_ALARM` of the scan step; the result is not looked at. -/
def scheduleAlarm : Mac := if env.alarmLeft then { w with alarms := w.alarms + 1 } else w

/-- `ZB_SCHEDULE_ALARM_CANCEL` of the scan step. -/
def scheduleAlarmCancel : Mac := { w with alarms := w.alarms - 1 }

/-- `ZB_TRANSCEIVER_SET_CHANNEL` of a scan. -/
def transceiverSetChannel (channel : ℕ) : Mac :=
  { w with currentChannel := channel, tuned := w.tuned ++ [channel] }

/-- `zb_transceiver_get_rssi`, and the maximum. -/
def getRssi : Mac :=
  let w := { w with measured := w.measured ++ [(w.currentChannel, env.rssi)] }
  if w.rtCtx maxRssiValue < env.rssi then w.setRtCtx maxRssiValue env.rssi else w

def mlmeEdScan : Mac :=
  let params := scanParams w.pendingBuf
  let w := { w with
    unscannedChannels := params.channels
    pendingBuf := clearConfirm w.pendingBuf params.channels }
  let w := w.setRtCtx 0 (UInt8.ofNat (2 ^ params.scanDuration.toNat + 1))
  let w := w.setRtCtx 1 (UInt8.ofNat macStartChannelNumber)
  let w := w.setRtCtx saveChannel (UInt8.ofNat w.currentChannel)
  (w.setRtCtx maxRssiValue 0).scheduleAlarm env

def mlmeActiveScan : Mac :=
  let w := w.setRtCtx beaconFound 0
  { w with
    unscannedChannels := (scanParams w.pendingBuf).channels
    callbacks := w.callbacks ++ [.scanStep] }

def mlmeOrphanScan : Mac :=
  let w := { w with unscannedChannels := (scanParams w.pendingBuf).channels }
  (w.setRtCtx gotRealignment 0).scheduleAlarm env

/-- `zb_handle_scan_request`; a passive scan is not implemented. -/
def handleScanRequest : Mac :=
  let scanType := (scanParams w.pendingBuf).scanType
  if scanType = activeScan then w.mlmeActiveScan
  else if scanType = edScan then { w.mlmeEdScan env with edScanStepPassed := false }
  else if scanType = orphanScan then w.mlmeOrphanScan env
  else w

end Mac

/-- The channel that the loop of the step finds; it goes on to 36, past the bits of the mask. -/
def nextChannel (unscanned : BitVec 32) : Option ℕ :=
  (List.range' macStartChannelNumber macMaxChannelNumber).find? unscanned.getLsbD

namespace Mac

variable (w : Mac) (env : Env)

/-- A channel of the step; what becomes of the beacon request or the orphan notification does not
matter. -/
def scanChannel (channel : ℕ) : Mac :=
  let w :=
    if (scanParams w.pendingBuf).scanType = edScan then
      let w := if w.edScanStepPassed then w.getRssi env else { w with edScanStepPassed := true }
      w.scheduleAlarm env
    else w
  let w := w.transceiverSetChannel channel
  let w := { w with unscannedChannels := w.unscannedChannels &&& ~~~BitVec.twoPow 32 channel }
  w.scheduleAlarmCancel.scheduleAlarm env

/-- The end of a scan; an energy scan goes back to the channel it began on. -/
def scanEnd : Mac :=
  let scanType := (scanParams w.pendingBuf).scanType
  let w :=
    if scanType = edScan then { w with currentChannel := (w.rtCtx saveChannel).toNat } else w
  let success := scanType = edScan ∨ w.rtCtx beaconFound ≠ 0 ∨ w.rtCtx gotRealignment ≠ 0
  let w := if success then w.setRtCtx beaconFound 0 else w
  let buf := memcpy w.pendingBuf confirmOffset [if success then 0 else 0xea, scanType]
  { w with
    pendingBuf := buf
    mlmeScanInProgress := false
    confirms := w.confirms ++ [scanConfirm buf] }

def mlmeScanStep : Mac :=
  let w := { w with mlmeScanInProgress := true }
  match nextChannel w.unscannedChannels with
  | some channel => w.scanChannel env channel
  | none => w.scanEnd

/-- What is scheduled of the scan is run: a callback, else the alarm when it is due. -/
def fire : Mac :=
  match w.callbacks with
  | .handleScanRequest :: rest => { w with callbacks := rest }.handleScanRequest env
  | .scanStep :: rest => { w with callbacks := rest }.mlmeScanStep env
  | [] => if w.alarms = 0 then w else { w with alarms := w.alarms - 1 }.mlmeScanStep env

/-- The duration of a request is valid; of an orphan scan it is not looked at. -/
def Valid (params : ScanParams) : Prop :=
  params.scanDuration ≤ maxScanDurationValue ∨ params.scanType = orphanScan

instance (params : ScanParams) : Decidable (Valid params) := inferInstanceAs (Decidable (_ ∨ _))

/-- `zb_mlme_scan_request` with the buffer; a request that is refused is confirmed in the buffer of
the one before. -/
def mlmeScanRequest (buf : Octets) : Mac :=
  let params := scanParams buf
  if Valid params ∧ w.mlmeScanInProgress = false then
    { w with pendingBuf := buf, callbacks := w.callbacks ++ [.handleScanRequest] }
  else
    let status : UInt8 := if Valid params then 0 else 0xe8
    let buf := memcpy w.pendingBuf confirmOffset [status, params.scanType]
    { w with pendingBuf := buf, confirms := w.confirms ++ [scanConfirm buf] }

end Mac

/-- The state after `k` turns. -/
def after (w : Mac) (env : ℕ → Env) : ℕ → Mac
  | 0 => w
  | k + 1 => after (w.fire (env 0)) (fun n => env (n + 1)) k

/-! ## What is expected -/

/-- The channels of a mask, from the lowest. -/
def channels (mask : BitVec 32) : List ℕ :=
  (List.range' macStartChannelNumber macSupportedChannels).filter mask.getLsbD

/-- The mask has supported channels only. -/
def Supported (mask : BitVec 32) : Prop :=
  ∀ i, mask.getLsbD i = true → macStartChannelNumber ≤ i ∧ i ≤ macMaxChannelNumber

/-- The most that was measured while tuned to the channel. -/
def maxEnergy (measured : List (ℕ × UInt8)) (channel : ℕ) : UInt8 :=
  ((measured.filter fun m => m.1 = channel).map Prod.snd).foldl max 0

/-- The confirm has the energy of every channel among its results. -/
def Listed (c : ScanConfirm) (measured : List (ℕ × UInt8)) (scanned : List ℕ) : Prop :=
  ∀ channel ∈ scanned, ∃ i < c.resultListSize.toNat,
    c.energyDetect[i]? = some (maxEnergy measured channel)

/-- The scan tunes to the channels one after the other and to no other, and confirms once, when
all are scanned. -/
structure Exact (scanType : UInt8) (total : List ℕ) (w : Mac) (env : ℕ → Env) : Prop where
  tuned : ∀ k, (after w env k).tuned <+: total
  once : ∀ k, (after w env k).confirms.length ≤ 1
  ends : ∃ k c, (after w env k).confirms = [c] ∧ (after w env k).tuned = total ∧
    c.scanType = scanType ∧ (scanType = edScan → Listed c (after w env k).measured total)

/-- No scan is under way. -/
structure Ready (w : Mac) : Prop where
  inProgress : w.mlmeScanInProgress = false
  callbacks : w.callbacks = []
  alarms : w.alarms = 0
  tuned : w.tuned = []
  confirms : w.confirms = []

/-- The next turn sets an alarm. -/
def Asks (w : Mac) : Prop :=
  match w.callbacks with
  | .handleScanRequest :: _ =>
    (scanParams w.pendingBuf).scanType = edScan ∨ (scanParams w.pendingBuf).scanType = orphanScan
  | .scanStep :: _ => nextChannel w.unscannedChannels ≠ none
  | [] => w.alarms ≠ 0 ∧ nextChannel w.unscannedChannels ≠ none

/-- There is an alarm left for it. -/
def Left (w : Mac) (env : Env) : Prop := Asks w → env.alarmLeft = true

/-! ## The mask -/

section
variable {unscanned : BitVec 32} {channel : ℕ} {rest : List ℕ}

theorem mem_channels : channel ∈ channels unscanned ↔
    (macStartChannelNumber ≤ channel ∧ channel ≤ macMaxChannelNumber) ∧
      unscanned.getLsbD channel = true := by
  rw [channels, List.mem_filter, List.mem_range'_1]
  have bound : channel < macStartChannelNumber + macSupportedChannels ↔
      channel ≤ macMaxChannelNumber := Nat.lt_succ_iff
  rw [bound]

theorem channels_nodup (mask : BitVec 32) : (channels mask).Nodup :=
  List.Nodup.filter _ List.nodup_range'

/-- The loop finds the lowest channel that is left. -/
theorem nextChannel_eq (supported : Supported unscanned) :
    nextChannel unscanned = (channels unscanned).head? := by
  have split_ : List.range' macStartChannelNumber macMaxChannelNumber =
      List.range' macStartChannelNumber macSupportedChannels ++ List.range' 27 10 := by decide
  have beyond : (List.range' 27 10).find? unscanned.getLsbD = none := by
    rw [List.find?_eq_none]
    intro i member set
    have above : 27 ≤ i := (List.mem_range'_1.mp member).1
    have below := (supported i set).2
    rw [macMaxChannelNumber] at below
    omega
  rw [nextChannel, split_, List.find?_append, beyond, Option.or_none, channels, List.head?_filter]

/-- The channel that is scanned leaves the mask, and no other. -/
theorem getLsbD_clear (inside : channel < 32) (i : ℕ) :
    (unscanned &&& ~~~BitVec.twoPow 32 channel).getLsbD i =
      (unscanned.getLsbD i && decide (i ≠ channel)) := by
  rw [BitVec.getLsbD_and, BitVec.getLsbD_not, BitVec.getLsbD_twoPow]
  by_cases small : i < 32
  · by_cases same : i = channel
    · simp [same, inside]
    · simp [same, Ne.symm same, small]
  · rw [BitVec.getLsbD_of_ge unscanned i (Nat.le_of_not_lt small)]
    rfl

theorem channels_clear (next : channels unscanned = channel :: rest) :
    channels (unscanned &&& ~~~BitVec.twoPow 32 channel) = rest := by
  have member : channel ∈ channels unscanned := next ▸ List.mem_cons_self
  have inside : channel < 32 := Nat.lt_of_le_of_lt (mem_channels.mp member).1.2 (by decide)
  have without := channels_nodup unscanned
  have left_ : channels (unscanned &&& ~~~BitVec.twoPow 32 channel) =
      (channels unscanned).filter fun i => decide (i ≠ channel) := by
    rw [channels, channels, List.filter_filter]
    apply List.filter_congr
    intro i _
    rw [getLsbD_clear inside, Bool.and_comm]
  rw [next, List.nodup_cons] at without
  rw [left_, next, List.filter_cons_of_neg (by simp), List.filter_eq_self]
  intro i later
  rw [decide_eq_true_eq]
  rintro rfl
  exact without.1 later

theorem supported_clear (inside : channel < 32) (supported : Supported unscanned) :
    Supported (unscanned &&& ~~~BitVec.twoPow 32 channel) := by
  intro i set
  rw [getLsbD_clear inside, Bool.and_eq_true] at set
  exact supported i set.1

end

/-! ## Turns -/

section
variable {w : Mac} {env : ℕ → Env} {scanType : UInt8} {total rest : List ℕ} {c : ScanConfirm}

/-- Nothing is due. -/
structure Idle (w : Mac) : Prop where
  callbacks : w.callbacks = []
  alarms : w.alarms = 0

theorem Idle.after (idle : Idle w) : ∀ k (env : ℕ → Env), ScanChannels.after w env k = w := by
  intro k
  induction k with
  | zero => exact fun _ => rfl
  | succ k induction_ =>
    intro env
    have same : w.fire (env 0) = w := by
      rw [Mac.fire, idle.callbacks]
      exact if_pos idle.alarms
    rw [ScanChannels.after, same]
    exact induction_ _

theorem Idle.not_asks (idle : Idle w) : ¬ Asks w := by
  rw [Asks, idle.callbacks]
  exact fun asks => asks.1 idle.alarms

/-- A scan that has ended without a confirm. -/
theorem Idle.not_exact (idle : Idle w) (none_ : w.confirms = []) : ¬ Exact scanType total w env := by
  rintro ⟨-, -, k, c, confirms, -⟩
  rw [idle.after, none_] at confirms
  cases confirms

/-- A scan that has ended with one. -/
theorem Idle.exact_iff (idle : Idle w) (confirms : w.confirms = [c]) (tuned : w.tuned = total)
    (same : c.scanType = scanType) :
    Exact scanType total w env ↔ (scanType = edScan → Listed c w.measured total) := by
  constructor
  · rintro ⟨-, -, k, c', confirms', -, -, listed⟩
    rw [idle.after, confirms] at confirms'
    cases confirms'
    rwa [idle.after] at listed
  · intro listed
    refine ⟨fun k => ?_, fun k => ?_, 0, c, confirms, tuned, same, listed⟩
    · have same_ : (ScanChannels.after w env k).tuned = total := by rw [idle.after, tuned]
      exact same_ ▸ List.prefix_refl _
    · rw [idle.after, confirms]
      exact Nat.le_refl _

/-- What is expected is expected after a turn. -/
theorem exact_next (tuned : w.tuned <+: total) (confirms : w.confirms = []) :
    Exact scanType total w env ↔
      Exact scanType total (w.fire (env 0)) fun n => env (n + 1) := by
  constructor
  · rintro ⟨prefixes, once, k, c, ends⟩
    refine ⟨fun k => prefixes (k + 1), fun k => once (k + 1), ?_⟩
    cases k with
    | zero =>
      rw [ScanChannels.after, confirms] at ends
      cases ends.1
    | succ k => exact ⟨k, c, ends⟩
  · rintro ⟨prefixes, once, k, c, ends⟩
    refine ⟨fun k => ?_, fun k => ?_, k + 1, c, ends⟩
    · cases k with
      | zero => exact tuned
      | succ k => exact prefixes k
    · cases k with
      | zero =>
        rw [ScanChannels.after, confirms]
        exact Nat.zero_le _
      | succ k => exact once k

/-- Every alarm that is asked for is left. -/
def AllLeft (w : Mac) (env : ℕ → Env) : Prop := ∀ k, Left (ScanChannels.after w env k) (env k)

theorem Idle.allLeft (idle : Idle w) (env : ℕ → Env) : AllLeft w env := by
  intro k asks
  rw [idle.after] at asks
  exact absurd asks idle.not_asks

theorem allLeft_next : AllLeft w env ↔
    Left w (env 0) ∧ AllLeft (w.fire (env 0)) fun n => env (n + 1) := by
  constructor
  · exact fun all => ⟨all 0, fun k => all (k + 1)⟩
  · rintro ⟨first, later⟩ k
    cases k with
    | zero => exact first
    | succ k => exact later k

/-! ## Steps -/

/-- A scan with channels left, and one step due. -/
structure Stepping (scanType : UInt8) (total : List ℕ) (w : Mac) (rest : List ℕ) : Prop where
  params : (scanParams w.pendingBuf).scanType = scanType
  list : scanType = edScan → (scanConfirm w.pendingBuf).resultListSize = 0
  due : w.callbacks = [.scanStep] ∧ w.alarms = 0 ∨ w.callbacks = [] ∧ w.alarms = 1
  supported : Supported w.unscannedChannels
  remaining : channels w.unscannedChannels = rest
  tuned : w.tuned ++ rest = total
  confirms : w.confirms = []

/-- The scan with its step taken off. -/
def Mac.taken (w : Mac) : Mac := { w with callbacks := [], alarms := 0 }

theorem Stepping.fire (stepping : Stepping scanType total w rest) (e : Env) :
    w.fire e = w.taken.mlmeScanStep e := by
  rw [Mac.fire, Mac.taken]
  rcases stepping.due with ⟨callbacks, alarms⟩ | ⟨callbacks, alarms⟩
  · rw [callbacks, ← alarms]
  · rw [callbacks, alarms]
    rfl

theorem Stepping.asks (stepping : Stepping scanType total w rest) : Asks w ↔ rest ≠ [] := by
  have next := nextChannel_eq stepping.supported
  rw [stepping.remaining] at next
  have some_ : nextChannel w.unscannedChannels ≠ none ↔ rest ≠ [] := by
    rw [next, Ne, List.head?_eq_none_iff]
  rw [Asks]
  rcases stepping.due with ⟨callbacks, -⟩ | ⟨callbacks, alarms⟩
  · rw [callbacks]
    exact some_
  · rw [callbacks, alarms]
    exact (and_iff_right Nat.one_ne_zero).trans some_

/-- The measurement of an energy scan changes no more than the energies. -/
structure Kept (w w' : Mac) : Prop where
  pendingBuf : w'.pendingBuf = w.pendingBuf
  callbacks : w'.callbacks = w.callbacks
  tuned : w'.tuned = w.tuned
  unscannedChannels : w'.unscannedChannels = w.unscannedChannels
  confirms : w'.confirms = w.confirms

theorem kept_getRssi (w : Mac) (e : Env) :
    Kept w (w.getRssi e) ∧ (w.getRssi e).alarms = w.alarms := by
  rw [Mac.getRssi]
  dsimp only
  split <;> exact ⟨⟨rfl, rfl, rfl, rfl, rfl⟩, rfl⟩

theorem kept_scheduleAlarm (w : Mac) (e : Env) :
    Kept w (w.scheduleAlarm e) ∧
      (w.scheduleAlarm e).alarms = w.alarms + if e.alarmLeft then 1 else 0 := by
  rw [Mac.scheduleAlarm]
  split <;> exact ⟨⟨rfl, rfl, rfl, rfl, rfl⟩, rfl⟩

theorem Kept.trans {w' w'' : Mac} (first : Kept w w') (second : Kept w' w'') : Kept w w'' where
  pendingBuf := second.pendingBuf.trans first.pendingBuf
  callbacks := second.callbacks.trans first.callbacks
  tuned := second.tuned.trans first.tuned
  unscannedChannels := second.unscannedChannels.trans first.unscannedChannels
  confirms := second.confirms.trans first.confirms

/-- What a step does with a channel; of the alarms it sets it leaves one. -/
theorem scanChannel_spec (w : Mac) (e : Env) (channel : ℕ) (taken : w.alarms = 0) :
    Kept { w with
      tuned := w.tuned ++ [channel]
      unscannedChannels := w.unscannedChannels &&& ~~~BitVec.twoPow 32 channel }
        (w.scanChannel e channel) ∧
      (w.scanChannel e channel).alarms = if e.alarmLeft then 1 else 0 := by
  obtain ⟨v, is, kept, alarms⟩ : ∃ v,
      v = (if (scanParams w.pendingBuf).scanType = edScan then
        (if w.edScanStepPassed then w.getRssi e
          else { w with edScanStepPassed := true }).scheduleAlarm e
        else w) ∧ Kept w v ∧ v.alarms ≤ 1 := by
    refine ⟨_, rfl, ?_⟩
    split
    · have armed (v : Mac) (kept : Kept w v) (none_ : v.alarms = w.alarms) :
          Kept w (v.scheduleAlarm e) ∧ (v.scheduleAlarm e).alarms ≤ 1 := by
        obtain ⟨kept', alarms⟩ := kept_scheduleAlarm v e
        refine ⟨kept.trans kept', ?_⟩
        rw [alarms, none_, taken]
        split <;> decide
      split
      · exact armed _ (kept_getRssi w e).1 (kept_getRssi w e).2
      · exact armed _ ⟨rfl, rfl, rfl, rfl, rfl⟩ rfl
    · exact ⟨⟨rfl, rfl, rfl, rfl, rfl⟩, by rw [taken]; exact Nat.zero_le _⟩
  rw [Mac.scanChannel, ← is]
  obtain ⟨kept', alarms'⟩ := kept_scheduleAlarm
    { v.transceiverSetChannel channel with
      unscannedChannels :=
        v.unscannedChannels &&& ~~~BitVec.twoPow 32 channel }.scheduleAlarmCancel e
  constructor
  · have tuned : Kept { w with
        tuned := w.tuned ++ [channel]
        unscannedChannels := w.unscannedChannels &&& ~~~BitVec.twoPow 32 channel }
        { v.transceiverSetChannel channel with
          unscannedChannels :=
            v.unscannedChannels &&& ~~~BitVec.twoPow 32 channel }.scheduleAlarmCancel :=
      ⟨kept.pendingBuf, kept.callbacks, congrArg (· ++ [channel]) kept.tuned,
        congrArg (· &&& ~~~BitVec.twoPow 32 channel) kept.unscannedChannels, kept.confirms⟩
    exact tuned.trans kept'
  · refine alarms'.trans ?_
    change v.alarms - 1 + _ = _
    rw [Nat.sub_eq_zero_of_le alarms, Nat.zero_add]

theorem scanEnd_spec (w : Mac) :
    ∃ c, (w.scanEnd).confirms = w.confirms ++ [c] ∧ (w.scanEnd).tuned = w.tuned ∧
      (w.scanEnd).callbacks = w.callbacks ∧ (w.scanEnd).alarms = w.alarms ∧
      c.scanType = (scanParams w.pendingBuf).scanType ∧
      c.resultListSize = (scanConfirm w.pendingBuf).resultListSize := by
  rw [Mac.scanEnd]
  dsimp only
  split <;> split <;> exact ⟨_, rfl, rfl, rfl, rfl, rfl, rfl⟩

theorem Stepping.last (stepping : Stepping scanType total w []) (e : Env) :
    ∃ c, Idle (w.fire e) ∧ (w.fire e).confirms = [c] ∧ (w.fire e).tuned = total ∧
      c.scanType = scanType ∧ (scanType = edScan → c.resultListSize = 0) := by
  have next : nextChannel w.unscannedChannels = none := by
    rw [nextChannel_eq stepping.supported, stepping.remaining]
    rfl
  have step : w.fire e = { w.taken with mlmeScanInProgress := true }.scanEnd := by
    rw [stepping.fire, Mac.mlmeScanStep]
    dsimp only [Mac.taken]
    rw [next]
  obtain ⟨c, confirms, tuned, callbacks, alarms, type, list⟩ :=
    scanEnd_spec { w.taken with mlmeScanInProgress := true }
  rw [step]
  refine ⟨c, ⟨callbacks, alarms⟩, ?_, ?_, type.trans stepping.params, fun ed => ?_⟩
  · rw [confirms]
    exact congrArg (· ++ [c]) stepping.confirms
  · rw [tuned, ← stepping.tuned, List.append_nil]
    rfl
  · exact list.trans (stepping.list ed)

/-- A step with a channel left goes on where it gets an alarm, and ends the scan where not. -/
theorem Stepping.next {channel : ℕ} (stepping : Stepping scanType total w (channel :: rest))
    (e : Env) :
    (e.alarmLeft = true → Stepping scanType total (w.fire e) rest) ∧
      (e.alarmLeft = false → Idle (w.fire e) ∧ (w.fire e).confirms = []) := by
  have next : nextChannel w.unscannedChannels = some channel := by
    rw [nextChannel_eq stepping.supported, stepping.remaining]
    rfl
  have step : w.fire e = { w.taken with mlmeScanInProgress := true }.scanChannel e channel := by
    rw [stepping.fire, Mac.mlmeScanStep]
    dsimp only [Mac.taken]
    rw [next]
  obtain ⟨kept, alarms⟩ :=
    scanChannel_spec { w.taken with mlmeScanInProgress := true } e channel rfl
  have member : channel ∈ channels w.unscannedChannels := stepping.remaining ▸ List.mem_cons_self
  have inside : channel < 32 := Nat.lt_of_le_of_lt (mem_channels.mp member).1.2 (by decide)
  rw [step]
  constructor
  · intro left_
    refine ⟨?_, fun ed => ?_, Or.inr ⟨kept.callbacks, ?_⟩, ?_, ?_, ?_, ?_⟩
    · rw [kept.pendingBuf]
      exact stepping.params
    · rw [kept.pendingBuf]
      exact stepping.list ed
    · rw [alarms, if_pos left_]
    · rw [kept.unscannedChannels]
      exact supported_clear inside stepping.supported
    · rw [kept.unscannedChannels]
      exact channels_clear stepping.remaining
    · rw [kept.tuned, ← stepping.tuned]
      exact List.append_assoc _ _ _
    · exact kept.confirms.trans stepping.confirms
  · intro none_
    refine ⟨⟨kept.callbacks, ?_⟩, kept.confirms.trans stepping.confirms⟩
    rw [alarms, none_]
    rfl

/-- A list of results of size 0 lists nothing. -/
theorem listed_iff {measured : List (ℕ × UInt8)} (size : c.resultListSize = 0) :
    Listed c measured total ↔ total = [] := by
  constructor
  · intro listed
    cases total with
    | nil => rfl
    | cons channel rest =>
      obtain ⟨i, inside, -⟩ := listed channel List.mem_cons_self
      rw [size] at inside
      exact absurd inside (Nat.not_lt_zero i)
  · rintro rfl channel member
    cases member

theorem Stepping.begun (stepping : Stepping scanType total w rest) : w.tuned <+: total :=
  ⟨rest, stepping.tuned⟩

/-- A scan with channels left is as expected where its alarms are left, if it need not list. -/
theorem Stepping.exact_iff (stepping : Stepping scanType total w rest) :
    Exact scanType total w env ↔ (scanType = edScan → total = []) ∧ AllLeft w env := by
  induction rest generalizing w env with
  | nil =>
    obtain ⟨c, idle, confirms, tuned, same, list⟩ := stepping.last (env 0)
    have left_ : AllLeft w env := by
      rw [allLeft_next]
      exact ⟨fun asks => absurd rfl (stepping.asks.mp asks), idle.allLeft _⟩
    rw [exact_next stepping.begun stepping.confirms, idle.exact_iff confirms tuned same,
      and_iff_left left_]
    constructor
    · exact fun listed ed => (listed_iff (list ed)).mp (listed ed)
    · exact fun none_ ed => (listed_iff (list ed)).mpr (none_ ed)
  | cons channel rest induction_ =>
    obtain ⟨goes, stops⟩ := stepping.next (env 0)
    rw [exact_next stepping.begun stepping.confirms, allLeft_next, Left, stepping.asks]
    cases left_ : (env 0).alarmLeft with
    | true =>
      have later : Exact scanType total (w.fire (env 0)) (fun n => env (n + 1)) ↔ _ :=
        induction_ (goes left_)
      rw [later, and_iff_right (fun _ => rfl)]
    | false =>
      obtain ⟨idle, none_⟩ := stops left_
      refine iff_of_false (idle.not_exact none_) ?_
      rintro ⟨-, first, -⟩
      cases first (List.cons_ne_nil _ _)

/-! ## Scans -/

/-- What a scan begins with. -/
theorem clearConfirm_spec (buf : Octets) (mask : BitVec 32) :
    (scanParams (clearConfirm buf mask)).scanType = edScan ∧
      (scanConfirm (clearConfirm buf mask)).resultListSize = 0 := by
  constructor <;> simp [scanParams, scanConfirm, clearConfirm, memcpy, maskOctets, paramsOffset,
    confirmOffset, edScan]

/-- A request that is accepted, its callback due. -/
def Mac.requested (w : Mac) (buf : Octets) : Mac :=
  { w with pendingBuf := buf, callbacks := [.handleScanRequest] }

theorem mlmeScanRequest_eq {buf : Octets} (ready : Ready w) (valid : Mac.Valid (scanParams buf)) :
    w.mlmeScanRequest buf = w.requested buf := by
  rw [Mac.mlmeScanRequest, if_pos ⟨valid, ready.inProgress⟩, ready.callbacks]
  rfl

/-- The request with its callback taken off. -/
def Mac.handled (w : Mac) (buf : Octets) : Mac := { w with pendingBuf := buf, callbacks := [] }

theorem fire_requested (w : Mac) (buf : Octets) (e : Env) :
    (w.requested buf).fire e = (w.handled buf).handleScanRequest e := rfl

theorem asks_requested (w : Mac) (buf : Octets) : Asks (w.requested buf) ↔
    (scanParams buf).scanType = edScan ∨ (scanParams buf).scanType = orphanScan := Iff.rfl

section
variable {buf : Octets} {e : Env} (ready : Ready w)

include ready

/-- The active scan steps at once, in a callback. -/
theorem handle_active (supported : Supported (scanParams buf).channels)
    (type : (scanParams buf).scanType = activeScan) :
    Stepping activeScan (channels (scanParams buf).channels) ((w.handled buf).handleScanRequest e)
      (channels (scanParams buf).channels) := by
  have handle : (w.handled buf).handleScanRequest e = (w.handled buf).mlmeActiveScan := if_pos type
  rw [handle]
  refine ⟨type, nofun, Or.inl ⟨rfl, ready.alarms⟩, supported, rfl, ?_, ready.confirms⟩
  exact congrArg (· ++ channels (scanParams buf).channels) ready.tuned

/-- The energy scan waits first; where no alarm is left for that it is over. -/
theorem handle_ed (supported : Supported (scanParams buf).channels)
    (type : (scanParams buf).scanType = edScan) :
    (e.alarmLeft = true → Stepping edScan (channels (scanParams buf).channels)
        ((w.handled buf).handleScanRequest e) (channels (scanParams buf).channels)) ∧
      (e.alarmLeft = false → Idle ((w.handled buf).handleScanRequest e) ∧
        ((w.handled buf).handleScanRequest e).confirms = []) := by
  have handle : (w.handled buf).handleScanRequest e =
      { (w.handled buf).mlmeEdScan e with edScanStepPassed := false } := by
    rw [Mac.handleScanRequest, if_neg, if_pos]
    · exact type
    · change (scanParams buf).scanType ≠ activeScan
      rw [type]
      decide
  have cleared := clearConfirm_spec buf (scanParams buf).channels
  rw [handle, Mac.mlmeEdScan]
  constructor
  · intro left_
    rw [Mac.scheduleAlarm, if_pos left_]
    refine ⟨cleared.1, fun _ => cleared.2, Or.inr ⟨rfl, congrArg (· + 1) ready.alarms⟩, supported,
      rfl, ?_, ready.confirms⟩
    exact congrArg (· ++ channels (scanParams buf).channels) ready.tuned
  · intro none_
    rw [Mac.scheduleAlarm, none_]
    exact ⟨⟨rfl, ready.alarms⟩, ready.confirms⟩

theorem handle_orphan (supported : Supported (scanParams buf).channels)
    (type : (scanParams buf).scanType = orphanScan) :
    (e.alarmLeft = true → Stepping orphanScan (channels (scanParams buf).channels)
        ((w.handled buf).handleScanRequest e) (channels (scanParams buf).channels)) ∧
      (e.alarmLeft = false → Idle ((w.handled buf).handleScanRequest e) ∧
        ((w.handled buf).handleScanRequest e).confirms = []) := by
  have handle : (w.handled buf).handleScanRequest e = (w.handled buf).mlmeOrphanScan e := by
    have other : (scanParams buf).scanType ≠ activeScan ∧ (scanParams buf).scanType ≠ edScan := by
      rw [type]
      decide
    exact (if_neg other.1).trans ((if_neg other.2).trans (if_pos type))
  rw [handle, Mac.mlmeOrphanScan]
  constructor
  · intro left_
    rw [Mac.scheduleAlarm, if_pos left_]
    refine ⟨type, nofun, Or.inr ⟨rfl, congrArg (· + 1) ready.alarms⟩, supported, rfl, ?_,
      ready.confirms⟩
    exact congrArg (· ++ channels (scanParams buf).channels) ready.tuned
  · intro none_
    rw [Mac.scheduleAlarm, none_]
    exact ⟨⟨rfl, ready.alarms⟩, ready.confirms⟩

/-- A passive scan is dropped. -/
theorem handle_other (type : (scanParams buf).scanType ≠ activeScan)
    (type' : (scanParams buf).scanType ≠ edScan) (type'' : (scanParams buf).scanType ≠ orphanScan) :
    Idle ((w.handled buf).handleScanRequest e) ∧
      ((w.handled buf).handleScanRequest e).confirms = [] := by
  have handle : (w.handled buf).handleScanRequest e = w.handled buf :=
    (if_neg type).trans ((if_neg type').trans (if_neg type''))
  rw [handle]
  exact ⟨⟨rfl, ready.alarms⟩, ready.confirms⟩

/-- What is expected of the request is expected of its callback. -/
theorem exact_requested : Exact scanType total (w.requested buf) env ↔
    Exact scanType total ((w.handled buf).handleScanRequest (env 0)) fun n => env (n + 1) := by
  rw [← fire_requested]
  exact exact_next (ready.tuned ▸ List.nil_prefix) ready.confirms

omit ready in
theorem allLeft_requested : AllLeft (w.requested buf) env ↔
    (((scanParams buf).scanType = edScan ∨ (scanParams buf).scanType = orphanScan) →
        (env 0).alarmLeft = true) ∧
      AllLeft ((w.handled buf).handleScanRequest (env 0)) fun n => env (n + 1) := by
  rw [allLeft_next, Left, asks_requested, fire_requested]

/-- A scan that waits first. -/
theorem exact_waiting
    (asks : (scanParams buf).scanType = edScan ∨ (scanParams buf).scanType = orphanScan)
    (goes : (env 0).alarmLeft = true →
      Stepping scanType total ((w.handled buf).handleScanRequest (env 0)) rest)
    (stops : (env 0).alarmLeft = false → Idle ((w.handled buf).handleScanRequest (env 0)) ∧
      ((w.handled buf).handleScanRequest (env 0)).confirms = []) :
    Exact scanType total (w.requested buf) env ↔
      (scanType = edScan → total = []) ∧ AllLeft (w.requested buf) env := by
  rw [exact_requested ready, allLeft_requested]
  cases left_ : (env 0).alarmLeft with
  | true => rw [(goes left_).exact_iff, and_iff_right (fun _ => rfl)]
  | false =>
    obtain ⟨idle, none_⟩ := stops left_
    refine iff_of_false (idle.not_exact none_) ?_
    rintro ⟨-, first, -⟩
    cases first asks

end

/-- A scan is as expected exactly where it is an active or an orphan scan, or an energy scan of no
channel, and the alarms it asks for are left: a passive scan is never confirmed, and the confirm of
an energy scan lists no channel. -/
theorem scan_exact_iff {buf : Octets} (ready : Ready w) (valid : Mac.Valid (scanParams buf))
    (supported : Supported (scanParams buf).channels) :
    Exact (scanParams buf).scanType (channels (scanParams buf).channels) (w.mlmeScanRequest buf)
        env ↔
      ((scanParams buf).scanType = activeScan ∨ (scanParams buf).scanType = orphanScan ∨
        (scanParams buf).scanType = edScan ∧ channels (scanParams buf).channels = []) ∧
        AllLeft (w.mlmeScanRequest buf) env := by
  rw [mlmeScanRequest_eq ready valid]
  by_cases active : (scanParams buf).scanType = activeScan
  · have stepping := handle_active (e := env 0) ready supported active
    rw [exact_requested ready, allLeft_requested, active, stepping.exact_iff]
    simp [activeScan, edScan, orphanScan]
  by_cases ed : (scanParams buf).scanType = edScan
  · obtain ⟨goes, stops⟩ := handle_ed (e := env 0) ready supported ed
    rw [ed, exact_waiting ready (.inl ed) goes stops]
    simp [activeScan, edScan, orphanScan]
  by_cases orphan : (scanParams buf).scanType = orphanScan
  · obtain ⟨goes, stops⟩ := handle_orphan (e := env 0) ready supported orphan
    rw [orphan, exact_waiting ready (.inr orphan) goes stops]
    simp [activeScan, edScan, orphanScan]
  · obtain ⟨idle, none_⟩ := handle_other (e := env 0) ready active ed orphan
    rw [exact_requested ready]
    refine iff_of_false (idle.not_exact none_) ?_
    rintro ⟨active' | orphan' | ⟨ed', -⟩, -⟩
    · exact active active'
    · exact orphan orphan'
    · exact ed ed'

/-- A transceiver on channel 11 with no scan under way. -/
def idleMac : Mac where
  pendingBuf := fun _ => 0
  unscannedChannels := 0
  mlmeScanInProgress := false
  edScanStepPassed := false
  rtCtx := fun _ => 0
  currentChannel := 11
  callbacks := []
  alarms := 0
  tuned := []
  measured := []
  confirms := []

theorem ready_idleMac : Ready idleMac := ⟨rfl, rfl, rfl, rfl, rfl⟩

/-- A request to scan channel 12, with the octet of the type and the duration. -/
def scan12 (octet : UInt8) : Octets := fun i => if i = 140 then octet else if i = 145 then 16 else 0

theorem supported_scan12 (octet : UInt8) : Supported (scanParams (scan12 octet)).channels := by
  intro i set
  have mask : (scanParams (scan12 octet)).channels = BitVec.twoPow 32 12 := by
    simp [scanParams, paramsOffset, scan12, Octets.le32]
    decide
  rw [mask, BitVec.getLsbD_twoPow, Bool.and_eq_true, decide_eq_true_eq, decide_eq_true_eq] at set
  rw [← set.2]
  decide

/-- The active scan of channel 12. -/
theorem scan_exact_active :
    Exact activeScan [12] (idleMac.mlmeScanRequest (scan12 13)) fun _ => ⟨0, true⟩ :=
  (scan_exact_iff ready_idleMac (by decide +kernel) (supported_scan12 13)).mpr
    ⟨.inl (by decide +kernel), fun _ _ => rfl⟩

/-- The energy scan of channel 12 lists no energy. -/
theorem scan_inexact_ed :
    ¬ Exact edScan [12] (idleMac.mlmeScanRequest (scan12 12)) fun _ => ⟨77, true⟩ := by
  have ed : (scanParams (scan12 12)).scanType = edScan := by decide +kernel
  obtain ⟨goes, stops⟩ := handle_ed (e := ⟨77, true⟩) ready_idleMac (supported_scan12 12) ed
  rw [mlmeScanRequest_eq ready_idleMac (by decide +kernel)]
  intro listed
  have waiting : Exact edScan [12] (idleMac.requested (scan12 12)) (fun _ => ⟨77, true⟩) ↔ _ :=
    exact_waiting ready_idleMac (.inl ed) goes stops
  cases (waiting.mp listed).1 rfl

end

end Zboss.ScanChannels
