import Zboss.Common.OwnAlarms
import Zboss.Zdo.ChannelChange

/-!
How often the network channel manager changes the channel (`zdo_channel_manager.c`).  A change sets
a flag and starts a long timer of sixty alarms of a minute; the callback that the last of them
schedules clears the flag.  The flags of the ZDO are bits of one octet that are cleared with masks
written without parentheses.
-/

namespace Zboss.ChannelManager

open Zboss.Alarm
open Zboss.ChannelChange
open Zboss.Run

/-- The callback `zb_zdo_long_timer_cb`. -/
def zdoLongTimerCb : ℕ := 0

/-- The callback `zb_zdo_channel_check_timer_cb`. -/
def zdoChannelCheckTimerCb : ℕ := 1

def txTotalThreshold : UInt16 := 20

/-- `ZB_FAILS_PERCENTAGE`, a divider. -/
def failsPercentage : UInt16 := 4

/-- `ZB_DEFAULT_APS_CHANNEL_MASK` and `ZB_TRANSCEIVER_ALL_CHANNELS_MASK`. -/
def defaultApsChannelMask : UInt32 := 0x1800
@[inherit_doc defaultApsChannelMask] def allChannelsMask : UInt32 := 0x07FFF800

def defaultScanDuration : UInt8 := 3

def zdo1MinTimeout : UInt16 := .ofNat (timeOneSecond * 60)

/-! ## The flags -/

/-- `ZB_ZDO_SET_CHECK_FAILS`. -/
def setCheckFails (flags : UInt8) : UInt8 := flags ||| 1

/-- `ZB_ZDO_CLEAR_CHECK_FAILS`. -/
def clearCheckFails (flags : UInt8) : UInt8 := flags &&& ~~~(1 : UInt8)

/-- `ZB_ZDO_GET_CHECK_FAILS`. -/
def getCheckFails (flags : UInt8) : Bool := flags &&& 1 ≠ 0

/-- `ZB_ZDO_SET_SEND_WITH_ACK`. -/
def setSendWithAck (flags : UInt8) : UInt8 := flags ||| (1 : UInt8) <<< 1

/-- `ZB_ZDO_CLEAR_SEND_WITH_ACK`; the complement is taken before the shift, here and below. -/
def clearSendWithAck (flags : UInt8) : UInt8 := flags &&& ~~~(1 : UInt8) <<< 1

/-- `ZB_ZDO_GET_SEND_WITH_ACK`. -/
def getSendWithAck (flags : UInt8) : Bool := flags &&& (1 : UInt8) <<< 1 ≠ 0

/-- `ZB_ZDO_SET_CHANNEL_CHANGED`. -/
def setChannelChanged (flags : UInt8) : UInt8 := flags ||| (1 : UInt8) <<< 2

/-- `ZB_ZDO_CLEAR_CHANNEL_CHANGED`. -/
def clearChannelChanged (flags : UInt8) : UInt8 := flags &&& ~~~(1 : UInt8) <<< 2

/-- `ZB_ZDO_GET_CHANNEL_CHANGED`. -/
def getChannelChanged (flags : UInt8) : Bool := flags &&& (1 : UInt8) <<< 2 ≠ 0

/-! ## The manager -/

/-- The confirm of an energy scan. -/
structure ScanConfirm where
  status : UInt8
  unscannedChannels : UInt32
  energyDetect : ℕ → UInt8

/-- The manager: its scheduler, what channel changes work on, the flags (`channelChanged` of the
device is the bit of them), whether `long_timer_cb` is set, whether `zb_zdo_channel_change_timer_cb`
waits in the callback queue, and when channel changes were sent, the last one first. -/
structure Manager where
  sched : Sched
  device : Device
  flags : UInt8
  longTimerCb : Bool
  timerCbQueued : Bool
  changes : List ℕ

namespace Manager

def init (device : Device) : Manager where
  sched := Sched.init
  device := device
  flags := 0
  longTimerCb := false
  timerCbQueued := false
  changes := []

/-- `zb_zdo_start_long_timer`; none where its assertion fails. -/
def startLongTimer (m : Manager) (longTimer : UInt8) : Option Manager :=
  if m.longTimerCb then none
  else
    some { m with
      device := m.device.startLongTimer longTimer
      longTimerCb := true
      sched := (m.sched.scheduleAlarm zdoLongTimerCb 0 zdo1MinTimeout).2 }

/-- `zdo_change_channel`; none where building the request does not end, too. -/
def changeChannel (beyond : UInt8 → UInt32) (m : Manager) (report : Report) : Option Manager :=
  let device := { m.device with channelChanged := getChannelChanged m.flags }
  (device.changeChannel beyond report).bind fun changed =>
    let m := { m with device := changed.1 }
    if changed.2.isSome then
      { m with
        flags := setChannelChanged m.flags
        changes := m.sched.ticks :: m.changes }.startLongTimer apsChanelTimer
    else some m

/-- `zb_zdo_long_timer_cb`; the callback queue has `room` for one more or not. -/
def longTimerCbRuns (m : Manager) (room : Bool) : Manager :=
  let longTimer := m.device.longTimer - 1
  let m := { m with device := { m.device with longTimer := longTimer } }
  if longTimer ≠ 0 then
    { m with sched := (m.sched.scheduleAlarm zdoLongTimerCb 0 zdo1MinTimeout).2 }
  else { m with timerCbQueued := m.timerCbQueued || room, longTimerCb := false }

/-- `zb_zdo_channel_change_timer_cb`. -/
def channelChangeTimerCb (m : Manager) : Manager :=
  { m with timerCbQueued := false, flags := clearChannelChanged m.flags }

/-- `zb_zdo_check_fails`. -/
def checkFails (m : Manager) : Manager :=
  if m.device.nwkTxTotal > txTotalThreshold ∧ getCheckFails m.flags = false then
    if m.device.nwkTxFail > m.device.nwkTxTotal / failsPercentage then
      { m with
        flags := setCheckFails m.flags
        sched := m.sched.step (.schedule zdoChannelCheckTimerCb 0 zdo15MinTimeout)
        device := { m.device with
          edScan := some ⟨defaultApsChannelMask, defaultScanDuration, 1, 0, 0⟩ } }
    else m
  else m

/-- `zb_zdo_channel_check_timer_cb`. -/
def channelCheckTimerCb (m : Manager) : Manager :=
  { m with flags := clearCheckFails m.flags }

/-- `zb_zdo_channel_check_scan_result`, up to its call of `zb_nlme_ed_scan_confirm`. -/
def channelCheckScanResult (beyond : UInt8 → UInt32) (m : Manager) (result : ScanConfirm) :
    Manager :=
  let current := m.device.currentChannel
  if result.status = 0 ∧ result.unscannedChannels &&& oneShl beyond current = 0 ∧
      result.energyDetect (current.toNat - startChannelNumber) > channelBusyEdValue then
    let nwkUpdReq := m.device.edScan.getD ⟨0, 0, 0, 0, 0⟩
    { m with
      flags := setSendWithAck m.flags
      device := { m.device with
        edScan := some { nwkUpdReq with
          scanCount := 0
          scanChannels := allChannelsMask
          tsn := 0
          dstAddr := m.device.managerAddr } } }
  else m

/-- The flag as `zb_zdo_nwk_upd_notify` reads and clears it. -/
def nwkUpdNotify (m : Manager) : Manager :=
  if getSendWithAck m.flags then { m with flags := clearSendWithAck m.flags } else m

/-- `zb_zdo_channel_check_finish_cb`. -/
def channelCheckFinishCb (m : Manager) (status : UInt8) : Manager :=
  if status = 0 then { m with device := { m.device with nwkTxTotal := 0, nwkTxFail := 0 } } else m

/-- The callback of an alarm that is invoked. -/
def alarmCb (m : Manager) (ent : TmQEnt) (room : Bool) : Manager :=
  if ent.func = zdoLongTimerCb then m.longTimerCbRuns room
  else if ent.func = zdoChannelCheckTimerCb then m.channelCheckTimerCb
  else m

end Manager

/-- Steps of the scheduler, the callbacks of this component, and what other code writes of the
device. -/
inductive Op
  | sched (op : Alarm.Op) (room : Bool)
  | updateNotify (report : Report)
  | channelChangeTimer
  | checkFails
  | scanResult (result : ScanConfirm)
  | nwkUpdNotify
  | channelCheckFinish (status : UInt8)
  | write (device : Device)

/-- The long timer's callback runs in this step. -/
def Manager.timesOut (m : Manager) (op : Alarm.Op) : Prop :=
  ∃ ent ∈ m.sched.invokes op, ent.func = zdoLongTimerCb

instance (m : Manager) (op : Alarm.Op) : Decidable (m.timesOut op) :=
  inferInstanceAs (Decidable (∃ ent ∈ m.sched.invokes op, _))

/-- One step.  Nobody else schedules or cancels the alarm of the long timer, and reports are handled
between the passes over the alarms. -/
def Manager.step (beyond : UInt8 → UInt32) (m : Manager) : Op → Option Manager
  | .sched op room =>
    if op.LeavesAlone zdoLongTimerCb then
      let after := { m with sched := m.sched.step op }
      some ((m.sched.invokes op).elim after fun ent => after.alarmCb ent room)
    else some m
  | .updateNotify report =>
    if m.sched.pass = none then m.changeChannel beyond report else some m
  | .channelChangeTimer => some (if m.timerCbQueued then m.channelChangeTimerCb else m)
  | .checkFails => some m.checkFails
  | .scanResult result => some (m.channelCheckScanResult beyond result)
  | .nwkUpdNotify => some m.nwkUpdNotify
  | .channelCheckFinish status => some (m.channelCheckFinishCb status)
  | .write device => some { m with device := { device with longTimer := m.device.longTimer } }

/-- One step of a run; none once an assertion has failed or a loop does not end. -/
def next (beyond : UInt8 → UInt32) (m : Option Manager) (op : Op) : Option Manager :=
  m.bind (·.step beyond op)

/-- No pass over the alarms has lasted seven minutes when it invokes the long timer. -/
def Op.Prompt (m : Option Manager) : Op → Prop
  | .sched op _ => ∀ manager ∈ m, manager.timesOut op →
      ∀ t ∈ manager.sched.pass, manager.sched.timer - t ≤ 27300
  | _ => True

instance (m : Option Manager) (op : Op) : Decidable (op.Prompt m) := by
  cases op <;> unfold Op.Prompt <;> infer_instance

/-! ## The flag of a change -/

/-- Of the other flags' macros none touches the flag of a change. -/
theorem getChannelChanged_and {flags mask : UInt8} (keeps : mask.toNat &&& 4 = 4) :
    getChannelChanged (flags &&& mask) = getChannelChanged flags := by
  have same : flags &&& mask &&& (1 : UInt8) <<< 2 = flags &&& (1 : UInt8) <<< 2 := by
    apply UInt8.toNat_inj.mp
    have bit : ((1 : UInt8) <<< 2).toNat = 4 := by decide
    rw [UInt8.toNat_and, UInt8.toNat_and, UInt8.toNat_and, bit, Nat.and_assoc, keeps]
  rw [getChannelChanged, getChannelChanged, same]

theorem getChannelChanged_or {flags mask : UInt8} (keeps : mask.toNat &&& 4 = 0) :
    getChannelChanged (flags ||| mask) = getChannelChanged flags := by
  have same : (flags ||| mask) &&& (1 : UInt8) <<< 2 = flags &&& (1 : UInt8) <<< 2 := by
    apply UInt8.toNat_inj.mp
    have bit : ((1 : UInt8) <<< 2).toNat = 4 := by decide
    rw [UInt8.toNat_and, UInt8.toNat_or, UInt8.toNat_and, bit, Nat.and_or_distrib_right, keeps,
      Nat.or_zero]
  rw [getChannelChanged, getChannelChanged, same]

theorem getChannelChanged_clear (flags : UInt8) :
    getChannelChanged (clearChannelChanged flags) = false := by
  have none_ : flags &&& ~~~(1 : UInt8) <<< 2 &&& (1 : UInt8) <<< 2 = 0 := by
    rw [UInt8.and_assoc]
    exact UInt8.and_zero
  rw [getChannelChanged, clearChannelChanged, none_]
  rfl

theorem getChannelChanged_set (flags : UInt8) :
    getChannelChanged (setChannelChanged flags) = true := by
  have some_ : (flags ||| (1 : UInt8) <<< 2) &&& (1 : UInt8) <<< 2 = (1 : UInt8) <<< 2 := by
    apply UInt8.toNat_inj.mp
    have bit : ((1 : UInt8) <<< 2).toNat = 4 := by decide
    rw [UInt8.toNat_and, UInt8.toNat_or, bit]
    apply Nat.eq_of_testBit_eq
    intro i
    rw [Nat.testBit_and, Nat.testBit_or]
    cases Nat.testBit 4 i <;> simp
  rw [getChannelChanged, setChannelChanged, some_]
  rfl

/-! ## The pace -/

/-- Sixty minutes, in beacon intervals. -/
def hour : ℕ := apsChanelTimer.toNat * zdo1MinTimeout.toNat

/-- The manager may change the channel. -/
structure Idle (m : Manager) : Prop where
  flag : getChannelChanged m.flags = false
  free : m.longTimerCb = false
  silent : Sched.Only zdoLongTimerCb none m.sched
  late : m.timerCbQueued = false
  past : ∀ change ∈ m.changes.head?, change + hour ≤ m.sched.ticks

/-- The manager counts minutes since a change.  An alarm for which there was no room does not come
any more. -/
structure Counting (m : Manager) (alarm : Option (TmQEnt × UInt16)) (change : ℕ) : Prop where
  flag : getChannelChanged m.flags = true
  taken : m.longTimerCb = true
  early : m.timerCbQueued = false
  only : Sched.Only zdoLongTimerCb alarm m.sched
  last : m.changes.head? = some change
  positive : 0 < m.device.longTimer.toNat
  atMost : m.device.longTimer.toNat ≤ apsChanelTimer.toNat
  minute : ∀ ent runAfter, alarm = some (ent, runAfter) → runAfter = zdo1MinTimeout ∧
    change + (apsChanelTimer.toNat - m.device.longTimer.toNat) * zdo1MinTimeout.toNat ≤
      ent.scheduled

/-- The manager waits for the callback that clears the flag, if there was room for it. -/
structure Expired (m : Manager) (change : ℕ) : Prop where
  flag : getChannelChanged m.flags = true
  free : m.longTimerCb = false
  silent : Sched.Only zdoLongTimerCb none m.sched
  last : m.changes.head? = some change
  past : change + hour ≤ m.sched.ticks

/-- Where the manager is between two changes. -/
inductive Pace (m : Manager) : Prop
  | idle (idle : Idle m)
  | counting (alarm : Option (TmQEnt × UInt16)) (change : ℕ) (counting : Counting m alarm change)
  | expired (change : ℕ) (expired : Expired m change)

/-- Changes so far are an hour apart, and the next one will be. -/
structure Paced (m : Manager) : Prop where
  pace : Pace m
  apart : m.changes.IsChain fun later earlier => earlier + hour ≤ later

variable {beyond : UInt8 → UInt32} {m m' : Manager}

theorem getChannelChanged_init : getChannelChanged 0 = false := by decide

theorem init_paced (device : Device) : Paced (Manager.init device) where
  pace := .idle ⟨getChannelChanged_init, rfl, Sched.Only.of_none rfl, rfl, fun _ none_ => by
    cases none_⟩
  apart := List.isChain_nil

theorem minute_ahead {s : Sched} (prompt : ∀ t ∈ s.pass, s.timer - t ≤ 27300) :
    s.Ahead zdo1MinTimeout := by
  refine Or.inr ⟨by decide, fun t reads => ?_⟩
  have bound := UInt16.le_iff_toNat_le.mp (prompt t reads)
  have minute : zdo1MinTimeout.toNat = 3900 := by decide
  have range : (27300 : UInt16).toNat = 27300 := by decide
  rw [UInt16.lt_iff_toNat_lt, UInt16.le_iff_toNat_le, UInt16.toNat_add, minute]
  rw [range] at bound
  show 0 < _ ∧ _ ≤ 32769
  omega

/-- A change of the flags that keeps the flag of a change. -/
theorem Paced.flags (paced : Paced m) (flags : UInt8)
    (same : getChannelChanged flags = getChannelChanged m.flags) :
    Paced { m with flags := flags } := by
  refine ⟨?_, paced.apart⟩
  cases paced.pace with
  | idle idle => exact .idle { idle with flag := same.trans idle.flag }
  | counting alarm change counting =>
    exact .counting alarm change { counting with flag := same.trans counting.flag }
  | expired change expired => exact .expired change { expired with flag := same.trans expired.flag }

/-- What others write of the device. -/
theorem Paced.device (paced : Paced m) (device : Device)
    (same : device.longTimer = m.device.longTimer) : Paced { m with device := device } := by
  refine ⟨?_, paced.apart⟩
  cases paced.pace with
  | idle idle => exact .idle { idle with }
  | counting alarm change counting =>
    obtain ⟨flag, taken, early, only, last, positive, atMost, minute⟩ := counting
    rw [← same] at positive atMost minute
    exact .counting alarm change ⟨flag, taken, early, only, last, positive, atMost, minute⟩
  | expired change expired => exact .expired change { expired with }

theorem Paced.others (paced : Paced m) {op : Alarm.Op} (alone : op.LeavesAlone zdoLongTimerCb)
    (quiet : ¬m.timesOut op) : Paced { m with sched := m.sched.step op } := by
  have forward := m.sched.step_ticks op
  have silent_ : ∀ ent, m.sched.invokes op = some ent → ent.func ≠ zdoLongTimerCb :=
    fun ent invoked own => quiet ⟨ent, invoked, own⟩
  refine ⟨?_, paced.apart⟩
  cases paced.pace with
  | idle idle =>
    exact .idle { idle with
      silent := idle.silent.step alone silent_
      past := fun change last => (idle.past change last).trans forward }
  | counting alarm change counting =>
    exact .counting alarm change { counting with only := counting.only.step alone silent_ }
  | expired change expired =>
    exact .expired change { expired with
      silent := expired.silent.step alone silent_
      past := expired.past.trans forward }

/-- A minute is over: the next one begins, or all sixty are. -/
theorem Paced.timesOut (paced : Paced m) {op : Alarm.Op} (comes : m.timesOut op)
    (prompt : ∀ t ∈ m.sched.pass, m.sched.timer - t ≤ 27300) (room : Bool) :
    Paced ({ m with sched := m.sched.step op }.longTimerCbRuns room) := by
  obtain ⟨ent, invoked, own⟩ := comes
  cases paced.pace with
  | idle idle =>
    obtain ⟨runAfter, waiting, -, -⟩ := idle.silent.invokes invoked own
    cases waiting
  | expired change expired =>
    obtain ⟨runAfter, waiting, -, -⟩ := expired.silent.invokes invoked own
    cases waiting
  | counting alarm change counting =>
    obtain ⟨flag, taken, early, only, last, positive, atMost, minute⟩ := counting
    obtain ⟨runAfter, waiting, come, none_⟩ := only.invokes invoked own
    obtain ⟨rfl, begun⟩ := minute ent runAfter waiting
    have forward := m.sched.step_ticks op
    have before : (m.device.longTimer - 1).toNat = m.device.longTimer.toNat - 1 :=
      UInt8.toNat_sub_of_le _ _ (UInt8.le_iff_toNat_le.mpr positive)
    have reached : change + (apsChanelTimer.toNat - (m.device.longTimer.toNat - 1)) *
        zdo1MinTimeout.toNat ≤ (m.sched.step op).ticks := by
      have one : apsChanelTimer.toNat - (m.device.longTimer.toNat - 1) =
          apsChanelTimer.toNat - m.device.longTimer.toNat + 1 := by omega
      rw [one, Nat.succ_mul]
      omega
    refine ⟨?_, ?_⟩
    · rw [Manager.longTimerCbRuns]
      by_cases more : m.device.longTimer - 1 ≠ 0
      · rw [if_pos more]
        obtain ⟨-, samePass, sameTicks⟩ := Sched.invokes_spec invoked
        have ahead : (m.sched.step op).Ahead zdo1MinTimeout := by
          apply minute_ahead
          rwa [samePass, Sched.timer, sameTicks]
        refine .counting _ change
          ⟨flag, taken, early, none_.scheduleAlarm 0 ahead, last, ?_, ?_, ?_⟩
        · exact Nat.pos_of_ne_zero fun zero => more (UInt8.toNat_inj.mp zero)
        · show (m.device.longTimer - 1).toNat ≤ _
          omega
        · intro ent' runAfter scheduled
          split_ifs at scheduled
          cases scheduled
          refine ⟨rfl, ?_⟩
          show change + (apsChanelTimer.toNat - (m.device.longTimer - 1).toNat) * _ ≤ _
          rw [before]
          exact reached
      · rw [if_neg more]
        refine .expired change ⟨flag, rfl, none_, last, ?_⟩
        have zero : m.device.longTimer.toNat - 1 = 0 := by
          rw [← before, not_not.mp more]
          rfl
        rw [zero, Nat.sub_zero] at reached
        exact reached
    · rw [Manager.longTimerCbRuns]
      dsimp only
      split_ifs
      · exact paced.apart
      · exact paced.apart

/-- A report after which the manager stays changes nothing. -/
theorem unchanged_longTimer {d d' : Device} {report : Report}
    (changed : d.changeChannel beyond report = some (d', none)) :
    d'.longTimer = d.longTimer := by
  rw [Device.changeChannel] at changed
  split at changed
  · dsimp only at changed
    split at changed <;> cases changed
  · cases changed
    rfl

theorem apsChanelTimer_pos : 0 < apsChanelTimer.toNat := by decide

/-- A report is handled: the manager changes the channel only when it is idle, and then the long
timer is free. -/
theorem Paced.changeChannel (paced : Paced m) (between : m.sched.pass = none) {report : Report}
    (handled : m.changeChannel beyond report = some m') : Paced m' := by
  rw [Manager.changeChannel] at handled
  obtain ⟨⟨device, packet⟩, changed, handled⟩ := Option.bind_eq_some_iff.mp handled
  dsimp only at handled
  cases packet with
  | none =>
    rw [if_neg (by exact Bool.false_ne_true)] at handled
    cases handled
    have same := unchanged_longTimer changed
    exact paced.device device same
  | some packet =>
    have sent : (some packet).isSome = true := rfl
    rw [if_pos sent, Manager.startLongTimer] at handled
    obtain ⟨accepted, -⟩ := Device.changeChannel_spec changed
    have flag : getChannelChanged m.flags = false := accepted.1
    cases paced.pace with
    | counting alarm change counting => cases flag.symm.trans counting.flag
    | expired change expired => cases flag.symm.trans expired.flag
    | idle idle =>
      dsimp only at handled
      rw [idle.free, if_neg Bool.false_ne_true] at handled
      cases handled
      have ahead : m.sched.Ahead zdo1MinTimeout :=
        minute_ahead fun t reads => by rw [between] at reads; cases reads
      refine ⟨?_, ?_⟩
      · refine .counting _ m.sched.ticks ⟨getChannelChanged_set _, rfl, idle.late,
          idle.silent.scheduleAlarm 0 ahead, rfl, apsChanelTimer_pos, le_rfl, ?_⟩
        intro ent runAfter scheduled
        split_ifs at scheduled
        cases scheduled
        refine ⟨rfl, ?_⟩
        show m.sched.ticks + (apsChanelTimer.toNat - apsChanelTimer.toNat) * _ ≤ m.sched.ticks
        rw [Nat.sub_self, Nat.zero_mul, Nat.add_zero]
      · exact List.isChain_cons.mpr ⟨fun change last => idle.past change last, paced.apart⟩

/-- A step of the scheduler, with the callback it invokes. -/
theorem Paced.sched (paced : Paced m) {op : Alarm.Op} (alone : op.LeavesAlone zdoLongTimerCb)
    (prompt : m.timesOut op → ∀ t ∈ m.sched.pass, m.sched.timer - t ≤ 27300) (room : Bool) :
    Paced ((m.sched.invokes op).elim { m with sched := m.sched.step op } fun ent =>
      { m with sched := m.sched.step op }.alarmCb ent room) := by
  cases invoked : m.sched.invokes op with
  | none =>
    refine paced.others alone ?_
    rintro ⟨ent, comes, -⟩
    rw [invoked] at comes
    cases comes
  | some ent =>
    rw [Option.elim_some, Manager.alarmCb]
    by_cases own : ent.func = zdoLongTimerCb
    · rw [if_pos own]
      exact paced.timesOut ⟨ent, invoked, own⟩ (prompt ⟨ent, invoked, own⟩) room
    · have quiet : ¬m.timesOut op := by
        rintro ⟨other, comes, own'⟩
        rw [invoked] at comes
        cases comes
        exact own own'
      have paced' := paced.others alone quiet
      rw [if_neg own]
      split_ifs
      · exact paced'.flags _ (getChannelChanged_and rfl)
      · exact paced'

theorem Paced.checkFails (paced : Paced m) : Paced m.checkFails := by
  rw [Manager.checkFails]
  split_ifs
  · have kept : getChannelChanged (setCheckFails m.flags) = getChannelChanged m.flags :=
      getChannelChanged_or rfl
    have flagged := (paced.flags _ kept).device
      { m.device with edScan := some ⟨defaultApsChannelMask, defaultScanDuration, 1, 0, 0⟩ } rfl
    have alone : (Alarm.Op.schedule zdoChannelCheckTimerCb 0 zdo15MinTimeout).LeavesAlone
        zdoLongTimerCb := by decide
    refine flagged.others alone ?_
    rintro ⟨ent, comes, -⟩
    cases comes
  · exact paced
  · exact paced

theorem Paced.channelCheckScanResult (paced : Paced m) (beyond : UInt8 → UInt32)
    (result : ScanConfirm) : Paced (m.channelCheckScanResult beyond result) := by
  rw [Manager.channelCheckScanResult]
  dsimp only
  split_ifs
  · have kept : getChannelChanged (setSendWithAck m.flags) = getChannelChanged m.flags :=
      getChannelChanged_or rfl
    exact (paced.flags _ kept).device _ rfl
  · exact paced

theorem Paced.channelChangeTimerCb (paced : Paced m) (waits : m.timerCbQueued = true) :
    Paced m.channelChangeTimerCb := by
  refine ⟨?_, paced.apart⟩
  cases paced.pace with
  | idle idle => cases waits.symm.trans idle.late
  | counting alarm change counting => cases waits.symm.trans counting.early
  | expired change expired =>
    refine .idle
      ⟨getChannelChanged_clear _, expired.free, expired.silent, rfl, fun change' last' => ?_⟩
    rw [show change' = change from Option.some.inj (last'.symm.trans expired.last)]
    exact expired.past

theorem Paced.step (paced : Paced m) {op : Op} (prompt : op.Prompt (some m))
    (stepped : m.step beyond op = some m') : Paced m' := by
  cases op with
  | sched op room =>
    rw [Manager.step] at stepped
    split_ifs at stepped with alone
    · cases stepped
      exact paced.sched alone (prompt m rfl) room
    · cases stepped
      exact paced
  | updateNotify report =>
    rw [Manager.step] at stepped
    split_ifs at stepped with between
    · exact paced.changeChannel between stepped
    · cases stepped
      exact paced
  | channelChangeTimer =>
    rw [Manager.step] at stepped
    cases stepped
    split_ifs with waits
    · exact paced.channelChangeTimerCb waits
    · exact paced
  | checkFails =>
    cases stepped
    exact paced.checkFails
  | scanResult result =>
    cases stepped
    exact paced.channelCheckScanResult beyond result
  | nwkUpdNotify =>
    cases stepped
    rw [Manager.nwkUpdNotify]
    split_ifs with waits
    · exact paced.flags _ (getChannelChanged_and rfl)
    · exact paced
  | channelCheckFinish status =>
    cases stepped
    rw [Manager.channelCheckFinishCb]
    split_ifs with ok
    · exact paced.device _ rfl
    · exact paced
  | write device =>
    cases stepped
    exact paced.device _ rfl

/-- However reports, scans, checks and the alarms of others are mixed, two changes of the channel
are at least an hour apart, as long as no pass over the alarms lasts seven minutes; and the long
timer is free whenever the manager may change the channel. -/
theorem changes_an_hour_apart (beyond : UInt8 → UInt32) (device : Device) (ops : List Op)
    (prompt : Along (next beyond) (fun m op => op.Prompt m) (some (Manager.init device)) ops)
    {m : Manager} (ran : run (next beyond) (some (Manager.init device)) ops = some m) :
    (m.changes.IsChain fun later earlier => earlier + hour ≤ later) ∧
      (getChannelChanged m.flags = false → m.longTimerCb = false ∧
        ∀ change ∈ m.changes.head?, change + hour ≤ m.sched.ticks) := by
  have kept : ∀ s op, (∀ m ∈ s, Paced m) → op.Prompt s → ∀ m ∈ next beyond s op, Paced m := by
    intro s op before prompt m' stepped
    obtain ⟨m, rfl, stepped⟩ := Option.bind_eq_some_iff.mp stepped
    exact (before m rfl).step prompt stepped
  have first : ∀ m ∈ some (Manager.init device), Paced m := by
    intro m first
    cases first
    exact init_paced device
  have paced : Paced m := invariant_of_along kept _ ops first prompt m ran
  refine ⟨paced.apart, fun clear => ?_⟩
  cases paced.pace with
  | idle idle => exact ⟨idle.free, idle.past⟩
  | counting alarm change counting => cases clear.symm.trans counting.flag
  | expired change expired => cases clear.symm.trans expired.flag

/-- A change, the first minute of the long timer, and a report that comes too early. -/
def oneChange : List Op :=
  [.updateNotify busyReport, .sched (.tick 3900) true, .sched .beginPass true, .sched .invoke true,
    .sched .return_ true, .sched (.endPass false) true, .updateNotify busyReport]

/-- `1l << i` where shift counts are taken modulo 32. -/
def modulo (i : UInt8) : UInt32 := 1 <<< (i.toUInt32 % 32)

theorem oneChange_prompt :
    Along (next modulo) (fun m op => op.Prompt m) (some (Manager.init busyManager)) oneChange := by
  have reads : (run (next modulo) (some (Manager.init busyManager)) (oneChange.take 3)).all
      fun m => m.sched.pass = some m.sched.timer := by decide +kernel
  refine ⟨trivial, ?_, ?_, ?_, ?_, ?_, trivial, trivial⟩
  case refine_3 =>
    intro m reached comes t pass
    have now : m.sched.pass = some m.sched.timer := by
      have all := (Option.all_eq_true _ _).mp reads m reached
      exact of_decide_eq_true all
    rw [Option.some.inj (pass.symm.trans now), UInt16.sub_self]
    exact UInt16.zero_le
  all_goals
    rintro m - ⟨ent, invoked, -⟩
    cases invoked

theorem oneChange_paced :
    ∃ m, run (next modulo) (some (Manager.init busyManager)) oneChange = some m ∧
      (m.changes = [0] ∧ m.device.longTimer = 59) ∧
      (m.changes.IsChain fun later earlier => earlier + hour ≤ later) ∧
        (getChannelChanged m.flags = false → m.longTimerCb = false ∧
          ∀ change ∈ m.changes.head?, change + hour ≤ m.sched.ticks) := by
  have counts : (run (next modulo) (some (Manager.init busyManager)) oneChange).map
      (fun m => (m.changes, m.device.longTimer)) = some ([0], 59) := by decide +kernel
  obtain ⟨m, ran, one⟩ := Option.map_eq_some_iff.mp counts
  exact ⟨m, ran, Prod.mk.inj one,
    changes_an_hour_apart modulo busyManager oneChange oneChange_prompt ran⟩

end Zboss.ChannelManager
