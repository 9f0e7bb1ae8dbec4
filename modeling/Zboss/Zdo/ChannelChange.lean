import Mathlib.Data.List.Range

/-!
Channel change by the network channel manager: the choice of the channel from an energy
report, the Mgmt_NWK_Update request built from it and its effect on the devices that
receive it.  `1l << i` has no meaning for `i` from 32 on; what the machine computes there
is the parameter `beyond`.
-/

namespace Zboss.ChannelChange

/-- `ZB_MAC_START_CHANNEL_NUMBER`. -/
def startChannelNumber : ℕ := 11

/-- `ZB_MAC_MAX_CHANNEL_NUMBER`. -/
def maxChannelNumber : ℕ := 26

def channelBusyEdValue : UInt8 := 0x60

def channelFreeEdValue : UInt8 := 0x20

/-- `ZB_ZDO_NEW_ACTIVE_CHANNEL`. -/
def newActiveChannel : UInt8 := 0xfe

/-- `ZB_ZDO_NEW_CHANNEL_MASK`. -/
def newChannelMask : UInt8 := 0xff

/-- `ZB_ZDO_MAX_SCAN_DURATION`. -/
def maxScanDuration : UInt8 := 5

/-- `ZB_ZDO_APS_CHANEL_TIMER`, in minutes. -/
def apsChanelTimer : UInt8 := 1 * 60

/-- `ZB_NWK_BROADCAST_ROUTER_COORDINATOR`. -/
def broadcastRouterCoordinator : UInt16 := 0xfffc

/-- `ZB_NWK_BROADCAST_LOW_POWER_ROUTER`. -/
def broadcastLowPowerRouter : UInt16 := 0xfffb

/-- `ZB_ZDP_STATUS_SUCCESS`, `ZB_ZDP_STATUS_INV_REQUESTTYPE` and
`ZB_NWK_STATUS_INVALID_REQUEST`. -/
def zdpSuccess : UInt8 := 0
@[inherit_doc zdpSuccess] def zdpInvRequesttype : UInt8 := 0x80
@[inherit_doc zdpSuccess] def nwkInvalidRequest : UInt8 := 0xc2

/-- An energy report: header of the Mgmt_NWK_Update notify and the octets after it. -/
structure Report where
  status : UInt8
  scannedChannels : UInt32
  totalTransmissions : UInt16
  transmissionFailures : UInt16
  scannedChannelsListCount : UInt8
  energyValues : ℕ → UInt8

/-- `zb_zdo_mgmt_nwk_update_req_t`. -/
structure UpdateReq where
  scanChannels : UInt32
  scanDuration : UInt8
  scanCount : UInt8
  updateId : UInt8
  managerAddr : UInt16
  dstAddr : UInt16
  deriving DecidableEq, Repr

/-- A Mgmt_NWK_Update request on its way: the APS payload and its destination, and how many
responses the registered callback waits for. -/
structure Packet where
  payload : List UInt8
  dstAddr : UInt16
  respCounter : UInt8
  deriving DecidableEq, Repr

/-- The energy scan a device was asked for, `zdo_ctx.nwk_upd_req`. -/
structure EdScan where
  scanChannels : UInt32
  scanDuration : UInt8
  scanCount : UInt8
  dstAddr : UInt16
  tsn : UInt8
  deriving DecidableEq, Repr

/-- What channel changes read and write on a device; `newChannel` are the alarms of
`zb_zdo_new_channel_cb` by their parameters, in the order they fire. -/
structure Device where
  currentChannel : UInt8
  updateId : UInt8
  nwkTxTotal : UInt16
  nwkTxFail : UInt16
  channelChanged : Bool
  longTimer : UInt8
  managerAddr : UInt16
  apsChannelMask : UInt32
  tsn : UInt8
  edScan : Option EdScan
  newChannel : List UInt8
  deriving DecidableEq, Repr

/-- `1l << i`. -/
def oneShl (beyond : UInt8 → UInt32) (i : UInt8) : UInt32 :=
  if i < 32 then 1 <<< i.toUInt32 else beyond i

/-- `while (!(scan_channels & (1l << i))) i++;`, the counter is an octet. -/
def bitScan (beyond : UInt8 → UInt32) (scanChannels : UInt32) : ℕ → UInt8 → Option UInt8
  | 0, _ => none
  | fuel + 1, i =>
    if scanChannels &&& oneShl beyond i ≠ 0 then some i
    else bitScan beyond scanChannels fuel (i + 1)

/-- The loop from channel 11 on; after 256 rounds it repeats itself and never ends. -/
def channelOf (beyond : UInt8 → UInt32) (scanChannels : UInt32) : Option UInt8 :=
  bitScan beyond scanChannels 256 11

/-- The report has a value for channel `i`. -/
def Report.scanned (report : Report) (i : UInt8) : Bool :=
  report.scannedChannels &&& (1 <<< i.toUInt32) ≠ 0

/-- Variables of the loop in `zdo_change_channel`; `read` counts the values read. -/
structure Choice where
  minEnergy : UInt8
  currentEnergy : UInt8
  newChannelNum : UInt8
  read : ℕ
  deriving DecidableEq, Repr

/-- One round of the loop. -/
def Choice.next (current : UInt8) (report : Report) (choice : Choice) (i : UInt8) : Choice :=
  if report.scanned i then
    let scanResult := report.energyValues choice.read
    { minEnergy := if scanResult < choice.minEnergy then scanResult else choice.minEnergy
      newChannelNum := if scanResult < choice.minEnergy then i else choice.newChannelNum
      currentEnergy := if i = current then scanResult else choice.currentEnergy
      read := choice.read + 1 }
  else choice

/-- The channel numbers, in the order of the loop. -/
def channels : List UInt8 :=
  (List.range (maxChannelNumber + 1 - startChannelNumber)).map fun k =>
    .ofNat (startChannelNumber + k)

/-- The loop over the channels. -/
def parseScanResults (current : UInt8) (report : Report) : Choice :=
  channels.foldl (Choice.next current report) ⟨0xff, 0, 0, 0⟩

/-- Octets of a 32 bit number, little endian. -/
def htole32 (x : UInt32) : List UInt8 :=
  [x.toUInt8, (x >>> 8).toUInt8, (x >>> 16).toUInt8, (x >>> 24).toUInt8]

/-- Octets of a 16 bit number, little endian. -/
def htole16 (x : UInt16) : List UInt8 := [x.toUInt8, (x >>> 8).toUInt8]

def letoh32 (body : ℕ → UInt8) (at_ : ℕ) : UInt32 :=
  (body at_).toUInt32 ||| (body (at_ + 1)).toUInt32 <<< 8 |||
    (body (at_ + 2)).toUInt32 <<< 16 ||| (body (at_ + 3)).toUInt32 <<< 24

def letoh16 (body : ℕ → UInt8) (at_ : ℕ) : UInt16 :=
  (body at_).toUInt16 ||| (body (at_ + 1)).toUInt16 <<< 8

namespace Device

/-- `zdo_send_req` puts the next sequence number before the data. -/
def sendReq (d : Device) (data : List UInt8) (dstAddr : UInt16) (respCounter : UInt8) :
    Device × Packet :=
  ({ d with tsn := d.tsn + 1 }, ⟨(d.tsn + 1) :: data, dstAddr, respCounter⟩)

/-- `zb_zdo_mgmt_nwk_update_req`, without result where its loop does not end. -/
def mgmtNwkUpdateReq (beyond : UInt8 → UInt32) (d : Device) (req : UpdateReq) :
    Option (Device × Packet) :=
  let hdr := htole32 req.scanChannels ++ [req.scanDuration]
  if req.scanDuration ≤ maxScanDuration then
    some (d.sendReq (hdr ++ [req.scanCount]) req.dstAddr req.scanCount)
  else if req.scanDuration = newChannelMask then
    some (d.sendReq (hdr ++ [req.updateId] ++ htole16 req.managerAddr) req.dstAddr 1)
  else if req.scanDuration = newActiveChannel then
    match channelOf beyond req.scanChannels with
    | none => none
    | some i =>
      some ({ d with newChannel := d.newChannel ++ [i] }.sendReq (hdr ++ [req.updateId])
        req.dstAddr 1)
  else some (d.sendReq (hdr ++ [req.scanCount]) req.dstAddr 1)

/-- The manager changes the channel for this report. -/
def Accepts (d : Device) (report : Report) : Prop :=
  let choice := parseScanResults d.currentChannel report
  d.channelChanged = false ∧
    (report.status = zdpSuccess ∧ report.scannedChannelsListCount ≠ 0) ∧
    choice.currentEnergy > channelBusyEdValue ∧
    choice.newChannelNum ≠ 0 ∧ choice.minEnergy < channelFreeEdValue

instance (d : Device) (report : Report) : Decidable (d.Accepts report) :=
  inferInstanceAs (Decidable (_ ∧ _))

/-- `zb_zdo_start_long_timer`. -/
def startLongTimer (d : Device) (longTimer : UInt8) : Device := { d with longTimer := longTimer }

/-- The request `zdo_change_channel` fills; the scan count is not set. -/
def changeReq (d : Device) (newChannelNum : UInt8) : UpdateReq where
  scanChannels := newChannelNum.toUInt32
  scanDuration := newActiveChannel
  scanCount := 0
  updateId := d.updateId
  managerAddr := 0
  dstAddr := broadcastRouterCoordinator

/-- `zdo_change_channel`: a packet if the manager changes the channel; without result where
building it does not end. -/
def changeChannel (beyond : UInt8 → UInt32) (d : Device) (report : Report) :
    Option (Device × Option Packet) :=
  if d.Accepts report then
    let d' := { d with updateId := d.updateId + 1 }
    match d'.mgmtNwkUpdateReq beyond
      (d'.changeReq (parseScanResults d.currentChannel report).newChannelNum) with
    | none => none
    | some (d', packet) =>
      some ({ d' with channelChanged := true }.startLongTimer apsChanelTimer, some packet)
  else some (d, none)

/-- `zb_start_ed_scan` as the handler of the request calls it. -/
def startEdScan (d : Device) (scan : EdScan) : Device :=
  { d with edScan := some { scan with scanCount := scan.scanCount - 1 } }

/-- `zb_zdo_mgmt_nwk_update_handler` and the status of its response, without result where
its loop does not end. -/
def mgmtNwkUpdateHandler (beyond : UInt8 → UInt32) (d : Device) (srcAddr : UInt16)
    (unicast : Bool) (body : ℕ → UInt8) : Option (Device × Option UInt8) :=
  let scanChannels := letoh32 body 1
  let scanDuration := body 5
  let respond (status : UInt8) := if srcAddr < broadcastLowPowerRouter then some status else none
  if scanDuration = newActiveChannel then
    if scanChannels ≥ 0x800 ∧ scanChannels ≤ 0x4000000 then
      match channelOf beyond scanChannels with
      | none => none
      | some i => some ({ d with newChannel := d.newChannel ++ [i] }, none)
    else some (d, none)
  else if scanDuration = newChannelMask then
    some ({ d with apsChannelMask := scanChannels, managerAddr := letoh16 body 7 }, none)
  else if scanDuration ≤ maxScanDuration then
    let scanCount := body 6
    if scanCount > 5 then some (d, respond zdpInvRequesttype)
    else if scanCount > 0 then
      some (d.startEdScan ⟨scanChannels, scanDuration, scanCount, srcAddr, body 0⟩, none)
    else some (d, respond zdpSuccess)
  else some (d, if unicast then respond nwkInvalidRequest else none)

/-- `zb_zdo_new_channel_cb`. -/
def newChannelCb (d : Device) (param : UInt8) : Device :=
  { d with currentChannel := param, nwkTxTotal := 0, nwkTxFail := 0, updateId := d.updateId + 1 }

/-- The device when the broadcast delivery time has passed. -/
def afterDelivery (d : Device) : Device :=
  d.newChannel.foldl newChannelCb { d with newChannel := [] }

end Device

/-- The payload of a packet as its receiver reads it. -/
def Packet.body (packet : Packet) (k : ℕ) : UInt8 := packet.payload.getD k 0

/-- The scanned channels of a report with their energies. -/
def Report.readings (report : Report) : List (UInt8 × UInt8) :=
  (channels.filter report.scanned).zipIdx.map fun entry =>
    (entry.1, report.energyValues entry.2)

/-- The channel has the least energy, and the lowest number among those that have. -/
def Report.Best (report : Report) (channel : UInt8) : Prop :=
  ∃ energy, (channel, energy) ∈ report.readings ∧
    ∀ other ∈ report.readings, energy < other.2 ∨ energy = other.2 ∧ channel ≤ other.1

/-- Manager and receivers are on the best channel of the report when the broadcast delivery
time has passed, and devices with one update id still have one. -/
def MovesTogether (beyond : UInt8 → UInt32) (manager : Device) (managerAddr : UInt16)
    (report : Report) (receivers : List Device) : Prop :=
  ∃ channel manager' packet, report.Best channel ∧
    manager.changeChannel beyond report = some (manager', some packet) ∧
    manager'.afterDelivery.currentChannel = channel ∧
    ∀ device ∈ receivers, ∃ device',
      device.mgmtNwkUpdateHandler beyond managerAddr false packet.body = some (device', none) ∧
      device'.afterDelivery.currentChannel = channel ∧
      (device.updateId = manager.updateId →
        device'.afterDelivery.updateId = manager'.afterDelivery.updateId)

/-! ## The choice of the channel -/

/-- A loop that replaces its choice by every strictly smaller one keeps the first choice or
ends with the least, and the first of those in the order of the list. -/
theorem foldl_least (items : List (UInt8 × UInt8))
    (sorted : items.Pairwise fun a b => a.1 < b.1) (first : UInt8 × UInt8) :
    let last := items.foldl (fun best item => if item.2 < best.2 then item else best) first
    (last = first ∧ ∀ item ∈ items, first.2 ≤ item.2) ∨
      (last ∈ items ∧ last.2 < first.2 ∧
        ∀ item ∈ items, last.2 < item.2 ∨ last.2 = item.2 ∧ last.1 ≤ item.1) := by
  induction items generalizing first with
  | nil => simp
  | cons head rest induction_ =>
    obtain ⟨before, sorted⟩ := List.pairwise_cons.mp sorted
    intro last
    by_cases less : head.2 < first.2
    · have last_ : last = rest.foldl (fun best item => if item.2 < best.2 then item else best)
          head := by simp [last, less]
      rw [last_]
      right
      rcases induction_ sorted head with ⟨same, above⟩ | ⟨member, below, least⟩
      · rw [same]
        refine ⟨List.mem_cons_self, less, fun item mem => ?_⟩
        rcases List.mem_cons.mp mem with rfl | later
        · exact Or.inr ⟨rfl, UInt8.le_refl _⟩
        · rcases UInt8.lt_or_eq_of_le (above item later) with lt | eq
          · exact Or.inl lt
          · exact Or.inr ⟨eq, UInt8.le_of_lt (before item later)⟩
      · refine ⟨List.mem_cons_of_mem _ member, UInt8.lt_trans below less, fun item mem => ?_⟩
        rcases List.mem_cons.mp mem with rfl | later
        · exact Or.inl below
        · exact least item later
    · have last_ : last = rest.foldl (fun best item => if item.2 < best.2 then item else best)
          first := by simp [last, less]
      rw [last_]
      rcases induction_ sorted first with ⟨same, above⟩ | ⟨member, below, least⟩
      · left
        refine ⟨same, fun item mem => ?_⟩
        rcases List.mem_cons.mp mem with rfl | later
        · exact UInt8.not_lt.mp less
        · exact above item later
      · right
        refine ⟨List.mem_cons_of_mem _ member, below, fun item mem => ?_⟩
        rcases List.mem_cons.mp mem with rfl | later
        · exact Or.inl (UInt8.lt_of_lt_of_le below (UInt8.not_lt.mp less))
        · exact least item later

/-- The loop over the channels chooses among the readings. -/
theorem parse_foldl (current : UInt8) (report : Report) (list : List UInt8) (choice : Choice) :
    let last := list.foldl (Choice.next current report) choice
    (last.newChannelNum, last.minEnergy) =
      (((list.filter report.scanned).zipIdx choice.read).map fun entry =>
        (entry.1, report.energyValues entry.2)).foldl
        (fun best item => if item.2 < best.2 then item else best)
        (choice.newChannelNum, choice.minEnergy) := by
  induction list generalizing choice with
  | nil => rfl
  | cons i rest induction_ =>
    intro last
    have last_ : last = rest.foldl (Choice.next current report) (choice.next current report i) :=
      rfl
    rw [last_, induction_]
    by_cases scanned : report.scanned i
    · simp only [Choice.next, scanned, ↓reduceIte, List.filter_cons_of_pos, List.zipIdx_cons,
        List.map_cons, List.foldl_cons]
      split <;> rfl
    · simp [Choice.next, scanned]

theorem channels_sorted : channels.Pairwise (· < ·) := by decide

theorem readings_sorted (report : Report) : report.readings.Pairwise fun a b => a.1 < b.1 := by
  have fsts : report.readings.map Prod.fst = channels.filter report.scanned := by
    simp [Report.readings, Function.comp_def]
  rw [← List.pairwise_map, fsts]
  exact channels_sorted.filter _

/-- **The selected channel** has the least energy, and the lowest number on ties. -/
theorem accepts_best {d : Device} {report : Report} (accepted : d.Accepts report) :
    report.Best (parseScanResults d.currentChannel report).newChannelNum := by
  obtain ⟨-, -, -, found, -⟩ := accepted
  have loop := parse_foldl d.currentChannel report channels ⟨0xff, 0, 0, 0⟩
  rcases foldl_least report.readings (readings_sorted report) (0, 0xff) with
    ⟨same, -⟩ | ⟨member, -, least⟩
  · exact absurd (congrArg Prod.fst (loop.trans same)) found
  · rw [Report.readings, ← loop] at member least
    exact ⟨_, member, least⟩

theorem Report.Best.mem_channels {report : Report} {channel : UInt8}
    (best : report.Best channel) : channel ∈ channels := by
  obtain ⟨energy, member, -⟩ := best
  obtain ⟨entry, at_, same⟩ := List.mem_map.mp member
  have inside := List.fst_mem_of_mem_zipIdx at_
  rw [(Prod.mk.inj same).1] at inside
  exact (List.mem_filter.mp inside).1

/-! ## The request -/

theorem bitScan_set {beyond : UInt8 → UInt32} {mask : UInt32} {fuel : ℕ} {i j : UInt8}
    (ends : bitScan beyond mask fuel i = some j) : mask &&& oneShl beyond j ≠ 0 := by
  induction fuel generalizing i with
  | zero => cases ends
  | succ fuel induction_ =>
    unfold bitScan at ends
    split at ends
    · rename_i bit
      cases ends
      exact bit
    · exact induction_ ends

theorem of_channels_all {p : UInt8 → Bool} (all : channels.all p) {channel : UInt8}
    (member : channel ∈ channels) : p channel :=
  List.all_eq_true.mp all channel member

/-- Numbers of channels have none of the bits that stand for channels. -/
theorem number_not_mask {number channel : UInt8} (inside : number ∈ channels)
    (member : channel ∈ channels) : number.toUInt32 &&& oneShl (fun _ => 0) channel = 0 := by
  have all : channels.all fun number => channels.all fun channel =>
      number.toUInt32 &&& oneShl (fun _ => 0) channel == 0 := by decide
  exact eq_of_beq (of_channels_all (of_channels_all all inside) member)

theorem oneShl_channel (beyond beyond' : UInt8 → UInt32) {channel : UInt8}
    (member : channel ∈ channels) : oneShl beyond channel = oneShl beyond' channel := by
  have small : channel < 32 :=
    of_decide_eq_true (of_channels_all (p := fun channel => decide (channel < 32)) (by decide)
      member)
  simp [oneShl, small]

theorem channelOf_number {beyond : UInt8 → UInt32} {number channel : UInt8}
    (inside : number ∈ channels) (ends : channelOf beyond number.toUInt32 = some channel) :
    channel ∉ channels := by
  intro member
  have bit := bitScan_set ends
  rw [oneShl_channel beyond (fun _ => 0) member] at bit
  exact bit (number_not_mask inside member)

namespace Device

variable {beyond : UInt8 → UInt32}

/-- The last alarm decides on the channel. -/
theorem afterDelivery_channel (d : Device) (before : List UInt8) (channel : UInt8)
    (alarms : d.newChannel = before ++ [channel]) :
    d.afterDelivery.currentChannel = channel := by
  simp [afterDelivery, alarms, newChannelCb]

/-- Where the request is built, it carries the number of the selected channel, and the manager
has an alarm for what its loop ends with. -/
theorem changeChannel_spec {d d' : Device} {report : Report} {packet : Packet}
    (built : d.changeChannel beyond report = some (d', some packet)) :
    let number := (parseScanResults d.currentChannel report).newChannelNum
    d.Accepts report ∧
      (∃ channel, channelOf beyond number.toUInt32 = some channel ∧
        d'.newChannel = d.newChannel ++ [channel]) ∧
      packet.payload = (d.tsn + 1) ::
        (htole32 number.toUInt32 ++ [newActiveChannel] ++ [d.updateId + 1]) := by
  unfold changeChannel at built
  split at built
  · rename_i accepted
    refine ⟨accepted, ?_⟩
    have active : newActiveChannel ≠ newChannelMask ∧ ¬newActiveChannel ≤ maxScanDuration := by
      decide
    simp only [mgmtNwkUpdateReq, changeReq, active, ↓reduceIte] at built
    split at built
    · cases built
    · rename_i d₁ packet₁ sent
      split at sent
      · cases sent
      · rename_i channel ends
        cases sent
        cases built
        exact ⟨⟨channel, ends, rfl⟩, rfl⟩
  · cases built

/-- A request that gives the channel by its number is ignored. -/
theorem mgmtNwkUpdateHandler_number (d : Device) (srcAddr : UInt16) {body : ℕ → UInt8}
    (active : body 5 = newActiveChannel) (number : letoh32 body 1 < 0x800) :
    d.mgmtNwkUpdateHandler beyond srcAddr false body = some (d, none) := by
  simp [mgmtNwkUpdateHandler, active, UInt32.not_le.mpr number]

end Device

/-- The receivers of a request the manager built stay where they are. -/
theorem receivers_stay {beyond : UInt8 → UInt32} {manager manager' : Device} {report : Report}
    {packet : Packet} (built : manager.changeChannel beyond report = some (manager', some packet))
    (device : Device) (srcAddr : UInt16) :
    device.mgmtNwkUpdateHandler beyond srcAddr false packet.body = some (device, none) := by
  obtain ⟨accepted, -, payload⟩ := Device.changeChannel_spec built
  have inside := (accepts_best accepted).mem_channels
  generalize (parseScanResults manager.currentChannel report).newChannelNum = number at *
  have octets : ∀ k, packet.body k =
      ((manager.tsn + 1) ::
        (htole32 number.toUInt32 ++ [newActiveChannel] ++ [manager.updateId + 1])).getD k 0 := by
    intro k
    rw [Packet.body, payload]
  have all : channels.all fun number =>
      letoh32 (fun k => (0 :: htole32 number.toUInt32).getD k 0) 1 < 0x800 := by decide
  refine device.mgmtNwkUpdateHandler_number srcAddr (octets 5) ?_
  simpa [letoh32, octets, htole32] using of_channels_all all inside

/-- Moving together takes a channel that the loop finds by its number. -/
theorem MovesTogether.found {beyond : UInt8 → UInt32} {manager : Device} {managerAddr : UInt16}
    {report : Report} {receivers : List Device}
    (moves : MovesTogether beyond manager managerAddr report receivers) :
    ∃ number ∈ channels, ∃ channel ∈ channels,
      channelOf beyond number.toUInt32 = some channel := by
  obtain ⟨channel, manager', packet, best, built, moved, -⟩ := moves
  obtain ⟨accepted, ⟨found, ends, alarms⟩, -⟩ := Device.changeChannel_spec built
  rw [manager'.afterDelivery_channel _ _ alarms] at moved
  rw [moved] at ends
  exact ⟨_, (accepts_best accepted).mem_channels, channel, best.mem_channels, ends⟩

/-- **Nobody moves to the channel the manager chose**: the request carries the number of the
channel where a mask is read. -/
theorem never_movesTogether (beyond : UInt8 → UInt32) (manager : Device) (managerAddr : UInt16)
    (report : Report) (receivers : List Device) :
    ¬MovesTogether beyond manager managerAddr report receivers := by
  intro moves
  obtain ⟨number, inside, channel, member, ends⟩ := moves.found
  exact channelOf_number inside ends member

/-- A manager on channel 11. -/
def busyManager : Device where
  currentChannel := 11
  updateId := 0
  nwkTxTotal := 0
  nwkTxFail := 0
  channelChanged := false
  longTimer := 0
  managerAddr := 0
  apsChannelMask := 0x7fff800
  tsn := 0
  edScan := none
  newChannel := []

/-- Channel 11 is busy, channel 12 is free. -/
def busyReport : Report where
  status := zdpSuccess
  scannedChannels := 0x1800
  totalTransmissions := 0
  transmissionFailures := 0
  scannedChannelsListCount := 2
  energyValues := fun k => if k = 0 then 0x70 else 0x10

/-- Where shift counts are taken modulo 32, the request for channel 12 makes the manager move to
"channel" 34. -/
theorem busyReport_lost :
    ¬∀ (beyond : UInt8 → UInt32) (manager : Device) (managerAddr : UInt16) (report : Report)
      (receivers : List Device), manager.Accepts report →
      MovesTogether beyond manager managerAddr report receivers := by
  intro claim
  obtain ⟨channel, manager', packet, best, built, moved, -⟩ :=
    claim (fun i => 1 <<< (i.toUInt32 % 32)) busyManager 0 busyReport [] (by decide)
  obtain ⟨-, ⟨found, ends, alarms⟩, -⟩ := Device.changeChannel_spec built
  rw [manager'.afterDelivery_channel _ _ alarms] at moved
  have modulo : channelOf (fun i => 1 <<< (i.toUInt32 % 32)) 12 = some 34 := by decide
  have beyond : found = 34 := Option.some.inj (ends.symm.trans modulo)
  have outside : (34 : UInt8) ∉ channels := by decide
  rw [← moved, beyond] at best
  exact outside best.mem_channels

end Zboss.ChannelChange
