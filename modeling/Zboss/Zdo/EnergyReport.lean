import Zboss.Lib.Words
import Zboss.Mac.HeaderCodec
import Zboss.Zdo.ChannelChange

/-!
Energy reports: `zb_nlme_ed_scan_confirm` lists the energies of the scanned channels one after the
other, `zb_zdo_nwk_upd_notify` sends the list, and the manager gives the values back to the channels
of the mask in order.
-/

namespace Zboss.EnergyReport

open Zboss.BufLayout Zboss.Cells Zboss.ChannelChange Zboss.FrameHeaders Zboss.MacHeader Zboss.Words

/-! ## The report -/

/-- `zb_mac_scan_confirm_t` of an energy scan. -/
structure Confirm where
  status : UInt8
  unscannedChannels : UInt32
  energyDetect : ℕ → UInt8

/-- `zb_zdo_mgmt_nwk_update_notify_param_t`. -/
structure NotifyParam where
  report : Report
  dstAddr : UInt16
  tsn : UInt8

/-- Variables of the loop in `zb_nlme_ed_scan_confirm`. -/
structure Listing where
  channelMaskMul : UInt32
  scannedChannelsListCount : UInt8
  energyValues : ℕ → UInt8

/-- One round of the loop; the mask bit moves on only past a channel that was scanned. -/
def Listing.next (channelMask : UInt32) (energyDetect : ℕ → UInt8) (l : Listing) (i : UInt8) :
    Listing :=
  if channelMask &&& l.channelMaskMul ≠ 0 then
    { channelMaskMul := l.channelMaskMul * 2
      scannedChannelsListCount := l.scannedChannelsListCount + 1
      energyValues := Function.update l.energyValues l.scannedChannelsListCount.toNat
        (energyDetect (i.toNat - startChannelNumber)) }
  else l

/-- `zb_nlme_ed_scan_confirm` for a scan that ZDO was asked for; `stale` is what the tail of the
buffer holds where the values go. -/
def nlmeEdScanConfirm (d : Device) (nwkUpdReq : EdScan) (stale : ℕ → UInt8) (confirm : Confirm) :
    NotifyParam :=
  let channelMask := nwkUpdReq.scanChannels &&& ~~~confirm.unscannedChannels
  let listing := channels.foldl (Listing.next channelMask confirm.energyDetect) ⟨0x800, 0, stale⟩
  { report :=
      { status := confirm.status
        scannedChannels := channelMask
        totalTransmissions := d.nwkTxTotal
        transmissionFailures := d.nwkTxFail
        scannedChannelsListCount := listing.scannedChannelsListCount
        energyValues := listing.energyValues }
    dstAddr := nwkUpdReq.dstAddr
    tsn := nwkUpdReq.tsn }

/-! ## On the wire -/

/-- `sizeof(zb_zdo_mgmt_nwk_update_notify_hdr_t)`. -/
def sizeofNotifyHdr : ℕ := 10

def apsPayloadMaxLen : ℕ := 127 - (0xB + 0x8) - 0x0C - (2 + 2 + 4)

/-- The octets of the header. -/
def hdrOctets (report : Report) : List UInt8 :=
  [report.status] ++ (htole32 report.scannedChannels ++ (htole16 report.totalTransmissions ++
    (htole16 report.transmissionFailures ++ [report.scannedChannelsListCount])))

/-- The payload `zb_zdo_nwk_upd_notify` builds; none where an assertion fails. -/
def nwkUpdNotify (b : Buf) (param : NotifyParam) : Option Buf := do
  let (r, hdr) ← b.initialAlloc sizeofNotifyHdr
  let r := { r with buf := memcpy r.buf hdr.first (hdrOctets param.report) }
  let count := param.report.scannedChannelsListCount.toNat
  if count = 0 then some r
  else if apsPayloadMaxLen - sizeofNotifyHdr > count then do
    let (r, values) ← r.smartAllocRight count
    some { r with buf := memcpy r.buf values.first (segment param.report.energyValues 0 count) }
  else none

/-- The report that `zdo_change_channel` takes the body of a packet for. -/
def reportOf (body : Octets) : Report where
  status := body 0
  scannedChannels := letoh32 body 1
  totalTransmissions := letoh16 body 5
  transmissionFailures := letoh16 body 7
  scannedChannelsListCount := body 9
  energyValues := body.cut sizeofNotifyHdr

/-! ## The round trip -/

/-- Channel `i` is in the mask. -/
def inMask (channelMask : UInt32) (i : UInt8) : Bool := channelMask &&& (1 <<< i.toUInt32) ≠ 0

/-- The channels of the mask, with what was measured on them. -/
def measured (channelMask : UInt32) (energyDetect : ℕ → UInt8) : List (UInt8 × UInt8) :=
  (channels.filter (inMask channelMask)).map fun i =>
    (i, energyDetect (i.toNat - startChannelNumber))

/-- The report lists one value for each scanned channel in the order of the channels, is sent whole,
and is read back so: as a list, and by the search of the manager on any channel of the report. -/
structure RoundTrip (channelMask : UInt32) (energyDetect : ℕ → UInt8) (b : Buf)
    (param : NotifyParam) : Prop where
  mask : param.report.scannedChannels = channelMask
  count : param.report.scannedChannelsListCount.toNat = (measured channelMask energyDetect).length
  values : segment param.report.energyValues 0 param.report.scannedChannelsListCount.toNat =
    (measured channelMask energyDetect).map Prod.snd
  sent : ∃ r, nwkUpdNotify b param = some r ∧ ∀ body, Holds body 0 r.payload →
    (reportOf body).readings = measured channelMask energyDetect ∧
      ∀ reading ∈ measured channelMask energyDetect,
        (parseScanResults reading.1 (reportOf body)).currentEnergy = reading.2

/-- No channel below one of the mask is left out. -/
def NoGap (channelMask : UInt32) : Prop :=
  ∀ i ∈ channels, ∀ j ∈ channels, i < j → inMask channelMask j → inMask channelMask i

/-! ## The list -/

/-- The bit of a channel. -/
def bit (c : ℕ) : UInt32 := 1 <<< (UInt8.ofNat c).toUInt32

theorem bit_succ {c : ℕ} (inside : c ≤ maxChannelNumber) : bit c * 2 = bit (c + 1) := by
  have all : (List.range (maxChannelNumber + 1)).all fun c => bit c * 2 == bit (c + 1) := by decide
  exact eq_of_beq (List.all_eq_true.mp all c (List.mem_range.mpr (Nat.lt_succ_of_le inside)))

/-- Once the mask bit stands on a channel that was not scanned it stays there. -/
theorem foldl_stuck {mask : UInt32} {energyDetect : ℕ → UInt8} {l : Listing}
    (stuck : mask &&& l.channelMaskMul = 0) (list : List UInt8) :
    list.foldl (Listing.next mask energyDetect) l = l := by
  induction list with
  | nil => rfl
  | cons i rest ih =>
    have same : l.next mask energyDetect i = l := if_neg (not_not.mpr stuck)
    rw [List.foldl_cons, same, ih]

variable {report : Report} {energyDetect : ℕ → UInt8}

theorem scanned_iff {c : ℕ} :
    report.scanned (UInt8.ofNat c) = true ↔ report.scannedChannels &&& bit c ≠ 0 := by
  rw [Report.scanned, decide_eq_true_eq, bit]

/-- The loop lists the channels up to the first that was not scanned. -/
theorem foldl_listing (report : Report) (energyDetect : ℕ → UInt8) {n c : ℕ} {l : Listing}
    (first : startChannelNumber ≤ c) (last : c + n = maxChannelNumber + 1)
    (mul : l.channelMaskMul = bit c)
    (count : l.scannedChannelsListCount.toNat = c - startChannelNumber)
    (values : ∀ j < c - startChannelNumber, l.energyValues j = energyDetect j) :
    let list := (List.range' c n).map UInt8.ofNat
    let listing := list.foldl (Listing.next report.scannedChannels energyDetect) l
    listing.scannedChannelsListCount.toNat =
        c - startChannelNumber + (list.takeWhile report.scanned).length ∧
      ∀ j < listing.scannedChannelsListCount.toNat, listing.energyValues j = energyDetect j := by
  induction n generalizing c l with
  | zero =>
    refine ⟨count, fun j inside => values j ?_⟩
    rwa [← count]
  | succ n ih =>
    have small : c ≤ maxChannelNumber := by omega
    have later : startChannelNumber ≤ c + 1 := Nat.le_succ_of_le first
    have rest : c + 1 + n = maxChannelNumber + 1 := by omega
    rw [maxChannelNumber] at small
    rw [startChannelNumber] at first count values
    dsimp only
    rw [List.range'_succ, List.map_cons, List.foldl_cons]
    by_cases scanned : report.scannedChannels &&& bit c ≠ 0
    · rw [List.takeWhile_cons_of_pos (scanned_iff.mpr scanned), List.length_cons]
      have number : (UInt8.ofNat c).toNat = c := Nat.mod_eq_of_lt (by omega)
      have next : l.next report.scannedChannels energyDetect (UInt8.ofNat c) =
          ⟨bit (c + 1), l.scannedChannelsListCount + 1,
            Function.update l.energyValues (c - startChannelNumber)
              (energyDetect (c - startChannelNumber))⟩ := by
        rw [Listing.next, mul, if_pos scanned, bit_succ small, number, count]
        rfl
      have one : (l.scannedChannelsListCount + 1).toNat = c + 1 - startChannelNumber := by
        rw [UInt8.toNat_add, count, startChannelNumber, UInt8.toNat_one]
        omega
      rw [next]
      have values' : ∀ j < c + 1 - startChannelNumber, Function.update l.energyValues
          (c - startChannelNumber) (energyDetect (c - startChannelNumber)) j = energyDetect j := by
        intro j inside
        rw [startChannelNumber] at inside ⊢
        by_cases here : j = c - 11
        · rw [here, Function.update_self]
        · rw [Function.update_of_ne here, values j (by omega)]
      obtain ⟨length, written⟩ := ih (l := ⟨_, _, _⟩) later rest rfl one values'
      refine ⟨length.trans ?_, written⟩
      rw [startChannelNumber]
      omega
    · rw [List.takeWhile_cons_of_neg (mt scanned_iff.mp scanned)]
      have stuck : report.scannedChannels &&& l.channelMaskMul = 0 := by
        rw [mul]
        exact not_not.mp scanned
      have same : l.next report.scannedChannels energyDetect (UInt8.ofNat c) = l :=
        if_neg (not_not.mpr stuck)
      rw [same, foldl_stuck stuck]
      refine ⟨count, fun j inside => values j ?_⟩
      rwa [← count]

/-- What `zb_nlme_ed_scan_confirm` reports: the channels from the first on that were scanned without
a gap, each with its own energy. -/
theorem nlmeEdScanConfirm_spec (d : Device) (nwkUpdReq : EdScan) (stale : ℕ → UInt8)
    (confirm : Confirm) :
    let report := (nlmeEdScanConfirm d nwkUpdReq stale confirm).report
    report.scannedChannelsListCount.toNat = (channels.takeWhile report.scanned).length ∧
      ∀ j < report.scannedChannelsListCount.toNat,
        report.energyValues j = confirm.energyDetect j := by
  intro report
  have run := foldl_listing report confirm.energyDetect (n := 16) (c := startChannelNumber)
    (l := ⟨0x800, 0, stale⟩) (Nat.le_refl _) rfl rfl rfl fun j inside => absurd inside (Nat.not_lt_zero j)
  exact ⟨run.1.trans (Nat.zero_add _), run.2⟩

/-- In a sorted list, the elements with a property are those before the first without it just when
none is left out. -/
theorem takeWhile_eq_filter_iff {p : UInt8 → Bool} {list : List UInt8}
    (sorted : list.Pairwise (· < ·)) :
    (list.takeWhile p).length = (list.filter p).length ↔
      ∀ i ∈ list, ∀ j ∈ list, i < j → p j → p i := by
  induction list with
  | nil => exact iff_of_true rfl fun i member => nomatch member
  | cons first rest ih =>
    obtain ⟨smallest, sorted⟩ := List.pairwise_cons.mp sorted
    by_cases here : p first = true
    · rw [List.takeWhile_cons_of_pos here, List.filter_cons_of_pos here, List.length_cons,
        List.length_cons, Nat.succ_inj, ih sorted]
      constructor
      · intro inside i member j member' less holds
        rcases List.mem_cons.mp member with rfl | behind
        · exact here
        · rcases List.mem_cons.mp member' with rfl | behind'
          · exact absurd (UInt8.lt_trans less (smallest i behind)) (UInt8.lt_irrefl _)
          · exact inside i behind j behind' less holds
      · intro inside i member j member' less holds
        exact inside i (List.mem_cons_of_mem _ member) j (List.mem_cons_of_mem _ member') less holds
    · rw [List.takeWhile_cons_of_neg here, List.filter_cons_of_neg here, List.length_nil, eq_comm,
        List.length_eq_zero_iff, List.filter_eq_nil_iff]
      constructor
      · intro none_ i _ j member' less holds
        rcases List.mem_cons.mp member' with rfl | member'
        · exact absurd holds here
        · exact absurd holds (none_ j member')
      · intro inside j member' holds
        exact here (inside first List.mem_cons_self j (List.mem_cons_of_mem _ member')
          (smallest j member') holds)

/-! ## The packet -/

/-- The list of a report is never longer than there are channels. -/
theorem count_le (d : Device) (nwkUpdReq : EdScan) (stale : ℕ → UInt8) (confirm : Confirm) :
    (nlmeEdScanConfirm d nwkUpdReq stale confirm).report.scannedChannelsListCount.toNat ≤ 16 := by
  rw [(nlmeEdScanConfirm_spec d nwkUpdReq stale confirm).1]
  exact (List.takeWhile_sublist _).length_le

/-- The payload is the header and the values. -/
theorem nwkUpdNotify_spec (b : Buf) (param : NotifyParam)
    (count : param.report.scannedChannelsListCount.toNat ≤ 16) :
    ∃ r, nwkUpdNotify b param = some r ∧ r.payload = hdrOctets param.report ++
      segment param.report.energyValues 0 param.report.scannedChannelsListCount.toNat := by
  have header : b.initialAlloc sizeofNotifyHdr = some (⟨10, 69, b.buf⟩, ⟨69, 10⟩) := rfl
  have hdr : (hdrOctets param.report).length = 10 := rfl
  rw [nwkUpdNotify]
  simp only [header, Option.bind_eq_bind, Option.bind_some]
  generalize param.report.scannedChannelsListCount.toNat = n at count ⊢
  by_cases empty : n = 0
  · subst empty
    rw [if_pos rfl]
    refine ⟨_, rfl, ?_⟩
    rw [Cells.segment, live_zero, List.append_nil]
    exact holds_memcpy _
  · have room : apsPayloadMaxLen - sizeofNotifyHdr > n := by
      rw [apsPayloadMaxLen, sizeofNotifyHdr]
      omega
    have fits : n + 10 < ioBufSize := by
      rw [ioBufSize]
      omega
    have whole : (10 + n) % 2 ^ 8 = 10 + n := Nat.mod_eq_of_lt (by omega)
    have body : ∀ cells, Buf.smartAllocRight ⟨10, 69, cells⟩ n =
        some (⟨10 + n, 69, cells⟩, ⟨79, n⟩) := by
      intro cells
      rw [Buf.smartAllocRight, if_pos fits, whole]
      rfl
    rw [if_neg empty, if_pos room, body, Option.bind_some]
    refine ⟨_, rfl, ?_⟩
    have both := memcpy_memcpy b.buf 69 (hdrOctets param.report)
      (segment param.report.energyValues 0 n)
    rw [hdr] at both
    have length : 10 + n = (hdrOctets param.report ++
        segment param.report.energyValues 0 n).length := by
      rw [List.length_append, hdr, segment_length]
    rw [Buf.payload, both]
    dsimp only
    rw [length]
    exact segment_memcpy _ _

/-- The manager reads the report it was sent. -/
theorem reportOf_payload {report : Report} {body : Octets}
    (holds : Holds body 0 (hdrOctets report ++
      segment report.energyValues 0 report.scannedChannelsListCount.toNat)) :
    (reportOf body).scannedChannels = report.scannedChannels ∧
      ∀ j < report.scannedChannelsListCount.toNat,
        (reportOf body).energyValues j = report.energyValues j := by
  obtain ⟨hdr, values⟩ := holds_append.mp holds
  rw [hdrOctets, holds_append, holds_append] at hdr
  refine ⟨holds_le32 hdr.2.1, fun j inside => ?_⟩
  have cell := holds_getD values (by rwa [segment_length])
  rw [List.getD_eq_getElem _ _ (by rwa [segment_length]), segment_getElem] at cell
  simp only [Nat.zero_add] at cell
  exact cell

/-! ## What the manager reads -/

theorem foldl_currentEnergy {current : UInt8} {list : List UInt8} (absent : current ∉ list)
    (choice : Choice) :
    (list.foldl (Choice.next current report) choice).currentEnergy = choice.currentEnergy := by
  induction list generalizing choice with
  | nil => rfl
  | cons i rest ih =>
    obtain ⟨other, absent⟩ := not_or.mp (mt List.mem_cons.mpr absent)
    rw [List.foldl_cons, ih absent, Choice.next]
    split
    · exact if_neg (Ne.symm other)
    · rfl

theorem foldl_reading {reading : UInt8 × UInt8} {list : List UInt8} (nodup : list.Nodup)
    (choice : Choice)
    (mem : reading ∈ ((list.filter report.scanned).zipIdx choice.read).map fun entry =>
      (entry.1, report.energyValues entry.2)) :
    (list.foldl (Choice.next reading.1 report) choice).currentEnergy = reading.2 := by
  induction list generalizing choice with
  | nil => cases mem
  | cons i rest ih =>
    obtain ⟨absent, nodup⟩ := List.nodup_cons.mp nodup
    rw [List.foldl_cons]
    by_cases scanned : report.scanned i = true
    · rw [List.filter_cons_of_pos scanned, List.zipIdx_cons, List.map_cons, List.mem_cons] at mem
      have read : (choice.next reading.1 report i).read = choice.read + 1 := by
        rw [Choice.next, if_pos scanned]
      rcases mem with rfl | mem
      · rw [foldl_currentEnergy absent, Choice.next, if_pos scanned]
        exact if_pos rfl
      · exact ih nodup _ (read ▸ mem)
    · rw [List.filter_cons_of_neg scanned] at mem
      have same : choice.next reading.1 report i = choice := if_neg scanned
      rw [same]
      exact ih nodup _ mem

/-- The search reads the energy of its own channel. -/
theorem parse_currentEnergy {reading : UInt8 × UInt8} (mem : reading ∈ report.readings) :
    (parseScanResults reading.1 report).currentEnergy = reading.2 :=
  foldl_reading (channels_sorted.imp UInt8.ne_of_lt) _ mem

theorem channels_getElem {k : ℕ} (inside : k < channels.length) :
    channels[k].toNat - startChannelNumber = k := by
  have few : k < 16 := inside
  simp only [channels, List.getElem_map, List.getElem_range, startChannelNumber, UInt8.toNat_ofNat']
  omega

/-- The energies of the first channels, in their order. -/
theorem measured_take {channelMask : UInt32} {n : ℕ}
    (first : channels.filter (inMask channelMask) = channels.take n) :
    measured channelMask energyDetect =
      (channels.take n).zipIdx.map fun entry => (entry.1, energyDetect entry.2) := by
  rw [measured, first]
  apply List.ext_getElem
  · simp only [List.length_map, List.length_zipIdx]
  · intro k left right
    simp only [List.getElem_map, List.getElem_zipIdx, List.getElem_take, Nat.zero_add,
      channels_getElem]

/-- Values that were listed one after the other are read so. -/
theorem readings_eq {channelMask : UInt32} {n : ℕ} (same : report.scannedChannels = channelMask)
    (first : channels.filter (inMask channelMask) = channels.take n)
    (values : ∀ j < (channels.take n).length, report.energyValues j = energyDetect j) :
    report.readings = measured channelMask energyDetect := by
  have scanned : report.scanned = inMask channelMask := by
    rw [← same]
    rfl
  rw [Report.readings, scanned, first, measured_take first]
  apply List.map_congr_left
  intro entry mem
  rw [values entry.2 (by simpa using List.snd_lt_of_mem_zipIdx mem)]

/-- The elements with a property, when they come before all the others. -/
theorem filter_eq_take {p : UInt8 → Bool} {list : List UInt8}
    (same : (list.takeWhile p).length = (list.filter p).length) :
    list.filter p = list.take (list.takeWhile p).length := by
  have all : (list.takeWhile p).filter p = list.takeWhile p :=
    List.filter_eq_self.mpr fun _ mem => List.mem_takeWhile_imp mem
  have sublist : List.Sublist (list.takeWhile p) (list.filter p) :=
    all ▸ (List.takeWhile_sublist p).filter p
  rw [← sublist.eq_of_length same]
  exact List.prefix_iff_eq_take.mp (List.takeWhile_prefix p)

/-! ## Exact reports -/

/-- An energy report comes back right just when no channel below a scanned one was left out. -/
theorem energy_report_iff (d : Device) (nwkUpdReq : EdScan) (stale : ℕ → UInt8) (confirm : Confirm)
    (b : Buf) :
    RoundTrip (nwkUpdReq.scanChannels &&& ~~~confirm.unscannedChannels) confirm.energyDetect b
        (nlmeEdScanConfirm d nwkUpdReq stale confirm) ↔
      NoGap (nwkUpdReq.scanChannels &&& ~~~confirm.unscannedChannels) := by
  obtain ⟨count, values⟩ := nlmeEdScanConfirm_spec d nwkUpdReq stale confirm
  have few := count_le d nwkUpdReq stale confirm
  have same : (nlmeEdScanConfirm d nwkUpdReq stale confirm).report.scannedChannels =
      nwkUpdReq.scanChannels &&& ~~~confirm.unscannedChannels := rfl
  generalize nwkUpdReq.scanChannels &&& ~~~confirm.unscannedChannels = mask at same ⊢
  generalize nlmeEdScanConfirm d nwkUpdReq stale confirm = param at *
  have scanned : param.report.scanned = inMask mask := by
    rw [← same]
    rfl
  rw [scanned] at count
  have iff_ := takeWhile_eq_filter_iff (p := inMask mask) channels_sorted
  constructor
  · intro trip
    rw [NoGap, ← iff_, ← count, trip.count, measured, List.length_map]
  · intro noGap
    have first := filter_eq_take (iff_.mpr noGap)
    rw [← count] at first
    generalize count_ : param.report.scannedChannelsListCount.toNat = n at *
    have length : (channels.take n).length = n := List.length_take_of_le few
    have listed : segment param.report.energyValues 0 n = (measured mask confirm.energyDetect).map
        Prod.snd := by
      rw [measured_take first]
      apply List.ext_getElem
      · simp only [segment_length, List.length_map, List.length_zipIdx, length]
      · intro k left right
        rw [segment_length] at left
        simp only [segment_getElem, List.getElem_map, List.getElem_zipIdx, Nat.zero_add]
        exact values k left
    refine ⟨same, ?_, ?_, ?_⟩
    · rw [count_, measured, List.length_map, first, length]
    · rw [count_]
      exact listed
    · obtain ⟨r, done, payload⟩ := nwkUpdNotify_spec b param (count_ ▸ few)
      refine ⟨r, done, fun body holds => ?_⟩
      rw [payload] at holds
      obtain ⟨mask', values'⟩ := reportOf_payload holds
      have readings : (reportOf body).readings = measured mask confirm.energyDetect := by
        refine readings_eq (mask'.trans same) first fun j inside => ?_
        rw [length] at inside
        exact (values' j (count_ ▸ inside)).trans (values j inside)
      refine ⟨readings, fun reading mem => parse_currentEnergy ?_⟩
      rwa [readings]

/-- A device that was asked for a scan of channels 11 and 13. -/
def scanner : Device := ⟨11, 0, 0, 0, false, 0, 0, 0x07fff800, 0, none, []⟩

def twoChannels : EdScan := ⟨0x2800, 3, 1, 0x1234, 7⟩

def bothBusy : Confirm := ⟨0, 0, fun _ => 0x70⟩

/-- The list ends at channel 12, which was not scanned. -/
theorem gap_hides_channel :
    (nlmeEdScanConfirm scanner twoChannels (fun _ => 0) bothBusy).report.scannedChannelsListCount =
        1 ∧
      measured 0x2800 bothBusy.energyDetect = [(11, 0x70), (13, 0x70)] ∧
      ¬RoundTrip 0x2800 bothBusy.energyDetect ⟨0, 0, fun _ => 0⟩
        (nlmeEdScanConfirm scanner twoChannels (fun _ => 0) bothBusy) := by
  have one : (nlmeEdScanConfirm scanner twoChannels (fun _ => 0)
      bothBusy).report.scannedChannelsListCount = 1 := by
    decide +kernel
  have two : measured 0x2800 bothBusy.energyDetect = [(11, 0x70), (13, 0x70)] := by
    decide +kernel
  refine ⟨one, two, fun trip => ?_⟩
  have count := trip.count
  rw [one, two] at count
  exact absurd count (by decide)

end Zboss.EnergyReport
