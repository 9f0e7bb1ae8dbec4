import Zboss.Aps.AckData
import Zboss.Nwk.NeighborIndex
import Zboss.Zdo.ChannelChange

/-!
The neighbour table in answers of ZDO: the extended responses to NWK_addr and IEEE_addr requests
(`zdo_disc_srv.c`), and the responses to Mgmt_Lqi requests (`zdo_nwk_manage_srv.c`).  Both write
into a space computed beforehand from `base_neighbor_used`, which counts unused entries as well.
Behind it entries may read as used that a discovery has left.
-/

namespace Zboss.NeighborPages

open Zboss.AddressTable Zboss.Aps Zboss.Cells Zboss.FrameHeaders Zboss.NeighborTable
open Zboss.BufLayout (ioBufSize)
open Zboss.ChannelChange (zdpSuccess zdpInvRequesttype)

/-- `ZB_ZDP_STATUS_DEVICE_NOT_FOUND`. -/
def zdpDeviceNotFound : UInt8 := 0x81

def zdoSingleDevResponse : UInt8 := 0

def zdoExtendedResponse : UInt8 := 1

/-! ## The device -/

/-- What the answers are made from. -/
structure Device where
  deviceType : DeviceType
  extendedAddress : IeeeAddr
  shortAddress : UInt16
  extPanId : IeeeAddr
  tables : Tables

namespace Device

variable (d : Device)

/-- `base_neighbor_used`. -/
def used : ℕ := d.tables.neighbor.baseNeighborUsed

/-- `base_neighbor_size`. -/
def size : ℕ := d.tables.neighbor.baseNeighborSize

/-- `base_neighbor[i]`. -/
def ent (i : ℕ) : NeighborTblEnt := d.tables.neighbor.baseNeighbor i

/-- `zb_address_short_by_ref`. -/
def shortOf (ent : NeighborTblEnt) : UInt16 :=
  UInt16.ofNat (addressShortByRef d.tables.addr ent.addrRef)

/-- The neighbours, in the order of the table. -/
def neighbors : List NeighborTblEnt := (live d.ent d.size).filter fun ent => ent.used

/-- The table does not count more entries than it has. -/
structure Counted : Prop where
  filled : d.used ≤ d.size
  sized : d.size ≤ neighborTableSize

instance : Decidable d.Counted :=
  decidable_of_iff (_ ∧ _) ⟨fun ⟨filled, sized⟩ => ⟨filled, sized⟩,
    fun counted => ⟨counted.filled, counted.sized⟩⟩

/-- The entries that are counted are in use, and no others. -/
def Packed : Prop := ∀ i < d.size, (d.ent i).used = decide (i < d.used)

instance : Decidable d.Packed := inferInstanceAs (Decidable (∀ i < _, _))

/-- The tables of every run that stays within them are counted. -/
theorem counted_run (addr : AddrGlobals) {ops : List NeighborTable.Op}
    (met : Run.Along linuxSizes.step Clean ⟨addr, .init⟩ ops)
    (tables : d.tables = Run.run linuxSizes.step ⟨addr, .init⟩ ops) : d.Counted := by
  have invariant : Invariant d.tables.neighbor :=
    tables ▸ Run.invariant_of_along step_invariant _ ops init_invariant met
  exact ⟨invariant.consistent.room, invariant.consistent.size⟩

variable {d}

theorem Counted.used_le (counted : d.Counted) : d.used ≤ 32 := counted.filled.trans counted.sized

theorem Packed.used_ent (packed : d.Packed) (counted : d.Counted) {i : ℕ} (inside : i < d.used) :
    (d.ent i).used = true :=
  (packed i (Nat.lt_of_lt_of_le inside counted.filled)).trans (decide_eq_true inside)

/-- The entries that are counted are all the neighbours if no other is in use. -/
theorem neighbors_of_packed (counted : d.Counted) (packed : d.Packed) :
    d.neighbors = (List.range d.used).map d.ent := by
  have whole : d.neighbors = (live d.ent d.used).filter fun ent => ent.used :=
    filter_live_gap _ counted.filled fun i behind inside => by
      rw [packed i inside, decide_eq_false (Nat.not_lt.mpr behind)]
  rw [whole]
  refine List.filter_eq_self.mpr fun ent member => ?_
  obtain ⟨i, inside, rfl⟩ := mem_live.mp member
  exact packed.used_ent counted inside

/-- Where the entries counted are in use and there are no more neighbours, no other entry is. -/
theorem packed_of_length (counted : d.Counted) (all : ∀ i < d.used, (d.ent i).used = true)
    (length : d.neighbors.length ≤ d.used) : d.Packed := by
  intro i inside
  by_cases low : i < d.used
  · rw [all i low, decide_eq_true low]
  rw [decide_eq_false low]
  cases isUsed : (d.ent i).used with
  | false => rfl
  | true =>
    obtain ⟨more, size⟩ := Nat.exists_eq_add_of_le counted.filled
    have counts : d.used + 1 ≤ d.neighbors.length := by
      rw [neighbors, ← List.countP_eq_length_filter, live, List.countP_map, size, List.range_add,
        List.countP_append]
      have counted : (List.range d.used).countP ((fun ent => ent.used) ∘ d.ent) =
          (List.range d.used).length :=
        List.countP_eq_length.mpr fun j member => all j (List.mem_range.mp member)
      refine Nat.add_le_add ?_ (List.countP_pos_iff.mpr ⟨i, ?_, isUsed⟩)
      · rw [counted, List.length_range]
      · refine List.mem_map.mpr ⟨i - d.used, List.mem_range.mpr ?_, ?_⟩ <;> omega
    omega

end Device

/-! ## Address responses -/

/-- `zb_zdo_nwk_addr_req_t`. -/
structure NwkAddrReq where
  ieeeAddr : IeeeAddr
  requestType : UInt8
  startIndex : UInt8

/-- `zb_zdo_ieee_addr_req_t`. -/
structure IeeeAddrReq where
  nwkAddr : UInt16
  requestType : UInt8
  startIndex : UInt8

/-- An extended response of `len` octets: the fields before the list, and the addresses written
into it. -/
structure ExtendedResp where
  status : UInt8
  ieeeAddr : IeeeAddr
  nwkAddr : UInt16
  numAssocDev : UInt8
  startIndex : UInt8
  len : ℕ
  written : List UInt16
  deriving DecidableEq

/-- What becomes of a request: a response without a list, one with a list, the request itself sent
back, its buffer freed, or nothing at all. -/
inductive Reply
  | response (status : UInt8) (ieeeAddr : IeeeAddr) (nwkAddr : UInt16)
  | extended (resp : ExtendedResp)
  | request
  | freed
  | nothing

def headersSize : ℕ := 23 + 25 + 14 + 8

/-- The octets before the list. -/
def fixedLen : ℕ := 11 + 2

/-- The loop over the space left, which runs at least once; `slack` is what it keeps free. -/
def countFit (slack : ℕ) : ℕ → ℕ → ℕ → ℕ × ℕ
  | 0, len, counter => (len, counter)
  | rounds + 1, len, counter =>
    if len + 2 + slack + headersSize < ioBufSize then
      countFit slack rounds (len + 2) (counter + 1)
    else (len + 2, counter + 1)

/-- The responses differ in the space they keep free, and in the count they give. -/
structure Layout where
  slack : ℕ
  count : UInt8 → UInt8 → UInt8

def nwkAddrLayout : Layout := ⟨2, fun count _ => count⟩

def ieeeAddrLayout : Layout := ⟨8, fun _ addrCounter => addrCounter⟩

/-- Variables of the loop over the table. -/
structure Listing where
  ent : ℕ
  found : UInt8
  addrCounter : UInt8
  written : List UInt16

namespace Device

variable (d : Device)

/-- The loop over the table; the entry looked at changes only where an address is written. -/
def listAddrs (startIndex : UInt8) : ℕ → Listing → Listing
  | 0, l => l
  | rounds + 1, l =>
    if l.addrCounter = 0 then l
    else if (d.ent l.ent).used then
      if startIndex ≤ l.found + 1 then
        listAddrs startIndex rounds ⟨l.ent + 1, l.found + 1, l.addrCounter - 1,
          l.written ++ [d.shortOf (d.ent l.ent)]⟩
      else listAddrs startIndex rounds { l with found := l.found + 1 }
    else listAddrs startIndex rounds l

/-- The response of an answer with `addrCounter` addresses. -/
def extendedResp (layout : Layout) (startIndex addrCounter : UInt8) (len : ℕ) :
    ExtendedResp where
  status := zdpSuccess
  ieeeAddr := d.extendedAddress
  nwkAddr := d.shortAddress
  numAssocDev := layout.count (UInt8.ofNat d.used) addrCounter
  startIndex := 0
  len := len
  written := (d.listAddrs startIndex neighborTableSize ⟨0, 0, addrCounter, []⟩).written

/-- The branch of the extended response; with no address to list it frees the buffer. -/
def extendedRes (layout : Layout) (startIndex : UInt8) : Reply :=
  let addrCounter := UInt8.ofNat d.used - startIndex
  if ioBufSize < addrCounter.toNat * 2 + headersSize then
    let (len, counter) := countFit layout.slack ioBufSize fixedLen 0
    .extended (d.extendedResp layout startIndex (UInt8.ofNat counter) len)
  else if addrCounter = 0 then .freed
  else .extended (d.extendedResp layout startIndex addrCounter (fixedLen + addrCounter.toNat * 2))

/-- The device has neighbours to tell of. -/
def routes : Bool := d.deviceType = .coordinator ∨ d.deviceType = .router

/-- The short address for an IEEE address: that of the device, or of a neighbour. -/
def nwkAddrOf (ieeeAddr : IeeeAddr) : UInt16 :=
  if d.extendedAddress = ieeeAddr then d.shortAddress
  else
    match (List.range neighborTableSize).find? fun i => (d.ent i).used &&
        decide (addressIeeeByRef d.tables.addr (d.ent i).addrRef = ieeeAddr) with
    | some i => d.shortOf (d.ent i)
    | none => unknownShortAddr

/-- `zdo_device_nwk_addr_res`. -/
def deviceNwkAddrRes (fc : UInt8) (req : NwkAddrReq) : Reply :=
  let nwkAddr := if req.requestType = zdoSingleDevResponse then d.nwkAddrOf req.ieeeAddr
    else unknownShortAddr
  let status := if nwkAddr = unknownShortAddr ∧ apsFcGetDeliveryMode fc = apsDeliveryUnicast
    then zdpDeviceNotFound else zdpSuccess
  let status := if status = zdpSuccess ∧ zdoExtendedResponse < req.requestType
    then zdpInvRequesttype else status
  if status = zdpSuccess ∧ req.requestType = zdoSingleDevResponse then
    .response status req.ieeeAddr nwkAddr
  else if status = zdpSuccess ∧ req.requestType = zdoExtendedResponse ∧ d.routes then
    d.extendedRes nwkAddrLayout req.startIndex
  else if status ≠ zdpSuccess then .response status req.ieeeAddr d.shortAddress
  else .request

/-- `zdo_device_ieee_addr_res`. -/
def deviceIeeeAddrRes (fc : UInt8) (req : IeeeAddrReq) : Reply :=
  if d.shortAddress ≠ req.nwkAddr then
    if apsFcGetDeliveryMode fc = apsDeliveryUnicast then
      .response zdpDeviceNotFound d.extendedAddress req.nwkAddr
    else if apsFcGetDeliveryMode fc = apsDeliveryBroadcast then .nothing
    else .request
  else if zdoExtendedResponse < req.requestType then
    .response zdpInvRequesttype d.extendedAddress req.nwkAddr
  else if req.requestType = zdoSingleDevResponse then
    .response zdpSuccess d.extendedAddress req.nwkAddr
  else if req.requestType = zdoExtendedResponse ∧ d.routes then
    d.extendedRes ieeeAddrLayout req.startIndex
  else .request

end Device

/-- A request for an extended response. -/
inductive ExtendedReq
  | nwkAddr (ieeeAddr : IeeeAddr) (startIndex : UInt8)
  | ieeeAddr (nwkAddr : UInt16) (startIndex : UInt8)

def ExtendedReq.startIndex : ExtendedReq → UInt8
  | nwkAddr _ startIndex => startIndex
  | ieeeAddr _ startIndex => startIndex

namespace Device

variable (d : Device)

def answer (fc : UInt8) : ExtendedReq → Reply
  | .nwkAddr ieeeAddr startIndex =>
    d.deviceNwkAddrRes fc ⟨ieeeAddr, zdoExtendedResponse, startIndex⟩
  | .ieeeAddr nwkAddr startIndex =>
    d.deviceIeeeAddrRes fc ⟨nwkAddr, zdoExtendedResponse, startIndex⟩

/-- The response lists the neighbours from the start index on, each once and in the order of the
table, all of them or as many as fit, and its fields say so. -/
structure Pages (startIndex : UInt8) (resp : ExtendedResp) : Prop where
  listed : ∃ k, resp.written = ((d.neighbors.map d.shortOf).drop startIndex.toNat).take k ∧
    (k < ((d.neighbors.map d.shortOf).drop startIndex.toNat).length →
      ioBufSize < fixedLen + (k + 1) * 2 + headersSize)
  fits : resp.len + headersSize ≤ ioBufSize
  announced : resp.len = fixedLen + resp.written.length * 2
  count : resp.numAssocDev.toNat = resp.written.length
  startIndex_ : resp.startIndex = startIndex

/-- The request gets to the branch of the extended response: a router that is asked for its own
addresses, and, where it is asked for the short one, not by a unicast. -/
def TakesExtended (fc : UInt8) : ExtendedReq → Prop
  | .nwkAddr _ _ => d.routes = true ∧ apsFcGetDeliveryMode fc ≠ apsDeliveryUnicast
  | .ieeeAddr nwkAddr _ => d.routes = true ∧ nwkAddr = d.shortAddress

end Device

variable {d : Device}

/-! ## The list of an extended response -/

/-- From the start index 0 on, the loop lists the entries up to the first that is not in use, and
stays there. -/
theorem listAddrs_zero (rounds e : ℕ) (found counter : UInt8) (written : List UInt16) :
    ∃ m ≤ counter.toNat, (∀ j < m, (d.ent (e + j)).used = true) ∧
      (d.listAddrs 0 rounds ⟨e, found, counter, written⟩).written =
        written ++ (List.range' e m).map (fun i => d.shortOf (d.ent i)) ∧
      (m < counter.toNat → rounds ≤ m ∨ (d.ent (e + m)).used = false) := by
  induction rounds generalizing e found counter written with
  | zero =>
    exact ⟨0, Nat.zero_le _, by simp, by simp [Device.listAddrs], fun _ => .inl (Nat.le_refl 0)⟩
  | succ rounds ih =>
    rw [Device.listAddrs]
    by_cases done : counter = 0
    · rw [if_pos done]
      exact ⟨0, Nat.zero_le _, by simp, by simp, by simp [done]⟩
    rw [if_neg done]
    cases usedEnt : (d.ent e).used with
    | false =>
      rw [if_neg Bool.false_ne_true]
      obtain ⟨m, small, all, listed, stop⟩ := ih e found counter written
      have none_ : m = 0 := by
        by_contra positive
        have first := all 0 (Nat.pos_of_ne_zero positive)
        rw [Nat.add_zero, usedEnt] at first
        exact Bool.false_ne_true first
      subst none_
      exact ⟨0, Nat.zero_le _, by simp, listed, fun _ => .inr usedEnt⟩
    | true =>
      rw [if_pos rfl, if_pos UInt8.zero_le]
      have less : (counter - 1).toNat + 1 = counter.toNat := by
        have positive : counter.toNat ≠ 0 := fun zero => done (UInt8.toNat_inj.mp zero)
        have one : (1 : UInt8) ≤ counter := UInt8.le_iff_toNat_le.mpr (Nat.pos_of_ne_zero positive)
        rw [UInt8.toNat_sub_of_le _ _ one]
        simp only [UInt8.reduceToNat]
        omega
      obtain ⟨m, small, all, listed, stop⟩ := ih (e + 1) (found + 1) (counter - 1)
        (written ++ [d.shortOf (d.ent e)])
      refine ⟨m + 1, by omega, ?_, ?_, ?_⟩
      · intro j inside
        cases j with
        | zero => exact usedEnt
        | succ j =>
          have next := all j (by omega)
          rwa [Nat.add_assoc, Nat.add_comm 1 j] at next
      · rw [listed, List.range'_succ, List.map_cons, List.append_assoc, List.singleton_append]
      · intro more
        have rest := stop (by omega)
        rw [Nat.add_assoc, Nat.add_comm 1 m] at rest
        exact rest.imp (fun enough => by omega) id

/-- The whole list, from the first entry on. -/
theorem listAddrs_used (counted : d.Counted) : ∃ m ≤ d.used, (∀ j < m, (d.ent j).used = true) ∧
    (d.listAddrs 0 neighborTableSize ⟨0, 0, UInt8.ofNat d.used, []⟩).written =
      (List.range m).map (fun i => d.shortOf (d.ent i)) ∧
    (m < d.used → (d.ent m).used = false) := by
  have small := counted.used_le
  have octet : (UInt8.ofNat d.used).toNat = d.used := by
    rw [UInt8.toNat_ofNat']
    omega
  obtain ⟨m, inside, all, listed, stop⟩ :=
    listAddrs_zero (d := d) neighborTableSize 0 0 (UInt8.ofNat d.used) []
  simp only [octet, Nat.zero_add] at inside all stop
  refine ⟨m, inside, all, by rw [listed, List.nil_append, List.range_eq_range'], fun more => ?_⟩
  refine (stop more).resolve_left fun enough => ?_
  have : neighborTableSize = 32 := rfl
  omega

/-- The branch of the extended response pages through the neighbours. -/
theorem extendedRes_pages_iff (counted : d.Counted) (layout : Layout)
    (counts : ∀ count, (layout.count count count) = count) (startIndex : UInt8) :
    (∃ resp, d.extendedRes layout startIndex = .extended resp ∧ d.Pages startIndex resp) ↔
      startIndex = 0 ∧ d.used ≠ 0 ∧ d.Packed := by
  have small := counted.used_le
  have octet : (UInt8.ofNat d.used).toNat = d.used := by
    rw [UInt8.toNat_ofNat']
    omega
  obtain ⟨m, inside, all, listed, stop⟩ := listAddrs_used counted
  -- from the start index 0 on, there is space for every entry
  have zero : d.extendedRes layout 0 = if d.used = 0 then .freed else
      .extended (d.extendedResp layout 0 (UInt8.ofNat d.used) (fixedLen + d.used * 2)) := by
    have few : ¬ ioBufSize < d.used * 2 + headersSize := by
      simp only [ioBufSize, headersSize]
      omega
    have none_ : UInt8.ofNat d.used = 0 ↔ d.used = 0 := by
      rw [← UInt8.toNat_inj, octet]
      rfl
    simp only [Device.extendedRes, UInt8.sub_zero, octet, if_neg few, none_]
  constructor
  · rintro ⟨resp, answered, pages⟩
    have start : startIndex = 0 := by
      rw [← pages.startIndex_]
      rw [Device.extendedRes] at answered
      split at answered
      · cases answered
        rfl
      · split at answered
        · cases answered
        · cases answered
          rfl
    subst start
    rw [zero] at answered
    by_cases empty : d.used = 0
    · rw [if_pos empty] at answered
      cases answered
    rw [if_neg empty] at answered
    cases answered
    have announced := pages.announced
    simp only [Device.extendedResp, listed, List.length_map, List.length_range] at announced
    have full : m = d.used := by omega
    refine ⟨rfl, empty, Device.packed_of_length counted (fun i lower => all i (full ▸ lower)) ?_⟩
    -- there is space for all neighbours, so that none may be missing
    obtain ⟨k, list, more⟩ := pages.listed
    rw [UInt8.toNat_zero, List.drop_zero, List.length_map] at more
    rw [UInt8.toNat_zero, List.drop_zero, Device.extendedResp, listed] at list
    have length := congrArg List.length list
    rw [List.length_map, List.length_range, List.length_take, List.length_map] at length
    have most : d.neighbors.length ≤ 32 := by
      refine Nat.le_trans (List.length_filter_le _ _) ?_
      rw [live_length]
      exact counted.sized
    by_contra missing
    have few := more (by omega)
    simp only [fixedLen, headersSize, ioBufSize] at few
    omega
  · rintro ⟨rfl, some_, packed⟩
    have full : m = d.used := by
      by_contra differs
      have hole := stop (by omega)
      rw [packed.used_ent counted (by omega)] at hole
      exact Bool.false_ne_true hole.symm
    subst full
    refine ⟨_, by rw [zero, if_neg some_], ?_⟩
    have written : (d.extendedResp layout 0 (UInt8.ofNat d.used) (fixedLen + d.used * 2)).written =
        d.neighbors.map d.shortOf := by
      rw [Device.neighbors_of_packed counted packed, List.map_map]
      exact listed
    have length : (d.neighbors.map d.shortOf).length = d.used := by
      rw [Device.neighbors_of_packed counted packed, List.length_map, List.length_map, List.length_range]
    refine ⟨⟨d.used, ?_, fun more => ?_⟩, ?_, ?_, ?_, rfl⟩
    · rw [written, UInt8.toNat_zero, List.drop_zero, ← length, List.take_length]
    · rw [UInt8.toNat_zero, List.drop_zero, length] at more
      exact absurd more (lt_irrefl _)
    · simp only [Device.extendedResp, fixedLen, headersSize, ioBufSize]
      omega
    · rw [written, length]
      rfl
    · rw [written, length, Device.extendedResp]
      simp only [counts, octet]

/-- An extended response to a NWK_addr or IEEE_addr request lists the neighbours from the start
index on just when that is 0, there is a neighbour, and the entries counted are all in use and no
others; before that, the request has to get as far. -/
theorem extended_response_iff (d : Device) (counted : d.Counted) (fc : UInt8) (req : ExtendedReq) :
    (∃ resp, d.answer fc req = .extended resp ∧ d.Pages req.startIndex resp) ↔
      d.TakesExtended fc req ∧ req.startIndex = 0 ∧ d.used ≠ 0 ∧ d.Packed := by
  have other : zdoExtendedResponse ≠ zdoSingleDevResponse := by decide
  have known : ¬ zdoExtendedResponse < zdoExtendedResponse := by decide
  cases req with
  | nwkAddr ieeeAddr startIndex =>
    simp only [Device.answer, Device.deviceNwkAddrRes, Device.TakesExtended,
      ExtendedReq.startIndex, other, known, and_false, if_false, true_and]
    by_cases unicast : apsFcGetDeliveryMode fc = apsDeliveryUnicast
    · simp [unicast, show zdpDeviceNotFound ≠ zdpSuccess by decide]
    · simp only [unicast, true_and, ne_eq, not_true, not_false_eq_true, and_true,
        if_false]
      by_cases routes : d.routes = true
      · simp only [routes, true_and]
        exact extendedRes_pages_iff counted nwkAddrLayout (fun _ => rfl) startIndex
      · simp [routes]
  | ieeeAddr nwkAddr startIndex =>
    simp only [Device.answer, Device.deviceIeeeAddrRes, Device.TakesExtended,
      ExtendedReq.startIndex, if_neg other, known, if_false, true_and]
    by_cases own : d.shortAddress = nwkAddr
    · rw [if_neg (not_not.mpr own)]
      by_cases routes : d.routes = true
      · simp only [routes, own, true_and]
        exact extendedRes_pages_iff counted ieeeAddrLayout (fun _ => rfl) startIndex
      · simp [routes]
    · rw [if_pos own]
      refine iff_of_false ?_ fun taken => own taken.1.2.symm
      rintro ⟨resp, answered, -⟩
      split at answered
      · cases answered
      · split at answered <;> cases answered

/-- A router with two neighbours. -/
def twoNeighbors : Device where
  deviceType := .router
  extendedAddress := .zero
  shortAddress := 1
  extPanId := .zero
  tables :=
    { addr := { AddrGlobals.zero with
        addrMap := fun ref => { AddressMap.zero with addr := 0x100 + ref } }
      neighbor := appendBase (appendBase .init 0 (createdEnt 0 0)) 1 (createdEnt 1 0) }

theorem extended_response_twoNeighbors :
    ∃ resp, twoNeighbors.answer 0 (.ieeeAddr 1 0) = .extended resp ∧ twoNeighbors.Pages 0 resp :=
  (extended_response_iff twoNeighbors (by decide) 0 (.ieeeAddr 1 0)).mpr
    ⟨⟨rfl, rfl⟩, rfl, by decide, by decide⟩

/-- Asked for the neighbours from the second on, the router lists the first. -/
theorem second_page_lists_first :
    ¬ ∃ resp, twoNeighbors.answer 0 (.ieeeAddr 1 1) = .extended resp ∧
      twoNeighbors.Pages 1 resp := by
  have first : twoNeighbors.answer 0 (.ieeeAddr 1 1) =
      .extended ⟨0, .zero, 1, 1, 0, 15, [0x100]⟩ := by rfl
  rintro ⟨resp, answered, pages⟩
  rw [first] at answered
  cases answered
  exact absurd pages.startIndex_ (by decide)

/-! ## Mgmt_Lqi -/

/-- `zb_zdo_neighbor_table_record_t`. -/
structure NeighborTableRecord where
  extPanId : IeeeAddr
  extAddr : IeeeAddr
  networkAddr : UInt16
  typeFlags : UInt8
  permitJoin : UInt8
  depth : UInt8
  lqi : UInt8
  deriving DecidableEq

/-- The sizes of `zb_zdo_mgmt_lqi_resp_t` and `zb_zdo_neighbor_table_record_t`. -/
def sizeofMgmtLqiResp : ℕ := 4
@[inherit_doc sizeofMgmtLqiResp] def sizeofNeighborTableRecord : ℕ := 22

/-- A response of `size` octets: the fields of the header, and the records written behind it. -/
structure MgmtLqiResp where
  status : UInt8
  neighborTableEntries : UInt8
  startIndex : UInt8
  neighborTableListCount : UInt8
  size : ℕ
  records : List NeighborTableRecord
  deriving DecidableEq

/-- The values of `zb_nwk_device_type_t`. -/
def deviceTypeCode : DeviceType → UInt8
  | .coordinator => 0
  | .router => 1
  | .ed => 2
  | .none => 3

/-- The values of `zb_nwk_relationship_e`. -/
def relationshipCode : Relationship → UInt8
  | .parent => 0
  | .child => 1
  | .sibling => 2
  | .noneOfTheAbove => 3
  | .previousChild => 4
  | .unauthenticatedChild => 5

/-- `ZB_ZDO_RECORD_SET_DEVICE_TYPE`. -/
def recordSetDeviceType (var type : UInt8) : UInt8 := var &&& ~~~(3 : UInt8) ||| type

/-- `ZB_ZDO_RECORD_SET_RX_ON_WHEN_IDLE`. -/
def recordSetRxOnWhenIdle (var type : UInt8) : UInt8 := var &&& ~~~(0xC : UInt8) ||| type <<< 2

/-- `ZB_ZDO_RECORD_SET_RELATIONSHIP`. -/
def recordSetRelationship (var type : UInt8) : UInt8 := var &&& ~~~(0x70 : UInt8) ||| type <<< 4

/-- `ZB_ZDO_RECORD_GET_DEVICE_TYPE`. -/
def recordGetDeviceType (var : UInt8) : UInt8 := var &&& 3

/-- `ZB_ZDO_RECORD_GET_RX_ON_WHEN_IDLE`. -/
def recordGetRxOnWhenIdle (var : UInt8) : UInt8 := (var &&& 0xC) >>> 2

/-- `ZB_ZDO_RECORD_GET_RELATIONSHIP`. -/
def recordGetRelationship (var : UInt8) : UInt8 := (var &&& 0x70) >>> 4

/-- The header sizes that `zdo_lqi_resp` adds up.  `ZB_MAC_MAX_HEADER_SIZE` stands in the sum
without parentheses: all before its first `?` is the condition of that, and what comes behind is
in the other branch. -/
def headerSum : ℕ :=
  let apsHdr := 8
  let auxHdr := 14
  let nwkFullHdr := 24 + 1
  if apsHdr + auxHdr + nwkFullHdr + 2 + 1 + 1 ≠ 0 then 2
  else if 8 + 2 + 1 ≠ 0 then 2
  else 8 + sizeofMgmtLqiResp + 2

def maxRecordsNum : ℕ := ioBufSize / headerSum

namespace Device

variable (d : Device)

/-- One record; the flags are set in the octet that stands in the buffer. -/
def record (junk : UInt8) (ent : NeighborTblEnt) : NeighborTableRecord where
  extPanId := d.extPanId
  extAddr := addressIeeeByRef d.tables.addr ent.addrRef
  networkAddr := d.shortOf ent
  typeFlags := recordSetRelationship (recordSetRxOnWhenIdle
    (recordSetDeviceType junk (deviceTypeCode ent.deviceType)) ent.rxOnWhenIdle.toUInt8)
    (relationshipCode ent.relationship)
  permitJoin := UInt8.ofNat ent.permitJoining
  depth := UInt8.ofNat ent.depth
  lqi := UInt8.ofNat ent.lqi

/-- The loop over the table, from entry `i` on; it ends with the table, or with the records. -/
def lqiRecords (junk : ℕ → UInt8) : ℕ → ℕ → ℕ → ℕ → List NeighborTableRecord
  | 0, _, _, _ => []
  | rounds + 1, i, recordsNum, n =>
    if recordsNum = 0 then []
    else if (d.ent i).used then
      d.record (junk n) (d.ent i) :: lqiRecords junk rounds (i + 1) (recordsNum - 1) (n + 1)
    else lqiRecords junk rounds (i + 1) recordsNum n

/-- `zdo_lqi_resp`, on a device with the router role; none where the assertion of the allocation
fails, to which the size comes as an octet. -/
def lqiResp (junk : ℕ → UInt8) (startIndex : UInt8) : Option MgmtLqiResp :=
  let recordsNum := min (d.used - startIndex.toNat) maxRecordsNum
  let size := sizeofMgmtLqiResp + recordsNum * sizeofNeighborTableRecord
  if size % 2 ^ 8 < ioBufSize then
    some { status := zdpSuccess
           neighborTableEntries := UInt8.ofNat d.used
           startIndex := startIndex
           neighborTableListCount := UInt8.ofNat recordsNum
           size := size
           records := d.lqiRecords junk d.size 0 recordsNum 0 }
  else none

/-- The responses a client reads that has `got` so many records: it asks from the next record on,
until it has `neighbor_table_entries` of them. -/
inductive Reads (junk : ℕ → ℕ → UInt8) : ℕ → List MgmtLqiResp → Prop
  | last {got : ℕ} {resp : MgmtLqiResp}
      (answer : d.lqiResp (junk got) (UInt8.ofNat got) = some resp)
      (enough : resp.neighborTableEntries.toNat ≤ got + resp.records.length) : Reads junk got [resp]
  | more {got : ℕ} {resp : MgmtLqiResp} {rest : List MgmtLqiResp}
      (answer : d.lqiResp (junk got) (UInt8.ofNat got) = some resp)
      (missing : got + resp.records.length < resp.neighborTableEntries.toNat)
      (next : Reads junk (got + resp.records.length) rest) : Reads junk got (resp :: rest)

/-- The record tells of the neighbour. -/
structure Describes (record : NeighborTableRecord) (ent : NeighborTblEnt) : Prop where
  extPanId : record.extPanId = d.extPanId
  extAddr : record.extAddr = addressIeeeByRef d.tables.addr ent.addrRef
  networkAddr : record.networkAddr = d.shortOf ent
  deviceType : recordGetDeviceType record.typeFlags = deviceTypeCode ent.deviceType
  rxOnWhenIdle : recordGetRxOnWhenIdle record.typeFlags = ent.rxOnWhenIdle.toUInt8
  relationship : recordGetRelationship record.typeFlags = relationshipCode ent.relationship
  permitJoin : record.permitJoin = UInt8.ofNat ent.permitJoining
  depth : record.depth = UInt8.ofNat ent.depth
  lqi : record.lqi = UInt8.ofNat ent.lqi

/-- The count of a response is that of the records written, they fill it, and it fits with the
headers added later. -/
structure Carries (headers : ℕ) (resp : MgmtLqiResp) : Prop where
  count : resp.neighborTableListCount.toNat = resp.records.length
  filled : resp.size = sizeofMgmtLqiResp + resp.records.length * sizeofNeighborTableRecord
  fits : resp.size + headers ≤ ioBufSize

/-- The client comes to an end, each response it reads is well formed, and the records tell of
every neighbour once. -/
def PagesLqi (headers : ℕ) (junk : ℕ → ℕ → UInt8) : Prop :=
  ∃ resps, d.Reads junk 0 resps ∧ (∀ resp ∈ resps, Carries headers resp) ∧
    ∃ ents, ents.Perm d.neighbors ∧
      List.Forall₂ d.Describes (resps.flatMap fun resp => resp.records) ents

end Device

/-! ## Type flags -/

theorem set_and (var mask value other : UInt8) :
    (var &&& mask ||| value) &&& other = var &&& (mask &&& other) ||| value &&& other := by
  rw [← UInt8.toBitVec_inj]
  simp only [UInt8.toBitVec_and, UInt8.toBitVec_or, BitVec.and_or_distrib_right, BitVec.and_assoc]

/-- Setting a field leaves the other fields. -/
theorem set_and_other (var : UInt8) {mask value other : UInt8} (kept : mask &&& other = other)
    (apart : value &&& other = 0) : (var &&& mask ||| value) &&& other = var &&& other := by
  rw [set_and, kept, apart, UInt8.or_zero]

/-- A field that has been set is read back. -/
theorem set_and_same (var : UInt8) {mask value own : UInt8} (cleared : mask &&& own = 0)
    (inside : value &&& own = value) : (var &&& mask ||| value) &&& own = value := by
  rw [set_and, cleared, inside, UInt8.and_zero, UInt8.zero_or]

theorem describes_record (junk : UInt8) (ent : NeighborTblEnt) :
    d.Describes (d.record junk ent) ent where
  extPanId := rfl
  extAddr := rfl
  networkAddr := rfl
  deviceType := by
    refine (set_and_other _ (by decide) (by cases ent.relationship <;> decide)).trans ?_
    refine (set_and_other _ (by decide) (by cases ent.rxOnWhenIdle <;> decide)).trans ?_
    exact set_and_same _ (by decide) (by cases ent.deviceType <;> decide)
  rxOnWhenIdle := by
    have field : (d.record junk ent).typeFlags &&& (0xC : UInt8) =
        ent.rxOnWhenIdle.toUInt8 <<< 2 := by
      refine (set_and_other _ (by decide) (by cases ent.relationship <;> decide)).trans ?_
      exact set_and_same _ (by decide) (by cases ent.rxOnWhenIdle <;> decide)
    rw [recordGetRxOnWhenIdle, field]
    cases ent.rxOnWhenIdle <;> decide
  relationship := by
    have field : (d.record junk ent).typeFlags &&& (0x70 : UInt8) =
        relationshipCode ent.relationship <<< 4 :=
      set_and_same _ (by decide) (by cases ent.relationship <;> decide)
    rw [recordGetRelationship, field]
    cases ent.relationship <;> decide
  permitJoin := rfl
  depth := rfl
  lqi := rfl

/-! ## The records of a response -/

/-- The loop tells of the first entries in use, as many as were asked for. -/
theorem lqiRecords_describe (junk : ℕ → UInt8) (rounds i recordsNum n : ℕ) :
    List.Forall₂ d.Describes (d.lqiRecords junk rounds i recordsNum n)
      ((((List.range' i rounds).map d.ent).filter fun ent => ent.used).take recordsNum) := by
  induction rounds generalizing i recordsNum n with
  | zero => exact List.take_nil ▸ .nil
  | succ rounds ih =>
    rw [Device.lqiRecords, List.range'_succ, List.map_cons]
    cases recordsNum with
    | zero => exact .nil
    | succ recordsNum =>
      rw [if_neg (Nat.succ_ne_zero _)]
      cases isUsed : (d.ent i).used with
      | false =>
        rw [if_neg Bool.false_ne_true, List.filter_cons_of_neg (by rw [isUsed]; decide)]
        exact ih (i + 1) (recordsNum + 1) n
      | true =>
        rw [if_pos rfl, List.filter_cons_of_pos isUsed, List.take_succ_cons]
        exact .cons (describes_record _ _) (ih (i + 1) recordsNum (n + 1))

theorem lqiRecords_neighbors (junk : ℕ → UInt8) (recordsNum n : ℕ) :
    List.Forall₂ d.Describes (d.lqiRecords junk d.size 0 recordsNum n)
      (d.neighbors.take recordsNum) := by
  have described := lqiRecords_describe (d := d) junk d.size 0 recordsNum n
  rwa [← List.range_eq_range'] at described

/-- A client reads the response from its start index on. -/
theorem Device.Reads.head {junk : ℕ → ℕ → UInt8} {got : ℕ} {resps : List MgmtLqiResp}
    (reads : d.Reads junk got resps) :
    ∃ resp ∈ resps, d.lqiResp (junk got) (UInt8.ofNat got) = some resp := by
  cases reads with
  | last answer _ => exact ⟨_, List.mem_singleton_self _, answer⟩
  | more answer _ _ => exact ⟨_, List.mem_cons_self, answer⟩

/-- A client that asks from record 0 on stops after a response that gives all records announced. -/
theorem Device.Reads.only {junk : ℕ → ℕ → UInt8} {resps : List MgmtLqiResp}
    (reads : d.Reads junk 0 resps) {resp : MgmtLqiResp}
    (answer : d.lqiResp (junk 0) (UInt8.ofNat 0) = some resp)
    (enough : resp.neighborTableEntries.toNat ≤ resp.records.length) : resps = [resp] := by
  cases reads with
  | last answer' _ =>
    rw [answer] at answer'
    cases answer'
    rfl
  | more answer' missing _ =>
    rw [answer] at answer'
    cases answer'
    rw [Nat.zero_add] at missing
    exact absurd missing (Nat.not_lt.mpr enough)

/-- A client that pages through the responses gets a record of every neighbour, in responses that
carry what they announce and fit with their headers, just when there are as many neighbours as
entries are counted and one response holds them all. -/
theorem lqi_pages_iff (d : Device) (headers : ℕ) (junk : ℕ → ℕ → UInt8) :
    d.PagesLqi headers junk ↔ d.neighbors.length = d.used ∧
      sizeofMgmtLqiResp + d.used * sizeofNeighborTableRecord + headers ≤ ioBufSize := by
  -- the first response, where its records fit at all
  have first (few : d.used ≤ maxRecordsNum) : d.lqiResp (junk 0) (UInt8.ofNat 0) =
      if (sizeofMgmtLqiResp + d.used * sizeofNeighborTableRecord) % 2 ^ 8 < ioBufSize then
        some ⟨zdpSuccess, UInt8.ofNat d.used, UInt8.ofNat 0, UInt8.ofNat d.used,
          sizeofMgmtLqiResp + d.used * sizeofNeighborTableRecord,
          d.lqiRecords (junk 0) d.size 0 d.used 0⟩
      else none := by
    have all : min (d.used - (UInt8.ofNat 0).toNat) maxRecordsNum = d.used := min_eq_left few
    rw [Device.lqiResp]
    simp only [all]
  have described := lqiRecords_neighbors (d := d) (junk 0) d.used 0
  have length := described.length_eq
  rw [List.length_take] at length
  constructor
  · rintro ⟨resps, reads, carries, ents, perm, records⟩
    obtain ⟨resp, member, answer⟩ := reads.head
    have fits := (carries resp member).fits
    have few : d.used ≤ maxRecordsNum := by
      by_contra many
      have most : min (d.used - (UInt8.ofNat 0).toNat) maxRecordsNum = maxRecordsNum :=
        min_eq_right (Nat.le_of_not_le many)
      have bound : maxRecordsNum = 74 := rfl
      rw [Device.lqiResp, most, bound] at answer
      split at answer
      · cases answer
        simp only [sizeofMgmtLqiResp, sizeofNeighborTableRecord, ioBufSize] at fits
        omega
      · cases answer
    have octet : (UInt8.ofNat d.used).toNat = d.used := by
      have bound : maxRecordsNum = 74 := rfl
      rw [UInt8.toNat_ofNat']
      omega
    have answer' := answer
    rw [first few] at answer
    split at answer
    · cases answer
      have count := (carries _ member).count
      simp only [octet] at count
      have only := reads.only answer' (octet.trans count).le
      subst only
      rw [List.flatMap_singleton] at records
      have total := records.length_eq.trans perm.length_eq
      exact ⟨total.symm.trans count.symm, fits⟩
    · cases answer
  · rintro ⟨all, fits⟩
    have six : d.used ≤ 6 := by
      simp only [sizeofMgmtLqiResp, sizeofNeighborTableRecord, ioBufSize] at fits
      omega
    have octet : (UInt8.ofNat d.used).toNat = d.used := by
      rw [UInt8.toNat_ofNat']
      omega
    have passes : (sizeofMgmtLqiResp + d.used * sizeofNeighborTableRecord) % 2 ^ 8 < ioBufSize := by
      simp only [sizeofMgmtLqiResp, sizeofNeighborTableRecord, ioBufSize]
      rw [Nat.mod_eq_of_lt (by omega)]
      omega
    have answer := first (six.trans (by decide))
    rw [if_pos passes] at answer
    rw [all, min_self] at length
    refine ⟨_, .last answer ?_, ?_, d.neighbors, .refl _, ?_⟩
    · simp only [octet, length]
      omega
    · intro resp member
      obtain rfl := List.mem_singleton.mp member
      exact ⟨octet.trans length.symm, by simp only [length], fits⟩
    · rw [← all, List.take_length] at described
      simpa [all] using described

/-- A router with a neighbour, behind an entry that was taken out of use. -/
def gapNeighbor : Device where
  deviceType := .router
  extendedAddress := .zero
  shortAddress := 1
  extPanId := .zero
  tables :=
    { addr := .zero
      neighbor := neighborDelete
        (appendBase (appendBase .init 0 (createdEnt 0 0)) 1 (createdEnt 1 0)) 0 }

/-- The router announces two records and writes one. -/
theorem lqi_gap_miscounts : ¬ gapNeighbor.PagesLqi 58 fun _ _ => 0 := by
  rintro ⟨resps, reads, carries, -⟩
  obtain ⟨resp, member, answer⟩ := reads.head
  have first : gapNeighbor.lqiResp (fun _ => 0) (UInt8.ofNat 0) = some ⟨0, 2, 0, 2, 48,
      [gapNeighbor.record 0 (gapNeighbor.ent 1)]⟩ := by rfl
  rw [first] at answer
  cases answer
  exact absurd (carries _ member).count (by decide)

end Zboss.NeighborPages
