import Zboss.Nwk.AcceptChild
import Zboss.Nwk.CommandFrames
import Zboss.Zdo.MgmtLeave

/-!
NLME-LEAVE.request from the request to its confirm: the device leaves itself or removes a child,
a LEAVE command goes to the MAC, and the confirm is made of what the MAC confirms.  A request
that fails is confirmed at once.  Other things happen in between, so the device may be another
one at each of the four handlers.
-/

namespace Zboss.NlmeLeave

open Zboss.AddressTable Zboss.NeighborTable
open Zboss.AcceptChild (Nib neighborGetByIeee)
open Zboss.CommandFrames (ieeeOctets)
open Zboss.MgmtLeave (LeaveContext)

/-! ## The handlers -/

def nwkStatusSuccess : ℕ := 0

def nwkStatusInvalidRequest : ℕ := 0xC2

def nwkStatusUnknownDevice : ℕ := 0xC8

/-- `ZB_NWK_INTERNAL_LEAVE_CONFIRM_AT_DATA_CONFIRM_HANDLE`. -/
def leaveConfirmHandle : UInt8 := 0xFB

/-- `ZB_NWK_BROADCAST_RX_ON_WHEN_IDLE`. -/
def broadcastRxOnWhenIdle : ℕ := 0xfffd

/-- `ZB_NWK_BROADCAST_ALL_DEVICES`. -/
def broadcastAllDevices : ℕ := 0xffff

/-- `ZB_NWK_IS_ADDRESS_BROADCAST`. -/
def isAddressBroadcast (addr : ℕ) : Bool := addr &&& 0xFFF0 = 0xFFF0

/-- `ZB_NWK_BTR_TABLE_SIZE`. -/
def btrTableSize : ℕ := 16

/-- `ZB_NWK_BRR_TABLE_SIZE`. -/
def brrTableSize : ℕ := 8

def macTxOptionAcknowledgedBit : UInt8 := 1

def macTxOptionIndirectTransmissionBit : UInt8 := 4

/-- The MAC header of a data frame between short addresses in one PAN. -/
def mhrLen : UInt8 := 9

/-- `zb_nlme_leave_request_t`. -/
structure LeaveRequest where
  deviceAddress : IeeeAddr
  removeChildren : UInt8
  rejoin : UInt8
  deriving DecidableEq

/-- `zb_nlme_leave_confirm_t`; the status is an enumeration of four octets. -/
structure LeaveConfirm where
  status : ℕ
  deviceAddress : IeeeAddr
  deriving DecidableEq

/-- `zb_nlme_leave_request_t` in memory. -/
def LeaveRequest.octets (r : LeaveRequest) : List UInt8 :=
  ieeeOctets r.deviceAddress ++ [r.removeChildren, r.rejoin]

/-- Eight octets as an IEEE address. -/
def ieeeOfOctets : List UInt8 → IeeeAddr
  | [a0, a1, a2, a3, a4, a5, a6, a7] => ⟨⟨a0, a1, a2⟩, ⟨a3, a4, a5, a6, a7⟩⟩
  | _ => .zero

/-- `zb_nlme_leave_confirm_t` in memory. -/
def LeaveConfirm.ofOctets : List UInt8 → LeaveConfirm
  | s0 :: s1 :: s2 :: s3 :: address =>
    ⟨s0.toNat + 2 ^ 8 * s1.toNat + 2 ^ 16 * s2.toNat + 2 ^ 24 * s3.toNat, ieeeOfOctets address⟩
  | _ => ⟨0, .zero⟩

/-- What the handlers read: the NWK handle (`rejoining` is `ZB_NLME_STATE_REJOIN`), the tables,
the NIB, the broadcasts known by source and number, the retransmissions under way, and the
requests that wait for a leave. -/
structure Device where
  joined : Bool
  rejoining : Bool
  deviceType : DeviceType
  parent : ℕ
  tables : Tables
  nib : Nib
  networkAddress : ℕ
  sequenceNumber : UInt8
  secureAllFrames : Bool
  hasPreconfiguredKey : Bool
  btt : List (ℕ × UInt8)
  brrtCnt : ℕ
  leave : LeaveContext

/-- The NWK header of a LEAVE command as far as the way of the frame depends on it, its payload,
and whether it is to be encrypted.  It never asks for a route. -/
structure Packet where
  srcAddr : ℕ
  dstAddr : ℕ
  dstIeee : Option IeeeAddr
  seqNum : UInt8
  payload : UInt8
  encrypt : Bool

/-- What a request comes to: it fails with a status, its packet is to be forwarded, or the entry of
a neighbour is used that is not there. -/
inductive Requested
  | failed (status : ℕ)
  | forwarded (packet : Packet) (edChildNum : UInt8)
  | missing

/-- The payload of a LEAVE command: `ZB_LEAVE_PL_SET_REJOIN`, and in the router build also
`ZB_LEAVE_PL_SET_REMOVE_CHILDREN` and for a child `ZB_LEAVE_PL_SET_REQUEST`. -/
def leavePayload (routerRole : Bool) (r : LeaveRequest) (request : Bool) : UInt8 :=
  let rejoin := if r.rejoin ≠ 0 then (1 : UInt8) <<< 5 else 0
  let removeChildren := if routerRole ∧ r.removeChildren ≠ 0 then (1 : UInt8) <<< 7 else 0
  let request := if routerRole ∧ request then (1 : UInt8) <<< 6 else 0
  rejoin ||| removeChildren ||| request

namespace Device

variable (d : Device) (routerRole : Bool)

/-- The checks of `zb_nlme_leave_request`: its status, or the entry of the child to remove, none
where the device is to leave itself. -/
def target (r : LeaveRequest) (junk : IeeeAddrCompressed) : Except ℕ (Option ℕ) :=
  if d.joined = false then .error nwkStatusInvalidRequest
  else if routerRole ∧ r.deviceAddress ≠ .zero ∧
      (d.deviceType = .coordinator ∨ d.deviceType = .router) then
    match (neighborGetByIeee d.tables r.deviceAddress junk).2 with
    | none => .error nwkStatusUnknownDevice
    | some n =>
      match (d.tables.neighbor.baseNeighbor n).relationship with
      | .unauthenticatedChild => .error nwkStatusSuccess
      | .child => .ok (some n)
      | .parent | .sibling | .noneOfTheAbove | .previousChild => .error nwkStatusUnknownDevice
  else .ok none

/-- The LEAVE command is secured. -/
def secure : Bool := d.secureAllFrames && d.nib.securityLevel && d.hasPreconfiguredKey

def nlmeLeaveRequest (r : LeaveRequest) (junk : IeeeAddrCompressed) : Requested :=
  match d.target routerRole r junk with
  | .error status => .failed status
  | .ok none =>
    -- in the router build the address of the child is looked up without a child
    if routerRole then .missing
    else .forwarded ⟨d.networkAddress, broadcastRxOnWhenIdle, none, d.sequenceNumber,
      leavePayload routerRole r false, d.secure⟩ d.nib.edChildNum
  | .ok (some n) =>
    let ref := (d.tables.neighbor.baseNeighbor n).addrRef
    let childAddr := addressShortByRef d.tables.addr ref
    .forwarded ⟨d.networkAddress, childAddr, some (addressIeeeByRef d.tables.addr ref),
        d.sequenceNumber, leavePayload routerRole r true, d.secure⟩
      (if childAddr = d.nib.edAddressAssign - 1 then d.nib.edChildNum - 1 else d.nib.edChildNum)

/-- The neighbour entry of the destination, found by its IEEE address where the header has one. -/
def destination (p : Packet) (junk : IeeeAddrCompressed) : Option ℕ :=
  let (addr, looked) := match p.dstIeee with
    | none => addressByShort d.tables.addr p.dstAddr false false
    | some ieee => addressByIeee d.tables.addr ieee false false junk
  match looked with
  | .error _ => none
  | .ok ref => (neighborGet ⟨addr, d.tables.neighbor⟩ ref false 0 d.tables.neighbor).2

/-- `nwk_calc_destination` for a packet that asks for no route: the MAC destination and whether the
transmission is indirect. -/
def calcDestination (p : Packet) (junk : IeeeAddrCompressed) : Option (ℕ × Bool) :=
  if routerRole = false ∨ d.deviceType = .ed then
    some (if d.rejoining then p.dstAddr else addressShortByRef d.tables.addr d.parent, false)
  else if isAddressBroadcast p.dstAddr then some (broadcastAllDevices, false)
  else (d.destination p junk).map fun n =>
    (p.dstAddr, !(d.tables.neighbor.baseNeighbor n).rxOnWhenIdle)

/-- The broadcast tables take the packet. -/
def takesBroadcast (p : Packet) : Bool :=
  (decide ((p.srcAddr, p.seqNum) ∈ d.btt) || decide (d.btt.length < btrTableSize)) &&
    (!routerRole || decide (d.deviceType = .ed) || decide (d.brrtCnt < brrTableSize))

/-- `zb_nwk_forward`: the destination and transmission of the data request; none where the packet
is dropped or its buffer used for a status indication. -/
def nwkForward (p : Packet) (junk : IeeeAddrCompressed) : Option (ℕ × Bool) :=
  if isAddressBroadcast p.dstAddr && !d.takesBroadcast routerRole p then none
  else d.calcDestination routerRole p junk

/-- The data request at the end of the buffer, with the confirm's handle in its last octet. -/
def dataReqOctets (macDst : ℕ) (indirect : Bool) : List UInt8 :=
  [.ofNat d.nib.macShortAddress, .ofNat (d.nib.macShortAddress / 256), .ofNat macDst,
    .ofNat (macDst / 256),
    (if indirect then macTxOptionIndirectTransmissionBit else 0) |||
      (if macDst ≠ 0xffff then macTxOptionAcknowledgedBit else 0),
    mhrLen, leaveConfirmHandle, leaveConfirmHandle]

/-- `zb_address_ieee_by_short`. -/
def ieeeByShort (shortAddr : ℕ) : Option IeeeAddr :=
  match addressByShort d.tables.addr shortAddr false false with
  | (_, .error _) => none
  | (addr, .ok ref) => some (addressIeeeByRef addr ref)

/-- The branch of `zb_mcps_data_confirm` for a LEAVE request.  The buffer is reset before its status
is read; an address that is not found leaves what the buffer holds. -/
def mcpsDataConfirm (macDst : ℕ) (left : List UInt8) : LeaveConfirm where
  status := 0
  deviceAddress :=
    if macDst ≠ 0xffff then (d.ieeeByShort macDst).getD (ieeeOfOctets left) else .zero

/-- `zb_nlme_leave_confirm` uses the entry of a neighbour that is not there: no management request
waits for the confirm, and the device does not leave. -/
def leaveConfirmMissing (param : UInt8) (lc : LeaveConfirm) (junk : IeeeAddrCompressed) : Bool :=
  let willLeave := decide (lc.status = 0) && decide (lc.deviceAddress = .zero)
  (d.leave.findPending param).isNone && !willLeave &&
    (neighborGetByIeee d.tables lc.deviceAddress junk).2.isNone

end Device

/-! ## A request and its confirm -/

/-- What a request meets on its way: its buffer and the two octets in it before the request, the
device at `zb_nwk_forward`, at the confirm of the MAC and at the leave confirm, and the status the
MAC confirms the frame with, if it does. -/
structure Course where
  param : UInt8
  before0 : UInt8
  before1 : UInt8
  forwarding : Device
  confirming : Device
  leaving : Device
  result : Option ℕ
  junk : IeeeAddrCompressed

/-- The confirms that follow, whether an entry is used that is not there, and the number of end
device children after the request. -/
structure Outcome where
  confirms : List LeaveConfirm
  missing : Bool
  edChildNum : UInt8

/-- A request from `zb_nlme_leave_request` to `zb_nlme_leave_confirm`.  The confirm of a request that
fails is written at the begin of the buffer and read at its end, where the request was. -/
def leave (routerRole : Bool) (d : Device) (r : LeaveRequest) (course : Course) : Outcome :=
  match d.nlmeLeaveRequest routerRole r course.junk with
  | .failed _ =>
    let lc := LeaveConfirm.ofOctets (course.before0 :: course.before1 :: r.octets)
    ⟨[lc], course.leaving.leaveConfirmMissing course.param lc course.junk, d.nib.edChildNum⟩
  | .missing => ⟨[], true, d.nib.edChildNum⟩
  | .forwarded p edChildNum =>
    match course.forwarding.nwkForward routerRole p course.junk, course.result with
    | some (macDst, indirect), some _ =>
      let lc := course.confirming.mcpsDataConfirm macDst
        (course.forwarding.dataReqOctets macDst indirect)
      ⟨[lc], course.leaving.leaveConfirmMissing course.param lc course.junk, edChildNum⟩
    | _, _ => ⟨[], false, edChildNum⟩

/-! ## What is expected -/

/-- The status the confirm has to have: the failure of the request, or what the MAC confirms. -/
def ExpectedStatus (routerRole : Bool) (d : Device) (r : LeaveRequest) (course : Course)
    (status : ℕ) : Prop :=
  match d.target routerRole r course.junk with
  | .error failure => status = failure
  | .ok _ => course.result = some status

/-- The address it has to have: none where the device leaves itself. -/
def expectedAddress (routerRole : Bool) (d : Device) (r : LeaveRequest) (course : Course) :
    IeeeAddr :=
  match d.target routerRole r course.junk with
  | .ok none => .zero
  | .ok (some _) | .error _ => r.deviceAddress

/-- The request removes an end device. -/
def RemovesEndDevice (routerRole : Bool) (d : Device) (r : LeaveRequest) (course : Course) : Prop :=
  match d.target routerRole r course.junk with
  | .ok (some n) => (d.tables.neighbor.baseNeighbor n).deviceType = .ed
  | .ok none | .error _ => False

/-- One confirm follows, for the right device and with the right status, no missing neighbour entry
is used, and the number of end device children goes down for one of them alone and not below zero. -/
structure Right (routerRole : Bool) (d : Device) (r : LeaveRequest) (course : Course) : Prop where
  one : (leave routerRole d r course).confirms.length = 1
  address : ∀ lc ∈ (leave routerRole d r course).confirms,
    lc.deviceAddress = expectedAddress routerRole d r course
  status : ∀ lc ∈ (leave routerRole d r course).confirms,
    ExpectedStatus routerRole d r course lc.status
  present : (leave routerRole d r course).missing = false
  children : (leave routerRole d r course).edChildNum ≠ d.nib.edChildNum →
    RemovesEndDevice routerRole d r course ∧ d.nib.edChildNum ≠ 0

/-- A management request waits for the confirm in the buffer, or the address is a neighbour's. -/
def Awaited (course : Course) (address : IeeeAddr) : Prop :=
  course.leaving.leave.findPending course.param ≠ none ∨
    (neighborGetByIeee course.leaving.tables address course.junk).2 ≠ none

/-- The device is not joined, and its request is all zeros behind two octets of the buffer that are
those of the status. -/
def ServedFailure (d : Device) (r : LeaveRequest) (course : Course) : Prop :=
  d.joined = false ∧ r = ⟨.zero, 0, 0⟩ ∧ course.before0 = 0xC2 ∧ course.before1 = 0 ∧
    Awaited course .zero

/-- The device is of the end device build, the broadcast tables take its LEAVE command, the MAC
confirms it with success, and the address it is sent to is 0xffff or has no IEEE address. -/
def ServedOwn (routerRole : Bool) (d : Device) (r : LeaveRequest) (course : Course) : Prop :=
  let p : Packet := ⟨d.networkAddress, broadcastRxOnWhenIdle, none, d.sequenceNumber,
    leavePayload routerRole r false, d.secure⟩
  let f := course.forwarding
  let macDst := if f.rejoining then broadcastRxOnWhenIdle
    else addressShortByRef f.tables.addr f.parent
  routerRole = false ∧ f.takesBroadcast false p = true ∧ course.result = some 0 ∧
    (macDst = 0xffff ∨ course.confirming.ieeeByShort macDst = some .zero)

/-- The counter of end device children goes down for one of them, the LEAVE command goes to a short
address that the address table translates back to the child, the MAC confirms it with success, and
the child is awaited. -/
def ServedChild (routerRole : Bool) (d : Device) (r : LeaveRequest) (course : Course) (n : ℕ) :
    Prop :=
  let ent := d.tables.neighbor.baseNeighbor n
  let childAddr := addressShortByRef d.tables.addr ent.addrRef
  let p : Packet := ⟨d.networkAddress, childAddr, some (addressIeeeByRef d.tables.addr ent.addrRef),
    d.sequenceNumber, leavePayload routerRole r true, d.secure⟩
  (childAddr = d.nib.edAddressAssign - 1 → ent.deviceType = .ed ∧ d.nib.edChildNum ≠ 0) ∧
    course.result = some 0 ∧
    (∃ macDst indirect, macDst ≠ 0xffff ∧
      course.forwarding.nwkForward routerRole p course.junk = some (macDst, indirect) ∧
      (course.confirming.ieeeByShort macDst).getD
        (ieeeOfOctets (course.forwarding.dataReqOctets macDst indirect)) = r.deviceAddress) ∧
    Awaited course r.deviceAddress

/-- The condition on a request. -/
def Served (routerRole : Bool) (d : Device) (r : LeaveRequest) (course : Course) : Prop :=
  match d.target routerRole r course.junk with
  | .error _ => ServedFailure d r course
  | .ok none => ServedOwn routerRole d r course
  | .ok (some n) => ServedChild routerRole d r course n

/-! ## When a request is confirmed right -/

variable {routerRole : Bool} {d : Device} {r : LeaveRequest} {course : Course}

theorem missing_iff (course : Course) (lc : LeaveConfirm) :
    course.leaving.leaveConfirmMissing course.param lc course.junk = false ↔
      (lc.status = 0 ∧ lc.deviceAddress = .zero) ∨ Awaited course lc.deviceAddress := by
  unfold Device.leaveConfirmMissing Awaited
  cases course.leaving.leave.findPending course.param <;>
    cases (neighborGetByIeee course.leaving.tables lc.deviceAddress course.junk).2 <;>
      simp

/-- Where the confirm is read at the end of the buffer, a status of two octets and the address of
the request are there only if the request is all zeros. -/
theorem failure_read {lc : LeaveConfirm}
    (read : LeaveConfirm.ofOctets (course.before0 :: course.before1 :: r.octets) = lc)
    (small : lc.status < 2 ^ 16) :
    lc.deviceAddress = r.deviceAddress ↔ r = ⟨.zero, 0, 0⟩ := by
  obtain ⟨⟨⟨a0, a1, a2⟩, ⟨a3, a4, a5, a6, a7⟩⟩, removeChildren, rejoin⟩ := r
  subst read
  simp only [LeaveRequest.octets, ieeeOctets, List.cons_append, List.nil_append,
    LeaveConfirm.ofOctets, ieeeOfOctets, IeeeAddr.zero, LeaveRequest.mk.injEq, IeeeAddr.mk.injEq,
    DevManufacturer.mk.injEq, DeviceId.mk.injEq] at small ⊢
  have first : a0 = 0 := UInt8.toNat_inj.mp (by rw [UInt8.toNat_zero]; omega)
  have second : a1 = 0 := UInt8.toNat_inj.mp (by rw [UInt8.toNat_zero]; omega)
  subst first second
  constructor
  · rintro ⟨⟨rfl, rfl, rfl⟩, rfl, rfl, rfl, rfl, rfl⟩
    exact ⟨⟨⟨rfl, rfl, rfl⟩, rfl, rfl, rfl, rfl, rfl⟩, rfl, rfl⟩
  · rintro ⟨⟨⟨-, -, rfl⟩, rfl, rfl, rfl, rfl, rfl⟩, rfl, rfl⟩
    exact ⟨⟨rfl, rfl, rfl⟩, rfl, rfl, rfl, rfl, rfl⟩

/-- The statuses of the requests that fail. -/
theorem target_error {status : ℕ} (failed : d.target routerRole r course.junk = .error status) :
    (d.joined = false ∧ status = nwkStatusInvalidRequest) ∨
      (d.joined = true ∧ r.deviceAddress ≠ .zero ∧
        (status = nwkStatusSuccess ∨ status = nwkStatusUnknownDevice)) := by
  unfold Device.target at failed
  cases joined : d.joined
  · rw [if_pos joined] at failed
    exact .inl ⟨rfl, (Except.error.inj failed).symm⟩
  · rw [if_neg (by simp [joined])] at failed
    split at failed
    · rename_i removal
      refine .inr ⟨rfl, removal.2.1, ?_⟩
      split at failed
      · exact .inr (Except.error.inj failed).symm
      · split at failed
        all_goals cases failed
        all_goals simp
    · cases failed

/-- What follows a request that fails. -/
theorem leave_failed {status : ℕ} (failed : d.target routerRole r course.junk = .error status) :
    leave routerRole d r course =
      let lc := LeaveConfirm.ofOctets (course.before0 :: course.before1 :: r.octets)
      ⟨[lc], course.leaving.leaveConfirmMissing course.param lc course.junk, d.nib.edChildNum⟩ := by
  simp only [leave, Device.nlmeLeaveRequest, failed]

theorem failure_right_iff {status : ℕ}
    (failed : d.target routerRole r course.junk = .error status) :
    Right routerRole d r course ↔ ServedFailure d r course := by
  cases read : LeaveConfirm.ofOctets (course.before0 :: course.before1 :: r.octets) with
  | mk readStatus readAddress =>
  have follows := leave_failed failed
  simp only [read] at follows
  have statement : Right routerRole d r course ↔ readAddress = r.deviceAddress ∧
      readStatus = status ∧
        ((readStatus = 0 ∧ readAddress = .zero) ∨ Awaited course readAddress) := by
    rw [← missing_iff course ⟨readStatus, readAddress⟩]
    constructor
    · rintro ⟨-, address, status', present, -⟩
      simp only [follows, List.mem_singleton, forall_eq, ExpectedStatus, expectedAddress,
        failed] at address status' present
      exact ⟨address, status', present⟩
    · rintro ⟨address, status', present⟩
      refine ⟨by rw [follows]; rfl, ?_, ?_, by rw [follows]; exact present, ?_⟩
      · simp only [follows, List.mem_singleton, forall_eq, expectedAddress, failed]
        exact address
      · simp only [follows, List.mem_singleton, forall_eq, ExpectedStatus, failed]
        exact status'
      · intro changed
        rw [follows] at changed
        exact absurd rfl changed
  rw [statement, ServedFailure]
  have reading : r = ⟨.zero, 0, 0⟩ → readStatus = course.before0.toNat + 2 ^ 8 *
      course.before1.toNat ∧ readAddress = .zero := by
    rintro rfl
    simpa [LeaveRequest.octets, ieeeOctets, LeaveConfirm.ofOctets, ieeeOfOctets, IeeeAddr.zero,
      eq_comm] using read
  constructor
  · rintro ⟨address, rfl, present⟩
    have small : readStatus < 2 ^ 16 := by
      rcases target_error failed with ⟨-, rfl⟩ | ⟨-, -, rfl | rfl⟩ <;> decide
    have zeros := (failure_read read small).mp address
    obtain ⟨value, rfl⟩ := reading zeros
    rcases target_error failed with ⟨away, rfl⟩ | ⟨-, other, -⟩
    · have first : course.before0 = 0xC2 ∧ course.before1 = 0 := by
        rw [← UInt8.toNat_inj, ← UInt8.toNat_inj]
        simp only [nwkStatusInvalidRequest, UInt8.toNat_ofNat] at value ⊢
        omega
      refine ⟨away, zeros, first.1, first.2, present.resolve_left ?_⟩
      rintro ⟨success, -⟩
      cases success
    · rw [zeros] at other
      exact absurd rfl other
  · rintro ⟨away, zeros, first, second, awaited⟩
    obtain ⟨value, rfl⟩ := reading zeros
    refine ⟨by rw [zeros], ?_, .inr awaited⟩
    rcases target_error failed with ⟨-, rfl⟩ | ⟨joined, -⟩
    · rw [value, first, second]
      rfl
    · rw [away] at joined
      cases joined

/-- The shape of the result when the packet was forwarded. -/
theorem leave_forwarded {p : Packet} {edChildNum : UInt8}
    (forwarded : d.nlmeLeaveRequest routerRole r course.junk = .forwarded p edChildNum) :
    leave routerRole d r course =
      match course.forwarding.nwkForward routerRole p course.junk, course.result with
      | some (macDst, indirect), some _ =>
        let lc := course.confirming.mcpsDataConfirm macDst
          (course.forwarding.dataReqOctets macDst indirect)
        ⟨[lc], course.leaving.leaveConfirmMissing course.param lc course.junk, edChildNum⟩
      | _, _ => ⟨[], false, edChildNum⟩ := by
  simp only [leave, forwarded]

/-- A request that is forwarded is confirmed right exactly when the frame gets to the MAC, the MAC
confirms it with success, its address is translated to the one expected, and the counter is not
touched or goes down rightly. -/
theorem forwarded_right_iff {p : Packet} {edChildNum : UInt8} {n : Option ℕ}
    (decided : d.target routerRole r course.junk = .ok n)
    (forwarded : d.nlmeLeaveRequest routerRole r course.junk = .forwarded p edChildNum) :
    Right routerRole d r course ↔
      (edChildNum ≠ d.nib.edChildNum →
        RemovesEndDevice routerRole d r course ∧ d.nib.edChildNum ≠ 0) ∧
      course.result = some 0 ∧
      ∃ macDst indirect,
        course.forwarding.nwkForward routerRole p course.junk = some (macDst, indirect) ∧
        (course.confirming.mcpsDataConfirm macDst
          (course.forwarding.dataReqOctets macDst indirect)).deviceAddress =
            expectedAddress routerRole d r course ∧
        (expectedAddress routerRole d r course = .zero ∨
          Awaited course (expectedAddress routerRole d r course)) := by
  have follows := leave_forwarded forwarded
  cases sent : course.forwarding.nwkForward routerRole p course.junk with
  | none =>
    simp only [sent] at follows
    refine iff_of_false (fun right => ?_) (by simp)
    have one := right.one
    rw [follows] at one
    cases one
  | some reached =>
    obtain ⟨macDst, indirect⟩ := reached
    cases result : course.result with
    | none =>
      simp only [sent, result] at follows
      refine iff_of_false (fun right => ?_) (by simp)
      have one := right.one
      rw [follows] at one
      cases one
    | some status =>
      simp only [sent, result] at follows
      have present := missing_iff course (course.confirming.mcpsDataConfirm macDst
        (course.forwarding.dataReqOctets macDst indirect))
      have success : (course.confirming.mcpsDataConfirm macDst
        (course.forwarding.dataReqOctets macDst indirect)).status = 0 := rfl
      simp only [success, true_and] at present
      simp only [Option.some.injEq, Prod.mk.injEq]
      constructor
      · rintro ⟨-, address, status', missing, children⟩
        simp only [follows, List.mem_singleton, forall_eq, ExpectedStatus, decided, result,
          Option.some.injEq, success] at address status' missing children
        have found := present.mp missing
        rw [address] at found
        exact ⟨children, status', macDst, indirect, ⟨rfl, rfl⟩, address, found⟩
      · rintro ⟨children, rfl, _, _, ⟨rfl, rfl⟩, address, found⟩
        rw [← address] at found
        refine ⟨by rw [follows]; rfl, ?_, ?_, by rw [follows]; exact present.mpr found, ?_⟩
        · simpa only [follows, List.mem_singleton, forall_eq] using address
        · simp only [follows, List.mem_singleton, forall_eq, ExpectedStatus, decided, result,
            success]
        · rw [follows]
          exact children

/-- What the handler of the MAC confirm leaves in the buffer is no zero address. -/
theorem left_ne_zero (f : Device) (macDst : ℕ) (indirect : Bool) :
    ieeeOfOctets (f.dataReqOctets macDst indirect) ≠ .zero := by
  simp [ieeeOfOctets, Device.dataReqOctets, IeeeAddr.zero, mhrLen]

theorem confirm_zero_iff (f : Device) (macDst : ℕ) (indirect : Bool) :
    (course.confirming.mcpsDataConfirm macDst (f.dataReqOctets macDst indirect)).deviceAddress =
        .zero ↔
      macDst = 0xffff ∨ course.confirming.ieeeByShort macDst = some .zero := by
  simp only [Device.mcpsDataConfirm]
  by_cases broadcast : macDst = 0xffff
  · simp [broadcast]
  · rw [if_pos broadcast]
    cases course.confirming.ieeeByShort macDst with
    | none => simp [broadcast, left_ne_zero]
    | some address => simp [broadcast]

theorem confirm_named_iff {address : IeeeAddr} (named : address ≠ .zero) (macDst : ℕ)
    (left : List UInt8) :
    (course.confirming.mcpsDataConfirm macDst left).deviceAddress = address ↔
      macDst ≠ 0xffff ∧
        (course.confirming.ieeeByShort macDst).getD (ieeeOfOctets left) = address := by
  simp only [Device.mcpsDataConfirm]
  by_cases broadcast : macDst = 0xffff
  · simp [broadcast, named.symm]
  · simp [broadcast]

theorem own_right_iff (decided : d.target routerRole r course.junk = .ok none) :
    Right routerRole d r course ↔ ServedOwn routerRole d r course := by
  cases role : routerRole with
  | true =>
    subst role
    refine iff_of_false (fun right => ?_) fun served => Bool.noConfusion served.1
    have present := right.present
    simp only [leave, Device.nlmeLeaveRequest, decided, if_true] at present
    cases present
  | false =>
    subst role
    have forwarded : d.nlmeLeaveRequest false r course.junk = .forwarded
        ⟨d.networkAddress, broadcastRxOnWhenIdle, none, d.sequenceNumber,
          leavePayload false r false, d.secure⟩ d.nib.edChildNum := by
      simp [Device.nlmeLeaveRequest, decided]
    rw [forwarded_right_iff decided forwarded]
    have expected : expectedAddress false d r course = .zero := by
      simp only [expectedAddress, decided]
    have broadcast : isAddressBroadcast broadcastRxOnWhenIdle = true := by decide
    simp only [expected, confirm_zero_iff, ServedOwn, true_or, and_true, ne_eq,
      not_true_eq_false, false_implies, true_and, Device.nwkForward, broadcast, Bool.true_and,
      Bool.not_eq_true', Device.calcDestination, true_or, if_true]
    constructor
    · rintro ⟨result, macDst, indirect, reached, zero⟩
      split at reached
      · cases reached
      · rename_i taken
        obtain ⟨rfl, -⟩ := Prod.mk.inj (Option.some.inj reached)
        exact ⟨by simpa using taken, result, zero⟩
    · rintro ⟨taken, result, zero⟩
      refine ⟨result, _, false, ?_, zero⟩
      rw [if_neg (by simp [taken])]

/-- A device that removes another names it. -/
theorem target_child {n : ℕ} (decided : d.target routerRole r course.junk = .ok (some n)) :
    r.deviceAddress ≠ .zero := by
  unfold Device.target at decided
  split at decided
  · cases decided
  · split at decided
    · rename_i removal
      exact removal.2.1
    · cases decided

theorem child_right_iff {n : ℕ} (decided : d.target routerRole r course.junk = .ok (some n)) :
    Right routerRole d r course ↔ ServedChild routerRole d r course n := by
  have forwarded := show d.nlmeLeaveRequest routerRole r course.junk = _ by
    simp only [Device.nlmeLeaveRequest, decided]
    rfl
  rw [forwarded_right_iff decided forwarded]
  have expected : expectedAddress routerRole d r course = r.deviceAddress := by
    simp only [expectedAddress, decided]
  have named := target_child decided
  have less : d.nib.edChildNum - 1 ≠ d.nib.edChildNum := by
    intro same
    rw [← UInt8.toNat_inj, UInt8.toNat_sub] at same
    have bound := d.nib.edChildNum.toNat_lt
    simp at same
    omega
  simp only [expected, named, false_or, ServedChild, RemovesEndDevice, decided,
    confirm_named_iff named]
  constructor
  · rintro ⟨children, result, macDst, indirect, reached, ⟨unicast, address⟩, awaited⟩
    refine ⟨fun last => children ?_, result, ⟨macDst, indirect, unicast, reached, address⟩,
      awaited⟩
    rw [if_pos last]
    exact less
  · rintro ⟨children, result, ⟨macDst, indirect, unicast, reached, address⟩, awaited⟩
    refine ⟨fun changed => children ?_, result, macDst, indirect, reached, ⟨unicast, address⟩,
      awaited⟩
    by_contra other
    rw [if_neg other] at changed
    exact changed rfl

/-- A request is confirmed once, for the right device and with the right status, exactly when it is
served. -/
theorem leave_right_iff (routerRole : Bool) (d : Device) (r : LeaveRequest) (course : Course) :
    Right routerRole d r course ↔ Served routerRole d r course := by
  unfold Served
  cases decided : d.target routerRole r course.junk with
  | error status => exact failure_right_iff decided
  | ok n =>
    cases n with
    | none => exact own_right_iff decided
    | some n => exact child_right_iff decided

/-! ## Requests that are confirmed wrong -/

def mother : IeeeAddr := ⟨⟨1, 2, 3⟩, ⟨4, 5, 6, 7, 8⟩⟩

/-- A joined device with no neighbours that knows its parent, the coordinator. -/
def standing (deviceType : DeviceType) : Device where
  joined := true
  rejoining := false
  deviceType := deviceType
  parent := ((addressUpdate .zero mother 0 true .zero).2.toOption).getD 0
  tables := ⟨(addressUpdate .zero mother 0 true .zero).1, .init⟩
  nib := ⟨20, 6, 5, 1, 0, 1, 0, 0, true⟩
  networkAddress := 1
  sequenceNumber := 0
  secureAllFrames := false
  hasPreconfiguredKey := false
  btt := []
  brrtCnt := 0
  leave := ⟨fun _ => ⟨false, 0, 0, 0⟩, 0, false, false, 1, 0⟩

/-- The device does not change, and the MAC confirms with `result`. -/
def smooth (d : Device) (result : ℕ) : Course := ⟨3, 0, 0, d, d, d, some result, .zero⟩

/-- The leave of an end device is confirmed with the address of its parent, that of a router uses an
entry that is not there, and a request for an unknown device is confirmed with another status. -/
theorem leave_request_goes_wrong :
    (leave false (standing .ed) ⟨.zero, 0, 0⟩ (smooth (standing .ed) 0)).confirms =
        [⟨0, mother⟩] ∧
      ¬ Right false (standing .ed) ⟨.zero, 0, 0⟩ (smooth (standing .ed) 0) ∧
      ¬ Right true (standing .router) ⟨.zero, 0, 0⟩ (smooth (standing .router) 0) ∧
      (leave true (standing .router) ⟨⟨⟨1, 1, 1⟩, ⟨1, 1, 1, 1, 1⟩⟩, 0, 0⟩
        (smooth (standing .router) 0)).confirms =
          [⟨0x01010000, ⟨⟨1, 1, 1⟩, ⟨1, 1, 1, 0, 0⟩⟩⟩] := by
  have own : (leave false (standing .ed) ⟨.zero, 0, 0⟩ (smooth (standing .ed) 0)).confirms =
      [⟨0, mother⟩] := rfl
  have used : (leave true (standing .router) ⟨.zero, 0, 0⟩ (smooth (standing .router) 0)).missing =
      true := rfl
  refine ⟨own, fun right => ?_, fun right => ?_, rfl⟩
  · have address := right.address ⟨0, mother⟩ (by rw [own]; exact List.mem_singleton_self _)
    cases address
  · exact Bool.noConfusion (used.symm.trans right.present)

end Zboss.NlmeLeave
