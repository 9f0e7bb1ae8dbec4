import Zboss.Nwk.LeaveCommand
import Zboss.Nwk.Rejoin
import Zboss.Secur.Rejection

/-!
What becomes of the buffer of a received frame: `zb_mcps_data_indication`, the unsecuring it calls,
and `nwk_frame_indication` with the handlers of the commands.  Each of them frees the buffer, hands
it to the one that is scheduled with it, or puts it into the table of those that wait for a copy.
-/

namespace Zboss.ReceiveBuffers

open Zboss.AddressTable
open Zboss.DataIndication (Config RxFrame nwkFrame)
open Zboss.DynamicTables (NwkBufAllocWait nwkWaitAllocTableSize)
open Zboss.FrameHeaders Zboss.KeyStore
open Zboss.LeaveCommand (LeaveIndPrnt Room)
open Zboss.NeighborTable (NeighborTbl)
open Zboss.Rejection (Env)
open Zboss.Rejection.Device (senderRef)
open Zboss.Rejoin (rejoinRequestTableSize)
open Zboss.SlotTable
open Zboss.Unsecure (Decrypts NwkFrame)

/-! ## Commands -/

def nwkCmdRouteRequest : UInt8 := 1

def nwkCmdRouteReply : UInt8 := 2

def nwkCmdNetworkStatus : UInt8 := 3

def nwkCmdLeave : UInt8 := 4

def nwkCmdRejoinRequest : UInt8 := 6

def nwkCmdRejoinResponse : UInt8 := 7

def nwkCmdNetworkReport : UInt8 := 9

def nwkCmdNetworkUpdate : UInt8 := 0xa

def nwkReportIsPanidConflict (options : UInt8) : Bool := options >>> 4 &&& 0xf == 0

/-! ## Buffers -/

/-- Who gets a buffer. -/
inductive Holder
  | nwkFrameIndication
  | nldeDataIndication
  | nwkForward
  | nlmeStatusIndication
  | waitAlloc
  | leave (callback : LeaveCommand.Callback)
  | panidConflictSendNwkUpdate
  | nlmeJoinConfirm
  | nlmeRejoinScanConfirm
  | meshRreqHandler
  | meshRrepHandler
  deriving DecidableEq

inductive Fate
  | freed
  | handed (holder : Holder)
  deriving DecidableEq

/-- The places in the callback ring, and what was done with the buffer. -/
structure Custody where
  room : ℕ
  fates : List Fate

namespace Custody

variable (c : Custody)

/-- `ZB_SCHEDULE_CALLBACK`; the status is not looked at. -/
def schedule (holder : Holder) : Custody :=
  if 0 < c.room then ⟨c.room - 1, c.fates ++ [.handed holder]⟩ else c

def freeBuf : Custody := { c with fates := c.fates ++ [.freed] }

def securNwkStatus : Custody := c.schedule .nlmeStatusIndication

/-- The buffer goes where the caller puts it. -/
def give (holder : Holder) : Custody := { c with fates := c.fates ++ [.handed holder] }

end Custody

/-! ## The device -/

inductive NlmeState
  | idle
  | disc
  | formationEdScan
  | formationActiveScan
  | formation
  | router
  | edScan
  | rejoin
  | orphanScan
  | reset
  | panidConflictResolution
  deriving DecidableEq, Repr

/-- What the handlers look at: the tables and keys, the neighbour table but for its security fields,
the buffers that wait for a copy, and the state of leaving, rejoining and PAN id conflicts. -/
structure Device where
  secur : Rejection.Device
  neighbor : NeighborTbl
  deviceType : NeighborTable.DeviceType
  isTc : Bool
  waitAlloc : Table NwkBufAllocWait nwkWaitAllocTableSize
  leaveIndPrnt : LeaveIndPrnt
  rejoinAfterLeave : Bool
  state : NlmeState
  rejoinParentAddr : IeeeAddr
  rejoinReqTableCnt : ℕ
  panidConflict : Bool
  extPanId : IeeeAddr

namespace Device

variable (d : Device) (config : Config)

/-- The device as the LEAVE command meets it. -/
def leaving : LeaveCommand.Device where
  tables := ⟨d.secur.tables.addr, d.neighbor⟩
  deviceType := d.deviceType
  isTc := d.isTc
  networkAddress := config.networkAddress.toNat
  leaveIndPrnt := d.leaveIndPrnt
  rejoinAfterLeave := d.rejoinAfterLeave

/-! ### Unsecuring -/

/-- The checks of `zb_nwk_unsecure_frame` up to the frame counter, with the key they find. -/
def checked (frame : NwkFrame) (srcMode : UInt8) (env : Env) (d : Rejection.Device) :
    Option KeyStore.Slot :=
  match senderRef frame srcMode env d.tables.addr with
  | (_, .error _) => none
  | (addr, .ok ref) =>
    let d := d.setAddr addr
    match Unsecure.neighborGet ref (frame.nwkSrcAddr == frame.macSrcAddr) d.room d.secur with
    | none => none
    | some nbe =>
      match slotBySeq frame.keySeqNumber d.keys with
      | none => none
      | some i =>
        ((nbe.doubtChild.followKey frame.keySeqNumber).count frame.frameCounter).map fun _ => i

/-- `zb_ccm_decrypt_n_auth_stdsecur` with the key of a slot. -/
def deciphers (decrypts : Decrypts) (frame : NwkFrame) (d : Rejection.Device)
    (i : KeyStore.Slot) : Bool :=
  decrypts (d.keys.securMaterialSet i).key
    ⟨frame.sourceAddress, frame.frameCounter, Unsecure.zbNwkStdSecurControl⟩
    frame.header frame.payload

/-- `zb_nwk_unsecure_frame`, with whether it returns `RET_OK`.  The size of the payload is an
unsigned difference, compared with `ZB_CCM_M`. -/
def nwkUnsecureFrame (decrypts : Decrypts) (frame : NwkFrame) (payloadSize : UInt32)
    (srcMode : UInt8) (env : Env) (c : Custody) (d : Rejection.Device) : Custody × Bool :=
  if d.keys.authenticated then
    match checked frame srcMode env d with
    | none => (c.securNwkStatus, false)
    | some i =>
      -- the status of a payload that is too short is indicated, and again as that of a failure
      if payloadSize < 4 then (c.securNwkStatus.securNwkStatus, false)
      else if deciphers decrypts frame d i then (c, true)
      else (c.securNwkStatus, false)
  else (c.freeBuf, false)

/-! ### Reception -/

/-- Broadcast commands that are sent on. -/
def retransmittedCommand (commandId : UInt8) : Bool :=
  commandId == nwkCmdNetworkReport || commandId == nwkCmdNetworkStatus ||
    commandId == nwkCmdNetworkUpdate

/-- `indicate` and `retransmit` of `zb_mcps_data_indication`; the radius has been counted down. -/
def disposition (p body : Octets) : Bool × Bool :=
  let radius := nwkRadius p - 1
  let dstAddr := nwkDstAddr p
  if config.routerRole ∧ (d.deviceType = .coordinator ∨ d.deviceType = .router) then
    if nwkIsAddressBroadcast dstAddr then
      (true, radius != 0 && (nwkFramectlGetFrameType p == nwkFrameTypeData ||
        nwkFramectlGetFrameType p == nwkFrameTypeCommand &&
          retransmittedCommand (body (nwkHdrSize p))))
    else if dstAddr = config.networkAddress then (true, false)
    else (false, radius != 0)
  else (dstAddr == config.networkAddress || nwkIsAddressBroadcast dstAddr, false)

/-- The end of `zb_mcps_data_indication`. -/
def pass (p body : Octets) (c : Custody) : Custody :=
  match d.disposition config p body with
  | (true, true) =>
    match d.waitAlloc.getEnt with
    | some _ => c.give .waitAlloc
    | none => c.schedule .nwkFrameIndication
  | (false, true) => c.schedule .nwkForward
  | (true, false) => c.schedule .nwkFrameIndication
  | (false, false) => c.freeBuf

/-- The NWK frame of a received frame. -/
def nwkOctets (frame : RxFrame) : Octets := frame.octets.cut (parseMhr frame.octets).size

def mcpsDataIndication (decrypts : Decrypts) (frame : RxFrame) (env : Env) (room : ℕ) : Custody :=
  let mhr := parseMhr frame.octets
  let srcMode := fcfGetSrcAddressingMode frame.octets
  let p := nwkOctets frame
  let len := frame.len - mhr.size
  let c : Custody := ⟨room, []⟩
  if nwkRadius p = 0 ∨ (nwkFramectlGetFrameType p ≠ nwkFrameTypeCommand ∧
      nwkFramectlGetFrameType p ≠ nwkFrameTypeData) then c.freeBuf
  else
    match d.secur.recordBroadcast config mhr.srcAddr srcMode env p with
    | (_, false) => c.freeBuf
    | (secur, true) =>
      if nwkFramectlGetSecurity p then
        match nwkUnsecureFrame decrypts (nwkFrame mhr p len)
            (UInt32.ofNat len - UInt32.ofNat (nwkHdrSize p)) srcMode env c secur with
        | (c, true) => d.pass config p env.nwkPlain c
        | (c, false) => c
      else d.pass config p p c

/-! ### The frame is for this device -/

/-- `zb_nlme_rejoin_request`, as far as it concerns the buffer. -/
def nlmeRejoinRequest (p : Octets) (c : Custody) : Custody :=
  if d.rejoinReqTableCnt < rejoinRequestTableSize ∧ nwkFramectlGetSourceIeee p ≠ 0 then
    c.schedule .nwkForward
  else c.freeBuf

/-- The check of `zb_nlme_rejoin_response`. -/
def rejoinAccepted (p body : Octets) : Bool :=
  let payload := nwkHdrSize p + 1
  body (payload + 2) == 0 && !nwkIsAddressBroadcast (body.le16 payload) &&
    nwkFramectlGetSourceIeee p != 0 &&
    (nwkFramectlGetDestinationIeee p == 0 || p.ieeeAddr 8 == config.extendedAddress) &&
    (d.rejoinParentAddr == .zero || p.ieeeAddr 16 == d.rejoinParentAddr)

/-- `zb_nlme_rejoin_response`, as far as it concerns the buffer. -/
def nlmeRejoinResponse (p body : Octets) (c : Custody) : Custody :=
  if d.state = .rejoin then
    if d.rejoinAccepted config p body then c.schedule .nlmeJoinConfirm
    else c.schedule .nlmeRejoinScanConfirm
  else c.freeBuf

/-- A report or an update of this network about a PAN id conflict. -/
def ownConflict (p body : Octets) : Bool :=
  let payload := nwkHdrSize p + 1
  nwkReportIsPanidConflict (body payload) && body.ieeeAddr (payload + 1) == d.extPanId

/-- `zb_panid_conflict_got_network_report`, as far as it concerns the buffer. -/
def panidConflictGotNetworkReport (c : Custody) : Custody :=
  if d.state = .panidConflictResolution ∨ d.panidConflict then c.freeBuf
  else c.schedule .panidConflictSendNwkUpdate

/-- The commands only a router listens to. -/
def routerCommand (p body : Octets) (c : Custody) : Option Custody :=
  let commandId := body (nwkHdrSize p)
  if !config.routerRole then none
  else if commandId = nwkCmdRouteRequest ∧ !config.joinedPro then some (c.give .meshRreqHandler)
  else if commandId = nwkCmdRouteReply ∧ !config.joinedPro then some (c.give .meshRrepHandler)
  else if commandId = nwkCmdRejoinRequest ∧ !config.joinedPro then some (d.nlmeRejoinRequest p c)
  else if commandId = nwkCmdNetworkReport then
    some (if !d.ownConflict p body then c.freeBuf else d.panidConflictGotNetworkReport c)
  else if commandId = nwkCmdNetworkStatus then some (c.schedule .nlmeStatusIndication)
  else none

/-- The LEAVE command. -/
def leaveFates (p body : Octets) (room : Room) : List Fate :=
  ((d.leaving config).nwkLeaveHandler config.routerRole
    ⟨(nwkSrcAddr p).toNat, body (nwkHdrSize p + 1)⟩ room).disposed.map fun
      | .freed => .freed
      | .handed callback => .handed (.leave callback)

/-- `nwk_frame_indication`.  Only a data frame and a command get here. -/
def nwkFrameIndication (p body : Octets) (room : Room) : List Fate :=
  let commandId := body (nwkHdrSize p)
  let c : Custody := ⟨room.cbQ, []⟩
  if nwkFramectlGetFrameType p = nwkFrameTypeData then (c.schedule .nldeDataIndication).fates
  else if nwkFramectlGetFrameType p = nwkFrameTypeCommand then
    if commandId = nwkCmdLeave then d.leaveFates config p body room
    else
      match d.routerCommand config p body c with
      | some c => c.fates
      | none =>
        if commandId = nwkCmdRejoinResponse then (d.nlmeRejoinResponse config p body c).fates
        else if commandId = nwkCmdNetworkUpdate then
          -- the handler of an update gets a pointer into the buffer, not the buffer
          if d.ownConflict p body then c.fates else c.freeBuf.fates
        else c.freeBuf.fates
  else c.fates

/-! ### The way of a frame -/

/-- The NWK frame after it was unsecured. -/
def openedOctets (frame : RxFrame) (env : Env) : Octets :=
  if nwkFramectlGetSecurity (nwkOctets frame) then env.nwkPlain else nwkOctets frame

/-- What becomes of a buffer when `nwk_frame_indication` runs, if it was scheduled. -/
def indicated (p body : Octets) (room : Room) : Fate → List Fate
  | .handed .nwkFrameIndication => d.nwkFrameIndication config p body room
  | fate => [fate]

/-- What has become of the buffer when the callbacks have run; until `nwk_frame_indication` runs
the device may change. -/
def receive (decrypts : Decrypts) (frame : RxFrame) (env : Env) (room : ℕ) (later : Device)
    (laterRoom : Room) : List Fate :=
  (d.mcpsDataIndication config decrypts frame env room).fates.flatMap
    (later.indicated config (nwkOctets frame) (openedOctets frame env) laterRoom)

/-- A route request or reply. -/
def RouteCommand (p body : Octets) : Prop :=
  nwkFramectlGetFrameType p = nwkFrameTypeCommand ∧
    (body (nwkHdrSize p) = nwkCmdRouteRequest ∨ body (nwkHdrSize p) = nwkCmdRouteReply)

/-! ### The condition -/

/-- `nwk_frame_indication` finds a place in the ring for what it schedules; and it is not an update
about a PAN id conflict of this network. -/
def IndicationServed (p body : Octets) (room : Room) : Prop :=
  let commandId := body (nwkHdrSize p)
  if nwkFramectlGetFrameType p = nwkFrameTypeData then 0 < room.cbQ
  else if commandId = nwkCmdLeave then
    (d.leaving config).HasPlace config.routerRole
      ⟨(nwkSrcAddr p).toNat, body (nwkHdrSize p + 1)⟩ room
  else if commandId = nwkCmdRejoinRequest then
    config.routerRole = true → config.joinedPro = false →
      d.rejoinReqTableCnt < rejoinRequestTableSize → nwkFramectlGetSourceIeee p ≠ 0 → 0 < room.cbQ
  else if commandId = nwkCmdNetworkReport then
    config.routerRole = true → d.ownConflict p body = true → d.state ≠ .panidConflictResolution →
      d.panidConflict = false → 0 < room.cbQ
  else if commandId = nwkCmdNetworkStatus then config.routerRole = true → 0 < room.cbQ
  else if commandId = nwkCmdRejoinResponse then d.state = .rejoin → 0 < room.cbQ
  else if commandId = nwkCmdNetworkUpdate then d.ownConflict p body = false
  else True

/-- A frame that is taken or sent on finds a place in the ring, if it does not wait for a copy. -/
def PassServed (p body : Octets) (room : ℕ) (later : Device) (laterRoom : Room) : Prop :=
  match d.disposition config p body with
  | (true, true) =>
    d.waitAlloc.HasFree ∨ 0 < room ∧ later.IndicationServed config p body laterRoom
  | (false, true) => 0 < room
  | (true, false) => 0 < room ∧ later.IndicationServed config p body laterRoom
  | (false, false) => True

/-- A secured frame: for one whose payload is too short there is a single place in the ring. -/
def UnsecureServed (decrypts : Decrypts) (frame : RxFrame) (env : Env) (room : ℕ)
    (secur : Rejection.Device) (passes : Prop) : Prop :=
  let mhr := parseMhr frame.octets
  let p := nwkOctets frame
  let len := frame.len - mhr.size
  let secured := nwkFrame mhr p len
  secur.keys.authenticated = true →
    match checked secured (fcfGetSrcAddressingMode frame.octets) env secur with
    | none => 0 < room
    | some i =>
      if UInt32.ofNat len - UInt32.ofNat (nwkHdrSize p) < 4 then room = 1
      else if deciphers decrypts secured secur i then passes
      else 0 < room

/-- The frame has a radius and is data or a command. -/
def Admitted (p : Octets) : Prop :=
  nwkRadius p ≠ 0 ∧ (nwkFramectlGetFrameType p = nwkFrameTypeCommand ∨
    nwkFramectlGetFrameType p = nwkFrameTypeData)

/-- The condition on a received frame. -/
def Served (decrypts : Decrypts) (frame : RxFrame) (env : Env) (room : ℕ) (later : Device)
    (laterRoom : Room) : Prop :=
  let p := nwkOctets frame
  let recorded := d.secur.recordBroadcast config (parseMhr frame.octets).srcAddr
    (fcfGetSrcAddressingMode frame.octets) env p
  let passes := d.PassServed config p (openedOctets frame env) room later laterRoom
  Admitted p → recorded.2 = true →
    if nwkFramectlGetSecurity p then UnsecureServed decrypts frame env room recorded.1 passes
    else passes

end Device

/-! ## A buffer -/

namespace Custody

theorem schedule_fates {c : Custody} (fresh : c.fates = []) (holder : Holder) :
    (c.schedule holder).fates = if 0 < c.room then [.handed holder] else [] := by
  rw [schedule]
  split
  · exact congrArg (· ++ [Fate.handed holder]) fresh
  · exact fresh

theorem schedule_once_iff {c : Custody} (fresh : c.fates = []) (holder : Holder) :
    (c.schedule holder).fates.length = 1 ↔ 0 < c.room := by
  rw [schedule_fates fresh]
  split
  case isTrue place => exact iff_of_true rfl place
  case isFalse full => exact iff_of_false nofun full

theorem freeBuf_once {c : Custody} (fresh : c.fates = []) : c.freeBuf.fates.length = 1 :=
  congrArg (fun fates => (fates ++ [Fate.freed]).length) fresh

end Custody

/-! ## The handlers -/

namespace Device

variable {d : Device} {config : Config} {p body : Octets}

theorem leaveFates_once_iff (room : Room) : (d.leaveFates config p body room).length = 1 ↔
    (d.leaving config).HasPlace config.routerRole
      ⟨(nwkSrcAddr p).toNat, body (nwkHdrSize p + 1)⟩ room := by
  rw [leaveFates, List.length_map]
  exact LeaveCommand.Device.nwkLeaveHandler_disposed_iff _ _ _ _

theorem nlmeRejoinRequest_once_iff {c : Custody} (fresh : c.fates = []) :
    (d.nlmeRejoinRequest p c).fates.length = 1 ↔
      (d.rejoinReqTableCnt < rejoinRequestTableSize → nwkFramectlGetSourceIeee p ≠ 0 →
        0 < c.room) := by
  rw [nlmeRejoinRequest, ← and_imp]
  by_cases answered : d.rejoinReqTableCnt < rejoinRequestTableSize ∧ nwkFramectlGetSourceIeee p ≠ 0
  · rw [if_pos answered, imp_iff_right answered]
    exact Custody.schedule_once_iff fresh _
  · rw [if_neg answered]
    exact iff_of_true (Custody.freeBuf_once fresh) fun yes => absurd yes answered

theorem nlmeRejoinResponse_once_iff {c : Custody} (fresh : c.fates = []) :
    (d.nlmeRejoinResponse config p body c).fates.length = 1 ↔
      (d.state = .rejoin → 0 < c.room) := by
  rw [nlmeRejoinResponse]
  by_cases rejoining : d.state = .rejoin
  · rw [if_pos rejoining, imp_iff_right rejoining]
    split
    · exact Custody.schedule_once_iff fresh _
    · exact Custody.schedule_once_iff fresh _
  · rw [if_neg rejoining]
    exact iff_of_true (Custody.freeBuf_once fresh) fun yes => absurd yes rejoining

theorem report_once_iff {c : Custody} (fresh : c.fates = []) :
    (if !d.ownConflict p body then c.freeBuf
      else d.panidConflictGotNetworkReport c).fates.length = 1 ↔
      (d.ownConflict p body = true → d.state ≠ .panidConflictResolution →
        d.panidConflict = false → 0 < c.room) := by
  cases own : d.ownConflict p body with
  | false => exact iff_of_true (Custody.freeBuf_once fresh) nofun
  | true =>
    rw [imp_iff_right rfl, ← and_imp, panidConflictGotNetworkReport]
    change (if d.state = .panidConflictResolution ∨ d.panidConflict = true then c.freeBuf
      else c.schedule .panidConflictSendNwkUpdate).fates.length = 1 ↔ _
    by_cases resolving : d.state = .panidConflictResolution ∨ d.panidConflict = true
    · rw [if_pos resolving]
      refine iff_of_true (Custody.freeBuf_once fresh) fun idle => ?_
      obtain underway | known := resolving
      · exact absurd underway idle.1
      · rw [idle.2] at known
        cases known
    · rw [if_neg resolving, imp_iff_right]
      · exact Custody.schedule_once_iff fresh _
      · rw [not_or, Bool.not_eq_true] at resolving
        exact resolving

/-- What `nwk_frame_indication` does with a command other than LEAVE. -/
def commandFates (d : Device) (config : Config) (p body : Octets) (c : Custody) : List Fate :=
  match d.routerCommand config p body c with
  | some c => c.fates
  | none =>
    if body (nwkHdrSize p) = nwkCmdRejoinResponse then
      (d.nlmeRejoinResponse config p body c).fates
    else if body (nwkHdrSize p) = nwkCmdNetworkUpdate then
      if d.ownConflict p body then c.fates else c.freeBuf.fates
    else c.freeBuf.fates

section

variable {c : Custody}

theorem commandFates_freed (fresh : c.fates = [])
    (ignored : d.routerCommand config p body c = none)
    (unknown : body (nwkHdrSize p) ≠ nwkCmdRejoinResponse ∧
      body (nwkHdrSize p) ≠ nwkCmdNetworkUpdate) :
    (d.commandFates config p body c).length = 1 := by
  rw [commandFates, ignored]
  dsimp only
  rw [if_neg unknown.1, if_neg unknown.2]
  exact Custody.freeBuf_once fresh

theorem rejoinRequest_once_iff (fresh : c.fates = [])
    (here : body (nwkHdrSize p) = nwkCmdRejoinRequest) :
    (d.commandFates config p body c).length = 1 ↔
      (config.routerRole = true → config.joinedPro = false →
        d.rejoinReqTableCnt < rejoinRequestTableSize → nwkFramectlGetSourceIeee p ≠ 0 →
          0 < c.room) := by
  have unknown : body (nwkHdrSize p) ≠ nwkCmdRejoinResponse ∧
      body (nwkHdrSize p) ≠ nwkCmdNetworkUpdate := by
    rw [here]
    decide
  by_cases listens : config.routerRole = true ∧ config.joinedPro = false
  · have called : d.routerCommand config p body c = some (d.nlmeRejoinRequest p c) := by
      simp [routerCommand, here, listens, nwkCmdRejoinRequest, nwkCmdRouteRequest, nwkCmdRouteReply]
    rw [commandFates, called, imp_iff_right listens.1, imp_iff_right listens.2]
    exact nlmeRejoinRequest_once_iff fresh
  · have ignored : d.routerCommand config p body c = none := by
      cases role : config.routerRole <;> cases pro : config.joinedPro <;>
        simp_all [routerCommand, nwkCmdRejoinRequest, nwkCmdNetworkReport, nwkCmdNetworkStatus]
    exact iff_of_true (commandFates_freed fresh ignored unknown) fun role pro =>
      absurd ⟨role, pro⟩ listens

/-- A command that every router takes up. -/
theorem taken_once_iff {c' : Custody} {once : Prop} (fresh : c.fates = [])
    (unknown : body (nwkHdrSize p) ≠ nwkCmdRejoinResponse ∧
      body (nwkHdrSize p) ≠ nwkCmdNetworkUpdate)
    (called : config.routerRole = true → d.routerCommand config p body c = some c')
    (served : c'.fates.length = 1 ↔ once) :
    (d.commandFates config p body c).length = 1 ↔ (config.routerRole = true → once) := by
  cases role : config.routerRole with
  | false =>
    have ignored : d.routerCommand config p body c = none := by
      rw [routerCommand, role]
      rfl
    exact iff_of_true (commandFates_freed fresh ignored unknown) nofun
  | true =>
    rw [commandFates, called role, imp_iff_right rfl]
    exact served

theorem networkReport_once_iff (fresh : c.fates = [])
    (here : body (nwkHdrSize p) = nwkCmdNetworkReport) :
    (d.commandFates config p body c).length = 1 ↔
      (config.routerRole = true → d.ownConflict p body = true →
        d.state ≠ .panidConflictResolution → d.panidConflict = false → 0 < c.room) := by
  refine taken_once_iff fresh (by rw [here]; decide) (fun role => ?_) (report_once_iff fresh)
  simp [routerCommand, here, role, nwkCmdRejoinRequest, nwkCmdRouteRequest, nwkCmdRouteReply,
    nwkCmdNetworkReport]

theorem networkStatus_once_iff (fresh : c.fates = [])
    (here : body (nwkHdrSize p) = nwkCmdNetworkStatus) :
    (d.commandFates config p body c).length = 1 ↔ (config.routerRole = true → 0 < c.room) := by
  refine taken_once_iff fresh (by rw [here]; decide) (fun role => ?_)
    (Custody.schedule_once_iff fresh .nlmeStatusIndication)
  simp [routerCommand, here, role, nwkCmdRejoinRequest, nwkCmdRouteRequest, nwkCmdRouteReply,
    nwkCmdNetworkReport, nwkCmdNetworkStatus]

theorem routerCommand_none
    (other : body (nwkHdrSize p) ≠ nwkCmdRouteRequest ∧ body (nwkHdrSize p) ≠ nwkCmdRouteReply ∧
      body (nwkHdrSize p) ≠ nwkCmdRejoinRequest ∧ body (nwkHdrSize p) ≠ nwkCmdNetworkReport ∧
      body (nwkHdrSize p) ≠ nwkCmdNetworkStatus) :
    d.routerCommand config p body c = none := by
  obtain ⟨request, reply, rejoin, report, status⟩ := other
  simp [routerCommand, request, reply, rejoin, report, status]

end

theorem nwkFrameIndication_command (room : Room)
    (command : nwkFramectlGetFrameType p = nwkFrameTypeCommand) :
    d.nwkFrameIndication config p body room =
      if body (nwkHdrSize p) = nwkCmdLeave then d.leaveFates config p body room
      else d.commandFates config p body ⟨room.cbQ, []⟩ := by
  have data : nwkFramectlGetFrameType p ≠ nwkFrameTypeData := by
    rw [command]
    decide
  rw [nwkFrameIndication]
  dsimp only
  rw [if_neg data, if_pos command]
  rfl

/-- `nwk_frame_indication` disposes of its buffer once just when its condition holds. -/
theorem nwkFrameIndication_once_iff (room : Room)
    (type : nwkFramectlGetFrameType p = nwkFrameTypeCommand ∨
      nwkFramectlGetFrameType p = nwkFrameTypeData) (other : ¬RouteCommand p body) :
    (d.nwkFrameIndication config p body room).length = 1 ↔
      d.IndicationServed config p body room := by
  rw [IndicationServed]
  by_cases data : nwkFramectlGetFrameType p = nwkFrameTypeData
  · rw [nwkFrameIndication]
    dsimp only
    rw [if_pos data, if_pos data]
    exact Custody.schedule_once_iff rfl _
  · have command := type.resolve_right data
    rw [RouteCommand, and_iff_right command, not_or] at other
    rw [nwkFrameIndication_command room command, if_neg data]
    by_cases leave : body (nwkHdrSize p) = nwkCmdLeave
    · rw [if_pos leave, if_pos leave]
      exact leaveFates_once_iff room
    rw [if_neg leave, if_neg leave]
    by_cases rejoin : body (nwkHdrSize p) = nwkCmdRejoinRequest
    · rw [if_pos rejoin]
      exact rejoinRequest_once_iff rfl rejoin
    rw [if_neg rejoin]
    by_cases report : body (nwkHdrSize p) = nwkCmdNetworkReport
    · rw [if_pos report]
      exact networkReport_once_iff rfl report
    rw [if_neg report]
    by_cases status : body (nwkHdrSize p) = nwkCmdNetworkStatus
    · rw [if_pos status]
      exact networkStatus_once_iff rfl status
    have none_ : d.routerCommand config p body ⟨room.cbQ, []⟩ = none :=
      routerCommand_none ⟨other.1, other.2, rejoin, report, status⟩
    rw [if_neg status, commandFates, none_]
    dsimp only
    by_cases response : body (nwkHdrSize p) = nwkCmdRejoinResponse
    · rw [if_pos response, if_pos response]
      exact nlmeRejoinResponse_once_iff rfl
    rw [if_neg response, if_neg response]
    by_cases update : body (nwkHdrSize p) = nwkCmdNetworkUpdate
    · rw [if_pos update, if_pos update]
      cases own : d.ownConflict p body with
      | false => exact iff_of_true rfl rfl
      | true => exact iff_of_false nofun nofun
    · rw [if_neg update, if_neg update]
      exact iff_of_true rfl trivial

/-! ## Reception -/

section

variable {c : Custody} {later : Device} {laterRoom : Room}

/-- What is scheduled with the buffer is its last holder, but for `nwk_frame_indication`. -/
theorem schedule_settled_iff (fresh : c.fates = []) {holder : Holder}
    (last : holder ≠ .nwkFrameIndication) :
    ((c.schedule holder).fates.flatMap (later.indicated config p body laterRoom)).length = 1 ↔
      0 < c.room := by
  have stays : later.indicated config p body laterRoom (.handed holder) = [.handed holder] := by
    cases holder with
    | nwkFrameIndication => exact absurd rfl last
    | _ => rfl
  rw [Custody.schedule_fates fresh]
  by_cases place : 0 < c.room
  · rw [if_pos place, List.flatMap_singleton, stays]
    exact iff_of_true rfl place
  · rw [if_neg place]
    exact iff_of_false nofun place

theorem freeBuf_settled (fresh : c.fates = []) :
    (c.freeBuf.fates.flatMap (later.indicated config p body laterRoom)).length = 1 := by
  rw [Custody.freeBuf, fresh]
  rfl

theorem indication_settled_iff (fresh : c.fates = [])
    (type : nwkFramectlGetFrameType p = nwkFrameTypeCommand ∨
      nwkFramectlGetFrameType p = nwkFrameTypeData) (other : ¬RouteCommand p body) :
    ((c.schedule .nwkFrameIndication).fates.flatMap
        (later.indicated config p body laterRoom)).length = 1 ↔
      0 < c.room ∧ later.IndicationServed config p body laterRoom := by
  rw [Custody.schedule_fates fresh]
  by_cases place : 0 < c.room
  · rw [if_pos place, List.flatMap_singleton, and_iff_right place]
    exact nwkFrameIndication_once_iff laterRoom type other
  · rw [if_neg place]
    exact iff_of_false nofun fun both => place both.1

theorem pass_settled_iff (fresh : c.fates = [])
    (type : nwkFramectlGetFrameType p = nwkFrameTypeCommand ∨
      nwkFramectlGetFrameType p = nwkFrameTypeData) (other : ¬RouteCommand p body) :
    ((d.pass config p body c).fates.flatMap
        (later.indicated config p body laterRoom)).length = 1 ↔
      d.PassServed config p body c.room later laterRoom := by
  rw [pass, PassServed]
  obtain ⟨indicate, retransmit⟩ := d.disposition config p body
  cases indicate with
  | true =>
    cases retransmit with
    | true =>
      dsimp only
      rw [← Table.getEnt_isSome_iff]
      cases d.waitAlloc.getEnt with
      | none =>
        rw [Option.isSome_none, or_iff_right Bool.false_ne_true]
        exact indication_settled_iff fresh type other
      | some =>
        refine iff_of_true ?_ (.inl rfl)
        dsimp only
        rw [Custody.give, fresh]
        rfl
    | false => exact indication_settled_iff fresh type other
  | false =>
    cases retransmit with
    | true => exact schedule_settled_iff fresh nofun
    | false => exact iff_of_true (freeBuf_settled fresh) trivial

/-- Two status indications are one where only the first finds a place. -/
theorem securNwkStatus_twice_iff (fresh : c.fates = []) :
    (c.securNwkStatus.securNwkStatus.fates.flatMap
      (later.indicated config p body laterRoom)).length = 1 ↔ c.room = 1 := by
  obtain ⟨room, fates⟩ := c
  change fates = [] at fresh
  subst fresh
  match room with
  | 0 => exact iff_of_false nofun nofun
  | 1 => exact iff_of_true rfl rfl
  | room + 2 =>
    refine iff_of_false nofun ?_
    change room + 2 ≠ 1
    omega

/-- A frame that is not unsecured is freed, or indicated in a status; one whose payload is too short
in two. -/
theorem unsecure_settled_iff (decrypts : Decrypts) (frame : RxFrame) (env : Env) (room : ℕ)
    (secur : Rejection.Device)
    (type : nwkFramectlGetFrameType (nwkOctets frame) = nwkFrameTypeCommand ∨
      nwkFramectlGetFrameType (nwkOctets frame) = nwkFrameTypeData)
    (other : ¬RouteCommand (nwkOctets frame) env.nwkPlain) :
    let p := nwkOctets frame
    let len := frame.len - (parseMhr frame.octets).size
    ((match nwkUnsecureFrame decrypts (nwkFrame (parseMhr frame.octets) p len)
          (UInt32.ofNat len - UInt32.ofNat (nwkHdrSize p))
          (fcfGetSrcAddressingMode frame.octets) env ⟨room, []⟩ secur with
        | (c, true) => d.pass config p env.nwkPlain c
        | (c, false) => c).fates.flatMap
          (later.indicated config p env.nwkPlain laterRoom)).length = 1 ↔
      UnsecureServed decrypts frame env room secur
        (d.PassServed config p env.nwkPlain room later laterRoom) := by
  intro p len
  rw [nwkUnsecureFrame, UnsecureServed]
  by_cases authenticated : secur.keys.authenticated = true
  · rw [if_pos authenticated, imp_iff_right authenticated]
    generalize nwkFrame (parseMhr frame.octets) p len = secured
    cases checked secured (fcfGetSrcAddressingMode frame.octets) env secur with
    | none => exact schedule_settled_iff rfl nofun
    | some i =>
      dsimp only
      by_cases short : UInt32.ofNat len - UInt32.ofNat (nwkHdrSize p) < 4
      · rw [if_pos short, if_pos short]
        exact securNwkStatus_twice_iff rfl
      · rw [if_neg short, if_neg short]
        cases deciphers decrypts secured secur i with
        | false => exact schedule_settled_iff rfl nofun
        | true => exact pass_settled_iff rfl type other
  · rw [if_neg authenticated]
    exact iff_of_true (freeBuf_settled rfl) fun yes => absurd yes authenticated

end

end Device

/-! ## Disposal -/

/-- Whatever the frame, unless it is a route request or reply, and whatever the tables, the buffer
of a received frame is freed or has one holder when the callbacks have run, just when the condition
holds. -/
theorem receive_disposes_iff (decrypts : Decrypts) (config : Config) (frame : RxFrame) (env : Env)
    (d later : Device) (room : ℕ) (laterRoom : Room)
    (other : ¬Device.RouteCommand (Device.nwkOctets frame) (Device.openedOctets frame env)) :
    (d.receive config decrypts frame env room later laterRoom).length = 1 ↔
      d.Served config decrypts frame env room later laterRoom := by
  rw [Device.receive, Device.mcpsDataIndication, Device.Served]
  by_cases admitted : Device.Admitted (Device.nwkOctets frame)
  · rw [imp_iff_right admitted, if_neg]
    · cases d.secur.recordBroadcast config (parseMhr frame.octets).srcAddr
        (fcfGetSrcAddressingMode frame.octets) env (Device.nwkOctets frame) with
      | mk secur recorded =>
        cases recorded with
        | false => exact iff_of_true (Device.freeBuf_settled rfl) nofun
        | true =>
          rw [imp_iff_right rfl]
          dsimp only
          rw [Device.openedOctets] at other ⊢
          by_cases secured : nwkFramectlGetSecurity (Device.nwkOctets frame) = true
          · rw [if_pos secured] at other
            rw [if_pos secured, if_pos secured, if_pos secured]
            exact Device.unsecure_settled_iff decrypts frame env room secur admitted.2 other
          · rw [if_neg secured] at other
            rw [if_neg secured, if_neg secured, if_neg secured]
            exact Device.pass_settled_iff rfl admitted.2 other
    · rintro (dead | ⟨command, data⟩)
      · exact admitted.1 dead
      · exact admitted.2.elim command data
  · rw [if_pos]
    · exact iff_of_true (Device.freeBuf_settled rfl) fun yes => absurd yes admitted
    · rw [Device.Admitted, not_and_or, not_not, not_or] at admitted
      exact admitted

/-- A device with the tables of a router, not yet joined to anything else. -/
def idle : Device where
  secur := Rejection.parent
  neighbor := .init
  deviceType := .router
  isTc := false
  waitAlloc := Table.cleared ⟨0⟩
  leaveIndPrnt := ⟨0, false⟩
  rejoinAfterLeave := false
  state := .idle
  rejoinParentAddr := .zero
  rejoinReqTableCnt := 0
  panidConflict := false
  extPanId := .zero

/-- A NWK frame of the child 0x1234 in its MAC frame. -/
def received (nwk : List UInt8) : RxFrame :=
  let octets := [0x61, 0x88, 1, 0xaa, 0x1a, 0, 0, 0x34, 0x12] ++ nwk
  ⟨Octets.ofList octets, octets.length⟩

/-- A network status for the device. -/
def statusFrame : RxFrame := received ([0x09, 0, 0, 0, 0x34, 0x12, 5, 7] ++ [3, 0, 0, 0])

/-- An update about a PAN id conflict of the network. -/
def updateFrame : RxFrame :=
  received ([0x09, 0, 0, 0, 0x34, 0x12, 5, 7] ++ [0xa, 0] ++ [0, 0, 0, 0, 0, 0, 0, 0] ++ [1, 2, 3])

/-- A secured frame with nothing behind the auxiliary header. -/
def emptyFrame : RxFrame :=
  received ([0x08, 0x02, 0, 0, 0x34, 0x12, 5, 7] ++
    [0x28] ++ [4, 0, 0, 0] ++ [1, 2, 3, 4, 5, 6, 7, 8] ++ [0])

theorem receive_disposes_iff_status :
    (idle.receive Rejection.routerConfig Rejection.genuine statusFrame Rejection.quiet 8 idle
        ⟨8, true, true⟩).length = 1 ↔
      idle.Served Rejection.routerConfig Rejection.genuine statusFrame Rejection.quiet 8 idle
        ⟨8, true, true⟩ :=
  receive_disposes_iff Rejection.genuine Rejection.routerConfig statusFrame Rejection.quiet idle
    idle 8 ⟨8, true, true⟩ (by rw [Device.RouteCommand]; decide +kernel)

/-- The buffer of an update is lost, and that of a secured frame without payload indicated twice. -/
theorem received_buffers_go_wrong :
    idle.receive Rejection.routerConfig Rejection.genuine updateFrame Rejection.quiet 8 idle
      ⟨8, true, true⟩ = [] ∧
    idle.receive Rejection.routerConfig Rejection.genuine emptyFrame Rejection.quiet 8 idle
      ⟨8, true, true⟩ = [.handed .nlmeStatusIndication, .handed .nlmeStatusIndication] := by
  decide +kernel

end Zboss.ReceiveBuffers
