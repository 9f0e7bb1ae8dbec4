import Zboss.Common.AddressSettled
import Zboss.Nwk.AcceptChild

/-!
The LEAVE command: a neighbour tells that it leaves, or the parent tells the device to leave.  The
layer above gets an indication with the IEEE address of the device that left, or with the zero
address where the device itself is to leave.  The indication for a parent that left waits for a
buffer of its own and reads the address when it has got one.
-/

namespace Zboss.LeaveCommand

open Zboss.AddressTable
open Zboss.NeighborTable
open Zboss.AcceptChild (neighborGetByIeee)
open Zboss.Run

/-! ## The handlers -/

/-- `zb_nlme_leave_indication_t`. -/
structure LeaveIndication where
  deviceAddress : IeeeAddr
  rejoin : Bool
  deriving DecidableEq

structure LeaveIndPrnt where
  addrRef : ℕ
  rejoin : Bool

/-- What the handlers read and write. -/
structure Device where
  tables : Tables
  deviceType : DeviceType
  isTc : Bool
  networkAddress : ℕ
  leaveIndPrnt : LeaveIndPrnt
  rejoinAfterLeave : Bool

/-- A LEAVE command: the source address of its header, and its payload. -/
structure Command where
  srcAddr : ℕ
  payload : UInt8

namespace Command

variable (lp : Command)

/-- `ZB_LEAVE_PL_GET_REQUEST`. -/
def request : Bool := (lp.payload >>> 6) &&& 1 ≠ 0

/-- `ZB_LEAVE_PL_GET_REJOIN`. -/
def rejoin : Bool := (lp.payload >>> 5) &&& 1 ≠ 0

/-- `ZB_LEAVE_PL_GET_REMOVE_CHILDREN`. -/
def removeChildren : Bool := (lp.payload >>> 7) &&& 1 ≠ 0

end Command

/-- The places in the callback ring, whether an in buffer is free, and whether one more call can
wait for a buffer. -/
structure Room where
  cbQ : ℕ
  inBuf : Bool
  waiting : Bool

namespace Room

variable (room : Room)

/-- `zb_get_in_buf_delayed` accepts a call: it is scheduled with a free buffer, or it waits. -/
def accepts : Bool := if room.inBuf then 0 < room.cbQ else room.waiting

/-- The places in the ring behind such a call. -/
def behind : ℕ := if room.inBuf then room.cbQ - 1 else room.cbQ

end Room

/-- What a buffer is scheduled with. -/
inductive Callback where
  /-- The LEAVE command of the device itself goes out. -/
  | nwkForward
  | nlmeLeaveIndication (indication : LeaveIndication)
  | apsmeUpdateDeviceRequest (deviceShortAddress : ℕ) (deviceAddress : IeeeAddr)
  | nlmeJoinRequest
  deriving DecidableEq

inductive Disposal where
  | freed
  | handed (callback : Callback)
  deriving DecidableEq

/-- What a handler does: what becomes of its buffer, whether a call of `zb_nwk_leave_ind_prnt` waits
for another one, and whether the device leaves. -/
structure Outcome where
  device : Device
  room : ℕ
  disposed : List Disposal
  waits : Bool
  leaves : Bool

namespace Outcome

variable (o : Outcome)

/-- `ZB_SCHEDULE_CALLBACK`; the status is not looked at. -/
def schedule (callback : Callback) : Outcome :=
  if 0 < o.room then
    { o with room := o.room - 1, disposed := o.disposed ++ [.handed callback] }
  else o

def freeBuf : Outcome := { o with disposed := o.disposed ++ [.freed] }

/-- `zb_nwk_call_leave_ind`; no reference stands for -1, the device itself. -/
def callLeaveInd (rejoin : Bool) (addrRef : Option ℕ) : Outcome :=
  o.schedule (.nlmeLeaveIndication
    ⟨(addrRef.map (addressIeeeByRef o.device.tables.addr)).getD .zero, rejoin⟩)

/-- The leave indications passed on. -/
def indications : List LeaveIndication :=
  o.disposed.filterMap fun
    | .handed (.nlmeLeaveIndication indication) => some indication
    | _ => none

/-- The devices they say have left. -/
def reports : List IeeeAddr := (o.indications.map (·.deviceAddress)).filter (· ≠ .zero)

/-- The device leaves, is told to, or sends a LEAVE command of its own. -/
def StartsToLeave : Prop :=
  o.leaves = true ∨ (∃ indication ∈ o.indications, indication.deviceAddress = .zero) ∨
    .handed .nwkForward ∈ o.disposed

end Outcome

namespace Device

variable (d : Device) (routerRole : Bool)

/-- The handler has done nothing yet. -/
def start (room : ℕ) : Outcome := ⟨d, room, [], false, false⟩

def setAddr (addr : AddrGlobals) : Device := { d with tables := { d.tables with addr } }

/-- A device of the end device build, or one that joined a network as end device. -/
def IsEndDevice : Prop := routerRole = true → d.deviceType = .ed

instance : Decidable (d.IsEndDevice routerRole) := inferInstanceAs (Decidable (_ → _))

/-- The branch of `zb_nwk_leave_handler` for the parent with the reference `ref`. -/
def parentLeave (lp : Command) (room : Room) (ref : ℕ) : Outcome :=
  let o : Outcome :=
    if lp.request then d.start room.cbQ
    else ⟨{ d with leaveIndPrnt := ⟨ref, lp.rejoin⟩ }, room.behind, [], room.accepts, false⟩
  if (lp.request ∨ lp.removeChildren) ∧ ¬d.IsEndDevice routerRole then
    { o with device := { o.device with rejoinAfterLeave := lp.rejoin } }.schedule .nwkForward
  else if d.IsEndDevice routerRole then o.callLeaveInd lp.rejoin none
  else o.callLeaveInd lp.rejoin (some ref)

def nwkLeaveHandler (lp : Command) (room : Room) : Outcome :=
  match addressByShort d.tables.addr lp.srcAddr false false with
  | (addr, .error _) => ((d.setAddr addr).start room.cbQ).freeBuf
  | (addr, .ok ref) =>
    let d := d.setAddr addr
    match (neighborGet d.tables ref false 0 d.tables.neighbor).2 with
    | none =>
      let d := if routerRole ∧ ¬lp.request then d.setAddr (addressDelete addr ref) else d
      (d.start room.cbQ).freeBuf
    | some n =>
      if (d.tables.neighbor.baseNeighbor n).relationship = .parent then
        d.parentLeave routerRole lp room ref
      else if lp.request ∨ (routerRole ∧ d.deviceType = .ed) then (d.start room.cbQ).freeBuf
      else (d.start room.cbQ).callLeaveInd lp.rejoin (some ref)

def nwkLeaveIndPrnt (room : ℕ) : Outcome :=
  (d.start room).callLeaveInd d.leaveIndPrnt.rejoin (some d.leaveIndPrnt.addrRef)

/-- The branch of `zb_mcps_data_confirm` for the LEAVE command of the device itself, where
references are octets: wider ones do not have `(zb_uint8_t)-1` for -1. -/
def mcpsDataConfirm (room : ℕ) : Outcome := (d.start room).callLeaveInd d.rejoinAfterLeave none

/-- `zb_nwk_forget_device`. -/
def forgetDevice (ref : ℕ) : Device :=
  { d with tables := ⟨addressDelete d.tables.addr ref, neighborDelete d.tables.neighbor ref⟩ }

def nwkDoLeave (rejoin : Bool) (room : ℕ) : Outcome :=
  if rejoin then { d.start room with leaves := true }.schedule .nlmeJoinRequest
  else
    let d := match addressByShort d.tables.addr d.networkAddress false false with
      | (addr, .ok ref) => (d.setAddr addr).forgetDevice ref
      | (addr, .error _) => d.setAddr addr
    { ({ d with networkAddress := 0xffff } : Device).start room with leaves := true }.freeBuf

/-- The device is no trust centre, and the neighbour is its child: the trust centre is told. -/
def TellsTc (ent : NeighborTblEnt) : Prop :=
  routerRole = true ∧ d.isTc = false ∧
    (ent.relationship = .child ∨ ent.relationship = .unauthenticatedChild)

instance (ent : NeighborTblEnt) : Decidable (d.TellsTc routerRole ent) :=
  inferInstanceAs (Decidable (_ ∧ _))

def nlmeLeaveIndication (indication : LeaveIndication) (room : ℕ) (junk : IeeeAddrCompressed) :
    Outcome :=
  if indication.deviceAddress = .zero then d.nwkDoLeave indication.rejoin room
  else
    match neighborGetByIeee d.tables indication.deviceAddress junk with
    | (tables, none) => ({ d with tables }.start room).freeBuf
    | (tables, some n) =>
      let d := { d with tables }
      let ent := tables.neighbor.baseNeighbor n
      let o := (d.forgetDevice ent.addrRef).start room
      if d.TellsTc routerRole ent then
        o.schedule (.apsmeUpdateDeviceRequest (addressShortByRef tables.addr ent.addrRef)
          (addressIeeeByRef tables.addr ent.addrRef))
      else o.freeBuf

/-! ## What a command means -/

/-- The neighbour with a short address: its reference and relationship. -/
def sender (srcAddr : ℕ) : Option (ℕ × Relationship) :=
  match (addressByShort d.tables.addr srcAddr false false).2 with
  | .error _ => none
  | .ok ref =>
    (neighborGet d.tables ref false 0 d.tables.neighbor).2.map fun n =>
      (ref, (d.tables.neighbor.baseNeighbor n).relationship)

/-- The device that leaves with the command.  A device that joined as end device looks after nobody
but its parent. -/
def departure (lp : Command) : Option IeeeAddr :=
  match d.sender lp.srcAddr with
  | none => none
  | some (ref, relationship) =>
    if lp.request ∨ (relationship ≠ .parent ∧ routerRole ∧ d.deviceType = .ed) then none
    else some (addressIeeeByRef d.tables.addr ref)

/-- The command is from the parent, and it is a request, or the parent leaves with its children, or
its child is an end device. -/
def ToldToLeave (lp : Command) : Prop :=
  (∃ ref, d.sender lp.srcAddr = some (ref, .parent)) ∧
    (lp.request = true ∨ lp.removeChildren = true ∨ d.IsEndDevice routerRole)

/-- There is a place in the ring for what the handler schedules with the packet. -/
def HasPlace (lp : Command) (room : Room) : Prop :=
  match d.sender lp.srcAddr with
  | none => True
  | some (_, relationship) =>
    if relationship = .parent then if lp.request then 0 < room.cbQ else 0 < room.behind
    else lp.request = true ∨ (routerRole = true ∧ d.deviceType = .ed) ∨ 0 < room.cbQ

end Device

/-! ## Runs -/

/-- An indication on its way to the layer above, or a LEAVE command of the device itself, with
whether the device was told to leave by the command it comes from. -/
structure Sent (α : Type) where
  content : α
  told : Prop

/-- The device with the indications not yet handled, the LEAVE commands of its own not yet confirmed,
and the departures whose indication waits for a buffer; and what has left and was reported so far. -/
structure World where
  device : Device
  routerRole : Bool
  indications : List (Sent LeaveIndication)
  broadcasts : List (Sent Unit)
  due : List IeeeAddr
  departed : List IeeeAddr
  reported : List IeeeAddr

inductive Event where
  /-- A LEAVE command is received. -/
  | leaveCommand (lp : Command) (room : Room)
  /-- A call that waits has got its buffer. -/
  | granted (room : ℕ)
  /-- A call that waits got a buffer when the ring was full. -/
  | lost
  /-- The LEAVE command of the device itself has been sent. -/
  | dataConfirm (room : ℕ)
  /-- The layer above handles the next indication. -/
  | indicated (room : ℕ) (junk : IeeeAddrCompressed)
  /-- Whatever else happens to the tables and the device. -/
  | other (tables : Tables) (deviceType : DeviceType) (isTc : Bool) (networkAddress : ℕ)
      (rejoinAfterLeave : Bool)

namespace World

variable (w : World)

/-- What the code does at an event. -/
def handle : Event → Outcome
  | .leaveCommand lp room => w.device.nwkLeaveHandler w.routerRole lp room
  | .granted room => w.device.nwkLeaveIndPrnt room
  | .lost => w.device.start 0
  | .dataConfirm room => w.device.mcpsDataConfirm room
  | .indicated room junk =>
    match w.indications with
    | [] => w.device.start room
    | sent :: _ => w.device.nlmeLeaveIndication w.routerRole sent.content room junk
  | .other tables deviceType isTc networkAddress rejoinAfterLeave =>
    ({ w.device with tables, deviceType, isTc, networkAddress, rejoinAfterLeave } : Device).start 0

/-- The device was told to leave, by the command or by the one the event goes back to. -/
def Told : Event → Prop
  | .leaveCommand lp _ => w.device.ToldToLeave w.routerRole lp
  | .dataConfirm _ => ∃ sent, w.broadcasts.head? = some sent ∧ sent.told
  | .indicated _ _ => ∃ sent, w.indications.head? = some sent ∧ sent.told
  | .granted _ | .lost | .other .. => False

/-- The device that leaves at an event. -/
def departure : Event → Option IeeeAddr
  | .leaveCommand lp _ => w.device.departure w.routerRole lp
  | _ => none

/-- The departure that waits for a buffer from now on. -/
def deferred (e : Event) : List IeeeAddr :=
  if (w.handle e).waits then (w.departure e).toList else []

/-- The departures whose indication has waited and still does. -/
def stillDue : Event → List IeeeAddr
  | .granted _ | .lost => w.due.tail
  | .leaveCommand _ _ | .dataConfirm _ | .indicated _ _ | .other .. => w.due

def step (e : Event) : World where
  device := (w.handle e).device
  routerRole := w.routerRole
  indications :=
    (match e with
      | .indicated .. => w.indications.tail
      | _ => w.indications) ++ (w.handle e).indications.map (⟨·, w.Told e⟩)
  broadcasts :=
    (match e with
      | .dataConfirm _ => w.broadcasts.tail
      | _ => w.broadcasts) ++
        if .handed .nwkForward ∈ (w.handle e).disposed then [⟨(), w.Told e⟩] else []
  due := w.stillDue e ++ w.deferred e
  departed := w.departed ++ (w.departure e).toList
  reported := w.reported ++ (w.handle e).reports

/-- What can happen: only what waits, was sent or was passed on is granted, confirmed and handled. -/
def Allowed : Event → Prop
  | .granted _ | .lost => w.due ≠ []
  | .dataConfirm _ => w.broadcasts ≠ []
  | .indicated _ _ => w.indications ≠ []
  | .leaveCommand _ _ | .other .. => True

/-- The devices an event has to report, now or with a buffer of their own. -/
def expected (e : Event) : List IeeeAddr :=
  match e with
  | .leaveCommand _ _ => (w.departure e).toList
  | .granted _ | .lost => w.due.head?.toList
  | .dataConfirm _ | .indicated _ _ | .other .. => []

/-- The event comes with a buffer. -/
def buffers : Event → ℕ
  | .leaveCommand _ _ | .granted _ | .dataConfirm _ | .indicated _ _ => 1
  | .lost | .other .. => 0

/-- The event is handled right: every departure gets its one indication, the device starts to leave
only when told to, and the buffer is disposed of once. -/
structure Right (e : Event) : Prop where
  reports : (w.handle e).reports ++ w.deferred e = w.expected e
  leaves : (w.handle e).StartsToLeave → w.Told e
  disposed : (w.handle e).disposed.length = buffers e

/-- A LEAVE command of the parent that is handled right.  That an end device loses its parent waits
for a buffer; a router whose parent leaves it behind reports it twice, unless no call can wait. -/
def SoundParent (lp : Command) (room : Room) (ref : ℕ) : Prop :=
  if lp.request then 0 < room.cbQ
  else if lp.removeChildren ∨ w.device.IsEndDevice w.routerRole then
    room.accepts = true ∧ 0 < room.behind
  else room.accepts = false ∧ 0 < room.behind ∧
    addressIeeeByRef w.device.tables.addr ref ≠ .zero

/-- The ring has room, a device that leaves has an IEEE address, and where its indication waited the
reference still stands for it. -/
def Sound : Event → Prop
  | .leaveCommand lp room =>
    match w.device.sender lp.srcAddr with
    | none => True
    | some (ref, .parent) => w.SoundParent lp room ref
    | some (ref, _) =>
      lp.request = true ∨ (w.routerRole ∧ w.device.deviceType = .ed) ∨
        (0 < room.cbQ ∧ addressIeeeByRef w.device.tables.addr ref ≠ .zero)
  | .granted room =>
    0 < room ∧ ∀ address ∈ w.due.head?, address ≠ .zero ∧
      addressIeeeByRef w.device.tables.addr w.device.leaveIndPrnt.addrRef = address
  | .lost => False
  | .dataConfirm room => 0 < room
  | .indicated room junk =>
    ∀ sent ∈ w.indications.head?,
      if sent.content.deviceAddress = .zero then sent.content.rejoin = true → 0 < room
      else
        ∀ n ∈ (neighborGetByIeee w.device.tables sent.content.deviceAddress junk).2,
          w.device.TellsTc w.routerRole ((neighborGetByIeee w.device.tables
            sent.content.deviceAddress junk).1.neighbor.baseNeighbor n) → 0 < room
  | .other .. => True

end World

/-! ## What becomes of a buffer -/

namespace Outcome

variable {o : Outcome}

theorem schedule_disposed (fresh : o.disposed = []) (callback : Callback) :
    (o.schedule callback).disposed = if 0 < o.room then [.handed callback] else [] := by
  rw [schedule]
  split
  · exact congrArg (· ++ [Disposal.handed callback]) fresh
  · exact fresh

theorem schedule_waits (callback : Callback) :
    (o.schedule callback).waits = o.waits ∧ (o.schedule callback).leaves = o.leaves ∧
      (o.schedule callback).device = o.device := by
  rw [schedule]
  split
  · exact ⟨rfl, rfl, rfl⟩
  · exact ⟨rfl, rfl, rfl⟩

/-- One indication, for the device itself or another one. -/
theorem reports_of_indication {address : IeeeAddr} {rejoin : Bool}
    (disposed : o.disposed = [.handed (.nlmeLeaveIndication ⟨address, rejoin⟩)]) :
    o.reports = if address = .zero then [] else [address] := by
  by_cases zero : address = .zero <;>
    simp [reports, indications, disposed, zero]

/-- No indication. -/
theorem reports_of_none (none_ : o.indications = []) : o.reports = [] := by
  rw [reports, none_]
  rfl

end Outcome

namespace World

variable {w : World} {e : Event}

/-- An event whose outcome has nothing of an indication in it. -/
theorem right_of_quiet (disposal : Disposal) (buffer : buffers e = 1)
    (disposed : (w.handle e).disposed = [disposal])
    (quiet : ∀ indication, disposal ≠ .handed (.nlmeLeaveIndication indication))
    (deferred : w.deferred e = w.expected e)
    (leaves : disposal = .handed .nwkForward ∨ (w.handle e).leaves = true → w.Told e) :
    w.Right e := by
  have none_ : (w.handle e).indications = [] := by
    rw [Outcome.indications, disposed]
    cases disposal with
    | freed => rfl
    | handed callback =>
      cases callback with
      | nlmeLeaveIndication indication => exact absurd rfl (quiet indication)
      | nwkForward | apsmeUpdateDeviceRequest | nlmeJoinRequest => rfl
  refine ⟨?_, ?_, ?_⟩
  · rw [Outcome.reports_of_none none_, List.nil_append, deferred]
  · rintro (left | ⟨indication, member, -⟩ | forwarded)
    · exact leaves (.inr left)
    · rw [none_] at member
      cases member
    · rw [disposed, List.mem_singleton] at forwarded
      exact leaves (.inl forwarded.symm)
  · rw [disposed, buffer]
    rfl

/-- A buffer that is lost. -/
theorem not_right_of_leak (buffer : buffers e = 1) (disposed : (w.handle e).disposed = []) :
    ¬w.Right e := by
  intro right
  have count := right.disposed
  rw [disposed, buffer] at count
  cases count

/-- An event that schedules something else than an indication. -/
theorem right_iff_of_schedule {o : Outcome} {callback : Callback} (buffer : buffers e = 1)
    (handled : w.handle e = o.schedule callback) (fresh : o.disposed = [])
    (quiet : ∀ indication, callback ≠ .nlmeLeaveIndication indication)
    (leaves : callback = .nwkForward ∨ o.leaves = true → w.Told e) :
    w.Right e ↔ 0 < o.room ∧ w.deferred e = w.expected e := by
  have disposed := Outcome.schedule_disposed fresh callback
  rw [← handled] at disposed
  by_cases room : 0 < o.room
  · rw [if_pos room] at disposed
    constructor
    · intro right
      refine ⟨room, ?_⟩
      have none_ : (w.handle e).indications = [] := by
        rw [Outcome.indications, disposed]
        cases callback with
        | nlmeLeaveIndication indication => exact absurd rfl (quiet indication)
        | nwkForward | apsmeUpdateDeviceRequest | nlmeJoinRequest => rfl
      have reports := right.reports
      rwa [Outcome.reports_of_none none_, List.nil_append] at reports
    · rintro ⟨-, deferred⟩
      refine right_of_quiet _ buffer disposed ?_ deferred ?_
      · intro indication same
        exact quiet indication (Disposal.handed.inj same)
      · rw [handled, (Outcome.schedule_waits callback).2.1]
        rintro (forward | left)
        · exact leaves (.inl (Disposal.handed.inj forward))
        · exact leaves (.inr left)
  · rw [if_neg room] at disposed
    exact iff_of_false (not_right_of_leak buffer disposed) fun both => room both.1

/-- An event that passes one indication on. -/
theorem right_iff_of_indication {address : IeeeAddr} {rejoin : Bool} (buffer : buffers e = 1)
    (disposed : (w.handle e).disposed = [.handed (.nlmeLeaveIndication ⟨address, rejoin⟩)])
    (stays : (w.handle e).leaves = false) :
    w.Right e ↔ (if address = .zero then [] else [address]) ++ w.deferred e = w.expected e ∧
      (address = .zero → w.Told e) := by
  have indications : (w.handle e).indications = [⟨address, rejoin⟩] := by
    rw [Outcome.indications, disposed]
    rfl
  have reports := Outcome.reports_of_indication disposed
  constructor
  · intro right
    have member : ⟨address, rejoin⟩ ∈ (w.handle e).indications := by
      rw [indications]
      exact List.mem_singleton_self _
    exact ⟨reports ▸ right.reports, fun zero => right.leaves (.inr (.inl ⟨_, member, zero⟩))⟩
  · rintro ⟨same, told⟩
    refine ⟨reports.symm ▸ same, ?_, ?_⟩
    · rintro (left | ⟨indication, member, zero⟩ | forwarded)
      · rw [stays] at left
        cases left
      · rw [indications, List.mem_singleton] at member
        rw [member] at zero
        exact told zero
      · rw [disposed, List.mem_singleton] at forwarded
        cases forwarded
    · rw [disposed, buffer]
      rfl

/-- An event that schedules one indication. -/
theorem right_iff_of_call {o : Outcome} {address : IeeeAddr} {rejoin : Bool}
    (buffer : buffers e = 1)
    (handled : w.handle e = o.schedule (.nlmeLeaveIndication ⟨address, rejoin⟩))
    (fresh : o.disposed = []) (stays : o.leaves = false) :
    w.Right e ↔ 0 < o.room ∧
      (if address = .zero then [] else [address]) ++ w.deferred e = w.expected e ∧
      (address = .zero → w.Told e) := by
  have disposed := Outcome.schedule_disposed fresh (.nlmeLeaveIndication ⟨address, rejoin⟩)
  rw [← handled] at disposed
  by_cases room : 0 < o.room
  · rw [if_pos room] at disposed
    have left : (w.handle e).leaves = false := by
      rw [handled, (Outcome.schedule_waits _).2.1, stays]
    rw [right_iff_of_indication buffer disposed left, and_iff_right room]
  · rw [if_neg room] at disposed
    exact iff_of_false (not_right_of_leak buffer disposed) fun both => room both.1

end World

/-! ## The command -/

namespace Device

variable (d : Device) (routerRole : Bool)

/-- A lookup marks an entry as used and leaves the addresses alone. -/
theorem ieeeByRef_addressByShort (c : AddrGlobals) (srcAddr ref : ℕ) :
    addressIeeeByRef (addressByShort c srcAddr false false).1 ref = addressIeeeByRef c ref := by
  rw [addressByShort]
  cases search : shortSearch c srcAddr with
  | none => rfl
  | some found =>
    change addressDecompress (touch c found) ((touch c found).addrMap ref).ieeeAddr = _
    rw [addressIeeeByRef, touch]
    dsimp only [AddrGlobals.setEntry]
    by_cases same : ref = found
    · rw [same, Function.update_self]
      rfl
    · rw [Function.update_of_ne same]
      rfl

theorem neighborGet_found (s : Tables) (ref : ℕ) :
    (neighborGet s ref false 0 s.neighbor).2 =
      if s.neighbor.addrToNeighbor ref ≠ 0xff then some (s.neighbor.addrToNeighbor ref)
      else none := by
  rw [neighborGet]
  split
  · rfl
  · rfl

theorem neighborGet_setAddr (addr : AddrGlobals) (ref : ℕ) :
    (neighborGet (d.setAddr addr).tables ref false 0 (d.setAddr addr).tables.neighbor).2 =
      (neighborGet d.tables ref false 0 d.tables.neighbor).2 := by
  rw [neighborGet_found, neighborGet_found]
  rfl

/-- The handler frees the packet of a device that is no neighbour. -/
theorem nwkLeaveHandler_stranger (lp : Command) (room : Room)
    (stranger : d.sender lp.srcAddr = none) :
    ∃ d' : Device, d.nwkLeaveHandler routerRole lp room = (d'.start room.cbQ).freeBuf := by
  rw [sender] at stranger
  rw [nwkLeaveHandler]
  cases lookup : addressByShort d.tables.addr lp.srcAddr false false with
  | mk addr found =>
    rw [lookup] at stranger
    cases found with
    | error => exact ⟨_, rfl⟩
    | ok ref =>
      rw [Option.map_eq_none_iff] at stranger
      dsimp only
      rw [neighborGet_setAddr, stranger]
      exact ⟨_, rfl⟩

theorem nwkLeaveHandler_neighbor (lp : Command) (room : Room) {ref : ℕ}
    {relationship : Relationship} (neighbor : d.sender lp.srcAddr = some (ref, relationship)) :
    ∃ d' : Device, d'.deviceType = d.deviceType ∧
      addressIeeeByRef d'.tables.addr ref = addressIeeeByRef d.tables.addr ref ∧
      d.nwkLeaveHandler routerRole lp room =
        if relationship = .parent then d'.parentLeave routerRole lp room ref
        else if lp.request ∨ (routerRole ∧ d'.deviceType = .ed) then (d'.start room.cbQ).freeBuf
        else (d'.start room.cbQ).callLeaveInd lp.rejoin (some ref) := by
  rw [sender] at neighbor
  have ieee := ieeeByRef_addressByShort d.tables.addr lp.srcAddr ref
  rw [nwkLeaveHandler]
  cases lookup : addressByShort d.tables.addr lp.srcAddr false false with
  | mk addr found =>
    rw [lookup] at neighbor ieee
    cases found with
    | error => cases neighbor
    | ok ref' =>
      obtain ⟨n, here, same⟩ := Option.map_eq_some_iff.mp neighbor
      cases same
      dsimp only
      rw [neighborGet_setAddr, here]
      exact ⟨d.setAddr addr, rfl, ieee, rfl⟩

/-- The packet of a command is scheduled or freed once, where the ring has a place. -/
theorem nwkLeaveHandler_disposed_iff (lp : Command) (room : Room) :
    (d.nwkLeaveHandler routerRole lp room).disposed.length = 1 ↔ d.HasPlace routerRole lp room := by
  have scheduled : ∀ {o : Outcome} (callback : Callback), o.disposed = [] →
      ((o.schedule callback).disposed.length = 1 ↔ 0 < o.room) := by
    intro o callback fresh
    rw [Outcome.schedule_disposed fresh]
    split
    case isTrue place => exact iff_of_true rfl place
    case isFalse full => exact iff_of_false nofun full
  rw [HasPlace]
  cases neighbor : d.sender lp.srcAddr with
  | none =>
    obtain ⟨d', handled⟩ := d.nwkLeaveHandler_stranger routerRole lp room neighbor
    rw [handled]
    exact iff_of_true rfl trivial
  | some found =>
    obtain ⟨ref, relationship⟩ := found
    obtain ⟨d', type, -, handled⟩ := d.nwkLeaveHandler_neighbor routerRole lp room neighbor
    dsimp only
    rw [handled]
    by_cases parent : relationship = .parent
    · rw [if_pos parent, if_pos parent, parentLeave]
      by_cases request : lp.request = true
      · rw [if_pos request, if_pos request]
        split
        · exact scheduled _ rfl
        · split
          · exact scheduled _ rfl
          · exact scheduled _ rfl
      · rw [if_neg request, if_neg request]
        split
        · exact scheduled _ rfl
        · split
          · exact scheduled _ rfl
          · exact scheduled _ rfl
    · rw [if_neg parent, if_neg parent, type, ← or_assoc]
      by_cases dropped : lp.request = true ∨ (routerRole = true ∧ d.deviceType = .ed)
      · rw [if_pos dropped]
        exact iff_of_true rfl (.inl dropped)
      · rw [if_neg dropped, or_iff_right dropped]
        exact scheduled _ rfl

end Device

namespace World

variable {w : World} {lp : Command} {room : Room} {ref : ℕ}

theorem departure_neighbor (room : Room) {relationship : Relationship}
    (neighbor : w.device.sender lp.srcAddr = some (ref, relationship)) :
    w.departure (.leaveCommand lp room) =
      if lp.request ∨ (relationship ≠ .parent ∧ w.routerRole ∧ w.device.deviceType = .ed) then none
      else some (addressIeeeByRef w.device.tables.addr ref) := by
  rw [departure, Device.departure, neighbor]

theorem parentLeave_right_iff {d' : Device}
    (neighbor : w.device.sender lp.srcAddr = some (ref, .parent))
    (type : d'.deviceType = w.device.deviceType)
    (ieee : addressIeeeByRef d'.tables.addr ref = addressIeeeByRef w.device.tables.addr ref)
    (handled : w.handle (.leaveCommand lp room) = d'.parentLeave w.routerRole lp room ref) :
    w.Right (.leaveCommand lp room) ↔ w.SoundParent lp room ref := by
  have endDevice : d'.IsEndDevice w.routerRole ↔ w.device.IsEndDevice w.routerRole := by
    rw [Device.IsEndDevice, type, Device.IsEndDevice]
  have departs := departure_neighbor room neighbor
  rw [Device.parentLeave] at handled
  simp only [endDevice] at handled
  rw [SoundParent]
  by_cases request : lp.request = true
  · have told : w.Told (.leaveCommand lp room) := ⟨⟨ref, neighbor⟩, .inl request⟩
    rw [if_pos (.inl request)] at departs
    have expected : w.deferred (.leaveCommand lp room) = w.expected (.leaveCommand lp room) := by
      rw [deferred, World.expected, departs]
      exact ite_self _
    simp only [true_or, true_and, request] at handled ⊢
    by_cases end_ : w.device.IsEndDevice w.routerRole
    · rw [if_neg (not_not.mpr end_), if_pos end_, Outcome.callLeaveInd] at handled
      rw [right_iff_of_call rfl handled rfl rfl]
      refine and_iff_left ⟨?_, fun _ => told⟩
      rw [← expected]
      rfl
    · rw [if_pos end_] at handled
      rw [right_iff_of_schedule rfl handled rfl nofun fun _ => told]
      exact and_iff_left expected
  · rw [if_neg fun either => either.elim request fun both => both.1 rfl] at departs
    rw [Bool.not_eq_true] at request
    simp only [request, Bool.false_eq_true, false_or, if_false] at handled ⊢
    have waits : (w.handle (.leaveCommand lp room)).waits = room.accepts := by
      rw [handled]
      split
      · exact (Outcome.schedule_waits _).1
      · split
        · exact (Outcome.schedule_waits _).1
        · exact (Outcome.schedule_waits _).1
    have deferred_ : w.deferred (.leaveCommand lp room) =
        if room.accepts then [addressIeeeByRef w.device.tables.addr ref] else [] := by
      rw [deferred, waits, departs]
      rfl
    have expected_ : w.expected (.leaveCommand lp room) =
        [addressIeeeByRef w.device.tables.addr ref] := by
      rw [expected, departs]
      rfl
    have accepted : w.deferred (.leaveCommand lp room) = w.expected (.leaveCommand lp room) ↔
        room.accepts = true := by
      rw [deferred_, expected_]
      cases room.accepts <;> simp
    by_cases end_ : w.device.IsEndDevice w.routerRole
    · have told : w.Told (.leaveCommand lp room) := ⟨⟨ref, neighbor⟩, .inr (.inr end_)⟩
      rw [if_neg fun both => both.2 end_, if_pos end_, Outcome.callLeaveInd] at handled
      rw [if_pos (.inr end_), right_iff_of_call rfl handled rfl rfl, and_comm]
      exact and_congr_left fun _ => (and_iff_left fun _ => told).trans accepted
    · by_cases children : lp.removeChildren = true
      · have told : w.Told (.leaveCommand lp room) := ⟨⟨ref, neighbor⟩, .inr (.inl children)⟩
        rw [if_pos ⟨children, end_⟩] at handled
        rw [if_pos (.inl children), right_iff_of_schedule rfl handled rfl nofun fun _ => told,
          and_comm]
        exact and_congr_left fun _ => accepted
      · -- the device reports its parent, and a call that waits will report it again
        have untold : ¬w.Told (.leaveCommand lp room) := by
          rintro ⟨-, asked | removed | alone⟩
          · rw [request] at asked
            cases asked
          · exact children removed
          · exact end_ alone
        rw [if_neg fun both => children both.1, if_neg end_, Outcome.callLeaveInd] at handled
        rw [if_neg fun either => either.elim children end_, right_iff_of_call rfl handled rfl rfl]
        change 0 < room.behind ∧ (if addressIeeeByRef d'.tables.addr ref = .zero then []
          else [addressIeeeByRef d'.tables.addr ref]) ++ _ = _ ∧
          (addressIeeeByRef d'.tables.addr ref = .zero → _) ↔ _
        rw [ieee, deferred_, expected_, imp_iff_not untold]
        by_cases zero : addressIeeeByRef w.device.tables.addr ref = .zero
        · exact iff_of_false (fun all => all.2.2 zero) fun all => all.2.2 zero
        · rw [if_neg zero]
          cases room.accepts <;> simp [zero]

theorem leaveCommand_right_iff (w : World) (lp : Command) (room : Room) :
    w.Right (.leaveCommand lp room) ↔ w.Sound (.leaveCommand lp room) := by
  have freed : ∀ {d' : Device}, w.handle (.leaveCommand lp room) = (d'.start room.cbQ).freeBuf →
      w.departure (.leaveCommand lp room) = none → w.Right (.leaveCommand lp room) := by
    intro d' handled departs
    refine right_of_quiet .freed rfl ?_ nofun ?_ ?_
    · rw [handled]
      rfl
    · rw [deferred, expected, departs]
      exact ite_self _
    · rw [handled]
      exact fun either => either.elim nofun nofun
  cases neighbor : w.device.sender lp.srcAddr with
  | none =>
    obtain ⟨d', handled⟩ := w.device.nwkLeaveHandler_stranger w.routerRole lp room neighbor
    rw [Sound, neighbor]
    refine iff_of_true (freed handled ?_) trivial
    rw [departure, Device.departure, neighbor]
  | some found =>
    obtain ⟨ref, relationship⟩ := found
    obtain ⟨d', type, ieee, handled⟩ :=
      w.device.nwkLeaveHandler_neighbor w.routerRole lp room neighbor
    change w.handle (.leaveCommand lp room) = _ at handled
    by_cases parent : relationship = .parent
    · rw [parent] at neighbor
      rw [if_pos parent] at handled
      rw [parentLeave_right_iff neighbor type ieee handled, Sound, neighbor]
    · have sound : w.Sound (.leaveCommand lp room) ↔
          lp.request = true ∨ (w.routerRole = true ∧ w.device.deviceType = .ed) ∨
            (0 < room.cbQ ∧ addressIeeeByRef w.device.tables.addr ref ≠ .zero) := by
        rw [Sound, neighbor]
        cases relationship with
        | parent => exact absurd rfl parent
        | child | sibling | noneOfTheAbove | previousChild | unauthenticatedChild => exact Iff.rfl
      have departs := departure_neighbor room neighbor
      simp only [ne_eq, parent, not_false_eq_true, true_and] at departs
      rw [if_neg parent, type] at handled
      rw [sound, ← or_assoc]
      by_cases dropped : lp.request = true ∨ (w.routerRole = true ∧ w.device.deviceType = .ed)
      · rw [if_pos dropped] at handled departs
        exact iff_of_true (freed handled departs) (.inl dropped)
      · have untold : ¬w.Told (.leaveCommand lp room) := by
          rintro ⟨⟨ref', other⟩, -⟩
          rw [neighbor] at other
          cases other
          exact parent rfl
        rw [if_neg dropped] at handled departs
        rw [Outcome.callLeaveInd] at handled
        rw [or_iff_right dropped, right_iff_of_call rfl handled rfl rfl]
        change 0 < room.cbQ ∧ (if addressIeeeByRef d'.tables.addr ref = .zero then []
          else [addressIeeeByRef d'.tables.addr ref]) ++ _ = _ ∧
          (addressIeeeByRef d'.tables.addr ref = .zero → _) ↔ _
        have waits : (w.handle (.leaveCommand lp room)).waits = false := by
          rw [handled]
          exact (Outcome.schedule_waits _).1
        rw [ieee, imp_iff_not untold, deferred, waits, expected, departs]
        by_cases zero : addressIeeeByRef w.device.tables.addr ref = .zero <;> simp [zero]

/-! ## The other events -/

/-- What is on its way to make the device leave comes from a command that told it to, and the
departures were reported, but for those whose indication waits. -/
structure Kept (w : World) : Prop where
  indications : ∀ sent ∈ w.indications, sent.content.deviceAddress = .zero → sent.told
  broadcasts : ∀ sent ∈ w.broadcasts, sent.told
  reported : (w.reported ++ w.due).Perm w.departed

theorem granted_right_iff {granted : ℕ} (allowed : w.due ≠ []) :
    w.Right (.granted granted) ↔ w.Sound (.granted granted) := by
  obtain ⟨address, rest, due⟩ := List.exists_cons_of_ne_nil allowed
  have handled : w.handle (.granted granted) = (w.device.start granted).schedule
      (.nlmeLeaveIndication
        ⟨addressIeeeByRef w.device.tables.addr w.device.leaveIndPrnt.addrRef,
          w.device.leaveIndPrnt.rejoin⟩) := rfl
  have waits : (w.handle (.granted granted)).waits = false := by
    rw [handled]
    exact (Outcome.schedule_waits _).1
  have untold : ¬w.Told (.granted granted) := id
  rw [right_iff_of_call rfl handled rfl rfl, deferred, waits, expected, due,
    imp_iff_not untold, Sound, due]
  generalize addressIeeeByRef w.device.tables.addr w.device.leaveIndPrnt.addrRef = now
  refine and_congr_right fun _ => ?_
  by_cases zero : now = .zero
  · refine iff_of_false (fun both => both.2 zero) fun all => ?_
    obtain ⟨nonzero, same⟩ := all address rfl
    exact nonzero (same ▸ zero)
  · rw [if_neg zero]
    constructor
    · rintro ⟨same, -⟩ other ⟨⟩
      have same : now = address := (List.cons.inj same).1
      exact ⟨same ▸ zero, same⟩
    · intro all
      rw [(all address rfl).2]
      exact ⟨rfl, (all address rfl).1⟩

theorem lost_right_iff (allowed : w.due ≠ []) : w.Right .lost ↔ w.Sound .lost := by
  refine iff_of_false (fun right => ?_) id
  obtain ⟨address, rest, due⟩ := List.exists_cons_of_ne_nil allowed
  have reports := right.reports
  rw [expected, due] at reports
  cases reports

theorem dataConfirm_right_iff (kept : Kept w) {sent : ℕ} (allowed : w.broadcasts ≠ []) :
    w.Right (.dataConfirm sent) ↔ w.Sound (.dataConfirm sent) := by
  obtain ⟨first, rest, broadcasts⟩ := List.exists_cons_of_ne_nil allowed
  have told : w.Told (.dataConfirm sent) := by
    refine ⟨first, ?_, kept.broadcasts first ?_⟩
    · rw [broadcasts]
      rfl
    · rw [broadcasts]
      exact List.mem_cons_self
  have handled : w.handle (.dataConfirm sent) = (w.device.start sent).schedule
      (.nlmeLeaveIndication ⟨.zero, w.device.rejoinAfterLeave⟩) := rfl
  have waits : (w.handle (.dataConfirm sent)).waits = false := by
    rw [handled]
    exact (Outcome.schedule_waits _).1
  rw [right_iff_of_call rfl handled rfl rfl, deferred, waits]
  exact and_iff_left ⟨rfl, fun _ => told⟩

theorem indicated_right_iff (kept : Kept w) {place : ℕ} {junk : IeeeAddrCompressed}
    (allowed : w.indications ≠ []) :
    w.Right (.indicated place junk) ↔ w.Sound (.indicated place junk) := by
  obtain ⟨sent, rest, indications⟩ := List.exists_cons_of_ne_nil allowed
  have handled : w.handle (.indicated place junk) =
      w.device.nlmeLeaveIndication w.routerRole sent.content place junk := by
    rw [handle, indications]
  have sound : w.Sound (.indicated place junk) ↔
      if sent.content.deviceAddress = .zero then sent.content.rejoin = true → 0 < place
      else
        ∀ n ∈ (neighborGetByIeee w.device.tables sent.content.deviceAddress junk).2,
          w.device.TellsTc w.routerRole ((neighborGetByIeee w.device.tables
            sent.content.deviceAddress junk).1.neighbor.baseNeighbor n) → 0 < place := by
    rw [Sound, indications]
    exact ⟨fun all => all sent rfl, fun here => by rintro _ ⟨⟩; exact here⟩
  have deferred_ : w.deferred (.indicated place junk) = w.expected (.indicated place junk) := by
    rw [deferred]
    exact ite_self _
  rw [sound]
  rw [Device.nlmeLeaveIndication] at handled
  by_cases zero : sent.content.deviceAddress = .zero
  · have told : w.Told (.indicated place junk) := by
      refine ⟨sent, ?_, kept.indications sent ?_ zero⟩
      · rw [indications]
        rfl
      · rw [indications]
        exact List.mem_cons_self
    rw [if_pos zero, Device.nwkDoLeave] at handled
    rw [if_pos zero]
    by_cases rejoin : sent.content.rejoin = true
    · rw [if_pos rejoin] at handled
      rw [right_iff_of_schedule rfl handled rfl nofun fun _ => told, imp_iff_right rejoin]
      exact and_iff_left deferred_
    · rw [if_neg rejoin] at handled
      refine iff_of_true ?_ fun yes => absurd yes rejoin
      exact right_of_quiet .freed rfl (by rw [handled]; rfl) nofun deferred_
        fun _ => told
  · rw [if_neg zero] at handled ⊢
    cases found : neighborGetByIeee w.device.tables sent.content.deviceAddress junk with
    | mk tables n =>
      rw [found] at handled
      cases n with
      | none =>
        refine iff_of_true ?_ nofun
        refine right_of_quiet .freed rfl (by rw [handled]; rfl) nofun deferred_ ?_
        rw [handled]
        exact fun either => either.elim nofun nofun
      | some n =>
        dsimp only at handled ⊢
        have only : (∀ m ∈ some n, w.device.TellsTc w.routerRole (tables.neighbor.baseNeighbor m) →
            0 < place) ↔
            (w.device.TellsTc w.routerRole (tables.neighbor.baseNeighbor n) → 0 < place) :=
          ⟨fun all => all n rfl, fun here => by rintro _ ⟨⟩; exact here⟩
        rw [only]
        by_cases tells : w.device.TellsTc w.routerRole (tables.neighbor.baseNeighbor n)
        · replace handled := handled.trans (if_pos tells)
          rw [imp_iff_right tells, right_iff_of_schedule rfl handled rfl nofun nofun]
          exact and_iff_left deferred_
        · replace handled := handled.trans (if_neg tells)
          refine iff_of_true ?_ fun yes => absurd yes tells
          refine right_of_quiet .freed rfl (by rw [handled]; rfl) nofun deferred_ ?_
          rw [handled]
          exact fun either => either.elim nofun nofun

/-- Every event is handled right just when its condition holds. -/
theorem right_iff_sound (kept : Kept w) {e : Event} (allowed : w.Allowed e) :
    w.Right e ↔ w.Sound e := by
  cases e with
  | leaveCommand lp room => exact leaveCommand_right_iff w lp room
  | granted room => exact granted_right_iff allowed
  | lost => exact lost_right_iff allowed
  | dataConfirm room => exact dataConfirm_right_iff kept allowed
  | indicated room junk => exact indicated_right_iff kept allowed
  | other =>
    refine iff_of_true ⟨rfl, ?_, rfl⟩ trivial
    rintro (left | ⟨indication, member, -⟩ | forwarded)
    · cases left
    · cases member
    · cases forwarded

/-- What an event has to report was due, or has just left. -/
theorem stillDue_count (w : World) (e : Event) (address : IeeeAddr) :
    (w.stillDue e).count address + (w.expected e).count address =
      w.due.count address + ((w.departure e).toList).count address := by
  cases e with
  | granted | lost =>
    change w.due.tail.count address + w.due.head?.toList.count address = w.due.count address + 0
    cases w.due with
    | nil => rfl
    | cons head rest =>
      rw [List.tail_cons, List.head?_cons, Option.toList_some, List.count_cons,
        List.count_cons, List.count_nil]
      omega
  | leaveCommand | dataConfirm | indicated | other => rfl

/-- An event that is handled right keeps the books. -/
theorem Kept.step (kept : Kept w) {e : Event} (right : w.Right e) : Kept (w.step e) where
  indications := by
    intro sent member zero
    rcases List.mem_append.mp member with old | new
    · refine kept.indications sent ?_ zero
      cases e with
      | indicated => exact List.mem_of_mem_tail old
      | leaveCommand | granted | lost | dataConfirm | other => exact old
    · obtain ⟨indication, passed, same⟩ := List.mem_map.mp new
      subst same
      exact right.leaves (.inr (.inl ⟨indication, passed, zero⟩))
  broadcasts := by
    intro sent member
    rcases List.mem_append.mp member with old | new
    · refine kept.broadcasts sent ?_
      cases e with
      | dataConfirm => exact List.mem_of_mem_tail old
      | leaveCommand | granted | lost | indicated | other => exact old
    · split at new
      case isTrue forwarded =>
        rw [List.mem_singleton.mp new]
        exact right.leaves (.inr (.inr forwarded))
      case isFalse => cases new
  reported := by
    rw [List.perm_iff_count]
    intro address
    have before := List.perm_iff_count.mp kept.reported address
    have now := congrArg (List.count address) right.reports
    have due := w.stillDue_count e address
    rw [List.count_append] at before now
    change ((w.reported ++ (w.handle e).reports) ++ (w.stillDue e ++ w.deferred e)).count address =
      (w.departed ++ (w.departure e).toList).count address
    rw [List.count_append, List.count_append, List.count_append, List.count_append]
    omega

end World

/-! ## Every run -/

/-- Nothing has left yet. -/
structure Fresh (w : World) : Prop where
  indications : w.indications = []
  broadcasts : w.broadcasts = []
  due : w.due = []
  departed : w.departed = []
  reported : w.reported = []

theorem Fresh.kept {w : World} (fresh : Fresh w) : World.Kept w where
  indications := by
    rw [fresh.indications]
    exact nofun
  broadcasts := by
    rw [fresh.broadcasts]
    exact nofun
  reported := by
    rw [fresh.reported, fresh.due, fresh.departed]
    exact .nil

/-- In every order of commands, grants, confirms, indications and changes of the tables, every event
is handled right just when its condition holds; and then, when no indication waits, the devices
reported are those that left, each as often as it left. -/
theorem leave_command_iff (w : World) (events : List Event) (fresh : Fresh w)
    (allowed : Along World.step World.Allowed w events) :
    (Along World.step World.Right w events ↔ Along World.step World.Sound w events) ∧
      (Along World.step World.Sound w events → (run World.step w events).due = [] →
        (run World.step w events).reported.Perm (run World.step w events).departed) := by
  have agree : ∀ w e, World.Kept w → (w.Allowed e ∧ w.Right e ↔ w.Allowed e ∧ w.Sound e) :=
    fun _ _ kept => and_congr_right fun allowed => World.right_iff_sound kept allowed
  have keeps : ∀ w e, World.Kept w → w.Allowed e ∧ w.Sound e → World.Kept (w.step e) :=
    fun w e kept both => kept.step ((agree w e kept).mpr both).2
  have both := along_iff_of_invariant agree keeps w events fresh.kept
  have second : ∀ {first second : World → Event → Prop},
      Along World.step (fun w e => first w e ∧ second w e) w events →
        Along World.step second w events := fun met =>
    along_of_invariant (fun _ _ (_ : True) _ => trivial) (fun _ _ _ both => both.2) w events trivial
      met
  refine ⟨⟨fun right => ?_, fun sound => ?_⟩, fun sound settled => ?_⟩
  · exact second (both.mp (along_and allowed right))
  · exact second (both.mpr (along_and allowed sound))
  · have kept := invariant_of_along keeps w events fresh.kept (along_and allowed sound)
    have reported := kept.reported
    rwa [settled, List.append_nil] at reported

/-- The address table with the short address 0, whose IEEE address is not known. -/
def unnamed : AddrGlobals := (addressByShort .zero 0 true false).1

/-- The address table with the short address 0 and its IEEE address. -/
def named (address : IeeeAddr) : AddrGlobals := (addressUpdate unnamed address 0 false .zero).1

/-- A device with the neighbour of the short address 0. -/
def beside (addr : AddrGlobals) (relationship : Relationship) (deviceType : DeviceType) : World where
  device := ⟨⟨addr, appendBase .init 0 { createdEnt 0 0 with relationship }⟩, deviceType, false,
    0x1234, ⟨0, false⟩, false⟩
  routerRole := true
  indications := []
  broadcasts := []
  due := []
  departed := []
  reported := []

theorem beside_fresh (addr : AddrGlobals) (relationship : Relationship) (deviceType : DeviceType) :
    Fresh (beside addr relationship deviceType) := ⟨rfl, rfl, rfl, rfl, rfl⟩

def roomy : Room := ⟨8, true, true⟩

def mother : IeeeAddr := ⟨⟨1, 2, 3⟩, ⟨4, 5, 6, 7, 8⟩⟩

def stranger : IeeeAddr := ⟨⟨1, 2, 3⟩, ⟨9, 9, 9, 9, 9⟩⟩

/-- The neighbour leaves, and the layer above forgets it. -/
def childLeaves : List Event := [.leaveCommand ⟨0, 0⟩ roomy, .indicated 8 .zero]

theorem leave_command_iff_child :
    (Along World.step World.Right (beside (named mother) .child .router) childLeaves ↔
      Along World.step World.Sound (beside (named mother) .child .router) childLeaves) ∧
      (Along World.step World.Sound (beside (named mother) .child .router) childLeaves →
        (run World.step (beside (named mother) .child .router) childLeaves).due = [] →
        (run World.step (beside (named mother) .child .router) childLeaves).reported.Perm
          (run World.step (beside (named mother) .child .router) childLeaves).departed) := by
  refine leave_command_iff _ _ (beside_fresh _ _ _) ⟨trivial, ?_, trivial⟩
  have passed : (((beside (named mother) .child .router).step
      (.leaveCommand ⟨0, 0⟩ roomy)).indications.length) = 1 := by decide +kernel
  intro none_
  rw [none_] at passed
  cases passed

/-- A neighbour leaves. -/
def neighborLeaves : List Event := [.leaveCommand ⟨0, 0⟩ roomy]

/-- The parent leaves, and before there is a buffer its reference stands for another device. -/
def refReused : List Event :=
  [.leaveCommand ⟨0, 0⟩ roomy,
    .other ⟨named stranger, .init⟩ .ed false 0x1234 false, .granted 8]

/-- A router reports its parent twice, an end device reports a stranger, and a router leaves with a
child whose IEEE address it does not know. -/
theorem leave_command_goes_wrong :
    Along World.step World.Allowed (beside (named mother) .parent .router) neighborLeaves ∧
    ¬Along World.step World.Right (beside (named mother) .parent .router) neighborLeaves ∧
    Along World.step World.Allowed (beside (named mother) .parent .ed) refReused ∧
    ¬Along World.step World.Right (beside (named mother) .parent .ed) refReused ∧
    Along World.step World.Allowed (beside unnamed .child .router) neighborLeaves ∧
    ¬Along World.step World.Right (beside unnamed .child .router) neighborLeaves := by
  refine ⟨⟨trivial, trivial⟩, ?_, ⟨trivial, trivial, ?_, trivial⟩, ?_, ⟨trivial, trivial⟩, ?_⟩
  · rintro ⟨right, -⟩
    exact absurd right.reports (by decide +kernel)
  · change World.due _ ≠ []
    decide +kernel
  · rintro ⟨-, -, right, -⟩
    exact absurd right.reports (by decide +kernel)
  · rintro ⟨right, -⟩
    exact absurd right.reports (by decide +kernel)

end Zboss.LeaveCommand
