import Zboss.Nwk.Footprints

/-!
The data service of the network layer as a machine with its scheduler and the MAC.
Scheduled callbacks run in any order, the MAC confirms what it was given in any order,
and a buffer comes into the layer only when the layer holds none of that number.
Requests are numbered as they are made; `confirms` counts the confirms of each.
-/

namespace Zboss.DynamicTables

open Zboss.SlotTable Zboss.SlotTable.Table
open Zboss.FrameHeaders (nwkIsAddressBroadcast)

/-- A handle of the layers above: none of those the network layer keeps to itself. -/
def isRequestHandle (handle : UInt8) : Bool := handle < nwkInternalLeaveConfirmAtDataConfirmHandle

namespace Call

/-- The buffer a call passes on. -/
def buf : Call → Option BufRef
  | .forward b _ | .mcpsDataRequest b | .callBrConfirm b | .nldeDataConfirm b
  | .nlmeStatusIndication b | .nlmeRouteDiscoveryConfirm b _ | .frameIndication b
  | .freeBuf b | .unsecureFailed b | .rejoinResponseTimeout b | .rejoinRespSent b
  | .leaveIndication b | .leaveConfirm b => some b
  | .getBuf _ | .broadcastTransmition | .nullEntry => none

/-- The call is queued with the scheduler; the others take effect at once. -/
def isScheduled : Call → Bool
  | .freeBuf _ | .unsecureFailed _ | .nullEntry => false
  | .forward _ _ | .mcpsDataRequest _ | .callBrConfirm _ | .nldeDataConfirm _
  | .nlmeStatusIndication _ | .nlmeRouteDiscoveryConfirm _ _ | .frameIndication _ | .getBuf _
  | .broadcastTransmition | .rejoinResponseTimeout _ | .rejoinRespSent _ | .leaveIndication _
  | .leaveConfirm _ => true

end Call

/-- The network layer, the callbacks it has scheduled and the packets the MAC has; then the
number of the request a buffer carries, how many there were, and their confirms. -/
structure DataService where
  nwk : Nwk
  tasks : List Call
  mac : List BufRef
  request : BufRef → Option ℕ
  issued : ℕ
  confirms : ℕ → ℕ

/-- Entries of the tables that hold buffer `b`. -/
def Nwk.refs (s : Nwk) (b : BufRef) : ℕ :=
  s.pending.usedWith (·.buf == b) + s.brrt.usedWith (·.buf == b) +
    s.waitAlloc.usedWith (·.buf == b)

/-- Calls that pass buffer `b` on. -/
def callRefs (calls : List Call) (b : BufRef) : ℕ := calls.countP (·.buf == some b)

/-- All places where the network layer holds buffer `b`. -/
def DataService.refs (w : DataService) (b : BufRef) : ℕ :=
  w.nwk.refs b + callRefs w.tasks b + w.mac.count b

/-- The buffers an operation takes in. -/
def Op.bufs : Op → List BufRef
  | .nldeDataRequest b _ | .mcpsDataConfirm b _ _ | .forward b _ _ _
  | .newBufferAllocated b | .initiateRouteDiscovery b _
  | .nlmeRouteDiscoveryRequest b _ _ _ _ => [b]
  | .broadcastTransmition b _ => if b = 0 then [] else [b]
  | .mcpsDataIndication frame => [frame.buf]
  | .rreq cmd => [cmd.buf]
  | .rrep cmd => [cmd.buf]
  | .configure _ | .btrExpiry | .expiryRouteDisc | .expiryPending | .leave | .resetRequest _
  | .resetConfirm => []

/-- Operations that start outside the scheduler: frames from the MAC, timers, requests of the
layers above, and packets of the network layer's own, which have a handle of its own. -/
def Op.isInput : Op → Bool
  | .nldeDataRequest _ _ | .mcpsDataConfirm _ _ _ | .broadcastTransmition _ _
  | .newBufferAllocated _ | .initiateRouteDiscovery _ _ => false
  | .forward _ handle _ _ => !isRequestHandle handle
  | _ => true

/-- What a callback finds around it, `param` the buffer it may have waited for. -/
structure Args where
  param : BufRef
  nwhdr : NwkHdr
  hops : Hops
  env : Surroundings
  dst : BufRef → UInt16
  success : Bool

inductive Event
  | request (nsdu : BufRef) (handle : UInt8)
  | input (op : Op)
  | callback (i : ℕ) (args : Args)
  | macConfirm (i : ℕ) (success : Bool)

namespace DataService

/-- The operation a waiter goes on with; the others only report a status in the buffer. -/
def waiterOp (args : Args) : Waiter → Option Op
  | .newBufferAllocated => some (.newBufferAllocated args.param)
  | .broadcastTransmition => some (.broadcastTransmition args.param args.env)
  | .initiateRouteDiscovery => some (.initiateRouteDiscovery args.param args.dst)
  | .routeDiscFailed | .callStatusIndication => none

/-- The operation a callback runs. -/
def taskOp (w : DataService) (args : Args) : Call → Option Op
  | .forward b handle => some (.forward b handle args.nwhdr args.hops)
  | .callBrConfirm b => some (.mcpsDataConfirm b (w.nwk.reqParams b).msduHandle args.success)
  | .broadcastTransmition => some (.broadcastTransmition 0 args.env)
  | .getBuf waiter => if w.refs args.param = 0 then waiterOp args waiter else none
  | .mcpsDataRequest _ | .nldeDataConfirm _ | .nlmeStatusIndication _
  | .nlmeRouteDiscoveryConfirm _ _ | .frameIndication _ | .freeBuf _ | .unsecureFailed _
  | .rejoinResponseTimeout _ | .rejoinRespSent _ | .leaveIndication _ | .leaveConfirm _
  | .nullEntry => none

/-- The operation an event runs. -/
def operation (w : DataService) : Event → Option Op
  | .request nsdu handle =>
    if w.refs nsdu = 0 then some (.nldeDataRequest nsdu handle) else none
  | .input op => if op.isInput && op.bufs.all (w.refs · == 0) then some op else none
  | .callback i args => w.tasks[i]?.bind (w.taskOp args)
  | .macConfirm i success => w.mac[i]?.map fun b =>
    .mcpsDataConfirm b (w.nwk.reqParams b).msduHandle success

/-- Buffers that come in carry no request. -/
def disown (w : DataService) (bufs : List BufRef) : DataService :=
  { w with request := fun b => if b ∈ bufs then none else w.request b }

/-- What an event takes from scheduler and MAC for its operation. -/
def take (w : DataService) : Event → DataService
  | .request nsdu _ => { w with
    request := Function.update w.request nsdu (some w.issued), issued := w.issued + 1 }
  | .input op => w.disown op.bufs
  | .callback i args =>
    let w' := { w with tasks := w.tasks.eraseIdx i }
    match w.tasks[i]? with
    | some (.getBuf _) => w'.disown [args.param]
    | _ => w'
  | .macConfirm i _ => { w with mac := w.mac.eraseIdx i }

/-- Run an operation and queue the calls it schedules. -/
def perform (spill : Spill) (w : DataService) (op : Op) : DataService :=
  let (s, calls) := exec spill w.nwk op
  { w with nwk := s, tasks := w.tasks ++ calls.filter (·.isScheduled) }

/-- `zb_nlde_data_confirm` is called with buffer `b`. -/
def confirm (w : DataService) (b : BufRef) : DataService :=
  match w.request b with
  | some n => { w with confirms := Function.update w.confirms n (w.confirms n + 1) }
  | none => w

/-- A callback that hands its buffer to the MAC or to the layers above. -/
def passOn (w : DataService) : Event → DataService
  | .callback i args =>
    let w' := { w with tasks := w.tasks.eraseIdx i }
    match w.tasks[i]? with
    | some (.mcpsDataRequest b) => { w' with mac := b :: w.mac }
    | some (.nldeDataConfirm b) => w'.confirm b
    | some (.getBuf _) => if w.refs args.param = 0 then w' else w
    | some _ => w'
    | none => w
  | _ => w

/-- One event. -/
def step (spill : Spill) (w : DataService) (event : Event) : DataService :=
  match w.operation event with
  | some op => (w.take event).perform spill op
  | none => w.passOn event

/-- The service after `zb_nwk_init`. -/
def init (device : Device) : DataService where
  nwk := Nwk.init device
  tasks := []
  mac := []
  request _ := none
  issued := 0
  confirms _ := 0

end DataService

/-! ### When no packet of a request is lost -/

/-- A packet for a route of this kind has a next hop or can wait for one. -/
def routeOpen (s : Nwk) (hops : Hops) : Option ℕ → Bool
  | none => decide s.pending.HasFree
  | some r =>
    match (s.routing.slots r).ent.status with
    | .active | .validationUnderway => true
    | .discoveryUnderway => decide s.pending.HasFree
    | .discoveryFailed | .discoveryInactive => s.device.useTreeRouting && hops.tree.isSome

/-- There is a next hop for the packet, or room to wait for one. -/
def Routable (s : Nwk) (nwhdr : NwkHdr) (hops : Hops) : Prop :=
  s.device.deviceType = .ed ∨ nwkIsAddressBroadcast nwhdr.dstAddr = true ∨
    hops.neighbor.isSome = true ∨
    nwhdr.discoverRoute = true ∧ routeOpen s hops (meshFindRoute s nwhdr.dstAddr) = true

instance (s : Nwk) (nwhdr : NwkHdr) (hops : Hops) : Decidable (Routable s nwhdr hops) :=
  inferInstanceAs (Decidable (_ ∨ _ ∨ _ ∨ _ ∧ _))

/-- A broadcast is on record or can be noted, and a router can queue it. -/
def BroadcastRoom (s : Nwk) (nwhdr : NwkHdr) : Prop :=
  nwkIsAddressBroadcast nwhdr.dstAddr = true →
    ((findBroadcast s.btt nwhdr.srcAddr nwhdr.seqNum).isSome = true ∨ s.btt.HasFree) ∧
      (s.device.deviceType ≠ .ed → s.brrt.cnt.toNat < nwkBrrTableSize ∧ s.brrt.HasFree)

instance (s : Nwk) (nwhdr : NwkHdr) : Decidable (BroadcastRoom s nwhdr) :=
  inferInstanceAs (Decidable (_ → (_ ∨ _) ∧ (_ → _ ∧ _)))

/-- The operation loses no packet of a request: a request is made under a handle of the layers
above, its packet can be routed and queued, it does not expire in the pending list, leaving
and resetting find no broadcast that is still to be sent, and no reply completes a discovery
the layers above asked for (its buffer is passed up and freed as well). -/
def Lossless (s : Nwk) : Op → Prop
  | .nldeDataRequest _ handle => isRequestHandle handle = true
  | .forward _ handle nwhdr hops =>
    isRequestHandle handle = true → Routable s nwhdr hops ∧ BroadcastRoom s nwhdr
  | .rrep rrep => rrep.originator = s.device.networkAddress → s.apsRreqAddr ≠ rrep.responder
  | .expiryPending => s.pending.cnt ≠ 0 →
    s.pending.usedWith (fun ent => ent.expiry == 0 && isRequestHandle ent.handle) = 0
  | .leave => s.brrt.usedCnt = 0
  | .resetConfirm => s.brrt.usedWith (fun ent =>
    isRequestHandle (s.reqParams ent.buf).msduHandle) = 0
  | _ => True

instance (s : Nwk) : ∀ op, Decidable (Lossless s op)
  | .nldeDataRequest _ _ => inferInstanceAs (Decidable (_ = true))
  | .forward _ _ _ _ => inferInstanceAs (Decidable (_ → _ ∧ _))
  | .rrep _ => inferInstanceAs (Decidable (_ → _ ≠ _))
  | .expiryPending => inferInstanceAs (Decidable (_ ≠ _ → _ = 0))
  | .leave | .resetConfirm => inferInstanceAs (Decidable (_ = 0))
  | .configure _ | .mcpsDataConfirm _ _ _ | .broadcastTransmition _ _ | .mcpsDataIndication _
  | .newBufferAllocated _ | .btrExpiry | .rreq _ | .initiateRouteDiscovery _ _
  | .nlmeRouteDiscoveryRequest _ _ _ _ _ | .expiryRouteDisc | .resetRequest _ => isTrue trivial

/-- The operation of an event, if any, loses no request's packet and marks only neighbours the
vector of passive acknowledgements has room for. -/
def Careful (w : DataService) (event : Event) : Prop :=
  ∀ op ∈ w.operation event, Lossless w.nwk op ∧ ∀ n ∈ marked w.nwk op, n < 8

instance (w : DataService) (event : Event) : Decidable (Careful w event) :=
  have (op : Op) : Decidable (∀ n ∈ marked w.nwk op, n < 8) := Option.decidableForallMem _
  (Option.decidableForallMem _ :
    Decidable (∀ op ∈ w.operation event, Lossless w.nwk op ∧ ∀ n ∈ marked w.nwk op, n < 8))

end Zboss.DynamicTables
