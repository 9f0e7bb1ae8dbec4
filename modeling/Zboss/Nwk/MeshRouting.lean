import Zboss.Lib.SlotTable
import Zboss.Nwk.FrameHeaders
import Zboss.Nwk.NeighborTable

/-!
The dynamic tables of the network layer and mesh routing over them
(`nwk_internal.h`, `nwk_cr_mesh_routing.c`).  A handler returns the new state and
the calls it schedules; what it reads from a packet or asks the address and
neighbour tables is an argument.
-/

namespace Zboss.DynamicTables

open Zboss.SlotTable
open Zboss.FrameHeaders (nwkIsAddressBroadcast)
open Zboss.NeighborTable (DeviceType)

/-- Number of a buffer; `0` stands for no buffer. -/
abbrev BufRef := UInt8

def nwkBtrTableSize : ℕ := 16

def nwkBrrTableSize : ℕ := 8

def nwkWaitAllocTableSize : ℕ := 5

def nwkRoutingTableSize : ℕ := 5

def nwkRouteDiscoveryTableSize : ℕ := 5

def nwkPendingTableSize : ℕ := 5

def nwkRouteDiscoveryExpiry : ℕ := 10

def nwkPendingEntryExpiry : ℕ := 20

def nwkStaticPathCost : UInt8 := 7

/-- The handles of `nwk_internal.h` for the network layer's own packets. -/
def nwkInternalNsduHandle : UInt8 := 0xFF
def nwkInternalRejoinCmdHandle : UInt8 := 0xFE
def nwkInternalRejoinCmdResponse : UInt8 := 0xFD
def nwkInternalLeaveIndAtDataConfirmHandle : UInt8 := 0xFC
def nwkInternalLeaveConfirmAtDataConfirmHandle : UInt8 := 0xFB

/-- `zb_nwk_btr_t`, less its mark. -/
structure NwkBtr where
  sourceAddr : UInt16
  sequenceNumber : UInt8
  expirationTime : ℕ
  deriving DecidableEq, Repr

/-- `zb_nwk_broadcast_retransmit_t`; `none` for the iterator is `~0`, and the vector of
passive acknowledgements has the one octet its size comes to. -/
structure NwkBroadcastRetransmit where
  retries : ℕ
  buf : BufRef
  neighborTableIterator : Option ℕ
  nextRetransmit : UInt16
  srcAddr : UInt16
  dstAddr : UInt16
  seqNum : UInt8
  passiveAck : UInt8
  deriving DecidableEq, Repr

inductive NwkRouteState
  | active
  | discoveryUnderway
  | discoveryFailed
  | discoveryInactive
  | validationUnderway
  deriving DecidableEq, Repr

/-- `zb_nwk_routing_t`, less the flags of many-to-one routing that nothing reads. -/
structure NwkRouting where
  status : NwkRouteState
  destAddr : UInt16
  nextHopAddr : UInt16
  deriving DecidableEq, Repr

structure NwkRouteDiscovery where
  requestId : UInt8
  sourceAddr : UInt16
  senderAddr : UInt16
  destAddr : UInt16
  forwardCost : UInt8
  residualCost : UInt8
  expirationTime : ℕ
  deriving DecidableEq, Repr

structure NwkPend where
  buf : BufRef
  handle : UInt8
  destAddr : UInt16
  expiry : ℕ
  waitingBuf : Bool
  deriving DecidableEq, Repr

/-- `zb_nwk_buf_alloc_wait_t`; its one reason is that the frame is to be indicated and
retransmitted. -/
structure NwkBufAllocWait where
  buf : BufRef
  deriving DecidableEq, Repr

/-- What `zb_mcps_data_req_params_t` at the end of a buffer says of its transmission. -/
structure McpsDataReqParams where
  dstAddr : UInt16
  indirect : Bool
  acknowledged : Bool
  msduHandle : UInt8
  deriving DecidableEq, Repr

/-- `zb_nlme_state_t`, as far as it is told apart here. -/
inductive NlmeState
  | idle
  | rejoin
  | reset
  | other
  deriving DecidableEq, Repr

/-- What joining, leaving and the configuration set. -/
structure Device where
  deviceType : DeviceType
  joined : Bool
  joinedPro : Bool
  rxOnWhenIdle : Bool
  state : NlmeState
  networkAddress : UInt16
  useTreeRouting : Bool
  reportConstantCost : Bool
  deriving DecidableEq, Repr

/-- The dynamic tables of `zb_nwk_handle_t` and `zb_nib_t`, with what their handlers read. -/
structure Nwk where
  device : Device
  btt : Table NwkBtr nwkBtrTableSize
  brrt : Table NwkBroadcastRetransmit nwkBrrTableSize
  waitAlloc : Table NwkBufAllocWait nwkWaitAllocTableSize
  routing : Table NwkRouting nwkRoutingTableSize
  routeDisc : Table NwkRouteDiscovery nwkRouteDiscoveryTableSize
  pending : Table NwkPend nwkPendingTableSize
  rreqId : UInt8
  apsRreqAddr : UInt16
  reqParams : BufRef → McpsDataReqParams

/-- `zb_nwk_command_status_t`, the codes reported here. -/
inductive NwkCommandStatus
  | noRouteAvailable
  | treeLinkFailure
  | noRoutingCapacity
  deriving DecidableEq, Repr

/-- Who waits for a buffer. -/
inductive Waiter
  | newBufferAllocated
  | broadcastTransmition
  | initiateRouteDiscovery
  | routeDiscFailed
  | callStatusIndication
  deriving DecidableEq, Repr

/-- What a handler schedules or does to a buffer.  `nullEntry` is the write through a
null pointer where no slot was free. -/
inductive Call
  | forward (buf : BufRef) (handle : UInt8)
  | mcpsDataRequest (buf : BufRef)
  | callBrConfirm (buf : BufRef)
  | nldeDataConfirm (buf : BufRef)
  | nlmeStatusIndication (buf : BufRef)
  | nlmeRouteDiscoveryConfirm (buf : BufRef) (success : Bool)
  | frameIndication (buf : BufRef)
  | freeBuf (buf : BufRef)
  | getBuf (waiter : Waiter)
  | broadcastTransmition
  | unsecureFailed (buf : BufRef)
  | rejoinResponseTimeout (buf : BufRef)
  | rejoinRespSent (buf : BufRef)
  | leaveIndication (buf : BufRef)
  | leaveConfirm (buf : BufRef)
  | nullEntry
  deriving DecidableEq, Repr

/-- A route request as its handler reads it; `macSrc` is the sender at the MAC, `lqi` the
link quality of a neighbour that is its originator. -/
structure RouteRequest where
  buf : BufRef
  srcAddr : UInt16
  macSrc : UInt16
  rreqId : UInt8
  destAddr : UInt16
  pathCost : UInt8
  lqi : Option UInt8
  deriving DecidableEq, Repr

/-- A route reply as its handler reads it. -/
structure RouteReply where
  buf : BufRef
  srcAddr : UInt16
  macSrc : UInt16
  rreqId : UInt8
  originator : UInt16
  responder : UInt16
  pathCost : UInt8
  lqi : Option UInt8
  deriving DecidableEq, Repr

/-- `NWK_CALC_PATH_COST`; the loop stops at the first `i` with `lqi ≤ 32 * (i + 1)`. -/
def nwkCalcPathCost (s : Nwk) (srcAddr : UInt16) (lqi : Option UInt8) : UInt8 :=
  if s.device.reportConstantCost then nwkStaticPathCost
  else match lqi with
    | some lqi =>
      match (List.range 8).find? fun i => lqi.toNat ≤ 32 * (i + 1) with
      | some i => if i < 7 then (7 - i).toUInt8 else 1
      | none => 1
    | none => if srcAddr = s.device.networkAddress then 0 else nwkStaticPathCost

/-! ### Route requests -/

/-- The routing entry a request works on: the one for its destination, put under
discovery unless it is in use, or a new one. -/
def rreqRouting (s : Nwk) (destAddr : UInt16) : Option (ℕ × Nwk) :=
  match s.routing.findEnt fun ent => ent.destAddr == destAddr with
  | some r =>
    some (r, { s with routing := s.routing.modify r fun ent =>
      if ent.status ≠ .active ∧ ent.status ≠ .validationUnderway then
        { ent with status := .discoveryUnderway }
      else ent })
  | none => s.routing.getEnt.map fun (r, routing) =>
    (r, { s with routing := routing.modify r fun ent =>
      { ent with destAddr, status := .discoveryUnderway } })

/-- What the discovery table says of a request. -/
inductive RreqDisc
  | process (s : Nwk)
  | worse
  | noMemory

/-- The discovery entry of a request: a known one improved, or a new one. -/
def rreqDiscovery (s : Nwk) (rreq : RouteRequest) (pathCost : UInt8) : RreqDisc :=
  match s.routeDisc.findEnt fun ent =>
      ent.requestId == rreq.rreqId && ent.sourceAddr == rreq.srcAddr with
  | some d =>
    if pathCost < (s.routeDisc.slots d).ent.forwardCost then
      .process { s with routeDisc := s.routeDisc.modify d fun ent =>
        { ent with senderAddr := rreq.macSrc, forwardCost := pathCost } }
    else .worse
  | none =>
    match s.routeDisc.getEnt with
    | some (d, routeDisc) => .process { s with routeDisc := routeDisc.modify d fun _ =>
        { requestId := rreq.rreqId, sourceAddr := rreq.srcAddr, senderAddr := rreq.macSrc,
          destAddr := rreq.destAddr, forwardCost := pathCost, residualCost := 0xff,
          expirationTime := nwkRouteDiscoveryExpiry } }
    | none => .noMemory

/-- How a failed request leaves its buffer. -/
def rreqFailed (s : Nwk) (rreq : RouteRequest) : List Call :=
  if s.apsRreqAddr ≠ 0 ∧ s.apsRreqAddr = rreq.destAddr then
    [.nlmeRouteDiscoveryConfirm rreq.buf false]
  else [.freeBuf rreq.buf]

/-- `zb_nwk_mesh_rreq_handler`: a reply for a destination known here, the request itself
otherwise, goes out in the same buffer.  Where the discovery table is full, the
routing entry is given back, also one that was there before. -/
def meshRreqHandler (s : Nwk) (rreq : RouteRequest) : Nwk × List Call :=
  let pathCost := nwkCalcPathCost s rreq.srcAddr rreq.lqi + rreq.pathCost
  match rreqRouting s rreq.destAddr with
  | none => (s, rreqFailed s rreq)
  | some (r, s) =>
    match rreqDiscovery s rreq pathCost with
    | .worse => (s, [.freeBuf rreq.buf])
    | .noMemory => ({ s with routing := s.routing.putEnt r }, rreqFailed s rreq)
    | .process s => (s, [.forward rreq.buf nwkInternalNsduHandle])

/-- `zb_nwk_mesh_route_discovery` in buffer `cbuf`. -/
def meshRouteDiscovery (s : Nwk) (cbuf : BufRef) (destAddr : UInt16) : Nwk × List Call :=
  let s := { s with rreqId := s.rreqId + 1 }
  meshRreqHandler s
    { buf := cbuf, srcAddr := s.device.networkAddress, macSrc := s.device.networkAddress,
      rreqId := s.rreqId, destAddr, pathCost := 0, lqi := none }

/-- `zb_nwk_mesh_initiate_route_discovery`; `dst` reads the destination of a packet. -/
def meshInitiateRouteDiscovery (s : Nwk) (cbuf : BufRef) (dst : BufRef → UInt16) :
    Nwk × List Call :=
  match s.pending.findEnt (·.waitingBuf) with
  | some p =>
    let (s', calls) := meshRouteDiscovery s cbuf (dst (s.pending.slots p).ent.buf)
    ({ s' with pending := s'.pending.modify p fun ent => { ent with waitingBuf := false } }, calls)
  | none => (s, [.freeBuf cbuf])

/-- `zb_nlme_route_discovery_request`: `unicast` is the 16-bit address mode, `noAddr` the
mode without an address. -/
def nlmeRouteDiscoveryRequest (s : Nwk) (buf : BufRef) (unicast noAddr : Bool)
    (networkAddr : UInt16) (neighbor : Bool) : Nwk × List Call :=
  if s.device.deviceType ≠ .coordinator ∧ s.device.deviceType ≠ .router then
    (s, [.nlmeRouteDiscoveryConfirm buf false])
  else if !noAddr && nwkIsAddressBroadcast networkAddr then
    (s, [.nlmeRouteDiscoveryConfirm buf false])
  else if unicast && networkAddr == s.device.networkAddress then
    (s, [.nlmeRouteDiscoveryConfirm buf true])
  else if neighbor then (s, [.nlmeRouteDiscoveryConfirm buf true])
  else if unicast then
    meshRouteDiscovery { s with apsRreqAddr := networkAddr } buf networkAddr
  else (s, [.nlmeRouteDiscoveryConfirm buf false])

/-! ### Route replies -/

/-- The packets that wait for `dest` are forwarded and leave the pending list. -/
def releasePending (dest : UInt16) :
    List ℕ → Table NwkPend nwkPendingTableSize → Table NwkPend nwkPendingTableSize × List Call
  | [], t => (t, [])
  | i :: rest, t =>
    if (t.slots i).used && (t.slots i).ent.destAddr == dest then
      let (t', calls) := releasePending dest rest (t.putEnt i)
      (t', .forward (t.slots i).ent.buf (t.slots i).ent.handle :: calls)
    else releasePending dest rest t

/-- `zb_nwk_mesh_rrep_handler`.  An entry of one table without its partner in the other
is given back. -/
def meshRrepHandler (s : Nwk) (rrep : RouteReply) : Nwk × List Call :=
  let pathCost := nwkCalcPathCost s rrep.srcAddr rrep.lqi + rrep.pathCost
  match s.routeDisc.findEnt fun ent =>
      ent.requestId == rrep.rreqId && ent.sourceAddr == rrep.originator,
    s.routing.findEnt fun ent => ent.destAddr == rrep.responder with
  | none, none => (s, [.freeBuf rrep.buf])
  | some d, none => ({ s with routeDisc := s.routeDisc.putEnt d }, [.freeBuf rrep.buf])
  | none, some r => ({ s with routing := s.routing.putEnt r }, [.freeBuf rrep.buf])
  | some d, some r =>
    if (s.routeDisc.slots d).ent.residualCost < pathCost then (s, [.freeBuf rrep.buf])
    else
      let s := { s with
        routeDisc := s.routeDisc.modify d fun ent =>
          { ent with residualCost := pathCost, expirationTime := nwkRouteDiscoveryExpiry }
        routing := s.routing.modify r fun ent =>
          { ent with
            nextHopAddr := rrep.macSrc
            status := if ent.status = .discoveryUnderway then .validationUnderway
              else ent.status } }
      if rrep.originator = s.device.networkAddress then
        let (pending, calls) := releasePending rrep.responder (List.range nwkPendingTableSize)
          s.pending
        if s.apsRreqAddr = rrep.responder then
          -- the buffer of the confirm is freed all the same
          ({ s with pending, apsRreqAddr := 0xffff },
            calls ++ [.nlmeRouteDiscoveryConfirm rrep.buf true, .freeBuf rrep.buf])
        else ({ s with pending }, calls ++ [.freeBuf rrep.buf])
      else (s, [.forward rrep.buf nwkInternalNsduHandle])

/-! ### Expiry -/

/-- The loop of `zb_nwk_mesh_expiry_route_disc`; it ends with the first route that is
given up.  The search for the route has an `i` of its own, so the destination it compares
with is that of the discovery entry in the place of the route. -/
def expireRouteDisc : List ℕ → Nwk → Nwk × Bool
  | [], s => (s, false)
  | i :: rest, s =>
    if (s.routeDisc.slots i).used then
      if (s.routeDisc.slots i).ent.expirationTime ≠ 0 then
        expireRouteDisc rest { s with routeDisc := s.routeDisc.modify i fun ent =>
          { ent with expirationTime := ent.expirationTime - 1 } }
      else
        match s.routing.findSlot fun j ent =>
            ent.destAddr == (s.routeDisc.slots j).ent.destAddr && ent.status != .active with
        | none => expireRouteDisc rest { s with routeDisc := s.routeDisc.putEnt i }
        | some r =>
          ({ s with routeDisc := s.routeDisc.putEnt i, routing := s.routing.putEnt r }, true)
    else expireRouteDisc rest s

/-- `zb_nwk_mesh_expiry_route_disc`. -/
def meshExpiryRouteDisc (s : Nwk) : Nwk × List Call :=
  if s.routeDisc.cnt ≠ 0 then
    let (s, failed) := expireRouteDisc (List.range nwkRouteDiscoveryTableSize) s
    (s, if failed then [.getBuf .routeDiscFailed] else [])
  else (s, [])

/-- The loop of `zb_nwk_mesh_expiry_pending`. -/
def expirePending :
    List ℕ → Table NwkPend nwkPendingTableSize → Table NwkPend nwkPendingTableSize × List Call
  | [], t => (t, [])
  | i :: rest, t =>
    if (t.slots i).used then
      if (t.slots i).ent.expiry = 0 then
        let (t', calls) := expirePending rest (t.putEnt i)
        (t', .freeBuf (t.slots i).ent.buf :: calls)
      else expirePending rest (t.modify i fun ent => { ent with expiry := ent.expiry - 1 })
    else expirePending rest t

/-- `zb_nwk_mesh_expiry_pending`. -/
def meshExpiryPending (s : Nwk) : Nwk × List Call :=
  if s.pending.cnt ≠ 0 then
    let (pending, calls) := expirePending (List.range nwkPendingTableSize) s.pending
    ({ s with pending }, calls)
  else (s, [])

/-- `zb_nwk_mesh_find_route`. -/
def meshFindRoute (s : Nwk) (destAddr : UInt16) : Option ℕ :=
  s.routing.findEnt fun ent => ent.destAddr == destAddr

/-- `zb_nwk_mesh_find_route_discovery_entry`. -/
def meshFindRouteDiscoveryEntry (s : Nwk) (destAddr : UInt16) : Option ℕ :=
  s.routeDisc.findEnt fun ent => ent.destAddr == destAddr

/-- `zb_nwk_mesh_add_buf_to_pending`. -/
def meshAddBufToPending (s : Nwk) (buf : BufRef) (handle : UInt8) (destAddr : UInt16) :
    Option Nwk :=
  s.pending.getEnt.map fun (p, pending) =>
    { s with pending := pending.modify p fun _ =>
      { buf, handle, destAddr, expiry := nwkPendingEntryExpiry, waitingBuf := true } }

end Zboss.DynamicTables
