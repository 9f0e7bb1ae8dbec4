import Zboss.Lib.Run
import Zboss.Nwk.MeshRouting

/-!
Forwarding and broadcast transmission in the network layer (`nwk_main.c`), and the
network layer as a machine: one operation for each callback, timer and primitive that
touches a dynamic table, in any order.

The vector of passive acknowledgements has room for eight neighbours.  The mark of a
neighbour behind them goes to whatever the platform has placed there: `spill` is the
retransmission table after such a write.
-/

namespace Zboss.DynamicTables

open Zboss.SlotTable
open Zboss.FrameHeaders (nwkIsAddressBroadcast nwkFrameTypeData nwkFrameTypeCommand)
open Zboss.NeighborTable (DeviceType)

def nwkMaxBroadcastRetries : ℕ := 2

def nwkBroadcastDeliveryTime : ℕ := 9

/-- `ZB_NWK_RREQ_RETRY_INTERVAL`, in beacon intervals. -/
def nwkRreqRetryInterval : UInt16 := 16

def timeGe (a b : UInt16) : Bool := a - b < 32767

/-- The broadcast addresses of `zb_nwk.h`. -/
def nwkBroadcastAllDevices : UInt16 := 0xFFFF
def nwkBroadcastRxOnWhenIdle : UInt16 := 0xFFFD
def nwkBroadcastRouterCoordinator : UInt16 := 0xFFFC
def nwkBroadcastLowPowerRouter : UInt16 := 0xFFFB

abbrev RetransmitTable := Table NwkBroadcastRetransmit nwkBrrTableSize

/-- What the platform makes of a mark behind the vector of entry and neighbour. -/
abbrev Spill := RetransmitTable → ℕ → ℕ → RetransmitTable

/-- The network header of a packet to be forwarded. -/
structure NwkHdr where
  dstAddr : UInt16
  srcAddr : UInt16
  seqNum : UInt8
  discoverRoute : Bool
  deriving DecidableEq, Repr

/-- What the address and neighbour tables say of a packet to be forwarded: whether the
receiver of a neighbouring destination is always on, the parent's address, the next hop
on the tree, whether an address is a child's, and the sleeping child a broadcast is first
sent to. -/
structure Hops where
  neighbor : Option Bool
  parent : UInt16
  tree : Option UInt16
  isChild : UInt16 → Bool
  nextZeChild : Option ℕ

/-- What `nwk_broadcast_transmition` asks of timer, buffers and neighbour table. -/
structure Surroundings where
  now : UInt16
  bufSrc : BufRef → UInt16
  childAddr : ℕ → UInt16
  nextZeChild : UInt16 → ℕ → Option ℕ
  passiveAckDevNum : ℕ

/-- A frame as `zb_mcps_data_indication` reads it.  `acker` is the neighbour a short MAC
source address belongs to; `unsecured` is whether `zb_nwk_unsecure_frame` accepts it. -/
structure RxFrame where
  buf : BufRef
  radius : UInt8
  frameType : UInt8
  dstAddr : UInt16
  srcAddr : UInt16
  seqNum : UInt8
  commandId : UInt8
  security : Bool
  unsecured : Bool
  acker : Option ℕ
  passiveAckDevNum : ℕ
  deriving DecidableEq, Repr

/-! ### Routing one packet -/

/-- The outcome of `nwk_calc_destination`. -/
inductive Destination
  | hop (macDst : UInt16) (indirect : Bool)
  | busy
  | error (status : NwkCommandStatus)
  deriving DecidableEq, Repr

/-- Put a packet into the pending list; `discover` asks for a buffer for a request. -/
def park (s : Nwk) (nsdu : BufRef) (handle : UInt8) (dst : UInt16) (discover : Bool) :
    Nwk × Destination × List Call :=
  match meshAddBufToPending s nsdu handle dst with
  | some s => (s, .busy, if discover then [.getBuf .initiateRouteDiscovery] else [])
  | none => (s, .error .noRouteAvailable, [])

/-- Tree routing, the last resort. -/
def treeDestination (s : Nwk) (nwhdr : NwkHdr) (hops : Hops) : Destination :=
  if nwhdr.discoverRoute ∧ s.device.useTreeRouting then
    match hops.tree with
    | some addr => .hop addr false
    | none => .error .treeLinkFailure
  else .error .noRoutingCapacity

/-- `nwk_calc_destination`. -/
def calcDestination (s : Nwk) (nsdu : BufRef) (handle : UInt8) (nwhdr : NwkHdr) (hops : Hops) :
    Nwk × Destination × List Call :=
  if s.device.deviceType = .ed then
    (s, .hop (if s.device.state = .rejoin then nwhdr.dstAddr else hops.parent) false, [])
  else if nwkIsAddressBroadcast nwhdr.dstAddr then (s, .hop nwkBroadcastAllDevices false, [])
  else
    match hops.neighbor with
    | some rxOn => (s, .hop nwhdr.dstAddr !rxOn, [])
    | none =>
      if nwhdr.discoverRoute then
        match meshFindRoute s nwhdr.dstAddr with
        | none => park s nsdu handle nwhdr.dstAddr true
        | some r =>
          let route := (s.routing.slots r).ent
          if route.status = .active ∨ route.status = .validationUnderway then
            ({ s with routing := s.routing.modify r fun ent => { ent with status := .active } },
              .hop route.nextHopAddr false, [])
          else if route.status = .discoveryUnderway then
            -- a discovery of another device does not count as under way
            park s nsdu handle nwhdr.dstAddr <|
              match meshFindRouteDiscoveryEntry s nwhdr.dstAddr with
              | none => true
              | some d => (s.routeDisc.slots d).ent.sourceAddr != s.device.networkAddress
          else (s, treeDestination s nwhdr hops, [])
      else (s, treeDestination s nwhdr hops, [])

/-- Note a broadcast in the transaction table unless it is there; `none` where the table
is full. -/
def noteBroadcast (btt : Table NwkBtr nwkBtrTableSize) (srcAddr : UInt16) (seqNum : UInt8) :
    Option (Table NwkBtr nwkBtrTableSize) :=
  btt.getEnt.map fun (i, btt) => btt.modify i fun _ =>
    { sourceAddr := srcAddr, sequenceNumber := seqNum, expirationTime := nwkBroadcastDeliveryTime }

/-- The transaction table entry of a broadcast. -/
def findBroadcast (btt : Table NwkBtr nwkBtrTableSize) (srcAddr : UInt16) (seqNum : UInt8) :
    Option ℕ :=
  btt.findEnt fun ent => ent.sourceAddr == srcAddr && ent.sequenceNumber == seqNum

/-- What becomes of a packet that cannot be sent. -/
def undeliverable (hops : Hops) (macDst : UInt16) (packet : BufRef) : Call :=
  if hops.isChild macDst then .nlmeStatusIndication packet else .freeBuf packet

/-- `zb_nwk_forward` with the next hop at hand: a broadcast is noted and, by a router,
queued for retransmission; everything else goes to the MAC. -/
def sendTo (s : Nwk) (param : BufRef) (handle : UInt8) (nwhdr : NwkHdr) (hops : Hops)
    (macDst : UInt16) (indirect : Bool) : Nwk × List Call :=
  let broadcast := nwkIsAddressBroadcast nwhdr.dstAddr
  let noted :=
    if broadcast && (findBroadcast s.btt nwhdr.srcAddr nwhdr.seqNum).isNone then
      noteBroadcast s.btt nwhdr.srcAddr nwhdr.seqNum
    else some s.btt
  match noted with
  | none => (s, [undeliverable hops macDst param])
  | some btt =>
    let s := { s with
      btt
      reqParams := Function.update s.reqParams param
        { dstAddr := macDst, indirect, acknowledged := macDst != 0xffff, msduHandle := handle } }
    if broadcast ∧ s.device.deviceType ≠ .ed then
      if s.brrt.cnt.toNat < nwkBrrTableSize then
        match s.brrt.getEnt with
        | some (i, brrt) =>
          ({ s with brrt := brrt.modify i fun ent =>
            { ent with
              buf := param, retries := 0, srcAddr := nwhdr.srcAddr, dstAddr := nwhdr.dstAddr,
              seqNum := nwhdr.seqNum, neighborTableIterator := hops.nextZeChild,
              passiveAck := 0 } },
            [.getBuf .broadcastTransmition])
        | none => (s, [.nullEntry])
      else (s, [undeliverable hops macDst param])
    else (s, [.mcpsDataRequest param])

/-- `zb_nwk_forward`. -/
def forward (s : Nwk) (param : BufRef) (handle : UInt8) (nwhdr : NwkHdr) (hops : Hops) :
    Nwk × List Call :=
  match calcDestination s param handle nwhdr hops with
  | (s, .hop macDst indirect, _) => sendTo s param handle nwhdr hops macDst indirect
  | (s, .busy, calls) => (s, calls)
  | (s, .error _, _) => (s, [undeliverable hops nwhdr.dstAddr param])

def nldeDataRequest (s : Nwk) (nsdu : BufRef) (nsduHandle : UInt8) : List Call :=
  if s.device.joined then [.forward nsdu nsduHandle] else [.nldeDataConfirm nsdu]

/-- `zb_mcps_data_confirm`: the handle the packet was sent under says who is told. -/
def mcpsDataConfirm (s : Nwk) (param : BufRef) (msduHandle : UInt8) (success : Bool) :
    List Call :=
  if msduHandle = nwkInternalRejoinCmdHandle ∧ s.device.state = .rejoin then
    [.rejoinResponseTimeout param]
  else if msduHandle = nwkInternalRejoinCmdResponse then [.rejoinRespSent param]
  else if msduHandle = nwkInternalLeaveIndAtDataConfirmHandle then [.leaveIndication param]
  else if msduHandle = nwkInternalLeaveConfirmAtDataConfirmHandle then [.leaveConfirm param]
  else if msduHandle = nwkInternalNsduHandle then
    if success then [.freeBuf param] else [.nlmeStatusIndication param]
  else .nldeDataConfirm param :: if success then [] else [.getBuf .callStatusIndication]

/-! ### Broadcasts -/

def magicBitcount8 (b : UInt8) : ℕ := (List.range 8).countP fun i => b.toNat.testBit i

/-- `acks` is the number of acknowledgements to wait for: all routers' for an own broadcast,
all but the sender's for another's. -/
def ackedByAll (s : Nwk) (ent : NwkBroadcastRetransmit) (acks passiveAckDevNum : ℕ) : Bool :=
  if ent.srcAddr = s.device.networkAddress then acks == passiveAckDevNum
  else acks + 1 == passiveAckDevNum

/-- `ZB_SET_BIT_IN_BIT_VECTOR` on the passive acknowledgements of entry `i`. -/
def setPassiveAck (spill : Spill) (brrt : RetransmitTable) (i n : ℕ) : RetransmitTable :=
  if n < 8 then
    brrt.modify i fun ent => { ent with passiveAck := ent.passiveAck ||| 1 <<< n.toUInt8 }
  else spill brrt i n

/-- The search for an entry to be sent to a child; a child that is the originator is
passed over. -/
def seekUnicast (env : Surroundings) : List ℕ → RetransmitTable → RetransmitTable × Option (ℕ × ℕ)
  | [], t => (t, none)
  | i :: rest, t =>
    match (t.slots i).used, (t.slots i).ent.neighborTableIterator with
    | true, some n =>
      if env.childAddr n = env.bufSrc (t.slots i).ent.buf then
        seekUnicast env rest (t.modify i fun ent =>
          { ent with neighborTableIterator := env.nextZeChild ent.dstAddr (n + 1) })
      else (t, some (i, n))
    | _, _ => seekUnicast env rest t

/-- The entry to be sent next and, for a unicast, the child: what was never sent before
what goes to children before what is due again. -/
def nextTransmission (s : Nwk) (env : Surroundings) : RetransmitTable × Option (ℕ × Option ℕ) :=
  match s.brrt.findEnt fun ent => ent.retries == 0 with
  | some i => (s.brrt, some (i, none))
  | none =>
    match seekUnicast env (List.range nwkBrrTableSize) s.brrt with
    | (brrt, some (i, n)) => (brrt, some (i, some n))
    | (brrt, none) =>
      (brrt, (brrt.findEnt fun ent => timeGe env.now ent.nextRetransmit).map fun i => (i, none))

/-- Record in entry `i` that it is being sent. -/
def noteTransmission (spill : Spill) (env : Surroundings) (brrt : RetransmitTable) (i : ℕ) :
    Option ℕ → RetransmitTable
  | some n => (setPassiveAck spill brrt i n).modify i fun ent =>
    { ent with neighborTableIterator := env.nextZeChild ent.dstAddr (n + 1) }
  | none => brrt.modify i fun ent =>
    { ent with
      nextRetransmit := env.now + nwkRreqRetryInterval
      retries := (ent.retries + 1) % 64 }

/-- Where the searches for an entry leave their counter: at its start unless the last one is
reached, which leaves it behind what it finds. -/
def searchCounter (s : Nwk) (env : Surroundings) : ℕ :=
  match s.brrt.findEnt fun ent => ent.retries == 0 with
  | some _ => 0
  | none =>
    match seekUnicast env (List.range nwkBrrTableSize) s.brrt with
    | (_, some _) => 0
    | (brrt, none) =>
      match brrt.findEnt fun ent => timeGe env.now ent.nextRetransmit with
      | some i => i + 1
      | none => nwkBrrTableSize

/-- Entry and neighbours want no transmission beyond this one. -/
def lastTransmission (s : Nwk) (ent : NwkBroadcastRetransmit) (acks passiveAckDevNum : ℕ) : Bool :=
  ent.neighborTableIterator.isNone &&
    (decide (nwkMaxBroadcastRetries ≤ ent.retries) || ackedByAll s ent acks passiveAckDevNum)

/-- Where a transmission of a broadcast goes: to one child, or where the packet went. -/
def addressTo (env : Surroundings) (params : McpsDataReqParams) : Option ℕ → McpsDataReqParams
  | some n => { params with dstAddr := env.childAddr n, indirect := true, acknowledged := true }
  | none => params

/-- Send the packet of entry `i`: the last time in its own buffer, which is confirmed to the
layers above, before that in the buffer at hand. -/
def transmit (s : Nwk) (brrt : RetransmitTable) (i : ℕ) (child : Option ℕ) (param : BufRef)
    (env : Surroundings) : Nwk × List Call :=
  let ent := (brrt.slots i).ent
  -- the bits are counted into a variable of the macro's own, which hides the counter of the
  -- searches; that counter is what is compared
  if lastTransmission s ent (searchCounter s env) env.passiveAckDevNum then
    ({ s with
      brrt := brrt.putEnt i
      reqParams :=
        Function.update s.reqParams ent.buf (addressTo env (s.reqParams ent.buf) child) },
      [.freeBuf param, .mcpsDataRequest ent.buf])
  else
    let copied := if param = ent.buf then s.reqParams param
      else { s.reqParams ent.buf with msduHandle := nwkInternalNsduHandle }
    ({ s with
      brrt, reqParams := Function.update s.reqParams param (addressTo env copied child) },
      [.mcpsDataRequest param])

/-- The next execution, while there are broadcasts to be sent. -/
def transmitAgain (s : Nwk) : List Call := if s.brrt.cnt ≠ 0 then [.broadcastTransmition] else []

/-- `nwk_broadcast_transmition`. -/
def broadcastTransmition (spill : Spill) (s : Nwk) (param : BufRef) (env : Surroundings) :
    Nwk × List Call :=
  match nextTransmission s env with
  | (brrt, none) =>
    let s := { s with brrt }
    (s, (if param ≠ 0 then [.freeBuf param] else []) ++ transmitAgain s)
  | (brrt, some (i, child)) =>
    if param = 0 then ({ s with brrt }, [.getBuf .broadcastTransmition])
    else
      let (s, calls) := transmit s (noteTransmission spill env brrt i child) i child param env
      (s, calls ++ transmitAgain s)

/-- Neighbour `n` has sent broadcast `i` of the retransmission table on: a passive
acknowledgement. -/
def passiveAcked (spill : Spill) (s : Nwk) (i n passiveAckDevNum : ℕ) : Nwk × List Call :=
  let brrt := setPassiveAck spill s.brrt i n
  let ent := (brrt.slots i).ent
  if ackedByAll s ent (magicBitcount8 ent.passiveAck) passiveAckDevNum then
    ({ s with brrt := brrt.putEnt i }, [.callBrConfirm ent.buf])
  else ({ s with brrt }, [])

/-- The retransmission entry of a received broadcast and the neighbour it came from. -/
def passiveAcker (s : Nwk) (frame : RxFrame) : Option (ℕ × ℕ) :=
  if s.device.joinedPro then none
  else
    match s.brrt.findEnt fun ent => ent.srcAddr == frame.srcAddr && ent.seqNum == frame.seqNum,
      frame.acker with
    | some i, some n => some (i, n)
    | _, _ => none

/-- The broadcast addresses that are for this device. -/
def broadcastForUs (device : Device) (dst : UInt16) : Bool :=
  dst == nwkBroadcastAllDevices || (dst == nwkBroadcastRxOnWhenIdle && device.rxOnWhenIdle) ||
    (dst == nwkBroadcastRouterCoordinator && !device.joinedPro) ||
    (dst == nwkBroadcastLowPowerRouter && !device.joinedPro)

/-- Whether a frame is indicated and whether it is sent on; the radius is the one received. -/
def dispatch (device : Device) (frame : RxFrame) : Bool × Bool :=
  let broadcast := nwkIsAddressBroadcast frame.dstAddr
  let radius := frame.radius - 1
  if device.deviceType = .coordinator ∨ device.deviceType = .router then
    if broadcast then
      (true, radius ≠ 0 ∧ (frame.frameType = nwkFrameTypeData ∨
        frame.frameType = nwkFrameTypeCommand ∧
          (frame.commandId = 9 ∨ frame.commandId = 3 ∨ frame.commandId = 0xa)))
    else if frame.dstAddr = device.networkAddress then (true, false)
    else (false, radius ≠ 0)
  else (frame.dstAddr = device.networkAddress ∨ broadcast, false)

/-- The end of `zb_mcps_data_indication`, for a frame that is neither dropped nor known. -/
def deliver (s : Nwk) (frame : RxFrame) : Nwk × List Call :=
  if frame.security ∧ !frame.unsecured then (s, [.unsecureFailed frame.buf])
  else
    match dispatch s.device frame with
    | (true, true) =>
      match s.waitAlloc.getEnt with
      | some (i, waitAlloc) =>
        ({ s with waitAlloc := waitAlloc.modify i fun _ => { buf := frame.buf } },
          [.getBuf .newBufferAllocated])
      | none => (s, [.frameIndication frame.buf])
    | (true, false) => (s, [.frameIndication frame.buf])
    | (false, true) => (s, [.forward frame.buf nwkInternalNsduHandle])
    | (false, false) => (s, [.freeBuf frame.buf])

/-- The passive acknowledgement a received broadcast stands for. -/
def notePassiveAck (spill : Spill) (s : Nwk) (frame : RxFrame) : Nwk × List Call :=
  match passiveAcker s frame with
  | some (i, n) => passiveAcked spill s i n frame.passiveAckDevNum
  | none => (s, [])

/-- A broadcast is delivered unless it is known or cannot be noted. -/
def receiveBroadcast (s : Nwk) (frame : RxFrame) : Nwk × List Call :=
  if (findBroadcast s.btt frame.srcAddr frame.seqNum).isSome then (s, [.freeBuf frame.buf])
  else
    match noteBroadcast s.btt frame.srcAddr frame.seqNum with
    | none => (s, [.freeBuf frame.buf])
    | some btt => deliver { s with btt } frame

/-- A frame to be dropped at once. -/
def badFrame (frame : RxFrame) : Bool :=
  frame.radius == 0 ||
    (frame.frameType != nwkFrameTypeCommand && frame.frameType != nwkFrameTypeData)

def mcpsDataIndication (spill : Spill) (s : Nwk) (frame : RxFrame) : Nwk × List Call :=
  if badFrame frame then (s, [.freeBuf frame.buf])
  else if nwkIsAddressBroadcast frame.dstAddr then
    if broadcastForUs s.device frame.dstAddr then
      let (s, acked) := notePassiveAck spill s frame
      let (s, calls) := receiveBroadcast s frame
      (s, acked ++ calls)
    else (s, [.freeBuf frame.buf])
  else deliver s frame

/-- `new_buffer_allocated`: the frame is copied, indicated and sent on. -/
def newBufferAllocated (s : Nwk) (param : BufRef) : Nwk × List Call :=
  if param ≠ 0 ∧ s.waitAlloc.cnt ≠ 0 then
    let i := s.waitAlloc.cnt.toNat - 1
    let s' := { s with waitAlloc := s.waitAlloc.putEnt i }
    (s', [.frameIndication param, .forward (s.waitAlloc.slots i).ent.buf nwkInternalNsduHandle] ++
      if s'.waitAlloc.cnt ≠ 0 then [.getBuf .newBufferAllocated] else [])
  else (s, [])

/-- One slot of the loop of `zb_nwk_btr_expiry`. -/
def btrTick (btt : Table NwkBtr nwkBtrTableSize) (i : ℕ) : Table NwkBtr nwkBtrTableSize :=
  if (btt.slots i).used then
    if (btt.slots i).ent.expirationTime ≠ 0 then
      btt.modify i fun ent => { ent with expirationTime := ent.expirationTime - 1 }
    else btt.putEnt i
  else btt

/-- `zb_nwk_btr_expiry`. -/
def btrExpiry (s : Nwk) : Nwk :=
  if s.btt.cnt ≠ 0 then { s with btt := (List.range nwkBtrTableSize).foldl btrTick s.btt } else s

/-! ### Leaving and reset -/

/-- `zb_nwk_do_leave`: the counts of both broadcast tables are reset, not the tables. -/
def doLeave (s : Nwk) : Nwk :=
  { s with
    device := { s.device with joined := false }
    btt := { s.btt with cnt := 0 }
    brrt := { s.brrt with cnt := 0 } }

def nlmeResetRequest (s : Nwk) (warmStart : Bool) : Nwk :=
  if s.device.state = .idle ∧ !s.device.joined then
    if warmStart then { s with routing := s.routing.clear, routeDisc := s.routeDisc.clear }
    else { s with device := { s.device with state := .reset } }
  else s

/-- `zb_mlme_reset_confirm`: the network information base is set up, the handle zeroed. -/
def mlmeResetConfirm (s : Nwk) : Nwk :=
  { s with
    device := { s.device with
      joined := false, joinedPro := false, state := .idle, useTreeRouting := true }
    apsRreqAddr := 0xffff
    btt := .cleared ⟨0, 0, 0⟩
    brrt := .cleared ⟨0, 0, none, 0, 0, 0, 0, 0⟩
    waitAlloc := .cleared ⟨0⟩ }

/-! ### The machine -/

/-- What can happen to the tables. -/
inductive Op
  | configure (device : Device)
  | nldeDataRequest (nsdu : BufRef) (nsduHandle : UInt8)
  | mcpsDataConfirm (param : BufRef) (msduHandle : UInt8) (success : Bool)
  | forward (param : BufRef) (handle : UInt8) (nwhdr : NwkHdr) (hops : Hops)
  | broadcastTransmition (param : BufRef) (env : Surroundings)
  | mcpsDataIndication (frame : RxFrame)
  | newBufferAllocated (param : BufRef)
  | btrExpiry
  | rreq (rreq : RouteRequest)
  | rrep (rrep : RouteReply)
  | initiateRouteDiscovery (cbuf : BufRef) (dst : BufRef → UInt16)
  | nlmeRouteDiscoveryRequest (buf : BufRef) (unicast noAddr : Bool) (networkAddr : UInt16)
    (neighbor : Bool)
  | expiryRouteDisc
  | expiryPending
  | leave
  | resetRequest (warmStart : Bool)
  | resetConfirm

/-- One operation, with the calls it schedules. -/
def exec (spill : Spill) (s : Nwk) : Op → Nwk × List Call
  | .configure device => ({ s with device }, [])
  | .nldeDataRequest nsdu nsduHandle => (s, nldeDataRequest s nsdu nsduHandle)
  | .mcpsDataConfirm param msduHandle success => (s, mcpsDataConfirm s param msduHandle success)
  | .forward param handle nwhdr hops => forward s param handle nwhdr hops
  | .broadcastTransmition param env => broadcastTransmition spill s param env
  | .mcpsDataIndication frame => mcpsDataIndication spill s frame
  | .newBufferAllocated param => newBufferAllocated s param
  | .btrExpiry => (btrExpiry s, [])
  | .rreq rreq => meshRreqHandler s rreq
  | .rrep rrep => meshRrepHandler s rrep
  | .initiateRouteDiscovery cbuf dst => meshInitiateRouteDiscovery s cbuf dst
  | .nlmeRouteDiscoveryRequest buf unicast noAddr networkAddr neighbor =>
    nlmeRouteDiscoveryRequest s buf unicast noAddr networkAddr neighbor
  | .expiryRouteDisc => meshExpiryRouteDisc s
  | .expiryPending => meshExpiryPending s
  | .leave => (doLeave s, [])
  | .resetRequest warmStart => (nlmeResetRequest s warmStart, [])
  | .resetConfirm => (mlmeResetConfirm s, [])

/-- The tables after one operation. -/
def step (spill : Spill) (s : Nwk) (op : Op) : Nwk := (exec spill s op).1

/-- The network layer after `zb_nwk_init`. -/
def Nwk.init (device : Device) : Nwk where
  device := device
  btt := .cleared ⟨0, 0, 0⟩
  brrt := .cleared ⟨0, 0, none, 0, 0, 0, 0, 0⟩
  waitAlloc := .cleared ⟨0⟩
  routing := .cleared ⟨.active, 0, 0⟩
  routeDisc := .cleared ⟨0, 0, 0, 0, 0, 0, 0⟩
  pending := .cleared ⟨0, 0, 0, 0, false⟩
  rreqId := 0
  apsRreqAddr := 0xffff
  reqParams _ := ⟨0, false, false, 0⟩

end Zboss.DynamicTables
