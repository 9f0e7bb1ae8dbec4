import Zboss.Aps.BindingTable
import Zboss.Zdo.Dispatch
import Zboss.Zdo.SimpleDesc

/-!
Bind and unbind requests: `zb_zdo_bind_unbind_req` lays its parameters out in a request whose tail
depends on the mode of the destination, `zb_zdo_bind_unbind_res` lays the request out again as the
parameters of the binding operation and answers with its status.  Parameters stand at the end of
the buffer, what is sent and received in the middle.
-/

namespace Zboss.BindRequests

open Zboss.AddressTable (IeeeAddr IeeeAddrCompressed)
open Zboss.Binding Zboss.BufLayout Zboss.Cells Zboss.FrameHeaders Zboss.MacHeader Zboss.Words
open Zboss.CommandFrames (shortOctets ieeeOctets)
open Zboss.Dispatch (bindReqClid unbindReqClid bindRespClid unbindRespClid)
open Zboss.SimpleDesc (holds_singleton holds_apart)

/-! ## Sending -/

/-- `ZB_APS_ADDR_MODE_16_ENDP_PRESENT`. -/
def shortMode : UInt8 := 2

/-- `ZB_APSDE_TX_OPT_ACK_TX`. -/
def txOptAckTx : UInt8 := 4

/-- `sizeof(zb_apsde_data_req_t)`. -/
def sizeofDataReq : ℕ := 18

/-- `zb_apsde_data_req_t` in memory, as both functions fill it: cleared, then four fields. -/
def dataReqOctets (addr clusterid : UInt16) : List UInt8 :=
  shortOctets addr ++ (List.replicate 8 0 ++ (shortOctets clusterid ++ (List.replicate 3 0 ++
    [shortMode, if nwkIsAddressBroadcast addr then 0 else txOptAckTx, 0])))

/-- `zdo_send_resp_by_short`, up to the sending. -/
def sendRespByShort (commandId : UInt16) (tsn : UInt8) (addr : UInt16) (b : Buf) : Option Buf := do
  let dreq ← b.getBufTail sizeofDataReq
  let b := { b with buf := memcpy b.buf dreq.first (dataReqOctets addr commandId) }
  let (b, tsnP) ← b.smartAllocLeft 1
  some { b with buf := memcpy b.buf tsnP.first [tsn] }

/-- `zdo_send_req_by_short` with `zdo_send_req`, up to the sending; `tsn` is the last sequence number
that was used. -/
def sendReqByShort (commandId : UInt16) (tsn : UInt8) (addr : UInt16) (b : Buf) : Option Buf :=
  sendRespByShort commandId (tsn + 1) addr b

/-! ## The request -/

/-- `ZB_APS_ADDR_MODE_16_GROUP_ENDP_NOT_PRESENT`. -/
def groupOctet : UInt8 := 1

/-- `ZB_APS_ADDR_MODE_64_ENDP_PRESENT`. -/
def longOctet : UInt8 := 3

/-- The destination of a binding: `dst_addr_mode`, the union and `dst_endp`. -/
inductive Destination
  | group (addrShort : UInt16)
  | long (addrLong : IeeeAddr) (dstEndp : UInt8)
  deriving DecidableEq

/-- `zb_zdo_bind_req_param_t`. -/
structure Param where
  srcAddress : IeeeAddr
  srcEndp : UInt8
  clusterId : UInt16
  dst : Destination
  reqDstAddr : UInt16

/-- `sizeof(zb_zdo_bind_req_param_t)`. -/
def sizeofParam : ℕ := 26

/-- `sizeof(zb_zdo_bind_req_head_t)`. -/
def sizeofHead : ℕ := 12

/-- `zb_zdo_bind_unbind_req`, up to the sending; none where an assertion fails, which is there for
the other modes too. -/
def bindUnbindReq (bind : Bool) (tsn : UInt8) (b : Buf) : Option Buf := do
  let param ← b.getBufTail sizeofParam
  let p := param.first
  let (b, req) ← b.initialAlloc sizeofHead
  let a := memcpy b.buf req.first (segment b.buf p 8)
  let a := memcpy a (req.first + 8) [a (p + 8)]
  let a := memcpy a (req.first + 9) (segment a (p + 10) 2)
  let a := memcpy a (req.first + 11) [a (p + 12)]
  let b := { b with buf := a }
  let b ←
    if b.buf (p + 12) = groupOctet then do
      let (b, tail) ← b.smartAllocRight 2
      some { b with buf := memcpy b.buf tail.first (segment b.buf (p + 14) 2) }
    else if b.buf (p + 12) = longOctet then do
      let (b, tail) ← b.smartAllocRight 9
      let a := memcpy b.buf tail.first (segment b.buf (p + 14) 8)
      some { b with buf := memcpy a (tail.first + 8) [a (p + 22)] }
    else none
  sendReqByShort (if bind then bindReqClid else unbindReqClid) tsn (Octets.le16 b.buf (p + 24)) b

/-! ## The response -/

/-- `sizeof(zb_apsde_data_indication_t)`. -/
def sizeofIndication : ℕ := 14

/-- `sizeof(zb_apsme_binding_req_t)`. -/
def sizeofBindingReq : ℕ := 24

/-- The parameter of the operation, as it reads it from the end of the buffer. -/
def bindingReq (b : Buf) : BindingReq :=
  let p := Octets.cut (ioBufSize - sizeofBindingReq) b.buf
  { srcAddr := p.ieeeAddr 0
    srcEndpoint := (p 8).toNat
    clusterid := (p.le16 10).toNat
    addrMode := (p 12).toNat
    dstAddrLong := p.ieeeAddr 14
    dstAddrShort := (p.le16 14).toNat
    dstEndpoint := (p 22).toNat }

/-- The part of `zb_zdo_bind_unbind_res` that decodes the request to the end of the buffer. -/
def decodeReq (b : Buf) : Option Buf := do
  let body := b.dataOffset + 1
  let aps ← b.getBufTail sizeofBindingReq
  let p := aps.first
  let a := memcpy b.buf p (segment b.buf body 8)
  let a := memcpy a (p + 8) [a (body + 8)]
  let a := memcpy a (p + 10) (segment a (body + 9) 2)
  let a := memcpy a (p + 12) [a (body + 11)]
  if a (p + 12) = groupOctet then
    some { b with buf := memcpy a (p + 14) (segment a (body + 12) 2) }
  else if a (p + 12) = longOctet then
    let a := memcpy a (p + 14) (segment a (body + 12) 8)
    some { b with buf := memcpy a (p + 22) [a (body + 20)] }
  else some { b with buf := a }

/-- What the memory holds that the operations find unset or run over. -/
structure Stale where
  src : IeeeAddrCompressed
  dst : IeeeAddrCompressed
  overrun : BindingTable

/-- `zb_apsme_bind_request` or `zb_apsme_unbind_request`. -/
def operation (bind : Bool) (stale : Stale) (tables : Tables) (req : BindingReq) :
    Tables × Status :=
  if bind then bindRequest tables req stale.src stale.dst
  else unbindRequest tables req stale.src stale.dst stale.overrun

/-- The status an operation leaves in the header of the buffer. -/
def hdrStatus : Status → ℤ
  | .ok => 0
  | .lookup .notFound => -28
  | .lookup .overflow => -29
  | .illegalRequest => -62
  | .invalidBinding => -63
  | .tableFull => 0x8c

/-- `ZB_ZDP_STATUS_NO_ENTRY`. -/
def zdpNoEntry : UInt8 := 0x88

/-- `ZB_ZDP_STATUS_NOT_SUPPORTED`. -/
def zdpNotSupported : UInt8 := 0x84

/-- The status of the response: a status of ZDP, or the low octet of a code of the stack. -/
def zdpStatus (status : Status) : UInt8 :=
  if hdrStatus status = hdrStatus .invalidBinding then zdpNoEntry
  else UInt8.ofInt (hdrStatus status)

/-- What `zb_config.h` says of `ZB_DISABLE_BIND_REQ`. -/
def configDisableBindReq : Bool := true

/-- `zb_zdo_bind_unbind_res`, up to the sending; `disableBindReq` is `ZB_DISABLE_BIND_REQ`. -/
def bindUnbindRes (disableBindReq bind : Bool) (stale : Stale) (tables : Tables) (b : Buf) :
    Option (Buf × Tables) := do
  let ind ← b.getBufTail sizeofIndication
  let dstAddr := Octets.le16 b.buf (ind.first + 1)
  let tsn := b.buf b.dataOffset
  let (b, tables, status) ←
    if disableBindReq then some (b, tables, zdpNotSupported)
    else do
      let b ← decodeReq b
      let (tables, status) := operation bind stale tables (bindingReq b)
      some (b, tables, zdpStatus status)
  let (b, resp) ← b.initialAlloc 1
  let b := { b with buf := memcpy b.buf resp.first [status] }
  let b ← sendRespByShort (if bind then bindRespClid else unbindRespClid) tsn dstAddr b
  some (b, tables)

/-! ## What the parameters are in memory and on the wire -/

namespace Destination

def mode : Destination → UInt8
  | group _ => groupOctet
  | long _ _ => longOctet

/-- The tail of the request. -/
def octets : Destination → List UInt8
  | group addrShort => shortOctets addrShort
  | long addrLong dstEndp => ieeeOctets addrLong ++ [dstEndp]

/-- The destination stands in parameters from `p` on. -/
def At (a : Octets) (p : ℕ) : Destination → Prop
  | group addrShort => Holds a (p + 14) (shortOctets addrShort)
  | long addrLong dstEndp => Holds a (p + 14) (ieeeOctets addrLong) ∧ a (p + 22) = dstEndp

/-- The operation gets this destination; the other reading of the union does not count. -/
def Given (req : BindingReq) : Destination → Prop
  | group addrShort => req.dstAddrShort = addrShort.toNat
  | long addrLong dstEndp => req.dstAddrLong = addrLong ∧ req.dstEndpoint = dstEndp.toNat

end Destination

namespace Param

variable (param : Param)

/-- The parameters stand at the end of a buffer. -/
structure At (b : Buf) : Prop where
  room : b.len + b.dataOffset + sizeofParam ≤ ioBufSize
  src : Holds b.buf 122 (ieeeOctets param.srcAddress)
  srcEndp : b.buf 130 = param.srcEndp
  clusterId : Holds b.buf 132 (shortOctets param.clusterId)
  mode : b.buf 134 = param.dst.mode
  dst : param.dst.At b.buf 122
  reqDstAddr : Holds b.buf 146 (shortOctets param.reqDstAddr)

/-- The head of the request. -/
def head : List UInt8 :=
  ieeeOctets param.srcAddress ++ [param.srcEndp] ++ shortOctets param.clusterId ++ [param.dst.mode]

/-- The request, behind its sequence number. -/
def body : List UInt8 := param.head ++ param.dst.octets

end Param

/-- The operation gets what the parameters say. -/
structure Carries (param : Param) (req : BindingReq) : Prop where
  srcAddr : req.srcAddr = param.srcAddress
  srcEndpoint : req.srcEndpoint = param.srcEndp.toNat
  clusterid : req.clusterid = param.clusterId.toNat
  addrMode : req.addrMode = param.dst.mode.toNat
  dst : param.dst.Given req

/-- The buffer is a packet with the payload, to be sent to the address. -/
structure SentTo (addr clusterid : UInt16) (payload : List UInt8) (b : Buf) : Prop where
  payload : b.payload = payload
  dataReq : Holds b.buf (ioBufSize - sizeofDataReq) (dataReqOctets addr clusterid)

/-- The address of the sender, in the indication at the end of a buffer. -/
def requester (b : Buf) : UInt16 := Octets.le16 b.buf (ioBufSize - sizeofIndication + 1)

/-- The request is decoded and answered: the operation gets the parameters, and the requester its
status, which no other status looks like. -/
structure Answered (bind : Bool) (stale : Stale) (tables : Tables) (param : Param) (tsn : UInt8)
    (b o : Buf) (tables' : Tables) : Prop where
  decoded : ∃ aps, decodeReq b = some aps ∧ Carries param (bindingReq aps)
  reported : ∃ status, (∀ req, Carries param req →
    operation bind stale tables req = (tables', status)) ∧
    (∀ other, zdpStatus other = zdpStatus status → other = status) ∧
    SentTo (requester b) (if bind then bindRespClid else unbindRespClid) [tsn, zdpStatus status] o

/-- The request is not looked at, and the requester is told so. -/
structure Declined (bind : Bool) (tables : Tables) (tsn : UInt8) (b o : Buf) (tables' : Tables) :
    Prop where
  tables : tables' = tables
  reported : SentTo (requester b) (if bind then bindRespClid else unbindRespClid)
    [tsn, zdpNotSupported] o

variable {param : Param} {b : Buf} {bind : Bool} {stale : Stale} {tables : Tables} {tsn : UInt8}

/-! ## Reading and copying -/

theorem holds_getBufTail {size : ℕ} (room : b.len + b.dataOffset + size ≤ ioBufSize) :
    b.getBufTail size = some ⟨ioBufSize - size, size⟩ :=
  if_pos room

/-- A copy behind an earlier one, of octets that the earlier one did not reach. -/
theorem memcpy_holds {a : Octets} {dst i : ℕ} {xs octets : List UInt8} (holds : Holds a i octets)
    (apart : i + octets.length ≤ dst ∨ dst + xs.length ≤ i) :
    memcpy (memcpy a dst xs) (dst + xs.length) (segment (memcpy a dst xs) i octets.length) =
      memcpy a dst (xs ++ octets) := by
  have kept : segment (memcpy a dst xs) i octets.length = octets := (holds_apart apart).mpr holds
  rw [kept, memcpy_memcpy]

theorem holds_payload {octets : List UInt8} (payload : b.payload = octets) :
    Holds b.buf b.dataOffset octets := by
  have length : b.len = octets.length := by rw [← payload, Buf.payload, segment_length]
  rwa [Holds, ← length]

/-! ## Sending -/

/-- The parameter goes to the end of the buffer, the sequence number before the payload. -/
theorem sendRespByShort_spec (commandId : UInt16) (tsn : UInt8) (addr : UInt16)
    (left : 1 ≤ b.dataOffset) (room : b.len + b.dataOffset + sizeofDataReq ≤ ioBufSize) :
    ∃ o, sendRespByShort commandId tsn addr b = some o ∧
      SentTo addr commandId (tsn :: b.payload) o := by
  have tail := holds_getBufTail room
  rw [sizeofDataReq, ioBufSize] at room
  have small : 1 + b.len < ioBufSize := by
    rw [ioBufSize]
    omega
  have stays : ∀ a : Octets, Buf.slideRight { b with buf := a } 1 = { b with buf := a } :=
    fun a => if_neg (Nat.not_lt.mpr left)
  have whole : (b.len + 1) % 2 ^ 8 = b.len + 1 := Nat.mod_eq_of_lt (by omega)
  refine ⟨⟨b.len + 1, b.dataOffset - 1, memcpy (memcpy b.buf (ioBufSize - sizeofDataReq)
    (dataReqOctets addr commandId)) (b.dataOffset - 1) [tsn]⟩, ?_, ?_, ?_⟩
  · rw [sendRespByShort, tail]
    simp only [Option.bind_eq_bind, Option.bind_some, Buf.smartAllocLeft, if_pos small, stays, whole]
  · have octet : b.dataOffset - 1 + 1 = b.dataOffset := Nat.sub_add_cancel left
    have first : segment (memcpy (memcpy b.buf (ioBufSize - sizeofDataReq)
        (dataReqOctets addr commandId)) (b.dataOffset - 1) [tsn]) (b.dataOffset - 1) 1 = [tsn] :=
      segment_memcpy _ [tsn]
    rw [Buf.payload, Nat.add_comm b.len, segment_add, octet, first,
      segment_memcpy_behind [tsn] (Nat.le_of_eq octet), segment_memcpy_before, Buf.payload]
    · rfl
    · rw [sizeofDataReq, ioBufSize]
      omega
  · refine (holds_apart (Or.inr ?_)).mpr (holds_memcpy _)
    rw [List.length_singleton, sizeofDataReq, ioBufSize]
    omega

/-! ## The request -/

theorem length_octets (dst : Destination) : dst.octets.length =
    match dst with
    | .group _ => 2
    | .long _ _ => 9 := by
  cases dst <;> rfl

theorem mode_group (addrShort : UInt16) : (Destination.group addrShort).mode = groupOctet := rfl

theorem mode_long (addrLong : IeeeAddr) (dstEndp : UInt8) :
    (Destination.long addrLong dstEndp).mode = longOctet := rfl

theorem long_ne_group : longOctet ≠ groupOctet := by decide

theorem length_head (param : Param) : param.head.length = sizeofHead := rfl

theorem head_gathered (at_ : param.At b) :
    let a := memcpy b.buf 68 (segment b.buf 122 8)
    let a := memcpy a 76 [a 130]
    let a := memcpy a 77 (segment a 132 2)
    memcpy a 79 [a 134] = memcpy b.buf 68 param.head := by
  obtain ⟨-, src, srcEndp, clusterId, mode, -, -⟩ := at_
  have one : memcpy b.buf 68 (segment b.buf 122 8) = memcpy b.buf 68 (ieeeOctets param.srcAddress) :=
    congrArg (memcpy b.buf 68) src
  have two : memcpy (memcpy b.buf 68 (ieeeOctets param.srcAddress)) 76
        [memcpy b.buf 68 (ieeeOctets param.srcAddress) 130] =
      memcpy b.buf 68 (ieeeOctets param.srcAddress ++ [param.srcEndp]) :=
    memcpy_holds (holds_singleton.mpr srcEndp) (Or.inr (Nat.le_of_ble_eq_true rfl))
  generalize same : ieeeOctets param.srcAddress ++ [param.srcEndp] = front at *
  have length : front.length = 9 := by
    rw [← same]
    rfl
  have three : memcpy (memcpy b.buf 68 front) 77 (segment (memcpy b.buf 68 front) 132 2) =
      memcpy b.buf 68 (front ++ shortOctets param.clusterId) := by
    rw [← memcpy_holds clusterId (Or.inr (by omega)), length]
    rfl
  have four : memcpy (memcpy b.buf 68 (front ++ shortOctets param.clusterId)) 79
        [memcpy b.buf 68 (front ++ shortOctets param.clusterId) 134] =
      memcpy b.buf 68 (front ++ shortOctets param.clusterId ++ [param.dst.mode]) := by
    have length' : (front ++ shortOctets param.clusterId).length = 11 := by
      rw [List.length_append, length]
      rfl
    rw [← memcpy_holds (holds_singleton.mpr mode) (Or.inr (by omega)), length']
    rfl
  dsimp only
  rw [one, two, three, four, Param.head, same]

theorem length_body (param : Param) :
    param.body.length = sizeofHead + param.dst.octets.length := by
  rw [Param.body, List.length_append, length_head]

/-- A gathered request is sent where the parameters say. -/
theorem body_sent (commandId : UInt16) (tsn : UInt8)
    (reqDstAddr : Holds b.buf 146 (shortOctets param.reqDstAddr)) :
    ∃ r, sendReqByShort commandId tsn (Octets.le16 (memcpy b.buf 68 param.body) 146)
        ⟨param.body.length, 68, memcpy b.buf 68 param.body⟩ = some r ∧
      SentTo param.reqDstAddr commandId ((tsn + 1) :: param.body) r := by
  have short : param.body.length ≤ 21 := by
    rw [length_body, length_octets, sizeofHead]
    cases param.dst with
    | group _ => exact Nat.le_of_ble_eq_true rfl
    | long _ _ => exact Nat.le_refl _
  have addr : Octets.le16 (memcpy b.buf 68 param.body) 146 = param.reqDstAddr :=
    holds_shortOctets ((holds_apart (Or.inr (by omega))).mpr reqDstAddr)
  have payload : (Buf.mk param.body.length 68 (memcpy b.buf 68 param.body)).payload = param.body :=
    segment_memcpy 68 param.body
  have room : param.body.length + 68 + sizeofDataReq ≤ ioBufSize := by
    rw [sizeofDataReq, ioBufSize]
    omega
  obtain ⟨r, done, sent⟩ := sendRespByShort_spec
    (b := ⟨param.body.length, 68, memcpy b.buf 68 param.body⟩) commandId (tsn + 1)
    param.reqDstAddr (Nat.le_of_ble_eq_true rfl) room
  rw [payload] at sent
  exact ⟨r, addr ▸ done, sent⟩

/-- The request is the head and the tail of the parameters, sent where they say. -/
theorem bindUnbindReq_spec (bind : Bool) (tsn : UInt8) (at_ : param.At b) :
    ∃ r, bindUnbindReq bind tsn b = some r ∧
      SentTo param.reqDstAddr (if bind then bindReqClid else unbindReqClid)
        ((tsn + 1) :: param.body) r := by
  have tail : b.getBufTail sizeofParam = some ⟨122, sizeofParam⟩ := holds_getBufTail at_.room
  have head : b.initialAlloc sizeofHead = some (⟨12, 68, b.buf⟩, ⟨68, 12⟩) := rfl
  have gathered := head_gathered at_
  obtain ⟨-, -, -, -, mode, dst, reqDstAddr⟩ := at_
  obtain ⟨r, done, sent⟩ := body_sent (if bind then bindReqClid else unbindReqClid) tsn reqDstAddr
  refine ⟨r, Eq.trans ?_ done, sent⟩
  have behind : 68 + param.head.length = 80 := rfl
  have mode' : memcpy b.buf 68 param.head 134 = param.dst.mode :=
    (memcpy_outside _ _ (Or.inr (by omega))).trans mode
  rw [bindUnbindReq, tail]
  simp only [Option.bind_eq_bind, Option.bind_some, head, Nat.reduceAdd] at gathered ⊢
  rw [gathered, mode', length_body, Param.body]
  cases same : param.dst with
  | group addrShort =>
    rw [same] at dst
    have right : (Buf.mk 12 68 (memcpy b.buf 68 param.head)).smartAllocRight 2 =
        some (⟨14, 68, memcpy b.buf 68 param.head⟩, ⟨80, 2⟩) := rfl
    have copied : memcpy (memcpy b.buf 68 param.head) 80
        (segment (memcpy b.buf 68 param.head) 136 2) =
        memcpy b.buf 68 (param.head ++ shortOctets addrShort) :=
      memcpy_holds dst (Or.inr (Nat.le_of_ble_eq_true rfl))
    rw [mode_group, if_pos rfl, right, Option.bind_some]
    dsimp only
    rw [copied]
    rfl
  | long addrLong dstEndp =>
    rw [same] at dst
    have right : (Buf.mk 12 68 (memcpy b.buf 68 param.head)).smartAllocRight 9 =
        some (⟨21, 68, memcpy b.buf 68 param.head⟩, ⟨80, 9⟩) := rfl
    have copied : memcpy (memcpy b.buf 68 param.head) 80
        (segment (memcpy b.buf 68 param.head) 136 8) =
        memcpy b.buf 68 (param.head ++ ieeeOctets addrLong) :=
      memcpy_holds dst.1 (Or.inr (Nat.le_of_ble_eq_true rfl))
    have copied' : memcpy (memcpy b.buf 68 (param.head ++ ieeeOctets addrLong)) 88
        [memcpy b.buf 68 (param.head ++ ieeeOctets addrLong) 144] =
        memcpy b.buf 68 (param.head ++ ieeeOctets addrLong ++ [dstEndp]) :=
      memcpy_holds (holds_singleton.mpr dst.2) (Or.inr (Nat.le_of_ble_eq_true rfl))
    rw [mode_long, if_neg long_ne_group, if_pos rfl, right, Option.bind_some]
    simp only [Nat.reduceAdd]
    rw [copied, copied', List.append_assoc]
    rfl

/-! ## The response -/

/-- The octets of a request, part by part. -/
theorem holds_body {a : Octets} {i : ℕ} (holds : Holds a i param.body) :
    Holds a i (ieeeOctets param.srcAddress) ∧ a (i + 8) = param.srcEndp ∧
      Holds a (i + 9) (shortOctets param.clusterId) ∧ a (i + 11) = param.dst.mode ∧
      Holds a (i + 12) param.dst.octets := by
  rw [Param.body, Param.head, holds_append, holds_append, holds_append, holds_append] at holds
  obtain ⟨⟨⟨⟨src, srcEndp⟩, clusterId⟩, mode⟩, dst⟩ := holds
  exact ⟨src, holds_singleton.mp srcEndp, clusterId, holds_singleton.mp mode, dst⟩

/-- The memory after the parameter of the operation was laid out at its end. -/
def Param.laid (param : Param) (a : Octets) : Octets :=
  let a := memcpy a 124 (ieeeOctets param.srcAddress)
  let a := memcpy a 132 [param.srcEndp]
  let a := memcpy a 134 (shortOctets param.clusterId)
  let a := memcpy a 136 [param.dst.mode]
  memcpy a 138 param.dst.octets

/-- The operation reads there what the parameters say. -/
theorem bindingReq_laid {len dataOffset : ℕ} (a : Octets) :
    Carries param (bindingReq ⟨len, dataOffset, param.laid a⟩) := by
  have src : Holds (param.laid a) 124 (ieeeOctets param.srcAddress) := by
    refine (holds_apart (Or.inl ?_)).mpr <| (holds_apart (Or.inl ?_)).mpr <|
      (holds_apart (Or.inl ?_)).mpr <| (holds_apart (Or.inl ?_)).mpr <| holds_memcpy _
    all_goals exact Nat.le_of_ble_eq_true rfl
  have srcEndp : Holds (param.laid a) 132 [param.srcEndp] := by
    refine (holds_apart (Or.inl ?_)).mpr <| (holds_apart (Or.inl ?_)).mpr <|
      (holds_apart (Or.inl ?_)).mpr <| holds_memcpy _
    all_goals exact Nat.le_of_ble_eq_true rfl
  have clusterId : Holds (param.laid a) 134 (shortOctets param.clusterId) := by
    refine (holds_apart (Or.inl ?_)).mpr <| (holds_apart (Or.inl ?_)).mpr <| holds_memcpy _
    all_goals exact Nat.le_of_ble_eq_true rfl
  have mode : Holds (param.laid a) 136 [param.dst.mode] :=
    (holds_apart (Or.inl (Nat.le_of_ble_eq_true rfl))).mpr (holds_memcpy _)
  have dst : Holds (param.laid a) 138 param.dst.octets := holds_memcpy _
  refine ⟨holds_ieeeOctets (holds_cut.mpr src), congrArg UInt8.toNat (holds_singleton.mp srcEndp),
    congrArg UInt16.toNat (holds_shortOctets (holds_cut.mpr clusterId)),
    congrArg UInt8.toNat (holds_singleton.mp mode), ?_⟩
  cases same : param.dst with
  | group addrShort =>
    rw [same] at dst
    exact congrArg UInt16.toNat (holds_shortOctets (holds_cut.mpr dst))
  | long addrLong dstEndp =>
    rw [same] at dst
    obtain ⟨long, endp⟩ := holds_append.mp dst
    exact ⟨holds_ieeeOctets (holds_cut.mpr long), congrArg UInt8.toNat (holds_singleton.mp endp)⟩

/-- The copies from a request that stands before them.  They leave it as it is, so each finds its
octets there. -/
theorem laid_gathered {a : Octets} {body : ℕ} (inside : body + param.body.length ≤ 124)
    (holds : Holds a body param.body) :
    let a1 := memcpy a 124 (segment a body 8)
    let a2 := memcpy a1 132 [a1 (body + 8)]
    let a3 := memcpy a2 134 (segment a2 (body + 9) 2)
    let a4 := memcpy a3 136 [a3 (body + 11)]
    a4 136 = param.dst.mode ∧ Holds a4 body param.body ∧
      memcpy a4 138 param.dst.octets = param.laid a := by
  intro a1 a2 a3 a4
  have kept : ∀ {a : Octets} {place : ℕ} {xs : List UInt8}, 124 ≤ place →
      Holds a body param.body → Holds (memcpy a place xs) body param.body :=
    fun behind holds => (holds_apart (Or.inl (Nat.le_trans inside behind))).mpr holds
  have h1 : Holds a1 body param.body := kept (by decide) holds
  have h2 : Holds a2 body param.body := kept (by decide) h1
  have h3 : Holds a3 body param.body := kept (by decide) h2
  have h4 : Holds a4 body param.body := kept (by decide) h3
  have e1 : a1 = memcpy a 124 (ieeeOctets param.srcAddress) :=
    congrArg (memcpy a 124) (holds_body holds).1
  have e2 : a2 = memcpy a1 132 [param.srcEndp] :=
    congrArg (fun octet => memcpy a1 132 [octet]) (holds_body h1).2.1
  have e3 : a3 = memcpy a2 134 (shortOctets param.clusterId) :=
    congrArg (memcpy a2 134) (holds_body h2).2.2.1
  have e4 : a4 = memcpy a3 136 [param.dst.mode] :=
    congrArg (fun octet => memcpy a3 136 [octet]) (holds_body h3).2.2.2.1
  refine ⟨?_, h4, ?_⟩
  · rw [e4]
    exact holds_singleton.mp (holds_memcpy _)
  · rw [Param.laid, e4, e3, e2, e1]

/-- The request is decoded to the parameter of the operation. -/
theorem decodeReq_spec (payload : b.payload = tsn :: param.body)
    (room : b.len + b.dataOffset + sizeofBindingReq ≤ ioBufSize) :
    ∃ aps, decodeReq b = some aps ∧ Carries param (bindingReq aps) := by
  refine ⟨⟨b.len, b.dataOffset, param.laid b.buf⟩, ?_, bindingReq_laid _⟩
  have tail : b.getBufTail sizeofBindingReq = some ⟨124, sizeofBindingReq⟩ := holds_getBufTail room
  have length : b.len = param.body.length + 1 := by
    rw [← List.length_cons, ← payload, Buf.payload, segment_length]
  have inside : b.dataOffset + 1 + param.body.length ≤ 124 := by
    rw [length, sizeofBindingReq, ioBufSize] at room
    omega
  have whole : Holds b.buf b.dataOffset ([tsn] ++ param.body) := holds_payload payload
  obtain ⟨mode, rest, laid⟩ := laid_gathered inside (holds_append.mp whole).2
  rw [decodeReq, tail]
  simp only [Option.bind_eq_bind, Option.bind_some, Nat.reduceAdd]
  rw [mode]
  generalize b.dataOffset + 1 = body at *
  generalize memcpy _ 136 _ = a4 at *
  have dst := (holds_body rest).2.2.2.2
  cases same : param.dst with
  | group addrShort =>
    rw [same] at dst laid
    have copied : segment a4 (body + 12) 2 = shortOctets addrShort := dst
    rw [mode_group, if_pos rfl, copied, ← laid]
    rfl
  | long addrLong dstEndp =>
    rw [same] at dst laid
    obtain ⟨long, endp⟩ := holds_append.mp dst
    have copied : segment a4 (body + 12) 8 = ieeeOctets addrLong := long
    have before : body + 20 < 138 := by
      rw [length_body, sizeofHead] at inside
      omega
    have kept : memcpy a4 138 (ieeeOctets addrLong) (body + 20) = dstEndp :=
      (memcpy_outside _ _ (Or.inl before)).trans (holds_singleton.mp endp)
    rw [mode_long, if_neg long_ne_group, if_pos rfl, copied, kept, ← laid]
    exact congrArg (fun a => some (Buf.mk b.len b.dataOffset a))
      (memcpy_memcpy a4 138 (ieeeOctets addrLong) [dstEndp])

/-- The status that a response reports. -/
def statusOf (octet : UInt8) : Option Status :=
  [Status.ok, .lookup .notFound, .lookup .overflow, .illegalRequest, .invalidBinding,
    .tableFull].find? fun status => zdpStatus status == octet

theorem statusOf_zdpStatus (status : Status) : statusOf (zdpStatus status) = some status := by
  cases status with
  | lookup e => cases e <;> rfl
  | _ => rfl

/-- No two statuses of an operation look the same in a response. -/
theorem zdpStatus_injective : Function.Injective zdpStatus := by
  intro status other same
  apply Option.some.inj
  rw [← statusOf_zdpStatus, same, statusOf_zdpStatus]

/-- Whatever is given along with the parameters, the operation ends the same. -/
theorem operation_carries {req req' : BindingReq} (carries : Carries param req)
    (carries' : Carries param req') :
    operation bind stale tables req = operation bind stale tables req' := by
  obtain ⟨src, endp, cluster, mode, dst⟩ := carries
  obtain ⟨src', endp', cluster', mode', dst'⟩ := carries'
  have looked : ∀ c, dstLookup c req stale.dst = dstLookup c req' stale.dst := by
    intro c
    rw [dstLookup, dstLookup, mode, mode']
    cases same : param.dst with
    | group addrShort =>
      rw [same] at dst dst'
      have short : req.dstAddrShort = req'.dstAddrShort := dst.trans dst'.symm
      have other : (Destination.group addrShort).mode.toNat ≠ longMode :=
        Nat.ne_of_beq_eq_false rfl
      rw [if_neg other, if_neg other, short]
    | long addrLong dstEndp =>
      rw [same] at dst dst'
      have long : (Destination.long addrLong dstEndp).mode.toNat = longMode := rfl
      rw [if_pos long, if_pos long, dst.1, dst'.1, dst.2, dst'.2]
  cases bind with
  | true =>
    change bindRequest tables req _ _ = bindRequest tables req' _ _
    simp only [bindRequest, src, src', endp, endp', cluster, cluster', looked]
  | false =>
    change unbindRequest tables req _ _ _ = unbindRequest tables req' _ _ _
    simp only [unbindRequest, src, src', endp, endp', cluster, cluster', looked]

/-- What is sent in answer: the sequence number and a status. -/
theorem answer_sent (commandId : UInt16) (tsn status : UInt8) (addr : UInt16) (b : Buf) :
    ∃ o, sendRespByShort commandId tsn addr ⟨1, 73, memcpy b.buf 73 [status]⟩ = some o ∧
      SentTo addr commandId [tsn, status] o := by
  have payload : (Buf.mk 1 73 (memcpy b.buf 73 [status])).payload = [status] :=
    segment_memcpy 73 [status]
  obtain ⟨o, done, sent⟩ := sendRespByShort_spec (b := ⟨1, 73, memcpy b.buf 73 [status]⟩) commandId
    tsn addr (Nat.le_of_ble_eq_true rfl) (Nat.le_of_ble_eq_true rfl)
  rw [payload] at sent
  exact ⟨o, done, sent⟩

theorem initialAlloc_status (b : Buf) :
    b.initialAlloc 1 = some (⟨1, 73, b.buf⟩, ⟨73, 1⟩) := rfl

section
variable (payload : b.payload = tsn :: param.body)
  (room : b.len + b.dataOffset + sizeofBindingReq ≤ ioBufSize)
include payload room

/-- What is read before the request. -/
theorem indication_read : b.getBufTail sizeofIndication = some ⟨134, sizeofIndication⟩ ∧
    b.buf b.dataOffset = tsn := by
  have whole : Holds b.buf b.dataOffset ([tsn] ++ param.body) := holds_payload payload
  refine ⟨holds_getBufTail ?_, holds_singleton.mp (holds_append.mp whole).1⟩
  rw [sizeofBindingReq] at room
  rw [sizeofIndication]
  omega

/-- A request that was received is decoded and answered. -/
theorem bindUnbindRes_answers (bind : Bool) (stale : Stale) (tables : Tables) :
    ∃ o tables', bindUnbindRes false bind stale tables b = some (o, tables') ∧
      Answered bind stale tables param tsn b o tables' := by
  obtain ⟨tail, first⟩ := indication_read payload room
  obtain ⟨aps, decoded, carries⟩ := decodeReq_spec payload room
  cases done : operation bind stale tables (bindingReq aps) with
  | mk tables' status =>
    obtain ⟨o, answered, sent⟩ := answer_sent (if bind then bindRespClid else unbindRespClid) tsn
      (zdpStatus status) (requester b) aps
    have same : ∀ req, Carries param req → operation bind stale tables req = (tables', status) :=
      fun req given => (operation_carries given carries).trans done
    refine ⟨o, tables', ?_, ⟨aps, decoded, carries⟩, status, same,
      fun other looks => zdpStatus_injective looks, sent⟩
    rw [bindUnbindRes, tail, first]
    simp only [Option.bind_eq_bind, Option.bind_some, Bool.false_eq_true, if_false, decoded, done,
      initialAlloc_status]
    exact congrArg (Option.bind · fun b => some (b, tables')) answered

/-- A build that does not process bind requests says so. -/
theorem bindUnbindRes_declines (bind : Bool) (stale : Stale) (tables : Tables) :
    ∃ o tables', bindUnbindRes true bind stale tables b = some (o, tables') ∧
      Declined bind tables tsn b o tables' := by
  obtain ⟨tail, first⟩ := indication_read payload room
  obtain ⟨o, answered, sent⟩ := answer_sent (if bind then bindRespClid else unbindRespClid) tsn
    zdpNotSupported (requester b) b
  refine ⟨o, tables, ?_, rfl, sent⟩
  rw [bindUnbindRes, tail, first]
  simp only [Option.bind_eq_bind, Option.bind_some, if_true, initialAlloc_status]
  exact congrArg (Option.bind · fun b => some (b, tables)) answered

end

/-! ## Over the wire -/

/-- A request built from the parameters says what they say, and wherever it is received the
operation gets just that and the requester its status; a build that does not process bind requests
tells the requester so. -/
theorem bind_request_survives (disableBindReq bind : Bool) (stale : Stale) (tables : Tables)
    (param : Param) (tsn : UInt8) (b : Buf) (at_ : param.At b) :
    ∃ r, bindUnbindReq bind tsn b = some r ∧
      SentTo param.reqDstAddr (if bind then bindReqClid else unbindReqClid)
        ((tsn + 1) :: param.body) r ∧
      ∀ b' : Buf, b'.payload = r.payload →
        b'.len + b'.dataOffset + sizeofBindingReq ≤ ioBufSize →
        ∃ o tables', bindUnbindRes disableBindReq bind stale tables b' = some (o, tables') ∧
          if disableBindReq then Declined bind tables (tsn + 1) b' o tables'
          else Answered bind stale tables param (tsn + 1) b' o tables' := by
  obtain ⟨r, built, sent⟩ := bindUnbindReq_spec bind tsn at_
  refine ⟨r, built, sent, fun b' received room => ?_⟩
  have payload : b'.payload = (tsn + 1) :: param.body := received.trans sent.payload
  cases disableBindReq with
  | true => exact bindUnbindRes_declines payload room bind stale tables
  | false => exact bindUnbindRes_answers payload room bind stale tables

/-- A switch bound to a lamp. -/
def switchParam : Param where
  srcAddress := ⟨⟨0xa2, 0x55, 0x01⟩, ⟨1, 2, 3, 4, 5⟩⟩
  srcEndp := 1
  clusterId := 6
  dst := .long ⟨⟨0xa2, 0x55, 0x01⟩, ⟨6, 7, 8, 9, 10⟩⟩ 8
  reqDstAddr := 0x1234

/-- An empty buffer with the parameters at its end. -/
def switchBuf : Buf where
  len := 0
  dataOffset := 0
  buf := memcpy (fun _ => 0) 122 [0xa2, 0x55, 0x01, 1, 2, 3, 4, 5, 1, 0, 6, 0, 3, 0,
    0xa2, 0x55, 0x01, 6, 7, 8, 9, 10, 8, 0, 0x34, 0x12]

theorem switchParam_at : switchParam.At switchBuf where
  room := by decide
  src := rfl
  srcEndp := rfl
  clusterId := rfl
  mode := rfl
  dst := ⟨rfl, rfl⟩
  reqDstAddr := rfl

/-- Empty tables. -/
def noTables : Tables := ⟨.zero, .zero⟩

def noStale : Stale := ⟨.zero, .zero, .zero⟩

theorem bind_request_survives_switch : ∃ r, bindUnbindReq true 7 switchBuf = some r ∧
    SentTo 0x1234 bindReqClid (8 :: switchParam.body) r ∧
    ∀ b' : Buf, b'.payload = r.payload →
      b'.len + b'.dataOffset + sizeofBindingReq ≤ ioBufSize →
      ∃ o tables', bindUnbindRes false true noStale noTables b' = some (o, tables') ∧
        Answered true noStale noTables switchParam 8 b' o tables' :=
  bind_request_survives false true noStale noTables switchParam 7 switchBuf switchParam_at

theorem zdpStatus_ne_notSupported (status : Status) : zdpStatus status ≠ zdpNotSupported := by
  cases status with
  | lookup e => cases e <;> decide
  | _ => decide

/-- As it is configured, the request of the switch gets no further than to the lamp. -/
theorem bind_requests_are_declined :
    ¬∀ (bind : Bool) (stale : Stale) (tables : Tables) (param : Param) (tsn : UInt8) (b : Buf),
      param.At b → ∃ r, bindUnbindReq bind tsn b = some r ∧
        ∀ b' : Buf, b'.payload = r.payload →
          b'.len + b'.dataOffset + sizeofBindingReq ≤ ioBufSize →
          ∃ o tables', bindUnbindRes configDisableBindReq bind stale tables b' = some (o, tables') ∧
            Answered bind stale tables param (tsn + 1) b' o tables' := by
  intro claim
  obtain ⟨r, built, answers⟩ := claim true noStale noTables switchParam 7 switchBuf switchParam_at
  have placed : (bindUnbindReq true 7 switchBuf).map (fun r => (r.len, r.dataOffset)) =
      some (22, 67) := rfl
  rw [built, Option.map_some, Option.some.injEq, Prod.mk.injEq] at placed
  have room : r.len + r.dataOffset + sizeofBindingReq ≤ ioBufSize := by
    rw [placed.1, placed.2]
    decide
  obtain ⟨r', built', sent⟩ := bindUnbindReq_spec true 7 switchParam_at
  cases built.symm.trans built'
  obtain ⟨o, tables', done, answered⟩ := answers r rfl room
  obtain ⟨o', tables'', done', declined⟩ := bindUnbindRes_declines sent.payload room true noStale
    noTables
  cases done.symm.trans done'
  obtain ⟨status, -, -, reported⟩ := answered.reported
  have same := reported.payload.symm.trans declined.reported.payload
  rw [List.cons.injEq, List.cons.injEq] at same
  exact zdpStatus_ne_notSupported status same.2.1

end Zboss.BindRequests
