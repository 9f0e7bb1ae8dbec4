import Zboss.Aps.AckData
import Zboss.Aps.BindingRuns
import Zboss.Common.AddressLookup

/-!
The destination of a data request.  A request without one takes it from the binding table, a
request with a 64-bit address from the address table; either way the network layer is given a
short address, and `0xffff` stands both for a device without one and for all devices.
-/

namespace Zboss.Aps

open Zboss.AddressTable Zboss.Binding
open Zboss.DynamicTables (BufRef)

def apsStatusNoBoundDevice : UInt8 := 0xa8

def apsStatusNoShortAddress : UInt8 := 0xa9

/-- `zb_apsde_data_req_t` of the application, with both readings of the destination. -/
structure DataRequest where
  addrMode : AddrMode
  dstAddrShort : UInt16
  dstAddrLong : IeeeAddr
  clusterid : UInt16
  profileid : UInt16
  srcEndpoint : UInt8
  dstEndpoint : UInt8
  ackTx : Bool
  securityEnabled : Bool
  deriving DecidableEq

/-- The request with the address to send to. -/
def DataRequest.resolved (req : DataRequest) (dstAddr : UInt16) (bound : Bool) : ApsdeDataReq where
  addrMode := req.addrMode
  dstAddr := dstAddr
  bound := bound
  clusterid := req.clusterid
  profileid := req.profileid
  srcEndpoint := req.srcEndpoint
  dstEndpoint := req.dstEndpoint
  ackTx := req.ackTx
  securityEnabled := req.securityEnabled

/-- What a request comes to: it is sent, it waits for the short address of a device, or it is
confirmed with what its buffer has for a status. -/
inductive Destination
  | sends (req : ApsdeDataReq)
  | waits (ref : ℕ)
  | confirms (status : UInt8)
  deriving DecidableEq, Repr

/-! ## The binding table -/

/-- The destination record at which the search for a source index stops. -/
def firstDst (t : BindingTable) (indSrc : ℕ) : Option ℕ :=
  (List.range (max 1 t.dstNElements)).find? fun i => (t.dstTable i).srcTableIndex = indSrc

/-- The source record for a request of the device with this reference. -/
def DataRequest.bindSrc (req : DataRequest) (addrRef : ℕ) : BindSrc :=
  ⟨addrRef, req.srcEndpoint.toNat, req.clusterid.toNat⟩

/-- `zb_search_dst_in_binding_table`: the reference and the endpoint. -/
def searchDstInBindingTable (tables : Tables) (shortAddress : UInt16) (req : DataRequest) :
    Tables × Option (ℕ × ℕ) :=
  match addressByShort tables.addr shortAddress.toNat false false with
  | (c, .error _) => (⟨c, tables.binding⟩, none)
  | (c, .ok addrRef) =>
    let t := tables.binding
    let indSrc := findSrcRef t (req.bindSrc addrRef)
    (⟨c, t⟩,
      if indSrc = 0xff then none
      else match firstDst t indSrc with
        | none => none
        | some i =>
          match (t.dstTable i).addr with
          | .long dstAddr dstEnd => some (dstAddr, dstEnd)
          | .group _ => none)

/-- A request for a device in the binding table. -/
def DataRequest.toBound (req : DataRequest) (c : AddrGlobals) (dstRef dstEnd : ℕ) : Destination :=
  let dstAddr := (addressShortByRef c dstRef).toUInt16
  if dstAddr = unknownShortAddr then .waits dstRef
  else .sends { req.resolved dstAddr true with dstEndpoint := dstEnd.toUInt8 }

/-- The switch of `zb_apsde_data_request` over the address modes.  `status` is the one of the
buffer, and for a strange mode the address is `stray`. -/
def resolve (tables : Tables) (shortAddress : UInt16) (req : DataRequest) (status : UInt8)
    (junk : IeeeAddrCompressed) (stray : UInt16) : Tables × Destination :=
  match req.addrMode with
  | .dstAddrEndpNotPresent =>
    match searchDstInBindingTable tables shortAddress req with
    | (tables, some (dstRef, dstEnd)) => (tables, req.toBound tables.addr dstRef dstEnd)
    | (tables, none) => (tables, .confirms status)
  | .endpPresent64 =>
    match addressShortByIeee tables.addr req.dstAddrLong junk with
    | (c, dstAddr) => (⟨c, tables.binding⟩, .sends (req.resolved dstAddr.toUInt16 false))
  | .groupEndpNotPresent16 | .endpPresent16 =>
    (tables, .sends (req.resolved req.dstAddrShort false))
  | .strange => (tables, .sends (req.resolved stray false))

/-! ## The request -/

/-- The layer, the tables it sends by, the device's addresses, and the request that waits for an
answer of the peer (`get_short_addr_ctx`). -/
structure Node where
  layer : Layer
  tables : Tables
  shortAddress : UInt16
  extendedAddress : IeeeAddr
  waiting : Option (ℕ × BufRef)

/-- The request as `Layer.apsdeDataRequest` takes it. -/
def Destination.request (req : DataRequest) : Destination → ApsdeDataReq
  | .sends r => r
  | .waits _ => req.resolved unknownShortAddr true
  | .confirms _ => req.resolved unknownShortAddr false

/-- What becomes of the request in this state. -/
def Node.resolve (n : Node) (param : BufRef) (req : DataRequest) (junk : IeeeAddrCompressed)
    (stray : UInt16) : Tables × Destination :=
  Aps.resolve n.tables n.shortAddress req (n.layer.status param) junk stray

def Node.apsdeDataRequest (n : Node) (param : BufRef) (req : DataRequest)
    (junk : IeeeAddrCompressed) (stray : UInt16) (callbackOk alarmOk : Bool) : Node :=
  let result := n.resolve param req junk stray
  { n with
    layer := n.layer.apsdeDataRequest param (result.2.request req) callbackOk alarmOk
    tables := result.1
    waiting := match result.2 with
      | .waits ref => some (ref, param)
      | _ => n.waiting }

/-! ## What the layer does -/

namespace Layer

variable {w : Layer} {param : BufRef} {r : ApsdeDataReq} {callbackOk : Bool}

/-- A request for an address in a buffer that goes to the network layer, if there is room. -/
theorem fillNldereq_toNwk_iff {v : Layer} (same : v.nwk = w.nwk) (dstAddr : UInt16)
    (secure : Bool) :
    let w' := (v.fillNldereq param dstAddr secure).toNwk param callbackOk
    (w'.nwk = param :: w.nwk ∧ (w'.nldeReq param).dstAddr = dstAddr) ↔ callbackOk = true := by
  have request : ((v.fillNldereq param dstAddr secure).nldeReq param).dstAddr = dstAddr := by
    simp [fillNldereq]
  have before : (v.fillNldereq param dstAddr secure).nwk = w.nwk := same
  generalize v.fillNldereq param dstAddr secure = v' at *
  cases callbackOk <;> simp [toNwk, before, request]

/-- The request is taken to the last entry, which is reported as a full table. -/
def Refuses (w : Layer) (r : ApsdeDataReq) : Prop :=
  r.wantsAck = true ∧ w.firstFree = some (nApsRetransEntries - 1)

instance (w : Layer) (r : ApsdeDataReq) : Decidable (w.Refuses r) :=
  inferInstanceAs (Decidable (_ ∧ _))

/-- When a request is given to the network layer, and for which address. -/
theorem sendData_nwk_iff (w : Layer) (param : BufRef) (r : ApsdeDataReq)
    (callbackOk alarmOk : Bool) :
    let w' := w.sendData param r callbackOk alarmOk
    (w'.nwk = param :: w.nwk ∧ (w'.nldeReq param).dstAddr = r.nldeAddr) ↔
      callbackOk = true ∧ ¬ w.Refuses r := by
  have free : ({ w with
      fc := Function.update w.fc param (r.frameControl (r.securityEnabled && !w.secureAllFrames))
      apsCounter := w.apsCounter + 1 } : Layer).firstFree = w.firstFree := rfl
  unfold Refuses sendData
  dsimp only
  by_cases wants : r.wantsAck = true
  · rw [if_pos wants]
    simp only [wants, true_and]
    unfold saveAckData
    rw [free]
    cases w.firstFree with
    | none =>
      dsimp only
      rw [if_neg (not_not.mpr rfl)]
      exact (fillNldereq_toNwk_iff rfl r.nldeAddr _).trans
        ⟨fun room => ⟨room, nofun⟩, fun room => room.1⟩
    | some i =>
      by_cases last : i = nApsRetransEntries - 1
      · have full : apsStatusTableFull ≠ retOk := by decide
        simp only [last, reduceIte, if_pos full]
        exact iff_of_false (fun sent => List.cons_ne_self param w.nwk sent.1.symm)
          fun taken => taken.2 trivial
      · simp only [if_neg last, ne_eq, not_true_eq_false, reduceIte, Option.some_inj]
        exact (fillNldereq_toNwk_iff rfl r.nldeAddr _).trans
          ⟨fun room => ⟨room, last⟩, fun room => room.1⟩
  · rw [if_neg wants]
    exact (fillNldereq_toNwk_iff rfl r.nldeAddr _).trans
      ⟨fun room => ⟨room, fun refuses => wants refuses.1⟩, fun room => room.1⟩

theorem saveAckData_released (w : Layer) (param : BufRef) (r : ApsdeDataReq) :
    (w.saveAckData param r).1.released = w.released ∧
      ((w.saveAckData param r).2.1 = retOk ∨ (w.saveAckData param r).2.1 = apsStatusTableFull) := by
  unfold saveAckData
  split
  · refine ⟨rfl, ?_⟩
    dsimp only
    split
    · exact Or.inr rfl
    · exact Or.inl rfl
  · exact ⟨rfl, Or.inl rfl⟩

/-- A request for a destination it can send to is confirmed for a full table only. -/
theorem sendData_released (w : Layer) (param : BufRef) (r : ApsdeDataReq)
    (callbackOk alarmOk : Bool) :
    let w' := w.sendData param r callbackOk alarmOk
    w'.released = w.released ∨ w'.status param = apsStatusTableFull := by
  unfold sendData
  dsimp only
  split
  · generalize kept : ({ w with
      fc := Function.update w.fc param (r.frameControl (r.securityEnabled && !w.secureAllFrames))
      apsCounter := w.apsCounter + 1 } : Layer) = v
    have before : v.released = w.released := by rw [← kept]
    obtain ⟨released, status⟩ := v.saveAckData_released param r
    generalize v.saveAckData param r = result at *
    obtain ⟨w', ret, ref⟩ := result
    dsimp only at released status ⊢
    split
    · rename_i failed
      right
      have full := status.resolve_left failed
      rw [full]
      exact Function.update_self ..
    · exact Or.inl (released.trans before)
  · exact Or.inl rfl

/-- A request that finds nothing bound is confirmed, if there is room, as it is. -/
theorem apsdeDataRequest_unbound (w : Layer) (param : BufRef)
    (mode : r.addrMode = .dstAddrEndpNotPresent) (bound : r.bound = false)
    (callbackOk alarmOk : Bool) :
    let w' := w.apsdeDataRequest param r callbackOk alarmOk
    w'.status = w.status ∧
      ((∃ request held, w'.released = ⟨param, request, .confirmed, held⟩ :: w.released) ↔
        callbackOk = true) := by
  unfold apsdeDataRequest
  rw [if_pos ⟨mode, bound⟩]
  refine ⟨?_, ?_⟩
  · split <;> rfl
  · split <;> cases callbackOk <;> simp [confirmUp, release]

/-- A request for a device with a short address is sent to it. -/
theorem apsdeDataRequest_bound (w : Layer) (param : BufRef) (bound : r.bound = true)
    (short : r.dstAddr ≠ unknownShortAddr) (callbackOk alarmOk : Bool) :
    w.apsdeDataRequest param r callbackOk alarmOk = w.sendData param r callbackOk alarmOk := by
  unfold apsdeDataRequest
  rw [if_neg fun unbound => by simp [bound] at unbound, if_neg fun unknown => short unknown.2]

end Layer

/-! ## Requests without a destination -/

/-- The first of `bound` places that has the property. -/
def IsFirst (p : ℕ → Prop) (bound i : ℕ) : Prop := p i ∧ i < bound ∧ ∀ j < i, ¬ p j

theorem IsFirst.eq {p : ℕ → Prop} {bound i j : ℕ} (first : IsFirst p bound i)
    (first' : IsFirst p bound j) : i = j := by
  rcases Nat.lt_trichotomy i j with before | same | behind
  · exact absurd first.1 (first'.2.2 i before)
  · exact same
  · exact absurd first'.1 (first.2.2 j behind)

theorem find?_range_eq_some {p : ℕ → Prop} [DecidablePred p] {bound i : ℕ} :
    ((List.range bound).find? fun j => p j) = some i ↔ IsFirst p bound i := by
  rw [List.find?_range_eq_some]
  simp only [decide_eq_true_eq, Bool.not_eq_true', decide_eq_false_iff_not, List.mem_range, IsFirst]

namespace Node

variable (n : Node) (req : DataRequest)

/-- The destination is a device and an endpoint bound to the source of the request. -/
def BoundTo (destination : Destination) : Prop :=
  ∃ s < n.tables.binding.srcNElements,
    srcName n.tables.addr (n.tables.binding.srcTable s) =
        ⟨n.extendedAddress, req.srcEndpoint.toNat, req.clusterid.toNat⟩ ∧
      ∃ d < n.tables.binding.dstNElements, ∃ dstRef dstEnd,
        n.tables.binding.dstTable d = ⟨.long dstRef dstEnd, s⟩ ∧
          destination = req.toBound n.tables.addr dstRef dstEnd

/-- The destination record the searches end at: the first one of the first source record for the
entry of the own short address, record 0 of an empty table included. -/
def StopsAt (i : ℕ) : Prop :=
  ∃ addrRef s, shortSearch n.tables.addr n.shortAddress.toNat = some addrRef ∧ s ≠ 0xff ∧
    IsFirst (fun l => n.tables.binding.srcTable l = req.bindSrc addrRef)
      (max 1 n.tables.binding.srcNElements) s ∧
    IsFirst (fun l => (n.tables.binding.dstTable l).srcTableIndex = s)
      (max 1 n.tables.binding.dstNElements) i

variable {n req}

theorem StopsAt.eq {i j : ℕ} (stops : n.StopsAt req i) (stops' : n.StopsAt req j) : i = j := by
  obtain ⟨addrRef, s, found, -, src, dst⟩ := stops
  obtain ⟨addrRef', s', found', -, src', dst'⟩ := stops'
  cases found.symm.trans found'
  cases src.eq src'
  exact dst.eq dst'

theorem addressByShort_eq (c : AddrGlobals) (shortAddress : ℕ) :
    addressByShort c shortAddress false false =
      match shortSearch c shortAddress with
      | some ref => (touch c ref, .ok ref)
      | none => (c, .error .notFound) := by
  unfold addressByShort
  cases shortSearch c shortAddress <;> rfl

theorem findSrcRef_eq {t : BindingTable} {src : BindSrc} {s : ℕ} (found : s ≠ 0xff) :
    findSrcRef t src = s ↔ IsFirst (fun l => t.srcTable l = src) (max 1 t.srcNElements) s := by
  rw [← find?_range_eq_some, findSrcRef]
  cases (List.range (max 1 t.srcNElements)).find? fun l => decide (t.srcTable l = src) with
  | none => simpa using found.symm
  | some l => simp

theorem searchDst_eq_some {dstRef dstEnd : ℕ} :
    (searchDstInBindingTable n.tables n.shortAddress req).2 = some (dstRef, dstEnd) ↔
      ∃ i, n.StopsAt req i ∧ (n.tables.binding.dstTable i).addr = .long dstRef dstEnd := by
  rw [searchDstInBindingTable, addressByShort_eq]
  cases found : shortSearch n.tables.addr n.shortAddress.toNat with
  | none =>
    simp [StopsAt, found]
  | some addrRef =>
    dsimp only
    constructor
    · intro hit
      split at hit
      · cases hit
      · rename_i differs
        cases stops : firstDst n.tables.binding
            (findSrcRef n.tables.binding (req.bindSrc addrRef)) with
        | none =>
          rw [stops] at hit
          cases hit
        | some i =>
          rw [stops] at hit
          dsimp only at hit
          cases addr : (n.tables.binding.dstTable i).addr with
          | group groupAddr =>
            rw [addr] at hit
            cases hit
          | long dstAddr dstEnd' =>
            rw [addr] at hit
            cases hit
            exact ⟨i, ⟨addrRef, _, found, differs, (findSrcRef_eq differs).mp rfl,
              find?_range_eq_some.mp stops⟩, addr⟩
    · rintro ⟨i, ⟨addrRef', s, found', differs, src, dst⟩, addr⟩
      cases found.symm.trans found'
      have stops : firstDst n.tables.binding s = some i := find?_range_eq_some.mpr dst
      rw [(findSrcRef_eq differs).mpr src, if_neg differs, stops]
      dsimp only
      rw [addr]

theorem searchDst_eq_none :
    (searchDstInBindingTable n.tables n.shortAddress req).2 = none ↔
      ∀ i, n.StopsAt req i →
        ∃ groupAddr, (n.tables.binding.dstTable i).addr = .group groupAddr := by
  rw [Option.eq_none_iff_forall_ne_some]
  constructor
  · intro missing i stops
    cases addr : (n.tables.binding.dstTable i).addr with
    | group groupAddr => exact ⟨groupAddr, rfl⟩
    | long dstRef dstEnd =>
      exact absurd (searchDst_eq_some.mpr ⟨i, stops, addr⟩) (missing (dstRef, dstEnd))
  · rintro groups ⟨dstRef, dstEnd⟩ hit
    obtain ⟨i, stops, addr⟩ := searchDst_eq_some.mp hit
    obtain ⟨groupAddr, group⟩ := groups i stops
    cases addr.symm.trans group

theorem searchDst_shortByRef (tables : Tables) (shortAddress : UInt16) (req : DataRequest)
    (ref : ℕ) :
    addressShortByRef (searchDstInBindingTable tables shortAddress req).1.addr ref =
      addressShortByRef tables.addr ref := by
  rw [searchDstInBindingTable, addressByShort_eq]
  cases shortSearch tables.addr shortAddress.toNat with
  | none => rfl
  | some found =>
    show addressShortByRef (touch tables.addr found) ref = _
    by_cases here : ref = found
    · simp [addressShortByRef, touch, here]
    · simp [addressShortByRef, touch, here]

/-- A request without a destination is for what the search finds. -/
theorem resolve_notPresent (mode : req.addrMode = .dstAddrEndpNotPresent) (param : BufRef)
    (junk : IeeeAddrCompressed) (stray : UInt16) :
    (n.resolve param req junk stray).2 =
      match (searchDstInBindingTable n.tables n.shortAddress req).2 with
      | some dst => req.toBound n.tables.addr dst.1 dst.2
      | none => .confirms (n.layer.status param) := by
  rw [Node.resolve, Aps.resolve, mode]
  dsimp only
  have same := searchDst_shortByRef n.tables n.shortAddress req
  generalize searchDstInBindingTable n.tables n.shortAddress req = found at *
  obtain ⟨tables, _ | ⟨dstRef, dstEnd⟩⟩ := found
  · rfl
  · simp only [DataRequest.toBound, same]

/-- The request goes to a device and endpoint bound to its source, or waits for the short
address of that device; it is confirmed with `NO_BOUND_DEVICE` if none is bound. -/
structure Delivers (n : Node) (param : BufRef) (req : DataRequest) (junk : IeeeAddrCompressed)
    (stray : UInt16) (callbackOk alarmOk : Bool) : Prop where
  bound : (∃ destination, n.BoundTo req destination) →
    let destination := (n.resolve param req junk stray).2
    let n' := n.apsdeDataRequest param req junk stray callbackOk alarmOk
    n.BoundTo req destination ∧ ∀ r, destination = .sends r →
      n'.layer.nwk = param :: n.layer.nwk ∧ (n'.layer.nldeReq param).dstAddr = r.dstAddr
  unbound : (¬ ∃ destination, n.BoundTo req destination) →
    let n' := n.apsdeDataRequest param req junk stray callbackOk alarmOk
    n'.layer.status param = apsStatusNoBoundDevice ∧
      ∃ request held, n'.layer.released = ⟨param, request, .confirmed, held⟩ :: n.layer.released

/-- The layer takes a request for this destination. -/
def Accepts (n : Node) (destination : Destination) (callbackOk : Bool) : Prop :=
  ∀ r, destination = .sends r → callbackOk = true ∧ ¬ n.layer.Refuses r

theorem toBound_eq_sends {c : AddrGlobals} {dstRef dstEnd : ℕ} {r : ApsdeDataReq}
    (sends : req.toBound c dstRef dstEnd = .sends r) :
    r.addrMode = req.addrMode ∧ r.bound = true ∧ r.dstAddr ≠ unknownShortAddr := by
  rw [DataRequest.toBound] at sends
  split at sends
  · cases sends
  · rename_i short
    cases sends
    exact ⟨rfl, rfl, short⟩

theorem toBound_ne_confirms {c : AddrGlobals} {dstRef dstEnd : ℕ} {status : UInt8} :
    req.toBound c dstRef dstEnd ≠ .confirms status := by
  rw [DataRequest.toBound]
  split <;> simp

theorem apsdeDataRequest_layer (param : BufRef) (junk : IeeeAddrCompressed) (stray : UInt16)
    (callbackOk alarmOk : Bool) :
    (n.apsdeDataRequest param req junk stray callbackOk alarmOk).layer =
      n.layer.apsdeDataRequest param ((n.resolve param req junk stray).2.request req)
        callbackOk alarmOk := rfl

section

variable {param : BufRef} {junk : IeeeAddrCompressed} {stray : UInt16} {dstRef dstEnd : ℕ}

/-- A request that has found a device is given to the network layer if the layer takes it. -/
theorem sends_iff (mode : req.addrMode = .dstAddrEndpNotPresent)
    (found : (n.resolve param req junk stray).2 = req.toBound n.tables.addr dstRef dstEnd)
    (callbackOk alarmOk : Bool) :
    let n' := n.apsdeDataRequest param req junk stray callbackOk alarmOk
    (∀ r, req.toBound n.tables.addr dstRef dstEnd = .sends r →
        n'.layer.nwk = param :: n.layer.nwk ∧ (n'.layer.nldeReq param).dstAddr = r.dstAddr) ↔
      n.Accepts (req.toBound n.tables.addr dstRef dstEnd) callbackOk := by
  intro n'
  refine forall_congr' fun r => forall_congr' fun sends => ?_
  obtain ⟨same, bound, short⟩ := toBound_eq_sends sends
  have layer : n'.layer = n.layer.sendData param r callbackOk alarmOk := by
    rw [apsdeDataRequest_layer, found, sends]
    exact n.layer.apsdeDataRequest_bound param bound short callbackOk alarmOk
  have addr : r.nldeAddr = r.dstAddr := by simp [ApsdeDataReq.nldeAddr, same, mode]
  rw [layer, ← addr]
  exact n.layer.sendData_nwk_iff param r callbackOk alarmOk

/-- A request that has found a device is not confirmed with `NO_BOUND_DEVICE`. -/
theorem not_confirmed (mode : req.addrMode = .dstAddrEndpNotPresent)
    (found : (n.resolve param req junk stray).2 = req.toBound n.tables.addr dstRef dstEnd)
    (callbackOk alarmOk : Bool) :
    let n' := n.apsdeDataRequest param req junk stray callbackOk alarmOk
    n'.layer.status param = apsStatusNoBoundDevice → n'.layer.released = n.layer.released := by
  intro n' status
  have layer : n'.layer = n.layer.apsdeDataRequest param
      ((req.toBound n.tables.addr dstRef dstEnd).request req) callbackOk alarmOk := by
    rw [← found]
    rfl
  cases target : req.toBound n.tables.addr dstRef dstEnd with
  | sends r =>
    obtain ⟨-, bound, short⟩ := toBound_eq_sends target
    rw [target] at layer
    rw [layer] at status ⊢
    unfold Destination.request at status ⊢
    rw [n.layer.apsdeDataRequest_bound param bound short] at status ⊢
    rcases n.layer.sendData_released param r callbackOk alarmOk with kept | full
    · exact kept
    · exact absurd (status.symm.trans full) (by decide)
  | waits ref =>
    rw [layer, target]
    unfold Destination.request Layer.apsdeDataRequest
    rw [if_neg fun unbound => by simp [DataRequest.resolved] at unbound, if_pos ⟨mode, rfl⟩]
  | confirms status' => exact absurd target toBound_ne_confirms

end

end Node

open Node

/-- **When bound data goes where it is bound.** -/
theorem bound_data_delivered_iff (n : Node) (param : BufRef) (req : DataRequest)
    (mode : req.addrMode = .dstAddrEndpNotPresent) (junk : IeeeAddrCompressed) (stray : UInt16)
    (callbackOk alarmOk : Bool) :
    n.Delivers param req junk stray callbackOk alarmOk ↔
      (∃ i dstRef dstEnd, n.StopsAt req i ∧
        (n.tables.binding.dstTable i).addr = .long dstRef dstEnd ∧
        n.BoundTo req (req.toBound n.tables.addr dstRef dstEnd) ∧
        n.Accepts (req.toBound n.tables.addr dstRef dstEnd) callbackOk) ∨
      ((¬ ∃ destination, n.BoundTo req destination) ∧
        (∀ i, n.StopsAt req i → ∃ groupAddr,
          (n.tables.binding.dstTable i).addr = .group groupAddr) ∧
        n.layer.status param = apsStatusNoBoundDevice ∧ callbackOk = true) := by
  have resolved := n.resolve_notPresent mode param junk stray
  cases hit : (searchDstInBindingTable n.tables n.shortAddress req).2 with
  | none =>
    have groups := searchDst_eq_none.mp hit
    rw [hit] at resolved
    dsimp only at resolved
    have layer := n.layer.apsdeDataRequest_unbound param
      (r := req.resolved unknownShortAddr false) mode rfl callbackOk alarmOk
    constructor
    · intro delivers
      by_cases some_ : ∃ destination, n.BoundTo req destination
      · obtain ⟨_, _, _, _, _, _, _, _, bound⟩ := (delivers.bound some_).1
        rw [resolved] at bound
        exact absurd bound.symm toBound_ne_confirms
      · obtain ⟨status, confirmed⟩ := delivers.unbound some_
        rw [apsdeDataRequest_layer, resolved] at status confirmed
        exact Or.inr ⟨some_, groups, (congrFun layer.1 param).symm.trans status,
          layer.2.mp confirmed⟩
    · rintro (⟨i, dstRef, dstEnd, stops, long, -⟩ | ⟨none_, -, status, room⟩)
      · obtain ⟨groupAddr, group⟩ := groups i stops
        cases long.symm.trans group
      · refine ⟨fun some_ => absurd some_ none_, fun _ => ?_⟩
        dsimp only
        rw [apsdeDataRequest_layer, resolved]
        exact ⟨(congrFun layer.1 param).trans status, layer.2.mpr room⟩
  | some dst =>
    obtain ⟨dstRef, dstEnd⟩ := dst
    obtain ⟨i, stops, long⟩ := searchDst_eq_some.mp hit
    rw [hit] at resolved
    dsimp only at resolved
    have sent := sends_iff mode resolved callbackOk alarmOk
    constructor
    · intro delivers
      by_cases some_ : ∃ destination, n.BoundTo req destination
      · obtain ⟨bound, handed⟩ := delivers.bound some_
        rw [resolved] at bound handed
        exact Or.inl ⟨i, dstRef, dstEnd, stops, long, bound, sent.mp handed⟩
      · obtain ⟨status, request, held, confirmed⟩ := delivers.unbound some_
        rw [not_confirmed mode resolved callbackOk alarmOk status] at confirmed
        exact absurd confirmed (List.cons_ne_self _ _).symm
    · rintro (⟨i', dstRef', dstEnd', stops', long', bound, accepts⟩ | ⟨-, groups, -⟩)
      · cases stops.eq stops'
        cases long.symm.trans long'
        refine ⟨fun _ => ?_, fun none_ => absurd ⟨_, bound⟩ none_⟩
        dsimp only
        rw [resolved]
        exact ⟨bound, sent.mpr accepts⟩
      · obtain ⟨groupAddr, group⟩ := groups i stops
        cases long.symm.trans group

/-- Device 1, with the short address 1, after some requests to bind. -/
def boundNode (ops : List Binding.Op) : Node where
  layer := Layer.init 0 false
  tables := (Run.run Binding.step
    (start (addressUpdate .zero (device 1) 1 false .zero).1) ops).tables
  shortAddress := 1
  extendedAddress := device 1
  waiting := none

/-- A request of endpoint 1 for cluster 6. -/
def boundRequest : DataRequest where
  addrMode := .dstAddrEndpNotPresent
  dstAddrShort := 0
  dstAddrLong := .zero
  clusterid := 6
  profileid := 0x0104
  srcEndpoint := 1
  dstEndpoint := 0
  ackTx := true
  securityEnabled := false

/-- Bound to one device, the request waits for its short address. -/
theorem bound_data_delivered_iff_oneDevice :
    (boundNode [.bind (Binding.toDevice 2) .zero .zero]).Delivers 5 boundRequest .zero 0
      true true :=
  (bound_data_delivered_iff _ 5 boundRequest rfl .zero 0 true true).mpr <| Or.inl
    ⟨0, 76, 1, ⟨75, 0, by decide +kernel, by decide, ⟨by decide +kernel, by decide, by simp⟩,
      by decide +kernel, by decide, by simp⟩, by decide +kernel,
      ⟨0, by decide, by decide +kernel, 0, by decide, 76, 1, by decide +kernel, rfl⟩,
      fun _ _ => ⟨rfl, fun refuses => absurd refuses.2 (by decide)⟩⟩

/-- Bound to a group first and to a device then, it is confirmed, and with `RET_OK`. -/
theorem bound_device_behind_group :
    ¬ (boundNode [.bind (toGroup 7) .zero .zero, .bind (Binding.toDevice 2) .zero .zero]).Delivers
      5 boundRequest .zero 0 true true := by
  intro delivers
  have bound := (delivers.bound ⟨_, 0, by decide, by decide +kernel, 1, by decide, 76, 1,
    by decide +kernel, rfl⟩).1
  obtain ⟨_, _, _, _, _, _, _, _, confirmed⟩ := bound
  exact toBound_ne_confirms confirmed.symm

/-! ## Requests by 64-bit address -/

/-- The compressed form of an address whose manufacturer has a slot. -/
def storedForm (c : AddrGlobals) (ieee : IeeeAddr) : Option IeeeAddrCompressed :=
  if Stored c ieee.devManufacturer then
    (manufacturerSlot c ieee.devManufacturer).map fun slot => ⟨slot, ieee.deviceId⟩
  else none

/-- The entry is that of the device, by its compressed address. -/
structure HoldsDevice (c : AddrGlobals) (ieee : IeeeAddr) (ref : ℕ) : Prop where
  known : Known c ref
  form : storedForm c ieee = some (c.addrMap ref).ieeeAddr

/-- The short address of an entry as it is passed on. -/
def shortOf (c : AddrGlobals) (ref : ℕ) : UInt16 := (addressShortByRef c ref).toUInt16

/-- The frame is for the short address of that very device, and without one the request is
confirmed with `NO_SHORT_ADDRESS`. -/
structure Unicasts (n : Node) (param : BufRef) (req : DataRequest) (junk : IeeeAddrCompressed)
    (stray : UInt16) : Prop where
  sent : ∀ r, (n.resolve param req junk stray).2 = .sends r → ∃ ref,
    HoldsDevice n.tables.addr req.dstAddrLong ref ∧ shortOf n.tables.addr ref = r.nldeAddr ∧
      r.nldeAddr ≠ unknownShortAddr
  unknown : (¬ ∃ ref, HoldsDevice n.tables.addr req.dstAddrLong ref ∧
      shortOf n.tables.addr ref ≠ unknownShortAddr) →
    (n.resolve param req junk stray).2 = .confirms apsStatusNoShortAddress

theorem storedForm_eq_some {c : AddrGlobals} {ieee : IeeeAddr} {z : IeeeAddrCompressed}
    (form : storedForm c ieee = some z) (junk : IeeeAddrCompressed) :
    (ieeeAddrCompress c ieee junk).2 = z := by
  unfold storedForm at form
  split at form
  · obtain ⟨slot, found, rfl⟩ := Option.map_eq_some_iff.mp form
    simp only [ieeeAddrCompress, found]
  · cases form

theorem addressShortByIeee_eq (c : AddrGlobals) (ieee : IeeeAddr) (junk : IeeeAddrCompressed) :
    (addressShortByIeee c ieee junk).2 =
      match ieeeSearch c (ieeeAddrCompress c ieee junk).2 with
      | some ref => addressShortByRef c ref
      | none => noShortAddr := by
  rw [← History.ieeeSearch_compress c ieee junk]
  have entries := ieeeAddrCompress_addrMap (c := c) ieee junk
  unfold addressShortByIeee addressByIeee
  generalize ieeeAddrCompress c ieee junk = compressed at *
  obtain ⟨c', z⟩ := compressed
  dsimp only at entries ⊢
  cases ieeeSearch c' z with
  | none => rfl
  | some ref => simp [lockResult, addressShortByRef, touch, entries]

theorem Node.resolve_long {n : Node} {req : DataRequest} (mode : req.addrMode = .endpPresent64)
    (param : BufRef) (junk : IeeeAddrCompressed) (stray : UInt16) :
    (n.resolve param req junk stray).2 = .sends
      (req.resolved (addressShortByIeee n.tables.addr req.dstAddrLong junk).2.toUInt16 false) := by
  rw [Node.resolve, Aps.resolve, mode]

theorem DataRequest.resolved_nldeAddr {req : DataRequest} (mode : req.addrMode = .endpPresent64)
    (dstAddr : UInt16) (bound : Bool) : (req.resolved dstAddr bound).nldeAddr = dstAddr := by
  simp [ApsdeDataReq.nldeAddr, DataRequest.resolved, mode]

/-- **When a request by 64-bit address is a unicast to that device.** -/
theorem long_request_unicast_iff (n : Node) (param : BufRef) (req : DataRequest)
    (mode : req.addrMode = .endpPresent64) (junk : IeeeAddrCompressed) (stray : UInt16) :
    Unicasts n param req junk stray ↔ ∃ ref, HoldsDevice n.tables.addr req.dstAddrLong ref ∧
      ieeeSearch n.tables.addr (n.tables.addr.addrMap ref).ieeeAddr = some ref ∧
      shortOf n.tables.addr ref ≠ unknownShortAddr := by
  have resolved := Node.resolve_long (n := n) mode param junk stray
  have short := addressShortByIeee_eq n.tables.addr req.dstAddrLong junk
  constructor
  · intro unicasts
    obtain ⟨ref, held, same, some_⟩ := unicasts.sent _ resolved
    rw [DataRequest.resolved_nldeAddr mode] at same some_
    have form := storedForm_eq_some held.form junk
    cases found : ieeeSearch n.tables.addr
        (ieeeAddrCompress n.tables.addr req.dstAddrLong junk).2 with
    | none =>
      rw [found] at short
      dsimp only at short
      rw [short] at some_
      exact absurd rfl some_
    | some ref' =>
      rw [found] at short
      dsimp only at short
      obtain ⟨inside, used, ieee⟩ := ieeeSearch_spec found
      have entry : (n.tables.addr.addrMap ref').ieeeAddr =
          (n.tables.addr.addrMap ref).ieeeAddr := ieee.trans form
      refine ⟨ref', ⟨⟨inside, used, entry ▸ held.known.nonzero⟩, entry ▸ held.form⟩, ?_, ?_⟩
      · rw [ieee]
        exact found
      · rw [shortOf, ← short]
        exact some_
  · rintro ⟨ref, held, found, some_⟩
    rw [storedForm_eq_some held.form junk, found] at short
    dsimp only at short
    rw [short] at resolved
    refine ⟨fun r sends => ⟨ref, held, ?_, ?_⟩, fun none_ => absurd ⟨ref, held, some_⟩ none_⟩
    · cases sends.symm.trans resolved
      exact (DataRequest.resolved_nldeAddr mode _ _).symm
    · cases sends.symm.trans resolved
      rw [DataRequest.resolved_nldeAddr mode]
      exact some_

/-- A device that the search does not find is sent to as all devices. -/
theorem unknown_device_broadcast (n : Node) (param : BufRef) (req : DataRequest)
    (mode : req.addrMode = .endpPresent64) (junk : IeeeAddrCompressed) (stray : UInt16)
    (missing : ieeeSearch n.tables.addr
      (ieeeAddrCompress n.tables.addr req.dstAddrLong junk).2 = none) :
    ∃ r, (n.resolve param req junk stray).2 = .sends r ∧
      FrameHeaders.nwkIsAddressBroadcast r.nldeAddr = true := by
  refine ⟨_, Node.resolve_long mode param junk stray, ?_⟩
  rw [DataRequest.resolved_nldeAddr mode, addressShortByIeee_eq, missing]
  show FrameHeaders.nwkIsAddressBroadcast noShortAddr.toUInt16 = true
  decide

/-- A request to endpoint 1 of a device. -/
def longRequest (ieee : IeeeAddr) : DataRequest :=
  { boundRequest with addrMode := .endpPresent64, dstAddrLong := ieee, dstEndpoint := 1 }

/-- Device 1 knows itself by both addresses. -/
theorem long_request_unicast_iff_self :
    Unicasts (boundNode []) 5 (longRequest (device 1)) .zero 0 :=
  (long_request_unicast_iff _ 5 (longRequest (device 1)) rfl .zero 0).mpr
    ⟨75, ⟨⟨by decide, by decide +kernel, by decide +kernel⟩, by decide +kernel⟩,
      by decide +kernel, by decide +kernel⟩

/-- It does not know device 2. -/
theorem long_request_unknown_device :
    ¬ Unicasts (boundNode []) 5 (longRequest (device 2)) .zero 0 := by
  intro unicasts
  obtain ⟨_, _, _, some_⟩ := unicasts.sent _ (Node.resolve_long rfl ..)
  exact absurd some_ (by decide +kernel)

end Zboss.Aps
