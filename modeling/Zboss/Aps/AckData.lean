import Zboss.Aps.Header
import Zboss.Nwk.MeshRouting

/-!
Acknowledged transmission of the APS layer.  A data request or command that wants an
acknowledgement keeps an entry, and its buffer, until the peer has acknowledged it or the
retransmissions are used up.  In between the buffer goes down to the network layer and comes
back with each confirm.
-/

namespace Zboss.Aps

open Zboss.DynamicTables (BufRef)
open Zboss.FrameHeaders

/-! ## The entries -/

def nApsRetransEntries : ℕ := 10

def nApsMaxFrameEntries : ℕ := 3

/-- `zb_aps_retrans_ent_state_e`; in all states but the first the alarm is running. -/
inductive RetransState
  | free
  | sentMacNotConfirmed
  | sentMacNotConfirmedApsAcked
  | sentMacConfirmed
  deriving DecidableEq, Repr

/-- `zb_aps_retrans_ent_t`. -/
structure RetransEnt where
  addr : UInt16
  clusterid : UInt16
  apsCounter : UInt8
  srcEndpoint : UInt8
  dstEndpoint : UInt8
  buf : BufRef
  apsRetries : ℕ
  nwkInsecure : Bool
  state : RetransState
  deriving DecidableEq, Repr

/-- The acknowledgement is for the frame of the entry. -/
def ApsHdr.Acks (hdr : ApsHdr) (ent : RetransEnt) : Prop :=
  ent.addr = hdr.srcAddr ∧ ent.apsCounter = hdr.apsCounter ∧
    (apsFcGetAckFormat hdr.fc = true ∨ ent.clusterid = hdr.clusterid ∧
      ent.srcEndpoint = hdr.dstEndpoint ∧ ent.dstEndpoint = hdr.srcEndpoint)

instance (hdr : ApsHdr) (ent : RetransEnt) : Decidable (hdr.Acks ent) :=
  inferInstanceAs (Decidable (_ ∧ _))

/-- The reference of no buffer. -/
def noBuf : BufRef := 0xff

/-- The address of a free entry. -/
def noAddr : UInt16 := 0xffff

/-- What `fill_nldereq` writes, radius and addressing mode apart. -/
structure NldeDataReq where
  dstAddr : UInt16
  securityEnable : Bool
  deriving DecidableEq, Repr

def retOk : UInt8 := 0

def retNoAck : UInt8 := 190

/-- What wants an acknowledgement. -/
inductive Kind
  | data
  | command
  deriving DecidableEq, Repr

/-- What becomes of a buffer that this layer gives away: it goes back to the pool, to the
application with `zb_apsde_data_confirm`, or nowhere, when there is no room for the callback. -/
inductive Outcome
  | freed
  | confirmed
  | lost
  deriving DecidableEq, Repr

/-- A buffer given away, with the request or command it was for, if it is one of those that
want an acknowledgement.  `held` says that a lower layer or an entry still has the buffer. -/
structure Release where
  buf : BufRef
  request : Option ℕ
  outcome : Outcome
  held : Bool
  deriving DecidableEq, Repr

/-- The APS layer, what the buffers hold for it, the buffers that the network layer has, and
the alarms of `zb_aps_ack_timer_cb` that are set.  `issued` has the requests and commands that
want an acknowledgement, and `request` says which of them an entry is for. -/
structure Layer where
  hash : ℕ → RetransEnt
  apsCounter : UInt8
  secureAllFrames : Bool
  fc : BufRef → UInt8
  status : BufRef → UInt8
  nldeReq : BufRef → NldeDataReq
  nwk : List BufRef
  alarms : List ℕ
  issued : List Kind
  request : ℕ → ℕ
  released : List Release

namespace Layer

/-- The entry is taken. -/
def Used (w : Layer) (i : ℕ) : Prop := (w.hash i).state ≠ .free

instance (w : Layer) (i : ℕ) : Decidable (w.Used i) := inferInstanceAs (Decidable (_ ≠ _))

/-- The entries that are taken. -/
def inUse (w : Layer) : List ℕ := (List.range nApsRetransEntries).filter fun i => w.Used i

/-- The first entry that is not. -/
def firstFree (w : Layer) : Option ℕ :=
  (List.range nApsRetransEntries).find? fun i => (w.hash i).state = .free

/-- An entry has the buffer. -/
def Keeps (w : Layer) (buf : BufRef) : Prop := ∃ i ∈ w.inUse, (w.hash i).buf = buf

instance (w : Layer) (buf : BufRef) : Decidable (w.Keeps buf) :=
  inferInstanceAs (Decidable (∃ i ∈ w.inUse, _))

/-- The buffer is given away. -/
def release (w : Layer) (buf : BufRef) (request : Option ℕ) (outcome : Outcome) : Layer :=
  { w with released := ⟨buf, request, outcome, buf ∈ w.nwk ∨ w.Keeps buf⟩ :: w.released }

/-- `ZB_SCHEDULE_CALLBACK(zb_apsde_data_confirm, ..)`, if there is room for it. -/
def confirmUp (w : Layer) (buf : BufRef) (request : Option ℕ) (room : Bool) : Layer :=
  w.release buf request (if room then .confirmed else .lost)

/-- `ZB_SCHEDULE_CALLBACK(zb_nlde_data_request, ..)`. -/
def toNwk (w : Layer) (buf : BufRef) (room : Bool) : Layer :=
  { w with nwk := if room then buf :: w.nwk else w.nwk }

/-- `ZB_SCHEDULE_ALARM(zb_aps_ack_timer_cb, i, ..)`. -/
def scheduleAlarm (w : Layer) (i : ℕ) (room : Bool) : Layer :=
  { w with alarms := if room then i :: w.alarms else w.alarms }

def fillNldereq (w : Layer) (buf : BufRef) (dstAddr : UInt16) (secure : Bool) : Layer :=
  { w with nldeReq := Function.update w.nldeReq buf ⟨dstAddr, secure⟩ }

def setEnt (w : Layer) (i : ℕ) (ent : RetransEnt) : Layer :=
  { w with hash := Function.update w.hash i ent }

@[simp] theorem setEnt_hash (w : Layer) (i : ℕ) (ent : RetransEnt) :
    (w.setEnt i ent).hash = Function.update w.hash i ent := rfl

def setState (w : Layer) (i : ℕ) (state : RetransState) : Layer :=
  w.setEnt i { w.hash i with state }

/-- The next request or command is for entry `i`. -/
def take (w : Layer) (i : ℕ) (kind : Kind) (ent : RetransEnt) : Layer :=
  { w.setEnt i ent with
    issued := w.issued ++ [kind]
    request := Function.update w.request i w.issued.length }

/-- `zb_aps_init`; the counter starts at random. -/
def init (apsCounter : UInt8) (secureAllFrames : Bool) : Layer where
  hash _ := ⟨noAddr, 0, 0, 0, 0, noBuf, 0, false, .free⟩
  apsCounter := apsCounter
  secureAllFrames := secureAllFrames
  fc _ := 0
  status _ := retOk
  nldeReq _ := ⟨0, false⟩
  nwk := []
  alarms := []
  issued := []
  request _ := 0
  released := []

end Layer

/-! ## Requests -/

def nwkBroadcastRxOnWhenIdle : UInt16 := 0xfffd

def unknownShortAddr : UInt16 := 0xffff

namespace ApsdeDataReq

variable (req : ApsdeDataReq)

/-- The address the network layer is to send to. -/
def nldeAddr : UInt16 :=
  if req.addrMode = .groupEndpNotPresent16 then nwkBroadcastRxOnWhenIdle else req.dstAddr

/-- The entry of `save_ack_data` in place of `ent`. -/
def entry (ent : RetransEnt) (param : BufRef) (apsCounter : UInt8) : RetransEnt where
  addr := match req.addrMode with
    | .groupEndpNotPresent16 | .strange => ent.addr
    | _ => req.dstAddr
  clusterid := req.clusterid
  apsCounter := apsCounter
  srcEndpoint := req.srcEndpoint
  dstEndpoint := req.dstEndpoint
  buf := param
  nwkInsecure := false
  apsRetries := nApsMaxFrameEntries
  state := .sentMacNotConfirmed

end ApsdeDataReq

namespace Layer

/-- `save_ack_data`, with the entry it refers to; that is entry 0 if none is free.  The last
entry is taken for a full table. -/
def saveAckData (w : Layer) (param : BufRef) (req : ApsdeDataReq) : Layer × UInt8 × ℕ :=
  match w.firstFree with
  | some i =>
    (w.take i .data (req.entry (w.hash i) param (w.apsCounter - 1)),
      if i = nApsRetransEntries - 1 then apsStatusTableFull else retOk, i)
  | none => ({ w with issued := w.issued ++ [Kind.data] }, retOk, 0)

/-- `zb_apsde_data_request` for a destination it can send to. -/
def sendData (w : Layer) (param : BufRef) (req : ApsdeDataReq) (callbackOk alarmOk : Bool) :
    Layer :=
  let secured := req.securityEnabled && !w.secureAllFrames
  let w := { w with
    fc := Function.update w.fc param (req.frameControl secured)
    apsCounter := w.apsCounter + 1 }
  if req.wantsAck then
    match w.saveAckData param req with
    | (w', ret, ref) =>
      if ret ≠ retOk then
        ({ w' with status := Function.update w'.status param ret }).confirmUp param
          (some w.issued.length) callbackOk
      else ((w'.scheduleAlarm ref alarmOk).fillNldereq param req.nldeAddr !secured).toNwk param
        callbackOk
  else (w.fillNldereq param req.nldeAddr !secured).toNwk param callbackOk

/-- `zb_apsde_data_request`.  A request whose destination has no short address yet waits for
it, and comes again. -/
def apsdeDataRequest (w : Layer) (param : BufRef) (req : ApsdeDataReq)
    (callbackOk alarmOk : Bool) : Layer :=
  if req.addrMode = .dstAddrEndpNotPresent ∧ req.bound = false then
    if req.wantsAck then
      ({ w with issued := w.issued ++ [Kind.data] }).confirmUp param (some w.issued.length) callbackOk
    else w.confirmUp param none callbackOk
  else if req.addrMode = .dstAddrEndpNotPresent ∧ req.dstAddr = unknownShortAddr then w
  else w.sendData param req callbackOk alarmOk

/-- The frame control of a command; a secure one is secured here, or in the network layer if
that secures all frames. -/
def commandFc (w : Layer) (needAck secure : Bool) : UInt8 :=
  apsFcSetCommand (if secure && !w.secureAllFrames then apsFcSetSecurity 0 true else 0) needAck

def apsSendCommand (w : Layer) (param : BufRef) (destAddr : UInt16) (secure callbackOk
    alarmOk : Bool) : Layer :=
  let needAck := !nwkIsAddressBroadcast destAddr
  let w' :=
    if needAck then
      match w.firstFree with
      | some i =>
        (w.take i .command { w.hash i with
          addr := destAddr, apsCounter := w.apsCounter, buf := param, nwkInsecure := !secure,
          apsRetries := nApsMaxFrameEntries, state := .sentMacNotConfirmed }).scheduleAlarm i alarmOk
      | none => w
    else w
  ({ w' with
    fc := Function.update w'.fc param (w.commandFc needAck secure)
    apsCounter := w.apsCounter + 1 }.fillNldereq param destAddr
      (secure && w.secureAllFrames)).toNwk param callbackOk

/-- `aps_ack_send_handle`: an acknowledgement of this device. -/
def apsAckSendHandle (w : Layer) (param : BufRef) (srcAddr : UInt16) (command callbackOk : Bool) :
    Layer :=
  ({ w with
    fc := Function.update w.fc param (apsFrameAck ||| command.toUInt8 <<< 4)
    }.fillNldereq param srcAddr true).toNwk param callbackOk

/-! ## Confirms, acknowledgements and the alarm -/

def doneWithThisAck (w : Layer) (i : ℕ) (fc status : UInt8) (callbackOk : Bool) : Layer :=
  let buf := (w.hash i).buf
  let w' := { w.setEnt i { w.hash i with state := .free, addr := noAddr, buf := noBuf } with
    status := Function.update w.status buf status
    alarms := w.alarms.erase i }
  if apsFcGetAckFormat fc then w'.release buf (some (w.request i)) .freed
  else w'.confirmUp buf (some (w.request i)) callbackOk

/-- The entry whose buffer has come back. -/
def findBuf (w : Layer) (param : BufRef) : Option ℕ :=
  (List.range nApsRetransEntries).find? fun i => (w.hash i).buf = param

/-- The cuts that begin `zb_nlde_data_confirm`: the buffer then begins with `first`, the octet
behind what is read as MAC and NWK headers. -/
def cutHeaders (w : Layer) (param : BufRef) (first : UInt8) : Layer :=
  { w with nwk := w.nwk.erase param, fc := Function.update w.fc param first }

/-- `zb_nlde_data_confirm`, behind the cuts. -/
def nldeDataConfirm (w : Layer) (param : BufRef) (callbackOk : Bool) : Layer :=
  let fc := w.fc param
  if apsFcGetFrameType fc = apsFrameAck then w.release param none .freed
  else if apsFcGetAckRequest fc = false then w.confirmUp param none callbackOk
  else
    match w.findBuf param with
    | some i =>
      if (w.hash i).state = .sentMacNotConfirmedApsAcked then
        w.doneWithThisAck i fc retOk callbackOk
      else w.setState i .sentMacConfirmed
    | none => w.release param none .freed

/-- The entry that an acknowledgement is for; free entries are not left out. -/
def findAcked (w : Layer) (hdr : ApsHdr) : Option ℕ :=
  (List.range nApsRetransEntries).find? fun i => hdr.Acks (w.hash i)

def apsAckFrameHandle (w : Layer) (hdr : ApsHdr) (callbackOk : Bool) : Layer :=
  match w.findAcked hdr with
  | some i =>
    if (w.hash i).state = .sentMacNotConfirmed then w.setState i .sentMacNotConfirmedApsAcked
    else w.doneWithThisAck i hdr.fc retOk callbackOk
  | none => w

def apsAckTimerCb (w : Layer) (i : ℕ) (callbackOk alarmOk : Bool) : Layer :=
  let ent := w.hash i
  let fc := w.fc ent.buf
  let apsRetries := ent.apsRetries - 1
  let w := w.setEnt i { ent with apsRetries }
  if apsRetries = 0 ∧ ent.state = .sentMacConfirmed then w.doneWithThisAck i fc retNoAck callbackOk
  else
    let w := w.scheduleAlarm i alarmOk
    if ent.state = .sentMacConfirmed then
      ((w.fillNldereq ent.buf ent.addr !(ent.nwkInsecure || apsFcGetSecurity fc)).setState i
        .sentMacNotConfirmed).toNwk ent.buf callbackOk
    else w

end Layer

/-! ## Events -/

/-- A request, a command or an acknowledgement to be sent, a buffer that comes back from the
network layer, an acknowledgement received, or an alarm.  The flags say whether there is room
for a callback and for an alarm.  A buffer that comes back from the MAC has its headers; a node
that is not joined confirms at once, and `first` is the octet of the frame, or behind it, that
the cuts of headers it does not have come to. -/
inductive Event
  | request (param : BufRef) (req : ApsdeDataReq) (callbackOk alarmOk : Bool)
  | command (param : BufRef) (destAddr : UInt16) (secure callbackOk alarmOk : Bool)
  | sendAck (param : BufRef) (srcAddr : UInt16) (command callbackOk : Bool)
  | confirm (param : BufRef) (callbackOk : Bool)
  | notJoined (param : BufRef) (first : UInt8) (callbackOk : Bool)
  | ack (hdr : ApsHdr) (callbackOk : Bool)
  | alarm (i : ℕ) (callbackOk alarmOk : Bool)
  deriving DecidableEq, Repr

/-- Who calls this layer with a buffer has it to itself. -/
def Layer.Idle (w : Layer) (param : BufRef) : Prop :=
  param ≠ noBuf ∧ param ∉ w.nwk ∧ ¬ w.Keeps param

instance (w : Layer) (param : BufRef) : Decidable (w.Idle param) :=
  inferInstanceAs (Decidable (_ ∧ _ ∧ _))

/-- One event; the network layer confirms what it has, and an alarm that goes off was set. -/
def step (w : Layer) : Event → Layer
  | .request param req callbackOk alarmOk =>
    if w.Idle param then w.apsdeDataRequest param req callbackOk alarmOk else w
  | .command param destAddr secure callbackOk alarmOk =>
    if w.Idle param then w.apsSendCommand param destAddr secure callbackOk alarmOk else w
  | .sendAck param srcAddr command callbackOk =>
    if w.Idle param then w.apsAckSendHandle param srcAddr command callbackOk else w
  | .confirm param callbackOk =>
    if param ∈ w.nwk then
      (w.cutHeaders param (w.fc param)).nldeDataConfirm param callbackOk
    else w
  | .notJoined param first callbackOk =>
    if param ∈ w.nwk then (w.cutHeaders param first).nldeDataConfirm param callbackOk else w
  | .ack hdr callbackOk => w.apsAckFrameHandle hdr callbackOk
  | .alarm i callbackOk alarmOk =>
    if i ∈ w.alarms then
      { w with alarms := w.alarms.erase i }.apsAckTimerCb i callbackOk alarmOk
    else w

/-! ## What `save_ack_data` reports -/

/-- The entry is for the frame of the request. -/
structure Records (ent : RetransEnt) (param : BufRef) (req : ApsdeDataReq) (apsCounter : UInt8) :
    Prop where
  state : ent.state = .sentMacNotConfirmed
  buf : ent.buf = param
  apsCounter : ent.apsCounter = apsCounter
  clusterid : ent.clusterid = req.clusterid
  srcEndpoint : ent.srcEndpoint = req.srcEndpoint
  dstEndpoint : ent.dstEndpoint = req.dstEndpoint
  addr : req.addrMode ≠ .groupEndpNotPresent16 → req.addrMode ≠ .strange →
    ent.addr = req.dstAddr

theorem ApsdeDataReq.records_entry (req : ApsdeDataReq) (ent : RetransEnt) (param : BufRef)
    (apsCounter : UInt8) : Records (req.entry ent param apsCounter) param req apsCounter where
  state := rfl
  buf := rfl
  apsCounter := rfl
  clusterid := rfl
  srcEndpoint := rfl
  dstEndpoint := rfl
  addr := by
    intro group strange
    rw [entry]
    dsimp only
    split
    · rename_i mode
      exact absurd mode group
    · rename_i mode
      exact absurd mode strange
    · rfl

namespace Layer

/-- Success is reported exactly when an entry was free; then the entry it refers to, which was
free, and no other records the frame.  A full table is reported and left as it is. -/
structure Truthful (w : Layer) (param : BufRef) (req : ApsdeDataReq) : Prop where
  success : (w.saveAckData param req).2.1 = retOk ↔ ∃ i < nApsRetransEntries, ¬ w.Used i
  stored : (w.saveAckData param req).2.1 = retOk →
    let w' := (w.saveAckData param req).1
    let ref := (w.saveAckData param req).2.2
    ref < nApsRetransEntries ∧ ¬ w.Used ref ∧
      Records (w'.hash ref) param req (w.apsCounter - 1) ∧ ∀ j ≠ ref, w'.hash j = w.hash j
  full : (∀ i < nApsRetransEntries, w.Used i) →
    (w.saveAckData param req).2.1 = apsStatusTableFull ∧
      (w.saveAckData param req).1.hash = w.hash

variable {w : Layer}

theorem firstFree_eq_some {i : ℕ} :
    w.firstFree = some i ↔ i < nApsRetransEntries ∧ ¬ w.Used i ∧ ∀ j < i, w.Used j := by
  rw [firstFree, List.find?_range_eq_some]
  simp only [decide_eq_true_eq, Bool.not_eq_true', decide_eq_false_iff_not, List.mem_range, Used,
    not_not]
  tauto

theorem firstFree_eq_none : w.firstFree = none ↔ ∀ i < nApsRetransEntries, w.Used i := by
  simp [firstFree, Used]

/-- **`save_ack_data` tells the truth exactly when an entry before the last one is free.**  The
last entry is taken and reported as a full table, and a full table is reported as success. -/
theorem saveAckData_truthful_iff (w : Layer) (param : BufRef) (req : ApsdeDataReq) :
    w.Truthful param req ↔ ∃ i < nApsRetransEntries - 1, ¬ w.Used i := by
  cases found : w.firstFree with
  | none =>
    have used := firstFree_eq_none.mp found
    constructor
    · intro truthful
      have ok : (w.saveAckData param req).2.1 = retOk := by rw [saveAckData, found]
      obtain ⟨i, inside, free⟩ := truthful.success.mp ok
      exact absurd (used i inside) free
    · rintro ⟨i, inside, free⟩
      exact absurd (used i (Nat.lt_of_lt_pred inside)) free
  | some i =>
    obtain ⟨inside, free, before⟩ := firstFree_eq_some.mp found
    have saved : w.saveAckData param req =
        (w.take i .data (req.entry (w.hash i) param (w.apsCounter - 1)),
          if i = nApsRetransEntries - 1 then apsStatusTableFull else retOk, i) := by
      rw [saveAckData, found]
    constructor
    · intro truthful
      by_cases last : i = nApsRetransEntries - 1
      · have full : (w.saveAckData param req).2.1 = apsStatusTableFull := by
          rw [saved, if_pos last]
        have ok := truthful.success.mpr ⟨i, inside, free⟩
        rw [full] at ok
        exact absurd ok (by decide)
      · exact ⟨i, by omega, free⟩
    · rintro ⟨j, early, free'⟩
      have first : i ≤ j := Nat.le_of_not_lt fun later => free' (before j later)
      have inner : i ≠ nApsRetransEntries - 1 := by omega
      rw [if_neg inner] at saved
      refine ⟨?_, ?_, ?_⟩
      · rw [saved]
        exact iff_of_true rfl ⟨i, inside, free⟩
      · intro _
        rw [saved]
        refine ⟨inside, free, ?_, fun j other => Function.update_of_ne other ..⟩
        dsimp only [take]
        rw [setEnt_hash, Function.update_self]
        exact req.records_entry ..
      · intro used
        exact absurd (used i inside) free

end Layer

/-- A request to device 1. -/
def toDevice : ApsdeDataReq where
  addrMode := .endpPresent16
  dstAddr := 1
  bound := false
  clusterid := 6
  profileid := 0x0104
  srcEndpoint := 1
  dstEndpoint := 2
  ackTx := true
  securityEnabled := false

/-- Ten requests in the buffers 1 to 10. -/
def tenRequests : List Event :=
  [1, 2, 3, 4, 5, 6, 7, 8, 9, 10].map fun param => .request param toDevice true true

/-- The eleventh request is told that it has entry 0, which has the first one. -/
theorem saveAckData_fullTable :
    ¬ (tenRequests.foldl step (Layer.init 0 false)).Truthful 11 toDevice := by
  intro truthful
  have full : ¬ ∃ i < nApsRetransEntries, ¬ (tenRequests.foldl step (Layer.init 0 false)).Used i := by
    decide +kernel
  exact full (truthful.success.mp (by decide +kernel))

end Zboss.Aps
