import Zboss.Common.AddressTable
import Zboss.Lib.Run

/-!
Mgmt_leave requests: a table of four pending requests with used flags, a size that bounds the
searches, and the buffer of the request as key.  A request is remembered, its leave is started,
the leave confirm sends the response, and where the device itself is to leave it does so when the
response was confirmed.
-/

namespace Zboss.MgmtLeave

open Zboss.AddressTable (IeeeAddr)
open Zboss.Run

/-! ## The pending list -/

def zdoPendingLeaveSize : ℕ := 4

/-- `ZB_ZDP_STATUS_INSUFFICIENT_SPACE`. -/
def zdpInsufficientSpace : UInt8 := 0x8a

/-- `zb_leave_pending_list_t`. -/
structure Slot where
  used : Bool
  bufRef : UInt8
  tsn : UInt8
  srcAddr : UInt16
  deriving DecidableEq, Repr

/-- `zb_leave_context_t` and what goes with it: the short address of the device, and how many calls
of `zb_nwk_do_leave_local` wait for a buffer. -/
structure LeaveContext where
  pendingList : ℕ → Slot
  pendingListSize : ℕ
  rejoinAfterLeave : Bool
  leaveAfterMgmtLeaveRspConf : Bool
  shortAddress : UInt16
  delayed : ℕ

/-- How a request is answered: by a response to its sender, by the callback `zdo_af_resp` finds, or
by the callback at once. -/
inductive Answer where
  | response (tsn : UInt8) (dstAddr : UInt16) (status : UInt8)
  | afResp (tsn status : UInt8)
  | scheduled (status : UInt8)
  deriving DecidableEq, Repr

/-- What a handler does: the answers it gives, whether it starts the leave of the device, and whether
it uses a neighbour entry that is not there. -/
structure Outcome where
  ctx : LeaveContext
  answers : List Answer
  leaves : Bool
  missing : Bool

namespace LeaveContext

variable (c : LeaveContext)

/-- The first entry that is not used; `ZB_ZDO_PENDING_LEAVE_SIZE` where all are. -/
def firstFree : ℕ :=
  ((List.range zdoPendingLeaveSize).find? fun i => !(c.pendingList i).used).getD zdoPendingLeaveSize

/-- The entry with the buffer, among those below the size. -/
def findPending (param : UInt8) : Option ℕ :=
  (List.range c.pendingListSize).find? fun i =>
    (c.pendingList i).used && (c.pendingList i).bufRef == param

/-- Entry `i` is filled. -/
def remember (i : ℕ) (param tsn : UInt8) (srcAddr : UInt16) : LeaveContext :=
  { c with
    pendingListSize := if i + 1 > c.pendingListSize then i + 1 else c.pendingListSize
    pendingList := Function.update c.pendingList i ⟨true, param, tsn, srcAddr⟩ }

/-- Entry `i` is freed. -/
def release (i : ℕ) : LeaveContext :=
  { c with
    pendingList := Function.update c.pendingList i { c.pendingList i with used := false }
    pendingListSize := if c.pendingListSize = i + 1 then i else c.pendingListSize }

/-- `zdo_mgmt_leave_srv`. -/
def mgmtLeaveSrv (param tsn : UInt8) (srcAddr : UInt16) : Outcome :=
  let i := c.firstFree
  if i = zdoPendingLeaveSize then ⟨c, [.response tsn srcAddr zdpInsufficientSpace], false, false⟩
  else ⟨c.remember i param tsn srcAddr, [], false, false⟩

/-- `zdo_mgmt_leave_cli`, a request of the device to itself. -/
def mgmtLeaveCli (param tsn : UInt8) : Outcome :=
  let i := c.firstFree
  if i = zdoPendingLeaveSize then ⟨c, [.scheduled zdpInsufficientSpace], false, false⟩
  else ⟨c.remember i param tsn c.shortAddress, [], false, false⟩

/-- `zb_nwk_do_leave`, as far as it concerns the pending list.  Without a rejoin the device has no
address any more. -/
def nwkDoLeave (rejoin : Bool) : LeaveContext :=
  { c with
    leaveAfterMgmtLeaveRspConf := false
    pendingListSize := 0
    shortAddress := if rejoin then c.shortAddress else 0xFFFF }

/-- `zdo_try_mgmt_leave_complete`; none where it finds no entry. -/
def tryMgmtLeaveComplete (param : UInt8) : Option LeaveContext :=
  (c.findPending param).map fun i =>
    let c := c.release i
    if (c.pendingList i).srcAddr = c.shortAddress then { c with delayed := c.delayed + 1 }
    else c.nwkDoLeave c.rejoinAfterLeave

/-- `zdo_try_send_mgmt_leave_rsp`; none where it finds no entry.  `callbacks` are the numbers
`zdo_af_resp` finds a callback for. -/
def trySendMgmtLeaveRsp (param status : UInt8) (willLeave : Bool) (callbacks : List UInt8) :
    Option Outcome :=
  (c.findPending param).map fun i =>
    let slot := c.pendingList i
    let sent : Outcome :=
      if slot.srcAddr = c.shortAddress then
        if slot.tsn ∈ callbacks then
          ⟨(c.tryMgmtLeaveComplete param).getD c, [.afResp slot.tsn status],
            (c.tryMgmtLeaveComplete param).isSome, false⟩
        else ⟨c, [], false, false⟩
      else ⟨c, [.response slot.tsn slot.srcAddr status], false, false⟩
    if status ≠ 0 ∨ willLeave = false then { sent with ctx := sent.ctx.release i } else sent

def nlmeLeaveConfirm (param status : UInt8) (deviceAddress : IeeeAddr) (callbacks : List UInt8)
    (neighbors : List IeeeAddr) : Outcome :=
  let willLeave := status == 0 && deviceAddress == IeeeAddr.zero
  match c.trySendMgmtLeaveRsp param status willLeave callbacks with
  | some sent => { sent with ctx := { sent.ctx with leaveAfterMgmtLeaveRspConf := willLeave } }
  | none =>
    if willLeave then ⟨c.nwkDoLeave c.rejoinAfterLeave, [], true, false⟩
    else ⟨c, [], false, decide (deviceAddress ∉ neighbors)⟩

/-- `zb_apsde_data_confirm`, for a packet that is neither a device announcement nor a switch of
keys. -/
def apsdeDataConfirm (param : UInt8) : Outcome :=
  match if c.leaveAfterMgmtLeaveRspConf then c.tryMgmtLeaveComplete param else none with
  | some c => ⟨c, [], true, false⟩
  | none => ⟨c, [], false, false⟩

end LeaveContext

/-! ## Runs -/

inductive Event where
  /-- A request from the network. -/
  | mgmtLeaveSrv (param tsn : UInt8) (srcAddr : UInt16)
  /-- A request of the device to itself. -/
  | mgmtLeaveCli (param tsn : UInt8)
  | leaveConfirm (param status : UInt8) (deviceAddress : IeeeAddr) (callbacks : List UInt8)
      (neighbors : List IeeeAddr)
  | dataConfirm (param : UInt8)
  /-- A leave indication for the device itself. -/
  | leaveIndication (rejoin : Bool)
  /-- `zb_nwk_do_leave_local` gets its buffer. -/
  | leaveLocal
  /-- A leave of the device is started; it will rejoin or not. -/
  | rejoinAfterLeave (rejoin : Bool)
  /-- The device gets an address. -/
  | joined (shortAddress : UInt16)

/-- What the code does at an event. -/
def LeaveContext.handle (c : LeaveContext) : Event → Outcome
  | .mgmtLeaveSrv param tsn srcAddr => c.mgmtLeaveSrv param tsn srcAddr
  | .mgmtLeaveCli param tsn => c.mgmtLeaveCli param tsn
  | .leaveConfirm param status deviceAddress callbacks neighbors =>
    c.nlmeLeaveConfirm param status deviceAddress callbacks neighbors
  | .dataConfirm param => c.apsdeDataConfirm param
  | .leaveIndication rejoin => ⟨c.nwkDoLeave rejoin, [], true, false⟩
  | .leaveLocal =>
    ⟨{ c.nwkDoLeave c.rejoinAfterLeave with delayed := c.delayed - 1 }, [], true, false⟩
  | .rejoinAfterLeave rejoin => ⟨{ c with rejoinAfterLeave := rejoin }, [], false, false⟩
  | .joined shortAddress => ⟨{ c with shortAddress := shortAddress }, [], false, false⟩

/-- A request that was accepted and is not done with: its leave confirm is still to come, or it was
answered, the device is to leave, and the confirm of the response is still to come. -/
structure Flight where
  tsn : UInt8
  srcAddr : UInt16
  isLocal : Bool
  answered : Bool
  deriving DecidableEq, Repr

/-- The answer a request should get. -/
def Flight.answer (f : Flight) (status : UInt8) : Answer :=
  if f.isLocal then .afResp f.tsn status else .response f.tsn f.srcAddr status

/-- The device with the requests in flight, by their buffers. -/
structure World where
  ctx : LeaveContext
  flights : UInt8 → Option Flight

namespace World

variable (w : World)

/-- The requests in flight after an event: an accepted one is taken off with its leave confirm, or,
if its sender told the device itself to leave, when the response to it is confirmed. -/
def follow : Event → UInt8 → Option Flight
  | .mgmtLeaveSrv param tsn srcAddr =>
    if w.ctx.firstFree = zdoPendingLeaveSize then w.flights
    else Function.update w.flights param (some ⟨tsn, srcAddr, false, false⟩)
  | .mgmtLeaveCli param tsn =>
    if w.ctx.firstFree = zdoPendingLeaveSize then w.flights
    else Function.update w.flights param (some ⟨tsn, w.ctx.shortAddress, true, false⟩)
  | .leaveConfirm param status deviceAddress _ _ =>
    Function.update w.flights param <| (w.flights param).bind fun f =>
      if status = 0 ∧ deviceAddress = IeeeAddr.zero ∧ f.isLocal = false then
        some { f with answered := true }
      else none
  | .dataConfirm param => Function.update w.flights param none
  | .leaveIndication _ | .leaveLocal | .rejoinAfterLeave _ | .joined _ => w.flights

def step (e : Event) : World := ⟨(w.ctx.handle e).ctx, w.follow e⟩

/-- What can happen: a buffer is used for one request at a time, the confirm of a leave comes before
the answer and that of the response behind it, and a delayed leave was asked for. -/
def Allowed : Event → Prop
  | .mgmtLeaveSrv param _ _ | .mgmtLeaveCli param _ => w.flights param = none
  | .leaveConfirm param _ _ _ _ => ∀ f, w.flights param = some f → f.answered = false
  | .dataConfirm param => ∀ f, w.flights param = some f → f.answered = true
  | .leaveLocal => 0 < w.ctx.delayed
  | .leaveIndication _ | .rejoinAfterLeave _ | .joined _ => True

/-- The answers there should be at an event: one to the request whose leave is confirmed, and one at
once to a request that finds no entry free. -/
def due : Event → List Answer
  | .mgmtLeaveSrv _ tsn srcAddr =>
    if ∀ i < zdoPendingLeaveSize, (w.ctx.pendingList i).used = true then
      [.response tsn srcAddr zdpInsufficientSpace]
    else []
  | .mgmtLeaveCli _ _ =>
    if ∀ i < zdoPendingLeaveSize, (w.ctx.pendingList i).used = true then
      [.scheduled zdpInsufficientSpace]
    else []
  | .leaveConfirm param status _ _ _ => (w.flights param).toList.map fun f => f.answer status
  | _ => []

/-- Events at which the device may start to leave: it was told to by the network or by itself other
than by a request, the callback of a local request that told it to got the answer, or the response
to such a request was confirmed. -/
def MayLeave : Event → Prop
  | .leaveConfirm param status deviceAddress _ _ =>
    status = 0 ∧ deviceAddress = IeeeAddr.zero ∧
      ∀ f, w.flights param = some f → f.isLocal = true
  | .dataConfirm param => ∃ f, w.flights param = some f ∧ f.answered = true
  | .leaveIndication _ | .leaveLocal => True
  | _ => False

/-- The event is handled right. -/
structure Right (e : Event) : Prop where
  answers : (w.ctx.handle e).answers = w.due e
  leaves : (w.ctx.handle e).leaves = true → w.MayLeave e
  released : ∀ i < zdoPendingLeaveSize, ((w.step e).ctx.pendingList i).used = true →
    ((w.step e).flights ((w.step e).ctx.pendingList i).bufRef).isSome = true
  missing : (w.ctx.handle e).missing = false

/-- The entry with the buffer lies below the size, where the searches look. -/
def Visible (param : UInt8) : Prop :=
  ∃ i < w.ctx.pendingListSize, (w.ctx.pendingList i).used = true ∧
    (w.ctx.pendingList i).bufRef = param

/-- The confirm of a leave finds the entry of its request, a local request has its callback, told the
device itself to leave and succeeded, and the device has kept its address meanwhile; and where there
is no request, another device is still a neighbour.  The confirm of a response finds the entry and
the flag. -/
def Sound : Event → Prop
  | .leaveConfirm param status deviceAddress callbacks neighbors =>
    match w.flights param with
    | some f => w.Visible param ∧ (f.isLocal = true ↔ f.srcAddr = w.ctx.shortAddress) ∧
        (f.isLocal = true → f.tsn ∈ callbacks ∧ status = 0 ∧ deviceAddress = IeeeAddr.zero)
    | none => status = 0 ∧ deviceAddress = IeeeAddr.zero ∨ deviceAddress ∈ neighbors
  | .dataConfirm param => w.flights param ≠ none →
      w.Visible param ∧ w.ctx.leaveAfterMgmtLeaveRspConf = true
  | _ => True

end World

/-! ## The searches -/

namespace LeaveContext

variable {c : LeaveContext} {param : UInt8}

theorem firstFree_spec (c : LeaveContext) :
    (c.firstFree = zdoPendingLeaveSize ↔
      ∀ i < zdoPendingLeaveSize, (c.pendingList i).used = true) ∧
      (c.firstFree ≠ zdoPendingLeaveSize →
        c.firstFree < zdoPendingLeaveSize ∧ (c.pendingList c.firstFree).used = false) := by
  rw [firstFree]
  cases first : (List.range zdoPendingLeaveSize).find? fun i => !(c.pendingList i).used with
  | none =>
    rw [List.find?_range_eq_none] at first
    rw [Option.getD_none]
    refine ⟨iff_of_true rfl fun i inside => ?_, fun free => absurd rfl free⟩
    exact (Bool.not_not _).symm.trans (first i inside)
  | some i =>
    rw [List.find?_range_eq_some] at first
    obtain ⟨free, inside, -⟩ := first
    rw [Bool.not_eq_true'] at free
    rw [List.mem_range] at inside
    rw [Option.getD_some]
    refine ⟨iff_of_false (Nat.ne_of_lt inside) fun all => ?_, fun _ => ⟨inside, free⟩⟩
    rw [all i inside] at free
    cases free

@[simp] theorem release_self (c : LeaveContext) (i : ℕ) :
    (c.release i).pendingList i = { c.pendingList i with used := false } :=
  Function.update_self ..

theorem release_other (c : LeaveContext) {i j : ℕ} (apart : j ≠ i) :
    (c.release i).pendingList j = c.pendingList j :=
  Function.update_of_ne apart ..

theorem findPending_some {i : ℕ} (found : c.findPending param = some i) :
    i < c.pendingListSize ∧ (c.pendingList i).used = true ∧ (c.pendingList i).bufRef = param := by
  rw [findPending, List.find?_range_eq_some] at found
  obtain ⟨here, inside, -⟩ := found
  rw [Bool.and_eq_true, beq_iff_eq] at here
  exact ⟨List.mem_range.mp inside, here⟩

theorem findPending_none : c.findPending param = none ↔
    ¬∃ i < c.pendingListSize, (c.pendingList i).used = true ∧
      (c.pendingList i).bufRef = param := by
  rw [findPending, List.find?_range_eq_none]
  constructor
  · rintro none_ ⟨i, inside, used, same⟩
    have here := none_ i inside
    rw [used, same, beq_self_eq_true] at here
    cases here
  · intro none_ i inside
    rw [Bool.not_eq_true', Bool.and_eq_false_iff, beq_eq_false_iff_ne]
    by_contra here
    push Not at here
    exact none_ ⟨i, inside, Bool.not_eq_false _ ▸ here.1, here.2⟩

theorem release_size_le {i : ℕ} (size : c.pendingListSize ≤ zdoPendingLeaveSize)
    (inside : i < zdoPendingLeaveSize) : (c.release i).pendingListSize ≤ zdoPendingLeaveSize := by
  dsimp only [release]
  split
  · exact Nat.le_of_lt inside
  · exact size

theorem release_release {i : ℕ} {c' : LeaveContext}
    (list : c'.pendingList = (c.release i).pendingList) :
    (c'.release i).pendingList = (c.release i).pendingList := by
  funext j
  by_cases here : j = i
  · rw [here, release_self, list, release_self]
  · rw [release_other _ here, list]

theorem tryMgmtLeaveComplete_some {i : ℕ} (found : c.findPending param = some i) :
    ∃ c', c.tryMgmtLeaveComplete param = some c' ∧ c'.pendingList = (c.release i).pendingList ∧
      (c.pendingListSize ≤ zdoPendingLeaveSize → i < zdoPendingLeaveSize →
        c'.pendingListSize ≤ zdoPendingLeaveSize) := by
  rw [tryMgmtLeaveComplete, found, Option.map_some]
  dsimp only
  split
  · exact ⟨_, rfl, rfl, release_size_le⟩
  · exact ⟨_, rfl, rfl, fun _ _ => Nat.zero_le _⟩

theorem nlmeLeaveConfirm_found {i : ℕ} {tsn : UInt8} {srcAddr : UInt16}
    (found : c.findPending param = some i)
    (slot : c.pendingList i = ⟨true, param, tsn, srcAddr⟩) (status : UInt8)
    (deviceAddress : IeeeAddr) (callbacks : List UInt8) (neighbors : List IeeeAddr) :
    let o := c.nlmeLeaveConfirm param status deviceAddress callbacks neighbors
    o.answers = (if srcAddr = c.shortAddress then
        if tsn ∈ callbacks then [.afResp tsn status] else []
      else [.response tsn srcAddr status]) ∧
    (o.leaves = true ↔ srcAddr = c.shortAddress ∧ tsn ∈ callbacks) ∧ o.missing = false ∧
    (o.ctx.pendingList = if (srcAddr = c.shortAddress ∧ tsn ∈ callbacks) ∨
        ¬(status = 0 ∧ deviceAddress = IeeeAddr.zero) then (c.release i).pendingList
      else c.pendingList) ∧
    (c.pendingListSize ≤ zdoPendingLeaveSize → i < zdoPendingLeaveSize →
      o.ctx.pendingListSize ≤ zdoPendingLeaveSize) := by
  obtain ⟨c', completed, list, size⟩ := tryMgmtLeaveComplete_some found
  have willLeave : (status == 0 && deviceAddress == IeeeAddr.zero) = true ↔
      status = 0 ∧ deviceAddress = IeeeAddr.zero := by
    rw [Bool.and_eq_true, beq_iff_eq, beq_iff_eq]
  rw [nlmeLeaveConfirm]
  dsimp only
  generalize (status == 0 && deviceAddress == IeeeAddr.zero) = will at willLeave ⊢
  rw [trySendMgmtLeaveRsp, found, Option.map_some]
  have freed : status ≠ 0 ∨ will = false ↔ ¬(status = 0 ∧ deviceAddress = IeeeAddr.zero) := by
    rw [← willLeave, Bool.not_eq_true, or_iff_right_iff_imp]
    intro failed
    rw [← Bool.not_eq_true, willLeave]
    exact fun told => failed told.1
  simp only [slot, completed, Option.getD_some, Option.isSome_some, freed]
  by_cases mine : srcAddr = c.shortAddress
  · by_cases known : tsn ∈ callbacks
    · -- the leave is completed here, and the entry freed once more where it failed
      rw [if_pos mine, if_pos mine, if_pos known, if_pos known, if_pos (Or.inl ⟨mine, known⟩)]
      split
      · exact ⟨rfl, iff_of_true rfl ⟨mine, known⟩, rfl, release_release list,
          fun le inside => release_size_le (size le inside) inside⟩
      · exact ⟨rfl, iff_of_true rfl ⟨mine, known⟩, rfl, list, size⟩
    · have unknown : ¬(srcAddr = c.shortAddress ∧ tsn ∈ callbacks) := fun both => known both.2
      rw [if_pos mine, if_pos mine, if_neg known, if_neg known]
      simp only [or_iff_right unknown]
      split
      · exact ⟨rfl, iff_of_false Bool.false_ne_true unknown, rfl, rfl, release_size_le⟩
      · exact ⟨rfl, iff_of_false Bool.false_ne_true unknown, rfl, rfl, fun le _ => le⟩
  · have other : ¬(srcAddr = c.shortAddress ∧ tsn ∈ callbacks) := fun both => mine both.1
    rw [if_neg mine, if_neg mine]
    simp only [or_iff_right other]
    split
    · exact ⟨rfl, iff_of_false Bool.false_ne_true other, rfl, rfl, release_size_le⟩
    · exact ⟨rfl, iff_of_false Bool.false_ne_true other, rfl, rfl, fun le _ => le⟩

end LeaveContext

/-! ## The invariant -/

/-- The entries in use are those of the requests in flight, one for each. -/
structure Tracks (w : World) : Prop where
  size_le : w.ctx.pendingListSize ≤ zdoPendingLeaveSize
  slot_of : ∀ param f, w.flights param = some f → ∃ i < zdoPendingLeaveSize,
    w.ctx.pendingList i = ⟨true, param, f.tsn, f.srcAddr⟩
  flight_of : ∀ i < zdoPendingLeaveSize, (w.ctx.pendingList i).used = true →
    (w.flights (w.ctx.pendingList i).bufRef).isSome = true
  one : ∀ i < zdoPendingLeaveSize, ∀ j < zdoPendingLeaveSize, (w.ctx.pendingList i).used = true →
    (w.ctx.pendingList j).used = true →
      (w.ctx.pendingList i).bufRef = (w.ctx.pendingList j).bufRef → i = j

namespace Tracks

variable {w : World} {param : UInt8} {f : Flight}

/-- The search finds the entry of a request in flight, if it finds one. -/
theorem found (tracks : Tracks w) (flight : w.flights param = some f) {i : ℕ}
    (found : w.ctx.findPending param = some i) :
    i < zdoPendingLeaveSize ∧ w.ctx.pendingList i = ⟨true, param, f.tsn, f.srcAddr⟩ := by
  obtain ⟨inside, used, same⟩ := LeaveContext.findPending_some found
  have inside := Nat.lt_of_lt_of_le inside tracks.size_le
  obtain ⟨j, inside', slot⟩ := tracks.slot_of param f flight
  have here : i = j := tracks.one i inside j inside' used (slot ▸ rfl) (by rw [same, slot])
  exact ⟨inside, here ▸ slot⟩

/-- Without a request in flight the search finds nothing. -/
theorem not_found (tracks : Tracks w) (none_ : w.flights param = none) :
    w.ctx.findPending param = none := by
  rw [LeaveContext.findPending_none]
  rintro ⟨i, inside, used, rfl⟩
  have flight := tracks.flight_of i (Nat.lt_of_lt_of_le inside tracks.size_le) used
  rw [none_] at flight
  cases flight

theorem visible_iff : w.Visible param ↔ w.ctx.findPending param ≠ none := by
  rw [ne_eq, LeaveContext.findPending_none, not_not, World.Visible]

/-- Only the entries and the size of the context matter, and of the requests their entries. -/
theorem congr (tracks : Tracks w) {w' : World} (list : w'.ctx.pendingList = w.ctx.pendingList)
    (size : w'.ctx.pendingListSize ≤ zdoPendingLeaveSize)
    (flights : ∀ param, (w'.flights param).map (fun f => (f.tsn, f.srcAddr)) =
      (w.flights param).map fun f => (f.tsn, f.srcAddr)) : Tracks w' where
  size_le := size
  slot_of param f flight := by
    have same := flights param
    rw [flight] at same
    obtain ⟨g, flight', same⟩ := Option.map_eq_some_iff.mp same.symm
    obtain ⟨i, inside, slot⟩ := tracks.slot_of param g flight'
    rw [Prod.mk.injEq] at same
    exact ⟨i, inside, by rw [list, slot, same.1, same.2]⟩
  flight_of i inside used := by
    rw [list] at used ⊢
    have flight := tracks.flight_of i inside used
    rw [← Option.isSome_map] at flight ⊢
    rw [flights]
    exact flight
  one := by
    rw [list]
    exact tracks.one

/-- A new request. -/
theorem remember (tracks : Tracks w) {i : ℕ} (inside : i < zdoPendingLeaveSize)
    (free : (w.ctx.pendingList i).used = false) (absent : w.flights param = none)
    (f : Flight) : Tracks ⟨w.ctx.remember i param f.tsn f.srcAddr,
      Function.update w.flights param (some f)⟩ where
  size_le := by
    have size := tracks.size_le
    dsimp only [LeaveContext.remember]
    split <;> omega
  slot_of other g flight := by
    dsimp only [LeaveContext.remember] at flight ⊢
    by_cases same : other = param
    · subst same
      rw [Function.update_self] at flight
      cases flight
      exact ⟨i, inside, Function.update_self ..⟩
    · rw [Function.update_of_ne same] at flight
      obtain ⟨j, inside', slot⟩ := tracks.slot_of other g flight
      have apart : j ≠ i := by
        rintro rfl
        rw [slot] at free
        cases free
      exact ⟨j, inside', by rw [Function.update_of_ne apart, slot]⟩
  flight_of j inside' used := by
    dsimp only [LeaveContext.remember] at used ⊢
    by_cases same : j = i
    · subst same
      rw [Function.update_self, Function.update_self]
      rfl
    · rw [Function.update_of_ne same] at used ⊢
      have flight := tracks.flight_of j inside' used
      rw [Function.update_of_ne]
      · exact flight
      · rintro here
        rw [here, absent] at flight
        cases flight
  one j inside' k inside'' used used' same := by
    dsimp only [LeaveContext.remember] at used used' same
    have other : ∀ m < zdoPendingLeaveSize, (w.ctx.pendingList m).used = true →
        (w.ctx.pendingList m).bufRef ≠ param := by
      intro m inside used here
      have flight := tracks.flight_of m inside used
      rw [here, absent] at flight
      cases flight
    by_cases here : j = i <;> by_cases here' : k = i
    · rw [here, here']
    · rw [here, Function.update_self, Function.update_of_ne here'] at same
      rw [Function.update_of_ne here'] at used'
      exact absurd same.symm (other k inside'' used')
    · rw [here', Function.update_self, Function.update_of_ne here] at same
      rw [Function.update_of_ne here] at used
      exact absurd same (other j inside' used)
    · rw [Function.update_of_ne here, Function.update_of_ne here'] at same
      rw [Function.update_of_ne here] at used
      rw [Function.update_of_ne here'] at used'
      exact tracks.one j inside' k inside'' used used' same

/-- A request that is done with. -/
theorem release (tracks : Tracks w) {i : ℕ} (inside : i < zdoPendingLeaveSize)
    (slot : w.ctx.pendingList i = ⟨true, param, f.tsn, f.srcAddr⟩) {c : LeaveContext}
    (list : c.pendingList = (w.ctx.release i).pendingList)
    (size : c.pendingListSize ≤ zdoPendingLeaveSize) :
    Tracks ⟨c, Function.update w.flights param none⟩ where
  size_le := size
  slot_of other g flight := by
    dsimp only at flight ⊢
    by_cases same : other = param
    · rw [same, Function.update_self] at flight
      cases flight
    · rw [Function.update_of_ne same] at flight
      obtain ⟨j, inside', slot'⟩ := tracks.slot_of other g flight
      have apart : j ≠ i := by
        rintro rfl
        rw [slot] at slot'
        exact same (congrArg Slot.bufRef slot').symm
      refine ⟨j, inside', ?_⟩
      rw [list, LeaveContext.release_other _ apart, slot']
  flight_of j inside' used := by
    dsimp only at used ⊢
    rw [list] at used ⊢
    by_cases same : j = i
    · rw [same, LeaveContext.release_self] at used
      cases used
    · rw [LeaveContext.release_other _ same] at used ⊢
      rw [Function.update_of_ne]
      · exact tracks.flight_of j inside' used
      · intro here
        exact same (tracks.one j inside' i inside used (slot ▸ rfl) (by rw [here, slot]))
  one j inside' k inside'' used used' same := by
    dsimp only at used used' same
    rw [list] at used used' same
    have other : ∀ m, ((w.ctx.release i).pendingList m).used = true → m ≠ i := by
      rintro m used rfl
      rw [LeaveContext.release_self] at used
      cases used
    have here := other j used
    have here' := other k used'
    rw [LeaveContext.release_other _ here, LeaveContext.release_other _ here'] at same
    rw [LeaveContext.release_other _ here] at used
    rw [LeaveContext.release_other _ here'] at used'
    exact tracks.one j inside' k inside'' used used' same

end Tracks

/-! ## The steps -/

section

variable {w : World} {param tsn : UInt8} {f : Flight}

/-- What a step does to the entries is right where the next world tracks its requests. -/
theorem World.Right.of_tracks {e : Event} (tracks : Tracks (w.step e))
    (answers : (w.ctx.handle e).answers = w.due e)
    (leaves : (w.ctx.handle e).leaves = true → w.MayLeave e)
    (missing : (w.ctx.handle e).missing = false) : w.Right e :=
  ⟨answers, leaves, tracks.flight_of, missing⟩

/-- A request is remembered, or answered at once where no entry is free. -/
theorem request_step (tracks : Tracks w) (absent : w.flights param = none) {e : Event} {f : Flight}
    {answer : Answer}
    (handled : w.ctx.handle e = if w.ctx.firstFree = zdoPendingLeaveSize then
      ⟨w.ctx, [answer], false, false⟩
      else ⟨w.ctx.remember w.ctx.firstFree param f.tsn f.srcAddr, [], false, false⟩)
    (followed : w.follow e = if w.ctx.firstFree = zdoPendingLeaveSize then w.flights
      else Function.update w.flights param (some f))
    (due : w.due e = if ∀ i < zdoPendingLeaveSize, (w.ctx.pendingList i).used = true then [answer]
      else []) : w.Right e ∧ Tracks (w.step e) := by
  obtain ⟨full, free⟩ := w.ctx.firstFree_spec
  by_cases none_ : w.ctx.firstFree = zdoPendingLeaveSize
  · rw [if_pos none_] at handled followed
    rw [if_pos (full.mp none_)] at due
    have same : w.step e = w := by
      rw [World.step, handled, followed]
    have next : Tracks (w.step e) := same.symm ▸ tracks
    exact ⟨.of_tracks next (by rw [handled, due]) (by rw [handled]; exact nofun) (by rw [handled]),
      next⟩
  · rw [if_neg none_] at handled followed
    rw [if_neg (mt full.mpr none_)] at due
    obtain ⟨inside, unused⟩ := free none_
    have next : Tracks (w.step e) := by
      rw [World.step, handled, followed]
      exact tracks.remember inside unused absent f
    exact ⟨.of_tracks next (by rw [handled, due]) (by rw [handled]; exact nofun) (by rw [handled]),
      next⟩

theorem leaveConfirm_step_none (tracks : Tracks w) (absent : w.flights param = none)
    (status : UInt8) (deviceAddress : IeeeAddr) (callbacks : List UInt8)
    (neighbors : List IeeeAddr) :
    let e := Event.leaveConfirm param status deviceAddress callbacks neighbors
    (w.Right e ↔ w.Sound e) ∧ Tracks (w.step e) := by
  intro e
  have followed : w.follow e = w.flights := by
    dsimp only [e, World.follow]
    rw [absent, Option.bind_none, ← absent, Function.update_eq_self]
  have due : w.due e = [] := by
    dsimp only [e, World.due]
    rw [absent]
    rfl
  have sound : w.Sound e ↔
      status = 0 ∧ deviceAddress = IeeeAddr.zero ∨ deviceAddress ∈ neighbors := by
    dsimp only [e, World.Sound]
    rw [absent]
  have nothing : w.ctx.trySendMgmtLeaveRsp param status
      (status == 0 && deviceAddress == IeeeAddr.zero) callbacks = none := by
    rw [LeaveContext.trySendMgmtLeaveRsp, tracks.not_found absent]
    rfl
  have handled : w.ctx.handle e =
      if status = 0 ∧ deviceAddress = IeeeAddr.zero then
        ⟨w.ctx.nwkDoLeave w.ctx.rejoinAfterLeave, [], true, false⟩
      else ⟨w.ctx, [], false, decide (deviceAddress ∉ neighbors)⟩ := by
    dsimp only [e, LeaveContext.handle, LeaveContext.nlmeLeaveConfirm]
    rw [nothing]
    simp only [Bool.and_eq_true, beq_iff_eq]
  rw [sound]
  by_cases told : status = 0 ∧ deviceAddress = IeeeAddr.zero
  · rw [if_pos told] at handled
    have next : Tracks (w.step e) := by
      refine tracks.congr ?_ ?_ fun other => ?_
      · rw [World.step, handled]
        rfl
      · rw [World.step, handled]
        exact Nat.zero_le _
      · rw [World.step, followed]
    have mayLeave : w.MayLeave e := by
      refine ⟨told.1, told.2, fun f flight => ?_⟩
      rw [absent] at flight
      cases flight
    refine ⟨iff_of_true ?_ (Or.inl told), next⟩
    exact .of_tracks next (by rw [handled, due]) (fun _ => mayLeave) (by rw [handled])
  · rw [if_neg told] at handled
    have next : Tracks (w.step e) := by
      have same : w.step e = w := by
        rw [World.step, handled, followed]
      exact same.symm ▸ tracks
    refine ⟨?_, next⟩
    rw [or_iff_right told]
    constructor
    · intro right
      have missing := right.missing
      rw [handled, decide_eq_false_iff_not, not_not] at missing
      exact missing
    · intro neighbor
      refine .of_tracks next (by rw [handled, due]) (by rw [handled]; exact nofun) ?_
      rw [handled]
      exact decide_eq_false (not_not.mpr neighbor)

theorem leaveConfirm_step_some (tracks : Tracks w) (flight : w.flights param = some f)
    (status : UInt8) (deviceAddress : IeeeAddr) (callbacks : List UInt8)
    (neighbors : List IeeeAddr) :
    let e := Event.leaveConfirm param status deviceAddress callbacks neighbors
    (w.Right e ↔ w.Sound e) ∧ (w.Sound e → Tracks (w.step e)) := by
  intro e
  have due : w.due e = [f.answer status] := by
    dsimp only [e, World.due]
    rw [flight]
    rfl
  have sound : w.Sound e ↔ w.Visible param ∧ (f.isLocal = true ↔ f.srcAddr = w.ctx.shortAddress) ∧
      (f.isLocal = true → f.tsn ∈ callbacks ∧ status = 0 ∧ deviceAddress = IeeeAddr.zero) := by
    dsimp only [e, World.Sound]
    rw [flight]
  have followed : w.follow e = Function.update w.flights param
      (if status = 0 ∧ deviceAddress = IeeeAddr.zero ∧ f.isLocal = false then
        some { f with answered := true } else none) := by
    dsimp only [e, World.follow]
    rw [flight]
    rfl
  cases search : w.ctx.findPending param with
  | none =>
    have hidden : ¬w.Sound e := by
      rw [sound, Tracks.visible_iff]
      exact fun both => both.1 search
    refine ⟨iff_of_false (fun right => ?_) hidden, fun sound => absurd sound hidden⟩
    have nothing : w.ctx.trySendMgmtLeaveRsp param status
        (status == 0 && deviceAddress == IeeeAddr.zero) callbacks = none := by
      rw [LeaveContext.trySendMgmtLeaveRsp, search]
      rfl
    have answers := right.answers
    rw [due] at answers
    dsimp only [e, LeaveContext.handle, LeaveContext.nlmeLeaveConfirm] at answers
    rw [nothing] at answers
    dsimp only at answers
    split at answers <;> cases answers
  | some i =>
    obtain ⟨inside, slot⟩ := tracks.found flight search
    have visible : w.Visible param := by
      rw [Tracks.visible_iff, search]
      exact Option.some_ne_none i
    obtain ⟨answers, leaves, missing, list, size⟩ := LeaveContext.nlmeLeaveConfirm_found search
      slot status deviceAddress callbacks neighbors
    have size := size tracks.size_le inside
    have handled : w.ctx.handle e =
      w.ctx.nlmeLeaveConfirm param status deviceAddress callbacks neighbors := rfl
    rw [← handled] at answers leaves missing list size
    have next : w.Sound e → Tracks (w.step e) := by
      rw [sound]
      rintro ⟨-, mine, told⟩
      rw [World.step, followed]
      cases local_ : f.isLocal with
      | true =>
        have told := told local_
        rw [if_pos (Or.inl ⟨mine.mp local_, told.1⟩)] at list
        rw [if_neg (by simp)]
        exact tracks.release inside slot list size
      | false =>
        have other : ¬(f.srcAddr = w.ctx.shortAddress ∧ f.tsn ∈ callbacks) := fun both =>
          Bool.false_ne_true (local_ ▸ mine.mpr both.1)
        simp only [or_iff_right other] at list
        by_cases leaving : status = 0 ∧ deviceAddress = IeeeAddr.zero
        · rw [if_neg (not_not.mpr leaving)] at list
          rw [if_pos ⟨leaving.1, leaving.2, rfl⟩]
          refine tracks.congr list size fun another => ?_
          by_cases here : another = param
          · rw [here, flight]
            dsimp only
            rw [Function.update_self]
            rfl
          · dsimp only
            rw [Function.update_of_ne here]
        · rw [if_pos leaving] at list
          rw [if_neg fun both => leaving ⟨both.1, both.2.1⟩]
          exact tracks.release inside slot list size
    refine ⟨⟨fun right => ?_, fun ok => ?_⟩, next⟩
    · rw [sound]
      have answers' := right.answers
      rw [due, answers, Flight.answer] at answers'
      refine ⟨visible, ?_⟩
      by_cases mine : f.srcAddr = w.ctx.shortAddress
      · rw [if_pos mine] at answers'
        by_cases known : f.tsn ∈ callbacks
        · rw [if_pos known] at answers'
          cases local_ : f.isLocal with
          | true =>
            obtain ⟨zero, own, -⟩ := right.leaves (leaves.mpr ⟨mine, known⟩)
            exact ⟨iff_of_true rfl mine, fun _ => ⟨known, zero, own⟩⟩
          | false =>
            rw [local_] at answers'
            cases answers'
        · rw [if_neg known] at answers'
          cases answers'
      · rw [if_neg mine] at answers'
        cases local_ : f.isLocal with
        | true =>
          rw [local_] at answers'
          cases answers'
        | false => exact ⟨iff_of_false Bool.false_ne_true mine, nofun⟩
    · obtain ⟨-, mine, told⟩ := sound.mp ok
      refine .of_tracks (next ok) ?_ (fun left => ?_) missing
      · rw [answers, due, Flight.answer]
        cases local_ : f.isLocal with
        | true => rw [if_pos (mine.mp local_), if_pos (told local_).1, if_pos rfl]
        | false =>
          have other : f.srcAddr ≠ w.ctx.shortAddress := fun same =>
            Bool.false_ne_true (local_ ▸ mine.mpr same)
          rw [if_neg other, if_neg Bool.false_ne_true]
      · have local_ := mine.mpr (leaves.mp left).1
        refine ⟨(told local_).2.1, (told local_).2.2, fun g flight' => ?_⟩
        cases flight.symm.trans flight'
        exact local_

/-- The confirm of a packet that APS sent. -/
theorem dataConfirm_step (tracks : Tracks w) (allowed : w.Allowed (.dataConfirm param)) :
    (w.Right (.dataConfirm param) ↔ w.Sound (.dataConfirm param)) ∧
      (w.Sound (.dataConfirm param) → Tracks (w.step (.dataConfirm param))) := by
  cases flight : w.flights param with
  | none =>
    have nothing : w.ctx.tryMgmtLeaveComplete param = none := by
      rw [LeaveContext.tryMgmtLeaveComplete, tracks.not_found flight]
      rfl
    have handled : w.ctx.handle (.dataConfirm param) = ⟨w.ctx, [], false, false⟩ := by
      rw [LeaveContext.handle, LeaveContext.apsdeDataConfirm, nothing, ite_self]
    have same : w.step (.dataConfirm param) = w := by
      rw [World.step, handled, World.follow, ← flight, Function.update_eq_self]
    have next : Tracks (w.step (.dataConfirm param)) := same.symm ▸ tracks
    refine ⟨iff_of_true ?_ fun some_ => absurd flight some_, fun _ => next⟩
    exact .of_tracks next (by rw [handled]; rfl) (by rw [handled]; exact nofun) (by rw [handled])
  | some f =>
    have answered := allowed f flight
    have sound : w.Sound (.dataConfirm param) ↔
        w.Visible param ∧ w.ctx.leaveAfterMgmtLeaveRspConf = true := by
      refine imp_iff_right ?_
      rw [flight]
      exact Option.some_ne_none f
    rw [sound]
    by_cases completes : w.Visible param ∧ w.ctx.leaveAfterMgmtLeaveRspConf = true
    · obtain ⟨i, search⟩ := Option.ne_none_iff_exists'.mp (Tracks.visible_iff.mp completes.1)
      obtain ⟨inside, slot⟩ := tracks.found flight search
      obtain ⟨c, completed, list, size⟩ := LeaveContext.tryMgmtLeaveComplete_some search
      have handled : w.ctx.handle (.dataConfirm param) = ⟨c, [], true, false⟩ := by
        rw [LeaveContext.handle, LeaveContext.apsdeDataConfirm, if_pos completes.2, completed]
      have next : Tracks (w.step (.dataConfirm param)) := by
        rw [World.step, handled]
        exact tracks.release inside slot list (size tracks.size_le inside)
      refine ⟨iff_of_true ?_ completes, fun _ => next⟩
      exact .of_tracks next (by rw [handled]; rfl) (fun _ => ⟨f, flight, answered⟩)
        (by rw [handled])
    · refine ⟨iff_of_false (fun right => ?_) completes, fun both => absurd both completes⟩
      have handled : w.ctx.handle (.dataConfirm param) = ⟨w.ctx, [], false, false⟩ := by
        rw [LeaveContext.handle, LeaveContext.apsdeDataConfirm]
        by_cases flag : w.ctx.leaveAfterMgmtLeaveRspConf = true
        · have hidden : w.ctx.findPending param = none := by
            by_contra search
            exact completes ⟨Tracks.visible_iff.mpr search, flag⟩
          rw [if_pos flag, LeaveContext.tryMgmtLeaveComplete, hidden]
          rfl
        · rw [if_neg flag]
      obtain ⟨i, inside, slot⟩ := tracks.slot_of param f flight
      -- the entry stays in use, and nothing is to come that would free it
      have released := right.released i inside
      rw [World.step, handled] at released
      dsimp only [World.follow] at released
      rw [slot, Function.update_self] at released
      exact Bool.false_ne_true (released rfl)

/-- The handlers are right just when the condition holds, and keep to the requests in flight. -/
theorem step_right_iff (tracks : Tracks w) {e : Event} (allowed : w.Allowed e) :
    (w.Right e ↔ w.Sound e) ∧ (w.Sound e → Tracks (w.step e)) := by
  have kept : ∀ {e : Event} {c : LeaveContext} {leaves : Bool},
      w.ctx.handle e = ⟨c, [], leaves, false⟩ → c.pendingList = w.ctx.pendingList →
      c.pendingListSize ≤ zdoPendingLeaveSize →
      w.follow e = w.flights → w.due e = [] → (leaves = true → w.MayLeave e) →
      w.Right e ∧ Tracks (w.step e) := by
    intro e c leaves handled list size followed due mayLeave
    have next : Tracks (w.step e) := by
      refine tracks.congr ?_ ?_ fun param => ?_
      · rwa [World.step, handled]
      · rwa [World.step, handled]
      · rw [World.step, followed]
    exact ⟨.of_tracks next (by rw [handled, due]) (by rw [handled]; exact mayLeave)
      (by rw [handled]), next⟩
  have sure : w.Right e ∧ Tracks (w.step e) → w.Sound e →
      (w.Right e ↔ w.Sound e) ∧ (w.Sound e → Tracks (w.step e)) := fun both ok =>
    ⟨iff_of_true both.1 ok, fun _ => both.2⟩
  cases e with
  | mgmtLeaveSrv param tsn srcAddr =>
    exact sure (request_step (f := ⟨tsn, srcAddr, false, false⟩) tracks allowed rfl rfl rfl) trivial
  | mgmtLeaveCli param tsn =>
    exact sure (request_step (f := ⟨tsn, w.ctx.shortAddress, true, false⟩) tracks allowed rfl rfl
      rfl) trivial
  | leaveConfirm param status deviceAddress callbacks neighbors =>
    cases flight : w.flights param with
    | none =>
      have both := leaveConfirm_step_none tracks flight status deviceAddress callbacks neighbors
      exact ⟨both.1, fun _ => both.2⟩
    | some f => exact leaveConfirm_step_some tracks flight status deviceAddress callbacks neighbors
  | dataConfirm param => exact dataConfirm_step tracks allowed
  | leaveIndication rejoin =>
    exact sure (kept rfl rfl (Nat.zero_le _) rfl rfl fun _ => trivial) trivial
  | leaveLocal => exact sure (kept rfl rfl (Nat.zero_le _) rfl rfl fun _ => trivial) trivial
  | rejoinAfterLeave rejoin => exact sure (kept rfl rfl tracks.size_le rfl rfl nofun) trivial
  | joined shortAddress => exact sure (kept rfl rfl tracks.size_le rfl rfl nofun) trivial

end

/-! ## Every run -/

/-- The device before the first request. -/
structure Fresh (w : World) : Prop where
  size : w.ctx.pendingListSize = 0
  unused : ∀ i < zdoPendingLeaveSize, (w.ctx.pendingList i).used = false
  flights : ∀ param, w.flights param = none

theorem Fresh.tracks {w : World} (fresh : Fresh w) : Tracks w where
  size_le := fresh.size ▸ Nat.zero_le _
  slot_of param f flight := by
    rw [fresh.flights] at flight
    cases flight
  flight_of i inside used := by
    rw [fresh.unused i inside] at used
    cases used
  one i inside _ _ used := by
    rw [fresh.unused i inside] at used
    cases used

/-- In every order of requests, confirms and leaves, each event is handled right just when the
confirms meet their condition; and then, when no request is in flight any more, every entry is
free. -/
theorem mgmt_leave_iff (w : World) (events : List Event) (fresh : Fresh w)
    (allowed : Along World.step World.Allowed w events) :
    (Along World.step World.Right w events ↔ Along World.step World.Sound w events) ∧
      (Along World.step World.Sound w events →
        (∀ param, (run World.step w events).flights param = none) →
          ∀ i < zdoPendingLeaveSize,
            ((run World.step w events).ctx.pendingList i).used = false) := by
  have kept : ∀ w e, Tracks w → w.Allowed e ∧ w.Sound e → Tracks (w.step e) :=
    fun _ _ tracks both => (step_right_iff tracks both.1).2 both.2
  have agree : ∀ w e, Tracks w → (w.Allowed e ∧ w.Right e ↔ w.Allowed e ∧ w.Sound e) :=
    fun _ _ tracks => and_congr_right fun allowed => (step_right_iff tracks allowed).1
  have both := along_iff_of_invariant agree kept w events fresh.tracks
  have second : ∀ {first second : World → Event → Prop},
      Along World.step (fun w e => first w e ∧ second w e) w events →
        Along World.step second w events := fun met =>
    along_of_invariant (fun _ _ (_ : True) _ => trivial) (fun _ _ _ both => both.2) w events trivial
      met
  refine ⟨⟨fun right => ?_, fun sound => ?_⟩, fun sound empty i inside => ?_⟩
  · exact second (both.mp (along_and allowed right))
  · exact second (both.mpr (along_and allowed sound))
  · have tracks := invariant_of_along kept w events fresh.tracks (along_and allowed sound)
    rw [← Bool.not_eq_true]
    intro used
    have flight := tracks.flight_of i inside used
    rw [empty] at flight
    cases flight

/-- A router with nothing pending. -/
def fresh : World :=
  ⟨⟨fun _ => ⟨false, 0, 0, 0⟩, 0, false, false, 0x1234, 0⟩, fun _ => none⟩

theorem fresh_fresh : Fresh fresh := ⟨rfl, fun _ _ => rfl, fun _ => rfl⟩

/-- The coordinator tells the device to leave: request, leave confirm, confirm of the response. -/
def toldToLeave : List Event :=
  [.mgmtLeaveSrv 3 7 0, .leaveConfirm 3 0 IeeeAddr.zero [] [], .dataConfirm 3]

theorem mgmt_leave_iff_told :
    (Along World.step World.Right fresh toldToLeave ↔
      Along World.step World.Sound fresh toldToLeave) ∧
      (Along World.step World.Sound fresh toldToLeave →
        (∀ param, (run World.step fresh toldToLeave).flights param = none) →
          ∀ i < zdoPendingLeaveSize,
            ((run World.step fresh toldToLeave).ctx.pendingList i).used = false) :=
  mgmt_leave_iff fresh toldToLeave fresh_fresh ⟨rfl, by rintro f ⟨⟩; rfl, by
    rintro f ⟨⟩; rfl, trivial⟩

/-- A device with the IEEE address of no neighbour. -/
def gone : IeeeAddr := ⟨⟨1, 2, 3⟩, ⟨4, 5, 6, 7, 8⟩⟩

/-- The device leaves while a request is pending: the request is never answered. -/
def leftMeanwhile : List Event :=
  [.mgmtLeaveSrv 3 7 0, .leaveIndication false, .leaveConfirm 3 0 IeeeAddr.zero [] []]

/-- The device asks itself to make a child leave, and leaves too. -/
def childTold : List Event := [.mgmtLeaveCli 3 7, .leaveConfirm 3 0 gone [7] [gone]]

/-- A leave confirm for a device that is no neighbour any more. -/
def noNeighbor : List Event := [.leaveConfirm 3 0 gone [] []]

theorem mgmt_leave_goes_wrong :
    (∀ events ∈ [leftMeanwhile, childTold, noNeighbor],
      Along World.step World.Allowed fresh events) ∧
    ¬Along World.step World.Right fresh leftMeanwhile ∧
    ¬Along World.step World.Right fresh childTold ∧
    ¬Along World.step World.Right fresh noNeighbor := by
  refine ⟨?_, ?_, ?_, ?_⟩
  · intro events member
    simp only [List.mem_cons, List.not_mem_nil, or_false] at member
    rcases member with rfl | rfl | rfl
    · exact ⟨rfl, trivial, by rintro f ⟨⟩; rfl, trivial⟩
    · exact ⟨rfl, by rintro f ⟨⟩; rfl, trivial⟩
    · exact ⟨nofun, trivial⟩
  · rintro ⟨-, -, right, -⟩
    exact absurd right.answers (by decide)
  · rintro ⟨-, right, -⟩
    exact absurd (right.leaves (by decide)).2.1 (by decide)
  · rintro ⟨right, -⟩
    exact absurd right.missing (by decide)

end Zboss.MgmtLeave
