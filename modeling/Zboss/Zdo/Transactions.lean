import Mathlib.Data.List.Range
import Mathlib.Data.List.Infix
import Zboss.Lib.Run

/-!
Transactions of the ZDO: the table of callbacks that wait for responses, keyed by an octet,
and everything that looks a callback up in it.  Requests are numbered in the order they
were made; the number of its request is recorded beside every callback, frame and response.
-/

namespace Zboss.Transactions

open Zboss.Run

/-- `ZDO_TRAN_TABLE_SIZE`. -/
def tranTableSize : ℕ := 16

def tsnHash (tsn : UInt8) : ℕ := ((5381 <<< 5) + 5381 + tsn.toNat) % tranTableSize

/-- `zdo_cb_hash_ent_t`, and the request that the callback was registered for. -/
structure CbHashEnt where
  func : Option ℕ
  tsn : UInt8
  respCounter : UInt8
  request : ℕ
  deriving DecidableEq, Repr

/-- An APS frame on its way: its first octet after the APS header, the request it carries if
any, and `zdo_cmd_no_resp` of its buffer. -/
structure Frame where
  first : UInt8
  own : Option ℕ
  noResp : Bool
  deriving DecidableEq, Repr

/-- The status of a confirm: success, `RET_NO_ACK` or another. -/
inductive Status
  | ok
  | noAck
  | failed
  deriving DecidableEq, Repr

/-- A frame that is not acknowledged, or is a request without response that is sent, has the
number of the callback only if it carries its request, and a request without response does
not fail for another reason. -/
def CbHashEnt.Confirmed (ent : CbHashEnt) (frame : Frame) (status : Status) : Prop :=
  (status = .noAck ∨ status = .ok ∧ frame.noResp = true → ent.tsn = frame.first →
    frame.own = some ent.request) ∧
  (status = .failed ∧ frame.noResp = true → frame.own ≠ some ent.request)

instance (ent : CbHashEnt) (frame : Frame) (status : Status) :
    Decidable (ent.Confirmed frame status) := inferInstanceAs (Decidable (_ ∧ _))

/-- Why a callback is invoked: a response to a request, or the confirm of a frame that carries
one; none is a response to no request of this device, or another frame. -/
inductive Cause
  | response (answers : Option ℕ)
  | confirm (own : Option ℕ)
  deriving DecidableEq, Repr

/-- The request a callback is invoked for. -/
def Cause.request : Cause → Option ℕ
  | .response answers => answers
  | .confirm own => own

/-- The callback table, the sequence number and the frames on their way; then how many requests
there were, how often their callbacks may be invoked, the invocations, the responses that
devices still owe, and the requests whose callbacks were not registered. -/
structure Zdo where
  tsn : UInt8
  zdoCb : ℕ → CbHashEnt
  frames : List Frame
  issued : ℕ
  granted : ℕ → UInt8
  invoked : List (ℕ × Cause)
  owed : ℕ → ℕ
  dropped : List ℕ

namespace Zdo

/-- The slots of the table in the order they are searched from slot `h` on. -/
def probe (h : ℕ) : List ℕ := (List.range tranTableSize).map fun k => (h + k) % tranTableSize

/-- Slot `i` has a callback. -/
def Registered (w : Zdo) (i : ℕ) : Prop := i < tranTableSize ∧ (w.zdoCb i).func ≠ none

instance (w : Zdo) (i : ℕ) : Decidable (w.Registered i) := inferInstanceAs (Decidable (_ ∧ _))

/-- The slot `register_zdo_cb` uses. -/
def freeSlot (w : Zdo) (tsn : UInt8) : Option ℕ :=
  (probe (tsnHash tsn)).find? fun i => (w.zdoCb i).func = none

/-- The slot `zdo_af_resp` finds. -/
def findTsn (zdoCb : ℕ → CbHashEnt) (tsn : UInt8) : Option ℕ :=
  (probe (tsnHash tsn)).find? fun i => (zdoCb i).tsn = tsn ∧ (zdoCb i).func ≠ none

/-- Write slot `i`. -/
def write (w : Zdo) (i : ℕ) (ent : CbHashEnt) : Zdo :=
  { w with zdoCb := Function.update w.zdoCb i ent }

/-- `register_zdo_cb` for the callback of request `n`. -/
def register (w : Zdo) (tsn : UInt8) (cb : Option ℕ) (respCounter : UInt8) (n : ℕ) : Zdo :=
  match cb with
  | none => w
  | some func =>
    match w.freeSlot tsn with
    | none => { w with dropped := w.dropped ++ [n] }
    | some i => w.write i ⟨some func, tsn, respCounter, n⟩

/-- An entry counted down; at zero it is free. -/
def countedDown (ent : CbHashEnt) : CbHashEnt :=
  let respCounter := ent.respCounter - 1
  { ent with
    respCounter := respCounter
    func := if respCounter = 0 then none else ent.func }

/-- Schedule the callback of slot `i` and count down. -/
def invoke (w : Zdo) (i : ℕ) (cause : Cause) : Zdo :=
  { w with invoked := w.invoked ++ [((w.zdoCb i).request, cause)] }.write i
    (countedDown (w.zdoCb i))

/-- `zdo_af_resp`. -/
def afResp (w : Zdo) (tsn : UInt8) (cause : Cause) : Zdo :=
  match findTsn w.zdoCb tsn with
  | none => w
  | some i => w.invoke i cause

/-- Number a new request, with the next sequence number. -/
def issue (w : Zdo) (respCounter : UInt8) (owed : ℕ) : Zdo :=
  { w with
    tsn := w.tsn + 1
    issued := w.issued + 1
    granted := Function.update w.granted w.issued respCounter
    owed := Function.update w.owed w.issued owed }

/-- A frame is on its way. -/
def push (w : Zdo) (frame : Frame) : Zdo := { w with frames := w.frames ++ [frame] }

/-- `zdo_send_req`. -/
def sendReq (w : Zdo) (cb : Option ℕ) (respCounter : UInt8) (noResp : Bool) : Zdo :=
  let n := w.issued
  let w := w.issue respCounter (if noResp then 0 else respCounter.toNat)
  (w.push ⟨w.tsn, some n, noResp⟩).register w.tsn cb respCounter n

/-- `zdo_mgmt_leave_cli`: the request is served by the device itself. -/
def mgmtLeaveCli (w : Zdo) (cb : ℕ) : Zdo :=
  let n := w.issued
  let w := w.issue 1 1
  w.register w.tsn (some cb) 1 n

/-- `zb_apsde_data_acknowledged` as `zb_apsde_data_confirm` schedules it. -/
def dataConfirm (w : Zdo) (frame : Frame) (status : Status) : Zdo :=
  match status with
  | .ok => if frame.noResp then w.afResp frame.first (.confirm frame.own) else w
  | .noAck => w.afResp frame.first (.confirm frame.own)
  | .failed => w

end Zdo

/-- What happens at the ZDO: requests of the application, other frames that are sent, confirms
of frames, responses from any device with any sequence number, and responses that never
come. -/
inductive Event
  | request (cb : Option ℕ) (respCounter : UInt8) (noResp : Bool)
  | leaveLocally (cb : ℕ)
  | send (first : UInt8) (noResp : Bool)
  | confirm (k : ℕ) (status : Status)
  | response (tsn : UInt8) (answers : Option ℕ)
  | lose (n : ℕ)
  deriving DecidableEq, Repr

namespace Zdo

/-- A device that has made no request. -/
def init : Zdo where
  tsn := 0
  zdoCb := fun _ => ⟨none, 0, 0, 0⟩
  frames := []
  issued := 0
  granted := fun _ => 0
  invoked := []
  owed := fun _ => 0
  dropped := []

/-- A response to request `n` is used up. -/
def consume (w : Zdo) (n : ℕ) : Zdo :=
  { w with owed := Function.update w.owed n (w.owed n - 1) }

/-- Frame `k` is no longer on its way. -/
def arrive (w : Zdo) (k : ℕ) : Zdo := { w with frames := w.frames.eraseIdx k }

/-- One event. -/
def step (w : Zdo) : Event → Zdo
  | .request cb respCounter noResp => w.sendReq cb respCounter noResp
  | .leaveLocally cb => w.mgmtLeaveCli cb
  | .send first noResp => w.push ⟨first, none, noResp⟩
  | .confirm k status =>
    match w.frames[k]? with
    | none => w
    | some frame => (w.arrive k).dataConfirm frame status
  | .response tsn answers =>
    (match answers with
      | none => w
      | some n => w.consume n).afResp tsn (.response answers)
  | .lose n => w.consume n

/-- How often the callback of request `n` was invoked. -/
def count (w : Zdo) (n : ℕ) : ℕ := w.invoked.countP (·.1 == n)

/-- Something is to come that releases the callback of slot `i`: the responses its counter
waits for, or the confirm of its request. -/
def Due (w : Zdo) (i : ℕ) : Prop :=
  (w.zdoCb i).respCounter.toNat ≤ w.owed (w.zdoCb i).request ∨
    (w.zdoCb i).respCounter = 1 ∧
      ∃ frame ∈ w.frames, frame.own = some (w.zdoCb i).request ∧ frame.noResp = true

/-- Every callback was invoked for its own request and not too often, no request's callback was
dropped without a report, and something is to come that releases every callback that is
registered. -/
structure Transacts (w : Zdo) : Prop where
  own : ∀ call ∈ w.invoked, call.2.request = some call.1
  bounded : ∀ n, w.count n ≤ (w.granted n).toNat
  registered : w.dropped = []
  released : ∀ i, w.Registered i → w.Due i

/-- There is room for a callback under the next sequence number, and no other waits there. -/
def Room (w : Zdo) : Prop :=
  (∃ i < tranTableSize, (w.zdoCb i).func = none) ∧
    ∀ i < tranTableSize, (w.zdoCb i).func ≠ none → (w.zdoCb i).tsn ≠ w.tsn + 1

instance (w : Zdo) : Decidable w.Room := inferInstanceAs (Decidable (_ ∧ _))

/-- Callbacks are registered in a free slot under a number no other waits for, with a counter
that is not zero, and is one where no response comes.  A response has the number of a
waiting callback exactly if it answers its request, and no response a callback waits for
is lost. -/
def Careful (w : Zdo) : Event → Prop
  | .request cb respCounter noResp =>
    cb.isSome → w.Room ∧ respCounter ≠ 0 ∧ (noResp = true → respCounter = 1)
  | .leaveLocally _ => w.Room
  | .send _ _ => True
  | .confirm k status => ∀ frame ∈ w.frames[k]?, ∀ i < tranTableSize, (w.zdoCb i).func ≠ none →
    (w.zdoCb i).Confirmed frame status
  | .response tsn answers => ∀ i < tranTableSize, (w.zdoCb i).func ≠ none →
    ((w.zdoCb i).tsn = tsn ↔ answers = some (w.zdoCb i).request)
  | .lose n => ∀ i < tranTableSize, (w.zdoCb i).func ≠ none → (w.zdoCb i).request ≠ n

instance carefulDecidable (w : Zdo) : ∀ e, Decidable (w.Careful e)
  | .request _ _ _ => inferInstanceAs (Decidable (_ → _))
  | .leaveLocally _ => inferInstanceAs (Decidable w.Room)
  | .send _ _ => isTrue trivial
  | .confirm _ _ => (Option.decidableForallMem _ : Decidable (∀ frame ∈ _, ∀ i < _, _ → _))
  | .response _ _ => inferInstanceAs (Decidable (∀ i < _, _ → _))
  | .lose _ => inferInstanceAs (Decidable (∀ i < _, _ → _))

variable {w : Zdo} {tsn : UInt8}

theorem mem_probe {h i : ℕ} : i ∈ probe h ↔ i < tranTableSize := by
  simp only [probe, tranTableSize, List.mem_map, List.mem_range]
  constructor
  · rintro ⟨k, -, rfl⟩
    exact Nat.mod_lt _ (by decide)
  · intro inside
    exact ⟨(i + 16 - h % 16) % 16, Nat.mod_lt _ (by decide), by omega⟩

theorem freeSlot_spec {i : ℕ} (found : w.freeSlot tsn = some i) :
    i < tranTableSize ∧ (w.zdoCb i).func = none :=
  ⟨mem_probe.mp (List.mem_of_find?_eq_some found), by simpa using List.find?_some found⟩

theorem freeSlot_of_room (room : ∃ i < tranTableSize, (w.zdoCb i).func = none) :
    ∃ i, w.freeSlot tsn = some i := by
  obtain ⟨i, inside, free⟩ := room
  cases found : w.freeSlot tsn with
  | some k => exact ⟨k, rfl⟩
  | none =>
    have taken := List.find?_eq_none.mp found i (mem_probe.mpr inside)
    simp [free] at taken

theorem findTsn_spec {i : ℕ} (found : findTsn w.zdoCb tsn = some i) :
    w.Registered i ∧ (w.zdoCb i).tsn = tsn := by
  have holds := List.find?_some found
  simp only [decide_eq_true_eq] at holds
  exact ⟨⟨mem_probe.mp (List.mem_of_find?_eq_some found), holds.2⟩, holds.1⟩

theorem findTsn_none (found : findTsn w.zdoCb tsn = none) {i : ℕ} (registered : w.Registered i) :
    (w.zdoCb i).tsn ≠ tsn := by
  intro same
  have missed := List.find?_eq_none.mp found i (mem_probe.mpr registered.1)
  simp [same, registered.2] at missed

/-- No two callbacks that wait agree on `f`. -/
def Distinct {β : Type} (w : Zdo) (f : CbHashEnt → β) : Prop :=
  ∀ i j, w.Registered i → w.Registered j → f (w.zdoCb i) = f (w.zdoCb j) → i = j

/-- What every callback table holds between events: the callbacks were invoked for their own
requests and have invocations left, and no two wait for the same number or request. -/
structure Matched (w : Zdo) : Prop where
  own : ∀ call ∈ w.invoked, call.2.request = some call.1
  past : ∀ call ∈ w.invoked, call.1 < w.issued
  bounded : ∀ n, w.count n ≤ (w.granted n).toNat
  left : ∀ i, w.Registered i → (w.zdoCb i).respCounter ≠ 0 ∧ (w.zdoCb i).request < w.issued ∧
    w.count (w.zdoCb i).request + (w.zdoCb i).respCounter.toNat ≤
      (w.granted (w.zdoCb i).request).toNat
  number : w.Distinct CbHashEnt.tsn
  request : w.Distinct CbHashEnt.request
  carried : ∀ frame ∈ w.frames, ∀ n, frame.own = some n → n < w.issued ∧
    ∀ i, w.Registered i → (w.zdoCb i).request = n → (w.zdoCb i).tsn = frame.first

theorem issue_granted (respCounter : UInt8) (owed : ℕ) {n : ℕ} (old : n ≠ w.issued) :
    (w.issue respCounter owed).granted n = w.granted n := by
  simp [issue, old]

theorem issue_owed (respCounter : UInt8) (owed : ℕ) {n : ℕ} (old : n ≠ w.issued) :
    (w.issue respCounter owed).owed n = w.owed n := by
  simp [issue, old]

theorem consume_owed {n m : ℕ} (other : m ≠ n) : (w.consume n).owed m = w.owed m := by
  simp [consume, other]

theorem count_eq_zero {n : ℕ} (fresh : ∀ call ∈ w.invoked, call.1 < n) : w.count n = 0 := by
  refine List.countP_eq_zero.mpr fun call member => ?_
  simpa using (fresh call member).ne

/-- No callback waits for a request that has not been made. -/
theorem Matched.fresh (matched : w.Matched) {i : ℕ} (registered : w.Registered i) :
    (w.zdoCb i).request ≠ w.issued := (matched.left i registered).2.1.ne

theorem Matched.issue (matched : w.Matched) (respCounter : UInt8) (owed : ℕ) :
    (w.issue respCounter owed).Matched where
  own := matched.own
  past := fun call member => (matched.past call member).trans (Nat.lt_succ_self _)
  bounded := by
    intro n
    by_cases new : n = w.issued
    · subst new
      have zero : (w.issue respCounter owed).count w.issued = 0 := count_eq_zero matched.past
      omega
    · rw [issue_granted _ _ new]
      exact matched.bounded n
  left := by
    intro i registered
    obtain ⟨positive, old, bounded⟩ := matched.left i registered
    refine ⟨positive, old.trans (Nat.lt_succ_self _), bounded.trans (le_of_eq ?_)⟩
    exact congrArg UInt8.toNat (issue_granted _ _ old.ne).symm
  number := matched.number
  request := matched.request
  carried := fun frame member n own =>
    ⟨(matched.carried frame member n own).1.trans (Nat.lt_succ_self _),
      (matched.carried frame member n own).2⟩

theorem Matched.push (matched : w.Matched) {frame : Frame}
    (carried : ∀ n, frame.own = some n → n < w.issued ∧
      ∀ i, w.Registered i → (w.zdoCb i).request = n → (w.zdoCb i).tsn = frame.first) :
    (w.push frame).Matched where
  own := matched.own
  past := matched.past
  bounded := matched.bounded
  left := matched.left
  number := matched.number
  request := matched.request
  carried := by
    intro other member
    rcases List.mem_append.mp member with old | new
    · exact matched.carried other old
    · rw [List.mem_singleton.mp new]
      exact carried

theorem Matched.arrive (matched : w.Matched) (k : ℕ) : (w.arrive k).Matched where
  own := matched.own
  past := matched.past
  bounded := matched.bounded
  left := matched.left
  number := matched.number
  request := matched.request
  carried := fun frame member => matched.carried frame (List.mem_of_mem_eraseIdx member)

theorem Matched.consume (matched : w.Matched) (n : ℕ) : (w.consume n).Matched where
  own := matched.own
  past := matched.past
  bounded := matched.bounded
  left := matched.left
  number := matched.number
  request := matched.request
  carried := matched.carried

/-- The entry that `register_zdo_cb` writes. -/
theorem register_spec (func n : ℕ) (respCounter : UInt8) (room : ∃ i, w.freeSlot tsn = some i) :
    ∃ i < tranTableSize, (w.zdoCb i).func = none ∧
      w.register tsn (some func) respCounter n =
        w.write i ⟨some func, tsn, respCounter, n⟩ := by
  obtain ⟨i, found⟩ := room
  obtain ⟨inside, free⟩ := freeSlot_spec found
  exact ⟨i, inside, free, by simp [register, found]⟩

theorem write_slot (i : ℕ) (ent : CbHashEnt) (j : ℕ) :
    j = i ∧ (w.write i ent).zdoCb j = ent ∨ j ≠ i ∧ (w.write i ent).zdoCb j = w.zdoCb j := by
  by_cases same : j = i
  · exact .inl ⟨same, by simp [write, same]⟩
  · exact .inr ⟨same, by simp [write, same]⟩

theorem Registered.kept {i j : ℕ} {ent : CbHashEnt} (registered : (w.write i ent).Registered j)
    (other : (w.write i ent).zdoCb j = w.zdoCb j) : w.Registered j :=
  ⟨registered.1, other ▸ registered.2⟩

theorem Distinct.write {β : Type} {f : CbHashEnt → β} (distinct : w.Distinct f) {i : ℕ}
    {ent : CbHashEnt} (new : ∀ j ≠ i, w.Registered j → f (w.zdoCb j) ≠ f ent) :
    (w.write i ent).Distinct f := by
  intro j k first second equal
  rcases write_slot (w := w) i ent j with ⟨atJ, written⟩ | ⟨other, same⟩ <;>
    rcases write_slot (w := w) i ent k with ⟨atK, written'⟩ | ⟨other', same'⟩
  · exact atJ.trans atK.symm
  · rw [written, same'] at equal
    exact absurd equal.symm (new k other' (second.kept same'))
  · rw [same, written'] at equal
    exact absurd equal (new j other (first.kept same))
  · rw [same, same'] at equal
    exact distinct j k (first.kept same) (second.kept same') equal

/-- A callback for a request that no other waits for, under a number no other waits for, keeps the
table matched. -/
theorem Matched.write (matched : w.Matched) {i : ℕ} {ent : CbHashEnt}
    (positive : ent.func ≠ none → ent.respCounter ≠ 0) (past : ent.request < w.issued)
    (bounded : w.count ent.request + ent.respCounter.toNat ≤ (w.granted ent.request).toNat)
    (number : ∀ j ≠ i, w.Registered j → (w.zdoCb j).tsn ≠ ent.tsn)
    (request : ∀ j ≠ i, w.Registered j → (w.zdoCb j).request ≠ ent.request)
    (carried : ∀ frame ∈ w.frames, frame.own = some ent.request → ent.tsn = frame.first) :
    (w.write i ent).Matched where
  own := matched.own
  past := matched.past
  bounded := matched.bounded
  left := by
    intro j registered
    rcases write_slot (w := w) i ent j with ⟨rfl, written⟩ | ⟨other, same⟩
    · rw [written]
      have held := registered.2
      rw [written] at held
      exact ⟨positive held, past, bounded⟩
    · rw [same]
      exact matched.left j (registered.kept same)
  number := matched.number.write number
  request := matched.request.write request
  carried := by
    intro frame member n own
    refine ⟨(matched.carried frame member n own).1, fun j registered => ?_⟩
    rcases write_slot (w := w) i ent j with ⟨rfl, written⟩ | ⟨other, same⟩
    · rw [written]
      rintro rfl
      exact carried frame member own
    · rw [same]
      exact (matched.carried frame member n own).2 j (registered.kept same)

theorem count_append (call : ℕ × Cause) (n : ℕ) :
    ({ w with invoked := w.invoked ++ [call] } : Zdo).count n =
      w.count n + if call.1 = n then 1 else 0 := by
  simp [count, List.countP_append, List.countP_cons]

/-- An invocation for a request whose callback has one left keeps the table matched. -/
theorem Matched.record (matched : w.Matched) {call : ℕ × Cause}
    (own : call.2.request = some call.1) (past : call.1 < w.issued)
    (bounded : w.count call.1 + 1 ≤ (w.granted call.1).toNat)
    (left : ∀ i, w.Registered i → (w.zdoCb i).request = call.1 →
      w.count call.1 + 1 + (w.zdoCb i).respCounter.toNat ≤ (w.granted call.1).toNat) :
    ({ w with invoked := w.invoked ++ [call] } : Zdo).Matched where
  own := by
    intro other member
    rcases List.mem_append.mp member with old | new
    · exact matched.own other old
    · rwa [List.mem_singleton.mp new]
  past := by
    intro other member
    rcases List.mem_append.mp member with old | new
    · exact matched.past other old
    · rwa [List.mem_singleton.mp new]
  bounded := by
    intro n
    rw [count_append]
    split
    · next same => exact same ▸ bounded
    · exact matched.bounded n
  left := by
    intro i registered
    obtain ⟨positive, old, enough⟩ := matched.left i registered
    refine ⟨positive, old, ?_⟩
    rw [count_append]
    split
    · next same =>
      have last := left i registered same.symm
      rw [same] at last
      exact last
    · exact enough
  number := matched.number
  request := matched.request
  carried := matched.carried

theorem pred_toNat {c : UInt8} (positive : c ≠ 0) : (c - 1).toNat + 1 = c.toNat := by
  have nonzero : c.toNat ≠ 0 := fun zero => positive (UInt8.toNat_inj.mp zero)
  have below := c.toNat_lt
  rw [UInt8.toNat_sub]
  simp only [UInt8.toNat_one]
  omega

/-- A callback that is invoked for its own request keeps the table matched. -/
theorem Matched.invoke (matched : w.Matched) {i : ℕ} (registered : w.Registered i) {cause : Cause}
    (own : cause.request = some (w.zdoCb i).request) : (w.invoke i cause).Matched := by
  obtain ⟨positive, past, bounded⟩ := matched.left i registered
  have down := pred_toNat positive
  have counted : (w.write i (countedDown (w.zdoCb i))).Matched := by
    refine matched.write (fun held => ?_) past ?_ (fun j other waits same => ?_)
      (fun j other waits same => ?_) fun frame member carries => ?_
    · intro zero
      exact held (if_pos zero)
    · show w.count (w.zdoCb i).request + ((w.zdoCb i).respCounter - 1).toNat ≤ _
      exact le_trans (by omega) bounded
    · exact other (matched.number j i waits registered same)
    · exact other (matched.request j i waits registered same)
    · exact (matched.carried frame member _ carries).2 i registered rfl
  refine counted.record own past (le_trans ?_ bounded) fun j waits same => ?_
  · show w.count (w.zdoCb i).request + 1 ≤ _
    omega
  · rcases write_slot (w := w) i (countedDown (w.zdoCb i)) j with ⟨-, written⟩ | ⟨other, kept⟩
    · rw [written]
      show w.count (w.zdoCb i).request + 1 + ((w.zdoCb i).respCounter - 1).toNat ≤ _
      exact le_trans (by omega) bounded
    · rw [kept] at same
      exact absurd (matched.request j i (waits.kept kept) registered same) other

/-- The table is matched, nothing was dropped, and every callback is due. -/
structure Sound (w : Zdo) : Prop where
  matched : w.Matched
  registered : w.dropped = []
  due : ∀ i, w.Registered i → w.Due i

/-- Releasing what has the number `tsn` keeps the table sound, where that number is the one of
the request the invocation is for, and all other callbacks are due. -/
theorem sound_afResp (matched : w.Matched) (dropped : w.dropped = []) {cause : Cause}
    (own : ∀ i, w.Registered i → (w.zdoCb i).tsn = tsn →
      cause.request = some (w.zdoCb i).request ∧
        (w.zdoCb i).respCounter.toNat ≤ w.owed (w.zdoCb i).request + 1)
    (due : ∀ i, w.Registered i → (w.zdoCb i).tsn ≠ tsn → w.Due i) :
    (w.afResp tsn cause).Sound := by
  unfold afResp
  split
  · next missed => exact ⟨matched, dropped, fun i waits => due i waits (findTsn_none missed waits)⟩
  · next i found =>
    obtain ⟨registered, number⟩ := findTsn_spec found
    obtain ⟨request, enough⟩ := own i registered number
    refine ⟨matched.invoke registered request, dropped, fun j waits => ?_⟩
    rcases write_slot (w := w) i (countedDown (w.zdoCb i)) j with ⟨rfl, written⟩ | ⟨other, kept⟩
    · left
      have down := pred_toNat (matched.left j registered).1
      show ((w.write j (countedDown (w.zdoCb j))).zdoCb j).respCounter.toNat ≤
        w.owed ((w.write j (countedDown (w.zdoCb j))).zdoCb j).request
      rw [written]
      show ((w.zdoCb j).respCounter - 1).toNat ≤ w.owed (w.zdoCb j).request
      omega
    · have before : w.Registered j := Registered.kept (w := w) waits kept
      have still := due j before fun same =>
        other (matched.number j i before registered (same.trans number.symm))
      unfold Due at still ⊢
      rw [← kept] at still
      exact still

/-- A new callback in a free slot under a fresh number keeps the table sound. -/
theorem sound_register (matched : w.Matched) (dropped : w.dropped = [])
    (due : ∀ i, w.Registered i → w.Due i) {n : ℕ} {respCounter : UInt8} {func : ℕ}
    (room : ∃ i, w.freeSlot tsn = some i)
    (fresh : ∀ i, w.Registered i → (w.zdoCb i).tsn ≠ tsn ∧ (w.zdoCb i).request ≠ n)
    (positive : respCounter ≠ 0) (past : n < w.issued) (unused : w.count n = 0)
    (granted : w.granted n = respCounter)
    (carried : ∀ frame ∈ w.frames, frame.own = some n → tsn = frame.first)
    (comes : respCounter.toNat ≤ w.owed n ∨
      respCounter = 1 ∧ ∃ frame ∈ w.frames, frame.own = some n ∧ frame.noResp = true) :
    (w.register tsn (some func) respCounter n).Sound := by
  obtain ⟨i, inside, free, written⟩ := register_spec func n respCounter room
  rw [written]
  refine ⟨matched.write (fun _ => positive) past ?_ (fun j _ waits => (fresh j waits).1)
    (fun j _ waits => (fresh j waits).2) carried, dropped, fun j waits => ?_⟩
  · show w.count n + respCounter.toNat ≤ (w.granted n).toNat
    rw [unused, granted, Nat.zero_add]
  · rcases write_slot (w := w) i ⟨some func, tsn, respCounter, n⟩ j with
      ⟨rfl, written⟩ | ⟨other, kept⟩
    · unfold Due
      rw [written]
      exact comes
    · have still := due j (Registered.kept waits kept)
      unfold Due at still ⊢
      rw [← kept] at still
      exact still

theorem Sound.sendReq (sound : w.Sound) {cb : Option ℕ} {respCounter : UInt8} {noResp : Bool}
    (careful : w.Careful (.request cb respCounter noResp)) :
    (w.sendReq cb respCounter noResp).Sound := by
  have pushed : ((w.issue respCounter (if noResp then 0 else respCounter.toNat)).push
      ⟨w.tsn + 1, some w.issued, noResp⟩).Matched := by
    refine (sound.matched.issue _ _).push fun n own => ?_
    obtain rfl : w.issued = n := Option.some.inj own
    exact ⟨Nat.lt_succ_self _, fun i waits same => absurd same (sound.matched.fresh waits)⟩
  have due : ∀ i, w.Registered i →
      ((w.issue respCounter (if noResp then 0 else respCounter.toNat)).push
        ⟨w.tsn + 1, some w.issued, noResp⟩).Due i := by
    intro i waits
    rcases sound.due i waits with comes | ⟨last, frame, member, own⟩
    · left
      exact comes.trans (issue_owed respCounter _ (sound.matched.fresh waits)).ge
    · exact .inr ⟨last, frame, List.mem_append_left _ member, own⟩
  cases cb with
  | none => exact ⟨pushed, sound.registered, due⟩
  | some func =>
    obtain ⟨room, positive, single⟩ := careful rfl
    refine sound_register pushed sound.registered due (freeSlot_of_room room.1)
      (fun i waits => ⟨room.2 i waits.1 waits.2, sound.matched.fresh waits⟩) positive
      (Nat.lt_succ_self _) (count_eq_zero sound.matched.past) (by simp [push, issue]) ?_ ?_
    · intro frame member own
      rcases List.mem_append.mp member with old | new
      · exact absurd (sound.matched.carried frame old _ own).1 (lt_irrefl _)
      · rw [List.mem_singleton.mp new]
        rfl
    · cases noResp with
      | false => exact .inl (by simp [push, issue])
      | true =>
        exact .inr ⟨single rfl, _, List.mem_append_right _ (List.mem_singleton_self _), rfl, rfl⟩

theorem Sound.mgmtLeaveCli (sound : w.Sound) {cb : ℕ} (room : w.Room) :
    (w.mgmtLeaveCli cb).Sound := by
  refine sound_register (sound.matched.issue 1 1) sound.registered (fun i waits => ?_)
    (freeSlot_of_room room.1)
    (fun i waits => ⟨room.2 i waits.1 waits.2, sound.matched.fresh waits⟩) (by decide)
    (Nat.lt_succ_self _) (count_eq_zero sound.matched.past) (by simp [issue]) ?_ ?_
  · rcases sound.due i waits with comes | frame
    · exact .inl (comes.trans (issue_owed 1 1 (sound.matched.fresh waits)).ge)
    · exact .inr frame
  · intro frame member own
    exact absurd (sound.matched.carried frame member _ own).1 (lt_irrefl _)
  · exact .inl (by simp [issue])

theorem Sound.send (sound : w.Sound) (first : UInt8) (noResp : Bool) :
    (w.push ⟨first, none, noResp⟩).Sound := by
  refine ⟨sound.matched.push fun n own => (nomatch own), sound.registered, fun i waits => ?_⟩
  rcases sound.due i waits with comes | ⟨last, frame, member, own⟩
  · exact .inl comes
  · exact .inr ⟨last, frame, List.mem_append_left _ member, own⟩

/-- When a frame has arrived what does not wait for its confirm is still due. -/
theorem Due.arrive {i k : ℕ} {frame : Frame} (due : w.Due i) (found : w.frames[k]? = some frame)
    (other : frame.own = some (w.zdoCb i).request → frame.noResp = false) :
    (w.arrive k).Due i := by
  rcases due with comes | ⟨last, carrier, member, own, noResp⟩
  · exact .inl comes
  · refine .inr ⟨last, carrier, ?_, own, noResp⟩
    obtain ⟨j, at_⟩ := List.mem_iff_getElem?.mp member
    refine List.mem_eraseIdx_iff_getElem?.mpr ⟨j, ?_, at_⟩
    rintro rfl
    obtain rfl : frame = carrier := Option.some.inj (found.symm.trans at_)
    rw [other own] at noResp
    cases noResp

theorem Due.counter_le {i : ℕ} (due : w.Due i) :
    (w.zdoCb i).respCounter.toNat ≤ w.owed (w.zdoCb i).request + 1 := by
  rcases due with comes | ⟨last, -⟩
  · exact comes.trans (Nat.le_succ _)
  · rw [last]
    exact Nat.le_add_left _ _

/-- The confirm of a frame that releases its callback. -/
theorem Sound.release (sound : w.Sound) {k : ℕ} {frame : Frame} (found : w.frames[k]? = some frame)
    (careful : ∀ i < tranTableSize, (w.zdoCb i).func ≠ none →
      (w.zdoCb i).tsn = frame.first → frame.own = some (w.zdoCb i).request) :
    ((w.arrive k).afResp frame.first (.confirm frame.own)).Sound := by
  have member : frame ∈ w.frames := List.mem_of_getElem? found
  refine sound_afResp (sound.matched.arrive k) sound.registered (fun i waits number => ?_)
    fun i waits other => ?_
  · exact ⟨careful i waits.1 waits.2 number, (sound.due i waits).counter_le⟩
  · exact (sound.due i waits).arrive found fun own =>
      absurd ((sound.matched.carried frame member _ own).2 i waits rfl) other

theorem Sound.confirm (sound : w.Sound) {k : ℕ} {status : Status}
    (careful : w.Careful (.confirm k status)) : (w.step (.confirm k status)).Sound := by
  simp only [Zdo.step]
  split
  · exact sound
  · next frame found =>
    have met := careful frame found
    cases status with
    | noAck => exact sound.release found fun i inside waits => (met i inside waits).1 (.inl rfl)
    | ok =>
      simp only [Zdo.dataConfirm]
      split
      · next noResp =>
        exact sound.release found fun i inside waits =>
          (met i inside waits).1 (.inr ⟨rfl, noResp⟩)
      · next answered =>
        exact ⟨sound.matched.arrive k, sound.registered, fun i waits =>
          (sound.due i waits).arrive found fun _ => by simpa using answered⟩
    | failed =>
      refine ⟨sound.matched.arrive k, sound.registered, fun i waits =>
        (sound.due i waits).arrive found fun own => Bool.eq_false_iff.mpr fun noResp => ?_⟩
      exact (met i waits.1 waits.2).2 ⟨rfl, noResp⟩ own

/-- A response is one less to come for its own request only. -/
theorem Due.consume {i n : ℕ} (due : w.Due i) (other : (w.zdoCb i).request ≠ n) :
    (w.consume n).Due i := by
  rcases due with comes | frame
  · exact .inl (comes.trans (consume_owed other).ge)
  · exact .inr frame

theorem Due.consume_le {i : ℕ} (due : w.Due i) :
    (w.zdoCb i).respCounter.toNat ≤
      (w.consume (w.zdoCb i).request).owed (w.zdoCb i).request + 1 := by
  have consumed : (w.consume (w.zdoCb i).request).owed (w.zdoCb i).request =
      w.owed (w.zdoCb i).request - 1 := by simp [Zdo.consume]
  rw [consumed]
  rcases due with comes | ⟨last, -⟩
  · omega
  · rw [last]
    exact Nat.le_add_left _ _

theorem Sound.response (sound : w.Sound) {answers : Option ℕ}
    (careful : w.Careful (.response tsn answers)) : (w.step (.response tsn answers)).Sound := by
  cases answers with
  | none =>
    refine sound_afResp sound.matched sound.registered (fun i waits number => ?_)
      fun i waits _ => sound.due i waits
    cases (careful i waits.1 waits.2).mp number
  | some n =>
    refine sound_afResp (sound.matched.consume n) sound.registered (fun i waits number => ?_)
      fun i waits other => (sound.due i waits).consume fun same =>
        other ((careful i waits.1 waits.2).mpr (congrArg some same.symm))
    have own := (careful i waits.1 waits.2).mp number
    obtain rfl : n = (w.zdoCb i).request := Option.some.inj own
    exact ⟨own, (sound.due i waits).consume_le⟩

theorem Sound.step (sound : w.Sound) (e : Event) (careful : w.Careful e) : (w.step e).Sound := by
  cases e with
  | request cb respCounter noResp => exact sound.sendReq careful
  | leaveLocally cb => exact sound.mgmtLeaveCli careful
  | send first noResp => exact sound.send first noResp
  | confirm k status => exact sound.confirm careful
  | response tsn answers => exact sound.response careful
  | lose n =>
    exact ⟨sound.matched.consume n, sound.registered, fun i waits =>
      (sound.due i waits).consume (careful i waits.1 waits.2)⟩

theorem init_sound : init.Sound where
  matched :=
    { own := fun call member => by cases member
      past := fun call member => by cases member
      bounded := fun n => Nat.le_refl _
      left := fun i waits => absurd rfl waits.2
      number := fun i j waits => absurd rfl waits.2
      request := fun i j waits => absurd rfl waits.2
      carried := fun frame member => by cases member }
  registered := rfl
  due := fun i waits => absurd rfl waits.2

theorem Sound.transacts (sound : w.Sound) : w.Transacts :=
  ⟨sound.matched.own, sound.matched.bounded, sound.registered, sound.due⟩

/-- **ZDO transactions.**  Where callbacks get a slot and a number of their own, responses carry the
number of a waiting callback exactly if they answer its request, failed frames carry it only
if they carry its request, and no awaited response is lost, callbacks are invoked for their
own requests only and not too often, none is dropped, and what releases each is to come. -/
theorem zdo_transactions (events : List Event) (careful : Along step Careful init events) :
    (run step init events).Transacts :=
  (invariant_of_along (fun _ e sound careful => sound.step e careful) init events init_sound
    careful).transacts

/-- A request for two responses and another without response; the first is answered twice, the
second sent. -/
theorem zdo_transactions_twoRequests :
    (run step init [.request (some 1) 2 false, .request (some 2) 1 true, .response 1 (some 0),
      .confirm 1 .ok, .send 7 false, .confirm 1 .noAck, .response 1 (some 0)]).Transacts :=
  zdo_transactions _ (by decide)

/-- A response of this device to a request of its peer under the number of its own request is not
acknowledged: the callback of that request takes it for its own failure. -/
theorem crossedExchange_invoked :
    ¬∀ events, (run step init events).Transacts := by
  intro claim
  have own := (claim [.request (some 1) 1 false, .send 1 false, .confirm 1 .noAck]).own
    (0, .confirm none) (by decide)
  cases own

end Zdo

end Zboss.Transactions
