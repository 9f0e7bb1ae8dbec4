import Mathlib.Data.List.Infix
import Mathlib.Data.List.Nodup
import Mathlib.Data.List.Range
import Zboss.Aps.Header
import Zboss.Lib.Run

/-!
Delivery of group addressed frames.  A frame for a group waits in a queue, and a job copies it into
a new in buffer for each endpoint of the group, one for each run of its callback.  The frames that
come are numbered, and with each frame that is taken the endpoints are noted that its group has
then.
-/

namespace Zboss.GroupDelivery

open Zboss.Aps (apsStatusTableFull)
open Zboss.Run

def apsGroupTableSize : ℕ := 16

def apsEndpointsInGroupTable : ℕ := 8

def apsGroupUpQSize : ℕ := 8

def bufsLimit : ℕ := 8

/-! ## The group table -/

structure GroupEnt where
  groupAddr : UInt16
  endpoints : List UInt8
  deriving DecidableEq, Repr

/-- What `zb_apsme_add_group_request` does to the entry of its group. -/
def GroupEnt.addEndpoint (ent : GroupEnt) (endpoint : UInt8) : GroupEnt × UInt8 :=
  if endpoint ∈ ent.endpoints then (ent, 0)
  else if ent.endpoints.length < apsEndpointsInGroupTable then
    ({ ent with endpoints := ent.endpoints ++ [endpoint] }, 0)
  else (ent, apsStatusTableFull)

/-- The search of `zb_apsme_add_group_request` from the entry `i` on. -/
def addGroupFrom (groupAddr : UInt16) (endpoint : UInt8) : ℕ → List GroupEnt → List GroupEnt × UInt8
  | i, [] =>
    if i < apsGroupTableSize then ([⟨groupAddr, [endpoint]⟩], 0) else ([], apsStatusTableFull)
  | i, ent :: rest =>
    if ent.groupAddr = groupAddr then
      ((ent.addEndpoint endpoint).1 :: rest, (ent.addEndpoint endpoint).2)
    else
      let result := addGroupFrom groupAddr endpoint (i + 1) rest
      (ent :: result.1, result.2)

/-- `zb_apsme_add_group_request`: the table, and the status of the confirm. -/
def apsmeAddGroupRequest (groups : List GroupEnt) (groupAddr : UInt16) (endpoint : UInt8) :
    List GroupEnt × UInt8 :=
  addGroupFrom groupAddr endpoint 0 groups

/-- The endpoints of a group. -/
def endpointsOf (groups : List GroupEnt) (groupAddr : UInt16) : List UInt8 :=
  ((groups.find? fun ent => ent.groupAddr = groupAddr).map (·.endpoints)).getD []

/-! ## Buffers and callbacks -/

/-- A buffer with a group addressed frame: its number, `u.hdr.handle`, two fields of the parsed
header behind it, and what is in it. -/
structure Buf where
  number : ℕ
  handle : UInt8
  groupAddr : UInt16
  dstEndpoint : UInt8
  asdu : List UInt8
  deriving DecidableEq, Repr

/-- The callbacks of the group delivery in the ring; `passGroupMsgUp` has an in buffer. -/
inductive Callback
  | passUpGroupBuf (b : Buf)
  | passGroupMsgUp
  deriving DecidableEq, Repr

/-- A callback that waits for an in buffer. -/
inductive Waiter
  | passGroupMsgUp
  | other
  deriving DecidableEq, Repr

/-- The pool of the in buffers and the scheduler: how many callbacks the ring takes and how many
entries are left for callbacks that wait.  Of the buffers that are allocated, `others` are in use
elsewhere and will be freed, and `kept` are not freed: `operation_recv_buf` of the MAC, and those
that were given to a callback the ring refused. -/
structure Pool where
  cbRoom : ℕ
  callbacks : List Callback
  entries : ℕ
  inbufQueue : List Waiter
  bufsAllocated : ℕ
  others : ℕ
  kept : ℕ
  rxNeedBuf : Bool
  deriving DecidableEq, Repr

namespace Pool

variable (p : Pool)

/-- `ZB_SCHEDULE_CALLBACK` of a callback with an in buffer; the status is not looked at. -/
def schedule (cb : Callback) : Pool :=
  if p.cbRoom = 0 then { p with kept := p.kept + 1 }
  else { p with cbRoom := p.cbRoom - 1, callbacks := p.callbacks ++ [cb] }

/-- The same, of a callback that is not of the group delivery. -/
def scheduleOther : Pool :=
  if p.cbRoom = 0 then { p with kept := p.kept + 1 }
  else { p with cbRoom := p.cbRoom - 1, others := p.others + 1 }

def scheduleWaiter : Waiter → Pool
  | .passGroupMsgUp => p.schedule .passGroupMsgUp
  | .other => p.scheduleOther

/-- `zb_get_in_buf_delayed`; the status is not looked at. -/
def getInBufDelayed (waiter : Waiter) : Pool :=
  if p.bufsAllocated < bufsLimit then
    { p with bufsAllocated := p.bufsAllocated + 1 }.scheduleWaiter waiter
  else if p.entries = 0 then p
  else { p with entries := p.entries - 1, inbufQueue := p.inbufQueue ++ [waiter] }

/-- `zb_free_buf` of an in buffer. -/
def freeBuf : Pool :=
  match p.rxNeedBuf, p.inbufQueue with
  | false, waiter :: rest =>
    { p with inbufQueue := rest, entries := p.entries + 1 }.scheduleWaiter waiter
  | _, _ => { p with bufsAllocated := p.bufsAllocated - 1 }

/-- The MAC takes a buffer for a frame that it has received, and hands it on or drops it. -/
def macReceive (dropped : Bool) : Pool :=
  if p.bufsAllocated < bufsLimit then
    let p := { p with bufsAllocated := p.bufsAllocated + 1 }
    let p := if dropped then p.freeBuf else { p with others := p.others + 1 }
    { p with rxNeedBuf := false }
  else { p with rxNeedBuf := true }

/-- `zb_get_in_buf` elsewhere. -/
def take : Pool :=
  if p.bufsAllocated < bufsLimit then
    { p with bufsAllocated := p.bufsAllocated + 1, others := p.others + 1 }
  else p

/-- A buffer that is in use elsewhere is freed. -/
def release : Pool :=
  if p.others = 0 then p else { p with others := p.others - 1 }.freeBuf

end Pool

/-! ## The group delivery -/

/-- A frame that was taken, and the endpoints that its group had then. -/
structure Entry where
  buf : Buf
  registered : List UInt8
  deriving DecidableEq, Repr

/-- `ZG->aps.group`, with how many frames have come; the frames that were taken, the copies that
were indicated, and the frames that are finished with. -/
structure Group where
  groups : List GroupEnt
  active : Option Buf
  passUpQ : List Buf
  arrivals : ℕ
  accepted : List Entry
  indicated : List Buf
  finished : List ℕ
  deriving DecidableEq, Repr

structure Aps where
  group : Group
  pool : Pool
  deriving DecidableEq, Repr

/-- After the initialisation: the MAC has its `operation_recv_buf`. -/
def Aps.init : Aps where
  group :=
    { groups := []
      active := none
      passUpQ := []
      arrivals := 0
      accepted := []
      indicated := []
      finished := [] }
  pool :=
    { cbRoom := 16
      callbacks := []
      entries := 16
      inbufQueue := []
      bufsAllocated := 1
      others := 0
      kept := 1
      rxNeedBuf := false }

/-- The endpoint that the frame is to be copied for next. -/
def Group.nextEndpoint (g : Group) (b : Buf) : Option UInt8 :=
  (g.groups.find? fun ent => ent.groupAddr = b.groupAddr).bind fun ent =>
    ent.endpoints[b.handle.toNat]?

/-- The copy of a frame for an endpoint. -/
def Buf.copyFor (b : Buf) (endpoint : UInt8) : Buf := { b with handle := 0, dstEndpoint := endpoint }

namespace Aps

variable (w : Aps)

/-- A group addressed frame in a buffer that was in use elsewhere has been parsed:
`zb_aps_pass_up_group_buf` is scheduled with it. -/
def arrive (groupAddr : UInt16) (dstEndpoint : UInt8) (asdu : List UInt8) : Aps :=
  if w.pool.others = 0 then w
  else
    let b : Buf := ⟨w.group.arrivals, 0, groupAddr, dstEndpoint, asdu⟩
    { group := { w.group with arrivals := w.group.arrivals + 1 }
      pool := { w.pool with others := w.pool.others - 1 }.schedule (.passUpGroupBuf b) }

/-- `zb_aps_pass_up_group_buf`. -/
def passUpGroupBuf (b : Buf) : Aps :=
  if apsGroupUpQSize ≤ w.group.passUpQ.length then { w with pool := w.pool.freeBuf }
  else
    let b := { b with handle := 0 }
    let accepted := w.group.accepted ++ [⟨b, endpointsOf w.group.groups b.groupAddr⟩]
    if w.group.active = none then
      { group := { w.group with accepted, active := some b }
        pool := w.pool.getInBufDelayed .passGroupMsgUp }
    else { w with group := { w.group with accepted, passUpQ := w.group.passUpQ ++ [b] } }

/-- `zb_aps_pass_group_msg_up`, with an in buffer. -/
def passGroupMsgUp : Aps :=
  match w.group.active with
  | none => w
  | some b =>
    match w.group.nextEndpoint b with
    | none =>
      let finished := w.group.finished ++ [b.number]
      let pool := w.pool.freeBuf
      match w.group.passUpQ with
      | next :: rest =>
        { group := { w.group with finished, active := some next, passUpQ := rest }
          pool := pool.schedule .passGroupMsgUp }
      | [] =>
        { group := { w.group with finished, active := none }
          pool := pool.freeBuf }
    | some endpoint =>
      let active := some { b with handle := b.handle + 1 }
      -- The copy is lost where the ring does not take its callback.
      let indicated :=
        if w.pool.cbRoom = 0 then w.group.indicated
        else w.group.indicated ++ [b.copyFor endpoint]
      { group := { w.group with active, indicated }
        pool := w.pool.scheduleOther.getInBufDelayed .passGroupMsgUp }

/-- The scheduler runs the next callback of the group delivery. -/
def runCallback : Aps :=
  match w.pool.callbacks with
  | [] => w
  | cb :: rest =>
    let w := { w with pool := { w.pool with callbacks := rest } }
    match cb with
    | .passUpGroupBuf b => w.passUpGroupBuf b
    | .passGroupMsgUp => w.passGroupMsgUp

end Aps

/-- What happens: `scheduler` says how much room the rest of the stack leaves. -/
inductive Event
  | addGroup (groupAddr : UInt16) (endpoint : UInt8)
  | scheduler (cbRoom entries : ℕ)
  | macReceive (dropped : Bool)
  | take
  | ask
  | release
  | arrive (groupAddr : UInt16) (dstEndpoint : UInt8) (asdu : List UInt8)
  | run
  deriving DecidableEq, Repr

def step (w : Aps) : Event → Aps
  | .addGroup groupAddr endpoint =>
    let groups := (apsmeAddGroupRequest w.group.groups groupAddr endpoint).1
    { w with group := { w.group with groups } }
  | .scheduler cbRoom entries => { w with pool := { w.pool with cbRoom, entries } }
  | .macReceive dropped => { w with pool := w.pool.macReceive dropped }
  | .take => { w with pool := w.pool.take }
  | .ask => { w with pool := w.pool.getInBufDelayed .other }
  | .release => { w with pool := w.pool.release }
  | .arrive groupAddr dstEndpoint asdu => w.arrive groupAddr dstEndpoint asdu
  | .run => w.runCallback

/-! ## What is expected -/

/-- No group and no endpoint of a group is there twice, and the table holds no more than it may. -/
structure Table (groups : List GroupEnt) : Prop where
  distinct : (groups.map (·.groupAddr)).Nodup
  endpoints : ∀ ent ∈ groups, ent.endpoints.Nodup ∧ ent.endpoints.length ≤ apsEndpointsInGroupTable
  size : groups.length ≤ apsGroupTableSize

/-- What a request does to a table. -/
structure Adds (groups : List GroupEnt) (groupAddr : UInt16) (endpoint : UInt8) : Prop where
  kept : Table (apsmeAddGroupRequest groups groupAddr endpoint).1
  again : apsmeAddGroupRequest (apsmeAddGroupRequest groups groupAddr endpoint).1 groupAddr
    endpoint = apsmeAddGroupRequest groups groupAddr endpoint
  full : (apsmeAddGroupRequest groups groupAddr endpoint).2 = apsStatusTableFull →
    (apsmeAddGroupRequest groups groupAddr endpoint).1 = groups
  added : (apsmeAddGroupRequest groups groupAddr endpoint).2 ≠ apsStatusTableFull →
    endpoint ∈ endpointsOf (apsmeAddGroupRequest groups groupAddr endpoint).1 groupAddr

/-- The copies of a frame that were indicated. -/
def Group.copies (g : Group) (number : ℕ) : List Buf :=
  g.indicated.filter fun copy => copy.number = number

/-- There is an in buffer outside the group delivery that will be freed, or the MAC is about to
take one. -/
def Elsewhere (p : Pool) : Prop := 0 < p.others ∨ p.rxNeedBuf = true ∧ p.bufsAllocated < bufsLimit

instance (p : Pool) : Decidable (Elsewhere p) := inferInstanceAs (Decidable (_ ∨ _))

/-- The job will go on. -/
def GoesOn (p : Pool) : Prop :=
  .passGroupMsgUp ∈ p.callbacks ∨ .passGroupMsgUp ∈ p.inbufQueue ∧ Elsewhere p

instance (p : Pool) : Decidable (GoesOn p) := inferInstanceAs (Decidable (_ ∨ _))

/-- A frame is finished with and was indicated once for each endpoint in table order, those that
were registered when it was taken and perhaps some that came later; or the job is about to go on. -/
def EntryServed (w : Aps) (e : Entry) : Prop :=
  let endpoints := endpointsOf w.group.groups e.buf.groupAddr
  ∃ done, done <+: endpoints ∧ w.group.copies e.buf.number = done.map e.buf.copyFor ∧
    (e.buf.number ∈ w.group.finished ∧ e.registered <+: done ∨
      e.buf.number ∉ w.group.finished ∧ GoesOn w.pool)

/-- The frames are taken in the order they come, each is served, nothing else is indicated, and
the buffers are accounted for: what the job has in hand, what is in use elsewhere, and the one the
MAC keeps. -/
structure Delivered (w : Aps) : Prop where
  table : Table w.group.groups
  order : w.group.accepted.map (·.buf.number) <+: List.range w.group.arrivals
  each : ∀ e ∈ w.group.accepted, EntryServed w e
  only : ∀ copy ∈ w.group.indicated, ∃ e ∈ w.group.accepted, copy = e.buf.copyFor copy.dstEndpoint
  buffers : w.pool.bufsAllocated = 1 + w.pool.others + w.pool.callbacks.length +
    w.group.active.toList.length + w.group.passUpQ.length
  idle : w.group.active = none →
    w.group.passUpQ = [] ∧ .passGroupMsgUp ∉ w.pool.callbacks ∧ .passGroupMsgUp ∉ w.pool.inbufQueue

/-- How many callbacks `zb_free_buf` schedules when it is called `n` times. -/
def passedOn (p : Pool) (n : ℕ) : ℕ := if p.rxNeedBuf then 0 else min n p.inbufQueue.length

/-- There is room for what the callback schedules, and where the job is to wait for an in buffer
there is an entry for it and another in buffer will be freed. -/
def CarefulRun (w : Aps) : Callback → Prop
  | .passUpGroupBuf _ => w.group.active = none →
    if w.pool.bufsAllocated < bufsLimit then 0 < w.pool.cbRoom
    else 0 < w.pool.entries ∧ 0 < w.pool.others
  | .passGroupMsgUp => ∀ b ∈ w.group.active,
    if w.group.nextEndpoint b = none then
      if w.group.passUpQ = [] then passedOn w.pool 2 ≤ w.pool.cbRoom
      else passedOn w.pool 1 < w.pool.cbRoom
    else if w.pool.bufsAllocated < bufsLimit then 1 < w.pool.cbRoom
    else 0 < w.pool.cbRoom ∧ 0 < w.pool.entries

instance (w : Aps) : ∀ cb, Decidable (CarefulRun w cb)
  | .passUpGroupBuf _ => inferInstanceAs (Decidable (_ → _))
  | .passGroupMsgUp => inferInstanceAs (Decidable (∀ b ∈ w.group.active, _))

/-- There is room for what is scheduled; and while the job waits, the in buffers outside the group
delivery do not all come to it, nor is the last of them withheld for a frame that is dropped. -/
def Careful (w : Aps) : Event → Prop
  | .addGroup .. | .scheduler .. | .take => True
  | .macReceive dropped => dropped = true → w.pool.bufsAllocated < bufsLimit →
    passedOn w.pool 1 ≤ w.pool.cbRoom ∧
      (.passGroupMsgUp ∈ w.pool.inbufQueue → w.pool.rxNeedBuf = true → 0 < w.pool.others)
  | .ask => w.pool.bufsAllocated < bufsLimit → 0 < w.pool.cbRoom
  | .release => 0 < w.pool.others → passedOn w.pool 1 ≤ w.pool.cbRoom
  | .arrive .. => 0 < w.pool.others → 0 < w.pool.cbRoom ∧
    (.passGroupMsgUp ∈ w.pool.inbufQueue →
      1 < w.pool.others ∨ w.pool.rxNeedBuf = true ∧ w.pool.bufsAllocated < bufsLimit)
  | .run => ∀ cb ∈ w.pool.callbacks.head?, CarefulRun w cb

instance (w : Aps) : DecidablePred (Careful w)
  | .addGroup .. | .scheduler .. | .take => isTrue trivial
  | .macReceive _ => inferInstanceAs (Decidable (_ → _ → _ ∧ (_ → _ → _)))
  | .ask => inferInstanceAs (Decidable (_ → _))
  | .release => inferInstanceAs (Decidable (_ → _))
  | .arrive .. => inferInstanceAs (Decidable (_ → _ ∧ (_ → _)))
  | .run => inferInstanceAs (Decidable (∀ cb ∈ w.pool.callbacks.head?, _))

/-! ## The group table -/

section
variable {groups first rest : List GroupEnt} {ent : GroupEnt} {groupAddr other : UInt16}
  {endpoint : UInt8} {i : ℕ}

theorem zero_ne_tableFull : (0 : UInt8) ≠ apsStatusTableFull := by decide

/-- The entry keeps its group, and its endpoints get one at their end at most. -/
theorem addEndpoint_cases (ent : GroupEnt) (endpoint : UInt8) :
    endpoint ∈ ent.endpoints ∧ ent.addEndpoint endpoint = (ent, 0) ∨
      endpoint ∉ ent.endpoints ∧ ent.endpoints.length < apsEndpointsInGroupTable ∧
        ent.addEndpoint endpoint = ({ ent with endpoints := ent.endpoints ++ [endpoint] }, 0) ∨
      ent.addEndpoint endpoint = (ent, apsStatusTableFull) := by
  rw [GroupEnt.addEndpoint]
  split
  · next present => exact .inl ⟨present, rfl⟩
  · next absent =>
    split
    · next room => exact .inr (.inl ⟨absent, room, rfl⟩)
    · exact .inr (.inr rfl)

theorem addEndpoint_groupAddr (ent : GroupEnt) (endpoint : UInt8) :
    (ent.addEndpoint endpoint).1.groupAddr = ent.groupAddr := by
  obtain ⟨-, same⟩ | ⟨-, -, added⟩ | full := addEndpoint_cases ent endpoint
  · rw [same]
  · rw [added]
  · rw [full]

theorem addEndpoint_again (ent : GroupEnt) (endpoint : UInt8) :
    (ent.addEndpoint endpoint).1.addEndpoint endpoint = ent.addEndpoint endpoint := by
  obtain ⟨-, same⟩ | ⟨-, -, added⟩ | full := addEndpoint_cases ent endpoint
  · rw [same, same]
  · have present : endpoint ∈ ent.endpoints ++ [endpoint] := by simp
    rw [added, GroupEnt.addEndpoint, if_pos present]
  · rw [full, full]

theorem addGroupFrom_found (before : ∀ ent ∈ first, ent.groupAddr ≠ groupAddr)
    (hit : ent.groupAddr = groupAddr) : addGroupFrom groupAddr endpoint i (first ++ ent :: rest) =
      (first ++ (ent.addEndpoint endpoint).1 :: rest, (ent.addEndpoint endpoint).2) := by
  induction first generalizing i with
  | nil => exact if_pos hit
  | cons head others induction_ =>
    have headOther := before head List.mem_cons_self
    rw [List.cons_append, addGroupFrom, if_neg headOther,
      induction_ fun ent member => before ent (List.mem_cons_of_mem head member)]
    rfl

theorem addGroupFrom_absent (absent : ∀ ent ∈ groups, ent.groupAddr ≠ groupAddr) :
    addGroupFrom groupAddr endpoint i groups =
      if i + groups.length < apsGroupTableSize then (groups ++ [⟨groupAddr, [endpoint]⟩], 0)
      else (groups, apsStatusTableFull) := by
  induction groups generalizing i with
  | nil => rfl
  | cons head others induction_ =>
    have headOther := absent head List.mem_cons_self
    have shift : i + 1 + others.length = i + (head :: others).length := by
      rw [List.length_cons]
      omega
    rw [addGroupFrom, if_neg headOther,
      induction_ fun ent member => absent ent (List.mem_cons_of_mem head member), shift]
    split <;> rfl

/-- A group has an entry, the first with its address, or none. -/
theorem group_cases (groups : List GroupEnt) (groupAddr : UInt16) :
    (∃ first ent rest, groups = first ++ ent :: rest ∧ ent.groupAddr = groupAddr ∧
      ∀ ent ∈ first, ent.groupAddr ≠ groupAddr) ∨ ∀ ent ∈ groups, ent.groupAddr ≠ groupAddr := by
  cases found : groups.find? fun ent => ent.groupAddr = groupAddr with
  | none => exact .inr fun ent member => by simpa using List.find?_eq_none.mp found ent member
  | some ent =>
    obtain ⟨hit, first, rest, shape, before⟩ := List.find?_eq_some_iff_append.mp found
    exact .inl ⟨first, ent, rest, shape, by simpa using hit, by simpa using before⟩

/-- What a request does to the table: the entry of the group changes, a new one comes at the end,
or nothing happens. -/
theorem add_cases (groups : List GroupEnt) (groupAddr : UInt16) (endpoint : UInt8) :
    (∃ first ent rest, groups = first ++ ent :: rest ∧ ent.groupAddr = groupAddr ∧
      (∀ ent ∈ first, ent.groupAddr ≠ groupAddr) ∧
      apsmeAddGroupRequest groups groupAddr endpoint =
        (first ++ (ent.addEndpoint endpoint).1 :: rest, (ent.addEndpoint endpoint).2)) ∨
    (∀ ent ∈ groups, ent.groupAddr ≠ groupAddr) ∧ groups.length < apsGroupTableSize ∧
      apsmeAddGroupRequest groups groupAddr endpoint =
        (groups ++ [⟨groupAddr, [endpoint]⟩], 0) ∨
    (∀ ent ∈ groups, ent.groupAddr ≠ groupAddr) ∧ ¬ groups.length < apsGroupTableSize ∧
      apsmeAddGroupRequest groups groupAddr endpoint = (groups, apsStatusTableFull) := by
  obtain ⟨first, ent, rest, shape, hit, before⟩ | absent := group_cases groups groupAddr
  · exact .inl ⟨first, ent, rest, shape, hit, before,
      shape ▸ addGroupFrom_found before hit⟩
  · have result : addGroupFrom groupAddr endpoint 0 groups = _ := addGroupFrom_absent absent
    rw [Nat.zero_add] at result
    by_cases room : groups.length < apsGroupTableSize
    · exact .inr (.inl ⟨absent, room, result.trans (if_pos room)⟩)
    · exact .inr (.inr ⟨absent, room, result.trans (if_neg room)⟩)

theorem endpointsOf_found (before : ∀ ent ∈ first, ent.groupAddr ≠ groupAddr)
    (hit : ent.groupAddr = groupAddr) :
    endpointsOf (first ++ ent :: rest) groupAddr = ent.endpoints := by
  have none_ : first.find? (fun ent => decide (ent.groupAddr = groupAddr)) = none :=
    List.find?_eq_none.mpr fun ent member => by simpa using before ent member
  simp [endpointsOf, none_, hit]

theorem endpointsOf_absent (absent : ∀ ent ∈ groups, ent.groupAddr ≠ groupAddr) :
    endpointsOf groups groupAddr = [] := by
  have none_ : groups.find? (fun ent => decide (ent.groupAddr = groupAddr)) = none :=
    List.find?_eq_none.mpr fun ent member => by simpa using absent ent member
  rw [endpointsOf, none_]
  rfl

/-- The entry of another group makes no difference. -/
theorem endpointsOf_other (differs : ent.groupAddr ≠ other) :
    endpointsOf (first ++ ent :: rest) other = endpointsOf (first ++ rest) other := by
  simp [endpointsOf, List.find?_append, differs]

/-- The endpoints of a group stay in their places. -/
theorem endpointsOf_grows (groups : List GroupEnt) (groupAddr : UInt16) (endpoint : UInt8)
    (other : UInt16) : endpointsOf groups other <+:
      endpointsOf (apsmeAddGroupRequest groups groupAddr endpoint).1 other := by
  obtain ⟨first, ent, rest, rfl, hit, before, result⟩ | ⟨absent, -, result⟩ | ⟨-, -, result⟩ :=
    add_cases groups groupAddr endpoint
  · have hit' := (addEndpoint_groupAddr ent endpoint).trans hit
    rw [result]
    by_cases same : other = groupAddr
    · subst same
      rw [endpointsOf_found before hit, endpointsOf_found before hit']
      obtain ⟨-, same⟩ | ⟨-, -, added⟩ | full := addEndpoint_cases ent endpoint
      · rw [same]
      · rw [added]
        exact List.prefix_append _ _
      · rw [full]
    · rw [endpointsOf_other (hit.trans_ne (Ne.symm same)),
        endpointsOf_other (hit'.trans_ne (Ne.symm same))]
  · rw [result]
    by_cases same : other = groupAddr
    · subst same
      rw [endpointsOf_absent absent]
      exact List.nil_prefix
    · rw [endpointsOf_other (Ne.symm same), List.append_nil]
  · rw [result]

theorem Table.append (table : Table groups) (absent : ∀ ent ∈ groups, ent.groupAddr ≠ groupAddr)
    (room : groups.length < apsGroupTableSize) : Table (groups ++ [⟨groupAddr, [endpoint]⟩]) where
  distinct := by
    rw [List.map_append, List.map_singleton, List.nodup_append]
    refine ⟨table.distinct, List.nodup_singleton _, ?_⟩
    intro addr member last inLast same
    obtain ⟨ent, present, rfl⟩ := List.mem_map.mp member
    exact absent ent present (same.trans (List.mem_singleton.mp inLast))
  endpoints := by
    intro ent member
    obtain old | new := List.mem_append.mp member
    · exact table.endpoints ent old
    · rw [List.mem_singleton.mp new]
      exact ⟨List.nodup_singleton _, Nat.le_of_ble_eq_true rfl⟩
  size := by
    rw [List.length_append]
    exact room

theorem Table.change (table : Table (first ++ ent :: rest)) (endpoint : UInt8) :
    Table (first ++ (ent.addEndpoint endpoint).1 :: rest) where
  distinct := by
    have distinct := table.distinct
    rw [List.map_append, List.map_cons] at distinct ⊢
    rw [addEndpoint_groupAddr]
    exact distinct
  endpoints := by
    intro found member
    obtain before | changed | after := by simpa using member
    · exact table.endpoints found (by simp [before])
    · have old := table.endpoints ent (by simp)
      rw [changed]
      obtain ⟨-, same⟩ | ⟨absent, room, added⟩ | full := addEndpoint_cases ent endpoint
      · rw [same]
        exact old
      · rw [added]
        refine ⟨List.nodup_append.mpr ⟨old.1, List.nodup_singleton _, ?_⟩, ?_⟩
        · intro here present last inLast same
          exact absent (List.mem_singleton.mp inLast ▸ same ▸ present)
        · rw [List.length_append]
          exact room
      · rw [full]
        exact old
    · exact table.endpoints found (by simp [after])
  size := by
    have size := table.size
    rw [List.length_append, List.length_cons] at size ⊢
    exact size

theorem Table.adds (table : Table groups) (groupAddr : UInt16) (endpoint : UInt8) :
    Adds groups groupAddr endpoint := by
  obtain ⟨first, ent, rest, rfl, hit, before, result⟩ | ⟨absent, room, result⟩ |
    ⟨absent, noRoom, result⟩ := add_cases groups groupAddr endpoint
  · have hit' := (addEndpoint_groupAddr ent endpoint).trans hit
    refine ⟨?_, ?_, ?_, ?_⟩
    · rw [result]
      exact table.change endpoint
    · rw [result]
      exact (addGroupFrom_found before hit').trans (by rw [addEndpoint_again])
    · rw [result]
      obtain ⟨-, same⟩ | ⟨-, -, added⟩ | full := addEndpoint_cases ent endpoint
      · rw [same]
        exact fun _ => rfl
      · rw [added]
        exact fun impossible => absurd impossible zero_ne_tableFull
      · rw [full]
        exact fun _ => rfl
    · rw [result]
      intro ok
      rw [endpointsOf_found before hit']
      obtain ⟨present, same⟩ | ⟨-, -, added⟩ | full := addEndpoint_cases ent endpoint
      · rw [same]
        exact present
      · rw [added]
        exact List.mem_append_right _ (List.mem_singleton_self _)
      · exact absurd (congrArg Prod.snd full) ok
  · refine ⟨?_, ?_, ?_, ?_⟩
    · rw [result]
      exact table.append absent room
    · have present : endpoint ∈ [endpoint] := List.mem_singleton_self _
      rw [result]
      refine (addGroupFrom_found absent rfl).trans ?_
      rw [GroupEnt.addEndpoint, if_pos present]
    · rw [result]
      exact fun impossible => absurd impossible zero_ne_tableFull
    · rw [result]
      intro _
      rw [endpointsOf_found absent rfl]
      exact List.mem_singleton_self _
  · refine ⟨?_, ?_, ?_, ?_⟩
    · rw [result]
      exact table
    · rw [result]
      exact result
    · rw [result]
      exact fun _ => rfl
    · rw [result]
      exact fun ok => absurd rfl ok

end

/-! ## The in buffers -/

/-- The frame that a callback takes up. -/
def Callback.coming : Callback → Option Buf
  | .passUpGroupBuf b => some b
  | .passGroupMsgUp => none

/-- The in buffers are accounted for, where the group delivery holds some and has some jobs, and
these frames are to be taken up. -/
structure Balanced (p : Pool) (held jobs : ℕ) (coming : List Buf) : Prop where
  kept : p.kept = 1
  balance : p.bufsAllocated = 1 + p.others + p.callbacks.length + held
  limit : p.bufsAllocated ≤ bufsLimit
  jobs : p.callbacks.count .passGroupMsgUp + p.inbufQueue.count .passGroupMsgUp = jobs
  coming : p.callbacks.filterMap Callback.coming = coming

/-- And a job that waits will go on. -/
structure Fine (p : Pool) (held jobs : ℕ) (coming : List Buf) : Prop extends
    Balanced p held jobs coming where
  goesOn : .passGroupMsgUp ∈ p.inbufQueue → Elsewhere p

section
variable {p : Pool} {held jobs : ℕ} {coming : List Buf}

/-- A buffer that is freed goes to the callback that waits first, if it may. -/
theorem freeBuf_cases (room : passedOn p 1 ≤ p.cbRoom) :
    (p.rxNeedBuf = true ∨ p.inbufQueue = []) ∧
      p.freeBuf = { p with bufsAllocated := p.bufsAllocated - 1 } ∨
    ∃ waiter rest, p.rxNeedBuf = false ∧ p.inbufQueue = waiter :: rest ∧ 0 < p.cbRoom ∧
      p.freeBuf = match waiter with
        | .passGroupMsgUp => { p with
            inbufQueue := rest
            entries := p.entries + 1
            cbRoom := p.cbRoom - 1
            callbacks := p.callbacks ++ [.passGroupMsgUp] }
        | .other => { p with
            inbufQueue := rest
            entries := p.entries + 1
            cbRoom := p.cbRoom - 1
            others := p.others + 1 } := by
  rw [passedOn] at room
  rw [Pool.freeBuf]
  split
  · next waiter rest needs queue =>
    rw [needs, queue] at room
    have enough : 0 < p.cbRoom := by
      simp only [Bool.false_eq_true, if_false, List.length_cons] at room
      omega
    refine .inr ⟨waiter, rest, needs, queue, enough, ?_⟩
    cases waiter with
    | passGroupMsgUp => exact if_neg (Nat.ne_of_gt enough)
    | other => exact if_neg (Nat.ne_of_gt enough)
  · next others =>
    refine .inl ⟨?_, rfl⟩
    cases needs : p.rxNeedBuf with
    | true => exact .inl rfl
    | false =>
      cases queue : p.inbufQueue with
      | nil => exact .inr rfl
      | cons waiter rest => exact absurd queue (others waiter rest needs)

theorem Balanced.freeBuf (fine : Balanced p (held + 1) jobs coming) (single : jobs ≤ 1)
    (room : passedOn p 1 ≤ p.cbRoom) : Fine p.freeBuf held jobs coming := by
  have balance := fine.balance
  have limit := fine.limit
  have counted := fine.jobs
  obtain ⟨stays, eq⟩ | ⟨waiter, rest, -, queue, enough, eq⟩ := freeBuf_cases room
  · rw [eq]
    refine ⟨⟨fine.kept, ?_, ?_, counted, fine.coming⟩, ?_⟩
    · show p.bufsAllocated - 1 = 1 + p.others + p.callbacks.length + held
      omega
    · show p.bufsAllocated - 1 ≤ bufsLimit
      omega
    · intro waits
      obtain needs | empty := stays
      · have less : p.bufsAllocated - 1 < bufsLimit := by omega
        exact .inr ⟨needs, less⟩
      · have none_ : Waiter.passGroupMsgUp ∈ ([] : List Waiter) := empty ▸ waits
        exact absurd none_ List.not_mem_nil
  · rw [queue] at counted
    cases waiter with
    | passGroupMsgUp =>
      rw [List.count_cons_self] at counted
      rw [eq]
      refine ⟨⟨fine.kept, ?_, limit, ?_, ?_⟩, ?_⟩
      · rw [List.length_append, List.length_singleton]
        dsimp only
        omega
      · rw [List.count_append, List.count_singleton_self]
        dsimp only
        omega
      · rw [List.filterMap_append, fine.coming]
        exact List.append_nil _
      · -- The job waits once only.
        intro waits
        have again : 0 < rest.count .passGroupMsgUp := List.count_pos_iff.mpr waits
        omega
    | other =>
      have same : (Waiter.other :: rest).count .passGroupMsgUp =
          rest.count .passGroupMsgUp := List.count_cons_of_ne (by decide)
      rw [eq]
      refine ⟨⟨fine.kept, ?_, limit, same ▸ counted, fine.coming⟩, fun _ => ?_⟩
      · show p.bufsAllocated = 1 + (p.others + 1) + p.callbacks.length + held
        omega
      · exact .inl (Nat.succ_pos _)

/-- There is room for the second of two buffers too. -/
theorem freeBuf_room_free (room : passedOn p 2 ≤ p.cbRoom) :
    passedOn p 1 ≤ p.cbRoom ∧ passedOn p.freeBuf 1 ≤ p.freeBuf.cbRoom := by
  have first : passedOn p 1 ≤ p.cbRoom := by
    refine le_trans ?_ room
    rw [passedOn, passedOn]
    split
    · exact le_refl 0
    · omega
  refine ⟨first, ?_⟩
  obtain ⟨stays, eq⟩ | ⟨waiter, rest, needs, queue, enough, eq⟩ := freeBuf_cases first
  · rw [eq]
    exact first
  · rw [passedOn, needs, queue] at room
    simp only [Bool.false_eq_true, if_false, List.length_cons] at room
    rw [eq]
    cases waiter <;>
    · simp only [passedOn, needs, Bool.false_eq_true, if_false]
      omega

/-- And for a callback after it. -/
theorem freeBuf_room_schedule (room : passedOn p 1 < p.cbRoom) : 0 < p.freeBuf.cbRoom := by
  obtain ⟨stays, eq⟩ | ⟨waiter, rest, needs, queue, enough, eq⟩ := freeBuf_cases room.le
  · rw [eq]
    exact Nat.zero_lt_of_lt room
  · rw [passedOn, needs, queue] at room
    simp only [Bool.false_eq_true, if_false, List.length_cons] at room
    rw [eq]
    cases waiter <;>
    · dsimp only
      omega

/-- A callback is scheduled with a buffer that the group delivery holds. -/
theorem Balanced.schedule (fine : Balanced p (held + 1) jobs coming) (room : 0 < p.cbRoom)
    (cb : Callback) : Balanced (p.schedule cb) held
      (jobs + if cb = .passGroupMsgUp then 1 else 0) (coming ++ cb.coming.toList) := by
  have balance := fine.balance
  have counted := fine.jobs
  rw [Pool.schedule, if_neg (Nat.ne_of_gt room)]
  refine ⟨fine.kept, ?_, fine.limit, ?_, ?_⟩
  · rw [List.length_append, List.length_singleton]
    dsimp only
    omega
  · rw [List.count_append, List.count_singleton]
    simp only [beq_iff_eq]
    omega
  · rw [List.filterMap_append, fine.coming]
    cases one : cb.coming <;> simp [one]

/-- The job asks for a buffer and gets it, or waits while another will be freed. -/
theorem Balanced.getInBufDelayed (fine : Balanced p held 0 coming)
    (careful : if p.bufsAllocated < bufsLimit then 0 < p.cbRoom
      else 0 < p.entries ∧ 0 < p.others) :
    Fine (p.getInBufDelayed .passGroupMsgUp) held 1 coming := by
  rw [Pool.getInBufDelayed]
  split
  · next free =>
    rw [if_pos free] at careful
    have taken : Balanced { p with bufsAllocated := p.bufsAllocated + 1 } (held + 1) 0 coming :=
      ⟨fine.kept, congrArg (· + 1) fine.balance, free, fine.jobs, fine.coming⟩
    have granted := taken.schedule careful .passGroupMsgUp
    rw [Callback.coming, Option.toList_none, List.append_nil] at granted
    refine ⟨granted, ?_⟩
    rw [Pool.scheduleWaiter, Pool.schedule, if_neg (Nat.ne_of_gt careful)]
    intro waits
    have waiting : 0 < p.inbufQueue.count .passGroupMsgUp := List.count_pos_iff.mpr waits
    have idle := fine.jobs
    omega
  · next full =>
    rw [if_neg full] at careful
    rw [if_neg (Nat.ne_of_gt careful.1)]
    refine ⟨⟨fine.kept, fine.balance, fine.limit, ?_, fine.coming⟩, fun _ => .inl careful.2⟩
    have idle := fine.jobs
    rw [List.count_append, List.count_singleton_self]
    dsimp only
    omega

/-- A buffer goes to a callback that is not of the group delivery. -/
theorem Balanced.scheduleOther (fine : Balanced p (held + 1) jobs coming) (room : 0 < p.cbRoom) :
    Fine p.scheduleOther held jobs coming ∧ p.scheduleOther.bufsAllocated = p.bufsAllocated ∧
      p.scheduleOther.cbRoom = p.cbRoom - 1 ∧ p.scheduleOther.entries = p.entries ∧
      0 < p.scheduleOther.others := by
  have balance := fine.balance
  rw [Pool.scheduleOther, if_neg (Nat.ne_of_gt room)]
  refine ⟨⟨⟨fine.kept, ?_, fine.limit, fine.jobs, fine.coming⟩, fun _ => .inl ?_⟩, rfl, rfl, rfl, ?_⟩
  · show p.bufsAllocated = 1 + (p.others + 1) + p.callbacks.length + held
    omega
  · exact Nat.succ_pos _
  · exact Nat.succ_pos _

theorem Fine.ask (fine : Fine p held jobs coming)
    (careful : p.bufsAllocated < bufsLimit → 0 < p.cbRoom) :
    Fine (p.getInBufDelayed .other) held jobs coming := by
  rw [Pool.getInBufDelayed]
  split
  · next free =>
    have taken : Balanced { p with bufsAllocated := p.bufsAllocated + 1 } (held + 1) jobs coming :=
      ⟨fine.kept, congrArg (· + 1) fine.balance, free, fine.jobs, fine.coming⟩
    exact (taken.scheduleOther (careful free)).1
  · split
    · exact fine
    · have same : (p.inbufQueue ++ [Waiter.other]).count Waiter.passGroupMsgUp =
          p.inbufQueue.count .passGroupMsgUp := by
        rw [List.count_append]
        rfl
      refine ⟨⟨fine.kept, fine.balance, fine.limit, ?_, fine.coming⟩, fun waits => fine.goesOn ?_⟩
      · exact (congrArg _ same).trans fine.jobs
      · simpa using waits

theorem Fine.take (fine : Fine p held jobs coming) : Fine p.take held jobs coming := by
  rw [Pool.take]
  split
  · next free =>
    have balance := fine.balance
    refine ⟨⟨fine.kept, ?_, free, fine.jobs, fine.coming⟩, fun _ => .inl (Nat.succ_pos _)⟩
    show p.bufsAllocated + 1 = 1 + (p.others + 1) + p.callbacks.length + held
    omega
  · exact fine

/-- A buffer that was in use elsewhere is in the hand of the group delivery. -/
theorem Balanced.receive (fine : Balanced p held jobs coming) (some_ : p.others ≠ 0) :
    Balanced { p with others := p.others - 1 } (held + 1) jobs coming := by
  have balance := fine.balance
  refine ⟨fine.kept, ?_, fine.limit, fine.jobs, fine.coming⟩
  show p.bufsAllocated = 1 + (p.others - 1) + p.callbacks.length + (held + 1)
  omega

theorem Fine.release (fine : Fine p held jobs coming) (single : jobs ≤ 1)
    (room : 0 < p.others → passedOn p 1 ≤ p.cbRoom) : Fine p.release held jobs coming := by
  rw [Pool.release]
  split
  · exact fine
  · next some_ =>
    exact (fine.toBalanced.receive some_).freeBuf single (room (Nat.pos_of_ne_zero some_))

/-- The MAC drops a frame; the buffer goes to a callback that waits, or there is another. -/
theorem Fine.macReceive (fine : Fine p held jobs coming) (single : jobs ≤ 1) (dropped : Bool)
    (careful : dropped = true → p.bufsAllocated < bufsLimit → passedOn p 1 ≤ p.cbRoom ∧
      (.passGroupMsgUp ∈ p.inbufQueue → p.rxNeedBuf = true → 0 < p.others)) :
    Fine (p.macReceive dropped) held jobs coming := by
  have balance := fine.balance
  rw [Pool.macReceive]
  split
  · next free =>
    cases dropped with
    | false =>
      refine ⟨⟨fine.kept, ?_, free, fine.jobs, fine.coming⟩, fun _ => .inl (Nat.succ_pos _)⟩
      show p.bufsAllocated + 1 = 1 + (p.others + 1) + p.callbacks.length + held
      omega
    | true =>
      obtain ⟨room, another⟩ := careful rfl free
      have taken : Balanced { p with bufsAllocated := p.bufsAllocated + 1 } (held + 1) jobs coming :=
        ⟨fine.kept, congrArg (· + 1) fine.balance, free, fine.jobs, fine.coming⟩
      have freed := taken.freeBuf single room
      refine ⟨⟨freed.kept, freed.balance, freed.limit, freed.jobs, freed.coming⟩,
        fun waits => .inl ?_⟩
      change 0 < ({ p with bufsAllocated := p.bufsAllocated + 1 } : Pool).freeBuf.others
      obtain some_ | ⟨needs, -⟩ := freed.goesOn waits
      · exact some_
      · obtain ⟨-, eq⟩ | ⟨waiter, rest, needed, -, -, eq⟩ :=
          freeBuf_cases (p := { p with bufsAllocated := p.bufsAllocated + 1 }) room
        · -- The buffer was not passed on, for the flag, so there must be another.
          rw [eq] at needs ⊢
          refine another ?_ needs
          change _ ∈ ({ p with bufsAllocated := p.bufsAllocated + 1 } : Pool).freeBuf.inbufQueue
            at waits
          rw [eq] at waits
          exact waits
        · rw [eq] at needs
          cases waiter <;> exact Bool.noConfusion (needs.symm.trans needed)
  · next full =>
    refine ⟨⟨fine.kept, fine.balance, fine.limit, fine.jobs, fine.coming⟩, fun waits => ?_⟩
    obtain some_ | ⟨-, less⟩ := fine.goesOn waits
    · exact .inl some_
    · exact absurd less full

end

/-! ## The frames -/

/-- The frames in the hand of the job. -/
def Group.inHand (g : Group) : List Buf := g.active.toList ++ g.passUpQ

/-- Where a frame is: finished with, copied for the first endpoints, or in the queue. -/
def Fate (g : Group) (e : Entry) : Prop :=
  let endpoints := endpointsOf g.groups e.buf.groupAddr
  e.buf.number ∈ g.finished ∧ (∃ done, e.registered <+: done ∧ done <+: endpoints ∧
      g.copies e.buf.number = done.map e.buf.copyFor) ∨
    (∃ handle, g.active = some { e.buf with handle } ∧ handle.toNat ≤ endpoints.length ∧
      g.copies e.buf.number = (endpoints.take handle.toNat).map e.buf.copyFor) ∨
    e.buf ∈ g.passUpQ ∧ e.buf.handle = 0 ∧ g.copies e.buf.number = []

/-- The frames are taken in the order they come, and finished with in that order; each is where
it should be, and nothing else is indicated. -/
structure Books (g : Group) (coming : List Buf) : Prop where
  table : Table g.groups
  line : g.accepted.map (·.buf.number) ++ coming.map (·.number) = List.range g.arrivals
  inHand : g.accepted.map (·.buf.number) = g.finished ++ g.inHand.map (·.number)
  idle : g.active = none → g.passUpQ = []
  registered : ∀ e ∈ g.accepted, e.registered <+: endpointsOf g.groups e.buf.groupAddr
  each : ∀ e ∈ g.accepted, Fate g e
  only : ∀ copy ∈ g.indicated, ∃ e ∈ g.accepted, copy = e.buf.copyFor copy.dstEndpoint

section
variable {g : Group} {coming : List Buf} {b : Buf}

theorem nextEndpoint_eq (g : Group) (b : Buf) :
    g.nextEndpoint b = (endpointsOf g.groups b.groupAddr)[b.handle.toNat]? := by
  rw [Group.nextEndpoint, endpointsOf]
  cases g.groups.find? fun ent => ent.groupAddr = b.groupAddr with
  | none => rfl
  | some ent => rfl

theorem Table.endpointsOf_length {groups : List GroupEnt} (table : Table groups)
    (groupAddr : UInt16) : (endpointsOf groups groupAddr).length ≤ apsEndpointsInGroupTable := by
  rw [endpointsOf]
  cases found : groups.find? fun ent => ent.groupAddr = groupAddr with
  | none => exact Nat.zero_le _
  | some ent => exact (table.endpoints ent (List.mem_of_find?_eq_some found)).2

theorem Books.distinct (books : Books g coming) :
    (g.finished ++ g.inHand.map (·.number) ++ coming.map (·.number)).Nodup := by
  rw [← books.inHand, books.line]
  exact List.nodup_range

/-- A frame in hand is not finished with. -/
theorem Books.unfinished (books : Books g coming) (hand : b ∈ g.inHand) :
    b.number ∉ g.finished := by
  have disjoint := (List.nodup_append.mp (List.nodup_append.mp books.distinct).1).2.2
  exact fun finished => disjoint b.number finished b.number (List.mem_map_of_mem hand) rfl

/-- A frame in the queue is not the one that is copied. -/
theorem Books.queued (books : Books g coming) {a : Buf} (active : g.active = some a)
    (queue : b ∈ g.passUpQ) : b.number ≠ a.number := by
  have distinct := (List.nodup_append.mp (List.nodup_append.mp books.distinct).1).2.1
  rw [Group.inHand, active, Option.toList_some, List.singleton_append, List.map_cons,
    List.nodup_cons] at distinct
  exact fun same => distinct.1 (same ▸ List.mem_map_of_mem queue)

/-- The frame that is copied has been taken. -/
theorem Books.activeEntry (books : Books g coming) (active : g.active = some b) :
    ∃ e ∈ g.accepted, b = { e.buf with handle := b.handle } := by
  have hand : b ∈ g.inHand := by simp [Group.inHand, active]
  have number : b.number ∈ g.accepted.map (·.buf.number) := by
    rw [books.inHand]
    exact List.mem_append_right _ (List.mem_map_of_mem hand)
  obtain ⟨e, member, same⟩ := List.mem_map.mp number
  obtain ⟨finished, -⟩ | ⟨handle, here, -⟩ | ⟨queue, -⟩ := books.each e member
  · exact absurd (same ▸ finished) (books.unfinished hand)
  · have shape : b = { e.buf with handle } := Option.some.inj (active.symm.trans here)
    exact ⟨e, member, by rw [shape]⟩
  · exact absurd same (books.queued active queue)

/-- A frame that has not been taken was not indicated. -/
theorem Books.unindicated (books : Books g (b :: coming)) : g.copies b.number = [] := by
  refine List.filter_eq_nil_iff.mpr fun copy member same => ?_
  obtain ⟨e, accepted, shape⟩ := books.only copy member
  have number : e.buf.number = b.number := by
    have copied := congrArg Buf.number shape
    exact copied.symm.trans (of_decide_eq_true same)
  have distinct := books.line ▸ List.nodup_range (n := g.arrivals)
  have disjoint := (List.nodup_append.mp distinct).2.2
  exact disjoint _ (List.mem_map_of_mem accepted) b.number (by simp) number

theorem Books.addGroup (books : Books g coming) (groupAddr : UInt16) (endpoint : UInt8) :
    Books { g with groups := (apsmeAddGroupRequest g.groups groupAddr endpoint).1 } coming where
  table := (books.table.adds groupAddr endpoint).kept
  line := books.line
  inHand := books.inHand
  idle := books.idle
  registered e member :=
    (books.registered e member).trans (endpointsOf_grows g.groups groupAddr endpoint _)
  each e member := by
    have longer := endpointsOf_grows g.groups groupAddr endpoint e.buf.groupAddr
    obtain ⟨finished, done, first, within, copies⟩ | ⟨handle, here, within, copies⟩ | queue :=
      books.each e member
    · exact .inl ⟨finished, done, first, within.trans longer, copies⟩
    · refine .inr (.inl ⟨handle, here, within.trans longer.length_le, copies.trans ?_⟩)
      obtain ⟨added, longer⟩ := longer
      rw [← longer, List.take_append_of_le_length within]
    · exact .inr (.inr queue)
  only := books.only

theorem Books.arrive (books : Books g coming) (new : b.number = g.arrivals) :
    Books { g with arrivals := g.arrivals + 1 } (coming ++ [b]) where
  table := books.table
  line := by
    rw [List.map_append, List.map_singleton, new, ← List.append_assoc, books.line]
    exact List.range_succ.symm
  inHand := books.inHand
  idle := books.idle
  registered := books.registered
  each := books.each
  only := books.only

/-- A frame is taken up. -/
theorem Books.accept (books : Books g (b :: coming)) :
    let b0 := { b with handle := 0 }
    let accepted := g.accepted ++ [⟨b0, endpointsOf g.groups b.groupAddr⟩]
    Books (if g.active = none then { g with accepted, active := some b0 }
      else { g with accepted, passUpQ := g.passUpQ ++ [b0] }) coming := by
  have line : (g.accepted ++
      [(⟨{ b with handle := 0 }, endpointsOf g.groups b.groupAddr⟩ : Entry)]).map
      (·.buf.number) ++ coming.map (·.number) = List.range g.arrivals := by
    rw [List.map_append, List.append_assoc]
    exact books.line
  have only : ∀ copy ∈ g.indicated, ∃ e ∈ g.accepted ++
      [⟨{ b with handle := 0 }, endpointsOf g.groups b.groupAddr⟩],
      copy = e.buf.copyFor copy.dstEndpoint := by
    intro copy member
    obtain ⟨e, old, shape⟩ := books.only copy member
    exact ⟨e, List.mem_append_left _ old, shape⟩
  have registered : ∀ e ∈ g.accepted ++
      [⟨{ b with handle := 0 }, endpointsOf g.groups b.groupAddr⟩],
      e.registered <+: endpointsOf g.groups e.buf.groupAddr := by
    intro e member
    obtain old | new := List.mem_append.mp member
    · exact books.registered e old
    · rw [List.mem_singleton.mp new]
  dsimp only
  by_cases free : g.active = none
  · have empty := books.idle free
    have hand : g.inHand = [] := by rw [Group.inHand, free, empty]; rfl
    rw [if_pos free]
    refine ⟨books.table, line, ?_, (fun impossible => nomatch impossible), registered, ?_, only⟩
    · rw [List.map_append, books.inHand, hand, Group.inHand, empty]
      simp
    · intro e member
      obtain old | new := List.mem_append.mp member
      · obtain finished | ⟨handle, here, -⟩ | ⟨queue, -⟩ := books.each e old
        · exact .inl finished
        · exact nomatch free.symm.trans here
        · exact absurd (empty ▸ queue) List.not_mem_nil
      · rw [List.mem_singleton.mp new]
        exact .inr (.inl ⟨0, rfl, Nat.zero_le _, books.unindicated⟩)
  · rw [if_neg free]
    refine ⟨books.table, line, ?_, fun none_ => absurd none_ free, registered, ?_, only⟩
    · rw [List.map_append, books.inHand, Group.inHand, Group.inHand]
      simp
    · intro e member
      obtain old | new := List.mem_append.mp member
      · obtain finished | here | ⟨queue, start⟩ := books.each e old
        · exact .inl finished
        · exact .inr (.inl here)
        · exact .inr (.inr ⟨List.mem_append_left _ queue, start⟩)
      · rw [List.mem_singleton.mp new]
        exact .inr (.inr ⟨List.mem_append_right _ (List.mem_singleton_self _), rfl,
          books.unindicated⟩)

/-- The frame is copied for the next endpoint. -/
theorem Books.copy (books : Books g coming) (active : g.active = some b) {endpoint : UInt8}
    (next : g.nextEndpoint b = some endpoint) :
    Books { g with
      active := some { b with handle := b.handle + 1 }
      indicated := g.indicated ++ [b.copyFor endpoint] } coming := by
  have others : ∀ e : Entry, e.buf.number ≠ b.number →
      (g.indicated ++ [b.copyFor endpoint]).filter (fun copy => copy.number = e.buf.number) =
        g.copies e.buf.number := by
    intro e differs
    have skipped : ¬ (b.copyFor endpoint).number = e.buf.number := Ne.symm differs
    simp [Group.copies, List.filter_append, skipped]
  rw [nextEndpoint_eq] at next
  obtain ⟨within, found⟩ := List.getElem?_eq_some_iff.mp next
  refine ⟨books.table, books.line, ?_, (fun impossible => nomatch impossible), books.registered,
    ?_, ?_⟩
  · rw [books.inHand, Group.inHand, Group.inHand, active]
    rfl
  · intro e member
    obtain ⟨finished, done⟩ | ⟨handle, here, -, copies⟩ | ⟨queue, start, none_⟩ :=
      books.each e member
    · refine .inl ⟨finished, ?_⟩
      have hand : b ∈ g.inHand := by simp [Group.inHand, active]
      have differs : e.buf.number ≠ b.number :=
        fun same => books.unfinished hand (same ▸ finished)
      rw [Group.copies, others e differs]
      exact done
    · have shape : b = { e.buf with handle } := Option.some.inj (active.symm.trans here)
      subst shape
      have small : (endpointsOf g.groups e.buf.groupAddr).length ≤ apsEndpointsInGroupTable :=
        books.table.endpointsOf_length _
      have more : (handle + 1).toNat = handle.toNat + 1 := by
        have room : handle.toNat < 8 := lt_of_lt_of_le within small
        have one : (1 : UInt8).toNat = 1 := rfl
        rw [UInt8.toNat_add, one]
        exact Nat.mod_eq_of_lt (by omega)
      refine .inr (.inl ⟨handle + 1, rfl, more ▸ within, ?_⟩)
      rw [more, List.take_succ_eq_append_getElem within, List.map_append, ← copies, found]
      simp [Group.copies, List.filter_append, Buf.copyFor]
    · refine .inr (.inr ⟨queue, start, ?_⟩)
      rw [Group.copies, others e (books.queued active queue)]
      exact none_
  · intro copy member
    obtain old | new := List.mem_append.mp member
    · exact books.only copy old
    · obtain ⟨e, accepted, shape⟩ := books.activeEntry active
      refine ⟨e, accepted, ?_⟩
      rw [List.mem_singleton.mp new, shape]
      rfl

/-- The frame is finished with, and the next is taken from the queue. -/
theorem Books.finish (books : Books g coming) (active : g.active = some b)
    (last : g.nextEndpoint b = none) :
    Books { g with
      finished := g.finished ++ [b.number]
      active := g.passUpQ.head?
      passUpQ := g.passUpQ.tail } coming := by
  rw [nextEndpoint_eq, List.getElem?_eq_none_iff] at last
  refine ⟨books.table, books.line, ?_, ?_, books.registered, ?_, books.only⟩
  · rw [books.inHand, Group.inHand, Group.inHand, active]
    cases g.passUpQ <;> simp
  · intro empty
    rw [List.head?_eq_none_iff.mp empty]
    rfl
  · intro e member
    obtain ⟨finished, done⟩ | ⟨handle, here, within, copies⟩ | ⟨queue, start, none_⟩ :=
      books.each e member
    · exact .inl ⟨List.mem_append_left _ finished, done⟩
    · have shape : b = { e.buf with handle } := Option.some.inj (active.symm.trans here)
      subst shape
      refine .inl ⟨List.mem_append_right _ (List.mem_singleton_self _),
        endpointsOf g.groups e.buf.groupAddr, books.registered e member, List.prefix_refl _, ?_⟩
      rw [List.take_of_length_le last] at copies
      exact copies
    · cases shape : g.passUpQ with
      | nil => exact absurd (shape ▸ queue) List.not_mem_nil
      | cons head rest =>
        rw [shape] at queue
        obtain first | later := List.mem_cons.mp queue
        · refine .inr (.inl ⟨0, ?_, Nat.zero_le _, none_⟩)
          rw [← start, ← first]
          rfl
        · exact .inr (.inr ⟨later, start, none_⟩)

end

/-! ## Runs -/

/-- The buffers and the frames are in order. -/
def Sound (w : Aps) : Prop :=
  ∃ coming, Fine w.pool w.group.inHand.length w.group.active.toList.length coming ∧
    Books w.group coming

section
variable {w : Aps} {p : Pool} {held jobs : ℕ} {coming : List Buf} {b : Buf}

theorem one_job (g : Group) : g.active.toList.length ≤ 1 := by
  cases g.active with
  | none => exact Nat.zero_le 1
  | some b => exact le_refl 1

theorem Sound.init : Sound .init := by
  refine ⟨[], ⟨⟨rfl, rfl, by decide, rfl, rfl⟩, fun waits => absurd waits List.not_mem_nil⟩, ?_⟩
  refine ⟨⟨List.nodup_nil, ?_, Nat.zero_le _⟩, rfl, rfl, fun _ => rfl, ?_, ?_, ?_⟩
  · exact fun ent member => absurd member List.not_mem_nil
  · exact fun e member => absurd member List.not_mem_nil
  · exact fun e member => absurd member List.not_mem_nil
  · exact fun copy member => absurd member List.not_mem_nil

theorem Sound.arrive (sound : Sound w) (groupAddr : UInt16) (dstEndpoint : UInt8)
    (asdu : List UInt8) (careful : Careful w (.arrive groupAddr dstEndpoint asdu)) :
    Sound (w.arrive groupAddr dstEndpoint asdu) := by
  rw [Aps.arrive]
  split
  · exact sound
  · next some_ =>
    obtain ⟨coming, fine, books⟩ := sound
    obtain ⟨room, another⟩ := careful (Nat.pos_of_ne_zero some_)
    have scheduled := (fine.toBalanced.receive some_).schedule room
      (.passUpGroupBuf ⟨w.group.arrivals, 0, groupAddr, dstEndpoint, asdu⟩)
    refine ⟨_, ⟨scheduled, ?_⟩, books.arrive rfl⟩
    dsimp only
    rw [Pool.schedule, if_neg (Nat.ne_of_gt room)]
    intro waits
    obtain more | needs := another waits
    · exact .inl (Nat.sub_pos_of_lt more)
    · exact .inr needs

/-- The queue never fills: there are not so many in buffers. -/
theorem Fine.queue_room (fine : Fine w.pool w.group.inHand.length jobs coming) :
    ¬ apsGroupUpQSize ≤ w.group.passUpQ.length := by
  have balance := fine.balance
  have limit := fine.limit
  rw [Group.inHand, List.length_append] at balance
  rw [bufsLimit] at limit
  rw [apsGroupUpQSize]
  omega

theorem Sound.passUpGroupBuf {rest : List Callback}
    (shape : w.pool.callbacks = .passUpGroupBuf b :: rest)
    (fine : Fine w.pool w.group.inHand.length w.group.active.toList.length coming)
    (books : Books w.group coming) (careful : CarefulRun w (.passUpGroupBuf b)) :
    Sound ({ w with pool := { w.pool with callbacks := rest } }.passUpGroupBuf b) := by
  have front : w.pool.callbacks.filterMap Callback.coming =
      b :: rest.filterMap Callback.coming := by rw [shape]; rfl
  rw [fine.coming] at front
  subst front
  have taken : Balanced { w.pool with callbacks := rest } (w.group.inHand.length + 1)
      w.group.active.toList.length (rest.filterMap Callback.coming) := by
    have balance := fine.balance
    have counted := fine.jobs
    rw [shape, List.length_cons] at balance
    rw [shape, List.count_cons_of_ne (by simp)] at counted
    refine ⟨fine.kept, ?_, fine.limit, counted, rfl⟩
    dsimp only
    omega
  have accepted := books.accept
  rw [Aps.passUpGroupBuf, if_neg fine.queue_room]
  dsimp only at accepted ⊢
  by_cases free : w.group.active = none
  · have hand : w.group.inHand = [] := by rw [Group.inHand, free, books.idle free]; rfl
    rw [hand, free] at taken
    rw [if_pos free] at accepted
    have granted := taken.getInBufDelayed (careful free)
    rw [if_pos free]
    refine ⟨_, ?_, accepted⟩
    rw [Group.inHand, books.idle free]
    exact granted
  · rw [if_neg free] at accepted
    rw [if_neg free]
    refine ⟨_, ⟨?_, fine.goesOn⟩, accepted⟩
    rw [Group.inHand, ← List.append_assoc, List.length_append]
    exact taken

theorem Sound.passGroupMsgUp {rest : List Callback}
    (shape : w.pool.callbacks = .passGroupMsgUp :: rest)
    (fine : Fine w.pool w.group.inHand.length w.group.active.toList.length coming)
    (books : Books w.group coming) (careful : CarefulRun w .passGroupMsgUp) :
    Sound { w with pool := { w.pool with callbacks := rest } }.passGroupMsgUp := by
  have counted := fine.jobs
  rw [shape, List.count_cons_self] at counted
  rw [Aps.passGroupMsgUp]
  cases active : w.group.active with
  | none =>
    rw [active, Option.toList_none, List.length_nil] at counted
    omega
  | some b =>
    rw [active, Option.toList_some, List.length_singleton] at counted
    have hand : w.group.inHand.length = w.group.passUpQ.length + 1 := by
      rw [Group.inHand, active]
      rfl
    have taken : Balanced { w.pool with callbacks := rest } (w.group.passUpQ.length + 1 + 1) 0
        coming := by
      have balance := fine.balance
      have front := fine.coming
      rw [shape, List.length_cons, hand] at balance
      rw [shape] at front
      refine ⟨fine.kept, ?_, fine.limit, ?_, front⟩
      · dsimp only
        omega
      · dsimp only
        omega
    have room := careful b active
    dsimp only
    cases next : w.group.nextEndpoint b with
    | none =>
      have finished := books.finish active next
      rw [if_pos next] at room
      cases queue : w.group.passUpQ with
      | nil =>
        rw [queue] at taken finished
        rw [if_pos queue] at room
        obtain ⟨first, second⟩ := freeBuf_room_free
          (p := { w.pool with callbacks := rest }) room
        have freed := taken.freeBuf (Nat.zero_le 1) first
        exact ⟨coming, freed.toBalanced.freeBuf (Nat.zero_le 1) second, finished⟩
      | cons head others =>
        rw [queue] at taken finished
        rw [if_neg (by rw [queue]; exact List.cons_ne_nil head others)] at room
        have freed := taken.freeBuf (Nat.zero_le 1) room.le
        have enough := freeBuf_room_schedule (p := { w.pool with callbacks := rest }) room
        have scheduled := freed.toBalanced.schedule enough .passGroupMsgUp
        rw [Callback.coming, Option.toList_none, List.append_nil] at scheduled
        refine ⟨coming, ⟨scheduled, ?_⟩, finished⟩
        rw [Pool.schedule, if_neg (Nat.ne_of_gt enough)]
        exact freed.goesOn
    | some endpoint =>
      have copied := books.copy active next
      rw [if_neg (by rw [next]; exact Option.some_ne_none endpoint)] at room
      have some_ : 0 < w.pool.cbRoom := by
        split at room
        · exact Nat.zero_lt_of_lt room
        · exact room.1
      obtain ⟨given, same, less, entries, another⟩ := taken.scheduleOther some_
      have asked := given.toBalanced.getInBufDelayed (by
        rw [same, less, entries]
        dsimp only
        split at room
        · next free =>
          rw [if_pos free]
          omega
        · next full =>
          rw [if_neg full]
          exact ⟨room.2, another⟩)
      dsimp only
      rw [if_neg (Nat.ne_of_gt some_)]
      refine ⟨coming, ?_, copied⟩
      rw [Group.inHand]
      rw [Option.toList_some, List.singleton_append, List.length_cons]
      exact asked

theorem Sound.step (sound : Sound w) (event : Event) (careful : Careful w event) :
    Sound (step w event) := by
  cases event with
  | addGroup groupAddr endpoint =>
    obtain ⟨coming, fine, books⟩ := sound
    exact ⟨coming, fine, books.addGroup groupAddr endpoint⟩
  | scheduler cbRoom entries =>
    obtain ⟨coming, fine, books⟩ := sound
    exact ⟨coming, ⟨⟨fine.kept, fine.balance, fine.limit, fine.jobs, fine.coming⟩, fine.goesOn⟩,
      books⟩
  | macReceive dropped =>
    obtain ⟨coming, fine, books⟩ := sound
    exact ⟨coming, fine.macReceive (one_job w.group) dropped careful, books⟩
  | take =>
    obtain ⟨coming, fine, books⟩ := sound
    exact ⟨coming, fine.take, books⟩
  | ask =>
    obtain ⟨coming, fine, books⟩ := sound
    exact ⟨coming, fine.ask careful, books⟩
  | release =>
    obtain ⟨coming, fine, books⟩ := sound
    exact ⟨coming, fine.release (one_job w.group) careful, books⟩
  | arrive groupAddr dstEndpoint asdu => exact sound.arrive groupAddr dstEndpoint asdu careful
  | run =>
    have whole := sound
    obtain ⟨coming, fine, books⟩ := sound
    rw [GroupDelivery.step, Aps.runCallback]
    cases shape : w.pool.callbacks with
    | nil => exact whole
    | cons cb rest =>
      have room := careful cb (by rw [shape]; rfl)
      cases cb with
      | passUpGroupBuf b => exact Sound.passUpGroupBuf shape fine books room
      | passGroupMsgUp => exact Sound.passGroupMsgUp shape fine books room

/-- A frame that is not finished with will be served further. -/
theorem Fine.job (fine : Fine w.pool w.group.inHand.length w.group.active.toList.length coming)
    (active : w.group.active ≠ none) : GoesOn w.pool := by
  have counted := fine.jobs
  obtain ⟨b, some_⟩ := Option.ne_none_iff_exists'.mp active
  rw [some_, Option.toList_some, List.length_singleton] at counted
  by_cases scheduled : .passGroupMsgUp ∈ w.pool.callbacks
  · exact .inl scheduled
  · have none_ := List.count_eq_zero.mpr scheduled
    have waits : .passGroupMsgUp ∈ w.pool.inbufQueue := List.count_pos_iff.mp (by omega)
    exact .inr ⟨waits, fine.goesOn waits⟩

theorem Sound.delivered (sound : Sound w) : Delivered w := by
  obtain ⟨coming, fine, books⟩ := sound
  refine ⟨books.table, ⟨_, books.line⟩, ?_, books.only, ?_, ?_⟩
  · intro e member
    have registered := books.registered e member
    obtain ⟨finished, done, first, within, copies⟩ | ⟨handle, here, -, copies⟩ |
      ⟨queue, -, none_⟩ := books.each e member
    · exact ⟨done, within, copies, .inl ⟨finished, first⟩⟩
    · have hand : { e.buf with handle } ∈ w.group.inHand := by simp [Group.inHand, here]
      have unfinished := books.unfinished hand
      have active : w.group.active ≠ none := by simp [here]
      exact ⟨_, List.take_prefix _ _, copies, .inr ⟨unfinished, fine.job active⟩⟩
    · have hand : e.buf ∈ w.group.inHand := List.mem_append_right _ queue
      have active : w.group.active ≠ none :=
        fun free => absurd (books.idle free ▸ queue) List.not_mem_nil
      exact ⟨[], List.nil_prefix, none_, .inr ⟨books.unfinished hand, fine.job active⟩⟩
  · have balance := fine.balance
    rw [Group.inHand, List.length_append] at balance
    omega
  · intro free
    have counted := fine.jobs
    rw [free, Option.toList_none, List.length_nil] at counted
    refine ⟨books.idle free, ?_, ?_⟩
    · exact List.count_eq_zero.mp (by omega)
    · exact List.count_eq_zero.mp (by omega)

end

/-- A request keeps the table as it should be, and a second one like it changes nothing.  In every
run with room for what is scheduled, and with another in buffer wherever the job waits for one,
every frame that is taken is indicated once for each endpoint of its group. -/
theorem group_delivered (events : List Event) :
    (∀ groups, Table groups → ∀ groupAddr endpoint, Adds groups groupAddr endpoint) ∧
      (Along step Careful Aps.init events → Delivered (run step Aps.init events)) :=
  ⟨fun _ table => table.adds, fun careful =>
    (invariant_of_along (fun _ event sound met => sound.step event met) Aps.init events
      Sound.init careful).delivered⟩

/-- Two endpoints are registered, a frame comes and is copied for both, and the buffers are freed. -/
theorem group_delivered_two :
    Delivered (run step Aps.init [.addGroup 1 10, .addGroup 1 11, .macReceive false,
      .arrive 1 255 [7], .run, .run, .run, .run, .release, .release]) ∧
    Adds [⟨1, [10]⟩] 1 11 :=
  ⟨(group_delivered _).2 (by decide +kernel),
    (group_delivered []).1 _ ⟨by decide, by decide, by decide⟩ 1 11⟩

/-- Seven frames hold all in buffers, and the job waits for one more. -/
theorem group_waits_forever :
    ¬ ∀ events, Delivered (run step Aps.init events) := by
  intro all
  have delivered := all (.addGroup 1 10 :: List.replicate 7 (.macReceive false) ++
    List.replicate 7 (.arrive 1 255 [7]) ++ List.replicate 7 .run)
  obtain ⟨done, -, -, ⟨finished, -⟩ | ⟨-, goesOn⟩⟩ :=
    delivered.each ⟨⟨0, 0, 1, 255, [7]⟩, [10]⟩ (by decide +kernel)
  · exact absurd finished (by decide +kernel)
  · exact absurd goesOn (by decide +kernel)

end Zboss.GroupDelivery
