import Zboss.Nwk.Footprints

/-!
The wait list for buffers.  A frame to be indicated and relayed waits there for the buffer its
copy goes into, and asks for it as it is put there.  A grant does not say whose request it
answers: it goes to the entry on top, and asks for a buffer again if entries are left.  So an
entry that waits while another is served is asked for twice.
-/

namespace Zboss.AllocGrants

open Zboss.DynamicTables Zboss.Run Zboss.SlotTable Zboss.SlotTable.Table
open Zboss.FrameHeaders (nwkIsAddressBroadcast)

/-- The network layer with the number of buffers asked for and not yet granted. -/
structure Layer where
  nwk : Nwk
  grants : ℕ

/-- An operation of the network layer, or a buffer granted to `new_buffer_allocated`; `accepted`
if the buffer pool takes a request made in it. -/
inductive Event
  | op (op : Op) (accepted : Bool)
  | grant (buf : BufRef) (accepted : Bool)

/-- A buffer is asked for. -/
def ask : Call := .getBuf .newBufferAllocated

/-- Grants are events of their own. -/
def isGrant : Op → Bool
  | .newBufferAllocated _ => true
  | _ => false

/-- The requests of some calls that are taken. -/
def taken (calls : List Call) (accepted : Bool) : ℕ := if accepted then calls.count ask else 0

/-- One event; `0` is no buffer. -/
def step (spill : Spill) (w : Layer) : Event → Layer
  | .op op accepted =>
    if isGrant op then w
    else
      { nwk := (exec spill w.nwk op).1
        grants := w.grants + taken (exec spill w.nwk op).2 accepted }
  | .grant buf accepted =>
    if w.grants = 0 ∨ buf = 0 then w
    else
      { nwk := (newBufferAllocated w.nwk buf).1
        grants := w.grants - 1 + taken (newBufferAllocated w.nwk buf).2 accepted }

/-- The network layer after `zb_nwk_init`. -/
def Layer.init (device : Device) : Layer := ⟨Nwk.init device, 0⟩

/-- There are as many buffers outstanding as entries that wait for one. -/
def Paired (w : Layer) : Prop := w.grants = w.nwk.waitAlloc.usedCnt

instance (w : Layer) : Decidable (Paired w) := inferInstanceAs (Decidable (_ = _))

/-- The granted buffer becomes the copy of a frame that waits, which leaves the list. -/
def Serves (s : Nwk) (buf : BufRef) : Prop :=
  ∃ i < nwkWaitAllocTableSize, (s.waitAlloc.slots i).used = true ∧
    (newBufferAllocated s buf).1 = { s with waitAlloc := s.waitAlloc.putEnt i } ∧
      .frameIndication buf ∈ (newBufferAllocated s buf).2 ∧
        .forward (s.waitAlloc.slots i).ent.buf nwkInternalNsduHandle ∈ (newBufferAllocated s buf).2

/-- After the event the buffers outstanding are paired with the entries that wait, and a granted
buffer has gone to an entry or back to the pool. -/
def Handled (spill : Spill) (w : Layer) (event : Event) : Prop :=
  Paired (step spill w event) ∧ match event with
    | .op .. => True
    | .grant buf _ => w.grants ≠ 0 → buf ≠ 0 →
      Serves w.nwk buf ∨ .freeBuf buf ∈ (newBufferAllocated w.nwk buf).2

/-- A frame is put on the list. -/
structure Waits (s : Nwk) (frame : RxFrame) : Prop where
  good : badFrame frame = false
  broadcast : nwkIsAddressBroadcast frame.dstAddr = true
  forUs : broadcastForUs s.device frame.dstAddr = true
  unknown : findBroadcast s.btt frame.srcAddr frame.seqNum = none
  noted : s.btt.HasFree
  secure : frame.security = true → frame.unsecured = true
  both : dispatch s.device frame = (true, true)
  room : s.waitAlloc.HasFree

/-- A frame that is put on the list has its request accepted; the tables are not cleared while
one waits; and a buffer is granted while one frame waits, or the pool refuses the request for
another one. -/
def Regular (w : Layer) : Event → Prop
  | .op (.mcpsDataIndication frame) accepted => Waits w.nwk frame → accepted = true
  | .op .resetConfirm _ => w.nwk.waitAlloc.usedCnt = 0
  | .op _ _ => True
  | .grant buf accepted =>
    w.grants ≠ 0 → buf ≠ 0 → w.nwk.waitAlloc.usedCnt = 1 ∨ accepted = false

/-! ## Operations apart from the list -/

variable {s : Nwk}

/-- The operation leaves the list alone and asks for no buffer. -/
def Apart (s : Nwk) (after : Nwk × List Call) : Prop :=
  after.1.waitAlloc = s.waitAlloc ∧ ask ∉ after.2

/-- An operation that neither receives a frame, grants a buffer nor resets. -/
def Aside : Op → Prop
  | .mcpsDataIndication .. | .newBufferAllocated .. | .resetConfirm => False
  | _ => True

theorem exec_apart (spill : Spill) (s : Nwk) {op : Op} (aside : Aside op) :
    Apart s (exec spill s op) := by
  constructor
  · have route : RouteSide op → (exec spill s op).1.waitAlloc = s.waitAlloc := by
      intro side
      obtain ⟨device, routing, routeDisc, pending, rreqId, apsRreqAddr, after⟩ :=
        exec_routeSide s spill side
      rw [after]
    cases op with
    | forward param handle nwhdr hops =>
      obtain ⟨btt, brrt, routing, pending, reqParams, after⟩ :=
        (forward_writes s param handle nwhdr hops).1
      rw [exec, after]
    | broadcastTransmition param env =>
      obtain ⟨brrt, reqParams, after⟩ := (broadcastTransmition_writes s spill param env).1
      rw [exec, after]
    | btrExpiry =>
      obtain ⟨btt, after⟩ := btrExpiry_writes s
      rw [exec, after]
    | leave => rfl
    | mcpsDataIndication | newBufferAllocated | resetConfirm => exact absurd aside id
    | configure | nldeDataRequest | mcpsDataConfirm | rreq | rrep | initiateRouteDiscovery
    | nlmeRouteDiscoveryRequest | expiryRouteDisc | expiryPending | resetRequest =>
      exact route trivial
  · apply (exec_asks s spill op).not_mem
    cases op with
    | mcpsDataIndication | newBufferAllocated => exact absurd aside id
    | _ => simp [Op.waiters]

/-! ## Frames received -/

/-- The frame is put on the list, with one request for a buffer. -/
structure Listed (s : Nwk) (after : Nwk × List Call) : Prop where
  asks : after.2.count ask = 1
  list : ∃ i t ent, s.waitAlloc.getEnt = some (i, t) ∧ after.1.waitAlloc = t.modify i fun _ => ent

theorem deliver_cases (s : Nwk) (frame : RxFrame) :
    (frame.security = true → frame.unsecured = true) ∧ dispatch s.device frame = (true, true) ∧
        s.waitAlloc.HasFree ∧ Listed s (deliver s frame) ∨
      ¬ ((frame.security = true → frame.unsecured = true) ∧
        dispatch s.device frame = (true, true) ∧ s.waitAlloc.HasFree) ∧
        Apart s (deliver s frame) := by
  rw [deliver]
  split
  · rename_i fails
    refine Or.inr ⟨fun waits => ?_, rfl, by simp [ask]⟩
    have ok := waits.1 fails.1
    simp [ok] at fails
  · rename_i secure
    have secured : frame.security = true → frame.unsecured = true := by
      intro security
      by_contra fails
      exact secure ⟨security, by simpa using fails⟩
    split
    · rename_i both
      cases got : s.waitAlloc.getEnt with
      | some e =>
        refine Or.inl ⟨secured, both, ?_, ?_, e.1, e.2, _, got, rfl⟩
        · rw [← getEnt_isSome_iff, got]
          rfl
        · simp [ask]
      | none =>
        refine Or.inr ⟨fun waits => ?_, rfl, by simp [ask]⟩
        have free := getEnt_isSome_iff.mpr waits.2.2
        rw [got] at free
        cases free
    · rename_i other
      exact Or.inr ⟨fun waits => by simp [other] at waits, rfl, by simp [ask]⟩
    · rename_i other
      exact Or.inr ⟨fun waits => by simp [other] at waits, rfl, by simp [ask]⟩
    · rename_i other
      exact Or.inr ⟨fun waits => by simp [other] at waits, rfl, by simp [ask]⟩

theorem broadcast_of_both {device : Device} {frame : RxFrame}
    (both : dispatch device frame = (true, true)) : nwkIsAddressBroadcast frame.dstAddr = true := by
  by_contra unicast
  rw [dispatch] at both
  split at both
  · split at both <;> simp at both
  · simp at both

theorem mcpsDataIndication_cases (spill : Spill) (s : Nwk) (frame : RxFrame) :
    Waits s frame ∧ Listed s (mcpsDataIndication spill s frame) ∨
      ¬ Waits s frame ∧ Apart s (mcpsDataIndication spill s frame) := by
  rw [mcpsDataIndication]
  split
  · rename_i bad
    exact Or.inr ⟨fun waits => by simp [waits.good] at bad, rfl, by simp [ask]⟩
  rename_i good
  split
  · rename_i broadcast
    split
    · rename_i forUs
      obtain ⟨⟨brrt, after⟩, confirms⟩ := notePassiveAck_writes s spill frame
      generalize notePassiveAck spill s frame = noted at *
      obtain ⟨s', acked⟩ := noted
      dsimp only at after confirms ⊢
      subst after
      have quiet : ask ∉ acked := by
        intro asked
        obtain ⟨buf, same⟩ := confirms _ asked
        simp [ask] at same
      have freed : ask ∉ acked ++ [.freeBuf frame.buf] := by
        rw [List.mem_append, not_or]
        exact ⟨quiet, by simp [ask]⟩
      rw [receiveBroadcast]
      split
      · rename_i known
        refine Or.inr ⟨fun waits => ?_, rfl, freed⟩
        rw [waits.unknown] at known
        cases known
      · rename_i unknown
        cases noted : noteBroadcast s.btt frame.srcAddr frame.seqNum with
        | none =>
          refine Or.inr ⟨fun waits => ?_, rfl, freed⟩
          have free := getEnt_isSome_iff.mpr waits.noted
          rw [noteBroadcast, Option.map_eq_none_iff] at noted
          rw [noted] at free
          cases free
        | some btt =>
          have room : s.btt.HasFree := by
            obtain ⟨e, got, -⟩ := Option.map_eq_some_iff.mp noted
            rw [← getEnt_isSome_iff, got]
            rfl
          dsimp only
          rcases deliver_cases { s with brrt, btt } frame with
            ⟨secure, both, free, asks, list⟩ | ⟨fails, same, asks⟩
          · refine Or.inl ⟨⟨by simpa using good, broadcast, forUs, by simpa using unknown, room,
              secure, both, free⟩, ?_, list⟩
            rw [List.count_append, List.count_eq_zero_of_not_mem quiet, asks]
          · refine Or.inr ⟨fun waits => fails ⟨waits.secure, waits.both, waits.room⟩, same, ?_⟩
            simp [quiet, asks]
    · rename_i others
      exact Or.inr ⟨fun waits => others waits.forUs, rfl, by simp [ask]⟩
  · rename_i unicast
    rcases deliver_cases s frame with ⟨-, both, -⟩ | ⟨-, apart⟩
    · exact absurd (broadcast_of_both both) unicast
    · exact Or.inr ⟨fun waits => unicast waits.broadcast, apart⟩

/-! ## Grants -/

/-- A list with nothing behind its top. -/
theorem exec_stacked {w : Layer} {spill : Spill} (stack : w.nwk.waitAlloc.Stacked) (op : Op)
    (other : isGrant op = false) : (exec spill w.nwk op).1.waitAlloc.Stacked := by
  have apart : Aside op → (exec spill w.nwk op).1.waitAlloc.Stacked := by
    intro aside
    rw [(exec_apart spill w.nwk aside).1]
    exact stack
  cases op with
  | mcpsDataIndication frame =>
    rw [exec]
    rcases mcpsDataIndication_cases spill w.nwk frame with ⟨-, -, i, t, ent, got, after⟩ |
      ⟨-, same, -⟩
    · rw [after]
      exact (stack.getEnt (by decide) got).modify _
    · rw [same]
      exact stack
  | newBufferAllocated => cases other
  | resetConfirm => exact stacked_cleared _
  | forward | broadcastTransmition | btrExpiry | leave | configure | nldeDataRequest
  | mcpsDataConfirm | rreq | rrep | initiateRouteDiscovery | nlmeRouteDiscoveryRequest
  | expiryRouteDisc | expiryPending | resetRequest => exact apart trivial

/-- A grant while frames wait. -/
theorem newBufferAllocated_eq {buf : BufRef} (proper : buf ≠ 0) (some_ : s.waitAlloc.cnt ≠ 0) :
    newBufferAllocated s buf =
      ({ s with waitAlloc := s.waitAlloc.putEnt (s.waitAlloc.cnt.toNat - 1) },
        [.frameIndication buf, .forward
          (s.waitAlloc.slots (s.waitAlloc.cnt.toNat - 1)).ent.buf nwkInternalNsduHandle] ++
          if (s.waitAlloc.cnt - 1) ≠ 0 then [ask] else []) := by
  rw [newBufferAllocated, if_pos ⟨proper, some_⟩]
  rfl

/-- The invariant: the list is a stack, and every entry of it has one buffer outstanding. -/
structure Books (w : Layer) : Prop where
  stack : w.nwk.waitAlloc.Stacked
  paired : Paired w

namespace Books

variable {w : Layer} {spill : Spill}

theorem init (device : Device) : Books (Layer.init device) where
  stack := stacked_cleared _
  paired := (stacked_cleared (α := NwkBufAllocWait) ⟨0⟩).accounted

theorem cnt_eq (books : Books w) : w.nwk.waitAlloc.cnt.toNat = w.grants :=
  books.stack.accounted.trans books.paired.symm

/-- A buffer that is outstanding is used. -/
theorem serves (books : Books w) {buf : BufRef} (outstanding : w.grants ≠ 0) (proper : buf ≠ 0) :
    Serves w.nwk buf := by
  have counted := books.cnt_eq
  have some_ : w.nwk.waitAlloc.cnt ≠ 0 := by
    intro none_
    rw [none_] at counted
    exact outstanding counted.symm
  have fits := books.stack.1
  have inside : w.nwk.waitAlloc.cnt.toNat - 1 < nwkWaitAllocTableSize := by omega
  refine ⟨_, inside, ?_, ?_⟩
  · rw [books.stack.2 _ inside]
    omega
  · rw [newBufferAllocated_eq proper some_]
    exact ⟨rfl, by simp, by simp⟩

/-- The list and its requests after a grant. -/
theorem granted (books : Books w) {buf : BufRef} (outstanding : w.grants ≠ 0) (proper : buf ≠ 0)
    (accepted : Bool) :
    let after := newBufferAllocated w.nwk buf
    after.1.waitAlloc.Stacked ∧ after.1.waitAlloc.usedCnt = w.grants - 1 ∧
      taken after.2 accepted = if accepted = true ∧ w.grants ≠ 1 then 1 else 0 := by
  have counted := books.cnt_eq
  have some_ : w.nwk.waitAlloc.cnt ≠ 0 := by
    intro none_
    rw [none_] at counted
    exact outstanding counted.symm
  have one_le : (1 : UInt8) ≤ w.nwk.waitAlloc.cnt := by
    rw [UInt8.le_iff_toNat_le, counted]
    exact Nat.pos_of_ne_zero outstanding
  have less : (w.nwk.waitAlloc.cnt - 1).toNat = w.grants - 1 := by
    rw [UInt8.toNat_sub_of_le _ _ one_le, counted, UInt8.toNat_one]
  have stack := books.stack.putEnt some_
  rw [newBufferAllocated_eq proper some_]
  refine ⟨stack, stack.accounted.symm.trans less, ?_⟩
  have more : w.nwk.waitAlloc.cnt - 1 ≠ 0 ↔ w.grants ≠ 1 := by
    rw [not_iff_not, ← UInt8.toNat_inj, less, UInt8.toNat_zero]
    omega
  rw [taken]
  cases accepted with
  | false => simp
  | true =>
    by_cases last : w.grants = 1
    · rw [if_neg (not_not.mpr (not_not.mp (mt more.mp (not_not.mpr last))))]
      simp [ask, last]
    · rw [if_pos (more.mpr last)]
      simp [ask, last]

theorem handled_grant_iff (books : Books w) (buf : BufRef) (accepted : Bool) :
    Handled spill w (.grant buf accepted) ↔ Regular w (.grant buf accepted) := by
  have paired := books.paired
  rw [Handled, Regular, Paired, AllocGrants.step]
  rw [Paired] at paired
  by_cases idle : w.grants = 0 ∨ buf = 0
  · rw [if_pos idle]
    refine iff_of_true ⟨paired, fun outstanding proper => ?_⟩ fun outstanding proper => ?_
    · exact absurd idle (not_or.mpr ⟨outstanding, proper⟩)
    · exact absurd idle (not_or.mpr ⟨outstanding, proper⟩)
  · obtain ⟨outstanding, proper⟩ := not_or.mp idle
    obtain ⟨-, count, asked⟩ := books.granted outstanding proper accepted
    rw [if_neg idle]
    dsimp only
    rw [count, asked, ← paired]
    constructor
    · rintro ⟨equal, -⟩ _ _
      by_contra more
      obtain ⟨several, taken_⟩ := not_or.mp more
      rw [if_pos ⟨by simpa using taken_, several⟩] at equal
      omega
    · intro regular
      refine ⟨?_, fun _ _ => Or.inl (books.serves outstanding proper)⟩
      rw [if_neg, Nat.add_zero]
      rintro ⟨taken_, several⟩
      rcases regular outstanding proper with one | refused
      · exact several one
      · rw [refused] at taken_
        cases taken_

/-- Where an operation leaves the list alone nothing changes. -/
theorem handled_apart (books : Books w) {op : Op} (accepted : Bool) (other : isGrant op = false)
    (apart : Apart w.nwk (exec spill w.nwk op)) : Handled spill w (.op op accepted) := by
  refine ⟨?_, trivial⟩
  rw [Paired, AllocGrants.step, other, if_neg Bool.false_ne_true]
  dsimp only
  rw [apart.1, taken, List.count_eq_zero_of_not_mem apart.2, ite_self]
  exact books.paired

/-- In a state of the books an event is handled exactly if it is regular. -/
theorem handled_iff_regular (books : Books w) (event : Event) :
    Handled spill w event ↔ Regular w event := by
  cases event with
  | grant buf accepted => exact books.handled_grant_iff buf accepted
  | op op accepted =>
    have apart : Aside op → isGrant op = false → Handled spill w (.op op accepted) :=
      fun aside other => books.handled_apart accepted other (exec_apart spill w.nwk aside)
    cases op with
    | mcpsDataIndication frame =>
      rw [Regular]
      rcases mcpsDataIndication_cases spill w.nwk frame with
        ⟨waits, asks, i, t, ent, got, after⟩ | ⟨passes, apart⟩
      · have more : (mcpsDataIndication spill w.nwk frame).1.waitAlloc.usedCnt =
            w.nwk.waitAlloc.usedCnt + 1 := by
          obtain ⟨inside, free, rfl, -⟩ := getEnt_spec got
          have moved := usedCnt_mark (t := w.nwk.waitAlloc) true inside (w.nwk.waitAlloc.cnt + 1)
          rw [after, usedCnt_congr fun j _ => modify_used _ j]
          simpa [free] using moved
        have paired := books.paired
        rw [Paired] at paired
        rw [Handled, and_true, Paired, AllocGrants.step, if_neg (by simp [isGrant])]
        dsimp only
        rw [exec, more, taken, asks, paired, Nat.add_left_cancel_iff]
        cases accepted with
        | true => exact iff_of_true rfl fun _ => rfl
        | false => exact iff_of_false (by simp) fun taken_ => by simpa using taken_ waits
      · exact iff_of_true (books.handled_apart accepted rfl apart) fun waits => absurd waits passes
    | resetConfirm =>
      have paired := books.paired
      rw [Paired] at paired
      rw [Handled, and_true, Paired, AllocGrants.step, if_neg (by simp [isGrant]), Regular]
      dsimp only
      have empty : (mlmeResetConfirm w.nwk).waitAlloc.usedCnt = 0 :=
        usedCnt_eq_zero_iff.mpr fun _ _ => rfl
      rw [exec, empty, taken, List.count_nil, ite_self, Nat.add_zero, paired]
    | newBufferAllocated => exact iff_of_true ⟨books.paired, trivial⟩ trivial
    | forward | broadcastTransmition | btrExpiry | leave | configure | nldeDataRequest
    | mcpsDataConfirm | rreq | rrep | initiateRouteDiscovery | nlmeRouteDiscoveryRequest
    | expiryRouteDisc | expiryPending | resetRequest =>
      exact iff_of_true (apart trivial rfl) trivial

theorem step (books : Books w) {event : Event} (regular : Regular w event) :
    Books (step spill w event) := by
  refine ⟨?_, ((books.handled_iff_regular event).mpr regular).1⟩
  cases event with
  | op op accepted =>
    rw [AllocGrants.step]
    split
    · exact books.stack
    · rename_i other
      exact exec_stacked books.stack op (by simpa using other)
  | grant buf accepted =>
    rw [AllocGrants.step]
    split
    · exact books.stack
    · rename_i served
      obtain ⟨outstanding, proper⟩ := not_or.mp served
      exact (books.granted outstanding proper accepted).1

end Books

/-- **In every order of requests and grants, buffers and frames that wait stay paired and every
buffer granted is used exactly as long as every event is regular.** -/
theorem grants_handled_iff (spill : Spill) (device : Device) (events : List Event) :
    Along (step spill) (Handled spill) (Layer.init device) events ↔
      Along (step spill) Regular (Layer.init device) events :=
  along_iff_of_invariant (fun _ event books => Books.handled_iff_regular books event)
    (fun _ _ books regular => Books.step books regular) _ events (Books.init device)

/-- A broadcast of device 1. -/
def broadcast (buf : BufRef) (seqNum : UInt8) : Event :=
  .op (.mcpsDataIndication ⟨buf, 2, 0, 0xFFFF, 1, seqNum, 0, false, false, none, 0⟩) true

/-- Of two broadcasts that wait, the second one is asked for again when the first is served. -/
theorem second_broadcast_asks_twice :
    ¬ Along (step fun t _ _ => t) (Handled fun t _ _ => t) (Layer.init router)
      [broadcast 1 7, broadcast 2 8, .grant 3 true] := by
  intro met
  exact absurd met.2.2.1.1 (by decide +kernel)

end Zboss.AllocGrants
