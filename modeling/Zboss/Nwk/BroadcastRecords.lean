import Zboss.Nwk.Footprints

/-!
The broadcast transaction table.  A record of each broadcast that is received or sent is kept
for its delivery time, so that later copies are dropped.  The records are counted down by an
alarm that starts with the first record and sets itself again while the count says that there
are records; so they are freed only as long as the count is right.
-/

namespace Zboss.BroadcastRecords

open Zboss.DynamicTables Zboss.Run Zboss.SlotTable Zboss.SlotTable.Table
open Zboss.FrameHeaders (nwkIsAddressBroadcast)

/-- The transaction table. -/
abbrev Btt := Table NwkBtr nwkBtrTableSize

/-- The network layer, and whether the alarm of `zb_nwk_btr_expiry` is set. -/
structure Layer where
  nwk : Nwk
  expiry : Bool

/-- An operation, with whether there is room for another alarm. -/
structure Event where
  op : Op
  room : Bool

/-- `ZB_NWK_START_BTR_EXPIRY`, which follows a new record: an alarm that is set is set anew. -/
def startBtrExpiry (before after : Nwk) (expiry room : Bool) : Bool :=
  if after.btt.cnt = before.btt.cnt + 1 ∧ after.btt.cnt = 1 then expiry || room else expiry

/-- One event.  The expiry runs when its alarm goes off. -/
def step (spill : Spill) (w : Layer) (event : Event) : Layer :=
  match event.op with
  | .btrExpiry =>
    if w.expiry then { nwk := btrExpiry w.nwk, expiry := decide (w.nwk.btt.cnt ≠ 0) } else w
  | .forward param handle nwhdr hops =>
    let nwk := (forward w.nwk param handle nwhdr hops).1
    { nwk, expiry := startBtrExpiry w.nwk nwk w.expiry event.room }
  | .mcpsDataIndication frame =>
    let nwk := (mcpsDataIndication spill w.nwk frame).1
    { nwk, expiry := startBtrExpiry w.nwk nwk w.expiry event.room }
  | op => { w with nwk := (exec spill w.nwk op).1 }

/-- The network layer after `zb_nwk_init`. -/
def Layer.init (device : Device) : Layer := ⟨Nwk.init device, false⟩

/-- There is a record of the broadcast. -/
def Alive (btt : Btt) (srcAddr : UInt16) (seqNum : UInt8) : Prop :=
  (findBroadcast btt srcAddr seqNum).isSome = true

/-- A received frame is indicated or relayed, or waits for a buffer to be. -/
def PassesOn (spill : Spill) (s : Nwk) (frame : RxFrame) : Prop :=
  let calls := (mcpsDataIndication spill s frame).2
  .frameIndication frame.buf ∈ calls ∨ .forward frame.buf nwkInternalNsduHandle ∈ calls ∨
    .getBuf .newBufferAllocated ∈ calls

/-- A packet of this device, or one to be relayed, is transmitted or queued to be. -/
def SendsOn (s : Nwk) (param : BufRef) (handle : UInt8) (nwhdr : NwkHdr) (hops : Hops) : Prop :=
  let calls := (forward s param handle nwhdr hops).2
  .mcpsDataRequest param ∈ calls ∨ .getBuf .broadcastTransmition ∈ calls

/-- Copies of a recorded broadcast are dropped, and what is indicated or sent is recorded. -/
structure Once (spill : Spill) (s : Nwk) : Prop where
  dropped : ∀ frame, nwkIsAddressBroadcast frame.dstAddr = true →
    Alive s.btt frame.srcAddr frame.seqNum → ¬ PassesOn spill s frame
  received : ∀ frame, nwkIsAddressBroadcast frame.dstAddr = true → PassesOn spill s frame →
    Alive (mcpsDataIndication spill s frame).1.btt frame.srcAddr frame.seqNum
  sent : ∀ param handle nwhdr hops, nwkIsAddressBroadcast nwhdr.dstAddr = true →
    SendsOn s param handle nwhdr hops →
      Alive (forward s param handle nwhdr hops).1.btt nwhdr.srcAddr nwhdr.seqNum

/-- The event is the second that the alarm counts. -/
def Event.isExpiry (event : Event) : Bool :=
  match event.op with
  | .btrExpiry => true
  | _ => false

/-- While there are records the alarm is set; and in events with more seconds than the delivery
time has, each of them is freed. -/
structure Frees (spill : Spill) (w : Layer) (events : List Event) : Prop where
  counting : (∃ i < nwkBtrTableSize, (w.nwk.btt.slots i).used = true) → w.expiry = true
  freed : nwkBroadcastDeliveryTime < events.countP (·.isExpiry) → ∀ i < nwkBtrTableSize,
    ∃ k ≤ events.length,
      ((run (step spill) w (events.take k)).nwk.btt.slots i).used = false

/-- The device leaves with no broadcast on record, and for the first record there is room for
the alarm. -/
def Regular (spill : Spill) (w : Layer) (event : Event) : Prop :=
  match event.op with
  | .leave => ∀ i < nwkBtrTableSize, (w.nwk.btt.slots i).used = false
  | .forward .. | .mcpsDataIndication .. =>
    w.nwk.btt.cnt = 0 → (exec spill w.nwk event.op).1.btt.cnt = 1 →
      w.expiry = true ∨ event.room = true
  | _ => True

/-! ## The route side -/

/-- The tables of broadcasts. -/
def broadcasts (s : Nwk) : Btt × RetransmitTable × Table NwkBufAllocWait nwkWaitAllocTableSize :=
  (s.btt, s.brrt, s.waitAlloc)

theorem calcDestination_broadcasts (s : Nwk) (nsdu : BufRef) (handle : UInt8) (nwhdr : NwkHdr)
    (hops : Hops) : broadcasts (calcDestination s nsdu handle nwhdr hops).1 = broadcasts s := by
  obtain ⟨routing, pending, after⟩ := (calcDestination_writes s nsdu handle nwhdr hops).1
  rw [after]
  rfl

theorem exec_broadcasts (spill : Spill) (s : Nwk) {op : Op} (side : RouteSide op) :
    broadcasts (exec spill s op).1 = broadcasts s := by
  obtain ⟨device, routing, routeDisc, pending, rreqId, apsRreqAddr, after⟩ :=
    exec_routeSide s spill side
  rw [after]
  rfl

/-! ## New records -/

theorem alive_iff {btt : Btt} {srcAddr : UInt16} {seqNum : UInt8} :
    Alive btt srcAddr seqNum ↔ ∃ i < nwkBtrTableSize, (btt.slots i).used = true ∧
      (btt.slots i).ent.sourceAddr = srcAddr ∧ (btt.slots i).ent.sequenceNumber = seqNum := by
  simp [Alive, findBroadcast, findEnt]

/-- A new record goes to a free slot. -/
theorem noteBroadcast_spec {btt btt' : Btt} {srcAddr : UInt16} {seqNum : UInt8}
    (noted : noteBroadcast btt srcAddr seqNum = some btt') :
    ∃ i < nwkBtrTableSize, (btt.slots i).used = false ∧ btt' = ⟨Function.update btt.slots i
      ⟨true, ⟨srcAddr, seqNum, nwkBroadcastDeliveryTime⟩⟩, btt.cnt + 1⟩ := by
  obtain ⟨⟨i, taken⟩, got, rfl⟩ := Option.map_eq_some_iff.mp noted
  obtain ⟨inside, free, rfl, -⟩ := getEnt_spec got
  refine ⟨i, inside, free, ?_⟩
  simp [Table.modify, mark]

theorem alive_of_noteBroadcast {btt btt' : Btt} {srcAddr : UInt16} {seqNum : UInt8}
    (noted : noteBroadcast btt srcAddr seqNum = some btt') : Alive btt' srcAddr seqNum := by
  obtain ⟨i, inside, -, rfl⟩ := noteBroadcast_spec noted
  refine alive_iff.mpr ⟨i, inside, ?_⟩
  dsimp only
  rw [Function.update_self]
  exact ⟨rfl, rfl, rfl⟩

/-- The table is as it was, or has a new record of a broadcast that had none. -/
def Noted (btt btt' : Btt) : Prop :=
  btt' = btt ∨ ∃ srcAddr seqNum, noteBroadcast btt srcAddr seqNum = some btt'

theorem undeliverable_not_sent (hops : Hops) (macDst : UInt16) (param : BufRef) :
    .mcpsDataRequest param ∉ [undeliverable hops macDst param] ∧
      .getBuf .broadcastTransmition ∉ [undeliverable hops macDst param] := by
  rw [undeliverable]
  split <;> simp

theorem sendTo_btt (s : Nwk) (param : BufRef) (handle : UInt8) (nwhdr : NwkHdr) (hops : Hops)
    (macDst : UInt16) (indirect : Bool) :
    let after := sendTo s param handle nwhdr hops macDst indirect
    Noted s.btt after.1.btt ∧ (nwkIsAddressBroadcast nwhdr.dstAddr = true →
      (.mcpsDataRequest param ∈ after.2 ∨ .getBuf .broadcastTransmition ∈ after.2) →
        Alive after.1.btt nwhdr.srcAddr nwhdr.seqNum) := by
  rw [sendTo]
  dsimp only
  split
  · refine ⟨Or.inl rfl, fun _ sent => ?_⟩
    obtain ⟨unsent, unqueued⟩ := undeliverable_not_sent hops macDst param
    exact absurd sent (not_or.mpr ⟨unsent, unqueued⟩)
  · rename_i btt noted
    have table : Noted s.btt btt ∧ (nwkIsAddressBroadcast nwhdr.dstAddr = true →
        Alive btt nwhdr.srcAddr nwhdr.seqNum) := by
      split at noted
      · exact ⟨Or.inr ⟨_, _, noted⟩, fun _ => alive_of_noteBroadcast noted⟩
      · rename_i known
        cases noted
        refine ⟨Or.inl rfl, fun broadcast => ?_⟩
        simpa [broadcast, Alive, Option.isSome_iff_ne_none] using known
    split
    · split
      · split
        · exact ⟨table.1, fun broadcast _ => table.2 broadcast⟩
        · exact ⟨table.1, fun broadcast _ => table.2 broadcast⟩
      · exact ⟨table.1, fun broadcast _ => table.2 broadcast⟩
    · exact ⟨table.1, fun broadcast _ => table.2 broadcast⟩

theorem forward_btt (s : Nwk) (param : BufRef) (handle : UInt8) (nwhdr : NwkHdr) (hops : Hops) :
    Noted s.btt (forward s param handle nwhdr hops).1.btt ∧
      (nwkIsAddressBroadcast nwhdr.dstAddr = true → SendsOn s param handle nwhdr hops →
        Alive (forward s param handle nwhdr hops).1.btt nwhdr.srcAddr nwhdr.seqNum) := by
  have same : (calcDestination s param handle nwhdr hops).1.btt = s.btt :=
    congrArg Prod.fst (calcDestination_broadcasts s param handle nwhdr hops)
  rw [SendsOn, forward]
  generalize found : calcDestination s param handle nwhdr hops = result at *
  obtain ⟨s', destination, calls⟩ := result
  dsimp only at same
  cases destination with
  | hop macDst indirect =>
    rw [← same]
    exact sendTo_btt s' param handle nwhdr hops macDst indirect
  | busy =>
    refine ⟨Or.inl same, fun _ sent => ?_⟩
    have asks := (calcDestination_writes s param handle nwhdr hops).2
    rw [found] at asks
    rcases sent with sent | queued
    · cases asks _ sent
    · cases asks _ queued
  | error status =>
    refine ⟨Or.inl same, fun _ sent => ?_⟩
    obtain ⟨unsent, unqueued⟩ := undeliverable_not_sent hops nwhdr.dstAddr param
    exact absurd sent (not_or.mpr ⟨unsent, unqueued⟩)

theorem deliver_btt (s : Nwk) (frame : RxFrame) : (deliver s frame).1.btt = s.btt := by
  obtain ⟨waitAlloc, after⟩ := (deliver_writes s frame).1
  rw [after]

theorem notePassiveAck_spec (spill : Spill) (s : Nwk) (frame : RxFrame) :
    (notePassiveAck spill s frame).1.btt = s.btt ∧
      ∀ call ∈ (notePassiveAck spill s frame).2, ∃ buf, call = .callBrConfirm buf := by
  obtain ⟨⟨brrt, after⟩, confirms⟩ := notePassiveAck_writes s spill frame
  exact ⟨by rw [after], confirms⟩

/-- The frame is among what is passed on in these calls. -/
def PassedIn (frame : RxFrame) (calls : List Call) : Prop :=
  .frameIndication frame.buf ∈ calls ∨ .forward frame.buf nwkInternalNsduHandle ∈ calls ∨
    .getBuf .newBufferAllocated ∈ calls

theorem passedIn_append {frame : RxFrame} {acked calls : List Call}
    (confirms : ∀ call ∈ acked, ∃ buf, call = .callBrConfirm buf)
    (passed : PassedIn frame (acked ++ calls)) : PassedIn frame calls := by
  have other : ∀ call ∈ acked ++ calls, (∀ buf, call ≠ .callBrConfirm buf) → call ∈ calls := by
    intro call member differs
    rcases List.mem_append.mp member with first | second
    · obtain ⟨buf, same⟩ := confirms call first
      exact absurd same (differs buf)
    · exact second
  rcases passed with indicated | relayed | waits
  · exact Or.inl (other _ indicated (by simp))
  · exact Or.inr (Or.inl (other _ relayed (by simp)))
  · exact Or.inr (Or.inr (other _ waits (by simp)))

theorem not_passedIn_freed (frame : RxFrame) (buf : BufRef) : ¬ PassedIn frame [.freeBuf buf] := by
  simp [PassedIn]

theorem receiveBroadcast_btt (s : Nwk) (frame : RxFrame) :
    Noted s.btt (receiveBroadcast s frame).1.btt ∧
      (PassedIn frame (receiveBroadcast s frame).2 →
        ¬ Alive s.btt frame.srcAddr frame.seqNum ∧
          Alive (receiveBroadcast s frame).1.btt frame.srcAddr frame.seqNum) := by
  rw [receiveBroadcast]
  split
  · exact ⟨Or.inl rfl, fun passed => absurd passed (not_passedIn_freed frame _)⟩
  · rename_i unknown
    split
    · exact ⟨Or.inl rfl, fun passed => absurd passed (not_passedIn_freed frame _)⟩
    · rename_i btt noted
      rw [deliver_btt]
      exact ⟨Or.inr ⟨_, _, noted⟩, fun _ => ⟨unknown, alive_of_noteBroadcast noted⟩⟩

theorem mcpsDataIndication_btt (spill : Spill) (s : Nwk) (frame : RxFrame) :
    Noted s.btt (mcpsDataIndication spill s frame).1.btt ∧
      (nwkIsAddressBroadcast frame.dstAddr = true → PassesOn spill s frame →
        ¬ Alive s.btt frame.srcAddr frame.seqNum ∧
          Alive (mcpsDataIndication spill s frame).1.btt frame.srcAddr frame.seqNum) := by
  rw [PassesOn, mcpsDataIndication]
  split
  · exact ⟨Or.inl rfl, fun _ passed => absurd passed (not_passedIn_freed frame _)⟩
  split
  · split
    · obtain ⟨same, confirms⟩ := notePassiveAck_spec spill s frame
      obtain ⟨noted, passes⟩ := receiveBroadcast_btt (notePassiveAck spill s frame).1 frame
      rw [same] at noted passes
      exact ⟨noted, fun _ passed => passes (passedIn_append confirms passed)⟩
    · exact ⟨Or.inl rfl, fun _ passed => absurd passed (not_passedIn_freed frame _)⟩
  · rename_i unicast
    exact ⟨Or.inl (deliver_btt s frame), fun broadcast => absurd broadcast unicast⟩

/-- **Copies are dropped and broadcasts recorded in every state.** -/
theorem once (spill : Spill) (s : Nwk) : Once spill s where
  dropped frame broadcast alive passes :=
    ((mcpsDataIndication_btt spill s frame).2 broadcast passes).1 alive
  received frame broadcast passes := ((mcpsDataIndication_btt spill s frame).2 broadcast passes).2
  sent param handle nwhdr hops := (forward_btt s param handle nwhdr hops).2

/-! ## Seconds -/

/-- A slot after one second. -/
def ticked (slot : Slot NwkBtr) : Slot NwkBtr :=
  if slot.used then
    if slot.ent.expirationTime ≠ 0 then
      { slot with ent := { slot.ent with expirationTime := slot.ent.expirationTime - 1 } }
    else { slot with used := false }
  else slot

/-- The seconds that a record has before it. -/
theorem ticked_young {slot : Slot NwkBtr}
    (young : slot.used = true → slot.ent.expirationTime ≤ nwkBroadcastDeliveryTime)
    (used : (ticked slot).used = true) :
    (ticked slot).ent.expirationTime ≤ nwkBroadcastDeliveryTime := by
  unfold ticked at used ⊢
  split at used
  · rename_i was
    split at used
    · rename_i more
      rw [if_pos was, if_pos more]
      exact (Nat.sub_le ..).trans (young was)
    · cases used
  · rename_i was
    exact absurd used was

theorem btrTick_slots (btt : Btt) (i j : ℕ) :
    (btrTick btt i).slots j = if j = i then ticked (btt.slots j) else btt.slots j := by
  by_cases here : j = i
  · subst here
    rw [btrTick, if_pos rfl, ticked]
    split
    · split
      · simp [Table.modify]
      · simp [putEnt, mark]
    · rfl
  · rw [btrTick, if_neg here]
    split
    · split
      · simp [Table.modify, here]
      · simp [putEnt, mark, here]
    · rfl

theorem btrLoop_slots :
    ∀ (slots : List ℕ), slots.Nodup → ∀ (btt : Btt) (j : ℕ),
      (slots.foldl btrTick btt).slots j =
        if j ∈ slots then ticked (btt.slots j) else btt.slots j := by
  intro slots
  induction slots with
  | nil =>
    intro _ btt j
    rfl
  | cons i rest induction_ =>
    intro nodup btt j
    obtain ⟨fresh, nodup'⟩ := List.nodup_cons.mp nodup
    rw [List.foldl_cons, induction_ nodup', btrTick_slots]
    by_cases here : j = i
    · subst here
      simp [fresh]
    · simp [here]

/-- A second while there are records. -/
theorem btrExpiry_spec {s : Nwk} (account : s.btt.Accounted) (counted : s.btt.cnt ≠ 0) :
    (btrExpiry s).btt.Accounted ∧ ∀ j < nwkBtrTableSize,
      (btrExpiry s).btt.slots j = ticked (s.btt.slots j) := by
  rw [btrExpiry, if_pos counted]
  constructor
  · apply List.foldlRecOn (motive := Table.Accounted) _ _ account
    intro btt account i member
    exact btrTick_accounted account (List.mem_range.mp member)
  · intro j inside
    dsimp only
    rw [btrLoop_slots _ List.nodup_range, if_pos (List.mem_range.mpr inside)]

/-! ## Runs -/

/-- What one event does to the records and the alarm. -/
inductive Stepped (spill : Spill) (w w' : Layer) (event : Event) : Prop
  | same (btt : w'.nwk.btt = w.nwk.btt) (expiry : w'.expiry = w.expiry)
    (off : event.isExpiry = true → w.expiry = false)
  | noted (srcAddr : UInt16) (seqNum : UInt8)
    (btt : noteBroadcast w.nwk.btt srcAddr seqNum = some w'.nwk.btt)
    (expiry : w'.expiry = startBtrExpiry w.nwk w'.nwk w.expiry event.room)
    (timer : event.isExpiry = false)
    (started : Regular spill w event → w.nwk.btt.cnt = 0 → w'.nwk.btt.cnt = 1 →
      w.expiry = true ∨ event.room = true)
  | second (on : w.expiry = true) (timer : event.isExpiry = true)
    (after : w' = ⟨btrExpiry w.nwk, decide (w.nwk.btt.cnt ≠ 0)⟩)
  | left (leave : event.op = .leave) (after : w' = { w with nwk := doLeave w.nwk })
  | reset (btt : w'.nwk.btt = .cleared ⟨0, 0, 0⟩) (expiry : w'.expiry = w.expiry)
    (timer : event.isExpiry = false)

theorem startBtrExpiry_same {before after : Nwk} (same : after.btt = before.btt)
    (expiry room : Bool) : startBtrExpiry before after expiry room = expiry := by
  rw [startBtrExpiry, same, if_neg]
  rintro ⟨grown, -⟩
  exact absurd grown (by simp)

/-- An operation that may add a record. -/
theorem stepped_of_noted {spill : Spill} {w w' : Layer} {event : Event}
    (noted : Noted w.nwk.btt w'.nwk.btt)
    (expiry : w'.expiry = startBtrExpiry w.nwk w'.nwk w.expiry event.room)
    (timer : event.isExpiry = false)
    (started : Regular spill w event → w.nwk.btt.cnt = 0 → w'.nwk.btt.cnt = 1 →
      w.expiry = true ∨ event.room = true) : Stepped spill w w' event := by
  rcases noted with same | ⟨srcAddr, seqNum, noted⟩
  · rw [startBtrExpiry_same same] at expiry
    exact .same same expiry (by simp [timer])
  · exact .noted srcAddr seqNum noted expiry timer started

theorem broadcastTransmition_btt (spill : Spill) (s : Nwk) (param : BufRef) (env : Surroundings) :
    (broadcastTransmition spill s param env).1.btt = s.btt := by
  obtain ⟨brrt, reqParams, after⟩ := (broadcastTransmition_writes s spill param env).1
  rw [after]

theorem newBufferAllocated_btt (s : Nwk) (param : BufRef) :
    (newBufferAllocated s param).1.btt = s.btt := by
  obtain ⟨waitAlloc, after⟩ := (newBufferAllocated_writes s param).1
  rw [after]

theorem stepped (spill : Spill) (w : Layer) (event : Event) :
    Stepped spill w (step spill w event) event := by
  obtain ⟨op, room⟩ := event
  have route : RouteSide op →
      Stepped spill w { w with nwk := (exec spill w.nwk op).1 } ⟨op, room⟩ := by
    intro side
    refine .same (congrArg Prod.fst (exec_broadcasts spill w.nwk side)) rfl fun timer => ?_
    cases op <;> first | exact absurd side id | cases timer
  cases op with
  | forward param handle nwhdr hops =>
    exact stepped_of_noted (forward_btt w.nwk param handle nwhdr hops).1 rfl rfl
      fun regular => regular
  | mcpsDataIndication frame =>
    exact stepped_of_noted (mcpsDataIndication_btt spill w.nwk frame).1 rfl rfl
      fun regular => regular
  | broadcastTransmition param env =>
    exact .same (broadcastTransmition_btt spill w.nwk param env) rfl nofun
  | newBufferAllocated param => exact .same (newBufferAllocated_btt w.nwk param) rfl nofun
  | btrExpiry =>
    rw [step]
    dsimp only
    split
    · rename_i on
      exact .second on rfl rfl
    · rename_i off
      exact .same rfl rfl fun _ => by simpa using off
  | leave => exact .left rfl rfl
  | resetConfirm => exact .reset rfl rfl rfl
  | configure | nldeDataRequest | mcpsDataConfirm | rreq | rrep | initiateRouteDiscovery
  | nlmeRouteDiscoveryRequest | expiryRouteDisc | expiryPending | resetRequest =>
    exact route trivial

/-- The invariant: the count is right, the alarm is set while there are records, and no record
has more than its delivery time before it. -/
structure Sound (w : Layer) : Prop where
  account : w.nwk.btt.Accounted
  counting : (∃ i < nwkBtrTableSize, (w.nwk.btt.slots i).used = true) → w.expiry = true
  young : ∀ i < nwkBtrTableSize, (w.nwk.btt.slots i).used = true →
    (w.nwk.btt.slots i).ent.expirationTime ≤ nwkBroadcastDeliveryTime

theorem Sound.init (device : Device) : Sound (Layer.init device) where
  account := (stacked_cleared _).accounted
  counting := by simp [Layer.init, Nwk.init, cleared]
  young := by simp [Layer.init, Nwk.init, cleared]

variable {spill : Spill} {w : Layer} {event : Event}

theorem Sound.cnt_eq_zero_iff (sound : Sound w) :
    w.nwk.btt.cnt = 0 ↔ ∀ i < nwkBtrTableSize, (w.nwk.btt.slots i).used = false := by
  rw [← usedCnt_eq_zero_iff, ← sound.account, ← UInt8.toNat_inj, UInt8.toNat_zero]

theorem Sound.cnt_ne_zero (sound : Sound w) {i : ℕ} (inside : i < nwkBtrTableSize)
    (used : (w.nwk.btt.slots i).used = true) : w.nwk.btt.cnt ≠ 0 := by
  intro empty
  rw [sound.cnt_eq_zero_iff.mp empty i inside] at used
  cases used

theorem startBtrExpiry_noted {before after : Nwk} (grown : after.btt.cnt = before.btt.cnt + 1)
    (expiry room : Bool) :
    startBtrExpiry before after expiry room =
      if before.btt.cnt = 0 then expiry || room else expiry := by
  have first : after.btt.cnt = 1 ↔ before.btt.cnt = 0 := by
    rw [grown]
    exact add_eq_right
  rw [startBtrExpiry]
  by_cases empty : before.btt.cnt = 0
  · rw [if_pos ⟨grown, first.mpr empty⟩, if_pos empty]
  · rw [if_neg fun starts => empty (first.mp starts.2), if_neg empty]

theorem Sound.step (sound : Sound w) (regular : Regular spill w event) :
    Sound (step spill w event) := by
  have change := stepped spill w event
  generalize BroadcastRecords.step spill w event = w' at *
  cases change with
  | same btt expiry off =>
    exact ⟨btt ▸ sound.account, btt ▸ expiry ▸ sound.counting, btt ▸ sound.young⟩
  | noted srcAddr seqNum noted expiry timer started =>
    obtain ⟨i, inside, free, after⟩ := noteBroadcast_spec noted
    have slots : ∀ j, j ≠ i → w'.nwk.btt.slots j = w.nwk.btt.slots j := by
      intro j other
      rw [after]
      exact Function.update_of_ne other ..
    refine ⟨noteBroadcast_accounted sound.account noted, fun _ => ?_, fun j within used => ?_⟩
    · have grown : w'.nwk.btt.cnt = w.nwk.btt.cnt + 1 := by rw [after]
      rw [expiry, startBtrExpiry_noted grown]
      by_cases empty : w.nwk.btt.cnt = 0
      · rw [if_pos empty, Bool.or_eq_true]
        exact started regular empty (by rw [grown, empty]; rfl)
      · rw [if_neg empty]
        apply sound.counting
        by_contra none_
        refine empty (sound.cnt_eq_zero_iff.mpr fun j within => ?_)
        by_contra used
        exact none_ ⟨j, within, by simpa using used⟩
    · by_cases here : j = i
      · rw [after, here]
        dsimp only
        rw [Function.update_self]
      · rw [slots j here] at used ⊢
        exact sound.young j within used
  | second on timer after =>
    subst after
    by_cases empty : w.nwk.btt.cnt = 0
    · have still : btrExpiry w.nwk = w.nwk := if_neg (not_not.mpr empty)
      rw [still]
      refine ⟨sound.account, ?_, sound.young⟩
      rintro ⟨i, inside, used⟩
      exact absurd empty (sound.cnt_ne_zero inside used)
    · obtain ⟨account, slots⟩ := btrExpiry_spec sound.account empty
      refine ⟨account, fun _ => decide_eq_true empty, fun i inside used => ?_⟩
      dsimp only at used ⊢
      rw [slots i inside] at used ⊢
      exact ticked_young (sound.young i inside) used
  | left leave after =>
    have empty := regular
    rw [Regular, leave] at empty
    subst after
    refine ⟨accounted_zero_iff.mpr (usedCnt_eq_zero_iff.mpr empty), ?_, fun i inside used => ?_⟩
    · rintro ⟨i, inside, used⟩
      exact absurd used (by simpa [doLeave] using empty i inside)
    · exact absurd used (by simpa [doLeave] using empty i inside)
  | reset btt expiry timer =>
    refine ⟨btt ▸ (stacked_cleared _).accounted, ?_, ?_⟩
    · rw [btt]
      simp [cleared]
    · rw [btt]
      simp [cleared]

/-- One event takes a second from a record, if it is one, or frees it. -/
theorem Sound.slot_step (sound : Sound w) (regular : Regular spill w event) {i : ℕ}
    (inside : i < nwkBtrTableSize) (used : (w.nwk.btt.slots i).used = true) :
    let slot := (BroadcastRecords.step spill w event).nwk.btt.slots i
    slot.used = false ∨
      slot.ent.expirationTime + event.isExpiry.toNat = (w.nwk.btt.slots i).ent.expirationTime := by
  have change := stepped spill w event
  generalize BroadcastRecords.step spill w event = w' at *
  cases change with
  | same btt expiry off =>
    have timer : event.isExpiry = false := by
      by_contra timer
      have set_ := sound.counting ⟨i, inside, used⟩
      rw [off (by simpa using timer)] at set_
      cases set_
    right
    rw [btt, timer]
    rfl
  | noted srcAddr seqNum noted expiry timer started =>
    obtain ⟨j, -, free, after⟩ := noteBroadcast_spec noted
    have other : i ≠ j := by
      rintro rfl
      rw [used] at free
      cases free
    right
    rw [after, timer]
    dsimp only
    rw [Function.update_of_ne other]
    rfl
  | second on timer after =>
    subst after
    have slots := (btrExpiry_spec sound.account (sound.cnt_ne_zero inside used)).2
    dsimp only
    rw [slots i inside, ticked, if_pos used, timer]
    split
    · rename_i more
      right
      exact Nat.sub_add_cancel (Nat.pos_of_ne_zero more)
    · exact Or.inl rfl
  | left leave after =>
    have empty := regular
    rw [Regular, leave] at empty
    rw [empty i inside] at used
    cases used
  | reset btt expiry timer =>
    left
    rw [btt]
    rfl

/-- A slot is free at some time in events with more seconds than its record has before it. -/
theorem Sound.freed (sound : Sound w) {i : ℕ} (inside : i < nwkBtrTableSize)
    {events : List Event} (met : Along (BroadcastRecords.step spill) (Regular spill) w events)
    (many : (w.nwk.btt.slots i).used = true →
      (w.nwk.btt.slots i).ent.expirationTime < events.countP (·.isExpiry)) :
    ∃ k ≤ events.length,
      ((run (BroadcastRecords.step spill) w (events.take k)).nwk.btt.slots i).used = false := by
  induction events generalizing w with
  | nil =>
    refine ⟨0, le_rfl, ?_⟩
    by_contra used
    simpa using many (by simpa using used)
  | cons event rest induction_ =>
    by_cases used : (w.nwk.btt.slots i).used = true
    · obtain ⟨regular, others⟩ := met
      have enough := many used
      rw [List.countP_cons] at enough
      obtain ⟨k, within, free⟩ := induction_ (sound.step regular) others fun still => by
        rcases sound.slot_step regular inside used with gone | left
        · rw [gone] at still
          cases still
        · cases timer : event.isExpiry <;> simp [timer] at left enough <;> omega
      exact ⟨k + 1, Nat.succ_le_succ within, free⟩
    · exact ⟨0, Nat.zero_le _, by simpa using used⟩

/-- **In every run whose steps are regular, broadcasts are delivered and relayed at most once, and
their records are freed in time.** -/
theorem broadcasts_once (spill : Spill) (device : Device) (events : List Event)
    (met : Along (BroadcastRecords.step spill) (Regular spill) (Layer.init device) events) :
    ∀ first more, events = first ++ more →
      let w := run (BroadcastRecords.step spill) (Layer.init device) first
      Once spill w.nwk ∧ Frees spill w more := by
  rintro first more rfl w
  obtain ⟨before, after⟩ := (along_append _ first more).mp met
  have sound : Sound w :=
    invariant_of_along (fun _ _ => Sound.step) _ first (Sound.init device) before
  refine ⟨once spill w.nwk, sound.counting, fun many i inside => ?_⟩
  exact sound.freed inside after fun used => (sound.young i inside used).trans_lt many

/-- A second passes. -/
def second : Event := ⟨.btrExpiry, false⟩

theorem along_seconds (n : ℕ) (w : Layer) :
    Along (BroadcastRecords.step spill) (Regular spill) w (List.replicate n second) := by
  induction n generalizing w with
  | zero => trivial
  | succ n induction_ => exact ⟨trivial, induction_ _⟩

/-- A router sends a broadcast. -/
def sent : Event := ⟨sendBroadcast 1 7, true⟩

/-- After ten seconds its record is free again. -/
theorem broadcasts_once_sent :
    ∃ k ≤ 10, ((run (BroadcastRecords.step fun t _ _ => t) (Layer.init router)
      (sent :: List.replicate k second)).nwk.btt.slots 0).used = false := by
  obtain ⟨k, within, free⟩ := (broadcasts_once (fun t _ _ => t) router
    (sent :: List.replicate 10 second) ⟨fun _ _ => Or.inr rfl, along_seconds 10 _⟩ [sent]
    (List.replicate 10 second) rfl).2.freed (by decide) 0 (by decide)
  rw [List.length_replicate] at within
  rw [List.take_replicate, Nat.min_eq_left within] at free
  exact ⟨k, within, free⟩

/-- If the router leaves first, it never is. -/
theorem record_survives_leave :
    ¬ ∀ events first more : List Event, events = first ++ more →
      Frees (fun t _ _ => t) (run (BroadcastRecords.step fun t _ _ => t) (Layer.init router) first)
        more := by
  intro claim
  obtain ⟨k, within, free⟩ := (claim _ [sent, ⟨.leave, false⟩] (List.replicate 10 second) rfl).freed
    (by decide) 0 (by decide)
  rw [List.length_replicate] at within
  rw [List.take_replicate, Nat.min_eq_left within] at free
  revert free
  have kept : ∀ k < 11, ((run (BroadcastRecords.step fun t _ _ => t)
      (run (BroadcastRecords.step fun t _ _ => t) (Layer.init router) [sent, ⟨.leave, false⟩])
        (List.replicate k second)).nwk.btt.slots 0).used = true := by
    decide +kernel
  rw [kept k (Nat.lt_succ_of_le within)]
  simp

end Zboss.BroadcastRecords
