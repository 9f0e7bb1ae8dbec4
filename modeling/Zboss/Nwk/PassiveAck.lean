import Zboss.Nwk.BroadcastRecords

/-!
Passive acknowledgements of broadcasts.  A neighbour that is heard relaying a queued broadcast
is marked in the entry's bits, and so is a child the broadcast has been sent to; when the number
of marks is the number of router neighbours, less one for a broadcast of another device, the
entry is dropped before its last retry.  The number says nothing of who the marks are of, and
`nwk_broadcast_transmition` does not even compare it.
-/

namespace Zboss.PassiveAck

open Zboss.DynamicTables Zboss.Run Zboss.SlotTable Zboss.SlotTable.Table
open Zboss.BroadcastRecords (exec_broadcasts broadcasts calcDestination_broadcasts)
open Zboss.FrameHeaders (nwkIsAddressBroadcast)
open Zboss.NeighborTable (NeighborTbl NeighborTblEnt neighborTableSize)

/-! ## The neighbour table -/

/-- `ZB_NWK_BRCST_PASSIVE_ACK_ARRAY_SIZE`: the whole sum is the condition of the choice. -/
def nwkBrcstPassiveAckArraySize : ℕ :=
  if neighborTableSize / 8 + neighborTableSize % 8 ≠ 0 then 1 else 0

/-- Where `ZB_SET_BIT_IN_BIT_VECTOR` puts the mark of a neighbour: octet and bit. -/
def ackBit (n : ℕ) : ℕ × ℕ := (n / 8, n % 8)

/-- The neighbours that `ZB_NWK_GET_PASSIVE_ACK_DEV_NUM` counts. -/
def isRouter (ent : NeighborTblEnt) : Bool :=
  ent.used && (ent.deviceType == .router || ent.deviceType == .coordinator)

/-- `ZB_NWK_GET_PASSIVE_ACK_DEV_NUM`. -/
def getPassiveAckDevNum (t : NeighborTbl) : ℕ :=
  (List.range t.baseNeighborSize).countP fun n => isRouter (t.baseNeighbor n)

/-- A child that a broadcast to `addr` is sent to by unicasts. -/
def isZeChild (ent : NeighborTblEnt) (addr : UInt16) : Bool :=
  ent.used && (ent.relationship == .child || ent.relationship == .unauthenticatedChild) &&
    ent.deviceType == .ed &&
      (addr == nwkBroadcastAllDevices || (addr == nwkBroadcastRxOnWhenIdle && ent.rxOnWhenIdle))

/-- `zb_nwk_neighbor_next_ze_children_i`. -/
def neighborNextZeChildrenI (t : NeighborTbl) (addr : UInt16) (i : ℕ) : Option ℕ :=
  ((List.range t.baseNeighborUsed).drop i).find? fun n => isZeChild (t.baseNeighbor n) addr

/-- An operation with the answers that the neighbour table gives. -/
def answered (t : NeighborTbl) : Op → Op
  | .forward param handle nwhdr hops =>
    .forward param handle nwhdr
      { hops with nextZeChild := neighborNextZeChildrenI t nwhdr.dstAddr 0 }
  | .broadcastTransmition param env =>
    .broadcastTransmition param
      { env with
        nextZeChild := neighborNextZeChildrenI t, passiveAckDevNum := getPassiveAckDevNum t }
  | .mcpsDataIndication frame =>
    .mcpsDataIndication { frame with passiveAckDevNum := getPassiveAckDevNum t }
  | op => op

/-! ## What is watched -/

/-- The network layer, with what its tables do not say: the neighbour a packet came from, and
for an entry of the retransmission table the neighbour its packet came from, those that were
heard relaying it, and how often it was broadcast. -/
structure Watch where
  nwk : Nwk
  origin : BufRef → Option ℕ
  cameFrom : ℕ → Option ℕ
  heard : ℕ → Finset ℕ
  sent : ℕ → ℕ

/-- The entry and the neighbour of a passive acknowledgement. -/
def acknowledges (s : Nwk) : Op → Option (ℕ × ℕ)
  | .mcpsDataIndication frame =>
    if !badFrame frame && nwkIsAddressBroadcast frame.dstAddr &&
        broadcastForUs s.device frame.dstAddr then
      passiveAcker s frame
    else none
  | _ => none

/-- The entry that is sent, with the child it is sent to and the child that is next. -/
def transmits (s : Nwk) : Op → Option (ℕ × Option ℕ × Option ℕ)
  | .broadcastTransmition param env =>
    if param = 0 then none
    else
      match nextTransmission s env with
      | (_, none) => none
      | (brrt, some (i, child)) =>
        let ent := (brrt.slots i).ent
        some (i, child,
          match child with
          | some n => env.nextZeChild ent.dstAddr (n + 1)
          | none => ent.neighborTableIterator)
  | _ => none

/-- Entry `i` has been filled. -/
def fresh (s s' : Nwk) (i : ℕ) : Bool := !(s.brrt.slots i).used && (s'.brrt.slots i).used

/-- The neighbour that is heard sending the broadcast of entry `i`. -/
def relayer (s : Nwk) (op : Op) (i : ℕ) : Option ℕ :=
  match op with
  | .mcpsDataIndication frame =>
    if nwkIsAddressBroadcast frame.dstAddr ∧ (s.brrt.slots i).ent.srcAddr = frame.srcAddr ∧
        (s.brrt.slots i).ent.seqNum = frame.seqNum then frame.acker
    else none
  | _ => none

/-- The neighbours packets came from, after an operation. -/
def originAfter (origin : BufRef → Option ℕ) : Op → BufRef → Option ℕ
  | .mcpsDataIndication frame => Function.update origin frame.buf frame.acker
  | _ => origin

/-- The neighbour the packet came from that an operation queues. -/
def queuedFrom (origin : BufRef → Option ℕ) : Op → Option ℕ
  | .forward param .. => origin param
  | _ => none

/-- The broadcasts made of each entry, after an operation. -/
def sentAfter (s : Nwk) (sent : ℕ → ℕ) (op : Op) : ℕ → ℕ :=
  match transmits s op with
  | some (i, none, _) => Function.update sent i (sent i + 1)
  | _ => sent

/-- One operation among neighbours. -/
def step (spill : Spill) (t : NeighborTbl) (w : Watch) (op : Op) : Watch :=
  let op := answered t op
  let nwk := (exec spill w.nwk op).1
  { nwk
    origin := originAfter w.origin op
    cameFrom i := if fresh w.nwk nwk i then queuedFrom w.origin op else w.cameFrom i
    heard i := if fresh w.nwk nwk i then ∅ else w.heard i ∪ (relayer w.nwk op i).toFinset
    sent i := if fresh w.nwk nwk i then 0 else sentAfter w.nwk w.sent op i }

/-- The network layer after `zb_nwk_init`. -/
def Watch.init (device : Device) : Watch := ⟨Nwk.init device, fun _ => none, fun _ => none,
  fun _ => ∅, fun _ => 0⟩

/-- The broadcast of entry `i` is this device's own. -/
def isOwn (s : Nwk) (i : ℕ) : Bool := (s.brrt.slots i).ent.srcAddr == s.device.networkAddress

/-- The neighbour that the broadcast of entry `i` came from; an own one came from nobody. -/
def sender (w : Watch) (i : ℕ) : Option ℕ := if isOwn w.nwk i then none else w.cameFrom i

/-- Entry `i` is dropped before its last retry, other than with the whole table. -/
structure DroppedEarly (spill : Spill) (t : NeighborTbl) (w : Watch) (op : Op) (i : ℕ) : Prop where
  running : op ≠ .resetConfirm
  queued : (w.nwk.brrt.slots i).used = true
  dropped : ((step spill t w op).nwk.brrt.slots i).used = false
  early : (step spill t w op).sent i < nwkMaxBroadcastRetries

/-- Each neighbour that is marked has its own bit in the entry's array; and an entry is dropped
before its last retry only when every router that listens, other than the one the broadcast
came from, has been heard relaying it. -/
structure Justified (spill : Spill) (t : NeighborTbl) (w : Watch) (op : Op) : Prop where
  inside : ∀ n ∈ marked w.nwk (answered t op), (ackBit n).1 < nwkBrcstPassiveAckArraySize
  own : ∀ n ∈ marked w.nwk (answered t op), ∀ m, ackBit m = ackBit n → m = n
  heard : ∀ i, DroppedEarly spill t w op i → ∀ n < t.baseNeighborSize,
    isRouter (t.baseNeighbor n) = true → (t.baseNeighbor n).rxOnWhenIdle = true →
      sender w i ≠ some n → n ∈ (step spill t w op).heard i

/-! ## The condition -/

/-- The routers among the neighbours. -/
def routers (t : NeighborTbl) : Finset ℕ :=
  (Finset.range t.baseNeighborSize).filter fun n => isRouter (t.baseNeighbor n) = true

/-- The neighbours marked in an octet. -/
def marks (b : UInt8) : Finset ℕ := (Finset.range 8).filter fun n => b.toNat.testBit n = true

/-- When the marks are as many as the routers, or one less for a broadcast of another device,
they are of routers; and that one is the router the broadcast came from. -/
def Fair (t : NeighborTbl) (w : Watch) (i : ℕ) (acks : Finset ℕ) : Prop :=
  if isOwn w.nwk i then acks.card = (routers t).card → acks ⊆ routers t
  else acks.card + 1 = (routers t).card →
    acks ⊆ routers t ∧ ∃ n ∈ routers t, w.cameFrom i = some n ∧ n ∉ acks

/-- When there is one router alone, it is where another's broadcast came from, or is marked. -/
def AloneHeard (t : NeighborTbl) (w : Watch) (i : ℕ) : Prop :=
  isOwn w.nwk i = false → (routers t).card = 1 →
    ∀ n ∈ routers t, w.cameFrom i = some n ∨ n ∈ marks (w.nwk.brrt.slots i).ent.passiveAck

/-- Marks are made of the first eight neighbours alone.  A mark that makes their number right
before the last retry makes it right for the right neighbours; and a relayed broadcast is not
sent the first time, or to the last child, next to one router alone that is neither where it
came from nor marked. -/
def Regular (t : NeighborTbl) (w : Watch) (op : Op) : Prop :=
  (∀ n ∈ marked w.nwk (answered t op), n < 8) ∧
    (∀ ack ∈ acknowledges w.nwk (answered t op), w.sent ack.1 < nwkMaxBroadcastRetries →
      Fair t w ack.1 (insert ack.2 (marks (w.nwk.brrt.slots ack.1).ent.passiveAck))) ∧
    ∀ tx ∈ transmits w.nwk (answered t op), tx.2.2 = none →
      sentAfter w.nwk w.sent (answered t op) tx.1 < nwkMaxBroadcastRetries →
        AloneHeard t w tx.1

instance (t : NeighborTbl) (w : Watch) (i : ℕ) (acks : Finset ℕ) : Decidable (Fair t w i acks) :=
  inferInstanceAs (Decidable (ite _ _ _))

instance (t : NeighborTbl) (w : Watch) (i : ℕ) : Decidable (AloneHeard t w i) :=
  inferInstanceAs (Decidable (_ → _ → _))

instance (t : NeighborTbl) (w : Watch) (op : Op) : Decidable (Regular t w op) :=
  have : Decidable (∀ n ∈ marked w.nwk (answered t op), n < 8) := Option.decidableForallMem _
  inferInstanceAs (Decidable (_ ∧ (∀ ack ∈ acknowledges w.nwk (answered t op), _) ∧
    ∀ tx ∈ transmits w.nwk (answered t op), _))

/-! ## Counting marks -/

theorem ackBit_injective : Function.Injective ackBit := by
  intro m n same
  obtain ⟨octet, bit⟩ := Prod.mk.inj same
  omega

theorem nwkBrcstPassiveAckArraySize_eq : nwkBrcstPassiveAckArraySize = 1 := by decide

theorem countP_range (p : ℕ → Bool) (size : ℕ) :
    (List.range size).countP p = ((Finset.range size).filter fun n => p n = true).card := by
  rw [List.countP_eq_length_filter]
  change _ = (List.filter (fun n => decide (p n = true)) (List.range size)).length
  simp only [Bool.decide_eq_true]

theorem magicBitcount8_eq (b : UInt8) : magicBitcount8 b = (marks b).card := countP_range _ 8

/-- Setting a neighbour's bit marks that neighbour. -/
theorem marks_set (b : UInt8) {n : ℕ} (inside : n < 8) :
    marks (b ||| 1 <<< n.toUInt8) = insert n (marks b) := by
  have bit : (1 <<< n.toUInt8 : UInt8).toNat = 2 ^ n := by
    interval_cases n <;> rfl
  ext m
  simp only [marks, Finset.mem_filter, Finset.mem_range, Finset.mem_insert, UInt8.toNat_or, bit,
    Nat.testBit_or, Nat.testBit_two_pow, Bool.or_eq_true, decide_eq_true_eq]
  constructor
  · rintro ⟨within, set | same⟩
    · exact Or.inr ⟨within, set⟩
    · exact Or.inl same.symm
  · rintro (rfl | ⟨within, set⟩)
    · exact ⟨inside, Or.inr rfl⟩
    · exact ⟨within, Or.inl set⟩

theorem getPassiveAckDevNum_eq (t : NeighborTbl) : getPassiveAckDevNum t = (routers t).card :=
  countP_range _ t.baseNeighborSize

theorem mem_routers {t : NeighborTbl} {n : ℕ} :
    n ∈ routers t ↔ n < t.baseNeighborSize ∧ isRouter (t.baseNeighbor n) = true := by
  simp [routers]

/-- A router is no end device. -/
theorem deviceType_ne_ed {t : NeighborTbl} {n : ℕ} (member : n ∈ routers t) :
    (t.baseNeighbor n).deviceType ≠ .ed := by
  have router := (mem_routers.mp member).2
  intro ed
  simp [isRouter, ed] at router

theorem neighborNextZeChildrenI_spec {t : NeighborTbl} {addr : UInt16} {i n : ℕ}
    (next : neighborNextZeChildrenI t addr i = some n) : (t.baseNeighbor n).deviceType = .ed := by
  have child := List.find?_some next
  simp only [isZeChild, Bool.and_eq_true, beq_iff_eq] at child
  exact child.1.2

/-! ## The entry that is sent -/

/-- The search for an entry changes at most which child is next. -/
structure Sought (env : Surroundings) (slot slot' : Slot NwkBroadcastRetransmit) : Prop where
  used : slot'.used = slot.used
  rest : ∃ iterator, slot'.ent = { slot.ent with neighborTableIterator := iterator }
  next : slot'.ent.neighborTableIterator = slot.ent.neighborTableIterator ∨
    ∃ addr i, slot'.ent.neighborTableIterator = env.nextZeChild addr i

theorem Sought.refl (env : Surroundings) (slot : Slot NwkBroadcastRetransmit) :
    Sought env slot slot := ⟨rfl, ⟨_, rfl⟩, Or.inl rfl⟩

theorem Sought.trans {env : Surroundings} {a b c : Slot NwkBroadcastRetransmit}
    (first : Sought env a b) (second : Sought env b c) : Sought env a c := by
  obtain ⟨_, same⟩ := first.rest
  obtain ⟨iterator, same'⟩ := second.rest
  refine ⟨second.used.trans first.used, ⟨iterator, by rw [same', same]⟩, ?_⟩
  rcases second.next with next | child
  · rw [next]
    exact first.next
  · exact Or.inr child

theorem seekUnicast_sought (env : Surroundings) :
    ∀ (slots : List ℕ) (t : RetransmitTable),
      (∀ j, Sought env (t.slots j) ((seekUnicast env slots t).1.slots j)) ∧
        ∀ i n, (seekUnicast env slots t).2 = some (i, n) →
          ((seekUnicast env slots t).1.slots i).used = true ∧
            ((seekUnicast env slots t).1.slots i).ent.neighborTableIterator = some n := by
  intro slots
  induction slots with
  | nil => exact fun t => ⟨fun j => Sought.refl env _, nofun⟩
  | cons i rest searched =>
    intro t
    rw [seekUnicast]
    split
    · rename_i n used iterator
      split
      · obtain ⟨kept, found⟩ := searched (t.modify i fun ent =>
          { ent with neighborTableIterator := env.nextZeChild ent.dstAddr (n + 1) })
        refine ⟨fun j => Sought.trans ?_ (kept j), found⟩
        by_cases same : j = i
        · subst same
          exact ⟨modify_used _ j, ⟨_, modify_ent _⟩, Or.inr ⟨_, _, by rw [modify_ent]⟩⟩
        · rw [modify_slots_of_ne _ same]
          exact Sought.refl env _
      · refine ⟨fun j => Sought.refl env _, ?_⟩
        rintro j m found
        obtain ⟨rfl, rfl⟩ := Prod.mk.inj (Option.some.inj found)
        exact ⟨used, iterator⟩
    · exact searched t

/-- What is chosen is in use; and unless the counter is where it started, it is an entry that
was broadcast before. -/
structure Chosen (s : Nwk) (env : Surroundings) (brrt : RetransmitTable) (i : ℕ)
    (child : Option ℕ) : Prop where
  used : (brrt.slots i).used = true
  next : ∀ n ∈ child, (brrt.slots i).ent.neighborTableIterator = some n
  counter : searchCounter s env = 0 ∨ child = none ∧ (brrt.slots i).ent.retries ≠ 0

theorem nextTransmission_sought (s : Nwk) (env : Surroundings) :
    (∀ j, Sought env (s.brrt.slots j) ((nextTransmission s env).1.slots j)) ∧
      ∀ i child, (nextTransmission s env).2 = some (i, child) →
        Chosen s env (nextTransmission s env).1 i child := by
  obtain ⟨kept, found⟩ := seekUnicast_sought env (List.range nwkBrrTableSize) s.brrt
  rw [nextTransmission]
  cases first : s.brrt.findEnt fun ent => ent.retries == 0 with
  | some k =>
    refine ⟨fun j => Sought.refl env _, ?_⟩
    rintro i child chosen
    obtain ⟨rfl, rfl⟩ := Prod.mk.inj (Option.some.inj chosen)
    exact ⟨(findEnt_spec first).2.1, fun n member => absurd member (Option.not_mem_none n), Or.inl (by rw [searchCounter, first])⟩
  | none =>
    dsimp only
    rcases sought : seekUnicast env (List.range nwkBrrTableSize) s.brrt with ⟨brrt, _ | ⟨k, m⟩⟩
    · rw [sought] at kept
      refine ⟨kept, ?_⟩
      rintro i child chosen
      obtain ⟨k, due, same⟩ := Option.map_eq_some_iff.mp chosen
      obtain ⟨rfl, rfl⟩ := Prod.mk.inj same
      obtain ⟨inside, used, -⟩ := findEnt_spec due
      refine ⟨used, fun n member => absurd member (Option.not_mem_none n), Or.inr ⟨rfl, ?_⟩⟩
      have before := List.find?_eq_none.mp first k (List.mem_range.mpr inside)
      obtain ⟨iterator, same⟩ := (kept k).rest
      rw [same]
      simpa [← (kept k).used, used] using before
    · rw [sought] at kept found
      refine ⟨kept, ?_⟩
      rintro i child chosen
      obtain ⟨rfl, rfl⟩ := Prod.mk.inj (Option.some.inj chosen)
      obtain ⟨used, iterator⟩ := found _ _ rfl
      refine ⟨used, ?_, Or.inl (by rw [searchCounter, first, sought])⟩
      rintro n ⟨⟩
      exact iterator

/-! ## What one operation does to the retransmission table -/

/-- The slots once an entry has been rewritten, and given back where it is `done`. -/
def settled (brrt : RetransmitTable) (i : ℕ) (done : Bool) : ℕ → Slot NwkBroadcastRetransmit :=
  if done then brrt.mark i false else brrt.slots

/-- What an operation can do to the retransmission table. -/
inductive Stepped (spill : Spill) (s s' : Nwk) (op : Op) : Prop
  | kept (quiet : transmits s op = none) (same : s'.brrt.slots = s.brrt.slots)
  | reset (reset_ : op = .resetConfirm) (free : ∀ i, (s'.brrt.slots i).used = false)
  | queued (i : ℕ) (ent : NwkBroadcastRetransmit) (quiet : transmits s op = none)
      (free : (s.brrt.slots i).used = false)
      (inside : i < nwkBrrTableSize) (retries : ent.retries = 0) (acks : ent.passiveAck = 0)
      (next : ∃ param handle nwhdr hops, op = .forward param handle nwhdr hops ∧
        ent.neighborTableIterator = hops.nextZeChild ∧ ent.buf = param ∧
        ent.srcAddr = nwhdr.srcAddr ∧ ent.dstAddr = nwhdr.dstAddr)
      (slots : s'.brrt.slots = Function.update s.brrt.slots i ⟨true, ent⟩)
  | sought (param : BufRef) (env : Surroundings) (op_ : op = .broadcastTransmition param env)
      (quiet : transmits s op = none) (same : s'.brrt = (nextTransmission s env).1)
      (slots : ∀ j, Sought env (s.brrt.slots j) (s'.brrt.slots j))
  | sent (param : BufRef) (env : Surroundings) (brrt : RetransmitTable) (i : ℕ)
      (child : Option ℕ) (op_ : op = .broadcastTransmition param env) (present : param ≠ 0)
      (next : nextTransmission s env = (brrt, some (i, child)))
      (slots : s'.brrt.slots = settled (noteTransmission spill env brrt i child) i
        (lastTransmission s ((noteTransmission spill env brrt i child).slots i).ent
          (searchCounter s env) env.passiveAckDevNum))
  | acked (frame : RxFrame) (i n : ℕ) (op_ : op = .mcpsDataIndication frame)
      (ack : acknowledges s op = some (i, n))
      (slots : s'.brrt.slots = settled (setPassiveAck spill s.brrt i n) i
        (ackedByAll s ((setPassiveAck spill s.brrt i n).slots i).ent
          (magicBitcount8 ((setPassiveAck spill s.brrt i n).slots i).ent.passiveAck)
          frame.passiveAckDevNum))

theorem sendTo_brrt (s : Nwk) (param : BufRef) (handle : UInt8) (nwhdr : NwkHdr) (hops : Hops)
    (macDst : UInt16) (indirect : Bool) :
    (sendTo s param handle nwhdr hops macDst indirect).1.brrt = s.brrt ∨
      ∃ i ent, (s.brrt.slots i).used = false ∧ i < nwkBrrTableSize ∧ ent.retries = 0 ∧
        ent.passiveAck = 0 ∧ (ent.neighborTableIterator = hops.nextZeChild ∧ ent.buf = param ∧
          ent.srcAddr = nwhdr.srcAddr ∧ ent.dstAddr = nwhdr.dstAddr) ∧
        (sendTo s param handle nwhdr hops macDst indirect).1.brrt.slots =
          Function.update s.brrt.slots i ⟨true, ent⟩ := by
  rw [sendTo]
  dsimp only
  split
  · exact Or.inl rfl
  · split
    · split
      · split
        · rename_i i brrt got
          obtain ⟨inside, free, rfl, -⟩ := getEnt_spec got
          have slots (f : NwkBroadcastRetransmit → NwkBroadcastRetransmit) :
              (Table.modify ⟨s.brrt.mark i true, s.brrt.cnt + 1⟩ i f : RetransmitTable).slots =
                Function.update s.brrt.slots i ⟨true, f (s.brrt.slots i).ent⟩ := by
            simp [Table.modify, mark]
          exact Or.inr ⟨i, _, free, inside, rfl, rfl, ⟨rfl, rfl, rfl, rfl⟩, slots _⟩
        · exact Or.inl rfl
      · exact Or.inl rfl
    · exact Or.inl rfl

theorem stepped_forward (spill : Spill) (s : Nwk) (param : BufRef) (handle : UInt8)
    (nwhdr : NwkHdr) (hops : Hops) :
    Stepped spill s (forward s param handle nwhdr hops).1 (.forward param handle nwhdr hops) := by
  have destination := calcDestination_broadcasts s param handle nwhdr hops
  rw [forward]
  rcases calculated : calcDestination s param handle nwhdr hops with
    ⟨s', ⟨macDst, indirect⟩ | _ | status, calls⟩ <;> rw [calculated] at destination
  · have same : s'.brrt = s.brrt := congrArg (·.2.1) destination
    rcases sendTo_brrt s' param handle nwhdr hops macDst indirect with
      kept | ⟨i, ent, free, inside, retries, acks, next, slots⟩
    · exact .kept rfl (by rw [kept, same])
    · rw [same] at free slots
      exact .queued i ent rfl free inside retries acks ⟨param, handle, nwhdr, hops, rfl, next⟩ slots
  · exact .kept rfl (congrArg (·.2.1.slots) destination)
  · exact .kept rfl (congrArg (·.2.1.slots) destination)

theorem stepped_transmition (spill : Spill) (s : Nwk) (param : BufRef) (env : Surroundings) :
    Stepped spill s (broadcastTransmition spill s param env).1
      (.broadcastTransmition param env) := by
  have kept := (nextTransmission_sought s env).1
  rw [broadcastTransmition]
  rcases next : nextTransmission s env with ⟨brrt, _ | ⟨i, child⟩⟩
  · rw [next] at kept
    exact .sought param env rfl (by simp [transmits, next]) (by rw [next]) kept
  · rw [next] at kept
    dsimp only
    split
    · rename_i absent
      exact .sought param env rfl (by simp [transmits, absent]) (by rw [next]) kept
    · rename_i present
      refine .sent param env brrt i child rfl present next ?_
      rw [transmit]
      dsimp only
      split
      · rename_i last
        rw [last]
        rfl
      · rename_i more
        rw [Bool.not_eq_true] at more
        rw [more]
        rfl

theorem deliver_brrt (s : Nwk) (frame : RxFrame) : (deliver s frame).1.brrt = s.brrt := by
  obtain ⟨waitAlloc, after⟩ := (deliver_writes s frame).1
  rw [after]

theorem receiveBroadcast_brrt (s : Nwk) (frame : RxFrame) :
    (receiveBroadcast s frame).1.brrt = s.brrt := by
  obtain ⟨btt, waitAlloc, after⟩ := (receiveBroadcast_writes s frame).1
  rw [after]

theorem stepped_indication (spill : Spill) (s : Nwk) (frame : RxFrame) :
    Stepped spill s (mcpsDataIndication spill s frame).1 (.mcpsDataIndication frame) := by
  rw [mcpsDataIndication]
  split
  · exact .kept rfl rfl
  · rename_i good
    split
    · rename_i broadcast
      split
      · rename_i forUs
        dsimp only
        rw [notePassiveAck]
        rcases acker : passiveAcker s frame with _ | ⟨i, n⟩
        · exact .kept rfl (congrArg Table.slots (receiveBroadcast_brrt s frame))
        · refine .acked frame i n rfl (by simp [acknowledges, good, broadcast, forUs, acker]) ?_
          rw [receiveBroadcast_brrt]
          simp only [passiveAcked]
          split
          · rename_i all
            rw [all]
            rfl
          · rename_i some_
            rw [Bool.not_eq_true] at some_
            rw [some_]
            rfl
      · exact .kept rfl rfl
    · exact .kept rfl (congrArg Table.slots (deliver_brrt s frame))

theorem stepped (spill : Spill) (s : Nwk) (op : Op) : Stepped spill s (exec spill s op).1 op := by
  have route (side : RouteSide op) (quiet : transmits s op = none) :
      Stepped spill s (exec spill s op).1 op :=
    .kept quiet (congrArg (·.2.1.slots) (exec_broadcasts spill s side))
  cases op with
  | forward param handle nwhdr hops => exact stepped_forward spill s param handle nwhdr hops
  | broadcastTransmition param env => exact stepped_transmition spill s param env
  | mcpsDataIndication frame => exact stepped_indication spill s frame
  | newBufferAllocated param =>
    refine .kept rfl ?_
    change (newBufferAllocated s param).1.brrt.slots = s.brrt.slots
    rw [newBufferAllocated]
    split <;> rfl
  | btrExpiry =>
    refine .kept rfl ?_
    change (btrExpiry s).brrt.slots = s.brrt.slots
    rw [btrExpiry]
    split <;> rfl
  | leave => exact .kept rfl rfl
  | resetConfirm => exact .reset rfl fun _ => rfl
  | configure | nldeDataRequest | mcpsDataConfirm | rreq | rrep | initiateRouteDiscovery
  | nlmeRouteDiscoveryRequest | expiryRouteDisc | expiryPending | resetRequest =>
    exact route trivial rfl

/-! ## The marks of a queued broadcast -/

/-- The answers are those of the neighbour table. -/
theorem answered_indication {t : NeighborTbl} {op : Op} {frame : RxFrame}
    (given : answered t op = .mcpsDataIndication frame) :
    frame.passiveAckDevNum = (routers t).card := by
  rw [← getPassiveAckDevNum_eq]
  cases op <;> cases given
  rfl

theorem answered_transmition {t : NeighborTbl} {op : Op} {param : BufRef} {env : Surroundings}
    (given : answered t op = .broadcastTransmition param env) :
    env.nextZeChild = neighborNextZeChildrenI t ∧ env.passiveAckDevNum = (routers t).card := by
  rw [← getPassiveAckDevNum_eq]
  cases op <;> cases given
  exact ⟨rfl, rfl⟩

theorem answered_forward {t : NeighborTbl} {op : Op} {param : BufRef} {handle : UInt8}
    {nwhdr : NwkHdr} {hops : Hops} (given : answered t op = .forward param handle nwhdr hops) :
    hops.nextZeChild = neighborNextZeChildrenI t nwhdr.dstAddr 0 := by
  cases op <;> cases given
  rfl

/-- What is known of a queued entry: its marks are of neighbours that were heard or of end
devices, its unicasts go to end devices, and its retries are counted. -/
structure Entry (t : NeighborTbl) (ent : NwkBroadcastRetransmit) (heard : Finset ℕ) (sent : ℕ) :
    Prop where
  acks : ∀ n ∈ marks ent.passiveAck, n ∈ heard ∨ (t.baseNeighbor n).deviceType = .ed
  next : ∀ n ∈ ent.neighborTableIterator, (t.baseNeighbor n).deviceType = .ed
  retries : ent.retries = sent % 64

variable {spill : Spill} {t : NeighborTbl} {w : Watch} {op : Op} {i : ℕ}
  {ent : NwkBroadcastRetransmit} {heard more : Finset ℕ} {sent : ℕ}

theorem Entry.mono (entry : Entry t ent heard sent) (more_ : heard ⊆ more) :
    Entry t ent more sent :=
  { entry with acks := fun n member => (entry.acks n member).imp_left fun old => more_ old }

theorem Entry.router_heard (entry : Entry t ent heard sent) {n : ℕ}
    (marked_ : n ∈ marks ent.passiveAck) (router : n ∈ routers t) : n ∈ heard :=
  (entry.acks n marked_).resolve_right (deviceType_ne_ed router)

theorem Entry.sought {env : Surroundings} {slot slot' : Slot NwkBroadcastRetransmit}
    (entry : Entry t slot.ent heard sent) (children : env.nextZeChild = neighborNextZeChildrenI t)
    (kept : Sought env slot slot') : Entry t slot'.ent heard sent := by
  obtain ⟨iterator, same⟩ := kept.rest
  refine ⟨by rw [same]; exact entry.acks, ?_, by rw [same]; exact entry.retries⟩
  rintro n next
  rcases kept.next with old | ⟨addr, k, child⟩
  · rw [old] at next
    exact entry.next n next
  · rw [child, children] at next
    exact neighborNextZeChildrenI_spec next

/-- An entry once it has been sent to a child, or broadcast. -/
def noted (env : Surroundings) (ent : NwkBroadcastRetransmit) :
    Option ℕ → NwkBroadcastRetransmit
  | some n =>
    { ent with
      passiveAck := ent.passiveAck ||| 1 <<< n.toUInt8
      neighborTableIterator := env.nextZeChild ent.dstAddr (n + 1) }
  | none =>
    { ent with nextRetransmit := env.now + nwkRreqRetryInterval, retries := (ent.retries + 1) % 64 }

theorem noteTransmission_slots (spill : Spill) (env : Surroundings) (brrt : RetransmitTable)
    (i : ℕ) {child : Option ℕ} (inside : ∀ n ∈ child, n < 8) :
    (noteTransmission spill env brrt i child).slots =
      Function.update brrt.slots i ⟨(brrt.slots i).used, noted env (brrt.slots i).ent child⟩ := by
  cases child with
  | none => rfl
  | some n =>
    rw [noteTransmission, setPassiveAck_inside spill brrt i (inside n rfl)]
    simp [Table.modify, noted]

theorem Entry.noted {env : Surroundings} (entry : Entry t ent heard sent)
    (children : env.nextZeChild = neighborNextZeChildrenI t) {child : Option ℕ}
    (inside : ∀ n ∈ child, n < 8) (next : ∀ n ∈ child, ent.neighborTableIterator = some n) :
    Entry t (noted env ent child) heard (if child.isNone then sent + 1 else sent) := by
  cases child with
  | none =>
    refine { entry with retries := ?_ }
    simp [PassiveAck.noted, entry.retries]
  | some n =>
    refine ⟨?_, ?_, entry.retries⟩
    · rw [PassiveAck.noted, marks_set _ (inside n rfl)]
      rintro m member
      rcases Finset.mem_insert.mp member with rfl | old
      · exact Or.inr (entry.next m (next m rfl))
      · exact entry.acks m old
    · rintro m child
      rw [PassiveAck.noted, children] at child
      exact neighborNextZeChildrenI_spec child

/-- As many marks as needed, of the right neighbours, are of every router but the sender. -/
theorem Fair.all {acks : Finset ℕ} (fair : Fair t w i acks)
    (all : (if isOwn w.nwk i then acks.card = (routers t).card
      else acks.card + 1 = (routers t).card)) {n : ℕ} (router : n ∈ routers t)
    (other : sender w i ≠ some n) : n ∈ acks := by
  rw [Fair] at fair
  split at all
  · rename_i own
    rw [if_pos own] at fair
    rw [Finset.eq_of_subset_of_card_le (fair all) all.ge]
    exact router
  · rename_i relayed
    rw [if_neg relayed] at fair
    obtain ⟨inside, from_, member, came, apart⟩ := fair all
    have every : acks = (routers t).erase from_ := by
      apply Finset.eq_of_subset_of_card_le (Finset.subset_erase.mpr ⟨inside, apart⟩)
      rw [Finset.card_erase_of_mem member]
      omega
    rw [every, Finset.mem_erase]
    refine ⟨?_, router⟩
    rintro rfl
    exact other (by rw [sender, if_neg relayed, came])

/-! ## Every run -/

/-- The invariant: every queued entry is as it should be. -/
def Sound (t : NeighborTbl) (w : Watch) : Prop :=
  ∀ i, (w.nwk.brrt.slots i).used = true →
    Entry t (w.nwk.brrt.slots i).ent (w.heard i) (w.sent i)

theorem Sound.init (t : NeighborTbl) (device : Device) : Sound t (Watch.init device) := by
  rintro i ⟨⟩

/-- For an entry that was queued before, no history is forgotten. -/
theorem step_queued (queued : (w.nwk.brrt.slots i).used = true) :
    (step spill t w op).heard i = w.heard i ∪ (relayer w.nwk (answered t op) i).toFinset ∧
      (step spill t w op).sent i = sentAfter w.nwk w.sent (answered t op) i := by
  simp [step, fresh, queued]

theorem step_heard (queued : (w.nwk.brrt.slots i).used = true) :
    w.heard i ⊆ (step spill t w op).heard i := by
  rw [(step_queued queued).1]
  exact Finset.subset_union_left

theorem sentAfter_quiet {s : Nwk} {sent : ℕ → ℕ} (quiet : transmits s op = none) :
    sentAfter s sent op = sent := by
  rw [sentAfter, quiet]

theorem ackedByAll_iff {s : Nwk} {acks num : ℕ} :
    ackedByAll s ent acks num = true ↔
      if ent.srcAddr == s.device.networkAddress then acks = num else acks + 1 = num := by
  rw [ackedByAll]
  by_cases own : ent.srcAddr = s.device.networkAddress <;> simp [own]

/-- What becomes of an entry: it stays queued and as it should be, or it is dropped for the
right reason. -/
inductive Fate (spill : Spill) (t : NeighborTbl) (w : Watch) (op : Op) (i : ℕ) : Prop
  | stays (used : ((step spill t w op).nwk.brrt.slots i).used = true)
      (entry : Entry t ((step spill t w op).nwk.brrt.slots i).ent ((step spill t w op).heard i)
        ((step spill t w op).sent i))
  | dropped (unused : ((step spill t w op).nwk.brrt.slots i).used = false)
      (all : (step spill t w op).sent i < nwkMaxBroadcastRetries →
        ∀ n ∈ routers t, sender w i ≠ some n → n ∈ (step spill t w op).heard i)

/-- A neighbour whose acknowledgement is marked has been heard. -/
theorem acknowledges_spec {s : Nwk} {k n : ℕ} (ack : acknowledges s op = some (k, n)) :
    marked s op = some n ∧ relayer s op k = some n := by
  cases op with
  | mcpsDataIndication frame =>
    rw [acknowledges] at ack
    split at ack
    · rename_i good
      refine ⟨by simp [marked, good, ack], ?_⟩
      simp only [Bool.and_eq_true] at good
      rw [passiveAcker] at ack
      split at ack
      · cases ack
      · split at ack
        · rename_i found heard
          obtain ⟨rfl, rfl⟩ := Prod.mk.inj (Option.some.inj ack)
          obtain ⟨-, -, same⟩ := findEnt_spec found
          simp only [Bool.and_eq_true, beq_iff_eq] at same
          simp [relayer, good.1.2, same, heard]
        · cases ack
    · cases ack
  | _ => cases ack

theorem settled_of_ne (brrt : RetransmitTable) {k : ℕ} (done : Bool) (other : i ≠ k) :
    settled brrt k done i = brrt.slots i := by
  rw [settled]
  split <;> simp [mark, other]

theorem Sound.fate_acked (sound : Sound t w) (regular : Regular t w op)
    (queued : (w.nwk.brrt.slots i).used = true) {frame : RxFrame} {k n : ℕ}
    (op_ : answered t op = .mcpsDataIndication frame)
    (ack : acknowledges w.nwk (answered t op) = some (k, n))
    (slots : (step spill t w op).nwk.brrt.slots = settled (setPassiveAck spill w.nwk.brrt k n) k
      (ackedByAll w.nwk ((setPassiveAck spill w.nwk.brrt k n).slots k).ent
        (magicBitcount8 ((setPassiveAck spill w.nwk.brrt k n).slots k).ent.passiveAck)
        frame.passiveAckDevNum)) : Fate spill t w op i := by
  obtain ⟨inside, fair, -⟩ := regular
  obtain ⟨marked_, relayed⟩ := acknowledges_spec ack
  have first : n < 8 := inside n marked_
  have entry : Entry t (w.nwk.brrt.slots i).ent ((step spill t w op).heard i) (w.sent i) :=
    (sound i queued).mono (step_heard queued)
  have sent : (step spill t w op).sent i = w.sent i := by
    rw [(step_queued queued).2, op_, sentAfter_quiet rfl]
  rw [setPassiveAck_inside spill _ k first] at slots
  by_cases same : i = k
  · subst same
    have heard : n ∈ (step spill t w op).heard i := by
      rw [(step_queued queued).1, relayed]
      simp
    have acks : Entry t
        { (w.nwk.brrt.slots i).ent with
          passiveAck := (w.nwk.brrt.slots i).ent.passiveAck ||| 1 <<< n.toUInt8 }
        ((step spill t w op).heard i) ((step spill t w op).sent i) := by
      rw [sent]
      refine { entry with acks := ?_ }
      rw [marks_set _ first]
      rintro m member
      rcases Finset.mem_insert.mp member with rfl | old
      · exact Or.inl heard
      · exact entry.acks m old
    rw [settled] at slots
    split at slots
    · rename_i all
      refine .dropped (by rw [slots]; simp) ?_
      rintro early m router other
      rw [ackedByAll_iff, modify_ent, magicBitcount8_eq, marks_set _ first,
        answered_indication op_] at all
      rw [sent] at early
      have member := (fair (i, n) ack early).all all router other
      rw [← marks_set _ first] at member
      exact acks.router_heard member router
    · refine .stays (by rw [slots]; simpa using queued) ?_
      rw [slots, modify_ent]
      exact acks
  · have apart : (step spill t w op).nwk.brrt.slots i = w.nwk.brrt.slots i := by
      rw [slots, settled_of_ne _ _ same, modify_slots_of_ne _ same]
    refine .stays (by rw [apart]; exact queued) ?_
    rw [apart, sent]
    exact entry

theorem transmits_sent {s : Nwk} {param : BufRef} {env : Surroundings} {brrt : RetransmitTable}
    {child : Option ℕ} (present : param ≠ 0)
    (next : nextTransmission s env = (brrt, some (i, child))) :
    transmits s (.broadcastTransmition param env) =
      some (i, child, (noted env (brrt.slots i).ent child).neighborTableIterator) := by
  rw [transmits, if_neg present, next]
  cases child <;> rfl

theorem sentAfter_sent {s : Nwk} {sent : ℕ → ℕ} {child child' : Option ℕ}
    (tx : transmits s op = some (i, child, child')) :
    sentAfter s sent op i = if child.isNone then sent i + 1 else sent i := by
  rw [sentAfter, tx]
  cases child <;> simp

theorem noted_srcAddr (env : Surroundings) (ent : NwkBroadcastRetransmit) (child : Option ℕ) :
    (noted env ent child).srcAddr = ent.srcAddr := by
  cases child <;> rfl

theorem Sought.srcAddr {env : Surroundings} {slot slot' : Slot NwkBroadcastRetransmit}
    (kept : Sought env slot slot') : slot'.ent.srcAddr = slot.ent.srcAddr := by
  obtain ⟨_, same⟩ := kept.rest
  rw [same]

/-- The last transmission before the last retry is one of a broadcast that is not counted as
heard by anybody: the counter is zero. -/
theorem lastTransmission_early {s : Nwk} {env : Surroundings} {brrt : RetransmitTable}
    {child : Option ℕ} {num : ℕ} (chosen : Chosen s env brrt i child)
    (counted : (brrt.slots i).ent.retries = sent % 64)
    (after : Entry t ent heard (if child.isNone then sent + 1 else sent))
    (early : (if child.isNone then sent + 1 else sent) < nwkMaxBroadcastRetries)
    (last : lastTransmission s ent (searchCounter s env) num = true) :
    ent.neighborTableIterator = none ∧ ackedByAll s ent 0 num = true := by
  rw [lastTransmission, Bool.and_eq_true, Bool.or_eq_true, decide_eq_true_eq,
    Option.isNone_iff_eq_none] at last
  obtain ⟨childless, retried | all⟩ := last
  · rw [after.retries, Nat.mod_eq_of_lt (early.trans (by decide))] at retried
    omega
  · rcases chosen.counter with zero | ⟨rfl, again⟩
    · rw [zero] at all
      exact ⟨childless, all⟩
    · simp only [nwkMaxBroadcastRetries, Option.isNone_none, if_true] at early
      omega

theorem Sound.fate_sent (sound : Sound t w) (regular : Regular t w op)
    (queued : (w.nwk.brrt.slots i).used = true) {param : BufRef} {env : Surroundings}
    {brrt : RetransmitTable} {k : ℕ} {child : Option ℕ}
    (op_ : answered t op = .broadcastTransmition param env) (present : param ≠ 0)
    (next : nextTransmission w.nwk env = (brrt, some (k, child)))
    (slots : (step spill t w op).nwk.brrt.slots =
      settled (noteTransmission spill env brrt k child) k
        (lastTransmission w.nwk ((noteTransmission spill env brrt k child).slots k).ent
          (searchCounter w.nwk env) env.passiveAckDevNum)) : Fate spill t w op i := by
  obtain ⟨inside, -, alone⟩ := regular
  obtain ⟨children, num⟩ := answered_transmition op_
  obtain ⟨kept, chosen⟩ := nextTransmission_sought w.nwk env
  rw [next] at kept chosen
  have chosen := chosen k child rfl
  have first : ∀ n ∈ child, n < 8 := by
    rintro n ⟨⟩
    exact inside n (by simp [op_, marked, present, next])
  have entry : Entry t (brrt.slots i).ent ((step spill t w op).heard i) (w.sent i) :=
    ((sound i queued).mono (step_heard queued)).sought children (kept i)
  have used : (brrt.slots i).used = true := by
    rw [(kept i).used]
    exact queued
  have note := noteTransmission_slots spill env brrt k first
  have tx : transmits w.nwk (answered t op) = _ := op_ ▸ transmits_sent present next
  by_cases same : i = k
  · subst same
    have sent : (step spill t w op).sent i = _ :=
      (step_queued queued).2.trans (sentAfter_sent tx)
    have after := entry.noted children first chosen.next
    rw [note, Function.update_self] at slots
    rw [settled] at slots
    split at slots
    · rename_i last
      refine .dropped (by rw [slots]; simp) ?_
      rintro early n router other
      rw [sent] at early
      obtain ⟨childless, all⟩ := lastTransmission_early chosen entry.retries after early last
      rw [ackedByAll_iff, num, noted_srcAddr, (kept i).srcAddr] at all
      split at all
      · exact absurd router (Finset.card_eq_zero.mp all.symm ▸ Finset.notMem_empty n)
      · rename_i relayed
        rw [Bool.not_eq_true] at relayed
        rw [← sentAfter_sent tx] at early
        rcases alone _ tx childless early relayed all.symm n router with came | marked_
        · exact absurd came (by simpa [sender, isOwn, relayed] using other)
        · exact step_heard queued ((sound i queued).router_heard marked_ router)
    · refine .stays (by rw [slots, note]; simpa using used) ?_
      rw [slots, note, Function.update_self, sent]
      exact after
  · have apart : (step spill t w op).nwk.brrt.slots i = brrt.slots i := by
      rw [slots, settled_of_ne _ _ same, note, Function.update_of_ne same]
    refine .stays (by rw [apart]; exact used) ?_
    have sent : (step spill t w op).sent i = w.sent i := by
      rw [(step_queued queued).2, sentAfter, tx]
      cases child <;> simp [same]
    rw [apart, sent]
    exact entry

/-- **One step**: what becomes of the entries that are queued. -/
theorem Sound.fate (sound : Sound t w) (regular : Regular t w op)
    (queued : (w.nwk.brrt.slots i).used = true) (running : op ≠ .resetConfirm) :
    Fate spill t w op i := by
  have entry : Entry t (w.nwk.brrt.slots i).ent ((step spill t w op).heard i) (w.sent i) :=
    (sound i queued).mono (step_heard queued)
  have sent (quiet : transmits w.nwk (answered t op) = none) :
      (step spill t w op).sent i = w.sent i := by
    rw [(step_queued queued).2, sentAfter_quiet quiet]
  cases stepped spill w.nwk (answered t op) with
  | kept quiet same =>
    have same : (step spill t w op).nwk.brrt.slots i = w.nwk.brrt.slots i := congrFun same i
    refine .stays (by rw [same]; exact queued) ?_
    rw [same, sent quiet]
    exact entry
  | reset reset_ free =>
    exact absurd (by cases op <;> first | rfl | cases reset_) running
  | queued k ent quiet free _ retries acks next slots =>
    have other : i ≠ k := by
      rintro rfl
      rw [queued] at free
      cases free
    have same : (step spill t w op).nwk.brrt.slots i = w.nwk.brrt.slots i :=
      (congrFun slots i).trans (Function.update_of_ne other _ _)
    refine .stays (by rw [same]; exact queued) ?_
    rw [same, sent quiet]
    exact entry
  | sought param env op_ quiet _ slots =>
    have kept : Sought env (w.nwk.brrt.slots i) ((step spill t w op).nwk.brrt.slots i) := slots i
    refine .stays (by rw [kept.used]; exact queued) ?_
    rw [sent quiet]
    exact entry.sought (answered_transmition op_).1 kept
  | sent param env brrt k child op_ present next slots =>
    exact sound.fate_sent regular queued op_ present next slots
  | acked frame k n op_ ack slots => exact sound.fate_acked regular queued op_ ack slots

/-- Settling an entry fills no slot. -/
theorem settled_used {brrt : RetransmitTable} {k : ℕ} {done : Bool}
    (used : (settled brrt k done i).used = true) : (brrt.slots i).used = true := by
  rw [settled] at used
  split at used
  · rw [mark_used] at used
    split at used
    · cases used
    · exact used
  · exact used

/-- A slot that is filled is filled by `zb_nwk_forward`. -/
theorem queued_of_filled (regular : Regular t w op) (free : (w.nwk.brrt.slots i).used = false)
    (used : ((step spill t w op).nwk.brrt.slots i).used = true) :
    let ent := ((step spill t w op).nwk.brrt.slots i).ent
    ent.retries = 0 ∧ ent.passiveAck = 0 ∧ ∃ param handle nwhdr hops,
      answered t op = .forward param handle nwhdr hops ∧
        ent.neighborTableIterator = hops.nextZeChild := by
  have unfilled : (w.nwk.brrt.slots i).used ≠ true := by simp [free]
  cases stepped spill w.nwk (answered t op) with
  | kept _ same => exact absurd ((congrArg Slot.used (congrFun same i)).symm.trans used) unfilled
  | reset _ free =>
    have unused : ((step spill t w op).nwk.brrt.slots i).used = false := free i
    rw [unused] at used
    cases used
  | queued k ent _ _ _ retries acks next slots =>
    obtain ⟨param, handle, nwhdr, hops, op_, next, -⟩ := next
    have same : (step spill t w op).nwk.brrt.slots i = _ := congrFun slots i
    by_cases at_ : i = k
    · subst at_
      rw [same, Function.update_self]
      exact ⟨retries, acks, param, handle, nwhdr, hops, op_, next⟩
    · rw [same, Function.update_of_ne at_] at used
      exact absurd used unfilled
  | sought _ _ _ _ _ slots => exact absurd ((slots i).used.symm.trans used) unfilled
  | sent param env brrt k child op_ present next slots =>
    have kept := (nextTransmission_sought w.nwk env).1 i
    have first : ∀ n ∈ child, n < 8 := by
      rintro n ⟨⟩
      exact regular.1 n (by simp [op_, marked, present, next])
    rw [next] at kept
    have noted_ := settled_used ((congrArg Slot.used (congrFun slots i)).symm.trans used)
    rw [noteTransmission_slots spill env brrt k first] at noted_
    by_cases at_ : i = k
    · subst at_
      rw [Function.update_self] at noted_
      exact absurd (kept.used.symm.trans noted_) unfilled
    · rw [Function.update_of_ne at_] at noted_
      exact absurd (kept.used.symm.trans noted_) unfilled
  | acked frame k n op_ ack slots =>
    have marked_ := settled_used ((congrArg Slot.used (congrFun slots i)).symm.trans used)
    rw [setPassiveAck_inside spill _ k (regular.1 n (acknowledges_spec ack).1), modify_used]
      at marked_
    exact absurd marked_ unfilled

theorem Entry.filled (regular : Regular t w op)
    (free : (w.nwk.brrt.slots i).used = false)
    (used : ((step spill t w op).nwk.brrt.slots i).used = true) :
    Entry t ((step spill t w op).nwk.brrt.slots i).ent ((step spill t w op).heard i)
      ((step spill t w op).sent i) := by
  have fresh_ : fresh w.nwk (step spill t w op).nwk i = true := by simp [fresh, free, used]
  have heard : (step spill t w op).heard i = ∅ := if_pos fresh_
  have sent : (step spill t w op).sent i = 0 := if_pos fresh_
  obtain ⟨retries, acks, param, handle, nwhdr, hops, op_, next⟩ :=
    queued_of_filled regular free used
  rw [heard, sent]
  refine ⟨?_, ?_, retries⟩
  · rw [acks, show marks 0 = ∅ from rfl]
    exact nofun
  rintro n child
  rw [next, answered_forward op_] at child
  exact neighborNextZeChildrenI_spec child

theorem Sound.step (sound : Sound t w) (regular : Regular t w op) :
    Sound t (step spill t w op) := by
  rintro i used
  cases queued : (w.nwk.brrt.slots i).used with
  | false => exact Entry.filled regular queued used
  | true =>
    by_cases reset_ : op = .resetConfirm
    · subst reset_
      cases used
    · have fate : Fate spill t w op i := sound.fate regular queued reset_
      cases fate with
      | stays _ entry => exact entry
      | dropped unused _ =>
        rw [used] at unused
        cases unused

theorem Sound.justified (sound : Sound t w) (regular : Regular t w op) :
    Justified spill t w op where
  inside n member := by
    rw [nwkBrcstPassiveAckArraySize_eq]
    exact Nat.div_lt_of_lt_mul (regular.1 n member)
  own n _ m same := ackBit_injective same
  heard := by
    rintro i ⟨running, queued, unused, early⟩ n inside router _ other
    have fate : Fate spill t w op i := sound.fate regular queued running
    cases fate with
    | stays used _ =>
      rw [unused] at used
      cases used
    | dropped _ all => exact all early n (mem_routers.mpr ⟨inside, router⟩) other

/-- **A broadcast is sent again until it has been heard**: along every run in which marks are of
the first eight neighbours, and counted for the routers they stand for, every mark has its own
bit, and an entry is dropped before its last retry only when every router but the sender has
relayed it. -/
theorem dropped_when_heard (spill : Spill) (neighbors : NeighborTbl) (device : Device)
    (ops : List Op)
    (regular : Along (step spill neighbors) (Regular neighbors) (Watch.init device) ops) :
    Along (step spill neighbors) (Justified spill neighbors) (Watch.init device) ops :=
  along_of_invariant (fun _ _ sound regular => Sound.step sound regular)
    (fun _ _ sound regular => Sound.justified sound regular) (Watch.init device) ops
    (Sound.init neighbors device) regular

/-- Two routers nearby. -/
def twoRouters : NeighborTbl :=
  { NeighborTbl.init with
    baseNeighbor := fun n => { NeighborTblEnt.zero with
      used := n < 2, deviceType := .router, rxOnWhenIdle := true }
    baseNeighborUsed := 2 }

/-- A copy of broadcast 7 of a device, heard from a neighbour. -/
def copyFrom (buf : BufRef) (srcAddr : UInt16) (n : ℕ) : Op :=
  .mcpsDataIndication ⟨buf, 5, 0, 0xFFFF, srcAddr, 7, 0, false, true, some n, 0⟩

/-- The broadcasts that are queued are sent. -/
def transmitted (param : BufRef) : Op :=
  .broadcastTransmition param ⟨0, fun _ => 0, fun _ => 0, fun _ _ => none, 0⟩

/-- Both routers are heard relaying a broadcast of this device. -/
def bothHeard : List Op :=
  [sendBroadcast 1 7, transmitted 2, copyFrom 3 0x1234 0, copyFrom 4 0x1234 1]

theorem dropped_when_heard_both :
    Along (step (fun t _ _ => t) twoRouters) (Justified (fun t _ _ => t) twoRouters)
      (Watch.init router) bothHeard :=
  dropped_when_heard (fun t _ _ => t) twoRouters router bothHeard (by decide +kernel)

/-- A broadcast comes from one router, is relayed, and comes from that router again. -/
def senderTwice : List Op :=
  [copyFrom 1 0x5678 0, .forward 1 0 ⟨0xFFFF, 0x5678, 7, false⟩
      ⟨none, 0, none, fun _ => false, none⟩, transmitted 2, copyFrom 3 0x5678 0]

/-- It is dropped after one transmission, and the other router has not been heard. -/
theorem dropped_unheard :
    ¬ Along (step (fun t _ _ => t) twoRouters) (Justified (fun t _ _ => t) twoRouters)
      (Watch.init router) senderTwice := by
  rintro ⟨_, _, _, fourth, _⟩
  have heard := fourth.heard 0 ⟨nofun, by decide +kernel, by decide +kernel, by decide +kernel⟩ 1
    (by decide) (by decide) (by decide) (by decide +kernel)
  exact absurd heard (by decide +kernel)

end Zboss.PassiveAck
