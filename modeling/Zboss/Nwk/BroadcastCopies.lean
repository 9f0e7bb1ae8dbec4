import Zboss.Nwk.PassiveAck

/-!
Copies of broadcasts for sleeping children.  A router broadcasts a queued packet, sends a copy of
its own to each child that may sleep, and broadcasts it again; the child that is next is kept in
the entry, and moved on where a copy is sent and where the child is the originator.  The entry is
given up with the last transmission, or when enough neighbours have been heard relaying the
broadcast, whoever is still to be sent a copy.
-/

namespace Zboss.BroadcastCopies

open Zboss.DynamicTables Zboss.Run Zboss.SlotTable Zboss.SlotTable.Table
open Zboss.NeighborTable (NeighborTbl NeighborTblEnt)
open Zboss.PassiveAck (answered neighborNextZeChildrenI isZeChild transmits acknowledges fresh
  sentAfter noted settled Stepped stepped getPassiveAckDevNum)

/-! ## The system -/

/-- The neighbour table, and the short addresses of the address table by reference. -/
structure Around where
  neighbors : NeighborTbl
  shortAddr : ℕ → UInt16

/-- The short address of a neighbour. -/
def Around.childAddr (a : Around) (n : ℕ) : UInt16 :=
  a.shortAddr (a.neighbors.baseNeighbor n).addrRef

/-- The children a broadcast to all devices is copied for: its end devices, those with their
receiver off when idle among them. -/
def Around.Child (a : Around) (n : ℕ) : Prop :=
  n < a.neighbors.baseNeighborUsed ∧
    isZeChild (a.neighbors.baseNeighbor n) nwkBroadcastAllDevices = true

instance (a : Around) (n : ℕ) : Decidable (a.Child n) := inferInstanceAs (Decidable (_ ∧ _))

/-- The network layer, with the originators of the packets in the buffers, and for each entry of
the retransmission table how often it was broadcast and copied for each child. -/
structure World where
  nwk : Nwk
  around : Around
  src : BufRef → UInt16
  sent : ℕ → ℕ
  copies : ℕ → ℕ → ℕ

/-- An operation of the network layer, or other neighbours. -/
inductive Event
  | nwk (op : Op)
  | neighbors (around : Around)

/-- An operation with the answers of the neighbour table, the address table and the buffers. -/
def told (w : World) (op : Op) : Op :=
  match answered w.around.neighbors op with
  | .broadcastTransmition param env =>
    .broadcastTransmition param { env with bufSrc := w.src, childAddr := w.around.childAddr }
  | op => op

/-- The originators after an operation. -/
def srcAfter (src : BufRef → UInt16) : Op → BufRef → UInt16
  | .forward param _ nwhdr _ => Function.update src param nwhdr.srcAddr
  | _ => src

/-- The copies made of each entry, after an operation. -/
def copiesAfter (s : Nwk) (copies : ℕ → ℕ → ℕ) (op : Op) : ℕ → ℕ → ℕ :=
  match transmits s op with
  | some (i, some n, _) =>
    Function.update copies i (Function.update (copies i) n (copies i n + 1))
  | _ => copies

/-- One operation. -/
def execute (spill : Spill) (w : World) (op : Op) : World :=
  let op := told w op
  let nwk := (exec spill w.nwk op).1
  { w with
    nwk
    src := srcAfter w.src op
    sent := fun i => if fresh w.nwk nwk i then 0 else sentAfter w.nwk w.sent op i
    copies := fun i => if fresh w.nwk nwk i then fun _ => 0 else copiesAfter w.nwk w.copies op i }

def step (spill : Spill) (w : World) : Event → World
  | .nwk op => execute spill w op
  | .neighbors around => { w with around }

/-- The network layer after `zb_nwk_init`. -/
def World.init (device : Device) (around : Around) : World :=
  ⟨Nwk.init device, around, fun _ => 0, fun _ => 0, fun _ _ => 0⟩

/-- Entry `i` is queued for a broadcast to all devices. -/
def Queued (s : Nwk) (i : ℕ) : Prop :=
  (s.brrt.slots i).used = true ∧ (s.brrt.slots i).ent.dstAddr = nwkBroadcastAllDevices

instance (s : Nwk) (i : ℕ) : Decidable (Queued s i) := inferInstanceAs (Decidable (_ ∧ _))

/-- How an entry's transmission goes to the MAC: a copy for a child as an indirect unicast to it,
else as the broadcast the packet was queued as. -/
def SentAs (a : Around) (child : Option ℕ) (params : McpsDataReqParams) : Prop :=
  match child with
  | some n => params.dstAddr = a.childAddr n ∧ params.indirect = true ∧ params.acknowledged = true
  | none => params.dstAddr = nwkBroadcastAllDevices ∧ params.indirect = false

/-- What an operation does with the entry of a broadcast to all devices: it broadcasts it no more
often than the limit and copies it at most once for a child; a transmission of it goes to the
MAC, in the request's own buffer with the release of the entry and in another one before; and
where the entry is released, it was broadcast, copied for every child but the originator, and its
own buffer goes out. -/
structure Served (spill : Spill) (w : World) (op : Op) (i : ℕ) : Prop where
  few : (execute spill w op).sent i ≤ nwkMaxBroadcastRetries
  once : ∀ n, w.around.Child n → (execute spill w op).copies i n ≤ 1
  goes : ∀ child next, transmits w.nwk (told w op) = some (i, child, next) →
    ∃ b, .mcpsDataRequest b ∈ (exec spill w.nwk (told w op)).2 ∧
      SentAs w.around child ((execute spill w op).nwk.reqParams b) ∧
      (b = (w.nwk.brrt.slots i).ent.buf ↔ ((execute spill w op).nwk.brrt.slots i).used = false)
  released : ((execute spill w op).nwk.brrt.slots i).used = false →
    1 ≤ (execute spill w op).sent i ∧
    (∀ n, w.around.Child n → (execute spill w op).copies i n =
      if w.around.childAddr n = (w.nwk.brrt.slots i).ent.srcAddr then 0 else 1) ∧
    .mcpsDataRequest (w.nwk.brrt.slots i).ent.buf ∈ (exec spill w.nwk (told w op)).2

/-- Every broadcast to all devices that is queued is served. -/
def AllServed (spill : Spill) (w : World) : Event → Prop
  | .nwk op => ∀ i, Queued w.nwk i → Served spill w op i
  | .neighbors _ => True

/-! ## The condition -/

/-- Some entry of the retransmission table has the buffer. -/
def Held (s : Nwk) (b : BufRef) : Prop :=
  ∃ i < nwkBrrTableSize, (s.brrt.slots i).used = true ∧ (s.brrt.slots i).ent.buf = b

instance (s : Nwk) (b : BufRef) : Decidable (Held s b) :=
  inferInstanceAs (Decidable (∃ i < nwkBrrTableSize, _))

/-- No two children have the address. -/
def Single (a : Around) (addr : UInt16) : Prop :=
  ∀ n < a.neighbors.baseNeighborUsed, ∀ m < a.neighbors.baseNeighborUsed,
    a.Child n ∧ a.Child m ∧ a.childAddr n = addr ∧ a.childAddr m = addr → n = m

instance (a : Around) (addr : UInt16) : Decidable (Single a addr) :=
  inferInstanceAs (Decidable (∀ n < a.neighbors.baseNeighborUsed, ∀ m < _, _ → _))

/-- The passive acknowledgements of entry `i` with one of neighbour `n`, as many as wanted. -/
def AllAcked (w : World) (i n : ℕ) : Prop :=
  ackedByAll w.nwk (w.nwk.brrt.slots i).ent
    (magicBitcount8 ((w.nwk.brrt.slots i).ent.passiveAck ||| 1 <<< n.toUInt8))
    (getPassiveAckDevNum w.around.neighbors) = true

instance (w : World) (i n : ℕ) : Decidable (AllAcked w i n) := inferInstanceAs (Decidable (_ = _))

/-- A packet is forwarded, and a buffer granted, that no entry holds; a broadcast to all devices
does not come from an address of two children; nothing queued for all devices is reset. -/
def Sane (w : World) : Op → Prop
  | .forward param _ nwhdr _ => ¬ Held w.nwk param ∧
    (nwhdr.dstAddr = nwkBroadcastAllDevices → Single w.around nwhdr.srcAddr)
  | .broadcastTransmition param _ => ¬ Held w.nwk param
  | .resetConfirm => ∀ i < nwkBrrTableSize, ¬ Queued w.nwk i
  | _ => True

instance (w : World) (op : Op) : Decidable (Sane w op) := by
  cases op <;> unfold Sane <;> infer_instance

/-- The passive acknowledgements are of the first eight neighbours, and those of a broadcast to all
devices are never as many as wanted; the neighbours stay while such a broadcast is queued. -/
def Regular (w : World) : Event → Prop
  | .nwk op => Sane w op ∧ (∀ n ∈ marked w.nwk (told w op), n < 8) ∧
    ∀ ack ∈ acknowledges w.nwk (told w op), Queued w.nwk ack.1 → ¬ AllAcked w ack.1 ack.2
  | .neighbors _ => ∀ i < nwkBrrTableSize, ¬ Queued w.nwk i

instance (w : World) (event : Event) : Decidable (Regular w event) :=
  match event with
  | .nwk op =>
    have : Decidable (∀ n ∈ marked w.nwk (told w op), n < 8) := Option.decidableForallMem _
    inferInstanceAs (Decidable (_ ∧ _ ∧ ∀ ack ∈ acknowledges w.nwk (told w op), _))
  | .neighbors _ => inferInstanceAs (Decidable (∀ i < nwkBrrTableSize, _))

/-! ## The search for an entry -/

/-- The search has passed over the child that was next, the originator. -/
def Passed (env : Surroundings) (slot slot' : Slot NwkBroadcastRetransmit) : Prop :=
  ∃ n, slot.ent.neighborTableIterator = some n ∧ env.childAddr n = env.bufSrc slot.ent.buf ∧
    slot' = { slot with ent := { slot.ent with
      neighborTableIterator := env.nextZeChild slot.ent.dstAddr (n + 1) } }

/-- What the search for a copy leaves of the entries it goes through, each once. -/
structure Searched (env : Surroundings) (slots : List ℕ) (t t' : RetransmitTable)
    (found : Option (ℕ × ℕ)) : Prop where
  kept : ∀ j, t'.slots j = t.slots j ∨ j ∈ slots ∧ Passed env (t.slots j) (t'.slots j)
  chosen : ∀ i n, found = some (i, n) → i ∈ slots ∧ t'.slots i = t.slots i ∧
    (t.slots i).used = true ∧ (t.slots i).ent.neighborTableIterator = some n ∧
      env.childAddr n ≠ env.bufSrc (t.slots i).ent.buf
  ended : found = none → ∀ j ∈ slots, (t.slots j).used = true →
    (t.slots j).ent.neighborTableIterator ≠ none → Passed env (t.slots j) (t'.slots j)

theorem seekUnicast_searched (env : Surroundings) :
    ∀ (slots : List ℕ) (t : RetransmitTable), slots.Nodup →
      Searched env slots t (seekUnicast env slots t).1 (seekUnicast env slots t).2 := by
  intro slots
  induction slots with
  | nil =>
    refine fun t _ => ⟨fun j => Or.inl rfl, fun k m found => ?_, fun _ j member => ?_⟩
    · cases found
    · cases member
  | cons i rest ih =>
    intro t distinct
    obtain ⟨first, others⟩ := List.nodup_cons.mp distinct
    rw [seekUnicast]
    split
    · rename_i n used iterator
      split
      · rename_i origin
        -- the entry of the originator, moved on, is not met again
        have searched := ih (t.modify i fun ent =>
          { ent with neighborTableIterator := env.nextZeChild ent.dstAddr (n + 1) }) others
        have apart : ∀ j, j ≠ i → (t.modify i fun ent =>
            { ent with neighborTableIterator := env.nextZeChild ent.dstAddr (n + 1) }).slots j =
              t.slots j := fun j other => modify_slots_of_ne _ other
        have here : Passed env (t.slots i) ((seekUnicast env rest (t.modify i fun ent =>
            { ent with neighborTableIterator := env.nextZeChild ent.dstAddr (n + 1) })).1.slots i)
            := by
          refine ⟨n, iterator, origin, ?_⟩
          rcases searched.kept i with same | ⟨again, -⟩
          · rw [same]
            simp [Table.modify]
          · exact absurd again first
        refine ⟨fun j => ?_, fun k m found => ?_, fun none_ j member used' some_ => ?_⟩
        · by_cases other : j = i
          · subst other
            exact Or.inr ⟨List.mem_cons_self, here⟩
          · rw [← apart j other]
            exact (searched.kept j).imp_right fun both => ⟨List.mem_cons_of_mem _ both.1, both.2⟩
        · obtain ⟨member, same, used', next, origin'⟩ := searched.chosen k m found
          have other : k ≠ i := fun same => first (same ▸ member)
          rw [apart k other] at same used' next origin'
          exact ⟨List.mem_cons_of_mem _ member, same, used', next, origin'⟩
        · rcases List.mem_cons.mp member with rfl | later
          · exact here
          · have other : j ≠ i := fun same => first (same ▸ later)
            rw [← apart j other] at used' some_ ⊢
            exact searched.ended none_ j later used' some_
      · rename_i origin
        refine ⟨fun j => Or.inl rfl, fun k m found => ?_,
          fun none_ => absurd none_ (Option.some_ne_none _)⟩
        obtain ⟨rfl, rfl⟩ := Prod.mk.inj (Option.some.inj found)
        exact ⟨List.mem_cons_self, rfl, used, iterator, origin⟩
    · rename_i idle
      have searched := ih t others
      refine ⟨fun j => ?_, fun k m found => ?_, fun none_ j member used some_ => ?_⟩
      · exact (searched.kept j).imp_right fun both => ⟨List.mem_cons_of_mem _ both.1, both.2⟩
      · obtain ⟨member, chosen⟩ := searched.chosen k m found
        exact ⟨List.mem_cons_of_mem _ member, chosen⟩
      · rcases List.mem_cons.mp member with rfl | later
        · obtain ⟨n, next⟩ := Option.ne_none_iff_exists'.mp some_
          exact absurd next (idle n used)
        · exact searched.ended none_ j later used some_

/-- The entry that is sent: one not sent before, one that is copied for the child that is next, or
one that is due, of which the originator was passed over if it was next. -/
inductive Picked (env : Surroundings) (s : Nwk) (brrt : RetransmitTable) (i : ℕ) :
    Option ℕ → Prop
  | first (same : brrt.slots i = s.brrt.slots i) (unsent : (s.brrt.slots i).ent.retries = 0) :
      Picked env s brrt i none
  | copy (n : ℕ) (same : brrt.slots i = s.brrt.slots i)
      (sent : (s.brrt.slots i).ent.retries ≠ 0)
      (next : (s.brrt.slots i).ent.neighborTableIterator = some n)
      (other : env.childAddr n ≠ env.bufSrc (s.brrt.slots i).ent.buf) : Picked env s brrt i (some n)
  | again (sent : (s.brrt.slots i).ent.retries ≠ 0)
      (passed : (s.brrt.slots i).ent.neighborTableIterator ≠ none →
        Passed env (s.brrt.slots i) (brrt.slots i)) : Picked env s brrt i none

theorem nextTransmission_picked (s : Nwk) (env : Surroundings) :
    (∀ j, (nextTransmission s env).1.slots j = s.brrt.slots j ∨
      Passed env (s.brrt.slots j) ((nextTransmission s env).1.slots j)) ∧
    ∀ i child, (nextTransmission s env).2 = some (i, child) →
      (s.brrt.slots i).used = true ∧ Picked env s (nextTransmission s env).1 i child := by
  have searched := seekUnicast_searched env (List.range nwkBrrTableSize) s.brrt List.nodup_range
  rw [nextTransmission]
  cases first : s.brrt.findEnt fun ent => ent.retries == 0 with
  | some k =>
    refine ⟨fun j => Or.inl rfl, ?_⟩
    rintro i child found
    obtain ⟨rfl, rfl⟩ := Prod.mk.inj (Option.some.inj found)
    obtain ⟨-, used, unsent⟩ := findEnt_spec first
    exact ⟨used, .first rfl (by simpa using unsent)⟩
  | none =>
    have sent : ∀ i < nwkBrrTableSize, (s.brrt.slots i).used = true →
        (s.brrt.slots i).ent.retries ≠ 0 := by
      intro i inside used zero
      have before := List.find?_eq_none.mp first i (List.mem_range.mpr inside)
      simp [used, zero] at before
    dsimp only
    rcases sought : seekUnicast env (List.range nwkBrrTableSize) s.brrt with ⟨brrt, _ | ⟨k, m⟩⟩
    · rw [sought] at searched
      refine ⟨fun j => (searched.kept j).imp_right And.right, ?_⟩
      rintro i child found
      obtain ⟨k, due, same⟩ := Option.map_eq_some_iff.mp found
      obtain ⟨rfl, rfl⟩ := Prod.mk.inj same
      obtain ⟨inside, used, -⟩ := findEnt_spec due
      have used' : (s.brrt.slots k).used = true := by
        rcases searched.kept k with kept | ⟨-, n, -, -, moved⟩
        · rwa [← kept]
        · rw [moved] at used
          exact used
      exact ⟨used', .again (sent k inside used')
        fun some_ => searched.ended rfl k (List.mem_range.mpr inside) used' some_⟩
    · rw [sought] at searched
      refine ⟨fun j => (searched.kept j).imp_right And.right, ?_⟩
      rintro i child found
      obtain ⟨rfl, rfl⟩ := Prod.mk.inj (Option.some.inj found)
      obtain ⟨member, same, used, next, other⟩ := searched.chosen _ _ rfl
      exact ⟨used, .copy m same (sent k (List.mem_range.mp member) used) next other⟩

/-! ## The children -/

variable {a : Around}

theorem nextZeChildren_some {i m : ℕ}
    (next : neighborNextZeChildrenI a.neighbors nwkBroadcastAllDevices i = some m) :
    i ≤ m ∧ a.Child m ∧ ∀ n, i ≤ n → n < m → ¬ a.Child n := by
  rw [neighborNextZeChildrenI, List.find?_eq_some_iff_getElem] at next
  obtain ⟨child, k, inside, at_, before⟩ := next
  rw [List.length_drop, List.length_range] at inside
  rw [List.getElem_drop, List.getElem_range] at at_
  refine ⟨by omega, ⟨by omega, child⟩, fun n from_ below is => ?_⟩
  have passed := before (n - i) (by omega)
  rw [List.getElem_drop, List.getElem_range, Nat.add_sub_cancel' from_, is.2] at passed
  cases passed

theorem nextZeChildren_none {i : ℕ}
    (next : neighborNextZeChildrenI a.neighbors nwkBroadcastAllDevices i = none) :
    ∀ n, i ≤ n → ¬ a.Child n := by
  intro n from_ child
  have member : n ∈ (List.range a.neighbors.baseNeighborUsed).drop i := by
    have whole : i + (n - i) = n := Nat.add_sub_cancel' from_
    refine List.mem_drop_iff_getElem.mpr ⟨n - i, ?_, ?_⟩
    · have inside := child.1
      rw [List.length_range]
      omega
    · rw [List.getElem_range, whole]
  have passed := List.find?_eq_none.mp next n member
  exact passed child.2

/-! ## A queued entry -/

/-- What is known of the entry of a broadcast to all devices: the originator is one child at most,
the children in front of the next one have their copies and the others have none, and it was
broadcast as often as is recorded. -/
structure Entry (a : Around) (ent : NwkBroadcastRetransmit) (sent : ℕ) (copies : ℕ → ℕ) : Prop where
  all : ent.dstAddr = nwkBroadcastAllDevices
  single : Single a ent.srcAddr
  next : ∀ m ∈ ent.neighborTableIterator, a.Child m
  done : ∀ n, a.Child n → (∀ m ∈ ent.neighborTableIterator, n < m) →
    copies n = if a.childAddr n = ent.srcAddr then 0 else 1
  todo : ∀ n, a.Child n → ∀ m ∈ ent.neighborTableIterator, m ≤ n → copies n = 0
  retries : ent.retries = sent
  few : sent ≤ nwkMaxBroadcastRetries

/-- After the last broadcast there are children to be sent copies, none of them the originator. -/
def Spent (a : Around) (ent : NwkBroadcastRetransmit) : Prop :=
  ∃ m, ent.neighborTableIterator = some m ∧ ∀ n, a.Child n → m ≤ n → a.childAddr n ≠ ent.srcAddr

/-- The entry, which is kept as long as there is something to be sent. -/
structure Fit (a : Around) (ent : NwkBroadcastRetransmit) (sent : ℕ) (copies : ℕ → ℕ) : Prop where
  entry : Entry a ent sent copies
  spent : sent = nwkMaxBroadcastRetries → Spent a ent

variable {ent : NwkBroadcastRetransmit} {sent : ℕ} {copies : ℕ → ℕ}

theorem Entry.once (entry : Entry a ent sent copies) {n : ℕ} (child : a.Child n) :
    copies n ≤ 1 := by
  by_cases before : ∀ m ∈ ent.neighborTableIterator, n < m
  · rw [entry.done n child before]
    split <;> decide
  · push Not at before
    obtain ⟨m, next, behind⟩ := before
    rw [entry.todo n child m next behind]
    exact Nat.zero_le 1

/-- The fields that copies and acknowledgements change. -/
theorem Entry.marked (entry : Entry a ent sent copies) (acks : UInt8) :
    Entry a { ent with passiveAck := acks } sent copies := { entry with }

/-- The child that is next is served, or passed over as the originator. -/
theorem Entry.advance (entry : Entry a ent sent copies) {n : ℕ}
    (next : ent.neighborTableIterator = some n) {copies' : ℕ → ℕ}
    (others : ∀ k, k ≠ n → copies' k = copies k)
    (served : copies' n = if a.childAddr n = ent.srcAddr then 0 else 1) :
    Entry a { ent with
      neighborTableIterator := neighborNextZeChildrenI a.neighbors ent.dstAddr (n + 1) }
      sent copies' := by
  have found_ : neighborNextZeChildrenI a.neighbors ent.dstAddr (n + 1) =
      neighborNextZeChildrenI a.neighbors nwkBroadcastAllDevices (n + 1) := by rw [entry.all]
  rw [found_]
  refine { entry with next := ?_, done := ?_, todo := ?_ }
  · intro m found
    exact (nextZeChildren_some found).2.1
  · intro k child before
    rcases Nat.lt_trichotomy k n with below | rfl | above
    · rw [others k (Nat.ne_of_lt below)]
      refine entry.done k child fun m same => ?_
      rw [next] at same
      cases same
      exact below
    · exact served
    · cases found : neighborNextZeChildrenI a.neighbors nwkBroadcastAllDevices (n + 1) with
      | none => exact absurd child (nextZeChildren_none found k above)
      | some m => exact absurd child ((nextZeChildren_some found).2.2 k above (before m found))
  · intro k child m found behind
    have from_ := (nextZeChildren_some found).1
    rw [others k (by omega)]
    exact entry.todo k child n next (by omega)

/-- The child that is next has no copy yet. -/
theorem Entry.fresh (entry : Entry a ent sent copies) {n : ℕ}
    (next : ent.neighborTableIterator = some n) : copies n = 0 :=
  entry.todo n (entry.next n next) n next (Nat.le_refl n)

/-- The originator is passed over. -/
theorem Entry.pass (entry : Entry a ent sent copies) {n : ℕ}
    (next : ent.neighborTableIterator = some n) (origin : a.childAddr n = ent.srcAddr) :
    Entry a { ent with
      neighborTableIterator := neighborNextZeChildrenI a.neighbors ent.dstAddr (n + 1) }
      sent copies :=
  entry.advance next (fun _ _ => rfl) (by rw [entry.fresh next, if_pos origin])

/-- Behind the originator there is no other. -/
theorem Entry.spent_pass (entry : Entry a ent sent copies) {n : ℕ}
    (next : ent.neighborTableIterator = some n) (origin : a.childAddr n = ent.srcAddr) {m : ℕ}
    (found : neighborNextZeChildrenI a.neighbors ent.dstAddr (n + 1) = some m) :
    ∀ k, a.Child k → m ≤ k → a.childAddr k ≠ ent.srcAddr := by
  intro k child behind same
  rw [entry.all] at found
  have from_ := (nextZeChildren_some found).1
  have first := entry.next n next
  have only := entry.single k child.1 n first.1 ⟨child, first, same, origin⟩
  omega

/-- The child that is next gets its copy. -/
theorem Entry.copy (entry : Entry a ent sent copies) {n : ℕ}
    (next : ent.neighborTableIterator = some n) (other : a.childAddr n ≠ ent.srcAddr) :
    Entry a { ent with
      neighborTableIterator := neighborNextZeChildrenI a.neighbors ent.dstAddr (n + 1) }
      sent (Function.update copies n (copies n + 1)) :=
  entry.advance next (fun _ other => Function.update_of_ne other _ _)
    (by rw [Function.update_self, entry.fresh next, if_neg other])

theorem Entry.broadcast (entry : Entry a ent sent copies) (few : sent < nwkMaxBroadcastRetries)
    (at_ : UInt16) :
    Entry a { ent with nextRetransmit := at_, retries := (ent.retries + 1) % 64 } (sent + 1) copies
    := by
  refine { entry with retries := ?_, few := few }
  rw [nwkMaxBroadcastRetries] at few
  change (ent.retries + 1) % 64 = sent + 1
  rw [entry.retries, Nat.mod_eq_of_lt (by omega)]

/-! ## One operation -/

variable {spill : Spill} {w : World} {op : Op} {i k : ℕ}

theorem told_transmition {param : BufRef} {env : Surroundings}
    (given : told w op = .broadcastTransmition param env) :
    (∃ env', op = .broadcastTransmition param env') ∧
      env.nextZeChild = neighborNextZeChildrenI w.around.neighbors ∧ env.bufSrc = w.src ∧
      env.childAddr = w.around.childAddr := by
  cases op <;> cases given
  exact ⟨⟨_, rfl⟩, rfl, rfl, rfl⟩

theorem told_forward {param : BufRef} {handle : UInt8} {nwhdr : NwkHdr} {hops : Hops}
    (given : told w op = .forward param handle nwhdr hops) :
    (∃ hops', op = .forward param handle nwhdr hops') ∧
      hops.nextZeChild = neighborNextZeChildrenI w.around.neighbors nwhdr.dstAddr 0 := by
  cases op <;> cases given
  exact ⟨⟨_, rfl⟩, rfl⟩

theorem told_indication {frame : RxFrame} (given : told w op = .mcpsDataIndication frame) :
    frame.passiveAckDevNum = getPassiveAckDevNum w.around.neighbors := by
  cases op <;> cases given
  rfl

theorem told_reset (given : told w op = .resetConfirm) : op = .resetConfirm := by
  cases op <;> first | rfl | cases given

/-- Entries have buffers of their own, and those for all devices are as they should be. -/
structure Sound (w : World) : Prop where
  inside : ∀ i, (w.nwk.brrt.slots i).used = true → i < nwkBrrTableSize
  distinct : ∀ i j, (w.nwk.brrt.slots i).used = true → (w.nwk.brrt.slots j).used = true →
    (w.nwk.brrt.slots i).ent.buf = (w.nwk.brrt.slots j).ent.buf → i = j
  origin : ∀ i, Queued w.nwk i →
    w.src (w.nwk.brrt.slots i).ent.buf = (w.nwk.brrt.slots i).ent.srcAddr
  params : ∀ i, Queued w.nwk i →
    SentAs w.around none (w.nwk.reqParams (w.nwk.brrt.slots i).ent.buf)
  fit : ∀ i, Queued w.nwk i → Fit w.around (w.nwk.brrt.slots i).ent (w.sent i) (w.copies i)

theorem Sound.init (device : Device) (around : Around) : Sound (World.init device around) where
  inside i used := by cases used
  distinct i j used := by cases used
  origin i queued := by cases queued.1
  params i queued := by cases queued.1
  fit i queued := by cases queued.1

theorem Sound.held (sound : Sound w) (used : (w.nwk.brrt.slots i).used = true) :
    Held w.nwk (w.nwk.brrt.slots i).ent.buf := ⟨i, sound.inside i used, used, rfl⟩

/-- A packet that is not forwarded keeps its originator. -/
theorem srcAfter_held (sane : Sane w op) {b : BufRef} (held : Held w.nwk b) :
    srcAfter w.src (told w op) b = w.src b := by
  cases given : told w op with
  | forward param handle nwhdr hops =>
    obtain ⟨⟨hops', rfl⟩, -⟩ := told_forward given
    have other : b ≠ param := fun same => sane.1 (same ▸ held)
    exact Function.update_of_ne other _ _
  | _ => rfl

/-- What `zb_nwk_forward` asks of the MAC, it asks for its own packet. -/
theorem forward_reqParams (s : Nwk) {param : BufRef} {handle : UInt8} {nwhdr : NwkHdr}
    {hops : Hops} {b : BufRef} (other : b ≠ param) :
    (forward s param handle nwhdr hops).1.reqParams b = s.reqParams b := by
  have destination : (calcDestination s param handle nwhdr hops).1.reqParams = s.reqParams := by
    obtain ⟨routing, pending, after⟩ := (calcDestination_writes s param handle nwhdr hops).1
    rw [after]
  rw [forward, ← destination]
  rcases calcDestination s param handle nwhdr hops with ⟨s', ⟨macDst, indirect⟩ | _ | status, calls⟩
  · dsimp only
    rw [sendTo]
    dsimp only
    split
    · rfl
    · split
      · split
        · split <;> exact Function.update_of_ne other _ _
        · exact Function.update_of_ne other _ _
      · exact Function.update_of_ne other _ _
  · rfl
  · rfl

theorem sendTo_params (s : Nwk) (param : BufRef) (handle : UInt8) (nwhdr : NwkHdr) (hops : Hops)
    (macDst : UInt16) (indirect : Bool) :
    (sendTo s param handle nwhdr hops macDst indirect).1.brrt = s.brrt ∨
      ((sendTo s param handle nwhdr hops macDst indirect).1.reqParams param =
        { dstAddr := macDst, indirect, acknowledged := macDst != 0xffff, msduHandle := handle } ∧
      FrameHeaders.nwkIsAddressBroadcast nwhdr.dstAddr = true ∧ s.device.deviceType ≠ .ed) := by
  rw [sendTo]
  dsimp only
  split
  · exact Or.inl rfl
  · split
    · rename_i router
      split
      · split
        · exact Or.inr ⟨Function.update_self _ _ _, router⟩
        · exact Or.inl rfl
      · exact Or.inl rfl
    · exact Or.inl rfl

/-- A packet that is queued is a broadcast to the MAC. -/
theorem forward_queued (s : Nwk) {param : BufRef} {handle : UInt8} {nwhdr : NwkHdr} {hops : Hops}
    (queued : (forward s param handle nwhdr hops).1.brrt.slots ≠ s.brrt.slots) (a : Around) :
    SentAs a none ((forward s param handle nwhdr hops).1.reqParams param) := by
  have brrt : (calcDestination s param handle nwhdr hops).1.brrt = s.brrt := by
    obtain ⟨routing, pending, after⟩ := (calcDestination_writes s param handle nwhdr hops).1
    rw [after]
  rw [forward] at queued ⊢
  rcases calculated : calcDestination s param handle nwhdr hops with
    ⟨s', ⟨macDst, indirect⟩ | _ | status, calls⟩ <;> rw [calculated] at queued brrt
  · rcases sendTo_params s' param handle nwhdr hops macDst indirect with same | ⟨params, router⟩
    · exact absurd (by rw [same, brrt]) queued
    · dsimp only
      rw [params]
      rw [calcDestination] at calculated
      split at calculated
      · rename_i endDevice
        cases calculated
        exact absurd endDevice router.2
      · rw [if_pos router.1] at calculated
        cases calculated
        exact ⟨rfl, rfl⟩
  · exact absurd (by rw [brrt]) queued
  · exact absurd (by rw [brrt]) queued

/-- The buffer a transmission goes out in. -/
def sentIn (last : Bool) (own param : BufRef) : BufRef := if last then own else param

/-- A transmission goes to the MAC in the granted buffer, the last one in the packet's own, and
with the last one the entry is released. -/
theorem transmition_spec (spill : Spill) (s : Nwk) {param : BufRef} {env : Surroundings}
    {brrt : RetransmitTable} {child : Option ℕ} (present : param ≠ 0)
    (next : nextTransmission s env = (brrt, some (k, child)))
    (inside : ∀ n ∈ child, n < 8) (other : param ≠ (brrt.slots k).ent.buf) :
    let ent := noted env (brrt.slots k).ent child
    let last := lastTransmission s ent (searchCounter s env) env.passiveAckDevNum
    let b := sentIn last (brrt.slots k).ent.buf param
    (broadcastTransmition spill s param env).1.brrt.slots =
        Function.update brrt.slots k ⟨!last && (brrt.slots k).used, ent⟩ ∧
      .mcpsDataRequest b ∈ (broadcastTransmition spill s param env).2 ∧
      ∃ handle, (broadcastTransmition spill s param env).1.reqParams = Function.update s.reqParams b
        { addressTo env (s.reqParams (brrt.slots k).ent.buf) child with msduHandle := handle } := by
  have note := PassiveAck.noteTransmission_slots spill env brrt k inside
  have buf : (noted env (brrt.slots k).ent child).buf = (brrt.slots k).ent.buf := by
    cases child <;> rfl
  rw [broadcastTransmition, next]
  dsimp only
  rw [if_neg present, transmit]
  dsimp only
  rw [note, Function.update_self, buf]
  split
  · rename_i last
    rw [last]
    refine ⟨?_, List.mem_append_left _ (List.mem_cons_of_mem _ List.mem_cons_self), _, rfl⟩
    simp [putEnt, mark, note]
  · rename_i more
    rw [Bool.not_eq_true] at more
    rw [more]
    refine ⟨note, List.mem_append_left _ List.mem_cons_self, nwkInternalNsduHandle, ?_⟩
    cases child <;> rfl

/-- The table the search leaves. -/
theorem search_slots {s : Nwk} {env : Surroundings} {brrt : RetransmitTable}
    {found : Option (ℕ × Option ℕ)} (next : nextTransmission s env = (brrt, found)) (j : ℕ) :
    (brrt.slots j).used = (s.brrt.slots j).used ∧ ∃ iterator,
      (brrt.slots j).ent = { (s.brrt.slots j).ent with neighborTableIterator := iterator } := by
  have kept := (PassiveAck.nextTransmission_sought s env).1 j
  rw [next] at kept
  exact ⟨kept.used, kept.rest⟩

/-- What the MAC is asked for the packet of an entry that stays. -/
theorem Sound.reqParams (sound : Sound w) (sane : Sane w op)
    (inside : ∀ n ∈ DynamicTables.marked w.nwk (told w op), n < 8)
    (used : (w.nwk.brrt.slots i).used = true)
    (stays : ((exec spill w.nwk (told w op)).1.brrt.slots i).used = true) :
    (exec spill w.nwk (told w op)).1.reqParams (w.nwk.brrt.slots i).ent.buf =
      w.nwk.reqParams (w.nwk.brrt.slots i).ent.buf := by
  have held := sound.held used
  have route : RouteSide (told w op) → (exec spill w.nwk (told w op)).1.reqParams =
      w.nwk.reqParams := by
    intro side
    obtain ⟨device, routing, routeDisc, pending, rreqId, apsRreqAddr, after⟩ :=
      exec_routeSide w.nwk spill side
    rw [after]
  cases given : told w op with
  | forward param handle nwhdr hops =>
    obtain ⟨⟨hops', rfl⟩, -⟩ := told_forward given
    exact forward_reqParams w.nwk fun same => sane.1 (same ▸ held)
  | broadcastTransmition param env =>
    obtain ⟨⟨env', rfl⟩, -⟩ := told_transmition given
    rw [given] at stays inside
    have other : (w.nwk.brrt.slots i).ent.buf ≠ param := fun same => sane (same ▸ held)
    change (broadcastTransmition spill w.nwk param env).1.reqParams _ = _
    change ((broadcastTransmition spill w.nwk param env).1.brrt.slots i).used = true at stays
    rcases next : nextTransmission w.nwk env with ⟨brrt, _ | ⟨k, child⟩⟩
    · rw [broadcastTransmition, next]
    · by_cases present : param = 0
      · rw [broadcastTransmition, next]
        dsimp only
        rw [if_pos present]
      · obtain ⟨used', iterator, ent⟩ := search_slots next k
        have found := (nextTransmission_picked w.nwk env).2 k child (by rw [next])
        have buf : (brrt.slots k).ent.buf = (w.nwk.brrt.slots k).ent.buf := by rw [ent]
        have bounded : ∀ n ∈ child, n < 8 := by
          rintro n ⟨⟩
          exact inside n (by simp [DynamicTables.marked, present, next])
        have apart : param ≠ (brrt.slots k).ent.buf := by
          rw [buf]
          exact fun same => sane (same ▸ sound.held found.1)
        obtain ⟨slots, -, handle, params⟩ :=
          transmition_spec spill w.nwk present next bounded apart
        rw [params]
        refine Function.update_of_ne ?_ _ _
        rw [sentIn]
        split
        · rename_i last
          intro same
          rw [buf] at same
          obtain rfl := sound.distinct i k used found.1 same
          rw [slots, Function.update_self, last] at stays
          cases stays
        · exact other
  | mcpsDataIndication frame =>
    have delivered : ∀ s : Nwk, (deliver s frame).1.reqParams = s.reqParams := by
      intro s
      rw [deliver]
      split
      · rfl
      · split
        · split <;> rfl
        all_goals rfl
    have received : ∀ s : Nwk, (receiveBroadcast s frame).1.reqParams = s.reqParams := by
      intro s
      rw [receiveBroadcast]
      split
      · rfl
      · split
        · rfl
        · exact delivered _
    have noted_ : (notePassiveAck spill w.nwk frame).1.reqParams = w.nwk.reqParams := by
      rw [notePassiveAck]
      split
      · rw [passiveAcked]
        split <;> rfl
      · rfl
    change (mcpsDataIndication spill w.nwk frame).1.reqParams _ = _
    rw [mcpsDataIndication]
    split
    · rfl
    · split
      · split
        · dsimp only
          rw [received, noted_]
        · rfl
      · rw [delivered]
  | newBufferAllocated param =>
    change (newBufferAllocated w.nwk param).1.reqParams _ = _
    rw [newBufferAllocated]
    split <;> rfl
  | btrExpiry =>
    change (btrExpiry w.nwk).reqParams _ = _
    rw [btrExpiry]
    split <;> rfl
  | leave => rfl
  | resetConfirm => rfl
  | configure | nldeDataRequest | mcpsDataConfirm | rreq | rrep | initiateRouteDiscovery
  | nlmeRouteDiscoveryRequest | expiryRouteDisc | expiryPending | resetRequest =>
    rw [given] at route
    rw [route trivial]

/-- An entry that is in use after an operation was in use before, for the same packet, or is filled
with a packet that is forwarded. -/
inductive Came (s s' : Nwk) (op : Op) (i : ℕ) : Prop
  | kept (used : (s.brrt.slots i).used = true)
      (buf : (s'.brrt.slots i).ent.buf = (s.brrt.slots i).ent.buf)
      (srcAddr : (s'.brrt.slots i).ent.srcAddr = (s.brrt.slots i).ent.srcAddr)
      (dstAddr : (s'.brrt.slots i).ent.dstAddr = (s.brrt.slots i).ent.dstAddr)
  | filled (free : (s.brrt.slots i).used = false) (inside : i < nwkBrrTableSize)
      (only : ∀ j, j ≠ i → s'.brrt.slots j = s.brrt.slots j)
      (retries : (s'.brrt.slots i).ent.retries = 0)
      (forwards : ∃ param handle nwhdr hops, op = .forward param handle nwhdr hops ∧
        (s'.brrt.slots i).ent.neighborTableIterator = hops.nextZeChild ∧
        (s'.brrt.slots i).ent.buf = param ∧ (s'.brrt.slots i).ent.srcAddr = nwhdr.srcAddr ∧
        (s'.brrt.slots i).ent.dstAddr = nwhdr.dstAddr)

/-- The chosen entry, with what is known of a granted buffer. -/
theorem Sound.chosen (sound : Sound w) {param : BufRef} {env : Surroundings}
    {brrt : RetransmitTable} {child : Option ℕ} (free : ¬ Held w.nwk param)
    (next : nextTransmission w.nwk env = (brrt, some (k, child))) :
    (w.nwk.brrt.slots k).used = true ∧ Picked env w.nwk brrt k child ∧
      (brrt.slots k).ent.buf = (w.nwk.brrt.slots k).ent.buf ∧ param ≠ (brrt.slots k).ent.buf := by
  obtain ⟨-, iterator, ent⟩ := search_slots next k
  obtain ⟨used, picked⟩ := (nextTransmission_picked w.nwk env).2 k child (by rw [next])
  rw [next] at picked
  have buf : (brrt.slots k).ent.buf = (w.nwk.brrt.slots k).ent.buf := by rw [ent]
  refine ⟨used, picked, buf, ?_⟩
  rw [buf]
  exact fun same => free (same ▸ sound.held used)

theorem marked_child {s : Nwk} {param : BufRef} {env : Surroundings} {brrt : RetransmitTable}
    {child : Option ℕ} (present : param ≠ 0)
    (next : nextTransmission s env = (brrt, some (k, child)))
    (inside : ∀ n ∈ DynamicTables.marked s (.broadcastTransmition param env), n < 8) :
    ∀ n ∈ child, n < 8 := by
  rintro n ⟨⟩
  exact inside n (by simp [DynamicTables.marked, present, next])

/-- The slots once an entry has been rewritten, and given back where it is `done`. -/
theorem settled_modify (t : RetransmitTable) (k : ℕ)
    (f : NwkBroadcastRetransmit → NwkBroadcastRetransmit) (done : Bool) :
    settled (t.modify k f) k done =
      Function.update t.slots k ⟨!done && (t.slots k).used, f (t.slots k).ent⟩ := by
  cases done <;> simp [settled, mark, Table.modify]

theorem Sound.came (sound : Sound w) (regular : Regular w (.nwk op))
    (used : ((exec spill w.nwk (told w op)).1.brrt.slots i).used = true) :
    Came w.nwk (exec spill w.nwk (told w op)).1 (told w op) i := by
  obtain ⟨sane, inside, -⟩ := regular
  cases stepped spill w.nwk (told w op) with
  | kept quiet same =>
    have here := congrFun same i
    rw [here] at used
    exact .kept used (by rw [here]) (by rw [here]) (by rw [here])
  | reset reset_ free =>
    rw [free i] at used
    cases used
  | queued k ent quiet free within retries acks next slots =>
    by_cases at_ : i = k
    · subst at_
      have here := congrFun slots i
      rw [Function.update_self] at here
      refine .filled free within (fun j other => ?_) (by rw [here]; exact retries) ?_
      · rw [slots, Function.update_of_ne other]
      · rw [here]
        exact next
    · have here := congrFun slots i
      rw [Function.update_of_ne at_] at here
      rw [here] at used
      exact .kept used (by rw [here]) (by rw [here]) (by rw [here])
  | sought param env op_ quiet same slots =>
    have kept := slots i
    obtain ⟨iterator, ent⟩ := kept.rest
    exact .kept (kept.used ▸ used) (by rw [ent]) (by rw [ent]) (by rw [ent])
  | sent param env brrt k child op_ present next slots =>
    obtain ⟨⟨env', rfl⟩, -⟩ := told_transmition op_
    rw [op_] at inside used ⊢
    have bounded := marked_child present next inside
    obtain ⟨used', -, -, apart⟩ := sound.chosen sane next
    obtain ⟨slots, -⟩ := transmition_spec spill w.nwk present next bounded apart
    change ((broadcastTransmition spill w.nwk param env).1.brrt.slots i).used = true at used
    obtain ⟨sameUsed, iterator, ent⟩ := search_slots next i
    have here : ((broadcastTransmition spill w.nwk param env).1.brrt.slots i).ent.buf =
          (w.nwk.brrt.slots i).ent.buf ∧
        ((broadcastTransmition spill w.nwk param env).1.brrt.slots i).ent.srcAddr =
          (w.nwk.brrt.slots i).ent.srcAddr ∧
        ((broadcastTransmition spill w.nwk param env).1.brrt.slots i).ent.dstAddr =
          (w.nwk.brrt.slots i).ent.dstAddr ∧ (w.nwk.brrt.slots i).used = true := by
      rw [slots] at used ⊢
      by_cases at_ : i = k
      · subst at_
        rw [Function.update_self]
        cases child <;> exact ⟨by rw [noted, ent], by rw [noted, ent], by rw [noted, ent], used'⟩
      · rw [Function.update_of_ne at_] at used ⊢
        rw [sameUsed] at used
        exact ⟨by rw [ent], by rw [ent], by rw [ent], used⟩
    exact .kept here.2.2.2 here.1 here.2.1 here.2.2.1
  | acked frame k n op_ ack slots =>
    have first : n < 8 := inside n (PassiveAck.acknowledges_spec ack).1
    rw [setPassiveAck_inside spill _ k first, settled_modify] at slots
    rw [slots] at used
    by_cases at_ : i = k
    · subst at_
      rw [Function.update_self, Bool.and_eq_true] at used
      exact .kept used.2 (by rw [slots, Function.update_self]) (by rw [slots, Function.update_self])
        (by rw [slots, Function.update_self])
    · rw [Function.update_of_ne at_] at used
      exact .kept used (by rw [slots, Function.update_of_ne at_])
        (by rw [slots, Function.update_of_ne at_]) (by rw [slots, Function.update_of_ne at_])

/-- For an entry that was queued before, no history is forgotten. -/
theorem execute_used (used : (w.nwk.brrt.slots i).used = true) :
    (execute spill w op).sent i = sentAfter w.nwk w.sent (told w op) i ∧
      (execute spill w op).copies i = copiesAfter w.nwk w.copies (told w op) i := by
  simp [execute, fresh, used]

/-- Of an entry that is not sent, nothing is counted. -/
theorem execute_unsent (spill : Spill) (used : (w.nwk.brrt.slots i).used = true)
    (unsent : ∀ tx ∈ transmits w.nwk (told w op), tx.1 ≠ i) :
    (execute spill w op).sent i = w.sent i ∧ (execute spill w op).copies i = w.copies i := by
  rw [(execute_used used).1, (execute_used used).2, sentAfter, copiesAfter]
  rcases tx : transmits w.nwk (told w op) with _ | ⟨k, _ | n, next⟩
  · exact ⟨rfl, rfl⟩
  · have other := unsent _ tx
    exact ⟨Function.update_of_ne other.symm _ _, rfl⟩
  · have other := unsent _ tx
    exact ⟨rfl, Function.update_of_ne other.symm _ _⟩

/-- Passed over or not, the entry of a broadcast is as it should be. -/
theorem Fit.searched {env : Surroundings} {slot slot' : Slot NwkBroadcastRetransmit}
    (fit : Fit a slot.ent sent copies)
    (children : env.nextZeChild = neighborNextZeChildrenI a.neighbors)
    (addr : env.childAddr = a.childAddr) (src : env.bufSrc slot.ent.buf = slot.ent.srcAddr)
    (kept : slot' = slot ∨ Passed env slot slot') : Fit a slot'.ent sent copies := by
  rcases kept with rfl | ⟨n, next, origin, rfl⟩
  · exact fit
  · rw [addr, src] at origin
    rw [children]
    refine ⟨fit.entry.pass next origin, fun all => ?_⟩
    obtain ⟨m, same, others⟩ := fit.spent all
    rw [next] at same
    cases same
    exact absurd origin (others n (fit.entry.next n next) (Nat.le_refl n))

/-- The history once an entry has been sent. -/
def sentWith (child : Option ℕ) (sent : ℕ) : ℕ := if child.isNone then sent + 1 else sent

def copiedFor (child : Option ℕ) (copies : ℕ → ℕ) : ℕ → ℕ :=
  match child with
  | some n => Function.update copies n (copies n + 1)
  | none => copies

theorem lastTransmission_retried (s : Nwk) (acks num : ℕ) (none_ : ent.neighborTableIterator = none)
    (retried : nwkMaxBroadcastRetries ≤ ent.retries) : lastTransmission s ent acks num = true := by
  rw [lastTransmission, none_, decide_eq_true retried]
  rfl

/-- What is sent was broadcast before, or is now; and as long as there is something to be sent it is
kept. -/
theorem Fit.transmitted {env : Surroundings} {s : Nwk} {brrt : RetransmitTable} {child : Option ℕ}
    (fit : Fit a (s.brrt.slots i).ent sent copies)
    (children : env.nextZeChild = neighborNextZeChildrenI a.neighbors)
    (addr : env.childAddr = a.childAddr)
    (src : env.bufSrc (s.brrt.slots i).ent.buf = (s.brrt.slots i).ent.srcAddr)
    (kept : brrt.slots i = s.brrt.slots i ∨ Passed env (s.brrt.slots i) (brrt.slots i))
    (picked : Picked env s brrt i child) :
    Entry a (noted env (brrt.slots i).ent child) (sentWith child sent) (copiedFor child copies) ∧
      1 ≤ sentWith child sent ∧
      ∀ acks num, lastTransmission s (noted env (brrt.slots i).ent child) acks num = false →
        sentWith child sent = nwkMaxBroadcastRetries →
          Spent a (noted env (brrt.slots i).ent child) := by
  have entry := fit.entry
  have searched := fit.searched children addr src kept
  cases picked with
  | first same unsent =>
    have none_ : sent = 0 := entry.retries.symm.trans unsent
    subst none_
    refine ⟨searched.entry.broadcast (by decide) _, Nat.le_refl 1, fun _ _ _ all => ?_⟩
    exact absurd all (by decide)
  | copy n same started next other =>
    have once : 1 ≤ sent := Nat.pos_of_ne_zero fun none_ => started (entry.retries.trans none_)
    rw [addr, src] at other
    rw [same, noted, children]
    refine ⟨(entry.copy next other).marked _, once, fun acks num last all => ?_⟩
    obtain ⟨m, next', others⟩ := fit.spent all
    rw [next] at next'
    cases next'
    cases found : neighborNextZeChildrenI a.neighbors (s.brrt.slots i).ent.dstAddr (n + 1) with
    | none =>
      rw [found] at last
      have done := last.symm.trans (lastTransmission_retried s acks num rfl
        (Nat.le_of_eq (all.symm.trans entry.retries.symm)))
      cases done
    | some m =>
      refine ⟨m, rfl, fun k child behind => others k child ?_⟩
      rw [entry.all] at found
      have from_ := (nextZeChildren_some found).1
      omega
  | again started passed =>
    have once : 1 ≤ sent := Nat.pos_of_ne_zero fun none_ => started (entry.retries.trans none_)
    -- after the last broadcast the next child would have been sent its copy
    have few : sent < nwkMaxBroadcastRetries := by
      refine Nat.lt_of_le_of_ne entry.few fun all => ?_
      obtain ⟨m, next, others⟩ := fit.spent all
      obtain ⟨n, next', origin, -⟩ := passed (by rw [next]; exact Option.some_ne_none m)
      rw [next] at next'
      cases next'
      rw [addr, src] at origin
      exact others m (entry.next m next) (Nat.le_refl m) origin
    refine ⟨searched.entry.broadcast few _, Nat.le_add_left _ _, fun acks num last all => ?_⟩
    have after := (searched.entry.broadcast few (env.now + nwkRreqRetryInterval)).retries
    cases found : (brrt.slots i).ent.neighborTableIterator with
    | none =>
      have done : lastTransmission s (noted env (brrt.slots i).ent none) acks num = true :=
        lastTransmission_retried s acks num found (Nat.le_of_eq (all.symm.trans after.symm))
      rw [done] at last
      cases last
    | some m =>
      obtain ⟨n, next, origin, moved⟩ : Passed env (s.brrt.slots i) (brrt.slots i) := by
        rcases kept with same | moved
        · exact passed (by rw [← same, found]; exact Option.some_ne_none m)
        · exact moved
      rw [addr, src] at origin
      rw [moved, children] at found
      refine ⟨m, by rw [moved, children]; exact found, ?_⟩
      rw [moved]
      exact entry.spent_pass next origin found

/-- What is not sent is served as long as it stays. -/
theorem served_unsent (queued : Queued w.nwk i)
    (fit : Fit w.around (w.nwk.brrt.slots i).ent (w.sent i) (w.copies i))
    (unsent : ∀ tx ∈ transmits w.nwk (told w op), tx.1 ≠ i)
    (stays : ((execute spill w op).nwk.brrt.slots i).used = true) : Served spill w op i := by
  obtain ⟨sent, copies⟩ := execute_unsent spill queued.1 unsent
  refine ⟨?_, fun n child => ?_, fun child next tx => ?_, fun released => ?_⟩
  · rw [sent]
    exact fit.entry.few
  · rw [copies]
    exact fit.entry.once child
  · exact absurd rfl (unsent _ tx)
  · rw [released] at stays
    cases stays

/-- What becomes of the entry of a broadcast to all devices. -/
structure Fate (spill : Spill) (w : World) (op : Op) (i : ℕ) : Prop where
  served : Served spill w op i
  fit : ((execute spill w op).nwk.brrt.slots i).used = true →
    Fit w.around ((execute spill w op).nwk.brrt.slots i).ent ((execute spill w op).sent i)
      ((execute spill w op).copies i)

/-- The entry is not sent: it is searched or marked, and stays. -/
theorem fate_unsent (queued : Queued w.nwk i)
    (fit : Fit w.around (w.nwk.brrt.slots i).ent (w.sent i) (w.copies i))
    (unsent : ∀ tx ∈ transmits w.nwk (told w op), tx.1 ≠ i)
    (stays : ((execute spill w op).nwk.brrt.slots i).used = true)
    (after : Fit w.around ((execute spill w op).nwk.brrt.slots i).ent (w.sent i) (w.copies i)) :
    Fate spill w op i := by
  obtain ⟨sent, copies⟩ := execute_unsent spill queued.1 unsent
  refine ⟨served_unsent queued fit unsent stays, fun _ => ?_⟩
  rw [sent, copies]
  exact after

theorem addressTo_sentAs {env : Surroundings} {params : McpsDataReqParams} {child : Option ℕ}
    (addr : env.childAddr = a.childAddr) (broadcast : SentAs a none params) (handle : UInt8) :
    SentAs a child { addressTo env params child with msduHandle := handle } := by
  cases child with
  | none => exact broadcast
  | some n => exact ⟨congrFun addr n, rfl, rfl⟩

theorem Sound.fate_sent (sound : Sound w) (sane : Sane w op) (queued : Queued w.nwk i)
    {param : BufRef} {env : Surroundings} {brrt : RetransmitTable} {child : Option ℕ}
    (op_ : told w op = .broadcastTransmition param env) (present : param ≠ 0)
    (next : nextTransmission w.nwk env = (brrt, some (i, child)))
    (inside : ∀ n ∈ child, n < 8) : Fate spill w op i := by
  obtain ⟨⟨env', rfl⟩, children, src, addr⟩ := told_transmition op_
  obtain ⟨used, picked, buf, apart⟩ := sound.chosen sane next
  have kept := (nextTransmission_picked w.nwk env).1 i
  rw [next] at kept
  obtain ⟨entry, once, spent⟩ := (sound.fit i queued).transmitted children addr
    (by rw [src]; exact sound.origin i queued) kept picked
  obtain ⟨slots, call, handle, params⟩ :=
    transmition_spec spill w.nwk present next inside apart
  have tx := PassiveAck.transmits_sent present next
  have executed : (execute spill w (.broadcastTransmition param env')).nwk =
      (broadcastTransmition spill w.nwk param env).1 := by
    rw [execute, op_]
    rfl
  have calls : (exec spill w.nwk (told w (.broadcastTransmition param env'))).2 =
      (broadcastTransmition spill w.nwk param env).2 := by
    rw [op_]
    rfl
  have sent : (execute spill w (.broadcastTransmition param env')).sent i =
      sentWith child (w.sent i) := by
    rw [(execute_used queued.1).1, op_, sentAfter, tx]
    cases child <;> simp [sentWith]
  have copies : (execute spill w (.broadcastTransmition param env')).copies i =
      copiedFor child (w.copies i) := by
    rw [(execute_used queued.1).2, op_, copiesAfter, tx]
    cases child <;> simp [copiedFor]
  have srcAddr : (noted env (brrt.slots i).ent child).srcAddr =
      (w.nwk.brrt.slots i).ent.srcAddr := by
    obtain ⟨-, iterator, ent⟩ := search_slots next i
    rw [PassiveAck.noted_srcAddr, ent]
  have here := congrFun slots i
  rw [Function.update_self, (search_slots next i).1, used, Bool.and_true] at here
  have done : lastTransmission w.nwk (noted env (brrt.slots i).ent child) (searchCounter w.nwk env)
      env.passiveAckDevNum = true → (noted env (brrt.slots i).ent child).neighborTableIterator =
        none := by
    intro last
    rw [lastTransmission, Bool.and_eq_true, Option.isNone_iff_eq_none] at last
    exact last.1
  have more := spent (searchCounter w.nwk env) env.passiveAckDevNum
  generalize lastTransmission w.nwk (noted env (brrt.slots i).ent child) (searchCounter w.nwk env)
    env.passiveAckDevNum = last at here call params done more
  rw [← executed] at here params
  rw [← calls] at call
  constructor
  · refine ⟨?_, fun n is => ?_, fun child' next' tx' => ?_, fun released => ?_⟩
    · rw [sent]
      exact entry.few
    · rw [copies]
      exact entry.once is
    · rw [op_, tx] at tx'
      cases tx'
      refine ⟨_, call, ?_, ?_⟩
      · rw [params, Function.update_self]
        rw [buf]
        exact addressTo_sentAs addr (sound.params i queued) handle
      · rw [here, ← buf]
        cases last
        · exact ⟨fun same => absurd same apart, fun released => by cases released⟩
        · exact ⟨fun _ => rfl, fun _ => rfl⟩
    · rw [here] at released
      cases last with
      | false => cases released
      | true =>
        refine ⟨sent ▸ once, fun n is => ?_, buf ▸ call⟩
        have ended : ∀ m ∈ (noted env (brrt.slots i).ent child).neighborTableIterator, n < m := by
          rw [done rfl]
          exact fun m member => absurd member (Option.not_mem_none m)
        rw [copies, entry.done n is ended, srcAddr]
  · intro stays
    rw [here] at stays ⊢
    rw [sent, copies]
    refine ⟨entry, more ?_⟩
    cases last
    · rfl
    · cases stays

theorem unsent_of_quiet {s : Nwk} {op : Op} (quiet : transmits s op = none) (i : ℕ) :
    ∀ tx ∈ transmits s op, tx.1 ≠ i := by
  rw [quiet]
  exact nofun

/-- **One step**: what becomes of the entries that are queued. -/
theorem Sound.fate (sound : Sound w) (regular : Regular w (.nwk op)) (queued : Queued w.nwk i) :
    Fate spill w op i := by
  obtain ⟨sane, inside, unheard⟩ := regular
  have fit := sound.fit i queued
  -- an entry whose slot is as it was
  have same (unsent : ∀ tx ∈ transmits w.nwk (told w op), tx.1 ≠ i)
      (slot : (execute spill w op).nwk.brrt.slots i = w.nwk.brrt.slots i) : Fate spill w op i :=
    fate_unsent queued fit unsent (slot ▸ queued.1) (slot ▸ fit)
  -- an entry the search went through
  have searched {param : BufRef} {env : Surroundings} {brrt : RetransmitTable}
      {found : Option (ℕ × Option ℕ)} (op_ : told w op = .broadcastTransmition param env)
      (next : nextTransmission w.nwk env = (brrt, found))
      (unsent : ∀ tx ∈ transmits w.nwk (told w op), tx.1 ≠ i)
      (slot : (execute spill w op).nwk.brrt.slots i = brrt.slots i) : Fate spill w op i := by
    obtain ⟨-, children, src, addr⟩ := told_transmition op_
    have kept := (nextTransmission_picked w.nwk env).1 i
    rw [next] at kept
    refine fate_unsent queued fit unsent ?_ ?_
    · rw [slot, (search_slots next i).1]
      exact queued.1
    · rw [slot]
      exact fit.searched children addr (by rw [src]; exact sound.origin i queued) kept
  cases stepped spill w.nwk (told w op) with
  | kept quiet slots => exact same (unsent_of_quiet quiet i) (congrFun slots i)
  | reset reset_ free =>
    rw [told_reset reset_] at sane
    exact absurd queued (sane i (sound.inside i queued.1))
  | queued k ent quiet free _ _ _ _ slots =>
    have other : i ≠ k := by
      rintro rfl
      rw [queued.1] at free
      cases free
    exact same (unsent_of_quiet quiet i)
      ((congrFun slots i).trans (Function.update_of_ne other _ _))
  | sought param env op_ quiet kept slots =>
    exact searched op_ rfl (unsent_of_quiet quiet i) (congrArg (fun t => t.slots i) kept)
  | sent param env brrt k child op_ present next slots =>
    rw [op_] at inside
    have bounded := marked_child present next inside
    by_cases at_ : i = k
    · subst at_
      exact sound.fate_sent sane queued op_ present next bounded
    · have tx := PassiveAck.transmits_sent present next
      rw [← op_] at tx
      refine searched op_ next (fun other given => ?_) ?_
      · rw [tx] at given
        cases given
        exact Ne.symm at_
      · obtain ⟨⟨env', rfl⟩, -⟩ := told_transmition op_
        obtain ⟨-, -, -, apart⟩ := sound.chosen sane next
        obtain ⟨slots, -⟩ := transmition_spec spill w.nwk present next bounded apart
        rw [execute, op_]
        exact (congrFun slots i).trans (Function.update_of_ne at_ _ _)
  | acked frame k n op_ ack slots =>
    have quiet : transmits w.nwk (told w op) = none := by
      rw [op_]
      rfl
    have first : n < 8 := inside n (PassiveAck.acknowledges_spec ack).1
    rw [setPassiveAck_inside spill _ k first, settled_modify] at slots
    by_cases at_ : i = k
    · subst at_
      have some_ := unheard (i, n) ack queued
      rw [AllAcked, Bool.not_eq_true] at some_
      have slot : (execute spill w op).nwk.brrt.slots i = _ := congrFun slots i
      rw [Function.update_self, modify_ent, told_indication op_] at slot
      have counted : ackedByAll w.nwk { (w.nwk.brrt.slots i).ent with
          passiveAck := (w.nwk.brrt.slots i).ent.passiveAck ||| 1 <<< n.toUInt8 }
          (magicBitcount8 ((w.nwk.brrt.slots i).ent.passiveAck ||| 1 <<< n.toUInt8))
          (getPassiveAckDevNum w.around.neighbors) = false := some_
      rw [counted] at slot
      refine fate_unsent queued fit (unsent_of_quiet quiet i) ?_ ?_
      · rw [slot, queued.1]
        rfl
      · rw [slot]
        exact ⟨fit.entry.marked _, fit.spent⟩
    · exact same (unsent_of_quiet quiet i)
        ((congrFun slots i).trans (Function.update_of_ne at_ _ _))

/-- A packet that is queued has its history before it. -/
theorem Fit.filled {nwhdr : NwkHdr} {hops : Hops}
    (retries : ent.retries = 0) (next : ent.neighborTableIterator = hops.nextZeChild)
    (srcAddr : ent.srcAddr = nwhdr.srcAddr) (dstAddr : ent.dstAddr = nwhdr.dstAddr)
    (all : ent.dstAddr = nwkBroadcastAllDevices) (single : Single a nwhdr.srcAddr)
    (children : hops.nextZeChild = neighborNextZeChildrenI a.neighbors nwhdr.dstAddr 0) :
    Fit a ent 0 fun _ => 0 := by
  rw [← dstAddr, all] at children
  rw [children] at next
  refine ⟨⟨all, srcAddr ▸ single, ?_, ?_, fun _ _ _ _ _ => rfl, retries, Nat.zero_le _⟩, nofun⟩
  · intro m found
    rw [next] at found
    exact (nextZeChildren_some found).2.1
  · intro n child before
    cases found : ent.neighborTableIterator with
    | none =>
      rw [found] at next
      exact absurd child (nextZeChildren_none next.symm n (Nat.zero_le n))
    | some m =>
      have below := before m found
      rw [found] at next
      exact absurd child ((nextZeChildren_some next.symm).2.2 n (Nat.zero_le n) below)

/-- A packet that is filled in is forwarded, and no entry has it. -/
theorem filled_unheld (sane : Sane w op) {param : BufRef} {handle : UInt8} {nwhdr : NwkHdr}
    {hops : Hops} (op_ : told w op = .forward param handle nwhdr hops) : ¬ Held w.nwk param := by
  obtain ⟨⟨hops', rfl⟩, -⟩ := told_forward op_
  exact sane.1

theorem filled_single (sane : Sane w op) {param : BufRef} {handle : UInt8} {nwhdr : NwkHdr}
    {hops : Hops} (op_ : told w op = .forward param handle nwhdr hops)
    (all : nwhdr.dstAddr = nwkBroadcastAllDevices) : Single w.around nwhdr.srcAddr := by
  obtain ⟨⟨hops', rfl⟩, -⟩ := told_forward op_
  exact sane.2 all

/-- A filled entry has no history. -/
theorem execute_filled (free : (w.nwk.brrt.slots i).used = false)
    (used : ((execute spill w op).nwk.brrt.slots i).used = true) :
    (execute spill w op).sent i = 0 ∧ (execute spill w op).copies i = fun _ => 0 := by
  have filled : fresh w.nwk (exec spill w.nwk (told w op)).1 i = true := by
    rw [fresh, free, Bool.not_false, Bool.true_and]
    exact used
  exact ⟨if_pos filled, if_pos filled⟩

theorem Sound.execute (sound : Sound w) (regular : Regular w (.nwk op)) :
    Sound (execute spill w op) := by
  have sane := regular.1
  have came (i : ℕ) (used : ((BroadcastCopies.execute spill w op).nwk.brrt.slots i).used = true) :
      Came w.nwk (BroadcastCopies.execute spill w op).nwk (told w op) i := sound.came regular used
  refine ⟨fun i used => ?_, fun i j usedI usedJ same => ?_, fun i queued => ?_, fun i queued => ?_,
    fun i queued => ?_⟩
  · cases came i used with
    | kept before _ _ _ => exact sound.inside i before
    | filled _ inside _ _ _ => exact inside
  · cases came i usedI with
    | kept beforeI bufI _ _ =>
      rw [bufI] at same
      cases came j usedJ with
      | kept beforeJ bufJ _ _ =>
        rw [bufJ] at same
        exact sound.distinct i j beforeI beforeJ same
      | filled _ _ _ _ forwards =>
        obtain ⟨param, handle, nwhdr, hops, op_, -, buf, -⟩ := forwards
        rw [buf] at same
        exact absurd (same ▸ sound.held beforeI) (filled_unheld sane op_)
    | filled freeI _ only _ forwards =>
      obtain ⟨param, handle, nwhdr, hops, op_, -, bufI, -⟩ := forwards
      rw [bufI] at same
      cases came j usedJ with
      | kept beforeJ bufJ _ _ =>
        rw [bufJ] at same
        exact absurd (same ▸ sound.held beforeJ) (filled_unheld sane op_)
      | filled freeJ _ _ _ _ =>
        by_contra other
        rw [only j (Ne.symm other), freeJ] at usedJ
        cases usedJ
  · change srcAfter w.src (told w op) _ = _
    cases came i queued.1 with
    | kept before buf srcAddr dstAddr =>
      rw [buf, srcAddr, srcAfter_held sane (sound.held before)]
      exact sound.origin i ⟨before, dstAddr ▸ queued.2⟩
    | filled _ _ _ _ forwards =>
      obtain ⟨param, handle, nwhdr, hops, op_, -, buf, srcAddr, -⟩ := forwards
      rw [op_, srcAfter, buf, srcAddr, Function.update_self]
  · cases came i queued.1 with
    | kept before buf srcAddr dstAddr =>
      have kept : (BroadcastCopies.execute spill w op).nwk.reqParams _ = _ :=
        sound.reqParams sane regular.2.1 before queued.1
      rw [buf, kept]
      exact sound.params i ⟨before, dstAddr ▸ queued.2⟩
    | filled free _ _ _ forwards =>
      obtain ⟨param, handle, nwhdr, hops, op_, -, buf, -⟩ := forwards
      have executed : (BroadcastCopies.execute spill w op).nwk =
          (forward w.nwk param handle nwhdr hops).1 := by
        rw [BroadcastCopies.execute, op_]
        rfl
      rw [buf, executed]
      refine forward_queued w.nwk (fun same => ?_) _
      have used := queued.1
      rw [executed, same, free] at used
      cases used
  · cases came i queued.1 with
    | kept before buf srcAddr dstAddr =>
      exact (sound.fate regular ⟨before, dstAddr ▸ queued.2⟩).fit queued.1
    | filled free _ _ retries forwards =>
      obtain ⟨param, handle, nwhdr, hops, op_, next, buf, srcAddr, dstAddr⟩ := forwards
      obtain ⟨sent, copies⟩ := execute_filled free queued.1
      rw [sent, copies]
      exact Fit.filled retries next srcAddr dstAddr queued.2
        (filled_single sane op_ (dstAddr ▸ queued.2)) (told_forward op_).2

theorem Sound.step {event : Event} (sound : Sound w) (regular : Regular w event) :
    Sound (step spill w event) := by
  cases event with
  | nwk op => exact sound.execute regular
  | neighbors around =>
    have none_ : ∀ i, ¬ Queued w.nwk i := fun i queued =>
      regular i (sound.inside i queued.1) queued
    exact ⟨sound.inside, sound.distinct, sound.origin, sound.params,
      fun i queued => absurd queued (none_ i)⟩

/-- **Every sleeping child gets one copy**: along every run in which marks are of the first eight
neighbours and no broadcast to all devices is given up for its acknowledgements, such a broadcast
is served. -/
theorem copied_once (spill : Spill) (device : Device) (around : Around) (events : List Event)
    (regular : Along (step spill) Regular (World.init device around) events) :
    Along (step spill) (AllServed spill) (World.init device around) events := by
  refine along_of_invariant (fun _ _ sound regular => Sound.step sound regular)
    (fun w event sound regular => ?_) (World.init device around) events
    (Sound.init device around) regular
  cases event with
  | nwk op => exact fun i queued => (Sound.fate sound regular queued).served
  | neighbors around => trivial

/-- Two routers nearby, and a child that sleeps. -/
def withSleeper : Around where
  neighbors :=
    { NeighborTbl.init with
      baseNeighbor := fun n => { NeighborTblEnt.zero with
        addrRef := n
        used := n < 3
        deviceType := if n = 2 then .ed else .router
        relationship := if n = 2 then .child else .sibling
        rxOnWhenIdle := n ≠ 2 }
      baseNeighborUsed := 3 }
  shortAddr n := 0x100 + n.toUInt16

/-- The broadcasts that are queued are sent at some time. -/
def transmittedAt (param : BufRef) (now : UInt16) : Op :=
  .broadcastTransmition param ⟨now, fun _ => 0, fun _ => 0, fun _ _ => none, 0⟩

/-- A broadcast of this device goes out, is copied for the child, and goes out again. -/
def quietRun : List Event :=
  [.nwk (sendBroadcast 1 7), .nwk (transmittedAt 2 0), .nwk (transmittedAt 3 0),
    .nwk (transmittedAt 4 20)]

theorem copied_once_quiet :
    Along (step fun t _ _ => t) (AllServed fun t _ _ => t)
      (World.init router withSleeper) quietRun :=
  copied_once (fun t _ _ => t) router withSleeper quietRun (by decide +kernel)

/-- Both routers are heard relaying it before the child is sent its copy. -/
def relayedRun : List Event :=
  [.nwk (sendBroadcast 1 7), .nwk (transmittedAt 2 0),
    .nwk (PassiveAck.copyFrom 3 0x1234 0), .nwk (PassiveAck.copyFrom 4 0x1234 1)]

/-- The entry is given up, and the child has no copy. -/
theorem sleeper_missed :
    ¬ Along (step fun t _ _ => t) (AllServed fun t _ _ => t)
      (World.init router withSleeper) relayedRun := by
  rintro ⟨_, _, _, fourth, _⟩
  have served := fourth 0 (by decide +kernel)
  have copies := (served.released (by decide +kernel)).2.1 2 (by decide +kernel)
  exact absurd copies (by decide +kernel)

end Zboss.BroadcastCopies
