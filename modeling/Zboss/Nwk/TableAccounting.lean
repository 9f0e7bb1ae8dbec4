import Zboss.Nwk.Forwarding

/-!
The account of the dynamic tables.  Every callback takes and gives back slots through
the macros, so the counts stay right, except where a device leaves: the counts of
both broadcast tables are reset while their entries stay in use.  A leave with both
tables empty, and acknowledgements from neighbours that the vector has room for, keep
every count.
-/

namespace Zboss.DynamicTables

open Zboss.SlotTable Zboss.SlotTable.Table Zboss.Run
open Zboss.FrameHeaders (nwkIsAddressBroadcast)

/-- Every count is the number of used entries of its table. -/
structure Accounts (s : Nwk) : Prop where
  btt : s.btt.Accounted
  brrt : s.brrt.Accounted
  waitAlloc : s.waitAlloc.Accounted
  routing : s.routing.Accounted
  routeDisc : s.routeDisc.Accounted
  pending : s.pending.Accounted

/-- Where a count is below the size of its table, a slot is found. -/
structure Room (s : Nwk) : Prop where
  btt : s.btt.cnt.toNat < nwkBtrTableSize → s.btt.getEnt.isSome
  brrt : s.brrt.cnt.toNat < nwkBrrTableSize → s.brrt.getEnt.isSome
  waitAlloc : s.waitAlloc.cnt.toNat < nwkWaitAllocTableSize → s.waitAlloc.getEnt.isSome
  routing : s.routing.cnt.toNat < nwkRoutingTableSize → s.routing.getEnt.isSome
  routeDisc : s.routeDisc.cnt.toNat < nwkRouteDiscoveryTableSize → s.routeDisc.getEnt.isSome
  pending : s.pending.cnt.toNat < nwkPendingTableSize → s.pending.getEnt.isSome

theorem Accounts.room {s : Nwk} (accounts : Accounts s) : Room s where
  btt := accounts.btt.getEnt_isSome
  brrt := accounts.brrt.getEnt_isSome
  waitAlloc := accounts.waitAlloc.getEnt_isSome
  routing := accounts.routing.getEnt_isSome
  routeDisc := accounts.routeDisc.getEnt_isSome
  pending := accounts.pending.getEnt_isSome

/-- The neighbour whose passive acknowledgement an operation marks. -/
def marked (s : Nwk) : Op → Option ℕ
  | .broadcastTransmition param env =>
    if param = 0 then none else (nextTransmission s env).2.bind (·.2)
  | .mcpsDataIndication frame =>
    if !badFrame frame && nwkIsAddressBroadcast frame.dstAddr &&
        broadcastForUs s.device frame.dstAddr then
      (passiveAcker s frame).map (·.2)
    else none
  | _ => none

/-- The operation is a leave. -/
def isLeave : Op → Bool
  | .leave => true
  | _ => false

/-- The device leaves with no broadcast on record and none to be sent again, and
acknowledgements are marked for the first eight neighbours. -/
def Orderly (s : Nwk) (op : Op) : Prop :=
  (isLeave op = true → s.btt.usedCnt = 0 ∧ s.brrt.usedCnt = 0) ∧ ∀ n ∈ marked s op, n < 8

instance (s : Nwk) (op : Op) : Decidable (Orderly s op) :=
  have : Decidable (∀ n ∈ marked s op, n < 8) := Option.decidableForallMem _
  inferInstanceAs (Decidable (_ ∧ _))

/-- The accounts, and the buffers that wait for a copy as a stack: the last one in is
given back first.  The transaction table of broadcasts is accounted for where `watched`;
no other account rests on it. -/
structure Consistent (watched : Prop) (s : Nwk) : Prop where
  btt : watched → s.btt.Accounted
  brrt : s.brrt.Accounted
  waitAlloc : s.waitAlloc.Stacked
  routing : s.routing.Accounted
  routeDisc : s.routeDisc.Accounted
  pending : s.pending.Accounted

theorem Consistent.accounts {s : Nwk} (kept : Consistent True s) : Accounts s :=
  { kept with btt := kept.btt trivial, waitAlloc := kept.waitAlloc.accounted }

theorem consistent_init (watched : Prop) (device : Device) :
    Consistent watched (Nwk.init device) where
  btt _ := (stacked_cleared _).accounted
  brrt := (stacked_cleared _).accounted
  waitAlloc := stacked_cleared _
  routing := (stacked_cleared _).accounted
  routeDisc := (stacked_cleared _).accounted
  pending := (stacked_cleared _).accounted

variable {watched : Prop} {s : Nwk}

/-! ### Mesh routing -/

theorem rreqRouting_consistent (kept : Consistent watched s) {destAddr : UInt16} {r : ℕ} {s' : Nwk}
    (found : rreqRouting s destAddr = some (r, s')) :
    Consistent watched s' ∧ r < nwkRoutingTableSize ∧ (s'.routing.slots r).used = true := by
  simp only [rreqRouting] at found
  split at found
  · rename_i q known
    obtain ⟨inside, used, -⟩ := findEnt_spec known
    obtain ⟨rfl, rfl⟩ := Prod.mk.inj (Option.some.inj found)
    exact ⟨{ kept with routing := kept.routing.modify _ }, inside, by simpa using used⟩
  · obtain ⟨⟨q, routing⟩, got, same⟩ := Option.map_eq_some_iff.mp found
    obtain ⟨rfl, rfl⟩ := Prod.mk.inj same
    obtain ⟨inside, -, rfl, -⟩ := getEnt_spec got
    have account := kept.routing.getEnt (by decide) got
    exact ⟨{ kept with routing := account.modify _ }, inside, by simp⟩

theorem rreqDiscovery_consistent (kept : Consistent watched s) {rreq : RouteRequest} {pathCost : UInt8}
    {s' : Nwk} (processed : rreqDiscovery s rreq pathCost = .process s') : Consistent watched s' := by
  simp only [rreqDiscovery] at processed
  split at processed
  · split at processed
    · cases processed
      exact { kept with routeDisc := kept.routeDisc.modify _ }
    · cases processed
  · split at processed
    · rename_i got
      cases processed
      exact { kept with routeDisc := (kept.routeDisc.getEnt (by decide) got).modify _ }
    · cases processed

theorem meshRreqHandler_consistent (kept : Consistent watched s) (rreq : RouteRequest) :
    Consistent watched (meshRreqHandler s rreq).1 := by
  simp only [meshRreqHandler]
  split
  · exact kept
  · rename_i r s' found
    obtain ⟨routed, inside, used⟩ := rreqRouting_consistent kept found
    split
    · exact routed
    · exact { routed with routing := routed.routing.putEnt inside used }
    · rename_i processed
      exact rreqDiscovery_consistent routed processed

theorem meshRouteDiscovery_consistent (kept : Consistent watched s) (cbuf : BufRef)
    (destAddr : UInt16) : Consistent watched (meshRouteDiscovery s cbuf destAddr).1 := by
  apply meshRreqHandler_consistent
  exact { kept with }

theorem meshInitiateRouteDiscovery_consistent (kept : Consistent watched s) (cbuf : BufRef)
    (dst : BufRef → UInt16) : Consistent watched (meshInitiateRouteDiscovery s cbuf dst).1 := by
  simp only [meshInitiateRouteDiscovery]
  split
  · have discovered := meshRouteDiscovery_consistent kept cbuf
    exact { discovered _ with pending := (discovered _).pending.modify _ }
  · exact kept

theorem nlmeRouteDiscoveryRequest_consistent (kept : Consistent watched s) (buf : BufRef)
    (unicast noAddr : Bool) (networkAddr : UInt16) (neighbor : Bool) :
    Consistent watched (nlmeRouteDiscoveryRequest s buf unicast noAddr networkAddr neighbor).1 := by
  have asked : Consistent watched { s with apsRreqAddr := networkAddr } := { kept with }
  simp only [nlmeRouteDiscoveryRequest]
  split_ifs
  all_goals first
    | exact kept
    | exact meshRouteDiscovery_consistent asked buf networkAddr

theorem releasePending_accounted (dest : UInt16) :
    ∀ (slots : List ℕ) (t : Table NwkPend nwkPendingTableSize), t.Accounted →
      (∀ i ∈ slots, i < nwkPendingTableSize) → (releasePending dest slots t).1.Accounted := by
  intro slots
  induction slots with
  | nil => exact fun t account _ => account
  | cons i rest induction_ =>
    intro t account inside
    obtain ⟨first, others⟩ := List.forall_mem_cons.mp inside
    simp only [releasePending]
    split
    · rename_i waiting
      simp only [Bool.and_eq_true] at waiting
      exact induction_ _ (account.putEnt first waiting.1) others
    · exact induction_ _ account others

/-- The packets released are forwarded, and that is all. -/
theorem releasePending_calls (dest : UInt16) :
    ∀ (slots : List ℕ) (t : Table NwkPend nwkPendingTableSize),
      ∀ call ∈ (releasePending dest slots t).2, ∃ buf handle, call = .forward buf handle := by
  intro slots
  induction slots with
  | nil =>
    intro t
    simp [releasePending]
  | cons i rest induction_ =>
    intro t
    rw [releasePending]
    split
    · rintro call member
      rcases List.mem_cons.mp member with rfl | later
      · exact ⟨_, _, rfl⟩
      · exact induction_ _ call later
    · exact induction_ _

/-- What the packets that wait for `dest` leave behind. -/
theorem releasePending_slots (dest : UInt16) :
    ∀ (slots : List ℕ) (t : Table NwkPend nwkPendingTableSize) (j : ℕ),
      (releasePending dest slots t).1.slots j =
        if j ∈ slots ∧ (t.slots j).used = true ∧ (t.slots j).ent.destAddr = dest then
          { t.slots j with used := false }
        else t.slots j := by
  intro slots
  induction slots with
  | nil =>
    intro t j
    simp [releasePending]
  | cons i rest induction_ =>
    intro t j
    rw [releasePending]
    split
    · rename_i waits
      simp only [Bool.and_eq_true, beq_iff_eq] at waits
      rw [induction_]
      by_cases here : j = i
      · subst here
        simp [putEnt, mark, waits]
      · simp [putEnt, mark, here]
    · rename_i stays
      simp only [Bool.and_eq_true, beq_iff_eq] at stays
      rw [induction_]
      by_cases here : j = i
      · subst here
        simp [stays]
      · simp [here]

theorem meshRrepHandler_consistent (kept : Consistent watched s) (rrep : RouteReply) :
    Consistent watched (meshRrepHandler s rrep).1 := by
  simp only [meshRrepHandler]
  split
  · exact kept
  · rename_i disc _
    obtain ⟨inside, used, -⟩ := findEnt_spec disc
    exact { kept with routeDisc := kept.routeDisc.putEnt inside used }
  · rename_i _ route
    obtain ⟨inside, used, -⟩ := findEnt_spec route
    exact { kept with routing := kept.routing.putEnt inside used }
  · have released := releasePending_accounted rrep.responder (List.range nwkPendingTableSize)
      s.pending kept.pending fun i member => List.mem_range.mp member
    split_ifs
    · exact kept
    · exact { kept with
        routeDisc := kept.routeDisc.modify _
        routing := kept.routing.modify _
        pending := released }
    · exact { kept with
        routeDisc := kept.routeDisc.modify _
        routing := kept.routing.modify _
        pending := released }
    · exact { kept with
        routeDisc := kept.routeDisc.modify _
        routing := kept.routing.modify _ }

theorem expireRouteDisc_consistent :
    ∀ (slots : List ℕ) (s : Nwk), Consistent watched s →
      (∀ i ∈ slots, i < nwkRouteDiscoveryTableSize) →
        Consistent watched (expireRouteDisc slots s).1 := by
  intro slots
  induction slots with
  | nil => exact fun s kept _ => kept
  | cons i rest induction_ =>
    intro s kept inside
    obtain ⟨first, others⟩ := List.forall_mem_cons.mp inside
    simp only [expireRouteDisc]
    split
    · rename_i used
      have given := kept.routeDisc.putEnt first used
      split
      · exact induction_ _ { kept with routeDisc := kept.routeDisc.modify _ } others
      · split
        · exact induction_ _ { kept with routeDisc := given } others
        · rename_i route
          obtain ⟨routeInside, routeUsed, -⟩ := findSlot_spec route
          exact { kept with
            routeDisc := given
            routing := kept.routing.putEnt routeInside routeUsed }
    · exact induction_ _ kept others

theorem expirePending_accounted :
    ∀ (slots : List ℕ) (t : Table NwkPend nwkPendingTableSize), t.Accounted →
      (∀ i ∈ slots, i < nwkPendingTableSize) → (expirePending slots t).1.Accounted := by
  intro slots
  induction slots with
  | nil => exact fun t account _ => account
  | cons i rest induction_ =>
    intro t account inside
    obtain ⟨first, others⟩ := List.forall_mem_cons.mp inside
    simp only [expirePending]
    split
    · rename_i used
      split
      · exact induction_ _ (account.putEnt first used) others
      · exact induction_ _ (account.modify _) others
    · exact induction_ _ account others

/-! ### Forwarding -/

/-- The packets that are given up are freed, and that is all. -/
theorem expirePending_calls :
    ∀ (slots : List ℕ) (t : Table NwkPend nwkPendingTableSize),
      ∀ call ∈ (expirePending slots t).2, ∃ buf, call = .freeBuf buf := by
  intro slots
  induction slots with
  | nil =>
    intro t
    simp [expirePending]
  | cons i rest induction_ =>
    intro t
    rw [expirePending]
    split
    · split
      · rintro call member
        rcases List.mem_cons.mp member with rfl | later
        · exact ⟨_, rfl⟩
        · exact induction_ _ call later
      · exact induction_ _
    · exact induction_ _

theorem park_consistent (kept : Consistent watched s) (nsdu : BufRef) (handle : UInt8) (dst : UInt16)
    (discover : Bool) : Consistent watched (park s nsdu handle dst discover).1 := by
  simp only [park]
  split
  · rename_i s' parked
    obtain ⟨⟨p, pending⟩, got, rfl⟩ := Option.map_eq_some_iff.mp parked
    exact { kept with pending := (kept.pending.getEnt (by decide) got).modify _ }
  · exact kept

theorem calcDestination_consistent (kept : Consistent watched s) (nsdu : BufRef) (handle : UInt8)
    (nwhdr : NwkHdr) (hops : Hops) :
    Consistent watched (calcDestination s nsdu handle nwhdr hops).1 := by
  simp only [calcDestination]
  split
  · exact kept
  split
  · exact kept
  split
  · exact kept
  split
  · split
    · exact park_consistent kept _ _ _ _
    · split
      · exact { kept with routing := kept.routing.modify _ }
      split
      · exact park_consistent kept _ _ _ _
      · exact kept
  · exact kept

theorem noteBroadcast_accounted {btt btt' : Table NwkBtr nwkBtrTableSize}
    (account : btt.Accounted) {srcAddr : UInt16} {seqNum : UInt8}
    (noted : noteBroadcast btt srcAddr seqNum = some btt') : btt'.Accounted := by
  obtain ⟨⟨i, taken⟩, got, rfl⟩ := Option.map_eq_some_iff.mp noted
  exact (account.getEnt (by decide) got).modify _

theorem sendTo_consistent (kept : Consistent watched s) (param : BufRef) (handle : UInt8)
    (nwhdr : NwkHdr) (hops : Hops) (macDst : UInt16) (indirect : Bool) :
    Consistent watched (sendTo s param handle nwhdr hops macDst indirect).1 := by
  simp only [sendTo]
  split
  · exact kept
  · rename_i btt noted
    have account : watched → btt.Accounted := by
      intro watch
      split at noted
      · exact noteBroadcast_accounted (kept.btt watch) noted
      · cases noted
        exact kept.btt watch
    split
    · split
      · split
        · rename_i got
          exact { kept with
            btt := account
            brrt := (kept.brrt.getEnt (by decide) got).modify _ }
        · exact { kept with btt := account }
      · exact { kept with btt := account }
    · exact { kept with btt := account }

theorem forward_consistent (kept : Consistent watched s) (param : BufRef) (handle : UInt8)
    (nwhdr : NwkHdr) (hops : Hops) : Consistent watched (forward s param handle nwhdr hops).1 := by
  have routed := calcDestination_consistent kept param handle nwhdr hops
  simp only [forward]
  split
  · rename_i hop
    rw [hop] at routed
    exact sendTo_consistent routed _ _ _ _ _ _
  · rename_i busy
    rwa [busy] at routed
  · rename_i failed
    rwa [failed] at routed

/-! ### Broadcasts -/

theorem setPassiveAck_inside (spill : Spill) (brrt : RetransmitTable) (i : ℕ) {n : ℕ}
    (inside : n < 8) : setPassiveAck spill brrt i n =
      brrt.modify i fun ent => { ent with passiveAck := ent.passiveAck ||| 1 <<< n.toUInt8 } :=
  if_pos inside

/-- The search leaves counts and marks alone, and what it finds is in use. -/
theorem seekUnicast_spec (env : Surroundings) :
    ∀ (slots : List ℕ) (t : RetransmitTable), t.Accounted →
      (∀ i ∈ slots, i < nwkBrrTableSize) →
      (seekUnicast env slots t).1.Accounted ∧
        ∀ i n, (seekUnicast env slots t).2 = some (i, n) →
          i < nwkBrrTableSize ∧ ((seekUnicast env slots t).1.slots i).used = true := by
  intro slots
  induction slots with
  | nil =>
    intro t account _
    exact ⟨account, by simp [seekUnicast]⟩
  | cons i rest induction_ =>
    intro t account inside
    obtain ⟨first, others⟩ := List.forall_mem_cons.mp inside
    simp only [seekUnicast]
    split
    · rename_i n used _
      split
      · exact induction_ _ (account.modify _) others
      · refine ⟨account, ?_⟩
        rintro j m found
        obtain ⟨rfl, rfl⟩ := Prod.mk.inj (Option.some.inj found)
        exact ⟨first, used⟩
    · exact induction_ _ account others

theorem nextTransmission_spec (account : s.brrt.Accounted) (env : Surroundings) :
    (nextTransmission s env).1.Accounted ∧
      ∀ i child, (nextTransmission s env).2 = some (i, child) →
        i < nwkBrrTableSize ∧ ((nextTransmission s env).1.slots i).used = true := by
  have sought := seekUnicast_spec env (List.range nwkBrrTableSize) s.brrt account
    fun i member => List.mem_range.mp member
  simp only [nextTransmission]
  split
  · rename_i i fresh
    obtain ⟨inside, used, -⟩ := findEnt_spec fresh
    refine ⟨account, ?_⟩
    rintro j child found
    obtain ⟨rfl, rfl⟩ := Prod.mk.inj (Option.some.inj found)
    exact ⟨inside, used⟩
  · split
    · rename_i brrt i n unicast
      rw [unicast] at sought
      refine ⟨sought.1, ?_⟩
      rintro j child found
      obtain ⟨rfl, rfl⟩ := Prod.mk.inj (Option.some.inj found)
      exact sought.2 i n rfl
    · rename_i brrt none_
      rw [none_] at sought
      refine ⟨sought.1, ?_⟩
      rintro j child found
      obtain ⟨k, due, same⟩ := Option.map_eq_some_iff.mp found
      obtain ⟨rfl, rfl⟩ := Prod.mk.inj same
      obtain ⟨inside, used, -⟩ := findEnt_spec due
      exact ⟨inside, used⟩

/-- Inside the vector, noting a transmission rewrites one entry. -/
theorem noteTransmission_spec {brrt : RetransmitTable} (account : brrt.Accounted)
    (spill : Spill) (env : Surroundings) (i : ℕ) {child : Option ℕ}
    (inside : ∀ n ∈ child, n < 8) :
    (noteTransmission spill env brrt i child).Accounted ∧
      ∀ j, ((noteTransmission spill env brrt i child).slots j).used = (brrt.slots j).used := by
  cases child with
  | none => exact ⟨account.modify _, by simp [noteTransmission]⟩
  | some n =>
    simp only [noteTransmission, setPassiveAck_inside spill brrt i (inside n rfl)]
    exact ⟨(account.modify _).modify _, by simp⟩

theorem transmit_consistent (kept : Consistent watched s) {brrt : RetransmitTable}
    (account : brrt.Accounted) {i : ℕ} (inside : i < nwkBrrTableSize)
    (used : (brrt.slots i).used = true) (child : Option ℕ) (param : BufRef)
    (env : Surroundings) : Consistent watched (transmit s brrt i child param env).1 := by
  simp only [transmit]
  split
  · exact { kept with brrt := account.putEnt inside used }
  · exact { kept with brrt := account }

theorem broadcastTransmition_consistent (kept : Consistent watched s) (spill : Spill) (param : BufRef)
    (env : Surroundings)
    (inside : ∀ n ∈ marked s (.broadcastTransmition param env), n < 8) :
    Consistent watched (broadcastTransmition spill s param env).1 := by
  have next := nextTransmission_spec kept.brrt env
  simp only [broadcastTransmition]
  split
  · rename_i none_
    rw [none_] at next
    exact { kept with brrt := next.1 }
  · rename_i brrt i child chosen
    rw [chosen] at next
    obtain ⟨within, used⟩ := next.2 i child rfl
    split
    · exact { kept with brrt := next.1 }
    · rename_i present
      have bounded : ∀ n ∈ child, n < 8 := by
        simpa [marked, present, chosen] using inside
      obtain ⟨account, marks⟩ := noteTransmission_spec next.1 spill env i bounded
      apply transmit_consistent kept account within
      rw [marks]
      exact used

theorem passiveAcker_spec {frame : RxFrame} {i n : ℕ} (acked : passiveAcker s frame = some (i, n)) :
    i < nwkBrrTableSize ∧ (s.brrt.slots i).used = true := by
  simp only [passiveAcker] at acked
  split at acked
  · cases acked
  · split at acked
    · rename_i found _
      obtain ⟨rfl, rfl⟩ := Prod.mk.inj (Option.some.inj acked)
      obtain ⟨inside, used, -⟩ := findEnt_spec found
      exact ⟨inside, used⟩
    · cases acked

theorem passiveAcked_consistent (kept : Consistent watched s) (spill : Spill) {i n : ℕ}
    (within : i < nwkBrrTableSize) (used : (s.brrt.slots i).used = true) (inside : n < 8)
    (passiveAckDevNum : ℕ) : Consistent watched (passiveAcked spill s i n passiveAckDevNum).1 := by
  have account := kept.brrt.modify (i := i) fun ent : NwkBroadcastRetransmit =>
    { ent with passiveAck := ent.passiveAck ||| 1 <<< n.toUInt8 }
  simp only [passiveAcked, setPassiveAck_inside spill s.brrt i inside]
  split
  · exact { kept with brrt := account.putEnt within (by simpa using used) }
  · exact { kept with brrt := account }

theorem deliver_consistent (kept : Consistent watched s) (frame : RxFrame) :
    Consistent watched (deliver s frame).1 := by
  simp only [deliver]
  split
  · exact kept
  · split
    · split
      · rename_i got
        exact { kept with waitAlloc := (kept.waitAlloc.getEnt (by decide) got).modify _ }
      · exact kept
    all_goals exact kept

theorem receiveBroadcast_consistent (kept : Consistent watched s) (frame : RxFrame) :
    Consistent watched (receiveBroadcast s frame).1 := by
  simp only [receiveBroadcast]
  split
  · exact kept
  · split
    · exact kept
    · rename_i noted
      apply deliver_consistent
      exact { kept with btt := fun watch => noteBroadcast_accounted (kept.btt watch) noted }

theorem mcpsDataIndication_consistent (kept : Consistent watched s) (spill : Spill) (frame : RxFrame)
    (inside : ∀ n ∈ marked s (.mcpsDataIndication frame), n < 8) :
    Consistent watched (mcpsDataIndication spill s frame).1 := by
  simp only [mcpsDataIndication]
  split
  · exact kept
  rename_i good
  split
  · rename_i broadcast
    split
    · rename_i ours
      apply receiveBroadcast_consistent
      simp only [notePassiveAck]
      split
      · rename_i i n acker
        obtain ⟨within, used⟩ := passiveAcker_spec acker
        have bounded : n < 8 := by
          apply inside
          simp [marked, good, broadcast, ours, acker]
        exact passiveAcked_consistent kept spill within used bounded _
      · exact kept
    · exact kept
  · exact deliver_consistent kept frame

theorem newBufferAllocated_consistent (kept : Consistent watched s) (param : BufRef) :
    Consistent watched (newBufferAllocated s param).1 := by
  simp only [newBufferAllocated]
  split
  · rename_i waiting
    exact { kept with waitAlloc := kept.waitAlloc.putEnt waiting.2 }
  · exact kept

theorem btrTick_accounted {btt : Table NwkBtr nwkBtrTableSize} (account : btt.Accounted) {i : ℕ}
    (inside : i < nwkBtrTableSize) : (btrTick btt i).Accounted := by
  simp only [btrTick]
  split
  · rename_i used
    split
    · exact account.modify _
    · exact account.putEnt inside used
  · exact account

theorem btrExpiry_consistent (kept : Consistent watched s) : Consistent watched (btrExpiry s) := by
  simp only [btrExpiry]
  split
  · refine { kept with btt := fun watch => ?_ }
    apply List.foldlRecOn (motive := Table.Accounted) _ _ (kept.btt watch)
    intro btt account i member
    exact btrTick_accounted account (List.mem_range.mp member)
  · exact kept

/-! ### Leaving and reset -/

theorem accounted_zero_iff {α : Type*} {size : ℕ} {t : Table α size} :
    ({ t with cnt := 0 } : Table α size).Accounted ↔ t.usedCnt = 0 := by
  simp only [Accounted, UInt8.toNat_zero]
  exact eq_comm

/-- Leaving keeps the accounts exactly when both broadcast tables are empty. -/
theorem doLeave_consistent_iff (kept : Consistent watched s) :
    Consistent watched (doLeave s) ↔ (watched → s.btt.usedCnt = 0) ∧ s.brrt.usedCnt = 0 := by
  constructor
  · intro left
    exact ⟨fun watch => accounted_zero_iff.mp (left.btt watch), accounted_zero_iff.mp left.brrt⟩
  · rintro ⟨btt, brrt⟩
    exact { kept with
      btt := fun watch => accounted_zero_iff.mpr (btt watch)
      brrt := accounted_zero_iff.mpr brrt }

theorem nlmeResetRequest_consistent (kept : Consistent watched s) (warmStart : Bool) :
    Consistent watched (nlmeResetRequest s warmStart) := by
  simp only [nlmeResetRequest]
  split
  · split
    · exact { kept with routing := accounted_clear, routeDisc := accounted_clear }
    · exact { kept with }
  · exact kept

theorem mlmeResetConfirm_consistent (kept : Consistent watched s) :
    Consistent watched (mlmeResetConfirm s) :=
  { kept with
    btt := fun _ => (stacked_cleared _).accounted
    brrt := (stacked_cleared _).accounted
    waitAlloc := stacked_cleared _ }

/-! ### Runs -/

theorem step_consistent (spill : Spill) (op : Op) (kept : Consistent watched s)
    (empty : isLeave op = true → (watched → s.btt.usedCnt = 0) ∧ s.brrt.usedCnt = 0)
    (inside : ∀ n ∈ marked s op, n < 8) : Consistent watched (step spill s op) := by
  cases op with
  | configure device => exact { kept with }
  | nldeDataRequest nsdu nsduHandle => exact kept
  | mcpsDataConfirm param msduHandle success => exact kept
  | forward param handle nwhdr hops => exact forward_consistent kept param handle nwhdr hops
  | broadcastTransmition param env =>
    exact broadcastTransmition_consistent kept spill param env inside
  | mcpsDataIndication frame => exact mcpsDataIndication_consistent kept spill frame inside
  | newBufferAllocated param => exact newBufferAllocated_consistent kept param
  | btrExpiry => exact btrExpiry_consistent kept
  | rreq rreq => exact meshRreqHandler_consistent kept rreq
  | rrep rrep => exact meshRrepHandler_consistent kept rrep
  | initiateRouteDiscovery cbuf dst => exact meshInitiateRouteDiscovery_consistent kept cbuf dst
  | nlmeRouteDiscoveryRequest buf unicast noAddr networkAddr neighbor =>
    exact nlmeRouteDiscoveryRequest_consistent kept buf unicast noAddr networkAddr neighbor
  | expiryRouteDisc =>
    simp only [step, exec, meshExpiryRouteDisc]
    split
    · exact expireRouteDisc_consistent _ s kept fun i member => List.mem_range.mp member
    · exact kept
  | expiryPending =>
    simp only [step, exec, meshExpiryPending]
    split
    · exact { kept with
        pending := expirePending_accounted _ _ kept.pending fun i member =>
          List.mem_range.mp member }
    · exact kept
  | leave => exact (doLeave_consistent_iff kept).mpr (empty rfl)
  | resetRequest warmStart => exact nlmeResetRequest_consistent kept warmStart
  | resetConfirm => exact mlmeResetConfirm_consistent kept

/-- **In every orderly run of the network layer, each count is the number of used entries
of its table**, so that an insertion finds a slot wherever the count shows room. -/
theorem tables_account (spill : Spill) (device : Device) (ops : List Op)
    (orderly : Along (step spill) Orderly (Nwk.init device) ops) :
    Accounts (run (step spill) (Nwk.init device) ops) ∧
      Room (run (step spill) (Nwk.init device) ops) := by
  have kept : Consistent True (run (step spill) (Nwk.init device) ops) := by
    apply invariant_of_along _ _ ops (consistent_init True device) orderly
    intro s op kept orderly
    apply step_consistent spill op kept _ orderly.2
    intro leave
    exact ⟨fun _ => (orderly.1 leave).1, (orderly.1 leave).2⟩
  exact ⟨kept.accounts, kept.accounts.room⟩

/-- A router, and the broadcast it sends under a number. -/
def router : Device := ⟨.router, true, false, true, .idle, 0x1234, false, false⟩

def sendBroadcast (param : BufRef) (seqNum : UInt8) : Op :=
  .forward param 0 ⟨0xFFFF, 0x1234, seqNum, false⟩ ⟨none, 0, none, fun _ => false, none⟩

/-- A broadcast is sent, acknowledged and forgotten before the router leaves. -/
def quietLeave : List Op :=
  [sendBroadcast 1 7,
    .broadcastTransmition 2 ⟨0, fun _ => 0, fun _ => 0, fun _ _ => none, 1⟩,
    .mcpsDataIndication ⟨3, 2, 0, 0xFFFF, 0x1234, 7, 0, false, true, some 3, 1⟩] ++
    List.replicate 10 .btrExpiry ++ [.leave, sendBroadcast 1 8]

theorem tables_account_quietLeave :
    Accounts (run (step fun t _ _ => t) (Nwk.init router) quietLeave) ∧
      Room (run (step fun t _ _ => t) (Nwk.init router) quietLeave) :=
  tables_account (fun t _ _ => t) router quietLeave (by decide +kernel)

/-- Eight broadcasts are still to be sent again when the router leaves. -/
def busyLeave : List Op := (List.range 8).map (fun n => sendBroadcast 1 n.toUInt8) ++ [.leave]

theorem leave_forgets_broadcasts :
    let s := run (step fun t _ _ => t) (Nwk.init router) busyLeave
    ¬ Accounts s ∧ s.brrt.cnt.toNat < nwkBrrTableSize ∧ s.brrt.getEnt.isNone = true ∧
      Call.nullEntry ∈ (exec (fun t _ _ => t) s (sendBroadcast 1 8)).2 := by
  refine ⟨?_, by decide +kernel, by decide +kernel, by decide +kernel⟩
  intro accounts
  exact absurd accounts.brrt (by decide +kernel)

end Zboss.DynamicTables
