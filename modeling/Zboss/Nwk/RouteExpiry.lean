import Zboss.Nwk.TableAccounting

/-!
One run of the timer of route discoveries.  The search for the route of an expired discovery
finds the first route that is not active and has the destination of the discovery entry in its
own place, whichever entry has expired; and the first route given up ends the run, with the
entries behind it as they were.
-/

namespace Zboss.DynamicTables

open Zboss.SlotTable Zboss.SlotTable.Table

/-- A discovery entry after the timer: a live one has one tick less, an expired one is free. -/
def ticked (slot : Slot NwkRouteDiscovery) : Slot NwkRouteDiscovery :=
  if slot.used then
    if slot.ent.expirationTime ≠ 0 then
      { slot with ent := { slot.ent with expirationTime := slot.ent.expirationTime - 1 } }
    else { slot with used := false }
  else slot

/-- A discovery entry that has expired. -/
def Expired (s : Nwk) (i : ℕ) : Prop :=
  i < nwkRouteDiscoveryTableSize ∧ (s.routeDisc.slots i).used = true ∧
    (s.routeDisc.slots i).ent.expirationTime = 0

/-- A route to the destination of an expired discovery that is not active. -/
def DeadRoute (s : Nwk) (j : ℕ) : Prop :=
  j < nwkRoutingTableSize ∧ (s.routing.slots j).used = true ∧
    (s.routing.slots j).ent.status ≠ .active ∧
      ∃ i, Expired s i ∧ (s.routeDisc.slots i).ent.destAddr = (s.routing.slots j).ent.destAddr

/-- What is expected of a run. -/
structure ExpiresDead (s : Nwk) : Prop where
  discoveries : ∀ i < nwkRouteDiscoveryTableSize,
    (meshExpiryRouteDisc s).1.routeDisc.slots i = ticked (s.routeDisc.slots i)
  freed : ∀ j < nwkRoutingTableSize, (s.routing.slots j).used = true →
    (((meshExpiryRouteDisc s).1.routing.slots j).used = false ↔ DeadRoute s j)
  others : ∀ j < nwkRoutingTableSize, (s.routing.slots j).used = false →
    ((meshExpiryRouteDisc s).1.routing.slots j).used = false
  entries : ∀ j < nwkRoutingTableSize,
    ((meshExpiryRouteDisc s).1.routing.slots j).ent = (s.routing.slots j).ent

/-- The route that the search finds, whichever discovery has expired. -/
def alignedRoute (s : Nwk) : Option ℕ :=
  s.routing.findSlot fun j ent =>
    ent.destAddr == (s.routeDisc.slots j).ent.destAddr && ent.status != .active

/-- The tables in which a run does what is expected: the count shows that there are discoveries;
where something has expired and the search finds a route, that is the one dead route, and no
discovery stands behind the expired one; and where it finds none, there is no dead route. -/
structure Aligned (s : Nwk) : Prop where
  counted : s.routeDisc.cnt = 0 →
    ∀ i < nwkRouteDiscoveryTableSize, (s.routeDisc.slots i).used = false
  own : ∀ i j, Expired s i → alignedRoute s = some j → ∀ k, DeadRoute s k ↔ k = j
  last : ∀ i j, Expired s i → alignedRoute s = some j →
    ∀ k < nwkRouteDiscoveryTableSize, i < k → (s.routeDisc.slots k).used = false
  none_ : alignedRoute s = none → ∀ k, ¬ DeadRoute s k

/-! ## The loop -/

/-- The discoveries with those of `slots` after the timer. -/
def tickedAt (slots : List ℕ) (s : Nwk) (i : ℕ) : Slot NwkRouteDiscovery :=
  if i ∈ slots then ticked (s.routeDisc.slots i) else s.routeDisc.slots i

/-- A turn that ticks entry `i` and does not end the loop. -/
theorem tickedAt_cons {s s' : Nwk} {i : ℕ} {rest : List ℕ} (apart : i ∉ rest)
    (first : s'.routeDisc.slots i = ticked (s.routeDisc.slots i))
    (others : ∀ k, k ≠ i → s'.routeDisc.slots k = s.routeDisc.slots k) (k : ℕ) :
    tickedAt rest s' k = tickedAt (i :: rest) s k := by
  rw [tickedAt, tickedAt]
  by_cases same : k = i
  · subst same
    rw [if_neg apart, if_pos List.mem_cons_self, first]
  · rw [others k same]
    exact if_congr (by simp [same]) rfl rfl

/-- What the loop leaves: without a route to be found all of `slots` are done, else those up to
the first that has expired. -/
structure LoopLeaves (slots : List ℕ) (s s' : Nwk) (failed : Bool) : Prop where
  through : alignedRoute s = none ∨ (∀ i ∈ slots, (s.routeDisc.slots i).used = true →
      (s.routeDisc.slots i).ent.expirationTime ≠ 0) →
    failed = false ∧ s'.routing = s.routing ∧ ∀ k, s'.routeDisc.slots k = tickedAt slots s k
  stopped : ∀ j before i after, alignedRoute s = some j → slots = before ++ i :: after →
    (∀ k ∈ before, (s.routeDisc.slots k).used = true →
      (s.routeDisc.slots k).ent.expirationTime ≠ 0) →
    (s.routeDisc.slots i).used = true → (s.routeDisc.slots i).ent.expirationTime = 0 →
      failed = true ∧ s'.routing = s.routing.putEnt j ∧
        ∀ k, s'.routeDisc.slots k = tickedAt (before ++ [i]) s k

/-- The search does not depend on ticks. -/
theorem alignedRoute_congr {s s' : Nwk} (routing : s'.routing = s.routing)
    (same : ∀ k, (s'.routeDisc.slots k).ent.destAddr = (s.routeDisc.slots k).ent.destAddr) :
    alignedRoute s' = alignedRoute s := by
  rw [alignedRoute, alignedRoute, routing]
  simp only [same]

/-- A turn after which the loop goes on. -/
theorem LoopLeaves.cons {s s₁ s' : Nwk} {i : ℕ} {rest : List ℕ} {failed : Bool}
    (leaves : LoopLeaves rest s₁ s' failed) (apart : i ∉ rest) (routing : s₁.routing = s.routing)
    (first : s₁.routeDisc.slots i = ticked (s.routeDisc.slots i))
    (others : ∀ k, k ≠ i → s₁.routeDisc.slots k = s.routeDisc.slots k)
    (goesOn : alignedRoute s = none ∨ ((s.routeDisc.slots i).used = true →
      (s.routeDisc.slots i).ent.expirationTime ≠ 0)) : LoopLeaves (i :: rest) s s' failed := by
  have dest : ∀ k, (s₁.routeDisc.slots k).ent.destAddr = (s.routeDisc.slots k).ent.destAddr := by
    intro k
    by_cases same : k = i
    · rw [same, first, ticked]
      split
      · split <;> rfl
      · rfl
    · rw [others k same]
  have aligned := alignedRoute_congr routing dest
  have later : ∀ k ∈ rest, s₁.routeDisc.slots k = s.routeDisc.slots k := fun k member =>
    others k fun same => apart (same ▸ member)
  constructor
  · intro all
    have through := leaves.through (by
      rw [aligned]
      refine all.imp_right fun alive k member => ?_
      rw [later k member]
      exact alive k (List.mem_cons_of_mem i member))
    refine ⟨through.1, through.2.1.trans routing, fun k => ?_⟩
    rw [through.2.2 k]
    exact tickedAt_cons apart first others k
  · intro j before k after found split_ alive used expired
    cases before with
    | nil =>
      obtain ⟨rfl, rfl⟩ := List.cons.inj split_
      rcases goesOn with none_ | fresh
      · rw [none_] at found
        cases found
      · exact absurd expired (fresh used)
    | cons head before =>
      obtain ⟨rfl, tail⟩ := List.cons.inj split_
      have inRest : ∀ m ∈ before ++ [k], m ∈ rest := by
        intro m member
        rw [tail]
        rcases List.mem_append.mp member with early | at_
        · exact List.mem_append_left _ early
        · rw [List.mem_singleton.mp at_]
          exact List.mem_append_right _ List.mem_cons_self
      have kRest := later k (inRest k (List.mem_append_right _ (List.mem_singleton_self k)))
      have stopped := leaves.stopped j before k after (aligned.trans found) tail
        (fun m member => by
          rw [later m (inRest m (List.mem_append_left _ member))]
          exact alive m (List.mem_cons_of_mem _ member))
        (by rw [kRest]; exact used) (by rw [kRest]; exact expired)
      refine ⟨stopped.1, by rw [stopped.2.1, routing], fun m => ?_⟩
      rw [stopped.2.2 m]
      exact tickedAt_cons (fun member => apart (inRest _ member)) first others m

theorem expireRouteDisc_leaves (slots : List ℕ) (nodup : slots.Nodup) (s : Nwk) :
    LoopLeaves slots s (expireRouteDisc slots s).1 (expireRouteDisc slots s).2 := by
  induction slots generalizing s with
  | nil =>
    refine ⟨fun _ => ⟨rfl, rfl, fun k => ?_⟩, fun j before i after _ split_ => ?_⟩
    · rw [tickedAt, if_neg List.not_mem_nil]
      rfl
    · cases before <;> cases split_
  | cons i rest induction_ =>
    obtain ⟨apart, nodup⟩ := List.nodup_cons.mp nodup
    by_cases used : (s.routeDisc.slots i).used = true
    · by_cases expired : (s.routeDisc.slots i).ent.expirationTime = 0
      · cases found : alignedRoute s with
        | none =>
          have turn : expireRouteDisc (i :: rest) s =
              expireRouteDisc rest { s with routeDisc := s.routeDisc.putEnt i } := by
            rw [alignedRoute] at found
            rw [expireRouteDisc, if_pos used, if_neg (not_not.mpr expired), found]
          rw [turn]
          have leaves := induction_ nodup { s with routeDisc := s.routeDisc.putEnt i }
          refine leaves.cons apart rfl ?_ (fun k other => ?_) (Or.inl found)
          · simp [putEnt, mark, ticked, used, expired]
          · simp [putEnt, mark, other]
        | some j =>
          have turn : expireRouteDisc (i :: rest) s = ({ s with
              routeDisc := s.routeDisc.putEnt i, routing := s.routing.putEnt j }, true) := by
            rw [alignedRoute] at found
            rw [expireRouteDisc, if_pos used, if_neg (not_not.mpr expired), found]
          rw [turn]
          constructor
          · rintro (none_ | alive)
            · rw [found] at none_
              cases none_
            · exact absurd expired (alive i List.mem_cons_self used)
          · intro j' before k after found' split_ alive used' expired'
            rw [found] at found'
            cases found'
            cases before with
            | nil =>
              obtain ⟨rfl, -⟩ := List.cons.inj split_
              refine ⟨rfl, rfl, fun k => ?_⟩
              rw [tickedAt, List.nil_append]
              by_cases same : k = i
              · subst same
                simp [putEnt, mark, ticked, used, expired]
              · simp [putEnt, mark, same]
            | cons head before =>
              obtain ⟨rfl, -⟩ := List.cons.inj split_
              exact absurd expired (alive i List.mem_cons_self used)
      · have turn : expireRouteDisc (i :: rest) s =
            expireRouteDisc rest { s with routeDisc := s.routeDisc.modify i fun ent =>
              { ent with expirationTime := ent.expirationTime - 1 } } := by
          rw [expireRouteDisc, if_pos used, if_pos expired]
        rw [turn]
        have leaves := induction_ nodup { s with routeDisc := s.routeDisc.modify i fun ent =>
          { ent with expirationTime := ent.expirationTime - 1 } }
        refine leaves.cons apart rfl ?_ (fun k other => ?_) (Or.inr fun _ => expired)
        · simp [Table.modify, ticked, used, expired]
        · dsimp only
          exact modify_slots_of_ne _ other
    · have turn : expireRouteDisc (i :: rest) s = expireRouteDisc rest s := by
        rw [expireRouteDisc, if_neg used]
      rw [turn]
      refine (induction_ nodup s).cons apart rfl ?_ (fun _ _ => rfl)
        (Or.inr fun inUse => absurd inUse used)
      rw [ticked, if_neg used]

/-! ## A run -/

theorem ticked_eq_self_iff (slot : Slot NwkRouteDiscovery) :
    slot = ticked slot ↔ slot.used = false := by
  obtain ⟨used, ent⟩ := slot
  cases used with
  | false => simp [ticked]
  | true =>
    refine iff_of_false (fun same => ?_) (by simp)
    rw [ticked, if_pos rfl] at same
    split at same
    · rename_i alive
      have time := congrArg (fun slot => slot.ent.expirationTime) same
      dsimp only at time alive
      omega
    · cases congrArg Slot.used same

/-- A route that is found is not active and used. -/
theorem alignedRoute_spec {s : Nwk} {j : ℕ} (found : alignedRoute s = some j) :
    j < nwkRoutingTableSize ∧ (s.routing.slots j).used = true ∧
      (s.routing.slots j).ent.status ≠ .active := by
  obtain ⟨inside, used, met⟩ := findSlot_spec found
  simp only [Bool.and_eq_true, bne_iff_ne] at met
  exact ⟨inside, used, met.2⟩

theorem putEnt_entry {α : Type} {size : ℕ} (t : Table α size) (j k : ℕ) :
    ((t.putEnt j).slots k).ent = (t.slots k).ent := mark_ent false k

theorem putEnt_used {α : Type} {size : ℕ} (t : Table α size) (j k : ℕ) :
    ((t.putEnt j).slots k).used = if k = j then false else (t.slots k).used := mark_used false k

/-- A run that ends early, as it should exactly where the found route is the one dead one and
nothing stands behind the expired entry. -/
theorem expiresDead_of_stopped {s : Nwk} {i j : ℕ}
    (routing : (meshExpiryRouteDisc s).1.routing = s.routing.putEnt j)
    (found : alignedRoute s = some j)
    (discs : ∀ k, (meshExpiryRouteDisc s).1.routeDisc.slots k =
      if k ≤ i then ticked (s.routeDisc.slots k) else s.routeDisc.slots k) :
    ExpiresDead s ↔ (∀ k, DeadRoute s k ↔ k = j) ∧
      ∀ k < nwkRouteDiscoveryTableSize, i < k → (s.routeDisc.slots k).used = false := by
  obtain ⟨inside, used, -⟩ := alignedRoute_spec found
  constructor
  · intro expires
    refine ⟨fun k => ⟨fun dead => ?_, ?_⟩, fun k low behind => ?_⟩
    · have freed := (expires.freed k dead.1 dead.2.1).mpr dead
      rw [routing, putEnt_used] at freed
      by_contra other
      rw [if_neg other, dead.2.1] at freed
      cases freed
    · rintro rfl
      apply (expires.freed k inside used).mp
      rw [routing, putEnt_used, if_pos rfl]
    · have same := expires.discoveries k low
      rw [discs, if_neg (Nat.not_le_of_lt behind)] at same
      exact (ticked_eq_self_iff _).mp same
  · rintro ⟨own, last⟩
    refine ⟨fun k low => ?_, fun k low inUse => ?_, fun k low free => ?_, fun k low => ?_⟩
    · rw [discs]
      split
      · rfl
      · rename_i behind
        exact (ticked_eq_self_iff _).mpr (last k low (Nat.lt_of_not_le behind))
    · rw [routing, putEnt_used, own]
      by_cases same : k = j
      · simp [same]
      · simp [same, inUse]
    · rw [routing, putEnt_used, free]
      exact ite_self false
    · rw [routing, putEnt_entry]

/-- A run that goes through, as it should exactly where there is no dead route. -/
theorem expiresDead_of_through {s : Nwk}
    (routing : (meshExpiryRouteDisc s).1.routing = s.routing)
    (discs : ∀ k < nwkRouteDiscoveryTableSize,
      (meshExpiryRouteDisc s).1.routeDisc.slots k = ticked (s.routeDisc.slots k)) :
    ExpiresDead s ↔ ∀ k, ¬ DeadRoute s k := by
  constructor
  · intro expires k dead
    have freed := (expires.freed k dead.1 dead.2.1).mpr dead
    rw [routing, dead.2.1] at freed
    cases freed
  · intro none_
    refine ⟨discs, fun k low inUse => ?_, fun k low free => ?_, fun k low => ?_⟩
    · rw [routing, inUse]
      exact iff_of_false (by simp) (none_ k)
    · rw [routing, free]
    · rw [routing]

/-- A run of the timer as it goes with a count above zero. -/
theorem meshExpiryRouteDisc_of_counted {s : Nwk} (counted : s.routeDisc.cnt ≠ 0) :
    (meshExpiryRouteDisc s).1 =
      (expireRouteDisc (List.range nwkRouteDiscoveryTableSize) s).1 := by
  rw [meshExpiryRouteDisc, if_pos counted]

theorem mem_range_append_self {i k : ℕ} : k ∈ List.range i ++ [i] ↔ k ≤ i := by
  rw [← List.range_succ, List.mem_range, Nat.lt_succ_iff]

/-- What the timer does is what is expected exactly in aligned tables. -/
theorem expiresDead_iff (s : Nwk) : ExpiresDead s ↔ Aligned s := by
  by_cases counted : s.routeDisc.cnt = 0
  · have idle : (meshExpiryRouteDisc s).1 = s := by
      rw [meshExpiryRouteDisc, if_neg (not_not.mpr counted)]
    constructor
    · intro expires
      have free : ∀ i < nwkRouteDiscoveryTableSize, (s.routeDisc.slots i).used = false := by
        intro i inside
        have same := expires.discoveries i inside
        rw [idle] at same
        exact (ticked_eq_self_iff _).mp same
      have unexpired : ∀ i, ¬ Expired s i := by
        intro i expired
        rw [Expired, free i expired.1] at expired
        exact Bool.false_ne_true expired.2.1
      refine ⟨fun _ => free, fun i j expired => absurd expired (unexpired i),
        fun i j expired => absurd expired (unexpired i), fun _ k dead => ?_⟩
      obtain ⟨-, -, -, i, expired, -⟩ := dead
      exact unexpired i expired
    · intro aligned
      have free := aligned.counted counted
      apply (expiresDead_of_through (by rw [idle]) fun k inside => ?_).mpr
      · rintro k ⟨-, -, -, i, ⟨inside, used, -⟩, -⟩
        rw [free i inside] at used
        cases used
      · rw [idle]
        exact (ticked_eq_self_iff _).mpr (free k inside)
  · have run := meshExpiryRouteDisc_of_counted counted
    have leaves := expireRouteDisc_leaves (List.range nwkRouteDiscoveryTableSize)
      List.nodup_range s
    rw [← run] at leaves
    have through : (alignedRoute s = none ∨ ∀ i, ¬ Expired s i) →
        (ExpiresDead s ↔ ∀ k, ¬ DeadRoute s k) := by
      intro goesOn
      obtain ⟨-, routing, discs⟩ := leaves.through (goesOn.imp_right fun unexpired i member used =>
        fun time => unexpired i ⟨List.mem_range.mp member, used, time⟩)
      refine expiresDead_of_through routing fun k inside => ?_
      rw [discs, tickedAt, if_pos (List.mem_range.mpr inside)]
    by_cases some_ : ∃ i, Expired s i
    · cases found : alignedRoute s with
      | none =>
        rw [through (Or.inl found)]
        constructor
        · intro none_
          refine ⟨fun zero => absurd zero counted, fun i j _ route => ?_, fun i j _ route => ?_,
            fun _ => none_⟩
          · rw [found] at route
            cases route
          · rw [found] at route
            cases route
        · exact fun aligned => aligned.none_ found
      | some j =>
        classical
        have first := Nat.find_spec some_
        have earliest : ∀ k < Nat.find some_, ¬ Expired s k := fun k => Nat.find_min some_
        generalize Nat.find some_ = i at first earliest
        have split_ : List.range nwkRouteDiscoveryTableSize =
            List.range i ++ i :: (List.range' (i + 1) (nwkRouteDiscoveryTableSize - (i + 1))) := by
          have inside := first.1
          have tail : nwkRouteDiscoveryTableSize - (i + 1) + 1 =
              nwkRouteDiscoveryTableSize - i := by
            omega
          have whole : i + (nwkRouteDiscoveryTableSize - i) = nwkRouteDiscoveryTableSize := by
            omega
          have join : List.range' 0 i ++ List.range' (0 + i) (nwkRouteDiscoveryTableSize - i) =
              List.range' 0 (i + (nwkRouteDiscoveryTableSize - i)) := List.range'_append_1
          rw [Nat.zero_add, whole] at join
          rw [List.range_eq_range', List.range_eq_range', ← List.range'_succ, tail, join]
        obtain ⟨-, routing, discs⟩ := leaves.stopped j _ i _ found split_
          (fun k member used time => earliest k (List.mem_range.mp member)
            ⟨Nat.lt_trans (List.mem_range.mp member) first.1, used, time⟩) first.2.1 first.2.2
        rw [expiresDead_of_stopped routing found fun k => by
          rw [discs, tickedAt]
          exact if_congr mem_range_append_self rfl rfl]
        constructor
        · rintro ⟨own, last⟩
          refine ⟨fun zero => absurd zero counted, fun i' j' _ route => ?_,
            fun i' j' expired _ k inside behind => ?_, fun none_ => ?_⟩
          · rw [found] at route
            cases route
            exact own
          · rcases Nat.lt_trichotomy i' i with less | same | more
            · exact absurd expired (earliest i' less)
            · exact last k inside (same ▸ behind)
            · have used := expired.2.1
              rw [last i' expired.1 more] at used
              cases used
          · rw [found] at none_
            cases none_
        · exact fun aligned =>
            ⟨aligned.own i j first found, aligned.last i j first found⟩
    · have unexpired : ∀ i, ¬ Expired s i := fun i expired => some_ ⟨i, expired⟩
      rw [through (Or.inr unexpired)]
      refine iff_of_true ?_ ⟨fun zero => absurd zero counted,
        fun i j expired => absurd expired (unexpired i),
        fun i j expired => absurd expired (unexpired i), fun _ k dead => ?_⟩
      · rintro k ⟨-, -, -, i, expired, -⟩
        exact unexpired i expired
      · obtain ⟨-, -, -, i, expired, -⟩ := dead
        exact unexpired i expired

/-- Two discoveries of a router: the first has had a reply, the second has expired. -/
def twoDiscoveries : Nwk :=
  { Nwk.init router with
    routing := {
      slots := fun j =>
        if j = 0 then ⟨true, .validationUnderway, 0x10, 0x30⟩
        else if j = 1 then ⟨true, .discoveryUnderway, 0x20, 0⟩
        else ⟨false, .active, 0, 0⟩
      cnt := 2 }
    routeDisc := {
      slots := fun i =>
        if i = 0 then ⟨true, 1, 0x1234, 0x1234, 0x10, 0, 9, 6⟩
        else if i = 1 then ⟨true, 2, 0x1234, 0x1234, 0x20, 0, 0xff, 0⟩
        else ⟨false, 0, 0, 0, 0, 0, 0, 0⟩
      cnt := 2 } }

/-- The route of the first discovery is given up for the second. -/
theorem other_route_freed : ¬ ExpiresDead twoDiscoveries := by
  intro expires
  have dead := (expires.freed 0 (by decide) rfl).mp (by decide +kernel)
  obtain ⟨-, -, -, i, ⟨-, used, time⟩, dest⟩ := dead
  match i with
  | 0 => exact absurd time (by decide)
  | 1 => exact absurd dest (by decide)
  | i + 2 => cases used

end Zboss.DynamicTables
