import Zboss.Nwk.PanIdRuns

/-!
The PAN id that `zb_panid_conflict_network_update` chooses.  Its loop draws again where the
number is zero and is not found among the known ids, so the first number that is not zero
ends it, whether the id is taken or not.
-/

namespace Zboss.PanIdConflict

/-- How a conflict comes to the coordinator. -/
inductive Conflict
  | report (panids : List UInt16)
  | beacon
  deriving DecidableEq, Repr

namespace Conflict

/-- `known_panids` in the loop. -/
def known : Conflict → List UInt16
  | .report panids => reportedPanids panids
  | .beacon => unknownPanids

/-- The PAN ids that the report has. -/
def recorded : Conflict → List UInt16
  | .report panids => panids
  | .beacon => []

/-- Zero is among the known ids: the report leaves room in the table, or has it. -/
def Padded : Conflict → Prop
  | .report panids => panids.length < panidTableSize ∨ 0 ∈ panids.take panidTableSize
  | .beacon => False

instance (c : Conflict) : Decidable c.Padded :=
  match c with
  | .report _ => inferInstanceAs (Decidable (_ ∨ _))
  | .beacon => inferInstanceAs (Decidable False)

theorem zero_mem_known (c : Conflict) : 0 ∈ c.known ↔ c.Padded := by
  cases c with
  | report panids =>
    rw [known, reportedPanids, Padded, List.mem_append, List.mem_replicate, or_comm]
    apply or_congr_left
    rw [and_iff_left rfl, Nat.sub_ne_zero_iff_lt]
  | beacon =>
    rw [known, unknownPanids, Padded, List.mem_replicate]
    decide

end Conflict

namespace Node

/-- The coordinator takes up a conflict; `none` while the loop draws numbers. -/
def resolve (n : Node) (c : Conflict) (draws : List UInt16) (now : ℕ) : Option Node :=
  (chooseNewPanid c.known draws).map fun newPanid =>
    match c with
    | .report panids => n.gotNetworkReport panids newPanid now
    | .beacon => n.managerBeacon newPanid now

/-- A PAN id that is not to be chosen. -/
def Taken (n : Node) (c : Conflict) (panid : UInt16) : Prop :=
  panid ∈ c.recorded ∨ panid = 0xffff ∨ panid = n.panId

/-- What is expected of the choice: a free and legal PAN id, and a loop that goes on exactly as
long as the numbers are taken. -/
structure PicksFree (n : Node) (c : Conflict) (draws : List UInt16) : Prop where
  free : ∀ now m, n.resolve c draws now = some m → m.newPanid ∉ c.recorded
  legal : ∀ now m, n.resolve c draws now = some m → m.newPanid ≠ 0xffff ∧ m.newPanid ≠ n.panId
  goesOn : ∀ now k, n.resolve c (draws.take k) now = none ↔
    ∀ panid ∈ draws.take k, n.Taken c panid

/-- The numbers of the loop with which it does what is expected: where zero is a known id, the
first one is free; else zeros lead only where zero is taken, and the first one that is not zero
is free. -/
structure Lucky (n : Node) (c : Conflict) (draws : List UInt16) : Prop where
  padded : c.Padded → ∀ panid, draws.head? = some panid → ¬ n.Taken c panid
  zero : ¬ c.Padded → draws.head? = some 0 → n.Taken c 0
  first : ¬ c.Padded → ∀ panid, (draws.dropWhile (· = 0)).head? = some panid → ¬ n.Taken c panid

variable {n : Node} {c : Conflict} {draws : List UInt16}

/-! ## The loop -/

theorem resolve_newPanid {now : ℕ} {m : Node} (resolved : n.resolve c draws now = some m) :
    chooseNewPanid c.known draws = some m.newPanid := by
  obtain ⟨newPanid, chosen, same⟩ := Option.map_eq_some_iff.mp resolved
  rw [chosen, ← same]
  cases c <;> rfl

theorem resolve_none_iff {now : ℕ} :
    n.resolve c draws now = none ↔ chooseNewPanid c.known draws = none :=
  Option.map_eq_none_iff

/-- The loop has not ended only where it has seen nothing but zeros that it does not know. -/
theorem chooseNewPanid_none_iff (known draws : List UInt16) :
    chooseNewPanid known draws = none ↔ ∀ panid ∈ draws, panid = 0 ∧ panid ∉ known := by
  induction draws with
  | nil => simp [chooseNewPanid]
  | cons first rest induction_ =>
    rw [chooseNewPanid, List.forall_mem_cons]
    split
    · rename_i again
      rw [induction_]
      exact (and_iff_right again).symm
    · rename_i ends
      exact iff_of_false nofun fun all => ends all.1

/-- The numbers before the end are zeros, and the chosen one is not taken for one. -/
theorem chooseNewPanid_some {known draws : List UInt16} {panid : UInt16}
    (chosen : chooseNewPanid known draws = some panid) :
    ∃ k, draws[k]? = some panid ∧ chooseNewPanid known (draws.take k) = none ∧
      chooseNewPanid known (draws.take (k + 1)) ≠ none := by
  induction draws with
  | nil => cases chosen
  | cons first rest induction_ =>
    rw [chooseNewPanid] at chosen
    split at chosen
    · rename_i again
      obtain ⟨k, at_, before, after⟩ := induction_ chosen
      refine ⟨k + 1, at_, ?_, ?_⟩
      · rw [List.take_succ_cons, chooseNewPanid, if_pos again]
        exact before
      · rw [List.take_succ_cons, chooseNewPanid, if_pos again]
        exact after
    · rename_i ends
      cases chosen
      refine ⟨0, rfl, rfl, ?_⟩
      rw [List.take_succ_cons, chooseNewPanid, if_neg ends]
      exact nofun

/-! ## What is expected -/

/-- The loop goes on as it should as far as it draws. -/
def Agrees (n : Node) (c : Conflict) : List UInt16 → Prop
  | [] => True
  | panid :: rest =>
    (panid = 0 ∧ ¬ c.Padded ↔ n.Taken c panid) ∧ (n.Taken c panid → Agrees n c rest)

theorem goesOn_iff : (∀ k, chooseNewPanid c.known (draws.take k) = none ↔
    ∀ panid ∈ draws.take k, n.Taken c panid) ↔ n.Agrees c draws := by
  have again (panid : UInt16) : panid = 0 ∧ panid ∉ c.known ↔ panid = 0 ∧ ¬ c.Padded := by
    rw [← c.zero_mem_known]
    exact and_congr_right fun zero => by rw [zero]
  simp only [chooseNewPanid_none_iff, again]
  induction draws with
  | nil => simp [Agrees]
  | cons first rest induction_ =>
    rw [Agrees]
    refine Iff.trans ?_ (and_congr_right' (imp_congr_right fun _ => induction_))
    constructor
    · intro all
      have one := all 1
      rw [List.take_succ_cons, List.take_zero, List.forall_mem_singleton,
        List.forall_mem_singleton] at one
      refine ⟨one, fun taken k => ?_⟩
      have later := all (k + 1)
      rw [List.take_succ_cons, List.forall_mem_cons, List.forall_mem_cons] at later
      rwa [and_iff_right taken, and_iff_right (one.mpr taken)] at later
    · rintro ⟨same, later⟩ k
      cases k with
      | zero => simp
      | succ k =>
        rw [List.take_succ_cons, List.forall_mem_cons, List.forall_mem_cons, same]
        exact and_congr_right fun taken => later taken k

theorem agrees_iff_lucky : n.Agrees c draws ↔ n.Lucky c draws := by
  induction draws with
  | nil => exact iff_of_true trivial ⟨nofun, nofun, nofun⟩
  | cons first rest induction_ =>
    rw [Agrees, induction_]
    by_cases padded : c.Padded
    · constructor
      · rintro ⟨same, -⟩
        have fresh : ¬ n.Taken c first := fun taken => (same.mpr taken).2 padded
        refine ⟨fun _ panid head => ?_, fun full => absurd padded full,
          fun full => absurd padded full⟩
        cases head
        exact fresh
      · intro lucky
        have fresh := lucky.padded padded first rfl
        exact ⟨iff_of_false (fun again => again.2 padded) fresh, fun taken => absurd taken fresh⟩
    · by_cases zero : first = 0
      · subst zero
        constructor
        · rintro ⟨same, later⟩
          have taken := same.mp ⟨rfl, padded⟩
          refine ⟨fun full => absurd full padded, fun _ _ => taken, fun _ => ?_⟩
          rw [List.dropWhile_cons_of_pos (by decide)]
          exact (later taken).first padded
        · intro lucky
          have taken := lucky.zero padded rfl
          have first := lucky.first padded
          rw [List.dropWhile_cons_of_pos (by decide)] at first
          exact ⟨iff_of_true ⟨rfl, padded⟩ taken, fun _ =>
            ⟨fun full => absurd full padded, fun _ _ => taken, fun _ => first⟩⟩
      · have drops : (first :: rest).dropWhile (· = 0) = first :: rest :=
          List.dropWhile_cons_of_neg (by simpa using zero)
        constructor
        · rintro ⟨same, -⟩
          have fresh : ¬ n.Taken c first := fun taken => zero (same.mpr taken).1
          refine ⟨fun full => absurd full padded, fun _ head => ?_, fun _ panid head => ?_⟩
          · exact absurd (Option.some.inj head) zero
          · rw [drops] at head
            cases head
            exact fresh
        · intro lucky
          have fresh := lucky.first padded first (by rw [drops]; rfl)
          exact ⟨iff_of_false (fun again => zero again.1) fresh,
            fun taken => absurd taken fresh⟩

/-- The choice is as expected exactly where the numbers happen to be. -/
theorem picksFree_iff (n : Node) (c : Conflict) (draws : List UInt16) :
    n.PicksFree c draws ↔ n.Lucky c draws := by
  rw [← agrees_iff_lucky, ← goesOn_iff]
  constructor
  · intro picks k
    rw [← picks.goesOn 0 k, resolve_none_iff]
  · intro goesOn
    have fresh : ∀ now m, n.resolve c draws now = some m → ¬ n.Taken c m.newPanid := by
      intro now m resolved taken
      obtain ⟨k, at_, before, after⟩ := chooseNewPanid_some (resolve_newPanid resolved)
      apply after
      rw [goesOn, List.take_add_one, at_]
      intro panid member
      rcases List.mem_append.mp member with earlier | last
      · exact (goesOn k).mp before panid earlier
      · rw [List.mem_singleton.mp last]
        exact taken
    refine ⟨fun now m resolved recorded => ?_, fun now m resolved => ⟨fun all => ?_, fun same => ?_⟩,
      fun now k => ?_⟩
    · exact fresh now m resolved (Or.inl recorded)
    · exact fresh now m resolved (Or.inr (Or.inl all))
    · exact fresh now m resolved (Or.inr (Or.inr same))
    · rw [resolve_none_iff, goesOn]

/-- The number drawn is an id of the report, and the loop ends with it. -/
theorem recorded_picked :
    ¬ (router 0x1aaa 7).PicksFree (.report [0x1aaa, 0x1bbb]) [0x1bbb] := by
  intro picks
  exact picks.free 0 _ rfl (by decide)

end Node

/-! ## The network -/

namespace Network

variable {w : Network}

end Network

end Zboss.PanIdConflict
