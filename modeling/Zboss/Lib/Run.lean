import Mathlib.Data.List.Basic
import Mathlib.Data.List.Induction

/-!
Runs of a deterministic machine.  A run is the list of the operations taken;
choices of the environment are arguments of the operations.  `Along` says that a
condition on state and operation holds at every step of a run, and
`invariant_of_along` is the one induction every safety result rests on.
-/

namespace Zboss.Run

variable {σ α : Type*}

/-- The state after a run. -/
def run (step : σ → α → σ) (s : σ) (ops : List α) : σ := ops.foldl step s

/-- The condition `ok` holds before every step of the run. -/
def Along (step : σ → α → σ) (ok : σ → α → Prop) : σ → List α → Prop
  | _, [] => True
  | s, op :: rest => ok s op ∧ Along step ok (step s op) rest

variable {step : σ → α → σ} {ok : σ → α → Prop}

@[simp] theorem run_nil (s : σ) : run step s [] = s := rfl

@[simp] theorem run_cons (s : σ) (op : α) (rest : List α) :
    run step s (op :: rest) = run step (step s op) rest := rfl

theorem run_append (s : σ) (first second : List α) :
    run step s (first ++ second) = run step (run step s first) second :=
  List.foldl_append

instance alongDecidable [∀ s op, Decidable (ok s op)] :
    ∀ s ops, Decidable (Along step ok s ops)
  | _, [] => isTrue trivial
  | s, op :: rest =>
    have := alongDecidable (step s op) rest
    inferInstanceAs (Decidable (_ ∧ _))

theorem along_append (s : σ) (first second : List α) :
    Along step ok s (first ++ second) ↔
      Along step ok s first ∧ Along step ok (run step s first) second := by
  induction first generalizing s with
  | nil => simp [Along]
  | cons op rest induction_ => simp [Along, induction_, and_assoc]

/-- A condition on the operations alone. -/
theorem along_of_forall {ok : α → Prop} {s : σ} {ops : List α} (all : ∀ op ∈ ops, ok op) :
    Along step (fun _ op => ok op) s ops := by
  induction ops generalizing s with
  | nil => trivial
  | cons op rest induction_ =>
    exact ⟨all op List.mem_cons_self,
      induction_ fun other member => all other (List.mem_cons_of_mem op member)⟩

/-- Two conditions met at every step are met together. -/
theorem along_and {ok' : σ → α → Prop} {s : σ} {ops : List α} (met : Along step ok s ops)
    (met' : Along step ok' s ops) : Along step (fun s op => ok s op ∧ ok' s op) s ops := by
  induction ops generalizing s with
  | nil => trivial
  | cons op rest induction_ => exact ⟨⟨met.1, met'.1⟩, induction_ met.2 met'.2⟩

/-- What holds initially and is kept by every step that meets the condition
holds after every run whose steps meet it. -/
theorem invariant_of_along {invariant : σ → Prop}
    (kept : ∀ s op, invariant s → ok s op → invariant (step s op)) (s : σ) (ops : List α)
    (initial : invariant s) (met : Along step ok s ops) : invariant (run step s ops) := by
  induction ops generalizing s with
  | nil => exact initial
  | cons op rest induction_ => exact induction_ _ (kept s op initial met.1) met.2

/-- What every step that meets the condition does in a state of the invariant, it does at every
step of a run. -/
theorem along_of_invariant {good : σ → α → Prop} {invariant : σ → Prop}
    (kept : ∀ s op, invariant s → ok s op → invariant (step s op))
    (does : ∀ s op, invariant s → ok s op → good s op) (s : σ) (ops : List α)
    (initial : invariant s) (met : Along step ok s ops) : Along step good s ops := by
  induction ops generalizing s with
  | nil => trivial
  | cons op rest induction_ =>
    exact ⟨does s op initial met.1, induction_ _ (kept s op initial met.1) met.2⟩

/-- Two conditions that agree in the states of an invariant hold along the same runs, where one
of them keeps the invariant. -/
theorem along_iff_of_invariant {good : σ → α → Prop} {invariant : σ → Prop}
    (agree : ∀ s op, invariant s → (good s op ↔ ok s op))
    (kept : ∀ s op, invariant s → ok s op → invariant (step s op)) (s : σ) (ops : List α)
    (initial : invariant s) : Along step good s ops ↔ Along step ok s ops := by
  induction ops generalizing s with
  | nil => exact Iff.rfl
  | cons op rest induction_ =>
    constructor
    · rintro ⟨first, others⟩
      have met := (agree s op initial).mp first
      exact ⟨met, (induction_ _ (kept s op initial met)).mp others⟩
    · rintro ⟨first, others⟩
      exact ⟨(agree s op initial).mpr first,
        (induction_ _ (kept s op initial first)).mpr others⟩

/-- What holds initially and is kept by every step holds after every run. -/
theorem invariant_of_run {invariant : σ → Prop}
    (kept : ∀ s op, invariant s → invariant (step s op)) (s : σ) (ops : List α)
    (initial : invariant s) : invariant (run step s ops) := by
  induction ops generalizing s with
  | nil => exact initial
  | cons op rest induction_ => exact induction_ _ (kept s op initial)

/-- What no step restores was there before a run if it is there after it. -/
theorem of_run {good : σ → Prop} (lasting : ∀ s op, good (step s op) → good s) {s : σ}
    {ops : List α} (last : good (run step s ops)) : good s := by
  induction ops generalizing s with
  | nil => exact last
  | cons op rest induction_ => exact lasting s op (induction_ last)

/-- What no step restores is there after a run exactly when every step keeps it. -/
theorem run_iff_along {good invariant : σ → Prop}
    (kept : ∀ s op, invariant s → invariant (step s op))
    (agree : ∀ s op, invariant s → good s → (good (step s op) ↔ ok s op))
    (lasting : ∀ s op, good (step s op) → good s) (s : σ) (ops : List α) (initial : invariant s)
    (first : good s) : good (run step s ops) ↔ Along step ok s ops := by
  induction ops generalizing s with
  | nil => exact iff_of_true first trivial
  | cons op rest induction_ =>
    constructor
    · intro last
      have next : good (step s op) := of_run lasting last
      exact ⟨(agree s op initial first).mp next,
        (induction_ _ (kept s op initial) next).mp last⟩
    · rintro ⟨met, others⟩
      have next := (agree s op initial first).mpr met
      exact (induction_ _ (kept s op initial) next).mpr others

/-- A field that some operations replace and all others keep holds the value of the last of them. -/
theorem run_last {β : Type*} (field : σ → β) (written : α → Option β)
    (does : ∀ s op, field (step s op) = (written op).getD (field s)) (s : σ) (ops : List α) :
    field (run step s ops) = (ops.filterMap written).getLast?.getD (field s) := by
  induction ops using List.reverseRecOn with
  | nil => rfl
  | append_singleton before op ih =>
    rw [run_append, run_cons, run_nil, does, ih, List.filterMap_append, List.filterMap_cons]
    cases written op with
    | none => rw [List.filterMap_nil, List.append_nil]; rfl
    | some value => rw [List.filterMap_nil, List.getLast?_concat]; rfl

end Zboss.Run
