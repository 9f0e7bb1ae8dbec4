import Mathlib.Data.List.Basic
import Mathlib.Order.Defs.LinearOrder

/-!
Protection against replays with one window a channel.  A window remembers a stream and
the greatest count seen in it; items are accepted by their count, and a window that
changes to another stream forgets.  A log of accepted items is covered when no item of a
window's stream lies above the window, and then every count above it is new.
-/

namespace Zboss.Windows

variable {ρ κ ο : Type*}

/-- The stream a channel is in, and the greatest count seen. -/
structure Window (κ ο : Type*) where
  stream : κ
  count : ο

/-- An accepted item. -/
structure Item (ρ κ ο : Type*) where
  channel : ρ
  stream : κ
  count : ο

/-- Every logged item of a window's stream is at or below the window. -/
def Covers [LE ο] (windows : ρ → Option (Window κ ο)) (log : List (Item ρ κ ο)) : Prop :=
  ∀ item ∈ log, ∀ w, windows item.channel = some w → w.stream = item.stream →
    item.count ≤ w.count

/-- Nothing was accepted on the channel in the stream. -/
def Unused (log : List (Item ρ κ ο)) (channel : ρ) (stream : κ) : Prop :=
  ∀ item ∈ log, item.channel = channel → item.stream ≠ stream

variable [Preorder ο] [DecidableEq ρ] {windows : ρ → Option (Window κ ο)}
  {log : List (Item ρ κ ο)} {channel : ρ} {w w' : Window κ ο}

omit [DecidableEq ρ] in
theorem Covers.nil : Covers windows ([] : List (Item ρ κ ο)) := fun _ mem => by cases mem

theorem Covers.close (covered : Covers windows log) :
    Covers (Function.update windows channel none) log := by
  intro item mem w here same
  by_cases channel_ : item.channel = channel
  · rw [channel_, Function.update_self] at here
    contradiction
  · rw [Function.update_of_ne channel_] at here
    exact covered item mem w here same

/-- A window that starts in a stream without logged items covers them. -/
theorem Covers.start (covered : Covers windows log) (unused : Unused log channel w.stream) :
    Covers (Function.update windows channel (some w)) log := by
  intro item mem w' here same
  by_cases channel_ : item.channel = channel
  · rw [channel_, Function.update_self, Option.some.injEq] at here
    subst here
    exact absurd same.symm (unused item mem channel_)
  · rw [Function.update_of_ne channel_] at here
    exact covered item mem w' here same

/-- A window may rise within its stream. -/
theorem Covers.raise (covered : Covers windows log) (here : windows channel = some w)
    (same : w'.stream = w.stream) (above : w.count ≤ w'.count) :
    Covers (Function.update windows channel (some w')) log := by
  intro item mem w'' there stream
  by_cases channel_ : item.channel = channel
  · rw [channel_, Function.update_self, Option.some.injEq] at there
    subst there
    exact le_trans (covered item mem w (channel_ ▸ here) (same.symm.trans stream)) above
  · rw [Function.update_of_ne channel_] at there
    exact covered item mem w'' there stream

omit [DecidableEq ρ] in
/-- An item at the window may be logged. -/
theorem Covers.append (covered : Covers windows log) (here : windows channel = some w) :
    Covers windows (log ++ [⟨channel, w.stream, w.count⟩]) := by
  intro item mem w' there same
  obtain old | rfl := List.mem_append.mp mem |>.imp_right List.mem_singleton.mp
  · exact covered item old w' there same
  · dsimp only at there same ⊢
    rw [here, Option.some.injEq] at there
    rw [there]

end Zboss.Windows
