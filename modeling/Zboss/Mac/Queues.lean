import Mathlib.Data.Nat.Notation

/-!
The queues of the MAC: the callbacks that wait for a transmission, and the frames that are kept for
devices that poll.
-/

namespace Zboss.Queues

variable {α : Type*}

def macQueueSize : ℕ := 4

def macPendingQueueSize : ℕ := 4

/-- What `zb_schedule_tx_cb` makes of the queue; its callers do not look at the result. -/
def scheduleTxCb (macTxQ : List α) (cb : α) : List α :=
  if macTxQ.length < macQueueSize then macTxQ ++ [cb] else macTxQ

/-- The slot `zb_mac_put_data_to_pending_queue` finds. -/
def freeSlot (pendingDataQueue : ℕ → Option α) : Option ℕ :=
  (List.range macPendingQueueSize).find? fun i => pendingDataQueue i = none

/-- The slot `check_pending_data` finds. -/
def checkPendingData (dstAddr : α → ℕ) (pendingDataQueue : ℕ → Option α) (srcAddr : ℕ) : Option ℕ :=
  (List.range macPendingQueueSize).find? fun i =>
    (pendingDataQueue i).any fun data => dstAddr data == srcAddr

variable {dstAddr : α → ℕ} {pendingDataQueue : ℕ → Option α} {i srcAddr : ℕ}

theorem freeSlot_spec (found : freeSlot pendingDataQueue = some i) :
    i < macPendingQueueSize ∧ pendingDataQueue i = none :=
  ⟨List.mem_range.mp (List.mem_of_find?_eq_some found), by simpa using List.find?_some found⟩

theorem checkPendingData_spec (found : checkPendingData dstAddr pendingDataQueue srcAddr = some i) :
    i < macPendingQueueSize ∧ ∃ data, pendingDataQueue i = some data := by
  refine ⟨List.mem_range.mp (List.mem_of_find?_eq_some found), ?_⟩
  have holds := List.find?_some found
  cases there : pendingDataQueue i with
  | none => simp [there] at holds
  | some data => exact ⟨data, rfl⟩

end Zboss.Queues
