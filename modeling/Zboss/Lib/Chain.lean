import Mathlib.Data.List.Nodup

/-!
Singly linked lists in memory: `next` gives the link stored in each node and `0`
is the null pointer.  Writes to nodes outside a chain leave it alone, and taking
the head off and putting a node in front are the two list operations.  A path is a part
of a chain that ends at some node, and a walk reads the nodes of a chain.
-/

namespace Zboss

/-- Following the links from `head` visits exactly the nodes of the list. -/
def Chain (next : ℕ → ℕ) : ℕ → List ℕ → Prop
  | head, [] => head = 0
  | head, node :: rest => head = node ∧ node ≠ 0 ∧ Chain next (next node) rest

namespace Chain

variable {next next' : ℕ → ℕ} {head : ℕ} {l : List ℕ}

/-- Only the links of the nodes on the chain matter. -/
theorem congr (chain : Chain next head l) (same : ∀ node ∈ l, next' node = next node) :
    Chain next' head l := by
  induction l generalizing head with
  | nil => exact chain
  | cons node rest induction_ =>
    obtain ⟨first, valid, tail⟩ := chain
    refine ⟨first, valid, ?_⟩
    rw [same node List.mem_cons_self]
    exact induction_ tail fun other member => same other (List.mem_cons_of_mem node member)

/-- The chain is empty exactly when its head is null. -/
theorem head_eq_zero_iff (chain : Chain next head l) : head = 0 ↔ l = [] := by
  cases l with
  | nil => exact iff_of_true chain rfl
  | cons node rest =>
    obtain ⟨rfl, valid, -⟩ := chain
    exact iff_of_false valid (List.cons_ne_nil _ _)

/-- Putting a new node in front. -/
theorem push (chain : Chain next head l) {node : ℕ} (valid : node ≠ 0) (fresh : node ∉ l)
    (link : next' node = head) (same : ∀ other, other ≠ node → next' other = next other) :
    Chain next' node (node :: l) := by
  refine ⟨rfl, valid, ?_⟩
  rw [link]
  exact chain.congr fun other member => same other fun equal => fresh (equal ▸ member)

/-- Taking the head off. -/
theorem tail {node : ℕ} (chain : Chain next head (node :: l)) :
    head = node ∧ Chain next (next node) l := ⟨chain.1, chain.2.2⟩

theorem ne_zero (chain : Chain next head l) : ∀ node ∈ l, node ≠ 0 := by
  induction l generalizing head with
  | nil => exact fun node member => nomatch member
  | cons first rest induction_ =>
    intro node member
    rcases List.mem_cons.mp member with rfl | later
    · exact chain.2.1
    · exact induction_ chain.2.2 node later

end Chain

/-- Following the links from `head` visits the nodes of the list and then arrives at `stop`. -/
def Path (next : ℕ → ℕ) : ℕ → List ℕ → ℕ → Prop
  | head, [], stop => head = stop
  | head, node :: rest, stop => head = node ∧ node ≠ 0 ∧ Path next (next node) rest stop

namespace Path

variable {next next' : ℕ → ℕ} {head stop : ℕ} {l : List ℕ}

theorem congr (path : Path next head l stop) (same : ∀ node ∈ l, next' node = next node) :
    Path next' head l stop := by
  induction l generalizing head with
  | nil => exact path
  | cons node rest induction_ =>
    obtain ⟨first, valid, tail⟩ := path
    refine ⟨first, valid, ?_⟩
    rw [same node List.mem_cons_self]
    exact induction_ tail fun other member => same other (List.mem_cons_of_mem node member)

theorem append_iff {first second : List ℕ} :
    Path next head (first ++ second) stop ↔
      ∃ mid, Path next head first mid ∧ Path next mid second stop := by
  induction first generalizing head with
  | nil => simp [Path]
  | cons node rest induction_ => simp [Path, induction_, and_assoc]

/-- The last node is linked to another one. -/
theorem retarget {node stop' : ℕ} (path : Path next head (l ++ [node]) stop)
    (same : ∀ other ∈ l, next' other = next other) (link : next' node = stop') :
    Path next' head (l ++ [node]) stop' := by
  obtain ⟨mid, before, here, valid, -⟩ := append_iff.mp path
  exact append_iff.mpr ⟨mid, before.congr same, here, valid, link⟩

end Path

theorem Chain.path {next : ℕ → ℕ} {head : ℕ} {l : List ℕ} (chain : Chain next head l) :
    Path next head l 0 := by
  induction l generalizing head with
  | nil => exact chain
  | cons node rest induction_ => exact ⟨chain.1, chain.2.1, induction_ chain.2.2⟩

theorem Chain.append_iff {next : ℕ → ℕ} {head : ℕ} {first second : List ℕ} :
    Chain next head (first ++ second) ↔
      ∃ mid, Path next head first mid ∧ Chain next mid second := by
  induction first generalizing head with
  | nil => simp [Path]
  | cons node rest induction_ => simp [Path, Chain, induction_, and_assoc]

/-- The nodes on the way from `node`, at most `fuel` of them. -/
def walk (next : ℕ → ℕ) : ℕ → ℕ → List ℕ
  | 0, _ => []
  | fuel + 1, node => if node = 0 then [] else node :: walk next fuel (next node)

/-- With enough fuel the walk visits the whole chain. -/
theorem Chain.walk_eq {next : ℕ → ℕ} {head fuel : ℕ} {l : List ℕ} (chain : Chain next head l)
    (enough : l.length ≤ fuel) : walk next fuel head = l := by
  induction l generalizing head fuel with
  | nil =>
    have null : head = 0 := chain
    cases fuel <;> simp [walk, null]
  | cons node rest induction_ =>
    obtain ⟨rfl, valid, tail⟩ := chain
    cases fuel with
    | zero => exact absurd enough (Nat.not_succ_le_zero _)
    | succ fuel => rw [walk, if_neg valid, induction_ tail (Nat.le_of_succ_le_succ enough)]

end Zboss
