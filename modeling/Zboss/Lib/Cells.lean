import Mathlib.Data.List.InsertIdx
import Mathlib.Data.List.Nodup

/-!
Arrays in the memory of a C program, as total functions from the index.  The
first `n` cells are the live ones and form a list (`live`); what lies behind
them is whatever earlier writes left there.  `memmove` keeps the overlap
semantics of the C function, and the two moves every compact array makes, closing
a gap and opening one, are `List.eraseIdx` and `List.insertIdx` on the live part.
-/

namespace Zboss.Cells

variable {α : Type*}

/-- `memmove(&a[dst], &a[src], n)`: every cell is read before one is written. -/
def memmove (a : ℕ → α) (dst src n : ℕ) : ℕ → α := fun i =>
  if dst ≤ i ∧ i < dst + n then a (src + (i - dst)) else a i

/-- The contents of the first `n` cells. -/
def live (a : ℕ → α) (n : ℕ) : List α := (List.range n).map a

variable (a b : ℕ → α) (n : ℕ)

@[simp] theorem live_length : (live a n).length = n := by simp [live]

@[simp] theorem live_getElem (i : ℕ) (inside : i < (live a n).length) :
    (live a n)[i] = a i := by simp [live]

@[simp] theorem live_zero : live a 0 = [] := rfl

theorem live_succ : live a (n + 1) = live a n ++ [a n] := by
  simp [live, List.range_succ]

variable {a b n}

theorem mem_live {x : α} : x ∈ live a n ↔ ∃ i < n, a i = x := by
  simp [live]

theorem live_congr (same : ∀ i < n, a i = b i) : live a n = live b n := by
  apply List.map_congr_left
  intro i member
  exact same i (List.mem_range.mp member)

/-- A write behind the live cells is invisible. -/
theorem live_update_of_le {i : ℕ} (x : α) (behind : n ≤ i) :
    live (Function.update a i x) n = live a n :=
  live_congr fun j inside => Function.update_of_ne (by omega) x a

theorem live_take {m : ℕ} (shorter : m ≤ n) : (live a n).take m = live a m := by
  apply List.ext_getElem <;> simp [shorter]

theorem mem_live_drop {x : α} {i : ℕ} (member : x ∈ (live a n).drop i) :
    ∃ j, i ≤ j ∧ j < n ∧ a j = x := by
  obtain ⟨k, inside, found⟩ := List.mem_iff_getElem.mp member
  rw [List.length_drop, live_length] at inside
  rw [List.getElem_drop, live_getElem] at found
  exact ⟨i + k, by omega, by omega, found⟩

/-- Distinct live cells hold distinct values exactly when the list has no duplicates. -/
theorem live_nodup_iff :
    (live a n).Nodup ↔ ∀ i < n, ∀ j < n, a i = a j → i = j := by
  rw [live, List.nodup_map_iff_inj_on List.nodup_range]
  simp

/-- A relation between earlier and later live cells. -/
theorem live_pairwise_iff {r : α → α → Prop} :
    (live a n).Pairwise r ↔ ∀ i j, i < j → j < n → r (a i) (a j) := by
  rw [List.pairwise_iff_getElem]
  simp only [live_length, live_getElem]
  constructor
  · intro related i j before inside
    exact related i j (by omega) inside before
  · intro related i j _ inside before
    exact related i j before inside

/-- Overwriting a live cell changes a count by that cell alone. -/
theorem countP_live_update (p : α → Bool) {i : ℕ} (x : α) (inside : i < n) :
    (live (Function.update a i x) n).countP p + (if p (a i) then 1 else 0) =
      (live a n).countP p + if p x then 1 else 0 := by
  induction n with
  | zero => omega
  | succ n induction_ =>
    rw [live_succ, live_succ, List.countP_append, List.countP_append, List.countP_singleton,
      List.countP_singleton]
    by_cases last : i = n
    · subst last
      rw [live_update_of_le x (Nat.le_refl i), Function.update_self]
      omega
    · have earlier := induction_ (by omega)
      rw [Function.update_of_ne (Ne.symm last)]
      omega

/-- Cells that do not count may stand behind the others. -/
theorem filter_live_gap (p : α → Bool) {k m : ℕ} (shorter : k ≤ m)
    (gap : ∀ j, k ≤ j → j < m → p (a j) = false) :
    (live a m).filter p = (live a k).filter p := by
  induction shorter with
  | refl => rfl
  | step shorter induction_ =>
    rw [live_succ, List.filter_append, induction_ fun j low high => gap j low (by omega),
      List.filter_singleton, gap _ shorter (Nat.lt_succ_self _)]
    exact List.append_nil _

/-- Moving a cell down over cells that do not count keeps those that count, in their order. -/
theorem filter_live_move (p : α → Bool) {place i : ℕ} {x : α} (down : place < i) (inside : i < n)
    (gap : ∀ j, place ≤ j → j < i → p (a j) = false) (out : p x = false) :
    (live (Function.update (Function.update a place (a i)) i x) n).filter p =
      (live a n).filter p := by
  have before : ∀ j < i, Function.update (Function.update a place (a i)) i x j =
      Function.update a place (a i) j :=
    fun j low => Function.update_of_ne (Nat.ne_of_lt low) _ _
  have moved : (live (Function.update (Function.update a place (a i)) i x) i).filter p =
      (live a place).filter p ++ [a i].filter p := by
    rw [live_congr before, filter_live_gap p (k := place + 1) down fun j low high => by
        rw [Function.update_of_ne (by omega)]
        exact gap j (by omega) high,
      live_succ, List.filter_append, live_update_of_le _ (Nat.le_refl place), Function.update_self]
  induction inside with
  | refl =>
    rw [live_succ, live_succ, List.filter_append, List.filter_append, moved,
      filter_live_gap p (Nat.le_of_lt down) gap, Function.update_self, List.filter_singleton (a := x),
      out]
    exact List.append_nil _
  | step inside induction_ =>
    have behind := Nat.lt_of_succ_le inside
    rw [live_succ, live_succ, List.filter_append, List.filter_append, induction_,
      Function.update_of_ne (by omega), Function.update_of_ne (by omega)]

/-- Moving everything behind cell `i` one cell down removes that cell from the
live part; `m` may cover more cells than are live. -/
theorem live_memmove_down {i m : ℕ} (inside : i < n) (covers : n ≤ i + 1 + m) :
    live (memmove a i (i + 1) m) (n - 1) = (live a n).eraseIdx i := by
  apply List.ext_getElem
  · simp [List.length_eraseIdx_of_lt, inside]
  · intro j left right
    simp only [live_length] at left
    simp only [live_getElem, memmove, List.getElem_eraseIdx]
    by_cases before : j < i
    · simp [before, Nat.not_le.mpr before]
    · rw [if_pos (by omega), dif_neg before]
      congr 1
      omega

/-- Moving the cells from `i` on one cell up and writing `x` into the gap inserts `x`. -/
theorem live_memmove_up {i : ℕ} (x : α) (inside : i ≤ n) :
    live (Function.update (memmove a (i + 1) i (n - i)) i x) (n + 1) =
      (live a n).insertIdx i x := by
  apply List.ext_getElem
  · simp [List.length_insertIdx, inside]
  · intro j left right
    simp only [live_length] at left
    rw [live_getElem, List.getElem_insertIdx]
    rcases Nat.lt_trichotomy j i with before | rfl | behind
    · rw [Function.update_of_ne (by omega), dif_pos before]
      simp [memmove, Nat.not_le.mpr (Nat.lt_succ_of_lt before)]
    · simp
    · rw [Function.update_of_ne (by omega), dif_neg (by omega),
        dif_neg (by omega), live_getElem, memmove, if_pos (by omega)]
      congr 1
      omega

/-- `memcpy(&a[dst], xs, n)` for the `n` values of `xs`. -/
def memcpy (a : ℕ → α) (dst : ℕ) (xs : List α) : ℕ → α := fun i =>
  if dst ≤ i then xs.getD (i - dst) (a i) else a i

/-- The contents of the `n` cells from `first` on. -/
def segment (a : ℕ → α) (first n : ℕ) : List α := live (fun i => a (first + i)) n

@[simp] theorem segment_length (first : ℕ) : (segment a first n).length = n := live_length _ _

@[simp] theorem segment_getElem (first i : ℕ) (inside : i < (segment a first n).length) :
    (segment a first n)[i] = a (first + i) := live_getElem _ _ i inside

theorem segment_congr {first : ℕ} (same : ∀ i, first ≤ i → i < first + n → a i = b i) :
    segment a first n = segment b first n :=
  live_congr fun i inside => same (first + i) (Nat.le_add_right _ _) (Nat.add_lt_add_left inside _)

theorem segment_take {first m : ℕ} (shorter : m ≤ n) :
    (segment a first n).take m = segment a first m := live_take shorter

theorem segment_drop {first m : ℕ} :
    (segment a first n).drop m = segment a (first + m) (n - m) := by
  apply List.ext_getElem
  · simp
  · intro i left right
    simp [Nat.add_assoc]

/-- Cells in two parts. -/
theorem segment_add (first m n : ℕ) :
    segment a first (m + n) = segment a first m ++ segment a (first + m) n := by
  rw [← List.take_append_drop m (segment a first (m + n)), segment_take (Nat.le_add_right _ _),
    segment_drop, Nat.add_sub_cancel_left]

theorem segment_eq_append {first : ℕ} {xs ys : List α} (cells : segment a first n = xs ++ ys) :
    n = xs.length + ys.length ∧ segment a first xs.length = xs ∧
      segment a (first + xs.length) ys.length = ys := by
  have length : n = xs.length + ys.length := by
    rw [← List.length_append, ← cells, segment_length]
  rw [length, segment_add] at cells
  exact ⟨length, List.append_inj cells (segment_length _)⟩

/-- What is moved arrives in order. -/
theorem segment_memmove (dst src : ℕ) :
    segment (memmove a dst src n) dst n = segment a src n := by
  apply live_congr
  intro i inside
  rw [memmove, if_pos (by omega), Nat.add_sub_cancel_left]

/-- What is copied arrives. -/
theorem segment_memcpy (dst : ℕ) (xs : List α) : segment (memcpy a dst xs) dst xs.length = xs := by
  apply List.ext_getElem
  · simp
  · intro i left right
    simp [memcpy, right]

/-- Cells before the copy are as they were. -/
theorem segment_memcpy_before {first dst : ℕ} (xs : List α) (before : first + n ≤ dst) :
    segment (memcpy a dst xs) first n = segment a first n := by
  apply segment_congr
  intro i _ inside
  rw [memcpy, if_neg (by omega)]

/-- Cells behind the copy are as they were. -/
theorem segment_memcpy_behind {first dst : ℕ} (xs : List α) (behind : dst + xs.length ≤ first) :
    segment (memcpy a dst xs) first n = segment a first n := by
  apply segment_congr
  intro i low _
  rw [memcpy, if_pos (by omega), List.getD_eq_getElem?_getD, List.getElem?_eq_none (by omega)]
  rfl

/-- A copy over cells in the middle leaves those on both sides. -/
theorem segment_memcpy_over {first : ℕ} {front middle rest xs : List α}
    (cells : segment a first n = front ++ (middle ++ rest)) (same : xs.length = middle.length) :
    segment (memcpy a (first + front.length) xs) first n = front ++ (xs ++ rest) := by
  obtain ⟨length, before, others⟩ := segment_eq_append cells
  obtain ⟨length', -, behind⟩ := segment_eq_append others
  rw [length, length', ← same, segment_add, segment_add, segment_memcpy,
    segment_memcpy_before xs (Nat.le_refl _), segment_memcpy_behind xs (Nat.le_refl _), before, same,
    behind]

end Zboss.Cells
