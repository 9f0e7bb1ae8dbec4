import Mathlib.Data.List.Basic

/-!
Numbering the nodes of a tree by nested intervals.  A node of depth `d` owns a
block of `width d` numbers beginning with its own; each child slot has a place in
the block behind it, and the places of different slots do not overlap.  Inner
children own a block of the next depth, leaves a single number.  A node is named
by its path, the list of the slots from the root to it.
-/

namespace Zboss

/-- A scheme of nested blocks. -/
structure IntervalTree where
  width : ℕ → ℕ
  Slot : ℕ → ℕ → Prop
  Inner : ℕ → ℕ → Prop
  start : ℕ → ℕ → ℕ
  extent : ℕ → ℕ → ℕ
  start_pos : ∀ d s, 0 < start d s
  extent_pos : ∀ d s, 0 < extent d s
  inner_extent : ∀ d s, Inner d s → extent d s = width (d + 1)
  fits : ∀ d s, Slot d s → start d s + extent d s ≤ width d
  apart : ∀ d s t, s < t → start d s + extent d s ≤ start d t

namespace IntervalTree

variable (tree : IntervalTree)

/-- The slots exist and all but the last are inner. -/
def Valid (tree : IntervalTree) : ℕ → List ℕ → Prop
  | _, [] => True
  | d, s :: rest => tree.Slot d s ∧ (rest ≠ [] → tree.Inner d s) ∧ Valid tree (d + 1) rest

/-- The slots exist and are inner. -/
def InnerPath (tree : IntervalTree) : ℕ → List ℕ → Prop
  | _, [] => True
  | d, s :: rest => tree.Slot d s ∧ tree.Inner d s ∧ InnerPath tree (d + 1) rest

instance validDecidable [∀ d s, Decidable (tree.Slot d s)] [∀ d s, Decidable (tree.Inner d s)] :
    ∀ d path, Decidable (tree.Valid d path)
  | _, [] => isTrue trivial
  | d, s :: rest =>
    have := validDecidable (d + 1) rest
    inferInstanceAs (Decidable (tree.Slot d s ∧ (rest ≠ [] → tree.Inner d s) ∧ _))

instance innerPathDecidable [∀ d s, Decidable (tree.Slot d s)]
    [∀ d s, Decidable (tree.Inner d s)] : ∀ d path, Decidable (tree.InnerPath d path)
  | _, [] => isTrue trivial
  | d, s :: rest =>
    have := innerPathDecidable (d + 1) rest
    inferInstanceAs (Decidable (tree.Slot d s ∧ tree.Inner d s ∧ _))

/-- The number of a node relative to the node of depth `d` its path starts at. -/
def offset (tree : IntervalTree) : ℕ → List ℕ → ℕ
  | _, [] => 0
  | d, s :: rest => tree.start d s + offset tree (d + 1) rest

variable {tree} {d : ℕ} {path path' rest : List ℕ}

@[simp] theorem offset_nil : tree.offset d [] = 0 := rfl

theorem offset_cons (s : ℕ) :
    tree.offset d (s :: rest) = tree.start d s + tree.offset (d + 1) rest := rfl

theorem offset_append :
    tree.offset d (path ++ rest) = tree.offset d path + tree.offset (d + path.length) rest := by
  induction path generalizing d with
  | nil => simp
  | cons s path induction_ =>
    have depth : d + 1 + path.length = d + (path.length + 1) := by omega
    rw [List.cons_append, offset_cons, offset_cons, induction_, List.length_cons, depth,
      Nat.add_assoc]

theorem offset_pos (nonempty : path ≠ []) : 0 < tree.offset d path := by
  cases path with
  | nil => contradiction
  | cons s rest => exact Nat.add_pos_left (tree.start_pos d s) _

/-- A node's number lies in the place of the first slot of its path. -/
theorem offset_lt_extent (s : ℕ) (valid : tree.Valid d (s :: rest))
    (below : rest ≠ [] → tree.offset (d + 1) rest < tree.width (d + 1)) :
    tree.offset (d + 1) rest < tree.extent d s := by
  cases rest with
  | nil => exact tree.extent_pos d s
  | cons t rest =>
    rw [tree.inner_extent d s (valid.2.1 (List.cons_ne_nil t rest))]
    exact below (List.cons_ne_nil t rest)

/-- The descendants of a node lie in its block. -/
theorem offset_lt_width (valid : tree.Valid d path) (nonempty : path ≠ []) :
    tree.offset d path < tree.width d := by
  induction path generalizing d with
  | nil => contradiction
  | cons s rest induction_ =>
    have inside := offset_lt_extent s valid fun more => induction_ valid.2.2 more
    have fits := tree.fits d s valid.1
    rw [offset_cons]
    omega

/-- The first slot of a path can be read off the number. -/
theorem offset_mem_extent (s : ℕ) (valid : tree.Valid d (s :: rest)) :
    tree.start d s ≤ tree.offset d (s :: rest) ∧
      tree.offset d (s :: rest) < tree.start d s + tree.extent d s := by
  have inside := offset_lt_extent s valid fun more => offset_lt_width valid.2.2 more
  rw [offset_cons]
  omega

/-- Different nodes have different numbers. -/
theorem offset_injective (valid : tree.Valid d path) (valid' : tree.Valid d path')
    (same : tree.offset d path = tree.offset d path') : path = path' := by
  induction path generalizing d path' with
  | nil =>
    cases path' with
    | nil => rfl
    | cons s rest =>
      have positive : 0 < tree.offset d (s :: rest) := offset_pos (List.cons_ne_nil s rest)
      rw [← same, offset_nil] at positive
      omega
  | cons s rest induction_ =>
    cases path' with
    | nil =>
      have positive : 0 < tree.offset d (s :: rest) := offset_pos (List.cons_ne_nil s rest)
      rw [same, offset_nil] at positive
      omega
    | cons t rest' =>
      obtain ⟨low, high⟩ := offset_mem_extent s valid
      obtain ⟨low', high'⟩ := offset_mem_extent t valid'
      have slots : s = t := by
        rcases Nat.lt_trichotomy s t with before | equal | behind
        · have := tree.apart d s t before
          omega
        · exact equal
        · have := tree.apart d t s behind
          omega
      subst slots
      rw [offset_cons, offset_cons] at same
      rw [induction_ valid.2.2 valid'.2.2 (by omega)]

theorem InnerPath.valid (inner : tree.InnerPath d path) : tree.Valid d path := by
  induction path generalizing d with
  | nil => trivial
  | cons s rest induction_ => exact ⟨inner.1, fun _ => inner.2.1, induction_ inner.2.2⟩

/-- A longer path is valid when what is extended is inner. -/
theorem valid_append (nonempty : rest ≠ []) :
    tree.Valid d (path ++ rest) ↔ tree.InnerPath d path ∧ tree.Valid (d + path.length) rest := by
  induction path generalizing d with
  | nil => simp [InnerPath]
  | cons t path induction_ =>
    have depth : d + 1 + path.length = d + (path.length + 1) := by omega
    have more : path ++ rest ≠ [] := by simp [nonempty]
    rw [List.cons_append, Valid, induction_, InnerPath, List.length_cons, depth]
    constructor
    · rintro ⟨slot, inner, before, last⟩
      exact ⟨⟨slot, inner more, before⟩, last⟩
    · rintro ⟨⟨slot, inner, before⟩, last⟩
      exact ⟨slot, fun _ => inner, before, last⟩

theorem valid_append_singleton {s : ℕ} :
    tree.Valid d (path ++ [s]) ↔ tree.InnerPath d path ∧ tree.Slot (d + path.length) s := by
  rw [valid_append (List.cons_ne_nil s [])]
  simp [Valid]

theorem innerPath_append_singleton {s : ℕ} :
    tree.InnerPath d (path ++ [s]) ↔
      tree.InnerPath d path ∧ tree.Slot (d + path.length) s ∧ tree.Inner (d + path.length) s := by
  induction path generalizing d with
  | nil => simp [InnerPath]
  | cons t path induction_ =>
    have depth : d + 1 + path.length = d + (path.length + 1) := by omega
    rw [List.cons_append, InnerPath, induction_, InnerPath, List.length_cons, depth, and_assoc,
      and_assoc]

theorem offset_append_singleton {s : ℕ} :
    tree.offset d (path ++ [s]) = tree.offset d path + tree.start (d + path.length) s := by
  rw [offset_append, offset_cons, offset_nil, Nat.add_zero]

/-- The block of an inner node lies in the block of the node its path starts at. -/
theorem block_le (inner : tree.InnerPath d path) :
    tree.offset d path + tree.width (d + path.length) ≤ tree.width d := by
  induction path generalizing d with
  | nil => simp
  | cons s rest induction_ =>
    have below := induction_ inner.2.2
    have fits := tree.fits d s inner.1
    rw [tree.inner_extent d s inner.2.1] at fits
    have depth : d + (rest.length + 1) = d + 1 + rest.length := by omega
    rw [offset_cons, List.length_cons, depth]
    omega

/-- What lies below a node lies in its block. -/
theorem mem_block (valid : tree.Valid d (path ++ rest)) (nonempty : rest ≠ []) :
    tree.offset d path < tree.offset d (path ++ rest) ∧
      tree.offset d (path ++ rest) < tree.offset d path + tree.width (d + path.length) := by
  have below := ((valid_append nonempty).mp valid).2
  rw [offset_append]
  exact ⟨Nat.lt_add_of_pos_right (offset_pos nonempty),
    Nat.add_lt_add_left (offset_lt_width below nonempty) _⟩

/-- What lies in the block of an inner node lies below it. -/
theorem prefix_of_mem_block (inner : tree.InnerPath d path) (valid : tree.Valid d path')
    (low : tree.offset d path ≤ tree.offset d path')
    (high : tree.offset d path' < tree.offset d path + tree.width (d + path.length)) :
    path <+: path' := by
  induction path generalizing d path' with
  | nil => exact List.nil_prefix
  | cons s path induction_ =>
    obtain ⟨slot, innerSlot, inner⟩ := inner
    cases path' with
    | nil =>
      have positive : 0 < tree.offset d (s :: path) := offset_pos (List.cons_ne_nil s path)
      rw [offset_nil] at low
      omega
    | cons t path' =>
      have depth : d + (path.length + 1) = d + 1 + path.length := by omega
      obtain ⟨low', high'⟩ := offset_mem_extent t valid
      have block := block_le inner
      rw [← tree.inner_extent d s innerSlot] at block
      rw [offset_cons s, List.length_cons, depth] at high
      rw [offset_cons s] at low
      have slots : s = t := by
        rcases Nat.lt_trichotomy s t with before | equal | behind
        · have := tree.apart d s t before
          omega
        · exact equal
        · have := tree.apart d t s behind
          omega
      subst slots
      rw [offset_cons] at low high
      exact (List.cons_prefix_cons).mpr ⟨rfl, induction_ inner valid.2.2 (by omega) (by omega)⟩

end IntervalTree

end Zboss
