import Mathlib.Algebra.Order.BigOperators.Group.Finset
import Mathlib.Algebra.Ring.GeomSum
import Mathlib.Tactic.IntervalCases
import Mathlib.Tactic.Linarith
import Mathlib.Tactic.LinearCombination
import Mathlib.Tactic.Ring
import Zboss.Lib.IntervalTree

/-!
The distributed address assignment (`nwk_address_assign.c` and the address macros
of `nwk_internal.h`).  A device of depth `d` owns `1 + Cm * (1 + Rm + .. )`
addresses; the blocks of its router children and the single addresses of its end
devices lie behind its own address.  `zb_nwk_daa_calc_cskip` computes the size of a
child's block with a 16-bit power and a truncating division, which is exact as
long as the coordinator's block fits in 16 bits.
-/

namespace Zboss.TreeAddress

open Zboss.IntervalTree

/-- The parameters of the NIB the scheme depends on, all of them octets. -/
structure TreeParams where
  maxChildren : ℕ
  maxRouters : ℕ
  maxDepth : ℕ
  maxChildren_lt : maxChildren < 2 ^ 8 := by decide
  maxRouters_lt : maxRouters < 2 ^ 8 := by decide
  maxDepth_lt : maxDepth < 2 ^ 8 := by decide

/-- Two children of a parent, one of them a router, three levels. -/
def smallTree : TreeParams where
  maxChildren := 2
  maxRouters := 1
  maxDepth := 3

/-- Two router children of a parent, three levels. -/
def binaryTree : TreeParams where
  maxChildren := 2
  maxRouters := 2
  maxDepth := 3

/-- `1 + Rm + .. + Rm ^ (k - 1)`. -/
def geomSum (r k : ℕ) : ℕ := ∑ i ∈ Finset.range k, r ^ i

/-- The number of addresses in the block of a device of depth `d`. -/
def blockSize (nib : TreeParams) (d : ℕ) : ℕ :=
  1 + nib.maxChildren * geomSum nib.maxRouters (nib.maxDepth - d)

/-- The coordinator's block fits in 16 bits. -/
def Fits (nib : TreeParams) : Prop := blockSize nib 0 ≤ 2 ^ 16

instance (nib : TreeParams) : Decidable (Fits nib) := inferInstanceAs (Decidable (_ ≤ _))

/-- Conversion to `zb_uint16_t`. -/
def toUint16 (z : ℤ) : ℕ := (z % 2 ^ 16).toNat

/-- The loop `tmp *= max_routers` on a `zb_uint16_t`. -/
def powerLoop (maxRouters : ℕ) : ℕ → ℕ → ℕ
  | 0, tmp => tmp
  | rounds + 1, tmp => powerLoop maxRouters rounds (tmp * maxRouters % 2 ^ 16)

/-- `zb_nwk_daa_calc_cskip`.  An `int` has 32 bits, so nothing overflows before the conversion. -/
def daaCalcCskip (nib : TreeParams) (depth : ℕ) : ℕ :=
  if nib.maxRouters = 1 then
    toUint16 (1 + nib.maxChildren * ((nib.maxDepth : ℤ) - depth - 1))
  else
    let tmp := powerLoop nib.maxRouters (nib.maxDepth - depth - 1) 1
    let num : ℤ := 1 + nib.maxChildren - nib.maxRouters - nib.maxChildren * tmp
    let den : ℤ := 1 - nib.maxRouters
    toUint16 (num.tdiv den)

/-! ## The scheme as nested blocks -/

theorem geomSum_succ (r k : ℕ) : geomSum r (k + 1) = 1 + r * geomSum r k := by
  rw [geomSum, geomSum, geom_sum_succ, Nat.add_comm]

theorem geomSum_mono (r : ℕ) {k m : ℕ} (le : k ≤ m) : geomSum r k ≤ geomSum r m :=
  Finset.sum_le_sum_of_subset (Finset.range_subset_range.mpr le)

theorem blockSize_pos (nib : TreeParams) (d : ℕ) : 0 < blockSize nib d := by
  rw [blockSize]; omega

theorem blockSize_antitone (nib : TreeParams) {d e : ℕ} (le : d ≤ e) :
    blockSize nib e ≤ blockSize nib d :=
  Nat.add_le_add_left (Nat.mul_le_mul_left _ (geomSum_mono _ (by omega))) 1

/-- The recurrence of the blocks, in the form the address macros use it. -/
theorem blockSize_succ {nib : TreeParams} {d : ℕ} (shallow : d < nib.maxDepth) :
    blockSize nib d + nib.maxRouters =
      1 + nib.maxChildren + nib.maxRouters * blockSize nib (d + 1) := by
  have depth : nib.maxDepth - d = nib.maxDepth - (d + 1) + 1 := by omega
  rw [blockSize, blockSize, depth, geomSum_succ]
  ring

/-- Slots below `Rm` are router children, the others end devices; a device has
`Cm` of them. -/
def cskipTree (nib : TreeParams) : IntervalTree where
  width := blockSize nib
  Slot d s := d < nib.maxDepth ∧ s < nib.maxChildren
  Inner _ s := s < nib.maxRouters
  start d s :=
    if s < nib.maxRouters then s * blockSize nib (d + 1) + 1
    else nib.maxRouters * blockSize nib (d + 1) + (s - nib.maxRouters) + 1
  extent d s := if s < nib.maxRouters then blockSize nib (d + 1) else 1
  start_pos d s := by split <;> omega
  extent_pos d s := by
    split
    · exact blockSize_pos nib (d + 1)
    · exact Nat.one_pos
  inner_extent d s inner := if_pos inner
  fits d s slot := by
    obtain ⟨shallow, few⟩ := slot
    have recurrence := blockSize_succ shallow
    obtain ⟨size, sizeDef⟩ : ∃ size, blockSize nib (d + 1) = size + 1 :=
      ⟨blockSize nib (d + 1) - 1, by have := blockSize_pos nib (d + 1); omega⟩
    rw [sizeDef] at recurrence ⊢
    split
    · next router =>
      have routers : (s + 1) * size ≤ nib.maxRouters * size := Nat.mul_le_mul_right size router
      nlinarith
    · next device =>
      have split : s = nib.maxRouters + (s - nib.maxRouters) := by omega
      nlinarith
  apart d s t before := by
    have size := blockSize_pos nib (d + 1)
    by_cases router : t < nib.maxRouters
    · rw [if_pos (by omega), if_pos (by omega), if_pos router]
      have := Nat.mul_le_mul_right (blockSize nib (d + 1)) (show s + 1 ≤ t from before)
      nlinarith
    · rw [if_neg router]
      by_cases left : s < nib.maxRouters
      · rw [if_pos left, if_pos left]
        have := Nat.mul_le_mul_right (blockSize nib (d + 1)) (show s + 1 ≤ nib.maxRouters from left)
        nlinarith
      · rw [if_neg left, if_neg left]
        omega

instance (nib : TreeParams) (d s : ℕ) : Decidable ((cskipTree nib).Slot d s) :=
  inferInstanceAs (Decidable (_ ∧ _))

instance (nib : TreeParams) (d s : ℕ) : Decidable ((cskipTree nib).Inner d s) :=
  inferInstanceAs (Decidable (_ < _))

@[simp] theorem cskipTree_width (nib : TreeParams) : (cskipTree nib).width = blockSize nib := rfl

/-- Only devices above the maximal depth have slots. -/
theorem valid_length_le {nib : TreeParams} {d : ℕ} {path : List ℕ}
    (valid : (cskipTree nib).Valid d path) (nonempty : path ≠ []) :
    d + path.length ≤ nib.maxDepth := by
  induction path generalizing d with
  | nil => contradiction
  | cons s rest induction_ =>
    have shallow : d < nib.maxDepth := valid.1.1
    cases rest with
    | nil => simpa using shallow
    | cons t rest =>
      have below := induction_ valid.2.2 (List.cons_ne_nil t rest)
      rw [List.length_cons]
      omega

/-- Every address of the tree is a 16-bit number. -/
theorem offset_lt {nib : TreeParams} (fits : Fits nib) {path : List ℕ}
    (valid : (cskipTree nib).Valid 0 path) : (cskipTree nib).offset 0 path < 2 ^ 16 := by
  cases path with
  | nil => exact Nat.two_pow_pos 16
  | cons s rest =>
    have inside := offset_lt_width valid (List.cons_ne_nil s rest)
    exact Nat.lt_of_lt_of_le inside fits

/-! ## The computed block size -/

theorem toUint16_natCast {n : ℕ} (small : n < 2 ^ 16) : toUint16 n = n := by
  rw [toUint16]
  omega

theorem powerLoop_eq (maxRouters rounds : ℕ) {tmp : ℕ} (small : tmp < 2 ^ 16) :
    powerLoop maxRouters rounds tmp = tmp * maxRouters ^ rounds % 2 ^ 16 := by
  induction rounds generalizing tmp with
  | zero => rw [powerLoop, Nat.pow_zero, Nat.mul_one, Nat.mod_eq_of_lt small]
  | succ rounds induction_ =>
    have power : maxRouters ^ (rounds + 1) = maxRouters * maxRouters ^ rounds := Nat.pow_succ'
    rw [powerLoop, induction_ (Nat.mod_lt _ (by decide)), Nat.mod_mul_mod, power, Nat.mul_assoc]

theorem geomSum_zero_le (k : ℕ) : geomSum 0 k ≤ 1 := by
  cases k with
  | zero => exact Nat.zero_le 1
  | succ k => rw [geomSum_succ, Nat.zero_mul]

/-- A child's block is a proper part of the 16-bit address space. -/
theorem blockSize_lt {nib : TreeParams} (fits : Fits nib) {d : ℕ} (shallow : d < nib.maxDepth) :
    blockSize nib (d + 1) < 2 ^ 16 := by
  have parent : blockSize nib d ≤ 2 ^ 16 :=
    Nat.le_trans (blockSize_antitone nib (Nat.zero_le d)) fits
  have recurrence := blockSize_succ shallow
  have children := nib.maxChildren_lt
  rcases Nat.eq_zero_or_pos nib.maxRouters with none | some
  · have sum := geomSum_zero_le (nib.maxDepth - (d + 1))
    rw [blockSize, none]
    have := Nat.mul_le_mul_left nib.maxChildren sum
    omega
  · rcases Nat.eq_zero_or_pos nib.maxChildren with alone | more
    · rw [blockSize, alone]
      omega
    · obtain ⟨size, sizeDef⟩ : ∃ size, blockSize nib (d + 1) = size + 1 :=
        ⟨blockSize nib (d + 1) - 1, by have := blockSize_pos nib (d + 1); omega⟩
      rw [sizeDef] at recurrence ⊢
      have := Nat.mul_le_mul_right size some
      rw [Nat.mul_add] at recurrence
      omega

/-- The power of the loop does not overflow when there are children to count. -/
theorem power_lt {nib : TreeParams} (fits : Fits nib) {k : ℕ} (short : k < nib.maxDepth)
    (children : 0 < nib.maxChildren) : nib.maxRouters ^ k < 2 ^ 16 := by
  have single : nib.maxRouters ^ k ≤ geomSum nib.maxRouters nib.maxDepth :=
    Finset.single_le_sum (f := fun i => nib.maxRouters ^ i) (fun _ _ => Nat.zero_le _)
      (Finset.mem_range.mpr short)
  have whole : 1 + nib.maxChildren * geomSum nib.maxRouters nib.maxDepth ≤ 2 ^ 16 := fits
  have := Nat.mul_le_mul_right (geomSum nib.maxRouters nib.maxDepth) children
  omega

/-- The geometric series behind the division of `zb_nwk_daa_calc_cskip`. -/
theorem cskip_numerator (cm rm k : ℕ) :
    (1 + cm - rm - cm * (rm ^ k : ℕ) : ℤ) = (1 - rm) * ((1 + cm * geomSum rm k : ℕ) : ℤ) := by
  have series := mul_geom_sum (rm : ℤ) k
  rw [geomSum]
  push_cast
  linear_combination (cm : ℤ) * series

/-- The dividend of `zb_nwk_daa_calc_cskip` is a multiple of the divisor. -/
theorem numerator_eq {nib : TreeParams} (fits : Fits nib) {depth k : ℕ}
    (depthDef : nib.maxDepth = depth + 1 + k) :
    (1 + nib.maxChildren - nib.maxRouters -
      nib.maxChildren * (powerLoop nib.maxRouters k 1 : ℕ) : ℤ) =
        (1 - nib.maxRouters) * ((blockSize nib (depth + 1) : ℕ) : ℤ) := by
  have size : blockSize nib (depth + 1) = 1 + nib.maxChildren * geomSum nib.maxRouters k := by
    rw [blockSize, depthDef, Nat.add_sub_cancel_left]
  rcases Nat.eq_zero_or_pos nib.maxChildren with alone | more
  · simp [size, alone]
  · rw [powerLoop_eq _ _ (by decide), Nat.one_mul,
      Nat.mod_eq_of_lt (power_lt fits (by omega) more), cskip_numerator, size]

/-- Below the maximal depth the computed skip is the block size of a child. -/
theorem daaCalcCskip_eq {nib : TreeParams} (fits : Fits nib) {depth : ℕ}
    (shallow : depth < nib.maxDepth) : daaCalcCskip nib depth = blockSize nib (depth + 1) := by
  obtain ⟨k, depthDef⟩ : ∃ k, nib.maxDepth = depth + 1 + k := ⟨nib.maxDepth - depth - 1, by omega⟩
  have rounds : nib.maxDepth - depth - 1 = k := by omega
  have size : blockSize nib (depth + 1) = 1 + nib.maxChildren * geomSum nib.maxRouters k := by
    rw [blockSize, Nat.sub_add_eq, rounds]
  have bounded := blockSize_lt fits shallow
  rw [daaCalcCskip, rounds]
  by_cases single : nib.maxRouters = 1
  · rw [if_pos single]
    have sum : geomSum nib.maxRouters k = k := by simp [geomSum, single]
    have linear : (1 + nib.maxChildren * ((nib.maxDepth : ℤ) - depth - 1)) =
        ((blockSize nib (depth + 1) : ℕ) : ℤ) := by
      rw [size, sum, depthDef]
      push_cast
      ring
    rw [linear, toUint16_natCast bounded]
  · rw [if_neg single]
    have nonzero : (1 - nib.maxRouters : ℤ) ≠ 0 := by omega
    dsimp only
    rw [numerator_eq fits depthDef, Int.mul_tdiv_cancel_left _ nonzero, toUint16_natCast bounded]

/-! ## Blocks and 16-bit comparisons -/

theorem not_dvd_twice : ∀ r < 2 ^ 8, 2 ≤ r → ¬ (r ∣ 65535 ∧ r ∣ 65535 / r - 1) := by
  decide +kernel

/-- No geometric sum of octets is `2 ^ 16`: the ratio would divide `65535` and the
quotient less one. -/
theorem geomSum_ne {r k : ℕ} (octet : r < 2 ^ 8) (few : k ≤ 2 ^ 8) : geomSum r k ≠ 2 ^ 16 := by
  intro equal
  rcases Nat.lt_or_ge r 2 with small | two
  · interval_cases r
    · have := geomSum_zero_le k
      omega
    · have count : geomSum 1 k = k := by simp [geomSum]
      omega
  · match k with
    | 0 | 1 => simp [geomSum] at equal
    | k + 2 =>
      rw [geomSum_succ, geomSum_succ] at equal
      have product : 65535 = r * (1 + r * geomSum r k) := by omega
      have quotient := Nat.div_eq_of_eq_mul_right (by omega) product
      refine not_dvd_twice r octet two ⟨Dvd.intro _ product.symm, ?_⟩
      rw [quotient, Nat.add_sub_cancel_left]
      exact Nat.dvd_mul_right r _

/-- The block of the coordinator's child `s` ends before `2 ^ 16`. -/
theorem childBlock_lt {nib : TreeParams} (fits : Fits nib) {s : ℕ} (shallow : 0 < nib.maxDepth)
    (child : s < nib.maxChildren) (router : s < nib.maxRouters) :
    (s + 1) * blockSize nib 1 + 1 < 2 ^ 16 := by
  have recurrence := blockSize_succ shallow
  have octet := nib.maxChildren_lt
  obtain ⟨size, sizeDef⟩ : ∃ size, blockSize nib 1 = size + 1 :=
    ⟨blockSize nib 1 - 1, by have := blockSize_pos nib 1; omega⟩
  have whole : blockSize nib 0 ≤ 2 ^ 16 := fits
  rw [Nat.zero_add, sizeDef, Nat.mul_add] at recurrence
  rw [sizeDef, Nat.mul_add]
  have slots : (s + 1) * size ≤ nib.maxRouters * size := Nat.mul_le_mul_right size router
  by_contra large
  -- then the child is the last slot, and there are as many routers as children
  have last : s + 1 = nib.maxChildren := by omega
  have full : (s + 1) * size = nib.maxRouters * size := by omega
  rcases Nat.eq_or_lt_of_le router with same | more
  · have whole : geomSum nib.maxRouters (nib.maxDepth + 1) = 2 ^ 16 := by
      rw [geomSum_succ, ← same, Nat.succ_eq_add_one, last]
      have block : blockSize nib 0 = 1 + nib.maxChildren * geomSum nib.maxChildren nib.maxDepth := by
        rw [blockSize, ← same, Nat.succ_eq_add_one, last, Nat.sub_zero]
      omega
    exact geomSum_ne nib.maxRouters_lt nib.maxDepth_lt whole
  · have none : size = 0 := by
      rcases Nat.eq_zero_or_pos size with none | some
      · exact none
      · have := Nat.mul_lt_mul_of_pos_right (show s + 1 < nib.maxRouters from more) some
        omega
    rw [none] at large
    omega

/-- Every block below the coordinator's ends before `2 ^ 16`. -/
theorem block_end_lt {nib : TreeParams} (fits : Fits nib) {path : List ℕ}
    (inner : (cskipTree nib).InnerPath 0 path) (nonempty : path ≠ []) :
    (cskipTree nib).offset 0 path + blockSize nib path.length < 2 ^ 16 := by
  cases path with
  | nil => contradiction
  | cons s rest =>
    obtain ⟨⟨shallow, child⟩, router, inner⟩ := inner
    have below := block_le (d := 1) inner
    have first := childBlock_lt fits shallow child router
    have start : (cskipTree nib).start 0 s = s * blockSize nib 1 + 1 := if_pos router
    rw [cskipTree_width] at below
    rw [offset_cons, Nat.zero_add, start, List.length_cons, Nat.add_comm rest.length]
    rw [Nat.add_mul, Nat.one_mul] at first
    omega

/-- The addresses below the coordinator's children are compared without overflow. -/
theorem routerSlot_lt {nib : TreeParams} (fits : Fits nib) {d i : ℕ} (deep : 0 < d)
    (shallow : d < nib.maxDepth) (router : i < nib.maxRouters) :
    blockSize nib (d + 1) * i + 1 < 2 ^ 16 := by
  obtain ⟨e, rfl⟩ : ∃ e, d = e + 1 := ⟨d - 1, by omega⟩
  have above := blockSize_succ (show e < nib.maxDepth by omega)
  have here := blockSize_succ shallow
  have octet := nib.maxRouters_lt
  have whole : blockSize nib e ≤ 2 ^ 16 :=
    Nat.le_trans (blockSize_antitone nib (Nat.zero_le e)) fits
  have slot := Nat.mul_le_mul_left (blockSize nib (e + 1 + 1)) (Nat.le_of_lt router)
  rw [Nat.mul_comm _ nib.maxRouters] at slot
  rcases Nat.lt_or_ge nib.maxRouters 2 with single | two
  · have zero : i = 0 := by omega
    rw [zero]
    omega
  · have := Nat.mul_le_mul_right (blockSize nib (e + 1)) two
    omega

end Zboss.TreeAddress
