import Mathlib

/-!
The block cipher Rijndael with blocks of four columns: octets as polynomials over two elements
modulo `x ^ 8 + x ^ 4 + x ^ 3 + x + 1`, the four layers as permutations of the state, and the
schedule of the round keys as a recursion over columns.  That a layer is a permutation is part of its
type, so a cipher built of layers can be undone whatever its round keys are.
-/

namespace Zboss.Rijndael

/-! ## Octets as polynomials -/

/-- The product with `x`; bit `i` is the coefficient of `x ^ i`. -/
def xtime (n : ℕ) : ℕ := n <<< 1 ^^^ if n.testBit 7 then 0x11B else 0

/-- The product of the lowest `k` bits of `n` with `m`. -/
def product : ℕ → ℕ → ℕ → ℕ
  | 0, _, _ => 0
  | k + 1, n, m =>
    if n = 0 then 0 else (if n.testBit 0 then m else 0) ^^^ product k (n >>> 1) (xtime m)

/-- The product of octets. -/
def mul (a b : UInt8) : UInt8 := UInt8.ofNat (product 8 a.toNat b.toNat)

/-- `b` is the inverse of `a`, where that of 0 is 0. -/
def Inverse (a b : UInt8) : Prop := mul a b = 1 ∨ a = 0 ∧ b = 0

instance (a b : UInt8) : Decidable (Inverse a b) := inferInstanceAs (Decidable (_ ∨ _))

/-- Rotate to the left. -/
def rotate (n : UInt8) (a : UInt8) : UInt8 := a <<< n ||| a >>> (8 - n)

/-- The affine map of the bits. -/
def affine (b : UInt8) : UInt8 :=
  b ^^^ rotate 1 b ^^^ rotate 2 b ^^^ rotate 3 b ^^^ rotate 4 b ^^^ 0x63

/-- The affine map undone. -/
def unaffine (c : UInt8) : UInt8 := rotate 1 c ^^^ rotate 3 c ^^^ rotate 6 c ^^^ 0x05

/-- A substitution by the inverse, under the affine map. -/
def IsSubstitution (sbox : UInt8 → UInt8) : Prop := ∀ a, ∃ b, Inverse a b ∧ sbox a = affine b

/-- What holds for the 256 octets holds for all. -/
theorem forall_octet {p : UInt8 → Prop} [DecidablePred p]
    (checked : (List.range 256).all (fun i => decide (p (UInt8.ofNat i))) = true) (a : UInt8) :
    p a := by
  have holds := List.all_eq_true.mp checked a.toNat (List.mem_range.mpr a.toNat_lt)
  rwa [decide_eq_true_eq, UInt8.ofNat_toNat] at holds

theorem xtime_xor (n m : ℕ) : xtime (n ^^^ m) = xtime n ^^^ xtime m := by
  have twice : (0x11B : ℕ) ^^^ 0x11B = 0 := rfl
  simp only [xtime, Nat.shiftLeft_xor_distrib, Nat.testBit_xor]
  cases n.testBit 7 <;> cases m.testBit 7
  case false.false => simp only [Bool.xor_false, Bool.false_eq_true, if_false, Nat.xor_zero]
  case false.true => simp only [Bool.false_xor, Bool.false_eq_true, if_false, if_true, Nat.xor_zero,
    Nat.xor_assoc]
  case true.false =>
    simp only [Bool.xor_false, Bool.false_eq_true, if_false, if_true, Nat.xor_zero]
    ac_rfl
  case true.true =>
    have apart : n <<< 1 ^^^ 0x11B ^^^ (m <<< 1 ^^^ 0x11B) =
        n <<< 1 ^^^ m <<< 1 ^^^ ((0x11B : ℕ) ^^^ 0x11B) := by ac_rfl
    simp only [Bool.xor_self, Bool.false_eq_true, if_false, if_true]
    rw [apart, twice]

theorem product_xor (k n a b : ℕ) :
    product k n (a ^^^ b) = product k n a ^^^ product k n b := by
  induction k generalizing n a b with
  | zero => exact (Nat.xor_self 0).symm
  | succ k ih =>
    simp only [product]
    by_cases zero : n = 0
    · simp only [if_pos zero, Nat.xor_zero]
    · rw [if_neg zero, if_neg zero, if_neg zero, xtime_xor, ih]
      cases n.testBit 0 with
      | false => simp only [Bool.false_eq_true, if_false, Nat.zero_xor]
      | true => simp only [if_true]; ac_rfl

/-- A product distributes over the sum. -/
theorem mul_xor (c a b : UInt8) : mul c (a ^^^ b) = mul c a ^^^ mul c b := by
  rw [mul, UInt8.toNat_xor, product_xor, UInt8.ofNat_xor]
  rfl

theorem xor_xor_self (a b : UInt8) : a ^^^ b ^^^ b = a := by
  rw [UInt8.xor_assoc, UInt8.xor_self, UInt8.xor_zero]

/-! ## The layers -/

/-- Four octets. -/
abbrev Column := Fin 4 → UInt8

/-- Four columns. -/
abbrev State := Fin 4 → Column

local instance column_neZero : NeZero 4 := ⟨by decide⟩

def addColumn (a b : Column) : Column := fun r => a r ^^^ b r

theorem addColumn_addColumn (a b : Column) : addColumn (addColumn a b) b = a :=
  funext fun _ => xor_xor_self _ _

/-- The substitution in every octet. -/
def subBytes (sbox : Equiv.Perm UInt8) : Equiv.Perm State where
  toFun s := fun c r => sbox (s c r)
  invFun s := fun c r => sbox.symm (s c r)
  left_inv _ := funext fun _ => funext fun _ => sbox.symm_apply_apply _
  right_inv _ := funext fun _ => funext fun _ => sbox.apply_symm_apply _

/-- Row `r` moves by `r` columns. -/
def shiftRows : Equiv.Perm State where
  toFun s := fun c r => s (c + r) r
  invFun s := fun c r => s (c - r) r
  left_inv s := funext fun c => funext fun r => congrArg (s · r) (sub_add_cancel c r)
  right_inv s := funext fun c => funext fun r => congrArg (s · r) (add_sub_cancel_right c r)

/-- The product of a column with a polynomial in columns, modulo `y ^ 4 + 1`; row `r` of the
result has the coefficients from row `r` on. -/
def mixColumn (m a : Column) : Column := fun r =>
  mul (m 0) (a r) ^^^ mul (m 1) (a (r + 1)) ^^^ mul (m 2) (a (r + 2)) ^^^ mul (m 3) (a (r + 3))

/-- The coefficients of the layer. -/
def mixing : Column := ![2, 3, 1, 1]

/-- The coefficients that undo it. -/
def unmixing : Column := ![14, 11, 13, 9]

/-- The share that an octet, `k` rows behind, has in a column mixed by `m` and then by `m'`. -/
def share (m' m : Column) (k : Fin 4) (a : UInt8) : UInt8 :=
  mul (m' 0) (mul (m k) a) ^^^ mul (m' 1) (mul (m (k - 1)) a) ^^^ mul (m' 2) (mul (m (k - 2)) a) ^^^
    mul (m' 3) (mul (m (k - 3)) a)

theorem mixColumn_mixColumn (m' m a : Column) (r : Fin 4) : mixColumn m' (mixColumn m a) r =
    share m' m 0 (a r) ^^^ share m' m 1 (a (r + 1)) ^^^ share m' m 2 (a (r + 2)) ^^^
      share m' m 3 (a (r + 3)) := by
  have wrap : ∀ r : Fin 4, r + 1 + 1 = r + 2 ∧ r + 1 + 2 = r + 3 ∧ r + 1 + 3 = r ∧ r + 2 + 1 = r + 3 ∧
      r + 2 + 2 = r ∧ r + 2 + 3 = r + 1 ∧ r + 3 + 1 = r ∧ r + 3 + 2 = r + 1 ∧ r + 3 + 3 = r + 2 := by
    decide
  obtain ⟨h11, h12, h13, h21, h22, h23, h31, h32, h33⟩ := wrap r
  have rows : (0 : Fin 4) - 1 = 3 ∧ (0 : Fin 4) - 2 = 2 ∧ (0 : Fin 4) - 3 = 1 ∧ (1 : Fin 4) - 1 = 0 ∧
      (1 : Fin 4) - 2 = 3 ∧ (1 : Fin 4) - 3 = 2 ∧ (2 : Fin 4) - 1 = 1 ∧ (2 : Fin 4) - 2 = 0 ∧
      (2 : Fin 4) - 3 = 3 ∧ (3 : Fin 4) - 1 = 2 ∧ (3 : Fin 4) - 2 = 1 ∧ (3 : Fin 4) - 3 = 0 := by
    decide
  obtain ⟨e01, e02, e03, e11, e12, e13, e21, e22, e23, e31, e32, e33⟩ := rows
  simp only [mixColumn, share, mul_xor, h11, h12, h13, h21, h22, h23, h31, h32, h33, e01, e02, e03,
    e11, e12, e13, e21, e22, e23, e31, e32, e33]
  ac_rfl

theorem unmixColumn_mixColumn (a : Column) : mixColumn unmixing (mixColumn mixing a) = a := by
  have products : ∀ v,
      mul 14 (mul 2 v) ^^^ mul 11 (mul 1 v) ^^^ mul 13 (mul 1 v) ^^^ mul 9 (mul 3 v) = v ∧
      mul 14 (mul 3 v) ^^^ mul 11 (mul 2 v) ^^^ mul 13 (mul 1 v) ^^^ mul 9 (mul 1 v) = 0 ∧
      mul 14 (mul 1 v) ^^^ mul 11 (mul 3 v) ^^^ mul 13 (mul 2 v) ^^^ mul 9 (mul 1 v) = 0 ∧
      mul 14 (mul 1 v) ^^^ mul 11 (mul 1 v) ^^^ mul 13 (mul 3 v) ^^^ mul 9 (mul 2 v) = 0 := by
    apply forall_octet
    decide +kernel
  have shares : ∀ v, share unmixing mixing 0 v = v ∧ share unmixing mixing 1 v = 0 ∧
      share unmixing mixing 2 v = 0 ∧ share unmixing mixing 3 v = 0 := products
  funext r
  rw [mixColumn_mixColumn, (shares (a r)).1, (shares (a (r + 1))).2.1, (shares (a (r + 2))).2.2.1,
    (shares (a (r + 3))).2.2.2, UInt8.xor_zero, UInt8.xor_zero, UInt8.xor_zero]

/-- The columns are finitely many, so the other order changes nothing either. -/
theorem mixColumn_unmixColumn (a : Column) : mixColumn mixing (mixColumn unmixing a) = a := by
  have left : Function.LeftInverse (mixColumn unmixing) (mixColumn mixing) := unmixColumn_mixColumn
  exact left.rightInverse_of_surjective (Finite.surjective_of_injective left.injective) a

/-- The product of every column with the coefficients of the layer. -/
def mixColumns : Equiv.Perm State where
  toFun s := fun c => mixColumn mixing (s c)
  invFun s := fun c => mixColumn unmixing (s c)
  left_inv _ := funext fun _ => unmixColumn_mixColumn _
  right_inv _ := funext fun _ => mixColumn_unmixColumn _

/-- The sum with a round key. -/
def addRoundKey (key : State) : Equiv.Perm State where
  toFun s := fun c => addColumn (s c) (key c)
  invFun s := fun c => addColumn (s c) (key c)
  left_inv _ := funext fun _ => addColumn_addColumn _ _
  right_inv _ := funext fun _ => addColumn_addColumn _ _

/-! ## The cipher -/

variable (sbox : Equiv.Perm UInt8)

/-- The first key and `n` whole rounds. -/
def rounds (key : ℕ → State) : ℕ → Equiv.Perm State
  | 0 => addRoundKey (key 0)
  | n + 1 => (rounds key n).trans
      ((subBytes sbox).trans (shiftRows.trans (mixColumns.trans (addRoundKey (key (n + 1))))))

/-- `n` whole rounds and a last one that does not mix. -/
def cipher (key : ℕ → State) (n : ℕ) : Equiv.Perm State :=
  (rounds sbox key n).trans ((subBytes sbox).trans (shiftRows.trans (addRoundKey (key (n + 1)))))

/-! ## The schedule of the round keys -/

/-- The constant of round `i`, counted from 1. -/
def rcon (i : ℕ) : UInt8 := UInt8.ofNat (xtime^[i - 1] 1)

/-- The substitution of a column whose rows have moved up. -/
def scheduleCore (i : ℕ) (a : Column) : Column := fun r =>
  sbox (a (r + 1)) ^^^ if r = 0 then rcon i else 0

/-- Column `i` of the schedule for a key of `n` columns. -/
def schedule (n : ℕ) (key : ℕ → Column) (i : ℕ) : Column :=
  if i < n ∨ n = 0 then key i
  else
    let last := schedule n key (i - 1)
    addColumn (schedule n key (i - n))
      (if i % n = 0 then scheduleCore sbox (i / n) last
      else if 6 < n ∧ i % n = 4 then fun r => sbox (last r)
      else last)
termination_by i
decreasing_by all_goals omega

/-- The key of a round. -/
def roundKey (columns : ℕ → Column) (i : ℕ) : State := fun c => columns (4 * i + c)

theorem schedule_key {n i : ℕ} (key : ℕ → Column) (inside : i < n) :
    schedule sbox n key i = key i := by
  rw [schedule, if_pos (Or.inl inside)]

/-- A column of the schedule from the one before it and the one `n` before it. -/
theorem schedule_next {n i : ℕ} (key : ℕ → Column) (positive : 0 < n) (behind : n ≤ i) :
    schedule sbox n key i = addColumn (schedule sbox n key (i - n))
      (if i % n = 0 then scheduleCore sbox (i / n) (schedule sbox n key (i - 1))
      else if 6 < n ∧ i % n = 4 then fun r => sbox (schedule sbox n key (i - 1) r)
      else schedule sbox n key (i - 1)) := by
  rw [schedule, if_neg (by omega)]

end Zboss.Rijndael
