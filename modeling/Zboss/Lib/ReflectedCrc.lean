import Mathlib.Data.List.Basic

/-!
Cyclic redundancy checks that take the least significant bit of every octet first.  A shift of the
remainder is linear in exclusive or, so eight shifts can be read from a table of the octets, and a
remainder that is fed to itself leaves nothing.
-/

namespace Zboss.ReflectedCrc

variable {w : ℕ} (poly : BitVec w)

/-- Take in one bit; `poly` has the coefficient of the highest power first. -/
def feedBit (c : BitVec w) (bit : Bool) : BitVec w :=
  if c.getLsbD 0 ^^ bit then (c >>> 1) ^^^ poly else c >>> 1

/-- The bits of an octet. -/
def bitsOf (octet : UInt8) : List Bool := (List.range 8).map octet.toBitVec.getLsbD

/-- The remainder of octets, bit by bit. -/
def remainder (octets : List UInt8) : BitVec w := (octets.flatMap bitsOf).foldl (feedBit poly) 0

/-- `n` bits that are clear. -/
def shifts : ℕ → BitVec w → BitVec w
  | 0, c => c
  | n + 1, c => shifts n (feedBit poly c false)

variable {poly}

theorem feedBit_false (c : BitVec w) :
    feedBit poly c false = if c.getLsbD 0 then (c >>> 1) ^^^ poly else c >>> 1 := by
  rw [feedBit, Bool.xor_false]

theorem xor_both (a b : BitVec w) : a ^^^ poly ^^^ (b ^^^ poly) = a ^^^ b := by
  rw [BitVec.xor_assoc, ← BitVec.xor_assoc poly b poly, BitVec.xor_comm poly b,
    BitVec.xor_assoc b poly poly, BitVec.xor_self, BitVec.xor_zero]

theorem shift_xor (a b : BitVec w) :
    feedBit poly (a ^^^ b) false = feedBit poly a false ^^^ feedBit poly b false := by
  simp only [feedBit_false, BitVec.getLsbD_xor, BitVec.ushiftRight_xor_distrib]
  cases a.getLsbD 0 <;> cases b.getLsbD 0
  case true.true => exact (xor_both _ _).symm
  case true.false => simp only [Bool.bne_false, if_true, Bool.false_eq_true, if_false]; ac_rfl
  case false.true => simp only [Bool.false_bne, if_true, Bool.false_eq_true, if_false]; ac_rfl
  case false.false => rfl

theorem shifts_xor (n : ℕ) (a b : BitVec w) :
    shifts poly n (a ^^^ b) = shifts poly n a ^^^ shifts poly n b := by
  induction n generalizing a b with
  | zero => rfl
  | succ n ih => rw [shifts, shifts, shifts, shift_xor, ih]

/-- A remainder whose lowest bits are clear only moves down. -/
theorem shifts_clear (n : ℕ) (c : BitVec w) (clear : ∀ i < n, c.getLsbD i = false) :
    shifts poly n c = c >>> n := by
  induction n generalizing c with
  | zero => exact (BitVec.ushiftRight_zero c).symm
  | succ n ih =>
    have first : c.getLsbD 0 = false := clear 0 (Nat.succ_pos n)
    have moved : feedBit poly c false = c >>> 1 := by
      rw [feedBit_false, first, if_neg Bool.false_ne_true]
    rw [shifts, moved, ih, ← BitVec.shiftRight_add, Nat.add_comm 1 n]
    intro i inside
    rw [BitVec.getLsbD_ushiftRight, Nat.add_comm]
    exact clear (i + 1) (Nat.succ_lt_succ inside)

theorem shifts_zero (n : ℕ) : shifts poly n 0 = 0 := by
  rw [shifts_clear n 0 fun i _ => BitVec.getLsbD_zero]
  exact BitVec.zero_ushiftRight

/-- The lowest bit of `x` fed, and the rest of it added afterwards. -/
theorem feedBit_split (c x : BitVec w) :
    feedBit poly c (x.getLsbD 0) ^^^ (x >>> 1) = feedBit poly (c ^^^ x) false := by
  simp only [feedBit, BitVec.getLsbD_xor, Bool.xor_false, BitVec.ushiftRight_xor_distrib]
  split
  · ac_rfl
  · rfl

/-- Feeding the bits of a word is adding the word and shifting. -/
theorem foldl_bits (n : ℕ) (c x : BitVec w) (small : ∀ i, n ≤ i → x.getLsbD i = false) :
    ((List.range n).map x.getLsbD).foldl (feedBit poly) c = shifts poly n (c ^^^ x) := by
  induction n generalizing c x with
  | zero =>
    have none_ : x = 0 := by
      apply BitVec.eq_of_getLsbD_eq
      intro i _
      rw [small i (Nat.zero_le i)]
      exact BitVec.getLsbD_zero.symm
    rw [none_]
    exact (BitVec.xor_zero).symm
  | succ n ih =>
    have later : (List.range n).map (x.getLsbD ∘ Nat.succ) =
        (List.range n).map (x >>> 1).getLsbD := by
      refine List.map_congr_left fun i _ => ?_
      rw [Function.comp_apply, BitVec.getLsbD_ushiftRight, Nat.succ_eq_add_one, Nat.add_comm]
    rw [List.range_succ_eq_map, List.map_cons, List.map_map, later, List.foldl_cons, ih, shifts,
      feedBit_split]
    intro i behind
    rw [BitVec.getLsbD_ushiftRight, Nat.add_comm]
    exact small (i + 1) (Nat.succ_le_succ behind)

/-- A word fed to itself leaves nothing. -/
theorem foldl_self (c : BitVec w) :
    ((List.range w).map c.getLsbD).foldl (feedBit poly) c = 0 := by
  rw [foldl_bits w c c fun i behind => BitVec.getLsbD_of_ge c i behind, BitVec.xor_self]
  exact shifts_zero w

/-! ## Octets -/

/-- An octet as the lowest bits of a word. -/
def word (octet : UInt8) : BitVec w := octet.toBitVec.setWidth w

theorem getLsbD_word (wide : 8 ≤ w) (octet : UInt8) (i : ℕ) :
    (word octet : BitVec w).getLsbD i = octet.toBitVec.getLsbD i := by
  rw [word, BitVec.getLsbD_setWidth]
  by_cases inside : i < w
  · rw [decide_eq_true inside, Bool.true_and]
  · rw [decide_eq_false inside, Bool.false_and, BitVec.getLsbD_of_ge]
    omega

theorem foldl_octet (wide : 8 ≤ w) (c : BitVec w) (octet : UInt8) :
    (bitsOf octet).foldl (feedBit poly) c = shifts poly 8 (c ^^^ word octet) := by
  have bits : bitsOf octet = (List.range 8).map (word octet : BitVec w).getLsbD :=
    List.map_congr_left fun i _ => (getLsbD_word wide octet i).symm
  rw [bits]
  refine foldl_bits 8 c _ fun i behind => ?_
  rw [getLsbD_word wide, BitVec.getLsbD_of_ge _ _ behind]

/-- The lowest octet of a word. -/
def lowOctet (c : BitVec w) : UInt8 := ⟨c.setWidth 8⟩

/-- Eight shifts: those of the lowest octet, and the rest moved down. -/
theorem shifts_octet (wide : 8 ≤ w) (c : BitVec w) :
    shifts poly 8 c = shifts poly 8 (word (lowOctet c)) ^^^ (c >>> 8) := by
  have low : ∀ i, (word (lowOctet c) : BitVec w).getLsbD i = (decide (i < 8) && c.getLsbD i) := by
    intro i
    rw [getLsbD_word wide, lowOctet, BitVec.getLsbD_setWidth]
  have clear : ∀ i < 8, (word (lowOctet c) ^^^ c).getLsbD i = false := by
    intro i inside
    rw [BitVec.getLsbD_xor, low, decide_eq_true inside, Bool.true_and, Bool.xor_self]
  have rest : (word (lowOctet c) ^^^ c) >>> 8 = c >>> 8 := by
    apply BitVec.eq_of_getLsbD_eq
    intro i _
    rw [BitVec.getLsbD_ushiftRight, BitVec.getLsbD_ushiftRight, BitVec.getLsbD_xor, low,
      decide_eq_false (by omega), Bool.false_and, Bool.false_xor]
  calc shifts poly 8 c
      = shifts poly 8 (word (lowOctet c) ^^^ (word (lowOctet c) ^^^ c)) := by
        rw [← BitVec.xor_assoc, BitVec.xor_self, BitVec.zero_xor]
    _ = shifts poly 8 (word (lowOctet c)) ^^^ (c >>> 8) := by
        rw [shifts_xor, shifts_clear 8 _ clear, rest]

/-- A table of the eight shifts of every octet. -/
def TableOf (poly : BitVec w) (table : UInt8 → BitVec w) : Prop :=
  ∀ octet, table octet = shifts poly 8 (word octet)

/-- An octet by the table. -/
def feedOctet (table : UInt8 → BitVec w) (c : BitVec w) (octet : UInt8) : BitVec w :=
  table (lowOctet (c ^^^ word octet)) ^^^ (c >>> 8)

theorem feedOctet_eq (wide : 8 ≤ w) {table : UInt8 → BitVec w} (right : TableOf poly table)
    (c : BitVec w) (octet : UInt8) :
    feedOctet table c octet = (bitsOf octet).foldl (feedBit poly) c := by
  have none_ : (word octet : BitVec w) >>> 8 = 0 := by
    apply BitVec.eq_of_getLsbD_eq
    intro i _
    rw [BitVec.getLsbD_ushiftRight, getLsbD_word wide, BitVec.getLsbD_of_ge _ _ (by omega)]
    exact BitVec.getLsbD_zero.symm
  rw [foldl_octet wide, shifts_octet wide, feedOctet, right, BitVec.ushiftRight_xor_distrib, none_]
  exact congrArg _ BitVec.xor_zero.symm

/-- The loop over the octets computes the remainder. -/
theorem foldl_feedOctet (wide : 8 ≤ w) {table : UInt8 → BitVec w} (right : TableOf poly table)
    (octets : List UInt8) : octets.foldl (feedOctet table) 0 = remainder poly octets := by
  have general : ∀ c : BitVec w, octets.foldl (feedOctet table) c =
      (octets.flatMap bitsOf).foldl (feedBit poly) c := by
    induction octets with
    | nil => exact fun c => rfl
    | cons octet octets ih =>
      intro c
      rw [List.foldl_cons, ih, feedOctet_eq wide right, List.flatMap_cons, List.foldl_append]
  exact general 0

/-- Octets with their remainder behind them leave nothing. -/
theorem remainder_append (octets trailer : List UInt8)
    (bits : trailer.flatMap bitsOf = (List.range w).map (remainder poly octets).getLsbD) :
    remainder poly (octets ++ trailer) = 0 := by
  rw [remainder, List.flatMap_append, List.foldl_append, bits]
  exact foldl_self _

end Zboss.ReflectedCrc
