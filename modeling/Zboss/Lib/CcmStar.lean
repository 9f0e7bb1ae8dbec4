import Mathlib.Data.List.GetD
import Mathlib.Data.List.OfFn

/-!
Authenticated encryption in counter mode with a CBC-MAC, over any block function.
Texts are lists of octets, cut into blocks of `n` octets of which the last is padded
with zeros.  The counter blocks are a parameter, so that formats share the lemmas.
-/

namespace Zboss.CcmStar

variable {n : ℕ}

/-- A block of `n` octets. -/
abbrev Block (n : ℕ) := Fin n → UInt8

/-- The first `n` octets of a text, padded with zeros. -/
def block (n : ℕ) (text : List UInt8) : Block n := fun i => text.getD i 0

/-- The octets of a block. -/
def bytes (b : Block n) : List UInt8 := List.ofFn b

def xor (a b : Block n) : Block n := fun i => a i ^^^ b i

/-- A text as padded blocks. -/
def blocks (n : ℕ) (text : List UInt8) : List (Block n) :=
  (List.range ((text.length + (n - 1)) / n)).map fun k => block n (text.drop (n * k))

/-- Chain blocks into a running MAC. -/
def cbcMac (cipher : Block n → Block n) (start : Block n) (text : List (Block n)) : Block n :=
  text.foldl (fun mac b => cipher (xor mac b)) start

/-- Encrypt blocks with the key stream from counter `k` on. -/
def ctrBlocks (cipher : Block n → Block n) (counter : ℕ → Block n) :
    ℕ → List (Block n) → List UInt8
  | _, [] => []
  | k, b :: rest => bytes (xor (cipher (counter k)) b) ++ ctrBlocks cipher counter (k + 1) rest

/-- Encrypt a text: as many octets of the encrypted blocks as the text has. -/
def ctr (cipher : Block n → Block n) (counter : ℕ → Block n) (k : ℕ) (text : List UInt8) :
    List UInt8 :=
  (ctrBlocks cipher counter k (blocks n text)).take text.length

/-! ## Blocks -/

@[simp] theorem bytes_length (b : Block n) : (bytes b).length = n := List.length_ofFn

theorem bytes_getD (b : Block n) {i : ℕ} (inside : i < n) : (bytes b).getD i 0 = b ⟨i, inside⟩ := by
  have bound : i < (bytes b).length := by rwa [bytes_length]
  rw [List.getD_eq_getElem _ _ bound]
  simp [bytes]

/-- Texts that agree on their first `n` octets make one block. -/
theorem block_congr {text text' : List UInt8}
    (same : ∀ i < n, text.getD i 0 = text'.getD i 0) : block n text = block n text' :=
  funext fun i => same i i.isLt

theorem block_take {text : List UInt8} {len : ℕ} (long : n ≤ len) :
    block n (text.take len) = block n text := by
  refine block_congr fun i inside => ?_
  simp only [List.getD_eq_getElem?_getD, List.getElem?_take]
  rw [if_pos (by omega)]

@[simp] theorem blocks_nil (positive : 0 < n) : blocks n [] = [] := by
  have none : (([] : List UInt8).length + (n - 1)) / n = 0 := by
    rw [List.length_nil, Nat.zero_add]
    exact Nat.div_eq_of_lt (Nat.sub_lt positive Nat.one_pos)
  rw [blocks, none]
  rfl

/-- The first block of a text and the others. -/
theorem blocks_cons (positive : 0 < n) {text : List UInt8} (nonempty : text ≠ []) :
    blocks n text = block n text :: blocks n (text.drop n) := by
  have some := List.length_pos_iff.mpr nonempty
  have count : (text.length + (n - 1)) / n = ((text.drop n).length + (n - 1)) / n + 1 := by
    rw [List.length_drop]
    by_cases long : n ≤ text.length
    · rw [← Nat.add_div_right _ positive]
      congr 1
      omega
    · have first : text.length - n = 0 := by omega
      rw [first, Nat.zero_add, Nat.div_eq_of_lt (Nat.sub_lt positive Nat.one_pos),
        Nat.div_eq_of_lt_le (k := 1) (by omega) (by omega)]
  rw [blocks, count, List.range_succ_eq_map, List.map_cons, List.map_map, blocks]
  congr 1
  refine List.map_congr_left fun k _ => ?_
  rw [Function.comp_apply, List.drop_drop, Nat.mul_succ, Nat.add_comm]

/-- A text that fits one block. -/
theorem blocks_single (positive : 0 < n) {text : List UInt8} (nonempty : text ≠ [])
    (short : text.length ≤ n) : blocks n text = [block n text] := by
  rw [blocks_cons positive nonempty, List.drop_eq_nil_of_le short, blocks_nil positive]

/-! ## Counter mode -/

variable (cipher : Block n → Block n) (counter : ℕ → Block n)

theorem ctrBlocks_length (k : ℕ) (text : List (Block n)) :
    (ctrBlocks cipher counter k text).length = n * text.length := by
  induction text generalizing k with
  | nil => rfl
  | cons b rest induction_ =>
    rw [ctrBlocks, List.length_append, bytes_length, induction_, List.length_cons, Nat.mul_succ,
      Nat.add_comm]

/-- A text is encrypted block by block. -/
theorem ctr_cons (positive : 0 < n) (k : ℕ) {text : List UInt8} (nonempty : text ≠ []) :
    ctr cipher counter k text =
      (bytes (xor (cipher (counter k)) (block n text))).take text.length ++
        ctr cipher counter (k + 1) (text.drop n) := by
  rw [ctr, blocks_cons positive nonempty, ctrBlocks, List.take_append, bytes_length, ctr,
    List.length_drop]

theorem ctr_length (positive : 0 < n) (k : ℕ) (text : List UInt8) :
    (ctr cipher counter k text).length = text.length := by
  rw [ctr, List.length_take, ctrBlocks_length, blocks, List.length_map, List.length_range]
  refine Nat.min_eq_left ?_
  have bound := Nat.lt_mul_div_succ (text.length + (n - 1)) positive
  rw [Nat.mul_succ] at bound
  omega

/-- Octet `i` is encrypted with octet `i % n` of key stream block `i / n`. -/
theorem ctr_getD (positive : 0 < n) (k : ℕ) {text : List UInt8} {i : ℕ}
    (inside : i < text.length) : (ctr cipher counter k text).getD i 0 =
      cipher (counter (k + i / n)) ⟨i % n, Nat.mod_lt i positive⟩ ^^^ text.getD i 0 := by
  induction length : text.length using Nat.strong_induction_on generalizing k text i with
  | _ size induction_ =>
    have nonempty : text ≠ [] := List.length_pos_iff.mp (Nat.zero_lt_of_lt inside)
    have head : ((bytes (xor (cipher (counter k)) (block n text))).take text.length).length =
        min text.length n := by rw [List.length_take, bytes_length]
    rw [ctr_cons _ _ positive k nonempty]
    by_cases first : i < n
    · rw [List.getD_append _ _ _ _ (by omega), List.getD_eq_getElem?_getD, List.getElem?_take,
        if_pos inside, ← List.getD_eq_getElem?_getD, bytes_getD _ first]
      simp only [Nat.div_eq_of_lt first, Nat.mod_eq_of_lt first, Nat.add_zero]
      rfl
    · have size' : (text.drop n).length = text.length - n := List.length_drop
      rw [List.getD_append_right _ _ _ _ (by omega), head, Nat.min_eq_right (by omega),
        induction_ (text.drop n).length (by omega) (k + 1) (by omega) rfl]
      have next : k + 1 + (i - n) / n = k + i / n := by
        have quotient := Nat.sub_add_cancel (Nat.le_of_not_lt first)
        rw [← quotient, Nat.add_div_right _ positive, quotient]
        omega
      have octet : (i - n) % n = i % n := by
        rw [← Nat.mod_eq_sub_mod (Nat.le_of_not_lt first)]
      simp only [next, octet, List.getD_eq_getElem?_getD, List.getElem?_drop]
      rw [Nat.add_sub_cancel' (Nat.le_of_not_lt first)]

/-- Encrypting twice gives the text back. -/
theorem ctr_ctr (positive : 0 < n) (k : ℕ) (text : List UInt8) :
    ctr cipher counter k (ctr cipher counter k text) = text := by
  have once := ctr_length cipher counter positive k text
  have twice := ctr_length cipher counter positive k (ctr cipher counter k text)
  apply List.ext_getElem (twice.trans once)
  intro i left right
  have inside : i < (ctr cipher counter k text).length := by omega
  rw [← List.getD_eq_getElem _ 0 left, ← List.getD_eq_getElem _ 0 right,
    ctr_getD _ _ positive k inside, ctr_getD _ _ positive k right, ← UInt8.xor_assoc,
    UInt8.xor_self, UInt8.zero_xor]

end Zboss.CcmStar
