import Zboss.Lib.CcmStar
import Zboss.Lib.Rijndael
import Zboss.Lib.Words

/-!
The block cipher of `secur_ccm.c`: tables for the substitution and for the products with 2 and 3,
the round keys expanded into an array of 176 octets, and the block worked on in place.  Arrays on the
stack start with what the stack holds.
-/

namespace Zboss.Aes

open Zboss.Cells Zboss.Rijndael Zboss.Words

/-- An array of octets. -/
abbrev Octets := ℕ → UInt8

/-! ## The tables -/

def shiftRowsTable : List ℕ := [0, 5, 10, 15, 4, 9, 14, 3, 8, 13, 2, 7, 12, 1, 6, 11]

def lookupRcon : List UInt8 :=
  [0x8D, 0x01, 0x02, 0x04, 0x08, 0x10, 0x20, 0x40, 0x80, 0x1B, 0x36, 0x6C, 0xD8, 0xAB, 0x4D, 0x9A]

def lookupSbox : List ℕ :=
  [
    0x63, 0x7C, 0x77, 0x7B, 0xF2, 0x6B, 0x6F, 0xC5, 0x30, 0x01, 0x67, 0x2B, 0xFE, 0xD7, 0xAB, 0x76,
    0xCA, 0x82, 0xC9, 0x7D, 0xFA, 0x59, 0x47, 0xF0, 0xAD, 0xD4, 0xA2, 0xAF, 0x9C, 0xA4, 0x72, 0xC0,
    0xB7, 0xFD, 0x93, 0x26, 0x36, 0x3F, 0xF7, 0xCC, 0x34, 0xA5, 0xE5, 0xF1, 0x71, 0xD8, 0x31, 0x15,
    0x04, 0xC7, 0x23, 0xC3, 0x18, 0x96, 0x05, 0x9A, 0x07, 0x12, 0x80, 0xE2, 0xEB, 0x27, 0xB2, 0x75,
    0x09, 0x83, 0x2C, 0x1A, 0x1B, 0x6E, 0x5A, 0xA0, 0x52, 0x3B, 0xD6, 0xB3, 0x29, 0xE3, 0x2F, 0x84,
    0x53, 0xD1, 0x00, 0xED, 0x20, 0xFC, 0xB1, 0x5B, 0x6A, 0xCB, 0xBE, 0x39, 0x4A, 0x4C, 0x58, 0xCF,
    0xD0, 0xEF, 0xAA, 0xFB, 0x43, 0x4D, 0x33, 0x85, 0x45, 0xF9, 0x02, 0x7F, 0x50, 0x3C, 0x9F, 0xA8,
    0x51, 0xA3, 0x40, 0x8F, 0x92, 0x9D, 0x38, 0xF5, 0xBC, 0xB6, 0xDA, 0x21, 0x10, 0xFF, 0xF3, 0xD2,
    0xCD, 0x0C, 0x13, 0xEC, 0x5F, 0x97, 0x44, 0x17, 0xC4, 0xA7, 0x7E, 0x3D, 0x64, 0x5D, 0x19, 0x73,
    0x60, 0x81, 0x4F, 0xDC, 0x22, 0x2A, 0x90, 0x88, 0x46, 0xEE, 0xB8, 0x14, 0xDE, 0x5E, 0x0B, 0xDB,
    0xE0, 0x32, 0x3A, 0x0A, 0x49, 0x06, 0x24, 0x5C, 0xC2, 0xD3, 0xAC, 0x62, 0x91, 0x95, 0xE4, 0x79,
    0xE7, 0xC8, 0x37, 0x6D, 0x8D, 0xD5, 0x4E, 0xA9, 0x6C, 0x56, 0xF4, 0xEA, 0x65, 0x7A, 0xAE, 0x08,
    0xBA, 0x78, 0x25, 0x2E, 0x1C, 0xA6, 0xB4, 0xC6, 0xE8, 0xDD, 0x74, 0x1F, 0x4B, 0xBD, 0x8B, 0x8A,
    0x70, 0x3E, 0xB5, 0x66, 0x48, 0x03, 0xF6, 0x0E, 0x61, 0x35, 0x57, 0xB9, 0x86, 0xC1, 0x1D, 0x9E,
    0xE1, 0xF8, 0x98, 0x11, 0x69, 0xD9, 0x8E, 0x94, 0x9B, 0x1E, 0x87, 0xE9, 0xCE, 0x55, 0x28, 0xDF,
    0x8C, 0xA1, 0x89, 0x0D, 0xBF, 0xE6, 0x42, 0x68, 0x41, 0x99, 0x2D, 0x0F, 0xB0, 0x54, 0xBB, 0x16]

def lookupG2 : List ℕ :=
  [
    0x00, 0x02, 0x04, 0x06, 0x08, 0x0A, 0x0C, 0x0E, 0x10, 0x12, 0x14, 0x16, 0x18, 0x1A, 0x1C, 0x1E,
    0x20, 0x22, 0x24, 0x26, 0x28, 0x2A, 0x2C, 0x2E, 0x30, 0x32, 0x34, 0x36, 0x38, 0x3A, 0x3C, 0x3E,
    0x40, 0x42, 0x44, 0x46, 0x48, 0x4A, 0x4C, 0x4E, 0x50, 0x52, 0x54, 0x56, 0x58, 0x5A, 0x5C, 0x5E,
    0x60, 0x62, 0x64, 0x66, 0x68, 0x6A, 0x6C, 0x6E, 0x70, 0x72, 0x74, 0x76, 0x78, 0x7A, 0x7C, 0x7E,
    0x80, 0x82, 0x84, 0x86, 0x88, 0x8A, 0x8C, 0x8E, 0x90, 0x92, 0x94, 0x96, 0x98, 0x9A, 0x9C, 0x9E,
    0xA0, 0xA2, 0xA4, 0xA6, 0xA8, 0xAA, 0xAC, 0xAE, 0xB0, 0xB2, 0xB4, 0xB6, 0xB8, 0xBA, 0xBC, 0xBE,
    0xC0, 0xC2, 0xC4, 0xC6, 0xC8, 0xCA, 0xCC, 0xCE, 0xD0, 0xD2, 0xD4, 0xD6, 0xD8, 0xDA, 0xDC, 0xDE,
    0xE0, 0xE2, 0xE4, 0xE6, 0xE8, 0xEA, 0xEC, 0xEE, 0xF0, 0xF2, 0xF4, 0xF6, 0xF8, 0xFA, 0xFC, 0xFE,
    0x1B, 0x19, 0x1F, 0x1D, 0x13, 0x11, 0x17, 0x15, 0x0B, 0x09, 0x0F, 0x0D, 0x03, 0x01, 0x07, 0x05,
    0x3B, 0x39, 0x3F, 0x3D, 0x33, 0x31, 0x37, 0x35, 0x2B, 0x29, 0x2F, 0x2D, 0x23, 0x21, 0x27, 0x25,
    0x5B, 0x59, 0x5F, 0x5D, 0x53, 0x51, 0x57, 0x55, 0x4B, 0x49, 0x4F, 0x4D, 0x43, 0x41, 0x47, 0x45,
    0x7B, 0x79, 0x7F, 0x7D, 0x73, 0x71, 0x77, 0x75, 0x6B, 0x69, 0x6F, 0x6D, 0x63, 0x61, 0x67, 0x65,
    0x9B, 0x99, 0x9F, 0x9D, 0x93, 0x91, 0x97, 0x95, 0x8B, 0x89, 0x8F, 0x8D, 0x83, 0x81, 0x87, 0x85,
    0xBB, 0xB9, 0xBF, 0xBD, 0xB3, 0xB1, 0xB7, 0xB5, 0xAB, 0xA9, 0xAF, 0xAD, 0xA3, 0xA1, 0xA7, 0xA5,
    0xDB, 0xD9, 0xDF, 0xDD, 0xD3, 0xD1, 0xD7, 0xD5, 0xCB, 0xC9, 0xCF, 0xCD, 0xC3, 0xC1, 0xC7, 0xC5,
    0xFB, 0xF9, 0xFF, 0xFD, 0xF3, 0xF1, 0xF7, 0xF5, 0xEB, 0xE9, 0xEF, 0xED, 0xE3, 0xE1, 0xE7, 0xE5]

def lookupG3 : List ℕ :=
  [
    0x00, 0x03, 0x06, 0x05, 0x0C, 0x0F, 0x0A, 0x09, 0x18, 0x1B, 0x1E, 0x1D, 0x14, 0x17, 0x12, 0x11,
    0x30, 0x33, 0x36, 0x35, 0x3C, 0x3F, 0x3A, 0x39, 0x28, 0x2B, 0x2E, 0x2D, 0x24, 0x27, 0x22, 0x21,
    0x60, 0x63, 0x66, 0x65, 0x6C, 0x6F, 0x6A, 0x69, 0x78, 0x7B, 0x7E, 0x7D, 0x74, 0x77, 0x72, 0x71,
    0x50, 0x53, 0x56, 0x55, 0x5C, 0x5F, 0x5A, 0x59, 0x48, 0x4B, 0x4E, 0x4D, 0x44, 0x47, 0x42, 0x41,
    0xC0, 0xC3, 0xC6, 0xC5, 0xCC, 0xCF, 0xCA, 0xC9, 0xD8, 0xDB, 0xDE, 0xDD, 0xD4, 0xD7, 0xD2, 0xD1,
    0xF0, 0xF3, 0xF6, 0xF5, 0xFC, 0xFF, 0xFA, 0xF9, 0xE8, 0xEB, 0xEE, 0xED, 0xE4, 0xE7, 0xE2, 0xE1,
    0xA0, 0xA3, 0xA6, 0xA5, 0xAC, 0xAF, 0xAA, 0xA9, 0xB8, 0xBB, 0xBE, 0xBD, 0xB4, 0xB7, 0xB2, 0xB1,
    0x90, 0x93, 0x96, 0x95, 0x9C, 0x9F, 0x9A, 0x99, 0x88, 0x8B, 0x8E, 0x8D, 0x84, 0x87, 0x82, 0x81,
    0x9B, 0x98, 0x9D, 0x9E, 0x97, 0x94, 0x91, 0x92, 0x83, 0x80, 0x85, 0x86, 0x8F, 0x8C, 0x89, 0x8A,
    0xAB, 0xA8, 0xAD, 0xAE, 0xA7, 0xA4, 0xA1, 0xA2, 0xB3, 0xB0, 0xB5, 0xB6, 0xBF, 0xBC, 0xB9, 0xBA,
    0xFB, 0xF8, 0xFD, 0xFE, 0xF7, 0xF4, 0xF1, 0xF2, 0xE3, 0xE0, 0xE5, 0xE6, 0xEF, 0xEC, 0xE9, 0xEA,
    0xCB, 0xC8, 0xCD, 0xCE, 0xC7, 0xC4, 0xC1, 0xC2, 0xD3, 0xD0, 0xD5, 0xD6, 0xDF, 0xDC, 0xD9, 0xDA,
    0x5B, 0x58, 0x5D, 0x5E, 0x57, 0x54, 0x51, 0x52, 0x43, 0x40, 0x45, 0x46, 0x4F, 0x4C, 0x49, 0x4A,
    0x6B, 0x68, 0x6D, 0x6E, 0x67, 0x64, 0x61, 0x62, 0x73, 0x70, 0x75, 0x76, 0x7F, 0x7C, 0x79, 0x7A,
    0x3B, 0x38, 0x3D, 0x3E, 0x37, 0x34, 0x31, 0x32, 0x23, 0x20, 0x25, 0x26, 0x2F, 0x2C, 0x29, 0x2A,
    0x0B, 0x08, 0x0D, 0x0E, 0x07, 0x04, 0x01, 0x02, 0x13, 0x10, 0x15, 0x16, 0x1F, 0x1C, 0x19, 0x1A]

/-- An octet by a table. -/
def look (table : List ℕ) (v : UInt8) : UInt8 := UInt8.ofNat (table.getD v.toNat 0)

/-! ## The routines -/

/-- `for (i = 0; i < n; i++) a[i] = f(i, a[i])`. -/
def forEach (f : ℕ → UInt8 → UInt8) (a : Octets) : ℕ → Octets
  | 0 => a
  | n + 1 => Function.update (forEach f a n) n (f n (forEach f a n n))

def xor (a b : Octets) (n : ℕ) : Octets := forEach (fun i v => v ^^^ b i) a n

def xorRoundKey (state keys : Octets) (round : ℕ) : Octets :=
  xor state (fun i => keys (round * 16 + i)) 16

def subBytes (a : Octets) (n : ℕ) : Octets := forEach (fun _ v => look lookupSbox v) a n

def keyScheduleCore (a : Octets) (i : ℕ) : Octets :=
  let temp := a 0
  let a := Function.update a 0 (a 1)
  let a := Function.update a 1 (a 2)
  let a := Function.update a 2 (a 3)
  let a := Function.update a 3 temp
  let a := subBytes a 4
  Function.update a 0 (a 0 ^^^ lookupRcon.getD i 0)

/-- The arrays of `expand_key` and the octets made so far. -/
structure Expansion where
  keys : Octets
  t : Octets
  bytes : ℕ

/-- The next four octets: the last four through `core`, and the four that stand 16 before. -/
def Expansion.next (core : Octets → Octets) (e : Expansion) : Expansion :=
  let t := memcpy e.t 0 (segment e.keys (e.bytes - 4) 4)
  let t := core t
  let t := xor t (fun i => e.keys (e.bytes - 16 + i)) 4
  ⟨memcpy e.keys e.bytes (segment t 0 4), t, e.bytes + 4⟩

/-- The loop of `expand_key`. -/
def expandLoop (e : Expansion) (i : ℕ) : Octets :=
  if e.bytes < 176 then
    expandLoop ((Expansion.next id)^[3] (e.next (keyScheduleCore · i))) (i + 1)
  else e.keys
termination_by 176 - e.bytes
decreasing_by
  show 176 - (e.bytes + 4 + 4 + 4 + 4) < 176 - e.bytes
  omega

def expandKey (key keys t : Octets) : Octets :=
  expandLoop ⟨memcpy keys 0 (segment key 0 16), t, 16⟩ 1

def shiftRows (state : Octets) : Octets :=
  let temp := segment state 0 16
  forEach (fun i _ => temp.getD (shiftRowsTable.getD i 0) 0) state 16

/-- `mix_col`, on the four octets at `p`. -/
def mixCol (state : Octets) (p : ℕ) : Octets :=
  let a0 := state p
  let a1 := state (p + 1)
  let a2 := state (p + 2)
  let a3 := state (p + 3)
  let state := Function.update state p (look lookupG2 a0 ^^^ look lookupG3 a1 ^^^ a2 ^^^ a3)
  let state := Function.update state (p + 1) (look lookupG2 a1 ^^^ look lookupG3 a2 ^^^ a3 ^^^ a0)
  let state := Function.update state (p + 2) (look lookupG2 a2 ^^^ look lookupG3 a3 ^^^ a0 ^^^ a1)
  Function.update state (p + 3) (look lookupG2 a3 ^^^ look lookupG3 a0 ^^^ a1 ^^^ a2)

def mixCols (state : Octets) : Octets :=
  let state := mixCol state 0
  let state := mixCol state 4
  let state := mixCol state 8
  mixCol state 12

/-- The first `n` middle rounds of `aes128`. -/
def middleRounds (c keys : Octets) : ℕ → Octets
  | 0 => c
  | i + 1 => xorRoundKey (mixCols (shiftRows (subBytes (middleRounds c keys i) 16))) keys (i + 1)

/-- `aes128`; `c` is the array for the result, `keys` and `t` are those on the stack. -/
def aes128 (key msg c keys t : Octets) : Octets :=
  let keys := expandKey key keys t
  let c := memcpy c 0 (segment msg 0 16)
  let c := xorRoundKey c keys 0
  let c := middleRounds c keys 9
  let c := subBytes c 16
  let c := shiftRows c
  xorRoundKey c keys 10

/-! ## The tables hold the arithmetic -/

/-- What holds for every place of a table and the octet there holds for all octets. -/
theorem forall_look (table : List ℕ) (p : UInt8 → UInt8 → Prop) [∀ v x, Decidable (p v x)]
    (whole : table.length = 256)
    (checked : table.zipIdx.all (fun ent =>
      decide (p (UInt8.ofNat ent.2) (UInt8.ofNat ent.1))) = true) (v : UInt8) :
    p v (look table v) := by
  have inside : v.toNat < table.length := by
    rw [whole]
    exact v.toNat_lt
  have entry : (table.getD v.toNat 0, v.toNat) ∈ table.zipIdx := by
    rw [List.mk_mem_zipIdx_iff_getElem?, List.getElem?_eq_getElem inside,
      List.getD_eq_getElem _ _ inside]
  have holds := List.all_eq_true.mp checked _ entry
  rwa [decide_eq_true_eq, UInt8.ofNat_toNat] at holds

/-- The octets of a list as bits of a number. -/
def bitsOf (table : List ℕ) : ℕ := table.foldr (fun v bits => bits ||| 1 <<< v) 0

theorem testBit_bitsOf (table : List ℕ) (v : ℕ) : (bitsOf table).testBit v = true ↔ v ∈ table := by
  induction table with
  | nil => simp [bitsOf]
  | cons first rest ih =>
    have one : (1 <<< first : ℕ).testBit v = true ↔ v = first := by
      rw [Nat.one_shiftLeft, Nat.testBit_two_pow, decide_eq_true_eq, eq_comm]
    rw [bitsOf, List.foldr_cons, Nat.testBit_or, Bool.or_eq_true, List.mem_cons, one, or_comm]
    exact or_congr_right ih

/-- No octet is missing in the substitution table. -/
theorem sbox_surjective : Function.Surjective (look lookupSbox) := by
  intro v
  have all : bitsOf lookupSbox = 2 ^ 256 - 1 := by decide +kernel
  have member : v.toNat ∈ lookupSbox := by
    rw [← testBit_bitsOf, all, Nat.testBit_two_pow_sub_one, decide_eq_true_eq]
    exact v.toNat_lt
  obtain ⟨i, inside, found⟩ := List.mem_iff_getElem.mp member
  have whole : lookupSbox.length = 256 := by decide +kernel
  have small : i < 256 := by rwa [whole] at inside
  have place : (UInt8.ofNat i).toNat = i := UInt8.toNat_ofNat_of_lt' small
  refine ⟨UInt8.ofNat i, ?_⟩
  rw [look, place, List.getD_eq_getElem _ _ inside, found, UInt8.ofNat_toNat]

/-- The substitution of the table, a permutation of the octets. -/
noncomputable def sbox : Equiv.Perm UInt8 :=
  Equiv.ofBijective (look lookupSbox) (Finite.surjective_iff_bijective.mp sbox_surjective)

theorem sbox_isSubstitution : IsSubstitution sbox := by
  have inverses := forall_look lookupSbox
    (fun v x => Inverse v (unaffine x) ∧ x = affine (unaffine x)) (by decide +kernel)
    (by decide +kernel)
  exact fun v => ⟨_, inverses v⟩

theorem g2_eq (v : UInt8) : look lookupG2 v = mul 2 v :=
  forall_look lookupG2 (fun v x => x = mul 2 v) (by decide +kernel) (by decide +kernel) v

theorem g3_eq (v : UInt8) : look lookupG3 v = mul 3 v :=
  forall_look lookupG3 (fun v x => x = mul 3 v) (by decide +kernel) (by decide +kernel) v

theorem mul_one_left (v : UInt8) : mul 1 v = v := by
  revert v
  apply forall_octet
  decide +kernel

theorem rcon_eq : ∀ i < 11, 1 ≤ i → lookupRcon.getD i 0 = rcon i := by decide +kernel

/-- The table moves the octet of a row by as many columns as the row says. -/
theorem shiftRowsTable_eq :
    ∀ c r : Fin 4, shiftRowsTable.getD (4 * c + r) 0 = 4 * ((c + r : Fin 4) : ℕ) + r := by decide

/-! ## Arrays as columns -/

/-- The octets of column `w`. -/
def column (a : Octets) (w : ℕ) : Column := fun r => a (4 * w + r)

/-- The first 16 octets. -/
def state (a : Octets) : State := fun c => column a c

theorem column_ext {a b : Column} (zeroth : a 0 = b 0) (first : a 1 = b 1) (second : a 2 = b 2)
    (third : a 3 = b 3) : a = b := by
  funext r
  fin_cases r
  · exact zeroth
  · exact first
  · exact second
  · exact third

theorem forEach_apply (f : ℕ → UInt8 → UInt8) (a : Octets) (n i : ℕ) :
    forEach f a n i = if i < n then f i (a i) else a i := by
  induction n with
  | zero => rfl
  | succ n ih =>
    rw [forEach]
    by_cases last : i = n
    · subst last
      rw [Function.update_self, ih, if_neg (Nat.lt_irrefl i), if_pos (Nat.lt_succ_self i)]
    · rw [Function.update_of_ne last, ih]
      exact if_congr (by omega) rfl rfl

theorem forEach_outside (f : ℕ → UInt8 → UInt8) (a : Octets) {n i : ℕ} (outside : n ≤ i) :
    forEach f a n i = a i := by
  rw [forEach_apply, if_neg (Nat.not_lt.mpr outside)]

theorem octet_lt (c r : Fin 4) : 4 * (c : ℕ) + r < 16 := by omega

theorem state_xorRoundKey (c keys : Octets) (round : ℕ) :
    state (xorRoundKey c keys round) = addRoundKey (roundKey (column keys) round) (state c) := by
  funext col r
  have place : round * 16 + (4 * (col : ℕ) + r) = 4 * (4 * round + col) + r := by omega
  show forEach _ _ _ _ = _
  rw [forEach_apply, if_pos (octet_lt col r)]
  exact congrArg (fun i => c (4 * col + r) ^^^ keys i) place

theorem state_subBytes (c : Octets) : state (subBytes c 16) = Rijndael.subBytes sbox (state c) := by
  funext col r
  show forEach _ _ _ _ = _
  rw [forEach_apply, if_pos (octet_lt col r)]
  rfl

theorem segment_getD (a : Octets) {n i : ℕ} (inside : i < n) :
    (segment a 0 n).getD i 0 = a i := by
  have bound : i < (segment a 0 n).length := by rwa [segment_length]
  rw [List.getD_eq_getElem _ _ bound, segment_getElem, Nat.zero_add]

theorem state_shiftRows (c : Octets) : state (shiftRows c) = Rijndael.shiftRows (state c) := by
  funext col r
  show forEach _ _ _ _ = _
  rw [forEach_apply, if_pos (octet_lt col r), shiftRowsTable_eq, segment_getD c (octet_lt _ r)]
  rfl

theorem mixCol_outside (c : Octets) {p i : ℕ} (outside : i < p ∨ p + 4 ≤ i) :
    mixCol c p i = c i := by
  rw [mixCol, Function.update_of_ne (by omega), Function.update_of_ne (by omega),
    Function.update_of_ne (by omega), Function.update_of_ne (by omega)]

theorem column_mixCol (c : Octets) (w v : ℕ) : column (mixCol c (4 * w)) v =
    if v = w then mixColumn mixing (column c w) else column c v := by
  by_cases same : v = w
  · subst same
    rw [if_pos rfl]
    have products : ∀ a b d e : UInt8, look lookupG2 a ^^^ look lookupG3 b ^^^ d ^^^ e =
        mul 2 a ^^^ mul 3 b ^^^ mul 1 d ^^^ mul 1 e := by
      intro a b d e
      rw [g2_eq, g3_eq, mul_one_left, mul_one_left]
    apply column_ext
    · show mixCol c (4 * v) (4 * v) = _
      rw [mixCol, Function.update_of_ne (by omega), Function.update_of_ne (by omega),
        Function.update_of_ne (by omega), Function.update_self]
      exact products _ _ _ _
    · show mixCol c (4 * v) (4 * v + 1) = _
      rw [mixCol, Function.update_of_ne (by omega), Function.update_of_ne (by omega),
        Function.update_self]
      exact products _ _ _ _
    · show mixCol c (4 * v) (4 * v + 2) = _
      rw [mixCol, Function.update_of_ne (by omega), Function.update_self]
      exact products _ _ _ _
    · show mixCol c (4 * v) (4 * v + 3) = _
      rw [mixCol, Function.update_self]
      exact products _ _ _ _
  · rw [if_neg same]
    funext r
    exact mixCol_outside c (by omega)

theorem state_mixCols (c : Octets) : state (mixCols c) = mixColumns (state c) := by
  have four : ∀ v < 4, column (mixCols c) v = mixColumn mixing (column c v) := by
    intro v inside
    show column (mixCol (mixCol (mixCol (mixCol c (4 * 0)) (4 * 1)) (4 * 2)) (4 * 3)) v = _
    simp only [column_mixCol]
    rcases (by omega : v = 0 ∨ v = 1 ∨ v = 2 ∨ v = 3) with rfl | rfl | rfl | rfl <;> rfl
  funext col
  exact four col col.isLt

theorem state_memcpy (c msg : Octets) : state (memcpy c 0 (segment msg 0 16)) = state msg := by
  funext col r
  show memcpy c 0 (segment msg 0 16) (4 * (col : ℕ) + r) = msg (4 * (col : ℕ) + r)
  rw [memcpy, if_pos (Nat.zero_le _), Nat.sub_zero,
    List.getD_eq_getElem _ _ ((segment_length 0).symm ▸ octet_lt col r), segment_getElem,
    Nat.zero_add]

/-! ## The key -/

theorem column_xor (t b : Octets) : column (xor t b 4) 0 = addColumn (column t 0) (column b 0) := by
  funext r
  show forEach _ _ _ _ = _
  rw [forEach_apply, if_pos (by omega)]
  rfl

theorem column_keyScheduleCore (t : Octets) {i : ℕ} (first : 1 ≤ i) (last : i < 11) :
    column (keyScheduleCore t i) 0 = scheduleCore sbox i (column t 0) := by
  have substituted : ∀ (a : Octets) {j : ℕ}, j < 4 → subBytes a 4 j = sbox (a j) := by
    intro a j inside
    rw [subBytes, forEach_apply, if_pos inside]
    rfl
  apply column_ext
  · show keyScheduleCore t i 0 = _
    rw [keyScheduleCore, Function.update_self, substituted _ (by decide), rcon_eq i last first]
    rfl
  · show keyScheduleCore t i 1 = _
    rw [keyScheduleCore, Function.update_of_ne (by decide), substituted _ (by decide)]
    exact UInt8.xor_zero.symm
  · show keyScheduleCore t i 2 = _
    rw [keyScheduleCore, Function.update_of_ne (by decide), substituted _ (by decide)]
    exact UInt8.xor_zero.symm
  · show keyScheduleCore t i 3 = _
    rw [keyScheduleCore, Function.update_of_ne (by decide), substituted _ (by decide)]
    exact UInt8.xor_zero.symm

theorem addColumn_comm (a b : Column) : addColumn a b = addColumn b a :=
  funext fun _ => UInt8.xor_comm _ _

/-- The array `keys` holds the first `w` columns of the schedule. -/
structure Expanded (key : ℕ → Column) (e : Expansion) (w : ℕ) : Prop where
  bytes : e.bytes = 4 * w
  columns : ∀ v < w, column e.keys v = schedule sbox 4 key v

theorem column_memcpy (keys t : Octets) (w v : ℕ) (upTo : v ≤ w) :
    column (memcpy keys (4 * w) (segment t 0 4)) v =
      if v = w then column t 0 else column keys v := by
  funext r
  by_cases same : v = w
  · subst same
    have inside : 4 * v + (r : ℕ) - 4 * v < (segment t 0 4).length := by
      rw [segment_length]
      omega
    rw [if_pos rfl, column, memcpy, if_pos (by omega), List.getD_eq_getElem _ _ inside,
      segment_getElem, Nat.add_sub_cancel_left]
    rfl
  · rw [if_neg same, column, memcpy, if_neg (by omega)]
    rfl

theorem Expanded.next {key : ℕ → Column} {e : Expansion} {w : ℕ} (expanded : Expanded key e w)
    (behind : 4 ≤ w) {core : Octets → Octets} {f : Column → Column}
    (does : ∀ t, column (core t) 0 = f (column t 0))
    (column_eq : schedule sbox 4 key w =
      addColumn (schedule sbox 4 key (w - 4)) (f (schedule sbox 4 key (w - 1)))) :
    Expanded key (e.next core) (w + 1) := by
  have last : column (memcpy e.t 0 (segment e.keys (e.bytes - 4) 4)) 0 =
      schedule sbox 4 key (w - 1) := by
    have place : e.bytes - 4 = 4 * (w - 1) := by rw [expanded.bytes]; omega
    rw [← expanded.columns (w - 1) (by omega), place]
    refine (column_memcpy e.t (fun i => e.keys (4 * (w - 1) + i)) 0 0 (Nat.le_refl 0)).trans ?_
    rw [if_pos rfl]
    funext r
    exact congrArg e.keys (by omega)
  have before : column (fun i => e.keys (e.bytes - 16 + i)) 0 = schedule sbox 4 key (w - 4) := by
    have place : e.bytes - 16 = 4 * (w - 4) := by rw [expanded.bytes]; omega
    rw [← expanded.columns (w - 4) (by omega), place]
    funext r
    exact congrArg e.keys (by omega)
  refine ⟨?_, fun v inside => ?_⟩
  · show e.bytes + 4 = _
    rw [expanded.bytes, Nat.mul_succ]
  · show column (memcpy e.keys e.bytes (segment _ 0 4)) v = _
    rw [expanded.bytes, column_memcpy _ _ w v (Nat.le_of_lt_succ inside)]
    by_cases same : v = w
    · rw [if_pos same, same, column_xor, does, ← expanded.bytes, last, before, column_eq,
        addColumn_comm]
    · rw [if_neg same]
      exact expanded.columns v (by omega)

/-- A round of the loop makes four columns. -/
theorem Expanded.round {key : ℕ → Column} {e : Expansion} {i : ℕ}
    (expanded : Expanded key e (4 * i)) (first : 1 ≤ i) (last : i < 11) :
    Expanded key ((Expansion.next id)^[3] (e.next (keyScheduleCore · i))) (4 * (i + 1)) := by
  have positive : 0 < 4 := by decide
  have start : schedule sbox 4 key (4 * i) = addColumn (schedule sbox 4 key (4 * i - 4))
      (scheduleCore sbox i (schedule sbox 4 key (4 * i - 1))) := by
    rw [schedule_next sbox key positive (by omega), if_pos (Nat.mul_mod_right 4 i),
      Nat.mul_div_cancel_left i positive]
  have other : ∀ w, 4 ≤ w → w % 4 ≠ 0 → schedule sbox 4 key w =
      addColumn (schedule sbox 4 key (w - 4)) (id (schedule sbox 4 key (w - 1))) := by
    intro w behind between
    rw [schedule_next sbox key positive behind, if_neg between, if_neg (by omega)]
    rfl
  have one := expanded.next (by omega) (fun t => column_keyScheduleCore t first last) start
  have same : ∀ t, column (id t) 0 = id (column t 0) := fun t => rfl
  have two := one.next (by omega) same (other _ (by omega) (by omega))
  have three := two.next (by omega) same (other _ (by omega) (by omega))
  exact three.next (by omega) same (other _ (by omega) (by omega))

theorem expandLoop_columns {key : ℕ → Column} (rest : ℕ) {e : Expansion} {i : ℕ}
    (count : i + rest = 11) (first : 1 ≤ i) (expanded : Expanded key e (4 * i)) :
    ∀ v < 44, column (expandLoop e i) v = schedule sbox 4 key v := by
  induction rest generalizing e i with
  | zero =>
    have done : ¬ e.bytes < 176 := by
      rw [expanded.bytes]
      omega
    rw [expandLoop, if_neg done]
    intro v inside
    exact expanded.columns v (by omega)
  | succ rest ih =>
    have more : e.bytes < 176 := by
      rw [expanded.bytes]
      omega
    rw [expandLoop, if_pos more]
    exact ih (by omega) (by omega) (expanded.round first (by omega))

/-- The array is filled with the schedule of the key, whatever it held. -/
theorem expandKey_columns (key keys t : Octets) :
    ∀ v < 44, column (expandKey key keys t) v = schedule sbox 4 (column key) v := by
  refine expandLoop_columns 10 rfl (Nat.le_refl 1) ⟨rfl, fun v inside => ?_⟩
  have copied := congrFun (state_memcpy keys key) ⟨v, inside⟩
  rw [schedule_key sbox _ inside]
  exact copied

/-! ## The cipher -/

theorem state_middleRounds (c keys : Octets) (w : ℕ → State) (n : ℕ)
    (right : ∀ i ≤ n, roundKey (column keys) i = w i) (start : state c = rounds sbox w 0 s) :
    state (middleRounds c keys n) = rounds sbox w n s := by
  induction n with
  | zero => exact start
  | succ n ih =>
    rw [middleRounds, state_xorRoundKey, state_mixCols, state_shiftRows, state_subBytes,
      ih fun i upTo => right i (Nat.le_succ_of_le upTo), right (n + 1) (Nat.le_refl _)]
    rfl

/-- The round keys of `aes128`. -/
noncomputable def keysOf (key : Octets) : ℕ → State := roundKey (schedule sbox 4 (column key))

theorem roundKey_expandKey (key keys t : Octets) {i : ℕ} (inside : i ≤ 10) :
    roundKey (column (expandKey key keys t)) i = keysOf key i :=
  funext fun c => expandKey_columns key keys t (4 * i + c) (by omega)

theorem state_aes128 (key msg c keys t : Octets) :
    state (aes128 key msg c keys t) = cipher sbox (keysOf key) 9 (state msg) := by
  have start : state (xorRoundKey (memcpy c 0 (segment msg 0 16)) (expandKey key keys t) 0) =
      rounds sbox (keysOf key) 0 (state msg) := by
    rw [state_xorRoundKey, state_memcpy, roundKey_expandKey key keys t (Nat.zero_le _)]
    rfl
  rw [aes128, state_xorRoundKey, state_shiftRows, state_subBytes,
    state_middleRounds _ _ (keysOf key) 9
      (fun i upTo => roundKey_expandKey key keys t (Nat.le_succ_of_le upTo)) start,
    roundKey_expandKey key keys t (Nat.le_refl _)]
  rfl

/-! ## What is left alone -/

theorem mixCols_outside (c : Octets) {i : ℕ} (outside : 16 ≤ i) : mixCols c i = c i := by
  rw [mixCols, mixCol_outside _ (by omega), mixCol_outside _ (by omega),
    mixCol_outside _ (by omega), mixCol_outside _ (by omega)]

theorem xorRoundKey_outside (c keys : Octets) (round : ℕ) {i : ℕ} (outside : 16 ≤ i) :
    xorRoundKey c keys round i = c i := forEach_outside _ c outside

theorem middleRounds_outside (c keys : Octets) (n : ℕ) {i : ℕ} (outside : 16 ≤ i) :
    middleRounds c keys n i = c i := by
  induction n with
  | zero => rfl
  | succ n ih =>
    rw [middleRounds, xorRoundKey_outside _ _ _ outside, mixCols_outside _ outside, shiftRows,
      forEach_outside _ _ outside, subBytes, forEach_outside _ _ outside, ih]

theorem aes128_outside (key msg c keys t : Octets) {i : ℕ} (outside : 16 ≤ i) :
    aes128 key msg c keys t i = c i := by
  have copied : memcpy c 0 (segment msg 0 16) i = c i :=
    memcpy_outside c _ (Or.inr (by rw [segment_length]; omega))
  rw [aes128, xorRoundKey_outside _ _ _ outside, shiftRows, forEach_outside _ _ outside, subBytes,
    forEach_outside _ _ outside, middleRounds_outside _ _ _ outside,
    xorRoundKey_outside _ _ _ outside, copied]

/-- The routine with its tables computes the cipher of its arithmetic, for every key and block and
whatever the arrays held; no octet behind the block is written. -/
theorem aes128_computes_rijndael (key msg c keys t : Octets) :
    IsSubstitution sbox ∧
      state (aes128 key msg c keys t) = cipher sbox (keysOf key) 9 (state msg) ∧
      ∀ i, 16 ≤ i → aes128 key msg c keys t i = c i :=
  ⟨sbox_isSubstitution, state_aes128 key msg c keys t, fun _ => aes128_outside key msg c keys t⟩

end Zboss.Aes
