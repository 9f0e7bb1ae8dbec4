import Zboss.Lib.CcmStar
import Zboss.Lib.Object

/-!
CCM* as the stack computes it (`secur_ccm.c`), with the block cipher as a parameter.
The routines write whole blocks, also at the unaligned end of a text and for the
tag of four octets, so they need room behind the text: twelve octets more than the
result has.
-/

namespace Zboss.Ccm

open Zboss.CcmStar Zboss.Object

def ioBufSize : ℕ := 148

/-- `ZB_CCM_M`, the length of the tag. -/
def ccmM : ℕ := 4

/-- `aes128`: key and block to block. -/
abbrev Aes := Block 16 → Block 16 → Block 16

/-- The nonce of `ZB_CCM_NONCE_LEN` octets. -/
abbrev Nonce := Fin 13 → UInt8

/-- The data of a packet buffer. -/
structure Buf where
  buf : List UInt8
  len : ℕ
  dataOffset : ℕ
  deriving DecidableEq

/-- The octets a buffer holds. -/
def Buf.content (b : Buf) : List UInt8 := (b.buf.drop b.dataOffset).take b.len

def htobe16 (value : ℕ) : List UInt8 := [UInt8.ofNat (value / 256), UInt8.ofNat value]

/-- The 16-octet field B0: flags, nonce, length of the message. -/
def b0 (nonce : Nonce) (messageLen : ℕ) : Block 16 :=
  block 16 (0x49 :: List.ofFn nonce ++ htobe16 messageLen)

/-- The counter field Ai: flags, nonce, counter. -/
def ai (nonce : Nonce) (i : ℕ) : Block 16 :=
  block 16 (0x01 :: List.ofFn nonce ++ htobe16 i)

/-! ## The routines -/

/-- Whole blocks of a string into the running MAC. -/
def authBlocks (aes : Block 16 → Block 16) (string : List UInt8) : ℕ → ℕ → Block 16 → Block 16
  | 0, _, t => t
  | rounds + 1, p, t =>
    authBlocks aes string rounds (p + 16) (aes (xor t (block 16 (string.drop p))))

/-- `len` octets of a string from `p` on into the running MAC. -/
def authString (aes : Block 16 → Block 16) (string : List UInt8) (p len : ℕ) (t : Block 16) :
    Block 16 :=
  let t := authBlocks aes string (len / 16) p t
  let p := p + 16 * (len / 16)
  let len := len % 16
  if len ≠ 0 then aes (xor t (block 16 ((string.drop p).take len))) else t

/-- `auth_trans`; the tag is the first four octets of the result. -/
def authTrans (aes : Block 16 → Block 16) (nonce : Nonce) (stringA stringM : List UInt8) :
    Block 16 :=
  let t := aes (b0 nonce stringM.length)
  if stringA.length ≤ 14 then
    let t := aes (xor t (block 16 (htobe16 stringA.length ++ stringA)))
    authString aes stringM 0 stringM.length t
  else
    let t := aes (xor t (block 16 (htobe16 stringA.length ++ stringA.take 14)))
    let t := authString aes stringA 14 (stringA.length - 14) t
    authString aes stringM 0 stringM.length t

/-- Whole blocks of a string to their encryption. -/
def encryptBlocks (aes : Block 16 → Block 16) (nonce : Nonce) (string : List UInt8) :
    ℕ → ℕ → ℕ → ℕ → List UInt8 → Option (List UInt8)
  | 0, _, _, _, out => some out
  | rounds + 1, i, p, pe, out => do
    let out ← store out pe (bytes (xor (aes (ai nonce i)) (block 16 (string.drop p))))
    encryptBlocks aes nonce string rounds (i + 1) (p + 16) (pe + 16) out

/-- `encrypt_trans`: the encrypted string and behind it the encrypted tag. -/
def encryptTrans (aes : Block 16 → Block 16) (nonce : Nonce) (string t : List UInt8)
    (out : List UInt8) (pe : ℕ) : Option (List UInt8) := do
  let rounds := string.length / 16
  let out ← encryptBlocks aes nonce string rounds 1 0 pe out
  let len := string.length % 16
  let out ← (if len ≠ 0 then
      store out (pe + 16 * rounds)
        (bytes (xor (aes (ai nonce (rounds + 1))) (block 16 (string.drop (16 * rounds)))))
    else some out)
  store out (pe + 16 * rounds + len) (bytes (xor (aes (ai nonce 0)) (block 16 (t.take ccmM))))

def ccmEncryptNAuth (aes : Aes) (key : Block 16) (nonce : Nonce) (stringA stringM : List UInt8)
    (cryptedText : Buf) : Option Buf := do
  let t := authTrans (aes key) nonce stringA stringM
  let len := stringA.length + stringM.length + ccmM
  let dataOffset := (ioBufSize - len) / 2
  let buf ← encryptTrans (aes key) nonce stringM (bytes t) cryptedText.buf
    (dataOffset + stringA.length)
  let buf ← store buf dataOffset stringA
  some ⟨buf, len, dataOffset⟩

/-- `zb_ccm_decrypt_n_auth`; `true` is `RET_OK`.  `decryptedText` is the array on the
stack with what it holds. -/
def ccmDecryptNAuth (aes : Aes) (key : Block 16) (nonce : Nonce) (b : Buf)
    (stringALen stringCLen : ℕ) (decryptedText : List UInt8) : Option (Buf × Bool) := do
  let begin_ := b.buf.drop b.dataOffset
  let decryptedTextLen := stringCLen - ccmM
  let decryptedText ← encryptTrans (aes key) nonce
    ((begin_.drop stringALen).take decryptedTextLen)
    ((begin_.drop (stringALen + decryptedTextLen)).take ccmM) decryptedText 0
  let t := authTrans (aes key) nonce (begin_.take stringALen) (decryptedText.take decryptedTextLen)
  let len := b.len - ccmM
  if (decryptedText.drop decryptedTextLen).take ccmM = (bytes t).take ccmM then
    let buf ← store b.buf (b.dataOffset + stringALen) (decryptedText.take decryptedTextLen)
    some (⟨buf, len, b.dataOffset⟩, true)
  else
    let buf ← store b.buf (b.dataOffset + stringALen) (List.replicate decryptedTextLen 0xeb)
    some (⟨buf, len, b.dataOffset⟩, false)

/-! ## The specification -/

/-- The tag of an authentication string and a message. -/
def tag (aes : Block 16 → Block 16) (nonce : Nonce) (a m : List UInt8) : List UInt8 :=
  let authData := if a = [] then [] else blocks 16 (htobe16 a.length ++ a)
  (bytes (cbcMac aes (fun _ => 0) (b0 nonce m.length :: authData ++ blocks 16 m))).take ccmM

/-- Encrypt or decrypt a tag. -/
def tagCtr (aes : Block 16 → Block 16) (nonce : Nonce) (t : List UInt8) : List UInt8 :=
  (bytes (xor (aes (ai nonce 0)) (block 16 t))).take ccmM

/-- The CCM* encryption of a message: its encryption and the encrypted tag. -/
def ccmStar (aes : Block 16 → Block 16) (nonce : Nonce) (a m : List UInt8) : List UInt8 :=
  ctr aes (ai nonce) 1 m ++ tagCtr aes nonce (tag aes nonce a m)

/-! ## The authentication transformation -/

variable (aes : Block 16 → Block 16) (nonce : Nonce)

theorem authString_short {string : List UInt8} {p len : ℕ} (short : len < 16) (t : Block 16) :
    authString aes string p len t =
      if len ≠ 0 then aes (xor t (block 16 ((string.drop p).take len))) else t := by
  unfold authString
  rw [Nat.div_eq_of_lt short, Nat.mod_eq_of_lt short]
  rfl

theorem authString_long {string : List UInt8} {p len : ℕ} (long : 16 ≤ len) (t : Block 16) :
    authString aes string p len t =
      authString aes string (p + 16) (len - 16) (aes (xor t (block 16 (string.drop p)))) := by
  have rounds : len / 16 = (len - 16) / 16 + 1 := by omega
  have rest : len % 16 = (len - 16) % 16 := by omega
  have place : p + 16 * ((len - 16) / 16 + 1) = p + 16 + 16 * ((len - 16) / 16) := by omega
  unfold authString
  rw [rounds, rest, place]
  rfl

/-- A string enters the MAC as its padded blocks. -/
theorem authString_eq {string : List UInt8} {p len : ℕ} (inside : p + len ≤ string.length)
    (t : Block 16) : authString aes string p len t =
      cbcMac aes t (blocks 16 ((string.drop p).take len)) := by
  induction len using Nat.strong_induction_on generalizing p t with
  | _ len induction_ =>
    have size : ((string.drop p).take len).length = len := by
      rw [List.length_take, List.length_drop]
      omega
    by_cases long : 16 ≤ len
    · have nonempty : (string.drop p).take len ≠ [] := by
        rw [← List.length_pos_iff, size]
        omega
      have next : ((string.drop p).take len).drop 16 = (string.drop (p + 16)).take (len - 16) := by
        rw [List.drop_take, List.drop_drop]
      rw [authString_long aes long, induction_ (len - 16) (by omega) (by omega),
        blocks_cons (by decide) nonempty, block_take long, next]
      rfl
    · rw [authString_short aes (by omega)]
      split
      · next some =>
        have nonempty : (string.drop p).take len ≠ [] := by
          rw [← List.length_pos_iff, size]
          omega
        rw [blocks_single (by decide) nonempty (by omega)]
        rfl
      · next none =>
        rw [not_not.mp none, List.take_zero, blocks_nil (by decide)]
        rfl

theorem authTrans_eq {a : List UInt8} (nonempty : a ≠ []) (m : List UInt8) :
    (bytes (authTrans aes nonce a m)).take ccmM = tag aes nonce a m := by
  have message : ∀ t, authString aes m 0 m.length t = cbcMac aes t (blocks 16 m) := by
    intro t
    rw [authString_eq aes (by omega), List.drop_zero, List.take_length]
  have start : aes (b0 nonce m.length) = aes (xor (fun _ => 0) (b0 nonce m.length)) := by
    congr 1
    exact funext fun i => (UInt8.zero_xor).symm
  have framed : htobe16 a.length ++ a ≠ [] := by simp [htobe16]
  have rest : (htobe16 a.length ++ a).drop 16 = a.drop 14 := by simp [htobe16]
  unfold tag
  rw [if_neg nonempty]
  congr 2
  unfold authTrans
  dsimp only
  rw [message, message, start, blocks_cons (by decide) framed, rest]
  split
  · next short =>
    rw [List.drop_eq_nil_of_le short, blocks_nil (by decide)]
    simp only [cbcMac, List.cons_append, List.nil_append, List.foldl_cons]
  · next long =>
    have first : block 16 (htobe16 a.length ++ a) =
        block 16 (htobe16 a.length ++ a.take 14) := by
      have cut : htobe16 a.length ++ a.take 14 = (htobe16 a.length ++ a).take 16 := by
        simp [htobe16]
      rw [cut, block_take (Nat.le_refl 16)]
    have others : (a.drop 14).take (a.length - 14) = a.drop 14 := by
      rw [List.take_of_length_le (by rw [List.length_drop])]
    rw [authString_eq aes (by omega), others, first]
    simp only [cbcMac, List.cons_append, List.foldl_cons, List.foldl_append]

/-! ## The encryption transformation -/

theorem encryptBlocks_zero (string : List UInt8) (i p pe : ℕ) (out : List UInt8) :
    encryptBlocks aes nonce string 0 i p pe out = some out := rfl

/-- The loop and the padded rest write the encrypted blocks of the string. -/
theorem encryptText_eq {string : List UInt8} {p len : ℕ} (all : p + len = string.length) (i : ℕ)
    (front rest : List UInt8) :
    (encryptBlocks aes nonce string (len / 16) i p front.length (front ++ rest)).bind (fun out =>
      if len % 16 ≠ 0 then store out (front.length + 16 * (len / 16)) (bytes (xor
        (aes (ai nonce (i + len / 16))) (block 16 (string.drop (p + 16 * (len / 16))))))
      else some out) =
    if (len + 15) / 16 * 16 ≤ rest.length then
      some (front ++ ctrBlocks aes (ai nonce) i (blocks 16 (string.drop p)) ++
        rest.drop ((len + 15) / 16 * 16))
    else none := by
  induction len using Nat.strong_induction_on generalizing p i front rest with
  | _ len induction_ =>
    have size : (string.drop p).length = len := by
      rw [List.length_drop]
      omega
    by_cases long : 16 ≤ len
    · have nonempty : string.drop p ≠ [] := by
        rw [← List.length_pos_iff, size]
        omega
      have rounds : len / 16 = (len - 16) / 16 + 1 := by omega
      have remainder : len % 16 = (len - 16) % 16 := by omega
      have room : (len + 15) / 16 * 16 = (len - 16 + 15) / 16 * 16 + 16 := by omega
      have place : p + 16 * ((len - 16) / 16 + 1) = p + 16 + 16 * ((len - 16) / 16) := by omega
      have counter : i + ((len - 16) / 16 + 1) = i + 1 + (len - 16) / 16 := by omega
      rw [rounds, remainder, room, place, counter, encryptBlocks, store_append, bytes_length]
      by_cases fits : 16 ≤ rest.length
      · have grown := induction_ (len - 16) (by omega) (p := p + 16) (by omega) (i + 1)
          (front ++ bytes (xor (aes (ai nonce i)) (block 16 (string.drop p)))) (rest.drop 16)
        have start : (front ++ bytes (xor (aes (ai nonce i)) (block 16 (string.drop p)))).length =
            front.length + 16 := by rw [List.length_append, bytes_length]
        have shifted : front.length + 16 * ((len - 16) / 16 + 1) =
            front.length + 16 + 16 * ((len - 16) / 16) := by omega
        rw [start, List.length_drop, List.drop_drop] at grown
        rw [if_pos fits, blocks_cons (by decide) nonempty, List.drop_drop, ctrBlocks, shifted]
        refine grown.trans ?_
        by_cases more : (len - 16 + 15) / 16 * 16 ≤ rest.length - 16
        · rw [if_pos more, if_pos (by omega), List.append_assoc front, Nat.add_comm 16]
        · rw [if_neg more, if_neg (by omega)]
      · rw [if_neg fits, if_neg (by omega)]
        rfl
    · rw [Nat.div_eq_of_lt (by omega), Nat.mod_eq_of_lt (by omega), encryptBlocks_zero]
      dsimp only [Option.bind_some]
      split
      · next some =>
        have nonempty : string.drop p ≠ [] := by
          rw [← List.length_pos_iff, size]
          omega
        have room : (len + 15) / 16 * 16 = 16 := by omega
        rw [Nat.mul_zero, Nat.add_zero, Nat.add_zero, Nat.add_zero, store_append, bytes_length,
          room, blocks_single (by decide) nonempty (by omega), ctrBlocks, ctrBlocks,
          List.append_nil]
      · next none =>
        have zero := not_not.mp none
        have empty : string.drop p = [] := List.length_eq_zero_iff.mp (size.trans zero)
        rw [zero, empty, blocks_nil (by decide), if_pos (by omega), ctrBlocks, List.append_nil]
        rfl

/-- `encrypt_trans` writes the encrypted string and a whole block with the tag behind it,
where there is room for both. -/
theorem encryptTrans_eq (string t front rest : List UInt8) :
    encryptTrans aes nonce string t (front ++ rest) front.length =
      if string.length + 16 ≤ rest.length then
        some (front ++ ctr aes (ai nonce) 1 string ++
          bytes (xor (aes (ai nonce 0)) (block 16 (t.take ccmM))) ++
          rest.drop (string.length + 16))
      else none := by
  have start : 0 + string.length = string.length := Nat.zero_add _
  have text := encryptText_eq aes nonce start 1 front rest
  simp only [Nat.zero_add, List.drop_zero, Nat.add_comm 1] at text
  have last : front.length + 16 * (string.length / 16) + string.length % 16 =
      front.length + string.length := by omega
  unfold encryptTrans
  dsimp only [bind]
  rw [last, ← Option.bind_assoc, text]
  -- the last block written before the tag ends at a multiple of 16
  by_cases fits : (string.length + 15) / 16 * 16 ≤ rest.length
  · have whole : (ctrBlocks aes (ai nonce) 1 (blocks 16 string)).length =
        (string.length + 15) / 16 * 16 := by
      rw [ctrBlocks_length, blocks, List.length_map, List.length_range, Nat.mul_comm]
    have cut := List.take_append_drop string.length (ctrBlocks aes (ai nonce) 1 (blocks 16 string))
    have length : (front ++ ctr aes (ai nonce) 1 string).length = front.length + string.length := by
      rw [List.length_append, ctr_length _ _ (by decide)]
    rw [if_pos fits, Option.bind_some, ← cut, List.append_assoc, List.append_assoc,
      ← List.append_assoc front, ← length, ← ctr, store_append, bytes_length]
    generalize rest_ : (ctrBlocks aes (ai nonce) 1 (blocks 16 string)).drop string.length ++
      rest.drop ((string.length + 15) / 16 * 16) = behind
    have room : behind.length = rest.length - string.length := by
      rw [← rest_, List.length_append, List.length_drop, List.length_drop, whole]
      omega
    by_cases tagFits : string.length + 16 ≤ rest.length
    · have after : behind.drop 16 = rest.drop (string.length + 16) := by
        rw [← rest_, List.drop_append, List.drop_eq_nil_of_le, List.nil_append, List.drop_drop]
        · congr 1
          rw [List.length_drop, whole]
          omega
        · rw [List.length_drop, whole]
          omega
      rw [if_pos tagFits, if_pos (by omega), after]
    · rw [if_neg tagFits, if_neg (by omega)]
  · rw [if_neg fits, if_neg (by omega)]
    rfl

/-! ## The two procedures -/

/-- Encrypting succeeds where a whole block fits behind the encrypted message. -/
theorem ccmEncryptNAuth_eq (aes : Aes) (key : Block 16) {a m : List UInt8} (nonempty : a ≠ [])
    (fits : a.length + m.length + ccmM ≤ ioBufSize) {b : Buf} (size : b.buf.length = ioBufSize) :
    if a.length + m.length + ccmM ≤ 125 then
      ∃ b', ccmEncryptNAuth aes key nonce a m b = some b' ∧ b'.buf.length = ioBufSize ∧
        b'.dataOffset + b'.len ≤ ioBufSize ∧ b'.content = a ++ ccmStar (aes key) nonce a m
    else ccmEncryptNAuth aes key nonce a m b = none := by
  unfold ccmStar tagCtr
  rw [← authTrans_eq (aes key) nonce nonempty m]
  unfold ccmEncryptNAuth
  dsimp only [bind]
  generalize bytes (authTrans (aes key) nonce a m) = t
  rw [ioBufSize, ccmM] at *
  generalize offset : (148 - (a.length + m.length + 4)) / 2 = o
  have front : (b.buf.take (o + a.length)).length = o + a.length := by
    rw [List.length_take]
    omega
  have written := encryptTrans_eq (aes key) nonce m t (b.buf.take (o + a.length))
    (b.buf.drop (o + a.length))
  rw [List.take_append_drop, front, List.length_drop, size, ccmM] at written
  rw [written]
  have text := ctr_length (aes key) (ai nonce) (by decide) 1 m
  have tagBlock := bytes_length (xor (aes key (ai nonce 0)) (block 16 (t.take 4)))
  generalize bytes (xor (aes key (ai nonce 0)) (block 16 (t.take 4))) = u at *
  generalize ctr (aes key) (ai nonce) 1 m = c at *
  by_cases room : a.length + m.length + 4 ≤ 125
  · rw [if_pos room, if_pos (by omega), Option.bind_some]
    have start : (b.buf.take o).length = o := by
      rw [List.length_take]
      omega
    have middle : ((b.buf.drop o).take a.length).length = a.length := by
      rw [List.length_take, List.length_drop]
      omega
    have rest : ((b.buf.drop (o + a.length)).drop (m.length + 16)).length =
        148 - (o + a.length) - (m.length + 16) := by
      rw [List.length_drop, List.length_drop, size]
    rw [List.take_add, List.append_assoc, List.append_assoc, List.append_assoc,
      store_over start middle]
    refine ⟨_, rfl, ?_, ?_, ?_⟩
    · rw [List.length_append, List.length_append, List.length_append, List.length_append, rest]
      omega
    · dsimp only
      omega
    · simp only [Buf.content, List.append_assoc, List.drop_left' start]
      have four : a.length + m.length + 4 - a.length - m.length = 4 := by omega
      rw [List.take_append, List.take_of_length_le (by omega), List.take_append, text,
        List.take_of_length_le (by omega), List.take_append_of_le_length (by omega), four]
  · rw [if_neg room, if_neg (by omega)]
    rfl

theorem tagCtr_length (t : List UInt8) : (tagCtr aes nonce t).length = 4 := by
  rw [tagCtr, List.length_take, bytes_length]
  rfl

theorem tagCtr_getD (t : List UInt8) {i : ℕ} (inside : i < 4) : (tagCtr aes nonce t).getD i 0 =
    aes (ai nonce 0) ⟨i, by omega⟩ ^^^ t.getD i 0 := by
  rw [tagCtr, List.getD_eq_getElem?_getD, List.getElem?_take, if_pos (by rwa [ccmM]),
    ← List.getD_eq_getElem?_getD, bytes_getD _ (by omega)]
  rfl

/-- Encrypting a tag twice gives it back. -/
theorem tagCtr_tagCtr {t : List UInt8} (four : t.length = 4) :
    tagCtr aes nonce (tagCtr aes nonce t) = t := by
  apply List.ext_getElem ((tagCtr_length aes nonce _).trans four.symm)
  intro i left right
  have inside : i < 4 := by omega
  rw [← List.getD_eq_getElem _ 0 left, ← List.getD_eq_getElem _ 0 right,
    tagCtr_getD aes nonce _ inside, tagCtr_getD aes nonce _ inside, ← UInt8.xor_assoc,
    UInt8.xor_self, UInt8.zero_xor]

theorem tag_length (a m : List UInt8) : (tag aes nonce a m).length = 4 := by
  rw [tag, List.length_take, bytes_length]
  rfl

/-- The buffer holds an authentication string, an encrypted message and an encrypted tag. -/
structure Holds (b : Buf) (a c u : List UInt8) : Prop where
  size : b.buf.length = ioBufSize
  inside : b.dataOffset + b.len ≤ ioBufSize
  content : b.content = a ++ (c ++ u)
  tagLength : u.length = ccmM

/-- The octets in front of the data of a buffer, and those behind it. -/
theorem Holds.buf_eq {b : Buf} {a c u : List UInt8} (holds : Holds b a c u) :
    ∃ front rest, b.buf = front ++ a ++ (c ++ (u ++ rest)) ∧ front.length = b.dataOffset ∧
      b.len = a.length + c.length + ccmM := by
  have content := holds.content
  have length := congrArg List.length content
  rw [Buf.content, List.length_take, List.length_drop, holds.size, List.length_append,
    List.length_append, holds.tagLength] at length
  refine ⟨b.buf.take b.dataOffset, (b.buf.drop b.dataOffset).drop b.len, ?_, ?_, ?_⟩
  · rw [← List.append_assoc c, List.append_assoc (b.buf.take _), ← List.append_assoc a, ← content,
      Buf.content, List.take_append_drop, List.take_append_drop]
  · rw [List.length_take, holds.size]
    have := holds.inside
    omega
  · have := holds.inside
    omega

/-- What decrypting has to do: accept exactly the tag of the decrypted message, and
hand out the message in that case only. -/
structure Decrypted (aes : Block 16 → Block 16) (nonce : Nonce) (b : Buf) (a c u : List UInt8)
    (b' : Buf) (ok : Bool) : Prop where
  accepts : ok = true ↔ u = tagCtr aes nonce (tag aes nonce a (ctr aes (ai nonce) 1 c))
  content : b'.content = a ++ if ok then ctr aes (ai nonce) 1 c else List.replicate c.length 0xeb
  front : b'.buf.take (b.dataOffset + a.length) = b.buf.take (b.dataOffset + a.length)
  behind : b'.buf.drop (b.dataOffset + a.length + c.length) =
    b.buf.drop (b.dataOffset + a.length + c.length)
  size : b'.buf.length = ioBufSize

/-- Writing a text of the right length over the encrypted message. -/
theorem Holds.store_text {b : Buf} {a c u : List UInt8} (holds : Holds b a c u)
    {text : List UInt8} (length : text.length = c.length) :
    ∃ buf, store b.buf (b.dataOffset + a.length) text = some buf ∧ buf.length = ioBufSize ∧
      (buf.drop b.dataOffset).take (b.len - ccmM) = a ++ text ∧
      buf.take (b.dataOffset + a.length) = b.buf.take (b.dataOffset + a.length) ∧
      buf.drop (b.dataOffset + a.length + c.length) =
        b.buf.drop (b.dataOffset + a.length + c.length) := by
  obtain ⟨front, rest, cells, place, len⟩ := holds.buf_eq
  have head : (front ++ a).length = b.dataOffset + a.length := by rw [List.length_append, place]
  have whole : (front ++ a ++ c).length = b.dataOffset + a.length + c.length := by
    rw [List.length_append, head]
  have whole' : (front ++ a ++ text).length = b.dataOffset + a.length + c.length := by
    rw [List.length_append, head, length]
  have stored : store b.buf (b.dataOffset + a.length) text =
      some (front ++ a ++ text ++ (u ++ rest)) := by
    rw [cells, store_over head length.symm]
  refine ⟨_, stored, (store_length stored).trans holds.size, ?_, ?_, ?_⟩
  · rw [List.append_assoc, List.append_assoc, List.drop_left' place, ← List.append_assoc,
      List.take_left']
    rw [List.length_append, length, len, Nat.add_sub_cancel]
  · rw [cells, List.append_assoc, List.take_left' head, List.take_left' head]
  · rw [cells, ← List.append_assoc _ c, List.drop_left' whole, List.drop_left' whole']

/-- Decrypting takes the tag off and leaves the data where they are. -/
theorem ccmDecryptNAuth_place {aes : Aes} {key : Block 16} {b b' : Buf} {stringALen stringCLen : ℕ}
    {junk : List UInt8} {ok : Bool}
    (done : ccmDecryptNAuth aes key nonce b stringALen stringCLen junk = some (b', ok)) :
    b'.dataOffset = b.dataOffset ∧ b'.len = b.len - ccmM := by
  unfold ccmDecryptNAuth at done
  obtain ⟨decrypted, -, done⟩ := Option.bind_eq_some_iff.mp done
  dsimp only at done
  split at done
  · obtain ⟨buf, -, done⟩ := Option.bind_eq_some_iff.mp done
    cases done
    exact ⟨rfl, rfl⟩
  · obtain ⟨buf, -, done⟩ := Option.bind_eq_some_iff.mp done
    cases done
    exact ⟨rfl, rfl⟩

/-- Decrypting succeeds where a whole block fits behind the message on the stack. -/
theorem ccmDecryptNAuth_eq (aes : Aes) (key : Block 16) {b : Buf} {a c u junk : List UInt8}
    (nonempty : a ≠ []) (holds : Holds b a c u) (stack : junk.length = ioBufSize) :
    if c.length + 16 ≤ ioBufSize then
      ∃ b' ok, ccmDecryptNAuth aes key nonce b a.length (c.length + ccmM) junk = some (b', ok) ∧
        Decrypted (aes key) nonce b a c u b' ok
    else ccmDecryptNAuth aes key nonce b a.length (c.length + ccmM) junk = none := by
  obtain ⟨front, rest, cells, place, len⟩ := holds.buf_eq
  have begin_ : b.buf.drop b.dataOffset = a ++ (c ++ (u ++ rest)) := by
    rw [cells, List.append_assoc, List.drop_left' place]
  have message : ((b.buf.drop b.dataOffset).drop a.length).take c.length = c := by
    rw [begin_, List.drop_left, List.take_left]
  have received : ((b.buf.drop b.dataOffset).drop (a.length + c.length)).take ccmM = u := by
    rw [begin_, ← List.drop_drop, List.drop_left, List.drop_left, ← holds.tagLength, List.take_left]
  have written := encryptTrans_eq (aes key) nonce c u [] junk
  have text := ctr_length (aes key) (ai nonce) (by decide) 1 c
  rw [List.nil_append, List.nil_append, List.length_nil, stack] at written
  unfold ccmDecryptNAuth
  dsimp only [bind]
  rw [Nat.add_sub_cancel, message, received, written]
  split
  · next room =>
    have decrypted : (ctr (aes key) (ai nonce) 1 c ++
        bytes (xor (aes key (ai nonce 0)) (block 16 (u.take ccmM))) ++
        junk.drop (c.length + 16)).take c.length = ctr (aes key) (ai nonce) 1 c := by
      rw [List.append_assoc, List.take_left' text]
    have tagged : ((ctr (aes key) (ai nonce) 1 c ++
        bytes (xor (aes key (ai nonce 0)) (block 16 (u.take ccmM))) ++
        junk.drop (c.length + 16)).drop c.length).take ccmM = tagCtr (aes key) nonce u := by
      rw [List.append_assoc, List.drop_left' text, List.take_append_of_le_length
        (by rw [bytes_length, ccmM]; decide), List.take_of_length_le (Nat.le_of_eq holds.tagLength),
        tagCtr]
    have header : (b.buf.drop b.dataOffset).take a.length = a := by
      rw [begin_, List.take_left]
    have same : tagCtr (aes key) nonce u =
        tag (aes key) nonce a (ctr (aes key) (ai nonce) 1 c) ↔
        u = tagCtr (aes key) nonce (tag (aes key) nonce a (ctr (aes key) (ai nonce) 1 c)) := by
      constructor
      · intro equal
        rw [← equal, tagCtr_tagCtr _ _ holds.tagLength]
      · intro equal
        rw [equal, tagCtr_tagCtr _ _ (tag_length _ _ _ _)]
    rw [Option.bind_some, decrypted, tagged, header, authTrans_eq _ _ nonempty]
    split
    · next accepted =>
      obtain ⟨buf, stored, size, content, before, behind⟩ := holds.store_text text
      rw [stored]
      exact ⟨_, true, rfl, ⟨iff_of_true rfl (same.mp accepted), content, before, behind, size⟩⟩
    · next refused =>
      obtain ⟨buf, stored, size, content, before, behind⟩ :=
        holds.store_text (List.length_replicate (n := c.length) (a := (0xeb : UInt8)))
      rw [stored]
      exact ⟨_, false, rfl, ⟨iff_of_false Bool.false_ne_true fun equal => refused (same.mpr equal),
        content, before, behind, size⟩⟩
  · rfl

/-- The two procedures compute CCM*, are inverse to each other and write to their
buffers only, for one authentication string and one message. -/
structure CcmCorrect (aes : Aes) (key : Block 16) (nonce : Nonce) (a m : List UInt8) : Prop where
  encrypts : ∀ b : Buf, b.buf.length = ioBufSize → ∃ b',
    ccmEncryptNAuth aes key nonce a m b = some b' ∧ b'.content = a ++ ccmStar (aes key) nonce a m
  inverts : ∀ (b : Buf) (junk : List UInt8), b.buf.length = ioBufSize → junk.length = ioBufSize →
    ∃ b' b'', ccmEncryptNAuth aes key nonce a m b = some b' ∧
      ccmDecryptNAuth aes key nonce b' a.length (m.length + ccmM) junk = some (b'', true) ∧
      b''.content = a ++ m
  decrypts : ∀ (b : Buf) (c u junk : List UInt8), Holds b a c u → c.length = m.length →
    junk.length = ioBufSize → ∃ b' ok,
      ccmDecryptNAuth aes key nonce b a.length (m.length + ccmM) junk = some (b', ok) ∧
        Decrypted (aes key) nonce b a c u b' ok

/-- A longer result does not fit its buffer. -/
theorem CcmCorrect.short {aes : Aes} {key : Block 16} {nonce : Nonce} {a m : List UInt8}
    (correct : CcmCorrect aes key nonce a m) (nonempty : a ≠ [])
    (fits : a.length + m.length + ccmM ≤ ioBufSize) : a.length + m.length + ccmM ≤ 125 := by
  by_contra long
  obtain ⟨b', encrypted, -⟩ := correct.encrypts ⟨List.replicate ioBufSize 0, 0, 0⟩
    List.length_replicate
  have refused := ccmEncryptNAuth_eq nonce aes key nonempty fits (m := m)
    (b := ⟨List.replicate ioBufSize 0, 0, 0⟩) List.length_replicate
  rw [if_neg long, encrypted] at refused
  cases refused

/-- The procedures are correct exactly for results of at most 125 octets. -/
theorem ccm_correct_iff (aes : Aes) (key : Block 16) (nonce : Nonce) (a m : List UInt8)
    (nonempty : a ≠ []) (fits : a.length + m.length + ccmM ≤ ioBufSize) :
    CcmCorrect aes key nonce a m ↔ a.length + m.length + ccmM ≤ 125 := by
  constructor
  · exact fun correct => correct.short nonempty fits
  · intro short
    have positive := List.length_pos_iff.mpr nonempty
    have stackRoom : m.length + 16 ≤ ioBufSize := by
      rw [ccmM] at short
      rw [ioBufSize]
      omega
    have encrypts : ∀ b : Buf, b.buf.length = ioBufSize → ∃ b',
        ccmEncryptNAuth aes key nonce a m b = some b' ∧ b'.buf.length = ioBufSize ∧
          b'.dataOffset + b'.len ≤ ioBufSize ∧
          b'.content = a ++ ccmStar (aes key) nonce a m := by
      intro b size
      have encrypted := ccmEncryptNAuth_eq nonce aes key nonempty fits size
      rwa [if_pos short] at encrypted
    have decrypts : ∀ (b : Buf) (c u junk : List UInt8), Holds b a c u → c.length = m.length →
        junk.length = ioBufSize → ∃ b' ok,
          ccmDecryptNAuth aes key nonce b a.length (m.length + ccmM) junk = some (b', ok) ∧
            Decrypted (aes key) nonce b a c u b' ok := by
      intro b c u junk holds length stack
      have decrypted := ccmDecryptNAuth_eq nonce aes key nonempty holds stack
      rwa [length, if_pos stackRoom] at decrypted
    refine ⟨fun b size => ?_, fun b junk size stack => ?_, decrypts⟩
    · obtain ⟨b', encrypted, -, -, content⟩ := encrypts b size
      exact ⟨b', encrypted, content⟩
    · obtain ⟨b', encrypted, size', inside, content⟩ := encrypts b size
      have holds : Holds b' a (ctr (aes key) (ai nonce) 1 m)
          (tagCtr (aes key) nonce (tag (aes key) nonce a m)) :=
        ⟨size', inside, content, tagCtr_length _ _ _⟩
      obtain ⟨b'', ok, decrypted, spec⟩ := decrypts b' _ _ junk holds
        (ctr_length _ _ (by decide) _ _) stack
      have accepted : ok = true := by
        rw [spec.accepts, ctr_ctr _ _ (by decide)]
      subst accepted
      have restored := spec.content
      rw [if_pos rfl, ctr_ctr _ _ (by decide)] at restored
      exact ⟨b', b'', encrypted, decrypted, restored⟩

/-- With a cipher that adds the key: a header of one octet and a message of two. -/
theorem ccm_correct_iff_short :
    CcmCorrect (fun key b => xor key b) (fun _ => 7) (fun _ => 1) [1] [2, 3] :=
  (ccm_correct_iff _ _ _ [1] [2, 3] (by decide) (by decide)).mpr (by decide)

/-- With 121 octets the tag's block leaves the packet buffer. -/
theorem ccm_writes_outside : ¬ CcmCorrect (fun key b => xor key b) (fun _ => 7) (fun _ => 1) [1]
    (List.replicate 121 0) := by
  intro correct
  have short := correct.short (List.cons_ne_nil _ _) (by simp [ccmM, ioBufSize])
  simp [ccmM] at short

end Zboss.Ccm
