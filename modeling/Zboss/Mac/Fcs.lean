import Zboss.Common.BufLayout
import Zboss.Lib.ReflectedCrc

/-!
The frame check sequence (`mac_fcs.c`): a table of 256 words, a loop over the octets of the frame,
and the remainder behind them, its lower octet first.  The table is that of the polynomial
`x ^ 16 + x ^ 12 + x ^ 5 + 1`.
-/

namespace Zboss.Fcs

open Zboss.BufLayout Zboss.Cells Zboss.ReflectedCrc

/-- `table`. -/
def fcsWords : List (BitVec 16) :=
  [
    0x0000, 0x1189, 0x2312, 0x329B, 0x4624, 0x57AD, 0x6536, 0x74BF,
    0x8C48, 0x9DC1, 0xAF5A, 0xBED3, 0xCA6C, 0xDBE5, 0xE97E, 0xF8F7,
    0x1081, 0x0108, 0x3393, 0x221A, 0x56A5, 0x472C, 0x75B7, 0x643E,
    0x9CC9, 0x8D40, 0xBFDB, 0xAE52, 0xDAED, 0xCB64, 0xF9FF, 0xE876,
    0x2102, 0x308B, 0x0210, 0x1399, 0x6726, 0x76AF, 0x4434, 0x55BD,
    0xAD4A, 0xBCC3, 0x8E58, 0x9FD1, 0xEB6E, 0xFAE7, 0xC87C, 0xD9F5,
    0x3183, 0x200A, 0x1291, 0x0318, 0x77A7, 0x662E, 0x54B5, 0x453C,
    0xBDCB, 0xAC42, 0x9ED9, 0x8F50, 0xFBEF, 0xEA66, 0xD8FD, 0xC974,
    0x4204, 0x538D, 0x6116, 0x709F, 0x0420, 0x15A9, 0x2732, 0x36BB,
    0xCE4C, 0xDFC5, 0xED5E, 0xFCD7, 0x8868, 0x99E1, 0xAB7A, 0xBAF3,
    0x5285, 0x430C, 0x7197, 0x601E, 0x14A1, 0x0528, 0x37B3, 0x263A,
    0xDECD, 0xCF44, 0xFDDF, 0xEC56, 0x98E9, 0x8960, 0xBBFB, 0xAA72,
    0x6306, 0x728F, 0x4014, 0x519D, 0x2522, 0x34AB, 0x0630, 0x17B9,
    0xEF4E, 0xFEC7, 0xCC5C, 0xDDD5, 0xA96A, 0xB8E3, 0x8A78, 0x9BF1,
    0x7387, 0x620E, 0x5095, 0x411C, 0x35A3, 0x242A, 0x16B1, 0x0738,
    0xFFCF, 0xEE46, 0xDCDD, 0xCD54, 0xB9EB, 0xA862, 0x9AF9, 0x8B70,
    0x8408, 0x9581, 0xA71A, 0xB693, 0xC22C, 0xD3A5, 0xE13E, 0xF0B7,
    0x0840, 0x19C9, 0x2B52, 0x3ADB, 0x4E64, 0x5FED, 0x6D76, 0x7CFF,
    0x9489, 0x8500, 0xB79B, 0xA612, 0xD2AD, 0xC324, 0xF1BF, 0xE036,
    0x18C1, 0x0948, 0x3BD3, 0x2A5A, 0x5EE5, 0x4F6C, 0x7DF7, 0x6C7E,
    0xA50A, 0xB483, 0x8618, 0x9791, 0xE32E, 0xF2A7, 0xC03C, 0xD1B5,
    0x2942, 0x38CB, 0x0A50, 0x1BD9, 0x6F66, 0x7EEF, 0x4C74, 0x5DFD,
    0xB58B, 0xA402, 0x9699, 0x8710, 0xF3AF, 0xE226, 0xD0BD, 0xC134,
    0x39C3, 0x284A, 0x1AD1, 0x0B58, 0x7FE7, 0x6E6E, 0x5CF5, 0x4D7C,
    0xC60C, 0xD785, 0xE51E, 0xF497, 0x8028, 0x91A1, 0xA33A, 0xB2B3,
    0x4A44, 0x5BCD, 0x6956, 0x78DF, 0x0C60, 0x1DE9, 0x2F72, 0x3EFB,
    0xD68D, 0xC704, 0xF59F, 0xE416, 0x90A9, 0x8120, 0xB3BB, 0xA232,
    0x5AC5, 0x4B4C, 0x79D7, 0x685E, 0x1CE1, 0x0D68, 0x3FF3, 0x2E7A,
    0xE70E, 0xF687, 0xC41C, 0xD595, 0xA12A, 0xB0A3, 0x8238, 0x93B1,
    0x6B46, 0x7ACF, 0x4854, 0x59DD, 0x2D62, 0x3CEB, 0x0E70, 0x1FF9,
    0xF78F, 0xE606, 0xD49D, 0xC514, 0xB1AB, 0xA022, 0x92B9, 0x8330,
    0x7BC7, 0x6A4E, 0x58D5, 0x495C, 0x3DE3, 0x2C6A, 0x1EF1, 0x0F78]

def table (octet : UInt8) : BitVec 16 := fcsWords.getD octet.toNat 0

/-- One turn of the loop. -/
def fcsStep (crc : BitVec 16) (octet : UInt8) : BitVec 16 :=
  table ⟨((crc ^^^ octet.toBitVec.setWidth 16) &&& 0xff).setWidth 8⟩ ^^^ (crc >>> 8)

/-- `crc` after the loop. -/
def fcs (frame : List UInt8) : BitVec 16 := frame.foldl fcsStep 0

def htole16 (crc : BitVec 16) : List UInt8 := [⟨crc.setWidth 8⟩, ⟨(crc >>> 8).setWidth 8⟩]

/-- `zb_mac_fcs_add`; none where the buffer has no room. -/
def macFcsAdd (b : Buf) : Option Buf :=
  let crc := fcs b.payload
  (b.smartAllocRight 2).map fun (b, p) => { b with buf := memcpy b.buf p.first (htole16 crc) }

/-- The polynomial, the coefficient of the highest power first. -/
def polynomial : BitVec 16 := (0x1021#16).reverse

theorem table_octets : ∀ i < 256, fcsWords.getD i 0 =
    shifts polynomial 8 ((BitVec.ofNat 8 i).setWidth 16) := by
  decide +kernel

theorem table_of : TableOf polynomial table := by
  intro octet
  have here := table_octets octet.toNat octet.toNat_lt
  rw [table, here, word]
  congr 2
  exact BitVec.ofNat_toNat 8 octet.toBitVec

/-- The mask and the narrowing both keep the lowest octet. -/
theorem setWidth_mask (c : BitVec 16) : (c &&& 0xff).setWidth 8 = c.setWidth 8 := by
  apply BitVec.eq_of_getLsbD_eq
  intro i inside
  have low : (0xff#16).getLsbD i = true := by
    have below : ∀ i < 8, (0xff#16).getLsbD i = true := by decide
    exact below i inside
  rw [BitVec.getLsbD_setWidth, BitVec.getLsbD_setWidth, BitVec.getLsbD_and]
  change (_ && (_ && (0xff#16).getLsbD i)) = _
  rw [low, Bool.and_true]

theorem fcsStep_eq : fcsStep = feedOctet table := by
  funext crc octet
  rw [fcsStep, setWidth_mask]
  rfl

theorem fcs_eq (frame : List UInt8) : fcs frame = remainder polynomial frame := by
  rw [fcs, fcsStep_eq, foldl_feedOctet (by decide) table_of]

/-- The octets appended have the bits of the remainder in the order of the check. -/
theorem htole16_bits (crc : BitVec 16) :
    (htole16 crc).flatMap bitsOf = (List.range 16).map crc.getLsbD := by
  have low : bitsOf ⟨crc.setWidth 8⟩ = (List.range 8).map crc.getLsbD := by
    refine List.map_congr_left fun i inside => ?_
    rw [BitVec.getLsbD_setWidth, decide_eq_true (List.mem_range.mp inside), Bool.true_and]
  have high : bitsOf ⟨(crc >>> 8).setWidth 8⟩ = (List.range 8).map fun i => crc.getLsbD (8 + i) := by
    refine List.map_congr_left fun i inside => ?_
    rw [BitVec.getLsbD_setWidth, decide_eq_true (List.mem_range.mp inside), Bool.true_and,
      BitVec.getLsbD_ushiftRight]
  have halves : List.range 16 = List.range 8 ++ (List.range 8).map (8 + ·) := by decide
  rw [htole16, List.flatMap_cons, List.flatMap_cons, List.flatMap_nil, List.append_nil, low, high,
    halves, List.map_append, List.map_map]
  rfl

/-- The loop over the table computes the remainder of the polynomial, bit by bit; with the
octets appended it is 0; and these are what the buffer gets behind its frame. -/
theorem fcs_is_crc :
    (∀ frame : List UInt8, fcs frame = remainder polynomial frame ∧
      fcs (frame ++ htole16 (fcs frame)) = 0 ∧
      remainder polynomial (frame ++ htole16 (fcs frame)) = 0) ∧
    ∀ b b' : Buf, macFcsAdd b = some b' →
      b'.payload = b.payload ++ htole16 (remainder polynomial b.payload) := by
  constructor
  · intro frame
    have gone : remainder polynomial (frame ++ htole16 (fcs frame)) = 0 := by
      apply remainder_append
      rw [htole16_bits, fcs_eq]
    exact ⟨fcs_eq frame, (fcs_eq _).trans gone, gone⟩
  · intro b b' added
    obtain ⟨⟨grown, p⟩, room, rfl⟩ := Option.map_eq_some_iff.mp added
    obtain ⟨-, rfl, len, kept⟩ := Buf.smartAllocRight_spec room
    have place : grown.dataOffset = b.dataOffset := by
      rw [Buf.smartAllocRight] at room
      split at room
      · cases room
        rfl
      · cases room
    rw [Buf.payload, segment_take (by omega)] at kept
    rw [← fcs_eq, Buf.payload]
    dsimp only
    rw [len, place, segment_add, segment_memcpy_before _ (Nat.le_refl _), ← place, kept]
    exact congrArg _ (segment_memcpy _ (htole16 (fcs b.payload)))

/-- A frame of nine digits. -/
def digits : Buf := ⟨9, 60, fun i => UInt8.ofNat (i - 60 + 0x31)⟩

theorem fcs_is_crc_digits : remainder polynomial digits.payload = 0x2189#16 ∧
    ∃ b', macFcsAdd digits = some b' ∧
      b'.payload = digits.payload ++ htole16 (remainder polynomial digits.payload) :=
  ⟨by decide +kernel, _, rfl, fcs_is_crc.2 digits _ rfl⟩

end Zboss.Fcs
