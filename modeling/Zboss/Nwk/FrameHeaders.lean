import Zboss.Common.AddressTable

/-!
The headers of a received frame, read from its octets: the MAC header
(`zb_parse_mhr`), the fields of the NWK header and its size (`zb_nwk_hdr_size`), and
those of the APS header.  No layer checks that a frame is as long as its headers say.
-/

namespace Zboss.FrameHeaders

open Zboss.AddressTable

/-- The octets of a buffer from `ZB_BUF_BEGIN` on.  Behind the frame they are what the
buffer held before. -/
abbrev Octets := ℕ → UInt8

namespace Octets

/-- `ZB_BUF_CUT_LEFT`. -/
def cut (n : ℕ) (p : Octets) : Octets := fun i => p (n + i)

/-- `ZB_LETOH16`. -/
def le16 (p : Octets) (i : ℕ) : UInt16 := (p i).toUInt16 ||| (p (i + 1)).toUInt16 <<< 8

/-- `ZB_LETOH32`. -/
def le32 (p : Octets) (i : ℕ) : UInt32 :=
  (p i).toUInt32 ||| (p (i + 1)).toUInt32 <<< 8 ||| (p (i + 2)).toUInt32 <<< 16 |||
    (p (i + 3)).toUInt32 <<< 24

/-- `ZB_IEEE_ADDR_COPY`. -/
def ieeeAddr (p : Octets) (i : ℕ) : IeeeAddr :=
  ⟨⟨p i, p (i + 1), p (i + 2)⟩, ⟨p (i + 3), p (i + 4), p (i + 5), p (i + 6), p (i + 7)⟩⟩

/-- The `n` octets from `i` on. -/
def slice (p : Octets) (i n : ℕ) : List UInt8 := (List.range n).map fun j => p (i + j)

/-- Write one octet. -/
def set (i : ℕ) (octet : UInt8) (p : Octets) : Octets := Function.update p i octet

/-- A buffer that holds these octets, and zeros behind them. -/
def ofList (octets : List UInt8) : Octets := fun i => octets.getD i 0

end Octets

/-! ## MAC -/

/-- What the upper layers use of `zb_mac_mhr_t`: its size and the low octets of the
source address. -/
structure MacMhr where
  size : ℕ
  srcAddr : UInt16

def fcfGetDstAddressingMode (p : Octets) : UInt8 := (p 1 &&& 0x0C) >>> 2

def fcfGetSrcAddressingMode (p : Octets) : UInt8 := (p 1 &&& 0xC0) >>> 6

def fcfGetPanidCompressionBit (p : Octets) : Bool := p 0 &&& 0x40 != 0

def zbAddr16bitDevOrBroadcast : UInt8 := 2

/-- The octets of an address; every other mode is read as a long one. -/
def addrSize (mode : UInt8) : ℕ := if mode = zbAddr16bitDevOrBroadcast then 2 else 8

def parseMhr (p : Octets) : MacMhr :=
  let dst := fcfGetDstAddressingMode p
  let src := fcfGetSrcAddressingMode p
  let i := if dst ≠ 0 then 3 + 2 + addrSize dst else 3
  if src ≠ 0 then
    let i := if fcfGetPanidCompressionBit p then i else i + 2
    ⟨i + addrSize src, p.le16 i⟩
  else ⟨i, 0⟩

/-! ## NWK -/

/-- `zb_nwk_aux_frame_hdr_t`. -/
def nwkAuxFrameHdrSize : ℕ := 14

def nwkFrameTypeData : UInt8 := 0

def nwkFrameTypeCommand : UInt8 := 1

def nwkFramectlGetFrameType (p : Octets) : UInt8 := p 0 &&& 3

def nwkFramectlGetMulticastFlag (p : Octets) : UInt8 := p 1 &&& 1

def nwkFramectlGetSecurity (p : Octets) : Bool := p 1 >>> 1 &&& 1 != 0

def nwkFramectlGetDestinationIeee (p : Octets) : UInt8 := p 1 >>> 3 &&& 1

def nwkFramectlGetSourceIeee (p : Octets) : UInt8 := p 1 >>> 4 &&& 1

def nwkHdrSize (p : Octets) : ℕ :=
  8 + (nwkFramectlGetMulticastFlag p).toNat +
    (if nwkFramectlGetSecurity p then nwkAuxFrameHdrSize else 0) +
    ((nwkFramectlGetDestinationIeee p).toNat + (nwkFramectlGetSourceIeee p).toNat) * 8

def nwkDstAddr (p : Octets) : UInt16 := p.le16 2

def nwkSrcAddr (p : Octets) : UInt16 := p.le16 4

def nwkRadius (p : Octets) : UInt8 := p 6

def nwkIsAddressBroadcast (addr : UInt16) : Bool := addr &&& 0xFFF0 == 0xFFF0

/-! ## APS -/

def apsFrameCommand : UInt8 := 1

def apsFrameAck : UInt8 := 2

def apsDeliveryGroup : UInt8 := 3

def apsFcGetFrameType (fc : UInt8) : UInt8 := fc &&& 3

def apsFcGetDeliveryMode (fc : UInt8) : UInt8 := fc >>> 2 &&& 3

def apsFcGetSecurity (fc : UInt8) : Bool := fc >>> 5 &&& 1 != 0

def apsHdrSize (fc : UInt8) : ℕ :=
  if apsFcGetFrameType fc = apsFrameCommand then 2
  else 2 + (1 + (if apsFcGetDeliveryMode fc = apsDeliveryGroup then 1 else 0) + 2 + 2 + 1)

def securDataKey : UInt8 := 0

def securNwkKey : UInt8 := 1

def securAuxHdrGetKeyType (securControl : UInt8) : UInt8 := securControl >>> 3 &&& 3

def apsSecurAuxSize (securControl : UInt8) : UInt32 :=
  if securAuxHdrGetKeyType securControl = securDataKey then 5
  else if securAuxHdrGetKeyType securControl = securNwkKey then 6
  else -1

end Zboss.FrameHeaders
