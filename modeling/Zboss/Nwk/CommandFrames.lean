import Zboss.Common.AddressUnknown
import Zboss.Common.BufLayout
import Zboss.Nwk.FrameHeaders

/-!
NWK command frames: how `nwk_alloc_and_fill_hdr` with `nwk_alloc_and_fill_cmd`, and
`zb_nwk_fill_out_command`, lay one out, and how a receiver reads it by its own frame control.
Short addresses stand little-endian, as `zb_nwk_forward` leaves them.
-/

namespace Zboss.CommandFrames

open Zboss.AddressTable Zboss.BufLayout Zboss.Cells Zboss.FrameHeaders

def protocolVersion : UInt8 := 2

/-- The octets of a little-endian short address. -/
def shortOctets (addr : UInt16) : List UInt8 := [addr.toUInt8, (addr >>> 8).toUInt8]

/-- The octets of an IEEE address, as `ZB_IEEE_ADDR_COPY` copies them. -/
def ieeeOctets (addr : IeeeAddr) : List UInt8 :=
  [addr.devManufacturer.octet0, addr.devManufacturer.octet1, addr.devManufacturer.octet2,
    addr.deviceId.octet0, addr.deviceId.octet1, addr.deviceId.octet2, addr.deviceId.octet3,
    addr.deviceId.octet4]

/-- What a header takes from the device. -/
structure Nib where
  networkAddress : UInt16
  extendedAddress : IeeeAddr
  sequenceNumber : UInt8
  maxDepth : UInt8
  secureAllFrames : Bool
  securityLevel : UInt8
  addresses : History

/-- The arguments of `nwk_alloc_and_fill_hdr`. -/
structure HdrArgs where
  dstAddr : UInt16
  srcIeeeAddr : Option IeeeAddr
  dstIeeeAddr : Option IeeeAddr
  isMulticast : Bool
  isSecured : Bool
  deriving DecidableEq, Repr

/-- A command with its payload, whose size is an octet. -/
structure Command where
  id : UInt8
  payload : List UInt8
  size : payload.length < 2 ^ 8

/-- What a caller writes into a header that is filled: the radius, and for a route request that
goes on the source and the number of the first one. -/
structure Touch where
  radius : Option UInt8
  relayed : Option (UInt16 × UInt8)
  deriving DecidableEq, Repr

/-- `ZB_NWK_SHORT_HDR_SIZE`, `ZB_NWK_HALF_HDR_SIZE` and `ZB_NWK_FULL_HDR_SIZE`. -/
def nwkHdrSizeFor (ieeeAddrs : ℕ) (isMulticast : Bool) : ℕ :=
  8 + 8 * ieeeAddrs + if isMulticast then 1 else 0

namespace HdrArgs

/-- The header and the auxiliary header. -/
def hdrSize (args : HdrArgs) : ℕ :=
  nwkHdrSizeFor (args.srcIeeeAddr.isSome.toNat + args.dstIeeeAddr.isSome.toNat)
    args.isMulticast + if args.isSecured then nwkAuxFrameHdrSize else 0

end HdrArgs

end Zboss.CommandFrames

namespace Zboss.BufLayout.Buf

open Zboss.AddressTable Zboss.Cells Zboss.CommandFrames Zboss.FrameHeaders

/-- The octets from `ZB_BUF_BEGIN` on. -/
def begin_ (b : Buf) : Octets := fun i => b.buf (b.dataOffset + i)

/-- A copy to the octets from `ZB_BUF_BEGIN() + i` on. -/
def write (b : Buf) (i : ℕ) (octets : List UInt8) : Buf :=
  { b with buf := memcpy b.buf (b.dataOffset + i) octets }

/-- `|=` on an octet of the frame control. -/
def orFramectl (b : Buf) (i : ℕ) (bits : UInt8) : Buf := b.write i [b.begin_ i ||| bits]

/-- `ZB_BZERO2` and `ZB_NWK_FRAMECTL_SET_FRAME_TYPE_N_PROTO_VER`. -/
def setFrameTypeNProtoVer (b : Buf) (frameType : UInt8) : Buf :=
  (b.write 0 [0, 0]).orFramectl 0 (frameType ||| protocolVersion <<< 2)

/-- `ZB_NWK_FRAMECTL_SET_DISCOVER_ROUTE`. -/
def setDiscoverRoute (b : Buf) (r : UInt8) : Buf := b.orFramectl 0 (r <<< 6)

/-- `ZB_NWK_FRAMECTL_SET_SRC_DEST_IEEE`. -/
def setSrcDestIeee (b : Buf) (src dst : Bool) : Buf :=
  b.orFramectl 1 (dst.toUInt8 <<< 3 ||| src.toUInt8 <<< 4)

/-- `ZB_NWK_FRAMECTL_SET_SECURITY`. -/
def setSecurity (b : Buf) (isSecured : Bool) : Buf :=
  if isSecured then b.orFramectl 1 ((1 : UInt8) <<< 1) else b

/-- The addresses, the radius and the number. -/
def setAddresses (b : Buf) (srcAddr dstAddr : UInt16) (radius seqNum : UInt8) : Buf :=
  (((b.write 4 (shortOctets srcAddr)).write 2 (shortOctets dstAddr)).write 6 [radius]).write 7
    [seqNum]

/-- The IEEE addresses; a source address alone stands where the destination would. -/
def setIeeeAddrs (b : Buf) : Option IeeeAddr → Option IeeeAddr → Buf
  | some src, some dst => (b.write 8 (ieeeOctets dst)).write 16 (ieeeOctets src)
  | none, some dst => b.write 8 (ieeeOctets dst)
  | some src, none => b.write 8 (ieeeOctets src)
  | none, none => b

end Zboss.BufLayout.Buf

namespace Zboss.CommandFrames

open Zboss.AddressTable Zboss.BufLayout Zboss.Cells Zboss.FrameHeaders

/-- `ZB_NIB_SEQUENCE_NUMBER_INC`. -/
def Nib.sequenceNumberInc (nib : Nib) : Nib :=
  { nib with sequenceNumber := nib.sequenceNumber + 1 }

/-- `nwk_alloc_and_fill_hdr`; none, here and below, where an assertion fails. -/
def nwkAllocAndFillHdr (nib : Nib) (b : Buf) (args : HdrArgs) (isCmdFrame : Bool) :
    Option (Nib × Buf) := do
  let (b, _) ←
    if isCmdFrame then b.initialAlloc args.hdrSize else b.smartAllocLeft args.hdrSize
  let b := b.setFrameTypeNProtoVer (if isCmdFrame then nwkFrameTypeCommand else nwkFrameTypeData)
  let b := b.setSrcDestIeee args.srcIeeeAddr.isSome args.dstIeeeAddr.isSome
  let b := b.setSecurity args.isSecured
  let b := b.setAddresses nib.networkAddress args.dstAddr 1 nib.sequenceNumber
  some (nib.sequenceNumberInc, b.setIeeeAddrs args.srcIeeeAddr args.dstIeeeAddr)

/-- `nwk_alloc_and_fill_cmd`, and the payload that its caller writes. -/
def nwkAllocAndFillCmd (b : Buf) (cmd : Command) : Option Buf := do
  let (b', span) ← b.smartAllocRight ((cmd.payload.length + 1) % 2 ^ 8)
  some (b'.write (span.first - b'.dataOffset) (cmd.id :: cmd.payload))

/-- What the caller writes into the header. -/
def Touch.apply (touch : Touch) (b : Buf) : Buf :=
  let b := touch.radius.elim b fun radius => b.write 6 [radius]
  touch.relayed.elim b fun relayed => (b.write 4 (shortOctets relayed.1)).write 7 [relayed.2]

/-- `zb_nwk_fill_out_command`, and the payload that its caller writes. -/
def nwkFillOutCommand (nib : Nib) (b : Buf) (dest : UInt16) (cmd : Command) :
    Option (Nib × Buf) := do
  let (table, dstIeee) := addressIeeeByShort nib.addresses.table dest.toNat
  let secure := nib.secureAllFrames && nib.securityLevel ≠ 0
  let hdrSize := nwkHdrSizeFor (if dstIeee.isSome then 2 else 1) false +
    if secure then nwkAuxFrameHdrSize else 0
  let (b, _) ← b.initialAlloc ((hdrSize + cmd.payload.length + 1) % 2 ^ 8)
  let b := b.setFrameTypeNProtoVer nwkFrameTypeCommand
  let b := b.setDiscoverRoute 1
  let b := b.setSrcDestIeee true dstIeee.isSome
  let b := b.setAddresses nib.networkAddress dest (nib.maxDepth <<< 1) nib.sequenceNumber
  let b := b.write 16 (ieeeOctets nib.extendedAddress)
  let b := dstIeee.elim b fun dst => b.write 8 (ieeeOctets dst)
  let b := b.setSecurity secure
  let nib := { nib with addresses := { nib.addresses with table := table } }
  some (nib.sequenceNumberInc, b.write hdrSize (cmd.id :: cmd.payload))

/-! ## The receiver -/

/-- A command frame as it is read. -/
@[ext] structure NwkCommand where
  frameType : UInt8
  protocolVersion : UInt8
  discoverRoute : Bool
  security : Bool
  dstAddr : UInt16
  srcAddr : UInt16
  radius : UInt8
  seqNum : UInt8
  dstIeeeAddr : Option IeeeAddr
  srcIeeeAddr : Option IeeeAddr
  commandId : UInt8
  payload : List UInt8
  deriving DecidableEq, Repr

def nwkFramectlGetProtocolVersion (p : Octets) : UInt8 := p 0 >>> 2 &&& 0xf

def nwkFramectlGetDiscoverRoute (p : Octets) : UInt8 := p 0 >>> 5 &&& 3

/-- The destination, where the frame control has it. -/
def nwkDstIeeeAddr (p : Octets) : Option IeeeAddr :=
  if nwkFramectlGetDestinationIeee p ≠ 0 then some (p.ieeeAddr 8) else none

/-- The source, which stands first where there is no destination. -/
def nwkSrcIeeeAddr (p : Octets) : Option IeeeAddr :=
  if nwkFramectlGetSourceIeee p ≠ 0 then
    some (p.ieeeAddr (if nwkFramectlGetDestinationIeee p ≠ 0 then 16 else 8))
  else none

/-- A receiver reads `len` octets as a command frame. -/
def readCommand (p : Octets) (len : ℕ) : NwkCommand where
  frameType := nwkFramectlGetFrameType p
  protocolVersion := nwkFramectlGetProtocolVersion p
  discoverRoute := nwkFramectlGetDiscoverRoute p ≠ 0
  security := nwkFramectlGetSecurity p
  dstAddr := nwkDstAddr p
  srcAddr := nwkSrcAddr p
  radius := nwkRadius p
  seqNum := p 7
  dstIeeeAddr := nwkDstIeeeAddr p
  srcIeeeAddr := nwkSrcIeeeAddr p
  commandId := p (nwkHdrSize p)
  payload := p.slice (nwkHdrSize p + 1) (len - (nwkHdrSize p + 1))

/-! ## What is sent -/

/-- A command that a device sends, one way or the other. -/
inductive Sending
  | allocAndFill (args : HdrArgs) (touch : Touch) (cmd : Command)
  | fillOut (dest : UInt16) (cmd : Command)

namespace Sending

def cmd : Sending → Command
  | .allocAndFill _ _ cmd => cmd
  | .fillOut _ cmd => cmd

/-- The frame is laid out in a buffer. -/
def layout (nib : Nib) (b : Buf) : Sending → Option (Nib × Buf)
  | .allocAndFill args touch cmd => do
    let (nib, b) ← nwkAllocAndFillHdr nib b args true
    let b ← nwkAllocAndFillCmd b cmd
    some (nib, touch.apply b)
  | .fillOut dest cmd => nwkFillOutCommand nib b dest cmd

/-- The IEEE address of a device, if the address table has an entry with one. -/
def destinationIeee (nib : Nib) (dest : UInt16) : Option IeeeAddr :=
  (shortSearch nib.addresses.table dest.toNat).bind fun ref =>
    if nib.addresses.Unknown ref then none
    else some (addressIeeeByRef nib.addresses.table ref)

/-- What the receiver is to read. -/
def meant (nib : Nib) : Sending → NwkCommand
  | .allocAndFill args touch cmd =>
    { frameType := nwkFrameTypeCommand
      protocolVersion := protocolVersion
      discoverRoute := false
      security := args.isSecured
      dstAddr := args.dstAddr
      srcAddr := (touch.relayed.map Prod.fst).getD nib.networkAddress
      radius := touch.radius.getD 1
      seqNum := (touch.relayed.map Prod.snd).getD nib.sequenceNumber
      dstIeeeAddr := args.dstIeeeAddr
      srcIeeeAddr := args.srcIeeeAddr
      commandId := cmd.id
      payload := cmd.payload }
  | .fillOut dest cmd =>
    { frameType := nwkFrameTypeCommand
      protocolVersion := protocolVersion
      discoverRoute := true
      security := nib.secureAllFrames && nib.securityLevel ≠ 0
      dstAddr := dest
      srcAddr := nib.networkAddress
      radius := nib.maxDepth <<< 1
      seqNum := nib.sequenceNumber
      dstIeeeAddr := destinationIeee nib dest
      srcIeeeAddr := some nib.extendedAddress
      commandId := cmd.id
      payload := cmd.payload }

/-- Whatever the buffer held, a frame is laid out in it that reads as it is meant, and no octet
outside of the frame is written. -/
def Decodes (nib : Nib) (s : Sending) : Prop :=
  ∀ b, ∃ nib' b', s.layout nib b = some (nib', b') ∧ b'.Fits ∧
    readCommand b'.begin_ b'.len = s.meant nib ∧
      ∀ i, i < b'.dataOffset ∨ b'.dataOffset + b'.len ≤ i → b'.buf i = b.buf i

/-- The octets of the whole frame. -/
def size (nib : Nib) (s : Sending) : ℕ :=
  1 + s.cmd.payload.length +
    match s with
    | .allocAndFill args _ _ => args.hdrSize
    | .fillOut _ _ =>
      nwkHdrSizeFor 2 false +
        if nib.secureAllFrames && nib.securityLevel ≠ 0 then nwkAuxFrameHdrSize else 0

/-- The frames that are laid out well: they go into a buffer; one with a header for its
arguments, which stands in the middle, goes in behind it and is no multicast; and one that is
filled out goes to a device of known IEEE address. -/
def Plain (nib : Nib) (s : Sending) : Prop :=
  s.size nib < ioBufSize ∧
    match s with
    | .allocAndFill args _ _ =>
      args.isMulticast = false ∧ (ioBufSize - args.hdrSize) / 2 + s.size nib ≤ ioBufSize
    | .fillOut dest _ => destinationIeee nib dest ≠ none

end Sending

/-! ## Octets -/

theorem le16_shortOctets {p : Octets} {i : ℕ} {addr : UInt16} (low : p i = addr.toUInt8)
    (high : p (i + 1) = (addr >>> 8).toUInt8) : p.le16 i = addr := by
  have bound := addr.toNat_lt
  have top : addr.toNat / 256 < 256 := by omega
  rw [Octets.le16, low, high, ← UInt16.toNat_inj]
  simp only [UInt16.toNat_or, UInt16.toNat_shiftLeft, UInt8.toNat_toUInt16, UInt16.toNat_toUInt8,
    UInt16.toNat_shiftRight]
  have eight : (8 : UInt16).toNat % 16 = 8 := rfl
  have shift : addr.toNat >>> 8 % 2 ^ 8 = addr.toNat / 256 := by
    rw [Nat.shiftRight_eq_div_pow]
    exact Nat.mod_eq_of_lt top
  have back : (addr.toNat / 256) <<< 8 % 2 ^ 16 = (addr.toNat / 256) <<< 8 := by
    apply Nat.mod_eq_of_lt
    rw [Nat.shiftLeft_eq]
    omega
  rw [eight, shift, back, Nat.or_comm,
    ← Nat.shiftLeft_add_eq_or_of_lt (Nat.mod_lt _ (by decide)), Nat.shiftLeft_eq]
  omega

end Zboss.CommandFrames

namespace Zboss.BufLayout.Buf

open Zboss.AddressTable Zboss.Cells Zboss.CommandFrames Zboss.FrameHeaders

variable {b : Buf}

@[simp] theorem write_len (i : ℕ) (octets : List UInt8) : (b.write i octets).len = b.len := rfl

@[simp] theorem write_dataOffset (i : ℕ) (octets : List UInt8) :
    (b.write i octets).dataOffset = b.dataOffset := rfl

theorem begin_write (i j : ℕ) (octets : List UInt8) :
    (b.write i octets).begin_ j =
      if i ≤ j then octets.getD (j - i) (b.begin_ j) else b.begin_ j := by
  change memcpy b.buf (b.dataOffset + i) octets (b.dataOffset + j) = _
  rw [memcpy, Nat.add_sub_add_left]
  exact if_congr (by omega) rfl rfl

/-- Nothing outside the frame has changed since `b₀`. -/
def Keeps (b₀ b : Buf) : Prop :=
  ∀ i, i < b.dataOffset ∨ b.dataOffset + b.len ≤ i → b.buf i = b₀.buf i

theorem Keeps.write {b₀ : Buf} (keeps : b₀.Keeps b) {i : ℕ} {octets : List UInt8}
    (inside : i + octets.length ≤ b.len) : b₀.Keeps (b.write i octets) := by
  intro k outside
  rw [write_dataOffset, write_len] at outside
  rw [← keeps k outside]
  change memcpy b.buf (b.dataOffset + i) octets k = _
  rw [memcpy]
  split
  · rw [List.getD_eq_getElem?_getD, List.getElem?_eq_none (by omega), Option.getD_none]
  · rfl

end Zboss.BufLayout.Buf

namespace Zboss.CommandFrames

open Zboss.AddressTable Zboss.BufLayout Zboss.Cells Zboss.FrameHeaders

/-- The second octet of the frame control. -/
def framectlBits (dst src security : Bool) : UInt8 :=
  (if security then (2 : UInt8) else 0) ||| (dst.toUInt8 <<< 3 ||| src.toUInt8 <<< 4)

/-- The octets of a header that is read as `m`. -/
structure HeaderIs (p : Octets) (m : NwkCommand) : Prop where
  frame0 : p 0 = if m.discoverRoute then 0x49 else 0x09
  frame1 : p 1 = framectlBits m.dstIeeeAddr.isSome m.srcIeeeAddr.isSome m.security
  dst : p.le16 2 = m.dstAddr
  src : p.le16 4 = m.srcAddr
  radius : p 6 = m.radius
  seqNum : p 7 = m.seqNum
  dstIeee : ∀ a ∈ m.dstIeeeAddr, p.ieeeAddr 8 = a
  srcIeee : ∀ a ∈ m.srcIeeeAddr, p.ieeeAddr (if m.dstIeeeAddr.isSome then 16 else 8) = a

/-- The size of the header of `m`. -/
def NwkCommand.hdrSize (m : NwkCommand) : ℕ :=
  nwkHdrSizeFor (m.srcIeeeAddr.isSome.toNat + m.dstIeeeAddr.isSome.toNat) false +
    if m.security then nwkAuxFrameHdrSize else 0

namespace HeaderIs

variable {p q : Octets} {m : NwkCommand}

/-- The frame control gives the size. -/
theorem nwkHdrSize_eq (header : HeaderIs p m) : nwkHdrSize p = m.hdrSize := by
  simp only [nwkHdrSize, nwkFramectlGetMulticastFlag, nwkFramectlGetSecurity,
    nwkFramectlGetDestinationIeee, nwkFramectlGetSourceIeee, header.frame1, NwkCommand.hdrSize]
  cases m.dstIeeeAddr.isSome <;> cases m.srcIeeeAddr.isSome <;> cases m.security <;> rfl

/-- The octets of the header are all that it rests on. -/
theorem congr (header : HeaderIs p m) (same : ∀ j < m.hdrSize, q j = p j) : HeaderIs q m := by
  have short : 8 ≤ m.hdrSize := by
    rw [NwkCommand.hdrSize, nwkHdrSizeFor]
    omega
  have low : ∀ j < 8, q j = p j := fun j inside => same j (by omega)
  obtain ⟨frame0, frame1, dst, src, radius, seqNum, dstIeee, srcIeee⟩ := header
  refine ⟨?_, ?_, ?_, ?_, ?_, ?_, fun a given => ?_, fun a given => ?_⟩
  · rw [low 0 (by decide), frame0]
  · rw [low 1 (by decide), frame1]
  · rw [Octets.le16, low 2 (by decide), low 3 (by decide)]
    exact dst
  · rw [Octets.le16, low 4 (by decide), low 5 (by decide)]
    exact src
  · rw [low 6 (by decide), radius]
  · rw [low 7 (by decide), seqNum]
  · have room : 16 ≤ m.hdrSize := by
      rw [NwkCommand.hdrSize, nwkHdrSizeFor, given]
      simp only [Option.isSome_some, Bool.toNat_true]
      omega
    rw [← dstIeee a given]
    simp only [Octets.ieeeAddr]
    rw [same 8 (by omega), same 9 (by omega), same 10 (by omega), same 11 (by omega),
      same 12 (by omega), same 13 (by omega), same 14 (by omega), same 15 (by omega)]
  · have room : (if m.dstIeeeAddr.isSome then 16 else 8) + 8 ≤ m.hdrSize := by
      rw [NwkCommand.hdrSize, nwkHdrSizeFor, given]
      cases m.dstIeeeAddr.isSome <;> simp
    rw [← srcIeee a given]
    generalize (if m.dstIeeeAddr.isSome then 16 else 8) = k at *
    simp only [Octets.ieeeAddr]
    rw [same k (by omega), same (k + 1) (by omega), same (k + 2) (by omega),
      same (k + 3) (by omega), same (k + 4) (by omega), same (k + 5) (by omega),
      same (k + 6) (by omega), same (k + 7) (by omega)]

theorem getDestinationIeee_iff (header : HeaderIs p m) :
    nwkFramectlGetDestinationIeee p ≠ 0 ↔ m.dstIeeeAddr.isSome = true := by
  rw [nwkFramectlGetDestinationIeee, header.frame1]
  cases m.dstIeeeAddr.isSome <;> cases m.srcIeeeAddr.isSome <;> cases m.security <;> decide

theorem getSourceIeee_iff (header : HeaderIs p m) :
    nwkFramectlGetSourceIeee p ≠ 0 ↔ m.srcIeeeAddr.isSome = true := by
  rw [nwkFramectlGetSourceIeee, header.frame1]
  cases m.dstIeeeAddr.isSome <;> cases m.srcIeeeAddr.isSome <;> cases m.security <;> decide

theorem nwkDstIeeeAddr_eq (header : HeaderIs p m) : nwkDstIeeeAddr p = m.dstIeeeAddr := by
  have flag := header.getDestinationIeee_iff
  rw [nwkDstIeeeAddr]
  cases given : m.dstIeeeAddr with
  | none => rw [if_neg (by rw [flag, given]; decide)]
  | some a => rw [if_pos (by rw [flag, given]; rfl), header.dstIeee a given]

theorem nwkSrcIeeeAddr_eq (header : HeaderIs p m) : nwkSrcIeeeAddr p = m.srcIeeeAddr := by
  have flag := header.getSourceIeee_iff
  have place : (if nwkFramectlGetDestinationIeee p ≠ 0 then 16 else 8) =
      if m.dstIeeeAddr.isSome then 16 else 8 := if_congr header.getDestinationIeee_iff rfl rfl
  rw [nwkSrcIeeeAddr]
  cases given : m.srcIeeeAddr with
  | none => rw [if_neg (by rw [flag, given]; decide)]
  | some a => rw [if_pos (by rw [flag, given]; rfl), place, header.srcIeee a given]

/-- A frame with the header of `m`, its command and its payload is read as `m`. -/
theorem readCommand_eq {len : ℕ} (header : HeaderIs p m)
    (frameType : m.frameType = nwkFrameTypeCommand)
    (version : m.protocolVersion = protocolVersion) (command : p m.hdrSize = m.commandId)
    (payload : p.slice (m.hdrSize + 1) (len - (m.hdrSize + 1)) = m.payload) :
    readCommand p len = m := by
  have size := header.nwkHdrSize_eq
  apply NwkCommand.ext
  · rw [readCommand, nwkFramectlGetFrameType, header.frame0, frameType]
    cases m.discoverRoute <;> rfl
  · rw [readCommand, nwkFramectlGetProtocolVersion, header.frame0, version]
    cases m.discoverRoute <;> rfl
  · rw [readCommand, nwkFramectlGetDiscoverRoute, header.frame0]
    cases m.discoverRoute <;> rfl
  · rw [readCommand, nwkFramectlGetSecurity, header.frame1]
    cases m.dstIeeeAddr.isSome <;> cases m.srcIeeeAddr.isSome <;> cases m.security <;> rfl
  · exact header.dst
  · exact header.src
  · exact header.radius
  · exact header.seqNum
  · exact header.nwkDstIeeeAddr_eq
  · exact header.nwkSrcIeeeAddr_eq
  · change p (nwkHdrSize p) = _
    rw [size, command]
  · change p.slice (nwkHdrSize p + 1) (len - (nwkHdrSize p + 1)) = _
    rw [size, payload]

end HeaderIs

/-! ## The sender -/

theorem ieeeAddr_write (b : Buf) (i : ℕ) (addr : IeeeAddr) :
    (b.write i (ieeeOctets addr)).begin_.ieeeAddr i = addr := by
  simp [Octets.ieeeAddr, Buf.begin_write, ieeeOctets]

theorem ieeeAddr_write_of_disjoint {b : Buf} {i k : ℕ} {octets : List UInt8}
    (apart : k + 8 ≤ i ∨ i + octets.length ≤ k) :
    (b.write i octets).begin_.ieeeAddr k = b.begin_.ieeeAddr k := by
  have same : ∀ j < 8, (b.write i octets).begin_ (k + j) = b.begin_ (k + j) := by
    intro j inside
    rw [Buf.begin_write]
    split
    · rw [List.getD_eq_getElem?_getD, List.getElem?_eq_none (by omega), Option.getD_none]
    · rfl
  simp only [Octets.ieeeAddr]
  rw [same 1 (by decide), same 2 (by decide), same 3 (by decide), same 4 (by decide),
    same 5 (by decide), same 6 (by decide), same 7 (by decide)]
  rw [show (b.write i octets).begin_ k = b.begin_ k from same 0 (by decide)]

/-- The fixed part of a header. -/
def fixedPart (b : Buf) (discover src dst security : Bool) (srcAddr dstAddr : UInt16)
    (radius seqNum : UInt8) : Buf :=
  (((if discover then (b.setFrameTypeNProtoVer nwkFrameTypeCommand).setDiscoverRoute 1
    else b.setFrameTypeNProtoVer nwkFrameTypeCommand).setSrcDestIeee src dst).setSecurity
      security).setAddresses srcAddr dstAddr radius seqNum

theorem header_fixed (b : Buf) (discover src dst security : Bool) (srcAddr dstAddr : UInt16)
    (radius seqNum : UInt8) :
    let h := (fixedPart b discover src dst security srcAddr dstAddr radius seqNum).begin_
    h 0 = (if discover then 0x49 else 0x09) ∧ h 1 = framectlBits dst src security ∧
      h.le16 2 = dstAddr ∧ h.le16 4 = srcAddr ∧ h 6 = radius ∧ h 7 = seqNum := by
  dsimp only [fixedPart]
  refine ⟨?_, ?_, ?_, ?_, ?_, ?_⟩
  · cases discover <;> cases security <;>
      simp [Buf.setFrameTypeNProtoVer, Buf.setDiscoverRoute, Buf.setSrcDestIeee, Buf.setSecurity,
        Buf.setAddresses, Buf.orFramectl, Buf.begin_write] <;> rfl
  · cases discover <;> cases security <;>
      simp [Buf.setFrameTypeNProtoVer, Buf.setDiscoverRoute, Buf.setSrcDestIeee, Buf.setSecurity,
        Buf.setAddresses, Buf.orFramectl, Buf.begin_write, framectlBits] <;> 
        cases src <;> cases dst <;> rfl
  · apply le16_shortOctets <;> simp [Buf.setAddresses, Buf.begin_write, shortOctets]
  · apply le16_shortOctets <;> simp [Buf.setAddresses, Buf.begin_write, shortOctets]
  · simp [Buf.setAddresses, Buf.begin_write]
  · simp [Buf.setAddresses, Buf.begin_write]

/-- Below the IEEE addresses nothing is written with them. -/
theorem begin_setIeeeAddrs (b : Buf) (src dst : Option IeeeAddr) {j : ℕ} (low : j < 8) :
    (b.setIeeeAddrs src dst).begin_ j = b.begin_ j := by
  have eight : ¬8 ≤ j := Nat.not_le_of_lt low
  have sixteen : ¬16 ≤ j := by omega
  cases src <;> cases dst <;> simp [Buf.setIeeeAddrs, Buf.begin_write, eight, sixteen]

theorem begin_setSecurity (b : Buf) (isSecured : Bool) (j : ℕ) :
    (b.setSecurity isSecured).begin_ j =
      if isSecured ∧ j = 1 then b.begin_ 1 ||| 2 else b.begin_ j := by
  cases isSecured with
  | false => simp [Buf.setSecurity]
  | true =>
    rw [Buf.setSecurity, if_pos rfl, Buf.orFramectl, Buf.begin_write]
    by_cases one : j = 1
    · subst one
      rfl
    · rw [if_neg fun both : true = true ∧ j = 1 => one both.2]
      split
      · rw [List.getD_eq_getElem?_getD, List.getElem?_eq_none (by simp; omega), Option.getD_none]
      · rfl

theorem header_allocAndFill (nib : Nib) (b : Buf) (args : HdrArgs) (cmd : Command) :
    HeaderIs ((fixedPart b false args.srcIeeeAddr.isSome args.dstIeeeAddr.isSome args.isSecured
      nib.networkAddress args.dstAddr 1 nib.sequenceNumber).setIeeeAddrs args.srcIeeeAddr
        args.dstIeeeAddr).begin_
      ((Sending.allocAndFill args ⟨none, none⟩ cmd).meant nib) := by
  obtain ⟨frame0, frame1, dst, src, radius, seqNum⟩ := header_fixed b false
    args.srcIeeeAddr.isSome args.dstIeeeAddr.isSome args.isSecured nib.networkAddress
    args.dstAddr 1 nib.sequenceNumber
  generalize fixedPart _ _ _ _ _ _ _ _ _ = c at *
  have low : ∀ j < 8, (c.setIeeeAddrs args.srcIeeeAddr args.dstIeeeAddr).begin_ j = c.begin_ j :=
    fun j inside => begin_setIeeeAddrs c _ _ inside
  refine ⟨?_, ?_, ?_, ?_, ?_, ?_, fun a given => ?_, fun a given => ?_⟩
  · rw [low 0 (by decide), frame0]
    rfl
  · rw [low 1 (by decide), frame1]
    rfl
  · rw [Octets.le16, low 2 (by decide), low 3 (by decide)]
    exact dst
  · rw [Octets.le16, low 4 (by decide), low 5 (by decide)]
    exact src
  · rw [low 6 (by decide), radius]
    rfl
  · rw [low 7 (by decide), seqNum]
    rfl
  · replace given : args.dstIeeeAddr = some a := given
    rw [given]
    cases args.srcIeeeAddr with
    | none => exact ieeeAddr_write c 8 a
    | some src =>
      rw [Buf.setIeeeAddrs, ieeeAddr_write_of_disjoint (Or.inl (by decide))]
      exact ieeeAddr_write c 8 a
  · replace given : args.srcIeeeAddr = some a := given
    change Octets.ieeeAddr _ (if args.dstIeeeAddr.isSome then 16 else 8) = a
    rw [given]
    cases args.dstIeeeAddr with
    | none => exact ieeeAddr_write c 8 a
    | some dst => exact ieeeAddr_write _ 16 a

/-- The header that `zb_nwk_fill_out_command` fills where it has an IEEE address of the
destination. -/
theorem header_fillOut (nib : Nib) (b : Buf) (dest : UInt16) (cmd : Command) (dst : IeeeAddr) :
    HeaderIs ((((fixedPart b true true true false nib.networkAddress dest (nib.maxDepth <<< 1)
      nib.sequenceNumber).write 16 (ieeeOctets nib.extendedAddress)).write 8
        (ieeeOctets dst)).setSecurity (nib.secureAllFrames && nib.securityLevel ≠ 0)).begin_
      { (Sending.fillOut dest cmd).meant nib with dstIeeeAddr := some dst } := by
  obtain ⟨frame0, frame1, to_, src, radius, seqNum⟩ := header_fixed b true true true false
    nib.networkAddress dest (nib.maxDepth <<< 1) nib.sequenceNumber
  generalize fixedPart _ _ _ _ _ _ _ _ _ = c at *
  have low : ∀ j < 8, ((c.write 16 (ieeeOctets nib.extendedAddress)).write 8
      (ieeeOctets dst)).begin_ j = c.begin_ j := by
    intro j inside
    rw [Buf.begin_write, if_neg (by omega), Buf.begin_write, if_neg (by omega)]
  have first := ieeeAddr_write (c.write 16 (ieeeOctets nib.extendedAddress)) 8 dst
  have second : ((c.write 16 (ieeeOctets nib.extendedAddress)).write 8
      (ieeeOctets dst)).begin_.ieeeAddr 16 = nib.extendedAddress := by
    rw [ieeeAddr_write_of_disjoint (Or.inr (Nat.le_refl 16)), ieeeAddr_write]
  generalize Buf.write (Buf.write c _ _) _ _ = d at *
  have secured : ∀ j, j ≠ 1 →
      (d.setSecurity (nib.secureAllFrames && nib.securityLevel ≠ 0)).begin_ j = d.begin_ j :=
    fun j other => by rw [begin_setSecurity, if_neg fun both => other both.2]
  refine ⟨?_, ?_, ?_, ?_, ?_, ?_, fun a given => ?_, fun a given => ?_⟩
  · rw [secured 0 (by decide), low 0 (by decide), frame0]
    rfl
  · rw [begin_setSecurity, low 1 (by decide), frame1]
    change _ = framectlBits true true (nib.secureAllFrames && nib.securityLevel ≠ 0)
    cases nib.secureAllFrames && decide (nib.securityLevel ≠ 0) <;> rfl
  · rw [Octets.le16, secured 2 (by decide), secured 3 (by decide), low 2 (by decide),
      low 3 (by decide)]
    exact to_
  · rw [Octets.le16, secured 4 (by decide), secured 5 (by decide), low 4 (by decide),
      low 5 (by decide)]
    exact src
  · rw [secured 6 (by decide), low 6 (by decide), radius]
    rfl
  · rw [secured 7 (by decide), low 7 (by decide), seqNum]
    rfl
  · cases given
    simp only [Octets.ieeeAddr, secured 8, secured 9, secured 10, secured 11, secured 12,
      secured 13, secured 14, secured 15, ne_eq, Nat.reduceAdd, Nat.reduceEqDiff, not_false_eq_true]
    exact first
  · cases given
    rw [Option.isSome_some, if_pos rfl]
    simp only [Octets.ieeeAddr, secured 16, secured 17, secured 18, secured 19, secured 20,
      secured 21, secured 22, secured 23, ne_eq, Nat.reduceAdd, Nat.reduceEqDiff, not_false_eq_true]
    exact second

/-! ## The buffer -/

end Zboss.CommandFrames

namespace Zboss.BufLayout.Buf

open Zboss.AddressTable Zboss.CommandFrames Zboss.FrameHeaders

/-- The two buffers have the payload at the same place. -/
def Alike (b c : Buf) : Prop := c.len = b.len ∧ c.dataOffset = b.dataOffset

variable {b₀ b c : Buf}

/-- The fixed part of a header changes nothing outside, and does not move. -/
theorem Keeps.fixed (keeps : b₀.Keeps b) (room : 8 ≤ b.len) (discover src dst security : Bool)
    (srcAddr dstAddr : UInt16) (radius seqNum : UInt8) :
    let c := fixedPart b discover src dst security srcAddr dstAddr radius seqNum
    b₀.Keeps c ∧ b.Alike c := by
  dsimp only [fixedPart]
  have two : 0 + [(0 : UInt8), 0].length ≤ b.len := Nat.le_trans (by decide) room
  have one : ∀ i ≤ 1, ∀ bits : UInt8, i + [bits].length ≤ b.len := by
    intro i low bits
    rw [List.length_singleton]
    omega
  have frameType : b₀.Keeps (b.setFrameTypeNProtoVer nwkFrameTypeCommand) :=
    (keeps.write two).write (one 0 (by decide) _)
  have discovered : b₀.Keeps (if discover then
      (b.setFrameTypeNProtoVer nwkFrameTypeCommand).setDiscoverRoute 1
      else b.setFrameTypeNProtoVer nwkFrameTypeCommand) ∧
      b.Alike (if discover then (b.setFrameTypeNProtoVer nwkFrameTypeCommand).setDiscoverRoute 1
        else b.setFrameTypeNProtoVer nwkFrameTypeCommand) := by
    cases discover with
    | false => exact ⟨frameType, rfl, rfl⟩
    | true => exact ⟨frameType.write (one 0 (by decide) _), rfl, rfl⟩
  generalize (if discover then _ else _ : Buf) = d at discovered ⊢
  obtain ⟨kept, len, offset⟩ := discovered
  have flags : b₀.Keeps (d.setSrcDestIeee src dst) :=
    kept.write (by rw [len]; exact one 1 (by decide) _)
  have secured : b₀.Keeps ((d.setSrcDestIeee src dst).setSecurity security) ∧
      b.Alike ((d.setSrcDestIeee src dst).setSecurity security) := by
    cases security with
    | false => exact ⟨flags, len, offset⟩
    | true =>
      exact ⟨flags.write (by rw [show (d.setSrcDestIeee src dst).len = d.len from rfl, len]
                             exact one 1 (by decide) _), len, offset⟩
  generalize Buf.setSecurity _ _ = e at secured ⊢
  obtain ⟨kept, len, offset⟩ := secured
  have inside : ∀ i (octets : List UInt8), i + octets.length ≤ 8 → i + octets.length ≤ e.len :=
    fun i octets low => by omega
  refine ⟨?_, len, offset⟩
  apply Keeps.write
  · apply Keeps.write
    · apply Keeps.write
      · exact kept.write (inside 4 _ (by simp [shortOctets]))
      · exact inside 2 _ (by simp [shortOctets])
    · exact inside 6 _ (by simp)
  · exact inside 7 _ (by simp)

end Zboss.BufLayout.Buf

namespace Zboss.CommandFrames

open Zboss.AddressTable Zboss.BufLayout Zboss.Cells Zboss.FrameHeaders

theorem begin_touch (touch : Touch) (b : Buf) {j : ℕ} (high : 8 ≤ j) :
    (touch.apply b).begin_ j = b.begin_ j := by
  have apart : ∀ (c : Buf) (i : ℕ) (octets : List UInt8), i + octets.length ≤ 8 →
      (c.write i octets).begin_ j = c.begin_ j := by
    intro c i octets low
    rw [Buf.begin_write, if_pos (by omega), List.getD_eq_getElem?_getD,
      List.getElem?_eq_none (by omega), Option.getD_none]
  obtain ⟨radius, relayed⟩ := touch
  cases radius <;> cases relayed <;> simp [Touch.apply, apart, shortOctets]

/-- The header after the caller's touch. -/
theorem HeaderIs.touch {b : Buf} {m : NwkCommand} (header : HeaderIs b.begin_ m) (touch : Touch) :
    HeaderIs (touch.apply b).begin_
      { m with
        radius := touch.radius.getD m.radius
        srcAddr := (touch.relayed.map Prod.fst).getD m.srcAddr
        seqNum := (touch.relayed.map Prod.snd).getD m.seqNum } := by
  have high : ∀ j, (touch.apply b).begin_ (8 + j) = b.begin_ (8 + j) :=
    fun j => begin_touch touch b (Nat.le_add_right 8 j)
  have ieee : ∀ k, (touch.apply b).begin_.ieeeAddr (8 + k) = b.begin_.ieeeAddr (8 + k) := by
    intro k
    simp only [Octets.ieeeAddr, Nat.add_assoc, high]
  obtain ⟨frame0, frame1, dst, src, radius_, seqNum, dstIeee, srcIeee⟩ := header
  refine ⟨?_, ?_, ?_, ?_, ?_, ?_, fun a given => ?_, fun a given => ?_⟩
  · rw [← frame0]
    obtain ⟨radius, relayed⟩ := touch
    cases radius <;> cases relayed <;> simp [Touch.apply, Buf.begin_write]
  · rw [← frame1]
    obtain ⟨radius, relayed⟩ := touch
    cases radius <;> cases relayed <;> simp [Touch.apply, Buf.begin_write]
  · rw [← dst]
    obtain ⟨radius, relayed⟩ := touch
    cases radius <;> cases relayed <;> simp [Touch.apply, Octets.le16, Buf.begin_write]
  · obtain ⟨radius, relayed⟩ := touch
    cases relayed with
    | none =>
      rw [Option.map_none, Option.getD_none, ← src]
      cases radius <;> simp [Touch.apply, Octets.le16, Buf.begin_write]
    | some relayed =>
      apply le16_shortOctets <;>
        cases radius <;> simp [Touch.apply, shortOctets, Buf.begin_write]
  · obtain ⟨radius, relayed⟩ := touch
    cases radius <;> cases relayed <;> simp [Touch.apply, Buf.begin_write, shortOctets, radius_]
  · obtain ⟨radius, relayed⟩ := touch
    cases radius <;> cases relayed <;> simp [Touch.apply, Buf.begin_write, shortOctets, seqNum]
  · rw [← dstIeee a given]
    exact ieee 0
  · rw [← srcIeee a given]
    change Octets.ieeeAddr _ (if m.dstIeeeAddr.isSome then 16 else 8) = _
    cases m.dstIeeeAddr.isSome with
    | false => exact ieee 0
    | true => exact ieee 8

theorem touch_alike (touch : Touch) (b : Buf) : b.Alike (touch.apply b) := by
  obtain ⟨radius, relayed⟩ := touch
  cases radius <;> cases relayed <;> exact ⟨rfl, rfl⟩

theorem touch_keeps {b₀ b : Buf} (keeps : b₀.Keeps b) (touch : Touch) (room : 8 ≤ b.len) :
    b₀.Keeps (touch.apply b) := by
  have first : b₀.Keeps (touch.radius.elim b fun radius => b.write 6 [radius]) ∧
      (touch.radius.elim b fun radius => b.write 6 [radius]).len = b.len := by
    cases touch.radius with
    | none => exact ⟨keeps, rfl⟩
    | some radius => exact ⟨keeps.write (by simp; omega), rfl⟩
  rw [Touch.apply]
  obtain ⟨kept, len⟩ := first
  generalize (touch.radius.elim b fun radius => b.write 6 [radius]) = c at *
  cases touch.relayed with
  | none => exact kept
  | some relayed =>
    refine (kept.write ?_).write ?_
    · simp [shortOctets]
      omega
    · simp
      omega

/-- The command and the payload behind the header. -/
theorem slice_write (b : Buf) (i : ℕ) (first : UInt8) (rest : List UInt8) :
    (b.write i (first :: rest)).begin_ i = first ∧
      (b.write i (first :: rest)).begin_.slice (i + 1) rest.length = rest := by
  constructor
  · simp [Buf.begin_write]
  · apply List.ext_getElem
    · simp [Octets.slice]
    · intro k left right
      have above : i ≤ i + 1 + k := by omega
      have shift : i + 1 + k - i = k + 1 := by omega
      simp [Octets.slice, Buf.begin_write, above, shift, right]

/-- A header before the command is not written over. -/
theorem HeaderIs.write {b : Buf} {m : NwkCommand} (header : HeaderIs b.begin_ m) {i : ℕ}
    (octets : List UInt8) (behind : m.hdrSize ≤ i) : HeaderIs (b.write i octets).begin_ m := by
  refine header.congr fun j inside => ?_
  rw [Buf.begin_write, if_neg (by omega)]

/-! ## Frames with a header for its arguments -/

theorem HdrArgs.hdrSize_bounds (args : HdrArgs) : 8 ≤ args.hdrSize ∧ args.hdrSize ≤ 39 := by
  have src : args.srcIeeeAddr.isSome.toNat ≤ 1 := Bool.toNat_le _
  have dst : args.dstIeeeAddr.isSome.toNat ≤ 1 := Bool.toNat_le _
  rw [HdrArgs.hdrSize, nwkHdrSizeFor, nwkAuxFrameHdrSize]
  constructor
  · omega
  · split <;> split <;> omega

/-- What the receiver takes for the size of the header: there is no multicast flag. -/
theorem HdrArgs.hdrSize_eq (nib : Nib) (args : HdrArgs) (touch : Touch) (cmd : Command) :
    args.hdrSize = ((Sending.allocAndFill args touch cmd).meant nib).hdrSize +
      if args.isMulticast then 1 else 0 := by
  change _ = nwkHdrSizeFor (args.srcIeeeAddr.isSome.toNat + args.dstIeeeAddr.isSome.toNat) false +
    (if args.isSecured then nwkAuxFrameHdrSize else 0) + _
  rw [HdrArgs.hdrSize, nwkHdrSizeFor, nwkHdrSizeFor, if_neg Bool.false_ne_true]
  omega

/-- The buffer with the header. -/
def headed (nib : Nib) (b : Buf) (args : HdrArgs) : Buf :=
  (fixedPart ⟨args.hdrSize, (ioBufSize - args.hdrSize) / 2, b.buf⟩ false args.srcIeeeAddr.isSome
    args.dstIeeeAddr.isSome args.isSecured nib.networkAddress args.dstAddr 1
    nib.sequenceNumber).setIeeeAddrs args.srcIeeeAddr args.dstIeeeAddr

theorem headed_keeps (nib : Nib) (b : Buf) (args : HdrArgs) :
    b.Keeps (headed nib b args) ∧ (headed nib b args).len = args.hdrSize ∧
      (headed nib b args).dataOffset = (ioBufSize - args.hdrSize) / 2 := by
  have start : b.Keeps ⟨args.hdrSize, (ioBufSize - args.hdrSize) / 2, b.buf⟩ := fun _ _ => rfl
  obtain ⟨kept, len, offset⟩ := start.fixed args.hdrSize_bounds.1 false args.srcIeeeAddr.isSome
    args.dstIeeeAddr.isSome args.isSecured nib.networkAddress args.dstAddr 1 nib.sequenceNumber
  rw [headed]
  generalize fixedPart _ _ _ _ _ _ _ _ _ = c at *
  replace len : c.len = args.hdrSize := len
  replace offset : c.dataOffset = (ioBufSize - args.hdrSize) / 2 := offset
  have size := args.hdrSize_eq nib ⟨none, none⟩ ⟨0, [], by decide⟩
  have long : ∀ addr, (ieeeOctets addr).length = 8 := fun _ => rfl
  rw [Sending.meant, NwkCommand.hdrSize, nwkHdrSizeFor] at size
  dsimp only at size
  cases source : args.srcIeeeAddr with
  | none =>
    cases destination : args.dstIeeeAddr with
    | none => exact ⟨kept, len, offset⟩
    | some dst =>
      rw [source, destination] at size
      exact ⟨kept.write (by rw [long, len, size]; simp; omega), len, offset⟩
  | some src =>
    cases destination : args.dstIeeeAddr with
    | none =>
      rw [source, destination] at size
      exact ⟨kept.write (by rw [long, len, size]; simp; omega), len, offset⟩
    | some dst =>
      rw [source, destination] at size
      refine ⟨(kept.write (by rw [long, len, size]; simp; omega)).write ?_, len, offset⟩
      rw [Buf.write_len, long, len, size]
      simp
      omega

theorem layout_allocAndFill (nib : Nib) (b : Buf) (args : HdrArgs) (touch : Touch)
    (cmd : Command) :
    (Sending.allocAndFill args touch cmd).layout nib b =
      if (cmd.payload.length + 1) % 2 ^ 8 + args.hdrSize < ioBufSize then
        some (nib.sequenceNumberInc, touch.apply
          (({ headed nib b args with
              len := (args.hdrSize + (cmd.payload.length + 1) % 2 ^ 8) % 2 ^ 8 } : Buf).write
            args.hdrSize (cmd.id :: cmd.payload)))
      else none := by
  have small : args.hdrSize < ioBufSize := Nat.lt_of_le_of_lt args.hdrSize_bounds.2 (by decide)
  have hdr : nwkAllocAndFillHdr nib b args true =
      some (nib.sequenceNumberInc, headed nib b args) := by
    rw [nwkAllocAndFillHdr, if_pos rfl, Buf.initialAlloc, if_pos small]
    rfl
  rw [Sending.layout, hdr]
  change (nwkAllocAndFillCmd (headed nib b args) cmd).bind _ = _
  rw [nwkAllocAndFillCmd, Buf.smartAllocRight, (headed_keeps nib b args).2.1]
  split
  · change some (_, touch.apply (Buf.write _ ((headed nib b args).dataOffset + args.hdrSize -
      (headed nib b args).dataOffset) _)) = _
    rw [Nat.add_sub_cancel_left]
  · rfl

/-- The header in the finished frame. -/
theorem allocAndFill_header (nib : Nib) (b : Buf) (args : HdrArgs) (touch : Touch)
    (cmd : Command) (len : ℕ) :
    HeaderIs (touch.apply (({ headed nib b args with len := len } : Buf).write args.hdrSize
      (cmd.id :: cmd.payload))).begin_ ((Sending.allocAndFill args touch cmd).meant nib) := by
  have plain : HeaderIs ({ headed nib b args with len := len } : Buf).begin_
      ((Sending.allocAndFill args ⟨none, none⟩ cmd).meant nib) :=
    header_allocAndFill nib _ args cmd
  refine (plain.write _ ?_).touch touch
  rw [args.hdrSize_eq nib ⟨none, none⟩ cmd]
  exact Nat.le_add_right _ _

theorem readCommand_payload_length (p : Octets) (len : ℕ) :
    (readCommand p len).payload.length = len - (nwkHdrSize p + 1) := by
  simp [readCommand, Octets.slice]

theorem allocAndFill_decodes_iff (nib : Nib) (args : HdrArgs) (touch : Touch) (cmd : Command) :
    (Sending.allocAndFill args touch cmd).Decodes nib ↔
      (Sending.allocAndFill args touch cmd).Plain nib := by
  have octet := cmd.size
  have bounds := args.hdrSize_bounds
  have meantSize := args.hdrSize_eq nib touch cmd
  have size : (Sending.allocAndFill args touch cmd).size nib =
      1 + cmd.payload.length + args.hdrSize := rfl
  constructor
  · intro decodes
    obtain ⟨nib', b', laid, fits, read, -⟩ := decodes ⟨0, 0, fun _ => 0⟩
    rw [layout_allocAndFill] at laid
    split at laid
    · rename_i passes
      cases laid
      have header := allocAndFill_header nib ⟨0, 0, fun _ => 0⟩ args touch cmd
        ((args.hdrSize + (cmd.payload.length + 1) % 2 ^ 8) % 2 ^ 8)
      have length := congrArg (fun m => m.payload.length) read
      dsimp only at length
      rw [readCommand_payload_length, header.nwkHdrSize_eq, (touch_alike touch _).1,
        Buf.write_len] at length
      change _ = cmd.payload.length at length
      dsimp only at length
      rw [Buf.Fits, (touch_alike touch _).1, (touch_alike touch _).2, Buf.write_len,
        Buf.write_dataOffset] at fits
      dsimp only at fits
      rw [(headed_keeps nib _ args).2.2] at fits
      simp only [ioBufSize] at passes fits
      have single : args.isMulticast = false := by
        by_contra multicast
        rw [if_pos (eq_true_of_ne_false multicast)] at meantSize
        omega
      refine ⟨?_, single, ?_⟩
      · rw [size, ioBufSize]
        omega
      · rw [size, ioBufSize]
        omega
    · cases laid
  · rintro ⟨small, single, fits⟩ b
    replace single : args.isMulticast = false := single
    rw [size] at small fits
    have room : (cmd.payload.length + 1) % 2 ^ 8 = cmd.payload.length + 1 := by
      simp only [ioBufSize] at small
      omega
    have whole : (args.hdrSize + (cmd.payload.length + 1)) % 2 ^ 8 =
        args.hdrSize + (cmd.payload.length + 1) := by
      simp only [ioBufSize] at small
      omega
    rw [single, if_neg Bool.false_ne_true, Nat.add_zero] at meantSize
    rw [layout_allocAndFill, room, if_pos (by omega), whole]
    have header := allocAndFill_header nib b args touch cmd
      (args.hdrSize + (cmd.payload.length + 1))
    obtain ⟨kept, len, offset⟩ := headed_keeps nib b args
    obtain ⟨id, payload⟩ := slice_write ({ headed nib b args with
      len := args.hdrSize + (cmd.payload.length + 1) } : Buf) args.hdrSize cmd.id cmd.payload
    have grown : b.Keeps ({ headed nib b args with
        len := args.hdrSize + (cmd.payload.length + 1) } : Buf) := by
      intro k outside
      refine kept k (outside.imp_right fun behind => ?_)
      rw [len]
      dsimp only at behind
      omega
    refine ⟨_, _, rfl, ?_, ?_, touch_keeps (grown.write ?_) touch ?_⟩
    · rw [Buf.Fits, (touch_alike touch _).1, (touch_alike touch _).2, Buf.write_len,
        Buf.write_dataOffset]
      dsimp only
      rw [offset]
      omega
    · apply header.readCommand_eq rfl rfl
      · rw [← meantSize, begin_touch touch _ bounds.1]
        exact id
      · rw [← meantSize, (touch_alike touch _).1, Buf.write_len]
        dsimp only
        rw [show args.hdrSize + (cmd.payload.length + 1) - (args.hdrSize + 1) =
          cmd.payload.length by omega]
        refine Eq.trans ?_ payload
        apply List.map_congr_left
        intro j _
        exact begin_touch touch _ (by omega)
    · rw [List.length_cons]
    · rw [Buf.write_len]
      dsimp only
      omega

/-! ## Frames that are filled out -/

/-- All frames are secured. -/
def Nib.secures (nib : Nib) : Bool := nib.secureAllFrames && nib.securityLevel ≠ 0

/-- The NIB after `zb_nwk_fill_out_command`. -/
def Nib.looked (nib : Nib) (dest : UInt16) : Nib :=
  { nib with
    addresses := { nib.addresses with
      table := (addressIeeeByShort nib.addresses.table dest.toNat).1 } }.sequenceNumberInc

/-- The size of the header. -/
def Nib.fillOutHdrSize (nib : Nib) (known : Bool) : ℕ :=
  nwkHdrSizeFor (if known then 2 else 1) false + if nib.secures then nwkAuxFrameHdrSize else 0

/-- The buffer with the header. -/
def filledOut (nib : Nib) (b : Buf) (dest : UInt16) (dstIeee : Option IeeeAddr) (len : ℕ) : Buf :=
  let c := (fixedPart ⟨len, (ioBufSize - len) / 2, b.buf⟩ true true dstIeee.isSome false
    nib.networkAddress dest (nib.maxDepth <<< 1) nib.sequenceNumber).write 16
      (ieeeOctets nib.extendedAddress)
  (dstIeee.elim c fun dst => c.write 8 (ieeeOctets dst)).setSecurity nib.secures

theorem layout_fillOut {nib : Nib} {dest : UInt16} {dstIeee : Option IeeeAddr}
    (looked : (addressIeeeByShort nib.addresses.table dest.toNat).2 = dstIeee) (b : Buf)
    (cmd : Command) :
    let hdrSize := nib.fillOutHdrSize dstIeee.isSome
    let len := (hdrSize + cmd.payload.length + 1) % 2 ^ 8
    (Sending.fillOut dest cmd).layout nib b =
      if len < ioBufSize then
        some (nib.looked dest,
          (filledOut nib b dest dstIeee len).write hdrSize (cmd.id :: cmd.payload))
      else none := by
  subst looked
  intro hdrSize len
  change nwkFillOutCommand nib b dest cmd = _
  rw [nwkFillOutCommand]
  change (Buf.initialAlloc b len).bind _ = _
  rw [Buf.initialAlloc]
  split
  · rfl
  · rfl

/-- The source of a frame to a device without an IEEE address is not where it is read. -/
theorem filledOut_unknown (nib : Nib) (b : Buf) (dest : UInt16) (len i : ℕ)
    (octets : List UInt8) (behind : 16 ≤ i) :
    let p := ((filledOut nib b dest none len).write i octets).begin_
    nwkSrcIeeeAddr p = some (p.ieeeAddr 8) ∧ p 8 = b.buf ((ioBufSize - len) / 2 + 8) := by
  have fixed := header_fixed ⟨len, (ioBufSize - len) / 2, b.buf⟩ true true false false
    nib.networkAddress dest (nib.maxDepth <<< 1) nib.sequenceNumber
  have stale : (fixedPart ⟨len, (ioBufSize - len) / 2, b.buf⟩ true true false false
      nib.networkAddress dest (nib.maxDepth <<< 1) nib.sequenceNumber).begin_ 8 =
      (⟨len, (ioBufSize - len) / 2, b.buf⟩ : Buf).begin_ 8 := by
    simp [fixedPart, Buf.setFrameTypeNProtoVer, Buf.setDiscoverRoute, Buf.setSrcDestIeee,
      Buf.setSecurity, Buf.setAddresses, Buf.orFramectl, Buf.begin_write, shortOctets]
  have frame1 := fixed.2.1
  rw [filledOut]
  dsimp only [Option.isSome_none, Option.elim_none]
  generalize fixedPart _ _ _ _ _ _ _ _ _ = c at *
  have one : (((c.write 16 (ieeeOctets nib.extendedAddress)).setSecurity nib.secures).write i
      octets).begin_ 1 = framectlBits false true nib.secures := by
    have before : (c.write 16 (ieeeOctets nib.extendedAddress)).begin_ 1 =
        framectlBits false true false := by
      rw [Buf.begin_write, if_neg (by decide), frame1]
    rw [Buf.begin_write, if_neg (by omega), begin_setSecurity, before]
    cases nib.secures <;> rfl
  constructor
  · rw [nwkSrcIeeeAddr, nwkFramectlGetSourceIeee, nwkFramectlGetDestinationIeee, one]
    cases nib.secures <;> rfl
  · rw [Buf.begin_write, if_neg (by omega), begin_setSecurity, if_neg (by simp),
      Buf.begin_write, if_neg (by decide), stale]
    rfl

/-- The header in the finished frame, where there is an IEEE address for the destination. -/
theorem filledOut_header (nib : Nib) (b : Buf) (dest : UInt16) (cmd : Command) (dst : IeeeAddr)
    (len : ℕ) (octets : List UInt8) :
    HeaderIs ((filledOut nib b dest (some dst) len).write (nib.fillOutHdrSize true) octets).begin_
      { (Sending.fillOut dest cmd).meant nib with dstIeeeAddr := some dst } := by
  have header := header_fillOut nib ⟨len, (ioBufSize - len) / 2, b.buf⟩ dest cmd dst
  exact HeaderIs.write header octets (Nat.le_refl _)

theorem filledOut_len (nib : Nib) (b : Buf) (dest : UInt16) (dstIeee : Option IeeeAddr)
    (len : ℕ) : (filledOut nib b dest dstIeee len).len = len := by
  rw [filledOut]
  cases dstIeee <;> cases nib.secures <;> rfl

theorem filledOut_dataOffset (nib : Nib) (b : Buf) (dest : UInt16) (dstIeee : Option IeeeAddr)
    (len : ℕ) : (filledOut nib b dest dstIeee len).dataOffset = (ioBufSize - len) / 2 := by
  rw [filledOut]
  cases dstIeee <;> cases nib.secures <;> rfl

theorem filledOut_keeps (nib : Nib) (b : Buf) (dest : UInt16) (dst : IeeeAddr) {len : ℕ}
    (room : 24 ≤ len) : b.Keeps (filledOut nib b dest (some dst) len) := by
  have start : b.Keeps ⟨len, (ioBufSize - len) / 2, b.buf⟩ := fun _ _ => rfl
  obtain ⟨kept, same, -⟩ := start.fixed (Nat.le_trans (by decide) room) true true true false
    nib.networkAddress dest (nib.maxDepth <<< 1) nib.sequenceNumber
  rw [filledOut]
  dsimp only [Option.isSome_some, Option.elim_some]
  generalize fixedPart _ _ _ _ _ _ _ _ _ = c at *
  replace same : c.len = len := same
  have long : ∀ addr, (ieeeOctets addr).length = 8 := fun _ => rfl
  have written : b.Keeps
      ((c.write 16 (ieeeOctets nib.extendedAddress)).write 8 (ieeeOctets dst)) := by
    refine (kept.write ?_).write ?_
    · rw [long]
      omega
    · rw [long, Buf.write_len]
      omega
  cases nib.secures with
  | false => exact written
  | true =>
    refine written.write ?_
    rw [List.length_singleton, Buf.write_len, Buf.write_len]
    omega

theorem lookup_of_destination {nib : Nib} {dest : UInt16} {dst : IeeeAddr}
    (known : Sending.destinationIeee nib dest = some dst) :
    (addressIeeeByShort nib.addresses.table dest.toNat).2 = some dst := by
  obtain ⟨ref, found, entry⟩ := Option.bind_eq_some_iff.mp known
  split at entry
  · cases entry
  · cases entry
    exact History.addressIeeeByShort_of_found found

theorem fillOut_decodes_iff (nib : Nib) (dest : UInt16) (cmd : Command) :
    (Sending.fillOut dest cmd).Decodes nib ↔ (Sending.fillOut dest cmd).Plain nib := by
  have octet := cmd.size
  have size : (Sending.fillOut dest cmd).size nib =
      1 + cmd.payload.length + nib.fillOutHdrSize true := rfl
  have bounds : 24 ≤ nib.fillOutHdrSize true ∧ nib.fillOutHdrSize true ≤ 38 := by
    rw [Nib.fillOutHdrSize]
    cases nib.secures <;> decide
  cases known : Sending.destinationIeee nib dest with
  | none =>
    refine iff_of_false (fun decodes => ?_) fun plain => plain.2 known
    obtain ⟨nib', b', laid, -, read, -⟩ :=
      decodes ⟨0, 0, fun _ => nib.extendedAddress.devManufacturer.octet0 + 1⟩
    cases looked : (addressIeeeByShort nib.addresses.table dest.toNat).2 with
    | none =>
      rw [layout_fillOut looked] at laid
      split at laid
      · cases laid
        have place := congrArg NwkCommand.srcIeeeAddr read
        obtain ⟨first, stale⟩ := filledOut_unknown nib
          ⟨0, 0, fun _ => nib.extendedAddress.devManufacturer.octet0 + 1⟩ dest
          ((nib.fillOutHdrSize false + cmd.payload.length + 1) % 2 ^ 8)
          (nib.fillOutHdrSize false) (cmd.id :: cmd.payload) (by
            rw [Nib.fillOutHdrSize]
            cases nib.secures <;> decide)
        have same := congrArg (fun a => a.devManufacturer.octet0)
          (Option.some.inj (first.symm.trans place))
        replace same : _ = nib.extendedAddress.devManufacturer.octet0 := same
        have clash : nib.extendedAddress.devManufacturer.octet0 =
            nib.extendedAddress.devManufacturer.octet0 + 1 := same.symm.trans stale
        exact absurd clash (by simp)
      · cases laid
    | some dst =>
      rw [layout_fillOut looked] at laid
      split at laid
      · cases laid
        have place := congrArg NwkCommand.dstIeeeAddr read
        have found := (filledOut_header nib
          ⟨0, 0, fun _ => nib.extendedAddress.devManufacturer.octet0 + 1⟩ dest cmd dst
          ((nib.fillOutHdrSize true + cmd.payload.length + 1) % 2 ^ 8)
          (cmd.id :: cmd.payload)).nwkDstIeeeAddr_eq
        have absurd_ : some dst = Sending.destinationIeee nib dest := found.symm.trans place
        rw [known] at absurd_
        cases absurd_
      · cases laid
  | some dst =>
    have looked := lookup_of_destination known
    have same : ({ (Sending.fillOut dest cmd).meant nib with dstIeeeAddr := some dst } :
        NwkCommand) = (Sending.fillOut dest cmd).meant nib := by
      rw [← known]
      rfl
    constructor
    · intro decodes
      refine ⟨?_, by change Sending.destinationIeee nib dest ≠ none; rw [known]; exact nofun⟩
      obtain ⟨nib', b', laid, -, read, -⟩ := decodes ⟨0, 0, fun _ => 0⟩
      have shape := layout_fillOut looked ⟨0, 0, fun _ => 0⟩ cmd
      dsimp only [Option.isSome_some] at shape
      rw [shape] at laid
      split at laid
      · rename_i passes
        cases laid
        have header := filledOut_header nib ⟨0, 0, fun _ => 0⟩ dest cmd dst
          ((nib.fillOutHdrSize true + cmd.payload.length + 1) % 2 ^ 8) (cmd.id :: cmd.payload)
        have length := congrArg (fun m => m.payload.length) read
        rw [readCommand_payload_length, header.nwkHdrSize_eq, Buf.write_len,
          filledOut_len] at length
        change _ - (nib.fillOutHdrSize true + 1) = cmd.payload.length at length
        rw [ioBufSize] at passes
        rw [size, ioBufSize]
        omega
      · cases laid
    · rintro ⟨small, -⟩ b
      rw [size] at small
      have whole : (nib.fillOutHdrSize true + cmd.payload.length + 1) % 2 ^ 8 =
          nib.fillOutHdrSize true + cmd.payload.length + 1 := by
        simp only [ioBufSize] at small
        omega
      have laid := layout_fillOut looked b cmd
      dsimp only [Option.isSome_some] at laid
      rw [whole, if_pos (by omega)] at laid
      have kept := filledOut_keeps nib b dest dst
        (show 24 ≤ nib.fillOutHdrSize true + cmd.payload.length + 1 by omega)
      have header := filledOut_header nib b dest cmd dst
        (nib.fillOutHdrSize true + cmd.payload.length + 1) (cmd.id :: cmd.payload)
      obtain ⟨id, payload⟩ := slice_write (filledOut nib b dest (some dst)
        (nib.fillOutHdrSize true + cmd.payload.length + 1)) (nib.fillOutHdrSize true) cmd.id
        cmd.payload
      rw [same] at header
      have hdrSize : ((Sending.fillOut dest cmd).meant nib).hdrSize = nib.fillOutHdrSize true := by
        rw [← same]
        rfl
      refine ⟨_, _, laid, ?_, ?_, kept.write ?_⟩
      · rw [Buf.Fits, Buf.write_len, Buf.write_dataOffset, filledOut_len, filledOut_dataOffset]
        simp only [ioBufSize] at small ⊢
        omega
      · apply header.readCommand_eq rfl rfl
        · rw [hdrSize]
          exact id
        · rw [hdrSize, Buf.write_len, filledOut_len,
            show nib.fillOutHdrSize true + cmd.payload.length + 1 -
              (nib.fillOutHdrSize true + 1) = cmd.payload.length by omega]
          exact payload
      · rw [filledOut_len, List.length_cons]
        omega

/-- A command is read as it is meant exactly where it is plain. -/
theorem decodes_iff (nib : Nib) (s : Sending) : s.Decodes nib ↔ s.Plain nib := by
  cases s with
  | allocAndFill args touch cmd => exact allocAndFill_decodes_iff nib args touch cmd
  | fillOut dest cmd => exact fillOut_decodes_iff nib dest cmd

/-- A device that knows no other. -/
def alone : Nib where
  networkAddress := 0
  extendedAddress := ⟨⟨0xac, 0xde, 0x48⟩, ⟨0, 0, 0, 0, 1⟩⟩
  sequenceNumber := 7
  maxDepth := 5
  secureAllFrames := false
  securityLevel := 0
  addresses := .zero

/-- A network update to all devices. -/
def networkUpdate : Command where
  id := 10
  payload := [1, 8, 7, 6, 5, 4, 3, 2, 1, 0, 0xaa, 0x1a]
  size := by decide

/-- The source address of the broadcast stands behind the place where it is read. -/
theorem broadcast_unread : ¬ (Sending.fillOut 0xffff networkUpdate).Decodes alone := by
  rw [fillOut_decodes_iff]
  rintro ⟨-, known⟩
  exact known (by decide)

end Zboss.CommandFrames
