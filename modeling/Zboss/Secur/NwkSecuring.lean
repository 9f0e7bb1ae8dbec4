import Zboss.Mac.HeaderCodec
import Zboss.Secur.DataIndication
import Zboss.Secur.Nonce
import Zboss.Zdo.ChannelChange

/-!
A secured NWK frame from the sender's buffer to the receiver's (`zb_nwk_secure_frame`,
`zb_nwk_unsecure_frame`).  The auxiliary header is the end of the NWK header and is filled in place;
the security level in it is authenticated, but zero on the air.  The sender encrypts into the buffer
of MAC, the receiver in place, with the MAC header written in front once more.
-/

namespace Zboss.NwkSecuring

open Zboss.AddressTable (IeeeAddr)
open Zboss.BufLayout (Buf)
open Zboss.Ccm (Aes ccmDecryptNAuth ccmEncryptNAuth ccmM ccmStar)
open Zboss.Cells Zboss.FrameHeaders Zboss.KeyStore Zboss.MacHeader
open Zboss.ChannelChange (htole32)
open Zboss.CommandFrames (ieeeOctets)
open Zboss.DataIndication (nwkFrame)
open Zboss.Unsecure (CcmNonce Device NwkFrame zbNwkStdSecurControl)

/-! ## Buffers -/

/-- `zb_secur_ccm_nonce_t` in memory. -/
def nonceOctets (nonce : CcmNonce) : Ccm.Nonce := fun i =>
  (ieeeOctets nonce.sourceAddress ++ htole32 nonce.frameCounter ++ [nonce.securControl]).getD i 0

/-- `zb_nwk_aux_frame_hdr_t` in memory. -/
def auxFrameHdr (securControl : UInt8) (frameCounter : UInt32) (sourceAddress : IeeeAddr)
    (keySeqNumber : UInt8) : List UInt8 :=
  securControl :: (htole32 frameCounter ++ ieeeOctets sourceAddress ++ [keySeqNumber])

def zbNwkStdSecurControlZeroedLevel : UInt8 := (1 : UInt8) <<< 3 ||| (1 : UInt8) <<< 5

/-- A buffer as the CCM* routines see it. -/
def ccmBuf (b : Buf) : Ccm.Buf := ⟨live b.buf BufLayout.ioBufSize, b.len, b.dataOffset⟩

/-- The buffer with what the CCM* routines left. -/
def ofCcmBuf (b : Buf) (c : Ccm.Buf) : Buf := ⟨c.len, c.dataOffset, memcpy b.buf 0 c.buf⟩

def bufBegin (b : Buf) : Octets := Octets.cut b.dataOffset b.buf

/-- Write octets at an address in the data area. -/
def write (b : Buf) (at_ : ℕ) (octets : List UInt8) : Buf :=
  { b with buf := memcpy b.buf at_ octets }

/-! ## The sender -/

/-- `ZB_ROUTER_ROLE`, `ZB_COORDINATOR_ROLE`, and the own address in the PIB. -/
structure Config where
  routerRole : Bool
  coordinatorRole : Bool
  extendedAddress : IeeeAddr

/-- What securing leaves: the key state, the two buffers, `ret`, and whether a buffer is asked for
to switch the key. -/
structure Secured where
  keys : KeyState
  src : Buf
  dst : Buf
  ok : Bool
  switchNwkKey : Bool

def zbSecurNwkCounterLimit : UInt32 := ~~~0 - 128

/-- The frame counter and the key number that are filled in, and the counters after. -/
def chooseCounter (config : Config) (useSameKey : Bool) (auxSeq : UInt8) (s : KeyState) :
    UInt32 × UInt8 × KeyState :=
  if config.routerRole ∧ useSameKey ∧ auxSeq ≠ s.activeKeySeqNumber then
    (s.prevOutgoingFrameCounter, auxSeq,
      { s with prevOutgoingFrameCounter := s.prevOutgoingFrameCounter + 1 })
  else
    (s.outgoingFrameCounter, s.activeKeySeqNumber,
      { s with outgoingFrameCounter := s.outgoingFrameCounter + 1 })

/-- `zb_nwk_secure_frame`; none, here and below, where an assertion fails or a write leaves the
buffer. -/
def nwkSecureFrame (aes : Aes) (config : Config) (useSameKey : Bool) (src : Buf) (macHdrSize : ℕ)
    (dst : Buf) (s : KeyState) : Option Secured := do
  let nwhdr := src.dataOffset + macHdrSize
  let hdrSize := nwkHdrSize (Octets.cut nwhdr src.buf)
  let aux := nwhdr + hdrSize - nwkAuxFrameHdrSize
  let (frameCounter, keySeqNumber, s) := chooseCounter config useSameKey (src.buf (aux + 13)) s
  let src := write src aux
    (auxFrameHdr zbNwkStdSecurControl frameCounter config.extendedAddress keySeqNumber)
  let nonce := ⟨config.extendedAddress, frameCounter, zbNwkStdSecurControl⟩
  match nwkKeyBySeq keySeqNumber s with
  | none => some ⟨s, src, dst, false, false⟩
  | some key =>
    let encrypted ← ccmEncryptNAuth aes key (nonceOctets nonce) (segment src.buf nwhdr hdrSize)
      (segment src.buf (nwhdr + hdrSize) (src.len - hdrSize - macHdrSize)) (ccmBuf dst)
    let (dst, dp) ← (ofCcmBuf dst encrypted).smartAllocLeft macHdrSize
    let dst := write dst dp.first (segment src.buf src.dataOffset macHdrSize)
    let dst := write dst (dst.dataOffset + (aux - src.dataOffset)) [zbNwkStdSecurControlZeroedLevel]
    some ⟨s, src, dst, true,
      config.coordinatorRole && s.isTc && s.outgoingFrameCounter == zbSecurNwkCounterLimit⟩

/-- `zb_secur_buf_encr_type_e`. -/
inductive EncryptType where
  | noEncr
  | nwkEncr
  | apsEncr
  | macEncr
  deriving DecidableEq

/-- `zb_mac_check_security`; `encryptionBuf` is the buffer of MAC.  The other types of encryption
are not compiled in. -/
def macCheckSecurity (aes : Aes) (config : Config) (encryptType : EncryptType) (useSameKey : Bool)
    (dataBuf encryptionBuf : Buf) (s : KeyState) : Option Secured :=
  if encryptType = .nwkEncr then
    let macHdr := bufBegin dataBuf
    let hlen := macCalculateMhrLength (fcfGetSrcAddressingMode macHdr)
      (fcfGetDstAddressingMode macHdr) (fcfGetPanidCompressionBit macHdr)
    nwkSecureFrame aes config useSameKey dataBuf hlen encryptionBuf s
  else some ⟨s, dataBuf, encryptionBuf, true, false⟩

/-! ## The receiver -/

/-- A received packet: its buffer and `mac_hdr_offset`. -/
structure Packet where
  data : Buf
  macHdrOffset : ℕ

/-- What unsecuring leaves. -/
structure Received where
  device : Device
  nsdu : Packet
  ok : Bool

/-- `ZB_MAC_CUT_HDR`; `tailSize` is `ZB_TAIL_SIZE_FOR_RECEIVED_MAC_FRAME`. -/
def macCutHdr (tailSize hlen : ℕ) (packet : Buf) : Option Packet := do
  let cut ← packet.cutRight tailSize
  let (cut, _) ← cut.cutLeft hlen
  some ⟨cut, packet.dataOffset⟩

/-- The payload size of `zb_nwk_unsecure_frame`, in a `zb_ushort_t`. -/
def payloadSize (len hdrSize : ℕ) : ℕ := (2 ^ 32 + len - hdrSize) % 2 ^ 32

/-- The frame in the buffer, with the payload size the code computes. -/
def bufFrame (mhr : Mhr) (mhrLen : ℕ) (data : Buf) : NwkFrame :=
  let p := bufBegin data
  let hdrSize := nwkHdrSize p
  { nwkFrame ⟨mhrLen, mhr.srcAddr.addrShort⟩ p data.len with
    payload := p.slice hdrSize (payloadSize data.len hdrSize) }

/-- `zb_nwk_unsecure_frame` with the buffer.  `addrRef` is what `zb_address_update` gives for a short
MAC source, and whatever stands in the local variable for another; `decryptedText` is the array on
the stack of `zb_ccm_decrypt_n_auth`.  The last test reads the auxiliary header where it was before
the allocation.  A rejected frame becomes a status indication. -/
def nwkUnsecureFrame (aes : Aes) (addrRef : Option ℕ) (room : Bool) (random : Key)
    (decryptedText : List UInt8) (mhr : Mhr) (mhrLen : ℕ) (nsdu : Packet) (d : Device) :
    Option Received :=
  let hdrSize := nwkHdrSize (bufBegin nsdu.data)
  let aux := nsdu.data.dataOffset + hdrSize - nwkAuxFrameHdrSize
  let size := payloadSize nsdu.data.len hdrSize
  let frame := bufFrame mhr mhrLen nsdu.data
  let data := write nsdu.data aux [zbNwkStdSecurControl]
  let decrypt key nonce :=
    ccmDecryptNAuth aes key (nonceOctets nonce) (ccmBuf data) hdrSize size decryptedText
  let r := Unsecure.nwkUnsecureFrame (fun key nonce _ _ => (decrypt key nonce).any Prod.snd) frame
    addrRef room random d
  match r.slot with
  | none => some ⟨r.device, nsdu, false⟩
  | some i => do
    let (decrypted, ok) ← decrypt (d.keys.securMaterialSet i).key
      ⟨frame.sourceAddress, frame.frameCounter, zbNwkStdSecurControl⟩
    let data := ofCcmBuf data decrypted
    if ok then
      let (data, key) ← data.smartAllocLeft (mhrLen + 1)
      let data := write data (key.first + 1) (macFillMhr mhr)
      let macHdrOffset := data.dataOffset + 1
      let (data, _) ← data.cutLeft (mhrLen + 1)
      let keys := implicitKeySwitch (data.buf (aux + 13)) random d.keys
      some ⟨{ r.device with keys }, ⟨data, macHdrOffset⟩, true⟩
    else some ⟨r.device, ⟨data, nsdu.macHdrOffset⟩, false⟩

/-- `zb_mcps_data_indication` as far as unsecuring. -/
def mcpsUnsecure (aes : Aes) (addrRef : Option ℕ) (room : Bool) (random : Key)
    (decryptedText : List UInt8) (tailSize : ℕ) (buf : Buf) (d : Device) : Option Received := do
  let (mhr, mhrSize) := MacHeader.parseMhr (bufBegin buf)
  let nsdu ← macCutHdr tailSize mhrSize buf
  nwkUnsecureFrame aes addrRef room random decryptedText mhr mhrSize nsdu d

/-! ## Octets in memory -/

variable {p : Octets} {i : ℕ} {octets : List UInt8}

theorem holds_htole32 {value : UInt32} (holds : Holds p i (htole32 value)) : p.le32 i = value :=
  holds_le32 holds

/-- The fields of an auxiliary header that stands at `i`. -/
theorem holds_auxFrameHdr {control keySeqNumber : UInt8} {frameCounter : UInt32}
    {sourceAddress : IeeeAddr}
    (holds : Holds p i (auxFrameHdr control frameCounter sourceAddress keySeqNumber)) :
    p.le32 (i + 1) = frameCounter ∧ p.ieeeAddr (i + 5) = sourceAddress ∧
      p (i + 13) = keySeqNumber := by
  have split : auxFrameHdr control frameCounter sourceAddress keySeqNumber =
    [control] ++ (htole32 frameCounter ++ (ieeeOctets sourceAddress ++ [keySeqNumber])) := rfl
  rw [split, holds_append, holds_append, holds_append] at holds
  obtain ⟨-, counter, source, seq⟩ := holds
  exact ⟨holds_htole32 counter, holds_ieeeOctets source, List.head_eq_of_cons_eq seq⟩

theorem auxFrameHdr_length (control keySeqNumber : UInt8) (frameCounter : UInt32)
    (sourceAddress : IeeeAddr) :
    (auxFrameHdr control frameCounter sourceAddress keySeqNumber).length = nwkAuxFrameHdrSize := rfl

/-- The size of a header depends on its second octet. -/
theorem nwkHdrSize_congr {q : Octets} (same : p 1 = q 1) : nwkHdrSize p = nwkHdrSize q := by
  unfold nwkHdrSize nwkFramectlGetMulticastFlag nwkFramectlGetSecurity
    nwkFramectlGetDestinationIeee nwkFramectlGetSourceIeee
  rw [same]

/-! ## Buffers -/

variable {b : Buf} {front middle rest : List UInt8}

/-- What the payload has in the middle stands there. -/
theorem holds_begin (cells : b.payload = front ++ (middle ++ rest)) :
    Holds (bufBegin b) front.length middle := by
  obtain ⟨-, -, behind⟩ := segment_eq_append cells
  obtain ⟨-, here, -⟩ := segment_eq_append behind
  rw [Holds, bufBegin, segment_cut]
  exact here

theorem holds_begin_front (cells : b.payload = front ++ rest) : Holds (bufBegin b) 0 front := by
  have whole : b.payload = [] ++ (front ++ rest) := cells
  exact holds_begin whole

theorem payload_write (cells : b.payload = front ++ (middle ++ rest))
    (same : octets.length = middle.length) :
    (write b (b.dataOffset + front.length) octets).payload = front ++ (octets ++ rest) :=
  segment_memcpy_over cells same

theorem payload_length (b : Buf) : b.payload.length = b.len := segment_length _

theorem ccmBuf_content (fits : b.Fits) : (ccmBuf b).content = b.payload := by
  have whole : live b.buf BufLayout.ioBufSize = segment b.buf 0 BufLayout.ioBufSize := by
    apply live_congr
    intro i _
    rw [Nat.zero_add]
  have inside : b.len ≤ BufLayout.ioBufSize - b.dataOffset := Nat.le_sub_of_add_le' fits
  rw [Ccm.Buf.content, ccmBuf, whole, segment_drop, segment_take inside, Nat.zero_add]
  rfl

theorem ofCcmBuf_payload {c : Ccm.Buf} (size : c.buf.length = BufLayout.ioBufSize)
    (inside : c.dataOffset + c.len ≤ BufLayout.ioBufSize) :
    (ofCcmBuf b c).payload = c.content := by
  have all := congrArg (List.drop c.dataOffset) (segment_memcpy (a := b.buf) 0 c.buf)
  have place : c.len ≤ c.buf.length - c.dataOffset := by omega
  rw [segment_drop, Nat.zero_add] at all
  rw [Ccm.Buf.content, ← all, segment_take place]
  rfl

theorem smartAllocLeft_front (fits : b.Fits) {size : ℕ}
    (small : size + b.len < BufLayout.ioBufSize) :
    ∃ b' front, b.smartAllocLeft size = some (b', ⟨b'.dataOffset, size⟩) ∧ b'.Fits ∧
      front.length = size ∧ b'.payload = front ++ b.payload := by
  obtain ⟨b', span, done⟩ : ∃ b' span, b.smartAllocLeft size = some (b', span) := by
    rw [Buf.smartAllocLeft, if_pos small]
    exact ⟨_, _, rfl⟩
  obtain ⟨fits', rfl, len, behind⟩ := Buf.smartAllocLeft_spec fits done
  refine ⟨b', b'.payload.take size, done, fits', ?_, ?_⟩
  · rw [List.length_take, payload_length, len]
    exact Nat.min_eq_left (Nat.le_add_left _ _)
  · rw [← behind, List.take_append_drop]

theorem cutLeft_front (fits : b.Fits) (cells : b.payload = front ++ rest) :
    b.cutLeft front.length = some (⟨rest.length, b.dataOffset + front.length, b.buf⟩,
      ⟨b.dataOffset + front.length, rest.length⟩) := by
  obtain ⟨length, -, -⟩ := segment_eq_append cells
  simp only [Buf.Fits, BufLayout.ioBufSize] at fits
  have whole : (b.dataOffset + front.length) % 2 ^ 8 = b.dataOffset + front.length :=
    Nat.mod_eq_of_lt (by omega)
  have others : b.len - front.length = rest.length := by omega
  rw [Buf.cutLeft, if_pos (by omega), others, whole]

/-! ## Securing -/

/-- A NWK header with the security bit set and room for the auxiliary header at its end. -/
structure Securable (header : List UInt8) : Prop where
  size : header.length = nwkHdrSize (Octets.ofList header)
  security : nwkFramectlGetSecurity (Octets.ofList header) = true

/-- A frame as the stack builds it: a MAC header, a NWK header and a payload.  Tag and FCS fit into
the PHY frame. -/
structure Built (b : Buf) (mhr : Mhr) (header payload : List UInt8) : Prop
    extends Securable header where
  fits : b.Fits
  dstMode : mhr.dstMode ∈ addrModes
  srcMode : mhr.srcMode ∈ addrModes
  content : b.payload = macFillMhr mhr ++ (header ++ payload)
  room : b.len + ccmM + 2 ≤ 127

/-- The header in front of the auxiliary one. -/
def fields (header : List UInt8) : List UInt8 := header.take (header.length - nwkAuxFrameHdrSize)

/-- The counter choice for a header. -/
def counterFor (config : Config) (useSameKey : Bool) (header : List UInt8) (s : KeyState) :
    UInt32 × UInt8 × KeyState :=
  chooseCounter config useSameKey (header.getD (header.length - 1) 0) s

variable {config : Config} {mhr : Mhr} {header payload : List UInt8}

theorem Securable.long (securable : Securable header) :
    nwkAuxFrameHdrSize + 8 ≤ header.length := by
  rw [securable.size, nwkHdrSize, if_pos securable.security]
  omega

theorem Securable.fields_length (securable : Securable header) :
    (fields header).length + nwkAuxFrameHdrSize = header.length := by
  have := securable.long
  rw [fields, List.length_take]
  omega

/-- No auxiliary header lies over the first octets. -/
theorem Securable.field (securable : Securable header) {aux : List UInt8}
    (holds : Holds p 0 (fields header ++ aux)) {j : ℕ} (low : j < 8) :
    p j = Octets.ofList header j := by
  have long := securable.long
  have some_ := securable.fields_length
  have octet := holds_getD (holds_append.mp holds).1 (j := j) (by omega)
  rw [Nat.zero_add] at octet
  rw [octet, fields, Octets.ofList, List.getD_eq_getElem?_getD, List.getD_eq_getElem?_getD,
    List.getElem?_take_of_lt (by omega)]

theorem Securable.nwkHdrSize_fields (securable : Securable header) {aux : List UInt8}
    (holds : Holds p 0 (fields header ++ aux)) : nwkHdrSize p = header.length := by
  rw [securable.size]
  exact nwkHdrSize_congr (securable.field holds (by decide))

theorem holds_modes (holds : Holds p 0 (macFillMhr mhr)) :
    fcfGetSrcAddressingMode p = mhr.srcMode ∧ fcfGetDstAddressingMode p = mhr.dstMode ∧
      fcfGetPanidCompressionBit p = mhr.panidCompression := by
  rw [macFillMhr, holds_append, holds_append] at holds
  have octets : [p 0, p 1, p 2] = [mhr.frameControl.1, mhr.frameControl.2, mhr.seqNumber] :=
    holds.1.1
  simp only [List.cons.injEq] at octets
  obtain ⟨first, second, -⟩ := octets
  rw [fcfGetSrcAddressingMode, fcfGetDstAddressingMode, fcfGetPanidCompressionBit, first, second]
  exact ⟨rfl, rfl, rfl⟩

theorem nwkKeyBySeq_counterFor (useSameKey : Bool) (seq : UInt8) (s : KeyState) :
    nwkKeyBySeq seq (counterFor config useSameKey header s).2.2 = nwkKeyBySeq seq s := by
  rw [counterFor, chooseCounter]
  split <;> rfl

/-- The header with an auxiliary header filled in. -/
def filledHdr (header : List UInt8) (control : UInt8) (nonce : CcmNonce) (keySeqNumber : UInt8) :
    List UInt8 :=
  fields header ++ auxFrameHdr control nonce.frameCounter nonce.sourceAddress keySeqNumber

/-- What becomes of a frame that is secured with a key: the source keeps its place and its payload,
and in the destination the frame is encrypted. -/
structure SecuredAs (aes : Aes) (key : Key) (nonce : CcmNonce) (keySeqNumber : UInt8) (b : Buf)
    (mhr : Mhr) (header payload : List UInt8) (r : Secured) : Prop where
  ok : r.ok = true
  place : r.src.dataOffset = b.dataOffset ∧ r.src.len = b.len
  src : r.src.payload = macFillMhr mhr ++
    (filledHdr header zbNwkStdSecurControl nonce keySeqNumber ++ payload)
  fits : r.dst.Fits
  dst : r.dst.payload = macFillMhr mhr ++
    (filledHdr header zbNwkStdSecurControlZeroedLevel nonce keySeqNumber ++
      ccmStar (aes key) (nonceOctets nonce)
        (filledHdr header zbNwkStdSecurControl nonce keySeqNumber) payload)

theorem Securable.filledHdr_length (securable : Securable header) (control : UInt8)
    (nonce : CcmNonce) (keySeqNumber : UInt8) :
    (filledHdr header control nonce keySeqNumber).length = header.length := by
  rw [filledHdr, List.length_append, auxFrameHdr_length, securable.fields_length]

/-- Encryption into a buffer and the MAC header in front. -/
theorem encrypt_behind (aes : Aes) (key : Key) (nonce : Ccm.Nonce) (dst : Buf)
    {mac a m : List UInt8} (nonempty : a ≠ [])
    (room : mac.length + (a.length + m.length) + ccmM ≤ 125) :
    ∃ c dst', ccmEncryptNAuth aes key nonce a m (ccmBuf dst) = some c ∧
      (ofCcmBuf dst c).smartAllocLeft mac.length = some (dst', ⟨dst'.dataOffset, mac.length⟩) ∧
      dst'.Fits ∧ (write dst' dst'.dataOffset mac).payload =
        mac ++ (a ++ ccmStar (aes key) nonce a m) := by
  have sizes : a.length + m.length + ccmM ≤ 125 := by omega
  have encrypts := Ccm.ccmEncryptNAuth_eq nonce aes key (m := m) nonempty
    (Nat.le_trans sizes (by decide)) (b := ccmBuf dst) (live_length _ _)
  rw [if_pos sizes] at encrypts
  obtain ⟨c, encrypted, size, inside, content⟩ := encrypts
  have fits : (ofCcmBuf dst c).Fits := inside
  have payload_ := (ofCcmBuf_payload (b := dst) size inside).trans content
  have length := congrArg List.length payload_
  rw [payload_length, List.length_append, ccmStar, List.length_append, Ccm.tagCtr_length,
    CcmStar.ctr_length _ _ (by decide)] at length
  have small : mac.length + (ofCcmBuf dst c).len < BufLayout.ioBufSize := by
    rw [BufLayout.ioBufSize]
    simp only [ccmM] at room
    omega
  obtain ⟨dst', front, allocated, fits', frontLength, cells⟩ := smartAllocLeft_front fits small
  rw [payload_] at cells
  have first : dst'.payload = [] ++ (front ++ (a ++ ccmStar (aes key) nonce a m)) := cells
  exact ⟨c, dst', encrypted, allocated, fits', payload_write first frontLength.symm⟩

/-- The security control of the auxiliary header, and the rest of the header. -/
theorem filledHdr_control (header : List UInt8) (nonce : CcmNonce) (keySeqNumber : UInt8) :
    ∃ rest, ∀ control, filledHdr header control nonce keySeqNumber =
      fields header ++ ([control] ++ rest) := ⟨_, fun _ => rfl⟩

section
variable (built : Built b mhr header payload)
include built

/-- The octets of a built frame, with the old auxiliary header apart. -/
theorem Built.cells : ∃ aux, aux.length = nwkAuxFrameHdrSize ∧ header = fields header ++ aux ∧
    b.payload = (macFillMhr mhr ++ fields header) ++ (aux ++ payload) := by
  have whole := List.take_append_drop (header.length - nwkAuxFrameHdrSize) header
  have long := built.long
  refine ⟨header.drop (header.length - nwkAuxFrameHdrSize), ?_, whole.symm, ?_⟩
  · rw [List.length_drop]
    omega
  · rw [built.content, List.append_assoc, ← List.append_assoc (fields header), fields, whole]

theorem nwkSecureFrame_spec (aes : Aes) (useSameKey : Bool) (dst : Buf) (s : KeyState) {key : Key}
    (found : nwkKeyBySeq (counterFor config useSameKey header s).2.1 s = some key) :
    ∃ r, nwkSecureFrame aes config useSameKey b (macFillMhr mhr).length dst s = some r ∧
      SecuredAs aes key
        ⟨config.extendedAddress, (counterFor config useSameKey header s).1, zbNwkStdSecurControl⟩
        (counterFor config useSameKey header s).2.1 b mhr header payload r := by
  obtain ⟨old, oldLength, parts, cells⟩ := built.cells
  have long := built.long
  have fieldsLength := built.fields_length
  have room := built.room
  have total := congrArg List.length built.content
  rw [payload_length, List.length_append, List.length_append] at total
  have start : Holds b.buf (b.dataOffset + (macFillMhr mhr).length) header :=
    holds_cut.mp (holds_begin built.content)
  have hdrSize : nwkHdrSize (Octets.cut (b.dataOffset + (macFillMhr mhr).length) b.buf) =
      header.length := by
    have whole : Holds (Octets.cut (b.dataOffset + (macFillMhr mhr).length) b.buf) 0
        (fields header ++ old) := by
      rw [← parts]
      exact holds_cut.mpr start
    exact built.nwkHdrSize_fields whole
  have auxPlace : b.dataOffset + (macFillMhr mhr).length + header.length - nwkAuxFrameHdrSize =
      b.dataOffset + (macFillMhr mhr ++ fields header).length := by
    rw [List.length_append]
    omega
  have auxSeq : b.buf (b.dataOffset + (macFillMhr mhr ++ fields header).length + 13) =
      header.getD (header.length - 1) 0 := by
    have last := holds_getD start (j := header.length - 1) (by omega)
    rw [← last, List.length_append]
    congr 1
    simp only [nwkAuxFrameHdrSize] at fieldsLength
    omega
  have kept : nwkKeyBySeq (counterFor config useSameKey header s).2.1
      (counterFor config useSameKey header s).2.2 = nwkKeyBySeq _ s :=
    nwkKeyBySeq_counterFor useSameKey _ s
  unfold nwkSecureFrame
  dsimp only [bind]
  rw [hdrSize, auxPlace, auxSeq]
  have chosen : chooseCounter config useSameKey (header.getD (header.length - 1) 0) s =
    counterFor config useSameKey header s := rfl
  rw [chosen]
  generalize counterFor config useSameKey header s = choice at *
  obtain ⟨counter, seq, keys⟩ := choice
  dsimp only at *
  rw [kept, found]
  dsimp only
  -- the source with the auxiliary header filled in
  generalize nonce_ : (⟨config.extendedAddress, counter, zbNwkStdSecurControl⟩ : CcmNonce) = nonce
  have filled : (write b (b.dataOffset + (macFillMhr mhr ++ fields header).length)
      (auxFrameHdr zbNwkStdSecurControl counter config.extendedAddress seq)).payload =
      macFillMhr mhr ++ (filledHdr header zbNwkStdSecurControl nonce seq ++ payload) := by
    rw [payload_write cells (by rw [oldLength, auxFrameHdr_length]), filledHdr, ← nonce_]
    simp only [List.append_assoc]
  have srcPlace : (write b (b.dataOffset + (macFillMhr mhr ++ fields header).length)
      (auxFrameHdr zbNwkStdSecurControl counter config.extendedAddress seq)).dataOffset =
      b.dataOffset ∧ (write b (b.dataOffset + (macFillMhr mhr ++ fields header).length)
      (auxFrameHdr zbNwkStdSecurControl counter config.extendedAddress seq)).len = b.len :=
    ⟨rfl, rfl⟩
  generalize write b _ _ = src at *
  obtain ⟨offset, len⟩ := srcPlace
  have hdrLength := built.filledHdr_length zbNwkStdSecurControl nonce seq
  obtain ⟨-, macHdr, behind⟩ := segment_eq_append filled
  obtain ⟨-, hdr, others⟩ := segment_eq_append behind
  rw [hdrLength] at hdr others
  rw [offset] at macHdr hdr others
  have payloadLength : src.len - header.length - (macFillMhr mhr).length = payload.length := by
    omega
  rw [offset, payloadLength, hdr, others, macHdr]
  have nonempty : filledHdr header zbNwkStdSecurControl nonce seq ≠ [] := by
    rw [← List.length_pos_iff, hdrLength]
    omega
  have roomy : (macFillMhr mhr).length +
      ((filledHdr header zbNwkStdSecurControl nonce seq).length + payload.length) + ccmM ≤ 125 := by
    omega
  obtain ⟨c, dst', encrypted, allocated, fits, withMac⟩ :=
    encrypt_behind aes key (nonceOctets nonce) dst nonempty roomy
  rw [encrypted, Option.bind_some, allocated, Option.bind_some]
  dsimp only
  have writtenFits : (write dst' dst'.dataOffset (macFillMhr mhr)).Fits := fits
  generalize write dst' dst'.dataOffset (macFillMhr mhr) = dst'' at *
  -- the level is zeroed where the auxiliary header is now
  obtain ⟨rest, control⟩ := filledHdr_control header nonce seq
  have zeroed : [zbNwkStdSecurControlZeroedLevel].length = [zbNwkStdSecurControl].length := rfl
  have level : dst''.payload = (macFillMhr mhr ++ fields header) ++ ([zbNwkStdSecurControl] ++
      (rest ++ ccmStar (aes key) (nonceOctets nonce)
        (filledHdr header zbNwkStdSecurControl nonce seq) payload)) := by
    rw [withMac]
    nth_rewrite 1 [control]
    simp only [List.append_assoc]
  refine ⟨_, rfl, rfl, ⟨offset, len⟩, filled, writtenFits, ?_⟩
  dsimp only
  rw [Nat.add_sub_cancel_left, payload_write level zeroed, control zbNwkStdSecurControlZeroedLevel]
  simp only [List.append_assoc]
end

/-! ## Unsecuring -/

/-- The condition on the receiver: it is authenticated, has the key under the number, and has or
makes a neighbour entry for the sender whose counter is not ahead of the frame's. -/
structure Ready (d : Device) (addrRef : Option ℕ) (direct room : Bool) (key : Key)
    (keySeqNumber : UInt8) (frameCounter : UInt32) : Prop where
  authenticated : d.keys.authenticated = true
  key : nwkKeyBySeq keySeqNumber d.keys = some key
  counter : ∃ ref nbe, addrRef = some ref ∧ Unsecure.neighborGet ref direct room d = some nbe ∧
    ((nbe.doubtChild.followKey keySeqNumber).count frameCounter).isSome = true

/-- A frame that decrypts right at a ready receiver. -/
theorem Ready.accepts {d : Device} {addrRef : Option ℕ} {room : Bool} {key : Key}
    {frame : NwkFrame} (decrypts : Unsecure.Decrypts) (random : Key)
    (ready : Ready d addrRef (frame.nwkSrcAddr == frame.macSrcAddr) room key frame.keySeqNumber
      frame.frameCounter)
    (long : ccmM ≤ frame.payload.length)
    (right : decrypts key ⟨frame.sourceAddress, frame.frameCounter, zbNwkStdSecurControl⟩
      frame.header frame.payload = true) :
    ∃ i, (Unsecure.nwkUnsecureFrame decrypts frame addrRef room random d).slot = some i ∧
      (d.keys.securMaterialSet i).key = key := by
  obtain ⟨authenticated, keyFound, ref, nbe, rfl, got, counts⟩ := ready
  obtain ⟨counted, counts⟩ := Option.isSome_iff_exists.mp counts
  obtain ⟨i, found, rfl⟩ := Option.map_eq_some_iff.mp keyFound
  refine ⟨i, ?_, rfl⟩
  have notShort : ¬frame.payload.length < ccmM := Nat.not_lt_of_le long
  rw [Unsecure.nwkUnsecureFrame, if_pos authenticated]
  dsimp only
  rw [got]
  dsimp only
  rw [found]
  dsimp only
  rw [counts]
  dsimp only
  rw [if_neg notShort, if_pos right]

theorem macCutHdr_spec (fits : b.Fits) (cells : b.payload = front ++ (middle ++ rest)) :
    ∃ cut, macCutHdr rest.length front.length b = some ⟨cut, b.dataOffset⟩ ∧ cut.Fits ∧
      cut.payload = middle := by
  have total := congrArg List.length cells
  rw [payload_length, List.length_append, List.length_append] at total
  obtain ⟨c, done⟩ : ∃ c, b.cutRight rest.length = some c := by
    rw [Buf.cutRight, if_pos (by omega)]
    exact ⟨_, rfl⟩
  obtain ⟨fits', shorter⟩ := Buf.cutRight_spec fits done
  have left : b.len - rest.length = (front ++ middle).length := by
    rw [List.length_append]
    omega
  rw [cells, left, ← List.append_assoc, List.take_left] at shorter
  obtain ⟨cut, done'⟩ : ∃ cut, c.cutLeft front.length = some cut := ⟨_, cutLeft_front fits' shorter⟩
  obtain ⟨cut, span⟩ := cut
  obtain ⟨fits'', -, rest_⟩ := Buf.cutLeft_spec fits' done'
  rw [shorter, List.drop_left] at rest_
  refine ⟨cut, ?_, fits'', rest_⟩
  simp only [macCutHdr, bind, done, done', Option.bind_some]

/-- A buffer that holds an encrypted frame holds the frame after decryption. -/
theorem decrypt_in_place (aes : Aes) (key : Key) (nonce : Ccm.Nonce) {stack a m : List UInt8}
    (stackSize : stack.length = Ccm.ioBufSize) (nonempty : a ≠ []) (fits : b.Fits)
    (small : m.length + 16 ≤ Ccm.ioBufSize)
    (cells : b.payload = a ++ ccmStar (aes key) nonce a m) :
    ∃ c, ccmDecryptNAuth aes key nonce (ccmBuf b) a.length (m.length + ccmM) stack =
        some (c, true) ∧ (ofCcmBuf b c).Fits ∧ (ofCcmBuf b c).payload = a ++ m := by
  have textLength := CcmStar.ctr_length (aes key) (Ccm.ai nonce) (by decide) 1 m
  have holds : Ccm.Holds (ccmBuf b) a (CcmStar.ctr (aes key) (Ccm.ai nonce) 1 m)
      (Ccm.tagCtr (aes key) nonce (Ccm.tag (aes key) nonce a m)) :=
    ⟨live_length _ _, fits, (ccmBuf_content fits).trans cells, Ccm.tagCtr_length _ _ _⟩
  have decrypts := Ccm.ccmDecryptNAuth_eq nonce aes key nonempty holds stackSize
  rw [textLength, if_pos small] at decrypts
  obtain ⟨c, ok, done, decrypted⟩ := decrypts
  have again := CcmStar.ctr_ctr (aes key) (Ccm.ai nonce) (by decide) 1 m
  have accepted : ok = true := decrypted.accepts.mpr (by rw [again])
  subst accepted
  obtain ⟨offset, len⟩ := Ccm.ccmDecryptNAuth_place nonce done
  have place : c.dataOffset + c.len ≤ BufLayout.ioBufSize := by
    rw [offset, len]
    exact Nat.le_trans (Nat.add_le_add_left (Nat.sub_le _ _) _) fits
  refine ⟨c, done, place, ?_⟩
  rw [ofCcmBuf_payload decrypted.size place, decrypted.content, if_pos rfl, again]


/-- The fields of a secured frame, read from its octets. -/
theorem Securable.bufFrame (securable : Securable header) {control keySeqNumber : UInt8}
    {nonce : CcmNonce}
    (holds : Holds (bufBegin b) 0 (filledHdr header control nonce keySeqNumber)) (mhr : Mhr)
    (mhrLen : ℕ) :
    (bufFrame mhr mhrLen b).nwkSrcAddr = nwkSrcAddr (Octets.ofList header) ∧
      (bufFrame mhr mhrLen b).macSrcAddr = mhr.srcAddr.addrShort ∧
      (bufFrame mhr mhrLen b).sourceAddress = nonce.sourceAddress ∧
      (bufFrame mhr mhrLen b).keySeqNumber = keySeqNumber ∧
      (bufFrame mhr mhrLen b).frameCounter = nonce.frameCounter ∧
      (bufFrame mhr mhrLen b).payload.length = payloadSize b.len header.length := by
  have place : header.length - nwkAuxFrameHdrSize = (fields header).length := by
    rw [fields, List.length_take, Nat.min_eq_left (Nat.sub_le _ _)]
  have aux := (holds_append.mp holds).2
  rw [Nat.zero_add] at aux
  obtain ⟨counter, source, seq⟩ := holds_auxFrameHdr aux
  have low : nwkSrcAddr (bufBegin b) = nwkSrcAddr (Octets.ofList header) := by
    rw [nwkSrcAddr, nwkSrcAddr, Octets.le16, Octets.le16, securable.field holds (by decide),
      securable.field holds (by decide)]
  have hdrSize := securable.nwkHdrSize_fields holds
  rw [NwkSecuring.bufFrame]
  dsimp only [nwkFrame]
  rw [hdrSize, place]
  refine ⟨low, rfl, source, seq, counter, ?_⟩
  rw [Octets.slice, List.length_map, List.length_range]

/-- The MAC header in front of the payload, behind one octet more. -/
theorem reinsert_mhr (fits : b.Fits) (mhr : Mhr)
    (small : (macFillMhr mhr).length + 1 + b.len < BufLayout.ioBufSize) :
    ∃ b' cut span, b.smartAllocLeft ((macFillMhr mhr).length + 1) =
        some (b', ⟨b'.dataOffset, (macFillMhr mhr).length + 1⟩) ∧
      (write b' (b'.dataOffset + 1) (macFillMhr mhr)).cutLeft ((macFillMhr mhr).length + 1) =
        some (cut, span) ∧
      cut.Fits ∧ cut.payload = b.payload ∧
      Holds (Octets.cut (b'.dataOffset + 1) cut.buf) 0 (macFillMhr mhr) := by
  obtain ⟨b', front, allocated, fits', frontLength, cells⟩ := smartAllocLeft_front fits small
  obtain ⟨first, more, rfl⟩ := List.exists_cons_of_length_eq_add_one frontLength
  have room : b'.payload = [first] ++ (more ++ b.payload) := cells
  have written := payload_write room (Nat.succ.inj frontLength).symm
  have writtenFits : (write b' (b'.dataOffset + [first].length) (macFillMhr mhr)).Fits := fits'
  rw [← List.append_assoc] at written
  have cut := cutLeft_front writtenFits written
  obtain ⟨fits'', -, rest⟩ := Buf.cutLeft_spec writtenFits cut
  rw [written, List.drop_left] at rest
  have length : ([first] ++ macFillMhr mhr).length = (macFillMhr mhr).length + 1 := by
    rw [List.length_append, Nat.add_comm]
    rfl
  rw [length] at cut
  refine ⟨b', _, _, allocated, cut, length ▸ fits'', length ▸ rest, ?_⟩
  rw [holds_cut]
  exact holds_memcpy _

section
variable {nsdu : Packet} {nonce : CcmNonce} {keySeqNumber : UInt8} {aes : Aes} {key : Key}

theorem nwkUnsecureFrame_spec (securable : Securable header)
    (control : nonce.securControl = zbNwkStdSecurControl) (fits : nsdu.data.Fits)
    (cells : nsdu.data.payload =
      filledHdr header zbNwkStdSecurControlZeroedLevel nonce keySeqNumber ++
        ccmStar (aes key) (nonceOctets nonce)
          (filledHdr header zbNwkStdSecurControl nonce keySeqNumber) payload)
    (roomy : (macFillMhr mhr).length + (header.length + payload.length) + ccmM ≤ 125)
    {d : Device} {addrRef : Option ℕ} {room : Bool} (random : Key) {stack : List UInt8}
    (stackSize : stack.length = Ccm.ioBufSize)
    (ready : Ready d addrRef (nwkSrcAddr (Octets.ofList header) == mhr.srcAddr.addrShort) room key
      keySeqNumber nonce.frameCounter) :
    ∃ r, nwkUnsecureFrame aes addrRef room random stack mhr (macFillMhr mhr).length nsdu d = some r ∧
      r.ok = true ∧ r.nsdu.data.Fits ∧
      r.nsdu.data.payload = filledHdr header zbNwkStdSecurControl nonce keySeqNumber ++ payload ∧
      Holds (Octets.cut r.nsdu.macHdrOffset r.nsdu.data.buf) 0 (macFillMhr mhr) := by
  have long := securable.long
  have fieldsLength := securable.fields_length
  have total := congrArg List.length cells
  rw [payload_length, List.length_append, securable.filledHdr_length, ccmStar, List.length_append,
    CcmStar.ctr_length _ _ (by decide), Ccm.tagCtr_length] at total
  have hdrHolds := holds_begin_front cells
  have hdrSize := securable.nwkHdrSize_fields hdrHolds
  have auxPlace : nsdu.data.dataOffset + header.length - nwkAuxFrameHdrSize =
      nsdu.data.dataOffset + (fields header).length := by omega
  have size : payloadSize nsdu.data.len header.length = payload.length + ccmM := by
    rw [payloadSize, total]
    simp only [ccmM] at roomy ⊢
    omega
  have fields_ := securable.bufFrame hdrHolds mhr (macFillMhr mhr).length
  have nonce_ : (⟨nonce.sourceAddress, nonce.frameCounter, zbNwkStdSecurControl⟩ : CcmNonce) =
      nonce := by
    rw [← control]
  -- the buffer with the security level restored, and decrypted
  obtain ⟨rest, filled⟩ := filledHdr_control header nonce keySeqNumber
  have zeroed : nsdu.data.payload = fields header ++ ([zbNwkStdSecurControlZeroedLevel] ++ (rest ++
      ccmStar (aes key) (nonceOctets nonce)
        (filledHdr header zbNwkStdSecurControl nonce keySeqNumber) payload)) := by
    rw [cells, filled]
    simp only [List.append_assoc]
  have same : [zbNwkStdSecurControl].length = [zbNwkStdSecurControlZeroedLevel].length := rfl
  have restored := payload_write zeroed same
  rw [← List.append_assoc _ rest, ← List.append_assoc (fields header), ← filled] at restored
  have restoredFits : (write nsdu.data (nsdu.data.dataOffset + (fields header).length)
    [zbNwkStdSecurControl]).Fits := fits
  unfold nwkUnsecureFrame
  dsimp only [bind]
  rw [hdrSize, auxPlace, size]
  generalize write nsdu.data (nsdu.data.dataOffset + (fields header).length)
    [zbNwkStdSecurControl] = data at *
  have hdrLength := securable.filledHdr_length zbNwkStdSecurControl nonce keySeqNumber
  have nonempty : filledHdr header zbNwkStdSecurControl nonce keySeqNumber ≠ [] := by
    rw [← List.length_pos_iff, hdrLength]
    omega
  obtain ⟨c, done, fits', content⟩ := decrypt_in_place aes key (nonceOctets nonce) stackSize nonempty
    restoredFits (by rw [Ccm.ioBufSize]; omega) restored
  rw [hdrLength] at done
  generalize bufFrame mhr (macFillMhr mhr).length nsdu.data = frame at *
  obtain ⟨nwkSrc, macSrc, source, seq, counter, length⟩ := fields_
  rw [← nwkSrc, ← macSrc, ← seq, ← counter] at ready
  rw [size] at length
  generalize decrypts_ : (fun key nonce (_ _ : List UInt8) => (ccmDecryptNAuth aes key
    (nonceOctets nonce) (ccmBuf data) header.length (payload.length + ccmM) stack).any Prod.snd) =
    decrypts
  have right : decrypts key ⟨frame.sourceAddress, frame.frameCounter, zbNwkStdSecurControl⟩
      frame.header frame.payload = true := by
    rw [← decrypts_, source, counter, nonce_]
    dsimp only
    rw [done]
    rfl
  obtain ⟨i, used, key_⟩ := ready.accepts decrypts random (by omega) right
  rw [used]
  dsimp only
  rw [key_, source, counter, nonce_, done, Option.bind_some]
  dsimp only
  rw [if_pos rfl]
  have length' := congrArg List.length content
  rw [payload_length, List.length_append, hdrLength] at length'
  have small : (macFillMhr mhr).length + 1 + (ofCcmBuf data c).len < BufLayout.ioBufSize := by
    rw [BufLayout.ioBufSize]
    omega
  obtain ⟨data', cut, span, allocated, cut_, cutFits, payload_, mac⟩ := reinsert_mhr fits' mhr small
  rw [allocated, Option.bind_some]
  dsimp only
  rw [cut_, Option.bind_some]
  exact ⟨_, rfl, rfl, cutFits, payload_.trans content, mac⟩
end

/-! ## The round trip -/

/-- A frame as it arrives: behind a MAC header with a short source the NWK frame as it was sent, and
behind it what MAC adds. -/
structure Arrived (buf : Buf) (mhr : Mhr) (nwkFrame tail : List UInt8) : Prop where
  fits : buf.Fits
  srcMode : mhr.srcMode = zbAddr16bitDevOrBroadcast
  content : buf.payload = macFillMhr mhr ++ (nwkFrame ++ tail)
  room : (macFillMhr mhr).length + nwkFrame.length + 2 ≤ 127

/-- The frame is recovered: NWK header and payload, and in front of them a MAC header that is read as
the one that was received. -/
structure Recovered (buf : Buf) (header payload : List UInt8) (r : Received) : Prop where
  ok : r.ok = true
  fits : r.nsdu.data.Fits
  content : r.nsdu.data.payload = header ++ payload
  macHdr : MacHeader.parseMhr (Octets.cut r.nsdu.macHdrOffset r.nsdu.data.buf) =
    MacHeader.parseMhr (bufBegin buf)

variable {aes : Aes} {key : Key}

theorem mcpsUnsecure_spec {buf : Buf} {nonce : CcmNonce} {keySeqNumber : UInt8}
    {tail : List UInt8} (securable : Securable header)
    (control : nonce.securControl = zbNwkStdSecurControl)
    (arrived : Arrived buf mhr
      (filledHdr header zbNwkStdSecurControlZeroedLevel nonce keySeqNumber ++
        ccmStar (aes key) (nonceOctets nonce)
          (filledHdr header zbNwkStdSecurControl nonce keySeqNumber) payload) tail)
    {d : Device} {addrRef : Option ℕ} {room : Bool} (random : Key) {stack : List UInt8}
    (stackSize : stack.length = Ccm.ioBufSize)
    (ready : Ready d addrRef (nwkSrcAddr (Octets.ofList header) == mhr.srcAddr.addrShort) room key
      keySeqNumber nonce.frameCounter) :
    ∃ r, mcpsUnsecure aes addrRef room random stack tail.length buf d = some r ∧
      Recovered buf (filledHdr header zbNwkStdSecurControl nonce keySeqNumber) payload r := by
  have parsed := parseMhr_holds (holds_begin_front arrived.content)
  have refilled := macFillMhr_received mhr
  have short : mhr.received.srcAddr.addrShort = mhr.srcAddr.addrShort := by
    have present : mhr.srcMode ≠ 0 := by
      rw [arrived.srcMode]
      decide
    have same := ((same_received mhr).src present).2
    rwa [SameAddr, if_pos arrived.srcMode] at same
  have room_ := arrived.room
  rw [List.length_append, securable.filledHdr_length, ccmStar, List.length_append,
    CcmStar.ctr_length _ _ (by decide), Ccm.tagCtr_length] at room_
  have roomy : (macFillMhr mhr.received).length + (header.length + payload.length) + ccmM ≤ 125 := by
    rw [refilled]
    simp only [ccmM]
    omega
  obtain ⟨cut, cut_, fits, cells⟩ := macCutHdr_spec arrived.fits arrived.content
  rw [← short] at ready
  have nsdu : (⟨cut, buf.dataOffset⟩ : Packet).data.payload = _ := cells
  obtain ⟨r, done, ok, fits', content, macHdr⟩ :=
    nwkUnsecureFrame_spec securable control fits nsdu roomy random stackSize ready
  refine ⟨r, ?_, ok, fits', content, ?_⟩
  · rw [mcpsUnsecure, parsed]
    dsimp only [bind]
    rw [cut_, Option.bind_some, ← refilled]
    exact done
  · rw [refilled] at macHdr
    rw [parsed, parseMhr_holds macHdr]

/-- The number of octets of the MAC header is what the sender counts. -/
theorem macCheckSecurity_eq (built : Built b mhr header payload) (useSameKey : Bool)
    (encryptionBuf : Buf) (s : KeyState) :
    macCheckSecurity aes config .nwkEncr useSameKey b encryptionBuf s =
      nwkSecureFrame aes config useSameKey b (macFillMhr mhr).length encryptionBuf s := by
  obtain ⟨src, dst, compression⟩ := holds_modes (holds_begin_front built.content)
  rw [macCheckSecurity, if_pos rfl]
  dsimp only
  rw [src, dst, compression, ← macFillMhr_length built.dstMode built.srcMode]

/-- The filled header has the size and the security bit of the header. -/
theorem Securable.filled (securable : Securable header) (control : UInt8) (nonce : CcmNonce)
    (keySeqNumber : UInt8) : Securable (filledHdr header control nonce keySeqNumber) := by
  have holds := holds_ofList (filledHdr header control nonce keySeqNumber)
  constructor
  · rw [securable.filledHdr_length, securable.nwkHdrSize_fields holds]
  · have bit := securable.security
    rw [nwkFramectlGetSecurity] at bit ⊢
    rw [securable.field holds (by decide)]
    exact bit

/-- **The securing round trip.**  A built frame whose key the sender has is secured; the sender's
buffer still holds the frame, unencrypted; and wherever it arrives with a short MAC source, a ready
receiver recovers the NWK header, as the sender's buffer has it, and the payload. -/
theorem unsecured_as_secured (aes : Aes) (config : Config) (useSameKey : Bool) (s : KeyState)
    {b : Buf} {mhr : Mhr} {header payload : List UInt8} (built : Built b mhr header payload)
    (encryptionBuf : Buf) {frameCounter : UInt32} {keySeqNumber : UInt8} {keys : KeyState}
    (chosen : counterFor config useSameKey header s = (frameCounter, keySeqNumber, keys))
    {key : Key} (found : nwkKeyBySeq keySeqNumber s = some key) :
    let header' := fields header ++
      auxFrameHdr zbNwkStdSecurControl frameCounter config.extendedAddress keySeqNumber
    ∃ sent, macCheckSecurity aes config .nwkEncr useSameKey b encryptionBuf s = some sent ∧
      sent.ok = true ∧ sent.src.dataOffset = b.dataOffset ∧ Built sent.src mhr header' payload ∧
      ∀ (mhr' : Mhr) (buf : Buf) (tail : List UInt8) (d : Device) (addrRef : Option ℕ)
        (room : Bool) (random : Key) (stack : List UInt8), stack.length = Ccm.ioBufSize →
        Arrived buf mhr' (sent.dst.payload.drop (macFillMhr mhr).length) tail →
        Ready d addrRef (nwkSrcAddr (Octets.ofList header) == mhr'.srcAddr.addrShort) room key
          keySeqNumber frameCounter →
        ∃ received, mcpsUnsecure aes addrRef room random stack tail.length buf d = some received ∧
          Recovered buf header' payload received := by
  intro header'
  have found' : nwkKeyBySeq (counterFor config useSameKey header s).2.1 s = some key := by
    rw [chosen]
    exact found
  obtain ⟨sent, done, secured⟩ := nwkSecureFrame_spec built aes useSameKey encryptionBuf s found'
  rw [chosen] at secured
  dsimp only at secured
  rw [← macCheckSecurity_eq built] at done
  have securable := built.toSecurable.filled zbNwkStdSecurControl
    ⟨config.extendedAddress, frameCounter, zbNwkStdSecurControl⟩ keySeqNumber
  have fits : sent.src.Fits := by
    rw [Buf.Fits, secured.place.1, secured.place.2]
    exact built.fits
  have room := built.room
  rw [← secured.place.2] at room
  refine ⟨sent, done, secured.ok, secured.place.1,
    ⟨securable, fits, built.dstMode, built.srcMode, secured.src, room⟩, ?_⟩
  intro mhr' buf tail d addrRef room random stack stackSize arrived ready
  rw [secured.dst, List.drop_left] at arrived
  exact mcpsUnsecure_spec built.toSecurable rfl arrived random stackSize ready

/-- A data frame between short addresses, with both IEEE addresses in the NWK header. -/
def sampleMhr : Mhr := ⟨(0x61, 0x88), 1, 0x1aaa, .ofShort 0, 0x1aaa, .ofShort 0x1234⟩

def sampleHeader : List UInt8 :=
  [0x08, 0x1a, 0, 0, 0x34, 0x12, 30, 7] ++ List.replicate 16 1 ++ List.replicate 14 0

/-- A buffer with these octets. -/
def sampleBuf (octets : List UInt8) : Buf := ⟨octets.length, 20, memcpy (fun _ => 0) 20 octets⟩

/-- The frame on the way to a receiver that adds two octets. -/
def sampleRx (sent : Secured) : Buf :=
  sampleBuf (macFillMhr sampleMhr ++ (sent.dst.payload.drop (macFillMhr sampleMhr).length ++ [0, 0]))

def sampleKeys : KeyState := { initial none with authenticated := true }

theorem unsecured_as_secured_sample :
    ∃ sent received,
      macCheckSecurity (fun key text => CcmStar.xor key text) ⟨true, true, .zero⟩ .nwkEncr false
        (sampleBuf (macFillMhr sampleMhr ++ (sampleHeader ++ [1, 2, 3]))) (sampleBuf [])
        sampleKeys = some sent ∧
      mcpsUnsecure (fun key text => CcmStar.xor key text) (some 0) true (fun _ => 0)
        (List.replicate 148 0) 2 (sampleRx sent) ⟨sampleKeys, fun _ => some .created⟩ =
          some received ∧
      Recovered (sampleRx sent)
        (fields sampleHeader ++ auxFrameHdr zbNwkStdSecurControl 0 .zero 0) [1, 2, 3] received := by
  have built : Built (sampleBuf (macFillMhr sampleMhr ++ (sampleHeader ++ [1, 2, 3]))) sampleMhr
      sampleHeader [1, 2, 3] :=
    ⟨⟨by decide, by decide⟩, by decide, by decide, by decide, by decide, by decide⟩
  obtain ⟨sent, done, -, -, -, recovers⟩ := unsecured_as_secured
    (fun key text => CcmStar.xor key text) ⟨true, true, .zero⟩ false sampleKeys built (sampleBuf [])
    rfl rfl
  have size : sent.dst.len = 54 := by
    apply Option.some.inj
    change (some sent).map (·.dst.len) = some 54
    rw [← done]
    decide +kernel
  have secured : (sent.dst.payload.drop (macFillMhr sampleMhr).length).length = 45 := by
    rw [List.length_drop, payload_length, size]
    rfl
  have total : (macFillMhr sampleMhr ++ (sent.dst.payload.drop (macFillMhr sampleMhr).length ++
      [0, 0])).length = 56 := by
    rw [List.length_append, List.length_append, secured]
    rfl
  have arrived : Arrived (sampleRx sent) sampleMhr
      (sent.dst.payload.drop (macFillMhr sampleMhr).length) [0, 0] := by
    refine ⟨?_, by decide, segment_memcpy _ _, ?_⟩
    · rw [Buf.Fits, sampleRx, sampleBuf, total]
      exact Nat.le_of_ble_eq_true rfl
    · rw [secured]
      decide
  obtain ⟨received, got, recovered⟩ := recovers sampleMhr (sampleRx sent) [0, 0]
    ⟨sampleKeys, fun _ => some .created⟩ (some 0) true (fun _ => 0) (List.replicate 148 0)
    List.length_replicate arrived ⟨rfl, rfl, 0, .created, rfl, rfl, by decide⟩
  exact ⟨sent, received, done, got, recovered⟩

end Zboss.NwkSecuring
