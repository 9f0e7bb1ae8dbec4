import Zboss.Lib.Extent
import Zboss.Secur.DataIndication

/-!
The octets that parsing a received frame reaches: the MAC header (`zb_parse_mhr`), the NWK
header, the auxiliary header and decryption (`zb_nwk_unsecure_frame`), the APS header
(`zb_aps_hdr_parse`) and APS decryption (`zb_aps_unsecure_frame`).  Offsets are from the
first octet of the frame on.
-/

namespace Zboss.ParseBounds

open Zboss.Extent Zboss.FrameHeaders
open Zboss.DataIndication (Config RxFrame admits broadcastSupported indicated validNwkHeader)

/-- `aMaxPHYPacketSize`. -/
def maxPhyPacketSize : ℕ := 127

/-- What the state and the tables answer: whether the MAC accepts the frame, the broadcasts in
the retransmission and transaction tables and whether the latter is full, and then for
either layer whether the address, the neighbour entry and the key are found, the counter
is not old and the tag is right.  After that what decryption leaves in the buffer. -/
structure Answers where
  accepted : Bool
  brrt : List (UInt16 × UInt8)
  btt : List (UInt16 × UInt8)
  bttFull : Bool
  authenticated : Bool
  addressUpdated : Bool
  neighbor : Bool
  key : Bool
  fresh : Bool
  authentic : Bool
  plain : Octets
  dup : Bool
  apsAddress : Bool
  apsNeighbor : Bool
  apsKey : Bool
  apsFresh : Bool

/-- `zb_buf_cut_left` and `zb_buf_cut_right` on `len`, an octet. -/
def bufCut (len size : ℕ) : ℕ := (len + 256 - size) % 256

/-- A difference of lengths as `zb_ushort_t`, an `unsigned int`. -/
def ushortSub (whole part : ℕ) : ℕ := (whole + 2 ^ 32 - part) % 2 ^ 32

theorem bufCut_eq {len size : ℕ} (short : len < 256) (fits : size ≤ len) :
    bufCut len size = len - size := by
  unfold bufCut
  omega

theorem ushortSub_eq {whole part : ℕ} (short : whole < 256) (fits : part ≤ whole) :
    ushortSub whole part = whole - part := by
  unfold ushortSub
  omega

/-! ## MAC -/

/-- `zb_parse_mhr`. -/
def parseMhrScan (p : Octets) : Scan :=
  let dst := fcfGetDstAddressingMode p
  let src := fcfGetSrcAddressingMode p
  let s := ((Scan.start 0).next 2).next 1
  let s := if dst ≠ 0 then (s.next 2).next (addrSize dst) else s
  if src ≠ 0 then
    let s := if fcfGetPanidCompressionBit p then s else s.next 2
    s.next (addrSize src)
  else s

/-- The scan ends behind the header. -/
theorem parseMhrScan_ptr (p : Octets) : (parseMhrScan p).ptr = (parseMhr p).size := by
  unfold parseMhrScan parseMhr
  dsimp only
  split <;> split <;> first | rfl | (split <;> rfl)

theorem parseMhrScan_covers (p : Octets) : (parseMhrScan p).Covers 0 := by
  unfold parseMhrScan
  have fixed : ((((Scan.start 0).next 2).next 1)).Covers 0 := (Scan.covers_start.next 2).next 1
  have dst : (if fcfGetDstAddressingMode p ≠ 0 then
      ((((Scan.start 0).next 2).next 1).next 2).next (addrSize (fcfGetDstAddressingMode p))
      else ((Scan.start 0).next 2).next 1).Covers 0 := by
    split
    · exact (fixed.next _).next _
    · exact fixed
  dsimp only
  split
  · split
    · exact dst.next _
    · exact (dst.next _).next _
  · exact dst

/-! ## CCM* -/

/-- `zb_ccm_decrypt_n_auth` with the buffer's first octet at `begin_`. -/
def ccmDecryptAccesses (begin_ len stringALen stringCLen : ℕ) : List Access :=
  let textLen := ushortSub stringCLen Ccm.ccmM
  [.minus stringCLen Ccm.ccmM,
    .octets (begin_ + stringALen) textLen,
    .octets (begin_ + stringALen + textLen) Ccm.ccmM,
    .octets begin_ stringALen,
    .minus len Ccm.ccmM,
    .octets (begin_ + stringALen) textLen]

theorem ccmDecryptAccesses_within {frameLen begin_ len stringALen stringCLen : ℕ}
    (short : stringCLen < 256) (whole : stringALen + stringCLen = len)
    (inside : begin_ + len ≤ frameLen) :
    Within frameLen (ccmDecryptAccesses begin_ len stringALen stringCLen) ↔
      Ccm.ccmM ≤ stringCLen := by
  constructor
  · intro within
    exact within (.minus stringCLen Ccm.ccmM) (by simp [ccmDecryptAccesses])
  · intro enough
    have textLen := ushortSub_eq short enough
    simp only [ccmDecryptAccesses, within_cons, within_nil, octets_within, minus_within, textLen,
      and_true]
    omega

/-! ## NWK -/

/-- `zb_nwk_unsecure_frame` from the neighbour entry on; the auxiliary header is at `aux`. -/
def nwkCheckedAccesses (answers : Answers) (begin_ len hdrSize aux : ℕ) : List Access :=
  let payloadSize := ushortSub len hdrSize
  .octets (aux + 13) 1 ::
  if answers.key then
    .octets (aux + 1) 4 ::
    if answers.fresh then
      .minus len hdrSize ::
      if payloadSize < Ccm.ccmM then []
      else [.octets aux 1, .octets (aux + 5) 8, .octets (aux + 1) 4] ++
        ccmDecryptAccesses begin_ len hdrSize payloadSize ++
        -- the MAC header is written before the frame again
        if answers.authentic then [.octets 0 begin_] else []
    else []
  else []

/-- `zb_nwk_unsecure_frame`: `begin_` is the offset of the NWK header and `len` the length from
there on. -/
def nwkUnsecureAccesses (answers : Answers) (octets : Octets) (begin_ len : ℕ) : List Access :=
  let hdrSize := nwkHdrSize (octets.cut begin_)
  let aux := begin_ + hdrSize - nwkAuxFrameHdrSize
  let short := fcfGetSrcAddressingMode octets == zbAddr16bitDevOrBroadcast
  if answers.authenticated then
    .octets begin_ 2 :: (if short then [.octets (aux + 5) 8] else []) ++
    -- without a short MAC source there is no ref, and ret is still RET_OK
    if short && !answers.addressUpdated then []
    else [.octets (begin_ + 4) 2, .value short] ++
      if answers.neighbor then nwkCheckedAccesses answers begin_ len hdrSize aux else []
  else []

/-- The frame is unsecured. -/
def nwkUnsecured (answers : Answers) (octets : Octets) (begin_ len : ℕ) : Bool :=
  let short := fcfGetSrcAddressingMode octets == zbAddr16bitDevOrBroadcast
  answers.authenticated && (!short || answers.addressUpdated) && answers.neighbor &&
    answers.key && answers.fresh &&
    !decide (ushortSub len (nwkHdrSize (octets.cut begin_)) < Ccm.ccmM) && answers.authentic

/-- The frame has a MAC source with a short address, and its NWK header fits up to the octet
of the auxiliary header that is read last. -/
def NwkUnsecureFits (answers : Answers) (octets : Octets) (begin_ len : ℕ) : Prop :=
  answers.authenticated = true →
    fcfGetSrcAddressingMode octets = zbAddr16bitDevOrBroadcast ∧
      nwkHdrSize (octets.cut begin_) ≤
        len + if answers.addressUpdated && answers.neighbor then 0 else 1

theorem nwkHdrSize_le (p : Octets) : 8 ≤ nwkHdrSize p := by
  unfold nwkHdrSize
  omega

theorem nwkHdrSize_secured {p : Octets} (secured : nwkFramectlGetSecurity p = true) :
    22 ≤ nwkHdrSize p := by
  unfold nwkHdrSize nwkAuxFrameHdrSize
  rw [if_pos secured]
  omega

theorem nwkCheckedAccesses_within {answers : Answers} {begin_ len hdrSize aux : ℕ}
    (short : len < 256) (place : aux + 14 = begin_ + hdrSize) (behind : begin_ ≤ aux) :
    Within (begin_ + len) (nwkCheckedAccesses answers begin_ len hdrSize aux) ↔ hdrSize ≤ len := by
  constructor
  · intro within
    have last : aux + 13 + 1 ≤ begin_ + len := within (.octets (aux + 13) 1) (List.mem_cons_self ..)
    omega
  · intro fits
    have payloadSize := ushortSub_eq short fits
    simp only [nwkCheckedAccesses, within_cons, octets_within, payloadSize]
    refine ⟨by omega, ?_⟩
    split
    · simp only [within_cons, octets_within]
      refine ⟨by omega, ?_⟩
      split
      · simp only [within_cons, minus_within]
        refine ⟨fits, ?_⟩
        split
        · exact within_nil
        · next enough =>
          simp only [within_append, within_cons, octets_within, within_nil, and_true]
          refine ⟨⟨⟨by omega, by omega, by omega⟩, ?_⟩, ?_⟩
          · exact (ccmDecryptAccesses_within (by omega) (by omega) (Nat.le_refl _)).mpr (by omega)
          · split
            · simp
            · exact within_nil
      · exact within_nil
    · exact within_nil

theorem nwkUnsecureAccesses_within {answers : Answers} {octets : Octets} {begin_ len : ℕ}
    (short : len < 256) (secured : nwkFramectlGetSecurity (octets.cut begin_) = true)
    (radius : 7 ≤ len) :
    Within (begin_ + len) (nwkUnsecureAccesses answers octets begin_ len) ↔
      NwkUnsecureFits answers octets begin_ len := by
  have hdrSize := nwkHdrSize_secured secured
  unfold nwkUnsecureAccesses NwkUnsecureFits nwkAuxFrameHdrSize
  generalize nwkHdrSize (octets.cut begin_) = size at *
  have checked : Within (begin_ + len)
      (nwkCheckedAccesses answers begin_ len size (begin_ + size - 14)) ↔ size ≤ len :=
    nwkCheckedAccesses_within short (by omega) (by omega)
  by_cases authenticated : answers.authenticated = true
  · by_cases mode : fcfGetSrcAddressingMode octets = zbAddr16bitDevOrBroadcast
    · cases answers.addressUpdated <;> cases answers.neighbor <;>
        simp [authenticated, mode, checked] <;> omega
    · simp [authenticated, mode]
  · simp [authenticated]

/-! ## APS -/

def apsFcGetAckFormat (fc : UInt8) : UInt8 := fc >>> 4 &&& 1

/-- The octets that `zb_aps_hdr_parse` reads of the APS header at `begin_`. -/
def apsHdrScan (fc : UInt8) (begin_ : ℕ) : Scan :=
  let s := (Scan.start begin_).next 1
  let s := if apsFcGetAckFormat fc = 0 then
      let s := if apsFcGetDeliveryMode fc ≠ apsDeliveryGroup then s.next 1 else s.next 2
      ((s.next 2).next 2).next 1
    else s
  s.next 1

/-- The size of the header as it is parsed, of command frames too. -/
def apsParsedSize (fc : UInt8) : ℕ :=
  if apsFcGetAckFormat fc = 0 then
    if apsFcGetDeliveryMode fc ≠ apsDeliveryGroup then 8 else 9
  else 2

theorem apsHdrScan_ptr (fc : UInt8) (begin_ : ℕ) :
    (apsHdrScan fc begin_).ptr = begin_ + apsParsedSize fc := by
  unfold apsHdrScan apsParsedSize
  dsimp only
  split
  · split <;> rfl
  · rfl

theorem apsHdrScan_covers (fc : UInt8) (begin_ : ℕ) : (apsHdrScan fc begin_).Covers begin_ := by
  have control : ((Scan.start begin_).next 1).Covers begin_ := Scan.covers_start.next 1
  unfold apsHdrScan
  dsimp only
  split
  · split
    · exact ((((control.next _).next _).next _).next _).next _
    · exact ((((control.next _).next _).next _).next _).next _
  · exact control.next _

/-- `zb_aps_hdr_parse` of a frame that begins with its NWK header at `begin_`. -/
def apsHdrParseAccesses (fc : UInt8) (begin_ len hdrSize : ℕ) : List Access :=
  [.octets (begin_ + 4) 2, .octets (begin_ + 2) 2, .octets begin_ 2, .minus len hdrSize] ++
    (apsHdrScan fc (begin_ + hdrSize)).accesses

/-- `zb_aps_unsecure_frame`: `begin_` is the offset of the APS header and `len` the length from
there on. -/
def apsUnsecureAccesses (answers : Answers) (octets : Octets) (begin_ len : ℕ) : List Access :=
  let aux := begin_ + apsHdrSize (octets begin_)
  let aSize := apsHdrSize (octets begin_) + 6
  if answers.apsAddress then
    [.octets begin_ 1, .octets aux 1, .octets aux 1] ++
    -- data keys are not implemented: there is no key
    if securAuxHdrGetKeyType (octets aux) = securDataKey then []
    else
      [.octets (aux + 5) 1, .value true] ++
      if answers.apsNeighbor then
        .octets (aux + 1) 4 ::
        if answers.apsFresh && answers.apsKey then
          [.value true, .octets (aux + 1) 4, .octets aux 1, .minus len aSize] ++
            ccmDecryptAccesses begin_ len aSize (ushortSub len aSize)
        else []
      else []
  else []

/-- The auxiliary header fits as far as its octets are read; where the frame is decrypted the
tag fits behind it, in what is left of the frame. -/
def ApsUnsecureFits (answers : Answers) (octets : Octets) (begin_ len frameLen : ℕ) : Prop :=
  let aux := begin_ + apsHdrSize (octets begin_)
  answers.apsAddress = true →
    if securAuxHdrGetKeyType (octets aux) = securDataKey then aux + 1 ≤ frameLen
    else if answers.apsNeighbor && answers.apsFresh && answers.apsKey then
      apsHdrSize (octets begin_) + 6 + Ccm.ccmM ≤ len
    else aux + 6 ≤ frameLen

theorem apsUnsecureAccesses_within {answers : Answers} {octets : Octets} {begin_ len frameLen : ℕ}
    (short : len < 256) (inside : begin_ + len ≤ frameLen) :
    Within frameLen (apsUnsecureAccesses answers octets begin_ len) ↔
      ApsUnsecureFits answers octets begin_ len frameLen := by
  unfold apsUnsecureAccesses ApsUnsecureFits
  have decrypts : ∀ size, size + 6 ≤ len →
      (Within frameLen (ccmDecryptAccesses begin_ len (size + 6) (ushortSub len (size + 6))) ↔
        Ccm.ccmM ≤ len - (size + 6)) := by
    intro size fits
    rw [ushortSub_eq short fits]
    exact ccmDecryptAccesses_within (by omega) (by omega) inside
  generalize apsHdrSize (octets begin_) = size
  cases answers.apsAddress with
  | false => simp
  | true =>
    by_cases dataKey : securAuxHdrGetKeyType (octets (begin_ + size)) = securDataKey
    · simp [dataKey]
      omega
    · by_cases fits : size + 6 ≤ len
      · cases answers.apsNeighbor <;> cases answers.apsFresh <;> cases answers.apsKey <;>
          simp [dataKey, fits, decrypts size fits] <;> omega
      · cases answers.apsNeighbor <;> cases answers.apsFresh <;> cases answers.apsKey <;>
          simp [dataKey, fits] <;> omega

/-- `zb_nlde_data_indication` and its continuation; `begin_` is the offset of the NWK header, its
size is `hdrSize`, and `len` the length from there on. -/
def nldeDataIndicationAccesses (config : Config) (answers : Answers) (octets : Octets)
    (begin_ len hdrSize : ℕ) : List Access :=
  let fc := octets (begin_ + hdrSize)
  [.octets begin_ 2, .octets (begin_ + hdrSize) 1] ++
    apsHdrParseAccesses fc begin_ len hdrSize ++
    if apsFcGetFrameType fc ≠ apsFrameAck ∧ answers.dup = false ∧
        config.apsFrameSecurity = true ∧ apsFcGetSecurity fc = true then
      apsUnsecureAccesses answers octets (begin_ + hdrSize) (bufCut len hdrSize)
    else []

/-- The APS header fits as it is parsed, and a secured frame can be unsecured. -/
def ApsFits (config : Config) (answers : Answers) (octets : Octets)
    (begin_ len hdrSize frameLen : ℕ) : Prop :=
  let fc := octets (begin_ + hdrSize)
  hdrSize ≤ len ∧ begin_ + hdrSize + apsParsedSize fc ≤ frameLen ∧
    (apsFcGetFrameType fc ≠ apsFrameAck ∧ answers.dup = false ∧
        config.apsFrameSecurity = true ∧ apsFcGetSecurity fc = true →
      ApsUnsecureFits answers octets (begin_ + hdrSize) (len - hdrSize) frameLen)

theorem apsHdrParseAccesses_within {fc : UInt8} {begin_ len hdrSize frameLen : ℕ}
    (header : 8 ≤ hdrSize) (inside : begin_ + len ≤ frameLen) :
    Within frameLen (apsHdrParseAccesses fc begin_ len hdrSize) ↔
      hdrSize ≤ len ∧ begin_ + hdrSize + apsParsedSize fc ≤ frameLen := by
  simp only [apsHdrParseAccesses, within_append, within_cons, octets_within, minus_within,
    within_nil, and_true]
  by_cases fits : hdrSize ≤ len
  · rw [apsHdrScan_covers fc _ frameLen (by omega), apsHdrScan_ptr]
    omega
  · omega

theorem nldeDataIndicationAccesses_within {config : Config} {answers : Answers} {octets : Octets}
    {begin_ len hdrSize frameLen : ℕ} (short : len < 256) (header : 8 ≤ hdrSize)
    (inside : begin_ + len ≤ frameLen) :
    Within frameLen (nldeDataIndicationAccesses config answers octets begin_ len hdrSize) ↔
      ApsFits config answers octets begin_ len hdrSize frameLen := by
  have parsed : 2 ≤ apsParsedSize (octets (begin_ + hdrSize)) := by
    unfold apsParsedSize
    split <;> [(split <;> omega); omega]
  simp only [nldeDataIndicationAccesses, ApsFits, within_append, within_cons, octets_within,
    within_nil, and_true, apsHdrParseAccesses_within header inside]
  by_cases fits : hdrSize ≤ len
  · rw [bufCut_eq short fits]
    have unsecured : Within frameLen
        (apsUnsecureAccesses answers octets (begin_ + hdrSize) (len - hdrSize)) ↔
          ApsUnsecureFits answers octets (begin_ + hdrSize) (len - hdrSize) frameLen :=
      apsUnsecureAccesses_within (by omega) (by omega)
    split
    · next secured =>
      rw [unsecured, imp_iff_right secured]
      constructor
      · rintro ⟨⟨_, header⟩, rest⟩
        exact ⟨header.1, header.2, rest⟩
      · rintro ⟨fits, parsed, rest⟩
        exact ⟨⟨⟨by omega, by omega⟩, fits, parsed⟩, rest⟩
    · next plain =>
      constructor
      · rintro ⟨⟨_, header⟩, _⟩
        exact ⟨header.1, header.2, fun secured => absurd secured plain⟩
      · rintro ⟨fits, parsed, _⟩
        exact ⟨⟨⟨by omega, by omega⟩, fits, parsed⟩, within_nil⟩
  · refine ⟨?_, fun header => absurd header.1 fits⟩
    rintro ⟨⟨_, header⟩, _⟩
    exact absurd header.1 fits

/-! ## The frame -/

/-- The sequence number of a broadcast is compared with those of the same source, and stored
where there is room. -/
def seqNumberUsed (config : Config) (answers : Answers) (p : Octets) : Bool :=
  config.routerRole && !config.joinedPro && answers.brrt.any (·.1 == nwkSrcAddr p) ||
    answers.btt.any (·.1 == nwkSrcAddr p) || !answers.bttFull

/-- The broadcast was not handled before, and there is room to remember it. -/
def broadcastNew (answers : Answers) (p : Octets) : Bool :=
  !answers.btt.contains (nwkSrcAddr p, p 7) && !answers.bttFull

/-- The octets of `zb_mcps_data_indication` before the frame is unsecured: NWK control field,
radius and addresses, and the sequence number of a broadcast where it is compared or
stored. -/
def nwkHeaderAccesses (config : Config) (answers : Answers) (p : Octets) (begin_ : ℕ) :
    List Access :=
  [.octets begin_ 2, .octets (begin_ + 6) 1] ++
    if validNwkHeader p then
      [.octets (begin_ + 2) 2, .octets (begin_ + 4) 2] ++
        if nwkIsAddressBroadcast (nwkDstAddr p) && broadcastSupported config (nwkDstAddr p) &&
            seqNumberUsed config answers p then
          [.octets (begin_ + 7) 1]
        else []
    else []

/-- The rest of `zb_mcps_data_indication`: the addresses and the radius are written in place, and
a data frame for this device goes to APS. -/
def deliverAccesses (config : Config) (answers : Answers) (p octets : Octets) (begin_ len : ℕ) :
    List Access :=
  [.octets (begin_ + 2) 4, .octets (begin_ + 6) 1] ++
    if indicated config p then
      nldeDataIndicationAccesses config answers octets begin_ len (nwkHdrSize p)
    else []

/-- A frame that is handled is unsecured if it is secured, and delivered. -/
def handleAccesses (config : Config) (answers : Answers) (octets : Octets) (begin_ len : ℕ) :
    List Access :=
  let p := octets.cut begin_
  if nwkFramectlGetSecurity p then
    nwkUnsecureAccesses answers octets begin_ len ++
      if nwkUnsecured answers octets begin_ len then
        deliverAccesses config answers p answers.plain begin_ (bufCut len Ccm.ccmM)
      else []
  else deliverAccesses config answers p octets begin_ len

/-- `zb_mcps_data_indication`. -/
def mcpsDataIndicationAccesses (config : Config) (answers : Answers) (frame : RxFrame) :
    List Access :=
  let begin_ := (parseMhr frame.octets).size
  let p := frame.octets.cut begin_
  let len := bufCut frame.len begin_
  (parseMhrScan frame.octets).accesses ++ .minus frame.len begin_ ::
    nwkHeaderAccesses config answers p begin_ ++
    if admits config (broadcastNew answers p) p then
      handleAccesses config answers frame.octets begin_ len
    else []

/-- `zb_mac_parse_recv_data`, and what it leads to for a data frame. -/
def macParseRecvDataAccesses (config : Config) (answers : Answers) (frame : RxFrame) :
    List Access :=
  (parseMhrScan frame.octets).accesses ++
    if answers.accepted then mcpsDataIndicationAccesses config answers frame else []

/-- A frame for APS fits as far as APS parses it. -/
def DeliveryFits (config : Config) (answers : Answers) (p octets : Octets)
    (begin_ len frameLen : ℕ) : Prop :=
  indicated config p = true →
    ApsFits config answers octets begin_ len (nwkHdrSize p) frameLen

/-- A secured frame fits as far as it is unsecured, and what is delivered fits. -/
def HandlingFits (config : Config) (answers : Answers) (octets : Octets) (begin_ len : ℕ) : Prop :=
  let p := octets.cut begin_
  if nwkFramectlGetSecurity p then
    NwkUnsecureFits answers octets begin_ len ∧
      (nwkUnsecured answers octets begin_ len = true →
        DeliveryFits config answers p answers.plain begin_ (len - Ccm.ccmM) (begin_ + len))
  else DeliveryFits config answers p octets begin_ len (begin_ + len)

/-- The frame is as long as its headers say, as far as they are used.  The NWK header before the
frame is unsecured: up to the radius, with the sequence number where it is used. -/
def HeadersFit (config : Config) (answers : Answers) (frame : RxFrame) : Prop :=
  let begin_ := (parseMhr frame.octets).size
  let p := frame.octets.cut begin_
  let len := frame.len - begin_
  begin_ ≤ frame.len ∧ (answers.accepted = true →
    7 ≤ len ∧
    (validNwkHeader p = true → nwkIsAddressBroadcast (nwkDstAddr p) = true →
      broadcastSupported config (nwkDstAddr p) = true → seqNumberUsed config answers p = true →
      8 ≤ len) ∧
    (admits config (broadcastNew answers p) p = true →
      HandlingFits config answers frame.octets begin_ len))

theorem deliverAccesses_within {config : Config} {answers : Answers} {p octets : Octets}
    {begin_ len frameLen : ℕ} (short : len < 256) (inside : begin_ + len ≤ frameLen)
    (radius : begin_ + 7 ≤ frameLen) :
    Within frameLen (deliverAccesses config answers p octets begin_ len) ↔
      DeliveryFits config answers p octets begin_ len frameLen := by
  have fields : begin_ + 2 + 4 ≤ frameLen ∧ begin_ + 6 + 1 ≤ frameLen := ⟨by omega, by omega⟩
  simp only [deliverAccesses, DeliveryFits, within_append, within_cons, octets_within, within_nil,
    and_true, fields, true_and]
  split
  · next up =>
    rw [imp_iff_right up]
    exact nldeDataIndicationAccesses_within short (nwkHdrSize_le p) inside
  · next dropped => exact ⟨fun _ up => absurd up dropped, fun _ => within_nil⟩

theorem nwkHeaderAccesses_within {config : Config} {answers : Answers} {p : Octets}
    {begin_ frameLen : ℕ} (inside : begin_ ≤ frameLen) :
    Within frameLen (nwkHeaderAccesses config answers p begin_) ↔
      7 ≤ frameLen - begin_ ∧
      (validNwkHeader p = true → nwkIsAddressBroadcast (nwkDstAddr p) = true →
        broadcastSupported config (nwkDstAddr p) = true → seqNumberUsed config answers p = true →
        8 ≤ frameLen - begin_) := by
  unfold nwkHeaderAccesses
  by_cases valid : validNwkHeader p = true
  · cases nwkIsAddressBroadcast (nwkDstAddr p) <;>
      cases broadcastSupported config (nwkDstAddr p) <;>
      cases seqNumberUsed config answers p <;> simp [valid] <;> omega
  · simp [valid]
    omega

theorem handleAccesses_within {config : Config} {answers : Answers} {octets : Octets}
    {begin_ len : ℕ} (short : len < 256) (radius : 7 ≤ len) :
    Within (begin_ + len) (handleAccesses config answers octets begin_ len) ↔
      HandlingFits config answers octets begin_ len := by
  unfold handleAccesses HandlingFits
  dsimp only
  split
  · next secured =>
    rw [within_append, nwkUnsecureAccesses_within short secured radius]
    split
    · next unsecured =>
      have cut : bufCut len Ccm.ccmM = len - Ccm.ccmM :=
        bufCut_eq short (by unfold Ccm.ccmM; omega)
      rw [cut, deliverAccesses_within (by omega) (by omega) (by omega), imp_iff_right unsecured]
    · next dropped => simp [dropped]
  · exact deliverAccesses_within short (Nat.le_refl _) (by omega)

theorem mcpsDataIndicationAccesses_within {config : Config} {answers : Answers} {frame : RxFrame}
    (short : frame.len ≤ maxPhyPacketSize) (accepted : answers.accepted = true) :
    Within frame.len (mcpsDataIndicationAccesses config answers frame) ↔
      HeadersFit config answers frame := by
  have mac := parseMhrScan_covers frame.octets frame.len (Nat.zero_le _)
  rw [parseMhrScan_ptr] at mac
  have below : frame.len < 256 := short.trans_lt (by decide)
  simp only [mcpsDataIndicationAccesses, HeadersFit, within_append, within_cons, minus_within, mac]
  by_cases fits : (parseMhr frame.octets).size ≤ frame.len
  · generalize (parseMhr frame.octets).size = begin_ at *
    rw [bufCut_eq below fits, nwkHeaderAccesses_within fits, imp_iff_right accepted]
    have handled : 7 ≤ frame.len - begin_ →
        (Within (begin_ + (frame.len - begin_))
            (handleAccesses config answers frame.octets begin_ (frame.len - begin_)) ↔
          HandlingFits config answers frame.octets begin_ (frame.len - begin_)) :=
      handleAccesses_within (by omega)
    rw [Nat.add_sub_cancel' fits] at handled
    constructor
    · rintro ⟨⟨-, -, radius, seqNumber⟩, rest⟩
      refine ⟨fits, radius, seqNumber, fun handles => (handled radius).mp ?_⟩
      rwa [if_pos handles] at rest
    · rintro ⟨-, radius, seqNumber, rest⟩
      refine ⟨⟨fits, fits, radius, seqNumber⟩, ?_⟩
      split
      · next handles => exact (handled radius).mpr (rest handles)
      · exact within_nil
  · exact ⟨fun all => absurd all.1.1 fits, fun all => absurd all.1 fits⟩

/-- **Received bytes are parsed within bounds** exactly when the frame is as long as its headers
say, as far as they are used, and a frame that is unsecured has a short MAC source. -/
theorem parse_within_iff (config : Config) (answers : Answers) (frame : RxFrame)
    (short : frame.len ≤ maxPhyPacketSize) :
    Within frame.len (macParseRecvDataAccesses config answers frame) ↔
      HeadersFit config answers frame := by
  have mac := parseMhrScan_covers frame.octets frame.len (Nat.zero_le _)
  rw [parseMhrScan_ptr] at mac
  unfold macParseRecvDataAccesses
  rw [within_append, mac]
  split
  · next accepted =>
    rw [mcpsDataIndicationAccesses_within short accepted]
    exact ⟨fun all => all.2, fun all => ⟨all.1, all⟩⟩
  · next dropped =>
    exact ⟨fun all => ⟨all.1, fun accepted => absurd accepted dropped⟩,
      fun all => ⟨all.1, within_nil⟩⟩

/-- A device that has joined, and knows nothing of the sender. -/
def strangerConfig : Config := ⟨true, true, false, true, 0x1234, AddressTable.IeeeAddr.zero⟩

@[inherit_doc strangerConfig] def strangerAnswers : Answers :=
  ⟨true, [], [], false, true, true, false, false, false, false, .ofList [], false, false, false,
    false, false⟩

/-- An application frame of 20 octets behind a MAC header with short addresses. -/
def applicationFrame : RxFrame where
  octets := .ofList [0x41, 0x88, 1, 0, 0, 0x34, 0x12, 0, 0, 0x08, 0, 0x34, 0x12, 0, 0, 30, 7, 0,
    1, 6, 0, 4, 1, 1, 42]
  len := 25

theorem parse_within_applicationFrame :
    HeadersFit strangerConfig strangerAnswers applicationFrame :=
  (parse_within_iff strangerConfig strangerAnswers applicationFrame (by decide)).mp (by decide)

/-- A secured NWK frame to everybody behind a MAC header with a long source. -/
def longSourceFrame : RxFrame where
  octets := .ofList [0x41, 0xC8, 1, 0, 0, 0xFF, 0xFF, 1, 2, 3, 4, 5, 6, 7, 8, 0x08, 2, 0xFF,
    0xFF, 0, 0, 30, 7]
  len := 41

/-- It is checked with an address ref that was not assigned. -/
theorem longSource_unassigned :
    ¬∀ (config : Config) (answers : Answers) (frame : RxFrame), frame.len ≤ maxPhyPacketSize →
      Within frame.len (macParseRecvDataAccesses config answers frame) := by
  intro claim
  have within := claim strangerConfig strangerAnswers longSourceFrame (by decide)
  exact absurd within (by decide)

end Zboss.ParseBounds
