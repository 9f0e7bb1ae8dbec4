import Zboss.Aps.AckData

/-!
The APS header codec.  The builders, the parser and the size macro each have their own rule for
which fields a header has.  Builder and parser agree on every frame that is sent; the size goes
by the type of the frame where the parser goes by the acknowledgement format, so the two agree
where exactly commands have that format.
-/

namespace Zboss.Aps

open Zboss.CommandFrames (le16_shortOctets)
open Zboss.DynamicTables (BufRef)
open Zboss.FrameHeaders

variable {req : ApsdeDataReq} {apsCounter : UInt8} {aux : Option AuxHdr} {payload : List UInt8}
  {old : ApsHdr} {srcAddr dstAddr : UInt16}

theorem ofList_zero (octet : UInt8) (rest : List UInt8) : Octets.ofList (octet :: rest) 0 = octet :=
  rfl

/-! ## The three kinds of header -/

section
variable {p : Octets}

theorem apsHdrParse_short (format : apsFcGetAckFormat (p 0) = true) :
    apsHdrParse old srcAddr dstAddr p =
      ({ old with fc := p 0, srcAddr, dstAddr, srcEndpoint := 0xff, apsCounter := p 1 }, 2) := by
  rw [apsHdrParse, if_neg (ne_false_of_eq_true format)]

theorem apsHdrParse_unicast (format : apsFcGetAckFormat (p 0) = false)
    (mode : apsFcGetDeliveryMode (p 0) ≠ apsDeliveryGroup) :
    apsHdrParse old srcAddr dstAddr p =
      ({ old with
        fc := p 0, srcAddr, dstAddr, dstEndpoint := p 1, clusterid := p.le16 2
        profileid := p.le16 4, srcEndpoint := p 6, apsCounter := p 7 }, 8) := by
  rw [apsHdrParse, if_pos format]
  dsimp only
  rw [if_pos mode]

theorem apsHdrParse_group (format : apsFcGetAckFormat (p 0) = false)
    (mode : apsFcGetDeliveryMode (p 0) = apsDeliveryGroup) :
    apsHdrParse old srcAddr dstAddr p =
      ({ old with
        fc := p 0, srcAddr, dstAddr, groupAddr := p.le16 1, clusterid := p.le16 3
        profileid := p.le16 5, srcEndpoint := p 7, apsCounter := p 8 }, 9) := by
  rw [apsHdrParse, if_pos format]
  dsimp only
  rw [if_neg (not_not.mpr mode)]

end

/-! ## What is written is read -/

/-- What the receiver of a data request reads. -/
def ApsdeDataReq.hdr (req : ApsdeDataReq) (apsCounter : UInt8) (aux : Option AuxHdr) (old : ApsHdr)
    (srcAddr dstAddr : UInt16) : ApsHdr where
  fc := req.frameControl aux.isSome
  srcAddr := srcAddr
  dstAddr := dstAddr
  groupAddr := if req.addrMode = .groupEndpNotPresent16 then req.dstAddr else old.groupAddr
  dstEndpoint := if req.addrMode = .groupEndpNotPresent16 then old.dstEndpoint else req.dstEndpoint
  srcEndpoint := req.srcEndpoint
  clusterid := req.clusterid
  profileid := req.profileid
  apsCounter := apsCounter

/-- The octets that are written, field by field. -/
theorem apsDataHdrFillDatareq_unicast (other : req.addrMode ≠ .groupEndpNotPresent16) :
    apsDataHdrFillDatareq req apsCounter aux =
      req.frameControl aux.isSome :: req.dstEndpoint :: req.clusterid.toUInt8 ::
        (req.clusterid >>> 8).toUInt8 :: req.profileid.toUInt8 :: (req.profileid >>> 8).toUInt8 ::
          req.srcEndpoint :: apsCounter :: aux.elim [] AuxHdr.octets := by
  have mode := mt (req.frameControl_bits aux.isSome).2.1.mp other
  rw [apsDataHdrFillDatareq, if_neg mode]
  rfl

theorem apsDataHdrFillDatareq_group (group : req.addrMode = .groupEndpNotPresent16) :
    apsDataHdrFillDatareq req apsCounter aux =
      req.frameControl aux.isSome :: req.dstAddr.toUInt8 :: (req.dstAddr >>> 8).toUInt8 ::
        req.clusterid.toUInt8 :: (req.clusterid >>> 8).toUInt8 :: req.profileid.toUInt8 ::
          (req.profileid >>> 8).toUInt8 :: req.srcEndpoint :: apsCounter ::
            aux.elim [] AuxHdr.octets := by
  have mode := (req.frameControl_bits aux.isSome).2.1.mpr group
  rw [apsDataHdrFillDatareq, if_pos mode]
  rfl

/-- A data request is read as it was written, and all of it. -/
theorem apsHdrParse_fill (req : ApsdeDataReq) (apsCounter : UInt8) (aux : Option AuxHdr)
    (payload : List UInt8) (old : ApsHdr) (srcAddr dstAddr : UInt16) :
    apsHdrParse old srcAddr dstAddr
      (Octets.ofList (apsDataHdrFillDatareq req apsCounter aux ++ payload)) =
        (req.hdr apsCounter aux old srcAddr dstAddr, apsHdrSize (req.frameControl aux.isSome)) := by
  obtain ⟨data, mode, format, -, -⟩ := req.frameControl_bits aux.isSome
  have size := apsHdrSize.eq_1 (req.frameControl aux.isSome)
  rw [if_neg (by rw [data]; decide)] at size
  rw [size]
  by_cases group : req.addrMode = .groupEndpNotPresent16
  · have mode := mode.mpr group
    rw [apsDataHdrFillDatareq_group group]
    generalize is : Octets.ofList _ = p
    have zero : p 0 = req.frameControl aux.isSome := by rw [← is]; rfl
    have first : p.le16 1 = req.dstAddr := by rw [← is]; exact le16_shortOctets rfl rfl
    have second : p.le16 3 = req.clusterid := by rw [← is]; exact le16_shortOctets rfl rfl
    have third : p.le16 5 = req.profileid := by rw [← is]; exact le16_shortOctets rfl rfl
    have fourth : p 7 = req.srcEndpoint := by rw [← is]; rfl
    have fifth : p 8 = apsCounter := by rw [← is]; rfl
    rw [apsHdrParse_group (by rw [zero, format]) (by rw [zero, mode]), zero, first, second, third,
      fourth, fifth, ApsdeDataReq.hdr, if_pos group, if_pos group, if_pos mode]
  · have mode := mt mode.mp group
    rw [apsDataHdrFillDatareq_unicast group]
    generalize is : Octets.ofList _ = p
    have zero : p 0 = req.frameControl aux.isSome := by rw [← is]; rfl
    have first : p 1 = req.dstEndpoint := by rw [← is]; rfl
    have second : p.le16 2 = req.clusterid := by rw [← is]; exact le16_shortOctets rfl rfl
    have third : p.le16 4 = req.profileid := by rw [← is]; exact le16_shortOctets rfl rfl
    have fourth : p 6 = req.srcEndpoint := by rw [← is]; rfl
    have fifth : p 7 = apsCounter := by rw [← is]; rfl
    rw [apsHdrParse_unicast (by rw [zero, format]) (by rwa [zero]), zero, first, second, third,
      fourth, fifth, ApsdeDataReq.hdr, if_neg group, if_neg group, if_neg mode]

/-- What is cut is the header and the auxiliary header. -/
theorem apsFullHdrSize_fill (req : ApsdeDataReq) (apsCounter : UInt8) (aux : Option AuxHdr)
    (payload : List UInt8) :
    apsFullHdrSize (Octets.ofList (apsDataHdrFillDatareq req apsCounter aux ++ payload)) =
      (apsDataHdrFillDatareq req apsCounter aux).length := by
  obtain ⟨data, mode, -, secured, -⟩ := req.frameControl_bits aux.isSome
  have size := apsHdrSize.eq_1 (req.frameControl aux.isSome)
  rw [if_neg (by rw [data]; decide)] at size
  by_cases group : req.addrMode = .groupEndpNotPresent16
  · rw [apsDataHdrFillDatareq_group group]
    generalize is : Octets.ofList _ = p
    have zero : p 0 = req.frameControl aux.isSome := by rw [← is]; rfl
    have hdr : apsHdrSize (p 0) = 9 := by rw [zero, size, if_pos (mode.mpr group)]
    rw [apsFullHdrSize, hdr, zero, secured]
    cases aux with
    | none => rfl
    | some aux =>
      have control : p 9 = apsNwkStdSecurControl := by rw [← is]; rfl
      rw [control]
      rfl
  · rw [apsDataHdrFillDatareq_unicast group]
    generalize is : Octets.ofList _ = p
    have zero : p 0 = req.frameControl aux.isSome := by rw [← is]; rfl
    have hdr : apsHdrSize (p 0) = 8 := by rw [zero, size, if_neg (mt mode.mp group)]
    rw [apsFullHdrSize, hdr, zero, secured]
    cases aux with
    | none => rfl
    | some aux =>
      have control : p 8 = apsNwkStdSecurControl := by rw [← is]; rfl
      rw [control]
      rfl

/-- The parser reads as many octets as the size says exactly where commands have the
acknowledgement format and other frames have not. -/
theorem apsHdrParse_size_iff (old : ApsHdr) (srcAddr dstAddr : UInt16) (p : Octets) :
    (apsHdrParse old srcAddr dstAddr p).2 = apsHdrSize (p 0) ↔
      (apsFcGetFrameType (p 0) = apsFrameCommand ↔ apsFcGetAckFormat (p 0) = true) := by
  have long : apsFcGetAckFormat (p 0) = false → (apsHdrParse old srcAddr dstAddr p).2 =
      2 + (1 + (if apsFcGetDeliveryMode (p 0) = apsDeliveryGroup then 1 else 0) + 2 + 2 + 1) := by
    intro format
    by_cases mode : apsFcGetDeliveryMode (p 0) = apsDeliveryGroup
    · rw [apsHdrParse_group format mode, if_pos mode]
    · rw [apsHdrParse_unicast format mode, if_neg mode]
  have short : apsFcGetAckFormat (p 0) = true → (apsHdrParse old srcAddr dstAddr p).2 = 2 := by
    intro format
    rw [apsHdrParse_short format]
  rw [apsHdrSize]
  by_cases command : apsFcGetFrameType (p 0) = apsFrameCommand
  · rw [if_pos command]
    cases format : apsFcGetAckFormat (p 0) with
    | false =>
      rw [long format]
      simp [command]
    | true =>
      rw [short format]
      simp [command]
  · rw [if_neg command]
    cases format : apsFcGetAckFormat (p 0) with
    | false =>
      rw [long format]
      simp [command]
    | true =>
      rw [short format]
      simp [command]

/-! ## Acknowledgements -/

/-- What the sender reads of an acknowledgement. -/
theorem apsHdrParse_ack (hdr old : ApsHdr) (srcAddr dstAddr : UInt16) :
    let ack := (apsHdrParse old srcAddr dstAddr (Octets.ofList (apsAckHdr hdr))).1
    ack.srcAddr = srcAddr ∧ ack.apsCounter = hdr.apsCounter ∧
      (apsFcGetAckFormat ack.fc = true ↔ apsFcGetFrameType hdr.fc = apsFrameCommand) ∧
        (apsFcGetFrameType hdr.fc ≠ apsFrameCommand → ack.clusterid = hdr.clusterid ∧
          ack.dstEndpoint = hdr.srcEndpoint ∧ ack.srcEndpoint = hdr.dstEndpoint) := by
  by_cases command : apsFcGetFrameType hdr.fc = apsFrameCommand
  · have is : apsAckHdr hdr = [apsFcSetAckFormat apsFrameAck true, hdr.apsCounter] := by
      rw [apsAckHdr, decide_eq_true command, if_neg (by decide)]
      rfl
    have format : apsFcGetAckFormat (apsFcSetAckFormat apsFrameAck true) = true := by decide
    rw [is, apsHdrParse_short (by rw [ofList_zero, format]), ofList_zero]
    exact ⟨rfl, rfl, iff_of_true format command, fun data => absurd command data⟩
  · have is : apsAckHdr hdr = apsFcSetAckFormat apsFrameAck false :: hdr.srcEndpoint ::
        hdr.clusterid.toUInt8 :: (hdr.clusterid >>> 8).toUInt8 :: hdr.profileid.toUInt8 ::
          (hdr.profileid >>> 8).toUInt8 :: hdr.dstEndpoint :: [hdr.apsCounter] := by
      rw [apsAckHdr, decide_eq_false command, if_pos (by decide)]
      rfl
    have format : apsFcGetAckFormat (apsFcSetAckFormat apsFrameAck false) = false := by decide
    have mode : apsFcGetDeliveryMode (apsFcSetAckFormat apsFrameAck false) ≠ apsDeliveryGroup := by
      decide
    rw [is, apsHdrParse_unicast (by rw [ofList_zero, format]) (by rwa [ofList_zero]), ofList_zero]
    exact ⟨rfl, rfl, iff_of_false (ne_true_of_eq_false format) command,
      fun _ => ⟨le16_shortOctets rfl rfl, rfl, rfl⟩⟩

/-- A command is read as such. -/
theorem apsHdrParse_command (needAck : Bool) (apsCounter : UInt8) (aux : Option AuxHdr)
    (commandId : UInt8) (payload : List UInt8) (old : ApsHdr) (srcAddr dstAddr : UInt16) :
    let hdr := (apsHdrParse old srcAddr dstAddr
      (Octets.ofList (apsCommandHdr needAck apsCounter aux commandId ++ payload))).1
    apsFcGetFrameType hdr.fc = apsFrameCommand ∧ hdr.apsCounter = apsCounter := by
  have bits : ∀ needAck secured : Bool,
      let fc := apsFcSetCommand (if secured then apsFcSetSecurity 0 true else 0) needAck
      apsFcGetFrameType fc = apsFrameCommand ∧ apsFcGetAckFormat fc = true := by decide
  obtain ⟨command, format⟩ := bits needAck aux.isSome
  rw [apsCommandHdr, List.cons_append, List.cons_append, List.cons_append]
  rw [apsHdrParse_short (by rw [ofList_zero, format]), ofList_zero]
  exact ⟨command, rfl⟩

/-- The acknowledgement that the device at `receiver` makes of a frame, as its sender reads it. -/
def acknowledged (old old' : ApsHdr) (sender dst receiver : UInt16) (frame : List UInt8) : ApsHdr :=
  let hdr := (apsHdrParse old sender dst (Octets.ofList frame)).1
  (apsHdrParse old' receiver sender (Octets.ofList (apsAckHdr hdr))).1

/-- It is for the entry of a data request to that device, and for no frame of another counter or
to another device. -/
theorem acknowledged_data (req : ApsdeDataReq) (ent : RetransEnt) (param : BufRef)
    (apsCounter : UInt8) (aux : Option AuxHdr) (payload : List UInt8) (old old' : ApsHdr)
    (sender dst receiver : UInt16) (wants : req.wantsAck = true) :
    let ack := acknowledged old old' sender dst receiver
      (apsDataHdrFillDatareq req apsCounter aux ++ payload)
    ((req.entry ent param apsCounter).addr = receiver → ack.Acks (req.entry ent param apsCounter)) ∧
      ∀ other, ack.Acks other → other.apsCounter = apsCounter ∧ other.addr = receiver := by
  have group : req.addrMode ≠ .groupEndpNotPresent16 := by
    rw [ApsdeDataReq.wantsAck, Bool.and_eq_true, bne_iff_ne] at wants
    exact wants.2
  have data : apsFcGetFrameType (req.frameControl aux.isSome) ≠ apsFrameCommand := by
    rw [(req.frameControl_bits aux.isSome).1]
    decide
  dsimp only [acknowledged]
  rw [apsHdrParse_fill]
  obtain ⟨addr, counter, -, fields⟩ := apsHdrParse_ack (req.hdr apsCounter aux old sender dst) old'
    receiver sender
  obtain ⟨clusterid, dstEndpoint, srcEndpoint⟩ := fields data
  have endpoint : (req.hdr apsCounter aux old sender dst).dstEndpoint = req.dstEndpoint :=
    if_neg group
  constructor
  · intro ours
    exact ⟨ours.trans addr.symm, counter.symm,
      Or.inr ⟨clusterid.symm, dstEndpoint.symm,
        endpoint.symm.trans srcEndpoint.symm⟩⟩
  · intro other acks
    exact ⟨acks.2.1.trans counter, acks.1.trans addr⟩

/-- It is for the entry of a command to that device, and for no frame of another counter or to
another device. -/
theorem acknowledged_command (needAck : Bool) (apsCounter : UInt8) (aux : Option AuxHdr)
    (commandId : UInt8) (payload : List UInt8) (old old' : ApsHdr) (sender dst receiver : UInt16)
    (ent : RetransEnt) :
    let ack := acknowledged old old' sender dst receiver
      (apsCommandHdr needAck apsCounter aux commandId ++ payload)
    (ent.apsCounter = apsCounter → ent.addr = receiver → ack.Acks ent) ∧
      (ack.Acks ent → ent.apsCounter = apsCounter ∧ ent.addr = receiver) := by
  intro ack
  obtain ⟨command, same⟩ :=
    apsHdrParse_command needAck apsCounter aux commandId payload old sender dst
  obtain ⟨addr, counter, format, -⟩ := apsHdrParse_ack (apsHdrParse old sender dst
    (Octets.ofList (apsCommandHdr needAck apsCounter aux commandId ++ payload))).1 old' receiver
      sender
  rw [same] at counter
  refine ⟨?_, ?_⟩
  · intro number ours
    exact ⟨ours.trans addr.symm, number.trans counter.symm, Or.inl (format.mpr command)⟩
  · intro acks
    exact ⟨acks.2.1.trans counter, acks.1.trans addr⟩

/-! ## The codec -/

/-- What the codec is to do: a data request is read as it was written, as many octets of a packet
are read as the size says, cutting its header leaves the payload of a data request, and an
acknowledgement is for the entry of its frame and for none of another counter or address. -/
structure ApsHdrCodec (p : Octets) : Prop where
  fields : ∀ req apsCounter aux payload old srcAddr dstAddr,
    (apsHdrParse old srcAddr dstAddr
      (Octets.ofList (apsDataHdrFillDatareq req apsCounter aux ++ payload))).1 =
        req.hdr apsCounter aux old srcAddr dstAddr
  size : ∀ old srcAddr dstAddr, (apsHdrParse old srcAddr dstAddr p).2 = apsHdrSize (p 0)
  left : ∀ req apsCounter aux payload,
    let sent := apsDataHdrFillDatareq req apsCounter aux ++ payload
    sent.drop (apsFullHdrSize (Octets.ofList sent)) = payload
  dataAck : ∀ req ent param apsCounter aux payload old old' sender dst receiver,
    req.wantsAck = true →
      let ack := acknowledged old old' sender dst receiver
        (apsDataHdrFillDatareq req apsCounter aux ++ payload)
      ((req.entry ent param apsCounter).addr = receiver →
        ack.Acks (req.entry ent param apsCounter)) ∧
          ∀ other, ack.Acks other → other.apsCounter = apsCounter ∧ other.addr = receiver
  commandAck : ∀ needAck apsCounter aux commandId payload old old' sender dst receiver ent,
    let ack := acknowledged old old' sender dst receiver
      (apsCommandHdr needAck apsCounter aux commandId ++ payload)
    (ent.apsCounter = apsCounter → ent.addr = receiver → ack.Acks ent) ∧
      (ack.Acks ent → ent.apsCounter = apsCounter ∧ ent.addr = receiver)

/-- **The APS header codec** does so for exactly the packets whose frame control has the
acknowledgement format if it is that of a command and has not otherwise. -/
theorem apsHdr_codec_iff (p : Octets) :
    ApsHdrCodec p ↔
      (apsFcGetFrameType (p 0) = apsFrameCommand ↔ apsFcGetAckFormat (p 0) = true) := by
  constructor
  · intro codec
    exact (apsHdrParse_size_iff ⟨0, 0, 0, 0, 0, 0, 0, 0, 0⟩ 0 0 p).mp (codec.size _ 0 0)
  · intro format
    refine ⟨?_, ?_, ?_, acknowledged_data, acknowledged_command⟩
    · intro req apsCounter aux payload old srcAddr dstAddr
      rw [apsHdrParse_fill]
    · intro old srcAddr dstAddr
      exact (apsHdrParse_size_iff old srcAddr dstAddr p).mpr format
    · intro req apsCounter aux payload
      dsimp only
      rw [apsFullHdrSize_fill, List.drop_left]

/-- The acknowledgement of a command has two octets, and its size is taken for eight. -/
theorem apsHdrParse_commandAck :
    ¬ ApsHdrCodec (Octets.ofList (apsAckHdr ⟨apsFrameCommand, 1, 0, 0, 0, 0, 0, 0, 7⟩)) := by
  intro codec
  exact absurd (codec.size ⟨0, 0, 0, 0, 0, 0, 0, 0, 0⟩ 1 0) (by decide)

end Zboss.Aps
