import Zboss.Nwk.NeighborTable
import Zboss.Secur.Ccm
import Zboss.Secur.KeyStore

/-!
Unsecuring of received frames (`zb_nwk_unsecure_frame`, `zb_aps_unsecure_frame`).
Both take the key by the sequence number in the frame and check the frame counter
against the sender's neighbour entry, which the two layers share.  What the address
table answers, and whether the neighbour table has room, are arguments.
-/

namespace Zboss.Unsecure

open Zboss.AddressTable (IeeeAddr)
open Zboss.KeyStore
open Zboss.NeighborTable (Relationship)

def zbNwkStdSecurControl : UInt8 := (5 : UInt8) ||| (1 : UInt8) <<< 3 ||| (1 : UInt8) <<< 5

def zbApsNwkStdSecurControl : UInt8 := (5 : UInt8) ||| (1 : UInt8) <<< 3

/-- `zb_secur_ccm_nonce_t`. -/
structure CcmNonce where
  sourceAddress : IeeeAddr
  frameCounter : UInt32
  securControl : UInt8
  deriving DecidableEq

/-- `zb_ccm_decrypt_n_auth_stdsecur`: whether the tag is right under key and nonce, for
the header and the secured payload. -/
abbrev Decrypts := Key → CcmNonce → List UInt8 → List UInt8 → Bool

/-- A secured NWK frame: the MAC source, the NWK source, the auxiliary header, then the
header as it is authenticated and the secured payload. -/
structure NwkFrame where
  macSrcAddr : UInt16
  nwkSrcAddr : UInt16
  sourceAddress : IeeeAddr
  keySeqNumber : UInt8
  frameCounter : UInt32
  header : List UInt8
  payload : List UInt8

/-- A secured APS frame; the key identifier tells the network key from a data key. -/
structure ApsFrame where
  nwkKey : Bool
  keySeqNumber : UInt8
  frameCounter : UInt32
  header : List UInt8
  payload : List UInt8

/-- The security fields of `zb_neighbor_tbl_ent_t`. -/
structure NeighborSecur where
  relationship : Relationship
  incomingFrameCounter : UInt32
  keySeqNumber : UInt8
  deriving DecidableEq

/-- An entry as `zb_nwk_neighbor_get` creates it. -/
def NeighborSecur.created : NeighborSecur := ⟨.noneOfTheAbove, 0, 0⟩

/-- The key state with the neighbour entries, by address ref. -/
structure Device where
  keys : KeyState
  neighbors : ℕ → Option NeighborSecur

/-- What unsecuring leaves: the device, the slot whose key was used for decryption, and
whether the frame is accepted. -/
structure Unsecured where
  device : Device
  slot : Option Slot
  ok : Bool

/-! ## Neighbour entries -/

/-- `zb_nwk_neighbor_get`: the entry of a ref, created on request when there is room. -/
def neighborGet (addrRef : ℕ) (createIfAbsent room : Bool) (d : Device) : Option NeighborSecur :=
  match d.neighbors addrRef with
  | some nbe => some nbe
  | none => if createIfAbsent && room then some NeighborSecur.created else none

def Device.setNeighbor (addrRef : ℕ) (nbe : NeighborSecur) (d : Device) : Device :=
  { d with neighbors := Function.update d.neighbors addrRef (some nbe) }

/-- A child that sends a secured frame has to show its key again. -/
def NeighborSecur.doubtChild (nbe : NeighborSecur) : NeighborSecur :=
  if nbe.relationship = .child then { nbe with relationship := .unauthenticatedChild } else nbe

/-- The frame unsecured right: the child is authenticated. -/
def NeighborSecur.trustChild (nbe : NeighborSecur) : NeighborSecur :=
  if nbe.relationship = .unauthenticatedChild then { nbe with relationship := .child } else nbe

/-- The counter starts again when the peer's key number changes. -/
def NeighborSecur.followKey (keySeqNumber : UInt8) (nbe : NeighborSecur) : NeighborSecur :=
  if nbe.keySeqNumber ≠ keySeqNumber then
    { nbe with incomingFrameCounter := 0, keySeqNumber := keySeqNumber }
  else nbe

/-- The check of the frame counter, which also stores it. -/
def NeighborSecur.count (frameCounter : UInt32) (nbe : NeighborSecur) : Option NeighborSecur :=
  if nbe.incomingFrameCounter > frameCounter ∨ nbe.incomingFrameCounter = ~~~0 then none
  else some { nbe with incomingFrameCounter := frameCounter }

/-! ## The two layers -/

/-- `zb_nwk_unsecure_frame`; `addrRef` is what `zb_address_update` gives for the source
address and the MAC source. -/
def nwkUnsecureFrame (decrypts : Decrypts) (frame : NwkFrame) (addrRef : Option ℕ) (room : Bool)
    (random : Key) (d : Device) : Unsecured :=
  if d.keys.authenticated then
    match addrRef with
    | none => ⟨d, none, false⟩
    | some ref =>
      match neighborGet ref (frame.nwkSrcAddr == frame.macSrcAddr) room d with
      | none => ⟨d, none, false⟩
      | some nbe =>
        let nbe := nbe.doubtChild.followKey frame.keySeqNumber
        match slotBySeq frame.keySeqNumber d.keys with
        | none => ⟨d.setNeighbor ref nbe, none, false⟩
        | some i =>
          match nbe.count frame.frameCounter with
          | none => ⟨d.setNeighbor ref nbe, none, false⟩
          | some nbe =>
            if frame.payload.length < Ccm.ccmM then ⟨d.setNeighbor ref nbe, none, false⟩
            else if decrypts (d.keys.securMaterialSet i).key
                ⟨frame.sourceAddress, frame.frameCounter, zbNwkStdSecurControl⟩
                frame.header frame.payload then
              ⟨⟨implicitKeySwitch frame.keySeqNumber random d.keys,
                (d.setNeighbor ref nbe.trustChild).neighbors⟩, some i, true⟩
            else ⟨d.setNeighbor ref nbe, some i, false⟩
  else ⟨d, none, false⟩

/-- `zb_aps_unsecure_frame`; `addr` is the ref of the source's short address with the
IEEE address behind it. -/
def apsUnsecureFrame (decrypts : Decrypts) (frame : ApsFrame) (addr : Option (ℕ × IeeeAddr))
    (room : Bool) (d : Device) : Unsecured :=
  match addr with
  | none => ⟨d, none, false⟩
  | some (ref, sourceAddress) =>
    if frame.nwkKey then
      match neighborGet ref true room d with
      | none => ⟨d, none, false⟩
      | some nbe =>
        let slot := slotBySeq frame.keySeqNumber d.keys
        let nbe := if slot.isSome then nbe.followKey frame.keySeqNumber else nbe
        match nbe.count frame.frameCounter with
        | none => ⟨d.setNeighbor ref nbe, none, false⟩
        | some nbe =>
          match slot with
          | none => ⟨d.setNeighbor ref nbe, none, false⟩
          | some i =>
            ⟨d.setNeighbor ref nbe, some i,
              decrypts (d.keys.securMaterialSet i).key
                ⟨sourceAddress, frame.frameCounter, zbApsNwkStdSecurControl⟩
                frame.header frame.payload⟩
    -- data keys are not implemented: there is no key
    else ⟨d, none, false⟩

/-! ## What a frame can do -/

section Cases

variable {decrypts : Decrypts} {frame : NwkFrame} {addrRef : Option ℕ} {room : Bool}
  {random : Key} {d : Device} {i : Slot}

/-- A NWK frame is dropped before it reaches an entry; or it is checked against one, and
then rejected there, or counted and possibly decrypted. -/
theorem nwkUnsecureFrame_cases (decrypts : Decrypts) (frame : NwkFrame) (addrRef : Option ℕ)
    (room : Bool) (random : Key) (d : Device) :
    nwkUnsecureFrame decrypts frame addrRef room random d = ⟨d, none, false⟩ ∨
    ∃ ref nbe, d.keys.authenticated = true ∧ addrRef = some ref ∧
      neighborGet ref (frame.nwkSrcAddr == frame.macSrcAddr) room d = some nbe ∧
      (nwkUnsecureFrame decrypts frame addrRef room random d =
          ⟨d.setNeighbor ref (nbe.doubtChild.followKey frame.keySeqNumber), none, false⟩ ∨
        ∃ i counted, slotBySeq frame.keySeqNumber d.keys = some i ∧
          (nbe.doubtChild.followKey frame.keySeqNumber).count frame.frameCounter = some counted ∧
          ((∃ slot, (slot = none ∨ slot = some i) ∧
              nwkUnsecureFrame decrypts frame addrRef room random d =
                ⟨d.setNeighbor ref counted, slot, false⟩) ∨
            nwkUnsecureFrame decrypts frame addrRef room random d =
              ⟨⟨implicitKeySwitch frame.keySeqNumber random d.keys,
                (d.setNeighbor ref counted.trustChild).neighbors⟩, some i, true⟩)) := by
  by_cases authenticated : d.keys.authenticated = true
  · cases addrRef with
    | none =>
      left
      simp [nwkUnsecureFrame]
    | some ref =>
      cases got : neighborGet ref (frame.nwkSrcAddr == frame.macSrcAddr) room d with
      | none =>
        left
        simp [nwkUnsecureFrame, got]
      | some nbe =>
        refine .inr ⟨ref, nbe, authenticated, rfl, got, ?_⟩
        cases found : slotBySeq frame.keySeqNumber d.keys with
        | none =>
          left
          simp [nwkUnsecureFrame, authenticated, got, found]
        | some i =>
          cases counts : (nbe.doubtChild.followKey frame.keySeqNumber).count frame.frameCounter with
          | none =>
            left
            simp [nwkUnsecureFrame, authenticated, got, found, counts]
          | some counted =>
            refine .inr ⟨i, counted, rfl, rfl, ?_⟩
            simp only [nwkUnsecureFrame, authenticated, got, found, counts, if_true]
            split_ifs
            · exact .inl ⟨none, .inl rfl, rfl⟩
            · exact .inr rfl
            · exact .inl ⟨some i, .inr rfl, rfl⟩
  · left
    simp [nwkUnsecureFrame, authenticated]

/-- An APS frame likewise; without a key the counter still is checked, but not started
again. -/
theorem apsUnsecureFrame_cases (decrypts : Decrypts) (frame : ApsFrame)
    (addr : Option (ℕ × IeeeAddr)) (room : Bool) (d : Device) :
    apsUnsecureFrame decrypts frame addr room d = ⟨d, none, false⟩ ∨
    ∃ ref source nbe followed, addr = some (ref, source) ∧
      neighborGet ref true room d = some nbe ∧
      (followed = nbe.followKey frame.keySeqNumber ∨ followed = nbe) ∧
      (apsUnsecureFrame decrypts frame addr room d = ⟨d.setNeighbor ref followed, none, false⟩ ∨
        ∃ counted, followed.count frame.frameCounter = some counted ∧
          (apsUnsecureFrame decrypts frame addr room d =
              ⟨d.setNeighbor ref counted, none, false⟩ ∨
            ∃ i ok, slotBySeq frame.keySeqNumber d.keys = some i ∧
              followed = nbe.followKey frame.keySeqNumber ∧
              apsUnsecureFrame decrypts frame addr room d =
                ⟨d.setNeighbor ref counted, some i, ok⟩)) := by
  cases addr with
  | none => exact .inl rfl
  | some addr =>
    obtain ⟨ref, source⟩ := addr
    by_cases nwkKey : frame.nwkKey = true
    · cases got : neighborGet ref true room d with
      | none =>
        left
        simp [apsUnsecureFrame, got]
      | some nbe =>
        right
        cases found : slotBySeq frame.keySeqNumber d.keys with
        | none =>
          refine ⟨ref, source, nbe, nbe, rfl, got, .inr rfl, ?_⟩
          cases counts : nbe.count frame.frameCounter with
          | none =>
            left
            simp [apsUnsecureFrame, nwkKey, got, found, counts]
          | some counted =>
            refine .inr ⟨counted, rfl, .inl ?_⟩
            simp [apsUnsecureFrame, nwkKey, got, found, counts]
        | some i =>
          refine ⟨ref, source, nbe, _, rfl, got, .inl rfl, ?_⟩
          cases counts : (nbe.followKey frame.keySeqNumber).count frame.frameCounter with
          | none =>
            left
            simp [apsUnsecureFrame, nwkKey, got, found, counts]
          | some counted =>
            refine .inr ⟨counted, rfl, .inr
              ⟨i, (apsUnsecureFrame decrypts frame (some (ref, source)) room d).ok, rfl, rfl, ?_⟩⟩
            simp only [apsUnsecureFrame, nwkKey, got, found, counts, if_true, Option.isSome_some]
    · left
      simp [apsUnsecureFrame, nwkKey]

/-- A NWK frame is decrypted with the slot of its number, on an authenticated device. -/
theorem nwkUnsecureFrame_slot
    (used : (nwkUnsecureFrame decrypts frame addrRef room random d).slot = some i) :
    d.keys.authenticated = true ∧ slotBySeq frame.keySeqNumber d.keys = some i := by
  obtain dropped | ⟨ref, nbe, authenticated, -, -, rejected | ⟨j, counted, found, -, failed | ok⟩⟩ :=
    nwkUnsecureFrame_cases decrypts frame addrRef room random d
  · rw [dropped] at used
    contradiction
  · rw [rejected] at used
    contradiction
  · obtain ⟨slot, tried, failed⟩ := failed
    rw [failed] at used
    dsimp only at used
    obtain rfl | rfl := tried
    · contradiction
    · exact ⟨authenticated, used ▸ found⟩
  · rw [ok] at used
    exact ⟨authenticated, used ▸ found⟩

theorem apsUnsecureFrame_slot {frame : ApsFrame} {addr : Option (ℕ × IeeeAddr)}
    (used : (apsUnsecureFrame decrypts frame addr room d).slot = some i) :
    slotBySeq frame.keySeqNumber d.keys = some i := by
  obtain dropped | ⟨ref, source, nbe, followed, -, -, -, rejected | ⟨counted, -, cases_⟩⟩ :=
    apsUnsecureFrame_cases decrypts frame addr room d
  · rw [dropped] at used
    contradiction
  · rw [rejected] at used
    contradiction
  · obtain failed | ⟨j, ok, found, -, tried⟩ := cases_
    · rw [failed] at used
      contradiction
    · rw [tried] at used
      exact used ▸ found

end Cases

end Zboss.Unsecure
