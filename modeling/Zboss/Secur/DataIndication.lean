import Zboss.Nwk.FrameHeaders
import Zboss.Secur.Replay

/-!
How a received frame gets to the key state: from `zb_mcps_data_indication` through NWK
and APS to the commands that carry keys.  A layer unsecures a frame only when the frame
says it is secured, and the commands are handled without asking whether it was.  The
other NWK, APS and ZDO handlers leave the key state alone: the branch of
`zb_nlme_status_indication` that clears it after a security error is compiled out by
`ZB_DISABLE_REJOIN_AFTER_SEC_FAIL`.  What a handler sends, and what it does when that is
confirmed, are steps of their own.
-/

namespace Zboss.DataIndication

open Zboss.AddressTable (IeeeAddr)
open Zboss.FrameHeaders Zboss.KeyStore Zboss.Replay Zboss.Unsecure Zboss.Windows

/-! ## State -/

/-- What the build and the NIB settle: `APS_FRAME_SECURITY`, `ZB_ROUTER_ROLE`, then
`joined_pro`, `ZB_PIB_RX_ON_WHEN_IDLE` and the own addresses.  `secure_all_frames` is
read by senders only. -/
structure Config where
  apsFrameSecurity : Bool
  routerRole : Bool
  joinedPro : Bool
  rxOnWhenIdle : Bool
  networkAddress : UInt16
  extendedAddress : IeeeAddr

/-- A received frame, from its MAC header on, without the MAC trailer. -/
structure RxFrame where
  octets : Octets
  len : ℕ

/-- What the tables answer about the frame: whether its broadcast was seen or has no room
in the transaction table, the address refs and the room for their neighbour entries at
either layer, and whether APS saw it.  Then what decryption leaves in the buffer, and
the keys a trust centre would make. -/
structure Answers where
  btrSeen : Bool
  btrFull : Bool
  addrRef : Option ℕ
  room : Bool
  apsAddr : Option (ℕ × IeeeAddr)
  apsRoom : Bool
  dup : Bool
  nwkPlain : Octets
  apsPlain : Octets
  random : Key
  switchRandom : Key

/-- The key state after a frame with the neighbour entries as unsecuring leaves them, and
whether the frame was unsecured at either layer.  A plain frame counts in no entry, but
the handler of a command may drop one. -/
structure Processed where
  device : Device
  unsecured : Bool

/-! ## APS -/

def apsCmdTransportKey : UInt8 := 5

def apsCmdSwitchKey : UInt8 := 9

/-- The auxiliary header is behind the APS header. -/
def apsFrame (p : Octets) (len : ℕ) : ApsFrame :=
  let aux := apsHdrSize (p 0)
  { nwkKey := securAuxHdrGetKeyType (p aux) != securDataKey
    keySeqNumber := p (aux + 5)
    frameCounter := p.le32 (aux + 1)
    header := (p.set aux zbApsNwkStdSecurControl).slice 0 (aux + 6)
    payload := p.slice (aux + 6) (len - (aux + 6)) }

/-- The indication `zb_aps_in_transport_key` makes of a key descriptor. -/
def transportKeyDsc (p : Octets) : TransportKeyIndication where
  srcAddress := p.ieeeAddr 26
  keyType := p 0
  key := fun i => p (1 + i)
  keySeqNumber := p 17

/-- `zb_aps_in_transport_key`; a key for another device is sent on to it. -/
def apsInTransportKey (config : Config) (p : Octets) (s : KeyState) : KeyState :=
  if p 0 = zbStandardNetworkKey ∧
      (p.ieeeAddr 18 = config.extendedAddress ∨ p.ieeeAddr 18 = IeeeAddr.zero) then
    transportKeyIndication (transportKeyDsc p) s
  else s

/-- The offset of the command identifier, behind the auxiliary header if there is one. -/
def apsCommandHdrSize (config : Config) (p : Octets) : ℕ :=
  let aux := if config.apsFrameSecurity && apsFcGetSecurity (p 0) then apsSecurAuxSize (p 2) else 0
  (2 + aux).toNat

/-- `zb_aps_in_command_handle`: only builds without the router role handle SWITCH-KEY. -/
def apsInCommandHandle (config : Config) (p : Octets) (random : Key) (s : KeyState) : KeyState :=
  let cmdId := p (apsCommandHdrSize config p)
  let payload := p.cut (apsCommandHdrSize config p + 1)
  if cmdId = apsCmdTransportKey then
    if config.joinedPro then s else apsInTransportKey config payload s
  else if cmdId = apsCmdSwitchKey ∧ config.routerRole = false then
    nwkKeySwitch (payload 0) random s
  else s

def handleCommand (config : Config) (p : Octets) (random : Key) (d : Device) : Device :=
  if apsFcGetFrameType (p 0) = apsFrameCommand then
    { d with keys := apsInCommandHandle config p random d.keys }
  else d

/-- `zb_nlde_data_indication` and its continuation, with the NWK header cut. -/
def nldeDataIndication (decrypts : Decrypts) (config : Config) (answers : Answers) (p : Octets)
    (len : ℕ) (d : Device) : Processed :=
  if apsFcGetFrameType (p 0) = apsFrameAck ∨ answers.dup then ⟨d, false⟩
  else if config.apsFrameSecurity && apsFcGetSecurity (p 0) then
    let r := apsUnsecureFrame decrypts (apsFrame p len) answers.apsAddr answers.apsRoom d
    if r.ok then ⟨handleCommand config answers.apsPlain answers.switchRandom r.device, true⟩
    else ⟨r.device, false⟩
  else ⟨handleCommand config p answers.switchRandom d, false⟩

/-! ## NWK -/

/-- The auxiliary header is the last part of the NWK header. -/
def nwkFrame (mhr : MacMhr) (p : Octets) (len : ℕ) : NwkFrame :=
  let hdrSize := nwkHdrSize p
  let aux := hdrSize - nwkAuxFrameHdrSize
  { macSrcAddr := mhr.srcAddr
    nwkSrcAddr := nwkSrcAddr p
    sourceAddress := p.ieeeAddr (aux + 5)
    keySeqNumber := p (aux + 13)
    frameCounter := p.le32 (aux + 1)
    header := (p.set aux zbNwkStdSecurControl).slice 0 hdrSize
    payload := p.slice hdrSize (len - hdrSize) }

/-- The broadcast addresses a device listens to. -/
def broadcastSupported (config : Config) (dstAddr : UInt16) : Bool :=
  dstAddr == 0xFFFF || dstAddr == 0xFFFD && config.rxOnWhenIdle ||
    config.routerRole &&
      (dstAddr == 0xFFFC && !config.joinedPro || dstAddr == 0xFFFB && !config.joinedPro)

/-- The radius and the frame type are those of a data or command frame that may be handled. -/
def validNwkHeader (p : Octets) : Bool :=
  nwkRadius p != 0 && (nwkFramectlGetFrameType p == nwkFrameTypeCommand ||
    nwkFramectlGetFrameType p == nwkFrameTypeData)

/-- The checks before unsecuring; `new` says that a broadcast was not handled before, and that there
is room to remember it. -/
def admits (config : Config) (new : Bool) (p : Octets) : Bool :=
  validNwkHeader p && (!nwkIsAddressBroadcast (nwkDstAddr p) ||
    broadcastSupported config (nwkDstAddr p) && new)

@[inherit_doc admits] def admitted (config : Config) (answers : Answers) (p : Octets) : Bool :=
  admits config (!answers.btrSeen && !answers.btrFull) p

/-- The frame is for this device, and `nwk_frame_indication` hands it to APS. -/
def indicated (config : Config) (p : Octets) : Bool :=
  (nwkDstAddr p == config.networkAddress || nwkIsAddressBroadcast (nwkDstAddr p)) &&
    nwkFramectlGetFrameType p == nwkFrameTypeData

/-- `zb_mcps_data_indication` with the callbacks it schedules. -/
def mcpsDataIndication (decrypts : Decrypts) (config : Config) (answers : Answers)
    (frame : RxFrame) (d : Device) : Processed :=
  let mhr := parseMhr frame.octets
  let p := frame.octets.cut mhr.size
  let len := frame.len - mhr.size
  if admitted config answers p then
    if nwkFramectlGetSecurity p then
      let r := nwkUnsecureFrame decrypts (nwkFrame mhr p len) answers.addrRef answers.room
        answers.random d
      if r.ok then
        let device := if indicated config p then
          (nldeDataIndication decrypts config answers (answers.nwkPlain.cut (nwkHdrSize p))
            (len - nwkHdrSize p) r.device).device
        else r.device
        ⟨device, true⟩
      else ⟨r.device, false⟩
    else if indicated config p then
      nldeDataIndication decrypts config answers (p.cut (nwkHdrSize p)) (len - nwkHdrSize p) d
    else ⟨d, false⟩
  else ⟨d, false⟩

end Zboss.DataIndication
