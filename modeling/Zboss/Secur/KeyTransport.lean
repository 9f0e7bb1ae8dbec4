import Zboss.Nwk.NeighborTable
import Zboss.Secur.KeyStore

/-!
How the network key leaves a device (`apsme_secur.c`, `zdo_secur.c`).  A trust centre
sends it to joining children, to parents of joining devices, to the whole network for an
update and to devices that ask; a router relays it to its children.  The requests run as
scheduled callbacks, so the tables may change in between.
-/

namespace Zboss.KeyTransport

open Zboss.AddressTable (IeeeAddr)
open Zboss.KeyStore
open Zboss.NeighborTable (Relationship)

/-! ## State -/

/-- What the build and the NIB settle: `APS_FRAME_SECURITY`, `secure_all_frames`,
`security_level`, the device type, and the own address. -/
structure Config where
  apsFrameSecurity : Bool
  secureAllFrames : Bool
  securityLevel : ℕ
  isCoordinator : Bool
  extendedAddress : IeeeAddr

/-- A device in the address table: its short address and its neighbour entry, if any. -/
structure Entry where
  addr : UInt16
  relationship : Option Relationship
  deriving DecidableEq

/-- The destination of a request, by address mode. -/
inductive Dest
  | addr16 (addr : UInt16)
  | addr64 (addr : IeeeAddr)
  deriving DecidableEq

/-- `zb_apsme_transport_key_req_t` for a network key; `useParent` holds the parent's
address when the flag is set. -/
structure TransportKeyReq where
  dest : Dest
  useParent : Option IeeeAddr
  key : Key
  keySeqNumber : UInt8

/-- A TRANSPORT-KEY command that was sent off to NWK, with the devices known then. -/
structure Command where
  destAddr : UInt16
  key : Key
  keySeqNumber : UInt8
  securityEnable : Bool
  apsSecured : Bool
  devices : IeeeAddr → Option Entry

/-- A scheduled callback. -/
inductive Task
  | transportKeyRequest (req : TransportKeyReq)
  | nldeDataRequest (command : Command)

/-- A TRANSPORT-KEY command on the air. -/
structure Transport where
  command : Command
  nwkSecured : Bool

structure State where
  keys : KeyState
  devices : IeeeAddr → Option Entry
  scheduled : List Task
  transports : List Transport

/-- The octets of the empty key. -/
def emptyKey : Key := fun _ => 0

def nwkIsAddressBroadcast (addr : UInt16) : Bool := addr &&& 0xFFF0 == 0xFFF0

/-- `zb_address_short_by_ieee`; an unknown address gives the broadcast address. -/
def addressShortByIeee (ieeeAddress : IeeeAddr) (m : State) : UInt16 :=
  match m.devices ieeeAddress with
  | some entry => entry.addr
  | none => 0xFFFF

def schedule (task : Task) (m : State) : State := { m with scheduled := m.scheduled ++ [task] }

def setEntry (ieeeAddress : IeeeAddr) (entry : Option Entry) (m : State) : State :=
  { m with devices := Function.update m.devices ieeeAddress entry }

/-! ## Sending -/

/-- `zb_aps_send_command` for TRANSPORT-KEY.  APS takes the protection over only where
NWK does not protect all frames. -/
def apsSendCommand (config : Config) (destAddr : UInt16) (key : Key) (keySeqNumber : UInt8)
    (secure : Bool) (m : State) : State :=
  let apsSecured := config.apsFrameSecurity && secure && !config.secureAllFrames
  schedule (.nldeDataRequest
    ⟨destAddr, key, keySeqNumber, secure && !apsSecured, apsSecured, m.devices⟩) m

def apsmeTransportKeyRequest (config : Config) (req : TransportKeyReq) (m : State) : State :=
  match req.useParent with
  | some parentAddress =>
    apsSendCommand config (addressShortByIeee parentAddress m) req.key req.keySeqNumber true m
  | none =>
    match req.dest with
    | .addr16 addr =>
      apsSendCommand config addr req.key req.keySeqNumber (nwkIsAddressBroadcast addr) m
    | .addr64 addr =>
      apsSendCommand config (addressShortByIeee addr m) req.key req.keySeqNumber false m

/-- `zb_nlde_data_request`: NWK secures a frame on request, on an authenticated device. -/
def nldeDataRequest (config : Config) (command : Command) (m : State) : State :=
  { m with transports := m.transports ++ [⟨command, command.securityEnable &&
      m.keys.authenticated && config.secureAllFrames && decide (config.securityLevel ≠ 0)⟩] }

def runTask (config : Config) : Task → State → State
  | .transportKeyRequest req => apsmeTransportKeyRequest config req
  | .nldeDataRequest command => nldeDataRequest config command

/-! ## Requests -/

/-- `zb_secur_upd_device_status_e`, as far as the requests tell the values apart. -/
inductive UpdDeviceStatus
  | securedRejoin
  | unsecuredJoin
  | deviceLeft
  | unsecuredRejoin
  | other
  deriving DecidableEq

/-- `zb_secur_gen_upd_dev_status`: a rejoin without security counts as the secured one, and
one with security as the unsecured one. -/
def genUpdDevStatus : Bool → Bool → UpdDeviceStatus
  | false, false => .unsecuredJoin
  | true, false => .securedRejoin
  | true, true => .unsecuredRejoin
  | false, true => .other

/-- `zb_nlme_join_indication_t`, the fields read here. -/
structure JoinIndication where
  extendedAddress : IeeeAddr
  rejoinNetwork : Bool
  secureRejoin : Bool

/-- `secur_authenticate_child`; what is no trust centre tells the trust centre instead. -/
def authenticateChild (config : Config) (ind : JoinIndication) (m : State) : State :=
  if config.isCoordinator && m.keys.isTc then
    if genUpdDevStatus ind.rejoinNetwork ind.secureRejoin = .securedRejoin then
      schedule (.transportKeyRequest ⟨.addr64 ind.extendedAddress, none, emptyKey, 0⟩) m
    else
      schedule (.transportKeyRequest
        ⟨.addr64 ind.extendedAddress, none, activeKey m.keys, m.keys.activeKeySeqNumber⟩) m
  else m

/-- `zb_apsme_update_device_ind_t`. -/
structure UpdateDeviceIndication where
  srcAddress : IeeeAddr
  deviceAddress : IeeeAddr
  status : UpdDeviceStatus

/-- `zb_apsme_update_device_indication`.  For a status it does not know the request keeps
the key octets that stand in the buffer. -/
def updateDeviceIndication (ind : UpdateDeviceIndication) (allowAuth : Bool)
    (stale : Key × UInt8) (m : State) : State :=
  let request := fun (key : Key) keySeqNumber => schedule (.transportKeyRequest
    ⟨.addr64 ind.deviceAddress, some ind.srcAddress, key, keySeqNumber⟩) m
  match ind.status with
  -- the device's entries go, which is a step of its own
  | .deviceLeft => m
  | .securedRejoin => if allowAuth then request emptyKey 0 else m
  | .unsecuredJoin | .unsecuredRejoin =>
    if allowAuth then request (activeKey m.keys) m.keys.activeKeySeqNumber else m
  | .other => if allowAuth then request stale.1 stale.2 else m

/-- The neighbours a key request is answered to. -/
def asksRightly : Option Entry → Bool
  | some ⟨_, some relationship⟩ =>
    !decide (relationship = .unauthenticatedChild ∨ relationship = .previousChild ∨
      relationship = .noneOfTheAbove)
  | _ => false

/-- `zb_apsme_request_key_indication`. -/
def requestKeyIndication (srcAddress : IeeeAddr) (keyType : UInt8) (m : State) : State :=
  if keyType = zbStandardNetworkKey ∧ asksRightly (m.devices srcAddress) then
    schedule (.transportKeyRequest
      ⟨.addr64 srcAddress, none, activeKey m.keys, m.keys.activeKeySeqNumber⟩) m
  else m

/-- `zb_secur_send_nwk_key_update_br`: the next key, to a broadcast address. -/
def sendNwkKeyUpdateBr (destBr : UInt16) (m : State) : State :=
  match nwkKeyBySeq (m.keys.activeKeySeqNumber + 1) m.keys with
  | some key =>
    schedule (.transportKeyRequest
      ⟨.addr16 destBr, none, key, m.keys.activeKeySeqNumber + 1⟩) m
  | none => m

/-- `zb_transport_key_nwk_key_dsc_pkt_t`. -/
structure TransportKeyDsc where
  keyType : UInt8
  key : Key
  seqNumber : UInt8
  destAddress : IeeeAddr
  sourceAddress : IeeeAddr

/-- `zb_aps_in_transport_key`: a key for this device is installed, a key for a child is
relayed. -/
def inTransportKey (config : Config) (dsc : TransportKeyDsc) (m : State) : State :=
  if dsc.keyType = zbStandardNetworkKey then
    if dsc.destAddress = config.extendedAddress ∨ dsc.destAddress = IeeeAddr.zero then
      let ind := ⟨dsc.sourceAddress, dsc.keyType, dsc.key, dsc.seqNumber⟩
      { m with keys := transportKeyIndication ind m.keys }
    else
      match m.devices dsc.destAddress with
      | some ⟨addr, some .unauthenticatedChild⟩ =>
        setEntry dsc.destAddress (some ⟨addr, some .child⟩)
          (apsSendCommand config addr dsc.key dsc.seqNumber false m)
      | some ⟨addr, some .child⟩ =>
        setEntry dsc.destAddress (some ⟨addr, some .child⟩)
          (apsSendCommand config addr dsc.key dsc.seqNumber true m)
      | _ => m
  else m

/-! ## Runs -/

/-- What happens to the device.  `entry` stands for everything else that changes what is
known of a device: joins, rejoins, departures, authentication, new addresses. -/
inductive Op
  | joinIndication (ind : JoinIndication)
  | updateDevice (ind : UpdateDeviceIndication) (allowAuth : Bool) (stale : Key × UInt8)
  | requestKey (srcAddress : IeeeAddr) (keyType : UInt8)
  | keyUpdate (destBr : UInt16)
  | inTransportKey (dsc : TransportKeyDsc)
  | callback (n : ℕ)
  | entry (ieeeAddress : IeeeAddr) (entry : Option Entry)
  | keys (op : KeyStore.Op)

def step (config : Config) (m : State) : Op → State
  | .joinIndication ind => authenticateChild config ind m
  | .updateDevice ind allowAuth stale => updateDeviceIndication ind allowAuth stale m
  | .requestKey srcAddress keyType => requestKeyIndication srcAddress keyType m
  | .keyUpdate destBr => sendNwkKeyUpdateBr destBr m
  | .inTransportKey dsc => inTransportKey config dsc m
  | .callback n =>
    match m.scheduled[n]? with
    | some task => runTask config task { m with scheduled := m.scheduled.eraseIdx n }
    | none => m
  | .entry ieeeAddress entry => setEntry ieeeAddress entry m
  | .keys op => { m with keys := KeyStore.step m.keys op }

end Zboss.KeyTransport
