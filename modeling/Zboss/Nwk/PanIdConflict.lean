import Mathlib.Data.List.Count
import Zboss.Lib.Run

/-!
The change of the PAN id after a conflict: a manager, and routers and end devices that report
conflicts and receive the broadcast update.  Frames are in the air until they are delivered;
reports can be lost, and an update reaches a device once, or never.  Time passes in ticks.
-/

namespace Zboss.PanIdConflict

open Zboss.Run

def panidTableSize : ℕ := 8

/-- `ZB_NWK_BROADCAST_DELIVERY_TIME()`. -/
def broadcastDeliveryTime : ℕ := 9

def defaultScanDuration : ℕ := 3

/-- The states of `zb_nlme_state_t` in which a beacon may be seen as a conflict. -/
inductive NlmeState
  | idle
  | panidConflictResolution
  deriving DecidableEq, Repr

/-- A scheduled callback; an MLME-START.request has its PAN id. -/
inductive Call
  | sendNwkUpdate
  | startRequest (panId : UInt16)
  | startConfirm
  deriving DecidableEq, Repr

/-- The PAN id that is going to be set. -/
def Call.panId : Call → Option UInt16
  | .sendNwkUpdate => none
  | .startRequest panId => some panId
  | .startConfirm => none

/-- The callback belongs to an MLME-START. -/
def Call.starts : Call → Bool
  | .sendNwkUpdate => false
  | .startRequest _ => true
  | .startConfirm => true

/-- A callback that waits for a buffer. -/
inductive Wait
  | sendStatusInd
  | setPanid
  deriving DecidableEq, Repr

inductive Alarm
  | sendNetworkReport
  | setPanidAlarm
  deriving DecidableEq, Repr

/-- `zb_nwk_update_cmd_t`. -/
structure Update where
  epid : UInt64
  updateId : UInt8
  newPanid : UInt16
  deriving DecidableEq, Repr

/-- `zb_nwk_report_cmd_t`. -/
structure Report where
  epid : UInt64
  panids : List UInt16
  deriving DecidableEq, Repr

/-- A device.  `routerRole` is the build, `seen` the broadcasts it knows.  Then the PAN id it is
to switch to, with the time it learnt it, the last update it received, and whether it has sent a
report since it had no conflict. -/
structure Node where
  routerRole : Bool
  joined : Bool
  joinedPro : Bool
  state : NlmeState
  extPanId : UInt64
  panId : UInt16
  updateId : UInt8
  beaconUpdateId : UInt8
  knownPanids : List UInt16
  newPanid : UInt16
  panidConflict : Bool
  calls : List Call
  waits : List Wait
  alarms : List (Alarm × ℕ)
  seen : List ℕ
  indicated : List UInt16
  goal : Option (UInt16 × ℕ)
  lastUpdate : Option Update
  reportSent : Bool

/-- `zb_panid_conflict_remember_panid`. -/
def rememberPanid (panid : UInt16) : List UInt16 → List UInt16
  | [] => []
  | known :: rest =>
    if known = panid then known :: rest
    else if known = 0 then panid :: rest
    else known :: rememberPanid panid rest

/-- The loop of `zb_panid_conflict_network_update` on what `ZB_RANDOM` gives: again where the
number is zero and not known. -/
def chooseNewPanid (known : List UInt16) : List UInt16 → Option UInt16
  | [] => none
  | panid :: rest =>
    if panid = 0 ∧ panid ∉ known then chooseNewPanid known rest else some panid

/-- `known_panids` after a report: it is zeroed, and the ids are copied. -/
def reportedPanids (panids : List UInt16) : List UInt16 :=
  panids.take panidTableSize ++ List.replicate (panidTableSize - panids.length) 0

/-- `known_panids` after `ZB_MEMSET(.., -1, ..)`. -/
def unknownPanids : List UInt16 := List.replicate panidTableSize 0xffff

namespace Node

variable (n : Node)

/-- `zb_nwk_update_beacon_payload`, which does not increment the update id. -/
def updateBeaconPayload : Node := { n with beaconUpdateId := n.updateId }

/-- `zb_panid_conflict_network_update` with the number it has chosen. -/
def networkUpdate (newPanid : UInt16) (now : ℕ) : Node :=
  { { n with newPanid := newPanid }.updateBeaconPayload with
    calls := n.calls ++ [.sendNwkUpdate]
    alarms := n.alarms ++ [(.setPanidAlarm, now + broadcastDeliveryTime)]
    goal := some (newPanid, now) }

/-- The beacon of a conflict at the manager. -/
def managerBeacon (newPanid : UInt16) (now : ℕ) : Node :=
  { n with knownPanids := unknownPanids, state := .idle }.networkUpdate newPanid now

/-- "panid conflict resolve is already in progress". -/
def inProgress : Bool := n.state = .panidConflictResolution || n.panidConflict

/-- `zb_panid_conflict_got_network_report` where none is in progress. -/
def gotNetworkReport (panids : List UInt16) (newPanid : UInt16) (now : ℕ) : Node :=
  { n with
    knownPanids := reportedPanids panids
    state := .idle }.networkUpdate newPanid now

/-- `zb_panid_conflict_schedule_network_report`. -/
def scheduleNetworkReport (panid : UInt16) (now : ℕ) : Node :=
  if n.panidConflict ∧ n.newPanid ≠ 0 ∧ n.newPanid ≠ panid then n
  else if n.panidConflict then { n with knownPanids := rememberPanid panid n.knownPanids }
  else
    { n with
      knownPanids := rememberPanid panid (List.replicate panidTableSize 0)
      alarms := n.alarms ++ [(.sendNetworkReport, now + defaultScanDuration)]
      panidConflict := true
      newPanid := 0 }

/-- The report `zb_panid_conflict_send_network_report` sends, if the new id is not there yet. -/
def networkReport : Option Report :=
  if n.panidConflict ∧ n.newPanid ≠ 0 then none
  else some { epid := n.extPanId, panids := n.knownPanids.takeWhile (· ≠ 0) }

/-- The command of `zb_panid_conflict_send_nwk_update`. -/
def nwkUpdate : Update :=
  { epid := n.extPanId, updateId := n.updateId, newPanid := n.newPanid }

/-- `zb_panid_conflict_send_status_ind`. -/
def sendStatusInd : Node :=
  { n with
    indicated := n.indicated ++ [n.newPanid]
    panidConflict := false
    reportSent := false }

/-- `zb_panid_conflict_network_update_recv`: with the router role the update id is decremented
for `zb_nwk_update_beacon_payload` to increment. -/
def networkUpdateRecv (upd : Update) (now : ℕ) : Node :=
  { (if n.routerRole then { n with updateId := upd.updateId - 1 }.updateBeaconPayload
      else { n with updateId := upd.updateId }) with
    newPanid := upd.newPanid
    alarms := n.alarms ++ [(.setPanidAlarm, now + broadcastDeliveryTime)]
    waits := n.waits ++ [.sendStatusInd]
    goal := some (upd.newPanid, now)
    lastUpdate := some upd }

/-- `zb_panid_conflict_set_panid`. -/
def setPanid : Node :=
  { n with
    panidConflict := false
    reportSent := false
    calls := n.calls ++ [.startRequest n.newPanid]
    state := .panidConflictResolution }

/-- `zb_mlme_start_request`: without the router role, or joined to a PRO network, a device does
nothing. -/
def startRequest (panId : UInt16) : Node :=
  if n.routerRole ∧ n.joinedPro = false then
    { n with panId := panId, calls := n.calls ++ [.startConfirm] }
  else n

/-- `zb_mlme_start_confirm`. -/
def startConfirm : Node := { n with state := .idle }

/-- `zb_mlme_beacon_notify_indication` takes the beacon for a conflict. -/
def conflict (srcPanId : UInt16) (epid : UInt64) : Bool :=
  n.routerRole && n.joined && !n.joinedPro && srcPanId = n.panId && epid ≠ n.extPanId

/-- How many switches are coming. -/
def armed : ℕ := (n.alarms.countP fun a => a.1 = .setPanidAlarm) + n.waits.count .setPanid

/-- The device announces, or is about to switch. -/
def busy : Bool := !n.calls.isEmpty || n.armed != 0

end Node

/-- An announced PAN id, with the round, and the PAN id before. -/
structure Announcement where
  round : ℕ
  newPanid : UInt16
  oldPanid : UInt16
  deriving DecidableEq, Repr

/-- The network.  `original` are the PAN ids and update ids at the start, `rounds` counts those
of the manager, and `before` is its PAN id when the last one began. -/
structure Network where
  manager : ℕ
  now : ℕ
  nodes : ℕ → Node
  air : List Update
  reports : List Report
  original : ℕ → UInt16 × UInt8
  rounds : ℕ
  before : UInt16
  announced : List Announcement

/-- What happens in the network; `draws` are the random numbers, `sent` says whether
`zb_nwk_forward` sends the broadcast. -/
inductive Op
  | tick
  | beacon (i : ℕ) (srcPanId : UInt16) (epid : UInt64) (draws : List UInt16)
  | deliverReport (k : ℕ) (draws : List UInt16)
  | loseReport (k : ℕ)
  | deliver (i k : ℕ)
  | alarm (i : ℕ) (alarm : Alarm) (due : ℕ)
  | buffer (i : ℕ)
  | call (i : ℕ) (sent : Bool)
  deriving DecidableEq, Repr

namespace Network

variable (w : Network)

def setNode (i : ℕ) (n : Node) : Network := { w with nodes := Function.update w.nodes i n }

/-- The manager chooses a PAN id; this begins a round if none is running. -/
def startRound (n : Node) : Network :=
  let m := w.nodes w.manager
  { w.setNode w.manager n with
    rounds := if m.busy then w.rounds else w.rounds + 1
    before := if m.busy then w.before else m.panId }

def beacon (i : ℕ) (srcPanId : UInt16) (epid : UInt64) (draws : List UInt16) : Network :=
  if (w.nodes i).conflict srcPanId epid then
    if i = w.manager then
      match chooseNewPanid unknownPanids draws with
      | some newPanid => w.startRound ((w.nodes i).managerBeacon newPanid w.now)
      | none => w
    else w.setNode i ((w.nodes i).scheduleNetworkReport srcPanId w.now)
  else w

/-- `nwk_frame_indication` of a network report at the manager. -/
def deliverReport (k : ℕ) (draws : List UInt16) : Network :=
  match w.reports[k]? with
  | none => w
  | some report =>
    let m := w.nodes w.manager
    let d := { w with reports := w.reports.eraseIdx k }
    if report.epid ≠ m.extPanId ∨ m.inProgress then d
    else
      match chooseNewPanid (reportedPanids report.panids) draws with
      | some newPanid => d.startRound (m.gotNetworkReport report.panids newPanid w.now)
      | none => d

/-- The update that device `i` takes from frame `k`. -/
def received (i k : ℕ) : Option Update :=
  if k ∈ (w.nodes i).seen then none
  else (w.air[k]?).filter fun upd => upd.epid = (w.nodes i).extPanId

/-- `nwk_frame_indication` of a network update at device `i`. -/
def deliver (i k : ℕ) : Network :=
  match w.air[k]? with
  | none => w
  | some upd =>
    if k ∈ (w.nodes i).seen then w
    else
      let n := { w.nodes i with seen := (w.nodes i).seen ++ [k] }
      if upd.epid = n.extPanId then w.setNode i (n.networkUpdateRecv upd w.now)
      else w.setNode i n

/-- An alarm that is due. -/
def alarm (i : ℕ) (alarm : Alarm) (due : ℕ) : Network :=
  if (alarm, due) ∈ (w.nodes i).alarms ∧ due ≤ w.now then
    let n := { w.nodes i with alarms := (w.nodes i).alarms.erase (alarm, due) }
    match alarm with
    | .setPanidAlarm => w.setNode i { n with waits := n.waits ++ [.setPanid] }
    | .sendNetworkReport =>
      match n.networkReport with
      | some report =>
        { w.setNode i { n with reportSent := true } with reports := w.reports ++ [report] }
      | none => w.setNode i n
  else w

/-- A buffer is there for the first callback that waits. -/
def buffer (i : ℕ) : Network :=
  match (w.nodes i).waits with
  | [] => w
  | .sendStatusInd :: rest => w.setNode i { w.nodes i with waits := rest }.sendStatusInd
  | .setPanid :: rest => w.setNode i { w.nodes i with waits := rest }.setPanid

/-- `zb_panid_conflict_send_nwk_update`: the sender knows its own broadcast. -/
def sendNwkUpdate (i : ℕ) (n : Node) (sent : Bool) : Network :=
  if sent then
    { w.setNode i { n with
        waits := n.waits ++ [.sendStatusInd]
        seen := n.seen ++ [w.air.length] } with
      air := w.air ++ [n.nwkUpdate]
      announced := w.announced ++ [{
        round := w.rounds - 1
        newPanid := n.newPanid
        oldPanid := w.before }] }
  else w.setNode i { n with waits := n.waits ++ [.sendStatusInd] }

/-- The first callback of device `i` runs. -/
def call (i : ℕ) (sent : Bool) : Network :=
  match (w.nodes i).calls with
  | [] => w
  | .sendNwkUpdate :: rest => w.sendNwkUpdate i { w.nodes i with calls := rest } sent
  | .startRequest panId :: rest =>
    w.setNode i ({ w.nodes i with calls := rest }.startRequest panId)
  | .startConfirm :: rest => w.setNode i { w.nodes i with calls := rest }.startConfirm

end Network

def step (w : Network) : Op → Network
  | .tick => { w with now := w.now + 1 }
  | .beacon i srcPanId epid draws => w.beacon i srcPanId epid draws
  | .deliverReport k draws => w.deliverReport k draws
  | .loseReport k => { w with reports := w.reports.eraseIdx k }
  | .deliver i k => w.deliver i k
  | .alarm i alarm due => w.alarm i alarm due
  | .buffer i => w.buffer i
  | .call i sent => w.call i sent

namespace Network

variable (w : Network)

/-- No round announces two PAN ids, every finished round has announced one, and it is not the
one before; a device does not switch before the delivery time has passed, and then has the
announced PAN id; devices of other extended PANs keep theirs; and a device with no switch going
on is IDLE, with no conflict noted but those that are reported or that it is told the end of. -/
structure Switched : Prop where
  once : (w.announced.map Announcement.round).Nodup
  each : (w.nodes w.manager).busy = false →
    ∀ r < w.rounds, r ∈ w.announced.map Announcement.round
  fresh : ∀ a ∈ w.announced, a.newPanid ≠ a.oldPanid
  waits : ∀ i id t, (w.nodes i).goal = some (id, t) → w.now < t + broadcastDeliveryTime →
    (.setPanidAlarm, t + broadcastDeliveryTime) ∈ (w.nodes i).alarms
  switches : ∀ i id t, (w.nodes i).goal = some (id, t) → (w.nodes i).busy = false →
    (w.nodes i).panId = id
  ignores : ∀ i, (w.nodes i).extPanId ≠ (w.nodes w.manager).extPanId →
    (w.nodes i).panId = (w.original i).1 ∧ (w.nodes i).updateId = (w.original i).2
  handles : ∀ i, (w.nodes i).busy = false → (w.nodes i).state = .idle ∧
    ((w.nodes i).panidConflict = true →
      ((w.nodes i).alarms.any fun a => a.1 = .sendNetworkReport) ∨ (w.nodes i).reportSent ∨
        .sendStatusInd ∈ (w.nodes i).waits)

/-- Agreement: also every device has the update id of the command it received. -/
structure Agreed : Prop extends w.Switched where
  updateIds : ∀ i upd, (w.nodes i).lastUpdate = some upd → (w.nodes i).updateId = upd.updateId

/-- A network without conflicts. -/
structure Start : Prop where
  manager : (w.nodes w.manager).routerRole = true ∧ (w.nodes w.manager).joinedPro = false
  ids : ∀ i, w.original i = ((w.nodes i).panId, (w.nodes i).updateId)
  state : ∀ i, (w.nodes i).state = .idle ∧ (w.nodes i).panidConflict = false
  nothing : ∀ i, (w.nodes i).calls = [] ∧ (w.nodes i).waits = [] ∧ (w.nodes i).alarms = []
  goal : ∀ i, (w.nodes i).goal = none ∧ (w.nodes i).lastUpdate = none
  air : w.air = []
  rounds : w.rounds = 0
  announced : w.announced = []

/-- The random number that is chosen is not the PAN id of the manager. -/
def chosenFresh (known draws : List UInt16) : Prop :=
  chooseNewPanid known draws ≠ some (w.nodes w.manager).panId

instance (known draws : List UInt16) : Decidable (w.chosenFresh known draws) :=
  inferInstanceAs (Decidable (_ ≠ _))

end Network

/-- No overlaps: a conflict comes to the manager when no round is running, and a number
is drawn that is not the PAN id; a router that has been told a new PAN id and has given up its
report sees no conflict before it switches; a device is told one PAN id at a time, and can
switch; and the broadcast is sent. -/
def Calm (w : Network) : Op → Prop
  | .tick => True
  | .beacon i srcPanId epid draws =>
    (w.nodes i).conflict srcPanId epid →
      if i = w.manager then (w.nodes i).busy = false ∧ w.chosenFresh unknownPanids draws
      else (w.nodes i).armed ≠ 0 → (w.nodes i).panidConflict = true
  | .deliverReport k draws =>
    ∀ report ∈ w.reports[k]?, report.epid = (w.nodes w.manager).extPanId →
      (w.nodes w.manager).inProgress = false →
        (w.nodes w.manager).busy = false ∧ w.chosenFresh (reportedPanids report.panids) draws
  | .loseReport _ => True
  | .deliver i k =>
    w.received i k ≠ none →
      ((w.nodes i).routerRole = true ∧ (w.nodes i).joinedPro = false) ∧ (w.nodes i).armed = 0
  | .alarm _ _ _ => True
  | .buffer _ => True
  | .call i sent => (w.nodes i).calls.head? = some .sendNwkUpdate → sent = true

/-- No device takes an update. -/
def Untold (w : Network) : Op → Prop
  | .deliver i k => w.received i k = none
  | _ => True

instance (w : Network) (op : Op) : Decidable (Calm w op) :=
  match op with
  | .tick => inferInstanceAs (Decidable True)
  | .beacon _ _ _ _ => inferInstanceAs (Decidable (_ = true → ite _ _ _))
  | .deliverReport k _ =>
    inferInstanceAs (Decidable (∀ report ∈ w.reports[k]?, _ = _ → _ = false → _ ∧ _))
  | .loseReport _ => inferInstanceAs (Decidable True)
  | .deliver _ _ => inferInstanceAs (Decidable (_ → _))
  | .alarm _ _ _ => inferInstanceAs (Decidable True)
  | .buffer _ => inferInstanceAs (Decidable True)
  | .call _ _ => inferInstanceAs (Decidable (_ → _))

instance (w : Network) (op : Op) : Decidable (Untold w op) :=
  match op with
  | .deliver i k => inferInstanceAs (Decidable (w.received i k = none))
  | .tick | .beacon _ _ _ _ | .deliverReport _ _ | .loseReport _ | .alarm _ _ _ | .buffer _
  | .call _ _ => inferInstanceAs (Decidable True)

end Zboss.PanIdConflict
