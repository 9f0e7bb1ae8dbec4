import Mathlib.Data.List.Basic
import Mathlib.Data.List.Count

/-!
End device bind at the coordinator.  Two requests with one profile start an exchange: the
clusters both devices share are matched, one matched link is tested by unbinding it, and
then every matched link is bound or unbound, one request after the answer to the last.
Devices are named by their short addresses; the links that exist in the network are part
of the state, and an answer comes with what the devices made of them.
-/

namespace Zboss.EndDeviceBind

/-- A reference to a packet buffer. -/
abbrev BufRef := ℕ

/-- `ZB_ZDO_MAX_CLUSTER_LIST`. -/
def maxClusterList : ℕ := 15

def minEndpointNumber : UInt8 := 1

def maxEndpointNumber : UInt8 := 240

/-- `zb_zdp_status_t`, as far as it is used. -/
inductive ZdpStatus
  | success
  | invalidEp
  | timeout
  | noMatch
  | noEntry
  | other (code : UInt8)
  deriving DecidableEq, Repr

/-- An end device bind request; the number of clusters of a list is an octet. -/
structure BindReq where
  bindingTarget : UInt16
  srcEndp : UInt8
  profileId : UInt16
  inClusters : List UInt16
  outClusters : List UInt16
  deriving DecidableEq, Repr

/-- A source endpoint bound for a cluster to an endpoint of the peer. -/
structure Link where
  target : UInt16
  srcEndp : UInt8
  clusterId : UInt16
  dstAddr : UInt16
  dstEndp : UInt8
  deriving DecidableEq, Repr

/-- `zb_zdo_bind_device_info_s`: `param` is the buffer of the request with its content, none
for `ZB_UNDEFINED_BUFFER`; `clusterList` are the first `cluster_num` clusters. -/
structure DeviceInfo where
  param : Option (BufRef × BindReq)
  bindingTarget : UInt16
  srcEndp : UInt8
  clusterList : List UInt16
  deriving DecidableEq, Repr

/-- The link a bind or unbind request of device `dev` is about. -/
def DeviceInfo.link (dev peer : DeviceInfo) (clusterId : UInt16) : Link where
  target := dev.bindingTarget
  srcEndp := dev.srcEndp
  clusterId := clusterId
  dstAddr := peer.bindingTarget
  dstEndp := peer.srcEndp

/-- A callback that is due: the delayed `zb_zdo_send_check_bind_unbind`, the callback of the
tested request, and `zb_zdo_end_device_bind_cb` or `.._unbind_cb`, with the link their
request asked for or, called without a request, none. -/
inductive Task
  | sendCheck
  | checkCb (asked : Link)
  | endDeviceCb (bind : Bool) (asked : Option Link)
  deriving DecidableEq, Repr

/-- The link a device is asked for. -/
def Task.asked : Task → Option Link
  | .sendCheck => none
  | .checkCb asked => some asked
  | .endDeviceCb _ asked => asked

/-- An exchange as it started: both requests, the devices with the matched clusters, and the
links that existed. -/
structure Exchange where
  req1 : BindReq
  req2 : BindReq
  dev1 : DeviceInfo
  dev2 : DeviceInfo
  before : Link → Bool

/-- `end_device_bind_ctx` with the alarms and callbacks due, the responses sent and the links of
the network.  The exchange that goes on, all exchanges started, and those that ended with
the links they left are recorded beside. -/
structure Coordinator where
  dev1 : DeviceInfo
  dev2 : DeviceInfo
  currentDevice : ℕ
  timers : List BufRef
  tasks : List Task
  responses : List (BufRef × ZdpStatus)
  bound : Link → Bool
  exchange : Option Exchange
  started : List Exchange
  finished : List (Exchange × (Link → Bool))

/-- The inner loop of `check_cluster_list` for cluster `c` of the first list. -/
def matchCluster (c : UInt16) : List UInt16 → List UInt16 → List UInt16
  | [], found => found
  | d :: rest, found =>
    if c = d then
      if (found ++ [c]).length ≥ maxClusterList then found ++ [c]
      else matchCluster c rest (found ++ [c])
    else matchCluster c rest found

/-- `check_cluster_list`; past 15 entries the list has left its array. -/
def checkClusterList (list1 list2 : List UInt16) : List UInt16 :=
  list1.foldl (fun found c => matchCluster c list2 found) []

namespace Coordinator

/-- `bind_device_info[num]`. -/
def info (w : Coordinator) (num : ℕ) : DeviceInfo := if num = 0 then w.dev1 else w.dev2

/-- `ZB_ZDO_PEER_DEVICE_NUM`. -/
def peerDeviceNum (num : ℕ) : ℕ := (num + 1) % 2

/-- The link that `send_bind_unbind_req` asks device `num` for. -/
def linkOf (w : Coordinator) (num : ℕ) (clusterId : UInt16) : Link :=
  (w.info num).link (w.info (peerDeviceNum num)) clusterId

/-- Set the cluster list of device `num`. -/
def setClusterList (w : Coordinator) (num : ℕ) (list : List UInt16) : Coordinator :=
  if num = 0 then { w with dev1 := { w.dev1 with clusterList := list } }
  else { w with dev2 := { w.dev2 with clusterList := list } }

/-- Both devices get `ZB_UNDEFINED_BUFFER`. -/
def release (w : Coordinator) : Coordinator :=
  { w with dev1 := { w.dev1 with param := none }, dev2 := { w.dev2 with param := none } }

/-- `zb_zdo_end_device_bind_resp`. -/
def respond (w : Coordinator) (param : BufRef) (status : ZdpStatus) : Coordinator :=
  { w with responses := w.responses ++ [(param, status)] }

/-- `zb_zdo_end_device_bind_timer`. -/
def endDeviceBindTimer (w : Coordinator) (param : BufRef) : Coordinator :=
  w.release.respond param .timeout

/-- The second request matches: remember both devices and get a buffer for the test. -/
def startExchange (w : Coordinator) (param : BufRef) (req1 req2 : BindReq)
    (list1 list2 : List UInt16) (bufOk : Bool) : Coordinator :=
  let dev1 := { w.dev1 with
    bindingTarget := req1.bindingTarget, srcEndp := req1.srcEndp, clusterList := list1 }
  let dev2 := { w.dev2 with
    param := some (param, req2), bindingTarget := req2.bindingTarget, srcEndp := req2.srcEndp
    clusterList := list2 }
  let exchange : Exchange := ⟨req1, req2, dev1, dev2, w.bound⟩
  { w with
    dev1 := dev1
    dev2 := dev2
    tasks := if bufOk then w.tasks ++ [.sendCheck] else w.tasks
    exchange := some exchange
    started := w.started ++ [exchange] }

/-- `zb_zdo_end_device_bind_handler`.  The scheduler takes the alarm if `alarmOk`, the request
for a buffer is accepted if `bufOk`; `spill` is what is left where a cluster list leaves
its array. -/
def endDeviceBindHandler (spill : Coordinator → Coordinator) (w : Coordinator) (param : BufRef)
    (req : BindReq) (alarmOk bufOk : Bool) : Coordinator :=
  if req.srcEndp < minEndpointNumber ∨ req.srcEndp > maxEndpointNumber then
    w.respond param .invalidEp
  else
    match w.dev1.param with
    | none =>
      { w with
        dev1 := { w.dev1 with param := some (param, req) }
        timers := if alarmOk then w.timers ++ [param] else w.timers }
    | some (param1, req1) =>
      if w.dev2.param ≠ none then w.respond param .timeout
      else
        let w := { w with timers := [] }
        if req1.profileId ≠ req.profileId then
          ((w.respond param .noMatch).respond param1 .noMatch).release
        else
          let list1 := checkClusterList req1.outClusters req.inClusters
          let list2 := checkClusterList req1.inClusters req.outClusters
          if maxClusterList < list1.length ∨ maxClusterList < list2.length then spill w
          else if list1 = [] ∧ list2 = [] then
            let w := (w.setClusterList 0 []).setClusterList 1 []
            ((w.respond param .noMatch).respond param1 .noMatch).release
          else
            ((w.startExchange param req1 req list1 list2 bufOk).respond param .success).respond
              param1 .success

/-- `zb_zdo_send_check_bind_unbind`. -/
def sendCheckBindUnbind (w : Coordinator) : Coordinator :=
  let current := if w.dev1.clusterList ≠ [] then 0 else 1
  let cluster := (w.info current).clusterList.headD 0
  { w with currentDevice := current, tasks := w.tasks ++ [.checkCb (w.linkOf current cluster)] }

/-- The exchange is over. -/
def finish (w : Coordinator) : Coordinator :=
  { w.release with
    exchange := none
    finished := w.finished ++ (w.exchange.map fun x => (x, w.bound)).toList }

def sendBindUnbindWithCheck (w : Coordinator) (bind : Bool) : Coordinator :=
  let current := w.currentDevice
  match (w.info current).clusterList.getLast? with
  | none =>
    let w := { w with currentDevice := current + 1 }
    if w.currentDevice = 1 then { w with tasks := w.tasks ++ [.endDeviceCb bind none] }
    else w.finish
  | some cluster =>
    let asked := w.linkOf current cluster
    let w := w.setClusterList current (w.info current).clusterList.dropLast
    { w with tasks := w.tasks ++ [.endDeviceCb bind (some asked)] }

/-- `zb_zdo_bind_unbind_check_cb`. -/
def bindUnbindCheckCb (w : Coordinator) (status : ZdpStatus) : Coordinator :=
  w.sendBindUnbindWithCheck (status = .noEntry)

/-- Run a callback; `status` is that of the answer it got. -/
def call (w : Coordinator) (status : ZdpStatus) : Task → Coordinator
  | .sendCheck => w.sendCheckBindUnbind
  | .checkCb _ => w.bindUnbindCheckCb status
  | .endDeviceCb bind _ => w.sendBindUnbindWithCheck bind

end Coordinator

/-- What happens at the coordinator.  A callback runs with the status of an answer, which
comes with the links that exist now; or it is lost with its answer and never runs. -/
inductive Event
  | request (param : BufRef) (req : BindReq) (alarmOk bufOk : Bool)
  | timer (i : ℕ)
  | callback (i : ℕ) (status : ZdpStatus) (bound : Link → Bool)
  | lose (i : ℕ)

namespace Coordinator

/-- No exchange, and no request waits for a second one. -/
def Idle (w : Coordinator) : Prop := w.dev1.param = none ∧ w.dev2.param = none

instance (w : Coordinator) : Decidable w.Idle := inferInstanceAs (Decidable (_ ∧ _))

/-- A coordinator that has not had a request. -/
def init (bound : Link → Bool) : Coordinator where
  dev1 := ⟨none, 0, 0, []⟩
  dev2 := ⟨none, 0, 0, []⟩
  currentDevice := 0
  timers := []
  tasks := []
  responses := []
  bound := bound
  exchange := none
  started := []
  finished := []

/-- One event; a timer or a callback that is not due changes nothing. -/
def step (spill : Coordinator → Coordinator) (w : Coordinator) : Event → Coordinator
  | .request param req alarmOk bufOk => w.endDeviceBindHandler spill param req alarmOk bufOk
  | .timer i =>
    match w.timers[i]? with
    | none => w
    | some param => { w with timers := w.timers.eraseIdx i }.endDeviceBindTimer param
  | .callback i status bound =>
    match w.tasks[i]? with
    | none => w
    | some task =>
      { w with
        tasks := w.tasks.eraseIdx i
        bound := if task.asked.isSome then bound else w.bound }.call status task
  | .lose i => { w with tasks := w.tasks.eraseIdx i }

end Coordinator

/-! ## Conditions and properties -/

/-- Before every cluster that has a match in `list2`, fewer than 15 matches were found. -/
def Fits (list2 : List UInt16) : ℕ → List UInt16 → Prop
  | _, [] => True
  | found, c :: rest =>
    (c ∈ list2 → found < maxClusterList) ∧ Fits list2 (found + list2.count c) rest

instance fitsDecidable (list2 : List UInt16) : ∀ found list1, Decidable (Fits list2 found list1)
  | _, [] => isTrue trivial
  | found, c :: rest =>
    have := fitsDecidable list2 (found + list2.count c) rest
    inferInstanceAs (Decidable (_ ∧ _))

/-- The clusters two requests share fit into the lists. -/
def PairFits (req1 req2 : BindReq) : Prop :=
  Fits req2.inClusters 0 req1.outClusters ∧ Fits req2.outClusters 0 req1.inClusters

instance (req1 req2 : BindReq) : Decidable (PairFits req1 req2) :=
  inferInstanceAs (Decidable (_ ∧ _))

/-- The endpoint of a request is valid. -/
def BindReq.ValidEndp (req : BindReq) : Prop :=
  ¬(req.srcEndp < minEndpointNumber ∨ req.srcEndp > maxEndpointNumber)

instance (req : BindReq) : Decidable req.ValidEndp := inferInstanceAs (Decidable (¬_))

/-- Where a request is the first, its alarm is granted; where it meets a waiting one of its
profile, the clusters fit and the buffer is granted; and every callback of a request runs. -/
def Held (w : Coordinator) : Event → Prop
  | .request _ req alarmOk bufOk =>
    (req.ValidEndp → w.dev1.param = none → alarmOk = true) ∧
      (req.ValidEndp → w.dev2.param = none → ∀ waiting ∈ w.dev1.param,
        waiting.2.profileId = req.profileId → bufOk = true ∧ PairFits waiting.2 req)
  | .timer i => i < w.timers.length
  | .callback i _ _ => i < w.tasks.length
  | .lose _ => False

instance heldDecidable (w : Coordinator) : ∀ e, Decidable (Held w e)
  | .request _ req _ bufOk =>
    have : Decidable (∀ waiting ∈ w.dev1.param,
        waiting.2.profileId = req.profileId → bufOk = true ∧ PairFits waiting.2 req) :=
      Option.decidableForallMem _
    inferInstanceAs (Decidable (_ ∧ _))
  | .timer i => inferInstanceAs (Decidable (i < w.timers.length))
  | .callback i _ _ => inferInstanceAs (Decidable (i < w.tasks.length))
  | .lose _ => isFalse id

/-- The device does what it is asked for and nothing else, and reports to an unbind that there
is no entry exactly if the link was not bound. -/
def Task.Answered (task : Task) (before : Link → Bool) (status : ZdpStatus)
    (after : Link → Bool) : Prop :=
  match task with
  | .sendCheck => True
  | .checkCb asked =>
    after = Function.update before asked false ∧ (status = .noEntry ↔ before asked = false)
  | .endDeviceCb bind asked => ∀ l ∈ asked, after = Function.update before l bind

/-- The devices answer as they should. -/
def Faithful (w : Coordinator) : Event → Prop
  | .callback i status bound => ∀ task ∈ w.tasks[i]?, task.Answered w.bound status bound
  | _ => True

/-- The event consumes a timer or a callback. -/
def Event.wakes : Event → Bool
  | .timer _ | .callback _ _ _ => true
  | .request _ _ _ _ | .lose _ => false

namespace Exchange

/-- The matched links. -/
def links (x : Exchange) : List Link :=
  x.dev1.clusterList.map (x.dev1.link x.dev2) ++ x.dev2.clusterList.map (x.dev2.link x.dev1)

/-- The link that is tested. -/
def tested (x : Exchange) : Option Link := x.links.head?

/-- The match lists hold exactly the common clusters, and fit. -/
structure Exact (x : Exchange) : Prop where
  common1 : ∀ c, c ∈ x.dev1.clusterList ↔ c ∈ x.req1.outClusters ∧ c ∈ x.req2.inClusters
  common2 : ∀ c, c ∈ x.dev2.clusterList ↔ c ∈ x.req1.inClusters ∧ c ∈ x.req2.outClusters
  short1 : x.dev1.clusterList.length ≤ maxClusterList
  short2 : x.dev2.clusterList.length ≤ maxClusterList

/-- Every matched link is bound if the tested one was not, and unbound otherwise; nothing
else has changed. -/
def Toggled (x : Exchange) (after : Link → Bool) : Prop :=
  ∀ tested ∈ x.tested, ∀ l,
    after l = if l ∈ x.links then !x.before tested else x.before l

end Exchange

/-- The coordinator is idle or something is due that will bring it there. -/
def Coordinator.Alive (w : Coordinator) : Prop := w.Idle ∨ w.timers ≠ [] ∨ w.tasks ≠ []

instance (w : Coordinator) : Decidable w.Alive := inferInstanceAs (Decidable (_ ∨ _))

/-! ## The match lists -/

theorem matchCluster_eq (c : UInt16) (list2 found : List UInt16) :
    matchCluster c list2 found =
      found ++ List.replicate (min (list2.count c) (max 1 (maxClusterList - found.length))) c := by
  induction list2 generalizing found with
  | nil => simp [matchCluster]
  | cons d rest induction_ =>
    unfold matchCluster
    by_cases same : c = d
    · subst same
      simp only [↓reduceIte, List.count_cons_self, List.length_append, List.length_singleton]
      split
      · rename_i full
        have one : min (rest.count c + 1) (max 1 (maxClusterList - found.length)) = 1 := by
          simp only [maxClusterList] at full ⊢
          omega
        rw [one]
        rfl
      · rename_i room
        rw [induction_, List.append_assoc, List.singleton_append, ← List.replicate_succ]
        congr 2
        simp only [List.length_append, List.length_singleton, maxClusterList] at room ⊢
        omega
    · simp [same, induction_, List.count_cons_of_ne (Ne.symm same)]

theorem matchCluster_length (c : UInt16) (list2 found : List UInt16) :
    (matchCluster c list2 found).length =
      found.length + min (list2.count c) (max 1 (maxClusterList - found.length)) := by
  simp [matchCluster_eq]

theorem mem_matchCluster (c : UInt16) (list2 found : List UInt16) (e : UInt16) :
    e ∈ matchCluster c list2 found ↔ e ∈ found ∨ e = c ∧ c ∈ list2 := by
  rw [matchCluster_eq, List.mem_append, List.mem_replicate]
  have some_ : min (list2.count c) (max 1 (maxClusterList - found.length)) ≠ 0 ↔ c ∈ list2 := by
    rw [← List.count_pos_iff]
    omega
  rw [some_, and_comm (a := c ∈ list2)]

/-- The clusters that are found, whether or not they fit. -/
theorem mem_foldl_matchCluster (list2 list1 found : List UInt16) (e : UInt16) :
    e ∈ list1.foldl (fun found c => matchCluster c list2 found) found ↔
      e ∈ found ∨ e ∈ list1 ∧ e ∈ list2 := by
  induction list1 generalizing found with
  | nil => simp
  | cons c rest induction_ =>
    rw [List.foldl_cons, induction_, mem_matchCluster, List.mem_cons]
    grind

theorem length_le_foldl_matchCluster (list2 list1 found : List UInt16) :
    found.length ≤ (list1.foldl (fun found c => matchCluster c list2 found) found).length := by
  induction list1 generalizing found with
  | nil => exact Nat.le_refl _
  | cons c rest induction_ =>
    have grown := matchCluster_length c list2 found
    have later := induction_ (matchCluster c list2 found)
    rw [List.foldl_cons]
    omega

/-- The list stays in its array exactly if the matches fit; `n` counts them all. -/
theorem foldl_matchCluster_fits (list2 list1 found : List UInt16) (n : ℕ)
    (counted : found.length = min n maxClusterList) :
    (list1.foldl (fun found c => matchCluster c list2 found) found).length ≤ maxClusterList ↔
      Fits list2 n list1 := by
  induction list1 generalizing found n with
  | nil => exact iff_of_true (counted ▸ Nat.min_le_right n maxClusterList) trivial
  | cons c rest induction_ =>
    have grown := matchCluster_length c list2 found
    rw [List.foldl_cons, Fits]
    by_cases matched : c ∈ list2
    · have pos := List.count_pos_iff.mpr matched
      by_cases room : n < maxClusterList
      · rw [induction_ _ (n + list2.count c) (by omega)]
        exact ⟨fun fits => ⟨fun _ => room, fits⟩, fun fits => fits.2⟩
      · have later := length_le_foldl_matchCluster list2 rest (matchCluster c list2 found)
        constructor
        · intro short
          omega
        · exact fun fits => absurd (fits.1 matched) room
    · have none_ := List.count_eq_zero.mpr matched
      rw [induction_ _ (n + list2.count c) (by omega)]
      exact ⟨fun fits => ⟨fun member => absurd member matched, fits⟩, fun fits => fits.2⟩

/-- The clusters fit their array exactly if they pass the condition on the lists. -/
theorem checkClusterList_fits (list1 list2 : List UInt16) :
    (checkClusterList list1 list2).length ≤ maxClusterList ↔ Fits list2 0 list1 :=
  foldl_matchCluster_fits list2 list1 [] 0 rfl

theorem mem_checkClusterList (list1 list2 : List UInt16) (c : UInt16) :
    c ∈ checkClusterList list1 list2 ↔ c ∈ list1 ∧ c ∈ list2 := by
  simp [checkClusterList, mem_foldl_matchCluster]

end Zboss.EndDeviceBind
