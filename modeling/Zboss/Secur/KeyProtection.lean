import Zboss.Lib.Run
import Zboss.Secur.KeyTransport

/-!
Protection of the network key on its way out.  A request for a device by its IEEE address
goes out without protection, to whatever short address is found when the request runs.
So the key is protected, or given to an unauthenticated child, while the child a request
is scheduled for stays as it is and no neighbour's key request is answered.
-/

namespace Zboss.KeyTransport

open Zboss.AddressTable (IeeeAddr)
open Zboss.KeyStore Zboss.Run

/-- The command was sent to the short address of a device that was in the neighbour table
as a child not authenticated yet. -/
def TowardsUnauthenticatedChild (command : Command) : Prop :=
  nwkIsAddressBroadcast command.destAddr = false ∧
    ∃ ieeeAddress, command.devices ieeeAddress =
      some ⟨command.destAddr, some .unauthenticatedChild⟩

/-- A transport of a network key is secured, or goes to an unauthenticated child.  The empty key,
which tells a device to use the one it has, is no secret and left out. -/
def KeyProtected (t : Transport) : Prop :=
  nwkKeyIsEmpty t.command.key = false →
    (t.nwkSecured = true ∨ t.command.apsSecured = true) ∨ TowardsUnauthenticatedChild t.command

/-! ## The condition -/

/-- The device secures what it is asked to. -/
def protects (config : Config) (s : KeyState) : Bool :=
  if config.secureAllFrames then s.authenticated && decide (config.securityLevel ≠ 0)
  else config.apsFrameSecurity

/-- A child that is not authenticated yet, with a short address of its own. -/
def isUnauthenticatedChild : Option Entry → Bool
  | some ⟨addr, some .unauthenticatedChild⟩ => !nwkIsAddressBroadcast addr
  | _ => false

/-- A key is scheduled to go unprotected to the device. -/
def awaits (ieeeAddress : IeeeAddr) (m : State) : Bool :=
  m.scheduled.any fun
    | .transportKeyRequest req =>
      req.useParent.isNone && decide (req.dest = .addr64 ieeeAddress) && !nwkKeyIsEmpty req.key
    | .nldeDataRequest _ => false

/-- A relay goes unsecured to a child for which nothing else is scheduled, or secured. -/
def relayRight (config : Config) (destAddress : IeeeAddr) (m : State) : Bool :=
  match m.devices destAddress with
  | some ⟨addr, some .unauthenticatedChild⟩ =>
    !nwkIsAddressBroadcast addr && !awaits destAddress m
  | some ⟨_, some .child⟩ => protects config m.keys
  | _ => true

/-- The condition on a step.  A joining device is an unauthenticated child; its entry stays
while the key is scheduled; no key request is answered; updates go to broadcast
addresses; and where a key is to be secured the device is able to. -/
def StepRight (config : Config) (m : State) : Op → Prop
  | .joinIndication ind =>
    config.isCoordinator && m.keys.isTc →
      genUpdDevStatus ind.rejoinNetwork ind.secureRejoin ≠ .securedRejoin →
      isUnauthenticatedChild (m.devices ind.extendedAddress)
  | .updateDevice _ allowAuth _ => allowAuth → protects config m.keys
  | .requestKey srcAddress keyType =>
    ¬ (keyType = zbStandardNetworkKey ∧ asksRightly (m.devices srcAddress))
  | .keyUpdate destBr => nwkIsAddressBroadcast destBr ∧ protects config m.keys
  | .inTransportKey dsc => relayRight config dsc.destAddress m
  | .callback _ | .keys _ => True
  | .entry ieeeAddress _ => awaits ieeeAddress m = false

/-! ## The invariant -/

/-- A scheduled task will keep the key protected. -/
def TaskRight (config : Config) (m : State) : Task → Prop
  | .transportKeyRequest req => nwkKeyIsEmpty req.key = false →
    match req.useParent, req.dest with
    | some _, _ => protects config m.keys = true
    | none, .addr16 addr => nwkIsAddressBroadcast addr = true ∧ protects config m.keys = true
    | none, .addr64 addr => isUnauthenticatedChild (m.devices addr) = true
  | .nldeDataRequest command => nwkKeyIsEmpty command.key = false →
    TowardsUnauthenticatedChild command ∨
      protects config m.keys = true ∧
        (if config.secureAllFrames then command.securityEnable else command.apsSecured) = true

/-- What every step keeps. -/
structure Guarded (config : Config) (m : State) : Prop where
  scheduled : ∀ task ∈ m.scheduled, TaskRight config m task
  transports : ∀ t ∈ m.transports, KeyProtected t

variable {config : Config} {m m' : State} {task : Task}

/-- A task stays right while the device keeps its means of protection and the entries of
devices that await a key. -/
theorem TaskRight.kept (right : TaskRight config m task) (mem : task ∈ m.scheduled)
    (able : protects config m.keys = true → protects config m'.keys = true)
    (same : ∀ ieeeAddress, awaits ieeeAddress m = true →
      m'.devices ieeeAddress = m.devices ieeeAddress) : TaskRight config m' task := by
  cases task with
  | nldeDataRequest command =>
    intro nonempty
    exact (right nonempty).imp_right fun ⟨means, flag⟩ => ⟨able means, flag⟩
  | transportKeyRequest req =>
    intro nonempty
    have right_ := right nonempty
    obtain ⟨dest, useParent, key, q⟩ := req
    cases useParent with
    | some parentAddress => exact able right_
    | none =>
      cases dest with
      | addr16 addr => exact ⟨right_.1, able right_.2⟩
      | addr64 addr =>
        have waits : awaits addr m = true := by
          refine List.any_eq_true.mpr ⟨_, mem, ?_⟩
          simpa using nonempty
        dsimp only at right_ ⊢
        rwa [same addr waits]

/-- Scheduling a right task. -/
theorem Guarded.schedule (guarded : Guarded config m) (right : TaskRight config m task) :
    Guarded config (schedule task m) := by
  refine ⟨fun t mem => ?_, guarded.transports⟩
  have unchanged : ∀ t, TaskRight config m t → TaskRight config (KeyTransport.schedule task m) t :=
    fun t right => by cases t <;> exact right
  obtain old | new := List.mem_append.mp mem
  · exact unchanged t (guarded.scheduled t old)
  · rw [List.mem_singleton.mp new]
    exact unchanged task right

/-! ## Sending -/

/-- A command may be sent secured where the device is able to, or unsecured to an
unauthenticated child. -/
theorem Guarded.send (guarded : Guarded config m) {destAddr : UInt16} {key : Key} {q : UInt8}
    {secure : Bool}
    (right : nwkKeyIsEmpty key = false → (secure = true ∧ protects config m.keys = true) ∨
      nwkIsAddressBroadcast destAddr = false ∧
        ∃ ieeeAddress, m.devices ieeeAddress = some ⟨destAddr, some .unauthenticatedChild⟩) :
    Guarded config (apsSendCommand config destAddr key q secure m) := by
  refine guarded.schedule fun nonempty => ?_
  obtain ⟨rfl, means⟩ | child := right nonempty
  · refine .inr ⟨means, ?_⟩
    rw [protects] at means
    split_ifs at means ⊢ with all
    · simp [all]
    · simp [all, means]
  · exact .inl child

/-- NWK secures what it was asked to. -/
theorem keyProtected_of_taskRight {command : Command}
    (right : TaskRight config m (.nldeDataRequest command)) :
    KeyProtected ⟨command, command.securityEnable && m.keys.authenticated &&
      config.secureAllFrames && decide (config.securityLevel ≠ 0)⟩ := by
  intro nonempty
  obtain child | ⟨means, flag⟩ := right nonempty
  · exact .inr child
  · left
    rw [protects] at means
    split_ifs at means flag with all
    · left
      simp only [Bool.and_eq_true] at means
      simp [flag, all, means.1, of_decide_eq_true means.2]
    · exact .inr flag

theorem guarded_runTask (guarded : Guarded config m) (right : TaskRight config m task) :
    Guarded config (runTask config task m) := by
  cases task with
  | nldeDataRequest command =>
    refine ⟨fun t mem => ?_, fun t mem => ?_⟩
    · have old := guarded.scheduled t mem
      cases t <;> exact old
    · obtain old | new := List.mem_append.mp mem
      · exact guarded.transports t old
      · rw [List.mem_singleton.mp new]
        exact keyProtected_of_taskRight right
  | transportKeyRequest req =>
    obtain ⟨dest, useParent, key, q⟩ := req
    dsimp only [runTask, apsmeTransportKeyRequest]
    cases useParent with
    | some parentAddress => exact guarded.send fun nonempty => .inl ⟨rfl, right nonempty⟩
    | none =>
      cases dest with
      | addr16 addr => exact guarded.send fun nonempty => .inl (right nonempty)
      | addr64 addr =>
        refine guarded.send fun nonempty => .inr ?_
        have child : isUnauthenticatedChild (m.devices addr) = true := right nonempty
        unfold isUnauthenticatedChild at child
        split at child
        · rename_i short known
          have found : addressShortByIeee addr m = short := by rw [addressShortByIeee, known]
          rw [found]
          exact ⟨by simpa using child, addr, known⟩
        · contradiction

/-- Running a scheduled task takes it off the schedule. -/
theorem guarded_callback (guarded : Guarded config m) (n : ℕ) :
    Guarded config (step config m (.callback n)) := by
  dsimp only [step]
  cases here : m.scheduled[n]? with
  | none => exact guarded
  | some task =>
    have right := guarded.scheduled task (List.mem_of_getElem? here)
    have taken : Guarded config { m with scheduled := m.scheduled.eraseIdx n } := by
      refine ⟨fun t mem => ?_, guarded.transports⟩
      have old := guarded.scheduled t (List.mem_of_mem_eraseIdx mem)
      cases t <;> exact old
    refine guarded_runTask taken ?_
    cases task <;> exact right

/-! ## Steps -/

/-- A step that sends nothing keeps the guard when it keeps the means and the entries. -/
theorem Guarded.kept (guarded : Guarded config m) {keys : KeyState}
    {devices : IeeeAddr → Option Entry}
    (able : protects config m.keys = true → protects config keys = true)
    (same : ∀ ieeeAddress, awaits ieeeAddress m = true →
      devices ieeeAddress = m.devices ieeeAddress) :
    Guarded config { m with keys := keys, devices := devices } :=
  ⟨fun task mem => (guarded.scheduled task mem).kept mem able same, guarded.transports⟩

theorem protects_of_authenticated {s s' : KeyState}
    (stays : s.authenticated = true → s'.authenticated = true)
    (means : protects config s = true) : protects config s' = true := by
  rw [protects] at means ⊢
  split_ifs at means ⊢ with all
  · simp only [Bool.and_eq_true] at means ⊢
    exact ⟨stays means.1, means.2⟩
  · exact means

theorem guarded_setEntry (guarded : Guarded config m) {ieeeAddress : IeeeAddr}
    (entry : Option Entry) (free : awaits ieeeAddress m = false) :
    Guarded config (setEntry ieeeAddress entry m) := by
  refine guarded.kept id fun other waits => Function.update_of_ne ?_ ..
  rintro rfl
  rw [free] at waits
  contradiction

/-- What a relaying device knows of the destination: a child that waits for its key, or one
that has it, or neither. -/
theorem relayRight_cases {destAddress : IeeeAddr}
    (right : relayRight config destAddress m = true) :
    (∃ addr, m.devices destAddress = some ⟨addr, some .unauthenticatedChild⟩ ∧
      nwkIsAddressBroadcast addr = false ∧ awaits destAddress m = false) ∨
    (∃ addr, m.devices destAddress = some ⟨addr, some .child⟩ ∧
      protects config m.keys = true) ∨
    ∀ addr, m.devices destAddress ≠ some ⟨addr, some .unauthenticatedChild⟩ ∧
      m.devices destAddress ≠ some ⟨addr, some .child⟩ := by
  rw [relayRight] at right
  split at right
  · rename_i addr known
    rw [Bool.and_eq_true, Bool.not_eq_true', Bool.not_eq_true'] at right
    exact .inl ⟨addr, known, right⟩
  · rename_i addr known
    exact .inr (.inl ⟨addr, known, right⟩)
  · rename_i noUnauthenticated noChild
    exact .inr (.inr fun addr => ⟨noUnauthenticated addr, noChild addr⟩)

theorem guarded_inTransportKey (guarded : Guarded config m) (dsc : TransportKeyDsc)
    (right : StepRight config m (.inTransportKey dsc)) :
    Guarded config (step config m (.inTransportKey dsc)) := by
  dsimp only [step, StepRight] at right ⊢
  rw [inTransportKey]
  split_ifs with standard mine
  · refine guarded.kept (protects_of_authenticated fun already => ?_) fun _ _ => rfl
    exact step_authenticated (.transportKey _) already
  · obtain ⟨addr, known, unicast, free⟩ | ⟨addr, known, able⟩ | unknown := relayRight_cases right
    · rw [known]
      have sent : Guarded config (apsSendCommand config addr dsc.key dsc.seqNumber false m) :=
        guarded.send fun _ => .inr ⟨unicast, dsc.destAddress, known⟩
      refine guarded_setEntry sent _ ?_
      rw [awaits, apsSendCommand, schedule, List.any_append]
      simpa [awaits] using free
    · rw [known]
      have sent : Guarded config (apsSendCommand config addr dsc.key dsc.seqNumber true m) :=
        guarded.send fun _ => .inl ⟨rfl, able⟩
      have unchanged : setEntry dsc.destAddress (some ⟨addr, some .child⟩)
          (apsSendCommand config addr dsc.key dsc.seqNumber true m) =
          apsSendCommand config addr dsc.key dsc.seqNumber true m := by
        rw [setEntry, apsSendCommand, schedule, ← known, Function.update_eq_self]
      rwa [← unchanged] at sent
    · split
      · rename_i known
        exact absurd known (unknown _).1
      · rename_i known
        exact absurd known (unknown _).2
      · exact guarded
  · exact guarded

/-- Every step that meets the condition keeps the guard. -/
theorem guarded_step (guarded : Guarded config m) (op : Op) (right : StepRight config m op) :
    Guarded config (step config m op) := by
  cases op with
  | joinIndication ind =>
    dsimp only [step, StepRight] at right ⊢
    rw [authenticateChild]
    split_ifs with center rejoin
    · exact guarded.schedule fun nonempty => absurd nonempty (by
        change ¬ nwkKeyIsEmpty emptyKey = false
        decide)
    · exact guarded.schedule fun _ => right center rejoin
    · exact guarded
  | updateDevice ind allowAuth stale =>
    dsimp only [step, StepRight] at right ⊢
    have request : ∀ key q, allowAuth = true → Guarded config (schedule (.transportKeyRequest
        ⟨.addr64 ind.deviceAddress, some ind.srcAddress, key, q⟩) m) :=
      fun _ _ allowed => guarded.schedule fun _ => right allowed
    rw [updateDeviceIndication]
    cases ind.status with
    | deviceLeft => exact guarded
    | _ =>
      dsimp only
      split_ifs with allowed
      · exact request _ _ allowed
      · exact guarded
  | requestKey srcAddress keyType =>
    dsimp only [step]
    rw [requestKeyIndication, if_neg right]
    exact guarded
  | keyUpdate destBr =>
    dsimp only [step]
    rw [sendNwkKeyUpdateBr]
    split
    · exact guarded.schedule fun _ => right
    · exact guarded
  | inTransportKey dsc => exact guarded_inTransportKey guarded dsc right
  | callback n => exact guarded_callback guarded n
  | entry ieeeAddress entry => exact guarded_setEntry guarded entry right
  | keys op =>
    refine guarded.kept (protects_of_authenticated fun already => ?_) fun _ _ => rfl
    exact step_authenticated op already

/-- **The network key leaves protected.**  From every state with nothing scheduled, in
every run whose steps meet the condition, each transport of a network key is secured or
goes to a child that was not authenticated yet when it was sent. -/
theorem network_key_protected (config : Config) (keys : KeyState)
    (devices : IeeeAddr → Option Entry) (ops : List Op)
    (right : Along (step config) (StepRight config) ⟨keys, devices, [], []⟩ ops) :
    ∀ t ∈ (run (step config) ⟨keys, devices, [], []⟩ ops).transports, KeyProtected t := by
  have keeps : ∀ m op, Guarded config m → StepRight config m op →
      Guarded config (step config m op) := fun _ op guarded right => guarded_step guarded op right
  have clean : Guarded config ⟨keys, devices, [], []⟩ :=
    ⟨fun _ mem => by contradiction, fun _ mem => by contradiction⟩
  exact (invariant_of_along keeps _ ops clean right).transports

instance (config : Config) (m : State) : ∀ op, Decidable (StepRight config m op)
  | .joinIndication _ => inferInstanceAs (Decidable (_ → _ → _))
  | .updateDevice .. => inferInstanceAs (Decidable (_ → _))
  | .requestKey .. => inferInstanceAs (Decidable (¬ (_ ∧ _)))
  | .keyUpdate _ => inferInstanceAs (Decidable (_ ∧ _))
  | .inTransportKey _ => inferInstanceAs (Decidable (_ = true))
  | .callback _ | .keys _ => isTrue trivial
  | .entry .. => inferInstanceAs (Decidable (_ = _))

/-- A trust centre that secures all frames. -/
def centerConfig : Config := ⟨false, true, 5, true, ⟨⟨1, 0, 0⟩, ⟨0, 0, 0, 0, 1⟩⟩⟩

def centerKeys : KeyState :=
  KeyStore.step (initial (some fun _ _ => 9)) (.tcInit ⟨⟨1, 0, 0⟩, ⟨0, 0, 0, 0, 1⟩⟩)

def childAddress : IeeeAddr := ⟨⟨1, 0, 0⟩, ⟨0, 0, 0, 0, 2⟩⟩

/-- A child joins, and is given the key while it is in the tables. -/
def joinOps : List Op :=
  [.entry childAddress (some ⟨1, some .unauthenticatedChild⟩),
    .joinIndication ⟨childAddress, false, false⟩, .callback 0, .callback 0, .keyUpdate 0xFFFD,
    .callback 0, .callback 0]

theorem network_key_protected_joinOps :
    List.Forall KeyProtected
      (run (step centerConfig) ⟨centerKeys, fun _ => none, [], []⟩ joinOps).transports :=
  List.forall_iff_forall_mem.mpr <|
    network_key_protected centerConfig centerKeys (fun _ => none) joinOps (by decide +kernel)

/-- The child leaves before the request runs. -/
def leaveOps : List Op :=
  [.entry childAddress (some ⟨1, some .unauthenticatedChild⟩),
    .joinIndication ⟨childAddress, false, false⟩, .entry childAddress none, .callback 0,
    .callback 0]

/-- Its address is not found then, and the key is broadcast without protection. -/
theorem network_key_broadcast :
    ¬ ∀ config keys devices ops,
      ∀ t ∈ (run (step config) ⟨keys, devices, [], []⟩ ops).transports, KeyProtected t := by
  intro protected_
  obtain ⟨t, sent, nonempty, nwk, aps, broadcast⟩ :
      ∃ t ∈ (run (step centerConfig) ⟨centerKeys, fun _ => none, [], []⟩ leaveOps).transports,
        nwkKeyIsEmpty t.command.key = false ∧ t.nwkSecured = false ∧
          t.command.apsSecured = false ∧ nwkIsAddressBroadcast t.command.destAddr = true := by
    decide +kernel
  obtain (secured | secured) | ⟨unicast, -⟩ := protected_ _ _ _ _ t sent nonempty
  · rw [nwk] at secured
    contradiction
  · rw [aps] at secured
    contradiction
  · rw [broadcast] at unicast
    contradiction

end Zboss.KeyTransport
