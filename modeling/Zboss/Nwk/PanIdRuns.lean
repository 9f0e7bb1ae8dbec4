import Mathlib.Data.List.Nodup
import Mathlib.Order.Nat
import Zboss.Nwk.PanIdConflict

/-!
Runs of the network without overlaps.  In them every device goes to the PAN id it was told, and
the update id it ends with is the one thing that is wrong: a device with the router role has
the one before that of the command.
-/

namespace Zboss.PanIdConflict

open Zboss.Run

/-! ## A device -/

/-- The PAN id the device has when its MLME-STARTs are over. -/
def Node.target (n : Node) : UInt16 := ((n.calls.filterMap Call.panId).getLast?).getD n.panId

/-- What holds of a device in a run without overlaps. -/
structure NodeSound (original : UInt16 × UInt8) (now : ℕ) (n : Node) : Prop where
  one : n.armed ≤ 1
  home : n.goal = none →
    n.armed = 0 ∧ n.calls.filterMap Call.panId = [] ∧ n.panId = original.1
  able : n.goal ≠ none → n.routerRole = true ∧ n.joinedPro = false
  aims : ∀ id t, n.goal = some (id, t) →
    (n.armed ≠ 0 → n.newPanid = id) ∧ (n.armed = 0 → n.target = id)
  early : ∀ id t, n.goal = some (id, t) → now < t + broadcastDeliveryTime →
    (.setPanidAlarm, t + broadcastDeliveryTime) ∈ n.alarms
  told : ∀ upd, n.lastUpdate = some upd → n.updateId = upd.updateId - 1
  untold : n.lastUpdate = none → n.updateId = original.2
  resolving : n.state = .panidConflictResolution → n.calls.any Call.starts = true
  flagged : n.panidConflict = true →
    (n.alarms.any fun a => a.1 = .sendNetworkReport) ∨ n.reportSent ∨ .sendStatusInd ∈ n.waits
  answered : n.panidConflict = true → n.newPanid ≠ 0 → .sendStatusInd ∈ n.waits

namespace NodeSound

variable {original : UInt16 × UInt8} {now : ℕ} {n : Node}

theorem tick (sound : NodeSound original now n) : NodeSound original (now + 1) n :=
  { sound with
    early := fun id t goal later => sound.early id t goal (Nat.lt_of_succ_lt later) }

/-- Nothing of the broadcast matters. -/
theorem withSeen (sound : NodeSound original now n) (seen : List ℕ) :
    NodeSound original now { n with seen := seen } :=
  { sound with }

/-- One more alarm for the switch. -/
theorem armed_push (n : Node) (due : ℕ) :
    (n.alarms ++ [(Alarm.setPanidAlarm, due)]).countP (fun a => a.1 = .setPanidAlarm) =
      n.alarms.countP (fun a => a.1 = .setPanidAlarm) + 1 := by
  simp [List.countP_append]

/-- A round begins at the manager. -/
theorem networkUpdate (sound : NodeSound original now n) (free : n.armed = 0)
    (build : n.routerRole = true ∧ n.joinedPro = false) (clear : n.panidConflict = false)
    (newPanid : UInt16) : NodeSound original now (n.networkUpdate newPanid now) := by
  have one : (n.networkUpdate newPanid now).armed = 1 := by
    unfold Node.armed at free ⊢
    simp only [Node.networkUpdate, Node.updateBeaconPayload, armed_push]
    omega
  exact {
    one := one.le
    home := (nomatch ·)
    able := fun _ => build
    aims := by
      intro id t goal
      cases goal
      exact ⟨fun _ => rfl, fun none_ => absurd (one.symm.trans none_) Nat.one_ne_zero⟩
    early := by
      intro id t goal _
      cases goal
      exact List.mem_append_right _ List.mem_cons_self
    told := sound.told
    untold := sound.untold
    resolving := by
      intro resolution
      rw [Node.networkUpdate, List.any_append]
      exact Bool.or_eq_true_iff.mpr (Or.inl (sound.resolving resolution))
    flagged := fun conflict => absurd (clear.symm.trans conflict) Bool.false_ne_true
    answered := fun conflict => absurd (clear.symm.trans conflict) Bool.false_ne_true }

/-- The handlers of the manager forget what was known and set the state. -/
theorem withKnown (sound : NodeSound original now n) (knownPanids : List UInt16) :
    NodeSound original now { n with knownPanids := knownPanids, state := .idle } :=
  { sound with resolving := fun absurd_ => nomatch absurd_ }

/-- A conflict at a router that is not about to switch, or has one noted. -/
theorem scheduleNetworkReport (sound : NodeSound original now n)
    (calm : n.armed ≠ 0 → n.panidConflict = true) (panid : UInt16) :
    NodeSound original now (n.scheduleNetworkReport panid now) := by
  unfold Node.scheduleNetworkReport
  split
  · exact sound
  · split
    · exact { sound with }
    · rename_i clear
      have free : n.armed = 0 := by
        by_contra armed
        exact clear (calm armed)
      have same : { n with
          knownPanids := rememberPanid panid (List.replicate panidTableSize 0)
          alarms := n.alarms ++ [(Alarm.sendNetworkReport, now + defaultScanDuration)]
          panidConflict := true
          newPanid := 0 }.armed = n.armed := by
        simp [Node.armed, List.countP_append]
      exact { sound with
        one := same.le.trans sound.one
        home := fun goal => ⟨same.trans free, (sound.home goal).2⟩
        aims := fun id t goal =>
          ⟨fun armed => absurd (same.trans free) armed, fun _ => (sound.aims id t goal).2 free⟩
        early := fun id t goal later => List.mem_append_left _ (sound.early id t goal later)
        flagged := fun _ => Or.inl (by simp)
        answered := fun _ absurd_ => absurd rfl absurd_ }

theorem networkUpdateRecv (sound : NodeSound original now n) (free : n.armed = 0)
    (build : n.routerRole = true ∧ n.joinedPro = false) (upd : Update) :
    NodeSound original now (n.networkUpdateRecv upd now) := by
  have after : n.networkUpdateRecv upd now = { n with
      updateId := upd.updateId - 1
      beaconUpdateId := upd.updateId - 1
      newPanid := upd.newPanid
      alarms := n.alarms ++ [(.setPanidAlarm, now + broadcastDeliveryTime)]
      waits := n.waits ++ [.sendStatusInd]
      goal := some (upd.newPanid, now)
      lastUpdate := some upd } := by
    simp only [Node.networkUpdateRecv, build.1, ↓reduceIte, Node.updateBeaconPayload]
  have one : (n.networkUpdateRecv upd now).armed = 1 := by
    rw [after]
    unfold Node.armed at free ⊢
    simp only [armed_push, List.count_append]
    have other : [Wait.sendStatusInd].count Wait.setPanid = 0 := rfl
    omega
  rw [after] at one ⊢
  exact {
    one := one.le
    home := (nomatch ·)
    able := fun _ => build
    aims := by
      intro id t goal
      cases goal
      exact ⟨fun _ => rfl, fun none_ => absurd (one.symm.trans none_) Nat.one_ne_zero⟩
    early := by
      intro id t goal _
      cases goal
      exact List.mem_append_right _ List.mem_cons_self
    told := by
      intro upd' same
      cases same
      rfl
    untold := (nomatch ·)
    resolving := sound.resolving
    flagged := fun _ => Or.inr (Or.inr (List.mem_append_right _ List.mem_cons_self))
    answered := fun _ _ => List.mem_append_right _ List.mem_cons_self }

theorem setPanidAlarm (sound : NodeSound original now n) {due : ℕ}
    (member : (.setPanidAlarm, due) ∈ n.alarms) (reached : due ≤ now) :
    NodeSound original now { n with
      alarms := n.alarms.erase (.setPanidAlarm, due)
      waits := n.waits ++ [.setPanid] } := by
  have same : { n with
      alarms := n.alarms.erase (.setPanidAlarm, due)
      waits := n.waits ++ [Wait.setPanid] }.armed = n.armed := by
    have taken := (List.perm_cons_erase member).countP_eq fun a => a.1 = .setPanidAlarm
    rw [List.countP_cons] at taken
    simp only [Node.armed, List.count_append, taken]
    have one : [Wait.setPanid].count Wait.setPanid = 1 := rfl
    simp only [decide_true, ↓reduceIte]
    omega
  exact { sound with
    one := same.le.trans sound.one
    home := fun goal => ⟨same.trans (sound.home goal).1, (sound.home goal).2⟩
    aims := fun id t goal =>
      ⟨fun armed => (sound.aims id t goal).1 (same ▸ armed),
        fun free => (sound.aims id t goal).2 (same ▸ free)⟩
    early := fun id t goal later => by
      refine (List.mem_erase_of_ne ?_).mpr (sound.early id t goal later)
      intro this
      cases this
      omega
    flagged := fun conflict => by
      rcases sound.flagged conflict with report | sent | told
      · refine Or.inl ?_
        obtain ⟨a, at_, kind⟩ := List.any_eq_true.mp report
        refine List.any_eq_true.mpr ⟨a, (List.mem_erase_of_ne ?_).mpr at_, kind⟩
        rintro rfl
        simp at kind
      · exact Or.inr (Or.inl sent)
      · exact Or.inr (Or.inr (List.mem_append_left _ told))
    answered := fun conflict some_ => List.mem_append_left _ (sound.answered conflict some_) }

/-- The alarm of a report, which is sent unless the new id is there. -/
theorem reportAlarm (sound : NodeSound original now n) (due : ℕ) {reportSent : Bool}
    (sends : reportSent = true ∨ n.panidConflict = true ∧ n.newPanid ≠ 0) :
    NodeSound original now { n with
      alarms := n.alarms.erase (.sendNetworkReport, due)
      reportSent := reportSent } := by
  have same : { n with
      alarms := n.alarms.erase (.sendNetworkReport, due)
      reportSent := reportSent }.armed = n.armed := by
    simp only [Node.armed]
    by_cases member : (Alarm.sendNetworkReport, due) ∈ n.alarms
    · have taken := (List.perm_cons_erase member).countP_eq fun a => a.1 = .setPanidAlarm
      rw [List.countP_cons] at taken
      rw [taken]
      simp
    · rw [List.erase_of_not_mem member]
  exact { sound with
    one := same.le.trans sound.one
    home := fun goal => ⟨same.trans (sound.home goal).1, (sound.home goal).2⟩
    aims := fun id t goal =>
      ⟨fun armed => (sound.aims id t goal).1 (same ▸ armed),
        fun free => (sound.aims id t goal).2 (same ▸ free)⟩
    early := fun id t goal later =>
      (List.mem_erase_of_ne (by simp)).mpr (sound.early id t goal later)
    flagged := fun conflict => by
      rcases sends with sent | ⟨-, some_⟩
      · exact Or.inr (Or.inl sent)
      · exact Or.inr (Or.inr (sound.answered conflict some_)) }

/-- The status indication clears the conflict. -/
theorem sendStatusInd (sound : NodeSound original now n) {rest : List Wait}
    (waits : n.waits = .sendStatusInd :: rest) :
    NodeSound original now { n with waits := rest }.sendStatusInd := by
  have same : { n with waits := rest }.sendStatusInd.armed = n.armed := by
    simp [Node.armed, Node.sendStatusInd, waits]
  exact { sound with
    one := same.le.trans sound.one
    home := fun goal => ⟨same.trans (sound.home goal).1, (sound.home goal).2⟩
    aims := fun id t goal =>
      ⟨fun armed => (sound.aims id t goal).1 (same ▸ armed),
        fun free => (sound.aims id t goal).2 (same ▸ free)⟩
    flagged := fun absurd_ => nomatch absurd_
    answered := fun absurd_ => nomatch absurd_ }

/-- The PAN id that is set is the one the device was told. -/
theorem setPanid (sound : NodeSound original now n) {rest : List Wait}
    (waits : n.waits = .setPanid :: rest) :
    NodeSound original now { n with waits := rest }.setPanid := by
  have armed : n.armed = { n with waits := rest }.setPanid.armed + 1 := by
    simp only [Node.armed, Node.setPanid, waits, List.count_cons_self]
    omega
  have one := sound.one
  have gone : { n with waits := rest }.setPanid.armed = 0 := by omega
  exact { sound with
    one := gone.le.trans (Nat.zero_le 1)
    home := fun goal => absurd (sound.home goal).1 (by omega)
    aims := fun id t goal =>
      ⟨fun armed => absurd gone armed, fun _ => by
        rw [← (sound.aims id t goal).1 (by omega)]
        simp [Node.target, Node.setPanid, Call.panId]⟩
    resolving := fun _ => by simp [Node.setPanid, Call.starts]
    flagged := fun absurd_ => nomatch absurd_
    answered := fun absurd_ => nomatch absurd_ }

/-- The next PAN id is set. -/
theorem startRequest (sound : NodeSound original now n) {panId : UInt16} {rest : List Call}
    (calls : n.calls = .startRequest panId :: rest) :
    NodeSound original now ({ n with calls := rest }.startRequest panId) := by
  have some_ : n.goal ≠ none := by
    intro goal
    have none_ := (sound.home goal).2.1
    simp [calls, Call.panId] at none_
  have after : { n with calls := rest }.startRequest panId =
      { n with panId := panId, calls := rest ++ [.startConfirm] } := by
    simp only [Node.startRequest, if_pos (sound.able some_)]
  have target : { n with panId := panId, calls := rest ++ [Call.startConfirm] }.target =
      n.target := by
    have filtered : (rest ++ [Call.startConfirm]).filterMap Call.panId =
        rest.filterMap Call.panId := by
      rw [List.filterMap_append]
      exact List.append_nil _
    simp only [Node.target, filtered, calls, Call.panId, List.filterMap_cons, List.getLast?_cons,
      Option.getD_some]
  rw [after]
  exact { sound with
    home := fun goal => absurd goal some_
    aims := fun id t goal =>
      ⟨(sound.aims id t goal).1, fun free => target.trans ((sound.aims id t goal).2 free)⟩
    resolving := fun _ => by simp [Call.starts] }

/-- A status indication is going to come. -/
theorem withStatusInd (sound : NodeSound original now n) (seen : List ℕ) :
    NodeSound original now { n with waits := n.waits ++ [.sendStatusInd], seen := seen } := by
  have same : { n with waits := n.waits ++ [Wait.sendStatusInd], seen := seen }.armed =
      n.armed := by
    simp [Node.armed, List.count_append]
  exact { sound with
    one := same.le.trans sound.one
    home := fun goal => ⟨same.trans (sound.home goal).1, (sound.home goal).2⟩
    aims := fun id t goal =>
      ⟨fun armed => (sound.aims id t goal).1 (same ▸ armed),
        fun free => (sound.aims id t goal).2 (same ▸ free)⟩
    flagged := fun _ => Or.inr (Or.inr (List.mem_append_right _ List.mem_cons_self))
    answered := fun _ _ => List.mem_append_right _ List.mem_cons_self }

/-- A callback without a PAN id leaves the list. -/
theorem dropCall (sound : NodeSound original now n) {first : Call} {rest : List Call}
    (calls : n.calls = first :: rest) (none_ : first.panId = none)
    (idle : n.state = .panidConflictResolution → rest.any Call.starts = true) :
    NodeSound original now { n with calls := rest } := by
  have same : n.calls.filterMap Call.panId = rest.filterMap Call.panId := by
    rw [calls, List.filterMap_cons_none none_]
  exact { sound with
    home := fun goal =>
      ⟨(sound.home goal).1, same ▸ (sound.home goal).2.1, (sound.home goal).2.2⟩
    aims := fun id t goal =>
      ⟨(sound.aims id t goal).1, fun free => by
        have target := (sound.aims id t goal).2 free
        rw [Node.target, same] at target
        exact target⟩
    resolving := idle }

/-- The switch is over. -/
theorem startConfirm (sound : NodeSound original now n) {rest : List Call}
    (calls : n.calls = .startConfirm :: rest) :
    NodeSound original now { n with calls := rest }.startConfirm := by
  have idle : NodeSound original now { n with state := .idle } :=
    { sound with resolving := fun absurd_ => nomatch absurd_ }
  exact idle.dropCall calls rfl fun absurd_ => nomatch absurd_

end NodeSound

/-! ## The network -/

/-- What the operations of a device that begin and announce nothing keep. -/
structure Node.Quiet (m n : Node) : Prop where
  build : n.routerRole = m.routerRole ∧ n.joinedPro = m.joinedPro
  epid : n.extPanId = m.extPanId
  seen : ∀ k ∈ m.seen, k ∈ n.seen
  calls : n.calls.count .sendNwkUpdate = m.calls.count .sendNwkUpdate
  told : n.goal = m.goal ∧ n.lastUpdate = m.lastUpdate
  newPanid : n.newPanid = m.newPanid
  clear : m.panidConflict = false → n.panidConflict = false

theorem Node.Quiet.refl (n : Node) : n.Quiet n :=
  ⟨⟨rfl, rfl⟩, rfl, fun _ known => known, rfl, ⟨rfl, rfl⟩, rfl, id⟩

/-- A round is running as long as its update is not announced. -/
structure ManagerSound (w : Network) (m : Node) : Prop where
  build : m.routerRole = true ∧ m.joinedPro = false
  clear : m.panidConflict = false
  knows : ∀ k < w.air.length, k ∈ m.seen
  epids : ∀ upd ∈ w.air, upd.epid = m.extPanId
  rounds : w.rounds = w.announced.length + m.calls.count .sendNwkUpdate
  single : m.calls.count .sendNwkUpdate ≤ 1
  chosen : .sendNwkUpdate ∈ m.calls → m.newPanid ≠ w.before

/-- What holds of the network in a run without overlaps. -/
structure Sound (w : Network) : Prop where
  node : ∀ i, NodeSound (w.original i) w.now (w.nodes i)
  manager : ManagerSound w (w.nodes w.manager)
  announces : ∀ i, .sendNwkUpdate ∈ (w.nodes i).calls → i = w.manager
  foreign : ∀ i, (w.nodes i).extPanId ≠ (w.nodes w.manager).extPanId →
    (w.nodes i).goal = none ∧ (w.nodes i).lastUpdate = none
  rounds : w.announced.map Announcement.round = List.range w.announced.length
  fresh : ∀ a ∈ w.announced, a.newPanid ≠ a.oldPanid

theorem ManagerSound.quiet {w : Network} {m n : Node} (sound : ManagerSound w m)
    (quiet : m.Quiet n) : ManagerSound w n where
  build := ⟨quiet.build.1.trans sound.build.1, quiet.build.2.trans sound.build.2⟩
  clear := quiet.clear sound.clear
  knows k inAir := quiet.seen k (sound.knows k inAir)
  epids upd inAir := (sound.epids upd inAir).trans quiet.epid.symm
  rounds := quiet.calls ▸ sound.rounds
  single := quiet.calls ▸ sound.single
  chosen called := by
    rw [quiet.newPanid]
    refine sound.chosen (List.count_pos_iff.mp ?_)
    rw [← quiet.calls]
    exact List.count_pos_iff.mpr called

theorem Node.busy_eq_false {n : Node} : n.busy = false ↔ n.calls = [] ∧ n.armed = 0 := by
  simp [Node.busy]

namespace Sound

variable {w : Network} {i : ℕ} {n : Node}

/-- One device changes, and what the manager has announced. -/
theorem replace {w' : Network} (sound : Sound w)
    (same : w'.manager = w.manager ∧ w'.now = w.now ∧ w'.original = w.original)
    (nodes : w'.nodes = Function.update w.nodes i n)
    (node : NodeSound (w.original i) w.now n) (epid : n.extPanId = (w.nodes i).extPanId)
    (foreign : n.extPanId ≠ (w.nodes w.manager).extPanId → n.goal = none ∧ n.lastUpdate = none)
    (announces : .sendNwkUpdate ∈ n.calls → i = w.manager)
    (manager : ManagerSound w' (w'.nodes w'.manager))
    (rounds : w'.announced.map Announcement.round = List.range w'.announced.length)
    (fresh : ∀ a ∈ w'.announced, a.newPanid ≠ a.oldPanid) : Sound w' := by
  have managerEpid : (w'.nodes w'.manager).extPanId = (w.nodes w.manager).extPanId := by
    rw [nodes, same.1]
    by_cases at_ : w.manager = i
    · rw [at_, Function.update_self, epid]
    · rw [Function.update_of_ne at_]
  refine ⟨?_, manager, ?_, ?_, rounds, fresh⟩
  · rw [nodes, same.2.1, same.2.2]
    exact (Function.forall_update_iff w.nodes fun j m => NodeSound (w.original j) w.now m).mpr
      ⟨node, fun j _ => sound.node j⟩
  · rw [nodes, same.1]
    exact (Function.forall_update_iff w.nodes fun j m =>
      .sendNwkUpdate ∈ m.calls → j = w.manager).mpr ⟨announces, fun j _ => sound.announces j⟩
  · rw [managerEpid, nodes]
    exact (Function.forall_update_iff w.nodes fun _ m =>
      m.extPanId ≠ (w.nodes w.manager).extPanId → m.goal = none ∧ m.lastUpdate = none).mpr
        ⟨foreign, fun j _ => sound.foreign j⟩

/-- One device changes. -/
theorem setNode (sound : Sound w) (node : NodeSound (w.original i) w.now n)
    (manager : i = w.manager → ManagerSound w n) (epid : n.extPanId = (w.nodes i).extPanId)
    (foreign : n.extPanId ≠ (w.nodes w.manager).extPanId → n.goal = none ∧ n.lastUpdate = none)
    (announces : .sendNwkUpdate ∈ n.calls → i = w.manager) : Sound (w.setNode i n) := by
  have kept : ManagerSound w (Function.update w.nodes i n w.manager) := by
    by_cases at_ : w.manager = i
    · rw [at_, Function.update_self]
      exact manager at_.symm
    · rw [Function.update_of_ne at_]
      exact sound.manager
  exact sound.replace ⟨rfl, rfl, rfl⟩ rfl node epid foreign announces { kept with } sound.rounds
    sound.fresh

/-- A device does something that begins and announces nothing. -/
theorem quiet (sound : Sound w) (node : NodeSound (w.original i) w.now n)
    (quiet : (w.nodes i).Quiet n) : Sound (w.setNode i n) := by
  refine sound.setNode node ?_ quiet.epid ?_ ?_
  · rintro rfl
    exact sound.manager.quiet quiet
  · rw [quiet.epid, quiet.told.1, quiet.told.2]
    exact sound.foreign i
  · intro called
    refine sound.announces i (List.count_pos_iff.mp ?_)
    rw [← quiet.calls]
    exact List.count_pos_iff.mpr called

theorem startRound (sound : Sound w) (free : (w.nodes w.manager).busy = false)
    {newPanid : UInt16} (other : newPanid ≠ (w.nodes w.manager).panId)
    (knownPanids : List UInt16) :
    Sound (w.startRound
      ({ w.nodes w.manager with knownPanids := knownPanids, state := .idle }.networkUpdate
        newPanid w.now)) := by
  obtain ⟨noCalls, unarmed⟩ := Node.busy_eq_false.mp free
  have manager := sound.manager
  have node := ((sound.node w.manager).withKnown knownPanids).networkUpdate unarmed manager.build
    manager.clear newPanid
  have calls : ({ w.nodes w.manager with
      knownPanids := knownPanids
      state := .idle }.networkUpdate newPanid w.now).calls = [.sendNwkUpdate] := by
    show (w.nodes w.manager).calls ++ [.sendNwkUpdate] = _
    rw [noCalls]
    rfl
  have finished := manager.rounds
  rw [noCalls] at finished
  unfold Network.startRound
  simp only [free]
  refine sound.replace ⟨rfl, rfl, rfl⟩ rfl node rfl (absurd rfl ·) (fun _ => rfl) ?_ sound.rounds
    sound.fresh
  simp only [Network.setNode, Function.update_self]
  exact { manager with
    rounds := by
      rw [calls]
      exact congrArg (· + 1) finished
    single := by
      rw [calls]
      exact le_rfl
    chosen := fun _ => other }

/-- A conflict at another device. -/
theorem scheduleNetworkReport (sound : Sound w) (other : i ≠ w.manager)
    (calm : (w.nodes i).armed ≠ 0 → (w.nodes i).panidConflict = true) (panid : UInt16) :
    Sound (w.setNode i ((w.nodes i).scheduleNetworkReport panid w.now)) := by
  have node := (sound.node i).scheduleNetworkReport calm panid
  have kept : ((w.nodes i).scheduleNetworkReport panid w.now).extPanId = (w.nodes i).extPanId ∧
      ((w.nodes i).scheduleNetworkReport panid w.now).calls = (w.nodes i).calls ∧
      ((w.nodes i).scheduleNetworkReport panid w.now).goal = (w.nodes i).goal ∧
      ((w.nodes i).scheduleNetworkReport panid w.now).lastUpdate = (w.nodes i).lastUpdate := by
    unfold Node.scheduleNetworkReport
    split
    · exact ⟨rfl, rfl, rfl, rfl⟩
    · split <;> exact ⟨rfl, rfl, rfl, rfl⟩
  obtain ⟨epid, calls, goal, lastUpdate⟩ := kept
  refine sound.setNode node (absurd · other) epid ?_ ?_
  · rw [epid, goal, lastUpdate]
    exact sound.foreign i
  · rw [calls]
    exact sound.announces i

/-- A device of the same extended PAN takes an update. -/
theorem networkUpdateRecv (sound : Sound w) (other : i ≠ w.manager)
    (build : (w.nodes i).routerRole = true ∧ (w.nodes i).joinedPro = false)
    (free : (w.nodes i).armed = 0) {upd : Update} (seen : List ℕ)
    (same : (w.nodes i).extPanId = (w.nodes w.manager).extPanId) :
    Sound (w.setNode i ({ w.nodes i with seen := seen }.networkUpdateRecv upd w.now)) := by
  have node := ((sound.node i).withSeen seen).networkUpdateRecv free build upd
  have kept : ({ w.nodes i with seen := seen }.networkUpdateRecv upd w.now).extPanId =
      (w.nodes i).extPanId ∧
      ({ w.nodes i with seen := seen }.networkUpdateRecv upd w.now).calls = (w.nodes i).calls := by
    simp only [Node.networkUpdateRecv, build.1, ↓reduceIte, Node.updateBeaconPayload, and_self]
  refine sound.setNode node (absurd · other) kept.1 (absurd (kept.1.trans same) ·) ?_
  rw [kept.2]
  exact sound.announces i

/-- The manager announces the PAN id it has chosen. -/
theorem sendNwkUpdate (sound : Sound w) {rest : List Call}
    (calls : (w.nodes i).calls = .sendNwkUpdate :: rest) :
    Sound (w.sendNwkUpdate i { w.nodes i with calls := rest } true) := by
  obtain rfl := sound.announces i (by rw [calls]; exact List.mem_cons_self)
  have manager := sound.manager
  have chosen := manager.chosen (by rw [calls]; exact List.mem_cons_self)
  have single := manager.single
  have rounds := manager.rounds
  rw [calls, List.count_cons_self] at single rounds
  have last : rest.count .sendNwkUpdate = 0 := by omega
  have round : w.rounds - 1 = w.announced.length := by omega
  have quietly : (w.nodes w.manager).state = .panidConflictResolution →
      rest.any Call.starts = true := by
    intro resolution
    have starts := (sound.node w.manager).resolving resolution
    rw [calls] at starts
    exact starts
  have node := ((sound.node w.manager).dropCall calls rfl quietly).withStatusInd
    ((w.nodes w.manager).seen ++ [w.air.length])
  simp only [Network.sendNwkUpdate, ↓reduceIte]
  refine sound.replace ⟨rfl, rfl, rfl⟩ rfl node rfl (absurd rfl ·) (fun _ => rfl) ?_ ?_ ?_
  · simp only [Network.setNode, Function.update_self]
    exact { manager with
      knows := by
        intro k inAir
        rw [List.length_append] at inAir
        rcases Nat.lt_succ_iff_lt_or_eq.mp inAir with before | rfl
        · exact List.mem_append_left _ (manager.knows k before)
        · exact List.mem_append_right _ List.mem_cons_self
      epids := by
        intro upd inAir
        rcases List.mem_append.mp inAir with before | new
        · exact manager.epids upd before
        · cases List.mem_singleton.mp new
          rfl
      rounds := by
        rw [List.length_append, last]
        exact rounds.trans (by rw [last]; rfl)
      single := last.le.trans (Nat.zero_le 1)
      chosen := fun called => absurd (List.count_pos_iff.mpr called) last.not_gt }
  · rw [List.map_append, List.length_append, List.length_singleton, List.range_succ, sound.rounds]
    exact congrArg (_ ++ [·]) round
  · intro a announced
    rcases List.mem_append.mp announced with before | new
    · exact sound.fresh a before
    · cases List.mem_singleton.mp new
      exact chosen

end Sound

/-! ## Steps -/

theorem Network.deliver_of_received_none {w : Network} {i k : ℕ}
    (none_ : w.received i k = none) :
    w.deliver i k = w ∨
      w.deliver i k = w.setNode i { w.nodes i with seen := (w.nodes i).seen ++ [k] } := by
  unfold Network.deliver
  unfold Network.received at none_
  cases frame : w.air[k]? with
  | none => exact Or.inl rfl
  | some upd =>
    by_cases known : k ∈ (w.nodes i).seen
    · exact Or.inl (if_pos known)
    · rw [if_neg known, frame, Option.filter_eq_none_iff] at none_
      right
      simp only [if_neg known]
      exact if_neg (by simpa using none_ upd rfl)

theorem Network.deliver_of_received {w : Network} {i k : ℕ} {upd : Update}
    (received : w.received i k = some upd) :
    k ∉ (w.nodes i).seen ∧ w.air[k]? = some upd ∧ upd.epid = (w.nodes i).extPanId ∧
      w.deliver i k = w.setNode i
        ({ w.nodes i with seen := (w.nodes i).seen ++ [k] }.networkUpdateRecv upd w.now) := by
  unfold Network.received at received
  split at received
  · cases received
  · rename_i known
    obtain ⟨frame, epid⟩ := Option.filter_eq_some_iff.mp received
    have same : upd.epid = (w.nodes i).extPanId := of_decide_eq_true epid
    refine ⟨known, frame, same, ?_⟩
    simp only [Network.deliver, frame, if_neg known, if_pos same]

namespace Sound

variable {w : Network}

theorem beacon (sound : Sound w) (i : ℕ) (srcPanId : UInt16) (epid : UInt64)
    (draws : List UInt16) (calm : Calm w (.beacon i srcPanId epid draws)) :
    Sound (w.beacon i srcPanId epid draws) := by
  unfold Network.beacon
  split
  · rename_i conflict
    have calm := calm conflict
    split
    · rename_i manager
      rw [if_pos manager] at calm
      subst manager
      split
      · rename_i newPanid chosen
        refine sound.startRound calm.1 ?_ unknownPanids
        rintro rfl
        exact calm.2 chosen
      · exact sound
    · rename_i other
      rw [if_neg other] at calm
      exact sound.scheduleNetworkReport other calm srcPanId
  · exact sound

theorem deliverReport (sound : Sound w) (k : ℕ) (draws : List UInt16)
    (calm : Calm w (.deliverReport k draws)) : Sound (w.deliverReport k draws) := by
  unfold Network.deliverReport
  split
  · exact sound
  · rename_i report frame
    have taken : Sound { w with reports := w.reports.eraseIdx k } :=
      { sound with manager := { sound.manager with } }
    dsimp only
    split
    · exact taken
    · rename_i wanted
      obtain ⟨same, free⟩ := not_or.mp wanted
      have calm := calm report frame (not_not.mp same) (Bool.eq_false_iff.mpr free)
      split
      · rename_i newPanid chosen
        refine taken.startRound calm.1 ?_ (reportedPanids report.panids)
        rintro rfl
        exact calm.2 chosen
      · exact taken

theorem deliver (sound : Sound w) (i k : ℕ) (calm : Calm w (.deliver i k)) :
    Sound (w.deliver i k) := by
  cases received : w.received i k with
  | none =>
    rcases Network.deliver_of_received_none received with after | after
    · rw [after]
      exact sound
    · rw [after]
      exact sound.quiet ((sound.node i).withSeen _) { Node.Quiet.refl (w.nodes i) with
        seen := fun _ known => List.mem_append_left _ known }
  | some upd =>
    obtain ⟨unknown, frame, epid, after⟩ := Network.deliver_of_received received
    obtain ⟨inAir, at_⟩ := List.getElem?_eq_some_iff.mp frame
    obtain ⟨build, free⟩ := calm (by rw [received]; exact Option.some_ne_none upd)
    have other : i ≠ w.manager := by
      rintro rfl
      exact unknown (sound.manager.knows k inAir)
    rw [after]
    refine sound.networkUpdateRecv other build free _ ?_
    rw [← epid]
    exact sound.manager.epids upd (at_ ▸ List.getElem_mem inAir)

theorem alarm (sound : Sound w) (i : ℕ) (alarm : Alarm) (due : ℕ) :
    Sound (w.alarm i alarm due) := by
  unfold Network.alarm
  split
  · rename_i ready
    cases alarm with
    | setPanidAlarm =>
      exact sound.quiet ((sound.node i).setPanidAlarm ready.1 ready.2)
        { Node.Quiet.refl (w.nodes i) with }
    | sendNetworkReport =>
      dsimp only
      split
      · have node := (sound.node i).reportAlarm due (Or.inl rfl)
        have sent := sound.quiet node { Node.Quiet.refl (w.nodes i) with }
        exact { sent with manager := { sent.manager with } }
      · rename_i unsent
        have told : (w.nodes i).panidConflict = true ∧ (w.nodes i).newPanid ≠ 0 := by
          by_contra untold
          simp only [Node.networkReport, if_neg untold] at unsent
          cases unsent
        exact sound.quiet ((sound.node i).reportAlarm due (Or.inr told))
          { Node.Quiet.refl (w.nodes i) with }
  · exact sound

theorem buffer (sound : Sound w) (i : ℕ) : Sound (w.buffer i) := by
  unfold Network.buffer
  split
  · exact sound
  · rename_i rest waits
    exact sound.quiet ((sound.node i).sendStatusInd waits) { Node.Quiet.refl (w.nodes i) with
      clear := fun _ => rfl }
  · rename_i rest waits
    exact sound.quiet ((sound.node i).setPanid waits) { Node.Quiet.refl (w.nodes i) with
      calls := by simp [Node.setPanid, List.count_append]
      clear := fun _ => rfl }

theorem call (sound : Sound w) (i : ℕ) (sent : Bool) (calm : Calm w (.call i sent)) :
    Sound (w.call i sent) := by
  unfold Network.call
  split
  · exact sound
  · rename_i rest calls
    obtain rfl : sent = true := calm (by rw [calls]; rfl)
    exact sound.sendNwkUpdate calls
  · rename_i panId rest calls
    refine sound.quiet ((sound.node i).startRequest calls) ?_
    unfold Node.startRequest
    split
    · exact { Node.Quiet.refl (w.nodes i) with calls := by simp [calls, List.count_append] }
    · exact { Node.Quiet.refl (w.nodes i) with calls := by simp [calls] }
  · rename_i rest calls
    exact sound.quiet ((sound.node i).startConfirm calls) { Node.Quiet.refl (w.nodes i) with
      calls := by simp [calls, Node.startConfirm] }

theorem step (sound : Sound w) (op : Op) (calm : Calm w op) : Sound (step w op) := by
  cases op with
  | tick =>
    exact { sound with
      node := fun i => (sound.node i).tick
      manager := { sound.manager with } }
  | beacon i srcPanId epid draws => exact sound.beacon i srcPanId epid draws calm
  | deliverReport k draws => exact sound.deliverReport k draws calm
  | loseReport k => exact { sound with manager := { sound.manager with } }
  | deliver i k => exact sound.deliver i k calm
  | alarm i alarm due => exact sound.alarm i alarm due
  | buffer i => exact sound.buffer i
  | call i sent => exact sound.call i sent calm

theorem start (start : w.Start) : Sound w where
  node i := by
    obtain ⟨calls, waits, alarms⟩ := start.nothing i
    obtain ⟨goal, lastUpdate⟩ := start.goal i
    have unarmed : (w.nodes i).armed = 0 := by simp [Node.armed, waits, alarms]
    have idle := start.state i
    exact {
      one := unarmed.le.trans (Nat.zero_le 1)
      home := fun _ => ⟨unarmed, by rw [calls]; rfl, by rw [start.ids]⟩
      able := fun some_ => absurd goal some_
      aims := fun id t told => nomatch goal.symm.trans told
      early := fun id t told => nomatch goal.symm.trans told
      told := fun upd told => nomatch lastUpdate.symm.trans told
      untold := fun _ => by rw [start.ids]
      resolving := fun resolution => nomatch idle.1.symm.trans resolution
      flagged := fun conflict => nomatch idle.2.symm.trans conflict
      answered := fun conflict => nomatch idle.2.symm.trans conflict }
  manager := {
    build := start.manager
    clear := (start.state w.manager).2
    knows := by simp [start.air]
    epids := by simp [start.air]
    rounds := by simp [start.rounds, start.announced, (start.nothing w.manager).1]
    single := by simp [(start.nothing w.manager).1]
    chosen := by simp [(start.nothing w.manager).1] }
  announces i called := by
    rw [(start.nothing i).1] at called
    cases called
  foreign i _ := start.goal i
  rounds := by rw [start.announced]; rfl
  fresh := by simp [start.announced]

/-- Without overlaps all devices that are told go to the announced PAN id. -/
theorem switched (sound : Sound w) : w.Switched where
  once := by
    rw [sound.rounds]
    exact List.nodup_range
  each idle r started := by
    have rounds := sound.manager.rounds
    rw [(Node.busy_eq_false.mp idle).1] at rounds
    rw [sound.rounds]
    exact List.mem_range.mpr (started.trans_eq rounds)
  fresh := sound.fresh
  waits i := (sound.node i).early
  switches i id t told idle := by
    obtain ⟨noCalls, unarmed⟩ := Node.busy_eq_false.mp idle
    rw [← ((sound.node i).aims id t told).2 unarmed, Node.target, noCalls]
    rfl
  ignores i other := by
    obtain ⟨goal, lastUpdate⟩ := sound.foreign i other
    exact ⟨((sound.node i).home goal).2.2, (sound.node i).untold lastUpdate⟩
  handles i idle := by
    refine ⟨?_, (sound.node i).flagged⟩
    cases state : (w.nodes i).state with
    | idle => rfl
    | panidConflictResolution =>
      have starts := (sound.node i).resolving state
      rw [(Node.busy_eq_false.mp idle).1] at starts
      cases starts

end Sound

/-! ## What is told -/

namespace Network

variable {w : Network}

theorem update_lastUpdate {nodes : ℕ → Node} {i : ℕ} {n : Node}
    (same : n.lastUpdate = (nodes i).lastUpdate) (j : ℕ) :
    (Function.update nodes i n j).lastUpdate = (nodes j).lastUpdate := by
  by_cases at_ : j = i
  · subst at_
    rw [Function.update_self, same]
  · rw [Function.update_of_ne at_]

theorem lastUpdate_of_untold {op : Op} (untold : Untold w op) (j : ℕ) :
    ((step w op).nodes j).lastUpdate = (w.nodes j).lastUpdate := by
  cases op with
  | tick => rfl
  | beacon i srcPanId epid draws =>
    show ((w.beacon i srcPanId epid draws).nodes j).lastUpdate = _
    unfold Network.beacon
    split
    · split
      · rename_i manager
        split
        · exact update_lastUpdate (by rw [manager]; rfl) j
        · rfl
      · refine update_lastUpdate ?_ j
        unfold Node.scheduleNetworkReport
        split
        · rfl
        · split <;> rfl
    · rfl
  | deliverReport k draws =>
    show ((w.deliverReport k draws).nodes j).lastUpdate = _
    unfold Network.deliverReport
    split
    · rfl
    · dsimp only
      split
      · rfl
      · split
        · exact update_lastUpdate (by rfl) j
        · rfl
  | loseReport k => rfl
  | deliver i k =>
    rcases deliver_of_received_none untold with after | after
    · exact congrArg (fun w' : Network => (w'.nodes j).lastUpdate) after
    · refine (congrArg (fun w' : Network => (w'.nodes j).lastUpdate) after).trans ?_
      exact update_lastUpdate (by rfl) j
  | alarm i alarm due =>
    show ((w.alarm i alarm due).nodes j).lastUpdate = _
    unfold Network.alarm
    split
    · cases alarm with
      | setPanidAlarm => exact update_lastUpdate (by rfl) j
      | sendNetworkReport =>
        dsimp only
        split <;> exact update_lastUpdate (by rfl) j
    · rfl
  | buffer i =>
    show ((w.buffer i).nodes j).lastUpdate = _
    unfold Network.buffer
    split
    · rfl
    · exact update_lastUpdate (by rfl) j
    · exact update_lastUpdate (by rfl) j
  | call i sent =>
    show ((w.call i sent).nodes j).lastUpdate = _
    unfold Network.call
    split
    · rfl
    · unfold Network.sendNwkUpdate
      split <;> exact update_lastUpdate (by rfl) j
    · refine update_lastUpdate ?_ j
      unfold Node.startRequest
      split <;> rfl
    · exact update_lastUpdate (by rfl) j

theorem lastUpdate_of_told {op : Op} (told : ¬Untold w op) :
    ∃ i, ((step w op).nodes i).lastUpdate ≠ none := by
  cases op with
  | deliver i k =>
    obtain ⟨upd, received⟩ := Option.ne_none_iff_exists'.mp told
    obtain ⟨-, -, -, after⟩ := deliver_of_received received
    refine ⟨i, ?_⟩
    show ((w.deliver i k).nodes i).lastUpdate ≠ none
    rw [after]
    show (Function.update w.nodes i _ i).lastUpdate ≠ none
    rw [Function.update_self]
    exact Option.some_ne_none upd
  | _ => exact absurd trivial told

/-- What is told stays told. -/
theorem lastUpdate_stays (op : Op) {i : ℕ} (told : (w.nodes i).lastUpdate ≠ none) :
    ((step w op).nodes i).lastUpdate ≠ none := by
  by_cases untold : Untold w op
  · rw [lastUpdate_of_untold untold]
    exact told
  · cases op with
    | deliver j k =>
      obtain ⟨upd, received⟩ := Option.ne_none_iff_exists'.mp untold
      obtain ⟨-, -, -, after⟩ := deliver_of_received received
      show ((w.deliver j k).nodes i).lastUpdate ≠ none
      rw [after]
      show (Function.update w.nodes j _ i).lastUpdate ≠ none
      by_cases at_ : i = j
      · subst at_
        rw [Function.update_self]
        exact Option.some_ne_none upd
      · rw [Function.update_of_ne at_]
        exact told
    | _ => exact absurd trivial untold

/-- No device is told a PAN id exactly in the runs in which no step tells one. -/
theorem untold_iff {ops : List Op} (initial : ∀ i, (w.nodes i).lastUpdate = none) :
    (∀ i, ((run step w ops).nodes i).lastUpdate = none) ↔ Along step Untold w ops := by
  constructor
  · intro none_
    induction ops generalizing w with
    | nil => trivial
    | cons op rest induction_ =>
      have untold : Untold w op := by
        by_contra told
        obtain ⟨i, at_⟩ := lastUpdate_of_told told
        exact invariant_of_run (fun w' op' => lastUpdate_stays op' (w := w')) _ rest at_ (none_ i)
      refine ⟨untold, induction_ (fun i => ?_) none_⟩
      rw [lastUpdate_of_untold untold, initial i]
  · intro untold
    induction ops generalizing w with
    | nil => exact initial
    | cons op rest induction_ =>
      refine induction_ (fun i => ?_) untold.2
      rw [lastUpdate_of_untold untold.1, initial i]

end Network

theorem UInt8.sub_one_ne (x : UInt8) : x - 1 ≠ x := by
  intro same
  have := congrArg UInt8.toNat same
  have lt := x.toNat_lt
  rw [UInt8.toNat_sub] at this
  have one : (1 : UInt8).toNat = 1 := rfl
  omega

/-- In a run without overlaps every device that is told goes to the announced PAN id, and the
network agrees also on the update id exactly if no device was told anything. -/
theorem Network.agreed_iff_untold {w : Network} {ops : List Op} (start : w.Start)
    (calm : Along step Calm w ops) :
    (run step w ops).Switched ∧ ((run step w ops).Agreed ↔ Along step Untold w ops) := by
  have sound : Sound (run step w ops) :=
    invariant_of_along (fun _ op sound calm => sound.step op calm) w ops (Sound.start start) calm
  refine ⟨sound.switched, ?_⟩
  rw [← Network.untold_iff fun i => (start.goal i).2]
  constructor
  · intro agreed i
    cases told : ((run step w ops).nodes i).lastUpdate with
    | none => rfl
    | some upd =>
      have decremented := (sound.node i).told upd told
      exact absurd (decremented.symm.trans (agreed.updateIds i upd told)) (UInt8.sub_one_ne _)
  · intro none_
    exact {
      sound.switched with
      updateIds := fun i upd told => nomatch (none_ i).symm.trans told }

/-! ## A network of three devices -/

/-- A device with the router role that has joined. -/
def router (panId : UInt16) (extPanId : UInt64) : Node where
  routerRole := true
  joined := true
  joinedPro := false
  state := .idle
  extPanId := extPanId
  panId := panId
  updateId := 0
  beaconUpdateId := 0
  knownPanids := unknownPanids
  newPanid := 0
  panidConflict := false
  calls := []
  waits := []
  alarms := []
  seen := []
  indicated := []
  goal := none
  lastUpdate := none
  reportSent := false

/-- A manager, a foreign router as device 2, and routers of the manager. -/
def neighbors : Network where
  manager := 0
  now := 0
  nodes := fun i => if i = 2 then router 0x1aaa 8 else router 0x1aaa 7
  air := []
  reports := []
  original := fun _ => (0x1aaa, 0)
  rounds := 0
  before := 0
  announced := []

theorem neighbors_nodes (i : ℕ) : ∃ epid, neighbors.nodes i = router 0x1aaa epid := by
  by_cases foreign : i = 2
  · exact ⟨8, if_pos foreign⟩
  · exact ⟨7, if_neg foreign⟩

theorem neighbors_start : neighbors.Start where
  manager := ⟨rfl, rfl⟩
  ids i := by
    obtain ⟨epid, at_⟩ := neighbors_nodes i
    rw [at_]
    rfl
  state i := by
    obtain ⟨epid, at_⟩ := neighbors_nodes i
    rw [at_]
    exact ⟨rfl, rfl⟩
  nothing i := by
    obtain ⟨epid, at_⟩ := neighbors_nodes i
    rw [at_]
    exact ⟨rfl, rfl, rfl⟩
  goal i := by
    obtain ⟨epid, at_⟩ := neighbors_nodes i
    rw [at_]
    exact ⟨rfl, rfl⟩
  air := rfl
  rounds := rfl
  announced := rfl

/-- A router reports the conflict, the manager draws 0x2bbb, and all switch. -/
def conflictRound : List Op :=
  [.beacon 1 0x1aaa 8 []] ++ List.replicate 3 .tick ++
  [.alarm 1 .sendNetworkReport 3, .deliverReport 0 [0x2bbb], .call 0 true, .deliver 1 0,
    .deliver 2 0, .buffer 0, .buffer 1] ++ List.replicate 9 .tick ++
  [.alarm 0 .setPanidAlarm 12, .alarm 1 .setPanidAlarm 12, .buffer 0, .buffer 1, .call 0 true,
    .call 1 true, .call 0 true, .call 1 true]

/-- The router has switched. -/
example : ((run step neighbors conflictRound).nodes 1).panId = 0x2bbb := by decide

theorem Network.agreed_iff_untold_conflictRound :
    (run step neighbors conflictRound).Switched ∧
      ((run step neighbors conflictRound).Agreed ↔
        Along step Untold neighbors conflictRound) :=
  Network.agreed_iff_untold neighbors_start (by decide)

/-- The router ends with the update id 255 where the command has 0. -/
theorem Network.conflictRound_disagrees :
    ¬∀ (w : Network) (ops : List Op), w.Start → (run step w ops).Agreed := by
  intro all
  have updateId := (all neighbors conflictRound neighbors_start).updateIds 1
    { epid := 7, updateId := 0, newPanid := 0x2bbb } (by decide)
  exact absurd updateId (by decide)

end Zboss.PanIdConflict
