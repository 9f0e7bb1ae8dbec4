import Zboss.Aps.AckData

/-!
Who has the buffers of acknowledged frames, over runs.  The buffer of an entry is with the
network layer until its confirm, and the entry ends with the confirm or an alarm.  This goes
wrong where an acknowledgement is matched with an entry that has one already or with a free
one, where it has the format of the other kind of frame, where the table is full, where a node
that is not joined cuts headers off a frame that has none, and where there is no room for a
callback or an alarm.
-/

namespace Zboss.Aps

open Zboss.FrameHeaders Zboss.Run
open Zboss.DynamicTables (BufRef)

/-! ## The frame controls of this layer -/

theorem ApsdeDataReq.frameControl_data {req : ApsdeDataReq} (secured : Bool)
    (wants : req.wantsAck = true) :
    apsFcGetAckRequest (req.frameControl secured) = true ∧
      apsFcGetFrameType (req.frameControl secured) ≠ apsFrameAck ∧
      apsFcGetAckFormat (req.frameControl secured) = false := by
  obtain ⟨data, -, format, -, asks⟩ := req.frameControl_bits secured
  rw [asks, data]
  exact ⟨wants, by decide, format⟩

theorem Layer.commandFc_command (w : Layer) (secure : Bool) :
    apsFcGetAckRequest (w.commandFc true secure) = true ∧
      apsFcGetFrameType (w.commandFc true secure) ≠ apsFrameAck ∧
      apsFcGetAckFormat (w.commandFc true secure) = true := by
  rw [commandFc]
  split <;> decide

/-! ## The property -/

/-- What becomes of the buffer of a request and of a command. -/
def Kind.outcome : Kind → Outcome
  | data => .confirmed
  | command => .freed

namespace Layer

/-- The buffers are in order: one is given away only when neither a lower layer nor an entry
has it; each request and command is in one entry or has been released, once; then a request
has been confirmed and a command has been freed; and for each entry an alarm and, until the
confirm, the buffer in the network layer are outstanding. -/
structure Owned (w : Layer) : Prop where
  notHeld : ∀ r ∈ w.released, r.held = false
  once : (w.released.filterMap (·.request) ++ w.inUse.map w.request).Perm
    (List.range w.issued.length)
  outcome : ∀ r ∈ w.released, ∀ n ∈ r.request, ∃ kind ∈ w.issued[n]?, r.outcome = kind.outcome
  awaited : ∀ i ∈ w.inUse, i ∈ w.alarms ∧
    ((w.hash i).buf ∈ w.nwk ↔ (w.hash i).state ≠ .sentMacConfirmed)

/-- The event brings entry `i` further: the network layer confirms its buffer or, when it has,
the alarm goes off. -/
def Serves (w : Layer) (i : ℕ) : Event → Prop
  | .confirm param _ | .notJoined param _ _ => param ∈ w.nwk ∧ (w.hash i).buf = param
  | .alarm j _ _ => j ∈ w.alarms ∧ i = j ∧ (w.hash i).state = .sentMacConfirmed
  | _ => False

instance (w : Layer) (i : ℕ) : (event : Event) → Decidable (w.Serves i event)
  | .confirm .. | .notJoined .. => inferInstanceAs (Decidable (_ ∧ _))
  | .alarm _ _ _ => inferInstanceAs (Decidable (_ ∧ _ ∧ _))
  | .request .. | .command .. | .sendAck .. | .ack .. => isFalse fun h => h

/-- How many events can still bring an entry further: a confirm and an alarm for each
transmission. -/
def remaining (ent : RetransEnt) : ℕ :=
  match ent.state with
  | .free => 0
  | .sentMacNotConfirmed => 2 * max ent.apsRetries 1
  | .sentMacNotConfirmedApsAcked => 1
  | .sentMacConfirmed => 2 * max ent.apsRetries 1 - 1

/-- The number of events of a run that bring entry `i` further. -/
def served (w : Layer) (i : ℕ) : List Event → ℕ
  | [] => 0
  | event :: rest => (if w.Serves i event then 1 else 0) + (step w event).served i rest

/-- Entry `i` becomes free at some point of the run. -/
def Frees (w : Layer) (i : ℕ) (events : List Event) : Prop :=
  ∃ before after, events = before ++ after ∧ ((run step w before).hash i).state = .free

end Layer

/-! ## When it holds -/

/-- The destination is looked for in the binding table and is not there. -/
def ApsdeDataReq.NotBound (req : ApsdeDataReq) : Prop :=
  req.addrMode = .dstAddrEndpNotPresent ∧ req.bound = false

/-- The destination has no short address yet. -/
def ApsdeDataReq.Waits (req : ApsdeDataReq) : Prop :=
  req.addrMode = .dstAddrEndpNotPresent ∧ req.dstAddr = unknownShortAddr

instance (req : ApsdeDataReq) : Decidable req.NotBound := inferInstanceAs (Decidable (_ ∧ _))

instance (req : ApsdeDataReq) : Decidable req.Waits := inferInstanceAs (Decidable (_ ∧ _))

/-- The octet says what the frame control says of the frame that wants an acknowledgement: no
acknowledgement itself, one is asked for, and its format. -/
def LikeControl (fc octet : UInt8) : Prop :=
  apsFcGetFrameType octet ≠ apsFrameAck ∧ apsFcGetAckRequest octet = true ∧
    apsFcGetAckFormat octet = apsFcGetAckFormat fc

instance (fc octet : UInt8) : Decidable (LikeControl fc octet) :=
  inferInstanceAs (Decidable (_ ∧ _ ∧ _))

/-- A request finds a free entry before the last one; an acknowledgement is for an entry that
has none yet, and where it ends the entry it has the format of its frame; what a node that is
not joined takes for the frame control of an entry's frame is like it; and there is room for the
callbacks and alarms that are made. -/
def Regular (w : Layer) : Event → Prop
  | .request param req callbackOk alarmOk =>
    w.Idle param → req.wantsAck = true →
      if req.NotBound then callbackOk = true
      else req.Waits ∨ callbackOk = true ∧ alarmOk = true ∧
        ∃ i ∈ w.firstFree, i < nApsRetransEntries - 1
  | .command param destAddr _ callbackOk alarmOk =>
    w.Idle param → nwkIsAddressBroadcast destAddr = false → w.firstFree ≠ none →
      callbackOk = true ∧ alarmOk = true
  | .sendAck .. => True
  | .confirm param callbackOk =>
    param ∈ w.nwk → ∀ i ∈ w.findBuf param,
      (w.hash i).state = .sentMacNotConfirmedApsAcked →
        apsFcGetAckFormat (w.fc param) = false → callbackOk = true
  | .notJoined param first callbackOk =>
    param ∈ w.nwk → ∀ i ∈ w.findBuf param, LikeControl (w.fc param) first ∧
      ((w.hash i).state = .sentMacNotConfirmedApsAcked →
        apsFcGetAckFormat first = false → callbackOk = true)
  | .ack hdr callbackOk =>
    ∀ i ∈ w.findAcked hdr, (w.hash i).state = .sentMacNotConfirmed ∨
      (w.hash i).state = .sentMacConfirmed ∧
        apsFcGetAckFormat hdr.fc = apsFcGetAckFormat (w.fc (w.hash i).buf) ∧
          (apsFcGetAckFormat hdr.fc = false → callbackOk = true)
  | .alarm i callbackOk alarmOk =>
    i ∈ w.alarms →
      if (w.hash i).apsRetries ≤ 1 ∧ (w.hash i).state = .sentMacConfirmed then
        apsFcGetAckFormat (w.fc (w.hash i).buf) = false → callbackOk = true
      else alarmOk = true ∧ ((w.hash i).state = .sentMacConfirmed → callbackOk = true)

/-! ## The invariant -/

namespace Layer

variable {w : Layer}

theorem mem_inUse {i : ℕ} : i ∈ w.inUse ↔ i < nApsRetransEntries ∧ w.Used i := by
  rw [inUse, List.mem_filter, List.mem_range, decide_eq_true_eq]

theorem nodup_inUse (w : Layer) : w.inUse.Nodup := List.nodup_range.filter _

/-- An entry with its frame: the kind of frame is that of the request, the alarm is running,
and the network layer has the buffer until its confirm. -/
structure Tracked (w : Layer) (i : ℕ) : Prop where
  buf : (w.hash i).buf ≠ noBuf
  ackRequest : apsFcGetAckRequest (w.fc (w.hash i).buf) = true
  frameType : apsFcGetFrameType (w.fc (w.hash i).buf) ≠ apsFrameAck
  kind : w.issued[w.request i]? =
    some (if apsFcGetAckFormat (w.fc (w.hash i).buf) then .command else .data)
  alarm : i ∈ w.alarms
  held : (w.hash i).buf ∈ w.nwk ↔ (w.hash i).state ≠ .sentMacConfirmed

/-- What holds in every state of a run whose events are regular. -/
structure Sound (w : Layer) : Prop where
  tracked : ∀ i ∈ w.inUse, w.Tracked i
  distinct : ∀ i ∈ w.inUse, ∀ j ∈ w.inUse, (w.hash i).buf = (w.hash j).buf → i = j
  free : ∀ i ∉ w.inUse, (w.hash i).buf = noBuf
  alarms : w.alarms.Nodup
  alarmsUsed : ∀ i ∈ w.alarms, i ∈ w.inUse
  nwk : w.nwk.Nodup
  nwkProper : noBuf ∉ w.nwk
  notHeld : ∀ r ∈ w.released, r.held = false
  once : (w.released.filterMap (·.request) ++ w.inUse.map w.request).Perm
    (List.range w.issued.length)
  outcome : ∀ r ∈ w.released, ∀ n ∈ r.request, ∃ kind ∈ w.issued[n]?, r.outcome = kind.outcome

theorem Sound.owned (sound : w.Sound) : w.Owned where
  notHeld := sound.notHeld
  once := sound.once
  outcome := sound.outcome
  awaited i used := ⟨(sound.tracked i used).alarm, (sound.tracked i used).held⟩

theorem inUse_init (apsCounter : UInt8) (secureAllFrames : Bool) :
    (init apsCounter secureAllFrames).inUse = [] := by
  rw [inUse, List.filter_eq_nil_iff]
  simp [init, Used]

theorem sound_init (apsCounter : UInt8) (secureAllFrames : Bool) :
    (init apsCounter secureAllFrames).Sound where
  tracked := by simp [inUse_init]
  distinct := by simp [inUse_init]
  free _ _ := rfl
  alarms := List.nodup_nil
  alarmsUsed := by simp [init]
  nwk := List.nodup_nil
  nwkProper := by simp [init]
  notHeld := by simp [init]
  once := by
    rw [inUse_init]
    rfl
  outcome := by simp [init]

/-! ### The moves -/

/-- The entries stay, with their buffers, and nothing is given away. -/
theorem Sound.frame (sound : w.Sound) {w' : Layer} (inUse : w'.inUse = w.inUse)
    (buf : ∀ i, (w'.hash i).buf = (w.hash i).buf)
    (fc : ∀ i ∈ w.inUse, w'.fc (w.hash i).buf = w.fc (w.hash i).buf)
    (issued : w'.issued = w.issued) (request : w'.request = w.request)
    (released : w'.released = w.released) (alarms : w'.alarms.Nodup)
    (alarmsSame : ∀ i, i ∈ w'.alarms ↔ i ∈ w.alarms) (nwk : w'.nwk.Nodup)
    (proper : noBuf ∉ w'.nwk)
    (held : ∀ i ∈ w.inUse, (w.hash i).buf ∈ w'.nwk ↔ (w'.hash i).state ≠ .sentMacConfirmed) :
    w'.Sound where
  tracked i used := by
    rw [inUse] at used
    have was := sound.tracked i used
    exact {
      buf := by rw [buf]; exact was.buf
      ackRequest := by rw [buf, fc i used]; exact was.ackRequest
      frameType := by rw [buf, fc i used]; exact was.frameType
      kind := by rw [buf, fc i used, issued, request]; exact was.kind
      alarm := (alarmsSame i).mpr was.alarm
      held := by rw [buf]; exact held i used }
  distinct i used j used' same := by
    rw [inUse] at used used'
    rw [buf, buf] at same
    exact sound.distinct i used j used' same
  free i unused := by
    rw [inUse] at unused
    rw [buf, sound.free i unused]
  alarms := alarms
  alarmsUsed i member := by
    rw [inUse]
    exact sound.alarmsUsed i ((alarmsSame i).mp member)
  nwk := nwk
  nwkProper := proper
  notHeld := by
    rw [released]
    exact sound.notHeld
  once := by
    rw [released, inUse, request, issued]
    exact sound.once
  outcome := by
    rw [released, issued]
    exact sound.outcome

/-- A buffer that no entry has is given away. -/
theorem Sound.release (sound : w.Sound) {buf : BufRef} (away : buf ∉ w.nwk)
    (unkept : ¬ w.Keeps buf) (outcome : Outcome) : (w.release buf none outcome).Sound :=
  { sound with
    tracked := by
      intro i used
      obtain ⟨proper, ackRequest, frameType, kind, alarm, held⟩ := sound.tracked i used
      exact ⟨proper, ackRequest, frameType, kind, alarm, held⟩
    notHeld := by
      intro r member
      rcases List.mem_cons.mp member with rfl | old
      · simp [away, unkept]
      · exact sound.notHeld r old
    once := by
      rw [Layer.release, List.filterMap_cons_none rfl]
      exact sound.once
    outcome := by
      intro r member n mine
      rcases List.mem_cons.mp member with rfl | old
      · cases mine
      · exact sound.outcome r old n mine }

theorem mem_inUse_setEnt {i j : ℕ} {ent : RetransEnt} (other : j ≠ i) :
    j ∈ (w.setEnt i ent).inUse ↔ j ∈ w.inUse := by
  rw [mem_inUse, mem_inUse, Used, Used, setEnt_hash, Function.update_of_ne other]

/-- The entries where one is rewritten that stays used. -/
theorem inUse_setEnt {i : ℕ} {ent : RetransEnt} (used : i ∈ w.inUse) (still : ent.state ≠ .free) :
    (w.setEnt i ent).inUse = w.inUse := by
  apply List.filter_congr
  intro j _
  rw [decide_eq_decide]
  by_cases here : j = i
  · subst here
    exact iff_of_true (by simp [Used, still]) (mem_inUse.mp used).2
  · rw [Used, Used, setEnt_hash, Function.update_of_ne here]

/-- The entries where a free one is taken. -/
theorem inUse_setEnt_perm {i : ℕ} {ent : RetransEnt} (inside : i < nApsRetransEntries)
    (free : i ∉ w.inUse) (taken : ent.state ≠ .free) :
    (w.setEnt i ent).inUse.Perm (i :: w.inUse) := by
  rw [List.perm_ext_iff_of_nodup (nodup_inUse _) (List.nodup_cons.mpr ⟨free, nodup_inUse w⟩)]
  intro j
  rw [List.mem_cons]
  by_cases here : j = i
  · subst here
    simp [mem_inUse, Used, inside, taken]
  · rw [mem_inUse_setEnt here]
    simp [here]

/-- The entries where one becomes free. -/
theorem inUse_perm_setEnt {i : ℕ} {ent : RetransEnt} (used : i ∈ w.inUse)
    (freed : ent.state = .free) : w.inUse.Perm (i :: (w.setEnt i ent).inUse) := by
  have gone : i ∉ (w.setEnt i ent).inUse := by simp [mem_inUse, Used, freed]
  rw [List.perm_ext_iff_of_nodup (nodup_inUse w) (List.nodup_cons.mpr ⟨gone, nodup_inUse _⟩)]
  intro j
  rw [List.mem_cons]
  by_cases here : j = i
  · subst here
    simp [used]
  · rw [mem_inUse_setEnt here]
    simp [here]

theorem inUse_congr {w' : Layer} (hash : w'.hash = w.hash) : w'.inUse = w.inUse := by
  apply List.filter_congr
  intro i _
  rw [decide_eq_decide, Used, Used, hash]

theorem Tracked.frame {i : ℕ} (was : w.Tracked i) {w' : Layer} (hash : w'.hash i = w.hash i)
    (fc : w'.fc (w.hash i).buf = w.fc (w.hash i).buf)
    (kind : w'.issued[w'.request i]? = w.issued[w.request i]?) (alarm : i ∈ w'.alarms)
    (nwk : (w.hash i).buf ∈ w'.nwk ↔ (w.hash i).buf ∈ w.nwk) : w'.Tracked i where
  buf := by
    rw [hash]
    exact was.buf
  ackRequest := by
    rw [hash, fc]
    exact was.ackRequest
  frameType := by
    rw [hash, fc]
    exact was.frameType
  kind := by
    rw [hash, fc, kind]
    exact was.kind
  alarm := alarm
  held := by
    rw [hash, nwk]
    exact was.held

/-- A free entry is taken for a request or command whose buffer goes to the network layer. -/
theorem Sound.take (sound : w.Sound) (kind : Kind) (ent : RetransEnt) {w' : Layer} {i : ℕ}
    {control : UInt8} (inside : i < nApsRetransEntries) (unused : i ∉ w.inUse)
    (sent : ent.state = .sentMacNotConfirmed) (idle : w.Idle ent.buf)
    (hash : w'.hash = Function.update w.hash i ent) (issued : w'.issued = w.issued ++ [kind])
    (request : w'.request = Function.update w.request i w.issued.length)
    (released : w'.released = w.released) (alarms : w'.alarms = i :: w.alarms)
    (nwk : w'.nwk = ent.buf :: w.nwk) (fc : w'.fc = Function.update w.fc ent.buf control)
    (ackRequest : apsFcGetAckRequest control = true)
    (frameType : apsFcGetFrameType control ≠ apsFrameAck)
    (kind_ : kind = if apsFcGetAckFormat control then .command else .data) : w'.Sound := by
  obtain ⟨proper, away, unkept⟩ := idle
  have inUse : w'.inUse.Perm (i :: w.inUse) := by
    rw [inUse_congr (w := w.setEnt i ent) hash]
    exact inUse_setEnt_perm inside unused (by simp [sent])
  have others : ∀ j ∈ w.inUse, j ≠ i ∧ (w.hash j).buf ≠ ent.buf := by
    intro j used
    exact ⟨fun here => unused (here ▸ used), fun same => unkept ⟨j, used, same⟩⟩
  have numbered : ∀ (n : ℕ) (k : Kind), w.issued[n]? = some k → w'.issued[n]? = some k := by
    intro n k got
    rw [issued, List.getElem?_append_left (List.getElem?_eq_some_iff.mp got).1, got]
  refine ⟨?_, ?_, ?_, ?_, ?_, ?_, ?_, ?_, ?_, ?_⟩
  · intro j used
    rcases List.mem_cons.mp (inUse.mem_iff.mp used) with rfl | old
    · have here : w'.hash j = ent := by rw [hash, Function.update_self]
      exact {
        buf := by rwa [here]
        ackRequest := by rwa [here, fc, Function.update_self]
        frameType := by rwa [here, fc, Function.update_self]
        kind := by
          rw [here, issued, request, fc, Function.update_self, Function.update_self, ← kind_,
            List.getElem?_concat_length]
        alarm := by
          rw [alarms]
          exact List.mem_cons_self
        held := by simp [here, nwk, sent] }
    · obtain ⟨other, differs⟩ := others j old
      have was := sound.tracked j old
      refine was.frame (by rw [hash, Function.update_of_ne other])
        (by rw [fc, Function.update_of_ne differs]) ?_ ?_ ?_
      · rw [request, Function.update_of_ne other, numbered _ _ was.kind, was.kind]
      · rw [alarms]
        exact List.mem_cons_of_mem i was.alarm
      · rw [nwk, List.mem_cons]
        simp [differs]
  · intro j used k used' same
    rw [hash] at same
    rcases List.mem_cons.mp (inUse.mem_iff.mp used) with rfl | old
    · rcases List.mem_cons.mp (inUse.mem_iff.mp used') with rfl | old'
      · rfl
      · obtain ⟨other, differs⟩ := others k old'
        rw [Function.update_self, Function.update_of_ne other] at same
        exact absurd same.symm differs
    · obtain ⟨other, differs⟩ := others j old
      rw [Function.update_of_ne other] at same
      rcases List.mem_cons.mp (inUse.mem_iff.mp used') with rfl | old'
      · rw [Function.update_self] at same
        exact absurd same differs
      · rw [Function.update_of_ne (others k old').1] at same
        exact sound.distinct j old k old' same
  · intro j free
    rw [inUse.mem_iff, List.mem_cons, not_or] at free
    rw [hash, Function.update_of_ne free.1]
    exact sound.free j free.2
  · rw [alarms, List.nodup_cons]
    exact ⟨fun running => unused (sound.alarmsUsed i running), sound.alarms⟩
  · intro j running
    rw [alarms] at running
    rw [inUse.mem_iff]
    rcases List.mem_cons.mp running with rfl | old
    · exact List.mem_cons_self
    · exact List.mem_cons_of_mem i (sound.alarmsUsed j old)
  · rw [nwk, List.nodup_cons]
    exact ⟨away, sound.nwk⟩
  · rw [nwk, List.mem_cons, not_or]
    exact ⟨proper.symm, sound.nwkProper⟩
  · rw [released]
    exact sound.notHeld
  · have others' : w.inUse.map w'.request = w.inUse.map w.request := by
      apply List.map_congr_left
      intro j used
      rw [request, Function.update_of_ne (others j used).1]
    have first : w'.request i = w.issued.length := by rw [request, Function.update_self]
    rw [released, issued, List.length_append, List.length_singleton, List.range_succ]
    have mapped := inUse.map w'.request
    rw [List.map_cons, first, others'] at mapped
    calc List.Perm (w.released.filterMap (·.request) ++ w'.inUse.map w'.request)
          (w.released.filterMap (·.request) ++ (w.issued.length :: w.inUse.map w.request)) :=
            mapped.append_left _
      List.Perm _ (w.issued.length ::
          (w.released.filterMap (·.request) ++ w.inUse.map w.request)) := List.perm_middle
      List.Perm _ (w.issued.length :: List.range w.issued.length) := sound.once.cons _
      List.Perm _ (List.range w.issued.length ++ [w.issued.length]) :=
          (List.perm_append_singleton _ _).symm
  · intro r member n mine
    rw [released] at member
    obtain ⟨k, got, same⟩ := sound.outcome r member n mine
    exact ⟨k, numbered n k got, same⟩

/-- An entry ends: its buffer, which the network layer does not have, is given away. -/
theorem Sound.done (sound : w.Sound) {w' : Layer} {i : ℕ} {ent : RetransEnt} {outcome : Outcome}
    (used : i ∈ w.inUse) (freed : ent.state = .free) (empty : ent.buf = noBuf)
    (hash : w'.hash = Function.update w.hash i ent) (issued : w'.issued = w.issued)
    (request : w'.request = w.request)
    (released : w'.released = ⟨(w.hash i).buf, some (w.request i), outcome, false⟩ :: w.released)
    (outcome_ : outcome =
      (if apsFcGetAckFormat (w.fc (w.hash i).buf) then Kind.command else .data).outcome)
    (alarms : w'.alarms = w.alarms.erase i) (fc : w'.fc = w.fc) (nwk : w'.nwk.Nodup)
    (proper : noBuf ∉ w'.nwk)
    (others : ∀ b ≠ (w.hash i).buf, b ∈ w'.nwk ↔ b ∈ w.nwk) : w'.Sound := by
  have inUse : w.inUse.Perm (i :: w'.inUse) := by
    rw [inUse_congr (w := w.setEnt i ent) hash]
    exact inUse_perm_setEnt used freed
  have was : ∀ j, j ∈ w'.inUse ↔ j ∈ w.inUse ∧ j ≠ i := by
    intro j
    rw [inUse_congr (w := w.setEnt i ent) hash]
    by_cases here : j = i
    · subst here
      simp [mem_inUse, Used, freed]
    · simp [mem_inUse_setEnt here, here]
  have same : ∀ j ≠ i, w'.hash j = w.hash j := by
    intro j other
    rw [hash, Function.update_of_ne other]
  refine ⟨?_, ?_, ?_, ?_, ?_, nwk, proper, ?_, ?_, ?_⟩
  · intro j used'
    obtain ⟨old, other⟩ := (was j).mp used'
    have tracked := sound.tracked j old
    refine tracked.frame (same j other) (by rw [fc]) (by rw [issued, request]) ?_ (others _ ?_)
    · rw [alarms, List.mem_erase_of_ne other]
      exact tracked.alarm
    · intro equal
      exact other (sound.distinct j old i used equal)
  · intro j used' k used'' equal
    obtain ⟨old, other⟩ := (was j).mp used'
    obtain ⟨old', other'⟩ := (was k).mp used''
    rw [same j other, same k other'] at equal
    exact sound.distinct j old k old' equal
  · intro j unused
    by_cases here : j = i
    · rw [hash, here, Function.update_self, empty]
    · rw [same j here]
      exact sound.free j fun old => unused ((was j).mpr ⟨old, here⟩)
  · rw [alarms]
    exact sound.alarms.erase i
  · intro j running
    rw [alarms] at running
    exact (was j).mpr ⟨sound.alarmsUsed j (List.mem_of_mem_erase running),
      fun here => sound.alarms.not_mem_erase (here ▸ running)⟩
  · intro r member
    rw [released] at member
    rcases List.mem_cons.mp member with rfl | old
    · rfl
    · exact sound.notHeld r old
  · have mapped := inUse.map w.request
    rw [released, request, issued]
    calc List.Perm (w.request i :: w.released.filterMap (·.request) ++ w'.inUse.map w.request)
          (w.released.filterMap (·.request) ++ (w.request i :: w'.inUse.map w.request)) :=
            List.perm_middle.symm
      List.Perm _ (w.released.filterMap (·.request) ++ w.inUse.map w.request) :=
          mapped.symm.append_left _
      List.Perm _ (List.range w.issued.length) := sound.once
  · intro r member n mine
    rw [released] at member
    rw [issued]
    rcases List.mem_cons.mp member with rfl | old
    · cases mine
      exact ⟨_, (sound.tracked i used).kind, outcome_⟩
    · exact sound.outcome r old n mine

/-! ### The operations -/

theorem release_released (w : Layer) (buf : BufRef) (request : Option ℕ) (outcome : Outcome) :
    (w.release buf request outcome).released =
      ⟨buf, request, outcome, buf ∈ w.nwk ∨ w.Keeps buf⟩ :: w.released := rfl

/-- `done_with_this_ack` in a state `v` that is `w` but for entry `i`, its alarm and its buffer,
which is back from the network layer. -/
theorem Sound.doneWithThisAck (sound : w.Sound) {v : Layer} {i : ℕ} {fc status : UInt8}
    {callbackOk : Bool} (used : i ∈ w.inUse) (hash : ∀ j ≠ i, v.hash j = w.hash j)
    (buf : (v.hash i).buf = (w.hash i).buf) (issued : v.issued = w.issued)
    (request : v.request = w.request) (released : v.released = w.released)
    (alarms : v.alarms.erase i = w.alarms.erase i) (fc_ : v.fc = w.fc) (nwk : v.nwk.Nodup)
    (proper : noBuf ∉ v.nwk) (others : ∀ b ≠ (w.hash i).buf, b ∈ v.nwk ↔ b ∈ w.nwk)
    (away : (w.hash i).buf ∉ v.nwk)
    (format : apsFcGetAckFormat fc = apsFcGetAckFormat (w.fc (w.hash i).buf))
    (room : apsFcGetAckFormat fc = false → callbackOk = true) :
    (v.doneWithThisAck i fc status callbackOk).Sound := by
  have cleared : Function.update v.hash i
      { v.hash i with state := .free, addr := noAddr, buf := noBuf } =
        Function.update w.hash i
          { v.hash i with state := .free, addr := noAddr, buf := noBuf } := by
    funext j
    by_cases here : j = i
    · rw [here, Function.update_self, Function.update_self]
    · rw [Function.update_of_ne here, Function.update_of_ne here, hash j here]
  rw [Layer.doneWithThisAck]
  dsimp only
  generalize cleared_ : ({ v.setEnt i { v.hash i with state := .free, addr := noAddr, buf := noBuf }
    with status := Function.update v.status (v.hash i).buf status
         alarms := v.alarms.erase i } : Layer) = v'
  have unkept : ¬ v'.Keeps (w.hash i).buf := by
    rintro ⟨j, used', same⟩
    rw [← cleared_] at used' same
    have other : j ≠ i := by
      rintro rfl
      exact (mem_inUse.mp used').2 (by simp [setEnt])
    have old := (mem_inUse_setEnt other).mp used'
    rw [mem_inUse, Used, hash j other] at old
    dsimp only [setEnt] at same
    rw [Function.update_of_ne other, hash j other] at same
    exact other (sound.distinct j (mem_inUse.mpr old) i used same)
  have done : ∀ outcome, outcome =
      (if apsFcGetAckFormat (w.fc (w.hash i).buf) then Kind.command else .data).outcome →
        (v'.release (v.hash i).buf (some (v.request i)) outcome).Sound := by
    intro outcome outcome_
    have away' : (w.hash i).buf ∉ v'.nwk := by
      rw [← cleared_]
      exact away
    have released' : (v'.release (v.hash i).buf (some (v.request i)) outcome).released =
        ⟨(w.hash i).buf, some (w.request i), outcome, false⟩ :: w.released := by
      rw [release_released, buf, request, decide_eq_false (not_or.mpr ⟨away', unkept⟩), ← cleared_]
      exact congrArg _ released
    subst cleared_
    exact sound.done used rfl rfl cleared issued request released' outcome_ alarms fc_ nwk proper
      others
  split
  · rename_i command
    exact done .freed (by rw [← format, if_pos command]; rfl)
  · rename_i data
    rw [Layer.confirmUp, room (eq_false_of_ne_true data), if_pos rfl]
    exact done .confirmed (by rw [← format, if_neg data]; rfl)

theorem firstFree_spec {i : ℕ} (found : w.firstFree = some i) :
    i < nApsRetransEntries ∧ i ∉ w.inUse := by
  obtain ⟨inside, free, -⟩ := firstFree_eq_some.mp found
  exact ⟨inside, fun used => free (mem_inUse.mp used).2⟩

/-- A buffer that comes back to an entry. -/
theorem Sound.findBuf_spec (sound : w.Sound) {param : BufRef} {i : ℕ} (proper : param ≠ noBuf)
    (found : w.findBuf param = some i) : i ∈ w.inUse ∧ (w.hash i).buf = param := by
  have here := List.find?_some found
  rw [decide_eq_true_eq] at here
  refine ⟨?_, here⟩
  by_contra unused
  exact proper (here.symm.trans (sound.free i unused))

theorem findBuf_none {param : BufRef} (missing : w.findBuf param = none) : ¬ w.Keeps param := by
  rintro ⟨i, used, here⟩
  have inside := (mem_inUse.mp used).1
  exact absurd here (by simpa using List.find?_eq_none.mp missing i (List.mem_range.mpr inside))

/-- A buffer of no entry goes to the network layer, or nowhere. -/
theorem Sound.passDown (sound : w.Sound) {w' : Layer} {param : BufRef} (idle : w.Idle param)
    (hash : w'.hash = w.hash) (issued : w'.issued = w.issued) (request : w'.request = w.request)
    (released : w'.released = w.released) (alarms : w'.alarms = w.alarms)
    (fc : ∀ b ≠ param, w'.fc b = w.fc b)
    (nwk : w'.nwk = w.nwk ∨ w'.nwk = param :: w.nwk) : w'.Sound := by
  obtain ⟨proper, away, unkept⟩ := idle
  have differs : ∀ i ∈ w.inUse, (w.hash i).buf ≠ param := fun i used same => unkept ⟨i, used, same⟩
  refine sound.frame (inUse_congr hash) (fun i => by rw [hash]) (fun i used => fc _ (differs i used))
    issued request released (alarms ▸ sound.alarms) (fun i => by rw [alarms]) ?_ ?_ ?_
  · rcases nwk with same | more
    · rw [same]
      exact sound.nwk
    · rw [more, List.nodup_cons]
      exact ⟨away, sound.nwk⟩
  · rcases nwk with same | more
    · rw [same]
      exact sound.nwkProper
    · rw [more, List.mem_cons, not_or]
      exact ⟨proper.symm, sound.nwkProper⟩
  · intro i used
    rw [hash, ← (sound.tracked i used).held]
    rcases nwk with same | more
    · rw [same]
    · rw [more, List.mem_cons]
      simp [differs i used]

theorem toNwk_nwk (w : Layer) (buf : BufRef) (room : Bool) :
    (w.toNwk buf room).nwk = w.nwk ∨ (w.toNwk buf room).nwk = buf :: w.nwk := by
  cases room
  · exact Or.inl rfl
  · exact Or.inr rfl

/-- A request that is turned down at once. -/
theorem Sound.refuse (sound : w.Sound) {param : BufRef} (idle : w.Idle param) :
    (({ w with issued := w.issued ++ [Kind.data] } : Layer).release param (some w.issued.length)
      .confirmed).Sound := by
  have numbered : ∀ (n : ℕ) (k : Kind), w.issued[n]? = some k →
      (w.issued ++ [Kind.data])[n]? = some k := by
    intro n k got
    rw [List.getElem?_append_left (List.getElem?_eq_some_iff.mp got).1, got]
  refine { sound with tracked := ?_, notHeld := ?_, once := ?_, outcome := ?_ }
  · intro i used
    have was := sound.tracked i used
    exact was.frame rfl rfl ((numbered _ _ was.kind).trans was.kind.symm) was.alarm Iff.rfl
  · intro r member
    rcases List.mem_cons.mp member with rfl | old
    · exact decide_eq_false (not_or.mpr ⟨idle.2.1, idle.2.2⟩)
    · exact sound.notHeld r old
  · rw [release_released]
    change List.Perm (w.issued.length ::
      (w.released.filterMap (·.request) ++ w.inUse.map w.request))
        (List.range (w.issued ++ [Kind.data]).length)
    rw [List.length_append, List.length_singleton, List.range_succ]
    exact (sound.once.cons _).trans (List.perm_append_singleton _ _).symm
  · intro r member n mine
    rcases List.mem_cons.mp member with rfl | old
    · cases mine
      exact ⟨.data, List.getElem?_concat_length, rfl⟩
    · obtain ⟨k, got, same⟩ := sound.outcome r old n mine
      exact ⟨k, numbered n k got, same⟩

theorem Sound.apsdeDataRequest (sound : w.Sound) {param : BufRef} {req : ApsdeDataReq}
    {callbackOk alarmOk : Bool} (idle : w.Idle param)
    (regular : req.wantsAck = true →
      if req.NotBound then callbackOk = true
      else req.Waits ∨ callbackOk = true ∧ alarmOk = true ∧
        ∃ i ∈ w.firstFree, i < nApsRetransEntries - 1) :
    (w.apsdeDataRequest param req callbackOk alarmOk).Sound := by
  rw [Layer.apsdeDataRequest]
  split
  · rename_i notBound
    split
    · rename_i wants
      have room := regular wants
      rw [if_pos (show req.NotBound from notBound)] at room
      rw [confirmUp, if_pos room]
      exact sound.refuse idle
    · exact sound.release idle.2.1 idle.2.2 _
  · rename_i notBound
    split
    · exact sound
    · rename_i waits
      rw [sendData]
      cases wants : req.wantsAck with
      | false =>
        rw [if_neg Bool.false_ne_true]
        exact sound.passDown idle rfl rfl rfl rfl rfl
          (fun b other => Function.update_of_ne other ..) (toNwk_nwk _ param callbackOk)
      | true =>
        have clear := regular wants
        rw [if_neg (show ¬ req.NotBound from notBound)] at clear
        rcases clear with waits' | ⟨rfl, rfl, i, found, early⟩
        · exact absurd waits' waits
        · obtain ⟨inside, unused⟩ := firstFree_spec found
          obtain ⟨ackRequest, frameType, format⟩ :=
            ApsdeDataReq.frameControl_data (req.securityEnabled && !w.secureAllFrames) wants
          have saved : ({ w with
              fc := Function.update w.fc param
                (req.frameControl (req.securityEnabled && !w.secureAllFrames))
              apsCounter := w.apsCounter + 1 } : Layer).firstFree = some i := found
          rw [if_pos rfl, saveAckData, saved]
          dsimp only
          rw [if_neg early.ne, if_neg (not_not.mpr rfl)]
          refine sound.take .data (req.entry (w.hash i) param (w.apsCounter + 1 - 1)) inside unused
            rfl idle rfl rfl rfl rfl rfl rfl rfl ackRequest frameType ?_
          rw [if_neg (ne_true_of_eq_false format)]

theorem Sound.apsSendCommand (sound : w.Sound) {param : BufRef} {destAddr : UInt16}
    {secure callbackOk alarmOk : Bool} (idle : w.Idle param)
    (regular : nwkIsAddressBroadcast destAddr = false → w.firstFree ≠ none →
      callbackOk = true ∧ alarmOk = true) :
    (w.apsSendCommand param destAddr secure callbackOk alarmOk).Sound := by
  rw [Layer.apsSendCommand]
  cases broadcast : nwkIsAddressBroadcast destAddr with
  | true =>
    exact sound.passDown idle rfl rfl rfl rfl rfl (fun b other => Function.update_of_ne other ..)
      (toNwk_nwk _ param callbackOk)
  | false =>
    cases found : w.firstFree with
    | none =>
      exact sound.passDown idle rfl rfl rfl rfl rfl (fun b other => Function.update_of_ne other ..)
        (toNwk_nwk _ param callbackOk)
    | some i =>
      obtain ⟨rfl, rfl⟩ := regular broadcast (by simp [found])
      obtain ⟨inside, unused⟩ := firstFree_spec found
      obtain ⟨ackRequest, frameType, format⟩ := w.commandFc_command secure
      refine sound.take .command { w.hash i with
        addr := destAddr, apsCounter := w.apsCounter, buf := param, nwkInsecure := !secure,
        apsRetries := nApsMaxFrameEntries, state := .sentMacNotConfirmed } inside unused rfl idle rfl
        rfl rfl rfl rfl rfl rfl ackRequest frameType ?_
      exact (if_pos format).symm

/-- An entry that stays used, with its buffer. -/
theorem Sound.change (sound : w.Sound) (ent : RetransEnt) {w' : Layer} {i : ℕ} (used : i ∈ w.inUse)
    (still : ent.state ≠ .free) (buf : ent.buf = (w.hash i).buf)
    (hash : w'.hash = Function.update w.hash i ent) (fc : w'.fc = w.fc)
    (issued : w'.issued = w.issued) (request : w'.request = w.request)
    (released : w'.released = w.released) (alarms : w'.alarms.Nodup)
    (alarmsSame : ∀ j, j ∈ w'.alarms ↔ j ∈ w.alarms) (nwk : w'.nwk.Nodup)
    (proper : noBuf ∉ w'.nwk) (held : ent.buf ∈ w'.nwk ↔ ent.state ≠ .sentMacConfirmed)
    (others : ∀ b ≠ ent.buf, b ∈ w'.nwk ↔ b ∈ w.nwk) : w'.Sound := by
  refine sound.frame ?_ ?_ (fun _ _ => by rw [fc]) issued request released alarms alarmsSame nwk
    proper ?_
  · rw [inUse_congr (w := w.setEnt i ent) hash, inUse_setEnt used still]
  · intro j
    rw [hash]
    by_cases here : j = i
    · rw [here, Function.update_self, buf]
    · rw [Function.update_of_ne here]
  · intro j used'
    rw [hash]
    by_cases here : j = i
    · rw [here, Function.update_self, ← buf, held]
    · rw [Function.update_of_ne here, others _ ?_, (sound.tracked j used').held]
      rw [buf]
      exact fun same => here (sound.distinct j used' i used same)

/-- A buffer may begin otherwise, if the octet is like the frame control wherever an entry has
the buffer. -/
theorem Sound.rebegin (sound : w.Sound) {param : BufRef} {first : UInt8}
    (like : ∀ i ∈ w.findBuf param, LikeControl (w.fc param) first) :
    ({ w with fc := Function.update w.fc param first } : Layer).Sound := by
  refine { sound with tracked := ?_ }
  intro i used
  have was := sound.tracked i used
  by_cases mine : (w.hash i).buf = param
  · have found : ∃ j, w.findBuf param = some j :=
      Option.ne_none_iff_exists'.mp fun missing => findBuf_none missing ⟨i, used, mine⟩
    obtain ⟨j, found⟩ := found
    obtain ⟨frameType, ackRequest, format⟩ := like j found
    have here : Function.update w.fc param first (w.hash i).buf = first := by
      rw [mine, Function.update_self]
    rw [← mine] at format
    have kind := was.kind
    rw [← format, ← here] at kind
    exact {
      buf := was.buf
      ackRequest := by
        rw [← here] at ackRequest
        exact ackRequest
      frameType := by
        rw [← here] at frameType
        exact frameType
      kind := kind
      alarm := was.alarm
      held := was.held }
  · exact was.frame rfl (Function.update_of_ne mine ..) rfl was.alarm Iff.rfl

theorem cutHeaders_same (w : Layer) (param : BufRef) :
    w.cutHeaders param (w.fc param) = { w with nwk := w.nwk.erase param } := by
  rw [cutHeaders, Function.update_eq_self]

/-- A confirm of the network layer. -/
theorem Sound.nldeDataConfirm (sound : w.Sound) {param : BufRef} {callbackOk : Bool}
    (holds : param ∈ w.nwk)
    (regular : ∀ i ∈ w.findBuf param, (w.hash i).state = .sentMacNotConfirmedApsAcked →
      apsFcGetAckFormat (w.fc param) = false → callbackOk = true) :
    (({ w with nwk := w.nwk.erase param } : Layer).nldeDataConfirm param callbackOk).Sound := by
  have proper : param ≠ noBuf := by
    rintro rfl
    exact sound.nwkProper holds
  have properErased : noBuf ∉ w.nwk.erase param :=
    fun member => sound.nwkProper (List.mem_of_mem_erase member)
  have gone : param ∉ w.nwk.erase param := sound.nwk.not_mem_erase
  have others : ∀ b ≠ param, b ∈ w.nwk.erase param ↔ b ∈ w.nwk :=
    fun b other => List.mem_erase_of_ne other
  -- a buffer of no entry has come back
  have away : ∀ outcome, ¬ w.Keeps param →
      (({ w with nwk := w.nwk.erase param } : Layer).release param none outcome).Sound := by
    intro outcome unkept
    have erased : ({ w with nwk := w.nwk.erase param } : Layer).Sound := by
      refine sound.frame rfl (fun _ => rfl) (fun _ _ => rfl) rfl rfl rfl sound.alarms
        (fun _ => Iff.rfl) (sound.nwk.erase param) properErased ?_
      intro i used
      rw [others _ fun same => unkept ⟨i, used, same⟩]
      exact (sound.tracked i used).held
    exact erased.release gone unkept outcome
  rw [Layer.nldeDataConfirm]
  dsimp only
  cases found : w.findBuf param with
  | none =>
    have unkept := findBuf_none found
    split
    · exact away .freed unkept
    · split
      · exact away _ unkept
      · have missing : ({ w with nwk := w.nwk.erase param } : Layer).findBuf param = none := found
        rw [missing]
        exact away .freed unkept
  | some i =>
    obtain ⟨used, rfl⟩ := sound.findBuf_spec proper found
    have tracked := sound.tracked i used
    have missing : ({ w with nwk := w.nwk.erase (w.hash i).buf } : Layer).findBuf
        (w.hash i).buf = some i := found
    rw [if_neg tracked.frameType, if_neg (by rw [tracked.ackRequest]; exact Bool.noConfusion),
      missing]
    dsimp only
    split
    · rename_i acked
      exact sound.doneWithThisAck used (fun _ _ => rfl) rfl rfl rfl rfl rfl rfl (sound.nwk.erase _)
        properErased others gone rfl (regular i found acked)
    · exact sound.change { w.hash i with state := .sentMacConfirmed } used (by simp) rfl rfl
        rfl rfl rfl rfl sound.alarms (fun _ => Iff.rfl) (sound.nwk.erase _) properErased
        (iff_of_false gone (by simp)) others

/-- A confirm of a node that is not joined. -/
theorem Sound.notJoined (sound : w.Sound) {param : BufRef} {first : UInt8} {callbackOk : Bool}
    (holds : param ∈ w.nwk)
    (regular : ∀ i ∈ w.findBuf param, LikeControl (w.fc param) first ∧
      ((w.hash i).state = .sentMacNotConfirmedApsAcked →
        apsFcGetAckFormat first = false → callbackOk = true)) :
    ((w.cutHeaders param first).nldeDataConfirm param callbackOk).Sound := by
  refine (sound.rebegin fun i found => (regular i found).1).nldeDataConfirm holds fun i found acked format => ?_
  have begins : Function.update w.fc param first param = first := Function.update_self ..
  exact (regular i found).2 acked (begins ▸ format)

/-- An acknowledgement. -/
theorem Sound.apsAckFrameHandle (sound : w.Sound) {hdr : ApsHdr} {callbackOk : Bool}
    (regular : ∀ i ∈ w.findAcked hdr, (w.hash i).state = .sentMacNotConfirmed ∨
      (w.hash i).state = .sentMacConfirmed ∧
        apsFcGetAckFormat hdr.fc = apsFcGetAckFormat (w.fc (w.hash i).buf) ∧
          (apsFcGetAckFormat hdr.fc = false → callbackOk = true)) :
    (w.apsAckFrameHandle hdr callbackOk).Sound := by
  rw [Layer.apsAckFrameHandle]
  cases found : w.findAcked hdr with
  | none => exact sound
  | some i =>
    have inside : i < nApsRetransEntries := List.mem_range.mp (List.mem_of_find?_eq_some found)
    dsimp only
    rcases regular i found with sent | ⟨confirmed, format, room⟩
    · have used : i ∈ w.inUse := mem_inUse.mpr ⟨inside, by simp [Used, sent]⟩
      have held := (sound.tracked i used).held
      rw [if_pos sent]
      exact sound.change { w.hash i with state := .sentMacNotConfirmedApsAcked } used
        (by simp) rfl rfl rfl rfl rfl rfl sound.alarms (fun _ => Iff.rfl) sound.nwk sound.nwkProper
        (iff_of_true (held.mpr (by simp [sent])) (by simp)) (fun _ _ => Iff.rfl)
    · have used : i ∈ w.inUse := mem_inUse.mpr ⟨inside, by simp [Used, confirmed]⟩
      have away : (w.hash i).buf ∉ w.nwk := by
        rw [(sound.tracked i used).held]
        simp [confirmed]
      rw [if_neg (by simp [confirmed])]
      exact sound.doneWithThisAck used (fun _ _ => rfl) rfl rfl rfl rfl rfl rfl sound.nwk
        sound.nwkProper (fun _ _ => Iff.rfl) away format room

/-- An alarm. -/
theorem Sound.apsAckTimerCb (sound : w.Sound) {i : ℕ} {callbackOk alarmOk : Bool}
    (running : i ∈ w.alarms)
    (regular : if (w.hash i).apsRetries ≤ 1 ∧ (w.hash i).state = .sentMacConfirmed then
        apsFcGetAckFormat (w.fc (w.hash i).buf) = false → callbackOk = true
      else alarmOk = true ∧ ((w.hash i).state = .sentMacConfirmed → callbackOk = true)) :
    (({ w with alarms := w.alarms.erase i } : Layer).apsAckTimerCb i callbackOk alarmOk).Sound := by
  have used := sound.alarmsUsed i running
  have tracked := sound.tracked i used
  have gone : i ∉ w.alarms.erase i := sound.alarms.not_mem_erase
  have again : (i :: w.alarms.erase i).Perm w.alarms := (List.perm_cons_erase running).symm
  have nodup : (i :: w.alarms.erase i).Nodup := again.nodup_iff.mpr sound.alarms
  have last : (w.hash i).apsRetries ≤ 1 ↔ (w.hash i).apsRetries - 1 = 0 := by omega
  simp only [last] at regular
  rw [Layer.apsAckTimerCb]
  dsimp only
  split
  · rename_i final
    rw [if_pos final] at regular
    have away : (w.hash i).buf ∉ w.nwk := by
      rw [tracked.held]
      simp [final.2]
    exact sound.doneWithThisAck used (fun _ other => Function.update_of_ne other ..)
      (by simp) rfl rfl rfl (List.erase_of_not_mem gone) rfl sound.nwk sound.nwkProper
      (fun _ _ => Iff.rfl) away rfl regular
  · rename_i more
    rw [if_neg more] at regular
    obtain ⟨rfl, room⟩ := regular
    have still : (w.hash i).state ≠ .free := (mem_inUse.mp used).2
    split
    · rename_i confirmed
      have away : (w.hash i).buf ∉ w.nwk := by
        rw [tracked.held]
        simp [confirmed]
      rw [room confirmed]
      refine sound.change { w.hash i with
          apsRetries := (w.hash i).apsRetries - 1, state := .sentMacNotConfirmed } used (by simp) rfl
        ?_ rfl rfl rfl rfl nodup (fun _ => again.mem_iff) (List.nodup_cons.mpr ⟨away, sound.nwk⟩) ?_
        ?_ ?_
      · simp [toNwk, setState, fillNldereq, setEnt, scheduleAlarm]
      · exact fun member => (List.mem_cons.mp member).elim (fun same => tracked.buf same.symm)
          sound.nwkProper
      · exact iff_of_true List.mem_cons_self (by simp)
      · intro b other
        exact List.mem_cons.trans (or_iff_right other)
    · exact sound.change { w.hash i with apsRetries := (w.hash i).apsRetries - 1 } used
        still rfl rfl rfl rfl rfl rfl nodup (fun _ => again.mem_iff) sound.nwk sound.nwkProper
        tracked.held (fun _ _ => Iff.rfl)

/-- One regular event. -/
theorem Sound.step (sound : w.Sound) {event : Event} (regular : Regular w event) :
    (step w event).Sound := by
  cases event with
  | request param req callbackOk alarmOk =>
    rw [Aps.step]
    split
    · rename_i idle
      exact sound.apsdeDataRequest idle (regular idle)
    · exact sound
  | command param destAddr secure callbackOk alarmOk =>
    rw [Aps.step]
    split
    · rename_i idle
      exact sound.apsSendCommand idle (regular idle)
    · exact sound
  | sendAck param srcAddr command callbackOk =>
    rw [Aps.step]
    split
    · rename_i idle
      exact sound.passDown idle rfl rfl rfl rfl rfl (fun b other => Function.update_of_ne other ..)
        (toNwk_nwk _ param callbackOk)
    · exact sound
  | confirm param callbackOk =>
    rw [Aps.step]
    split
    · rename_i holds
      rw [cutHeaders_same]
      exact sound.nldeDataConfirm holds (regular holds)
    · exact sound
  | notJoined param first callbackOk =>
    rw [Aps.step]
    split
    · rename_i holds
      exact sound.notJoined holds (regular holds)
    · exact sound
  | ack hdr callbackOk => exact sound.apsAckFrameHandle regular
  | alarm i callbackOk alarmOk =>
    rw [Aps.step]
    split
    · rename_i running
      exact sound.apsAckTimerCb running (regular running)
    · exact sound

/-! ### Progress -/

theorem doneWithThisAck_hash (w : Layer) (i : ℕ) (fc status : UInt8) (callbackOk : Bool) :
    (w.doneWithThisAck i fc status callbackOk).hash =
      Function.update w.hash i { w.hash i with state := .free, addr := noAddr, buf := noBuf } := by
  rw [Layer.doneWithThisAck]
  dsimp only
  split <;> rfl

/-- A request or command takes no used entry. -/
theorem saveAckData_hash {i : ℕ} (used : i ∈ w.inUse) (param : BufRef) (req : ApsdeDataReq) :
    (w.saveAckData param req).1.hash i = w.hash i := by
  rw [saveAckData]
  cases found : w.firstFree with
  | none => rfl
  | some j =>
    have other : i ≠ j := fun here => (firstFree_spec found).2 (here ▸ used)
    exact Function.update_of_ne other ..

theorem apsdeDataRequest_hash {i : ℕ} (used : i ∈ w.inUse) (param : BufRef) (req : ApsdeDataReq)
    (callbackOk alarmOk : Bool) :
    (w.apsdeDataRequest param req callbackOk alarmOk).hash i = w.hash i := by
  rw [Layer.apsdeDataRequest]
  split
  · split <;> rfl
  · split
    · rfl
    · rw [sendData]
      dsimp only
      split
      · have saved := saveAckData_hash (w := { w with
          fc := Function.update w.fc param
            (req.frameControl (req.securityEnabled && !w.secureAllFrames))
          apsCounter := w.apsCounter + 1 }) used param req
        split <;> exact saved
      · rfl

theorem apsSendCommand_hash {i : ℕ} (used : i ∈ w.inUse) (param : BufRef) (destAddr : UInt16)
    (secure callbackOk alarmOk : Bool) :
    (w.apsSendCommand param destAddr secure callbackOk alarmOk).hash i = w.hash i := by
  rw [Layer.apsSendCommand]
  cases nwkIsAddressBroadcast destAddr with
  | true => rfl
  | false =>
    cases found : w.firstFree with
    | none => rfl
    | some j =>
      have other : i ≠ j := fun here => (firstFree_spec found).2 (here ▸ used)
      exact Function.update_of_ne other ..

theorem Sound.nldeDataConfirm_remaining (sound : w.Sound) {i : ℕ} (used : i ∈ w.inUse)
    {param : BufRef} (callbackOk : Bool) (holds : param ∈ w.nwk) :
    let ent := (({ w with nwk := w.nwk.erase param } : Layer).nldeDataConfirm param callbackOk).hash i
    ent.state = .free ∨
      remaining ent + (if (w.hash i).buf = param then 1 else 0) ≤ remaining (w.hash i) := by
  have proper : param ≠ noBuf := by
    rintro rfl
    exact sound.nwkProper holds
  have tracked := sound.tracked i used
  have found_ : ({ w with nwk := w.nwk.erase param } : Layer).findBuf param = w.findBuf param := rfl
  rw [Layer.nldeDataConfirm, found_]
  dsimp only
  by_cases mine : (w.hash i).buf = param
  · subst mine
    have confirmed := tracked.held.mp holds
    cases found : w.findBuf (w.hash i).buf with
    | none => exact absurd ⟨i, used, rfl⟩ (findBuf_none found)
    | some j =>
      obtain ⟨used', same⟩ := sound.findBuf_spec proper found
      obtain rfl := sound.distinct j used' i used same
      rw [if_neg tracked.frameType, if_neg (by rw [tracked.ackRequest]; exact Bool.noConfusion)]
      dsimp only
      split
      · rw [doneWithThisAck_hash]
        simp
      · rename_i unacked
        have was : w.Used j := (mem_inUse.mp used).2
        right
        rw [setState, setEnt_hash, Function.update_self]
        cases state : (w.hash j).state with
        | free => exact absurd state was
        | sentMacNotConfirmed =>
          simp only [remaining, state]
          omega
        | sentMacNotConfirmedApsAcked => exact absurd state unacked
        | sentMacConfirmed => exact absurd state confirmed
  · rw [if_neg mine]
    split
    · exact Or.inr le_rfl
    · split
      · exact Or.inr le_rfl
      · cases found : w.findBuf param with
        | none => exact Or.inr le_rfl
        | some j =>
          obtain ⟨-, same⟩ := sound.findBuf_spec proper found
          have other : i ≠ j := by
            rintro rfl
            exact mine same
          dsimp only
          split
          · rw [doneWithThisAck_hash, Function.update_of_ne other]
            exact Or.inr le_rfl
          · rw [setState, setEnt_hash, Function.update_of_ne other]
            exact Or.inr le_rfl

/-- An acknowledgement, for an entry. -/
theorem apsAckFrameHandle_remaining {i : ℕ} (hdr : ApsHdr) (callbackOk : Bool) :
    let ent := (w.apsAckFrameHandle hdr callbackOk).hash i
    ent.state = .free ∨ remaining ent ≤ remaining (w.hash i) := by
  rw [Layer.apsAckFrameHandle]
  cases w.findAcked hdr with
  | none => exact Or.inr le_rfl
  | some j =>
    dsimp only
    by_cases here : i = j
    · subst here
      split
      · rename_i sent
        rw [setState, setEnt_hash, Function.update_self]
        simp only [remaining, sent]
        omega
      · rw [doneWithThisAck_hash]
        simp
    · split
      · rw [setState, setEnt_hash, Function.update_of_ne here]
        exact Or.inr le_rfl
      · rw [doneWithThisAck_hash, Function.update_of_ne here]
        exact Or.inr le_rfl

/-- An alarm, for an entry. -/
theorem apsAckTimerCb_remaining {i j : ℕ} (used : w.Used i) (callbackOk alarmOk : Bool) :
    let ent := (w.apsAckTimerCb j callbackOk alarmOk).hash i
    ent.state = .free ∨
      remaining ent + (if i = j ∧ (w.hash i).state = .sentMacConfirmed then 1 else 0) ≤
        remaining (w.hash i) := by
  rw [Layer.apsAckTimerCb]
  dsimp only
  by_cases here : i = j
  · subst here
    split
    · rw [doneWithThisAck_hash]
      simp
    · rename_i more
      right
      split
      · rename_i confirmed
        simp only [toNwk, setState, fillNldereq, scheduleAlarm, setEnt_hash, Function.update_self,
          remaining, confirmed]
        simp only [confirmed, and_true] at more
        rw [if_pos ⟨trivial, trivial⟩]
        omega
      · rename_i unconfirmed
        simp only [scheduleAlarm, setEnt_hash, Function.update_self, unconfirmed, and_false,
          if_false, Nat.add_zero]
        cases state : (w.hash i).state with
        | free => exact absurd state used
        | sentMacNotConfirmed =>
          simp only [remaining, state]
          omega
        | sentMacNotConfirmedApsAcked => simp only [remaining, state, le_refl]
        | sentMacConfirmed => exact absurd state unconfirmed
  · right
    simp only [here, false_and, if_false]
    split
    · rw [doneWithThisAck_hash, Function.update_of_ne here, setEnt_hash,
        Function.update_of_ne here, Nat.add_zero]
    · split
      · simp only [toNwk, setState, fillNldereq, scheduleAlarm, setEnt_hash,
          Function.update_of_ne here, Nat.add_zero, le_refl]
      · simp only [scheduleAlarm, setEnt_hash, Function.update_of_ne here, Nat.add_zero, le_refl]

/-- An event that brings an entry further counts. -/
theorem Sound.step_remaining (sound : w.Sound) {i : ℕ} (used : i ∈ w.inUse) {event : Event}
    (regular : Regular w event) :
    ((Aps.step w event).hash i).state = .free ∨
      remaining ((Aps.step w event).hash i) + (if w.Serves i event then 1 else 0) ≤
        remaining (w.hash i) := by
  cases event with
  | request param req callbackOk alarmOk =>
    rw [Aps.step]
    split
    · rw [apsdeDataRequest_hash used]
      exact Or.inr le_rfl
    · exact Or.inr le_rfl
  | command param destAddr secure callbackOk alarmOk =>
    rw [Aps.step]
    split
    · rw [apsSendCommand_hash used]
      exact Or.inr le_rfl
    · exact Or.inr le_rfl
  | sendAck param srcAddr command callbackOk =>
    rw [Aps.step]
    split
    · exact Or.inr le_rfl
    · exact Or.inr le_rfl
  | confirm param callbackOk =>
    rw [Aps.step]
    split
    · rename_i holds
      have progress := sound.nldeDataConfirm_remaining used callbackOk holds
      rw [cutHeaders_same]
      simpa only [Serves, holds, true_and] using progress
    · rename_i away
      rw [if_neg fun serves => away serves.1]
      exact Or.inr le_rfl
  | notJoined param first callbackOk =>
    rw [Aps.step]
    split
    · rename_i holds
      have begun := sound.rebegin fun i found => (regular holds i found).1
      have progress := begun.nldeDataConfirm_remaining used callbackOk holds
      simpa only [Serves, holds, true_and, cutHeaders] using progress
    · rename_i away
      rw [if_neg fun serves => away serves.1]
      exact Or.inr le_rfl
  | ack hdr callbackOk => exact apsAckFrameHandle_remaining hdr callbackOk
  | alarm j callbackOk alarmOk =>
    rw [Aps.step]
    split
    · rename_i running
      have progress := apsAckTimerCb_remaining (w := { w with alarms := w.alarms.erase j }) (j := j)
        (mem_inUse.mp used).2 callbackOk alarmOk
      simpa only [Serves, running, true_and] using progress
    · rename_i silent
      rw [if_neg fun serves => silent serves.1]
      exact Or.inr le_rfl

/-- An entry that events bring further often enough becomes free. -/
theorem Sound.frees (sound : w.Sound) {i : ℕ} (events : List Event) (used : i ∈ w.inUse)
    (regular : Along Aps.step Regular w events)
    (enough : remaining (w.hash i) ≤ w.served i events) : w.Frees i events := by
  induction events generalizing w with
  | nil =>
    have was : w.Used i := (mem_inUse.mp used).2
    have none_ : remaining (w.hash i) = 0 := Nat.le_zero.mp enough
    exact absurd none_ (by
      cases state : (w.hash i).state with
      | free => exact absurd state was
      | sentMacNotConfirmed =>
        simp only [remaining, state]
        omega
      | sentMacNotConfirmedApsAcked => simp [remaining, state]
      | sentMacConfirmed =>
        simp only [remaining, state]
        omega)
  | cons event rest induction_ =>
    by_cases free : ((Aps.step w event).hash i).state = .free
    · exact ⟨[event], rest, rfl, free⟩
    · have progress := (sound.step_remaining used regular.1).resolve_left free
      rw [served] at enough
      obtain ⟨before, after, split_, freed⟩ := induction_ (sound.step regular.1)
        (mem_inUse.mpr ⟨(mem_inUse.mp used).1, free⟩) regular.2 (by omega)
      exact ⟨event :: before, after, congrArg _ split_, freed⟩

end Layer

/-- **In every run whose events are regular, the buffers are in order**, and every entry becomes
free in every regular continuation, at the latest with the last confirm or alarm that can bring
it further. -/
theorem acknowledged_once (apsCounter : UInt8) (secureAllFrames : Bool) (events : List Event)
    (regular : Along step Regular (Layer.init apsCounter secureAllFrames) events) :
    let w := run step (Layer.init apsCounter secureAllFrames) events
    w.Owned ∧ ∀ i ∈ w.inUse, ∀ more, Along step Regular w more →
      w.Frees i more ∨ w.served i more < Layer.remaining (w.hash i) := by
  have sound : (run step (Layer.init apsCounter secureAllFrames) events).Sound :=
    invariant_of_along (fun _ _ sound regular => sound.step regular) _ events
      (Layer.sound_init apsCounter secureAllFrames) regular
  refine ⟨sound.owned, ?_⟩
  intro i used more regular'
  rcases Nat.lt_or_ge (Layer.served _ i more) (Layer.remaining _) with less | enough
  · exact Or.inr less
  · exact Or.inl (sound.frees more used regular' enough)

instance (w : Layer) : (event : Event) → Decidable (Regular w event)
  | .request .. | .command .. | .confirm .. | .notJoined .. | .alarm .. =>
    inferInstanceAs (Decidable (_ → _))
  | .sendAck .. => isTrue trivial
  | .ack .. => inferInstanceAs (Decidable (∀ i ∈ _, _))

/-- The acknowledgement of device 1. -/
def ofDevice (apsCounter : UInt8) : ApsHdr where
  fc := apsFrameAck
  srcAddr := 1
  dstAddr := 0
  groupAddr := 0
  dstEndpoint := 1
  srcEndpoint := 2
  clusterid := 6
  profileid := 0x0104
  apsCounter := apsCounter

/-- A request that is acknowledged only after a retransmission, and a command that is never. -/
def retransmitted : List Event :=
  [.request 5 toDevice true true, .command 7 2 true true true, .confirm 5 true, .confirm 7 true,
    .alarm 0 true true, .ack (ofDevice 0) true, .alarm 1 true true, .confirm 5 true,
    .confirm 7 true, .alarm 1 true true, .confirm 7 true]

theorem acknowledged_once_retransmitted :
    let w := run step (Layer.init 0 false) retransmitted
    w.Owned ∧ w.Frees 1 [.ack (ofDevice 9) true, .alarm 1 true true] := by
  have once := acknowledged_once 0 false retransmitted (by decide +kernel)
  have frees := once.2 1 (by decide +kernel) [.ack (ofDevice 9) true, .alarm 1 true true]
    (by decide +kernel)
  exact ⟨once.1, frees.resolve_right (by decide +kernel)⟩

/-- A second acknowledgement before the confirm: the application gets a buffer that the network
layer still has. -/
theorem second_ack_held :
    ¬ (run step (Layer.init 0 false)
        [.request 5 toDevice true true, .ack (ofDevice 0) true, .ack (ofDevice 0) true]).Owned := by
  intro owned
  exact absurd (owned.notHeld ⟨5, some 0, .confirmed, true⟩ (by decide +kernel)) (by decide)

end Zboss.Aps
