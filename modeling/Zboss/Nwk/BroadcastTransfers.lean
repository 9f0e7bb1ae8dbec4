import Zboss.Nwk.DataTransfers

/-!
What the handlers of broadcasts, and those of the data service itself, do with buffers.
The packet of a broadcast stays in the retransmission table until its last transmission
or its last acknowledgement, and leaves it for the MAC or for the confirm.
-/

namespace Zboss.DynamicTables

open Zboss.SlotTable Zboss.SlotTable.Table

variable {s s' : Nwk}

/-! ### Broadcasts -/

theorem seekUnicast_usedWith (env : Surroundings) (b : BufRef) :
    ∀ (slots : List ℕ) (t : RetransmitTable),
      (seekUnicast env slots t).1.usedWith (·.buf == b) = t.usedWith (·.buf == b) := by
  intro slots
  induction slots with
  | nil => exact fun t => rfl
  | cons i rest induction_ =>
    intro t
    simp only [seekUnicast]
    split
    · split
      · rw [induction_]
        simp [usedWith_modify]
      · rfl
    · exact induction_ t

theorem nextTransmission_usedWith (s : Nwk) (env : Surroundings) (b : BufRef) :
    (nextTransmission s env).1.usedWith (·.buf == b) = s.brrt.usedWith (·.buf == b) := by
  have sought := seekUnicast_usedWith env b (List.range nwkBrrTableSize) s.brrt
  simp only [nextTransmission]
  split
  · rfl
  · split
    · rename_i unicast
      rwa [unicast] at sought
    · rename_i none_
      rwa [none_] at sought

theorem noteTransmission_usedWith (spill : Spill) (env : Surroundings) (brrt : RetransmitTable)
    (i : ℕ) {child : Option ℕ} (inside : ∀ n ∈ child, n < 8) (b : BufRef) :
    (noteTransmission spill env brrt i child).usedWith (·.buf == b) =
      brrt.usedWith (·.buf == b) := by
  cases child with
  | none => simp [noteTransmission, usedWith_modify]
  | some n =>
    simp [noteTransmission, setPassiveAck_inside spill brrt i (inside n rfl), usedWith_modify]

/-- The tables with retransmissions that hold the same buffers. -/
theorem retransmit_transfers (s : Nwk) {brrt : RetransmitTable}
    (same : ∀ b, brrt.usedWith (·.buf == b) = s.brrt.usedWith (·.buf == b))
    {calls : List Call} {bufs : List BufRef} (passed : ∀ b, callRefs calls b ≤ bufs.count b) :
    Transfers s { s with brrt } calls bufs where
  refs b := by
    simp only [Nwk.refs, same b]
    exact Nat.add_le_add_left (passed b) _
  handles _ _ := rfl
  requests b _ := by
    simp only [Nwk.requests, same b]
    exact Nat.le_add_right _ _
  queued b := .inl (Nat.le_of_eq (same b))

/-- A retransmission in a buffer of its own. -/
theorem copy_transfers (s : Nwk) {brrt : RetransmitTable}
    (same : ∀ b, brrt.usedWith (·.buf == b) = s.brrt.usedWith (·.buf == b))
    (param : BufRef) (params : McpsDataReqParams) {calls : List Call}
    (passed : ∀ b, callRefs calls b ≤ [param].count b) :
    Transfers s { s with brrt, reqParams := Function.update s.reqParams param params } calls
      [param] where
  refs b := by
    simp only [Nwk.refs, same b]
    exact Nat.add_le_add_left (passed b) _
  handles b other := update_handle other params
  requests b other := by
    simp only [Nwk.requests, same b, update_handle other params]
    exact Nat.le_add_right _ _
  queued b := .inl (Nat.le_of_eq (same b))

/-- A packet leaves the table in the call that passes it on under its handle. -/
theorem release_transfers (s : Nwk) {brrt : RetransmitTable}
    (same : ∀ b, brrt.usedWith (·.buf == b) = s.brrt.usedWith (·.buf == b)) {i : ℕ}
    (inside : i < nwkBrrTableSize) (used : (brrt.slots i).used = true)
    {params : McpsDataReqParams}
    (handle : params.msduHandle = (s.reqParams (brrt.slots i).ent.buf).msduHandle) {call : Call}
    (buf : call.buf = some (brrt.slots i).ent.buf)
    (request : ∀ (s' : Nwk) (b : BufRef), isRequestCall s' b call =
      ((brrt.slots i).ent.buf == b && isRequestHandle (s'.reqParams b).msduHandle))
    {calls : List Call} {bufs : List BufRef} (passed : ∀ b, callRefs calls b ≤ bufs.count b) :
    Transfers s { s with
      brrt := brrt.putEnt i
      reqParams := Function.update s.reqParams (brrt.slots i).ent.buf params }
      (calls ++ [call]) bufs := by
  have handles (b : BufRef) :
      (Function.update s.reqParams (brrt.slots i).ent.buf params b).msduHandle =
        (s.reqParams b).msduHandle := by
    by_cases at_ : b = (brrt.slots i).ent.buf
    · rw [at_, Function.update_self, handle]
    · rw [Function.update_of_ne at_]
  refine ⟨?_, fun b _ => handles b, ?_, ?_⟩
  · intro b
    have given := usedWith_putEnt (p := fun ent => ent.buf == b) inside used
    have others := passed b
    simp only [Nwk.refs, callRefs_append, callRefs_cons, callRefs_nil, buf, Option.some_beq_some]
    rw [same b] at given
    omega
  · intro b _
    have given := usedWith_putEnt (p := fun ent => ent.buf == b) inside used
    rw [same b] at given
    simp only [Nwk.requests, handles, callRequests_append, callRequests_cons, callRequests_nil,
      request]
    split
    · simp only [*, Bool.and_true]
      omega
    · omega
  · intro b
    have given := usedWith_putEnt (p := fun ent => ent.buf == b) inside used
    rw [same b] at given
    exact .inl (Nat.le_of_add_right_le (Nat.le_of_eq given))

theorem addressTo_handle (env : Surroundings) (params : McpsDataReqParams) (child : Option ℕ) :
    (addressTo env params child).msduHandle = params.msduHandle := by
  cases child <;> rfl

theorem transmit_transfers (s : Nwk) {brrt : RetransmitTable}
    (same : ∀ b, brrt.usedWith (·.buf == b) = s.brrt.usedWith (·.buf == b)) {i : ℕ}
    (inside : i < nwkBrrTableSize) (used : (brrt.slots i).used = true) (child : Option ℕ)
    (param : BufRef) (env : Surroundings) :
    Transfers s (transmit s brrt i child param env).1 (transmit s brrt i child param env).2
      [param] := by
  simp only [transmit]
  split
  · exact release_transfers s same inside used (addressTo_handle env _ child) rfl (fun _ _ => rfl)
      (callRefs_single (.inl rfl))
  · exact copy_transfers s same param _ (callRefs_single (.inl rfl))

/-- Scheduling the next execution passes no buffer on. -/
theorem Transfers.again {calls : List Call} {bufs : List BufRef}
    (transfers : Transfers s s' calls bufs) : Transfers s s' (calls ++ transmitAgain s') bufs where
  refs b := by
    have silent : callRefs (transmitAgain s') b = 0 := by
      simp only [transmitAgain]
      split <;> rfl
    rw [callRefs_append, silent]
    exact transfers.refs b
  handles := transfers.handles
  requests b others := by
    rw [callRequests_append, ← Nat.add_assoc]
    exact Nat.le_add_right_of_le (transfers.requests b others)
  queued b := (transfers.queued b).imp_right (List.mem_append_left _)

theorem broadcastTransmition_transfers (account : s.brrt.Accounted) (spill : Spill)
    (param : BufRef) (env : Surroundings)
    (inside : ∀ n ∈ marked s (.broadcastTransmition param env), n < 8) :
    Transfers s (broadcastTransmition spill s param env).1
      (broadcastTransmition spill s param env).2 (Op.broadcastTransmition param env).bufs := by
  have next := nextTransmission_spec account env
  have same := nextTransmission_usedWith s env
  simp only [broadcastTransmition, Op.bufs]
  split
  · rename_i none_
    simp only [none_] at same
    apply Transfers.again
    apply retransmit_transfers s same
    intro b
    by_cases absent : param = 0
    · simp [absent]
    · simpa [absent] using callRefs_single (.inl rfl) b
  · rename_i brrt i child chosen
    simp only [chosen] at next same
    obtain ⟨within, used⟩ := next.2 i child rfl
    by_cases absent : param = 0
    · simp only [absent, if_true]
      exact retransmit_transfers s same fun _ => Nat.le_refl 0
    · have bounded : ∀ n ∈ child, n < 8 := by simpa [marked, absent, chosen] using inside
      have noted (b : BufRef) := (noteTransmission_usedWith spill env brrt i bounded b).trans
        (same b)
      have marks := (noteTransmission_spec next.1 spill env i bounded).2 i
      simp only [absent, if_false]
      apply Transfers.again
      exact transmit_transfers s noted within (marks.trans used) child param env

theorem passiveAcked_transfers (spill : Spill) {i n : ℕ} (within : i < nwkBrrTableSize)
    (used : (s.brrt.slots i).used = true) (inside : n < 8) (passiveAckDevNum : ℕ) :
    Transfers s (passiveAcked spill s i n passiveAckDevNum).1
      (passiveAcked spill s i n passiveAckDevNum).2 [] := by
  have same (b : BufRef) : (setPassiveAck spill s.brrt i n).usedWith (·.buf == b) =
      s.brrt.usedWith (·.buf == b) := by
    simp [setPassiveAck_inside spill s.brrt i inside, usedWith_modify]
  have inUse : ((setPassiveAck spill s.brrt i n).slots i).used = true := by
    rw [setPassiveAck_inside spill s.brrt i inside, modify_used]
    exact used
  have idle (b : BufRef) : callRefs [] b ≤ List.count b [] := Nat.le_refl 0
  simp only [passiveAcked]
  split
  · have released : Transfers s { s with
        brrt := (setPassiveAck spill s.brrt i n).putEnt i
        reqParams := Function.update s.reqParams _ _ }
        [.callBrConfirm ((setPassiveAck spill s.brrt i n).slots i).ent.buf] [] :=
      release_transfers s same within inUse rfl rfl (fun _ _ => rfl) idle
    rw [Function.update_eq_self] at released
    exact released
  · exact retransmit_transfers s same idle

theorem notePassiveAck_transfers (spill : Spill) (frame : RxFrame)
    (inside : ∀ n ∈ (passiveAcker s frame).map (·.2), n < 8) :
    Transfers s (notePassiveAck spill s frame).1 (notePassiveAck spill s frame).2 [] := by
  simp only [notePassiveAck]
  split
  · rename_i i n acker
    obtain ⟨within, used⟩ := passiveAcker_spec acker
    exact passiveAcked_transfers spill within used (inside n (by rw [acker]; rfl)) _
  · exact Transfers.refl s

theorem deliver_transfers (s : Nwk) (frame : RxFrame) :
    Transfers s (deliver s frame).1 (deliver s frame).2 [frame.buf] := by
  simp only [deliver]
  split
  · exact passes_on ⟨⟨rfl, rfl, rfl⟩, rfl⟩ (.inl rfl)
  · split
    · split
      · rename_i i waitAlloc got
        refine ⟨?_, fun _ _ => rfl, fun b _ => Nat.le_add_right _ _, fun _ => .inl (Nat.le_refl _)⟩
        intro b
        have added := usedWith_getEnt (p := fun ent => ent.buf == b) got fun _ => ⟨frame.buf⟩
        have silent : callRefs [.getBuf .newBufferAllocated] b = 0 := rfl
        simp only [Nwk.refs, added, silent, List.count_singleton, Bool.toNat, cond_eq_ite]
        omega
      · exact passes_on ⟨⟨rfl, rfl, rfl⟩, rfl⟩ (.inl rfl)
    all_goals exact passes_on ⟨⟨rfl, rfl, rfl⟩, rfl⟩ (.inl rfl)

theorem receiveBroadcast_transfers (s : Nwk) (frame : RxFrame) :
    Transfers s (receiveBroadcast s frame).1 (receiveBroadcast s frame).2 [frame.buf] := by
  simp only [receiveBroadcast]
  split
  · exact passes_on ⟨⟨rfl, rfl, rfl⟩, rfl⟩ (.inl rfl)
  · split
    · exact passes_on ⟨⟨rfl, rfl, rfl⟩, rfl⟩ (.inl rfl)
    · rename_i btt _
      have noted : SameBuffers s { s with btt } := ⟨⟨rfl, rfl, rfl⟩, rfl⟩
      exact noted.silent.trans (deliver_transfers { s with btt } frame)

theorem mcpsDataIndication_transfers (spill : Spill) (frame : RxFrame)
    (inside : ∀ n ∈ marked s (.mcpsDataIndication frame), n < 8) :
    Transfers s (mcpsDataIndication spill s frame).1 (mcpsDataIndication spill s frame).2
      [frame.buf] := by
  simp only [mcpsDataIndication]
  split
  · exact passes_on ⟨⟨rfl, rfl, rfl⟩, rfl⟩ (.inl rfl)
  rename_i good
  split
  · rename_i broadcast
    split
    · rename_i ours
      have bounded : ∀ n ∈ (passiveAcker s frame).map (·.2), n < 8 := by
        simpa only [marked, good, broadcast, ours, Bool.not_false, Bool.and_self, if_true]
          using inside
      exact (notePassiveAck_transfers spill frame bounded).trans
        (receiveBroadcast_transfers _ frame)
    · exact passes_on ⟨⟨rfl, rfl, rfl⟩, rfl⟩ (.inl rfl)
  · exact deliver_transfers s frame

/-- The buffer that waited for a copy is sent on, the copy goes up. -/
theorem newBufferAllocated_transfers (stacked : s.waitAlloc.Stacked) (param : BufRef) :
    Transfers s (newBufferAllocated s param).1 (newBufferAllocated s param).2 [param] := by
  simp only [newBufferAllocated]
  split
  · rename_i waiting
    have positive : 0 < s.waitAlloc.cnt.toNat := by
      apply Nat.pos_of_ne_zero
      intro zero
      exact waiting.2 (UInt8.toNat_inj.mp zero)
    have inside : s.waitAlloc.cnt.toNat - 1 < nwkWaitAllocTableSize := by
      have within := stacked.1
      omega
    have used : (s.waitAlloc.slots (s.waitAlloc.cnt.toNat - 1)).used = true := by
      rw [stacked.2 _ inside]
      omega
    refine ⟨?_, fun _ _ => rfl, fun b _ => Nat.le_add_right _ _, fun _ => .inl (Nat.le_refl _)⟩
    intro b
    have given := usedWith_putEnt (p := fun ent => ent.buf == b) inside used
    have silent (p : Prop) [Decidable p] :
        callRefs (if p then [Call.getBuf .newBufferAllocated] else []) b = 0 := by
      split <;> rfl
    simp only [Nwk.refs, callRefs_append, silent, callRefs_cons, callRefs_nil, Call.buf,
      Option.some_beq_some, List.count_singleton, Bool.toNat, cond_eq_ite] at given ⊢
    omega
  · exact SameBuffers.transfers ⟨⟨rfl, rfl, rfl⟩, rfl⟩ fun _ => Nat.zero_le _

/-! ### The data service, leaving and reset -/

theorem nldeDataRequest_transfers (s : Nwk) (nsdu : BufRef) (nsduHandle : UInt8) :
    Transfers s s (nldeDataRequest s nsdu nsduHandle) [nsdu] := by
  simp only [nldeDataRequest]
  split
  all_goals exact passes_on ⟨⟨rfl, rfl, rfl⟩, rfl⟩ (.inl rfl)

theorem nldeDataRequest_request (s : Nwk) (nsdu : BufRef) {nsduHandle : UInt8}
    (request : isRequestHandle nsduHandle = true) :
    1 ≤ callRequests s (nldeDataRequest s nsdu nsduHandle) nsdu := by
  simp only [nldeDataRequest]
  split <;> simp [callRequests, isRequestCall, request]

theorem mcpsDataConfirm_transfers (s : Nwk) (param : BufRef) (msduHandle : UInt8)
    (success : Bool) :
    Transfers s s (mcpsDataConfirm s param msduHandle success) [param] := by
  have reported (b : BufRef) :
      callRefs [.nldeDataConfirm param, .getBuf .callStatusIndication] b ≤ [param].count b :=
    @callRefs_single (.nldeDataConfirm param) param (.inl rfl) b
  simp only [mcpsDataConfirm]
  split_ifs
  all_goals first
    | exact passes_on ⟨⟨rfl, rfl, rfl⟩, rfl⟩ (.inl rfl)
    | exact SameBuffers.transfers ⟨⟨rfl, rfl, rfl⟩, rfl⟩ reported

/-- A handle of the layers above is confirmed to them. -/
theorem mcpsDataConfirm_request (s : Nwk) (param : BufRef) {msduHandle : UInt8}
    (request : isRequestHandle msduHandle = true) (success : Bool) :
    1 ≤ callRequests s (mcpsDataConfirm s param msduHandle success) param := by
  have apart {own : UInt8} (reserved : isRequestHandle own = false) : msduHandle ≠ own := by
    rintro rfl
    rw [request] at reserved
    cases reserved
  have notRejoin : msduHandle ≠ nwkInternalRejoinCmdHandle := apart rfl
  have notRejoinResp : msduHandle ≠ nwkInternalRejoinCmdResponse := apart rfl
  have notLeaveInd : msduHandle ≠ nwkInternalLeaveIndAtDataConfirmHandle := apart rfl
  have notLeaveConfirm : msduHandle ≠ nwkInternalLeaveConfirmAtDataConfirmHandle := apart rfl
  have notInternal : msduHandle ≠ nwkInternalNsduHandle := apart rfl
  simp [mcpsDataConfirm, notRejoin, notRejoinResp, notLeaveInd, notLeaveConfirm, notInternal,
    callRequests_cons, isRequestCall]

theorem mlmeResetConfirm_transfers (lossless : Lossless s .resetConfirm) :
    Transfers s (mlmeResetConfirm s) [] [] where
  refs b := by
    simp only [Nwk.refs, mlmeResetConfirm, usedWith_cleared, callRefs_nil, List.count_nil]
    omega
  handles _ _ := rfl
  requests b _ := by
    have none_ : isRequestHandle (s.reqParams b).msduHandle = true →
        s.brrt.usedWith (·.buf == b) = 0 := by
      intro request
      apply Nat.le_zero.mp
      rw [← lossless]
      apply usedWith_mono
      intro ent at_
      rwa [eq_of_beq at_]
    simp only [Nwk.requests, mlmeResetConfirm, usedWith_cleared, callRequests_nil]
    split
    · rename_i request
      rw [none_ request]
    · exact Nat.le_refl _
  queued b := .inl (by simp [mlmeResetConfirm])

end Zboss.DynamicTables
