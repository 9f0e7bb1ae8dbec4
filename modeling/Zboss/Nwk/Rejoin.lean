import Zboss.Nwk.AcceptChild

/-!
Rejoin requests at a parent and the confirms of their responses (`zb_nlme_rejoin_request`,
`zb_nlme_rejoin_resp_sent`).  The addresses of accepted rejoins stand in a table that is used as
a stack, while responses are confirmed in any order; an entry leaves the table in the confirm
alone, so a response that is not forwarded keeps its entry, until the parent itself leaves and
forgets all of them.

Ghosts: the responses in flight, the rejoins accepted, and for each confirmed response the
indication made of it.
-/

namespace Zboss.Rejoin

open Zboss.AcceptChild Zboss.AddressTable Zboss.NeighborTable Zboss.Run

/-- `ZB_NWK_REJOIN_REQUEST_TABLE_SIZE`. -/
def rejoinRequestTableSize : ℕ := 3

/-- An accepted rejoin: the device with its new address and capabilities. -/
structure Ticket where
  ieeeAddr : IeeeAddr
  address : ℕ
  isRouter : Bool
  rxOnWhenIdle : Bool
  deriving DecidableEq

/-- The fields of `zb_nlme_join_indication_t` that name the device.  Two fields of its
capabilities are meaningful. -/
structure JoinIndication where
  extendedAddress : IeeeAddr
  networkAddress : ℕ
  isRouter : Bool
  rxOnWhenIdle : Bool
  deriving DecidableEq

/-- The indication a rejoin should lead to. -/
def Ticket.indication (ticket : Ticket) : JoinIndication :=
  ⟨ticket.ieeeAddr, ticket.address, ticket.isRouter, ticket.rxOnWhenIdle⟩

/-- The parent, with the ghosts. -/
structure Parent where
  device : Device
  rejoinReqTable : ℕ → ℕ
  rejoinReqTableCnt : ℕ
  inFlight : List Ticket
  accepted : List Ticket
  indicated : List (Ticket × JoinIndication)

/-- No rejoin yet. -/
def Parent.init (device : Device) (rejoinReqTable : ℕ → ℕ) : Parent :=
  ⟨device, rejoinReqTable, 0, [], [], []⟩

/-- `zb_nlme_rejoin_request`; `sourceIeee` is the flag of the frame. -/
def Parent.rejoinRequest (w : Parent) (sourceIeee : Bool) (request : Request)
    (overrun : NeighborTbl) : Parent :=
  if w.rejoinReqTableCnt < rejoinRequestTableSize ∧ sourceIeee then
    match acceptChild w.device request overrun with
    | (device, some address) =>
      let ticket : Ticket := ⟨request.deviceAddress, address, request.capability.isRouter,
        request.capability.rxOnWhenIdle⟩
      { w with
        device := device
        rejoinReqTable := Function.update w.rejoinReqTable w.rejoinReqTableCnt address
        rejoinReqTableCnt := w.rejoinReqTableCnt + 1
        inFlight := w.inFlight ++ [ticket]
        accepted := w.accepted ++ [ticket] }
    | (device, none) => { w with device := device }
  else w

/-- The indication `zb_nlme_rejoin_resp_sent` makes of an address.  The result of the neighbour
lookup is not looked at; without an entry the pointer is uninitialised. -/
def joinIndication (s : Tables) (address : ℕ) (junk : NeighborTblEnt) :
    AddrGlobals × Option JoinIndication :=
  match addressByShort s.addr address false false with
  | (addr, .ok ref) =>
    let ent := match (neighborGet ⟨addr, s.neighbor⟩ ref false 0 s.neighbor).2 with
      | some n => s.neighbor.baseNeighbor n
      | none => junk
    (addr, some ⟨addressIeeeByRef addr ref, addressShortByRef addr ref,
      decide (ent.deviceType = .router), ent.rxOnWhenIdle⟩)
  | (addr, .error _) => (addr, none)

/-- `zb_nlme_rejoin_resp_sent` for the response at place `i` among those in flight. -/
def Parent.rejoinRespSent (w : Parent) (i : ℕ) (junk : NeighborTblEnt) : Parent :=
  match w.inFlight[i]? with
  | none => w
  | some ticket =>
    let w := { w with inFlight := w.inFlight.eraseIdx i }
    if w.rejoinReqTableCnt ≠ 0 then
      match joinIndication w.device.tables (w.rejoinReqTable (w.rejoinReqTableCnt - 1)) junk with
      | (addr, some indication) =>
        { w with
          device := { w.device with tables := ⟨addr, w.device.tables.neighbor⟩ }
          rejoinReqTableCnt := w.rejoinReqTableCnt - 1
          indicated := w.indicated ++ [(ticket, indication)] }
      | (addr, none) =>
        { w with device := { w.device with tables := ⟨addr, w.device.tables.neighbor⟩ } }
    else w

inductive Event
  | rejoinRequest (sourceIeee : Bool) (request : Request) (overrun : NeighborTbl)
  /-- The MAC confirms a response, with whatever status. -/
  | respSent (i : ℕ) (junk : NeighborTblEnt)
  /-- `zb_nwk_forward` has no way for a response: the buffer is freed or becomes a status
  indication. -/
  | forwardFails (i : ℕ)
  /-- `zb_nwk_do_leave` at the parent. -/
  | doLeave
  /-- Anything else that happens to the NIB and the tables. -/
  | otherwise (device : Device)

def Parent.step (w : Parent) : Event → Parent
  | .rejoinRequest sourceIeee request overrun => w.rejoinRequest sourceIeee request overrun
  | .respSent i junk => w.rejoinRespSent i junk
  | .forwardFails i => { w with inFlight := w.inFlight.eraseIdx i }
  | .doLeave => { w with rejoinReqTableCnt := 0 }
  | .otherwise device => { w with device := device }

/-- What is expected: each accepted rejoin is in flight or was indicated once, with its own
addresses and capabilities, and holds an entry of the table while it is in flight. -/
structure Bookkept (w : Parent) : Prop where
  own : ∀ pair ∈ w.indicated, pair.2 = pair.1.indication
  once : w.accepted.Perm (w.indicated.map Prod.fst ++ w.inFlight)
  released : w.rejoinReqTableCnt = w.inFlight.length

/-- The response confirmed is that of the address stored last, under which the tables still have
the device; no response fails on its way; and the parent does not leave meanwhile. -/
def Paired (w : Parent) : Event → Prop
  | .respSent i junk => ∀ ticket ∈ w.inFlight[i]?,
    w.rejoinReqTable (w.rejoinReqTableCnt - 1) = ticket.address ∧
      (joinIndication w.device.tables ticket.address junk).2 = some ticket.indication
  | .forwardFails i => w.inFlight.length ≤ i
  | .doLeave => w.inFlight.length = 0
  | .rejoinRequest .. | .otherwise _ => True

instance (w : Parent) : DecidablePred (Paired w)
  | .respSent i _ => inferInstanceAs (Decidable (∀ ticket ∈ w.inFlight[i]?, _ ∧ _))
  | .forwardFails _ => inferInstanceAs (Decidable (_ ≤ _))
  | .doLeave => inferInstanceAs (Decidable (_ = _))
  | .rejoinRequest .. | .otherwise _ => isTrue trivial

/-- A rejoin was indicated as another device, or was lost with its indication or with its entry:
what no later step repairs. -/
def Broken (w : Parent) : Prop :=
  (∃ pair ∈ w.indicated, pair.2 ≠ pair.1.indication) ∨
    w.indicated.length + w.inFlight.length < w.accepted.length ∨
    w.indicated.length + w.inFlight.length ≤ w.accepted.length ∧
      w.rejoinReqTableCnt < w.inFlight.length

theorem Broken.not_bookkept {w : Parent} (broken : Broken w) : ¬Bookkept w := by
  intro kept
  have released := kept.released
  rcases broken with ⟨pair, member, other⟩ | fewer
  · exact other (kept.own pair member)
  · have length := kept.once.length_eq
    rw [List.length_append, List.length_map] at length
    omega

/-! ## Steps -/

theorem joinIndication_networkAddress {s : Tables} {address : ℕ} {junk : NeighborTblEnt}
    {addr : AddrGlobals} {indication : JoinIndication}
    (made : joinIndication s address junk = (addr, some indication)) :
    indication.networkAddress = address := by
  unfold joinIndication addressByShort shortSearch at made
  by_cases found : 0 < s.addr.nSortedElements ∧
      searchPlace s.addr address < s.addr.nSortedElements ∧
      address = sortedAddr s.addr (searchPlace s.addr address)
  · rw [if_pos found] at made
    obtain ⟨rfl, same⟩ := Prod.mk.inj made
    obtain rfl := Option.some.inj same
    have stored : addressShortByRef (touch s.addr (s.addr.shortSorted (searchPlace s.addr address)))
        (s.addr.shortSorted (searchPlace s.addr address)) =
          sortedAddr s.addr (searchPlace s.addr address) := by
      simp [addressShortByRef, touch, sortedAddr]
    exact stored.trans found.2.2.symm
  · rw [if_neg found] at made
    simp [lockResult] at made

theorem rejoinRespSent_cases {w : Parent} {i : ℕ} {ticket : Ticket} (junk : NeighborTblEnt)
    (sent : w.inFlight[i]? = some ticket) :
    let w' := w.rejoinRespSent i junk
    w'.inFlight = w.inFlight.eraseIdx i ∧ w'.accepted = w.accepted ∧
      ((w'.indicated = w.indicated ∧ (w.rejoinReqTableCnt = 0 ∨ (joinIndication w.device.tables
          (w.rejoinReqTable (w.rejoinReqTableCnt - 1)) junk).2 = none)) ∨
        ∃ indication, w.rejoinReqTableCnt ≠ 0 ∧ (joinIndication w.device.tables
            (w.rejoinReqTable (w.rejoinReqTableCnt - 1)) junk).2 = some indication ∧
          w'.indicated = w.indicated ++ [(ticket, indication)] ∧
          w'.rejoinReqTableCnt = w.rejoinReqTableCnt - 1) := by
  unfold Parent.rejoinRespSent
  rw [sent]
  by_cases none_ : w.rejoinReqTableCnt = 0
  · simp [none_]
  · cases made : joinIndication w.device.tables (w.rejoinReqTable (w.rejoinReqTableCnt - 1)) junk with
    | mk addr result =>
      cases result with
      | none => simp [none_, made]
      | some indication => simp [none_, made]

theorem rejoinRequest_cases (w : Parent) (sourceIeee : Bool) (request : Request)
    (overrun : NeighborTbl) :
    let w' := w.rejoinRequest sourceIeee request overrun
    w'.indicated = w.indicated ∧
      ((w'.inFlight = w.inFlight ∧ w'.accepted = w.accepted ∧
          w'.rejoinReqTableCnt = w.rejoinReqTableCnt) ∨
        ∃ ticket, w'.inFlight = w.inFlight ++ [ticket] ∧ w'.accepted = w.accepted ++ [ticket] ∧
          w'.rejoinReqTableCnt = w.rejoinReqTableCnt + 1) := by
  unfold Parent.rejoinRequest
  split
  · cases acceptChild w.device request overrun with
    | mk device result =>
      cases result with
      | none => exact ⟨rfl, .inl ⟨rfl, rfl, rfl⟩⟩
      | some address => exact ⟨rfl, .inr ⟨_, rfl, rfl, rfl⟩⟩
  · exact ⟨rfl, .inl ⟨rfl, rfl, rfl⟩⟩

theorem Broken.step {w : Parent} (broken : Broken w) (event : Event) : Broken (w.step event) := by
  cases event with
  | rejoinRequest sourceIeee request overrun =>
    obtain ⟨told, cases_⟩ := rejoinRequest_cases w sourceIeee request overrun
    unfold Broken Parent.step at *
    dsimp only at *
    rw [told]
    refine broken.imp_right fun fewer => ?_
    rcases cases_ with ⟨flight, accepted, cnt⟩ | ⟨ticket, flight, accepted, cnt⟩
    · rwa [flight, accepted, cnt]
    · rw [flight, accepted, cnt, List.length_append, List.length_append, List.length_singleton]
      omega
  | respSent i junk =>
    cases sent : w.inFlight[i]? with
    | none =>
      have idle : w.rejoinRespSent i junk = w := by rw [Parent.rejoinRespSent, sent]
      change Broken (w.rejoinRespSent i junk)
      rwa [idle]
    | some ticket =>
      obtain ⟨flight, accepted, cases_⟩ := rejoinRespSent_cases junk sent
      obtain ⟨inside, -⟩ := List.getElem?_eq_some_iff.mp sent
      unfold Broken Parent.step at *
      dsimp only at *
      rw [flight, accepted, List.length_eraseIdx_of_lt inside]
      rcases cases_ with ⟨told, -⟩ | ⟨indication, nonzero, -, told, cnt⟩
      · rw [told]
        exact broken.imp_right fun fewer => by omega
      · rw [told, cnt, List.length_append]
        refine broken.imp ?_ fun fewer => ?_
        · rintro ⟨pair, member, other⟩
          exact ⟨pair, List.mem_append_left _ member, other⟩
        · rw [List.length_singleton]
          omega
  | forwardFails i =>
    unfold Broken Parent.step at *
    dsimp only at *
    refine broken.imp_right fun fewer => ?_
    rcases Nat.lt_or_ge i w.inFlight.length with inside | outside
    · rw [List.length_eraseIdx_of_lt inside]
      omega
    · rwa [List.eraseIdx_of_length_le outside]
  | doLeave =>
    unfold Broken Parent.step at *
    dsimp only at *
    refine broken.imp_right fun fewer => ?_
    omega
  | otherwise device => exact broken

/-- A step that meets the condition keeps the books. -/
theorem Bookkept.step {w : Parent} (kept : Bookkept w) (event : Event) (paired : Paired w event) :
    Bookkept (w.step event) := by
  obtain ⟨own, once, released⟩ := kept
  cases event with
  | rejoinRequest sourceIeee request overrun =>
    obtain ⟨told, cases_⟩ := rejoinRequest_cases w sourceIeee request overrun
    change Bookkept (w.rejoinRequest sourceIeee request overrun)
    generalize w.rejoinRequest sourceIeee request overrun = w' at *
    rcases cases_ with ⟨flight, accepted, cnt⟩ | ⟨ticket, flight, accepted, cnt⟩
    · refine ⟨told ▸ own, ?_, ?_⟩
      · rwa [accepted, told, flight]
      · rwa [cnt, flight]
    · refine ⟨told ▸ own, ?_, ?_⟩
      · rw [accepted, told, flight, ← List.append_assoc]
        exact once.append_right [ticket]
      · rw [cnt, flight, List.length_append, released]
        rfl
  | respSent i junk =>
    change Bookkept (w.rejoinRespSent i junk)
    cases sent : w.inFlight[i]? with
    | none =>
      have idle : w.rejoinRespSent i junk = w := by rw [Parent.rejoinRespSent, sent]
      rw [idle]
      exact ⟨own, once, released⟩
    | some ticket =>
      obtain ⟨last, still⟩ := paired ticket sent
      obtain ⟨flight, accepted, cases_⟩ := rejoinRespSent_cases junk sent
      obtain ⟨inside, here⟩ := List.getElem?_eq_some_iff.mp sent
      generalize w.rejoinRespSent i junk = w' at *
      rw [last, still] at cases_
      rcases cases_ with ⟨-, none_ | absurd_⟩ | ⟨indication, -, made, told, cnt⟩
      · omega
      · exact nomatch absurd_
      · obtain rfl := Option.some.inj made
        refine ⟨fun pair member => ?_, ?_, ?_⟩
        · rw [told] at member
          rcases List.mem_append.mp member with before | new
          · exact own pair before
          · rw [List.mem_singleton.mp new]
        · rw [accepted, told, flight, List.map_append, List.append_assoc]
          refine once.trans (List.Perm.append_left _ ?_)
          rw [← here]
          exact (List.getElem_cons_eraseIdx_perm inside).symm
        · rw [cnt, flight, List.length_eraseIdx_of_lt inside, released]
  | forwardFails i =>
    have none_ : w.inFlight.eraseIdx i = w.inFlight := List.eraseIdx_of_length_le paired
    change Bookkept { w with inFlight := w.inFlight.eraseIdx i }
    rw [none_]
    exact ⟨own, once, released⟩
  | doLeave => exact ⟨own, once, paired.symm⟩
  | otherwise device => exact ⟨own, once, released⟩

/-- A step that does not meet the condition loses a rejoin or takes it for another. -/
theorem Bookkept.broken {w : Parent} (kept : Bookkept w) {event : Event}
    (unpaired : ¬Paired w event) : Broken (w.step event) := by
  have length := kept.once.length_eq
  rw [List.length_append, List.length_map] at length
  cases event with
  | rejoinRequest sourceIeee request overrun => exact absurd trivial unpaired
  | otherwise device => exact absurd trivial unpaired
  | doLeave => exact .inr (.inr ⟨length.ge, Nat.pos_of_ne_zero unpaired⟩)
  | forwardFails i =>
    have inside : i < w.inFlight.length := Nat.lt_of_not_le unpaired
    refine .inr (.inl ?_)
    change w.indicated.length + (w.inFlight.eraseIdx i).length < w.accepted.length
    rw [List.length_eraseIdx_of_lt inside]
    omega
  | respSent i junk =>
    obtain ⟨ticket, sent, unpaired⟩ : ∃ ticket, w.inFlight[i]? = some ticket ∧
        ¬(w.rejoinReqTable (w.rejoinReqTableCnt - 1) = ticket.address ∧
          (joinIndication w.device.tables ticket.address junk).2 = some ticket.indication) := by
      simpa [Paired] using unpaired
    obtain ⟨flight, accepted, cases_⟩ := rejoinRespSent_cases junk sent
    obtain ⟨inside, -⟩ := List.getElem?_eq_some_iff.mp sent
    change Broken (w.rejoinRespSent i junk)
    generalize w.rejoinRespSent i junk = w' at *
    rcases cases_ with ⟨told, -⟩ | ⟨indication, -, made, told, -⟩
    · refine .inr (.inl ?_)
      rw [told, flight, accepted, List.length_eraseIdx_of_lt inside]
      omega
    · refine .inl ⟨(ticket, indication), by rw [told]; simp, fun same => unpaired ?_⟩
      have same : indication = ticket.indication := same
      rw [same] at made
      have named : ticket.address = w.rejoinReqTable (w.rejoinReqTableCnt - 1) :=
        joinIndication_networkAddress (Prod.ext rfl made)
      exact ⟨named.symm, named ▸ made⟩

/-! ## Runs -/

/-- From books in order, they are in order after a run exactly when every step met the
condition. -/
theorem bookkept_iff_paired {w : Parent} {events : List Event} (kept : Bookkept w) :
    Bookkept (run Parent.step w events) ↔ Along Parent.step Paired w events := by
  induction events generalizing w with
  | nil => exact iff_of_true kept trivial
  | cons event rest induction_ =>
    rw [run_cons]
    by_cases paired : Paired w event
    · rw [induction_ (kept.step event paired)]
      exact (and_iff_right paired).symm
    · have stays : ∀ (w : Parent) event, Broken w → Broken (w.step event) :=
        fun _ event broken => broken.step event
      have broken := invariant_of_run stays _ rest (kept.broken paired)
      exact iff_of_false broken.not_bookkept fun met => paired met.1

/-- For every parent and every run: each accepted rejoin is indicated once as itself, or still in
flight, and holds one entry of the table while it is, exactly when the responses are confirmed in
the reverse order of their entries, none fails on its way and the parent does not leave before. -/
theorem rejoins_bookkept_iff (device : Device) (rejoinReqTable : ℕ → ℕ) (events : List Event) :
    Bookkept (run Parent.step (.init device rejoinReqTable) events) ↔
      Along Parent.step Paired (.init device rejoinReqTable) events :=
  bookkept_iff_paired ⟨fun _ absurd_ => (nomatch absurd_), .refl _, rfl⟩

/-- A parent with room for children. -/
def roomyParent : Device :=
  ⟨⟨32, 4, 5, 0, 0, 0, 0, 0, true⟩, ⟨.zero, .init⟩, true⟩

/-- An end device that rejoins. -/
def rejoiningEd (octet : UInt8) : Event :=
  .rejoinRequest true ⟨⟨⟨1, 2, 3⟩, ⟨4, 5, 6, 7, octet⟩⟩, ⟨false, true, true⟩, 200, .zero, .zero⟩ .init

/-- Two rejoins whose responses are confirmed in the order they were sent. -/
def confirmedInOrder : List Event :=
  [rejoiningEd 8, rejoiningEd 9, .respSent 0 .zero, .respSent 0 .zero]

/-- Each of the two is indicated as the other. -/
theorem rejoins_confused : ¬∀ device rejoinReqTable events,
    Bookkept (run Parent.step (.init device rejoinReqTable) events) := by
  intro claim
  have first : ∀ pair ∈ (run Parent.step (.init roomyParent fun _ => 0) confirmedInOrder).indicated,
      pair.2 = pair.1.indication := (claim roomyParent (fun _ => 0) confirmedInOrder).own
  exact absurd first (by decide +kernel)

end Zboss.Rejoin
