import Mathlib.Data.List.Nodup
import Mathlib.Data.List.ProdSigma
import Mathlib.Order.Nat
import Zboss.Nwk.Join

/-!
Runs of the joining device in which no step is one of those where the procedure goes wrong.
`Held` is the device while a handler has a buffer in its hands with the search still open;
every handler starts from it or ends there, and a search ends in a confirm.
-/

namespace Zboss.Join

open Zboss.Run

/-! ## The choice of a parent -/

theorem chooseNext_some {fits : ExtNeighbor → Bool} {i j : ℕ} {first ne : ExtNeighbor}
    {ret : Option (ℕ × ExtNeighbor)} (chosen : chooseNext fits i first ret = some (j, ne)) :
    ret = some (j, ne) ∨ j = i ∧ ne = first ∧ fits ne = true := by
  unfold chooseNext at chosen
  split at chosen
  · rename_i fit
    cases chosen
    exact Or.inr ⟨rfl, rfl, (Bool.and_eq_true_iff.mp fit).1⟩
  · exact Or.inl chosen

theorem chooseScan_some {fits : ExtNeighbor → Bool} {list : List ExtNeighbor} {i j : ℕ}
    {ret : Option (ℕ × ExtNeighbor)} {ne : ExtNeighbor}
    (chosen : chooseScan fits list i ret = some (j, ne)) :
    ret = some (j, ne) ∨ i ≤ j ∧ list[j - i]? = some ne ∧ fits ne = true := by
  induction list generalizing i ret with
  | nil => exact Or.inl chosen
  | cons first rest induction_ =>
    rw [chooseScan] at chosen
    rcases induction_ chosen with kept | ⟨later, at_, fit⟩
    · rcases chooseNext_some kept with before | ⟨rfl, rfl, fit⟩
      · exact Or.inl before
      · exact Or.inr ⟨le_refl j, by simp, fit⟩
    · refine Or.inr ⟨by omega, ?_, fit⟩
      have shift : j - i = (j - (i + 1)) + 1 := by omega
      rw [shift, List.getElem?_cons_succ]
      exact at_

/-- Nothing is chosen only where nothing fits. -/
theorem chooseScan_none {fits : ExtNeighbor → Bool} {list : List ExtNeighbor} {i : ℕ}
    {ret : Option (ℕ × ExtNeighbor)} (none_ : chooseScan fits list i ret = none) :
    ret = none ∧ list.any fits = false := by
  induction list generalizing i ret with
  | nil => exact ⟨none_, rfl⟩
  | cons first rest induction_ =>
    rw [chooseScan] at none_
    obtain ⟨empty, others⟩ := induction_ none_
    unfold chooseNext at empty
    split at empty
    · cases empty
    · rename_i unfit
      subst empty
      exact ⟨rfl, by simpa [others] using unfit⟩

theorem capDeviceType_clear (cap : UInt8) : capDeviceType (capClearDeviceType cap) = false := by
  have bit : (0xfd : UInt8) >>> 1 &&& 1 = 0 := rfl
  rw [capDeviceType, capClearDeviceType, UInt8.shiftRight_and, UInt8.and_assoc, bit,
    UInt8.and_zero]
  rfl

theorem ExtNeighbor.potential_of_suitable {routerRole : Bool} {panidRef : ℕ} {cap id : UInt8}
    {ne : ExtNeighbor} (fit : ne.suitable routerRole panidRef cap id = true) :
    ne.potentialParent = true := by
  simp only [ExtNeighbor.suitable, Bool.and_eq_true] at fit
  exact fit.1.1.1.1.2

namespace Device

variable {w : Device}

/-- What the choice of a parent writes. -/
def chose (w : Device) (joinedPro : Bool) (deviceType : DeviceType) : Device :=
  { w with joinedPro := joinedPro, deviceType := deviceType }

/-- The choice ends well where a parent is found or not looked at, and what it finds is a
candidate. -/
theorem chooseParent_cases {panidRef : ℕ} {cap : UInt8}
    (found : w.routerRole = true →
      w.extNeighbor.any (ExtNeighbor.suitable w.routerRole panidRef cap w.updateId) = true) :
    w.chooseParent panidRef cap = some (w, none) ∧ w.routerRole = false ∨
      ∃ joinedPro deviceType i ne,
        w.chooseParent panidRef cap = some (w.chose joinedPro deviceType, some (i, ne)) ∧
        w.extNeighbor[i]? = some ne ∧ ne.potentialParent = true := by
  unfold chooseParent
  cases best : w.bestParent panidRef cap with
  | none =>
    have nothing := (chooseScan_none best).2
    by_cases router : w.routerRole = true
    · rw [found router] at nothing
      cases nothing
    · exact Or.inl ⟨if_neg router, by simpa using router⟩
  | some e =>
    obtain ⟨i, ne⟩ := e
    rcases chooseScan_some best with absurd_ | ⟨-, at_, fit⟩
    · cases absurd_
    · have candidate := ExtNeighbor.potential_of_suitable fit
      refine Or.inr ?_
      dsimp only
      split
      · exact ⟨true, .ed, i, ne, rfl, at_, candidate⟩
      · exact ⟨w.joinedPro, w.deviceType, i, ne, rfl, at_, candidate⟩

theorem finds_iff {extendedPanId : UInt64} {cap : UInt8} :
    w.finds extendedPanId cap = true ↔ ∀ panidRef, w.getPanIdRef extendedPanId = some panidRef →
      w.routerRole = true →
      w.extNeighbor.any (ExtNeighbor.suitable w.routerRole panidRef cap w.updateId) = true := by
  unfold finds
  cases w.getPanIdRef extendedPanId with
  | none => simp
  | some panidRef =>
    cases w.routerRole <;> simp

end Device

/-! ## The invariant -/

/-- Parents tried in the role of the search were given up, but for `but`; others were tried
as a router before. -/
def Spent (tried : List (ℕ × Bool)) (table : List ExtNeighbor) (role : Bool) (but : Option ℕ) :
    Prop :=
  ∀ e ∈ tried, e.2 = role ∧ (some e.1 = but ∨ (table[e.1]?).any fun ne => !ne.potentialParent) ∨
    e.2 = true ∧ role = false

/-- What holds of the logs and of the table at any time. -/
structure Tidy (w : Device) : Prop where
  whole : w.broken = false
  accepted : ∀ c ∈ w.confirms, c.status = success ↔ c.accepted = true
  once : w.tried.Nodup
  small : ∀ e ∈ w.tried, e.1 < maxExtNeighbors
  size : w.extNeighbor.length ≤ w.extNeighborSize
  room : w.extNeighborSize ≤ maxExtNeighbors
  scanning_le : w.scanning.length ≤ 1
  scans : w.scanning ≠ [] → w.state = .rejoin

/-- The device between two steps. -/
structure Sound (w : Device) : Prop where
  tidy : Tidy w
  owned : ∀ b, w.under.count b + (w.given.map Prod.fst).count b = w.taken.count b
  busy : w.state = .rejoin ∨ w.associating ≠ [] → w.confirms.length + 1 = w.requests
  rest : w.state = .idle → w.associating = [] → w.confirms.length = w.requests
  associating_le : w.associating.length ≤ 1
  associates : w.associating ≠ [] → w.state = .idle ∧ w.accepted = false ∧ w.joined = false ∧
    ∃ p, w.tmp = .join p ∧ p < w.extNeighbor.length ∧
      Spent w.tried w.extNeighbor (capDeviceType w.savedReq.capabilityInformation) (some p)
  rejoins : w.state = .rejoin → w.accepted = false ∧ w.under ≠ [] ∧
    ∃ extendedPanId cap parent, w.tmp = .rejoin extendedPanId cap parent ∧
      (parent = none → w.scanning ≠ [] ∧ w.tried = []) ∧
      ∀ p, parent = some p → w.scanning = [] ∧ p < w.extNeighbor.length ∧
        Spent w.tried w.extNeighbor (capDeviceType cap) (some p)

/-- The device while a handler holds buffer `buf` of a search that is not over. -/
structure Held (w : Device) (buf : ℕ) : Prop where
  tidy : Tidy w
  owned : ∀ b, w.under.count b + (w.given.map Prod.fst).count b + [buf].count b = w.taken.count b
  count : w.confirms.length + 1 = w.requests
  associating : w.associating = []
  scanning : w.scanning = []

/-! ## Parents that were tried -/

namespace Spent

variable {tried : List (ℕ × Bool)} {table : List ExtNeighbor} {role : Bool} {but : Option ℕ}

/-- A candidate has not been tried in this role. -/
theorem fresh (spent : Spent tried table role none) {i : ℕ} {ne : ExtNeighbor}
    (at_ : table[i]? = some ne) (candidate : ne.potentialParent = true) : (i, role) ∉ tried := by
  intro member
  rcases spent (i, role) member with ⟨-, same | gone⟩ | ⟨yes, no⟩
  · cases same
  · simp [at_, candidate] at gone
  · exact absurd (yes.symm.trans no) (by decide)

theorem push (spent : Spent tried table role none) (i : ℕ) :
    Spent (tried ++ [(i, role)]) table role (some i) := by
  intro e member
  rcases List.mem_append.mp member with old | new
  · rcases spent e old with ⟨same, absurd_ | gone⟩ | before
    · cases absurd_
    · exact Or.inl ⟨same, Or.inr gone⟩
    · exact Or.inr before
  · rw [List.mem_singleton.mp new]
    exact Or.inl ⟨rfl, Or.inl rfl⟩

/-- The parent was given up. -/
theorem clear {i : ℕ} (spent : Spent tried table role (some i))
    (gone : (table[i]?).any fun ne => !ne.potentialParent) : Spent tried table role none := by
  intro e member
  rcases spent e member with ⟨same, this | other⟩ | before
  · cases this
    exact Or.inl ⟨same, Or.inr gone⟩
  · exact Or.inl ⟨same, Or.inr other⟩
  · exact Or.inr before

/-- Other entries and other fields do not matter. -/
theorem modify (spent : Spent tried table role but) (i : ℕ) (f : ExtNeighbor → ExtNeighbor)
    (kept : ∀ ne, table[i]? = some ne → i ∈ tried.map Prod.fst → ne.potentialParent = false →
      (f ne).potentialParent = false) :
    Spent tried (table.modify i f) role but := by
  intro e member
  rcases spent e member with ⟨same, this | gone⟩ | before
  · exact Or.inl ⟨same, Or.inl this⟩
  · refine Or.inl ⟨same, Or.inr ?_⟩
    obtain ⟨ne, at_, unlikely⟩ := (Option.any_eq_true _ _).mp gone
    rw [List.getElem?_modify, at_]
    by_cases here : i = e.1
    · subst here
      simpa using kept ne at_ (List.mem_map_of_mem member) (by simpa using unlikely)
    · simpa [here] using unlikely
  · exact Or.inr before

/-- A new entry was not tried. -/
theorem append (spent : Spent tried table role but) (more : List ExtNeighbor) :
    Spent tried (table ++ more) role but := by
  intro e member
  rcases spent e member with ⟨same, this | gone⟩ | before
  · exact Or.inl ⟨same, Or.inl this⟩
  · obtain ⟨ne, at_, unlikely⟩ := (Option.any_eq_true _ _).mp gone
    have inside : e.1 < table.length := (List.getElem?_eq_some_iff.mp at_).1
    refine Or.inl ⟨same, Or.inr ?_⟩
    rw [List.getElem?_append_left inside, at_]
    exact unlikely
  · exact Or.inr before

end Spent

/-! ## Buffers -/

/-- A buffer taken from a list, counted. -/
theorem count_erase_add {list : List ℕ} {buf : ℕ} (member : buf ∈ list) (b : ℕ) :
    list.count b = [buf].count b + (list.erase buf).count b := by
  rw [(List.perm_cons_erase member).count_eq b]
  exact (List.count_append : ([buf] ++ list.erase buf).count b = _)

theorem count_under (w : Device) (b : ℕ) :
    w.under.count b = (w.calls.map Call.buf).count b + w.associating.count b +
      w.scanning.count b + w.sending.count b + w.alarms.count b + w.polling.count b := by
  simp only [Device.under, List.count_append]

theorem eq_singleton_of_mem {list : List ℕ} {buf : ℕ} (short : list.length ≤ 1)
    (member : buf ∈ list) : list = [buf] := by
  cases list with
  | nil => cases member
  | cons first rest =>
    have empty : rest = [] := List.length_eq_zero_iff.mp (by simpa using short)
    rw [empty] at member ⊢
    rw [List.mem_singleton.mp member]

/-! ## Ends of a search -/

namespace Held

variable {w : Device} {buf : ℕ}

/-- A confirm ends the search. -/
theorem answer (held : Held w buf) (idle : w.state = .idle) {status : UInt8} {accepted : Bool}
    (agree : status = success ↔ accepted = true) : Sound (w.joinConfirm buf status accepted) where
  tidy :=
    { held.tidy with
      accepted := by
        intro c member
        rcases List.mem_append.mp member with old | new
        · exact held.tidy.accepted c old
        · rw [List.mem_singleton.mp new]
          exact agree }
  owned b := by
    have before := held.owned b
    simp only [count_under, Device.joinConfirm, List.map_append, List.map_cons, List.map_nil,
      List.count_append] at before ⊢
    omega
  busy := by
    rintro (rejoin | open_)
    · exact absurd (idle.symm.trans rejoin) (by decide)
    · exact absurd held.associating open_
  rest _ _ := List.length_append.trans held.count
  associating_le := by simp [Device.joinConfirm, held.associating]
  associates open_ := absurd held.associating open_
  rejoins rejoin := absurd (idle.symm.trans rejoin) (by decide)

/-- The table is given back. -/
theorem stop (held : Held w buf) : Held w.exneighborStop buf :=
  { held with
    tidy :=
      { held.tidy with
        size := Nat.zero_le _
        room := by
          have room := held.tidy.room
          simp only [Device.exneighborStop]
          split
          · exact Nat.zero_le _
          · exact room } }

/-- The state may be IDLE, as no scan goes on. -/
theorem toIdle (held : Held w buf) : Held { w with state := .idle } buf :=
  { held with
    tidy :=
      { held.tidy with
        scans := fun open_ => absurd held.scanning open_ } }

theorem rejoinFailed (held : Held w buf) (accepted : w.accepted = false) :
    Sound (w.rejoinFailed buf) := by
  refine held.toIdle.stop.answer rfl ?_
  rw [accepted]
  decide

/-- Another parent is noted. -/
theorem tidy_push (held : Held w buf) {i : ℕ} {role : Bool}
    (spent : Spent w.tried w.extNeighbor role none) {ne : ExtNeighbor}
    (at_ : w.extNeighbor[i]? = some ne) (candidate : ne.potentialParent = true) :
    Tidy { w with tried := w.tried ++ [(i, role)] } :=
  { held.tidy with
    once := by
      refine List.nodup_append.mpr ⟨held.tidy.once, List.nodup_singleton _, ?_⟩
      intro e old e' new same
      rw [same, List.mem_singleton.mp new] at old
      exact spent.fresh at_ candidate old
    small := by
      intro e member
      rcases List.mem_append.mp member with old | new
      · exact held.tidy.small e old
      · rw [List.mem_singleton.mp new]
        have inside : i < w.extNeighbor.length := (List.getElem?_eq_some_iff.mp at_).1
        exact lt_of_lt_of_le inside (held.tidy.size.trans held.tidy.room) }

/-- An association goes to a parent, where there is one. -/
theorem associationJoin (held : Held w buf) (idle : w.state = .idle)
    (accepted : w.accepted = false) (joined : w.joined = false) (request : JoinRequest)
    (spent : Spent w.tried w.extNeighbor (capDeviceType request.capabilityInformation) none)
    (finds : w.finds request.extendedPanId request.capabilityInformation = true) :
    w.associationJoin buf request = some (w, notPermitted) ∧
        (w.routerRole = true → w.getPanIdRef request.extendedPanId = none) ∨
      ∃ d, w.associationJoin buf request = some (d, success) ∧ Sound d := by
  unfold Device.associationJoin
  rw [joined, if_neg Bool.false_ne_true]
  cases known : w.getPanIdRef request.extendedPanId with
  | none => exact Or.inl ⟨rfl, fun _ => rfl⟩
  | some panidRef =>
    rcases Device.chooseParent_cases (Device.finds_iff.mp finds panidRef known) with
      ⟨nobody, build⟩ | ⟨joinedPro, deviceType, i, ne, found, at_, candidate⟩
    · exact Or.inl ⟨by simp only [nobody], by simp [build]⟩
    · refine Or.inr ⟨(w.chose joinedPro deviceType).associateTo buf request i,
        by simp only [found], ?_⟩
      have inside : i < w.extNeighbor.length := (List.getElem?_eq_some_iff.mp at_).1
      exact {
        tidy := { held.tidy_push spent at_ candidate with }
        owned := by
          intro b
          have before := held.owned b
          simp only [count_under, Device.chose, Device.associateTo, List.count_append] at before ⊢
          omega
        busy := fun _ => held.count
        rest := fun _ none_ => absurd none_ (by simp [Device.associateTo])
        associating_le := by simp [Device.chose, Device.associateTo, held.associating]
        associates := fun _ => ⟨idle, accepted, joined, i, rfl, inside, spent.push i⟩
        rejoins := fun rejoin => absurd (idle.symm.trans rejoin) (by decide) }

/-- The search of a rejoin goes on with a parent, or ends. -/
theorem rejoinScanConfirm (held : Held w buf) (rejoin : w.state = .rejoin)
    (accepted : w.accepted = false) {extendedPanId : UInt64} {cap : UInt8} {parent : Option ℕ}
    (tmp : w.tmp = .rejoin extendedPanId cap parent)
    (spent : Spent w.tried w.extNeighbor (capDeviceType cap) none)
    (finds : w.finds extendedPanId cap = true) (env : Surroundings) :
    Sound (w.rejoinScanConfirm buf env) := by
  simp only [Device.rejoinScanConfirm, tmp]
  cases known : w.getPanIdRef extendedPanId with
  | none => exact held.rejoinFailed accepted
  | some panidRef =>
    rcases Device.chooseParent_cases (Device.finds_iff.mp finds panidRef known) with
      ⟨nobody, -⟩ | ⟨joinedPro, deviceType, i, ne, found, at_, candidate⟩
    · simp only [nobody]
      exact held.rejoinFailed accepted
    · simp only [found]
      have inside : i < w.extNeighbor.length := (List.getElem?_eq_some_iff.mp at_).1
      exact {
        tidy :=
          { held.tidy_push spent at_ candidate with
            size := by
              simpa [Device.rejoinTo, Device.chose] using held.tidy.size }
        owned := by
          intro b
          have before := held.owned b
          simp only [count_under, Device.chose, Device.rejoinTo, List.count_append,
            List.map_append, List.map_cons, List.map_nil, Call.buf] at before ⊢
          omega
        busy := fun _ => held.count
        rest := fun idle => absurd (rejoin.symm.trans idle) (by decide)
        associating_le := by simp [Device.chose, Device.rejoinTo, held.associating]
        associates := fun open_ => absurd held.associating open_
        rejoins := by
          refine fun _ => ⟨accepted, by simp [Device.under, Device.rejoinTo], extendedPanId, cap,
            some i, rfl, (nomatch ·), ?_⟩
          intro p same
          cases same
          refine ⟨held.scanning, by simpa [Device.rejoinTo, Device.chose] using inside, ?_⟩
          refine (spent.push i).modify i _ ?_
          intro e _ _ unlikely
          split <;> exact unlikely }

end Held

/-! ## The steps -/

namespace Sound

variable {w : Device} {buf : ℕ}

/-- The buffer of a request or of a response comes in. -/
theorem owned_take (sound : Sound w) (buf b : ℕ) :
    w.under.count b + (w.given.map Prod.fst).count b + [buf].count b =
      (w.taken ++ [buf]).count b := by
  have before := sound.owned b
  rw [List.count_append]
  omega

/-- A request that starts nothing is answered at once. -/
theorem refuse (sound : Sound w) {status : UInt8} (failure : status ≠ success) :
    Sound ({ w with requests := w.requests + 1, taken := w.taken ++ [buf] }.joinConfirm buf status
      false) :=
  { sound with
    tidy :=
      { sound.tidy with
        accepted := by
          intro c member
          rcases List.mem_append.mp member with old | new
          · exact sound.tidy.accepted c old
          · rw [List.mem_singleton.mp new]
            exact iff_of_false failure Bool.false_ne_true }
    owned := by
      intro b
      have before := sound.owned_take buf b
      simp only [count_under, Device.joinConfirm, List.map_append, List.map_cons, List.map_nil,
        List.count_append] at before ⊢
      omega
    busy := fun open_ => by
      rw [← sound.busy open_]
      simp [Device.joinConfirm]
    rest := fun idle none_ => by
      rw [← sound.rest idle none_]
      simp [Device.joinConfirm] }

/-- A request is taken while nothing is searched. -/
theorem begin_ (sound : Sound w) (buf : ℕ) (idle : w.state = .idle) (none_ : w.associating = []) :
    Held { w with
      requests := w.requests + 1
      taken := w.taken ++ [buf]
      accepted := false
      tried := [] } buf where
  tidy :=
    { sound.tidy with
      once := List.nodup_nil
      small := fun _ absurd_ => nomatch absurd_ }
  owned := sound.owned_take buf
  count := congrArg (· + 1) (sound.rest idle none_)
  associating := none_
  scanning := by
    by_contra scans
    exact absurd (idle.symm.trans (sound.tidy.scans scans)) (by decide)

theorem joinAssociation (sound : Sound w) {request : JoinRequest}
    (free : w.joined = true ∨ w.state = .idle ∧ w.associating = [] ∧
      w.finds request.extendedPanId request.capabilityInformation = true) :
    Sound ({ w with requests := w.requests + 1, taken := w.taken ++ [buf] }.joinAssociation buf
      request) := by
  by_cases joined : w.joined = true
  · have after : { w with requests := w.requests + 1, taken := w.taken ++ [buf] }.joinAssociation
        buf request = { w with requests := w.requests + 1, taken := w.taken ++ [buf] }.joinConfirm
          buf invalidRequest false := by
      simp [Device.joinAssociation, Device.begin_, Device.associationJoin, joined, invalidRequest,
        success]
    rw [after]
    exact sound.refuse (by decide)
  · obtain ⟨idle, none_, finds⟩ := free.resolve_left joined
    have held := sound.begin_ buf idle none_
    simp only [Device.joinAssociation, Device.begin_, if_neg joined]
    rcases held.associationJoin idle rfl (by simpa using joined) request
        (fun _ absurd_ => nomatch absurd_) finds with ⟨nobody, -⟩ | ⟨d, asked, d_sound⟩
    · rw [nobody]
      exact held.answer idle (by decide)
    · rw [asked]
      exact d_sound

/-- The table has no less room after the start. -/
theorem exneighborStart_eq (tidy : Tidy w) (room : ℕ) :
    ∃ size, w.exneighborStart room = { w with extNeighborSize := size } ∧
      w.extNeighborSize ≤ size ∧ size ≤ maxExtNeighbors := by
  unfold Device.exneighborStart
  split
  · rename_i off
    exact ⟨_, rfl, off.2 ▸ Nat.zero_le _, Nat.min_le_right _ _⟩
  · exact ⟨w.extNeighborSize, rfl, le_refl _, tidy.room⟩

theorem nlmeRejoin (sound : Sound w) {request : JoinRequest} {room : ℕ}
    (free : w.state = .rejoin ∨ w.associating = []) :
    Sound ({ w with requests := w.requests + 1, taken := w.taken ++ [buf] }.nlmeRejoin buf request
      room) := by
  unfold Device.nlmeRejoin
  split
  · rename_i idle
    have idle : w.state = .idle := idle
    have none_ := free.resolve_left fun rejoin => absurd (idle.symm.trans rejoin) (by decide)
    have held := sound.begin_ buf idle none_
    have tidy : Tidy { w with requests := w.requests + 1, taken := w.taken ++ [buf] } :=
      { sound.tidy with }
    obtain ⟨size, start, grows, small⟩ := exneighborStart_eq tidy room
    have scanning : w.scanning = [] := held.scanning
    rw [start]
    exact {
      tidy :=
        { held.tidy with
          size := sound.tidy.size.trans grows
          room := small
          scanning_le := by simp [scanning]
          scans := fun _ => rfl }
      owned := by
        intro b
        have before := held.owned b
        simp only [count_under, List.count_append] at before ⊢
        omega
      busy := fun _ => held.count
      rest := (nomatch ·)
      associating_le := sound.associating_le
      associates := fun open_ => absurd none_ open_
      rejoins := by
        refine fun _ => ⟨rfl, by simp [Device.under], _, _, none, rfl, fun _ => ⟨by simp, rfl⟩, ?_⟩
        exact fun _ absurd_ => nomatch absurd_ }
  · exact sound.refuse (by decide)

theorem joinRequest (sound : Sound w) {request : JoinRequest} {room : ℕ}
    (careful : Careful w (.joinRequest buf request room)) :
    Sound (w.joinRequest buf request room) := by
  cases method : request.rejoinNetwork with
  | association =>
    simp only [Careful, method] at careful
    simp only [Device.joinRequest, method]
    exact sound.joinAssociation careful
  | rejoin =>
    simp only [Careful, method] at careful
    simp only [Device.joinRequest, method]
    exact sound.nlmeRejoin careful

/-- The association request comes back. -/
theorem hold_associating (sound : Sound w) (member : buf ∈ w.associating) :
    Held { w with associating := w.associating.erase buf } buf where
  tidy := { sound.tidy with }
  owned b := by
    have before := sound.owned b
    have taken := count_erase_add member b
    simp only [count_under] at before ⊢
    omega
  count := sound.busy (Or.inr (List.ne_nil_of_mem member))
  associating := by
    rw [eq_singleton_of_mem sound.associating_le member]
    simp
  scanning := by
    by_contra scans
    have idle := (sound.associates (List.ne_nil_of_mem member)).1
    exact absurd (idle.symm.trans (sound.tidy.scans scans)) (by decide)

end Sound

namespace Held

variable {w : Device}

/-- A parent is given up. -/
theorem giveUp (held : Held w buf) (i : ℕ) : Held (w.giveUp i) buf :=
  { held with
    tidy :=
      { held.tidy with
        size := by simpa [Device.giveUp] using held.tidy.size } }

theorem asEndDevice (held : Held w buf) : Held w.asEndDevice buf :=
  { held with
    tidy :=
      { held.tidy with
        size := by simpa [Device.asEndDevice] using held.tidy.size } }

/-- "Try all parents again": those that were tried were tried as a router. -/
theorem spent_asEndDevice {table : List ExtNeighbor}
    (spent : Spent w.tried table true none) : Spent w.tried w.asEndDevice.extNeighbor false none := by
  intro e member
  rcases spent e member with ⟨same, -⟩ | ⟨yes, no⟩
  · exact Or.inr ⟨same, rfl⟩
  · exact Or.inr ⟨yes, rfl⟩

theorem spent_giveUp {table : List ExtNeighbor} {role : Bool} {i : ℕ}
    (inside : i < table.length) (spent : Spent w.tried table role (some i)) :
    Spent w.tried (table.modify i fun ne => { ne with potentialParent := false }) role none := by
  refine Spent.clear (i := i) (spent.modify i _ fun _ _ _ _ => rfl) ?_
  rw [List.getElem?_modify, List.getElem?_eq_getElem inside]
  simp

/-- An association that failed goes on in its role or as an end device, or is answered. -/
theorem associateRetry (held : Held w buf) (idle : w.state = .idle) (accepted : w.accepted = false)
    (joined : w.joined = false) {status : UInt8} (failure : status ≠ success)
    (spent : Spent w.tried w.extNeighbor (capDeviceType w.savedReq.capabilityInformation) none)
    (finds : w.finds w.savedReq.extendedPanId w.savedReq.capabilityInformation = true) :
    Sound (w.associateRetry buf status) := by
  unfold Device.associateRetry
  rcases held.associationJoin idle accepted joined _ spent finds with
    ⟨nobody, unknown⟩ | ⟨d, asked, sound⟩
  · simp only [nobody]
    have failed : status = success ↔ w.accepted = true :=
      iff_of_false failure (by simp [accepted])
    by_cases router : capDeviceType w.savedReq.capabilityInformation = true
    · simp only [router, and_self, ↓reduceIte]
      have again : w.asEndDevice.finds w.asEndDevice.savedReq.extendedPanId
          w.asEndDevice.savedReq.capabilityInformation = true := by
        refine Device.finds_iff.mpr fun panidRef known build => ?_
        have none_ := unknown build
        exact absurd (known.symm.trans none_) (Option.some_ne_none panidRef)
      have role : capDeviceType w.asEndDevice.savedReq.capabilityInformation = false :=
        capDeviceType_clear _
      have spent_ := spent_asEndDevice (router ▸ spent)
      rcases held.asEndDevice.associationJoin idle accepted joined
          w.asEndDevice.savedReq (role ▸ spent_) again with
        ⟨nobody_, -⟩ | ⟨d, asked, sound⟩
      · simp only [nobody_]
        exact held.asEndDevice.answer idle failed
      · simp only [asked]
        exact sound
    · simp only [router]
      exact held.answer idle failed
  · simp only [asked]
    simpa [success, notPermitted] using sound

end Held

namespace Sound

variable {w : Device} {buf : ℕ}

theorem associateConfirm (sound : Sound w) {status : UInt8} {shortAddress : UInt16}
    (careful : Careful w (.associateConfirm buf status shortAddress)) :
    Sound (w.associateConfirm buf status shortAddress) := by
  by_cases member : buf ∈ w.associating
  · obtain ⟨idle, accepted, joined, p, tmp, inside, spent⟩ :=
      sound.associates (List.ne_nil_of_mem member)
    have held := sound.hold_associating member
    have after : w.associateConfirm buf status shortAddress =
        if status = success then
          { w with associating := w.associating.erase buf }.associated buf w.extNeighbor[p]
            shortAddress
        else ({ w with associating := w.associating.erase buf }.giveUp p).associateRetry buf status
        := by
      simp only [Device.associateConfirm, if_pos member, tmp, List.getElem?_eq_getElem inside]
    rw [after]
    split
    · have told : Held { w with
          associating := w.associating.erase buf
          accepted := true
          deviceType := if capDeviceType w.savedReq.capabilityInformation then .router else .ed
          joined := true
          extPanId := w.savedReq.extendedPanId
          networkAddress := shortAddress
          updateId := w.extNeighbor[p].updateId
          depth := if w.routerRole then
              if w.extNeighbor[p].depth ≠ 0xf then w.extNeighbor[p].depth + 1
              else w.extNeighbor[p].depth
            else w.depth } buf := { held with tidy := { held.tidy with } }
      exact told.stop.answer idle (iff_of_true rfl rfl)
    · rename_i failure
      have finds := careful member failure
      simp only [Device.associateFinds, tmp] at finds
      exact (held.giveUp p).associateRetry idle accepted joined failure
        (Held.spent_giveUp inside spent) finds
  · rw [Device.associateConfirm, if_neg member]
    exact sound

/-- The scan of a rejoin is over. -/
theorem scanConfirm (sound : Sound w) {env : Surroundings}
    (careful : Careful w (.scanConfirm buf env)) : Sound (w.scanConfirm buf env) := by
  by_cases member : buf ∈ w.scanning
  · have scans := List.ne_nil_of_mem member
    have rejoin := sound.tidy.scans scans
    obtain ⟨accepted, -, extendedPanId, cap, parent, tmp, first, later⟩ := sound.rejoins rejoin
    have first_ : w.tried = [] := by
      cases parent with
      | none => exact (first rfl).2
      | some p => exact absurd (later p rfl).1 scans
    have only := eq_singleton_of_mem sound.tidy.scanning_le member
    have none_ : w.associating = [] := by
      by_contra open_
      exact absurd (rejoin.symm.trans (sound.associates open_).1) (by decide)
    have held : Held { w with scanning := w.scanning.erase buf } buf :=
      { tidy :=
          { sound.tidy with
            scanning_le := by simp [only]
            scans := fun _ => rejoin }
        owned := by
          intro b
          have before := sound.owned b
          have taken := count_erase_add member b
          simp only [count_under] at before ⊢
          omega
        count := sound.busy (Or.inl rejoin)
        associating := none_
        scanning := by simp [only] }
    have finds := careful member
    simp only [Device.rejoinFinds, tmp] at finds
    have after : w.scanConfirm buf env =
        { w with scanning := w.scanning.erase buf }.rejoinScanConfirm buf env := by
      simp only [Device.scanConfirm, if_pos member, rejoin]
    rw [after]
    refine held.rejoinScanConfirm rejoin accepted tmp (fun e tried => ?_) finds env
    rw [show w.tried = [] from first_] at tried
    cases tried
  · rw [Device.scanConfirm, if_neg member]
    exact sound

/-- Buffers change their place. -/
theorem move (sound : Sound w) {calls : List Call} {sending alarms polling taken : List ℕ}
    {given : List (ℕ × Owner)}
    (owned : ∀ b, { w with
        calls := calls, sending := sending, alarms := alarms, polling := polling }.under.count b +
      (given.map Prod.fst).count b = taken.count b)
    (goes : w.state = .rejoin → { w with
        calls := calls, sending := sending, alarms := alarms, polling := polling }.under ≠ []) :
    Sound { w with
      calls := calls
      sending := sending
      alarms := alarms
      polling := polling
      taken := taken
      given := given } :=
  { sound with
    tidy := { sound.tidy with }
    owned := owned
    rejoins := fun rejoin =>
      let ⟨accepted, _, search⟩ := sound.rejoins rejoin
      ⟨accepted, goes rejoin, search⟩ }

/-- Another table in which the parents that were tried are still given up. -/
theorem withTable (sound : Sound w) (panMap : List UInt64) {table : List ExtNeighbor}
    (size : table.length ≤ w.extNeighborSize) (grows : w.extNeighbor.length ≤ table.length)
    (kept : ∀ role but, Spent w.tried w.extNeighbor role but → Spent w.tried table role but) :
    Sound { w with panMap := panMap, extNeighbor := table } :=
  { sound with
    tidy := { sound.tidy with size := size }
    associates := by
      intro open_
      obtain ⟨idle, accepted, joined, p, tmp, inside, spent⟩ := sound.associates open_
      exact ⟨idle, accepted, joined, p, tmp, inside.trans_le grows, kept _ _ spent⟩
    rejoins := by
      intro rejoin
      obtain ⟨accepted, goes, extendedPanId, cap, parent, tmp, first, later⟩ :=
        sound.rejoins rejoin
      refine ⟨accepted, goes, extendedPanId, cap, parent, tmp, first, fun p same => ?_⟩
      obtain ⟨scanning, inside, spent⟩ := later p same
      exact ⟨scanning, inside.trans_le grows, kept _ _ spent⟩ }

theorem giveUp (sound : Sound w) (i : ℕ) : Sound (w.giveUp i) := by
  refine sound.withTable w.panMap ?_ ?_ fun role but spent =>
    spent.modify i _ fun _ _ _ _ => rfl
  · rw [List.length_modify]
    exact sound.tidy.size
  · rw [List.length_modify]

theorem parent_inside (sound : Sound w) (rejoin : w.state = .rejoin) {extendedPanId : UInt64}
    {cap : UInt8} {p : ℕ} (tmp : w.tmp = .rejoin extendedPanId cap (some p)) :
    w.scanning = [] ∧ p < w.extNeighbor.length := by
  obtain ⟨-, -, _, _, _, tmp', -, later⟩ := sound.rejoins rejoin
  rw [tmp] at tmp'
  cases tmp'
  obtain ⟨scanning, inside, -⟩ := later p rfl
  exact ⟨scanning, inside⟩

theorem rejoinParent_some (parent : w.rejoinParent.isSome) :
    ∃ extendedPanId cap p, w.tmp = .rejoin extendedPanId cap (some p) := by
  unfold Device.rejoinParent at parent
  cases tmp : w.tmp with
  | rejoin extendedPanId cap q =>
    cases q with
    | none => simp [tmp] at parent
    | some p => exact ⟨extendedPanId, cap, p, rfl⟩
  | join _ => simp [tmp] at parent
  | other => simp [tmp] at parent

theorem dataConfirm (sound : Sound w) (careful : Careful w (.dataConfirm buf)) :
    Sound (w.dataConfirm buf) := by
  by_cases member : buf ∈ w.sending
  · have taken := count_erase_add member
    cases state : w.state with
    | rejoin =>
      have alone := careful member state
      have after : w.dataConfirm buf =
          { w with sending := w.sending.erase buf, alarms := [buf] } := by
        simp only [Device.dataConfirm, if_pos member, state, alone, List.tail_nil,
          List.nil_append]
      rw [after]
      refine sound.move (fun b => ?_) fun _ => by simp [Device.under]
      have before := sound.owned b
      have first := taken b
      simp only [count_under, alone, List.count_nil] at before ⊢
      omega
    | idle =>
      have after : w.dataConfirm buf = { w with
          sending := w.sending.erase buf
          given := w.given ++ [(buf, .nldeDataConfirm)] } := by
        simp only [Device.dataConfirm, if_pos member, state]
      rw [after]
      refine sound.move (fun b => ?_) fun rejoin => absurd (rejoin.symm.trans state) (by decide)
      have before := sound.owned b
      have first := taken b
      simp only [count_under, List.map_append, List.map_cons, List.map_nil,
        List.count_append] at before ⊢
      omega
  · rw [Device.dataConfirm, if_neg member]
    exact sound

theorem responseTimeout (sound : Sound w) (careful : Careful w (.responseTimeout buf)) :
    Sound (w.responseTimeout buf) := by
  by_cases member : buf ∈ w.alarms
  · have taken := count_erase_add member
    obtain ⟨parent, busy⟩ := careful member
    obtain ⟨extendedPanId, cap, p, tmp⟩ := rejoinParent_some parent
    by_cases on : w.rxOnWhenIdle = true
    · have rejoin := busy.resolve_right (by simp [on])
      have inside := (sound.parent_inside rejoin tmp).2
      have after : w.responseTimeout buf = { w.giveUp p with
          alarms := w.alarms.erase buf
          calls := w.calls ++ [.rejoinScanConfirm buf] } := by
        simp only [Device.responseTimeout, if_pos member, tmp, on, ↓reduceIte, Device.nextParent,
          if_pos inside, Device.giveUp]
      rw [after]
      refine (sound.giveUp p).move (fun b => ?_) fun _ => by simp [Device.under]
      have before := (sound.giveUp p).owned b
      have first := taken b
      simp only [count_under, Device.giveUp, List.map_append, List.map_cons, List.map_nil,
        Call.buf, List.count_append] at before ⊢
      omega
    · have after : w.responseTimeout buf = { w with
          alarms := w.alarms.erase buf
          polling := w.polling ++ [buf] } := by
        simp only [Device.responseTimeout, if_pos member, tmp, on]
        rfl
      rw [after]
      refine sound.move (fun b => ?_) fun _ => by simp [Device.under]
      have before := sound.owned b
      have first := taken b
      simp only [count_under, List.count_append] at before ⊢
      omega
  · rw [Device.responseTimeout, if_neg member]
    exact sound

theorem pollConfirm (sound : Sound w) {status : UInt8}
    (careful : Careful w (.pollConfirm buf status)) : Sound (w.pollConfirm buf status) := by
  by_cases member : buf ∈ w.polling
  · have taken := count_erase_add member
    cases state : w.state with
    | rejoin =>
      obtain ⟨parent, failure⟩ := careful member state
      obtain ⟨extendedPanId, cap, p, tmp⟩ := rejoinParent_some parent
      have inside := (sound.parent_inside state tmp).2
      have after : w.pollConfirm buf status = { w.giveUp p with
          polling := w.polling.erase buf
          calls := w.calls ++ [.rejoinScanConfirm buf] } := by
        simp only [Device.pollConfirm, if_pos member, state, tmp, if_pos failure,
          Device.nextParent, if_pos inside, Device.giveUp]
      rw [after]
      refine (sound.giveUp p).move (fun b => ?_) fun _ => by simp [Device.under]
      have before := (sound.giveUp p).owned b
      have first := taken b
      simp only [count_under, Device.giveUp, List.map_append, List.map_cons, List.map_nil,
        Call.buf, List.count_append] at before ⊢
      omega
    | idle =>
      have after : w.pollConfirm buf status = { w with
          polling := w.polling.erase buf
          given := w.given ++ [(buf, .syncConfirm)] } := by
        simp only [Device.pollConfirm, if_pos member, state]
      rw [after]
      refine sound.move (fun b => ?_) fun rejoin => absurd (rejoin.symm.trans state) (by decide)
      have before := sound.owned b
      have first := taken b
      simp only [count_under, List.map_append, List.map_cons, List.map_nil,
        List.count_append] at before ⊢
      omega
  · rw [Device.pollConfirm, if_neg member]
    exact sound

/-- A callback that restarts the search runs while nothing scans. -/
theorem call (sound : Sound w) {env : Surroundings} (careful : Careful w (.call env)) :
    Sound (w.call env) := by
  cases calls : w.calls with
  | nil =>
    simp only [Device.call, calls]
    exact sound
  | cons first rest =>
    have counted : ∀ c, (w.calls.map Call.buf).count c =
        [first.buf].count c + (rest.map Call.buf).count c := by
      intro c
      rw [calls]
      exact (List.count_append : ([first.buf] ++ rest.map Call.buf).count c = _)
    cases first with
    | rejoinScanConfirm b =>
      simp only [Careful, calls] at careful
      simp only [Device.call, calls]
      obtain ⟨rejoin, given_up, finds⟩ := careful
      obtain ⟨accepted, -, extendedPanId, cap, parent, tmp, -, later⟩ := sound.rejoins rejoin
      simp only [Device.parentEntry, Device.rejoinParent, tmp] at given_up
      simp only [Device.rejoinFinds, tmp] at finds
      cases parent with
      | none => simp at given_up
      | some p =>
        obtain ⟨scanning, inside, spent⟩ := later p rfl
        have none_ : w.associating = [] := by
          by_contra open_
          exact absurd (rejoin.symm.trans (sound.associates open_).1) (by decide)
        have held : Held { w with calls := rest } b :=
          { tidy := { sound.tidy with }
            owned := by
              intro c
              have before := sound.owned c
              have first := counted c
              simp only [count_under, Call.buf] at before first ⊢
              omega
            count := sound.busy (Or.inl rejoin)
            associating := none_
            scanning := scanning }
        exact held.rejoinScanConfirm rejoin accepted tmp (spent.clear given_up) finds env
    | forward b =>
      simp only [Careful, calls] at careful
      simp only [Device.call, calls]
      split
      · refine sound.move (fun c => ?_) fun _ => by simp [Device.under]
        have before := sound.owned c
        have first := counted c
        simp only [count_under, Call.buf, List.count_append] at before first ⊢
        omega
      · rename_i stopped
        refine sound.move (fun c => ?_) fun rejoin => ?_
        · have before := sound.owned c
          have first := counted c
          simp only [count_under, Call.buf, List.count_append, List.map_append, List.map_cons,
            List.map_nil] at before first ⊢
          omega
        · rcases careful with sent | idle | others
          · exact absurd sent stopped
          · exact absurd (rejoin.symm.trans idle) (by decide)
          · exact others

/-- A response is read where it can be, and cancels no alarm. -/
theorem rejoinResponse (sound : Sound w) {r : RejoinResponse}
    (careful : Careful w (.rejoinResponse buf r)) : Sound (w.rejoinResponse buf r) := by
  cases state : w.state with
  | idle =>
    have after : w.rejoinResponse buf r = { w with
        taken := w.taken ++ [buf]
        given := w.given ++ [(buf, .dropped)] } := by
      simp only [Device.rejoinResponse, state]
    rw [after]
    refine sound.move (fun b => ?_) fun rejoin => absurd (rejoin.symm.trans state) (by decide)
    have before := sound.owned b
    simp only [count_under, List.map_append, List.map_cons, List.map_nil,
      List.count_append] at before ⊢
    omega
  | rejoin =>
    obtain ⟨alone, reads⟩ := careful state
    obtain ⟨accepted, -, extendedPanId, cap, parent, tmp, -, later⟩ := sound.rejoins state
    cases parent with
    | none => simp [Device.parentEntry, Device.rejoinParent, tmp] at reads
    | some p =>
      obtain ⟨scanning, inside, spent⟩ := later p rfl
      have none_ : w.associating = [] := by
        by_contra open_
        exact absurd (state.symm.trans (sound.associates open_).1) (by decide)
      have agree : r.valid w.extendedAddress w.extNeighbor[p].longAddr =
          r.accepts w.extendedAddress w.extNeighbor[p].longAddr := by
        simpa [Device.parentEntry, Device.rejoinParent, tmp, inside] using reads
      cases valid : r.valid w.extendedAddress w.extNeighbor[p].longAddr with
      | true =>
        have after : w.rejoinResponse buf r = { w with
            taken := w.taken ++ [buf]
            accepted := true
            alarms := [] }.rejoined buf extendedPanId w.extNeighbor[p] r := by
          simp only [Device.rejoinResponse, state, tmp, List.getElem?_eq_getElem inside, valid,
            ← agree, Bool.or_true, alone, List.tail_nil, ↓reduceIte]
        rw [after]
        have held : Held { w with
            taken := w.taken ++ [buf]
            accepted := true
            alarms := []
            networkAddress := r.networkAddr
            joined := true
            depth := if w.routerRole then
                w.extNeighbor[p].depth + (if w.depth ≠ 0xf then 1 else 0)
              else w.depth
            extPanId := extendedPanId } buf :=
          { tidy := { sound.tidy with }
            owned := by
              intro b
              have before := sound.owned_take buf b
              simp only [count_under, alone] at before ⊢
              exact before
            count := sound.busy (Or.inl state)
            associating := none_
            scanning := scanning }
        exact held.toIdle.stop.answer rfl (iff_of_true rfl rfl)
      | false =>
        have after : w.rejoinResponse buf r = { w.giveUp p with
            taken := w.taken ++ [buf]
            alarms := []
            calls := w.calls ++ [.rejoinScanConfirm buf] } := by
          simp only [Device.rejoinResponse, state, tmp, List.getElem?_eq_getElem inside, valid,
            ← agree, Bool.or_false, alone, List.tail_nil, Device.giveUp, Bool.false_eq_true,
            ↓reduceIte]
        rw [after]
        refine (sound.giveUp p).move (fun b => ?_) fun _ => by simp [Device.under]
        have before := (sound.giveUp p).owned_take buf b
        simp only [count_under, Device.giveUp, alone, List.map_append, List.map_cons,
          List.map_nil, Call.buf, List.count_append] at before ⊢
        omega

/-- The table gets or refreshes an entry that is not brought back. -/
theorem beaconEntry (sound : Sound w) {b : Beacon} {panidRef : ℕ} (panMap : List UInt64)
    (careful : ∀ i, w.exneighborByShort panidRef b.srcAddr = some i → i ∈ w.tried.map Prod.fst →
      ∀ ne, w.extNeighbor[i]? = some ne → ne.potentialParent = false →
        (w.fill b ne).potentialParent = false) :
    Sound ({ w with panMap := panMap }.beaconEntry b panidRef) := by
  unfold Device.beaconEntry
  split
  · rename_i i found
    refine sound.withTable panMap ?_ ?_ fun role but spent => spent.modify i _ ?_
    · rw [List.length_modify]
      exact sound.tidy.size
    · rw [List.length_modify]
    · intro ne at_ tried unlikely
      exact careful i found tried ne at_ unlikely
  · split
    · exact sound.withTable panMap sound.tidy.size (le_refl _) fun _ _ spent => spent
    · rename_i full
      have size := sound.tidy.size
      have room : w.extNeighbor.length ≠ w.extNeighborSize := full
      refine sound.withTable panMap ?_ ?_ fun role but spent => spent.append _
      · rw [List.length_append, List.length_singleton]
        exact Nat.lt_of_le_of_ne size room
      · rw [List.length_append]
        exact Nat.le_add_right _ _

theorem not_revives {b : Beacon} (revives : w.revives b = false) {d : Device} {panidRef i : ℕ}
    (found : w.setPanId b.extendedPanId = some (d, panidRef))
    (place : w.exneighborByShort panidRef b.srcAddr = some i) (tried : i ∈ w.tried.map Prod.fst)
    (ne : ExtNeighbor) (at_ : w.extNeighbor[i]? = some ne)
    (unlikely : ne.potentialParent = false) : (w.fill b ne).potentialParent = false := by
  by_contra likely
  have likely : (w.fill b ne).potentialParent = true := by simpa using likely
  have yes : w.revives b = true := by
    simp only [Device.revives, found, Option.bind_some, place, Option.any_some, at_, unlikely,
      likely, Bool.not_false, Bool.and_self, Bool.and_true]
    exact List.contains_iff_mem.mpr tried
  exact absurd (revives.symm.trans yes) (by decide)

theorem beaconNotify (sound : Sound w) {b : Beacon} (careful : Careful w (.beacon b)) :
    Sound (w.beaconNotify b) := by
  cases state : w.state with
  | idle =>
    simp only [Device.beaconNotify, state]
    exact sound
  | rejoin =>
    obtain ⟨-, -, extendedPanId, cap, parent, tmp, -⟩ := sound.rejoins state
    have entry : ∀ d panidRef, w.setPanId b.extendedPanId = some (d, panidRef) →
        Sound (d.beaconEntry b panidRef) := by
      intro d panidRef found
      have kept := fun i place tried ne at_ unlikely =>
        not_revives (careful state) found (i := i) place tried ne at_ unlikely
      obtain ⟨panMap, same⟩ : ∃ panMap, d = { w with panMap := panMap } := by
        unfold Device.setPanId at found
        split at found
        · cases found
          exact ⟨w.panMap, rfl⟩
        · split at found
          · cases found
            exact ⟨_, rfl⟩
          · cases found
      rw [same]
      exact sound.beaconEntry panMap kept
    simp only [Device.beaconNotify, state, tmp]
    split
    · split
      · rename_i d panidRef found
        exact entry d panidRef found
      · exact sound
    · exact sound

theorem discovered (sound : Sound w) (panMap : List UInt64) (extNeighbor : List ExtNeighbor)
    (size : ℕ) : Sound (w.discovered panMap extNeighbor size) := by
  unfold Device.discovered
  split
  · rename_i free
    obtain ⟨idle, none_, inside, small⟩ := free
    exact { sound with
      tidy := { sound.tidy with size := inside, room := small }
      associates := fun open_ => absurd none_ open_
      rejoins := fun rejoin => absurd (idle.symm.trans rejoin) (by decide) }
  · exact sound

theorem left (sound : Sound w) : Sound { w with joined := false } :=
  { sound with
    tidy := { sound.tidy with }
    associates := fun open_ =>
      let ⟨idle, accepted, _, search⟩ := sound.associates open_
      ⟨idle, accepted, rfl, search⟩ }

theorem step (sound : Sound w) {op : Op} (careful : Careful w op) : Sound (step w op) := by
  unfold Join.step
  rw [if_neg (by simp [sound.tidy.whole])]
  cases op with
  | discovered panMap extNeighbor size => exact sound.discovered panMap extNeighbor size
  | left => exact sound.left
  | joinRequest buf request room => exact sound.joinRequest careful
  | associateConfirm buf status shortAddress => exact sound.associateConfirm careful
  | beacon b => exact sound.beaconNotify careful
  | scanConfirm buf env => exact sound.scanConfirm careful
  | call env => exact sound.call careful
  | dataConfirm buf => exact sound.dataConfirm careful
  | rejoinResponse buf r => exact sound.rejoinResponse careful
  | responseTimeout buf => exact sound.responseTimeout careful
  | pollConfirm buf status => exact sound.pollConfirm careful

end Sound

/-- A start has nobody to wait for. -/
theorem Device.Start.sound {w : Device} (start : w.Start) : Sound w := by
  have under := start.under
  simp only [Device.under, List.append_eq_nil_iff] at under
  obtain ⟨⟨⟨⟨⟨-, associating⟩, scanning⟩, -⟩, -⟩, -⟩ := under
  exact {
    tidy :=
      { whole := start.whole
        accepted := by simp [start.confirms]
        once := by simp [start.tried]
        small := by simp [start.tried]
        size := start.size.1
        room := start.size.2
        scanning_le := by simp [scanning]
        scans := fun open_ => absurd scanning open_ }
    owned := by simp [start.under, start.given, start.taken]
    busy := by
      rintro (rejoin | open_)
      · exact absurd (start.state.symm.trans rejoin) (by decide)
      · exact absurd associating open_
    rest := by simp [start.confirms, start.requests]
    associating_le := by simp [associating]
    associates := fun open_ => absurd associating open_
    rejoins := fun rejoin => absurd (start.state.symm.trans rejoin) (by decide) }

/-- Few parents, two roles: the tries end. -/
theorem Tidy.ends {w : Device} (tidy : Tidy w) : w.tried.length ≤ 2 * maxExtNeighbors := by
  have inside : w.tried ⊆ List.range maxExtNeighbors ×ˢ [false, true] := by
    intro e member
    refine List.mem_product.mpr ⟨List.mem_range.mpr (tidy.small e member), ?_⟩
    cases e.2 <;> simp
  have short := (List.subperm_of_subset tidy.once inside).length_le
  rw [List.length_product, List.length_range] at short
  simpa [Nat.mul_comm] using short

/-- The device searches, or all requests are answered. -/
theorem Sound.searching {w : Device} (sound : Sound w) :
    (w.state = .rejoin ∨ w.associating ≠ []) ∧ w.confirms.length + 1 = w.requests ∨
      w.state = .idle ∧ w.associating = [] ∧ w.confirms.length = w.requests := by
  by_cases open_ : w.state = .rejoin ∨ w.associating ≠ []
  · exact Or.inl ⟨open_, sound.busy open_⟩
  · have none_ : w.associating = [] := by
      by_contra some_
      exact open_ (Or.inr some_)
    cases state : w.state with
    | rejoin => exact absurd (Or.inl state) open_
    | idle => exact Or.inr ⟨rfl, none_, sound.rest state none_⟩

theorem Sound.once {w : Device} (sound : Sound w) : w.Once where
  whole := sound.tidy.whole
  atMost := by
    rcases sound.searching with ⟨-, busy⟩ | ⟨-, -, rest⟩
    · exact busy ▸ Nat.le_succ _
    · exact rest.le
  settled := sound.rest
  answered none_ := by
    rcases sound.searching with ⟨rejoin | open_, -⟩ | ⟨-, -, rest⟩
    · exact absurd none_ (sound.rejoins rejoin).2.1
    · simp only [Device.under, List.append_eq_nil_iff] at none_
      exact absurd none_.1.1.1.1.2 open_
    · exact rest
  accepted := sound.tidy.accepted
  idle same := by
    rcases sound.searching with ⟨-, busy⟩ | ⟨idle, -⟩
    · omega
    · exact idle
  once := sound.tidy.once
  ends := sound.tidy.ends
  owned := sound.owned

/-- **Joining completes exactly once** in every run that stays clear of the places where the
procedure goes wrong. -/
theorem Device.join_once (w : Device) (ops : List Op) (start : w.Start)
    (careful : Along Join.step Careful w ops) : (run Join.step w ops).Once :=
  (invariant_of_along (fun _ _ sound careful => sound.step careful) w ops start.sound
    careful).once

/-- An end device that has heard two parents. -/
def endDevice : Device where
  routerRole := false
  rxOnWhenIdle := true
  extendedAddress := 0xaa
  state := .idle
  joined := false
  joinedPro := false
  savedReq := { extendedPanId := 0, rejoinNetwork := .association, capabilityInformation := 0 }
  tmp := .other
  panMap := [7]
  extNeighbor := [
    { shortAddr := 0, longAddr := 0xc0, panidRef := 0, depth := 0, lqi := 255, updateId := 0,
      stackProfile := 1, permitJoining := true, routerCapacity := true, endDeviceCapacity := true,
      potentialParent := true },
    { shortAddr := 1, longAddr := 0xc1, panidRef := 0, depth := 1, lqi := 255, updateId := 0,
      stackProfile := 1, permitJoining := true, routerCapacity := true, endDeviceCapacity := true,
      potentialParent := true }]
  extNeighborSize := 8
  deviceType := .ed
  extPanId := 0
  networkAddress := 0xffff
  updateId := 0
  depth := 0
  calls := []
  associating := []
  scanning := []
  sending := []
  alarms := []
  polling := []
  taken := []
  given := []
  requests := 0
  confirms := []
  accepted := false
  tried := []
  broken := false

theorem endDevice_start : endDevice.Start where
  whole := rfl
  state := rfl
  under := rfl
  size := by decide
  taken := rfl
  given := rfl
  requests := rfl
  confirms := rfl
  tried := rfl

/-- Frames are sent, and the address table knows nothing. -/
def quiet : Surroundings where
  ieeeByShort := fun _ => none
  random := 0x1234
  forwarded := true

/-- The coordinator answers the rejoin. -/
def welcome : RejoinResponse where
  sourceIeee := true
  destinationIeee := true
  dstIeeeAddr := 0xaa
  srcIeeeAddr := 0xc0
  networkAddr := 0x2000
  rejoinStatus := 0

/-- An end device asks for network 7. -/
def request (method : RejoinMethod) : JoinRequest where
  extendedPanId := 7
  rejoinNetwork := method
  capabilityInformation := 0x80

/-- The first parent refuses, the second accepts; then the device leaves and rejoins, and the
response is there before the MAC has confirmed the request. -/
def refusedThenJoined : List Op :=
  [.joinRequest 1 (request .association) 0, .associateConfirm 1 2 0,
    .associateConfirm 1 0 0x1001, .left, .discovered [7] endDevice.extNeighbor 8,
    .joinRequest 2 (request .rejoin) 0, .scanConfirm 2 quiet, .call quiet, .rejoinResponse 3 welcome, .dataConfirm 2]

instance (w : Device) (op : Op) : Decidable (Careful w op) :=
  match op with
  | .discovered _ _ _ => inferInstanceAs (Decidable True)
  | .left => inferInstanceAs (Decidable True)
  | .joinRequest _ request _ =>
    match method : request.rejoinNetwork with
    | .association => decidable_of_iff
        (w.joined ∨ w.state = .idle ∧ w.associating = [] ∧
          w.finds request.extendedPanId request.capabilityInformation) (by simp [Careful, method])
    | .rejoin => decidable_of_iff (w.state = .rejoin ∨ w.associating = [])
        (by simp [Careful, method])
  | .associateConfirm buf status _ =>
    inferInstanceAs (Decidable (buf ∈ w.associating → status ≠ success → w.associateFinds))
  | .beacon b => inferInstanceAs (Decidable (w.state = .rejoin → w.revives b = false))
  | .scanConfirm buf _ => inferInstanceAs (Decidable (buf ∈ w.scanning → w.rejoinFinds))
  | .call env =>
    match calls : w.calls with
    | [] => isTrue (by simp [Careful, calls])
    | .rejoinScanConfirm _ :: _ => decidable_of_iff
        (w.state = .rejoin ∧ w.parentEntry.any (fun ne => !ne.potentialParent) ∧ w.rejoinFinds)
        (by simp [Careful, calls])
    | .forward _ :: rest => decidable_of_iff
        (env.forwarded ∨ w.state = .idle ∨ { w with calls := rest }.under ≠ [])
        (by simp [Careful, calls])
  | .dataConfirm buf =>
    inferInstanceAs (Decidable (buf ∈ w.sending → w.state = .rejoin → w.alarms = []))
  | .rejoinResponse _ r =>
    inferInstanceAs (Decidable (w.state = .rejoin → w.alarms = [] ∧
      w.parentEntry.any fun parent =>
        r.valid w.extendedAddress parent.longAddr = r.accepts w.extendedAddress parent.longAddr))
  | .responseTimeout buf =>
    inferInstanceAs (Decidable (buf ∈ w.alarms → w.rejoinParent.isSome ∧
      (w.state = .rejoin ∨ w.rxOnWhenIdle = false)))
  | .pollConfirm buf status =>
    inferInstanceAs (Decidable (buf ∈ w.polling → w.state = .rejoin →
      w.rejoinParent.isSome ∧ status ≠ success))

theorem Device.join_once_refused : (run Join.step endDevice refusedThenJoined).Once :=
  Device.join_once endDevice refusedThenJoined endDevice_start (by decide)

/-- A response that comes while the timer of the rejoin runs: the cancelled alarm has the buffer
of the request. -/
def welcomeLater : List Op :=
  [.joinRequest 1 (request .rejoin) 0, .scanConfirm 1 quiet, .call quiet, .dataConfirm 1,
    .rejoinResponse 2 welcome]

theorem Device.welcomeLater_leaks :
    ¬∀ (w : Device) (ops : List Op), w.Start → (run Join.step w ops).Once := by
  intro claim
  have owned := (claim endDevice welcomeLater endDevice_start).owned 1
  exact absurd owned (by decide)

end Zboss.Join
