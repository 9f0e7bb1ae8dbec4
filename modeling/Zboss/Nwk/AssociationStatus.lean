import Zboss.Common.AddressUpdate
import Zboss.Nwk.Rejoin

/-!
Association requests at a parent and the MLME-COMM-STATUS indications that end them
(`zb_mlme_associate_indication`, `zb_mlme_comm_status_indication`).  The first takes an entry in
two tables, two locks and a count; the second knows an address alone.  A status that is no success,
or that finds no neighbour, leaves its buffer with nobody, and no failure gives the count or the
locks back.

Ghosts: what each response that MAC still holds was built of, and the device before and after.
-/

namespace Zboss.AssociationStatus

open Zboss.AcceptChild Zboss.AddressTable Zboss.NeighborTable Zboss.Run
open Zboss.Rejoin (JoinIndication)

def macSuccess : UInt8 := 0

def macNoAck : UInt8 := 0xe9

def nwkMaxDepth : UInt8 := 5

/-! ## The source -/

/-- The destination in `zb_mlme_comm_status_indication_t`, by its addressing mode. -/
inductive DstAddr
  | long (ieee : IeeeAddr)
  | short (short : ℕ)

/-- What becomes of the buffer of a status. -/
inductive Fate
  | freed
  /-- Passed to `zb_nlme_join_indication`, for an association without security. -/
  | joinIndication (indication : JoinIndication)

/-- The address lookup; neither creates nor locks. -/
def lookup (c : AddrGlobals) (junk : IeeeAddrCompressed) : DstAddr → AddrGlobals × Except RetError ℕ
  | .long ieee => addressByIeee c ieee false false junk
  | .short short => addressByShort c short false false

/-- `zb_mlme_comm_status_indication`: the device, and where the buffer goes. -/
def commStatusIndication (d : Device) (dst : DstAddr) (status : UInt8)
    (junk : IeeeAddrCompressed) : Device × List Fate :=
  match lookup d.tables.addr junk dst with
  | (addr, .error _) => ({ d with tables := ⟨addr, d.tables.neighbor⟩ }, [])
  | (addr, .ok ref) =>
    match neighborGet ⟨addr, d.tables.neighbor⟩ ref false 0 d.tables.neighbor with
    | (s, none) => ({ d with tables := s }, [])
    | (s, some n) =>
      if status = macSuccess then
        let nent := s.neighbor.baseNeighbor n
        -- zb_nwk_update_beacon_payload
        ({ d with
            tables := s
            associationPermit := d.associationPermit && decide (d.nib.depth < nwkMaxDepth) },
          [.joinIndication ⟨addressIeeeByRef s.addr ref, addressShortByRef s.addr ref,
            decide (nent.deviceType = .router), nent.rxOnWhenIdle⟩])
      else
        ({ d with tables := ⟨addressDelete s.addr ref, neighborDelete s.neighbor ref⟩ }, [])

/-- An association response on its way: `zb_mlme_associate_response_t` with the short address or,
refused, without, and the ghosts. -/
structure Response where
  deviceAddress : IeeeAddr
  shortAddress : Option ℕ
  first : Bool
  before : Device
  after : Device

/-- `zb_mlme_associate_indication`. -/
def associateIndication (d : Device) (request : Request) (overrun : NeighborTbl) : Response :=
  let (after, shortAddress) := acceptChild d request overrun
  let (_, known) := neighborGetByIeee d.tables request.deviceAddress request.junk
  ⟨request.deviceAddress, shortAddress, known.isNone, d, after⟩

/-- The parent with the responses that MAC holds. -/
structure Parent where
  device : Device
  responses : List Response

/-- What happens at the parent.  MAC ends each response it holds with one status, in any order;
statuses come for orphan responses as well; and devices are removed, and more, meanwhile. -/
inductive Event
  | associate (request : Request) (overrun : NeighborTbl)
  | commStatus (i : ℕ) (status : UInt8) (junk : IeeeAddrCompressed)
  | orphanStatus (dst : DstAddr) (status : UInt8) (junk : IeeeAddrCompressed)
  | forgetDevice (ref : ℕ)
  | otherwise (device : Device)

/-- `zb_nwk_forget_device`. -/
def forgetDevice (d : Device) (ref : ℕ) : Device :=
  { d with tables := ⟨addressDelete d.tables.addr ref, neighborDelete d.tables.neighbor ref⟩ }

namespace Parent

/-- A parent without responses on their way. -/
def init (device : Device) : Parent := ⟨device, []⟩

def step (w : Parent) : Event → Parent
  | .associate request overrun =>
    let response := associateIndication w.device request overrun
    ⟨response.after, w.responses ++ [response]⟩
  | .commStatus i status junk =>
    match w.responses[i]? with
    | none => w
    | some response =>
      ⟨(commStatusIndication w.device (.long response.deviceAddress) status junk).1,
        w.responses.eraseIdx i⟩
  | .orphanStatus dst status junk =>
    { w with device := (commStatusIndication w.device dst status junk).1 }
  | .forgetDevice ref => { w with device := AssociationStatus.forgetDevice w.device ref }
  | .otherwise device => { w with device }

end Parent

/-! ## What is expected -/

/-- What the response changed is as before it, and the rest as it is. -/
def Undone {α : Type*} (response : Response) (read : Device → α) (d d' : Device) : Prop :=
  (read response.after ≠ read response.before → read d' = read response.before) ∧
    (read response.after = read response.before → read d' = read d)

/-- All that the association took is given back. -/
structure Restored (response : Response) (d d' : Device) : Prop where
  routers : d'.nib.routerChildNum =
    d.nib.routerChildNum - (response.after.nib.routerChildNum - response.before.nib.routerChildNum)
  eds : d'.nib.edChildNum =
    d.nib.edChildNum - (response.after.nib.edChildNum - response.before.nib.edChildNum)
  index : ∀ ref, Undone response (fun d => d.tables.neighbor.addrToNeighbor ref) d d'
  entries : ∀ n, Undone response (fun d => (d.tables.neighbor.baseNeighbor n).used) d d'
  addresses : ∀ ref, Undone response (fun d => (d.tables.addr.addrMap ref).used) d d'
  locks : ∀ ref, Undone response (fun d => (d.tables.addr.addrMap ref).lockCnt) d d'

/-- What is expected of the status that ends a response: the buffer has one owner; a delivered
association is indicated once, by the name of its device, and a refused one is not; and a first
association that was not delivered leaves no trace. -/
structure Served (response : Response) (status : UInt8) (d d' : Device) (fates : List Fate) :
    Prop where
  disposed : fates.length = 1
  indicated : status = macSuccess → response.shortAddress.isSome →
    ∃ indication, fates = [.joinIndication indication] ∧
      indication.extendedAddress = response.deviceAddress
  refused : response.shortAddress = none → ∀ indication, .joinIndication indication ∉ fates
  restored : status ≠ macSuccess → response.shortAddress.isSome → response.first →
    Restored response d d'

/-- What is expected of an event. -/
def Kept (w : Parent) : Event → Prop
  | .commStatus i status junk => ∀ response ∈ w.responses[i]?,
    let (device, fates) :=
      commStatusIndication w.device (.long response.deviceAddress) status junk
    Served response status w.device device fates
  | .orphanStatus dst status junk => (commStatusIndication w.device dst status junk).2.length = 1
  | _ => True

/-- The address is in the address table, and its entry in the neighbour table. -/
def Neighbour (d : Device) (dst : DstAddr) (junk : IeeeAddrCompressed) : Prop :=
  ∃ ref, (lookup d.tables.addr junk dst).2 = .ok ref ∧ d.tables.neighbor.addrToNeighbor ref ≠ 0xff

/-- The address can be compressed: its manufacturer is known or finds a slot.  Otherwise what is
looked up is left to chance. -/
def Compresses (d : Device) (ieee : IeeeAddr) (junk : IeeeAddrCompressed) : Prop :=
  manufacturerSlot d.tables.addr ieee.devManufacturer ≠ none ∨
    addressDecompress d.tables.addr junk = ieee

/-- When it is done. -/
def Cond (w : Parent) : Event → Prop
  | .commStatus i status junk => ∀ response ∈ w.responses[i]?,
    status = macSuccess ∧ response.shortAddress.isSome ∧
      Neighbour w.device (.long response.deviceAddress) junk ∧
      Compresses w.device response.deviceAddress junk
  | .orphanStatus dst status junk => status = macSuccess ∧ Neighbour w.device dst junk
  | _ => True

/-! ## One status -/

section
variable (d : Device) (dst : DstAddr) (status : UInt8) (junk : IeeeAddrCompressed)

/-- A success of a neighbour is indicated; any other buffer stays where it is. -/
theorem commStatusIndication_cases :
    (∃ ref indication, (lookup d.tables.addr junk dst).2 = .ok ref ∧ Neighbour d dst junk ∧
        status = macSuccess ∧
        (commStatusIndication d dst status junk).2 = [.joinIndication indication] ∧
        indication.extendedAddress = addressIeeeByRef (lookup d.tables.addr junk dst).1 ref) ∨
      ¬(status = macSuccess ∧ Neighbour d dst junk) ∧
        (commStatusIndication d dst status junk).2 = [] := by
  rw [commStatusIndication]
  cases found : lookup d.tables.addr junk dst with | mk addr answer
  cases answer with
  | error e =>
    refine .inr ⟨fun ⟨_, ref, same, _⟩ => ?_, rfl⟩
    rw [found] at same
    cases same
  | ok ref =>
    dsimp only
    rw [neighborGet]
    dsimp only
    by_cases present : d.tables.neighbor.addrToNeighbor ref ≠ 0xff
    · rw [if_pos present]
      dsimp only
      by_cases success : status = macSuccess
      · rw [if_pos success]
        have neighbour : Neighbour d dst junk := ⟨ref, by rw [found], present⟩
        exact .inl ⟨ref, _, rfl, neighbour, success, rfl, rfl⟩
      · rw [if_neg success]
        exact .inr ⟨fun both => success both.1, rfl⟩
    · rw [if_neg present, if_neg Bool.false_ne_true]
      refine .inr ⟨fun ⟨_, other, same, there⟩ => ?_, rfl⟩
      rw [found] at same
      cases same
      exact present there

/-- The buffer has an owner just when a success meets a neighbour. -/
theorem disposed_iff : (commStatusIndication d dst status junk).2.length = 1 ↔
    status = macSuccess ∧ Neighbour d dst junk := by
  rcases commStatusIndication_cases d dst status junk with
    ⟨ref, indication, -, neighbour, success, fates, -⟩ | ⟨neither, fates⟩
  · rw [fates]
    exact iff_of_true rfl ⟨success, neighbour⟩
  · rw [fates]
    exact iff_of_false Nat.zero_ne_one neither

end

/-- What is read of a compressed address is the address just when there was a slot, or chance had
it. -/
theorem decompress_iff (c : AddrGlobals) (ieee : IeeeAddr) (junk : IeeeAddrCompressed) :
    addressDecompress (ieeeAddrCompress c ieee junk).1 (ieeeAddrCompress c ieee junk).2 = ieee ↔
      manufacturerSlot c ieee.devManufacturer ≠ none ∨ addressDecompress c junk = ieee := by
  rw [ieeeAddrCompress]
  cases slot : manufacturerSlot c ieee.devManufacturer with
  | none =>
    refine (or_iff_right ?_).symm
    exact fun some_ => some_ rfl
  | some i =>
    refine iff_of_true ?_ (.inl (Option.some_ne_none i))
    rw [addressDecompress]
    dsimp only
    rw [Function.update_self]

/-- An entry found by its address is named by it just when the address can be compressed. -/
theorem named_iff {d : Device} {ieee : IeeeAddr} {junk : IeeeAddrCompressed} {ref : ℕ}
    (found : (addressByIeee d.tables.addr ieee false false junk).2 = .ok ref) :
    addressIeeeByRef (addressByIeee d.tables.addr ieee false false junk).1 ref = ieee ↔
      Compresses d ieee junk := by
  rw [Compresses, ← decompress_iff]
  rw [addressByIeee] at found ⊢
  dsimp only at found ⊢
  cases search : ieeeSearch (ieeeAddrCompress d.tables.addr ieee junk).1
      (ieeeAddrCompress d.tables.addr ieee junk).2 with
  | none =>
    rw [search] at found
    cases found
  | some other =>
    rw [search] at found
    cases found
    obtain ⟨-, -, stored⟩ := ieeeSearch_spec search
    rw [lockResult_false]
    dsimp only [touch]
    rw [addressIeeeByRef, AddrGlobals.setEntry_addrMap, Function.update_self,
      AddressMap.setClock_ieeeAddr, stored]
    rfl

/-- A response ends as expected just when it was an acceptance, was delivered, and its device is
still a neighbour under its name. -/
theorem served_iff (response : Response) (status : UInt8) (d : Device) (junk : IeeeAddrCompressed) :
    Served response status d (commStatusIndication d (.long response.deviceAddress) status junk).1
        (commStatusIndication d (.long response.deviceAddress) status junk).2 ↔
      status = macSuccess ∧ response.shortAddress.isSome ∧
        Neighbour d (.long response.deviceAddress) junk ∧
        Compresses d response.deviceAddress junk := by
  rcases commStatusIndication_cases d (.long response.deviceAddress) status junk with
    ⟨ref, indication, found, neighbour, success, fates, name⟩ | ⟨neither, fates⟩
  · have named := named_iff (d := d) found
    rw [fates]
    constructor
    · intro served
      have accepted : response.shortAddress.isSome := by
        cases short : response.shortAddress with
        | some _ => rfl
        | none => exact absurd (List.mem_singleton_self _) (served.refused short indication)
      obtain ⟨own, same, device⟩ := served.indicated success accepted
      cases same
      exact ⟨success, accepted, neighbour, named.mp (name.symm.trans device)⟩
    · rintro ⟨-, accepted, -, compresses⟩
      exact {
        disposed := rfl
        indicated := fun _ _ => ⟨indication, rfl, name.trans (named.mpr compresses)⟩
        refused := fun short => by
          rw [short] at accepted
          cases accepted
        restored := fun failure => absurd success failure }
  · rw [fates]
    refine iff_of_false (fun served => ?_) fun reached => neither ⟨reached.1, reached.2.2.1⟩
    exact absurd served.disposed Nat.zero_ne_one

/-- An event goes as expected just when the condition holds of it. -/
theorem kept_iff (w : Parent) (event : Event) : Kept w event ↔ Cond w event := by
  cases event with
  | commStatus i status junk =>
    exact forall₂_congr fun response _ => served_iff response status w.device junk
  | orphanStatus dst status junk => exact disposed_iff w.device dst status junk
  | _ => exact Iff.rfl

/-- Over any run of associations, statuses and whatever else happens, each event goes as expected
just when each status is a success for a neighbour that can be named, and no refusal's. -/
theorem run_kept_iff (device : Device) (events : List Event) :
    Along Parent.step Kept (.init device) events ↔ Along Parent.step Cond (.init device) events := by
  have same : Kept = Cond := by
    funext w event
    exact propext (kept_iff w event)
  rw [same]

/-! ## Failures -/

/-- A coordinator without children. -/
def coordinator : Device := { fullTable with tables := ⟨.zero, .init⟩ }

/-- The end device that joins is accepted, and does not acknowledge the response. -/
theorem unacknowledged_kept_forever :
    ¬∀ device events, Along Parent.step Kept (.init device) events := by
  intro claim
  obtain ⟨-, kept, -⟩ := claim coordinator
    [.associate joiningEd .init, .commStatus 0 macNoAck .zero]
  exact absurd (kept _ rfl).disposed (by decide +kernel)

end Zboss.AssociationStatus
