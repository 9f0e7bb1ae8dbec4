import Zboss.Common.AddressKept
import Zboss.Common.PanIds
import Zboss.Nwk.FrameHeaders
import Zboss.Nwk.Promotion
import Zboss.Nwk.TreeAddress

/-!
What a successful join writes about the parent: the association of `zb_mlme_associate_confirm` and
the rejoin of `zb_nlme_rejoin_response`.  The parent is an entry of the extended table, which the
join moves to the base table before it looks the parent up there.  The association marks it beside
whatever other parent the table still holds, and reads the channel from where the entry was; the
rejoin stores no update id and reports no channel.
-/

namespace Zboss.ParentRecord

open Zboss.AddressTable Zboss.FrameHeaders Zboss.PanIds Zboss.TreeAddress
open Zboss.NeighborTable hiding Op

/-! ## The model -/

/-- The fields of an extended entry that only a join reads. -/
structure Advert where
  updateId : ℕ
  logicalChannel : ℕ

/-- `zb_nlme_join_request_t`, as far as it is saved for the association. -/
structure JoinRequest where
  extendedPanId : ExtPanId
  router : Bool

/-- What the join reads and writes.  `tmpParent` is the extended entry of `tmp.join.parent` or
`tmp.rejoin.parent`. -/
structure Device where
  tables : Tables
  advert : ℕ → Advert
  panIds : PanTable
  extendedAddress : IeeeAddr
  nib : TreeParams
  networkAddress : ℕ
  extPanId : ExtPanId
  updateId : ℕ
  depth : ℕ
  cskip : ℕ
  deviceType : DeviceType
  joined : Bool
  rejoining : Bool
  savedReq : JoinRequest
  rejoinPanId : ExtPanId
  tmpParent : ℕ
  parent : ℕ

/-- The octets that the code reads without having written them: variables on the stack, what base
entries leave where the parent's extended entry was, what extended entries leave behind the base
entries in use, and the end of the buffer of a response. -/
structure Junk where
  own : IeeeAddrCompressed
  parent : IeeeAddrCompressed
  lookup : IeeeAddrCompressed
  turns : ℕ → IeeeAddrCompressed
  panidRef : ℕ
  overlaid : ℕ
  left : ℕ → NeighborTblEnt
  buffer : ℕ

/-- `zb_mlme_associate_confirm_t` with a success. -/
structure AssociateConfirm where
  assocShortAddress : ℕ
  parentAddress : IeeeAddr

/-- A received rejoin response: the flags of the header, the addresses where a header with both
has them, and the payload. -/
structure RejoinResponse where
  sourceIeee : Bool
  destinationIeee : Bool
  dstIeeeAddr : IeeeAddr
  srcIeeeAddr : IeeeAddr
  networkAddr : UInt16
  rejoinStatus : UInt8

/-- `zb_nlme_join_confirm_t`. -/
structure JoinConfirm where
  status : UInt8
  networkAddress : ℕ
  extendedPanId : ExtPanId
  activeChannel : ℕ

def macSuccess : UInt8 := 0

namespace RejoinResponse

/-- The source address: without a destination address it takes its place. -/
def source (r : RejoinResponse) : IeeeAddr :=
  if r.destinationIeee then r.srcIeeeAddr else r.dstIeeeAddr

/-- "Check if parent answer is correct". -/
def Valid (r : RejoinResponse) (extendedAddress parentAddr : IeeeAddr) : Prop :=
  r.rejoinStatus = macSuccess ∧ nwkIsAddressBroadcast r.networkAddr = false ∧
    r.sourceIeee = true ∧ (r.destinationIeee = false ∨ r.dstIeeeAddr = extendedAddress) ∧
    (parentAddr = .zero ∨ r.srcIeeeAddr = parentAddr)

instance (r : RejoinResponse) (extendedAddress parentAddr : IeeeAddr) :
    Decidable (r.Valid extendedAddress parentAddr) :=
  inferInstanceAs (Decidable (_ ∧ _ ∧ _ ∧ _ ∧ _))

end RejoinResponse

/-- The octet with the channel of extended entry `i`, after base entries may have taken it. -/
def staleChannel (before after : NeighborTbl) (i logicalChannel overlaid : ℕ) : ℕ :=
  if before.extOffset + i * linuxSizes.ext + 10 <
    after.baseNeighborUsed * linuxSizes.base then overlaid
  else logicalChannel

/-- Find the base entry of the parent and mark it; who does is remembered as the parent. -/
def enterParent (s : Tables) (handle ref nibDepth : ℕ) : Tables × ℕ :=
  match (neighborGet s ref false nibDepth s.neighbor).2 with
  | some n => (⟨s.addr, s.neighbor.setBase n
      { s.neighbor.baseNeighbor n with relationship := .parent }⟩, ref)
  | none => (s, handle)

/-- The address reference of the parent after the extended table has been stopped; none where the
assertion fails. -/
def findParent (c : AddrGlobals) (shortAddr : ℕ) (longAddr parentAddress : IeeeAddr)
    (junk : Junk) : AddrGlobals × Option ℕ :=
  let (c, reply) :=
    if shortAddr = noShortAddr then addressByIeee c longAddr false false junk.lookup
    else addressByShort c shortAddr false false
  match reply with
  | .error _ => (c, none)
  | .ok ref =>
    if longAddr ≠ .zero ∧ shortAddr ≠ noShortAddr then
      match addressUpdate c parentAddress shortAddr false junk.parent with
      | (c, .ok ref) => (c, some ref)
      | (c, .error _) => (c, some ref)
    else (c, some ref)

namespace Device

variable (w : Device)

/-- The extended entry of the parent. -/
def parentEnt : ExtNeighborTblEnt := w.tables.neighbor.extNeighbor w.tmpParent

def myPanidRef (extPanId : ExtPanId) (junk : Junk) : ℕ :=
  match w.panIds.getPanIdRef extPanId with
  | some ref => ref
  | none => junk.panidRef

/-- The address table after the device has entered its own addresses; nobody looks at the
result. -/
def ownUpdated (assigned : ℕ) (junk : Junk) : AddrGlobals :=
  (addressUpdate w.tables.addr w.extendedAddress assigned true junk.own).1

/-- The device and the confirm after an association, when the parent has been looked up. -/
def associated (request : AssociateConfirm) (junk : Junk) (depth : ℕ) (entered : Tables × ℕ) :
    Device × JoinConfirm :=
  ({ w with
    tables := entered.1
    deviceType := if w.savedReq.router then .router else .ed
    joined := true
    extPanId := w.savedReq.extendedPanId
    networkAddress := request.assocShortAddress
    updateId := (w.advert w.tmpParent).updateId
    depth := depth
    cskip := daaCalcCskip w.nib depth
    parent := entered.2 }, {
    status := macSuccess
    networkAddress := request.assocShortAddress
    extendedPanId := w.savedReq.extendedPanId
    activeChannel := staleChannel w.tables.neighbor entered.1.neighbor w.tmpParent
      (w.advert w.tmpParent).logicalChannel junk.overlaid })

/-- `zb_mlme_associate_confirm` with a success; none where the assertion fails. -/
def associateConfirm (request : AssociateConfirm) (junk : Junk) : Option (Device × JoinConfirm) :=
  let parent := w.parentEnt
  let addr := w.ownUpdated request.assocShortAddress junk
  let longAddr := if parent.shortAddr = noShortAddr then addressDecompress addr parent.longAddr
    else request.parentAddress
  let depth := if parent.depth ≠ 0xf then parent.depth + 1 else parent.depth
  let s := linuxSizes.exneighborStop ⟨addr, w.tables.neighbor⟩ true
    (w.myPanidRef w.savedReq.extendedPanId junk) junk.turns junk.left
  match findParent s.addr parent.shortAddr longAddr request.parentAddress junk with
  | (_, none) => none
  | (addr, some ref) =>
    some (w.associated request junk depth (enterParent ⟨addr, s.neighbor⟩ w.parent ref depth))

/-- The device and the confirm after a rejoin. -/
def rejoined (r : RejoinResponse) (junk : Junk) (depth : ℕ) (entered : Tables × ℕ) :
    Device × JoinConfirm :=
  ({ w with
    tables := entered.1
    joined := true
    rejoining := false
    extPanId := w.rejoinPanId
    networkAddress := r.networkAddr.toNat
    depth := depth
    cskip := daaCalcCskip w.nib depth
    parent := entered.2 }, {
    status := macSuccess
    networkAddress := r.networkAddr.toNat
    extendedPanId := w.rejoinPanId
    activeChannel := junk.buffer })

/-- `zb_nlme_rejoin_response` with a success; none where the response is ignored. -/
def rejoinResponse (r : RejoinResponse) (junk : Junk) : Option (Device × JoinConfirm) :=
  let parent := w.parentEnt
  if w.rejoining = true ∧
      r.Valid w.extendedAddress (addressDecompress w.tables.addr parent.longAddr) then
    let (addr, handle) := match addressUpdate (w.ownUpdated r.networkAddr.toNat junk) r.source
        parent.shortAddr true junk.parent with
      | (addr, .ok ref) => (addr, ref)
      | (addr, .error _) => (addr, w.parent)
    let depth := parent.depth + if w.depth ≠ 0xf then 1 else 0
    let s := linuxSizes.exneighborStop ⟨addr, w.tables.neighbor⟩ true
      (w.myPanidRef w.rejoinPanId junk) junk.turns junk.left
    some (w.rejoined r junk depth (enterParent s handle handle depth))
  else none

end Device

/-! ## A consistent parent record -/

/-- Base entry `n` is a parent. -/
def ParentAt (t : NeighborTbl) (n : ℕ) : Prop :=
  n < neighborTableSize ∧ (t.baseNeighbor n).used = true ∧
    (t.baseNeighbor n).relationship = .parent

instance (t : NeighborTbl) (n : ℕ) : Decidable (ParentAt t n) :=
  inferInstanceAs (Decidable (_ ∧ _ ∧ _))

/-- There is one parent, and it is the entry of the reference. -/
def OnlyParent (t : NeighborTbl) (ref : ℕ) : Prop :=
  ∃ n, ParentAt t n ∧ (t.baseNeighbor n).addrRef = ref ∧ ∀ m, ParentAt t m → m = n

/-- The reference stands for the device with the addresses, as far as they are known. -/
def Denotes (c : AddrGlobals) (ref short : ℕ) (ieee : IeeeAddr) : Prop :=
  ∃ pair, pairAt c ref = some pair ∧ (short ≠ noShortAddr → pair.1 = short) ∧
    (ieee ≠ .zero → pair.2 ≠ .zero ∧ addressDecompress c pair.2 = ieee)

/-- The record after a join through the parent `ent`, which answered from `ieee` and assigned the
short address. -/
structure Recorded (w : Device) (confirm : JoinConfirm) (ent : ExtNeighborTblEnt)
    (advert : Advert) (ieee : IeeeAddr) (assigned : ℕ) : Prop where
  marked : OnlyParent w.tables.neighbor w.parent
  denotes : Denotes w.tables.addr w.parent ent.shortAddr ieee
  depth : w.depth = min 15 (ent.depth + 1)
  cskip : w.cskip = daaCalcCskip w.nib w.depth
  address : ∀ junk, (addressShortByIeee w.tables.addr w.extendedAddress junk).2 = assigned
  updateId : w.updateId = advert.updateId
  channel : confirm.activeChannel = advert.logicalChannel

/-! ## Which parents are left -/

/-- The reference has a base entry, or gets one from an extended entry that finds room. -/
def Enters (t : NeighborTbl) (replies : List (Option ℕ)) (ref : ℕ) : Prop :=
  t.addrToNeighbor ref ≠ 0xff ∨ ∃ i, replies[i]? = some (some ref) ∧
    (i ≠ 0 ∨ t.baseNeighborUsed < t.baseNeighborSize)

/-- What stands at place `n` if the end of the discovery writes no entry there. -/
def stays (t : NeighborTbl) (left : ℕ → NeighborTblEnt) (n : ℕ) : NeighborTblEnt :=
  if n < t.baseNeighborUsed then t.baseNeighbor n else remains t left n

/-- A parent that the end of the discovery leaves: an entry that was in use, or what stands behind
all entries that are in use then. -/
def StaysParent (t : NeighborTbl) (left : ℕ → NeighborTblEnt) (replies : List (Option ℕ)) (n : ℕ) :
    Prop :=
  n < neighborTableSize ∧
    (n < t.baseNeighborUsed ∨ t.baseNeighborUsed + (newRefs t 0 replies).card ≤ n) ∧
    (stays t left n).used = true ∧ (stays t left n).relationship = .parent

/-- Either the reference enters the base table, where no other entry stays a parent; or it does not,
and is that of the only parent that stays. -/
def Marked (t : NeighborTbl) (left : ℕ → NeighborTblEnt) (replies : List (Option ℕ))
    (handle ref : ℕ) : Prop :=
  (Enters t replies ref ∧ ∀ n, StaysParent t left replies n → n = t.addrToNeighbor ref) ∨
    (¬Enters t replies ref ∧ handle = ref ∧ ∃ n, StaysParent t left replies n ∧
      (stays t left n).addrRef = ref ∧ ∀ m, StaysParent t left replies m → m = n)

section

variable {t₀ t : NeighborTbl} {left : ℕ → NeighborTblEnt} {replies : List (Option ℕ)}

theorem enters_iff {ref : ℕ} : Enters t₀ replies ref ↔
    t₀.addrToNeighbor ref ≠ 0xff ∨ ref ∈ newRefs t₀ 0 replies := by
  rw [Enters, mem_newRefs]
  by_cases present : t₀.addrToNeighbor ref = 0xff
  · simp only [present, ne_eq, not_true_eq_false, false_or, true_and, Nat.zero_add]
  · exact iff_of_true (Or.inl present) (Or.inl present)

/-- Who enters is found afterwards. -/
theorem found_iff (entered : Entered t₀ t (newRefs t₀ 0 replies)) (bounds : InBounds t) {ref : ℕ} :
    t.addrToNeighbor ref ≠ 0xff ↔ Enters t₀ replies ref := by
  rw [enters_iff]
  by_cases new : ref ∈ newRefs t₀ 0 replies
  · refine iff_of_true (fun absent => ?_) (Or.inr new)
    exact entered.unknown bounds absent new
  · rw [entered.kept ref new, or_iff_left new]

/-- No entry has become a parent. -/
theorem parentAt_iff (stopped : Stopped t₀ left t (newRefs t₀ 0 replies)) {n : ℕ} :
    ParentAt t n ↔ StaysParent t₀ left replies n := by
  have entered := stopped.entered
  refine and_congr_right fun _ => ?_
  rw [stays, ← entered.used]
  by_cases old : n < t₀.baseNeighborUsed
  · obtain ⟨used, relationship, -⟩ := entered.old n old
    rw [if_pos old, used, relationship, and_iff_right (Or.inl old)]
  · rw [if_neg old, or_iff_right old]
    by_cases new : n < t.baseNeighborUsed
    · refine iff_of_false (fun parent => ?_) fun behind => Nat.not_lt.mpr behind.1 new
      exact entered.behind n (Nat.le_of_not_lt old) new parent.2
    · rw [stopped.rest n (Nat.le_of_not_lt new), and_iff_right (Nat.le_of_not_lt new)]

/-- A parent that stays keeps its reference. -/
theorem addrRef_stays (stopped : Stopped t₀ left t (newRefs t₀ 0 replies)) {n : ℕ}
    (parent : StaysParent t₀ left replies n) :
    (t.baseNeighbor n).addrRef = (stays t₀ left n).addrRef := by
  rw [stays]
  rcases parent.2.1 with old | behind
  · rw [if_pos old]
    exact (stopped.entered.old n old).2.2
  · rw [← stopped.entered.used] at behind
    have later : ¬n < t₀.baseNeighborUsed := by
      have used := stopped.entered.used
      omega
    rw [if_neg later, stopped.rest n behind]

theorem onlyParent_iff (stopped : Stopped t₀ left t (newRefs t₀ 0 replies)) {ref : ℕ} :
    OnlyParent t ref ↔ ∃ n, StaysParent t₀ left replies n ∧ (stays t₀ left n).addrRef = ref ∧
      ∀ m, StaysParent t₀ left replies m → m = n := by
  refine exists_congr fun n => ?_
  simp only [parentAt_iff stopped]
  refine and_congr_right fun parent => ?_
  rw [addrRef_stays stopped parent]

theorem onlyParent_mark {n ref : ℕ} (inside : n < neighborTableSize)
    (used : (t.baseNeighbor n).used = true) (own : (t.baseNeighbor n).addrRef = ref) :
    OnlyParent (t.setBase n { t.baseNeighbor n with relationship := .parent }) ref ↔
      ∀ m, ParentAt t m → m = n := by
  have here : ParentAt (t.setBase n { t.baseNeighbor n with relationship := .parent }) n := by
    rw [ParentAt, NeighborTbl.setBase_baseNeighbor, Function.update_self]
    exact ⟨inside, used, rfl⟩
  have other : ∀ m, m ≠ n →
      (ParentAt (t.setBase n { t.baseNeighbor n with relationship := .parent }) m ↔
        ParentAt t m) := by
    intro m apart
    rw [ParentAt, ParentAt, NeighborTbl.setBase_baseNeighbor, Function.update_of_ne apart]
  constructor
  · rintro ⟨k, -, -, alone⟩ m parent
    by_contra apart
    exact apart ((alone m ((other m apart).mpr parent)).trans (alone n here).symm)
  · intro alone
    refine ⟨n, here, ?_, fun m parent => ?_⟩
    · rw [NeighborTbl.setBase_baseNeighbor, Function.update_self]
      exact own
    · by_contra apart
      exact apart (alone m ((other m apart).mp parent))

/-- What is left of the parents by the search for the new one. -/
theorem enterParent_marked {s : Tables} (stopped : Stopped t₀ left s.neighbor (newRefs t₀ 0 replies))
    (handle ref nibDepth : ℕ) :
    OnlyParent (enterParent s handle ref nibDepth).1.neighbor
        (enterParent s handle ref nibDepth).2 ∧ (enterParent s handle ref nibDepth).2 = ref ↔
      Marked t₀ left replies handle ref := by
  have entered := stopped.entered
  have bounds := stopped.bounds
  by_cases found : s.neighbor.addrToNeighbor ref = 0xff
  · have absent : ¬Enters t₀ replies ref := fun enters =>
      (found_iff entered bounds).mpr enters found
    have result : enterParent s handle ref nibDepth = (s, handle) := by
      simp only [enterParent, neighborGet, found, ne_eq, not_true_eq_false, if_false,
        Bool.false_eq_true]
    rw [result, Marked, or_iff_right fun enters => absent enters.1, and_iff_right absent,
      onlyParent_iff stopped]
    constructor
    · rintro ⟨only, rfl⟩
      exact ⟨rfl, only⟩
    · rintro ⟨rfl, only⟩
      exact ⟨only, rfl⟩
  · have enters : Enters t₀ replies ref := (found_iff entered bounds).mp found
    have result : enterParent s handle ref nibDepth =
        (⟨s.addr, s.neighbor.setBase (s.neighbor.addrToNeighbor ref)
          { s.neighbor.baseNeighbor (s.neighbor.addrToNeighbor ref) with
            relationship := .parent }⟩, ref) := by
      simp only [enterParent, neighborGet, found, ne_eq, not_false_eq_true, if_true]
    obtain ⟨used, own⟩ := entered.leads ref found
    have inside : s.neighbor.addrToNeighbor ref < neighborTableSize :=
      Nat.lt_of_lt_of_le (bounds.index ref found) (Nat.le_trans bounds.room bounds.size)
    rw [result, and_iff_left rfl, Marked, or_iff_left fun absent => absent.1 enters,
      and_iff_right enters, onlyParent_mark inside used own]
    refine forall_congr' fun n => ?_
    rw [parentAt_iff stopped]
    refine forall_congr' fun parent => ?_
    by_cases new : ref ∈ newRefs t₀ 0 replies
    · -- a new entry is behind every old one, and the reference had none
      obtain ⟨behind, before⟩ := entered.fresh ref new
      obtain ⟨small, place, -⟩ := parent
      rw [← entered.used] at place
      rw [neighborTableSize] at small
      refine iff_of_false (by omega) ?_
      rw [entered.new ref new]
      omega
    · rw [entered.kept ref new]

end

/-! ## The address table -/

/-- The call `zb_nwk_exneighbor_stop` makes for an extended entry. -/
def extCall (c : AddrGlobals) (ext : ExtNeighborTblEnt) (junk : IeeeAddrCompressed) : Op :=
  if ext.shortAddr ≠ noShortAddr then
    if ext.longAddr ≠ .zero then
      .update (addressDecompress c ext.longAddr) ext.shortAddr false junk
    else .byShort ext.shortAddr true false
  else .byIeee (addressDecompress c ext.longAddr) true false junk

theorem extAddress_eq (c : AddrGlobals) (ext : ExtNeighborTblEnt) (junk : IeeeAddrCompressed) :
    extAddress c ext junk =
      if ext.shortAddr ≠ noShortAddr then
        if ext.longAddr ≠ .zero then
          addressUpdate c (addressDecompress c ext.longAddr) ext.shortAddr false junk
        else addressByShort c ext.shortAddr true false
      else addressByIeee c (addressDecompress c ext.longAddr) true false junk := rfl

theorem extAddress_step (c : AddrGlobals) (ext : ExtNeighborTblEnt) (junk : IeeeAddrCompressed) :
    (extAddress c ext junk).1 = AddressTable.step c (extCall c ext junk) := by
  rw [extAddress_eq, extCall]
  by_cases short : ext.shortAddr ≠ noShortAddr
  · rw [if_pos short, if_pos short]
    by_cases long : ext.longAddr ≠ .zero
    · rw [if_pos long, if_pos long]
      rfl
    · rw [if_neg long, if_neg long]
      rfl
  · rw [if_neg short, if_neg short]
    rfl

/-- The calls of the turns of `zb_nwk_exneighbor_stop` are fit for the table and leave the entries
`refs` alone, and one of the turns gives the parent an address reference, whose entry is left alone
from then on. -/
def TurnsServed (t : NeighborTbl) (myPanidRef : ℕ) (junk : ℕ → IeeeAddrCompressed)
    (parent : Option ℕ) : ℕ → ℕ → List ℕ → AddrGlobals → Prop
  | 0, _, _, _ => True
  | rounds + 1, i, refs, c =>
    ((t.extNeighbor i).panidRef = myPanidRef →
      Ready c (.table (extCall c (t.extNeighbor i) (junk i))) ∧
        ∀ ref ∈ refs, Undisturbed c ref (extCall c (t.extNeighbor i) (junk i))) ∧
    (parent = some i → (turn t myPanidRef i (junk i) c).2 ≠ none) ∧
    TurnsServed t myPanidRef junk parent rounds (i + 1)
      (if parent = some i then (turn t myPanidRef i (junk i) c).2.toList ++ refs else refs)
      (turn t myPanidRef i (junk i) c).1

instance (t : NeighborTbl) (myPanidRef : ℕ) (junk : ℕ → IeeeAddrCompressed) (parent : Option ℕ) :
    ∀ rounds i refs c, Decidable (TurnsServed t myPanidRef junk parent rounds i refs c)
  | 0, _, _, _ => isTrue trivial
  | rounds + 1, i, refs, c =>
    have := instDecidableTurnsServed t myPanidRef junk parent rounds (i + 1)
      (if parent = some i then (turn t myPanidRef i (junk i) c).2.toList ++ refs else refs)
      (turn t myPanidRef i (junk i) c).1
    inferInstanceAs (Decidable (_ ∧ _ ∧ _))

/-- What the table is after calls that leave the entries `refs` alone. -/
structure Served (c d : AddrGlobals) (refs : List ℕ) : Prop where
  sound : Sound d
  slots : SlotsKept c d
  keeps : ∀ ref ∈ refs, Keeps c d ref

theorem Served.trans {c d e : AddrGlobals} {refs : List ℕ} (first : Served c d refs)
    (second : Served d e refs) : Served c e refs where
  sound := second.sound
  slots := first.slots.trans second.slots
  keeps ref member := (first.keeps ref member).trans (second.keeps ref member)

theorem Served.mono {c d : AddrGlobals} {refs some_ : List ℕ} (served : Served c d refs)
    (sub : some_ ⊆ refs) : Served c d some_ :=
  ⟨served.sound, served.slots, fun ref member => served.keeps ref (sub member)⟩

/-- One call. -/
theorem served_step {c : AddrGlobals} (sound : Sound c) {op : Op} (ready : Ready c (.table op))
    (refs : List ℕ) (calm : ∀ ref ∈ refs, Undisturbed c ref op) :
    Served c (AddressTable.step c op) refs :=
  ⟨sound.step (.table op) ready, slotsKept_step c op, fun ref member =>
    sound.undisturbed ready (calm ref member)⟩

section

variable {t : NeighborTbl} {myPanidRef : ℕ} {junk : ℕ → IeeeAddrCompressed} {c : AddrGlobals}

theorem served_turn (sound : Sound c) {i : ℕ} {refs : List ℕ}
    (met : (t.extNeighbor i).panidRef = myPanidRef →
      Ready c (.table (extCall c (t.extNeighbor i) (junk i))) ∧
        ∀ ref ∈ refs, Undisturbed c ref (extCall c (t.extNeighbor i) (junk i))) :
    Served c (turn t myPanidRef i (junk i) c).1 refs := by
  rw [turn]
  by_cases mine : (t.extNeighbor i).panidRef = myPanidRef
  · rw [if_pos mine]
    dsimp only
    rw [extAddress_step]
    exact served_step sound (met mine).1 refs (met mine).2
  · rw [if_neg mine]
    exact ⟨sound, .refl c, fun _ _ _ held => held⟩

theorem served_turns {parent : Option ℕ} {rounds i : ℕ} {refs : List ℕ} (sound : Sound c)
    (served : TurnsServed t myPanidRef junk parent rounds i refs c) :
    Served c (turns t myPanidRef junk rounds i c).1 refs := by
  induction rounds generalizing i refs c with
  | zero => exact ⟨sound, .refl c, fun _ _ _ held => held⟩
  | succ rounds induction_ =>
    obtain ⟨met, -, later⟩ := served
    have first := served_turn sound met
    refine first.trans ((induction_ first.sound later).mono ?_)
    split
    · exact List.subset_append_right _ _
    · exact List.Subset.refl _

/-- What the reply to a turn stands for. -/
def Answers (c : AddrGlobals) (ref : ℕ) (ext : ExtNeighborTblEnt) (ieee : IeeeAddr) : Prop :=
  (ext.shortAddr ≠ noShortAddr → ∃ z, pairAt c ref = some (ext.shortAddr, z)) ∧
    (ext.shortAddr = noShortAddr → ∃ short, Stands c ref short ieee)

theorem Answers.kept {d : AddrGlobals} {ref : ℕ} {ext : ExtNeighborTblEnt} {ieee : IeeeAddr}
    (sound : Sound c) (answers : Answers c ref ext ieee) (kept : Keeps c d ref)
    (slots : SlotsKept c d) : Answers d ref ext ieee := by
  refine ⟨fun valid => ?_, fun none_ => ?_⟩
  · obtain ⟨z, held⟩ := answers.1 valid
    exact ⟨z, kept _ held⟩
  · obtain ⟨short, stands⟩ := answers.2 none_
    exact ⟨short, sound.stands_kept stands kept slots⟩

theorem toOption_eq_some {reply : Except RetError ℕ} {ref : ℕ} :
    reply.toOption = some ref ↔ reply = .ok ref := by
  cases reply <;> simp [Except.toOption]

theorem turn_answers (sound : Sound c) {i ref : ℕ}
    (met : (t.extNeighbor i).panidRef = myPanidRef →
      Ready c (.table (extCall c (t.extNeighbor i) (junk i))))
    (reply : (turn t myPanidRef i (junk i) c).2 = some ref) :
    Answers (turn t myPanidRef i (junk i) c).1 ref (t.extNeighbor i)
      (addressDecompress c (t.extNeighbor i).longAddr) := by
  rw [turn] at reply ⊢
  by_cases mine : (t.extNeighbor i).panidRef = myPanidRef
  · rw [if_pos mine] at reply ⊢
    have ready := met mine
    rw [extCall] at ready
    dsimp only at reply ⊢
    rw [extAddress_eq] at reply ⊢
    by_cases short : (t.extNeighbor i).shortAddr ≠ noShortAddr
    · refine ⟨fun _ => ?_, fun none_ => absurd none_ short⟩
      rw [if_pos short] at ready reply ⊢
      by_cases long : (t.extNeighbor i).longAddr ≠ .zero
      · rw [if_pos long] at ready reply ⊢
        obtain ⟨z, held, -⟩ := sound.update_stands ready (toOption_eq_some.mp reply)
        exact ⟨z, held⟩
      · rw [if_neg long] at reply ⊢
        exact sound.byShort_stands short (toOption_eq_some.mp reply)
    · refine ⟨fun valid => absurd valid short, fun _ => ?_⟩
      rw [if_neg short] at ready reply ⊢
      exact sound.byIeee_stands ready.2.2 (toOption_eq_some.mp reply)
  · rw [if_neg mine] at reply
    cases reply

/-- The parent has its reference when all turns are over. -/
theorem turns_answers {p rounds i : ℕ} {refs : List ℕ} (sound : Sound c)
    (served : TurnsServed t myPanidRef junk (some p) rounds i refs c) (low : i ≤ p)
    (high : p < i + rounds) {ieee : IeeeAddr}
    (long : (t.extNeighbor p).shortAddr = noShortAddr →
      c.usedManufacturer (t.extNeighbor p).longAddr.devManufacturer = true ∧
        addressDecompress c (t.extNeighbor p).longAddr = ieee) :
    ∃ ref, Answers (turns t myPanidRef junk rounds i c).1 ref (t.extNeighbor p) ieee := by
  induction rounds generalizing i refs c with
  | zero => omega
  | succ rounds induction_ =>
    obtain ⟨met, answered, later⟩ := served
    have first := served_turn sound met
    by_cases here : p = i
    · subst here
      obtain ⟨ref, reply⟩ := Option.ne_none_iff_exists'.mp (answered rfl)
      rw [if_pos rfl, reply] at later
      have rest := served_turns first.sound later
      have now := turn_answers sound (fun mine => (met mine).1) reply
      refine ⟨ref, Answers.kept first.sound ⟨now.1, fun none_ => ?_⟩
        (rest.keeps ref (List.mem_append_left _ (List.mem_singleton.mpr rfl))) rest.slots⟩
      rw [← (long none_).2]
      exact now.2 none_
    · refine induction_ first.sound later (by omega) (by omega) fun none_ => ?_
      obtain ⟨used, reads⟩ := long none_
      exact ⟨(first.slots _ used).1, (first.slots.addressDecompress used).trans reads⟩

end

theorem Denotes.of_stands {c : AddrGlobals} {ref short : ℕ} {ieee : IeeeAddr}
    (stands : Stands c ref short ieee) : Denotes c ref short ieee := by
  obtain ⟨z, held, nonzero, reads⟩ := stands
  exact ⟨(short, z), held, fun _ => rfl, fun _ => ⟨nonzero, reads⟩⟩

/-- A device of which one address is known has one reference. -/
theorem Denotes.unique {c : AddrGlobals} (sound : Sound c) {r s short : ℕ} {ieee : IeeeAddr}
    (named : short ≠ noShortAddr ∨ ieee ≠ .zero) (left : Denotes c r short ieee)
    (right : Denotes c s short ieee) : r = s := by
  obtain ⟨⟨a, y⟩, heldR, shortR, longR⟩ := left
  obtain ⟨⟨b, z⟩, heldS, shortS, longS⟩ := right
  rcases named with valid | known
  · obtain rfl := shortR valid
    obtain rfl := shortS valid
    exact sound.shorts _ _ _ _ _ heldR heldS valid
  · obtain ⟨nonzeroR, readsR⟩ := longR known
    obtain ⟨nonzeroS, readsS⟩ := longS known
    exact sound.stands_unique ⟨y, heldR, nonzeroR, readsR⟩ ⟨z, heldS, nonzeroS, readsS⟩

/-! ## The joins -/

namespace Device

/-- What the tables are between two calls: the extended table lies apart, the index leads to the
entries, and the address table is exact. -/
structure Fit (w : Device) : Prop where
  laid : LaidOut linuxSizes w.tables.neighbor
  leads : IndexLeads w.tables.neighbor
  sound : Sound w.tables.addr
  listed : w.tmpParent < w.tables.neighbor.extNeighborUsed
  depth : w.parentEnt.depth ≤ 15

variable (w : Device)

/-- The address table, and its replies, while the extended entries are moved. -/
def moved (extPanId : ExtPanId) (junk : Junk) (c : AddrGlobals) :
    AddrGlobals × List (Option ℕ) :=
  turns w.tables.neighbor (w.myPanidRef extPanId junk) junk.turns
    w.tables.neighbor.extNeighborUsed 0 c

/-- The extended entries are moved from the address table `c`. -/
theorem Fit.exneighborStop_moved {w : Device} (fit : w.Fit) (extPanId : ExtPanId) (junk : Junk)
    (c : AddrGlobals) :
    let s := linuxSizes.exneighborStop ⟨c, w.tables.neighbor⟩ true (w.myPanidRef extPanId junk)
      junk.turns junk.left
    s.addr = (w.moved extPanId junk c).1 ∧
      Stopped w.tables.neighbor junk.left s.neighbor
        (newRefs w.tables.neighbor 0 (w.moved extPanId junk c).2) :=
  exneighborStop_stopped (s := ⟨c, w.tables.neighbor⟩) fit.laid fit.leads
    (w.myPanidRef extPanId junk) junk.turns junk.left

end Device

/-- The address table serves an association: every call fits, the device gets its entry `own`,
no later call takes one of its addresses, and the parent has a reference from its turn on. -/
structure AssociationServed (w : Device) (request : AssociateConfirm) (junk : Junk) (own : ℕ) :
    Prop where
  ready : Ready w.tables.addr
    (.table (.update w.extendedAddress request.assocShortAddress true junk.own))
  reply : (addressUpdate w.tables.addr w.extendedAddress request.assocShortAddress true
    junk.own).2 = .ok own
  long : w.parentEnt.shortAddr = noShortAddr → request.parentAddress ≠ .zero ∧
    (w.ownUpdated request.assocShortAddress junk).usedManufacturer
      w.parentEnt.longAddr.devManufacturer = true ∧
    addressDecompress (w.ownUpdated request.assocShortAddress junk) w.parentEnt.longAddr =
      request.parentAddress
  turns : TurnsServed w.tables.neighbor (w.myPanidRef w.savedReq.extendedPanId junk) junk.turns
    (some w.tmpParent) w.tables.neighbor.extNeighborUsed 0 [own]
    (w.ownUpdated request.assocShortAddress junk)
  update : w.parentEnt.shortAddr ≠ noShortAddr → request.parentAddress ≠ .zero →
    let c := (addressByShort (w.moved w.savedReq.extendedPanId junk
      (w.ownUpdated request.assocShortAddress junk)).1 w.parentEnt.shortAddr false false).1
    let op := .update request.parentAddress w.parentEnt.shortAddr false junk.parent
    Ready c (.table op) ∧ Undisturbed c own op ∧
      ∃ ref, (addressUpdate c request.parentAddress w.parentEnt.shortAddr false junk.parent).2 =
        .ok ref

namespace AssociationServed

variable {w : Device} {request : AssociateConfirm} {junk : Junk} {own : ℕ}

/-- The reference of the parent, and the table it is found in. -/
theorem findParent_served (served : AssociationServed w request junk own) (fit : w.Fit) :
    ∃ c ref, findParent (w.moved w.savedReq.extendedPanId junk
        (w.ownUpdated request.assocShortAddress junk)).1 w.parentEnt.shortAddr
        request.parentAddress request.parentAddress junk = (c, some ref) ∧
      Sound c ∧ Denotes c ref w.parentEnt.shortAddr request.parentAddress ∧
      Stands c own request.assocShortAddress w.extendedAddress := by
  have sound₁ : Sound (w.ownUpdated request.assocShortAddress junk) :=
    fit.sound.update _ _ _ _ served.ready
  have own₁ : Stands (w.ownUpdated request.assocShortAddress junk) own request.assocShortAddress
    w.extendedAddress := fit.sound.update_stands served.ready served.reply
  have after := served_turns sound₁ served.turns
  obtain ⟨ref, answers⟩ := turns_answers sound₁ served.turns (Nat.zero_le _)
    (by rw [Nat.zero_add]; exact fit.listed) fun none_ => (served.long none_).2
  have own₂ := sound₁.stands_kept own₁ (after.keeps own (List.mem_singleton.mpr rfl)) after.slots
  have update := served.update
  have sound₂ := after.sound
  change Sound (w.moved w.savedReq.extendedPanId junk _).1 at sound₂
  change Answers (w.moved w.savedReq.extendedPanId junk _).1 ref w.parentEnt _ at answers
  change Stands (w.moved w.savedReq.extendedPanId junk _).1 _ _ _ at own₂
  generalize (w.moved w.savedReq.extendedPanId junk
    (w.ownUpdated request.assocShortAddress junk)).1 = c at *
  by_cases valid : w.parentEnt.shortAddr = noShortAddr
  · -- the parent is known by its long address
    obtain ⟨short, stands⟩ := answers.2 valid
    have nonzero := (served.long valid).1
    obtain ⟨ok, pairs⟩ := sound₂.byIeee_stands_found stands false junk.lookup
    have sound₃ := sound₂.byIeee request.parentAddress false false junk.lookup
      ⟨nonzero, trivial, sound₂.compressible_stands stands⟩
    have slots := slotsKept_step c (.byIeee request.parentAddress false false junk.lookup)
    refine ⟨_, ref, ?_, sound₃, ?_, ?_⟩
    · simp only [findParent, valid, if_true, ok, ne_eq, not_true_eq_false, and_false, if_false]
    · obtain ⟨z, held, nonzeroZ, reads⟩ := sound₂.stands_kept stands
        (fun pair held => (congrFun pairs ref).trans held) slots
      exact ⟨(short, z), held, fun absurd_ => absurd valid absurd_, fun _ => ⟨nonzeroZ, reads⟩⟩
    · exact sound₂.stands_kept own₂ (fun pair held => (congrFun pairs own).trans held) slots
  · -- by its short address
    obtain ⟨z, held⟩ := answers.1 valid
    have ok := sound₂.byShort_found held valid false
    have ready : Ready c (.table (.byShort w.parentEnt.shortAddr false false)) :=
      ⟨valid, trivial, trivial⟩
    have looked := served_step sound₂ ready [own, ref] fun _ _ => trivial
    have held₃ := looked.keeps ref (by simp) _ held
    have own₃ := sound₂.stands_kept own₂ (looked.keeps own (by simp)) looked.slots
    have sound₃ := looked.sound
    rw [AddressTable.step] at held₃ own₃ sound₃
    by_cases nonzero : request.parentAddress = .zero
    · refine ⟨_, ref, ?_, sound₃, ⟨_, held₃, fun _ => rfl, fun known => absurd nonzero known⟩, own₃⟩
      simp only [findParent, valid, if_false, ok, nonzero, ne_eq, not_true_eq_false, false_and]
    · obtain ⟨ready', calm, ref', ok'⟩ := update valid nonzero
      have stored := served_step sound₃ ready' [own] fun r member => by
        rw [List.mem_singleton.mp member]
        exact calm
      refine ⟨_, ref', ?_, stored.sound, .of_stands (sound₃.update_stands ready' ok'),
        sound₃.stands_kept own₃ (stored.keeps own (by simp)) stored.slots⟩
      simp only [findParent, valid, if_false, ok, nonzero, ne_eq, not_false_eq_true, and_self,
        if_true, AddressTable.step]
      cases looked : addressUpdate (addressByShort c w.parentEnt.shortAddr false false).1
        request.parentAddress w.parentEnt.shortAddr false junk.parent with
      | mk d reply =>
        rw [looked] at ok'
        obtain rfl : reply = .ok ref' := ok'
        rfl

end AssociationServed

/-- The table after the device has entered the parent's addresses too. -/
def Device.parentUpdated (w : Device) (r : RejoinResponse) (junk : Junk) : AddrGlobals :=
  (addressUpdate (w.ownUpdated r.networkAddr.toNat junk) r.source w.parentEnt.shortAddr true
    junk.parent).1

/-- The address table serves a rejoin: every call fits, the device and its parent get their
entries, and no later call takes one of their addresses. -/
structure RejoinServed (w : Device) (r : RejoinResponse) (junk : Junk) (own ref : ℕ) : Prop where
  ready : Ready w.tables.addr
    (.table (.update w.extendedAddress r.networkAddr.toNat true junk.own))
  reply : (addressUpdate w.tables.addr w.extendedAddress r.networkAddr.toNat true junk.own).2 =
    .ok own
  readyParent : Ready (w.ownUpdated r.networkAddr.toNat junk)
    (.table (.update r.source w.parentEnt.shortAddr true junk.parent))
  calm : Undisturbed (w.ownUpdated r.networkAddr.toNat junk) own
    (.update r.source w.parentEnt.shortAddr true junk.parent)
  replyParent : (addressUpdate (w.ownUpdated r.networkAddr.toNat junk) r.source
    w.parentEnt.shortAddr true junk.parent).2 = .ok ref
  turns : TurnsServed w.tables.neighbor (w.myPanidRef w.rejoinPanId junk) junk.turns none
    w.tables.neighbor.extNeighborUsed 0 [own, ref] (w.parentUpdated r junk)

/-- After the turns the device and its parent have what they were given. -/
theorem RejoinServed.stands {w : Device} {r : RejoinResponse} {junk : Junk} {own ref : ℕ}
    (served : RejoinServed w r junk own ref) (fit : w.Fit) :
    Sound (w.moved w.rejoinPanId junk (w.parentUpdated r junk)).1 ∧
      Stands (w.moved w.rejoinPanId junk (w.parentUpdated r junk)).1 ref w.parentEnt.shortAddr
        r.source ∧
      Stands (w.moved w.rejoinPanId junk (w.parentUpdated r junk)).1 own r.networkAddr.toNat
        w.extendedAddress := by
  have sound₁ : Sound (w.ownUpdated r.networkAddr.toNat junk) :=
    fit.sound.update _ _ _ _ served.ready
  have own₁ : Stands (w.ownUpdated r.networkAddr.toNat junk) own r.networkAddr.toNat
    w.extendedAddress := fit.sound.update_stands served.ready served.reply
  have stored := served_step sound₁ served.readyParent [own] fun other member => by
    rw [List.mem_singleton.mp member]
    exact served.calm
  have sound₂ : Sound (w.parentUpdated r junk) := stored.sound
  have parent₂ : Stands (w.parentUpdated r junk) ref w.parentEnt.shortAddr r.source :=
    sound₁.update_stands served.readyParent served.replyParent
  have own₂ : Stands (w.parentUpdated r junk) own r.networkAddr.toNat w.extendedAddress :=
    sound₁.stands_kept own₁ (stored.keeps own (List.mem_singleton.mpr rfl)) stored.slots
  have after := served_turns sound₂ served.turns
  exact ⟨after.sound, sound₂.stands_kept parent₂ (after.keeps ref (by simp)) after.slots,
    sound₂.stands_kept own₂ (after.keeps own (by simp)) after.slots⟩

/-- A join that succeeds. -/
inductive Join
  | association (request : AssociateConfirm)
  | rejoin (response : RejoinResponse)

namespace Join

variable (w : Device) (junk : Junk)

/-- The device and the confirm of the join. -/
def run : Join → Option (Device × JoinConfirm)
  | .association request => w.associateConfirm request junk
  | .rejoin r => w.rejoinResponse r junk

/-- A rejoin succeeds when the response to it is correct. -/
def Accepted : Join → Prop
  | .association _ => True
  | .rejoin r => w.rejoining = true ∧
    r.Valid w.extendedAddress (addressDecompress w.tables.addr w.parentEnt.longAddr)

/-- Where the answer came from. -/
def parentAddress : Join → IeeeAddr
  | .association request => request.parentAddress
  | .rejoin r => r.source

/-- The short address that was assigned. -/
def assigned : Join → ℕ
  | .association request => request.assocShortAddress
  | .rejoin r => r.networkAddr.toNat

/-- The address table serves the join. -/
def Served : Join → Prop
  | .association request => ∃ own, AssociationServed w request junk own
  | .rejoin r => ∃ own ref, RejoinServed w r junk own ref

/-- The octet with the channel lies behind the base entries. -/
def ChannelKept (replies : List (Option ℕ)) : Prop :=
  (w.tables.neighbor.baseNeighborUsed + (newRefs w.tables.neighbor 0 replies).card) *
      linuxSizes.base ≤
    w.tables.neighbor.extOffset + w.tmpParent * linuxSizes.ext + 10

/-- When the record is kept.  An association needs a base table without another parent and with
room for the new one, and the octet with the channel; a rejoin needs what it does not write, the
update id and the channel, and a depth that says 15 where that of the parent does. -/
def Kept : Join → Prop
  | .association request =>
    let (c, replies) := w.moved w.savedReq.extendedPanId junk
      (w.ownUpdated request.assocShortAddress junk)
    (∃ ref, (findParent c w.parentEnt.shortAddr request.parentAddress request.parentAddress
        junk).2 = some ref ∧ Marked w.tables.neighbor junk.left replies w.parent ref) ∧
      (ChannelKept w replies ∨ junk.overlaid = (w.advert w.tmpParent).logicalChannel)
  | .rejoin r =>
    let (_, replies) := w.moved w.rejoinPanId junk (w.parentUpdated r junk)
    (∃ ref, (addressUpdate (w.ownUpdated r.networkAddr.toNat junk) r.source
        w.parentEnt.shortAddr true junk.parent).2 = .ok ref ∧
          Marked w.tables.neighbor junk.left replies ref ref) ∧
      (w.parentEnt.depth = 15 ↔ w.depth = 15) ∧
      w.updateId = (w.advert w.tmpParent).updateId ∧
      junk.buffer = (w.advert w.tmpParent).logicalChannel

end Join

/-- The record of a device that has looked its parent up, where the rest of it is right. -/
theorem recorded_iff {t₀ : NeighborTbl} {left : ℕ → NeighborTblEnt}
    {replies : List (Option ℕ)} {s : Tables} {handle ref nibDepth : ℕ} {w : Device} {confirm : JoinConfirm} {ent : ExtNeighborTblEnt}
    {advert : Advert} {ieee : IeeeAddr} {assigned own : ℕ}
    (stopped : Stopped t₀ left s.neighbor (newRefs t₀ 0 replies)) (sound : Sound s.addr)
    (named : ent.shortAddr ≠ noShortAddr ∨ ieee ≠ .zero)
    (denotes : Denotes s.addr ref ent.shortAddr ieee)
    (stands : Stands s.addr own assigned w.extendedAddress)
    (tables : w.tables = (enterParent s handle ref nibDepth).1)
    (parent : w.parent = (enterParent s handle ref nibDepth).2)
    (cskip : w.cskip = daaCalcCskip w.nib w.depth) :
    Recorded w confirm ent advert ieee assigned ↔ Marked t₀ left replies handle ref ∧
      w.depth = min 15 (ent.depth + 1) ∧ w.updateId = advert.updateId ∧
      confirm.activeChannel = advert.logicalChannel := by
  have addr : w.tables.addr = s.addr := by
    rw [tables, enterParent]
    split <;> rfl
  rw [← enterParent_marked stopped handle ref nibDepth, ← tables, ← parent]
  constructor
  · intro recorded
    have denotes' := recorded.denotes
    rw [addr] at denotes'
    exact ⟨⟨recorded.marked, denotes'.unique sound named denotes⟩, recorded.depth,
      recorded.updateId, recorded.channel⟩
  · rintro ⟨⟨only, same⟩, depth, updateId, channel⟩
    refine ⟨only, ?_, depth, cskip, fun junk => ?_, updateId, channel⟩
    · rw [addr, same]
      exact denotes
    · rw [addr]
      exact sound.shortByIeee_stands stands junk

theorem baseNeighborUsed_enterParent (s : Tables) (handle ref nibDepth : ℕ) :
    (enterParent s handle ref nibDepth).1.neighbor.baseNeighborUsed =
      s.neighbor.baseNeighborUsed := by
  rw [enterParent]
  split <;> rfl

/-- What the confirm says of the channel. -/
theorem staleChannel_iff {before after : NeighborTbl} {i channel overlaid : ℕ} :
    staleChannel before after i channel overlaid = channel ↔
      after.baseNeighborUsed * linuxSizes.base ≤
          before.extOffset + i * linuxSizes.ext + 10 ∨ overlaid = channel := by
  rw [staleChannel]
  split
  · rename_i taken
    rw [or_iff_right (Nat.not_le.mpr taken)]
  · rename_i kept
    exact iff_of_true rfl (Or.inl (Nat.le_of_not_lt kept))

theorem associated_recorded {w : Device} {request : AssociateConfirm} {junk : Junk} {own : ℕ}
    (fit : w.Fit) (served : AssociationServed w request junk own) :
    ∃ w' confirm, w.associateConfirm request junk = some (w', confirm) ∧
      (Recorded w' confirm w.parentEnt (w.advert w.tmpParent) request.parentAddress
        request.assocShortAddress ↔ (Join.association request).Kept w junk) := by
  obtain ⟨c, ref, found, sound, denotes, stands⟩ := served.findParent_served fit
  obtain ⟨addr, stopped⟩ := fit.exneighborStop_moved w.savedReq.extendedPanId junk
    (w.ownUpdated request.assocShortAddress junk)
  have named : w.parentEnt.shortAddr ≠ noShortAddr ∨ request.parentAddress ≠ .zero := by
    by_cases valid : w.parentEnt.shortAddr = noShortAddr
    · exact Or.inr (served.long valid).1
    · exact Or.inl valid
  have long : (if w.parentEnt.shortAddr = noShortAddr then
      addressDecompress (w.ownUpdated request.assocShortAddress junk) w.parentEnt.longAddr
    else request.parentAddress) = request.parentAddress := by
    split
    · rename_i none_
      exact (served.long none_).2.2
    · rfl
  rw [Device.associateConfirm, Join.Kept]
  dsimp only
  rw [long, addr, found]
  refine ⟨_, _, rfl, ?_⟩
  generalize linuxSizes.exneighborStop ⟨w.ownUpdated request.assocShortAddress junk,
    w.tables.neighbor⟩ true (w.myPanidRef w.savedReq.extendedPanId junk) junk.turns junk.left = s
    at *
  have depth : (if w.parentEnt.depth ≠ 0xf then w.parentEnt.depth + 1 else w.parentEnt.depth) =
      min 15 (w.parentEnt.depth + 1) := by
    have four := fit.depth
    split <;> omega
  have found : Stopped w.tables.neighbor junk.left (⟨c, s.neighbor⟩ : Tables).neighbor _ := stopped
  refine Iff.trans (recorded_iff found sound named denotes stands rfl rfl rfl) ?_
  dsimp only [Device.associated]
  rw [and_iff_right depth, and_iff_right rfl, staleChannel_iff, baseNeighborUsed_enterParent,
    stopped.entered.used, Join.ChannelKept]
  simp only [Option.some.injEq, exists_eq_left']

theorem rejoined_recorded {w : Device} {r : RejoinResponse} {junk : Junk} {own ref : ℕ}
    (fit : w.Fit) (accepted : (Join.rejoin r).Accepted w)
    (served : RejoinServed w r junk own ref) :
    ∃ w' confirm, w.rejoinResponse r junk = some (w', confirm) ∧
      (Recorded w' confirm w.parentEnt (w.advert w.tmpParent) r.source r.networkAddr.toNat ↔
        (Join.rejoin r).Kept w junk) := by
  obtain ⟨sound, parent, own_⟩ := served.stands fit
  obtain ⟨addr, stopped⟩ := fit.exneighborStop_moved w.rejoinPanId junk
    (w.parentUpdated r junk)
  have updated : addressUpdate (w.ownUpdated r.networkAddr.toNat junk) r.source
      w.parentEnt.shortAddr true junk.parent = (w.parentUpdated r junk, .ok ref) :=
    Prod.ext rfl served.replyParent
  rw [Join.Accepted] at accepted
  rw [Device.rejoinResponse, Join.Kept]
  dsimp only
  rw [if_pos accepted, updated]
  refine ⟨_, _, rfl, ?_⟩
  dsimp only
  generalize linuxSizes.exneighborStop ⟨w.parentUpdated r junk, w.tables.neighbor⟩ true
    (w.myPanidRef w.rejoinPanId junk) junk.turns junk.left = s at *
  have depth : (w.parentEnt.depth + if w.depth ≠ 0xf then 1 else 0) =
      min 15 (w.parentEnt.depth + 1) ↔ (w.parentEnt.depth = 15 ↔ w.depth = 15) := by
    have four := fit.depth
    split <;> omega
  rw [← addr] at sound parent own_
  refine Iff.trans (recorded_iff stopped sound
    (Or.inl served.readyParent.1.2) (.of_stands parent) own_ rfl rfl rfl) ?_
  dsimp only [Device.rejoined]
  rw [depth]
  simp only [Except.ok.injEq, exists_eq_left']

/-- A join that the address table serves leaves a consistent parent record if and only if the
tables, and what the join does not write, are such before. -/
theorem parent_recorded (w : Device) (join : Join) (junk : Junk) (fit : w.Fit)
    (accepted : join.Accepted w) (served : join.Served w junk) :
    ∃ w' confirm, join.run w junk = some (w', confirm) ∧
      (Recorded w' confirm w.parentEnt (w.advert w.tmpParent) join.parentAddress join.assigned ↔
        join.Kept w junk) := by
  cases join with
  | association request =>
    obtain ⟨own, served⟩ := served
    exact associated_recorded fit served
  | rejoin r =>
    obtain ⟨own, ref, served⟩ := served
    exact rejoined_recorded fit accepted served

/-- A discovery that hears one router, by its short address. -/
def discovery (shortAddr : ℕ) : List NeighborTable.Op :=
  [.exneighborStart, .exneighborByShort 5 shortAddr ⟨200, 1, 1, .router⟩ .init]

/-- A device that has heard the router 9. -/
def newcomer : Device where
  tables := Run.run linuxSizes.step ⟨.zero, .init⟩ (discovery 9)
  advert _ := ⟨3, 15⟩
  panIds := .zero
  extendedAddress := ⟨⟨1, 2, 3⟩, ⟨4, 5, 6, 7, 8⟩⟩
  nib := ⟨6, 4, 5, by decide, by decide, by decide⟩
  networkAddress := 0xffff
  extPanId _ := 0
  updateId := 0
  depth := 0
  cskip := 0
  deviceType := .none
  joined := false
  rejoining := false
  savedReq := ⟨fun _ => 0, true⟩
  rejoinPanId _ := 0
  tmpParent := 0
  parent := 0

def zeroJunk : Junk := ⟨.zero, .zero, .zero, fun _ => .zero, 5, 0, fun _ => .zero, 0⟩

/-- The router accepts it. -/
def accepted : AssociateConfirm := ⟨7, ⟨⟨1, 2, 3⟩, ⟨4, 5, 6, 7, 9⟩⟩⟩

theorem newcomer_fit : newcomer.Fit := by
  obtain ⟨laid, leads⟩ := indexLeads_run .zero (discovery 9) (by decide +kernel)
  exact ⟨laid, leads, zero_sound, by decide +kernel, by decide +kernel⟩

theorem newcomer_served : AssociationServed newcomer accepted zeroJunk 82 where
  ready := by decide +kernel
  reply := by decide +kernel
  long none_ := absurd none_ (by decide +kernel)
  turns := by decide +kernel
  update _ _ := ⟨by decide +kernel, by decide +kernel, 0, by decide +kernel⟩

theorem parent_recorded_newcomer :
    ∃ w' confirm, (Join.association accepted).run newcomer zeroJunk = some (w', confirm) ∧
      (Recorded w' confirm newcomer.parentEnt (newcomer.advert newcomer.tmpParent)
        accepted.parentAddress accepted.assocShortAddress ↔
          (Join.association accepted).Kept newcomer zeroJunk) :=
  parent_recorded newcomer (.association accepted) zeroJunk newcomer_fit trivial
    ⟨82, newcomer_served⟩

/-- The device has associated, has left, and has heard another router. -/
def returner : Device :=
  match newcomer.associateConfirm accepted zeroJunk with
  | some (w, _) => { w with
    tables := Run.run linuxSizes.step w.tables (discovery 10)
    joined := false }
  | none => newcomer

/-- The association with the second router leaves the first one a parent. -/
theorem parent_not_recorded : ¬∀ (w : Device) (join : Join) (junk : Junk) (w' : Device)
    (confirm : JoinConfirm), join.Accepted w → join.run w junk = some (w', confirm) →
      Recorded w' confirm w.parentEnt (w.advert w.tmpParent) join.parentAddress join.assigned := by
  intro claim
  have again : ∃ result, returner.associateConfirm ⟨8, ⟨⟨1, 2, 3⟩, ⟨4, 5, 6, 7, 10⟩⟩⟩ zeroJunk =
      some result ∧ ParentAt result.1.tables.neighbor 0 ∧ ParentAt result.1.tables.neighbor 1 := by
    cases joined : returner.associateConfirm ⟨8, ⟨⟨1, 2, 3⟩, ⟨4, 5, 6, 7, 10⟩⟩⟩ zeroJunk with
    | none =>
      have some_ : (returner.associateConfirm ⟨8, ⟨⟨1, 2, 3⟩, ⟨4, 5, 6, 7, 10⟩⟩⟩
        zeroJunk).isSome = true := by decide +kernel
      rw [joined] at some_
      cases some_
    | some result =>
      have parents : (returner.associateConfirm ⟨8, ⟨⟨1, 2, 3⟩, ⟨4, 5, 6, 7, 10⟩⟩⟩ zeroJunk).all
          (fun result => decide (ParentAt result.1.tables.neighbor 0 ∧
            ParentAt result.1.tables.neighbor 1)) = true := by decide +kernel
      rw [joined, Option.all_some, decide_eq_true_eq] at parents
      exact ⟨result, rfl, parents⟩
  obtain ⟨⟨w', confirm⟩, joined, first, second⟩ := again
  obtain ⟨n, -, -, alone⟩ :=
    (claim returner (.association ⟨8, ⟨⟨1, 2, 3⟩, ⟨4, 5, 6, 7, 10⟩⟩⟩) zeroJunk w' confirm trivial
      joined).marked
  exact absurd ((alone 0 first).trans (alone 1 second).symm) (by decide)

end Zboss.ParentRecord
