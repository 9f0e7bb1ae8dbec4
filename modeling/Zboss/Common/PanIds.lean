import Zboss.Common.AddressTable
import Zboss.Lib.Ring
import Zboss.Lib.Run

/-!
The table of PAN ids in the address context (`zb_address.c`): an open hash from the
extended PAN id to a reference, with the short PAN id kept beside it.  An id stored once
keeps its reference for good, and keeps the short PAN id of the first beacon too, whatever
later beacons say.
-/

namespace Zboss.PanIds

open Zboss.Run Zboss.AddressTable

abbrev panidTableSize : ℕ := 8

/-- `zb_ext_pan_id_t`: eight octets. -/
abbrev ExtPanId := Fin 8 → UInt8

/-- `zb_address_pan_id_ref_t`, when it points into the table. -/
abbrev PanIdRef := Fin panidTableSize

structure PanIdMap where
  longPanid : ExtPanId
  shortPanid : UInt16

/-- `pan_map` and `used_pan_addr` of the address context. -/
structure PanTable where
  panMap : PanIdRef → PanIdMap
  usedPanAddr : PanIdRef → Bool

/-- The zeroed table. -/
def PanTable.zero : PanTable := ⟨fun _ => ⟨fun _ => 0, 0⟩, fun _ => false⟩

/-- The return value of `zb_address_set_pan_id` with the reference it stores. -/
inductive SetReply where
  | ok (ref : PanIdRef)
  | alreadyExists (ref : PanIdRef)
  | overflow
  deriving DecidableEq

/-- The reference stored, if any. -/
def SetReply.ref : SetReply → Option PanIdRef
  | ok ref => some ref
  | alreadyExists ref => some ref
  | overflow => none

/-- `ZB_ADDRESS_PAN_ID_HASH`. -/
def panIdHash (panId : ExtPanId) : PanIdRef :=
  Fin.ofNat panidTableSize <|
    hashFuncStep (hashFuncStep (hashFuncStep (hashFuncStep 5381 (panId 0).toNat)
      (panId 2).toNat) (panId 4).toNat) (panId 6).toNat % 2 ^ 31

namespace PanTable

/-- Cell `i` is used and holds this id. -/
def holds (t : PanTable) (panId : ExtPanId) (i : PanIdRef) : Bool :=
  t.usedPanAddr i && decide ((t.panMap i).longPanid = panId)

/-- `zb_address_set_pan_id`.  The loop stops at the id; while it goes round it notes the last
free cell, and a new id is stored there. -/
def setPanId (t : PanTable) (shortPanId : UInt16) (panId : ExtPanId) : PanTable × SetReply :=
  match Ring.firstFrom (panIdHash panId) (t.holds panId) with
  | some i => (t, .alreadyExists i)
  | none =>
    match Ring.lastFrom (panIdHash panId) fun i => !t.usedPanAddr i with
    | some freeI =>
      ({ panMap := Function.update t.panMap freeI ⟨panId, shortPanId⟩
         usedPanAddr := Function.update t.usedPanAddr freeI true }, .ok freeI)
    | none => (t, .overflow)

/-- `zb_address_get_pan_id`; none where the assertion fails. -/
def getPanId (t : PanTable) (ref : PanIdRef) : Option ExtPanId :=
  if t.usedPanAddr ref then some (t.panMap ref).longPanid else none

/-- `zb_address_get_pan_id_ref`; none stands for `RET_NOT_FOUND`. -/
def getPanIdRef (t : PanTable) (panId : ExtPanId) : Option PanIdRef :=
  Ring.firstFrom (panIdHash panId) (t.holds panId)

/-- `zb_address_get_short_pan_id`; none where the assertion fails. -/
def getShortPanId (t : PanTable) (ref : PanIdRef) : Option UInt16 :=
  if t.usedPanAddr ref then some (t.panMap ref).shortPanid else none

/-- The ids stored, in the order of the cells. -/
def stored (t : PanTable) : List ExtPanId := (List.finRange panidTableSize).filterMap t.getPanId

/-- No id is stored twice. -/
def Distinct (t : PanTable) : Prop :=
  ∀ r s panId, t.getPanId r = some panId → t.getPanId s = some panId → r = s

variable {t : PanTable} {panId : ExtPanId} {i : PanIdRef}

theorem holds_iff : t.holds panId i = true ↔ t.getPanId i = some panId := by
  rw [holds, getPanId]
  cases t.usedPanAddr i <;> simp

theorem holds_eq_false : t.holds panId i = false ↔ t.getPanId i ≠ some panId := by
  rw [← Bool.not_eq_true, holds_iff]

/-- The id looked up is the one stored under the reference. -/
theorem getPanId_of_getPanIdRef (found : t.getPanIdRef panId = some i) :
    t.getPanId i = some panId :=
  holds_iff.mp (Ring.firstFrom_holds found)

theorem getPanIdRef_eq_none : t.getPanIdRef panId = none ↔ ∀ i, t.getPanId i ≠ some panId := by
  rw [getPanIdRef, Ring.firstFrom_eq_none]
  exact forall_congr' fun i => holds_eq_false

/-- The two lookups invert each other where no id is stored twice. -/
theorem Distinct.getPanIdRef_iff (distinct : t.Distinct) :
    t.getPanIdRef panId = some i ↔ t.getPanId i = some panId := by
  constructor
  · exact getPanId_of_getPanIdRef
  · intro here
    apply Ring.firstFrom_unique (holds_iff.mpr here)
    intro j there
    exact distinct j i panId (holds_iff.mp there) here

theorem mem_stored : panId ∈ t.stored ↔ ∃ i, t.getPanId i = some panId := by
  simp [stored]

theorem Distinct.stored_nodup (distinct : t.Distinct) : t.stored.Nodup := by
  refine List.Nodup.filterMap (fun r s panId here there => ?_) (List.nodup_finRange _)
  exact distinct r s panId (Option.mem_def.mp here) (Option.mem_def.mp there)

/-- Eight ids are stored when every cell is used. -/
theorem stored_full : t.stored.length = panidTableSize ↔ ∀ i, t.usedPanAddr i = true := by
  have all := List.filterMap_length_eq_length (f := t.getPanId)
    (l := List.finRange panidTableSize)
  rw [List.length_finRange] at all
  refine all.trans ?_
  constructor
  · intro full i
    have some_ := full i (List.mem_finRange i)
    rw [getPanId] at some_
    split at some_
    · assumption
    · cases some_
  · intro full i _
    rw [getPanId, if_pos (full i)]
    rfl

/-- What one call does: nothing, for an id stored already and for a full table, and otherwise
it fills a free cell. -/
theorem setPanId_cases (t : PanTable) (shortPanId : UInt16) (panId : ExtPanId) :
    (∃ i, t.getPanIdRef panId = some i ∧ t.setPanId shortPanId panId = (t, .alreadyExists i)) ∨
    (t.getPanIdRef panId = none ∧ ∃ i, t.usedPanAddr i = false ∧
      t.setPanId shortPanId panId =
        ({ panMap := Function.update t.panMap i ⟨panId, shortPanId⟩
           usedPanAddr := Function.update t.usedPanAddr i true }, .ok i)) ∨
    (t.getPanIdRef panId = none ∧ (∀ i, t.usedPanAddr i = true) ∧
      t.setPanId shortPanId panId = (t, .overflow)) := by
  cases found : t.getPanIdRef panId with
  | some i =>
    refine Or.inl ⟨i, rfl, ?_⟩
    rw [getPanIdRef] at found
    rw [setPanId, found]
  | none =>
    refine Or.inr ?_
    rw [getPanIdRef] at found
    rw [setPanId, found]
    cases free : Ring.lastFrom (panIdHash panId) fun i => !t.usedPanAddr i with
    | some i =>
      have unused := Ring.lastFrom_holds free
      exact Or.inl ⟨rfl, i, by simpa using unused, rfl⟩
    | none =>
      have full := Ring.lastFrom_eq_none.mp free
      exact Or.inr ⟨rfl, fun i => by simpa using full i, rfl⟩

/-- A cell filled holds the id and the short PAN id; the others are as before. -/
theorem getPanId_fill (shortPanId : UInt16) (j : PanIdRef) :
    getPanId { panMap := Function.update t.panMap i ⟨panId, shortPanId⟩
               usedPanAddr := Function.update t.usedPanAddr i true } j =
      if j = i then some panId else t.getPanId j := by
  by_cases here : j = i
  · subst here
    simp [getPanId]
  · simp [getPanId, here]

theorem getShortPanId_fill (shortPanId : UInt16) :
    getShortPanId { panMap := Function.update t.panMap i ⟨panId, shortPanId⟩
                    usedPanAddr := Function.update t.usedPanAddr i true } i =
      some shortPanId := by
  simp [getShortPanId]

theorem getPanId_unused (unused : t.usedPanAddr i = false) : t.getPanId i = none := by
  simp [getPanId, unused]

/-- An id stored stays where it is. -/
theorem setPanId_keeps (shortPanId : UInt16) (other : ExtPanId) {j : PanIdRef}
    (held : t.getPanId j = some other) :
    (t.setPanId shortPanId panId).1.getPanId j = some other := by
  rcases t.setPanId_cases shortPanId panId with ⟨i, -, same⟩ | ⟨-, i, unused, filled⟩ | ⟨-, -, same⟩
  · rwa [same]
  · rw [filled, getPanId_fill]
    split
    · rename_i here
      rw [here, getPanId_unused unused] at held
      cases held
    · exact held
  · rwa [same]

/-- The reference given stands for the id from then on. -/
theorem setPanId_here (shortPanId : UInt16) {j : PanIdRef}
    (given : (t.setPanId shortPanId panId).2.ref = some j) :
    (t.setPanId shortPanId panId).1.getPanId j = some panId := by
  rcases t.setPanId_cases shortPanId panId with
    ⟨i, found, same⟩ | ⟨-, i, -, filled⟩ | ⟨-, -, same⟩
  · rw [same] at given ⊢
    cases given
    exact getPanId_of_getPanIdRef found
  · rw [filled] at given ⊢
    cases given
    rw [getPanId_fill, if_pos rfl]
  · rw [same] at given
    cases given

theorem Distinct.setPanId (distinct : t.Distinct) (shortPanId : UInt16) (panId : ExtPanId) :
    (t.setPanId shortPanId panId).1.Distinct := by
  rcases t.setPanId_cases shortPanId panId with
    ⟨i, -, same⟩ | ⟨absent, i, -, filled⟩ | ⟨-, -, same⟩
  · rwa [same]
  · rw [filled]
    have fresh := getPanIdRef_eq_none.mp absent
    intro r s other first second
    rw [getPanId_fill] at first second
    split at first <;> split at second
    · rename_i left right
      exact left.trans right.symm
    · cases first
      exact absurd second (fresh s)
    · cases second
      exact absurd first (fresh r)
    · exact distinct r s other first second
  · rwa [same]

/-- A call fails just when eight other ids are stored. -/
theorem setPanId_overflow_iff (shortPanId : UInt16) :
    (t.setPanId shortPanId panId).2 = .overflow ↔
      t.stored.length = panidTableSize ∧ panId ∉ t.stored := by
  rw [stored_full, mem_stored]
  rcases t.setPanId_cases shortPanId panId with
    ⟨i, found, same⟩ | ⟨-, i, unused, filled⟩ | ⟨absent, full, same⟩
  · rw [same]
    exact iff_of_false (nomatch ·) fun claim => claim.2 ⟨i, getPanId_of_getPanIdRef found⟩
  · rw [filled]
    refine iff_of_false (nomatch ·) fun claim => ?_
    exact Bool.false_ne_true (unused.symm.trans (claim.1 i))
  · rw [same]
    refine iff_of_true rfl ⟨full, fun stored => ?_⟩
    obtain ⟨i, here⟩ := stored
    exact getPanIdRef_eq_none.mp absent i here

theorem setPanId_overflow (shortPanId : UInt16)
    (overflow : (t.setPanId shortPanId panId).2 = .overflow) :
    (t.setPanId shortPanId panId).1 = t := by
  rcases t.setPanId_cases shortPanId panId with ⟨i, -, same⟩ | ⟨-, i, -, filled⟩ | ⟨-, -, same⟩
  · rw [same]
  · rw [filled] at overflow
    cases overflow
  · rw [same]

theorem setPanId_short_iff (shortPanId : UInt16) :
    (∀ ref ∈ (t.setPanId shortPanId panId).2.ref,
        (t.setPanId shortPanId panId).1.getShortPanId ref = some shortPanId) ↔
      ∀ ref ∈ t.getPanIdRef panId, t.getShortPanId ref = some shortPanId := by
  rcases t.setPanId_cases shortPanId panId with
    ⟨i, found, same⟩ | ⟨absent, i, -, filled⟩ | ⟨absent, -, same⟩
  · rw [same, found]
    rfl
  · rw [filled, absent]
    refine iff_of_true (fun ref given => ?_) (fun ref found => nomatch found)
    cases given
    exact getShortPanId_fill shortPanId
  · rw [same, absent]
    rfl

end PanTable

/-- The table with the references given so far. -/
structure History where
  table : PanTable
  given : List (ExtPanId × PanIdRef)

namespace History

open PanTable

def zero : History := ⟨.zero, []⟩

/-- One call of `zb_address_set_pan_id`. -/
def setPanId (h : History) (call : UInt16 × ExtPanId) : History :=
  let (table, reply) := h.table.setPanId call.1 call.2
  ⟨table, h.given ++ (reply.ref.map (call.2, ·)).toList⟩

/-- What is expected of a call and of all references given up to it. -/
structure Faithful (h : History) (shortPanId : UInt16) (panId : ExtPanId) : Prop where
  distinct : ∀ a ∈ (h.setPanId (shortPanId, panId)).given,
    ∀ b ∈ (h.setPanId (shortPanId, panId)).given, a.1 = b.1 ↔ a.2 = b.2
  kept : ∀ a ∈ (h.setPanId (shortPanId, panId)).given,
    (h.setPanId (shortPanId, panId)).table.getPanId a.2 = some a.1
  inverse : ∀ other ref, (h.setPanId (shortPanId, panId)).table.getPanIdRef other = some ref ↔
    (h.setPanId (shortPanId, panId)).table.getPanId ref = some other
  nodup : h.table.stored.Nodup
  overflow : (h.table.setPanId shortPanId panId).2 = .overflow ↔
    h.table.stored.length = panidTableSize ∧ panId ∉ h.table.stored
  unchanged : (h.table.setPanId shortPanId panId).2 = .overflow →
    h.setPanId (shortPanId, panId) = h
  short : ∀ ref ∈ (h.table.setPanId shortPanId panId).2.ref,
    (h.setPanId (shortPanId, panId)).table.getShortPanId ref = some shortPanId

/-- No id is stored twice, and the references given still lead to their ids. -/
structure Sound (h : History) : Prop where
  distinct : h.table.Distinct
  kept : ∀ a ∈ h.given, h.table.getPanId a.2 = some a.1

theorem Sound.zero : Sound zero where
  distinct := fun _ _ _ here => nomatch here
  kept := fun _ member => nomatch member

variable {h : History}

theorem Sound.setPanId (sound : Sound h) (call : UInt16 × ExtPanId) : Sound (h.setPanId call) where
  distinct := sound.distinct.setPanId call.1 call.2
  kept := by
    intro a member
    rcases List.mem_append.mp member with old | new
    · exact setPanId_keeps call.1 a.1 (sound.kept a old)
    · obtain ⟨ref, given, rfl⟩ := Option.map_eq_some_iff.mp (Option.mem_toList.mp new)
      exact setPanId_here call.1 given

/-- After any calls the next one does all that is expected just when its id is not stored with
another short PAN id. -/
theorem faithful_iff (calls : List (UInt16 × ExtPanId)) (shortPanId : UInt16)
    (panId : ExtPanId) :
    Faithful (run setPanId zero calls) shortPanId panId ↔
      ∀ ref ∈ (run setPanId zero calls).table.getPanIdRef panId,
        (run setPanId zero calls).table.getShortPanId ref = some shortPanId := by
  have sound : Sound (run setPanId zero calls) :=
    invariant_of_run (fun _ call sound => sound.setPanId call) zero calls .zero
  generalize run setPanId zero calls = h at *
  rw [← setPanId_short_iff]
  constructor
  · exact fun faithful => faithful.short
  · intro short
    have after := sound.setPanId (shortPanId, panId)
    exact {
      distinct := by
        intro a member b member'
        have left := after.kept a member
        have right := after.kept b member'
        constructor
        · intro same
          rw [← same] at right
          exact after.distinct _ _ _ left right
        · intro same
          rw [← same, left] at right
          exact Option.some.inj right
      kept := after.kept
      inverse := fun other ref => after.distinct.getPanIdRef_iff
      nodup := sound.distinct.stored_nodup
      overflow := setPanId_overflow_iff shortPanId
      unchanged := by
        intro overflow
        have same := setPanId_overflow shortPanId overflow
        simp only [History.setPanId, overflow, same]
        simp [SetReply.ref]
      short := short }

/-- A network that has changed its PAN id is still joined under the old one. -/
theorem moved_unfaithful :
    ¬∀ (calls : List (UInt16 × ExtPanId)) (shortPanId : UInt16) (panId : ExtPanId),
      Faithful (run setPanId zero calls) shortPanId panId := by
  intro claim
  have short := (claim [(0x1111, fun _ => 7)] 0x2222 (fun _ => 7)).short
  exact absurd (short 0 (by decide)) (by decide)

end History

end Zboss.PanIds
