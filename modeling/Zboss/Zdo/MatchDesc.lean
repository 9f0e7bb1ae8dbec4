import Zboss.Nwk.Forwarding
import Zboss.Zdo.SimpleDesc

/-!
Match descriptor requests: the client lays two lists of clusters out in a request, the server
copies them to the tail of the buffer, compares them with its simple descriptors and lists the
endpoints that match in order.  The list is an array of the stack, not initialised, and the
insertion looks at the slot behind its end.
-/

namespace Zboss.MatchDesc

open Zboss.BufLayout Zboss.Cells Zboss.FrameHeaders Zboss.MacHeader Zboss.SimpleDesc Zboss.Words
open Zboss.ChannelChange (zdpSuccess)
open Zboss.CommandFrames (shortOctets)
open Zboss.DynamicTables (nwkBroadcastRxOnWhenIdle)

/-! ## The client -/

/-- `zb_zdo_match_desc_param_t` with its list of clusters, in two parts. -/
structure Param where
  nwkAddr : UInt16
  profileId : UInt16
  inputs : List UInt16
  outputs : List UInt16
  inputs_lt : inputs.length < 256
  outputs_lt : outputs.length < 256

namespace Param

variable (param : Param)

/-- The number of clusters. -/
def clusters : ℕ := param.inputs.length + param.outputs.length

/-- What an application allocates: `sizeof(zb_zdo_match_desc_param_t)`, which counts one cluster,
and the clusters. -/
def size : ℕ := 8 + param.clusters * 2

def inputCount : UInt8 := UInt8.ofNat param.inputs.length

def outputCount : UInt8 := UInt8.ofNat param.outputs.length

/-- The fields before the counts. -/
def front : List UInt8 := shortOctets param.nwkAddr ++ shortOctets param.profileId

/-- The parameters in memory. -/
def memory : List UInt8 :=
  param.front ++ ([param.inputCount] ++ ([param.outputCount] ++
    (octets param.inputs ++ octets param.outputs)))

/-- The request on the wire, behind its sequence number. -/
def request : List UInt8 :=
  param.front ++ ([param.inputCount] ++ (octets param.inputs ++ ([param.outputCount] ++
    octets param.outputs)))

/-- The parameters stand in a buffer, put there after space was allocated. -/
structure Prepared (b : Buf) : Prop where
  small : param.size < ioBufSize
  len : b.len = param.size
  dataOffset : b.dataOffset = (ioBufSize - param.size) / 2
  holds : Holds b.buf b.dataOffset param.memory

end Param

/-- `zb_zdo_match_desc_req`, up to the sending of the request; none where an assertion of the buffer
fails, to which sizes come as octets. -/
def matchDescReq (b : Buf) : Option Buf := do
  let init : Octets := fun i => b.buf (b.dataOffset + i)
  let size := 8 + ((init 4).toNat + (init 5).toNat) * 2
  let tail ← b.getBufTail (size % 2 ^ 8)
  let a := memcpy b.buf tail.first (segment b.buf b.dataOffset size)
  let inCount := (a (tail.first + 4)).toNat
  let outCount := (a (tail.first + 5)).toNat
  let (r, req) ← { b with buf := a }.initialAlloc ((5 + inCount * 2 + 1 + outCount * 2) % 2 ^ 8)
  let a := memcpy r.buf req.first (segment r.buf tail.first 2)
  let a := memcpy a (req.first + 2) (segment a (tail.first + 2) 2)
  let a := memcpy a (req.first + 4) [a (tail.first + 4)]
  let a := moveWords (tail.first + 6) (req.first + 5) inCount a
  let a := memcpy a (req.first + 5 + 2 * inCount) [a (tail.first + 5)]
  let a := moveWords (tail.first + 6 + 2 * inCount) (req.first + 6 + 2 * inCount) outCount a
  some { r with buf := a }

/-! ## The list of endpoints -/

/-- `ep_list` with its number of endpoints; the cells behind them are the stack's. -/
structure EpList where
  cells : ℕ → UInt8
  num : ℕ

/-- `for (i = num; i > index; i--) ep_list[i] = ep_list[i - 1]`. -/
def shiftUp (index : ℕ) : ℕ → (ℕ → UInt8) → ℕ → UInt8
  | 0, a => a
  | i + 1, a => if index < i + 1 then shiftUp index i (Function.update a (i + 1) (a i)) else a

namespace EpList

/-- The first index whose endpoint is not smaller; the end of the list where all are. -/
def index (l : EpList) (endpoint : UInt8) : ℕ :=
  ((List.range l.num).find? fun i => decide (endpoint ≤ l.cells i)).getD l.num

/-- `add_ep_sorted`.  At the end of the list the slot behind it is looked at. -/
def add (l : EpList) (endpoint : UInt8) : EpList :=
  let index := l.index endpoint
  if l.cells index ≠ endpoint then
    ⟨Function.update (shiftUp index l.num l.cells) index endpoint, l.num + 1⟩
  else l

/-- The endpoints of the list. -/
def toList (l : EpList) : List UInt8 := live l.cells l.num

end EpList

/-! ## The server -/

def maxEndpointNumber : ℕ := 240

/-- The descriptors of a device, as many as `zb_add_simple_descriptor` takes. -/
structure Device where
  shortAddress : UInt16
  /-- `ZB_MAX_EP_NUMBER`. -/
  maxEp : ℕ
  simpleDescList : List Desc
  maxEp_le : maxEp ≤ maxEndpointNumber
  length_le : simpleDescList.length ≤ maxEp

/-- What is asked for. -/
structure Query where
  nwkAddr : UInt16
  profileId : UInt16
  inputs : List UInt16
  outputs : List UInt16

/-- `ZB_ZDP_STATUS_NO_DESCRIPTOR`. -/
def zdpNoDescriptor : UInt8 := 0x89

/-- The number of input clusters a request announces. -/
def inCountOf (b : Buf) : ℕ := (b.buf (b.dataOffset + 5)).toNat

/-- The number of output clusters, behind the input clusters. -/
def outCountOf (b : Buf) : ℕ := (b.buf (b.dataOffset + (6 + 2 * inCountOf b))).toNat

/-- `zdo_match_desc_res` before the search: both lists are copied to the tail. -/
def readRequest (b : Buf) : Option (Buf × Query) := do
  let aps : Octets := fun i => b.buf (b.dataOffset + i)
  let inCount := inCountOf b
  let outCount := outCountOf b
  let tail ← b.getBufTail ((inCount + outCount) * 2 % 2 ^ 8)
  let a := moveWords (b.dataOffset + 6) tail.first inCount b.buf
  let a := moveWords (b.dataOffset + 7 + 2 * inCount) (tail.first + 2 * inCount) outCount a
  some ({ b with buf := a }, ⟨aps.le16 1, aps.le16 3, readClusters a tail.first inCount,
    readClusters a (tail.first + 2 * inCount) outCount⟩)

/-- The profile of the descriptor is the one asked for, and one of its input clusters or else one of
its output clusters is among those of the request. -/
def found (q : Query) (desc : Desc) : Bool :=
  desc.appProfileId == q.profileId &&
    ((desc.inputs.any fun cluster => q.inputs.any fun asked => cluster == asked) ||
      desc.outputs.any fun cluster => q.outputs.any fun asked => cluster == asked)

namespace Device

variable (d : Device)

/-- The request is for this device or for every one that listens. -/
def asked (q : Query) : Bool :=
  d.shortAddress == q.nwkAddr || q.nwkAddr == nwkBroadcastRxOnWhenIdle

/-- The search through the descriptors; `stale` is what the stack holds in the array. -/
def search (stale : ℕ → UInt8) (q : Query) : EpList :=
  if d.asked q then
    d.simpleDescList.foldl (fun l desc => if found q desc then l.add desc.endpoint else l) ⟨stale, 0⟩
  else ⟨stale, 0⟩

/-- `zdo_match_desc_res`, up to the sending of the response.  What the status was before the list was
counted is lost. -/
def matchDescRes (stale : ℕ → UInt8) (b : Buf) : Option Buf := do
  let (b, q) ← readRequest b
  let eps := d.search stale q
  let (r, resp) ← b.initialAlloc ((4 + eps.num) % 2 ^ 8)
  let status := if eps.num = 0 then zdpNoDescriptor else zdpSuccess
  let body := [status] ++ (shortOctets q.nwkAddr ++ ([UInt8.ofNat eps.num] ++ eps.toList))
  some { r with buf := memcpy r.buf resp.first body }

/-- The endpoints of the descriptors found, in the order of the descriptors. -/
def endpoints (q : Query) : List UInt8 :=
  if d.asked q then (d.simpleDescList.filter (found q)).map Desc.endpoint else []

end Device

/-! ## Exact answers -/

/-- The numbers of endpoints there are when endpoints are inserted: the last slot each insertion
looks at. -/
def slots : EpList → List UInt8 → List ℕ
  | _, [] => []
  | l, endpoint :: rest => l.num :: slots (l.add endpoint) rest

/-- The octets of the buffer that `zdo_match_desc_res` reads and writes. -/
def Device.accesses (d : Device) (stale : ℕ → UInt8) (b : Buf) : List Span :=
  let inCount := inCountOf b
  let outCount := outCountOf b
  let counts := [⟨b.dataOffset, 6⟩, ⟨b.dataOffset + (6 + 2 * inCount), 1⟩]
  let copies := (b.getBufTail ((inCount + outCount) * 2 % 2 ^ 8)).elim [] fun tail =>
    [⟨b.dataOffset + 6, 2 * inCount⟩, ⟨tail.first, 2 * inCount⟩,
      ⟨b.dataOffset + 7 + 2 * inCount, 2 * outCount⟩, ⟨tail.first + 2 * inCount, 2 * outCount⟩]
  let response := (readRequest b).elim [] fun (b, q) =>
    let num := (d.search stale q).num
    (b.initialAlloc ((4 + num) % 2 ^ 8)).elim [] fun (_, resp) => [⟨resp.first, 4 + num⟩]
  counts ++ (copies ++ response)

/-- No access leaves the buffer or the list of endpoints, whatever the stack holds. -/
structure Inside (d : Device) (b : Buf) : Prop where
  octets : ∀ stale, ∀ span ∈ d.accesses stale b, span.Inside
  endpoints : ∀ stale c q, readRequest b = some (c, q) →
    ∀ slot ∈ slots ⟨stale, 0⟩ (d.endpoints q), slot < d.maxEp

/-- What the client asks for. -/
def Param.query (param : Param) : Query :=
  ⟨param.nwkAddr, param.profileId, param.inputs, param.outputs⟩

/-- The payload is a request of the client, behind a sequence number. -/
def Requested (param : Param) (b : Buf) : Prop :=
  ∃ prepared r tsn, param.Prepared prepared ∧ matchDescReq prepared = some r ∧
    b.payload = tsn :: r.payload

/-- The profile matches, and an input cluster or an output cluster is shared. -/
def Matches (param : Param) (desc : Desc) : Prop :=
  desc.appProfileId = param.profileId ∧
    ((∃ cluster ∈ desc.inputs, cluster ∈ param.inputs) ∨
      ∃ cluster ∈ desc.outputs, cluster ∈ param.outputs)

/-- The response lists exactly the endpoints that match, in ascending order, without duplicates. -/
def Answers (d : Device) (param : Param) (response : Option Buf) : Prop :=
  ∃ r eps, response = some r ∧
    SortedIndex UInt8.toNat (fun endpoint =>
      ∃ desc ∈ d.simpleDescList, Matches param desc ∧ desc.endpoint = endpoint) eps ∧
    r.payload = [if eps = [] then zdpNoDescriptor else zdpSuccess] ++
      (shortOctets param.nwkAddr ++ ([UInt8.ofNat eps.length] ++ eps))

/-- The match descriptor request is served as it should be. -/
structure Right (d : Device) (b : Buf) : Prop where
  inside : Inside d b
  decodes : ∀ param, Requested param b → (readRequest b).map Prod.snd = some param.query
  answers : ∀ param, Requested param b → ∀ stale, Answers d param (d.matchDescRes stale b)

/-- The lists the counts announce lie in the data area, and so does what is allocated for them. -/
def Covered (b : Buf) : Prop :=
  let size := (inCountOf b + outCountOf b) * 2
  b.dataOffset + (6 + 2 * inCountOf b) < ioBufSize ∧
    (b.len + b.dataOffset + size % 2 ^ 8 ≤ ioBufSize →
      size < 2 ^ 8 ∧ b.dataOffset + 7 + size ≤ ioBufSize)

/-- There is room for the clusters of a request at the tail. -/
def Roomy (param : Param) (b : Buf) : Prop :=
  b.len + b.dataOffset + param.clusters * 2 ≤ ioBufSize

/-! ## The insertion -/

theorem shiftUp_eq {index : ℕ} (n : ℕ) (a : ℕ → UInt8) :
    shiftUp index n a = memmove a (index + 1) index (n - index) := by
  induction n generalizing a with
  | zero =>
    funext i
    rw [shiftUp, memmove, if_neg (by omega)]
  | succ n ih =>
    rw [shiftUp]
    by_cases below : index < n + 1
    · rw [if_pos below, ih]
      funext i
      simp only [memmove]
      by_cases last : i = n + 1
      · subst last
        rw [if_neg (by omega), if_pos (by omega), Function.update_self]
        congr 1
        omega
      · by_cases moved : index + 1 ≤ i ∧ i < index + 1 + (n - index)
        · rw [if_pos moved, if_pos (by omega), Function.update_of_ne (by omega)]
        · rw [if_neg moved, if_neg (by omega), Function.update_of_ne last]
    · have empty : n + 1 - index = 0 := by omega
      rw [if_neg below, empty]
      funext i
      rw [memmove, if_neg (by omega)]

namespace EpList

variable {l : EpList} {endpoint : UInt8} {members : UInt8 → Prop}

/-- The list holds exactly the members, in ascending order and without duplicates. -/
def Lists (l : EpList) (members : UInt8 → Prop) : Prop :=
  SortedIndex UInt8.toNat members l.toList

/-- An endpoint would go behind all the others, and the slot there holds it already. -/
def Mistaken (l : EpList) (members : UInt8 → Prop) (endpoint : UInt8) : Prop :=
  (∀ x, members x → x < endpoint) ∧ l.cells l.num = endpoint

theorem index_spec (l : EpList) (endpoint : UInt8) :
    l.index endpoint ≤ l.num ∧ (∀ i < l.index endpoint, l.cells i < endpoint) ∧
      (l.index endpoint < l.num → endpoint ≤ l.cells (l.index endpoint)) := by
  rw [index]
  cases first : (List.range l.num).find? fun i => decide (endpoint ≤ l.cells i) with
  | none =>
    rw [List.find?_range_eq_none] at first
    refine ⟨Nat.le_refl _, fun i inside => ?_, fun inside => absurd inside (Nat.lt_irrefl _)⟩
    have larger := first i inside
    rw [Bool.not_eq_true', decide_eq_false_iff_not] at larger
    exact UInt8.not_le.mp larger
  | some index =>
    rw [List.find?_range_eq_some] at first
    obtain ⟨here, inside, before⟩ := first
    refine ⟨Nat.le_of_lt (List.mem_range.mp inside), fun i earlier => ?_,
      fun _ => of_decide_eq_true here⟩
    have larger := before i earlier
    rw [Bool.not_eq_true', decide_eq_false_iff_not] at larger
    exact UInt8.not_le.mp larger

/-- An insertion adds the endpoint, unless it takes it for one that is listed. -/
theorem Lists.add (lists : l.Lists members) (endpoint : UInt8) :
    (l.add endpoint).Lists fun x =>
      members x ∨ x = endpoint ∧ ¬l.Mistaken members endpoint := by
  obtain ⟨le, below, above⟩ := l.index_spec endpoint
  have listed : ∀ {i}, i < l.num → members (l.cells i) := fun {i} inside =>
    (lists.exact _).mp (mem_live.mpr ⟨i, inside, rfl⟩)
  have member : ∀ x, members x → ∃ i < l.num, l.cells i = x := fun x mem =>
    mem_live.mp ((lists.exact x).mpr mem)
  rw [EpList.add]
  by_cases same : l.cells (l.index endpoint) = endpoint
  · rw [if_neg (not_not.mpr same)]
    refine lists.congr (fun x => ?_) fun _ _ => rfl
    rw [or_iff_left_iff_imp]
    rintro ⟨rfl, fresh⟩
    rcases Nat.lt_or_eq_of_le le with inside | behind
    · exact same ▸ listed inside
    · refine absurd ⟨fun x mem => ?_, behind ▸ same⟩ fresh
      obtain ⟨i, inside, rfl⟩ := member x mem
      exact below i (behind ▸ inside)
  · rw [if_pos same]
    have larger : ∀ {i}, l.index endpoint ≤ i → i < l.num → endpoint < l.cells i := by
      intro i behind inside
      have here : endpoint < l.cells (l.index endpoint) :=
        UInt8.lt_of_le_of_ne (above (Nat.lt_of_le_of_lt behind inside)) (Ne.symm same)
      rcases Nat.eq_or_lt_of_le behind with rfl | behind
      · exact here
      · exact Nat.lt_of_lt_of_le here (live_pairwise_iff.mp lists.ordered _ _ behind inside)
    have fresh : ¬members endpoint := by
      intro mem
      obtain ⟨i, inside, here⟩ := member _ mem
      rcases Nat.lt_or_ge i (l.index endpoint) with before | behind
      · exact absurd (here ▸ below i before) (UInt8.lt_irrefl _)
      · exact absurd (here ▸ larger behind inside) (UInt8.lt_irrefl _)
    have unmistaken : ¬l.Mistaken members endpoint := by
      rintro ⟨smaller, behind⟩
      rcases Nat.lt_or_eq_of_le le with inside | last
      · have other := smaller _ (listed inside)
        exact absurd (Nat.lt_trans other (larger (Nat.le_refl _) inside)) (Nat.lt_irrefl _)
      · exact same (last ▸ behind)
    have moved : live (Function.update (shiftUp (l.index endpoint) l.num l.cells) (l.index endpoint)
        endpoint) (l.num + 1) = l.toList.insertIdx (l.index endpoint) endpoint := by
      rw [shiftUp_eq]
      exact live_memmove_up endpoint le
    have inserted : SortedIndex UInt8.toNat (fun x => members x ∨ x = endpoint)
        (l.toList.insertIdx (l.index endpoint) endpoint) := by
      refine SortedIndex.insertIdx lists fresh ?_ ?_ ?_
      · rwa [toList, live_length]
      · intro x earlier
        rw [toList, live_take le] at earlier
        obtain ⟨i, before, rfl⟩ := mem_live.mp earlier
        exact Nat.le_of_lt (below i before)
      · intro x later
        obtain ⟨i, behind, inside, rfl⟩ := mem_live_drop later
        exact Nat.le_of_lt (larger behind inside)
    rw [Lists, toList, moved]
    refine inserted.congr (fun x => ?_) fun _ _ => rfl
    rw [and_iff_left unmistaken]

/-- The slots behind the list are not written. -/
theorem add_behind (l : EpList) (endpoint : UInt8) {i : ℕ} (behind : (l.add endpoint).num ≤ i) :
    (l.add endpoint).cells i = l.cells i := by
  obtain ⟨le, -, -⟩ := l.index_spec endpoint
  rw [add] at behind ⊢
  split at behind
  · rename_i new
    dsimp only at behind
    rw [if_pos new]
    dsimp only
    rw [Function.update_of_ne (by omega), shiftUp_eq, memmove, if_neg (by omega)]
  · rename_i old
    rw [if_neg old]

theorem add_num (l : EpList) (endpoint : UInt8) :
    l.num ≤ (l.add endpoint).num ∧ (l.add endpoint).num ≤ l.num + 1 := by
  rw [add]
  split
  · exact ⟨Nat.le_succ _, Nat.le_refl _⟩
  · exact ⟨Nat.le_refl _, Nat.le_succ _⟩

/-! ## One insertion after the other -/

def addAll (stale : ℕ → UInt8) (eps : List UInt8) : EpList := eps.foldl add ⟨stale, 0⟩

variable {stale : ℕ → UInt8} {eps : List UInt8}

theorem addAll_append (stale : ℕ → UInt8) (eps : List UInt8) (endpoint : UInt8) :
    addAll stale (eps ++ [endpoint]) = (addAll stale eps).add endpoint := by
  rw [addAll, List.foldl_append]
  rfl

/-- Behind the list there is what the stack held. -/
theorem addAll_behind {i : ℕ} (behind : (addAll stale eps).num ≤ i) :
    (addAll stale eps).cells i = stale i := by
  induction eps using List.reverseRecOn with
  | nil => rfl
  | append_singleton eps endpoint ih =>
    rw [addAll_append] at behind ⊢
    rw [add_behind _ _ behind, ih (Nat.le_trans (add_num _ _).1 behind)]

theorem addAll_num (stale : ℕ → UInt8) (eps : List UInt8) :
    (addAll stale eps).num ≤ eps.length := by
  induction eps using List.reverseRecOn with
  | nil => exact Nat.le_refl _
  | append_singleton eps endpoint ih =>
    rw [addAll_append, List.length_append, List.length_singleton]
    exact Nat.le_trans (add_num _ _).2 (Nat.succ_le_succ ih)

theorem addAll_lists (stale : ℕ → UInt8) (eps : List UInt8) :
    (addAll stale eps).Lists (· ∈ (addAll stale eps).toList) := by
  induction eps using List.reverseRecOn with
  | nil => exact ⟨List.nodup_nil, List.Pairwise.nil, fun _ => Iff.rfl⟩
  | append_singleton eps endpoint ih =>
    rw [addAll_append]
    have added := ih.add endpoint
    exact ⟨added.nodup, added.ordered, fun _ => Iff.rfl⟩

theorem mem_addAll_append {x endpoint : UInt8} :
    x ∈ (addAll stale (eps ++ [endpoint])).toList ↔ x ∈ (addAll stale eps).toList ∨
      x = endpoint ∧ ¬(addAll stale eps).Mistaken (· ∈ (addAll stale eps).toList) endpoint := by
  rw [addAll_append]
  exact ((addAll_lists stale eps).add endpoint).exact x

theorem addAll_subset {x : UInt8} (listed : x ∈ (addAll stale eps).toList) : x ∈ eps := by
  induction eps using List.reverseRecOn with
  | nil => exact listed
  | append_singleton eps endpoint ih =>
    rw [List.mem_append, List.mem_singleton]
    exact (mem_addAll_append.mp listed).imp ih And.left

/-- A list of all the endpoints is as long as there are different ones. -/
theorem Lists.num_eq {l : EpList} (lists : l.Lists (· ∈ eps)) : l.num = eps.dedup.length := by
  have same : l.toList.Perm eps.dedup := by
    rw [List.perm_ext_iff_of_nodup lists.nodup eps.nodup_dedup]
    exact fun x => (lists.exact x).trans List.mem_dedup.symm
  rw [← same.length_eq, toList, live_length]

/-- No endpoint is mistaken for one that is listed, if all those before it are. -/
def Unmistaken (stale : ℕ → UInt8) (eps : List UInt8) : Prop :=
  ∀ front endpoint rest, eps = front ++ endpoint :: rest → (∀ x ∈ front, x < endpoint) →
    stale front.dedup.length ≠ endpoint

theorem unmistaken_append {endpoint : UInt8} : Unmistaken stale (eps ++ [endpoint]) ↔
    Unmistaken stale eps ∧
      ((∀ x ∈ eps, x < endpoint) → stale eps.dedup.length ≠ endpoint) := by
  constructor
  · intro unmistaken
    refine ⟨fun front other rest same => unmistaken front other (rest ++ [endpoint]) ?_,
      unmistaken eps endpoint [] rfl⟩
    rw [same, List.append_assoc, List.cons_append]
  · rintro ⟨earlier, last⟩ front other rest same
    rcases List.eq_nil_or_concat rest with rfl | ⟨rest, final, rfl⟩
    · obtain ⟨rfl, final⟩ := List.append_inj' same rfl
      cases final
      exact last
    · rw [List.concat_eq_append, ← List.cons_append, ← List.append_assoc] at same
      obtain ⟨rfl, -⟩ := List.append_inj' same rfl
      exact earlier front other rest rfl

theorem mistaken_iff {endpoint : UInt8} (lists : (addAll stale eps).Lists (· ∈ eps)) :
    (addAll stale eps).Mistaken (· ∈ (addAll stale eps).toList) endpoint ↔
      (∀ x ∈ eps, x < endpoint) ∧ stale eps.dedup.length = endpoint := by
  rw [Mistaken, addAll_behind (Nat.le_refl _), lists.num_eq]
  refine and_congr_left' (forall_congr' fun x => ?_)
  rw [lists.exact]

/-- Where none is mistaken all the endpoints are listed. -/
theorem Unmistaken.lists (unmistaken : Unmistaken stale eps) :
    (addAll stale eps).Lists (· ∈ eps) := by
  induction eps using List.reverseRecOn with
  | nil => exact addAll_lists stale []
  | append_singleton eps endpoint ih =>
    obtain ⟨earlier, last⟩ := unmistaken_append.mp unmistaken
    have lists := ih earlier
    have fresh : ¬(addAll stale eps).Mistaken (· ∈ (addAll stale eps).toList) endpoint := by
      rw [mistaken_iff lists]
      exact fun mistaken => last mistaken.1 mistaken.2
    refine (addAll_lists stale _).congr (fun x => ?_) fun _ _ => rfl
    rw [mem_addAll_append, and_iff_left fresh, lists.exact, List.mem_append, List.mem_singleton]

/-- Where the endpoints differ and all of them are listed none was mistaken. -/
theorem unmistaken_of_lists (nodup : eps.Nodup) (lists : (addAll stale eps).Lists (· ∈ eps)) :
    Unmistaken stale eps := by
  induction eps using List.reverseRecOn with
  | nil =>
    intro front endpoint rest same
    exact absurd same.symm (by simp)
  | append_singleton eps endpoint ih =>
    obtain ⟨earlier, new⟩ : eps.Nodup ∧ endpoint ∉ eps := by
      rw [List.nodup_append_comm, List.singleton_append, List.nodup_cons] at nodup
      exact nodup.symm
    have all : ∀ x, x ∈ eps ∨ x = endpoint → x ∈ (addAll stale eps).toList ∨ x = endpoint ∧
        ¬(addAll stale eps).Mistaken (· ∈ (addAll stale eps).toList) endpoint := by
      intro x mem
      rw [← mem_addAll_append]
      exact (lists.exact x).mpr (List.mem_append.mpr (mem.imp_right List.mem_singleton.mpr))
    have listed : (addAll stale eps).Lists (· ∈ eps) := by
      refine (addAll_lists stale eps).congr (fun x => ⟨fun mem => ?_, addAll_subset⟩) fun _ _ => rfl
      exact (all x (Or.inl mem)).resolve_right fun last => new (last.1 ▸ mem)
    rw [unmistaken_append]
    refine ⟨ih earlier listed, fun smaller behind => ?_⟩
    rcases all endpoint (Or.inr rfl) with mem | ⟨-, fresh⟩
    · exact new (addAll_subset mem)
    · exact fresh ((mistaken_iff listed).mpr ⟨smaller, behind⟩)

/-- Where every slot holds the greatest endpoint, that one is never listed. -/
theorem greatest_not_listed {greatest : UInt8} (bound : ∀ x ∈ eps, x ≤ greatest) :
    greatest ∉ (addAll (fun _ => greatest) eps).toList := by
  induction eps using List.reverseRecOn with
  | nil => exact List.not_mem_nil
  | append_singleton eps endpoint ih =>
    have earlier := ih fun x mem => bound x (List.mem_append_left _ mem)
    rw [mem_addAll_append]
    rintro (mem | ⟨rfl, fresh⟩)
    · exact earlier mem
    · refine fresh ⟨fun x mem => ?_, addAll_behind (Nat.le_refl _)⟩
      have le := bound x (List.mem_append_left _ (addAll_subset mem))
      exact UInt8.lt_of_le_of_ne le fun same => earlier (same ▸ mem)

end EpList

/-! ## The accesses -/

variable {d : Device} {b : Buf} {param : Param} {stale : ℕ → UInt8}

theorem slots_lt (l : EpList) (eps : List UInt8) :
    ∀ slot ∈ slots l eps, slot < l.num + eps.length := by
  induction eps generalizing l with
  | nil =>
    intro slot member
    cases member
  | cons endpoint rest ih =>
    intro slot member
    rw [List.length_cons]
    rcases List.mem_cons.mp member with rfl | member
    · omega
    · have more := (l.add_num endpoint).2
      have bound := ih _ slot member
      omega

theorem search_eq (d : Device) (stale : ℕ → UInt8) (q : Query) :
    d.search stale q = EpList.addAll stale (d.endpoints q) := by
  rw [Device.search, Device.endpoints]
  split
  · rw [EpList.addAll, List.foldl_map, List.foldl_filter]
  · rfl

theorem length_endpoints (d : Device) (q : Query) : (d.endpoints q).length ≤ d.maxEp := by
  rw [Device.endpoints]
  split
  · rw [List.length_map]
    exact Nat.le_trans (List.length_filter_le _ _) d.length_le
  · exact Nat.zero_le _

theorem search_num (d : Device) (stale : ℕ → UInt8) (q : Query) :
    (d.search stale q).num ≤ maxEndpointNumber := by
  rw [search_eq]
  exact Nat.le_trans (EpList.addAll_num _ _) (Nat.le_trans (length_endpoints d q) d.maxEp_le)

/-- The accesses stay inside just when the counts do. -/
theorem inside_iff (d : Device) (b : Buf) : Inside d b ↔ Covered b := by
  have response : ∀ (stale : ℕ → UInt8) (c : Buf) q span,
      span ∈ ((c.initialAlloc ((4 + (d.search stale q).num) % 2 ^ 8)).elim [] fun (_, resp) =>
        [⟨resp.first, 4 + (d.search stale q).num⟩] : List Span) → span.Inside := by
    intro stale c q span member
    have whole : (4 + (d.search stale q).num) % 2 ^ 8 = 4 + (d.search stale q).num := by
      have bound := search_num d stale q
      rw [maxEndpointNumber] at bound
      exact Nat.mod_eq_of_lt (by omega)
    rw [whole] at member
    cases done : c.initialAlloc (4 + (d.search stale q).num) with
    | none =>
      rw [done] at member
      cases member
    | some result =>
      obtain ⟨r, resp⟩ := result
      obtain ⟨fits, rfl, len⟩ := Buf.initialAlloc_spec done
      rw [done, Option.elim_some, List.mem_singleton] at member
      subst member
      rwa [Span.Inside, ← len]
  rw [Covered]
  constructor
  · intro inside
    have octets := inside.octets fun _ => 0
    rw [Device.accesses] at octets
    constructor
    · exact octets ⟨b.dataOffset + (6 + 2 * inCountOf b), 1⟩
        (List.mem_append_left _ (List.mem_cons_of_mem _ List.mem_cons_self))
    · intro room
      have tail : b.getBufTail ((inCountOf b + outCountOf b) * 2 % 2 ^ 8) =
          some ⟨ioBufSize - (inCountOf b + outCountOf b) * 2 % 2 ^ 8, _⟩ := if_pos room
      simp only [tail, Option.elim_some] at octets
      have read := octets ⟨b.dataOffset + 7 + 2 * inCountOf b, 2 * outCountOf b⟩ (by simp)
      have written := octets ⟨ioBufSize - (inCountOf b + outCountOf b) * 2 % 2 ^ 8 +
        2 * inCountOf b, 2 * outCountOf b⟩ (by simp)
      simp only [Span.Inside] at read written
      omega
  · rintro ⟨counts, lists⟩
    refine ⟨fun stale span member => ?_, fun stale c q _ slot member => ?_⟩
    · simp only [Device.accesses, List.mem_append] at member
      rcases member with member | member | member
      · simp only [List.mem_cons, List.not_mem_nil, or_false] at member
        rcases member with rfl | rfl
        · simp only [Span.Inside]
          omega
        · exact counts
      · by_cases room : b.len + b.dataOffset + (inCountOf b + outCountOf b) * 2 % 2 ^ 8 ≤ ioBufSize
        · obtain ⟨small, behind⟩ := lists room
          rw [Nat.mod_eq_of_lt small] at member room
          rw [Buf.getBufTail, if_pos room, Option.elim_some] at member
          simp only [List.mem_cons, List.not_mem_nil, or_false] at member
          simp only [Span.Inside]
          rcases member with rfl | rfl | rfl | rfl <;> dsimp only <;> omega
        · rw [Buf.getBufTail, if_neg room] at member
          cases member
      · cases read : readRequest b with
        | none =>
          rw [read] at member
          cases member
        | some result =>
          rw [read, Option.elim_some] at member
          exact response stale _ _ span member
    · have bound := slots_lt ⟨stale, 0⟩ (d.endpoints q) slot member
      have length := length_endpoints d q
      dsimp only at bound
      omega

/-! ## The request -/

theorem length_request (param : Param) : param.request.length = 6 + param.clusters * 2 := by
  have front : param.front.length = 4 := rfl
  simp only [Param.request, List.length_append, length_octets, List.length_singleton, front,
    Param.clusters]
  omega

/-- The parameters in memory, part by part. -/
theorem holds_param {p : Octets} {i : ℕ} : Holds p i param.memory ↔ Holds p i param.front ∧
    p (i + 4) = param.inputCount ∧ p (i + 5) = param.outputCount ∧
    Holds p (i + 6) (octets param.inputs) ∧
    Holds p (i + 6 + 2 * param.inputs.length) (octets param.outputs) := by
  have front : param.front.length = 4 := rfl
  rw [Param.memory, holds_append, holds_append, holds_append, holds_append, front,
    List.length_singleton, length_octets, List.length_singleton, holds_singleton, holds_singleton]

/-- The request, part by part. -/
theorem holds_request {p : Octets} {i : ℕ} : Holds p i param.request ↔ Holds p i param.front ∧
    p (i + 4) = param.inputCount ∧ Holds p (i + 5) (octets param.inputs) ∧
    p (i + 5 + 2 * param.inputs.length) = param.outputCount ∧
    Holds p (i + 6 + 2 * param.inputs.length) (octets param.outputs) := by
  have front : param.front.length = 4 := rfl
  have behind : i + 5 + 2 * param.inputs.length + 1 = i + 6 + 2 * param.inputs.length := by omega
  rw [Param.request, holds_append, holds_append, holds_append, holds_append, front,
    List.length_singleton, length_octets, List.length_singleton, behind, holds_singleton,
    holds_singleton]

theorem length_memory (param : Param) : param.memory.length + 2 = param.size := by
  have front : param.front.length = 4 := rfl
  simp only [Param.memory, List.length_append, length_octets, List.length_singleton, front,
    Param.size, Param.clusters]
  omega

/-- The parameters at the tail, part by part, written out one after the other before them. -/
theorem request_written {a : Octets} {tail req : ℕ} (holds : Holds a tail param.memory)
    (apart : req + param.request.length ≤ tail) :
    let a₁ := memcpy a req (segment a tail 2)
    let a₂ := memcpy a₁ (req + 2) (segment a₁ (tail + 2) 2)
    let a₃ := memcpy a₂ (req + 4) [a₂ (tail + 4)]
    let a₄ := moveWords (tail + 6) (req + 5) param.inputs.length a₃
    let a₅ := memcpy a₄ (req + 5 + 2 * param.inputs.length) [a₄ (tail + 5)]
    moveWords (tail + 6 + 2 * param.inputs.length) (req + 6 + 2 * param.inputs.length)
      param.outputs.length a₅ = memcpy a req param.request := by
  obtain ⟨front, four, five, inputs, outputs⟩ := holds_param.mp holds
  rw [length_request, Param.clusters] at apart
  have four' : segment a (tail + 4) 1 = [param.inputCount] := congrArg (fun octet => [octet]) four
  have five' : segment a (tail + 5) 1 = [param.outputCount] := congrArg (fun octet => [octet]) five
  have inputs' : segment a (tail + 6) (2 * param.inputs.length) = octets param.inputs :=
    (length_octets param.inputs) ▸ inputs
  have outputs' : segment a (tail + 6 + 2 * param.inputs.length) (2 * param.outputs.length) =
      octets param.outputs :=
    (length_octets param.outputs) ▸ outputs
  have front' : segment a tail 2 ++ segment a (tail + 2) 2 = param.front :=
    (segment_add tail 2 2).symm.trans front
  have frontLength : param.front.length = 4 := rfl
  intro a₁ a₂ a₃ a₄ a₅
  have two : a₂ = memcpy a req param.front := by
    rw [← front']
    exact memcpy_segment (segment a tail 2) (Or.inr (by rw [segment_length]; omega))
  have three : a₃ = memcpy a req (param.front ++ [param.inputCount]) := by
    rw [← four', ← memcpy_segment param.front (Or.inr (by omega)), ← two]
    rfl
  have four : a₄ = memcpy a req (param.front ++ [param.inputCount] ++ octets param.inputs) := by
    have length : (param.front ++ [param.inputCount]).length = 5 := rfl
    rw [← inputs', ← memcpy_segment (param.front ++ [param.inputCount]) (Or.inr (by omega)), ← three]
    exact moveWords_eq (Or.inr (by omega))
  have length : (param.front ++ [param.inputCount] ++ octets param.inputs).length =
      5 + 2 * param.inputs.length := by
    rw [List.length_append, length_octets]
    rfl
  have five : a₅ = memcpy a req
      (param.front ++ [param.inputCount] ++ octets param.inputs ++ [param.outputCount]) := by
    rw [← five', ← memcpy_segment (param.front ++ [param.inputCount] ++ octets param.inputs)
      (Or.inr (by omega)), ← four, length, ← Nat.add_assoc]
    rfl
  have length' : (param.front ++ [param.inputCount] ++ octets param.inputs ++
      [param.outputCount]).length = 6 + 2 * param.inputs.length := by
    rw [List.length_append, length, List.length_singleton]
    omega
  have whole : param.request = param.front ++ [param.inputCount] ++ octets param.inputs ++
      [param.outputCount] ++ octets param.outputs := by
    simp only [Param.request, List.append_assoc]
  rw [whole, ← outputs', ← memcpy_segment (param.front ++ [param.inputCount] ++
    octets param.inputs ++ [param.outputCount]) (Or.inr (by omega)), ← five, length',
    ← Nat.add_assoc]
  exact moveWords_eq (Or.inr (by omega))

/-- A request that fits in a buffer, with its parameters at the tail, is built as it should be. -/
theorem matchDescReq_spec {r : Buf} (prepared : param.Prepared b) (done : matchDescReq b = some r) :
    param.clusters ≤ 20 ∧ r.payload = param.request := by
  obtain ⟨small, len, offset, holds⟩ := prepared
  have inLength : param.inputCount.toNat = param.inputs.length := toNat_count param.inputs_lt
  have outLength : param.outputCount.toNat = param.outputs.length := toNat_count param.outputs_lt
  obtain ⟨-, four, five, -, -⟩ := holds_param.mp holds
  have whole : (8 + (param.inputs.length + param.outputs.length) * 2) = param.size := rfl
  have modulo : param.size % 2 ^ 8 = param.size := by
    rw [ioBufSize] at small
    exact Nat.mod_eq_of_lt (by omega)
  rw [matchDescReq] at done
  simp only [four, five, inLength, outLength, whole, modulo, Option.bind_eq_bind] at done
  by_cases room : b.len + b.dataOffset + param.size ≤ ioBufSize
  · rw [Buf.getBufTail, if_pos room] at done
    have few : param.clusters ≤ 20 := by
      rw [Param.size, ioBufSize] at *
      omega
    have tail : ioBufSize - param.size = 140 - 2 * param.clusters := by
      rw [Param.size, ioBufSize]
      omega
    simp only [Option.bind_some, tail] at done
    generalize copy_ : memcpy b.buf (140 - 2 * param.clusters)
      (segment b.buf b.dataOffset param.size) = a at done
    have copy : Holds a (140 - 2 * param.clusters) param.memory := by
      have all := segment_memcpy (a := b.buf) (140 - 2 * param.clusters)
        (segment b.buf b.dataOffset param.size)
      have shorter : param.memory.length ≤ param.size := by
        rw [← length_memory]
        exact Nat.le_add_right _ _
      rw [copy_, segment_length] at all
      rw [Holds, ← segment_take shorter, all, segment_take shorter]
      exact holds
    obtain ⟨-, inCount, outCount, -, -⟩ := holds_param.mp copy
    have size : 5 + param.inputs.length * 2 + 1 + param.outputs.length * 2 =
        6 + param.clusters * 2 := by
      rw [Param.clusters]
      omega
    have modulo' : (6 + param.clusters * 2) % 2 ^ 8 = 6 + param.clusters * 2 :=
      Nat.mod_eq_of_lt (by omega)
    have fits : 6 + param.clusters * 2 < ioBufSize := by
      rw [ioBufSize]
      omega
    have req : (ioBufSize - (6 + param.clusters * 2)) / 2 = 71 - param.clusters := by
      rw [ioBufSize]
      omega
    simp only [inCount, outCount, inLength, outLength, size, modulo', Buf.initialAlloc, if_pos fits,
      Option.bind_some, req] at done
    have apart : 71 - param.clusters + param.request.length ≤ 140 - 2 * param.clusters := by
      rw [length_request]
      omega
    rw [request_written copy apart] at done
    cases done
    refine ⟨few, ?_⟩
    rw [Buf.payload, ← length_request]
    exact segment_memcpy _ _
  · rw [Buf.getBufTail, if_neg room] at done
    cases done

/-! ## The answer -/

/-- The server reads a request as it was asked, where there is room for its clusters. -/
theorem readRequest_spec {tsn : UInt8} (few : param.clusters ≤ 20)
    (asked : b.payload = tsn :: param.request) :
    b.len = 7 + param.clusters * 2 ∧
      (Roomy param b → ∃ c, readRequest b = some (c, param.query)) ∧
        (readRequest b ≠ none → Roomy param b) := by
  have cells : segment b.buf b.dataOffset b.len = [tsn] ++ param.request := asked
  obtain ⟨len, -, holds⟩ := segment_eq_append cells
  obtain ⟨front, inCount, inputs, outCount, outputs⟩ := holds_request.mp holds
  rw [length_request, List.length_singleton] at len
  obtain ⟨nwkAddr, profileId⟩ := holds_append.mp front
  have inLength : inCountOf b = param.inputs.length := by
    have here : b.buf (b.dataOffset + 5) = param.inputCount := inCount
    rw [inCountOf, here, Param.inputCount, toNat_count param.inputs_lt]
  have outLength : outCountOf b = param.outputs.length := by
    have place : b.dataOffset + (6 + 2 * param.inputs.length) =
        b.dataOffset + [tsn].length + 5 + 2 * param.inputs.length := by
      rw [List.length_singleton]
      omega
    rw [outCountOf, inLength, place, outCount, Param.outputCount, toNat_count param.outputs_lt]
  have whole : (param.inputs.length + param.outputs.length) * 2 = param.clusters * 2 := rfl
  have modulo : param.clusters * 2 % 2 ^ 8 = param.clusters * 2 := Nat.mod_eq_of_lt (by omega)
  rw [readRequest]
  simp only [inLength, outLength, whole, modulo, Option.bind_eq_bind, Roomy]
  refine ⟨by omega, fun roomy => ?_, fun read => ?_⟩
  · rw [Buf.getBufTail, if_pos roomy, Option.bind_some]
    rw [len] at roomy
    dsimp only
    generalize tail_ : ioBufSize - param.clusters * 2 = tail
    have apart : b.dataOffset + 7 + param.clusters * 2 ≤ tail := by omega
    rw [Param.clusters] at apart
    have inputs' : segment b.buf (b.dataOffset + 6) (2 * param.inputs.length) =
        octets param.inputs :=
      (length_octets param.inputs) ▸ inputs
    have first : moveWords (b.dataOffset + 6) tail param.inputs.length b.buf =
        memcpy b.buf tail (octets param.inputs) := by
      rw [← inputs']
      exact moveWords_eq (Or.inl (by omega))
    have outputs' : segment (memcpy b.buf tail (octets param.inputs))
        (b.dataOffset + 7 + 2 * param.inputs.length) (2 * param.outputs.length) =
          octets param.outputs := by
      rw [segment_memcpy_before _ (by omega), ← length_octets param.outputs]
      exact outputs
    have second : moveWords (b.dataOffset + 7 + 2 * param.inputs.length)
        (tail + 2 * param.inputs.length) param.outputs.length
          (memcpy b.buf tail (octets param.inputs)) =
        memcpy (memcpy b.buf tail (octets param.inputs)) (tail + 2 * param.inputs.length)
          (octets param.outputs) := by
      rw [← outputs']
      exact moveWords_eq (Or.inl (by omega))
    rw [first, second]
    refine ⟨_, congrArg some (Prod.ext rfl ?_)⟩
    dsimp only [Param.query]
    congr 1
    · exact holds_shortOctets nwkAddr
    · exact holds_shortOctets profileId
    · refine readClusters_holds ((holds_apart (Or.inl ?_)).mpr (holds_memcpy _))
      rw [length_octets]
    · exact readClusters_holds (holds_memcpy _)
  · by_contra small
    rw [Buf.getBufTail, if_neg small] at read
    exact read rfl

theorem found_iff {desc : Desc} : found param.query desc = true ↔ Matches param desc := by
  simp only [found, Param.query, Matches, Bool.and_eq_true, Bool.or_eq_true, beq_iff_eq,
    List.any_eq_true, exists_eq_right']

/-- The endpoints that match, for a request to the device. -/
theorem mem_endpoints {endpoint : UInt8} (mine : d.asked param.query = true) :
    endpoint ∈ d.endpoints param.query ↔
      ∃ desc ∈ d.simpleDescList, Matches param desc ∧ desc.endpoint = endpoint := by
  rw [Device.endpoints, if_pos mine, List.mem_map]
  refine exists_congr fun desc => ?_
  rw [List.mem_filter, found_iff, and_assoc]

/-- What is sent where the request was read. -/
theorem matchDescRes_read (d : Device) (stale : ℕ → UInt8) {c : Buf} {q : Query}
    (read : readRequest b = some (c, q)) :
    (4 + (d.search stale q).num < ioBufSize → ∃ r, d.matchDescRes stale b = some r ∧
      r.payload = [if (d.search stale q).num = 0 then zdpNoDescriptor else zdpSuccess] ++
        (shortOctets q.nwkAddr ++ ([UInt8.ofNat (d.search stale q).num] ++
          (d.search stale q).toList))) ∧
      (d.matchDescRes stale b ≠ none → 4 + (d.search stale q).num < ioBufSize) := by
  have whole : (4 + (d.search stale q).num) % 2 ^ 8 = 4 + (d.search stale q).num := by
    have bound := search_num d stale q
    rw [maxEndpointNumber] at bound
    exact Nat.mod_eq_of_lt (by omega)
  rw [Device.matchDescRes, read]
  simp only [Option.bind_eq_bind, Option.bind_some, whole, Buf.initialAlloc]
  constructor
  · intro fits
    rw [if_pos fits]
    refine ⟨_, rfl, ?_⟩
    dsimp only [Buf.payload]
    generalize body_ : [if (d.search stale q).num = 0 then zdpNoDescriptor else zdpSuccess] ++
      (shortOctets q.nwkAddr ++ ([UInt8.ofNat (d.search stale q).num] ++
        (d.search stale q).toList)) = body
    have length : 4 + (d.search stale q).num = body.length := by
      rw [← body_]
      simp only [List.length_append, EpList.toList, live_length, shortOctets, List.length_cons,
        List.length_nil]
      omega
    rw [length]
    exact segment_memcpy _ _
  · intro sent
    by_contra long
    rw [if_neg long] at sent
    exact sent rfl

/-- The answer is right just when the list of endpoints is, and there is room for it. -/
theorem answers_iff {c : Buf} (read : readRequest b = some (c, param.query)) :
    Answers d param (d.matchDescRes stale b) ↔
      (d.search stale param.query).Lists (fun endpoint =>
        ∃ desc ∈ d.simpleDescList, Matches param desc ∧ desc.endpoint = endpoint) ∧
      4 + (d.search stale param.query).num < ioBufSize := by
  obtain ⟨sent, fits⟩ := matchDescRes_read d stale read
  constructor
  · rintro ⟨r, eps, done, sorted, payload⟩
    have room := fits (done ▸ Option.some_ne_none r)
    obtain ⟨r', done', payload'⟩ := sent room
    cases done.symm.trans done'
    have same : eps = (d.search stale param.query).toList :=
      congrArg (List.drop 4) (payload.symm.trans payload')
    rw [same] at sorted
    exact ⟨sorted, room⟩
  · rintro ⟨lists, room⟩
    obtain ⟨r, done, payload⟩ := sent room
    refine ⟨r, (d.search stale param.query).toList, done, lists, ?_⟩
    have empty : (d.search stale param.query).toList = [] ↔
        (d.search stale param.query).num = 0 := by
      rw [← List.length_eq_zero_iff, EpList.toList, live_length]
    have length : (d.search stale param.query).toList.length = (d.search stale param.query).num :=
      live_length _ _
    rw [payload, length]
    simp only [empty]
    rfl

/-- A request that the device reads is answered right when no matching endpoint is taken for one that
is listed, and there is room for them; where they differ, just then. -/
theorem answers_of_unmistaken {c : Buf} (read : readRequest b = some (c, param.query))
    (mine : d.asked param.query = true) :
    (EpList.Unmistaken stale (d.endpoints param.query) ∧
        4 + (d.endpoints param.query).dedup.length < ioBufSize →
      Answers d param (d.matchDescRes stale b)) ∧
    ((d.endpoints param.query).Nodup → Answers d param (d.matchDescRes stale b) →
      EpList.Unmistaken stale (d.endpoints param.query) ∧
        4 + (d.endpoints param.query).dedup.length < ioBufSize) := by
  have same : ∀ endpoint, endpoint ∈ d.endpoints param.query ↔
      ∃ desc ∈ d.simpleDescList, Matches param desc ∧ desc.endpoint = endpoint := fun _ =>
    mem_endpoints mine
  simp only [answers_iff read, search_eq, ← same]
  constructor
  · rintro ⟨unmistaken, room⟩
    have lists := unmistaken.lists
    exact ⟨lists, lists.num_eq ▸ room⟩
  · rintro nodup ⟨lists, room⟩
    exact ⟨EpList.unmistaken_of_lists nodup lists, lists.num_eq ▸ room⟩

theorem matches_of_mem_endpoints {endpoint : UInt8}
    (mem : endpoint ∈ d.endpoints param.query) :
    ∃ desc ∈ d.simpleDescList, Matches param desc ∧ desc.endpoint = endpoint := by
  by_cases mine : d.asked param.query = true
  · exact (mem_endpoints mine).mp mem
  · rw [Device.endpoints, if_neg mine] at mem
    cases mem

/-- Whatever the stack holds, the answer is right just when no descriptor matches. -/
theorem answers_always_iff {c : Buf} (read : readRequest b = some (c, param.query)) :
    (∀ stale, Answers d param (d.matchDescRes stale b)) ↔
      ∀ desc ∈ d.simpleDescList, ¬Matches param desc := by
  simp only [answers_iff read, search_eq]
  constructor
  · intro right desc member matches_
    have listed : ∀ {desc}, desc ∈ d.simpleDescList → Matches param desc → ∀ stale,
        desc.endpoint ∈ (EpList.addAll stale (d.endpoints param.query)).toList :=
      fun {desc} member matches_ stale =>
        ((right stale).1.exact _).mpr ⟨desc, member, matches_, rfl⟩
    -- every slot holds the greatest endpoint that matches
    have some_ : (d.endpoints param.query).toFinset.Nonempty :=
      ⟨desc.endpoint, List.mem_toFinset.mpr
        (EpList.addAll_subset (listed member matches_ fun _ => 0))⟩
    obtain ⟨greatest, mem, bound⟩ := Finset.exists_max_image _ UInt8.toNat some_
    obtain ⟨other, member', matches', rfl⟩ := matches_of_mem_endpoints (List.mem_toFinset.mp mem)
    exact EpList.greatest_not_listed (fun x mem => bound x (List.mem_toFinset.mpr mem))
      (listed member' matches' _)
  · intro none_ stale
    have empty : d.endpoints param.query = [] := by
      rw [List.eq_nil_iff_forall_not_mem]
      intro endpoint mem
      obtain ⟨desc, member, matches_, -⟩ := matches_of_mem_endpoints mem
      exact none_ desc member matches_
    rw [empty]
    refine ⟨(EpList.addAll_lists stale []).congr (fun endpoint => ?_) fun _ _ => rfl,
      (by decide : 4 + 0 < ioBufSize)⟩
    refine iff_of_false ?_ List.not_mem_nil
    rintro ⟨desc, member, matches_, -⟩
    exact none_ desc member matches_

/-! ## Asked and answered -/

/-- The counts of the request lie in the data area with their lists, and a request of the client
finds room at the tail for its clusters and no descriptor that matches. -/
def Unmatched (d : Device) (b : Buf) : Prop :=
  Covered b ∧ ∀ param, Requested param b →
    Roomy param b ∧ ∀ desc ∈ d.simpleDescList, ¬Matches param desc

/-- The match descriptor request is served right, whatever the stack holds, just when it matches
nothing and its counts lie in the data area.  What the stack does hold decides about a request that
matches: no endpoint may be taken for one that is listed, and this is all where the endpoints
differ. -/
theorem match_desc_iff (d : Device) (b : Buf) :
    (Right d b ↔ Unmatched d b) ∧
      ∀ param stale, Requested param b → Roomy param b → d.asked param.query = true →
        (EpList.Unmistaken stale (d.endpoints param.query) ∧
            4 + (d.endpoints param.query).dedup.length < ioBufSize →
          Answers d param (d.matchDescRes stale b)) ∧
        ((d.endpoints param.query).Nodup → Answers d param (d.matchDescRes stale b) →
          EpList.Unmistaken stale (d.endpoints param.query) ∧
            4 + (d.endpoints param.query).dedup.length < ioBufSize) := by
  have spec : ∀ {param}, Requested param b →
      (Roomy param b → ∃ c, readRequest b = some (c, param.query)) ∧
        (readRequest b ≠ none → Roomy param b) := by
    rintro param ⟨prepared, r, tsn, given, done, payload⟩
    obtain ⟨few, built⟩ := matchDescReq_spec given done
    exact (readRequest_spec few (built ▸ payload)).2
  constructor
  · constructor
    · intro right
      refine ⟨(inside_iff d b).mp right.inside, fun param requested => ?_⟩
      obtain ⟨reads, needs⟩ := spec requested
      have roomy : Roomy param b := by
        apply needs
        intro none_
        have decoded := right.decodes param requested
        rw [none_] at decoded
        cases decoded
      obtain ⟨c, read⟩ := reads roomy
      exact ⟨roomy, (answers_always_iff read).mp (right.answers param requested)⟩
    · rintro ⟨covered, unmatched⟩
      refine ⟨(inside_iff d b).mpr covered, fun param requested => ?_, fun param requested => ?_⟩
      all_goals
        obtain ⟨roomy, none_⟩ := unmatched param requested
        obtain ⟨c, read⟩ := (spec requested).1 roomy
      · rw [read]
        rfl
      · exact (answers_always_iff read).mpr none_
  · intro param stale requested roomy mine
    obtain ⟨c, read⟩ := (spec requested).1 roomy
    exact answers_of_unmistaken read mine

/-- A device with one descriptor, and a request for one of its clusters. -/
def lampDevice : Device where
  shortAddress := 0x1234
  maxEp := 1
  simpleDescList := [lamp]
  maxEp_le := by decide
  length_le := by decide

def lampParam : Param where
  nwkAddr := 0x1234
  profileId := 0x104
  inputs := [6]
  outputs := []
  inputs_lt := by decide
  outputs_lt := by decide

def lampAsked : Buf := ⟨9, 20, fun i => Octets.ofList (1 :: lampParam.request) (i - 20)⟩

theorem requested_lamp : Requested lampParam lampAsked := by
  refine ⟨⟨10, 69, fun i => Octets.ofList lampParam.memory (i - 69)⟩,
    (matchDescReq ⟨10, 69, fun i => Octets.ofList lampParam.memory (i - 69)⟩).get (by decide), 1,
    ⟨by decide, rfl, rfl, rfl⟩, (Option.some_get _).symm, by decide +kernel⟩

/-- The slot of the stack holds the endpoint that matches, so it is taken for one that is listed. -/
theorem stale_slot_hides_endpoint :
    Requested lampParam lampAsked ∧ Matches lampParam lamp ∧
      (lampDevice.matchDescRes (fun _ => 5) lampAsked).map Buf.payload =
        some ([zdpNoDescriptor] ++ (shortOctets 0x1234 ++ [0])) ∧ ¬Right lampDevice lampAsked := by
  have answer : (lampDevice.matchDescRes (fun _ => 5) lampAsked).map Buf.payload =
      some ([zdpNoDescriptor] ++ (shortOctets 0x1234 ++ [0])) := by
    decide +kernel
  have matches_ : Matches lampParam lamp := by
    refine ⟨rfl, Or.inl ⟨6, ?_, ?_⟩⟩ <;> decide
  refine ⟨requested_lamp, matches_, answer, fun right => ?_⟩
  obtain ⟨r, eps, done, sorted, payload⟩ := right.answers lampParam requested_lamp fun _ => 5
  rw [done, Option.map_some, Option.some.injEq, payload] at answer
  have empty : eps = [] := congrArg (List.drop 4) answer
  have listed : (5 : UInt8) ∈ eps :=
    (sorted.exact _).mpr ⟨lamp, List.mem_singleton_self _, matches_, rfl⟩
  rw [empty] at listed
  cases listed

end Zboss.MatchDesc
