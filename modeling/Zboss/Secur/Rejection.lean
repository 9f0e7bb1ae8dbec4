import Zboss.Aps.Header
import Zboss.Common.AddressSettled
import Zboss.Nwk.Forwarding
import Zboss.Secur.DataIndication

/-!
Frames that fail authentication.  On the way to the check of a frame NWK and APS write the
broadcast table, the address table with its duplicate records, and the neighbour entry of the
sender; a frame that is rejected leaves there what was written.  Callbacks of one frame run before
the next frame; whatever follows a frame that is not rejected is one of the other steps.
-/

namespace Zboss.Rejection

open Zboss.Aps (apsHdrParse)
open Zboss.AddressTable
open Zboss.DataIndication (Config RxFrame apsFrame broadcastSupported indicated nwkFrame)
open Zboss.DynamicTables (NwkBtr nwkBtrTableSize findBroadcast noteBroadcast)
open Zboss.FrameHeaders Zboss.KeyStore Zboss.Run Zboss.SlotTable
open Zboss.Unsecure (ApsFrame Decrypts NeighborSecur NwkFrame)

/-! ## The receiving device -/

/-- What a rejected frame is to leave alone: the address table with the duplicate records in it,
the neighbour entries by address ref, and the broadcast transaction table. -/
@[ext] structure Tables where
  addr : AddrGlobals
  neighbors : ℕ → Option NeighborSecur
  btt : Table NwkBtr nwkBtrTableSize

/-- The tables with the keys, the room in the neighbour table, and whether the timer of the
duplicate records runs. -/
structure Device where
  tables : Tables
  keys : KeyState
  baseNeighborUsed : ℕ
  baseNeighborSize : ℕ
  dupsAlarmRunning : Bool

/-- What a frame meets besides: whether it is a broadcast that this device retransmits, values of
variables that are read uninitialised, the keys a trust centre makes, and what NWK decryption leaves
in the buffer. -/
structure Env where
  retransmitted : Bool
  junk : IeeeAddrCompressed
  junkRef : ℕ
  random : Key
  nwkPlain : Octets

/-- The layer that unsecured the frame. -/
inductive Layer
  | nwk
  | aps
  deriving DecidableEq, Repr

/-- What becomes of a frame: it is dropped before the check, rejected by it, or goes on. -/
inductive Verdict
  | dropped
  | rejected (layer : Layer)
  | passed
  deriving DecidableEq, Repr

namespace Device

def setAddr (d : Device) (addr : AddrGlobals) : Device :=
  { d with tables := { d.tables with addr } }

/-- The keys and the neighbour entries. -/
def secur (d : Device) : Unsecure.Device := ⟨d.keys, d.tables.neighbors⟩

def setSecur (d : Device) (s : Unsecure.Device) : Device :=
  { d with tables := { d.tables with neighbors := s.neighbors }, keys := s.keys }

/-- `zb_nwk_neighbor_get` has room for another entry. -/
def room (d : Device) : Bool := decide (d.baseNeighborUsed + 1 ≠ d.baseNeighborSize)

/-- `zb_nwk_neighbor_get` counts an entry that it creates, and locks its address. -/
def enter (d : Device) (ref : ℕ) (createIfAbsent : Bool) : Device :=
  if (d.tables.neighbors ref).isNone && createIfAbsent && d.room then
    { d.setAddr (addressLock d.tables.addr ref) with baseNeighborUsed := d.baseNeighborUsed + 1 }
  else d

/-! ### APS -/

def apsCheckDups (srcAddr : UInt16) (apsCounter : UInt8) (d : Device) : Device × Bool :=
  match addressByShort d.tables.addr srcAddr.toNat true false with
  | (addr, .ok ref) =>
    let ent := addr.addrMap ref
    ({ d.setAddr (addr.setEntry ref
          { ent with apsDupCounter := apsCounter.toNat, apsDupClock := 3 }) with
        dupsAlarmRunning := true },
      decide (ent.apsDupClock ≠ 0 ∧ ent.apsDupCounter = apsCounter.toNat))
  | (addr, .error _) => (d.setAddr addr, false)

def apsUnsecureFrame (decrypts : Decrypts) (frame : ApsFrame) (srcAddr : UInt16) (d : Device) :
    Device × Bool :=
  match addressByShort d.tables.addr srcAddr.toNat false false with
  | (addr, .ok ref) =>
    let d := d.setAddr addr
    let r := Unsecure.apsUnsecureFrame decrypts frame (some (ref, addressIeeeByRef addr ref)) d.room
      d.secur
    ((d.enter ref frame.nwkKey).setSecur r.device, r.ok)
  | (addr, .error _) => (d.setAddr addr, false)

/-- `zb_nlde_data_indication` and its continuation, with the NWK header cut. -/
def nldeDataIndication (decrypts : Decrypts) (config : Config) (srcAddr dstAddr : UInt16)
    (p : Octets) (len : ℕ) (d : Device) : Device × Verdict :=
  if apsFcGetFrameType (p 0) = apsFrameAck then (d, .passed)
  else
    let hdr := (apsHdrParse ⟨0, 0, 0, 0, 0, 0, 0, 0, 0⟩ srcAddr dstAddr p).1
    let (d, isDup) := d.apsCheckDups srcAddr hdr.apsCounter
    if isDup then (d, .dropped)
    else if config.apsFrameSecurity && apsFcGetSecurity hdr.fc then
      let (d, ok) := d.apsUnsecureFrame decrypts (apsFrame p len) srcAddr
      (d, if ok then .passed else .rejected .aps)
    else (d, .passed)

/-! ### NWK -/

/-- The address ref of the sender with the update of the address table; only a MAC source of 16
bits gives one. -/
def senderRef (frame : NwkFrame) (srcMode : UInt8) (env : Env) (addr : AddrGlobals) :
    AddrGlobals × Except RetError ℕ :=
  if srcMode = zbAddr16bitDevOrBroadcast then
    addressUpdate addr frame.sourceAddress frame.macSrcAddr.toNat false env.junk
  else (addr, .ok env.junkRef)

def nwkUnsecureFrame (decrypts : Decrypts) (frame : NwkFrame) (srcMode : UInt8) (env : Env)
    (d : Device) : Device × Bool :=
  if d.keys.authenticated then
    match senderRef frame srcMode env d.tables.addr with
    | (addr, .ok ref) =>
      let d := d.setAddr addr
      let r := Unsecure.nwkUnsecureFrame decrypts frame (some ref) d.room env.random d.secur
      ((d.enter ref (frame.nwkSrcAddr == frame.macSrcAddr)).setSecur r.device, r.ok)
    | (addr, .error _) => (d.setAddr addr, false)
  else (d, false)

/-- The neighbour that passed on a broadcast of this device is looked up. -/
def notePassiveAck (config : Config) (macSrcAddr : UInt16) (srcMode : UInt8) (env : Env)
    (d : Device) : Device :=
  if config.routerRole && !config.joinedPro && env.retransmitted &&
      srcMode == zbAddr16bitDevOrBroadcast then
    d.setAddr (addressByShort d.tables.addr macSrcAddr.toNat false false).1
  else d

/-- A received broadcast is recorded; false where it is dropped. -/
def recordBroadcast (config : Config) (macSrcAddr : UInt16) (srcMode : UInt8) (env : Env)
    (p : Octets) (d : Device) : Device × Bool :=
  if nwkIsAddressBroadcast (nwkDstAddr p) then
    if broadcastSupported config (nwkDstAddr p) then
      let d := d.notePassiveAck config macSrcAddr srcMode env
      if (findBroadcast d.tables.btt (nwkSrcAddr p) (p 7)).isSome then (d, false)
      else
        match noteBroadcast d.tables.btt (nwkSrcAddr p) (p 7) with
        | some btt => ({ d with tables := { d.tables with btt } }, true)
        | none => (d, false)
    else (d, false)
  else (d, true)

/-- The link quality of the sender is noted, which looks up its address; a frame for this device
goes to APS. -/
def deliver (decrypts : Decrypts) (config : Config) (p plain : Octets) (len : ℕ) (d : Device) :
    Device × Verdict :=
  let d := d.setAddr (addressByShort d.tables.addr (nwkSrcAddr p).toNat false false).1
  if indicated config p then
    d.nldeDataIndication decrypts config (nwkSrcAddr p) (nwkDstAddr p) (plain.cut (nwkHdrSize p))
      (len - nwkHdrSize p)
  else (d, .passed)

/-- `zb_mcps_data_indication` with the callbacks it schedules. -/
def mcpsDataIndication (decrypts : Decrypts) (config : Config) (frame : RxFrame) (env : Env)
    (d : Device) : Device × Verdict :=
  let mhr := parseMhr frame.octets
  let srcMode := fcfGetSrcAddressingMode frame.octets
  let p := frame.octets.cut mhr.size
  let len := frame.len - mhr.size
  if nwkRadius p != 0 && (nwkFramectlGetFrameType p == nwkFrameTypeCommand ||
      nwkFramectlGetFrameType p == nwkFrameTypeData) then
    match d.recordBroadcast config mhr.srcAddr srcMode env p with
    | (d, false) => (d, .dropped)
    | (d, true) =>
      if nwkFramectlGetSecurity p then
        match d.nwkUnsecureFrame decrypts (nwkFrame mhr p len) srcMode env with
        | (d, true) => d.deliver decrypts config p env.nwkPlain (len - Ccm.ccmM)
        | (d, false) => (d, .rejected .nwk)
      else d.deliver decrypts config p p len
  else (d, .dropped)

end Device

/-- A frame is received, or anything else changes the device. -/
inductive Event
  | frame (frame : RxFrame) (env : Env)
  | other (change : Device → Device)

def step (decrypts : Decrypts) (config : Config) (d : Device) : Event → Device
  | .frame frame env => (d.mcpsDataIndication decrypts config frame env).1
  | .other change => change d

/-- A frame that is rejected leaves the tables as they were. -/
def Unmoved (decrypts : Decrypts) (config : Config) (d : Device) : Event → Prop
  | .frame frame env => ∀ layer,
    (d.mcpsDataIndication decrypts config frame env).2 = .rejected layer →
    (d.mcpsDataIndication decrypts config frame env).1.tables = d.tables
  | .other _ => True

/-! ## The condition -/

/-- The address ref NWK goes on with when the addresses are settled. -/
def settledRef (d : Device) (frame : NwkFrame) (srcMode : UInt8) (env : Env) : Option ℕ :=
  if srcMode = zbAddr16bitDevOrBroadcast then
    (shortSearch d.tables.addr frame.macSrcAddr.toNat).or
      (ieeeSearch d.tables.addr
        (ieeeAddrCompress d.tables.addr frame.sourceAddress env.junk).2)
  else some env.junkRef

/-- The addresses in the frame are those in the address table. -/
def AddressSettled (d : Device) (frame : NwkFrame) (srcMode : UInt8) (env : Env) : Prop :=
  srcMode = zbAddr16bitDevOrBroadcast →
    Settled d.tables.addr frame.sourceAddress frame.macSrcAddr.toNat env.junk

/-- The entry holds what a frame that NWK rejects writes to it: it is not that of a child, its key
number is that of the frame, and the counter is not written, or again as it is. -/
def EntryStale (keys : KeyState) (frame : NwkFrame) (nbe : NeighborSecur) : Prop :=
  nbe.relationship ≠ .child ∧ nbe.keySeqNumber = frame.keySeqNumber ∧
    (slotBySeq frame.keySeqNumber keys = none ∨ frame.frameCounter ≤ nbe.incomingFrameCounter ∨
      nbe.incomingFrameCounter = ~~~0)

/-- The condition on a frame that NWK rejects: on an authenticated device the addresses are
settled, and the entry is there and holds what is written to it, or none is created. -/
def NwkRight (d : Device) (frame : NwkFrame) (srcMode : UInt8) (env : Env) : Prop :=
  d.keys.authenticated = true → AddressSettled d frame srcMode env ∧
    ∀ ref, settledRef d frame srcMode env = some ref →
      match d.tables.neighbors ref with
      | some nbe => EntryStale d.keys frame nbe
      | none => frame.nwkSrcAddr ≠ frame.macSrcAddr ∨ d.room = false

/-- The condition on a frame that NWK accepts and APS rejects, at NWK. -/
def AcceptedRight (d : Device) (frame : NwkFrame) (srcMode : UInt8) (env : Env) : Prop :=
  AddressSettled d frame srcMode env ∧
    ∀ ref, settledRef d frame srcMode env = some ref →
      ∃ nbe, d.tables.neighbors ref = some nbe ∧ nbe.relationship ≠ .unauthenticatedChild ∧
        nbe.keySeqNumber = frame.keySeqNumber ∧ nbe.incomingFrameCounter = frame.frameCounter

/-- The condition at APS: the source has no address entry, and gets none. -/
def ApsRight (d : Device) (srcAddr : UInt16) : Prop :=
  shortSearch d.tables.addr srcAddr.toNat = none ∧ freeSlot d.tables.addr none = none

/-- The condition on a frame, by the layer that rejects it. -/
def FrameRight (frame : RxFrame) (env : Env) (d : Device) : Verdict → Prop
  | .rejected layer =>
    let mhr := parseMhr frame.octets
    let p := frame.octets.cut mhr.size
    let secured := nwkFrame mhr p (frame.len - mhr.size)
    let srcMode := fcfGetSrcAddressingMode frame.octets
    nwkIsAddressBroadcast (nwkDstAddr p) = false ∧
      match layer with
      | .nwk => NwkRight d secured srcMode env
      | .aps => (nwkFramectlGetSecurity p = true → AcceptedRight d secured srcMode env) ∧
          ApsRight d (nwkSrcAddr p)
  | .dropped | .passed => True

def Harmless (decrypts : Decrypts) (config : Config) (d : Device) : Event → Prop
  | .frame frame env =>
    FrameRight frame env d (d.mcpsDataIndication decrypts config frame env).2
  | .other _ => True

/-! ## Entries -/

variable {decrypts : Decrypts} {config : Config} {d d' : Device} {frame : NwkFrame}
  {srcMode : UInt8} {env : Env} {nbe : NeighborSecur} {ref : ℕ} {room : Bool} {random : Key}

theorem doubted_relationship (q : UInt8) : (nbe.doubtChild.followKey q).relationship =
    if nbe.relationship = .child then .unauthenticatedChild else nbe.relationship := by
  rw [NeighborSecur.followKey, NeighborSecur.doubtChild]
  split <;> split <;> rfl

theorem doubted_relationship_eq_self {q : UInt8} :
    (nbe.doubtChild.followKey q).relationship = nbe.relationship ↔ nbe.relationship ≠ .child := by
  rw [doubted_relationship]
  split
  · rename_i child
    rw [child]
    exact iff_of_false nofun fun differs => differs rfl
  · rename_i other
    exact iff_of_true rfl other

theorem doubted_keySeqNumber (q : UInt8) : (nbe.doubtChild.followKey q).keySeqNumber = q := by
  rw [NeighborSecur.followKey]
  split
  · rfl
  · rename_i same
    exact not_not.mp same

theorem doubted_of {q : UInt8} (other : nbe.relationship ≠ .child) (key : nbe.keySeqNumber = q) :
    nbe.doubtChild.followKey q = nbe := by
  rw [NeighborSecur.doubtChild, if_neg other, NeighborSecur.followKey, if_neg (not_not.mpr key)]

theorem count_eq_some {counted : NeighborSecur} {frameCounter : UInt32} :
    nbe.count frameCounter = some counted ↔
      (nbe.incomingFrameCounter ≤ frameCounter ∧ nbe.incomingFrameCounter ≠ ~~~0) ∧
        counted = { nbe with incomingFrameCounter := frameCounter } := by
  rw [NeighborSecur.count]
  split
  · rename_i refused
    refine iff_of_false (Option.some_ne_none _).symm fun counts => ?_
    obtain late | last := refused
    · exact absurd counts.1.1 (UInt32.not_le.mpr late)
    · exact counts.1.2 last
  · rename_i counts
    rw [not_or, gt_iff_lt, UInt32.not_lt] at counts
    rw [and_iff_right counts, Option.some_inj]
    exact eq_comm

/-- What a frame that NWK rejects writes to the entry. -/
def RejectedWrites (keys : KeyState) (frame : NwkFrame) (nbe written : NeighborSecur) : Prop :=
  let doubted := nbe.doubtChild.followKey frame.keySeqNumber
  written = doubted ∧ (slotBySeq frame.keySeqNumber keys = none ∨
      doubted.count frame.frameCounter = none) ∨
    slotBySeq frame.keySeqNumber keys ≠ none ∧ doubted.count frame.frameCounter = some written

/-- That leaves the entry just when it is stale. -/
theorem RejectedWrites.eq_self {keys : KeyState} {written : NeighborSecur}
    (writes : RejectedWrites keys frame nbe written) :
    written = nbe ↔ EntryStale keys frame nbe := by
  constructor
  · intro same
    obtain ⟨rfl, refused⟩ | ⟨known, counts⟩ := writes
    · have other := doubted_relationship_eq_self.mp (congrArg NeighborSecur.relationship same)
      have key := (doubted_keySeqNumber _).symm.trans (congrArg NeighborSecur.keySeqNumber same)
      refine ⟨other, key.symm, refused.imp_right fun refused => ?_⟩
      rw [same, NeighborSecur.count] at refused
      split at refused
      · rename_i late
        exact late.imp_left UInt32.le_of_lt
      · cases refused
    · obtain ⟨-, rfl⟩ := count_eq_some.mp counts
      have relationship := congrArg NeighborSecur.relationship same
      have key := congrArg NeighborSecur.keySeqNumber same
      have counter := congrArg NeighborSecur.incomingFrameCounter same
      dsimp only at relationship key counter
      rw [doubted_keySeqNumber] at key
      exact ⟨doubted_relationship_eq_self.mp relationship, key.symm,
        .inr (.inl (UInt32.le_of_eq counter))⟩
  · rintro ⟨other, key, stale⟩
    have kept := doubted_of other key
    simp only [RejectedWrites, kept] at writes
    obtain ⟨rfl, -⟩ | ⟨known, counts⟩ := writes
    · rfl
    · obtain ⟨⟨early, notLast⟩, rfl⟩ := count_eq_some.mp counts
      have late := (stale.resolve_left known).resolve_right notLast
      rw [UInt32.le_antisymm late early]

/-- An accepted frame leaves the entry when it repeats the counter under the same number, and the
sender has shown its key before. -/
theorem trusted_eq_self {counted : NeighborSecur}
    (counts : (nbe.doubtChild.followKey frame.keySeqNumber).count frame.frameCounter =
      some counted) :
    counted.trustChild = nbe ↔ nbe.relationship ≠ .unauthenticatedChild ∧
      nbe.keySeqNumber = frame.keySeqNumber ∧ nbe.incomingFrameCounter = frame.frameCounter := by
  obtain ⟨-, rfl⟩ := count_eq_some.mp counts
  have written : NeighborSecur.trustChild
      { nbe.doubtChild.followKey frame.keySeqNumber with
        incomingFrameCounter := frame.frameCounter } =
      ⟨if nbe.relationship = .unauthenticatedChild then .child else nbe.relationship,
        frame.frameCounter, frame.keySeqNumber⟩ := by
    rw [NeighborSecur.trustChild]
    dsimp only
    rw [doubted_relationship, doubted_keySeqNumber]
    by_cases child : nbe.relationship = .child
    · simp [child]
    · by_cases unauthenticated : nbe.relationship = .unauthenticatedChild
      · simp [unauthenticated]
      · simp [child, unauthenticated]
  rw [written]
  obtain ⟨relationship, counter, keySeqNumber⟩ := nbe
  rw [NeighborSecur.mk.injEq]
  dsimp only
  constructor
  · rintro ⟨same, counter, key⟩
    refine ⟨fun unauthenticated => ?_, key.symm, counter.symm⟩
    rw [if_pos unauthenticated, unauthenticated] at same
    cases same
  · rintro ⟨authenticated, key, counter⟩
    exact ⟨if_neg authenticated, counter.symm, key.symm⟩

/-! ## NWK -/

section

variable {u : Unsecure.Device}

theorem update_eq_self {written : NeighborSecur} :
    (u.setNeighbor ref written).neighbors = u.neighbors ↔ u.neighbors ref = some written := by
  rw [Unsecure.Device.setNeighbor]
  exact Function.update_eq_self_iff.trans eq_comm

/-- A frame that gets to an entry writes it. -/
theorem unsecure_writes (decrypts : Decrypts) (random : Key)
    (authenticated : u.keys.authenticated = true)
    (got : Unsecure.neighborGet ref (frame.nwkSrcAddr == frame.macSrcAddr) room u = some nbe) :
    let r := Unsecure.nwkUnsecureFrame decrypts frame (some ref) room random u
    ∃ written, r.device.neighbors = (u.setNeighbor ref written).neighbors ∧
      (r.ok = false ∧ RejectedWrites u.keys frame nbe written ∨
        r.ok = true ∧ ∃ counted, (nbe.doubtChild.followKey frame.keySeqNumber).count
          frame.frameCounter = some counted ∧ written = counted.trustChild) := by
  cases found : slotBySeq frame.keySeqNumber u.keys with
  | none =>
    refine ⟨nbe.doubtChild.followKey frame.keySeqNumber, ?_⟩
    simp [Unsecure.nwkUnsecureFrame, authenticated, got, found, RejectedWrites]
  | some i =>
    cases counts : (nbe.doubtChild.followKey frame.keySeqNumber).count frame.frameCounter with
    | none =>
      refine ⟨nbe.doubtChild.followKey frame.keySeqNumber, ?_⟩
      simp [Unsecure.nwkUnsecureFrame, authenticated, got, found, counts, RejectedWrites]
    | some counted =>
      simp only [Unsecure.nwkUnsecureFrame, authenticated, got, found, counts, if_true]
      have refused : RejectedWrites u.keys frame nbe counted :=
        .inr ⟨by rw [found]; exact Option.some_ne_none _, counts⟩
      split_ifs
      · exact ⟨counted, rfl, .inl ⟨rfl, refused⟩⟩
      · exact ⟨counted.trustChild, rfl, .inr ⟨rfl, counted, rfl, rfl⟩⟩
      · exact ⟨counted, rfl, .inl ⟨rfl, refused⟩⟩

/-- A frame that gets to no entry is rejected. -/
theorem unsecure_dropped (decrypts : Decrypts) (random : Key)
    (got : Unsecure.neighborGet ref (frame.nwkSrcAddr == frame.macSrcAddr) room u = none) :
    Unsecure.nwkUnsecureFrame decrypts frame (some ref) room random u = ⟨u, none, false⟩ := by
  rw [Unsecure.nwkUnsecureFrame]
  split
  · rw [got]
  · rfl

/-- What a frame that NWK rejects does to the neighbour entries. -/
theorem unsecure_rejected_iff (authenticated : u.keys.authenticated = true)
    (rejected : (Unsecure.nwkUnsecureFrame decrypts frame (some ref) room random u).ok = false) :
    (Unsecure.nwkUnsecureFrame decrypts frame (some ref) room random u).device.neighbors =
        u.neighbors ↔
      match u.neighbors ref with
      | some nbe => EntryStale u.keys frame nbe
      | none => frame.nwkSrcAddr ≠ frame.macSrcAddr ∨ room = false := by
  cases here : u.neighbors ref with
  | none =>
    dsimp only
    by_cases created : frame.nwkSrcAddr = frame.macSrcAddr ∧ room = true
    · have got : Unsecure.neighborGet ref (frame.nwkSrcAddr == frame.macSrcAddr) room u =
          some NeighborSecur.created := by
        simp [Unsecure.neighborGet, here, created]
      obtain ⟨written, neighbors, -⟩ := unsecure_writes decrypts random authenticated got
      rw [neighbors, update_eq_self, here]
      refine iff_of_false (Option.some_ne_none _).symm fun absent => ?_
      obtain indirect | full := absent
      · exact indirect created.1
      · exact Bool.false_ne_true (full.symm.trans created.2)
    · have got : Unsecure.neighborGet ref (frame.nwkSrcAddr == frame.macSrcAddr) room u = none := by
        simpa [Unsecure.neighborGet, here] using created
      rw [unsecure_dropped decrypts random got]
      refine iff_of_true rfl ?_
      rwa [not_and_or, Bool.not_eq_true] at created
  | some nbe =>
    have got : Unsecure.neighborGet ref (frame.nwkSrcAddr == frame.macSrcAddr) room u =
        some nbe := by
      rw [Unsecure.neighborGet, here]
    obtain ⟨written, neighbors, ⟨-, writes⟩ | ⟨ok, -⟩⟩ :=
      unsecure_writes decrypts random authenticated got
    · rw [neighbors, update_eq_self, here, Option.some_inj]
      exact eq_comm.trans writes.eq_self
    · rw [rejected] at ok
      cases ok

/-- What a frame that NWK accepts does to them. -/
theorem unsecure_accepted_iff (authenticated : u.keys.authenticated = true)
    (accepted : (Unsecure.nwkUnsecureFrame decrypts frame (some ref) room random u).ok = true) :
    (Unsecure.nwkUnsecureFrame decrypts frame (some ref) room random u).device.neighbors =
        u.neighbors ↔
      ∃ nbe, u.neighbors ref = some nbe ∧ nbe.relationship ≠ .unauthenticatedChild ∧
        nbe.keySeqNumber = frame.keySeqNumber ∧ nbe.incomingFrameCounter = frame.frameCounter := by
  cases got : Unsecure.neighborGet ref (frame.nwkSrcAddr == frame.macSrcAddr) room u with
  | none =>
    rw [unsecure_dropped decrypts random got] at accepted
    cases accepted
  | some nbe =>
    obtain ⟨written, neighbors, ⟨ok, -⟩ | ⟨-, counted, counts, rfl⟩⟩ :=
      unsecure_writes decrypts random authenticated got
    · rw [accepted] at ok
      cases ok
    · rw [neighbors, update_eq_self]
      cases here : u.neighbors ref with
      | none => exact iff_of_false nofun fun ⟨_, absent, _⟩ => nomatch absent
      | some held =>
        rw [Unsecure.neighborGet, here] at got
        cases got
        rw [Option.some_inj, eq_comm, trusted_eq_self counts]
        constructor
        · exact fun right => ⟨nbe, rfl, right⟩
        · rintro ⟨_, ⟨⟩, right⟩
          exact right

end

theorem senderRef_eq_self :
    (Device.senderRef frame srcMode env d.tables.addr).1 = d.tables.addr ↔
      AddressSettled d frame srcMode env := by
  rw [Device.senderRef, AddressSettled]
  by_cases short : srcMode = zbAddr16bitDevOrBroadcast
  · rw [if_pos short, addressUpdate_eq_self]
    exact (imp_iff_right short).symm
  · rw [if_neg short]
    exact iff_of_true rfl fun same => absurd same short

theorem senderRef_of_settled (settled : AddressSettled d frame srcMode env) :
    (Device.senderRef frame srcMode env d.tables.addr).2.toOption =
      settledRef d frame srcMode env := by
  rw [Device.senderRef, settledRef]
  by_cases short : srcMode = zbAddr16bitDevOrBroadcast
  · rw [if_pos short, if_pos short]
    exact addressUpdate_ref_of_settled (settled short)
  · rw [if_neg short, if_neg short]
    rfl

/-- An entry that is not created needs no room. -/
theorem enter_of_not_created {create : Bool} (absent : d.tables.neighbors ref = none →
    create = false ∨ d.room = false) : d.enter ref create = d := by
  rw [Device.enter]
  split
  · rename_i created
    simp only [Bool.and_eq_true, Option.isNone_iff_eq_none] at created
    obtain ⟨⟨none_, create⟩, room⟩ := created
    obtain refused | full := absent none_
    · rw [refused] at create
      cases create
    · rw [full] at room
      cases room
  · rfl

theorem enter_neighbors {create : Bool} :
    (d.enter ref create).tables.neighbors = d.tables.neighbors ∧
      (d.enter ref create).tables.btt = d.tables.btt := by
  rw [Device.enter]
  split <;> exact ⟨rfl, rfl⟩

/-- The tables after an address update and a check against the entry: they are the same when both
left them. -/
theorem checked_tables_iff {addr : AddrGlobals} {s : Unsecure.Device} {create : Bool}
    {cond : Prop} (neighbors : s.neighbors = d.tables.neighbors ↔ cond)
    (absent : cond → d.tables.neighbors ref = none → create = false ∨ d.room = false) :
    (((d.setAddr addr).enter ref create).setSecur s).tables = d.tables ↔
      addr = d.tables.addr ∧ cond := by
  constructor
  · intro same
    have met := neighbors.mp (congrArg Tables.neighbors same)
    have stays : (d.setAddr addr).enter ref create = d.setAddr addr :=
      enter_of_not_created (absent met)
    rw [stays] at same
    exact ⟨congrArg Tables.addr same, met⟩
  · rintro ⟨rfl, met⟩
    have stays : (d.setAddr d.tables.addr).enter ref create = d :=
      enter_of_not_created (absent met)
    rw [stays, Device.setSecur, neighbors.mpr met]

/-- A condition on the entry of the sender, once its addresses are settled. -/
theorem settled_and_iff {addr : AddrGlobals} {cond : ℕ → Prop}
    (sender : Device.senderRef frame srcMode env d.tables.addr = (addr, .ok ref)) :
    addr = d.tables.addr ∧ cond ref ↔
      AddressSettled d frame srcMode env ∧
        ∀ r, settledRef d frame srcMode env = some r → cond r := by
  have addresses : (Device.senderRef frame srcMode env d.tables.addr).1 = d.tables.addr ↔
      AddressSettled d frame srcMode env := senderRef_eq_self
  rw [sender] at addresses
  rw [← addresses]
  refine and_congr_right fun same => ?_
  have entry := senderRef_of_settled (addresses.mp same)
  rw [sender] at entry
  rw [← entry]
  constructor
  · rintro met r ⟨⟩
    exact met
  · exact fun met => met ref rfl

/-- A frame that NWK rejects leaves the tables just when it is right. -/
theorem nwkUnsecureFrame_rejected_iff
    (rejected : (d.nwkUnsecureFrame decrypts frame srcMode env).2 = false) :
    (d.nwkUnsecureFrame decrypts frame srcMode env).1.tables = d.tables ↔
      NwkRight d frame srcMode env := by
  rw [Device.nwkUnsecureFrame] at rejected ⊢
  by_cases authenticated : d.keys.authenticated = true
  · rw [if_pos authenticated] at rejected ⊢
    rw [NwkRight, imp_iff_right authenticated]
    cases sender : Device.senderRef frame srcMode env d.tables.addr with
    | mk addr found =>
      cases found with
      | error e =>
        have addresses : addr = d.tables.addr ↔ AddressSettled d frame srcMode env := by
          rw [← senderRef_eq_self, sender]
        have whole : (d.setAddr addr).tables = d.tables ↔ addr = d.tables.addr :=
          ⟨congrArg Tables.addr, fun same => by rw [same]; rfl⟩
        dsimp only
        rw [whole, addresses]
        refine (and_iff_left_of_imp fun settled r held => ?_).symm
        have entry := senderRef_of_settled settled
        rw [sender, held] at entry
        cases entry
      | ok ref =>
        rw [sender] at rejected
        dsimp only at rejected ⊢
        rw [← settled_and_iff sender]
        refine checked_tables_iff (unsecure_rejected_iff authenticated rejected) ?_
        intro met none_
        simp only [none_] at met
        exact met.imp_left beq_eq_false_iff_ne.mpr
  · rw [if_neg authenticated]
    exact iff_of_true rfl fun met => absurd met authenticated

theorem nwkUnsecureFrame_accepted_iff
    (accepted : (d.nwkUnsecureFrame decrypts frame srcMode env).2 = true) :
    (d.nwkUnsecureFrame decrypts frame srcMode env).1.tables = d.tables ↔
      AcceptedRight d frame srcMode env := by
  rw [Device.nwkUnsecureFrame] at accepted ⊢
  by_cases authenticated : d.keys.authenticated = true
  · rw [if_pos authenticated] at accepted ⊢
    cases sender : Device.senderRef frame srcMode env d.tables.addr with
    | mk addr found =>
      rw [sender] at accepted
      cases found with
      | error e => cases accepted
      | ok ref =>
        dsimp only at accepted ⊢
        rw [AcceptedRight, ← settled_and_iff sender]
        refine checked_tables_iff (unsecure_accepted_iff authenticated accepted) ?_
        rintro ⟨nbe, held, -⟩ none_
        rw [none_] at held
        cases held
  · rw [if_neg authenticated] at accepted
    cases accepted

theorem dupRecord_enter {create : Bool} :
    dupRecord (d.enter ref create).tables.addr = dupRecord d.tables.addr := by
  rw [Device.enter]
  split
  · exact dupRecord_update rfl rfl rfl
  · rfl

/-- NWK leaves the duplicate records and the transaction table. -/
theorem nwkUnsecureFrame_frame (decrypts : Decrypts) (frame : NwkFrame) (srcMode : UInt8)
    (env : Env) (d : Device) :
    dupRecord (d.nwkUnsecureFrame decrypts frame srcMode env).1.tables.addr =
        dupRecord d.tables.addr ∧
      (d.nwkUnsecureFrame decrypts frame srcMode env).1.tables.btt = d.tables.btt := by
  have records : dupRecord (Device.senderRef frame srcMode env d.tables.addr).1 =
      dupRecord d.tables.addr := by
    rw [Device.senderRef]
    split
    · exact dupRecord_addressUpdate _ _ _ _ _
    · rfl
  rw [Device.nwkUnsecureFrame]
  split
  · cases sender : Device.senderRef frame srcMode env d.tables.addr with
    | mk addr found =>
      rw [sender] at records
      cases found with
      | error e => exact ⟨records, rfl⟩
      | ok ref => exact ⟨dupRecord_enter.trans records, enter_neighbors.2⟩
  · exact ⟨rfl, rfl⟩

/-! ## APS -/

variable {srcAddr dstAddr : UInt16} {apsCounter : UInt8}

/-- Without an entry for the source nothing is recorded. -/
theorem apsCheckDups_of_right (right : ApsRight d srcAddr) (apsCounter : UInt8) :
    d.apsCheckDups srcAddr apsCounter = (d, false) := by
  have absent : addressByShort d.tables.addr srcAddr.toNat true false =
      (d.tables.addr, .error .overflow) := by
    rw [addressByShort, lockResult_false, right.1]
    dsimp only
    rw [if_pos rfl, addrAdd, right.2]
  rw [Device.apsCheckDups, absent]
  rfl

theorem apsUnsecureFrame_of_right (right : ApsRight d srcAddr) (decrypts : Decrypts)
    (frame : ApsFrame) : d.apsUnsecureFrame decrypts frame srcAddr = (d, false) := by
  have absent : addressByShort d.tables.addr srcAddr.toNat false false =
      (d.tables.addr, .error .notFound) := by
    rw [addressByShort, lockResult_false, right.1]
    rfl
  rw [Device.apsUnsecureFrame, absent]
  rfl

/-- Otherwise a frame that is not a duplicate changes the record of its source. -/
theorem apsCheckDups_records (fresh : (d.apsCheckDups srcAddr apsCounter).2 = false)
    (wrong : ¬ ApsRight d srcAddr) :
    dupRecord (d.apsCheckDups srcAddr apsCounter).1.tables.addr ≠ dupRecord d.tables.addr := by
  have kept := dupRecord_addressByShort d.tables.addr srcAddr.toNat true false
  rw [Device.apsCheckDups] at fresh ⊢
  cases looked : addressByShort d.tables.addr srcAddr.toNat true false with
  | mk addr found =>
    rw [looked] at kept fresh
    cases found with
    | error e =>
      refine absurd ?_ wrong
      rw [addressByShort, lockResult_false] at looked
      cases search : shortSearch d.tables.addr srcAddr.toNat with
      | some ref =>
        rw [search] at looked
        cases looked
      | none =>
        rw [search] at looked
        dsimp only at looked
        rw [if_pos rfl, addrAdd] at looked
        refine ⟨search, ?_⟩
        cases free : freeSlot d.tables.addr none with
        | none => rfl
        | some i =>
          rw [free] at looked
          cases looked
    | ok ref =>
      dsimp only at fresh kept ⊢
      intro same
      rw [← kept] at same
      have record := congrFun same ref
      simp only [dupRecord, Device.setAddr, AddrGlobals.setEntry_addrMap, Function.update_self,
        Prod.mk.injEq] at record
      refine of_decide_eq_false fresh ⟨?_, record.1.symm⟩
      rw [← record.2]
      decide

theorem apsUnsecureFrame_frame (decrypts : Decrypts) (frame : ApsFrame) (srcAddr : UInt16)
    (d : Device) :
    dupRecord (d.apsUnsecureFrame decrypts frame srcAddr).1.tables.addr =
        dupRecord d.tables.addr ∧
      (d.apsUnsecureFrame decrypts frame srcAddr).1.tables.btt = d.tables.btt := by
  have kept := dupRecord_addressByShort d.tables.addr srcAddr.toNat false false
  rw [Device.apsUnsecureFrame]
  cases looked : addressByShort d.tables.addr srcAddr.toNat false false with
  | mk addr found =>
    rw [looked] at kept
    cases found with
    | error e => exact ⟨kept, rfl⟩
    | ok ref => exact ⟨dupRecord_enter.trans kept, enter_neighbors.2⟩

theorem apsCheckDups_btt (srcAddr : UInt16) (apsCounter : UInt8) (d : Device) :
    (d.apsCheckDups srcAddr apsCounter).1.tables.btt = d.tables.btt := by
  rw [Device.apsCheckDups]
  split <;> rfl

section

variable {p plain : Octets} {len : ℕ}

theorem nldeDataIndication_of_right (right : ApsRight d srcAddr) :
    (d.nldeDataIndication decrypts config srcAddr dstAddr p len).1 = d := by
  rw [Device.nldeDataIndication]
  split
  · rfl
  · dsimp only
    rw [apsCheckDups_of_right right]
    dsimp only
    rw [apsUnsecureFrame_of_right right, if_neg Bool.false_ne_true]
    split <;> rfl

theorem nldeDataIndication_records {layer : Layer}
    (rejected : (d.nldeDataIndication decrypts config srcAddr dstAddr p len).2 = .rejected layer)
    (wrong : ¬ ApsRight d srcAddr) :
    dupRecord (d.nldeDataIndication decrypts config srcAddr dstAddr p len).1.tables.addr ≠
      dupRecord d.tables.addr := by
  rw [Device.nldeDataIndication] at rejected ⊢
  split at rejected
  · cases rejected
  · rename_i other
    rw [if_neg other]
    dsimp only at rejected ⊢
    generalize (apsHdrParse _ srcAddr dstAddr p).1 = hdr at *
    have records (fresh : (d.apsCheckDups srcAddr hdr.apsCounter).2 = false)
        (wrong : ¬ ApsRight d srcAddr) := apsCheckDups_records fresh wrong
    generalize d.apsCheckDups srcAddr hdr.apsCounter = checked at *
    obtain ⟨d', isDup⟩ := checked
    cases isDup with
    | true => cases rejected
    | false =>
      dsimp only at rejected records ⊢
      rw [if_neg Bool.false_ne_true] at rejected ⊢
      split at rejected
      · rename_i secured
        rw [if_pos secured]
        dsimp only
        rw [(apsUnsecureFrame_frame ..).1]
        exact records rfl wrong
      · cases rejected

theorem nldeDataIndication_layer {layer : Layer}
    (rejected : (d.nldeDataIndication decrypts config srcAddr dstAddr p len).2 = .rejected layer) :
    layer = .aps := by
  rw [Device.nldeDataIndication] at rejected
  dsimp only at rejected
  split at rejected
  · cases rejected
  · split at rejected
    · cases rejected
    · split at rejected
      · dsimp only at rejected
        split at rejected
        · cases rejected
        · cases rejected
          rfl
      · cases rejected

theorem nldeDataIndication_btt :
    (d.nldeDataIndication decrypts config srcAddr dstAddr p len).1.tables.btt = d.tables.btt := by
  rw [Device.nldeDataIndication]
  split
  · rfl
  · dsimp only
    split
    · exact apsCheckDups_btt ..
    · split
      · exact (apsUnsecureFrame_frame ..).2.trans (apsCheckDups_btt ..)
      · exact apsCheckDups_btt ..

/-- A frame that APS rejects leaves the tables just when its source has and gets no entry. -/
theorem deliver_of_right (right : ApsRight d (nwkSrcAddr p)) :
    (d.deliver decrypts config p plain len).1 = d := by
  have absent : addressByShort d.tables.addr (nwkSrcAddr p).toNat false false =
      (d.tables.addr, .error .notFound) := by
    rw [addressByShort, lockResult_false, right.1]
    rfl
  rw [Device.deliver, absent]
  change (if indicated config p then Device.nldeDataIndication _ _ _ _ _ _ d else _).1 = d
  split
  · exact nldeDataIndication_of_right right
  · rfl

/-- Any other changes the record of the source. -/
theorem deliver_rejected {layer : Layer}
    (rejected : (d.deliver decrypts config p plain len).2 = .rejected layer) :
    layer = .aps ∧ (ApsRight d (nwkSrcAddr p) ∨
      dupRecord (d.deliver decrypts config p plain len).1.tables.addr ≠
        dupRecord d.tables.addr) := by
  have kept := dupRecord_addressByShort d.tables.addr (nwkSrcAddr p).toNat false false
  rw [Device.deliver] at rejected ⊢
  split at rejected
  · rename_i here
    rw [if_pos here]
    refine ⟨nldeDataIndication_layer rejected, ?_⟩
    by_cases right : ApsRight (d.setAddr
      (addressByShort d.tables.addr (nwkSrcAddr p).toNat false false).1) (nwkSrcAddr p)
    · left
      have same : (addressByShort d.tables.addr (nwkSrcAddr p).toNat false false).1 =
          d.tables.addr := by
        rw [addressByShort_eq_self]
        cases found : shortSearch d.tables.addr (nwkSrcAddr p).toNat with
        | none => exact nofun
        | some ref =>
          have absent := right.1
          rw [addressByShort, lockResult_false, found] at absent
          change shortSearch (touch d.tables.addr ref) _ = none at absent
          rw [shortSearch_touch, found] at absent
          cases absent
      rw [same] at right
      exact right
    · right
      rw [← kept]
      exact nldeDataIndication_records rejected right
  · cases rejected

theorem deliver_btt : (d.deliver decrypts config p plain len).1.tables.btt = d.tables.btt := by
  rw [Device.deliver]
  split
  · exact nldeDataIndication_btt
  · rfl

end

/-! ## Frames -/

theorem notePassiveAck_btt {macSrcAddr : UInt16} :
    (d.notePassiveAck config macSrcAddr srcMode env).tables.btt = d.tables.btt := by
  rw [Device.notePassiveAck]
  split <;> rfl

theorem recordBroadcast_cases {macSrcAddr : UInt16} {p : Octets}
    (goes : d.recordBroadcast config macSrcAddr srcMode env p = (d', true)) :
    nwkIsAddressBroadcast (nwkDstAddr p) = false ∧ d' = d ∨
      nwkIsAddressBroadcast (nwkDstAddr p) = true ∧ d'.tables.btt ≠ d.tables.btt := by
  rw [Device.recordBroadcast] at goes
  split at goes
  · rename_i broadcast
    refine .inr ⟨broadcast, ?_⟩
    split at goes
    · dsimp only at goes
      split at goes
      · cases goes
      · split at goes
        · rename_i btt noted
          cases goes
          obtain ⟨⟨i, taken⟩, got, rfl⟩ := Option.map_eq_some_iff.mp noted
          obtain ⟨-, -, rfl, -⟩ := Table.getEnt_spec got
          intro same
          have count : (d.notePassiveAck config macSrcAddr srcMode env).tables.btt.cnt + 1 =
              d.tables.btt.cnt := congrArg Table.cnt same
          rw [notePassiveAck_btt] at count
          exact absurd (add_eq_left.mp count) (by decide)
        · cases goes
    · cases goes
  · rename_i unicast
    cases goes
    exact .inl ⟨Bool.eq_false_of_not_eq_true unicast, rfl⟩

/-- Where a rejected frame has been. -/
theorem rejected_cases {frame : RxFrame} {layer : Layer}
    (rejected : (d.mcpsDataIndication decrypts config frame env).2 = .rejected layer) :
    let mhr := parseMhr frame.octets
    let p := frame.octets.cut mhr.size
    let len := frame.len - mhr.size
    let srcMode := fcfGetSrcAddressingMode frame.octets
    ∃ d', d.recordBroadcast config mhr.srcAddr srcMode env p = (d', true) ∧
      let unsecured := d'.nwkUnsecureFrame decrypts (nwkFrame mhr p len) srcMode env
      (nwkFramectlGetSecurity p = true ∧ unsecured.2 = false ∧ layer = .nwk ∧
          d.mcpsDataIndication decrypts config frame env = (unsecured.1, .rejected .nwk) ∨
        nwkFramectlGetSecurity p = true ∧ unsecured.2 = true ∧
          d.mcpsDataIndication decrypts config frame env =
            unsecured.1.deliver decrypts config p env.nwkPlain (len - Ccm.ccmM) ∨
        nwkFramectlGetSecurity p ≠ true ∧
          d.mcpsDataIndication decrypts config frame env =
            d'.deliver decrypts config p p len) := by
  rw [Device.mcpsDataIndication] at rejected ⊢
  dsimp only at rejected ⊢
  split at rejected
  · rename_i valid
    rw [if_pos valid]
    generalize recorded : d.recordBroadcast config _ _ env _ = record at *
    obtain ⟨d', goes⟩ := record
    cases goes with
    | false => cases rejected
    | true =>
      refine ⟨d', rfl, ?_⟩
      dsimp only at rejected ⊢
      by_cases secured :
          nwkFramectlGetSecurity (frame.octets.cut (parseMhr frame.octets).size) = true
      · rw [if_pos secured] at rejected ⊢
        generalize d'.nwkUnsecureFrame decrypts _ _ env = unsecured at *
        obtain ⟨d'', ok⟩ := unsecured
        cases ok with
        | false =>
          cases rejected
          exact .inl ⟨secured, rfl, rfl, rfl⟩
        | true => exact .inr (.inl ⟨secured, rfl, rfl⟩)
      · rw [if_neg secured]
        exact .inr (.inr ⟨secured, rfl⟩)
  · cases rejected

/-- What the frame of a device at APS comes to, with what NWK did before. -/
theorem deliver_tables_iff {p plain : Octets} {len : ℕ} {layer : Layer}
    (rejected : (d'.deliver decrypts config p plain len).2 = .rejected layer)
    (records : dupRecord d'.tables.addr = dupRecord d.tables.addr) :
    (d'.deliver decrypts config p plain len).1.tables = d.tables ↔
      d'.tables = d.tables ∧ ApsRight d (nwkSrcAddr p) := by
  constructor
  · intro same
    obtain right | changed := (deliver_rejected rejected).2
    · rw [deliver_of_right right] at same
      refine ⟨same, ?_⟩
      rw [ApsRight, ← same]
      exact right
    · rw [same, records] at changed
      exact absurd rfl changed
  · rintro ⟨same, right⟩
    have right' : ApsRight d' (nwkSrcAddr p) := by
      rw [ApsRight, same]
      exact right
    rw [deliver_of_right right', same]

/-- A frame that is rejected leaves the tables as they were just when it is right. -/
theorem unmoved_iff_harmless (decrypts : Decrypts) (config : Config) (d : Device) (e : Event) :
    Unmoved decrypts config d e ↔ Harmless decrypts config d e := by
  cases e with
  | other change => exact Iff.rfl
  | frame frame env =>
    dsimp only [Unmoved, Harmless]
    cases verdict : (d.mcpsDataIndication decrypts config frame env).2 with
    | dropped => exact iff_of_true nofun trivial
    | passed => exact iff_of_true nofun trivial
    | rejected layer =>
      have only : (∀ l, Verdict.rejected layer = .rejected l →
          (d.mcpsDataIndication decrypts config frame env).1.tables = d.tables) ↔
          (d.mcpsDataIndication decrypts config frame env).1.tables = d.tables :=
        ⟨fun all => all layer rfl, fun same _ _ => same⟩
      rw [only]
      obtain ⟨d', recorded, cases_⟩ := rejected_cases verdict
      dsimp only at cases_
      dsimp only [FrameRight]
      have frame_ := nwkUnsecureFrame_frame decrypts (nwkFrame (parseMhr frame.octets)
        (frame.octets.cut (parseMhr frame.octets).size) (frame.len - (parseMhr frame.octets).size))
        (fcfGetSrcAddressingMode frame.octets) env d'
      have btt : (d.mcpsDataIndication decrypts config frame env).1.tables.btt =
          d'.tables.btt := by
        obtain ⟨-, -, -, ended⟩ | ⟨-, -, ended⟩ | ⟨-, ended⟩ := cases_
        · rw [ended]
          exact frame_.2
        · rw [ended, deliver_btt]
          exact frame_.2
        · rw [ended, deliver_btt]
      obtain ⟨unicast, rfl⟩ | ⟨broadcast, changed⟩ := recordBroadcast_cases recorded
      · rw [and_iff_right unicast]
        obtain ⟨-, refused, rfl, ended⟩ | ⟨secured, accepted, ended⟩ | ⟨plain, ended⟩ := cases_
        · rw [ended]
          exact nwkUnsecureFrame_rejected_iff refused
        · rw [ended] at verdict ⊢
          obtain ⟨rfl, -⟩ := deliver_rejected verdict
          rw [deliver_tables_iff verdict frame_.1, nwkUnsecureFrame_accepted_iff accepted,
            imp_iff_right secured]
        · rw [ended] at verdict ⊢
          obtain ⟨rfl, -⟩ := deliver_rejected verdict
          rw [deliver_tables_iff verdict rfl, and_iff_right rfl]
          exact (and_iff_right fun secured => absurd secured plain).symm
      · refine iff_of_false (fun same => changed ?_) fun right => ?_
        · rw [← btt, same]
        · rw [broadcast] at right
          cases right.1

/-- In every run from every state, rejected frames change nothing just when each is harmless. -/
theorem rejections_change_nothing_iff (decrypts : Decrypts) (config : Config) (d : Device)
    (events : List Event) :
    Along (step decrypts config) (Unmoved decrypts config) d events ↔
      Along (step decrypts config) (Harmless decrypts config) d events := by
  have agree (d : Device) (e : Event) (_ : (fun _ : Device => True) d) :=
    unmoved_iff_harmless decrypts config d e
  exact along_iff_of_invariant agree (fun _ _ _ _ => trivial) d events trivial

/-! ## A forged frame -/

/-- A child of the device, which it knows with both addresses. -/
def childAddr : IeeeAddr := ⟨⟨1, 2, 3⟩, ⟨4, 5, 6, 7, 8⟩⟩

/-- A data frame of the child for another device, secured with key 0 under the counter. -/
def childFrame (frameCounter : List UInt8) : RxFrame :=
  let octets := [0x61, 0x88, 1, 0xaa, 0x1a, 0, 0, 0x34, 0x12] ++
    [0x08, 0x02, 0x99, 0x99, 0x34, 0x12, 5, 7] ++
    [0x28] ++ frameCounter ++ [1, 2, 3, 4, 5, 6, 7, 8] ++ [0] ++ [0, 0, 0, 0]
  ⟨Octets.ofList octets, octets.length⟩

/-- Nothing is retransmitted, and what is read uninitialised is zero. -/
def quiet : Env := ⟨false, .zero, 0, fun _ => 0, fun _ => 0⟩

def forged : Event := .frame (childFrame [0xff, 0xff, 0xff, 0xff]) quiet

/-- The device, a router, with the entry of the child. -/
def parent : Device :=
  let (addr, ref) := addressUpdate .zero childAddr 0x1234 true .zero
  { tables := {
      addr
      neighbors := Function.update (fun _ => none) (ref.toOption.getD 0) (some ⟨.child, 3, 0⟩)
      btt := Table.cleared ⟨0, 0, 0⟩ }
    keys := { initial none with authenticated := true }
    baseNeighborUsed := 1
    baseNeighborSize := 8
    dupsAlarmRunning := false }

def routerConfig : Config := ⟨false, true, false, true, 0, IeeeAddr.zero⟩

/-- Every message authentication code is right but that of the forged frame. -/
def genuine : Decrypts := fun _ nonce _ _ => nonce.frameCounter != 0xffffffff

/-- The forged frame is rejected, and after it a frame of the child is, which would have passed
before it. -/
theorem forged_frame_locks_out :
    (¬ ∀ decrypts config d events,
      Along (step decrypts config) (Unmoved decrypts config) d events) ∧
    let next := childFrame [4, 0, 0, 0]
    (parent.mcpsDataIndication genuine routerConfig next quiet).2 = .passed ∧
      ((step genuine routerConfig parent forged).mcpsDataIndication genuine routerConfig next
        quiet).2 = .rejected .nwk := by
  refine ⟨fun claim => ?_, by decide +kernel, by decide +kernel⟩
  have unmoved := (claim genuine routerConfig parent [forged]).1 .nwk (by decide +kernel)
  have entry := congrFun (congrArg Tables.neighbors unmoved)
    ((addressUpdate .zero childAddr 0x1234 true .zero).2.toOption.getD 0)
  exact absurd entry (by decide +kernel)

end Zboss.Rejection
