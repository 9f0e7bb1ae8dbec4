import Zboss.Aps.BindingLinks
import Zboss.Common.AddressIeee

/-!
Runs of bind and unbind requests against the set of links they ask for.  A link
names its devices by their IEEE addresses; the tables hold references, so the set a
pair of tables represents is read through the address table.
-/

namespace Zboss.Binding

open Zboss.AddressTable Zboss.Cells Zboss.Run

/-- The destination of a link. -/
inductive LinkDst
  | group (groupAddr : ℕ)
  | device (dstAddr : IeeeAddr) (dstEnd : ℕ)
  deriving DecidableEq

/-- The source of a link. -/
structure LinkSrc where
  srcAddr : IeeeAddr
  srcEnd : ℕ
  clusterId : ℕ
  deriving DecidableEq

/-- A source bound to a destination. -/
structure Link where
  src : LinkSrc
  dst : LinkDst
  deriving DecidableEq

/-- The source a record stands for. -/
def srcName (c : AddrGlobals) (src : BindSrc) : LinkSrc :=
  ⟨addressIeeeByRef c src.srcAddr, src.srcEnd, src.clusterId⟩

/-- The destination a record stands for. -/
def dstName (c : AddrGlobals) : BindDstAddr → LinkDst
  | .group groupAddr => .group groupAddr
  | .long ref dstEnd => .device (addressIeeeByRef c ref) dstEnd

/-- The links of the destination records in use. -/
def links (s : Tables) : List Link :=
  (dsts s.binding).map fun e =>
    ⟨srcName s.addr (s.binding.srcTable e.srcTableIndex), dstName s.addr e.addr⟩

/-- The source a request names. -/
def BindingReq.src (req : BindingReq) : LinkSrc := ⟨req.srcAddr, req.srcEndpoint, req.clusterid⟩

/-- The link a request names; an unknown address mode names none. -/
def BindingReq.link (req : BindingReq) : Option Link :=
  if req.addrMode = longMode then some ⟨req.src, .device req.dstAddrLong req.dstEndpoint⟩
  else if req.addrMode = groupMode then some ⟨req.src, .group req.dstAddrShort⟩
  else none

/-! ## Names -/

/-- The destination of a record is a group or a known device. -/
def DstKnown (c : AddrGlobals) : BindDstAddr → Prop
  | .group _ => True
  | .long ref _ => Known c ref

/-- The invariant of the two tables. -/
structure Inv (s : Tables) : Prop where
  sound : Sound s.binding
  unique : IeeeUnique s.addr
  known : ∀ src addr, Linked s.binding src addr →
    Known s.addr src.srcAddr ∧ DstKnown s.addr addr

variable {c d : AddrGlobals} {s : Tables}

theorem srcName_kept (kept : NamesKept c d) {src : BindSrc} (known : Known c src.srcAddr) :
    srcName d src = srcName c src := by
  rw [srcName, srcName, kept.same _ known]

theorem dstName_kept (kept : NamesKept c d) {addr : BindDstAddr} (known : DstKnown c addr) :
    DstKnown d addr ∧ dstName d addr = dstName c addr := by
  cases addr with
  | group groupAddr => exact ⟨trivial, rfl⟩
  | long ref dstEnd => exact ⟨kept.known ref known, by rw [dstName, dstName, kept.same ref known]⟩

theorem srcName_injective (unique : IeeeUnique c) {src src' : BindSrc}
    (known : Known c src.srcAddr) (known' : Known c src'.srcAddr)
    (same : srcName c src = srcName c src') : src = src' := by
  rw [srcName, srcName, LinkSrc.mk.injEq] at same
  obtain ⟨address, endpoint, cluster⟩ := same
  have ref := unique.ref_eq known known' address
  cases src
  cases src'
  simp_all

theorem dstName_injective (unique : IeeeUnique c) {addr addr' : BindDstAddr}
    (known : DstKnown c addr) (known' : DstKnown c addr')
    (same : dstName c addr = dstName c addr') : addr = addr' := by
  cases addr with
  | group groupAddr =>
    cases addr' with
    | group groupAddr' => rw [LinkDst.group.inj same]
    | long ref' dstEnd' => cases same
  | long ref dstEnd =>
    cases addr' with
    | group groupAddr' => cases same
    | long ref' dstEnd' =>
      obtain ⟨address, endpoint⟩ := LinkDst.device.inj same
      rw [unique.ref_eq known known' address, endpoint]

/-! ## The links of a table -/

theorem mem_links (sound : Sound s.binding) {l : Link} :
    l ∈ links s ↔ ∃ src addr, Linked s.binding src addr ∧
      (⟨srcName s.addr src, dstName s.addr addr⟩ : Link) = l := by
  constructor
  · intro member
    obtain ⟨e, held, rfl⟩ := List.mem_map.mp member
    exact ⟨_, e.addr, ⟨e.srcTableIndex, sound.indexed e held, rfl, held⟩, rfl⟩
  · rintro ⟨src, addr, ⟨i, live, rfl, held⟩, rfl⟩
    exact List.mem_map.mpr ⟨_, held, rfl⟩

/-- A known record is linked exactly when the link it stands for is there. -/
theorem Inv.linked_iff (inv : Inv s) {src : BindSrc} {addr : BindDstAddr}
    (srcKnown : Known s.addr src.srcAddr) (dstKnown : DstKnown s.addr addr) :
    Linked s.binding src addr ↔
      (⟨srcName s.addr src, dstName s.addr addr⟩ : Link) ∈ links s := by
  rw [mem_links inv.sound]
  constructor
  · intro linked
    exact ⟨src, addr, linked, rfl⟩
  · rintro ⟨src', addr', linked, same⟩
    obtain ⟨srcKnown', dstKnown'⟩ := inv.known src' addr' linked
    rw [Link.mk.injEq] at same
    rw [← srcName_injective inv.unique srcKnown' srcKnown same.1,
      ← dstName_injective inv.unique dstKnown' dstKnown same.2]
    exact linked

/-- No link has two records. -/
theorem Inv.links_nodup (inv : Inv s) : (links s).Nodup := by
  refine inv.sound.dstOnce.map_on fun e member f member' same => ?_
  have live := inv.sound.indexed e member
  have live' := inv.sound.indexed f member'
  obtain ⟨srcKnown, dstKnown⟩ := inv.known _ _ ⟨_, live, rfl, member⟩
  obtain ⟨srcKnown', dstKnown'⟩ := inv.known _ _ ⟨_, live', rfl, member'⟩
  rw [Link.mk.injEq] at same
  have index := inv.sound.src_eq live live'
    (srcName_injective inv.unique srcKnown srcKnown' same.1)
  have addr := dstName_injective inv.unique dstKnown dstKnown' same.2
  cases e
  cases f
  simp_all

/-- The source records are the sources of the links, each once. -/
theorem Inv.srcs_names (inv : Inv s) :
    ((srcs s.binding).map (srcName s.addr)).Nodup ∧
      ∀ src, src ∈ (srcs s.binding).map (srcName s.addr) ↔ ∃ l ∈ links s, l.src = src := by
  have known : ∀ i < s.binding.srcNElements, Known s.addr (s.binding.srcTable i).srcAddr := by
    intro i live
    obtain ⟨e, held, index⟩ := inv.sound.needed i live
    exact (inv.known _ e.addr ⟨i, live, rfl, index ▸ held⟩).1
  constructor
  · refine inv.sound.srcOnce.map_on fun a member b member' same => ?_
    obtain ⟨i, live, rfl⟩ := mem_live.mp member
    obtain ⟨j, live', rfl⟩ := mem_live.mp member'
    exact srcName_injective inv.unique (known i live) (known j live') same
  · intro src
    constructor
    · intro member
      obtain ⟨a, held, rfl⟩ := List.mem_map.mp member
      obtain ⟨i, live, rfl⟩ := mem_live.mp held
      obtain ⟨e, member, index⟩ := inv.sound.needed i live
      exact ⟨_, List.mem_map.mpr ⟨e, member, rfl⟩, by rw [index]⟩
    · rintro ⟨l, member, rfl⟩
      obtain ⟨e, held, rfl⟩ := List.mem_map.mp member
      exact List.mem_map.mpr ⟨_, mem_live.mpr ⟨_, inv.sound.indexed e held, rfl⟩, rfl⟩

/-- Lookups that keep the names change no link. -/
theorem Inv.renamed (inv : Inv s) (kept : NamesKept s.addr d) :
    Inv ⟨d, s.binding⟩ ∧ links ⟨d, s.binding⟩ = links s := by
  refine ⟨⟨inv.sound, kept.unique, fun src addr linked => ?_⟩, ?_⟩
  · obtain ⟨srcKnown, dstKnown⟩ := inv.known src addr linked
    exact ⟨kept.known _ srcKnown, (dstName_kept kept dstKnown).1⟩
  · refine List.map_congr_left fun e member => ?_
    obtain ⟨srcKnown, dstKnown⟩ :=
      inv.known _ _ ⟨_, inv.sound.indexed e member, rfl, member⟩
    rw [srcName_kept kept srcKnown, (dstName_kept kept dstKnown).2]

/-- Adding the record of a new link adds the link. -/
theorem Inv.addBinding (inv : Inv s) {src : BindSrc} {addr : BindDstAddr}
    (srcKnown : Known s.addr src.srcAddr) (dstKnown : DstKnown s.addr addr)
    (srcRoom : bindPlace s.binding src < srcBindingTableSize)
    (dstRoom : s.binding.dstNElements < dstBindingTableSize)
    (new : (⟨srcName s.addr src, dstName s.addr addr⟩ : Link) ∉ links s) :
    let s' : Tables := ⟨s.addr, addBinding s.binding src (bindPlace s.binding src) addr⟩
    Inv s' ∧ ∀ l, l ∈ links s' ↔ l = ⟨srcName s.addr src, dstName s.addr addr⟩ ∨ l ∈ links s := by
  have place := bindPlace_cases inv.sound src
  have linked := addBinding_linked inv.sound addr place
  have absent : ¬ Linked s.binding src addr :=
    fun isLinked => new ((inv.linked_iff srcKnown dstKnown).mp isLinked)
  have sound := addBinding_sound inv.sound place srcRoom dstRoom absent
  refine ⟨⟨sound, inv.unique, fun src' addr' isLinked => ?_⟩, fun l => ?_⟩
  · rcases (linked src' addr').mp isLinked with ⟨rfl, rfl⟩ | before
    · exact ⟨srcKnown, dstKnown⟩
    · exact inv.known src' addr' before
  · rw [mem_links sound, mem_links inv.sound]
    constructor
    · rintro ⟨src', addr', isLinked, rfl⟩
      rcases (linked src' addr').mp isLinked with ⟨rfl, rfl⟩ | before
      · exact .inl rfl
      · exact .inr ⟨src', addr', before, rfl⟩
    · rintro (rfl | ⟨src', addr', before, rfl⟩)
      · exact ⟨src, addr, (linked src addr).mpr (.inl ⟨rfl, rfl⟩), rfl⟩
      · exact ⟨src', addr', (linked src' addr').mpr (.inr before), rfl⟩

/-- Removing the record of a link removes that link. -/
theorem Inv.removeBinding (inv : Inv s) {i : ℕ} {addr : BindDstAddr}
    (live : i < s.binding.srcNElements) (held : ⟨addr, i⟩ ∈ dsts s.binding) :
    ∃ t, removeBinding s.binding i addr = some t ∧ Inv ⟨s.addr, t⟩ ∧
      ∀ l, l ∈ links ⟨s.addr, t⟩ ↔
        l ≠ ⟨srcName s.addr (s.binding.srcTable i), dstName s.addr addr⟩ ∧ l ∈ links s := by
  obtain ⟨t, removed, sound, linked⟩ := removeBinding_spec inv.sound live held
  obtain ⟨srcKnown, dstKnown⟩ := inv.known _ addr ⟨i, live, rfl, held⟩
  refine ⟨t, removed, ⟨sound, inv.unique, fun src' addr' isLinked => ?_⟩, fun l => ?_⟩
  · exact inv.known src' addr' ((linked src' addr').mp isLinked).1
  · rw [mem_links sound, mem_links inv.sound]
    constructor
    · rintro ⟨src', addr', isLinked, rfl⟩
      obtain ⟨before, other⟩ := (linked src' addr').mp isLinked
      refine ⟨fun equal => other ?_, src', addr', before, rfl⟩
      obtain ⟨srcKnown', dstKnown'⟩ := inv.known src' addr' before
      rw [Link.mk.injEq] at equal
      exact ⟨srcName_injective inv.unique srcKnown' srcKnown equal.1,
        dstName_injective inv.unique dstKnown' dstKnown equal.2⟩
    · rintro ⟨differs, src', addr', before, rfl⟩
      refine ⟨src', addr', (linked src' addr').mpr ⟨before, ?_⟩, rfl⟩
      rintro ⟨rfl, rfl⟩
      exact differs rfl

/-! ## Requests -/

/-- What looking up the destination of a request does. -/
structure DstLookedUp (c : AddrGlobals) (req : BindingReq)
    (result : AddrGlobals × Except Status BindDstAddr) : Prop where
  names : NamesKept c result.1
  stands : ∀ addr, result.2 = .ok addr →
    DstKnown result.1 addr ∧ req.link = some ⟨req.src, dstName result.1 addr⟩
  found : ∀ addr, DstKnown c addr → req.link = some ⟨req.src, dstName c addr⟩ →
    result.2 = .ok addr
  failed : result.2 ≠ .error .ok

theorem dstLookup_spec (unique : IeeeUnique c) {req : BindingReq}
    (compressible : req.addrMode = longMode → Compressible c req.dstAddrLong)
    (junk : IeeeAddrCompressed) : DstLookedUp c req (dstLookup c req junk) := by
  unfold dstLookup
  split
  · next isLong =>
    have link : req.link = some ⟨req.src, .device req.dstAddrLong req.dstEndpoint⟩ := if_pos isLong
    have lookedUp := addressByIeee_spec unique (compressible isLong) true false junk
    generalize addressByIeee c req.dstAddrLong true false junk = result at lookedUp
    have found : ∀ addr, DstKnown c addr → req.link = some ⟨req.src, dstName c addr⟩ →
        ∃ ref, result.2 = .ok ref ∧ addr = .long ref req.dstEndpoint := by
      intro addr known same
      rw [link, Option.some.injEq, Link.mk.injEq] at same
      cases addr with
      | group groupAddr => cases same.2
      | long ref dstEnd =>
        obtain ⟨address, rfl⟩ := LinkDst.device.inj same.2
        exact ⟨ref, lookedUp.found ref known address.symm, rfl⟩
    obtain ⟨d, reply⟩ := result
    cases reply with
    | error e =>
      refine ⟨lookedUp.names, fun addr same => (by cases same), fun addr known same => ?_,
        fun same => (by cases same)⟩
      obtain ⟨ref, impossible, -⟩ := found addr known same
      cases impossible
    | ok ref =>
      refine ⟨lookedUp.names, fun addr same => ?_, fun addr known same => ?_,
        fun same => (by cases same)⟩
      · cases same
        obtain ⟨known, address⟩ := lookedUp.stands ref rfl
        exact ⟨known, by rw [link, dstName, address]⟩
      · obtain ⟨ref', answer, rfl⟩ := found addr known same
        cases answer
        rfl
  · next notLong =>
    split
    · next isGroup =>
      have link : req.link = some ⟨req.src, .group req.dstAddrShort⟩ :=
        (if_neg notLong).trans (if_pos isGroup)
      refine ⟨NamesKept.refl unique, fun addr same => ?_, fun addr known same => ?_,
        fun same => (by cases same)⟩
      · cases same
        exact ⟨trivial, link⟩
      · rw [link, Option.some.injEq, Link.mk.injEq] at same
        cases addr with
        | group groupAddr => rw [LinkDst.group.inj same.2]
        | long ref dstEnd => cases same.2
    · next notGroup =>
      have link : req.link = none := (if_neg notLong).trans (if_neg notGroup)
      refine ⟨NamesKept.refl unique, fun addr same => (by cases same), fun addr known same => ?_,
        fun same => (by cases same)⟩
      rw [link] at same
      cases same

/-- Both addresses of a request can be compressed. -/
def Resolvable (s : Tables) (req : BindingReq) (create : Bool) (junk : IeeeAddrCompressed) : Prop :=
  Compressible s.addr req.srcAddr ∧ (req.addrMode = longMode →
    Compressible (addressByIeee s.addr req.srcAddr create false junk).1 req.dstAddrLong)

instance (create : Bool) (req : BindingReq) (junk : IeeeAddrCompressed) :
    Decidable (Resolvable s req create junk) :=
  inferInstanceAs (Decidable (_ ∧ _))

theorem link_src {req : BindingReq} {l : Link} (same : req.link = some l) : l.src = req.src := by
  unfold BindingReq.link at same
  split at same
  · cases same
    rfl
  · split at same
    · cases same
      rfl
    · cases same

/-- A bind of a new link adds it, or fails without a trace. -/
theorem bindRequest_spec (inv : Inv s) {req : BindingReq} {junk : IeeeAddrCompressed}
    (resolvable : Resolvable s req true junk)
    (new : s.binding.dstNElements < dstBindingTableSize → ∀ l ∈ req.link, l ∉ links s)
    (junk' : IeeeAddrCompressed) :
    let result := bindRequest s req junk junk'
    Inv result.1 ∧
      (result.2 = .ok → ∃ l, req.link = some l ∧
        ∀ l', l' ∈ links result.1 ↔ l' = l ∨ l' ∈ links s) ∧
      (result.2 ≠ .ok → result.1.binding = s.binding ∧ links result.1 = links s) := by
  obtain ⟨srcCompressible, dstCompressible⟩ := resolvable
  have lookedUp := addressByIeee_spec inv.unique srcCompressible true false junk
  unfold bindRequest
  dsimp only
  generalize addressByIeee s.addr req.srcAddr true false junk = reply at *
  obtain ⟨c, answer⟩ := reply
  obtain ⟨renamed, same⟩ := inv.renamed lookedUp.names
  cases answer with
  | error e => exact ⟨renamed, fun impossible => (by cases impossible), fun _ => ⟨rfl, same⟩⟩
  | ok srcRef =>
    obtain ⟨srcKnown, address⟩ := lookedUp.stands srcRef rfl
    dsimp only
    split
    · next room =>
      obtain ⟨srcRoom, dstRoom⟩ := room
      have lookedUp' := dstLookup_spec lookedUp.names.unique dstCompressible junk'
      dsimp only at lookedUp' ⊢
      generalize dstLookup c req junk' = reply' at *
      obtain ⟨d, answer'⟩ := reply'
      obtain ⟨renamed', same'⟩ := renamed.renamed lookedUp'.names
      cases answer' with
      | error status =>
        refine ⟨renamed', fun isOk => ?_, fun _ => ⟨rfl, same'.trans same⟩⟩
        exact absurd (congrArg Except.error isOk) lookedUp'.failed
      | ok addr =>
        obtain ⟨dstKnown, link⟩ := lookedUp'.stands addr rfl
        dsimp only at *
        have srcKnown' := lookedUp'.names.known srcRef srcKnown
        have name : srcName d ⟨srcRef, req.srcEndpoint, req.clusterid⟩ = req.src := by
          rw [srcName, lookedUp'.names.same srcRef srcKnown, address, BindingReq.src]
        have absent : ⟨srcName d ⟨srcRef, req.srcEndpoint, req.clusterid⟩, dstName d addr⟩ ∉
            links ⟨d, s.binding⟩ := by
          rw [same', same, name]
          exact new dstRoom _ link
        obtain ⟨added, members⟩ := renamed'.addBinding srcKnown' dstKnown srcRoom dstRoom absent
        refine ⟨added, fun _ => ⟨_, link, fun l => ?_⟩, fun failed => absurd rfl failed⟩
        rw [members, same', same, name]
    · exact ⟨renamed, fun impossible => (by cases impossible), fun _ => ⟨rfl, same⟩⟩

/-- No source record is that of the request; an empty table is searched as if it had one. -/
def SourceMissing (s : Tables) (req : BindingReq) : Prop :=
  ∀ ref < ieeeAddrTableSize, addressIeeeByRef s.addr ref = req.srcAddr →
    ∀ i < max 1 s.binding.srcNElements,
      s.binding.srcTable i ≠ ⟨ref, req.srcEndpoint, req.clusterid⟩

/-- The destination of the request has no reference and gets none. -/
def DstMissing (s : Tables) (req : BindingReq) (junk junk' : IeeeAddrCompressed) : Prop :=
  req.link = none ∨ (req.addrMode = longMode ∧
    (addressByIeee (addressByIeee s.addr req.srcAddr false false junk).1 req.dstAddrLong
      true false junk').2.isOk = false)

instance (req : BindingReq) : Decidable (SourceMissing s req) :=
  inferInstanceAs (Decidable (∀ ref < ieeeAddrTableSize, _ → ∀ i < _, _))

instance (req : BindingReq) (junk junk' : IeeeAddrCompressed) :
    Decidable (DstMissing s req junk junk') :=
  inferInstanceAs (Decidable (_ ∨ _))

theorem findSrcRef_missing {t : BindingTable} {src : BindSrc}
    (missing : ∀ i < max 1 t.srcNElements, t.srcTable i ≠ src) : findSrcRef t src = 0xff := by
  have none : (List.range (max 1 t.srcNElements)).find?
      (fun l => decide (t.srcTable l = src)) = none := by
    rw [List.find?_eq_none]
    intro i member
    simpa using missing i (List.mem_range.mp member)
  rw [findSrcRef, none, Option.getD_none]

theorem dstLookup_missing {req : BindingReq} {junk : IeeeAddrCompressed}
    (missing : req.link = none ∨ (req.addrMode = longMode ∧
      (addressByIeee c req.dstAddrLong true false junk).2.isOk = false)) :
    ∃ status, (dstLookup c req junk).2 = .error status := by
  unfold dstLookup
  rcases missing with none | ⟨isLong, fails⟩
  · unfold BindingReq.link at none
    split at none
    · cases none
    · next notLong =>
      split at none
      · cases none
      · next notGroup =>
        rw [if_neg notLong, if_neg notGroup]
        exact ⟨_, rfl⟩
  · rw [if_pos isLong]
    generalize addressByIeee c req.dstAddrLong true false junk = result at fails
    obtain ⟨d, answer⟩ := result
    cases answer with
    | error e => exact ⟨_, rfl⟩
    | ok ref => cases fails

theorem Inv.link_found (inv : Inv s) {req : BindingReq} {l : Link} (link : req.link = some l)
    (member : l ∈ links s) {create : Bool} {reply : AddrGlobals × Except RetError ℕ}
    (lookedUp : LookedUp s.addr req.srcAddr create reply) :
    ∃ i addr, i < s.binding.srcNElements ∧ ⟨addr, i⟩ ∈ dsts s.binding ∧
      reply.2 = .ok (s.binding.srcTable i).srcAddr ∧
      s.binding.srcTable i =
        ⟨(s.binding.srcTable i).srcAddr, req.srcEndpoint, req.clusterid⟩ ∧
      srcName reply.1 (s.binding.srcTable i) = req.src ∧
      DstKnown reply.1 addr ∧ req.link = some ⟨req.src, dstName reply.1 addr⟩ := by
  obtain ⟨src, addr, ⟨i, live, rfl, held⟩, rfl⟩ := (mem_links inv.sound).mp member
  have name : srcName s.addr (s.binding.srcTable i) = req.src := link_src link
  obtain ⟨srcKnown, dstKnown⟩ := inv.known _ addr ⟨i, live, rfl, held⟩
  obtain ⟨dstKnown', dstSame⟩ := dstName_kept lookedUp.names dstKnown
  have fields := name
  rw [srcName, BindingReq.src, LinkSrc.mk.injEq] at fields
  refine ⟨i, addr, live, held, lookedUp.found _ srcKnown fields.1, ?_, ?_, dstKnown', ?_⟩
  · rw [← fields.2.1, ← fields.2.2]
  · rw [srcName_kept lookedUp.names srcKnown, name]
  · rw [dstSame, ← name]
    exact link

/-- An unbind of a present link removes it and nothing else; one whose source or
destination is missing fails without a trace. -/
theorem unbindRequest_spec (inv : Inv s) {req : BindingReq} {junk junk' : IeeeAddrCompressed}
    (resolvable : Resolvable s req false junk)
    (decided : (∃ l ∈ req.link, l ∈ links s) ∨ SourceMissing s req ∨ DstMissing s req junk junk')
    (overrun : BindingTable) :
    let result := unbindRequest s req junk junk' overrun
    Inv result.1 ∧
      (result.2 = .ok → ∃ l, req.link = some l ∧ l ∈ links s ∧
        ∀ l', l' ∈ links result.1 ↔ l' ≠ l ∧ l' ∈ links s) ∧
      (result.2 ≠ .ok → (∀ l ∈ req.link, l ∉ links s) ∧
        result.1.binding = s.binding ∧ links result.1 = links s) := by
  obtain ⟨srcCompressible, dstCompressible⟩ := resolvable
  have lookedUp := addressByIeee_spec inv.unique srcCompressible false false junk
  have findable := fun l link member => inv.link_found (l := l) link member lookedUp
  unfold DstMissing at decided
  unfold unbindRequest
  dsimp only
  generalize addressByIeee s.addr req.srcAddr false false junk = reply at *
  obtain ⟨c, answer⟩ := reply
  obtain ⟨renamed, same⟩ := inv.renamed lookedUp.names
  dsimp only at findable
  cases answer with
  | error e =>
    refine ⟨renamed, fun impossible => (by cases impossible), fun _ => ⟨?_, rfl, same⟩⟩
    intro l link member
    obtain ⟨_, _, _, _, impossible, -⟩ := findable l link member
    cases impossible
  | ok srcRef =>
    dsimp only at *
    split
    · next notFound =>
      refine ⟨renamed, fun impossible => (by cases impossible), fun _ => ⟨?_, rfl, same⟩⟩
      intro l link member
      obtain ⟨i, addr, live, held, ref, record, -⟩ := findable l link member
      rw [Except.ok.inj ref, ← record, findSrcRef_present inv.sound live] at notFound
      have size := inv.sound.srcFits
      rw [srcBindingTableSize] at size
      omega
    · next foundSrc =>
      have lookedUp' := dstLookup_spec lookedUp.names.unique dstCompressible junk'
      have missing : _ → ∃ status, (dstLookup c req junk').2 = .error status := dstLookup_missing
      generalize dstLookup c req junk' = reply' at *
      obtain ⟨d, answer'⟩ := reply'
      obtain ⟨renamed', same'⟩ := renamed.renamed lookedUp'.names
      cases answer' with
      | error status =>
        refine ⟨renamed', fun isOk => ?_, fun _ => ⟨?_, rfl, same'.trans same⟩⟩
        · exact absurd (congrArg Except.error isOk) lookedUp'.failed
        · intro l link member
          obtain ⟨i, addr, -, -, -, -, -, known, named⟩ := findable l link member
          cases lookedUp'.found addr known named
      | ok addr =>
        rcases decided with ⟨l, link, member⟩ | noSource | noDst
        · obtain ⟨i, addr', live, held, ref, record, name, known, named⟩ := findable l link member
          cases lookedUp'.found addr' known named
          obtain ⟨t', removed, inv', members⟩ := renamed'.removeBinding live held
          dsimp only at *
          rw [Except.ok.inj ref, ← record, findSrcRef_present inv.sound live, removed,
            Option.getD_some]
          have srcKnown := (renamed.known _ addr ⟨i, live, rfl, held⟩).1
          rw [srcName_kept lookedUp'.names srcKnown, name, (dstName_kept lookedUp'.names known).2,
            same', same] at members
          refine ⟨inv', fun _ => ⟨_, named, ?_, members⟩, fun failed => absurd rfl failed⟩
          exact Option.some.inj (link.symm.trans named) ▸ member
        · obtain ⟨-, address⟩ := lookedUp.stands srcRef rfl
          have before := lookedUp.old rfl srcRef rfl
          refine absurd (findSrcRef_missing (noSource srcRef before.inside ?_)) foundSrc
          rw [← lookedUp.names.same srcRef before, address]
        · obtain ⟨status, impossible⟩ := missing noDst
          cases impossible

/-! ## Runs -/

/-- The requests, with what the memory behind their reads may hold. -/
inductive Op
  | bind (req : BindingReq) (junk junk' : IeeeAddrCompressed)
  | unbind (req : BindingReq) (junk junk' : IeeeAddrCompressed) (overrun : BindingTable)

/-- The tables after an operation and its status. -/
def reply (s : Tables) : Op → Tables × Status
  | .bind req junk junk' => bindRequest s req junk junk'
  | .unbind req junk junk' overrun => unbindRequest s req junk junk' overrun

/-- The operation on the set of links: a successful bind inserts, an unbind deletes. -/
def specStep (asked : Finset Link) (status : Status) : Op → Finset Link
  | .bind req .. => if status = .ok then asked ∪ req.link.toFinset else asked
  | .unbind req .. => asked \ req.link.toFinset

/-- The tables and the set of links asked for so far. -/
structure Monitored where
  tables : Tables
  asked : Finset Link

def step (m : Monitored) (op : Op) : Monitored :=
  ⟨(reply m.tables op).1, specStep m.asked (reply m.tables op).2 op⟩

/-- The empty binding table beside an address table. -/
def start (addr : AddrGlobals) : Monitored := ⟨⟨addr, .zero⟩, ∅⟩

/-- The two arrays represent a set of links. -/
structure Represents (s : Tables) (asked : Finset Link) : Prop where
  dsts : (links s).Nodup ∧ ∀ l, l ∈ links s ↔ l ∈ asked
  srcs : ((srcs s.binding).map (srcName s.addr)).Nodup ∧
    ∀ src, src ∈ (srcs s.binding).map (srcName s.addr) ↔ ∃ l ∈ asked, l.src = src
  indexed : ∀ d < s.binding.dstNElements,
    (s.binding.dstTable d).srcTableIndex < s.binding.srcNElements
  srcFits : s.binding.srcNElements ≤ srcBindingTableSize
  dstFits : s.binding.dstNElements ≤ dstBindingTableSize

/-- The answer to an operation agrees with the set. -/
def Conforms (m : Monitored) (op : Op) : Prop :=
  ((reply m.tables op).2 ≠ .ok → (reply m.tables op).1.binding = m.tables.binding) ∧
    match op with
    | .bind req .. => (reply m.tables op).2 = .ok → ∃ l, req.link = some l
    | .unbind req .. => (reply m.tables op).2 = .ok ↔ ∃ l ∈ req.link, l ∈ m.asked

/-- No second record of a link, and no absent link looked for in vain behind its source. -/
def Clean (m : Monitored) : Op → Prop
  | .bind req junk _ => Resolvable m.tables req true junk ∧
      (m.tables.binding.dstNElements < dstBindingTableSize → ∀ l ∈ req.link, l ∉ m.asked)
  | .unbind req junk junk' _ => Resolvable m.tables req false junk ∧
      ((∃ l ∈ req.link, l ∈ m.asked) ∨ SourceMissing m.tables req ∨
        DstMissing m.tables req junk junk')

instance (m : Monitored) : DecidablePred (Clean m)
  | .bind .. => inferInstanceAs (Decidable (_ ∧ (_ → ∀ l ∈ (_ : Option Link), _)))
  | .unbind .. => inferInstanceAs (Decidable (_ ∧ ((∃ l ∈ (_ : Option Link), _) ∨ (_ ∨ _))))

/-- What the runs keep. -/
structure Agrees (m : Monitored) : Prop where
  inv : Inv m.tables
  same : ∀ l, l ∈ links m.tables ↔ l ∈ m.asked

theorem step_bind (m : Monitored) (agrees : Agrees m) (req : BindingReq)
    (junk junk' : IeeeAddrCompressed) (clean : Clean m (.bind req junk junk')) :
    Agrees (step m (.bind req junk junk')) ∧ Conforms m (.bind req junk junk') := by
  obtain ⟨resolvable, new⟩ := clean
  obtain ⟨inv, added, failed⟩ := bindRequest_spec agrees.inv resolvable
    (fun room l link member => new room l link ((agrees.same l).mp member)) junk'
  refine ⟨⟨inv, fun l' => ?_⟩, fun notOk => (failed notOk).1, fun isOk => ?_⟩
  · change l' ∈ links (bindRequest m.tables req junk junk').1 ↔
      l' ∈ if (bindRequest m.tables req junk junk').2 = .ok then m.asked ∪ req.link.toFinset
        else m.asked
    split
    · next isOk =>
      obtain ⟨l, link, members⟩ := added isOk
      rw [members, link, Option.toFinset_some, Finset.mem_union, Finset.mem_singleton,
        agrees.same, or_comm]
    · next notOk => rw [(failed notOk).2, agrees.same]
  · obtain ⟨l, link, -⟩ := added isOk
    exact ⟨l, link⟩

theorem step_unbind (m : Monitored) (agrees : Agrees m) (req : BindingReq)
    (junk junk' : IeeeAddrCompressed) (overrun : BindingTable)
    (clean : Clean m (.unbind req junk junk' overrun)) :
    Agrees (step m (.unbind req junk junk' overrun)) ∧
      Conforms m (.unbind req junk junk' overrun) := by
  obtain ⟨resolvable, decided⟩ := clean
  have decided' : (∃ l ∈ req.link, l ∈ links m.tables) ∨ SourceMissing m.tables req ∨
      DstMissing m.tables req junk junk' := by
    simpa only [agrees.same] using decided
  obtain ⟨inv, removed, failed⟩ := unbindRequest_spec agrees.inv resolvable decided' overrun
  refine ⟨⟨inv, fun l' => ?_⟩, fun notOk => (failed notOk).2.1, fun isOk => ?_, fun present => ?_⟩
  · change l' ∈ links (unbindRequest m.tables req junk junk' overrun).1 ↔
      l' ∈ m.asked \ req.link.toFinset
    rw [Finset.mem_sdiff, Option.mem_toFinset]
    by_cases isOk : (unbindRequest m.tables req junk junk' overrun).2 = .ok
    · obtain ⟨l, link, -, members⟩ := removed isOk
      rw [members, link, agrees.same, Option.mem_some, and_comm, ne_comm]
    · obtain ⟨absent, -, unchanged⟩ := failed isOk
      rw [unchanged, agrees.same]
      constructor
      · intro member
        exact ⟨member, fun link => absent l' link ((agrees.same l').mpr member)⟩
      · exact fun member => member.1
  · obtain ⟨l, link, member, -⟩ := removed isOk
    exact ⟨l, link, (agrees.same l).mp member⟩
  · obtain ⟨l, link, member⟩ := present
    by_contra notOk
    exact (failed notOk).1 l link ((agrees.same l).mpr member)

/-- One clean step keeps the agreement and answers as the set does. -/
theorem step_agrees (m : Monitored) (op : Op) (agrees : Agrees m) (clean : Clean m op) :
    Agrees (step m op) ∧ Conforms m op := by
  cases op with
  | bind req junk junk' => exact step_bind m agrees req junk junk' clean
  | unbind req junk junk' overrun => exact step_unbind m agrees req junk junk' overrun clean

theorem start_agrees {addr : AddrGlobals} (unique : IeeeUnique addr) : Agrees (start addr) where
  inv := {
    sound := zero_sound
    unique := unique
    known := by
      rintro src dst ⟨i, inside, -⟩
      exact absurd inside (Nat.not_lt_zero i) }
  same l := by simp [links, dsts, start, BindingTable.zero]

theorem Agrees.represents {m : Monitored} (agrees : Agrees m) : Represents m.tables m.asked where
  dsts := ⟨agrees.inv.links_nodup, agrees.same⟩
  srcs := by simpa only [agrees.same] using agrees.inv.srcs_names
  indexed d inside := agrees.inv.sound.indexed _ (mem_live.mpr ⟨d, inside, rfl⟩)
  srcFits := agrees.inv.sound.srcFits
  dstFits := agrees.inv.sound.dstFits

/-- After every run of clean requests the arrays represent the set of the links bound
and not unbound, and the next clean request is answered as the set says. -/
theorem binding_table_refines_links (addr : AddrGlobals) (unique : IeeeUnique addr)
    (ops : List Op) (met : Along step Clean (start addr) ops) :
    let m := run step (start addr) ops
    Represents m.tables m.asked ∧ ∀ op, Clean m op → Conforms m op := by
  intro m
  have agrees : Agrees m := invariant_of_along
    (fun m op agrees clean => (step_agrees m op agrees clean).1) _ ops (start_agrees unique) met
  exact ⟨agrees.represents, fun op clean => (step_agrees m op agrees clean).2⟩

/-- A device, by the last octet of its address. -/
def device (n : UInt8) : IeeeAddr := ⟨⟨1, 2, 3⟩, ⟨4, 5, 6, 7, n⟩⟩

/-- A request from device 1 to endpoint 1 of another. -/
def toDevice (n : UInt8) : BindingReq := ⟨device 1, 1, 6, longMode, device n, 0, 1⟩

/-- A request from device 1 to a group. -/
def toGroup (n : ℕ) : BindingReq := ⟨device 1, 1, 6, groupMode, device 0, n, 0⟩

/-- Links come and go until none is left, and an unbind finds no source. -/
def cleanOps : List Op :=
  [.bind (toDevice 2) .zero .zero, .bind (toGroup 7) .zero .zero,
    .unbind (toDevice 2) .zero .zero .zero, .unbind (toGroup 7) .zero .zero .zero,
    .bind (toDevice 3) .zero .zero,
    .unbind ⟨device 4, 1, 6, groupMode, device 0, 7, 0⟩ .zero .zero .zero]

theorem binding_table_refines_links_cleanOps :
    (links (run step (start .zero) cleanOps).tables).Nodup :=
  (binding_table_refines_links .zero zero_ieeeUnique cleanOps (by decide +kernel)).1.dsts.1

/-- Device 1 is bound to device 2; unbinding it from a group it was never bound to
succeeds. -/
theorem unbind_absent_succeeds :
    ¬ Conforms (run step (start .zero) [.bind (toDevice 2) .zero .zero])
      (.unbind (toGroup 9) .zero .zero .zero) := by
  intro conforms
  have present := conforms.2.mp (by decide +kernel)
  exact absurd present (by decide +kernel)

end Zboss.Binding
