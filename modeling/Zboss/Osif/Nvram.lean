import Mathlib
import Zboss.Lib.Flash
import Zboss.Lib.Run

/-!
The sections of the configuration page in the scratchpad of the 8051 (`zb_8051_nvram.c`).  The
configuration, the formation data and the keys share a page that is erased as a whole.
-/

namespace Zboss.Nvram

open Zboss.Flash Zboss.Run

/-- Octets as they lie in memory. -/
abbrev Octets (n : ℕ) := Fin n → BitVec 8

def configPage : ℕ := 0

def volatilePage : ℕ := 128

def scratchpadPageSize : ℕ := 128

def configSize : ℕ := 9

def ccmKeySize : ℕ := 16

def securNSecurMaterial : ℕ := 3

/-- `zb_erase_nvram`: a write to any cell of the page erases it. -/
def eraseNvram (f : Medium 8) (page : ℕ) : Medium 8 := f.erase scratchpadPageSize (129 * page)

/-- `zb_write_nvram`; `pos` is an octet, the sum `pos+i` is not. -/
def writeNvram (f : Medium 8) (pos : ℕ) {len : ℕ} (buf : Octets len) : Medium 8 :=
  f.program (pos % 256) (List.ofFn buf)

def readNvram (f : Medium 8) (pos len : ℕ) : Octets len := fun i => f.cell (pos % 256 + i)

/-- `zb_test_nvram`: what was read, and whether nothing of it was written. -/
def testNvram (f : Medium 8) (pos len : ℕ) : Octets len × Bool :=
  let buf := readNvram f pos len
  (buf, (List.ofFn buf).foldl (fun tmp octet => tmp ||| ~~~octet) 0#8 == 0#8)

/-- The arguments of `zb_write_nvram_config`. -/
structure Config where
  apsDesignatedCoord : BitVec 8
  apsUseInsecureJoin : BitVec 8
  apsUseExtendedPanId : BitVec 8
  macExtendedAddress : Octets 8

/-- The octet of the flags. -/
def Config.flags (c : Config) : BitVec 8 :=
  c.apsDesignatedCoord ||| c.apsUseInsecureJoin <<< 1 ||| c.apsUseExtendedPanId <<< 2

def writeNvramConfig (f : Medium 8) (c : Config) : Medium 8 :=
  let (tmpBuf, ok) := testNvram f (configPage + configSize) (scratchpadPageSize - configSize)
  let g := eraseNvram f 0
  let g := writeNvram g configPage (fun _ : Fin 1 => c.flags)
  let g := writeNvram g (configPage + 1) c.macExtendedAddress
  if ok then g else writeNvram g (configPage + configSize) tmpBuf

/-- What `zb_config_from_nvram` stores. -/
structure ConfigRead where
  apsDesignatedCoordinator : BitVec 8
  apsInsecureJoin : BitVec 8
  macExtendedAddress : Octets 8

/-- `zb_config_from_nvram`; the third flag is not read. -/
def configFromNvram (f : Medium 8) : ConfigRead :=
  let buf := readNvram f configPage 1
  { apsDesignatedCoordinator := buf 0 &&& 0x01#8
    apsInsecureJoin := buf 0 &&& 0x02#8
    macExtendedAddress := readNvram f (configPage + 1) 8 }

/-- The arguments of `zb_write_formdesc_data`. -/
structure Formdesc where
  profileInUse : BitVec 8
  longParentAddr : Octets 8
  apsChannelMask : Octets 4
  shortParentAddr : Octets 2
  depth : BitVec 8
  panId : Octets 2
  extPanId : Octets 8
  nwkShortAddr : Octets 2

def writeFormdescData (f : Medium 8) (d : Formdesc) : Medium 8 :=
  let keysSize := ccmKeySize * securNSecurMaterial
  let tmpBufConfig := readNvram f configPage configSize
  let tmpBufKeys := readNvram f (configPage + scratchpadPageSize - keysSize) keysSize
  let nvramSave := keysSize
  let g := writeNvram f (configPage + configSize) (fun _ : Fin 1 => d.profileInUse)
  let g := writeNvram g (configPage + (configSize + 1)) d.longParentAddr
  let g := writeNvram g (configPage + (configSize + 1 + 8)) d.apsChannelMask
  let g := writeNvram g (configPage + (configSize + 1 + 8 + 4)) d.shortParentAddr
  let g := writeNvram g (configPage + (configSize + 1 + 8 + 4 + 2)) (fun _ : Fin 1 => d.depth)
  let g := writeNvram g (configPage + (configSize + 1 + 8 + 4 + 2 + 1)) d.panId
  let g := writeNvram g (configPage + (configSize + 1 + 8 + 4 + 2 + 1 + 2)) d.extPanId
  let g := writeNvram g (configPage + (configSize + 1 + 8 + 4 + 2 + 1 + 2 + 8)) d.nwkShortAddr
  let g := writeNvram g configPage tmpBufConfig
  if nvramSave ≠ 0 then
    writeNvram g (configPage + scratchpadPageSize - keysSize) tmpBufKeys
  else g

/-- What `zb_read_formdesc_data` stores; the addresses of the parent are those it calls
`zb_address_update` with. -/
structure FormdescRead where
  parentAddr : Octets 8
  sParentAddr : Octets 2
  apsChannelMask : Octets 4
  depth : BitVec 8
  macPanId : Octets 2
  extendedPanId : Octets 8
  macShortAddress : Octets 2

section

local instance octets_neZero : NeZero 8 := ⟨by decide⟩

/-- `zb_read_formdesc_data`; none where it stores nothing.  The profile is read over. -/
def readFormdescData (f : Medium 8) : Option FormdescRead :=
  let readBytes := configSize + 1
  let buf := readNvram f (configPage + readBytes) 8
  if buf 0 &&& buf 1 &&& buf 2 &&& buf 3 &&& buf 4 &&& buf 5 &&& buf 6 &&& buf 7 ≠ 0xff then
    some
      { parentAddr := buf
        apsChannelMask := readNvram f (configPage + (readBytes + 8)) 4
        sParentAddr := readNvram f (configPage + (readBytes + 8 + 4)) 2
        depth := readNvram f (configPage + (readBytes + 8 + 4 + 2)) 1 0
        macPanId := readNvram f (configPage + (readBytes + 8 + 4 + 2 + 1)) 2
        extendedPanId := readNvram f (configPage + (readBytes + 8 + 4 + 2 + 1 + 2)) 8
        macShortAddress := readNvram f (configPage + (readBytes + 8 + 4 + 2 + 1 + 2 + 8)) 2 }
  else none

end

/-- Where the `i`-th key lies. -/
def keyPos (i : ℕ) : ℕ := configPage + scratchpadPageSize - ccmKeySize * (securNSecurMaterial - i)

/-- `zb_write_security_key`, the keys those of `secur_material_set`. -/
def writeSecurityKey (f : Medium 8) (keys : Fin 3 → Octets 16) : Medium 8 :=
  let tmpBuf := readNvram f configPage
    (scratchpadPageSize - ccmKeySize * securNSecurMaterial)
  let g := eraseNvram f configPage
  let g := (List.finRange 3).foldl (fun g (i : Fin 3) => writeNvram g (keyPos i.val) (keys i)) g
  writeNvram g configPage tmpBuf

def readSecurityKey (f : Medium 8) : Fin 3 → Octets 16 := fun i => readNvram f (keyPos i) 16

section cells

variable {f : Medium 8} {pos n a : ℕ} {buf : Octets n}

theorem writeNvram_inside (f : Medium 8) (buf : Octets n) (small : pos < 256) (i : Fin n) :
    (writeNvram f pos buf).cell (pos + i) = f.cell (pos + i) &&& buf i := by
  rw [writeNvram, Nat.mod_eq_of_lt small, cell_program_at (by rw [List.length_ofFn]; exact i.isLt),
    List.getElem_ofFn]

theorem writeNvram_outside (small : pos < 256) (outside : a < pos ∨ pos + n ≤ a) :
    (writeNvram f pos buf).cell a = f.cell a := by
  rw [writeNvram, Nat.mod_eq_of_lt small]
  rcases outside with before | behind
  · exact cell_program_before before
  · exact cell_program_behind (by rw [List.length_ofFn]; exact behind)

theorem readNvram_apply (small : pos < 256) (i : Fin n) :
    readNvram f pos n i = f.cell (pos + i) := by
  rw [readNvram, Nat.mod_eq_of_lt small]

/-- Octets written back over themselves change nothing, on an erased page they are back. -/
theorem writeNvram_saved {g : Medium 8} (small : pos < 256)
    (there : ∀ i < n, g.cell (pos + i) = f.cell (pos + i) ∨ g.cell (pos + i) = blank 8)
    (from_ : pos ≤ a) (to_ : a < pos + n) :
    (writeNvram g pos (readNvram f pos n)).cell a = f.cell a := by
  have here : a = pos + (⟨a - pos, by omega⟩ : Fin n).val := by
    change a = pos + (a - pos)
    omega
  rw [here, writeNvram_inside _ _ small, readNvram_apply small]
  rcases there _ (⟨a - pos, by omega⟩ : Fin n).isLt with same | erased
  · rw [same, BitVec.and_self]
  · rw [erased, blank_and]

theorem eraseNvram_page (inside : a < 128) : (eraseNvram f 0).cell a = blank 8 := by
  rw [eraseNvram, cell_erase, scratchpadPageSize, if_pos (by omega)]

theorem testNvram_buf : (testNvram f pos n).1 = readNvram f pos n := rfl

/-- The segment tests as free exactly where all of it is blank. -/
theorem testNvram_free : (testNvram f pos n).2 = true ↔ ∀ i, readNvram f pos n i = blank 8 := by
  have gathers : ∀ (octets : List (BitVec 8)) (tmp : BitVec 8),
      octets.foldl (fun tmp octet => tmp ||| ~~~octet) tmp = 0#8 ↔
        tmp = 0#8 ∧ ∀ octet ∈ octets, octet = blank 8 := by
    intro octets
    induction octets with
    | nil => simp
    | cons octet rest ih =>
      intro tmp
      rw [List.foldl_cons, ih, BitVec.or_eq_zero_iff, List.forall_mem_cons, and_assoc]
      have free : ~~~octet = 0#8 ↔ octet = blank 8 := by
        rw [blank, ← BitVec.not_zero, BitVec.not_eq_comm, eq_comm]
      rw [free]
  simp only [testNvram, beq_iff_eq, gathers, true_and, List.mem_ofFn]
  constructor
  · intro free i
    exact free _ ⟨i, rfl⟩
  · rintro free _ ⟨i, rfl⟩
    exact free i

end cells

/-- The octets of the configuration. -/
def Config.octets (c : Config) : Octets 9 := Fin.cons c.flags c.macExtendedAddress

/-- The octets of the formation data. -/
def Formdesc.octetList (d : Formdesc) : List (BitVec 8) :=
  d.profileInUse :: List.ofFn d.longParentAddr ++ List.ofFn d.apsChannelMask ++
    List.ofFn d.shortParentAddr ++ [d.depth] ++ List.ofFn d.panId ++ List.ofFn d.extPanId ++
    List.ofFn d.nwkShortAddr

theorem Formdesc.length_octetList (d : Formdesc) : d.octetList.length = 28 := by
  simp only [octetList, List.length_append, List.length_cons, List.length_ofFn, List.length_nil]

def Formdesc.octets (d : Formdesc) : Octets 28 := fun i => d.octetList.getD i (blank 8)

/-- The configuration page. -/
structure Sections where
  config : Octets 9
  formdesc : Octets 28
  keys : Fin 3 → Octets 16

/-- What the cells of the page hold. -/
def sections (f : Medium 8) : Sections where
  config i := f.cell i
  formdesc i := f.cell (9 + i)
  keys i j := f.cell (80 + 16 * i + j)

/-- The calls that write a section. -/
inductive Call
  | config (c : Config)
  | formdesc (d : Formdesc)
  | keys (k : Fin 3 → Octets 16)

def step (f : Medium 8) : Call → Medium 8
  | .config c => writeNvramConfig f c
  | .formdesc d => writeFormdescData f d
  | .keys k => writeSecurityKey f k

/-- What a call does to the sections: the configuration and the keys are replaced, of the formation
data only the bits that were set before are left. -/
def Sections.step (s : Sections) : Call → Sections
  | .config c => { s with config := c.octets }
  | .formdesc d => { s with formdesc := fun i => s.formdesc i &&& d.octets i }
  | .keys k => { s with keys := k }

section writers

variable {f : Medium 8} {a : ℕ}

/-- The flags and the address on the erased page. -/
theorem config_written (c : Config) (i : Fin 9) :
    (writeNvram (writeNvram (eraseNvram f 0) configPage (fun _ : Fin 1 => c.flags))
      (configPage + 1) c.macExtendedAddress).cell i = c.octets i := by
  refine Fin.cases ?_ (fun j => ?_) i
  · have flags := writeNvram_inside (eraseNvram f 0) (fun _ => c.flags) (show 0 < 256 by decide)
      (0 : Fin 1)
    rw [eraseNvram_page (by decide), blank_and] at flags
    rw [writeNvram_outside (by decide) (Or.inl (by decide))]
    exact flags
  · have address := writeNvram_inside
      (writeNvram (eraseNvram f 0) configPage (fun _ : Fin 1 => c.flags)) c.macExtendedAddress
      (show 1 < 256 by decide) j
    have erased : (writeNvram (eraseNvram f 0) configPage (fun _ : Fin 1 => c.flags)).cell
        (1 + j) = blank 8 := by
      rw [writeNvram_outside (by decide) (Or.inr (by simp only [configPage]; omega)),
        eraseNvram_page (by omega)]
    rw [erased, blank_and, Nat.add_comm] at address
    exact address

theorem config_behind (c : Config) (behind : 9 ≤ a) (inside : a < 128) :
    (writeNvram (writeNvram (eraseNvram f 0) configPage (fun _ : Fin 1 => c.flags))
      (configPage + 1) c.macExtendedAddress).cell a = blank 8 := by
  rw [writeNvram_outside (by decide) (Or.inr (by simp only [configPage]; omega)),
    writeNvram_outside (by decide) (Or.inr (by simp only [configPage]; omega)),
    eraseNvram_page inside]

theorem writeNvramConfig_front (c : Config) (i : Fin 9) :
    (writeNvramConfig f c).cell i = c.octets i := by
  rw [writeNvramConfig]
  dsimp only
  split
  · exact config_written c i
  · rw [writeNvram_outside (by decide) (Or.inl (by simp only [configPage, configSize]; omega))]
    exact config_written c i

/-- Behind the configuration the page stays, whether it was restored or free. -/
theorem writeNvramConfig_behind (c : Config) (behind : 9 ≤ a) (inside : a < 128) :
    (writeNvramConfig f c).cell a = f.cell a := by
  rw [writeNvramConfig]
  dsimp only
  split
  case isTrue free =>
    have was := testNvram_free.mp free ⟨a - 9, by simp only [scratchpadPageSize, configSize]; omega⟩
    rw [readNvram_apply (by decide)] at was
    have here : configPage + configSize + (a - 9) = a := by
      simp only [configPage, configSize]; omega
    rw [config_behind c behind inside, ← was]
    exact congrArg f.cell here
  case isFalse =>
    have within : a < 9 + (scratchpadPageSize - configSize) := by
      simp only [configSize, scratchpadPageSize]
      omega
    rw [testNvram_buf]
    refine writeNvram_saved (by decide) (fun i here => Or.inr ?_) behind within
    have inside : configPage + configSize + i < 128 := by
      simp only [configPage, configSize, scratchpadPageSize] at here ⊢
      omega
    exact config_behind c (Nat.le_add_right _ _) inside

/-- The fields of the formation data are written one behind the other. -/
theorem formdesc_fields (d : Formdesc) :
    (let g := writeNvram f (configPage + configSize) (fun _ : Fin 1 => d.profileInUse)
     let g := writeNvram g (configPage + (configSize + 1)) d.longParentAddr
     let g := writeNvram g (configPage + (configSize + 1 + 8)) d.apsChannelMask
     let g := writeNvram g (configPage + (configSize + 1 + 8 + 4)) d.shortParentAddr
     let g := writeNvram g (configPage + (configSize + 1 + 8 + 4 + 2)) (fun _ : Fin 1 => d.depth)
     let g := writeNvram g (configPage + (configSize + 1 + 8 + 4 + 2 + 1)) d.panId
     let g := writeNvram g (configPage + (configSize + 1 + 8 + 4 + 2 + 1 + 2)) d.extPanId
     writeNvram g (configPage + (configSize + 1 + 8 + 4 + 2 + 1 + 2 + 8)) d.nwkShortAddr) =
      f.program 9 d.octetList := by
  have one : ∀ octet : BitVec 8, List.ofFn (fun _ : Fin 1 => octet) = [octet] := fun _ => rfl
  have list : d.octetList = [d.profileInUse] ++ List.ofFn d.longParentAddr ++
      List.ofFn d.apsChannelMask ++ List.ofFn d.shortParentAddr ++ [d.depth] ++
      List.ofFn d.panId ++ List.ofFn d.extPanId ++ List.ofFn d.nwkShortAddr := rfl
  simp only [list, program_append, writeNvram, one, List.length_append, List.length_ofFn,
    List.length_cons, List.length_nil]
  rfl

theorem writeFormdescData_cell (d : Formdesc) (inside : a < 128) :
    (writeFormdescData f d).cell a = (f.program 9 d.octetList).cell a := by
  have front : ∀ b < 9, (f.program 9 d.octetList).cell b = f.cell b :=
    fun b before => cell_program_before before
  have behind : ∀ b, 80 ≤ b → (f.program 9 d.octetList).cell b = f.cell b := fun b from_ =>
    cell_program_behind (by rw [d.length_octetList]; omega)
  rw [writeFormdescData, if_pos (by decide), formdesc_fields]
  have config : ∀ b, (writeNvram (f.program 9 d.octetList) configPage
      (readNvram f configPage configSize)).cell b = (f.program 9 d.octetList).cell b := by
    intro b
    by_cases within : b < 9
    · rw [front b within]
      refine writeNvram_saved (by decide) (fun i here => Or.inl ?_) (Nat.zero_le _) ?_
      · exact front _ (by rw [configPage, Nat.zero_add]; exact here)
      · rw [configPage, Nat.zero_add]
        exact within
    · exact writeNvram_outside (by decide) (Or.inr (by simp only [configPage, configSize]; omega))
  by_cases within : 80 ≤ a
  · rw [behind a within]
    refine writeNvram_saved (by decide) (fun i here => Or.inl ?_) within ?_
    · rw [config]
      exact behind _ (Nat.le_add_right _ _)
    · exact inside
  · rw [writeNvram_outside (by decide) (Or.inl (by
      simp only [configPage, scratchpadPageSize, ccmKeySize, securNSecurMaterial]; omega)), config]

/-- The three keys behind the saved part. -/
theorem writeSecurityKey_eq (keys : Fin 3 → Octets 16) :
    writeSecurityKey f keys =
      writeNvram (writeNvram (writeNvram (writeNvram (eraseNvram f 0) 80 (keys 0)) 96 (keys 1)) 112
        (keys 2)) 0 (readNvram f 0 80) := rfl

theorem writeSecurityKey_front (keys : Fin 3 → Octets 16) (front : a < 80) :
    (writeSecurityKey f keys).cell a = f.cell a := by
  rw [writeSecurityKey_eq]
  refine writeNvram_saved (by decide) (fun i here => Or.inr ?_) (Nat.zero_le a) (by omega)
  rw [writeNvram_outside (by decide) (Or.inl (by omega)),
    writeNvram_outside (by decide) (Or.inl (by omega)),
    writeNvram_outside (by decide) (Or.inl (by omega)), eraseNvram_page (by omega)]

theorem writeSecurityKey_key (keys : Fin 3 → Octets 16) (i : Fin 3) (j : Fin 16) :
    (writeSecurityKey f keys).cell (80 + 16 * i + j) = keys i j := by
  have erased : ∀ a < 128, (eraseNvram f 0).cell a = blank 8 := fun a => eraseNvram_page
  have stored : ∀ (g : Medium 8) (pos : ℕ) (key : Octets 16), pos < 256 →
      g.cell (pos + j) = blank 8 → (writeNvram g pos key).cell (pos + j) = key j := by
    intro g pos key small free
    rw [writeNvram_inside _ _ small, free, blank_and]
  have within := j.isLt
  rw [writeSecurityKey_eq, writeNvram_outside (by decide) (Or.inr (by omega))]
  match i with
  | 0 =>
    change (writeNvram _ 112 _).cell (80 + j) = _
    rw [writeNvram_outside (by decide) (Or.inl (by omega)),
      writeNvram_outside (by decide) (Or.inl (by omega))]
    exact stored _ 80 _ (by decide) (erased _ (by omega))
  | 1 =>
    change (writeNvram _ 112 _).cell (96 + j) = _
    rw [writeNvram_outside (by decide) (Or.inl (by omega))]
    refine stored _ 96 _ (by decide) ?_
    rw [writeNvram_outside (by decide) (Or.inr (by omega)), erased _ (by omega)]
  | 2 =>
    change (writeNvram _ 112 _).cell (112 + j) = _
    refine stored _ 112 _ (by decide) ?_
    rw [writeNvram_outside (by decide) (Or.inr (by omega)),
      writeNvram_outside (by decide) (Or.inr (by omega)), erased _ (by omega)]

/-- What a call does to the cells of the page is what it does to the sections. -/
theorem sections_step (call : Call) : sections (step f call) = (sections f).step call := by
  cases call with
  | config c =>
    rw [sections, step, Sections.step, sections, Sections.mk.injEq]
    refine ⟨funext fun i => writeNvramConfig_front c i, funext fun i => ?_,
      funext fun i => funext fun j => ?_⟩
    · exact writeNvramConfig_behind c (Nat.le_add_right _ _) (by omega)
    · exact writeNvramConfig_behind c (by omega) (by omega)
  | formdesc d =>
    rw [sections, step, Sections.step, sections, Sections.mk.injEq]
    refine ⟨funext fun i => ?_, funext fun i => ?_, funext fun i => funext fun j => ?_⟩
    · rw [writeFormdescData_cell d (by omega), cell_program_before i.isLt]
    · have inside : i.val < d.octetList.length := by rw [d.length_octetList]; exact i.isLt
      rw [writeFormdescData_cell d (by omega), cell_program_at inside, Formdesc.octets,
        List.getD_eq_getElem _ _ inside]
    · rw [writeFormdescData_cell d (by omega),
        cell_program_behind (by rw [d.length_octetList]; omega)]
  | keys k =>
    rw [sections, step, Sections.step, sections, Sections.mk.injEq]
    refine ⟨funext fun i => ?_, funext fun i => ?_, funext fun i => funext fun j => ?_⟩
    · exact writeSecurityKey_front k (by omega)
    · exact writeSecurityKey_front k (by omega)
    · exact writeSecurityKey_key k i j

end writers

/-- The values of the configuration that `zb_config_from_nvram` stores. -/
def Config.values (c : Config) : ConfigRead where
  apsDesignatedCoordinator := c.apsDesignatedCoord
  apsInsecureJoin := c.apsUseInsecureJoin
  macExtendedAddress := c.macExtendedAddress

/-- The values of the formation data that `zb_read_formdesc_data` stores. -/
def Formdesc.values (d : Formdesc) : FormdescRead where
  parentAddr := d.longParentAddr
  sParentAddr := d.shortParentAddr
  apsChannelMask := d.apsChannelMask
  depth := d.depth
  macPanId := d.panId
  extendedPanId := d.extPanId
  macShortAddress := d.nwkShortAddr

section readers

variable {f : Medium 8}

theorem and_or_or (a b c mask : BitVec 8) :
    (a ||| b ||| c) &&& mask = a &&& mask ||| b &&& mask ||| c &&& mask := by
  rw [BitVec.and_or_distrib_right, BitVec.and_or_distrib_right]

theorem flags_first (c : Config) :
    c.flags &&& 0x01#8 = c.apsDesignatedCoord ↔ c.apsDesignatedCoord ≤ 1 := by
  have first : c.flags &&& 0x01#8 = c.apsDesignatedCoord &&& 0x01#8 := by
    have join : ∀ d : BitVec 8, d <<< 1 &&& 0x01#8 = 0#8 := by decide
    have pan : ∀ d : BitVec 8, d <<< 2 &&& 0x01#8 = 0#8 := by decide
    rw [Config.flags, and_or_or, join, pan, BitVec.or_zero, BitVec.or_zero]
  have small : ∀ d : BitVec 8, d &&& 0x01#8 = d ↔ d ≤ 1 := by decide
  rw [first, small]

/-- The second flag is read where it lies and not moved back. -/
theorem flags_second (c : Config) (small : c.apsDesignatedCoord ≤ 1) :
    c.flags &&& 0x02#8 = c.apsUseInsecureJoin ↔ c.apsUseInsecureJoin = 0 := by
  have second : c.flags &&& 0x02#8 = c.apsUseInsecureJoin <<< 1 &&& 0x02#8 := by
    have below : ∀ d : BitVec 8, d ≤ 1 → d &&& 0x02#8 = 0#8 := by decide
    have above : ∀ d : BitVec 8, d <<< 2 &&& 0x02#8 = 0#8 := by decide
    rw [Config.flags, and_or_or, below _ small, above, BitVec.or_zero, BitVec.zero_or]
  have lost : ∀ d : BitVec 8, d <<< 1 &&& 0x02#8 = d ↔ d = 0 := by decide
  rw [second, lost]

/-- From its section a configuration is read back with the flags 0 or 1 and 0. -/
theorem configFromNvram_iff {c : Config} (stored : (sections f).config = c.octets) :
    configFromNvram f = c.values ↔ c.apsDesignatedCoord ≤ 1 ∧ c.apsUseInsecureJoin = 0 := by
  have flags : readNvram f configPage 1 0 = c.flags := congrFun stored 0
  have address : readNvram f (configPage + 1) 8 = c.macExtendedAddress := by
    funext i
    rw [readNvram_apply (by decide), Nat.add_comm]
    exact congrFun stored i.succ
  rw [configFromNvram, Config.values, ConfigRead.mk.injEq, flags, address]
  constructor
  · rintro ⟨first, second, -⟩
    have small := (flags_first c).mp first
    exact ⟨small, (flags_second c small).mp second⟩
  · rintro ⟨small, zero⟩
    exact ⟨(flags_first c).mpr small, (flags_second c small).mpr zero, rfl⟩

/-- The values of formation data whose octets are these. -/
def formdescOf (octet : ℕ → BitVec 8) : FormdescRead where
  parentAddr i := octet (1 + i)
  apsChannelMask i := octet (9 + i)
  sParentAddr i := octet (13 + i)
  depth := octet 15
  macPanId i := octet (16 + i)
  extendedPanId i := octet (18 + i)
  macShortAddress i := octet (26 + i)

/-- All octets but the profile are values. -/
theorem formdescOf_congr {octet other : ℕ → BitVec 8} :
    formdescOf octet = formdescOf other ↔ ∀ i < 28, i ≠ 0 → octet i = other i := by
  constructor
  · intro same i inside later
    rw [formdescOf, formdescOf, FormdescRead.mk.injEq] at same
    obtain ⟨parent, short, mask, depth, pan, ext, own⟩ := same
    have at_ : ∀ {n first : ℕ}, (fun k : Fin n => octet (first + k)) =
        (fun k : Fin n => other (first + k)) → first ≤ i → i < first + n → octet i = other i := by
      intro n first equal from_ to_
      have here := congrFun equal ⟨i - first, by omega⟩
      dsimp only at here
      rwa [Nat.add_sub_cancel' from_] at here
    rcases Nat.lt_or_ge i 9 with below | above
    · exact at_ parent (by omega) (by omega)
    rcases Nat.lt_or_ge i 13 with below | above
    · exact at_ mask (by omega) (by omega)
    rcases Nat.lt_or_ge i 15 with below | above
    · exact at_ short (by omega) (by omega)
    rcases Nat.eq_or_lt_of_le above with rfl | above
    · exact depth
    rcases Nat.lt_or_ge i 18 with below | above
    · exact at_ pan (by omega) (by omega)
    rcases Nat.lt_or_ge i 26 with below | above
    · exact at_ ext (by omega) (by omega)
    · exact at_ own (by omega) (by omega)
  · intro same
    rw [formdescOf, formdescOf, FormdescRead.mk.injEq]
    refine ⟨funext fun i => ?_, funext fun i => ?_, funext fun i => ?_, ?_, funext fun i => ?_,
      funext fun i => ?_, funext fun i => ?_⟩ <;> exact same _ (by omega) (by omega)

theorem Formdesc.values_eq (d : Formdesc) :
    d.values = formdescOf fun i => d.octetList.getD i (blank 8) := by
  rw [values, formdescOf, FormdescRead.mk.injEq]
  refine ⟨funext fun i => ?_, funext fun i => ?_, funext fun i => ?_, ?_, funext fun i => ?_,
    funext fun i => ?_, funext fun i => ?_⟩
  case refine_4 => rfl
  all_goals fin_cases i <;> rfl

/-- The section counts as written where the address of the parent is not all ones. -/
theorem readFormdescData_eq : readFormdescData f =
    if ∀ i, (formdescOf fun i => f.cell (9 + i)).parentAddr i = 0xff then none
    else some (formdescOf fun i => f.cell (9 + i)) := by
  have cells : ∀ first n, first + 9 < 256 → readNvram f (configPage + (configSize + first)) n =
      fun i : Fin n => f.cell (9 + (first + i)) := by
    intro first n small
    funext i
    rw [readNvram_apply (by rw [configPage, configSize]; omega), configPage, configSize,
      Nat.zero_add, Nat.add_assoc]
  have all : ∀ buf : Octets 8,
      buf 0 &&& buf 1 &&& buf 2 &&& buf 3 &&& buf 4 &&& buf 5 &&& buf 6 &&& buf 7 ≠ 0xff ↔
        ¬∀ i, buf i = 0xff := by
    intro buf
    have ones : (0xff : BitVec 8) = BitVec.allOnes 8 := rfl
    rw [ones]
    simp only [ne_eq, BitVec.and_eq_allOnes_iff, Fin.forall_fin_succ, and_assoc]
    simp
  have parent := cells 1 8 (by decide)
  have mask : readNvram f (configPage + (configSize + 1 + 8)) 4 = _ := cells 9 4 (by decide)
  have short : readNvram f (configPage + (configSize + 1 + 8 + 4)) 2 = _ := cells 13 2 (by decide)
  have depth : readNvram f (configPage + (configSize + 1 + 8 + 4 + 2)) 1 = _ :=
    cells 15 1 (by decide)
  have pan : readNvram f (configPage + (configSize + 1 + 8 + 4 + 2 + 1)) 2 = _ :=
    cells 16 2 (by decide)
  have ext : readNvram f (configPage + (configSize + 1 + 8 + 4 + 2 + 1 + 2)) 8 = _ :=
    cells 18 8 (by decide)
  have own : readNvram f (configPage + (configSize + 1 + 8 + 4 + 2 + 1 + 2 + 8)) 2 = _ :=
    cells 26 2 (by decide)
  rw [readFormdescData, parent, mask, short, depth, pan, ext, own, formdescOf]
  by_cases ones : ∀ i : Fin 8, f.cell (9 + (1 + i)) = 0xff
  · rw [if_pos ones, if_neg fun free => (all _).mp free ones]
  · rw [if_neg ones, if_pos ((all _).mpr ones)]
    rfl

/-- Formation data is read back from its octets, where it names a parent. -/
theorem readFormdescData_iff (d : Formdesc) : readFormdescData f = some d.values ↔
    d.longParentAddr ≠ (fun _ => 0xff) ∧ ∀ i : Fin 28, i ≠ 0 →
      (sections f).formdesc i = d.octets i := by
  have octets : (formdescOf fun i => f.cell (9 + i)) = d.values ↔ ∀ i : Fin 28, i ≠ 0 →
      (sections f).formdesc i = d.octets i := by
    rw [d.values_eq, formdescOf_congr]
    constructor
    · exact fun same i later => same i i.isLt fun zero => later (Fin.ext zero)
    · exact fun same i inside later => same ⟨i, inside⟩ fun zero => later (congrArg Fin.val zero)
  have parent : d.values.parentAddr = d.longParentAddr := rfl
  rw [readFormdescData_eq, ← octets]
  constructor
  · intro read
    split at read
    case isTrue => cases read
    case isFalse named =>
      have same := Option.some.inj read
      refine ⟨fun ones => named fun i => ?_, same⟩
      rw [same, parent, ones]
  · rintro ⟨named, same⟩
    rw [if_neg, same]
    intro ones
    rw [same, parent] at ones
    exact named (funext ones)

theorem readSecurityKey_eq : readSecurityKey f = (sections f).keys := by
  funext i j
  have pos : keyPos i = 80 + 16 * i := by
    rw [keyPos, configPage, scratchpadPageSize, ccmKeySize, securNSecurMaterial]
    omega
  rw [readSecurityKey, readNvram_apply (by omega), pos]
  rfl

end readers

/-- What a call writes to each section. -/
def Call.asConfig : Call → Option Config
  | .config c => some c
  | _ => none

def Call.asFormdesc : Call → Option Formdesc
  | .formdesc d => some d
  | _ => none

def Call.asKeys : Call → Option (Fin 3 → Octets 16)
  | .keys k => some k
  | _ => none

/-- What a run writes to each section, the first write first. -/
def configs (calls : List Call) : List Config := calls.filterMap Call.asConfig

def formdescs (calls : List Call) : List Formdesc := calls.filterMap Call.asFormdesc

def keySets (calls : List Call) : List (Fin 3 → Octets 16) := calls.filterMap Call.asKeys

section runs

variable {f : Medium 8} {s : Sections} {calls : List Call}

theorem sections_run (calls : List Call) (f : Medium 8) :
    sections (run step f calls) = run Sections.step (sections f) calls := by
  induction calls generalizing f with
  | nil => rfl
  | cons call rest ih => rw [run_cons, run_cons, ih, sections_step]

theorem run_config (calls : List Call) (s : Sections) :
    (run Sections.step s calls).config =
      ((configs calls).map Config.octets).getLast?.getD s.config := by
  have written : (configs calls).map Config.octets =
      calls.filterMap fun call => call.asConfig.map Config.octets := List.map_filterMap
  rw [written]
  exact run_last Sections.config _ (fun _ call => by cases call <;> rfl) s calls

theorem run_keys (calls : List Call) (s : Sections) :
    (run Sections.step s calls).keys = (keySets calls).getLast?.getD s.keys :=
  run_last Sections.keys _ (fun _ call => by cases call <;> rfl) s calls

/-- The formation data has room for a value where the first content and all that was written have
room for it. -/
theorem fits_run (i : Fin 28) (value : BitVec 8) (calls : List Call) (s : Sections) :
    Fits ((run Sections.step s calls).formdesc i) value ↔
      Fits (s.formdesc i) value ∧ ∀ e ∈ formdescs calls, Fits (e.octets i) value := by
  induction calls generalizing s with
  | nil => exact ⟨fun fits => ⟨fits, fun _ member => nomatch member⟩, fun both => both.1⟩
  | cons call rest ih =>
    rw [run_cons, ih, formdescs, formdescs, List.filterMap_cons]
    cases call with
    | formdesc d =>
      rw [Call.asFormdesc, List.forall_mem_cons, ← and_assoc, ← fits_and]
      rfl
    | config c => rfl
    | keys k => rfl

/-- Octets of formation data that was written are those of the section where all that was there
before had room for them. -/
theorem formdesc_run {d : Formdesc} (written : d ∈ formdescs calls) (i : Fin 28) :
    (run Sections.step s calls).formdesc i = d.octets i ↔
      Fits (s.formdesc i) (d.octets i) ∧ ∀ e ∈ formdescs calls, Fits (e.octets i) (d.octets i) := by
  rw [← fits_run]
  have within := ((fits_run i _ calls s).mp fits_self).2 d written
  constructor
  · intro same
    rw [same]
    exact fits_self
  · intro fits
    rw [Fits] at fits within
    rw [← within, BitVec.and_comm, fits]

end runs

/-- Each section reads as its own last write. -/
def ReadBack (f : Medium 8) (calls : List Call) : Prop :=
  (∀ c ∈ (configs calls).getLast?, configFromNvram f = c.values) ∧
  (∀ d ∈ (formdescs calls).getLast?, readFormdescData f = some d.values) ∧
  ∀ k ∈ (keySets calls).getLast?, readSecurityKey f = k

/-- The last configuration has the first flag 0 or 1 and the second clear; the last formation data
names a parent and sets no bit, but in the profile, that is clear in the first content of the page
or in any formation data written since. -/
def Retained (f : Medium 8) (calls : List Call) : Prop :=
  (∀ c ∈ (configs calls).getLast?, c.apsDesignatedCoord ≤ 1 ∧ c.apsUseInsecureJoin = 0) ∧
  ∀ d ∈ (formdescs calls).getLast?, d.longParentAddr ≠ (fun _ => 0xff) ∧ ∀ i : Fin 28, i ≠ 0 →
    Fits (f.cell (9 + i)) (d.octets i) ∧ ∀ e ∈ formdescs calls, Fits (e.octets i) (d.octets i)

theorem readBack_iff (f : Medium 8) (calls : List Call) :
    ReadBack (run step f calls) calls ↔ Retained f calls := by
  have config : ∀ c ∈ (configs calls).getLast?, (configFromNvram (run step f calls) = c.values ↔
      c.apsDesignatedCoord ≤ 1 ∧ c.apsUseInsecureJoin = 0) := by
    intro c last
    apply configFromNvram_iff
    rw [sections_run, run_config, List.getLast?_map, Option.mem_def.mp last]
    rfl
  have formdesc : ∀ d ∈ (formdescs calls).getLast?,
      (readFormdescData (run step f calls) = some d.values ↔
        d.longParentAddr ≠ (fun _ => 0xff) ∧ ∀ i : Fin 28, i ≠ 0 →
          Fits (f.cell (9 + i)) (d.octets i) ∧
            ∀ e ∈ formdescs calls, Fits (e.octets i) (d.octets i)) := by
    intro d last
    rw [readFormdescData_iff, sections_run]
    refine and_congr_right fun _ => forall_congr' fun i => imp_congr_right fun _ => ?_
    exact formdesc_run (List.mem_of_getLast? last) i
  have keys : ∀ k ∈ (keySets calls).getLast?, readSecurityKey (run step f calls) = k := by
    intro k last
    rw [readSecurityKey_eq, sections_run, run_keys, Option.mem_def.mp last]
    rfl
  constructor
  · rintro ⟨configRead, formdescRead, -⟩
    exact ⟨fun c last => (config c last).mp (configRead c last),
      fun d last => (formdesc d last).mp (formdescRead d last)⟩
  · rintro ⟨flags, fits⟩
    exact ⟨fun c last => (config c last).mpr (flags c last),
      fun d last => (formdesc d last).mpr (fits d last), keys⟩

/-- Every call leaves the sections of the others as they were, and each section reads as its own
last write exactly where no bit of the formation data had to be set again: its writer, alone of the
three, does not erase. -/
theorem sections_read_back (f : Medium 8) :
    (∀ calls : List Call, ReadBack (run step f calls) calls ↔ Retained f calls) ∧
      (∀ c, (sections (writeNvramConfig f c)).formdesc = (sections f).formdesc ∧
        (sections (writeNvramConfig f c)).keys = (sections f).keys) ∧
      (∀ d, (sections (writeFormdescData f d)).config = (sections f).config ∧
        (sections (writeFormdescData f d)).keys = (sections f).keys) ∧
      ∀ k, (sections (writeSecurityKey f k)).config = (sections f).config ∧
        (sections (writeSecurityKey f k)).formdesc = (sections f).formdesc := by
  refine ⟨readBack_iff f, fun c => ?_, fun d => ?_, fun k => ?_⟩
  · have does : sections (writeNvramConfig f c) = _ := sections_step (.config c)
    rw [does]
    exact ⟨rfl, rfl⟩
  · have does : sections (writeFormdescData f d) = _ := sections_step (.formdesc d)
    rw [does]
    exact ⟨rfl, rfl⟩
  · have does : sections (writeSecurityKey f k) = _ := sections_step (.keys k)
    rw [does]
    exact ⟨rfl, rfl⟩

/-- An erased scratchpad. -/
def erased : Medium 8 := ⟨fun _ => blank 8, []⟩

/-- A device at this depth. -/
def atDepth (depth : BitVec 8) : Formdesc where
  profileInUse := 2
  longParentAddr _ := 0x0b
  apsChannelMask _ := 0
  shortParentAddr _ := 0
  depth := depth
  panId _ := 0x1a
  extPanId _ := 0x0a
  nwkShortAddr _ := 0x01

/-- At depth 2 after depth 1 no bit of the depth is left; and the flag of the insecure join, written
as 1, is read as 2. -/
theorem depth_lost :
    ¬ ReadBack (run step erased [.formdesc (atDepth 1), .formdesc (atDepth 2)])
      [.formdesc (atDepth 1), .formdesc (atDepth 2)] ∧
    (readFormdescData (run step erased [.formdesc (atDepth 1), .formdesc (atDepth 2)])).map
      FormdescRead.depth = some 0 ∧
    (configFromNvram (writeNvramConfig erased ⟨0, 1, 1, fun _ => 0x08⟩)).apsInsecureJoin = 2 := by
  have depth : (readFormdescData (run step erased
      [.formdesc (atDepth 1), .formdesc (atDepth 2)])).map FormdescRead.depth = some 0 := by
    decide +kernel
  refine ⟨?_, depth, by decide +kernel⟩
  rintro ⟨-, read, -⟩
  have last := read (atDepth 2) rfl
  rw [last] at depth
  exact absurd depth (by decide)

end Zboss.Nvram
