import Zboss.Osif.Nvram

/-!
The frame counter in the second page of the scratchpad of the 8051 (`zb_8051_nvram.c`).  Counters
are written one behind the other; where the last one ends is found by the last octet that is not
blank.
-/

namespace Zboss.NvramCounter

open Zboss.Flash Zboss.Run Zboss.Nvram

/-- `outgoing_frame_counter`, its octets as they lie in memory. -/
abbrev Counter := Octets 4

/-- Where the loop of `zb_write_up_counter` stops, from `i` down.  At the page size it also reads
the octet behind `buf`, to no effect. -/
def writeIndex (buf : ℕ → BitVec 8) : ℕ → ℕ
  | 0 => 0
  | i + 1 =>
    if i + 1 < scratchpadPageSize ∧ buf (i + 1) ≠ 0xff then i + 1 else writeIndex buf i

def writeUpCounter (f : Medium 8) (v : Counter) : Medium 8 :=
  let buf := fun i => f.cell (volatilePage + i)
  if buf (scratchpadPageSize - 3) ≠ 0xff then
    writeNvram (eraseNvram f 1) volatilePage v
  else
    let i := writeIndex buf scratchpadPageSize
    writeNvram f (volatilePage + i + 1 * (i &&& 1)) v

/-- `buf` of `zb_read_up_counter`, and the stack behind it. -/
def bufOf (f : Medium 8) (stack : ℕ → BitVec 8) (i : ℕ) : BitVec 8 :=
  if i < scratchpadPageSize then f.cell (volatilePage + i) else stack i

/-- The loop of `zb_read_up_counter`; none while it still runs.  `i` is an octet: it is always at
least 0, and behind 0 it is 255. -/
def readLoop (buf : ℕ → BitVec 8) : ℕ → ℕ → Option Counter
  | 0, _ => none
  | fuel + 1, i =>
    if buf i ≠ 0xff ∧ 3 < i then some fun j => buf (i - 3 + j)
    else readLoop buf fuel ((i + 255) % 256)

/-- `zb_read_up_counter`: the counter set after `fuel` turns of the loop. -/
def readUpCounter (fuel : ℕ) (f : Medium 8) (stack : ℕ → BitVec 8) : Option Counter :=
  readLoop (bufOf f stack) fuel (scratchpadPageSize - 1)

/-- The octets of the page. -/
def InPage (a : ℕ) : Prop := volatilePage ≤ a ∧ a < volatilePage + scratchpadPageSize

/-- Nothing outside the page is reached by one more write, and what is read then, whatever lies on
the stack, is what was written. -/
def Recovered (f : Medium 8) (v : Counter) : Prop :=
  f.Reaches (writeUpCounter f v) InPage ∧
    ∀ stack, ∃ fuel, readUpCounter fuel (writeUpCounter f v) stack = some v

/-- The last octet of the page that is not blank. -/
def LastUsed (f : Medium 8) (i : ℕ) : Prop :=
  i < 128 ∧ f.cell (128 + i) ≠ blank 8 ∧ ∀ j, i < j → j < 128 → f.cell (128 + j) = blank 8

/-- The page is not blank behind its first octet and has room for four octets more, the last octet of
the counter is not blank, and where the octet before it has to share a cell it fits there. -/
def Kept (f : Medium 8) (v : Counter) : Prop :=
  f.cell (128 + 125) = blank 8 ∧ v 3 ≠ blank 8 ∧
    ∃ i, LastUsed f i ∧ 0 < i ∧ i ≤ 124 ∧ (i % 2 = 1 ∨ Fits (f.cell (128 + i)) (v 0))

section index

variable {f : Medium 8} {i : ℕ}

theorem writeIndex_last (last : LastUsed f i) :
    writeIndex (fun i => f.cell (volatilePage + i)) scratchpadPageSize = i := by
  obtain ⟨inside, used, behind⟩ := last
  have from_ : ∀ d, i + d ≤ 128 → writeIndex (fun i => f.cell (volatilePage + i)) (i + d) = i := by
    intro d
    induction d with
    | zero =>
      intro
      cases i with
      | zero => rfl
      | succ i => rw [Nat.add_zero, writeIndex, if_pos ⟨inside, used⟩]
    | succ d ih =>
      intro bound
      rw [← Nat.add_assoc, writeIndex, if_neg, ih (by omega)]
      rintro ⟨below, not_⟩
      exact not_ (behind _ (by omega) below)
  have whole := from_ (128 - i) (by omega)
  rwa [Nat.add_sub_cancel' (Nat.le_of_lt inside)] at whole

/-- Behind the first octet the page is blank, or it has a last octet that is not. -/
theorem blank_or_last (f : Medium 8) :
    (∀ j, 0 < j → j < 128 → f.cell (128 + j) = blank 8) ∨ ∃ i, 0 < i ∧ LastUsed f i := by
  have upTo : ∀ n, n ≤ 127 →
      (∀ j, 127 - n < j → j < 128 → f.cell (128 + j) = blank 8) ∨ ∃ i, 0 < i ∧ LastUsed f i := by
    intro n
    induction n with
    | zero => exact fun _ => Or.inl fun j above below => absurd above (by omega)
    | succ n ih =>
      intro bound
      rcases ih (by omega) with behind | found
      · by_cases free : f.cell (128 + (127 - n)) = blank 8
        · refine Or.inl fun j above below => ?_
          rcases Nat.eq_or_lt_of_le (show 127 - n ≤ j by omega) with rfl | later
          · exact free
          · exact behind j later below
        · exact Or.inr ⟨127 - n, by omega, by omega, free, behind⟩
      · exact Or.inr found
  rcases upTo 127 (Nat.le_refl _) with behind | found
  · exact Or.inl fun j above below => behind j (by omega) below
  · exact Or.inr found

theorem writeIndex_blank (free : ∀ j, 0 < j → j < 128 → f.cell (128 + j) = blank 8) :
    writeIndex (fun i => f.cell (volatilePage + i)) scratchpadPageSize = 0 := by
  have from_ : ∀ n, writeIndex (fun i => f.cell (volatilePage + i)) n = 0 := by
    intro n
    induction n with
    | zero => rfl
    | succ n ih =>
      rw [writeIndex, if_neg, ih]
      rintro ⟨below, not_⟩
      exact not_ (free _ (Nat.succ_pos n) below)
  exact from_ _

end index

section reading

variable {buf : ℕ → BitVec 8} {fuel i : ℕ} {v : Counter}

/-- From above the last octet that is not blank the loop comes down to it. -/
theorem readLoop_last (used : buf i ≠ blank 8) (above : 3 < i) {d : ℕ} (inside : i + d < 256)
    (behind : ∀ j, i < j → j ≤ i + d → buf j = blank 8) :
    (∃ fuel, readLoop buf fuel (i + d) = some v) ↔ v = fun j : Fin 4 => buf (i - 3 + j) := by
  induction d with
  | zero =>
    constructor
    · rintro ⟨fuel, read⟩
      cases fuel with
      | zero => cases read
      | succ fuel =>
        rw [Nat.add_zero, readLoop, if_pos ⟨used, above⟩] at read
        exact (Option.some.inj read).symm
    · rintro rfl
      exact ⟨1, by rw [Nat.add_zero, readLoop, if_pos ⟨used, above⟩]⟩
  | succ d ih =>
    have skips : ∀ fuel, readLoop buf (fuel + 1) (i + (d + 1)) = readLoop buf fuel (i + d) := by
      intro fuel
      have next : (i + (d + 1) + 255) % 256 = i + d := by omega
      rw [readLoop, if_neg fun stop => stop.1 (behind _ (by omega) (Nat.le_refl _)), next]
    rw [← ih (by omega) fun j later below => behind j later (by omega)]
    constructor
    · rintro ⟨fuel, read⟩
      cases fuel with
      | zero => cases read
      | succ fuel => exact ⟨fuel, by rw [← skips]; exact read⟩
    · rintro ⟨fuel, read⟩
      exact ⟨fuel + 1, by rw [skips]; exact read⟩

/-- Where nothing behind the first four octets is used, up to the last octet `i` reaches, the loop
runs for ever. -/
theorem readLoop_blank (free : ∀ j, 3 < j → buf j = blank 8) (fuel i : ℕ) :
    readLoop buf fuel i = none := by
  induction fuel generalizing i with
  | zero => rfl
  | succ fuel ih =>
    rw [readLoop, if_neg fun stop => stop.1 (free i stop.2), ih]

/-- The last octet of a counter that is read is not blank. -/
theorem readLoop_used (read : readLoop buf fuel i = some v) : v 3 ≠ blank 8 := by
  induction fuel generalizing i with
  | zero => cases read
  | succ fuel ih =>
    rw [readLoop] at read
    split at read
    case isTrue stop =>
      cases read
      have last : i - 3 + (3 : Fin 4).val = i := Nat.sub_add_cancel (Nat.le_of_lt stop.2)
      dsimp only
      rw [last]
      exact stop.1
    case isFalse => exact ih read

end reading

section writing

variable {f : Medium 8} {v : Counter} {i a : ℕ}

/-- A page that is full is erased and begun again. -/
theorem writeUpCounter_full (full : f.cell (128 + 125) ≠ blank 8) :
    writeUpCounter f v = writeNvram (eraseNvram f 1) 128 v := by
  rw [writeUpCounter]
  exact if_pos full

theorem writeUpCounter_room (room : f.cell (128 + 125) = blank 8) {i : ℕ}
    (index : writeIndex (fun i => f.cell (volatilePage + i)) scratchpadPageSize = i) :
    writeUpCounter f v = writeNvram f (128 + i + i % 2) v := by
  rw [writeUpCounter]
  dsimp only
  rw [if_neg fun full => full room, index, Nat.and_one_is_mod, Nat.one_mul]
  rfl

theorem eraseNvram_volatile (from_ : 128 ≤ a) (to_ : a < 256) :
    (eraseNvram f 1).cell a = blank 8 := by
  rw [eraseNvram, cell_erase, scratchpadPageSize, if_pos (by omega)]

/-- Where only the first four octets can be used, the loop finds nothing to read on a blank
stack. -/
theorem not_recovered {g : Medium 8} (free : ∀ j, 3 < j → j < 128 → g.cell (128 + j) = blank 8) :
    ¬ ∀ stack, ∃ fuel, readUpCounter fuel g stack = some v := by
  intro read
  obtain ⟨fuel, last⟩ := read fun _ => blank 8
  rw [readUpCounter, readLoop_blank] at last
  · cases last
  · intro j above
    rw [bufOf]
    split
    · exact free j above ‹_›
    · rfl

/-- At the start of the page the counter is not found again. -/
theorem not_recovered_first {g : Medium 8}
    (free : ∀ j, 3 < j → j < 128 → g.cell (128 + j) = blank 8) :
    ¬ ∀ stack, ∃ fuel, readUpCounter fuel (writeNvram g 128 v) stack = some v := by
  refine not_recovered fun j above below => ?_
  rw [writeNvram_outside (by decide) (Or.inr (by omega))]
  exact free j above below

/-- What the page holds behind a write at an even position. -/
theorem read_written (v3 : v 3 ≠ blank 8) (even : i % 2 = 0) (bound : i ≤ 124) (inner : 0 < i)
    (behind : ∀ j, i < j → j < 128 → f.cell (128 + j) = blank 8) (stack : ℕ → BitVec 8) :
    (∃ fuel, readUpCounter fuel (writeNvram f (128 + i) v) stack = some v) ↔
      Fits (f.cell (128 + i)) (v 0) := by
  have inside : ∀ j : Fin 4, bufOf (writeNvram f (128 + i) v) stack (i + j) =
      f.cell (128 + (i + j)) &&& v j := by
    intro j
    have below : i + j.val < scratchpadPageSize := by
      rw [scratchpadPageSize]
      omega
    rw [bufOf, if_pos below, volatilePage, ← Nat.add_assoc,
      writeNvram_inside _ _ (by omega)]
  have last : bufOf (writeNvram f (128 + i) v) stack (i + 3) = v 3 := by
    have here := inside 3
    change bufOf _ stack (i + 3) = f.cell (128 + (i + 3)) &&& v 3 at here
    rw [here, behind _ (by omega) (by omega), blank_and]
  have above : ∀ j, i + 3 < j → j ≤ i + 3 + (124 - i) →
      bufOf (writeNvram f (128 + i) v) stack j = blank 8 := by
    intro j later bound'
    rw [bufOf, scratchpadPageSize, if_pos (by omega), volatilePage,
      writeNvram_outside (by omega) (Or.inr (by omega)), behind j (by omega) (by omega)]
  have start : scratchpadPageSize - 1 = i + 3 + (124 - i) := by
    rw [scratchpadPageSize]
    omega
  simp only [readUpCounter]
  rw [start, readLoop_last (by rw [last]; exact v3) (by omega) (by omega) above,
    Nat.add_sub_cancel]
  constructor
  · intro same
    have first := congrFun same 0
    rw [inside 0] at first
    exact first.symm
  · intro fits
    funext j
    rw [inside j]
    fin_cases j
    · exact fits.symm
    · change v 1 = f.cell (128 + (i + 1)) &&& v 1
      rw [behind _ (by omega) (by omega), blank_and]
    · change v 2 = f.cell (128 + (i + 2)) &&& v 2
      rw [behind _ (by omega) (by omega), blank_and]
    · change v 3 = f.cell (128 + (i + 3)) &&& v 3
      rw [behind _ (by omega) (by omega), blank_and]

/-- The position of a write that does not begin the page anew. -/
theorem writeUpCounter_last (room : f.cell (128 + 125) = blank 8) (last : LastUsed f i) :
    writeUpCounter f v = writeNvram f (128 + (i + i % 2)) v := by
  rw [writeUpCounter_room room (writeIndex_last last), Nat.add_assoc]

theorem recovered_last (room : f.cell (128 + 125) = blank 8) (last : LastUsed f i) (inner : 0 < i)
    (bound : i ≤ 124) (v3 : v 3 ≠ blank 8) :
    Recovered f v ↔ i % 2 = 1 ∨ Fits (f.cell (128 + i)) (v 0) := by
  have behind : ∀ j, i + i % 2 < j → j < 128 → f.cell (128 + j) = blank 8 := fun j later below =>
    last.2.2 j (by omega) below
  have reads := read_written v3 (show (i + i % 2) % 2 = 0 by omega) (by omega) (by omega) behind
  have reaches : f.Reaches (writeUpCounter f v) InPage := by
    rw [writeUpCounter_last room last, writeNvram, Nat.mod_eq_of_lt (by omega), reaches_program,
      List.length_ofFn]
    intro a from_ to_
    rw [InPage, volatilePage, scratchpadPageSize]
    omega
  have fits : Recovered f v ↔ Fits (f.cell (128 + (i + i % 2))) (v 0) := by
    rw [Recovered, writeUpCounter_last room last]
    rw [writeUpCounter_last room last] at reaches
    exact ⟨fun both => (reads _).mp (both.2 fun _ => blank 8),
      fun shared => ⟨reaches, fun stack => (reads stack).mpr shared⟩⟩
  rw [fits]
  rcases Nat.mod_two_eq_zero_or_one i with even | odd
  · rw [even, Nat.add_zero, or_iff_right (by decide)]
  · have free : f.cell (128 + (i + 1)) = blank 8 := last.2.2 _ (Nat.lt_succ_self i) (by omega)
    rw [odd, free]
    exact iff_of_true fits_blank (Or.inl rfl)

/-- Behind the last four octets a write leaves the page. -/
theorem not_reaches (room : f.cell (128 + 125) = blank 8) (last : LastUsed f i) (high : 124 < i) :
    ¬ f.Reaches (writeUpCounter f v) InPage := by
  have inside := last.1
  have other : i ≠ 125 := fun here => last.2.1 (here ▸ room)
  rw [writeUpCounter_last room last, writeNvram, reaches_program, List.length_ofFn]
  intro all
  have cases_ : i = 126 ∨ i = 127 := by omega
  rcases cases_ with rfl | rfl
  · have outside := (all 257 (by decide) (by decide)).2
    rw [volatilePage, scratchpadPageSize] at outside
    exact absurd outside (by decide)
  · have outside := (all 0 (by decide) (by decide)).1
    rw [volatilePage] at outside
    exact absurd outside (by decide)

end writing

/-- The counter is recovered exactly where the condition on the page and the value holds. -/
theorem recovered_iff (f : Medium 8) (v : Counter) : Recovered f v ↔ Kept f v := by
  constructor
  · rintro recovered
    have v3 : v 3 ≠ blank 8 := by
      obtain ⟨fuel, read⟩ := recovered.2 fun _ => blank 8
      exact readLoop_used read
    by_cases room : f.cell (128 + 125) = blank 8
    · rcases blank_or_last f with free | ⟨i, inner, last⟩
      · have first := recovered.2
        rw [writeUpCounter_room room (writeIndex_blank free)] at first
        exact absurd first (not_recovered_first fun j above below => free j (by omega) below)
      · rcases Nat.lt_or_ge 124 i with high | bound
        · exact absurd recovered.1 (not_reaches room last high)
        · exact ⟨room, v3, i, last, inner, bound,
            (recovered_last room last inner bound v3).mp recovered⟩
    · have first := recovered.2
      rw [writeUpCounter_full room] at first
      refine absurd first (not_recovered_first fun j above below => ?_)
      exact eraseNvram_volatile (by omega) (by omega)
  · rintro ⟨room, v3, i, last, inner, bound, shares⟩
    exact (recovered_last room last inner bound v3).mpr shares

/-- After an erasure and any counters, one more is recovered exactly where the condition holds of the
page before it; from an erased page the read does not leave the counter alone. -/
theorem counter_recovered (f : Medium 8) :
    (∀ (before : List Counter) (v : Counter),
      Recovered (run writeUpCounter (eraseNvram f 1) before) v ↔
        Kept (run writeUpCounter (eraseNvram f 1) before) v) ∧
    ∀ old : Counter,
      ¬ ∀ stack, ∃ fuel, readUpCounter fuel (eraseNvram f 1) stack = some old := by
  refine ⟨fun before v => recovered_iff _ v, fun old => not_recovered fun j above below => ?_⟩
  exact eraseNvram_volatile (by omega) (by omega)

/-- The counter 1, its lowest octet last. -/
def one : Counter := fun j => if j = 3 then 1 else 0

/-- The counter 1 on an erased page: on a blank stack the read does not end. -/
theorem counter_lost :
    ¬ Recovered (eraseNvram ⟨fun _ => 0, []⟩ 1) one ∧
    ∀ fuel, readUpCounter fuel (writeUpCounter (eraseNvram ⟨fun _ => 0, []⟩ 1) one)
      (fun _ => blank 8) = none := by
  have erased : ∀ j < 128, (eraseNvram ⟨fun _ => 0, []⟩ 1).cell (128 + j) = blank 8 :=
    fun j below => eraseNvram_volatile (by omega) (by omega)
  have written : ∀ j, 3 < j → j < 128 →
      (writeUpCounter (eraseNvram ⟨fun _ => 0, []⟩ 1) one).cell (128 + j) = blank 8 := by
    intro j above below
    rw [writeUpCounter_room (erased 125 (by decide))
      (writeIndex_blank fun j _ inside => erased j inside),
      writeNvram_outside (by decide) (Or.inr (by omega)), erased j below]
  refine ⟨fun recovered => not_recovered written recovered.2, fun fuel => ?_⟩
  refine readLoop_blank (fun j above => ?_) fuel _
  rw [bufOf]
  split
  · exact written j above ‹_›
  · rfl

end Zboss.NvramCounter
