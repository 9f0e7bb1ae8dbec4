import Zboss.Lib.SlotTable

/-!
A slot table in which no two used entries have one key is a partial map from keys to entries.
Rewriting, adding and giving back an entry change the map in the key of that entry alone.
-/

namespace Zboss.SlotTable.Table

variable {α κ : Type*} [DecidableEq κ] {size : ℕ} {t : Table α size} {key : α → κ} {i : ℕ} {k : κ}

/-- The first used slot with the key. -/
def findKey (t : Table α size) (key : α → κ) (k : κ) : Option ℕ :=
  t.findEnt fun ent => decide (key ent = k)

/-- The entry of a key. -/
def lookup (t : Table α size) (key : α → κ) (k : κ) : Option α :=
  (t.findKey key k).map fun i => (t.slots i).ent

/-- Used entries have keys of their own. -/
def Distinct (t : Table α size) (key : α → κ) : Prop :=
  ∀ i < size, ∀ j < size, (t.slots i).used = true → (t.slots j).used = true →
    key (t.slots i).ent = key (t.slots j).ent → i = j

omit [DecidableEq κ] in
theorem distinct_cleared (ent : α) : (cleared ent : Table α size).Distinct key := by
  intro i _ j _ used
  cases used

theorem findKey_spec (found : t.findKey key k = some i) :
    i < size ∧ (t.slots i).used = true ∧ key (t.slots i).ent = k := by
  obtain ⟨inside, used, same⟩ := findEnt_spec found
  exact ⟨inside, used, by simpa using same⟩

theorem findKey_none (missing : t.findKey key k = none) {j : ℕ} (inside : j < size)
    (used : (t.slots j).used = true) : key (t.slots j).ent ≠ k := by
  have fails := List.find?_eq_none.mp missing j (List.mem_range.mpr inside)
  simpa [used] using fails

theorem findKey_isSome (inside : i < size) (used : (t.slots i).used = true)
    (same : key (t.slots i).ent = k) : ∃ j, t.findKey key k = some j := by
  cases found : t.findKey key k with
  | some j => exact ⟨j, rfl⟩
  | none => exact absurd same (findKey_none found inside used)

theorem lookup_of_findKey (found : t.findKey key k = some i) :
    t.lookup key k = some (t.slots i).ent := by
  rw [lookup, found, Option.map_some]

theorem lookup_eq_none_iff : t.lookup key k = none ↔ t.findKey key k = none := by
  rw [lookup, Option.map_eq_none_iff]

/-- The entries of the map are the used ones. -/
theorem Distinct.lookup_eq_some_iff (distinct : t.Distinct key) {ent : α} :
    t.lookup key k = some ent ↔
      ∃ i < size, (t.slots i).used = true ∧ key (t.slots i).ent = k ∧ (t.slots i).ent = ent := by
  constructor
  · intro got
    obtain ⟨i, found, same⟩ := Option.map_eq_some_iff.mp got
    obtain ⟨inside, used, keyed⟩ := findKey_spec found
    exact ⟨i, inside, used, keyed, same⟩
  · rintro ⟨i, inside, used, keyed, rfl⟩
    obtain ⟨j, found⟩ := findKey_isSome inside used keyed
    obtain ⟨jInside, jUsed, jKeyed⟩ := findKey_spec found
    have here := distinct i inside j jInside used jUsed (keyed.trans jKeyed.symm)
    rw [lookup_of_findKey found, here]

/-- The map of a table that is known slot by slot. -/
private theorem lookup_eq_update {t' : Table α size} (distinct : t.Distinct key)
    (distinct' : t'.Distinct key) (inside : i < size) {slot : Option α}
    (there : ∀ j < size, j ≠ i → t'.slots j = t.slots j)
    (before : (t.slots i).used = true → key (t.slots i).ent = k)
    (absent : (t.slots i).used = false → t.lookup key k = none)
    (after : slot = if (t'.slots i).used then some (t'.slots i).ent else none)
    (keyed : (t'.slots i).used = true → key (t'.slots i).ent = k) :
    t'.lookup key = Function.update (t.lookup key) k slot := by
  funext k'
  apply Option.ext
  intro ent
  by_cases same : k' = k
  · subst same
    rw [Function.update_self, distinct'.lookup_eq_some_iff, after]
    constructor
    · rintro ⟨j, jInside, used, jKeyed, rfl⟩
      by_cases here : j = i
      · subst here
        rw [if_pos used]
      · rw [there j jInside here] at used jKeyed
        cases now : (t.slots i).used with
        | true =>
          exact absurd (distinct j jInside i inside used now (jKeyed.trans (before now).symm)) here
        | false =>
          exact absurd jKeyed (findKey_none (lookup_eq_none_iff.mp (absent now)) jInside used)
    · intro got
      split at got
      · rename_i used
        exact ⟨i, inside, used, keyed used, Option.some.inj got⟩
      · cases got
  · rw [Function.update_of_ne same, distinct'.lookup_eq_some_iff, distinct.lookup_eq_some_iff]
    constructor
    · rintro ⟨j, jInside, used, jKeyed, rfl⟩
      have other : j ≠ i := by
        rintro rfl
        exact same (jKeyed.symm.trans (keyed used))
      rw [there j jInside other] at used jKeyed ⊢
      exact ⟨j, jInside, used, jKeyed, rfl⟩
    · rintro ⟨j, jInside, used, jKeyed, rfl⟩
      have other : j ≠ i := by
        rintro rfl
        exact same (jKeyed.symm.trans (before used))
      refine ⟨j, jInside, ?_⟩
      rw [there j jInside other]
      exact ⟨used, jKeyed, rfl⟩

/-! ### The three changes -/

omit [DecidableEq κ] in
theorem Distinct.modify (distinct : t.Distinct key) {f : α → α}
    (same : key (f (t.slots i).ent) = key (t.slots i).ent) : (t.modify i f).Distinct key := by
  have keys : ∀ j, key ((t.modify i f).slots j).ent = key (t.slots j).ent := by
    intro j
    by_cases here : j = i
    · subst here
      rw [modify_ent, same]
    · rw [modify_slots_of_ne f here]
  intro a aInside b bInside aUsed bUsed equal
  rw [modify_used] at aUsed bUsed
  rw [keys, keys] at equal
  exact distinct a aInside b bInside aUsed bUsed equal

/-- A rewritten entry. -/
theorem Distinct.lookup_modify (distinct : t.Distinct key) {f : α → α} (inside : i < size)
    (used : (t.slots i).used = true) (same : key (f (t.slots i).ent) = key (t.slots i).ent) :
    (t.modify i f).lookup key =
      Function.update (t.lookup key) (key (t.slots i).ent) (some (f (t.slots i).ent)) := by
  refine lookup_eq_update distinct (distinct.modify same) inside
    (fun j _ other => modify_slots_of_ne f other) (fun _ => rfl) ?_ ?_ ?_
  · intro free
    rw [free] at used
    cases used
  · rw [modify_used, if_pos used, modify_ent]
  · intro _
    rw [modify_ent, same]

theorem Distinct.insert {t' : Table α size} (distinct : t.Distinct key)
    (got : t.getEnt = some (i, t')) (missing : t.findKey key k = none) {f : α → α}
    (keyed : key (f (t.slots i).ent) = k) : (t'.modify i f).Distinct key := by
  obtain ⟨-, -, rfl, -⟩ := getEnt_spec got
  have old : ∀ j < size, j ≠ i → ((t.mark i true) j).used = true →
      key ((t.mark i true) j).ent ≠ k := by
    intro j inside other used
    rw [mark_used, if_neg other] at used
    rw [mark_ent]
    exact findKey_none missing inside used
  have new : key (((⟨t.mark i true, t.cnt + 1⟩ : Table α size).modify i f).slots i).ent = k := by
    rw [modify_ent, mark_ent, keyed]
  intro a aInside b bInside aUsed bUsed equal
  rw [modify_used] at aUsed bUsed
  by_cases aHere : a = i
  · by_cases bHere : b = i
    · rw [aHere, bHere]
    · subst aHere
      rw [new, modify_slots_of_ne f bHere] at equal
      exact absurd equal.symm (old b bInside bHere bUsed)
  · by_cases bHere : b = i
    · subst bHere
      rw [new, modify_slots_of_ne f aHere] at equal
      exact absurd equal (old a aInside aHere aUsed)
    · rw [modify_slots_of_ne f aHere, modify_slots_of_ne f bHere] at equal
      rw [mark_used, if_neg aHere] at aUsed
      rw [mark_used, if_neg bHere] at bUsed
      rw [mark_ent, mark_ent] at equal
      exact distinct a aInside b bInside aUsed bUsed equal

/-- A new entry. -/
theorem Distinct.lookup_insert {t' : Table α size} (distinct : t.Distinct key)
    (got : t.getEnt = some (i, t')) (missing : t.findKey key k = none) {f : α → α}
    (keyed : key (f (t.slots i).ent) = k) :
    (t'.modify i f).lookup key = Function.update (t.lookup key) k (some (f (t.slots i).ent)) := by
  have distinct' := distinct.insert got missing keyed
  obtain ⟨inside, free, rfl, -⟩ := getEnt_spec got
  refine lookup_eq_update distinct distinct' inside ?_ ?_ ?_ ?_ ?_
  · intro j _ other
    rw [modify_slots_of_ne f other]
    simp [mark, other]
  · intro used
    rw [free] at used
    cases used
  · exact fun _ => lookup_eq_none_iff.mpr missing
  · simp
  · intro _
    rw [modify_ent, mark_ent, keyed]

omit [DecidableEq κ] in
theorem Distinct.putEnt (distinct : t.Distinct key) (i : ℕ) : (t.putEnt i).Distinct key := by
  intro a aInside b bInside aUsed bUsed equal
  rw [Table.putEnt, mark_used] at aUsed bUsed
  rw [Table.putEnt, mark_ent, mark_ent] at equal
  split at aUsed
  · cases aUsed
  split at bUsed
  · cases bUsed
  exact distinct a aInside b bInside aUsed bUsed equal

/-- An entry given back. -/
theorem Distinct.lookup_putEnt (distinct : t.Distinct key) (inside : i < size)
    (used : (t.slots i).used = true) :
    (t.putEnt i).lookup key = Function.update (t.lookup key) (key (t.slots i).ent) none := by
  refine lookup_eq_update distinct (distinct.putEnt i) inside ?_ (fun _ => rfl) ?_ ?_ ?_
  · intro j _ other
    simp [Table.putEnt, mark, other]
  · intro free
    rw [free] at used
    cases used
  · simp [Table.putEnt]
  · simp [Table.putEnt]

end Zboss.SlotTable.Table
