import Mathlib.Tactic.Common

/-!
A table of slots, some of which hold a key, together with an index from keys to
slots.  The two are inverse partial functions; the lemmas say how filling,
clearing and moving a slot keep them so when the index follows.
-/

namespace Zboss

/-- The slot `a` holds the key `b` exactly when the index of `b` is `a`. -/
def ReverseIndex {α β : Type*} (held : α → Option β) (index : β → Option α) : Prop :=
  ∀ a b, index b = some a ↔ held a = some b

namespace ReverseIndex

variable {α β : Type*} [DecidableEq α] [DecidableEq β] {held : α → Option β}
  {index : β → Option α} {a a' : α} {b : β}

omit [DecidableEq α] [DecidableEq β] in
/-- Two slots never hold one key. -/
theorem injective (inverse : ReverseIndex held index) (first : held a = some b)
    (second : held a' = some b) : a = a' := by
  rw [← inverse] at first second
  exact Option.some.inj (first.symm.trans second)

/-- Filling an empty slot with a key that is not indexed. -/
theorem fill (inverse : ReverseIndex held index) (empty : held a = none)
    (absent : index b = none) :
    ReverseIndex (Function.update held a (some b)) (Function.update index b (some a)) := by
  intro slot key
  by_cases sameKey : key = b
  · subst sameKey
    rw [Function.update_self]
    by_cases sameSlot : slot = a
    · rw [sameSlot, Function.update_self]
      simp
    · rw [Function.update_of_ne sameSlot, ← inverse, absent]
      simp [Ne.symm sameSlot]
  · rw [Function.update_of_ne sameKey, inverse]
    by_cases sameSlot : slot = a
    · rw [sameSlot, Function.update_self, empty]
      simp [Ne.symm sameKey]
    · rw [Function.update_of_ne sameSlot]

/-- Clearing a slot and the index of its key. -/
theorem clear (inverse : ReverseIndex held index) (full : held a = some b) :
    ReverseIndex (Function.update held a none) (Function.update index b none) := by
  intro slot key
  by_cases sameKey : key = b
  · subst sameKey
    rw [Function.update_self]
    by_cases sameSlot : slot = a
    · rw [sameSlot, Function.update_self]
      simp
    · rw [Function.update_of_ne sameSlot]
      constructor
      · intro impossible
        cases impossible
      · intro other
        exact absurd (inverse.injective other full) sameSlot
  · rw [Function.update_of_ne sameKey, inverse]
    by_cases sameSlot : slot = a
    · rw [sameSlot, Function.update_self, full]
      simp [Ne.symm sameKey]
    · rw [Function.update_of_ne sameSlot]

/-- Moving a key to an empty slot. -/
theorem move (inverse : ReverseIndex held index) (full : held a = some b)
    (empty : held a' = none) :
    ReverseIndex (Function.update (Function.update held a none) a' (some b))
      (Function.update index b (some a')) := by
  have apart : a' ≠ a := by
    rintro rfl
    rw [full] at empty
    cases empty
  have emptied : Function.update held a none a' = none := by
    rw [Function.update_of_ne apart, empty]
  have moved := (inverse.clear full).fill emptied (Function.update_self b none index)
  rwa [Function.update_idem] at moved

end ReverseIndex

end Zboss
