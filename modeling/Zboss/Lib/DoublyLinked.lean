import Zboss.Lib.Chain

/-!
Doubly linked lists in memory, where the back link of the head leads to the tail.  Nodes
are numbers other than `0`; a back link `0` says that the node is in no list.  Each
operation is the sequence of assignments to links that does it, and one lemma says what
becomes of the list.
-/

namespace Zboss.DoublyLinked

/-- The links of all nodes. -/
structure Links where
  next : ℕ → ℕ
  prev : ℕ → ℕ

namespace Links

def setNext (m : Links) (node target : ℕ) : Links :=
  { m with next := Function.update m.next node target }

def setPrev (m : Links) (node target : ℕ) : Links :=
  { m with prev := Function.update m.prev node target }

/-- The tail of the list. -/
def getTail (m : Links) (list : ℕ) : ℕ := if list ≠ 0 then m.prev list else 0

/-- Take the head off. -/
def cutHead (m : Links) (list : ℕ) : Links × ℕ :=
  if list ≠ 0 then
    let m := if m.next list ≠ 0 then m.setPrev (m.next list) (m.prev list) else m
    let m := m.setPrev list 0
    (m, m.next list)
  else (m, list)

/-- Insert at the head. -/
def insertHead (m : Links) (list ent : ℕ) : Links × ℕ :=
  let m := m.setNext ent list
  let m :=
    if list ≠ 0 then (m.setPrev ent (m.prev list)).setPrev list ent else m.setPrev ent ent
  (m, ent)

/-- Insert at the tail. -/
def insertTail (m : Links) (list ent : ℕ) : Links × ℕ :=
  let m := m.setNext ent 0
  if list ≠ 0 then
    let m := m.setPrev ent (m.prev list)
    let m := m.setNext (m.prev list) ent
    (m.setPrev list ent, list)
  else (m.setPrev ent ent, ent)

/-- Insert after a node of the list. -/
def insertAfter (m : Links) (list ent newEnt : ℕ) : Links × ℕ :=
  if ent ≠ 0 then
    if ent = m.getTail list then m.insertTail list newEnt
    else
      let m := m.setNext newEnt (m.next ent)
      let m := m.setPrev newEnt ent
      let m := m.setPrev (m.next ent) newEnt
      (m.setNext ent newEnt, list)
  else (m, list)

/-- Remove a node. -/
def remove (m : Links) (list ent : ℕ) : Links × ℕ :=
  if m.prev ent ≠ 0 then
    let m := if m.next ent ≠ 0 then m.setPrev (m.next ent) (m.prev ent)
      else m.setPrev list (m.prev ent)
    let (m, list) := if ent = list then (m, m.next ent)
      else (m.setNext (m.prev ent) (m.next ent), list)
    (m.setPrev ent 0, list)
  else (m, list)

end Links

/-- Each node of the list has its predecessor as its back link: `before` comes before the first
one, and `last` is the last one. -/
def Back (prev : ℕ → ℕ) : ℕ → List ℕ → ℕ → Prop
  | before, [], last => before = last
  | before, node :: rest, last => prev node = before ∧ Back prev node rest last

namespace Back

variable {prev prev' : ℕ → ℕ} {before last : ℕ} {l : List ℕ}

theorem congr (back : Back prev before l last) (same : ∀ node ∈ l, prev' node = prev node) :
    Back prev' before l last := by
  induction l generalizing before with
  | nil => exact back
  | cons node rest induction_ =>
    obtain ⟨here, tail⟩ := back
    refine ⟨(same node List.mem_cons_self).trans here, ?_⟩
    exact induction_ tail fun other member => same other (List.mem_cons_of_mem node member)

theorem append_iff {first second : List ℕ} :
    Back prev before (first ++ second) last ↔
      ∃ mid, Back prev before first mid ∧ Back prev mid second last := by
  induction first generalizing before with
  | nil => simp [Back]
  | cons node rest induction_ => simp [Back, induction_, and_assoc]

theorem concat_iff {node : ℕ} :
    Back prev before (l ++ [node]) last ↔ Back prev before l (prev node) ∧ node = last := by
  rw [append_iff]
  constructor
  · rintro ⟨mid, start, rfl, rfl⟩
    exact ⟨start, rfl⟩
  · rintro ⟨start, rfl⟩
    exact ⟨_, start, rfl, rfl⟩

/-- Another node comes before the first one. -/
theorem rehead {node before' : ℕ} (back : Back prev before (node :: l) last)
    (here : prev' node = before') (same : ∀ other ∈ l, prev' other = prev other) :
    Back prev' before' (node :: l) last :=
  ⟨here, back.2.congr same⟩

/-- The last node is what the list ends with. -/
theorem last_mem (back : Back prev before l last) (some_ : l ≠ []) : last ∈ l := by
  obtain rfl | ⟨front, node, rfl⟩ := List.eq_nil_or_concat l
  · contradiction
  · rw [List.concat_eq_append] at back ⊢
    rw [← (concat_iff.mp back).2]
    exact List.mem_append_right _ List.mem_cons_self

end Back

/-- The links form the list from its head on, with the tail behind the head. -/
structure DList (m : Links) (head : ℕ) (l : List ℕ) : Prop where
  chain : Chain m.next head l
  back : ∃ last, Back m.prev last l last
  nodup : l.Nodup

namespace DList

variable {m : Links} {head ent : ℕ} {l : List ℕ}

theorem nil : DList m 0 [] := ⟨rfl, ⟨0, rfl⟩, List.nodup_nil⟩

/-- Links of other nodes do not matter. -/
theorem congr {m' : Links} (dlist : DList m head l) (next : ∀ node ∈ l, m'.next node = m.next node)
    (prev : ∀ node ∈ l, m'.prev node = m.prev node) : DList m' head l where
  chain := dlist.chain.congr next
  back := by
    obtain ⟨last, back⟩ := dlist.back
    exact ⟨last, back.congr prev⟩
  nodup := dlist.nodup

/-- The back link of a node on the list leads somewhere. -/
theorem prev_ne_zero (dlist : DList m head l) (member : ent ∈ l) : m.prev ent ≠ 0 := by
  obtain ⟨last, back⟩ := dlist.back
  obtain ⟨pre, post, rfl⟩ := List.append_of_mem member
  have valid := dlist.chain.ne_zero
  obtain ⟨mid, before, here, -⟩ := Back.append_iff.mp back
  rw [here]
  by_cases empty : pre = []
  · subst empty
    have last_ : last = mid := before
    rw [← last_]
    exact valid last (back.last_mem (List.cons_ne_nil _ _))
  · exact valid mid (List.mem_append_left _ (before.last_mem empty))

/-- The list is empty when its head is null. -/
theorem head_eq_zero_iff (dlist : DList m head l) : head = 0 ↔ l = [] :=
  dlist.chain.head_eq_zero_iff

/-- What the list looks like from its head. -/
theorem cons_elim {node : ℕ} {rest : List ℕ} (dlist : DList m head (node :: rest)) :
    head = node ∧ node ≠ 0 ∧ node ∉ rest ∧ Chain m.next (m.next node) rest ∧
      Back m.prev (m.prev node) (node :: rest) (m.prev node) := by
  obtain ⟨last, back⟩ := dlist.back
  have here : m.prev node = last := back.1
  obtain ⟨first, valid, tail⟩ := dlist.chain
  refine ⟨first, valid, (List.nodup_cons.mp dlist.nodup).1, tail, ?_⟩
  rw [here]
  exact back

/-- The back link of an inner node leads to the one before it. -/
theorem prev_inner {front rest : List ℕ} {before node : ℕ}
    (dlist : DList m head (front ++ before :: node :: rest)) : m.prev node = before := by
  obtain ⟨last, back⟩ := dlist.back
  obtain ⟨mid, -, -, here, -⟩ := Back.append_iff.mp back
  exact here

/-- The back link of the head leads to the tail. -/
theorem prev_head (dlist : DList m head l) (some_ : l ≠ []) :
    ∃ front, l = front ++ [m.prev head] := by
  obtain ⟨first, rest, shape⟩ := List.exists_cons_of_ne_nil some_
  obtain ⟨front, last, concat⟩ := (List.eq_nil_or_concat l).resolve_left some_
  rw [List.concat_eq_append] at concat
  obtain ⟨rfl, -, -, -, back⟩ := (shape ▸ dlist).cons_elim
  rw [← shape, concat] at back
  refine ⟨front, ?_⟩
  rw [concat, (Back.concat_iff.mp back).2]

/-- The node taken off no longer has a back link, and no other forward link has changed. -/
theorem cutHead {node : ℕ} {rest : List ℕ} (dlist : DList m head (node :: rest)) :
    DList (m.cutHead head).1 (m.cutHead head).2 rest ∧ (m.cutHead head).1.next = m.next := by
  obtain ⟨rfl, valid, fresh, chain, back⟩ := dlist.cons_elim
  have nodup := (List.nodup_cons.mp dlist.nodup).2
  cases rest with
  | nil =>
    have null : m.next head = 0 := chain
    have after : m.cutHead head = (m.setPrev head 0, 0) := by
      simp [Links.cutHead, valid, null, Links.setPrev]
    rw [after]
    exact ⟨nil, rfl⟩
  | cons second rest =>
    obtain ⟨next, valid', -⟩ := chain
    have after : m.cutHead head =
        ((m.setPrev second (m.prev head)).setPrev head 0, second) := by
      simp [Links.cutHead, valid, next, valid', Links.setPrev]
    rw [after]
    have apart : second ≠ head := fun same => fresh (same ▸ List.mem_cons_self)
    refine ⟨⟨?_, ⟨m.prev head, ?_⟩, nodup⟩, rfl⟩
    · have path := dlist.chain.tail.2
      rw [next] at path
      exact path
    · refine back.2.rehead ?_ fun other member => ?_
      · simp [Links.setPrev, apart]
      · have notHead : other ≠ head := fun same => fresh (same ▸ List.mem_cons_of_mem _ member)
        have notSecond : other ≠ second :=
          fun same => (List.nodup_cons.mp nodup).1 (same ▸ member)
        simp [Links.setPrev, notHead, notSecond]

theorem insertHead (dlist : DList m head l) (valid : ent ≠ 0) (fresh : ent ∉ l) :
    DList (m.insertHead head ent).1 (m.insertHead head ent).2 (ent :: l) ∧
      ∀ node, node ≠ ent → (m.insertHead head ent).1.next node = m.next node := by
  cases l with
  | nil =>
    have null : head = 0 := dlist.head_eq_zero_iff.mpr rfl
    have after : m.insertHead head ent = ((m.setNext ent 0).setPrev ent ent, ent) := by
      simp [Links.insertHead, null]
    rw [after]
    refine ⟨⟨⟨rfl, valid, ?_⟩, ⟨ent, ?_, rfl⟩, List.nodup_singleton _⟩, fun node other => ?_⟩
    · exact Function.update_self ..
    · exact Function.update_self ..
    · exact Function.update_of_ne other _ _
  | cons first rest =>
    obtain ⟨rfl, validHead, freshHead, chain, back⟩ := dlist.cons_elim
    have apart : ent ≠ head := fun same => fresh (same ▸ List.mem_cons_self)
    have after : m.insertHead head ent =
        (((m.setNext ent head).setPrev ent (m.prev head)).setPrev head ent, ent) := by
      simp [Links.insertHead, validHead, Links.setNext]
    rw [after]
    refine ⟨⟨?_, ⟨m.prev head, ?_, ?_⟩, List.nodup_cons.mpr ⟨fresh, dlist.nodup⟩⟩,
      fun node other => Function.update_of_ne other _ _⟩
    · exact dlist.chain.push valid fresh (Function.update_self ..)
        fun other differs => Function.update_of_ne differs _ _
    · simp [Links.setPrev, apart]
    · refine back.rehead ?_ fun other member => ?_
      · simp [Links.setPrev]
      · have notHead : other ≠ head := fun same => freshHead (same ▸ member)
        have notEnt : other ≠ ent := fun same => fresh (same ▸ List.mem_cons_of_mem _ member)
        simp [Links.setPrev, Links.setNext, notHead, notEnt]

theorem insertTail (dlist : DList m head l) (valid : ent ≠ 0) (fresh : ent ∉ l) :
    DList (m.insertTail head ent).1 (m.insertTail head ent).2 (l ++ [ent]) ∧
      ∀ node ∉ l, node ≠ ent → (m.insertTail head ent).1.next node = m.next node := by
  obtain rfl | ⟨front, last, concat⟩ := List.eq_nil_or_concat l
  · have null : head = 0 := dlist.head_eq_zero_iff.mpr rfl
    have after : m.insertTail head ent = ((m.setNext ent 0).setPrev ent ent, ent) := by
      simp [Links.insertTail, null]
    rw [after]
    refine ⟨⟨⟨rfl, valid, ?_⟩, ⟨ent, ?_, rfl⟩, List.nodup_singleton _⟩, fun node _ other => ?_⟩
    · exact Function.update_self ..
    · exact Function.update_self ..
    · exact Function.update_of_ne other _ _
  · rw [List.concat_eq_append] at concat
    have some_ : l ≠ [] := by rw [concat]; simp
    have validHead : head ≠ 0 := fun null => some_ (dlist.head_eq_zero_iff.mp null)
    obtain ⟨first, rest, shape⟩ := List.exists_cons_of_ne_nil some_
    obtain ⟨rfl, -, freshHead, -, back⟩ := (shape ▸ dlist).cons_elim
    have tail : m.prev head = last := by
      have whole := back
      rw [← shape, concat] at whole
      exact (Back.concat_iff.mp whole).2.symm
    have apart : head ≠ ent := fun same => fresh (by rw [shape, ← same]; exact List.mem_cons_self)
    have after : m.insertTail head ent =
        ((((m.setNext ent 0).setPrev ent last).setNext last ent).setPrev head ent, head) := by
      simp [Links.insertTail, validHead, Links.setNext, Links.setPrev, tail, apart]
    have lastMem : last ∈ l := by rw [concat]; exact List.mem_append_right _ List.mem_cons_self
    have nodup : (front ++ [last]).Nodup := concat ▸ dlist.nodup
    have freshLast : last ∉ front := fun member =>
      (List.nodup_append.mp nodup).2.2 last member last List.mem_cons_self rfl
    have notEnt : ∀ node ∈ l, node ≠ ent := fun node member same => fresh (same ▸ member)
    rw [after]
    refine ⟨⟨?_, ⟨ent, ?_⟩, ?_⟩, fun node outside other => ?_⟩
    · have path : Path m.next head (front ++ [last]) 0 := concat ▸ dlist.chain.path
      rw [concat]
      refine Chain.append_iff.mpr ⟨ent, path.retarget (fun other member => ?_) ?_, rfl, valid, ?_⟩
      · have notLast : other ≠ last := fun same => freshLast (same ▸ member)
        have apart := notEnt other (by rw [concat]; exact List.mem_append_left _ member)
        simp [Links.setPrev, Links.setNext, notLast, apart]
      · simp [Links.setPrev, Links.setNext]
      · simp [Chain, Links.setPrev, Links.setNext, (notEnt last lastMem).symm]
    · rw [Back.concat_iff, shape]
      refine ⟨?_, rfl⟩
      have old : Back m.prev (m.prev head) (head :: rest) last := tail ▸ back
      have tail' : ((((m.setNext ent 0).setPrev ent last).setNext last ent).setPrev head ent).prev
          ent = last := by
        simp [Links.setPrev, Links.setNext, apart.symm]
      rw [tail']
      refine old.rehead ?_ fun other member => ?_
      · simp [Links.setPrev]
      · have notHead : other ≠ head := fun same => freshHead (same ▸ member)
        have apart := notEnt other (by rw [shape]; exact List.mem_cons_of_mem _ member)
        simp [Links.setPrev, Links.setNext, notHead, apart]
    · refine List.nodup_append.mpr ⟨dlist.nodup, List.nodup_singleton _, ?_⟩
      intro node member node' member' same
      rw [List.mem_singleton.mp member'] at same
      exact notEnt node member same
    · have notLast : node ≠ last := fun same => outside (same ▸ lastMem)
      simp [Links.setPrev, Links.setNext, notLast, other]

/-- A node of the list is followed by a new one. -/
theorem insertAfter {pre post : List ℕ} {node newEnt : ℕ}
    (dlist : DList m head (pre ++ node :: post)) (valid : newEnt ≠ 0)
    (fresh : newEnt ∉ pre ++ node :: post) :
    DList (m.insertAfter head node newEnt).1 (m.insertAfter head node newEnt).2
        (pre ++ node :: newEnt :: post) ∧
      ∀ other ∉ pre ++ node :: post, other ≠ newEnt →
        (m.insertAfter head node newEnt).1.next other = m.next other := by
  have validNode := dlist.chain.ne_zero node (List.mem_append_right _ List.mem_cons_self)
  have validHead : head ≠ 0 := fun null => by
    have empty := dlist.head_eq_zero_iff.mp null
    simp at empty
  obtain ⟨last, back⟩ := dlist.back
  have tail : m.getTail head = last := by
    obtain ⟨first, rest, shape⟩ := List.exists_cons_of_ne_nil
      (List.append_ne_nil_of_right_ne_nil pre (List.cons_ne_nil node post))
    rw [shape] at back
    have first_ : head = first := by
      have chain := dlist.chain
      rw [shape] at chain
      exact chain.1
    rw [Links.getTail, if_pos validHead, first_]
    exact back.1
  cases post with
  | nil =>
    have isTail : node = m.getTail head := tail ▸ (Back.concat_iff.mp back).2
    have after : m.insertAfter head node newEnt = m.insertTail head newEnt := by
      rw [Links.insertAfter, if_pos validNode, if_pos isTail]
    rw [after]
    have inserted := dlist.insertTail valid fresh
    rwa [List.append_assoc] at inserted
  | cons second rest =>
    obtain ⟨mid, before, here, next⟩ := Back.append_iff.mp back
    obtain ⟨-, nodupPost, disjoint⟩ := List.nodup_append.mp dlist.nodup
    obtain ⟨freshNode, nodupRest⟩ := List.nodup_cons.mp nodupPost
    obtain ⟨freshSecond, -⟩ := List.nodup_cons.mp nodupRest
    have notTail : node ≠ m.getTail head := by
      rw [tail]
      exact fun same => freshNode (same ▸ next.last_mem (List.cons_ne_nil _ _))
    obtain ⟨at_, path, first_, -, link, validSecond, chain⟩ := Chain.append_iff.mp dlist.chain
    have notNew : ∀ other ∈ pre ++ node :: second :: rest, other ≠ newEnt :=
      fun other member same => fresh (same ▸ member)
    have apart : node ≠ newEnt := notNew node (by simp)
    have after : m.insertAfter head node newEnt =
        ((((m.setNext newEnt second).setPrev newEnt node).setPrev second newEnt).setNext node newEnt,
          head) := by
      simp [Links.insertAfter, validNode, notTail, Links.setNext, Links.setPrev, link, apart]
    have nextOther : ∀ other, other ≠ node → other ≠ newEnt →
        (m.insertAfter head node newEnt).1.next other = m.next other := by
      intro other notNode notEnt
      simp [after, Links.setNext, Links.setPrev, notNode, notEnt]
    have prevOther : ∀ other, other ≠ second → other ≠ newEnt →
        (m.insertAfter head node newEnt).1.prev other = m.prev other := by
      intro other notSecond notEnt
      simp [after, Links.setNext, Links.setPrev, notSecond, notEnt]
    have nextNode : (m.insertAfter head node newEnt).1.next node = newEnt := by
      simp [after, Links.setNext]
    have nextNew : (m.insertAfter head node newEnt).1.next newEnt = second := by
      simp [after, Links.setNext, Links.setPrev, apart.symm]
    have prevNew : (m.insertAfter head node newEnt).1.prev newEnt = node := by
      simp [after, Links.setNext, Links.setPrev, (notNew second (by simp)).symm]
    have prevSecond : (m.insertAfter head node newEnt).1.prev second = newEnt := by
      simp [after, Links.setNext, Links.setPrev]
    have sameHead : (m.insertAfter head node newEnt).2 = head := by rw [after]
    generalize m.insertAfter head node newEnt = result at *
    rw [sameHead]
    refine ⟨⟨?_, ⟨last, ?_⟩, ?_⟩, fun other outside differs => ?_⟩
    · rw [Chain.append_iff]
      refine ⟨at_, path.congr fun other member => ?_, first_, validNode, ?_⟩
      · exact nextOther other (disjoint other member node List.mem_cons_self)
          (notNew other (List.mem_append_left _ member))
      · rw [nextNode]
        refine ⟨rfl, valid, ?_⟩
        rw [nextNew]
        refine ⟨rfl, validSecond, ?_⟩
        rw [nextOther second (fun same => freshNode (same ▸ List.mem_cons_self))
          (notNew second (by simp))]
        exact chain.congr fun other member => nextOther other
          (fun same => freshNode (same ▸ List.mem_cons_of_mem _ member))
          (notNew other (by simp [member]))
    · rw [Back.append_iff]
      refine ⟨mid, before.congr fun other member => ?_, ?_, prevNew, ?_⟩
      · exact prevOther other (disjoint other member second (by simp))
          (notNew other (List.mem_append_left _ member))
      · rw [prevOther node (fun same => freshNode (same ▸ List.mem_cons_self)) apart]
        exact here
      · refine next.rehead prevSecond fun other member => ?_
        exact prevOther other (fun same => freshSecond (same ▸ member))
          (notNew other (by simp [member]))
    · have parts : pre ++ node :: newEnt :: second :: rest =
          (pre ++ [node]) ++ newEnt :: second :: rest := by simp
      have fresh' : newEnt ∉ (pre ++ [node]) ++ second :: rest := by simpa using fresh
      rw [parts]
      refine (List.nodup_middle).mpr (List.nodup_cons.mpr ⟨fresh', ?_⟩)
      simpa using dlist.nodup
    · exact nextOther other (fun same => outside (by simp [same])) differs

theorem remove_head {rest : List ℕ} (dlist : DList m head (head :: rest)) :
    m.remove head head = m.cutHead head := by
  have valid := dlist.chain.ne_zero head List.mem_cons_self
  have linked := dlist.prev_ne_zero List.mem_cons_self
  by_cases null : m.next head = 0
  · simp [Links.remove, Links.cutHead, valid, linked, null, Links.setPrev]
  · simp [Links.remove, Links.cutHead, valid, linked, null, Links.setPrev]

/-- Any other node has one before it, which is linked to the one behind. -/
theorem remove_inner {front post : List ℕ} {before node : ℕ}
    (dlist : DList m head (front ++ before :: node :: post)) :
    DList (m.remove head node).1 (m.remove head node).2 (front ++ before :: post) ∧
      ∀ other, other ≠ before → (m.remove head node).1.next other = m.next other := by
  have linked : m.prev node ≠ 0 := dlist.prev_ne_zero (by simp)
  obtain ⟨last, back⟩ := dlist.back
  obtain ⟨mid, backFront, backBefore, backNode, backPost⟩ := Back.append_iff.mp back
  obtain ⟨at_, path, first_, validBefore, link, -, chain⟩ := Chain.append_iff.mp dlist.chain
  obtain ⟨-, nodup, disjoint⟩ := List.nodup_append.mp dlist.nodup
  obtain ⟨freshBefore, nodup'⟩ := List.nodup_cons.mp nodup
  obtain ⟨freshNode, nodupPost⟩ := List.nodup_cons.mp nodup'
  have beforeNode : before ≠ node := fun same => freshBefore (same ▸ List.mem_cons_self)
  -- the list starts with `front` or with `before`
  obtain ⟨first, rest, start⟩ : ∃ first rest, front ++ [before] = first :: rest :=
    List.exists_cons_of_ne_nil (by simp)
  have whole : front ++ before :: node :: post = first :: (rest ++ node :: post) := by
    rw [← List.cons_append, ← start, List.append_assoc]
    rfl
  have head_ : head = first := by
    have chain := dlist.chain
    rw [whole] at chain
    exact chain.1
  have headMem : head ∈ front ++ [before] := by
    rw [head_, start]
    exact List.mem_cons_self
  have notHead : node ≠ head := by
    rintro rfl
    rcases List.mem_append.mp headMem with inFront | isBefore
    · exact disjoint node inFront node (by simp) rfl
    · exact beforeNode (List.mem_singleton.mp isBefore).symm
  have notSelf : m.next node ≠ node := by
    intro self
    cases post with
    | nil => exact dlist.chain.ne_zero node (by simp) (self.symm.trans chain)
    | cons second rest => exact freshNode (self ▸ chain.1 ▸ List.mem_cons_self)
  have after : m.remove head node =
      (((if m.next node ≠ 0 then m.setPrev (m.next node) before else m.setPrev head before).setNext
        before (m.next node)).setPrev node 0, head) := by
    by_cases null : m.next node = 0 <;>
      simp [Links.remove, validBefore, null, notHead, Links.setPrev, backNode, notSelf.symm]
  have nextBefore : (m.remove head node).1.next before = m.next node := by
    simp [after, Links.setNext, Links.setPrev]
  have nextOther : ∀ other, other ≠ before → (m.remove head node).1.next other = m.next other := by
    intro other differs
    rw [after]
    by_cases null : m.next node = 0 <;> simp [null, Links.setNext, Links.setPrev, differs]
  have prevOther : ∀ other, other ≠ node →
      other ≠ (if m.next node ≠ 0 then m.next node else head) →
      (m.remove head node).1.prev other = m.prev other := by
    intro other notNode differs
    rw [after]
    by_cases null : m.next node = 0 <;>
      simp [null, Links.setNext, Links.setPrev, notNode] at differs ⊢ <;> simp [differs]
  have prevMoved : (m.remove head node).1.prev (if m.next node ≠ 0 then m.next node else head) =
      if (if m.next node ≠ 0 then m.next node else head) = node then 0 else before := by
    rw [after]
    by_cases null : m.next node = 0 <;>
      simp [null, Links.setNext, Links.setPrev, Function.update_apply]
  have sameHead : (m.remove head node).2 = head := by rw [after]
  generalize m.remove head node = result at *
  rw [sameHead]
  have chain' : Chain result.1.next head (front ++ before :: post) := by
    rw [Chain.append_iff]
    refine ⟨at_, path.congr fun other member => nextOther other ?_, first_, validBefore, ?_⟩
    · exact disjoint other member before List.mem_cons_self
    · rw [nextBefore]
      refine chain.congr fun other member => nextOther other ?_
      exact fun same => freshBefore (same ▸ List.mem_cons_of_mem _ member)
  have nodup_ : (front ++ before :: post).Nodup := by
    refine dlist.nodup.sublist (List.Sublist.append_left ?_ front)
    exact List.Sublist.cons_cons before (List.sublist_cons_self node post)
  refine ⟨⟨chain', ?_, nodup_⟩, nextOther⟩
  cases post with
  | nil =>
    -- the tail goes, and the head gets the new tail as its back link
    have null : m.next node = 0 := chain
    rw [null, if_neg (not_not_intro rfl)] at prevOther prevMoved
    refine ⟨before, ?_⟩
    have old : Back m.prev last (front ++ [before]) before :=
      Back.append_iff.mpr ⟨mid, backFront, backBefore, rfl⟩
    rw [start] at old ⊢
    have nodupStart : (first :: rest).Nodup := start ▸ nodup_
    refine old.rehead ?_ fun other member => prevOther other ?_ ?_
    · rw [← head_, prevMoved, if_neg notHead.symm]
    · rintro rfl
      have inside : other ∈ front ++ [before] := start ▸ List.mem_cons_of_mem first member
      rcases List.mem_append.mp inside with inFront | isBefore
      · exact disjoint other inFront other (by simp) rfl
      · exact beforeNode (List.mem_singleton.mp isBefore).symm
    · rintro rfl
      exact (List.nodup_cons.mp nodupStart).1 (head_ ▸ member)
  | cons second tail =>
    obtain ⟨next, validSecond, -⟩ := chain
    rw [next, if_pos validSecond] at prevOther prevMoved
    have notNode : second ≠ node := fun same => freshNode (same ▸ List.mem_cons_self)
    refine ⟨last, Back.append_iff.mpr ⟨mid, backFront.congr fun other member => ?_, ?_, ?_⟩⟩
    · exact prevOther other (disjoint other member node (by simp))
        (disjoint other member second (by simp))
    · rw [prevOther before beforeNode (fun same => freshBefore (by simp [same]))]
      exact backBefore
    · refine backPost.rehead ?_ fun other member => prevOther other ?_ ?_
      · rw [prevMoved, if_neg notNode]
      · exact fun same => freshNode (same ▸ List.mem_cons_of_mem _ member)
      · exact fun same => (List.nodup_cons.mp nodupPost).1 (same ▸ member)

/-- The node removed is taken out of the list; forward links change only on the list. -/
theorem remove {pre post : List ℕ} {node : ℕ} (dlist : DList m head (pre ++ node :: post)) :
    DList (m.remove head node).1 (m.remove head node).2 (pre ++ post) ∧
      ∀ other ∉ pre, (m.remove head node).1.next other = m.next other := by
  obtain rfl | ⟨front, before, concat⟩ := List.eq_nil_or_concat pre
  · obtain ⟨rfl, -⟩ := dlist.chain.tail
    rw [dlist.remove_head]
    obtain ⟨taken, next⟩ := dlist.cutHead
    exact ⟨taken, fun other _ => congrFun next other⟩
  · rw [List.concat_eq_append] at concat
    subst concat
    rw [List.append_assoc] at dlist ⊢
    obtain ⟨removed, next⟩ := dlist.remove_inner
    refine ⟨removed, fun other outside => next other fun same => outside ?_⟩
    rw [same]
    exact List.mem_append_right _ List.mem_cons_self

end DList

end Zboss.DoublyLinked
