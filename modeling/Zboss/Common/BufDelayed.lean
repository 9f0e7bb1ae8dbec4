import Mathlib.Data.List.Infix
import Mathlib.Data.List.GetD
import Zboss.Common.BufPool

/-!
Delayed allocation: the buffer pool and the callback ring together.  A request that
is accepted gets a ticket, and the ledger beside the pool records where each ticket
is, waiting or scheduled with its buffer, and which buffers have an owner.  A full
ring breaks the books in two places, both of which ignore that it refused.
-/

namespace Zboss.BufPool

open Zboss.Run

/-- The pool with the ledger of its requests.  `called` are the callbacks the
scheduler is done with. -/
structure Ledger where
  pool : Globals
  accepted : List (Callback × Bool)
  waiting : Bool → List ℕ
  scheduled : List (ℕ × ℕ)
  owned : List ℕ
  called : List (Callback × ℕ)

/-- The callbacks waiting for a buffer of one direction. -/
def queueOf (g : Globals) (isIn : Bool) : List Callback :=
  if isIn then g.inbufQueue else g.outbufQueue

/-- A buffer freed now goes to a waiting callback of its direction. -/
def PassesOn (g : Globals) (isIn : Bool) : Prop := isIn = true → g.rxNeedBuf = false

instance (g : Globals) (isIn : Bool) : Decidable (PassesOn g isIn) :=
  inferInstanceAs (Decidable (_ → _))

/-- The ring takes another callback. -/
def RingRoom (g : Globals) : Prop := g.cbQ.length < schedulerQSize

instance (g : Globals) : Decidable (RingRoom g) := inferInstanceAs (Decidable (_ < _))

/-- What the users of pool and scheduler do.  A callback leaves the ring when it has
returned; what it does meanwhile are steps of its own. -/
inductive Request
  | getBuf (isIn : Bool)
  | getBufDelayed (callback : Callback) (isIn : Bool)
  | freeBuf (buf : ℕ)
  | writeHdr (buf word : ℕ)
  | scheduleCallback (func : Callback) (param : ℕ)
  | callbackDone
  | setRxNeedBuf (rxNeedBuf : Bool)

/-- The step of the pool a request is. -/
def Request.op (g : Globals) : Request → Op
  | .getBuf true => .getInBuf
  | .getBuf false => .getOutBuf
  | .getBufDelayed callback true => .getInBufDelayed callback
  | .getBufDelayed callback false => .getOutBufDelayed callback
  | .freeBuf buf => .freeBuf buf
  | .writeHdr buf word => .writeHdr buf word
  | .scheduleCallback func param => .scheduler (BufPool.scheduleCallback g func param).1.cbQ
  | .callbackDone => .scheduler g.cbQ.tail
  | .setRxNeedBuf rxNeedBuf => .setRxNeedBuf rxNeedBuf

/-- Enter an accepted request, served at once or waiting. -/
def Ledger.accept (l : Ledger) (callback : Callback) (isIn : Bool) (buf : ℕ) : Ledger :=
  if buf ≠ 0 then
    { l with
      accepted := l.accepted ++ [(callback, isIn)]
      scheduled := l.scheduled ++ [(l.accepted.length, buf)]
      owned := buf :: l.owned }
  else
    { l with
      accepted := l.accepted ++ [(callback, isIn)]
      waiting := Function.update l.waiting isIn (l.waiting isIn ++ [l.accepted.length]) }

/-- Enter what a freed buffer does to the first waiting ticket. -/
def Ledger.passOn (l : Ledger) (isIn : Bool) (buf : ℕ) (room : Bool) : Ledger :=
  match l.waiting isIn with
  | [] => l
  | ticket :: rest =>
    if room then
      { l with
        waiting := Function.update l.waiting isIn rest
        scheduled := l.scheduled ++ [(ticket, buf)]
        owned := buf :: l.owned }
    else { l with waiting := Function.update l.waiting isIn rest }

/-- The ledger after a request, beside the pool before it. -/
def Ledger.enter (l : Ledger) : Request → Ledger
  | .getBuf isIn =>
    let buf := (BufPool.getBuf l.pool isIn).2
    if buf ≠ 0 then { l with owned := buf :: l.owned } else l
  | .getBufDelayed callback isIn =>
    if (BufPool.getBufDelayed l.pool callback isIn).2 then
      l.accept callback isIn (BufPool.getBuf l.pool isIn).2
    else l
  | .freeBuf buf =>
    let isIn := (l.pool.hdr buf).isInBuf
    let l := { l with owned := l.owned.erase buf }
    if PassesOn l.pool isIn then
      l.passOn isIn (BufPool.getBuf (releaseBuf l.pool buf) isIn).2 (decide (RingRoom l.pool))
    else l
  | .callbackDone => { l with called := l.called ++ l.pool.cbQ.head?.toList }
  | .writeHdr .. | .scheduleCallback .. | .setRxNeedBuf _ => l

def Ledger.step (l : Ledger) (r : Request) : Ledger :=
  { l.enter r with pool := BufPool.step l.pool (r.op l.pool) }

/-- The pool after its initialisation and an empty ledger. -/
def Ledger.init : Ledger where
  pool := initBuffers .zero
  accepted := []
  waiting _ := []
  scheduled := []
  owned := []
  called := []

/-- Buffers are freed by their holders, and the ring has room where the pool
schedules a callback.  While a callback waits, the last buffer of its direction is not
withheld for a packet. -/
def Clean (l : Ledger) : Request → Prop
  | .getBufDelayed _ isIn => l.pool.bufsAllocated isIn < bufsLimit → RingRoom l.pool
  | .freeBuf buf => buf ∈ l.pool.held ∧
      (PassesOn l.pool (l.pool.hdr buf).isInBuf →
        queueOf l.pool (l.pool.hdr buf).isInBuf ≠ [] → RingRoom l.pool) ∧
      (¬ PassesOn l.pool (l.pool.hdr buf).isInBuf →
        queueOf l.pool (l.pool.hdr buf).isInBuf ≠ [] →
          1 < l.pool.bufsAllocated (l.pool.hdr buf).isInBuf)
  | .writeHdr buf _ => buf ∈ l.pool.held
  | .getBuf _ | .scheduleCallback .. | .callbackDone | .setRxNeedBuf _ => True

instance (l : Ledger) : DecidablePred (Clean l)
  | .getBufDelayed .. => inferInstanceAs (Decidable (_ → _))
  | .freeBuf _ => inferInstanceAs (Decidable (_ ∧ (_ → _ → _) ∧ (_ → _ → _)))
  | .writeHdr .. => inferInstanceAs (Decidable (_ ∈ _))
  | .getBuf _ | .scheduleCallback .. | .callbackDone | .setRxNeedBuf _ => isTrue trivial

/-! ## The pool's operations on queues and ring -/

variable {g : Globals} {l : Ledger}

/-- Set the callbacks waiting for a buffer of one direction. -/
def setQueue (g : Globals) (isIn : Bool) (queue : List Callback) : Globals :=
  if isIn then { g with inbufQueue := queue } else { g with outbufQueue := queue }

theorem queueOf_setQueue (isIn k : Bool) (queue : List Callback) :
    queueOf (setQueue g isIn queue) k = if k = isIn then queue else queueOf g k := by
  cases isIn <;> cases k <;> rfl

/-- What a direct request leaves as it was. -/
theorem getBuf_keeps (isIn : Bool) :
    (getBuf g isIn).1.cbQ = g.cbQ ∧ (∀ k, queueOf (getBuf g isIn).1 k = queueOf g k) ∧
      (getBuf g isIn).1.rxNeedBuf = g.rxNeedBuf := by
  unfold getBuf
  split <;> exact ⟨rfl, fun _ => rfl, rfl⟩

theorem getBuf_held (isIn : Bool) : (getBuf g isIn).1.held =
    if (getBuf g isIn).2 ≠ 0 then (getBuf g isIn).2 :: g.held else g.held := by
  unfold getBuf
  split
  · next ready => exact (if_pos ready.2).symm
  · rfl

theorem getBuf_none (isIn : Bool) (none : (getBuf g isIn).2 = 0) : (getBuf g isIn).1 = g := by
  unfold getBuf at none ⊢
  split at none
  · next ready => exact absurd none ready.2
  · next notReady => rw [if_neg notReady]

theorem scheduleCallback_room (room : RingRoom g) (func : Callback) (param : ℕ) :
    scheduleCallback g func param = ({ g with cbQ := g.cbQ ++ [(func, param)] }, true) :=
  if_neg (Nat.not_le.mpr room)

theorem releaseBuf_keeps (buf : ℕ) : (releaseBuf g buf).cbQ = g.cbQ ∧
    (∀ k, queueOf (releaseBuf g buf) k = queueOf g k) ∧ (releaseBuf g buf).held = g.held.erase buf ∧
    (releaseBuf g buf).rxNeedBuf = g.rxNeedBuf ∧
    ((releaseBuf g buf).hdr buf).isInBuf = (g.hdr buf).isInBuf := by
  refine ⟨rfl, fun _ => rfl, rfl, rfl, ?_⟩
  simp [releaseBuf]

/-- Nobody waits for a freed buffer, or it may not be passed on. -/
theorem freeBuf_kept {buf : ℕ} (kept : PassesOn g (g.hdr buf).isInBuf →
    queueOf g (g.hdr buf).isInBuf = []) : freeBuf g buf = releaseBuf g buf := by
  have flag := (releaseBuf_keeps (g := g) buf).2.2.2.2
  unfold freeBuf
  dsimp only
  rw [flag]
  cases dir : (g.hdr buf).isInBuf with
  | false =>
    rw [dir] at kept
    have empty : (releaseBuf g buf).outbufQueue = [] := kept fun impossible => by cases impossible
    rw [empty]
    rfl
  | true =>
    rw [dir] at kept
    rw [if_pos rfl]
    cases need : (releaseBuf g buf).rxNeedBuf with
    | true => rfl
    | false =>
      have empty : (releaseBuf g buf).inbufQueue = [] := kept fun _ => need
      rw [empty]

/-- A freed buffer goes to the first callback waiting. -/
theorem freeBuf_passed {buf : ℕ} {func : Callback} {rest : List Callback}
    (passes : PassesOn g (g.hdr buf).isInBuf)
    (queue : queueOf g (g.hdr buf).isInBuf = func :: rest) :
    freeBuf g buf = serve (setQueue (releaseBuf g buf) (g.hdr buf).isInBuf rest)
      (g.hdr buf).isInBuf func := by
  have flag := (releaseBuf_keeps (g := g) buf).2.2.2.2
  unfold freeBuf
  dsimp only
  rw [flag]
  cases dir : (g.hdr buf).isInBuf with
  | false =>
    rw [dir] at queue
    have first : (releaseBuf g buf).outbufQueue = func :: rest := queue
    rw [first]
    rfl
  | true =>
    rw [dir] at queue passes
    have need : (releaseBuf g buf).rxNeedBuf = false := passes rfl
    have first : (releaseBuf g buf).inbufQueue = func :: rest := queue
    generalize releaseBuf g buf = released at need first
    cases released
    subst need first
    rfl

/-! ## The books -/

/-- The request behind a ticket. -/
def Ledger.request (l : Ledger) (ticket : ℕ) : Callback × Bool := l.accepted.getD ticket (0, false)

/-- The books balance. -/
structure Balanced (l : Ledger) : Prop where
  conserved : ∃ free, Conserved l.pool free
  owners : l.pool.held.Perm l.owned
  tickets : (l.scheduled.map Prod.fst ++ (l.waiting false ++ l.waiting true)).Perm
    (List.range l.accepted.length)
  queues : ∀ isIn, (queueOf l.pool isIn).map (·, isIn) = (l.waiting isIn).map l.request
  calls : (l.scheduled.map fun entry => ((l.request entry.1).1, entry.2)).Sublist
    (l.called ++ l.pool.cbQ)

theorem init_balanced : Balanced .init where
  conserved := ⟨_, initBuffers_conserved⟩
  owners := .rfl
  tickets := .rfl
  queues isIn := by cases isIn <;> rfl
  calls := .slnil

/-- Every ticket out belongs to a request. -/
theorem Balanced.ticket_lt (balanced : Balanced l) {ticket : ℕ}
    (out : ticket ∈ l.scheduled.map Prod.fst ∨ ∃ isIn, ticket ∈ l.waiting isIn) :
    ticket < l.accepted.length := by
  refine List.mem_range.mp (balanced.tickets.mem_iff.mp ?_)
  rcases out with scheduled | ⟨isIn, waits⟩
  · exact List.mem_append_left _ scheduled
  · refine List.mem_append_right _ ?_
    cases isIn
    · exact List.mem_append_left _ waits
    · exact List.mem_append_right _ waits

theorem Balanced.byHolder {r : Request} (clean : Clean l r) : ByHolder l.pool (r.op l.pool) := by
  cases r with
  | getBuf isIn => cases isIn <;> trivial
  | getBufDelayed callback isIn => cases isIn <;> trivial
  | freeBuf buf => exact clean.1
  | writeHdr buf word => exact clean
  | scheduleCallback func param => trivial
  | callbackDone => trivial
  | setRxNeedBuf rxNeedBuf => trivial

/-- The books after entering an accepted request. -/
theorem Balanced.accept (balanced : Balanced l) (callback : Callback) (isIn : Bool) {buf : ℕ}
    {pool : Globals} (conserved : ∃ free, Conserved pool free)
    (held : pool.held = if buf ≠ 0 then buf :: l.pool.held else l.pool.held)
    (queue : ∀ k, queueOf pool k =
      if k = isIn ∧ buf = 0 then queueOf l.pool k ++ [callback] else queueOf l.pool k)
    (ring : pool.cbQ = if buf ≠ 0 then l.pool.cbQ ++ [(callback, buf)] else l.pool.cbQ) :
    Balanced { l.accept callback isIn buf with pool := pool } := by
  -- earlier tickets keep their requests, the new one has this request
  have old : ∀ ticket < l.accepted.length,
      (l.accepted ++ [(callback, isIn)]).getD ticket (0, false) = l.request ticket := by
    intro ticket before
    rw [List.getD_append _ _ _ _ before, Ledger.request]
  have new : (l.accepted ++ [(callback, isIn)]).getD l.accepted.length (0, false) =
      (callback, isIn) := by simp
  have calls : (l.scheduled.map fun entry =>
      (((l.accepted ++ [(callback, isIn)]).getD entry.1 (0, false)).1, entry.2)) =
      l.scheduled.map fun entry => ((l.request entry.1).1, entry.2) := by
    refine List.map_congr_left fun entry member => ?_
    rw [old _ (balanced.ticket_lt (.inl (List.mem_map_of_mem member)))]
  have waits : ∀ k, (l.waiting k).map (fun ticket =>
      (l.accepted ++ [(callback, isIn)]).getD ticket (0, false)) =
      (l.waiting k).map l.request := fun k =>
    List.map_congr_left fun ticket member => old ticket (balanced.ticket_lt (.inr ⟨k, member⟩))
  have tickets := balanced.tickets
  unfold Ledger.accept
  by_cases served : buf ≠ 0
  · rw [if_pos served] at held ring ⊢
    refine ⟨conserved, ?_, ?_, fun k => ?_, ?_⟩
    · rw [held]
      exact balanced.owners.cons buf
    · rw [List.map_append, List.append_assoc, List.length_append, List.length_singleton,
        List.range_succ]
      exact (List.perm_append_comm_assoc ..).trans
        ((tickets.append_left _).trans List.perm_append_comm)
    · rw [queue, if_neg fun both => served both.2]
      exact (balanced.queues k).trans (waits k).symm
    · simp only [Ledger.request, List.map_append, calls, List.map_cons, List.map_nil, new]
      rw [ring, ← List.append_assoc]
      exact balanced.calls.append (List.Sublist.refl _)
  · rw [if_neg served] at held ring ⊢
    have none : buf = 0 := not_not.mp served
    refine ⟨conserved, held ▸ balanced.owners, ?_, fun k => ?_, ?_⟩
    · rw [List.length_append, List.length_singleton, List.range_succ]
      refine List.Perm.trans ?_ (tickets.append_right _)
      rw [List.append_assoc]
      refine List.Perm.append_left _ ?_
      cases isIn with
      | false =>
        simp only [Function.update_self, ne_eq, reduceCtorEq, not_false_eq_true,
          Function.update_of_ne, List.append_assoc]
        exact (List.perm_append_comm).append_left _
      | true =>
        simp only [Function.update_self, ne_eq, reduceCtorEq, not_false_eq_true,
          Function.update_of_ne, List.append_assoc]
        exact .rfl
    · change (queueOf pool k).map (·, k) =
        (Function.update l.waiting isIn (l.waiting isIn ++ [l.accepted.length]) k).map fun ticket =>
          (l.accepted ++ [(callback, isIn)]).getD ticket (0, false)
      rw [queue]
      by_cases same : k = isIn
      · subst same
        rw [if_pos ⟨rfl, none⟩, Function.update_self, List.map_append, List.map_append, waits,
          balanced.queues, List.map_singleton, List.map_singleton, new]
      · rw [if_neg fun both => same both.1, Function.update_of_ne same, waits, balanced.queues]
    · simp only [Ledger.request, calls]
      rw [ring]
      exact balanced.calls

/-- The queue and the tickets waiting are empty together. -/
theorem Balanced.queue_nil (balanced : Balanced l) {isIn : Bool} :
    queueOf l.pool isIn = [] ↔ l.waiting isIn = [] := by
  rw [← List.map_eq_nil_iff (f := (·, isIn)), balanced.queues, List.map_eq_nil_iff]

/-- The first ticket waits for the first callback. -/
theorem Balanced.queue_cons (balanced : Balanced l) {isIn : Bool} {ticket : ℕ} {rest : List ℕ}
    (waits : l.waiting isIn = ticket :: rest) : ∃ func queue,
      queueOf l.pool isIn = func :: queue ∧ l.request ticket = (func, isIn) ∧
        queue.map (·, isIn) = rest.map l.request := by
  have queues := balanced.queues isIn
  rw [waits, List.map_cons] at queues
  obtain ⟨func, queue, cells, first, others⟩ := List.map_eq_cons_iff.mp queues
  exact ⟨func, queue, cells, first.symm, others⟩

/-- A freed buffer always serves the callback it is passed to. -/
theorem getBuf_released (balanced : Balanced l) {buf : ℕ} (held : buf ∈ l.pool.held) :
    (getBuf (releaseBuf l.pool buf) (l.pool.hdr buf).isInBuf).2 ≠ 0 := by
  obtain ⟨free, conserved⟩ := balanced.conserved
  have own : buf ∈ heldBufs l.pool (l.pool.hdr buf).isInBuf := by simp [heldBufs, held]
  have positive := List.length_pos_of_mem own
  rw [← conserved.counted] at positive
  have limited := conserved.limited (l.pool.hdr buf).isInBuf
  have released := conserved.releaseBuf held
  rw [Ne, released.getBuf_eq_zero_iff]
  simp only [releaseBuf, Function.update_self, bufsLimit, iobufPoolSize] at limited ⊢
  omega

theorem getBuf_snd (isIn : Bool) : (getBuf g isIn).2 =
    if g.bufsAllocated isIn < bufsLimit ∧ g.head ≠ 0 then g.head else 0 := by
  unfold getBuf
  split <;> rfl

theorem getBuf_setQueue (isIn k : Bool) (queue : List Callback) :
    (getBuf (setQueue g isIn queue) k).2 = (getBuf g k).2 := by
  rw [getBuf_snd, getBuf_snd]
  cases isIn <;> rfl

/-- What serving a waiting callback leaves. -/
theorem serve_keeps (room : RingRoom g) (isIn : Bool) (func : Callback)
    (some : (getBuf g isIn).2 ≠ 0) :
    (serve g isIn func).cbQ = g.cbQ ++ [(func, (getBuf g isIn).2)] ∧
      (∀ k, queueOf (serve g isIn func) k = queueOf g k) ∧
      (serve g isIn func).held = (getBuf g isIn).2 :: g.held := by
  obtain ⟨ring, queue, -⟩ := getBuf_keeps (g := g) isIn
  have held := getBuf_held (g := g) isIn
  rw [if_pos some] at held
  have room' : RingRoom (getBuf g isIn).1 := by rwa [RingRoom, ring]
  unfold serve
  generalize getBuf g isIn = got at *
  obtain ⟨after, buf⟩ := got
  dsimp only at *
  rw [scheduleCallback_room room']
  exact ⟨by rw [ring], queue, held⟩

/-- The books after a buffer is freed. -/
theorem Balanced.freeBuf (balanced : Balanced l) {buf : ℕ} (clean : Clean l (.freeBuf buf)) :
    Balanced (l.step (.freeBuf buf)) := by
  obtain ⟨held, ring, -⟩ := clean
  obtain ⟨free, conserved⟩ := balanced.conserved
  obtain ⟨cbQ, queue, heldRest, -, -⟩ := releaseBuf_keeps (g := l.pool) buf
  have owners := balanced.owners.erase buf
  have some := getBuf_released balanced held
  have kept := conserved.freeBuf held
  change Balanced { l.enter (.freeBuf buf) with pool := BufPool.freeBuf l.pool buf }
  unfold Ledger.enter
  dsimp only
  generalize dir : (l.pool.hdr buf).isInBuf = isIn at *
  by_cases passes : PassesOn l.pool isIn
  · rw [if_pos passes]
    unfold Ledger.passOn
    dsimp only
    cases waits : l.waiting isIn with
    | nil =>
      have nobody := balanced.queue_nil.mpr waits
      have pool : BufPool.freeBuf l.pool buf = releaseBuf l.pool buf :=
        freeBuf_kept fun _ => dir.symm ▸ nobody
      rw [pool] at kept ⊢
      exact ⟨kept, heldRest ▸ owners, balanced.tickets, balanced.queues, balanced.calls⟩
    | cons ticket rest =>
      obtain ⟨func, queue', cells, request, others⟩ := balanced.queue_cons waits
      have room := ring passes (by rw [cells]; exact List.cons_ne_nil _ _)
      rw [decide_eq_true room]
      dsimp only
      rw [if_pos rfl]
      have pool : BufPool.freeBuf l.pool buf = serve (setQueue (releaseBuf l.pool buf) isIn queue')
          isIn func := by
        subst dir
        exact freeBuf_passed passes cells
      have room' : RingRoom (setQueue (releaseBuf l.pool buf) isIn queue') := by
        cases isIn <;> exact room
      have some' := some
      rw [← getBuf_setQueue isIn isIn queue'] at some'
      obtain ⟨served, queues, taken⟩ := serve_keeps room' isIn func some'
      rw [getBuf_setQueue] at served taken
      rw [pool] at kept ⊢
      have sameRing : (setQueue (releaseBuf l.pool buf) isIn queue').cbQ = l.pool.cbQ := by
        cases isIn <;> rfl
      have sameHeld : (setQueue (releaseBuf l.pool buf) isIn queue').held = l.pool.held.erase buf := by
        cases isIn <;> rfl
      refine ⟨kept, ?_, ?_, fun k => ?_, ?_⟩
      · rw [taken, sameHeld]
        exact owners.cons _
      · refine List.Perm.trans ?_ balanced.tickets
        rw [List.map_append, List.append_assoc]
        refine List.Perm.append_left _ ?_
        cases isIn with
        | false =>
          simp only [Function.update_self, ne_eq, reduceCtorEq, not_false_eq_true,
            Function.update_of_ne, waits, List.map_cons, List.map_nil]
          exact .rfl
        | true =>
          simp only [Function.update_self, ne_eq, reduceCtorEq, not_false_eq_true,
            Function.update_of_ne, waits, List.map_cons, List.map_nil]
          have moved : (l.waiting false ++ ticket :: rest).Perm
            (ticket :: (l.waiting false ++ rest)) := List.perm_middle
          exact moved.symm
      · change (queueOf (serve _ isIn func) k).map (·, k) =
          (Function.update l.waiting isIn rest k).map l.request
        rw [queues, queueOf_setQueue, queue]
        by_cases same : k = isIn
        · subst same
          rw [if_pos rfl, Function.update_self]
          exact others
        · rw [if_neg same, Function.update_of_ne same]
          exact balanced.queues k
      · rw [served, sameRing, ← List.append_assoc, List.map_append]
        refine balanced.calls.append ?_
        change [((l.request ticket).1, _)].Sublist [(func, _)]
        rw [request]
  · rw [if_neg passes]
    have pool : BufPool.freeBuf l.pool buf = releaseBuf l.pool buf :=
      freeBuf_kept fun passes' => absurd (dir ▸ passes') passes
    rw [pool] at kept ⊢
    exact ⟨kept, heldRest ▸ owners, balanced.tickets, balanced.queues, balanced.calls⟩

theorem Balanced.getBuf (balanced : Balanced l) (isIn : Bool) :
    Balanced (l.step (.getBuf isIn)) := by
  obtain ⟨free, conserved⟩ := balanced.conserved
  obtain ⟨ring, queue, -⟩ := getBuf_keeps (g := l.pool) isIn
  have held := getBuf_held (g := l.pool) isIn
  have kept := conserved.getBuf isIn
  have pool : BufPool.step l.pool ((Request.getBuf isIn).op l.pool) =
      (BufPool.getBuf l.pool isIn).1 := by cases isIn <;> rfl
  unfold Ledger.step
  rw [pool]
  unfold Ledger.enter
  dsimp only
  split at held
  · next some =>
    rw [if_pos some]
    refine ⟨kept, ?_, balanced.tickets, fun k => ?_, ?_⟩
    · rw [held]
      exact balanced.owners.cons _
    · rw [queue]
      exact balanced.queues k
    · rw [ring]
      exact balanced.calls
  · next none =>
    rw [if_neg none, getBuf_none isIn (not_not.mp none)]
    exact ⟨balanced.conserved, balanced.owners, balanced.tickets, balanced.queues, balanced.calls⟩

/-- A delayed request with room in the ring: served, waiting, or refused untouched. -/
theorem getBufDelayed_cases (callback : Callback) (isIn : Bool)
    (room : (getBuf g isIn).2 ≠ 0 → RingRoom g) :
    let result := getBufDelayed g callback isIn
    (result.2 = false ∧ result.1 = g) ∨
      (result.2 = true ∧
        result.1.held = (if (getBuf g isIn).2 ≠ 0 then (getBuf g isIn).2 :: g.held else g.held) ∧
        (∀ k, queueOf result.1 k = if k = isIn ∧ (getBuf g isIn).2 = 0
          then queueOf g k ++ [callback] else queueOf g k) ∧
        result.1.cbQ = if (getBuf g isIn).2 ≠ 0
          then g.cbQ ++ [(callback, (getBuf g isIn).2)] else g.cbQ) := by
  obtain ⟨ring, queue, -⟩ := getBuf_keeps (g := g) isIn
  have held := getBuf_held (g := g) isIn
  have none := getBuf_none (g := g) isIn
  unfold getBufDelayed
  generalize getBuf g isIn = got at *
  obtain ⟨after, buf⟩ := got
  dsimp only at *
  by_cases some : buf ≠ 0
  · have room' : RingRoom after := by
      rw [RingRoom, ring]
      exact room some
    rw [if_pos some, scheduleCallback_room room', if_pos some, if_pos some]
    refine .inr ⟨rfl, by rw [held, if_pos some], fun k => ?_, by rw [ring]⟩
    rw [if_neg fun both => some both.2]
    exact queue k
  · have zero : buf = 0 := not_not.mp some
    have same := none zero
    subst same
    rw [if_neg some, if_neg some, if_neg some]
    split
    · exact .inl ⟨rfl, rfl⟩
    · right
      cases isIn with
      | true => exact ⟨rfl, rfl, fun k => by cases k <;> simp [zero, queueOf], rfl⟩
      | false => exact ⟨rfl, rfl, fun k => by cases k <;> simp [zero, queueOf], rfl⟩

/-- The direction is below its share where a buffer is at hand. -/
theorem getBuf_below {isIn : Bool} (some : (BufPool.getBuf g isIn).2 ≠ 0) :
    g.bufsAllocated isIn < bufsLimit := by
  rw [getBuf_snd] at some
  by_contra full
  exact some (if_neg fun ready => full ready.1)

theorem Balanced.getBufDelayed (balanced : Balanced l) (callback : Callback) (isIn : Bool)
    (clean : Clean l (.getBufDelayed callback isIn)) :
    Balanced (l.step (.getBufDelayed callback isIn)) := by
  obtain ⟨free, conserved⟩ := balanced.conserved
  have kept := conserved.getBufDelayed callback isIn
  have pool : BufPool.step l.pool ((Request.getBufDelayed callback isIn).op l.pool) =
      (BufPool.getBufDelayed l.pool callback isIn).1 := by cases isIn <;> rfl
  unfold Ledger.step
  rw [pool]
  unfold Ledger.enter
  dsimp only
  rcases getBufDelayed_cases callback isIn fun some => clean (getBuf_below some) with
    ⟨refused, same⟩ | ⟨taken, held, queue, ring⟩
  · rw [refused, same]
    exact ⟨balanced.conserved, balanced.owners, balanced.tickets, balanced.queues, balanced.calls⟩
  · rw [taken, if_pos rfl]
    exact balanced.accept callback isIn kept held queue ring

/-- A clean step keeps the books balanced. -/
theorem step_balanced (l : Ledger) (r : Request) (balanced : Balanced l) (clean : Clean l r) :
    Balanced (l.step r) := by
  obtain ⟨free, conserved⟩ := balanced.conserved
  have kept := step_conserved conserved (r.op l.pool) (Balanced.byHolder clean)
  cases r with
  | getBuf isIn => exact balanced.getBuf isIn
  | getBufDelayed callback isIn => exact balanced.getBufDelayed callback isIn clean
  | freeBuf buf => exact balanced.freeBuf clean
  | writeHdr buf word =>
    exact ⟨kept, balanced.owners, balanced.tickets, balanced.queues, balanced.calls⟩
  | setRxNeedBuf rxNeedBuf =>
    exact ⟨kept, balanced.owners, balanced.tickets, balanced.queues, balanced.calls⟩
  | scheduleCallback func param =>
    refine ⟨kept, balanced.owners, balanced.tickets, balanced.queues, ?_⟩
    refine balanced.calls.trans (List.Sublist.append_left ?_ _)
    change l.pool.cbQ.Sublist (BufPool.scheduleCallback l.pool func param).1.cbQ
    unfold BufPool.scheduleCallback
    split
    · exact List.Sublist.refl _
    · exact List.sublist_append_left _ _
  | callbackDone =>
    refine ⟨kept, balanced.owners, balanced.tickets, balanced.queues, ?_⟩
    change (List.map _ _).Sublist (l.called ++ l.pool.cbQ.head?.toList ++ l.pool.cbQ.tail)
    have ring : l.pool.cbQ.head?.toList ++ l.pool.cbQ.tail = l.pool.cbQ := by
      cases l.pool.cbQ <;> rfl
    rw [List.append_assoc, ring]
    exact balanced.calls

/-! ## Progress -/

/-- The request frees a buffer that is passed on to a callback waiting in one direction. -/
def Serves (l : Ledger) (isIn : Bool) : Request → Prop
  | .freeBuf buf => (l.pool.hdr buf).isInBuf = isIn ∧ PassesOn l.pool isIn
  | _ => False

instance (l : Ledger) (isIn : Bool) : DecidablePred (Serves l isIn)
  | .freeBuf _ => inferInstanceAs (Decidable (_ ∧ _))
  | .getBuf _ | .getBufDelayed .. | .writeHdr .. | .scheduleCallback .. | .callbackDone
  | .setRxNeedBuf _ => isFalse id

/-- The number of such requests in a run. -/
def services (isIn : Bool) : Ledger → List Request → ℕ
  | _, [] => 0
  | l, r :: rest => services isIn (l.step r) rest + if Serves l isIn r then 1 else 0

theorem step_scheduled (l : Ledger) (r : Request) : l.scheduled <+: (l.step r).scheduled := by
  cases r with
  | getBuf isIn =>
    simp only [Ledger.step, Ledger.enter]
    split <;> exact List.prefix_rfl
  | getBufDelayed callback isIn =>
    simp only [Ledger.step, Ledger.enter, Ledger.accept]
    split
    · split
      · exact List.prefix_append ..
      · exact List.prefix_rfl
    · exact List.prefix_rfl
  | freeBuf buf =>
    simp only [Ledger.step, Ledger.enter, Ledger.passOn]
    split
    · split
      · exact List.prefix_rfl
      · split
        · exact List.prefix_append ..
        · exact List.prefix_rfl
    · exact List.prefix_rfl
  | writeHdr buf word => exact List.prefix_rfl
  | scheduleCallback func param => exact List.prefix_rfl
  | callbackDone => exact List.prefix_rfl
  | setRxNeedBuf rxNeedBuf => exact List.prefix_rfl

/-- A buffer passed on serves the first ticket in line. -/
theorem step_serves (balanced : Balanced l) {r : Request} (clean : Clean l r) {isIn : Bool}
    (serves : Serves l isIn r) :
    (l.step r).waiting isIn = (l.waiting isIn).tail ∧
      ∀ ticket ∈ (l.waiting isIn).head?, ticket ∈ (l.step r).scheduled.map Prod.fst := by
  cases r with
  | freeBuf buf =>
    obtain ⟨rfl, passes⟩ := serves
    simp only [Ledger.step, Ledger.enter, Ledger.passOn, if_pos passes]
    cases waits : l.waiting (l.pool.hdr buf).isInBuf with
    | nil => exact ⟨waits, fun ticket impossible => by cases impossible⟩
    | cons ticket rest =>
      have room : RingRoom l.pool := clean.2.1 passes fun none => by
        rw [balanced.queue_nil.mp none] at waits
        cases waits
      simp only [decide_eq_true room, if_true, Function.update_self, List.map_append]
      refine ⟨rfl, fun first same => ?_⟩
      cases same
      exact List.mem_append_right _ (List.mem_singleton.mpr rfl)
  | _ => exact serves.elim

/-- Without that the line only grows at its end. -/
theorem step_waits {r : Request} {isIn : Bool} (idle : ¬ Serves l isIn r) :
    l.waiting isIn <+: (l.step r).waiting isIn := by
  cases r with
  | getBuf k =>
    simp only [Ledger.step, Ledger.enter]
    split <;> exact List.prefix_rfl
  | getBufDelayed callback k =>
    simp only [Ledger.step, Ledger.enter, Ledger.accept]
    split
    · split
      · exact List.prefix_rfl
      · by_cases same : isIn = k
        · subst same
          dsimp only
          rw [Function.update_self]
          exact List.prefix_append ..
        · dsimp only
          rw [Function.update_of_ne same]
    · exact List.prefix_rfl
  | freeBuf buf =>
    simp only [Ledger.step, Ledger.enter, Ledger.passOn]
    split
    · next passes =>
      have differs : isIn ≠ (l.pool.hdr buf).isInBuf := by
        rintro rfl
        exact idle ⟨rfl, passes⟩
      split
      · exact List.prefix_rfl
      · split
        · dsimp only
          rw [Function.update_of_ne differs]
        · dsimp only
          rw [Function.update_of_ne differs]
    · exact List.prefix_rfl
  | writeHdr buf word => exact List.prefix_rfl
  | scheduleCallback func param => exact List.prefix_rfl
  | callbackDone => exact List.prefix_rfl
  | setRxNeedBuf rxNeedBuf => exact List.prefix_rfl

theorem scheduled_run (rs : List Request) (l : Ledger) :
    l.scheduled <+: (run Ledger.step l rs).scheduled := by
  induction rs generalizing l with
  | nil => exact List.prefix_rfl
  | cons r rest induction_ => exact (step_scheduled l r).trans (induction_ _)

/-- A ticket is scheduled once as many buffers were passed on as tickets were before it,
and one more. -/
theorem waiting_run {ticket : ℕ} {isIn : Bool} (rs : List Request) (l : Ledger) (k : ℕ)
    (balanced : Balanced l) (met : Along Ledger.step Clean l rs)
    (waits : (l.waiting isIn)[k]? = some ticket) (enough : k < services isIn l rs) :
    ticket ∈ (run Ledger.step l rs).scheduled.map Prod.fst := by
  induction rs generalizing l k with
  | nil => cases enough
  | cons r rest induction_ =>
    have after := step_balanced l r balanced met.1
    rw [services] at enough
    by_cases serves : Serves l isIn r
    · rw [if_pos serves] at enough
      obtain ⟨tail, first⟩ := step_serves balanced met.1 serves
      cases k with
      | zero =>
        rw [← List.head?_eq_getElem?] at waits
        exact ((scheduled_run rest _).map Prod.fst).subset (first ticket waits)
      | succ k =>
        refine induction_ _ k after met.2 ?_ (Nat.lt_of_succ_lt_succ enough)
        rw [tail, List.getElem?_tail]
        exact waits
    · rw [if_neg serves] at enough
      obtain ⟨added, grown⟩ := step_waits serves
      obtain ⟨inside, -⟩ := List.getElem?_eq_some_iff.mp waits
      refine induction_ _ k after met.2 ?_ enough
      rw [← grown, List.getElem?_append_left inside]
      exact waits

/-! ## Nobody waits in vain -/

/-- While a callback waits, a buffer of its direction is out. -/
def Attended (g : Globals) : Prop := ∀ isIn, queueOf g isIn ≠ [] → 0 < g.bufsAllocated isIn

theorem getBuf_allocated (isIn k : Bool) (out : 0 < g.bufsAllocated k) :
    0 < (getBuf g isIn).1.bufsAllocated k := by
  unfold getBuf
  split
  · next ready =>
    by_cases same : k = isIn
    · subst same
      have few := ready.1
      simp only [Function.update_self, bufsLimit, iobufPoolSize] at few ⊢
      omega
    · simpa only [Function.update_of_ne same] using out
  · exact out

theorem getBuf_allocated_self {isIn : Bool} (some : (getBuf g isIn).2 ≠ 0) :
    0 < (getBuf g isIn).1.bufsAllocated isIn := by
  unfold getBuf at some ⊢
  split at some
  · next ready =>
    rw [if_pos ready]
    dsimp only
    have bound := ready.1
    simp only [Function.update_self, bufsLimit, iobufPoolSize] at bound ⊢
    omega
  · exact absurd rfl some

theorem Balanced.attended_freeBuf (balanced : Balanced l) (attended : Attended l.pool) {buf : ℕ}
    (clean : Clean l (.freeBuf buf)) : Attended (BufPool.freeBuf l.pool buf) := by
  obtain ⟨held, ring, last⟩ := clean
  obtain ⟨free, conserved⟩ := balanced.conserved
  obtain ⟨-, queue, -, -, -⟩ := releaseBuf_keeps (g := l.pool) buf
  have some := getBuf_released balanced held
  have limited := conserved.limited (l.pool.hdr buf).isInBuf
  have other : ∀ k, k ≠ (l.pool.hdr buf).isInBuf →
      (releaseBuf l.pool buf).bufsAllocated k = l.pool.bufsAllocated k :=
    fun k differs => Function.update_of_ne differs _ _
  by_cases passes : PassesOn l.pool (l.pool.hdr buf).isInBuf
  · cases waits : queueOf l.pool (l.pool.hdr buf).isInBuf with
    | nil =>
      rw [freeBuf_kept fun _ => waits]
      intro k waiting
      rw [queue] at waiting
      have differs : k ≠ (l.pool.hdr buf).isInBuf := by
        rintro rfl
        exact waiting waits
      rw [other k differs]
      exact attended k waiting
    | cons func rest =>
      have room : RingRoom l.pool := ring passes (by rw [waits]; exact List.cons_ne_nil _ _)
      rw [freeBuf_passed passes waits]
      generalize dir : (l.pool.hdr buf).isInBuf = isIn at *
      have some' := some
      rw [← getBuf_setQueue isIn isIn rest] at some'
      have room' : RingRoom (setQueue (releaseBuf l.pool buf) isIn rest) := by
        cases isIn <;> exact room
      obtain ⟨-, queues, -⟩ := serve_keeps room' isIn func some'
      have allocated : (serve (setQueue (releaseBuf l.pool buf) isIn rest) isIn func).bufsAllocated =
          (BufPool.getBuf (setQueue (releaseBuf l.pool buf) isIn rest) isIn).1.bufsAllocated := by
        unfold serve scheduleCallback
        dsimp only
        split <;> rfl
      intro k waiting
      rw [allocated]
      by_cases same : k = isIn
      · subst same
        exact getBuf_allocated_self some'
      · rw [queues, queueOf_setQueue, if_neg same, queue] at waiting
        refine getBuf_allocated isIn k ?_
        have before := attended k waiting
        rw [← other k same] at before
        cases isIn <;> exact before
  · have pool : BufPool.freeBuf l.pool buf = releaseBuf l.pool buf :=
      freeBuf_kept fun passes' => absurd passes' passes
    rw [pool]
    intro k waiting
    rw [queue] at waiting
    by_cases same : k = (l.pool.hdr buf).isInBuf
    · subst same
      have more := last passes waiting
      simp only [releaseBuf, Function.update_self, bufsLimit, iobufPoolSize] at limited ⊢
      omega
    · rw [other k same]
      exact attended k waiting

theorem Balanced.attended_getBufDelayed (balanced : Balanced l) (attended : Attended l.pool)
    (callback : Callback) (isIn : Bool) : Attended (BufPool.getBufDelayed l.pool callback isIn).1 := by
  obtain ⟨free, conserved⟩ := balanced.conserved
  obtain ⟨-, queue, -⟩ := getBuf_keeps (g := l.pool) isIn
  have got : Attended (BufPool.getBuf l.pool isIn).1 := by
    intro k waiting
    rw [queue] at waiting
    exact getBuf_allocated isIn k (attended k waiting)
  have full : (BufPool.getBuf l.pool isIn).2 = 0 →
      0 < (BufPool.getBuf l.pool isIn).1.bufsAllocated isIn := by
    intro none
    rw [getBuf_none isIn none, (conserved.getBuf_eq_zero_iff isIn).mp none]
    decide
  unfold BufPool.getBufDelayed
  generalize BufPool.getBuf l.pool isIn = result at *
  obtain ⟨after, buf⟩ := result
  dsimp only at *
  split
  · unfold scheduleCallback
    split <;> exact got
  · next none =>
    have zero := full (not_not.mp none)
    split
    · exact got
    · split
      · next dir =>
        subst dir
        intro k waiting
        cases k with
        | true => exact zero
        | false => exact got false waiting
      · next dir =>
        obtain rfl : isIn = false := Bool.eq_false_iff.mpr dir
        intro k waiting
        cases k with
        | false => exact zero
        | true => exact got true waiting

/-- A clean step keeps the books, and a buffer out for whoever waits. -/
theorem step_attended (l : Ledger) (r : Request) (kept : Balanced l ∧ Attended l.pool)
    (clean : Clean l r) : Balanced (l.step r) ∧ Attended (l.step r).pool := by
  obtain ⟨balanced, attended⟩ := kept
  refine ⟨step_balanced l r balanced clean, ?_⟩
  cases r with
  | getBuf isIn =>
    have pool : (l.step (.getBuf isIn)).pool = (BufPool.getBuf l.pool isIn).1 := by
      cases isIn <;> rfl
    obtain ⟨-, queue, -⟩ := getBuf_keeps (g := l.pool) isIn
    intro k waiting
    rw [pool] at waiting ⊢
    rw [queue] at waiting
    exact getBuf_allocated isIn k (attended k waiting)
  | getBufDelayed callback isIn =>
    have pool : (l.step (.getBufDelayed callback isIn)).pool =
        (BufPool.getBufDelayed l.pool callback isIn).1 := by cases isIn <;> rfl
    rw [pool]
    exact balanced.attended_getBufDelayed attended callback isIn
  | freeBuf buf => exact balanced.attended_freeBuf attended clean
  | writeHdr buf word => exact attended
  | scheduleCallback func param => exact attended
  | callbackDone => exact attended
  | setRxNeedBuf rxNeedBuf => exact attended

/-- A ticket that is not in line is scheduled. -/
theorem Balanced.scheduled_of_not_waits (balanced : Balanced l) {ticket : ℕ}
    (accepted : ticket < l.accepted.length)
    (left : ticket ∉ l.waiting (l.request ticket).2) :
    ticket ∈ l.scheduled.map Prod.fst := by
  have own : ∀ isIn, ticket ∈ l.waiting isIn → isIn = (l.request ticket).2 := by
    intro isIn waits
    have member := List.mem_map_of_mem (f := l.request) waits
    rw [← balanced.queues isIn, List.mem_map] at member
    obtain ⟨func, -, same⟩ := member
    rw [← same]
  have placed := balanced.tickets.mem_iff.mpr (List.mem_range.mpr accepted)
  rcases List.mem_append.mp placed with scheduled | waits
  · exact scheduled
  · rcases List.mem_append.mp waits with waits | waits
    · exact absurd (own false waits ▸ waits) left
    · exact absurd (own true waits ▸ waits) left

/-- In every clean run each accepted request has one place, in line or scheduled with a
buffer; what is scheduled is called or in the ring; the buffers out have owners; a
refused request changes nothing; buffers passed on reach every request in line; and once
all buffers of a direction have been given back, every request for one is scheduled. -/
theorem delayed_requests_served (rs : List Request) (met : Along Ledger.step Clean .init rs) :
    let l := run Ledger.step .init rs
    (l.scheduled.map Prod.fst ++ (l.waiting false ++ l.waiting true)).Perm
      (List.range l.accepted.length) ∧
    (∀ isIn, (queueOf l.pool isIn).map (·, isIn) = (l.waiting isIn).map l.request) ∧
    (l.scheduled.map fun entry => ((l.request entry.1).1, entry.2)).Sublist
      (l.called ++ l.pool.cbQ) ∧
    l.pool.held.Perm l.owned ∧
    (∀ callback isIn, Clean l (.getBufDelayed callback isIn) →
      (getBufDelayed l.pool callback isIn).2 = false →
      (getBufDelayed l.pool callback isIn).1 = l.pool) ∧
    (∀ rs' isIn k ticket, Along Ledger.step Clean l rs' → (l.waiting isIn)[k]? = some ticket →
      k < services isIn l rs' → ticket ∈ (run Ledger.step l rs').scheduled.map Prod.fst) ∧
    ∀ ticket < l.accepted.length, heldBufs l.pool (l.request ticket).2 = [] →
      ticket ∈ l.scheduled.map Prod.fst := by
  intro l
  have initial : Balanced .init ∧ Attended Ledger.init.pool :=
    ⟨init_balanced, fun isIn waiting => absurd (by cases isIn <;> rfl) waiting⟩
  obtain ⟨balanced, attended⟩ : Balanced l ∧ Attended l.pool :=
    invariant_of_along step_attended _ rs initial met
  refine ⟨balanced.tickets, balanced.queues, balanced.calls, balanced.owners,
    fun callback isIn clean refused => ?_, fun rs' isIn k ticket met' waits enough => ?_,
    fun ticket accepted back => ?_⟩
  · rcases getBufDelayed_cases callback isIn fun some => clean (getBuf_below some) with
      ⟨-, same⟩ | ⟨taken, -⟩
    · exact same
    · rw [refused] at taken
      cases taken
  · exact waiting_run rs' l k balanced met' waits enough
  · refine balanced.scheduled_of_not_waits accepted fun waits => ?_
    obtain ⟨free, conserved⟩ := balanced.conserved
    have line : queueOf l.pool (l.request ticket).2 ≠ [] := fun none =>
      List.ne_nil_of_mem waits (balanced.queue_nil.mp none)
    have out := attended _ line
    rw [conserved.counted, back] at out
    cases out

/-- Eight requests use up the out buffers, two callbacks wait, buffers are freed. -/
def servedRequests : List Request :=
  List.replicate 8 (.getBuf false) ++ [.getBufDelayed 5 false, .getBufDelayed 6 false,
    .getBufDelayed 7 true, .freeBuf 3, .callbackDone, .freeBuf 1]

theorem delayed_requests_served_servedRequests :
    (run Ledger.step .init servedRequests).pool.held.Perm
      (run Ledger.step .init servedRequests).owned :=
  (delayed_requests_served servedRequests (by decide +kernel)).2.2.2.1

/-- A callback waits for a buffer while the ring is full: the buffer freed for it is
taken from the pool, but the callback is in no queue any more. -/
def lostRequests : List Request :=
  List.replicate 8 (.getBuf false) ++ [.getBufDelayed 5 false] ++
    List.replicate 16 (.scheduleCallback 9 0) ++ [.freeBuf 3]

theorem delayed_request_lost :
    let l := run Ledger.step .init lostRequests
    ¬ ((l.scheduled.map Prod.fst ++ (l.waiting false ++ l.waiting true)).Perm
      (List.range l.accepted.length) ∧ l.pool.held.Perm l.owned) := by
  intro l claim
  exact absurd claim.1.length_eq (by decide +kernel)

end Zboss.BufPool
