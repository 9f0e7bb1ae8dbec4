import Mathlib.Data.List.Perm.Basic
import Zboss.Lib.Chain
import Zboss.Lib.Run

/-!
The packet buffer pool (`zb_bufpool.c`).  Buffers are named by their references:
the pool is `1 .. 16` and `0` is the null pointer.  The link of the free list
shares its memory with the first four octets of the buffer header; the bit
`is_in_buf` lies behind them and survives a buffer's stay on the list.

Callbacks waiting for a buffer are served when one is freed, within `zb_free_buf`.
Each direction may hold half of the pool, so what one direction holds never
keeps the other from its share.
-/

namespace Zboss.BufPool

open Zboss.Run

def iobufPoolSize : ℕ := 16

def bufsLimit : ℕ := iobufPoolSize / 2

/-- `ZB_SCHEDULER_Q_SIZE`, the capacity of the callback ring. -/
def schedulerQSize : ℕ := 16

/-- `ZB_BUF_Q_SIZE`, the number of entries for waiting callbacks. -/
def bufQSize : ℕ := 16

/-- A function pointer. -/
abbrev Callback := ℕ

/-- The union in front of a buffer: its first four octets, which are the link on
the free list and header octets in a held buffer, and the bit behind them. -/
structure BufHdr where
  word : ℕ
  isInBuf : Bool
  deriving DecidableEq, Repr

/-- The pool with the parts of the scheduler it works on.  `held` is a ghost: the
buffers handed out and not yet freed. -/
structure Globals where
  hdr : ℕ → BufHdr
  head : ℕ
  bufsAllocated : Bool → ℕ
  cbQ : List (Callback × ℕ)
  inbufQueue : List Callback
  outbufQueue : List Callback
  bufFreelist : ℕ
  rxNeedBuf : Bool
  held : List ℕ

/-- The zeroed context after `zb_sched_init`. -/
def Globals.zero : Globals where
  hdr _ := ⟨0, false⟩
  head := 0
  bufsAllocated _ := 0
  cbQ := []
  inbufQueue := []
  outbufQueue := []
  bufFreelist := bufQSize
  rxNeedBuf := false
  held := []

/-- `zb_init_buffers`: link the pool from its first buffer to its last. -/
def initBuffers (g : Globals) : Globals :=
  if g.head ≠ 0 then g
  else { g with
    head := 1
    hdr := fun ref => { g.hdr ref with word := if ref < iobufPoolSize then ref + 1 else 0 } }

/-- `zb_schedule_callback`; a full ring refuses the callback. -/
def scheduleCallback (g : Globals) (func : Callback) (param : ℕ) : Globals × Bool :=
  if g.cbQ.length ≥ schedulerQSize then (g, false)
  else ({ g with cbQ := g.cbQ ++ [(func, param)] }, true)

/-- `zb_get_buf`; the counters are octets. -/
def getBuf (g : Globals) (isIn : Bool) : Globals × ℕ :=
  if g.bufsAllocated isIn < bufsLimit ∧ g.head ≠ 0 then
    let buf := g.head
    ({ g with
        head := (g.hdr buf).word
        hdr := Function.update g.hdr buf ⟨0, isIn⟩
        bufsAllocated := Function.update g.bufsAllocated isIn ((g.bufsAllocated isIn + 1) % 256)
        held := buf :: g.held }, buf)
  else (g, 0)

/-- `zb_get_buf_delayed`; `false` is `RET_OVERFLOW` or `RET_ERROR`. -/
def getBufDelayed (g : Globals) (callback : Callback) (isIn : Bool) : Globals × Bool :=
  let (g, buf) := getBuf g isIn
  if buf ≠ 0 then scheduleCallback g callback buf
  else if g.bufFreelist = 0 then (g, false)
  else if isIn then
    ({ g with bufFreelist := g.bufFreelist - 1, inbufQueue := g.inbufQueue ++ [callback] }, true)
  else
    ({ g with bufFreelist := g.bufFreelist - 1, outbufQueue := g.outbufQueue ++ [callback] }, true)

/-- The first half of `zb_free_buf`: the buffer goes back to the free list. -/
def releaseBuf (g : Globals) (buf : ℕ) : Globals :=
  let isIn := (g.hdr buf).isInBuf
  { g with
    bufsAllocated := Function.update g.bufsAllocated isIn ((g.bufsAllocated isIn + 255) % 256)
    hdr := Function.update g.hdr buf { g.hdr buf with word := g.head }
    head := buf
    held := g.held.erase buf }

/-- Pass a fresh buffer to a waiting callback and give its entry back. -/
def serve (g : Globals) (isIn : Bool) (func : Callback) : Globals :=
  let (g, buf) := getBuf g isIn
  let (g, _) := scheduleCallback g func buf
  { g with bufFreelist := g.bufFreelist + 1 }

def freeBuf (g : Globals) (buf : ℕ) : Globals :=
  let g := releaseBuf g buf
  if (g.hdr buf).isInBuf then
    match g.rxNeedBuf, g.inbufQueue with
    | false, func :: rest => serve { g with inbufQueue := rest } true func
    | _, _ => g
  else
    match g.outbufQueue with
    | func :: rest => serve { g with outbufQueue := rest } false func
    | [] => g

/-- A step of the pool's users.  Apart from the interface: a holder overwrites the
header octets that share memory with the link, the scheduler runs and queues
callbacks, and the MAC changes its mind about needing a buffer. -/
inductive Op
  | getInBuf
  | getOutBuf
  | getInBufDelayed (callback : Callback)
  | getOutBufDelayed (callback : Callback)
  | freeBuf (buf : ℕ)
  | writeHdr (buf word : ℕ)
  | scheduler (cbQ : List (Callback × ℕ))
  | setRxNeedBuf (rxNeedBuf : Bool)

def step (g : Globals) : Op → Globals
  | .getInBuf => (getBuf g true).1
  | .getOutBuf => (getBuf g false).1
  | .getInBufDelayed callback => (getBufDelayed g callback true).1
  | .getOutBufDelayed callback => (getBufDelayed g callback false).1
  | .freeBuf buf => freeBuf g buf
  | .writeHdr buf word =>
    { g with hdr := Function.update g.hdr buf { g.hdr buf with word := word } }
  | .scheduler cbQ => { g with cbQ := cbQ }
  | .setRxNeedBuf rxNeedBuf => { g with rxNeedBuf := rxNeedBuf }

/-- Only the holder of a buffer frees it or writes to it. -/
def ByHolder (g : Globals) : Op → Prop
  | .freeBuf buf => buf ∈ g.held
  | .writeHdr buf _ => buf ∈ g.held
  | _ => True

instance (g : Globals) : DecidablePred (ByHolder g)
  | .freeBuf _ => inferInstanceAs (Decidable (_ ∈ _))
  | .writeHdr .. => inferInstanceAs (Decidable (_ ∈ _))
  | .getInBuf | .getOutBuf | .getInBufDelayed _ | .getOutBufDelayed _ | .scheduler _
  | .setRxNeedBuf _ => isTrue trivial

/-! ## The invariant -/

/-- The buffers on the free list. -/
def FreeList (g : Globals) (free : List ℕ) : Prop := Chain (fun ref => (g.hdr ref).word) g.head free

/-- The held buffers of one direction. -/
def heldBufs (g : Globals) (isIn : Bool) : List ℕ :=
  g.held.filter fun ref => (g.hdr ref).isInBuf == isIn

/-- Free list and held buffers partition the pool, and the counters count the
held buffers of their direction, within its share. -/
structure Conserved (g : Globals) (free : List ℕ) : Prop where
  linked : FreeList g free
  partition : (free ++ g.held).Perm (List.range' 1 iobufPoolSize)
  counted : ∀ isIn, g.bufsAllocated isIn = (heldBufs g isIn).length
  limited : ∀ isIn, g.bufsAllocated isIn ≤ bufsLimit

namespace Conserved

variable {g : Globals} {free : List ℕ}

theorem nodup (conserved : Conserved g free) : (free ++ g.held).Nodup :=
  conserved.partition.nodup_iff.mpr (List.nodup_range' ..)

theorem ne_zero (conserved : Conserved g free) {ref : ℕ} (member : ref ∈ free ++ g.held) :
    ref ≠ 0 := by
  have inside := conserved.partition.mem_iff.mp member
  rw [List.mem_range'_1] at inside
  omega

/-- Counters and free list add up to the pool. -/
theorem total (conserved : Conserved g free) :
    g.bufsAllocated false + g.bufsAllocated true + free.length = iobufPoolSize := by
  have sizes := conserved.partition.length_eq
  have parts : g.held.length = (heldBufs g false).length +
      (g.held.filter fun ref => !((g.hdr ref).isInBuf == false)).length :=
    List.length_eq_length_filter_add _
  have others : (g.held.filter fun ref => !((g.hdr ref).isInBuf == false)) = heldBufs g true :=
    List.filter_congr fun ref _ => by cases (g.hdr ref).isInBuf <;> rfl
  have counted := conserved.counted
  rw [List.length_append, List.length_range'] at sizes
  rw [others] at parts
  rw [counted false, counted true]
  omega

/-- A direction below its share always gets a buffer. -/
theorem head_ne_zero (conserved : Conserved g free) {isIn : Bool}
    (below : g.bufsAllocated isIn < bufsLimit) : g.head ≠ 0 := by
  have total := conserved.total
  have limited := conserved.limited
  have share : bufsLimit + bufsLimit = iobufPoolSize := rfl
  rw [Ne, conserved.linked.head_eq_zero_iff]
  rintro rfl
  have first := limited false
  have second := limited true
  cases isIn <;> simp only [List.length_nil] at total <;> omega

/-- The invariant does not depend on the queues. -/
theorem congr {g' : Globals} (conserved : Conserved g free) (hdr : g'.hdr = g.hdr)
    (head : g'.head = g.head) (allocated : g'.bufsAllocated = g.bufsAllocated)
    (held : g'.held = g.held) : Conserved g' free where
  linked := by rw [FreeList, hdr, head]; exact conserved.linked
  partition := by rw [held]; exact conserved.partition
  counted isIn := by rw [allocated, heldBufs, hdr, held]; exact conserved.counted isIn
  limited := by rw [allocated]; exact conserved.limited

theorem scheduleCallback (conserved : Conserved g free) (func : Callback) (param : ℕ) :
    Conserved (scheduleCallback g func param).1 free := by
  rw [BufPool.scheduleCallback]
  split
  · exact conserved
  · exact conserved.congr rfl rfl rfl rfl

/-- Taking the head of the free list. -/
theorem getBuf (conserved : Conserved g free) (isIn : Bool) :
    ∃ free', Conserved (getBuf g isIn).1 free' := by
  rw [BufPool.getBuf]
  by_cases ready : g.bufsAllocated isIn < bufsLimit ∧ g.head ≠ 0
  · rw [if_pos ready]
    cases free with
    | nil => exact absurd conserved.linked ready.2
    | cons buf rest =>
      obtain ⟨first, -, tail⟩ := conserved.linked
      have nodup := conserved.nodup
      rw [List.cons_append, List.nodup_cons, List.mem_append, not_or] at nodup
      obtain ⟨⟨offRest, offHeld⟩, -⟩ := nodup
      have small : (g.bufsAllocated isIn + 1) % 256 = g.bufsAllocated isIn + 1 :=
        Nat.mod_eq_of_lt (Nat.lt_of_lt_of_le (Nat.succ_lt_succ ready.1) (by decide))
      refine ⟨rest, ?_, ?_, fun k => ?_, fun k => ?_⟩
      · simp only [FreeList, first]
        refine tail.congr fun node member => ?_
        have other : node ≠ buf := fun same => offRest (same ▸ member)
        rw [Function.update_of_ne other]
      · rw [first]
        exact List.perm_middle.trans conserved.partition
      · have others : (g.held.filter fun ref =>
            (Function.update g.hdr buf ⟨0, isIn⟩ ref).isInBuf == k) = heldBufs g k := by
          refine List.filter_congr fun ref member => ?_
          have other : ref ≠ buf := fun same => offHeld (same ▸ member)
          rw [Function.update_of_ne other]
        simp only [heldBufs, first, List.filter_cons, Function.update_self, others]
        by_cases same : k = isIn
        · subst same
          rw [Function.update_self, small, conserved.counted k, if_pos (beq_self_eq_true k)]
          rfl
        · rw [Function.update_of_ne same, if_neg (by simpa using Ne.symm same)]
          exact conserved.counted k
      · by_cases same : k = isIn
        · subst same
          simp only [Function.update_self, small]
          exact ready.1
        · simp only [Function.update_of_ne same]
          exact conserved.limited k
  · rw [if_neg ready]
    exact ⟨free, conserved⟩

/-- No buffer is handed out exactly when the direction has used up its share. -/
theorem getBuf_eq_zero_iff (conserved : Conserved g free) (isIn : Bool) :
    (BufPool.getBuf g isIn).2 = 0 ↔ g.bufsAllocated isIn = bufsLimit := by
  rw [BufPool.getBuf]
  by_cases below : g.bufsAllocated isIn < bufsLimit
  · have head := conserved.head_ne_zero below
    rw [if_pos ⟨below, head⟩]
    exact iff_of_false head (Nat.ne_of_lt below)
  · rw [if_neg fun ready => below ready.1]
    exact iff_of_true rfl (Nat.le_antisymm (conserved.limited isIn) (Nat.le_of_not_lt below))

theorem getBufDelayed (conserved : Conserved g free) (callback : Callback) (isIn : Bool) :
    ∃ free', Conserved (getBufDelayed g callback isIn).1 free' := by
  obtain ⟨free', kept⟩ := conserved.getBuf isIn
  refine ⟨free', ?_⟩
  unfold BufPool.getBufDelayed
  generalize BufPool.getBuf g isIn = got at kept
  obtain ⟨after, buf⟩ := got
  dsimp only at kept ⊢
  split
  · exact kept.scheduleCallback callback buf
  · split
    · exact kept
    · split <;> exact kept.congr rfl rfl rfl rfl

/-- Returning a held buffer to the free list. -/
theorem releaseBuf (conserved : Conserved g free) {buf : ℕ} (held : buf ∈ g.held) :
    Conserved (releaseBuf g buf) (buf :: free) := by
  have nodup := List.nodup_append.mp conserved.nodup
  have fresh : buf ∉ free := fun member => nodup.2.2 buf member buf held rfl
  have counted := conserved.counted (g.hdr buf).isInBuf
  have limited := conserved.limited (g.hdr buf).isInBuf
  have flags : ∀ ref, (Function.update g.hdr buf { g.hdr buf with word := g.head } ref).isInBuf =
      (g.hdr ref).isInBuf := by
    intro ref
    by_cases same : ref = buf
    · subst same
      simp
    · rw [Function.update_of_ne same]
  have listed : ∀ k, heldBufs (BufPool.releaseBuf g buf) k = (heldBufs g k).erase buf := by
    intro k
    simp only [heldBufs, BufPool.releaseBuf, flags]
    rw [nodup.2.1.erase_eq_filter, List.filter_filter,
      (nodup.2.1.filter _).erase_eq_filter, List.filter_filter]
    exact List.filter_congr fun ref _ => Bool.and_comm _ _
  have own : buf ∈ heldBufs g (g.hdr buf).isInBuf := by simp [heldBufs, held]
  have positive : 0 < (heldBufs g (g.hdr buf).isInBuf).length := List.length_pos_of_mem own
  have small : (g.bufsAllocated (g.hdr buf).isInBuf + 255) % 256 =
      g.bufsAllocated (g.hdr buf).isInBuf - 1 := by
    have share : bufsLimit = 8 := rfl
    omega
  have valid : buf ≠ 0 := conserved.ne_zero (List.mem_append_right free held)
  refine ⟨?_, ?_, fun k => ?_, fun k => ?_⟩
  · refine conserved.linked.push valid fresh ?_ fun other differs => ?_
    · simp [BufPool.releaseBuf]
    · have other' : other ≠ buf := differs
      simp [BufPool.releaseBuf, Function.update_of_ne other']
  · refine List.Perm.trans ?_ conserved.partition
    have moved := (List.perm_cons_erase held).symm
    exact List.perm_middle.symm.trans (moved.append_left free)
  · rw [listed]
    by_cases same : k = (g.hdr buf).isInBuf
    · subst same
      simp only [BufPool.releaseBuf, Function.update_self]
      rw [List.length_erase_of_mem own, small, counted]
    · simp only [BufPool.releaseBuf, Function.update_of_ne same]
      rw [List.erase_of_not_mem (by simp [heldBufs, Ne.symm same])]
      exact conserved.counted k
  · by_cases same : k = (g.hdr buf).isInBuf
    · subst same
      simp only [BufPool.releaseBuf, Function.update_self, small]
      omega
    · simp only [BufPool.releaseBuf, Function.update_of_ne same]
      exact conserved.limited k

theorem serve (conserved : Conserved g free) (isIn : Bool) (func : Callback) :
    ∃ free', Conserved (serve g isIn func) free' := by
  obtain ⟨free', kept⟩ := conserved.getBuf isIn
  exact ⟨free', (kept.scheduleCallback func _).congr rfl rfl rfl rfl⟩

theorem freeBuf (conserved : Conserved g free) {buf : ℕ} (held : buf ∈ g.held) :
    ∃ free', Conserved (freeBuf g buf) free' := by
  have released := conserved.releaseBuf held
  unfold BufPool.freeBuf
  generalize BufPool.releaseBuf g buf = after at released
  dsimp only
  split
  · split
    · next func rest _ _ =>
      have popped : Conserved { after with inbufQueue := rest } (buf :: free) :=
        released.congr rfl rfl rfl rfl
      exact popped.serve true func
    · exact ⟨_, released⟩
  · split
    · next func rest _ =>
      have popped : Conserved { after with outbufQueue := rest } (buf :: free) :=
        released.congr rfl rfl rfl rfl
      exact popped.serve false func
    · exact ⟨_, released⟩

/-- What a holder writes to the shared octets is not on the free list. -/
theorem writeHdr (conserved : Conserved g free) {buf : ℕ} (held : buf ∈ g.held) (word : ℕ) :
    Conserved (step g (.writeHdr buf word)) free := by
  have nodup := List.nodup_append.mp conserved.nodup
  have flags : ∀ ref, (Function.update g.hdr buf { g.hdr buf with word := word } ref).isInBuf =
      (g.hdr ref).isInBuf := by
    intro ref
    by_cases same : ref = buf
    · subst same
      simp
    · rw [Function.update_of_ne same]
  refine ⟨?_, conserved.partition, fun k => ?_, conserved.limited⟩
  · refine conserved.linked.congr fun node member => ?_
    have other : node ≠ buf := fun same => nodup.2.2 node member buf held same
    simp [step, Function.update_of_ne other]
  · simp only [heldBufs, step, flags]
    exact conserved.counted k

end Conserved

/-- Every step of the users keeps the pool conserved. -/
theorem step_conserved {g : Globals} {free : List ℕ} (conserved : Conserved g free) (op : Op)
    (byHolder : ByHolder g op) : ∃ free', Conserved (step g op) free' := by
  cases op with
  | getInBuf => exact conserved.getBuf true
  | getOutBuf => exact conserved.getBuf false
  | getInBufDelayed callback => exact conserved.getBufDelayed callback true
  | getOutBufDelayed callback => exact conserved.getBufDelayed callback false
  | freeBuf buf => exact conserved.freeBuf byHolder
  | writeHdr buf word => exact ⟨free, conserved.writeHdr byHolder word⟩
  | scheduler cbQ => exact ⟨free, conserved.congr rfl rfl rfl rfl⟩
  | setRxNeedBuf rxNeedBuf => exact ⟨free, conserved.congr rfl rfl rfl rfl⟩

/-- The pool `zb_init_buffers` links is all free. -/
theorem initBuffers_conserved :
    Conserved (initBuffers .zero) (List.range' 1 iobufPoolSize) where
  linked := by
    simp [FreeList, Chain, initBuffers, Globals.zero, iobufPoolSize, List.range'_succ]
  partition := by simp [initBuffers, Globals.zero]
  counted isIn := rfl
  limited isIn := Nat.zero_le _

/-- In every run in which buffers are freed by their holders, free list and
counters conserve the pool, no direction exceeds its share, and a request fails
only when its direction has used the share up. -/
theorem buffers_conserved (ops : List Op) (byHolder : Along step ByHolder (initBuffers .zero) ops) :
    ∃ free, FreeList (run step (initBuffers .zero) ops) free ∧ free.Nodup ∧
      (run step (initBuffers .zero) ops).bufsAllocated false +
        (run step (initBuffers .zero) ops).bufsAllocated true + free.length = iobufPoolSize ∧
      ∀ isIn, (run step (initBuffers .zero) ops).bufsAllocated isIn =
          (heldBufs (run step (initBuffers .zero) ops) isIn).length ∧
        (run step (initBuffers .zero) ops).bufsAllocated isIn ≤ iobufPoolSize / 2 ∧
        ((getBuf (run step (initBuffers .zero) ops) isIn).2 = 0 →
          (run step (initBuffers .zero) ops).bufsAllocated isIn = iobufPoolSize / 2) := by
  have kept : ∀ g op, (∃ free, Conserved g free) → ByHolder g op →
      ∃ free, Conserved (step g op) free := by
    rintro g op ⟨free, conserved⟩ ready
    exact step_conserved conserved op ready
  obtain ⟨free, conserved⟩ := invariant_of_along kept _ ops ⟨_, initBuffers_conserved⟩ byHolder
  refine ⟨free, conserved.linked, (List.nodup_append.mp conserved.nodup).1, conserved.total,
    fun isIn => ⟨conserved.counted isIn, conserved.limited isIn, ?_⟩⟩
  exact (conserved.getBuf_eq_zero_iff isIn).mp

/-- Eight requests use up one direction, a callback waits, and the buffer freed
next is passed to it although its holder had overwritten the link. -/
def waitingOps : List Op :=
  List.replicate 8 .getOutBuf ++
    [.getOutBufDelayed 5, .getInBuf, .writeHdr 3 77, .freeBuf 3, .freeBuf 9, .freeBuf 3]

theorem buffers_conserved_waitingOps :
    ∃ free, FreeList (run step (initBuffers .zero) waitingOps) free ∧ free.Nodup := by
  obtain ⟨free, linked, nodup, -⟩ := buffers_conserved waitingOps (by decide +kernel)
  exact ⟨free, linked, nodup⟩

end Zboss.BufPool
