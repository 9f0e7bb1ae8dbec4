import Zboss.Lib.BestSoFar
import Zboss.Nwk.JoinRuns

/-!
The parent that `nwk_choose_parent` finds, against what is expected of it.  The loop keeps the
best entry so far, and an entry takes the place only where it is less deep and not worse to
hear; so what it finds is the last of the entries that lead the table.  The update identifier is
held against that of the NIB only, and as an `int`; the depth of a parent is not checked.
-/

namespace Zboss.Join

open Zboss

namespace ExtNeighbor

/-- The capacity of the device type asked for. -/
def hasCapacity (routerRole : Bool) (cap : UInt8) (ne : ExtNeighbor) : Bool :=
  if routerRole && capDeviceType cap && ne.stackProfile = 1 then ne.routerCapacity
  else ne.endDeviceCapacity

/-- `ne` takes the place of `ret`. -/
def takesOver (ne ret : ExtNeighbor) : Bool := !ret.skipped ne

end ExtNeighbor

/-- Update identifier `id1` is as new as `id2` modulo 256. -/
def asNew (id1 id2 : UInt8) : Prop := (id1 - id2).toNat < 128

instance (id1 id2 : UInt8) : Decidable (asNew id1 id2) :=
  inferInstanceAs (Decidable (_ < _))

namespace Device

variable (w : Device) (panidRef : ℕ) (cap : UInt8) (maxDepth : UInt8)

/-- What the loop lets through. -/
abbrev fits (ne : ExtNeighbor) : Bool := ne.suitable w.routerRole panidRef cap w.updateId

/-- A candidate for the parent, up to the comparison with the others. -/
structure Candidate (ne : ExtNeighbor) : Prop where
  network : ne.panidRef = panidRef
  potential : ne.potentialParent = true
  permits : ne.permitJoining = true
  capacity : ne.hasCapacity w.routerRole cap = true
  admissible : ne.depth < maxDepth
  recent : asNew ne.updateId w.updateId

/-- The entries that lead the table: the first that the loop lets through, the first such behind it
that is less deep and not worse to hear, and so on. -/
def leaders : List ExtNeighbor :=
  BestSoFar.leaders (w.fits panidRef cap) ExtNeighbor.takesOver w.extNeighbor

/-- An entry with all that a candidate has, whose update identifier is by so much greater than that
of the NIB that the comparison as `int` refuses it. -/
structure JustAhead (ne : ExtNeighbor) : Prop where
  network : ne.panidRef = panidRef
  potential : ne.potentialParent = true
  permits : ne.permitJoining = true
  capacity : ne.hasCapacity w.routerRole cap = true
  admissible : ne.depth < maxDepth
  ahead : ne.updateId.toNat = w.updateId.toNat + 127

variable {w panidRef cap maxDepth} {ne : ExtNeighbor}

/-! ## The loop -/

theorem JustAhead.candidate (ahead : w.JustAhead panidRef cap maxDepth ne) :
    w.Candidate panidRef cap maxDepth ne := by
  refine ⟨ahead.network, ahead.potential, ahead.permits, ahead.capacity, ahead.admissible, ?_⟩
  have large : w.updateId ≤ ne.updateId := by
    rw [UInt8.le_iff_toNat_le, ahead.ahead]
    exact Nat.le_add_right _ _
  rw [asNew, UInt8.toNat_sub_of_le _ _ large, ahead.ahead]
  omega

end Device

end Zboss.Join
