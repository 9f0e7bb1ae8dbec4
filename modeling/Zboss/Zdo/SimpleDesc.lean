import Zboss.Lib.Words
import Zboss.Mac.HeaderCodec
import Zboss.Zdo.NeighborPages

/-!
Simple descriptors: how they stand in memory, and how `zb_copy_simple_desc` writes one into a
response.  In memory both counts stand before one list of clusters; on the wire the second count
stands between the input clusters and the output clusters.
-/

namespace Zboss.SimpleDesc

open Zboss.BufLayout Zboss.Cells Zboss.FrameHeaders Zboss.MacHeader Zboss.Words
open Zboss.ChannelChange (zdpSuccess zdpInvRequesttype)
open Zboss.CommandFrames (shortOctets le16_shortOctets)
open Zboss.NeighborPages (zdpDeviceNotFound)

/-! ## Layouts -/

/-- `zb_af_simple_desc_1_1_t` with its list of clusters, in two parts.  The counts are octets. -/
structure Desc where
  endpoint : UInt8
  appProfileId : UInt16
  appDeviceId : UInt16
  appDeviceVersion : Fin 16
  reserved : Fin 16
  inputs : List UInt16
  outputs : List UInt16
  inputs_lt : inputs.length < 256
  outputs_lt : outputs.length < 256

/-- Clusters, in the order of the octets in memory and on the wire. -/
def octets (clusters : List UInt16) : List UInt8 := clusters.flatMap shortOctets

namespace Desc

variable (desc : Desc)

def inputCount : UInt8 := UInt8.ofNat desc.inputs.length

def outputCount : UInt8 := UInt8.ofNat desc.outputs.length

/-- The fields before the counts. -/
def fixed : List UInt8 :=
  [desc.endpoint] ++ (shortOctets desc.appProfileId ++ (shortOctets desc.appDeviceId ++
    [UInt8.ofNat (desc.appDeviceVersion + 16 * desc.reserved)]))

/-- The descriptor in memory. -/
def memory : List UInt8 :=
  desc.fixed ++ ([desc.inputCount] ++ ([desc.outputCount] ++
    (octets desc.inputs ++ octets desc.outputs)))

/-- `sizeof(zb_af_simple_desc_1_1_t)`, with the clusters there are instead of two. -/
def size : ℕ := 8 + (desc.inputs.length + desc.outputs.length) * 2

end Desc

/-! ## The response -/

/-- `zb_copy_simple_desc`, from a descriptor in the memory `source` to `dst`. -/
def copySimpleDesc (a : Octets) (dst : ℕ) (source : Octets) : Octets :=
  let a := memcpy a dst (segment source 0 (8 + 4 - 2 * 2))
  let outCount := source 7
  let inCount := (source 6).toNat
  let a := copyWords source 8 (dst + 8 - 1) inCount a
  let a := copyWords source (8 + 2 * inCount) (dst + 8 + 2 * inCount) outCount.toNat a
  memcpy a (dst + 8 + 2 * inCount - 1) [outCount]

/-- The descriptors of a device, and `ZB_COORDINATOR_ROLE`. -/
structure Zdo where
  coordinatorRole : Bool
  shortAddress : UInt16
  zdoSimpleDesc : Desc
  simpleDescList : List Desc

/-- `ZB_ZDP_STATUS_INVALID_EP`. -/
def zdpInvalidEp : UInt8 := 0x82

/-- The size of `zb_zdo_simple_desc_resp_hdr_t`. -/
def sizeofRespHdr : ℕ := 4

namespace Zdo

variable (z : Zdo)

/-- The descriptor of an endpoint, the last of several; endpoint 0 is that of ZDO. -/
def find (ep : UInt8) : Option Desc :=
  if ep = 0 then some z.zdoSimpleDesc
  else z.simpleDescList.reverse.find? fun desc => desc.endpoint == ep

/-- The header of the response. -/
def respHdr (status : UInt8) (nwkAddr : UInt16) (length : UInt8) : List UInt8 :=
  [status] ++ (shortOctets nwkAddr ++ [length])

/-- `zdo_send_simple_desc_resp`, up to the sending of the response; none where an assertion of the
buffer fails, to which sizes come as octets. -/
def sendSimpleDescResp (b : Buf) : Option Buf := do
  let aps : Octets := fun i => b.buf (b.dataOffset + i)
  let addrOfInterest := aps.le16 1
  let ep := aps 3
  let (r, hdr) ← b.initialAlloc sizeofRespHdr
  if z.shortAddress = addrOfInterest then
    match z.find ep with
    | some desc =>
      let length := UInt8.ofNat desc.size
      let (r, body) ← r.smartAllocRight length.toNat
      let cells := copySimpleDesc r.buf body.first (Octets.ofList desc.memory)
      some { r with buf := memcpy cells hdr.first (respHdr zdpSuccess addrOfInterest length) }
    | none =>
      some { r with buf := memcpy r.buf hdr.first (respHdr zdpInvalidEp addrOfInterest 0) }
  else
    let status := if z.coordinatorRole then zdpDeviceNotFound else zdpInvRequesttype
    some { r with buf := memcpy r.buf hdr.first (respHdr status addrOfInterest 0) }

/-- The descriptor the request in the buffer asks for, if the device has it. -/
def asked (b : Buf) : Option Desc :=
  let aps : Octets := fun i => b.buf (b.dataOffset + i)
  if z.shortAddress = aps.le16 1 then z.find (aps 3) else none

end Zdo

/-! ## A decoder -/

/-- `n` clusters from `first` on. -/
def readClusters (p : Octets) (first n : ℕ) : List UInt16 :=
  (List.range n).map fun i => p.le16 (first + 2 * i)

variable {desc : Desc} {a source : Octets} {p : Octets}

/-! ## Reading back -/

theorem length_octets (clusters : List UInt16) : (octets clusters).length = 2 * clusters.length := by
  induction clusters with
  | nil => rfl
  | cons cluster rest ih =>
    rw [octets, List.flatMap_cons, List.length_append, List.length_cons, ← octets, ih]
    simp only [shortOctets, List.length_cons, List.length_nil]
    omega

theorem readClusters_succ (p : Octets) (first n : ℕ) :
    readClusters p first (n + 1) = p.le16 first :: readClusters p (first + 2) n := by
  rw [readClusters, List.range_succ_eq_map, List.map_cons, List.map_map, readClusters]
  refine congrArg₂ List.cons rfl (List.map_congr_left fun i _ => ?_)
  simp only [Function.comp_apply]
  congr 1
  omega

theorem readClusters_holds {first : ℕ} {clusters : List UInt16}
    (holds : Holds p first (octets clusters)) :
    readClusters p first clusters.length = clusters := by
  induction clusters generalizing first with
  | nil => rfl
  | cons cluster rest ih =>
    rw [octets, List.flatMap_cons, ← octets, holds_append] at holds
    rw [List.length_cons, readClusters_succ, holds_shortOctets holds.1]
    exact congrArg _ (ih holds.2)

theorem holds_singleton {i : ℕ} {octet : UInt8} : Holds p i [octet] ↔ p i = octet := by
  constructor
  · exact List.head_eq_of_cons_eq
  · exact fun same => congrArg (fun octet => [octet]) same

/-- What stands apart from a copy stands there still. -/
theorem holds_apart {i dst : ℕ} {xs octets : List UInt8}
    (apart : i + octets.length ≤ dst ∨ dst + xs.length ≤ i) :
    Holds (memcpy p dst xs) i octets ↔ Holds p i octets := by
  rw [Holds, Holds, segment_memcpy_apart xs apart]

theorem toNat_count {n : ℕ} (small : n < 256) : (UInt8.ofNat n).toNat = n := by
  rw [UInt8.toNat_ofNat']
  omega

/-- A descriptor of a device with two input clusters and one output cluster. -/
def lamp : Desc where
  endpoint := 5
  appProfileId := 0x104
  appDeviceId := 0x100
  appDeviceVersion := 1
  reserved := 0
  inputs := [3, 6]
  outputs := [0x19]
  inputs_lt := by decide
  outputs_lt := by decide

end Zboss.SimpleDesc
