import Zboss.Common.PanIds
import Zboss.Lib.FirstByKey
import Zboss.Nwk.NeighborTable

/-!
The list of networks that NLME-NETWORK-DISCOVERY.confirm gives (`nwk_discovery.c`).  Two passes
over the extended neighbour table, the first one for coordinators alone, describe a network by
the first device of it that they come to; what the others say of it is not looked at.
-/

namespace Zboss.Discovery

open Zboss.FirstByKey
open Zboss.PanIds (PanTable PanIdRef ExtPanId panidTableSize)
open Zboss.NeighborTable (DeviceType)

def protocolVersion : UInt8 := 2

/-- `zb_ext_neighbor_tbl_ent_t`: what a beacon says, less what only the choice of a parent
reads. -/
structure ExtNeighborTblEnt where
  shortAddr : UInt16
  panidRef : PanIdRef
  logicalChannel : UInt8
  beaconOrder : UInt8
  superframeOrder : UInt8
  stackProfile : UInt8
  permitJoining : Bool
  routerCapacity : Bool
  endDeviceCapacity : Bool
  depth : UInt8
  deviceType : DeviceType
  deriving DecidableEq

/-- `zb_nlme_network_descriptor_t`. -/
structure NetworkDescriptor where
  extendedPanId : ExtPanId
  logicalChannel : UInt8
  stackProfile : UInt8
  zigbeeVersion : UInt8
  beaconOrder : UInt8
  superframeOrder : UInt8
  permitJoining : Bool
  routerCapacity : Bool
  endDeviceCapacity : Bool
  deriving DecidableEq

/-- `zb_nlme_network_discovery_confirm_t` with the descriptors behind it. -/
structure NetworkDiscoveryConfirm where
  networkCount : ℕ
  descriptors : List NetworkDescriptor

/-- The extended PAN id a reference stands for. -/
def longPanid (pans : PanTable) (ent : ExtNeighborTblEnt) : ExtPanId :=
  (pans.panMap ent.panidRef).longPanid

/-- The descriptor of an entry. -/
def describe (pans : PanTable) (ent : ExtNeighborTblEnt) : NetworkDescriptor where
  extendedPanId := longPanid pans ent
  logicalChannel := ent.logicalChannel
  stackProfile := ent.stackProfile
  zigbeeVersion := protocolVersion
  beaconOrder := ent.beaconOrder
  superframeOrder := ent.superframeOrder
  permitJoining := ent.permitJoining
  routerCapacity := ent.routerCapacity
  endDeviceCapacity := ent.endDeviceCapacity

/-- One turn of the loop over the table: a network that is not listed yet is added. -/
def addNetwork (pans : PanTable) (anyDevice : Bool) (listed : List NetworkDescriptor)
    (ent : ExtNeighborTblEnt) : List NetworkDescriptor :=
  if anyDevice || ent.deviceType == .coordinator then
    if listed.any fun d => decide (d.extendedPanId = longPanid pans ent) then listed
    else listed ++ [describe pans ent]
  else listed

/-- `zb_mlme_scan_confirm` after a discovery: coordinators first, then all. -/
def scanConfirm (pans : PanTable) (ext : List ExtNeighborTblEnt) : NetworkDiscoveryConfirm :=
  let coordinators := ext.foldl (addNetwork pans false) []
  let all := ext.foldl (addNetwork pans true) coordinators
  { networkCount := all.length, descriptors := all }

/-- The list is exact: every network heard, once, in the room there is, described by a beacon of
its own; and joining is permitted where some device of the network permits it. -/
structure Exact (pans : PanTable) (ext : List ExtNeighborTblEnt)
    (confirm : NetworkDiscoveryConfirm) : Prop where
  count : confirm.networkCount = confirm.descriptors.length
  room : confirm.descriptors.length ≤ panidTableSize
  once : (confirm.descriptors.map (·.extendedPanId)).Nodup
  heard : ∀ p, p ∈ confirm.descriptors.map (·.extendedPanId) ↔ p ∈ ext.map (longPanid pans)
  described : ∀ d ∈ confirm.descriptors, ∃ ent ∈ ext, longPanid pans ent = d.extendedPanId ∧
    d = { describe pans ent with permitJoining := d.permitJoining }
  permits : ∀ d ∈ confirm.descriptors, d.permitJoining = true ↔
    ∃ ent ∈ ext, longPanid pans ent = d.extendedPanId ∧ ent.permitJoining = true

/-! ## The passes -/

variable (pans : PanTable)

/-- The order in which the passes come to the entries. -/
def visited (ext : List ExtNeighborTblEnt) : List ExtNeighborTblEnt :=
  ext.filter (·.deviceType == .coordinator) ++ ext

theorem foldl_addNetwork_coordinators (ext : List ExtNeighborTblEnt) :
    ∀ listed, ext.foldl (addNetwork pans false) listed =
      (ext.filter (·.deviceType == .coordinator)).foldl (addNetwork pans true) listed := by
  induction ext with
  | nil => exact fun _ => rfl
  | cons ent rest induction_ =>
    intro listed
    rw [List.foldl_cons, induction_]
    cases coordinator : ent.deviceType == .coordinator with
    | true => simp [addNetwork, coordinator]
    | false => simp [addNetwork, coordinator]

/-- The descriptors are those of the entries kept. -/
theorem foldl_addNetwork (ext : List ExtNeighborTblEnt) :
    ∀ kept, ext.foldl (addNetwork pans true) (kept.map (describe pans)) =
      (ext.foldl (keep (longPanid pans)) kept).map (describe pans) := by
  induction ext with
  | nil => exact fun _ => rfl
  | cons ent rest induction_ =>
    intro kept
    have turn : addNetwork pans true (kept.map (describe pans)) ent =
        (keep (longPanid pans) kept ent).map (describe pans) := by
      have same : ((kept.map (describe pans)).any fun d =>
          decide (d.extendedPanId = longPanid pans ent)) =
            kept.any fun y => decide (longPanid pans y = longPanid pans ent) := by
        rw [List.any_map]
        rfl
      rw [addNetwork, Bool.true_or, if_pos rfl, same, keep]
      split
      · rfl
      · rw [List.map_append, List.map_singleton]
    rw [List.foldl_cons, List.foldl_cons, turn, induction_]

/-- **The list**: each network by the first entry of it that is visited. -/
theorem scanConfirm_descriptors (ext : List ExtNeighborTblEnt) :
    (scanConfirm pans ext).descriptors =
      (firsts (longPanid pans) (visited ext)).map (describe pans) := by
  simp only [scanConfirm]
  rw [foldl_addNetwork_coordinators, ← List.foldl_append]
  exact foldl_addNetwork pans (visited ext) []

theorem mem_visited {ext : List ExtNeighborTblEnt} {ent : ExtNeighborTblEnt} :
    ent ∈ visited ext ↔ ent ∈ ext := by
  simp only [visited, List.mem_append, List.mem_filter]
  tauto

theorem mem_descriptors_iff {ext : List ExtNeighborTblEnt} {d : NetworkDescriptor} :
    d ∈ (scanConfirm pans ext).descriptors ↔
      ∃ ent, firstOf (longPanid pans) (visited ext) (longPanid pans ent) = some ent ∧
        describe pans ent = d := by
  rw [scanConfirm_descriptors, List.mem_map]
  simp only [mem_firsts_iff]

/-- There are no more networks than references. -/
theorem descriptors_room (ext : List ExtNeighborTblEnt) :
    (scanConfirm pans ext).descriptors.length ≤ panidTableSize := by
  have once : ((firsts (longPanid pans) (visited ext)).map (longPanid pans)).Nodup :=
    firsts_nodup (visited ext)
  have refs : ((firsts (longPanid pans) (visited ext)).map (·.panidRef)).Nodup := by
    have same : longPanid pans = (fun ref => (pans.panMap ref).longPanid) ∘ (·.panidRef) := rfl
    rw [same, ← List.map_map] at once
    exact List.Nodup.of_map _ once
  rw [scanConfirm_descriptors, List.length_map, ← List.length_map (·.panidRef)]
  simpa using refs.length_le_card

/-! ## Permit joining -/

/-- Where some device of a network permits joining, the first coordinator of it, or else the
first device, does. -/
def FirstPermits (ext : List ExtNeighborTblEnt) : Prop :=
  ∀ ent ∈ ext, ent.permitJoining = true →
    ∀ first ∈ firstOf (longPanid pans) (visited ext) (longPanid pans ent),
      first.permitJoining = true

/-- **The list of networks is exact** exactly when the device that describes a network permits
joining wherever another device of the network does. -/
theorem networks_exact_iff (ext : List ExtNeighborTblEnt) :
    Exact pans ext (scanConfirm pans ext) ↔ FirstPermits pans ext := by
  constructor
  · intro exact_ ent member permits first described
    have key := firstOf_key described
    have listed : describe pans first ∈ (scanConfirm pans ext).descriptors :=
      (mem_descriptors_iff pans).mpr ⟨first, by rw [key, described], rfl⟩
    exact (exact_.permits _ listed).mpr ⟨ent, member, key.symm, permits⟩
  · intro first
    refine ⟨rfl, descriptors_room pans ext, ?_, ?_, ?_, ?_⟩
    · rw [scanConfirm_descriptors, List.map_map]
      exact firsts_nodup (visited ext)
    · intro p
      rw [scanConfirm_descriptors, List.map_map]
      constructor
      · intro listed
        obtain ⟨ent, kept, rfl⟩ := List.mem_map.mp listed
        exact List.mem_map_of_mem (mem_visited.mp (mem_of_mem_firsts kept))
      · intro heard
        obtain ⟨ent, member, rfl⟩ := List.mem_map.mp heard
        obtain ⟨y, kept, same⟩ : ∃ y ∈ firsts (longPanid pans) (visited ext),
            longPanid pans y = longPanid pans ent := exists_first (mem_visited.mpr member)
        exact List.mem_map.mpr ⟨y, kept, same⟩
    · intro d listed
      obtain ⟨ent, described, rfl⟩ := (mem_descriptors_iff pans).mp listed
      exact ⟨ent, mem_visited.mp (List.mem_of_find?_eq_some described), rfl, rfl⟩
    · intro d listed
      obtain ⟨ent, described, rfl⟩ := (mem_descriptors_iff pans).mp listed
      constructor
      · intro permits
        exact ⟨ent, mem_visited.mp (List.mem_of_find?_eq_some described), rfl, permits⟩
      · rintro ⟨other, member, same, permits⟩
        exact first other member permits ent (same ▸ described)

section

local instance refs_neZero : NeZero 8 := ⟨by decide⟩

/-- The PAN id of a network is stored under reference 0. -/
def oneNetwork : PanTable := ⟨fun _ => ⟨fun _ => 1, 0x1a62⟩, fun ref => decide (ref = 0)⟩

/-- Two routers of that network are heard, and the second permits joining. -/
def twoRouters : List ExtNeighborTblEnt :=
  [⟨1, 0, 11, 15, 15, 1, false, true, true, 1, .router⟩,
    ⟨2, 0, 11, 15, 15, 1, true, true, true, 1, .router⟩]

end

/-- The network is listed as closed. -/
theorem open_network_listed_closed :
    ¬ Exact oneNetwork twoRouters (scanConfirm oneNetwork twoRouters) := by
  intro exact_
  have permits := (exact_.permits (describe oneNetwork (twoRouters.get ⟨0, by decide⟩))
    (by decide)).mpr ⟨twoRouters.get ⟨1, by decide⟩, by decide, rfl, rfl⟩
  exact absurd permits (by decide)

end Zboss.Discovery
