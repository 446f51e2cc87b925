import DiskLayout.Proofs.Path.Canonical
import DiskLayout.Proofs.Table.Mounting

/-!
# Valid tables

The check of a table stops at the first violation that it meets.  Which tables it accepts can be
said without its order: whole sectors that fit the table, at most one container of each kind with
distinct names, mountpoints that are valid and distinct, and nothing in a volume that a boot loader
must reach.  The check of a finished table asks in addition that every device has a size and holds
its payload.

## Main definitions

* `PartitionTable.ValidStructure` — the rules for the structure of a table
* `Node.FreesBoot` — a node that keeps nothing from a boot loader
* `Node.HoldsPayload` — a device with a size that is large enough for its payload

## Main results

* `Payload.wellMounted_iff_freesBoot` — what may be mounted in a payload, along its nodes
* `PartitionTable.validateStructure_ok_iff` — the structural check accepts exactly the tables that
  keep the rules
* `PartitionTable.validate_decides` — so does the check of finished tables, with the sizes of
  devices
-/

namespace DiskLayout

open Validation

/-- What is mounted in a logical volume, in the order of its nodes. -/
def LogicalVolume.mountpoints (volume : LogicalVolume) : List String :=
  volume.payload.toList.flatMap Payload.mountpoints

/-- Whether nothing that a boot loader must reach lies below a node that is a volume: below a
logical volume or in a btrfs volume. -/
def Node.FreesBoot : Node → Prop
  | .logicalVolume volume => ∀ mountpoint ∈ volume.mountpoints, mountpoint ∉ Path.plainOnly
  | .btrfs volume => ∀ subvolume ∈ volume.subvolumes, subvolume.mountpoint ∉ Path.plainOnly
  | _ => True

/-- Whether a node that is a device has a size, and one that its payload needs. -/
def Node.HoldsPayload : Node → Prop
  | .partition _ device =>
    device.size ≠ 0 ∧ ∀ payload, device.payload = some payload → payload.requiredSize ≤ device.size
  | .logicalVolume device =>
    device.size ≠ 0 ∧ ∀ payload, device.payload = some payload → payload.requiredSize ≤ device.size
  | _ => True

/-- The rules for the structure of a table. -/
structure PartitionTable.ValidStructure (table : PartitionTable) : Prop where
  whole_sectors : ∀ partition ∈ table.partitions, Size.sector ∣ partition.size
  partitions_fit : table.size = 0 ∨ table.partitionsSize ≤ table.size
  one_volumeGroup : table.nodes.countP Node.isVolumeGroup ≤ 1
  one_btrfs : table.nodes.countP Node.isBtrfs ≤ 1
  volume_names : ∀ group, .volumeGroup group ∈ table.nodes → group.givenNames.Nodup
  subvolume_names : ∀ volume, .btrfs volume ∈ table.nodes →
    "" ∉ volume.names ∧ volume.names.Nodup
  mountpoints_valid : ∀ mountpoint ∈ table.mountpoints,
    Path.isAbsolute mountpoint = true ∧ Path.isCanonical mountpoint = true
  mountpoints_distinct : table.mountpoints.Nodup
  boot_outside_volumes : ∀ node ∈ table.nodes, node.FreesBoot

/-! ### Mountpoints of boot loaders -/

/-- Where nothing is mounted that a boot loader must reach, no node keeps it from one. -/
theorem Payload.all_freesBoot {payload : Payload}
    (h : ∀ mountpoint ∈ payload.mountpoints, mountpoint ∉ Path.plainOnly) :
    payload.All Node.FreesBoot := by
  induction payload with
  | filesystem system => exact all_filesystem.2 trivial
  | swap space => exact all_swap.2 trivial
  | btrfs volume =>
    rw [mountpoints_btrfs, List.forall_mem_map] at h
    exact all_btrfs.2 ⟨h, fun _ _ => trivial⟩
  | luks container ih =>
    rw [mountpoints_luks] at h
    exact all_luks.2 ⟨trivial, ih h⟩
  | volumeGroup group ih =>
    rw [mountpoints_volumeGroup, List.forall_mem_flatMap] at h
    refine all_volumeGroup.2 ⟨trivial, fun volume hvolume => ⟨h volume hvolume, ?_⟩⟩
    intro payload hpayload
    refine ih volume hvolume payload hpayload fun mountpoint hmountpoint => ?_
    exact h volume hvolume mountpoint
      (List.mem_flatMap.2 ⟨payload, Option.mem_toList.2 hpayload, hmountpoint⟩)

/-- A payload is well mounted exactly if its mountpoints are valid and none of its nodes keeps
anything from a boot loader. -/
theorem Payload.wellMounted_iff_freesBoot {payload : Payload} :
    payload.WellMounted ↔
      (∀ mountpoint ∈ payload.mountpoints, checkMountpoint mountpoint = .ok ()) ∧
        payload.All Node.FreesBoot := by
  induction payload with
  | filesystem system => simp [WellMounted, Node.FreesBoot]
  | swap space => simp [WellMounted, Node.FreesBoot]
  | luks container ih =>
    rw [wellMounted_luks, ih, mountpoints_luks, all_luks]
    exact and_congr_right' (true_and _).symm.to_iff
  | btrfs volume =>
    simp only [WellMounted, MayBeContained, forall_and, mountpoints_btrfs, List.forall_mem_map,
      all_btrfs, Node.FreesBoot, implies_true, and_true]
  | volumeGroup group _ =>
    -- Inside a logical volume nothing may be mounted that a boot loader must reach, at whatever
    -- depth, so the nodes further in add no condition.
    rw [all_volumeGroup]
    constructor
    · intro h
      refine ⟨fun mountpoint hmem => (h mountpoint hmem).1, ?_⟩
      exact all_volumeGroup.1 (all_freesBoot fun mountpoint hmem => (h mountpoint hmem).2)
    · rintro ⟨hvalid, -, hvolumes⟩ mountpoint hmem
      refine ⟨hvalid mountpoint hmem, ?_⟩
      rw [mountpoints_volumeGroup, List.mem_flatMap] at hmem
      obtain ⟨volume, hvolume, hmountpoint⟩ := hmem
      exact (hvolumes volume hvolume).1 mountpoint hmountpoint

namespace PartitionTable

variable {table : PartitionTable}

theorem wellMounted_iff_freesBoot :
    table.WellMounted ↔
      (∀ mountpoint ∈ table.mountpoints, checkMountpoint mountpoint = .ok ()) ∧
        ∀ node ∈ table.nodes, node.FreesBoot := by
  rw [mountpoints_eq, forall_mem_nodes]
  simp only [WellMounted, Partition.WellMounted, Payload.wellMounted_iff_freesBoot, forall_and,
    List.forall_mem_flatMap, Partition.mountpoints, Option.mem_toList]
  refine and_congr_right fun _ => ?_
  constructor
  · intro h
    exact ⟨fun _ _ _ => trivial, fun index partition hindex =>
      h partition (List.mem_of_getElem? hindex)⟩
  · rintro ⟨-, h⟩ partition hpartition
    obtain ⟨index, hindex⟩ := List.mem_iff_getElem?.1 hpartition
    exact h index partition hindex

/-- The rules of single visits, along the nodes. -/
theorem forall_sound_iff :
    (∀ visit ∈ table.visits .parentsFirst, visit.Sound) ↔
      ((∀ group, .volumeGroup group ∈ table.nodes → group.givenNames.Nodup) ∧
        ∀ volume, .btrfs volume ∈ table.nodes → "" ∉ volume.names ∧ volume.names.Nodup) ∧
      table.WellMounted := by
  rw [wellMounted_iff]
  constructor
  · intro h
    refine ⟨⟨fun group hgroup => ?_, fun volume hvolume => ?_⟩, fun visit hvisit => ?_⟩
    · obtain ⟨visit, hvisit, hnode⟩ := List.mem_map.1 hgroup
      exact (h visit hvisit).volume_names group hnode
    · obtain ⟨visit, hvisit, hnode⟩ := List.mem_map.1 hvolume
      exact (h visit hvisit).subvolume_names volume hnode
    · exact ⟨(h visit hvisit).mountpoint_valid, (h visit hvisit).boot_reachable⟩
  · rintro ⟨⟨hgroups, hvolumes⟩, hmounted⟩ visit hvisit
    have hnode : visit.node ∈ table.nodes := List.mem_map_of_mem hvisit
    refine ⟨fun group hgroup => ?_, fun volume hvolume => ?_,
      (hmounted visit hvisit).mountpoint_valid, (hmounted visit hvisit).boot_reachable⟩
    · exact hgroups group (hgroup ▸ hnode)
    · exact hvolumes volume (hvolume ▸ hnode)

end PartitionTable

/-! ### The checks of sizes -/

namespace Validation

theorem checkSectors_ok_iff {index : Nat} {partition : Partition} :
    checkSectors index partition = .ok () ↔ Size.sector ∣ partition.size := by
  unfold checkSectors
  rw [Nat.dvd_iff_mod_eq_zero]
  by_cases hwhole : partition.size % Size.sector = 0 <;> simp [hwhole]

theorem checkAllSectors_ok_iff {index : Nat} {partitions : List Partition} :
    checkAllSectors index partitions = .ok () ↔
      ∀ partition ∈ partitions, Size.sector ∣ partition.size := by
  induction partitions generalizing index with
  | nil => simp [checkAllSectors]
  | cons partition others ih =>
    rw [checkAllSectors, check_bind_eq_ok, List.forall_mem_cons, checkSectors_ok_iff, ih]

theorem checkTotal_ok_iff {table : PartitionTable} :
    checkTotal table = .ok () ↔ table.size = 0 ∨ table.partitionsSize ≤ table.size := by
  unfold checkTotal
  by_cases hsmall : table.size ≠ 0 ∧ table.size < table.partitionsSize
  · rw [if_pos hsmall]
    refine iff_of_false (by simp) ?_
    omega
  · rw [if_neg hsmall]
    refine iff_of_true rfl ?_
    omega

theorem checkDevice_ok_iff {device : String} {size : Nat} {payload : Option Payload} :
    checkDevice device size payload = .ok () ↔
      size ≠ 0 ∧ ∀ content, payload = some content → content.requiredSize ≤ size := by
  unfold checkDevice
  by_cases hsize : size = 0
  · simp [hsize]
  · cases payload with
    | none => simp [hsize]
    | some content => by_cases hsmall : size < content.requiredSize <;> simp [hsize, hsmall]; omega

theorem checkNode_ok_iff {node : Node} : checkNode node = .ok () ↔ node.HoldsPayload := by
  cases node with
  | partition index device => exact checkDevice_ok_iff
  | logicalVolume device => exact checkDevice_ok_iff
  | _ => exact iff_of_true rfl trivial

end Validation

/-! ### Both checks -/

namespace PartitionTable

variable {table : PartitionTable}

/-- The structural check accepts exactly the tables that keep the rules. -/
theorem validateStructure_ok_iff :
    table.validateStructure.result = .ok () ↔ table.ValidStructure := by
  unfold validateStructure
  simp only [Logged.result_bind, Logged.result_lift, check_bind_eq_ok, checkVisits_ok_iff,
    checkAllSectors_ok_iff, checkTotal_ok_iff]
  constructor
  · rintro ⟨hsectors, hfit, hstructure⟩
    obtain ⟨⟨hgroups, hvolumes⟩, hmounted⟩ := forall_sound_iff.1 hstructure.sound
    obtain ⟨hvalid, hboot⟩ := wellMounted_iff_freesBoot.1 hmounted
    exact ⟨hsectors, hfit, hstructure.one_volumeGroup, hstructure.one_btrfs, hgroups, hvolumes,
      fun mountpoint hmem => checkMountpoint_eq_ok.1 (hvalid mountpoint hmem),
      hstructure.mountpoints_distinct, hboot⟩
  · intro h
    have hvalid : ∀ mountpoint ∈ table.mountpoints, checkMountpoint mountpoint = .ok () :=
      fun mountpoint hmem => checkMountpoint_eq_ok.2 (h.mountpoints_valid mountpoint hmem)
    have hmounted := wellMounted_iff_freesBoot.2 ⟨hvalid, h.boot_outside_volumes⟩
    have hsound := forall_sound_iff.2 ⟨⟨h.volume_names, h.subvolume_names⟩, hmounted⟩
    exact ⟨h.whole_sectors, h.partitions_fit,
      ⟨hsound, h.one_volumeGroup, h.one_btrfs, h.mountpoints_distinct⟩⟩

theorem validateDevices_ok_iff :
    table.validateDevices = .ok () ↔ ∀ node ∈ table.nodes, node.HoldsPayload := by
  unfold validateDevices
  simp only [forM_eq_ok, checkNode_ok_iff]
  exact List.forall_mem_map.symm

/-- The structural check accepts exactly the tables that keep the rules, and the check of finished
tables exactly those of them in which every device has a size and holds its payload. -/
theorem validate_decides (table : PartitionTable) :
    (table.validateStructure.result = .ok () ↔ table.ValidStructure) ∧
      (table.validate.result = .ok () ↔
        table.ValidStructure ∧ ∀ node ∈ table.nodes, node.HoldsPayload) := by
  refine ⟨validateStructure_ok_iff, ?_⟩
  unfold validate
  simp only [Logged.result_bind, Logged.result_lift, check_bind_eq_ok, validateStructure_ok_iff,
    validateDevices_ok_iff]

end PartitionTable

end DiskLayout
