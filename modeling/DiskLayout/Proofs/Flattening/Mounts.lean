import DiskLayout.Proofs.Flattening.Acceptance
import DiskLayout.Proofs.Path.Containment
import DiskLayout.Proofs.Table.Resemblance
import DiskLayout.Proofs.Table.Structure
import Mathlib.Data.List.Perm.Basic

/-!
# The mounts of a flattened table

Every node of a table that is mounted gives one mount, and a layout has no others.  The mounts are
put in the order of their targets, and no two of them have the same target, so what is mounted
below another mount comes after it.  A mount names its device only by a text; the map of devices
leads from there to the partition that holds the volume group, which is the only one of the table.

## Main definitions

* `PartitionTable.Reaches` — a node that is mounted, with its mount

## Main results

* `flatten_mounts` — the mounts of a flattened table are those of its nodes, in ascending order
-/

namespace DiskLayout

open Flattening

/-- A node of a table that is mounted, and the mount through which it is reached.  What lies
directly in a partition is reached through the partition's number, and a filesystem in a logical
volume through the name of a device on the partition of the volume group. -/
inductive PartitionTable.Reaches (table : PartitionTable) (devices : TextMap Device) :
    Node → Mount → Prop
  | filesystem {index : Nat} {partition : Partition} {system : Filesystem}
    (hheld : table.Holds index partition (.filesystem system))
    (hkind : MountKind.ofFilesystem system.kind ≠ .btrfs) :
    Reaches table devices (.filesystem system)
      ⟨mountName system.mountpoint, .ofFilesystem system.kind, "disk", system.mountpoint,
        some (index + 1), none⟩
  | subvolume {index : Nat} {partition : Partition} {volume : Btrfs} {subvolume : Subvolume}
    (hheld : table.Holds index partition (.btrfs volume)) (hmem : subvolume ∈ volume.subvolumes) :
    Reaches table devices (.subvolume subvolume)
      ⟨mountName subvolume.mountpoint, .btrfs, "disk", subvolume.mountpoint, some (index + 1),
        some ⟨some subvolume.name, subvolume.compress⟩⟩
  | volumeFilesystem {index : Nat} {partition : Partition} {group : VolumeGroup}
    {volume : LogicalVolume} {system : Filesystem} {source name : String} {device : Device}
    (hheld : table.Holds index partition (.volumeGroup group))
    (hmem : volume ∈ group.logicalVolumes) (hpayload : volume.payload = some (.filesystem system))
    (hkind : MountKind.ofFilesystem system.kind ≠ .btrfs)
    (hdevice : devices.get? source = some device) (hparent : device.parent = some "disk")
    (hoptions : device.options = .logicalVolume name (some (index + 1))) :
    Reaches table devices (.filesystem system)
      ⟨mountName system.mountpoint, .ofFilesystem system.kind, source, system.mountpoint, none,
        none⟩

/-! ### Devices -/

theorem MountKind.ofFilesystem_ne_btrfs {kind : FilesystemType} (h : kind ≠ .btrfs) :
    MountKind.ofFilesystem kind ≠ .btrfs := by
  cases kind <;> simp_all [ofFilesystem]

theorem LogicalVolume.deviceName_ne_diskDevice (volume : LogicalVolume) :
    volume.deviceName ≠ diskDevice := by
  intro h
  have hhead := congrArg (fun text : String => text.toList.head?) h
  simp [deviceName, diskDevice] at hhead

namespace PartitionTable

variable {table : PartitionTable} {index : Nat} {partition : Partition} {group : VolumeGroup}
  {volume : LogicalVolume} {contributions : List Contribution}

theorem Holds.mem_visits (hheld : table.Holds index partition (.volumeGroup group))
    (hmem : volume ∈ group.logicalVolumes) :
    ⟨.logicalVolume volume, [.partition index partition, .volumeGroup group]⟩ ∈
      table.visits .parentsFirst := by
  refine PartitionTable.mem_visits.2 ⟨index, partition, hheld.1, ?_⟩
  rw [Partition.visits_parentsFirst, hheld.2, Option.toList_some, List.flatMap_singleton,
    List.mem_cons, Payload.visits_volumeGroup, WalkOrder.mem_arrange,
    logicalVolumeVisits_eq_flatMap, List.mem_flatMap]
  refine .inr (.inr ⟨volume, hmem, ?_⟩)
  rw [LogicalVolume.visits_eq, WalkOrder.mem_arrange]
  exact .inl rfl

theorem Holds.isVolumeGroup (hheld : table.Holds index partition (.volumeGroup group)) :
    ∃ node ∈ partition.nodes index, node.isVolumeGroup = true := by
  refine ⟨.volumeGroup group, ?_, rfl⟩
  simp [Partition.nodes, hheld.2]

/-- The devices of a walk are those of logical volumes. -/
theorem exists_of_mem_devices
    (h : List.Forall₂ (Contributes table) (table.visits .parentsFirst) contributions)
    {entry : String × Device} (hentry : entry ∈ (Contribution.all contributions).devices) :
    ∃ index partition group volume, table.Holds index partition (.volumeGroup group) ∧
      volume ∈ group.logicalVolumes ∧
      entry = (volume.deviceName, Device.ofVolume volume.name (index + 1)) := by
  obtain ⟨contribution, hcontribution, hmem⟩ := List.mem_flatMap.1 hentry
  obtain ⟨visit, -, hvisit⟩ := exists_of_forall₂ h.flip hcontribution
  cases hvisit with
  | logicalVolume hheld hvolume hdirect =>
    exact ⟨_, _, _, _, hheld, hvolume, List.mem_singleton.1 hmem⟩
  | _ => exact absurd hmem List.not_mem_nil

/-- The device of every logical volume is among those of a walk. -/
theorem Holds.mem_devices (hheld : table.Holds index partition (.volumeGroup group))
    (hmem : volume ∈ group.logicalVolumes)
    (h : List.Forall₂ (Contributes table) (table.visits .parentsFirst) contributions) :
    (volume.deviceName, Device.ofVolume volume.name (index + 1)) ∈
      (Contribution.all contributions).devices := by
  obtain ⟨contribution, hcontribution, hvisit⟩ := exists_of_forall₂ h (hheld.mem_visits hmem)
  refine List.mem_flatMap.2 ⟨contribution, hcontribution, ?_⟩
  cases hvisit with
  | logicalVolume _ _ _ => exact List.mem_singleton_self _

/-- The name of a logical volume's device leads to a device on the partition of its group.  Where
two volumes have devices of the same name it may be the device of the other one. -/
theorem Holds.get?_deviceName (hheld : table.Holds index partition (.volumeGroup group))
    (hmem : volume ∈ group.logicalVolumes) (hstructured : table.WellStructured)
    (h : List.Forall₂ (Contributes table) (table.visits .parentsFirst) contributions)
    (filename : String) :
    ∃ name, (layoutOf filename (Contribution.all contributions)).devices.get? volume.deviceName =
      some (Device.ofVolume name (index + 1)) := by
  obtain ⟨device, hentry, hdevice⟩ := TextMap.exists_get?_ofList
    (List.mem_cons_of_mem (diskDevice, Device.disk filename) (hheld.mem_devices hmem h))
  rcases List.mem_cons.1 hentry with hdisk | hentry
  · exact absurd (congrArg Prod.fst hdisk) volume.deviceName_ne_diskDevice
  · -- The device is one of a volume, and the group of that volume is the only one.
    obtain ⟨other, holder, _, found, hother, -, heq⟩ := exists_of_mem_devices h hentry
    obtain rfl := hstructured.eq_of_isVolumeGroup hheld.1 hother.1 hheld.isVolumeGroup
      hother.isVolumeGroup
    obtain ⟨-, rfl⟩ := Prod.mk.inj heq
    exact ⟨found.name, hdevice⟩

/-! ### Mounts -/

/-- What a visit contributes reaches its node, if the node is mounted. -/
theorem reaches_of_contributes {devices : TextMap Device} {visit : Visit}
    {contribution : Contribution}
    (hdevices : ∀ index partition group, table.Holds index partition (.volumeGroup group) →
      ∀ volume ∈ group.logicalVolumes, ∃ name,
        devices.get? volume.deviceName = some (Device.ofVolume name (index + 1)))
    (h : Contributes table visit contribution) :
    List.Forall₂ (table.Reaches devices)
      ([visit.node].filter fun node => node.mountpoint?.isSome) contribution.mounts := by
  cases h with
  | filesystem hheld hkind =>
    exact .cons (.filesystem hheld (MountKind.ofFilesystem_ne_btrfs hkind)) .nil
  | subvolume hheld hmem => exact .cons (.subvolume hheld hmem) .nil
  | volumeFilesystem hheld hmem hpayload hkind =>
    obtain ⟨name, hdevice⟩ := hdevices _ _ _ hheld _ hmem
    exact .cons (.volumeFilesystem hheld hmem hpayload (MountKind.ofFilesystem_ne_btrfs hkind)
      hdevice rfl rfl) .nil
  | _ => exact .nil

/-- The mounts of a walk reach the nodes that are mounted, one by one. -/
theorem forall₂_reaches {devices : TextMap Device} {visits : List Visit}
    (hdevices : ∀ index partition group, table.Holds index partition (.volumeGroup group) →
      ∀ volume ∈ group.logicalVolumes, ∃ name,
        devices.get? volume.deviceName = some (Device.ofVolume name (index + 1)))
    (h : List.Forall₂ (Contributes table) visits contributions) :
    List.Forall₂ (table.Reaches devices)
      ((visits.map Visit.node).filter fun node => node.mountpoint?.isSome)
      (Contribution.all contributions).mounts := by
  induction h with
  | nil => exact .nil
  | @cons visit _ visits _ hfirst _ ih =>
    -- A visit has at most one mounted node, and gives as many mounts.
    have hsplit : ((visit :: visits).map Visit.node).filter (fun node => node.mountpoint?.isSome) =
        ([visit.node].filter fun node => node.mountpoint?.isSome) ++
          (visits.map Visit.node).filter fun node => node.mountpoint?.isSome := by
      rw [List.map_cons, ← List.singleton_append, List.filter_append]
    rw [hsplit]
    exact List.rel_append (reaches_of_contributes hdevices hfirst) ih

end PartitionTable

/-! ### The order of mounts -/

theorem noLater_eq_true {first second : Mount} :
    noLater first second = true ↔ ¬ second.target < first.target := by
  simp [noLater]

/-- Mounts with different targets are in the order of their targets when they are sorted. -/
theorem targets_ascending {mounts : List Mount} (hdistinct : (mounts.map Mount.target).Nodup) :
    ((mounts.mergeSort noLater).map Mount.target).Pairwise (· < ·) := by
  have hsorted : (mounts.mergeSort noLater).Pairwise fun first second =>
      ¬ second.target < first.target := by
    refine List.Pairwise.imp noLater_eq_true.1 (List.pairwise_mergeSort ?_ ?_ mounts)
    · intro first second third hfirst hsecond
      rw [noLater_eq_true] at hfirst hsecond ⊢
      exact String.le_trans hfirst hsecond
    · intro first second
      rw [Bool.or_eq_true, noLater_eq_true, noLater_eq_true]
      exact String.le_total _ _
  rw [List.pairwise_map]
  have hne := List.pairwise_map.1
    (((List.mergeSort_perm mounts noLater).map Mount.target).nodup_iff.2 hdistinct)
  -- Sorting only says that no target is less than one before it; that they differ makes it strict.
  refine hsorted.imp₂ (fun first second hle hne => ?_) hne
  exact Classical.byContradiction fun hlt => hne (String.le_antisymm hle hlt)

theorem lt_of_pairwise_lt {texts : List String} (h : texts.Pairwise (· < ·)) {i j : Nat}
    {first second : String} (hfirst : texts[i]? = some first) (hsecond : texts[j]? = some second)
    (hlt : first < second) : i < j := by
  obtain ⟨hi, rfl⟩ := List.getElem?_eq_some_iff.1 hfirst
  obtain ⟨hj, rfl⟩ := List.getElem?_eq_some_iff.1 hsecond
  rcases Nat.lt_trichotomy i j with hij | rfl | hji
  · exact hij
  · exact absurd hlt (String.lt_irrefl _)
  · exact absurd (List.pairwise_iff_getElem.1 h j i hj hi hji) (String.lt_asymm hlt)

/-- The targets of a flattened table are its mountpoints, in strictly ascending order. -/
theorem flatten_targets {table : PartitionTable} {filename : String} {platform : Platform}
    {layout : FlattenedLayout} (hdistinct : table.mountpoints.Nodup)
    (h : (table.flatten filename platform).result = .ok layout) :
    (layout.mounts.map Mount.target).Perm table.mountpoints ∧
      (layout.mounts.map Mount.target).Pairwise (· < ·) := by
  obtain ⟨-, -, contributions, hall, rfl⟩ := PartitionTable.flatten_eq_ok h
  have htargets : (Contribution.all contributions).mounts.map Mount.target = table.mountpoints :=
    targets_of_contributes hall
  rw [← htargets] at hdistinct ⊢
  exact ⟨(List.mergeSort_perm _ _).map _, targets_ascending hdistinct⟩

/-- The mounts of a flattened table: their targets are the mountpoints of the table in strictly
ascending order, a mount comes after all mounts above it, and they reach the mounted nodes of the
table one by one. -/
theorem flatten_mounts {table : PartitionTable} {filename : String} {platform : Platform}
    {layout : FlattenedLayout} (hvalid : table.validateStructure.result = .ok ())
    (h : (table.flatten filename platform).result = .ok layout) :
    (layout.mounts.map Mount.target).Perm table.mountpoints ∧
    (layout.mounts.map Mount.target).Pairwise (· < ·) ∧
    (∀ (i j : Nat) (upper lower : Mount), layout.mounts[i]? = some upper →
      layout.mounts[j]? = some lower → Path.hasBase lower.target upper.target = true →
      upper.target ≠ lower.target → i < j) ∧
    ∃ nodes, nodes.Perm (table.nodes.filter fun node => node.mountpoint?.isSome) ∧
      List.Forall₂ (table.Reaches layout.devices) nodes layout.mounts := by
  have hstructured := PartitionTable.wellStructured_of_validateStructure hvalid
  obtain ⟨hperm, hascending⟩ := flatten_targets hstructured.mountpoints_distinct h
  refine ⟨hperm, hascending, fun i j upper lower hupper hlower hbase hne => ?_, ?_⟩
  · refine lt_of_pairwise_lt hascending ?_ ?_ (Path.lt_of_hasBase hbase hne)
    · rw [List.getElem?_map]
      exact congrArg (Option.map Mount.target) hupper
    · rw [List.getElem?_map]
      exact congrArg (Option.map Mount.target) hlower
  · obtain ⟨-, -, contributions, hall, rfl⟩ := PartitionTable.flatten_eq_ok h
    have hreaches := PartitionTable.forall₂_reaches
      (fun _ _ _ hheld _ hmem => hheld.get?_deviceName hmem hstructured hall filename) hall
    obtain ⟨nodes, hnodes, hsorted⟩ := List.perm_comp_forall₂
      (List.mergeSort_perm (Contribution.all contributions).mounts noLater) hreaches.flip
    exact ⟨nodes, hsorted, hnodes.flip⟩

theorem flatten_mounts_swapDisk :
    ∃ layout, (PartitionTable.swapDisk.flatten "disk.img" ⟨.amd64, .legacy, none⟩).result =
        .ok layout ∧
      layout.mounts.map Mount.target = [Path.root] ∧
      ∃ mount ∈ layout.mounts, mount.partition = none := by
  obtain ⟨layout, hlayout⟩ : ∃ layout,
      (PartitionTable.swapDisk.flatten "disk.img" ⟨.amd64, .legacy, none⟩).result =
        .ok layout :=
    PartitionTable.swapDisk_mountable.exists_layout (by decide) "disk.img"
  obtain ⟨hperm, -, -, nodes, hnodes, hreaches⟩ := flatten_mounts rfl hlayout
  refine ⟨layout, hlayout, List.perm_singleton.1 hperm, ?_⟩
  -- The only mounted node is the filesystem in the root volume, for no partition holds one itself.
  obtain rfl := List.perm_singleton.1 hnodes
  generalize layout.mounts = mounts at hreaches
  cases hreaches with
  | cons hfirst _ =>
    cases hfirst with
    | @filesystem index _ _ hheld _ =>
      obtain ⟨hpartition, hpayload⟩ := hheld
      obtain rfl : index = 0 := by
        have hlt := (List.getElem?_eq_some_iff.1 hpartition).1
        exact Nat.lt_one_iff.1 hlt
      obtain rfl := Option.some.inj hpartition
      cases hpayload
    | volumeFilesystem _ _ _ _ _ _ _ => exact ⟨_, List.mem_cons_self, rfl⟩

end DiskLayout
