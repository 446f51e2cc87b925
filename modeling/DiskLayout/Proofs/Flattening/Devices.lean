import DiskLayout.Customization.Validation
import DiskLayout.Proofs.Flattening.Mounts
import DiskLayout.Proofs.Path.Canonical
import Mathlib.Data.List.Dedup
import Mathlib.Data.List.Flatten

/-!
# The devices of a flattened table

A flattened table has the disk as a device, and a device for each name of a logical volume's
device.  Such a name is made from a mountpoint or, where nothing is mounted, from the volume's own
name, and the rules for tables leave it open what that looks like: a volume without mountpoint may
have no name, or the name of a path.  Two volumes can therefore share the name of a device, and
then the later one takes it.  Names that a volume manager accepts rule this out: each volume has a
device of its own, and mounts lead to the volume that holds their filesystem.

## Main definitions

* `PartitionTable.logicalVolumes` — the logical volumes of a table

## Main results

* `LogicalVolume.deviceNames_nodup` — volumes with acceptable names have devices of different names
* `flatten_devices` — the devices of a flattened table
* `flatten_devices_shared` — a valid table in which two volumes share a device
-/

namespace DiskLayout

open Flattening

/-- The logical volume that a node is. -/
def Node.logicalVolume? : Node → Option LogicalVolume
  | .logicalVolume volume => some volume
  | _ => none

/-- The logical volumes of a table, in the order of a walk. -/
def PartitionTable.logicalVolumes (table : PartitionTable) : List LogicalVolume :=
  table.nodes.filterMap Node.logicalVolume?

/-! ### The map of devices -/

theorem TextMap.keys_ofList {α : Type} (entries : List (String × α)) :
    (ofList entries).keys.Perm (entries.map Prod.fst).dedup := by
  refine (List.perm_ext_iff_of_nodup (nodup_keys _) (List.nodup_dedup _)).2 fun key => ?_
  rw [mem_keys, List.mem_dedup]
  rcases get?_foldl_insert entries empty key with ⟨value, hmem, hvalue⟩ | ⟨hnot, hvalue⟩
  · exact iff_of_true ⟨value, hvalue⟩ (List.mem_map_of_mem hmem)
  · exact iff_of_false (by simp [ofList, hvalue]) hnot

/-- Where the keys of entries are distinct, their map holds each of them. -/
theorem TextMap.get?_ofList_of_nodup {α : Type} {entries : List (String × α)}
    (hdistinct : (entries.map Prod.fst).Nodup) {key : String} {value : α}
    (h : (key, value) ∈ entries) : (ofList entries).get? key = some value := by
  obtain ⟨found, hfound, hget⟩ := exists_get?_ofList h
  have heq : (key, found) = (key, value) :=
    List.inj_on_of_nodup_map hdistinct hfound h rfl
  rw [hget, (Prod.mk.inj heq).2]

/-- The devices of a walk are named after the logical volumes it visits, one by one. -/
theorem Flattening.deviceNames_of_contributes {table : PartitionTable} {visits : List Visit}
    {contributions : List Contribution}
    (h : List.Forall₂ (Contributes table) visits contributions) :
    (Contribution.all contributions).devices.map Prod.fst =
      ((visits.map Visit.node).filterMap Node.logicalVolume?).map LogicalVolume.deviceName := by
  induction h with
  | nil => rfl
  | cons hfirst _ ih =>
    simp only [Contribution.all, List.flatMap_cons, List.map_append] at ih ⊢
    rw [ih]
    cases hfirst <;> rfl

/-! ### Names of devices -/

/-- A name that a volume manager accepts is given, and it is no absolute path. -/
theorem LvmName.isValid_ne {name : String} (h : isValid name = true) :
    name ≠ "" ∧ Path.isAbsolute name = false := by
  unfold isValid at h
  unfold Path.isAbsolute
  cases hname : name.toList with
  | nil => rw [hname] at h; cases h
  | cons first others =>
    rw [hname] at h
    refine ⟨?_, ?_⟩
    · rintro rfl
      cases hname
    · have hinner : isInner first = true := by simp_all
      by_contra hslash
      obtain rfl : first = '/' := by simpa using hslash
      exact absurd hinner (by decide)

theorem LogicalVolume.deviceName_eq_iff {volume other : LogicalVolume} :
    volume.deviceName = other.deviceName ↔
      volume.mountpoint?.getD volume.name = other.mountpoint?.getD other.name := by
  simp [deviceName]

/-- Volumes have devices of different names, if what is mounted in them is valid and distinct, and
those with nothing mounted have distinct names that a volume manager accepts. -/
theorem LogicalVolume.deviceNames_nodup {volumes : List LogicalVolume}
    (hmountpoints : (volumes.filterMap LogicalVolume.mountpoint?).Nodup)
    (habsolute : ∀ mountpoint ∈ volumes.filterMap LogicalVolume.mountpoint?,
      Path.isAbsolute mountpoint = true)
    (hnames : ((volumes.map LogicalVolume.name).filter (· ≠ "")).Nodup)
    (hvalid : ∀ volume ∈ volumes, volume.mountpoint? = none →
      LvmName.isValid volume.name = true) :
    (volumes.map LogicalVolume.deviceName).Nodup := by
  have hmounted := List.pairwise_filterMap.1 hmountpoints
  have hnamed := List.pairwise_map.1 (List.pairwise_filter.1 hnames)
  have hslash : ∀ volume ∈ volumes, ∀ other ∈ volumes, ∀ mountpoint,
      volume.mountpoint? = some mountpoint → other.mountpoint? = none →
      mountpoint ≠ other.name := by
    -- A path starts with a separator, and a name that is accepted does not.
    rintro volume hvolume other hother mountpoint hfirst hsecond rfl
    have hpath := habsolute _ (List.mem_filterMap.2 ⟨volume, hvolume, hfirst⟩)
    rw [(LvmName.isValid_ne (hvalid other hother hsecond)).2] at hpath
    cases hpath
  refine List.pairwise_map.2 ((hmounted.and hnamed).imp_of_mem ?_)
  rintro volume other hvolume hother ⟨hmountpoint, hname⟩ heq
  rw [deviceName_eq_iff] at heq
  cases hfirst : volume.mountpoint? with
  | some mountpoint =>
    cases hsecond : other.mountpoint? with
    | some second =>
      rw [hfirst, hsecond] at heq
      exact hmountpoint mountpoint hfirst second hsecond heq
    | none =>
      rw [hfirst, hsecond] at heq
      exact hslash volume hvolume other hother mountpoint hfirst hsecond heq
  | none =>
    cases hsecond : other.mountpoint? with
    | some second =>
      rw [hfirst, hsecond] at heq
      exact hslash other hother volume hvolume second hsecond hfirst heq.symm
    | none =>
      rw [hfirst, hsecond] at heq
      have hgiven := (LvmName.isValid_ne (hvalid volume hvolume hfirst)).1
      have hgiven' := (LvmName.isValid_ne (hvalid other hother hsecond)).1
      exact hname (decide_eq_true hgiven) (decide_eq_true hgiven') heq

/-! ### The volume group of a table -/

/-- A list of which one item alone has an image contributes the image of that item. -/
theorem flatMap_eq_of_unique {α β : Type} {f : α → List β} {items : List α} {index : Nat}
    {item : α} (hitem : items[index]? = some item)
    (hothers : ∀ (other : Nat) (value : α), items[other]? = some value → other ≠ index →
      f value = []) : items.flatMap f = f item := by
  induction items generalizing index with
  | nil => cases hitem
  | cons first others ih =>
    rw [List.flatMap_cons]
    cases index with
    | zero =>
      obtain rfl := Option.some.inj hitem
      have hnone : others.flatMap f = [] := List.flatMap_eq_nil_iff.2 fun value hvalue => by
        obtain ⟨other, hother⟩ := List.mem_iff_getElem?.1 hvalue
        exact hothers (other + 1) value hother (Nat.succ_ne_zero other)
      rw [hnone, List.append_nil]
    | succ index =>
      have hfirst := hothers 0 first rfl (Nat.succ_ne_zero index).symm
      rw [hfirst, List.nil_append]
      exact ih hitem fun other value hother hne =>
        hothers (other + 1) value hother fun heq => hne (Nat.succ.inj heq)

theorem LogicalVolume.HoldsDirectly.filterMap_nodes {volume : LogicalVolume}
    (h : volume.HoldsDirectly) : volume.nodes.filterMap Node.logicalVolume? = [volume] := by
  rcases h with ⟨system, hpayload⟩ | ⟨space, hpayload⟩ <;>
    simp [LogicalVolume.nodes, hpayload, Node.logicalVolume?]

/-- The volumes in a group that can be mounted are those of the group itself. -/
theorem Partition.logicalVolumes_of_volumeGroup {partition : Partition} {group : VolumeGroup}
    (hpayload : partition.payload = some (.volumeGroup group))
    (h : (Payload.volumeGroup group).All Node.Mountable) (index : Nat) :
    (partition.nodes index).filterMap Node.logicalVolume? = group.logicalVolumes := by
  have hdirect : ∀ volume ∈ group.logicalVolumes,
      volume.nodes.filterMap Node.logicalVolume? = [volume] := fun volume hvolume =>
    ((Payload.all_volumeGroup.1 h).2 volume hvolume).1.filterMap_nodes
  calc (partition.nodes index).filterMap Node.logicalVolume?
      = group.logicalVolumes.flatMap fun volume =>
          volume.nodes.filterMap Node.logicalVolume? := by
        rw [Partition.nodes, hpayload, Option.toList_some, List.flatMap_singleton,
          Payload.nodes_volumeGroup, List.filterMap_cons_none rfl, List.filterMap_cons_none rfl,
          List.filterMap_flatMap]
    _ = group.logicalVolumes.flatMap fun volume => [volume] := List.flatMap_congr hdirect
    _ = group.logicalVolumes := List.flatMap_singleton' _

theorem Partition.logicalVolumes_of_not_volumeGroup {partition : Partition}
    (hmountable : ∀ payload, partition.payload = some payload → payload.All Node.Mountable)
    (h : ∀ group, partition.payload ≠ some (.volumeGroup group)) (index : Nat) :
    (partition.nodes index).filterMap Node.logicalVolume? = [] := by
  cases hpayload : partition.payload with
  | none => simp [Partition.nodes, hpayload, Node.logicalVolume?]
  | some payload =>
    cases payload with
    | volumeGroup group => exact absurd hpayload (h group)
    | luks container => exact (Payload.all_luks.1 (hmountable _ hpayload)).1.elim
    | _ => simp [Partition.nodes, hpayload, Node.logicalVolume?]

namespace PartitionTable

variable {table : PartitionTable}

theorem logicalVolumes_eq (table : PartitionTable) :
    table.logicalVolumes = table.partitions.zipIdx.flatMap fun entry =>
      (entry.1.nodes entry.2).filterMap Node.logicalVolume? := by
  rw [logicalVolumes, nodes_eq, List.filterMap_flatMap]

/-- A table that can be mounted has the logical volumes of its volume group, if it has one. -/
theorem Mountable.logicalVolumes_cases (h : table.Mountable)
    (hstructured : table.WellStructured) :
    table.logicalVolumes = [] ∨ ∃ index partition group,
      table.Holds index partition (.volumeGroup group) ∧
        table.logicalVolumes = group.logicalVolumes := by
  have hall := forall_mem_nodes.1 (mountable_iff.1 h)
  have hentry : ∀ {index : Nat} {partition : Partition} {position : Nat},
      table.partitions.zipIdx[position]? = some (partition, index) →
        position = index ∧ table.partitions[index]? = some partition := by
    intro index partition position hget
    rw [List.getElem?_zipIdx, Option.map_eq_some_iff] at hget
    obtain ⟨found, hfound, heq⟩ := hget
    obtain ⟨rfl, rfl⟩ := Prod.mk.inj heq
    simpa using hfound
  rw [logicalVolumes_eq]
  by_cases hgroup : ∃ index partition group, table.Holds index partition (.volumeGroup group)
  · obtain ⟨index, partition, group, hheld⟩ := hgroup
    refine .inr ⟨index, partition, group, hheld, ?_⟩
    have hposition : table.partitions.zipIdx[index]? = some (partition, index) := by
      simp [List.getElem?_zipIdx, hheld.1]
    rw [flatMap_eq_of_unique hposition]
    · exact Partition.logicalVolumes_of_volumeGroup hheld.2 ((hall _ _ hheld.1).2 _ hheld.2) index
    · -- A second group elsewhere would be one too many.
      rintro position ⟨other, place⟩ hother hne
      obtain ⟨rfl, hother⟩ := hentry hother
      refine Partition.logicalVolumes_of_not_volumeGroup (hall _ _ hother).2 ?_ _
      intro second hsecond
      have hheld' : table.Holds position other (.volumeGroup second) := ⟨hother, hsecond⟩
      exact hne (hstructured.eq_of_isVolumeGroup hother hheld.1 hheld'.isVolumeGroup
        hheld.isVolumeGroup)
  · refine .inl (List.flatMap_eq_nil_iff.2 ?_)
    rintro ⟨partition, index⟩ hmem
    obtain ⟨position, hposition⟩ := List.mem_iff_getElem?.1 hmem
    obtain ⟨-, hpartition⟩ := hentry hposition
    exact Partition.logicalVolumes_of_not_volumeGroup (hall _ _ hpartition).2
      (fun group hpayload => hgroup ⟨index, partition, group, hpartition, hpayload⟩) index

theorem WellStructured.checkMountpoint_of_mem (h : table.WellStructured) {mountpoint : String}
    (hmem : mountpoint ∈ table.mountpoints) : checkMountpoint mountpoint = .ok () := by
  obtain ⟨visit, hvisit, hmounted⟩ := List.mem_filterMap.1 hmem
  exact (h.sound visit hvisit).mountpoint_valid mountpoint hmounted

theorem Holds.group_mem_visits {index : Nat} {partition : Partition} {group : VolumeGroup}
    (hheld : table.Holds index partition (.volumeGroup group)) :
    ⟨.volumeGroup group, [.partition index partition]⟩ ∈ table.visits .parentsFirst := by
  refine PartitionTable.mem_visits.2 ⟨index, partition, hheld.1, ?_⟩
  rw [Partition.visits_parentsFirst, hheld.2, Option.toList_some, List.flatMap_singleton,
    List.mem_cons, Payload.visits_volumeGroup, WalkOrder.mem_arrange]
  exact .inr (.inl rfl)

theorem Holds.system_mem_visits {index : Nat} {partition : Partition} {group : VolumeGroup}
    {volume : LogicalVolume} {system : Filesystem}
    (hheld : table.Holds index partition (.volumeGroup group))
    (hmem : volume ∈ group.logicalVolumes) (hpayload : volume.payload = some (.filesystem system)) :
    ⟨.filesystem system, [.partition index partition, .volumeGroup group,
      .logicalVolume volume]⟩ ∈ table.visits .parentsFirst := by
  refine PartitionTable.mem_visits.2 ⟨index, partition, hheld.1, ?_⟩
  rw [Partition.visits_parentsFirst, hheld.2, Option.toList_some, List.flatMap_singleton,
    List.mem_cons, Payload.visits_volumeGroup, WalkOrder.mem_arrange,
    logicalVolumeVisits_eq_flatMap, List.mem_flatMap]
  refine .inr (.inr ⟨volume, hmem, ?_⟩)
  rw [LogicalVolume.visits_eq, WalkOrder.mem_arrange, hpayload]
  exact .inr List.mem_cons_self

/-- In a group that can be mounted, what is mounted is mounted in its volumes, one by one. -/
theorem Holds.filterMap_mountpoint? {index : Nat} {partition : Partition} {group : VolumeGroup}
    (hheld : table.Holds index partition (.volumeGroup group))
    (hdirect : ∀ volume ∈ group.logicalVolumes, volume.HoldsDirectly) :
    group.logicalVolumes.filterMap LogicalVolume.mountpoint? = partition.mountpoints := by
  have hvolume : ∀ volume ∈ group.logicalVolumes,
      volume.payload.toList.flatMap Payload.mountpoints = volume.mountpoint?.toList := by
    intro volume hmem
    rcases hdirect volume hmem with ⟨system, hpayload⟩ | ⟨space, hpayload⟩ <;>
      simp [LogicalVolume.mountpoint?, hpayload, Payload.mountpoint?]
  rw [Partition.mountpoints, hheld.2, Option.toList_some, List.flatMap_singleton,
    Payload.mountpoints_volumeGroup, List.flatMap_congr hvolume, List.filterMap_eq_flatMap_toList]

/-- The volumes of a valid table have devices of different names, where those with nothing mounted
have names that a volume manager accepts. -/
theorem Mountable.deviceNames_nodup (h : table.Mountable) (hstructured : table.WellStructured)
    (hvalid : ∀ volume ∈ table.logicalVolumes, volume.mountpoint? = none →
      LvmName.isValid volume.name = true) :
    (table.logicalVolumes.map LogicalVolume.deviceName).Nodup := by
  rcases h.logicalVolumes_cases hstructured with hnone | ⟨index, partition, group, hheld, hvolumes⟩
  · rw [hnone]
    exact List.nodup_nil
  · rw [hvolumes] at hvalid ⊢
    have hdirect : ∀ volume ∈ group.logicalVolumes, volume.HoldsDirectly := fun volume hvolume =>
      h.volumes_direct volume (List.mem_map_of_mem (hheld.mem_visits hvolume))
    have hsublist : partition.mountpoints.Sublist table.mountpoints := by
      rw [mountpoints_eq]
      have hsingle := List.singleton_sublist.2 (List.mem_of_getElem? hheld.1)
      simpa using List.Sublist.flatMap hsingle Partition.mountpoints
    have hnames : group.givenNames.Nodup :=
      (hstructured.sound _ hheld.group_mem_visits).volume_names group rfl
    refine LogicalVolume.deviceNames_nodup ?_ (fun mountpoint hmem => ?_) hnames hvalid
    · rw [hheld.filterMap_mountpoint? hdirect]
      exact hstructured.mountpoints_distinct.sublist hsublist
    · rw [hheld.filterMap_mountpoint? hdirect] at hmem
      exact (checkMountpoint_eq_ok.1
        (hstructured.checkMountpoint_of_mem (hsublist.subset hmem))).1

end PartitionTable

/-! ### The devices -/

/-- The mount of the filesystem in a logical volume has the name of the volume's device as its
source. -/
theorem PartitionTable.Holds.source_of_mem_mounts {table : PartitionTable} {index : Nat}
    {partition : Partition} {group : VolumeGroup} {volume : LogicalVolume}
    {contributions : List Contribution} (hheld : table.Holds index partition (.volumeGroup group))
    (hmem : volume ∈ group.logicalVolumes) (hdirect : volume.HoldsDirectly)
    (hdistinct : table.mountpoints.Nodup)
    (h : List.Forall₂ (Contributes table) (table.visits .parentsFirst) contributions)
    {mount : Mount} (hmount : mount ∈ (Contribution.all contributions).mounts)
    (hmounted : volume.mountpoint? = some mount.target) : mount.source = volume.deviceName := by
  rcases hdirect with ⟨system, hpayload⟩ | ⟨space, hpayload⟩
  · obtain ⟨contribution, hcontribution, hvisit⟩ :=
      exists_of_forall₂ h (hheld.system_mem_visits hmem hpayload)
    have hown : filesystemMount system volume.deviceName none ∈
        (Contribution.all contributions).mounts := by
      refine List.mem_flatMap.2 ⟨contribution, hcontribution, ?_⟩
      cases hvisit with
      | volumeFilesystem _ _ _ _ => exact List.mem_singleton_self _
    -- No other mount has the same target.
    have htargets : ((Contribution.all contributions).mounts.map Mount.target).Nodup := by
      rw [targets_of_contributes h]
      exact hdistinct
    rw [LogicalVolume.mountpoint?, hpayload] at hmounted
    rw [List.inj_on_of_nodup_map htargets hmount hown (Option.some.inj hmounted).symm]
    rfl
  · rw [LogicalVolume.mountpoint?, hpayload] at hmounted
    cases hmounted

theorem diskDevice_not_mem (volumes : List LogicalVolume) :
    diskDevice ∉ volumes.map LogicalVolume.deviceName := by
  rw [List.mem_map]
  rintro ⟨volume, -, heq⟩
  exact volume.deviceName_ne_diskDevice heq

/-- The devices of a flattened table are the disk and one for each name of a device that its
logical volumes have.  Where these names are distinct there is one device for each volume, and the
mount of a filesystem in a volume leads to the device of that very volume.  They are distinct where
the volumes with nothing mounted have names that a volume manager accepts. -/
theorem flatten_devices {table : PartitionTable} {filename : String} {platform : Platform}
    {layout : FlattenedLayout} (hvalid : table.validate.result = .ok ())
    (h : (table.flatten filename platform).result = .ok layout) :
    layout.devices.keys.Perm
      (diskDevice :: (table.logicalVolumes.map LogicalVolume.deviceName).dedup) ∧
    ((table.logicalVolumes.map LogicalVolume.deviceName).Nodup →
      layout.devices.keys.Perm (diskDevice :: table.logicalVolumes.map LogicalVolume.deviceName) ∧
      ∀ volume ∈ table.logicalVolumes, ∀ mount ∈ layout.mounts,
        volume.mountpoint? = some mount.target →
          ∃ number, layout.devices.get? mount.source =
            some (Device.ofVolume volume.name number)) ∧
    ((∀ volume ∈ table.logicalVolumes, volume.mountpoint? = none →
        LvmName.isValid volume.name = true) →
      (table.logicalVolumes.map LogicalVolume.deviceName).Nodup) := by
  have hstructured := PartitionTable.wellStructured_of_validate hvalid
  obtain ⟨hmountable, -, contributions, hall, rfl⟩ := PartitionTable.flatten_eq_ok h
  have hnames : (Contribution.all contributions).devices.map Prod.fst =
      table.logicalVolumes.map LogicalVolume.deviceName := deviceNames_of_contributes hall
  have hdisk := diskDevice_not_mem table.logicalVolumes
  have hkeys : (PartitionTable.layoutOf filename
      (Contribution.all contributions)).devices.keys.Perm
        (diskDevice :: (table.logicalVolumes.map LogicalVolume.deviceName).dedup) := by
    have hperm := TextMap.keys_ofList
      ((diskDevice, Device.disk filename) :: (Contribution.all contributions).devices)
    rwa [List.map_cons, hnames, List.dedup_cons_of_notMem hdisk] at hperm
  refine ⟨hkeys, fun hdistinct => ?_, hmountable.deviceNames_nodup hstructured⟩
  refine ⟨by rwa [hdistinct.dedup] at hkeys, fun volume hvolume mount hmount hmounted => ?_⟩
  rcases hmountable.logicalVolumes_cases hstructured with
    hnone | ⟨index, partition, group, hheld, hvolumes⟩
  · rw [hnone] at hvolume
    cases hvolume
  · rw [hvolumes] at hvolume
    have hsource := hheld.source_of_mem_mounts hvolume
      (hmountable.volumes_direct volume (List.mem_map_of_mem (hheld.mem_visits hvolume)))
      hstructured.mountpoints_distinct hall (List.mem_mergeSort.1 hmount) hmounted
    refine ⟨index + 1, ?_⟩
    rw [hsource]
    refine TextMap.get?_ofList_of_nodup ?_ (List.mem_cons_of_mem _ (hheld.mem_devices hvolume hall))
    rw [List.map_cons, hnames]
    exact List.nodup_cons.2 ⟨hdisk, hdistinct⟩

/-- A disk with a volume group for the root and for swap space, whose volume has a given name. -/
def PartitionTable.namedSwapDisk (name : String) : PartitionTable :=
  let root : LogicalVolume :=
    ⟨"rootlv", 2 * Size.gibibyte, some (.filesystem (.new .xfs Path.root))⟩
  let swap : LogicalVolume :=
    ⟨name, Size.gibibyte, some (.swap ⟨none, none, defaultFstabOptions⟩)⟩
  let group : VolumeGroup := ⟨"rootvg", "", [root, swap]⟩
  { PartitionTable.empty .gpt with
    size := 4 * Size.gibibyte
    partitions := [.new (4 * Size.gibibyte) .lvm (some (.volumeGroup group))] }

/-- The mount of the root volume of `namedSwapDisk`. -/
def PartitionTable.namedSwapMount : Mount := ⟨"-", .xfs, "lv-for-/", Path.root, none, none⟩

theorem PartitionTable.namedSwapDisk_flatten (name : String) :
    ((namedSwapDisk name).flatten "disk.img" ⟨.amd64, .legacy, none⟩).result =
      .ok ⟨[namedSwapMount], .ofList [(diskDevice, .disk "disk.img"),
        ("lv-for-/", .ofVolume "rootlv" 1), ("lv-for-" ++ name, .ofVolume name 1)]⟩ := by
  have hwalk : (contributeAll ((namedSwapDisk name).visits .parentsFirst)).result =
      .ok ⟨[("lv-for-/", .ofVolume "rootlv" 1), ("lv-for-" ++ name, .ofVolume name 1)],
        [namedSwapMount]⟩ := rfl
  unfold flatten
  rw [Logged.result_bind, hwalk, ok_bind]
  simp only [List.mergeSort_singleton]
  rfl

theorem flatten_devices_namedSwapDisk :
    ∃ layout, ((PartitionTable.namedSwapDisk "swaplv").flatten "disk.img"
        ⟨.amd64, .legacy, none⟩).result = .ok layout ∧
      layout.devices.keys.Perm ["disk", "lv-for-/", "lv-for-swaplv"] ∧
      ∃ number, layout.devices.get? "lv-for-/" = some (Device.ofVolume "rootlv" number) := by
  obtain ⟨-, hdevices, hdistinct⟩ :=
    flatten_devices rfl (PartitionTable.namedSwapDisk_flatten "swaplv")
  obtain ⟨hkeys, hmounts⟩ := hdevices (hdistinct (by decide))
  exact ⟨_, PartitionTable.namedSwapDisk_flatten "swaplv", hkeys,
    hmounts _ List.mem_cons_self _ List.mem_cons_self rfl⟩

/-- Swap space with the name of a path takes the device of the volume that is mounted there: the
table is valid and is flattened, two volumes share a device, and the mount of the root leads to the
swap space. -/
theorem flatten_devices_shared :
    ∃ layout, (PartitionTable.namedSwapDisk "/").validate.result = .ok () ∧
      ((PartitionTable.namedSwapDisk "/").flatten "disk.img"
        ⟨.amd64, .legacy, none⟩).result = .ok layout ∧
      layout.devices.keys = ["disk", "lv-for-/"] ∧
      (PartitionTable.namedSwapDisk "/").logicalVolumes.map LogicalVolume.name =
        ["rootlv", "/"] ∧
      ∃ volume ∈ (PartitionTable.namedSwapDisk "/").logicalVolumes, ∃ mount ∈ layout.mounts,
        volume.mountpoint? = some mount.target ∧ volume.name = "rootlv" ∧
        layout.devices.get? mount.source = some (Device.ofVolume "/" 1) :=
  ⟨_, rfl, PartitionTable.namedSwapDisk_flatten "/", by decide, rfl, _, List.mem_cons_self, _,
    List.mem_cons_self, rfl, rfl, by decide⟩

end DiskLayout
