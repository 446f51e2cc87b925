import DiskLayout.Proofs.Allocation.CustomAssembly
import DiskLayout.Proofs.Allocation.TotalSize
import DiskLayout.Proofs.Table.Extension

/-!
# The shape of custom tables

A table that is built from a partitioning request mounts what is requested and what booting and
the root call for, each once.  Its partitions stand in one order: for BIOS and for EFI, one for
each plain filesystem, one for `/boot` in front of a container, and then the container, or the root
where nothing holds it.  What is requested is not added a second time.

## Main definitions

* `PartitionTable.BootsOnlyFrom` — the one bootable partition of a table
* `Partition.BuiltAs` — a partition that is built as another one describes it
* `PartitioningRequest.Sections` — the partitions of a built table, section by section
* `PartitioningRequest.Shapes` — the shape of a built table

## Main results

* `markBootable_bootsOnlyFrom` — where BIOS boots a DOS disk
* `buildCustom_shape` — every table that is built has the shape that is requested
-/

namespace DiskLayout

open Custom

/-! ### What is bootable -/

/-- Whether the one bootable partition of a table is one that mounts a mountpoint. -/
def PartitionTable.BootsOnlyFrom (table : PartitionTable) (mountpoint : String) : Prop :=
  ∃ (index : Nat) (device : Partition), table.partitions[index]? = some device ∧
    mountpoint ∈ device.mountpoints ∧
    ∀ (other : Nat) (partition : Partition), table.partitions[other]? = some partition →
      (partition.bootable = true ↔ other = index)

/-- A mountpoint is found in a partition that mounts it, and nowhere if there is none. -/
theorem PartitionTable.partitionIndexOf?_cases (table : PartitionTable) (mountpoint : String) :
    (mountpoint ∈ table.mountpoints ∧ ∃ index device,
        table.partitionIndexOf? mountpoint = some index ∧
        table.partitions[index]? = some device ∧ mountpoint ∈ device.mountpoints) ∨
      (mountpoint ∉ table.mountpoints ∧ table.partitionIndexOf? mountpoint = none) := by
  rw [partitionIndexOf?_eq, mountpoints_eq, List.mem_flatMap]
  cases hindex : table.partitions.findIdx? fun partition =>
      partition.mountpoints.contains mountpoint with
  | none =>
    rw [List.findIdx?_eq_none_iff] at hindex
    refine .inr ⟨?_, rfl⟩
    rintro ⟨device, hdevice, hmounted⟩
    have hnot := hindex device hdevice
    simp [hmounted] at hnot
  | some index =>
    obtain ⟨hlt, hholds, -⟩ := List.findIdx?_eq_some_iff_getElem.1 hindex
    have hmounted : mountpoint ∈ table.partitions[index].mountpoints := by simpa using hholds
    exact .inl ⟨⟨_, List.getElem_mem hlt, hmounted⟩, index, _, rfl,
      List.getElem?_eq_getElem hlt, hmounted⟩

theorem PartitionTable.Resembles.bootsOnlyFrom {sizes : Nat → Nat → Prop}
    {old new : PartitionTable} (h : old.Resembles sizes new) {mountpoint : String}
    (hold : old.BootsOnlyFrom mountpoint) : new.BootsOnlyFrom mountpoint := by
  obtain ⟨index, device, hdevice, hmounted, honly⟩ := hold
  obtain ⟨device', hdevice', hresembles⟩ := getElem?_of_forall₂ h.partitions hdevice
  refine ⟨index, device', hdevice', hresembles.mountpoints_eq ▸ hmounted, ?_⟩
  intro other partition' hpartition'
  obtain ⟨partition, hpartition, hsame⟩ := getElem?_of_forall₂ h.partitions.flip hpartition'
  rw [hsame.1.bootable]
  exact honly other partition hpartition

section Bootable

variable {request : PartitioningRequest} {options : CustomOptions} {container : List Partition}

/-- No partition is described as bootable. -/
theorem unmarkedTable_not_bootable
    (h : (containerPartitions request options).result = .ok container) :
    ∀ partition ∈ (unmarkedTable request options container).partitions,
      partition.bootable = false := by
  have hplain (filesystem : FilesystemRequest) (kind : FilesystemType)
      (architecture : Architecture) :
      (Partition.plain filesystem kind architecture).bootable = false := by
    unfold Partition.plain
    split <;> rfl
  have hcontainer : ∀ partition ∈ container, partition.bootable = false :=
    forall_mem_container h (fun _ _ _ _ => rfl) (fun _ _ _ _ => rfl) (hplain _ _ _)
  exact List.forall_mem_append.2
    ⟨forall_mem_plainPartitions rfl rfl (fun _ _ => hplain _ _ _) (hplain _ _ _), hcontainer⟩

/-- Marking a table in which nothing is bootable marks the partition at one position. -/
theorem bootsOnlyFrom_modify {table : PartitionTable} {index : Nat} {device : Partition}
    {mountpoint : String} (hplain : ∀ partition ∈ table.partitions, partition.bootable = false)
    (hdevice : table.partitions[index]? = some device)
    (hmounted : mountpoint ∈ device.mountpoints) :
    (table.modifyPartition index fun partition =>
      { partition with bootable := true }).BootsOnlyFrom mountpoint := by
  have hmark (other : Nat) : (table.modifyPartition index fun partition =>
      { partition with bootable := true }).partitions[other]? =
        if index = other then table.partitions[other]?.map fun partition =>
          { partition with bootable := true } else table.partitions[other]? := by
    rw [PartitionTable.modifyPartition, List.getElem?_modify]
    split <;> simp
  refine ⟨index, { device with bootable := true }, ?_, hmounted, ?_⟩
  · rw [hmark, if_pos rfl, hdevice, Option.map_some]
  · intro other partition hpartition
    rw [hmark] at hpartition
    by_cases hother : index = other
    · rw [if_pos hother, Option.map_eq_some_iff] at hpartition
      obtain ⟨_, -, rfl⟩ := hpartition
      simp [hother]
    · rw [if_neg hother] at hpartition
      rw [hplain partition (List.mem_of_getElem? hpartition)]
      simp [Ne.symm hother]

/-- A table in which nothing is bootable is marked where BIOS boots a DOS disk. -/
theorem markBootable_bootsOnlyFrom {table : PartitionTable}
    (hplain : ∀ partition ∈ table.partitions, partition.bootable = false)
    (hroot : Path.root ∈ table.mountpoints)
    (hmarks : options.tableKind = .dos ∧ options.platform.bootMode.isLegacy = true) :
    (markBootable options table).BootsOnlyFrom
      (if Path.boot ∈ table.mountpoints then Path.boot else Path.root) := by
  rw [markBootable, if_pos hmarks]
  rcases table.partitionIndexOf?_cases Path.boot with
    ⟨hboot, index, device, hindex, hdevice, hmounted⟩ | ⟨hboot, hnone⟩
  · rw [if_pos hboot, hindex]
    exact bootsOnlyFrom_modify hplain hdevice hmounted
  · rw [if_neg hboot, hnone]
    rcases table.partitionIndexOf?_cases Path.root with
      ⟨-, index, device, hindex, hdevice, hmounted⟩ | ⟨hnot, -⟩
    · rw [hindex]
      exact bootsOnlyFrom_modify hplain hdevice hmounted
    · exact absurd hroot hnot

end Bootable

/-! ### What built partitions hold -/

/-- A partition that is built as another one describes it: it has the same type and the same
contents, entity for entity, and nothing in it is smaller. -/
structure Partition.BuiltAs (described built : Partition) : Prop where
  size : described.size ≤ built.size
  kind : built.kind = described.kind
  payload : Option.Rel (Payload.Resembles (· ≤ ·)) described.payload built.payload

/-- Whether a payload is nothing but a filesystem, whose identifier may be filled. -/
def Filesystem.HeldBy (system : Filesystem) (payload : Option Payload) : Prop :=
  ∃ held, payload = some (.filesystem held) ∧ system.Alike held

/-- Whether a built logical volume is what a request asks for.  A name that is not given is
generated. -/
structure LogicalVolumeRequest.AnsweredBy (kind : FilesystemType) (request : LogicalVolumeRequest)
    (volume : LogicalVolume) : Prop where
  name : request.name ≠ "" → volume.name = request.name
  size : (requestedVolume kind request).size ≤ volume.size
  payload : (Partition.requestedFilesystem request.filesystem kind).HeldBy volume.payload

/-- Whether a built logical volume is the one that is added for the root. -/
structure LogicalVolume.IsBuiltRoot (kind : FilesystemType) (volume : LogicalVolume) : Prop where
  size : VolumeGroup.volumeSize (.new kind Path.root) Size.defaultRoot ≤ volume.size
  payload : (Filesystem.new kind Path.root).HeldBy volume.payload

/-- Whether a built partition holds a requested volume group: the requested volumes in order, and
behind them one for the root where `needsRoot` calls for it. -/
structure VolumeGroupRequest.AnsweredBy (defaultKind : FilesystemType) (needsRoot : Prop)
    (request : VolumeGroupRequest) (device : Partition) : Prop where
  kind : device.kind = .lvm
  size : request.minSize ≤ device.size
  payload : ∃ group volumes root, device.payload = some (.volumeGroup group) ∧
    group.name = (if request.name = "" then VolumeGroup.defaultName else request.name) ∧
    group.logicalVolumes = volumes ++ root ∧
    List.Forall₂ (LogicalVolumeRequest.AnsweredBy defaultKind) request.logicalVolumes volumes ∧
    Needed needsRoot (LogicalVolume.IsBuiltRoot defaultKind) root

/-- Whether a built partition holds a requested btrfs volume: the requested subvolumes in order, and
behind them one for the root where `needsRoot` calls for it. -/
structure BtrfsRequest.AnsweredBy (needsRoot : Prop) (request : BtrfsRequest)
    (device : Partition) : Prop where
  kind : device.kind = .linuxGeneric
  size : request.minSize ≤ device.size
  payload : ∃ volume subvolumes root, device.payload = some (.btrfs volume) ∧
    volume.subvolumes = subvolumes ++ root ∧
    List.Forall₂ (fun request => request.subvolume.Alike (· ≤ ·)) request.subvolumes subvolumes ∧
    Needed needsRoot (Subvolume.addedRoot.Alike (· ≤ ·)) root

namespace PartitioningRequest

/-- Whether partitions end a built table: that of the requested container, or that of the root
where nothing holds it. -/
structure EndsIn (request : PartitioningRequest) (options : CustomOptions)
    (container : List Partition) : Prop where
  group : ∀ group ∈ request.volumeGroups, ∃ device, container = [device] ∧
    group.AnsweredBy options.defaultFilesystem (Path.root ∉ request.mountpoints) device
  btrfs : ∀ volume ∈ request.btrfsVolumes, ∃ device, container = [device] ∧
    volume.AnsweredBy (Path.root ∉ request.mountpoints) device
  plain : ¬ request.HasContainer → Needed (Path.root ∉ request.mountpoints)
    (Partition.plain (.new Path.root Size.defaultRoot) options.defaultFilesystem
      options.platform.architecture).BuiltAs container

/-- The partitions of a built table, section by section: for BIOS, for EFI, for plain filesystems,
for `/boot`, and for the container or the root. -/
structure Sections (request : PartitioningRequest) (options : CustomOptions)
    (bios esp plain boot container : List Partition) : Prop where
  bios : Needed (options.platform.bootMode.isLegacy = true ∧ options.tableKind = .gpt)
    Partition.biosBoot.BuiltAs bios
  esp : Needed (options.platform.bootsUefi = true ∧ Path.esp ∉ request.mountpoints)
    (Partition.esp 0).BuiltAs esp
  plain : List.Forall₂ (fun filesystem => (Partition.plain filesystem options.defaultFilesystem
    options.platform.architecture).BuiltAs) request.plainFilesystems plain
  boot : Needed (request.HasContainer ∧ Path.boot ∉ request.mountpoints)
    (Partition.boot options.defaultFilesystem).BuiltAs boot
  container : request.EndsIn options container

/-- The shape of a built table. -/
structure Shapes (request : PartitioningRequest) (options : CustomOptions)
    (table : PartitionTable) : Prop where
  kind : table.kind = options.tableKind
  mountpoints_distinct : table.mountpoints.Nodup
  mem_mountpoints : ∀ mountpoint, mountpoint ∈ table.mountpoints ↔
    mountpoint ∈ request.mountpoints ∨ mountpoint = Path.root ∨
      (options.platform.bootsUefi = true ∧ mountpoint = Path.esp) ∨
      (request.HasContainer ∧ mountpoint = Path.boot)
  partitions : ∃ bios esp plain boot container,
    table.partitions = bios ++ esp ++ plain ++ boot ++ container ∧
      request.Sections options bios esp plain boot container
  bootable : options.tableKind = .dos ∧ options.platform.bootMode.isLegacy = true →
    table.BootsOnlyFrom (if Path.boot ∈ table.mountpoints then Path.boot else Path.root)
  not_bootable : ¬ (options.tableKind = .dos ∧ options.platform.bootMode.isLegacy = true) →
    ∀ partition ∈ table.partitions, partition.bootable = false

end PartitioningRequest

/-! ### From the description to the built table -/

section Needed

variable {α β : Type} {needed needed' : Prop} {kind : α → Prop} {items : List α}

theorem Needed.congr (h : Needed needed kind items) (hneeded : needed ↔ needed') :
    Needed needed' kind items := by
  rwa [← propext hneeded]

/-- What is related to one item where it is needed is one item there as well. -/
theorem Needed.of_forall₂ {related : α → β → Prop} {images : β → Prop} {others : List β}
    (h : Needed needed kind items) (hrelated : List.Forall₂ related items others)
    (himages : ∀ item other, kind item → related item other → images other) :
    Needed needed images others := by
  constructor
  · intro hneeded
    obtain ⟨item, rfl, hitem⟩ := h.1 hneeded
    obtain ⟨other, _, hother, hnil, rfl⟩ := List.forall₂_cons_left_iff.1 hrelated
    obtain rfl := List.forall₂_nil_left_iff.1 hnil
    exact ⟨other, rfl, himages item other hitem hother⟩
  · intro hneedless
    obtain rfl := h.2 hneedless
    exact List.forall₂_nil_left_iff.1 hrelated

/-- What is related to an item that is described where it is needed. -/
theorem needed_of_described [Decidable needed] {related : α → β → Prop} {item : α}
    {others : List β} (h : List.Forall₂ related (if needed then [item] else []) others) :
    Needed needed (related item) others := by
  have hdescribed : Needed needed (· = item) (if needed then [item] else []) := by
    by_cases hneeded : needed <;> simp [Needed, hneeded]
  exact hdescribed.of_forall₂ h fun _ _ hitem hrelated => hitem ▸ hrelated

end Needed

theorem Partition.SameContents.builtAs {described assembled built : Partition}
    (h : described.SameContents assembled) (h' : assembled.Resembles (· ≤ ·) built) :
    described.BuiltAs built where
  size := h.size ▸ h'.1.size
  kind := h'.1.kind.trans h.kind
  payload := h.payload ▸ h'.2

theorem LogicalVolumeRequest.Describes.answeredBy {kind : FilesystemType}
    {request : LogicalVolumeRequest} {described built : LogicalVolume}
    (h : request.Describes kind described) (h' : described.Resembles (· ≤ ·) built) :
    request.AnsweredBy kind built := by
  obtain ⟨hown, hpayload⟩ := LogicalVolume.resembles_iff.1 h'
  refine ⟨fun hgiven => hown.name.trans (h.name hgiven), ?_, ?_⟩
  · rw [← h.size]
    exact hown.size
  · exact filesystem_of_rel hpayload h.payload

theorem LogicalVolume.IsAddedRoot.isBuiltRoot {kind : FilesystemType}
    {described built : LogicalVolume} (h : described.IsAddedRoot kind)
    (h' : described.Resembles (· ≤ ·) built) : built.IsBuiltRoot kind := by
  obtain ⟨hown, hpayload⟩ := LogicalVolume.resembles_iff.1 h'
  refine ⟨?_, filesystem_of_rel hpayload h.payload⟩
  rw [← h.size]
  exact hown.size

section Built

variable {request : PartitioningRequest} {options : CustomOptions}

/-- A partition that is built as the one described for a volume group holds what is requested. -/
theorem VolumeGroupRequest.answeredBy_of_builtAs {hasRoot : Bool} {request : VolumeGroupRequest}
    {group : VolumeGroup} {device : Partition}
    (hgroup : volumeGroup options hasRoot request = .ok group)
    (h : (Partition.new request.minSize .lvm (some (.volumeGroup group))).BuiltAs device) :
    request.AnsweredBy options.defaultFilesystem (hasRoot = false) device := by
  obtain ⟨hname, volumes, root, hvolumes, hanswered, hroot⟩ := volumeGroup_eq_ok hgroup
  refine ⟨h.kind, h.size, ?_⟩
  obtain ⟨payload, hpayload, hresembles⟩ := exists_of_rel h.payload rfl
  obtain ⟨built, rfl, hown, hbuilt⟩ := Payload.resembles_volumeGroup_left.1 hresembles
  rw [hvolumes] at hbuilt
  obtain ⟨volumes', root', hsplit, hvolumes', hroot'⟩ := split_of_forall₂ hbuilt
  refine ⟨built, volumes', root', hpayload, hown.name.trans hname, hsplit, ?_, ?_⟩
  · exact forall₂_comp hanswered hvolumes' fun _ _ _ _ hdescribes hsame =>
      hdescribes.answeredBy hsame
  · exact hroot.of_forall₂ hroot' fun _ _ hadded hsame => hadded.isBuiltRoot hsame

/-- A partition that is built as the one described for a btrfs volume holds what is requested. -/
theorem BtrfsRequest.answeredBy_of_builtAs {hasRoot : Bool} {request : BtrfsRequest}
    {volume : Btrfs} {device : Partition} (hvolume : btrfs hasRoot request = .ok volume)
    (h : (Partition.new request.minSize .linuxGeneric (some (.btrfs volume))).BuiltAs device) :
    request.AnsweredBy (hasRoot = false) device := by
  obtain ⟨-, rfl⟩ := btrfs_eq_ok_iff.1 hvolume
  refine ⟨h.kind, h.size, ?_⟩
  obtain ⟨payload, hpayload, hresembles⟩ := exists_of_rel h.payload rfl
  obtain ⟨built, rfl, -, hbuilt⟩ := Payload.resembles_btrfs_left.1 hresembles
  obtain ⟨subvolumes, root, hsplit, hsubvolumes, hroot⟩ := split_of_forall₂ hbuilt
  refine ⟨built, subvolumes, root, hpayload, hsplit, List.forall₂_map_left_iff.1 hsubvolumes, ?_⟩
  -- The subvolume for the root is described unless the root is requested.
  cases hasRoot with
  | true => exact ⟨by simp, fun _ => List.forall₂_nil_left_iff.1 hroot⟩
  | false => exact needed_of_described hroot

/-- What is built as the partitions described behind the plain ones ends the table. -/
theorem endsIn_of_builtAs (hsound : request.Sound) {described container : List Partition}
    (hdescribed : (containerPartitions request options).result = .ok described)
    (h : List.Forall₂ Partition.BuiltAs described container) :
    request.EndsIn options container := by
  have hroot : request.mountpoints.contains Path.root = false ↔
      Path.root ∉ request.mountpoints := by simp
  have hsingle {device : Partition} (hbuilt : List.Forall₂ Partition.BuiltAs [device] container) :
      ∃ built, container = [built] ∧ device.BuiltAs built := by
    obtain ⟨built, _, hdevice, hnil, rfl⟩ := List.forall₂_cons_left_iff.1 hbuilt
    obtain rfl := List.forall₂_nil_left_iff.1 hnil
    exact ⟨built, rfl, hdevice⟩
  rcases containerPartitions_cases hdescribed with
    ⟨group, others, volumes, hgroups, hvolumes, rfl⟩ |
    ⟨hgroups, requested, others, volume, hbtrfs, hvolume, rfl⟩ | ⟨hgroups, hbtrfs, rfl⟩
  · obtain rfl := hsound.eq_nil_of_volumeGroups hgroups
    have hnone := hsound.btrfsVolumes_eq_nil (by rw [hgroups]; exact List.cons_ne_nil _ _)
    obtain ⟨built, rfl, hbuilt⟩ := hsingle h
    have hanswered := VolumeGroupRequest.answeredBy_of_builtAs hvolumes hbuilt
    rw [propext hroot] at hanswered
    refine ⟨fun other hother => ⟨built, rfl, ?_⟩, by simp [hnone], fun hnot => ?_⟩
    · rw [hgroups, List.mem_singleton] at hother
      exact hother ▸ hanswered
    · exact absurd (.inl (by rw [hgroups]; exact List.cons_ne_nil _ _)) hnot
  · obtain rfl := hsound.eq_nil_of_btrfsVolumes hbtrfs
    obtain ⟨built, rfl, hbuilt⟩ := hsingle h
    have hanswered := BtrfsRequest.answeredBy_of_builtAs hvolume hbuilt
    rw [propext hroot] at hanswered
    refine ⟨by simp [hgroups], fun other hother => ⟨built, rfl, ?_⟩, fun hnot => ?_⟩
    · rw [hbtrfs, List.mem_singleton] at hother
      exact hother ▸ hanswered
    · exact absurd (.inr (by rw [hbtrfs]; exact List.cons_ne_nil _ _)) hnot
  · refine ⟨by simp [hgroups], by simp [hbtrfs], fun _ => ?_⟩
    rw [← ite_not] at h
    exact (needed_of_described h).congr (by simp)

/-- The partitions that are built as described stand section by section. -/
theorem sections_of_builtAs (hsound : request.Sound) {described partitions : List Partition}
    (hdescribed : (containerPartitions request options).result = .ok described)
    (h : List.Forall₂ Partition.BuiltAs (plainPartitions request options ++ described)
      partitions) :
    ∃ bios esp plain boot container, partitions = bios ++ esp ++ plain ++ boot ++ container ∧
      request.Sections options bios esp plain boot container := by
  rw [plainPartitions, bootPartitions_eq, separateBoot_eq] at h
  obtain ⟨front, container, rfl, hfront, hcontainer⟩ := split_of_forall₂ h
  obtain ⟨front, boot, rfl, hfront, hboot⟩ := split_of_forall₂ hfront
  obtain ⟨front, plain, rfl, hfront, hplain⟩ := split_of_forall₂ hfront
  obtain ⟨bios, esp, rfl, hbios, hesp⟩ := split_of_forall₂ hfront
  exact ⟨bios, esp, plain, boot, container, rfl, needed_of_described hbios,
    needed_of_described hesp, List.forall₂_map_left_iff.1 hplain, needed_of_described hboot,
    endsIn_of_builtAs hsound hdescribed hcontainer⟩

end Built

/-- Every table that is built from a partitioning request has the shape that is requested. -/
theorem buildCustom_shape {request : PartitioningRequest} {options : CustomOptions}
    {source : RandomSource} {result : PartitionTable}
    (h : (buildCustom request options source).1.result = .ok result) :
    request.Shapes options result := by
  obtain ⟨table, hassemble, hfinished, -⟩ := buildCustom_eq_ok h
  have hresembles := hfinished.resembles
  have hmounted : result.mountpoints.Perm
      (request.mountpoints ++ addedMountpoints request options) := by
    rw [hresembles.mountpoints_eq]
    exact customAssembled_mountpoints hassemble
  obtain ⟨hvalid, described, hdescribed, rfl⟩ := assembleCustom_eq_ok_iff.1 hassemble
  have hsound := PartitioningRequest.validate_eq_ok.1 hvalid
  have hplain := unmarkedTable_not_bootable hdescribed
  have hsame := markBootable_sameContents options (unmarkedTable request options described)
  -- What is described is assembled with the mark for BIOS, and then sized and identified.
  have hbuilt := forall₂_comp hsame hresembles.partitions fun _ _ _ _ hsame hresembles =>
    hsame.builtAs hresembles
  refine ⟨?_, ?_, ?_, sections_of_builtAs hsound hdescribed hbuilt, ?_, ?_⟩
  · rw [hresembles.kind, markBootable_kind]
    rfl
  · exact hmounted.nodup_iff.2 (nodup_addedMountpoints hsound)
  · intro mountpoint
    rw [hmounted.mem_iff]
    exact mem_addedMountpoints
  · intro hmarks
    have hroot : Path.root ∈ (unmarkedTable request options described).mountpoints :=
      (unmarkedTable_mountpoints hsound hdescribed).mem_iff.2
        (mem_addedMountpoints.2 (.inr (.inl rfl)))
    rw [hresembles.mountpoints_eq, markBootable_mountpoints]
    exact hresembles.bootsOnlyFrom (markBootable_bootsOnlyFrom hplain hroot hmarks)
  · intro hmarks
    have hunmarked : markBootable options (unmarkedTable request options described) =
        unmarkedTable request options described := if_neg hmarks
    rw [hunmarked] at hresembles
    refine forall_mem_transport hresembles.partitions (fun old new hpartition hold => ?_) hplain
    rw [hpartition.1.bootable, hold]

/-- A request for one filesystem on a logical volume. -/
def PartitioningRequest.ofVolume (filesystem : FilesystemRequest) : PartitioningRequest :=
  ⟨0, none, some [⟨"", 0, [⟨"", filesystem⟩]⟩], none⟩

/-- The options of a DOS disk that BIOS boots. -/
def CustomOptions.biosDisk : CustomOptions := ⟨⟨.amd64, .legacy, none⟩, .dos, .xfs, none⟩

theorem buildCustom_shape_ofVolume :
    ∃ result,
      (buildCustom (.ofVolume (.new "/data" 0)) .biosDisk ⟨fun _ => 0, 0⟩).1.result =
        .ok result ∧
      (PartitioningRequest.ofVolume (.new "/data" 0)).Shapes .biosDisk result ∧
      result.BootsOnlyFrom Path.boot := by
  refine ⟨_, rfl, ?_⟩
  have hshape := @buildCustom_shape (.ofVolume (.new "/data" 0)) .biosDisk ⟨fun _ => 0, 0⟩ _ rfl
  refine ⟨hshape, ?_⟩
  have hboot := (hshape.mem_mountpoints Path.boot).2 (by decide)
  have honly := hshape.bootable ⟨rfl, rfl⟩
  rwa [if_pos hboot] at honly

end DiskLayout
