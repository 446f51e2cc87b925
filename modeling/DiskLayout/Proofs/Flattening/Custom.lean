import DiskLayout.Proofs.Allocation.CustomShape
import DiskLayout.Proofs.Flattening.Built

/-!
# Flattening custom tables

A custom table mounts what its platform boots from, and the check of its request refuses btrfs
filesystems for plain partitions.  It does not refuse them for logical volumes, where a btrfs
filesystem is not mounted either.  So a custom table can be flattened on its platform unless a btrfs
filesystem is requested on a logical volume.

## Main results

* `customAssembled_mountable` — what is assembled without such a volume can be mounted
* `customAssembled_btrfs_mem_nodes` — such a volume is in the table
* `buildCustom_flatten` — when custom tables can be flattened
-/

namespace DiskLayout

open Custom

/-! ### Filesystems -/

theorem Partition.mountable_of_filesystem {partition : Partition} {system : Filesystem}
    (hpayload : partition.payload = some (.filesystem system)) (hkind : system.kind ≠ .btrfs) :
    partition.Mountable := by
  intro payload hheld
  obtain rfl := Option.some.inj (hpayload.symm.trans hheld)
  exact Payload.all_filesystem.2 hkind

section Kinds

variable {request : FilesystemRequest} {defaultKind : FilesystemType}

theorem Partition.mountable_plain (hkind : request.kind ≠ some .btrfs)
    (hdefault : defaultKind ≠ .btrfs) (architecture : Architecture) :
    (Partition.plain request defaultKind architecture).Mountable := by
  unfold Partition.plain
  split
  · exact mountable_of_filesystem rfl (by decide : FilesystemType.vfat ≠ .btrfs)
  · exact mountable_of_filesystem rfl (mt (requestedFilesystem_kind_iff hdefault).1 hkind)

/-- The boot loader is never asked to read btrfs. -/
theorem Partition.mountable_boot (defaultKind : FilesystemType) :
    (Partition.boot defaultKind).Mountable := by
  have hboot : bootFilesystem defaultKind ≠ .btrfs := by cases defaultKind <;> decide
  exact mountable_plain (fun hkind => hboot (Option.some.inj hkind)) hboot .amd64

end Kinds

/-! ### The assembled table -/

section Assembled

variable {request : PartitioningRequest} {options : CustomOptions} {table : PartitionTable}

theorem plainPartitions_mountable (hsound : request.Sound)
    (hdefault : options.defaultFilesystem ≠ .btrfs) :
    ∀ partition ∈ plainPartitions request options, partition.Mountable := by
  have hesp : (Partition.esp 0).Mountable :=
    Partition.mountable_of_filesystem rfl (by decide : FilesystemType.vfat ≠ .btrfs)
  refine forall_mem_plainPartitions (fun payload hpayload => by cases hpayload) hesp ?_
    (Partition.mountable_boot _)
  intro filesystem hfilesystem
  exact Partition.mountable_plain (hsound.plain_kinds filesystem hfilesystem).not_btrfs hdefault _

/-- A requested volume group can be mounted if no btrfs filesystem is requested in it. -/
theorem volumeGroup_mountable {hasRoot : Bool} {group : VolumeGroupRequest} {volumes : VolumeGroup}
    (hvolumes : volumeGroup options hasRoot group = .ok volumes)
    (hdefault : options.defaultFilesystem ≠ .btrfs)
    (hkinds : ∀ asked ∈ group.logicalVolumes, asked.filesystem.kind ≠ some .btrfs) :
    (Payload.volumeGroup volumes).All Node.Mountable := by
  refine Payload.all_volumeGroup.2 ⟨trivial, fun volume hvolume => ?_⟩
  obtain ⟨system, hsystem, hpayload⟩ := volumeGroup_systems hvolumes volume hvolume
  refine ⟨.inl ⟨system, hpayload⟩, fun inner hinner => ?_⟩
  obtain rfl := Option.some.inj (hpayload.symm.trans hinner)
  refine Payload.all_filesystem.2 ?_
  -- The filesystem was requested, or it was added for the root.
  rcases List.mem_append.1 hsystem with hrequested | hadded
  · obtain ⟨asked, hasked, rfl⟩ := List.mem_map.1 hrequested
    exact mt (Partition.requestedFilesystem_kind_iff hdefault).1 (hkinds asked hasked)
  · split at hadded
    · cases hadded
    · rw [List.mem_singleton.1 hadded]
      exact hdefault

/-- An assembled table can be mounted if no btrfs filesystem is requested on a logical volume. -/
theorem customAssembled_mountable (h : (assembleCustom request options).result = .ok table)
    (hdefault : options.defaultFilesystem ≠ .btrfs)
    (hkinds : ∀ asked ∈ request.logicalVolumes, asked.filesystem.kind ≠ some .btrfs) :
    table.Mountable := by
  obtain ⟨hvalid, -⟩ := assembleCustom_eq_ok_iff.1 h
  have hsound := PartitioningRequest.validate_eq_ok.1 hvalid
  refine PartitionTable.mountable_iff_partitions.2 (forall_mem_customAssembled h ?_
    (plainPartitions_mountable hsound hdefault) ?_ ?_ ?_)
  · intro old new hcontents hold
    rw [Partition.Mountable, hcontents.payload]
    exact hold
  · intro group hgroup volumes hvolumes payload hpayload
    obtain rfl := Option.some.inj hpayload
    exact volumeGroup_mountable hvolumes hdefault fun asked hasked =>
      hkinds asked (List.mem_flatMap.2 ⟨group, hgroup, hasked⟩)
  · intro requested _ volume _ payload hpayload
    obtain rfl := Option.some.inj hpayload
    exact Payload.all_btrfs.2 ⟨trivial, fun _ _ => trivial⟩
  · exact Partition.mountable_plain (fun hkind => by cases hkind) hdefault _

/-- A btrfs filesystem that is requested on a logical volume is in the assembled table. -/
theorem customAssembled_btrfs_mem_nodes (h : (assembleCustom request options).result = .ok table)
    {asked : LogicalVolumeRequest} (hasked : asked ∈ request.logicalVolumes)
    (hkind : asked.filesystem.kind = some .btrfs) :
    ∃ system, Node.filesystem system ∈ table.nodes ∧ system.kind = .btrfs := by
  obtain ⟨partition, hmem, group, hpayload, volume, hvolume, hdescribes⟩ :=
    customAssembled_logicalVolume h hasked
  have hnodes := PartitionTable.logicalVolume_all_mem_nodes hmem hpayload hvolume
  exact ⟨_, Payload.all_filesystem.1 (hnodes.2 _ hdescribes.payload),
    Partition.requestedFilesystem_kind hkind⟩

end Assembled

/-! ### The built table -/

section Built

variable {request : PartitioningRequest} {options : CustomOptions} {source : RandomSource}
  {result : PartitionTable}

/-- Everything in a custom table can be mounted exactly if no btrfs filesystem is requested on a
logical volume. -/
theorem buildCustom_mountable_iff (h : (buildCustom request options source).1.result = .ok result)
    (hdefault : options.defaultFilesystem ≠ .btrfs) :
    result.Mountable ↔
      ∀ asked ∈ request.logicalVolumes, asked.filesystem.kind ≠ some .btrfs := by
  obtain ⟨table, hassemble, hfinished, -⟩ := buildCustom_eq_ok h
  have hresembles := hfinished.resembles
  constructor
  · -- Sizing and identification keep filesystems, so one that is btrfs is met in the result.
    intro hmountable asked hasked hkind
    obtain ⟨system, hsystem, hbtrfs⟩ := customAssembled_btrfs_mem_nodes hassemble hasked hkind
    obtain ⟨node, hnode, hsame⟩ :=
      exists_of_forall₂ (PartitionTable.nodes_resemble hresembles) hsystem
    cases hsame with
    | filesystem halike => exact hmountable.mounted_by_subvolume _ hnode (halike.kind.trans hbtrfs)
  · exact fun hkinds => hresembles.mountable (customAssembled_mountable hassemble hdefault hkinds)

/-- A custom table mounts everything that its platform boots from. -/
theorem buildCustom_required (h : (buildCustom request options source).1.result = .ok result) :
    ∀ mountpoint ∈ options.platform.requiredMountpoints, mountpoint ∈ result.mountpoints := by
  obtain ⟨table, hassemble, hfinished, -⟩ := buildCustom_eq_ok h
  intro mountpoint hrequired
  -- What is not requested of it was added before the table was sized.
  rw [hfinished.resembles.mountpoints_eq, (customAssembled_mountpoints hassemble).mem_iff,
    mem_addedMountpoints]
  unfold Platform.requiredMountpoints at hrequired
  split at hrequired
  · rename_i huefi
    rcases List.mem_pair.1 hrequired with rfl | rfl
    · exact .inr (.inl rfl)
    · exact .inr (.inr (.inl ⟨huefi, rfl⟩))
  · exact .inr (.inl (List.mem_singleton.1 hrequired))

/-- Where btrfs is not the default, a custom table can be flattened on the platform it was made for
exactly if no btrfs filesystem is requested on a logical volume.  With such a volume the table is
built, but it is refused as unsupported when it is flattened. -/
theorem buildCustom_flatten (h : (buildCustom request options source).1.result = .ok result)
    (hdefault : options.defaultFilesystem ≠ .btrfs) (filename : String) :
    ((∃ layout, (result.flatten filename options.platform).result = .ok layout) ↔
      ∀ asked ∈ request.logicalVolumes, asked.filesystem.kind ≠ some .btrfs) ∧
    ∀ asked ∈ request.logicalVolumes, asked.filesystem.kind = some .btrfs → ∃ text,
      (result.flatten filename options.platform).result = .error (.unsupportedPayload text) := by
  have hmountable := buildCustom_mountable_iff h hdefault
  refine ⟨⟨fun ⟨layout, hlayout⟩ => hmountable.1 (PartitionTable.flatten_eq_ok hlayout).1,
    fun hkinds => (hmountable.2 hkinds).exists_layout (buildCustom_required h) filename⟩, ?_⟩
  intro asked hasked hkind
  exact PartitionTable.flatten_of_not_mountable (fun hresult => hmountable.1 hresult asked hasked
    hkind) _ _

theorem buildCustom_flatten_ofVolume :
    (∃ result layout,
      (buildCustom (.ofVolume (.new "/data" 0)) .standard ⟨fun _ => 0, 0⟩).1.result =
        .ok result ∧
      (result.flatten "disk.img" CustomOptions.standard.platform).result = .ok layout) ∧
    ∃ result text,
      (buildCustom (.ofVolume ⟨"/data", 0, none, some .btrfs⟩) .standard
        ⟨fun _ => 0, 0⟩).1.result = .ok result ∧
      (result.flatten "disk.img" CustomOptions.standard.platform).result =
        .error (.unsupportedPayload text) := by
  constructor
  · obtain ⟨result, h⟩ : ∃ result,
        (buildCustom (.ofVolume (.new "/data" 0)) .standard ⟨fun _ => 0, 0⟩).1.result =
          .ok result := ⟨_, rfl⟩
    obtain ⟨layout, hlayout⟩ := (buildCustom_flatten h (by decide) "disk.img").1.2 (by decide)
    exact ⟨result, layout, h, hlayout⟩
  · obtain ⟨result, h⟩ : ∃ result,
        (buildCustom (.ofVolume ⟨"/data", 0, none, some .btrfs⟩) .standard
          ⟨fun _ => 0, 0⟩).1.result = .ok result := ⟨_, rfl⟩
    obtain ⟨text, herror⟩ := (buildCustom_flatten h (by decide) "disk.img").2 _
      (List.mem_singleton_self _) rfl
    exact ⟨result, text, h, herror⟩

/-- A request for a btrfs filesystem on a logical volume passes, its table is built, and the table
is refused when it is flattened. -/
theorem flatten_buildCustom_btrfsVolume :
    (PartitioningRequest.ofVolume ⟨"/data", 0, none, some .btrfs⟩).validate = .ok () ∧
    CustomOptions.standard.defaultFilesystem = .xfs ∧
    ∃ result, (buildCustom (.ofVolume ⟨"/data", 0, none, some .btrfs⟩) .standard
        ⟨fun _ => 0, 0⟩).1.result = .ok result ∧
      (result.flatten "disk.img" CustomOptions.standard.platform).result =
        .error (.unsupportedPayload
          "btrfs filesystem at \"/data\" must be mounted through a subvolume") :=
  ⟨rfl, rfl, _, rfl, rfl⟩

end Built

end DiskLayout
