import DiskLayout.Proofs.Allocation.CustomShape
import DiskLayout.Proofs.Allocation.CustomStructure
import DiskLayout.Proofs.Allocation.Minimums
import DiskLayout.Proofs.Allocation.Reordering

/-!
# The outcome of custom tables

The check of a partitioning request passes requests that can be laid out, with two exceptions.  A
subvolume may take the name of the one that is added for the root.  And a requested FAT filesystem
needs no space of its own, so that its device is left without a size where nothing else asks for
one.  Any other request that passes is built, if it has no more than a hundred logical volumes.

## Main definitions

* `PartitioningRequest.Unsized` — whether nothing asks for a size of a requested FAT filesystem
* `Accounted` — a device that has a size, holds volumes, or holds a requested FAT filesystem
* `Partition.HoldsEmpty` — a partition with a filesystem in a device without a size

## Main results

* `exists_unsized_of_grow` — a device without a size shows that nothing asks for one
* `PartitioningRequest.Unsized.exists_device` — and conversely, but for the root
* `buildCustom_of_validate` — the outcome for requests that pass the check
-/

namespace DiskLayout

open Custom Sizing

/-! ### Devices that nothing asks to have a size -/

theorem FilesystemType.leastSize_eq_zero {kind : FilesystemType} :
    kind.leastSize = 0 ↔ kind = .vfat := by
  cases kind <;> decide

/-- A device for a filesystem needs no size exactly if it has none so far, the filesystem needs
none, and no minimum is set for the mountpoint. -/
theorem deviceSize_filesystem_eq_zero {minimums : Minimums} {size : Nat} {system : Filesystem} :
    deviceSize minimums size (some (.filesystem system)) = 0 ↔
      size = 0 ∧ system.kind = .vfat ∧ (minimums.get? system.mountpoint).getD 0 = 0 := by
  have hmountpoint : (some (Payload.filesystem system)).bind Payload.mountpoint? =
      some system.mountpoint := rfl
  rw [← Nat.le_zero, deviceSize_le_iff, hmountpoint, ← FilesystemType.leastSize_eq_zero]
  cases hminimum : minimums.get? system.mountpoint <;>
    simp [Payload.requirement, luksOverhead, Filesystem.leastSize, hminimum]

/-- Whether nothing asks for a size of a requested FAT filesystem: it is not for EFI, it is
requested without a minimum, and what the directories need that it holds is nothing. -/
structure PartitioningRequest.Unsized (request : PartitioningRequest) (options : CustomOptions)
    (filesystem : FilesystemRequest) : Prop where
  requested : filesystem ∈ request.sizedRequests
  kind : filesystem.kind = some .vfat
  not_esp : filesystem.mountpoint ≠ Path.esp
  minSize : filesystem.minSize = 0
  charged : chargedTo (request.mountpoints ++ addedMountpoints request options)
    (options.requiredSizes.getD defaultRequiredSizes) filesystem.mountpoint = 0

/-- A device that has a size, holds volumes, or holds a requested FAT filesystem. -/
inductive Accounted (request : PartitioningRequest) : Nat → Option Payload → Prop
  | sized {size : Nat} {payload : Option Payload} (h : 0 < size) : Accounted request size payload
  | volumeGroup {size : Nat} (group : VolumeGroup) :
    Accounted request size (some (.volumeGroup group))
  | btrfs {size : Nat} (volume : Btrfs) : Accounted request size (some (.btrfs volume))
  | requested {size : Nat} {filesystem : FilesystemRequest} {system : Filesystem}
    (hmem : filesystem ∈ request.sizedRequests) (hkind : filesystem.kind = some .vfat)
    (hesp : filesystem.mountpoint ≠ Path.esp)
    (hmounted : system.mountpoint = filesystem.mountpoint) :
    Accounted request size (some (.filesystem system))

/-- Whether a node is accounted for, if it is a device. -/
def Node.IsAccounted (request : PartitioningRequest) : Node → Prop
  | .partition _ device => Accounted request device.size device.payload
  | .logicalVolume volume => Accounted request volume.size volume.payload
  | _ => True

/-- Whether a partition and every device in it is accounted for. -/
def Partition.IsAccounted (request : PartitioningRequest) (partition : Partition) : Prop :=
  Accounted request partition.size partition.payload ∧
    ∀ payload, partition.payload = some payload → payload.All (Node.IsAccounted request)

section Accounted

variable {request : PartitioningRequest} {options : CustomOptions} {table : PartitionTable}

/-- A partition with nothing but a filesystem is accounted for if it is as a device. -/
theorem Partition.IsPlain.isAccounted {partition : Partition} (h : partition.IsPlain)
    (hown : Accounted request partition.size partition.payload) :
    partition.IsAccounted request := by
  refine ⟨hown, fun payload hpayload => ?_⟩
  obtain ⟨system, rfl⟩ := h payload hpayload
  exact Payload.all_filesystem.2 trivial

/-- A requested filesystem is accounted for in a device of the size that is asked for it. -/
theorem accounted_requested {filesystem : FilesystemRequest} {size alignment : Nat}
    (hmem : filesystem ∈ request.sizedRequests) (hesp : filesystem.mountpoint ≠ Path.esp)
    (hdefault : options.defaultFilesystem ≠ .vfat)
    (hsize : size = alignUp (max filesystem.minSize (Partition.requestedFilesystem filesystem
      options.defaultFilesystem).leastSize) alignment) :
    Accounted request size
      (some (.filesystem
        (Partition.requestedFilesystem filesystem options.defaultFilesystem))) := by
  by_cases hkind : filesystem.kind = some .vfat
  · exact .requested hmem hkind hesp rfl
  · -- Every other type needs some space.
    have hother := mt (Partition.requestedFilesystem_kind_iff hdefault).1 hkind
    have hleast : 0 < (Partition.requestedFilesystem filesystem
        options.defaultFilesystem).leastSize :=
      Nat.pos_of_ne_zero fun hzero => hother (FilesystemType.leastSize_eq_zero.1 hzero)
    refine .sized ?_
    rw [hsize]
    exact alignUp_max_pos (.inr hleast)

theorem accounted_plain {filesystem : FilesystemRequest}
    (hmem : filesystem ∈ request.plainFilesystems)
    (hdefault : options.defaultFilesystem ≠ .vfat) (architecture : Architecture) :
    Accounted request
      (Partition.plain filesystem options.defaultFilesystem architecture).size
      (Partition.plain filesystem options.defaultFilesystem architecture).payload := by
  unfold Partition.plain
  split
  · -- What EFI boots from has a least size, whatever is requested.
    exact .sized (alignUp_max_pos (.inr (by decide : 0 < Size.espPartition)))
  · rename_i hesp
    exact accounted_requested (List.mem_append_left _ hmem) hesp hdefault rfl

theorem accounted_of_mem_plainPartitions (hdefault : options.defaultFilesystem ≠ .vfat) :
    ∀ partition ∈ plainPartitions request options,
      Accounted request partition.size partition.payload := by
  refine forall_mem_plainPartitions (.sized (by decide)) (.sized (by decide))
    (fun filesystem hmem => accounted_plain hmem hdefault _) (.sized ?_)
  exact alignUp_max_pos (.inl (by decide : 0 < Size.bootPartition))

/-- The volumes of a requested group are accounted for: those requested, and the one that may be
added for the root. -/
theorem accounted_volumes {hasRoot : Bool} {group : VolumeGroupRequest} {volumes : VolumeGroup}
    (hgroup : group ∈ request.volumeGroups) (hrequest : group.Sound)
    (hvolumes : volumeGroup options hasRoot group = .ok volumes)
    (hdefault : options.defaultFilesystem ≠ .vfat) :
    ∀ volume ∈ volumes.logicalVolumes, Accounted request volume.size volume.payload := by
  obtain ⟨-, described, root, hsplit, hdescribed, hadded⟩ := volumeGroup_eq_ok hvolumes
  rw [hsplit]
  refine List.forall_mem_append.2 ⟨fun volume hvolume => ?_, fun volume hvolume => ?_⟩
  · obtain ⟨asked, hasked, hdescribes⟩ := exists_of_forall₂ hdescribed.flip hvolume
    -- A logical volume may not hold what EFI boots from, so the request is not for that.
    have hcontained := (hrequest.contained asked hasked).2
    have hsized : asked.filesystem ∈ request.sizedRequests :=
      List.mem_append_right _ (List.mem_map_of_mem (List.mem_flatMap.2 ⟨group, hgroup, hasked⟩))
    rw [hdescribes.payload]
    refine accounted_requested hsized (fun hesp => hcontained ?_) hdefault hdescribes.size
    rw [hesp]
    decide
  · by_cases hneeded : hasRoot = false
    · obtain ⟨_, rfl, hroot⟩ := hadded.1 hneeded
      obtain rfl := List.mem_singleton.1 hvolume
      refine .sized ?_
      rw [hroot.size]
      exact alignUp_max_pos (.inl (by decide : 0 < Size.defaultRoot))
    · rw [hadded.2 hneeded] at hvolume
      cases hvolume

/-- Every device of an assembled table is accounted for. -/
theorem customAssembled_accounted (h : (assembleCustom request options).result = .ok table)
    (hdefault : options.defaultFilesystem ≠ .vfat) :
    ∀ node ∈ table.nodes, node.IsAccounted request := by
  obtain ⟨hvalid, -⟩ := assembleCustom_eq_ok_iff.1 h
  have hsound := PartitioningRequest.validate_eq_ok.1 hvalid
  have hassembled : ∀ partition ∈ table.partitions, partition.IsAccounted request := by
    refine forall_mem_customAssembled h ?_ ?_ ?_ ?_ ?_
    · intro old new hcontents hold
      rwa [Partition.IsAccounted, hcontents.size, hcontents.payload]
    · exact fun partition hmem => (isPlain_of_mem_plainPartitions hmem).isAccounted
        (accounted_of_mem_plainPartitions hdefault partition hmem)
    · intro group hgroup volumes hvolumes
      refine ⟨.volumeGroup volumes, fun payload hpayload => ?_⟩
      obtain rfl := Option.some.inj hpayload
      exact Payload.all_volumeGroup_of_systems (volumeGroup_filesystems hvolumes) trivial
        (accounted_volumes hgroup (hsound.groups group hgroup) hvolumes hdefault) fun _ => trivial
    · intro requested _ volume _
      refine ⟨.btrfs volume, fun payload hpayload => ?_⟩
      obtain rfl := Option.some.inj hpayload
      exact Payload.all_btrfs.2 ⟨trivial, fun _ _ => trivial⟩
    · exact (Partition.isPlain_plain _ _ _).isAccounted
        (.sized (alignUp_max_pos (.inl (by decide : 0 < Size.defaultRoot))))
  exact PartitionTable.forall_mem_nodes.2 fun index partition hpartition =>
    hassembled partition (List.mem_of_getElem? hpartition)

/-- In a sufficient table that is built from an assembled one, a device that is accounted for is
without a size only if it holds a FAT filesystem without a minimum. -/
theorem Accounted.unsized {minimums : Minimums} {size size' : Nat}
    {payload payload' : Option Payload} (h : Accounted request size payload) (hsize : size ≤ size')
    (hpayload : Option.Rel (Payload.Resembles (· ≤ ·)) payload payload')
    (hsufficient : deviceSize minimums 0 payload' ≤ size') (hzero : size' = 0) :
    ∃ filesystem ∈ request.sizedRequests, filesystem.kind = some .vfat ∧
      filesystem.mountpoint ≠ Path.esp ∧ (minimums.get? filesystem.mountpoint).getD 0 = 0 := by
  subst hzero
  have hrequirement := (deviceSize_le_iff.1 hsufficient).2.1
  cases h with
  | sized h => omega
  | volumeGroup group =>
    -- The metadata of a volume group needs space.
    obtain ⟨_, rfl, hresembles⟩ := exists_of_rel hpayload rfl
    obtain ⟨group', rfl, -⟩ := Payload.resembles_volumeGroup_left.1 hresembles
    have hrequired : group'.requiredSize ≤ 0 := hrequirement _ rfl
    have hmetadata := group'.metadata_le_requiredSize
    have hpos : 0 < Size.volumeGroupMetadata := by decide
    omega
  | btrfs volume =>
    -- So does the smallest btrfs volume.
    obtain ⟨_, rfl, hresembles⟩ := exists_of_rel hpayload rfl
    obtain ⟨volume', rfl, -⟩ := Payload.resembles_btrfs_left.1 hresembles
    have hrequired : max volume'.size volume'.requiredSize ≤ 0 := hrequirement _ rfl
    have hleast : Size.leastBtrfs ≤ volume'.requiredSize := Nat.le_max_right _ _
    have hpos : 0 < Size.leastBtrfs := by decide
    omega
  | @requested filesystem system hmem hkind hesp hmounted =>
    obtain ⟨held, rfl, halike⟩ := filesystem_of_rel hpayload rfl
    have hheld := (deviceSize_filesystem_eq_zero.1 (Nat.le_zero.1 hsufficient)).2.2
    rw [halike.mountpoint, hmounted] at hheld
    exact ⟨filesystem, hmem, hkind, hesp, hheld⟩

/-- Where a requested filesystem has no minimum in an assembled table, nothing asks for one. -/
theorem customMinimum_eq_zero_iff (h : (assembleCustom request options).result = .ok table)
    {filesystem : FilesystemRequest} (hmem : filesystem ∈ request.sizedRequests) :
    ((Minimums.ofTable table request.sizedRequests options.requiredSizes).get?
        filesystem.mountpoint).getD 0 = 0 ↔
      filesystem.minSize = 0 ∧ chargedTo (request.mountpoints ++ addedMountpoints request options)
        (options.requiredSizes.getD defaultRequiredSizes) filesystem.mountpoint = 0 := by
  obtain ⟨hvalid, -⟩ := assembleCustom_eq_ok_iff.1 h
  have hsound := PartitioningRequest.validate_eq_ok.1 hvalid
  -- A mountpoint is requested once, so no other request sets a minimum for it.
  have hdistinct : (request.sizedRequests.map FilesystemRequest.mountpoint).Nodup := by
    have hmountpoints : request.sizedRequests.map FilesystemRequest.mountpoint =
        request.plainMountpoints ++ request.logicalMountpoints := by
      rw [PartitioningRequest.sizedRequests, List.map_append, List.map_map]
      rfl
    rw [hmountpoints]
    exact (List.nodup_append.1 hsound.mountpoints_distinct).1
  rw [Minimums.getD_ofTable_eq_zero_iff, Minimums.chargedTo_congr fun mountpoint =>
    (customAssembled_mountpoints h).mem_iff]
  refine and_congr_left fun _ => ⟨fun hall => hall filesystem hmem rfl, fun hzero => ?_⟩
  intro other hother hsame
  rwa [List.inj_on_of_nodup_map hdistinct hother hmem hsame]

end Accounted

/-! ### Devices that stay without a size -/

/-- Whether a partition, or a logical volume in it, holds a filesystem and has no size. -/
def Partition.HoldsEmpty (system : Filesystem) (partition : Partition) : Prop :=
  (partition.size = 0 ∧ partition.payload = some (.filesystem system)) ∨
    ∃ group, partition.payload = some (.volumeGroup group) ∧
      ∃ volume ∈ group.logicalVolumes,
        volume.size = 0 ∧ volume.payload = some (.filesystem system)

section Empty

variable {request : PartitioningRequest} {options : CustomOptions} {table grown : PartitionTable}
  {minimums : Minimums} {system : Filesystem} {partition : Partition}

theorem Partition.HoldsEmpty.exists_device (h : partition.HoldsEmpty system)
    (hmem : partition ∈ table.partitions) : ∃ node ∈ table.nodes, node.deviceSize? = some 0 := by
  rcases h with ⟨hzero, -⟩ | ⟨group, hpayload, volume, hvolume, hzero, -⟩
  · obtain ⟨index, hindex⟩ := List.mem_iff_getElem?.1 hmem
    exact ⟨.partition index partition,
      PartitionTable.mem_nodes.2 ⟨index, partition, hindex, List.mem_cons_self⟩,
      congrArg some hzero⟩
  · exact ⟨.logicalVolume volume,
      (PartitionTable.logicalVolume_all_mem_nodes hmem hpayload hvolume).1, congrArg some hzero⟩

/-- Resizing keeps a device empty if the filesystem in it needs nothing. -/
theorem Partition.HoldsEmpty.resize (h : partition.HoldsEmpty system)
    (hneeds : deviceSize minimums 0 (some (.filesystem system)) = 0) :
    (partition.resize minimums).HoldsEmpty system := by
  have hsystem : (Payload.filesystem system).resize minimums = .filesystem system := rfl
  have hround : ∀ alignment, alignUp 0 alignment = 0 := fun alignment =>
    alignUp_of_mod (Nat.zero_mod alignment)
  rcases h with ⟨hzero, hpayload⟩ | ⟨group, hpayload, volume, hvolume, hzero, hheld⟩
  · refine .inl ⟨?_, ?_⟩
    · simp only [Partition.resize, hpayload, hzero, Option.map_some, hsystem, hneeds, hround]
    · simp only [Partition.resize, hpayload, Option.map_some, hsystem]
  · refine .inr ⟨{ group with
      logicalVolumes := group.logicalVolumes.map (LogicalVolume.resize minimums) }, ?_,
      volume.resize minimums, List.mem_map_of_mem hvolume, ?_, ?_⟩
    · simp only [Partition.resize, hpayload, Option.map_some, Payload.resize_volumeGroup]
    · simp only [LogicalVolume.resize, hheld, hzero, Option.map_some, hsystem, hneeds, hround]
    · simp only [LogicalVolume.resize, hheld, Option.map_some, hsystem]

/-- Growth keeps a device empty that does not hold the root. -/
theorem Partition.HoldsEmpty.growRoot (h : partition.HoldsEmpty system)
    (hroot : system.mountpoint ≠ Path.root) (hdistinct : partition.mountpoints.Nodup)
    (delta : Nat) : (partition.growRoot delta).HoldsEmpty system := by
  unfold Partition.growRoot
  split
  · rename_i hgrows
    rw [List.contains_iff_mem] at hgrows
    rcases h with ⟨-, hpayload⟩ | ⟨group, hpayload, volume, hvolume, hzero, hheld⟩
    · rw [Partition.mountpoints_of_filesystem hpayload, List.mem_singleton] at hgrows
      exact absurd hgrows.symm hroot
    · -- The volume group grows in its root volume alone.
      have hgroup : (Payload.volumeGroup group).mountpoints.Nodup := by
        rwa [Partition.mountpoints, hpayload, Option.toList_some, List.flatMap_singleton]
          at hdistinct
      have hnot : isRootVolume volume = false := by
        simpa [isRootVolume, LogicalVolume.mountpoint?, hheld, Payload.mountpoint?] using hroot
      have henlarged : (partition.enlarge delta).payload = some (.volumeGroup group) := hpayload
      refine .inr ⟨growRootVolume (innerSize (partition.enlarge delta)) group, ?_, volume, ?_,
        hzero, hheld⟩
      · exact congrArg Partition.payload (Partition.mapContent_of_payload henlarged rfl _)
      · rw [VolumeGroup.growRootVolume_eq_map hgroup]
        exact List.mem_map.2 ⟨volume, hvolume, by rw [hnot]; rfl⟩
  · exact h

/-- A table that is resized and grown keeps a device empty that does not hold the root, if the
filesystem in it needs nothing. -/
theorem Partition.HoldsEmpty.exists_device_of_grow (h : partition.HoldsEmpty system)
    (hmem : partition ∈ table.partitions)
    (hneeds : deviceSize minimums 0 (some (.filesystem system)) = 0)
    (hother : system.mountpoint ≠ Path.root) (hroot : Path.root ∈ table.mountpoints)
    (hdistinct : table.mountpoints.Nodup) {goal : Nat}
    (hgrown : ((table.resize minimums).grow goal).result = .ok grown) :
    ∃ node ∈ grown.nodes, node.deviceSize? = some 0 := by
  have hmountpoints := (table.resize_resembles minimums).mountpoints_eq
  have hdistinct' : (table.resize minimums).mountpoints.Nodup := hmountpoints ▸ hdistinct
  have hresized := h.resize hneeds
  have hmem' : partition.resize minimums ∈ (table.resize minimums).partitions := by
    rw [PartitionTable.resize_eq]
    exact List.mem_map_of_mem hmem
  -- Either nothing grows, or the one partition that mounts the root does.
  rw [PartitionTable.grow_of_root (hmountpoints ▸ hroot) hdistinct'] at hgrown
  obtain rfl := Except.ok.inj hgrown
  split
  · exact hresized.exists_device hmem'
  · rw [PartitionTable.mountpoints_eq, List.nodup_flatMap] at hdistinct'
    exact (hresized.growRoot hother (hdistinct'.1 _ hmem') _).exists_device
      (List.mem_map_of_mem hmem')

/-- A requested filesystem that nothing asks a size for is put into a device without one. -/
theorem PartitioningRequest.Unsized.exists_holdsEmpty {filesystem : FilesystemRequest}
    (h : request.Unsized options filesystem)
    (hassemble : (assembleCustom request options).result = .ok table) :
    ∃ partition ∈ table.partitions, partition.HoldsEmpty
      (Partition.requestedFilesystem filesystem options.defaultFilesystem) := by
  have hleast := FilesystemType.leastSize_eq_zero.2
    (@Partition.requestedFilesystem_kind _ _ options.defaultFilesystem h.kind)
  have hround : ∀ alignment, alignUp (max filesystem.minSize (Partition.requestedFilesystem
      filesystem options.defaultFilesystem).leastSize) alignment = 0 := by
    intro alignment
    rw [h.minSize, Filesystem.leastSize, hleast]
    exact alignUp_of_mod (Nat.zero_mod alignment)
  -- It has a partition of its own, or it was requested on a logical volume.
  rcases List.mem_append.1 h.requested with hplain | hlogical
  · obtain ⟨-, container, -, hsame⟩ := assembleCustom_eq_ok hassemble
    obtain ⟨partition, hmem, hcontents⟩ := exists_of_forall₂ hsame (List.mem_append_left _
      (List.mem_append_left _ (List.mem_append_right _ (List.mem_map_of_mem hplain))))
    rw [Partition.plain, if_neg h.not_esp] at hcontents
    exact ⟨partition, hmem, .inl ⟨hcontents.size.trans (hround _), hcontents.payload⟩⟩
  · obtain ⟨asked, hasked, rfl⟩ := List.mem_map.1 hlogical
    obtain ⟨partition, hmem, group, hpayload, volume, hvolume, hdescribes⟩ :=
      customAssembled_logicalVolume hassemble hasked
    exact ⟨partition, hmem, .inr ⟨group, hpayload, volume, hvolume,
      hdescribes.size.trans (hround _), hdescribes.payload⟩⟩

end Empty

/-! ### The outcome -/

section Outcome

variable {request : PartitioningRequest} {options : CustomOptions} {table grown : PartitionTable}

/-- A table that is assembled, resized and grown has a device without a size only if nothing asks
for a size of a requested filesystem. -/
theorem exists_unsized_of_grow (h : (assembleCustom request options).result = .ok table)
    (hdefault : options.defaultFilesystem ≠ .vfat) {goal : Nat}
    (hgrown : ((table.resize (.ofTable table request.sizedRequests options.requiredSizes)).grow
      goal).result = .ok grown)
    (hempty : ∃ node ∈ grown.nodes, node.deviceSize? = some 0) :
    ∃ filesystem, request.Unsized options filesystem := by
  obtain ⟨node', hnode', hzero⟩ := hempty
  -- Nothing shrinks on the way, so a device without a size had none when it was assembled.
  have hsufficient := ((table.resize_sufficient _).grow hgrown).of_mem_nodes hnode'
  have hresembles := (table.resize_resembles _).comp (PartitionTable.grow_resembles hgrown)
    fun _ _ _ => Nat.le_trans
  obtain ⟨node, hnode, hgrew⟩ :=
    exists_of_forall₂ (PartitionTable.nodes_resemble hresembles).flip hnode'
  have haccounted := customAssembled_accounted h hdefault node hnode
  have hunsized : ∃ filesystem ∈ request.sizedRequests, filesystem.kind = some .vfat ∧
      filesystem.mountpoint ≠ Path.esp ∧
      ((Minimums.ofTable table request.sizedRequests options.requiredSizes).get?
        filesystem.mountpoint).getD 0 = 0 := by
    cases hgrew with
    | partition hpartition =>
      exact haccounted.unsized hpartition.1.size hpartition.2 hsufficient.2
        (Option.some.inj hzero)
    | logicalVolume hvolume =>
      obtain ⟨hown, hpayload⟩ := LogicalVolume.resembles_iff.1 hvolume
      exact haccounted.unsized hown.size hpayload hsufficient.2 (Option.some.inj hzero)
    | _ => cases hzero
  obtain ⟨filesystem, hmem, hkind, hesp, hminimum⟩ := hunsized
  obtain ⟨hminSize, hcharged⟩ := (customMinimum_eq_zero_iff h hmem).1 hminimum
  exact ⟨filesystem, hmem, hkind, hesp, hminSize, hcharged⟩

/-- Nothing asks for a size of a requested filesystem: its device is left without a size. -/
theorem PartitioningRequest.Unsized.exists_device {filesystem : FilesystemRequest}
    (hunsized : request.Unsized options filesystem)
    (h : (assembleCustom request options).result = .ok table)
    (hroot : filesystem.mountpoint ≠ Path.root) {goal : Nat}
    (hgrown : ((table.resize (.ofTable table request.sizedRequests options.requiredSizes)).grow
      goal).result = .ok grown) :
    ∃ node ∈ grown.nodes, node.deviceSize? = some 0 := by
  have hmounted := customAssembled_mountpoints h
  have hsound := PartitioningRequest.validate_eq_ok.1 (assembleCustom_eq_ok_iff.1 h).1
  obtain ⟨partition, hmem, hempty⟩ := hunsized.exists_holdsEmpty h
  refine hempty.exists_device_of_grow hmem (deviceSize_filesystem_eq_zero.2 ⟨rfl, ?_, ?_⟩) hroot
    ?_ (hmounted.nodup_iff.2 (nodup_addedMountpoints hsound)) hgrown
  · exact Partition.requestedFilesystem_kind hunsized.kind
  · exact (customMinimum_eq_zero_iff h hunsized.requested).2 ⟨hunsized.minSize, hunsized.charged⟩
  · exact hmounted.mem_iff.2 (mem_addedMountpoints.2 (.inr (.inl rfl)))

/-- A table that can be assembled is built, or it has a device without a size.  Either shows what
the request asks for: there is no such device unless nothing asks for a size of a requested
filesystem, and there is one if that is not the root. -/
theorem buildCustom_of_assembled (h : (assembleCustom request options).result = .ok table)
    (hdefault : options.defaultFilesystem ≠ .vfat) (source : RandomSource) :
    ((∃ result, (buildCustom request options source).1.result = .ok result) ∧
      ∀ filesystem, request.Unsized options filesystem → filesystem.mountpoint = Path.root) ∨
    ((∃ filesystem, request.Unsized options filesystem) ∧ ∃ device : String,
      (buildCustom request options source).1.result =
        .error (.invalidTable (device ++ " has no size"))) := by
  rw [buildCustom_of_ok h]
  rcases complete_settle_cases (customAssembled_wellStructured h)
      (.ofTable table request.sizedRequests options.requiredSizes) request.minSize source with
    ⟨hnone, -⟩ | ⟨grown, hgrown, ⟨hempty, herror⟩ | ⟨hsized, hok⟩⟩
  · -- The root is mounted, so there is a partition that can grow.
    have hroot := (customAssembled_mountpoints h).mem_iff.2
      (mem_addedMountpoints.2 (.inr (.inl rfl)))
    rw [PartitionTable.mountpoints_eq, hnone] at hroot
    cases hroot
  · exact .inr ⟨exists_unsized_of_grow h hdefault hgrown hempty, herror⟩
  · refine .inl ⟨hok, fun filesystem hunsized => ?_⟩
    by_contra hother
    obtain ⟨node, hnode, hzero⟩ := hunsized.exists_device h hother hgrown
    exact hsized node hnode hzero

/-- The outcome of building a table for a request that passes the check, where filesystems are not
FAT by default.  A request with a subvolume of the name of the one added for the root is refused
for that name.  Any other request is built, or nothing asks for a size of a requested FAT filesystem
and the table is refused because a device has none.  The latter is certain unless that filesystem is
the root, which may grow. -/
theorem buildCustom_of_validate (hvalid : request.validate = .ok ())
    (hlength : request.logicalVolumes.length ≤ 100)
    (hdefault : options.defaultFilesystem ≠ .vfat) (source : RandomSource) :
    (request.RootNameTaken → (buildCustom request options source).1.result =
      .error PartitioningRequest.rootNameError) ∧
    (¬ request.RootNameTaken →
      (∃ result, (buildCustom request options source).1.result = .ok result) ∨
      ((∃ filesystem, request.Unsized options filesystem) ∧ ∃ device : String,
        (buildCustom request options source).1.result =
          .error (.invalidTable (device ++ " has no size")))) ∧
    (¬ request.RootNameTaken → ∀ filesystem, request.Unsized options filesystem →
      filesystem.mountpoint ≠ Path.root → ∃ device : String,
        (buildCustom request options source).1.result =
          .error (.invalidTable (device ++ " has no size"))) := by
  have hsound := PartitioningRequest.validate_eq_ok.1 hvalid
  -- A request that passes can be assembled but for the name of the root.
  rcases @containerPartitions_outcome _ options hsound hlength with
    ⟨htaken, hrefused⟩ | ⟨hfree, container, hcontainer⟩
  · have hassemble : (assembleCustom request options).result =
        .error PartitioningRequest.rootNameError := by
      unfold assembleCustom
      simp only [Logged.result_bind, Logged.result_lift, hvalid, hrefused, ok_bind]
      rfl
    exact ⟨fun _ => buildCustom_of_error hassemble, fun hfree => absurd htaken hfree,
      fun hfree => absurd htaken hfree⟩
  · have hassemble := assembleCustom_eq_ok_iff.2 ⟨hvalid, container, hcontainer, rfl⟩
    have houtcome := buildCustom_of_assembled hassemble hdefault source
    refine ⟨fun htaken => absurd htaken hfree, fun _ => houtcome.imp_left And.left, ?_⟩
    intro _ filesystem hunsized hother
    rcases houtcome with ⟨-, honly⟩ | ⟨-, herror⟩
    · exact absurd (honly filesystem hunsized) hother
    · exact herror

/-- A request for a subvolume at `/home` that has the name of the one added for the root. -/
def PartitioningRequest.homeNamedRoot : PartitioningRequest :=
  ⟨0, none, none, some [⟨0, [⟨"root", "/home"⟩]⟩]⟩

theorem buildCustom_of_validate_ofVolume :
    (∃ result, (buildCustom (.ofVolume (.new "/data" 0)) .standard ⟨fun _ => 0, 0⟩).1.result =
      .ok result) ∧
    (∃ device : String, (buildCustom (.ofVolume ⟨"/data", 0, none, some .vfat⟩) .standard
        ⟨fun _ => 0, 0⟩).1.result = .error (.invalidTable (device ++ " has no size"))) ∧
    (buildCustom .homeNamedRoot .standard ⟨fun _ => 0, 0⟩).1.result =
      .error PartitioningRequest.rootNameError := by
  have hfree : ∀ filesystem, ¬ (PartitioningRequest.ofVolume filesystem).RootNameTaken :=
    fun _ => PartitioningRequest.not_rootNameTaken rfl
  refine ⟨?_, ?_, ?_⟩
  · have houtcome := (@buildCustom_of_validate (.ofVolume (.new "/data" 0)) .standard rfl
      (by decide) (by decide) ⟨fun _ => 0, 0⟩).2.1 (hfree _)
    refine houtcome.resolve_right ?_
    rintro ⟨⟨filesystem, hunsized⟩, -⟩
    obtain rfl := List.mem_singleton.1 hunsized.requested
    cases hunsized.kind
  · exact (@buildCustom_of_validate (.ofVolume ⟨"/data", 0, none, some .vfat⟩) .standard rfl
      (by decide) (by decide) ⟨fun _ => 0, 0⟩).2.2 (hfree _) ⟨"/data", 0, none, some .vfat⟩
      ⟨List.mem_singleton_self _, rfl, by decide, rfl, by decide⟩ (by decide)
  · exact (@buildCustom_of_validate .homeNamedRoot .standard rfl (by decide) (by decide)
      ⟨fun _ => 0, 0⟩).1 ⟨by decide, _, List.mem_singleton_self _, by decide⟩

/-- A request passes the check and is refused nevertheless. -/
theorem buildCustom_homeNamedRoot :
    PartitioningRequest.homeNamedRoot.validate = .ok () ∧
      PartitioningRequest.homeNamedRoot.logicalVolumes.length ≤ 100 ∧
      CustomOptions.standard.defaultFilesystem ≠ .vfat ∧
      (buildCustom .homeNamedRoot .standard ⟨fun _ => 0, 0⟩).1.result =
        .error (.duplicateName "duplicate btrfs subvolume name \"root\"") :=
  ⟨rfl, by decide, by decide, rfl⟩

end Outcome

end DiskLayout
