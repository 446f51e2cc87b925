import DiskLayout.Proofs.Allocation.Assembly
import DiskLayout.Proofs.Allocation.Capacity
import DiskLayout.Proofs.Allocation.RequestedVolumes

/-!
# Assembly from a partitioning request

A table that is laid out from a request has plain partitions first, and behind them the partition
of the requested container, if there is one.  Nothing in it is encrypted, everything that was
requested is mounted, and the partition of a container has the size that was requested for it.

## Main definitions

* `Partition.IsPlain` — a partition with nothing but a filesystem
* `Partition.SameContents` — partitions of the same size and type with the same payload
* `unmarkedTable` — the assembled table but for the mark for BIOS
* `addedMountpoints` — what is mounted although nothing requests it

## Main results

* `containerPartitions_cases` — the partition of the container
* `assembleCustom_eq_ok`, `forall_mem_customAssembled` — the partitions of an assembled table
* `customAssembled_mountpoints` — an assembled table mounts what is requested and what is added
* `customAssembled_unnested`, `customAssembled_logicalVolume`, `customAssembled_volumeGroup`,
  `customAssembled_btrfs` — what the partitions hold
-/

namespace DiskLayout

open Custom

/-! ### The partitions -/

/-- Whether a partition has nothing but a filesystem, if it has a payload at all. -/
def Partition.IsPlain (partition : Partition) : Prop :=
  ∀ payload, partition.payload = some payload → ∃ system, payload = .filesystem system

section RequestedKind

variable {request : FilesystemRequest} {kind defaultKind : FilesystemType}

theorem Partition.requestedFilesystem_kind (h : request.kind = some kind) :
    (requestedFilesystem request defaultKind).kind = kind := by
  have hkind : (requestedFilesystem request defaultKind).kind = request.kind.getD defaultKind := rfl
  rw [hkind, h, Option.getD_some]

/-- A filesystem is of another type than the default exactly if that type is requested. -/
theorem Partition.requestedFilesystem_kind_iff (hdefault : defaultKind ≠ kind) :
    (requestedFilesystem request defaultKind).kind = kind ↔ request.kind = some kind := by
  refine ⟨fun hkind => ?_, requestedFilesystem_kind⟩
  cases hrequested : request.kind with
  | none =>
    have hother : (requestedFilesystem request defaultKind).kind = defaultKind :=
      congrArg (Option.getD · defaultKind) hrequested
    exact absurd (hother.symm.trans hkind) hdefault
  | some asked => rw [← hkind, requestedFilesystem_kind hrequested]

end RequestedKind

theorem Partition.isPlain_plain (request : FilesystemRequest) (defaultKind : FilesystemType)
    (architecture : Architecture) : (Partition.plain request defaultKind architecture).IsPlain := by
  intro payload hpayload
  obtain ⟨system, hsystem, -⟩ := plain_payload request defaultKind architecture
  exact ⟨system, Option.some.inj (hpayload.symm.trans hsystem)⟩

/-- The partitions behind the plain ones are those of the container, or of the root. -/
theorem containerPartitions_result (request : PartitioningRequest) (options : CustomOptions) :
    (containerPartitions request options).result =
      match request.volumeGroups, request.btrfsVolumes with
      | group :: _, _ => do
        let volumes ← volumeGroup options (request.mountpoints.contains Path.root) group
        return [Partition.new group.minSize .lvm (some (.volumeGroup volumes))]
      | [], requested :: _ => do
        let volume ← btrfs (request.mountpoints.contains Path.root) requested
        return [Partition.new requested.minSize .linuxGeneric (some (.btrfs volume))]
      | [], [] => .ok (if request.mountpoints.contains Path.root then [] else
          [Partition.plain (.new Path.root Size.defaultRoot) options.defaultFilesystem
            options.platform.architecture]) := by
  unfold containerPartitions
  cases request.volumeGroups with
  | cons group others => simp [pure, Except.pure]
  | nil =>
    cases request.btrfsVolumes with
    | cons requested others => simp [pure, Except.pure]
    | nil => cases request.mountpoints.contains Path.root <;> rfl

/-- The partition of the container holds the requested volume group, the requested btrfs volume,
or, where neither is requested, at most the root. -/
theorem containerPartitions_cases {request : PartitioningRequest} {options : CustomOptions}
    {container : List Partition}
    (h : (containerPartitions request options).result = .ok container) :
    (∃ group others volumes, request.volumeGroups = group :: others ∧
        volumeGroup options (request.mountpoints.contains Path.root) group = .ok volumes ∧
        container = [.new group.minSize .lvm (some (.volumeGroup volumes))]) ∨
      (request.volumeGroups = [] ∧ ∃ requested others volume,
        request.btrfsVolumes = requested :: others ∧
        btrfs (request.mountpoints.contains Path.root) requested = .ok volume ∧
        container = [.new requested.minSize .linuxGeneric (some (.btrfs volume))]) ∨
      (request.volumeGroups = [] ∧ request.btrfsVolumes = [] ∧
        container = if request.mountpoints.contains Path.root then [] else
          [Partition.plain (.new Path.root Size.defaultRoot) options.defaultFilesystem
            options.platform.architecture]) := by
  rw [containerPartitions_result] at h
  cases hgroups : request.volumeGroups with
  | cons group others =>
    rw [hgroups] at h
    obtain ⟨volumes, hvolumes, h⟩ := bind_eq_ok.1 h
    exact .inl ⟨group, others, volumes, rfl, hvolumes, (Except.ok.inj h).symm⟩
  | nil =>
    cases hbtrfs : request.btrfsVolumes with
    | cons requested others =>
      rw [hgroups, hbtrfs] at h
      obtain ⟨volume, hvolume, h⟩ := bind_eq_ok.1 h
      exact .inr (.inl ⟨rfl, requested, others, volume, rfl, hvolume, (Except.ok.inj h).symm⟩)
    | nil =>
      rw [hgroups, hbtrfs] at h
      exact .inr (.inr ⟨rfl, rfl, (Except.ok.inj h).symm⟩)

/-- What holds of every partition that may stand behind the plain ones holds of the one that
does. -/
theorem forall_mem_container {request : PartitioningRequest} {options : CustomOptions}
    {container : List Partition} {property : Partition → Prop}
    (h : (containerPartitions request options).result = .ok container)
    (hgroup : ∀ group ∈ request.volumeGroups, ∀ volumes,
      volumeGroup options (request.mountpoints.contains Path.root) group = .ok volumes →
      property (.new group.minSize .lvm (some (.volumeGroup volumes))))
    (hbtrfs : ∀ requested ∈ request.btrfsVolumes, ∀ volume,
      btrfs (request.mountpoints.contains Path.root) requested = .ok volume →
      property (.new requested.minSize .linuxGeneric (some (.btrfs volume))))
    (hroot : property (Partition.plain (.new Path.root Size.defaultRoot)
      options.defaultFilesystem options.platform.architecture)) :
    ∀ partition ∈ container, property partition := by
  rcases containerPartitions_cases h with
    ⟨group, others, volumes, hgroups, hvolumes, rfl⟩ |
    ⟨-, requested, others, volume, hrequested, hvolume, rfl⟩ | ⟨-, -, rfl⟩
  · exact List.forall_mem_singleton.2 (hgroup group (hgroups ▸ List.mem_cons_self) _ hvolumes)
  · exact List.forall_mem_singleton.2
      (hbtrfs requested (hrequested ▸ List.mem_cons_self) _ hvolume)
  · split
    · exact fun _ hmem => absurd hmem List.not_mem_nil
    · exact List.forall_mem_singleton.2 hroot

/-- Whether two partitions have the same size, type and payload. -/
structure Partition.SameContents (old new : Partition) : Prop where
  size : new.size = old.size
  kind : new.kind = old.kind
  payload : new.payload = old.payload

theorem forall₂_modify {α : Type} {related : α → α → Prop} (hrefl : ∀ item, related item item)
    {change : α → α} (hchange : ∀ item, related item (change item)) (items : List α)
    (index : Nat) : List.Forall₂ related items (items.modify index change) := by
  induction items generalizing index with
  | nil => cases index <;> exact .nil
  | cons first others ih =>
    cases index with
    | zero => exact .cons (hchange first) (List.forall₂_same.2 fun item _ => hrefl item)
    | succ index => exact .cons (hrefl first) (ih index)

/-- Marking a partition bootable changes no contents. -/
theorem markBootable_sameContents (options : CustomOptions) (table : PartitionTable) :
    List.Forall₂ Partition.SameContents table.partitions
      (markBootable options table).partitions := by
  have hrefl : List.Forall₂ Partition.SameContents table.partitions table.partitions :=
    List.forall₂_same.2 fun _ _ => ⟨rfl, rfl, rfl⟩
  unfold markBootable
  split
  · split
    · exact forall₂_modify (fun _ => ⟨rfl, rfl, rfl⟩) (fun _ => ⟨rfl, rfl, rfl⟩) _ _
    · exact hrefl
  · exact hrefl

theorem markBootable_mountpoints (options : CustomOptions) (table : PartitionTable) :
    (markBootable options table).mountpoints = table.mountpoints := by
  rw [PartitionTable.mountpoints_eq, PartitionTable.mountpoints_eq, List.flatMap_def,
    List.flatMap_def]
  congr 1
  refine map_eq_of_forall₂ (fun old new hcontents => ?_) (markBootable_sameContents options table)
  rw [Partition.mountpoints, hcontents.payload]
  rfl

theorem markBootable_kind (options : CustomOptions) (table : PartitionTable) :
    (markBootable options table).kind = table.kind := by
  unfold markBootable
  split
  · split <;> rfl
  · rfl

/-- The partitions of a request before the container. -/
def plainPartitions (request : PartitioningRequest) (options : CustomOptions) : List Partition :=
  bootPartitions options request.mountpoints ++
    request.plainFilesystems.map (fun filesystem =>
      Partition.plain filesystem options.defaultFilesystem options.platform.architecture) ++
    separateBoot request options

/-- What holds of everything that may stand before the container holds of all plain partitions. -/
theorem forall_mem_plainPartitions {request : PartitioningRequest} {options : CustomOptions}
    {property : Partition → Prop} (hbios : property Partition.biosBoot)
    (hesp : property (Partition.esp 0))
    (hplain : ∀ filesystem ∈ request.plainFilesystems, property
      (Partition.plain filesystem options.defaultFilesystem options.platform.architecture))
    (hboot : property (Partition.boot options.defaultFilesystem)) :
    ∀ partition ∈ plainPartitions request options, property partition := by
  have hoptional {needed : Prop} [Decidable needed] {item : Partition} (hitem : property item) :
      ∀ partition ∈ if needed then [item] else [], property partition := by
    intro partition hmem
    split at hmem
    · exact List.mem_singleton.1 hmem ▸ hitem
    · cases hmem
  refine List.forall_mem_append.2 ⟨List.forall_mem_append.2 ⟨?_, ?_⟩, hoptional hboot⟩
  · exact List.forall_mem_append.2 ⟨hoptional hbios, hoptional hesp⟩
  · intro partition hmem
    obtain ⟨filesystem, hfilesystem, rfl⟩ := List.mem_map.1 hmem
    exact hplain filesystem hfilesystem

theorem isPlain_of_mem_plainPartitions {request : PartitioningRequest} {options : CustomOptions}
    {partition : Partition} (h : partition ∈ plainPartitions request options) :
    partition.IsPlain := by
  have hbios : Partition.biosBoot.IsPlain := fun payload hpayload => by cases hpayload
  have hesp : (Partition.esp 0).IsPlain := fun payload hpayload =>
    ⟨_, (Option.some.inj hpayload).symm⟩
  exact forall_mem_plainPartitions hbios hesp (fun _ _ => Partition.isPlain_plain _ _ _)
    (Partition.isPlain_plain _ _ _) partition h

/-- The table of a request before a partition is marked bootable, given that of the container. -/
def unmarkedTable (request : PartitioningRequest) (options : CustomOptions)
    (container : List Partition) : PartitionTable :=
  { PartitionTable.empty options.tableKind with
    partitions := plainPartitions request options ++ container }

/-- A table is assembled exactly for requests that pass and whose container can be laid out. -/
theorem assembleCustom_eq_ok_iff {request : PartitioningRequest} {options : CustomOptions}
    {table : PartitionTable} :
    (assembleCustom request options).result = .ok table ↔
      request.validate = .ok () ∧
        ∃ container, (containerPartitions request options).result = .ok container ∧
          table = markBootable options (unmarkedTable request options container) := by
  unfold assembleCustom
  simp only [Logged.result_bind, Logged.result_lift, bind_eq_ok, Logged.result_pure,
    Except.ok.injEq]
  constructor
  · rintro ⟨_, hvalid, container, hcontainer, rfl⟩
    exact ⟨hvalid, container, hcontainer, rfl⟩
  · rintro ⟨hvalid, container, hcontainer, rfl⟩
    exact ⟨(), hvalid, container, hcontainer, rfl⟩

/-- An assembled table has the plain partitions of the request and that of the container. -/
theorem assembleCustom_eq_ok {request : PartitioningRequest} {options : CustomOptions}
    {table : PartitionTable} (h : (assembleCustom request options).result = .ok table) :
    request.validate = .ok () ∧
      ∃ container, (containerPartitions request options).result = .ok container ∧
        List.Forall₂ Partition.SameContents (plainPartitions request options ++ container)
          table.partitions := by
  obtain ⟨hvalid, container, hcontainer, rfl⟩ := assembleCustom_eq_ok_iff.1 h
  have hsame := markBootable_sameContents options (unmarkedTable request options container)
  exact ⟨hvalid, container, hcontainer, hsame⟩

/-- What holds of everything that may be described, and is a matter of contents, holds of every
partition of an assembled table. -/
theorem forall_mem_customAssembled {request : PartitioningRequest} {options : CustomOptions}
    {table : PartitionTable} {property : Partition → Prop}
    (h : (assembleCustom request options).result = .ok table)
    (hcontents : ∀ old new, Partition.SameContents old new → property old → property new)
    (hplain : ∀ partition ∈ plainPartitions request options, property partition)
    (hgroup : ∀ group ∈ request.volumeGroups, ∀ volumes,
      volumeGroup options (request.mountpoints.contains Path.root) group = .ok volumes →
      property (.new group.minSize .lvm (some (.volumeGroup volumes))))
    (hbtrfs : ∀ requested ∈ request.btrfsVolumes, ∀ volume,
      btrfs (request.mountpoints.contains Path.root) requested = .ok volume →
      property (.new requested.minSize .linuxGeneric (some (.btrfs volume))))
    (hroot : property (Partition.plain (.new Path.root Size.defaultRoot)
      options.defaultFilesystem options.platform.architecture)) :
    ∀ partition ∈ table.partitions, property partition := by
  obtain ⟨-, container, hcontainer, hsame⟩ := assembleCustom_eq_ok h
  exact forall_mem_transport hsame hcontents (List.forall_mem_append.2
    ⟨hplain, forall_mem_container hcontainer hgroup hbtrfs hroot⟩)

/-! ### What is mounted -/

theorem Partition.mountpoints_plain (request : FilesystemRequest) (defaultKind : FilesystemType)
    (architecture : Architecture) :
    (Partition.plain request defaultKind architecture).mountpoints = [request.mountpoint] := by
  obtain ⟨system, hpayload, hmounted, -⟩ := plain_payload request defaultKind architecture
  rw [mountpoints_of_filesystem hpayload, hmounted]

theorem Partition.mountpoints_boot (defaultKind : FilesystemType) :
    (Partition.boot defaultKind).mountpoints = [Path.boot] := by
  obtain ⟨system, hpayload, hmounted, -⟩ := boot_payload defaultKind
  rw [mountpoints_of_filesystem hpayload, hmounted]

theorem Partition.mountpoints_esp (size : Nat) : (Partition.esp size).mountpoints = [Path.esp] := by
  rw [mountpoints_of_filesystem rfl]
  rfl

namespace PartitioningRequest

/-- Whether a volume group or a btrfs volume is requested. -/
def HasContainer (request : PartitioningRequest) : Prop :=
  request.volumeGroups ≠ [] ∨ request.btrfsVolumes ≠ []

instance (request : PartitioningRequest) : Decidable request.HasContainer :=
  inferInstanceAs (Decidable (_ ∨ _))

end PartitioningRequest

/-- What is mounted although nothing requests it: what booting calls for, and the root. -/
def addedMountpoints (request : PartitioningRequest) (options : CustomOptions) : List String :=
  (if options.platform.bootsUefi ∧ Path.esp ∉ request.mountpoints then [Path.esp] else []) ++
    (if request.HasContainer ∧ Path.boot ∉ request.mountpoints then [Path.boot] else []) ++
    if Path.root ∈ request.mountpoints then [] else [Path.root]

section Mounted

variable {request : PartitioningRequest} {options : CustomOptions} {container : List Partition}

theorem bootPartitions_eq (options : CustomOptions) (requested : List String) :
    bootPartitions options requested =
      (if options.platform.bootMode.isLegacy = true ∧ options.tableKind = .gpt then
        [Partition.biosBoot] else []) ++
        if options.platform.bootsUefi = true ∧ Path.esp ∉ requested then [Partition.esp 0]
          else [] := by
  simp [bootPartitions]

theorem separateBoot_eq (request : PartitioningRequest) (options : CustomOptions) :
    separateBoot request options =
      if request.HasContainer ∧ Path.boot ∉ request.mountpoints then
        [Partition.boot options.defaultFilesystem] else [] :=
  if_congr (by simp [PartitioningRequest.HasContainer]) rfl rfl

theorem bootPartitions_mountpoints (options : CustomOptions) (requested : List String) :
    (bootPartitions options requested).flatMap Partition.mountpoints =
      if options.platform.bootsUefi ∧ Path.esp ∉ requested then [Path.esp] else [] := by
  have hbios : (if options.platform.bootMode.isLegacy = true ∧ options.tableKind = .gpt then
      [Partition.biosBoot] else []).flatMap Partition.mountpoints = [] := by
    split <;> rfl
  rw [bootPartitions_eq, List.flatMap_append, hbios, List.nil_append]
  split
  · rw [List.flatMap_singleton, Partition.mountpoints_esp]
  · rfl

theorem separateBoot_mountpoints (request : PartitioningRequest) (options : CustomOptions) :
    (separateBoot request options).flatMap Partition.mountpoints =
      if request.HasContainer ∧ Path.boot ∉ request.mountpoints then [Path.boot] else [] := by
  rw [separateBoot_eq]
  split
  · rw [List.flatMap_singleton, Partition.mountpoints_boot]
  · rfl

theorem plainFilesystems_mountpoints (request : PartitioningRequest) (options : CustomOptions) :
    (request.plainFilesystems.map fun filesystem => Partition.plain filesystem
        options.defaultFilesystem options.platform.architecture).flatMap Partition.mountpoints =
      request.plainMountpoints := by
  simp only [List.flatMap_map, Partition.mountpoints_plain]
  exact List.map_eq_flatMap.symm

/-- Behind the plain partitions, a table mounts what is requested in containers, and the root unless
it is requested somewhere. -/
theorem containerPartitions_mountpoints (hsound : request.Sound)
    (h : (containerPartitions request options).result = .ok container) :
    container.flatMap Partition.mountpoints =
      request.logicalMountpoints ++ request.subvolumeMountpoints ++
        if Path.root ∈ request.mountpoints then [] else [Path.root] := by
  have hsingle (device : Partition) :
      [device].flatMap Partition.mountpoints = device.mountpoints := List.flatMap_singleton ..
  rcases containerPartitions_cases h with
    ⟨group, others, volumes, hgroups, hvolumes, rfl⟩ |
    ⟨hgroups, requested, others, volume, hbtrfs, hvolume, rfl⟩ | ⟨hgroups, hbtrfs, rfl⟩
  · obtain rfl := hsound.eq_nil_of_volumeGroups hgroups
    have hnone := hsound.btrfsVolumes_eq_nil (by rw [hgroups]; exact List.cons_ne_nil _ _)
    have hmounted := volumeGroup_mountpoints hvolumes
    simp [Partition.mountpoints, Partition.new, hmounted, PartitioningRequest.logicalMountpoints,
      PartitioningRequest.subvolumeMountpoints, PartitioningRequest.logicalVolumes, hgroups, hnone]
  · obtain rfl := hsound.eq_nil_of_btrfsVolumes hbtrfs
    have hmounted := btrfs_mountpoints hvolume
    simp [Partition.mountpoints, Partition.new, hmounted, PartitioningRequest.logicalMountpoints,
      PartitioningRequest.subvolumeMountpoints, PartitioningRequest.logicalVolumes, hgroups, hbtrfs]
  · simp only [PartitioningRequest.logicalMountpoints, PartitioningRequest.subvolumeMountpoints,
      PartitioningRequest.logicalVolumes, hgroups, hbtrfs]
    simp only [List.contains_eq_mem, decide_eq_true_eq]
    split
    · rfl
    · rw [hsingle, Partition.mountpoints_plain]
      rfl

/-- An assembled table mounts what is requested and what is added. -/
theorem unmarkedTable_mountpoints (hsound : request.Sound)
    (h : (containerPartitions request options).result = .ok container) :
    (unmarkedTable request options container).mountpoints.Perm
      (request.mountpoints ++ addedMountpoints request options) := by
  rw [PartitionTable.mountpoints_eq, unmarkedTable, plainPartitions, List.flatMap_append,
    List.flatMap_append, List.flatMap_append, bootPartitions_mountpoints,
    plainFilesystems_mountpoints, separateBoot_mountpoints,
    containerPartitions_mountpoints hsound h, addedMountpoints]
  -- The two lists have the same parts, in another order.
  refine List.perm_iff_count.2 fun mountpoint => ?_
  have hrequested : request.mountpoints.count mountpoint =
      request.plainMountpoints.count mountpoint + request.logicalMountpoints.count mountpoint +
        request.subvolumeMountpoints.count mountpoint := by
    rw [PartitioningRequest.mountpoints, List.count_append, List.count_append]
  simp only [List.count_append, hrequested]
  omega

theorem mem_addedMountpoints {mountpoint : String} :
    mountpoint ∈ request.mountpoints ++ addedMountpoints request options ↔
      mountpoint ∈ request.mountpoints ∨ mountpoint = Path.root ∨
        (options.platform.bootsUefi = true ∧ mountpoint = Path.esp) ∨
        (request.HasContainer ∧ mountpoint = Path.boot) := by
  simp only [addedMountpoints, List.mem_append]
  grind

/-- Nothing is added that is requested already. -/
theorem nodup_addedMountpoints (hsound : request.Sound) :
    (request.mountpoints ++ addedMountpoints request options).Nodup := by
  have hboot : Path.boot ≠ Path.esp := by decide
  have hroot : Path.root ≠ Path.esp := by decide
  have hroot' : Path.root ≠ Path.boot := by decide
  have hdistinct := hsound.mountpoints_distinct
  simp only [addedMountpoints, List.nodup_append, List.mem_append]
  grind

end Mounted

/-! ### What the partitions hold -/

/-- A property holds of all nodes of a volume group that holds filesystems and nothing else if it
holds of the group, its volumes and all filesystems. -/
theorem Payload.all_volumeGroup_of_systems {property : Node → Prop} {group : VolumeGroup}
    (hsystems : ∀ volume ∈ group.logicalVolumes, ∃ system,
      volume.payload = some (.filesystem system)) (hgroup : property (.volumeGroup group))
    (hvolume : ∀ volume ∈ group.logicalVolumes, property (.logicalVolume volume))
    (hsystem : ∀ system, property (.filesystem system)) :
    (Payload.volumeGroup group).All property := by
  refine Payload.all_volumeGroup.2 ⟨hgroup, fun volume hmem => ⟨hvolume volume hmem, ?_⟩⟩
  intro payload hpayload
  obtain ⟨system, hheld⟩ := hsystems volume hmem
  obtain rfl := Option.some.inj (hheld.symm.trans hpayload)
  exact Payload.all_filesystem.2 (hsystem system)

theorem Partition.IsPlain.unnested {partition : Partition} (h : partition.IsPlain) :
    partition.Unnested := by
  intro payload hpayload
  obtain ⟨system, rfl⟩ := h payload hpayload
  exact Payload.all_filesystem.2 trivial

theorem Partition.IsPlain.group?_eq_none {partition : Partition} (h : partition.IsPlain) :
    partition.group? = none := by
  cases hpayload : partition.payload with
  | none => simp [Partition.group?, Partition.content?, hpayload]
  | some payload =>
    obtain ⟨system, rfl⟩ := h payload hpayload
    exact Partition.group?_eq (Partition.content?_of_filesystem hpayload)

theorem Partition.IsPlain.btrfs?_eq_none {partition : Partition} (h : partition.IsPlain) :
    partition.btrfs? = none := by
  cases hpayload : partition.payload with
  | none => simp [Partition.btrfs?, Partition.content?, hpayload]
  | some payload =>
    obtain ⟨system, rfl⟩ := h payload hpayload
    exact Partition.btrfs?_eq (Partition.content?_of_filesystem hpayload)

section Assembled

variable {request : PartitioningRequest} {options : CustomOptions} {table : PartitionTable}

/-- A table that is laid out from a request has no encrypted containers. -/
theorem customAssembled_unnested (h : (assembleCustom request options).result = .ok table) :
    table.Unnested := by
  refine PartitionTable.unnested_iff.2 (forall_mem_customAssembled h ?_ ?_ ?_ ?_ ?_)
  · intro old new hcontents hold
    rw [Partition.Unnested, hcontents.payload]
    exact hold
  · exact fun partition hmem => (isPlain_of_mem_plainPartitions hmem).unnested
  · intro group _ volumes hvolumes payload hpayload
    obtain rfl := Option.some.inj hpayload
    exact Payload.all_volumeGroup_of_systems (volumeGroup_filesystems hvolumes) trivial
      (fun _ _ => trivial) fun _ => trivial
  · intro requested _ volume _ payload hpayload
    obtain rfl := Option.some.inj hpayload
    exact Payload.all_btrfs.2 ⟨trivial, fun _ _ => trivial⟩
  · exact (Partition.isPlain_plain _ _ _).unnested

/-- An assembled table mounts what is requested and what is added. -/
theorem customAssembled_mountpoints (h : (assembleCustom request options).result = .ok table) :
    table.mountpoints.Perm (request.mountpoints ++ addedMountpoints request options) := by
  obtain ⟨hvalid, container, hcontainer, rfl⟩ := assembleCustom_eq_ok_iff.1 h
  rw [markBootable_mountpoints]
  exact unmarkedTable_mountpoints (PartitioningRequest.validate_eq_ok.1 hvalid) hcontainer

/-- Everything in a request that has a minimum is mounted. -/
theorem customAssembled_mounted (h : (assembleCustom request options).result = .ok table)
    {sized : FilesystemRequest} (hsized : sized ∈ request.sizedRequests) :
    sized.mountpoint ∈ table.mountpoints := by
  have hrequested : sized.mountpoint ∈ request.mountpoints := by
    refine List.mem_append_left _ ?_
    rcases List.mem_append.1 hsized with hplain | hlogical
    · exact List.mem_append_left _ (List.mem_map_of_mem hplain)
    · obtain ⟨volume, hvolume, rfl⟩ := List.mem_map.1 hlogical
      exact List.mem_append_right _ (List.mem_map_of_mem hvolume)
  exact (customAssembled_mountpoints h).mem_iff.2 (List.mem_append_left _ hrequested)

/-- Every requested volume group is laid out in a partition of an assembled table. -/
theorem customAssembled_group (h : (assembleCustom request options).result = .ok table)
    {group : VolumeGroupRequest} (hgroup : group ∈ request.volumeGroups) :
    ∃ partition ∈ table.partitions, ∃ volumes, partition.payload = some (.volumeGroup volumes) ∧
      volumeGroup options (request.mountpoints.contains Path.root) group = .ok volumes := by
  obtain ⟨hvalid, container, hcontainer, hsame⟩ := assembleCustom_eq_ok h
  rcases containerPartitions_cases hcontainer with
    ⟨first, others, volumes, hgroups, hvolumes, rfl⟩ | ⟨hgroups, -⟩ | ⟨hgroups, -⟩
  · obtain rfl := (PartitioningRequest.validate_eq_ok.1 hvalid).eq_nil_of_volumeGroups hgroups
    rw [hgroups, List.mem_singleton] at hgroup
    subst hgroup
    obtain ⟨partition, hmem, hcontents⟩ :=
      exists_of_forall₂ hsame (List.mem_append_right _ List.mem_cons_self)
    exact ⟨partition, hmem, volumes, hcontents.payload, hvolumes⟩
  all_goals
    rw [hgroups] at hgroup
    cases hgroup

/-- Every requested logical volume is described in a volume group of an assembled table. -/
theorem customAssembled_logicalVolume (h : (assembleCustom request options).result = .ok table)
    {asked : LogicalVolumeRequest} (hasked : asked ∈ request.logicalVolumes) :
    ∃ partition ∈ table.partitions, ∃ group, partition.payload = some (.volumeGroup group) ∧
      ∃ volume ∈ group.logicalVolumes, asked.Describes options.defaultFilesystem volume := by
  obtain ⟨group, hgroup, hasked⟩ := List.mem_flatMap.1 hasked
  obtain ⟨partition, hmem, volumes, hpayload, hvolumes⟩ := customAssembled_group h hgroup
  obtain ⟨-, described, root, hsplit, hanswered, -⟩ := volumeGroup_eq_ok hvolumes
  obtain ⟨volume, hvolume, hdescribes⟩ := exists_of_forall₂ hanswered hasked
  refine ⟨partition, hmem, volumes, hpayload, volume, ?_, hdescribes⟩
  rw [hsplit]
  exact List.mem_append_left _ hvolume

/-- The one partition behind plain ones that holds a container is found at its place. -/
theorem findIdx?_container {plain : List Partition} {device : Partition} {holds : Partition → Bool}
    (hsame : List.Forall₂ Partition.SameContents (plain ++ [device]) table.partitions)
    (hplain : ∀ partition ∈ plain, holds partition = false) (hdevice : holds device = true)
    (hholds : ∀ old new, Partition.SameContents old new → holds new = holds old) :
    ∃ index new, table.partitions.findIdx? holds = some index ∧
      table.partitions[index]? = some new ∧ new.size = device.size := by
  obtain ⟨new, hnew, hcontents⟩ := getElem?_of_forall₂ hsame
    (List.getElem?_concat_length : (plain ++ [device])[plain.length]? = some device)
  refine ⟨plain.length, new, ?_, hnew, hcontents.size⟩
  rw [findIdx?_eq_of_forall₂ hholds hsame, List.findIdx?_append,
    List.findIdx?_eq_none_iff.2 hplain]
  simp [hdevice]

theorem Partition.SameContents.content?_eq {old new : Partition} (h : old.SameContents new) :
    new.content? = old.content? := by
  rw [Partition.content?, h.payload]
  rfl

/-- The partition of a requested volume group has the requested size. -/
theorem customAssembled_volumeGroup (h : (assembleCustom request options).result = .ok table)
    {group : VolumeGroupRequest} (hgroup : group ∈ request.volumeGroups) :
    ∃ index device, table.volumeGroupIndex? = some index ∧
      table.partitions[index]? = some device ∧ device.size = group.minSize := by
  obtain ⟨hvalid, container, hcontainer, hsame⟩ := assembleCustom_eq_ok h
  rcases containerPartitions_cases hcontainer with
    ⟨first, others, volumes, hgroups, -, rfl⟩ | ⟨hnone, -⟩ | ⟨hnone, -⟩
  · obtain rfl := (PartitioningRequest.validate_eq_ok.1 hvalid).eq_nil_of_volumeGroups hgroups
    rw [hgroups, List.mem_singleton] at hgroup
    subst hgroup
    rw [PartitionTable.volumeGroupIndex?_eq]
    refine findIdx?_container hsame (fun partition hmem => ?_) rfl fun old new hcontents => ?_
    · rw [(isPlain_of_mem_plainPartitions hmem).group?_eq_none]
      rfl
    · rw [Partition.group?, hcontents.content?_eq]
      rfl
  · rw [hnone] at hgroup
    cases hgroup
  · rw [hnone] at hgroup
    cases hgroup

/-- The partition of a requested btrfs volume has the requested size. -/
theorem customAssembled_btrfs (h : (assembleCustom request options).result = .ok table)
    {volume : BtrfsRequest} (hvolume : volume ∈ request.btrfsVolumes) :
    ∃ index device, table.btrfsIndex? = some index ∧
      table.partitions[index]? = some device ∧ device.size = volume.minSize := by
  obtain ⟨hvalid, container, hcontainer, hsame⟩ := assembleCustom_eq_ok h
  have hsound := PartitioningRequest.validate_eq_ok.1 hvalid
  rcases containerPartitions_cases hcontainer with
    ⟨first, others, _, hgroups, -⟩ | ⟨-, first, others, _, hvolumes, -, rfl⟩ | ⟨-, hnone, -⟩
  · rw [hsound.volumeGroups_eq_nil (List.ne_nil_of_mem hvolume)] at hgroups
    cases hgroups
  · obtain rfl := hsound.eq_nil_of_btrfsVolumes hvolumes
    rw [hvolumes, List.mem_singleton] at hvolume
    subst hvolume
    rw [PartitionTable.btrfsIndex?_eq]
    refine findIdx?_container hsame (fun partition hmem => ?_) rfl fun old new hcontents => ?_
    · rw [(isPlain_of_mem_plainPartitions hmem).btrfs?_eq_none]
      rfl
    · rw [Partition.btrfs?, hcontents.content?_eq]
      rfl
  · rw [hnone] at hvolume
    cases hvolume

end Assembled

end DiskLayout
