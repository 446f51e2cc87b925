import DiskLayout.Proofs.Allocation.Assembly
import DiskLayout.Proofs.Allocation.TotalSize
import DiskLayout.Proofs.Customization.Checks
import DiskLayout.Proofs.Table.Filesystems

/-!
# The requested filesystems of built tables

Every edit of assembly puts in the filesystem that a request asks for, in a partition or a logical
volume, and keeps those at other paths.  A request is passed over only if its mountpoint is there
already, which of the new ones can happen to `/boot` alone: a conversion adds it first, with a type
and a label of its own.  Every other new filesystem has the type and the label that are asked for.

## Main definitions

* `Place.added` — the filesystems that an edit puts in

## Main results

* `PartitionTable.Adds.filesystemsAt`, `PartitionTable.MovesRoot.filesystemsAt_eq` — the edits of
  assembly
* `PartitionTable.addMountpoints_keeps`, `PartitionTable.addMountpoints_adds` — adding mountpoints
* `built_filesystemsAt` — the filesystem of a built table for a new request
-/

namespace DiskLayout

open DiskLayout.Partition (requestedFilesystem bootFilesystem)

variable {mountpoint : String}

/-! ### New filesystems -/

theorem Partition.filesystemsAt_plain {request : FilesystemRequest}
    (hesp : request.mountpoint ≠ Path.esp) (defaultKind : FilesystemType)
    (architecture : Architecture) :
    (Partition.plain request defaultKind architecture).filesystemsAt request.mountpoint =
      [requestedFilesystem request defaultKind] := by
  have hpayload : (Partition.plain request defaultKind architecture).payload =
      some (.filesystem (requestedFilesystem request defaultKind)) := by
    rw [plain, if_neg hesp]
    rfl
  rw [filesystemsAt_of_payload hpayload, Payload.filesystemsAt_filesystem]
  exact if_pos rfl

/-- An added boot partition has one filesystem at `/boot`, of a type that boot loaders read. -/
theorem Partition.filesystemsAt_boot (defaultKind : FilesystemType) :
    ∃ system, (Partition.boot defaultKind).filesystemsAt Path.boot = [system] ∧
      system.kind = bootFilesystem defaultKind ∧ system.label = none := by
  let request : FilesystemRequest :=
    ⟨Path.boot, Size.bootPartition, none, some (bootFilesystem defaultKind)⟩
  have hesp : request.mountpoint ≠ Path.esp := (by decide : Path.boot ≠ Path.esp)
  exact ⟨_, filesystemsAt_plain hesp (bootFilesystem defaultKind) .amd64, rfl, rfl⟩

/-- The filesystems that an edit for a request puts in at a path. -/
def Place.added (options : BuildOptions) (request : FilesystemRequest) (mountpoint : String) :
    Place → List Filesystem
  | .partition =>
    (Partition.plain request options.defaultFilesystem options.architecture).filesystemsAt
      mountpoint
  | .logicalVolume =>
    (Payload.filesystem (requestedFilesystem request options.defaultFilesystem)).filesystemsAt
      mountpoint
  | .subvolume => []

theorem Place.added_of_ne {options : BuildOptions} {request : FilesystemRequest}
    (h : request.mountpoint ≠ mountpoint) (place : Place) :
    place.added options request mountpoint = [] := by
  cases place with
  | partition =>
    obtain ⟨system, hpayload, hmounted, -⟩ := Partition.plain_payload request
      options.defaultFilesystem options.architecture
    rw [added, Partition.filesystemsAt_of_payload hpayload, Payload.filesystemsAt_filesystem,
      hmounted, if_neg h]
  | logicalVolume =>
    rw [added, Payload.filesystemsAt_filesystem]
    exact if_neg h
  | subvolume => rfl

theorem Place.added_self {options : BuildOptions} {request : FilesystemRequest}
    (hesp : request.mountpoint ≠ Path.esp) {place : Place} (hplace : place ≠ .subvolume) :
    place.added options request request.mountpoint =
      [requestedFilesystem request options.defaultFilesystem] := by
  cases place with
  | partition => exact Partition.filesystemsAt_plain hesp _ _
  | logicalVolume =>
    rw [added, Payload.filesystemsAt_filesystem]
    exact if_pos rfl
  | subvolume => exact absurd rfl hplace

namespace PartitionTable

variable {options : BuildOptions} {request : FilesystemRequest} {place : Place}
  {table result : PartitionTable}

/-! ### Edits -/

theorem inserts_addBeforeRoot (mountpoint : String) (table : PartitionTable) (new : Partition) :
    Inserts (new.filesystemsAt mountpoint) (table.filesystemsAt mountpoint)
      ((table.addBeforeRoot new).filesystemsAt mountpoint) := by
  obtain ⟨before, after, hsplit, hresult, -⟩ := table.addBeforeRoot_split new
  refine ⟨before.flatMap (Partition.filesystemsAt mountpoint),
    after.flatMap (Partition.filesystemsAt mountpoint), ?_, ?_⟩
  · rw [filesystemsAt_eq, hsplit, List.flatMap_append]
  · rw [hresult, filesystemsAt_split rfl]

/-- A change of one partition changes its filesystems only. -/
theorem inserts_replace {before after : List Partition} {old new : Partition}
    {added : List Filesystem} (hsplit : table.partitions = before ++ old :: after)
    (hnew : new.filesystemsAt mountpoint = old.filesystemsAt mountpoint ++ added) :
    Inserts added (table.filesystemsAt mountpoint)
      ((table.withPartitions (before ++ new :: after)).filesystemsAt mountpoint) := by
  refine ⟨before.flatMap (Partition.filesystemsAt mountpoint) ++ old.filesystemsAt mountpoint,
    after.flatMap (Partition.filesystemsAt mountpoint), ?_, ?_⟩
  · rw [filesystemsAt_split hsplit, List.append_assoc]
  · rw [filesystemsAt_split rfl, hnew]
    simp only [List.append_assoc]

/-- An edit for a request puts its filesystem in and keeps all others. -/
theorem Adds.filesystemsAt (h : Adds options request place table result) (mountpoint : String) :
    Inserts (place.added options request mountpoint) (table.filesystemsAt mountpoint)
      (result.filesystemsAt mountpoint) := by
  cases h with
  | partition => exact inserts_addBeforeRoot mountpoint table _
  | logicalVolume hsplit _ hcontent _ =>
    refine inserts_replace hsplit ?_
    rw [Partition.filesystemsAt_replace hcontent, Partition.filesystemsAt_of_content? hcontent]
    simp only [Payload.filesystemsAt_volumeGroup, VolumeGroup.append, List.flatMap_append,
      List.flatMap_singleton, Option.toList_some, Place.added]
  | subvolume hsplit _ hcontent _ =>
    refine inserts_replace hsplit ?_
    rw [Partition.filesystemsAt_replace hcontent, Partition.filesystemsAt_of_content? hcontent]
    simp only [Payload.filesystemsAt_btrfs, Place.added, List.append_nil]

theorem Adds.filesystemsAt_of_ne (h : Adds options request place table result)
    (hne : request.mountpoint ≠ mountpoint) :
    result.filesystemsAt mountpoint = table.filesystemsAt mountpoint := by
  have hinserts := h.filesystemsAt mountpoint
  rw [Place.added_of_ne hne] at hinserts
  exact hinserts.eq_of_nil

theorem Adds.filesystemsAt_self (h : Adds options request place table result)
    (hesp : request.mountpoint ≠ Path.esp) (hplace : place ≠ .subvolume)
    (hnew : request.mountpoint ∉ table.mountpoints) :
    result.filesystemsAt request.mountpoint =
      [requestedFilesystem request options.defaultFilesystem] := by
  have hinserts := h.filesystemsAt request.mountpoint
  rw [Place.added_self hesp hplace, filesystemsAt_eq_nil hnew] at hinserts
  exact hinserts.eq_added

/-- A conversion moves the root filesystem and no other. -/
theorem MovesRoot.filesystemsAt_eq (h : MovesRoot place table result)
    (hne : mountpoint ≠ Path.root) :
    result.filesystemsAt mountpoint = table.filesystemsAt mountpoint := by
  refine Inserts.eq_of_nil ?_
  cases h with
  | @volumeGroup _ before after holder system name hsplit hcontent _ _ =>
    refine inserts_replace hsplit ?_
    have hpayload := payload_toVolumeGroup (Conversion.rootGroup holder system name) holder
    rw [Partition.filesystemsAt, hpayload, ← Partition.filesystemsAt,
      Partition.filesystemsAt_replace hcontent, Partition.filesystemsAt_of_content? hcontent]
    simp [Conversion.rootGroup, VolumeGroup.append, VolumeGroup.empty]
  | btrfs hsplit hcontent hroot _ =>
    refine inserts_replace hsplit ?_
    rw [Partition.filesystemsAt_replace hcontent, Partition.filesystemsAt_of_content? hcontent,
      Payload.filesystemsAt_btrfs, Payload.filesystemsAt_filesystem, hroot, if_neg hne.symm]
    rfl

/-! ### Adding mountpoints -/

/-- What is mounted at a path stays when mountpoints are added. -/
theorem addMountpoints_keeps {requests : List FilesystemRequest}
    (htakes : ∀ request ∈ requests, table.Takes (options.mode.placeOf request.mountpoint))
    (hmounted : mountpoint ∈ table.mountpoints)
    (h : (table.addMountpoints options requests).result = .ok result) :
    result.filesystemsAt mountpoint = table.filesystemsAt mountpoint := by
  induction requests generalizing table with
  | nil =>
    obtain rfl := Except.ok.inj h
    rfl
  | cons request others ih =>
    obtain ⟨hrequest, hothers⟩ := List.forall_mem_cons.1 htakes
    unfold addMountpoints at h
    by_cases hfound : table.containsMountpoint request.mountpoint
    · rw [if_pos hfound] at h
      exact ih hothers hmounted h
    · rw [if_neg hfound, Logged.result_bind, bind_eq_ok] at h
      obtain ⟨middle, hmiddle, h⟩ := h
      have hedit := addMountpoint_adds hrequest hmiddle
      -- The path is mounted already, so the edit is for another one.
      have hne : request.mountpoint ≠ mountpoint := by
        rintro rfl
        exact hfound (List.contains_iff_mem.2 hmounted)
      rw [ih (fun other hother => hedit.mounts.takes (hothers other hother))
        (hedit.mounts.mem_mountpoints.2 (.inl hmounted)) h, hedit.filesystemsAt_of_ne hne]

/-- A request for a path at which nothing is mounted adds the filesystem that it asks for. -/
theorem addMountpoints_adds {requests : List FilesystemRequest}
    (htakes : ∀ request ∈ requests, table.Takes (options.mode.placeOf request.mountpoint))
    (hdistinct : (requests.map FilesystemRequest.mountpoint).Nodup)
    (h : (table.addMountpoints options requests).result = .ok result)
    (hmem : request ∈ requests) (hnew : request.mountpoint ∉ table.mountpoints)
    (hesp : request.mountpoint ≠ Path.esp)
    (hplace : options.mode.placeOf request.mountpoint ≠ .subvolume) :
    result.filesystemsAt request.mountpoint =
      [requestedFilesystem request options.defaultFilesystem] := by
  induction requests generalizing table with
  | nil => cases hmem
  | cons first others ih =>
    obtain ⟨hfirst, hothers⟩ := List.forall_mem_cons.1 htakes
    rw [List.map_cons, List.nodup_cons] at hdistinct
    unfold addMountpoints at h
    by_cases hfound : table.containsMountpoint first.mountpoint
    · rw [if_pos hfound] at h
      refine ih hothers hdistinct.2 h ((List.mem_cons.1 hmem).resolve_left ?_) hnew
      rintro rfl
      exact hnew (List.contains_iff_mem.1 hfound)
    · rw [if_neg hfound, Logged.result_bind, bind_eq_ok] at h
      obtain ⟨middle, hmiddle, h⟩ := h
      have hedit := addMountpoint_adds hfirst hmiddle
      have htakes' : ∀ other ∈ others, middle.Takes (options.mode.placeOf other.mountpoint) :=
        fun other hother => hedit.mounts.takes (hothers other hother)
      rcases List.mem_cons.1 hmem with rfl | hmem
      · -- The filesystem is put in first, and then its path is mounted.
        rw [addMountpoints_keeps htakes' (hedit.mounts.mem_mountpoints.2 (.inr rfl)) h]
        exact hedit.filesystemsAt_self hesp hplace hnew
      · have hne : request.mountpoint ≠ first.mountpoint := fun heq =>
          hdistinct.1 (List.mem_map.2 ⟨request, hmem, heq⟩)
        refine ih htakes' hdistinct.2 h hmem fun hmounted => ?_
        exact (hedit.mounts.mem_mountpoints.1 hmounted).elim hnew hne

/-! ### The prepared base -/

/-- Preparing a base mounts nothing new but `/boot`, and that with the filesystem of an added boot
partition, where the root filesystem is converted. -/
theorem prepare_filesystemsAt {contained : Bool} {base prepared : PartitionTable}
    (h : (base.prepare options contained).result = .ok prepared)
    (hnew : mountpoint ∉ base.mountpoints) :
    (¬(mountpoint = Path.boot ∧ options.mode.ConvertsRoot contained base) →
      mountpoint ∉ prepared.mountpoints) ∧
    (mountpoint = Path.boot ∧ options.mode.ConvertsRoot contained base →
      mountpoint ∈ prepared.mountpoints ∧
      ∃ system, prepared.filesystemsAt mountpoint = [system] ∧
        system.kind = bootFilesystem options.defaultFilesystem ∧ system.label = none) := by
  rcases prepare_moves h with ⟨hkept, rfl⟩ | ⟨hroot, booted, hbooted, hmoves⟩
  · exact ⟨fun _ => hnew, fun hconverts => absurd hconverts.2 hkept⟩
  · have hmem : mountpoint ∈ prepared.mountpoints ↔
        mountpoint ∈ base.mountpoints ∨ mountpoint = Path.boot :=
      hmoves.converts.mem_mountpoints.trans (ensureBoot_boots hbooted).mem_mountpoints
    constructor
    · intro hboot hmounted
      exact (hmem.1 hmounted).elim hnew fun heq => hboot ⟨heq, hroot⟩
    · rintro ⟨rfl, -⟩
      obtain ⟨system, hsystem, hadds⟩ := Partition.filesystemsAt_boot options.defaultFilesystem
      refine ⟨hmem.2 (.inr rfl), system, ?_, hadds⟩
      rw [hmoves.filesystemsAt_eq (by decide)]
      rcases ensureBoot_cases hbooted with ⟨hmounted, -⟩ | ⟨-, rfl⟩
      · exact absurd hmounted hnew
      · have hinserts := inserts_addBeforeRoot Path.boot base
          (Partition.boot options.defaultFilesystem)
        rw [filesystemsAt_eq_nil hnew] at hinserts
        rw [hinserts.eq_added, hsystem]

end PartitionTable

/-! ### The built table -/

section Built

variable {base : PartitionTable} {requests : List FilesystemRequest} {options : BuildOptions}
  {request : FilesystemRequest}

/-- Where the root filesystem is converted, an assembled table has exactly one filesystem at a new
`/boot`, that of an added boot partition. -/
theorem assembled_filesystemsAt_boot {table : PartitionTable} {minimums : Minimums}
    (h : (assemble base requests options).result = .ok (table, minimums))
    (hnew : Path.boot ∉ base.mountpoints)
    (hroot : options.mode.ConvertsRoot (anyContained base requests) base) :
    ∃ system, table.filesystemsAt Path.boot = [system] ∧
      system.kind = bootFilesystem options.defaultFilesystem ∧ system.label = none := by
  obtain ⟨-, -, prepared, hprepared, hadded⟩ := assemble_eq_added h
  obtain ⟨-, hbooted⟩ := PartitionTable.prepare_filesystemsAt hprepared hnew
  -- The conversion has added `/boot`, so that any request for it is passed over.
  obtain ⟨hmounted, system, hsystem, hadds⟩ := hbooted ⟨rfl, hroot⟩
  rw [← PartitionTable.addMountpoints_keeps (prepared_takes hprepared) hmounted hadded] at hsystem
  exact ⟨system, hsystem, hadds⟩

/-- An assembled table has exactly one filesystem at a new mountpoint that is not that of the EFI
system partition and does not lie in a btrfs volume. -/
theorem assembled_filesystemsAt {table : PartitionTable} {minimums : Minimums}
    (h : (assemble base requests options).result = .ok (table, minimums))
    (hrequest : request ∈ requests) (hnew : request.mountpoint ∉ base.mountpoints)
    (hesp : request.mountpoint ≠ Path.esp)
    (hplace : options.mode.placeOf request.mountpoint ≠ .subvolume) :
    ∃ system, table.filesystemsAt request.mountpoint = [system] ∧
      (¬(request.mountpoint = Path.boot ∧
          options.mode.ConvertsRoot (anyContained base requests) base) →
        system.kind = request.kind.getD options.defaultFilesystem ∧
        system.label = request.label) ∧
      (request.mountpoint = Path.boot ∧
          options.mode.ConvertsRoot (anyContained base requests) base →
        system.kind = bootFilesystem options.defaultFilesystem ∧ system.label = none) := by
  by_cases hboot : request.mountpoint = Path.boot ∧
      options.mode.ConvertsRoot (anyContained base requests) base
  · have hnew' : Path.boot ∉ base.mountpoints := hboot.1 ▸ hnew
    obtain ⟨system, hsystem, hadds⟩ := assembled_filesystemsAt_boot h hnew' hboot.2
    rw [← hboot.1] at hsystem
    exact ⟨system, hsystem, fun hnot => absurd hboot hnot, fun _ => hadds⟩
  · have hvalid := validateFilesystemRequests_eq_ok.1 (validate_of_assemble h)
    obtain ⟨-, -, prepared, hprepared, hadded⟩ := assemble_eq_added h
    obtain ⟨hunmounted, -⟩ := PartitionTable.prepare_filesystemsAt hprepared hnew
    have hdistinct : ((newRequests base requests).map FilesystemRequest.mountpoint).Nodup :=
      hvalid.2.sublist (List.filter_sublist.map _)
    have hsystem := PartitionTable.addMountpoints_adds (prepared_takes hprepared) hdistinct hadded
      (mem_newRequests.2 ⟨hrequest, hnew⟩) (hunmounted hboot) hesp hplace
    exact ⟨_, hsystem, fun _ => ⟨rfl, rfl⟩, fun hconverts => absurd hconverts hboot⟩

/-- A built table has exactly one filesystem at every requested mountpoint that is new to its base,
is not that of the EFI system partition and is not realised as a subvolume.  Its type is the one
that the request names, or else the default, and its label the requested one, with one exception:
where the root filesystem is converted, `/boot` has the type of an added boot partition and no
label, whatever is requested. -/
theorem built_filesystemsAt {result : PartitionTable} {goal : Nat} {source : RandomSource}
    (h : (build base requests goal options source).1.result = .ok result)
    (hrequest : request ∈ requests) (hnew : request.mountpoint ∉ base.mountpoints)
    (hesp : request.mountpoint ≠ Path.esp)
    (hsubvolume : ¬result.MountsAt request.mountpoint .subvolume) :
    ∃ system, result.filesystemsAt request.mountpoint = [system] ∧
      (¬(request.mountpoint = Path.boot ∧
          options.mode.ConvertsRoot (anyContained base requests) base) →
        system.kind = request.kind.getD options.defaultFilesystem ∧
        system.label = request.label) ∧
      (request.mountpoint = Path.boot ∧
          options.mode.ConvertsRoot (anyContained base requests) base →
        system.kind = bootFilesystem options.defaultFilesystem ∧ system.label = none) := by
  obtain ⟨table, minimums, hassemble, hfinished, -⟩ := build_eq_ok h
  have hplace : options.mode.placeOf request.mountpoint ≠ .subvolume := by
    intro heq
    have hmounted : request.mountpoint ∈ table.mountpoints :=
      (assembled_mountpoints hassemble _).2 (.inr (.inl ⟨request, hrequest, rfl⟩))
    have hplaced := hfinished.resembles.mountsAt (assembled_placed hassemble _ hmounted hnew)
    rw [heq] at hplaced
    exact hsubvolume hplaced
  obtain ⟨system, hsystem, hhonoured, hbooted⟩ :=
    assembled_filesystemsAt hassemble hrequest hnew hesp hplace
  -- Sizing and identification keep the filesystem with its type and its label.
  have hkept := hfinished.resembles.filesystemsAt_rel request.mountpoint
  rw [hsystem] at hkept
  obtain ⟨finished, _, halike, hnil, hresult⟩ := List.forall₂_cons_left_iff.1 hkept
  rw [List.forall₂_nil_left_iff.1 hnil] at hresult
  refine ⟨finished, hresult, ?_, ?_⟩
  · rw [halike.kind, halike.label]
    exact hhonoured
  · rw [halike.kind, halike.label]
    exact hbooted

end Built

/-- A request for a small ext4 filesystem with a label. -/
def FilesystemRequest.labelled (mountpoint : String) : FilesystemRequest :=
  ⟨mountpoint, 5, some "LABEL", some .ext4⟩

theorem built_filesystemsAt_rootDisk :
    ∃ result, (build .rootDisk [.labelled "/var"] 0 .standard ⟨fun _ => 0, 0⟩).1.result =
        .ok result ∧ ¬result.MountsAt "/var" .subvolume ∧
      ∃ system, result.filesystemsAt "/var" = [system] ∧ system.kind = .ext4 ∧
        system.label = some "LABEL" := by
  obtain ⟨result, h, hnone⟩ : ∃ result,
      (build .rootDisk [.labelled "/var"] 0 .standard ⟨fun _ => 0, 0⟩).1.result = .ok result ∧
        result.firstBtrfs? = none := ⟨_, rfl, rfl⟩
  have hsubvolume : ¬result.MountsAt "/var" .subvolume := by
    rintro ⟨volume, hvolume, -⟩
    rw [hnone] at hvolume
    cases hvolume
  have hrequest : FilesystemRequest.labelled "/var" ∈ [FilesystemRequest.labelled "/var"] :=
    List.mem_cons_self
  obtain ⟨system, hsystem, hhonoured, -⟩ :=
    built_filesystemsAt h hrequest (by decide) (by decide) hsubvolume
  exact ⟨result, h, hsubvolume, system, hsystem, hhonoured fun hboot => absurd hboot.1 (by decide)⟩

/-- Where the root filesystem is converted, a request for `/boot` gets neither its type nor its
label. -/
theorem build_boot_rootDisk :
    ∃ result system, (build .rootDisk [.labelled Path.boot] 0 { BuildOptions.standard with
        mode := .lvm } ⟨fun _ => 0, 0⟩).1.result = .ok result ∧
      Path.boot ∉ PartitionTable.rootDisk.mountpoints ∧
      ¬result.MountsAt Path.boot .subvolume ∧
      result.filesystemsAt Path.boot = [system] ∧ system.kind ≠ .ext4 ∧
      system.label ≠ some "LABEL" := by
  refine ⟨_, _, rfl, by decide, ?_, rfl, nofun, nofun⟩
  rintro ⟨volume, hvolume, -⟩
  cases hvolume

end DiskLayout
