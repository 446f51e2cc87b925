import DiskLayout.Proofs.Allocation.CustomAssembly
import DiskLayout.Proofs.Allocation.RequestedFilesystems

/-!
# What boot loaders read

A new `/boot` is requested, or it is added because containers need one.  What is added always has a
type that boot loaders read.  A requested one has the type that the request names, else the default,
and that is not checked everywhere: requests merged into a base may name any type, and the default
type is never asked whether boot loaders read it.

## Main definitions

* `FilesystemType.IsBootable` — whether boot loaders read a type

## Main results

* `assembled_boot`, `customAssembled_boot` — the filesystem at a new `/boot`
* `built_boot_isBootable_iff` — when boot loaders can read it
-/

namespace DiskLayout

open DiskLayout.Partition (requestedFilesystem bootFilesystem)

/-- Whether boot loaders read filesystems of a type. -/
def FilesystemType.IsBootable (kind : FilesystemType) : Prop := kind = .xfs ∨ kind = .ext4

instance : DecidablePred FilesystemType.IsBootable := fun kind =>
  inferInstanceAs (Decidable (kind = .xfs ∨ kind = .ext4))

theorem bootFilesystem_isBootable (kind : FilesystemType) : (bootFilesystem kind).IsBootable := by
  cases kind with
  | ext4 => exact .inr rfl
  | _ => exact .inl rfl

/-! ### Tables from a base -/

section Built

variable {base table : PartitionTable} {requests : List FilesystemRequest} {options : BuildOptions}
  {minimums : Minimums}

/-- An assembled table has one filesystem at a new `/boot`.  Boot loaders read it if the root
filesystem is converted, and else exactly if they read what is requested for `/boot`. -/
theorem assembled_boot (h : (assemble base requests options).result = .ok (table, minimums))
    (hnew : Path.boot ∉ base.mountpoints) (hmounted : Path.boot ∈ table.mountpoints) :
    ∃ system, table.filesystemsAt Path.boot = [system] ∧
      (system.kind.IsBootable ↔
        options.mode.ConvertsRoot (anyContained base requests) base ∨
          ∃ request ∈ requests, request.mountpoint = Path.boot ∧
            (request.kind.getD options.defaultFilesystem).IsBootable) := by
  by_cases hroot : options.mode.ConvertsRoot (anyContained base requests) base
  · obtain ⟨system, hsystem, hkind, -⟩ := assembled_filesystemsAt_boot h hnew hroot
    refine ⟨system, hsystem, iff_of_true ?_ (.inl hroot)⟩
    rw [hkind]
    exact bootFilesystem_isBootable options.defaultFilesystem
  · -- Nothing but a request mounts `/boot`, and no other request is for it.
    obtain ⟨request, hrequest, hboot⟩ : ∃ request ∈ requests, request.mountpoint = Path.boot := by
      rcases (assembled_mountpoints h Path.boot).1 hmounted with hbase | hrequested | ⟨-, hroot'⟩
      · exact absurd hbase hnew
      · exact hrequested
      · exact absurd hroot' hroot
    have hesp : request.mountpoint ≠ Path.esp := by
      rw [hboot]
      decide
    have hplace : options.mode.placeOf request.mountpoint ≠ .subvolume := by
      have hplain : request.mountpoint ∈ Path.plainOnly := by
        rw [hboot]
        decide
      unfold PartitioningMode.placeOf
      rw [if_pos hplain]
      nofun
    obtain ⟨system, hsystem, hhonoured, -⟩ :=
      assembled_filesystemsAt h hrequest (hboot ▸ hnew) hesp hplace
    obtain ⟨hkind, -⟩ := hhonoured fun hconverts => hroot hconverts.2
    rw [hboot] at hsystem
    refine ⟨system, hsystem, ?_⟩
    rw [hkind]
    constructor
    · intro hbootable
      exact .inr ⟨request, hrequest, hboot, hbootable⟩
    · rintro (hroot' | ⟨other, hother, hboot', hbootable⟩)
      · exact absurd hroot' hroot
      · have hdistinct := (validateFilesystemRequests_eq_ok.1 (validate_of_assemble h)).2
        obtain rfl := List.inj_on_of_nodup_map hdistinct hother hrequest (hboot'.trans hboot.symm)
        exact hbootable

end Built

/-! ### Tables from a partitioning request -/

section Custom

variable {request : PartitioningRequest} {options : CustomOptions} {table : PartitionTable}

/-- If `/boot` is requested, then as a plain filesystem. -/
theorem PartitioningRequest.Sound.exists_plain_boot (h : request.Sound)
    (hrequested : Path.boot ∈ request.mountpoints) :
    ∃ filesystem ∈ request.plainFilesystems, filesystem.mountpoint = Path.boot := by
  have hnot : ¬ MayBeContained Path.boot := fun hcontained => hcontained.2 (by decide)
  rcases List.mem_append.1 hrequested with hrequested | hsubvolume
  · rcases List.mem_append.1 hrequested with hplain | hlogical
    · exact List.mem_map.1 hplain
    · obtain ⟨volume, hvolume, hboot⟩ := List.mem_map.1 hlogical
      obtain ⟨group, hgroup, hmem⟩ := List.mem_flatMap.1 hvolume
      exact absurd (hboot ▸ (h.groups group hgroup).contained volume hmem) hnot
  · obtain ⟨subvolume, hmem, hboot⟩ := List.mem_map.1 hsubvolume
    obtain ⟨volume, hvolume, hmem⟩ := List.mem_flatMap.1 hmem
    exact absurd (hboot ▸ (h.volumes volume hvolume).contained subvolume hmem) hnot

/-- The filesystem of a plain partition is the only one at its path in an assembled table. -/
theorem customAssembled_filesystemsAt (h : (assembleCustom request options).result = .ok table)
    {partition : Partition} (hmem : partition ∈ plainPartitions request options)
    {mountpoint : String} {system : Filesystem}
    (hsystem : partition.filesystemsAt mountpoint = [system]) :
    table.filesystemsAt mountpoint = [system] := by
  obtain ⟨hvalid, container, -, hsame⟩ := assembleCustom_eq_ok h
  have hsound := PartitioningRequest.validate_eq_ok.1 hvalid
  have hdistinct : table.mountpoints.Nodup :=
    (customAssembled_mountpoints h).nodup_iff.2 (nodup_addedMountpoints hsound)
  obtain ⟨assembled, hassembled, hcontents⟩ :=
    exists_of_forall₂ hsame (List.mem_append_left container hmem)
  apply PartitionTable.filesystemsAt_eq_singleton hdistinct
  rw [PartitionTable.filesystemsAt_eq]
  apply List.mem_flatMap.2
  refine ⟨assembled, hassembled, ?_⟩
  rw [Partition.filesystemsAt, hcontents.payload, ← Partition.filesystemsAt, hsystem]
  exact List.mem_singleton_self system

/-- A table that is assembled for a partitioning request has one filesystem at `/boot`.  Boot
loaders read it unless it is requested without a type and they do not read the default. -/
theorem customAssembled_boot (h : (assembleCustom request options).result = .ok table)
    (hmounted : Path.boot ∈ table.mountpoints) :
    ∃ system, table.filesystemsAt Path.boot = [system] ∧
      (system.kind.IsBootable ↔
        ∀ filesystem ∈ request.plainFilesystems, filesystem.mountpoint = Path.boot →
          filesystem.kind = none → options.defaultFilesystem.IsBootable) := by
  have hsound := PartitioningRequest.validate_eq_ok.1 (assembleCustom_eq_ok h).1
  have hesp : Path.boot ≠ Path.esp := by decide
  by_cases hrequested : Path.boot ∈ request.mountpoints
  · obtain ⟨filesystem, hmem, hboot⟩ := hsound.exists_plain_boot hrequested
    have hplain : Partition.plain filesystem options.defaultFilesystem
        options.platform.architecture ∈ plainPartitions request options :=
      List.mem_append_left _ (List.mem_append_right _ (List.mem_map_of_mem hmem))
    have hsystem := Partition.filesystemsAt_plain (hboot ▸ hesp) options.defaultFilesystem
      options.platform.architecture
    rw [hboot] at hsystem
    refine ⟨_, customAssembled_filesystemsAt h hplain hsystem, ?_⟩
    change (filesystem.kind.getD options.defaultFilesystem).IsBootable ↔ _
    constructor
    · intro hbootable other hother hboot' hnone
      have hdistinct : (request.plainFilesystems.map FilesystemRequest.mountpoint).Nodup :=
        (hsound.mountpoints_distinct.of_append_left).of_append_left
      obtain rfl := List.inj_on_of_nodup_map hdistinct hother hmem (hboot'.trans hboot.symm)
      rwa [hnone, Option.getD_none] at hbootable
    · intro hdefault
      cases hkind : filesystem.kind with
      | none => exact hdefault filesystem hmem hboot hkind
      | some kind => exact (hsound.plain_kinds filesystem hmem).boot hboot kind hkind
  · -- No request is for `/boot`, so it is the one that a container needs.
    have hcontainer : request.HasContainer := by
      rcases mem_addedMountpoints.1 ((customAssembled_mountpoints h).mem_iff.1 hmounted) with
        hmem | hroot | ⟨-, hesp'⟩ | ⟨hcontainer, -⟩
      · exact absurd hmem hrequested
      · exact absurd hroot (by decide)
      · exact absurd hesp' hesp
      · exact hcontainer
    have hadded : Partition.boot options.defaultFilesystem ∈ plainPartitions request options := by
      apply List.mem_append_right
      rw [separateBoot_eq, if_pos ⟨hcontainer, hrequested⟩]
      exact List.mem_singleton_self _
    obtain ⟨system, hsystem, hkind, -⟩ := Partition.filesystemsAt_boot options.defaultFilesystem
    refine ⟨system, customAssembled_filesystemsAt h hadded hsystem, iff_of_true ?_ ?_⟩
    · rw [hkind]
      exact bootFilesystem_isBootable options.defaultFilesystem
    · intro filesystem hmem hboot _
      exact absurd (List.mem_append_left _ (List.mem_append_left _
        (List.mem_map.2 ⟨filesystem, hmem, hboot⟩))) hrequested

end Custom

/-! ### Built tables -/

/-- A built table has exactly one filesystem at a `/boot` that its base does not have.  Boot loaders
can read it if the root filesystem is converted or if they read the type that is requested for
`/boot`, or else the default, and not otherwise.  In a table built for a partitioning request they
can read it unless it is requested without a type and they do not read the default. -/
theorem built_boot_isBootable_iff (source : RandomSource) {result : PartitionTable}
    (hmounted : Path.boot ∈ result.mountpoints) :
    (∀ (base : PartitionTable) (requests : List FilesystemRequest) (goal : Nat)
        (options : BuildOptions),
      (build base requests goal options source).1.result = .ok result →
      Path.boot ∉ base.mountpoints →
      ∃ system, result.filesystemsAt Path.boot = [system] ∧
        (system.kind.IsBootable ↔
          options.mode.ConvertsRoot (anyContained base requests) base ∨
            ∃ request ∈ requests, request.mountpoint = Path.boot ∧
              (request.kind.getD options.defaultFilesystem).IsBootable)) ∧
    ∀ (request : PartitioningRequest) (options : CustomOptions),
      (buildCustom request options source).1.result = .ok result →
      ∃ system, result.filesystemsAt Path.boot = [system] ∧
        (system.kind.IsBootable ↔
          ∀ filesystem ∈ request.plainFilesystems, filesystem.mountpoint = Path.boot →
            filesystem.kind = none → options.defaultFilesystem.IsBootable) := by
  constructor
  · intro base requests goal options h hnew
    obtain ⟨table, minimums, hassemble, hfinished, -⟩ := build_eq_ok h
    rw [hfinished.resembles.mountpoints_eq] at hmounted
    obtain ⟨system, hsystem, hiff⟩ := assembled_boot hassemble hnew hmounted
    obtain ⟨kept, hkept, halike⟩ := hfinished.resembles.filesystemsAt_eq_singleton hsystem
    refine ⟨kept, hkept, ?_⟩
    rw [halike.kind]
    exact hiff
  · intro request options h
    obtain ⟨table, hassemble, hfinished, -⟩ := buildCustom_eq_ok h
    rw [hfinished.resembles.mountpoints_eq] at hmounted
    obtain ⟨system, hsystem, hiff⟩ := customAssembled_boot hassemble hmounted
    obtain ⟨kept, hkept, halike⟩ := hfinished.resembles.filesystemsAt_eq_singleton hsystem
    refine ⟨kept, hkept, ?_⟩
    rw [halike.kind]
    exact hiff

-- Neither `/boot` has the default type: one is added by a conversion, the other requested as ext4.
theorem built_boot_isBootable_iff_btrfs :
    (∃ result system,
      (build .rootDisk [.new "/var" 5] 0 { BuildOptions.standard with defaultFilesystem := .btrfs }
        ⟨fun _ => 0, 0⟩).1.result = .ok result ∧ Path.boot ∈ result.mountpoints ∧
        result.filesystemsAt Path.boot = [system] ∧ system.kind.IsBootable) ∧
    ∃ result system,
      (buildCustom ⟨0, some [.labelled Path.boot], none, none⟩
        { CustomOptions.standard with defaultFilesystem := .btrfs } ⟨fun _ => 0, 0⟩).1.result =
          .ok result ∧ Path.boot ∈ result.mountpoints ∧
        result.filesystemsAt Path.boot = [system] ∧ system.kind.IsBootable := by
  constructor
  · obtain ⟨result, h, hmounted⟩ : ∃ result,
        (build .rootDisk [.new "/var" 5] 0 { BuildOptions.standard with defaultFilesystem := .btrfs }
          ⟨fun _ => 0, 0⟩).1.result = .ok result ∧ Path.boot ∈ result.mountpoints :=
      ⟨_, rfl, by decide⟩
    obtain ⟨system, hsystem, hiff⟩ :=
      (built_boot_isBootable_iff ⟨fun _ => 0, 0⟩ hmounted).1 _ _ _ _ h (by decide)
    exact ⟨result, system, h, hmounted, hsystem, hiff.2 (.inl ⟨rfl, rfl⟩)⟩
  · obtain ⟨result, h, hmounted⟩ : ∃ result,
        (buildCustom ⟨0, some [.labelled Path.boot], none, none⟩
          { CustomOptions.standard with defaultFilesystem := .btrfs } ⟨fun _ => 0, 0⟩).1.result =
            .ok result ∧ Path.boot ∈ result.mountpoints := ⟨_, rfl, by decide⟩
    obtain ⟨system, hsystem, hiff⟩ :=
      (built_boot_isBootable_iff ⟨fun _ => 0, 0⟩ hmounted).2 _ _ h
    exact ⟨result, system, h, hmounted, hsystem, hiff.2 (by decide)⟩

/-- A `/boot` that is requested without a type gets the default one, though no boot loader reads
it. -/
theorem build_boot_not_isBootable_rootDisk :
    ∃ result system,
      (build .rootDisk [.new Path.boot 0] 0 { BuildOptions.standard with
        mode := .raw, defaultFilesystem := .btrfs } ⟨fun _ => 0, 0⟩).1.result = .ok result ∧
      Path.boot ∉ PartitionTable.rootDisk.mountpoints ∧ Path.boot ∈ result.mountpoints ∧
      result.filesystemsAt Path.boot = [system] ∧ ¬ system.kind.IsBootable :=
  ⟨_, _, rfl, by decide, by decide, rfl, by decide⟩

end DiskLayout
