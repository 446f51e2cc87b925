import DiskLayout.Proofs.Allocation.Edits

/-!
# Assembly of tables

The functions that assemble a table take the steps of assembly: adding a mountpoint is one of the
three ways to mount it, chosen by the partitioning mode, and preparing a base converts it or leaves
it as it is.

## Main results

* `PartitionTable.prepare_cases`, `PartitionTable.prepare_takes` — preparing a base
* `assemble_eq_added`, `assemble_eq_edits`, `assemble_eq_ok` — the assembled table and its minimums
* `assembled_mountpoints`, `assembled_placed` — what is mounted in it, and where
-/

namespace DiskLayout

namespace PartitionTable

/-! ### The container of the partitioning mode -/

/-- What making sure of `/boot` does: nothing to a table that has it, a partition for it
otherwise. -/
def Boots (table booted : PartitionTable) : Prop :=
  (Path.boot ∈ table.mountpoints ∧ booted = table) ∨ Mounts Path.boot .partition table booted

theorem ensureBoot_boots {kind : FilesystemType} {table booted : PartitionTable}
    (h : (table.ensureBoot kind).result = .ok booted) : table.Boots booted := by
  rcases ensureBoot_cases h with ⟨hmounted, rfl⟩ | ⟨-, rfl⟩
  · exact .inl ⟨hmounted, rfl⟩
  · -- A boot partition is a plain one, so adding it is an edit like any other.
    have hedit : Adds ⟨.raw, none, Partition.bootFilesystem kind, .amd64⟩
        ⟨Path.boot, Size.bootPartition, none, some (Partition.bootFilesystem kind)⟩ .partition table
        (table.addBeforeRoot (Partition.boot kind)) := .partition table
    exact .inr hedit.mounts

theorem Boots.mem_mountpoints {table booted : PartitionTable} (h : table.Boots booted)
    {other : String} :
    other ∈ booted.mountpoints ↔ other ∈ table.mountpoints ∨ other = Path.boot := by
  rcases h with ⟨hmounted, rfl⟩ | hstep
  · exact ⟨Or.inl, fun hother => hother.elim id fun heq => heq ▸ hmounted⟩
  · exact hstep.mem_mountpoints

end PartitionTable

/-- Whether a partitioning mode converts the root filesystem of a base; `contained` says whether a
new mountpoint may lie in a container. -/
def PartitioningMode.ConvertsRoot (contained : Bool) (base : PartitionTable) :
    PartitioningMode → Prop
  | .raw => False
  | .lvm => base.volumeGroupIndex? = none
  | .autoLvm => contained = true ∧ base.volumeGroupIndex? = none
  | .btrfs => base.btrfsIndex? = none

namespace PartitionTable

section Prepare

variable {options : BuildOptions} {contained : Bool} {base prepared : PartitionTable}

/-- Preparing a base leaves it as it is, or moves its root filesystem once `/boot` is sure. -/
theorem prepare_moves (h : (base.prepare options contained).result = .ok prepared) :
    (¬ options.mode.ConvertsRoot contained base ∧ prepared = base) ∨
      (options.mode.ConvertsRoot contained base ∧
        ∃ booted, (base.ensureBoot options.defaultFilesystem).result = .ok booted ∧
          MovesRoot (options.mode.placeOf Path.root) booted prepared) := by
  unfold prepare at h
  unfold PartitioningMode.ConvertsRoot
  cases hmode : options.mode with
  | raw =>
    simp only [hmode] at h
    split at h
    · cases h
    · exact .inl ⟨not_false, (Except.ok.inj h).symm⟩
  | lvm =>
    simp only [hmode, true_or, if_true] at h
    split at h
    · cases h
    · rcases ensureVolumeGroup_moves h with ⟨hsome, rfl⟩ | ⟨hnone, hmoves⟩
      · exact .inl ⟨Option.isSome_iff_ne_none.1 hsome, rfl⟩
      · exact .inr ⟨hnone, hmoves⟩
  | autoLvm =>
    simp only [hmode, reduceCtorEq, false_or] at h
    split at h
    · rename_i hcontained
      split at h
      · cases h
      · rcases ensureVolumeGroup_moves h with ⟨hsome, rfl⟩ | ⟨hnone, hmoves⟩
        · exact .inl ⟨fun hroot => Option.isSome_iff_ne_none.1 hsome hroot.2, rfl⟩
        · exact .inr ⟨⟨hcontained, hnone⟩, hmoves⟩
    · rename_i hcontained
      exact .inl ⟨fun hroot => hcontained hroot.1, (Except.ok.inj h).symm⟩
  | btrfs =>
    simp only [hmode] at h
    split at h
    · cases h
    · rcases ensureBtrfs_moves h with ⟨hsome, rfl⟩ | ⟨hnone, hmoves⟩
      · exact .inl ⟨Option.isSome_iff_ne_none.1 hsome, rfl⟩
      · exact .inr ⟨hnone, hmoves⟩

/-- Preparing a base leaves it as it is, or converts its root filesystem once `/boot` is sure. -/
theorem prepare_cases (h : (base.prepare options contained).result = .ok prepared) :
    (¬ options.mode.ConvertsRoot contained base ∧ prepared = base) ∨
      (options.mode.ConvertsRoot contained base ∧
        ∃ place booted, base.Boots booted ∧ Converts place booted prepared) := by
  rcases prepare_moves h with hkept | ⟨hroot, booted, hbooted, hmoves⟩
  · exact .inl hkept
  · exact .inr ⟨hroot, _, booted, ensureBoot_boots hbooted, hmoves.converts⟩

theorem ensureVolumeGroup_takes {kind : FilesystemType} {table result : PartitionTable}
    (h : (table.ensureVolumeGroup kind).result = .ok result) : result.Takes .logicalVolume := by
  rcases ensureVolumeGroup_moves h with ⟨hsome, rfl⟩ | ⟨-, booted, -, hmoves⟩
  · rw [← isSome_firstGroup?] at hsome
    exact Option.isSome_iff_exists.1 hsome
  · exact hmoves.converts.takes (by simp)

theorem Boots.firstGroup?_eq {table booted : PartitionTable} (h : table.Boots booted) :
    booted.firstGroup? = table.firstGroup? := by
  rcases h with ⟨-, rfl⟩ | hstep
  · rfl
  · rcases hstep.firstGroup?_cases with ⟨-, heq⟩ | ⟨hplace, -⟩
    · exact heq
    · cases hplace

theorem ensureBtrfs_takes {kind : FilesystemType} {table result : PartitionTable}
    (hnone : table.firstGroup? = none) (h : (table.ensureBtrfs kind).result = .ok result) :
    result.Takes .subvolume := by
  rcases ensureBtrfs_moves h with ⟨hsome, rfl⟩ | ⟨-, booted, hbooted, hmoves⟩
  · rw [← isSome_firstBtrfs?] at hsome
    exact ⟨hnone, Option.isSome_iff_exists.1 hsome⟩
  · exact hmoves.converts.takes fun _ => (ensureBoot_boots hbooted).firstGroup?_eq.trans hnone

/-- A prepared base takes in new mountpoints where the partitioning mode puts them. -/
theorem prepare_takes {mountpoint : String}
    (hcontained : mountpoint ∉ Path.plainOnly → contained = true)
    (h : (base.prepare options contained).result = .ok prepared) :
    prepared.Takes (options.mode.placeOf mountpoint) := by
  unfold PartitioningMode.placeOf
  by_cases hplain : mountpoint ∈ Path.plainOnly
  · rw [if_pos hplain]
    trivial
  · rw [if_neg hplain]
    unfold prepare at h
    cases hmode : options.mode with
    | raw => trivial
    | lvm | autoLvm =>
      simp only [hmode, hcontained hplain, or_true, if_true] at h
      split at h
      · cases h
      · exact ensureVolumeGroup_takes h
    | btrfs =>
      simp only [hmode] at h
      split at h
      · cases h
      · rename_i hindex
        rw [← isSome_firstGroup?, Option.not_isSome_iff_eq_none] at hindex
        exact ensureBtrfs_takes hindex h

end Prepare

end PartitionTable

/-! ### The assembled table -/

/-- The requests for mountpoints that a base does not have. -/
def newRequests (base : PartitionTable) (requests : List FilesystemRequest) :
    List FilesystemRequest :=
  requests.filter fun request => !base.containsMountpoint request.mountpoint

/-- Whether a new mountpoint may lie in a container. -/
def anyContained (base : PartitionTable) (requests : List FilesystemRequest) : Bool :=
  (newRequests base requests).any fun request => Building.mayBeContained request.mountpoint

/-- Assembly checks the requests and the base, prepares the base and adds the new requests. -/
theorem assemble_result (base : PartitionTable) (requests : List FilesystemRequest)
    (options : BuildOptions) :
    (assemble base requests options).result =
      validateFilesystemRequests requests >>= fun _ =>
        base.validateStructure.result >>= fun _ =>
          (base.prepare options (anyContained base requests)).result >>= fun prepared =>
            (prepared.addMountpoints options (newRequests base requests)).result >>= fun table =>
              .ok (table, .ofTable table requests options.requiredSizes) := by
  unfold assemble
  simp only [Logged.result_bind, Logged.result_lift, Logged.result_note, Logged.result_notes,
    Logged.result_pure, ok_bind]
  rfl

theorem validate_of_assemble {base table : PartitionTable} {requests : List FilesystemRequest}
    {options : BuildOptions} {minimums : Minimums}
    (h : (assemble base requests options).result = .ok (table, minimums)) :
    validateFilesystemRequests requests = .ok () := by
  rw [assemble_result, bind_eq_ok] at h
  obtain ⟨_, hrequests, -⟩ := h
  exact hrequests

/-- A prepared base takes in the new requests where the partitioning mode puts them. -/
theorem prepared_takes {base prepared : PartitionTable} {requests : List FilesystemRequest}
    {options : BuildOptions}
    (h : (base.prepare options (anyContained base requests)).result = .ok prepared) :
    ∀ request ∈ newRequests base requests,
      prepared.Takes (options.mode.placeOf request.mountpoint) := by
  intro request hrequest
  refine PartitionTable.prepare_takes (fun hplain => ?_) h
  exact List.any_eq_true.2 ⟨request, hrequest, by simpa [Building.mayBeContained] using hplain⟩

/-- An assembled table is the prepared base with the new requests added. -/
theorem assemble_eq_added {base table : PartitionTable} {requests : List FilesystemRequest}
    {options : BuildOptions} {minimums : Minimums}
    (h : (assemble base requests options).result = .ok (table, minimums)) :
    base.validateStructure.result = .ok () ∧
      minimums = .ofTable table requests options.requiredSizes ∧
      ∃ prepared, (base.prepare options (anyContained base requests)).result = .ok prepared ∧
        (prepared.addMountpoints options (newRequests base requests)).result = .ok table := by
  simp only [assemble_result, bind_eq_ok] at h
  obtain ⟨_, -, _, hvalid, prepared, hprepared, table', htable, h⟩ := h
  obtain ⟨rfl, rfl⟩ := Prod.mk.inj (Except.ok.inj h)
  exact ⟨hvalid, rfl, prepared, hprepared, htable⟩

/-- An assembled table is the prepared base after the edits that add the new requests. -/
theorem assemble_eq_edits {base table : PartitionTable} {requests : List FilesystemRequest}
    {options : BuildOptions} {minimums : Minimums}
    (h : (assemble base requests options).result = .ok (table, minimums)) :
    base.validateStructure.result = .ok () ∧
      minimums = .ofTable table requests options.requiredSizes ∧
      ∃ prepared, (base.prepare options (anyContained base requests)).result = .ok prepared ∧
        PartitionTable.AddsEach options (newRequests base requests) prepared table := by
  obtain ⟨hvalid, hminimums, prepared, hprepared, htable⟩ := assemble_eq_added h
  exact ⟨hvalid, hminimums, prepared, hprepared,
    PartitionTable.addMountpoints_addsEach (prepared_takes hprepared) htable⟩

/-- An assembled table is the prepared base with the new mountpoints added. -/
theorem assemble_eq_ok {base table : PartitionTable} {requests : List FilesystemRequest}
    {options : BuildOptions} {minimums : Minimums}
    (h : (assemble base requests options).result = .ok (table, minimums)) :
    minimums = .ofTable table requests options.requiredSizes ∧
      ∃ prepared, (base.prepare options (anyContained base requests)).result = .ok prepared ∧
        PartitionTable.MountsEach options.mode (newRequests base requests) prepared table := by
  obtain ⟨-, hminimums, prepared, hprepared, heach⟩ := assemble_eq_edits h
  exact ⟨hminimums, prepared, hprepared, heach.mountsEach⟩

section Assembled

variable {base table : PartitionTable} {requests : List FilesystemRequest} {options : BuildOptions}
  {minimums : Minimums}

theorem mem_newRequests {request : FilesystemRequest} :
    request ∈ newRequests base requests ↔
      request ∈ requests ∧ request.mountpoint ∉ base.mountpoints := by
  simp [newRequests, PartitionTable.containsMountpoint]

theorem anyContained_iff :
    anyContained base requests = true ↔
      ∃ request ∈ requests,
        request.mountpoint ∉ base.mountpoints ∧ request.mountpoint ∉ Path.plainOnly := by
  simp only [anyContained, List.any_eq_true, mem_newRequests, and_assoc]
  simp [Building.mayBeContained]

/-- An assembled table mounts what its base mounts, what is requested, and `/boot` exactly if the
root filesystem is converted. -/
theorem assembled_mountpoints (h : (assemble base requests options).result = .ok (table, minimums))
    (mountpoint : String) :
    mountpoint ∈ table.mountpoints ↔
      mountpoint ∈ base.mountpoints ∨ (∃ request ∈ requests, request.mountpoint = mountpoint) ∨
        (mountpoint = Path.boot ∧
          options.mode.ConvertsRoot (anyContained base requests) base) := by
  obtain ⟨-, prepared, hprepared, heach⟩ := assemble_eq_ok h
  have hnew : (∃ request ∈ newRequests base requests, request.mountpoint = mountpoint) ↔
      mountpoint ∉ base.mountpoints ∧ ∃ request ∈ requests, request.mountpoint = mountpoint := by
    simp only [mem_newRequests]
    grind
  rw [heach.mem_mountpoints, hnew]
  rcases PartitionTable.prepare_cases hprepared with
    ⟨hkept, rfl⟩ | ⟨hroot, place, booted, hboots, hconverts⟩
  · grind
  · rw [hconverts.mem_mountpoints, hboots.mem_mountpoints]
    grind

/-- In an assembled table every mountpoint that the base does not have lies where the partitioning
mode puts it. -/
theorem assembled_placed (h : (assemble base requests options).result = .ok (table, minimums)) :
    ∀ mountpoint ∈ table.mountpoints, mountpoint ∉ base.mountpoints →
      table.MountsAt mountpoint (options.mode.placeOf mountpoint) := by
  obtain ⟨-, prepared, hprepared, heach⟩ := assemble_eq_ok h
  refine heach.mountsAt fun mountpoint hmem hnew => ?_
  -- Preparation mounts nothing new but `/boot`, whose partition the conversion passes over.
  rcases PartitionTable.prepare_cases hprepared with
    ⟨-, rfl⟩ | ⟨-, place, booted, hboots, hconverts⟩
  · exact absurd hmem hnew
  · rcases hboots.mem_mountpoints.1 (hconverts.mem_mountpoints.1 hmem) with hold | rfl
    · exact absurd hold hnew
    · rcases hboots with ⟨hold, -⟩ | hstep
      · exact absurd hold hnew
      · exact hconverts.keeps (by decide) hstep.mountsAt

theorem assembled_sublist (hraw : options.mode = .raw)
    (h : (assemble base requests options).result = .ok (table, minimums)) :
    base.partitions.Sublist table.partitions := by
  obtain ⟨-, prepared, hprepared, heach⟩ := assemble_eq_ok h
  rw [hraw] at heach
  rcases PartitionTable.prepare_cases hprepared with ⟨-, rfl⟩ | ⟨hroot, -⟩
  · exact heach.sublist
  · rw [hraw] at hroot
    exact hroot.elim

end Assembled

end DiskLayout
