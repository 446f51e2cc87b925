import DiskLayout.Allocation.Image
import DiskLayout.Proofs.Allocation.Assembly
import DiskLayout.Proofs.Allocation.CustomAssembly
import DiskLayout.Proofs.Allocation.TotalSize
import DiskLayout.Proofs.Customization.Checks

/-!
# Policies and built tables

The table of an image is built only from customizations that pass the check on their own and under
the policy of the profile.  The other way round, customizations that pass are never refused for a
mountpoint later: assembling a table fails for names, containers or sizes alone, and what it
adds by itself (`/boot`, the EFI system partition, the root) is mounted where a boot loader finds
it, so that the final check has nothing to say about mountpoints either.

## Main results

* `assembled_wellMounted`, `customAssembled_wellMounted` — assembled tables are well mounted
* `build_spares`, `buildCustom_spares` — a build that fails does not refuse a mountpoint
* `buildTable_policy` — the checks of customizations and the table of an image agree
-/

namespace DiskLayout

open Custom

/-! ### Partitions that are well mounted -/

namespace Partition

variable {partition : Partition} {inner : Payload}

theorem wellMounted_of_payload (hpayload : partition.payload = some inner)
    (h : inner.WellMounted) : partition.WellMounted := by
  intro payload hsome
  obtain rfl := Option.some.inj (hsome.symm.trans hpayload)
  exact h

theorem WellMounted.content (h : partition.WellMounted)
    (hcontent : partition.content? = some inner) : inner.WellMounted := by
  rcases content?_eq_some.1 hcontent with ⟨hpayload, -⟩ | ⟨container, hpayload, rfl⟩
  · exact h inner hpayload
  · exact Payload.wellMounted_luks.1 (h _ hpayload)

/-- A partition is well mounted when its content is replaced by one that is. -/
theorem wellMounted_replace (hcontent : partition.content? = some inner) {new : Payload}
    (h : new.WellMounted) : (partition.mapContent fun _ => new).WellMounted := by
  rcases content?_eq_some.1 hcontent with ⟨hpayload, hluks⟩ | ⟨container, hpayload, rfl⟩
  · rw [mapContent_of_payload hpayload hluks]
    exact wellMounted_of_payload rfl h
  · rw [mapContent_of_luks hpayload]
    exact wellMounted_of_payload rfl (Payload.wellMounted_luks.2 h)

theorem wellMounted_plain {request : FilesystemRequest}
    (h : checkMountpoint request.mountpoint = .ok ()) (defaultKind : FilesystemType)
    (architecture : Architecture) :
    (Partition.plain request defaultKind architecture).WellMounted := by
  obtain ⟨system, hpayload, hmounted, -⟩ := plain_payload request defaultKind architecture
  refine wellMounted_of_payload hpayload ?_
  rw [Payload.WellMounted, hmounted]
  exact h

theorem wellMounted_boot (defaultKind : FilesystemType) :
    (Partition.boot defaultKind).WellMounted := by
  have hboot : checkMountpoint Path.boot = .ok () := by decide
  exact wellMounted_plain hboot _ _

end Partition

theorem mayBeContained_root : MayBeContained Path.root := ⟨by decide, by decide⟩

namespace PartitionTable

variable {table result : PartitionTable}

theorem wellMounted_split {before after : List Partition} {partition : Partition}
    (hsplit : table.partitions = before ++ partition :: after) :
    table.WellMounted ↔ (∀ other ∈ before, other.WellMounted) ∧ partition.WellMounted ∧
      ∀ other ∈ after, other.WellMounted := by
  rw [WellMounted, hsplit, List.forall_mem_append, List.forall_mem_cons]

theorem WellMounted.addBeforeRoot (h : table.WellMounted) {new : Partition}
    (hnew : new.WellMounted) : (table.addBeforeRoot new).WellMounted := by
  obtain ⟨before, after, hsplit, hresult, -⟩ := addBeforeRoot_split table new
  rw [WellMounted, hsplit, List.forall_mem_append] at h
  rw [hresult]
  exact (wellMounted_split rfl).2 ⟨h.1, hnew, h.2⟩

/-- A valid mountpoint is added where it may lie. -/
theorem WellMounted.adds {options : BuildOptions} {request : FilesystemRequest}
    (h : table.WellMounted) (hvalid : checkMountpoint request.mountpoint = .ok ())
    (hadds : Adds options request (options.mode.placeOf request.mountpoint) table result) :
    result.WellMounted := by
  have hplain : options.mode.placeOf request.mountpoint ≠ .partition →
      request.mountpoint ∉ Path.plainOnly := fun hne hmem => hne (if_pos hmem)
  generalize options.mode.placeOf request.mountpoint = place at hadds hplain
  cases hadds with
  | partition _ => exact h.addBeforeRoot (Partition.wellMounted_plain hvalid _ _)
  | @logicalVolume _ before after holder group volume hsplit _ hcontent _ =>
    obtain ⟨hbefore, hholder, hafter⟩ := (wellMounted_split hsplit).1 h
    refine (wellMounted_split rfl).2 ⟨hbefore, ?_, hafter⟩
    refine Partition.wellMounted_replace hcontent fun mountpoint hmem => ?_
    have hgroup := hholder.content hcontent
    simp only [Payload.mountpoints_volumeGroup, VolumeGroup.append, List.flatMap_append,
      List.mem_append, List.flatMap_singleton, Option.toList_some,
      Payload.mountpoints_filesystem, List.mem_singleton] at hmem
    rcases hmem with hmem | rfl
    · exact hgroup mountpoint (by rwa [Payload.mountpoints_volumeGroup])
    · exact ⟨hvalid, hplain (by simp)⟩
  | @subvolume _ before after holder volume new hsplit _ hcontent hnew =>
    obtain ⟨hbefore, hholder, hafter⟩ := (wellMounted_split hsplit).1 h
    refine (wellMounted_split rfl).2 ⟨hbefore, ?_, hafter⟩
    refine Partition.wellMounted_replace hcontent fun mountpoint hmem => ?_
    have hvolume := hholder.content hcontent
    simp only [Payload.mountpoints_btrfs, Btrfs.append, List.map_append, List.mem_append,
      List.map_cons, List.map_nil, List.mem_singleton] at hmem
    rcases hmem with hmem | rfl
    · exact hvolume mountpoint (by rwa [Payload.mountpoints_btrfs])
    · rw [Btrfs.newSubvolume_mountpoint hnew]
      exact ⟨hvalid, hplain (by simp)⟩

theorem WellMounted.addsEach {options : BuildOptions} {requests : List FilesystemRequest}
    (h : table.WellMounted)
    (hvalid : ∀ request ∈ requests, checkMountpoint request.mountpoint = .ok ())
    (hadds : AddsEach options requests table result) : result.WellMounted := by
  induction hadds with
  | nil => exact h
  | skip _ _ ih => exact ih h (List.forall_mem_cons.1 hvalid).2
  | add hedit _ ih =>
    obtain ⟨hfirst, hothers⟩ := List.forall_mem_cons.1 hvalid
    exact ih (h.adds hfirst hedit) hothers

/-- A converted root filesystem may lie in the container that takes it in. -/
theorem WellMounted.movesRoot {place : Place} (h : table.WellMounted)
    (hmoves : MovesRoot place table result) : result.WellMounted := by
  cases hmoves with
  | @volumeGroup _ before after holder system name hsplit hcontent hroot _ =>
    obtain ⟨hbefore, -, hafter⟩ := (wellMounted_split hsplit).1 h
    refine (wellMounted_split rfl).2 ⟨hbefore, ?_, hafter⟩
    have hgroup : (Payload.volumeGroup
        (Conversion.rootGroup holder system name)).WellMounted := by
      intro mountpoint hmem
      simp only [Payload.mountpoints_volumeGroup, Conversion.rootGroup, VolumeGroup.append,
        VolumeGroup.empty, List.nil_append, List.flatMap_singleton, Option.toList_some,
        Payload.mountpoints_filesystem, List.mem_singleton] at hmem
      rw [hmem, hroot]
      exact mayBeContained_root
    intro payload hpayload
    rw [payload_toVolumeGroup] at hpayload
    exact Partition.wellMounted_replace hcontent hgroup payload hpayload
  | @btrfs _ before after holder system new hsplit hcontent _ hnew =>
    obtain ⟨hbefore, -, hafter⟩ := (wellMounted_split hsplit).1 h
    refine (wellMounted_split rfl).2 ⟨hbefore, ?_, hafter⟩
    refine Partition.wellMounted_replace hcontent fun mountpoint hmem => ?_
    simp only [Payload.mountpoints_btrfs, Btrfs.append, Conversion.rootBtrfs, List.nil_append,
      List.map_cons, List.map_nil, List.mem_singleton] at hmem
    rw [hmem, Btrfs.newSubvolume_mountpoint hnew]
    exact mayBeContained_root

theorem WellMounted.prepare {options : BuildOptions} {contained : Bool}
    (h : table.WellMounted) (hprepared : (table.prepare options contained).result = .ok result) :
    result.WellMounted := by
  rcases prepare_moves hprepared with ⟨-, rfl⟩ | ⟨-, booted, hbooted, hmoves⟩
  · exact h
  · refine WellMounted.movesRoot ?_ hmoves
    rcases ensureBoot_cases hbooted with ⟨-, rfl⟩ | ⟨-, rfl⟩
    · exact h
    · exact h.addBeforeRoot (Partition.wellMounted_boot _)

end PartitionTable

theorem assembled_wellMounted {base table : PartitionTable} {requests : List FilesystemRequest}
    {options : BuildOptions} {minimums : Minimums}
    (h : (assemble base requests options).result = .ok (table, minimums)) : table.WellMounted := by
  obtain ⟨hvalid, -, prepared, hprepared, hadds⟩ := assemble_eq_edits h
  have hbase := PartitionTable.wellMounted_of_validateStructure hvalid
  refine (hbase.prepare hprepared).addsEach (fun request hrequest => ?_) hadds
  exact (validateFilesystemRequests_eq_ok.1 (validate_of_assemble h)).1 request
    (mem_newRequests.1 hrequest).1

section CustomAssembled

variable {request : PartitioningRequest} {options : CustomOptions}

/-- The plain partitions of a table for a request that passes are well mounted. -/
theorem plainPartitions_wellMounted (hvalid : request.validate = .ok ()) :
    ∀ partition ∈ plainPartitions request options, partition.WellMounted := by
  have hplain := (PartitioningRequest.validate_eq_ok.1 hvalid).plain_valid
  have hesp : checkMountpoint Path.esp = .ok () := by decide
  refine forall_mem_plainPartitions (fun payload hpayload => by cases hpayload)
    (Partition.wellMounted_of_payload rfl hesp) ?_ (Partition.wellMounted_boot _)
  intro filesystem hfilesystem
  exact Partition.wellMounted_plain (hplain filesystem hfilesystem) _ _

/-- A table that is laid out from a request that passes is well mounted. -/
theorem customAssembled_wellMounted {table : PartitionTable}
    (h : (assembleCustom request options).result = .ok table) : table.WellMounted := by
  obtain ⟨hvalid, -⟩ := assembleCustom_eq_ok_iff.1 h
  have hsound := PartitioningRequest.validate_eq_ok.1 hvalid
  refine forall_mem_customAssembled h ?_ (plainPartitions_wellMounted hvalid) ?_ ?_ ?_
  · intro old new hcontents hold
    rw [Partition.WellMounted, hcontents.payload]
    exact hold
  · intro group hgroup volumes hvolumes
    refine Partition.wellMounted_of_payload rfl fun mountpoint hmem => ?_
    rw [Custom.volumeGroup_mountpoints hvolumes, List.mem_append, List.mem_map] at hmem
    -- A volume was asked for, or it was added for the root.
    rcases hmem with ⟨volume, hvolume, rfl⟩ | hmem
    · exact (hsound.groups group hgroup).contained volume hvolume
    · split at hmem
      · cases hmem
      · rw [List.mem_singleton.1 hmem]
        exact mayBeContained_root
  · intro requested hrequested volume hvolume
    refine Partition.wellMounted_of_payload rfl fun mountpoint hmem => ?_
    rw [Payload.mountpoints_btrfs, Custom.btrfs_mountpoints hvolume, List.mem_append,
      List.mem_map] at hmem
    rcases hmem with ⟨subvolume, hsubvolume, rfl⟩ | hmem
    · exact (hsound.volumes requested hrequested).contained subvolume hsubvolume
    · split at hmem
      · cases hmem
      · rw [List.mem_singleton.1 hmem]
        exact mayBeContained_root
  · exact Partition.wellMounted_plain (by decide : checkMountpoint Path.root = .ok ()) _ _

end CustomAssembled

/-! ### Steps that fail -/

section Steps

theorem VolumeGroup.generateName_spares (group : VolumeGroup) (mountpoint : String) :
    Spares (group.generateName mountpoint) := by
  unfold generateName
  split
  · exact spares_ok _
  · exact spares_leaf rfl not_false

theorem VolumeGroup.newVolume_spares (group : VolumeGroup) (mountpoint : String)
    (kind : FilesystemType) (size : Nat) : Spares (group.newVolume mountpoint kind size) :=
  spares_bind (group.generateName_spares mountpoint) fun _ _ => spares_ok _

theorem Btrfs.newSubvolume_spares (volume : Btrfs) (mountpoint : String) (size : Nat) :
    Spares (volume.newSubvolume mountpoint size) := by
  unfold newSubvolume
  dsimp only
  split
  · exact spares_leaf rfl not_false
  · exact spares_ok _

theorem Conversion.rootFilesystem_spares (what : String) (table : PartitionTable) :
    Spares (rootFilesystem what table) := by
  unfold rootFilesystem
  split
  · exact spares_leaf rfl not_false
  · split
    · exact spares_ok _
    · exact spares_leaf rfl not_false
    · exact spares_leaf rfl not_false

namespace PartitionTable

variable (table : PartitionTable) (kind : FilesystemType) (options : BuildOptions)

theorem ensureBoot_spares : Spares (table.ensureBoot kind).result := by
  unfold ensureBoot
  split
  · exact spares_ok _
  · exact spares_ok _

theorem ensureVolumeGroup_spares : Spares (table.ensureVolumeGroup kind).result := by
  unfold ensureVolumeGroup
  split
  · exact spares_ok _
  · simp only [Logged.result_bind, Logged.result_lift, Logged.result_note, ok_bind]
    refine spares_bind (ensureBoot_spares _ _) fun _ _ => ?_
    refine spares_bind (Conversion.rootFilesystem_spares _ _) fun _ _ => ?_
    exact spares_bind (VolumeGroup.generateName_spares _ _) fun _ _ => spares_ok _

theorem ensureBtrfs_spares : Spares (table.ensureBtrfs kind).result := by
  unfold ensureBtrfs
  split
  · exact spares_ok _
  · simp only [Logged.result_bind, Logged.result_lift, Logged.result_note, ok_bind]
    refine spares_bind (ensureBoot_spares _ _) fun _ _ => ?_
    refine spares_bind (Conversion.rootFilesystem_spares _ _) fun _ _ => ?_
    exact spares_bind (Btrfs.newSubvolume_spares _ _ _) fun _ _ => spares_ok _

theorem prepare_spares (contained : Bool) : Spares (table.prepare options contained).result := by
  unfold prepare
  split
  · split
    · exact spares_leaf rfl not_false
    · exact spares_ok _
  · split
    · split
      · exact spares_leaf rfl not_false
      · exact ensureVolumeGroup_spares _ _
    · exact spares_ok _
  · split
    · split
      · exact spares_leaf rfl not_false
      · exact ensureVolumeGroup_spares _ _
    · exact spares_ok _
  · split
    · exact spares_leaf rfl not_false
    · exact ensureBtrfs_spares _ _

theorem addMountpoint_spares (request : FilesystemRequest) :
    Spares (table.addMountpoint options request).result := by
  have hplain : Spares (Building.addPlain table request options).result := spares_ok _
  unfold addMountpoint
  dsimp only
  split
  · split
    · simp only [Building.addLogicalVolume, Logged.result_bind, Logged.result_lift,
        Logged.result_note, ok_bind]
      exact spares_bind (VolumeGroup.newVolume_spares _ _ _ _) fun _ _ => spares_ok _
    · unfold Building.addSubvolume
      split <;> simp only [Logged.result_bind, Logged.result_note, ok_bind, Logged.result_lift] <;>
        exact spares_bind (Btrfs.newSubvolume_spares _ _ _) fun _ _ => spares_ok _
    · exact hplain
  · exact hplain

theorem addMountpoints_spares (requests : List FilesystemRequest) :
    Spares (table.addMountpoints options requests).result := by
  induction requests generalizing table with
  | nil => exact spares_ok _
  | cons request others ih =>
    unfold addMountpoints
    split
    · exact ih table
    · rw [Logged.result_bind]
      exact spares_bind (addMountpoint_spares _ _ _) fun middle _ => ih middle

theorem settle_spares (minimums : Minimums) (goal : Nat) :
    Spares (table.settle minimums goal).result := by
  intro error herror
  obtain ⟨-, -, rfl⟩ := grow_eq_error_iff.1 (settle_eq_error.1 herror)
  exact @spares_leaf Unit (.invalidTable _) rfl not_false _ rfl

variable {table}

theorem WellMounted.settle {minimums : Minimums} {goal : Nat} {settled : PartitionTable}
    (h : table.WellMounted) (hsettled : (table.settle minimums goal).result = .ok settled) :
    settled.WellMounted := by
  obtain ⟨grown, hgrown, rfl⟩ := settle_eq_ok.1 hsettled
  have hresized := (table.resize_resembles minimums).wellMounted h
  have hsufficient := (table.resize_sufficient minimums).grow hgrown
  exact hsufficient.resembles_syncBtrfs.wellMounted ((grow_resembles hgrown).wellMounted hresized)

end PartitionTable

end Steps

/-- A table that is completed after sizing is not refused for a mountpoint, if it is well mounted
when it is sized. -/
theorem complete_spares {sized : Logged LayoutError PartitionTable} (source : RandomSource)
    (hsized : Spares sized.result)
    (hmounted : ∀ table, sized.result = .ok table → table.WellMounted) :
    Spares (complete sized source).1.result := by
  cases hresult : sized.result with
  | error error =>
    rw [complete_of_error hresult, ← hresult]
    exact hsized
  | ok table =>
    rw [complete_of_ok hresult]
    have hidentified := (table.identify_resembles source).1.wellMounted (hmounted table hresult)
    exact spares_bind hidentified.validate_spares fun _ _ => spares_ok _

theorem build_spares {base : PartitionTable} {requests : List FilesystemRequest}
    (hrequests : validateFilesystemRequests requests = .ok ())
    (hbase : base.validateStructure.result = .ok ()) (goal : Nat) (options : BuildOptions)
    (source : RandomSource) : Spares (build base requests goal options source).1.result := by
  have hassemble : Spares (assemble base requests options).result := by
    unfold assemble
    simp only [Logged.result_bind, Logged.result_lift, Logged.result_note, Logged.result_notes,
      ok_bind, hrequests, hbase]
    refine spares_bind (PartitionTable.prepare_spares _ _ _) fun _ _ => ?_
    exact spares_bind (PartitionTable.addMountpoints_spares _ _ _) fun _ _ => spares_ok _
  rw [build_result]
  refine complete_spares source ?_ fun table htable => ?_
  · rw [sizeBuilt_result]
    exact spares_bind hassemble fun _ _ => PartitionTable.settle_spares _ _ _
  · rw [sizeBuilt_result, bind_eq_ok] at htable
    obtain ⟨⟨assembled, minimums⟩, hassembled, hsettled⟩ := htable
    exact (assembled_wellMounted hassembled).settle hsettled

/-! ### Requests that fail -/

theorem Custom.nameVolumes_spares (group : VolumeGroup) (index : Nat)
    (requests : List LogicalVolumeRequest) : Spares (nameVolumes group index requests) := by
  induction requests generalizing group index with
  | nil => exact spares_ok _
  | cons request others ih =>
    unfold nameVolumes
    split
    · exact spares_bind (group.generateName_spares _) fun _ _ => ih _ _
    · exact ih _ _

theorem Custom.volumeGroup_spares (options : CustomOptions) (hasRoot : Bool)
    (request : VolumeGroupRequest) : Spares (volumeGroup options hasRoot request) := by
  unfold volumeGroup
  refine spares_bind (nameVolumes_spares _ _ _) fun group _ => ?_
  cases hasRoot with
  | true => exact spares_ok _
  | false => exact spares_bind (group.newVolume_spares _ _ _) fun _ _ => spares_ok _

theorem Custom.btrfs_spares (hasRoot : Bool) (request : BtrfsRequest) :
    Spares (btrfs hasRoot request) := by
  unfold btrfs
  cases hasRoot with
  | true => exact spares_ok _
  | false => exact spares_bind (Btrfs.newSubvolume_spares _ _ _) fun _ _ => spares_ok _

theorem assembleCustom_spares {request : PartitioningRequest} (hvalid : request.validate = .ok ())
    (options : CustomOptions) : Spares (assembleCustom request options).result := by
  unfold assembleCustom
  simp only [Logged.result_bind, Logged.result_lift, hvalid, ok_bind]
  refine spares_bind ?_ fun _ _ => spares_ok _
  unfold containerPartitions
  dsimp only
  split
  · simp only [Logged.result_bind, Logged.result_lift, Logged.result_note, ok_bind]
    exact spares_bind (volumeGroup_spares _ _ _) fun _ _ => spares_ok _
  · simp only [Logged.result_bind, Logged.result_lift, Logged.result_note, ok_bind]
    exact spares_bind (btrfs_spares _ _) fun _ _ => spares_ok _
  · split
    · exact spares_ok _
    · exact spares_ok _

theorem buildCustom_spares {request : PartitioningRequest} (hvalid : request.validate = .ok ())
    (options : CustomOptions) (source : RandomSource) :
    Spares (buildCustom request options source).1.result := by
  have hbuilt : (buildCustom request options source).1.result =
      (complete (sizeCustom request options) source).1.result :=
    announce_result _ _ _
  rw [hbuilt]
  refine complete_spares source ?_ fun table htable => ?_
  · unfold sizeCustom
    simp only [Logged.result_bind, Logged.result_notes, ok_bind]
    exact spares_bind (assembleCustom_spares hvalid options) fun _ _ =>
      PartitionTable.settle_spares _ _ _
  · unfold sizeCustom at htable
    simp only [Logged.result_bind, Logged.result_notes, ok_bind, bind_eq_ok] at htable
    obtain ⟨assembled, hassembled, hsettled⟩ := htable
    exact (customAssembled_wellMounted hassembled).settle hsettled

/-! ### The table of an image -/

/-- Every mountpoint that a document asks for. -/
def Customizations.mountpoints (customizations : Customizations) : List String :=
  customizations.filesystem.map FilesystemRequest.mountpoint ++
    customizations.partitioning.toList.flatMap PartitioningRequest.mountpoints

theorem Logged.within_eq_ok {α : Type} {context : String} {computation : Logged LayoutError α}
    {value : α} :
    (computation.within context).result = .ok value ↔ computation.result = .ok value := by
  unfold Logged.within
  rw [Logged.result_mapError]
  cases computation.result <;> simp [Except.mapError]

theorem Logged.within_eq_error {α : Type} {context : String} {computation : Logged LayoutError α}
    {report : Report} (h : (computation.within context).result = .error report) :
    ∃ error, computation.result = .error error ∧ report.kind = .layout error := by
  unfold Logged.within at h
  rw [Logged.result_mapError] at h
  cases hresult : computation.result with
  | ok value =>
    rw [hresult] at h
    cases h
  | error error =>
    rw [hresult] at h
    obtain rfl := Except.error.inj h
    exact ⟨error, rfl, rfl⟩

/-- The check of a profile passes if the default filesystem can be used everywhere, every directory
that needs space is a canonical path, and the structure of the base table is valid. -/
theorem ImageProfile.validate_eq_ok {profile : ImageProfile} :
    profile.validate.result = .ok () ↔ profile.defaultFilesystem ≠ .vfat ∧
      (∀ directory ∈ profile.requiredSizes.keys, Path.isCanonical directory = true) ∧
      profile.baseTable.validateStructure.result = .ok () := by
  unfold ImageProfile.validate
  by_cases hkind : profile.defaultFilesystem = .vfat
  · simp [hkind]
  · cases hfind : profile.requiredSizes.keys.find? fun directory => !Path.isCanonical directory with
    | some directory =>
      have hmem := List.mem_of_find?_eq_some hfind
      have hnot : Path.isCanonical directory = false := by simpa using List.find?_some hfind
      refine iff_of_false (by simp [hkind]) ?_
      rintro ⟨-, hcanonical, -⟩
      rw [hcanonical directory hmem] at hnot
      cases hnot
    | none =>
      have hcanonical : ∀ directory ∈ profile.requiredSizes.keys,
          Path.isCanonical directory = true := by
        simpa using List.find?_eq_none.1 hfind
      simpa [hkind, mapError_eq_ok] using fun _ => hcanonical

namespace ImageProfile

variable {profile : ImageProfile} {customizations : Customizations} {source : RandomSource}

/-- Plain mountpoint requests that give a table are allowed, and the table is built from them. -/
theorem mergeTable_eq_ok {requests : List FilesystemRequest} {table : PartitionTable}
    (h : (profile.mergeTable requests source).1.result = .ok table) :
    profile.policy.checkFilesystems requests = .ok () ∧
      (build profile.baseTable requests profile.minSize (.ofProfile profile) source).1.result =
        .ok table := by
  unfold mergeTable at h
  split at h
  · cases h
  · rename_i hpolicy
    exact ⟨hpolicy, Logged.within_eq_ok.1 h⟩

/-- The table of an image is built only from customizations that pass under the policy. -/
theorem checkAgainst_of_buildTable {table : PartitionTable}
    (h : (profile.buildTable customizations source).1.result = .ok table) :
    customizations.checkAgainst profile.policy = .ok () := by
  rw [Customizations.checkAgainst_eq_ok]
  unfold buildTable at h
  cases hpartitioning : customizations.partitioning with
  | none =>
    simp only [hpartitioning] at h
    obtain ⟨hpolicy, hbuilt⟩ := mergeTable_eq_ok h
    obtain ⟨assembled, minimums, hassemble, -⟩ := build_eq_ok hbuilt
    exact ⟨⟨validate_of_assemble hassemble, hpolicy⟩, nofun⟩
  | some request =>
    simp only [hpartitioning] at h
    split at h
    · rename_i hempty
      rw [List.isEmpty_iff.1 hempty]
      unfold replaceTable at h
      split at h
      · cases h
      · rename_i hpolicy
        simp only [Logged.result_bind, Logged.result_note, ok_bind, Logged.within_eq_ok] at h
        obtain ⟨assembled, hassemble, -⟩ := buildCustom_eq_ok h
        refine ⟨⟨rfl, rfl⟩, ?_⟩
        rintro _ ⟨⟩
        exact ⟨(assembleCustom_eq_ok hassemble).1, hpolicy⟩
    · cases h

/-- Customizations that pass are not refused for a mountpoint when the table is built. -/
theorem spares_of_checkAgainst {report : Report} (hprofile : profile.validate.result = .ok ())
    (hchecked : customizations.checkAgainst profile.policy = .ok ())
    (h : (profile.buildTable customizations source).1.result = .error report) :
    ∃ error, report.kind = .layout error ∧ ∀ leaf ∈ error.leaves, ¬ leaf.RefusesMountpoint := by
  obtain ⟨⟨hrequests, hpolicy⟩, hpartitioning⟩ := Customizations.checkAgainst_eq_ok.1 hchecked
  obtain ⟨-, -, hbase⟩ := validate_eq_ok.1 hprofile
  unfold buildTable at h
  cases hrequest : customizations.partitioning with
  | none =>
    simp only [hrequest, mergeTable, hpolicy] at h
    obtain ⟨error, herror, hkind⟩ := Logged.within_eq_error h
    exact ⟨error, hkind, build_spares hrequests hbase _ _ _ error herror⟩
  | some request =>
    obtain ⟨hvalid, hallowed⟩ := hpartitioning request hrequest
    simp only [hrequest] at h
    split at h
    · simp only [replaceTable, hallowed, Logged.result_bind, Logged.result_note, ok_bind] at h
      obtain ⟨error, herror, hkind⟩ := Logged.within_eq_error h
      exact ⟨error, hkind, buildCustom_spares hvalid _ _ error herror⟩
    · obtain ⟨error, herror, hkind⟩ := Logged.within_eq_error h
      exact ⟨error, hkind,
        @spares_leaf PartitionTable (.unsupportedCombination _) rfl not_false error herror⟩

end ImageProfile

theorem Customizations.allowed_of_checkAgainst {policy : MountPolicy}
    {customizations : Customizations} (h : customizations.checkAgainst policy = .ok ()) :
    ∀ mountpoint ∈ customizations.mountpoints, policy.check mountpoint = .ok () := by
  obtain ⟨⟨-, hfilesystems⟩, hpartitioning⟩ := checkAgainst_eq_ok.1 h
  intro mountpoint hmem
  rcases List.mem_append.1 hmem with hmem | hmem
  · exact MountPolicy.checkAll_eq_ok.1 hfilesystems mountpoint hmem
  · obtain ⟨request, hrequest, hmem⟩ := List.mem_flatMap.1 hmem
    exact MountPolicy.checkAll_eq_ok.1 (hpartitioning request (Option.mem_toList.1 hrequest)).2
      mountpoint hmem

/-- The policy of a profile cannot be avoided, and its check is the only one that decides about
mountpoints.  A table that is built for an image had customizations that pass, with mountpoints
that are absolute, canonical and allowed.  And where a valid profile and customizations that pass
give no table, no part of the error refuses a mountpoint. -/
theorem buildTable_policy :
    (∀ (profile : ImageProfile) (customizations : Customizations) (source : RandomSource)
        (table : PartitionTable),
      (profile.buildTable customizations source).1.result = .ok table →
      customizations.checkAgainst profile.policy = .ok () ∧
      ∀ mountpoint ∈ customizations.mountpoints, Path.isAbsolute mountpoint = true ∧
        Path.isCanonical mountpoint = true ∧ profile.policy.allows mountpoint = true) ∧
    ∀ (profile : ImageProfile) (customizations : Customizations) (source : RandomSource)
        (report : Report),
      profile.validate.result = .ok () → customizations.checkAgainst profile.policy = .ok () →
      (profile.buildTable customizations source).1.result = .error report →
      ∃ error, report.kind = .layout error ∧
        ∀ leaf ∈ error.leaves, ¬ leaf.RefusesMountpoint := by
  constructor
  · intro profile customizations source table h
    have hchecked := ImageProfile.checkAgainst_of_buildTable h
    exact ⟨hchecked, fun mountpoint hmem =>
      MountPolicy.check_eq_ok.1 (Customizations.allowed_of_checkAgainst hchecked mountpoint hmem)⟩
  · intro profile customizations source report hprofile hchecked h
    exact ImageProfile.spares_of_checkAgainst hprofile hchecked h

/-- A profile with a base table and the usual policy. -/
def ImageProfile.ofBase (base : PartitionTable) : ImageProfile :=
  ⟨none, base, 1, .autoLvm, .empty, .standard, .standard, .xfs⟩

theorem buildTable_policy_ofBase :
    (∃ table, ((ImageProfile.ofBase .rootDisk).buildTable ⟨[.new "/var" 5], none⟩
        ⟨fun _ => 0, 0⟩).1.result = .ok table ∧
      MountPolicy.standard.allows "/var" = true) ∧
    ∃ report error, ((ImageProfile.ofBase (.empty .gpt)).buildTable .nothing
        ⟨fun _ => 0, 0⟩).1.result = .error report ∧ report.kind = .layout error ∧
      ∀ leaf ∈ error.leaves, ¬ leaf.RefusesMountpoint := by
  constructor
  · refine ⟨_, rfl, ?_⟩
    exact ((buildTable_policy.1 (.ofBase .rootDisk) ⟨[.new "/var" 5], none⟩ ⟨fun _ => 0, 0⟩ _
      rfl).2 "/var" (by decide)).2.2
  · obtain ⟨error, hkind, hleaves⟩ := buildTable_policy.2 (.ofBase (.empty .gpt)) .nothing
      ⟨fun _ => 0, 0⟩ _ rfl rfl rfl
    exact ⟨_, error, rfl, hkind, hleaves⟩

end DiskLayout
