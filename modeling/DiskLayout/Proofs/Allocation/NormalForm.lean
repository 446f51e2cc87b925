import DiskLayout.Proofs.Allocation.Assembly
import DiskLayout.Proofs.Allocation.CustomAssembly
import DiskLayout.Proofs.Allocation.TotalSize
import DiskLayout.Proofs.Table.NormalForm

/-!
# Built tables are in normal form

What is added to a table has no identifiers and a well-known type.  Sizing changes neither, and
identification makes UUIDs, serial numbers and disk identifiers, whose texts are too short to spell
a UUID.  A table that is built is therefore in normal form if its base is, and always if there is
none.

## Main results

* `PartitionTable.IsNormal.assembled`, `customAssembled_isNormal` — assembled tables
* `PartitionTable.IsNormal.settle`, `PartitionTable.IsNormal.identify` — sized, identified tables
* `built_isNormal`, `customBuilt_isNormal` — finished tables
-/

namespace DiskLayout

open Custom

/-! ### New parts -/

namespace Partition

variable {partition : Partition} {inner : Payload}

theorem isNormal_of_payload (hkind : partition.kind.IsNormal)
    (hpayload : partition.payload = some inner) (h : inner.All Node.IsNormal) :
    partition.IsNormal :=
  ⟨hkind, fun _ hsome => Option.some.inj (hpayload.symm.trans hsome) ▸ h⟩

theorem IsNormal.content (h : partition.IsNormal) (hcontent : partition.content? = some inner) :
    inner.All Node.IsNormal :=
  all_content h.2 hcontent

/-- A partition is in normal form when its content is replaced by one that is. -/
theorem IsNormal.replace (h : partition.IsNormal) (hcontent : partition.content? = some inner)
    {new : Payload} (hnew : new.All Node.IsNormal) :
    (partition.mapContent fun _ => new).IsNormal :=
  ⟨h.1, all_replace hcontent
    (fun _ hpayload => (Payload.all_luks.1 (h.2 _ hpayload)).1) hnew⟩

theorem isNormal_new (size : Nat) {kind : PartitionType} (hkind : kind ∈ PartitionType.known)
    {payload : Payload} (h : payload.All Node.IsNormal) :
    (Partition.new size kind (some payload)).IsNormal :=
  isNormal_of_payload (PartitionType.isNormal_of_mem hkind) rfl h

theorem isNormal_requestedFilesystem (request : FilesystemRequest) (kind : FilesystemType) :
    (Payload.filesystem (requestedFilesystem request kind)).All Node.IsNormal :=
  Payload.all_filesystem.2 VolumeId.allNormal_none

theorem isNormal_esp (size : Nat) : (Partition.esp size).IsNormal :=
  isNormal_new _ (by decide) (Payload.all_filesystem.2 VolumeId.allNormal_none)

theorem isNormal_plain (request : FilesystemRequest) (kind : FilesystemType)
    (architecture : Architecture) : (Partition.plain request kind architecture).IsNormal := by
  have htype : PartitionType.ofMountpoint architecture request.mountpoint ∈
      PartitionType.known := by
    unfold PartitionType.ofMountpoint
    split
    · cases architecture <;> decide
    split
    · cases architecture <;> decide
    split <;> decide
  unfold plain
  split
  · exact isNormal_esp _
  · exact isNormal_new _ htype (isNormal_requestedFilesystem request kind)

theorem isNormal_boot (kind : FilesystemType) : (Partition.boot kind).IsNormal :=
  isNormal_plain _ _ _

end Partition

/-! ### Assembled tables -/

namespace PartitionTable

variable {table result : PartitionTable}

theorem isNormal_split {before after : List Partition} {partition : Partition}
    (hsplit : table.partitions = before ++ partition :: after) :
    table.IsNormal ↔ VolumeId.AllNormal table.uuid ∧ (∀ other ∈ before, other.IsNormal) ∧
      partition.IsNormal ∧ ∀ other ∈ after, other.IsNormal := by
  rw [isNormal_iff, hsplit, List.forall_mem_append, List.forall_mem_cons]

/-- Only the identifier and the partitions of a table matter. -/
theorem IsNormal.congr {other : PartitionTable} (h : table.IsNormal)
    (huuid : other.uuid = table.uuid) (hpartitions : other.partitions = table.partitions) :
    other.IsNormal := by
  rw [isNormal_iff, huuid, hpartitions]
  exact isNormal_iff.1 h

/-- A table stays in normal form as one partition gives way to another in normal form. -/
theorem IsNormal.replace {before after : List Partition} {old new : Partition}
    (h : table.IsNormal) (hsplit : table.partitions = before ++ old :: after)
    (hnew : old.IsNormal → new.IsNormal) :
    (table.withPartitions (before ++ new :: after)).IsNormal := by
  obtain ⟨huuid, hbefore, hold, hafter⟩ := (isNormal_split hsplit).1 h
  exact (isNormal_split rfl).2 ⟨huuid, hbefore, hnew hold, hafter⟩

theorem IsNormal.addBeforeRoot (h : table.IsNormal) {new : Partition} (hnew : new.IsNormal) :
    (table.addBeforeRoot new).IsNormal := by
  obtain ⟨before, after, hsplit, hresult, -⟩ := addBeforeRoot_split table new
  rw [isNormal_iff, hsplit, List.forall_mem_append] at h
  rw [hresult]
  exact (isNormal_split rfl).2 ⟨h.1, h.2.1, hnew, h.2.2⟩

theorem IsNormal.adds {options : BuildOptions} {request : FilesystemRequest} {place : Place}
    (h : table.IsNormal) (hadds : Adds options request place table result) : result.IsNormal := by
  cases hadds with
  | partition _ => exact h.addBeforeRoot (Partition.isNormal_plain _ _ _)
  | @logicalVolume _ before after holder group volume hsplit _ hcontent _ =>
    refine h.replace hsplit fun hholder => hholder.replace hcontent ?_
    obtain ⟨-, hvolumes⟩ := Payload.all_volumeGroup.1 (hholder.content hcontent)
    refine Payload.all_volumeGroup.2 ⟨trivial, List.forall_mem_append.2 ⟨hvolumes, ?_⟩⟩
    refine List.forall_mem_singleton.2 ⟨trivial, fun payload hpayload => ?_⟩
    obtain rfl := Option.some.inj hpayload
    exact Partition.isNormal_requestedFilesystem _ _
  | @subvolume _ before after holder volume new hsplit _ hcontent _ =>
    refine h.replace hsplit fun hholder => hholder.replace hcontent ?_
    obtain ⟨hvolume, -⟩ := Payload.all_btrfs.1 (hholder.content hcontent)
    exact Payload.all_btrfs.2 ⟨hvolume, fun _ _ => trivial⟩

theorem IsNormal.addsEach {options : BuildOptions} {requests : List FilesystemRequest}
    (h : table.IsNormal) (hadds : AddsEach options requests table result) : result.IsNormal := by
  induction hadds with
  | nil => exact h
  | skip _ _ ih => exact ih h
  | add hedit _ ih => exact ih (h.adds hedit)

/-- A volume group takes the root filesystem in with its identifier, and a btrfs volume takes the
identifier over. -/
theorem IsNormal.movesRoot {place : Place} (h : table.IsNormal)
    (hmoves : MovesRoot place table result) : result.IsNormal := by
  cases hmoves with
  | @volumeGroup _ before after holder system name hsplit hcontent _ _ =>
    refine h.replace hsplit fun hholder => ?_
    have hgroup : (Payload.volumeGroup
        (Conversion.rootGroup holder system name)).All Node.IsNormal := by
      refine Payload.all_volumeGroup.2 ⟨trivial, List.forall_mem_singleton.2 ⟨trivial, ?_⟩⟩
      intro payload hpayload
      obtain rfl := Option.some.inj hpayload
      exact hholder.content hcontent
    have hreplaced := hholder.replace hcontent hgroup
    -- Outside an encrypted container the partition is marked as a physical volume, a known type.
    unfold Conversion.toVolumeGroup
    split
    · exact hreplaced
    · exact ⟨show PartitionType.lvm.IsNormal from trivial, hreplaced.2⟩
  | @btrfs _ before after holder system new hsplit hcontent _ _ =>
    refine h.replace hsplit fun hholder => hholder.replace hcontent ?_
    have hsystem := Payload.all_filesystem.1 (hholder.content hcontent)
    exact Payload.all_btrfs.2 ⟨hsystem, fun _ _ => trivial⟩

theorem IsNormal.prepare {options : BuildOptions} {contained : Bool} (h : table.IsNormal)
    (hprepared : (table.prepare options contained).result = .ok result) : result.IsNormal := by
  rcases prepare_moves hprepared with ⟨-, rfl⟩ | ⟨-, booted, hbooted, hmoves⟩
  · exact h
  · refine IsNormal.movesRoot ?_ hmoves
    rcases ensureBoot_cases hbooted with ⟨-, rfl⟩ | ⟨-, rfl⟩
    · exact h
    · exact h.addBeforeRoot (Partition.isNormal_boot _)

/-- A table that is assembled from a base in normal form is in normal form. -/
theorem IsNormal.assembled {requests : List FilesystemRequest} {options : BuildOptions}
    {minimums : Minimums} (h : table.IsNormal)
    (hassembled : (assemble table requests options).result = .ok (result, minimums)) :
    result.IsNormal := by
  obtain ⟨-, -, prepared, hprepared, hadds⟩ := assemble_eq_edits hassembled
  exact (h.prepare hprepared).addsEach hadds

end PartitionTable

theorem Custom.uuid_of_mem_requestedSystems {options : CustomOptions} {hasRoot : Bool}
    {request : VolumeGroupRequest} {system : Filesystem}
    (h : system ∈ requestedSystems options hasRoot request) : system.uuid = none := by
  rcases List.mem_append.1 h with h | h
  · obtain ⟨volume, -, rfl⟩ := List.mem_map.1 h
    rfl
  · split at h
    · cases h
    · obtain rfl := List.mem_singleton.1 h
      rfl

theorem Custom.markBootable_uuid (options : CustomOptions) (table : PartitionTable) :
    (markBootable options table).uuid = table.uuid := by
  unfold markBootable
  split
  · split <;> rfl
  · rfl

/-- A table that is laid out from a request is in normal form. -/
theorem customAssembled_isNormal {request : PartitioningRequest} {options : CustomOptions}
    {table : PartitionTable} (h : (assembleCustom request options).result = .ok table) :
    table.IsNormal := by
  have hpartitions : ∀ partition ∈ table.partitions, partition.IsNormal := by
    refine forall_mem_customAssembled h ?_ ?_ ?_ ?_ (Partition.isNormal_plain _ _ _)
    · intro old new hcontents hold
      refine ⟨hcontents.kind ▸ hold.1, fun payload hpayload => hold.2 payload ?_⟩
      rwa [← hcontents.payload]
    · refine forall_mem_plainPartitions ?_ (Partition.isNormal_esp 0)
        (fun _ _ => Partition.isNormal_plain _ _ _) (Partition.isNormal_boot _)
      exact ⟨PartitionType.isNormal_of_mem (by decide), fun _ hpayload => nomatch hpayload⟩
    · intro group _ volumes hvolumes
      refine Partition.isNormal_new _ (by decide) (Payload.all_volumeGroup.2 ⟨trivial, ?_⟩)
      intro volume hvolume
      obtain ⟨system, hsystem, hpayload⟩ := volumeGroup_systems hvolumes volume hvolume
      refine ⟨trivial, fun payload hsome => ?_⟩
      obtain rfl := Option.some.inj (hpayload.symm.trans hsome)
      have hnone : system.uuid = none := uuid_of_mem_requestedSystems hsystem
      exact Payload.all_filesystem.2 fun id hid => nomatch hnone.symm.trans hid
    · intro requested _ volume hvolume
      obtain ⟨-, rfl⟩ := btrfs_eq_ok_iff.1 hvolume
      refine Partition.isNormal_new _ (by decide) (Payload.all_btrfs.2 ⟨?_, fun _ _ => trivial⟩)
      exact VolumeId.allNormal_none
  obtain ⟨-, container, -, rfl⟩ := assembleCustom_eq_ok_iff.1 h
  refine PartitionTable.isNormal_iff.2 ⟨?_, hpartitions⟩
  rw [markBootable_uuid]
  exact VolumeId.allNormal_none

/-! ### Sizing -/

open Sizing

theorem resizer_preserves (minimums : Minimums) :
    (resizer minimums).Preserves Node.IsNormal where
  partition _ _ h := h
  filesystem _ h := h
  volumeGroup _ h := h
  logicalVolume _ h := h
  btrfs _ h := h
  subvolume _ h := h
  swap _ h := h
  luks _ h := h

theorem growPartition_isNormal {partition : Partition} (h : partition.IsNormal) (delta : Nat) :
    (growPartition delta partition).IsNormal := by
  have henlarged : (partition.enlarge delta).IsNormal := h
  rcases growPartition_cases delta partition with hsame | ⟨group, hcontent, hmap⟩
  · rw [hsame]
    exact henlarged
  · rw [hmap]
    refine henlarged.replace hcontent (Payload.all_volumeGroup.2 ⟨trivial, ?_⟩)
    obtain ⟨-, hvolumes⟩ := Payload.all_volumeGroup.1 (henlarged.content hcontent)
    rcases VolumeGroup.growRootVolume_cases (innerSize (partition.enlarge delta)) group with
      hgroup | ⟨before, root, after, hsplit, hgroup⟩
    · rw [hgroup]
      exact hvolumes
    · rw [hsplit, List.forall_mem_append, List.forall_mem_cons] at hvolumes
      rw [hgroup, List.forall_mem_append, List.forall_mem_cons]
      exact hvolumes

theorem syncPartition_isNormal {partition : Partition} (h : partition.IsNormal) :
    (syncPartition partition).IsNormal := by
  rcases syncPartition_cases partition with hsame | ⟨volume, hcontent, hmap⟩
  · rw [hsame]
    exact h
  · rw [hmap]
    obtain ⟨hvolume, hsubvolumes⟩ := Payload.all_btrfs.1 (h.content hcontent)
    exact h.replace hcontent (Payload.all_btrfs.2 ⟨hvolume, hsubvolumes⟩)

namespace PartitionTable

variable {table settled : PartitionTable}

theorem IsNormal.resize (h : table.IsNormal) (minimums : Minimums) :
    (table.resize minimums).IsNormal := by
  obtain ⟨huuid, hnodes⟩ := PartitionTable.edit_preserves .childrenFirst Node.isNormal_shallow
    (resizer_preserves minimums) h.nodes
  exact ⟨huuid ▸ h.uuid, hnodes⟩

theorem IsNormal.grow {goal : Nat} {grown : PartitionTable} (h : table.IsNormal)
    (hgrown : (table.grow goal).result = .ok grown) : grown.IsNormal := by
  rcases grow_eq_ok hgrown with ⟨-, rfl⟩ | ⟨-, index, hindex, -, rfl⟩
  · exact h.congr rfl rfl
  · obtain ⟨before, partition, after, hsplit, -, -, hmodify⟩ := modify_split hindex
    have hreplaced := h.replace hsplit fun hold => growPartition_isNormal hold
      (alignUp goal Size.sector - table.partitionsSize)
    exact hreplaced.congr rfl (hmodify _)

/-- A table that is sized is in normal form if it was before. -/
theorem IsNormal.settle {minimums : Minimums} {goal : Nat} (h : table.IsNormal)
    (hsettled : (table.settle minimums goal).result = .ok settled) : settled.IsNormal := by
  obtain ⟨grown, hgrown, rfl⟩ := settle_eq_ok.1 hsettled
  obtain ⟨huuid, hpartitions⟩ := isNormal_iff.1 ((h.resize minimums).grow hgrown)
  refine isNormal_iff.2 ⟨huuid, fun partition hpartition => ?_⟩
  obtain ⟨old, hold, rfl⟩ := List.mem_map.1 hpartition
  exact syncPartition_isNormal (hpartitions old hold)

end PartitionTable

/-! ### Identification -/

open Identification

theorem VolumeId.AllNormal.orElse {id? : Option VolumeId} (h : VolumeId.AllNormal id?)
    {other : VolumeId} (hother : other.IsNormal) :
    VolumeId.AllNormal (id? <|> some other) := by
  intro id hid
  cases id? with
  | none => exact Option.some.inj hid ▸ hother
  | some kept => exact h id hid

theorem isNormal_tableId (kind : TableKind) (bytes : Vector UInt8 16) :
    (tableId kind bytes).IsNormal := by
  cases kind with
  | gpt => exact VolumeId.isNormal_random bytes
  | dos => exact (VolumeId.isDosDisk_dosDisk bytes).isNormal

theorem isNormal_filesystemId (kind : FilesystemType) (bytes : Vector UInt8 16) :
    (filesystemId kind bytes).IsNormal := by
  unfold filesystemId
  split
  · exact (VolumeId.isFatSerial_fatSerial bytes).isNormal
  · exact VolumeId.isNormal_random bytes

theorem identifier_preserves (kind : TableKind) :
    (identifier kind).Preserves Node.IsNormal where
  partition _ _ h := always_bind always_draw fun _ _ => always_pure h
  filesystem _ h := always_bind always_draw fun bytes _ =>
    always_pure (VolumeId.AllNormal.orElse h (isNormal_filesystemId _ bytes))
  volumeGroup _ _ := always_pure trivial
  logicalVolume _ _ := always_pure trivial
  btrfs _ h := always_bind always_draw fun bytes _ =>
    always_pure (VolumeId.AllNormal.orElse h (VolumeId.isNormal_random bytes))
  subvolume _ _ := always_pure trivial
  swap _ h := always_bind always_draw fun bytes _ =>
    always_pure (VolumeId.AllNormal.orElse h (VolumeId.isNormal_random bytes))
  luks _ h := always_bind always_draw fun bytes _ =>
    always_pure (VolumeId.AllNormal.orElse h (VolumeId.isNormal_random bytes))

/-- A table that is identified is in normal form if it was before. -/
theorem PartitionTable.IsNormal.identify {table : PartitionTable} (h : table.IsNormal)
    (source : RandomSource) : (table.identify.run source).1.IsNormal := by
  have hidentify : always PartitionTable.IsNormal table.identify := by
    refine always_bind always_draw fun bytes _ => ?_
    have hfilled : PartitionTable.IsNormal
        { table with uuid := table.uuid <|> some (tableId table.kind bytes) } :=
      isNormal_iff.2 ⟨h.uuid.orElse (isNormal_tableId table.kind bytes), (isNormal_iff.1 h).2⟩
    have hedited := edit_preserves .parentsFirst Node.isNormal_shallow
      (identifier_preserves table.kind) hfilled.nodes
    exact fun state => ⟨(hedited state).1 ▸ hfilled.uuid, (hedited state).2⟩
  exact hidentify source

/-! ### Finished tables -/

theorem PartitionTable.IsNormal.complete {table result : PartitionTable} {minimums : Minimums}
    {goal : Nat} {source : RandomSource} (h : table.IsNormal)
    (hcomplete : (complete (table.settle minimums goal) source).1.result = .ok result) :
    result.IsNormal := by
  obtain ⟨settled, hsettled, rfl, -⟩ := complete_eq_ok.1 hcomplete
  exact (h.settle hsettled).identify source

/-- A table that is built from a base in normal form is in normal form. -/
theorem built_isNormal {base result : PartitionTable} {requests : List FilesystemRequest}
    {goal : Nat} {options : BuildOptions} {source : RandomSource} (h : base.IsNormal)
    (hbuilt : (build base requests goal options source).1.result = .ok result) :
    result.IsNormal := by
  obtain ⟨table, minimums, hassemble, hcomplete⟩ := build_eq_ok_iff.1 hbuilt
  exact (h.assembled hassemble).complete hcomplete

/-- A table that is built for a partitioning request is in normal form. -/
theorem customBuilt_isNormal {request : PartitioningRequest} {options : CustomOptions}
    {source : RandomSource} {result : PartitionTable}
    (hbuilt : (buildCustom request options source).1.result = .ok result) : result.IsNormal := by
  obtain ⟨table, hassemble, -⟩ := buildCustom_eq_ok hbuilt
  rw [buildCustom_of_ok hassemble] at hbuilt
  exact (customAssembled_isNormal hassemble).complete hbuilt

end DiskLayout
