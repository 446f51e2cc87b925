import DiskLayout.Proofs.Allocation.Frame
import DiskLayout.Proofs.Allocation.Stability
import DiskLayout.Proofs.Table.Naming

/-!
# The space of converted root partitions

A conversion records a size for the container that takes the root filesystem over, and sizing reads
it back as what the partition must hold.  A volume group asks for no more than the partition has,
for its root volume leaves out the metadata and the header of an encrypted container.  A btrfs
volume records the whole partition, so that it asks for the header on top: an encrypted partition
grows by exactly that header, and any other one stays as it is.

## Main definitions

* `Partition.requirement` — the space that a partition needs for its payload
* `PartitionTable.RootConverted` — a conversion with the partition before and after

## Main results

* `rootGroup_requiredSize_le` — a new volume group fits into the space behind the header
* `Partition.resize_empty_size` — what a partition becomes where no minimum asks for more
* `toVolumeGroup_space`, `rootBtrfs_space` — the space that the new containers need
* `PartitionTable.conversion_space` — what conversions ask for
-/

namespace DiskLayout

open Sizing Conversion

/-! ### The space that a partition needs -/

/-- The space that a partition needs for its payload. -/
def Partition.requirement (partition : Partition) : Nat :=
  (partition.payload.map Payload.requirement).getD 0

theorem luksOverhead_eq (partition : Partition) :
    luksOverhead partition.payload = if partition.isEncrypted then Size.luksHeader else 0 := by
  unfold Partition.isEncrypted
  cases partition.payload with
  | none => rfl
  | some payload => cases payload <;> simp [luksOverhead, Payload.isLuks]

section Replaced

variable {holder : Partition} {inner : Payload}

/-- A new content needs its own space and the header of the container around it. -/
theorem Partition.requirement_replace (hcontent : holder.content? = some inner) (new : Payload) :
    (holder.mapContent fun _ => new).requirement =
      new.requirement + luksOverhead holder.payload := by
  unfold requirement
  rcases content?_eq_some.1 hcontent with ⟨hpayload, hluks⟩ | ⟨container, hpayload, rfl⟩
  · rw [mapContent_of_payload hpayload hluks, hpayload, luksOverhead_of_not_isLuks hluks,
      Nat.add_zero, Option.map_some, Option.getD_some]
  · rw [mapContent_of_luks hpayload, hpayload, Option.map_some, Payload.requirement_luks,
      Option.getD_some, luksOverhead]

end Replaced

/-- Where no minimum asks for more, a partition with settled contents becomes as large as its
payload needs, and never smaller. -/
theorem Partition.resize_empty_size {partition : Partition}
    (h : ∀ payload, partition.payload = some payload →
      payload.All fun node => node.Sufficient .empty ∧ node.Rounded) :
    (partition.resize .empty).size =
      alignUp (max partition.size partition.requirement) Size.partitionGrain := by
  have hpayload : partition.payload.map (Payload.resize .empty) = partition.payload := by
    cases hpartition : partition.payload with
    | none => rfl
    | some payload =>
      have hsame : payload = payload.resize .empty :=
        payload.edit_leaves .childrenFirst (resizer_leaves .empty) (h payload hpartition)
      rw [Option.map_some, ← hsame]
  have hsize : deviceSize .empty partition.size partition.payload =
      max partition.size partition.requirement := by
    unfold deviceSize requirement
    cases partition.payload.bind Payload.mountpoint? <;> simp
  rw [← hsize, ← hpayload, resize, hpayload]

/-! ### The containers of conversions -/

section Containers

variable {holder : Partition} {system : Filesystem} {name : String}

theorem spaceForVolumes_eq (holder : Partition) : spaceForVolumes holder = innerSize holder := by
  unfold spaceForVolumes innerSize luksOverhead
  cases holder.payload with
  | none => rfl
  | some payload => cases payload <;> rfl

theorem rootGroup_volumes (holder : Partition) (system : Filesystem) (name : String) :
    (rootGroup holder system name).logicalVolumes =
      [⟨name, max (VolumeGroup.usableSize (innerSize holder))
        (alignUp system.leastSize Size.extent), some (.filesystem system)⟩] := by
  rw [← spaceForVolumes_eq]
  rfl

/-- The root volume of a new volume group has whole extents. -/
theorem rootVolume_mod (holder : Partition) (system : Filesystem) :
    max (VolumeGroup.usableSize (innerSize holder)) (alignUp system.leastSize Size.extent) %
      Size.extent = 0 := by
  rcases Nat.le_total (VolumeGroup.usableSize (innerSize holder))
    (alignUp system.leastSize Size.extent) with hle | hle
  · rw [Nat.max_eq_right hle]
    exact alignUp_mod _ Size.extent_ne_zero
  · rw [Nat.max_eq_left hle]
    exact alignDown_mod _ Size.extent_ne_zero

/-- A new volume group fits into the space behind the header, where the filesystem with the
metadata does. -/
theorem rootGroup_requiredSize_le
    (hroom : Size.volumeGroupMetadata + alignUp system.leastSize Size.extent ≤ innerSize holder) :
    (rootGroup holder system name).requiredSize ≤ innerSize holder := by
  have husable : VolumeGroup.usableSize (innerSize holder) ≤
      innerSize holder - Size.volumeGroupMetadata := alignDown_le _ _
  rw [VolumeGroup.requiredSize, rootGroup_volumes, List.map_singleton, Size.total, List.sum_cons,
    List.sum_nil, alignUp_of_mod (rootVolume_mod holder system)]
  omega

theorem rootGroup_settled (holder : Partition) (system : Filesystem) (name : String) :
    (Payload.volumeGroup (rootGroup holder system name)).All fun node =>
      node.Sufficient .empty ∧ node.Rounded := by
  refine Payload.all_volumeGroup.2 ⟨⟨trivial, trivial⟩, ?_⟩
  rw [rootGroup_volumes, List.forall_mem_singleton]
  refine ⟨⟨⟨rootVolume_mod holder system, deviceSize_le_iff.2 ⟨Nat.zero_le _, ?_, ?_⟩⟩, trivial⟩, ?_⟩
  · rintro _ ⟨⟩
    exact Nat.le_trans (le_alignUp system.leastSize Size.extent) (Nat.le_max_right _ _)
  · simp
  · rintro _ ⟨⟩
    exact Payload.all_filesystem.2 ⟨trivial, trivial⟩

/-- A new btrfs volume records the whole partition. -/
theorem rootBtrfs_requirement (system : Filesystem) {new : Subvolume} (hsize : new.size = 0)
    (hroom : Size.leastBtrfs ≤ holder.size) :
    (Payload.btrfs ((rootBtrfs holder system).append new)).requirement = holder.size := by
  refine Nat.max_eq_left ?_
  simpa [Btrfs.requiredSize, Btrfs.append, rootBtrfs, hsize] using hroom

theorem rootBtrfs_settled (system : Filesystem) {new : Subvolume} (hsize : new.size = 0)
    (hroom : Size.leastBtrfs ≤ holder.size) :
    (Payload.btrfs ((rootBtrfs holder system).append new)).All fun node =>
      node.Sufficient .empty ∧ node.Rounded := by
  refine Payload.all_btrfs.2 ⟨⟨trivial, ?_⟩, fun subvolume _ => ⟨?_, trivial⟩⟩
  · simpa [Node.Rounded, Btrfs.requiredSize, Btrfs.append, rootBtrfs, hsize] using hroom
  · simp [Node.Sufficient]

/-- A partition that a volume group takes over has room for it, encrypted or not. -/
theorem toVolumeGroup_space (hcontent : holder.content? = some (.filesystem system))
    (hroom : luksOverhead holder.payload + Size.volumeGroupMetadata +
      alignUp system.leastSize Size.extent ≤ holder.size) (name : String) :
    let new := toVolumeGroup (rootGroup holder system name) holder
    new.requirement ≤ holder.size ∧
      (new.resize .empty).size = alignUp holder.size Size.partitionGrain := by
  intro new
  have hpayload : new.payload =
      (holder.mapContent fun _ => .volumeGroup (rootGroup holder system name)).payload :=
    PartitionTable.payload_toVolumeGroup _ holder
  have hgroup : (rootGroup holder system name).requiredSize ≤ innerSize holder :=
    rootGroup_requiredSize_le (by unfold innerSize; omega)
  have hle : new.requirement ≤ holder.size := by
    rw [Partition.requirement, hpayload, ← Partition.requirement,
      Partition.requirement_replace hcontent, Payload.requirement]
    exact Nat.add_le_of_le_sub (by omega) hgroup
  have hsettled := Partition.all_replace hcontent (fun _ _ => ⟨trivial, trivial⟩)
    (rootGroup_settled holder system name)
  refine ⟨hle, ?_⟩
  rw [Partition.resize_empty_size (hpayload ▸ hsettled), PartitionTable.size_toVolumeGroup,
    Nat.max_eq_left hle]

/-- A partition that a btrfs volume takes over needs the header of an encrypted container on top of
its own size. -/
theorem rootBtrfs_space (hcontent : holder.content? = some (.filesystem system))
    {root : Subvolume} (hsize : root.size = 0) (hroom : Size.leastBtrfs ≤ holder.size) :
    let new := holder.mapContent fun _ => .btrfs ((rootBtrfs holder system).append root)
    new.requirement = holder.size + luksOverhead holder.payload ∧
      (new.resize .empty).size =
        alignUp (holder.size + luksOverhead holder.payload) Size.partitionGrain := by
  intro new
  have hrequired : new.requirement = holder.size + luksOverhead holder.payload := by
    rw [Partition.requirement_replace hcontent, rootBtrfs_requirement system hsize hroom]
  have hsettled := Partition.all_replace hcontent (fun _ _ => ⟨trivial, trivial⟩)
    (rootBtrfs_settled system hsize hroom)
  have hkept : new.size = holder.size := rfl
  refine ⟨hrequired, ?_⟩
  rw [Partition.resize_empty_size hsettled, hrequired, hkept,
    Nat.max_eq_right (Nat.le_add_right _ _)]

end Containers

/-! ### Conversions -/

namespace PartitionTable

variable {kind : FilesystemType} {table booted converted : PartitionTable} {holder : Partition}

/-- A table whose root filesystem `system`, which lies directly in a partition `holder` or in its
encrypted container, is converted: `new` is that partition afterwards, of the same size.  The other
partitions are those of the table once `/boot` is sure. -/
structure RootConverted (kind : FilesystemType) (table converted : PartitionTable)
    (holder : Partition) (system : Filesystem) (new : Partition) : Prop where
  mem : holder ∈ table.partitions
  content : holder.content? = some (.filesystem system)
  root : system.mountpoint = Path.root
  size : new.size = holder.size
  replaced : ∃ booted before after, (table.ensureBoot kind).result = .ok booted ∧
    booted.partitions = before ++ holder :: after ∧
    converted = booted.withPartitions (before ++ new :: after)

/-- Making sure of `/boot` adds no partition that mounts the root. -/
theorem mem_of_ensureBoot (h : (table.ensureBoot kind).result = .ok booted)
    (hmem : holder ∈ booted.partitions) (hroot : Path.root ∈ holder.mountpoints) :
    holder ∈ table.partitions := by
  rcases ensureBoot_cases h with ⟨-, rfl⟩ | ⟨-, rfl⟩
  · exact hmem
  · obtain ⟨before, after, hsplit, hadded, -⟩ := table.addBeforeRoot_split (Partition.boot kind)
    rw [hadded] at hmem
    rw [hsplit]
    rcases List.mem_append.1 hmem with hbefore | hrest
    · exact List.mem_append_left _ hbefore
    · rcases List.mem_cons.1 hrest with rfl | hafter
      · obtain ⟨system, hpayload, hmounted, -⟩ := Partition.boot_payload kind
        simp [Partition.mountpoints, hpayload, hmounted, Path.root, Path.boot] at hroot
      · exact List.mem_append_right _ hafter

theorem ensureVolumeGroup_converts (hnone : table.volumeGroupIndex? = none)
    (h : (table.ensureVolumeGroup kind).result = .ok converted) :
    ∃ holder system name, table.RootConverted kind converted holder system
      (toVolumeGroup (rootGroup holder system name) holder) := by
  rcases ensureVolumeGroup_moves h with ⟨hsome, -⟩ | ⟨-, booted, hbooted, hmoves⟩
  · simp [hnone] at hsome
  · cases hmoves with
    | @volumeGroup _ before after holder system name hsplit hcontent hroot hname =>
      have hmounted := Partition.mem_root_of_content hcontent hroot
      exact ⟨holder, system, name, mem_of_ensureBoot hbooted (by simp [hsplit]) hmounted,
        hcontent, hroot, size_toVolumeGroup _ holder, booted, before, after, hbooted, hsplit, rfl⟩

theorem ensureBtrfs_converts (hnone : table.btrfsIndex? = none)
    (h : (table.ensureBtrfs kind).result = .ok converted) :
    ∃ holder system root, root.size = 0 ∧ table.RootConverted kind converted holder system
      (holder.mapContent fun _ => .btrfs ((rootBtrfs holder system).append root)) := by
  rcases ensureBtrfs_moves h with ⟨hsome, -⟩ | ⟨-, booted, hbooted, hmoves⟩
  · simp [hnone] at hsome
  · cases hmoves with
    | @btrfs _ before after holder system new hsplit hcontent hroot hnew =>
      have hmounted := Partition.mem_root_of_content hcontent hroot
      obtain ⟨-, rfl⟩ := Btrfs.newSubvolume_eq_ok.1 hnew
      exact ⟨holder, system, _, rfl, mem_of_ensureBoot hbooted (by simp [hsplit]) hmounted,
        hcontent, hroot, rfl, booted, before, after, hbooted, hsplit, rfl⟩

/-- A volume group that takes the root filesystem over needs no more space than the partition has,
encrypted or not, if the filesystem with all headers fits into it.  A btrfs volume needs the whole
partition and the header of an encrypted container, which is more than the partition has exactly if
it is encrypted.  So sizing leaves a converted partition as large as it was, up to the grain, unless
it is encrypted and converted to btrfs: then it grows by a header. -/
theorem conversion_space (kind : FilesystemType) (table converted : PartitionTable) :
    (table.volumeGroupIndex? = none → (table.ensureVolumeGroup kind).result = .ok converted →
      ∃ holder system new, table.RootConverted kind converted holder system new ∧
        (luksOverhead holder.payload + Size.volumeGroupMetadata +
            alignUp system.leastSize Size.extent ≤ holder.size →
          new.requirement ≤ holder.size ∧
          (new.resize .empty).size = alignUp holder.size Size.partitionGrain)) ∧
    (table.btrfsIndex? = none → (table.ensureBtrfs kind).result = .ok converted →
      ∃ holder system new, table.RootConverted kind converted holder system new ∧
        (luksOverhead holder.payload + Size.leastBtrfs ≤ holder.size →
          (new.requirement ≤ holder.size ↔ holder.isEncrypted = false) ∧
          new.requirement = holder.size + luksOverhead holder.payload ∧
          (new.resize .empty).size =
            alignUp (holder.size + luksOverhead holder.payload) Size.partitionGrain)) := by
  constructor
  · intro hnone h
    obtain ⟨holder, system, name, hconverted⟩ := ensureVolumeGroup_converts hnone h
    exact ⟨holder, system, _, hconverted, fun hroom =>
      toVolumeGroup_space hconverted.content hroom name⟩
  · intro hnone h
    obtain ⟨holder, system, root, hsize, hconverted⟩ := ensureBtrfs_converts hnone h
    refine ⟨holder, system, _, hconverted, fun hroom => ?_⟩
    obtain ⟨hrequired, hresized⟩ := rootBtrfs_space hconverted.content hsize
      (Nat.le_trans (Nat.le_add_left _ _) hroom)
    refine ⟨?_, hrequired, hresized⟩
    rw [hrequired, luksOverhead_eq]
    cases holder.isEncrypted <;> simp [Size.luksHeader, Size.mebibyte]

/-- A partition of two gibibytes for the root. -/
def rootPartition (payload : Payload) : Partition :=
  .new (2 * Size.gibibyte) .rootAmd64 (some payload)

/-- A disk with nothing but a root partition of two gibibytes. -/
def ofRoot (payload : Payload) : PartitionTable :=
  { PartitionTable.empty .gpt with partitions := [rootPartition payload] }

/-- An encrypted root filesystem. -/
def encryptedRoot : Payload := .luks ⟨none, none, defaultCipher, .filesystem (.new .xfs Path.root)⟩

theorem conversion_space_ofRoot :
    (∃ converted, ((ofRoot encryptedRoot).ensureVolumeGroup .xfs).result = .ok converted ∧
      ∃ holder system new, (ofRoot encryptedRoot).RootConverted .xfs converted holder system new ∧
        new.requirement ≤ 2 * Size.gibibyte) ∧
    ∃ converted,
      ((ofRoot (.filesystem (.new .xfs Path.root))).ensureBtrfs .xfs).result = .ok converted ∧
      ∃ holder system new, (ofRoot (.filesystem (.new .xfs Path.root))).RootConverted .xfs converted
        holder system new ∧ new.requirement ≤ 2 * Size.gibibyte := by
  constructor
  · refine ⟨_, rfl, ?_⟩
    obtain ⟨holder, system, new, hconverted, hspace⟩ :=
      (conversion_space .xfs (ofRoot encryptedRoot) _).1 rfl rfl
    refine ⟨holder, system, new, hconverted, ?_⟩
    obtain rfl : holder = rootPartition encryptedRoot := List.mem_singleton.1 hconverted.mem
    obtain rfl := Payload.filesystem.inj (Option.some.inj hconverted.content)
    exact (hspace (by decide)).1
  · refine ⟨_, rfl, ?_⟩
    obtain ⟨holder, system, new, hconverted, hspace⟩ :=
      (conversion_space .xfs (ofRoot (.filesystem (.new .xfs Path.root))) _).2 rfl rfl
    refine ⟨holder, system, new, hconverted, ?_⟩
    obtain rfl : holder = rootPartition (.filesystem (.new .xfs Path.root)) :=
      List.mem_singleton.1 hconverted.mem
    exact (hspace (by decide)).1.2 rfl

/-- A conversion to btrfs enlarges an encrypted root partition, which has far more space than the
smallest volume and the header need. -/
theorem ensureBtrfs_encryptedRoot :
    ∃ converted holder system new,
      ((ofRoot encryptedRoot).ensureBtrfs .xfs).result = .ok converted ∧
      (ofRoot encryptedRoot).RootConverted .xfs converted holder system new ∧
      luksOverhead holder.payload + Size.leastBtrfs ≤ holder.size ∧
      holder.size < new.requirement ∧ holder.size < (new.resize .empty).size := by
  -- The volume records the two gibibytes of the partition, with no regard to the header.
  let volume : Btrfs :=
    ⟨none, none, 2 * Size.gibibyte, [⟨"root", Path.root, 0, some Btrfs.defaultCompression⟩]⟩
  refine ⟨_, rootPartition encryptedRoot, .new .xfs Path.root,
    rootPartition (.luks ⟨none, none, defaultCipher, .btrfs volume⟩), rfl,
    ⟨List.mem_singleton_self _, rfl, rfl, rfl, _, [Partition.boot .xfs], [], rfl, rfl, rfl⟩, ?_⟩
  decide

end PartitionTable

end DiskLayout
