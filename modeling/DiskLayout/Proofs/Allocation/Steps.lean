import DiskLayout.Allocation.Build
import DiskLayout.Proofs.Table.Containers

/-!
# Steps of assembly

A base table becomes the assembled table by a few kinds of edits: its root filesystem may be
converted into a container, after a partition for `/boot` if there is none, and then every new
mountpoint is added as a partition, a logical volume or a subvolume.  Each kind of edit is a step
relation between tables, which says all that the edit does to the partitions.

## Main definitions

* `Place`, `PartitioningMode.placeOf` — where a new mountpoint goes
* `PartitionTable.Mounts` — a table with one more mountpoint
* `PartitionTable.MountsEach` — a table with many, in a row
* `PartitionTable.Converts` — a table with its root filesystem moved into a container
* `PartitionTable.MountsAt` — a table in which a mountpoint lies at a place

## Main results

* `Mounts.mem_mountpoints`, `Converts.mem_mountpoints` — what is mounted after a step
* `Mounts.mountsAt`, `Mounts.keeps` — a step places its mountpoint and displaces no other
* `MountsEach.mem_mountpoints`, `MountsEach.mountsAt` — the same for many steps
* `Resembles.mountsAt` — sizing displaces nothing
-/

namespace DiskLayout

/-- Where a mountpoint can lie. -/
inductive Place where
  | partition
  | logicalVolume
  | subvolume
deriving DecidableEq

/-- Where a partitioning mode puts a new mountpoint. -/
def PartitioningMode.placeOf (mode : PartitioningMode) (mountpoint : String) : Place :=
  if mountpoint ∈ Path.plainOnly then .partition
  else
    match mode with
    | .raw => .partition
    | .lvm | .autoLvm => .logicalVolume
    | .btrfs => .subvolume

namespace PartitionTable

/-- A table with its partitions replaced. -/
def withPartitions (table : PartitionTable) (partitions : List Partition) : PartitionTable :=
  { table with partitions := partitions }

/-- A table with one more mountpoint at a place: in a partition of its own, or at the end of the
first volume group or the first btrfs volume. -/
inductive Mounts (mountpoint : String) : Place → PartitionTable → PartitionTable → Prop
  | partition {table : PartitionTable} {before after : List Partition} {new : Partition}
    {system : Filesystem} (hsplit : table.partitions = before ++ after)
    (hpayload : new.payload = some (.filesystem system))
    (hmounted : system.mountpoint = mountpoint) :
    Mounts mountpoint .partition table (table.withPartitions (before ++ new :: after))
  | logicalVolume {table : PartitionTable} {before after : List Partition} {holder : Partition}
    {group : VolumeGroup} {volume : LogicalVolume} {system : Filesystem}
    (hsplit : table.partitions = before ++ holder :: after)
    (hfirst : ∀ other ∈ before, other.group? = none)
    (hcontent : holder.content? = some (.volumeGroup group))
    (hpayload : volume.payload = some (.filesystem system))
    (hmounted : system.mountpoint = mountpoint) :
    Mounts mountpoint .logicalVolume table (table.withPartitions
      (before ++ holder.mapContent (fun _ => .volumeGroup (group.append volume)) :: after))
  | subvolume {table : PartitionTable} {before after : List Partition} {holder : Partition}
    {volume : Btrfs} {new : Subvolume}
    (hsplit : table.partitions = before ++ holder :: after)
    (hfirst : ∀ other ∈ before, other.btrfs? = none)
    (hcontent : holder.content? = some (.btrfs volume))
    (hmounted : new.mountpoint = mountpoint) :
    Mounts mountpoint .subvolume table (table.withPartitions
      (before ++ holder.mapContent (fun _ => .btrfs (volume.append new)) :: after))

/-- A table with the mountpoints of requests that it does not have yet, one after the other. -/
inductive MountsEach (mode : PartitioningMode) :
    List FilesystemRequest → PartitionTable → PartitionTable → Prop
  | nil {table : PartitionTable} : MountsEach mode [] table table
  | skip {request : FilesystemRequest} {others : List FilesystemRequest}
    {table result : PartitionTable} (hmounted : request.mountpoint ∈ table.mountpoints)
    (hothers : MountsEach mode others table result) :
    MountsEach mode (request :: others) table result
  | mount {request : FilesystemRequest} {others : List FilesystemRequest}
    {table middle result : PartitionTable}
    (hstep : Mounts request.mountpoint (mode.placeOf request.mountpoint) table middle)
    (hothers : MountsEach mode others middle result) :
    MountsEach mode (request :: others) table result

/-- A table whose root filesystem is moved into a container of its own. -/
inductive Converts : Place → PartitionTable → PartitionTable → Prop
  | volumeGroup {table : PartitionTable} {before after : List Partition} {holder : Partition}
    {group : VolumeGroup} {volume : LogicalVolume} {system : Filesystem}
    (hsplit : table.partitions = before ++ holder :: after)
    (hcontent : holder.content? = some (.filesystem system))
    (hroot : system.mountpoint = Path.root)
    (hvolumes : group.logicalVolumes = [volume])
    (hpayload : volume.payload = some (.filesystem system)) :
    Converts .logicalVolume table
      (table.withPartitions (before ++ Conversion.toVolumeGroup group holder :: after))
  | btrfs {table : PartitionTable} {before after : List Partition} {holder : Partition}
    {volume : Btrfs} {new : Subvolume} {system : Filesystem}
    (hsplit : table.partitions = before ++ holder :: after)
    (hcontent : holder.content? = some (.filesystem system))
    (hroot : system.mountpoint = Path.root)
    (hsubvolumes : volume.subvolumes = [new])
    (hmounted : new.mountpoint = Path.root) :
    Converts .subvolume table (table.withPartitions
      (before ++ holder.mapContent (fun _ => .btrfs volume) :: after))

/-- Whether a table can take in a mountpoint at a place. -/
def Takes (table : PartitionTable) : Place → Prop
  | .partition => True
  | .logicalVolume => ∃ group, table.firstGroup? = some group
  | .subvolume => table.firstGroup? = none ∧ ∃ volume, table.firstBtrfs? = some volume

/-- Whether a mountpoint lies at a place: as a filesystem directly in a partition, as a filesystem
directly in a logical volume of the first volume group, or as a subvolume of the first btrfs
volume. -/
def MountsAt (table : PartitionTable) (mountpoint : String) : Place → Prop
  | .partition => ∃ partition ∈ table.partitions, ∃ system,
      partition.payload = some (.filesystem system) ∧ system.mountpoint = mountpoint
  | .logicalVolume => ∃ group, table.firstGroup? = some group ∧
      ∃ volume ∈ group.logicalVolumes, ∃ system,
        volume.payload = some (.filesystem system) ∧ system.mountpoint = mountpoint
  | .subvolume => ∃ volume, table.firstBtrfs? = some volume ∧
      ∃ subvolume ∈ volume.subvolumes, subvolume.mountpoint = mountpoint

end PartitionTable

/-! ### What is mounted -/

theorem Partition.mountpoints_of_filesystem {partition : Partition} {system : Filesystem}
    (h : partition.payload = some (.filesystem system)) :
    partition.mountpoints = [system.mountpoint] := by
  simp [mountpoints, h]

namespace PartitionTable

variable {table result : PartitionTable} {mountpoint : String} {place : Place}

@[simp] theorem partitions_withPartitions (table : PartitionTable)
    (partitions : List Partition) : (table.withPartitions partitions).partitions = partitions := rfl

theorem mountpoints_withPartitions (table : PartitionTable) (partitions : List Partition) :
    (table.withPartitions partitions).mountpoints = partitions.flatMap Partition.mountpoints :=
  mountpoints_eq _

/-- A step mounts its mountpoint and keeps all others. -/
theorem Mounts.mem_mountpoints (h : Mounts mountpoint place table result) {other : String} :
    other ∈ result.mountpoints ↔ other ∈ table.mountpoints ∨ other = mountpoint := by
  cases h with
  | partition hsplit hpayload hmounted =>
    rw [mountpoints_withPartitions, mountpoints_eq, hsplit]
    simp only [List.flatMap_append, List.flatMap_cons, List.mem_append,
      Partition.mountpoints_of_filesystem hpayload, hmounted, List.mem_singleton]
    grind
  | logicalVolume hsplit hfirst hcontent hpayload hmounted =>
    rw [mountpoints_withPartitions, mountpoints_eq, hsplit]
    simp only [List.flatMap_append, List.flatMap_cons, List.mem_append, VolumeGroup.append,
      Partition.mountpoints_mapContent hcontent, Partition.mountpoints_of_content? hcontent,
      Payload.mountpoints_volumeGroup, hpayload, Option.toList_some, List.flatMap_nil,
      Payload.mountpoints_filesystem, hmounted, List.mem_singleton]
    grind
  | subvolume hsplit hfirst hcontent hmounted =>
    rw [mountpoints_withPartitions, mountpoints_eq, hsplit]
    simp only [List.flatMap_append, List.flatMap_cons, List.mem_append, Btrfs.append,
      Partition.mountpoints_mapContent hcontent, Partition.mountpoints_of_content? hcontent,
      Payload.mountpoints_btrfs, List.map_append, List.map_cons, List.map_nil, hmounted,
      List.mem_singleton]
    grind

/-- A partition that a volume group takes over has it as its content. -/
theorem payload_toVolumeGroup (group : VolumeGroup) (holder : Partition) :
    (Conversion.toVolumeGroup group holder).payload =
      (holder.mapContent fun _ => .volumeGroup group).payload := by
  unfold Conversion.toVolumeGroup
  split <;> rfl

theorem size_toVolumeGroup (group : VolumeGroup) (holder : Partition) :
    (Conversion.toVolumeGroup group holder).size = holder.size := by
  unfold Conversion.toVolumeGroup
  split <;> rfl

/-- A conversion mounts nothing and takes nothing away. -/
theorem Converts.mem_mountpoints (h : Converts place table result) {other : String} :
    other ∈ result.mountpoints ↔ other ∈ table.mountpoints := by
  cases h with
  | @volumeGroup _ before after holder group volume system hsplit hcontent hroot hvolumes
      hpayload =>
    have hholder : (Conversion.toVolumeGroup group holder).mountpoints =
        (holder.mapContent fun _ => .volumeGroup group).mountpoints := by
      rw [Partition.mountpoints, payload_toVolumeGroup]
      rfl
    rw [mountpoints_withPartitions, mountpoints_eq, hsplit]
    simp only [List.flatMap_append, List.flatMap_cons, hholder,
      Partition.mountpoints_mapContent hcontent, Partition.mountpoints_of_content? hcontent,
      Payload.mountpoints_volumeGroup, hvolumes, hpayload, Option.toList_some, List.flatMap_nil,
      List.append_nil]
  | btrfs hsplit hcontent hroot hsubvolumes hmounted =>
    rw [mountpoints_withPartitions, mountpoints_eq, hsplit]
    simp only [List.flatMap_append, List.flatMap_cons,
      Partition.mountpoints_mapContent hcontent, Partition.mountpoints_of_content? hcontent,
      Payload.mountpoints_btrfs, Payload.mountpoints_filesystem, hsubvolumes, List.map_cons,
      List.map_nil, hroot, hmounted]

end PartitionTable

/-! ### Where it is mounted -/

namespace Partition

variable {partition : Partition} {system : Filesystem}

theorem content?_of_filesystem (h : partition.payload = some (.filesystem system)) :
    partition.content? = some (.filesystem system) :=
  content?_eq_some.2 (.inl ⟨h, rfl⟩)

theorem group?_eq {inner : Payload} (h : partition.content? = some inner) :
    partition.group? = inner.group? := by
  rw [group?, h, Option.bind_some]

theorem btrfs?_eq {inner : Payload} (h : partition.content? = some inner) :
    partition.btrfs? = inner.btrfs? := by
  rw [btrfs?, h, Option.bind_some]

end Partition

namespace PartitionTable

variable {table result : PartitionTable} {mountpoint : String} {place : Place}

/-- The first volume group changes only when a logical volume is added to it. -/
theorem Mounts.firstGroup?_cases (h : Mounts mountpoint place table result) :
    (place ≠ .logicalVolume ∧ result.firstGroup? = table.firstGroup?) ∨
      (place = .logicalVolume ∧ ∃ group volume system, table.firstGroup? = some group ∧
        result.firstGroup? = some (group.append volume) ∧
        volume.payload = some (.filesystem system) ∧ system.mountpoint = mountpoint) := by
  simp only [firstGroup?_eq_findSome?]
  cases h with
  | @partition _ before after new system hsplit hpayload hmounted =>
    -- The new partition is passed over in the search.
    have hnew : new.group? = none :=
      Partition.group?_eq (Partition.content?_of_filesystem hpayload)
    refine .inl ⟨by simp, ?_⟩
    rw [partitions_withPartitions, hsplit, List.findSome?_append, List.findSome?_cons, hnew,
      List.findSome?_append]
  | @logicalVolume _ before after holder group volume system hsplit hfirst hcontent hpayload
      hmounted =>
    have hnew := Partition.content?_replace hcontent
      (rfl : (Payload.volumeGroup (group.append volume)).isLuks = false)
    refine .inr ⟨rfl, group, volume, system, ?_, ?_, hpayload, hmounted⟩
    · rw [hsplit]
      exact findSome?_of_first hfirst (Partition.group?_eq_some.2 hcontent)
    · exact findSome?_of_first hfirst (Partition.group?_eq_some.2 hnew)
  | @subvolume _ before after holder volume new hsplit hfirst hcontent hmounted =>
    have hnew := Partition.content?_replace hcontent
      (rfl : (Payload.btrfs (volume.append new)).isLuks = false)
    refine .inl ⟨by simp, ?_⟩
    rw [hsplit]
    exact findSome?_replace ((Partition.group?_eq hnew).trans (Partition.group?_eq hcontent).symm)

/-- The first btrfs volume changes only when a subvolume is added to it. -/
theorem Mounts.firstBtrfs?_cases (h : Mounts mountpoint place table result) :
    (place ≠ .subvolume ∧ result.firstBtrfs? = table.firstBtrfs?) ∨
      (place = .subvolume ∧ ∃ volume subvolume, table.firstBtrfs? = some volume ∧
        result.firstBtrfs? = some (volume.append subvolume) ∧
        subvolume.mountpoint = mountpoint) := by
  simp only [firstBtrfs?_eq_findSome?]
  cases h with
  | @partition _ before after new system hsplit hpayload hmounted =>
    have hnew : new.btrfs? = none :=
      Partition.btrfs?_eq (Partition.content?_of_filesystem hpayload)
    refine .inl ⟨by simp, ?_⟩
    rw [partitions_withPartitions, hsplit, List.findSome?_append, List.findSome?_cons, hnew,
      List.findSome?_append]
  | @logicalVolume _ before after holder group volume system hsplit hfirst hcontent hpayload
      hmounted =>
    have hnew := Partition.content?_replace hcontent
      (rfl : (Payload.volumeGroup (group.append volume)).isLuks = false)
    refine .inl ⟨by simp, ?_⟩
    rw [hsplit]
    exact findSome?_replace ((Partition.btrfs?_eq hnew).trans (Partition.btrfs?_eq hcontent).symm)
  | @subvolume _ before after holder volume new hsplit hfirst hcontent hmounted =>
    have hnew := Partition.content?_replace hcontent
      (rfl : (Payload.btrfs (volume.append new)).isLuks = false)
    refine .inr ⟨rfl, volume, new, ?_, ?_, hmounted⟩
    · rw [hsplit]
      exact findSome?_of_first hfirst (Partition.btrfs?_eq_some.2 hcontent)
    · exact findSome?_of_first hfirst (Partition.btrfs?_eq_some.2 hnew)

/-- A partition with nothing but a filesystem holds no container, so no step changes it. -/
theorem Mounts.mem_partitions (h : Mounts mountpoint place table result) {device : Partition}
    {system : Filesystem} (hpayload : device.payload = some (.filesystem system))
    (hmem : device ∈ table.partitions) : device ∈ result.partitions := by
  have hcontent := Partition.content?_of_filesystem hpayload
  cases h with
  | partition hsplit hnew hmounted =>
    rw [hsplit] at hmem
    simp only [partitions_withPartitions, List.mem_append, List.mem_cons] at hmem ⊢
    exact hmem.imp_right .inr
  | logicalVolume hsplit hfirst hholder hvolume hmounted =>
    rw [hsplit] at hmem
    simp only [partitions_withPartitions, List.mem_append, List.mem_cons] at hmem ⊢
    refine hmem.imp_right (Or.imp_left fun heq => ?_)
    rw [heq, hholder] at hcontent
    cases hcontent
  | subvolume hsplit hfirst hholder hmounted =>
    rw [hsplit] at hmem
    simp only [partitions_withPartitions, List.mem_append, List.mem_cons] at hmem ⊢
    refine hmem.imp_right (Or.imp_left fun heq => ?_)
    rw [heq, hholder] at hcontent
    cases hcontent

/-- After a step a table takes in what it did before. -/
theorem Mounts.takes (h : Mounts mountpoint place table result) {other : Place}
    (htakes : table.Takes other) : result.Takes other := by
  cases other with
  | partition => trivial
  | logicalVolume =>
    rcases h.firstGroup?_cases with ⟨-, heq⟩ | ⟨-, group, volume, -, -, hresult, -⟩
    · obtain ⟨group, hgroup⟩ := htakes
      exact ⟨group, heq.trans hgroup⟩
    · exact ⟨_, hresult⟩
  | subvolume =>
    obtain ⟨hnone, volume, hvolume⟩ := htakes
    refine ⟨?_, ?_⟩
    · rcases h.firstGroup?_cases with ⟨-, heq⟩ | ⟨-, group, -, -, hgroup, -⟩
      · exact heq.trans hnone
      · rw [hnone] at hgroup
        cases hgroup
    · rcases h.firstBtrfs?_cases with ⟨-, heq⟩ | ⟨-, _, _, -, hresult, -⟩
      · exact ⟨volume, heq.trans hvolume⟩
      · exact ⟨_, hresult⟩

/-- A step mounts its mountpoint at its place. -/
theorem Mounts.mountsAt (h : Mounts mountpoint place table result) :
    result.MountsAt mountpoint place := by
  cases place with
  | partition =>
    cases h with
    | partition hsplit hpayload hmounted =>
      exact ⟨_, by simp, _, hpayload, hmounted⟩
  | logicalVolume =>
    rcases h.firstGroup?_cases with
      ⟨hne, -⟩ | ⟨-, group, volume, system, -, hresult, hpayload, hmounted⟩
    · exact absurd rfl hne
    · exact ⟨_, hresult, volume, by simp [VolumeGroup.append], system, hpayload, hmounted⟩
  | subvolume =>
    rcases h.firstBtrfs?_cases with ⟨hne, -⟩ | ⟨-, volume, subvolume, -, hresult, hmounted⟩
    · exact absurd rfl hne
    · exact ⟨_, hresult, subvolume, by simp [Btrfs.append], hmounted⟩

/-- A step leaves what is mounted at a place there. -/
theorem Mounts.keeps (h : Mounts mountpoint place table result) {other : String}
    {otherPlace : Place} (hother : table.MountsAt other otherPlace) :
    result.MountsAt other otherPlace := by
  cases otherPlace with
  | partition =>
    obtain ⟨device, hmem, system, hpayload, hmounted⟩ := hother
    exact ⟨device, h.mem_partitions hpayload hmem, system, hpayload, hmounted⟩
  | logicalVolume =>
    obtain ⟨group, hgroup, volume, hvolume, hmounted⟩ := hother
    rcases h.firstGroup?_cases with ⟨-, heq⟩ | ⟨-, group', new, -, hgroup', hresult, -⟩
    · exact ⟨group, heq.trans hgroup, volume, hvolume, hmounted⟩
    · obtain rfl := Option.some.inj (hgroup.symm.trans hgroup')
      exact ⟨_, hresult, volume, List.mem_append_left _ hvolume, hmounted⟩
  | subvolume =>
    obtain ⟨volume, hvolume, subvolume, hsubvolume, hmounted⟩ := hother
    rcases h.firstBtrfs?_cases with ⟨-, heq⟩ | ⟨-, volume', new, hvolume', hresult, -⟩
    · exact ⟨volume, heq.trans hvolume, subvolume, hsubvolume, hmounted⟩
    · obtain rfl := Option.some.inj (hvolume.symm.trans hvolume')
      exact ⟨_, hresult, subvolume, List.mem_append_left _ hsubvolume, hmounted⟩

/-! ### Conversions -/

theorem content?_toVolumeGroup {holder : Partition} {inner : Payload}
    (h : holder.content? = some inner) (group : VolumeGroup) :
    (Conversion.toVolumeGroup group holder).content? = some (.volumeGroup group) := by
  rw [Partition.content?, payload_toVolumeGroup]
  exact Partition.content?_mapContent h rfl

/-- A conversion displaces nothing but the root. -/
theorem Converts.keeps (h : Converts place table result) (hne : mountpoint ≠ Path.root)
    (hother : table.MountsAt mountpoint .partition) : result.MountsAt mountpoint .partition := by
  obtain ⟨device, hmem, system, hpayload, hmounted⟩ := hother
  refine ⟨device, ?_, system, hpayload, hmounted⟩
  -- The partition is not the one that is converted, for that one mounts the root.
  have hcontent := Partition.content?_of_filesystem hpayload
  cases h with
  | volumeGroup hsplit hholder hroot hvolumes hvolume =>
    rw [hsplit] at hmem
    simp only [partitions_withPartitions, List.mem_append, List.mem_cons] at hmem ⊢
    refine hmem.imp_right (Or.imp_left fun heq => ?_)
    rw [heq, hholder] at hcontent
    cases hcontent
    exact absurd (hmounted.symm.trans hroot) hne
  | btrfs hsplit hholder hroot hsubvolumes hnew =>
    rw [hsplit] at hmem
    simp only [partitions_withPartitions, List.mem_append, List.mem_cons] at hmem ⊢
    refine hmem.imp_right (Or.imp_left fun heq => ?_)
    rw [heq, hholder] at hcontent
    cases hcontent
    exact absurd (hmounted.symm.trans hroot) hne

/-- A converted table takes in new mountpoints in its new container. -/
theorem Converts.takes (h : Converts place table result)
    (hnone : place = .subvolume → table.firstGroup? = none) : result.Takes place := by
  cases h with
  | @volumeGroup _ before after holder group volume system hsplit hholder hroot hvolumes hvolume =>
    have hnew := Partition.group?_eq (content?_toVolumeGroup hholder group)
    refine Option.isSome_iff_exists.1 ?_
    simp [firstGroup?_eq_findSome?, List.findSome?_append, hnew, Payload.group?]
  | @btrfs _ before after holder volume new system hsplit hholder hroot hsubvolumes hmounted =>
    have hnew := Partition.content?_replace hholder (rfl : (Payload.btrfs volume).isLuks = false)
    refine ⟨?_, Option.isSome_iff_exists.1 ?_⟩
    · -- A btrfs volume in place of a filesystem is no volume group either.
      rw [← hnone rfl, firstGroup?_eq_findSome?, firstGroup?_eq_findSome?, hsplit]
      exact findSome?_replace ((Partition.group?_eq hnew).trans (Partition.group?_eq hholder).symm)
    · simp [firstBtrfs?_eq_findSome?, List.findSome?_append, Partition.btrfs?_eq hnew,
        Payload.btrfs?]

/-! ### Runs of steps -/

section Runs

variable {mode : PartitioningMode} {requests : List FilesystemRequest}

/-- Adding mountpoints mounts all of them and keeps all others. -/
theorem MountsEach.mem_mountpoints (h : MountsEach mode requests table result) {other : String} :
    other ∈ result.mountpoints ↔
      other ∈ table.mountpoints ∨ ∃ request ∈ requests, request.mountpoint = other := by
  induction h with
  | nil => simp
  | skip hmounted _ ih =>
    rw [ih, List.exists_mem_cons_iff]
    grind
  | mount hstep _ ih =>
    rw [ih, List.exists_mem_cons_iff, hstep.mem_mountpoints]
    grind

/-- If all mountpoints of a table but some known ones lie where the partitioning mode puts them,
they still do when more are added. -/
theorem MountsEach.mountsAt (h : MountsEach mode requests table result) {known : List String}
    (hplaced : ∀ mountpoint ∈ table.mountpoints, mountpoint ∉ known →
      table.MountsAt mountpoint (mode.placeOf mountpoint)) :
    ∀ mountpoint ∈ result.mountpoints, mountpoint ∉ known →
      result.MountsAt mountpoint (mode.placeOf mountpoint) := by
  induction h with
  | nil => exact hplaced
  | skip _ _ ih => exact ih hplaced
  | mount hstep _ ih =>
    refine ih fun mountpoint hmem hunknown => ?_
    rcases hstep.mem_mountpoints.1 hmem with hold | rfl
    · exact hstep.keeps (hplaced mountpoint hold hunknown)
    · exact hstep.mountsAt

theorem Mounts.sublist (h : Mounts mountpoint .partition table result) :
    table.partitions.Sublist result.partitions := by
  cases h with
  | partition hsplit hpayload hmounted =>
    rw [hsplit]
    exact (List.sublist_cons_self _ _).append_left _

theorem placeOf_raw (mountpoint : String) :
    PartitioningMode.raw.placeOf mountpoint = .partition := by
  unfold PartitioningMode.placeOf
  split <;> rfl

/-- In plain partitions mountpoints are added beside the partitions that are there. -/
theorem MountsEach.sublist (h : MountsEach .raw requests table result) :
    table.partitions.Sublist result.partitions := by
  induction h with
  | nil => exact List.Sublist.refl _
  | skip _ _ ih => exact ih
  | mount hstep _ ih =>
    rw [placeOf_raw] at hstep
    exact hstep.sublist.trans ih

end Runs

/-! ### Resemblance -/

/-- Tables that resemble each other mount everything at the same places. -/
theorem Resembles.mountsAt {sizes : Nat → Nat → Prop} (h : table.Resembles sizes result)
    (hmounted : table.MountsAt mountpoint place) : result.MountsAt mountpoint place := by
  cases place with
  | partition =>
    obtain ⟨device, hmem, system, hpayload, rfl⟩ := hmounted
    obtain ⟨new, hnew, hdevice⟩ := exists_of_forall₂ h.partitions hmem
    obtain ⟨other, hother, hsame⟩ := filesystem_of_rel hdevice.2 hpayload
    exact ⟨new, hnew, other, hother, hsame.mountpoint⟩
  | logicalVolume =>
    obtain ⟨group, hgroup, volume, hvolume, system, hpayload, rfl⟩ := hmounted
    have hfirst := h.firstGroup?_rel
    rw [hgroup] at hfirst
    generalize hresult : result.firstGroup? = found at hfirst
    cases hfirst with
    | some hgroups =>
      obtain ⟨-, hvolumes⟩ := Payload.resembles_volumeGroup.1 hgroups
      obtain ⟨new, hnew, hvol⟩ := exists_of_forall₂ hvolumes hvolume
      obtain ⟨other, hother, hsame⟩ :=
        filesystem_of_rel (LogicalVolume.resembles_iff.1 hvol).2 hpayload
      exact ⟨_, hresult, new, hnew, other, hother, hsame.mountpoint⟩
  | subvolume =>
    obtain ⟨volume, hvolume, subvolume, hsubvolume, rfl⟩ := hmounted
    -- The first containers resemble each other, and so do their items one by one.
    have hfirst := h.firstBtrfs?_rel
    rw [hvolume] at hfirst
    generalize hresult : result.firstBtrfs? = found at hfirst
    cases hfirst with
    | some hvolumes =>
      obtain ⟨-, hsubvolumes⟩ := Payload.resembles_btrfs.1 hvolumes
      obtain ⟨new, hnew, hsub⟩ := exists_of_forall₂ hsubvolumes hsubvolume
      exact ⟨_, hresult, new, hnew, hsub.mountpoint⟩

end PartitionTable

end DiskLayout
