import DiskLayout.Proofs.Allocation.CustomAssembly
import DiskLayout.Proofs.Allocation.Refusals

/-!
# The structure of custom tables

A partitioning request that passes the check can be assembled, if no subvolume takes the name of the
one that is added for the root and there are no more than a hundred logical volumes.  The assembled
table keeps the rules for tables: the names in its container are sound, there is one container at
most, and nothing is mounted twice.

## Main definitions

* `PartitioningRequest.RootNameTaken` — whether a subvolume has the name of the added one
* `Node.NamesSound` — sound names in a container of volumes

## Main results

* `containerPartitions_outcome` — when the container of a request can be laid out
* `forall_mem_nodes_customAssembled` — what holds of all nodes of an assembled table
* `customAssembled_wellStructured` — an assembled table keeps the rules for tables
-/

namespace DiskLayout

open Custom

/-! ### The container -/

namespace PartitioningRequest

/-- Whether a requested subvolume has the name of the one that is added for the root. -/
def RootNameTaken (request : PartitioningRequest) : Prop :=
  Path.root ∉ request.mountpoints ∧ ∃ volume ∈ request.btrfsVolumes,
    Btrfs.rootSubvolume ∈ volume.subvolumes.map SubvolumeRequest.name

theorem not_rootNameTaken {request : PartitioningRequest} (h : request.btrfsVolumes = []) :
    ¬ request.RootNameTaken := by
  rintro ⟨-, volume, hvolume, -⟩
  rw [h] at hvolume
  cases hvolume

/-- The error for a subvolume that has the name of the one that is added for the root. -/
def rootNameError : LayoutError :=
  .duplicateName ("duplicate btrfs subvolume name " ++ Quoted.quote Btrfs.rootSubvolume)

end PartitioningRequest

section Container

variable {request : PartitioningRequest} {options : CustomOptions}

/-- Laying out the container of a request that passes fails for nothing but the name of the root. -/
theorem containerPartitions_outcome (hsound : request.Sound)
    (hlength : request.logicalVolumes.length ≤ 100) :
    (request.RootNameTaken ∧
        (containerPartitions request options).result = .error PartitioningRequest.rootNameError) ∨
      (¬ request.RootNameTaken ∧
        ∃ container, (containerPartitions request options).result = .ok container) := by
  rw [containerPartitions_result]
  cases hgroups : request.volumeGroups with
  | cons group others =>
    -- Where a volume group is requested, there is no subvolume that could take a name.
    obtain rfl := hsound.eq_nil_of_volumeGroups hgroups
    have hnone := hsound.btrfsVolumes_eq_nil (by rw [hgroups]; exact List.cons_ne_nil _ _)
    have hvolumes : group.logicalVolumes.length ≤ 100 := by
      simpa [PartitioningRequest.logicalVolumes, hgroups] using hlength
    obtain ⟨volumes, hvolumes⟩ := @exists_volumeGroup options
      (request.mountpoints.contains Path.root) group hvolumes
    dsimp only
    rw [hvolumes]
    exact .inr ⟨PartitioningRequest.not_rootNameTaken hnone, _, rfl⟩
  | nil =>
    cases hbtrfs : request.btrfsVolumes with
    | cons requested others =>
      obtain rfl := hsound.eq_nil_of_btrfsVolumes hbtrfs
      have htaken : Custom.RootNameTaken (request.mountpoints.contains Path.root) requested ↔
          request.RootNameTaken := by
        simp [Custom.RootNameTaken, PartitioningRequest.RootNameTaken, hbtrfs]
      dsimp only
      rw [btrfs_eq]
      by_cases hname : request.RootNameTaken
      · rw [if_pos (htaken.2 hname)]
        exact .inl ⟨hname, rfl⟩
      · rw [if_neg fun h => hname (htaken.1 h)]
        exact .inr ⟨hname, _, rfl⟩
    | nil => exact .inr ⟨PartitioningRequest.not_rootNameTaken hbtrfs, _, rfl⟩

end Container

/-! ### The structure of an assembled table -/

/-- Whether a node is a container of volumes. -/
def Node.holdsVolumes (node : Node) : Bool := node.isVolumeGroup || node.isBtrfs

/-- Whether the names of the volumes in a container are distinct, and given where they must be. -/
def Node.NamesSound : Node → Prop
  | .volumeGroup group => group.givenNames.Nodup
  | .btrfs volume => "" ∉ volume.names ∧ volume.names.Nodup
  | _ => True

/-- The nodes inside a partition. -/
def Partition.innerNodes (partition : Partition) : List Node :=
  partition.payload.toList.flatMap Payload.nodes

namespace PartitionTable

variable {table : PartitionTable}

/-- A table keeps the rules if its mountpoints are valid where they are and distinct, the names in
its containers are sound, and it has one container at most. -/
theorem wellStructured_of_wellMounted (hmounted : table.WellMounted)
    (hnames : ∀ node ∈ table.nodes, node.NamesSound)
    (hone : table.nodes.countP Node.holdsVolumes ≤ 1) (hdistinct : table.mountpoints.Nodup) :
    table.WellStructured where
  sound visit hvisit := by
    have hwell := wellMounted_iff.1 hmounted visit hvisit
    have hsound := hnames visit.node (List.mem_map_of_mem hvisit)
    refine ⟨?_, ?_, hwell.mountpoint_valid, hwell.boot_reachable⟩
    · intro group hgroup
      rw [hgroup] at hsound
      exact hsound
    · intro volume hvolume
      rw [hvolume] at hsound
      exact hsound
  one_volumeGroup := Nat.le_trans (List.countP_mono_left (by simp +contextual [Node.holdsVolumes]))
    hone
  one_btrfs := Nat.le_trans (List.countP_mono_left (by simp +contextual [Node.holdsVolumes])) hone
  mountpoints_distinct := hdistinct

/-- Where partitions do not count, the nodes of a table are counted inside its partitions. -/
theorem countP_nodes {kind : Node → Bool}
    (hkind : ∀ (index : Nat) (partition : Partition), kind (.partition index partition) = false)
    (table : PartitionTable) :
    table.nodes.countP kind = (table.partitions.flatMap Partition.innerNodes).countP kind := by
  have hnodes : ∀ entry : Partition × Nat,
      (entry.1.nodes entry.2).countP kind = entry.1.innerNodes.countP kind := by
    intro entry
    rw [Partition.nodes, List.countP_cons_of_neg (by simp [hkind])]
    rfl
  rw [nodes_eq, List.countP_flatMap, List.countP_flatMap]
  conv_rhs => rw [← List.zipIdx_map_fst 0 table.partitions, List.map_map]
  exact congrArg List.sum (List.map_congr_left fun entry _ => hnodes entry)

end PartitionTable

section Assembled

variable {request : PartitioningRequest} {options : CustomOptions} {table : PartitionTable}

theorem Partition.IsPlain.countP_innerNodes {partition : Partition} (h : partition.IsPlain) :
    partition.innerNodes.countP Node.holdsVolumes = 0 := by
  unfold Partition.innerNodes
  cases hpayload : partition.payload with
  | none => rfl
  | some payload =>
    obtain ⟨system, rfl⟩ := h payload hpayload
    rfl

/-- A volume group that holds filesystems and nothing else is its only container of volumes. -/
theorem Payload.countP_volumeGroup {group : VolumeGroup}
    (hsystems : ∀ volume ∈ group.logicalVolumes, ∃ system,
      volume.payload = some (.filesystem system)) :
    (Payload.volumeGroup group).nodes.countP Node.holdsVolumes = 1 := by
  have hinner : (group.logicalVolumes.flatMap LogicalVolume.nodes).countP
      Node.holdsVolumes = 0 := by
    refine List.countP_eq_zero.2 fun node hnode => ?_
    obtain ⟨volume, hvolume, hnode⟩ := List.mem_flatMap.1 hnode
    obtain ⟨system, hpayload⟩ := hsystems volume hvolume
    simp only [LogicalVolume.nodes, hpayload, Option.toList_some, List.flatMap_singleton,
      Payload.nodes_filesystem, List.mem_cons, List.not_mem_nil, or_false] at hnode
    rcases hnode with rfl | rfl <;> exact Bool.false_ne_true
  rw [Payload.nodes_volumeGroup, List.countP_cons_of_pos rfl, hinner]

theorem Payload.countP_btrfs (volume : Btrfs) :
    (Payload.btrfs volume).nodes.countP Node.holdsVolumes = 1 := by
  have hinner : (volume.subvolumes.map Node.subvolume).countP Node.holdsVolumes = 0 := by
    refine List.countP_eq_zero.2 fun node hnode => ?_
    obtain ⟨subvolume, -, rfl⟩ := List.mem_map.1 hnode
    exact Bool.false_ne_true
  rw [Payload.nodes_btrfs, List.countP_cons_of_pos rfl, hinner]

/-- What lies behind the plain partitions has one container of volumes at most. -/
theorem containerPartitions_countP_le {container : List Partition}
    (h : (containerPartitions request options).result = .ok container) :
    (container.flatMap Partition.innerNodes).countP Node.holdsVolumes ≤ 1 := by
  have hone (size : Nat) (kind : PartitionType) (payload : Payload) :
      [Partition.new size kind (some payload)].flatMap Partition.innerNodes = payload.nodes := by
    simp [Partition.innerNodes, Partition.new]
  rcases containerPartitions_cases h with
    ⟨group, _, volumes, -, hvolumes, rfl⟩ | ⟨-, requested, _, volume, -, -, rfl⟩ | ⟨-, -, rfl⟩
  · rw [hone, Payload.countP_volumeGroup (volumeGroup_filesystems hvolumes)]
  · rw [hone, Payload.countP_btrfs]
  · split
    · exact Nat.zero_le _
    · rw [List.flatMap_singleton, (Partition.isPlain_plain _ _ _).countP_innerNodes]
      exact Nat.zero_le 1

/-- What holds of every container that is laid out, and of all nodes that are none, holds of every
node of an assembled table. -/
theorem forall_mem_nodes_customAssembled {property : Node → Prop}
    (h : (assembleCustom request options).result = .ok table)
    (hother : ∀ node : Node, node.holdsVolumes = false → property node)
    (hgroup : ∀ group ∈ request.volumeGroups, ∀ volumes,
      volumeGroup options (request.mountpoints.contains Path.root) group = .ok volumes →
      property (.volumeGroup volumes))
    (hbtrfs : ∀ requested ∈ request.btrfsVolumes, ∀ volume,
      btrfs (request.mountpoints.contains Path.root) requested = .ok volume →
      property (.btrfs volume)) :
    ∀ node ∈ table.nodes, property node := by
  have hplain : ∀ partition : Partition, partition.IsPlain → ∀ payload,
      partition.payload = some payload → payload.All property := by
    intro partition hpartition payload hpayload
    obtain ⟨system, rfl⟩ := hpartition payload hpayload
    exact Payload.all_filesystem.2 (hother _ rfl)
  have hassembled : ∀ partition ∈ table.partitions, ∀ payload,
      partition.payload = some payload → payload.All property := by
    refine forall_mem_customAssembled h ?_ ?_ ?_ ?_ ?_
    · intro old new hcontents hold
      rwa [hcontents.payload]
    · exact fun partition hmem => hplain partition (isPlain_of_mem_plainPartitions hmem)
    · intro group hmem volumes hvolumes payload hpayload
      obtain rfl := Option.some.inj hpayload
      exact Payload.all_volumeGroup_of_systems (volumeGroup_filesystems hvolumes)
        (hgroup group hmem volumes hvolumes) (fun _ _ => hother _ rfl) fun _ => hother _ rfl
    · intro requested hmem volume hvolume payload hpayload
      obtain rfl := Option.some.inj hpayload
      exact Payload.all_btrfs.2 ⟨hbtrfs requested hmem volume hvolume, fun _ _ => hother _ rfl⟩
    · exact hplain _ (Partition.isPlain_plain _ _ _)
  exact PartitionTable.forall_mem_nodes.2 fun index partition hpartition =>
    ⟨hother _ rfl, hassembled partition (List.mem_of_getElem? hpartition)⟩

/-- The names in the container of an assembled table are sound. -/
theorem customAssembled_namesSound (h : (assembleCustom request options).result = .ok table) :
    ∀ node ∈ table.nodes, node.NamesSound := by
  obtain ⟨hvalid, -⟩ := assembleCustom_eq_ok_iff.1 h
  have hsound := PartitioningRequest.validate_eq_ok.1 hvalid
  refine forall_mem_nodes_customAssembled h (fun node hnode => ?_) ?_ ?_
  · cases node with
    | volumeGroup group => cases hnode
    | btrfs volume => cases hnode
    | _ => trivial
  · intro group hgroup volumes hvolumes
    exact (volumeGroup_names (hsound.groups group hgroup) hvolumes).1.filter _
  · intro requested hrequested volume hvolume
    obtain ⟨hfree, rfl⟩ := btrfs_eq_ok_iff.1 hvolume
    exact describedBtrfs_names (hsound.volumes requested hrequested) hfree

/-- An assembled table keeps the rules for tables. -/
theorem customAssembled_wellStructured (h : (assembleCustom request options).result = .ok table) :
    table.WellStructured := by
  have hmountpoints := customAssembled_mountpoints h
  obtain ⟨hvalid, container, hcontainer, hsame⟩ := assembleCustom_eq_ok h
  have hsound := PartitioningRequest.validate_eq_ok.1 hvalid
  refine PartitionTable.wellStructured_of_wellMounted (customAssembled_wellMounted h)
    (customAssembled_namesSound h) ?_ (hmountpoints.nodup_iff.2 (nodup_addedMountpoints hsound))
  -- No plain partition holds a container, so only the one behind them may count.
  have hplain : ((plainPartitions request options).flatMap Partition.innerNodes).countP
      Node.holdsVolumes = 0 := by
    refine List.countP_eq_zero.2 fun node hnode => ?_
    obtain ⟨partition, hmem, hnode⟩ := List.mem_flatMap.1 hnode
    exact List.countP_eq_zero.1 (isPlain_of_mem_plainPartitions hmem).countP_innerNodes node hnode
  have hinner : table.partitions.flatMap Partition.innerNodes =
      (plainPartitions request options ++ container).flatMap Partition.innerNodes := by
    rw [List.flatMap_def, List.flatMap_def, map_eq_of_forall₂ (fun old new hcontents => ?_) hsame]
    rw [Partition.innerNodes, hcontents.payload]
    rfl
  rw [PartitionTable.countP_nodes fun _ _ => rfl, hinner, List.flatMap_append, List.countP_append,
    hplain, Nat.zero_add]
  exact containerPartitions_countP_le hcontainer

end Assembled

end DiskLayout
