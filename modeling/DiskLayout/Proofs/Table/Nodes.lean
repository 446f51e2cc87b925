import DiskLayout.Table.Walk
import Mathlib.Data.List.Basic

/-!
# The nodes of a table

A payload may hold volumes that hold payloads again.  Facts about all of them are proved by one
induction over payloads, and read off the list of nodes that a walk visits.  That list does not
depend on what lies around a payload, so it splits along the table: into the nodes of each
partition, and these into the partition itself and the nodes of its payload.

## Main definitions

* `Payload.induction` — a property of payloads follows from the payloads directly inside
* `Payload.nodes`, `Partition.nodes`, `PartitionTable.nodes` — the nodes of a walk, parents first
* `Payload.mountpoints`, `Partition.mountpoints` — what is mounted inside
* `Payload.All`, `LogicalVolume.All` — a property of every node inside

## Main results

* `PartitionTable.nodes_eq`, `PartitionTable.mountpoints_eq` — the lists along the partitions
* `PartitionTable.partitionIndexOf?_eq` — the position of a mountpoint is that of the first
  partition in which it is mounted
-/

namespace DiskLayout

/-- A property of payloads holds of all of them if it passes from the payloads directly inside a
payload to the payload itself. -/
@[elab_as_elim, induction_eliminator]
theorem Payload.induction {motive : Payload → Prop}
    (filesystem : ∀ system, motive (.filesystem system))
    (volumeGroup : ∀ group : VolumeGroup,
      (∀ volume ∈ group.logicalVolumes, ∀ payload, volume.payload = some payload →
        motive payload) → motive (.volumeGroup group))
    (btrfs : ∀ volume, motive (.btrfs volume))
    (swap : ∀ space, motive (.swap space))
    (luks : ∀ container : Luks, motive container.payload → motive (.luks container))
    (payload : Payload) : motive payload := by
  -- The recursor also asks for motives of groups, volumes, containers and their lists: each of
  -- them says that the payloads directly inside have the property.
  refine @Payload.rec motive
    (fun group => ∀ volume ∈ group.logicalVolumes, ∀ payload, volume.payload = some payload →
      motive payload)
    (fun volume => ∀ payload, volume.payload = some payload → motive payload)
    (fun container => motive container.payload)
    (fun volumes => ∀ volume ∈ volumes, ∀ payload, volume.payload = some payload →
      motive payload)
    (fun payload? => ∀ payload, payload? = some payload → motive payload)
    filesystem volumeGroup btrfs swap luks (fun _ _ _ h => h) (fun _ _ _ h => h)
    (fun _ _ _ _ h => h) ?_ ?_ ?_ ?_ payload
  · intro volume hvolume
    exact absurd hvolume List.not_mem_nil
  · intro first others hfirst hothers volume hvolume
    rcases List.mem_cons.1 hvolume with rfl | hvolume
    · exact hfirst
    · exact hothers volume hvolume
  · intro payload h
    exact absurd h (by simp)
  · intro inner hinner payload h
    exact Option.some.inj h ▸ hinner

/-- A walk visits the root of a subtree and what lies below it, in either order. -/
@[simp] theorem WalkOrder.mem_arrange {order : WalkOrder} {visit root : Visit}
    {below : List Visit} : visit ∈ order.arrange root below ↔ visit = root ∨ visit ∈ below := by
  cases order <;> simp [arrange, or_comm]

/-! ### The visits of each kind of payload -/

section Visits

variable (order : WalkOrder) (ancestors : List Node)

theorem Payload.visits_volumeGroup (group : VolumeGroup) :
    (Payload.volumeGroup group).visits order ancestors =
      order.arrange ⟨.volumeGroup group, ancestors⟩
        (logicalVolumeVisits order (ancestors ++ [.volumeGroup group]) group.logicalVolumes) := by
  cases group
  rfl

theorem Payload.visits_btrfs (volume : Btrfs) :
    (Payload.btrfs volume).visits order ancestors =
      order.arrange ⟨.btrfs volume, ancestors⟩
        (volume.subvolumes.map fun subvolume =>
          ⟨.subvolume subvolume, ancestors ++ [.btrfs volume]⟩) := rfl

theorem Payload.visits_luks (container : Luks) :
    (Payload.luks container).visits order ancestors =
      order.arrange ⟨.luks container, ancestors⟩
        (container.payload.visits order (ancestors ++ [.luks container])) := by
  cases container
  rfl

theorem logicalVolumeVisits_eq_flatMap (volumes : List LogicalVolume) :
    logicalVolumeVisits order ancestors volumes =
      volumes.flatMap (LogicalVolume.visits order ancestors) := by
  induction volumes with
  | nil => rfl
  | cons volume others ih => rw [logicalVolumeVisits, List.flatMap_cons, ih]

theorem optionalPayloadVisits_eq_flatMap (payload : Option Payload) :
    optionalPayloadVisits order ancestors payload =
      payload.toList.flatMap (Payload.visits order ancestors) := by
  cases payload with
  | none => rfl
  | some payload => simp [optionalPayloadVisits]

theorem LogicalVolume.visits_eq (volume : LogicalVolume) :
    volume.visits order ancestors =
      order.arrange ⟨.logicalVolume volume, ancestors⟩
        (volume.payload.toList.flatMap
          (Payload.visits order (ancestors ++ [.logicalVolume volume]))) := by
  rw [← optionalPayloadVisits_eq_flatMap]
  cases volume
  rfl

end Visits

/-! ### Nodes -/

/-- The nodes of a payload, parents first. -/
def Payload.nodes (payload : Payload) : List Node :=
  (payload.visits .parentsFirst []).map Visit.node

/-- The nodes of a logical volume, parents first. -/
def LogicalVolume.nodes (volume : LogicalVolume) : List Node :=
  .logicalVolume volume :: volume.payload.toList.flatMap Payload.nodes

/-- The nodes of a partition at a position, parents first. -/
def Partition.nodes (index : Nat) (partition : Partition) : List Node :=
  .partition index partition :: partition.payload.toList.flatMap Payload.nodes

/-- The nodes of a table, parents first. -/
def PartitionTable.nodes (table : PartitionTable) : List Node :=
  (table.visits .parentsFirst).map Visit.node

/-- What lies around a payload does not change its nodes. -/
theorem Payload.map_node_visits (payload : Payload) (ancestors : List Node) :
    (payload.visits .parentsFirst ancestors).map Visit.node = payload.nodes := by
  unfold Payload.nodes
  -- Both lists of ancestors vary, for inside a container they are longer than at its root.
  generalize [] = others
  induction payload generalizing ancestors others with
  | filesystem system => rfl
  | volumeGroup group ih =>
    simp only [visits_volumeGroup, WalkOrder.arrange, logicalVolumeVisits_eq_flatMap,
      List.map_cons, List.map_flatMap]
    congr 1
    refine List.flatMap_congr fun volume hvolume => ?_
    rw [LogicalVolume.visits_eq, LogicalVolume.visits_eq]
    simp only [WalkOrder.arrange, List.map_cons, List.map_flatMap]
    congr 1
    refine List.flatMap_congr fun payload hpayload => ?_
    exact ih volume hvolume payload (Option.mem_toList.1 hpayload) _ _
  | btrfs volume => simp [visits_btrfs, WalkOrder.arrange, Function.comp_def]
  | swap space => rfl
  | luks container ih =>
    simp only [visits_luks, WalkOrder.arrange, List.map_cons]
    rw [ih]

@[simp] theorem Payload.nodes_filesystem (system : Filesystem) :
    (Payload.filesystem system).nodes = [.filesystem system] := rfl

@[simp] theorem Payload.nodes_volumeGroup (group : VolumeGroup) :
    (Payload.volumeGroup group).nodes =
      .volumeGroup group :: group.logicalVolumes.flatMap LogicalVolume.nodes := by
  rw [Payload.nodes, visits_volumeGroup, logicalVolumeVisits_eq_flatMap]
  simp only [WalkOrder.arrange, List.map_cons, List.map_flatMap]
  congr 1
  refine List.flatMap_congr fun volume _ => ?_
  rw [LogicalVolume.visits_eq, LogicalVolume.nodes]
  simp only [WalkOrder.arrange, List.map_cons, List.map_flatMap, map_node_visits]

@[simp] theorem Payload.nodes_btrfs (volume : Btrfs) :
    (Payload.btrfs volume).nodes = .btrfs volume :: volume.subvolumes.map .subvolume := by
  simp [Payload.nodes, visits_btrfs, WalkOrder.arrange, Function.comp_def]

@[simp] theorem Payload.nodes_swap (space : Swap) :
    (Payload.swap space).nodes = [.swap space] := rfl

@[simp] theorem Payload.nodes_luks (container : Luks) :
    (Payload.luks container).nodes = .luks container :: container.payload.nodes := by
  rw [Payload.nodes, visits_luks]
  simp only [WalkOrder.arrange, List.map_cons, map_node_visits]

/-! ### Mountpoints -/

namespace Node

@[simp] theorem mountpoint?_partition (index : Nat) (partition : Partition) :
    (Node.partition index partition).mountpoint? = none := rfl

@[simp] theorem mountpoint?_filesystem (system : Filesystem) :
    (Node.filesystem system).mountpoint? = some system.mountpoint := rfl

@[simp] theorem mountpoint?_volumeGroup (group : VolumeGroup) :
    (Node.volumeGroup group).mountpoint? = none := rfl

@[simp] theorem mountpoint?_logicalVolume (volume : LogicalVolume) :
    (Node.logicalVolume volume).mountpoint? = none := rfl

@[simp] theorem mountpoint?_btrfs (volume : Btrfs) :
    (Node.btrfs volume).mountpoint? = none := rfl

@[simp] theorem mountpoint?_subvolume (volume : Subvolume) :
    (Node.subvolume volume).mountpoint? = some volume.mountpoint := rfl

@[simp] theorem mountpoint?_luks (container : Luks) :
    (Node.luks container).mountpoint? = none := rfl

end Node

/-- What is mounted in a payload, in the order of its nodes. -/
def Payload.mountpoints (payload : Payload) : List String :=
  payload.nodes.filterMap Node.mountpoint?

/-- What is mounted in a partition, in the order of its nodes. -/
def Partition.mountpoints (partition : Partition) : List String :=
  partition.payload.toList.flatMap Payload.mountpoints

@[simp] theorem Payload.mountpoints_filesystem (system : Filesystem) :
    (Payload.filesystem system).mountpoints = [system.mountpoint] := rfl

@[simp] theorem Payload.mountpoints_volumeGroup (group : VolumeGroup) :
    (Payload.volumeGroup group).mountpoints =
      group.logicalVolumes.flatMap fun volume =>
        volume.payload.toList.flatMap Payload.mountpoints := by
  simp only [Payload.mountpoints, nodes_volumeGroup, LogicalVolume.nodes, List.filterMap_flatMap,
    List.filterMap_cons, Node.mountpoint?_volumeGroup, Node.mountpoint?_logicalVolume]
  rfl

@[simp] theorem Payload.mountpoints_btrfs (volume : Btrfs) :
    (Payload.btrfs volume).mountpoints = volume.subvolumes.map Subvolume.mountpoint := by
  rw [Payload.mountpoints, nodes_btrfs, List.filterMap_cons, Node.mountpoint?_btrfs,
    List.filterMap_map]
  exact congrFun List.filterMap_eq_map volume.subvolumes

@[simp] theorem Payload.mountpoints_swap (space : Swap) :
    (Payload.swap space).mountpoints = [] := rfl

@[simp] theorem Payload.mountpoints_luks (container : Luks) :
    (Payload.luks container).mountpoints = container.payload.mountpoints := by
  rw [Payload.mountpoints, nodes_luks, List.filterMap_cons, Node.mountpoint?_luks]
  rfl

@[simp] theorem Payload.mountpoint?_luks (container : Luks) :
    (Payload.luks container).mountpoint? = container.payload.mountpoint? := by
  cases container
  rfl

/-! ### Along the partitions -/

theorem Partition.visits_parentsFirst (index : Nat) (partition : Partition) :
    partition.visits .parentsFirst index =
      ⟨.partition index partition, []⟩ ::
        partition.payload.toList.flatMap
          (Payload.visits .parentsFirst [.partition index partition]) := by
  simp only [Partition.visits, WalkOrder.arrange, optionalPayloadVisits_eq_flatMap]

theorem Partition.map_node_visits (index : Nat) (partition : Partition) :
    (partition.visits .parentsFirst index).map Visit.node = partition.nodes index := by
  rw [visits_parentsFirst, Partition.nodes]
  simp only [List.map_cons, List.map_flatMap, Payload.map_node_visits]

theorem Partition.filterMap_mountpoint?_visits (index : Nat) (partition : Partition) :
    (partition.visits .parentsFirst index).filterMap (fun visit => visit.node.mountpoint?) =
      partition.mountpoints := by
  have hnodes := congrArg (List.filterMap Node.mountpoint?) (partition.map_node_visits index)
  rw [List.filterMap_map, Partition.nodes, List.filterMap_cons, Node.mountpoint?_partition,
    List.filterMap_flatMap] at hnodes
  exact hnodes

namespace PartitionTable

/-- The nodes of a table are those of its partitions, in order. -/
theorem nodes_eq (table : PartitionTable) :
    table.nodes = table.partitions.zipIdx.flatMap fun entry => entry.1.nodes entry.2 := by
  unfold nodes visits
  generalize 0 = start
  induction table.partitions generalizing start with
  | nil => rfl
  | cons partition others ih =>
    rw [partitionVisits, List.map_append, Partition.map_node_visits, ih, List.zipIdx_cons,
      List.flatMap_cons]

theorem mem_nodes {table : PartitionTable} {node : Node} :
    node ∈ table.nodes ↔
      ∃ (index : Nat) (partition : Partition), table.partitions[index]? = some partition ∧
        node ∈ partition.nodes index := by
  rw [nodes_eq, List.mem_flatMap]
  constructor
  · rintro ⟨⟨partition, index⟩, hentry, hnode⟩
    exact ⟨index, partition, List.mk_mem_zipIdx_iff_getElem?.1 hentry, hnode⟩
  · rintro ⟨index, partition, hpartition, hnode⟩
    exact ⟨(partition, index), List.mk_mem_zipIdx_iff_getElem?.2 hpartition, hnode⟩

/-- The visits of a table are those of its partitions, in order. -/
theorem visits_eq (order : WalkOrder) (table : PartitionTable) :
    table.visits order =
      table.partitions.zipIdx.flatMap fun entry => entry.1.visits order entry.2 := by
  unfold visits
  generalize 0 = start
  induction table.partitions generalizing start with
  | nil => rfl
  | cons partition others ih => rw [partitionVisits, ih, List.zipIdx_cons, List.flatMap_cons]

theorem mem_visits {order : WalkOrder} {table : PartitionTable} {visit : Visit} :
    visit ∈ table.visits order ↔
      ∃ (index : Nat) (partition : Partition), table.partitions[index]? = some partition ∧
        visit ∈ partition.visits order index := by
  rw [visits_eq, List.mem_flatMap]
  constructor
  · rintro ⟨⟨partition, index⟩, hentry, hvisit⟩
    exact ⟨index, partition, List.mk_mem_zipIdx_iff_getElem?.1 hentry, hvisit⟩
  · rintro ⟨index, partition, hpartition, hvisit⟩
    exact ⟨(partition, index), List.mk_mem_zipIdx_iff_getElem?.2 hpartition, hvisit⟩

/-- What is mounted in a table is what is mounted in its partitions, in order. -/
theorem mountpoints_eq (table : PartitionTable) :
    table.mountpoints = table.partitions.flatMap Partition.mountpoints := by
  unfold mountpoints visits
  generalize 0 = start
  induction table.partitions generalizing start with
  | nil => rfl
  | cons partition others ih =>
    rw [partitionVisits, List.filterMap_append, Partition.filterMap_mountpoint?_visits, ih,
      List.flatMap_cons]

end PartitionTable

/-- The nodes around a payload stay around everything inside it, outermost. -/
theorem Payload.ancestors_isPrefix {order : WalkOrder} {ancestors : List Node} {payload : Payload}
    {visit : Visit} (h : visit ∈ payload.visits order ancestors) :
    ancestors <+: visit.ancestors := by
  induction payload generalizing ancestors with
  | filesystem system | swap space =>
    obtain rfl := List.mem_singleton.1 h
    exact List.prefix_rfl
  | btrfs volume =>
    rw [visits_btrfs, WalkOrder.mem_arrange, List.mem_map] at h
    rcases h with rfl | ⟨subvolume, -, rfl⟩
    · exact List.prefix_rfl
    · exact List.prefix_append _ _
  | luks container ih =>
    rw [visits_luks, WalkOrder.mem_arrange] at h
    rcases h with rfl | hinner
    · exact List.prefix_rfl
    · exact (List.prefix_append _ _).trans (ih hinner)
  | volumeGroup group ih =>
    rw [visits_volumeGroup, WalkOrder.mem_arrange, logicalVolumeVisits_eq_flatMap,
      List.mem_flatMap] at h
    rcases h with rfl | ⟨volume, hvolume, hvisit⟩
    · exact List.prefix_rfl
    · rw [LogicalVolume.visits_eq, WalkOrder.mem_arrange, List.mem_flatMap] at hvisit
      rcases hvisit with rfl | ⟨payload, hpayload, hinner⟩
      · exact List.prefix_append _ _
      · have hprefix := ih volume hvolume payload (Option.mem_toList.1 hpayload) hinner
        exact (List.prefix_append _ _).trans ((List.prefix_append _ _).trans hprefix)

/-- A walk of a payload visits the payload itself, or something with the payload around it. -/
theorem Payload.visit_cases {order : WalkOrder} {ancestors : List Node} {payload : Payload}
    {visit : Visit} (h : visit ∈ payload.visits order ancestors) :
    visit = ⟨payload.node, ancestors⟩ ∨ ancestors ++ [payload.node] <+: visit.ancestors := by
  cases payload with
  | filesystem system | swap space => exact .inl (List.mem_singleton.1 h)
  | btrfs volume =>
    rw [visits_btrfs, WalkOrder.mem_arrange, List.mem_map] at h
    rcases h with rfl | ⟨subvolume, -, rfl⟩
    · exact .inl rfl
    · exact .inr List.prefix_rfl
  | luks container =>
    rw [visits_luks, WalkOrder.mem_arrange] at h
    exact h.imp_right ancestors_isPrefix
  | volumeGroup group =>
    rw [visits_volumeGroup, WalkOrder.mem_arrange, logicalVolumeVisits_eq_flatMap,
      List.mem_flatMap] at h
    rcases h with rfl | ⟨volume, -, hvisit⟩
    · exact .inl rfl
    · rw [LogicalVolume.visits_eq, WalkOrder.mem_arrange, List.mem_flatMap] at hvisit
      rcases hvisit with rfl | ⟨payload, -, hinner⟩
      · exact .inr List.prefix_rfl
      · exact .inr ((List.prefix_append _ _).trans (ancestors_isPrefix hinner))

/-- Everything that a walk visits in a partition lies in that partition. -/
theorem Partition.holder?_of_mem_visits {index : Nat} {partition : Partition} {visit : Visit}
    (h : visit ∈ partition.visits .parentsFirst index) {mountpoint : String}
    (hmounted : visit.node.mountpoint? = some mountpoint) : visit.holder? = some index := by
  rw [visits_parentsFirst, List.mem_cons, List.mem_flatMap] at h
  rcases h with rfl | ⟨payload, -, hinner⟩
  · simp at hmounted
  · obtain ⟨others, hothers⟩ := Payload.ancestors_isPrefix hinner
    rw [Visit.holder?, ← hothers]
    rfl

theorem find?_partitionVisits (mountpoint : String) (start : Nat) (partitions : List Partition) :
    ((partitionVisits .parentsFirst start partitions).find? fun visit =>
        visit.node.mountpoint? == some mountpoint).bind Visit.holder? =
      (partitions.findIdx? fun partition => partition.mountpoints.contains mountpoint).map
        (· + start) := by
  induction partitions generalizing start with
  | nil => rfl
  | cons partition others ih =>
    rw [partitionVisits, List.find?_append, List.findIdx?_cons]
    -- Either a visit of this partition decides both searches, or none does in either.
    cases hfound : (partition.visits .parentsFirst start).find? fun visit =>
        visit.node.mountpoint? == some mountpoint with
    | none =>
      have hnot : partition.mountpoints.contains mountpoint = false := by
        rw [← partition.filterMap_mountpoint?_visits start]
        simpa using hfound
      rw [hnot, Option.none_or, ih]
      simp [Function.comp_def, Nat.add_assoc, Nat.add_comm 1]
    | some visit =>
      have hmounted : visit.node.mountpoint? = some mountpoint := by
        simpa using List.find?_some hfound
      have hmem := List.mem_of_find?_eq_some hfound
      have hcontains : partition.mountpoints.contains mountpoint = true := by
        rw [← partition.filterMap_mountpoint?_visits start]
        simpa using ⟨visit, hmem, hmounted⟩
      rw [hcontains, Option.some_or, Option.bind_some,
        Partition.holder?_of_mem_visits hmem hmounted]
      simp

/-- A mountpoint lies in the first partition in which it is mounted. -/
theorem PartitionTable.partitionIndexOf?_eq (table : PartitionTable) (mountpoint : String) :
    table.partitionIndexOf? mountpoint =
      table.partitions.findIdx? fun partition => partition.mountpoints.contains mountpoint := by
  have hstart := find?_partitionVisits mountpoint 0 table.partitions
  simp only [Nat.add_zero, Option.map_id'] at hstart
  exact hstart

/-! ### Properties of all nodes -/

/-- Whether all nodes of a payload have a property. -/
def Payload.All (property : Node → Prop) (payload : Payload) : Prop :=
  ∀ node ∈ payload.nodes, property node

/-- Whether a logical volume and all nodes of its payload have a property. -/
def LogicalVolume.All (property : Node → Prop) (volume : LogicalVolume) : Prop :=
  property (.logicalVolume volume) ∧
    ∀ payload, volume.payload = some payload → payload.All property

section All

variable {property : Node → Prop}

@[simp] theorem Payload.all_filesystem {system : Filesystem} :
    (Payload.filesystem system).All property ↔ property (.filesystem system) := by
  simp [All]

@[simp] theorem Payload.all_volumeGroup {group : VolumeGroup} :
    (Payload.volumeGroup group).All property ↔
      property (.volumeGroup group) ∧
        ∀ volume ∈ group.logicalVolumes, volume.All property := by
  simp only [All, nodes_volumeGroup, List.forall_mem_cons, LogicalVolume.All,
    List.forall_mem_flatMap, LogicalVolume.nodes, Option.mem_toList]

@[simp] theorem Payload.all_btrfs {volume : Btrfs} :
    (Payload.btrfs volume).All property ↔
      property (.btrfs volume) ∧
        ∀ subvolume ∈ volume.subvolumes, property (.subvolume subvolume) := by
  simp [All]

@[simp] theorem Payload.all_swap {space : Swap} :
    (Payload.swap space).All property ↔ property (.swap space) := by
  simp [All]

@[simp] theorem Payload.all_luks {container : Luks} :
    (Payload.luks container).All property ↔
      property (.luks container) ∧ container.payload.All property := by
  simp [All]

/-- A property holds of all nodes of a table exactly if it holds of its partitions and of all
nodes of their payloads. -/
theorem PartitionTable.forall_mem_nodes {table : PartitionTable} :
    (∀ node ∈ table.nodes, property node) ↔
      ∀ (index : Nat) (partition : Partition), table.partitions[index]? = some partition →
        property (.partition index partition) ∧
          ∀ payload, partition.payload = some payload → payload.All property := by
  simp only [mem_nodes, Partition.nodes, List.mem_cons, List.mem_flatMap, Option.mem_toList]
  constructor
  · intro h index partition hpartition
    exact ⟨h _ ⟨index, partition, hpartition, .inl rfl⟩, fun payload hpayload node hnode =>
      h node ⟨index, partition, hpartition, .inr ⟨payload, hpayload, hnode⟩⟩⟩
  · rintro h node ⟨index, partition, hpartition, rfl | ⟨payload, hpayload, hnode⟩⟩
    · exact (h index partition hpartition).1
    · exact (h index partition hpartition).2 payload hpayload node hnode

/-- Everything in a partition of a table is a node of the table. -/
theorem PartitionTable.payload_all_mem_nodes {table : PartitionTable} {partition : Partition}
    {payload : Payload} (hmem : partition ∈ table.partitions)
    (hpayload : partition.payload = some payload) : payload.All (· ∈ table.nodes) := by
  obtain ⟨index, hindex⟩ := List.mem_iff_getElem?.1 hmem
  have hnodes := PartitionTable.forall_mem_nodes.1 (fun node (hnode : node ∈ table.nodes) => hnode)
  exact (hnodes index partition hindex).2 payload hpayload

/-- Everything in a logical volume of a table is a node of the table. -/
theorem PartitionTable.logicalVolume_all_mem_nodes {table : PartitionTable} {partition : Partition}
    {group : VolumeGroup} {volume : LogicalVolume} (hmem : partition ∈ table.partitions)
    (hpayload : partition.payload = some (.volumeGroup group))
    (hvolume : volume ∈ group.logicalVolumes) : volume.All (· ∈ table.nodes) :=
  (Payload.all_volumeGroup.1 (payload_all_mem_nodes hmem hpayload)).2 volume hvolume

end All

end DiskLayout
