import DiskLayout.Allocation.Sizing
import DiskLayout.Proofs.Size.Alignment
import DiskLayout.Proofs.Table.Editing

/-!
# Resizing

Resizing walks a table with children first and grows every node to what it must hold.  The result
of a walk that does nothing else is a plain recursion, and it leaves every device sufficient:
large enough for its payload and for the minimum of what is mounted in it.

## Main definitions

* `Payload.resize`, `LogicalVolume.resize`, `Partition.resize` — resizing as a recursion
* `Node.resize` — what resizing makes of a node
* `Node.Sufficient` — a node that has the space it must have
* `Partition.Sufficient`, `PartitionTable.Sufficient` — the same for everything inside

## Main results

* `PartitionTable.resize_eq` — resizing a table resizes its partitions
* `PartitionTable.nodes_resize` — and with them each of its nodes
* `PartitionTable.resize_resembles` — resizing shrinks nothing and changes nothing but sizes
* `PartitionTable.resize_sufficient` — after it every node is sufficient
-/

namespace DiskLayout

open Sizing

/-! ### Resizing as a recursion -/

/-- A payload in which every device has grown to its minimum. -/
def Payload.resize (minimums : Minimums) (payload : Payload) : Payload :=
  Id.run (payload.edit .childrenFirst (resizer minimums))

/-- A logical volume in which every device has grown to its minimum. -/
def LogicalVolume.resize (minimums : Minimums) (volume : LogicalVolume) : LogicalVolume :=
  let payload := volume.payload.map (Payload.resize minimums)
  { volume with
    size := alignUp (deviceSize minimums volume.size payload) Size.extent
    payload := payload }

/-- A subvolume that has grown to its minimum. -/
def Subvolume.resize (minimums : Minimums) (volume : Subvolume) : Subvolume :=
  { volume with size := max volume.size ((minimums.get? volume.mountpoint).getD 0) }

/-- A partition in which every device has grown to its minimum. -/
def Partition.resize (minimums : Minimums) (partition : Partition) : Partition :=
  let payload := partition.payload.map (Payload.resize minimums)
  { partition with
    size := alignUp (deviceSize minimums partition.size payload) Size.partitionGrain
    payload := payload }

section Recursion

variable (minimums : Minimums)

theorem editOptionalPayload_resizer (payload : Option Payload) :
    Id.run (editOptionalPayload .childrenFirst (resizer minimums) payload) =
      payload.map (Payload.resize minimums) := by
  cases payload <;> rfl

theorem LogicalVolume.edit_resizer (volume : LogicalVolume) :
    Id.run (volume.edit .childrenFirst (resizer minimums)) = volume.resize minimums := by
  obtain ⟨name, size, payload⟩ := volume
  unfold resize
  rw [← editOptionalPayload_resizer]
  rfl

theorem editLogicalVolumes_resizer (volumes : List LogicalVolume) :
    Id.run (editLogicalVolumes .childrenFirst (resizer minimums) volumes) =
      volumes.map (LogicalVolume.resize minimums) := by
  induction volumes with
  | nil => rfl
  | cons volume others ih =>
    rw [List.map_cons, ← ih, ← LogicalVolume.edit_resizer]
    rfl

theorem Payload.resize_volumeGroup (group : VolumeGroup) :
    (Payload.volumeGroup group).resize minimums = .volumeGroup
      { group with
        logicalVolumes := group.logicalVolumes.map (LogicalVolume.resize minimums) } := by
  obtain ⟨name, description, volumes⟩ := group
  rw [← editLogicalVolumes_resizer]
  rfl

theorem Payload.resize_btrfs (volume : Btrfs) :
    (Payload.btrfs volume).resize minimums =
      let subvolumes := volume.subvolumes.map (Subvolume.resize minimums)
      .btrfs { volume with
        size := max volume.size ({ volume with subvolumes := subvolumes } : Btrfs).requiredSize
        subvolumes := subvolumes } := by
  have hsubvolumes : Id.run (volume.subvolumes.mapM (resizer minimums).subvolume) =
      volume.subvolumes.map (Subvolume.resize minimums) := List.idRun_mapM
  rw [← hsubvolumes]
  rfl

theorem Payload.resize_luks (container : Luks) :
    (Payload.luks container).resize minimums =
      .luks { container with payload := container.payload.resize minimums } := by
  cases container
  rfl

theorem Partition.edit_resizer (index : Nat) (partition : Partition) :
    Id.run (partition.edit .childrenFirst (resizer minimums) index) =
      partition.resize minimums := by
  unfold resize
  rw [← editOptionalPayload_resizer]
  rfl

/-- Resizing a table resizes its partitions. -/
theorem PartitionTable.resize_eq (table : PartitionTable) :
    table.resize minimums =
      { table with partitions := table.partitions.map (Partition.resize minimums) } := by
  have hpartitions : ∀ (index : Nat) (partitions : List Partition),
      Id.run (editPartitions .childrenFirst (resizer minimums) index partitions) =
        partitions.map (Partition.resize minimums) := by
    intro index partitions
    induction partitions generalizing index with
    | nil => rfl
    | cons partition others ih =>
      rw [List.map_cons, ← ih (index + 1), ← Partition.edit_resizer minimums index]
      rfl
  rw [← hpartitions 0]
  rfl

end Recursion

/-! ### The nodes of a resized table -/

/-- A node in which every device has grown to its minimum. -/
def Node.resize (minimums : Minimums) : Node → Node
  | .partition index device => .partition index (device.resize minimums)
  | .filesystem system => .filesystem system
  | .volumeGroup group =>
    .volumeGroup { group with
      logicalVolumes := group.logicalVolumes.map (LogicalVolume.resize minimums) }
  | .logicalVolume device => .logicalVolume (device.resize minimums)
  | .btrfs volume =>
    let subvolumes := volume.subvolumes.map (Subvolume.resize minimums)
    .btrfs { volume with
      size := max volume.size ({ volume with subvolumes := subvolumes } : Btrfs).requiredSize
      subvolumes := subvolumes }
  | .subvolume volume => .subvolume (volume.resize minimums)
  | .swap space => .swap space
  | .luks container => .luks { container with payload := container.payload.resize minimums }

section Nodes

variable (minimums : Minimums)

theorem flatMap_nodes_resize {payload : Option Payload}
    (h : ∀ inner, payload = some inner →
      (inner.resize minimums).nodes = inner.nodes.map (Node.resize minimums)) :
    (payload.map (Payload.resize minimums)).toList.flatMap Payload.nodes =
      (payload.toList.flatMap Payload.nodes).map (Node.resize minimums) := by
  cases payload with
  | none => rfl
  | some inner => simpa using h inner rfl

/-- The nodes of a resized payload are those of the payload, each of them resized. -/
theorem Payload.nodes_resize (payload : Payload) :
    (payload.resize minimums).nodes = payload.nodes.map (Node.resize minimums) := by
  induction payload with
  | filesystem system => rfl
  | swap space => rfl
  | btrfs volume =>
    rw [resize_btrfs, nodes_btrfs, nodes_btrfs, List.map_cons, List.map_map, List.map_map]
    rfl
  | luks container ih =>
    rw [resize_luks, nodes_luks, nodes_luks, ih, List.map_cons]
    rfl
  | volumeGroup group ih =>
    rw [resize_volumeGroup, nodes_volumeGroup, nodes_volumeGroup, List.map_cons, List.flatMap_map,
      List.map_flatMap]
    refine congrArg (List.cons _) (List.flatMap_congr fun volume hvolume => ?_)
    rw [LogicalVolume.nodes, LogicalVolume.nodes, List.map_cons,
      ← flatMap_nodes_resize minimums (ih volume hvolume)]
    rfl

/-- The nodes of a resized table are those of the table, each of them resized. -/
theorem PartitionTable.nodes_resize (table : PartitionTable) :
    (table.resize minimums).nodes = table.nodes.map (Node.resize minimums) := by
  rw [nodes_eq, nodes_eq, resize_eq, List.zipIdx_map, List.flatMap_map, List.map_flatMap]
  refine List.flatMap_congr fun entry _ => ?_
  rw [Partition.nodes, Partition.nodes, List.map_cons,
    ← flatMap_nodes_resize minimums fun inner _ => inner.nodes_resize minimums]
  rfl

end Nodes

/-! ### The least size of a device -/

/-- What a device must be large enough for: its size so far, its payload, and the minimum of what
is mounted in it. -/
theorem deviceSize_le_iff {minimums : Minimums} {size bound : Nat} {payload : Option Payload} :
    deviceSize minimums size payload ≤ bound ↔
      size ≤ bound ∧ (∀ inner, payload = some inner → inner.requirement ≤ bound) ∧
        ∀ mountpoint, payload.bind Payload.mountpoint? = some mountpoint →
          ∀ minimum, minimums.get? mountpoint = some minimum →
            minimum + luksOverhead payload ≤ bound := by
  unfold deviceSize
  -- A maximum is below a bound exactly if all three sizes are.
  rw [Nat.max_le, Nat.max_le, and_assoc]
  refine and_congr_right fun _ => and_congr ?_ ?_
  · cases payload <;> simp
  · cases payload.bind Payload.mountpoint? with
    | none => simp
    | some mountpoint => cases hminimum : minimums.get? mountpoint <;> simp [hminimum]

theorem le_deviceSize (minimums : Minimums) (size : Nat) (payload : Option Payload) :
    size ≤ deviceSize minimums size payload :=
  (deviceSize_le_iff.1 (Nat.le_refl _)).1

theorem deviceSize_zero_le (minimums : Minimums) (size : Nat) (payload : Option Payload) :
    deviceSize minimums 0 payload ≤ deviceSize minimums size payload :=
  deviceSize_le_iff.2 ⟨Nat.zero_le _, (deviceSize_le_iff.1 (Nat.le_refl _)).2⟩

/-! ### Nothing shrinks -/

theorem resizer_keeps (minimums : Minimums) : (resizer minimums).Keeps (· ≤ ·) where
  partition _ old :=
    ⟨Nat.le_trans (le_deviceSize minimums old.size old.payload) (le_alignUp _ _), rfl, .refl _, rfl⟩
  filesystem _ := ⟨rfl, .refl _, rfl, rfl, rfl, rfl, rfl⟩
  volumeGroup _ := ⟨rfl, rfl⟩
  logicalVolume old :=
    ⟨rfl, Nat.le_trans (le_deviceSize minimums old.size old.payload) (le_alignUp _ _)⟩
  btrfs _ := ⟨.refl _, rfl, Nat.le_max_left _ _⟩
  subvolume _ := ⟨rfl, rfl, Nat.le_max_left _ _, rfl⟩
  swap _ := ⟨.refl _, rfl, rfl⟩
  luks _ := ⟨.refl _, rfl, rfl⟩

/-- Resizing shrinks nothing and changes nothing but sizes. -/
theorem PartitionTable.resize_resembles (minimums : Minimums) (table : PartitionTable) :
    table.Resembles (· ≤ ·) (table.resize minimums) :=
  PartitionTable.edit_resembles .childrenFirst (resizer_keeps minimums) table

/-! ### Sufficient nodes -/

/-- Whether a node has the space it must have: a device that holds its payload and gives what is
mounted in it its minimum, in whole sectors or extents, and a subvolume of its minimum. -/
def Node.Sufficient (minimums : Minimums) : Node → Prop
  | .partition _ device =>
    device.size % Size.sector = 0 ∧ deviceSize minimums 0 device.payload ≤ device.size
  | .logicalVolume device =>
    device.size % Size.extent = 0 ∧ deviceSize minimums 0 device.payload ≤ device.size
  | .subvolume volume => (minimums.get? volume.mountpoint).getD 0 ≤ volume.size
  | _ => True

/-- Whether a partition and everything in it has the space it must have. -/
structure Partition.Sufficient (minimums : Minimums) (partition : Partition) : Prop where
  sectors : partition.size % Size.sector = 0
  size : deviceSize minimums 0 partition.payload ≤ partition.size
  payload : ∀ payload, partition.payload = some payload → payload.All (Node.Sufficient minimums)

/-- Whether everything in a table has the space it must have. -/
def PartitionTable.Sufficient (minimums : Minimums) (table : PartitionTable) : Prop :=
  ∀ partition ∈ table.partitions, partition.Sufficient minimums

theorem PartitionTable.Sufficient.of_mem_nodes {minimums : Minimums} {table : PartitionTable}
    (h : table.Sufficient minimums) {node : Node} (hnode : node ∈ table.nodes) :
    node.Sufficient minimums := by
  obtain ⟨index, partition, hpartition, hnode⟩ := PartitionTable.mem_nodes.1 hnode
  have hsufficient := h partition (List.mem_of_getElem? hpartition)
  rcases List.mem_cons.1 hnode with rfl | hinner
  · exact ⟨hsufficient.sectors, hsufficient.size⟩
  · obtain ⟨payload, hpayload, hnode⟩ := List.mem_flatMap.1 hinner
    exact hsufficient.payload payload (Option.mem_toList.1 hpayload) node hnode

section Sufficient

variable (minimums : Minimums)

theorem Payload.resize_sufficient (payload : Payload) :
    (payload.resize minimums).All (Node.Sufficient minimums) := by
  induction payload with
  | filesystem system => exact all_filesystem.2 trivial
  | swap space => exact all_swap.2 trivial
  | luks container ih =>
    rw [resize_luks, all_luks]
    exact ⟨trivial, ih⟩
  | btrfs volume =>
    rw [resize_btrfs, all_btrfs]
    refine ⟨trivial, fun subvolume hsubvolume => ?_⟩
    obtain ⟨old, -, rfl⟩ := List.mem_map.1 hsubvolume
    exact Nat.le_max_right _ _
  | volumeGroup group ih =>
    rw [resize_volumeGroup, all_volumeGroup]
    refine ⟨trivial, fun volume hvolume => ?_⟩
    obtain ⟨old, hold, rfl⟩ := List.mem_map.1 hvolume
    -- The volume grows after its payload, for which the induction hypothesis speaks.
    refine ⟨⟨alignUp_mod _ Size.extent_ne_zero, ?_⟩, fun payload hpayload => ?_⟩
    · exact Nat.le_trans (deviceSize_zero_le minimums _ _) (le_alignUp _ _)
    · obtain ⟨inner, hinner, rfl⟩ := Option.map_eq_some_iff.1 hpayload
      exact ih old hold inner hinner

theorem Partition.resize_sufficient (partition : Partition) :
    (partition.resize minimums).Sufficient minimums where
  sectors := Size.mod_sector_of_mod_partitionGrain (alignUp_mod _ Size.partitionGrain_ne_zero)
  size := Nat.le_trans (deviceSize_zero_le minimums _ _) (le_alignUp _ _)
  payload payload hpayload := by
    obtain ⟨inner, -, rfl⟩ := Option.map_eq_some_iff.1 hpayload
    exact inner.resize_sufficient minimums

/-- After resizing every node of a table has the space it must have. -/
theorem PartitionTable.resize_sufficient (table : PartitionTable) :
    (table.resize minimums).Sufficient minimums := by
  rw [resize_eq]
  intro partition hpartition
  obtain ⟨old, -, rfl⟩ := List.mem_map.1 hpartition
  exact old.resize_sufficient minimums

end Sufficient

end DiskLayout
