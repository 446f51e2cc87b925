import DiskLayout.Table.Walk

/-!
# Visitors

A walk may hand each node to a visitor as soon as it gets there.  The walk that reads also tells
the visitor which nodes it is inside of: they are on a stack, where a node is put before the walk
goes through its children and taken off again behind them.  A visitor that fails ends the walk.

## Main definitions

* `Node.children` — the nodes directly inside a node
* `Node.walk`, `PartitionTable.walk` — the walk of a visitor with its stack
* `Editor.watch` — the editor that hands each node to a visitor and leaves it as it is
* `collectMountpoints`, `seekMountpoint` — the visitors of the look-ups
-/

namespace DiskLayout

namespace Node

/-- The nodes directly inside a node, in order. -/
def children : Node → List Node
  | .partition _ holder => holder.payload.toList.map Payload.node
  | .volumeGroup group => group.logicalVolumes.map .logicalVolume
  | .logicalVolume volume => volume.payload.toList.map Payload.node
  | .btrfs volume => volume.subvolumes.map .subvolume
  | .luks container => [container.payload.node]
  | .filesystem _ | .subvolume _ | .swap _ => []

theorem sizeOf_node (payload : Payload) : sizeOf payload.node = sizeOf payload := by
  cases payload <;> simp [Payload.node]

theorem sizeOf_lt_of_mem_children {node child : Node} (h : child ∈ node.children) :
    sizeOf child < sizeOf node := by
  cases node with
  | partition index holder =>
    obtain ⟨size, kind, uuid, bootable, payload⟩ := holder
    obtain ⟨inner, hinner, rfl⟩ := List.mem_map.1 h
    obtain rfl : payload = some inner := Option.mem_toList.1 hinner
    simp only [sizeOf_node, partition.sizeOf_spec, Partition.mk.sizeOf_spec,
      Option.some.sizeOf_spec]
    omega
  | volumeGroup group =>
    obtain ⟨name, description, volumes⟩ := group
    obtain ⟨volume, hvolume, rfl⟩ := List.mem_map.1 h
    have hsize : sizeOf volume < sizeOf volumes := List.sizeOf_lt_of_mem hvolume
    simp only [logicalVolume.sizeOf_spec, volumeGroup.sizeOf_spec, VolumeGroup.mk.sizeOf_spec]
    omega
  | logicalVolume volume =>
    obtain ⟨name, size, payload⟩ := volume
    obtain ⟨inner, hinner, rfl⟩ := List.mem_map.1 h
    obtain rfl : payload = some inner := Option.mem_toList.1 hinner
    simp only [sizeOf_node, logicalVolume.sizeOf_spec, LogicalVolume.mk.sizeOf_spec,
      Option.some.sizeOf_spec]
    omega
  | btrfs volume =>
    obtain ⟨uuid, label, size, subvolumes⟩ := volume
    obtain ⟨inner, hinner, rfl⟩ := List.mem_map.1 h
    have hsize : sizeOf inner < sizeOf subvolumes := List.sizeOf_lt_of_mem hinner
    simp only [subvolume.sizeOf_spec, btrfs.sizeOf_spec, Btrfs.mk.sizeOf_spec]
    omega
  | luks container =>
    obtain ⟨uuid, label, cipher, inner⟩ := container
    obtain rfl := List.mem_singleton.1 h
    simp only [sizeOf_node, luks.sizeOf_spec, Luks.mk.sizeOf_spec]
    omega
  | filesystem _ | subvolume _ | swap _ => cases h

variable {m : Type → Type} [Monad m]

/-- Hands a node and everything inside it to a visitor.  The state holds the nodes that the walk is
inside of, outermost first. -/
def walk (order : WalkOrder) (visitor : Visit → m Unit) (node : Node) :
    StateT (List Node) m Unit := do
  if order = .parentsFirst then
    visitor ⟨node, ← get⟩
  modify (· ++ [node])
  for child in node.children do
    child.walk order visitor
  modify List.dropLast
  if order = .childrenFirst then
    visitor ⟨node, ← get⟩
termination_by node
decreasing_by exact sizeOf_lt_of_mem_children ‹_›

end Node

namespace PartitionTable

/-- The partitions of a table as nodes. -/
def partitionNodes (table : PartitionTable) : List Node :=
  table.partitions.zipIdx.map fun entry => .partition entry.2 entry.1

/-- Hands everything in a table to a visitor. -/
def walk {m : Type → Type} [Monad m] (order : WalkOrder) (visitor : Visit → m Unit)
    (table : PartitionTable) : m Unit :=
  let through : StateT (List Node) m Unit := do
    for node in table.partitionNodes do
      node.walk order visitor
  through.run' []

end PartitionTable

/-- The editor that hands each node to a visitor and leaves it as it is. -/
def Editor.watch {m : Type → Type} [Monad m] (visitor : Node → m Unit) : Editor m where
  partition index old := do visitor (.partition index old); return old
  filesystem old := do visitor (.filesystem old); return old
  volumeGroup old := do visitor (.volumeGroup old); return old
  logicalVolume old := do visitor (.logicalVolume old); return old
  btrfs old := do visitor (.btrfs old); return old
  subvolume old := do visitor (.subvolume old); return old
  swap old := do visitor (.swap old); return old
  luks old := do visitor (.luks old); return old

/-- The visitor that adds what is mounted to a list. -/
def collectMountpoints (visit : Visit) : StateM (List String) Unit :=
  modify (· ++ visit.node.mountpoint?.toList)

/-- The visitor that notes the partition in which a mountpoint lies, and ends the walk there. -/
def seekMountpoint (mountpoint : String) (visit : Visit) :
    ExceptT Unit (StateM (Option Nat)) Unit := do
  if visit.node.mountpoint? = some mountpoint then
    if let some index := visit.holder? then
      set (some index)
    throw ()

end DiskLayout
