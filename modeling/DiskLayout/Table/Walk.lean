import DiskLayout.Table.Basic

/-!
# Walks through a table

Every node of a table is visited in partition order, either before its children or after them.
One walk reads: it gives each node with the nodes around it, outermost first.  The other changes:
an editor replaces the own fields of each node, while the children of a node are whatever the walk
makes of them.

## Main definitions

* `Node` — a node of a table, `Visit` — a node with its ancestors
* `WalkOrder` — parents first or children first
* `PartitionTable.visits` — the visits of a table in order
* `Editor`, `PartitionTable.edit` — the walk that changes nodes
-/

namespace DiskLayout

/-- Whether parents are visited before their children or after them. -/
inductive WalkOrder where
  | parentsFirst
  | childrenFirst
deriving DecidableEq, Repr

/-- A node of a table.  Partitions carry their position. -/
inductive Node where
  | partition (index : Nat) (partition : Partition)
  | filesystem (filesystem : Filesystem)
  | volumeGroup (group : VolumeGroup)
  | logicalVolume (volume : LogicalVolume)
  | btrfs (btrfs : Btrfs)
  | subvolume (subvolume : Subvolume)
  | swap (swap : Swap)
  | luks (container : Luks)

namespace Node

/-- The word for the kind of a node. -/
def kind : Node → String
  | partition _ _ => "partition"
  | filesystem _ => "filesystem"
  | volumeGroup _ => "lvm-volume-group"
  | logicalVolume _ => "lvm-logical-volume"
  | btrfs _ => "btrfs"
  | subvolume _ => "btrfs-subvolume"
  | swap _ => "swap"
  | luks _ => "luks"

/-- The mountpoint of a node that is mounted itself: a filesystem or a subvolume. -/
def mountpoint? : Node → Option String
  | filesystem system => some system.mountpoint
  | subvolume volume => some volume.mountpoint
  | _ => none

/-- The position of a node that is a partition. -/
def partitionIndex? : Node → Option Nat
  | partition index _ => some index
  | _ => none

end Node

/-- The node that a payload is. -/
def Payload.node : Payload → Node
  | .filesystem system => .filesystem system
  | .volumeGroup group => .volumeGroup group
  | .btrfs volume => .btrfs volume
  | .swap space => .swap space
  | .luks container => .luks container

/-- A node together with the nodes around it, outermost first. -/
structure Visit where
  node : Node
  ancestors : List Node

namespace Visit

/-- The position of the partition in which a node lies. -/
def holder? (visit : Visit) : Option Nat :=
  visit.ancestors.head?.bind Node.partitionIndex?

end Visit

namespace WalkOrder

/-- The visits of a subtree: of its root and, in order, of what lies below. -/
def arrange (order : WalkOrder) (root : Visit) (below : List Visit) : List Visit :=
  match order with
  | parentsFirst => root :: below
  | childrenFirst => below ++ [root]

end WalkOrder

mutual

/-- The visits of a payload that lies inside `ancestors`. -/
def Payload.visits (order : WalkOrder) (ancestors : List Node) : Payload → List Visit
  | .filesystem system => [⟨.filesystem system, ancestors⟩]
  | .volumeGroup ⟨name, description, volumes⟩ =>
    let node := Node.volumeGroup ⟨name, description, volumes⟩
    order.arrange ⟨node, ancestors⟩ (logicalVolumeVisits order (ancestors ++ [node]) volumes)
  | .btrfs volume =>
    order.arrange ⟨.btrfs volume, ancestors⟩
      (volume.subvolumes.map fun subvolume =>
        ⟨.subvolume subvolume, ancestors ++ [.btrfs volume]⟩)
  | .swap space => [⟨.swap space, ancestors⟩]
  | .luks ⟨uuid, label, cipher, inner⟩ =>
    let node := Node.luks ⟨uuid, label, cipher, inner⟩
    order.arrange ⟨node, ancestors⟩ (inner.visits order (ancestors ++ [node]))

/-- The visits of logical volumes that lie inside `ancestors`. -/
def logicalVolumeVisits (order : WalkOrder) (ancestors : List Node) :
    List LogicalVolume → List Visit
  | [] => []
  | volume :: others => volume.visits order ancestors ++ logicalVolumeVisits order ancestors others

/-- The visits of a logical volume that lies inside `ancestors`. -/
def LogicalVolume.visits (order : WalkOrder) (ancestors : List Node) : LogicalVolume → List Visit
  | ⟨name, size, payload⟩ =>
    let node := Node.logicalVolume ⟨name, size, payload⟩
    order.arrange ⟨node, ancestors⟩ (optionalPayloadVisits order (ancestors ++ [node]) payload)

/-- The visits of a payload that may be absent. -/
def optionalPayloadVisits (order : WalkOrder) (ancestors : List Node) :
    Option Payload → List Visit
  | none => []
  | some payload => payload.visits order ancestors

end

/-- The visits of a partition at a position. -/
def Partition.visits (order : WalkOrder) (index : Nat) (partition : Partition) : List Visit :=
  let node := Node.partition index partition
  order.arrange ⟨node, []⟩ (optionalPayloadVisits order [node] partition.payload)

/-- The visits of partitions whose positions start at `index`. -/
def partitionVisits (order : WalkOrder) : (index : Nat) → List Partition → List Visit
  | _, [] => []
  | index, partition :: others =>
    partition.visits order index ++ partitionVisits order (index + 1) others

namespace PartitionTable

/-- The visits of a table, in partition order. -/
def visits (order : WalkOrder) (table : PartitionTable) : List Visit :=
  partitionVisits order 0 table.partitions

/-- Every mountpoint of a table, in the order of a walk with parents first. -/
def mountpoints (table : PartitionTable) : List String :=
  (table.visits .parentsFirst).filterMap fun visit => visit.node.mountpoint?

/-- Whether something is mounted at a path. -/
def containsMountpoint (table : PartitionTable) (mountpoint : String) : Bool :=
  table.mountpoints.contains mountpoint

/-- The position of the partition in which `mountpoint` lies, at any depth. -/
def partitionIndexOf? (table : PartitionTable) (mountpoint : String) : Option Nat :=
  ((table.visits .parentsFirst).find? fun visit =>
    visit.node.mountpoint? == some mountpoint).bind Visit.holder?

end PartitionTable

/-- How the nodes of a table are changed.  Only the own fields of the results are kept. -/
structure Editor (m : Type → Type) where
  partition : Nat → Partition → m Partition
  filesystem : Filesystem → m Filesystem
  volumeGroup : VolumeGroup → m VolumeGroup
  logicalVolume : LogicalVolume → m LogicalVolume
  btrfs : Btrfs → m Btrfs
  subvolume : Subvolume → m Subvolume
  swap : Swap → m Swap
  luks : Luks → m Luks

section Edit

variable {m : Type → Type} [Monad m]

mutual

/-- A payload after the walk of an editor. -/
def Payload.edit (order : WalkOrder) (editor : Editor m) : Payload → m Payload
  | .filesystem system => do return .filesystem (← editor.filesystem system)
  | .volumeGroup ⟨name, description, volumes⟩ =>
    match order with
    | .parentsFirst => do
      let group ← editor.volumeGroup ⟨name, description, volumes⟩
      let edited ← editLogicalVolumes .parentsFirst editor volumes
      return .volumeGroup { group with logicalVolumes := edited }
    | .childrenFirst => do
      let edited ← editLogicalVolumes .childrenFirst editor volumes
      let group ← editor.volumeGroup ⟨name, description, edited⟩
      return .volumeGroup { group with logicalVolumes := edited }
  | .btrfs volume =>
    match order with
    | .parentsFirst => do
      let btrfs ← editor.btrfs volume
      let edited ← volume.subvolumes.mapM editor.subvolume
      return .btrfs { btrfs with subvolumes := edited }
    | .childrenFirst => do
      let edited ← volume.subvolumes.mapM editor.subvolume
      let btrfs ← editor.btrfs { volume with subvolumes := edited }
      return .btrfs { btrfs with subvolumes := edited }
  | .swap space => do return .swap (← editor.swap space)
  | .luks ⟨uuid, label, cipher, inner⟩ =>
    match order with
    | .parentsFirst => do
      let container ← editor.luks ⟨uuid, label, cipher, inner⟩
      let edited ← inner.edit .parentsFirst editor
      return .luks { container with payload := edited }
    | .childrenFirst => do
      let edited ← inner.edit .childrenFirst editor
      let container ← editor.luks ⟨uuid, label, cipher, edited⟩
      return .luks { container with payload := edited }

/-- Logical volumes after the walk of an editor. -/
def editLogicalVolumes (order : WalkOrder) (editor : Editor m) :
    List LogicalVolume → m (List LogicalVolume)
  | [] => pure []
  | volume :: others => do
    let edited ← volume.edit order editor
    let others ← editLogicalVolumes order editor others
    return edited :: others

/-- A logical volume after the walk of an editor. -/
def LogicalVolume.edit (order : WalkOrder) (editor : Editor m) : LogicalVolume → m LogicalVolume
  | ⟨name, size, payload⟩ =>
    match order with
    | .parentsFirst => do
      let volume ← editor.logicalVolume ⟨name, size, payload⟩
      let edited ← editOptionalPayload .parentsFirst editor payload
      return { volume with payload := edited }
    | .childrenFirst => do
      let edited ← editOptionalPayload .childrenFirst editor payload
      let volume ← editor.logicalVolume ⟨name, size, edited⟩
      return { volume with payload := edited }

/-- A payload that may be absent, after the walk of an editor. -/
def editOptionalPayload (order : WalkOrder) (editor : Editor m) :
    Option Payload → m (Option Payload)
  | none => pure none
  | some payload => do return some (← payload.edit order editor)

end

/-- A partition at a position after the walk of an editor. -/
def Partition.edit (order : WalkOrder) (editor : Editor m) (index : Nat)
    (partition : Partition) : m Partition :=
  match order with
  | .parentsFirst => do
    let visited ← editor.partition index partition
    let edited ← editOptionalPayload .parentsFirst editor partition.payload
    return { visited with payload := edited }
  | .childrenFirst => do
    let edited ← editOptionalPayload .childrenFirst editor partition.payload
    let visited ← editor.partition index { partition with payload := edited }
    return { visited with payload := edited }

/-- Partitions whose positions start at `index`, after the walk of an editor. -/
def editPartitions (order : WalkOrder) (editor : Editor m) :
    (index : Nat) → List Partition → m (List Partition)
  | _, [] => pure []
  | index, partition :: others => do
    let edited ← partition.edit order editor index
    let others ← editPartitions order editor (index + 1) others
    return edited :: others

/-- A table after the walk of an editor. -/
def PartitionTable.edit (order : WalkOrder) (editor : Editor m) (table : PartitionTable) :
    m PartitionTable := do
  let edited ← editPartitions order editor 0 table.partitions
  return { table with partitions := edited }

end Edit

end DiskLayout
