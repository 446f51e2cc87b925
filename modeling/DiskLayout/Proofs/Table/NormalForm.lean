import DiskLayout.Document.Table
import DiskLayout.Proofs.Identifier.RoundTrip
import DiskLayout.Proofs.Table.Content
import DiskLayout.Proofs.Table.Editing

/-!
# Tables in normal form

A document names identifiers and partition types by texts, and two of them may have the same text:
an identifier kept as a text that spells a UUID and the UUID itself, or a type with a well-known
GUID and the well-known type.  A table in normal form has the one of each such pair that is read
from the text.  Apart from that, a document cannot hold numbers beyond the width of their fields.

## Main definitions

* `Node.IsNormal`, `PartitionTable.IsNormal` — identifiers and types are those read from their texts
* `Node.Fits`, `PartitionTable.Fits` — sizes fit 64 bits, and the numbers of a mount entry 32 bits
* `Node.IsPortable`, `Partition.IsPortable` — both of a single node, of a partition with its nodes
* `Node.Shallow`, `Editor.Preserves` — a property of the own fields of nodes, an editor that keeps
  it

## Main results

* `PartitionTable.isNormal_iff`, `PartitionTable.isPortable_iff` — the same along the partitions
* `PartitionTable.edit_preserves` — what an editor preserves of each node, its walk preserves
-/

namespace DiskLayout

/-- Whether an identifier that may be absent is a UUID or a text that spells none. -/
def VolumeId.AllNormal (id? : Option VolumeId) : Prop := ∀ id, id? = some id → id.IsNormal

theorem VolumeId.allNormal_none : AllNormal none := fun _ h => nomatch h

namespace Node

/-- Whether the identifier and the type that a node has itself are those read from their texts. -/
def IsNormal : Node → Prop
  | .partition _ device => device.kind.IsNormal
  | .filesystem system => VolumeId.AllNormal system.uuid
  | .btrfs volume => VolumeId.AllNormal volume.uuid
  | .swap space => VolumeId.AllNormal space.uuid
  | .luks container => VolumeId.AllNormal container.uuid
  | .volumeGroup _ | .logicalVolume _ | .subvolume _ => True

/-- Whether the numbers that a node has itself fit their fields. -/
def Fits : Node → Prop
  | .partition _ device => device.size < Size.limit
  | .filesystem system => system.fstabFreq < wordLimit ∧ system.fstabPassNo < wordLimit
  | .logicalVolume volume => volume.size < Size.limit
  | .btrfs volume => volume.size < Size.limit
  | .subvolume volume => volume.size < Size.limit
  | .volumeGroup _ | .swap _ | .luks _ => True

/-- Whether a node can be written and is then read back. -/
def IsPortable (node : Node) : Prop := node.IsNormal ∧ node.Fits

end Node

/-- Whether a partition and all nodes of its payload have their identifiers and types from their
texts. -/
def Partition.IsNormal (partition : Partition) : Prop :=
  partition.kind.IsNormal ∧ ∀ payload, partition.payload = some payload → payload.All Node.IsNormal

/-- Whether a partition and all nodes of its payload can be written and are then read back. -/
def Partition.IsPortable (partition : Partition) : Prop :=
  partition.kind.IsNormal ∧ partition.size < Size.limit ∧
    ∀ payload, partition.payload = some payload → payload.All Node.IsPortable

namespace PartitionTable

/-- Whether the identifiers and types in a table are those read from their texts: no text that
is kept spells a UUID, and no type without a name has a well-known GUID. -/
structure IsNormal (table : PartitionTable) : Prop where
  uuid : VolumeId.AllNormal table.uuid
  nodes : ∀ node ∈ table.nodes, node.IsNormal

/-- Whether the numbers in a table fit their fields. -/
structure Fits (table : PartitionTable) : Prop where
  size : table.size < Size.limit
  nodes : ∀ node ∈ table.nodes, node.Fits

variable {table : PartitionTable}

/-- A table is in normal form exactly if its own identifier and all partitions are. -/
theorem isNormal_iff : table.IsNormal ↔
    VolumeId.AllNormal table.uuid ∧ ∀ partition ∈ table.partitions, partition.IsNormal := by
  constructor
  · rintro ⟨huuid, hnodes⟩
    refine ⟨huuid, fun partition hpartition => ?_⟩
    obtain ⟨index, hindex⟩ := List.mem_iff_getElem?.1 hpartition
    exact forall_mem_nodes.1 hnodes index partition hindex
  · rintro ⟨huuid, hpartitions⟩
    exact ⟨huuid, forall_mem_nodes.2 fun _ partition hindex =>
      hpartitions partition (List.mem_of_getElem? hindex)⟩

/-- What a table must be to be read back, along its partitions. -/
theorem isPortable_iff : table.IsNormal ∧ table.Fits ↔
    VolumeId.AllNormal table.uuid ∧ table.size < Size.limit ∧
      ∀ partition ∈ table.partitions, partition.IsPortable := by
  have hnodes : (∀ node ∈ table.nodes, node.IsPortable) ↔
      ∀ partition ∈ table.partitions, partition.IsPortable := by
    rw [forall_mem_nodes]
    constructor
    · intro h partition hpartition
      obtain ⟨index, hindex⟩ := List.mem_iff_getElem?.1 hpartition
      obtain ⟨⟨hkind, hsize⟩, hpayload⟩ := h index partition hindex
      exact ⟨hkind, hsize, hpayload⟩
    · intro h index partition hindex
      obtain ⟨hkind, hsize, hpayload⟩ := h partition (List.mem_of_getElem? hindex)
      exact ⟨⟨hkind, hsize⟩, hpayload⟩
  rw [← hnodes]
  constructor
  · rintro ⟨⟨huuid, hnormal⟩, ⟨hsize, hfits⟩⟩
    exact ⟨huuid, hsize, fun node hnode => ⟨hnormal node hnode, hfits node hnode⟩⟩
  · rintro ⟨huuid, hsize, hportable⟩
    exact ⟨⟨huuid, fun node hnode => (hportable node hnode).1⟩,
      ⟨hsize, fun node hnode => (hportable node hnode).2⟩⟩

end PartitionTable

/-! ### What a walk preserves -/

/-- Whether a property of nodes is about their own fields, whatever lies inside. -/
structure Node.Shallow (property : Node → Prop) : Prop where
  partition : ∀ index device payload, property (.partition index device) →
    property (.partition index { device with payload := payload })
  volumeGroup : ∀ group volumes, property (.volumeGroup group) →
    property (.volumeGroup { group with logicalVolumes := volumes })
  logicalVolume : ∀ volume payload, property (.logicalVolume volume) →
    property (.logicalVolume { volume with payload := payload })
  btrfs : ∀ volume subvolumes, property (.btrfs volume) →
    property (.btrfs { volume with subvolumes := subvolumes })
  luks : ∀ container payload, property (.luks container) →
    property (.luks { container with payload := payload })

theorem Node.isNormal_shallow : Node.Shallow Node.IsNormal where
  partition _ _ _ h := h
  volumeGroup _ _ h := h
  logicalVolume _ _ h := h
  btrfs _ _ h := h
  luks _ _ h := h

/-- An editor after which nodes have a property that they had before. -/
structure Editor.Preserves {m : Type → Type} [Monad m] [Always m] (property : Node → Prop)
    (editor : Editor m) : Prop where
  partition : ∀ index old, property (.partition index old) →
    always (fun new => property (.partition index new)) (editor.partition index old)
  filesystem : ∀ old, property (.filesystem old) →
    always (fun new => property (.filesystem new)) (editor.filesystem old)
  volumeGroup : ∀ old, property (.volumeGroup old) →
    always (fun new => property (.volumeGroup new)) (editor.volumeGroup old)
  logicalVolume : ∀ old, property (.logicalVolume old) →
    always (fun new => property (.logicalVolume new)) (editor.logicalVolume old)
  btrfs : ∀ old, property (.btrfs old) →
    always (fun new => property (.btrfs new)) (editor.btrfs old)
  subvolume : ∀ old, property (.subvolume old) →
    always (fun new => property (.subvolume new)) (editor.subvolume old)
  swap : ∀ old, property (.swap old) →
    always (fun new => property (.swap new)) (editor.swap old)
  luks : ∀ old, property (.luks old) →
    always (fun new => property (.luks new)) (editor.luks old)

section Preserve

variable {m : Type → Type} [Monad m] [Always m] {property : Node → Prop} {editor : Editor m}
  {order : WalkOrder}

theorem editOptionalPayload_preserves {payload : Option Payload}
    (h : ∀ inner, payload = some inner →
      always (Payload.All property) (inner.edit order editor)) :
    always (fun edited => ∀ inner, edited = some inner → inner.All property)
      (editOptionalPayload order editor payload) := by
  cases payload with
  | none => exact always_pure fun _ hinner => nomatch hinner
  | some inner =>
    exact always_bind (h inner rfl) fun _ hedited =>
      always_pure fun _ hinner => Option.some.inj hinner ▸ hedited

theorem LogicalVolume.edit_preserves (hshallow : Node.Shallow property)
    (hpreserves : editor.Preserves property) {volume : LogicalVolume}
    (hown : property (.logicalVolume volume))
    (h : ∀ payload, volume.payload = some payload →
      always (Payload.All property) (payload.edit order editor)) :
    always (LogicalVolume.All property) (volume.edit order editor) := by
  obtain ⟨name, size, payload⟩ := volume
  cases order with
  | parentsFirst =>
    refine always_bind (hpreserves.logicalVolume _ hown) fun own hedited => ?_
    refine always_bind (editOptionalPayload_preserves h) fun inner hinner => ?_
    exact always_pure ⟨hshallow.logicalVolume own inner hedited, hinner⟩
  | childrenFirst =>
    refine always_bind (editOptionalPayload_preserves h) fun inner hinner => ?_
    refine always_bind (hpreserves.logicalVolume _ (hshallow.logicalVolume _ inner hown))
      fun own hedited => ?_
    exact always_pure ⟨hshallow.logicalVolume own inner hedited, hinner⟩

theorem editLogicalVolumes_preserve (hshallow : Node.Shallow property)
    (hpreserves : editor.Preserves property) {volumes : List LogicalVolume}
    (hown : ∀ volume ∈ volumes, property (.logicalVolume volume))
    (h : ∀ volume ∈ volumes, ∀ payload, volume.payload = some payload →
      always (Payload.All property) (payload.edit order editor)) :
    always (fun edited => ∀ volume ∈ edited, LogicalVolume.All property volume)
      (editLogicalVolumes order editor volumes) := by
  induction volumes with
  | nil => exact always_pure fun _ hvolume => absurd hvolume List.not_mem_nil
  | cons volume others ih =>
    rw [List.forall_mem_cons] at hown h
    refine always_bind (LogicalVolume.edit_preserves hshallow hpreserves hown.1 h.1)
      fun first hfirst => ?_
    exact always_bind (ih hown.2 h.2) fun rest hrest =>
      always_pure (List.forall_mem_cons.2 ⟨hfirst, hrest⟩)

variable [LawfulMonad m]

/-- A property of the own fields that an editor preserves of each node is preserved of a payload. -/
theorem Payload.edit_preserves (order : WalkOrder) (hshallow : Node.Shallow property)
    (hpreserves : editor.Preserves property) {payload : Payload} (h : payload.All property) :
    always (Payload.All property) (payload.edit order editor) := by
  induction payload with
  | filesystem system =>
    exact always_bind (hpreserves.filesystem system (all_filesystem.1 h)) fun _ hedited =>
      always_pure (all_filesystem.2 hedited)
  | swap space =>
    exact always_bind (hpreserves.swap space (all_swap.1 h)) fun _ hedited =>
      always_pure (all_swap.2 hedited)
  | btrfs volume =>
    obtain ⟨hown, hsubvolumes⟩ := all_btrfs.1 h
    have hedited := always_mapM fun (old : Subvolume) (hold : old ∈ volume.subvolumes) =>
      hpreserves.subvolume old (hsubvolumes old hold)
    -- A node has the property on account of its own fields, so it does not matter whether what is
    -- inside is edited first.
    have hall : ∀ edited,
        List.Forall₂ (fun _ new => property (.subvolume new)) volume.subvolumes edited →
        ∀ new ∈ edited, property (.subvolume new) := fun _ hforall =>
      forall_mem_transport hforall (fun _ _ hnew _ => hnew) fun _ _ => trivial
    cases order with
    | parentsFirst =>
      refine always_bind (hpreserves.btrfs _ hown) fun own hbtrfs => ?_
      refine always_bind hedited fun edited hforall => ?_
      exact always_pure (all_btrfs.2 ⟨hshallow.btrfs own edited hbtrfs, hall edited hforall⟩)
    | childrenFirst =>
      refine always_bind hedited fun edited hforall => ?_
      refine always_bind (hpreserves.btrfs _ (hshallow.btrfs _ edited hown)) fun own hbtrfs => ?_
      exact always_pure (all_btrfs.2 ⟨hshallow.btrfs own edited hbtrfs, hall edited hforall⟩)
  | volumeGroup group ih =>
    obtain ⟨hown, hvolumes⟩ := all_volumeGroup.1 h
    obtain ⟨name, description, volumes⟩ := group
    have hedited : always (fun edited => ∀ volume ∈ edited, LogicalVolume.All property volume)
        (editLogicalVolumes order editor volumes) :=
      editLogicalVolumes_preserve hshallow hpreserves (fun volume hmem => (hvolumes volume hmem).1)
        fun volume hmem payload hpayload =>
          ih volume hmem payload hpayload ((hvolumes volume hmem).2 payload hpayload)
    cases order with
    | parentsFirst =>
      refine always_bind (hpreserves.volumeGroup _ hown) fun own hgroup => ?_
      refine always_bind hedited fun edited hall => ?_
      exact always_pure (all_volumeGroup.2 ⟨hshallow.volumeGroup own edited hgroup, hall⟩)
    | childrenFirst =>
      refine always_bind hedited fun edited hall => ?_
      refine always_bind (hpreserves.volumeGroup _ (hshallow.volumeGroup _ edited hown))
        fun own hgroup => ?_
      exact always_pure (all_volumeGroup.2 ⟨hshallow.volumeGroup own edited hgroup, hall⟩)
  | luks container ih =>
    obtain ⟨hown, hinner⟩ := all_luks.1 h
    obtain ⟨uuid, label, cipher, inner⟩ := container
    cases order with
    | parentsFirst =>
      refine always_bind (hpreserves.luks _ hown) fun own hcontainer => ?_
      refine always_bind (ih hinner) fun edited hall => ?_
      exact always_pure (all_luks.2 ⟨hshallow.luks own edited hcontainer, hall⟩)
    | childrenFirst =>
      refine always_bind (ih hinner) fun edited hall => ?_
      refine always_bind (hpreserves.luks _ (hshallow.luks _ edited hown))
        fun own hcontainer => ?_
      exact always_pure (all_luks.2 ⟨hshallow.luks own edited hcontainer, hall⟩)

theorem Partition.edit_preserves (order : WalkOrder) (hshallow : Node.Shallow property)
    (hpreserves : editor.Preserves property) (index : Nat) {partition : Partition}
    (hown : property (.partition index partition))
    (h : ∀ payload, partition.payload = some payload → payload.All property) :
    always (fun new => property (.partition index new) ∧
        ∀ payload, new.payload = some payload → payload.All property)
      (partition.edit order editor index) := by
  have hpayload : always (fun edited => ∀ inner, edited = some inner → inner.All property)
      (editOptionalPayload order editor partition.payload) :=
    editOptionalPayload_preserves fun inner hinner =>
      inner.edit_preserves order hshallow hpreserves (h inner hinner)
  cases order with
  | parentsFirst =>
    refine always_bind (hpreserves.partition index partition hown) fun own hedited => ?_
    refine always_bind hpayload fun inner hinner => ?_
    exact always_pure ⟨hshallow.partition index own inner hedited, hinner⟩
  | childrenFirst =>
    refine always_bind hpayload fun inner hinner => ?_
    refine always_bind (hpreserves.partition index _ (hshallow.partition index _ inner hown))
      fun own hedited => ?_
    exact always_pure ⟨hshallow.partition index own inner hedited, hinner⟩

theorem editPartitions_preserve (order : WalkOrder) (hshallow : Node.Shallow property)
    (hpreserves : editor.Preserves property) (start : Nat) {partitions : List Partition}
    (h : ∀ index partition, partitions[index]? = some partition →
      property (.partition (start + index) partition) ∧
        ∀ payload, partition.payload = some payload → payload.All property) :
    always (fun edited => ∀ (index : Nat) (partition : Partition),
        edited[index]? = some partition → property (.partition (start + index) partition) ∧
          ∀ payload, partition.payload = some payload → payload.All property)
      (editPartitions order editor start partitions) := by
  induction partitions generalizing start with
  | nil => exact always_pure fun _ _ hpartition => nomatch hpartition
  | cons partition others ih =>
    obtain ⟨hown, hpayload⟩ := h 0 partition rfl
    refine always_bind (partition.edit_preserves order hshallow hpreserves start hown hpayload)
      fun first hfirst => ?_
    have hothers := ih (start + 1) fun index other hother => by
      rw [Nat.add_assoc, Nat.add_comm 1 index]
      exact h (index + 1) other hother
    refine always_bind hothers fun rest hrest => always_pure fun index other hother => ?_
    cases index with
    | zero => exact Option.some.inj hother ▸ hfirst
    | succ index =>
      rw [Nat.add_comm index 1, ← Nat.add_assoc]
      exact hrest index other hother

/-- A property of the own fields that an editor preserves of each node is preserved of a table. -/
theorem PartitionTable.edit_preserves (order : WalkOrder) (hshallow : Node.Shallow property)
    (hpreserves : editor.Preserves property) {table : PartitionTable}
    (h : ∀ node ∈ table.nodes, property node) :
    always (fun new => new.uuid = table.uuid ∧ ∀ node ∈ new.nodes, property node)
      (table.edit order editor) := by
  refine always_bind (editPartitions_preserve order hshallow hpreserves 0
    fun index partition hpartition => ?_) fun edited hedited => always_pure ⟨rfl, ?_⟩
  · rw [Nat.zero_add]
    exact forall_mem_nodes.1 h index partition hpartition
  · refine forall_mem_nodes.2 fun index partition hpartition => ?_
    have hnode := hedited index partition hpartition
    rwa [Nat.zero_add] at hnode

end Preserve

end DiskLayout
