import DiskLayout.Proofs.Allocation.Identification
import DiskLayout.Proofs.Identifier.Forms

/-!
# Slots for identifiers

The slots of a table are numbered in the order of a walk with parents first, the table's own slot
being the first.  Identification takes sixteen bytes for every slot, so the bytes that a slot could
be filled with follow from its number alone, and its kind says what becomes of them.  Two tables of
the same structure therefore get the same identifiers wherever both lack one.

## Main definitions

* `SlotKind`, `SlotKind.identifier?` — what decides the form of an identifier
* `PartitionTable.slots` — the slots of a table in order
* `RandomSource.fill` — slots filled by the draws of a source, each by the draw of its number
* `PartitionTable.skeleton` — what a table is made of, without the contents of any field
* `Draws` — a computation that takes one draw for each slot, in order

## Main results

* `PartitionTable.identify_fills` — identification fills the slots of a table by number
* `PartitionTable.identify_positional` — identifiers depend on the source and on the position
-/

namespace DiskLayout

open Identification RandomSource

/-! ### Kinds of slots -/

/-- What has a slot, as far as the form of its identifier depends on it. -/
inductive SlotKind where
  | table (kind : TableKind)
  | partition (kind : TableKind)
  | filesystem (serial : Bool)
  | btrfs
  | swap
  | luks
deriving DecidableEq, Repr

namespace SlotKind

/-- The identifier that sixteen bytes give to a slot of a kind. -/
def identifier? : SlotKind → Vector UInt8 16 → Option VolumeId
  | table .dos, bytes => some (.dosDisk bytes)
  | partition .dos, _ => none
  | filesystem true, bytes => some (.fatSerial bytes)
  | table .gpt, bytes | partition .gpt, bytes | filesystem false, bytes | btrfs, bytes
  | swap, bytes | luks, bytes => some (.random bytes)

theorem identifier?_filesystem (kind : FilesystemType) (bytes : Vector UInt8 16) :
    (filesystem kind.usesSerial).identifier? bytes = some (filesystemId kind bytes) := by
  cases kind <;> rfl

/-- The form of the identifiers in slots of a kind. -/
def Admits : SlotKind → Option VolumeId → Prop
  | table .dos, id => ∃ disk : VolumeId, id = some disk ∧ disk.IsDosDisk
  | partition .dos, id => id = none
  | filesystem true, id => ∃ serial : VolumeId, id = some serial ∧ serial.IsFatSerial
  | table .gpt, id | partition .gpt, id | filesystem false, id | btrfs, id | swap, id
  | luks, id => ∃ uuid : Uuid, id = some (.uuid uuid) ∧ uuid.IsRandom

/-- Whatever the bytes are, the identifier made from them has the form of its kind. -/
theorem admits_identifier? (kind : SlotKind) (bytes : Vector UInt8 16) :
    kind.Admits (kind.identifier? bytes) := by
  have hrandom : ∃ uuid : Uuid, some (VolumeId.random bytes) = some (.uuid uuid) ∧
      uuid.IsRandom := ⟨_, rfl, Uuid.isRandom_ofRandomBytes bytes⟩
  cases kind with
  | table kind =>
    cases kind with
    | gpt => exact hrandom
    | dos => exact ⟨_, rfl, VolumeId.isDosDisk_dosDisk bytes⟩
  | partition kind =>
    cases kind with
    | gpt => exact hrandom
    | dos => rfl
  | filesystem serial =>
    cases serial with
    | false => exact hrandom
    | true => exact ⟨_, rfl, VolumeId.isFatSerial_fatSerial bytes⟩
  | btrfs | swap | luks => exact hrandom

end SlotKind

/-- A place for an identifier and what is in it. -/
structure IdSlot where
  kind : SlotKind
  id : Option VolumeId
deriving DecidableEq, Repr

/-- A slot after sixteen bytes were offered to it: what is in it stays. -/
def IdSlot.fill (slot : IdSlot) (bytes : Vector UInt8 16) : IdSlot :=
  { slot with id := slot.id <|> slot.kind.identifier? bytes }

theorem IdSlot.fill_filled {slot : IdSlot} (h : slot.id.isSome) (bytes : Vector UInt8 16) :
    slot.fill bytes = slot := by
  obtain ⟨kind, id⟩ := slot
  cases id with
  | none => simp at h
  | some id => rfl

/-! ### The slots of a table -/

/-- The slot of a node in a table of a kind. -/
def Node.slot? (kind : TableKind) : Node → Option IdSlot
  | .partition _ device => some ⟨.partition kind, device.uuid.map .uuid⟩
  | .filesystem system => some ⟨.filesystem system.kind.usesSerial, system.uuid⟩
  | .btrfs volume => some ⟨.btrfs, volume.uuid⟩
  | .swap space => some ⟨.swap, space.uuid⟩
  | .luks container => some ⟨.luks, container.uuid⟩
  | .volumeGroup _ | .logicalVolume _ | .subvolume _ => none

/-- The slots of a payload in a table of a kind, parents first. -/
def Payload.slots (kind : TableKind) (payload : Payload) : List IdSlot :=
  payload.nodes.filterMap (Node.slot? kind)

/-- The slots of a logical volume in a table of a kind, all of them inside its payload. -/
def LogicalVolume.slots (kind : TableKind) (volume : LogicalVolume) : List IdSlot :=
  volume.payload.toList.flatMap (Payload.slots kind)

/-- The slots of a partition in a table of a kind: its own and those of its payload. -/
def Partition.slots (kind : TableKind) (partition : Partition) : List IdSlot :=
  ⟨.partition kind, partition.uuid.map .uuid⟩ ::
    partition.payload.toList.flatMap (Payload.slots kind)

/-- The slots of a table: its own and those of its nodes, parents first. -/
def PartitionTable.slots (table : PartitionTable) : List IdSlot :=
  ⟨.table table.kind, table.uuid⟩ :: table.nodes.filterMap (Node.slot? table.kind)

section Slots

variable {kind : TableKind}

@[simp] theorem Payload.slots_filesystem (system : Filesystem) :
    (Payload.filesystem system).slots kind =
      [⟨.filesystem system.kind.usesSerial, system.uuid⟩] := by
  rw [slots, nodes_filesystem]
  rfl

@[simp] theorem Payload.slots_swap (space : Swap) :
    (Payload.swap space).slots kind = [⟨.swap, space.uuid⟩] := by
  rw [slots, nodes_swap]
  rfl

@[simp] theorem Payload.slots_btrfs (volume : Btrfs) :
    (Payload.btrfs volume).slots kind = [⟨.btrfs, volume.uuid⟩] := by
  have hsubvolumes : (volume.subvolumes.map Node.subvolume).filterMap (Node.slot? kind) = [] := by
    simp [List.filterMap_map, Node.slot?, Function.comp_def]
  rw [slots, nodes_btrfs, List.filterMap_cons, hsubvolumes]
  rfl

@[simp] theorem Payload.slots_luks (container : Luks) :
    (Payload.luks container).slots kind =
      ⟨.luks, container.uuid⟩ :: container.payload.slots kind := by
  rw [slots, nodes_luks, List.filterMap_cons]
  rfl

@[simp] theorem Payload.slots_volumeGroup (group : VolumeGroup) :
    (Payload.volumeGroup group).slots kind =
      group.logicalVolumes.flatMap (LogicalVolume.slots kind) := by
  rw [slots, nodes_volumeGroup, List.filterMap_cons]
  simp only [Node.slot?, List.filterMap_flatMap, LogicalVolume.nodes, List.filterMap_cons]
  rfl

theorem Partition.filterMap_slot?_nodes (index : Nat) (partition : Partition) :
    (partition.nodes index).filterMap (Node.slot? kind) = partition.slots kind := by
  rw [nodes, List.filterMap_cons, List.filterMap_flatMap]
  rfl

/-- The slots of a table are its own and those of its partitions, in order. -/
theorem PartitionTable.slots_eq (table : PartitionTable) :
    table.slots = ⟨.table table.kind, table.uuid⟩ ::
      table.partitions.flatMap (Partition.slots table.kind) := by
  rw [slots, nodes_eq, List.filterMap_flatMap]
  simp only [Partition.filterMap_slot?_nodes]
  rw [← List.flatMap_map Prod.fst (Partition.slots table.kind), List.zipIdx_map_fst]

end Slots

/-! ### Filling by number -/

namespace RandomSource

/-- The sixteen bytes of the draw with a number. -/
def drawn (source : RandomSource) (number : Nat) : Vector UInt8 16 :=
  bytesAt source.stream (source.position + 16 * number)

/-- Slots filled by the draws of a source, each by the draw of its number. -/
def fill (source : RandomSource) (slots : List IdSlot) : List IdSlot :=
  slots.mapIdx fun number slot => slot.fill (source.drawn number)

theorem advance_advance (source : RandomSource) (first second : Nat) :
    (source.advance first).advance second = source.advance (first + second) := by
  simp only [advance, RandomSource.mk.injEq, true_and]
  omega

theorem drawn_advance (source : RandomSource) (count number : Nat) :
    (source.advance count).drawn number = source.drawn (number + count) := by
  have hposition : source.position + 16 * count + 16 * number =
      source.position + 16 * (number + count) := by omega
  rw [drawn, drawn, ← hposition]
  rfl

theorem fill_append (source : RandomSource) (first second : List IdSlot) :
    source.fill (first ++ second) =
      source.fill first ++ (source.advance first.length).fill second := by
  simp only [fill, List.mapIdx_append, drawn_advance]

end RandomSource

/-- Whether a computation takes one draw for each of some slots, in order, and gives a value that
fits the slots so filled. -/
def Draws {α : Type} (slots : List IdSlot) (goal : List IdSlot → α → Prop)
    (computation : StateM RandomSource α) : Prop :=
  ∀ source, goal (source.fill slots) (computation.run source).1 ∧
    (computation.run source).2 = source.advance slots.length

section Draws

variable {α β : Type} {goal : List IdSlot → α → Prop}

theorem draws_pure {value : α} (h : goal [] value) : Draws [] goal (pure value) :=
  fun _ => ⟨h, rfl⟩

theorem draws_bind {goal' : List IdSlot → β → Prop} {first : StateM RandomSource α}
    {next : α → StateM RandomSource β} {slots others : List IdSlot}
    (hfirst : Draws slots goal first) (hnext : ∀ filled value, goal filled value →
      Draws others (fun filled' => goal' (filled ++ filled')) (next value)) :
    Draws (slots ++ others) goal' (first >>= next) := by
  intro source
  obtain ⟨hvalue, hsource⟩ := hfirst source
  obtain ⟨hresult, hend⟩ := hnext _ _ hvalue (source.advance slots.length)
  have hrun : (first >>= next).run source =
      (next (first.run source).1).run (source.advance slots.length) := by
    rw [← hsource]
    rfl
  rw [hrun, fill_append, List.length_append, ← advance_advance]
  exact ⟨hresult, hend⟩

theorem draws_draw (slot : IdSlot) :
    Draws [slot] (fun filled bytes => filled = [slot.fill bytes]) draw :=
  fun _ => ⟨rfl, rfl⟩

theorem draws_cons {goal' : List IdSlot → β → Prop} {first : StateM RandomSource α}
    {next : α → StateM RandomSource β} {slot : IdSlot} {others : List IdSlot}
    (hfirst : Draws [slot] goal first)
    (hnext : ∀ filled value, goal filled value →
      Draws others (fun filled' => goal' (filled ++ filled')) (next value)) :
    Draws (slot :: others) goal' (first >>= next) :=
  draws_bind hfirst hnext

theorem draws_map {goal' : List IdSlot → β → Prop} {computation : StateM RandomSource α}
    {make : α → β} {slots : List IdSlot} (h : Draws slots goal computation)
    (hmake : ∀ filled value, goal filled value → goal' filled (make value)) :
    Draws slots goal' (do let value ← computation; return make value) := by
  rw [← List.append_nil slots]
  refine draws_bind h fun filled value hvalue => draws_pure ?_
  rw [List.append_nil]
  exact hmake filled value hvalue

end Draws

/-! ### The walk that fills slots -/

section Walk

variable {kind : TableKind}

/-- Whether a computation gives a value with the slots of an old one, filled by a draw each. -/
def Fills {α : Type} (slots : α → List IdSlot) (old : α) (computation : StateM RandomSource α) :
    Prop :=
  Draws (slots old) (fun filled new => slots new = filled) computation

theorem editOptionalPayload_fills {payload : Option Payload}
    (h : ∀ inner, payload = some inner →
      Fills (Payload.slots kind) inner (inner.edit .parentsFirst (identifier kind))) :
    Fills (fun payload => payload.toList.flatMap (Payload.slots kind)) payload
      (editOptionalPayload .parentsFirst (identifier kind) payload) := by
  cases payload with
  | none => exact draws_pure rfl
  | some inner =>
    have hslots : (some inner).toList.flatMap (Payload.slots kind) = inner.slots kind := by simp
    rw [Fills, hslots]
    refine draws_map (h inner rfl) fun filled new hnew => ?_
    rw [← hnew]
    simp

theorem editLogicalVolumes_fill {volumes : List LogicalVolume}
    (h : ∀ volume ∈ volumes, ∀ payload, volume.payload = some payload →
      Fills (Payload.slots kind) payload (payload.edit .parentsFirst (identifier kind))) :
    Fills (fun volumes => volumes.flatMap (LogicalVolume.slots kind)) volumes
      (editLogicalVolumes .parentsFirst (identifier kind) volumes) := by
  induction volumes with
  | nil => exact draws_pure rfl
  | cons volume others ih =>
    obtain ⟨name, size, payload⟩ := volume
    rw [List.forall_mem_cons] at h
    -- A logical volume has no slot of its own.
    have hwalk : LogicalVolume.edit .parentsFirst (identifier kind) ⟨name, size, payload⟩ = do
        let edited ← editOptionalPayload .parentsFirst (identifier kind) payload
        return ⟨name, size, edited⟩ := rfl
    have hfirst : Fills (LogicalVolume.slots kind) ⟨name, size, payload⟩
        (LogicalVolume.edit .parentsFirst (identifier kind) ⟨name, size, payload⟩) := by
      rw [hwalk]
      exact draws_map (editOptionalPayload_fills h.1) fun _ _ hnew => hnew
    refine draws_bind hfirst fun filled new hnew => ?_
    refine draws_map (ih h.2) fun filled' news hnews => ?_
    exact List.flatMap_cons.trans (congrArg₂ (· ++ ·) hnew hnews)

/-- A node that fills its own slot with a draw of its own. -/
theorem draws_own {α : Type} {slot : IdSlot} (slotOf : α → IdSlot) {make : Vector UInt8 16 → α}
    (h : ∀ bytes, slotOf (make bytes) = slot.fill bytes) :
    Draws [slot] (fun filled new => [slotOf new] = filled)
      (do let bytes ← draw; return make bytes) :=
  draws_map (draws_draw slot) fun _ bytes hfilled => by rw [hfilled, h]

theorem identifier_filesystem_draws (system : Filesystem) :
    Draws [⟨.filesystem system.kind.usesSerial, system.uuid⟩]
      (fun filled (new : Filesystem) => [⟨.filesystem new.kind.usesSerial, new.uuid⟩] = filled)
      ((identifier kind).filesystem system) := by
  refine draws_own (fun new : Filesystem => ⟨.filesystem new.kind.usesSerial, new.uuid⟩)
    fun bytes => ?_
  rw [IdSlot.fill, SlotKind.identifier?_filesystem]

theorem identifier_partition_draws (index : Nat) (partition : Partition) :
    Draws [⟨.partition kind, partition.uuid.map .uuid⟩]
      (fun filled (new : Partition) => [⟨.partition kind, new.uuid.map .uuid⟩] = filled)
      ((identifier kind).partition index partition) := by
  refine draws_own (fun new : Partition => ⟨.partition kind, new.uuid.map .uuid⟩) fun bytes => ?_
  -- What is there is kept under the wrapping, and what a DOS table lacks stays lacking.
  cases kind <;> cases partition.uuid <;> rfl

theorem identifier_btrfs_draws (volume : Btrfs) :
    Draws [⟨.btrfs, volume.uuid⟩] (fun filled (new : Btrfs) => [⟨.btrfs, new.uuid⟩] = filled)
      ((identifier kind).btrfs volume) :=
  draws_own (fun new : Btrfs => ⟨.btrfs, new.uuid⟩) fun _ => rfl

theorem identifier_swap_draws (space : Swap) :
    Draws [⟨.swap, space.uuid⟩] (fun filled (new : Swap) => [⟨.swap, new.uuid⟩] = filled)
      ((identifier kind).swap space) :=
  draws_own (fun new : Swap => ⟨.swap, new.uuid⟩) fun _ => rfl

theorem identifier_luks_draws (container : Luks) :
    Draws [⟨.luks, container.uuid⟩] (fun filled (new : Luks) => [⟨.luks, new.uuid⟩] = filled)
      ((identifier kind).luks container) :=
  draws_own (fun new : Luks => ⟨.luks, new.uuid⟩) fun _ => rfl

/-- The walk through a payload fills its slots in order. -/
theorem Payload.edit_fills (payload : Payload) :
    Fills (slots kind) payload (payload.edit .parentsFirst (identifier kind)) := by
  induction payload with
  | filesystem system =>
    rw [Fills, slots_filesystem]
    refine draws_map (identifier_filesystem_draws system) fun filled new hnew => ?_
    rw [slots_filesystem, hnew]
  | swap space =>
    rw [Fills, slots_swap]
    refine draws_map (identifier_swap_draws space) fun filled new hnew => ?_
    rw [slots_swap, hnew]
  | btrfs volume =>
    -- Subvolumes have no slots, so the walk along them takes no draw.
    have hsubvolumes : volume.subvolumes.mapM (identifier kind).subvolume =
        pure volume.subvolumes := by
      have hpure := List.mapM_pure (m := StateM RandomSource) (l := volume.subvolumes) (f := id)
      rwa [List.map_id] at hpure
    have hwalk : (Payload.btrfs volume).edit .parentsFirst (identifier kind) = do
        let new ← (identifier kind).btrfs volume
        return .btrfs { new with subvolumes := volume.subvolumes } := by
      rw [Payload.edit, hsubvolumes]
      rfl
    rw [Fills, slots_btrfs, hwalk]
    refine draws_map (identifier_btrfs_draws volume) fun filled new hnew => ?_
    rw [slots_btrfs, ← hnew]
  | volumeGroup group ih =>
    obtain ⟨name, description, volumes⟩ := group
    have hwalk : (Payload.volumeGroup ⟨name, description, volumes⟩).edit .parentsFirst
        (identifier kind) = do
          let edited ← editLogicalVolumes .parentsFirst (identifier kind) volumes
          return .volumeGroup ⟨name, description, edited⟩ := rfl
    rw [Fills, slots_volumeGroup, hwalk]
    refine draws_map (editLogicalVolumes_fill ih) fun filled new hnew => ?_
    rw [slots_volumeGroup]
    exact hnew
  | luks container ih =>
    obtain ⟨uuid, label, cipher, inner⟩ := container
    rw [Fills, slots_luks]
    refine draws_cons (identifier_luks_draws _) fun filled new hnew => ?_
    refine draws_map ih fun filled' edited hedited => ?_
    rw [slots_luks, ← hnew, ← hedited]
    rfl

theorem Partition.edit_fills (index : Nat) (partition : Partition) :
    Fills (Partition.slots kind) partition
      (partition.edit .parentsFirst (identifier kind) index) := by
  refine draws_cons (identifier_partition_draws index partition) fun filled new hnew => ?_
  have hpayload : Fills (fun payload => payload.toList.flatMap (Payload.slots kind))
      partition.payload (editOptionalPayload .parentsFirst (identifier kind) partition.payload) :=
    editOptionalPayload_fills fun inner _ => inner.edit_fills
  refine draws_map hpayload fun filled' edited hedited => ?_
  rw [← hnew, ← hedited]
  rfl

theorem editPartitions_fill (index : Nat) (partitions : List Partition) :
    Fills (fun partitions => partitions.flatMap (Partition.slots kind)) partitions
      (editPartitions .parentsFirst (identifier kind) index partitions) := by
  induction partitions generalizing index with
  | nil => exact draws_pure rfl
  | cons partition others ih =>
    refine draws_bind (partition.edit_fills index) fun filled new hnew => ?_
    refine draws_map (ih (index + 1)) fun filled' news hnews => ?_
    exact List.flatMap_cons.trans (congrArg₂ (· ++ ·) hnew hnews)

/-- Identification fills the slots of a table in order, by a draw each. -/
theorem PartitionTable.identify_fills (table : PartitionTable) :
    Fills slots table table.identify := by
  rw [Fills, slots_eq]
  refine draws_cons (draws_draw _) fun filled bytes hfilled => ?_
  refine draws_map (editPartitions_fill 0 table.partitions) fun filled' edited hedited => ?_
  rw [slots_eq, hfilled, ← hedited]
  cases hkind : table.kind <;> simp [IdSlot.fill, SlotKind.identifier?, tableId]

end Walk

/-! ### Skeletons -/

/-- Whether a node is a filesystem with a serial number in place of a UUID. -/
def Node.usesSerial : Node → Bool
  | .filesystem system => system.kind.usesSerial
  | _ => false

/-- What a visit says about the structure of a table: the kind of the node, how deep it lies, and
whether it is a filesystem with a serial number. -/
structure Mark where
  kind : String
  depth : Nat
  serial : Bool
deriving DecidableEq, Repr

/-- The mark that a visit leaves. -/
def Visit.mark (visit : Visit) : Mark :=
  ⟨visit.node.kind, visit.ancestors.length, visit.node.usesSerial⟩

/-- What a table is made of, without the contents of any field. -/
def PartitionTable.skeleton (table : PartitionTable) : List Mark :=
  (table.visits .parentsFirst).map Visit.mark

/-- The kind of the slot at a mark in a table of a kind. -/
def Mark.slotKind? (kind : TableKind) (mark : Mark) : Option SlotKind :=
  match mark.kind with
  | "partition" => some (.partition kind)
  | "filesystem" => some (.filesystem mark.serial)
  | "btrfs" => some .btrfs
  | "swap" => some .swap
  | "luks" => some .luks
  | _ => none

theorem Visit.slotKind?_mark (kind : TableKind) (visit : Visit) :
    visit.mark.slotKind? kind = (visit.node.slot? kind).map IdSlot.kind := by
  obtain ⟨node, ancestors⟩ := visit
  cases node <;> rfl

/-- The skeleton of a table decides how many slots it has and of which kinds they are. -/
theorem PartitionTable.map_kind_slots (table : PartitionTable) :
    table.slots.map IdSlot.kind =
      .table table.kind :: table.skeleton.filterMap (Mark.slotKind? table.kind) := by
  rw [slots, nodes, skeleton, List.map_cons, List.map_filterMap, List.filterMap_map,
    List.filterMap_map]
  congr 2
  funext visit
  exact (visit.slotKind?_mark table.kind).symm

/-! ### Identifiers by position -/

namespace RandomSource

theorem getElem?_fill (source : RandomSource) (slots : List IdSlot) (number : Nat) :
    (source.fill slots)[number]? =
      slots[number]?.map fun slot : IdSlot => slot.fill (source.drawn number) :=
  List.getElem?_mapIdx

theorem getElem?_fill_empty {source : RandomSource} {slots : List IdSlot} {number : Nat}
    {kind : SlotKind} (h : slots[number]? = some ⟨kind, none⟩) :
    (source.fill slots)[number]? = some ⟨kind, kind.identifier? (source.drawn number)⟩ := by
  rw [getElem?_fill, h]
  rfl

end RandomSource

/-- Identification takes sixteen bytes for every slot of a table and changes nothing but slots: the
same entities stay where they are, each with the same sizes, names, labels and mountpoints.  What is
in a slot stays, and an empty slot gets what its kind makes of the draw of its number.  So two
tables of a kind with the same skeleton get the same identifier in each slot that is empty in both,
whatever their other fields and slots hold, and whatever the two sources yield elsewhere. -/
theorem PartitionTable.identify_positional (table : PartitionTable) (source : RandomSource) :
    (table.identify.run source).2 = source.advance table.slots.length ∧
      table.Resembles (· = ·) (table.identify.run source).1 ∧
      (table.identify.run source).1.size = table.size ∧
      (table.identify.run source).1.slots.length = table.slots.length ∧
      (∀ (number : Nat) (slot : IdSlot), table.slots[number]? = some slot → slot.id.isSome →
        (table.identify.run source).1.slots[number]? = some slot) ∧
      (∀ (number : Nat) (kind : SlotKind), table.slots[number]? = some ⟨kind, none⟩ →
        (table.identify.run source).1.slots[number]? =
            some ⟨kind, kind.identifier? (source.drawn number)⟩ ∧
          kind.Admits (kind.identifier? (source.drawn number))) ∧
      ∀ (other : PartitionTable) (source' : RandomSource), other.kind = table.kind →
        other.skeleton = table.skeleton → other.slots.length = table.slots.length ∧
          ∀ (number : Nat) (kind kind' : SlotKind), table.slots[number]? = some ⟨kind, none⟩ →
            other.slots[number]? = some ⟨kind', none⟩ →
            source'.drawn number = source.drawn number →
            (other.identify.run source').1.slots[number]? =
              (table.identify.run source).1.slots[number]? := by
  obtain ⟨hslots, hsource⟩ := table.identify_fills source
  obtain ⟨hresembles, hsize⟩ := table.identify_resembles source
  refine ⟨hsource, hresembles, hsize, ?_, ?_, ?_, ?_⟩
  · rw [hslots, fill, List.length_mapIdx]
  · intro number slot hslot hfilled
    rw [hslots, getElem?_fill, hslot, Option.map_some, IdSlot.fill_filled hfilled]
  · intro number kind hempty
    rw [hslots]
    exact ⟨getElem?_fill_empty hempty, kind.admits_identifier? _⟩
  · intro other source' hkind hskeleton
    obtain ⟨hslots', -⟩ := other.identify_fills source'
    -- The skeletons decide the kinds of all slots, and a kind with a draw decides an identifier.
    have hkinds : other.slots.map IdSlot.kind = table.slots.map IdSlot.kind := by
      rw [map_kind_slots, map_kind_slots, hkind, hskeleton]
    refine ⟨by simpa using congrArg List.length hkinds, ?_⟩
    intro number kind kind' hempty hempty' hdrawn
    have hsame : kind' = kind := by
      have hnumber := congrArg (fun kinds => kinds[number]?) hkinds
      simpa [List.getElem?_map, hempty, hempty'] using hnumber
    rw [hslots, hslots', getElem?_fill_empty hempty, getElem?_fill_empty hempty', hsame, hdrawn]

/-- A table with a FAT filesystem in its only partition. -/
def PartitionTable.fatDisk (size : Nat) (uuid : Option Uuid) (label : Option String) :
    PartitionTable :=
  { empty .gpt with
    size := size
    partitions := [{ Partition.new size .rootAmd64 (some (.filesystem
      { Filesystem.new .vfat "/" with label := label })) with uuid := uuid }] }

theorem PartitionTable.identify_positional_fatDisk :
    (fatDisk 0 none none).slots[2]? = some ⟨.filesystem true, none⟩ ∧
      (fatDisk 4096 (some ⟨7⟩) "DATA").slots[1]? = some ⟨.partition .gpt, some (.uuid ⟨7⟩)⟩ ∧
      (fatDisk 4096 (some ⟨7⟩) "DATA").Resembles (· = ·)
        ((fatDisk 4096 (some ⟨7⟩) "DATA").identify.run ⟨fun _ => 0, 0⟩).1 ∧
      ((fatDisk 4096 (some ⟨7⟩) "DATA").identify.run ⟨fun _ => 0, 0⟩).1.slots[1]? =
        some ⟨.partition .gpt, some (.uuid ⟨7⟩)⟩ ∧
      ((fatDisk 4096 (some ⟨7⟩) "DATA").identify.run ⟨fun _ => 0, 0⟩).1.slots[2]? =
        ((fatDisk 0 none none).identify.run ⟨fun _ => 0, 0⟩).1.slots[2]? := by
  obtain ⟨-, hresembles, -, -, hkept, -⟩ :=
    (fatDisk 4096 (some ⟨7⟩) "DATA").identify_positional ⟨fun _ => 0, 0⟩
  obtain ⟨-, -, -, -, -, -, hsame⟩ := (fatDisk 0 none none).identify_positional ⟨fun _ => 0, 0⟩
  obtain ⟨-, hempty⟩ := hsame (fatDisk 4096 (some ⟨7⟩) "DATA") ⟨fun _ => 0, 0⟩ rfl rfl
  exact ⟨rfl, rfl, hresembles, hkept 1 _ rfl rfl,
    hempty 2 (.filesystem true) (.filesystem true) rfl rfl rfl⟩

end DiskLayout
