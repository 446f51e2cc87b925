import DiskLayout.Allocation.Identification
import DiskLayout.Proofs.Allocation.Growth

/-!
# Identification keeps a table

Filling slots draws from the random source and changes nothing but missing identifiers.  Whatever
depends on sizes and mountpoints alone is therefore the same afterwards, for every source.

## Main definitions

* `Node.Identified` — whether the slot of a node is filled

## Main results

* `PartitionTable.identify_resembles` — an identified table resembles the one before, size by size
* `PartitionTable.identify_identified` — every slot of an identified table is filled
* `PartitionTable.Resembles.sufficient` — with the same sizes the same tables are sufficient
-/

namespace DiskLayout

open Sizing Identification

/-! ### The editor -/

theorem IdentifierKept.orElse {α : Type} (id : Option α) (other : Option α) :
    IdentifierKept id (id <|> other) := by
  intro kept hkept
  rw [hkept]
  rfl

theorem always_draw : always (fun _ => True) RandomSource.draw := fun _ => trivial

theorem identifier_keeps (kind : TableKind) : (identifier kind).Keeps (· = ·) where
  partition _ _ := always_bind always_draw fun _ _ => always_pure ⟨rfl, rfl, .orElse _ _, rfl⟩
  filesystem _ := always_bind always_draw fun _ _ =>
    always_pure ⟨rfl, .orElse _ _, rfl, rfl, rfl, rfl, rfl⟩
  volumeGroup _ := always_pure ⟨rfl, rfl⟩
  logicalVolume _ := always_pure ⟨rfl, rfl⟩
  btrfs _ := always_bind always_draw fun _ _ => always_pure ⟨.orElse _ _, rfl, rfl⟩
  subvolume _ := always_pure ⟨rfl, rfl, rfl, rfl⟩
  swap _ := always_bind always_draw fun _ _ => always_pure ⟨.orElse _ _, rfl, rfl⟩
  luks _ := always_bind always_draw fun _ _ => always_pure ⟨.orElse _ _, rfl, rfl⟩

/-- An identified table resembles the one before with the same sizes, the table's own included. -/
theorem PartitionTable.identify_resembles (table : PartitionTable) (source : RandomSource) :
    table.Resembles (· = ·) (table.identify.run source).1 ∧
      (table.identify.run source).1.size = table.size := by
  -- Whatever is drawn, it only fills slots: this is what a draw must always leave true.
  have hidentify : always (fun result : PartitionTable =>
      table.Resembles (· = ·) result ∧ result.size = table.size) table.identify := by
    refine always_bind always_draw fun bytes _ => ?_
    refine always_bind (editPartitions_resemble .parentsFirst (identifier_keeps table.kind) 0
      table.partitions) fun edited hedited => ?_
    exact always_pure ⟨⟨.orElse _ _, rfl, hedited⟩, rfl⟩
  exact hidentify source

/-! ### Filled slots -/

/-- Whether the slot of a node in a table of a kind is filled.  Partitions of DOS tables have
none. -/
def Node.Identified (kind : TableKind) : Node → Prop
  | .partition _ device => kind = .gpt → device.uuid.isSome
  | .filesystem system => system.uuid.isSome
  | .btrfs volume => volume.uuid.isSome
  | .swap space => space.uuid.isSome
  | .luks container => container.uuid.isSome
  | .volumeGroup _ | .logicalVolume _ | .subvolume _ => True

theorem isSome_orElse {α : Type} (id : Option α) (new : α) : (id <|> some new).isSome := by
  cases id <;> rfl

section Filled

variable {kind : TableKind}

theorem editOptionalPayload_identified {payload : Option Payload}
    (h : ∀ inner, payload = some inner → always (Payload.All (Node.Identified kind))
      (inner.edit .parentsFirst (identifier kind))) :
    always (fun edited : Option Payload => ∀ inner, edited = some inner →
        inner.All (Node.Identified kind))
      (editOptionalPayload .parentsFirst (identifier kind) payload) := by
  cases payload with
  | none => exact always_pure (by simp)
  | some inner =>
    refine always_bind (h inner rfl) fun edited hedited => always_pure fun other hother => ?_
    exact Option.some.inj hother ▸ hedited

theorem editLogicalVolumes_identified {volumes : List LogicalVolume}
    (h : ∀ volume ∈ volumes, ∀ payload, volume.payload = some payload →
      always (Payload.All (Node.Identified kind))
        (payload.edit .parentsFirst (identifier kind))) :
    always (fun edited : List LogicalVolume => ∀ volume ∈ edited,
        volume.All (Node.Identified kind))
      (editLogicalVolumes .parentsFirst (identifier kind) volumes) := by
  induction volumes with
  | nil => exact always_pure (by simp)
  | cons volume others ih =>
    obtain ⟨name, size, payload⟩ := volume
    rw [List.forall_mem_cons] at h
    have hfirst : always (LogicalVolume.All (Node.Identified kind))
        (LogicalVolume.edit .parentsFirst (identifier kind) ⟨name, size, payload⟩) := by
      have hown : always (fun _ => True)
          ((identifier kind).logicalVolume ⟨name, size, payload⟩) := always_pure trivial
      refine always_bind hown fun own _ => ?_
      exact always_bind (editOptionalPayload_identified h.1) fun edited hedited =>
        always_pure ⟨trivial, hedited⟩
    refine always_bind hfirst fun first hfirst => ?_
    refine always_bind (ih h.2) fun rest hrest => ?_
    exact always_pure (List.forall_mem_cons.2 ⟨hfirst, hrest⟩)

/-- Every slot of an identified payload is filled. -/
theorem Payload.edit_identified (payload : Payload) :
    always (Payload.All (Node.Identified kind))
      (payload.edit .parentsFirst (identifier kind)) := by
  induction payload with
  | filesystem system =>
    refine always_bind (always_bind always_draw fun _ _ => always_pure (isSome_orElse _ _))
      fun new (hnew : new.uuid.isSome) => always_pure (all_filesystem.2 hnew)
  | swap space =>
    refine always_bind (always_bind always_draw fun _ _ => always_pure (isSome_orElse _ _))
      fun new (hnew : new.uuid.isSome) => always_pure (all_swap.2 hnew)
  | btrfs volume =>
    have hown : always (fun new : Btrfs => new.uuid.isSome) ((identifier kind).btrfs volume) :=
      always_bind always_draw fun _ _ => always_pure (isSome_orElse _ _)
    have hsubvolumes : always (fun _ => True)
        (volume.subvolumes.mapM (identifier kind).subvolume) :=
      fun _ => trivial
    refine always_bind hown fun own hown => always_bind hsubvolumes fun edited _ => ?_
    exact always_pure (all_btrfs.2 ⟨hown, fun _ _ => trivial⟩)
  | volumeGroup group ih =>
    obtain ⟨name, description, volumes⟩ := group
    have hown : always (fun _ => True)
        ((identifier kind).volumeGroup ⟨name, description, volumes⟩) := always_pure trivial
    refine always_bind hown fun own _ => ?_
    exact always_bind (editLogicalVolumes_identified ih) fun edited hedited =>
      always_pure (all_volumeGroup.2 ⟨trivial, hedited⟩)
  | luks container ih =>
    obtain ⟨uuid, label, cipher, inner⟩ := container
    have hown : always (fun new : Luks => new.uuid.isSome)
        ((identifier kind).luks ⟨uuid, label, cipher, inner⟩) :=
      always_bind always_draw fun _ _ => always_pure (isSome_orElse _ _)
    refine always_bind hown fun own hown => always_bind ih fun edited hedited => ?_
    exact always_pure (all_luks.2 ⟨hown, hedited⟩)

theorem Partition.edit_identified (index : Nat) (partition : Partition) :
    always (fun new : Partition => (kind = .gpt → new.uuid.isSome) ∧
        ∀ payload, new.payload = some payload → payload.All (Node.Identified kind))
      (partition.edit .parentsFirst (identifier kind) index) := by
  have hown : always (fun new : Partition => kind = .gpt → new.uuid.isSome)
      ((identifier kind).partition index partition) := by
    refine always_bind always_draw fun _ _ => always_pure fun hgpt => ?_
    subst hgpt
    exact isSome_orElse _ _
  refine always_bind hown fun own hown => ?_
  refine always_bind (editOptionalPayload_identified fun inner _ => inner.edit_identified)
    fun edited hedited => ?_
  exact always_pure ⟨hown, hedited⟩

theorem editPartitions_identified (index : Nat) (partitions : List Partition) :
    always (fun edited : List Partition => ∀ new ∈ edited, (kind = .gpt → new.uuid.isSome) ∧
        ∀ payload, new.payload = some payload → payload.All (Node.Identified kind))
      (editPartitions .parentsFirst (identifier kind) index partitions) := by
  induction partitions generalizing index with
  | nil => exact always_pure (by simp)
  | cons partition others ih =>
    refine always_bind (partition.edit_identified index) fun first hfirst => ?_
    exact always_bind (ih _) fun rest hrest => always_pure (List.forall_mem_cons.2 ⟨hfirst, hrest⟩)

/-- Every slot of an identified table is filled. -/
theorem PartitionTable.identify_identified (table : PartitionTable) (source : RandomSource) :
    (table.identify.run source).1.uuid.isSome ∧
      ∀ node ∈ (table.identify.run source).1.nodes, node.Identified table.kind := by
  have hidentify : always (fun result : PartitionTable =>
      result.uuid.isSome ∧ ∀ node ∈ result.nodes, node.Identified table.kind) table.identify := by
    refine always_bind always_draw fun bytes _ => ?_
    refine always_bind (editPartitions_identified 0 table.partitions) fun edited hedited => ?_
    refine always_pure ⟨isSome_orElse _ _, forall_mem_nodes.2 fun index partition hpartition => ?_⟩
    exact hedited partition (List.mem_of_getElem? hpartition)
  exact hidentify source

end Filled

/-! ### The same sizes -/

theorem Payload.Resembles.luksOverhead_eq {sizes : Nat → Nat → Prop} {old new : Payload}
    (h : old.Resembles sizes new) : luksOverhead (some new) = luksOverhead (some old) := by
  cases h.byKind <;> rfl

theorem VolumeGroup.requiredSize_eq {old new : VolumeGroup}
    (h : (Payload.volumeGroup old).Resembles (· = ·) (.volumeGroup new)) :
    new.requiredSize = old.requiredSize := by
  obtain ⟨-, hvolumes⟩ := Payload.resembles_volumeGroup.1 h
  unfold requiredSize
  rw [map_eq_of_forall₂ (fun old new hvolume => ?_) hvolumes]
  rw [(LogicalVolume.resembles_iff.1 hvolume).1.size]

theorem Btrfs.requiredSize_eq {old new : Btrfs}
    (h : (Payload.btrfs old).Resembles (· = ·) (.btrfs new)) :
    new.requiredSize = old.requiredSize := by
  obtain ⟨-, hsubvolumes⟩ := Payload.resembles_btrfs.1 h
  unfold requiredSize
  rw [map_eq_of_forall₂ (fun old new hsubvolume => ?_) hsubvolumes]
  exact hsubvolume.size.symm

theorem Payload.Resembles.requirement_eq {old new : Payload} (h : old.Resembles (· = ·) new) :
    new.requirement = old.requirement := by
  induction old generalizing new with
  | filesystem system =>
    obtain ⟨_, rfl, halike⟩ := resembles_filesystem_left.1 h
    exact congrArg FilesystemType.leastSize halike.kind
  | swap space =>
    obtain ⟨_, rfl, -⟩ := resembles_swap_left.1 h
    rfl
  | btrfs volume =>
    obtain ⟨_, rfl, halike, -⟩ := resembles_btrfs_left.1 h
    simp only [requirement, Btrfs.requiredSize_eq h, halike.size]
  | luks container ih =>
    obtain ⟨_, rfl, -, hinner⟩ := resembles_luks_left.1 h
    rw [requirement_luks, requirement_luks, ih hinner]
  | volumeGroup group _ =>
    obtain ⟨_, rfl, -⟩ := resembles_volumeGroup_left.1 h
    exact VolumeGroup.requiredSize_eq h

theorem deviceSize_eq {old new : Option Payload}
    (h : Option.Rel (Payload.Resembles (· = ·)) old new) (minimums : Minimums) (size : Nat) :
    deviceSize minimums size new = deviceSize minimums size old := by
  cases h with
  | none => rfl
  | some h =>
    simp only [deviceSize, Option.map_some, Option.bind_some, h.requirement_eq, h.mountpoint?_eq,
      h.luksOverhead_eq]

theorem Node.Resembles.sufficient {minimums : Minimums} {old new : Node}
    (h : old.Resembles (· = ·) new) (hold : old.Sufficient minimums) :
    new.Sufficient minimums := by
  cases h with
  | partition h =>
    obtain ⟨hown, hpayload⟩ := h
    obtain ⟨haligned, hsize⟩ := hold
    refine ⟨hown.size ▸ haligned, ?_⟩
    rw [deviceSize_eq hpayload, ← hown.size]
    exact hsize
  | logicalVolume h =>
    obtain ⟨hown, hpayload⟩ := LogicalVolume.resembles_iff.1 h
    obtain ⟨haligned, hsize⟩ := hold
    refine ⟨hown.size ▸ haligned, ?_⟩
    rw [deviceSize_eq hpayload, ← hown.size]
    exact hsize
  | @subvolume old new h =>
    change (minimums.get? new.mountpoint).getD 0 ≤ new.size
    rw [h.mountpoint, ← h.size]
    exact hold
  | _ => trivial

theorem Payload.Resembles.sufficient {minimums : Minimums} {old new : Payload}
    (h : old.Resembles (· = ·) new) (hold : old.All (Node.Sufficient minimums)) :
    new.All (Node.Sufficient minimums) :=
  forall_mem_transport
    (List.rel_map (fun _ _ hvisit => hvisit.node) (visits_resemble .parentsFirst h .nil))
    (fun _ _ hnode => hnode.sufficient) hold

/-- With the same sizes a table that resembles a sufficient one is sufficient. -/
theorem PartitionTable.Resembles.sufficient {minimums : Minimums} {old new : PartitionTable}
    (h : old.Resembles (· = ·) new) (hold : old.Sufficient minimums) :
    new.Sufficient minimums := by
  refine forall_mem_transport h.partitions (fun old new hpartition hsufficient => ?_) hold
  obtain ⟨hown, hpayload⟩ := hpartition
  refine ⟨?_, ?_, fun payload hnew => ?_⟩
  · rw [← hown.size]
    exact hsufficient.sectors
  · rw [deviceSize_eq hpayload, ← hown.size]
    exact hsufficient.size
  · rw [hnew] at hpayload
    generalize hold : old.payload = oldPayload at hpayload
    cases hpayload with
    | some hresembles => exact hresembles.sufficient (hsufficient.payload _ hold)

theorem PartitionTable.Resembles.partitionsSize_eq {old new : PartitionTable}
    (h : old.Resembles (· = ·) new) : new.partitionsSize = old.partitionsSize := by
  unfold partitionsSize
  rw [map_eq_of_forall₂ (fun old new hpartition => ?_) h.partitions]
  exact hpartition.1.size.symm

end DiskLayout
