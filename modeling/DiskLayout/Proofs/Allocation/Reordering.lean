import DiskLayout.Proofs.Allocation.Completion
import DiskLayout.Proofs.Table.Reordering
import Mathlib.Data.List.Nodup

/-!
# Sizing of reordered tables

Resizing, growing and synchronizing take reordered tables to reordered tables.  What a container
needs is a sum over its volumes, and the free space goes to the one partition and the one logical
volume that mount the root, wherever these stand.  So reordered tables end up with the same sizes,
and one of them passes the final check if the other one does.

## Main definitions

* `Partition.growRoot` — a partition that grows if it mounts the root

## Main results

* `VolumeGroup.growRootVolume_eq_map`, `PartitionTable.grow_of_root` — growth without positions
* `PartitionTable.Reordered.resize`, `PartitionTable.Reordered.grow`,
  `PartitionTable.Reordered.syncBtrfs` — the steps of sizing
* `PartitionTable.Reordered.complete` — reordered tables are completed together
-/

namespace DiskLayout

open Sizing

/-! ### The one item of a kind -/

section OneOfAKind

variable {α β : Type} {kind : α → Bool}

/-- Items whose lists each have a value of some kind are at most as many as these values. -/
theorem countP_le_countP_flatMap {f : α → List β} {values : β → Bool} {items : List α}
    (h : ∀ item ∈ items, kind item = true → ∃ value ∈ f item, values value = true) :
    items.countP kind ≤ (items.flatMap f).countP values := by
  induction items with
  | nil => exact Nat.zero_le _
  | cons item others ih =>
    rw [List.forall_mem_cons] at h
    rw [List.countP_cons, List.flatMap_cons, List.countP_append, Nat.add_comm]
    refine Nat.add_le_add ?_ (ih h.2)
    split
    · exact List.countP_pos_iff.2 (h.1 ‹_›)
    · exact Nat.zero_le _

/-- At most one of some lists has an item that is in all of them together only once. -/
theorem countP_le_one_of_nodup [BEq β] [LawfulBEq β] {f : α → List β} {items : List α} (value : β)
    (hdistinct : (items.flatMap f).Nodup)
    (hkind : ∀ item ∈ items, kind item = true → value ∈ f item) : items.countP kind ≤ 1 := by
  have hcount : items.countP kind ≤ (items.flatMap f).count value :=
    countP_le_countP_flatMap fun item hitem h => ⟨value, hkind item hitem h, beq_self_eq_true _⟩
  exact Nat.le_trans hcount (List.nodup_iff_count.1 hdistinct value)

theorem map_ite_eq_self {items : List α} (h : ∀ item ∈ items, kind item = false)
    (change : α → α) : (items.map fun item => if kind item then change item else item) = items := by
  refine (List.map_congr_left fun item hitem => ?_).trans (List.map_id items)
  rw [h item hitem]
  rfl

/-- A change of the first item of a kind is a change of all items of that kind, if there is at most
one. -/
theorem modify_eq_map {items : List α} (hone : items.countP kind ≤ 1) {index : Nat}
    (hindex : items.findIdx? kind = some index) (change : α → α) :
    items.modify index change = items.map fun item => if kind item then change item else item := by
  induction items generalizing index with
  | nil => cases hindex
  | cons item others ih =>
    rw [List.findIdx?_cons] at hindex
    rw [List.countP_cons] at hone
    cases hitem : kind item with
    | true =>
      -- The first item is the only one, so the others stay as they are.
      have hothers : ∀ other ∈ others, kind other = false := by
        have hzero : others.countP kind = 0 := by
          simp only [hitem, if_true] at hone
          omega
        simpa using List.countP_eq_zero.1 hzero
      simp only [hitem, if_true, Option.some.injEq] at hindex
      subst hindex
      rw [List.modify_zero_cons, List.map_cons, map_ite_eq_self hothers, hitem]
      rfl
    | false =>
      simp only [hitem, Bool.false_eq_true, if_false, Nat.add_zero] at hone hindex
      obtain ⟨position, hposition, rfl⟩ := Option.map_eq_some_iff.1 hindex
      rw [List.modify_succ_cons, List.map_cons, ih hone hposition, hitem]
      rfl

end OneOfAKind

/-! ### What a reordered payload needs -/

theorem LogicalVolume.map_perm {α : Type} {f : LogicalVolume → α} {olds news : List LogicalVolume}
    (h : (olds.map unnamed).Perm (news.map unnamed)) (hf : ∀ volume, f volume.unnamed = f volume) :
    (olds.map f).Perm (news.map f) := by
  have hmap := h.map f
  have hunnamed : f ∘ unnamed = f := funext hf
  rwa [List.map_map, List.map_map, hunnamed] at hmap

namespace Payload.Reordered

variable {old new : Payload}

theorem mountpoint?_eq (h : old.Reordered new) : new.mountpoint? = old.mountpoint? := by
  induction h with
  | @luks container payload hinner ih => rw [mountpoint?_luks, mountpoint?_luks, ih]
  | _ => rfl

theorem requirement_eq (h : old.Reordered new) : new.requirement = old.requirement := by
  induction h with
  | refl payload => rfl
  | @volumeGroup group volumes hnames hvolumes =>
    have hsizes := LogicalVolume.map_perm hvolumes
      (f := fun volume => alignUp volume.size Size.extent) fun _ => rfl
    exact congrArg (· + Size.volumeGroupMetadata) (hsizes.sum_nat).symm
  | @btrfs volume subvolumes hsubvolumes =>
    have hsizes := (hsubvolumes.map Subvolume.size).sum_nat
    change max volume.size (max (subvolumes.map Subvolume.size).sum _) = _
    rw [← hsizes]
    rfl
  | @luks container payload hinner ih => rw [requirement_luks, requirement_luks, ih]

theorem luksOverhead_eq (h : old.Reordered new) :
    luksOverhead (some new) = luksOverhead (some old) := by
  cases h <;> rfl

end Payload.Reordered

/-! ### Resizing -/

section Resize

variable (minimums : Minimums)

theorem Payload.Reordered.resize {old new : Payload} (h : old.Reordered new) :
    (old.resize minimums).Reordered (new.resize minimums) := by
  induction h with
  | refl payload => exact .refl _
  | @volumeGroup group volumes hnames hvolumes =>
    rw [resize_volumeGroup, resize_volumeGroup]
    exact .mapVolumes hnames hvolumes (fun _ => rfl) fun _ => rfl
  | @btrfs volume subvolumes hsubvolumes =>
    have hresized := hsubvolumes.map (Subvolume.resize minimums)
    have hrequired := (hresized.map Subvolume.size).sum_nat
    rw [resize_btrfs, resize_btrfs]
    simp only [Btrfs.requiredSize, hrequired]
    exact .btrfs hresized
  | @luks container payload hinner ih =>
    rw [resize_luks, resize_luks]
    exact .luks ih

theorem deviceSize_of_reordered {old new : Option Payload}
    (h : Option.Rel Payload.Reordered old new) (size : Nat) :
    deviceSize minimums size new = deviceSize minimums size old := by
  cases h with
  | none => rfl
  | some h =>
    simp only [deviceSize, Option.map_some, Option.bind_some, h.requirement_eq, h.mountpoint?_eq,
      h.luksOverhead_eq]

theorem Partition.Reordered.resize {old new : Partition} (h : old.Reordered new) :
    (old.resize minimums).Reordered (new.resize minimums) := by
  have hpayload : Option.Rel Payload.Reordered (old.payload.map (Payload.resize minimums))
      (new.payload.map (Payload.resize minimums)) :=
    optionRel_map h.payload fun _ _ hpayload => hpayload.resize minimums
  refine ⟨?_, h.kind, h.uuid, h.bootable, hpayload⟩
  simp only [Partition.resize, h.size, deviceSize_of_reordered minimums hpayload]

/-- Resizing takes reordered tables to reordered tables. -/
theorem PartitionTable.Reordered.resize {old new : PartitionTable} (h : old.Reordered new) :
    (old.resize minimums).Reordered (new.resize minimums) := by
  rw [resize_eq, resize_eq]
  exact h.map fun _ _ _ hpartition => hpartition.resize minimums

end Resize

/-! ### Growth -/

theorem Payload.mem_mountpoints_of_mountpoint? {payload : Payload} {mountpoint : String}
    (h : payload.mountpoint? = some mountpoint) : mountpoint ∈ payload.mountpoints := by
  induction payload with
  | filesystem system =>
    obtain rfl := Option.some.inj h
    exact List.mem_singleton_self _
  | luks container ih =>
    rw [mountpoints_luks]
    exact ih (mountpoint?_luks container ▸ h)
  | _ => cases h

namespace VolumeGroup

variable {group : VolumeGroup} {room : Nat}

/-- At most one logical volume of a group that mounts nothing twice holds the root. -/
theorem countP_isRootVolume_le_one (h : (Payload.volumeGroup group).mountpoints.Nodup) :
    group.logicalVolumes.countP isRootVolume ≤ 1 := by
  rw [Payload.mountpoints_volumeGroup] at h
  refine countP_le_one_of_nodup Path.root h fun volume _ hroot => ?_
  obtain ⟨payload, hpayload, hmounted⟩ := Option.bind_eq_some_iff.1 (eq_of_beq hroot)
  exact List.mem_flatMap.2 ⟨payload, Option.mem_toList.2 hpayload,
    Payload.mem_mountpoints_of_mountpoint? hmounted⟩

/-- In a group that mounts nothing twice, growth is a change of every volume that holds the
root. -/
theorem growRootVolume_eq_map (h : (Payload.volumeGroup group).mountpoints.Nodup) :
    growRootVolume room group = { group with
      logicalVolumes := group.logicalVolumes.map fun volume =>
        if isRootVolume volume then enlarge (freeSpace group room) volume else volume } := by
  unfold growRootVolume
  cases hindex : group.logicalVolumes.findIdx? isRootVolume with
  | none =>
    rw [List.findIdx?_eq_none_iff] at hindex
    rw [map_ite_eq_self hindex]
    cases group
    rfl
  | some index =>
    dsimp only
    rw [modify_eq_map (countP_isRootVolume_le_one h) hindex]

end VolumeGroup

theorem growRootVolume_reordered {group : VolumeGroup} {volumes : List LogicalVolume}
    (hdistinct : (Payload.volumeGroup group).mountpoints.Nodup)
    (hnames : (group.logicalVolumes.map LogicalVolume.name).Perm (volumes.map LogicalVolume.name))
    (hvolumes : (group.logicalVolumes.map LogicalVolume.unnamed).Perm
      (volumes.map LogicalVolume.unnamed)) (room : Nat) :
    (Payload.volumeGroup (growRootVolume room group)).Reordered
      (.volumeGroup (growRootVolume room { group with logicalVolumes := volumes })) := by
  have hreordered := Payload.Reordered.volumeGroup hnames hvolumes
  have hdistinct' := (hreordered.mountpoints_perm.nodup_iff).1 hdistinct
  have hfree : freeSpace { group with logicalVolumes := volumes } room = freeSpace group room := by
    have hrequired : VolumeGroup.requiredSize { group with logicalVolumes := volumes } =
        group.requiredSize := hreordered.requirement_eq
    unfold freeSpace
    rw [hrequired]
  rw [VolumeGroup.growRootVolume_eq_map hdistinct, VolumeGroup.growRootVolume_eq_map hdistinct',
    hfree]
  refine .mapVolumes hnames hvolumes (fun volume => ?_) fun volume => ?_
  · split <;> rfl
  · have hkind : isRootVolume volume.unnamed = isRootVolume volume := rfl
    rw [hkind]
    split <;> rfl

/-- A partition enlarged by `delta` if it mounts the root. -/
def Partition.growRoot (delta : Nat) (partition : Partition) : Partition :=
  if partition.mountpoints.contains Path.root then growPartition delta partition else partition

theorem innerSize_of_reordered {old new : Partition} (h : old.Reordered new) :
    innerSize new = innerSize old := by
  have hoverhead : luksOverhead new.payload = luksOverhead old.payload := by
    have hpayload := h.payload
    generalize old.payload = oldPayload, new.payload = newPayload at hpayload
    cases hpayload with
    | none => rfl
    | some hpayload => exact hpayload.luksOverhead_eq
  rw [innerSize, innerSize, h.size, hoverhead]

theorem Partition.Reordered.growPartition {old new : Partition} (h : old.Reordered new)
    (hdistinct : old.mountpoints.Nodup) (delta : Nat) :
    (growPartition delta old).Reordered (growPartition delta new) := by
  have hgrown : (old.enlarge delta).Reordered (new.enlarge delta) :=
    ⟨congrArg (· + delta) h.size, h.kind, h.uuid, h.bootable, h.payload⟩
  refine hgrown.mapContent fun inner inner' hcontent _ hinner => ?_
  have hroom := innerSize_of_reordered hgrown
  change innerSize { new with size := _ } = innerSize { old with size := _ } at hroom
  rw [hroom]
  cases hinner with
  | refl => exact .refl _
  | @volumeGroup group volumes hnames hvolumes =>
    have hinner : (Payload.volumeGroup group).mountpoints.Nodup := by
      rw [← Partition.mountpoints_of_content? hcontent]
      exact hdistinct
    exact growRootVolume_reordered hinner hnames hvolumes _
  | btrfs hsubvolumes => exact .btrfs hsubvolumes
  | luks hinner => exact .luks hinner

theorem Partition.Reordered.growRoot {old new : Partition} (h : old.Reordered new)
    (hdistinct : old.mountpoints.Nodup) (delta : Nat) :
    (old.growRoot delta).Reordered (new.growRoot delta) := by
  have hroot : new.mountpoints.contains Path.root = old.mountpoints.contains Path.root := by
    rw [Bool.eq_iff_iff, List.contains_iff_mem, List.contains_iff_mem]
    exact h.mountpoints_perm.symm.mem_iff
  unfold Partition.growRoot
  rw [hroot]
  split
  · exact h.growPartition hdistinct delta
  · exact h

namespace PartitionTable

variable {old new : PartitionTable}

/-- A table in which every partition that mounts the root is enlarged by `delta`. -/
def growRoots (delta : Nat) (table : PartitionTable) : PartitionTable :=
  { table with partitions := table.partitions.map (Partition.growRoot delta) }

/-- Where the root is mounted and nothing is mounted twice, growth looks at no position. -/
theorem grow_of_root {table : PartitionTable} (hroot : Path.root ∈ table.mountpoints)
    (hdistinct : table.mountpoints.Nodup) (goal : Nat) :
    (table.grow goal).result = .ok
      (if alignUp goal Size.sector ≤ table.partitionsSize then table
        else table.growRoots (alignUp goal Size.sector - table.partitionsSize)).withExactSize := by
  by_cases hgoal : alignUp goal Size.sector ≤ table.partitionsSize
  · simp [grow, hgoal]
  · rw [mountpoints_eq] at hroot hdistinct
    obtain ⟨index, hindex⟩ : ∃ index, (table.partitions.findIdx? fun partition =>
        partition.mountpoints.contains Path.root) = some index := by
      rw [← Option.isSome_iff_exists, List.findIdx?_isSome]
      simpa [List.mem_flatMap] using hroot
    -- The partition with the root is the one that grows, and there is no other.
    have hgrowth : table.growthIndex? = some index := by
      rw [growthIndex?, partitionIndexOf?_eq, hindex]
    have hone : (table.partitions.countP fun partition =>
        partition.mountpoints.contains Path.root) ≤ 1 :=
      countP_le_one_of_nodup Path.root hdistinct fun partition _ => List.contains_iff_mem.1
    have hmodify : ∀ delta, table.modifyPartition index (growPartition delta) =
        table.growRoots delta := fun delta =>
      congrArg (fun partitions => { table with partitions := partitions })
        (modify_eq_map hone hindex (growPartition delta))
    rw [← hmodify]
    cases hpartition : table.partitions[index]? <;> simp [grow, hgoal, hgrowth, hpartition]

theorem Reordered.partitionsSize_eq (h : old.Reordered new) :
    new.partitionsSize = old.partitionsSize :=
  (h.map_perm fun _ _ hpartition => hpartition.size).sum_nat.symm

theorem Reordered.mountpoints_perm (h : old.Reordered new) :
    old.mountpoints.Perm new.mountpoints :=
  PartitionTable.mountpoints_perm h.outlines_perm

/-- Growing takes reordered tables to reordered tables. -/
theorem Reordered.grow (h : old.Reordered new) (hroot : Path.root ∈ old.mountpoints)
    (hdistinct : old.mountpoints.Nodup) {goal : Nat} {grown : PartitionTable}
    (hgrow : (old.grow goal).result = .ok grown) :
    ∃ grown', (new.grow goal).result = .ok grown' ∧ grown.Reordered grown' := by
  have hmountpoints := h.mountpoints_perm
  rw [grow_of_root hroot hdistinct] at hgrow
  refine ⟨_, grow_of_root (hmountpoints.mem_iff.1 hroot) (hmountpoints.nodup_iff.1 hdistinct) goal,
    ?_⟩
  obtain rfl := Except.ok.inj hgrow
  rw [h.partitionsSize_eq]
  split
  · exact h
  · -- What is mounted once in a table is mounted once in a partition.
    rw [mountpoints_eq, List.nodup_flatMap] at hdistinct
    exact h.map fun partition hmem _ hpartition =>
      hpartition.growRoot (hdistinct.1 partition hmem) _

/-- Synchronizing takes reordered tables to reordered tables. -/
theorem Reordered.syncBtrfs (h : old.Reordered new) : old.syncBtrfs.Reordered new.syncBtrfs := by
  refine h.map fun _ _ _ hpartition => hpartition.mapContent fun _ _ _ _ hinner => ?_
  rw [innerSize_of_reordered hpartition]
  cases hinner with
  | refl => exact .refl _
  | volumeGroup hnames hvolumes => exact .volumeGroup hnames hvolumes
  | btrfs hsubvolumes => exact .btrfs hsubvolumes
  | luks hinner => exact .luks hinner

/-- A completed table has no device without a size. -/
theorem Finished.nonempty {table result : PartitionTable} {minimums : Minimums} {goal : Nat}
    (h : table.Finished minimums goal result) (hvalid : result.validate.result = .ok ()) :
    ∀ node ∈ result.nodes, node.deviceSize? ≠ some 0 := by
  rcases h.sufficient.validate (wellStructured_of_validate hvalid) h.size_eq with
    ⟨hsizes, -⟩ | ⟨-, device, herror⟩
  · exact hsizes
  · rw [hvalid] at herror
    cases herror

/-- If a table that mounts the root is completed, so is one that is reordered, whatever is drawn,
and the results have the same size and the same outlines. -/
theorem Reordered.complete (h : old.Reordered new) (hroot : Path.root ∈ old.mountpoints)
    {minimums : Minimums} {goal : Nat} {source : RandomSource} {result : PartitionTable}
    (hcomplete : (complete (old.settle minimums goal) source).1.result = .ok result)
    (source' : RandomSource) :
    ∃ result', (DiskLayout.complete (new.settle minimums goal) source').1.result = .ok result' ∧
      result'.size = result.size ∧ result.outlines.Perm result'.outlines := by
  obtain ⟨settled, hsettled, rfl, hvalid⟩ := complete_eq_ok.1 hcomplete
  obtain ⟨grown, hgrown, rfl⟩ := settle_eq_ok.1 hsettled
  have hfinished := finished_of_grow hgrown source
  have hstructured := wellStructured_of_validate hvalid
  have hresized := h.resize minimums
  have hkept := (old.resize_resembles minimums).mountpoints_eq
  have hdistinct : (old.resize minimums).mountpoints.Nodup := by
    rw [hkept, ← hfinished.resembles.mountpoints_eq]
    exact hstructured.mountpoints_distinct
  obtain ⟨grown', hgrown', hreordered⟩ := hresized.grow (hkept ▸ hroot) hdistinct hgrown
  have hfinished' := finished_of_grow hgrown' source'
  -- Identification keeps all outlines, so those of the results are the same.
  have houtlines : (grown.syncBtrfs.identify.run source).1.outlines.Perm
      (grown'.syncBtrfs.identify.run source').1.outlines := by
    rw [(grown.syncBtrfs.identify_resembles source).1.outlines_eq,
      (grown'.syncBtrfs.identify_resembles source').1.outlines_eq]
    exact hreordered.syncBtrfs.outlines_perm
  have hsizes := nonempty_of_outlines houtlines (hfinished.nonempty hvalid)
  refine ⟨_, complete_eq_ok.2 ⟨_, settle_eq_ok.2 ⟨grown', hgrown', rfl⟩, rfl, ?_⟩, ?_, houtlines⟩
  · rcases hfinished'.sufficient.validate (wellStructured_of_outlines houtlines hstructured)
        hfinished'.size_eq with ⟨-, hvalid'⟩ | ⟨⟨node, hnode, hzero⟩, -⟩
    · exact hvalid'
    · exact absurd hzero (hsizes node hnode)
  · rw [hfinished.size_eq, hfinished'.size_eq, hfinished.partitionsSize_eq,
      hfinished'.partitionsSize_eq, hresized.partitionsSize_eq]

end PartitionTable

end DiskLayout
