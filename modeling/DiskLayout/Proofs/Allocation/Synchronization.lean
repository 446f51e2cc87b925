import DiskLayout.Proofs.Allocation.Capacity
import DiskLayout.Proofs.Allocation.Stability

/-!
# The sizes of btrfs volumes

Synchronization looks through one encrypted container.  A btrfs volume that is the content of a
partition ends up with the whole space around it.  Any other, in a logical volume or behind more
than one container, keeps the size that resizing gave it: the size it had, or the space that its
subvolumes need.  That fits the device, but it need not fill it.

## Main definitions

* `Visit.isContent` — what lies directly in a partition or in one encrypted container of it
* `Node.BtrfsResized`, `Node.SameBtrfs` — what resizing and growth make of a btrfs volume
* `Visit.KeepsBtrfs` — a btrfs volume that synchronization does not reach

## Main results

* `Partition.content?_of_isContent` — the btrfs volumes that synchronization reaches
* `PartitionTable.Sufficient.btrfs_le_capacity` — btrfs volumes fit their devices
* `PartitionTable.grow_sameBtrfs` — growth changes no btrfs volume
* `completed_btrfs_sizes` — the sizes of the btrfs volumes of a completed table
-/

namespace DiskLayout

open Sizing

/-! ### The content of a partition in a walk -/

/-- Whether a visit is of what lies directly in a partition, or directly in one encrypted container
that lies directly in a partition. -/
def Visit.isContent (visit : Visit) : Bool :=
  match visit.ancestors with
  | [.partition _ _] | [.partition _ _, .luks _] => true
  | _ => false

theorem Visit.isContent_iff {visit : Visit} :
    visit.isContent = true ↔
      (∃ index partition, visit.ancestors = [.partition index partition]) ∨
        ∃ index partition container,
          visit.ancestors = [.partition index partition, .luks container] := by
  unfold isContent
  split
  · rename_i index partition hancestors
    exact iff_of_true rfl (.inl ⟨index, partition, hancestors⟩)
  · rename_i index partition container hancestors
    exact iff_of_true rfl (.inr ⟨index, partition, container, hancestors⟩)
  · rename_i hsingle hpair
    refine iff_of_false Bool.false_ne_true ?_
    rintro (⟨index, partition, hancestors⟩ | ⟨index, partition, container, hancestors⟩)
    · exact hsingle _ _ hancestors
    · exact hpair _ _ _ hancestors

theorem Visit.Resembles.isContent_eq {sizes : Nat → Nat → Prop} {old new : Visit}
    (h : old.Resembles sizes new) : new.isContent = old.isContent := by
  have hancestors := h.ancestors
  unfold isContent
  generalize old.ancestors = olds, new.ancestors = news at hancestors
  cases hancestors with
  | nil => rfl
  | cons hfirst hothers =>
    cases hfirst <;> cases hothers with
    | nil => rfl
    | cons hsecond hrest => cases hsecond <;> cases hrest <;> rfl

theorem Visit.capacity_of_btrfs {visit : Visit} {volume : Btrfs}
    (h : visit.node = .btrfs volume) : visit.capacity = visit.ancestors.foldl Node.room 0 := by
  unfold capacity
  rw [h]

/-- A btrfs volume that a walk visits as the content of a partition is the content of the partition,
and its capacity is the space inside the partition. -/
theorem Partition.content?_of_isContent {partition : Partition} {index : Nat} {visit : Visit}
    (hvisit : visit ∈ partition.visits .parentsFirst index) {volume : Btrfs}
    (hnode : visit.node = .btrfs volume) (hcontent : visit.isContent = true) :
    partition.content? = some (.btrfs volume) ∧ visit.capacity = innerSize partition := by
  have hbtrfs : ∀ payload : Payload, payload.node = .btrfs volume → payload = .btrfs volume := by
    intro payload hpayload
    cases payload <;> cases hpayload
    rfl
  rw [visits_parentsFirst, List.mem_cons, List.mem_flatMap] at hvisit
  rcases hvisit with rfl | ⟨payload, hmem, hvisit⟩
  · cases hnode
  · have hpayload := Option.mem_toList.1 hmem
    rcases Payload.visit_cases hvisit with rfl | hinside
    · obtain rfl := hbtrfs payload hnode
      refine ⟨content?_eq_some.2 (.inl ⟨hpayload, rfl⟩), ?_⟩
      rw [Visit.capacity_of_btrfs hnode, innerSize, hpayload]
      exact (Nat.sub_zero _).symm
    · -- What lies deeper is the content only directly inside a container.
      rcases Visit.isContent_iff.1 hcontent with
        ⟨_, _, hancestors⟩ | ⟨_, _, container, hancestors⟩
      · rw [hancestors] at hinside
        exact absurd hinside.length_le (by simp)
      · rw [hancestors] at hinside
        have hluks : payload = .luks container := by
          have hnode' := List.cons_prefix_cons.1 hinside
          cases payload <;> simp_all [Payload.node]
        subst hluks
        rw [Payload.visits_luks, WalkOrder.mem_arrange] at hvisit
        rcases hvisit with rfl | hvisit
        · cases hnode
        · rcases Payload.visit_cases hvisit with rfl | hdeeper
          · refine ⟨content?_eq_some.2 (.inr ⟨container, hpayload, hbtrfs _ hnode⟩), ?_⟩
            rw [Visit.capacity_of_btrfs hnode, innerSize, hpayload, List.singleton_append,
              List.foldl_cons, List.foldl_cons, List.foldl_nil, Node.room, Node.room, luksOverhead]
          · rw [hancestors] at hdeeper
            exact absurd hdeeper.length_le (by simp)

/-! ### Btrfs volumes fit their devices -/

section Fits

variable {minimums : Minimums}

/-- A payload in enough room gives every btrfs volume in it the space that it needs. -/
theorem Payload.btrfs_le_capacity {payload : Payload} {ancestors : List Node}
    (hsufficient : payload.All (Node.Sufficient minimums))
    (hroom : payload.requirement ≤ ancestors.foldl Node.room 0) :
    ∀ visit ∈ payload.visits .parentsFirst ancestors, ∀ volume, visit.node = .btrfs volume →
      max volume.size volume.requiredSize ≤ visit.capacity := by
  induction payload generalizing ancestors with
  | filesystem system | swap space =>
    intro visit hvisit volume hnode
    obtain rfl := List.mem_singleton.1 hvisit
    cases hnode
  | btrfs own =>
    intro visit hvisit volume hnode
    rw [visits_btrfs, WalkOrder.mem_arrange, List.mem_map] at hvisit
    rcases hvisit with rfl | ⟨subvolume, -, rfl⟩
    · obtain rfl := Node.btrfs.inj hnode
      exact hroom
    · cases hnode
  | luks container ih =>
    obtain ⟨-, hsufficient⟩ := all_luks.1 hsufficient
    intro visit hvisit volume hnode
    rw [visits_luks, WalkOrder.mem_arrange] at hvisit
    rcases hvisit with rfl | hvisit
    · cases hnode
    · -- Every container has room for its own header, so nesting does not matter.
      refine ih hsufficient ?_ visit hvisit volume hnode
      rw [requirement_luks] at hroom
      rw [List.foldl_append, List.foldl_cons, List.foldl_nil, Node.room]
      exact Nat.le_sub_of_add_le hroom
  | volumeGroup group ih =>
    obtain ⟨-, hsufficient⟩ := all_volumeGroup.1 hsufficient
    intro visit hvisit volume hnode
    rw [visits_volumeGroup, WalkOrder.mem_arrange, logicalVolumeVisits_eq_flatMap,
      List.mem_flatMap] at hvisit
    rcases hvisit with rfl | ⟨device, hdevice, hvisit⟩
    · cases hnode
    · rw [LogicalVolume.visits_eq, WalkOrder.mem_arrange, List.mem_flatMap] at hvisit
      rcases hvisit with rfl | ⟨payload, hmem, hvisit⟩
      · cases hnode
      · have hpayload := Option.mem_toList.1 hmem
        obtain ⟨⟨-, hsize⟩, hinner⟩ := hsufficient device hdevice
        refine ih device hdevice payload hpayload (hinner payload hpayload) ?_ visit hvisit volume
          hnode
        rw [List.foldl_append]
        exact (deviceSize_le_iff.1 hsize).2.1 payload hpayload

/-- Every btrfs volume of a sufficient table fits the space around it, and so do its subvolumes. -/
theorem PartitionTable.Sufficient.btrfs_le_capacity {table : PartitionTable}
    (h : table.Sufficient minimums) {visit : Visit} (hvisit : visit ∈ table.visits .parentsFirst)
    {volume : Btrfs} (hnode : visit.node = .btrfs volume) :
    max volume.size volume.requiredSize ≤ visit.capacity := by
  obtain ⟨partition, hmem, index, hvisit⟩ := PartitionTable.exists_of_mem_visits hvisit
  rw [Partition.visits_parentsFirst, List.mem_cons, List.mem_flatMap] at hvisit
  rcases hvisit with rfl | ⟨payload, hpayload, hvisit⟩
  · cases hnode
  · rw [Option.mem_toList] at hpayload
    have hdevice := h partition hmem
    refine Payload.btrfs_le_capacity (hdevice.payload payload hpayload) ?_ visit hvisit volume hnode
    exact (deviceSize_le_iff.1 hdevice.size).2.1 payload hpayload

end Fits

/-! ### Resizing -/

/-- Whether a node that is a btrfs volume comes from one by resizing: it is as large as before, or
as its subvolumes need. -/
def Node.BtrfsResized (old new : Node) : Prop :=
  ∀ volume, new = .btrfs volume →
    ∃ before, old = .btrfs before ∧ volume.size = max before.size volume.requiredSize

theorem Node.btrfsResized_resize (minimums : Minimums) (node : Node) :
    node.BtrfsResized (node.resize minimums) := by
  intro volume hvolume
  cases node with
  | btrfs before =>
    obtain rfl := Node.btrfs.inj hvolume
    exact ⟨before, rfl, rfl⟩
  | _ => cases hvolume

theorem PartitionTable.resize_btrfsResized (minimums : Minimums) (table : PartitionTable) :
    List.Forall₂ (fun old new : Visit => old.node.BtrfsResized new.node)
      (table.visits .parentsFirst) ((table.resize minimums).visits .parentsFirst) := by
  have hnodes : List.Forall₂ Node.BtrfsResized table.nodes (table.resize minimums).nodes := by
    rw [nodes_resize, List.forall₂_map_right_iff]
    exact List.forall₂_same.2 fun node _ => node.btrfsResized_resize minimums
  rwa [nodes, nodes, List.forall₂_map_left_iff, List.forall₂_map_right_iff] at hnodes

/-! ### Growth -/

/-- The size of a btrfs volume and the space that its subvolumes need. -/
def Node.btrfsSpace? : Node → Option (Nat × Nat)
  | .btrfs volume => some (volume.size, volume.requiredSize)
  | _ => none

theorem Node.btrfsSpace?_eq_some {node : Node} {size required : Nat} :
    node.btrfsSpace? = some (size, required) ↔
      ∃ volume, node = .btrfs volume ∧ volume.size = size ∧ volume.requiredSize = required := by
  cases node <;> simp [btrfsSpace?]

/-- Whether two nodes have the same size and need the same space if they are btrfs volumes. -/
def Node.SameBtrfs (old new : Node) : Prop := new.btrfsSpace? = old.btrfsSpace?

theorem Node.BtrfsResized.congr {old resized new : Node} (h : old.BtrfsResized resized)
    (hsame : resized.SameBtrfs new) : old.BtrfsResized new := by
  rintro volume rfl
  obtain ⟨other, rfl, hsize, hrequired⟩ := btrfsSpace?_eq_some.1 hsame.symm
  rw [← hsize, ← hrequired]
  exact h other rfl

theorem Node.forall₂_sameBtrfs (nodes : List Node) : List.Forall₂ SameBtrfs nodes nodes :=
  List.forall₂_same.2 fun _ _ => rfl

theorem VolumeGroup.growRootVolume_sameBtrfs (room : Nat) (group : VolumeGroup) :
    List.Forall₂ Node.SameBtrfs (Payload.volumeGroup group).nodes
      (Payload.volumeGroup (growRootVolume room group)).nodes := by
  rcases growRootVolume_cases room group with hsame | ⟨before, root, after, hsplit, hgrown⟩
  · rw [hsame]
    exact Node.forall₂_sameBtrfs _
  · rw [hgrown, Payload.nodes_volumeGroup, Payload.nodes_volumeGroup, hsplit,
      List.flatMap_append, List.flatMap_append, List.flatMap_cons, List.flatMap_cons]
    -- The root volume holds what it held before, and it is no btrfs volume itself.
    exact .cons rfl (List.rel_append (Node.forall₂_sameBtrfs _)
      (.cons rfl (Node.forall₂_sameBtrfs _)))

theorem growPartition_sameBtrfs (delta : Nat) (partition : Partition) :
    Option.Rel (fun old new : Payload => List.Forall₂ Node.SameBtrfs old.nodes new.nodes)
      partition.payload (growPartition delta partition).payload := by
  rcases growPartition_cases delta partition with hsame | ⟨group, hcontent, hmap⟩
  · rw [hsame]
    exact optionRel_refl fun _ _ => Node.forall₂_sameBtrfs _
  · rw [hmap]
    have hluks : ∀ (container : Luks) (new : Payload),
        List.Forall₂ Node.SameBtrfs container.payload.nodes new.nodes →
        List.Forall₂ Node.SameBtrfs (Payload.luks container).nodes
          (Payload.luks { container with payload := new }).nodes := by
      intro container new hnew
      rw [Payload.nodes_luks, Payload.nodes_luks]
      exact .cons rfl hnew
    exact (partition.enlarge delta).rel_mapContent hluks hcontent
      (VolumeGroup.growRootVolume_sameBtrfs _ group)

/-- Growth changes no btrfs volume. -/
theorem PartitionTable.grow_sameBtrfs {table grown : PartitionTable} {goal : Nat}
    (h : (table.grow goal).result = .ok grown) :
    List.Forall₂ (fun old new : Visit => old.node.SameBtrfs new.node)
      (table.visits .parentsFirst) (grown.visits .parentsFirst) := by
  have hrefl : ∀ (partition : Partition) (index : Nat),
      List.Forall₂ (fun old new : Visit => old.node.SameBtrfs new.node)
        (partition.visits .parentsFirst index) (partition.visits .parentsFirst index) :=
    fun _ _ => List.forall₂_same.2 fun _ _ => rfl
  rcases grow_eq_ok h with ⟨-, rfl⟩ | ⟨-, index, hindex, -, rfl⟩
  · exact List.forall₂_same.2 fun _ _ => rfl
  · obtain ⟨before, partition, after, hsplit, -, -, hmodify⟩ := modify_split hindex
    unfold visits
    change List.Forall₂ _ _ (partitionVisits _ 0 (table.partitions.modify index _))
    rw [hmodify, hsplit]
    refine forall₂_partitionVisits (List.rel_append ?_ (.cons ?_ ?_)) 0
    · exact List.forall₂_same.2 fun other _ => hrefl other
    · exact fun index => Partition.forall₂_visits rfl (growPartition_sameBtrfs _ partition)
    · exact List.forall₂_same.2 fun other _ => hrefl other

/-! ### Synchronization and identification -/

/-- Synchronization changes no btrfs volume but the one that is the content of its partition. -/
theorem syncPartition_sameBtrfs (partition : Partition) (index : Nat) :
    List.Forall₂ (fun old new : Visit => new.isContent = false → old.node.SameBtrfs new.node)
      (partition.visits .parentsFirst index)
      ((syncPartition partition).visits .parentsFirst index) := by
  rcases syncPartition_cases partition with hsame | ⟨volume, hcontent, hmap⟩
  · rw [hsame]
    exact List.forall₂_same.2 fun _ _ _ => rfl
  · have hsubvolumes : ∀ olds news : List Node, List.Forall₂
        (fun old new : Visit => new.isContent = false → old.node.SameBtrfs new.node)
        (volume.subvolumes.map fun subvolume => ⟨.subvolume subvolume, olds⟩)
        (volume.subvolumes.map fun subvolume => ⟨.subvolume subvolume, news⟩) := by
      intro olds news
      refine List.forall₂_map_left_iff.2 (List.forall₂_map_right_iff.2 ?_)
      exact List.forall₂_same.2 fun _ _ _ => rfl
    rw [hmap, Partition.visits_parentsFirst, Partition.visits_parentsFirst]
    rcases Partition.content?_eq_some.1 hcontent with
      ⟨hpayload, hluks⟩ | ⟨container, hpayload, hinner⟩
    · rw [Partition.mapContent_of_payload hpayload hluks, hpayload]
      simp only [Option.toList_some, List.flatMap_singleton, Payload.visits_btrfs,
        WalkOrder.arrange]
      exact .cons (fun _ => rfl) (.cons (fun hother => by cases hother) (hsubvolumes _ _))
    · rw [Partition.mapContent_of_luks hpayload, hpayload]
      simp only [Option.toList_some, List.flatMap_singleton, Payload.visits_luks,
        Payload.visits_btrfs, WalkOrder.arrange, hinner]
      exact .cons (fun _ => rfl) (.cons (fun _ => rfl)
        (.cons (fun hother => by cases hother) (hsubvolumes _ _)))

theorem PartitionTable.syncBtrfs_sameBtrfs (table : PartitionTable) :
    List.Forall₂ (fun old new : Visit => new.isContent = false → old.node.SameBtrfs new.node)
      (table.visits .parentsFirst) (table.syncBtrfs.visits .parentsFirst) := by
  refine forall₂_partitionVisits (List.forall₂_map_right_iff.2 ?_) 0
  exact List.forall₂_same.2 fun partition _ => syncPartition_sameBtrfs partition

theorem Node.Resembles.sameBtrfs {old new : Node} (h : old.Resembles (· = ·) new) :
    old.SameBtrfs new := by
  cases h with
  | btrfs hvolume =>
    refine btrfsSpace?_eq_some.2 ⟨_, rfl, ?_, Btrfs.requiredSize_eq hvolume⟩
    exact (Payload.resembles_btrfs.1 hvolume).1.size.symm
  | _ => rfl

/-! ### Completed tables -/

/-- Whether a btrfs volume that is no content of a partition comes from one that is as large, unless
its subvolumes need more. -/
def Visit.KeepsBtrfs (old new : Visit) : Prop :=
  new.isContent = false → old.node.BtrfsResized new.node

namespace PartitionTable

variable {table result : PartitionTable} {minimums : Minimums} {goal : Nat} {source : RandomSource}

/-- The contents of the partitions of a completed table are synchronized. -/
theorem complete_settle_synchronized
    (h : (complete (table.settle minimums goal) source).1.result = .ok result) :
    ∀ partition ∈ result.partitions, partition.Synchronized := by
  obtain ⟨settled, hsettled, rfl, -⟩ := complete_eq_ok.1 h
  obtain ⟨grown, -, rfl⟩ := settle_eq_ok.1 hsettled
  refine forall_mem_transport (grown.syncBtrfs.identify_resembles source).1.partitions
    (fun _ _ hpartition => hpartition.synchronized) ?_
  exact List.forall_mem_map.2 fun partition _ => syncPartition_synchronized partition

/-- Every other btrfs volume of a completed table has the size that resizing gave it. -/
theorem complete_settle_keepsBtrfs
    (h : (complete (table.settle minimums goal) source).1.result = .ok result) :
    List.Forall₂ Visit.KeepsBtrfs (table.visits .parentsFirst) (result.visits .parentsFirst) := by
  obtain ⟨settled, hsettled, rfl, -⟩ := complete_eq_ok.1 h
  obtain ⟨grown, hgrown, rfl⟩ := settle_eq_ok.1 hsettled
  have hgrew := forall₂_comp (table.resize_btrfsResized minimums) (grow_sameBtrfs hgrown)
    fun _ _ _ _ => Node.BtrfsResized.congr
  have hsynced : List.Forall₂ Visit.KeepsBtrfs _ _ :=
    forall₂_comp hgrew grown.syncBtrfs_sameBtrfs
      fun _ _ _ _ hresized hsame hcontent => hresized.congr (hsame hcontent)
  have hidentified := visits_resemble .parentsFirst (grown.syncBtrfs.identify_resembles source).1
  refine forall₂_comp hsynced hidentified fun _ _ _ _ hkeeps hresembles hcontent => ?_
  rw [hresembles.isContent_eq] at hcontent
  exact (hkeeps hcontent).congr hresembles.node.sameBtrfs

end PartitionTable

/-- Every btrfs volume of a completed table holds its subvolumes and fits the space around it: the
size of the device that holds it, less a header for each encrypted container between the two.  As
the content of a partition it has exactly that size; anywhere else it keeps the size it had before,
or what its subvolumes need if that is more. -/
theorem completed_btrfs_sizes {table result : PartitionTable} {minimums : Minimums} {goal : Nat}
    {source : RandomSource}
    (h : (complete (table.settle minimums goal) source).1.result = .ok result) :
    (∀ visit ∈ result.visits .parentsFirst, ∀ volume, visit.node = .btrfs volume →
      volume.requiredSize ≤ volume.size ∧ volume.size ≤ visit.capacity ∧
        (visit.isContent = true → volume.size = visit.capacity)) ∧
    List.Forall₂ Visit.KeepsBtrfs (table.visits .parentsFirst) (result.visits .parentsFirst) := by
  have hkeeps := PartitionTable.complete_settle_keepsBtrfs h
  refine ⟨fun visit hvisit volume hnode => ?_, hkeeps⟩
  obtain ⟨hsize, hrequired⟩ :=
    Nat.max_le.1 ((complete_settle_finished h).1.sufficient.btrfs_le_capacity hvisit hnode)
  have hcontent : visit.isContent = true → volume.size = visit.capacity := by
    intro hvisitContent
    obtain ⟨index, partition, hpartition, hmem⟩ := PartitionTable.mem_visits.1 hvisit
    obtain ⟨hvolume, hcapacity⟩ := Partition.content?_of_isContent hmem hnode hvisitContent
    rw [hcapacity]
    exact PartitionTable.complete_settle_synchronized h partition
      (List.mem_of_getElem? hpartition) volume hvolume
  refine ⟨?_, hsize, hcontent⟩
  cases hplace : visit.isContent with
  | true => exact hcontent hplace ▸ hrequired
  | false =>
    obtain ⟨old, -, hkept⟩ := exists_of_forall₂ hkeeps.flip hvisit
    obtain ⟨before, -, hmax⟩ := hkept hplace volume hnode
    exact hmax ▸ Nat.le_max_right _ _

/-- A btrfs volume with one subvolume. -/
def Btrfs.data : Btrfs := ⟨none, none, 0, [⟨"data", "/data", 0, none⟩]⟩

/-- A disk with a btrfs volume in an encrypted partition. -/
def PartitionTable.encryptedData : PartitionTable :=
  let container : Luks := ⟨none, none, defaultCipher, .btrfs .data⟩
  { PartitionTable.empty .gpt with
    partitions := [.new Size.gibibyte .linuxGeneric (some (.luks container))] }

theorem completed_btrfs_sizes_encryptedData :
    ∃ result, (complete (PartitionTable.encryptedData.settle .empty 0) ⟨fun _ => 0, 0⟩).1.result =
        .ok result ∧
      (∃ visit ∈ result.visits .parentsFirst, ∃ volume, visit.node = .btrfs volume ∧
        visit.isContent = true ∧ volume.size = visit.capacity) ∧
      List.Forall₂ Visit.KeepsBtrfs (PartitionTable.encryptedData.visits .parentsFirst)
        (result.visits .parentsFirst) := by
  refine ⟨_, rfl, ?_⟩
  obtain ⟨hsizes, hkeeps⟩ := completed_btrfs_sizes (rfl :
    (complete (PartitionTable.encryptedData.settle .empty 0) ⟨fun _ => 0, 0⟩).1.result = _)
  refine ⟨⟨_, List.mem_of_getElem? (i := 2) rfl, _, rfl, rfl, ?_⟩, hkeeps⟩
  exact (hsizes _ (List.mem_of_getElem? (i := 2) rfl) _ rfl).2.2 rfl

/-- A disk with a btrfs volume in a logical volume. -/
def PartitionTable.lvmData : PartitionTable :=
  let root : Filesystem := .new .xfs Path.root
  let group : VolumeGroup := ⟨"vg", "",
    [⟨"rootlv", 512 * Size.mebibyte, some (.filesystem root)⟩,
      ⟨"datalv", 400 * Size.mebibyte, some (.btrfs .data)⟩]⟩
  { PartitionTable.empty .gpt with
    partitions := [.new Size.gibibyte .lvm (some (.volumeGroup group))] }

/-- The btrfs volume in a logical volume stays smaller than the logical volume. -/
theorem completed_btrfs_size_lt_capacity_lvmData :
    ∃ result, (complete (PartitionTable.lvmData.settle .empty 0) ⟨fun _ => 0, 0⟩).1.result =
        .ok result ∧
      ∃ visit ∈ result.visits .parentsFirst, ∃ volume, visit.node = .btrfs volume ∧
        volume.size < visit.capacity := by
  refine ⟨_, rfl, _, List.mem_of_getElem? (i := 5) rfl, _, rfl, ?_⟩
  decide

end DiskLayout
