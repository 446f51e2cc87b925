import DiskLayout.Proofs.Allocation.Capacity
import DiskLayout.Proofs.Allocation.Completion
import DiskLayout.Proofs.Table.Containers

/-!
# Tables that sizing leaves as they are

A table that has been settled and identified is a fixed point of both.  Resizing leaves a node as
it is that is sufficient and rounded; a table of exact size that reaches its goal does not grow;
and a btrfs volume that has the size of the space around it is not synchronized again.  All this
holds of a settled table, whatever it draws.

## Main definitions

* `Node.Rounded`, `PartitionTable.Rounded` — partitions on the grain, btrfs volumes that hold
  their subvolumes
* `Partition.Synchronized` — a btrfs volume of the size of the space around it
* `PartitionTable.Settled` — what holds of a table once it is settled

## Main results

* `PartitionTable.settle_settled`, `PartitionTable.Settled.identify` — settled tables are settled
* `PartitionTable.Settled.settle_eq_self` — settling leaves a settled table as it is
* `PartitionTable.identify_eq_self` — identification leaves an identified table as it is
-/

namespace DiskLayout

open Sizing Identification

variable {minimums : Minimums}

/-! ### Rounded nodes -/

/-- Whether a node has a size that rounding and its contents leave as it is: a partition lies on
the grain, and a btrfs volume holds its subvolumes. -/
def Node.Rounded : Node → Prop
  | .partition _ device => device.size % Size.partitionGrain = 0
  | .btrfs volume => volume.requiredSize ≤ volume.size
  | _ => True

/-- Whether a partition and everything in it is rounded. -/
structure Partition.Rounded (partition : Partition) : Prop where
  grains : partition.size % Size.partitionGrain = 0
  payload : ∀ payload, partition.payload = some payload → payload.All Node.Rounded

/-- Whether everything in a table is rounded. -/
def PartitionTable.Rounded (table : PartitionTable) : Prop :=
  ∀ partition ∈ table.partitions, partition.Rounded

theorem PartitionTable.Rounded.of_mem_nodes {table : PartitionTable} (h : table.Rounded) :
    ∀ node ∈ table.nodes, node.Rounded :=
  forall_mem_nodes.2 fun _ partition hpartition =>
    ⟨(h partition (List.mem_of_getElem? hpartition)).grains,
      (h partition (List.mem_of_getElem? hpartition)).payload⟩

theorem PartitionTable.rounded_of_nodes {table : PartitionTable}
    (h : ∀ node ∈ table.nodes, node.Rounded) : table.Rounded := by
  intro partition hmem
  obtain ⟨index, hindex⟩ := List.mem_iff_getElem?.1 hmem
  obtain ⟨hgrains, hpayload⟩ := forall_mem_nodes.1 h index partition hindex
  exact ⟨hgrains, hpayload⟩

/-- After resizing everything in a payload is rounded. -/
theorem Payload.resize_rounded (minimums : Minimums) (payload : Payload) :
    (payload.resize minimums).All Node.Rounded := by
  induction payload with
  | filesystem system => exact all_filesystem.2 trivial
  | swap space => exact all_swap.2 trivial
  | luks container ih =>
    rw [resize_luks, all_luks]
    exact ⟨trivial, ih⟩
  | btrfs volume =>
    rw [resize_btrfs, all_btrfs]
    exact ⟨Nat.le_max_right _ _, fun _ _ => trivial⟩
  | volumeGroup group ih =>
    rw [resize_volumeGroup, all_volumeGroup]
    refine ⟨trivial, fun volume hvolume => ?_⟩
    obtain ⟨old, hold, rfl⟩ := List.mem_map.1 hvolume
    refine ⟨trivial, fun payload hpayload => ?_⟩
    obtain ⟨inner, hinner, rfl⟩ := Option.map_eq_some_iff.1 hpayload
    exact ih old hold inner hinner

theorem PartitionTable.resize_rounded (minimums : Minimums) (table : PartitionTable) :
    (table.resize minimums).Rounded := by
  rw [resize_eq]
  intro partition hpartition
  obtain ⟨old, -, rfl⟩ := List.mem_map.1 hpartition
  refine ⟨alignUp_mod _ Size.partitionGrain_ne_zero, fun payload hpayload => ?_⟩
  obtain ⟨inner, -, rfl⟩ := Option.map_eq_some_iff.1 hpayload
  exact inner.resize_rounded minimums

theorem deviceSize_eq_self {size : Nat} {payload : Option Payload}
    (h : deviceSize minimums 0 payload ≤ size) : deviceSize minimums size payload = size :=
  Nat.le_antisymm (deviceSize_le_iff.2 ⟨Nat.le_refl _, (deviceSize_le_iff.1 h).2⟩)
    (le_deviceSize minimums size payload)

/-- Resizing leaves a node as it is that is sufficient and rounded. -/
theorem resizer_leaves (minimums : Minimums) :
    (resizer minimums).Leaves fun node => node.Sufficient minimums ∧ node.Rounded where
  partition index old h := by
    obtain ⟨⟨-, hsize⟩, hgrains⟩ := h
    have hsame : alignUp (deviceSize minimums old.size old.payload) Size.partitionGrain =
        old.size := by
      rw [deviceSize_eq_self hsize, alignUp_of_mod hgrains]
    change old = { old with size := alignUp _ _ }
    rw [hsame]
  filesystem _ _ := rfl
  volumeGroup _ _ := rfl
  logicalVolume old h := by
    obtain ⟨⟨hextents, hsize⟩, -⟩ := h
    have hsame : alignUp (deviceSize minimums old.size old.payload) Size.extent = old.size := by
      rw [deviceSize_eq_self hsize, alignUp_of_mod hextents]
    cases old
    exact congrArg (LogicalVolume.mk _ · _) hsame.symm
  btrfs old h := by
    change old = { old with size := max old.size old.requiredSize }
    rw [Nat.max_eq_left h.2]
  subvolume old h := by
    change old = { old with size := max old.size _ }
    rw [Nat.max_eq_left h.1]
  swap _ _ := rfl
  luks _ _ := rfl

theorem PartitionTable.resize_eq_self {table : PartitionTable}
    (hsufficient : table.Sufficient minimums) (hrounded : table.Rounded) :
    table.resize minimums = table :=
  (PartitionTable.edit_leaves .childrenFirst (resizer_leaves minimums) fun node hnode =>
    ⟨hsufficient.of_mem_nodes hnode, hrounded.of_mem_nodes node hnode⟩).symm

/-! ### Rounded contents -/

section Content

variable {partition : Partition} {inner new : Payload}

theorem Partition.Rounded.content (h : partition.Rounded)
    (hcontent : partition.content? = some inner) : inner.All Node.Rounded :=
  all_content h.payload hcontent

theorem Partition.Rounded.mapContent (h : partition.Rounded)
    (hcontent : partition.content? = some inner) (hnew : new.All Node.Rounded) :
    (partition.mapContent fun _ => new).Rounded :=
  ⟨h.grains, all_replace hcontent (fun _ _ => trivial) hnew⟩

theorem VolumeGroup.growRootVolume_rounded {group : VolumeGroup} (room : Nat)
    (h : (Payload.volumeGroup group).All Node.Rounded) :
    (Payload.volumeGroup (growRootVolume room group)).All Node.Rounded := by
  rcases growRootVolume_cases room group with hsame | ⟨before, root, after, hsplit, hgrown⟩
  · rw [hsame]
    exact h
  · obtain ⟨-, hvolumes⟩ := Payload.all_volumeGroup.1 h
    rw [hsplit, List.forall_mem_append, List.forall_mem_cons] at hvolumes
    obtain ⟨hbefore, hroot, hafter⟩ := hvolumes
    rw [hgrown]
    refine Payload.all_volumeGroup.2 ⟨trivial, List.forall_mem_append.2 ⟨hbefore, ?_⟩⟩
    exact List.forall_mem_cons.2 ⟨⟨trivial, hroot.2⟩, hafter⟩

theorem growPartition_rounded (h : partition.Rounded) {delta : Nat}
    (hdelta : delta % Size.partitionGrain = 0) : (growPartition delta partition).Rounded := by
  have henlarged : (partition.enlarge delta).Rounded := by
    refine ⟨?_, h.payload⟩
    change (partition.size + delta) % Size.partitionGrain = 0
    rw [Nat.add_mod, h.grains, hdelta, Nat.add_zero, Nat.zero_mod]
  rcases growPartition_cases delta partition with hsame | ⟨group, hcontent, hmap⟩
  · rw [hsame]
    exact henlarged
  · rw [hmap]
    exact henlarged.mapContent hcontent
      (VolumeGroup.growRootVolume_rounded _ (henlarged.content hcontent))

theorem syncPartition_rounded (hsufficient : partition.Sufficient minimums)
    (h : partition.Rounded) : (syncPartition partition).Rounded := by
  rcases syncPartition_cases partition with hsame | ⟨volume, hcontent, hmap⟩
  · rw [hsame]
    exact h
  · rw [hmap]
    refine h.mapContent hcontent (Payload.all_btrfs.2 ⟨?_, fun _ _ => trivial⟩)
    exact (Nat.max_le.1 (hsufficient.requirement_le_innerSize hcontent)).2

end Content

/-! ### Synchronized partitions -/

/-- Whether the btrfs volume in a partition has the size of the space around it. -/
def Partition.Synchronized (partition : Partition) : Prop :=
  ∀ volume, partition.content? = some (.btrfs volume) → volume.size = innerSize partition

section Synchronized

variable {partition : Partition}

theorem innerSize_mapContent {inner new : Payload} (hcontent : partition.content? = some inner)
    (hluks : new.isLuks = false) :
    innerSize (partition.mapContent fun _ => new) = innerSize partition := by
  unfold innerSize
  rcases Partition.content?_eq_some.1 hcontent with ⟨hpayload, hinner⟩ | ⟨container, hpayload, rfl⟩
  · rw [Partition.mapContent_of_payload hpayload hinner, hpayload,
      luksOverhead_of_not_isLuks hluks, luksOverhead_of_not_isLuks hinner]
  · rw [Partition.mapContent_of_luks hpayload, hpayload]
    rfl

theorem syncPartition_eq_self_iff :
    syncPartition partition = partition ↔ partition.Synchronized := by
  constructor
  · intro hsame volume hcontent
    have hmap : syncPartition partition = partition.mapContent fun _ =>
        .btrfs { volume with size := innerSize partition } :=
      Partition.mapContent_congr hcontent rfl
    have hnew := Partition.content?_replace hcontent
      (rfl : (Payload.btrfs { volume with size := innerSize partition }).isLuks = false)
    rw [← hmap, hsame, hcontent] at hnew
    exact congrArg Btrfs.size (Payload.btrfs.inj (Option.some.inj hnew))
  · intro h
    refine Partition.mapContent_eq_self fun inner hcontent => ?_
    split
    · rw [← h _ hcontent]
    · rfl

theorem syncPartition_synchronized (partition : Partition) :
    (syncPartition partition).Synchronized := by
  rcases syncPartition_cases partition with hsame | ⟨volume, hcontent, hmap⟩
  · rw [hsame]
    exact syncPartition_eq_self_iff.1 hsame
  · have hluks : (Payload.btrfs { volume with size := innerSize partition }).isLuks = false := rfl
    rw [hmap]
    intro other hother
    rw [Partition.content?_replace hcontent hluks] at hother
    rw [innerSize_mapContent hcontent hluks]
    exact congrArg Btrfs.size (Payload.btrfs.inj (Option.some.inj hother)).symm

theorem Partition.Resembles.innerSize_eq {old new : Partition} (h : old.Resembles (· = ·) new) :
    innerSize new = innerSize old := by
  obtain ⟨hown, hpayload⟩ := h
  unfold innerSize
  rw [hown.size]
  generalize old.payload = oldPayload, new.payload = newPayload at hpayload
  cases hpayload with
  | none => rfl
  | some hinner => rw [hinner.luksOverhead_eq]

theorem Partition.Resembles.synchronized {old new : Partition} (h : old.Resembles (· = ·) new)
    (hold : old.Synchronized) : new.Synchronized := by
  intro volume hcontent
  have hcontents := h.content?_rel
  rw [hcontent] at hcontents
  generalize holdContent : old.content? = oldContent at hcontents
  cases hcontents with
  | @some inner _ hinner =>
    cases hinner.byKind with
    | @btrfs oldVolume _ hvolume =>
      rw [h.innerSize_eq, ← hold oldVolume holdContent]
      exact (Payload.resembles_btrfs.1 hvolume).1.size.symm

end Synchronized

/-! ### Settled tables -/

theorem Node.Resembles.rounded {old new : Node} (h : old.Resembles (· = ·) new)
    (hold : old.Rounded) : new.Rounded := by
  cases h with
  | partition hpartition =>
    change _ % Size.partitionGrain = 0
    rw [← hpartition.1.size]
    exact hold
  | btrfs hvolume =>
    change Btrfs.requiredSize _ ≤ _
    rw [Btrfs.requiredSize_eq hvolume, ← (Payload.resembles_btrfs.1 hvolume).1.size]
    exact hold
  | _ => trivial

namespace PartitionTable

variable {table grown settled : PartitionTable} {goal : Nat}

theorem Resembles.rounded {old new : PartitionTable} (h : old.Resembles (· = ·) new)
    (hold : old.Rounded) : new.Rounded :=
  rounded_of_nodes
    (forall_mem_transport (nodes_resemble h) (fun _ _ hnode => hnode.rounded) hold.of_mem_nodes)

/-- Growing keeps a rounded table rounded if the goal is whole grains. -/
theorem Rounded.grow (h : table.Rounded) (hgoal : goal % Size.partitionGrain = 0)
    (hgrown : (table.grow goal).result = .ok grown) : grown.Rounded := by
  rcases grow_eq_ok hgrown with ⟨-, rfl⟩ | ⟨-, index, hindex, -, rfl⟩
  · exact h
  · have hnatural : table.partitionsSize % Size.partitionGrain = 0 := by
      refine Size.sum_mod fun size hsize => ?_
      obtain ⟨partition, hpartition, rfl⟩ := List.mem_map.1 hsize
      exact (h partition hpartition).grains
    have hdelta :
        (alignUp goal Size.sector - table.partitionsSize) % Size.partitionGrain = 0 := by
      rw [alignUp_of_mod (Size.mod_sector_of_mod_partitionGrain hgoal)]
      exact Nat.mod_eq_zero_of_dvd
        (Nat.dvd_sub (Nat.dvd_of_mod_eq_zero hgoal) (Nat.dvd_of_mod_eq_zero hnatural))
    obtain ⟨before, partition, after, hsplit, -, -, hmodify⟩ := modify_split hindex
    unfold Rounded at h ⊢
    rw [hsplit, List.forall_mem_append, List.forall_mem_cons] at h
    change ∀ partition ∈ table.partitions.modify index _, _
    rw [hmodify, List.forall_mem_append, List.forall_mem_cons]
    exact ⟨h.1, growPartition_rounded h.2.1 hdelta, h.2.2⟩

/-- What holds of a table once it is settled: everything in it is sufficient, rounded and
synchronized, and it is as large as its partitions together. -/
structure Settled (table : PartitionTable) (minimums : Minimums) : Prop where
  sufficient : table.Sufficient minimums
  rounded : table.Rounded
  synchronized : ∀ partition ∈ table.partitions, partition.Synchronized
  size_eq : table.size = table.partitionsSize

/-- A table that has been settled for a goal in whole grains is settled. -/
theorem settle_settled (hgoal : goal % Size.partitionGrain = 0)
    (h : (table.settle minimums goal).result = .ok settled) : settled.Settled minimums := by
  obtain ⟨grown, hgrown, rfl⟩ := settle_eq_ok.1 h
  have hsufficient := (table.resize_sufficient minimums).grow hgrown
  have hrounded := (table.resize_rounded minimums).grow hgoal hgrown
  refine ⟨hsufficient.syncBtrfs, ?_, ?_, ?_⟩
  · intro partition hmem
    obtain ⟨old, hold, rfl⟩ := List.mem_map.1 hmem
    exact syncPartition_rounded (hsufficient old hold) (hrounded old hold)
  · intro partition hmem
    obtain ⟨old, -, rfl⟩ := List.mem_map.1 hmem
    exact syncPartition_synchronized old
  · rw [partitionsSize_syncBtrfs]
    exact (grow_size hgrown).1

/-- Identification leaves a settled table settled, whatever it draws. -/
theorem Settled.identify (h : table.Settled minimums) (source : RandomSource) :
    (table.identify.run source).1.Settled minimums := by
  obtain ⟨hresembles, hsize⟩ := table.identify_resembles source
  refine ⟨hresembles.sufficient h.sufficient, hresembles.rounded h.rounded, ?_, ?_⟩
  · exact forall_mem_transport hresembles.partitions
      (fun _ _ hpartition => hpartition.synchronized) h.synchronized
  · rw [hsize, hresembles.partitionsSize_eq]
    exact h.size_eq

/-- Settling leaves a settled table as it is if it reaches the goal. -/
theorem Settled.settle_eq_self (h : table.Settled minimums) (hgoal : goal ≤ table.size) :
    (table.settle minimums goal).result = .ok table := by
  have hnatural : alignUp goal Size.sector ≤ table.partitionsSize :=
    (alignUp_le_iff h.sufficient.partitionsSize_mod).2 (h.size_eq ▸ hgoal)
  have hexact : table.withExactSize = table := by
    unfold withExactSize
    rw [← h.size_eq]
  have hsynced : table.syncBtrfs = table := by
    have hpartitions : table.partitions.map syncPartition = table.partitions.map id :=
      List.map_congr_left fun partition hmem =>
        syncPartition_eq_self_iff.2 (h.synchronized partition hmem)
    unfold syncBtrfs
    rw [hpartitions, List.map_id]
  refine settle_eq_ok.2 ⟨table, ?_, hsynced.symm⟩
  rw [resize_eq_self h.sufficient h.rounded]
  rcases grow_cases table goal with ⟨-, hok⟩ | ⟨hlt, -⟩ | ⟨hlt, -⟩
  · rw [hok, hexact]
  · exact absurd hnatural (Nat.not_le.2 hlt)
  · exact absurd hnatural (Nat.not_le.2 hlt)

end PartitionTable

/-! ### Identified tables -/

theorem orElse_eq_self {α : Type} {id other : Option α} (h : id.isSome ∨ other = none) :
    (id <|> other) = id := by
  cases id with
  | some id => rfl
  | none => exact h.resolve_left (by simp)

/-- Identification leaves a node as it is whose slot is filled. -/
theorem identifier_leaves (kind : TableKind) :
    (identifier kind).Leaves (Node.Identified kind) where
  partition index old h := by
    refine always_bind always_draw fun bytes _ => always_pure ?_
    have hslot : old.uuid.isSome ∨ partitionId? kind bytes = none := by
      cases kind with
      | gpt => exact .inl (h rfl)
      | dos => exact .inr rfl
    rw [orElse_eq_self hslot]
  filesystem old h := always_bind always_draw fun _ _ => always_pure (by
    rw [orElse_eq_self (.inl h)])
  volumeGroup _ _ := always_pure rfl
  logicalVolume _ _ := always_pure rfl
  btrfs old h := always_bind always_draw fun _ _ => always_pure (by
    rw [orElse_eq_self (.inl h)])
  subvolume _ _ := always_pure rfl
  swap old h := always_bind always_draw fun _ _ => always_pure (by
    rw [orElse_eq_self (.inl h)])
  luks old h := always_bind always_draw fun _ _ => always_pure (by
    rw [orElse_eq_self (.inl h)]
    cases old
    rfl)

/-- Identification leaves a table as it is whose slots are filled, whatever it draws. -/
theorem PartitionTable.identify_eq_self {table : PartitionTable} (huuid : table.uuid.isSome)
    (h : ∀ node ∈ table.nodes, node.Identified table.kind) (source : RandomSource) :
    (table.identify.run source).1 = table := by
  have hidentify : always (Eq table) table.identify := by
    refine always_bind always_draw fun bytes _ => ?_
    have hsame : { table with
        uuid := table.uuid <|> some (tableId table.kind bytes) } = table := by
      rw [orElse_eq_self (.inl huuid)]
    rw [hsame]
    exact PartitionTable.edit_leaves .parentsFirst (identifier_leaves table.kind) h
  exact (hidentify source).symm

end DiskLayout
