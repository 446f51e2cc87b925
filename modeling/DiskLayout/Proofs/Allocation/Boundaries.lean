import DiskLayout.Proofs.Allocation.TotalSize
import DiskLayout.Proofs.Table.Ranges

/-!
# The boundaries of built tables

Resizing leaves partitions of whole grains, and growth enlarges one of them to reach a goal in whole
sectors.  Every partition up to the one that grows therefore starts on the grain, and all behind it
are off by the same bytes: those by which the whole table is.  On the grain or not, the ranges of a
built table fill the disk between header and footer.

## Main definitions

* `PartitionTable.WholeElsewhere` — whole grains in every partition but the one that grows
* `PartitionTable.FollowsGrain` — how far the partitions of a table start off the grain

## Main results

* `PartitionTable.complete_settle_wholeElsewhere` — finished tables are whole elsewhere
* `PartitionTable.WholeElsewhere.boundary_mod` — how far a boundary of such a table is off the grain
* `built_followsGrain` — where the partitions of built tables start
* `ranges_fill_disk` — the ranges of valid tables and of built tables
-/

namespace DiskLayout

open Sizing

namespace PartitionTable

variable {minimums : Minimums} {table other grown result : PartitionTable} {goal : Nat}

/-! ### The partition that grows -/

/-- Tables that resemble each other grow at the same position. -/
theorem Resembles.growthIndex?_eq {sizes : Nat → Nat → Prop} {old new : PartitionTable}
    (h : old.Resembles sizes new) : new.growthIndex? = old.growthIndex? := by
  have hlength := h.partitions.length_eq
  unfold growthIndex?
  simp only [h.partitionIndexOf?_eq, ← List.length_eq_zero_iff, hlength]

/-- Whether all partitions but the one that takes in free space are whole grains. -/
def WholeElsewhere (table : PartitionTable) : Prop :=
  ∀ index size, (table.partitions.map Partition.size)[index]? = some size →
    table.growthIndex? ≠ some index → size % Size.partitionGrain = 0

/-- Only sizes and the place that grows matter to whole grains. -/
theorem WholeElsewhere.congr (h : table.WholeElsewhere)
    (hsizes : other.partitions.map Partition.size = table.partitions.map Partition.size)
    (hgrowth : other.growthIndex? = table.growthIndex?) : other.WholeElsewhere := by
  unfold WholeElsewhere
  rw [hsizes, hgrowth]
  exact h

theorem resize_size_mod (minimums : Minimums) (table : PartitionTable) :
    ∀ partition ∈ (table.resize minimums).partitions,
      partition.size % Size.partitionGrain = 0 := by
  rw [resize_eq, List.forall_mem_map]
  intro partition _
  exact alignUp_mod _ Size.partitionGrain_ne_zero

/-- A table of whole grains keeps them in every partition but the one that grows. -/
theorem grow_wholeElsewhere
    (hwhole : ∀ partition ∈ table.partitions, partition.size % Size.partitionGrain = 0)
    (h : (table.grow goal).result = .ok grown) : grown.WholeElsewhere := by
  intro index size hsize hother
  rw [(grow_resembles h).growthIndex?_eq] at hother
  rw [List.getElem?_map, Option.map_eq_some_iff] at hsize
  obtain ⟨partition, hpartition, rfl⟩ := hsize
  apply hwhole partition
  rcases grow_eq_ok h with ⟨-, rfl⟩ | ⟨-, growing, -, hgrowth, rfl⟩
  · exact List.mem_of_getElem? hpartition
  · have hne : growing ≠ index := fun heq => hother (heq ▸ hgrowth)
    change (table.partitions.modify growing _)[index]? = some partition at hpartition
    rw [List.getElem?_modify_ne _ _ hne] at hpartition
    exact List.mem_of_getElem? hpartition

/-- A finished table has whole grains in every partition but the one that grows. -/
theorem complete_settle_wholeElsewhere {source : RandomSource}
    (h : (complete (table.settle minimums goal) source).1.result = .ok result) :
    result.WholeElsewhere := by
  obtain ⟨settled, hsettled, rfl, -⟩ := complete_eq_ok.1 h
  obtain ⟨grown, hgrown, rfl⟩ := settle_eq_ok.1 hsettled
  have hidentified := (grown.syncBtrfs.identify_resembles source).1
  have hsynced := ((table.resize_sufficient minimums).grow hgrown).resembles_syncBtrfs
  -- Neither synchronization nor identification changes the size of a partition.
  refine ((grow_wholeElsewhere (table.resize_size_mod minimums) hgrown).congr ?_
    hsynced.growthIndex?_eq).congr ?_ hidentified.growthIndex?_eq
  · change (grown.partitions.map syncPartition).map Partition.size = _
    rw [List.map_map]
    rfl
  · exact map_eq_of_forall₂ (fun _ _ hpartition => hpartition.1.size.symm) hidentified.partitions

/-! ### Boundaries and the grain -/

/-- Up to the partition that grows the boundaries of a table lie on the grain.  Those behind it are
off by what the whole table is off. -/
theorem WholeElsewhere.boundary_mod (h : table.WholeElsewhere)
    (hsize : table.size = table.partitionsSize) {growing : Nat}
    (hgrowth : table.growthIndex? = some growing) (index : Nat) :
    table.boundary index % Size.partitionGrain =
      if growing < index then table.size % Size.partitionGrain else 0 := by
  have hheader : Size.header = Size.partitionGrain := rfl
  unfold boundary
  rw [hheader, Nat.add_mod_left]
  split
  · rename_i hbehind
    -- What lies behind the boundary is whole grains, so the boundary is off as the end is.
    have hrest : ((table.partitions.map Partition.size).drop index).sum %
        Size.partitionGrain = 0 := by
      refine Size.sum_mod fun size hmem => ?_
      obtain ⟨position, hposition⟩ := List.mem_iff_getElem?.1 hmem
      rw [List.getElem?_drop] at hposition
      refine h _ size hposition fun heq => ?_
      have hposition := Option.some.inj (hgrowth.symm.trans heq)
      omega
    have hsplit := List.sum_take_add_sum_drop (table.partitions.map Partition.size) index
    rw [hsize, partitionsSize, Size.total, ← hsplit, Nat.add_mod, hrest, Nat.add_zero, Nat.mod_mod]
  · rename_i hbefore
    refine Size.sum_mod fun size hmem => ?_
    obtain ⟨position, hposition⟩ := List.mem_iff_getElem?.1 hmem
    obtain ⟨hlt, hposition⟩ : position < index ∧
        (table.partitions.map Partition.size)[position]? = some size := by
      simpa [List.getElem?_take] using hposition
    refine h _ size hposition fun heq => ?_
    have hposition := Option.some.inj (hgrowth.symm.trans heq)
    omega

/-- How the partitions of a table lie to the grain: up to the one that takes in free space they
start on it, and behind that one they are off by what the size of the table is off.  All of them
start on the grain exactly if the table is whole grains or nothing lies behind the partition that
takes in free space. -/
structure FollowsGrain (table : PartitionTable) : Prop where
  offset_mod : ∀ index offset, table.startOffset? index = some offset →
    ∃ growing, table.growthIndex? = some growing ∧
      offset % Size.partitionGrain =
        if growing < index then table.size % Size.partitionGrain else 0
  aligned_iff :
    (∀ index offset, table.startOffset? index = some offset → Size.partitionGrain ∣ offset) ↔
      Size.partitionGrain ∣ table.size ∨
        table.growthIndex? = some (table.partitions.length - 1)

theorem exists_growthIndex? {index : Nat} (h : index < table.partitions.length) :
    ∃ growing, table.growthIndex? = some growing := by
  rw [← Option.ne_none_iff_exists', ne_eq, growthIndex?_eq_none]
  exact List.ne_nil_of_length_pos (Nat.zero_lt_of_lt h)

theorem WholeElsewhere.followsGrain (h : table.WholeElsewhere)
    (hsize : table.size = table.partitionsSize) : table.FollowsGrain := by
  have hoffset : ∀ index offset, table.startOffset? index = some offset →
      ∃ growing, table.growthIndex? = some growing ∧
        offset % Size.partitionGrain =
          if growing < index then table.size % Size.partitionGrain else 0 := by
    intro index offset hstart
    obtain ⟨hlt, rfl⟩ := startOffset?_eq_some.1 hstart
    obtain ⟨growing, hgrowth⟩ := exists_growthIndex? hlt
    exact ⟨growing, hgrowth, h.boundary_mod hsize hgrowth index⟩
  refine ⟨hoffset, ?_, ?_⟩
  · intro haligned
    by_cases hempty : table.partitions = []
    · left
      rw [hsize, partitionsSize, hempty]
      exact Nat.dvd_zero _
    · obtain ⟨growing, hgrowth⟩ :=
        exists_growthIndex? (List.length_pos_of_ne_nil hempty)
      have hlt := lt_of_growthIndex?_eq_some hgrowth
      by_cases hlast : growing = table.partitions.length - 1
      · exact .inr (hlast ▸ hgrowth)
      · -- The partition behind the one that grows starts off the grain as the table is.
        have hnext : growing + 1 < table.partitions.length := by omega
        have hstart := startOffset?_eq_some.2 ⟨hnext, rfl⟩
        have hmod := h.boundary_mod hsize hgrowth (growing + 1)
        rw [if_pos (Nat.lt_succ_self growing),
          Nat.mod_eq_zero_of_dvd (haligned _ _ hstart)] at hmod
        exact .inl (Nat.dvd_of_mod_eq_zero hmod.symm)
  · intro hcases index offset hstart
    obtain ⟨growing, hgrowth, hmod⟩ := hoffset index offset hstart
    obtain ⟨hlt, -⟩ := startOffset?_eq_some.1 hstart
    apply Nat.dvd_of_mod_eq_zero
    rw [hmod]
    split
    · rename_i hbehind
      rcases hcases with hwhole | hlast
      · exact Nat.mod_eq_zero_of_dvd hwhole
      · have hlast := Option.some.inj (hgrowth.symm.trans hlast)
        omega
    · rfl

/-- The partitions of a finished table are laid out. -/
theorem Finished.laidOut (h : table.Finished minimums goal result) : result.LaidOut :=
  laidOut_of_le
    (fun partition hmem => Nat.dvd_of_mod_eq_zero (h.sufficient partition hmem).sectors)
    (Nat.le_of_eq h.size_eq.symm)

/-- A table that is finished for a goal in whole grains is whole grains. -/
theorem Finished.size_mod (h : table.Finished minimums goal result)
    (hgoal : Size.partitionGrain ∣ goal) : Size.partitionGrain ∣ result.size := by
  have hnatural : Size.partitionGrain ∣ (table.resize minimums).partitionsSize :=
    List.dvd_sum (List.forall_mem_map.2 fun partition hpartition =>
      Nat.dvd_of_mod_eq_zero (table.resize_size_mod minimums partition hpartition))
  have haligned : alignUp goal Size.sector = goal :=
    alignUp_of_mod (Size.mod_sector_of_mod_partitionGrain (Nat.mod_eq_zero_of_dvd hgoal))
  rw [h.size_eq_max, haligned]
  rcases Nat.le_total (table.resize minimums).partitionsSize goal with hle | hle
  · rwa [Nat.max_eq_right hle]
  · rwa [Nat.max_eq_left hle]

end PartitionTable

/-! ### Built tables -/

/-- The partitions of every built table start on the grain up to the one that takes in free space,
and behind it they are off by what the table is off.  A table that is built for a goal in whole
grains, from a base of whole grains if from any, is whole grains, and so all its partitions start on
the grain. -/
theorem built_followsGrain (source : RandomSource) (result : PartitionTable) :
    (∀ (base : PartitionTable) (requests : List FilesystemRequest) (goal : Nat)
        (options : BuildOptions),
      (build base requests goal options source).1.result = .ok result →
      result.FollowsGrain ∧
        (Size.partitionGrain ∣ max goal base.size → Size.partitionGrain ∣ result.size)) ∧
    ∀ (request : PartitioningRequest) (options : CustomOptions),
      (buildCustom request options source).1.result = .ok result →
      result.FollowsGrain ∧
        (Size.partitionGrain ∣ request.minSize → Size.partitionGrain ∣ result.size) := by
  constructor
  · intro base requests goal options h
    obtain ⟨table, minimums, -, hcomplete⟩ := build_eq_ok_iff.1 h
    obtain ⟨hfinished, -⟩ := complete_settle_finished hcomplete
    exact ⟨(PartitionTable.complete_settle_wholeElsewhere hcomplete).followsGrain hfinished.size_eq,
      hfinished.size_mod⟩
  · intro request options h
    obtain ⟨table, -, hcomplete⟩ := buildCustom_eq_ok_iff.1 h
    obtain ⟨hfinished, -⟩ := complete_settle_finished hcomplete
    exact ⟨(PartitionTable.complete_settle_wholeElsewhere hcomplete).followsGrain hfinished.size_eq,
      hfinished.size_mod⟩

/-- A disk with a partition for the root and one for `/home` behind it. -/
def PartitionTable.homeDisk : PartitionTable :=
  { PartitionTable.empty .gpt with
    partitions := [
      .new (2 * Size.gibibyte) .rootAmd64 (some (.filesystem (.new .xfs Path.root))),
      .new Size.gibibyte .linuxGeneric (some (.filesystem (.new .xfs "/home")))] }

theorem built_followsGrain_homeDisk :
    (∃ result,
      (build .homeDisk [] (5 * Size.gibibyte) .standard ⟨fun _ => 0, 0⟩).1.result = .ok result ∧
        result.FollowsGrain ∧ Size.partitionGrain ∣ result.size) ∧
    ∃ result, (buildCustom ⟨0, none, none, none⟩ .standard ⟨fun _ => 0, 0⟩).1.result = .ok result ∧
      result.FollowsGrain ∧ Size.partitionGrain ∣ result.size := by
  constructor
  · refine ⟨_, rfl, ?_⟩
    obtain ⟨hfollows, hwhole⟩ := (built_followsGrain ⟨fun _ => 0, 0⟩ _).1 .homeDisk []
      (5 * Size.gibibyte) .standard rfl
    exact ⟨hfollows, hwhole (by decide)⟩
  · refine ⟨_, rfl, ?_⟩
    obtain ⟨hfollows, hwhole⟩ := (built_followsGrain ⟨fun _ => 0, 0⟩ _).2 ⟨0, none, none, none⟩
      .standard rfl
    exact ⟨hfollows, hwhole (by decide)⟩

/-- A goal of one byte more than the partitions have moves `/home` off the grain by a sector. -/
theorem build_offset_off_grain_homeDisk :
    ∃ result offset,
      (build .homeDisk [] (3 * Size.gibibyte + 1) { BuildOptions.standard with
        mode := .raw, requiredSizes := some .empty } ⟨fun _ => 0, 0⟩).1.result = .ok result ∧
      result.startOffset? 1 = some offset ∧ offset % Size.partitionGrain = Size.sector :=
  ⟨_, _, rfl, rfl, by decide⟩

/-- The partitions of a valid table that has a size lie on the disk in order and apart from each
other, in whole sectors between header and footer.  Those of a built table fill that space without
gaps. -/
theorem ranges_fill_disk :
    (∀ table : PartitionTable, table.validateStructure.result = .ok () → table.size ≠ 0 →
      table.LaidOut) ∧
    (∀ (base : PartitionTable) (requests : List FilesystemRequest) (goal : Nat)
        (options : BuildOptions) (source : RandomSource) (result : PartitionTable),
      (build base requests goal options source).1.result = .ok result →
      result.LaidOut ∧ result.Gapless) ∧
    ∀ (request : PartitioningRequest) (options : CustomOptions) (source : RandomSource)
        (result : PartitionTable),
      (buildCustom request options source).1.result = .ok result →
      result.LaidOut ∧ result.Gapless := by
  refine ⟨?_, ?_, ?_⟩
  · intro table hvalid hsize
    exact (PartitionTable.validateStructure_ok_iff.1 hvalid).laidOut hsize
  · intro base requests goal options source result h
    obtain ⟨table, minimums, -, hfinished, -⟩ := build_eq_ok h
    exact ⟨hfinished.laidOut, PartitionTable.gapless_of_size_eq hfinished.size_eq⟩
  · intro request options source result h
    obtain ⟨table, -, hfinished, -⟩ := buildCustom_eq_ok h
    exact ⟨hfinished.laidOut, PartitionTable.gapless_of_size_eq hfinished.size_eq⟩

theorem ranges_fill_disk_homeDisk :
    (∃ table : PartitionTable, table.validateStructure.result = .ok () ∧ table.size ≠ 0 ∧
      table.partitions ≠ [] ∧ table.LaidOut) ∧
    (∃ result,
      (build .homeDisk [] (3 * Size.gibibyte + 1) .standard ⟨fun _ => 0, 0⟩).1.result =
        .ok result ∧ result.LaidOut ∧ result.Gapless) ∧
    ∃ result, (buildCustom ⟨0, none, none, none⟩ .standard ⟨fun _ => 0, 0⟩).1.result = .ok result ∧
      result.LaidOut ∧ result.Gapless := by
  refine ⟨?_, ?_, ?_⟩
  · exact ⟨{ PartitionTable.homeDisk with size := 4 * Size.gibibyte }, rfl, by decide,
      List.cons_ne_nil _ _, ranges_fill_disk.1 _ rfl (by decide)⟩
  · exact ⟨_, rfl, ranges_fill_disk.2.1 .homeDisk [] (3 * Size.gibibyte + 1) .standard
      ⟨fun _ => 0, 0⟩ _ rfl⟩
  · exact ⟨_, rfl, ranges_fill_disk.2.2 ⟨0, none, none, none⟩ .standard ⟨fun _ => 0, 0⟩ _ rfl⟩

end DiskLayout
