import DiskLayout.Proofs.Allocation.Growth
import DiskLayout.Proofs.Outcome

/-!
# Settling of tables

A table is resized, one partition takes in what is missing to the goal, and btrfs volumes are
synchronized.  Every table on the way is sufficient, nothing shrinks, and the sum of the partitions
is the goal unless it was larger before.

## Main results

* `PartitionTable.grow_cases`, `PartitionTable.grow_eq_ok` — what growing a table does
* `PartitionTable.grow_size` — the size of a grown table
* `PartitionTable.Sufficient.grow`, `PartitionTable.Sufficient.syncBtrfs` — growth and
  synchronization keep a table sufficient
* `PartitionTable.settle_eq_ok` — when settling succeeds
-/

namespace DiskLayout

open Sizing

namespace PartitionTable

variable {minimums : Minimums} {table grown : PartitionTable} {goal : Nat}

theorem growthIndex?_eq_none : table.growthIndex? = none ↔ table.partitions = [] := by
  unfold growthIndex?
  cases hroot : table.partitionIndexOf? Path.root with
  | none => simp
  | some index =>
    rw [partitionIndexOf?_eq, List.findIdx?_eq_some_iff_findIdx_eq] at hroot
    simp [List.ne_nil_of_length_pos (Nat.zero_lt_of_lt hroot.1)]

theorem lt_of_growthIndex?_eq_some {index : Nat} (h : table.growthIndex? = some index) :
    index < table.partitions.length := by
  unfold growthIndex? at h
  cases hroot : table.partitionIndexOf? Path.root with
  | none =>
    simp only [hroot] at h
    split at h
    · cases h
    · rename_i hne
      obtain rfl := Option.some.inj h
      exact Nat.sub_lt (List.length_pos_of_ne_nil hne) Nat.one_pos
  | some found =>
    rw [hroot] at h
    obtain rfl := Option.some.inj h
    rw [partitionIndexOf?_eq, List.findIdx?_eq_some_iff_findIdx_eq] at hroot
    exact hroot.1

/-- Growing keeps a table that is large enough, fails without a partition to grow, and else
enlarges the partition that takes in free space by what is missing. -/
theorem grow_cases (table : PartitionTable) (goal : Nat) :
    (alignUp goal Size.sector ≤ table.partitionsSize ∧
        (table.grow goal).result = .ok table.withExactSize) ∨
      (table.partitionsSize < alignUp goal Size.sector ∧ table.partitions = [] ∧
        (table.grow goal).result =
          .error (.invalidTable "partition table has no partition to grow")) ∨
      (table.partitionsSize < alignUp goal Size.sector ∧ ∃ index < table.partitions.length,
        table.growthIndex? = some index ∧
          (table.grow goal).result = .ok (table.modifyPartition index
            (growPartition (alignUp goal Size.sector - table.partitionsSize))).withExactSize) := by
  unfold grow
  by_cases hgoal : alignUp goal Size.sector ≤ table.partitionsSize
  · exact .inl ⟨hgoal, by simp [hgoal]⟩
  · have hlt := Nat.lt_of_not_le hgoal
    cases hindex : table.growthIndex? with
    | none => exact .inr (.inl ⟨hlt, growthIndex?_eq_none.1 hindex, by simp [hgoal]⟩)
    | some index =>
      have hbound := lt_of_growthIndex?_eq_some hindex
      refine .inr (.inr ⟨hlt, index, hbound, rfl, ?_⟩)
      simp [hgoal, List.getElem?_eq_getElem hbound]

/-- A table that has grown is the one before with its exact size, or the partition that takes in free
space is larger. -/
theorem grow_eq_ok (h : (table.grow goal).result = .ok grown) :
    (alignUp goal Size.sector ≤ table.partitionsSize ∧ grown = table.withExactSize) ∨
      (table.partitionsSize < alignUp goal Size.sector ∧ ∃ index < table.partitions.length,
        table.growthIndex? = some index ∧ grown = (table.modifyPartition index
          (growPartition (alignUp goal Size.sector - table.partitionsSize))).withExactSize) := by
  rcases grow_cases table goal with
    ⟨hle, hok⟩ | ⟨-, -, herror⟩ | ⟨hlt, index, hindex, hgrowth, hok⟩
  · rw [hok] at h
    exact .inl ⟨hle, (Except.ok.inj h).symm⟩
  · rw [herror] at h
    cases h
  · rw [hok] at h
    exact .inr ⟨hlt, index, hindex, hgrowth, (Except.ok.inj h).symm⟩

theorem partitionsSize_modify {index : Nat} (h : index < table.partitions.length) (delta : Nat) :
    (table.modifyPartition index (growPartition delta)).partitionsSize =
      table.partitionsSize + delta := by
  obtain ⟨before, partition, after, hsplit, -, -, hmodify⟩ := modify_split h
  rw [partitionsSize, partitionsSize, modifyPartition, hmodify, hsplit]
  simp only [List.map_append, List.map_cons, List.sum_append, List.sum_cons,
    growPartition_size]
  omega

/-- A grown table is as large as its partitions together: as large as before, or as the goal. -/
theorem grow_size (h : (table.grow goal).result = .ok grown) :
    grown.size = grown.partitionsSize ∧
      grown.partitionsSize = max table.partitionsSize (alignUp goal Size.sector) := by
  rcases grow_eq_ok h with ⟨hle, rfl⟩ | ⟨hlt, index, hindex, -, rfl⟩
  · exact ⟨rfl, (Nat.max_eq_left hle).symm⟩
  · refine ⟨rfl, ?_⟩
    rw [Nat.max_eq_right (Nat.le_of_lt hlt)]
    refine (partitionsSize_modify hindex _).trans ?_
    exact Nat.add_sub_cancel' (Nat.le_of_lt hlt)

theorem Sufficient.partitionsSize_mod (h : table.Sufficient minimums) :
    table.partitionsSize % Size.sector = 0 := by
  refine Size.sum_mod fun size hsize => ?_
  obtain ⟨partition, hpartition, rfl⟩ := List.mem_map.1 hsize
  exact (h partition hpartition).sectors

/-- What is missing to a goal in whole sectors is whole sectors, for the partitions are. -/
theorem Sufficient.missing_mod (h : table.Sufficient minimums) (goal : Nat) :
    (alignUp goal Size.sector - table.partitionsSize) % Size.sector = 0 :=
  Nat.mod_eq_zero_of_dvd (Nat.dvd_sub
    (Nat.dvd_of_mod_eq_zero (alignUp_mod _ Size.sector_ne_zero))
    (Nat.dvd_of_mod_eq_zero h.partitionsSize_mod))

/-- Growing a sufficient table leaves it sufficient. -/
theorem Sufficient.grow (h : table.Sufficient minimums)
    (hgrown : (table.grow goal).result = .ok grown) : grown.Sufficient minimums := by
  rcases grow_eq_ok hgrown with ⟨-, rfl⟩ | ⟨-, index, hindex, -, rfl⟩
  · exact h
  · obtain ⟨before, partition, after, hsplit, -, -, hmodify⟩ := modify_split hindex
    have hmissing := h.missing_mod goal
    unfold Sufficient at h ⊢
    rw [hsplit, List.forall_mem_append, List.forall_mem_cons] at h
    change ∀ partition ∈ table.partitions.modify index _, _
    rw [hmodify, List.forall_mem_append, List.forall_mem_cons]
    exact ⟨h.1, growPartition_sufficient h.2.1 hmissing, h.2.2⟩

theorem grow_resembles (h : (table.grow goal).result = .ok grown) :
    table.Resembles (· ≤ ·) grown := by
  have hrefl : ∀ partitions : List Partition,
      List.Forall₂ (Partition.Resembles (· ≤ ·)) partitions partitions :=
    fun partitions => List.forall₂_same.2 fun partition _ => .refl Nat.le_refl partition
  rcases grow_eq_ok h with ⟨-, rfl⟩ | ⟨-, index, hindex, -, rfl⟩
  · exact ⟨.refl _, rfl, hrefl _⟩
  · refine ⟨.refl _, rfl, ?_⟩
    obtain ⟨before, partition, after, hsplit, -, -, hmodify⟩ := modify_split hindex
    change List.Forall₂ _ table.partitions (table.partitions.modify index _)
    -- Only the partition that grows differs, and the rest resembles itself.
    rw [hmodify, hsplit]
    exact List.rel_append (hrefl before) (.cons (growPartition_resembles _ partition) (hrefl after))

/-- Synchronizing a sufficient table leaves it sufficient. -/
theorem Sufficient.syncBtrfs (h : table.Sufficient minimums) :
    table.syncBtrfs.Sufficient minimums := by
  intro partition hpartition
  obtain ⟨old, hold, rfl⟩ := List.mem_map.1 hpartition
  exact syncPartition_sufficient (h old hold)

theorem Sufficient.resembles_syncBtrfs (h : table.Sufficient minimums) :
    table.Resembles (· ≤ ·) table.syncBtrfs := by
  refine ⟨.refl _, rfl, List.forall₂_map_right_iff.2 (List.forall₂_same.2 fun partition hmem => ?_)⟩
  exact syncPartition_resembles (h partition hmem)

theorem partitionsSize_syncBtrfs (table : PartitionTable) :
    table.syncBtrfs.partitionsSize = table.partitionsSize := by
  unfold partitionsSize syncBtrfs
  rw [List.map_map]
  rfl

/-- Settling a table succeeds exactly if the resized table can grow. -/
theorem settle_eq_ok {settled : PartitionTable} :
    (table.settle minimums goal).result = .ok settled ↔
      ∃ grown, ((table.resize minimums).grow goal).result = .ok grown ∧
        settled = grown.syncBtrfs := by
  unfold settle
  simp only [Logged.result_bind, Logged.result_notes, ok_bind, bind_eq_ok, Logged.result_pure,
    Except.ok.injEq]
  exact exists_congr fun grown => and_congr_right fun _ => eq_comm

/-- Settling a table fails exactly if the resized table cannot grow. -/
theorem settle_eq_error {error : LayoutError} :
    (table.settle minimums goal).result = .error error ↔
      ((table.resize minimums).grow goal).result = .error error := by
  unfold settle
  simp only [Logged.result_bind, Logged.result_notes, ok_bind, bind_eq_error, Logged.result_pure,
    reduceCtorEq, and_false, exists_false, or_false]

/-- Growing fails exactly for a table without partitions that is to have a size. -/
theorem grow_eq_error_iff {error : LayoutError} :
    (table.grow goal).result = .error error ↔
      table.partitions = [] ∧ 0 < goal ∧
        error = .invalidTable "partition table has no partition to grow" := by
  rcases grow_cases table goal with
    ⟨hle, hok⟩ | ⟨hlt, hempty, herror⟩ | ⟨hlt, index, hindex, -, hok⟩
  · rw [hok]
    simp only [reduceCtorEq, false_iff]
    rintro ⟨hempty, hpos, -⟩
    rw [partitionsSize, hempty] at hle
    exact absurd (Nat.le_trans (le_alignUp goal Size.sector) hle) (Nat.not_le.2 hpos)
  · have hpos : 0 < goal := by
      rw [partitionsSize, hempty] at hlt
      exact Nat.pos_of_ne_zero fun hzero => absurd hlt (by simp [hzero, alignUp])
    rw [herror]
    simp only [Except.error.injEq, hempty, hpos, true_and, eq_comm]
  · rw [hok]
    simp only [reduceCtorEq, false_iff]
    rintro ⟨hempty, -⟩
    rw [hempty] at hindex
    exact absurd hindex (Nat.not_lt_zero index)

end PartitionTable

end DiskLayout
