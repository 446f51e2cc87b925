import DiskLayout.Proofs.Size.Alignment
import DiskLayout.Proofs.Table.Validity
import Mathlib.Order.CompletePartialOrder
import Mathlib.Order.Interval.Set.Disjoint

/-!
# The ranges of partitions

Where a partition starts is not recorded in a table: it follows from the header of the disk and the
sizes of the partitions before it.  The ranges of bytes that partitions occupy therefore follow one
another without gaps, whatever the table says about its own size.  The check of the structure adds
that they are whole sectors and end before the footer of the disk.

## Main definitions

* `PartitionTable.boundary` — where the partitions before a position end
* `PartitionTable.Occupies` — the range of bytes of a partition
* `PartitionTable.LaidOut` — ranges in order, apart from each other, in whole sectors and between
  header and footer
* `PartitionTable.Gapless` — ranges that fill the space between header and footer

## Main results

* `PartitionTable.occupies_iff` — a partition lies between two boundaries in a row
* `PartitionTable.ValidStructure.laidOut` — the partitions of a valid table are laid out
* `PartitionTable.gapless_of_size_eq` — those of a table of the exact size leave no gap
-/

namespace DiskLayout

namespace PartitionTable

variable {table : PartitionTable} {index offset start stop : Nat}

/-! ### Boundaries -/

/-- Where the partitions before a position end: behind the header and all of them. -/
def boundary (table : PartitionTable) (index : Nat) : Nat :=
  Size.header + ((table.partitions.map Partition.size).take index).sum

theorem startOffset?_eq_some :
    table.startOffset? index = some offset ↔
      index < table.partitions.length ∧ offset = table.boundary index := by
  unfold startOffset? boundary
  rw [List.map_take]
  by_cases hlt : index < table.partitions.length
  · rw [if_pos hlt, Option.some.injEq, eq_comm]
    exact (and_iff_right hlt).symm
  · rw [if_neg hlt]
    exact iff_of_false (by simp) fun h => hlt h.1

theorem boundary_zero (table : PartitionTable) : table.boundary 0 = Size.header := rfl

theorem boundary_length (table : PartitionTable) :
    table.boundary table.partitions.length = Size.header + table.partitionsSize := by
  unfold boundary partitionsSize
  rw [List.take_of_length_le (Nat.le_of_eq (List.length_map _))]

theorem boundary_succ {partition : Partition} (h : table.partitions[index]? = some partition) :
    table.boundary (index + 1) = table.boundary index + partition.size := by
  obtain ⟨hlt, rfl⟩ := List.getElem?_eq_some_iff.1 h
  unfold boundary
  rw [List.sum_take_succ _ index (by rwa [List.length_map]), List.getElem_map, Nat.add_assoc]

theorem boundary_mono (table : PartitionTable) {first second : Nat} (h : first ≤ second) :
    table.boundary first ≤ table.boundary second :=
  Nat.add_le_add_left (List.monotone_sum_take _ h) _

/-- Partitions of whole units have boundaries on whole units. -/
theorem dvd_boundary {unit : Nat} (hheader : unit ∣ Size.header)
    (hsizes : ∀ partition ∈ table.partitions.take index, unit ∣ partition.size) :
    unit ∣ table.boundary index := by
  refine Nat.dvd_add hheader (List.dvd_sum ?_)
  rwa [← List.map_take, List.forall_mem_map]

/-! ### Ranges -/

/-- The partition at a position occupies the bytes from `start` up to, and without, `stop`. -/
def Occupies (table : PartitionTable) (index start stop : Nat) : Prop :=
  ∃ partition, table.partitions[index]? = some partition ∧
    table.startOffset? index = some start ∧ stop = start + partition.size

/-- A partition lies between two boundaries in a row. -/
theorem occupies_iff :
    table.Occupies index start stop ↔
      index < table.partitions.length ∧
        start = table.boundary index ∧ stop = table.boundary (index + 1) := by
  unfold Occupies
  simp only [startOffset?_eq_some]
  constructor
  · rintro ⟨partition, hpartition, ⟨hlt, rfl⟩, rfl⟩
    exact ⟨hlt, rfl, (boundary_succ hpartition).symm⟩
  · rintro ⟨hlt, rfl, rfl⟩
    have hpartition := List.getElem?_eq_getElem hlt
    exact ⟨_, hpartition, ⟨hlt, rfl⟩, boundary_succ hpartition⟩

/-- A partition ends before a later one starts. -/
theorem Occupies.le_of_lt {later start' stop' : Nat} (h : table.Occupies index start stop)
    (hlater : table.Occupies later start' stop') (hlt : index < later) : stop ≤ start' := by
  obtain ⟨-, -, rfl⟩ := occupies_iff.1 h
  obtain ⟨-, rfl, -⟩ := occupies_iff.1 hlater
  exact table.boundary_mono hlt

theorem disjoint_Ico_of_le {start' stop' : Nat} (h : stop ≤ start') :
    Disjoint (Set.Ico start stop) (Set.Ico start' stop') := by
  rw [Set.Ico_disjoint_Ico]
  exact Nat.le_trans (Nat.min_le_left _ _) (Nat.le_trans h (Nat.le_max_right _ _))

/-- Different partitions have no byte in common. -/
theorem Occupies.disjoint {other start' stop' : Nat} (h : table.Occupies index start stop)
    (hother : table.Occupies other start' stop') (hne : index ≠ other) :
    Disjoint (Set.Ico start stop) (Set.Ico start' stop') := by
  rcases Nat.lt_or_gt_of_ne hne with hlt | hgt
  · exact disjoint_Ico_of_le (h.le_of_lt hother hlt)
  · exact (disjoint_Ico_of_le (hother.le_of_lt h hgt)).symm

/-- The partitions of a table lie on the disk in the order of the table: each has a range of whole
sectors between header and footer, and no two ranges have a byte in common. -/
structure LaidOut (table : PartitionTable) : Prop where
  exists_range : ∀ index < table.partitions.length, ∃ start stop, table.Occupies index start stop
  sectors : ∀ index start stop, table.Occupies index start stop →
    Size.sector ∣ start ∧ Size.sector ∣ stop
  between : ∀ index start stop, table.Occupies index start stop →
    Size.header ≤ start ∧ start ≤ stop ∧ stop ≤ table.imageSize - Size.footer
  ordered : ∀ first second start stop start' stop', first < second →
    table.Occupies first start stop → table.Occupies second start' stop' → stop ≤ start'
  disjoint : ∀ first second start stop start' stop', first ≠ second →
    table.Occupies first start stop → table.Occupies second start' stop' →
    Disjoint (Set.Ico start stop) (Set.Ico start' stop')

/-- The partitions of a table fill the space between header and footer without gaps. -/
structure Gapless (table : PartitionTable) : Prop where
  first_start : ∀ start stop, table.Occupies 0 start stop → start = Size.header
  next_start : ∀ index start stop start' stop', table.Occupies index start stop →
    table.Occupies (index + 1) start' stop' → start' = stop
  last_stop : ∀ index start stop, index + 1 = table.partitions.length →
    table.Occupies index start stop → stop = table.imageSize - Size.footer

theorem imageSize_sub_footer (table : PartitionTable) :
    table.imageSize - Size.footer = Size.header + table.size :=
  Nat.add_sub_cancel _ _

/-- Partitions of whole sectors that fit the size of their table are laid out. -/
theorem laidOut_of_le (hsectors : ∀ partition ∈ table.partitions, Size.sector ∣ partition.size)
    (hfit : table.partitionsSize ≤ table.size) : table.LaidOut := by
  have hboundary : ∀ index, Size.sector ∣ table.boundary index := fun index =>
    dvd_boundary (by decide) fun partition hmem => hsectors partition (List.mem_of_mem_take hmem)
  refine ⟨fun index hlt => ⟨_, _, occupies_iff.2 ⟨hlt, rfl, rfl⟩⟩, ?_, ?_, ?_, ?_⟩
  · intro index start stop h
    obtain ⟨-, rfl, rfl⟩ := occupies_iff.1 h
    exact ⟨hboundary _, hboundary _⟩
  · intro index start stop h
    obtain ⟨hlt, rfl, rfl⟩ := occupies_iff.1 h
    refine ⟨Nat.le_add_right _ _, table.boundary_mono (Nat.le_succ index), ?_⟩
    calc table.boundary (index + 1)
      _ ≤ table.boundary table.partitions.length := table.boundary_mono hlt
      _ = Size.header + table.partitionsSize := table.boundary_length
      _ ≤ Size.header + table.size := Nat.add_le_add_left hfit _
      _ = table.imageSize - Size.footer := table.imageSize_sub_footer.symm
  · intro first second start stop start' stop' hlt hfirst hsecond
    exact hfirst.le_of_lt hsecond hlt
  · intro first second start stop start' stop' hne hfirst hsecond
    exact hfirst.disjoint hsecond hne

/-- The partitions of a valid table that has a size are laid out. -/
theorem ValidStructure.laidOut (h : table.ValidStructure) (hsize : table.size ≠ 0) :
    table.LaidOut :=
  laidOut_of_le h.whole_sectors (h.partitions_fit.resolve_left hsize)

/-- The partitions of a table that is exactly as large as they are together leave no gap. -/
theorem gapless_of_size_eq (hsize : table.size = table.partitionsSize) : table.Gapless := by
  refine ⟨?_, ?_, ?_⟩
  · intro start stop h
    obtain ⟨-, rfl, -⟩ := occupies_iff.1 h
    exact table.boundary_zero
  · intro index start stop start' stop' h hnext
    obtain ⟨-, -, rfl⟩ := occupies_iff.1 h
    obtain ⟨-, rfl, -⟩ := occupies_iff.1 hnext
    rfl
  · intro index start stop hlast h
    obtain ⟨-, -, rfl⟩ := occupies_iff.1 h
    rw [hlast, boundary_length, imageSize_sub_footer, hsize]

end PartitionTable

end DiskLayout
