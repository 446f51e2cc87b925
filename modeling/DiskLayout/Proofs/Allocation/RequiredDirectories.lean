import DiskLayout.Proofs.Allocation.Charges
import DiskLayout.Proofs.Allocation.Refusals
import DiskLayout.Proofs.Table.Validity

/-!
# Directories that no mountpoint holds

The sizes that a profile states for directories are charged to the mountpoints that hold them.  A
table that mounts the root holds every absolute directory, so none of those sizes is lost.  The
check of a profile asks for canonical directories only, unlike the check of mountpoints and the one
of a policy, which ask for absolute paths as well: the size of a relative directory passes the
check and is charged to nothing.

## Main results

* `PartitionTable.ValidStructure.contains_iff_isAbsolute` — the directories that a table holds
* `size_le_chargedTo` — the charge to the holder of a directory covers what the directory needs
* `ImageProfile.requiredSizes_held_iff` — the sizes of a valid profile that count in its table
-/

namespace DiskLayout

/-! ### The directories that a table holds -/

/-- Where the root is mounted, some mountpoint contains a directory exactly if it is absolute. -/
theorem PartitionTable.ValidStructure.contains_iff_isAbsolute {table : PartitionTable}
    (h : table.ValidStructure) (hroot : Path.root ∈ table.mountpoints) (directory : String) :
    (∃ mountpoint ∈ table.mountpoints, Path.hasBase directory mountpoint = true) ↔
      Path.isAbsolute directory = true := by
  constructor
  · rintro ⟨mountpoint, hmem, hbase⟩
    exact Path.isAbsolute_of_hasBase hbase (h.mountpoints_valid mountpoint hmem).1
  · intro habsolute
    exact ⟨Path.root, hroot, (Path.hasBase_root directory).trans habsolute⟩

/-- What a directory needs is part of the charge to the mountpoint that holds it. -/
theorem size_le_chargedTo {mountpoints : List String} {required : TextMap Nat}
    {entry : String × Nat} {mountpoint : String} (hmem : entry ∈ required.entries)
    (h : IsHolder mountpoints entry.1 mountpoint) :
    entry.2 ≤ chargedTo mountpoints required mountpoint := by
  have hheld : entry.2 ∈ (required.entries.filter fun entry =>
      IsHolder mountpoints entry.1 mountpoint).map Prod.snd :=
    List.mem_map_of_mem (List.mem_filter.2 ⟨hmem, decide_eq_true h⟩)
  exact List.le_sum_of_mem hheld

/-! ### The directories of a profile -/

namespace ImageProfile

variable {profile : ImageProfile} {customizations : Customizations} {source : RandomSource}
  {table : PartitionTable}

/-- A valid profile states sizes for canonical directories, and where its table mounts the root, a
mountpoint contains one of them exactly if it is absolute.  Each absolute directory then has one
mountpoint that holds it, and its size is part of the charge there; the charges to all mountpoints
add up to what the absolute directories need, and the table has the space that is charged. -/
theorem requiredSizes_held_iff (hprofile : profile.validate.result = .ok ())
    (hpartitioning : customizations.partitioning = none)
    (h : (profile.buildTable customizations source).1.result = .ok table)
    (hroot : Path.root ∈ table.mountpoints) :
    (∀ directory ∈ profile.requiredSizes.keys, Path.isCanonical directory = true ∧
      ((∃ mountpoint ∈ table.mountpoints, Path.hasBase directory mountpoint = true) ↔
        Path.isAbsolute directory = true)) ∧
    (∀ entry ∈ profile.requiredSizes.entries, Path.isAbsolute entry.1 = true →
      ∃! mountpoint, IsHolder table.mountpoints entry.1 mountpoint ∧
        entry.2 ≤ chargedTo table.mountpoints profile.requiredSizes mountpoint) ∧
    (table.mountpoints.map (chargedTo table.mountpoints profile.requiredSizes)).sum =
      ((profile.requiredSizes.entries.filter fun entry =>
        Path.isAbsolute entry.1).map Prod.snd).sum ∧
    ∃ minimums, table.Sufficient minimums ∧ ∀ mountpoint,
      chargedTo table.mountpoints profile.requiredSizes mountpoint ≤
        (minimums.get? mountpoint).getD 0 := by
  simp only [buildTable, hpartitioning] at h
  obtain ⟨-, hbuilt⟩ := mergeTable_eq_ok h
  obtain ⟨assembled, minimums, hassemble, hfinished, hvalid⟩ := build_eq_ok hbuilt
  have hstructure := PartitionTable.validateStructure_ok_iff.1
    (PartitionTable.validateStructure_of_validate hvalid)
  have hcontains := hstructure.contains_iff_isAbsolute hroot
  obtain ⟨-, hcanonical, -⟩ := validate_eq_ok.1 hprofile
  refine ⟨fun directory hmem => ⟨hcanonical directory hmem, hcontains directory⟩, ?_, ?_,
    minimums, hfinished.sufficient, fun mountpoint => ?_⟩
  · intro entry hmem habsolute
    obtain ⟨mountpoint, hmounted, hbase⟩ := (hcontains entry.1).2 habsolute
    obtain ⟨holder, -, hholder⟩ := exists_isHolder hmounted hbase
    exact ⟨holder, ⟨hholder, size_le_chargedTo hmem hholder⟩, fun other hother =>
      hother.1.unique hholder⟩
  · rw [sum_chargedTo hstructure.mountpoints_distinct]
    have hheld : ∀ entry ∈ profile.requiredSizes.entries,
        table.mountpoints.any (Path.hasBase entry.1) = Path.isAbsolute entry.1 := by
      intro entry _
      rw [Bool.eq_iff_iff, List.any_eq_true]
      exact hcontains entry.1
    rw [List.filter_congr hheld]
  · -- The minimums are those of the assembled table, which mounts the same.
    obtain ⟨rfl, -⟩ := assemble_eq_ok hassemble
    rw [hfinished.resembles.mountpoints_eq]
    change chargedTo _ ((some profile.requiredSizes).getD defaultRequiredSizes) _ ≤ _
    exact Minimums.chargedTo_le_ofTable mountpoint

/-- A profile of a disk with nothing but a root filesystem, and ten gibibytes for one directory. -/
def needing (directory : String) : ImageProfile :=
  { ofBase .rootDisk with requiredSizes := .ofList [(directory, 10 * Size.gibibyte)] }

theorem requiredSizes_held_iff_needing :
    ∃ table, ((needing "/var").buildTable .nothing ⟨fun _ => 0, 0⟩).1.result = .ok table ∧
      ∃ minimums, table.Sufficient minimums ∧
        10 * Size.gibibyte ≤ (minimums.get? Path.root).getD 0 := by
  refine ⟨_, rfl, ?_⟩
  obtain ⟨-, hheld, -, minimums, hsufficient, hcharged⟩ :=
    @requiredSizes_held_iff (needing "/var") .nothing ⟨fun _ => 0, 0⟩ _ rfl rfl rfl (by decide)
  obtain ⟨holder, ⟨hholder, hsize⟩, -⟩ := hheld _ (List.mem_singleton_self _) (by decide)
  obtain rfl : holder = Path.root := List.mem_singleton.1 hholder.1
  exact ⟨minimums, hsufficient, Nat.le_trans hsize (hcharged Path.root)⟩

/-- The check of a profile lets a relative directory pass.  A table that mounts the root is built,
but no mountpoint contains the directory, and the table is smaller than the directory needs. -/
theorem requiredSizes_lost_needing :
    (needing "var").validate.result = .ok () ∧ "var" ∈ (needing "var").requiredSizes.keys ∧
      ∃ table, ((needing "var").buildTable .nothing ⟨fun _ => 0, 0⟩).1.result = .ok table ∧
        Path.root ∈ table.mountpoints ∧
        (∀ mountpoint ∈ table.mountpoints, Path.hasBase "var" mountpoint = false) ∧
        table.size < 10 * Size.gibibyte :=
  ⟨rfl, by decide, _, rfl, by decide, by decide, by decide⟩

end ImageProfile

end DiskLayout
