import DiskLayout.Proofs.Allocation.Assembly
import DiskLayout.Proofs.Allocation.TotalSize

/-!
# The mountpoints of built tables

A built table mounts what its base mounts and what is requested, each once, and `/boot` where the
root filesystem had to be converted.  What is new lies where the partitioning mode puts it: the
steps of assembly place it there, and settling displaces nothing.

## Main definitions

* `PartitionTable.MountsBeside` — a mountpoint in a partition beside those of a base

## Main results

* `built_mountpoints` — the mountpoints of a built table
-/

namespace DiskLayout

/-! ### Lists inside of lists -/

section Sublists

variable {α β : Type} {related : α → β → Prop}

theorem sublistForall₂_of_sublist {items olds : List α} {news : List β}
    (hsublist : items.Sublist olds) (h : List.Forall₂ related olds news) :
    List.SublistForall₂ related items news := by
  induction hsublist generalizing news with
  | slnil => exact .nil
  | cons _ _ ih =>
    cases h with
    | cons _ hothers => exact .cons_right (ih hothers)
  | cons_cons _ _ ih =>
    cases h with
    | cons hfirst hothers => exact .cons hfirst (ih hothers)

/-- An item that nothing is related to can be left out. -/
theorem sublistForall₂_remove {items : List α} {before after : List β} {item : β}
    (h : List.SublistForall₂ related items (before ++ item :: after))
    (hunrelated : ∀ other ∈ items, ¬ related other item) :
    List.SublistForall₂ related items (before ++ after) := by
  induction before generalizing items with
  | nil =>
    cases h with
    | nil => exact .nil
    | cons hfirst _ => exact absurd hfirst (hunrelated _ List.mem_cons_self)
    | cons_right h => exact h
  | cons first others ih =>
    cases h with
    | nil => exact .nil
    | cons hfirst h =>
      exact .cons hfirst (ih h fun other hother => hunrelated other (List.mem_cons_of_mem _ hother))
    | cons_right h => exact .cons_right (ih h hunrelated)

end Sublists

/-! ### The built table -/

/-- Whether a mountpoint lies as a filesystem directly in a partition, with all partitions of a
base beside it. -/
def PartitionTable.MountsBeside (table base : PartitionTable) (mountpoint : String) : Prop :=
  ∃ before new after system, table.partitions = before ++ new :: after ∧
    new.payload = some (.filesystem system) ∧ system.mountpoint = mountpoint ∧
    List.SublistForall₂ (Partition.Resembles (· ≤ ·)) base.partitions (before ++ after)

theorem PartitionTable.MountsAt.mountsBeside {table base : PartitionTable} {mountpoint : String}
    (h : table.MountsAt mountpoint .partition) (hnew : mountpoint ∉ base.mountpoints)
    (hbase : List.SublistForall₂ (Partition.Resembles (· ≤ ·)) base.partitions table.partitions) :
    table.MountsBeside base mountpoint := by
  obtain ⟨new, hmem, system, hpayload, rfl⟩ := h
  obtain ⟨before, after, hsplit⟩ := List.append_of_mem hmem
  -- The partition comes from none of the base, for none of those mounts the mountpoint.
  rw [hsplit] at hbase
  refine ⟨before, new, after, system, hsplit, hpayload, rfl,
    sublistForall₂_remove hbase fun old hold hresembles => hnew ?_⟩
  rw [mountpoints_eq]
  refine List.mem_flatMap.2 ⟨old, hold, ?_⟩
  rw [← hresembles.mountpoints_eq, Partition.mountpoints_of_filesystem hpayload]
  exact List.mem_singleton_self _

/-- A built table mounts, each once, what its base mounts, what is requested, and `/boot` exactly
if the root filesystem is converted.  Every new mountpoint lies where the partitioning mode puts
it, and in plain partitions beside all that the base has. -/
theorem built_mountpoints {base result : PartitionTable} {requests : List FilesystemRequest}
    {goal : Nat} {options : BuildOptions} {source : RandomSource}
    (h : (build base requests goal options source).1.result = .ok result) :
    result.mountpoints.Nodup ∧
    (∀ mountpoint, mountpoint ∈ result.mountpoints ↔
      mountpoint ∈ base.mountpoints ∨ (∃ request ∈ requests, request.mountpoint = mountpoint) ∨
        (mountpoint = Path.boot ∧
          options.mode.ConvertsRoot (anyContained base requests) base)) ∧
    ∀ request ∈ requests, request.mountpoint ∉ base.mountpoints →
      result.MountsAt request.mountpoint (options.mode.placeOf request.mountpoint) ∧
        (options.mode = .raw → result.MountsBeside base request.mountpoint) := by
  obtain ⟨table, minimums, hassemble, hfinished, hvalid⟩ := build_eq_ok h
  have hresembles := hfinished.resembles
  have hmem : ∀ mountpoint, mountpoint ∈ result.mountpoints ↔
      mountpoint ∈ base.mountpoints ∨ (∃ request ∈ requests, request.mountpoint = mountpoint) ∨
        (mountpoint = Path.boot ∧
          options.mode.ConvertsRoot (anyContained base requests) base) := by
    rw [hresembles.mountpoints_eq]
    exact assembled_mountpoints hassemble
  refine ⟨(PartitionTable.wellStructured_of_validate hvalid).mountpoints_distinct, hmem,
    fun request hrequest hnew => ?_⟩
  have hmounted : request.mountpoint ∈ table.mountpoints :=
    (assembled_mountpoints hassemble _).2 (.inr (.inl ⟨request, hrequest, rfl⟩))
  have hplaced := hresembles.mountsAt (assembled_placed hassemble _ hmounted hnew)
  refine ⟨hplaced, fun hraw => ?_⟩
  rw [hraw, PartitionTable.placeOf_raw] at hplaced
  exact hplaced.mountsBeside hnew
    (sublistForall₂_of_sublist (assembled_sublist hraw hassemble) hresembles.partitions)

theorem built_mountpoints_rootDisk :
    ∃ result, (build .rootDisk [.new "/var" 5] 1 .standard ⟨fun _ => 0, 0⟩).1.result = .ok result ∧
      result.MountsAt "/var" .logicalVolume := by
  obtain ⟨result, h⟩ : ∃ result,
      (build .rootDisk [.new "/var" 5] 1 .standard ⟨fun _ => 0, 0⟩).1.result = .ok result :=
    ⟨_, rfl⟩
  obtain ⟨-, -, hplaced⟩ := built_mountpoints h
  exact ⟨result, h, (hplaced (.new "/var" 5) List.mem_cons_self (by decide)).1⟩

end DiskLayout
