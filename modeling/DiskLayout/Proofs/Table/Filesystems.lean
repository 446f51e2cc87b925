import DiskLayout.Proofs.Table.Content
import DiskLayout.Proofs.Table.Resemblance

/-!
# The filesystems at a mountpoint

A mountpoint of a table belongs to a filesystem or to a subvolume.  The filesystems that are mounted
at a path are read off the nodes of the table, in order, and split along its partitions.  An edit of
a table puts new ones in between; a table that resembles another one has the same ones.

## Main definitions

* `PartitionTable.filesystemsAt` — the filesystems of a table that are mounted at a path
* `Inserts` — a list with others put in somewhere

## Main results

* `PartitionTable.mem_filesystemsAt` — they are the nodes of the table
* `PartitionTable.filesystemsAt_eq`, `PartitionTable.filesystemsAt_split` — the list along the
  partitions
* `PartitionTable.filesystemsAt_eq_singleton` — where mountpoints are distinct
* `PartitionTable.Resembles.filesystemsAt_rel` — tables that resemble each other
-/

namespace DiskLayout

/-- The filesystem that a node is, if it is mounted at a path. -/
def Node.filesystemAt? (mountpoint : String) : Node → Option Filesystem
  | .filesystem system => if system.mountpoint = mountpoint then some system else none
  | _ => none

/-- The filesystems of a payload that are mounted at a path, in the order of its nodes. -/
def Payload.filesystemsAt (mountpoint : String) (payload : Payload) : List Filesystem :=
  payload.nodes.filterMap (Node.filesystemAt? mountpoint)

/-- The filesystems of a partition that are mounted at a path, in the order of its nodes. -/
def Partition.filesystemsAt (mountpoint : String) (partition : Partition) : List Filesystem :=
  partition.payload.toList.flatMap (Payload.filesystemsAt mountpoint)

/-- The filesystems of a table that are mounted at a path, in the order of its nodes. -/
def PartitionTable.filesystemsAt (mountpoint : String) (table : PartitionTable) :
    List Filesystem :=
  table.nodes.filterMap (Node.filesystemAt? mountpoint)

variable {mountpoint : String}

theorem Node.filesystemAt?_eq_some {node : Node} {system : Filesystem} :
    node.filesystemAt? mountpoint = some system ↔
      node = .filesystem system ∧ system.mountpoint = mountpoint := by
  cases node with
  | filesystem mounted =>
    simp only [filesystemAt?, Option.ite_none_right_eq_some, Option.some.injEq,
      Node.filesystem.injEq]
    constructor
    · rintro ⟨hmounted, rfl⟩
      exact ⟨rfl, hmounted⟩
    · rintro ⟨rfl, hmounted⟩
      exact ⟨hmounted, rfl⟩
  | _ => simp [filesystemAt?]

/-! ### Payloads and partitions -/

@[simp] theorem Payload.filesystemsAt_filesystem (system : Filesystem) :
    (Payload.filesystem system).filesystemsAt mountpoint =
      if system.mountpoint = mountpoint then [system] else [] := by
  rw [filesystemsAt, nodes_filesystem]
  by_cases hmounted : system.mountpoint = mountpoint <;> simp [Node.filesystemAt?, hmounted]

@[simp] theorem Payload.filesystemsAt_volumeGroup (group : VolumeGroup) :
    (Payload.volumeGroup group).filesystemsAt mountpoint =
      group.logicalVolumes.flatMap fun volume =>
        volume.payload.toList.flatMap (Payload.filesystemsAt mountpoint) := by
  rw [filesystemsAt, nodes_volumeGroup, List.filterMap_cons]
  simp only [Node.filesystemAt?, List.filterMap_flatMap, LogicalVolume.nodes, List.filterMap_cons]
  rfl

@[simp] theorem Payload.filesystemsAt_btrfs (volume : Btrfs) :
    (Payload.btrfs volume).filesystemsAt mountpoint = [] := by
  rw [filesystemsAt, nodes_btrfs, List.filterMap_cons, List.filterMap_map]
  exact List.filterMap_eq_nil_iff.2 fun _ _ => rfl

@[simp] theorem Payload.filesystemsAt_luks (container : Luks) :
    (Payload.luks container).filesystemsAt mountpoint =
      container.payload.filesystemsAt mountpoint := by
  rw [filesystemsAt, nodes_luks, List.filterMap_cons]
  rfl

theorem Payload.filesystemsAt_content (payload : Payload) :
    payload.content.filesystemsAt mountpoint = payload.filesystemsAt mountpoint := by
  cases payload with
  | luks container => exact (filesystemsAt_luks container).symm
  | _ => rfl

namespace Partition

variable {partition : Partition} {inner : Payload}

theorem filesystemsAt_of_payload (h : partition.payload = some inner) :
    partition.filesystemsAt mountpoint = inner.filesystemsAt mountpoint := by
  simp [filesystemsAt, h]

/-- A partition has the filesystems of its content. -/
theorem filesystemsAt_of_content? (h : partition.content? = some inner) :
    partition.filesystemsAt mountpoint = inner.filesystemsAt mountpoint := by
  obtain ⟨payload, hpayload, rfl⟩ := Option.map_eq_some_iff.1 h
  rw [filesystemsAt_of_payload hpayload, Payload.filesystemsAt_content]

theorem filesystemsAt_replace (h : partition.content? = some inner) (new : Payload) :
    (partition.mapContent fun _ => new).filesystemsAt mountpoint =
      new.filesystemsAt mountpoint := by
  rcases content?_eq_some.1 h with ⟨hpayload, hluks⟩ | ⟨container, hpayload, rfl⟩
  · rw [mapContent_of_payload hpayload hluks, filesystemsAt_of_payload rfl]
  · rw [mapContent_of_luks hpayload, filesystemsAt_of_payload rfl, Payload.filesystemsAt_luks]

end Partition

/-! ### Tables -/

namespace PartitionTable

variable {table : PartitionTable}

theorem mem_filesystemsAt {system : Filesystem} :
    system ∈ table.filesystemsAt mountpoint ↔
      Node.filesystem system ∈ table.nodes ∧ system.mountpoint = mountpoint := by
  simp [filesystemsAt, List.mem_filterMap, Node.filesystemAt?_eq_some]

/-- The filesystems of a table are those of its partitions, in order. -/
theorem filesystemsAt_eq (mountpoint : String) (table : PartitionTable) :
    table.filesystemsAt mountpoint =
      table.partitions.flatMap (Partition.filesystemsAt mountpoint) := by
  have hnodes : ∀ (index : Nat) (partition : Partition),
      (partition.nodes index).filterMap (Node.filesystemAt? mountpoint) =
        partition.filesystemsAt mountpoint := by
    intro index partition
    rw [Partition.nodes, List.filterMap_cons, List.filterMap_flatMap]
    rfl
  rw [filesystemsAt, nodes_eq, List.filterMap_flatMap]
  -- The positions that the nodes of partitions carry do not matter.
  simp only [hnodes]
  rw [← List.flatMap_map Prod.fst (Partition.filesystemsAt mountpoint), List.zipIdx_map_fst]

theorem filesystemsAt_split {before after : List Partition} {partition : Partition}
    (hsplit : table.partitions = before ++ partition :: after) :
    table.filesystemsAt mountpoint =
      before.flatMap (Partition.filesystemsAt mountpoint) ++
        (partition.filesystemsAt mountpoint ++
          after.flatMap (Partition.filesystemsAt mountpoint)) := by
  rw [filesystemsAt_eq, hsplit, List.flatMap_append, List.flatMap_cons]

/-- No filesystem is mounted at a path at which nothing is. -/
theorem filesystemsAt_eq_nil (h : mountpoint ∉ table.mountpoints) :
    table.filesystemsAt mountpoint = [] := by
  refine List.eq_nil_iff_forall_not_mem.2 fun system hsystem => h ?_
  obtain ⟨hnode, rfl⟩ := mem_filesystemsAt.1 hsystem
  obtain ⟨visit, hvisit, hvisited⟩ := List.mem_map.1 hnode
  exact List.mem_filterMap.2 ⟨visit, hvisit, by rw [hvisited]; rfl⟩

/-- At a path there are no more filesystems than the path is mounted. -/
theorem length_filesystemsAt_le (mountpoint : String) (table : PartitionTable) :
    (table.filesystemsAt mountpoint).length ≤ table.mountpoints.count mountpoint := by
  have hmounted : table.mountpoints = table.nodes.filterMap Node.mountpoint? := by
    rw [mountpoints, nodes, List.filterMap_map]
    rfl
  rw [hmounted, filesystemsAt]
  induction table.nodes with
  | nil => exact Nat.le_refl _
  | cons node others ih =>
    rw [List.filterMap_cons, List.filterMap_cons]
    cases hnode : node.filesystemAt? mountpoint with
    | none =>
      cases node.mountpoint? with
      | none => exact ih
      | some other => exact Nat.le_trans ih List.count_le_count_cons
    | some system =>
      obtain ⟨rfl, rfl⟩ := Node.filesystemAt?_eq_some.1 hnode
      simpa [Node.mountpoint?] using ih

/-- Where mountpoints are distinct, a filesystem is the only one at its path. -/
theorem filesystemsAt_eq_singleton (hdistinct : table.mountpoints.Nodup) {system : Filesystem}
    (h : system ∈ table.filesystemsAt mountpoint) :
    table.filesystemsAt mountpoint = [system] := by
  have hone : (table.filesystemsAt mountpoint).length ≤ 1 :=
    Nat.le_trans (table.length_filesystemsAt_le mountpoint)
      (List.nodup_iff_count.1 hdistinct mountpoint)
  obtain ⟨before, after, hsplit⟩ := List.append_of_mem h
  rw [hsplit, List.length_append, List.length_cons] at hone
  obtain rfl := List.eq_nil_of_length_eq_zero (by omega : before.length = 0)
  obtain rfl := List.eq_nil_of_length_eq_zero (by omega : after.length = 0)
  exact hsplit

/-- Tables that resemble each other have the same filesystems at a path. -/
theorem Resembles.filesystemsAt_rel {sizes : Nat → Nat → Prop} {old new : PartitionTable}
    (h : old.Resembles sizes new) (mountpoint : String) :
    List.Forall₂ Filesystem.Alike (old.filesystemsAt mountpoint)
      (new.filesystemsAt mountpoint) := by
  refine List.rel_filterMap (fun first second hnode => ?_) (nodes_resemble h)
  cases hnode with
  | @filesystem before after halike =>
    by_cases hmounted : before.mountpoint = mountpoint
    · rw [Node.filesystemAt?_eq_some.2 ⟨rfl, hmounted⟩,
        Node.filesystemAt?_eq_some.2 ⟨rfl, halike.mountpoint.trans hmounted⟩]
      exact .some halike
    · simp [Node.filesystemAt?, halike.mountpoint, hmounted]
  | _ => exact .none

theorem Resembles.filesystemsAt_eq_singleton {sizes : Nat → Nat → Prop}
    {old new : PartitionTable} (h : old.Resembles sizes new) {system : Filesystem}
    (hsystem : old.filesystemsAt mountpoint = [system]) :
    ∃ kept, new.filesystemsAt mountpoint = [kept] ∧ system.Alike kept := by
  have hkept := h.filesystemsAt_rel mountpoint
  rw [hsystem] at hkept
  obtain ⟨kept, _, halike, hnil, hnew⟩ := List.forall₂_cons_left_iff.1 hkept
  obtain rfl := List.forall₂_nil_left_iff.1 hnil
  exact ⟨kept, hnew, halike⟩

end PartitionTable

/-! ### Insertion -/

/-- A list with others put in somewhere. -/
def Inserts {α : Type} (added old new : List α) : Prop :=
  ∃ before after, old = before ++ after ∧ new = before ++ (added ++ after)

section Inserts

variable {α : Type} {added old new : List α}

theorem Inserts.eq_of_nil (h : Inserts [] old new) : new = old := by
  obtain ⟨before, after, rfl, rfl⟩ := h
  rfl

theorem Inserts.eq_added (h : Inserts added [] new) : new = added := by
  obtain ⟨before, after, hnil, rfl⟩ := h
  obtain ⟨rfl, rfl⟩ := List.append_eq_nil_iff.1 hnil.symm
  exact List.append_nil added

end Inserts

end DiskLayout
