import DiskLayout.Proofs.Allocation.Frame
import DiskLayout.Proofs.Allocation.Placement
import DiskLayout.Proofs.Flattening.Mounts

/-!
# Flattening built tables

Whether a table can be flattened is a matter of single nodes.  A built table has nodes like those of
its base, and new ones that hold nothing but a filesystem or are subvolumes, so it can be flattened
wherever its base can, unless btrfs filesystems are asked for.

## Main results

* `Payload.Extends.mountable`, `Payload.RootMoved.mountable` — what stays mountable
* `built_flatten` — the flattened layout of a built table
-/

namespace DiskLayout

/-- Whether everything in a partition can be mounted where it is. -/
def Partition.Mountable (partition : Partition) : Prop :=
  ∀ payload, partition.payload = some payload → payload.All Node.Mountable

theorem PartitionTable.mountable_iff_partitions {table : PartitionTable} :
    table.Mountable ↔ ∀ partition ∈ table.partitions, partition.Mountable := by
  rw [mountable_iff, forall_mem_nodes]
  constructor
  · intro h partition hmem
    obtain ⟨index, hpartition⟩ := List.mem_iff_getElem?.1 hmem
    exact (h index partition hpartition).2
  · intro h index partition hpartition
    exact ⟨trivial, h partition (List.mem_of_getElem? hpartition)⟩

/-! ### What resembles -/

theorem Filesystem.Alike.mountable {old new : Filesystem} (h : old.Alike new)
    (hold : (Node.filesystem old).Mountable) : (Node.filesystem new).Mountable :=
  fun hkind => hold (h.kind.symm.trans hkind)

section Resemblance

variable {sizes : Nat → Nat → Prop}

theorem LogicalVolume.Resembles.holdsDirectly {old new : LogicalVolume}
    (h : old.Resembles sizes new) (hold : old.HoldsDirectly) : new.HoldsDirectly := by
  have hpayload := (LogicalVolume.resembles_iff.1 h).2
  generalize hnew : new.payload = newPayload at hpayload
  rcases hold with ⟨system, hsystem⟩ | ⟨space, hspace⟩
  · rw [hsystem] at hpayload
    cases hpayload with
    | some hinner =>
      obtain ⟨other, rfl, -⟩ := Payload.resembles_filesystem_left.1 hinner
      exact .inl ⟨other, hnew⟩
  · rw [hspace] at hpayload
    cases hpayload with
    | some hinner =>
      obtain ⟨other, rfl, -⟩ := Payload.resembles_swap_left.1 hinner
      exact .inr ⟨other, hnew⟩

theorem Node.Resembles.mountable {old new : Node} (h : old.Resembles sizes new)
    (hold : old.Mountable) : new.Mountable := by
  cases h with
  | filesystem halike => exact halike.mountable hold
  | logicalVolume hvolume => exact hvolume.holdsDirectly hold
  | luks _ => exact hold.elim
  | _ => trivial

theorem Payload.Resembles.mountable {old new : Payload} (h : old.Resembles sizes new)
    (hold : old.All Node.Mountable) : new.All Node.Mountable :=
  forall_mem_transport
    (List.rel_map (fun _ _ hvisit => hvisit.node) (visits_resemble .parentsFirst h .nil))
    (fun _ _ hnode => hnode.mountable) hold

theorem LogicalVolume.Resembles.mountable {old new : LogicalVolume} (h : old.Resembles sizes new)
    (hold : old.All Node.Mountable) : new.All Node.Mountable := by
  refine ⟨h.holdsDirectly hold.1, fun payload hnew => ?_⟩
  have hpayload := (LogicalVolume.resembles_iff.1 h).2
  rw [hnew] at hpayload
  generalize hprevious : old.payload = oldPayload at hpayload
  cases hpayload with
  | some hinner => exact hinner.mountable (hold.2 _ hprevious)

end Resemblance

/-- Whether everything in a table can be mounted does not depend on sizes and identifiers. -/
theorem PartitionTable.Resembles.mountable {sizes : Nat → Nat → Prop} {old new : PartitionTable}
    (h : old.Resembles sizes new) (hold : old.Mountable) : new.Mountable :=
  mountable_iff.2 (forall_mem_transport (nodes_resemble h) (fun _ _ hnode => hnode.mountable)
    (mountable_iff.1 hold))

/-! ### What is added -/

variable {additions : Additions} {place : Place}

/-- What may be added can be mounted if no btrfs filesystem may be added. -/
theorem Additions.Allows.mountable (hkinds : ¬ additions.kinds .btrfs) {payload : Option Payload}
    (h : additions.Allows payload) :
    ∀ inner, payload = some inner → inner.All Node.Mountable := by
  obtain ⟨system, rfl, hkind, -⟩ := h
  rintro _ ⟨⟩
  exact Payload.all_filesystem.2 fun hbtrfs => hkinds (hbtrfs ▸ hkind)

theorem LogicalVolume.mountable_of_allows (hkinds : ¬ additions.kinds .btrfs)
    {volume : LogicalVolume} (h : additions.Allows volume.payload) :
    volume.All Node.Mountable := by
  refine ⟨?_, h.mountable hkinds⟩
  obtain ⟨system, hpayload, -⟩ := h
  exact .inl ⟨system, hpayload⟩

/-- An extended payload stays mountable if no btrfs filesystem may be added. -/
theorem Payload.Extends.mountable (hkinds : ¬ additions.kinds .btrfs) {old new : Payload}
    (h : old.Extends additions new) (hold : old.All Node.Mountable) :
    new.All Node.Mountable := by
  cases h with
  | filesystem halike => exact all_filesystem.2 (halike.mountable (all_filesystem.1 hold))
  | swap halike => exact all_swap.2 trivial
  | luks hown _ =>
    -- No encrypted container was mountable, so none has to be afterwards.
    exact (all_luks.1 hold).1.elim
  | btrfs hown hkept hadded hsubvolumes => exact all_btrfs.2 ⟨trivial, fun _ _ => trivial⟩
  | volumeGroup hown hkept hadded hvolumes =>
    rw [all_volumeGroup, hvolumes, List.forall_mem_append]
    refine ⟨trivial, ?_, fun volume hvolume => ?_⟩
    · exact forall_mem_transport hkept (fun _ _ hvol => hvol.mountable) (all_volumeGroup.1 hold).2
    · exact LogicalVolume.mountable_of_allows hkinds (hadded volume hvolume)

/-- A root filesystem that can be mounted still can in the container that takes it over. -/
theorem Payload.RootMoved.mountable (hkinds : ¬ additions.kinds .btrfs) {old new : Payload}
    (h : old.RootMoved additions place new) (hold : old.All Node.Mountable) :
    new.All Node.Mountable := by
  cases h with
  | luks hown _ => exact (all_luks.1 hold).1.elim
  | btrfs _ _ _ _ _ => exact all_btrfs.2 ⟨trivial, fun _ _ => trivial⟩
  | volumeGroup hvolumes hpayload hkept hadded =>
    rw [all_volumeGroup, hvolumes, List.forall_mem_cons]
    refine ⟨trivial, ⟨.inl ⟨_, hpayload⟩, fun inner hinner => ?_⟩, fun volume hvolume => ?_⟩
    · obtain rfl := Option.some.inj (hpayload.symm.trans hinner)
      exact all_filesystem.2 (hkept.mountable (all_filesystem.1 hold))
    · exact LogicalVolume.mountable_of_allows hkinds (hadded volume hvolume)

namespace Partition

variable {old new : Partition}

/-- What holds of all nodes of related payloads passes from one partition to the other. -/
theorem mountable_of_rel {related : Payload → Payload → Prop}
    (h : Option.Rel related old.payload new.payload)
    (hrelated : ∀ first second, related first second → first.All Node.Mountable →
      second.All Node.Mountable) (hold : old.Mountable) : new.Mountable := by
  intro payload hnew
  rw [hnew] at h
  generalize hprevious : old.payload = oldPayload at h
  cases h with
  | some h => exact hrelated _ _ h (hold _ hprevious)

theorem Extends.mountable (hkinds : ¬ additions.kinds .btrfs) (h : old.Extends additions new)
    (hold : old.Mountable) : new.Mountable :=
  mountable_of_rel h.2 (fun _ _ hpayload => hpayload.mountable hkinds) hold

theorem Follows.mountable (hkinds : ¬ additions.kinds .btrfs) (h : old.Follows additions place new)
    (hold : old.Mountable) : new.Mountable := by
  by_cases hroot : Path.root ∈ old.mountpoints
  · rw [Follows, if_pos hroot] at h
    exact mountable_of_rel h.payload (fun _ _ hpayload => hpayload.mountable hkinds) hold
  · rw [Follows, if_neg hroot] at h
    exact h.mountable hkinds hold

end Partition

/-! ### The built table -/

section Built

variable {base result : PartitionTable} {requests : List FilesystemRequest} {goal : Nat}
  {options : BuildOptions} {source : RandomSource}

theorem Additions.not_btrfs_ofBuild (hrequests : ∀ request ∈ requests, request.kind ≠ some .btrfs)
    (hdefault : options.defaultFilesystem ≠ .btrfs) :
    ¬ (Additions.ofBuild base requests options).kinds .btrfs := by
  rintro (hvfat | hboot | hkind | ⟨request, hmem, hkind⟩)
  · cases hvfat
  · cases hfilesystem : options.defaultFilesystem <;>
      simp [hfilesystem, Partition.bootFilesystem] at hboot
  · exact hdefault hkind.symm
  · exact hrequests request hmem hkind

/-- A built table can be mounted if its base can and no btrfs filesystem is asked for. -/
theorem built_mountable (hbase : base.Mountable)
    (hrequests : ∀ request ∈ requests, request.kind ≠ some .btrfs)
    (hdefault : options.defaultFilesystem ≠ .btrfs)
    (h : (build base requests goal options source).1.result = .ok result) : result.Mountable := by
  obtain ⟨hkept, hconverted⟩ := built_extends h
  have hkinds : ¬ (Additions.ofBuild base requests options).kinds .btrfs :=
    Additions.not_btrfs_ofBuild hrequests hdefault
  rw [PartitionTable.mountable_iff_partitions] at hbase ⊢
  by_cases hconverts : options.mode.ConvertsRoot (anyContained base requests) base
  · exact (hconverted hconverts).forall_mem (fun _ _ hfollows => hfollows.mountable hkinds)
      (fun _ hallowed => hallowed.mountable hkinds) hbase
  · exact (hkept hconverts).forall_mem (fun _ _ hextends => hextends.mountable hkinds)
      (fun _ hallowed => hallowed.mountable hkinds) hbase

/-- A built table is flattened on every platform on which its base is, if no btrfs filesystem is
asked for: what is mounted then is what the table mounts, in ascending order, and that is at least
what the base mounts. -/
theorem built_flatten {filename : String} {platform : Platform} {layout : FlattenedLayout}
    (hbase : (base.flatten filename platform).result = .ok layout)
    (hrequests : ∀ request ∈ requests, request.kind ≠ some .btrfs)
    (hdefault : options.defaultFilesystem ≠ .btrfs)
    (h : (build base requests goal options source).1.result = .ok result) :
    ∃ flattened, (result.flatten filename platform).result = .ok flattened ∧
      (flattened.mounts.map Mount.target).Perm result.mountpoints ∧
      (flattened.mounts.map Mount.target).Pairwise (· < ·) ∧
      ∀ mountpoint ∈ base.mountpoints, mountpoint ∈ result.mountpoints := by
  obtain ⟨hmountable, hmissing, -⟩ := PartitionTable.flatten_eq_ok hbase
  obtain ⟨table, minimums, hassemble, hfinished, hvalid⟩ := build_eq_ok h
  have hkept : ∀ mountpoint ∈ base.mountpoints, mountpoint ∈ result.mountpoints := by
    intro mountpoint hmem
    rw [hfinished.resembles.mountpoints_eq]
    exact (assembled_mountpoints hassemble mountpoint).2 (.inl hmem)
  -- What the platform boots from is mounted in the base, so it still is.
  have hrequired : ∀ mountpoint ∈ platform.requiredMountpoints, mountpoint ∈ result.mountpoints :=
    fun mountpoint hmem => hkept mountpoint
      (PartitionTable.missingMountpoints_eq_nil_iff.1 hmissing mountpoint hmem)
  obtain ⟨flattened, hflattened⟩ :=
    (built_mountable hmountable hrequests hdefault h).exists_layout hrequired filename
  obtain ⟨hperm, hascending⟩ := flatten_targets
    (PartitionTable.wellStructured_of_validate hvalid).mountpoints_distinct hflattened
  exact ⟨flattened, hflattened, hperm, hascending, hkept⟩

theorem PartitionTable.rootDisk_mountable : rootDisk.Mountable := by
  refine mountable_iff_partitions.2 (List.forall_mem_singleton.2 ?_)
  rintro _ ⟨⟩
  simp [Node.Mountable, Filesystem.new]

theorem built_flatten_rootDisk :
    ∃ result flattened,
      (build .rootDisk [.new "/var" 5] 1 .standard ⟨fun _ => 0, 0⟩).1.result = .ok result ∧
        (result.flatten "disk.img" ⟨.amd64, .legacy, none⟩).result = .ok flattened ∧
        Path.root ∈ result.mountpoints := by
  obtain ⟨result, h⟩ : ∃ result,
      (build .rootDisk [.new "/var" 5] 1 .standard ⟨fun _ => 0, 0⟩).1.result = .ok result :=
    ⟨_, rfl⟩
  obtain ⟨layout, hbase⟩ : ∃ layout,
      (PartitionTable.rootDisk.flatten "disk.img" ⟨.amd64, .legacy, none⟩).result = .ok layout :=
    PartitionTable.rootDisk_mountable.exists_layout (by decide) "disk.img"
  obtain ⟨flattened, hflattened, -, -, hkept⟩ :=
    built_flatten hbase (by simp [FilesystemRequest.new]) (by decide) h
  exact ⟨result, flattened, h, hflattened, hkept Path.root (by decide)⟩

end Built

end DiskLayout
