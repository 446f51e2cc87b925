import DiskLayout.Flattened
import DiskLayout.Proofs.Outcome
import DiskLayout.Proofs.Table.Nodes

/-!
# Tables that can be flattened

Flattening judges every node by the nodes around it, in the order of a walk with parents first.
Since a container that cannot be handled is met before anything inside it, what is judged never
lies deeper than in a logical volume, and the verdict on the whole table does not depend on depth
at all: it is a condition on single nodes.

## Main definitions

* `PartitionTable.Mountable` — no encryption, no btrfs filesystem, and filesystems or swap in all
  logical volumes
* `Flattening.Contributes` — the visits of a mountable table, with what they contribute

## Main results

* `PartitionTable.Mountable.contributeAll`, `PartitionTable.contributeAll_of_not_mountable` — the
  walk of a flattening
* `flatten_accepts_iff` — when flattening succeeds, and with which errors it fails
-/

namespace DiskLayout

open Flattening

/-- Whether a logical volume holds a filesystem or swap, with nothing in between. -/
def LogicalVolume.HoldsDirectly (volume : LogicalVolume) : Prop :=
  (∃ system, volume.payload = some (.filesystem system)) ∨
    ∃ space, volume.payload = some (.swap space)

/-- Whether everything in a table can be mounted where it is. -/
structure PartitionTable.Mountable (table : PartitionTable) : Prop where
  unencrypted : ∀ container, Node.luks container ∉ table.nodes
  mounted_by_subvolume : ∀ system, Node.filesystem system ∈ table.nodes → system.kind ≠ .btrfs
  volumes_direct : ∀ volume, Node.logicalVolume volume ∈ table.nodes → volume.HoldsDirectly

/-- Whether the partition at a position is this one, with this payload. -/
def PartitionTable.Holds (table : PartitionTable) (index : Nat) (partition : Partition)
    (payload : Payload) : Prop :=
  table.partitions[index]? = some partition ∧ partition.payload = some payload

/-- Whether a node can be mounted, wherever it is. -/
def Node.Mountable : Node → Prop
  | .filesystem system => system.kind ≠ .btrfs
  | .logicalVolume volume => volume.HoldsDirectly
  | .luks _ => False
  | _ => True

theorem PartitionTable.mountable_iff {table : PartitionTable} :
    table.Mountable ↔ ∀ node ∈ table.nodes, node.Mountable := by
  constructor
  · rintro ⟨hluks, hbtrfs, hvolumes⟩ node hnode
    cases node with
    | filesystem system => exact hbtrfs system hnode
    | logicalVolume volume => exact hvolumes volume hnode
    | luks container => exact absurd hnode (hluks container)
    | _ => trivial
  · intro h
    exact ⟨fun container hnode => h _ hnode, fun system hnode => h _ hnode,
      fun volume hnode => h _ hnode⟩

namespace Flattening

/-! ### One visit -/

/-- The visits of a table that are accepted, with what they contribute. -/
inductive Contributes (table : PartitionTable) : Visit → Contribution → Prop
  | partition (index : Nat) (partition : Partition) :
    Contributes table ⟨.partition index partition, []⟩ .none
  | filesystem {index : Nat} {partition : Partition} {system : Filesystem}
    (hheld : table.Holds index partition (.filesystem system)) (hkind : system.kind ≠ .btrfs) :
    Contributes table ⟨.filesystem system, [.partition index partition]⟩
      ⟨[], [filesystemMount system diskDevice (some (index + 1))]⟩
  | swap (index : Nat) (partition : Partition) (space : Swap) :
    Contributes table ⟨.swap space, [.partition index partition]⟩ .none
  | btrfs (index : Nat) (partition : Partition) (volume : Btrfs) :
    Contributes table ⟨.btrfs volume, [.partition index partition]⟩ .none
  | subvolume {index : Nat} {partition : Partition} {volume : Btrfs} {subvolume : Subvolume}
    (hheld : table.Holds index partition (.btrfs volume)) (hmem : subvolume ∈ volume.subvolumes) :
    Contributes table ⟨.subvolume subvolume, [.partition index partition, .btrfs volume]⟩
      ⟨[], [subvolumeMount subvolume (index + 1)]⟩
  | volumeGroup (index : Nat) (partition : Partition) (group : VolumeGroup) :
    Contributes table ⟨.volumeGroup group, [.partition index partition]⟩ .none
  | logicalVolume {index : Nat} {partition : Partition} {group : VolumeGroup}
    {volume : LogicalVolume} (hheld : table.Holds index partition (.volumeGroup group))
    (hmem : volume ∈ group.logicalVolumes) (hdirect : volume.HoldsDirectly) :
    Contributes table ⟨.logicalVolume volume, [.partition index partition, .volumeGroup group]⟩
      ⟨[(volume.deviceName, Device.ofVolume volume.name (index + 1))], []⟩
  | volumeFilesystem {index : Nat} {partition : Partition} {group : VolumeGroup}
    {volume : LogicalVolume} {system : Filesystem}
    (hheld : table.Holds index partition (.volumeGroup group))
    (hmem : volume ∈ group.logicalVolumes) (hpayload : volume.payload = some (.filesystem system))
    (hkind : system.kind ≠ .btrfs) :
    Contributes table ⟨.filesystem system,
        [.partition index partition, .volumeGroup group, .logicalVolume volume]⟩
      ⟨[], [filesystemMount system volume.deviceName none]⟩
  | volumeSwap (index : Nat) (partition : Partition) (group : VolumeGroup)
    (volume : LogicalVolume) (space : Swap) :
    Contributes table ⟨.swap space,
        [.partition index partition, .volumeGroup group, .logicalVolume volume]⟩ .none

theorem logicalVolumeDevice_of_holdsDirectly {volume : LogicalVolume} (h : volume.HoldsDirectly)
    (index : Nat) :
    logicalVolumeDevice index volume =
      .ok (volume.deviceName, Device.ofVolume volume.name (index + 1)) := by
  unfold logicalVolumeDevice
  rcases h with ⟨system, hpayload⟩ | ⟨space, hpayload⟩ <;> rw [hpayload]

theorem logicalVolumeDevice_of_not_holdsDirectly {volume : LogicalVolume}
    (h : ¬ volume.HoldsDirectly) (index : Nat) :
    ∃ text, logicalVolumeDevice index volume = .error (.unsupportedPayload text) := by
  unfold logicalVolumeDevice
  cases hpayload : volume.payload with
  | none => exact ⟨_, rfl⟩
  | some payload =>
    cases payload with
    | filesystem system => exact absurd (.inl ⟨system, hpayload⟩) h
    | swap space => exact absurd (.inr ⟨space, hpayload⟩) h
    | _ => exact ⟨_, rfl⟩

/-- What a visit contributes according to the relation is what it contributes. -/
theorem contribute_of_contributes {table : PartitionTable} {visit : Visit}
    {contribution : Contribution} (h : Contributes table visit contribution) :
    (contribute visit).result = .ok contribution := by
  cases h with
  | filesystem hheld hkind => simp [contribute, hkind]
  | volumeFilesystem hheld hmem hpayload hkind => simp [contribute, hkind]
  | logicalVolume hheld hmem hdirect =>
    simp [contribute, logicalVolumeDevice_of_holdsDirectly hdirect]
  | _ => rfl

/-- A visit contributes only if its node can be mounted; else it is refused as unsupported. -/
theorem contribute_cases (visit : Visit) :
    (visit.node.Mountable ∧ ∃ contribution, (contribute visit).result = .ok contribution) ∨
      ∃ text, (contribute visit).result = .error (.unsupportedPayload text) := by
  obtain ⟨node, ancestors⟩ := visit
  unfold contribute
  -- One case for each kind of node; the splits inside are on the containers around it.
  cases node with
  | partition index partition => exact .inl ⟨trivial, _, rfl⟩
  | swap space => exact .inl ⟨trivial, _, rfl⟩
  | luks container => exact .inr ⟨_, rfl⟩
  | filesystem system =>
    dsimp only
    split
    · exact .inr ⟨_, rfl⟩
    · rename_i hkind
      split
      · exact .inl ⟨hkind, _, rfl⟩
      · split
        · exact .inl ⟨hkind, _, rfl⟩
        · exact .inr ⟨_, rfl⟩
  | logicalVolume volume =>
    dsimp only
    split
    · rename_i index partition group
      by_cases hdirect : volume.HoldsDirectly
      · have haccepted := logicalVolumeDevice_of_holdsDirectly hdirect index
        exact .inl ⟨hdirect, ⟨[(volume.deviceName, Device.ofVolume volume.name (index + 1))], []⟩,
          by simp [haccepted]⟩
      · obtain ⟨text, herror⟩ := logicalVolumeDevice_of_not_holdsDirectly hdirect index
        exact .inr ⟨text, by simp [herror]⟩
    · exact .inr ⟨_, rfl⟩
  | subvolume subvolume =>
    dsimp only
    split
    · exact .inl ⟨trivial, _, rfl⟩
    · exact .inr ⟨_, rfl⟩
  | volumeGroup group =>
    dsimp only
    split
    · exact .inl ⟨trivial, _, rfl⟩
    · exact .inr ⟨_, rfl⟩
  | btrfs volume =>
    dsimp only
    split
    · exact .inl ⟨trivial, _, rfl⟩
    · exact .inr ⟨_, rfl⟩

/-! ### The walk -/

/-- The contributions of a list in order. -/
def Contribution.all (contributions : List Contribution) : Contribution :=
  ⟨contributions.flatMap Contribution.devices, contributions.flatMap Contribution.mounts⟩

/-- A walk contributes what its visits do, one after the other. -/
theorem contributeAll_of_contributes {table : PartitionTable} {visits : List Visit}
    {contributions : List Contribution}
    (h : List.Forall₂ (Contributes table) visits contributions) :
    (contributeAll visits).result = .ok (Contribution.all contributions) := by
  induction h with
  | nil => rfl
  | cons hfirst _ ih =>
    unfold contributeAll
    rw [Logged.result_bind, contribute_of_contributes hfirst, ok_bind, Logged.result_bind, ih]
    rfl

/-- A walk that meets a node that cannot be mounted is refused as unsupported. -/
theorem contributeAll_of_not_mountable {visits : List Visit}
    (h : ∃ visit ∈ visits, ¬ visit.node.Mountable) :
    ∃ text, (contributeAll visits).result = .error (.unsupportedPayload text) := by
  induction visits with
  | nil => simp at h
  | cons visit others ih =>
    unfold contributeAll
    rw [Logged.result_bind]
    rcases contribute_cases visit with ⟨hmountable, contribution, hok⟩ | ⟨text, herror⟩
    · -- The first visit passes, so the node that does not is met later.
      obtain ⟨text, herror⟩ := ih (by simpa [hmountable] using h)
      refine ⟨text, ?_⟩
      rw [hok, ok_bind, Logged.result_bind, herror, error_bind]
    · exact ⟨text, by rw [herror, error_bind]⟩

end Flattening

/-! ### The walk of a mountable table -/

/-- In a payload that can be mounted every visit is one of those that contribute. -/
theorem PartitionTable.Holds.contributes {table : PartitionTable} {index : Nat}
    {partition : Partition} {payload : Payload} (hheld : table.Holds index partition payload)
    (h : payload.All Node.Mountable) :
    ∀ visit ∈ payload.visits .parentsFirst [.partition index partition],
      ∃ contribution, Contributes table visit contribution := by
  intro visit hvisit
  cases payload with
  | filesystem system =>
    obtain rfl := List.mem_singleton.1 hvisit
    exact ⟨_, .filesystem hheld (Payload.all_filesystem.1 h)⟩
  | swap space =>
    obtain rfl := List.mem_singleton.1 hvisit
    exact ⟨_, .swap index partition space⟩
  | luks container =>
    -- Encryption is refused where it is met, so nothing below it has to contribute.
    exact (Payload.all_luks.1 h).1.elim
  | btrfs volume =>
    rw [Payload.visits_btrfs, WalkOrder.mem_arrange, List.mem_map] at hvisit
    rcases hvisit with rfl | ⟨subvolume, hmem, rfl⟩
    · exact ⟨_, .btrfs index partition volume⟩
    · exact ⟨_, .subvolume hheld hmem⟩
  | volumeGroup group =>
    obtain ⟨-, hvolumes⟩ := Payload.all_volumeGroup.1 h
    rw [Payload.visits_volumeGroup, WalkOrder.mem_arrange, logicalVolumeVisits_eq_flatMap,
      List.mem_flatMap] at hvisit
    rcases hvisit with rfl | ⟨volume, hvolume, hvisit⟩
    · exact ⟨_, .volumeGroup index partition group⟩
    · obtain ⟨hdirect, hinner⟩ := hvolumes volume hvolume
      rw [LogicalVolume.visits_eq, WalkOrder.mem_arrange, List.mem_flatMap] at hvisit
      rcases hvisit with rfl | ⟨inner, hmem, hvisit⟩
      · exact ⟨_, .logicalVolume hheld hvolume hdirect⟩
      · -- What a volume holds directly has nothing below it, so the walk ends here.
        rw [Option.mem_toList] at hmem
        have hmountable := hinner inner hmem
        rcases hdirect with ⟨system, hpayload⟩ | ⟨space, hpayload⟩ <;>
          obtain rfl := Option.some.inj (hmem.symm.trans hpayload) <;>
          obtain rfl := List.mem_singleton.1 hvisit
        · exact ⟨_, .volumeFilesystem hheld hvolume hpayload (Payload.all_filesystem.1 hmountable)⟩
        · exact ⟨_, .volumeSwap index partition group volume space⟩

theorem exists_forall₂ {α β : Type} {related : α → β → Prop} {items : List α}
    (h : ∀ item ∈ items, ∃ other, related item other) :
    ∃ others, List.Forall₂ related items others := by
  induction items with
  | nil => exact ⟨[], .nil⟩
  | cons item items ih =>
    obtain ⟨⟨other, hfirst⟩, hitems⟩ := List.forall_mem_cons.1 h
    obtain ⟨others, hothers⟩ := ih hitems
    exact ⟨other :: others, .cons hfirst hothers⟩

namespace PartitionTable

variable {table : PartitionTable}

/-- In a mountable table every visit is one of those that contribute. -/
theorem Mountable.contributes (h : table.Mountable) :
    ∀ visit ∈ table.visits .parentsFirst, ∃ contribution, Contributes table visit contribution := by
  intro visit hvisit
  obtain ⟨index, partition, hpartition, hvisit⟩ := mem_visits.1 hvisit
  rw [Partition.visits_parentsFirst, List.mem_cons, List.mem_flatMap] at hvisit
  rcases hvisit with rfl | ⟨payload, hpayload, hvisit⟩
  · exact ⟨_, .partition index partition⟩
  · have hnodes := (forall_mem_nodes.1 (mountable_iff.1 h) index partition hpartition).2
    have hheld : table.Holds index partition payload := ⟨hpartition, Option.mem_toList.1 hpayload⟩
    exact hheld.contributes (hnodes payload hheld.2) visit hvisit

/-- In a mountable table the walk contributes what its visits do. -/
theorem Mountable.contributeAll (h : table.Mountable) :
    ∃ contributions, List.Forall₂ (Contributes table) (table.visits .parentsFirst) contributions ∧
      (contributeAll (table.visits .parentsFirst)).result =
        .ok (Contribution.all contributions) := by
  obtain ⟨contributions, hall⟩ := exists_forall₂ h.contributes
  exact ⟨contributions, hall, contributeAll_of_contributes hall⟩

/-- In a table that is not mountable the walk is refused as unsupported. -/
theorem contributeAll_of_not_mountable (h : ¬ table.Mountable) :
    ∃ text, (contributeAll (table.visits .parentsFirst)).result =
      .error (.unsupportedPayload text) := by
  refine Flattening.contributeAll_of_not_mountable ?_
  simpa [mountable_iff, nodes] using h

/-! ### The outcome -/

/-- The mountpoints that a platform boots from and that a table lacks. -/
def missingMountpoints (table : PartitionTable) (platform : Platform) : List String :=
  platform.requiredMountpoints.filter fun mountpoint => !table.containsMountpoint mountpoint

theorem mem_missingMountpoints {platform : Platform} {mountpoint : String} :
    mountpoint ∈ table.missingMountpoints platform ↔
      mountpoint ∈ platform.requiredMountpoints ∧ mountpoint ∉ table.mountpoints := by
  simp [missingMountpoints, containsMountpoint]

theorem missingMountpoints_eq_nil_iff {platform : Platform} :
    table.missingMountpoints platform = [] ↔
      ∀ mountpoint ∈ platform.requiredMountpoints, mountpoint ∈ table.mountpoints := by
  rw [List.eq_nil_iff_forall_not_mem]
  simp only [mem_missingMountpoints, not_and, not_not]

theorem requiredMountpoints_ascending (platform : Platform) :
    platform.requiredMountpoints.Pairwise (· < ·) := by
  have hbelow : Path.root < Path.esp := by decide
  unfold Platform.requiredMountpoints
  split
  · exact List.pairwise_pair.2 hbelow
  · exact List.pairwise_singleton _ _

theorem missingMountpoints_ascending (table : PartitionTable) (platform : Platform) :
    (table.missingMountpoints platform).Pairwise (· < ·) :=
  (requiredMountpoints_ascending platform).filter _

end PartitionTable

namespace Flattening

/-- A visit contributes the mount of its mountpoint, if it has one. -/
theorem Contributes.targets {table : PartitionTable} {visit : Visit} {contribution : Contribution}
    (h : Contributes table visit contribution) :
    contribution.mounts.map Mount.target = visit.node.mountpoint?.toList := by
  cases h <;> rfl

/-- A walk contributes the mounts of its mountpoints, in order. -/
theorem targets_of_contributes {table : PartitionTable} {visits : List Visit}
    {contributions : List Contribution}
    (h : List.Forall₂ (Contributes table) visits contributions) :
    (Contribution.all contributions).mounts.map Mount.target =
      visits.filterMap fun visit => visit.node.mountpoint? := by
  induction h with
  | nil => rfl
  | @cons visit _ _ _ hfirst _ ih =>
    have htargets := hfirst.targets
    simp only [Contribution.all, List.flatMap_cons, List.map_append] at ih ⊢
    rw [htargets, ih, List.filterMap_cons]
    cases visit.node.mountpoint? <;> rfl

end Flattening

namespace PartitionTable

variable {table : PartitionTable}

/-- The layout of a walk's contributions: the mounts in the order of their targets, and the disk
beside the other devices. -/
def layoutOf (filename : String) (contribution : Contribution) : FlattenedLayout :=
  ⟨contribution.mounts.mergeSort noLater,
    TextMap.ofList ((diskDevice, Device.disk filename) :: contribution.devices)⟩

/-- A mountable table is flattened to the layout of its contributions, unless it lacks a mountpoint
that the platform boots from. -/
theorem Mountable.flatten_cases (h : table.Mountable) (filename : String) (platform : Platform) :
    ∃ contributions, List.Forall₂ (Contributes table) (table.visits .parentsFirst) contributions ∧
      ((table.missingMountpoints platform = [] ∧
          (table.flatten filename platform).result =
            .ok (layoutOf filename (Contribution.all contributions))) ∨
        (table.missingMountpoints platform ≠ [] ∧
          (table.flatten filename platform).result =
            .error (.missingRequiredMount (table.missingMountpoints platform)))) := by
  obtain ⟨contributions, hall, hwalk⟩ := h.contributeAll
  refine ⟨contributions, hall, ?_⟩
  -- The targets are the mountpoints in another order, so the same ones are missing.
  have hperm : (((Contribution.all contributions).mounts.mergeSort noLater).map
      Mount.target).Perm table.mountpoints := by
    rw [mountpoints, ← targets_of_contributes hall]
    exact (List.mergeSort_perm _ _).map _
  have hmissing : platform.requiredMountpoints.filter (fun path =>
      !(((Contribution.all contributions).mounts.mergeSort noLater).map
        Mount.target).contains path) = table.missingMountpoints platform := by
    refine List.filter_congr fun path _ => ?_
    rw [containsMountpoint, hperm.contains_eq]
  unfold flatten
  rw [Logged.result_bind, hwalk, ok_bind]
  dsimp only
  rw [hmissing]
  cases htable : table.missingMountpoints platform with
  | nil => exact .inl ⟨rfl, rfl⟩
  | cons first others => exact .inr ⟨List.cons_ne_nil _ _, rfl⟩

/-- A mountable table with all mountpoints that the platform boots from is flattened. -/
theorem Mountable.exists_layout (h : table.Mountable) {platform : Platform}
    (hrequired : ∀ mountpoint ∈ platform.requiredMountpoints, mountpoint ∈ table.mountpoints)
    (filename : String) : ∃ layout, (table.flatten filename platform).result = .ok layout := by
  obtain ⟨contributions, -, ⟨-, hok⟩ | ⟨hlacks, -⟩⟩ := h.flatten_cases filename platform
  · exact ⟨_, hok⟩
  · exact absurd (missingMountpoints_eq_nil_iff.2 hrequired) hlacks

/-- A table that is not mountable is refused as unsupported. -/
theorem flatten_of_not_mountable (h : ¬ table.Mountable) (filename : String)
    (platform : Platform) :
    ∃ text, (table.flatten filename platform).result = .error (.unsupportedPayload text) := by
  obtain ⟨text, herror⟩ := contributeAll_of_not_mountable h
  refine ⟨text, ?_⟩
  unfold flatten
  rw [Logged.result_bind, herror, error_bind]

/-- A table that is flattened is mountable, and its layout is that of its contributions. -/
theorem flatten_eq_ok {filename : String} {platform : Platform} {layout : FlattenedLayout}
    (h : (table.flatten filename platform).result = .ok layout) :
    table.Mountable ∧ table.missingMountpoints platform = [] ∧
      ∃ contributions, List.Forall₂ (Contributes table) (table.visits .parentsFirst) contributions ∧
        layout = layoutOf filename (Contribution.all contributions) := by
  by_cases hmountable : table.Mountable
  · obtain ⟨contributions, hall, ⟨hmissing, hok⟩ | ⟨-, herror⟩⟩ :=
      hmountable.flatten_cases filename platform
    · rw [hok] at h
      exact ⟨hmountable, hmissing, contributions, hall, (Except.ok.inj h).symm⟩
    · rw [herror] at h
      cases h
  · obtain ⟨text, herror⟩ := flatten_of_not_mountable hmountable filename platform
    rw [herror] at h
    cases h

end PartitionTable

/-- A table is flattened exactly if it is mountable and has all mountpoints that the platform boots
from.  A table that is not mountable is refused as unsupported, and one that only lacks mountpoints
is refused with the list of those, in ascending order. -/
theorem flatten_accepts_iff (filename : String) (table : PartitionTable) (platform : Platform) :
    ((∃ layout, (table.flatten filename platform).result = .ok layout) ↔
      table.Mountable ∧
        ∀ mountpoint ∈ platform.requiredMountpoints, mountpoint ∈ table.mountpoints) ∧
    (¬ table.Mountable →
      ∃ text, (table.flatten filename platform).result = .error (.unsupportedPayload text)) ∧
    (table.Mountable →
      (∃ mountpoint ∈ platform.requiredMountpoints, mountpoint ∉ table.mountpoints) →
      ∃ missing, (table.flatten filename platform).result =
          .error (.missingRequiredMount missing) ∧
        missing.Pairwise (· < ·) ∧
        ∀ mountpoint, mountpoint ∈ missing ↔
          mountpoint ∈ platform.requiredMountpoints ∧ mountpoint ∉ table.mountpoints) := by
  refine ⟨⟨?_, fun ⟨hmountable, hall⟩ => hmountable.exists_layout hall filename⟩,
    fun hrefused => PartitionTable.flatten_of_not_mountable hrefused _ _,
    fun hmountable hlacks => ?_⟩
  · rintro ⟨layout, hok⟩
    obtain ⟨hmountable, hmissing, -⟩ := PartitionTable.flatten_eq_ok hok
    exact ⟨hmountable, PartitionTable.missingMountpoints_eq_nil_iff.1 hmissing⟩
  · obtain ⟨contributions, -, ⟨hmissing, -⟩ | ⟨-, herror⟩⟩ :=
      hmountable.flatten_cases filename platform
    · obtain ⟨mountpoint, hrequired, habsent⟩ := hlacks
      exact absurd (PartitionTable.missingMountpoints_eq_nil_iff.1 hmissing mountpoint hrequired)
        habsent
    · exact ⟨_, herror, table.missingMountpoints_ascending platform,
        fun _ => PartitionTable.mem_missingMountpoints⟩

/-- A disk with a volume group, in which one volume holds the root and another one `payload`. -/
def PartitionTable.volumeDisk (payload : Option Payload) : PartitionTable :=
  let root : LogicalVolume := ⟨"rootlv", 0, some (.filesystem (.new .xfs Path.root))⟩
  let group : VolumeGroup := ⟨"rootvg", "", [root, ⟨"otherlv", 0, payload⟩]⟩
  { PartitionTable.empty .gpt with partitions := [.new 0 .lvm (some (.volumeGroup group))] }

/-- A disk with a volume group for the root and for swap. -/
def PartitionTable.swapDisk : PartitionTable :=
  .volumeDisk (some (.swap ⟨none, none, defaultFstabOptions⟩))

theorem PartitionTable.swapDisk_mountable : swapDisk.Mountable := by
  refine mountable_iff.2 (forall_mem_nodes.2 ?_)
  rintro (_ | index) partition hpartition
  · obtain rfl := Option.some.inj hpartition
    refine ⟨trivial, fun payload hpayload => ?_⟩
    obtain rfl := Option.some.inj hpayload
    simp [Node.Mountable, LogicalVolume.All, LogicalVolume.HoldsDirectly, Filesystem.new]
  · cases hpartition

theorem flatten_accepts_iff_volumeDisk :
    (∃ layout, (PartitionTable.swapDisk.flatten "disk.img" ⟨.amd64, .legacy, none⟩).result =
      .ok layout) ∧
    (∃ text, ((PartitionTable.volumeDisk none).flatten "disk.img" .standard).result =
      .error (.unsupportedPayload text)) ∧
    ∃ missing, (PartitionTable.swapDisk.flatten "disk.img" .standard).result =
      .error (.missingRequiredMount missing) ∧ Path.esp ∈ missing := by
  have hrefused : ¬ (PartitionTable.volumeDisk none).Mountable := fun h => by
    have hdirect := h.volumes_direct ⟨"otherlv", 0, none⟩
      (PartitionTable.mem_nodes.2 ⟨0, _, rfl, by simp [Partition.nodes, LogicalVolume.nodes,
        Partition.new]⟩)
    simp [LogicalVolume.HoldsDirectly] at hdirect
  refine ⟨(flatten_accepts_iff _ .swapDisk _).1.2 ⟨PartitionTable.swapDisk_mountable, by decide⟩,
    (flatten_accepts_iff _ _ _).2.1 hrefused, ?_⟩
  obtain ⟨missing, herror, -, hmem⟩ := (flatten_accepts_iff "disk.img" .swapDisk .standard).2.2
    PartitionTable.swapDisk_mountable ⟨Path.esp, by decide, by decide⟩
  exact ⟨missing, herror, (hmem _).2 ⟨by decide, by decide⟩⟩

end DiskLayout
