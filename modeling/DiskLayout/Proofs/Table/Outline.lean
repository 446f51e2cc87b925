import DiskLayout.Proofs.Allocation.Completion
import Mathlib.Data.List.Find
import Mathlib.Data.List.Pairwise
import Mathlib.Data.Multiset.Basic

/-!
# Outlines

The rules for tables and the sizes of devices see little of a node: its kind, its own mountpoint
and size, the names of the volumes directly in it in any order, and as much of the nodes around it.
This is the outline of a visit.  Tables with the same outlines in any order keep the same rules,
mount the same, and hold each mountpoint in a device of the same size.

## Main definitions

* `Node.outline`, `Visit.outline`, `PartitionTable.outlines` — outlines
* `PartitionTable.holderSize?` — the size of what holds a mountpoint

## Main results

* `PartitionTable.wellStructured_of_outlines`, `PartitionTable.nonempty_of_outlines`,
  `PartitionTable.mountpoints_perm`, `PartitionTable.holderSize?_eq` — what outlines determine
* `PartitionTable.Resembles.outlines_eq` — tables that resemble each other with the same sizes have
  the same outlines
-/

namespace DiskLayout

/-! ### Outlines of nodes -/

/-- The own size of a node that has one: a partition, a logical volume or a subvolume. -/
def Node.size? : Node → Option Nat
  | .partition _ device => some device.size
  | .logicalVolume device => some device.size
  | .subvolume volume => some volume.size
  | _ => none

/-- The names of the volumes directly in a node. -/
def Node.volumeNames : Node → List String
  | .volumeGroup group => group.logicalVolumes.map LogicalVolume.name
  | .btrfs volume => volume.names
  | _ => []

/-- The outline of a node. -/
structure Outline where
  kind : String
  mountpoint? : Option String
  size? : Option Nat
  names : Multiset String

namespace Outline

/-- Whether an outline is that of a volume group. -/
def isVolumeGroup (outline : Outline) : Bool := outline.kind == "lvm-volume-group"

/-- Whether an outline is that of a btrfs volume. -/
def isBtrfs (outline : Outline) : Bool := outline.kind == "btrfs"

/-- Whether an outline is that of a container whose contents boot loaders cannot read. -/
def isContainer (outline : Outline) : Bool :=
  outline.kind == "lvm-logical-volume" || outline.kind == "btrfs"

/-- The size of an outline that is that of a partition or a logical volume. -/
def deviceSize? (outline : Outline) : Option Nat :=
  if outline.kind = "btrfs-subvolume" then none else outline.size?

end Outline

namespace Node

/-- What is left of a node when all but its kind, mountpoint, size and names is dropped. -/
def outline (node : Node) : Outline :=
  ⟨node.kind, node.mountpoint?, node.size?, node.volumeNames⟩

theorem isVolumeGroup_eq (node : Node) :
    node.isVolumeGroup = node.outline.isVolumeGroup := by
  cases node <;> rfl

theorem isBtrfs_eq (node : Node) : node.isBtrfs = node.outline.isBtrfs := by
  cases node <;> rfl

theorem isSome_volumeContainer? (node : Node) :
    node.volumeContainer?.isSome = node.outline.isContainer := by
  cases node <;> rfl

theorem deviceSize?_eq (node : Node) : node.deviceSize? = node.outline.deviceSize? := by
  cases node <;> rfl

/-- A node with the outline of a volume group is one with the same names. -/
theorem of_outline_volumeGroup {node : Node} {group : VolumeGroup}
    (h : node.outline = (Node.volumeGroup group).outline) :
    ∃ other, node = .volumeGroup other ∧
      (other.logicalVolumes.map LogicalVolume.name).Perm
        (group.logicalVolumes.map LogicalVolume.name) := by
  have hkind : node.kind = "lvm-volume-group" := congrArg Outline.kind h
  cases node with
  | volumeGroup other =>
    exact ⟨other, rfl, Multiset.coe_eq_coe.1 (congrArg Outline.names h)⟩
  | _ => simp [Node.kind] at hkind

/-- A node with the outline of a btrfs volume is one with the same names. -/
theorem of_outline_btrfs {node : Node} {volume : Btrfs}
    (h : node.outline = (Node.btrfs volume).outline) :
    ∃ other, node = .btrfs other ∧ other.names.Perm volume.names := by
  have hkind : node.kind = "btrfs" := congrArg Outline.kind h
  cases node with
  | btrfs other => exact ⟨other, rfl, Multiset.coe_eq_coe.1 (congrArg Outline.names h)⟩
  | _ => simp [Node.kind] at hkind

end Node

/-! ### Outlines of visits -/

namespace Visit

/-- The outlines of a node and of the nodes around it. -/
def outline (visit : Visit) : Outline × List Outline :=
  (visit.node.outline, visit.ancestors.map Node.outline)

/-- The size of what holds a mounted node: of the subvolume that it is, or of the innermost
partition or logical volume around it. -/
def holderSize? (visit : Visit) : Option Nat :=
  (visit.node :: visit.ancestors.reverse).findSome? Node.size?

theorem holderSize?_eq (visit : Visit) :
    visit.holderSize? = (visit.outline.1 :: visit.outline.2.reverse).findSome? Outline.size? := by
  have hmap : visit.outline.1 :: visit.outline.2.reverse =
      (visit.node :: visit.ancestors.reverse).map Node.outline := by
    rw [List.map_cons, List.map_reverse]
    rfl
  rw [hmap, List.findSome?_map]
  rfl

theorem isReachable_eq (visit : Visit) :
    visit.isReachable = !visit.outline.2.any Outline.isContainer := by
  unfold isReachable outline
  induction visit.ancestors with
  | nil => rfl
  | cons first others ih =>
    rw [List.findSome?_cons, List.map_cons, List.any_cons, ← Node.isSome_volumeContainer?]
    cases first.volumeContainer? with
    | none => exact ih
    | some container => rfl

/-- A visit with the outline of a sound one is sound. -/
theorem sound_of_outline {old new : Visit} (h : old.outline = new.outline) (hold : old.Sound) :
    new.Sound := by
  have hnode : old.node.outline = new.node.outline := congrArg Prod.fst h
  have hmountpoint : old.node.mountpoint? = new.node.mountpoint? :=
    congrArg Outline.mountpoint? hnode
  refine ⟨fun group hgroup => ?_, fun volume hvolume => ?_, fun mountpoint hmounted => ?_,
    fun mountpoint hmounted hplain => ?_⟩
  · obtain ⟨other, hother, hnames⟩ := Node.of_outline_volumeGroup (hgroup ▸ hnode)
    exact (hnames.filter _).nodup_iff.1 (hold.volume_names other hother)
  · obtain ⟨other, hother, hnames⟩ := Node.of_outline_btrfs (hvolume ▸ hnode)
    obtain ⟨hgiven, hdistinct⟩ := hold.subvolume_names other hother
    exact ⟨fun hmem => hgiven (hnames.mem_iff.2 hmem), hnames.nodup_iff.1 hdistinct⟩
  · exact hold.mountpoint_valid mountpoint (hmountpoint.trans hmounted)
  · rw [isReachable_eq, ← h, ← isReachable_eq]
    exact hold.boot_reachable mountpoint (hmountpoint.trans hmounted) hplain

end Visit

/-! ### Outlines of tables -/

/-- Only one item has a key of which no two items have the same. -/
theorem eq_of_nodup_filterMap {α : Type} {key : α → Option String} {items : List α}
    (hdistinct : (items.filterMap key).Nodup) {item other : α} (hitem : item ∈ items)
    (hother : other ∈ items) {name : String} (hkey : key item = some name)
    (hkey' : key other = some name) : item = other := by
  by_contra hne
  have hpairwise := List.pairwise_filterMap.1 hdistinct
  have hsymmetric : Std.Symm fun first second : α => ∀ name, key first = some name →
      ∀ name', key second = some name' → name ≠ name' :=
    ⟨fun _ _ h name hname name' hname' => (h name' hname' name hname).symm⟩
  exact hpairwise.forall hitem hother hne name hkey name hkey' rfl

namespace PartitionTable

/-- The outlines of the visits of a table. -/
def outlines (table : PartitionTable) : List (Outline × List Outline) :=
  (table.visits .parentsFirst).map Visit.outline

/-- The size of what holds a mountpoint of a table: of a subvolume, or of the innermost partition
or logical volume around a filesystem. -/
def holderSize? (table : PartitionTable) (mountpoint : String) : Option Nat :=
  ((table.visits .parentsFirst).find? fun visit =>
    visit.node.mountpoint? == some mountpoint).bind Visit.holderSize?

theorem mountpoints_eq_outlines (table : PartitionTable) :
    table.mountpoints = table.outlines.filterMap fun outline => outline.1.mountpoint? := by
  unfold mountpoints outlines
  rw [List.filterMap_map]
  rfl

theorem holderSize?_eq_outlines (table : PartitionTable) (mountpoint : String) :
    table.holderSize? mountpoint =
      (table.outlines.find? fun outline => outline.1.mountpoint? == some mountpoint).bind
        fun outline => (outline.1 :: outline.2.reverse).findSome? Outline.size? := by
  unfold holderSize? outlines
  rw [List.find?_map, Option.bind_map]
  exact Option.bind_congr fun visit _ => visit.holderSize?_eq

theorem countP_nodes_eq {kind : Node → Bool} (outlined : Outline → Bool)
    (h : ∀ node, kind node = outlined node.outline) (table : PartitionTable) :
    table.nodes.countP kind = table.outlines.countP fun outline => outlined outline.1 := by
  unfold nodes outlines
  rw [List.countP_map, List.countP_map]
  exact congrArg (List.countP · _) (funext fun visit => h visit.node)

theorem forall_deviceSize?_iff_outlines (table : PartitionTable) :
    (∀ node ∈ table.nodes, node.deviceSize? ≠ some 0) ↔
      ∀ outline ∈ table.outlines, outline.1.deviceSize? ≠ some 0 := by
  unfold nodes outlines
  rw [List.forall_mem_map, List.forall_mem_map]
  exact forall₂_congr fun visit _ => by rw [Node.deviceSize?_eq, Visit.outline]

variable {old new : PartitionTable}

/-- Tables with the same outlines mount the same. -/
theorem mountpoints_perm (h : old.outlines.Perm new.outlines) :
    old.mountpoints.Perm new.mountpoints := by
  rw [mountpoints_eq_outlines, mountpoints_eq_outlines]
  exact h.filterMap _

/-- Tables with the same outlines keep the same rules. -/
theorem wellStructured_of_outlines (h : old.outlines.Perm new.outlines)
    (hold : old.WellStructured) : new.WellStructured := by
  refine ⟨fun visit hvisit => ?_, ?_, ?_, ?_⟩
  · have hmem : visit.outline ∈ old.outlines := h.mem_iff.2 (List.mem_map_of_mem hvisit)
    obtain ⟨other, hother, houtline⟩ := List.mem_map.1 hmem
    exact Visit.sound_of_outline houtline (hold.sound other hother)
  · have hcount := hold.one_volumeGroup
    rw [countP_nodes_eq Outline.isVolumeGroup Node.isVolumeGroup_eq] at hcount ⊢
    exact h.countP_eq _ ▸ hcount
  · have hcount := hold.one_btrfs
    rw [countP_nodes_eq Outline.isBtrfs Node.isBtrfs_eq] at hcount ⊢
    exact h.countP_eq _ ▸ hcount
  · exact (mountpoints_perm h).nodup_iff.1 hold.mountpoints_distinct

/-- If one of two tables with the same outlines leaves no device without a size, neither does the
other. -/
theorem nonempty_of_outlines (h : old.outlines.Perm new.outlines)
    (hold : ∀ node ∈ old.nodes, node.deviceSize? ≠ some 0) :
    ∀ node ∈ new.nodes, node.deviceSize? ≠ some 0 := by
  rw [forall_deviceSize?_iff_outlines] at hold ⊢
  exact fun outline hmem => hold outline (h.mem_iff.2 hmem)

/-- Tables with the same outlines hold each mountpoint in something of the same size. -/
theorem holderSize?_eq (h : old.outlines.Perm new.outlines) (hdistinct : old.mountpoints.Nodup)
    (mountpoint : String) : old.holderSize? mountpoint = new.holderSize? mountpoint := by
  rw [mountpoints_eq_outlines] at hdistinct
  rw [holderSize?_eq_outlines, holderSize?_eq_outlines, List.find?_eq_find?_of_perm h]
  rintro first ⟨hfirst, hkey⟩ second ⟨hsecond, hkey'⟩
  exact eq_of_nodup_filterMap hdistinct hfirst hsecond (eq_of_beq hkey) (eq_of_beq hkey')

/-- Whatever a table mounts is held by something that has a size. -/
theorem isSome_holderSize? {table : PartitionTable} {mountpoint : String}
    (h : mountpoint ∈ table.mountpoints) : (table.holderSize? mountpoint).isSome := by
  obtain ⟨visit, hfound⟩ : ∃ visit, ((table.visits .parentsFirst).find? fun visit =>
      visit.node.mountpoint? == some mountpoint) = some visit := by
    rw [← Option.isSome_iff_exists, List.find?_isSome]
    obtain ⟨visit, hvisit, hmounted⟩ := List.mem_filterMap.1 h
    exact ⟨visit, hvisit, by simp [hmounted]⟩
  have hmounted : visit.node.mountpoint? = some mountpoint := by
    simpa using List.find?_some hfound
  obtain ⟨index, partition, -, hvisit⟩ := mem_visits.1 (List.mem_of_find?_eq_some hfound)
  rw [holderSize?, hfound, Option.bind_some, Visit.holderSize?, List.isSome_findSome?]
  -- The outermost node around a mounted one is a partition, which has a size.
  obtain ⟨node, hnode, hindex⟩ :=
    Option.bind_eq_some_iff.1 (Partition.holder?_of_mem_visits hvisit hmounted)
  have hmem : node ∈ visit.node :: visit.ancestors.reverse :=
    List.mem_cons_of_mem _ (List.mem_reverse.2 (List.mem_of_mem_head? hnode))
  refine List.any_eq_true.2 ⟨node, hmem, ?_⟩
  cases node with
  | partition => rfl
  | _ => cases hindex

end PartitionTable

/-! ### Resemblance -/

theorem Node.Resembles.outline_eq {old new : Node} (h : old.Resembles (· = ·) new) :
    new.outline = old.outline := by
  cases h with
  | partition h =>
    unfold outline
    simp only [Node.kind, Node.mountpoint?, Node.size?, Node.volumeNames, h.1.size]
  | filesystem h =>
    unfold outline
    simp only [Node.kind, Node.mountpoint?, Node.size?, Node.volumeNames, h.mountpoint]
  | @volumeGroup old new h =>
    have hnames : new.logicalVolumes.map LogicalVolume.name =
        old.logicalVolumes.map LogicalVolume.name := by
      refine map_eq_of_forall₂ (fun _ _ hvolume => ?_) (Payload.resembles_volumeGroup.1 h).2
      exact (LogicalVolume.resembles_iff.1 hvolume).1.name
    unfold outline
    simp only [Node.kind, Node.mountpoint?, Node.size?, Node.volumeNames, hnames]
  | logicalVolume h =>
    unfold outline
    simp only [Node.kind, Node.mountpoint?, Node.size?, Node.volumeNames,
      (LogicalVolume.resembles_iff.1 h).1.size]
  | btrfs h =>
    unfold outline
    simp only [Node.kind, Node.mountpoint?, Node.size?, Node.volumeNames, Btrfs.names_eq h]
  | subvolume h =>
    unfold outline
    simp only [Node.kind, Node.mountpoint?, Node.size?, Node.volumeNames, h.mountpoint, h.size]
  | _ => rfl

theorem Visit.Resembles.outline_eq {old new : Visit} (h : old.Resembles (· = ·) new) :
    new.outline = old.outline :=
  Prod.ext h.node.outline_eq (map_eq_of_forall₂ (fun _ _ hnode => hnode.outline_eq) h.ancestors)

/-- Tables that resemble each other with the same sizes have the same outlines. -/
theorem PartitionTable.Resembles.outlines_eq {old new : PartitionTable}
    (h : old.Resembles (· = ·) new) : new.outlines = old.outlines :=
  map_eq_of_forall₂ (fun _ _ hvisit => hvisit.outline_eq) (visits_resemble .parentsFirst h)

end DiskLayout
