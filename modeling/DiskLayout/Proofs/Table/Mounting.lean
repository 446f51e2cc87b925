import DiskLayout.Proofs.Table.Content
import DiskLayout.Proofs.Table.Structure

/-!
# Mountpoints that are refused

A layout error refuses a mountpoint if it calls it invalid where it stands, or forbids it by
policy.  The check of a table does so only for a reason that can be read off one visit: a
mountpoint that is not valid, or one that a boot loader must reach and that lies in a container of
volumes.  Along the payloads this is a condition on mountpoints alone.

## Main definitions

* `LayoutError.RefusesMountpoint` — errors that refuse a mountpoint
* `Spares` — an outcome that is no error with such a part
* `Payload.WellMounted`, `Partition.WellMounted` — mountpoints that are valid where they are

## Main results

* `PartitionTable.validate_spares` — the check of a table whose partitions are well mounted
* `PartitionTable.wellMounted_of_validateStructure` — partitions that passed the check once are
  well mounted
-/

namespace DiskLayout

open Validation

/-! ### Errors that refuse a mountpoint -/

/-- Whether a layout error refuses a mountpoint: as invalid where it stands, or by policy. -/
def LayoutError.RefusesMountpoint : LayoutError → Prop
  | .invalidMountpoint _ | .policyViolation _ => True
  | _ => False

/-- Whether an outcome is a value, or an error that nowhere refuses a mountpoint. -/
def Spares {α : Type} (outcome : Except LayoutError α) : Prop :=
  ∀ error, outcome = .error error → ∀ leaf ∈ error.leaves, ¬ leaf.RefusesMountpoint

section Spares

variable {α β : Type}

theorem spares_ok (value : α) : Spares (.ok value) := by
  intro error h
  cases h

/-- A single error of another kind spares mountpoints. -/
theorem spares_leaf {leaf : LayoutError} (hleaf : leaf.leaves = [leaf])
    (h : ¬ leaf.RefusesMountpoint) : Spares (.error leaf : Except LayoutError α) := by
  rintro _ ⟨⟩ other hother
  rw [hleaf, List.mem_singleton] at hother
  rw [hother]
  exact h

/-- Two steps in a row spare mountpoints if the first does, and the second after each of its
values. -/
theorem spares_bind {first : Except LayoutError α} {next : α → Except LayoutError β}
    (hfirst : Spares first) (hnext : ∀ value, first = .ok value → Spares (next value)) :
    Spares (first >>= next) := by
  intro error herror
  rcases bind_eq_error.1 herror with herror | ⟨value, hvalue, herror⟩
  · exact hfirst error herror
  · exact hnext value hvalue error herror

theorem spares_forM {check : α → Except LayoutError Unit} {items : List α}
    (h : ∀ item ∈ items, Spares (check item)) : Spares (items.forM check) := by
  intro error herror
  rcases forM_cases check items with ⟨-, hok⟩ | ⟨item, hitem, found, hcheck, hfound⟩
  · rw [hok] at herror
    cases herror
  · obtain rfl := Except.error.inj (hfound.symm.trans herror)
    exact h item hitem found hcheck

end Spares

/-! ### Mountpoints that are valid where they are -/

/-- What a visit must satisfy for its mountpoint: valid, and reachable for boot loaders. -/
structure Visit.WellMounted (visit : Visit) : Prop where
  mountpoint_valid : ∀ mountpoint, visit.node.mountpoint? = some mountpoint →
    checkMountpoint mountpoint = .ok ()
  boot_reachable : ∀ mountpoint, visit.node.mountpoint? = some mountpoint →
    mountpoint ∈ Path.plainOnly → visit.isReachable

/-- A mountpoint that may lie in a container of volumes. -/
def MayBeContained (mountpoint : String) : Prop :=
  checkMountpoint mountpoint = .ok () ∧ mountpoint ∉ Path.plainOnly

/-- Whether the mountpoints of a payload are valid, and those in volumes may lie there. -/
def Payload.WellMounted : Payload → Prop
  | .filesystem system => checkMountpoint system.mountpoint = .ok ()
  | .luks ⟨_, _, _, inner⟩ => inner.WellMounted
  | .volumeGroup group =>
    ∀ mountpoint ∈ (Payload.volumeGroup group).mountpoints, MayBeContained mountpoint
  | .btrfs volume => ∀ mountpoint ∈ (Payload.btrfs volume).mountpoints, MayBeContained mountpoint
  | .swap _ => True

@[simp] theorem Payload.wellMounted_luks {container : Luks} :
    (Payload.luks container).WellMounted ↔ container.payload.WellMounted := by
  cases container
  rfl

/-- Whether the mountpoints of a partition are valid, and those in volumes may lie there. -/
def Partition.WellMounted (partition : Partition) : Prop :=
  ∀ payload, partition.payload = some payload → payload.WellMounted

theorem Payload.mem_mountpoints {payload : Payload} (ancestors : List Node) {mountpoint : String} :
    mountpoint ∈ payload.mountpoints ↔
      ∃ visit ∈ payload.visits .parentsFirst ancestors,
        visit.node.mountpoint? = some mountpoint := by
  rw [mountpoints, ← payload.map_node_visits ancestors, List.filterMap_map, List.mem_filterMap]
  rfl

/-- What lies inside a container of volumes is not reachable. -/
theorem Visit.not_isReachable {visit : Visit} {node : Node} {container : String}
    (hmem : node ∈ visit.ancestors) (hnode : node.volumeContainer? = some container) :
    ¬ visit.isReachable = true := by
  intro hreachable
  have hnone : visit.ancestors.findSome? Node.volumeContainer? = none :=
    Option.isNone_iff_eq_none.1 hreachable
  rw [List.findSome?_eq_none_iff.1 hnone node hmem] at hnode
  cases hnode

/-- Where everything mounted is out of reach for boot loaders, the visits of a payload are well
mounted exactly if its mountpoints may be contained. -/
theorem Payload.mayBeContained_iff {payload : Payload} {ancestors : List Node}
    (hcontained : ∀ visit ∈ payload.visits .parentsFirst ancestors, ∀ mountpoint,
      visit.node.mountpoint? = some mountpoint → ¬ visit.isReachable = true) :
    (∀ mountpoint ∈ payload.mountpoints, MayBeContained mountpoint) ↔
      ∀ visit ∈ payload.visits .parentsFirst ancestors, visit.WellMounted := by
  constructor
  · intro h visit hvisit
    have hmounted : ∀ mountpoint, visit.node.mountpoint? = some mountpoint →
        MayBeContained mountpoint := fun mountpoint hmountpoint =>
      h mountpoint ((mem_mountpoints ancestors).2 ⟨visit, hvisit, hmountpoint⟩)
    exact ⟨fun mountpoint hmountpoint => (hmounted mountpoint hmountpoint).1,
      fun mountpoint hmountpoint hplain => absurd hplain (hmounted mountpoint hmountpoint).2⟩
  · intro h mountpoint hmem
    obtain ⟨visit, hvisit, hmountpoint⟩ := (mem_mountpoints ancestors).1 hmem
    exact ⟨(h visit hvisit).mountpoint_valid mountpoint hmountpoint, fun hplain =>
      hcontained visit hvisit mountpoint hmountpoint
        ((h visit hvisit).boot_reachable mountpoint hmountpoint hplain)⟩

/-- Outside of containers of volumes, the visits of a payload are well mounted exactly if the
payload is. -/
theorem Payload.wellMounted_iff {payload : Payload} {ancestors : List Node}
    (hreach : ∀ node ∈ ancestors, node.volumeContainer? = none) :
    payload.WellMounted ↔
      ∀ visit ∈ payload.visits .parentsFirst ancestors, visit.WellMounted := by
  induction payload generalizing ancestors with
  | filesystem system =>
    have hreachable : (Visit.mk (.filesystem system) ancestors).isReachable = true :=
      Option.isNone_iff_eq_none.2 (List.findSome?_eq_none_iff.2 hreach)
    constructor
    · intro h visit hvisit
      obtain rfl := List.mem_singleton.1 hvisit
      refine ⟨fun mountpoint hmountpoint => ?_, fun _ _ _ => hreachable⟩
      obtain rfl := Option.some.inj hmountpoint
      exact h
    · intro h
      exact (h _ (List.mem_singleton_self _)).mountpoint_valid _ rfl
  | swap space =>
    refine iff_of_true trivial fun visit hvisit => ?_
    obtain rfl := List.mem_singleton.1 hvisit
    exact ⟨fun _ h => by simp [Node.mountpoint?] at h, fun _ h => by simp [Node.mountpoint?] at h⟩
  | btrfs volume =>
    refine mayBeContained_iff fun visit hvisit mountpoint hmountpoint => ?_
    rw [visits_btrfs, WalkOrder.mem_arrange, List.mem_map] at hvisit
    rcases hvisit with rfl | ⟨subvolume, -, rfl⟩
    · cases hmountpoint
    · exact Visit.not_isReachable (List.mem_append_right _ (List.mem_singleton_self _)) rfl
  | volumeGroup group ih =>
    refine mayBeContained_iff fun visit hvisit mountpoint hmountpoint => ?_
    rw [visits_volumeGroup, WalkOrder.mem_arrange, logicalVolumeVisits_eq_flatMap,
      List.mem_flatMap] at hvisit
    rcases hvisit with rfl | ⟨volume, -, hvisit⟩
    · cases hmountpoint
    · rw [LogicalVolume.visits_eq, WalkOrder.mem_arrange, List.mem_flatMap] at hvisit
      rcases hvisit with rfl | ⟨inner, -, hvisit⟩
      · cases hmountpoint
      · -- The volume itself stands around everything in it.
        refine Visit.not_isReachable ((ancestors_isPrefix hvisit).subset
          (List.mem_append_right _ (List.mem_singleton_self _))) rfl
  | luks container ih =>
    have hinner : ∀ node ∈ ancestors ++ [.luks container], node.volumeContainer? = none := by
      intro node hnode
      rcases List.mem_append.1 hnode with hnode | hnode
      · exact hreach node hnode
      · obtain rfl := List.mem_singleton.1 hnode
        rfl
    rw [wellMounted_luks, ih hinner, visits_luks]
    simp only [WalkOrder.mem_arrange, forall_eq_or_imp, iff_and_self]
    exact fun _ => ⟨fun _ h => by simp at h, fun _ h => by simp at h⟩

theorem Partition.wellMounted_iff {partition : Partition} (index : Nat) :
    partition.WellMounted ↔
      ∀ visit ∈ partition.visits .parentsFirst index, visit.WellMounted := by
  have hreach : ∀ node ∈ [Node.partition index partition], node.volumeContainer? = none := by
    intro node hnode
    obtain rfl := List.mem_singleton.1 hnode
    rfl
  rw [Partition.visits_parentsFirst, List.forall_mem_cons, List.forall_mem_flatMap]
  simp only [Option.mem_toList, ← Payload.wellMounted_iff hreach, WellMounted]
  exact (and_iff_right ⟨fun _ h => by simp at h, fun _ h => by simp at h⟩).symm

namespace PartitionTable

variable {table : PartitionTable}

/-- Whether the mountpoints of a table are valid, and those in volumes may lie there. -/
def WellMounted (table : PartitionTable) : Prop :=
  ∀ partition ∈ table.partitions, partition.WellMounted

theorem wellMounted_iff :
    table.WellMounted ↔ ∀ visit ∈ table.visits .parentsFirst, visit.WellMounted := by
  constructor
  · intro h visit hvisit
    obtain ⟨index, partition, hpartition, hvisit⟩ := mem_visits.1 hvisit
    exact (Partition.wellMounted_iff index).1 (h partition (List.mem_of_getElem? hpartition))
      visit hvisit
  · intro h partition hpartition
    obtain ⟨index, hindex⟩ := List.mem_iff_getElem?.1 hpartition
    exact (Partition.wellMounted_iff index).2 fun visit hvisit =>
      h visit (mem_visits.2 ⟨index, partition, hindex, hvisit⟩)

theorem wellMounted_of_validateStructure (h : table.validateStructure.result = .ok ()) :
    table.WellMounted := by
  refine wellMounted_iff.2 fun visit hvisit => ?_
  have hsound := (wellStructured_of_validateStructure h).sound visit hvisit
  exact ⟨hsound.mountpoint_valid, hsound.boot_reachable⟩

/-- Tables that resemble each other are well mounted together. -/
theorem Resembles.wellMounted {sizes : Nat → Nat → Prop} {old new : PartitionTable}
    (h : old.Resembles sizes new) (hold : old.WellMounted) : new.WellMounted := by
  rw [wellMounted_iff] at hold ⊢
  refine forall_mem_transport (visits_resemble .parentsFirst h) (fun _ _ hvisit hold => ?_) hold
  exact ⟨fun mountpoint hmountpoint =>
      hold.mountpoint_valid mountpoint (hvisit.node.mountpoint?_eq ▸ hmountpoint),
    fun mountpoint hmountpoint hplain => hvisit.isReachable_eq.trans
      (hold.boot_reachable mountpoint (hvisit.node.mountpoint?_eq ▸ hmountpoint) hplain)⟩

end PartitionTable

/-! ### The check of a table -/

theorem VolumeGroup.checkNames_spares (group : VolumeGroup) : Spares group.checkNames := by
  unfold checkNames
  generalize [] = seen
  induction group.logicalVolumes generalizing seen with
  | nil => exact spares_ok _
  | cons volume others ih =>
    unfold checkNames.go
    split
    · exact ih seen
    · split
      · exact spares_leaf rfl not_false
      · exact ih _

theorem Btrfs.checkNames_spares (volume : Btrfs) : Spares volume.checkNames := by
  unfold checkNames
  generalize [] = seen
  induction volume.subvolumes generalizing seen with
  | nil => exact spares_ok _
  | cons subvolume others ih =>
    unfold checkNames.go
    split
    · exact spares_leaf rfl not_false
    · split
      · exact spares_leaf rfl not_false
      · exact ih _

namespace Validation

theorem checkVolumes_spares (met : Met) (node : Node) : Spares (checkVolumes met node) := by
  cases node with
  | volumeGroup group =>
    by_cases hmet : met.volumeGroups = 0
    · simp only [checkVolumes, hmet, ne_eq, not_true, if_false]
      exact spares_bind group.checkNames_spares fun _ _ => spares_ok _
    · simp only [checkVolumes, hmet, ne_eq, not_false_iff, if_true]
      exact spares_leaf rfl not_false
  | btrfs volume =>
    by_cases hmet : met.btrfsVolumes = 0
    · simp only [checkVolumes, hmet, ne_eq, not_true, if_false]
      exact spares_bind volume.checkNames_spares fun _ _ => spares_ok _
    · simp only [checkVolumes, hmet, ne_eq, not_false_iff, if_true]
      exact spares_leaf rfl not_false
  | _ => exact spares_ok _

theorem checkMounted_spares (met : Met) {visit : Visit} {mountpoint : String}
    (h : visit.WellMounted) (hmountpoint : visit.node.mountpoint? = some mountpoint) :
    Spares (checkMounted met visit mountpoint) := by
  unfold checkMounted
  rw [mountpointFault?_eq_none.2 (h.mountpoint_valid mountpoint hmountpoint)]
  dsimp only
  split
  · exact spares_leaf rfl not_false
  · split
    · rename_i hplain hcontained
      have hreachable := h.boot_reachable mountpoint hmountpoint (by simpa using hplain)
      rw [Visit.isReachable, hcontained] at hreachable
      cases hreachable
    · exact spares_ok _

theorem checkVisits_spares {met : Met} {visits : List Visit}
    (h : ∀ visit ∈ visits, visit.WellMounted) : Spares (checkVisits met visits).result := by
  induction visits generalizing met with
  | nil => exact spares_ok _
  | cons visit others ih =>
    obtain ⟨hvisit, hothers⟩ := List.forall_mem_cons.1 h
    unfold checkVisits checkVisit
    simp only [Logged.result_bind, Logged.result_lift]
    refine spares_bind (spares_bind (checkVolumes_spares met visit.node) fun met _ => ?_)
      fun met _ => ih hothers
    cases hmountpoint : visit.node.mountpoint? with
    | none => exact spares_ok _
    | some mountpoint =>
      simp only [Logged.result_bind, Logged.result_note, ok_bind, Logged.result_lift]
      exact checkMounted_spares met hvisit hmountpoint

theorem checkAllSectors_spares (index : Nat) (partitions : List Partition) :
    Spares (checkAllSectors index partitions) := by
  induction partitions generalizing index with
  | nil => exact spares_ok _
  | cons partition others ih =>
    refine spares_bind ?_ fun _ _ => ih (index + 1)
    unfold checkSectors
    split
    · exact spares_ok _
    · exact spares_leaf rfl not_false

theorem checkTotal_spares (table : PartitionTable) : Spares (checkTotal table) := by
  unfold checkTotal
  split
  · exact spares_leaf rfl not_false
  · exact spares_ok _

theorem checkDevice_spares (device : String) (size : Nat) (payload : Option Payload) :
    Spares (checkDevice device size payload) := by
  unfold checkDevice
  split
  · exact spares_leaf rfl not_false
  · cases payload with
    | none => exact spares_ok _
    | some payload =>
      dsimp only
      split
      · exact spares_leaf rfl not_false
      · exact spares_ok _

theorem checkNode_spares (node : Node) : Spares (checkNode node) := by
  cases node with
  | partition index partition => exact checkDevice_spares _ _ _
  | logicalVolume volume => exact checkDevice_spares _ _ _
  | _ => exact spares_ok _

end Validation

/-- The check of a table that is well mounted never refuses a mountpoint. -/
theorem PartitionTable.WellMounted.validate_spares {table : PartitionTable}
    (h : table.WellMounted) : Spares table.validate.result := by
  unfold validate validateStructure
  simp only [Logged.result_bind, Logged.result_lift]
  refine spares_bind (spares_bind (checkAllSectors_spares _ _) fun _ _ =>
    spares_bind (checkTotal_spares table) fun _ _ =>
      checkVisits_spares (wellMounted_iff.1 h)) fun _ _ => ?_
  exact spares_forM fun visit _ => checkNode_spares visit.node

end DiskLayout
