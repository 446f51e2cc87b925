import DiskLayout.Proofs.Allocation.Identification

/-!
# The capacity of mountpoints

What is mounted in a device has the space of that device, less the header of the encrypted
container around it, and a subvolume has its own size.  In a sufficient table every mountpoint has
the capacity of its minimum: the sizing pass allows for one header, so this needs that encrypted
containers are not put directly into each other.

## Main definitions

* `Visit.capacity`, `PartitionTable.capacity?` — the space of what is mounted
* `PartitionTable.Unnested` — no encrypted container directly in another

## Main results

* `PartitionTable.Resembles.unnested` — sizing nests nothing
* `PartitionTable.Sufficient.minimum_le_capacity` — every mountpoint has its minimum
-/

namespace DiskLayout

open Sizing

/-! ### Capacity -/

/-- The space inside a node that lies in a space. -/
def Node.room (outer : Nat) : Node → Nat
  | .partition _ device => device.size
  | .logicalVolume device => device.size
  | .luks _ => outer - Size.luksHeader
  | _ => outer

/-- The space of what is mounted: the own size of a subvolume, and for a filesystem that of the
innermost device around it, less the header of an encrypted container inside that device. -/
def Visit.capacity (visit : Visit) : Nat :=
  match visit.node with
  | .subvolume volume => volume.size
  | _ => visit.ancestors.foldl Node.room 0

/-- The capacity of a mountpoint of a table. -/
def PartitionTable.capacity? (table : PartitionTable) (mountpoint : String) : Option Nat :=
  ((table.visits .parentsFirst).find? fun visit =>
    visit.node.mountpoint? == some mountpoint).map Visit.capacity

/-! ### Encrypted containers that are not nested -/

/-- Whether a node is no encrypted container with another directly in it. -/
def Node.Unnested : Node → Prop
  | .luks container => container.payload.isLuks = false
  | _ => True

/-- Whether no encrypted container of a table lies directly in another. -/
def PartitionTable.Unnested (table : PartitionTable) : Prop :=
  ∀ node ∈ table.nodes, node.Unnested

/-- Whether no encrypted container of a partition lies directly in another. -/
def Partition.Unnested (partition : Partition) : Prop :=
  ∀ payload, partition.payload = some payload → payload.All Node.Unnested

theorem PartitionTable.unnested_iff {table : PartitionTable} :
    table.Unnested ↔ ∀ partition ∈ table.partitions, partition.Unnested := by
  unfold Unnested
  rw [forall_mem_nodes]
  constructor
  · intro h partition hmem
    obtain ⟨index, hindex⟩ := List.mem_iff_getElem?.1 hmem
    exact (h index partition hindex).2
  · intro h index partition hindex
    exact ⟨trivial, h partition (List.mem_of_getElem? hindex)⟩

theorem Payload.Resembles.isLuks_eq {sizes : Nat → Nat → Prop} {old new : Payload}
    (h : old.Resembles sizes new) : new.isLuks = old.isLuks := by
  cases h.byKind <;> rfl

theorem Node.Resembles.unnested {sizes : Nat → Nat → Prop} {old new : Node}
    (h : old.Resembles sizes new) (hold : old.Unnested) : new.Unnested := by
  cases h with
  | luks hcontainer =>
    obtain ⟨-, hinner⟩ := Payload.resembles_luks.1 hcontainer
    exact hinner.isLuks_eq.trans hold
  | _ => trivial

/-- Tables that resemble each other nest their encrypted containers alike. -/
theorem PartitionTable.Resembles.unnested {sizes : Nat → Nat → Prop} {old new : PartitionTable}
    (h : old.Resembles sizes new) (hold : old.Unnested) : new.Unnested :=
  forall_mem_transport (nodes_resemble h) (fun _ _ hnode => hnode.unnested) hold

/-! ### Sufficient capacity -/

theorem luksOverhead_of_not_isLuks {payload : Payload} (h : payload.isLuks = false) :
    luksOverhead (some payload) = 0 := by
  cases payload with
  | luks container => cases h
  | _ => rfl

section Sufficient

variable {minimums : Minimums}

/-- A payload in enough room for what is mounted directly in it has the capacity of the minimum of
everything that is mounted in it. -/
theorem Payload.minimum_le_capacity {payload : Payload} {ancestors : List Node}
    (hsufficient : payload.All (Node.Sufficient minimums)) (hunnested : payload.All Node.Unnested)
    (hroom : ∀ mountpoint, payload.mountpoint? = some mountpoint →
      ∀ minimum, minimums.get? mountpoint = some minimum →
        minimum + luksOverhead (some payload) ≤ ancestors.foldl Node.room 0) :
    ∀ visit ∈ payload.visits .parentsFirst ancestors, ∀ mountpoint,
      visit.node.mountpoint? = some mountpoint →
        (minimums.get? mountpoint).getD 0 ≤ visit.capacity := by
  induction payload generalizing ancestors with
  | filesystem system =>
    intro visit hvisit mountpoint hmounted
    obtain rfl := List.mem_singleton.1 hvisit
    cases hminimum : minimums.get? mountpoint with
    | none => exact Nat.zero_le _
    | some minimum => exact hroom mountpoint hmounted minimum hminimum
  | swap space =>
    intro visit hvisit mountpoint hmounted
    obtain rfl := List.mem_singleton.1 hvisit
    cases hmounted
  | btrfs volume =>
    intro visit hvisit mountpoint hmounted
    rw [visits_btrfs, WalkOrder.mem_arrange, List.mem_map] at hvisit
    rcases hvisit with rfl | ⟨subvolume, hsubvolume, rfl⟩
    · cases hmounted
    · obtain rfl := Option.some.inj hmounted
      exact (all_btrfs.1 hsufficient).2 subvolume hsubvolume
  | luks container ih =>
    obtain ⟨-, hsufficient⟩ := all_luks.1 hsufficient
    obtain ⟨hplain, hunnested⟩ := all_luks.1 hunnested
    intro visit hvisit mountpoint hmounted
    rw [visits_luks, WalkOrder.mem_arrange] at hvisit
    rcases hvisit with rfl | hvisit
    · cases hmounted
    · -- The device has room for one header, and nothing inside takes a second one.
      refine ih hsufficient hunnested (fun inner hinner minimum hminimum => ?_) visit hvisit
        mountpoint hmounted
      have hle := hroom inner (mountpoint?_luks container ▸ hinner) minimum hminimum
      have hheader : luksOverhead (some (.luks container)) = Size.luksHeader := rfl
      rw [hheader] at hle
      rw [List.foldl_append, luksOverhead_of_not_isLuks hplain, List.foldl_cons, List.foldl_nil,
        Node.room, Nat.add_zero]
      exact Nat.le_sub_of_add_le hle
  | volumeGroup group ih =>
    obtain ⟨-, hsufficient⟩ := all_volumeGroup.1 hsufficient
    obtain ⟨-, hunnested⟩ := all_volumeGroup.1 hunnested
    intro visit hvisit mountpoint hmounted
    rw [visits_volumeGroup, WalkOrder.mem_arrange, logicalVolumeVisits_eq_flatMap,
      List.mem_flatMap] at hvisit
    rcases hvisit with rfl | ⟨volume, hvolume, hvisit⟩
    · cases hmounted
    · rw [LogicalVolume.visits_eq, WalkOrder.mem_arrange, List.mem_flatMap] at hvisit
      rcases hvisit with rfl | ⟨payload, hmem, hvisit⟩
      · cases hmounted
      · have hpayload := Option.mem_toList.1 hmem
        refine ih volume hvolume payload hpayload ((hsufficient volume hvolume).2 payload hpayload)
          ((hunnested volume hvolume).2 payload hpayload) (fun inner hinner minimum hminimum => ?_)
          visit hvisit mountpoint hmounted
        -- The volume is the innermost device now, and it is sufficient for what it mounts.
        rw [List.foldl_append, ← hpayload]
        refine (deviceSize_le_iff.1 (hsufficient volume hvolume).1.2).2.2 inner ?_ minimum hminimum
        rw [hpayload]
        exact hinner

theorem PartitionTable.exists_of_mem_visits {table : PartitionTable} {order : WalkOrder}
    {visit : Visit} (h : visit ∈ table.visits order) :
    ∃ partition ∈ table.partitions, ∃ index, visit ∈ partition.visits order index := by
  unfold visits at h
  generalize 0 = start at h
  generalize table.partitions = partitions at h ⊢
  induction partitions generalizing start with
  | nil => cases h
  | cons partition others ih =>
    rcases List.mem_append.1 h with h | h
    · exact ⟨partition, List.mem_cons_self, start, h⟩
    · obtain ⟨other, hother, index, hvisit⟩ := ih (start + 1) h
      exact ⟨other, List.mem_cons_of_mem _ hother, index, hvisit⟩

/-- Everything that is mounted in a sufficient table has the capacity of its minimum. -/
theorem PartitionTable.Sufficient.minimum_le_of_mem_visits {table : PartitionTable}
    (h : table.Sufficient minimums) (hunnested : table.Unnested) {visit : Visit}
    (hvisit : visit ∈ table.visits .parentsFirst) {mountpoint : String}
    (hmounted : visit.node.mountpoint? = some mountpoint) :
    (minimums.get? mountpoint).getD 0 ≤ visit.capacity := by
  obtain ⟨partition, hmem, index, hvisit⟩ := PartitionTable.exists_of_mem_visits hvisit
  rw [Partition.visits_parentsFirst, List.mem_cons, List.mem_flatMap] at hvisit
  rcases hvisit with rfl | ⟨payload, hpayload, hvisit⟩
  · cases hmounted
  · have hdevice := h partition hmem
    rw [Option.mem_toList] at hpayload
    refine Payload.minimum_le_capacity (hdevice.payload payload hpayload)
      (PartitionTable.unnested_iff.1 hunnested partition hmem payload hpayload)
      (fun inner hinner minimum hminimum => ?_) visit hvisit mountpoint hmounted
    rw [← hpayload]
    refine (deviceSize_le_iff.1 hdevice.size).2.2 inner ?_ minimum hminimum
    rw [hpayload]
    exact hinner

/-- Every mountpoint of a sufficient table has the capacity of its minimum. -/
theorem PartitionTable.Sufficient.minimum_le_capacity {table : PartitionTable}
    (h : table.Sufficient minimums) (hunnested : table.Unnested) {mountpoint : String}
    (hmounted : mountpoint ∈ table.mountpoints) :
    ∃ capacity, table.capacity? mountpoint = some capacity ∧
      (minimums.get? mountpoint).getD 0 ≤ capacity := by
  obtain ⟨visit, hvisit, hnode⟩ := List.mem_filterMap.1 hmounted
  cases hfound : (table.visits .parentsFirst).find? fun visit =>
      visit.node.mountpoint? == some mountpoint with
  | none =>
    have hnot := List.find?_eq_none.1 hfound visit hvisit
    simp [hnode] at hnot
  | some found =>
    refine ⟨found.capacity, by rw [PartitionTable.capacity?, hfound]; rfl, ?_⟩
    have hfoundNode : found.node.mountpoint? = some mountpoint := by
      simpa using List.find?_some hfound
    exact h.minimum_le_of_mem_visits hunnested (List.mem_of_find?_eq_some hfound) hfoundNode

end Sufficient

end DiskLayout
