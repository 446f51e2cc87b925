import DiskLayout.Proofs.Allocation.Stability

/-!
# The least sizing

Resizing a table for minimums is the least that one can do for them.  A sizing of a table is the
same table with sizes that are no smaller, and it is admissible if every device holds its payload
and gives what is mounted in it its minimum, in whole extents or grains, and every btrfs volume
holds its subvolumes.  Resizing gives an admissible sizing, and no admissible sizing has a size
below it; that it is idempotent and monotone follows.

## Main definitions

* `PartitionTable.SizedBelow` — tables that differ in nothing but sizes, none of which is smaller
* `Payload.occupied` — the space that a payload takes from its device
* `Node.Admissible`, `PartitionTable.Admissible` — the sizings that serve the minimums
* `Minimums.AtMost` — minimums that ask for no more

## Main results

* `Payload.resize_resembles_of_admissible` — in a payload no admissible sizing stays below resizing
* `PartitionTable.resize_least` — resizing is the least admissible sizing
-/

namespace DiskLayout

open Sizing

/-! ### Tables that differ in their sizes -/

/-- Tables that differ in nothing but sizes, none of which is smaller in the second one. -/
structure PartitionTable.SizedBelow (old new : PartitionTable) : Prop where
  size : old.size ≤ new.size
  grows : old.Resembles (· ≤ ·) new
  /-- Nothing else changes: no identifier is filled in on the way, for none is on the way back. -/
  same : new.Resembles (fun _ _ => True) old

theorem PartitionTable.SizedBelow.trans {first second third : PartitionTable}
    (h : first.SizedBelow second) (h' : second.SizedBelow third) : first.SizedBelow third where
  size := Nat.le_trans h.size h'.size
  grows := h.grows.comp h'.grows fun _ _ _ => Nat.le_trans
  same := h'.same.comp h.same fun _ _ _ _ _ => trivial

section Resized

variable (minimums : Minimums)

/-- Resizing fills no identifier in, so that a payload resembles what it was before. -/
theorem Payload.resize_resembled (payload : Payload) :
    (payload.resize minimums).Resembles (fun _ _ => True) payload := by
  induction payload with
  | filesystem system => exact .refl (fun _ => trivial) (.filesystem system)
  | swap space => exact .refl (fun _ => trivial) (.swap space)
  | luks container ih =>
    rw [resize_luks]
    exact resembles_luks.2 ⟨⟨.refl _, rfl, rfl⟩, ih⟩
  | btrfs volume =>
    rw [resize_btrfs]
    refine resembles_btrfs.2 ⟨⟨.refl _, rfl, trivial⟩, List.forall₂_map_left_iff.2 ?_⟩
    exact List.forall₂_same.2 fun subvolume _ => ⟨rfl, rfl, trivial, rfl⟩
  | volumeGroup group ih =>
    rw [resize_volumeGroup]
    refine resembles_volumeGroup.2 ⟨⟨rfl, rfl⟩, List.forall₂_map_left_iff.2 ?_⟩
    refine List.forall₂_same.2 fun volume hvolume => LogicalVolume.resembles_iff.2 ?_
    refine ⟨⟨rfl, trivial⟩, ?_⟩
    change Option.Rel _ (volume.payload.map (Payload.resize minimums)) volume.payload
    cases hpayload : volume.payload with
    | none => exact .none
    | some payload => exact .some (ih volume hvolume payload hpayload)

theorem Partition.resize_resembled (partition : Partition) :
    (partition.resize minimums).Resembles (fun _ _ => True) partition := by
  refine ⟨⟨trivial, rfl, .refl _, rfl⟩, ?_⟩
  change Option.Rel _ (partition.payload.map (Payload.resize minimums)) partition.payload
  cases partition.payload with
  | none => exact .none
  | some payload => exact .some (payload.resize_resembled minimums)

/-- Resizing changes nothing but sizes and shrinks none. -/
theorem PartitionTable.sizedBelow_resize (table : PartitionTable) :
    table.SizedBelow (table.resize minimums) where
  size := by simp only [resize_eq, Nat.le_refl]
  grows := table.resize_resembles minimums
  same := by
    rw [resize_eq]
    refine ⟨.refl _, rfl, List.forall₂_map_left_iff.2 (List.forall₂_same.2 ?_)⟩
    exact fun partition _ => partition.resize_resembled minimums

end Resized

/-! ### Admissible sizings -/

/-- The space that a payload takes from its device: the least size of a filesystem, the recorded
size of a btrfs volume, the logical volumes of a group in whole extents with the metadata, and for
every encrypted container its header. -/
def Payload.occupied : Payload → Nat
  | .filesystem system => system.leastSize
  | .swap _ => 0
  | .btrfs volume => volume.size
  | .volumeGroup group =>
    (group.logicalVolumes.map fun volume => alignUp volume.size Size.extent).sum +
      Size.volumeGroupMetadata
  | .luks ⟨_, _, _, inner⟩ => inner.occupied + Size.luksHeader

@[simp] theorem Payload.occupied_luks (container : Luks) :
    (Payload.luks container).occupied = container.payload.occupied + Size.luksHeader := by
  cases container
  rfl

/-- Whether a device of a size has room for its payload, and for the minimum of what is mounted in
it, seen through encrypted containers, with the header of one that the payload is. -/
structure HasRoom (minimums : Minimums) (size : Nat) (payload : Option Payload) : Prop where
  holds : ∀ inner, payload = some inner → inner.occupied ≤ size
  serves : ∀ mountpoint, payload.bind Payload.mountpoint? = some mountpoint →
    ∀ minimum, minimums.get? mountpoint = some minimum → minimum + luksOverhead payload ≤ size

/-- Whether a node is sized as the minimums ask for it. -/
def Node.Admissible (minimums : Minimums) : Node → Prop
  | .partition _ device =>
    device.size % Size.partitionGrain = 0 ∧ HasRoom minimums device.size device.payload
  | .logicalVolume device =>
    device.size % Size.extent = 0 ∧ HasRoom minimums device.size device.payload
  | .btrfs volume =>
    Size.leastBtrfs ≤ volume.size ∧ (volume.subvolumes.map Subvolume.size).sum ≤ volume.size
  | .subvolume volume =>
    ∀ minimum, minimums.get? volume.mountpoint = some minimum → minimum ≤ volume.size
  | _ => True

/-- The sizings of a table that serve minimums: nothing but sizes differs, none is below the given
one, and every node is sized as the minimums ask for it. -/
structure PartitionTable.Admissible (minimums : Minimums) (given sized : PartitionTable) :
    Prop where
  bounds : given.SizedBelow sized
  nodes : ∀ node ∈ sized.nodes, node.Admissible minimums

/-- A payload takes no more than sizing asks for. -/
theorem Payload.occupied_le_requirement (payload : Payload) :
    payload.occupied ≤ payload.requirement := by
  induction payload with
  | luks container ih =>
    rw [occupied_luks, requirement_luks]
    exact Nat.add_le_add_right ih _
  | btrfs volume => exact Nat.le_max_left _ _
  | _ => exact Nat.le_refl _

/-- In an admissible sizing a payload takes all that sizing asks for, for there the btrfs volumes
are large enough. -/
theorem Payload.requirement_le_occupied {minimums : Minimums} {payload : Payload}
    (h : payload.All (Node.Admissible minimums)) : payload.requirement ≤ payload.occupied := by
  induction payload with
  | luks container ih =>
    rw [occupied_luks, requirement_luks]
    exact Nat.add_le_add_right (ih (all_luks.1 h).2) _
  | btrfs volume =>
    obtain ⟨⟨hleast, htotal⟩, -⟩ := all_btrfs.1 h
    exact Nat.max_le.2 ⟨Nat.le_refl _, Nat.max_le.2 ⟨htotal, hleast⟩⟩
  | _ => exact Nat.le_refl _

theorem luksOverhead_le_occupied (payload : Payload) :
    luksOverhead (some payload) ≤ payload.occupied := by
  cases payload with
  | luks container =>
    rw [Payload.occupied_luks]
    exact Nat.le_add_left _ _
  | _ => exact Nat.zero_le _

section Nodes

variable {minimums : Minimums} {node : Node}

theorem HasRoom.of_deviceSize_le {size : Nat} {payload : Option Payload}
    (h : deviceSize minimums 0 payload ≤ size) : HasRoom minimums size payload := by
  obtain ⟨-, hrequired, hminimum⟩ := deviceSize_le_iff.1 h
  exact ⟨fun inner hinner => Nat.le_trans inner.occupied_le_requirement (hrequired inner hinner),
    hminimum⟩

/-- A node that is sufficient and rounded is sized as the minimums ask for it. -/
theorem Node.admissible_of_sufficient (h : node.Sufficient minimums) (hrounded : node.Rounded) :
    node.Admissible minimums := by
  cases node with
  | partition index device => exact ⟨hrounded, .of_deviceSize_le h.2⟩
  | logicalVolume device => exact ⟨h.1, .of_deviceSize_le h.2⟩
  | btrfs volume => exact (Nat.max_le.1 hrounded).symm
  | subvolume volume =>
    intro minimum hminimum
    change (minimums.get? volume.mountpoint).getD 0 ≤ volume.size at h
    rwa [hminimum] at h
  | _ => trivial

/-- Resizing gives an admissible sizing. -/
theorem PartitionTable.resize_admissible (minimums : Minimums) (table : PartitionTable) :
    table.Admissible minimums (table.resize minimums) where
  bounds := table.sizedBelow_resize minimums
  nodes node hnode := Node.admissible_of_sufficient
    ((table.resize_sufficient minimums).of_mem_nodes hnode)
    ((table.resize_rounded minimums).of_mem_nodes node hnode)

end Nodes

/-! ### Larger sizes -/

theorem VolumeGroup.requiredSize_le {old new : VolumeGroup}
    (h : (Payload.volumeGroup old).Resembles (· ≤ ·) (.volumeGroup new)) :
    old.requiredSize ≤ new.requiredSize := by
  obtain ⟨-, hvolumes⟩ := Payload.resembles_volumeGroup.1 h
  refine Nat.add_le_add_right (List.Forall₂.sum_le_sum ?_) _
  refine List.rel_map (fun old new hvolume => ?_) hvolumes
  exact alignUp_mono Size.extent_ne_zero (LogicalVolume.resembles_iff.1 hvolume).1.size

theorem Btrfs.requiredSize_le {old new : Btrfs}
    (h : (Payload.btrfs old).Resembles (· ≤ ·) (.btrfs new)) :
    old.requiredSize ≤ new.requiredSize := by
  obtain ⟨-, hsubvolumes⟩ := Payload.resembles_btrfs.1 h
  have hsizes := List.rel_map (fun _ _ hsubvolume => hsubvolume.size) hsubvolumes
  have hsum := List.Forall₂.sum_le_sum hsizes
  exact Nat.max_le.2 ⟨Nat.le_trans hsum (Nat.le_max_left _ _), Nat.le_max_right _ _⟩

/-- A payload whose sizes are larger asks for no less space. -/
theorem Payload.Resembles.requirement_le {old new : Payload} (h : old.Resembles (· ≤ ·) new) :
    old.requirement ≤ new.requirement := by
  induction old generalizing new with
  | filesystem system =>
    obtain ⟨_, rfl, halike⟩ := resembles_filesystem_left.1 h
    exact Nat.le_of_eq (congrArg FilesystemType.leastSize halike.kind.symm)
  | swap space =>
    obtain ⟨_, rfl, -⟩ := resembles_swap_left.1 h
    exact Nat.le_refl _
  | btrfs volume =>
    obtain ⟨_, rfl, halike, -⟩ := resembles_btrfs_left.1 h
    have hrequired := Btrfs.requiredSize_le h
    exact Nat.max_le.2 ⟨Nat.le_trans halike.size (Nat.le_max_left _ _),
      Nat.le_trans hrequired (Nat.le_max_right _ _)⟩
  | luks container ih =>
    obtain ⟨_, rfl, -, hinner⟩ := resembles_luks_left.1 h
    rw [requirement_luks, requirement_luks]
    exact Nat.add_le_add_right (ih hinner) _
  | volumeGroup group _ =>
    obtain ⟨_, rfl, -⟩ := resembles_volumeGroup_left.1 h
    exact VolumeGroup.requiredSize_le h

/-! ### Nothing admissible is smaller -/

section Least

variable {minimums : Minimums}

/-- What a device must have for a payload fits any room that an admissible payload with larger
sizes has. -/
theorem deviceSize_le_of_hasRoom {old new : Option Payload} {size bound : Nat}
    (hpayload : Option.Rel (Payload.Resembles (· ≤ ·)) old new)
    (hall : ∀ payload, new = some payload → payload.All (Node.Admissible minimums))
    (hroom : HasRoom minimums bound new) (hsize : size ≤ bound) :
    deviceSize minimums size old ≤ bound := by
  refine deviceSize_le_iff.2 ⟨hsize, ?_⟩
  cases hpayload with
  | none => simp
  | @some inner larger hinner =>
    constructor
    · rintro _ ⟨⟩
      calc inner.requirement
        _ ≤ larger.requirement := hinner.requirement_le
        _ ≤ larger.occupied := larger.requirement_le_occupied (hall larger rfl)
        _ ≤ bound := hroom.holds larger rfl
    · intro mountpoint hmounted minimum hminimum
      rw [Option.bind_some, ← hinner.mountpoint?_eq] at hmounted
      rw [← hinner.luksOverhead_eq]
      exact hroom.serves mountpoint hmounted minimum hminimum

theorem Subvolume.Alike.resize {old new : Subvolume} (h : old.Alike (· ≤ ·) new)
    (hadmissible : (Node.subvolume new).Admissible minimums) :
    (old.resize minimums).Alike (· ≤ ·) new := by
  refine ⟨h.name, h.mountpoint, Nat.max_le.2 ⟨h.size, ?_⟩, h.compress⟩
  cases hminimum : minimums.get? old.mountpoint with
  | none => exact Nat.zero_le _
  | some minimum => exact hadmissible minimum (h.mountpoint ▸ hminimum)

/-- In a payload no admissible sizing stays below resizing. -/
theorem Payload.resize_resembles_of_admissible {old new : Payload}
    (h : old.Resembles (· ≤ ·) new) (hall : new.All (Node.Admissible minimums)) :
    (old.resize minimums).Resembles (· ≤ ·) new := by
  induction old generalizing new with
  | filesystem system => exact h
  | swap space => exact h
  | luks container ih =>
    obtain ⟨_, rfl, halike, hinner⟩ := resembles_luks_left.1 h
    rw [resize_luks]
    exact resembles_luks.2 ⟨⟨halike.uuid, halike.label, halike.cipher⟩,
      ih hinner (all_luks.1 hall).2⟩
  | btrfs volume =>
    obtain ⟨larger, rfl, halike, hsubvolumes⟩ := resembles_btrfs_left.1 h
    obtain ⟨⟨hleast, htotal⟩, hminimum⟩ := all_btrfs.1 hall
    -- The subvolumes come first, for the volume must hold them as they are afterwards.
    have hresized : List.Forall₂ (Subvolume.Alike (· ≤ ·))
        (volume.subvolumes.map (Subvolume.resize minimums)) larger.subvolumes := by
      refine List.forall₂_map_left_iff.2 (forall₂_imp_of_mem hsubvolumes ?_)
      exact fun old _ new hnew halike => halike.resize (hminimum new hnew)
    have hsizes := List.rel_map (fun _ _ hsubvolume => hsubvolume.size) hresized
    have hsum := List.Forall₂.sum_le_sum hsizes
    rw [resize_btrfs]
    refine resembles_btrfs.2 ⟨⟨halike.uuid, halike.label, Nat.max_le.2 ⟨halike.size, ?_⟩⟩, hresized⟩
    exact Nat.max_le.2 ⟨Nat.le_trans hsum htotal, hleast⟩
  | volumeGroup group ih =>
    obtain ⟨larger, rfl, halike, hvolumes⟩ := resembles_volumeGroup_left.1 h
    obtain ⟨-, hadmissible⟩ := all_volumeGroup.1 hall
    rw [resize_volumeGroup]
    refine resembles_volumeGroup.2 ⟨⟨halike.name, halike.description⟩, ?_⟩
    refine List.forall₂_map_left_iff.2 (forall₂_imp_of_mem hvolumes ?_)
    intro old hold new hnew hvolume
    obtain ⟨hown, hpayload⟩ := LogicalVolume.resembles_iff.1 hvolume
    obtain ⟨⟨hextents, hroom⟩, hinside⟩ := hadmissible new hnew
    -- A volume grows for its payload as it is after resizing, which is still below the new one.
    have hresized : Option.Rel (Payload.Resembles (· ≤ ·))
        (old.payload.map (Payload.resize minimums)) new.payload := by
      generalize hinner : old.payload = inner, hother : new.payload = other at hpayload
      cases hpayload with
      | none => exact .none
      | some hpayload => exact .some (ih old hold _ hinner hpayload (hinside _ hother))
    refine LogicalVolume.resembles_iff.2 ⟨⟨hown.name, ?_⟩, hresized⟩
    exact (alignUp_le_iff hextents).2 (deviceSize_le_of_hasRoom hresized hinside hroom hown.size)

theorem Partition.resize_resembles_of_admissible {old new : Partition}
    (h : old.Resembles (· ≤ ·) new) (hgrains : new.size % Size.partitionGrain = 0)
    (hroom : HasRoom minimums new.size new.payload)
    (hall : ∀ payload, new.payload = some payload → payload.All (Node.Admissible minimums)) :
    (old.resize minimums).Resembles (· ≤ ·) new := by
  obtain ⟨hown, hpayload⟩ := h
  have hresized : Option.Rel (Payload.Resembles (· ≤ ·))
      (old.payload.map (Payload.resize minimums)) new.payload := by
    generalize old.payload = inner, hother : new.payload = other at hpayload
    cases hpayload with
    | none => exact .none
    | some hpayload => exact .some (Payload.resize_resembles_of_admissible hpayload (hall _ hother))
  refine ⟨⟨?_, hown.kind, hown.uuid, hown.bootable⟩, hresized⟩
  exact (alignUp_le_iff hgrains).2 (deviceSize_le_of_hasRoom hresized hall hroom hown.size)

/-- No admissible sizing of a table stays below the one that resizing gives. -/
theorem PartitionTable.Admissible.resize_sizedBelow {given sized : PartitionTable}
    (h : given.Admissible minimums sized) : (given.resize minimums).SizedBelow sized where
  size := by
    rw [resize_eq]
    exact h.bounds.size
  grows := by
    obtain ⟨huuid, hkind, hpartitions⟩ := h.bounds.grows
    rw [resize_eq]
    refine ⟨huuid, hkind, List.forall₂_map_left_iff.2 (forall₂_imp_of_mem hpartitions ?_)⟩
    intro old _ new hnew hpartition
    obtain ⟨index, hindex⟩ := List.mem_iff_getElem?.1 hnew
    obtain ⟨⟨hgrains, hroom⟩, hall⟩ := forall_mem_nodes.1 h.nodes index new hindex
    exact Partition.resize_resembles_of_admissible hpartition hgrains hroom hall
  same := h.bounds.same.comp (given.sizedBelow_resize minimums).grows fun _ _ _ _ _ => trivial

end Least

/-! ### Minimums -/

/-- Whether minimums ask for no more than others do, where none that is missing asks for any. -/
def Minimums.AtMost (minimums others : Minimums) : Prop :=
  ∀ mountpoint, (minimums.get? mountpoint).getD 0 ≤ (others.get? mountpoint).getD 0

section Minimums

variable {minimums others : Minimums}

theorem Minimums.AtMost.of_get? (h : minimums.AtMost others) {mountpoint : String} {minimum : Nat}
    (hminimum : minimums.get? mountpoint = some minimum) :
    minimum = 0 ∨ ∃ other, others.get? mountpoint = some other ∧ minimum ≤ other := by
  have hle := h mountpoint
  rw [hminimum] at hle
  cases hother : others.get? mountpoint with
  | none =>
    rw [hother] at hle
    exact .inl (Nat.le_zero.1 hle)
  | some other =>
    rw [hother] at hle
    exact .inr ⟨other, rfl, hle⟩

theorem HasRoom.mono (hminimums : minimums.AtMost others) {size : Nat} {payload : Option Payload}
    (h : HasRoom others size payload) : HasRoom minimums size payload := by
  refine ⟨h.holds, fun mountpoint hmounted minimum hminimum => ?_⟩
  obtain ⟨inner, rfl, -⟩ := Option.bind_eq_some_iff.1 hmounted
  rcases hminimums.of_get? hminimum with rfl | ⟨other, hother, hle⟩
  · -- The header of a container is part of what the payload takes.
    rw [Nat.zero_add]
    exact Nat.le_trans (luksOverhead_le_occupied inner) (h.holds inner rfl)
  · exact Nat.le_trans (Nat.add_le_add_right hle _) (h.serves mountpoint hmounted other hother)

/-- What serves minimums serves those that ask for no more. -/
theorem Node.Admissible.mono (hminimums : minimums.AtMost others) {node : Node}
    (h : node.Admissible others) : node.Admissible minimums := by
  cases node with
  | partition index device => exact ⟨h.1, h.2.mono hminimums⟩
  | logicalVolume device => exact ⟨h.1, h.2.mono hminimums⟩
  | btrfs volume => exact h
  | subvolume volume =>
    intro minimum hminimum
    rcases hminimums.of_get? hminimum with rfl | ⟨other, hother, hle⟩
    · exact Nat.zero_le _
    · exact Nat.le_trans hle (h other hother)
  | _ => trivial

end Minimums

/-- Resizing gives the least admissible sizing of a table: it is admissible, and no size is smaller
in any other one.  So it shrinks nothing and changes nothing but sizes, resizing twice is resizing
once, and larger sizes and minimums never give smaller sizes. -/
theorem PartitionTable.resize_least (minimums : Minimums) (table : PartitionTable) :
    table.Admissible minimums (table.resize minimums) ∧
    (∀ sized, table.Admissible minimums sized → (table.resize minimums).SizedBelow sized) ∧
    table.SizedBelow (table.resize minimums) ∧
    (table.resize minimums).resize minimums = table.resize minimums ∧
    ∀ (others : Minimums) (larger : PartitionTable), minimums.AtMost others →
      table.SizedBelow larger → (table.resize minimums).SizedBelow (larger.resize others) := by
  refine ⟨table.resize_admissible minimums, fun sized h => h.resize_sizedBelow,
    table.sizedBelow_resize minimums,
    resize_eq_self (table.resize_sufficient minimums) (table.resize_rounded minimums), ?_⟩
  intro others larger hminimums hlarger
  -- What resizing makes of the larger table is admissible for the smaller one as well.
  have hadmissible := larger.resize_admissible others
  have hsized : table.Admissible minimums (larger.resize others) :=
    ⟨hlarger.trans hadmissible.bounds, fun node hnode => (hadmissible.nodes node hnode).mono hminimums⟩
  exact hsized.resize_sizedBelow

theorem PartitionTable.resize_least_halfEmpty :
    ∃ sized, PartitionTable.halfEmpty.Admissible .empty sized ∧
      (PartitionTable.halfEmpty.resize .empty).SizedBelow sized ∧
      (PartitionTable.halfEmpty.resize .empty).partitionsSize < sized.partitionsSize := by
  -- A sizing that also serves a minimum for the root is larger than what no minimum asks for.
  let minimums : Minimums := TextMap.empty.insert Path.root (5 * Size.gibibyte)
  have hnone : Minimums.AtMost .empty minimums := fun _ => Nat.zero_le _
  obtain ⟨hbounds, hnodes⟩ := (resize_least minimums .halfEmpty).1
  have hadmissible : PartitionTable.halfEmpty.Admissible .empty
      (PartitionTable.halfEmpty.resize minimums) :=
    ⟨hbounds, fun node hnode => (hnodes node hnode).mono hnone⟩
  exact ⟨_, hadmissible, (resize_least .empty .halfEmpty).2.1 _ hadmissible, by decide⟩

end DiskLayout
