import DiskLayout.Proofs.Allocation.Resizing
import DiskLayout.Proofs.Table.Content

/-!
# Growth of partitions

A partition that grows takes the volume group in it along, whose root volume gets the free
extents, and a btrfs volume takes the size of the space around it.  Both steps keep a partition
sufficient: the free extents are those that the physical volume has left, and the space around a
btrfs volume was large enough for it before.

## Main definitions

* `Partition.SubtractsSafely` — a partition whose overheads never exceed what they are taken from

## Main results

* `Payload.requiredSize_le_requirement` — sizing asks for no less than the final check
* `VolumeGroup.growRootVolume_requiredSize_le` — a grown volume group still fits its device
* `growPartition_sufficient`, `growPartition_resembles` — growth of a partition
* `syncPartition_sufficient`, `syncPartition_resembles` — synchronization of a partition
-/

namespace DiskLayout

open Sizing

/-! ### Requirements -/

@[simp] theorem Payload.requirement_luks (container : Luks) :
    (Payload.luks container).requirement = container.payload.requirement + Size.luksHeader := by
  cases container
  rfl

@[simp] theorem Payload.requiredSize_luks (container : Luks) :
    (Payload.luks container).requiredSize = container.payload.requiredSize + Size.luksHeader := by
  cases container
  rfl

/-- Sizing never asks for less than the final check. -/
theorem Payload.requiredSize_le_requirement (payload : Payload) :
    payload.requiredSize ≤ payload.requirement := by
  induction payload with
  | luks container ih =>
    rw [requiredSize_luks, requirement_luks]
    exact Nat.add_le_add_right ih _
  | btrfs volume => exact Nat.le_max_right _ _
  | _ => exact Nat.le_refl _

theorem luksOverhead_le_requirement (payload : Payload) :
    luksOverhead (some payload) ≤ payload.requirement := by
  cases payload with
  | luks container =>
    rw [Payload.requirement_luks]
    exact Nat.le_add_left _ _
  | _ => exact Nat.zero_le _

/-- A sufficient partition has room for the header of an encrypted container in it. -/
theorem Partition.Sufficient.luksOverhead_le {minimums : Minimums} {partition : Partition}
    (h : partition.Sufficient minimums) : luksOverhead partition.payload ≤ partition.size := by
  have hrequired := (deviceSize_le_iff.1 h.size).2.1
  cases hpayload : partition.payload with
  | none => exact Nat.zero_le _
  | some payload => exact Nat.le_trans (luksOverhead_le_requirement payload) (hrequired _ hpayload)

/-! ### The root volume of a volume group -/

namespace VolumeGroup

variable {minimums : Minimums} {group : VolumeGroup} {room : Nat}

/-- The root volume grows where it stands, and no other volume changes. -/
theorem growRootVolume_cases (room : Nat) (group : VolumeGroup) :
    growRootVolume room group = group ∨
      ∃ before root after, group.logicalVolumes = before ++ root :: after ∧
        growRootVolume room group = { group with
          logicalVolumes := before ++ enlarge (freeSpace group room) root :: after } := by
  unfold growRootVolume
  cases hindex : group.logicalVolumes.findIdx? isRootVolume with
  | none => exact .inl rfl
  | some index =>
    have hlt := (List.findIdx?_eq_some_iff_findIdx_eq.1 hindex).1
    obtain ⟨before, root, after, hsplit, -, -, hmodify⟩ := modify_split hlt
    refine .inr ⟨before, root, after, hsplit, ?_⟩
    exact congrArg (fun volumes => ({ group with logicalVolumes := volumes } : VolumeGroup))
      (hmodify _)

/-- The space that whole logical volumes use is whole extents. -/
theorem used_mod (group : VolumeGroup) :
    (group.requiredSize - Size.volumeGroupMetadata) % Size.extent = 0 := by
  unfold requiredSize
  rw [Nat.add_sub_cancel]
  refine Size.sum_mod fun size hsize => ?_
  obtain ⟨volume, -, rfl⟩ := List.mem_map.1 hsize
  exact alignUp_mod _ Size.extent_ne_zero

theorem metadata_le_requiredSize (group : VolumeGroup) :
    Size.volumeGroupMetadata ≤ group.requiredSize :=
  Nat.le_add_left _ _

/-- The logical volumes of a group that fits its device fit the usable space of the device. -/
theorem used_le_usableSize (hroom : group.requiredSize ≤ room) :
    group.requiredSize - Size.volumeGroupMetadata ≤ usableSize room :=
  (le_alignDown_iff group.used_mod).2 (Nat.sub_le_sub_right hroom _)

theorem freeSpace_mod (group : VolumeGroup) (room : Nat) :
    freeSpace group room % Size.extent = 0 := by
  have husable := alignDown_mod (room - Size.volumeGroupMetadata) Size.extent_ne_zero
  have hused := group.used_mod
  unfold freeSpace usableSize
  exact Nat.mod_eq_zero_of_dvd
    (Nat.dvd_sub (Nat.dvd_of_mod_eq_zero husable) (Nat.dvd_of_mod_eq_zero hused))

/-- A grown volume group still fits its device. -/
theorem growRootVolume_requiredSize_le
    (hextents : ∀ volume ∈ group.logicalVolumes, volume.size % Size.extent = 0)
    (hroom : group.requiredSize ≤ room) :
    (growRootVolume room group).requiredSize ≤ room := by
  rcases growRootVolume_cases room group with hsame | ⟨before, root, after, hsplit, hgrown⟩
  · rw [hsame]
    exact hroom
  · -- All volumes are whole extents already, so the group needs exactly the free space more.
    have hroot : alignUp root.size Size.extent = root.size :=
      alignUp_of_mod (hextents root (by simp [hsplit]))
    have hrootGrown : alignUp (root.size + freeSpace group room) Size.extent =
        root.size + freeSpace group room := by
      refine alignUp_of_mod ?_
      rw [Nat.add_mod, hextents root (by simp [hsplit]), group.freeSpace_mod, Nat.add_zero,
        Nat.zero_mod]
    have hrequired : (growRootVolume room group).requiredSize =
        group.requiredSize + freeSpace group room := by
      rw [hgrown, requiredSize, requiredSize, hsplit]
      simp only [List.map_append, List.map_cons, enlarge, List.sum_append, List.sum_cons,
        hroot, hrootGrown]
      omega
    -- The free space is what the usable space leaves, which never exceeds the room.
    have husable : usableSize room ≤ room - Size.volumeGroupMetadata := alignDown_le _ _
    have hused := used_le_usableSize hroom
    have hmetadata := group.metadata_le_requiredSize
    rw [hrequired]
    unfold freeSpace
    omega

theorem growRootVolume_sufficient
    (h : ∀ volume ∈ group.logicalVolumes, volume.All (Node.Sufficient minimums)) :
    ∀ volume ∈ (growRootVolume room group).logicalVolumes,
      volume.All (Node.Sufficient minimums) := by
  rcases growRootVolume_cases room group with hsame | ⟨before, root, after, hsplit, hgrown⟩
  · rw [hsame]
    exact h
  · rw [hsplit, List.forall_mem_append, List.forall_mem_cons] at h
    obtain ⟨hbefore, hroot, hafter⟩ := h
    rw [hgrown]
    refine List.forall_mem_append.2 ⟨hbefore, List.forall_mem_cons.2 ⟨⟨⟨?_, ?_⟩, hroot.2⟩, hafter⟩⟩
    · change (alignUp root.size Size.extent + freeSpace group room) % Size.extent = 0
      rw [Nat.add_mod, alignUp_mod _ Size.extent_ne_zero, group.freeSpace_mod, Nat.add_zero,
        Nat.zero_mod]
    · calc deviceSize minimums 0 root.payload
        _ ≤ root.size := hroot.1.2
        _ ≤ alignUp root.size Size.extent := le_alignUp _ _
        _ ≤ alignUp root.size Size.extent + freeSpace group room := Nat.le_add_right _ _

theorem growRootVolume_resembles (room : Nat) (group : VolumeGroup) :
    (Payload.volumeGroup group).Resembles (· ≤ ·) (.volumeGroup (growRootVolume room group)) := by
  have hrefl := LogicalVolume.Resembles.refl Nat.le_refl
  rcases growRootVolume_cases room group with hsame | ⟨before, root, after, hsplit, hgrown⟩
  · rw [hsame]
    exact .refl Nat.le_refl _
  · rw [hgrown]
    refine Payload.resembles_volumeGroup.2 ⟨⟨rfl, rfl⟩, ?_⟩
    rw [hsplit]
    refine List.rel_append (List.forall₂_same.2 fun volume _ => hrefl volume)
      (.cons ?_ (List.forall₂_same.2 fun volume _ => hrefl volume))
    have hroot := LogicalVolume.resembles_iff.1 (hrefl root)
    refine LogicalVolume.resembles_iff.2 ⟨⟨rfl, ?_⟩, hroot.2⟩
    exact Nat.le_trans (le_alignUp root.size Size.extent) (Nat.le_add_right _ _)

end VolumeGroup

/-! ### A change of the content -/

section Content

variable {minimums : Minimums} {partition : Partition} {inner : Payload}

/-- A sufficient partition has room for its content behind the header of a container. -/
theorem Partition.Sufficient.requirement_le_innerSize (h : partition.Sufficient minimums)
    (hcontent : partition.content? = some inner) : inner.requirement ≤ innerSize partition := by
  have hrequired := (deviceSize_le_iff.1 h.size).2.1
  unfold innerSize
  rcases Partition.content?_eq_some.1 hcontent with ⟨hpayload, hluks⟩ | ⟨container, hpayload, rfl⟩
  · have hle := hrequired inner hpayload
    rw [hpayload]
    cases inner with
    | luks container => cases hluks
    | _ => exact hle
  · have hle := hrequired _ hpayload
    rw [Payload.requirement_luks] at hle
    rw [hpayload]
    exact Nat.le_sub_of_add_le hle

theorem Partition.Sufficient.content_all (h : partition.Sufficient minimums)
    (hcontent : partition.content? = some inner) : inner.All (Node.Sufficient minimums) :=
  all_content h.payload hcontent

/-- A partition stays sufficient if its content gives way to one that fits and mounts nothing as a
whole. -/
theorem Partition.Sufficient.mapContent (h : partition.Sufficient minimums)
    (hcontent : partition.content? = some inner) {new : Payload}
    (hmountpoint : new.mountpoint? = none)
    (hall : new.All (Node.Sufficient minimums))
    (hroom : new.requirement ≤ innerSize partition) :
    (partition.mapContent fun _ => new).Sufficient minimums := by
  refine ⟨h.sectors, ?_, all_replace hcontent (fun _ _ => trivial) hall⟩
  have hoverhead := h.luksOverhead_le
  unfold innerSize at hroom
  rcases Partition.content?_eq_some.1 hcontent with ⟨hpayload, hinner⟩ | ⟨container, hpayload, rfl⟩
  · rw [mapContent_of_payload hpayload hinner]
    refine deviceSize_le_iff.2 ⟨Nat.zero_le _, ?_, ?_⟩
    · rintro _ ⟨⟩
      exact Nat.le_trans hroom (Nat.sub_le _ _)
    · -- Nothing is mounted in the device as a whole, so no minimum applies to it.
      intro mountpoint hmounted
      rw [Option.bind_some, hmountpoint] at hmounted
      cases hmounted
  · rw [mapContent_of_luks hpayload]
    rw [hpayload] at hroom hoverhead
    refine deviceSize_le_iff.2 ⟨Nat.zero_le _, ?_, ?_⟩
    · rintro _ ⟨⟩
      rw [Payload.requirement_luks]
      exact Nat.add_le_of_le_sub hoverhead hroom
    · intro mountpoint hmounted
      rw [Option.bind_some, Payload.mountpoint?_luks, hmountpoint] at hmounted
      cases hmounted

theorem Partition.resembles_mapContent {sizes : Nat → Nat → Prop}
    (hrefl : ∀ size, sizes size size) (hcontent : partition.content? = some inner) {new : Payload}
    (hnew : inner.Resembles sizes new) :
    partition.Resembles sizes (partition.mapContent fun _ => new) := by
  refine ⟨⟨hrefl _, rfl, .refl _, rfl⟩, rel_mapContent (fun _ _ hinner => ?_) hcontent hnew⟩
  exact Payload.resembles_luks.2 ⟨⟨.refl _, rfl, rfl⟩, hinner⟩

end Content

/-! ### Growth of a partition -/

/-- A partition of a larger size. -/
def Partition.enlarge (delta : Nat) (partition : Partition) : Partition :=
  { partition with size := partition.size + delta }

section Growth

variable {minimums : Minimums} {partition : Partition}

/-- A partition that grows takes the volume group in it along. -/
theorem growPartition_cases (delta : Nat) (partition : Partition) :
    growPartition delta partition = partition.enlarge delta ∨
      ∃ group, (partition.enlarge delta).content? = some (.volumeGroup group) ∧
        growPartition delta partition = (partition.enlarge delta).mapContent fun _ =>
          .volumeGroup (growRootVolume (innerSize (partition.enlarge delta)) group) := by
  by_cases hgroup : ∃ group, (partition.enlarge delta).content? = some (.volumeGroup group)
  · obtain ⟨group, hcontent⟩ := hgroup
    exact .inr ⟨group, hcontent, Partition.mapContent_congr hcontent rfl⟩
  · refine .inl (Partition.mapContent_eq_self fun inner hcontent => ?_)
    split
    · exact absurd ⟨_, hcontent⟩ hgroup
    · rfl

theorem Partition.Sufficient.enlarge (h : partition.Sufficient minimums) {delta : Nat}
    (hdelta : delta % Size.sector = 0) : (partition.enlarge delta).Sufficient minimums where
  sectors := by
    change (partition.size + delta) % Size.sector = 0
    rw [Nat.add_mod, h.sectors, hdelta, Nat.add_zero, Nat.zero_mod]
  size := Nat.le_trans h.size (Nat.le_add_right _ _)
  payload := h.payload

theorem Payload.all_sufficient_volumeGroup {group : VolumeGroup}
    (h : (Payload.volumeGroup group).All (Node.Sufficient minimums)) :
    (∀ volume ∈ group.logicalVolumes, volume.All (Node.Sufficient minimums)) ∧
      ∀ volume ∈ group.logicalVolumes, volume.size % Size.extent = 0 := by
  have hvolumes := (Payload.all_volumeGroup.1 h).2
  exact ⟨hvolumes, fun volume hvolume => (hvolumes volume hvolume).1.1⟩

/-- A sufficient partition stays sufficient as it grows. -/
theorem growPartition_sufficient (h : partition.Sufficient minimums) {delta : Nat}
    (hdelta : delta % Size.sector = 0) :
    (growPartition delta partition).Sufficient minimums := by
  have hgrown := h.enlarge hdelta
  rcases growPartition_cases delta partition with hsame | ⟨group, hcontent, hmap⟩
  · rw [hsame]
    exact hgrown
  · obtain ⟨hvolumes, hextents⟩ :=
      Payload.all_sufficient_volumeGroup (hgrown.content_all hcontent)
    rw [hmap]
    refine hgrown.mapContent hcontent rfl (Payload.all_volumeGroup.2 ⟨trivial, ?_⟩) ?_
    · exact VolumeGroup.growRootVolume_sufficient hvolumes
    · exact VolumeGroup.growRootVolume_requiredSize_le hextents
        (hgrown.requirement_le_innerSize hcontent)

theorem growPartition_resembles (delta : Nat) (partition : Partition) :
    partition.Resembles (· ≤ ·) (growPartition delta partition) := by
  have henlarge : partition.Resembles (· ≤ ·) (partition.enlarge delta) := by
    obtain ⟨hown, hpayload⟩ := Partition.Resembles.refl Nat.le_refl partition
    exact ⟨⟨Nat.le_add_right _ _, hown.kind, hown.uuid, hown.bootable⟩, hpayload⟩
  rcases growPartition_cases delta partition with hsame | ⟨group, hcontent, hmap⟩
  · rw [hsame]
    exact henlarge
  · rw [hmap]
    have hcontents := Partition.resembles_mapContent Nat.le_refl hcontent
      (VolumeGroup.growRootVolume_resembles (innerSize (partition.enlarge delta)) group)
    exact henlarge.comp hcontents fun _ _ _ => Nat.le_trans

theorem growPartition_size (delta : Nat) (partition : Partition) :
    (growPartition delta partition).size = partition.size + delta := rfl

end Growth

/-- A partition whose overheads never exceed what they are taken from: the header of an encrypted
container, the metadata of a volume group and the extents that the group uses. -/
structure Partition.SubtractsSafely (partition : Partition) : Prop where
  header_le : luksOverhead partition.payload ≤ partition.size
  metadata_le : ∀ group, partition.content? = some (.volumeGroup group) →
    Size.volumeGroupMetadata ≤ group.requiredSize ∧
      Size.volumeGroupMetadata ≤ innerSize partition
  used_le : ∀ group, partition.content? = some (.volumeGroup group) →
    group.requiredSize - Size.volumeGroupMetadata ≤ VolumeGroup.usableSize (innerSize partition)

/-- A sufficient partition subtracts safely, whatever it grows by. -/
theorem Partition.Sufficient.subtractsSafely {minimums : Minimums} {partition : Partition}
    (h : partition.Sufficient minimums) (delta : Nat) :
    (partition.enlarge delta).SubtractsSafely := by
  have hinner : innerSize partition ≤ innerSize (partition.enlarge delta) :=
    Nat.sub_le_sub_right (Nat.le_add_right _ _) _
  have hroom : ∀ group, (partition.enlarge delta).content? = some (.volumeGroup group) →
      group.requiredSize ≤ innerSize (partition.enlarge delta) := fun group hcontent =>
    Nat.le_trans (h.requirement_le_innerSize hcontent) hinner
  refine ⟨?_, fun group hcontent => ⟨group.metadata_le_requiredSize, ?_⟩, fun group hcontent => ?_⟩
  · exact Nat.le_trans h.luksOverhead_le (Nat.le_add_right _ _)
  · exact Nat.le_trans group.metadata_le_requiredSize (hroom group hcontent)
  · exact VolumeGroup.used_le_usableSize (hroom group hcontent)

/-! ### Synchronization of a partition -/

section Synchronization

variable {minimums : Minimums} {partition : Partition}

/-- The btrfs volume that a partition holds takes the size of the space around it. -/
theorem syncPartition_cases (partition : Partition) :
    syncPartition partition = partition ∨
      ∃ volume, partition.content? = some (.btrfs volume) ∧
        syncPartition partition = partition.mapContent fun _ =>
          .btrfs { volume with size := innerSize partition } := by
  by_cases hbtrfs : ∃ volume, partition.content? = some (.btrfs volume)
  · obtain ⟨volume, hcontent⟩ := hbtrfs
    exact .inr ⟨volume, hcontent, Partition.mapContent_congr hcontent rfl⟩
  · refine .inl (Partition.mapContent_eq_self fun inner hcontent => ?_)
    split
    · exact absurd ⟨_, hcontent⟩ hbtrfs
    · rfl

/-- A sufficient partition stays sufficient as the btrfs volume in it takes its size. -/
theorem syncPartition_sufficient (h : partition.Sufficient minimums) :
    (syncPartition partition).Sufficient minimums := by
  rcases syncPartition_cases partition with hsame | ⟨volume, hcontent, hmap⟩
  · rw [hsame]
    exact h
  · -- The room held the subvolumes before, so the volume still does when it takes all of it.
    have hroom := h.requirement_le_innerSize hcontent
    have hsubvolumes := (Payload.all_btrfs.1 (h.content_all hcontent)).2
    rw [hmap]
    refine h.mapContent hcontent rfl (Payload.all_btrfs.2 ⟨trivial, hsubvolumes⟩) ?_
    exact Nat.max_le.2 ⟨Nat.le_refl _, (Nat.max_le.1 hroom).2⟩

theorem syncPartition_resembles (h : partition.Sufficient minimums) :
    partition.Resembles (· ≤ ·) (syncPartition partition) := by
  rcases syncPartition_cases partition with hsame | ⟨volume, hcontent, hmap⟩
  · rw [hsame]
    exact .refl Nat.le_refl partition
  · have hroom := h.requirement_le_innerSize hcontent
    have hsubvolumes := (Payload.resembles_btrfs.1 (.refl Nat.le_refl (.btrfs volume))).2
    rw [hmap]
    refine Partition.resembles_mapContent Nat.le_refl hcontent (Payload.resembles_btrfs.2 ?_)
    exact ⟨⟨.refl _, rfl, (Nat.max_le.1 hroom).1⟩, hsubvolumes⟩

end Synchronization

end DiskLayout
