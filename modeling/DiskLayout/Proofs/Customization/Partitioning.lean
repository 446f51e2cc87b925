import DiskLayout.Proofs.Customization.Checks

/-!
# Sound partitioning requests

The check of a partitioning request collects violations while it remembers the mountpoints and
names that stand before.  What it lets pass can be said without any order: rules for single
requests, distinct mountpoints throughout the document, and distinct names in each container.

## Main definitions

* `Fresh` — items that are distinct, and new after what stands before them
* `PartitioningRequest.Sound` — the rules for a partitioning request

## Main results

* `PartitioningRequest.validate_eq_ok` — the check passes exactly the sound requests
-/

namespace DiskLayout

/-! ### Fresh items -/

/-- Whether items are distinct, and none of them is among the earlier ones. -/
def Fresh (earlier items : List String) : Prop :=
  items.Nodup ∧ ∀ item ∈ items, item ∉ earlier

theorem fresh_nil (earlier : List String) : Fresh earlier [] := ⟨List.nodup_nil, by simp⟩

theorem nil_fresh {items : List String} : Fresh [] items ↔ items.Nodup := by simp [Fresh]

theorem fresh_cons {earlier others : List String} {item : String} :
    Fresh earlier (item :: others) ↔ item ∉ earlier ∧ Fresh (earlier ++ [item]) others := by
  simp only [Fresh, List.nodup_cons, List.forall_mem_cons, List.mem_append, List.mem_singleton]
  grind

theorem fresh_append {earlier first second : List String} :
    Fresh earlier (first ++ second) ↔ Fresh earlier first ∧ Fresh (earlier ++ first) second := by
  simp only [Fresh, List.nodup_append, List.mem_append]
  grind

/-- The names that are given: empty ones are generated later. -/
def givenNames (names : List String) : List String := names.filter (· ≠ "")

/-- An empty name is new after any names, and nothing is repeated after it. -/
theorem fresh_givenNames_cons {earlier names : List String} {name : String} :
    Fresh earlier (givenNames (name :: names)) ↔
      (name ≠ "" → name ∉ earlier) ∧ Fresh (earlier ++ [name]) (givenNames names) := by
  by_cases hempty : name = ""
  · subst hempty
    have hnone : "" ∉ givenNames names := by simp [givenNames]
    have hsame : givenNames ("" :: names) = givenNames names := by simp [givenNames]
    rw [hsame]
    simp only [Fresh, List.mem_append, List.mem_singleton]
    grind
  · have hgiven : givenNames (name :: names) = name :: givenNames names := by
      simp [givenNames, hempty]
    rw [hgiven, fresh_cons]
    simp [hempty]

/-! ### Single requests -/

/-- Whether the type that is requested for a plain filesystem is one that can be used there: what
boot loaders read at their mountpoints, and nowhere btrfs, which comes with subvolumes. -/
@[mk_iff]
structure FilesystemRequest.PlainKind (request : FilesystemRequest) : Prop where
  boot : request.mountpoint = Path.boot → ∀ kind, request.kind = some kind →
    kind = .xfs ∨ kind = .ext4
  esp : request.mountpoint = Path.esp → ∀ kind, request.kind = some kind → kind = .vfat
  not_btrfs : request.kind ≠ some .btrfs

theorem FilesystemRequest.typeViolation?_eq_none {request : FilesystemRequest} :
    request.typeViolation? = none ↔
      (request.mountpoint = Path.boot → ∀ kind, request.kind = some kind →
        kind = .xfs ∨ kind = .ext4) ∧
      (request.mountpoint = Path.esp → ∀ kind, request.kind = some kind → kind = .vfat) := by
  have hdistinct : Path.boot ≠ Path.esp := by decide
  unfold typeViolation? allowedTypes?
  by_cases hboot : request.mountpoint = Path.boot
  · cases request.kind <;> simp [hboot, hdistinct, or_iff_not_imp_left]
  · by_cases hesp : request.mountpoint = Path.esp
    · cases request.kind <;> simp [hesp, hdistinct.symm]
    · simp [hboot, hesp]

theorem LvmName.violation?_eq_none {name : String} :
    violation? name = none ↔ name = "" ∨ isValid name = true := by
  simp [violation?, or_iff_not_imp_left]

theorem ne_empty_of_checkMountpoint {mountpoint : String}
    (h : checkMountpoint mountpoint = .ok ()) : mountpoint ≠ "" := by
  rintro rfl
  cases h

/-- The rules for a requested volume group by itself. -/
@[mk_iff]
structure VolumeGroupRequest.Sound (group : VolumeGroupRequest) : Prop where
  name : group.name = "" ∨ LvmName.isValid group.name = true
  volume_names : ∀ volume ∈ group.logicalVolumes,
    volume.name = "" ∨ LvmName.isValid volume.name = true
  names_distinct : (givenNames (group.logicalVolumes.map LogicalVolumeRequest.name)).Nodup
  contained : ∀ volume ∈ group.logicalVolumes, MayBeContained volume.filesystem.mountpoint

/-- The rules for a requested btrfs volume by itself. -/
@[mk_iff]
structure BtrfsRequest.Sound (volume : BtrfsRequest) : Prop where
  names_given : ∀ subvolume ∈ volume.subvolumes, subvolume.name ≠ ""
  names_distinct : (volume.subvolumes.map SubvolumeRequest.name).Nodup
  contained : ∀ subvolume ∈ volume.subvolumes, MayBeContained subvolume.mountpoint

namespace PartitioningRequest

theorem invalidMountpoint?_eq_none {what mountpoint : String} :
    invalidMountpoint? what mountpoint = none ↔ checkMountpoint mountpoint = .ok () := by
  rw [invalidMountpoint?, Option.map_eq_none_iff, mountpointFault?_eq_none]

theorem unreachable?_eq_none {container mountpoint : String} :
    unreachable? container mountpoint = none ↔ mountpoint ∉ Path.plainOnly := by
  simp [unreachable?]

/-- A mountpoint that is valid and not repeated is fresh. -/
theorem valid_and_new {what mountpoint : String} {earlier : List String} :
    invalidMountpoint? what mountpoint = none ∧ repeatedMountpoint? earlier mountpoint = none ↔
      checkMountpoint mountpoint = .ok () ∧ mountpoint ∉ earlier := by
  rw [invalidMountpoint?_eq_none]
  refine and_congr_right fun hvalid => ?_
  simp [repeatedMountpoint?, ne_empty_of_checkMountpoint hvalid]

/-! ### Sections -/

theorem plainViolations_eq_nil {earlier : List String} {request : FilesystemRequest} :
    plainViolations earlier request = [] ↔
      (checkMountpoint request.mountpoint = .ok () ∧ request.PlainKind) ∧
        request.mountpoint ∉ earlier := by
  simp only [plainViolations, List.append_eq_nil_iff, Option.toList_eq_nil_iff, valid_and_new,
    Option.map_eq_none_iff, FilesystemRequest.typeViolation?_eq_none, ite_eq_right_iff,
    List.cons_ne_nil, imp_false, FilesystemRequest.plainKind_iff]
  grind

theorem allPlainViolations_eq_nil {earlier : List String} {requests : List FilesystemRequest} :
    allPlainViolations earlier requests = [] ↔
      (∀ request ∈ requests, checkMountpoint request.mountpoint = .ok () ∧ request.PlainKind) ∧
        Fresh earlier (requests.map FilesystemRequest.mountpoint) := by
  induction requests generalizing earlier with
  | nil => simp [allPlainViolations, fresh_nil]
  | cons request others ih =>
    rw [allPlainViolations, List.append_eq_nil_iff, ih, plainViolations_eq_nil,
      List.forall_mem_cons, List.map_cons, fresh_cons]
    grind

theorem logicalViolations_eq_nil {group : String} {earlier names : List String}
    {request : LogicalVolumeRequest} :
    logicalViolations group earlier names request = [] ↔
      (MayBeContained request.filesystem.mountpoint ∧
          (request.name = "" ∨ LvmName.isValid request.name = true)) ∧
        request.filesystem.mountpoint ∉ earlier ∧ (request.name ≠ "" → request.name ∉ names) := by
  simp only [logicalViolations, List.append_eq_nil_iff, Option.toList_eq_nil_iff, and_assoc,
    Option.map_eq_none_iff, LvmName.violation?_eq_none, unreachable?_eq_none, ite_eq_right_iff,
    List.cons_ne_nil, imp_false, List.contains_iff_mem]
  have hmountpoint := @valid_and_new "logical volume customization" request.filesystem.mountpoint
    earlier
  grind [MayBeContained]

theorem allLogicalViolations_eq_nil {group : String} {earlier names : List String}
    {requests : List LogicalVolumeRequest} :
    allLogicalViolations group earlier names requests = [] ↔
      (∀ request ∈ requests, MayBeContained request.filesystem.mountpoint ∧
          (request.name = "" ∨ LvmName.isValid request.name = true)) ∧
        Fresh earlier (requests.map fun request => request.filesystem.mountpoint) ∧
        Fresh names (givenNames (requests.map LogicalVolumeRequest.name)) := by
  induction requests generalizing earlier names with
  | nil => simp [allLogicalViolations, fresh_nil, givenNames]
  | cons request others ih =>
    rw [allLogicalViolations, List.append_eq_nil_iff, ih, logicalViolations_eq_nil,
      List.forall_mem_cons, List.map_cons, List.map_cons, fresh_cons, fresh_givenNames_cons]
    grind

theorem groupViolations_eq_nil {earlier names : List String} {group : VolumeGroupRequest} :
    groupViolations earlier names group = [] ↔
      group.Sound ∧
        Fresh earlier (group.logicalVolumes.map fun volume => volume.filesystem.mountpoint) ∧
        (group.name ≠ "" → group.name ∉ names) := by
  simp only [groupViolations, List.append_eq_nil_iff, Option.toList_eq_nil_iff,
    Option.map_eq_none_iff, LvmName.violation?_eq_none, allLogicalViolations_eq_nil, nil_fresh,
    ite_eq_right_iff, List.cons_ne_nil, imp_false, List.contains_iff_mem,
    VolumeGroupRequest.sound_iff, forall₂_and]
  grind

theorem allGroupViolations_eq_nil {earlier names : List String}
    {groups : List VolumeGroupRequest} :
    allGroupViolations earlier names groups = [] ↔
      (∀ group ∈ groups, group.Sound) ∧
        Fresh earlier (groups.flatMap fun group =>
          group.logicalVolumes.map fun volume => volume.filesystem.mountpoint) ∧
        Fresh names (givenNames (groups.map VolumeGroupRequest.name)) := by
  induction groups generalizing earlier names with
  | nil => simp [allGroupViolations, fresh_nil, givenNames]
  | cons group others ih =>
    rw [allGroupViolations, List.append_eq_nil_iff, ih, groupViolations_eq_nil,
      List.forall_mem_cons, List.flatMap_cons, List.map_cons, fresh_append, fresh_givenNames_cons]
    grind

theorem subvolumeViolations_eq_nil {earlier names : List String} {request : SubvolumeRequest} :
    subvolumeViolations earlier names request = [] ↔
      (request.name ≠ "" ∧ MayBeContained request.mountpoint) ∧
        request.mountpoint ∉ earlier ∧ request.name ∉ names := by
  have hname : (if request.name = "" then
        [LayoutError.invalidTable "btrfs subvolume with empty name in partitioning customizations"]
      else if names.contains request.name then
        [.duplicateName ("duplicate btrfs subvolume name " ++ Quoted.quote request.name ++
          " in partitioning customizations")]
      else []) = [] ↔ request.name ≠ "" ∧ request.name ∉ names := by
    by_cases hempty : request.name = "" <;> simp [hempty]
  have hmountpoint := @valid_and_new "btrfs subvolume customization" request.mountpoint earlier
  simp only [subvolumeViolations, List.append_eq_nil_iff, Option.toList_eq_nil_iff, hname,
    unreachable?_eq_none]
  grind [MayBeContained]

theorem allSubvolumeViolations_eq_nil {earlier names : List String}
    {requests : List SubvolumeRequest} :
    allSubvolumeViolations earlier names requests = [] ↔
      (∀ request ∈ requests, request.name ≠ "" ∧ MayBeContained request.mountpoint) ∧
        Fresh earlier (requests.map SubvolumeRequest.mountpoint) ∧
        Fresh names (requests.map SubvolumeRequest.name) := by
  induction requests generalizing earlier names with
  | nil => simp [allSubvolumeViolations, fresh_nil]
  | cons request others ih =>
    rw [allSubvolumeViolations, List.append_eq_nil_iff, ih, subvolumeViolations_eq_nil,
      List.forall_mem_cons, List.map_cons, List.map_cons, fresh_cons, fresh_cons]
    grind

theorem allBtrfsViolations_eq_nil {earlier : List String} {volumes : List BtrfsRequest} :
    allBtrfsViolations earlier volumes = [] ↔
      (∀ volume ∈ volumes, volume.Sound) ∧
        Fresh earlier (volumes.flatMap fun volume =>
          volume.subvolumes.map SubvolumeRequest.mountpoint) := by
  induction volumes generalizing earlier with
  | nil => simp [allBtrfsViolations, fresh_nil]
  | cons volume others ih =>
    rw [allBtrfsViolations, List.append_eq_nil_iff, ih, allSubvolumeViolations_eq_nil, nil_fresh,
      List.forall_mem_cons, List.flatMap_cons, fresh_append, BtrfsRequest.sound_iff, forall₂_and]
    grind

theorem combinationViolations_eq_nil {request : PartitioningRequest} :
    request.combinationViolations = [] ↔
      (request.btrfs = none ∨ request.lvm = none) ∧ request.btrfsVolumes.length ≤ 1 ∧
        request.volumeGroups.length ≤ 1 := by
  simp only [combinationViolations, List.append_eq_nil_iff, ite_eq_right_iff, List.cons_ne_nil,
    imp_false, Nat.not_lt, and_assoc]
  cases request.btrfs <;> cases request.lvm <;> simp

/-! ### The whole document -/

/-- The rules for a partitioning request. -/
structure Sound (request : PartitioningRequest) : Prop where
  exclusive : request.btrfs = none ∨ request.lvm = none
  one_btrfs : request.btrfsVolumes.length ≤ 1
  one_group : request.volumeGroups.length ≤ 1
  plain_valid : ∀ filesystem ∈ request.plainFilesystems,
    checkMountpoint filesystem.mountpoint = .ok ()
  plain_kinds : ∀ filesystem ∈ request.plainFilesystems, filesystem.PlainKind
  groups : ∀ group ∈ request.volumeGroups, group.Sound
  groups_distinct : (givenNames (request.volumeGroups.map VolumeGroupRequest.name)).Nodup
  volumes : ∀ volume ∈ request.btrfsVolumes, volume.Sound
  mountpoints_distinct : request.mountpoints.Nodup

/-- The check of a partitioning request passes exactly the sound requests. -/
theorem validate_eq_ok {request : PartitioningRequest} :
    request.validate = .ok () ↔ request.Sound := by
  have hlogical : request.logicalMountpoints = request.volumeGroups.flatMap fun group =>
      group.logicalVolumes.map fun volume => volume.filesystem.mountpoint := by
    rw [logicalMountpoints, logicalVolumes, List.map_flatMap]
  have hsubvolumes : request.subvolumeMountpoints = request.btrfsVolumes.flatMap fun volume =>
      volume.subvolumes.map SubvolumeRequest.mountpoint := by
    rw [subvolumeMountpoints, List.map_flatMap]
  -- The mountpoints of the three sections are distinct together if those of each section are
  -- fresh after the sections before it.
  have hdistinct : request.mountpoints.Nodup ↔
      Fresh [] request.plainMountpoints ∧
        Fresh request.plainMountpoints request.logicalMountpoints ∧
        Fresh (request.plainMountpoints ++ request.logicalMountpoints)
          request.subvolumeMountpoints := by
    rw [← nil_fresh, mountpoints, fresh_append, fresh_append, List.nil_append, List.nil_append,
      and_assoc]
  rw [validate, LayoutError.check_eq_ok, violations]
  simp only [List.append_eq_nil_iff, combinationViolations_eq_nil, allPlainViolations_eq_nil,
    allGroupViolations_eq_nil, allBtrfsViolations_eq_nil, ← hlogical, ← hsubvolumes, nil_fresh]
  rw [plainMountpoints] at hdistinct
  constructor
  · rintro ⟨⟨⟨⟨hexclusive, hbtrfs, hgroup⟩, hplain, hfirst⟩, hgroups, hsecond, hnames⟩, hvolumes,
      hthird⟩
    exact ⟨hexclusive, hbtrfs, hgroup, fun filesystem hmem => (hplain filesystem hmem).1,
      fun filesystem hmem => (hplain filesystem hmem).2, hgroups, hnames, hvolumes,
      hdistinct.2 ⟨nil_fresh.2 hfirst, hsecond, hthird⟩⟩
  · intro h
    obtain ⟨hfirst, hsecond, hthird⟩ := hdistinct.1 h.mountpoints_distinct
    exact ⟨⟨⟨⟨h.exclusive, h.one_btrfs, h.one_group⟩,
      fun filesystem hmem => ⟨h.plain_valid filesystem hmem, h.plain_kinds filesystem hmem⟩,
      nil_fresh.1 hfirst⟩, h.groups, hsecond, h.groups_distinct⟩, h.volumes, hthird⟩

namespace Sound

variable {request : PartitioningRequest}

/-- A request with a btrfs volume has no volume group. -/
theorem volumeGroups_eq_nil (h : request.Sound) (hbtrfs : request.btrfsVolumes ≠ []) :
    request.volumeGroups = [] := by
  rcases h.exclusive with hnone | hnone
  · exact absurd (by rw [btrfsVolumes, hnone]; rfl) hbtrfs
  · rw [volumeGroups, hnone]
    rfl

/-- A request with a volume group has no btrfs volume. -/
theorem btrfsVolumes_eq_nil (h : request.Sound) (hgroups : request.volumeGroups ≠ []) :
    request.btrfsVolumes = [] := by
  by_contra hbtrfs
  exact hgroups (h.volumeGroups_eq_nil hbtrfs)

theorem eq_nil_of_volumeGroups (h : request.Sound) {group : VolumeGroupRequest}
    {others : List VolumeGroupRequest} (hgroups : request.volumeGroups = group :: others) :
    others = [] := by
  have hone := h.one_group
  rw [hgroups, List.length_cons] at hone
  exact List.eq_nil_of_length_eq_zero (by omega)

theorem eq_nil_of_btrfsVolumes (h : request.Sound) {volume : BtrfsRequest}
    {others : List BtrfsRequest} (hvolumes : request.btrfsVolumes = volume :: others) :
    others = [] := by
  have hone := h.one_btrfs
  rw [hvolumes, List.length_cons] at hone
  exact List.eq_nil_of_length_eq_zero (by omega)

end Sound

end PartitioningRequest

end DiskLayout
