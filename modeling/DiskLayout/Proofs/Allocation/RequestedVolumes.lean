import DiskLayout.Allocation.Custom
import DiskLayout.Proofs.Customization.Partitioning
import DiskLayout.Proofs.Table.Content
import DiskLayout.Proofs.Table.Naming

/-!
# Requested volumes

A requested volume group has the requested logical volumes in order, and behind them one for the
root where nothing else holds it.  Names that are given stay; the others are generated one after
the other, each of them new among all names of the group, those given to later volumes included.
A requested btrfs volume is laid out alike, but its subvolume for the root has a fixed name.

## Main definitions

* `LogicalVolumeRequest.Describes` — logical volumes as they are requested
* `Needed` — one item where it is needed, and none otherwise
* `Custom.RootNameTaken`, `Custom.describedBtrfs` — btrfs volumes as they are requested

## Main results

* `Custom.volumeGroup_eq_ok` — what a volume group holds
* `Custom.volumeGroup_names` — the names of a volume group are given and distinct
* `Custom.exists_volumeGroup` — at most one hundred volumes can be laid out
* `Custom.btrfs_eq` — a btrfs volume can be laid out unless the name of the root is taken
-/

namespace DiskLayout

open Custom

/-! ### Logical volumes -/

/-- Whether a request describes a logical volume: its contents, and its name if it gives one. -/
structure LogicalVolumeRequest.Describes (kind : FilesystemType) (request : LogicalVolumeRequest)
    (volume : LogicalVolume) : Prop where
  name : request.name ≠ "" → volume.name = request.name
  size : volume.size = (requestedVolume kind request).size
  payload : volume.payload =
    some (.filesystem (Partition.requestedFilesystem request.filesystem kind))

namespace Custom

section Naming

variable {kind : FilesystemType} {name description : String} {named : VolumeGroup}
  {front : List LogicalVolume} {requests : List LogicalVolumeRequest}

/-- Naming takes up the first request that is left: its volume keeps the name that the request
gives, or gets a name that no volume of the group has. -/
theorem nameVolumes_cons {request : LogicalVolumeRequest}
    (h : nameVolumes ⟨name, description, front ++ (request :: requests).map (requestedVolume kind)⟩
      front.length (request :: requests) = .ok named) :
    ∃ volume, request.Describes kind volume ∧
      (request.name = "" → VolumeGroup.freeName?
        ((front ++ (request :: requests).map (requestedVolume kind)).map LogicalVolume.name)
        request.filesystem.mountpoint = some volume.name) ∧
      nameVolumes ⟨name, description, (front ++ [volume]) ++ requests.map (requestedVolume kind)⟩
        (front ++ [volume]).length requests = .ok named := by
  unfold nameVolumes at h
  rw [List.map_cons]
  by_cases hempty : request.name = ""
  · rw [if_pos hempty] at h
    obtain ⟨generated, hgenerated, h⟩ := bind_eq_ok.1 h
    refine ⟨{ requestedVolume kind request with name := generated },
      ⟨fun hgiven => absurd hempty hgiven, rfl, rfl⟩,
      fun _ => VolumeGroup.generateName_eq_ok.1 hgenerated, ?_⟩
    rw [List.map_cons, modify_length] at h
    simpa using h
  · rw [if_neg hempty] at h
    refine ⟨requestedVolume kind request, ⟨fun _ => rfl, rfl, rfl⟩,
      fun hnone => absurd hnone hempty, ?_⟩
    simpa using h

/-- Naming gives a volume for each request, behind those that are named already. -/
theorem nameVolumes_eq_ok
    (h : nameVolumes ⟨name, description, front ++ requests.map (requestedVolume kind)⟩
      front.length requests = .ok named) :
    ∃ volumes, named = ⟨name, description, front ++ volumes⟩ ∧
      List.Forall₂ (LogicalVolumeRequest.Describes kind) requests volumes := by
  induction requests generalizing front with
  | nil => exact ⟨[], (Except.ok.inj h).symm, .nil⟩
  | cons request others ih =>
    obtain ⟨volume, hvolume, -, hothers⟩ := nameVolumes_cons h
    obtain ⟨volumes, hnamed, hanswered⟩ := ih hothers
    refine ⟨volume :: volumes, ?_, .cons hvolume hanswered⟩
    rw [hnamed, List.append_assoc, List.singleton_append]

/-- A name that is new among all names keeps those that are given distinct. -/
theorem givenNames_replace {before after : List String} {generated : String}
    (hnew : generated ∉ before ++ "" :: after)
    (hdistinct : (givenNames (before ++ "" :: after)).Nodup) :
    (givenNames (before ++ generated :: after)).Nodup := by
  have hgiven : generated ≠ "" := by
    rintro rfl
    simp at hnew
  have hold : givenNames (before ++ "" :: after) = givenNames before ++ givenNames after := by
    simp [givenNames]
  have hreplaced : givenNames (before ++ generated :: after) =
      givenNames before ++ generated :: givenNames after := by
    simp [givenNames, hgiven]
  rw [hreplaced, List.nodup_middle, List.nodup_cons, ← hold]
  refine ⟨fun hmem => hnew ?_, hdistinct⟩
  exact List.mem_of_mem_filter hmem

/-- Where the names that requests give are distinct, so are all names in the end. -/
theorem nameVolumes_names
    (h : nameVolumes ⟨name, description, front ++ requests.map (requestedVolume kind)⟩
      front.length requests = .ok named)
    (hgiven : (givenNames
      ((front ++ requests.map (requestedVolume kind)).map LogicalVolume.name)).Nodup)
    (hfront : ∀ volume ∈ front, volume.name ≠ "") :
    (named.logicalVolumes.map LogicalVolume.name).Nodup ∧
      ∀ volume ∈ named.logicalVolumes, volume.name ≠ "" := by
  induction requests generalizing front with
  | nil =>
    obtain rfl := Except.ok.inj h
    rw [List.map_nil, List.append_nil] at hgiven ⊢
    have hall : givenNames (front.map LogicalVolume.name) = front.map LogicalVolume.name := by
      refine List.filter_eq_self.2 fun name hname => ?_
      obtain ⟨volume, hvolume, rfl⟩ := List.mem_map.1 hname
      simpa using hfront volume hvolume
    exact ⟨hall ▸ hgiven, hfront⟩
  | cons request others ih =>
    obtain ⟨volume, hvolume, hfree, hothers⟩ := nameVolumes_cons h
    have hname : volume.name ≠ "" := by
      by_cases hempty : request.name = ""
      · exact VolumeGroup.ne_empty_of_mem_candidates (VolumeGroup.mem_of_freeName? (hfree hempty))
      · rwa [hvolume.name hempty]
    refine ih hothers ?_ (List.forall_mem_append.2 ⟨hfront, List.forall_mem_singleton.2 hname⟩)
    rw [List.append_assoc, List.singleton_append, List.map_append, List.map_cons]
    simp only [List.map_append, List.map_cons] at hgiven hfree
    have hrequested : (requestedVolume kind request).name = request.name := rfl
    rw [hrequested] at hgiven hfree
    by_cases hempty : request.name = ""
    · have hnew := VolumeGroup.not_mem_of_freeName? (hfree hempty)
      rw [hempty] at hgiven hnew
      exact givenNames_replace hnew hgiven
    · rwa [hvolume.name hempty]

end Naming

/-- At most one hundred volumes can always be named. -/
theorem exists_nameVolumes {group : VolumeGroup} (hlength : group.logicalVolumes.length ≤ 100)
    (index : Nat) (requests : List LogicalVolumeRequest) :
    ∃ named, nameVolumes group index requests = .ok named := by
  induction requests generalizing group index with
  | nil => exact ⟨group, rfl⟩
  | cons request others ih =>
    unfold nameVolumes
    split
    · have htaken : (group.logicalVolumes.map LogicalVolume.name).length ≤ 100 := by
        rwa [List.length_map]
      obtain ⟨generated, hfree⟩ :=
        VolumeGroup.exists_freeName? htaken request.filesystem.mountpoint
      rw [VolumeGroup.generateName_eq_ok.2 hfree, ok_bind]
      exact ih (by rwa [List.length_modify]) _
    · exact ih hlength _

end Custom

/-! ### Volume groups -/

/-- Whether a list has one item, of a kind, where it is needed, and none otherwise. -/
def Needed {α : Type} (needed : Prop) (kind : α → Prop) (items : List α) : Prop :=
  (needed → ∃ item, items = [item] ∧ kind item) ∧ (¬ needed → items = [])

/-- Whether a logical volume is the one that is added for the root. -/
structure LogicalVolume.IsAddedRoot (kind : FilesystemType) (volume : LogicalVolume) : Prop where
  size : volume.size = VolumeGroup.volumeSize (.new kind Path.root) Size.defaultRoot
  payload : volume.payload = some (.filesystem (.new kind Path.root))

namespace Custom

section VolumeGroup

variable {options : CustomOptions} {hasRoot : Bool} {request : VolumeGroupRequest}
  {group : VolumeGroup}

/-- A volume group is the named volumes and, unless the root is requested, one more for it. -/
theorem volumeGroup_eq_ok_iff :
    volumeGroup options hasRoot request = .ok group ↔
      ∃ named, nameVolumes ⟨if request.name = "" then VolumeGroup.defaultName else request.name,
          VolumeGroup.defaultDescription,
          request.logicalVolumes.map (requestedVolume options.defaultFilesystem)⟩ 0
          request.logicalVolumes = .ok named ∧
        ((hasRoot = true ∧ group = named) ∨
          (hasRoot = false ∧ ∃ name,
            VolumeGroup.freeName? (named.logicalVolumes.map LogicalVolume.name) Path.root =
              some name ∧
            group = named.append ⟨name,
              VolumeGroup.volumeSize (.new options.defaultFilesystem Path.root) Size.defaultRoot,
              some (.filesystem (.new options.defaultFilesystem Path.root))⟩)) := by
  unfold volumeGroup
  rw [bind_eq_ok]
  refine exists_congr fun named => and_congr_right fun _ => ?_
  cases hasRoot with
  | true => simp [pure, Except.pure, eq_comm]
  | false =>
    simp only [Bool.false_eq_true, if_false, bind_eq_ok, VolumeGroup.newVolume_eq_ok, pure,
      Except.pure, Except.ok.injEq, false_and, true_and, false_or]
    grind

/-- A requested volume group has the requested name, or the default where none is given, and its
volumes answer the requests in order. -/
theorem volumeGroup_eq_ok (h : volumeGroup options hasRoot request = .ok group) :
    group.name = (if request.name = "" then VolumeGroup.defaultName else request.name) ∧
      ∃ volumes root, group.logicalVolumes = volumes ++ root ∧
        List.Forall₂ (LogicalVolumeRequest.Describes options.defaultFilesystem)
          request.logicalVolumes volumes ∧
        Needed (hasRoot = false) (LogicalVolume.IsAddedRoot options.defaultFilesystem) root := by
  obtain ⟨named, hnamed, hgroup⟩ := volumeGroup_eq_ok_iff.1 h
  obtain ⟨volumes, rfl, hanswered⟩ := @nameVolumes_eq_ok _ _ _ _ [] _ hnamed
  rw [List.nil_append] at hgroup
  rcases hgroup with ⟨rfl, rfl⟩ | ⟨rfl, name, -, rfl⟩
  · exact ⟨rfl, volumes, [], (List.append_nil _).symm, hanswered, by simp, fun _ => rfl⟩
  · exact ⟨rfl, volumes, _, rfl, hanswered, fun _ => ⟨_, rfl, rfl, rfl⟩, by simp⟩

/-- The filesystems in the volumes of a requested group: those requested, and the root unless it is
requested somewhere. -/
def requestedSystems (options : CustomOptions) (hasRoot : Bool) (request : VolumeGroupRequest) :
    List Filesystem :=
  request.logicalVolumes.map (fun volume =>
      Partition.requestedFilesystem volume.filesystem options.defaultFilesystem) ++
    if hasRoot then [] else [.new options.defaultFilesystem Path.root]

/-- A requested volume group has a filesystem in each volume. -/
theorem volumeGroup_payloads (h : volumeGroup options hasRoot request = .ok group) :
    group.logicalVolumes.map LogicalVolume.payload =
      (requestedSystems options hasRoot request).map fun system => some (.filesystem system) := by
  obtain ⟨-, volumes, root, hvolumes, hanswered, hneeded, hneedless⟩ := volumeGroup_eq_ok h
  have hrequested : volumes.map LogicalVolume.payload = request.logicalVolumes.map fun volume =>
      some (.filesystem
        (Partition.requestedFilesystem volume.filesystem options.defaultFilesystem)) :=
    map_eq_of_forall₂ (fun _ _ hvolume => hvolume.payload) hanswered
  rw [hvolumes, List.map_append, hrequested, requestedSystems, List.map_append, List.map_map]
  congr 1
  cases hasRoot with
  | true => rw [hneedless (by simp), if_pos rfl, List.map_nil, List.map_nil]
  | false =>
    obtain ⟨added, rfl, hadded⟩ := hneeded rfl
    rw [List.map_singleton, hadded.payload]
    rfl

/-- Every volume of a requested group holds one of the filesystems and nothing else. -/
theorem volumeGroup_systems (h : volumeGroup options hasRoot request = .ok group) :
    ∀ volume ∈ group.logicalVolumes, ∃ system ∈ requestedSystems options hasRoot request,
      volume.payload = some (.filesystem system) := by
  intro volume hvolume
  have hpayload : volume.payload ∈ group.logicalVolumes.map LogicalVolume.payload :=
    List.mem_map_of_mem hvolume
  rw [volumeGroup_payloads h] at hpayload
  obtain ⟨system, hsystem, hpayload⟩ := List.mem_map.1 hpayload
  exact ⟨system, hsystem, hpayload.symm⟩

theorem volumeGroup_filesystems (h : volumeGroup options hasRoot request = .ok group) :
    ∀ volume ∈ group.logicalVolumes, ∃ system, volume.payload = some (.filesystem system) :=
  fun volume hvolume => (volumeGroup_systems h volume hvolume).imp fun _ hsystem => hsystem.2

/-- A requested volume group mounts what is requested in it, and the root unless it is requested
somewhere. -/
theorem volumeGroup_mountpoints (h : volumeGroup options hasRoot request = .ok group) :
    (Payload.volumeGroup group).mountpoints =
      request.logicalVolumes.map (fun volume => volume.filesystem.mountpoint) ++
        if hasRoot then [] else [Path.root] := by
  have hpayloads : (Payload.volumeGroup group).mountpoints =
      (group.logicalVolumes.map LogicalVolume.payload).flatMap
        fun payload => payload.toList.flatMap Payload.mountpoints := by
    rw [Payload.mountpoints_volumeGroup, List.flatMap_map]
  have hsystems : (Payload.volumeGroup group).mountpoints =
      (requestedSystems options hasRoot request).map Filesystem.mountpoint := by
    rw [hpayloads, volumeGroup_payloads h, List.flatMap_map, List.map_eq_flatMap]
    simp only [Option.toList_some, List.flatMap_singleton, Payload.mountpoints_filesystem]
  rw [hsystems, requestedSystems, List.map_append, List.map_map]
  cases hasRoot <;> rfl

/-- The names of a requested volume group are given and distinct. -/
theorem volumeGroup_names (hrequest : request.Sound)
    (h : volumeGroup options hasRoot request = .ok group) :
    (group.logicalVolumes.map LogicalVolume.name).Nodup ∧
      ∀ volume ∈ group.logicalVolumes, volume.name ≠ "" := by
  obtain ⟨named, hnamed, hgroup⟩ := volumeGroup_eq_ok_iff.1 h
  have hrequested : (request.logicalVolumes.map
      (requestedVolume options.defaultFilesystem)).map LogicalVolume.name =
        request.logicalVolumes.map LogicalVolumeRequest.name := by
    rw [List.map_map]
    rfl
  obtain ⟨hdistinct, hgiven⟩ := @nameVolumes_names _ _ _ _ [] _ hnamed
    (by rw [List.nil_append, hrequested]; exact hrequest.names_distinct) (by simp)
  rcases hgroup with ⟨-, rfl⟩ | ⟨-, name, hfree, rfl⟩
  · exact ⟨hdistinct, hgiven⟩
  · -- The root is named last, after all others.
    have hnew := VolumeGroup.not_mem_of_freeName? hfree
    have hname := VolumeGroup.ne_empty_of_mem_candidates (VolumeGroup.mem_of_freeName? hfree)
    refine ⟨?_, List.forall_mem_append.2 ⟨hgiven, List.forall_mem_singleton.2 hname⟩⟩
    rw [VolumeGroup.append, List.map_append, List.map_cons, List.map_nil]
    refine List.nodup_append.2
      ⟨hdistinct, List.nodup_singleton _, fun first hfirst root hroot => ?_⟩
    rintro rfl
    obtain rfl := List.mem_singleton.1 hroot
    exact hnew hfirst

/-- A group of at most one hundred requested volumes can always be laid out. -/
theorem exists_volumeGroup (hlength : request.logicalVolumes.length ≤ 100) :
    ∃ group, volumeGroup options hasRoot request = .ok group := by
  obtain ⟨named, hnamed⟩ := @exists_nameVolumes
    ⟨if request.name = "" then VolumeGroup.defaultName else request.name,
      VolumeGroup.defaultDescription,
      request.logicalVolumes.map (requestedVolume options.defaultFilesystem)⟩
    (by rwa [List.length_map]) 0 request.logicalVolumes
  cases hasRoot with
  | true => exact ⟨named, volumeGroup_eq_ok_iff.2 ⟨named, hnamed, .inl ⟨rfl, rfl⟩⟩⟩
  | false =>
    obtain ⟨volumes, rfl, hanswered⟩ := @nameVolumes_eq_ok _ _ _ _ [] _ hnamed
    have htaken : (([] ++ volumes).map LogicalVolume.name).length ≤ 100 := by
      rwa [List.length_map, List.nil_append, ← hanswered.length_eq]
    obtain ⟨name, hfree⟩ := VolumeGroup.exists_freeName? htaken Path.root
    exact ⟨_, volumeGroup_eq_ok_iff.2 ⟨_, hnamed, .inr ⟨rfl, name, hfree, rfl⟩⟩⟩

end VolumeGroup

end Custom

/-! ### Btrfs volumes -/

/-- The subvolume that a request describes. -/
def SubvolumeRequest.subvolume (request : SubvolumeRequest) : Subvolume :=
  ⟨request.name, request.mountpoint, 0, some Btrfs.defaultCompression⟩

/-- The subvolume that is added for the root. -/
def Subvolume.addedRoot : Subvolume :=
  ⟨Btrfs.rootSubvolume, Path.root, Size.defaultRoot, some Btrfs.defaultCompression⟩

namespace Custom

section Btrfs

variable {hasRoot : Bool} {request : BtrfsRequest} {volume : Btrfs}

/-- Whether a requested subvolume takes the name of the one that is added for the root. -/
def RootNameTaken (hasRoot : Bool) (request : BtrfsRequest) : Prop :=
  hasRoot = false ∧ Btrfs.rootSubvolume ∈ request.subvolumes.map SubvolumeRequest.name

instance : Decidable (RootNameTaken hasRoot request) := inferInstanceAs (Decidable (_ ∧ _))

/-- The btrfs volume that a request describes, with a subvolume for the root where it is added. -/
def describedBtrfs (hasRoot : Bool) (request : BtrfsRequest) : Btrfs :=
  { Btrfs.empty with
    subvolumes := request.subvolumes.map SubvolumeRequest.subvolume ++
      if hasRoot then [] else [Subvolume.addedRoot] }

/-- Laying out a btrfs volume fails for nothing but the name of the root. -/
theorem btrfs_eq :
    btrfs hasRoot request =
      if RootNameTaken hasRoot request then
        .error (.duplicateName ("duplicate btrfs subvolume name " ++
          Quoted.quote Btrfs.rootSubvolume))
      else .ok (describedBtrfs hasRoot request) := by
  cases hasRoot with
  | true =>
    rw [if_neg (fun htaken => by cases htaken.1), describedBtrfs, if_pos rfl, List.append_nil]
    rfl
  | false =>
    have hname : Btrfs.subvolumeName Path.root = Btrfs.rootSubvolume := by decide
    have htaken : ((request.subvolumes.map SubvolumeRequest.subvolume).any fun subvolume =>
        subvolume.name == Btrfs.rootSubvolume) = true ↔
          Btrfs.rootSubvolume ∈ request.subvolumes.map SubvolumeRequest.name := by
      simp [SubvolumeRequest.subvolume]
    have hbtrfs : btrfs false request =
        Btrfs.newSubvolume { Btrfs.empty with
          subvolumes := request.subvolumes.map SubvolumeRequest.subvolume } Path.root
          Size.defaultRoot >>= fun root => .ok (Btrfs.append { Btrfs.empty with
            subvolumes := request.subvolumes.map SubvolumeRequest.subvolume } root) := rfl
    rw [hbtrfs, Btrfs.newSubvolume, hname]
    simp only [RootNameTaken, htaken, true_and]
    split
    · rfl
    · rfl

theorem btrfs_eq_ok_iff :
    btrfs hasRoot request = .ok volume ↔
      ¬ RootNameTaken hasRoot request ∧ volume = describedBtrfs hasRoot request := by
  rw [btrfs_eq]
  by_cases htaken : RootNameTaken hasRoot request
  · simp [htaken]
  · simp [htaken, eq_comm]

/-- The names in a requested btrfs volume are given and distinct. -/
theorem describedBtrfs_names (hrequest : request.Sound) (hfree : ¬ RootNameTaken hasRoot request) :
    "" ∉ (describedBtrfs hasRoot request).names ∧ (describedBtrfs hasRoot request).names.Nodup := by
  have hnames : (describedBtrfs hasRoot request).names =
      request.subvolumes.map SubvolumeRequest.name ++
        if hasRoot then [] else [Btrfs.rootSubvolume] := by
    rw [Btrfs.names, describedBtrfs, List.map_append, List.map_map]
    cases hasRoot <;> rfl
  have hgiven : "" ∉ request.subvolumes.map SubvolumeRequest.name := by
    intro hempty
    obtain ⟨subvolume, hsubvolume, hname⟩ := List.mem_map.1 hempty
    exact hrequest.names_given subvolume hsubvolume hname
  rw [hnames]
  cases hasRoot with
  | true =>
    rw [if_pos rfl, List.append_nil]
    exact ⟨hgiven, hrequest.names_distinct⟩
  | false =>
    have hroot : "" ≠ Btrfs.rootSubvolume := by decide
    have hnew : Btrfs.rootSubvolume ∉ request.subvolumes.map SubvolumeRequest.name :=
      fun hmem => hfree ⟨rfl, hmem⟩
    refine ⟨by simpa [hroot] using hgiven, ?_⟩
    refine List.nodup_append.2 ⟨hrequest.names_distinct, List.nodup_singleton _, ?_⟩
    rintro name hname _ hadded rfl
    exact hnew (List.mem_singleton.1 hadded ▸ hname)

/-- A requested btrfs volume has a subvolume for each mountpoint requested, and one for the root
unless it is requested somewhere. -/
theorem btrfs_mountpoints (h : btrfs hasRoot request = .ok volume) :
    volume.subvolumes.map Subvolume.mountpoint =
      request.subvolumes.map SubvolumeRequest.mountpoint ++
        if hasRoot then [] else [Path.root] := by
  obtain ⟨-, rfl⟩ := btrfs_eq_ok_iff.1 h
  rw [describedBtrfs, List.map_append, List.map_map]
  cases hasRoot <;> rfl

end Btrfs

end Custom

end DiskLayout
