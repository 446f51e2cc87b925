import DiskLayout.Proofs.Allocation.Steps
import DiskLayout.Proofs.Outcome

/-!
# The edits of assembly

The functions that assemble a table make a few kinds of edits, and an edit says exactly what
becomes of the table: which partition, logical volume or subvolume is new, where it stands, and
what takes the place of the root filesystem.  The steps of assembly are edits with less said about
them.

## Main definitions

* `PartitionTable.Adds`, `PartitionTable.AddsEach` — a table with one or more requests added
* `PartitionTable.MovesRoot` — a table with its root filesystem moved into a new container

## Main results

* `PartitionTable.addBeforeRoot_split` — where a partition is inserted
* `PartitionTable.addMountpoint_eq_ok_iff`, `PartitionTable.addMountpoints_addsEach` — adding
  mountpoints
* `PartitionTable.ensureVolumeGroup_moves`, `PartitionTable.ensureBtrfs_moves` — conversions
* `Adds.mounts`, `AddsEach.mountsEach`, `MovesRoot.converts` — edits are steps of assembly
-/

namespace DiskLayout

/-- A plain partition holds nothing but the requested filesystem, which is of the type that is
asked for unless it is an EFI system partition. -/
theorem Partition.plain_payload (request : FilesystemRequest) (defaultKind : FilesystemType)
    (architecture : Architecture) :
    ∃ system, (Partition.plain request defaultKind architecture).payload =
      some (.filesystem system) ∧ system.mountpoint = request.mountpoint ∧
      (system.kind = .vfat ∨ system.kind = request.kind.getD defaultKind) := by
  unfold Partition.plain
  split
  · rename_i hesp
    exact ⟨_, rfl, hesp.symm, .inl rfl⟩
  · exact ⟨_, rfl, rfl, .inr rfl⟩

theorem Partition.boot_payload (defaultKind : FilesystemType) :
    ∃ system, (Partition.boot defaultKind).payload = some (.filesystem system) ∧
      system.mountpoint = Path.boot ∧ system.kind = Partition.bootFilesystem defaultKind :=
  ⟨_, rfl, rfl, rfl⟩

theorem Btrfs.newSubvolume_mountpoint {volume : Btrfs} {mountpoint : String} {size : Nat}
    {new : Subvolume} (h : volume.newSubvolume mountpoint size = .ok new) :
    new.mountpoint = mountpoint := by
  unfold newSubvolume at h
  by_cases htaken : volume.subvolumes.any fun other => other.name == subvolumeName mountpoint
  · simp [htaken] at h
  · rw [if_neg htaken] at h
    exact (Except.ok.inj h) ▸ rfl

namespace PartitionTable

/-! ### Edits -/

/-- A table with the mountpoint of a request added at a place: in a plain partition before the
root, or at the end of the first volume group or the first btrfs volume. -/
inductive Adds (options : BuildOptions) (request : FilesystemRequest) :
    Place → PartitionTable → PartitionTable → Prop
  | partition (table : PartitionTable) :
    Adds options request .partition table (table.addBeforeRoot
      (Partition.plain request options.defaultFilesystem options.architecture))
  | logicalVolume {table : PartitionTable} {before after : List Partition} {holder : Partition}
    {group : VolumeGroup} {volume : LogicalVolume}
    (hsplit : table.partitions = before ++ holder :: after)
    (hfirst : ∀ other ∈ before, other.group? = none)
    (hcontent : holder.content? = some (.volumeGroup group))
    (hnew : group.newVolume request.mountpoint (request.kind.getD options.defaultFilesystem)
      request.minSize = .ok volume) :
    Adds options request .logicalVolume table (table.withPartitions
      (before ++ holder.mapContent (fun _ => .volumeGroup (group.append { volume with
        payload := some (.filesystem
          (Partition.requestedFilesystem request options.defaultFilesystem)) })) :: after))
  | subvolume {table : PartitionTable} {before after : List Partition} {holder : Partition}
    {volume : Btrfs} {new : Subvolume}
    (hsplit : table.partitions = before ++ holder :: after)
    (hfirst : ∀ other ∈ before, other.btrfs? = none)
    (hcontent : holder.content? = some (.btrfs volume))
    (hnew : volume.newSubvolume request.mountpoint request.minSize = .ok new) :
    Adds options request .subvolume table (table.withPartitions
      (before ++ holder.mapContent (fun _ => .btrfs (volume.append new)) :: after))

/-- A table with the requests added whose mountpoints it does not have yet, one after the other. -/
inductive AddsEach (options : BuildOptions) :
    List FilesystemRequest → PartitionTable → PartitionTable → Prop
  | nil {table : PartitionTable} : AddsEach options [] table table
  | skip {request : FilesystemRequest} {others : List FilesystemRequest}
    {table result : PartitionTable} (hmounted : request.mountpoint ∈ table.mountpoints)
    (hothers : AddsEach options others table result) :
    AddsEach options (request :: others) table result
  | add {request : FilesystemRequest} {others : List FilesystemRequest}
    {table middle result : PartitionTable}
    (hedit : Adds options request (options.mode.placeOf request.mountpoint) table middle)
    (hothers : AddsEach options others middle result) :
    AddsEach options (request :: others) table result

/-- A table whose root filesystem is moved into a new container in its partition: into the root
volume of a volume group, or into the root subvolume of a btrfs volume. -/
inductive MovesRoot : Place → PartitionTable → PartitionTable → Prop
  | volumeGroup {table : PartitionTable} {before after : List Partition} {holder : Partition}
    {system : Filesystem} {name : String}
    (hsplit : table.partitions = before ++ holder :: after)
    (hcontent : holder.content? = some (.filesystem system))
    (hroot : system.mountpoint = Path.root)
    (hname : (VolumeGroup.empty VolumeGroup.defaultName
      VolumeGroup.defaultDescription).generateName Path.root = .ok name) :
    MovesRoot .logicalVolume table (table.withPartitions (before ++
      Conversion.toVolumeGroup (Conversion.rootGroup holder system name) holder :: after))
  | btrfs {table : PartitionTable} {before after : List Partition} {holder : Partition}
    {system : Filesystem} {new : Subvolume}
    (hsplit : table.partitions = before ++ holder :: after)
    (hcontent : holder.content? = some (.filesystem system))
    (hroot : system.mountpoint = Path.root)
    (hnew : (Conversion.rootBtrfs holder system).newSubvolume Path.root 0 = .ok new) :
    MovesRoot .subvolume table (table.withPartitions
      (before ++ holder.mapContent (fun _ =>
        .btrfs ((Conversion.rootBtrfs holder system).append new)) :: after))

/-! ### Positions -/

/-- A partition is inserted right before the first one that mounts the root, or at the end. -/
theorem addBeforeRoot_split (table : PartitionTable) (new : Partition) :
    ∃ before after, table.partitions = before ++ after ∧
      table.addBeforeRoot new = table.withPartitions (before ++ new :: after) ∧
      (Path.root ∈ table.mountpoints →
        ∃ holder others, after = holder :: others ∧ Path.root ∈ holder.mountpoints) := by
  cases hindex : table.partitionIndexOf? Path.root with
  | none =>
    have hroot : Path.root ∉ table.mountpoints := by
      rw [partitionIndexOf?_eq] at hindex
      simpa [mountpoints_eq] using hindex
    refine ⟨table.partitions, [], by simp, ?_, fun hmounted => absurd hmounted hroot⟩
    simp [addBeforeRoot, insertPartition, withPartitions, hindex]
  | some index =>
    have hinserted : table.addBeforeRoot new = table.insertPartition index new := by
      rw [addBeforeRoot, hindex, Option.getD_some]
    rw [partitionIndexOf?_eq] at hindex
    obtain ⟨hlt, hroot, -⟩ := List.findIdx?_eq_some_iff_getElem.1 hindex
    obtain ⟨before, after, hsplit, rfl, hinsert⟩ := insertIdx_split (Nat.le_of_lt hlt)
    refine ⟨before, after, hsplit, ?_, fun _ => ?_⟩
    · rw [hinserted]
      exact congrArg table.withPartitions (hinsert new)
    · -- The position lies behind all of `before`, so it is that of the first item of `after`.
      cases after with
      | nil => simp [hsplit] at hlt
      | cons holder others =>
        refine ⟨holder, others, rfl, ?_⟩
        simpa [hsplit] using hroot

theorem modifyPartition_eq {table : PartitionTable} {before after : List Partition}
    {partition : Partition} (hsplit : table.partitions = before ++ partition :: after)
    (change : Partition → Partition) :
    table.modifyPartition before.length change =
      table.withPartitions (before ++ change partition :: after) := by
  unfold modifyPartition withPartitions
  rw [hsplit, modify_length]

theorem contentAt?_eq {table : PartitionTable} {before after : List Partition}
    {partition : Partition} (hsplit : table.partitions = before ++ partition :: after) :
    Building.contentAt? table before.length = partition.content? := by
  simp [Building.contentAt?, hsplit]

/-- The volume group that takes in new mountpoints is the first of the table. -/
theorem volumeGroup?_cases (table : PartitionTable) :
    (table.firstGroup? = none ∧ Building.volumeGroup? table = none) ∨
      ∃ before holder after group, table.partitions = before ++ holder :: after ∧
        (∀ other ∈ before, other.group? = none) ∧
        holder.content? = some (.volumeGroup group) ∧ table.firstGroup? = some group ∧
        Building.volumeGroup? table = some (.volumeGroup before.length group) := by
  unfold Building.volumeGroup?
  rw [firstGroup?_eq_findSome?, volumeGroupIndex?_eq]
  rcases findSome?_cases Partition.group? table.partitions with
    ⟨hnone, hindex⟩ | ⟨before, holder, after, group, hsplit, hbefore, hgroup, hfound, hindex⟩
  · exact .inl ⟨hnone, by simp [hindex]⟩
  · have hcontent := Partition.group?_eq_some.1 hgroup
    refine .inr ⟨before, holder, after, group, hsplit, hbefore, hcontent, hfound, ?_⟩
    simp [hindex, contentAt?_eq hsplit, hcontent]

theorem btrfs?_cases (table : PartitionTable) :
    (table.firstBtrfs? = none ∧ Building.btrfs? table = none) ∨
      ∃ before holder after volume, table.partitions = before ++ holder :: after ∧
        (∀ other ∈ before, other.btrfs? = none) ∧
        holder.content? = some (.btrfs volume) ∧ table.firstBtrfs? = some volume ∧
        Building.btrfs? table = some (.btrfs before.length volume) := by
  unfold Building.btrfs?
  rw [firstBtrfs?_eq_findSome?, btrfsIndex?_eq]
  rcases findSome?_cases Partition.btrfs? table.partitions with
    ⟨hnone, hindex⟩ | ⟨before, holder, after, volume, hsplit, hbefore, hvolume, hfound, hindex⟩
  · exact .inl ⟨hnone, by simp [hindex]⟩
  · have hcontent := Partition.btrfs?_eq_some.1 hvolume
    refine .inr ⟨before, holder, after, volume, hsplit, hbefore, hcontent, hfound, ?_⟩
    simp [hindex, contentAt?_eq hsplit, hcontent]

/-! ### New mountpoints -/

section Requests

variable {table result : PartitionTable} {options : BuildOptions} {request : FilesystemRequest}
  {before after : List Partition} {holder : Partition} {place : Place}

theorem addPlain_adds (h : (Building.addPlain table request options).result = .ok result) :
    Adds options request .partition table result := by
  obtain rfl := Except.ok.inj h
  exact .partition table

theorem addLogicalVolume_adds {group : VolumeGroup}
    (hsplit : table.partitions = before ++ holder :: after)
    (hfirst : ∀ other ∈ before, other.group? = none)
    (hcontent : holder.content? = some (.volumeGroup group))
    (h : (Building.addLogicalVolume table before.length group request
      (request.kind.getD options.defaultFilesystem)).result = .ok result) :
    Adds options request .logicalVolume table result := by
  unfold Building.addLogicalVolume at h
  rw [Logged.result_bind, Logged.result_lift, bind_eq_ok] at h
  obtain ⟨volume, hnew, h⟩ := h
  obtain rfl := Except.ok.inj h
  rw [modifyPartition_eq hsplit]
  exact .logicalVolume hsplit hfirst hcontent hnew

theorem addSubvolume_adds {volume : Btrfs} {kind : FilesystemType}
    (hsplit : table.partitions = before ++ holder :: after)
    (hfirst : ∀ other ∈ before, other.btrfs? = none)
    (hcontent : holder.content? = some (.btrfs volume))
    (h : (Building.addSubvolume table before.length volume request kind).result = .ok result) :
    Adds options request .subvolume table result := by
  have hresult : ∃ new, volume.newSubvolume request.mountpoint request.minSize = .ok new ∧
      table.modifyPartition before.length
        (Partition.mapContent fun _ => .btrfs (volume.append new)) = result := by
    unfold Building.addSubvolume at h
    split at h <;>
      simpa only [Logged.result_bind, Logged.result_note, ok_bind, Logged.result_lift, bind_eq_ok,
        Logged.result_pure, Except.ok.injEq] using h
  obtain ⟨new, hnew, rfl⟩ := hresult
  rw [modifyPartition_eq hsplit]
  exact .subvolume hsplit hfirst hcontent hnew

/-- A new mountpoint goes where the partitioning mode puts it, if the table can take it there. -/
theorem addMountpoint_adds (htakes : table.Takes (options.mode.placeOf request.mountpoint))
    (h : (table.addMountpoint options request).result = .ok result) :
    Adds options request (options.mode.placeOf request.mountpoint) table result := by
  -- What may lie in a container does, unless the mode is raw; the table has the container that
  -- the mode asks for, so the fallback to a plain partition is never taken.
  have hcontains : Building.mayBeContained request.mountpoint = true ↔
      request.mountpoint ∉ Path.plainOnly := by
    simp [Building.mayBeContained]
  unfold addMountpoint at h
  unfold PartitioningMode.placeOf at htakes ⊢
  simp only [hcontains] at h
  by_cases hplain : request.mountpoint ∈ Path.plainOnly
  · simp only [hplain, not_true, and_false, if_false, if_true] at h ⊢
    exact addPlain_adds h
  · simp only [hplain, not_false_iff, and_true, if_false] at h htakes ⊢
    cases hmode : options.mode with
    | raw =>
      simp only [hmode, ne_eq, not_true, if_false] at h
      exact addPlain_adds h
    | lvm | autoLvm =>
      rw [hmode] at htakes
      obtain ⟨group, hgroup⟩ := htakes
      rcases volumeGroup?_cases table with ⟨hnone, -⟩ |
          ⟨before, holder, after, group, hsplit, hfirst, hcontent, -, hcontainer⟩
      · rw [hnone] at hgroup
        cases hgroup
      · simp only [hmode, Building.container?, hcontainer] at h
        exact addLogicalVolume_adds hsplit hfirst hcontent h
    | btrfs =>
      rw [hmode] at htakes
      obtain ⟨hnone, volume, hvolume⟩ := htakes
      rcases volumeGroup?_cases table with ⟨-, hgroup⟩ | ⟨_, _, _, group, -, -, -, hsome, -⟩
      · rcases btrfs?_cases table with ⟨hnone', -⟩ |
            ⟨before, holder, after, volume, hsplit, hfirst, hcontent, -, hcontainer⟩
        · rw [hnone'] at hvolume
          cases hvolume
        · simp only [hmode, Building.container?, hgroup, hcontainer] at h
          exact addSubvolume_adds hsplit hfirst hcontent h
      · rw [hnone] at hsome
        cases hsome

theorem findIdx?_of_first {α : Type} {kind : α → Bool} {before after : List α} {item : α}
    (hbefore : ∀ other ∈ before, kind other = false) (hitem : kind item = true) :
    (before ++ item :: after).findIdx? kind = some before.length := by
  rw [List.findIdx?_append, List.findIdx?_eq_none_iff.2 hbefore, List.findIdx?_cons, hitem]
  simp

theorem volumeGroup?_of_split {group : VolumeGroup}
    (hsplit : table.partitions = before ++ holder :: after)
    (hfirst : ∀ other ∈ before, other.group? = none)
    (hcontent : holder.content? = some (.volumeGroup group)) :
    Building.volumeGroup? table = some (.volumeGroup before.length group) := by
  have hindex : table.volumeGroupIndex? = some before.length := by
    rw [volumeGroupIndex?_eq, hsplit]
    refine findIdx?_of_first (fun other hother => ?_) ?_
    · rw [hfirst other hother]
      rfl
    · rw [Partition.group?_eq_some.2 hcontent]
      rfl
  simp [Building.volumeGroup?, hindex, contentAt?_eq hsplit, hcontent]

theorem btrfs?_of_split {volume : Btrfs} (hsplit : table.partitions = before ++ holder :: after)
    (hfirst : ∀ other ∈ before, other.btrfs? = none)
    (hcontent : holder.content? = some (.btrfs volume)) :
    Building.btrfs? table = some (.btrfs before.length volume) := by
  have hindex : table.btrfsIndex? = some before.length := by
    rw [btrfsIndex?_eq, hsplit]
    refine findIdx?_of_first (fun other hother => ?_) ?_
    · rw [hfirst other hother]
      rfl
    · rw [Partition.btrfs?_eq_some.2 hcontent]
      rfl
  simp [Building.btrfs?, hindex, contentAt?_eq hsplit, hcontent]

theorem addLogicalVolume_of_split {group : VolumeGroup} {volume : LogicalVolume}
    {kind : FilesystemType} (hsplit : table.partitions = before ++ holder :: after)
    (hnew : group.newVolume request.mountpoint kind request.minSize = .ok volume) :
    (Building.addLogicalVolume table before.length group request kind).result =
      .ok (table.withPartitions (before ++ holder.mapContent (fun _ => .volumeGroup (group.append
        { volume with payload := some (.filesystem
          { Filesystem.new kind request.mountpoint with label := request.label }) })) ::
            after)) := by
  rw [← modifyPartition_eq hsplit]
  simp [Building.addLogicalVolume, hnew]

theorem addSubvolume_of_split {volume : Btrfs} {new : Subvolume} {kind : FilesystemType}
    (hsplit : table.partitions = before ++ holder :: after)
    (hnew : volume.newSubvolume request.mountpoint request.minSize = .ok new) :
    (Building.addSubvolume table before.length volume request kind).result =
      .ok (table.withPartitions
        (before ++ holder.mapContent (fun _ => .btrfs (volume.append new)) :: after)) := by
  rw [← modifyPartition_eq hsplit]
  unfold Building.addSubvolume
  split <;> simp [hnew]

/-- Where the table can take a mountpoint, every edit that adds it there is made. -/
theorem addMountpoint_of_adds (htakes : table.Takes (options.mode.placeOf request.mountpoint))
    (h : Adds options request (options.mode.placeOf request.mountpoint) table result) :
    (table.addMountpoint options request).result = .ok result := by
  have hcontains : Building.mayBeContained request.mountpoint = true ↔
      request.mountpoint ∉ Path.plainOnly := by
    simp [Building.mayBeContained]
  unfold addMountpoint
  unfold PartitioningMode.placeOf at htakes h
  simp only [hcontains]
  by_cases hplain : request.mountpoint ∈ Path.plainOnly
  · simp only [hplain, not_true, and_false, if_false, if_true] at h ⊢
    cases h
    rfl
  · simp only [hplain, not_false_iff, and_true, if_false] at h htakes ⊢
    cases hmode : options.mode with
    | raw =>
      simp only [hmode] at h
      cases h
      rfl
    | lvm | autoLvm =>
      simp only [hmode] at h
      cases h with
      | @logicalVolume _ before after holder group volume hsplit hfirst hcontent hnew =>
        simp only [Building.container?, volumeGroup?_of_split hsplit hfirst hcontent]
        exact addLogicalVolume_of_split hsplit hnew
    | btrfs =>
      simp only [hmode] at h htakes
      obtain ⟨hnone, -⟩ := htakes
      cases h with
      | @subvolume _ before after holder volume new hsplit hfirst hcontent hnew =>
        have hgroup : Building.volumeGroup? table = none := by
          rcases volumeGroup?_cases table with ⟨-, hgroup⟩ | ⟨_, _, _, group, -, -, -, hsome, -⟩
          · exact hgroup
          · rw [hnone] at hsome
            cases hsome
        simp only [Building.container?, hgroup, btrfs?_of_split hsplit hfirst hcontent]
        exact addSubvolume_of_split hsplit hnew

/-- Adding a mountpoint that a table can take succeeds exactly if it makes an edit. -/
theorem addMountpoint_eq_ok_iff
    (htakes : table.Takes (options.mode.placeOf request.mountpoint)) :
    (table.addMountpoint options request).result = .ok result ↔
      Adds options request (options.mode.placeOf request.mountpoint) table result :=
  ⟨addMountpoint_adds htakes, addMountpoint_of_adds htakes⟩

/-- An edit that adds a request is a step that mounts it. -/
theorem Adds.mounts (h : Adds options request place table result) :
    Mounts request.mountpoint place table result := by
  cases h with
  | partition =>
    obtain ⟨system, hpayload, hmounted, -⟩ := Partition.plain_payload request
      options.defaultFilesystem options.architecture
    obtain ⟨before, after, hsplit, hresult, -⟩ := table.addBeforeRoot_split
      (Partition.plain request options.defaultFilesystem options.architecture)
    rw [hresult]
    exact .partition hsplit hpayload hmounted
  | logicalVolume hsplit hfirst hcontent _ =>
    exact .logicalVolume hsplit hfirst hcontent rfl rfl
  | subvolume hsplit hfirst hcontent hnew =>
    exact .subvolume hsplit hfirst hcontent (Btrfs.newSubvolume_mountpoint hnew)

/-- Adding mountpoints makes an edit for each request that is not mounted yet. -/
theorem addMountpoints_addsEach {requests : List FilesystemRequest}
    (htakes : ∀ request ∈ requests, table.Takes (options.mode.placeOf request.mountpoint))
    (h : (table.addMountpoints options requests).result = .ok result) :
    AddsEach options requests table result := by
  induction requests generalizing table with
  | nil =>
    obtain rfl := Except.ok.inj h
    exact .nil
  | cons request others ih =>
    obtain ⟨hrequest, hothers⟩ := List.forall_mem_cons.1 htakes
    unfold addMountpoints at h
    by_cases hmounted : table.containsMountpoint request.mountpoint
    · rw [if_pos hmounted] at h
      exact .skip (List.contains_iff_mem.1 hmounted) (ih hothers h)
    · rw [if_neg hmounted, Logged.result_bind, bind_eq_ok] at h
      obtain ⟨middle, hmiddle, h⟩ := h
      -- After an edit the table still takes in whatever the other requests ask for.
      have hedit := addMountpoint_adds hrequest hmiddle
      exact .add hedit (ih (fun other hother => hedit.mounts.takes (hothers other hother)) h)

theorem AddsEach.mountsEach {requests : List FilesystemRequest}
    (h : AddsEach options requests table result) :
    MountsEach options.mode requests table result := by
  induction h with
  | nil => exact .nil
  | skip hmounted _ ih => exact .skip hmounted ih
  | add hedit _ ih => exact .mount hedit.mounts ih

end Requests

/-! ### Conversions -/

section Conversions

variable {kind : FilesystemType} {table booted result : PartitionTable} {place : Place}

theorem ensureBoot_cases (h : (table.ensureBoot kind).result = .ok booted) :
    (Path.boot ∈ table.mountpoints ∧ booted = table) ∨
      (Path.boot ∉ table.mountpoints ∧ booted = table.addBeforeRoot (Partition.boot kind)) := by
  unfold ensureBoot at h
  by_cases hmounted : table.containsMountpoint Path.boot
  · rw [if_pos hmounted] at h
    exact .inl ⟨List.contains_iff_mem.1 hmounted, (Except.ok.inj h).symm⟩
  · rw [if_neg hmounted] at h
    refine .inr ⟨fun hmem => hmounted (List.contains_iff_mem.2 hmem), ?_⟩
    exact (Except.ok.inj h).symm

/-- The root filesystem that is converted is the whole content of its partition. -/
theorem rootFilesystem_eq_ok {what : String} {table : PartitionTable} {index : Nat}
    {holder : Partition} {system : Filesystem}
    (h : Conversion.rootFilesystem what table = .ok (index, holder, system)) :
    ∃ before after, table.partitions = before ++ holder :: after ∧ before.length = index ∧
      holder.content? = some (.filesystem system) ∧ system.mountpoint = Path.root := by
  unfold Conversion.rootFilesystem at h
  rw [partitionIndexOf?_eq] at h
  cases hindex : table.partitions.findIdx? fun partition =>
      partition.mountpoints.contains Path.root with
  | none =>
    rw [hindex] at h
    cases h
  | some found =>
    -- The partition mounts the root, and all that a filesystem mounts is its own mountpoint.
    obtain ⟨hlt, hroot, -⟩ := List.findIdx?_eq_some_iff_getElem.1 hindex
    obtain ⟨before, item, after, hsplit, hlength, hitem, -⟩ := modify_split hlt
    have hget : table.partitions[found] = item :=
      Option.some.inj ((List.getElem?_eq_getElem hlt).symm.trans hitem)
    rw [hget] at hroot
    simp only [hindex, hitem, Option.bind_some] at h
    cases hcontent : item.content? with
    | none => simp [hcontent] at h
    | some inner =>
      rw [hcontent] at h
      cases inner with
      | filesystem mounted =>
        simp only [Except.ok.injEq, Prod.mk.injEq] at h
        obtain ⟨rfl, rfl, rfl⟩ := h
        rw [Partition.mountpoints_of_content? hcontent] at hroot
        refine ⟨before, after, hsplit, hlength, hcontent, ?_⟩
        simpa [eq_comm] using hroot
      | _ => cases h

/-- A table without a volume group gets one in place of its root filesystem, once `/boot` is
sure. -/
theorem ensureVolumeGroup_moves (h : (table.ensureVolumeGroup kind).result = .ok result) :
    (table.volumeGroupIndex?.isSome ∧ result = table) ∨
      (table.volumeGroupIndex? = none ∧ ∃ booted, (table.ensureBoot kind).result = .ok booted ∧
        MovesRoot .logicalVolume booted result) := by
  unfold ensureVolumeGroup at h
  by_cases hindex : table.volumeGroupIndex?.isSome
  · rw [if_pos hindex] at h
    exact .inl ⟨hindex, (Except.ok.inj h).symm⟩
  · rw [if_neg hindex] at h
    simp only [Logged.result_bind, Logged.result_lift, Logged.result_note, ok_bind, bind_eq_ok] at h
    obtain ⟨booted, hbooted, ⟨index, holder, system⟩, hroot, name, hname, h⟩ := h
    obtain ⟨before, after, hsplit, rfl, hcontent, hmounted⟩ := rootFilesystem_eq_ok hroot
    obtain rfl := Except.ok.inj h
    refine .inr ⟨by simpa using hindex, booted, hbooted, ?_⟩
    rw [modifyPartition_eq hsplit]
    exact .volumeGroup hsplit hcontent hmounted hname

/-- A table without a btrfs volume gets one in place of its root filesystem, once `/boot` is
sure. -/
theorem ensureBtrfs_moves (h : (table.ensureBtrfs kind).result = .ok result) :
    (table.btrfsIndex?.isSome ∧ result = table) ∨
      (table.btrfsIndex? = none ∧ ∃ booted, (table.ensureBoot kind).result = .ok booted ∧
        MovesRoot .subvolume booted result) := by
  unfold ensureBtrfs at h
  by_cases hindex : table.btrfsIndex?.isSome
  · rw [if_pos hindex] at h
    exact .inl ⟨hindex, (Except.ok.inj h).symm⟩
  · rw [if_neg hindex] at h
    simp only [Logged.result_bind, Logged.result_lift, Logged.result_note, ok_bind, bind_eq_ok] at h
    obtain ⟨booted, hbooted, ⟨index, holder, system⟩, hroot, new, hnew, h⟩ := h
    obtain ⟨before, after, hsplit, rfl, hcontent, hmounted⟩ := rootFilesystem_eq_ok hroot
    obtain rfl := Except.ok.inj h
    refine .inr ⟨by simpa using hindex, booted, hbooted, ?_⟩
    rw [modifyPartition_eq hsplit]
    exact .btrfs hsplit hcontent hmounted hnew

/-- An edit that moves the root filesystem is a step that converts it. -/
theorem MovesRoot.converts (h : MovesRoot place table result) : Converts place table result := by
  cases h with
  | volumeGroup hsplit hcontent hroot _ => exact .volumeGroup hsplit hcontent hroot rfl rfl
  | btrfs hsplit hcontent hroot hnew =>
    exact .btrfs hsplit hcontent hroot rfl (Btrfs.newSubvolume_mountpoint hnew)

end Conversions

end PartitionTable

end DiskLayout
