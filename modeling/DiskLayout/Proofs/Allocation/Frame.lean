import DiskLayout.Proofs.Allocation.Assembly
import DiskLayout.Proofs.Allocation.FittingSizes
import DiskLayout.Proofs.Allocation.TotalSize
import DiskLayout.Proofs.Table.Extension

/-!
# What building keeps

A built table extends its base: partitions stand in their order with all that they hold, nothing is
smaller, and what is new stands behind the old in its container or right before the root partition.
Only the partition whose root filesystem is converted has another content afterwards, which takes
that filesystem over.

## Main definitions

* `Additions.ofBuild` — what building may add to a base
* `Payload.RootMoved`, `Partition.RootMoved` — a root filesystem that a new container takes over

## Main results

* `Adds.extends`, `MovesRoot.follows` — what the edits of assembly keep
* `built_frame` — what a built table keeps of its base
-/

namespace DiskLayout

/-- What building may add to a base: filesystems of the types that are asked for, that are the
default or that boot partitions have, at mountpoints that the base does not have. -/
def Additions.ofBuild (base : PartitionTable) (requests : List FilesystemRequest)
    (options : BuildOptions) : Additions where
  kinds kind := kind = .vfat ∨ kind = Partition.bootFilesystem options.defaultFilesystem ∨
    kind = options.defaultFilesystem ∨ ∃ request ∈ requests, request.kind = some kind
  mountpoints mountpoint := mountpoint ∉ base.mountpoints

/-- A payload whose root filesystem a new container takes over: the first logical volume holds the
filesystem as it was, or the btrfs volume has its identifier and label. -/
inductive Payload.RootMoved (additions : Additions) : Place → Payload → Payload → Prop
  | volumeGroup {system kept : Filesystem} {group : VolumeGroup} {root : LogicalVolume}
    {added : List LogicalVolume} (hvolumes : group.logicalVolumes = root :: added)
    (hpayload : root.payload = some (.filesystem kept)) (hkept : system.Alike kept)
    (hadded : ∀ volume ∈ added, additions.Allows volume.payload) :
    RootMoved additions .logicalVolume (.filesystem system) (.volumeGroup group)
  | btrfs {system : Filesystem} {volume : Btrfs} {root : Subvolume} {added : List Subvolume}
    (huuid : IdentifierKept system.uuid volume.uuid) (hlabel : volume.label = system.label)
    (hsubvolumes : volume.subvolumes = root :: added) (hroot : root.mountpoint = system.mountpoint)
    (hadded : ∀ subvolume ∈ added, additions.mountpoints subvolume.mountpoint) :
    RootMoved additions .subvolume (.filesystem system) (.btrfs volume)
  | luks {place : Place} {old new : Luks} (hown : old.Alike new)
    (hinner : RootMoved additions place old.payload new.payload) :
    RootMoved additions place (.luks old) (.luks new)

/-- Whether the payload of a partition is an encrypted container. -/
def Partition.isEncrypted (partition : Partition) : Bool := partition.payload.any Payload.isLuks

/-- A partition whose root filesystem a new container takes over.  It becomes a physical volume if
that is a volume group with no encryption around it. -/
structure Partition.RootMoved (additions : Additions) (place : Place) (old new : Partition) :
    Prop where
  size : old.size ≤ new.size
  kind : new.kind = if place = .logicalVolume ∧ old.isEncrypted = false then .lvm else old.kind
  uuid : IdentifierKept old.uuid new.uuid
  bootable : new.bootable = old.bootable
  payload : Option.Rel (Payload.RootMoved additions place) old.payload new.payload

/-- What becomes of a partition where the root filesystem is converted. -/
def Partition.Follows (additions : Additions) (place : Place) (old new : Partition) : Prop :=
  if Path.root ∈ old.mountpoints then old.RootMoved additions place new
  else old.Extends additions new

variable {additions : Additions} {place : Place}

/-! ### Converted partitions -/

/-- A container that has taken a filesystem over still has when it is extended. -/
theorem Payload.RootMoved.trans {first second third : Payload}
    (h : first.RootMoved additions place second) (h' : second.Extends additions third) :
    first.RootMoved additions place third := by
  induction h generalizing third with
  | volumeGroup hvolumes hpayload hkept hadded =>
    cases h' with
    | volumeGroup hown hkept' hadded' hvolumes' =>
      rw [hvolumes] at hkept'
      cases hkept' with
      | cons hroot hothers =>
        -- The root volume is the first one that the extension keeps, with what it holds.
        have hinner := (LogicalVolume.resembles_iff.1 hroot).2
        rw [hpayload] at hinner
        generalize hnew : LogicalVolume.payload _ = newPayload at hinner
        cases hinner with
        | some hinner =>
          obtain ⟨system, rfl, halike⟩ := resembles_filesystem_left.1 hinner
          have hothers := forall_mem_transport hothers (fun _ _ hvol => hvol.allows) hadded
          exact .volumeGroup hvolumes' hnew (hkept.trans halike)
            (List.forall_mem_append.2 ⟨hothers, hadded'⟩)
  | btrfs huuid hlabel hsubvolumes hroot hadded =>
    cases h' with
    | btrfs hown hkept' hadded' hsubvolumes' =>
      rw [hsubvolumes] at hkept'
      cases hkept' with
      | cons hfirst hothers =>
        have hothers := forall_mem_transport hothers
          (fun _ _ hsub hold => hsub.mountpoint ▸ hold) hadded
        exact .btrfs (huuid.trans hown.uuid) (hown.label.trans hlabel) hsubvolumes'
          (hfirst.mountpoint.trans hroot) (List.forall_mem_append.2 ⟨hothers, hadded'⟩)
  | luks hown _ ih =>
    cases h' with
    | luks hown' hinner' => exact .luks (hown.trans hown') (ih hinner')

theorem Partition.RootMoved.trans {first second third : Partition}
    (h : first.RootMoved additions place second) (h' : second.Extends additions third) :
    first.RootMoved additions place third where
  size := Nat.le_trans h.size h'.1.size
  kind := h'.1.kind.trans h.kind
  uuid := h.uuid.trans h'.1.uuid
  bootable := h'.1.bootable.trans h.bootable
  payload := optionRel_comp h.payload h'.2 fun _ _ _ _ hpayload hpayload' =>
    hpayload.trans hpayload'

theorem Partition.Follows.trans {first second third : Partition}
    (h : first.Follows additions place second) (h' : second.Extends additions third) :
    first.Follows additions place third := by
  by_cases hroot : Path.root ∈ first.mountpoints
  · rw [Follows, if_pos hroot] at h ⊢
    exact h.trans h'
  · rw [Follows, if_neg hroot] at h ⊢
    exact h.trans h'

theorem Partition.Follows.mem_root {old new : Partition} (h : old.Follows additions place new)
    (hroot : Path.root ∈ new.mountpoints) :
    Path.root ∈ old.mountpoints ∨ additions.mountpoints Path.root := by
  by_cases hold : Path.root ∈ old.mountpoints
  · exact .inl hold
  · rw [Follows, if_neg hold] at h
    exact h.mem_mountpoints hroot

theorem Partition.extends_mapContent {partition : Partition} {inner new : Payload}
    (hcontent : partition.content? = some inner) (hnew : inner.Extends additions new) :
    partition.Extends additions (partition.mapContent fun _ => new) :=
  ⟨⟨Nat.le_refl _, rfl, .refl _, rfl⟩, Partition.rel_mapContent
    (fun _ _ hinner => .luks ⟨.refl _, rfl, rfl⟩ hinner) hcontent hnew⟩

theorem Partition.mem_root_of_content {partition : Partition} {system : Filesystem}
    (hcontent : partition.content? = some (.filesystem system))
    (hroot : system.mountpoint = Path.root) : Path.root ∈ partition.mountpoints := by
  rw [mountpoints_of_content? hcontent, Payload.mountpoints_filesystem, hroot]
  exact List.mem_singleton_self _

theorem Partition.rel_rootMoved {partition : Partition} {inner new : Payload}
    (hcontent : partition.content? = some inner) (hnew : inner.RootMoved additions place new) :
    Option.Rel (Payload.RootMoved additions place) partition.payload
      (partition.mapContent fun _ => new).payload :=
  Partition.rel_mapContent (fun _ _ hinner => .luks ⟨.refl _, rfl, rfl⟩ hinner) hcontent hnew

/-- A root partition that a volume group takes over becomes a physical volume unless it is
encrypted. -/
theorem toVolumeGroup_rootMoved {holder : Partition} {system : Filesystem}
    (hcontent : holder.content? = some (.filesystem system)) (name : String) :
    holder.RootMoved additions .logicalVolume
      (Conversion.toVolumeGroup (Conversion.rootGroup holder system name) holder) where
  size := Nat.le_of_eq (PartitionTable.size_toVolumeGroup _ holder).symm
  kind := by
    -- Under encryption it is not the partition itself that becomes a physical volume.
    unfold Conversion.toVolumeGroup Partition.isEncrypted
    cases holder.payload with
    | none => rfl
    | some payload => cases payload <;> rfl
  uuid := by
    unfold Conversion.toVolumeGroup
    split <;> exact .refl _
  bootable := by
    unfold Conversion.toVolumeGroup
    split <;> rfl
  payload := by
    rw [PartitionTable.payload_toVolumeGroup]
    exact Partition.rel_rootMoved hcontent
      (.volumeGroup rfl rfl ⟨rfl, .refl _, rfl, rfl, rfl, rfl, rfl⟩ (by simp))

theorem mapContent_rootMoved {holder : Partition} {system : Filesystem} {new : Subvolume}
    (hcontent : holder.content? = some (.filesystem system))
    (hmounted : new.mountpoint = system.mountpoint) :
    holder.RootMoved additions .subvolume (holder.mapContent fun _ =>
      .btrfs ((Conversion.rootBtrfs holder system).append new)) where
  size := Nat.le_refl _
  kind := by simp [Partition.mapContent]
  uuid := .refl _
  bootable := rfl
  payload := Partition.rel_rootMoved hcontent (.btrfs (.refl _) rfl rfl hmounted (by simp))

/-- Where nothing is mounted twice, only the partition that mounts the root is converted. -/
theorem follows_replace {before after : List Partition} {holder new : Partition}
    (hdistinct : ((before ++ holder :: after).flatMap Partition.mountpoints).Nodup)
    (hroot : Path.root ∈ holder.mountpoints) (hmoved : holder.RootMoved additions place new) :
    List.Forall₂ (Partition.Follows additions place) (before ++ holder :: after)
      (before ++ new :: after) := by
  -- No partition on either side of the holder mounts the root, so these are kept as they are.
  rw [List.flatMap_append, List.flatMap_cons, List.nodup_append, List.nodup_append] at hdistinct
  obtain ⟨-, ⟨-, -, hafter⟩, hbefore⟩ := hdistinct
  have hkept : ∀ partitions : List Partition,
      (∀ partition ∈ partitions, Path.root ∉ partition.mountpoints) →
      List.Forall₂ (Partition.Follows additions place) partitions partitions := by
    intro partitions hnot
    refine List.forall₂_same.2 fun partition hmem => ?_
    rw [Partition.Follows, if_neg (hnot partition hmem)]
    exact .refl partition
  have hnotBefore : ∀ other ∈ before, Path.root ∉ other.mountpoints := by
    intro other hother hmounted
    have hmem := List.mem_flatMap.2 ⟨other, hother, hmounted⟩
    exact hbefore _ hmem _ (List.mem_append_left _ hroot) rfl
  have hnotAfter : ∀ other ∈ after, Path.root ∉ other.mountpoints := by
    intro other hother hmounted
    have hmem := List.mem_flatMap.2 ⟨other, hother, hmounted⟩
    exact hafter _ hroot _ hmem rfl
  have hholder : holder.Follows additions place new := by
    rw [Partition.Follows, if_pos hroot]
    exact hmoved
  exact List.rel_append (hkept before hnotBefore) (.cons hholder (hkept after hnotAfter))

namespace PartitionTable

variable {table result : PartitionTable}

/-! ### The table itself -/

/-- What a table says besides its size and its partitions. -/
def header (table : PartitionTable) : Option VolumeId × TableKind := (table.uuid, table.kind)

/-- A partition that may be added may be added before the root. -/
theorem addBeforeRoot_extend {related : Partition → Partition → Prop}
    (hrefl : ∀ partition, related partition partition) {new : Partition}
    (hallowed : additions.Allows new.payload)
    (hroot : additions.mountpoints Path.root ∨ Path.root ∈ table.mountpoints) :
    PartitionsExtend additions related table.partitions (table.addBeforeRoot new).partitions := by
  obtain ⟨before, after, hsplit, hresult, hplace⟩ := table.addBeforeRoot_split new
  have hkept : ∀ partitions, PartitionsExtend additions related partitions partitions :=
    fun partitions => .of_forall₂ (List.forall₂_same.2 fun partition _ => hrefl partition)
  rw [hresult, partitions_withPartitions, hsplit]
  exact (hkept before).append (.insert hallowed (hroot.imp_right hplace) (hkept after))

/-! ### Edits -/

/-- An edit that adds a request extends the partitions of a table. -/
theorem Adds.extends {options : BuildOptions} {request : FilesystemRequest}
    (h : Adds options request place table result)
    (hvfat : additions.kinds .vfat)
    (hkind : additions.kinds (request.kind.getD options.defaultFilesystem))
    (hmounted : additions.mountpoints request.mountpoint)
    (hroot : additions.mountpoints Path.root ∨ Path.root ∈ table.mountpoints) :
    PartitionsExtend additions (Partition.Extends additions) table.partitions
      result.partitions := by
  have hrefl : ∀ partitions, List.Forall₂ (Partition.Extends additions) partitions partitions :=
    fun partitions => List.forall₂_same.2 fun partition _ => .refl partition
  cases h with
  | partition =>
    obtain ⟨system, hpayload, hsame, hsystem⟩ := Partition.plain_payload request
      options.defaultFilesystem options.architecture
    have hmay : additions.kinds system.kind := by
      rcases hsystem with hsystem | hsystem
      · exact hsystem ▸ hvfat
      · exact hsystem ▸ hkind
    exact addBeforeRoot_extend Partition.Extends.refl
      ⟨system, hpayload, hmay, hsame ▸ hmounted⟩ hroot
  | @logicalVolume _ before after holder group volume hsplit hfirst hcontent hnew =>
    rw [partitions_withPartitions, hsplit]
    refine .of_forall₂ (List.rel_append (hrefl before) (.cons ?_ (hrefl after)))
    refine Partition.extends_mapContent hcontent (.volumeGroup ⟨rfl, rfl⟩
      (List.forall₂_same.2 fun volume _ => .refl Nat.le_refl volume) ?_ rfl)
    exact List.forall_mem_singleton.2 ⟨_, rfl, hkind, hmounted⟩
  | @subvolume _ before after holder volume new hsplit hfirst hcontent hnew =>
    rw [partitions_withPartitions, hsplit]
    refine .of_forall₂ (List.rel_append (hrefl before) (.cons ?_ (hrefl after)))
    refine Partition.extends_mapContent hcontent (.btrfs ⟨.refl _, rfl, Nat.le_refl _⟩
      (List.forall₂_same.2 fun _ _ => ⟨rfl, rfl, Nat.le_refl _, rfl⟩) ?_ rfl)
    exact List.forall_mem_singleton.2 (Btrfs.newSubvolume_mountpoint hnew ▸ hmounted)

theorem mem_root_of_adds {options : BuildOptions} {request : FilesystemRequest}
    (h : Adds options request place table result)
    (hroot : additions.mountpoints Path.root ∨ Path.root ∈ table.mountpoints) :
    additions.mountpoints Path.root ∨ Path.root ∈ result.mountpoints :=
  hroot.imp_right fun hmem => h.mounts.mem_mountpoints.2 (.inl hmem)

/-- Edits that add requests one after the other extend the partitions of a table. -/
theorem AddsEach.extends {options : BuildOptions} {requests : List FilesystemRequest}
    (h : AddsEach options requests table result) (hvfat : additions.kinds .vfat)
    (hnew : ∀ request ∈ requests, additions.kinds (request.kind.getD options.defaultFilesystem) ∧
      additions.mountpoints request.mountpoint)
    (hroot : additions.mountpoints Path.root ∨ Path.root ∈ table.mountpoints) :
    PartitionsExtend additions (Partition.Extends additions) table.partitions
      result.partitions := by
  induction h with
  | nil => exact .of_forall₂ (List.forall₂_same.2 fun partition _ => .refl partition)
  | skip _ _ ih => exact ih (List.forall_mem_cons.1 hnew).2 hroot
  | add hedit _ ih =>
    obtain ⟨⟨hkind, hmounted⟩, hothers⟩ := List.forall_mem_cons.1 hnew
    exact (hedit.extends hvfat hkind hmounted hroot).trans
      (ih hothers (mem_root_of_adds hedit hroot))

/-- An edit that moves the root filesystem replaces the partition that holds it, and no other
one. -/
theorem MovesRoot.replaces (h : MovesRoot place table result) :
    ∃ before holder new after, table.partitions = before ++ holder :: after ∧
      result.partitions = before ++ new :: after ∧ Path.root ∈ holder.mountpoints ∧
      ∀ additions : Additions, holder.RootMoved additions place new := by
  cases h with
  | @volumeGroup _ before after holder system name hsplit hcontent hroot hname =>
    have hmounted := Partition.mem_root_of_content hcontent hroot
    exact ⟨before, holder, _, after, hsplit, rfl, hmounted,
      fun _ => toVolumeGroup_rootMoved hcontent name⟩
  | @btrfs _ before after holder system new hsplit hcontent hroot hnew =>
    have hmounted := Partition.mem_root_of_content hcontent hroot
    have hnewroot : new.mountpoint = system.mountpoint :=
      (Btrfs.newSubvolume_mountpoint hnew).trans hroot.symm
    exact ⟨before, holder, _, after, hsplit, rfl, hmounted,
      fun _ => mapContent_rootMoved hcontent hnewroot⟩

theorem MovesRoot.mem_root (h : MovesRoot place table result) : Path.root ∈ table.mountpoints := by
  obtain ⟨before, holder, new, after, hsplit, -, hroot, -⟩ := h.replaces
  rw [mountpoints_eq, hsplit]
  exact List.mem_flatMap.2 ⟨holder, List.mem_append_right _ List.mem_cons_self, hroot⟩

/-- An edit that moves the root filesystem converts its partition and no other one. -/
theorem MovesRoot.follows (h : MovesRoot place table result)
    (hdistinct : table.mountpoints.Nodup) :
    List.Forall₂ (Partition.Follows additions place) table.partitions result.partitions := by
  obtain ⟨before, holder, new, after, hsplit, hresult, hroot, hmoved⟩ := h.replaces
  rw [mountpoints_eq, hsplit] at hdistinct
  rw [hsplit, hresult]
  exact follows_replace hdistinct hroot (hmoved additions)

/-- Making sure of `/boot` inserts at most a partition for it. -/
theorem ensureBoot_extend {kind : FilesystemType} {booted : PartitionTable}
    (h : (table.ensureBoot kind).result = .ok booted)
    (hkind : additions.kinds (Partition.bootFilesystem kind))
    (hboot : Path.boot ∉ table.mountpoints → additions.mountpoints Path.boot)
    (hroot : additions.mountpoints Path.root ∨ Path.root ∈ table.mountpoints) :
    PartitionsExtend additions (· = ·) table.partitions booted.partitions := by
  rcases ensureBoot_cases h with ⟨-, rfl⟩ | ⟨hnot, rfl⟩
  · exact .of_forall₂ (List.forall₂_same.2 fun _ _ => rfl)
  · obtain ⟨system, hpayload, hmounted, hsystem⟩ := Partition.boot_payload kind
    exact addBeforeRoot_extend (fun _ => rfl)
      ⟨system, hpayload, hsystem ▸ hkind, hmounted ▸ hboot hnot⟩ hroot

theorem ensureBoot_nodup {kind : FilesystemType} {booted : PartitionTable}
    (h : (table.ensureBoot kind).result = .ok booted) (hdistinct : table.mountpoints.Nodup) :
    booted.mountpoints.Nodup := by
  rcases ensureBoot_cases h with ⟨-, rfl⟩ | ⟨hnot, rfl⟩
  · exact hdistinct
  · obtain ⟨system, hpayload, hmounted, -⟩ := Partition.boot_payload kind
    obtain ⟨before, after, hsplit, hresult, -⟩ := table.addBeforeRoot_split (Partition.boot kind)
    rw [mountpoints_eq, hsplit, List.flatMap_append] at hdistinct hnot
    rw [hresult, mountpoints_withPartitions, List.flatMap_append, List.flatMap_cons,
      Partition.mountpoints_of_filesystem hpayload, hmounted, List.singleton_append]
    exact List.perm_middle.nodup_iff.2 (List.nodup_cons.2 ⟨hnot, hdistinct⟩)

end PartitionTable

/-! ### The assembled table -/

section Assembled

variable {base table : PartitionTable} {requests : List FilesystemRequest} {options : BuildOptions}
  {minimums : Minimums}

theorem Additions.ofBuild_root (base : PartitionTable) (requests : List FilesystemRequest)
    (options : BuildOptions) :
    (ofBuild base requests options).mountpoints Path.root ∨ Path.root ∈ base.mountpoints :=
  (em (Path.root ∈ base.mountpoints)).symm

theorem Additions.ofBuild_boot (base : PartitionTable) (requests : List FilesystemRequest)
    (options : BuildOptions) :
    (ofBuild base requests options).kinds (Partition.bootFilesystem options.defaultFilesystem) :=
  .inr (.inl rfl)

theorem Additions.ofBuild_new {request : FilesystemRequest}
    (hmem : request ∈ newRequests base requests) :
    (ofBuild base requests options).kinds (request.kind.getD options.defaultFilesystem) ∧
      (ofBuild base requests options).mountpoints request.mountpoint := by
  obtain ⟨hrequest, hnew⟩ := mem_newRequests.1 hmem
  refine ⟨.inr (.inr ?_), hnew⟩
  cases hkind : request.kind with
  | none => exact .inl rfl
  | some kind => exact .inr ⟨request, hrequest, hkind⟩

/-- Where the root filesystem is converted, what is inserted does not mount the root, so it is kept
like everything else. -/
theorem Additions.Allows.follows {old new : Partition} (hold : additions.Allows old.payload)
    (hroot : ¬ additions.mountpoints Path.root) (h : old.Follows additions place new) :
    additions.Allows new.payload := by
  have hnot : Path.root ∉ old.mountpoints := by
    obtain ⟨system, hpayload, -, hmounted⟩ := hold
    rw [Partition.mountpoints_of_filesystem hpayload, List.mem_singleton]
    exact fun heq => hroot (heq ▸ hmounted)
  rw [Partition.Follows, if_neg hnot] at h
  exact hold.extends h.2

/-- Assembly extends the partitions of a base, but for the root partition where it is converted. -/
theorem assembled_extends (h : (assemble base requests options).result = .ok (table, minimums)) :
    (¬ options.mode.ConvertsRoot (anyContained base requests) base →
      PartitionsExtend (.ofBuild base requests options)
        (Partition.Extends (.ofBuild base requests options)) base.partitions table.partitions) ∧
    (options.mode.ConvertsRoot (anyContained base requests) base →
      PartitionsExtend (.ofBuild base requests options)
        (Partition.Follows (.ofBuild base requests options) (options.mode.placeOf Path.root))
        base.partitions table.partitions) := by
  obtain ⟨hvalid, -, prepared, hprepared, heach⟩ := assemble_eq_edits h
  have hextends (hroot : (Additions.ofBuild base requests options).mountpoints Path.root ∨
      Path.root ∈ prepared.mountpoints) :
      PartitionsExtend (.ofBuild base requests options)
        (Partition.Extends (.ofBuild base requests options)) prepared.partitions
        table.partitions :=
    heach.extends (.inl rfl) (fun request hrequest => Additions.ofBuild_new hrequest) hroot
  rcases PartitionTable.prepare_moves hprepared with
    ⟨hkept, rfl⟩ | ⟨hconverts, booted, hbooted, hmoves⟩
  · exact ⟨fun _ => hextends (Additions.ofBuild_root prepared requests options),
      fun hconverts => absurd hconverts hkept⟩
  · refine ⟨fun hkept => absurd hconverts hkept, fun _ => ?_⟩
    have hstructured := PartitionTable.wellStructured_of_validateStructure hvalid
    have hdistinct := PartitionTable.ensureBoot_nodup hbooted hstructured.mountpoints_distinct
    -- The root is not `/boot`, so it was mounted before there was a partition for that.
    have hbase : Path.root ∈ base.mountpoints :=
      ((PartitionTable.ensureBoot_boots hbooted).mem_mountpoints.1 hmoves.mem_root).resolve_right
        (by decide)
    have hinserted := PartitionTable.ensureBoot_extend hbooted
      (Additions.ofBuild_boot base requests options) id
      (Additions.ofBuild_root base requests options)
    have hfollows : List.Forall₂ (Partition.Follows (.ofBuild base requests options)
        (options.mode.placeOf Path.root)) booted.partitions prepared.partitions :=
      hmoves.follows hdistinct
    have hconverted := hinserted.comp (.of_forall₂ hfollows)
      (fun _ _ _ heq hsecond => heq ▸ hsecond)
      (fun _ _ hsecond hallowed => hallowed.follows (fun hnot => hnot hbase) hsecond)
      (fun _ _ heq hmem => .inl (heq ▸ hmem))
    refine hconverted.extend (hextends ?_) (fun _ _ _ hfirst hsecond => hfirst.trans hsecond)
      fun _ _ hfirst => hfirst.mem_root
    exact .inr (hmoves.converts.mem_mountpoints.2 hmoves.mem_root)

end Assembled

/-! ### The built table -/

section Built

variable {base result : PartitionTable} {requests : List FilesystemRequest} {goal : Nat}
  {options : BuildOptions} {source : RandomSource}

/-- Building extends the partitions of a base, but for the root partition where it is converted. -/
theorem built_extends (h : (build base requests goal options source).1.result = .ok result) :
    (¬ options.mode.ConvertsRoot (anyContained base requests) base →
      PartitionsExtend (.ofBuild base requests options)
        (Partition.Extends (.ofBuild base requests options)) base.partitions result.partitions) ∧
    (options.mode.ConvertsRoot (anyContained base requests) base →
      PartitionsExtend (.ofBuild base requests options)
        (Partition.Follows (.ofBuild base requests options) (options.mode.placeOf Path.root))
        base.partitions result.partitions) := by
  obtain ⟨table, minimums, hassemble, hfinished, -⟩ := build_eq_ok h
  obtain ⟨hkept, hconverted⟩ := assembled_extends hassemble
  -- Finishing a table only makes it larger and fills what is missing.
  have hfinishes : PartitionsExtend (.ofBuild base requests options)
      (Partition.Extends (.ofBuild base requests options)) table.partitions result.partitions :=
    .of_forall₂ (hfinished.resembles.partitions.imp fun _ _ hpartition => hpartition.extends)
  refine ⟨fun hnot => (hkept hnot).trans hfinishes, fun hconverts => ?_⟩
  exact (hconverted hconverts).extend hfinishes (fun _ _ _ hfirst hsecond => hfirst.trans hsecond)
    fun _ _ hfirst => hfirst.mem_root

end Built

end DiskLayout
