import DiskLayout.Proofs.Table.Resemblance

/-!
# Extension of tables

A table is extended when nothing in it is lost, renamed or shrunk, and what is new stands behind
what was there: logical volumes and subvolumes after the others of their container, partitions
right before the one that mounts the root.  Everything that is new holds nothing but a filesystem
or is a subvolume, and what may be added is a parameter.

## Main definitions

* `Additions` — what may be added
* `Payload.Extends`, `Partition.Extends` — the same entities, no smaller, with volumes appended
* `PartitionsExtend` — the same partitions, related one by one, with others inserted

## Main results

* `Payload.Resembles.extends` — what resembles without shrinking is an extension
* `Payload.Extends.trans`, `PartitionsExtend.comp` — extensions compose
-/

namespace DiskLayout

/-- What may be added to a table: filesystems of which types, and at which mountpoints. -/
structure Additions where
  kinds : FilesystemType → Prop
  mountpoints : String → Prop

namespace Additions

/-- Whether a device with this payload may be added: it holds nothing but a filesystem that may. -/
def Allows (additions : Additions) (payload : Option Payload) : Prop :=
  ∃ system, payload = some (.filesystem system) ∧ additions.kinds system.kind ∧
    additions.mountpoints system.mountpoint

/-- Whether partitions may be inserted before others: the first of these mounts the root, unless
the root itself may be added. -/
def MayPrecede (additions : Additions) (partitions : List Partition) : Prop :=
  additions.mountpoints Path.root ∨
    ∃ holder others, partitions = holder :: others ∧ Path.root ∈ holder.mountpoints

end Additions

/-- A payload in which nothing is lost or shrunk, with volumes added at the end of its container. -/
inductive Payload.Extends (additions : Additions) : Payload → Payload → Prop
  | filesystem {old new : Filesystem} (halike : old.Alike new) :
    Extends additions (.filesystem old) (.filesystem new)
  | volumeGroup {old new : VolumeGroup} {kept added : List LogicalVolume} (hown : old.Alike new)
    (hkept : List.Forall₂ (LogicalVolume.Resembles (· ≤ ·)) old.logicalVolumes kept)
    (hadded : ∀ volume ∈ added, additions.Allows volume.payload)
    (hvolumes : new.logicalVolumes = kept ++ added) :
    Extends additions (.volumeGroup old) (.volumeGroup new)
  | btrfs {old new : Btrfs} {kept added : List Subvolume} (hown : old.Alike (· ≤ ·) new)
    (hkept : List.Forall₂ (Subvolume.Alike (· ≤ ·)) old.subvolumes kept)
    (hadded : ∀ subvolume ∈ added, additions.mountpoints subvolume.mountpoint)
    (hsubvolumes : new.subvolumes = kept ++ added) :
    Extends additions (.btrfs old) (.btrfs new)
  | swap {old new : Swap} (halike : old.Alike new) : Extends additions (.swap old) (.swap new)
  | luks {old new : Luks} (hown : old.Alike new)
    (hinner : Extends additions old.payload new.payload) :
    Extends additions (.luks old) (.luks new)

/-- A partition in which nothing is lost or shrunk, with volumes added at the end of its
container. -/
def Partition.Extends (additions : Additions) (old new : Partition) : Prop :=
  old.Alike (· ≤ ·) new ∧ Option.Rel (Payload.Extends additions) old.payload new.payload

/-- Partitions related one by one, with others inserted where they may be. -/
inductive PartitionsExtend (additions : Additions) (related : Partition → Partition → Prop) :
    List Partition → List Partition → Prop
  | nil : PartitionsExtend additions related [] []
  | keep {old new : Partition} {olds news : List Partition} (hrelated : related old new)
    (hothers : PartitionsExtend additions related olds news) :
    PartitionsExtend additions related (old :: olds) (new :: news)
  | insert {new : Partition} {olds news : List Partition} (hallowed : additions.Allows new.payload)
    (hplace : additions.MayPrecede olds)
    (hothers : PartitionsExtend additions related olds news) :
    PartitionsExtend additions related olds (new :: news)

variable {additions : Additions}

/-! ### Payloads -/

theorem optionRel_imp {α β : Type} {related images : α → β → Prop} {old : Option α}
    {new : Option β} (h : Option.Rel related old new)
    (himages : ∀ first second, related first second → images first second) :
    Option.Rel images old new := by
  cases h with
  | none => exact .none
  | some h => exact .some (himages _ _ h)

/-- What resembles without shrinking is an extension in which nothing is new. -/
theorem Payload.Resembles.extends {old new : Payload} (h : old.Resembles (· ≤ ·) new) :
    old.Extends additions new := by
  induction old generalizing new with
  | filesystem system =>
    obtain ⟨_, rfl, halike⟩ := resembles_filesystem_left.1 h
    exact .filesystem halike
  | swap space =>
    obtain ⟨_, rfl, halike⟩ := resembles_swap_left.1 h
    exact .swap halike
  | btrfs volume =>
    obtain ⟨_, rfl, hown, hsubvolumes⟩ := resembles_btrfs_left.1 h
    exact .btrfs hown hsubvolumes (by simp) (List.append_nil _).symm
  | volumeGroup group _ =>
    obtain ⟨_, rfl, hown, hvolumes⟩ := resembles_volumeGroup_left.1 h
    exact .volumeGroup hown hvolumes (by simp) (List.append_nil _).symm
  | luks container ih =>
    obtain ⟨_, rfl, hown, hinner⟩ := resembles_luks_left.1 h
    exact .luks hown (ih hinner)

/-- What holds nothing but a filesystem that may be added still does when it is extended. -/
theorem Additions.Allows.extends {old new : Option Payload} (hold : additions.Allows old)
    (h : Option.Rel (Payload.Extends additions) old new) : additions.Allows new := by
  obtain ⟨system, rfl, hkind, hmounted⟩ := hold
  cases h with
  | some h =>
    cases h with
    | filesystem halike =>
      exact ⟨_, rfl, halike.kind ▸ hkind, halike.mountpoint ▸ hmounted⟩

theorem LogicalVolume.Resembles.allows {old new : LogicalVolume}
    (h : old.Resembles (· ≤ ·) new) (hold : additions.Allows old.payload) :
    additions.Allows new.payload :=
  hold.extends (optionRel_imp (LogicalVolume.resembles_iff.1 h).2 fun _ _ hinner => hinner.extends)

/-- A list that is related to two lists in a row splits in the same way. -/
theorem split_of_forall₂ {α β : Type} {related : α → β → Prop} {firsts seconds : List α}
    {news : List β} (h : List.Forall₂ related (firsts ++ seconds) news) :
    ∃ firsts' seconds', news = firsts' ++ seconds' ∧ List.Forall₂ related firsts firsts' ∧
      List.Forall₂ related seconds seconds' :=
  ⟨news.take firsts.length, news.drop firsts.length, (List.take_append_drop _ _).symm,
    (List.forall₂_take_append _ _ _ h.flip).flip, (List.forall₂_drop_append _ _ _ h.flip).flip⟩

/-- Extensions compose: what the first one adds is kept by the second one. -/
theorem Payload.Extends.trans {first second third : Payload}
    (h : first.Extends additions second) (h' : second.Extends additions third) :
    first.Extends additions third := by
  -- The volumes that the second extension keeps are those that the first one kept, and behind
  -- them those that it added.
  induction h generalizing third with
  | filesystem halike =>
    cases h' with
    | filesystem halike' => exact .filesystem (halike.trans halike')
  | swap halike =>
    cases h' with
    | swap halike' => exact .swap (halike.trans halike')
  | volumeGroup hown hkept hadded hvolumes =>
    cases h' with
    | volumeGroup hown' hkept' hadded' hvolumes' =>
      rw [hvolumes] at hkept'
      obtain ⟨kept, added, rfl, hkept', hadded''⟩ := split_of_forall₂ hkept'
      have hboth := forall₂_comp hkept hkept' fun _ _ _ _ hvol hvol' =>
        hvol.comp hvol' fun _ _ _ => Nat.le_trans
      have hfirst := forall_mem_transport hadded'' (fun _ _ hvol => hvol.allows) hadded
      exact .volumeGroup (hown.trans hown') hboth (List.forall_mem_append.2 ⟨hfirst, hadded'⟩)
        (hvolumes'.trans (List.append_assoc _ _ _))
  | btrfs hown hkept hadded hsubvolumes =>
    cases h' with
    | btrfs hown' hkept' hadded' hsubvolumes' =>
      rw [hsubvolumes] at hkept'
      obtain ⟨kept, added, rfl, hkept', hadded''⟩ := split_of_forall₂ hkept'
      have hboth := forall₂_comp hkept hkept' fun _ _ _ _ hsub hsub' =>
        hsub.comp hsub' fun _ _ _ => Nat.le_trans
      have hfirst := forall_mem_transport hadded''
        (fun _ _ hsub hold => hsub.mountpoint ▸ hold) hadded
      have hvolume := hown.comp hown' fun _ _ _ => Nat.le_trans
      exact .btrfs hvolume hboth (List.forall_mem_append.2 ⟨hfirst, hadded'⟩)
        (hsubvolumes'.trans (List.append_assoc _ _ _))
  | luks hown _ ih =>
    cases h' with
    | luks hown' hinner' => exact .luks (hown.trans hown') (ih hinner')

/-- What is mounted in an extended payload was mounted in the old one or may be added. -/
theorem Payload.Extends.mem_mountpoints {old new : Payload} (h : old.Extends additions new)
    {mountpoint : String} (hmem : mountpoint ∈ new.mountpoints) :
    mountpoint ∈ old.mountpoints ∨ additions.mountpoints mountpoint := by
  induction h with
  | filesystem halike =>
    rw [mountpoints_filesystem, List.mem_singleton, halike.mountpoint] at hmem
    exact .inl (List.mem_singleton.2 hmem)
  | swap halike => exact absurd hmem List.not_mem_nil
  | luks _ _ ih =>
    rw [mountpoints_luks] at hmem ⊢
    exact ih hmem
  | @volumeGroup old new kept added hown hkept hadded hvolumes =>
    rw [mountpoints_volumeGroup, hvolumes, List.flatMap_append, List.mem_append] at hmem
    rcases hmem with hmem | hmem
    · -- The volumes that are kept form a group that resembles the old one.
      have hgroup : (Payload.volumeGroup old).Resembles (· ≤ ·)
          (.volumeGroup { old with logicalVolumes := kept }) :=
        resembles_volumeGroup.2 ⟨⟨rfl, rfl⟩, hkept⟩
      rw [← hgroup.mountpoints_eq, mountpoints_volumeGroup]
      exact .inl hmem
    · obtain ⟨volume, hvolume, hmem⟩ := List.mem_flatMap.1 hmem
      obtain ⟨system, hpayload, -, hmounted⟩ := hadded volume hvolume
      rw [hpayload] at hmem
      simp only [Option.toList_some, List.flatMap_singleton, mountpoints_filesystem,
        List.mem_singleton] at hmem
      exact .inr (hmem ▸ hmounted)
  | btrfs hown hkept hadded hsubvolumes =>
    rw [mountpoints_btrfs, hsubvolumes, List.map_append, List.mem_append] at hmem
    rcases hmem with hmem | hmem
    · rw [mountpoints_btrfs, ← map_eq_of_forall₂ (fun _ _ hsub => hsub.mountpoint) hkept]
      exact .inl hmem
    · obtain ⟨subvolume, hsubvolume, rfl⟩ := List.mem_map.1 hmem
      exact .inr (hadded subvolume hsubvolume)

/-! ### Partitions -/

namespace Partition

theorem Resembles.extends {old new : Partition} (h : old.Resembles (· ≤ ·) new) :
    old.Extends additions new :=
  ⟨h.1, optionRel_imp h.2 fun _ _ hpayload => hpayload.extends⟩

theorem Extends.refl (partition : Partition) : partition.Extends additions partition :=
  (Partition.Resembles.refl Nat.le_refl partition).extends

theorem Extends.trans {first second third : Partition} (h : first.Extends additions second)
    (h' : second.Extends additions third) : first.Extends additions third :=
  ⟨h.1.comp h'.1 fun _ _ _ => Nat.le_trans,
    optionRel_comp h.2 h'.2 fun _ _ _ _ hpayload hpayload' => hpayload.trans hpayload'⟩

theorem Extends.mem_mountpoints {old new : Partition} (h : old.Extends additions new)
    {mountpoint : String} (hmem : mountpoint ∈ new.mountpoints) :
    mountpoint ∈ old.mountpoints ∨ additions.mountpoints mountpoint := by
  obtain ⟨-, hpayload⟩ := h
  unfold mountpoints at hmem ⊢
  generalize old.payload = oldPayload, new.payload = newPayload at hpayload hmem
  cases hpayload with
  | none => exact absurd hmem List.not_mem_nil
  | some hpayload =>
    rw [Option.toList_some, List.flatMap_singleton] at hmem ⊢
    exact hpayload.mem_mountpoints hmem

end Partition

/-! ### Lists of partitions -/

namespace PartitionsExtend

variable {related left right both : Partition → Partition → Prop}
  {olds middles news others others' : List Partition}

theorem of_forall₂ (h : List.Forall₂ related olds news) :
    PartitionsExtend additions related olds news := by
  induction h with
  | nil => exact .nil
  | cons hfirst _ ih => exact .keep hfirst ih

theorem append (h : PartitionsExtend additions related olds news)
    (h' : PartitionsExtend additions related others others') :
    PartitionsExtend additions related (olds ++ others) (news ++ others') := by
  induction h with
  | nil => exact h'
  | keep hfirst _ ih => exact .keep hfirst ih
  | insert hallowed hplace _ ih =>
    refine .insert hallowed (hplace.imp_right ?_) ih
    rintro ⟨holder, rest, rfl, hroot⟩
    exact ⟨holder, rest ++ others, rfl, hroot⟩

/-- A property that related partitions share, and that what may be added has, passes from the old
partitions to the new ones. -/
theorem forall_mem {property : Partition → Prop} (h : PartitionsExtend additions related olds news)
    (hrelated : ∀ old new, related old new → property old → property new)
    (hallowed : ∀ new : Partition, additions.Allows new.payload → property new)
    (hold : ∀ old ∈ olds, property old) : ∀ new ∈ news, property new := by
  induction h with
  | nil => exact hold
  | keep hfirst _ ih =>
    rw [List.forall_mem_cons] at hold ⊢
    exact ⟨hrelated _ _ hfirst hold.1, ih hold.2⟩
  | insert hnew _ _ ih => exact List.forall_mem_cons.2 ⟨hallowed _ hnew, ih hold⟩

/-- Where partitions may be inserted before the new ones, they could be before the old ones. -/
theorem mayPrecede (h : PartitionsExtend additions related olds news)
    (hroot : ∀ old new, related old new → Path.root ∈ new.mountpoints →
      Path.root ∈ old.mountpoints ∨ additions.mountpoints Path.root)
    (hplace : additions.MayPrecede news) : additions.MayPrecede olds := by
  rcases hplace with hmay | ⟨holder, rest, rfl, hmounted⟩
  · exact .inl hmay
  · -- The first new partition mounts the root: it is the first old one, or stands before it.
    cases h with
    | keep hfirst _ =>
      rcases hroot _ _ hfirst hmounted with hold | hmay
      · exact .inr ⟨_, _, rfl, hold⟩
      · exact .inl hmay
    | insert _ hplace _ => exact hplace

/-- Extensions of lists compose: partitions that the first one inserts are not removed by the second
one, and it inserts none elsewhere. -/
theorem comp (h : PartitionsExtend additions left olds middles)
    (h' : PartitionsExtend additions right middles news)
    (hboth : ∀ old middle new, left old middle → right middle new → both old new)
    (hkept : ∀ middle new, right middle new → additions.Allows middle.payload →
      additions.Allows new.payload)
    (hroot : ∀ old middle, left old middle → Path.root ∈ middle.mountpoints →
      Path.root ∈ old.mountpoints ∨ additions.mountpoints Path.root) :
    PartitionsExtend additions both olds news := by
  -- The induction is on the second extension, which keeps whatever the first one inserts.
  induction h' generalizing olds with
  | nil =>
    cases h
    exact .nil
  | keep hsecond _ ih =>
    cases h with
    | keep hfirst hothers => exact .keep (hboth _ _ _ hfirst hsecond) (ih hothers)
    | insert hallowed hplace hothers =>
      exact .insert (hkept _ _ hsecond hallowed) hplace (ih hothers)
  | insert hallowed hplace _ ih => exact .insert hallowed (h.mayPrecede hroot hplace) (ih h)

/-- A relation that passes through extensions of partitions passes through extensions of lists. -/
theorem extend (h : PartitionsExtend additions left olds middles)
    (h' : PartitionsExtend additions (Partition.Extends additions) middles news)
    (hleft : ∀ old middle new, left old middle → middle.Extends additions new → left old new)
    (hroot : ∀ old middle, left old middle → Path.root ∈ middle.mountpoints →
      Path.root ∈ old.mountpoints ∨ additions.mountpoints Path.root) :
    PartitionsExtend additions left olds news :=
  h.comp h' hleft (fun _ _ hright hallowed => hallowed.extends hright.2) hroot

theorem trans (h : PartitionsExtend additions (Partition.Extends additions) olds middles)
    (h' : PartitionsExtend additions (Partition.Extends additions) middles news) :
    PartitionsExtend additions (Partition.Extends additions) olds news :=
  h.extend h' (fun _ _ _ hfirst hsecond => hfirst.trans hsecond) fun _ _ hfirst =>
    hfirst.mem_mountpoints

end PartitionsExtend

end DiskLayout
