import DiskLayout.Proofs.Table.Nodes
import Mathlib.Data.List.Forall2

/-!
# Resemblance of tables

Sizing and identification keep the entities of a table where they are.  They change sizes, and
they fill identifiers that are missing.  Two tables that differ in nothing else resemble each
other; how old and new sizes must be related is a parameter, so that the same relation says that
nothing shrinks, or that no size changes at all.

## Main definitions

* `Payload.Resembles`, `Partition.Resembles`, `PartitionTable.Resembles` — the same entities with
  related sizes, identifiers kept where they are there

## Main results

* `Payload.visits_resemble`, `PartitionTable.visits_resemble` — the walks of tables that resemble
  each other go side by side
* `PartitionTable.Resembles.mountpoints_eq`, `PartitionTable.Resembles.partitionIndexOf?_eq` —
  such tables mount the same, at the same positions
-/

namespace DiskLayout

/-- Whether an identifier that is there stays. -/
def IdentifierKept {α : Type} (old new : Option α) : Prop := ∀ id, old = some id → new = some id

theorem IdentifierKept.refl {α : Type} (id : Option α) : IdentifierKept id id := fun _ h => h

theorem IdentifierKept.trans {α : Type} {first second third : Option α}
    (h : IdentifierKept first second) (h' : IdentifierKept second third) :
    IdentifierKept first third := fun id hid => h' id (h id hid)

/-! ### Own fields -/

/-- The same filesystem; a missing identifier may be filled. -/
structure Filesystem.Alike (old new : Filesystem) : Prop where
  kind : new.kind = old.kind
  uuid : IdentifierKept old.uuid new.uuid
  label : new.label = old.label
  mountpoint : new.mountpoint = old.mountpoint
  fstabOptions : new.fstabOptions = old.fstabOptions
  fstabFreq : new.fstabFreq = old.fstabFreq
  fstabPassNo : new.fstabPassNo = old.fstabPassNo

/-- The same swap space; a missing identifier may be filled. -/
structure Swap.Alike (old new : Swap) : Prop where
  uuid : IdentifierKept old.uuid new.uuid
  label : new.label = old.label
  fstabOptions : new.fstabOptions = old.fstabOptions

/-- The same subvolume with a related size. -/
structure Subvolume.Alike (sizes : Nat → Nat → Prop) (old new : Subvolume) : Prop where
  name : new.name = old.name
  mountpoint : new.mountpoint = old.mountpoint
  size : sizes old.size new.size
  compress : new.compress = old.compress

/-- The same btrfs volume with a related size, whatever its subvolumes are. -/
structure Btrfs.Alike (sizes : Nat → Nat → Prop) (old new : Btrfs) : Prop where
  uuid : IdentifierKept old.uuid new.uuid
  label : new.label = old.label
  size : sizes old.size new.size

/-- The same volume group, whatever its logical volumes are. -/
structure VolumeGroup.Alike (old new : VolumeGroup) : Prop where
  name : new.name = old.name
  description : new.description = old.description

/-- The same logical volume with a related size, whatever its payload is. -/
structure LogicalVolume.Alike (sizes : Nat → Nat → Prop) (old new : LogicalVolume) : Prop where
  name : new.name = old.name
  size : sizes old.size new.size

/-- The same encrypted container, whatever its payload is. -/
structure Luks.Alike (old new : Luks) : Prop where
  uuid : IdentifierKept old.uuid new.uuid
  label : new.label = old.label
  cipher : new.cipher = old.cipher

/-- The same partition with a related size, whatever its payload is. -/
structure Partition.Alike (sizes : Nat → Nat → Prop) (old new : Partition) : Prop where
  size : sizes old.size new.size
  kind : new.kind = old.kind
  uuid : IdentifierKept old.uuid new.uuid
  bootable : new.bootable = old.bootable

/-! ### Whole subtrees -/

mutual

/-- Payloads with the same entities and related sizes. -/
def Payload.Resembles (sizes : Nat → Nat → Prop) : Payload → Payload → Prop
  | .filesystem old, .filesystem new => old.Alike new
  | .volumeGroup ⟨name, description, volumes⟩, .volumeGroup new =>
    VolumeGroup.Alike ⟨name, description, volumes⟩ new ∧
      volumesResemble sizes volumes new.logicalVolumes
  | .btrfs old, .btrfs new =>
    old.Alike sizes new ∧ List.Forall₂ (Subvolume.Alike sizes) old.subvolumes new.subvolumes
  | .swap old, .swap new => old.Alike new
  | .luks ⟨uuid, label, cipher, inner⟩, .luks new =>
    Luks.Alike ⟨uuid, label, cipher, inner⟩ new ∧ inner.Resembles sizes new.payload
  | _, _ => False
termination_by structural old => old

/-- Logical volumes that resemble each other one by one. -/
def volumesResemble (sizes : Nat → Nat → Prop) : List LogicalVolume → List LogicalVolume → Prop
  | [], [] => True
  | old :: olds, new :: news => old.Resembles sizes new ∧ volumesResemble sizes olds news
  | _, _ => False
termination_by structural olds => olds

/-- Logical volumes with the same entities and related sizes. -/
def LogicalVolume.Resembles (sizes : Nat → Nat → Prop) : LogicalVolume → LogicalVolume → Prop
  | ⟨name, size, payload⟩, new =>
    LogicalVolume.Alike sizes ⟨name, size, payload⟩ new ∧
      optionalPayloadResembles sizes payload new.payload
termination_by structural old => old

/-- Payloads that may be absent, with the same entities and related sizes. -/
def optionalPayloadResembles (sizes : Nat → Nat → Prop) : Option Payload → Option Payload → Prop
  | none, none => True
  | some old, some new => old.Resembles sizes new
  | _, _ => False
termination_by structural old => old

end

/-- Partitions with the same entities and related sizes. -/
def Partition.Resembles (sizes : Nat → Nat → Prop) (old new : Partition) : Prop :=
  old.Alike sizes new ∧ Option.Rel (Payload.Resembles sizes) old.payload new.payload

/-- Tables with the same entities and related sizes; the size of the table itself is left open. -/
structure PartitionTable.Resembles (sizes : Nat → Nat → Prop) (old new : PartitionTable) :
    Prop where
  uuid : IdentifierKept old.uuid new.uuid
  kind : new.kind = old.kind
  partitions : List.Forall₂ (Partition.Resembles sizes) old.partitions new.partitions

section Subtrees

variable {sizes : Nat → Nat → Prop}

theorem optionalPayloadResembles_iff {old new : Option Payload} :
    optionalPayloadResembles sizes old new ↔ Option.Rel (Payload.Resembles sizes) old new := by
  cases old <;> cases new <;> simp [optionalPayloadResembles]

theorem volumesResemble_iff {olds news : List LogicalVolume} :
    volumesResemble sizes olds news ↔ List.Forall₂ (LogicalVolume.Resembles sizes) olds news := by
  induction olds generalizing news with
  | nil => cases news <;> simp [volumesResemble]
  | cons old olds ih => cases news <;> simp [volumesResemble, ih]

theorem LogicalVolume.resembles_iff {old new : LogicalVolume} :
    old.Resembles sizes new ↔
      old.Alike sizes new ∧ Option.Rel (Payload.Resembles sizes) old.payload new.payload := by
  rw [← optionalPayloadResembles_iff]
  cases old
  rfl

namespace Payload

@[simp] theorem resembles_filesystem {old new : Filesystem} :
    (Payload.filesystem old).Resembles sizes (.filesystem new) ↔ old.Alike new := Iff.rfl

@[simp] theorem resembles_volumeGroup {old new : VolumeGroup} :
    (Payload.volumeGroup old).Resembles sizes (.volumeGroup new) ↔
      old.Alike new ∧
        List.Forall₂ (LogicalVolume.Resembles sizes) old.logicalVolumes new.logicalVolumes := by
  rw [← volumesResemble_iff]
  cases old
  rfl

@[simp] theorem resembles_btrfs {old new : Btrfs} :
    (Payload.btrfs old).Resembles sizes (.btrfs new) ↔
      old.Alike sizes new ∧
        List.Forall₂ (Subvolume.Alike sizes) old.subvolumes new.subvolumes := Iff.rfl

@[simp] theorem resembles_swap {old new : Swap} :
    (Payload.swap old).Resembles sizes (.swap new) ↔ old.Alike new := Iff.rfl

@[simp] theorem resembles_luks {old new : Luks} :
    (Payload.luks old).Resembles sizes (.luks new) ↔
      old.Alike new ∧ old.payload.Resembles sizes new.payload := by
  cases old
  rfl

/-! A payload resembles only payloads of its own kind. -/

theorem resembles_filesystem_left {old : Filesystem} {new : Payload} :
    (Payload.filesystem old).Resembles sizes new ↔ ∃ system, new = .filesystem system ∧
      old.Alike system := by
  cases new <;> simp [Resembles]

theorem resembles_volumeGroup_left {old : VolumeGroup} {new : Payload} :
    (Payload.volumeGroup old).Resembles sizes new ↔ ∃ group, new = .volumeGroup group ∧
      old.Alike group ∧
        List.Forall₂ (LogicalVolume.Resembles sizes) old.logicalVolumes group.logicalVolumes := by
  cases new <;> simp [Resembles]

theorem resembles_btrfs_left {old : Btrfs} {new : Payload} :
    (Payload.btrfs old).Resembles sizes new ↔ ∃ volume, new = .btrfs volume ∧
      old.Alike sizes volume ∧
        List.Forall₂ (Subvolume.Alike sizes) old.subvolumes volume.subvolumes := by
  cases new <;> simp [Resembles]

theorem resembles_swap_left {old : Swap} {new : Payload} :
    (Payload.swap old).Resembles sizes new ↔ ∃ space, new = .swap space ∧ old.Alike space := by
  cases new <;> simp [Resembles]

theorem resembles_luks_left {old : Luks} {new : Payload} :
    (Payload.luks old).Resembles sizes new ↔ ∃ container, new = .luks container ∧
      old.Alike container ∧ old.payload.Resembles sizes container.payload := by
  cases new <;> simp [Resembles]

/-- Payloads of one kind that resemble each other. -/
inductive ResemblesByKind (sizes : Nat → Nat → Prop) : Payload → Payload → Prop
  | filesystem {old new : Filesystem}
    (h : (Payload.filesystem old).Resembles sizes (.filesystem new)) :
    ResemblesByKind sizes (.filesystem old) (.filesystem new)
  | volumeGroup {old new : VolumeGroup}
    (h : (Payload.volumeGroup old).Resembles sizes (.volumeGroup new)) :
    ResemblesByKind sizes (.volumeGroup old) (.volumeGroup new)
  | btrfs {old new : Btrfs} (h : (Payload.btrfs old).Resembles sizes (.btrfs new)) :
    ResemblesByKind sizes (.btrfs old) (.btrfs new)
  | swap {old new : Swap} (h : (Payload.swap old).Resembles sizes (.swap new)) :
    ResemblesByKind sizes (.swap old) (.swap new)
  | luks {old new : Luks} (h : (Payload.luks old).Resembles sizes (.luks new)) :
    ResemblesByKind sizes (.luks old) (.luks new)

theorem Resembles.byKind {old new : Payload} (h : old.Resembles sizes new) :
    ResemblesByKind sizes old new := by
  cases old with
  | filesystem system =>
    obtain ⟨_, rfl, -⟩ := resembles_filesystem_left.1 h
    exact .filesystem h
  | volumeGroup group =>
    obtain ⟨_, rfl, -⟩ := resembles_volumeGroup_left.1 h
    exact .volumeGroup h
  | btrfs volume =>
    obtain ⟨_, rfl, -⟩ := resembles_btrfs_left.1 h
    exact .btrfs h
  | swap space =>
    obtain ⟨_, rfl, -⟩ := resembles_swap_left.1 h
    exact .swap h
  | luks container =>
    obtain ⟨_, rfl, -⟩ := resembles_luks_left.1 h
    exact .luks h

end Payload

end Subtrees

/-! ### Laws -/

section Laws

variable {sizes : Nat → Nat → Prop}

theorem Filesystem.Alike.trans {first second third : Filesystem} (h : first.Alike second)
    (h' : second.Alike third) : first.Alike third where
  kind := h'.kind.trans h.kind
  uuid := h.uuid.trans h'.uuid
  label := h'.label.trans h.label
  mountpoint := h'.mountpoint.trans h.mountpoint
  fstabOptions := h'.fstabOptions.trans h.fstabOptions
  fstabFreq := h'.fstabFreq.trans h.fstabFreq
  fstabPassNo := h'.fstabPassNo.trans h.fstabPassNo

theorem Swap.Alike.trans {first second third : Swap} (h : first.Alike second)
    (h' : second.Alike third) : first.Alike third where
  uuid := h.uuid.trans h'.uuid
  label := h'.label.trans h.label
  fstabOptions := h'.fstabOptions.trans h.fstabOptions

theorem VolumeGroup.Alike.trans {first second third : VolumeGroup} (h : first.Alike second)
    (h' : second.Alike third) : first.Alike third :=
  ⟨h'.name.trans h.name, h'.description.trans h.description⟩

theorem Luks.Alike.trans {first second third : Luks} (h : first.Alike second)
    (h' : second.Alike third) : first.Alike third :=
  ⟨h.uuid.trans h'.uuid, h'.label.trans h.label, h'.cipher.trans h.cipher⟩

theorem optionRel_refl {α : Type} {related : α → α → Prop} {item : Option α}
    (h : ∀ value, item = some value → related value value) : Option.Rel related item item := by
  cases item with
  | none => exact .none
  | some value => exact .some (h value rfl)

/-- What is related to a value that is there is there as well. -/
theorem exists_of_rel {α β : Type} {related : α → β → Prop} {old : Option α} {new : Option β}
    (h : Option.Rel related old new) {value : α} (hold : old = some value) :
    ∃ other, new = some other ∧ related value other := by
  subst hold
  cases h with
  | some hrelated => exact ⟨_, rfl, hrelated⟩

/-- A payload that resembles a filesystem is one that is alike. -/
theorem filesystem_of_rel {old new : Option Payload}
    {system : Filesystem} (h : Option.Rel (Payload.Resembles sizes) old new)
    (hold : old = some (.filesystem system)) :
    ∃ other, new = some (.filesystem other) ∧ system.Alike other := by
  obtain ⟨payload, rfl, hpayload⟩ := exists_of_rel h hold
  obtain ⟨other, rfl, halike⟩ := Payload.resembles_filesystem_left.1 hpayload
  exact ⟨other, rfl, halike⟩

/-- A payload resembles itself wherever sizes are related to themselves. -/
theorem Payload.Resembles.refl (hrefl : ∀ size, sizes size size) (payload : Payload) :
    payload.Resembles sizes payload := by
  induction payload with
  | filesystem system => exact ⟨rfl, .refl _, rfl, rfl, rfl, rfl, rfl⟩
  | swap space => exact ⟨.refl _, rfl, rfl⟩
  | btrfs volume =>
    refine resembles_btrfs.2 ⟨⟨.refl _, rfl, hrefl _⟩, List.forall₂_same.2 fun subvolume _ => ?_⟩
    exact ⟨rfl, rfl, hrefl _, rfl⟩
  | luks container ih => exact resembles_luks.2 ⟨⟨.refl _, rfl, rfl⟩, ih⟩
  | volumeGroup group ih =>
    refine resembles_volumeGroup.2 ⟨⟨rfl, rfl⟩, List.forall₂_same.2 fun volume hvolume => ?_⟩
    exact LogicalVolume.resembles_iff.2 ⟨⟨rfl, hrefl _⟩, optionRel_refl (ih volume hvolume)⟩

theorem LogicalVolume.Resembles.refl (hrefl : ∀ size, sizes size size) (volume : LogicalVolume) :
    volume.Resembles sizes volume :=
  LogicalVolume.resembles_iff.2
    ⟨⟨rfl, hrefl _⟩, optionRel_refl fun payload _ => .refl hrefl payload⟩

theorem Partition.Resembles.refl (hrefl : ∀ size, sizes size size) (partition : Partition) :
    partition.Resembles sizes partition :=
  ⟨⟨hrefl _, rfl, .refl _, rfl⟩, optionRel_refl fun payload _ => .refl hrefl payload⟩

/-- Lists related item by item through a third list. -/
theorem forall₂_comp {α β γ : Type} {left : α → β → Prop} {right : β → γ → Prop}
    {both : α → γ → Prop} {firsts : List α} {seconds : List β} {thirds : List γ}
    (hleft : List.Forall₂ left firsts seconds) (hright : List.Forall₂ right seconds thirds)
    (hboth : ∀ first ∈ firsts, ∀ second third, left first second → right second third →
      both first third) : List.Forall₂ both firsts thirds := by
  -- The relation of the whole may use where the first item comes from, which an induction
  -- hypothesis on payloads needs.
  induction hleft generalizing thirds with
  | nil =>
    cases hright
    exact .nil
  | cons hhead _ ih =>
    cases hright with
    | cons hhead' htail' =>
      rw [List.forall_mem_cons] at hboth
      exact .cons (hboth.1 _ _ hhead hhead') (ih htail' hboth.2)

/-- A relation may use where both items come from. -/
theorem forall₂_imp_of_mem {α β : Type} {related images : α → β → Prop} {olds : List α}
    {news : List β} (h : List.Forall₂ related olds news)
    (himages : ∀ old ∈ olds, ∀ new ∈ news, related old new → images old new) :
    List.Forall₂ images olds news := by
  induction h with
  | nil => exact .nil
  | cons hfirst _ ih =>
    refine .cons (himages _ List.mem_cons_self _ List.mem_cons_self hfirst) (ih ?_)
    exact fun old hold new hnew =>
      himages old (List.mem_cons_of_mem _ hold) new (List.mem_cons_of_mem _ hnew)

/-- Optional values related through a third one. -/
theorem optionRel_comp {α β γ : Type} {left : α → β → Prop} {right : β → γ → Prop}
    {both : α → γ → Prop} {first : Option α} {second : Option β} {third : Option γ}
    (hleft : Option.Rel left first second) (hright : Option.Rel right second third)
    (hboth : ∀ item, first = some item → ∀ second third, left item second → right second third →
      both item third) : Option.Rel both first third := by
  cases hleft with
  | none =>
    cases hright
    exact .none
  | some hleft =>
    cases hright with
    | some hright => exact .some (hboth _ rfl _ _ hleft hright)

variable {others both : Nat → Nat → Prop}

theorem Subvolume.Alike.comp {first second third : Subvolume} (h : first.Alike sizes second)
    (h' : second.Alike others third)
    (hsizes : ∀ first second third, sizes first second → others second third → both first third) :
    first.Alike both third where
  name := h'.name.trans h.name
  mountpoint := h'.mountpoint.trans h.mountpoint
  size := hsizes _ _ _ h.size h'.size
  compress := h'.compress.trans h.compress

theorem Btrfs.Alike.comp {first second third : Btrfs} (h : first.Alike sizes second)
    (h' : second.Alike others third)
    (hsizes : ∀ first second third, sizes first second → others second third → both first third) :
    first.Alike both third where
  uuid := h.uuid.trans h'.uuid
  label := h'.label.trans h.label
  size := hsizes _ _ _ h.size h'.size

theorem LogicalVolume.Alike.comp {first second third : LogicalVolume} (h : first.Alike sizes second)
    (h' : second.Alike others third)
    (hsizes : ∀ first second third, sizes first second → others second third → both first third) :
    first.Alike both third :=
  ⟨h'.name.trans h.name, hsizes _ _ _ h.size h'.size⟩

theorem Partition.Alike.comp {first second third : Partition} (h : first.Alike sizes second)
    (h' : second.Alike others third)
    (hsizes : ∀ first second third, sizes first second → others second third → both first third) :
    first.Alike both third where
  size := hsizes _ _ _ h.size h'.size
  kind := h'.kind.trans h.kind
  uuid := h.uuid.trans h'.uuid
  bootable := h'.bootable.trans h.bootable

/-- Resemblances compose as the relations of their sizes do. -/
theorem Payload.Resembles.comp {first second third : Payload}
    (h : first.Resembles sizes second) (h' : second.Resembles others third)
    (hsizes : ∀ first second third, sizes first second → others second third → both first third) :
    first.Resembles both third := by
  induction first generalizing second third with
  | filesystem system =>
    obtain ⟨_, rfl, halike⟩ := resembles_filesystem_left.1 h
    obtain ⟨_, rfl, halike'⟩ := resembles_filesystem_left.1 h'
    exact halike.trans halike'
  | swap space =>
    obtain ⟨_, rfl, halike⟩ := resembles_swap_left.1 h
    obtain ⟨_, rfl, halike'⟩ := resembles_swap_left.1 h'
    exact halike.trans halike'
  | btrfs volume =>
    obtain ⟨_, rfl, halike, hsubvolumes⟩ := resembles_btrfs_left.1 h
    obtain ⟨_, rfl, halike', hsubvolumes'⟩ := resembles_btrfs_left.1 h'
    refine resembles_btrfs.2 ⟨halike.comp halike' hsizes, ?_⟩
    exact forall₂_comp hsubvolumes hsubvolumes' fun _ _ _ _ hsub hsub' => hsub.comp hsub' hsizes
  | luks container ih =>
    obtain ⟨_, rfl, halike, hinner⟩ := resembles_luks_left.1 h
    obtain ⟨_, rfl, halike', hinner'⟩ := resembles_luks_left.1 h'
    exact resembles_luks.2 ⟨halike.trans halike', ih hinner hinner'⟩
  | volumeGroup group ih =>
    obtain ⟨_, rfl, halike, hvolumes⟩ := resembles_volumeGroup_left.1 h
    obtain ⟨_, rfl, halike', hvolumes'⟩ := resembles_volumeGroup_left.1 h'
    refine resembles_volumeGroup.2 ⟨halike.trans halike', ?_⟩
    refine forall₂_comp hvolumes hvolumes' fun volume hvolume _ _ hvol hvol' => ?_
    obtain ⟨hown, hpayload⟩ := LogicalVolume.resembles_iff.1 hvol
    obtain ⟨hown', hpayload'⟩ := LogicalVolume.resembles_iff.1 hvol'
    refine LogicalVolume.resembles_iff.2 ⟨hown.comp hown' hsizes, ?_⟩
    exact optionRel_comp hpayload hpayload' fun payload hold _ _ => ih volume hvolume payload hold

theorem LogicalVolume.Resembles.comp {first second third : LogicalVolume}
    (h : first.Resembles sizes second) (h' : second.Resembles others third)
    (hsizes : ∀ first second third, sizes first second → others second third → both first third) :
    first.Resembles both third := by
  obtain ⟨hown, hpayload⟩ := resembles_iff.1 h
  obtain ⟨hown', hpayload'⟩ := resembles_iff.1 h'
  refine resembles_iff.2 ⟨hown.comp hown' hsizes, ?_⟩
  exact optionRel_comp hpayload hpayload' fun _ _ _ _ hfirst hsecond => hfirst.comp hsecond hsizes

theorem Partition.Resembles.comp {first second third : Partition}
    (h : first.Resembles sizes second) (h' : second.Resembles others third)
    (hsizes : ∀ first second third, sizes first second → others second third → both first third) :
    first.Resembles both third := by
  obtain ⟨hown, hpayload⟩ := h
  obtain ⟨hown', hpayload'⟩ := h'
  refine ⟨hown.comp hown' hsizes, ?_⟩
  exact optionRel_comp hpayload hpayload' fun _ _ _ _ hfirst hsecond => hfirst.comp hsecond hsizes

theorem PartitionTable.Resembles.comp {first second third : PartitionTable}
    (h : first.Resembles sizes second) (h' : second.Resembles others third)
    (hsizes : ∀ first second third, sizes first second → others second third → both first third) :
    first.Resembles both third where
  uuid := h.uuid.trans h'.uuid
  kind := h'.kind.trans h.kind
  partitions := forall₂_comp h.partitions h'.partitions fun _ _ _ _ hfirst hsecond =>
    hfirst.comp hsecond hsizes

end Laws

/-! ### Walks side by side -/

/-- Nodes of the same kind that resemble each other, partitions at the same position. -/
inductive Node.Resembles (sizes : Nat → Nat → Prop) : Node → Node → Prop
  | partition {index : Nat} {old new : Partition} (h : old.Resembles sizes new) :
    Resembles sizes (.partition index old) (.partition index new)
  | filesystem {old new : Filesystem} (h : old.Alike new) :
    Resembles sizes (.filesystem old) (.filesystem new)
  | volumeGroup {old new : VolumeGroup}
    (h : (Payload.volumeGroup old).Resembles sizes (.volumeGroup new)) :
    Resembles sizes (.volumeGroup old) (.volumeGroup new)
  | logicalVolume {old new : LogicalVolume} (h : old.Resembles sizes new) :
    Resembles sizes (.logicalVolume old) (.logicalVolume new)
  | btrfs {old new : Btrfs} (h : (Payload.btrfs old).Resembles sizes (.btrfs new)) :
    Resembles sizes (.btrfs old) (.btrfs new)
  | subvolume {old new : Subvolume} (h : old.Alike sizes new) :
    Resembles sizes (.subvolume old) (.subvolume new)
  | swap {old new : Swap} (h : old.Alike new) : Resembles sizes (.swap old) (.swap new)
  | luks {old new : Luks} (h : (Payload.luks old).Resembles sizes (.luks new)) :
    Resembles sizes (.luks old) (.luks new)

/-- Visits of nodes that resemble each other, with ancestors that do. -/
structure Visit.Resembles (sizes : Nat → Nat → Prop) (old new : Visit) : Prop where
  node : old.node.Resembles sizes new.node
  ancestors : List.Forall₂ (Node.Resembles sizes) old.ancestors new.ancestors

/-- A property of all items of a list passes to the items of a related list. -/
theorem forall_mem_transport {α β : Type} {related : α → β → Prop} {property : α → Prop}
    {goal : β → Prop} {olds : List α} {news : List β} (h : List.Forall₂ related olds news)
    (hstep : ∀ old new, related old new → property old → goal new)
    (hold : ∀ old ∈ olds, property old) : ∀ new ∈ news, goal new := by
  induction h with
  | nil => simp
  | cons hfirst _ ih =>
    rw [List.forall_mem_cons] at hold ⊢
    exact ⟨hstep _ _ hfirst hold.1, ih hold.2⟩

theorem map_eq_of_forall₂ {α β γ : Type} {related : α → β → Prop} {f : α → γ} {g : β → γ}
    (hrelated : ∀ old new, related old new → g new = f old) {olds : List α} {news : List β}
    (h : List.Forall₂ related olds news) : news.map g = olds.map f := by
  induction h with
  | nil => rfl
  | cons hfirst _ ih => rw [List.map_cons, List.map_cons, hrelated _ _ hfirst, ih]

theorem findIdx?_eq_of_forall₂ {α β : Type} {related : α → β → Prop} {p : α → Bool} {q : β → Bool}
    (hrelated : ∀ old new, related old new → q new = p old) {olds : List α} {news : List β}
    (h : List.Forall₂ related olds news) : news.findIdx? q = olds.findIdx? p := by
  induction h with
  | nil => rfl
  | cons hfirst _ ih => rw [List.findIdx?_cons, List.findIdx?_cons, hrelated _ _ hfirst, ih]

theorem exists_of_forall₂ {α β : Type} {related : α → β → Prop} {olds : List α} {news : List β}
    (h : List.Forall₂ related olds news) {old : α} (hold : old ∈ olds) :
    ∃ new ∈ news, related old new := by
  induction h with
  | nil => cases hold
  | cons hfirst _ ih =>
    rcases List.mem_cons.1 hold with rfl | hold
    · exact ⟨_, List.mem_cons_self, hfirst⟩
    · obtain ⟨new, hnew, hrelated⟩ := ih hold
      exact ⟨new, List.mem_cons_of_mem _ hnew, hrelated⟩

/-- The items at the same position of related lists are related. -/
theorem getElem?_of_forall₂ {α β : Type} {related : α → β → Prop} {olds : List α} {news : List β}
    (h : List.Forall₂ related olds news) {index : Nat} {old : α} (hold : olds[index]? = some old) :
    ∃ new, news[index]? = some new ∧ related old new := by
  induction h generalizing index with
  | nil => cases hold
  | cons hfirst _ ih =>
    cases index with
    | zero =>
      obtain rfl := Option.some.inj hold
      exact ⟨_, rfl, hfirst⟩
    | succ index => exact ih hold

theorem forall₂_toList {α β : Type} {related : α → β → Prop} {old : Option α} {new : Option β}
    (h : Option.Rel related old new) : List.Forall₂ related old.toList new.toList := by
  cases h with
  | none => exact .nil
  | some h => exact .cons h .nil

theorem forall₂_flatMap {α β γ δ : Type} {related : α → β → Prop} {images : γ → δ → Prop}
    {olds : List α} {news : List β} {f : α → List γ} {g : β → List δ}
    (h : List.Forall₂ related olds news)
    (himages : ∀ old ∈ olds, ∀ new, related old new → List.Forall₂ images (f old) (g new)) :
    List.Forall₂ images (olds.flatMap f) (news.flatMap g) := by
  have hmem := (List.forall₂_and_left _ _).2 ⟨himages, h⟩
  exact List.rel_flatMap hmem fun _ _ hitem => hitem.1 _ hitem.2

theorem forall₂_partitionVisits {order : WalkOrder} {related : Visit → Visit → Prop}
    {olds news : List Partition}
    (h : List.Forall₂ (fun old new => ∀ index,
      List.Forall₂ related (old.visits order index) (new.visits order index)) olds news)
    (start : Nat) :
    List.Forall₂ related (partitionVisits order start olds) (partitionVisits order start news) := by
  induction h generalizing start with
  | nil => exact .nil
  | cons hfirst _ ih => exact List.rel_append (hfirst start) (ih (start + 1))

/-- The walks of two partitions go side by side if the nodes of their payloads do. -/
theorem Partition.forall₂_visits {related : Node → Node → Prop} {old new : Partition} {index : Nat}
    (hown : related (.partition index old) (.partition index new))
    (hpayload : Option.Rel (fun old new : Payload => List.Forall₂ related old.nodes new.nodes)
      old.payload new.payload) :
    List.Forall₂ (fun old new : Visit => related old.node new.node)
      (old.visits .parentsFirst index) (new.visits .parentsFirst index) := by
  have hnodes : List.Forall₂ related (old.nodes index) (new.nodes index) :=
    .cons hown (forall₂_flatMap (forall₂_toList hpayload) fun _ _ _ hinner => hinner)
  rw [← map_node_visits, ← map_node_visits] at hnodes
  exact List.forall₂_map_right_iff.1 (List.forall₂_map_left_iff.1 hnodes)

section Walks

variable {sizes : Nat → Nat → Prop}

theorem WalkOrder.arrange_resemble (order : WalkOrder) {root root' : Visit}
    {below below' : List Visit} (hroot : root.Resembles sizes root')
    (hbelow : List.Forall₂ (Visit.Resembles sizes) below below') :
    List.Forall₂ (Visit.Resembles sizes) (order.arrange root below)
      (order.arrange root' below') := by
  cases order with
  | parentsFirst => exact .cons hroot hbelow
  | childrenFirst => exact List.rel_append hbelow (.cons hroot .nil)

/-- The walks of payloads that resemble each other go side by side. -/
theorem Payload.visits_resemble (order : WalkOrder) {old new : Payload}
    (h : old.Resembles sizes new) {ancestors ancestors' : List Node}
    (hancestors : List.Forall₂ (Node.Resembles sizes) ancestors ancestors') :
    List.Forall₂ (Visit.Resembles sizes) (old.visits order ancestors)
      (new.visits order ancestors') := by
  induction old generalizing new ancestors ancestors' with
  | filesystem system =>
    obtain ⟨_, rfl, halike⟩ := resembles_filesystem_left.1 h
    exact .cons ⟨.filesystem halike, hancestors⟩ .nil
  | swap space =>
    obtain ⟨_, rfl, halike⟩ := resembles_swap_left.1 h
    exact .cons ⟨.swap halike, hancestors⟩ .nil
  | btrfs volume =>
    obtain ⟨_, rfl, -, hsubvolumes⟩ := resembles_btrfs_left.1 h
    refine order.arrange_resemble ⟨.btrfs h, hancestors⟩ ?_
    refine List.rel_map (fun _ _ hsub => ?_) hsubvolumes
    exact ⟨.subvolume hsub, List.rel_append hancestors (.cons (.btrfs h) .nil)⟩
  | luks container ih =>
    obtain ⟨_, rfl, -, hinner⟩ := resembles_luks_left.1 h
    rw [visits_luks, visits_luks]
    refine order.arrange_resemble ⟨.luks h, hancestors⟩ ?_
    exact ih hinner (List.rel_append hancestors (.cons (.luks h) .nil))
  | volumeGroup group ih =>
    obtain ⟨_, rfl, -, hvolumes⟩ := resembles_volumeGroup_left.1 h
    rw [visits_volumeGroup, visits_volumeGroup, logicalVolumeVisits_eq_flatMap,
      logicalVolumeVisits_eq_flatMap]
    refine order.arrange_resemble ⟨.volumeGroup h, hancestors⟩ ?_
    -- Inside a volume the ancestors have grown by the group and then by the volume itself.
    have hgroup := List.rel_append hancestors (.cons (Node.Resembles.volumeGroup h) .nil)
    refine forall₂_flatMap hvolumes fun volume hvolume volume' hvol => ?_
    obtain ⟨-, hpayload⟩ := LogicalVolume.resembles_iff.1 hvol
    rw [LogicalVolume.visits_eq, LogicalVolume.visits_eq]
    refine order.arrange_resemble ⟨.logicalVolume hvol, hgroup⟩ ?_
    refine forall₂_flatMap (forall₂_toList hpayload) fun payload hmem payload' hinner => ?_
    exact ih volume hvolume payload (Option.mem_toList.1 hmem) hinner
      (List.rel_append hgroup (.cons (.logicalVolume hvol) .nil))

theorem Partition.visits_resemble (order : WalkOrder) (index : Nat) {old new : Partition}
    (h : old.Resembles sizes new) :
    List.Forall₂ (Visit.Resembles sizes) (old.visits order index) (new.visits order index) := by
  refine order.arrange_resemble ⟨.partition h, .nil⟩ ?_
  rw [optionalPayloadVisits_eq_flatMap, optionalPayloadVisits_eq_flatMap]
  refine forall₂_flatMap (forall₂_toList h.2) fun _ _ _ hpayload => ?_
  exact Payload.visits_resemble order hpayload (.cons (.partition h) .nil)

/-- The walks of tables that resemble each other go side by side. -/
theorem PartitionTable.visits_resemble (order : WalkOrder) {old new : PartitionTable}
    (h : old.Resembles sizes new) :
    List.Forall₂ (Visit.Resembles sizes) (old.visits order) (new.visits order) :=
  forall₂_partitionVisits
    (h.partitions.imp fun _ _ hpartition index => Partition.visits_resemble order index hpartition)
    0

theorem PartitionTable.nodes_resemble {old new : PartitionTable} (h : old.Resembles sizes new) :
    List.Forall₂ (Node.Resembles sizes) old.nodes new.nodes :=
  List.rel_map (fun _ _ hvisit => hvisit.node) (visits_resemble .parentsFirst h)

end Walks

/-! ### What resembling tables have in common -/

section Common

variable {sizes : Nat → Nat → Prop}

theorem Node.Resembles.mountpoint?_eq {old new : Node} (h : old.Resembles sizes new) :
    new.mountpoint? = old.mountpoint? := by
  cases h with
  | filesystem halike => exact congrArg some halike.mountpoint
  | subvolume halike => exact congrArg some halike.mountpoint
  | _ => rfl

theorem filterMap_mountpoint?_eq {olds news : List Node}
    (h : List.Forall₂ (Node.Resembles sizes) olds news) :
    news.filterMap Node.mountpoint? = olds.filterMap Node.mountpoint? := by
  induction h with
  | nil => rfl
  | cons hfirst _ ih => rw [List.filterMap_cons, List.filterMap_cons, hfirst.mountpoint?_eq, ih]

theorem Payload.Resembles.mountpoints_eq {old new : Payload} (h : old.Resembles sizes new) :
    new.mountpoints = old.mountpoints :=
  filterMap_mountpoint?_eq
    (List.rel_map (fun _ _ hvisit => hvisit.node) (visits_resemble .parentsFirst h .nil))

theorem Partition.Resembles.mountpoints_eq {old new : Partition} (h : old.Resembles sizes new) :
    new.mountpoints = old.mountpoints := by
  unfold Partition.mountpoints
  obtain ⟨-, hpayload⟩ := h
  generalize old.payload = oldPayload, new.payload = newPayload at hpayload
  cases hpayload with
  | none => rfl
  | some h => simp [h.mountpoints_eq]

/-- Tables that resemble each other mount the same. -/
theorem PartitionTable.Resembles.mountpoints_eq {old new : PartitionTable}
    (h : old.Resembles sizes new) : new.mountpoints = old.mountpoints := by
  rw [PartitionTable.mountpoints_eq, PartitionTable.mountpoints_eq]
  have hpartitions := h.partitions
  generalize old.partitions = olds, new.partitions = news at hpartitions
  induction hpartitions with
  | nil => rfl
  | cons hfirst _ ih => rw [List.flatMap_cons, List.flatMap_cons, hfirst.mountpoints_eq, ih]

/-- Tables that resemble each other mount it at the same positions. -/
theorem PartitionTable.Resembles.partitionIndexOf?_eq {old new : PartitionTable}
    (h : old.Resembles sizes new) (mountpoint : String) :
    new.partitionIndexOf? mountpoint = old.partitionIndexOf? mountpoint := by
  rw [PartitionTable.partitionIndexOf?_eq, PartitionTable.partitionIndexOf?_eq]
  refine findIdx?_eq_of_forall₂ (fun _ _ hpartition => ?_) h.partitions
  rw [hpartition.mountpoints_eq]

theorem Payload.Resembles.mountpoint?_eq {old new : Payload} (h : old.Resembles sizes new) :
    new.mountpoint? = old.mountpoint? := by
  induction old generalizing new with
  | filesystem system =>
    obtain ⟨_, rfl, halike⟩ := resembles_filesystem_left.1 h
    exact congrArg some halike.mountpoint
  | luks container ih =>
    obtain ⟨_, rfl, -, hinner⟩ := resembles_luks_left.1 h
    rw [mountpoint?_luks, mountpoint?_luks, ih hinner]
  | volumeGroup group _ =>
    obtain ⟨_, rfl, -⟩ := resembles_volumeGroup_left.1 h
    rfl
  | btrfs volume =>
    obtain ⟨_, rfl, -⟩ := resembles_btrfs_left.1 h
    rfl
  | swap space =>
    obtain ⟨_, rfl, -⟩ := resembles_swap_left.1 h
    rfl

end Common

end DiskLayout
