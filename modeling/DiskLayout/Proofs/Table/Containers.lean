import DiskLayout.Proofs.Table.Content
import DiskLayout.Proofs.Table.Resemblance

/-!
# The containers of a table

New mountpoints go into the first volume group or the first btrfs volume of a table.  Both are
found by looking through the contents of the partitions in order, so a partition that is added
elsewhere or a container that is put in place of another shows in the lookup at once.

## Main definitions

* `PartitionTable.firstGroup?`, `PartitionTable.firstBtrfs?` — the containers of a table

## Main results

* `firstGroup?_eq_findSome?`, `firstBtrfs?_eq_findSome?` — the lookups along the partitions
* `PartitionTable.Resembles.firstGroup?_rel`, `PartitionTable.Resembles.firstBtrfs?_rel` — tables
  that resemble each other have containers that do
-/

namespace DiskLayout

/-! ### Splits of lists -/

/-- Looking for the first item in which something is found either finds nothing, or splits the
list at that item. -/
theorem findSome?_cases {α β : Type} (pick : α → Option β) (items : List α) :
    (items.findSome? pick = none ∧ (items.findIdx? fun item => (pick item).isSome) = none) ∨
      ∃ before item after found, items = before ++ item :: after ∧
        (∀ other ∈ before, pick other = none) ∧ pick item = some found ∧
        items.findSome? pick = some found ∧
        (items.findIdx? fun item => (pick item).isSome) = some before.length := by
  induction items with
  | nil => exact .inl ⟨rfl, rfl⟩
  | cons first others ih =>
    rw [List.findIdx?_cons, List.findSome?_cons]
    cases hfirst : pick first with
    | some found => exact .inr ⟨[], first, others, found, rfl, by simp, hfirst, rfl, rfl⟩
    | none =>
      rcases ih with
        ⟨hnone, hindex⟩ | ⟨before, item, after, found, rfl, hbefore, hitem, hfound, hindex⟩
      · exact .inl ⟨hnone, by simp [hindex]⟩
      · refine .inr ⟨first :: before, item, after, found, rfl, ?_, hitem, hfound, by simp [hindex]⟩
        exact List.forall_mem_cons.2 ⟨hfirst, hbefore⟩

theorem findSome?_of_first {α β : Type} {pick : α → Option β} {before after : List α} {item : α}
    {found : β} (hbefore : ∀ other ∈ before, pick other = none) (hitem : pick item = some found) :
    (before ++ item :: after).findSome? pick = some found := by
  rw [List.findSome?_append, List.findSome?_eq_none_iff.2 hbefore, Option.none_or,
    List.findSome?_cons, hitem]

/-- An item can be replaced by another in which the same is found. -/
theorem findSome?_replace {α β : Type} {pick : α → Option β} {before after : List α}
    {old new : α} (h : pick new = pick old) :
    (before ++ new :: after).findSome? pick = (before ++ old :: after).findSome? pick := by
  rw [List.findSome?_append, List.findSome?_append, List.findSome?_cons, List.findSome?_cons, h]

theorem insertIdx_split {α : Type} {items : List α} {index : Nat} (h : index ≤ items.length) :
    ∃ before after, items = before ++ after ∧ before.length = index ∧
      ∀ item, items.insertIdx index item = before ++ item :: after := by
  induction index generalizing items with
  | zero => exact ⟨[], items, rfl, rfl, fun _ => rfl⟩
  | succ index ih =>
    cases items with
    | nil => exact absurd h (Nat.not_succ_le_zero index)
    | cons first others =>
      obtain ⟨before, after, rfl, hlength, hinsert⟩ := ih (Nat.le_of_succ_le_succ h)
      exact ⟨first :: before, after, rfl, congrArg (· + 1) hlength,
        fun item => congrArg (first :: ·) (hinsert item)⟩

/-! ### The containers of partitions -/

namespace Payload

/-- The volume group that a payload is. -/
def group? : Payload → Option VolumeGroup
  | volumeGroup group => some group
  | _ => none

/-- The btrfs volume that a payload is. -/
def btrfs? : Payload → Option Btrfs
  | btrfs volume => some volume
  | _ => none

theorem group?_eq_some {payload : Payload} {group : VolumeGroup} :
    payload.group? = some group ↔ payload = .volumeGroup group := by
  cases payload <;> simp [group?]

theorem btrfs?_eq_some {payload : Payload} {volume : Btrfs} :
    payload.btrfs? = some volume ↔ payload = .btrfs volume := by
  cases payload <;> simp [btrfs?]

end Payload

namespace Partition

/-- The volume group in a partition. -/
def group? (partition : Partition) : Option VolumeGroup := partition.content?.bind Payload.group?

/-- The btrfs volume in a partition. -/
def btrfs? (partition : Partition) : Option Btrfs := partition.content?.bind Payload.btrfs?

theorem group?_eq_some {partition : Partition} {group : VolumeGroup} :
    partition.group? = some group ↔ partition.content? = some (.volumeGroup group) := by
  unfold group?
  rw [Option.bind_eq_some_iff]
  simp [Payload.group?_eq_some]

theorem btrfs?_eq_some {partition : Partition} {volume : Btrfs} :
    partition.btrfs? = some volume ↔ partition.content? = some (.btrfs volume) := by
  unfold btrfs?
  rw [Option.bind_eq_some_iff]
  simp [Payload.btrfs?_eq_some]

theorem holdsVolumeGroup_eq (partition : Partition) :
    partition.holdsVolumeGroup = partition.group?.isSome := by
  rw [Bool.eq_iff_iff, holdsVolumeGroup_iff, Option.isSome_iff_exists]
  simp [group?_eq_some]

theorem holdsBtrfs_eq (partition : Partition) :
    partition.holdsBtrfs = partition.btrfs?.isSome := by
  rw [Bool.eq_iff_iff, holdsBtrfs_iff, Option.isSome_iff_exists]
  simp [btrfs?_eq_some]

end Partition

/-! ### The containers of tables -/

namespace PartitionTable

/-- The first volume group of a table. -/
def firstGroup? (table : PartitionTable) : Option VolumeGroup :=
  table.volumeGroupIndex?.bind fun index => table.partitions[index]?.bind Partition.group?

/-- The first btrfs volume of a table. -/
def firstBtrfs? (table : PartitionTable) : Option Btrfs :=
  table.btrfsIndex?.bind fun index => table.partitions[index]?.bind Partition.btrfs?

theorem volumeGroupIndex?_eq (table : PartitionTable) :
    table.volumeGroupIndex? =
      table.partitions.findIdx? fun partition => partition.group?.isSome := by
  unfold volumeGroupIndex?
  rw [funext Partition.holdsVolumeGroup_eq]

theorem btrfsIndex?_eq (table : PartitionTable) :
    table.btrfsIndex? = table.partitions.findIdx? fun partition => partition.btrfs?.isSome := by
  unfold btrfsIndex?
  rw [funext Partition.holdsBtrfs_eq]

theorem findIdx?_bind_getElem? {α β : Type} (pick : α → Option β) (items : List α) :
    ((items.findIdx? fun item => (pick item).isSome).bind fun index => items[index]?.bind pick) =
      items.findSome? pick := by
  -- Looking up by position and looking through the items stop at the same item.
  rcases findSome?_cases pick items with
    ⟨hnone, hindex⟩ | ⟨before, item, after, found, rfl, -, hitem, hfound, hindex⟩
  · rw [hnone, hindex]
    rfl
  · rw [hfound, hindex]
    simp [hitem]

theorem firstGroup?_eq_findSome? (table : PartitionTable) :
    table.firstGroup? = table.partitions.findSome? Partition.group? := by
  rw [← findIdx?_bind_getElem?, ← volumeGroupIndex?_eq]
  rfl

theorem firstBtrfs?_eq_findSome? (table : PartitionTable) :
    table.firstBtrfs? = table.partitions.findSome? Partition.btrfs? := by
  rw [← findIdx?_bind_getElem?, ← btrfsIndex?_eq]
  rfl

theorem isSome_firstGroup? (table : PartitionTable) :
    table.firstGroup?.isSome = table.volumeGroupIndex?.isSome := by
  rw [firstGroup?_eq_findSome?, volumeGroupIndex?_eq, List.isSome_findSome?, List.findIdx?_isSome]

theorem isSome_firstBtrfs? (table : PartitionTable) :
    table.firstBtrfs?.isSome = table.btrfsIndex?.isSome := by
  rw [firstBtrfs?_eq_findSome?, btrfsIndex?_eq, List.isSome_findSome?, List.findIdx?_isSome]

end PartitionTable

/-! ### Resemblance -/

section Resemblance

variable {sizes : Nat → Nat → Prop}

theorem optionRel_map {α β γ δ : Type} {related : α → β → Prop} {images : γ → δ → Prop}
    {f : α → γ} {g : β → δ} {old : Option α} {new : Option β} (h : Option.Rel related old new)
    (himages : ∀ first second, related first second → images (f first) (g second)) :
    Option.Rel images (old.map f) (new.map g) := by
  cases h with
  | none => exact .none
  | some h => exact .some (himages _ _ h)

theorem optionRel_bind {α β γ δ : Type} {related : α → β → Prop} {images : γ → δ → Prop}
    {f : α → Option γ} {g : β → Option δ} {old : Option α} {new : Option β}
    (h : Option.Rel related old new)
    (himages : ∀ first second, related first second → Option.Rel images (f first) (g second)) :
    Option.Rel images (old.bind f) (new.bind g) := by
  cases h with
  | none => exact .none
  | some h => exact himages _ _ h

theorem findSome?_rel {α β γ δ : Type} {related : α → β → Prop} {images : γ → δ → Prop}
    {f : α → Option γ} {g : β → Option δ} {olds : List α} {news : List β}
    (h : List.Forall₂ related olds news)
    (himages : ∀ first second, related first second → Option.Rel images (f first) (g second)) :
    Option.Rel images (olds.findSome? f) (news.findSome? g) := by
  induction h with
  | nil => exact .none
  | @cons old new olds news hfirst _ ih =>
    have hrel := himages _ _ hfirst
    rw [List.findSome?_cons, List.findSome?_cons]
    generalize f old = found, g new = found' at hrel
    cases hrel with
    | none => exact ih
    | some hfound => exact .some hfound

theorem Payload.Resembles.content {old new : Payload} (h : old.Resembles sizes new) :
    old.content.Resembles sizes new.content := by
  cases h.byKind with
  | luks h => exact (resembles_luks.1 h).2
  | _ => exact h

theorem Payload.Resembles.group?_rel {old new : Payload} (h : old.Resembles sizes new) :
    Option.Rel (fun old new => (Payload.volumeGroup old).Resembles sizes (.volumeGroup new))
      old.group? new.group? := by
  cases h.byKind with
  | volumeGroup h => exact .some h
  | _ => exact .none

theorem Payload.Resembles.btrfs?_rel {old new : Payload} (h : old.Resembles sizes new) :
    Option.Rel (fun old new => (Payload.btrfs old).Resembles sizes (.btrfs new))
      old.btrfs? new.btrfs? := by
  cases h.byKind with
  | btrfs h => exact .some h
  | _ => exact .none

theorem Partition.Resembles.content?_rel {old new : Partition} (h : old.Resembles sizes new) :
    Option.Rel (Payload.Resembles sizes) old.content? new.content? :=
  optionRel_map h.2 fun _ _ hpayload => hpayload.content

theorem Partition.Resembles.group?_rel {old new : Partition} (h : old.Resembles sizes new) :
    Option.Rel (fun old new => (Payload.volumeGroup old).Resembles sizes (.volumeGroup new))
      old.group? new.group? :=
  optionRel_bind h.content?_rel fun _ _ hcontent => hcontent.group?_rel

theorem Partition.Resembles.btrfs?_rel {old new : Partition} (h : old.Resembles sizes new) :
    Option.Rel (fun old new => (Payload.btrfs old).Resembles sizes (.btrfs new))
      old.btrfs? new.btrfs? :=
  optionRel_bind h.content?_rel fun _ _ hcontent => hcontent.btrfs?_rel

theorem PartitionTable.Resembles.firstGroup?_rel {old new : PartitionTable}
    (h : old.Resembles sizes new) :
    Option.Rel (fun old new => (Payload.volumeGroup old).Resembles sizes (.volumeGroup new))
      old.firstGroup? new.firstGroup? := by
  rw [firstGroup?_eq_findSome?, firstGroup?_eq_findSome?]
  exact findSome?_rel h.partitions fun _ _ hpartition => hpartition.group?_rel

theorem PartitionTable.Resembles.firstBtrfs?_rel {old new : PartitionTable}
    (h : old.Resembles sizes new) :
    Option.Rel (fun old new => (Payload.btrfs old).Resembles sizes (.btrfs new))
      old.firstBtrfs? new.firstBtrfs? := by
  rw [firstBtrfs?_eq_findSome?, firstBtrfs?_eq_findSome?]
  exact findSome?_rel h.partitions fun _ _ hpartition => hpartition.btrfs?_rel

theorem isSome_eq_of_rel {α β : Type} {related : α → β → Prop} {old : Option α} {new : Option β}
    (h : Option.Rel related old new) : new.isSome = old.isSome := by
  cases h <;> rfl

theorem PartitionTable.Resembles.volumeGroupIndex?_eq {old new : PartitionTable}
    (h : old.Resembles sizes new) : new.volumeGroupIndex? = old.volumeGroupIndex? := by
  rw [PartitionTable.volumeGroupIndex?_eq, PartitionTable.volumeGroupIndex?_eq]
  exact findIdx?_eq_of_forall₂ (fun _ _ hpartition => isSome_eq_of_rel hpartition.group?_rel)
    h.partitions

theorem PartitionTable.Resembles.btrfsIndex?_eq {old new : PartitionTable}
    (h : old.Resembles sizes new) : new.btrfsIndex? = old.btrfsIndex? := by
  rw [PartitionTable.btrfsIndex?_eq, PartitionTable.btrfsIndex?_eq]
  exact findIdx?_eq_of_forall₂ (fun _ _ hpartition => isSome_eq_of_rel hpartition.btrfs?_rel)
    h.partitions

end Resemblance

end DiskLayout
