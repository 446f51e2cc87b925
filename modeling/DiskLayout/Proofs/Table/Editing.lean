import DiskLayout.Proofs.Table.Resemblance

/-!
# What editors keep

An editor says how the own fields of nodes change, and the walk puts the children back.  If every
own field that matters stays, then so does the table as a whole, whatever the order of the walk
and whatever else the editor computes.

## Main definitions

* `Always` — what holds of the value of a computation that cannot fail
* `Editor.Keeps` — an editor that changes only sizes, in a given way, and missing identifiers
* `Editor.Leaves` — an editor that leaves nodes with a property as they are

## Main results

* `Payload.edit_resembles`, `PartitionTable.edit_resembles` — the walk of such an editor gives a
  table that resembles the old one
* `Payload.edit_leaves`, `PartitionTable.edit_leaves` — a walk that changes nothing
-/

namespace DiskLayout

/-- Computations that always give a value, of which a property may be asked. -/
class Always (m : Type → Type) [Monad m] where
  /-- Whether the value that a computation gives has a property. -/
  always : {α : Type} → (α → Prop) → m α → Prop
  always_pure : ∀ {α : Type} {property : α → Prop} {value : α},
    property value → always property (pure value)
  always_bind : ∀ {α β : Type} {property : α → Prop} {goal : β → Prop} {first : m α}
    {next : α → m β}, always property first → (∀ value, property value → always goal (next value)) →
    always goal (first >>= next)

export Always (always always_pure always_bind)

instance : Always Id where
  always property computation := property computation.run
  always_pure h := h
  always_bind hfirst hnext := hnext _ hfirst

instance (σ : Type) : Always (StateM σ) where
  always property computation := ∀ state, property (computation.run state).1
  always_pure h _ := h
  always_bind hfirst hnext state := hnext _ (hfirst state) _

/-- An editor that changes nothing but sizes, related as stated, and missing identifiers. -/
structure Editor.Keeps {m : Type → Type} [Monad m] [Always m] (sizes : Nat → Nat → Prop)
    (editor : Editor m) : Prop where
  partition : ∀ index old, always (old.Alike sizes) (editor.partition index old)
  filesystem : ∀ old : Filesystem, always old.Alike (editor.filesystem old)
  volumeGroup : ∀ old : VolumeGroup, always old.Alike (editor.volumeGroup old)
  logicalVolume : ∀ old, always (old.Alike sizes) (editor.logicalVolume old)
  btrfs : ∀ old, always (old.Alike sizes) (editor.btrfs old)
  subvolume : ∀ old, always (old.Alike sizes) (editor.subvolume old)
  swap : ∀ old : Swap, always old.Alike (editor.swap old)
  luks : ∀ old : Luks, always old.Alike (editor.luks old)

section Edit

variable {m : Type → Type} [Monad m] [Always m] {sizes : Nat → Nat → Prop} {editor : Editor m}

theorem editOptionalPayload_resembles {order : WalkOrder} {payload : Option Payload}
    (h : ∀ inner, payload = some inner →
      always (inner.Resembles sizes) (inner.edit order editor)) :
    always (Option.Rel (Payload.Resembles sizes) payload)
      (editOptionalPayload order editor payload) := by
  cases payload with
  | none => exact always_pure .none
  | some inner => exact always_bind (h inner rfl) fun _ hinner => always_pure (.some hinner)

theorem LogicalVolume.edit_resembles {order : WalkOrder} (hkeeps : editor.Keeps sizes)
    {volume : LogicalVolume}
    (h : ∀ payload, volume.payload = some payload →
      always (payload.Resembles sizes) (payload.edit order editor)) :
    always (volume.Resembles sizes) (volume.edit order editor) := by
  obtain ⟨name, size, payload⟩ := volume
  -- The two orders make the same two steps, so only their sequence differs.
  cases order with
  | parentsFirst =>
    refine always_bind (hkeeps.logicalVolume _) fun own hown => ?_
    refine always_bind (editOptionalPayload_resembles h) fun edited hedited => ?_
    exact always_pure (resembles_iff.2 ⟨⟨hown.name, hown.size⟩, hedited⟩)
  | childrenFirst =>
    refine always_bind (editOptionalPayload_resembles h) fun edited hedited => ?_
    refine always_bind (hkeeps.logicalVolume _) fun own hown => ?_
    exact always_pure (resembles_iff.2 ⟨⟨hown.name, hown.size⟩, hedited⟩)

theorem editLogicalVolumes_resemble {order : WalkOrder} (hkeeps : editor.Keeps sizes)
    {volumes : List LogicalVolume}
    (h : ∀ volume ∈ volumes, ∀ payload, volume.payload = some payload →
      always (payload.Resembles sizes) (payload.edit order editor)) :
    always (List.Forall₂ (LogicalVolume.Resembles sizes) volumes)
      (editLogicalVolumes order editor volumes) := by
  induction volumes with
  | nil => exact always_pure .nil
  | cons volume others ih =>
    rw [List.forall_mem_cons] at h
    refine always_bind (LogicalVolume.edit_resembles hkeeps h.1) fun first hfirst => ?_
    exact always_bind (ih h.2) fun rest hrest => always_pure (.cons hfirst hrest)

variable [LawfulMonad m]

theorem always_mapM {α β : Type} {related : α → β → Prop} {step : α → m β} {items : List α}
    (hstep : ∀ item ∈ items, always (related item) (step item)) :
    always (List.Forall₂ related items) (items.mapM step) := by
  induction items with
  | nil => exact always_pure .nil
  | cons item others ih =>
    rw [List.forall_mem_cons] at hstep
    rw [List.mapM_cons]
    refine always_bind hstep.1 fun first hfirst => ?_
    exact always_bind (ih hstep.2) fun rest hrest => always_pure (.cons hfirst hrest)

/-- A payload after the walk of an editor that keeps it resembles the old one. -/
theorem Payload.edit_resembles (order : WalkOrder) (hkeeps : editor.Keeps sizes)
    (payload : Payload) : always (payload.Resembles sizes) (payload.edit order editor) := by
  induction payload with
  | filesystem system => exact always_bind (hkeeps.filesystem system) fun _ h => always_pure h
  | swap space => exact always_bind (hkeeps.swap space) fun _ h => always_pure h
  | btrfs volume =>
    have hsubvolumes := always_mapM fun (old : Subvolume) (_ : old ∈ volume.subvolumes) =>
      hkeeps.subvolume old
    -- In the second order the editor already sees the edited subvolumes, but not even then do
    -- they count among the own fields of the volume.
    cases order with
    | parentsFirst =>
      refine always_bind (hkeeps.btrfs volume) fun own hown => ?_
      refine always_bind hsubvolumes fun edited hedited => ?_
      exact always_pure (resembles_btrfs.2 ⟨⟨hown.uuid, hown.label, hown.size⟩, hedited⟩)
    | childrenFirst =>
      refine always_bind hsubvolumes fun edited hedited => ?_
      refine always_bind (hkeeps.btrfs _) fun own hown => ?_
      exact always_pure (resembles_btrfs.2 ⟨⟨hown.uuid, hown.label, hown.size⟩, hedited⟩)
  | volumeGroup group ih =>
    obtain ⟨name, description, volumes⟩ := group
    have hvolumes := editLogicalVolumes_resemble hkeeps ih
    cases order with
    | parentsFirst =>
      refine always_bind (hkeeps.volumeGroup _) fun own hown => ?_
      refine always_bind hvolumes fun edited hedited => ?_
      exact always_pure (resembles_volumeGroup.2 ⟨⟨hown.name, hown.description⟩, hedited⟩)
    | childrenFirst =>
      refine always_bind hvolumes fun edited hedited => ?_
      refine always_bind (hkeeps.volumeGroup _) fun own hown => ?_
      exact always_pure (resembles_volumeGroup.2 ⟨⟨hown.name, hown.description⟩, hedited⟩)
  | luks container ih =>
    obtain ⟨uuid, label, cipher, inner⟩ := container
    cases order with
    | parentsFirst =>
      refine always_bind (hkeeps.luks _) fun own hown => ?_
      refine always_bind ih fun edited hedited => ?_
      exact always_pure (resembles_luks.2 ⟨⟨hown.uuid, hown.label, hown.cipher⟩, hedited⟩)
    | childrenFirst =>
      refine always_bind ih fun edited hedited => ?_
      refine always_bind (hkeeps.luks _) fun own hown => ?_
      exact always_pure (resembles_luks.2 ⟨⟨hown.uuid, hown.label, hown.cipher⟩, hedited⟩)

theorem Partition.edit_resembles (order : WalkOrder) (hkeeps : editor.Keeps sizes) (index : Nat)
    (partition : Partition) :
    always (partition.Resembles sizes) (partition.edit order editor index) := by
  have hpayload : always (Option.Rel (Payload.Resembles sizes) partition.payload)
      (editOptionalPayload order editor partition.payload) :=
    editOptionalPayload_resembles fun inner _ => inner.edit_resembles order hkeeps
  cases order with
  | parentsFirst =>
    refine always_bind (hkeeps.partition index partition) fun own hown => ?_
    refine always_bind hpayload fun edited hedited => ?_
    exact always_pure ⟨⟨hown.size, hown.kind, hown.uuid, hown.bootable⟩, hedited⟩
  | childrenFirst =>
    refine always_bind hpayload fun edited hedited => ?_
    refine always_bind (hkeeps.partition index _) fun own hown => ?_
    exact always_pure ⟨⟨hown.size, hown.kind, hown.uuid, hown.bootable⟩, hedited⟩

theorem editPartitions_resemble (order : WalkOrder) (hkeeps : editor.Keeps sizes) (index : Nat)
    (partitions : List Partition) :
    always (List.Forall₂ (Partition.Resembles sizes) partitions)
      (editPartitions order editor index partitions) := by
  induction partitions generalizing index with
  | nil => exact always_pure .nil
  | cons partition others ih =>
    refine always_bind (partition.edit_resembles order hkeeps index) fun first hfirst => ?_
    exact always_bind (ih _) fun rest hrest => always_pure (.cons hfirst hrest)

/-- A table after the walk of an editor that keeps it resembles the old one. -/
theorem PartitionTable.edit_resembles (order : WalkOrder) (hkeeps : editor.Keeps sizes)
    (table : PartitionTable) : always (table.Resembles sizes) (table.edit order editor) :=
  always_bind (editPartitions_resemble order hkeeps 0 table.partitions) fun _ hpartitions =>
    always_pure ⟨.refl _, rfl, hpartitions⟩

end Edit

/-! ### Nodes that are left as they are -/

/-- An editor that leaves every node with a property as it is. -/
structure Editor.Leaves {m : Type → Type} [Monad m] [Always m] (property : Node → Prop)
    (editor : Editor m) : Prop where
  partition : ∀ index old, property (.partition index old) →
    always (Eq old) (editor.partition index old)
  filesystem : ∀ old, property (.filesystem old) → always (Eq old) (editor.filesystem old)
  volumeGroup : ∀ old, property (.volumeGroup old) → always (Eq old) (editor.volumeGroup old)
  logicalVolume : ∀ old, property (.logicalVolume old) → always (Eq old) (editor.logicalVolume old)
  btrfs : ∀ old, property (.btrfs old) → always (Eq old) (editor.btrfs old)
  subvolume : ∀ old, property (.subvolume old) → always (Eq old) (editor.subvolume old)
  swap : ∀ old, property (.swap old) → always (Eq old) (editor.swap old)
  luks : ∀ old, property (.luks old) → always (Eq old) (editor.luks old)

section Leave

variable {m : Type → Type} [Monad m] [Always m] {property : Node → Prop} {editor : Editor m}
  {order : WalkOrder}

theorem always_bind_eq {α β : Type} {goal : β → Prop} {first : m α} {next : α → m β} {value : α}
    (hfirst : always (Eq value) first) (hnext : always goal (next value)) :
    always goal (first >>= next) :=
  always_bind hfirst fun _ hsame => hsame ▸ hnext

theorem editOptionalPayload_leaves {payload : Option Payload}
    (h : ∀ inner, payload = some inner → always (Eq inner) (inner.edit order editor)) :
    always (Eq payload) (editOptionalPayload order editor payload) := by
  cases payload with
  | none => exact always_pure rfl
  | some inner => exact always_bind_eq (h inner rfl) (always_pure rfl)

theorem LogicalVolume.edit_leaves (hleaves : editor.Leaves property) {volume : LogicalVolume}
    (hown : property (.logicalVolume volume))
    (h : ∀ payload, volume.payload = some payload →
      always (Eq payload) (payload.edit order editor)) :
    always (Eq volume) (volume.edit order editor) := by
  obtain ⟨name, size, payload⟩ := volume
  -- The children are the same in either order, so the editor sees the volume itself.
  cases order with
  | parentsFirst =>
    exact always_bind_eq (hleaves.logicalVolume _ hown)
      (always_bind_eq (editOptionalPayload_leaves h) (always_pure rfl))
  | childrenFirst =>
    exact always_bind_eq (editOptionalPayload_leaves h)
      (always_bind_eq (hleaves.logicalVolume _ hown) (always_pure rfl))

theorem editLogicalVolumes_leave (hleaves : editor.Leaves property) {volumes : List LogicalVolume}
    (hown : ∀ volume ∈ volumes, property (.logicalVolume volume))
    (h : ∀ volume ∈ volumes, ∀ payload, volume.payload = some payload →
      always (Eq payload) (payload.edit order editor)) :
    always (Eq volumes) (editLogicalVolumes order editor volumes) := by
  induction volumes with
  | nil => exact always_pure rfl
  | cons volume others ih =>
    rw [List.forall_mem_cons] at hown h
    exact always_bind_eq (LogicalVolume.edit_leaves hleaves hown.1 h.1)
      (always_bind_eq (ih hown.2 h.2) (always_pure rfl))

variable [LawfulMonad m]

/-- A payload with nothing but such nodes is left as it is by the walk of the editor. -/
theorem Payload.edit_leaves (order : WalkOrder) (hleaves : editor.Leaves property)
    {payload : Payload} (h : payload.All property) :
    always (Eq payload) (payload.edit order editor) := by
  induction payload with
  | filesystem system =>
    exact always_bind_eq (hleaves.filesystem system (all_filesystem.1 h)) (always_pure rfl)
  | swap space =>
    exact always_bind_eq (hleaves.swap space (all_swap.1 h)) (always_pure rfl)
  | btrfs volume =>
    obtain ⟨hown, hsubvolumes⟩ := all_btrfs.1 h
    have hedited : always (Eq volume.subvolumes) (volume.subvolumes.mapM editor.subvolume) := by
      have hitems := always_mapM fun subvolume hmem =>
        hleaves.subvolume subvolume (hsubvolumes subvolume hmem)
      rw [List.forall₂_eq_eq_eq] at hitems
      exact hitems
    cases order with
    | parentsFirst =>
      exact always_bind_eq (hleaves.btrfs volume hown) (always_bind_eq hedited (always_pure rfl))
    | childrenFirst =>
      exact always_bind_eq hedited (always_bind_eq (hleaves.btrfs volume hown) (always_pure rfl))
  | volumeGroup group ih =>
    obtain ⟨hown, hvolumes⟩ := all_volumeGroup.1 h
    obtain ⟨name, description, volumes⟩ := group
    have hedited : always (Eq volumes) (editLogicalVolumes order editor volumes) :=
      editLogicalVolumes_leave hleaves (fun volume hmem => (hvolumes volume hmem).1)
        fun volume hmem payload hpayload =>
          ih volume hmem payload hpayload ((hvolumes volume hmem).2 payload hpayload)
    cases order with
    | parentsFirst =>
      exact always_bind_eq (hleaves.volumeGroup _ hown) (always_bind_eq hedited (always_pure rfl))
    | childrenFirst =>
      exact always_bind_eq hedited (always_bind_eq (hleaves.volumeGroup _ hown) (always_pure rfl))
  | luks container ih =>
    obtain ⟨hown, hinner⟩ := all_luks.1 h
    obtain ⟨uuid, label, cipher, inner⟩ := container
    cases order with
    | parentsFirst =>
      exact always_bind_eq (hleaves.luks _ hown) (always_bind_eq (ih hinner) (always_pure rfl))
    | childrenFirst =>
      exact always_bind_eq (ih hinner) (always_bind_eq (hleaves.luks _ hown) (always_pure rfl))

theorem Partition.edit_leaves (order : WalkOrder) (hleaves : editor.Leaves property) (index : Nat)
    {partition : Partition} (hown : property (.partition index partition))
    (h : ∀ payload, partition.payload = some payload → payload.All property) :
    always (Eq partition) (partition.edit order editor index) := by
  have hpayload : always (Eq partition.payload)
      (editOptionalPayload order editor partition.payload) :=
    editOptionalPayload_leaves fun inner hinner => inner.edit_leaves order hleaves (h inner hinner)
  cases order with
  | parentsFirst =>
    exact always_bind_eq (hleaves.partition index partition hown)
      (always_bind_eq hpayload (always_pure rfl))
  | childrenFirst =>
    exact always_bind_eq hpayload
      (always_bind_eq (hleaves.partition index partition hown) (always_pure rfl))

theorem editPartitions_leave (order : WalkOrder) (hleaves : editor.Leaves property) (start : Nat)
    {partitions : List Partition}
    (h : ∀ index partition, partitions[index]? = some partition →
      property (.partition (start + index) partition) ∧
        ∀ payload, partition.payload = some payload → payload.All property) :
    always (Eq partitions) (editPartitions order editor start partitions) := by
  induction partitions generalizing start with
  | nil => exact always_pure rfl
  | cons partition others ih =>
    obtain ⟨hown, hpayload⟩ := h 0 partition rfl
    have hothers := ih (start + 1) fun index other hother => by
      rw [Nat.add_assoc, Nat.add_comm 1 index]
      exact h (index + 1) other hother
    exact always_bind_eq (partition.edit_leaves order hleaves start hown hpayload)
      (always_bind_eq hothers (always_pure rfl))

/-- A table with nothing but nodes that an editor leaves as they are is left as it is by its
walk. -/
theorem PartitionTable.edit_leaves (order : WalkOrder) (hleaves : editor.Leaves property)
    {table : PartitionTable} (h : ∀ node ∈ table.nodes, property node) :
    always (Eq table) (table.edit order editor) := by
  refine always_bind_eq (editPartitions_leave order hleaves 0 fun index partition hpartition => ?_)
    (always_pure rfl)
  rw [Nat.zero_add]
  exact PartitionTable.forall_mem_nodes.1 h index partition hpartition

end Leave

end DiskLayout
