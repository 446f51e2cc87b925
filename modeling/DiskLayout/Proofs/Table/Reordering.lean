import DiskLayout.Proofs.Table.Containers
import DiskLayout.Proofs.Table.Outline
import Mathlib.Data.Multiset.Bind

/-!
# Reordered tables

What a table says about sizes depends neither on the order of its partitions, logical volumes and
subvolumes, nor on which of the names of a volume group a logical volume has.  Tables that differ in
nothing else are reordered.  They have the same outlines in another order, so they mount the same
and keep the same rules.

## Main definitions

* `Payload.Reordered`, `Partition.Reordered`, `PartitionTable.Reordered` — the same entities in
  another order

## Main results

* `Partition.Reordered.mapContent`, `PartitionTable.Reordered.map` — what is changed alike
* `PartitionTable.Reordered.outlines_perm` — reordered tables have the same outlines
-/

namespace DiskLayout

/-! ### Reordered payloads -/

/-- A logical volume without its name. -/
def LogicalVolume.unnamed (volume : LogicalVolume) : LogicalVolume := { volume with name := "" }

/-- Payloads with the same entities.  Logical volumes and subvolumes may stand in another order,
and logical volumes may have exchanged their names. -/
inductive Payload.Reordered : Payload → Payload → Prop
  | refl (payload : Payload) : Reordered payload payload
  | volumeGroup {group : VolumeGroup} {volumes : List LogicalVolume}
    (hnames : (group.logicalVolumes.map LogicalVolume.name).Perm
      (volumes.map LogicalVolume.name))
    (hvolumes : (group.logicalVolumes.map LogicalVolume.unnamed).Perm
      (volumes.map LogicalVolume.unnamed)) :
    Reordered (.volumeGroup group) (.volumeGroup { group with logicalVolumes := volumes })
  | btrfs {volume : Btrfs} {subvolumes : List Subvolume}
    (hsubvolumes : volume.subvolumes.Perm subvolumes) :
    Reordered (.btrfs volume) (.btrfs { volume with subvolumes := subvolumes })
  | luks {container : Luks} {payload : Payload} (hinner : Reordered container.payload payload) :
    Reordered (.luks container) (.luks { container with payload := payload })

/-- Partitions that differ in the order of what they hold. -/
structure Partition.Reordered (old new : Partition) : Prop where
  size : new.size = old.size
  kind : new.kind = old.kind
  uuid : new.uuid = old.uuid
  bootable : new.bootable = old.bootable
  payload : Option.Rel Payload.Reordered old.payload new.payload

/-- Tables with the same partitions in another order. -/
def PartitionTable.Reordered (old new : PartitionTable) : Prop :=
  Multiset.Rel Partition.Reordered old.partitions new.partitions

/-- A change of logical volumes that does not look at their names leaves groups reordered. -/
theorem Payload.Reordered.mapVolumes {group : VolumeGroup} {volumes : List LogicalVolume}
    (hnames : (group.logicalVolumes.map LogicalVolume.name).Perm (volumes.map LogicalVolume.name))
    (hvolumes : (group.logicalVolumes.map LogicalVolume.unnamed).Perm
      (volumes.map LogicalVolume.unnamed)) {change : LogicalVolume → LogicalVolume}
    (hname : ∀ volume, (change volume).name = volume.name)
    (hunnamed : ∀ volume, (change volume).unnamed = change volume.unnamed) :
    (Payload.volumeGroup { group with
        logicalVolumes := group.logicalVolumes.map change }).Reordered
      (.volumeGroup { group with logicalVolumes := volumes.map change }) := by
  refine @Reordered.volumeGroup { group with
    logicalVolumes := group.logicalVolumes.map change } _ ?_ ?_
  · have hkept : LogicalVolume.name ∘ change = LogicalVolume.name := funext hname
    rwa [List.map_map, List.map_map, hkept]
  · have hcommutes : LogicalVolume.unnamed ∘ change = change ∘ LogicalVolume.unnamed :=
      funext hunnamed
    have hmap := hvolumes.map change
    rwa [List.map_map, List.map_map, ← hcommutes, ← List.map_map, ← List.map_map] at hmap

theorem Payload.Reordered.trans {first second third : Payload} (h : first.Reordered second)
    (h' : second.Reordered third) : first.Reordered third := by
  induction h generalizing third with
  | refl => exact h'
  | volumeGroup hnames hvolumes =>
    cases h' with
    | refl => exact .volumeGroup hnames hvolumes
    | volumeGroup hnames' hvolumes' =>
      exact .volumeGroup (hnames.trans hnames') (hvolumes.trans hvolumes')
  | btrfs hsubvolumes =>
    cases h' with
    | refl => exact .btrfs hsubvolumes
    | btrfs hsubvolumes' => exact .btrfs (hsubvolumes.trans hsubvolumes')
  | luks hinner ih =>
    cases h' with
    | refl => exact .luks hinner
    | luks hinner' => exact .luks (ih hinner')

namespace Partition.Reordered

variable {old new : Partition}

theorem refl (partition : Partition) : partition.Reordered partition :=
  ⟨rfl, rfl, rfl, rfl, optionRel_refl fun payload _ => .refl payload⟩

theorem trans {first second third : Partition} (h : first.Reordered second)
    (h' : second.Reordered third) : first.Reordered third where
  size := h'.size.trans h.size
  kind := h'.kind.trans h.kind
  uuid := h'.uuid.trans h.uuid
  bootable := h'.bootable.trans h.bootable
  payload := optionRel_comp h.payload h'.payload fun _ _ _ _ hfirst hsecond =>
    hfirst.trans hsecond

theorem content?_rel (h : old.Reordered new) :
    Option.Rel Payload.Reordered old.content? new.content? := by
  refine optionRel_map h.payload fun _ _ hpayload => ?_
  cases hpayload with
  | refl => exact .refl _
  | luks hinner => exact hinner
  | volumeGroup hnames hvolumes => exact .volumeGroup hnames hvolumes
  | btrfs hsubvolumes => exact .btrfs hsubvolumes

/-- Changes that give reordered contents leave partitions reordered. -/
theorem mapContent (h : old.Reordered new) {change change' : Payload → Payload}
    (hchange : ∀ inner inner', old.content? = some inner → new.content? = some inner' →
      inner.Reordered inner' → (change inner).Reordered (change' inner')) :
    (old.mapContent change).Reordered (new.mapContent change') where
  size := h.size
  kind := h.kind
  uuid := h.uuid
  bootable := h.bootable
  payload := by
    have hpayload := h.payload
    unfold Partition.mapContent
    unfold content? at hchange
    generalize old.payload = oldPayload, new.payload = newPayload at hpayload hchange
    cases hpayload with
    | none => exact .none
    | @some first second hpayload =>
      have hcontent := hchange first.content second.content rfl rfl
      refine .some ?_
      cases hpayload with
      | refl =>
        cases first with
        | luks container => exact .luks (hcontent (.refl _))
        | _ => exact hcontent (.refl _)
      | luks hinner => exact .luks (hcontent hinner)
      | volumeGroup hnames hvolumes => exact hcontent (.volumeGroup hnames hvolumes)
      | btrfs hsubvolumes => exact hcontent (.btrfs hsubvolumes)

end Partition.Reordered

namespace PartitionTable.Reordered

theorem refl (table : PartitionTable) : table.Reordered table :=
  Multiset.rel_refl_of_refl_on fun partition _ => .refl partition

theorem trans {first second third : PartitionTable} (h : first.Reordered second)
    (h' : second.Reordered third) : first.Reordered third :=
  have : IsTrans Partition Partition.Reordered := ⟨fun _ _ _ => Partition.Reordered.trans⟩
  Multiset.Rel.trans _ h h'

variable {old new : PartitionTable}

theorem of_perm (h : old.partitions.Perm new.partitions) : old.Reordered new := by
  rw [Reordered, Multiset.coe_eq_coe.2 h]
  exact Multiset.rel_refl_of_refl_on fun partition _ => .refl partition

/-- A partition has a partner in a reordered table, and so have the others. -/
theorem exists_of_split {partition : Partition} {others : List Partition} (h : old.Reordered new)
    (hsplit : (partition :: others).Perm old.partitions) :
    ∃ partner partners, (partner :: partners).Perm new.partitions ∧ partition.Reordered partner ∧
      Multiset.Rel Partition.Reordered others partners := by
  rw [Reordered, ← Multiset.coe_eq_coe.2 hsplit, ← Multiset.cons_coe, Multiset.rel_cons_left] at h
  obtain ⟨partner, partners, hpartner, hothers, hnew⟩ := h
  induction partners using Quotient.inductionOn with
  | h partners => exact ⟨partner, partners, (Multiset.coe_eq_coe.1 hnew).symm, hpartner, hothers⟩

/-- Changes that take reordered partitions to reordered ones leave tables reordered. -/
theorem map {change : Partition → Partition} (h : old.Reordered new)
    (hchange : ∀ partition ∈ old.partitions, ∀ partner, partition.Reordered partner →
      (change partition).Reordered (change partner)) :
    Multiset.Rel Partition.Reordered (old.partitions.map change) (new.partitions.map change) := by
  rw [← Multiset.map_coe, ← Multiset.map_coe, Multiset.rel_map]
  exact h.mono fun partition hmem partner _ hpartner => hchange partition hmem partner hpartner

/-- What does not distinguish reordered partitions is the same in reordered tables. -/
theorem map_perm {α : Type} {f : Partition → α} (h : old.Reordered new)
    (hf : ∀ partition partner, partition.Reordered partner → f partner = f partition) :
    (old.partitions.map f).Perm (new.partitions.map f) := by
  rw [← Multiset.coe_eq_coe, ← Multiset.map_coe, ← Multiset.map_coe, ← Multiset.rel_eq,
    Multiset.rel_map]
  exact h.mono fun partition _ partner _ hpartner => (hf partition partner hpartner).symm

theorem countP_eq {kind : Partition → Bool} (h : old.Reordered new)
    (hkind : ∀ partition partner, partition.Reordered partner → kind partner = kind partition) :
    new.partitions.countP kind = old.partitions.countP kind := by
  have hcount := (h.map_perm hkind).countP_eq id
  rw [List.countP_map, List.countP_map] at hcount
  exact hcount.symm

end PartitionTable.Reordered

/-! ### Outlines -/

section Outlines

variable {ancestors ancestors' : List Node}

theorem map_outline_append (h : ancestors.map Node.outline = ancestors'.map Node.outline)
    {node node' : Node} (hnode : node.outline = node'.outline) :
    (ancestors ++ [node]).map Node.outline = (ancestors' ++ [node']).map Node.outline := by
  simp [h, hnode]

/-- The outlines of a payload depend on the outlines of what lies around it alone. -/
theorem Payload.map_outline_visits {payload : Payload}
    (h : ancestors.map Node.outline = ancestors'.map Node.outline) :
    (payload.visits .parentsFirst ancestors).map Visit.outline =
      (payload.visits .parentsFirst ancestors').map Visit.outline := by
  induction payload generalizing ancestors ancestors' with
  | filesystem system | swap space =>
    exact congrArg (fun outlines => [(Node.outline _, outlines)]) h
  | btrfs volume =>
    simp only [visits_btrfs, WalkOrder.arrange, List.map_cons, List.map_map, Visit.outline,
      Function.comp_def, h, map_outline_append h rfl]
  | luks container ih =>
    simp only [visits_luks, WalkOrder.arrange, List.map_cons, Visit.outline, h]
    exact congrArg _ (ih (map_outline_append h rfl))
  | volumeGroup group ih =>
    simp only [visits_volumeGroup, WalkOrder.arrange, logicalVolumeVisits_eq_flatMap,
      List.map_cons, List.map_flatMap, Visit.outline, h]
    refine congrArg _ (List.flatMap_congr fun volume hvolume => ?_)
    have hgroup := map_outline_append h (rfl : (Node.volumeGroup group).outline = _)
    simp only [LogicalVolume.visits_eq, WalkOrder.arrange, List.map_cons, List.map_flatMap,
      Visit.outline, hgroup]
    refine congrArg _ (List.flatMap_congr fun payload hpayload => ?_)
    exact ih volume hvolume payload (Option.mem_toList.1 hpayload) (map_outline_append hgroup rfl)

/-- The outlines of a logical volume do not show its name. -/
theorem LogicalVolume.map_outline_visits (volume : LogicalVolume)
    (h : ancestors.map Node.outline = ancestors'.map Node.outline) :
    (volume.visits .parentsFirst ancestors).map Visit.outline =
      (volume.unnamed.visits .parentsFirst ancestors').map Visit.outline := by
  have hvolume : (Node.logicalVolume volume).outline =
      (Node.logicalVolume volume.unnamed).outline := rfl
  simp only [visits_eq, WalkOrder.arrange, List.map_cons, List.map_flatMap, Visit.outline, h,
    hvolume]
  refine congrArg _ (List.flatMap_congr fun payload _ => ?_)
  exact Payload.map_outline_visits (map_outline_append h hvolume)

theorem map_outline_logicalVolumeVisits (volumes : List LogicalVolume)
    (h : ancestors.map Node.outline = ancestors'.map Node.outline) :
    (logicalVolumeVisits .parentsFirst ancestors volumes).map Visit.outline =
      (volumes.map LogicalVolume.unnamed).flatMap fun volume =>
        (volume.visits .parentsFirst ancestors').map Visit.outline := by
  rw [logicalVolumeVisits_eq_flatMap, List.map_flatMap, List.flatMap_map]
  exact List.flatMap_congr fun volume _ => volume.map_outline_visits h

/-- Reordered payloads have the same outlines. -/
theorem Payload.Reordered.outlines_perm {old new : Payload} (h : old.Reordered new)
    (hancestors : ancestors.map Node.outline = ancestors'.map Node.outline) :
    ((old.visits .parentsFirst ancestors).map Visit.outline).Perm
      ((new.visits .parentsFirst ancestors').map Visit.outline) := by
  induction h generalizing ancestors ancestors' with
  | refl payload => exact .of_eq (map_outline_visits hancestors)
  | @volumeGroup group volumes hnames hvolumes =>
    have hnode : (Node.volumeGroup group).outline =
        (Node.volumeGroup { group with logicalVolumes := volumes }).outline := by
      simp only [Node.outline, Node.volumeNames, Multiset.coe_eq_coe.2 hnames]
      rfl
    have hgroup := map_outline_append hancestors hnode
    simp only [visits_volumeGroup, WalkOrder.arrange, List.map_cons, Visit.outline, hancestors,
      hnode]
    refine List.Perm.cons _ ?_
    rw [map_outline_logicalVolumeVisits _ hgroup, map_outline_logicalVolumeVisits _ rfl]
    exact hvolumes.flatMap_right _
  | @btrfs volume subvolumes hsubvolumes =>
    have hnode : (Node.btrfs volume).outline =
        (Node.btrfs { volume with subvolumes := subvolumes }).outline := by
      simp only [Node.outline, Node.volumeNames, Btrfs.names,
        Multiset.coe_eq_coe.2 (hsubvolumes.map Subvolume.name)]
      rfl
    have hvolume := map_outline_append hancestors hnode
    simp only [visits_btrfs, WalkOrder.arrange, List.map_cons, List.map_map, Visit.outline,
      Function.comp_def, hancestors, hnode, hvolume]
    exact (hsubvolumes.map _).cons _
  | @luks container payload hinner ih =>
    have hnode : (Node.luks container).outline =
        (Node.luks { container with payload := payload }).outline := rfl
    simp only [visits_luks, WalkOrder.arrange, List.map_cons, Visit.outline, hancestors, hnode]
    exact (ih (map_outline_append hancestors hnode)).cons _

theorem Payload.mountpoints_eq_outlines (payload : Payload) :
    payload.mountpoints = ((payload.visits .parentsFirst []).map Visit.outline).filterMap
      fun outline => outline.1.mountpoint? := by
  unfold mountpoints nodes
  rw [List.filterMap_map, List.filterMap_map]
  rfl

/-- Reordered payloads mount the same. -/
theorem Payload.Reordered.mountpoints_perm {old new : Payload} (h : old.Reordered new) :
    old.mountpoints.Perm new.mountpoints := by
  rw [mountpoints_eq_outlines, mountpoints_eq_outlines]
  exact (h.outlines_perm rfl).filterMap _

namespace Partition

/-- The outlines of a partition and of what lies in it. -/
def outlines (partition : Partition) : List (Outline × List Outline) :=
  (partition.visits .parentsFirst 0).map Visit.outline

/-- Outlines do not show the position of a partition. -/
theorem map_outline_visits (partition : Partition) (index : Nat) :
    (partition.visits .parentsFirst index).map Visit.outline = partition.outlines := by
  have hnode : [Node.partition index partition].map Node.outline =
      [Node.partition 0 partition].map Node.outline := rfl
  rw [outlines, visits_parentsFirst, visits_parentsFirst, List.map_cons, List.map_cons,
    List.map_flatMap, List.map_flatMap]
  exact congrArg _ (List.flatMap_congr fun payload _ => Payload.map_outline_visits hnode)

variable {old new : Partition}

theorem Reordered.outlines_perm (h : old.Reordered new) : old.outlines.Perm new.outlines := by
  have hnode : (Node.partition 0 old).outline = (Node.partition 0 new).outline := by
    simp only [Node.outline, Node.kind, Node.mountpoint?, Node.size?, Node.volumeNames, h.size]
  have hancestors : [Node.partition 0 old].map Node.outline =
      [Node.partition 0 new].map Node.outline := by
    rw [List.map_singleton, List.map_singleton, hnode]
  simp only [outlines, visits_parentsFirst, List.map_cons, List.map_flatMap, Visit.outline, hnode]
  refine List.Perm.cons _ ?_
  have hpayload := h.payload
  generalize old.payload = oldPayload, new.payload = newPayload at hpayload
  cases hpayload with
  | none => exact .nil
  | some hpayload =>
    simp only [Option.toList_some, List.flatMap_singleton]
    exact hpayload.outlines_perm hancestors

/-- Reordered partitions mount the same. -/
theorem Reordered.mountpoints_perm (h : old.Reordered new) :
    old.mountpoints.Perm new.mountpoints := by
  have hpayload := h.payload
  unfold mountpoints
  generalize old.payload = oldPayload, new.payload = newPayload at hpayload
  cases hpayload with
  | none => exact .nil
  | some hpayload =>
    simp only [Option.toList_some, List.flatMap_singleton]
    exact hpayload.mountpoints_perm

end Partition

theorem PartitionTable.outlines_eq (table : PartitionTable) :
    table.outlines = table.partitions.flatMap Partition.outlines := by
  unfold outlines visits
  generalize 0 = start
  induction table.partitions generalizing start with
  | nil => rfl
  | cons partition others ih =>
    rw [partitionVisits, List.map_append, Partition.map_outline_visits, ih, List.flatMap_cons]

/-- Reordered tables have the same outlines. -/
theorem PartitionTable.Reordered.outlines_perm {old new : PartitionTable}
    (h : old.Reordered new) : old.outlines.Perm new.outlines := by
  rw [outlines_eq, outlines_eq, ← Multiset.coe_eq_coe, ← Multiset.coe_bind, ← Multiset.coe_bind,
    ← Multiset.rel_eq]
  refine Multiset.rel_bind (fun partition partner hpartner => ?_) h
  rw [Multiset.rel_eq, Multiset.coe_eq_coe]
  exact hpartner.outlines_perm

end Outlines

end DiskLayout
