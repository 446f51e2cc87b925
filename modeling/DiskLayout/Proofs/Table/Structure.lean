import DiskLayout.Proofs.Outcome
import DiskLayout.Proofs.Table.Resemblance
import DiskLayout.Table.Validation

/-!
# Well-structured tables

The checks of the structure of a table run along its walk and remember what they have met.  What
they accept can be said without any order: at most one container of each kind, distinct names,
distinct and valid mountpoints, and nothing in a container that a boot loader must reach.

## Main definitions

* `PartitionTable.WellStructured` — the rules for names, mountpoints and containers

## Main results

* `PartitionTable.checkVisits_ok_iff` — the checks accept exactly the tables that keep the rules
* `PartitionTable.Resembles.wellStructured` — tables that resemble each other keep the same rules
-/

namespace DiskLayout

open Validation

/-- Whether a node is a volume group. -/
def Node.isVolumeGroup : Node → Bool
  | volumeGroup _ => true
  | _ => false

/-- Whether a node is a btrfs volume. -/
def Node.isBtrfs : Node → Bool
  | btrfs _ => true
  | _ => false

/-- The names that are given to the logical volumes of a group. -/
def VolumeGroup.givenNames (group : VolumeGroup) : List String :=
  (group.logicalVolumes.map LogicalVolume.name).filter (· ≠ "")

/-- The names of the subvolumes of a btrfs volume. -/
def Btrfs.names (volume : Btrfs) : List String := volume.subvolumes.map Subvolume.name

/-- Whether a boot loader can read what is visited: it lies in no container of volumes. -/
def Visit.isReachable (visit : Visit) : Bool :=
  (visit.ancestors.findSome? Node.volumeContainer?).isNone

/-- What a visit must satisfy by itself: names that are distinct and given where they have to be,
and a mountpoint that is valid and can be booted from. -/
@[mk_iff]
structure Visit.Sound (visit : Visit) : Prop where
  volume_names : ∀ group, visit.node = .volumeGroup group → group.givenNames.Nodup
  subvolume_names : ∀ volume, visit.node = .btrfs volume →
    "" ∉ volume.names ∧ volume.names.Nodup
  mountpoint_valid : ∀ mountpoint, visit.node.mountpoint? = some mountpoint →
    checkMountpoint mountpoint = .ok ()
  boot_reachable : ∀ mountpoint, visit.node.mountpoint? = some mountpoint →
    mountpoint ∈ Path.plainOnly → visit.isReachable

/-- The rules for names, mountpoints and containers in a table. -/
structure PartitionTable.WellStructured (table : PartitionTable) : Prop where
  sound : ∀ visit ∈ table.visits .parentsFirst, visit.Sound
  one_volumeGroup : table.nodes.countP Node.isVolumeGroup ≤ 1
  one_btrfs : table.nodes.countP Node.isBtrfs ≤ 1
  mountpoints_distinct : table.mountpoints.Nodup

/-! ### Names -/

theorem VolumeGroup.checkNames_go_ok_iff (group : VolumeGroup) (seen : List String)
    (volumes : List LogicalVolume) :
    checkNames.go group seen volumes = .ok () ↔
      ((volumes.map LogicalVolume.name).filter (· ≠ "")).Nodup ∧
        ∀ name ∈ (volumes.map LogicalVolume.name).filter (· ≠ ""), name ∉ seen := by
  induction volumes generalizing seen with
  | nil => simp [checkNames.go]
  | cons volume others ih =>
    unfold checkNames.go
    by_cases hempty : volume.name = ""
    · simp [hempty, ih]
    · by_cases hseen : volume.name ∈ seen
      · simp [hempty, hseen]
      · simp only [hempty, if_false, List.contains_iff_mem, hseen, ih]
        simp [hempty, hseen]
        grind

theorem VolumeGroup.checkNames_ok_iff {group : VolumeGroup} :
    group.checkNames = .ok () ↔ group.givenNames.Nodup := by
  simp [checkNames, checkNames_go_ok_iff, givenNames]

theorem Btrfs.checkNames_go_ok_iff (seen : List String) (subvolumes : List Subvolume) :
    checkNames.go seen subvolumes = .ok () ↔
      "" ∉ subvolumes.map Subvolume.name ∧ (subvolumes.map Subvolume.name).Nodup ∧
        ∀ name ∈ subvolumes.map Subvolume.name, name ∉ seen := by
  induction subvolumes generalizing seen with
  | nil => simp [checkNames.go]
  | cons subvolume others ih =>
    unfold checkNames.go
    by_cases hempty : subvolume.name = ""
    · simp [hempty]
    · by_cases hseen : subvolume.name ∈ seen
      · simp [hempty, hseen]
      · simp only [hempty, if_false, List.contains_iff_mem, hseen, ih]
        simp [hempty, hseen]
        grind

theorem Btrfs.checkNames_ok_iff {volume : Btrfs} :
    volume.checkNames = .ok () ↔ "" ∉ volume.names ∧ volume.names.Nodup := by
  simp [checkNames, checkNames_go_ok_iff, names]

/-! ### One visit -/

theorem mountpointFault?_eq_none {mountpoint : String} :
    mountpointFault? mountpoint = none ↔ checkMountpoint mountpoint = .ok () := by
  unfold mountpointFault?
  cases checkMountpoint mountpoint <;> simp

namespace Validation

/-- What is met after a node. -/
def Met.after (met : Met) (node : Node) : Met where
  volumeGroups := met.volumeGroups + if node.isVolumeGroup then 1 else 0
  btrfsVolumes := met.btrfsVolumes + if node.isBtrfs then 1 else 0
  mountpoints := node.mountpoint?.toList ++ met.mountpoints

/-- What a visit must satisfy after what is met. -/
@[mk_iff]
structure Admits (met : Met) (visit : Visit) : Prop where
  sound : visit.Sound
  first_volumeGroup : visit.node.isVolumeGroup → met.volumeGroups = 0
  first_btrfs : visit.node.isBtrfs → met.btrfsVolumes = 0
  fresh : ∀ mountpoint, visit.node.mountpoint? = some mountpoint →
    mountpoint ∉ met.mountpoints

theorem checkMounted_ok_iff {met met' : Met} {visit : Visit} {mountpoint : String} :
    checkMounted met visit mountpoint = .ok met' ↔
      (checkMountpoint mountpoint = .ok () ∧ mountpoint ∉ met.mountpoints ∧
        (mountpoint ∈ Path.plainOnly → visit.isReachable)) ∧
      met' = { met with mountpoints := mountpoint :: met.mountpoints } := by
  unfold checkMounted Visit.isReachable
  rw [← mountpointFault?_eq_none]
  cases mountpointFault? mountpoint with
  | some fault => simp
  | none =>
    by_cases hseen : mountpoint ∈ met.mountpoints
    · simp [hseen]
    · by_cases hplain : mountpoint ∈ Path.plainOnly <;>
        cases visit.ancestors.findSome? Node.volumeContainer? <;>
          simp [hseen, hplain, eq_comm]

theorem checkVolumes_ok_iff {met met' : Met} {node : Node} :
    checkVolumes met node = .ok met' ↔
      ((node.isVolumeGroup → met.volumeGroups = 0) ∧ (node.isBtrfs → met.btrfsVolumes = 0) ∧
        (∀ group, node = .volumeGroup group → group.givenNames.Nodup) ∧
        ∀ volume, node = .btrfs volume → "" ∉ volume.names ∧ volume.names.Nodup) ∧
      met' = { met.after node with mountpoints := met.mountpoints } := by
  cases node with
  | volumeGroup group =>
    by_cases hmet : met.volumeGroups = 0
    · simp [checkVolumes, hmet, pure, Except.pure, check_eq_ok, VolumeGroup.checkNames_ok_iff,
        Met.after, Node.isVolumeGroup, Node.isBtrfs]
    · simp [checkVolumes, hmet, throw, throwThe, MonadExceptOf.throw, Node.isVolumeGroup]
  | btrfs volume =>
    by_cases hmet : met.btrfsVolumes = 0
    · simp [checkVolumes, hmet, pure, Except.pure, check_eq_ok, Btrfs.checkNames_ok_iff,
        Met.after, Node.isVolumeGroup, Node.isBtrfs]
    · simp [checkVolumes, hmet, throw, throwThe, MonadExceptOf.throw, Node.isBtrfs]
  | _ =>
    simp only [checkVolumes, Met.after, Node.isVolumeGroup, Node.isBtrfs, Except.ok.injEq,
      reduceCtorEq, Bool.false_eq_true, false_implies, implies_true, true_and, if_false,
      Nat.add_zero]
    exact eq_comm

/-- A visit passes exactly if it satisfies what it must, and then it is remembered. -/
theorem checkVisit_ok_iff {met met' : Met} {visit : Visit} :
    (checkVisit met visit).result = .ok met' ↔ Admits met visit ∧ met' = met.after visit.node := by
  unfold checkVisit
  rw [Logged.result_bind, Logged.result_lift, bind_eq_ok, admits_iff, Visit.sound_iff]
  -- What is left is to sort the conditions: those of names and counts come from the first check,
  -- those of the mountpoint from the second.
  simp only [checkVolumes_ok_iff]
  cases hmountpoint : visit.node.mountpoint? with
  | none =>
    simp only [Logged.result_pure, Except.ok.injEq, exists_eq_right]
    simp only [Met.after, hmountpoint, Option.toList_none, List.nil_append]
    grind
  | some mountpoint =>
    simp only [Logged.result_bind, Logged.result_note, ok_bind, Logged.result_lift,
      checkMounted_ok_iff]
    simp only [Met.after, hmountpoint, Option.toList_some, List.singleton_append]
    grind

/-- What visits must satisfy one after the other, after what is met. -/
@[mk_iff]
structure Accepts (met : Met) (visits : List Visit) : Prop where
  sound : ∀ visit ∈ visits, visit.Sound
  one_volumeGroup : (visits.map Visit.node).countP Node.isVolumeGroup ≤ 1 - met.volumeGroups
  one_btrfs : (visits.map Visit.node).countP Node.isBtrfs ≤ 1 - met.btrfsVolumes
  distinct : (visits.filterMap fun visit => visit.node.mountpoint?).Nodup
  fresh : ∀ visit ∈ visits, ∀ mountpoint, visit.node.mountpoint? = some mountpoint →
    mountpoint ∉ met.mountpoints

theorem accepts_nil (met : Met) : Accepts met [] := by
  constructor <;> simp

/-- A budget of one is spent by the first item of a kind. -/
theorem countP_cons_le_one_sub {α : Type} {kind : α → Bool} {item : α} {others : List α}
    {spent : Nat} :
    (item :: others).countP kind ≤ 1 - spent ↔
      (kind item → spent = 0) ∧ others.countP kind ≤ 1 - (spent + if kind item then 1 else 0) := by
  rw [List.countP_cons]
  cases kind item with
  | false => simp
  | true =>
    simp only [if_true, true_implies]
    omega

theorem accepts_cons {met : Met} {visit : Visit} {others : List Visit} :
    Accepts met (visit :: others) ↔ Admits met visit ∧ Accepts (met.after visit.node) others := by
  -- A condition on two visits in a row is met by remembering the first: its mountpoint is not
  -- fresh any more, and its container uses up the budget.
  simp only [accepts_iff, admits_iff, List.map_cons, countP_cons_le_one_sub, List.forall_mem_cons,
    List.Nodup, List.pairwise_filterMap, List.pairwise_cons, Met.after, List.mem_append,
    Option.mem_toList]
  grind

theorem checkVisits_ok_iff {met : Met} {visits : List Visit} :
    (checkVisits met visits).result = .ok () ↔ Accepts met visits := by
  induction visits generalizing met with
  | nil => simp [checkVisits, accepts_nil]
  | cons visit others ih =>
    unfold checkVisits
    rw [Logged.result_bind, bind_eq_ok, accepts_cons]
    simp only [checkVisit_ok_iff, ih]
    simp

end Validation

/-- The checks of a walk accept exactly the tables that keep the rules. -/
theorem PartitionTable.checkVisits_ok_iff {table : PartitionTable} :
    (checkVisits Met.nothing (table.visits .parentsFirst)).result = .ok () ↔
      table.WellStructured := by
  rw [Validation.checkVisits_ok_iff]
  constructor
  · intro h
    exact ⟨h.sound, h.one_volumeGroup, h.one_btrfs, h.distinct⟩
  · intro h
    exact ⟨h.sound, h.one_volumeGroup, h.one_btrfs, h.mountpoints_distinct,
      fun _ _ _ _ => List.not_mem_nil⟩

/-- What the check of the structure of a table says. -/
theorem PartitionTable.wellStructured_of_validateStructure {table : PartitionTable}
    (h : table.validateStructure.result = .ok ()) : table.WellStructured := by
  unfold validateStructure at h
  simp only [Logged.result_bind, bind_eq_ok] at h
  obtain ⟨_, -, _, -, hvisits⟩ := h
  exact checkVisits_ok_iff.1 hvisits

theorem PartitionTable.validateStructure_of_validate {table : PartitionTable}
    (h : table.validate.result = .ok ()) : table.validateStructure.result = .ok () := by
  unfold PartitionTable.validate at h
  rw [Logged.result_bind, bind_eq_ok] at h
  obtain ⟨_, hstructure, -⟩ := h
  exact hstructure

theorem PartitionTable.wellStructured_of_validate {table : PartitionTable}
    (h : table.validate.result = .ok ()) : table.WellStructured :=
  wellStructured_of_validateStructure (validateStructure_of_validate h)

/-! ### The position of a container -/

/-- Of lists in a row that have at most one item of a kind together, only one has such an item. -/
theorem eq_of_countP_flatMap_le_one {α β : Type} {kind : β → Bool} {f : α → List β}
    {items : List α} (hcount : (items.flatMap f).countP kind ≤ 1) {first second : Nat}
    {item other : α} (hfirst : items[first]? = some item) (hsecond : items[second]? = some other)
    (hitem : ∃ value ∈ f item, kind value = true)
    (hother : ∃ value ∈ f other, kind value = true) : first = second := by
  have hpos : ∀ item, (∃ value ∈ f item, kind value = true) → 0 < (f item).countP kind :=
    fun _ => List.countP_pos_iff.2
  have hposAll : ∀ (others : List α) (index : Nat) (item : α), others[index]? = some item →
      (∃ value ∈ f item, kind value = true) → 0 < (others.flatMap f).countP kind := by
    rintro others index item hget ⟨value, hvalue, hkind⟩
    exact List.countP_pos_iff.2
      ⟨value, List.mem_flatMap.2 ⟨item, List.mem_of_getElem? hget, hvalue⟩, hkind⟩
  induction items generalizing first second with
  | nil => cases hfirst
  | cons head others ih =>
    rw [List.flatMap_cons, List.countP_append] at hcount
    -- Were one item at the head and the other one behind it, they would count as two.
    cases first with
    | zero =>
      cases second with
      | zero => rfl
      | succ second =>
        obtain rfl := Option.some.inj hfirst
        have hhead := hpos _ hitem
        have htail := hposAll others second other hsecond hother
        omega
    | succ first =>
      cases second with
      | zero =>
        obtain rfl := Option.some.inj hsecond
        have hhead := hpos _ hother
        have htail := hposAll others first item hfirst hitem
        omega
      | succ second => rw [ih (by omega) hfirst hsecond]

/-- The volume group of a table lies in one partition. -/
theorem PartitionTable.WellStructured.eq_of_isVolumeGroup {table : PartitionTable}
    (h : table.WellStructured) {first second : Nat} {partition other : Partition}
    (hfirst : table.partitions[first]? = some partition)
    (hsecond : table.partitions[second]? = some other)
    (hpartition : ∃ node ∈ partition.nodes first, node.isVolumeGroup = true)
    (hother : ∃ node ∈ other.nodes second, node.isVolumeGroup = true) : first = second := by
  have hcount := h.one_volumeGroup
  rw [nodes_eq] at hcount
  have hentry : ∀ {index : Nat} {item : Partition}, table.partitions[index]? = some item →
      table.partitions.zipIdx[index]? = some (item, index) := by
    intro index item hitem
    simp [List.getElem?_zipIdx, hitem]
  exact eq_of_countP_flatMap_le_one hcount (hentry hfirst) (hentry hsecond) hpartition hother

/-! ### Resemblance -/

section Resemblance

variable {sizes : Nat → Nat → Prop}

theorem VolumeGroup.givenNames_eq {old new : VolumeGroup}
    (h : (Payload.volumeGroup old).Resembles sizes (.volumeGroup new)) :
    new.givenNames = old.givenNames := by
  obtain ⟨-, hvolumes⟩ := Payload.resembles_volumeGroup.1 h
  rw [givenNames, givenNames, map_eq_of_forall₂ (fun old new hvolume => ?_) hvolumes]
  exact (LogicalVolume.resembles_iff.1 hvolume).1.name

theorem Btrfs.names_eq {old new : Btrfs}
    (h : (Payload.btrfs old).Resembles sizes (.btrfs new)) : new.names = old.names :=
  map_eq_of_forall₂ (fun _ _ hsubvolume => hsubvolume.name) (Payload.resembles_btrfs.1 h).2

namespace Node.Resembles

variable {old new : Node}

theorem isVolumeGroup_eq (h : old.Resembles sizes new) :
    new.isVolumeGroup = old.isVolumeGroup := by
  cases h <;> rfl

theorem isBtrfs_eq (h : old.Resembles sizes new) : new.isBtrfs = old.isBtrfs := by
  cases h <;> rfl

theorem of_volumeGroup {group : VolumeGroup} (h : old.Resembles sizes (.volumeGroup group)) :
    ∃ oldGroup, old = .volumeGroup oldGroup ∧
      (Payload.volumeGroup oldGroup).Resembles sizes (.volumeGroup group) := by
  cases h with
  | volumeGroup h => exact ⟨_, rfl, h⟩

theorem of_btrfs {volume : Btrfs} (h : old.Resembles sizes (.btrfs volume)) :
    ∃ oldVolume, old = .btrfs oldVolume ∧
      (Payload.btrfs oldVolume).Resembles sizes (.btrfs volume) := by
  cases h with
  | btrfs h => exact ⟨_, rfl, h⟩

theorem volumeContainer?_eq (h : old.Resembles sizes new) :
    new.volumeContainer? = old.volumeContainer? := by
  cases h <;> rfl

end Node.Resembles

theorem Visit.Resembles.isReachable_eq {old new : Visit} (h : old.Resembles sizes new) :
    new.isReachable = old.isReachable := by
  unfold Visit.isReachable
  have hancestors := h.ancestors
  generalize old.ancestors = olds, new.ancestors = news at hancestors
  congr 1
  induction hancestors with
  | nil => rfl
  | cons hfirst _ ih =>
    rw [List.findSome?_cons, List.findSome?_cons, hfirst.volumeContainer?_eq, ih]

theorem Visit.Resembles.sound {old new : Visit} (h : old.Resembles sizes new)
    (hsound : old.Sound) : new.Sound where
  volume_names group hgroup := by
    obtain ⟨oldGroup, hold, hresembles⟩ := (hgroup ▸ h.node).of_volumeGroup
    rw [VolumeGroup.givenNames_eq hresembles]
    exact hsound.volume_names oldGroup hold
  subvolume_names volume hvolume := by
    obtain ⟨oldVolume, hold, hresembles⟩ := (hvolume ▸ h.node).of_btrfs
    rw [Btrfs.names_eq hresembles]
    exact hsound.subvolume_names oldVolume hold
  mountpoint_valid mountpoint hmountpoint :=
    hsound.mountpoint_valid mountpoint (h.node.mountpoint?_eq ▸ hmountpoint)
  boot_reachable mountpoint hmountpoint hplain := by
    rw [h.isReachable_eq]
    exact hsound.boot_reachable mountpoint (h.node.mountpoint?_eq ▸ hmountpoint) hplain

/-- Tables that resemble each other keep the same rules. -/
theorem PartitionTable.Resembles.wellStructured {old new : PartitionTable}
    (h : old.Resembles sizes new) (hold : old.WellStructured) : new.WellStructured := by
  have hnodes := PartitionTable.nodes_resemble h
  -- The number of containers of a kind depends on nothing but the kinds of the nodes.
  have hcount : ∀ kind : Node → Bool,
      (∀ old new, Node.Resembles sizes old new → kind new = kind old) →
      new.nodes.countP kind = old.nodes.countP kind := by
    intro kind hkind
    have hmap := congrArg (List.countP id) (map_eq_of_forall₂ hkind hnodes)
    rw [List.countP_map, List.countP_map] at hmap
    exact hmap
  refine ⟨?_, ?_, ?_, ?_⟩
  · exact forall_mem_transport (PartitionTable.visits_resemble .parentsFirst h)
      (fun _ _ hvisit => hvisit.sound) hold.sound
  · rw [hcount _ fun _ _ hnode => hnode.isVolumeGroup_eq]
    exact hold.one_volumeGroup
  · rw [hcount _ fun _ _ hnode => hnode.isBtrfs_eq]
    exact hold.one_btrfs
  · rw [h.mountpoints_eq]
    exact hold.mountpoints_distinct

end Resemblance

end DiskLayout
