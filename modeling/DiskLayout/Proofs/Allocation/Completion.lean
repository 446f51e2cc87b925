import DiskLayout.Proofs.Allocation.Identification
import DiskLayout.Proofs.Allocation.Settling
import DiskLayout.Proofs.Table.Structure

/-!
# Completion of tables

A settled table is identified and checked.  Settling leaves it sufficient and as large as its
partitions together, so that of all its checks only two can fail: a table without partitions cannot
grow, and a device that nothing asks for may be left without a size.

## Main definitions

* `Node.deviceSize?` — the size of a node that is a device
* `PartitionTable.Finished` — what a table is when it has been settled, identified and checked

## Main results

* `complete_settle_finished` — a completed table is finished
* `complete_settle_error_iff` — when completion fails, and with which errors
-/

namespace DiskLayout

open Sizing Validation

/-- The size of a node that is a device: a partition or a logical volume. -/
def Node.deviceSize? : Node → Option Nat
  | .partition _ device => some device.size
  | .logicalVolume device => some device.size
  | _ => none

/-! ### Checks of a sufficient table -/

section Checks

variable {minimums : Minimums} {table : PartitionTable}

theorem checkDevice_of_requirement_le (device : String) {size : Nat} {payload : Option Payload}
    (h : ∀ inner, payload = some inner → inner.requirement ≤ size) :
    checkDevice device size payload =
      if size = 0 then .error (.invalidTable (device ++ " has no size")) else .ok () := by
  unfold checkDevice
  split
  · rfl
  · cases payload with
    | none => rfl
    | some inner =>
      have hle := Nat.le_trans inner.requiredSize_le_requirement (h inner rfl)
      simp [Nat.not_lt.2 hle]

/-- The check of a sufficient node fails only for a device without a size. -/
theorem checkNode_of_sufficient {node : Node} (h : node.Sufficient minimums) :
    (node.deviceSize? ≠ some 0 ∧ checkNode node = .ok ()) ∨
      (node.deviceSize? = some 0 ∧ ∃ device : String,
        checkNode node = .error (.invalidTable (device ++ " has no size"))) := by
  have hdevice : ∀ (device : String) (size : Nat) (payload : Option Payload),
      deviceSize minimums 0 payload ≤ size →
      (some size ≠ some 0 ∧ checkDevice device size payload = .ok ()) ∨
        (some size = some 0 ∧ checkDevice device size payload =
          .error (.invalidTable (device ++ " has no size"))) := by
    intro device size payload hle
    rw [checkDevice_of_requirement_le device (deviceSize_le_iff.1 hle).2.1]
    by_cases hzero : size = 0
    · exact .inr ⟨congrArg some hzero, if_pos hzero⟩
    · exact .inl ⟨fun heq => hzero (Option.some.inj heq), if_neg hzero⟩
  cases node with
  | partition index device =>
    exact (hdevice _ _ _ h.2).imp_right fun herror => ⟨herror.1, _, herror.2⟩
  | logicalVolume device =>
    exact (hdevice _ _ _ h.2).imp_right fun herror => ⟨herror.1, _, herror.2⟩
  | _ => exact .inl ⟨by simp [Node.deviceSize?], rfl⟩

theorem PartitionTable.Sufficient.checkAllSectors (h : table.Sufficient minimums) :
    checkAllSectors 0 table.partitions = .ok () := by
  unfold Sufficient at h
  generalize 0 = start
  generalize table.partitions = partitions at h
  induction partitions generalizing start with
  | nil => rfl
  | cons partition others ih =>
    rw [List.forall_mem_cons] at h
    have hfirst : checkSectors start partition = .ok () := if_pos h.1.sectors
    rw [Validation.checkAllSectors, hfirst]
    exact ih _ h.2

/-- A sufficient table that keeps the rules and is as large as its partitions passes its checks
unless a device has no size. -/
theorem PartitionTable.Sufficient.validate (h : table.Sufficient minimums)
    (hstructured : table.WellStructured) (hsize : table.size = table.partitionsSize) :
    ((∀ node ∈ table.nodes, node.deviceSize? ≠ some 0) ∧ table.validate.result = .ok ()) ∨
      ((∃ node ∈ table.nodes, node.deviceSize? = some 0) ∧ ∃ device : String,
        table.validate.result = .error (.invalidTable (device ++ " has no size"))) := by
  -- The checks of the structure pass, so what is left are those of the single nodes.
  have htotal : checkTotal table = .ok () := if_neg (by omega)
  have hvisits := PartitionTable.checkVisits_ok_iff.2 hstructured
  have hvalidate : table.validate.result = table.validateDevices := by
    unfold PartitionTable.validate validateStructure
    simp only [Logged.result_bind, Logged.result_lift, h.checkAllSectors, htotal, hvisits, ok_bind]
  have hmem : ∀ visit ∈ table.visits .parentsFirst, visit.node ∈ table.nodes :=
    fun visit hvisit => List.mem_map_of_mem hvisit
  rw [hvalidate]
  rcases forM_cases (fun visit : Visit => checkNode visit.node) (table.visits .parentsFirst) with
    ⟨hpass, hok⟩ | ⟨visit, hvisit, error, hcheck, herror⟩
  · refine .inl ⟨fun node hnode hzero => ?_, hok⟩
    obtain ⟨visit, hvisit, rfl⟩ := List.mem_map.1 hnode
    rcases checkNode_of_sufficient (h.of_mem_nodes hnode) with ⟨hne, -⟩ | ⟨-, device, hfails⟩
    · exact hne hzero
    · rw [hpass visit hvisit] at hfails
      cases hfails
  · rcases checkNode_of_sufficient (h.of_mem_nodes (hmem visit hvisit)) with
      ⟨-, hpasses⟩ | ⟨hzero, device, hfails⟩
    · rw [hpasses] at hcheck
      cases hcheck
    · rw [hfails] at hcheck
      obtain rfl := Except.error.inj hcheck
      exact .inr ⟨⟨visit.node, hmem visit hvisit, hzero⟩, device, herror⟩

end Checks

/-! ### Empty devices -/

/-- Synchronization gives no device a size and takes none away. -/
theorem syncPartition_empty_iff (partition : Partition) :
    (∀ payload, (syncPartition partition).payload = some payload →
        payload.All fun node => node.deviceSize? ≠ some 0) ↔
      ∀ payload, partition.payload = some payload →
        payload.All fun node => node.deviceSize? ≠ some 0 := by
  -- No node of a btrfs volume is a device, whatever the size of the volume.
  have hbtrfs : ∀ volume : Btrfs,
      (Payload.btrfs volume).All fun node => node.deviceSize? ≠ some 0 := by
    intro volume
    simp [Node.deviceSize?]
  rcases syncPartition_cases partition with hsame | ⟨volume, hcontent, hmap⟩
  · rw [hsame]
  · rw [hmap]
    rcases Partition.content?_eq_some.1 hcontent with
      ⟨hpayload, hluks⟩ | ⟨container, hpayload, hinner⟩
    · rw [Partition.mapContent_of_payload hpayload hluks, hpayload]
      simp only [Option.some.injEq, forall_eq', hbtrfs]
    · rw [Partition.mapContent_of_luks hpayload, hpayload]
      simp only [Option.some.injEq, forall_eq', Payload.all_luks, hinner, hbtrfs, and_true]
      exact Iff.rfl

theorem PartitionTable.syncBtrfs_nonempty_iff (table : PartitionTable) :
    (∀ node ∈ table.syncBtrfs.nodes, node.deviceSize? ≠ some 0) ↔
      ∀ node ∈ table.nodes, node.deviceSize? ≠ some 0 := by
  rw [forall_mem_nodes, forall_mem_nodes]
  have hpartitions : table.syncBtrfs.partitions = table.partitions.map syncPartition := rfl
  simp only [hpartitions, List.getElem?_map, Option.map_eq_some_iff]
  constructor
  · intro h index partition hpartition
    obtain ⟨hsize, hpayload⟩ := h index _ ⟨partition, hpartition, rfl⟩
    exact ⟨hsize, (syncPartition_empty_iff partition).1 hpayload⟩
  · rintro h index _ ⟨partition, hpartition, rfl⟩
    obtain ⟨hsize, hpayload⟩ := h index partition hpartition
    exact ⟨hsize, (syncPartition_empty_iff partition).2 hpayload⟩

theorem Node.Resembles.deviceSize?_eq {old new : Node} (h : old.Resembles (· = ·) new) :
    new.deviceSize? = old.deviceSize? := by
  cases h with
  | partition h => exact congrArg some h.1.size.symm
  | logicalVolume h => exact congrArg some (LogicalVolume.resembles_iff.1 h).1.size.symm
  | _ => rfl

theorem PartitionTable.Resembles.nonempty_iff {old new : PartitionTable}
    (h : old.Resembles (· = ·) new) :
    (∀ node ∈ new.nodes, node.deviceSize? ≠ some 0) ↔
      ∀ node ∈ old.nodes, node.deviceSize? ≠ some 0 := by
  have hsizes : new.nodes.map Node.deviceSize? = old.nodes.map Node.deviceSize? :=
    map_eq_of_forall₂ (fun _ _ hnode => hnode.deviceSize?_eq) (PartitionTable.nodes_resemble h)
  have hmap : ∀ nodes : List Node, (∀ node ∈ nodes, node.deviceSize? ≠ some 0) ↔
      some 0 ∉ nodes.map Node.deviceSize? := by
    intro nodes
    simp
  rw [hmap, hmap, hsizes]

/-! ### Completion -/

section Complete

variable {sized : Logged LayoutError PartitionTable} {source : RandomSource}

theorem complete_of_ok {table : PartitionTable} (h : sized.result = .ok table) :
    (complete sized source).1.result =
      (table.identify.run source).1.validate.result >>= fun _ =>
        .ok (table.identify.run source).1 := by
  unfold complete
  simp only [h]
  generalize table.identify.run source = drawn
  obtain ⟨identified, rest⟩ := drawn
  simp only [Logged.result_bind, Logged.result_notes, Logged.result_note, Logged.result_pure, h,
    ok_bind]

theorem complete_of_error {error : LayoutError} (h : sized.result = .error error) :
    (complete sized source).1.result = .error error := by
  unfold complete
  rw [h]

/-- What is logged while a table is sized does not matter to its completion. -/
theorem complete_congr {other : Logged LayoutError PartitionTable}
    (h : sized.result = other.result) :
    (complete sized source).1.result = (complete other source).1.result := by
  cases hother : other.result with
  | error error => rw [complete_of_error hother, complete_of_error (h.trans hother)]
  | ok table => rw [complete_of_ok hother, complete_of_ok (h.trans hother)]

/-- What is left of the source depends on the outcome of sizing alone: nothing is drawn for an
error. -/
theorem complete_source :
    (complete sized source).2 =
      match sized.result with
      | .error _ => source
      | .ok table => (table.identify.run source).2 := by
  unfold complete
  cases sized.result with
  | error error => rfl
  | ok table => rfl

theorem complete_eq_ok {result : PartitionTable} :
    (complete sized source).1.result = .ok result ↔
      ∃ table, sized.result = .ok table ∧ result = (table.identify.run source).1 ∧
        result.validate.result = .ok () := by
  cases hsized : sized.result with
  | error error => simp [complete_of_error hsized]
  | ok table =>
    rw [complete_of_ok hsized, check_eq_ok]
    constructor
    · rintro ⟨hvalid, rfl⟩
      exact ⟨table, rfl, rfl, hvalid⟩
    · rintro ⟨_, ⟨⟩, rfl, hvalid⟩
      exact ⟨hvalid, rfl⟩

end Complete

/-- What a table is when it has been settled, identified and checked: it resembles the table before
with nothing shrunk, everything in it is sufficient, and its size is exact. -/
structure PartitionTable.Finished (table : PartitionTable) (minimums : Minimums) (goal : Nat)
    (result : PartitionTable) : Prop where
  resembles : table.Resembles (· ≤ ·) result
  sufficient : result.Sufficient minimums
  size_eq : result.size = result.partitionsSize
  partitionsSize_eq : result.partitionsSize =
    max (table.resize minimums).partitionsSize (alignUp goal Size.sector)

section Settle

variable {table grown : PartitionTable} {minimums : Minimums} {goal : Nat}

/-- Whatever a table draws, growing it once it is resized finishes it but for the checks. -/
theorem PartitionTable.finished_of_grow
    (h : ((table.resize minimums).grow goal).result = .ok grown) (source : RandomSource) :
    table.Finished minimums goal (grown.syncBtrfs.identify.run source).1 := by
  obtain ⟨hidentified, hsize⟩ := grown.syncBtrfs.identify_resembles source
  have hgrown := (table.resize_sufficient minimums).grow h
  obtain ⟨hexact, hmax⟩ := grow_size h
  refine ⟨?_, hidentified.sufficient hgrown.syncBtrfs, ?_, ?_⟩
  · -- Resizing, growing and synchronizing shrink nothing, and identification keeps all sizes.
    have hresized := (table.resize_resembles minimums).comp (grow_resembles h)
      fun _ _ _ => Nat.le_trans
    have hsynced := hresized.comp hgrown.resembles_syncBtrfs fun _ _ _ => Nat.le_trans
    exact hsynced.comp hidentified fun _ _ _ hle heq => heq ▸ hle
  · rw [hsize, hidentified.partitionsSize_eq, partitionsSize_syncBtrfs]
    exact hexact
  · rw [hidentified.partitionsSize_eq, partitionsSize_syncBtrfs, hmax]

/-- A completed table is finished and passes all checks. -/
theorem complete_settle_finished {source : RandomSource} {result : PartitionTable}
    (h : (complete (table.settle minimums goal) source).1.result = .ok result) :
    table.Finished minimums goal result ∧ result.validate.result = .ok () := by
  obtain ⟨settled, hsettled, rfl, hvalid⟩ := complete_eq_ok.1 h
  obtain ⟨grown, hgrown, rfl⟩ := PartitionTable.settle_eq_ok.1 hsettled
  exact ⟨PartitionTable.finished_of_grow hgrown source, hvalid⟩

/-- Completing a table that keeps the rules has three outcomes: there is nothing to grow, a device
has no size, or the table passes. -/
theorem complete_settle_cases (hstructured : table.WellStructured) (minimums : Minimums)
    (goal : Nat) (source : RandomSource) :
    (table.partitions = [] ∧ 0 < goal ∧
        ((table.resize minimums).grow goal).result =
          .error (.invalidTable "partition table has no partition to grow") ∧
        (complete (table.settle minimums goal) source).1.result =
          .error (.invalidTable "partition table has no partition to grow")) ∨
      ∃ grown, ((table.resize minimums).grow goal).result = .ok grown ∧
        (((∃ node ∈ grown.nodes, node.deviceSize? = some 0) ∧ ∃ device : String,
            (complete (table.settle minimums goal) source).1.result =
              .error (.invalidTable (device ++ " has no size"))) ∨
          ((∀ node ∈ grown.nodes, node.deviceSize? ≠ some 0) ∧ ∃ result,
            (complete (table.settle minimums goal) source).1.result = .ok result)) := by
  cases hgrow : ((table.resize minimums).grow goal).result with
  | error error =>
    obtain ⟨hempty, hpos, rfl⟩ := PartitionTable.grow_eq_error_iff.1 hgrow
    rw [PartitionTable.resize_eq] at hempty
    refine .inl ⟨List.map_eq_nil_iff.1 hempty, hpos, rfl, ?_⟩
    exact complete_of_error (PartitionTable.settle_eq_error.2 hgrow)
  | ok grown =>
    -- Synchronization and identification leave every device its size, so the check of the
    -- finished table can be decided on the grown one.
    have hfinished := PartitionTable.finished_of_grow hgrow source
    have hnonempty := (grown.syncBtrfs.identify_resembles source).1.nonempty_iff.trans
      grown.syncBtrfs_nonempty_iff
    rw [complete_of_ok (PartitionTable.settle_eq_ok.2 ⟨grown, hgrow, rfl⟩)]
    refine .inr ⟨grown, rfl, ?_⟩
    rcases hfinished.sufficient.validate (hfinished.resembles.wellStructured hstructured)
        hfinished.size_eq with ⟨hsizes, hok⟩ | ⟨⟨empty, hmem, hzero⟩, device, herror⟩
    · rw [hok]
      exact .inr ⟨hnonempty.1 hsizes, _, rfl⟩
    · rw [herror]
      refine .inl ⟨?_, device, rfl⟩
      by_contra hnone
      exact hnonempty.2 (fun node hnode hempty => hnone ⟨node, hnode, hempty⟩) empty hmem hzero

/-- Completing a table that keeps the rules fails exactly if there is nothing to grow, or a device
has no size when the table is resized and grown; the error says so, and on the way no difference of
sizes is cut off at zero. -/
theorem complete_settle_error_iff (hstructured : table.WellStructured) (minimums : Minimums)
    (goal : Nat) (source : RandomSource) :
    ((∃ error, (complete (table.settle minimums goal) source).1.result = .error error) ↔
      (table.partitions = [] ∧ 0 < goal) ∨
        ∃ grown, ((table.resize minimums).grow goal).result = .ok grown ∧
          ∃ node ∈ grown.nodes, node.deviceSize? = some 0) ∧
    (∀ error, (complete (table.settle minimums goal) source).1.result = .error error →
      error = .invalidTable "partition table has no partition to grow" ∨
        ∃ device : String, error = .invalidTable (device ++ " has no size")) ∧
    (∀ partition ∈ (table.resize minimums).partitions, ∀ delta,
      (partition.enlarge delta).SubtractsSafely) ∧
    ∀ grown, ((table.resize minimums).grow goal).result = .ok grown →
      grown.partitionsSize =
          max (table.resize minimums).partitionsSize (alignUp goal Size.sector) ∧
        ∀ partition ∈ grown.partitions, partition.SubtractsSafely := by
  have hresized := table.resize_sufficient minimums
  refine ⟨?_, ?_, fun partition hmem => (hresized partition hmem).subtractsSafely,
    fun grown hgrown => ⟨(PartitionTable.grow_size hgrown).2, fun partition hmem =>
      (hresized.grow hgrown partition hmem).subtractsSafely 0⟩⟩
  · rcases complete_settle_cases hstructured minimums goal source with
      ⟨hempty, hpos, -, herror⟩ | ⟨grown, hgrown, ⟨hzero, device, herror⟩ | ⟨hsizes, result, hok⟩⟩
    · exact iff_of_true ⟨_, herror⟩ (.inl ⟨hempty, hpos⟩)
    · exact iff_of_true ⟨_, herror⟩ (.inr ⟨grown, hgrown, hzero⟩)
    · rw [hok]
      refine iff_of_false (fun ⟨_, herror⟩ => by cases herror) ?_
      rintro (⟨hempty, hpos⟩ | ⟨grown', hgrown', node, hnode, hzero⟩)
      · have hnone : (table.resize minimums).partitions = [] := by
          rw [PartitionTable.resize_eq, hempty]
          rfl
        rw [PartitionTable.grow_eq_error_iff.2 ⟨hnone, hpos, rfl⟩] at hgrown
        cases hgrown
      · rw [hgrown] at hgrown'
        obtain rfl := Except.ok.inj hgrown'
        exact hsizes node hnode hzero
  · intro error herror'
    rcases complete_settle_cases hstructured minimums goal source with
      ⟨-, -, -, herror⟩ | ⟨grown, hgrown, ⟨-, device, herror⟩ | ⟨-, result, hok⟩⟩
    · exact .inl (Except.error.inj (herror'.symm.trans herror))
    · exact .inr ⟨device, Except.error.inj (herror'.symm.trans herror)⟩
    · rw [hok] at herror'
      cases herror'

end Settle

/-- A disk with a twice encrypted volume group and a partition that nothing asks to have a size. -/
def PartitionTable.halfEmpty : PartitionTable :=
  let root : Filesystem := .new .xfs Path.root
  let group : VolumeGroup := ⟨"rootvg", "", [⟨"rootlv", 0, some (.filesystem root)⟩]⟩
  let inner : Luks := ⟨none, none, defaultCipher, .volumeGroup group⟩
  let outer : Luks := ⟨none, none, defaultCipher, .luks inner⟩
  { PartitionTable.empty .gpt with
    partitions := [.new 0 .lvm (some (.luks outer)), .new 0 .linuxGeneric none] }

theorem complete_settle_error_iff_halfEmpty :
    PartitionTable.halfEmpty.WellStructured ∧
      ∃ error, (complete (PartitionTable.halfEmpty.settle .empty 0) ⟨fun _ => 0, 0⟩).1.result =
        .error error := by
  have hstructured : PartitionTable.halfEmpty.WellStructured :=
    PartitionTable.checkVisits_ok_iff.1 rfl
  refine ⟨hstructured, (complete_settle_error_iff hstructured .empty 0 ⟨fun _ => 0, 0⟩).1.2 ?_⟩
  refine .inr ⟨_, rfl, .partition 1 (.new 0 .linuxGeneric none), ?_, rfl⟩
  exact PartitionTable.mem_nodes.2 ⟨1, _, rfl, List.mem_cons_self⟩

end DiskLayout
