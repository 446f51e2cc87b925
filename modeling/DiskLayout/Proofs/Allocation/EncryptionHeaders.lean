import DiskLayout.Proofs.Allocation.Growth
import Mathlib.Tactic.Ring

/-!
# Headers of encrypted containers

What is mounted in a device is found through any number of encrypted containers, each of which
takes a header from the device.  Resizing adds all headers to the least size of the filesystem, but
only one of them to the minimum of its mountpoint.  A minimum therefore fits behind one container,
and behind more of them only if the device is large enough for another reason.

## Main definitions

* `Payload.Encloses` — a payload that is a filesystem under a number of containers
* `SizedUnder` — the sizes that resizing gives a device with such a payload
* `Node.HeaderSized` — what resizing makes of a node that is such a device

## Main results

* `le_alignUp_deviceSize_iff` — when a minimum and all headers fit
* `PartitionTable.resize_headerSized` — resizing sizes every device of a table in this way
-/

namespace DiskLayout

open Sizing

/-! ### Filesystems under encrypted containers -/

/-- Whether a payload is a filesystem under `depth` encrypted containers, each directly in the one
before. -/
inductive Payload.Encloses (system : Filesystem) : (depth : Nat) → Payload → Prop where
  | bare : Encloses system 0 (.filesystem system)
  | locked {depth : Nat} {container : Luks} (inner : Encloses system depth container.payload) :
    Encloses system (depth + 1) (.luks container)

namespace Payload

variable {system : Filesystem} {depth : Nat} {payload : Payload}

/-- What is mounted is found through any number of containers. -/
theorem Encloses.mountpoint?_eq (h : payload.Encloses system depth) :
    payload.mountpoint? = some system.mountpoint := by
  induction h with
  | bare => rfl
  | locked _ ih => rw [mountpoint?_luks, ih]

/-- What a payload requires includes the header of every container. -/
theorem Encloses.requirement_eq (h : payload.Encloses system depth) :
    payload.requirement = system.leastSize + depth * Size.luksHeader := by
  induction h with
  | bare => simp [requirement]
  | locked _ ih =>
    rw [requirement_luks, ih]
    ring

/-- What is added to a minimum is the header of one container, however many there are. -/
theorem Encloses.luksOverhead_eq (h : payload.Encloses system depth) :
    luksOverhead (some payload) = min depth 1 * Size.luksHeader := by
  cases h with
  | bare => simp [luksOverhead]
  | locked _ => simp [luksOverhead]

/-- There is no device among the containers, so resizing leaves them as they are. -/
theorem Encloses.resize_eq (h : payload.Encloses system depth) (minimums : Minimums) :
    payload.resize minimums = payload := by
  induction h with
  | bare => rfl
  | @locked depth container _ ih =>
    obtain ⟨uuid, label, cipher, inner⟩ := container
    rw [resize_luks, ih]

theorem Encloses.of_resize {minimums : Minimums}
    (h : (payload.resize minimums).Encloses system depth) : payload.Encloses system depth := by
  induction payload generalizing depth with
  | filesystem own => exact h
  | swap space => exact h
  | btrfs volume =>
    rw [resize_btrfs] at h
    cases h
  | volumeGroup group =>
    rw [resize_volumeGroup] at h
    cases h
  | luks container ih =>
    rw [resize_luks] at h
    cases h with
    | locked hinner => exact .locked (ih hinner)

end Payload

/-! ### The size of a device -/

/-- Every least size is whole extents. -/
theorem FilesystemType.leastSize_mod_extent (kind : FilesystemType) :
    kind.leastSize % Size.extent = 0 := by
  cases kind <;> decide

theorem ne_zero_of_dvd_extent {unit : Nat} (h : unit ∣ Size.extent) : unit ≠ 0 := by
  rintro rfl
  exact Size.extent_ne_zero (Nat.eq_zero_of_zero_dvd h)

section Device

variable {minimums : Minimums} {unit before minimum depth : Nat} {payload : Payload}
  {system : Filesystem}

/-- A device that holds a filesystem under encrypted containers gets the largest of three sizes:
the one it had, the least size of the filesystem with all headers, and the minimum with one. -/
theorem alignUp_deviceSize (hunit : unit ∣ Size.extent) (h : payload.Encloses system depth)
    (hminimum : minimums.get? system.mountpoint = some minimum) :
    alignUp (deviceSize minimums before (some payload)) unit =
      max (max (alignUp before unit) (system.leastSize + depth * Size.luksHeader))
        (alignUp (minimum + min depth 1 * Size.luksHeader) unit) := by
  have hne := ne_zero_of_dvd_extent hunit
  have hleast : unit ∣ system.leastSize + depth * Size.luksHeader := by
    have hsystem := Nat.dvd_of_mod_eq_zero system.kind.leastSize_mod_extent
    have hheader : Size.extent ∣ Size.luksHeader := Nat.dvd_of_mod_eq_zero (by decide)
    exact hunit.trans (Nat.dvd_add hsystem (hheader.mul_left depth))
  rw [← alignUp_of_mod (Nat.mod_eq_zero_of_dvd hleast), ← alignUp_max hne, ← alignUp_max hne]
  rw [deviceSize, Option.bind_some, h.mountpoint?_eq, Option.bind_some, hminimum, Option.map_some,
    Option.getD_some, h.requirement_eq, h.luksOverhead_eq]

/-- With more than one header the rounding of the size does not make up for the others. -/
theorem le_alignUp_add_luksHeader_iff (hunit : unit ∣ Size.extent) :
    minimum + depth * Size.luksHeader ≤ alignUp (minimum + min depth 1 * Size.luksHeader) unit ↔
      depth ≤ 1 := by
  constructor
  · intro hle
    by_contra hdepth
    have htwo : 2 * Size.luksHeader ≤ depth * Size.luksHeader :=
      Nat.mul_le_mul_right _ (Nat.lt_of_not_le hdepth)
    have hrounding : alignUp (minimum + min depth 1 * Size.luksHeader) unit <
        minimum + min depth 1 * Size.luksHeader + unit := alignUp_lt (ne_zero_of_dvd_extent hunit)
    have hheader : unit ≤ Size.luksHeader :=
      Nat.le_trans (Nat.le_of_dvd (Nat.pos_of_ne_zero Size.extent_ne_zero) hunit) (by decide)
    rw [Nat.min_eq_right (Nat.le_of_not_le hdepth)] at hle hrounding
    omega
  · intro hdepth
    rw [Nat.min_eq_left hdepth]
    exact le_alignUp _ _

/-- The minimum and all headers fit exactly if there is one header at most, or if something else
asks for as much. -/
theorem le_alignUp_deviceSize_iff (hunit : unit ∣ Size.extent) (h : payload.Encloses system depth)
    (hminimum : minimums.get? system.mountpoint = some minimum) :
    minimum + depth * Size.luksHeader ≤ alignUp (deviceSize minimums before (some payload)) unit ↔
      depth ≤ 1 ∨ minimum ≤ system.leastSize ∨
        minimum + depth * Size.luksHeader ≤ alignUp before unit := by
  rw [alignUp_deviceSize hunit h hminimum, le_max_iff, le_max_iff, Nat.add_le_add_iff_right,
    le_alignUp_add_luksHeader_iff hunit]
  tauto

/-- The sizes that resizing gives a device that holds a filesystem under `depth` encrypted containers,
where it had the size `before`.  There is space for the least size of the filesystem and all
headers, and for the minimum of its mountpoint and one header.  The minimum and all headers fit
exactly if there is one header at most, or if the least size or the size before ask for as much. -/
structure SizedUnder (minimums : Minimums) (unit before size depth : Nat) (system : Filesystem) :
    Prop where
  leastSize : system.leastSize + depth * Size.luksHeader ≤ size
  minimum : ∀ minimum, minimums.get? system.mountpoint = some minimum →
    minimum + min depth 1 * Size.luksHeader ≤ size
  minimum_iff : ∀ minimum, minimums.get? system.mountpoint = some minimum →
    (minimum + depth * Size.luksHeader ≤ size ↔
      depth ≤ 1 ∨ minimum ≤ system.leastSize ∨
        minimum + depth * Size.luksHeader ≤ alignUp before unit)

theorem Payload.Encloses.sizedUnder (h : payload.Encloses system depth)
    (hunit : unit ∣ Size.extent) :
    SizedUnder minimums unit before (alignUp (deviceSize minimums before (some payload)) unit) depth
      system := by
  obtain ⟨-, hrequired, hminimum⟩ :=
    deviceSize_le_iff.1 (le_alignUp (deviceSize minimums before (some payload)) unit)
  refine ⟨?_, fun minimum hget => ?_, fun minimum hget => le_alignUp_deviceSize_iff hunit h hget⟩
  · rw [← h.requirement_eq]
    exact hrequired payload rfl
  · rw [← h.luksOverhead_eq]
    exact hminimum _ h.mountpoint?_eq minimum hget

end Device

/-! ### Resized tables -/

/-- Whether a node is a device, a partition or a logical volume, that holds a payload.  Its size is
rounded to a unit. -/
def Node.Holds (unit size : Nat) (payload : Payload) : Node → Prop
  | .partition _ device =>
    unit = Size.partitionGrain ∧ device.size = size ∧ device.payload = some payload
  | .logicalVolume device =>
    unit = Size.extent ∧ device.size = size ∧ device.payload = some payload
  | _ => False

/-- Whether a node that is a device with a filesystem under encrypted containers comes from one with
the same payload, and is sized for it. -/
def Node.HeaderSized (minimums : Minimums) (old new : Node) : Prop :=
  ∀ unit size payload, new.Holds unit size payload →
    ∀ depth system, payload.Encloses system depth →
      ∃ before, old.Holds unit before payload ∧ SizedUnder minimums unit before size depth system

theorem eq_some_of_resize {minimums : Minimums} {held : Option Payload} {payload : Payload}
    {depth : Nat} {system : Filesystem} (h : held.map (Payload.resize minimums) = some payload)
    (hencloses : payload.Encloses system depth) : held = some payload := by
  obtain ⟨inner, rfl, rfl⟩ := Option.map_eq_some_iff.1 h
  rw [hencloses.of_resize.resize_eq]

theorem Node.headerSized_resize (minimums : Minimums) (node : Node) :
    node.HeaderSized minimums (node.resize minimums) := by
  intro unit size payload hholds depth system h
  cases node with
  | partition index device =>
    obtain ⟨rfl, rfl, hpayload⟩ := hholds
    refine ⟨device.size, ⟨rfl, rfl, eq_some_of_resize hpayload h⟩, ?_⟩
    change SizedUnder _ _ _ (alignUp (deviceSize minimums device.size
      (device.payload.map (Payload.resize minimums))) Size.partitionGrain) _ _
    rw [show device.payload.map (Payload.resize minimums) = some payload from hpayload]
    exact h.sizedUnder (Nat.dvd_of_mod_eq_zero (by decide))
  | logicalVolume device =>
    obtain ⟨rfl, rfl, hpayload⟩ := hholds
    refine ⟨device.size, ⟨rfl, rfl, eq_some_of_resize hpayload h⟩, ?_⟩
    change SizedUnder _ _ _ (alignUp (deviceSize minimums device.size
      (device.payload.map (Payload.resize minimums))) Size.extent) _ _
    rw [show device.payload.map (Payload.resize minimums) = some payload from hpayload]
    exact h.sizedUnder (Nat.dvd_refl _)
  | _ => cases hholds

namespace PartitionTable

/-- Resizing accounts for the headers of encrypted containers at every depth where it asks for the
least size of a filesystem, and for one of them where it asks for a minimum.  So a minimum fits
behind at most one container; behind more it fits only by what else makes the device larger. -/
theorem resize_headerSized (minimums : Minimums) (table : PartitionTable) :
    List.Forall₂ (Node.HeaderSized minimums) table.nodes (table.resize minimums).nodes := by
  rw [nodes_resize, List.forall₂_map_right_iff]
  exact List.forall₂_same.2 fun node _ => node.headerSized_resize minimums

/-- A disk with a filesystem under two encrypted containers. -/
def lockedTwice : PartitionTable :=
  let inner : Luks := ⟨none, none, defaultCipher, .filesystem (.new .xfs "/data")⟩
  let outer : Luks := ⟨none, none, defaultCipher, .luks inner⟩
  { PartitionTable.empty .gpt with
    partitions := [.new Size.mebibyte .linuxGeneric (some (.luks outer))] }

/-- The minimum of one gibibyte for what is mounted behind two containers. -/
def dataMinimum : Minimums := TextMap.empty.insert "/data" Size.gibibyte

theorem resize_headerSized_lockedTwice :
    ∃ size, (lockedTwice.resize dataMinimum).partitions.map Partition.size = [size] ∧
      SizedUnder dataMinimum Size.partitionGrain Size.mebibyte size 2 (.new .xfs "/data") := by
  cases resize_headerSized dataMinimum lockedTwice with
  | cons hdevice _ =>
    obtain ⟨before, ⟨-, rfl, -⟩, hsized⟩ :=
      hdevice _ _ _ ⟨rfl, rfl, rfl⟩ 2 _ (.locked (.locked .bare))
    exact ⟨_, rfl, hsized⟩

/-- Behind two containers the filesystem has less than its minimum. -/
theorem resize_lockedTwice :
    ∃ device ∈ (lockedTwice.resize dataMinimum).partitions, ∃ payload system,
      device.payload = some payload ∧ payload.Encloses system 2 ∧
        dataMinimum.get? system.mountpoint = some Size.gibibyte ∧
        device.size = Size.gibibyte + Size.luksHeader ∧
        ¬ Size.gibibyte + 2 * Size.luksHeader ≤ device.size := by
  refine ⟨_, List.mem_singleton_self _, _, .new .xfs "/data", rfl, .locked (.locked .bare), ?_⟩
  exact ⟨by decide, by decide, by decide⟩

end PartitionTable

end DiskLayout
