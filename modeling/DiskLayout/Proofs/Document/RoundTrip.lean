import DiskLayout.Proofs.Allocation.NormalForm
import DiskLayout.Proofs.Allocation.Refusals
import DiskLayout.Proofs.Document.Customization
import DiskLayout.Proofs.Document.Profile

/-!
# Documents are read back

A document is written as a value, with the entries of a record in the order of its fields; a value
that is printed or stored may have its keys sorted.  Either way a document gives back what was
written.  For tables this takes a normal form, which is no restriction: whatever is read is in
normal form, and building keeps it.

## Main definitions

* `Decoder.ReadsBack` — a value is read in the order of its fields and with its keys sorted
* `PartitionTable.assorted`, `Customizations.assorted`, `FlattenedLayout.assorted` — documents with
  most kinds of parts

## Main results

* `PartitionTable.normalForm_roundTrip` — the tables that are read back, and where they come from
* `documents_roundTrip` — customizations, profiles and flattened layouts are read back
-/

namespace DiskLayout

/-- Whether a value gives the same, in the order in which its fields were written and with its keys
sorted. -/
def Decoder.ReadsBack {α : Type} (decode : Decoder α) (value : Value) (x : α) : Prop :=
  decode (.value value) = .ok x ∧ decode (.value value.sorted) = .ok x

/-- What is read from every source that shows a value is read from the value itself. -/
theorem Decoder.Reads.readsBack {α : Type} {decode : Decoder α} {value : Value} {x : α}
    (h : ∀ bound, decode.Reads bound value x) : decode.ReadsBack value x :=
  ⟨h _ _ (Source.shows_value value) (Nat.le_refl _),
    h _ _ (Source.shows_sorted value) (Nat.le_refl _)⟩

/-! ### Partition tables -/

namespace PartitionTable

theorem readsBack_iff {table : PartitionTable} :
    decode.ReadsBack table.encode table ↔ table.IsNormal ∧ table.Fits := by
  constructor
  · rintro ⟨hvalue, -⟩
    exact decode_yields _ table hvalue
  · rintro ⟨hnormal, hfits⟩
    exact Decoder.Reads.readsBack fun _ => reads hnormal hfits

/-- A table is read back from what is written of it exactly if it is in normal form and its numbers
fit their fields, which are 64 bits wide for sizes and 32 bits wide in mount entries.  Every table
that is read from a document is such a table, so what is written of it is read as the same table
again.  A table that is built is in normal form if its base is, and always if it has none. -/
theorem normalForm_roundTrip :
    (∀ table : PartitionTable,
      decode.ReadsBack table.encode table ↔ table.IsNormal ∧ table.Fits) ∧
    (∀ (source : Source) (table : PartitionTable), decode source = .ok table →
      table.IsNormal ∧ table.Fits ∧ decode.ReadsBack table.encode table) ∧
    (∀ (base : PartitionTable) (requests : List FilesystemRequest) (goal : Nat)
      (options : BuildOptions) (source : RandomSource) (result : PartitionTable),
      base.IsNormal → (build base requests goal options source).1.result = .ok result →
        result.IsNormal) ∧
    ∀ (request : PartitioningRequest) (options : CustomOptions) (source : RandomSource)
      (result : PartitionTable), (buildCustom request options source).1.result = .ok result →
        result.IsNormal := by
  refine ⟨fun _ => readsBack_iff, ?_, ?_, ?_⟩
  · intro source table hdecode
    have hread : table.IsNormal ∧ table.Fits := decode_yields source table hdecode
    exact ⟨hread.1, hread.2, readsBack_iff.2 hread⟩
  · intro base requests goal options source result hnormal hbuilt
    exact built_isNormal hnormal hbuilt
  · intro request options source result hbuilt
    exact customBuilt_isNormal hbuilt

/-- A table with a text for its identifier, a type without a name, and a logical volume inside an
encrypted container. -/
def assorted : PartitionTable where
  uuid := some (.verbatim "deadbeef")
  kind := .dos
  size := 3 * Size.gibibyte + 1
  partitions := [
    { size := 5
      kind := .other ⟨7⟩
      uuid := some ⟨9⟩
      bootable := true
      payload := some (.filesystem
        { Filesystem.new .vfat "/boot/efi" with
          uuid := some (.verbatim "7B77-95E7"), fstabFreq := 1 }) },
    .new Size.gibibyte .lvm (some (.luks ⟨some (.uuid ⟨3⟩), none, defaultCipher,
      .volumeGroup ⟨"vg", "", [⟨"swap", 7, some (.swap ⟨none, some "pages", "defaults"⟩)⟩]⟩⟩))]

theorem isPortable_assorted : assorted.IsNormal ∧ assorted.Fits := by
  have hdisk : VolumeId.AllNormal assorted.uuid := fun _ hid =>
    Option.some.inj hid ▸ Uuid.parse?_eq_none (by decide)
  have hserial : VolumeId.AllNormal (some (.verbatim "7B77-95E7")) := fun _ hid =>
    Option.some.inj hid ▸ Uuid.parse?_eq_none (by decide)
  have hcontainer : VolumeId.AllNormal (some (.uuid ⟨3⟩)) := fun _ hid =>
    Option.some.inj hid ▸ trivial
  have hkind : (PartitionType.other ⟨7⟩).IsNormal := by
    unfold PartitionType.IsNormal
    decide
  refine isPortable_iff.2 ⟨hdisk, by decide, ?_⟩
  refine List.forall_mem_cons.2 ⟨?_, List.forall_mem_singleton.2 ?_⟩
  · refine ⟨hkind, by decide, fun payload hpayload => ?_⟩
    obtain rfl := Option.some.inj hpayload
    exact Payload.all_filesystem.2 ⟨hserial, by decide, by decide⟩
  · refine ⟨trivial, by decide, fun payload hpayload => ?_⟩
    obtain rfl := Option.some.inj hpayload
    refine Payload.all_luks.2 ⟨⟨hcontainer, trivial⟩, ?_⟩
    refine Payload.all_volumeGroup.2 ⟨⟨trivial, trivial⟩, ?_⟩
    have hsize : 7 < Size.limit := by decide
    refine List.forall_mem_singleton.2 ⟨⟨trivial, hsize⟩, fun inner hinner => ?_⟩
    obtain rfl := Option.some.inj hinner
    exact Payload.all_swap.2 ⟨VolumeId.allNormal_none, trivial⟩

theorem isNormal_rootDisk : rootDisk.IsNormal := by
  refine isNormal_iff.2 ⟨VolumeId.allNormal_none, List.forall_mem_singleton.2 ⟨trivial, ?_⟩⟩
  intro payload hpayload
  obtain rfl := Option.some.inj hpayload
  exact Payload.all_filesystem.2 VolumeId.allNormal_none

theorem normalForm_roundTrip_assorted :
    decode (.value assorted.encode) = .ok assorted ∧
    decode.ReadsBack assorted.encode assorted ∧
    rootDisk.IsNormal ∧
    (∃ result, (build .rootDisk [.new "/var" 5] 1 .standard ⟨fun _ => 0, 0⟩).1.result = .ok result ∧
      result.IsNormal) ∧
    ∃ result, (buildCustom ⟨0, none, none, none⟩ .standard ⟨fun _ => 0, 0⟩).1.result = .ok result ∧
      result.IsNormal := by
  obtain ⟨hiff, hread, hbuild, hcustom⟩ := normalForm_roundTrip
  have hvalue : decode (.value assorted.encode) = .ok assorted :=
    ((hiff assorted).2 isPortable_assorted).1
  refine ⟨hvalue, (hread _ assorted hvalue).2.2, isNormal_rootDisk, ?_, ?_⟩
  · have hbuilt : ∃ result,
        (build .rootDisk [.new "/var" 5] 1 .standard ⟨fun _ => 0, 0⟩).1.result = .ok result :=
      ⟨_, rfl⟩
    obtain ⟨result, hresult⟩ := hbuilt
    exact ⟨result, hresult, hbuild _ _ _ _ _ result isNormal_rootDisk hresult⟩
  · have hbuilt : ∃ result,
        (buildCustom ⟨0, none, none, none⟩ .standard ⟨fun _ => 0, 0⟩).1.result = .ok result :=
      ⟨_, rfl⟩
    obtain ⟨result, hresult⟩ := hbuilt
    exact ⟨result, hresult, hcustom _ _ _ result hresult⟩

end PartitionTable

/-! ### Customizations, profiles and flattened layouts -/

/-- Customizations, profiles whose table is in normal form, and flattened layouts are read back from
what is written of them, provided their numbers fit their fields. -/
theorem documents_roundTrip :
    (∀ customizations : Customizations, customizations.Fits →
      Customizations.decode.ReadsBack customizations.encode customizations) ∧
    (∀ profile : ImageProfile, profile.baseTable.IsNormal → profile.Fits →
      ImageProfile.decode.ReadsBack profile.encode profile) ∧
    ∀ layout : FlattenedLayout, layout.Fits →
      FlattenedLayout.decode.ReadsBack layout.encode layout := by
  refine ⟨?_, ?_, ?_⟩
  · intro customizations hfits
    exact Decoder.Reads.readsBack fun _ => Customizations.reads hfits
  · intro profile hnormal hfits
    exact Decoder.Reads.readsBack fun _ => ImageProfile.reads hnormal hfits
  · intro layout hfits
    exact Decoder.Reads.readsBack fun _ => FlattenedLayout.reads hfits

/-- A mountpoint, and a partitioning with a logical volume and an empty section. -/
def Customizations.assorted : Customizations where
  filesystem := [⟨"/var", 5, some "data", none⟩]
  partitioning := some
    { minSize := Size.gibibyte
      plain := some []
      lvm := some [⟨"", 7, [⟨"", ⟨"/home", 1, none, some .ext4⟩⟩]⟩]
      btrfs := none }

/-- A disk image and a logical volume on it, with mounts with and without options. -/
def FlattenedLayout.assorted : FlattenedLayout where
  mounts := [
    ⟨"-", .xfs, "lv", "/", none, none⟩,
    ⟨"boot", .btrfs, diskDevice, "/boot", some 2, some ⟨none, none⟩⟩]
  devices := TextMap.ofList [
    (diskDevice, .disk "image.raw"),
    ("lv", .ofVolume "root" 1)]

theorem Customizations.fits_assorted : Customizations.assorted.Fits where
  filesystem := List.forall_mem_singleton.2 (by decide : 5 < Size.limit)
  partitioning request hrequest := by
    obtain rfl := Option.some.inj hrequest
    refine ⟨by decide, nofun, ?_, nofun⟩
    refine List.forall_mem_singleton.2 ⟨by decide, List.forall_mem_singleton.2 ?_⟩
    exact (by decide : 1 < Size.limit)

theorem FlattenedLayout.fits_assorted : FlattenedLayout.assorted.Fits where
  mounts := by
    refine List.forall_mem_cons.2 ⟨nofun, List.forall_mem_singleton.2 fun number hnumber => ?_⟩
    obtain rfl := Option.some.inj hnumber
    decide
  devices := by
    have hentries : assorted.devices.entries =
        [(diskDevice, .disk "image.raw"), ("lv", .ofVolume "root" 1)] := rfl
    rw [hentries]
    refine List.forall_mem_cons.2 ⟨trivial, List.forall_mem_singleton.2 fun number hnumber => ?_⟩
    obtain rfl := Option.some.inj hnumber
    decide

theorem documents_roundTrip_assorted :
    Customizations.decode.ReadsBack Customizations.assorted.encode .assorted ∧
    ImageProfile.decode.ReadsBack (ImageProfile.ofBase .assorted).encode (.ofBase .assorted) ∧
    FlattenedLayout.decode.ReadsBack FlattenedLayout.assorted.encode .assorted := by
  obtain ⟨hcustomizations, hprofile, hlayout⟩ := documents_roundTrip
  have htable : PartitionTable.assorted.IsNormal ∧ PartitionTable.assorted.Fits :=
    PartitionTable.isPortable_assorted
  have hfits : (ImageProfile.ofBase .assorted).Fits := ⟨htable.2, by decide, nofun⟩
  exact ⟨hcustomizations _ Customizations.fits_assorted, hprofile _ htable.1 hfits,
    hlayout _ FlattenedLayout.fits_assorted⟩

end DiskLayout
