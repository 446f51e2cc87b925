import DiskLayout.Proofs.Document.Size
import DiskLayout.Proofs.Table.NormalForm

/-!
# Partition tables are read back

A table in normal form whose numbers fit their fields is read back from what is written of it, with
the entries of every record in any order and however deeply payloads are nested: a payload is read
with a bound on the depth of what it is read from, and what is inside is nested less deeply.  Every
table that is read from a document is in normal form and has numbers that fit.

## Main results

* `Payload.reads`, `PartitionTable.reads` — a payload, a table is read back
* `Payload.decode_yields`, `PartitionTable.decode_yields` — what is read from any document
-/

namespace DiskLayout

variable {bound : Nat}

/-! ### Names and identifiers -/

theorem Uuid.reads (uuid : Uuid) : Uuid.decode.Reads bound uuid.encode uuid := by
  intro source hshows hbound
  rw [decode, Decoder.Reads.text _ source hshows hbound, ok_bind, parse?_render]
  rfl

theorem VolumeId.reads {id : VolumeId} (h : id.IsNormal) :
    VolumeId.decode.Reads bound id.encode id := by
  intro source hshows hbound
  rw [decode, decodeIn, Decoder.Reads.text _ source hshows hbound, ok_bind]
  exact congrArg Except.ok (ofText_toText h)

theorem PartitionType.reads {type : PartitionType} (h : type.IsNormal) :
    PartitionType.decode.Reads bound type.encode type := by
  intro source hshows hbound
  rw [decode, decodeIn, Decoder.Reads.text _ source hshows hbound, ok_bind,
    show parseIn? .standard type.render = some type from parse?_render h]
  rfl

theorem FilesystemType.reads (type : FilesystemType) :
    FilesystemType.decode.Reads bound type.encode type :=
  Decoder.Reads.labelled type.ofName?_name

theorem TableKind.reads (kind : TableKind) : TableKind.decode.Reads bound kind.encode kind := by
  refine Decoder.Reads.named ?_
  cases kind <;> decide

/-! ### Payloads without parts inside -/

theorem Filesystem.reads {system : Filesystem} (h : (Node.filesystem system).IsPortable) :
    Filesystem.fields.closed.Reads bound system.encode system := by
  obtain ⟨hid, hfreq, hpass⟩ := h
  refine Fields.Reads.closed ?_ (by decide)
  exact ((((((Fields.Reads.map Filesystem.mk (.required "type" (FilesystemType.reads _))).seq
    (.optionalText "uuid" fun id hsome => VolumeId.reads (hid id hsome))).seq
    (.optionalText "label" fun label _ => .text label)).seq
    (.required "mountpoint" (.text _))).seq
    (.withDefault "fstabOptions" defaultFstabOptions (.text _))).seq
    (.unlessDefault "fstabFreq" eq_of_beq (.natural hfreq))).seq
    (.unlessDefault "fstabPassNo" eq_of_beq (.natural hpass))

theorem Swap.reads {space : Swap} (h : (Node.swap space).IsPortable) :
    Swap.fields.closed.Reads bound space.encode space := by
  refine Fields.Reads.closed ?_ (by decide)
  exact ((Fields.Reads.map Swap.mk
    (.optionalText "uuid" fun id hsome => VolumeId.reads (h.1 id hsome))).seq
    (.optionalText "label" fun label _ => .text label)).seq
    (.withDefault "fstabOptions" defaultFstabOptions (.text _))

theorem Subvolume.reads {volume : Subvolume} (h : (Node.subvolume volume).IsPortable) :
    Subvolume.fields.closed.Reads bound volume.encode volume := by
  refine Fields.Reads.closed ?_ (by decide)
  exact (((Fields.Reads.map Subvolume.mk (.required "name" (.text _))).seq
    (.required "mountpoint" (.text _))).seq
    (.withDefault "size" 0 (Size.reads h.2))).seq
    (.optionalText "compress" fun compress _ => .text compress)

theorem Btrfs.reads {volume : Btrfs} (h : (Payload.btrfs volume).All Node.IsPortable) :
    Btrfs.decode.Reads bound volume.encode volume := by
  obtain ⟨⟨hid, hsize⟩, hsubvolumes⟩ := Payload.all_btrfs.1 h
  refine Fields.Reads.closed ?_ (by decide)
  exact (((Fields.Reads.map Btrfs.mk
    (.optionalText "uuid" fun id hsome => VolumeId.reads (hid id hsome))).seq
    (.optionalText "label" fun label _ => .text label)).seq
    (.withDefault "size" 0 (Size.reads hsize))).seq
    (.withDefault "subvolumes" [] (.sequence fun volume hvolume =>
      Subvolume.reads (hsubvolumes volume hvolume)))

/-! ### Payloads with payloads inside -/

theorem encodeLogicalVolumes_eq_map (volumes : List LogicalVolume) :
    encodeLogicalVolumes volumes = volumes.map LogicalVolume.encode := by
  induction volumes with
  | nil => rfl
  | cons volume others ih => rw [encodeLogicalVolumes, List.map_cons, ih]

theorem Payload.encode_ne_null (payload : Payload) : payload.encode ≠ .null := by
  cases payload <;> exact nofun

theorem encodeOptionalPayload_eq (payload : Option Payload) :
    encodeOptionalPayload payload = .whenSome "payload" Payload.encode payload := by
  cases payload <;> rfl

section Inside

variable {inner : Decoder Payload}

theorem LogicalVolume.reads {volume : LogicalVolume} (hsize : volume.size < Size.limit)
    (hinner : ∀ payload, volume.payload = some payload →
      inner.Reads bound payload.encode payload) :
    (LogicalVolume.fields inner).closed.Reads bound volume.encode volume := by
  obtain ⟨name, size, payload⟩ := volume
  rw [encode, encodeOptionalPayload_eq]
  refine Fields.Reads.closed ?_ (show ["name", "size", "payload"].Nodup by decide)
  exact ((Fields.Reads.map LogicalVolume.mk (.withDefault "name" "" (.text _))).seq
    (.required "size" (Size.reads hsize))).seq
    (.optional "payload" fun payload hsome => ⟨payload.encode_ne_null, hinner payload hsome⟩)

theorem VolumeGroup.reads {group : VolumeGroup}
    (hvolumes : ∀ volume ∈ group.logicalVolumes,
      (LogicalVolume.fields inner).closed.Reads bound volume.encode volume) :
    (VolumeGroup.fields inner).closed.Reads bound group.encode group := by
  obtain ⟨name, description, volumes⟩ := group
  rw [encode, encodeLogicalVolumes_eq_map]
  refine Fields.Reads.closed ?_ (show ["name", "description", "logicalVolumes"].Nodup by decide)
  exact ((Fields.Reads.map VolumeGroup.mk (.withDefault "name" "" (.text _))).seq
    (.unlessDefault "description" eq_of_beq (.text _))).seq
    (.withDefault "logicalVolumes" [] (.sequence hvolumes))

theorem Luks.reads {container : Luks} (h : (Node.luks container).IsPortable)
    (hinner : inner.Reads bound container.payload.encode container.payload) :
    (Luks.fields inner).closed.Reads bound container.encode container := by
  obtain ⟨uuid, label, cipher, payload⟩ := container
  rw [encode]
  refine Fields.Reads.closed ?_ (show ["uuid", "label", "cipher", "payload"].Nodup by decide)
  exact (((Fields.Reads.map Luks.mk
    (.optionalText "uuid" fun id hsome => VolumeId.reads (h.1 id hsome))).seq
    (.optionalText "label" fun label _ => .text label)).seq
    (.withDefault "cipher" defaultCipher (.text _))).seq
    (.required "payload" hinner)

end Inside

/-- Nothing that shows a value is nested zero deep. -/
theorem Decoder.Reads.zero {α : Type} (decode : Decoder α) (value : Value) (x : α) :
    decode.Reads 0 value x := fun _ hshows hbound =>
  absurd (Source.depth_pos_of_shows hshows) (by omega)

namespace Payload

/-- A payload is read back, however deeply payloads are nested in it. -/
theorem decodeWithin_reads {payload : Payload} (h : payload.All Node.IsPortable) (bound : Nat) :
    (decodeWithin bound).Reads bound payload.encode payload := by
  -- One level of the document is used up by the key that names the kind, and the payloads inside
  -- are read with what is left.
  induction bound generalizing payload with
  | zero => exact .zero _ _ _
  | succ bound ih =>
    cases payload with
    | filesystem system => exact .variant rfl (.map (Filesystem.reads (all_filesystem.1 h)))
    | volumeGroup group =>
      refine .variant rfl (.map (VolumeGroup.reads fun volume hvolume => ?_))
      obtain ⟨⟨-, hsize⟩, hinside⟩ := (all_volumeGroup.1 h).2 volume hvolume
      exact LogicalVolume.reads hsize fun payload hpayload => ih (hinside payload hpayload)
    | btrfs volume => exact .variant rfl (.map (Btrfs.reads h))
    | swap space => exact .variant rfl (.map (Swap.reads (all_swap.1 h)))
    | luks container =>
      obtain ⟨hcontainer, hinside⟩ := all_luks.1 h
      exact .variant rfl (.map (Luks.reads hcontainer (ih hinside)))

theorem reads {payload : Payload} (h : payload.All Node.IsPortable) :
    Payload.decode.Reads bound payload.encode payload := fun source hshows _ =>
  decodeWithin_reads h source.depth source hshows (Nat.le_refl _)

end Payload

/-! ### Partitions and tables -/

theorem Partition.reads {partition : Partition} (h : partition.IsPortable) :
    Partition.decode.Reads bound partition.encode partition := by
  obtain ⟨hkind, hsize, hpayload⟩ := h
  rw [encode, encodeOptionalPayload_eq]
  refine Fields.Reads.closed ?_ (by decide)
  exact ((((Fields.Reads.map Partition.mk (.required "size" (Size.reads hsize))).seq
    (.required "type" (PartitionType.reads hkind))).seq
    (.optionalText "uuid" fun uuid _ => Uuid.reads uuid)).seq
    (.unlessDefault "bootable" (fun h => by simpa using h) (.bool _))).seq
    (.optional "payload" fun payload hsome =>
      ⟨payload.encode_ne_null, Payload.reads (hpayload payload hsome)⟩)

/-- A table in normal form whose numbers fit is read back from every source that shows what is
written of it. -/
theorem PartitionTable.reads {table : PartitionTable} (hnormal : table.IsNormal)
    (hfits : table.Fits) : PartitionTable.decode.Reads bound table.encode table := by
  obtain ⟨huuid, hsize, hpartitions⟩ := isPortable_iff.1 ⟨hnormal, hfits⟩
  refine Fields.Reads.closed ?_ (by decide)
  exact (((Fields.Reads.map PartitionTable.mk
    (.optionalText "uuid" fun id hsome => VolumeId.reads (huuid id hsome))).seq
    (.withDefault "type" .gpt (TableKind.reads _))).seq
    (.withDefault "size" 0 (Size.reads hsize))).seq
    (.withDefault "partitions" [] (.sequence fun partition hpartition =>
      Partition.reads (hpartitions partition hpartition)))

/-! ### What is read -/

theorem VolumeId.decode_yields : VolumeId.decode.Yields VolumeId.IsNormal := by
  intro source id h
  obtain ⟨text, -, hid⟩ := bind_eq_ok.1 h
  cases hid
  exact isNormal_ofText text

theorem PartitionType.decode_yields : PartitionType.decode.Yields PartitionType.IsNormal := by
  intro source type h
  obtain ⟨text, -, htype⟩ := bind_eq_ok.1 h
  split at htype
  · rename_i hparse
    cases htype
    exact isNormal_of_parse? hparse
  · cases htype

theorem Size.decode_yields : Size.decode.Yields (· < Size.limit) := by
  intro source size h
  rw [decode] at h
  split at h
  · rename_i text _
    cases hparse : parse text with
    | error error =>
      rw [hparse] at h
      cases h
    | ok parsed =>
      rw [hparse] at h
      cases h
      exact lt_limit_of_parse hparse
  · split at h
    · rename_i hrange
      cases h
      show Int.toNat _ < limit
      omega
    · cases h
  · cases h
  · cases h

section Yields

open Fields.Yields

theorem Filesystem.fields_yield :
    Filesystem.fields.Yields fun system => (Node.filesystem system).IsPortable := by
  have hnumber : (Decoder.natural wordLimit).Yields (· < wordLimit) := .natural wordLimit
  refine seq (seq (seq (seq (seq (seq (map ?_ (anything _)) (optional VolumeId.decode_yields))
    (anything _)) (anything _)) (anything _)) (withDefault (by decide) hnumber))
    (withDefault (by decide) hnumber)
  intro _ _ uuid huuid _ _ _ _ _ _ freq hfreq pass hpass
  exact ⟨huuid, hfreq, hpass⟩

theorem Swap.fields_yield : Swap.fields.Yields fun space => (Node.swap space).IsPortable := by
  refine seq (seq (map ?_ (optional VolumeId.decode_yields)) (anything _)) (anything _)
  intro uuid huuid _ _ _ _
  exact ⟨huuid, trivial⟩

theorem Subvolume.fields_yield :
    Subvolume.fields.Yields fun volume => (Node.subvolume volume).IsPortable := by
  refine seq (seq (seq (map ?_ (anything _)) (anything _))
    (withDefault (by decide) Size.decode_yields)) (anything _)
  intro _ _ _ _ size hsize _ _
  exact ⟨trivial, hsize⟩

theorem Btrfs.fields_yield :
    Btrfs.fields.Yields fun volume => (Payload.btrfs volume).All Node.IsPortable := by
  refine seq (seq (seq (map ?_ (optional VolumeId.decode_yields)) (anything _))
    (withDefault (by decide) Size.decode_yields))
    (withDefault (by simp) (Subvolume.fields_yield.closed.sequence))
  intro uuid huuid _ _ size hsize subvolumes hsubvolumes
  exact Payload.all_btrfs.2 ⟨⟨huuid, hsize⟩, hsubvolumes⟩

variable {inner : Decoder Payload} (hinner : inner.Yields (Payload.All Node.IsPortable))

include hinner

theorem LogicalVolume.fields_yield :
    (LogicalVolume.fields inner).Yields (LogicalVolume.All Node.IsPortable) := by
  refine seq (seq (map ?_ (anything _)) (required Size.decode_yields)) (optional hinner)
  intro _ _ size hsize payload hpayload
  exact ⟨⟨trivial, hsize⟩, hpayload⟩

theorem VolumeGroup.fields_yield :
    (VolumeGroup.fields inner).Yields fun group =>
      (Payload.volumeGroup group).All Node.IsPortable := by
  refine seq (seq (map ?_ (anything _)) (anything _))
    (withDefault (by simp) (LogicalVolume.fields_yield hinner).closed.sequence)
  intro _ _ _ _ volumes hvolumes
  exact Payload.all_volumeGroup.2 ⟨⟨trivial, trivial⟩, hvolumes⟩

theorem Luks.fields_yield :
    (Luks.fields inner).Yields fun container => (Payload.luks container).All Node.IsPortable := by
  refine seq (seq (seq (map ?_ (optional VolumeId.decode_yields)) (anything _)) (anything _))
    (required hinner)
  intro uuid huuid _ _ _ _ payload hpayload
  exact Payload.all_luks.2 ⟨⟨huuid, trivial⟩, hpayload⟩

/-- A payload of any kind can be written if the payloads inside can. -/
theorem Payload.decodeKind_yields (kind : String) (decode : Decoder Payload)
    (hkind : decodeKind inner kind = some decode) :
    decode.Yields (Payload.All Node.IsPortable) := by
  unfold decodeKind at hkind
  split at hkind
  · cases hkind
    exact .map fun source system h =>
      all_filesystem.2 (Filesystem.fields_yield.closed source system h)
  · cases hkind
    exact .map (VolumeGroup.fields_yield hinner).closed
  · cases hkind
    exact .map Btrfs.fields_yield.closed
  · cases hkind
    exact .map fun source space h => all_swap.2 (Swap.fields_yield.closed source space h)
  · cases hkind
    exact .map (Luks.fields_yield hinner).closed
  · cases hkind

end Yields

theorem Payload.decodeWithin_yields (depth : Nat) :
    (decodeWithin depth).Yields (Payload.All Node.IsPortable) := by
  induction depth with
  | zero => exact fun _ _ h => nomatch h
  | succ depth ih => exact .variant (decodeKind_yields ih)

theorem Payload.decode_yields : Payload.decode.Yields (Payload.All Node.IsPortable) :=
  fun source => decodeWithin_yields source.depth source

open Fields.Yields in
theorem Partition.decode_yields : Partition.decode.Yields Partition.IsPortable := by
  refine Fields.Yields.closed (seq (seq (seq (seq (map ?_ (required Size.decode_yields))
    (required PartitionType.decode_yields)) (anything _)) (anything _))
    (optional Payload.decode_yields))
  intro size hsize kind hkind _ _ _ _ payload hpayload
  exact ⟨hkind, hsize, hpayload⟩

open Fields.Yields in
/-- Every table that is read is in normal form, and its numbers fit. -/
theorem PartitionTable.decode_yields :
    PartitionTable.decode.Yields fun table => table.IsNormal ∧ table.Fits := by
  refine Fields.Yields.closed (seq (seq (seq (map ?_ (optional VolumeId.decode_yields))
    (anything _)) (withDefault (by decide) Size.decode_yields))
    (withDefault (by simp) Partition.decode_yields.sequence))
  intro uuid huuid _ _ size hsize partitions hpartitions
  exact isPortable_iff.2 ⟨huuid, hsize, hpartitions⟩

end DiskLayout
