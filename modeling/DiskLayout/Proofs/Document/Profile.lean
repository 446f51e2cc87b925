import DiskLayout.Document.Flattened
import DiskLayout.Proofs.Document.Table

/-!
# Profiles and flattened layouts are read back

Maps are read back whatever the order of their entries, since a map puts them in order itself.  The
options of a device carry no mark of their kind: those of a logical volume are read as what they are
because a disk image must name its file.

## Main definitions

* `ImageProfile.Fits`, `FlattenedLayout.Fits` — the numbers in a document fit their fields

## Main results

* `TextMap.reads` — a map is read back
* `ImageProfile.reads` — a profile is read back
* `DeviceOptions.reads` — the options of a device are read back as those of its kind
* `FlattenedLayout.reads` — a flattened layout is read back
-/

namespace DiskLayout

variable {bound : Nat}

/-! ### Maps -/

/-- A map is read back if each of its values is. -/
theorem TextMap.reads {α : Type} {encode : α → Value} {decode : Decoder α} {map : TextMap α}
    (h : ∀ entry ∈ map.entries, decode.Reads bound (encode entry.2) entry.2) :
    (TextMap.decode decode).Reads bound (map.encode encode) map := by
  intro source hshows hbound
  have hdistinct :
      ((map.entries.map fun entry => (entry.1, encode entry.2)).map Prod.fst).Nodup := by
    rw [List.map_map]
    exact map.nodup_keys
  obtain ⟨others, sources, hperm, hsources, hparts⟩ := hshows.entries? hdistinct
  -- The entries that are read are those of the map in some order, each with its value encoded.
  obtain ⟨entries, rfl, hentries⟩ := exists_of_perm_map hperm
  have hall : Decoder.allEntries decode sources = .ok entries := by
    have hread : ∀ entry ∈ entries, decode.Reads bound (encode entry.2) entry.2 :=
      fun entry hentry => h entry (hentries.mem_iff.1 hentry)
    rw [List.forall₂_map_right_iff] at hparts
    clear hsources hshows hperm hentries
    induction hparts with
    | nil => rfl
    | @cons part entry _ _ hpart _ ih =>
      obtain ⟨key, content⟩ := part
      obtain ⟨rfl, hshow, hdepth⟩ := hpart
      rw [List.forall_mem_cons] at hread
      have hwithin : content.depth ≤ bound := Nat.le_of_lt (Nat.lt_of_lt_of_le hdepth hbound)
      rw [Decoder.allEntries, hread.1 content hshow hwithin, ih hread.2]
      rfl
  have hdecode : Decoder.entries decode source = .ok entries := by
    rw [Decoder.entries, hsources]
    exact hall
  rw [TextMap.decode, hdecode]
  exact congrArg Except.ok (ofList_of_perm hentries)

/-! ### Profiles -/

theorem PathRule.reads (rule : PathRule) :
    PathRule.fields.closed.Reads bound rule.encode rule := by
  refine Fields.Reads.closed ?_ (by decide)
  exact (Fields.Reads.map PathRule.mk (.withDefault "exact" false (.bool _))).seq
    (.withDefault "deny" false (.bool _))

theorem MountPolicy.reads (policy : MountPolicy) :
    MountPolicy.decode.Reads bound policy.encode policy :=
  .map (TextMap.reads fun entry _ => PathRule.reads entry.2)

theorem Architecture.reads (architecture : Architecture) :
    Architecture.decode.Reads bound architecture.encode architecture := by
  have hname : ofName? architecture.name = some architecture := by
    cases architecture <;> decide
  intro source hshows hbound
  rw [decode, Decoder.Reads.text _ source hshows hbound, ok_bind, hname]
  rfl

theorem Platform.reads (platform : Platform) :
    Platform.decode.Reads bound platform.encode platform := by
  have hmode : BootMode.ofName? platform.bootMode.name = some platform.bootMode := by
    cases platform.bootMode <;> decide
  refine Fields.Reads.closed ?_ (by decide)
  exact ((Fields.Reads.map Platform.mk (.withDefault "arch" .amd64 (Architecture.reads _))).seq
    (.withDefault "bootMode" .hybrid (.named hmode))).seq
    (.optionalText "uefiVendor" fun vendor _ => .text vendor)

/-- Whether the numbers in a profile fit their fields. -/
structure ImageProfile.Fits (profile : ImageProfile) : Prop where
  baseTable : profile.baseTable.Fits
  minSize : profile.minSize < Size.limit
  requiredSizes : ∀ entry ∈ profile.requiredSizes.entries, entry.2 < Size.limit

namespace ImageProfile

/-- A profile whose table is in normal form and whose numbers fit is read back from every source
that shows what is written of it. -/
theorem reads {profile : ImageProfile} (hnormal : profile.baseTable.IsNormal)
    (hfits : profile.Fits) : ImageProfile.decode.Reads bound profile.encode profile := by
  have hmode : PartitioningMode.ofName? profile.mode.name = some profile.mode := by
    cases profile.mode <;> decide
  have hsizes : (TextMap.decode Size.decode).Reads bound (profile.requiredSizes.encode Size.encode)
      profile.requiredSizes :=
    TextMap.reads fun entry hentry => Size.reads (hfits.requiredSizes entry hentry)
  have hname : Fields.Reads bound (.optional "name" Decoder.text)
      [.whenSome "name" .text profile.name] profile.name :=
    .optionalText "name" fun name _ => .text name
  have hfields := (((((((hname.map ImageProfile.mk).seq
    (.required "basePartitionTable" (PartitionTable.reads hnormal hfits.baseTable))).seq
    (.withDefault "minSize" 0 (Size.reads hfits.minSize))).seq
    (.withDefault "partitioningMode" .autoLvm (.named hmode))).seq
    (.withDefault "requiredSizes" defaultRequiredSizes hsizes)).seq
    (.withDefault "mountpointPolicy" MountPolicy.standard profile.policy.reads)).seq
    (.withDefault "platform" Platform.standard profile.platform.reads)).seq
    (.withDefault "defaultFsType" .xfs profile.defaultFilesystem.reads)
  exact hfields.closed (show ["name", "basePartitionTable", "minSize", "partitioningMode",
    "requiredSizes", "mountpointPolicy", "platform", "defaultFsType"].Nodup by decide)

end ImageProfile

/-! ### Flattened layouts -/

namespace DeviceOptions

/-- Whether the number of a partition in the options of a device fits its field. -/
def Fits : DeviceOptions → Prop
  | loopback _ _ => True
  | logicalVolume _ groupPartition => ∀ number, groupPartition = some number → number < Size.limit

theorem loopback_reads (filename : String) (partscan : Bool) :
    loopbackFields.closed.Reads bound (loopback filename partscan).encode
      (loopback filename partscan) := by
  refine Fields.Reads.closed ?_ (by decide)
  exact (Fields.Reads.map loopback (.required "filename" (.text _))).seq
    (.unlessDefault "partscan" (fun h => by simpa using h) (.bool _))

theorem logicalVolume_read {volume : String} {groupPartition : Option Nat}
    (h : (logicalVolume volume groupPartition).Fits) :
    Fields.Reads bound logicalVolumeFields
      [.always "volume" (.text volume), .whenSome "vg_partnum" .number groupPartition]
      (logicalVolume volume groupPartition) :=
  (Fields.Reads.map logicalVolume (.required "volume" (.text _))).seq
    (.optionalNumber "vg_partnum" h)

/-- A disk image must name its file. -/
theorem loopbackFields_refuse {written : Written} (closed : Bool)
    (h : ∀ number, written.find? "filename" number = none) :
    ∃ refusal, loopbackFields.decodeWritten closed written = .error refusal := by
  have hfilename : (Fields.required "filename" Decoder.text).decode 0 written =
      .error ⟨written.size, Refusal.silent⟩ := by
    rw [Fields.required, Fields.field]
    dsimp only
    rw [h 0]
  obtain ⟨placed, hplaced⟩ : ∃ placed, loopbackFields.decode 0 written = .error placed := by
    change ∃ placed, Fields.combine
      (((Fields.required "filename" Decoder.text).decode 0 written).map loopback)
      ((Fields.withDefault "partscan" false Decoder.bool).decode 1 written) = .error placed
    rw [hfilename]
    cases (Fields.withDefault "partscan" false Decoder.bool).decode 1 written with
    | error second => exact ⟨_, rfl⟩
    | ok partscan => exact ⟨_, rfl⟩
  rw [Fields.decodeWritten, hplaced]
  cases written.strayPlace? closed loopbackFields.names with
  | none => exact ⟨_, rfl⟩
  | some place =>
    rw [Fields.conclude]
    split
    · exact ⟨_, rfl⟩
    · exact ⟨_, rfl⟩

/-- The options of a device are read back as those of the same kind. -/
theorem reads {options : DeviceOptions} (h : options.Fits) :
    DeviceOptions.decode.Reads bound options.encode options := by
  intro source hshows hbound
  obtain ⟨kept, hkept, hkeptShows, hdepth⟩ := hshows.keep?
  cases options with
  | loopback filename partscan =>
    have hloopback : loopbackFields.closed (.kept kept) = .ok (loopback filename partscan) :=
      loopback_reads filename partscan _ hkeptShows (Nat.le_of_eq hdepth)
    simp only [decode, hkept, Decoder.require, ok_bind, hloopback]
  | logicalVolume volume groupPartition =>
    have hread : Fields.Reads source.depth logicalVolumeFields
        [.always "volume" (.text volume), .whenSome "vg_partnum" .number groupPartition]
        (logicalVolume volume groupPartition) := logicalVolume_read h
    obtain ⟨sources, hsources, hpresents⟩ :=
      hkeptShows.presents (hread.distinct (by decide)) (Nat.le_of_eq hdepth)
    -- Disk images are tried first, and nothing here is called like the file of one.
    have hfilename : "filename" ∉ sources.map Prod.fst := by
      intro hmem
      obtain ⟨part, hpart, hname⟩ := List.mem_map.1 hmem
      obtain ⟨entry, hentry, hkey⟩ := List.mem_map.1 (hpresents.named part hpart)
      have hfield := hread.name_mem hentry
      rw [hkey, hname] at hfield
      exact absurd hfield (by decide)
    obtain ⟨refusal, hrefusal⟩ := loopbackFields_refuse true
      (Written.find?_named_eq_none hfilename)
    have hloopback : loopbackFields.closed (.kept kept) = .error refusal := by
      rw [Fields.closed, Written.ofSource?, hsources]
      exact hrefusal
    have hvolume : logicalVolumeFields.closed (.kept kept) =
        .ok (logicalVolume volume groupPartition) :=
      hread.closed (by decide) _ hkeptShows (Nat.le_of_eq hdepth)
    simp only [decode, hkept, Decoder.require, ok_bind, hloopback, hvolume]

end DeviceOptions

theorem Device.reads {device : Device} (h : device.options.Fits) :
    Device.decode.Reads bound device.encode device := by
  have hkind : DeviceKind.ofName? device.kind.name = some device.kind := by
    cases device.kind <;> decide
  refine Fields.Reads.lenient ?_ (by decide)
  exact ((Fields.Reads.map Device.mk (.required "type" (.named hkind))).seq
    (.optionalText "parent" fun parent _ => .text parent)).seq
    (.required "options" (DeviceOptions.reads h))

theorem MountOptions.encode_ne_null (options : MountOptions) : options.encode ≠ .null := nofun

theorem MountOptions.reads (options : MountOptions) :
    MountOptions.fields.closed.Reads bound options.encode options := by
  refine Fields.Reads.closed ?_ (by decide)
  exact (Fields.Reads.map MountOptions.mk
    (.optionalText "subvol" fun subvolume _ => .text subvolume)).seq
    (.optionalText "compress" fun compress _ => .text compress)

theorem Mount.reads {mount : Mount}
    (h : ∀ number, mount.partition = some number → number < Size.limit) :
    Mount.decode.Reads bound mount.encode mount := by
  have hkind : MountKind.ofName? mount.kind.name = some mount.kind := by
    cases mount.kind <;> decide
  refine Fields.Reads.lenient ?_ (by decide)
  have hoptions : ∀ options, mount.options = some options → options.encode ≠ .null ∧
      MountOptions.fields.closed.Reads bound options.encode options := fun options _ =>
    ⟨MountOptions.encode_ne_null options, MountOptions.reads options⟩
  exact (((((Fields.Reads.map Mount.mk (.required "name" (.text _))).seq
    (.required "type" (.named hkind))).seq
    (.required "source" (.text _))).seq
    (.required "target" (.text _))).seq
    (.optionalNumber "partition" h)).seq
    (.optional "options" hoptions)

/-- Whether the numbers of partitions in a flattened layout fit their fields. -/
structure FlattenedLayout.Fits (layout : FlattenedLayout) : Prop where
  mounts : ∀ mount ∈ layout.mounts, ∀ number, mount.partition = some number → number < Size.limit
  devices : ∀ entry ∈ layout.devices.entries, entry.2.options.Fits

/-- A flattened layout whose numbers fit is read back from every source that shows what is written
of it. -/
theorem FlattenedLayout.reads {layout : FlattenedLayout} (h : layout.Fits) :
    FlattenedLayout.decode.Reads bound layout.encode layout := by
  refine Fields.Reads.lenient ?_ (by decide)
  exact (Fields.Reads.map FlattenedLayout.mk
    (.required "mounts" (.sequence fun mount hmount => Mount.reads (h.mounts mount hmount)))).seq
    (.required "devices" (TextMap.reads fun entry hentry => Device.reads (h.devices entry hentry)))

end DiskLayout
