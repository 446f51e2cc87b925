import DiskLayout.Document.Customization
import DiskLayout.Proofs.Document.Table

/-!
# Customizations are read back

The fields of a logical volume's filesystem stand in one mapping with its name.  The name is read
first, with the other entries passed over, and the filesystem from what was kept of the others: what
is kept still shows the same values, and leaving the name out leaves the entries of the filesystem.

## Main definitions

* `Customizations.Fits` — the sizes in customizations fit 64 bits

## Main results

* `Source.Presents.keepAll` — what is kept of entries shows the same
* `LogicalVolumeRequest.reads` — two records in one mapping are read back
* `Customizations.reads` — customizations are read back
-/

namespace DiskLayout

variable {bound : Nat}

/-! ### Sizes that fit -/

/-- Whether the size in a mountpoint request fits its field. -/
def FilesystemRequest.Fits (request : FilesystemRequest) : Prop := request.minSize < Size.limit

/-- Whether the sizes in a volume group request fit their fields. -/
def VolumeGroupRequest.Fits (request : VolumeGroupRequest) : Prop :=
  request.minSize < Size.limit ∧ ∀ volume ∈ request.logicalVolumes, volume.filesystem.Fits

/-- Whether the size in a btrfs volume request fits its field. -/
def BtrfsRequest.Fits (request : BtrfsRequest) : Prop := request.minSize < Size.limit

/-- Whether the sizes in a partitioning request fit their fields. -/
structure PartitioningRequest.Fits (request : PartitioningRequest) : Prop where
  minSize : request.minSize < Size.limit
  plain : ∀ system ∈ request.plainFilesystems, system.Fits
  lvm : ∀ group ∈ request.volumeGroups, group.Fits
  btrfs : ∀ volume ∈ request.btrfsVolumes, volume.Fits

/-- Whether the sizes in customizations fit their fields. -/
structure Customizations.Fits (customizations : Customizations) : Prop where
  filesystem : ∀ request ∈ customizations.filesystem, request.Fits
  partitioning : ∀ request, customizations.partitioning = some request → request.Fits

/-! ### Two records in one mapping -/

namespace Source.Presents

variable {sources : List (String × Source)} {entries : List (String × Value)}

/-- Leaving out names leaves the other entries. -/
theorem filter (h : Presents bound sources entries) (keep : String → Bool) :
    Presents bound (sources.filter fun part => keep part.1)
      (entries.filter fun entry => keep entry.1) where
  distinct := (List.filter_sublist.map Prod.fst).nodup h.distinct
  shown entry hentry := by
    obtain ⟨hmem, hkeep⟩ := List.mem_filter.1 hentry
    obtain ⟨source, hsource, hshows⟩ := h.shown entry hmem
    exact ⟨source, List.mem_filter.2 ⟨hsource, hkeep⟩, hshows⟩
  named part hpart := by
    obtain ⟨hmem, hkeep⟩ := List.mem_filter.1 hpart
    obtain ⟨entry, hentry, hname⟩ := List.mem_map.1 (h.named part hmem)
    exact List.mem_map.2 ⟨entry, List.mem_filter.2 ⟨hentry, hname ▸ hkeep⟩, hname⟩

theorem exists_keep? (h : Presents bound sources entries) {part : String × Source}
    (hpart : part ∈ sources) : ∃ kept, part.2.keep? = some kept := by
  obtain ⟨entry, hentry, hname⟩ := List.mem_map.1 (h.named part hpart)
  obtain ⟨source, hsource, hshows, -⟩ := h.shown entry hentry
  have heq : (entry.1, source) = part := List.inj_on_of_nodup_map h.distinct hsource hpart hname
  obtain ⟨kept, hkept, -⟩ := hshows.keep?
  exact ⟨kept, heq ▸ hkept⟩

open LogicalVolumeRequest in
theorem keepAll_of_forall {sources : List (String × Source)}
    (h : ∀ part ∈ sources, ∃ kept, part.2.keep? = some kept) :
    ∃ others, keepAll sources = some others ∧
      List.Forall₂ (fun (other part : String × Source) => other.1 = part.1 ∧
        ∃ kept, part.2.keep? = some kept ∧ other.2 = .kept kept) others sources := by
  induction sources with
  | nil => exact ⟨[], rfl, .nil⟩
  | cons part rest ih =>
    rw [List.forall_mem_cons] at h
    obtain ⟨kept, hkept⟩ := h.1
    obtain ⟨others, hothers, hkeeps⟩ := ih h.2
    refine ⟨(part.1, .kept kept) :: others, ?_, .cons ⟨rfl, kept, hkept, rfl⟩ hkeeps⟩
    rw [keepAll, hkept, hothers]
    rfl

/-- What is kept of entries shows the same. -/
theorem keepAll (h : Presents bound sources entries) :
    ∃ others, LogicalVolumeRequest.keepAll sources = some others ∧
      Presents bound others entries := by
  obtain ⟨others, hothers, hkeeps⟩ := keepAll_of_forall fun _ hpart => h.exists_keep? hpart
  have hkeys : others.map Prod.fst = sources.map Prod.fst :=
    (map_eq_of_forall₂ (fun _ _ hkeep => hkeep.1.symm) hkeeps).symm
  refine ⟨others, hothers, hkeys ▸ h.distinct, fun entry hentry => ?_, fun part hpart => ?_⟩
  · obtain ⟨source, hsource, hshows, hdepth⟩ := h.shown entry hentry
    obtain ⟨⟨name, other⟩, hother, hname, kept, hkept, rfl⟩ := exists_of_forall₂ hkeeps.flip hsource
    obtain ⟨found, hfound, hfoundShows, hfoundDepth⟩ := hshows.keep?
    obtain rfl := Option.some.inj (hkept.symm.trans hfound)
    exact ⟨.kept kept, hname ▸ hother, hfoundShows, by omega⟩
  · have hmem : part.1 ∈ sources.map Prod.fst := hkeys ▸ List.mem_map_of_mem hpart
    obtain ⟨source, hsource, hname⟩ := List.mem_map.1 hmem
    exact hname ▸ h.named source hsource

end Source.Presents

/-! ### Mountpoint requests -/

theorem FilesystemRequest.fields_read {request : FilesystemRequest} (h : request.Fits) :
    Fields.Reads bound FilesystemRequest.fields request.entries request :=
  (((Fields.Reads.map FilesystemRequest.mk (.required "mountpoint" (.text _))).seq
    (.withDefault "minsize" 0 (Size.reads h))).seq
    (.optionalText "label" fun label _ => .text label)).seq
    (.optionalText "type" fun type _ => FilesystemType.reads type)

theorem FilesystemRequest.reads {request : FilesystemRequest} (h : request.Fits) :
    FilesystemRequest.decode.Reads bound request.encode request :=
  (fields_read h).closed (by decide)

/-- No entry of a filesystem is called like the name of a logical volume. -/
theorem FilesystemRequest.ne_name {request : FilesystemRequest} (h : request.Fits)
    {entry : String × Value} (hentry : entry ∈ request.entries.filterMap Entry.written?) :
    entry.1 ≠ "name" := by
  have hread : Fields.Reads 0 FilesystemRequest.fields request.entries request := fields_read h
  have hname : entry.1 ∈ FilesystemRequest.fields.names := hread.name_mem hentry
  intro hne
  rw [hne] at hname
  exact absurd hname (by decide)

/-- A logical volume is read back: its name and its filesystem from one mapping. -/
theorem LogicalVolumeRequest.reads {request : LogicalVolumeRequest}
    (h : request.filesystem.Fits) :
    LogicalVolumeRequest.decode.Reads bound request.encode request := by
  intro source hshows hbound
  let first : Entry := .always "name" (.text request.name)
  let rest := request.filesystem.entries
  have hother : ∀ entry ∈ rest.filterMap Entry.written?, entry.1 ≠ "name" := fun _ hentry =>
    FilesystemRequest.ne_name h hentry
  have hfirst : Fields.Reads bound nameField [first] request.name :=
    .withDefault "name" "" (.text _)
  have hrest : Fields.Reads bound FilesystemRequest.fields rest request.filesystem :=
    FilesystemRequest.fields_read h
  have hdistinct : ((([first] ++ rest).filterMap Entry.written?).map Prod.fst).Nodup := by
    rw [List.filterMap_append, List.map_append]
    refine List.nodup_cons.2 ⟨fun hmem => ?_, hrest.distinct (by decide)⟩
    obtain ⟨entry, hentry, hname⟩ := List.mem_map.1 hmem
    exact hother entry hentry hname
  change source.Shows (.mapping (([first] ++ rest).filterMap Entry.written?)) at hshows
  obtain ⟨sources, hsources, hpresents⟩ := hshows.presents hdistinct hbound
  have hname : nameField.decodeWritten false (.named sources) = .ok request.name :=
    hfirst.decodeWritten (by decide) hpresents
      (fun entry hentry hmem => hother entry hentry (List.mem_singleton.1 hmem)) nofun
  -- Without the name, the entries of the filesystem are left.
  have hfilter : (([first] ++ rest).filterMap Entry.written?).filter
      (fun entry => entry.1 != "name") = rest.filterMap Entry.written? := by
    rw [List.filterMap_append, List.filter_append]
    refine List.filter_eq_self.2 fun entry hentry => ?_
    exact bne_iff_ne.2 (hother entry hentry)
  obtain ⟨others, hothers, hkept⟩ := (hpresents.filter (· != "name")).keepAll
  rw [hfilter] at hkept
  have hsystem : FilesystemRequest.fields.decodeWritten false (.named others) =
      .ok request.filesystem :=
    hrest.decodeRecord (by decide) hkept
  simp only [decode, hsources, Decoder.require, ok_bind, hname, hothers, hsystem]
  rfl

/-! ### Sections and documents -/

theorem VolumeGroupRequest.reads {request : VolumeGroupRequest} (h : request.Fits) :
    VolumeGroupRequest.fields.closed.Reads bound request.encode request := by
  refine Fields.Reads.closed ?_ (by decide)
  exact ((Fields.Reads.map VolumeGroupRequest.mk (.withDefault "name" "" (.text _))).seq
    (.withDefault "minsize" 0 (Size.reads h.1))).seq
    (.withDefault "logical_volumes" [] (.sequence fun volume hvolume =>
      LogicalVolumeRequest.reads (h.2 volume hvolume)))

theorem SubvolumeRequest.reads (request : SubvolumeRequest) :
    SubvolumeRequest.fields.closed.Reads bound request.encode request := by
  refine Fields.Reads.closed ?_ (by decide)
  exact (Fields.Reads.map SubvolumeRequest.mk (.required "name" (.text _))).seq
    (.required "mountpoint" (.text _))

theorem BtrfsRequest.reads {request : BtrfsRequest} (h : request.Fits) :
    BtrfsRequest.fields.closed.Reads bound request.encode request := by
  refine Fields.Reads.closed ?_ (by decide)
  exact (Fields.Reads.map BtrfsRequest.mk (.withDefault "minsize" 0 (Size.reads h))).seq
    (.withDefault "subvolumes" [] (.sequence fun subvolume _ => SubvolumeRequest.reads subvolume))

namespace PartitioningRequest

/-- A section is read back if each of its items is. -/
theorem section_reads {α : Type} (name : String) {encode : α → Value} {decode : Decoder α}
    {items : List α} (h : ∀ item ∈ items, decode.Reads bound (encode item) item) :
    encodeSection name encode items ≠ .null ∧
      (decodeSection name decode).Reads bound (encodeSection name encode items) items :=
  ⟨nofun, Fields.Reads.closed (.withDefault name [] (.sequence h)) (List.nodup_singleton name)⟩

theorem reads {request : PartitioningRequest} (h : request.Fits) :
    PartitioningRequest.decode.Reads bound request.encode request := by
  obtain ⟨hsize, hplain, hlvm, hbtrfs⟩ := h
  refine Fields.Reads.closed ?_ (by decide)
  have hminSize : Fields.Reads bound (.withDefault "minsize" 0 Size.decode)
      [.always "minsize" (Size.encode request.minSize)] request.minSize :=
    .withDefault "minsize" 0 (Size.reads hsize)
  refine (((hminSize.map PartitioningRequest.mk).seq
    (.optional "plain" fun systems hsystems =>
      section_reads "filesystems" fun system hsystem => ?_)).seq
    (.optional "lvm" fun groups hgroups =>
      section_reads "volume_groups" fun group hgroup => ?_)).seq
    (.optional "btrfs" fun volumes hvolumes =>
      section_reads "volumes" fun volume hvolume => ?_)
  · exact FilesystemRequest.reads (hplain system (by rwa [plainFilesystems, hsystems]))
  · exact VolumeGroupRequest.reads (hlvm group (by rwa [volumeGroups, hgroups]))
  · exact BtrfsRequest.reads (hbtrfs volume (by rwa [btrfsVolumes, hvolumes]))

end PartitioningRequest

/-- Customizations whose sizes fit are read back from every source that shows what is written of
them. -/
theorem Customizations.reads {customizations : Customizations} (h : customizations.Fits) :
    Customizations.decode.Reads bound customizations.encode customizations := by
  refine Fields.Reads.closed ?_ (by decide)
  exact (Fields.Reads.map Customizations.mk
    (.unlessDefault "filesystem" List.isEmpty_iff.1 (.sequence fun request hrequest =>
      FilesystemRequest.reads (h.filesystem request hrequest)))).seq
    (.optional "partitioning" fun request hrequest =>
      ⟨nofun, PartitioningRequest.reads (h.partitioning request hrequest)⟩)

end DiskLayout
