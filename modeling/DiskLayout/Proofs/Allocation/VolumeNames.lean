import DiskLayout.Proofs.Allocation.CustomShape
import DiskLayout.Proofs.Allocation.CustomStructure
import DiskLayout.Proofs.Table.Naming

/-!
# Names of logical volumes

A generated name is one that no volume of the group has, and there is one until all candidates for a
mountpoint are taken.  A requested volume group is laid out with the names that are given, and the
others are generated one after the other, that of an added root last.  So every volume has a name of
its own, and a name that is given stays with the volume for which it is given.

## Main results

* `VolumeGroup.generateName_eq_error_iff` — the groups in which nothing is left for a mountpoint
* `buildCustom_names_distinct` — the names in the volume group of a custom table
* `buildCustom_group_answered` — the volumes of a requested group stand where they are requested
* `volumeNames_never_clash` — logical volumes never have the same name
-/

namespace DiskLayout

open Custom

/-! ### One name -/

namespace VolumeGroup

variable {group : VolumeGroup} {mountpoint name : String}

/-- A generated name is not empty, and no volume of the group has it. -/
theorem generateName_fresh (h : group.generateName mountpoint = .ok name) :
    name ≠ "" ∧ ∀ volume ∈ group.logicalVolumes, volume.name ≠ name := by
  have hfree := generateName_eq_ok.1 h
  refine ⟨ne_empty_of_mem_candidates (mem_of_freeName? hfree), fun volume hvolume hname => ?_⟩
  exact not_mem_of_freeName? hfree (hname ▸ List.mem_map_of_mem hvolume)

/-- No name is generated exactly if volumes have the base of the mountpoint and all of its one
hundred numbered forms. -/
theorem generateName_eq_error_iff :
    (∃ error, group.generateName mountpoint = .error error) ↔
      group.isTaken (candidateBase mountpoint) = true ∧
        ∀ n < 100, group.isTaken (candidateBase mountpoint ++ twoDigits n) = true := by
  have htaken : (∀ name ∈ candidates mountpoint, group.isTaken name = true) ↔
      group.isTaken (candidateBase mountpoint) = true ∧
        ∀ n < 100, group.isTaken (candidateBase mountpoint ++ twoDigits n) = true := by
    simp [candidates, candidateBase]
  rw [← htaken, generateName]
  cases hfind : (candidates mountpoint).find? fun name => !group.isTaken name with
  | none => exact iff_of_true ⟨_, rfl⟩ (by simpa using hfind)
  | some name =>
    have hmem := List.mem_of_find?_eq_some hfind
    have hfree := List.find?_some hfind
    refine iff_of_false (by simp) fun hall => ?_
    simp [hall name hmem] at hfree

/-- A group of at most one hundred volumes leaves a name for every mountpoint. -/
theorem exists_generateName (h : group.logicalVolumes.length ≤ 100) (mountpoint : String) :
    ∃ name, group.generateName mountpoint = .ok name := by
  have hlength : (group.logicalVolumes.map LogicalVolume.name).length ≤ 100 := by
    rwa [List.length_map]
  obtain ⟨name, hfree⟩ := exists_freeName? hlength mountpoint
  exact ⟨name, generateName_eq_ok.2 hfree⟩

end VolumeGroup

/-! ### The names in a built table -/

section Built

variable {request : PartitioningRequest} {options : CustomOptions} {source : RandomSource}
  {result : PartitionTable}

/-- The logical volumes of a custom table have distinct names, and none is empty. -/
theorem buildCustom_names_distinct
    (h : (buildCustom request options source).1.result = .ok result) {group : VolumeGroup}
    (hgroup : .volumeGroup group ∈ result.nodes) :
    "" ∉ group.logicalVolumes.map LogicalVolume.name ∧
      (group.logicalVolumes.map LogicalVolume.name).Nodup := by
  obtain ⟨table, hassemble, hfinished, -⟩ := buildCustom_eq_ok h
  obtain ⟨hvalid, -⟩ := assembleCustom_eq_ok_iff.1 hassemble
  have hsound := PartitioningRequest.validate_eq_ok.1 hvalid
  have hassembled : ∀ node ∈ table.nodes, ∀ group, node = .volumeGroup group →
      "" ∉ group.logicalVolumes.map LogicalVolume.name ∧
        (group.logicalVolumes.map LogicalVolume.name).Nodup := by
    refine forall_mem_nodes_customAssembled hassemble ?_ ?_ ?_
    · rintro _ hother group rfl
      cases hother
    · rintro requested hrequested volumes hvolumes _ ⟨⟩
      obtain ⟨hdistinct, hgiven⟩ :=
        volumeGroup_names (hsound.groups requested hrequested) hvolumes
      refine ⟨fun hempty => ?_, hdistinct⟩
      obtain ⟨volume, hvolume, hname⟩ := List.mem_map.1 hempty
      exact hgiven volume hvolume hname
    · rintro _ _ _ _ _ ⟨⟩
  -- Sizing and identification keep every name.
  obtain ⟨old, hold, hsame⟩ :=
    exists_of_forall₂ (PartitionTable.nodes_resemble hfinished.resembles).flip hgroup
  cases hsame with
  | volumeGroup hpayload =>
    have hname : ∀ old new, LogicalVolume.Resembles (· ≤ ·) old new → new.name = old.name :=
      fun _ _ hvolume => (LogicalVolume.resembles_iff.1 hvolume).1.name
    rw [map_eq_of_forall₂ hname (Payload.resembles_volumeGroup.1 hpayload).2]
    exact hassembled _ hold _ rfl

/-- The volumes of a requested group stand in the built table where they stand in the request, with
the names that are given. -/
theorem buildCustom_group_answered
    (h : (buildCustom request options source).1.result = .ok result)
    {asked : VolumeGroupRequest} (hasked : asked ∈ request.volumeGroups) :
    ∃ group, .volumeGroup group ∈ result.nodes ∧
      ∀ (index : Nat) (requested : LogicalVolumeRequest),
        asked.logicalVolumes[index]? = some requested →
        ∃ volume, group.logicalVolumes[index]? = some volume ∧
          requested.AnsweredBy options.defaultFilesystem volume := by
  obtain ⟨table, hassemble, hfinished, -⟩ := buildCustom_eq_ok h
  obtain ⟨partition, hmem, volumes, hpayload, hvolumes⟩ := customAssembled_group hassemble hasked
  obtain ⟨-, described, root, hsplit, hanswered, -⟩ := volumeGroup_eq_ok hvolumes
  have hnode : .volumeGroup volumes ∈ table.nodes :=
    (Payload.all_volumeGroup.1 (PartitionTable.payload_all_mem_nodes hmem hpayload)).1
  obtain ⟨built, hbuilt, hsame⟩ :=
    exists_of_forall₂ (PartitionTable.nodes_resemble hfinished.resembles) hnode
  cases hsame with
  | @volumeGroup _ group hresembles =>
    refine ⟨group, hbuilt, fun index requested hrequested => ?_⟩
    obtain ⟨old, hold, hdescribes⟩ := getElem?_of_forall₂ hanswered hrequested
    -- A volume for the root is added behind the requested ones, which keep their places.
    have hfront : volumes.logicalVolumes[index]? = some old := by
      rw [hsplit, List.getElem?_append_left (List.getElem?_eq_some_iff.1 hold).1, hold]
    obtain ⟨volume, hvolume, hsame⟩ :=
      getElem?_of_forall₂ (Payload.resembles_volumeGroup.1 hresembles).2 hfront
    exact ⟨volume, hvolume, hdescribes.answeredBy hsame⟩

end Built

/-- Logical volumes never have the same name.  A generated name is not empty and new to its group,
and there is none only where all candidates are taken, which calls for more than one hundred
volumes.  In a table built from a partitioning request the names in the volume group are distinct
and not empty, and every volume that is requested with a name keeps it. -/
theorem volumeNames_never_clash :
    (∀ (group : VolumeGroup) (mountpoint : String),
      (∀ name, group.generateName mountpoint = .ok name →
        name ≠ "" ∧ ∀ volume ∈ group.logicalVolumes, volume.name ≠ name) ∧
      ((∃ error, group.generateName mountpoint = .error error) ↔
        group.isTaken (VolumeGroup.candidateBase mountpoint) = true ∧
          ∀ n < 100, group.isTaken
            (VolumeGroup.candidateBase mountpoint ++ VolumeGroup.twoDigits n) = true) ∧
      (group.logicalVolumes.length ≤ 100 →
        ∃ name, group.generateName mountpoint = .ok name)) ∧
    ∀ (request : PartitioningRequest) (options : CustomOptions) (source : RandomSource)
      (result : PartitionTable), (buildCustom request options source).1.result = .ok result →
      (∀ group, .volumeGroup group ∈ result.nodes →
        "" ∉ group.logicalVolumes.map LogicalVolume.name ∧
          (group.logicalVolumes.map LogicalVolume.name).Nodup) ∧
      ∀ asked ∈ request.volumeGroups, ∃ group, .volumeGroup group ∈ result.nodes ∧
        ∀ (index : Nat) (requested : LogicalVolumeRequest),
          asked.logicalVolumes[index]? = some requested →
          ∃ volume, group.logicalVolumes[index]? = some volume ∧
            requested.AnsweredBy options.defaultFilesystem volume := by
  constructor
  · intro group mountpoint
    exact ⟨fun _ => VolumeGroup.generateName_fresh, VolumeGroup.generateName_eq_error_iff,
      fun hlength => VolumeGroup.exists_generateName hlength mountpoint⟩
  · intro request options source result h
    exact ⟨fun _ => buildCustom_names_distinct h, fun _ => buildCustom_group_answered h⟩

/-- A request for two logical volumes, of which one is given the name that suits the other. -/
def PartitioningRequest.homeTwice : PartitioningRequest :=
  ⟨0, none, some [⟨"", 0, [⟨"homelv", .new "/srv" 0⟩, ⟨"", .new "/home" 0⟩]⟩], none⟩

theorem volumeNames_never_clash_homeTwice :
    (∃ name, (VolumeGroup.mk "rootvg" "" [⟨"homelv", 0, none⟩]).generateName "/home" = .ok name ∧
      name ≠ "homelv") ∧
    ∃ result, (buildCustom .homeTwice .biosDisk ⟨fun _ => 0, 0⟩).1.result = .ok result ∧
      ∃ group, .volumeGroup group ∈ result.nodes ∧
        (group.logicalVolumes.map LogicalVolume.name).Nodup ∧
        ∃ volume, group.logicalVolumes[0]? = some volume ∧ volume.name = "homelv" := by
  obtain ⟨hgenerated, hbuilt⟩ := volumeNames_never_clash
  constructor
  · obtain ⟨hfresh, -, htotal⟩ := hgenerated ⟨"rootvg", "", [⟨"homelv", 0, none⟩]⟩ "/home"
    obtain ⟨name, hname⟩ := htotal (by decide)
    exact ⟨name, hname, ((hfresh name hname).2 _ (List.mem_singleton_self _)).symm⟩
  · refine ⟨_, rfl, ?_⟩
    obtain ⟨hdistinct, hanswered⟩ := hbuilt .homeTwice .biosDisk ⟨fun _ => 0, 0⟩ _ rfl
    obtain ⟨group, hgroup, hvolumes⟩ := hanswered _ (List.mem_singleton_self _)
    obtain ⟨volume, hvolume, hrequested⟩ := hvolumes 0 _ rfl
    exact ⟨group, hgroup, (hdistinct group hgroup).2, volume, hvolume,
      hrequested.name (by decide)⟩

end DiskLayout
