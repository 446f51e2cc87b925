import DiskLayout.Proofs.Flattening.Built
import DiskLayout.Proofs.Flattening.Devices
import DiskLayout.Proofs.Path.Canonical

/-!
# Names of mounts

A mount is named after its target: the separator at the start is left out, and a dash stands for
each of the others.  A path may have dashes of its own, so mounts with different targets can have
the same name.  Beside the name of the root, which is a dash alone, that happens exactly where the
targets differ in nothing but dashes and separators.

## Main definitions

* `dashed` — a path with dashes in place of its separators

## Main results

* `mountName_eq_iff` — mountpoints whose mounts have the same name
* `flatten_names_perm` — the names of the mounts of a flattened table
* `flatten_names` — when the names of the mounts of a flattened table are distinct
-/

namespace DiskLayout

open Flattening

/-- A path with dashes in place of its separators. -/
def dashed (path : String) : String :=
  String.ofList (path.toList.map fun c => if c = '/' then '-' else c)

/-! ### The name of one mount -/

theorem toList_dashed (path : String) :
    (dashed path).toList = path.toList.map fun c => if c = '/' then '-' else c :=
  String.toList_ofList

/-- Paths without dashes of their own are told apart by dashes. -/
theorem eq_of_dashed_eq {first second : String} (hfirst : '-' ∉ first.toList)
    (hsecond : '-' ∉ second.toList) (h : dashed first = dashed second) : first = second := by
  -- Every dash that such a path has after the change was a separator.
  have hback : ∀ path : String, '-' ∉ path.toList →
      ((dashed path).toList.map fun c => if c = '-' then '/' else c) = path.toList := by
    intro path hpath
    rw [toList_dashed, List.map_map, List.map_congr_left (g := id), List.map_id]
    intro c hc
    have hne : c ≠ '-' := fun h => hpath (h ▸ hc)
    by_cases hslash : c = '/' <;> simp [hslash, hne]
  rw [← String.toList_inj, ← hback first hfirst, ← hback second hsecond, h]

section Mountpoints

variable {path first second : String}

/-- Below the root, the path with dashes is the name of its mount behind one more dash. -/
theorem toList_dashed_eq_cons (hpath : checkMountpoint path = .ok ()) (hroot : path ≠ Path.root) :
    (dashed path).toList = '-' :: (mountName path).toList := by
  obtain ⟨first, rest, hchars, hfirst⟩ := exists_tail_of_checkMountpoint hpath hroot
  rw [mountName, if_neg hroot, withoutLeadingSlashes, toList_dashed, hchars, String.toList_ofList]
  simp [hfirst]

/-- Below the root, the same name means the same path but for dashes and separators. -/
theorem mountName_eq_iff_of_ne_root (hfirst : checkMountpoint first = .ok ())
    (hsecond : checkMountpoint second = .ok ()) (hfirstRoot : first ≠ Path.root)
    (hsecondRoot : second ≠ Path.root) :
    mountName first = mountName second ↔ dashed first = dashed second := by
  have hdashed : dashed first = dashed second ↔ (dashed first).toList = (dashed second).toList :=
    String.toList_inj.symm
  rw [hdashed, toList_dashed_eq_cons hfirst hfirstRoot, toList_dashed_eq_cons hsecond hsecondRoot,
    List.cons.injEq, and_iff_right rfl, String.toList_inj]

/-- Below the root, one path alone has a mount with the name of the root. -/
theorem mountName_eq_mountName_root_iff (hpath : checkMountpoint path = .ok ())
    (hroot : path ≠ Path.root) : mountName path = mountName Path.root ↔ path = "/-" := by
  constructor
  · intro hname
    obtain ⟨first, rest, hchars, hfirst⟩ := exists_tail_of_checkMountpoint hpath hroot
    have hdashed := toList_dashed_eq_cons hpath hroot
    rw [hname, toList_dashed, hchars] at hdashed
    -- The path has one character behind the separator, and that is a dash.
    have hsplit : first = '-' ∧ rest = [] := by
      simpa [mountName, hfirst] using hdashed
    rw [← String.toList_inj, hchars, hsplit.1, hsplit.2]
    rfl
  · rintro rfl
    decide

/-- But for the one path that has the name of the root, mounts have the same name exactly if their
paths differ in nothing but dashes and separators. -/
theorem mountName_eq_iff (hfirst : checkMountpoint first = .ok ())
    (hsecond : checkMountpoint second = .ok ()) (hfirstDash : first ≠ "/-")
    (hsecondDash : second ≠ "/-") :
    mountName first = mountName second ↔ dashed first = dashed second := by
  -- The root has one character, and every other path has more.
  have hshort : ∀ path, checkMountpoint path = .ok () → path ≠ Path.root →
      dashed path ≠ dashed Path.root := by
    intro path hpath hroot h
    obtain ⟨first, rest, hchars, -⟩ := exists_tail_of_checkMountpoint hpath hroot
    have hlength := congrArg (fun text : String => text.toList.length) h
    simp [toList_dashed, hchars, Path.root] at hlength
  by_cases hfirstRoot : first = Path.root
  · subst hfirstRoot
    by_cases hsecondRoot : second = Path.root
    · simp [hsecondRoot]
    · rw [eq_comm, mountName_eq_mountName_root_iff hsecond hsecondRoot, eq_comm (a := dashed _)]
      exact iff_of_false hsecondDash (hshort second hsecond hsecondRoot)
  · by_cases hsecondRoot : second = Path.root
    · subst hsecondRoot
      rw [mountName_eq_mountName_root_iff hfirst hfirstRoot]
      exact iff_of_false hfirstDash (hshort first hfirst hfirstRoot)
    · exact mountName_eq_iff_of_ne_root hfirst hsecond hfirstRoot hsecondRoot

end Mountpoints

/-- The names of the mounts at some mountpoints are distinct exactly if the mountpoints can be told
apart without a difference between dashes and separators. -/
theorem nodup_map_mountName_iff {mountpoints : List String}
    (hvalid : ∀ mountpoint ∈ mountpoints, checkMountpoint mountpoint = .ok ())
    (hdash : "/-" ∉ mountpoints) :
    (mountpoints.map mountName).Nodup ↔ (mountpoints.map dashed).Nodup := by
  have hne : ∀ {mountpoint}, mountpoint ∈ mountpoints → mountpoint ≠ "/-" := by
    rintro _ hmem rfl
    exact hdash hmem
  refine List.pairwise_map.trans (Iff.trans ?_ List.pairwise_map.symm)
  refine List.Pairwise.iff_of_mem fun hfirst hsecond => not_congr ?_
  exact mountName_eq_iff (hvalid _ hfirst) (hvalid _ hsecond) (hne hfirst) (hne hsecond)

/-- Paths without dashes of their own stay distinct. -/
theorem nodup_map_dashed {paths : List String} (hdistinct : paths.Nodup)
    (hdash : ∀ path ∈ paths, '-' ∉ path.toList) : (paths.map dashed).Nodup :=
  List.Nodup.map_on (fun first hfirst second hsecond =>
    eq_of_dashed_eq (hdash first hfirst) (hdash second hsecond)) hdistinct

/-! ### The names of a layout -/

theorem Flattening.Contributes.name_eq {table : PartitionTable} {visit : Visit}
    {contribution : Contribution} (h : Contributes table visit contribution) :
    ∀ mount ∈ contribution.mounts, mount.name = mountName mount.target := by
  intro mount hmount
  cases h with
  | filesystem _ _ => rw [List.mem_singleton.1 hmount]; rfl
  | subvolume _ _ => rw [List.mem_singleton.1 hmount]; rfl
  | volumeFilesystem _ _ _ _ => rw [List.mem_singleton.1 hmount]; rfl
  | _ => exact absurd hmount List.not_mem_nil

section Flatten

variable {table : PartitionTable} {filename : String} {platform : Platform}
  {layout : FlattenedLayout}

/-- The mounts of a flattened table are named after their targets. -/
theorem flatten_name_eq (h : (table.flatten filename platform).result = .ok layout) :
    ∀ mount ∈ layout.mounts, mount.name = mountName mount.target := by
  obtain ⟨-, -, contributions, hall, rfl⟩ := PartitionTable.flatten_eq_ok h
  intro mount hmount
  obtain ⟨contribution, hcontribution, hmem⟩ := List.mem_flatMap.1 (List.mem_mergeSort.1 hmount)
  obtain ⟨visit, -, hvisit⟩ := exists_of_forall₂ hall.flip hcontribution
  exact hvisit.name_eq mount hmem

/-- The names of the mounts of a flattened table are those of its mountpoints. -/
theorem flatten_names_perm (hdistinct : table.mountpoints.Nodup)
    (h : (table.flatten filename platform).result = .ok layout) :
    (layout.mounts.map Mount.name).Perm (table.mountpoints.map mountName) := by
  have hnames : layout.mounts.map Mount.name =
      (layout.mounts.map Mount.target).map mountName := by
    rw [List.map_map]
    exact List.map_congr_left (flatten_name_eq h)
  rw [hnames]
  exact (flatten_targets hdistinct h).1.map mountName

/-- Two mounts of a flattened table below the root have the same name exactly if their targets
differ in nothing but dashes and separators.  So if nothing is mounted at the one path that takes
the name of the root, the names are distinct exactly if the mountpoints still are when dashes stand
for separators; and they are distinct if no mountpoint has a dash of its own. -/
theorem flatten_names (hvalid : table.validate.result = .ok ())
    (h : (table.flatten filename platform).result = .ok layout) :
    (∀ first ∈ layout.mounts, ∀ second ∈ layout.mounts,
      first.target ≠ Path.root → second.target ≠ Path.root →
      (first.name = second.name ↔ dashed first.target = dashed second.target)) ∧
    ("/-" ∉ table.mountpoints →
      ((layout.mounts.map Mount.name).Nodup ↔ (table.mountpoints.map dashed).Nodup)) ∧
    ((∀ mountpoint ∈ table.mountpoints, '-' ∉ mountpoint.toList) →
      (layout.mounts.map Mount.name).Nodup) := by
  have hstructured := PartitionTable.wellStructured_of_validate hvalid
  have hmountpoints : ∀ mountpoint ∈ table.mountpoints, checkMountpoint mountpoint = .ok () :=
    fun _ => hstructured.checkMountpoint_of_mem
  -- The mounts are sorted, but whether names are distinct does not depend on their order.
  have hnames := flatten_names_perm hstructured.mountpoints_distinct h
  have hnodup : "/-" ∉ table.mountpoints →
      ((layout.mounts.map Mount.name).Nodup ↔ (table.mountpoints.map dashed).Nodup) :=
    fun hdash => hnames.nodup_iff.trans (nodup_map_mountName_iff hmountpoints hdash)
  refine ⟨fun first hfirst second hsecond hfirstRoot hsecondRoot => ?_, hnodup, fun hdash => ?_⟩
  · have htarget : ∀ mount ∈ layout.mounts, checkMountpoint mount.target = .ok () := by
      intro mount hmount
      have htargets := (flatten_targets hstructured.mountpoints_distinct h).1
      exact hmountpoints _ (htargets.subset (List.mem_map_of_mem hmount))
    rw [flatten_name_eq h first hfirst, flatten_name_eq h second hsecond]
    exact mountName_eq_iff_of_ne_root (htarget first hfirst) (htarget second hsecond) hfirstRoot
      hsecondRoot
  · have hroot : "/-" ∉ table.mountpoints := fun hmem => hdash _ hmem (by decide)
    exact (hnodup hroot).2 (nodup_map_dashed hstructured.mountpoints_distinct hdash)

end Flatten

/-! ### Plain disks -/

/-- A disk with a filesystem of one gibibyte at each of some mountpoints. -/
def PartitionTable.plainDisk (mountpoints : List String) : PartitionTable :=
  { PartitionTable.empty .gpt with
    partitions := mountpoints.map fun mountpoint =>
      .new Size.gibibyte .linuxGeneric (some (.filesystem (.new .xfs mountpoint))) }

theorem PartitionTable.plainDisk_mountable (mountpoints : List String) :
    (plainDisk mountpoints).Mountable := by
  refine mountable_iff_partitions.2 (List.forall_mem_map.2 fun mountpoint _ => ?_)
  rintro _ ⟨⟩
  simp [Node.Mountable, Filesystem.new]

theorem flatten_names_plainDisk :
    ∃ layout, ((PartitionTable.plainDisk [Path.root, "/srv/www", "/srv-mail"]).flatten "disk.img"
        ⟨.amd64, .legacy, none⟩).result = .ok layout ∧ (layout.mounts.map Mount.name).Nodup := by
  obtain ⟨layout, hlayout⟩ : ∃ layout,
      ((PartitionTable.plainDisk [Path.root, "/srv/www", "/srv-mail"]).flatten "disk.img"
        ⟨.amd64, .legacy, none⟩).result = .ok layout :=
    (PartitionTable.plainDisk_mountable _).exists_layout (by decide) "disk.img"
  obtain ⟨-, hnodup, -⟩ := flatten_names rfl hlayout
  exact ⟨layout, hlayout, (hnodup (by decide)).2 (by decide)⟩

/-- A path with a dash and one with a separator in its place share a name, in a table that is valid
and is flattened. -/
theorem flatten_names_shared :
    ∃ layout, (PartitionTable.plainDisk [Path.root, "/srv-www", "/srv/www"]).validate.result =
        .ok () ∧
      ((PartitionTable.plainDisk [Path.root, "/srv-www", "/srv/www"]).flatten "disk.img"
        ⟨.amd64, .legacy, none⟩).result = .ok layout ∧
      ¬ (layout.mounts.map Mount.name).Nodup := by
  obtain ⟨layout, hlayout⟩ : ∃ layout,
      ((PartitionTable.plainDisk [Path.root, "/srv-www", "/srv/www"]).flatten "disk.img"
        ⟨.amd64, .legacy, none⟩).result = .ok layout :=
    (PartitionTable.plainDisk_mountable _).exists_layout (by decide) "disk.img"
  refine ⟨layout, rfl, hlayout, ?_⟩
  rw [(flatten_names_perm (by decide) hlayout).nodup_iff]
  decide

end DiskLayout
