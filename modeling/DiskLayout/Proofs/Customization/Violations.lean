import DiskLayout.Proofs.Customization.Partitioning
import DiskLayout.Proofs.Table.Validity

/-!
# Violated rules

The check of a partitioning request goes through the document once and remembers the mountpoints
and names that it has met.  What it reports can be said without that memory: the document poses a
list of rules, one for each thing that is asked for, and every rule that is violated is reported
once and in its place, whatever else is wrong.

Empty texts are reported as empty where they have to be given, and are no repetitions of each
other.

## Main definitions

* `Rule` — one rule about one part of a request, with what stands before it in the document
* `Rule.Violated`, `Rule.report` — whether a rule is violated, and how that is reported
* `PartitioningRequest.rules` — the rules of a request, in the order of the document

## Main results

* `PartitioningRequest.violations_eq_reports` — what the check collects
* `PartitioningRequest.validate_reports` — what it accepts, and what the leaves of its error are
-/

namespace DiskLayout

/-! ### Collections -/

/-- Errors that are collected are the leaves of the collection. -/
theorem LayoutError.leaves_of_check {errors : List LayoutError} {error : LayoutError}
    (hcheck : check errors = .error error) (h : ∀ leaf ∈ errors, leaf.leaves = [leaf]) :
    error.leaves = errors := by
  have hleaves := leaves_collect errors
  rw [check_eq_error.1 hcheck, List.flatMap_congr h, List.flatMap_singleton'] at hleaves
  exact hleaves

/-! ### Rules -/

/-- One rule about one part of a partitioning request. -/
inductive Rule where
  /-- Btrfs volumes and volume groups are not asked for together. -/
  | exclusive (btrfs lvm : Bool)
  /-- At most one container of a kind is asked for. -/
  | single (containers : String) (count : Nat)
  /-- A mountpoint is absolute and canonical. -/
  | mountable (what mountpoint : String)
  /-- A mountpoint or a name does not repeat one of those before it. -/
  | distinct (what place : String) (earlier : List String) (text : String)
  /-- What is mounted in a container need not be reached by a boot loader. -/
  | reachable (container mountpoint : String)
  /-- A plain filesystem for a boot loader has a type that the boot loader reads. -/
  | bootable (filesystem : FilesystemRequest)
  /-- A plain filesystem is not of type btrfs. -/
  | notBtrfs (filesystem : FilesystemRequest)
  /-- A name that is given to a group or a logical volume is one that volume managers take. -/
  | lvmName (what name : String)
  /-- A subvolume has a name. -/
  | named (name : String)

namespace Rule

/-- Whether a rule is violated. -/
def Violated : Rule → Prop
  | exclusive btrfs lvm => btrfs = true ∧ lvm = true
  | single _ count => 1 < count
  | mountable _ mountpoint =>
    ¬ (Path.isAbsolute mountpoint = true ∧ Path.isCanonical mountpoint = true)
  | distinct _ _ earlier text => text ≠ "" ∧ text ∈ earlier
  | reachable _ mountpoint => mountpoint ∈ Path.plainOnly
  | bootable filesystem =>
    (filesystem.mountpoint = Path.boot ∧
        ∃ kind ∈ filesystem.kind, ¬ (kind = .xfs ∨ kind = .ext4)) ∨
      (filesystem.mountpoint = Path.esp ∧ ∃ kind ∈ filesystem.kind, kind ≠ .vfat)
  | notBtrfs filesystem => filesystem.kind = some .btrfs
  | lvmName _ name => name ≠ "" ∧ LvmName.isValid name = false
  | named name => name = ""

instance : DecidablePred Violated := fun rule => by
  cases rule <;> unfold Violated <;> infer_instance

/-- How the violation of a rule is reported. -/
def report : Rule → LayoutError
  | exclusive _ _ => .unsupportedCombination "btrfs and lvm partitioning cannot be combined"
  | single containers _ =>
    .unsupportedCombination ("multiple " ++ containers ++ " are not yet supported")
  | mountable what mountpoint =>
    .invalidMountpoint ("invalid " ++ what ++ ": " ++
      (mountpointFault? mountpoint).elim "" MountpointFault.message)
  | distinct what place _ text =>
    .duplicateName ("duplicate " ++ what ++ " " ++ Quoted.quote text ++ place ++
      " in partitioning customizations")
  | reachable container mountpoint =>
    .invalidMountpoint ("invalid mountpoint " ++ Quoted.quote mountpoint ++ " for " ++ container)
  | bootable filesystem =>
    .unsupportedCombination ("invalid plain filesystem customization: " ++
      ("unsupported filesystem type for " ++ Quoted.quote filesystem.mountpoint ++ ": " ++
        filesystem.kind.elim "" FilesystemType.name))
  | notBtrfs _ =>
    .unsupportedCombination ("btrfs filesystem defined under plain partitioning " ++
      "customization: please use the \"btrfs\" customization to define btrfs volumes and " ++
      "subvolumes")
  | lvmName what name =>
    .invalidTable ("invalid " ++ what ++ ": " ++ ("invalid lvm name " ++ Quoted.quote name))
  | named _ => .invalidTable "btrfs subvolume with empty name in partitioning customizations"

/-- The reports of those rules that are violated, in order. -/
def reports (rules : List Rule) : List LayoutError :=
  (rules.filter fun rule => rule.Violated).map report

@[simp] theorem reports_append (rules others : List Rule) :
    reports (rules ++ others) = reports rules ++ reports others := by
  simp [reports]

theorem reports_flatMap {α : Type} (items : List α) (rules : α → List Rule) :
    reports (items.flatMap rules) = items.flatMap fun item => reports (rules item) := by
  induction items with
  | nil => rfl
  | cons item others ih => simp [ih]

/-- A check of one rule reports what it should if it is silent exactly where the rule is kept. -/
theorem toList_eq_reports {outcome : Option LayoutError} {rule : Rule}
    (hkept : ¬ rule.Violated → outcome = none)
    (hviolated : rule.Violated → outcome = some rule.report) :
    outcome.toList = reports [rule] := by
  by_cases h : rule.Violated
  · simp [reports, h, hviolated h]
  · simp [reports, h, hkept h]

theorem ite_eq_reports {violated : Prop} [Decidable violated] (rule : Rule)
    (h : violated ↔ rule.Violated) :
    (if violated then [rule.report] else []) = reports [rule] := by
  by_cases hviolated : violated
  · simp [reports, hviolated, h.1 hviolated]
  · simp [reports, hviolated, mt h.2 hviolated]

/-- A report is one error, and not a collection. -/
theorem leaves_report (rule : Rule) : rule.report.leaves = [rule.report] := by
  cases rule <;> rfl

end Rule

namespace PartitioningRequest

/-- The rules for a plain filesystem, given the mountpoints before it. -/
def plainRules (earlier : List String) (request : FilesystemRequest) : List Rule :=
  [.mountable "plain filesystem customization" request.mountpoint,
    .distinct "mountpoint" "" earlier request.mountpoint,
    .bootable request,
    .notBtrfs request]

/-- The rules for a logical volume of the group `group`, given the mountpoints before it and the
names before it in the group. -/
def logicalRules (group : String) (earlier names : List String) (request : LogicalVolumeRequest) :
    List Rule :=
  [.distinct "lvm logical volume name" (" in volume group " ++ Quoted.quote group) names
      request.name,
    .lvmName "logical volume customization" request.name,
    .mountable "logical volume customization" request.filesystem.mountpoint,
    .distinct "mountpoint" "" earlier request.filesystem.mountpoint,
    .reachable "logical volume" request.filesystem.mountpoint]

/-- The rules for a subvolume, given the mountpoints before it and the names before it in the
volume. -/
def subvolumeRules (earlier names : List String) (request : SubvolumeRequest) : List Rule :=
  [.named request.name,
    .distinct "btrfs subvolume name" "" names request.name,
    .mountable "btrfs subvolume customization" request.mountpoint,
    .distinct "mountpoint" "" earlier request.mountpoint,
    .reachable "btrfs subvolume" request.mountpoint]

end PartitioningRequest

/-- The mountpoints in a requested volume group. -/
def VolumeGroupRequest.mountpoints (group : VolumeGroupRequest) : List String :=
  group.logicalVolumes.map fun volume => volume.filesystem.mountpoint

/-- The mountpoints in a requested btrfs volume. -/
def BtrfsRequest.mountpoints (volume : BtrfsRequest) : List String :=
  volume.subvolumes.map SubvolumeRequest.mountpoint

namespace PartitioningRequest

/-- The rules for a volume group, given the mountpoints and the group names before it. -/
def groupRules (earlier names : List String) (group : VolumeGroupRequest) : List Rule :=
  [.distinct "volume group name" "" names group.name,
    .lvmName "volume group customization" group.name] ++
    group.logicalVolumes.zipIdx.flatMap fun entry =>
      logicalRules group.name (earlier ++ group.mountpoints.take entry.2)
        ((group.logicalVolumes.take entry.2).map LogicalVolumeRequest.name) entry.1

/-- The rules for a btrfs volume, given the mountpoints before it. -/
def btrfsRules (earlier : List String) (volume : BtrfsRequest) : List Rule :=
  volume.subvolumes.zipIdx.flatMap fun entry =>
    subvolumeRules (earlier ++ volume.mountpoints.take entry.2)
      ((volume.subvolumes.take entry.2).map SubvolumeRequest.name) entry.1

/-- The rules of a request, in the order of the document. -/
def rules (request : PartitioningRequest) : List Rule :=
  [.exclusive request.btrfs.isSome request.lvm.isSome,
    .single "btrfs volumes" request.btrfsVolumes.length,
    .single "LVM volume groups" request.volumeGroups.length] ++
    (request.plainFilesystems.zipIdx.flatMap fun entry =>
      plainRules (request.plainMountpoints.take entry.2) entry.1) ++
    (request.volumeGroups.zipIdx.flatMap fun entry =>
      groupRules
        (request.plainMountpoints ++
          (request.volumeGroups.take entry.2).flatMap VolumeGroupRequest.mountpoints)
        ((request.volumeGroups.take entry.2).map VolumeGroupRequest.name) entry.1) ++
    request.btrfsVolumes.zipIdx.flatMap fun entry =>
      btrfsRules
        (request.plainMountpoints ++ request.logicalMountpoints ++
          (request.btrfsVolumes.take entry.2).flatMap BtrfsRequest.mountpoints) entry.1

/-! ### Single requests -/

open Rule

theorem invalidMountpoint?_toList (what mountpoint : String) :
    (invalidMountpoint? what mountpoint).toList = reports [.mountable what mountpoint] := by
  have hvalid : (Rule.mountable what mountpoint).Violated ↔ ¬ mountpointFault? mountpoint = none :=
    not_congr (checkMountpoint_eq_ok.symm.trans mountpointFault?_eq_none.symm)
  refine toList_eq_reports (fun hkept => ?_) fun hviolated => ?_
  · rw [hvalid, not_not] at hkept
    rw [invalidMountpoint?, hkept]
    rfl
  · obtain ⟨fault, hfault⟩ := Option.ne_none_iff_exists'.1 (hvalid.1 hviolated)
    rw [invalidMountpoint?, report, hfault]
    rfl

theorem repeatedMountpoint?_toList (earlier : List String) (mountpoint : String) :
    (repeatedMountpoint? earlier mountpoint).toList =
      reports [.distinct "mountpoint" "" earlier mountpoint] := by
  unfold repeatedMountpoint?
  refine toList_eq_reports (fun hkept => ?_) fun hviolated => ?_
  · exact if_neg (by simpa [Violated] using hkept)
  · rw [if_pos (by simpa [Violated] using hviolated)]
    simp [report]

theorem unreachable?_toList (container mountpoint : String) :
    (unreachable? container mountpoint).toList = reports [.reachable container mountpoint] := by
  unfold unreachable?
  refine toList_eq_reports (fun hkept => ?_) fun hviolated => ?_
  · exact if_neg (by simpa [Violated] using hkept)
  · rw [if_pos (by simpa [Violated] using hviolated)]
    rfl

theorem typeViolation?_toList (request : FilesystemRequest) :
    (request.typeViolation?.map fun text => LayoutError.unsupportedCombination
      ("invalid plain filesystem customization: " ++ text)).toList =
      reports [.bootable request] := by
  have hdistinct : Path.boot ≠ Path.esp := by decide
  obtain ⟨mountpoint, size, label, kind⟩ := request
  unfold FilesystemRequest.typeViolation? FilesystemRequest.allowedTypes?
  -- Without a type, or at any other mountpoint, there is nothing to check.
  refine toList_eq_reports (fun hkept => ?_) fun hviolated => ?_
  · by_cases hboot : mountpoint = Path.boot
    · cases kind <;> simp_all [Violated, or_iff_not_imp_left]
    · by_cases hesp : mountpoint = Path.esp
      · cases kind <;> simp_all [Violated]
      · simp [hboot, hesp]
  · rcases hviolated with ⟨hboot, kind, hkind, hunread⟩ | ⟨hesp, kind, hkind, hunread⟩
    · simp_all [report]
    · simp_all [report, hdistinct.symm]

/-- A name is reported as invalid in the words of its rule. -/
theorem violation?_toList (what name : String) {head : String}
    (hhead : head = "invalid " ++ what ++ ": ") :
    ((LvmName.violation? name).map fun text => LayoutError.invalidTable (head ++ text)).toList =
      reports [.lvmName what name] := by
  subst hhead
  unfold LvmName.violation?
  refine toList_eq_reports (fun hkept => ?_) fun hviolated => ?_
  · rw [if_pos (by simpa [Violated, or_iff_not_imp_left] using hkept)]
    rfl
  · rw [if_neg (by simpa [Violated, not_or] using hviolated)]
    rfl

/-- A name is reported as repeated in the words of its rule. -/
theorem repeatedName_eq_reports (what place : String) (names : List String) (name : String)
    {text : String}
    (htext : text = "duplicate " ++ what ++ " " ++ Quoted.quote name ++ place ++
      " in partitioning customizations") :
    (if name ≠ "" ∧ names.contains name = true then [LayoutError.duplicateName text] else []) =
      reports [.distinct what place names name] := by
  subst htext
  refine ite_eq_reports (.distinct what place names name) ?_
  rw [List.contains_iff_mem]
  rfl

/-! ### Sections -/

/-- What is said of each item after those before it, along a list. -/
theorem eq_flatMap_zipIdx {α β : Type} (each : List α → α → List β)
    (visit : List α → List α → List β) (hnil : ∀ earlier, visit earlier [] = [])
    (hcons : ∀ earlier item others,
      visit earlier (item :: others) = each earlier item ++ visit (earlier ++ [item]) others)
    (items : List α) :
    visit [] items = items.zipIdx.flatMap fun entry => each (items.take entry.2) entry.1 := by
  suffices h : ∀ earlier others, visit earlier others =
      (others.zipIdx earlier.length).flatMap fun entry =>
        each ((earlier ++ others).take entry.2) entry.1 from h [] items
  intro earlier others
  induction others generalizing earlier with
  | nil => exact hnil earlier
  | cons item others ih =>
    have hsame : earlier ++ item :: others = (earlier ++ [item]) ++ others := by simp
    rw [hcons, ih, List.zipIdx_cons, List.flatMap_cons, List.take_left, hsame,
      List.length_append, List.length_singleton]

theorem plainViolations_eq_reports (earlier : List String) (request : FilesystemRequest) :
    plainViolations earlier request = reports (plainRules earlier request) := by
  have hbtrfs : (if request.kind = some .btrfs then [(Rule.notBtrfs request).report] else []) =
      reports [.notBtrfs request] := ite_eq_reports _ Iff.rfl
  unfold plainViolations
  rw [invalidMountpoint?_toList, repeatedMountpoint?_toList, typeViolation?_toList]
  change _ ++ (if request.kind = some .btrfs then [(Rule.notBtrfs request).report] else []) = _
  rw [hbtrfs, ← reports_append, ← reports_append, ← reports_append]
  rfl

theorem logicalViolations_eq_reports (group : String) (earlier names : List String)
    (request : LogicalVolumeRequest) :
    logicalViolations group earlier names request =
      reports (logicalRules group earlier names request) := by
  unfold logicalViolations
  rw [repeatedName_eq_reports "lvm logical volume name" (" in volume group " ++ Quoted.quote group),
    violation?_toList "logical volume customization", invalidMountpoint?_toList,
    repeatedMountpoint?_toList, unreachable?_toList, ← reports_append, ← reports_append,
    ← reports_append, ← reports_append]
  · rfl
  · simp
  · simp [String.append_assoc]

theorem subvolumeViolations_eq_reports (earlier names : List String)
    (request : SubvolumeRequest) :
    subvolumeViolations earlier names request = reports (subvolumeRules earlier names request) := by
  -- An empty name breaks one of the two rules for names and a repeated one the other, so asking
  -- for the second only where the first is kept leaves nothing out.
  have hname : (if request.name = "" then
        [LayoutError.invalidTable "btrfs subvolume with empty name in partitioning customizations"]
      else if names.contains request.name then
        [.duplicateName ("duplicate btrfs subvolume name " ++ Quoted.quote request.name ++
          " in partitioning customizations")]
      else []) =
      reports [.named request.name, .distinct "btrfs subvolume name" "" names request.name] := by
    by_cases hempty : request.name = ""
    · simp [reports, Violated, report, hempty]
    · by_cases hseen : request.name ∈ names <;> simp [reports, Violated, report, hempty, hseen]
  unfold subvolumeViolations
  rw [hname, invalidMountpoint?_toList, repeatedMountpoint?_toList, unreachable?_toList,
    ← reports_append, ← reports_append, ← reports_append]
  rfl

theorem allPlainViolations_eq_reports (request : PartitioningRequest) :
    allPlainViolations [] request.plainFilesystems =
      reports (request.plainFilesystems.zipIdx.flatMap fun entry =>
        plainRules (request.plainMountpoints.take entry.2) entry.1) := by
  rw [reports_flatMap]
  refine (eq_flatMap_zipIdx
    (fun before => plainViolations (before.map FilesystemRequest.mountpoint))
    (fun before => allPlainViolations (before.map FilesystemRequest.mountpoint))
    (fun _ => rfl) (fun before item others => ?_) request.plainFilesystems).trans ?_
  · simp [allPlainViolations]
  · refine List.flatMap_congr fun entry _ => ?_
    rw [plainViolations_eq_reports, plainMountpoints, List.map_take]

theorem allLogicalViolations_eq_reports (earlier : List String) (group : VolumeGroupRequest) :
    allLogicalViolations group.name earlier [] group.logicalVolumes =
      reports (group.logicalVolumes.zipIdx.flatMap fun entry =>
        logicalRules group.name (earlier ++ group.mountpoints.take entry.2)
          ((group.logicalVolumes.take entry.2).map LogicalVolumeRequest.name) entry.1) := by
  rw [reports_flatMap]
  let mountpoint : LogicalVolumeRequest → String := fun volume => volume.filesystem.mountpoint
  -- What the check remembers at an item is what stands before the item in the document.
  have hsplit := eq_flatMap_zipIdx
    (fun before => logicalViolations group.name (earlier ++ before.map mountpoint)
      (before.map LogicalVolumeRequest.name))
    (fun before => allLogicalViolations group.name (earlier ++ before.map mountpoint)
      (before.map LogicalVolumeRequest.name))
    (fun _ => rfl) (fun before item others => by simp [allLogicalViolations, mountpoint])
    group.logicalVolumes
  rw [List.map_nil, List.map_nil, List.append_nil] at hsplit
  rw [hsplit]
  refine List.flatMap_congr fun entry _ => ?_
  rw [logicalViolations_eq_reports, VolumeGroupRequest.mountpoints, List.map_take]

theorem groupViolations_eq_reports (earlier names : List String) (group : VolumeGroupRequest) :
    groupViolations earlier names group = reports (groupRules earlier names group) := by
  unfold groupViolations groupRules
  rw [repeatedName_eq_reports "volume group name" "",
    violation?_toList "volume group customization", allLogicalViolations_eq_reports,
    ← reports_append, ← reports_append]
  · rfl
  · simp
  · simp

theorem allGroupViolations_eq_reports (earlier : List String) (groups : List VolumeGroupRequest) :
    allGroupViolations earlier [] groups =
      reports (groups.zipIdx.flatMap fun entry =>
        groupRules (earlier ++ (groups.take entry.2).flatMap VolumeGroupRequest.mountpoints)
          ((groups.take entry.2).map VolumeGroupRequest.name) entry.1) := by
  rw [reports_flatMap]
  have hsplit := eq_flatMap_zipIdx
    (fun before => groupViolations (earlier ++ before.flatMap VolumeGroupRequest.mountpoints)
      (before.map VolumeGroupRequest.name))
    (fun before => allGroupViolations (earlier ++ before.flatMap VolumeGroupRequest.mountpoints)
      (before.map VolumeGroupRequest.name))
    (fun _ => rfl) (fun before item others => by
      simp [allGroupViolations, VolumeGroupRequest.mountpoints])
    groups
  rw [List.flatMap_nil, List.map_nil, List.append_nil] at hsplit
  rw [hsplit]
  exact List.flatMap_congr fun entry _ => groupViolations_eq_reports _ _ entry.1

theorem allSubvolumeViolations_eq_reports (earlier : List String) (volume : BtrfsRequest) :
    allSubvolumeViolations earlier [] volume.subvolumes = reports (btrfsRules earlier volume) := by
  unfold btrfsRules
  rw [reports_flatMap]
  have hsplit := eq_flatMap_zipIdx
    (fun before => subvolumeViolations (earlier ++ before.map SubvolumeRequest.mountpoint)
      (before.map SubvolumeRequest.name))
    (fun before => allSubvolumeViolations (earlier ++ before.map SubvolumeRequest.mountpoint)
      (before.map SubvolumeRequest.name))
    (fun _ => rfl) (fun before item others => by simp [allSubvolumeViolations])
    volume.subvolumes
  rw [List.map_nil, List.map_nil, List.append_nil] at hsplit
  rw [hsplit]
  refine List.flatMap_congr fun entry _ => ?_
  rw [subvolumeViolations_eq_reports, BtrfsRequest.mountpoints, List.map_take]

theorem allBtrfsViolations_eq_reports (earlier : List String) (volumes : List BtrfsRequest) :
    allBtrfsViolations earlier volumes =
      reports (volumes.zipIdx.flatMap fun entry =>
        btrfsRules (earlier ++ (volumes.take entry.2).flatMap BtrfsRequest.mountpoints)
          entry.1) := by
  rw [reports_flatMap]
  have hsplit := eq_flatMap_zipIdx
    (fun before volume => allSubvolumeViolations
      (earlier ++ before.flatMap BtrfsRequest.mountpoints) [] volume.subvolumes)
    (fun before => allBtrfsViolations (earlier ++ before.flatMap BtrfsRequest.mountpoints))
    (fun _ => rfl) (fun before item others => by
      simp [allBtrfsViolations, BtrfsRequest.mountpoints])
    volumes
  rw [List.flatMap_nil, List.append_nil] at hsplit
  rw [hsplit]
  exact List.flatMap_congr fun entry _ => allSubvolumeViolations_eq_reports _ entry.1

theorem combinationViolations_eq_reports (request : PartitioningRequest) :
    request.combinationViolations =
      reports [.exclusive request.btrfs.isSome request.lvm.isSome,
        .single "btrfs volumes" request.btrfsVolumes.length,
        .single "LVM volume groups" request.volumeGroups.length] := by
  have hexclusive : ∀ btrfs lvm, (if btrfs = true ∧ lvm = true then
      [(Rule.exclusive btrfs lvm).report] else []) = reports [.exclusive btrfs lvm] :=
    fun _ _ => ite_eq_reports _ Iff.rfl
  have hsingle : ∀ containers count, (if 1 < count then [(Rule.single containers count).report]
      else []) = reports [.single containers count] := fun _ _ => ite_eq_reports _ Iff.rfl
  calc request.combinationViolations
      = reports [.exclusive request.btrfs.isSome request.lvm.isSome] ++
          reports [.single "btrfs volumes" request.btrfsVolumes.length] ++
          reports [.single "LVM volume groups" request.volumeGroups.length] := by
        rw [← hexclusive, ← hsingle, ← hsingle]
        rfl
    _ = _ := by
        rw [← reports_append, ← reports_append]
        rfl

/-! ### The whole document -/

/-- The check collects the reports of the violated rules, in the order of the document. -/
theorem violations_eq_reports (request : PartitioningRequest) :
    request.violations = reports request.rules := by
  rw [violations, rules, combinationViolations_eq_reports, allPlainViolations_eq_reports,
    allGroupViolations_eq_reports, allBtrfsViolations_eq_reports, reports_append, reports_append,
    reports_append]

/-- A partitioning request is accepted exactly if it is sound, which is to say that it violates none
of its rules.  Otherwise the leaves of the error are the reports of the violated rules, in the order
of the document. -/
theorem validate_reports (request : PartitioningRequest) :
    (request.validate = .ok () ↔ request.Sound) ∧
      (request.validate = .ok () ↔ ∀ rule ∈ request.rules, ¬ rule.Violated) ∧
      ∀ error, request.validate = .error error →
        error.leaves = (request.rules.filter fun rule => rule.Violated).map Rule.report := by
  refine ⟨validate_eq_ok, ?_, fun error herror => ?_⟩
  · rw [validate, LayoutError.check_eq_ok, violations_eq_reports, reports, List.map_eq_nil_iff,
      List.filter_eq_nil_iff]
    simp only [decide_eq_true_eq]
  · rw [LayoutError.leaves_of_check herror, violations_eq_reports, reports]
    intro leaf hleaf
    rw [violations_eq_reports, reports, List.mem_map] at hleaf
    obtain ⟨rule, -, rfl⟩ := hleaf
    exact leaves_report rule

/-- Two plain filesystems whose mountpoints are left empty. -/
def emptyTwice : PartitioningRequest :=
  ⟨0, some [.new "" 0, .new "" 0], none, none⟩

/-- Empty mountpoints are not distinct, and yet no leaf calls the second one a repetition: each of
them is reported as empty. -/
theorem validate_emptyTwice :
    ¬ emptyTwice.mountpoints.Nodup ∧
      ∃ error, emptyTwice.validate = .error error ∧
        error.leaves = List.replicate 2 (.invalidMountpoint
          "invalid plain filesystem customization: mountpoint is empty") ∧
        ∀ leaf ∈ error.leaves, ∀ text, leaf ≠ .duplicateName text := by
  refine ⟨by decide, .multiple (List.replicate 2 (.invalidMountpoint
    "invalid plain filesystem customization: mountpoint is empty")), rfl, rfl, ?_⟩
  rintro leaf hleaf text rfl
  have htwice : LayoutError.duplicateName text ∈ List.replicate 2 (LayoutError.invalidMountpoint
    "invalid plain filesystem customization: mountpoint is empty") := hleaf
  cases List.eq_of_mem_replicate htwice

end PartitioningRequest

end DiskLayout
