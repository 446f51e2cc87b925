import DiskLayout.Proofs.Customization.Violations

/-!
# Collected errors

Errors are collected at three levels: those of each check, those of the checks of a document by
itself, and those of the document together with the policy.  A single error takes the place of its
collection, so the shape of what is reported depends on how many there are.  Its leaves do not, and
its text is made of their texts, one on each line.

An empty collection would be reported as an empty line and has no leaves; none of the checks makes
one.

## Main definitions

* `LayoutError.Filled` — errors in which no collection is empty
* `Customizations.outcomes` — what each check makes of a document, in the order of the reports

## Main results

* `LayoutError.Filled.message_eq` — the text of an error by its leaves
* `LayoutError.message_collect` — the text of collected errors by theirs
* `Customizations.checkAgainst_reports` — what the check of a document reports
-/

namespace DiskLayout

/-! ### Collections of any depth -/

/-- Lines that are joined in groups are the lines joined together, if no group is empty. -/
theorem intercalate_map_intercalate (separator : String) {groups : List (List String)}
    (h : ∀ group ∈ groups, group ≠ []) :
    separator.intercalate (groups.map separator.intercalate) =
      separator.intercalate groups.flatten := by
  induction groups with
  | nil => rfl
  | cons group others ih =>
    obtain ⟨hgroup, hothers⟩ := List.forall_mem_cons.1 h
    by_cases hnil : others = []
    · subst hnil
      simp
    · have hmap : others.map separator.intercalate ≠ [] := by simpa using hnil
      have hflatten : others.flatten ≠ [] := by
        obtain ⟨next, after, rfl⟩ := List.exists_cons_of_ne_nil hnil
        simpa using fun hnext => absurd hnext (hothers next List.mem_cons_self)
      rw [List.map_cons, List.flatten_cons, String.intercalate_cons_of_ne_nil hmap, ih hothers,
        String.intercalate_append_of_ne_nil hgroup hflatten]

namespace LayoutError

/-- Whether no collection in an error is empty, at any depth. -/
inductive Filled : LayoutError → Prop
  | single {error : LayoutError} (h : ∀ errors, error ≠ multiple errors) : Filled error
  | multiple {errors : List LayoutError} (hne : errors ≠ [])
      (h : ∀ error ∈ errors, Filled error) : Filled (multiple errors)

theorem messages_eq_map (errors : List LayoutError) : messages errors = errors.map message := by
  induction errors with
  | nil => rfl
  | cons error others ih => rw [messages, ih, List.map_cons]

theorem message_multiple (errors : List LayoutError) :
    (multiple errors).message = "\n".intercalate (errors.map message) := by
  rw [← messages_eq_map]
  rfl

theorem leaves_of_ne_multiple {error : LayoutError} (h : ∀ errors, error ≠ multiple errors) :
    error.leaves = [error] := by
  cases error with
  | multiple errors => exact absurd rfl (h errors)
  | _ => rfl

theorem Filled.leaves_ne_nil {error : LayoutError} (h : error.Filled) : error.leaves ≠ [] := by
  induction h with
  | single h => simp [leaves_of_ne_multiple h]
  | @multiple errors hne _ ih =>
    obtain ⟨first, others, rfl⟩ := List.exists_cons_of_ne_nil hne
    rw [leaves, leavesOfList]
    exact List.append_ne_nil_of_left_ne_nil (ih first List.mem_cons_self) _

/-- The text of an error consists of the texts of its leaves, each on a line of its own. -/
theorem Filled.message_eq {error : LayoutError} (h : error.Filled) :
    error.message = "\n".intercalate (error.leaves.map message) := by
  induction h with
  | single h => simp [leaves_of_ne_multiple h]
  | @multiple errors _ h ih =>
    -- Each part of the collection is a group of lines that is not empty.
    have hgroups : ∀ group ∈ errors.map fun error => error.leaves.map message, group ≠ [] := by
      simpa using fun error hmem => (h error hmem).leaves_ne_nil
    have hparts : errors.map message =
        (errors.map fun error => error.leaves.map message).map "\n".intercalate := by
      rw [List.map_map]
      exact List.map_congr_left ih
    rw [message_multiple, hparts, intercalate_map_intercalate "\n" hgroups, leaves,
      leavesOfList_eq_flatMap, List.map_flatMap, List.flatMap_def]

theorem Filled.of_collect {errors : List LayoutError} {error : LayoutError}
    (h : ∀ error ∈ errors, error.Filled) (hcollect : collect errors = some error) :
    error.Filled := by
  match errors with
  | [] => cases hcollect
  | [only] =>
    obtain rfl := Option.some.inj hcollect
    exact h _ (List.mem_singleton_self _)
  | first :: second :: others =>
    obtain rfl := Option.some.inj hcollect
    exact .multiple (List.cons_ne_nil _ _) h

/-- The text of collected errors consists of the texts of their leaves. -/
theorem message_collect {errors : List LayoutError} (h : ∀ error ∈ errors, error.Filled) :
    (collect errors).elim "" message =
      "\n".intercalate ((errors.flatMap leaves).map message) := by
  rw [← leaves_collect]
  cases hcollect : collect errors with
  | none => rfl
  | some error => exact (Filled.of_collect h hcollect).message_eq

/-- An empty collection has no leaves, and yet it takes a line. -/
example : (collect [multiple [], invalidTable "full"]).map message = some "\nfull" := by
  decide

theorem Filled.of_check {errors : List LayoutError} {error : LayoutError}
    (h : ∀ error ∈ errors, error.Filled) (hcheck : check errors = .error error) : error.Filled :=
  .of_collect h (check_eq_error.1 hcheck)

theorem mem_ofCheck {result : Except LayoutError Unit} {error : LayoutError} :
    error ∈ (ofCheck result).toList ↔ result = .error error := by
  cases result <;> simp [ofCheck, eq_comm]

/-- A part of a document that is absent adds no error. -/
theorem mem_bind_ofCheck {α : Type} {part : Option α} {result : α → Except LayoutError Unit}
    {error : LayoutError} :
    error ∈ (part.bind fun present => ofCheck (result present)).toList ↔
      ∃ present, part = some present ∧ result present = .error error := by
  cases part with
  | none => simp
  | some present => simpa using mem_ofCheck

/-- What a check collects adds the leaves of all its errors. -/
theorem flatMap_leaves_ofCheck (errors : List LayoutError) :
    (ofCheck (check errors)).toList.flatMap leaves = errors.flatMap leaves := by
  rw [← leaves_collect errors, check]
  cases collect errors with
  | none => rfl
  | some error => exact List.append_nil _

theorem filterMap_ofCheck_cons (result : Except LayoutError Unit)
    (others : List (Except LayoutError Unit)) :
    (result :: others).filterMap ofCheck = (ofCheck result).toList ++ others.filterMap ofCheck := by
  cases result <;> rfl

end LayoutError

/-! ### The errors of the checks -/

theorem filled_of_mem_filesystemViolations {earlier : List String}
    {requests : List FilesystemRequest} {error : LayoutError}
    (h : error ∈ filesystemViolations earlier requests) : error.Filled := by
  induction requests generalizing earlier with
  | nil => cases h
  | cons request others ih =>
    rw [filesystemViolations] at h
    split at h
    · rcases List.mem_cons.1 h with rfl | hother
      · exact .single (by simp)
      · exact ih hother
    · split at h
      · rcases List.mem_cons.1 h with rfl | hother
        · exact .single (by simp)
        · exact ih hother
      · exact ih h

theorem Rule.filled_report (rule : Rule) : rule.report.Filled := by
  cases rule <;> exact .single (by simp [report])

theorem PartitioningRequest.filled_of_validate {request : PartitioningRequest}
    {error : LayoutError} (h : request.validate = .error error) : error.Filled := by
  refine .of_check (fun violation hviolation => ?_) h
  rw [violations_eq_reports, Rule.reports, List.mem_map] at hviolation
  obtain ⟨rule, -, rfl⟩ := hviolation
  exact rule.filled_report

theorem MountPolicy.filled_of_checkAll {policy : MountPolicy} {paths : List String}
    {error : LayoutError} (h : policy.checkAll paths = .error error) : error.Filled := by
  unfold checkAll at h
  split at h
  · cases h
  · obtain rfl := Except.error.inj h
    exact .single (by simp)

namespace Customizations

variable {policy : MountPolicy} {customizations : Customizations} {error : LayoutError}

theorem filled_of_validate (h : customizations.validate = .error error) : error.Filled := by
  refine .of_check (fun part hpart => ?_) h
  rw [List.mem_append, LayoutError.mem_ofCheck, LayoutError.mem_bind_ofCheck] at hpart
  rcases hpart with hfilesystem | ⟨request, -, hrequest⟩
  · exact .of_check (fun _ => filled_of_mem_filesystemViolations) hfilesystem
  · exact PartitioningRequest.filled_of_validate hrequest

theorem filled_of_checkAgainst (h : customizations.checkAgainst policy = .error error) :
    error.Filled := by
  refine .of_check (fun part hpart => ?_) h
  rw [List.mem_append, List.mem_append, LayoutError.mem_ofCheck, LayoutError.mem_ofCheck,
    LayoutError.mem_bind_ofCheck] at hpart
  rcases hpart with (hown | hfilesystem) | ⟨request, -, hrequest⟩
  · exact filled_of_validate hown
  · exact MountPolicy.filled_of_checkAll hfilesystem
  · exact MountPolicy.filled_of_checkAll hrequest

/-- What each check makes of a document, in the order in which errors are reported. -/
def outcomes (policy : MountPolicy) (customizations : Customizations) :
    List (Except LayoutError Unit) :=
  [validateFilesystemRequests customizations.filesystem] ++
    (customizations.partitioning.map PartitioningRequest.validate).toList ++
    [policy.checkFilesystems customizations.filesystem] ++
    (customizations.partitioning.map policy.checkPartitioning).toList

/-- The leaves of what is reported about a document are those of its checks. -/
theorem leaves_of_checkAgainst (h : customizations.checkAgainst policy = .error error) :
    error.leaves =
      ((customizations.outcomes policy).filterMap LayoutError.ofCheck).flatMap
        LayoutError.leaves := by
  have hleaves := LayoutError.leaves_collect
    ((LayoutError.ofCheck customizations.validate).toList ++
      (LayoutError.ofCheck (policy.checkFilesystems customizations.filesystem)).toList ++
      (customizations.partitioning.bind fun request =>
        LayoutError.ofCheck (policy.checkPartitioning request)).toList)
  rw [LayoutError.check_eq_error.1 h, List.flatMap_append, List.flatMap_append, validate,
    LayoutError.flatMap_leaves_ofCheck, List.flatMap_append] at hleaves
  unfold outcomes
  cases hpartitioning : customizations.partitioning <;>
    simpa [hpartitioning, LayoutError.filterMap_ofCheck_cons] using hleaves

/-- A document passes under a policy exactly if it passes the checks of both its sections and the
policy lets all of its mountpoints pass.  Otherwise the leaves of the error are those of the checks
that fail, in the order of the checks, and its text has the texts of the leaves on lines of their
own.  Collecting does so with any errors in which no collection is empty. -/
theorem checkAgainst_reports (policy : MountPolicy) (customizations : Customizations) :
    (customizations.checkAgainst policy = .ok () ↔
      ∀ outcome ∈ customizations.outcomes policy, outcome = .ok ()) ∧
    (∀ error, customizations.checkAgainst policy = .error error →
      error.leaves = ((customizations.outcomes policy).filterMap LayoutError.ofCheck).flatMap
        LayoutError.leaves ∧
      error.message = "\n".intercalate (error.leaves.map LayoutError.message)) ∧
    ∀ errors : List LayoutError, (∀ error ∈ errors, error.Filled) →
      (LayoutError.collect errors).elim [] LayoutError.leaves =
        errors.flatMap LayoutError.leaves ∧
      (LayoutError.collect errors).elim "" LayoutError.message =
        "\n".intercalate ((errors.flatMap LayoutError.leaves).map LayoutError.message) := by
  refine ⟨?_, fun error herror => ?_, fun errors hfilled => ?_⟩
  · rw [checkAgainst_eq_ok]
    unfold outcomes
    cases customizations.partitioning with
    | none => simp
    | some request => simp [and_assoc, and_left_comm]
  · exact ⟨leaves_of_checkAgainst herror, (filled_of_checkAgainst herror).message_eq⟩
  · exact ⟨LayoutError.leaves_collect errors, LayoutError.message_collect hfilled⟩

/-- A document with faults in both sections, by itself and under the standard policy. -/
def faulty : Customizations where
  filesystem := [.new "/proc" 0, .new "/var/" 0, .new "/srv" 0, .new "/srv" 0]
  partitioning := some ⟨0, some [.new "/etc" 0, .new "/etc" 0], none, none⟩

/-- Errors at three depths. -/
def nestedErrors : List LayoutError :=
  [.invalidTable "one",
    .multiple [.invalidTable "two", .multiple [.invalidTable "three", .invalidTable "four"]]]

theorem checkAgainst_reports_faulty :
    (∃ error, faulty.checkAgainst .standard = .error error ∧
      error.leaves = ((faulty.outcomes .standard).filterMap LayoutError.ofCheck).flatMap
        LayoutError.leaves ∧
      error.message = "\n".intercalate (error.leaves.map LayoutError.message)) ∧
    (LayoutError.collect nestedErrors).elim "" LayoutError.message = "one\ntwo\nthree\nfour" := by
  obtain ⟨hok, hreports, -⟩ := checkAgainst_reports .standard faulty
  have hfilled : ∀ error ∈ nestedErrors, error.Filled := by
    have hsingle : ∀ text, (LayoutError.invalidTable text).Filled := fun _ => .single (by simp)
    simp [nestedErrors, hsingle, LayoutError.Filled.multiple]
  have hjoined := ((checkAgainst_reports .standard faulty).2.2 nestedErrors hfilled).2
  refine ⟨?_, hjoined⟩
  cases houtcome : faulty.checkAgainst .standard with
  | ok _ =>
    -- One of the mountpoints is not canonical.
    have hrequests := hok.1 houtcome _ List.mem_cons_self
    rw [validateFilesystemRequests_eq_ok] at hrequests
    exact absurd hrequests (by decide)
  | error error => exact ⟨error, rfl, hreports error houtcome⟩

end Customizations

end DiskLayout
