import DiskLayout.MountPolicy
import DiskLayout.Proofs.Table.Mounting

/-!
# The checks of customizations

Customizations are checked on their own and against a policy, and all violations are collected
before anything is reported.  What passes is therefore what has no violation, and this splits along
the document.

## Main results

* `LayoutError.leaves_collect` — collected errors keep their leaves
* `validateFilesystemRequests_eq_ok` — which plain mountpoint requests pass
* `Customizations.checkAgainst_eq_ok` — which documents pass under a policy
-/

namespace DiskLayout

/-! ### Collected errors -/

theorem LayoutError.check_eq_ok {errors : List LayoutError} :
    check errors = .ok () ↔ errors = [] := by
  unfold check
  cases errors with
  | nil => simp [collect]
  | cons first others => cases others <;> simp [collect]

theorem LayoutError.check_eq_error {errors : List LayoutError} {error : LayoutError} :
    check errors = .error error ↔ collect errors = some error := by
  unfold check
  cases collect errors <;> simp

theorem LayoutError.leavesOfList_eq_flatMap (errors : List LayoutError) :
    leavesOfList errors = errors.flatMap leaves := by
  induction errors with
  | nil => rfl
  | cons error others ih => rw [leavesOfList, ih, List.flatMap_cons]

/-- The leaves of collected errors are theirs, in order. -/
theorem LayoutError.leaves_collect (errors : List LayoutError) :
    (collect errors).elim [] leaves = errors.flatMap leaves := by
  match errors with
  | [] => rfl
  | [error] => simp [collect]
  | first :: second :: others => exact leavesOfList_eq_flatMap _

theorem LayoutError.ofCheck_eq_none {result : Except LayoutError Unit} :
    ofCheck result = none ↔ result = .ok () := by
  cases result <;> simp [ofCheck]

/-! ### Plain mountpoint requests -/

theorem filesystemViolations_eq_nil {earlier : List String} {requests : List FilesystemRequest} :
    filesystemViolations earlier requests = [] ↔
      (∀ request ∈ requests, checkMountpoint request.mountpoint = .ok ()) ∧
        (requests.map FilesystemRequest.mountpoint).Nodup ∧
        ∀ request ∈ requests, request.mountpoint ∉ earlier := by
  induction requests generalizing earlier with
  | nil => simp [filesystemViolations]
  | cons request others ih =>
    rw [filesystemViolations, List.forall_mem_cons, List.forall_mem_cons,
      ← mountpointFault?_eq_none, List.map_cons, List.nodup_cons, List.mem_map]
    cases mountpointFault? request.mountpoint with
    | some fault => simp
    | none =>
      by_cases hseen : request.mountpoint ∈ earlier
      · simp [hseen]
      · simp only [List.contains_iff_mem, hseen, if_false, ih, List.mem_cons]
        grind

/-- Plain mountpoint requests pass exactly if their mountpoints are valid and distinct. -/
theorem validateFilesystemRequests_eq_ok {requests : List FilesystemRequest} :
    validateFilesystemRequests requests = .ok () ↔
      (∀ request ∈ requests, checkMountpoint request.mountpoint = .ok ()) ∧
        (requests.map FilesystemRequest.mountpoint).Nodup := by
  rw [validateFilesystemRequests, LayoutError.check_eq_ok, filesystemViolations_eq_nil]
  simp

/-! ### Policies -/

namespace MountPolicy

variable {policy : MountPolicy}

theorem check_eq_ok {path : String} :
    policy.check path = .ok () ↔
      Path.isAbsolute path = true ∧ Path.isCanonical path = true ∧ policy.allows path = true := by
  unfold check
  cases Path.isAbsolute path <;> cases Path.isCanonical path <;> cases policy.allows path <;> simp

theorem fault?_eq_none {path : String} :
    policy.fault? path = none ↔ policy.check path = .ok () := by
  unfold fault?
  cases policy.check path <;> simp

/-- Paths pass together exactly if each of them does. -/
theorem checkAll_eq_ok {paths : List String} :
    policy.checkAll paths = .ok () ↔ ∀ path ∈ paths, policy.check path = .ok () := by
  have hnone : paths.filterMap policy.fault? = [] ↔ ∀ path ∈ paths, policy.check path = .ok () := by
    simp only [List.filterMap_eq_nil_iff, fault?_eq_none]
  rw [← hnone, checkAll]
  cases paths.filterMap policy.fault? <;> simp

end MountPolicy

/-- A document passes under a policy exactly if both its sections are valid and allowed. -/
theorem Customizations.checkAgainst_eq_ok {policy : MountPolicy} {customizations : Customizations} :
    customizations.checkAgainst policy = .ok () ↔
      (validateFilesystemRequests customizations.filesystem = .ok () ∧
        policy.checkFilesystems customizations.filesystem = .ok ()) ∧
      ∀ request, customizations.partitioning = some request →
        request.validate = .ok () ∧ policy.checkPartitioning request = .ok () := by
  unfold checkAgainst Customizations.validate
  cases customizations.partitioning <;>
    simp [LayoutError.check_eq_ok, LayoutError.ofCheck_eq_none]
  grind

end DiskLayout
