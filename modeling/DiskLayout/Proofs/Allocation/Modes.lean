import DiskLayout.Proofs.Allocation.Assembly
import DiskLayout.Proofs.Allocation.TotalSize

/-!
# Automatic partitioning

A partitioning mode is asked twice: how a base is prepared, and whether a new mountpoint goes into
a container.  The automatic mode answers both as `lvm` where some new mountpoint may be contained,
and as `raw` where none may.  So the tables are those of the other mode to the last identifier, and
only the refusal of a base tells the modes apart, for it names them.

## Main results

* `PartitionTable.addMountpoints_mode` — what the mode means to new mountpoints
* `assemble_autoLvm_of_contained`, `assemble_autoLvm_of_not_contained` — assembly in automatic mode
* `build_autoLvm` — the automatic mode is one of the others
-/

namespace DiskLayout

open Building

namespace PartitionTable

variable {options : BuildOptions} {mode other : PartitioningMode}

/-! ### New mountpoints -/

/-- Two modes add a mountpoint alike if both are `raw` or none is, or if it may not be contained. -/
theorem addMountpoint_mode {request : FilesystemRequest}
    (h : mayBeContained request.mountpoint = true → (mode = .raw ↔ other = .raw))
    (table : PartitionTable) :
    table.addMountpoint { options with mode := mode } request =
      table.addMountpoint { options with mode := other } request := by
  unfold addMountpoint
  by_cases hcontained : mayBeContained request.mountpoint = true
  · simp only [ne_eq, h hcontained]
    rfl
  · rw [if_neg fun hboth => hcontained hboth.2, if_neg fun hboth => hcontained hboth.2]
    rfl

theorem addMountpoints_mode {requests : List FilesystemRequest}
    (h : ∀ request ∈ requests,
      mayBeContained request.mountpoint = true → (mode = .raw ↔ other = .raw))
    (table : PartitionTable) :
    table.addMountpoints { options with mode := mode } requests =
      table.addMountpoints { options with mode := other } requests := by
  induction requests generalizing table with
  | nil => rfl
  | cons request others ih =>
    obtain ⟨hrequest, hothers⟩ := List.forall_mem_cons.1 h
    unfold addMountpoints
    rw [addMountpoint_mode hrequest, ih hothers]
    simp only [ih hothers]

/-! ### The base -/

/-- What the refusal of a base with a btrfs volume says. -/
def btrfsRefusal (mode : PartitioningMode) : LayoutError :=
  .unsupportedCombination ("partitioning mode " ++ mode.name ++
    " is not supported for a partition table with btrfs")

/-- Where a new mountpoint may be contained, a base with a btrfs volume is refused for volume
groups, and any other gets one. -/
theorem prepare_contained (hmode : mode = .autoLvm ∨ mode = .lvm) (base : PartitionTable) :
    base.prepare { options with mode := mode } true =
      if base.btrfsIndex?.isSome then throw (btrfsRefusal mode)
      else base.ensureVolumeGroup options.defaultFilesystem := by
  rcases hmode with rfl | rfl
  · rfl
  · rfl

end PartitionTable

/-! ### Assembled tables -/

section Assemble

open PartitionTable

variable {base : PartitionTable} {requests : List FilesystemRequest} {mode other : PartitioningMode}

/-- Two modes that prepare a base alike and add the new mountpoints alike assemble the same. -/
theorem assemble_mode {options : BuildOptions}
    (hprepare : base.prepare { options with mode := mode } (anyContained base requests) =
      base.prepare { options with mode := other } (anyContained base requests))
    (hplace : ∀ request ∈ newRequests base requests,
      mayBeContained request.mountpoint = true → (mode = .raw ↔ other = .raw)) :
    (assemble base requests { options with mode := mode }).result =
      (assemble base requests { options with mode := other }).result := by
  rw [assemble_result, assemble_result, hprepare]
  simp only [addMountpoints_mode hplace]

/-- With a new mountpoint that may be contained, the automatic mode assembles what `lvm` does, or
both refuse the base. -/
theorem assemble_autoLvm_of_contained (hcontained : anyContained base requests = true)
    (options : BuildOptions) :
    (assemble base requests { options with mode := .autoLvm }).result =
        (assemble base requests { options with mode := .lvm }).result ∨
      (base.btrfsIndex?.isSome ∧ ∀ mode, mode = .autoLvm ∨ mode = .lvm →
        (assemble base requests { options with mode := mode }).result =
          .error (btrfsRefusal mode)) := by
  by_cases hbtrfs : base.btrfsIndex?.isSome = true
  · -- The checks come first; what they find does not depend on the mode.
    cases hrequests : validateFilesystemRequests requests with
    | error error =>
      left
      rw [assemble_result, assemble_result, hrequests, error_bind, error_bind]
    | ok _ =>
      cases hvalid : base.validateStructure.result with
      | error error =>
        left
        rw [assemble_result, assemble_result, hrequests, hvalid, ok_bind, ok_bind, error_bind,
          error_bind]
      | ok _ =>
        right
        refine ⟨hbtrfs, ?_⟩
        intro mode hmode
        rw [assemble_result, hrequests, hvalid, ok_bind, ok_bind, hcontained,
          prepare_contained hmode, if_pos hbtrfs, Logged.result_throw, error_bind]
  · left
    apply assemble_mode
    · rw [hcontained, prepare_contained (.inl rfl), prepare_contained (.inr rfl), if_neg hbtrfs,
        if_neg hbtrfs]
    · intro request _ _
      decide

/-- With no such mountpoint, the automatic mode assembles what `raw` does, for a base without a
volume group. -/
theorem assemble_autoLvm_of_not_contained (hcontained : anyContained base requests = false)
    (hgroup : base.volumeGroupIndex? = none) (options : BuildOptions) :
    (assemble base requests { options with mode := .autoLvm }).result =
      (assemble base requests { options with mode := .raw }).result := by
  apply assemble_mode
  · -- Either mode leaves the base as it is.
    have hraw : base.prepare { options with mode := .raw } false = pure base := by
      unfold PartitionTable.prepare
      rw [hgroup]
      rfl
    rw [hcontained, hraw]
    rfl
  · intro request hrequest hmay
    have hany : anyContained base requests = true :=
      List.any_eq_true.2 ⟨request, hrequest, hmay⟩
    rw [hcontained] at hany
    cases hany

end Assemble

/-! ### Built tables -/

/-- With a new mountpoint other than `/boot` and `/boot/efi`, the automatic mode builds the table
that `lvm` builds or fails with the same error, except that both refuse a base with a btrfs volume
in words of their own.  With no such mountpoint it builds what `raw` builds, if the base has no
volume group.  In each case the same is drawn from the source. -/
theorem build_autoLvm (base : PartitionTable) (requests : List FilesystemRequest) (goal : Nat)
    (options : BuildOptions) (source : RandomSource) :
    ((∃ request ∈ requests,
        request.mountpoint ∉ base.mountpoints ∧ request.mountpoint ∉ Path.plainOnly) →
      ((build base requests goal { options with mode := .autoLvm } source).1.result =
          (build base requests goal { options with mode := .lvm } source).1.result ∨
        (base.btrfsIndex?.isSome ∧ ∀ mode, mode = .autoLvm ∨ mode = .lvm →
          (build base requests goal { options with mode := mode } source).1.result =
            .error (.unsupportedCombination ("partitioning mode " ++ mode.name ++
              " is not supported for a partition table with btrfs")))) ∧
      (build base requests goal { options with mode := .autoLvm } source).2 =
        (build base requests goal { options with mode := .lvm } source).2) ∧
    ((¬ ∃ request ∈ requests,
        request.mountpoint ∉ base.mountpoints ∧ request.mountpoint ∉ Path.plainOnly) →
      base.volumeGroupIndex? = none →
      (build base requests goal { options with mode := .autoLvm } source).1.result =
          (build base requests goal { options with mode := .raw } source).1.result ∧
        (build base requests goal { options with mode := .autoLvm } source).2 =
          (build base requests goal { options with mode := .raw } source).2) := by
  rw [← anyContained_iff]
  constructor
  · intro hcontained
    rcases assemble_autoLvm_of_contained hcontained options with hsame | ⟨hbtrfs, hrefused⟩
    · obtain ⟨hresult, hrest⟩ := build_congr hsame goal source
      exact ⟨.inl hresult, hrest⟩
    · have hbuild (mode : PartitioningMode) (hmode : mode = .autoLvm ∨ mode = .lvm) :=
        build_of_error (hrefused mode hmode) goal source
      refine ⟨.inr ⟨hbtrfs, fun mode hmode => (hbuild mode hmode).1⟩, ?_⟩
      rw [(hbuild .autoLvm (.inl rfl)).2, (hbuild .lvm (.inr rfl)).2]
  · intro hcontained hgroup
    rw [Bool.not_eq_true] at hcontained
    exact build_congr (assemble_autoLvm_of_not_contained hcontained hgroup options) goal source

theorem build_autoLvm_rootDisk :
    (∃ result,
      (build .rootDisk [.new "/var" 5] 1 .standard ⟨fun _ => 0, 0⟩).1.result = .ok result ∧
        (build .rootDisk [.new "/var" 5] 1 { BuildOptions.standard with mode := .lvm }
          ⟨fun _ => 0, 0⟩).1.result = .ok result) ∧
    ∃ result,
      (build .rootDisk [.new Path.boot 5] 1 .standard ⟨fun _ => 0, 0⟩).1.result = .ok result ∧
        (build .rootDisk [.new Path.boot 5] 1 { BuildOptions.standard with mode := .raw }
          ⟨fun _ => 0, 0⟩).1.result = .ok result := by
  constructor
  · refine ⟨_, rfl, ?_⟩
    obtain ⟨hsame | ⟨hbtrfs, -⟩, -⟩ :=
      (build_autoLvm .rootDisk [.new "/var" 5] 1 .standard ⟨fun _ => 0, 0⟩).1 (by decide)
    · exact hsame.symm.trans rfl
    · exact absurd hbtrfs (by decide)
  · refine ⟨_, rfl, ?_⟩
    obtain ⟨hsame, -⟩ :=
      (build_autoLvm .rootDisk [.new Path.boot 5] 1 .standard ⟨fun _ => 0, 0⟩).2 (by decide)
        (by decide)
    exact hsame.symm.trans rfl

end DiskLayout
