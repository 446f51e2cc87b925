import DiskLayout.Proofs.Allocation.Assembly
import DiskLayout.Proofs.Allocation.Minimums
import DiskLayout.Proofs.Allocation.Stability
import DiskLayout.Proofs.Allocation.TotalSize

/-!
# Building twice

A table that is built once more, from itself and with the same requests, stays as it is.  The second
run finds every mountpoint there and the container that the mode calls for, so it assembles the
table itself with the minimums of the first run; and what the first run settled and identified the
second one leaves alone, whatever it draws.

## Main definitions

* `PartitioningMode.Suits` — a table with the container that a mode calls for

## Main results

* `PartitionTable.prepare_of_suits` — preparing leaves a table as it is that suits the mode
* `assembled_suits` — an assembled table suits the mode it is assembled for
* `build_idempotent` — building twice is building once
-/

namespace DiskLayout

/-! ### Tables that suit a mode -/

/-- Whether a table has the container that a mode calls for, and none that the mode refuses. -/
def PartitioningMode.Suits (table : PartitionTable) : PartitioningMode → Prop
  | .raw => table.firstGroup? = none
  | .lvm => table.firstBtrfs? = none ∧ table.Takes .logicalVolume
  | .autoLvm => True
  | .btrfs => table.Takes .subvolume

namespace PartitionTable

variable {table result base prepared : PartitionTable} {mode : PartitioningMode}
  {options : BuildOptions}

/-- Preparing leaves a table as it is that suits the mode, if no new mountpoint needs a
container. -/
theorem prepare_of_suits (h : options.mode.Suits table) :
    (table.prepare options false).result = .ok table := by
  -- What a mode refuses is absent, and the container that it makes sure of is there.
  unfold prepare
  cases hmode : options.mode with
  | raw =>
    rw [hmode] at h
    have hnone : table.volumeGroupIndex?.isSome = false := by
      rw [← isSome_firstGroup?, h]
      rfl
    simp [hnone]
  | lvm =>
    rw [hmode] at h
    obtain ⟨hnone, group, hgroup⟩ := h
    have hbtrfs : table.btrfsIndex?.isSome = false := by
      rw [← isSome_firstBtrfs?, hnone]
      rfl
    have hsome : table.volumeGroupIndex?.isSome = true := by
      rw [← isSome_firstGroup?, hgroup]
      rfl
    simp [hbtrfs, ensureVolumeGroup, hsome]
  | autoLvm => simp
  | btrfs =>
    rw [hmode] at h
    obtain ⟨hnone, volume, hvolume⟩ := h
    have hgroup : table.volumeGroupIndex?.isSome = false := by
      rw [← isSome_firstGroup?, hnone]
      rfl
    have hsome : table.btrfsIndex?.isSome = true := by
      rw [← isSome_firstBtrfs?, hvolume]
      rfl
    simp [hgroup, ensureBtrfs, hsome]

/-- After a step a table suits the modes it did before. -/
theorem Mounts.suits {mountpoint : String} {place : Place}
    (h : Mounts mountpoint place table result) (hsuits : mode.Suits table) :
    mode.Suits result := by
  cases mode with
  | raw =>
    rcases h.firstGroup?_cases with ⟨-, heq⟩ | ⟨-, group, -, -, hgroup, -⟩
    · exact heq.trans hsuits
    · rw [PartitioningMode.Suits, hgroup] at hsuits
      cases hsuits
  | lvm =>
    refine ⟨?_, h.takes hsuits.2⟩
    rcases h.firstBtrfs?_cases with ⟨-, heq⟩ | ⟨-, volume, -, hvolume, -⟩
    · exact heq.trans hsuits.1
    · rw [hsuits.1] at hvolume
      cases hvolume
  | autoLvm => trivial
  | btrfs =>
    rw [PartitioningMode.Suits] at hsuits ⊢
    exact h.takes hsuits

theorem MountsEach.suits {requests : List FilesystemRequest}
    (h : MountsEach mode requests table result) (hsuits : mode.Suits table) :
    mode.Suits result := by
  induction h with
  | nil => exact hsuits
  | skip _ _ ih => exact ih hsuits
  | mount hstep _ ih => exact ih (hstep.suits hsuits)

/-- A volume group in place of the root filesystem brings no btrfs volume. -/
theorem Converts.firstBtrfs?_eq (h : Converts .logicalVolume table result) :
    result.firstBtrfs? = table.firstBtrfs? := by
  cases h with
  | @volumeGroup _ before after holder group volume system hsplit hholder hroot hvolumes hvolume =>
    have hnew := Partition.btrfs?_eq (content?_toVolumeGroup hholder group)
    rw [firstBtrfs?_eq_findSome?, firstBtrfs?_eq_findSome?, hsplit]
    exact findSome?_replace (hnew.trans (Partition.btrfs?_eq hholder).symm)

theorem Boots.firstBtrfs?_eq {booted : PartitionTable} (h : table.Boots booted) :
    booted.firstBtrfs? = table.firstBtrfs? := by
  rcases h with ⟨-, rfl⟩ | hstep
  · rfl
  · rcases hstep.firstBtrfs?_cases with ⟨-, heq⟩ | ⟨hplace, -⟩
    · exact heq
    · cases hplace

/-- A prepared base suits the mode that it is prepared for. -/
theorem prepare_suits {contained : Bool}
    (h : (base.prepare options contained).result = .ok prepared) :
    options.mode.Suits prepared := by
  unfold prepare at h
  cases hmode : options.mode with
  | raw =>
    simp only [hmode] at h
    split at h
    · cases h
    · rename_i hindex
      obtain rfl := Except.ok.inj h
      rw [← isSome_firstGroup?, Option.not_isSome_iff_eq_none] at hindex
      exact hindex
  | lvm =>
    simp only [hmode, true_or, if_true] at h
    split at h
    · cases h
    · rename_i hindex
      rw [← isSome_firstBtrfs?, Option.not_isSome_iff_eq_none] at hindex
      refine ⟨?_, ensureVolumeGroup_takes h⟩
      rcases ensureVolumeGroup_moves h with ⟨-, rfl⟩ | ⟨-, booted, hbooted, hmoves⟩
      · exact hindex
      · exact hmoves.converts.firstBtrfs?_eq.trans
          ((ensureBoot_boots hbooted).firstBtrfs?_eq.trans hindex)
  | autoLvm => trivial
  | btrfs =>
    simp only [hmode] at h
    split at h
    · cases h
    · rename_i hindex
      rw [← isSome_firstGroup?, Option.not_isSome_iff_eq_none] at hindex
      exact ensureBtrfs_takes hindex h

theorem eq_none_of_rel {α β : Type} {related : α → β → Prop} {old : Option α} {new : Option β}
    (h : Option.Rel related old new) (hold : old = none) : new = none := by
  subst hold
  cases h
  rfl

/-- Tables that resemble each other suit the same modes. -/
theorem Resembles.suits {sizes : Nat → Nat → Prop} (h : table.Resembles sizes result)
    (hsuits : mode.Suits table) : mode.Suits result := by
  cases mode with
  | raw => exact eq_none_of_rel h.firstGroup?_rel hsuits
  | lvm =>
    obtain ⟨hnone, group, hgroup⟩ := hsuits
    obtain ⟨group', hgroup', -⟩ := exists_of_rel h.firstGroup?_rel hgroup
    exact ⟨eq_none_of_rel h.firstBtrfs?_rel hnone, group', hgroup'⟩
  | autoLvm => trivial
  | btrfs =>
    obtain ⟨hnone, volume, hvolume⟩ := hsuits
    obtain ⟨volume', hvolume', -⟩ := exists_of_rel h.firstBtrfs?_rel hvolume
    exact ⟨eq_none_of_rel h.firstGroup?_rel hnone, volume', hvolume'⟩

end PartitionTable

section Repetition

variable {base table result : PartitionTable} {requests : List FilesystemRequest}
  {options : BuildOptions} {minimums : Minimums}

/-- An assembled table suits the mode that it is assembled for. -/
theorem assembled_suits (h : (assemble base requests options).result = .ok (table, minimums)) :
    options.mode.Suits table := by
  obtain ⟨-, prepared, hprepared, heach⟩ := assemble_eq_ok h
  exact heach.suits (PartitionTable.prepare_suits hprepared)

theorem newRequests_eq_nil (h : ∀ request ∈ requests, request.mountpoint ∈ table.mountpoints) :
    newRequests table requests = [] := by
  refine List.eq_nil_iff_forall_not_mem.2 fun request hmem => ?_
  obtain ⟨hrequest, hnew⟩ := mem_newRequests.1 hmem
  exact hnew (h request hrequest)

/-- Assembly leaves a valid table as it is that suits the mode and mounts what is requested. -/
theorem assemble_eq_self (hrequests : validateFilesystemRequests requests = .ok ())
    (hvalid : table.validateStructure.result = .ok ())
    (hmounted : ∀ request ∈ requests, request.mountpoint ∈ table.mountpoints)
    (hsuits : options.mode.Suits table) :
    (assemble table requests options).result =
      .ok (table, .ofTable table requests options.requiredSizes) := by
  have hnew := newRequests_eq_nil hmounted
  have hcontained : anyContained table requests = false := by
    rw [anyContained, hnew]
    rfl
  rw [assemble_result, hrequests, hvalid, hcontained, hnew]
  simp only [ok_bind, PartitionTable.prepare_of_suits hsuits]
  rfl

/-- Building a built table once more, for the same requests and goal, leaves it as it is, whatever
is drawn: the goal and the base have to be whole grains, for new partitions are. -/
theorem build_idempotent {goal : Nat} {source : RandomSource}
    (hgoal : goal % Size.partitionGrain = 0) (hbase : base.size % Size.partitionGrain = 0)
    (h : (build base requests goal options source).1.result = .ok result) (other : RandomSource) :
    (build result requests goal options other).1.result = .ok result := by
  obtain ⟨huuid, hidentified⟩ := built_identified h
  obtain ⟨table, minimums, hassemble, hcomplete⟩ := build_eq_ok_iff.1 h
  obtain ⟨hfinished, hvalid⟩ := complete_settle_finished hcomplete
  have hresembles := hfinished.resembles
  -- The second run assembles the table that the first one built, with the same minimums.
  have hmounted : ∀ request ∈ requests, request.mountpoint ∈ result.mountpoints := by
    intro request hrequest
    rw [hresembles.mountpoints_eq]
    exact (assembled_mountpoints hassemble _).2 (.inr (.inl ⟨request, hrequest, rfl⟩))
  have hminimums : minimums = .ofTable result requests options.requiredSizes := by
    rw [(assemble_eq_ok hassemble).1]
    exact Minimums.ofTable_perm (.refl requests) fun _ => by rw [hresembles.mountpoints_eq]
  have hagain : (assemble result requests options).result = .ok (result, minimums) := by
    rw [hminimums]
    exact assemble_eq_self (validate_of_assemble hassemble)
      (PartitionTable.validateStructure_of_validate hvalid) hmounted
      (hresembles.suits (assembled_suits hassemble))
  -- Settling and identifying it changes nothing, so the check passes once more.
  have hwhole : max goal base.size % Size.partitionGrain = 0 := by
    rcases Nat.le_total goal base.size with hle | hle
    · rwa [Nat.max_eq_right hle]
    · rwa [Nat.max_eq_left hle]
  have hsettled : result.Settled minimums := by
    obtain ⟨settled, hsettle, rfl, -⟩ := complete_eq_ok.1 hcomplete
    exact (PartitionTable.settle_settled hwhole hsettle).identify source
  have hgoals : max goal result.size ≤ result.size :=
    Nat.max_le.2 ⟨(Nat.max_le.1 hfinished.goal_le).1, Nat.le_refl _⟩
  refine build_eq_ok_iff.2 ⟨result, minimums, hagain, complete_eq_ok.2 ⟨result, ?_, ?_, hvalid⟩⟩
  · exact hsettled.settle_eq_self hgoals
  · exact (PartitionTable.identify_eq_self huuid hidentified other).symm

theorem build_idempotent_rootDisk :
    0 % Size.partitionGrain = 0 ∧ PartitionTable.rootDisk.size % Size.partitionGrain = 0 ∧
      ∃ result, (build .rootDisk [.new "/var" 5] 0 .standard ⟨fun _ => 0, 0⟩).1.result =
          .ok result ∧
        (build result [.new "/var" 5] 0 .standard ⟨fun _ => 1, 7⟩).1.result = .ok result := by
  have hgoal : 0 % Size.partitionGrain = 0 := by decide
  have hbase : PartitionTable.rootDisk.size % Size.partitionGrain = 0 := by decide
  obtain ⟨result, h⟩ : ∃ result,
      (build .rootDisk [.new "/var" 5] 0 .standard ⟨fun _ => 0, 0⟩).1.result = .ok result :=
    ⟨_, rfl⟩
  exact ⟨hgoal, hbase, result, h, build_idempotent hgoal hbase h ⟨fun _ => 1, 7⟩⟩

end Repetition

end DiskLayout
