import DiskLayout.Allocation.Custom
import DiskLayout.Proofs.Allocation.Completion

/-!
# The size of finished tables

A table is finished in the same way whether it is merged from a base or laid out from a request:
it is assembled, settled for its minimums and a goal, identified and checked.  Its size is
therefore exact: what its partitions need after resizing, or the goal in whole sectors if that is
more.

## Main results

* `build_eq_ok_iff`, `buildCustom_eq_ok_iff` — when building succeeds
* `build_congr` — what the options of building matter for
* `build_eq_ok`, `buildCustom_eq_ok` — a built table is an assembled table that is finished
* `built_size_exact` — the size of every table that is built
-/

namespace DiskLayout

theorem announce_result (target what : String) (finished : Logged LayoutError PartitionTable) :
    (announce target what finished).result = finished.result := by
  unfold announce
  cases hresult : finished.result with
  | error error => simp [hresult]
  | ok table => simp [hresult]

section Build

variable {base : PartitionTable} {requests : List FilesystemRequest} {goal : Nat}
  {options : BuildOptions} {source : RandomSource}

/-- A built table is the completed table; announcing it changes nothing. -/
theorem build_result :
    (build base requests goal options source).1.result =
      (complete (sizeBuilt base requests goal options) source).1.result :=
  announce_result Building.target "partition table" _

/-- An assembled table is settled for its minimums, the goal and the size of the base. -/
theorem sizeBuilt_result :
    (sizeBuilt base requests goal options).result =
      (assemble base requests options).result >>= fun assembled =>
        (assembled.1.settle assembled.2 (max goal base.size)).result := by
  unfold sizeBuilt
  rw [Logged.result_bind]

/-- Building fails as assembly does, and then draws nothing. -/
theorem build_of_error {error : LayoutError}
    (h : (assemble base requests options).result = .error error) (goal : Nat)
    (source : RandomSource) :
    (build base requests goal options source).1.result = .error error ∧
      (build base requests goal options source).2 = source := by
  have hsized : (sizeBuilt base requests goal options).result = .error error := by
    rw [sizeBuilt_result, h, error_bind]
  refine ⟨build_result.trans (complete_of_error hsized), ?_⟩
  change (complete (sizeBuilt base requests goal options) source).2 = source
  rw [complete_source, hsized]

/-- Options matter to building through what is assembled alone. -/
theorem build_congr {other : BuildOptions}
    (h : (assemble base requests options).result = (assemble base requests other).result)
    (goal : Nat) (source : RandomSource) :
    (build base requests goal options source).1.result =
        (build base requests goal other source).1.result ∧
      (build base requests goal options source).2 =
        (build base requests goal other source).2 := by
  have hsized : (sizeBuilt base requests goal options).result =
      (sizeBuilt base requests goal other).result := by
    rw [sizeBuilt_result, sizeBuilt_result, h]
  constructor
  · rw [build_result, build_result, complete_congr hsized]
  · change (complete (sizeBuilt base requests goal options) source).2 =
      (complete (sizeBuilt base requests goal other) source).2
    rw [complete_source, complete_source, hsized]

/-- Building succeeds exactly if the table can be assembled, settled and checked. -/
theorem build_eq_ok_iff {result : PartitionTable} :
    (build base requests goal options source).1.result = .ok result ↔
      ∃ table minimums, (assemble base requests options).result = .ok (table, minimums) ∧
        (complete (table.settle minimums (max goal base.size)) source).1.result = .ok result := by
  rw [build_result]
  simp only [complete_eq_ok, sizeBuilt_result, bind_eq_ok, Prod.exists]
  grind

/-- A built table is an assembled table that is finished for the goal and the size of the base. -/
theorem build_eq_ok {result : PartitionTable}
    (h : (build base requests goal options source).1.result = .ok result) :
    ∃ table minimums, (assemble base requests options).result = .ok (table, minimums) ∧
      table.Finished minimums (max goal base.size) result ∧ result.validate.result = .ok () := by
  obtain ⟨table, minimums, hassemble, hcomplete⟩ := build_eq_ok_iff.1 h
  exact ⟨table, minimums, hassemble, complete_settle_finished hcomplete⟩

/-- Every slot of a built table is filled. -/
theorem built_identified {result : PartitionTable}
    (h : (build base requests goal options source).1.result = .ok result) :
    result.uuid.isSome ∧ ∀ node ∈ result.nodes, node.Identified result.kind := by
  obtain ⟨table, minimums, -, hcomplete⟩ := build_eq_ok_iff.1 h
  obtain ⟨settled, -, rfl, -⟩ := complete_eq_ok.1 hcomplete
  rw [(settled.identify_resembles source).1.kind]
  exact settled.identify_identified source

end Build

section Custom

variable {request : PartitioningRequest} {options : CustomOptions} {source : RandomSource}

theorem buildCustom_of_error {error : LayoutError}
    (h : (assembleCustom request options).result = .error error) :
    (buildCustom request options source).1.result = .error error := by
  have hsized : (sizeCustom request options).result = .error error := by
    unfold sizeCustom
    rw [Logged.result_bind, h]
    rfl
  rw [← @complete_of_error _ source _ hsized]
  exact announce_result Custom.target "custom partition table" _

/-- An assembled table is settled for its minimums and the requested size, and completed. -/
theorem buildCustom_of_ok {table : PartitionTable}
    (h : (assembleCustom request options).result = .ok table) :
    (buildCustom request options source).1.result = (complete (table.settle
      (.ofTable table request.sizedRequests options.requiredSizes) request.minSize)
      source).1.result := by
  have hsized : (sizeCustom request options).result = (table.settle
      (.ofTable table request.sizedRequests options.requiredSizes) request.minSize).result := by
    unfold sizeCustom
    simp only [Logged.result_bind, Logged.result_notes, h, ok_bind]
  rw [← complete_congr hsized]
  exact announce_result Custom.target "custom partition table" _

/-- Building for a partitioning request succeeds exactly if the table can be assembled, settled and
checked. -/
theorem buildCustom_eq_ok_iff {result : PartitionTable} :
    (buildCustom request options source).1.result = .ok result ↔
      ∃ table, (assembleCustom request options).result = .ok table ∧
        (complete (table.settle (.ofTable table request.sizedRequests options.requiredSizes)
          request.minSize) source).1.result = .ok result := by
  cases hassemble : (assembleCustom request options).result with
  | error error => simp [buildCustom_of_error hassemble]
  | ok table => simp [buildCustom_of_ok hassemble]

/-- A table built for a partitioning request is the assembled table, finished for the requested
size. -/
theorem buildCustom_eq_ok {result : PartitionTable}
    (h : (buildCustom request options source).1.result = .ok result) :
    ∃ table, (assembleCustom request options).result = .ok table ∧
      table.Finished (.ofTable table request.sizedRequests options.requiredSizes) request.minSize
        result ∧
      result.validate.result = .ok () := by
  obtain ⟨table, hassemble, hcomplete⟩ := buildCustom_eq_ok_iff.1 h
  exact ⟨table, hassemble, complete_settle_finished hcomplete⟩

end Custom

theorem PartitionTable.Finished.size_eq_max {table result : PartitionTable} {minimums : Minimums}
    {goal : Nat} (h : table.Finished minimums goal result) :
    result.size = max (table.resize minimums).partitionsSize (alignUp goal Size.sector) :=
  h.size_eq.trans h.partitionsSize_eq

theorem PartitionTable.Finished.goal_le {table result : PartitionTable} {minimums : Minimums}
    {goal : Nat} (h : table.Finished minimums goal result) : goal ≤ result.size := by
  rw [h.size_eq_max]
  exact Nat.le_trans (le_alignUp goal Size.sector) (Nat.le_max_right _ _)

/-- Every table that is built is exactly as large as its partitions, and these are as large as they
must be after resizing, or as the goal in whole sectors. -/
theorem built_size_exact :
    (∀ (base : PartitionTable) (requests : List FilesystemRequest) (goal : Nat)
        (options : BuildOptions) (source : RandomSource) (result : PartitionTable),
      (build base requests goal options source).1.result = .ok result →
      ∃ table minimums, (assemble base requests options).result = .ok (table, minimums) ∧
        result.size = result.partitionsSize ∧
        result.size = max (table.resize minimums).partitionsSize
          (alignUp (max goal base.size) Size.sector) ∧
        goal ≤ result.size ∧ base.size ≤ result.size) ∧
    ∀ (request : PartitioningRequest) (options : CustomOptions) (source : RandomSource)
        (result : PartitionTable),
      (buildCustom request options source).1.result = .ok result →
      ∃ table, (assembleCustom request options).result = .ok table ∧
        result.size = result.partitionsSize ∧
        result.size = max
          (table.resize (.ofTable table request.sizedRequests options.requiredSizes)).partitionsSize
          (alignUp request.minSize Size.sector) := by
  constructor
  · intro base requests goal options source result h
    obtain ⟨table, minimums, hassemble, hfinished, -⟩ := build_eq_ok h
    obtain ⟨hgoal, hbase⟩ := Nat.max_le.1 hfinished.goal_le
    exact ⟨table, minimums, hassemble, hfinished.size_eq, hfinished.size_eq_max, hgoal, hbase⟩
  · intro request options source result h
    obtain ⟨table, hassemble, hfinished, -⟩ := buildCustom_eq_ok h
    exact ⟨table, hassemble, hfinished.size_eq, hfinished.size_eq_max⟩

/-- A disk with nothing but a root filesystem. -/
def PartitionTable.rootDisk : PartitionTable :=
  { PartitionTable.empty .gpt with
    partitions := [.new 0 .rootAmd64 (some (.filesystem (.new .xfs Path.root)))] }

theorem built_size_exact_rootDisk :
    (∃ result,
      (build .rootDisk [.new "/var" 5] 1 .standard ⟨fun _ => 0, 0⟩).1.result = .ok result ∧
        result.size = result.partitionsSize) ∧
    ∃ result, (buildCustom ⟨0, none, none, none⟩ .standard ⟨fun _ => 0, 0⟩).1.result = .ok result ∧
      result.size = result.partitionsSize := by
  constructor
  · refine ⟨_, rfl, ?_⟩
    obtain ⟨_, _, -, hsize, -⟩ := built_size_exact.1 .rootDisk [.new "/var" 5] 1 .standard
      ⟨fun _ => 0, 0⟩ _ rfl
    exact hsize
  · refine ⟨_, rfl, ?_⟩
    obtain ⟨_, -, hsize, -⟩ := built_size_exact.2 ⟨0, none, none, none⟩ .standard
      ⟨fun _ => 0, 0⟩ _ rfl
    exact hsize

end DiskLayout
