import DiskLayout.Proofs.Allocation.Exchange
import DiskLayout.Proofs.Allocation.Minimums
import DiskLayout.Proofs.Allocation.Reordering
import DiskLayout.Proofs.Allocation.TotalSize
import DiskLayout.Proofs.Customization.Checks

/-!
# The order of requests

The order in which mountpoints are requested does not matter for sizes.  Permuted requests are added
by a run of the same edits in another order, which ends in a reordered table; the minimums do not
look at the order at all; and sizing takes reordered tables to reordered tables.

## Main definitions

* `Run` — steps in a row, one for each item
* `PartitionTable.AddsByMode` — the edit that adds a request, with at most one container for each
  place

## Main results

* `Run.perm` — runs over permuted items
* `PartitionTable.addMountpoints_eq_ok_iff` — adding mountpoints is a run of edits
* `assemble_perm` — the tables that are assembled for permuted requests
* `build_perm` — the tables that are built for permuted requests
-/

namespace DiskLayout

/-! ### Runs -/

section Runs

variable {α σ : Type}

/-- Steps in a row, one for each item of a list. -/
inductive Run (step : α → σ → σ → Prop) : List α → σ → σ → Prop
  | nil {state : σ} : Run step [] state state
  | cons {item : α} {others : List α} {first second last : σ} (hstep : step item first second)
    (hothers : Run step others second last) : Run step (item :: others) first last

variable {step : α → σ → σ → Prop} {alike : σ → σ → Prop} {items others : List α}
  {first first' last : σ}

/-- Runs from states that are alike end in states that are alike, if steps do. -/
theorem Run.congr
    (hcongr : ∀ {item state state' next}, step item state next → alike state state' →
      ∃ next', step item state' next' ∧ alike next next')
    (h : Run step items first last) (hfirst : alike first first') :
    ∃ last', Run step items first' last' ∧ alike last last' := by
  induction h generalizing first' with
  | nil => exact ⟨first', .nil, hfirst⟩
  | cons hstep _ ih =>
    obtain ⟨second', hstep', hsecond⟩ := hcongr hstep hfirst
    obtain ⟨last', hothers', hlast⟩ := ih hsecond
    exact ⟨last', .cons hstep' hothers', hlast⟩

/-- Runs over permuted items end in states that are alike, if two steps in either order do. -/
theorem Run.perm (hrefl : ∀ state, alike state state)
    (htrans : ∀ {first second third}, alike first second → alike second third → alike first third)
    (hcongr : ∀ {item state state' next}, step item state next → alike state state' →
      ∃ next', step item state' next' ∧ alike next next')
    (hswap : ∀ {item other state middle next}, step item state middle → step other middle next →
      ∃ middle' next', step other state middle' ∧ step item middle' next' ∧ alike next next')
    (hperm : items.Perm others) (h : Run step items first last) :
    ∃ last', Run step others first last' ∧ alike last last' := by
  -- After an exchange the rest runs from a state that is only alike, and `Run.congr` follows it.
  induction hperm generalizing first last with
  | nil => exact ⟨last, h, hrefl last⟩
  | cons item _ ih =>
    cases h with
    | cons hstep hothers =>
      obtain ⟨last', hothers', hlast⟩ := ih hothers
      exact ⟨last', .cons hstep hothers', hlast⟩
  | swap item other rest =>
    cases h with
    | cons hstep h =>
      cases h with
      | cons hstep' hrest =>
        obtain ⟨middle', next', hfirst, hsecond, hnext⟩ := hswap hstep hstep'
        obtain ⟨last', hrest', hlast⟩ := hrest.congr hcongr hnext
        exact ⟨last', .cons hfirst (.cons hsecond hrest'), hlast⟩
  | trans _ _ ih ih' =>
    obtain ⟨middle, hmiddle, halike⟩ := ih h
    obtain ⟨last', hlast', halike'⟩ := ih' hmiddle
    exact ⟨last', hlast', htrans halike halike'⟩

end Runs

/-! ### One container for each place -/

theorem Partition.mem_nodes_of_content? {partition : Partition} {inner : Payload} {index : Nat}
    {node : Node} (h : partition.content? = some inner) (hnode : node ∈ inner.nodes) :
    node ∈ partition.nodes index := by
  rcases content?_eq_some.1 h with ⟨hpayload, -⟩ | ⟨container, hpayload, rfl⟩
  · simp [nodes, hpayload, hnode]
  · simp [nodes, hpayload, hnode]

theorem Payload.Resembles.isContainer_eq {sizes : Nat → Nat → Prop} {old new : Payload}
    (h : old.Resembles sizes new) (place : Place) :
    new.isContainer place = old.isContainer place := by
  cases h.byKind <;> cases place <;> rfl

theorem Partition.Resembles.holds_eq {sizes : Nat → Nat → Prop} {old new : Partition}
    (h : old.Resembles sizes new) (place : Place) : new.holds place = old.holds place := by
  have hcontent := h.content?_rel
  unfold holds
  generalize old.content? = inner, new.content? = inner' at hcontent
  cases hcontent with
  | none => rfl
  | some hinner => exact hinner.isContainer_eq place

namespace PartitionTable

theorem countP_holds_le {place : Place} {kind : Node → Bool}
    (h : ∀ inner : Payload, inner.isContainer place = true →
      ∃ node ∈ inner.nodes, kind node = true) (table : PartitionTable) :
    table.partitions.countP (Partition.holds place) ≤ table.nodes.countP kind := by
  have hindexed : table.partitions.countP (Partition.holds place) =
      table.partitions.zipIdx.countP fun entry => entry.1.holds place := by
    conv_lhs => rw [← List.zipIdx_map_fst 0 table.partitions, List.countP_map]
    rfl
  rw [hindexed, nodes_eq]
  refine countP_le_countP_flatMap fun entry _ hholds => ?_
  obtain ⟨inner, hcontent, hcontainer⟩ := (Option.any_eq_true _ _).1 hholds
  obtain ⟨node, hnode, hkind⟩ := h inner hcontainer
  exact ⟨node, Partition.mem_nodes_of_content? hcontent hnode, hkind⟩

/-- A table that keeps the rules has at most one container for each place. -/
theorem WellStructured.oneContainer {table : PartitionTable} (h : table.WellStructured) :
    table.OneContainer := by
  intro place
  cases place with
  | partition =>
    -- No payload is a container for plain partitions.
    have hnone : ∀ partition : Partition, partition.holds .partition = false := by
      intro partition
      unfold Partition.holds
      cases partition.content? with
      | none => rfl
      | some inner => cases inner <;> rfl
    rw [List.countP_eq_zero.2 fun partition _ => by simp [hnone]]
    exact Nat.zero_le 1
  | logicalVolume =>
    refine Nat.le_trans (table.countP_holds_le fun inner hcontainer => ?_) h.one_volumeGroup
    cases inner with
    | volumeGroup group => exact ⟨.volumeGroup group, by simp, rfl⟩
    | _ => cases hcontainer
  | subvolume =>
    refine Nat.le_trans (table.countP_holds_le fun inner hcontainer => ?_) h.one_btrfs
    cases inner with
    | btrfs volume => exact ⟨.btrfs volume, by simp, rfl⟩
    | _ => cases hcontainer

theorem Resembles.oneContainer {sizes : Nat → Nat → Prop} {old new : PartitionTable}
    (h : old.Resembles sizes new) (hnew : new.OneContainer) : old.OneContainer := by
  intro place
  have hholds : new.partitions.map (Partition.holds place) =
      old.partitions.map (Partition.holds place) :=
    map_eq_of_forall₂ (fun _ _ hpartition => hpartition.holds_eq place) h.partitions
  have hcount := congrArg (List.countP id) hholds
  rw [List.countP_map, List.countP_map] at hcount
  exact hcount.symm.trans_le (hnew place)

/-! ### Runs of edits -/

variable {table result : PartitionTable} {options : BuildOptions}
  {requests others : List FilesystemRequest}

theorem AddsEach.oneContainer_iff (h : AddsEach options requests table result) :
    result.OneContainer ↔ table.OneContainer := by
  induction h with
  | nil => exact Iff.rfl
  | skip _ _ ih => exact ih
  | add hedit _ ih => exact ih.trans hedit.oneContainer_iff

/-- A table with at most one container for each place to which a request is added where the
partitioning mode puts it. -/
structure AddsByMode (options : BuildOptions) (request : FilesystemRequest)
    (table result : PartitionTable) : Prop where
  oneContainer : table.OneContainer
  adds : Adds options request (options.mode.placeOf request.mountpoint) table result

/-- An edit leaves the requests new that are for other mountpoints. -/
theorem Adds.newRequests_eq {request : FilesystemRequest} {place : Place} {middle : PartitionTable}
    (h : Adds options request place table middle)
    (hfresh : request.mountpoint ∉ others.map FilesystemRequest.mountpoint) :
    newRequests middle others = newRequests table others := by
  refine List.filter_congr fun other hother => ?_
  have hne : other.mountpoint ≠ request.mountpoint := fun heq =>
    hfresh (heq ▸ List.mem_map_of_mem hother)
  have hmem : other.mountpoint ∈ middle.mountpoints ↔ other.mountpoint ∈ table.mountpoints :=
    h.mounts.mem_mountpoints.trans (or_iff_left hne)
  simp [containsMountpoint, hmem]

/-- Adding requests for different mountpoints is a run of edits over those that are new. -/
theorem addMountpoints_eq_ok_iff
    (htakes : ∀ request ∈ requests, table.Takes (options.mode.placeOf request.mountpoint))
    (hdistinct : (requests.map FilesystemRequest.mountpoint).Nodup) (hone : table.OneContainer) :
    (table.addMountpoints options requests).result = .ok result ↔
      Run (AddsByMode options) (newRequests table requests) table result := by
  induction requests generalizing table with
  | nil =>
    constructor
    · intro h
      obtain rfl := Except.ok.inj h
      exact .nil
    · rintro ⟨⟩
      rfl
  | cons request others ih =>
    obtain ⟨hrequest, hothers⟩ := List.forall_mem_cons.1 htakes
    obtain ⟨hfresh, hdistinct⟩ := List.nodup_cons.1 hdistinct
    unfold addMountpoints newRequests
    by_cases hmounted : table.containsMountpoint request.mountpoint
    · rw [if_pos hmounted, List.filter_cons_of_neg (by simpa using hmounted)]
      exact ih hothers hdistinct hone
    · rw [if_neg hmounted, List.filter_cons_of_pos (by simpa using hmounted), Logged.result_bind,
        bind_eq_ok]
      -- The other requests are added to the table after the edit as they are to the one before.
      have hrest : ∀ {middle}, AddsByMode options request table middle →
          ((middle.addMountpoints options others).result = .ok result ↔
            Run (AddsByMode options) (newRequests table others) middle result) := by
        intro middle hmiddle
        rw [← hmiddle.adds.newRequests_eq hfresh]
        exact ih (fun other hother => hmiddle.adds.mounts.takes (hothers other hother)) hdistinct
          (hmiddle.adds.oneContainer_iff.2 hone)
      constructor
      · rintro ⟨middle, hmiddle, h⟩
        have hadds : AddsByMode options request table middle :=
          ⟨hone, (addMountpoint_eq_ok_iff hrequest).1 hmiddle⟩
        exact .cons hadds ((hrest hadds).1 h)
      · rintro (_ | ⟨hadds, h⟩)
        exact ⟨_, (addMountpoint_eq_ok_iff hrequest).2 hadds.adds, (hrest hadds).2 h⟩

theorem placeOf_cases (mode : PartitioningMode) (first second : String) :
    mode.placeOf first = .partition ∨ mode.placeOf second = .partition ∨
      mode.placeOf first = mode.placeOf second := by
  unfold PartitioningMode.placeOf
  by_cases hfirst : first ∈ Path.plainOnly
  · exact .inl (if_pos hfirst)
  · by_cases hsecond : second ∈ Path.plainOnly
    · exact .inr (.inl (if_pos hsecond))
    · exact .inr (.inr (by rw [if_neg hfirst, if_neg hsecond]))

/-- Adding requests in another order succeeds too, and gives a reordered table. -/
theorem addMountpoints_perm
    (htakes : ∀ request ∈ requests, table.Takes (options.mode.placeOf request.mountpoint))
    (hdistinct : (requests.map FilesystemRequest.mountpoint).Nodup) (hone : table.OneContainer)
    (hperm : requests.Perm others)
    (h : (table.addMountpoints options requests).result = .ok result) :
    ∃ result', (table.addMountpoints options others).result = .ok result' ∧
      result.Reordered result' := by
  rw [addMountpoints_eq_ok_iff htakes hdistinct hone] at h
  have hothers : ∀ request ∈ others, table.Takes (options.mode.placeOf request.mountpoint) :=
    fun request hrequest => htakes request (hperm.mem_iff.2 hrequest)
  have hdistinct' := ((hperm.map FilesystemRequest.mountpoint).nodup_iff).1 hdistinct
  simp only [addMountpoints_eq_ok_iff hothers hdistinct' hone]
  refine h.perm Reordered.refl Reordered.trans ?_ ?_ (hperm.filter _)
  · rintro request state state' next ⟨hone, hadds⟩ hstate
    obtain ⟨next', hnext, hreordered⟩ := hadds.congr hstate hone
    exact ⟨next', ⟨hstate.oneContainer hone, hnext⟩, hreordered⟩
  · rintro request other state middle next ⟨hone, hadds⟩ ⟨-, hadds'⟩
    obtain ⟨middle', next', hfirst, hsecond, hreordered⟩ :=
      hadds.swap hadds' (placeOf_cases _ _ _) hone
    exact ⟨middle', next', ⟨hone, hfirst⟩, ⟨hfirst.oneContainer_iff.2 hone, hsecond⟩, hreordered⟩

end PartitionTable

/-! ### Assembled and built tables -/

section Order

variable {base : PartitionTable} {requests others : List FilesystemRequest}
  {options : BuildOptions}

theorem validateFilesystemRequests_perm (hperm : requests.Perm others)
    (h : validateFilesystemRequests requests = .ok ()) :
    validateFilesystemRequests others = .ok () := by
  obtain ⟨hmountpoints, hdistinct⟩ := validateFilesystemRequests_eq_ok.1 h
  refine validateFilesystemRequests_eq_ok.2 ⟨fun request hrequest => ?_, ?_⟩
  · exact hmountpoints request (hperm.mem_iff.2 hrequest)
  · exact ((hperm.map FilesystemRequest.mountpoint).nodup_iff).1 hdistinct

theorem anyContained_perm (hperm : requests.Perm others) :
    anyContained base others = anyContained base requests := by
  rw [Bool.eq_iff_iff, anyContained, anyContained, List.any_eq_true, List.any_eq_true]
  exact exists_congr fun request =>
    and_congr_left fun _ => (hperm.filter _).symm.mem_iff

/-- Assembly for permuted requests gives a reordered table with the same minimums. -/
theorem assemble_perm {table : PartitionTable} {minimums : Minimums}
    (hperm : requests.Perm others) (hone : table.OneContainer)
    (h : (assemble base requests options).result = .ok (table, minimums)) :
    ∃ table', (assemble base others options).result = .ok (table', minimums) ∧
      table.Reordered table' := by
  have hrequests := validate_of_assemble h
  obtain ⟨hvalid, rfl, prepared, hprepared, htable⟩ := assemble_eq_added h
  have htakes := prepared_takes hprepared
  have heach := PartitionTable.addMountpoints_addsEach htakes htable
  have hdistinct : ((newRequests base requests).map FilesystemRequest.mountpoint).Nodup :=
    (validateFilesystemRequests_eq_ok.1 hrequests).2.sublist (List.filter_sublist.map _)
  obtain ⟨table', htable', hreordered⟩ := PartitionTable.addMountpoints_perm htakes hdistinct
    (heach.oneContainer_iff.1 hone) (hperm.filter _) htable
  refine ⟨table', ?_, hreordered⟩
  -- The checks pass, the base is prepared in the same way, and the minimums see no order.
  rw [Minimums.ofTable_perm hperm fun _ => hreordered.mountpoints_perm.mem_iff, assemble_result,
    validateFilesystemRequests_perm hperm hrequests, hvalid, ok_bind, ok_bind,
    anyContained_perm hperm, hprepared, ok_bind]
  exact bind_eq_ok.2 ⟨table', htable', rfl⟩

/-- If a table is built that mounts the root, so is one for the requests in another order, whatever
is drawn, and both have the same size, mountpoints and sizes of what holds them. -/
theorem build_reordered {goal : Nat} {source : RandomSource} {result : PartitionTable}
    (hperm : requests.Perm others)
    (hroot : Path.root ∈ base.mountpoints ∨
      ∃ request ∈ requests, request.mountpoint = Path.root)
    (h : (build base requests goal options source).1.result = .ok result)
    (source' : RandomSource) :
    ∃ result', (build base others goal options source').1.result = .ok result' ∧
      result.size = result'.size ∧ result.mountpoints.Perm result'.mountpoints ∧
        ∀ mountpoint, result.holderSize? mountpoint = result'.holderSize? mountpoint := by
  obtain ⟨table, minimums, hassemble, hcomplete⟩ := build_eq_ok_iff.1 h
  obtain ⟨hfinished, hvalid⟩ := complete_settle_finished hcomplete
  have hstructured := PartitionTable.wellStructured_of_validate hvalid
  have hmounted : Path.root ∈ table.mountpoints :=
    (assembled_mountpoints hassemble _).2 (hroot.imp_right .inl)
  -- The rules hold of the result, so the assembled table has no two containers of a kind either.
  have hone := hfinished.resembles.oneContainer hstructured.oneContainer
  obtain ⟨table', hassemble', hreordered⟩ := assemble_perm hperm hone hassemble
  obtain ⟨result', hcomplete', hsize, houtlines⟩ :=
    hreordered.complete hmounted hcomplete source'
  exact ⟨result', build_eq_ok_iff.2 ⟨table', minimums, hassemble', hcomplete'⟩, hsize.symm,
    PartitionTable.mountpoints_perm houtlines,
    PartitionTable.holderSize?_eq houtlines hstructured.mountpoints_distinct⟩

/-- The order of requests does not matter for sizes: where the root is mounted by the base or by a
request, building succeeds for permuted requests alike, whatever is drawn, and the two tables have
the same size, mount the same, and hold each mountpoint in something of the same size. -/
theorem build_perm (goal : Nat) (source source' : RandomSource) (hperm : requests.Perm others)
    (hroot : Path.root ∈ base.mountpoints ∨
      ∃ request ∈ requests, request.mountpoint = Path.root) :
    ((∃ result, (build base requests goal options source).1.result = .ok result) ↔
        ∃ result', (build base others goal options source').1.result = .ok result') ∧
      ∀ result result', (build base requests goal options source).1.result = .ok result →
        (build base others goal options source').1.result = .ok result' →
        result.size = result'.size ∧
          (∀ mountpoint, mountpoint ∈ result.mountpoints ↔ mountpoint ∈ result'.mountpoints) ∧
          ∀ mountpoint ∈ result.mountpoints, ∃ size,
            result.holderSize? mountpoint = some size ∧
              result'.holderSize? mountpoint = some size := by
  have hroot' : Path.root ∈ base.mountpoints ∨
      ∃ request ∈ others, request.mountpoint = Path.root :=
    hroot.imp_right fun ⟨request, hrequest, hmountpoint⟩ =>
      ⟨request, hperm.mem_iff.1 hrequest, hmountpoint⟩
  refine ⟨⟨?_, ?_⟩, ?_⟩
  · rintro ⟨result, h⟩
    obtain ⟨result', h', -⟩ := build_reordered hperm hroot h source'
    exact ⟨result', h'⟩
  · rintro ⟨result', h'⟩
    obtain ⟨result, h, -⟩ := build_reordered hperm.symm hroot' h' source
    exact ⟨result, h⟩
  · intro result result' h h'
    obtain ⟨other, hother, hsize, hmountpoints, hheld⟩ := build_reordered hperm hroot h source'
    obtain rfl := Except.ok.inj (hother.symm.trans h')
    refine ⟨hsize, fun _ => hmountpoints.mem_iff, fun mountpoint hmem => ?_⟩
    obtain ⟨size, hsome⟩ := Option.isSome_iff_exists.1 (PartitionTable.isSome_holderSize? hmem)
    exact ⟨size, hsome, (hheld mountpoint).symm.trans hsome⟩

-- Both requests ask for a volume of the same name, so the names depend on the order.
theorem build_perm_rootDisk :
    [FilesystemRequest.new "/srv/data" 5, .new "/srv_data" 7].Perm
        [.new "/srv_data" 7, .new "/srv/data" 5] ∧
      Path.root ∈ PartitionTable.rootDisk.mountpoints ∧
      ∃ result result',
        (build .rootDisk [.new "/srv/data" 5, .new "/srv_data" 7] 0 .standard
          ⟨fun _ => 0, 0⟩).1.result = .ok result ∧
        (build .rootDisk [.new "/srv_data" 7, .new "/srv/data" 5] 0 .standard
          ⟨fun _ => 1, 7⟩).1.result = .ok result' ∧
        result.mountpoints ≠ result'.mountpoints ∧ result.size = result'.size ∧
        ∃ size, result.holderSize? "/srv/data" = some size ∧
          result'.holderSize? "/srv/data" = some size := by
  have hperm : [FilesystemRequest.new "/srv/data" 5, .new "/srv_data" 7].Perm
      [.new "/srv_data" 7, .new "/srv/data" 5] := .swap _ _ _
  have hroot : Path.root ∈ PartitionTable.rootDisk.mountpoints := by decide
  obtain ⟨-, hsizes⟩ := @build_perm .rootDisk _ _ .standard 0 ⟨fun _ => 0, 0⟩ ⟨fun _ => 1, 7⟩
    hperm (.inl hroot)
  refine ⟨hperm, hroot, _, _, rfl, rfl, by decide, ?_⟩
  obtain ⟨hsize, -, hheld⟩ := hsizes _ _ rfl rfl
  exact ⟨hsize, hheld "/srv/data" (by decide)⟩

end Order

end DiskLayout
