import DiskLayout.Proofs.Table.Places

/-!
# Walks and visitors

The walk that reads keeps a stack of the nodes around, and the walk that edits goes through the
kinds of payloads one by one.  Both hand the same nodes to a visitor in the same order: those of the
list of visits.  A visitor that fails sees the list up to the visit at which it does.  So a look-up
that ends its walk at the first mountpoint of a name finds the first partition with that mountpoint.

## Main definitions

* `recording` — a visitor that keeps a record and judges each item by it
* `AcceptsAll`, `Stops` — how far such a visitor gets
* `PartitionTable.MountsInside` — whether something is mounted at a path in a partition

## Main results

* `Node.run_walk` — the walk through a node visits its subtree and restores the stack
* `PartitionTable.walk_eq`, `PartitionTable.edit_watch` — both walks visit the list of visits
* `stops_forM`, `PartitionTable.stops_walk`, `PartitionTable.stops_edit_watch` — a visitor that
  fails ends its walk there
* `PartitionTable.mountpoints_eq_walk`, `PartitionTable.partitionIndexOf?_eq_walk` — the look-ups
  are walks
* `PartitionTable.walks_agree` — how the walks and the look-ups go together
-/

namespace DiskLayout

/-! ### The walk with a stack -/

section Walk

variable {m : Type → Type} [Monad m] [LawfulMonad m] (order : WalkOrder)

/-- Going through nodes one by one visits their subtrees one by one, if that is what each step does
and if each step restores the stack. -/
theorem run_forIn {visitor : Visit → m Unit} {step : Node → StateT (List Node) m Unit}
    (nodes around : List Node)
    (h : ∀ node ∈ nodes, (step node).run around = do
      (Visit.subtree order ⟨node, around⟩).forM visitor
      return ((), around)) :
    (show StateT (List Node) m Unit from do for node in nodes do step node).run around = do
      ((nodes.map fun node => (⟨node, around⟩ : Visit)).flatMap (Visit.subtree order)).forM visitor
      return ((), around) := by
  induction nodes with
  | nil => simp
  | cons node others ih =>
    rw [List.forall_mem_cons] at h
    have hothers := ih h.2
    simp only [bind_pure_comp, List.forIn_yield_eq_foldlM, id_map', List.forM_eq_forM] at hothers
    simp [h.1, hothers]

/-- A walk through a node visits its subtree, and leaves the stack as it was. -/
theorem Node.run_walk (visitor : Visit → m Unit) (node : Node) (around : List Node) :
    (node.walk order visitor).run around = do
      (Visit.subtree order ⟨node, around⟩).forM visitor
      return ((), around) := by
  generalize hroot : (⟨node, around⟩ : Visit) = root
  induction root using Visit.induction generalizing node around with
  | step root ih =>
    subst hroot
    -- The children are walked through with the node on the stack.
    have hchildren := run_forIn order node.children (around ++ [node]) fun child hchild =>
      ih _ (List.mem_map_of_mem hchild) child (around ++ [node]) rfl
    simp only [bind_pure_comp, List.forIn_yield_eq_foldlM, id_map', List.forM_eq_forM] at hchildren
    rw [Node.walk, Visit.subtree_eq, Visit.children]
    cases order <;> simp [WalkOrder.arrange, hchildren]

/-- A walk through a table hands the list of its visits to the visitor. -/
theorem PartitionTable.walk_eq (visitor : Visit → m Unit) (table : PartitionTable) :
    table.walk order visitor = (table.visits order).forM visitor := by
  have hpartitions := run_forIn order table.partitionNodes [] fun node _ =>
    node.run_walk order visitor []
  rw [visits_eq_subtrees]
  simp only [bind_pure_comp, List.forIn_yield_eq_foldlM, id_map', List.forM_eq_forM] at hpartitions
  simp [walk, hpartitions]

end Walk

/-! ### The walk of an editor that only watches -/

section Edit

variable {m : Type → Type} [Monad m] [LawfulMonad m] (order : WalkOrder) {visitor : Node → m Unit}

theorem editOptionalPayload_watch (payload? : Option Payload) (around : List Node)
    (h : ∀ payload, payload? = some payload → payload.edit order (.watch visitor) = do
      (payload.visits order around).forM fun visit => visitor visit.node
      return payload) :
    editOptionalPayload order (.watch visitor) payload? = do
      (payload?.toList.flatMap (Payload.visits order around)).forM fun visit => visitor visit.node
      return payload? := by
  cases payload? with
  | none => simp [editOptionalPayload]
  | some payload => simp [editOptionalPayload, h payload rfl]

theorem LogicalVolume.edit_watch {volume : LogicalVolume} (around : List Node)
    (h : ∀ payload, volume.payload = some payload → ∀ around,
      payload.edit order (.watch visitor) = do
        (payload.visits order around).forM fun visit => visitor visit.node
        return payload) :
    volume.edit order (.watch visitor) = do
      (volume.visits order around).forM fun visit => visitor visit.node
      return volume := by
  have hpayload := editOptionalPayload_watch order volume.payload
    (around ++ [.logicalVolume volume]) fun payload hpayload => h payload hpayload _
  rw [visits_eq]
  obtain ⟨name, size, payload⟩ := volume
  cases order with
  | parentsFirst =>
    rw [edit, hpayload]
    simp [Editor.watch, WalkOrder.arrange]
  | childrenFirst =>
    rw [edit, hpayload]
    simp [Editor.watch, WalkOrder.arrange]

theorem editLogicalVolumes_watch {volumes : List LogicalVolume} (around : List Node)
    (h : ∀ volume ∈ volumes, ∀ payload, volume.payload = some payload → ∀ around,
      payload.edit order (.watch visitor) = do
        (payload.visits order around).forM fun visit => visitor visit.node
        return payload) :
    editLogicalVolumes order (.watch visitor) volumes = do
      (volumes.flatMap (LogicalVolume.visits order around)).forM fun visit => visitor visit.node
      return volumes := by
  induction volumes with
  | nil => simp [editLogicalVolumes]
  | cons volume others ih =>
    rw [List.forall_mem_cons] at h
    have hvolume := LogicalVolume.edit_watch order around h.1
    simp [editLogicalVolumes, hvolume, ih h.2]

theorem mapM_watch (volumes : List Subvolume) :
    volumes.mapM (Editor.watch visitor).subvolume = do
      volumes.forM fun volume => visitor (.subvolume volume)
      return volumes := by
  induction volumes with
  | nil => simp
  | cons volume others ih =>
    rw [List.mapM_cons, ih]
    simp [Editor.watch]

variable (visitor)

/-- The walk of an editor through a payload hands its visits to the visitor, wherever it lies. -/
theorem Payload.edit_watch (payload : Payload) (around : List Node) :
    payload.edit order (.watch visitor) = do
      (payload.visits order around).forM fun visit => visitor visit.node
      return payload := by
  -- Inside a container there is one node more around, and the editor does not see it.
  induction payload generalizing around with
  | filesystem system | swap space => simp [edit, visits, Editor.watch]
  | btrfs volume =>
    rw [visits_btrfs]
    cases order with
    | parentsFirst =>
      rw [edit, mapM_watch]
      simp [Editor.watch, WalkOrder.arrange]
    | childrenFirst =>
      rw [edit, mapM_watch]
      simp [Editor.watch, WalkOrder.arrange]
  | luks container ih =>
    have hinner := ih (around ++ [.luks container])
    rw [visits_luks]
    cases container
    cases order with
    | parentsFirst =>
      rw [edit, hinner]
      simp [Editor.watch, WalkOrder.arrange]
    | childrenFirst =>
      rw [edit, hinner]
      simp [Editor.watch, WalkOrder.arrange]
  | volumeGroup group ih =>
    have hvolumes := editLogicalVolumes_watch order (around ++ [.volumeGroup group]) ih
    rw [visits_volumeGroup, logicalVolumeVisits_eq_flatMap]
    cases group
    cases order with
    | parentsFirst =>
      rw [edit, hvolumes]
      simp [Editor.watch, WalkOrder.arrange]
    | childrenFirst =>
      rw [edit, hvolumes]
      simp [Editor.watch, WalkOrder.arrange]

theorem Partition.edit_watch (index : Nat) (partition : Partition) :
    partition.edit order (.watch visitor) index = do
      (partition.visits order index).forM fun visit => visitor visit.node
      return partition := by
  have hpayload := editOptionalPayload_watch order partition.payload
    [.partition index partition] fun payload _ => payload.edit_watch order visitor _
  rw [visits, optionalPayloadVisits_eq_flatMap]
  cases order with
  | parentsFirst =>
    rw [edit, hpayload]
    simp [Editor.watch, WalkOrder.arrange]
  | childrenFirst =>
    rw [edit, hpayload]
    simp [Editor.watch, WalkOrder.arrange]

theorem editPartitions_watch (start : Nat) (partitions : List Partition) :
    editPartitions order (.watch visitor) start partitions = do
      (partitionVisits order start partitions).forM fun visit => visitor visit.node
      return partitions := by
  induction partitions generalizing start with
  | nil => simp [editPartitions, partitionVisits]
  | cons partition others ih => simp [editPartitions, partitionVisits, Partition.edit_watch, ih]

/-- The walk of an editor through a table hands its visits to the visitor. -/
theorem PartitionTable.edit_watch (table : PartitionTable) :
    table.edit order (.watch visitor) = do
      (table.visits order).forM fun visit => visitor visit.node
      return table := by
  simp [edit, editPartitions_watch, visits]

end Edit

/-! ### Visitors that fail -/

section Stops

variable {α ε : Type}

/-- A visitor that records the items it gets and judges each of them by the record before it. -/
def recording (judge : List α → α → Except ε Unit) (item : α) :
    ExceptT ε (StateM (List α)) Unit := do
  let before ← get
  set (before ++ [item])
  liftExcept (judge before item)

/-- Whether each of some items is accepted behind those before it. -/
def AcceptsAll (judge : List α → α → Except ε Unit) (items : List α) : Prop :=
  ∀ before item after, items = before ++ item :: after → judge before item = .ok ()

/-- How a visitor with this judgement ends on a list of items, and what it has recorded then. -/
inductive Stops (judge : List α → α → Except ε Unit) (items : List α) :
    Except ε Unit → List α → Prop where
  /-- It accepts every item and records all of them. -/
  | finished (accepts : AcceptsAll judge items) : Stops judge items (.ok ()) items
  /-- It refuses an item, accepts those before it and does not get those behind it. -/
  | refused {before after : List α} {item : α} {error : ε}
      (split : items = before ++ item :: after) (accepts : AcceptsAll judge before)
      (refuses : judge before item = .error error) :
      Stops judge items (.error error) (before ++ [item])

variable {judge : List α → α → Except ε Unit}

theorem run_recording (item : α) (record : List α) :
    (recording judge item).run.run record = pure (judge record item, record ++ [item]) := by
  change ((liftExcept (judge record item) : ExceptT ε (StateM (List α)) Unit).run).run
    (record ++ [item]) = _
  cases judge record item <;> rfl

theorem acceptsAll_nil : AcceptsAll judge [] := by
  intro before item after hsplit
  simp at hsplit

theorem AcceptsAll.cons {item : α} {others : List α} (hitem : judge [] item = .ok ())
    (h : AcceptsAll (fun before => judge (item :: before)) others) :
    AcceptsAll judge (item :: others) := by
  intro before other after hsplit
  rcases List.cons_eq_append_iff.1 hsplit with ⟨rfl, hcons⟩ | ⟨before, rfl, hothers⟩
  · obtain ⟨rfl, -⟩ := List.cons.inj hcons
    exact hitem
  · exact h before other after hothers

/-- With an accepted item in front a visitor gets one item further. -/
theorem Stops.cons {item : α} {others made : List α} {outcome : Except ε Unit}
    (hitem : judge [] item = .ok ())
    (h : Stops (fun before => judge (item :: before)) others outcome made) :
    Stops judge (item :: others) outcome (item :: made) := by
  cases h with
  | finished accepts => exact .finished (accepts.cons hitem)
  | refused split accepts refuses =>
    rw [split, ← List.cons_append, ← List.cons_append]
    exact .refused rfl (accepts.cons hitem) refuses

/-- A visitor that already has a record judges the items as those behind it. -/
theorem exists_stops_forM (judge : List α → α → Except ε Unit) (items record : List α) :
    ∃ outcome made,
      (items.forM (recording judge)).run.run record = pure (outcome, record ++ made) ∧
        Stops (fun before => judge (record ++ before)) items outcome made := by
  induction items generalizing record with
  | nil => exact ⟨.ok (), [], by simp, .finished acceptsAll_nil⟩
  | cons item others ih =>
    cases hjudge : judge record item with
    | error error =>
      -- The others are never reached, whatever they are.
      refine ⟨.error error, [item], by simp [run_recording, hjudge, ExceptT.run_bind], ?_⟩
      refine .refused (List.nil_append (item :: others)).symm acceptsAll_nil ?_
      rw [List.append_nil, hjudge]
    | ok =>
      obtain ⟨outcome, made, hrun, hstops⟩ := ih (record ++ [item])
      simp only [List.append_assoc, List.singleton_append] at hrun hstops
      refine ⟨outcome, item :: made, ?_, .cons ?_ hstops⟩
      · simpa [run_recording, hjudge, ExceptT.run_bind] using hrun
      · rw [List.append_nil, hjudge]

/-- A visitor stops at the first item that it refuses. -/
theorem stops_forM (judge : List α → α → Except ε Unit) (items : List α) :
    Stops judge items ((items.forM (recording judge)).run.run []).run.1
      ((items.forM (recording judge)).run.run []).run.2 := by
  obtain ⟨outcome, made, hrun, hstops⟩ := exists_stops_forM judge items []
  rw [hrun]
  exact hstops

end Stops

/-! ### Look-ups -/

/-- Whether something is mounted at a path in the partition at a position, at any depth. -/
def PartitionTable.MountsInside (table : PartitionTable) (index : Nat) (mountpoint : String) :
    Prop :=
  ∃ positions visit, table.visitAt? (index :: positions) = some visit ∧
    visit.node.mountpoint? = some mountpoint

theorem Partition.mem_mountpoints {partition : Partition} {mountpoint : String} (index : Nat) :
    mountpoint ∈ partition.mountpoints ↔ ∃ positions visit,
      Visit.descend? ⟨.partition index partition, []⟩ positions = some visit ∧
        visit.node.mountpoint? = some mountpoint := by
  rw [← partition.filterMap_mountpoint?_visits index, visits_eq_subtree, List.mem_filterMap]
  constructor
  · rintro ⟨visit, hmem, hmounted⟩
    obtain ⟨positions, hvisit⟩ := (WalkOrder.lists_subtree _).mem_iff.1 hmem
    exact ⟨positions, visit, hvisit, hmounted⟩
  · rintro ⟨positions, visit, hvisit, hmounted⟩
    exact ⟨visit, (WalkOrder.lists_subtree _).mem_iff.2 ⟨positions, hvisit⟩, hmounted⟩

namespace PartitionTable

section Lookup

variable {table : PartitionTable} {mountpoint : String} {index : Nat}

theorem mountsInside_iff :
    table.MountsInside index mountpoint ↔
      ∃ partition, table.partitions[index]? = some partition ∧
        mountpoint ∈ partition.mountpoints := by
  constructor
  · rintro ⟨positions, visit, hvisit, hmounted⟩
    obtain ⟨partition, hpartition, hinside⟩ := Option.bind_eq_some_iff.1 hvisit
    exact ⟨partition, hpartition,
      (Partition.mem_mountpoints index).2 ⟨positions, visit, hinside, hmounted⟩⟩
  · rintro ⟨partition, hpartition, hmem⟩
    obtain ⟨positions, visit, hinside, hmounted⟩ := (Partition.mem_mountpoints index).1 hmem
    exact ⟨positions, visit, Option.bind_eq_some_iff.2 ⟨partition, hpartition, hinside⟩, hmounted⟩

theorem mountsInside_iff_of_lt (h : index < table.partitions.length) :
    table.MountsInside index mountpoint ↔
      table.partitions[index].mountpoints.contains mountpoint = true := by
  simp [mountsInside_iff, h]

/-- The look-up of a mountpoint finds the first partition with it. -/
theorem partitionIndexOf?_eq_some_iff :
    table.partitionIndexOf? mountpoint = some index ↔
      table.MountsInside index mountpoint ∧
        ∀ earlier < index, ¬ table.MountsInside earlier mountpoint := by
  rw [partitionIndexOf?_eq, List.findIdx?_eq_some_iff_getElem]
  constructor
  · rintro ⟨hindex, hmounted, hearlier⟩
    refine ⟨(mountsInside_iff_of_lt hindex).2 hmounted, fun earlier hlt hmounts => ?_⟩
    exact hearlier earlier hlt ((mountsInside_iff_of_lt (Nat.lt_trans hlt hindex)).1 hmounts)
  · rintro ⟨hmounts, hearlier⟩
    obtain ⟨partition, hpartition, -⟩ := mountsInside_iff.1 hmounts
    obtain ⟨hindex, -⟩ := List.getElem?_eq_some_iff.1 hpartition
    refine ⟨hindex, (mountsInside_iff_of_lt hindex).1 hmounts, fun earlier hlt hmounted => ?_⟩
    exact hearlier earlier hlt ((mountsInside_iff_of_lt (Nat.lt_trans hlt hindex)).2 hmounted)

/-- The look-up of a mountpoint fails if nothing is mounted there. -/
theorem partitionIndexOf?_eq_none_iff :
    table.partitionIndexOf? mountpoint = none ↔ table.containsMountpoint mountpoint = false := by
  rw [partitionIndexOf?_eq, List.findIdx?_eq_none_iff, containsMountpoint, mountpoints_eq]
  simp

end Lookup

theorem run_forM_collectMountpoints (visits : List Visit) (found : List String) :
    (visits.forM collectMountpoints).run found =
      pure ((), found ++ visits.filterMap fun visit => visit.node.mountpoint?) := by
  induction visits generalizing found with
  | nil => simp
  | cons visit others ih =>
    simp only [List.forM_eq_forM] at ih
    cases hmounted : visit.node.mountpoint? <;> simp [collectMountpoints, hmounted, ih]

/-- The mountpoints of a table are what a walk collects. -/
theorem mountpoints_eq_walk (table : PartitionTable) :
    (table.walk .parentsFirst collectMountpoints).run [] = pure ((), table.mountpoints) := by
  rw [walk_eq, run_forM_collectMountpoints, List.nil_append, mountpoints]

theorem run_seekMountpoint {visit : Visit} {mountpoint : String}
    (h : visit.node.mountpoint? = some mountpoint) :
    (seekMountpoint mountpoint visit).run.run none = pure (.error (), visit.holder?) := by
  rw [seekMountpoint, if_pos h]
  cases visit.holder? <;> rfl

/-- The look-up of a mountpoint is a walk that ends there. -/
theorem partitionIndexOf?_eq_walk (table : PartitionTable) (mountpoint : String) :
    ((table.walk .parentsFirst (seekMountpoint mountpoint)).run.run none).run.2 =
      table.partitionIndexOf? mountpoint := by
  rw [walk_eq, partitionIndexOf?]
  induction table.visits .parentsFirst with
  | nil => rfl
  | cons visit others ih =>
    by_cases hmounted : visit.node.mountpoint? = some mountpoint
    · simp [run_seekMountpoint hmounted, hmounted, ExceptT.run_bind]
    · -- A visit without the mountpoint changes nothing and lets the walk go on.
      simp only [List.forM_eq_forM] at ih
      simpa [seekMountpoint, hmounted, ExceptT.run_bind] using ih

/-- A walk that reads stops where its visitor fails. -/
theorem stops_walk (table : PartitionTable) (order : WalkOrder) {ε : Type}
    (judge : List Visit → Visit → Except ε Unit) :
    let run := ((table.walk order (recording judge)).run.run []).run
    Stops judge (table.visits order) run.1 run.2 := by
  rw [walk_eq]
  exact stops_forM judge _

/-- A walk that edits stops where its visitor fails. -/
theorem stops_edit_watch (table : PartitionTable) (order : WalkOrder) {ε : Type}
    (judge : List Node → Node → Except ε Unit) :
    let run := ((table.edit order (.watch (recording judge))).run.run []).run
    Stops judge ((table.visits order).map Visit.node) (run.1.map fun _ => ()) run.2 := by
  have hstops := stops_forM judge ((table.visits order).map Visit.node)
  rw [edit_watch]
  simp only [List.forM_eq_forM, List.forM_map, bind_pure_comp, ExceptT.run_map,
    StateT.run_map, Id.run_map] at hstops ⊢
  -- The table comes back only if the visitor accepts everything.
  generalize ((forM (table.visits order) fun visit =>
    recording judge visit.node).run.run []).run = run at hstops ⊢
  obtain ⟨outcome, record⟩ := run
  cases outcome <;> exact hstops

/-- The walk that reads and the walk that edits agree, for every kind of visitor, and so do the
look-ups.  The visits of a table are what is at its places, each place once: parents stand before
what is inside them or behind it, as the order has it, and everything else in the order of the
table.  Around each visit are the nodes at the places above it. -/
theorem walks_agree (table : PartitionTable) (order : WalkOrder) :
    (∃ placed : List (List Nat × Visit), placed.map Prod.snd = table.visits order ∧
      (placed.map Prod.fst).Nodup ∧
      (∀ place visit, (place, visit) ∈ placed ↔ table.visitAt? place = some visit) ∧
      placed.Pairwise fun first second => order.Precedes first.1 second.1) ∧
    (∀ index positions visit, table.visitAt? (index :: positions) = some visit →
      visit.ancestors.map some = (List.range positions.length).map fun depth =>
        table.nodeAt? (index :: positions.take depth)) ∧
    (∀ (m : Type → Type) [Monad m] [LawfulMonad m] (visitor : Visit → m Unit),
      table.walk order visitor = (table.visits order).forM visitor) ∧
    (∀ (m : Type → Type) [Monad m] [LawfulMonad m] (visitor : Node → m Unit),
      table.edit order (.watch visitor) = do
        table.walk order fun visit => visitor visit.node
        return table) ∧
    (∀ (ε : Type) (judge : List Visit → Visit → Except ε Unit),
      let run := ((table.walk order (recording judge)).run.run []).run
      Stops judge (table.visits order) run.1 run.2) ∧
    (∀ (ε : Type) (judge : List Node → Node → Except ε Unit),
      let run := ((table.edit order (.watch (recording judge))).run.run []).run
      Stops judge ((table.visits order).map Visit.node) (run.1.map fun _ => ()) run.2) ∧
    ∀ mountpoint,
      (∀ index, table.partitionIndexOf? mountpoint = some index ↔
        table.MountsInside index mountpoint ∧
          ∀ earlier < index, ¬ table.MountsInside earlier mountpoint) ∧
      (table.partitionIndexOf? mountpoint = none ↔
        table.containsMountpoint mountpoint = false) := by
  obtain ⟨placed, hvisits, hmem, hpairwise⟩ := table.lists_visits order
  refine ⟨⟨placed, hvisits, ?_, hmem, hpairwise⟩, ?_, ?_, ?_, ?_, ?_, ?_⟩
  · -- No place precedes itself, so the places in order are all different.
    rw [List.nodup_iff_pairwise_ne, List.pairwise_map]
    refine hpairwise.imp fun hprecedes heq => ?_
    exact order.not_precedes_self _ (heq ▸ hprecedes)
  · exact fun index positions visit h => ancestors_of_visitAt? h
  · exact fun m _ _ visitor => table.walk_eq order visitor
  · intro m _ _ visitor
    rw [edit_watch, walk_eq]
  · exact fun ε judge => table.stops_walk order judge
  · exact fun ε judge => table.stops_edit_watch order judge
  · exact fun mountpoint =>
      ⟨fun index => partitionIndexOf?_eq_some_iff, partitionIndexOf?_eq_none_iff⟩

/-- A disk with a volume group in an encrypted container.  Two of its volumes are equal, and the
root is mounted a second time behind it. -/
def lockedDisk : PartitionTable :=
  let root : Payload := .filesystem (.new .xfs Path.root)
  let spare : LogicalVolume := ⟨"spare", 2, none⟩
  let volumes : List LogicalVolume := [⟨"root", 8, some root⟩, spare, spare]
  { PartitionTable.empty .gpt with
    partitions := [
      .new 1 .biosBoot none,
      .new 16 .linuxGeneric
        (some (.luks ⟨none, none, defaultCipher, .volumeGroup ⟨"group", "", volumes⟩⟩)),
      .new 4 .linuxGeneric (some root)] }

theorem walks_agree_lockedDisk :
    (∃ visit, lockedDisk.visitAt? [1, 0, 0, 0, 0] = some visit ∧
      visit.ancestors.map some =
        [[1], [1, 0], [1, 0, 0], [1, 0, 0, 0]].map lockedDisk.nodeAt?) ∧
    (lockedDisk.MountsInside 1 Path.root ∧
      ∀ earlier < 1, ¬ lockedDisk.MountsInside earlier Path.root) ∧
    lockedDisk.partitionIndexOf? "/home" = none := by
  obtain ⟨-, haround, -, -, -, -, hlookup⟩ := walks_agree lockedDisk .childrenFirst
  refine ⟨⟨_, rfl, haround 1 [0, 0, 0, 0] _ rfl⟩, ?_, ?_⟩
  · exact ((hlookup Path.root).1 1).1 (by decide)
  · exact (hlookup "/home").2.2 (by decide)

end PartitionTable

end DiskLayout
