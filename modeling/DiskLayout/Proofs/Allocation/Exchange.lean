import DiskLayout.Proofs.Allocation.Assembly
import DiskLayout.Proofs.Table.Naming
import DiskLayout.Proofs.Table.Reordering

/-!
# The order of new mountpoints

Two mountpoints that are added one after the other can be added in either order: the results are
reordered tables.  Up to that, an edit puts a partition beside the others or gives one container
another volume, wherever these stand; and two volumes in one container get the same two names.

## Main definitions

* `Payload.Gains` — a container with the volume for a request added
* `PartitionTable.Acquires` — a table with a request added, up to the order of partitions

## Main results

* `Payload.Gains.swap`, `PartitionTable.Adds.swap` — two requests in either order
* `PartitionTable.Adds.congr` — edits of reordered tables
-/

namespace DiskLayout

/-! ### Containers that take in volumes -/

/-- The logical volume for a request, under a name. -/
def FilesystemRequest.logicalVolume (request : FilesystemRequest) (defaultKind : FilesystemType)
    (name : String) : LogicalVolume where
  name := name
  size := VolumeGroup.volumeSize (.new (request.kind.getD defaultKind) request.mountpoint)
    request.minSize
  payload := some (.filesystem (Partition.requestedFilesystem request defaultKind))

/-- The subvolume for a request. -/
def FilesystemRequest.subvolume (request : FilesystemRequest) : Subvolume :=
  ⟨Btrfs.subvolumeName request.mountpoint, request.mountpoint, request.minSize,
    some Btrfs.defaultCompression⟩

theorem VolumeGroup.names_append (group : VolumeGroup) (volume : LogicalVolume) :
    (group.append volume).logicalVolumes.map LogicalVolume.name =
      group.logicalVolumes.map LogicalVolume.name ++ [volume.name] :=
  List.map_append

theorem VolumeGroup.append_append (group : VolumeGroup) (first second : LogicalVolume) :
    (group.append first).append second = { group with
      logicalVolumes := group.logicalVolumes ++ [first, second] } := by
  simp [append]

theorem Btrfs.append_append (volume : Btrfs) (first second : Subvolume) :
    (volume.append first).append second = { volume with
      subvolumes := volume.subvolumes ++ [first, second] } := by
  simp [append]

theorem Btrfs.names_append (volume : Btrfs) (new : Subvolume) :
    (volume.append new).subvolumes.map Subvolume.name =
      volume.subvolumes.map Subvolume.name ++ [new.name] :=
  List.map_append

namespace Payload

/-- A container with the volume for a request added at its end. -/
inductive Gains (options : BuildOptions) (request : FilesystemRequest) :
    Place → Payload → Payload → Prop
  | logicalVolume {group : VolumeGroup} {name : String}
    (hname : VolumeGroup.freeName? (group.logicalVolumes.map LogicalVolume.name)
      request.mountpoint = some name) :
    Gains options request .logicalVolume (.volumeGroup group)
      (.volumeGroup (group.append (request.logicalVolume options.defaultFilesystem name)))
  | subvolume {volume : Btrfs}
    (hname : Btrfs.subvolumeName request.mountpoint ∉ volume.subvolumes.map Subvolume.name) :
    Gains options request .subvolume (.btrfs volume) (.btrfs (volume.append request.subvolume))

/-- Whether a payload is the container for a place. -/
def isContainer : Place → Payload → Bool
  | .logicalVolume, .volumeGroup _ => true
  | .subvolume, .btrfs _ => true
  | _, _ => false

section Gains

variable {options : BuildOptions} {request other : FilesystemRequest} {place : Place}
  {inner inner' middle new : Payload}

theorem Gains.isLuks_eq (h : inner.Gains options request place new) : new.isLuks = false := by
  cases h <;> rfl

theorem Gains.isContainer (h : inner.Gains options request place new) :
    inner.isContainer place = true := by
  cases h <;> rfl

theorem Gains.isContainer_eq (h : inner.Gains options request place new) (other : Place) :
    new.isContainer other = inner.isContainer other := by
  cases h <;> cases other <;> rfl

theorem Reordered.isContainer_eq (h : inner.Reordered inner') (place : Place) :
    inner'.isContainer place = inner.isContainer place := by
  cases h with
  | refl => rfl
  | _ => cases place <;> rfl

theorem Reordered.appended {group : VolumeGroup} {added added' : List LogicalVolume}
    (hnames : (added.map LogicalVolume.name).Perm (added'.map LogicalVolume.name))
    (hvolumes : (added.map LogicalVolume.unnamed).Perm (added'.map LogicalVolume.unnamed)) :
    (Payload.volumeGroup { group with
        logicalVolumes := group.logicalVolumes ++ added }).Reordered
      (.volumeGroup { group with logicalVolumes := group.logicalVolumes ++ added' }) := by
  refine @Reordered.volumeGroup { group with
    logicalVolumes := group.logicalVolumes ++ added } _ ?_ ?_
  · rw [List.map_append, List.map_append]
    exact hnames.append_left _
  · rw [List.map_append, List.map_append]
    exact hvolumes.append_left _

/-- A reordered container gains the same. -/
theorem Gains.congr (h : inner.Gains options request place new) (hinner : inner.Reordered inner') :
    ∃ new', inner'.Gains options request place new' ∧ new.Reordered new' := by
  cases h with
  | @logicalVolume group name hname =>
    cases hinner with
    | refl => exact ⟨_, .logicalVolume hname, .refl _⟩
    | @volumeGroup _ volumes hnames hvolumes =>
      -- The same names are taken, so the same candidate is the first that is free.
      rw [VolumeGroup.freeName?_congr fun name _ => hnames.mem_iff] at hname
      refine ⟨_, @Gains.logicalVolume _ _ { group with logicalVolumes := volumes } _ hname, ?_⟩
      refine @Reordered.volumeGroup (group.append _) (volumes ++ [_]) ?_ ?_
      · rw [VolumeGroup.names_append, List.map_append]
        exact hnames.append_right _
      · rw [VolumeGroup.append, List.map_append, List.map_append]
        exact hvolumes.append_right _
  | @subvolume volume hname =>
    cases hinner with
    | refl => exact ⟨_, .subvolume hname, .refl _⟩
    | @btrfs _ subvolumes hsubvolumes =>
      rw [(hsubvolumes.map Subvolume.name).mem_iff] at hname
      refine ⟨_, @Gains.subvolume _ _ { volume with subvolumes := subvolumes } hname, ?_⟩
      exact @Reordered.btrfs (volume.append request.subvolume) (subvolumes ++ [request.subvolume])
        (hsubvolumes.append_right _)

/-- A container gains two volumes in either order. -/
theorem Gains.swap (h : inner.Gains options request place middle)
    (h' : middle.Gains options other place new) :
    ∃ middle' new', inner.Gains options other place middle' ∧
      middle'.Gains options request place new' ∧ new.Reordered new' := by
  cases h with
  | @logicalVolume group name hname =>
    cases h' with
    | @logicalVolume _ name' hname' =>
      rw [VolumeGroup.names_append] at hname'
      obtain ⟨second, first, hsecond, hfirst, hnames⟩ := VolumeGroup.freeName?_swap hname hname'
      have hfirst' : VolumeGroup.freeName? ((group.append
          (other.logicalVolume options.defaultFilesystem second)).logicalVolumes.map
            LogicalVolume.name) request.mountpoint = some first := by
        rw [VolumeGroup.names_append]
        exact hfirst
      refine ⟨_, _, .logicalVolume hsecond, .logicalVolume hfirst', ?_⟩
      -- Both groups have the same two names more, and the same two volumes but for the names.
      rw [VolumeGroup.append_append, VolumeGroup.append_append]
      exact .appended hnames (.swap _ _ _)
  | @subvolume volume hname =>
    cases h' with
    | subvolume hname' =>
      rw [Btrfs.names_append, List.mem_append, List.mem_singleton, not_or] at hname'
      have hother : Btrfs.subvolumeName request.mountpoint ∉
          (volume.append other.subvolume).subvolumes.map Subvolume.name := by
        rw [Btrfs.names_append, List.mem_append, List.mem_singleton, not_or]
        exact ⟨hname, Ne.symm hname'.2⟩
      refine ⟨_, _, .subvolume hname'.1, .subvolume hother, ?_⟩
      rw [Btrfs.append_append, Btrfs.append_append]
      exact @Reordered.btrfs { volume with
        subvolumes := volume.subvolumes ++ [request.subvolume, other.subvolume] } _
        ((List.Perm.swap _ _ _).append_left _)

end Gains

end Payload

/-! ### Partitions that hold containers -/

namespace Partition

/-- Whether a partition holds the container for a place. -/
def holds (place : Place) (partition : Partition) : Bool :=
  partition.content?.any (Payload.isContainer place)

variable {partition old new : Partition} {place : Place}

theorem holds_of_content? {inner : Payload} (h : partition.content? = some inner) (place : Place) :
    partition.holds place = inner.isContainer place := by
  rw [holds, h, Option.any_some]

theorem holds_of_gains {options : BuildOptions} {request : FilesystemRequest} {inner new : Payload}
    (h : partition.content? = some inner) (hgains : inner.Gains options request place new) :
    partition.holds place = true :=
  (holds_of_content? h place).trans hgains.isContainer

theorem holds_logicalVolume (partition : Partition) :
    partition.holds .logicalVolume = partition.group?.isSome := by
  unfold holds group?
  cases partition.content? with
  | none => rfl
  | some inner => cases inner <;> rfl

theorem holds_subvolume (partition : Partition) :
    partition.holds .subvolume = partition.btrfs?.isSome := by
  unfold holds btrfs?
  cases partition.content? with
  | none => rfl
  | some inner => cases inner <;> rfl

theorem holds_plain (request : FilesystemRequest) (defaultKind : FilesystemType)
    (architecture : Architecture) (place : Place) :
    (Partition.plain request defaultKind architecture).holds place = false := by
  obtain ⟨system, hpayload, -⟩ := plain_payload request defaultKind architecture
  rw [holds_of_content? (content?_of_filesystem hpayload)]
  cases place <;> rfl

theorem Reordered.holds_eq (h : old.Reordered new) (place : Place) :
    new.holds place = old.holds place := by
  have hcontent := h.content?_rel
  unfold holds
  generalize old.content? = inner, new.content? = inner' at hcontent
  cases hcontent with
  | none => rfl
  | some hinner => exact hinner.isContainer_eq place

/-- Of two contents put in place one after the other the second one stays. -/
theorem mapContent_mapContent (partition : Partition) {first : Payload}
    (hfirst : first.isLuks = false) (second : Payload) :
    (partition.mapContent fun _ => first).mapContent (fun _ => second) =
      partition.mapContent fun _ => second := by
  obtain ⟨size, kind, uuid, bootable, payload⟩ := partition
  cases payload with
  | none => rfl
  | some payload =>
    cases payload with
    | luks container => rfl
    | _ =>
      cases first with
      | luks container => cases hfirst
      | _ => rfl

end Partition

namespace PartitionTable

/-- Whether a table has at most one container for each place. -/
def OneContainer (table : PartitionTable) : Prop :=
  ∀ place, table.partitions.countP (Partition.holds place) ≤ 1

theorem Reordered.oneContainer {old new : PartitionTable} (h : old.Reordered new)
    (hone : old.OneContainer) : new.OneContainer := fun place =>
  (h.countP_eq fun _ _ hpartition => hpartition.holds_eq place).trans_le (hone place)

/-! ### Edits up to the order of partitions -/

/-- A table with a request added at a place, up to the order of partitions: as a partition of its
own, or in a container. -/
inductive Acquires (options : BuildOptions) (request : FilesystemRequest) :
    Place → PartitionTable → PartitionTable → Prop
  | partition {table result : PartitionTable}
    (hresult : (Partition.plain request options.defaultFilesystem options.architecture ::
      table.partitions).Perm result.partitions) :
    Acquires options request .partition table result
  | contained {place : Place} {table result : PartitionTable} {holder : Partition}
    {others : List Partition} {inner new : Payload}
    (hsplit : (holder :: others).Perm table.partitions)
    (hcontent : holder.content? = some inner)
    (hgains : inner.Gains options request place new)
    (hresult : (holder.mapContent (fun _ => new) :: others).Perm result.partitions) :
    Acquires options request place table result

section Acquires

variable {options : BuildOptions} {request other : FilesystemRequest} {place otherPlace : Place}
  {table table' middle result : PartitionTable}

theorem Adds.acquires (h : Adds options request place table result) :
    Acquires options request place table result := by
  cases h with
  | partition =>
    obtain ⟨before, after, hsplit, hresult, -⟩ := table.addBeforeRoot_split
      (Partition.plain request options.defaultFilesystem options.architecture)
    refine .partition ?_
    rw [hresult, hsplit]
    exact List.perm_middle.symm
  | @logicalVolume _ before after holder group volume hsplit hfirst hcontent hnew =>
    have htable : (holder :: (before ++ after)).Perm table.partitions := by
      rw [hsplit]
      exact List.perm_middle.symm
    obtain ⟨name, hname, rfl⟩ := VolumeGroup.newVolume_eq_ok.1 hnew
    exact .contained htable hcontent (.logicalVolume hname) List.perm_middle.symm
  | @subvolume _ before after holder volume new hsplit hfirst hcontent hnew =>
    have htable : (holder :: (before ++ after)).Perm table.partitions := by
      rw [hsplit]
      exact List.perm_middle.symm
    obtain ⟨hname, rfl⟩ := Btrfs.newSubvolume_eq_ok.1 hnew
    exact .contained htable hcontent (.subvolume hname) List.perm_middle.symm

/-- An edit leaves the containers where they are. -/
theorem Acquires.countP_holds (h : Acquires options request place table result)
    (otherPlace : Place) :
    result.partitions.countP (Partition.holds otherPlace) =
      table.partitions.countP (Partition.holds otherPlace) := by
  cases h with
  | partition hresult =>
    rw [← hresult.countP_eq, List.countP_cons, Partition.holds_plain]
    rfl
  | contained hsplit hcontent hgains hresult =>
    have hholder := (Partition.holds_of_content?
      (Partition.content?_replace hcontent hgains.isLuks_eq) otherPlace).trans
        ((hgains.isContainer_eq otherPlace).trans
          (Partition.holds_of_content? hcontent otherPlace).symm)
    rw [← hresult.countP_eq, ← hsplit.countP_eq, List.countP_cons, List.countP_cons, hholder]

/-- An item of a kind that occurs at most once has no other of its kind beside it. -/
theorem eq_false_of_countP_le_one {α : Type} {kind : α → Bool} {before after : List α} {item : α}
    (hone : (before ++ item :: after).countP kind ≤ 1) (hitem : kind item = true) :
    ∀ other ∈ before ++ after, kind other = false := by
  have hzero : (before ++ after).countP kind = 0 := by
    rw [List.countP_append, List.countP_cons, hitem, if_pos rfl] at hone
    rw [List.countP_append]
    omega
  simpa using List.countP_eq_zero.1 hzero

/-- Where there is at most one container, no partition before it holds another. -/
theorem OneContainer.not_holds (hone : table.OneContainer) {before after : List Partition}
    {holder : Partition} (hsplit : table.partitions = before ++ holder :: after)
    (hholder : holder.holds place = true) : ∀ other ∈ before, other.holds place = false := by
  have hcount := hone place
  rw [hsplit] at hcount
  exact fun other hother =>
    eq_false_of_countP_le_one hcount hholder other (List.mem_append_left _ hother)

/-- Where there is at most one container, its partition may change, but it stays the only one. -/
theorem OneContainer.eq_of_holds (hone : table.OneContainer) {others rest : List Partition}
    {holder changed other : Partition} (hsplit : (holder :: others).Perm table.partitions)
    (hholder : holder.holds place = true) (hperm : (other :: rest).Perm (changed :: others))
    (hother : other.holds place = true) : other = changed := by
  refine (List.mem_cons.1 (hperm.mem_iff.1 List.mem_cons_self)).resolve_right fun hmem => ?_
  have hcount : ([] ++ holder :: others).countP (Partition.holds place) ≤ 1 :=
    (hsplit.countP_eq _).trans_le (hone place)
  rw [eq_false_of_countP_le_one hcount hholder other hmem] at hother
  cases hother

/-- Where there is at most one container, the one that acquires a request is the first. -/
theorem Acquires.exists_adds (h : Acquires options request place table result)
    (hone : table.OneContainer) :
    ∃ result', Adds options request place table result' ∧ result.Reordered result' := by
  cases h with
  | partition hresult =>
    obtain ⟨before, after, hsplit, hadded, -⟩ := table.addBeforeRoot_split
      (Partition.plain request options.defaultFilesystem options.architecture)
    refine ⟨_, .partition table, .of_perm ?_⟩
    rw [hadded]
    rw [hsplit] at hresult
    exact hresult.symm.trans List.perm_middle.symm
  | @contained _ _ _ holder others inner new hsplit hcontent hgains hresult =>
    obtain ⟨before, after, htable⟩ := List.append_of_mem (hsplit.mem_iff.1 List.mem_cons_self)
    have hothers : others.Perm (before ++ after) := by
      rw [htable] at hsplit
      exact (hsplit.trans List.perm_middle).cons_inv
    have hperm : result.partitions.Perm (before ++ holder.mapContent (fun _ => new) :: after) :=
      hresult.symm.trans ((hothers.cons _).trans List.perm_middle.symm)
    have hfirst := hone.not_holds htable (Partition.holds_of_gains hcontent hgains)
    cases hgains with
    | logicalVolume hname =>
      refine ⟨_, .logicalVolume htable (fun other hother => ?_) hcontent
        (VolumeGroup.newVolume_eq_ok.2 ⟨_, hname, rfl⟩), .of_perm hperm⟩
      simpa [Partition.holds_logicalVolume] using hfirst other hother
    | subvolume hname =>
      refine ⟨_, .subvolume htable (fun other hother => ?_) hcontent
        (Btrfs.newSubvolume_eq_ok.2 ⟨hname, rfl⟩), .of_perm hperm⟩
      simpa [Partition.holds_subvolume] using hfirst other hother

/-- A reordered table acquires the same. -/
theorem Acquires.congr (h : Acquires options request place table result)
    (htable : table.Reordered table') :
    ∃ result', Acquires options request place table' result' ∧ result.Reordered result' := by
  cases h with
  | partition hresult =>
    refine ⟨table'.withPartitions _, .partition (.refl _), ?_⟩
    rw [Reordered, ← Multiset.coe_eq_coe.2 hresult]
    exact .cons (.refl _) htable
  | @contained _ _ _ holder others inner new hsplit hcontent hgains hresult =>
    -- The partner of the partition that acquires the request holds a reordered container.
    obtain ⟨holder', others', hsplit', hholder, hothers⟩ := htable.exists_of_split hsplit
    have hcontents := hholder.content?_rel
    rw [hcontent] at hcontents
    generalize hcontent' : holder'.content? = found at hcontents
    cases hcontents with
    | some hinner =>
      obtain ⟨new', hgains', hnew⟩ := hgains.congr hinner
      refine ⟨table'.withPartitions _, .contained hsplit' hcontent' hgains' (.refl _), ?_⟩
      rw [Reordered, ← Multiset.coe_eq_coe.2 hresult]
      exact .cons (hholder.mapContent fun _ _ _ _ _ => hnew) hothers

/-- A partition with a container stands apart from a plain one. -/
theorem exists_others_of_plain {holder plain : Partition} {others partitions : List Partition}
    (h : (holder :: others).Perm (plain :: partitions)) (hholder : holder.holds place = true)
    (hplain : plain.holds place = false) :
    ∃ rest, (holder :: rest).Perm partitions ∧ others.Perm (plain :: rest) := by
  have hmem : holder ∈ partitions := by
    refine (List.mem_cons.1 (h.mem_iff.1 List.mem_cons_self)).resolve_left fun heq => ?_
    rw [heq, hplain] at hholder
    cases hholder
  obtain ⟨before, after, rfl⟩ := List.append_of_mem hmem
  refine ⟨before ++ after, List.perm_middle.symm, ?_⟩
  exact (h.trans ((List.perm_middle.cons _).trans (.swap _ _ _))).cons_inv

/-- Two requests are acquired in either order. -/
theorem Acquires.swap (h : Acquires options request place table middle)
    (h' : Acquires options other otherPlace middle result)
    (hplaces : place = .partition ∨ otherPlace = .partition ∨ place = otherPlace)
    (hone : table.OneContainer) :
    ∃ middle' result', Acquires options other otherPlace table middle' ∧
      Acquires options request place middle' result' ∧ result.Reordered result' := by
  cases h with
  | partition hmiddle =>
    cases h' with
    | partition hresult =>
      refine ⟨table.withPartitions _, table.withPartitions _, .partition (.refl _),
        .partition (.refl _), .of_perm ?_⟩
      exact hresult.symm.trans ((hmiddle.symm.cons _).trans (.swap _ _ _))
    | contained hsplit hcontent hgains hresult =>
      -- The container was there before the partition was.
      obtain ⟨rest, htable, hothers⟩ := exists_others_of_plain (hsplit.trans hmiddle.symm)
        (Partition.holds_of_gains hcontent hgains) (Partition.holds_plain _ _ _ _)
      refine ⟨table.withPartitions _, table.withPartitions _,
        .contained htable hcontent hgains (.refl _), .partition (.refl _), .of_perm ?_⟩
      exact hresult.symm.trans ((hothers.cons _).trans (.swap _ _ _))
  | @contained _ _ _ holder others inner new hsplit hcontent hgains hmiddle =>
    cases h' with
    | partition hresult =>
      refine ⟨table.withPartitions _, table.withPartitions _, .partition (.refl _),
        .contained ((List.Perm.swap _ _ _).trans (hsplit.cons _)) hcontent hgains (.refl _),
        .of_perm ?_⟩
      exact hresult.symm.trans ((hmiddle.symm.cons _).trans (.swap _ _ _))
    | @contained _ _ _ holder' others' inner' new' hsplit' hcontent' hgains' hresult =>
      obtain rfl : place = otherPlace := by
        rcases hplaces with rfl | rfl | hsame
        · cases hgains
        · cases hgains'
        · exact hsame
      -- There is only one container, so the second volume goes where the first one went.
      have hperm := hsplit'.trans hmiddle.symm
      obtain rfl : holder' = holder.mapContent fun _ => new :=
        hone.eq_of_holds hsplit (Partition.holds_of_gains hcontent hgains) hperm
          (Partition.holds_of_gains hcontent' hgains')
      obtain rfl : new = inner' := Option.some.inj
        ((Partition.content?_replace hcontent hgains.isLuks_eq).symm.trans hcontent')
      obtain ⟨first, second, hfirst, hsecond, hreordered⟩ := hgains.swap hgains'
      -- Of two contents that are put in place only the second one is left to compare.
      refine ⟨table.withPartitions (holder.mapContent (fun _ => first) :: others),
        table.withPartitions (holder.mapContent (fun _ => second) :: others),
        .contained hsplit hcontent hfirst (.refl _), ?_, ?_⟩
      · refine .contained (.refl _)
          (Partition.content?_replace hcontent hfirst.isLuks_eq) hsecond ?_
        rw [Partition.mapContent_mapContent _ hfirst.isLuks_eq]
        exact .refl _
      · rw [Partition.mapContent_mapContent _ hgains.isLuks_eq] at hresult
        rw [Reordered, Multiset.coe_eq_coe.2 (hresult.symm.trans (hperm.cons_inv.cons _))]
        have hrest : Multiset.Rel Partition.Reordered others others :=
          Multiset.rel_refl_of_refl_on fun partition _ => .refl partition
        have hholder := Partition.Reordered.refl holder
        exact .cons (hholder.mapContent fun _ _ _ _ _ => hreordered) hrest

/-- Edits of reordered tables have reordered results. -/
theorem Adds.congr (h : Adds options request place table result) (htable : table.Reordered table')
    (hone : table.OneContainer) :
    ∃ result', Adds options request place table' result' ∧ result.Reordered result' := by
  obtain ⟨acquired, hacquired, hreordered⟩ := h.acquires.congr htable
  obtain ⟨result', hresult', hreordered'⟩ := hacquired.exists_adds (htable.oneContainer hone)
  exact ⟨result', hresult', hreordered.trans hreordered'⟩

theorem Adds.oneContainer_iff (h : Adds options request place table result) :
    result.OneContainer ↔ table.OneContainer :=
  forall_congr' fun otherPlace => by rw [h.acquires.countP_holds]

/-- Two requests are added in either order. -/
theorem Adds.swap (h : Adds options request place table middle)
    (h' : Adds options other otherPlace middle result)
    (hplaces : place = .partition ∨ otherPlace = .partition ∨ place = otherPlace)
    (hone : table.OneContainer) :
    ∃ middle' result', Adds options other otherPlace table middle' ∧
      Adds options request place middle' result' ∧ result.Reordered result' := by
  obtain ⟨acquired, _, hacquired, hacquired', hresult⟩ := h.acquires.swap h'.acquires hplaces hone
  obtain ⟨middle', hmiddle', hreordered⟩ := hacquired.exists_adds hone
  obtain ⟨last, hlast, hreordered'⟩ := hacquired'.congr hreordered
  obtain ⟨result', hresult', hreordered''⟩ :=
    hlast.exists_adds (hmiddle'.oneContainer_iff.2 hone)
  exact ⟨middle', result', hmiddle', hresult',
    hresult.trans (hreordered'.trans hreordered'')⟩

end Acquires

end PartitionTable

end DiskLayout
