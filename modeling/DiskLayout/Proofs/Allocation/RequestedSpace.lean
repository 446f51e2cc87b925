import DiskLayout.Proofs.Allocation.CustomAssembly
import DiskLayout.Proofs.Allocation.Minimums
import DiskLayout.Proofs.Allocation.TotalSize

/-!
# The space of requested mountpoints

What is requested for a mountpoint, and what the directories in it need, is there in the table that
is built.  The minimums of an assembled table cover both, settling makes every node sufficient for
them, and in a table without nested encryption that gives every mountpoint the capacity.

## Main definitions

* `PartitionTable.Provides` — the capacity for requests and for the directories of mountpoints

## Main results

* `assembled_unnested` — assembly nests no encrypted containers
* `PartitionTable.Finished.provides` — finished tables have the space of their minimums
* `built_space` — the space in every table that is built
-/

namespace DiskLayout

/-! ### Encrypted containers during assembly -/

namespace Partition

variable {partition : Partition} {inner : Payload}

theorem unnested_of_filesystem {system : Filesystem}
    (h : partition.payload = some (.filesystem system)) : partition.Unnested := by
  intro payload hpayload
  obtain rfl := Option.some.inj (h.symm.trans hpayload)
  exact Payload.all_filesystem.2 trivial

theorem Unnested.content_all (h : partition.Unnested) (hcontent : partition.content? = some inner) :
    inner.All Node.Unnested :=
  all_content h hcontent

/-- A new content that is no encrypted container nests none. -/
theorem Unnested.mapContent (hcontent : partition.content? = some inner) {new : Payload}
    (hnew : new.All Node.Unnested) (hluks : new.isLuks = false) :
    (partition.mapContent fun _ => new).Unnested :=
  all_replace hcontent (fun _ _ => hluks) hnew

end Partition

namespace PartitionTable

variable {table result : PartitionTable} {mountpoint : String} {place : Place}

theorem Mounts.unnested (h : Mounts mountpoint place table result) (htable : table.Unnested) :
    result.Unnested := by
  rw [unnested_iff] at htable ⊢
  cases h with
  | partition hsplit hpayload hmounted =>
    rw [hsplit, List.forall_mem_append] at htable
    rw [withPartitions, List.forall_mem_append, List.forall_mem_cons]
    exact ⟨htable.1, Partition.unnested_of_filesystem hpayload, htable.2⟩
  | @logicalVolume _ before after holder group volume system hsplit hfirst hcontent hpayload
      hmounted =>
    rw [hsplit, List.forall_mem_append, List.forall_mem_cons] at htable
    rw [withPartitions, List.forall_mem_append, List.forall_mem_cons]
    refine ⟨htable.1, Partition.Unnested.mapContent hcontent ?_ rfl, htable.2.2⟩
    have hgroup := Payload.all_volumeGroup.1 (htable.2.1.content_all hcontent)
    rw [Payload.all_volumeGroup, VolumeGroup.append, List.forall_mem_append,
      List.forall_mem_singleton]
    refine ⟨trivial, hgroup.2, trivial, fun payload hnew => ?_⟩
    obtain rfl := Option.some.inj (hpayload.symm.trans hnew)
    exact Payload.all_filesystem.2 trivial
  | subvolume hsplit hfirst hcontent hmounted =>
    rw [hsplit, List.forall_mem_append, List.forall_mem_cons] at htable
    rw [withPartitions, List.forall_mem_append, List.forall_mem_cons]
    refine ⟨htable.1, Partition.Unnested.mapContent hcontent ?_ rfl, htable.2.2⟩
    exact Payload.all_btrfs.2 ⟨trivial, fun _ _ => trivial⟩

theorem Converts.unnested (h : Converts place table result) (htable : table.Unnested) :
    result.Unnested := by
  rw [unnested_iff] at htable ⊢
  cases h with
  | @volumeGroup _ before after holder group volume system hsplit hcontent hroot hvolumes
      hpayload =>
    rw [hsplit, List.forall_mem_append, List.forall_mem_cons] at htable
    rw [withPartitions, List.forall_mem_append, List.forall_mem_cons]
    refine ⟨htable.1, ?_, htable.2.2⟩
    have hgroup : (holder.mapContent fun _ => .volumeGroup group).Unnested := by
      refine Partition.Unnested.mapContent hcontent ?_ rfl
      rw [Payload.all_volumeGroup, hvolumes, List.forall_mem_singleton]
      refine ⟨trivial, trivial, fun payload hnew => ?_⟩
      obtain rfl := Option.some.inj (hpayload.symm.trans hnew)
      exact Payload.all_filesystem.2 trivial
    rw [Partition.Unnested, payload_toVolumeGroup]
    exact hgroup
  | btrfs hsplit hcontent hroot hsubvolumes hmounted =>
    rw [hsplit, List.forall_mem_append, List.forall_mem_cons] at htable
    rw [withPartitions, List.forall_mem_append, List.forall_mem_cons]
    refine ⟨htable.1, Partition.Unnested.mapContent hcontent ?_ rfl, htable.2.2⟩
    exact Payload.all_btrfs.2 ⟨trivial, fun _ _ => trivial⟩

theorem MountsEach.unnested {mode : PartitioningMode} {requests : List FilesystemRequest}
    (h : MountsEach mode requests table result) (htable : table.Unnested) : result.Unnested := by
  induction h with
  | nil => exact htable
  | skip _ _ ih => exact ih htable
  | mount hstep _ ih => exact ih (hstep.unnested htable)

end PartitionTable

/-- Assembly nests no encrypted container. -/
theorem assembled_unnested {base table : PartitionTable} {requests : List FilesystemRequest}
    {options : BuildOptions} {minimums : Minimums} (hbase : base.Unnested)
    (h : (assemble base requests options).result = .ok (table, minimums)) : table.Unnested := by
  obtain ⟨-, prepared, hprepared, heach⟩ := assemble_eq_ok h
  refine heach.unnested ?_
  rcases PartitionTable.prepare_cases hprepared with
    ⟨-, rfl⟩ | ⟨-, place, booted, ⟨-, rfl⟩ | hstep, hconverts⟩
  · exact hbase
  · exact hconverts.unnested hbase
  · exact hconverts.unnested (hstep.unnested hbase)

/-! ### Finished tables -/

/-- Whether a table has the space that requests ask for, and for every mountpoint the space that
the directories need together that it holds. -/
structure PartitionTable.Provides (table : PartitionTable) (requests : List FilesystemRequest)
    (required : TextMap Nat) : Prop where
  requested : ∀ request ∈ requests, ∃ capacity,
    table.capacity? request.mountpoint = some capacity ∧ request.minSize ≤ capacity
  required : ∀ mountpoint ∈ table.mountpoints, ∃ capacity,
    table.capacity? mountpoint = some capacity ∧
      chargedTo table.mountpoints required mountpoint ≤ capacity

/-- A finished table without nested encryption has the space of its minimums. -/
theorem PartitionTable.Finished.provides {table result : PartitionTable}
    {requests : List FilesystemRequest} {required : Option (TextMap Nat)} {goal : Nat}
    (h : table.Finished (.ofTable table requests required) goal result)
    (hunnested : table.Unnested)
    (hmounted : ∀ request ∈ requests, request.mountpoint ∈ table.mountpoints) :
    result.Provides requests (required.getD defaultRequiredSizes) := by
  -- Finishing changes no mountpoint, so what the minimums were charged for is still mounted.
  have hsame := h.resembles.mountpoints_eq
  have hcapacity : ∀ mountpoint ∈ table.mountpoints, ∃ capacity,
      result.capacity? mountpoint = some capacity ∧
        ((Minimums.ofTable table requests required).get? mountpoint).getD 0 ≤ capacity := by
    intro mountpoint hmem
    rw [← hsame] at hmem
    exact h.sufficient.minimum_le_capacity (h.resembles.unnested hunnested) hmem
  refine ⟨fun request hrequest => ?_, fun mountpoint hmem => ?_⟩
  · obtain ⟨capacity, hfound, hle⟩ := hcapacity _ (hmounted request hrequest)
    exact ⟨capacity, hfound, Nat.le_trans (Minimums.requested_le_ofTable hrequest) hle⟩
  · rw [hsame] at hmem ⊢
    obtain ⟨capacity, hfound, hle⟩ := hcapacity mountpoint hmem
    exact ⟨capacity, hfound, Nat.le_trans (Minimums.chargedTo_le_ofTable mountpoint) hle⟩

/-- In every table that is built the requested space is there, and so is the space for directories.
Where a container is requested, its partition has the size that is requested for it. -/
theorem built_space :
    (∀ (base : PartitionTable) (requests : List FilesystemRequest) (goal : Nat)
        (options : BuildOptions) (source : RandomSource) (result : PartitionTable),
      base.Unnested →
      (build base requests goal options source).1.result = .ok result →
      result.Provides requests (options.requiredSizes.getD defaultRequiredSizes)) ∧
    ∀ (request : PartitioningRequest) (options : CustomOptions) (source : RandomSource)
        (result : PartitionTable),
      (buildCustom request options source).1.result = .ok result →
      result.Provides request.sizedRequests (options.requiredSizes.getD defaultRequiredSizes) ∧
      (∀ group ∈ request.volumeGroups, ∃ index device, result.volumeGroupIndex? = some index ∧
        result.partitions[index]? = some device ∧ group.minSize ≤ device.size) ∧
      ∀ volume ∈ request.btrfsVolumes, ∃ index device, result.btrfsIndex? = some index ∧
        result.partitions[index]? = some device ∧ volume.minSize ≤ device.size := by
  constructor
  · intro base requests goal options source result hbase h
    obtain ⟨table, minimums, hassemble, hfinished, -⟩ := build_eq_ok h
    obtain ⟨rfl, -⟩ := assemble_eq_ok hassemble
    refine hfinished.provides (assembled_unnested hbase hassemble) fun request hrequest => ?_
    exact (assembled_mountpoints hassemble _).2 (.inr (.inl ⟨request, hrequest, rfl⟩))
  · intro request options source result h
    obtain ⟨table, hassemble, hfinished, -⟩ := buildCustom_eq_ok h
    have hdevice : ∀ {index : Nat} {device : Partition}, table.partitions[index]? = some device →
        ∃ new, result.partitions[index]? = some new ∧ device.size ≤ new.size := by
      intro index device hget
      obtain ⟨new, hnew, hgrown⟩ := getElem?_of_forall₂ hfinished.resembles.partitions hget
      exact ⟨new, hnew, hgrown.1.size⟩
    refine ⟨hfinished.provides (customAssembled_unnested hassemble)
      fun sized hsized => customAssembled_mounted hassemble hsized,
      fun group hgroup => ?_, fun volume hvolume => ?_⟩
    · obtain ⟨index, device, hindex, hget, hsize⟩ := customAssembled_volumeGroup hassemble hgroup
      obtain ⟨new, hnew, hle⟩ := hdevice hget
      exact ⟨index, new, hfinished.resembles.volumeGroupIndex?_eq.trans hindex, hnew, hsize ▸ hle⟩
    · obtain ⟨index, device, hindex, hget, hsize⟩ := customAssembled_btrfs hassemble hvolume
      obtain ⟨new, hnew, hle⟩ := hdevice hget
      exact ⟨index, new, hfinished.resembles.btrfsIndex?_eq.trans hindex, hnew, hsize ▸ hle⟩

/-- A disk with nothing but an encrypted root filesystem. -/
def PartitionTable.encryptedDisk : PartitionTable :=
  { PartitionTable.empty .gpt with
    partitions := [.new 0 .rootAmd64
      (some (.luks ⟨none, none, defaultCipher, .filesystem (.new .xfs Path.root)⟩))] }

/-- A request for a volume group with one logical volume. -/
def PartitioningRequest.oneVolume : PartitioningRequest :=
  ⟨0, none, some [⟨"", 7, [⟨"", .new "/var" 5⟩]⟩], none⟩

theorem built_space_encryptedDisk :
    (PartitionTable.encryptedDisk.Unnested ∧ ∃ result,
      (build .encryptedDisk [.new "/var" 5] 1 .standard ⟨fun _ => 0, 0⟩).1.result = .ok result ∧
        result.Provides [.new "/var" 5] defaultRequiredSizes) ∧
    ∃ result, (buildCustom .oneVolume .standard ⟨fun _ => 0, 0⟩).1.result = .ok result ∧
      result.Provides [.new "/var" 5] defaultRequiredSizes ∧
        ∃ index device, result.volumeGroupIndex? = some index ∧
          result.partitions[index]? = some device ∧ 7 ≤ device.size := by
  constructor
  · have hbase : PartitionTable.encryptedDisk.Unnested := by
      refine PartitionTable.unnested_iff.2 (List.forall_mem_singleton.2 fun payload hpayload => ?_)
      obtain rfl := Option.some.inj hpayload
      exact Payload.all_luks.2 ⟨rfl, Payload.all_filesystem.2 trivial⟩
    exact ⟨hbase, _, rfl, built_space.1 .encryptedDisk [.new "/var" 5] 1 .standard
      ⟨fun _ => 0, 0⟩ _ hbase rfl⟩
  · obtain ⟨result, h⟩ : ∃ result,
        (buildCustom .oneVolume .standard ⟨fun _ => 0, 0⟩).1.result = .ok result := ⟨_, rfl⟩
    obtain ⟨hprovides, hgroup, -⟩ := built_space.2 .oneVolume .standard ⟨fun _ => 0, 0⟩ result h
    exact ⟨result, h, hprovides, hgroup _ List.mem_cons_self⟩

end DiskLayout
