import DiskLayout.Proofs.Outcome
import DiskLayout.Table.Volumes
import Mathlib.Data.List.Basic
import Mathlib.Data.List.Find
import Mathlib.Data.List.Nodup
import Mathlib.Data.List.Perm.Subperm

/-!
# Names of new volumes

A logical volume gets the first candidate for its mountpoint that is not taken.  Without its digits
at the end every candidate is the base that all candidates of a mountpoint have in common, so two
mountpoints compete for all of their candidates or for none.  Two volumes that are named one after
the other therefore get the same two names in either order.

## Main definitions

* `VolumeGroup.freeName?` — the first candidate that is not taken

## Main results

* `VolumeGroup.candidates_eq_or_disjoint` — mountpoints with common candidates have the same ones
* `VolumeGroup.exists_freeName?` — a mountpoint is named where at most one hundred names are taken
* `VolumeGroup.freeName?_swap` — two names in either order
* `VolumeGroup.newVolume_eq_ok`, `Btrfs.newSubvolume_eq_ok` — when a volume is made
-/

namespace DiskLayout

namespace VolumeGroup

/-! ### Candidates -/

/-- What all candidates of a mountpoint start with. -/
def candidateBase (mountpoint : String) : String := stem mountpoint ++ "lv"

theorem isDigit_of_mem_twoDigits {n : Nat} {c : Char} (h : c ∈ (twoDigits n).toList) :
    c.isDigit = true := by
  have hnumber : ∀ {c}, c ∈ (toString n).toList → c.isDigit = true := by
    intro c hc
    rw [Nat.toString_eq_repr, Nat.toList_repr] at hc
    exact Nat.isDigit_of_mem_toDigits (by decide) (by decide) hc
  unfold twoDigits at h
  rw [String.toList_append, List.mem_append] at h
  rcases h with hzero | hn
  · split at hzero
    · obtain rfl : c = '0' := by simpa using hzero
      rfl
    · simp at hzero
  · exact hnumber hn

/-- Every candidate is the base of its mountpoint with some digits behind it. -/
theorem exists_digits_of_mem_candidates {mountpoint name : String}
    (h : name ∈ candidates mountpoint) :
    ∃ digits, (∀ c ∈ digits, c.isDigit = true) ∧
      name.toList = (candidateBase mountpoint).toList ++ digits := by
  rcases List.mem_cons.1 h with rfl | h
  · exact ⟨[], by simp, (List.append_nil _).symm⟩
  · obtain ⟨n, -, rfl⟩ := List.mem_map.1 h
    exact ⟨(twoDigits n).toList, fun _ => isDigit_of_mem_twoDigits, String.toList_append⟩

/-- Without the digits at its end a candidate is the base of its mountpoint. -/
theorem dropWhile_isDigit_candidate {mountpoint name : String} (h : name ∈ candidates mountpoint) :
    name.toList.reverse.dropWhile Char.isDigit = (candidateBase mountpoint).toList.reverse := by
  obtain ⟨digits, hdigits, hname⟩ := exists_digits_of_mem_candidates h
  rw [hname, List.reverse_append, List.dropWhile_append_of_pos fun c hc =>
    hdigits c (List.mem_reverse.1 hc)]
  -- The base ends in a letter.
  rw [candidateBase, String.toList_append, List.reverse_append]
  rfl

/-- Mountpoints with a common candidate have all candidates in common. -/
theorem candidates_eq_or_disjoint (first second : String) :
    candidates first = candidates second ∨ ∀ name ∈ candidates first, name ∉ candidates second := by
  by_cases hbase : candidateBase first = candidateBase second
  · left
    unfold candidateBase at hbase
    rw [candidates, candidates, hbase]
  · refine .inr fun name hfirst hsecond => hbase ?_
    have hsame := (dropWhile_isDigit_candidate hfirst).symm.trans
      (dropWhile_isDigit_candidate hsecond)
    exact String.toList_inj.1 (List.reverse_injective hsame)

/-- The number that a text of digits spells. -/
def numberOfDigits (text : String) : Nat :=
  text.toList.foldl (fun value digit => 10 * value + (digit.toNat - 48)) 0

theorem numberOfDigits_twoDigits {n : Nat} (h : n < 100) : numberOfDigits (twoDigits n) = n := by
  have hall : ∀ n < 100, numberOfDigits (twoDigits n) = n := by decide +kernel
  exact hall n h

theorem twoDigits_ne_empty (n : Nat) : twoDigits n ≠ "" := by
  intro hempty
  have hlength := congrArg String.length hempty
  simp [twoDigits] at hlength

/-- The candidates of a mountpoint are distinct, for so are the suffixes. -/
theorem candidates_nodup (mountpoint : String) : (candidates mountpoint).Nodup := by
  have hsuffixed : ((List.range 100).map fun n =>
      stem mountpoint ++ "lv" ++ twoDigits n).Nodup := by
    refine List.Nodup.map_on (fun first hfirst second hsecond hsame => ?_) List.nodup_range
    have hdigits : twoDigits first = twoDigits second := by
      simpa using hsame
    rw [← numberOfDigits_twoDigits (List.mem_range.1 hfirst), hdigits,
      numberOfDigits_twoDigits (List.mem_range.1 hsecond)]
  refine List.nodup_cons.2 ⟨fun hmem => ?_, hsuffixed⟩
  obtain ⟨n, -, hsame⟩ := List.mem_map.1 hmem
  exact twoDigits_ne_empty n (by simpa using hsame)

theorem length_candidates (mountpoint : String) : (candidates mountpoint).length = 101 := by
  simp [candidates]

theorem ne_empty_of_mem_candidates {mountpoint name : String}
    (h : name ∈ candidates mountpoint) : name ≠ "" := by
  rintro rfl
  rcases List.mem_cons.1 h with h | h
  · simp at h
  · obtain ⟨n, -, h⟩ := List.mem_map.1 h
    simp at h

/-! ### Free names -/

/-- The first candidate for a mountpoint that is not taken. -/
def freeName? (taken : List String) (mountpoint : String) : Option String :=
  (candidates mountpoint).find? fun name => !taken.contains name

/-- The name of a mountpoint depends on which of its candidates are taken. -/
theorem freeName?_congr {taken others : List String} {mountpoint : String}
    (h : ∀ name ∈ candidates mountpoint, name ∈ taken ↔ name ∈ others) :
    freeName? taken mountpoint = freeName? others mountpoint := by
  unfold freeName?
  refine List.find?_congr fun name hname => ?_
  rw [Bool.eq_iff_iff]
  simp [h name hname]

theorem mem_of_freeName? {taken : List String} {mountpoint name : String}
    (h : freeName? taken mountpoint = some name) : name ∈ candidates mountpoint :=
  List.mem_of_find?_eq_some h

theorem not_mem_of_freeName? {taken : List String} {mountpoint name : String}
    (h : freeName? taken mountpoint = some name) : name ∉ taken := by
  simpa using List.find?_some h

/-- No more than one hundred names can take all candidates of a mountpoint. -/
theorem exists_freeName? {taken : List String} (h : taken.length ≤ 100) (mountpoint : String) :
    ∃ name, freeName? taken mountpoint = some name := by
  by_contra hnone
  have hall : candidates mountpoint ⊆ taken := by
    have hfind : freeName? taken mountpoint = none := by
      cases hfree : freeName? taken mountpoint with
      | none => rfl
      | some name => exact absurd ⟨name, hfree⟩ hnone
    intro name hname
    simpa using List.find?_eq_none.1 hfind name hname
  have hlength := (List.subperm_of_subset (candidates_nodup mountpoint) hall).length_le
  rw [length_candidates] at hlength
  omega

/-- Two mountpoints that are named one after the other get the same names in either order, but for
an exchange. -/
theorem freeName?_swap {taken : List String} {first second name other : String}
    (hfirst : freeName? taken first = some name)
    (hsecond : freeName? (taken ++ [name]) second = some other) :
    ∃ other' name', freeName? taken second = some other' ∧
      freeName? (taken ++ [other']) first = some name' ∧ [name, other].Perm [other', name'] := by
  rcases candidates_eq_or_disjoint first second with hsame | hdisjoint
  · -- Mountpoints with the same candidates exchange their names.
    refine ⟨name, other, ?_, ?_, .refl _⟩
    · rwa [freeName?, ← hsame]
    · rwa [freeName?, hsame]
  · have hkept : ∀ {mountpoint added : String}, added ∉ candidates mountpoint →
        freeName? (taken ++ [added]) mountpoint = freeName? taken mountpoint := by
      intro mountpoint added hadded
      refine freeName?_congr fun candidate hcandidate => ?_
      rw [List.mem_append, List.mem_singleton, or_iff_left]
      rintro rfl
      exact hadded hcandidate
    have hname := hdisjoint name (mem_of_freeName? hfirst)
    rw [hkept hname] at hsecond
    have hother : other ∉ candidates first := fun hmem =>
      hdisjoint other hmem (mem_of_freeName? hsecond)
    exact ⟨other, name, hsecond, (hkept hother).trans hfirst, .swap _ _ _⟩

theorem generateName_eq_ok {group : VolumeGroup} {mountpoint name : String} :
    group.generateName mountpoint = .ok name ↔
      freeName? (group.logicalVolumes.map LogicalVolume.name) mountpoint = some name := by
  have htaken : ∀ name, group.isTaken name =
      (group.logicalVolumes.map LogicalVolume.name).contains name := by
    intro name
    rw [Bool.eq_iff_iff]
    simp [isTaken]
  have hfree : freeName? (group.logicalVolumes.map LogicalVolume.name) mountpoint =
      (candidates mountpoint).find? fun name => !group.isTaken name := by
    simp only [freeName?, htaken]
  rw [hfree, generateName]
  cases (candidates mountpoint).find? fun name => !group.isTaken name <;> simp

theorem newVolume_eq_ok {group : VolumeGroup} {mountpoint : String} {kind : FilesystemType}
    {size : Nat} {volume : LogicalVolume} :
    group.newVolume mountpoint kind size = .ok volume ↔
      ∃ name, freeName? (group.logicalVolumes.map LogicalVolume.name) mountpoint = some name ∧
        volume = ⟨name, volumeSize (.new kind mountpoint) size,
          some (.filesystem (.new kind mountpoint))⟩ := by
  unfold newVolume
  simp only [bind_eq_ok, generateName_eq_ok]
  exact exists_congr fun name => and_congr_right fun _ =>
    (Except.ok.injEq _ _).to_iff.trans eq_comm

end VolumeGroup

theorem Btrfs.newSubvolume_eq_ok {volume : Btrfs} {mountpoint : String} {size : Nat}
    {new : Subvolume} :
    volume.newSubvolume mountpoint size = .ok new ↔
      subvolumeName mountpoint ∉ volume.subvolumes.map Subvolume.name ∧
        new = ⟨subvolumeName mountpoint, mountpoint, size, some defaultCompression⟩ := by
  have htaken : (volume.subvolumes.any fun subvolume =>
      subvolume.name == subvolumeName mountpoint) = true ↔
        subvolumeName mountpoint ∈ volume.subvolumes.map Subvolume.name := by
    simp
  unfold newSubvolume
  simp only [htaken]
  split <;> simp [*, eq_comm]

end DiskLayout
