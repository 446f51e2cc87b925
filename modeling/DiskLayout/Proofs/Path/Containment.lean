import DiskLayout.Path

/-!
# Paths below other paths

A path that contains another one is a prefix of it.  Paths that contain the same path can therefore
be told apart by their lengths, and in the order of texts a path comes after all that contain it.

## Main results

* `Path.hasBase_root`, `Path.isAbsolute_of_hasBase` — what the root contains, and what any path does
* `Path.hasBase_iff` — a path contains another one if it ends where the other has a separator
* `Path.eq_of_hasBase` — paths of the same length that contain the same path are the same
* `Path.lt_of_hasBase` — a path comes after those above it
-/

namespace DiskLayout

theorem Path.ne_empty_of_isAbsolute {path : String} (h : Path.isAbsolute path = true) :
    path ≠ "" := by
  rintro rfl
  cases h

theorem Path.prefix_of_hasBase {path base : String} (h : Path.hasBase path base = true) :
    base.toList <+: path.toList := by
  unfold Path.hasBase at h
  split at h
  · rename_i hroot
    subst hroot
    obtain ⟨others, hothers⟩ : ∃ others, path.toList = '/' :: others := by
      simpa [Path.isAbsolute, List.head?_eq_some_iff] using h
    rw [hothers]
    exact ⟨others, rfl⟩
  · rw [Bool.and_eq_true, List.isPrefixOf_iff_prefix] at h
    exact h.1

/-- The root contains exactly the absolute paths. -/
theorem Path.hasBase_root (path : String) : Path.hasBase path Path.root = Path.isAbsolute path :=
  if_pos rfl

/-- Whatever an absolute path contains is absolute. -/
theorem Path.isAbsolute_of_hasBase {path base : String} (h : Path.hasBase path base = true)
    (hbase : Path.isAbsolute base = true) : Path.isAbsolute path = true := by
  unfold Path.isAbsolute at hbase ⊢
  rw [beq_iff_eq, List.head?_eq_some_iff] at hbase ⊢
  obtain ⟨others, hothers⟩ := hbase
  obtain ⟨rest, hrest⟩ := prefix_of_hasBase h
  rw [hothers] at hrest
  exact ⟨others ++ rest, hrest.symm⟩

/-- A path other than the root contains itself and what continues behind a separator. -/
theorem Path.hasBase_iff {path base : String} (hbase : base ≠ Path.root) :
    Path.hasBase path base = true ↔
      path = base ∨ ∃ after, path.toList = base.toList ++ '/' :: after := by
  rw [Path.hasBase, if_neg hbase, Bool.and_eq_true, List.isPrefixOf_iff_prefix]
  constructor
  · rintro ⟨⟨rest, hrest⟩, hnext⟩
    rw [← hrest, List.drop_left] at hnext
    cases rest with
    | nil =>
      left
      rwa [List.append_nil, String.toList_inj, eq_comm] at hrest
    | cons next after =>
      obtain rfl := beq_iff_eq.1 hnext
      exact .inr ⟨after, hrest.symm⟩
  · rintro (rfl | ⟨after, hafter⟩)
    · exact ⟨List.prefix_rfl, by simp⟩
    · rw [hafter, List.drop_left]
      exact ⟨List.prefix_append _ _, rfl⟩

theorem exists_append_of_prefix {first second : String} (h : first.toList <+: second.toList) :
    ∃ rest, second = first ++ rest := by
  obtain ⟨rest, hrest⟩ := h
  refine ⟨String.ofList rest, ?_⟩
  rw [← String.toList_inj, String.toList_append, String.toList_ofList, hrest]

theorem size_le_of_prefix {first second : String} (h : first.toList <+: second.toList) :
    first.utf8ByteSize ≤ second.utf8ByteSize := by
  obtain ⟨rest, rfl⟩ := exists_append_of_prefix h
  rw [String.utf8ByteSize_append]
  exact Nat.le_add_right _ _

theorem eq_of_prefix_of_le {first second : String} (h : first.toList <+: second.toList)
    (hsize : second.utf8ByteSize ≤ first.utf8ByteSize) : first = second := by
  obtain ⟨rest, rfl⟩ := exists_append_of_prefix h
  have hempty : rest.utf8ByteSize = 0 := by
    rw [String.utf8ByteSize_append] at hsize
    omega
  rw [String.utf8ByteSize_eq_zero_iff.1 hempty, String.append_empty]

/-- Paths of the same length that contain the same path are the same. -/
theorem Path.eq_of_hasBase {path first second : String} (hfirst : Path.hasBase path first = true)
    (hsecond : Path.hasBase path second = true)
    (hsize : first.utf8ByteSize = second.utf8ByteSize) : first = second := by
  rcases List.prefix_or_prefix_of_prefix (prefix_of_hasBase hfirst) (prefix_of_hasBase hsecond)
    with h | h
  · exact eq_of_prefix_of_le h (Nat.le_of_eq hsize.symm)
  · exact (eq_of_prefix_of_le h (Nat.le_of_eq hsize)).symm

/-- A path comes after every other path that contains it. -/
theorem Path.lt_of_hasBase {path base : String} (h : Path.hasBase path base = true)
    (hne : base ≠ path) : base < path := by
  -- A prefix is never greater, and what is neither greater nor less is the same.
  have hnot : ¬ path < base := (prefix_of_hasBase h).le
  exact Classical.byContradiction fun hlt => hne (String.le_antisymm hnot hlt)

end DiskLayout
