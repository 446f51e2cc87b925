import DiskLayout.Mountpoint
import DiskLayout.Proofs.Path.Cleaning

/-!
# Elements of canonical paths

Cleaning splits a path at its separators, drops the elements that lead nowhere or back, and joins
the others again.  So a path from the root that cleaning keeps is a sequence of proper elements,
with one separator in front of each.

## Main results

* `Path.isCanonical_iff` — canonical absolute paths consist of proper elements
* `Path.exists_tail` — below the root such a path has one separator in front, and no more
* `checkMountpoint_eq_ok` — the mountpoints that pass are the canonical absolute paths
* `checkMountpoint_decides` — what these look like, and what is suggested in place of others
-/

namespace DiskLayout

namespace Path

/-- A path is absolute and canonical exactly if it consists of proper elements behind the root. -/
theorem isCanonical_iff {path : String} :
    isAbsolute path = true ∧ isCanonical path = true ↔
      ∃ elements, path.toList = '/' :: joinElements elements ∧
        ∀ element ∈ elements, IsElement element := by
  constructor
  · rintro ⟨habsolute, hcanonical⟩
    have hsettled := settled_reach path.toList
    rw [isAbsolute] at habsolute
    rw [habsolute] at hsettled
    refine ⟨(reach path.toList).reverse, ?_, fun element helement => ?_⟩
    · rw [isCanonical, beq_iff_eq, clean, ← String.toList_inj, String.toList_ofList, cleanChars_eq,
        habsolute] at hcanonical
      exact hcanonical.symm
    · exact hsettled.isElement element (List.mem_reverse.1 helement)
  · rintro ⟨elements, hpath, helements⟩
    have hsettled : Settled true elements.reverse :=
      .of_isElement fun element hmem => helements element (List.mem_reverse.1 hmem)
    have hclean := hsettled.cleanChars_ofElements
    rw [List.reverse_reverse, ofElements, if_pos rfl, ← hpath] at hclean
    refine ⟨?_, ?_⟩
    · rw [isAbsolute, hpath]
      rfl
    · rw [isCanonical, beq_iff_eq, clean, hclean, String.ofList_toList]

theorem flatMap_separator {elements : List (List Char)} (hne : elements ≠ []) :
    elements.flatMap ('/' :: ·) = '/' :: joinElements elements := by
  induction elements with
  | nil => exact absurd rfl hne
  | cons first others ih =>
    cases others with
    | nil => simp [joinElements]
    | cons next others =>
      rw [List.flatMap_cons, ih (List.cons_ne_nil _ _)]
      rfl

/-- A canonical absolute path other than the root has one separator in front, and no more. -/
theorem exists_tail {path : String} (habsolute : isAbsolute path = true)
    (hcanonical : isCanonical path = true) (hroot : path ≠ root) :
    ∃ first rest, path.toList = '/' :: first :: rest ∧ first ≠ '/' := by
  obtain ⟨elements, hpath, helements⟩ := isCanonical_iff.1 ⟨habsolute, hcanonical⟩
  cases elements with
  | nil => exact absurd (String.toList_inj.1 hpath) hroot
  | cons element others =>
    have helement := helements element List.mem_cons_self
    obtain ⟨first, after, rfl⟩ := List.exists_cons_of_ne_nil helement.ne_nil
    have hfirst : first ≠ '/' := fun h => helement.not_mem_separator (h ▸ List.mem_cons_self)
    cases others with
    | nil => exact ⟨first, after, hpath, hfirst⟩
    | cons next others => exact ⟨first, _, hpath, hfirst⟩

end Path

/-! ### Mountpoints -/

/-- An absolute path is not empty, so the first of the three checks follows from the second. -/
theorem checkMountpoint_eq_ok {path : String} :
    checkMountpoint path = .ok () ↔
      Path.isAbsolute path = true ∧ Path.isCanonical path = true := by
  unfold checkMountpoint
  by_cases hempty : path = ""
  · subst hempty
    simp [Path.isAbsolute]
  · cases Path.isAbsolute path <;> cases Path.isCanonical path <;> simp [hempty]

/-- A mountpoint other than the root has one separator in front, and no more. -/
theorem exists_tail_of_checkMountpoint {path : String} (h : checkMountpoint path = .ok ())
    (hroot : path ≠ Path.root) :
    ∃ first rest, path.toList = '/' :: first :: rest ∧ first ≠ '/' :=
  Path.exists_tail (checkMountpoint_eq_ok.1 h).1 (checkMountpoint_eq_ok.1 h).2 hroot

/-- A mountpoint passes exactly if it is the root or has elements with one separator in front of
each, where no element is empty, contains a separator or is one of `.` and `..`.  If an absolute
path does not pass, another path is suggested in its place, and that one passes. -/
theorem checkMountpoint_decides (path : String) :
    (checkMountpoint path = .ok () ↔
      path = "/" ∨ ∃ elements : List (List Char), elements ≠ [] ∧
        path.toList = elements.flatMap ('/' :: ·) ∧
        ∀ element ∈ elements, Path.IsElement element) ∧
    (Path.isAbsolute path = true → checkMountpoint path ≠ .ok () →
      ∃ fault, checkMountpoint path = .error fault ∧
        fault.message = "mountpoint " ++ Quoted.quote path ++
          " is not a canonical path (did you mean " ++ Quoted.quote (Path.clean path) ++ "?)" ∧
        checkMountpoint (Path.clean path) = .ok ()) := by
  refine ⟨?_, fun habsolute hrefused => ?_⟩
  · rw [checkMountpoint_eq_ok, Path.isCanonical_iff]
    constructor
    · rintro ⟨elements, hpath, helements⟩
      by_cases hnil : elements = []
      · subst hnil
        exact .inl (String.toList_inj.1 hpath)
      · exact .inr ⟨elements, hnil, by rw [hpath, Path.flatMap_separator hnil], helements⟩
    · rintro (rfl | ⟨elements, hne, hpath, helements⟩)
      · exact ⟨[], rfl, by simp⟩
      · exact ⟨elements, by rw [hpath, Path.flatMap_separator hne], helements⟩
  · have hcanonical : Path.isCanonical path = false := by
      rw [ne_eq, checkMountpoint_eq_ok, habsolute] at hrefused
      simpa using hrefused
    have hne : path ≠ "" := by
      rintro rfl
      cases habsolute
    refine ⟨.notCanonical path, ?_, rfl, checkMountpoint_eq_ok.2 ⟨?_, Path.isCanonical_clean path⟩⟩
    · simp [checkMountpoint, hne, habsolute, hcanonical]
    · rw [Path.isAbsolute_clean, habsolute]

theorem checkMountpoint_decides_dotted :
    Path.isAbsolute "/usr/./local/" = true ∧ checkMountpoint "/usr/./local/" ≠ .ok () ∧
      ∃ fault, checkMountpoint "/usr/./local/" = .error fault ∧
        fault.message = "mountpoint " ++ Quoted.quote "/usr/./local/" ++
          " is not a canonical path (did you mean " ++
            Quoted.quote (Path.clean "/usr/./local/") ++ "?)" ∧
        checkMountpoint (Path.clean "/usr/./local/") = .ok () := by
  have habsolute : Path.isAbsolute "/usr/./local/" = true := by decide
  have hrefused : checkMountpoint "/usr/./local/" ≠ .ok () := by decide
  exact ⟨habsolute, hrefused, (checkMountpoint_decides "/usr/./local/").2 habsolute hrefused⟩

end DiskLayout
