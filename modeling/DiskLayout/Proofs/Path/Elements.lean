import DiskLayout.Proofs.Allocation.Minimums
import DiskLayout.Proofs.Path.Canonical
import Mathlib.Order.RelClasses

/-!
# The order of canonical paths

Whether one path contains another is decided on their texts, with a case of its own for the root.
On canonical absolute paths this is the order of their elements: a path contains those whose
elements begin with its own.  A separator where the shorter text ends is what keeps an element from
being cut in two.

## Main definitions

* `Path.elements` — the texts between separators that are not empty
* `CanonicalPath` — canonical absolute paths, ordered from the root down

## Main results

* `Path.elements_append` — a separator ends the elements before it
* `CanonicalPath.toList_text`, `CanonicalPath.ext_elements` — a path is determined by its elements
* `CanonicalPath.hasBase_iff_elements` — containing a path is the order of prefixes
* `CanonicalPath.elementOrder` — what follows for several paths that contain the same path
-/

namespace DiskLayout

namespace Path

/-- The elements of a path, in order: the texts between its separators that are not empty. -/
def elements (path : String) : List (List Char) :=
  (splitElements path.toList).filter fun element => !element.isEmpty

theorem elements_root : elements root = [] := by
  decide

/-- A separator ends the elements before it. -/
theorem elements_append {path front : String} {back : List Char}
    (h : path.toList = front.toList ++ '/' :: back) :
    elements path = elements front ++ elements (String.ofList back) := by
  rw [elements, h, splitElements_append, List.filter_append, elements, elements,
    String.toList_ofList]

theorem elements_eq {path : String} {parts : List (List Char)}
    (hpath : path.toList = '/' :: joinElements parts) (hparts : ∀ part ∈ parts, IsElement part) :
    elements path = parts := by
  by_cases hnil : parts = []
  · subst hnil
    rw [String.toList_inj.1 (show path.toList = root.toList from hpath), elements_root]
  · -- Nothing stands in front of the first separator.
    have hsplit : splitElements path.toList = [] :: parts := by
      rw [hpath, ← List.nil_append ('/' :: _), splitElements_append,
        splitElements_joinElements hnil fun part hmem => (hparts part hmem).not_mem_separator]
      rfl
    rw [elements, hsplit, List.filter_cons_of_neg (by simp), List.filter_eq_self]
    intro part hmem
    simpa using (hparts part hmem).ne_nil

end Path

/-- A path from the root that cleaning keeps. -/
@[ext]
structure CanonicalPath where
  /-- The path itself. -/
  text : String
  absolute : Path.isAbsolute text = true
  canonical : Path.isCanonical text = true

namespace CanonicalPath

open DiskLayout.Path (elements hasBase)

variable {path base : CanonicalPath}

/-- The text of a canonical path has a separator in front of each element. -/
theorem toList_text (path : CanonicalPath) :
    path.text.toList = '/' :: Path.joinElements (elements path.text) := by
  obtain ⟨parts, hpath, hparts⟩ := Path.isCanonical_iff.1 ⟨path.absolute, path.canonical⟩
  rw [Path.elements_eq hpath hparts, hpath]

theorem ext_elements (h : elements path.text = elements base.text) : path = base := by
  apply CanonicalPath.ext
  rw [← String.toList_inj, path.toList_text, base.toList_text, h]

theorem elements_eq_nil_iff : elements path.text = [] ↔ path.text = Path.root := by
  constructor
  · intro hnil
    apply String.toList_inj.1
    rw [path.toList_text, hnil]
    rfl
  · intro hroot
    rw [hroot, Path.elements_root]

/-- A path contains those whose elements begin with its own. -/
theorem hasBase_iff_elements :
    hasBase path.text base.text = true ↔ elements base.text <+: elements path.text := by
  by_cases hroot : base.text = Path.root
  · rw [hroot, Path.hasBase_root, Path.elements_root]
    exact iff_of_true path.absolute List.nil_prefix
  rw [Path.hasBase_iff hroot]
  constructor
  · rintro (heq | ⟨after, hafter⟩)
    · exact heq ▸ List.prefix_rfl
    · exact ⟨_, (Path.elements_append hafter).symm⟩
  · rintro ⟨rest, hrest⟩
    by_cases hnil : rest = []
    · rw [hnil, List.append_nil] at hrest
      exact .inl (congrArg text (ext_elements hrest)).symm
    · -- What follows the elements of the base has a separator in front of it.
      have hbase : elements base.text ≠ [] := fun h => hroot (elements_eq_nil_iff.1 h)
      refine .inr ⟨Path.joinElements rest, ?_⟩
      rw [path.toList_text, base.toList_text, ← hrest, ← Path.flatMap_separator hbase,
        ← Path.flatMap_separator hnil, ← List.flatMap_append,
        Path.flatMap_separator (List.append_ne_nil_of_left_ne_nil hbase rest)]

/-- Canonical paths are ordered from the root down: what contains a path comes before it. -/
instance : PartialOrder CanonicalPath where
  le base path := hasBase path.text base.text = true
  le_refl _ := hasBase_iff_elements.2 List.prefix_rfl
  le_trans _ _ _ hmiddle hpath := hasBase_iff_elements.2
    ((hasBase_iff_elements.1 hmiddle).trans (hasBase_iff_elements.1 hpath))
  le_antisymm _ _ h h' := by
    rw [hasBase_iff_elements] at h h'
    exact ext_elements (h.eq_of_length_le h'.length_le)

theorem le_iff : base ≤ path ↔ hasBase path.text base.text = true := Iff.rfl

/-- Of two paths that contain the same path one contains the other. -/
theorem le_total_of_le {first second : CanonicalPath} (hfirst : first ≤ path)
    (hsecond : second ≤ path) : first ≤ second ∨ second ≤ first := by
  rw [le_iff, hasBase_iff_elements] at hfirst hsecond ⊢
  rw [le_iff, hasBase_iff_elements]
  exact List.prefix_or_prefix_of_prefix hfirst hsecond

/-- Of two paths that contain the same path the one that is no longer contains the other. -/
theorem le_of_size_le {first second : CanonicalPath} (hfirst : first ≤ path)
    (hsecond : second ≤ path) (hsize : first.text.utf8ByteSize ≤ second.text.utf8ByteSize) :
    first ≤ second := by
  rcases le_total_of_le hfirst hsecond with h | h
  · exact h
  · exact (CanonicalPath.ext (eq_of_prefix_of_le (Path.prefix_of_hasBase h) hsize)).ge

/-- Containing a path is, on canonical absolute paths, the prefix order of their elements, of which
the root has none.  So it is a partial order, of two paths that contain the same path one contains
the other, and these are the same if their texts are of the same length.  Where several mountpoints
contain a directory, exactly one of them holds it, and all the others contain that one. -/
theorem elementOrder :
    (∀ path base : CanonicalPath,
      hasBase path.text base.text = true ↔ elements base.text <+: elements path.text) ∧
    elements Path.root = [] ∧
    IsPartialOrder CanonicalPath (fun base path => hasBase path.text base.text = true) ∧
    (∀ path first second : CanonicalPath, hasBase path.text first.text = true →
      hasBase path.text second.text = true →
      (hasBase second.text first.text = true ∨ hasBase first.text second.text = true) ∧
        (first.text.utf8ByteSize = second.text.utf8ByteSize → first = second)) ∧
    ∀ (mountpoints : List CanonicalPath) (directory : CanonicalPath),
      (∃ mountpoint ∈ mountpoints, hasBase directory.text mountpoint.text = true) →
      ∃ holder ∈ mountpoints,
        holder? (mountpoints.map text) directory.text = some holder.text ∧
        (∀ mountpoint, IsHolder (mountpoints.map text) directory.text mountpoint ↔
          mountpoint = holder.text) ∧
        ∀ mountpoint ∈ mountpoints, hasBase directory.text mountpoint.text = true →
          hasBase holder.text mountpoint.text = true := by
  refine ⟨fun _ _ => hasBase_iff_elements, Path.elements_root,
    inferInstanceAs (IsPartialOrder CanonicalPath (· ≤ ·)), ?_, ?_⟩
  · intro path first second hfirst hsecond
    exact ⟨le_total_of_le hfirst hsecond, fun hsize =>
      CanonicalPath.ext (Path.eq_of_hasBase hfirst hsecond hsize)⟩
  · rintro mountpoints directory ⟨mountpoint, hmem, hbase⟩
    obtain ⟨_, hfound, hholder⟩ := exists_isHolder (List.mem_map_of_mem hmem) hbase
    obtain ⟨holder, hholds, rfl⟩ := List.mem_map.1 hholder.1
    refine ⟨holder, hholds, hfound, fun other => ⟨fun h => h.unique hholder, ?_⟩, ?_⟩
    · rintro rfl
      exact hholder
    · intro other hother hcontains
      exact le_of_size_le hcontains hholder.2.1
        (hholder.2.2 other.text (List.mem_map_of_mem hother) hcontains)

/-- A mountpoint. -/
def mail : CanonicalPath := ⟨"/srv/mail", by decide, by decide⟩

/-- A mountpoint that begins like `mail` and is not below it. -/
def mailbox : CanonicalPath := ⟨"/srv/mailbox", by decide, by decide⟩

/-- A directory below `mail`. -/
def inbox : CanonicalPath := ⟨"/srv/mail/new", by decide, by decide⟩

theorem elementOrder_mail :
    hasBase mailbox.text mail.text = false ∧
    hasBase inbox.text mail.text = true ∧ hasBase inbox.text inbox.text = true ∧
    (hasBase inbox.text mail.text = true ∨ hasBase mail.text inbox.text = true) ∧
    ∃ holder ∈ [mailbox, mail], holder? ["/srv/mailbox", "/srv/mail"] "/srv/mail/new" =
      some holder.text := by
  obtain ⟨hiff, -, -, hseveral, hholder⟩ := elementOrder
  have hapart : ¬ elements mail.text <+: elements mailbox.text := by decide
  have hmail : hasBase inbox.text mail.text = true := by decide
  have hself : hasBase inbox.text inbox.text = true := by decide
  refine ⟨Bool.eq_false_iff.2 fun h => hapart ((hiff mailbox mail).1 h), hmail, hself,
    (hseveral inbox mail inbox hmail hself).1, ?_⟩
  obtain ⟨holder, hmem, hfound, -⟩ := hholder [mailbox, mail] inbox ⟨mail, by simp, hmail⟩
  exact ⟨holder, hmem, hfound⟩

end CanonicalPath

end DiskLayout
