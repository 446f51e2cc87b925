import DiskLayout.Path
import Mathlib.Data.List.Basic

/-!
# Cleaning paths

Cleaning goes through the elements of a path and keeps a stack of those that it has reached.  What
is on the stack determines the clean path, and going through the clean path leads to the same stack
again.  So nothing that follows a path can tell whether the path has been cleaned before.

## Main definitions

* `Path.IsElement` — an element that leads further down
* `Path.Settled` — the stacks that cleaning reaches
* `Path.ofElements` — the path that a stack stands for

## Main results

* `Path.splitElements_append`, `Path.splitElements_joinElements` — splitting and joining
* `Path.Settled.step`, `Path.settled_reach` — one step and a whole path lead to such a stack
* `Path.Settled.reach_ofElements` — the clean path leads to the stack it was made from
* `Path.clean_composes` — cleaning the front of a path first makes no difference
-/

namespace DiskLayout.Path

/-! ### Splitting and joining -/

theorem splitElements_ne_nil (path : List Char) : splitElements path ≠ [] := by
  cases path with
  | nil => simp [splitElements]
  | cons c rest =>
    rw [splitElements]
    split
    · simp
    · split <;> simp

/-- A separator ends the elements before it. -/
theorem splitElements_append (front back : List Char) :
    splitElements (front ++ '/' :: back) = splitElements front ++ splitElements back := by
  induction front with
  | nil => simp [splitElements]
  | cons c rest ih =>
    rw [List.cons_append, splitElements, splitElements]
    by_cases hc : c = '/'
    · simp [hc, ih]
    · obtain ⟨first, others, hsplit⟩ := List.exists_cons_of_ne_nil (splitElements_ne_nil rest)
      simp [hc, ih, hsplit]

theorem splitElements_eq_singleton {element : List Char} (h : '/' ∉ element) :
    splitElements element = [element] := by
  induction element with
  | nil => rfl
  | cons c rest ih =>
    rw [List.mem_cons, not_or] at h
    rw [splitElements, if_neg (Ne.symm h.1), ih h.2]

/-- Elements without separators are found again when they have been joined. -/
theorem splitElements_joinElements {elements : List (List Char)} (hne : elements ≠ [])
    (h : ∀ element ∈ elements, '/' ∉ element) :
    splitElements (joinElements elements) = elements := by
  induction elements with
  | nil => exact absurd rfl hne
  | cons first others ih =>
    rw [List.forall_mem_cons] at h
    cases others with
    | nil => exact splitElements_eq_singleton h.1
    | cons next others =>
      rw [joinElements, splitElements_append, splitElements_eq_singleton h.1,
        ih (List.cons_ne_nil _ _) h.2]
      rfl

theorem not_mem_of_mem_splitElements {path element : List Char}
    (h : element ∈ splitElements path) : '/' ∉ element := by
  induction path generalizing element with
  | nil =>
    obtain rfl := List.mem_singleton.1 h
    exact List.not_mem_nil
  | cons c rest ih =>
    rw [splitElements] at h
    split at h
    · rcases List.mem_cons.1 h with rfl | hother
      · exact List.not_mem_nil
      · exact ih hother
    · rename_i hc
      have hhead : ∀ first, '/' ∉ first → '/' ∉ c :: first := fun first hfirst => by
        simp [Ne.symm hc, hfirst]
      -- The character goes to the first element of the rest.
      split at h
      · obtain rfl := List.mem_singleton.1 h
        exact hhead [] List.not_mem_nil
      · rename_i first others hsplit
        rw [hsplit] at ih
        rcases List.mem_cons.1 h with rfl | hother
        · exact hhead first (ih List.mem_cons_self)
        · exact ih (List.mem_cons_of_mem _ hother)

/-! ### The stack -/

/-- Whether a text is what cleaning keeps of a path from the root: it has no separator in it, and it
leads to another directory, below the one that is reached. -/
structure IsElement (element : List Char) : Prop where
  ne_nil : element ≠ []
  not_mem_separator : '/' ∉ element
  ne_dot : element ≠ ['.']
  ne_dots : element ≠ ['.', '.']

/-- Whether a stack, the latest element first, is one that cleaning reaches.  Proper elements may
stand on anything, but `..` only in relative paths and on nothing else than `..`. -/
inductive Settled (absolute : Bool) : List (List Char) → Prop
  | start : Settled absolute []
  | ascend {reached : List (List Char)} (hrelative : absolute = false)
      (hreached : Settled absolute reached)
      (hlatest : ∀ latest ∈ reached.head?, latest = ['.', '.']) :
      Settled absolute (['.', '.'] :: reached)
  | descend {reached : List (List Char)} {element : List Char} (helement : IsElement element)
      (hreached : Settled absolute reached) : Settled absolute (element :: reached)

theorem step_of_isElement {element : List Char} (h : IsElement element) (absolute : Bool)
    (reached : List (List Char)) : step absolute reached element = element :: reached := by
  simp [step, h.ne_nil, h.ne_dot, h.ne_dots]

/-- The stack to which the elements of a path lead. -/
def reach (path : List Char) : List (List Char) :=
  (splitElements path).foldl (step (path.head? == some '/')) []

/-- The path that consists of some elements, in order. -/
def ofElements (absolute : Bool) (elements : List (List Char)) : List Char :=
  if absolute then '/' :: joinElements elements
  else if elements = [] then ['.']
  else joinElements elements

theorem cleanChars_eq (path : List Char) :
    cleanChars path = ofElements (path.head? == some '/') (reach path).reverse := rfl

namespace Settled

variable {absolute : Bool} {reached : List (List Char)}

/-- A step leads from one such stack to another. -/
theorem step (h : Settled absolute reached) {element : List Char} (helement : '/' ∉ element) :
    Settled absolute (Path.step absolute reached element) := by
  unfold Path.step
  split
  · exact h
  rename_i hstays
  rw [not_or] at hstays
  split
  · rename_i hdots
    subst hdots
    cases h with
    | start =>
      cases absolute with
      | true => exact .start
      | false => exact .ascend rfl .start (by simp)
    | ascend hrelative hreached hlatest =>
      subst hrelative
      exact .ascend rfl (.ascend rfl hreached hlatest) (by simp)
    | descend hlatest hreached =>
      -- The latest element is a proper one, and it is taken back.
      simpa only [if_neg hlatest.ne_dots] using hreached
  · rename_i hdots
    exact .descend ⟨hstays.1, helement, hstays.2, hdots⟩ h

theorem foldl (h : Settled absolute reached) {elements : List (List Char)}
    (helements : ∀ element ∈ elements, '/' ∉ element) :
    Settled absolute (elements.foldl (Path.step absolute) reached) := by
  induction elements generalizing reached with
  | nil => exact h
  | cons element others ih =>
    rw [List.forall_mem_cons] at helements
    exact ih (h.step helements.1) helements.2

theorem ne_nil (h : Settled absolute reached) : ∀ element ∈ reached, element ≠ [] := by
  induction h with
  | start => simp
  | ascend _ _ _ ih => simpa using ih
  | descend helement _ ih => simpa using ⟨helement.ne_nil, ih⟩

theorem not_mem_separator (h : Settled absolute reached) : ∀ element ∈ reached, '/' ∉ element := by
  induction h with
  | start => simp
  | ascend _ _ _ ih => simpa using ih
  | descend helement _ ih => simpa using ⟨helement.not_mem_separator, ih⟩

/-- From the root nothing but proper elements is reached. -/
theorem isElement (h : Settled true reached) : ∀ element ∈ reached, IsElement element := by
  induction h with
  | start => simp
  | ascend hrelative => cases hrelative
  | descend helement _ ih => simpa using ⟨helement, ih⟩

theorem of_isElement (h : ∀ element ∈ reached, IsElement element) : Settled absolute reached := by
  induction reached with
  | nil => exact .start
  | cons latest earlier ih =>
    rw [List.forall_mem_cons] at h
    exact .descend h.1 (ih h.2)

/-- The elements of such a stack, taken in order, lead to it. -/
theorem foldl_reverse (h : Settled absolute reached) :
    reached.reverse.foldl (Path.step absolute) [] = reached := by
  induction h with
  | start => rfl
  | @ascend reached hrelative _ hlatest ih =>
    rw [List.reverse_cons, List.foldl_append, ih, List.foldl_cons, List.foldl_nil]
    cases reached with
    | nil => simp [Path.step, hrelative]
    | cons latest earlier =>
      obtain rfl := hlatest latest rfl
      simp [Path.step, hrelative]
  | descend helement _ ih =>
    rw [List.reverse_cons, List.foldl_append, ih]
    exact step_of_isElement helement _ _

/-- The path that a stack stands for is not empty, and it starts with a separator exactly if it is
to be absolute. -/
theorem exists_cons_ofElements (h : Settled absolute reached) :
    ∃ c after, ofElements absolute reached.reverse = c :: after ∧ (c == '/') = absolute := by
  cases absolute with
  | true => exact ⟨'/', _, rfl, rfl⟩
  | false =>
    rw [ofElements, if_neg Bool.false_ne_true]
    split
    · exact ⟨'.', [], rfl, rfl⟩
    · rename_i hne
      obtain ⟨first, others, hsplit⟩ := List.exists_cons_of_ne_nil hne
      have hmem : first ∈ reached := by
        rw [← List.mem_reverse, hsplit]
        exact List.mem_cons_self
      obtain ⟨c, after, rfl⟩ := List.exists_cons_of_ne_nil (h.ne_nil first hmem)
      have hc : c ≠ '/' := fun hc => h.not_mem_separator _ hmem (hc ▸ List.mem_cons_self)
      rw [hsplit]
      cases others with
      | nil => exact ⟨c, after, rfl, by simpa using hc⟩
      | cons next others => exact ⟨c, _, rfl, by simpa using hc⟩

theorem head?_ofElements (h : Settled absolute reached) :
    ((ofElements absolute reached.reverse).head? == some '/') = absolute := by
  obtain ⟨c, after, hcons, hc⟩ := h.exists_cons_ofElements
  rw [hcons, List.head?_cons, Option.some_beq_some, hc]

/-- Going through the path that a stack stands for leads to the stack. -/
theorem reach_ofElements (h : Settled absolute reached) :
    reach (ofElements absolute reached.reverse) = reached := by
  rw [reach, h.head?_ofElements]
  have hjoined : (splitElements (joinElements reached.reverse)).foldl (Path.step absolute) [] =
      reached := by
    by_cases hnil : reached = []
    · subst hnil
      rfl
    · have hseparator : ∀ element ∈ reached.reverse, '/' ∉ element :=
        fun element hmem => h.not_mem_separator element (List.mem_reverse.1 hmem)
      rw [splitElements_joinElements (by simpa using hnil) hseparator, h.foldl_reverse]
  cases absolute with
  | true => exact hjoined
  | false =>
    rw [ofElements, if_neg Bool.false_ne_true]
    split
    · -- The path `.` stays where it is.
      rename_i hnil
      rw [List.reverse_eq_nil_iff.1 hnil]
      rfl
    · exact hjoined

/-- The path that a stack stands for is clean. -/
theorem cleanChars_ofElements (h : Settled absolute reached) :
    cleanChars (ofElements absolute reached.reverse) = ofElements absolute reached.reverse := by
  rw [cleanChars_eq, h.head?_ofElements, h.reach_ofElements]

end Settled

/-! ### Whole paths -/

/-- Whatever a path is, its elements lead to a stack of that form. -/
theorem settled_reach (path : List Char) : Settled (path.head? == some '/') (reach path) :=
  Settled.start.foldl fun _ => not_mem_of_mem_splitElements

theorem head?_cleanChars (path : List Char) :
    ((cleanChars path).head? == some '/') = (path.head? == some '/') :=
  (settled_reach path).head?_ofElements

theorem reach_cleanChars (path : List Char) : reach (cleanChars path) = reach path :=
  (settled_reach path).reach_ofElements

theorem cleanChars_ne_nil (path : List Char) : cleanChars path ≠ [] := by
  obtain ⟨c, after, hcons, -⟩ := (settled_reach path).exists_cons_ofElements
  rw [cleanChars_eq, hcons]
  exact List.cons_ne_nil c after

/-- Behind the front of a path, cleaning goes on from the stack to which the front leads. -/
theorem cleanChars_append {front : List Char} (hfront : front ≠ []) (back : List Char) :
    cleanChars (front ++ '/' :: back) =
      ofElements (front.head? == some '/')
        ((splitElements back).foldl (step (front.head? == some '/')) (reach front)).reverse := by
  rw [cleanChars_eq, reach, List.head?_append_of_ne_nil _ hfront, splitElements_append,
    List.foldl_append]
  rfl

theorem cleanChars_cleanChars (path : List Char) : cleanChars (cleanChars path) = cleanChars path :=
  (settled_reach path).cleanChars_ofElements

theorem isAbsolute_clean (path : String) : isAbsolute (clean path) = isAbsolute path := by
  rw [isAbsolute, clean, String.toList_ofList, head?_cleanChars]
  rfl

theorem isCanonical_clean (path : String) : isCanonical (clean path) = true := by
  rw [isCanonical, beq_iff_eq, clean, clean, String.toList_ofList, cleanChars_cleanChars]

/-- Cleaning the front of a path first makes no difference, and a path that has been cleaned stays
as it is.  The front may be anything but empty, for nothing in front of a separator is an absolute
path while the clean form of nothing is a relative one. -/
theorem clean_composes :
    (∀ front back : String, front ≠ "" →
      clean (front ++ "/" ++ back) = clean (clean front ++ "/" ++ back)) ∧
    ∀ path : String, clean (clean path) = clean path ∧
      isAbsolute (clean path) = isAbsolute path := by
  refine ⟨fun front back hfront => ?_, fun path => ⟨?_, isAbsolute_clean path⟩⟩
  · have hne : front.toList ≠ [] := by simpa using hfront
    have hchars : ∀ first : String, (first ++ "/" ++ back).toList =
        first.toList ++ '/' :: back.toList := fun first => by
      rw [String.toList_append, String.toList_append, List.append_assoc]
      rfl
    rw [clean, hchars, cleanChars_append hne, clean, hchars, clean, String.toList_ofList,
      cleanChars_append (cleanChars_ne_nil _), head?_cleanChars, reach_cleanChars]
  · exact beq_iff_eq.1 (isCanonical_clean path)

theorem clean_composes_climbing :
    "../usr//.." ≠ "" ∧ clean "../usr//.." = ".." ∧
      clean ("../usr//.." ++ "/" ++ "../var") = clean (clean "../usr//.." ++ "/" ++ "../var") :=
  ⟨by decide, by decide, clean_composes.1 "../usr//.." "../var" (by decide)⟩

end DiskLayout.Path
