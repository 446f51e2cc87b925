import DiskLayout.Text.Blank
import Mathlib.Data.List.Basic
import Mathlib.Data.List.TakeWhile

/-!
# Trimmed texts

Trimming a text removes the blanks before its first and behind its last character that is none, and
keeps what lies between.  The result is the only text without blanks at its ends from which the
whole text differs by blanks around it.

## Main definitions

* `Blank.IsTrimmed` — a text without blanks at its two ends
* `Blank.Trims` — such a text with blanks put around it

## Main results

* `Blank.trim_eq_iff` — trimming removes the blanks around a text and nothing else
* `Blank.trim_eq_self` — nothing is trimmed from a text without blanks
-/

namespace DiskLayout.Blank

/-- Whether a text has no blank at either end. -/
structure IsTrimmed (text : List Char) : Prop where
  head : ∀ c ∈ text.head?, isBlank c = false
  last : ∀ c ∈ text.getLast?, isBlank c = false

/-- Whether a text is `core` with blanks around it, all that stand there. -/
structure Trims (text core : List Char) : Prop where
  isTrimmed : IsTrimmed core
  exists_blanks : ∃ before after, text = before ++ core ++ after ∧
    (∀ c ∈ before, isBlank c = true) ∧ ∀ c ∈ after, isBlank c = true

/-! ### One end at a time -/

theorem trimLeft_append {before : List Char} (h : ∀ c ∈ before, isBlank c = true)
    (text : List Char) : trimLeft (before ++ text) = trimLeft text :=
  List.dropWhile_append_of_pos h

theorem trimLeft_eq_self {text : List Char} (h : ∀ c ∈ text.head?, isBlank c = false) :
    trimLeft text = text := by
  cases text with
  | nil => rfl
  | cons first others =>
    have hfirst : isBlank first = false := h first rfl
    exact List.dropWhile_cons_of_neg (by simp [hfirst])

theorem head_trimLeft (text : List Char) : ∀ c ∈ (trimLeft text).head?, isBlank c = false := by
  intro c hc
  have hnot := List.head?_dropWhile_not isBlank text
  rw [← trimLeft, Option.mem_def.1 hc] at hnot
  simpa using hnot

theorem exists_append_trimLeft (text : List Char) :
    ∃ before, text = before ++ trimLeft text ∧ ∀ c ∈ before, isBlank c = true := by
  refine ⟨text.takeWhile isBlank, List.takeWhile_append_dropWhile.symm, fun c hc => ?_⟩
  exact List.mem_takeWhile_imp hc

theorem trimRight_append {after : List Char} (h : ∀ c ∈ after, isBlank c = true)
    (text : List Char) : trimRight (text ++ after) = trimRight text := by
  rw [trimRight, List.reverse_append, trimLeft_append fun c hc => h c (List.mem_reverse.1 hc)]
  rfl

theorem trimRight_eq_self {text : List Char} (h : ∀ c ∈ text.getLast?, isBlank c = false) :
    trimRight text = text := by
  rw [trimRight, trimLeft_eq_self, List.reverse_reverse]
  rwa [List.head?_reverse]

theorem exists_trimRight_append (text : List Char) :
    ∃ after, text = trimRight text ++ after ∧ ∀ c ∈ after, isBlank c = true := by
  obtain ⟨before, hbefore, hblank⟩ := exists_append_trimLeft text.reverse
  refine ⟨before.reverse, ?_, fun c hc => hblank c (List.mem_reverse.1 hc)⟩
  rw [trimRight, ← List.reverse_append, ← hbefore, List.reverse_reverse]

/-! ### Both ends -/

theorem trims_trim (text : List Char) : Trims text (trim text) := by
  obtain ⟨before, hbefore, hblanksBefore⟩ := exists_append_trimLeft text
  obtain ⟨after, hafter, hblanksAfter⟩ := exists_trimRight_append (trimLeft text)
  rw [← trim] at hafter
  refine ⟨⟨?_, ?_⟩, before, after, ?_, hblanksBefore, hblanksAfter⟩
  · -- What goes at the end leaves the first character alone, unless nothing is left at all.
    intro c hc
    apply head_trimLeft text
    rw [hafter]
    exact List.mem_head?_append_of_mem_head? hc
  · intro c hc
    rw [trim, trimRight, List.getLast?_reverse] at hc
    exact head_trimLeft _ c hc
  · rw [List.append_assoc, ← hafter, ← hbefore]

/-- Trimming removes the blanks around a text and nothing else. -/
theorem trim_eq_iff {text core : List Char} : trim text = core ↔ Trims text core := by
  constructor
  · rintro rfl
    exact trims_trim text
  · rintro ⟨hcore, before, after, rfl, hbefore, hafter⟩
    rw [trim, List.append_assoc, trimLeft_append hbefore]
    by_cases hnil : core = []
    · -- Nothing but blanks, so all of them already go at the start.
      subst hnil
      have hblanks := trimLeft_append hafter []
      rw [List.append_nil] at hblanks
      rw [List.nil_append, hblanks]
      rfl
    · have hstart : trimLeft (core ++ after) = core ++ after := by
        apply trimLeft_eq_self
        rw [List.head?_append_of_ne_nil _ hnil]
        exact hcore.head
      rw [hstart, trimRight_append hafter, trimRight_eq_self hcore.last]

/-- Nothing is trimmed from a text without blanks. -/
theorem trim_eq_self {text : List Char} (h : ∀ c ∈ text, isBlank c = false) :
    trim text = text := by
  refine trim_eq_iff.2 ⟨⟨fun c hc => ?_, fun c hc => ?_⟩, [], [], by simp, by simp, by simp⟩
  · exact h c (List.mem_of_mem_head? hc)
  · exact h c (List.mem_of_mem_getLast? hc)

end DiskLayout.Blank
