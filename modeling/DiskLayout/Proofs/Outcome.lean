import DiskLayout.Log

/-!
# Outcomes

A computation in steps succeeds exactly if all its steps do, and it fails with the error of the
first step that fails.  These rules take the outcome of a computation apart, so that no proof has
to unfold how steps are chained or what they report.

## Main results

* `bind_eq_ok`, `bind_eq_error` — the outcome of two steps in a row
* `map_eq_ok`, `mapError_eq_ok` — the outcome of a step whose value or error is changed
* `check_eq_ok`, `check_bind_eq_ok` — the outcome of a check before a value, before more steps
* `forM_cases`, `forM_eq_ok` — the outcome of checks in a row
* `Logged.result_lift` — the outcome of a check that is lifted
-/

namespace DiskLayout

variable {ε α β : Type}

theorem bind_eq_ok {first : Except ε α} {next : α → Except ε β} {value : β} :
    (first >>= next) = .ok value ↔ ∃ middle, first = .ok middle ∧ next middle = .ok value := by
  cases first with
  | error error => simp [bind, Except.bind]
  | ok middle => simp [bind, Except.bind]

theorem bind_eq_error {first : Except ε α} {next : α → Except ε β} {error : ε} :
    (first >>= next) = .error error ↔
      first = .error error ∨ ∃ middle, first = .ok middle ∧ next middle = .error error := by
  cases first with
  | error error => simp [bind, Except.bind]
  | ok middle => simp [bind, Except.bind]

@[simp] theorem ok_bind (value : α) (next : α → Except ε β) :
    (Except.ok value >>= next) = next value := rfl

@[simp] theorem error_bind (error : ε) (next : α → Except ε β) :
    (Except.error error >>= next) = .error error := rfl

theorem map_eq_ok {outcome : Except ε α} {f : α → β} {value : β} :
    outcome.map f = .ok value ↔ ∃ x, outcome = .ok x ∧ f x = value := by
  cases outcome with
  | error error => simp [Except.map]
  | ok x => simp [Except.map]

theorem mapError_eq_ok {outcome : Except ε α} {f : ε → β} {value : α} :
    outcome.mapError f = .ok value ↔ outcome = .ok value := by
  cases outcome with
  | error error => exact iff_of_false nofun nofun
  | ok x => exact ⟨fun h => congrArg _ (Except.ok.inj h), fun h => congrArg _ (Except.ok.inj h)⟩

theorem check_eq_ok {check : Except ε Unit} {value other : α} :
    (check >>= fun _ => Except.ok value) = .ok other ↔ check = .ok () ∧ other = value := by
  cases check with
  | error error => simp
  | ok _ => simp [eq_comm]

/-- What follows a check is reached exactly if the check passes. -/
theorem check_bind_eq_ok {check : Except ε Unit} {next : Unit → Except ε β} {value : β} :
    (check >>= next) = .ok value ↔ check = .ok () ∧ next () = .ok value := by
  cases check with
  | error error => simp
  | ok _ => simp

/-- Checks in a row all pass, or one of them gives its error. -/
theorem forM_cases (check : α → Except ε Unit) (items : List α) :
    ((∀ item ∈ items, check item = .ok ()) ∧ items.forM check = .ok ()) ∨
      ∃ item ∈ items, ∃ error, check item = .error error ∧ items.forM check = .error error := by
  induction items with
  | nil => exact .inl ⟨by simp, rfl⟩
  | cons item others ih =>
    have hcons : (item :: others).forM check = check item >>= fun _ => others.forM check := rfl
    rw [hcons, List.forall_mem_cons]
    cases hitem : check item with
    | error error => exact .inr ⟨item, List.mem_cons_self, error, hitem, rfl⟩
    | ok _ =>
      rcases ih with ⟨hothers, hok⟩ | ⟨other, hother, error, hcheck, herror⟩
      · exact .inl ⟨⟨rfl, hothers⟩, hok⟩
      · exact .inr ⟨other, List.mem_cons_of_mem _ hother, error, hcheck, herror⟩

/-- Checks in a row pass exactly if each of them does. -/
theorem forM_eq_ok {check : α → Except ε Unit} {items : List α} :
    items.forM check = .ok () ↔ ∀ item ∈ items, check item = .ok () := by
  rcases forM_cases check items with ⟨hall, hok⟩ | ⟨item, hitem, error, hcheck, herror⟩
  · exact iff_of_true hok hall
  · rw [herror]
    refine iff_of_false (by simp) fun hall => ?_
    rw [hall item hitem] at hcheck
    cases hcheck

/-- A check that is lifted reports nothing and has the outcome it had. -/
@[simp] theorem Logged.result_lift (check : Except ε α) :
    (liftM check : Logged ε α).result = check := rfl

end DiskLayout
