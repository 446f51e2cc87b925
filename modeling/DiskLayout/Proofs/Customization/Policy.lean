import DiskLayout.Proofs.Allocation.Minimums
import DiskLayout.Proofs.Customization.Checks

/-!
# The rule that decides about a path

The rule for a path is looked up under the path itself and then under what is left of it when it is
cut at its separators, the last one first.  These are the paths that contain it, and they get
shorter on the way up.  So the first rule that is found is that of the longest key that contains the
path, and no other rule matters for it.

## Main definitions

* `MountPolicy.Decides` — the rule of the longest key that contains a path
* `MountPolicy.insert` — a policy with the rule for one key set

## Main results

* `Path.mem_enclosing_iff` — the paths under which a rule is looked up are those that contain it
* `MountPolicy.decisive?_eq_some_iff` — the rule that is found decides
* `MountPolicy.check_insert` — a rule that does not decide changes nothing
* `MountPolicy.check_decides` — which paths pass
-/

namespace DiskLayout

/-! ### The way up to the root -/

namespace Path

theorem toList_above {before : List Char} (h : before ≠ []) : (above before).toList = before := by
  rw [above, if_neg h, String.toList_ofList]

theorem size_above_le {first second : List Char} (h : first <+: second) :
    (above first).utf8ByteSize ≤ (above second).utf8ByteSize := by
  by_cases hfirst : first = []
  · -- The root is as short as any path that is not empty.
    by_cases hsecond : second = []
    · rw [hfirst, hsecond]
    · rw [hfirst]
      have hne : (above second).utf8ByteSize ≠ 0 := by
        intro hzero
        apply hsecond
        rw [← toList_above hsecond, String.utf8ByteSize_eq_zero_iff.1 hzero]
        rfl
      exact Nat.one_le_iff_ne_zero.2 hne
  · have hsecond : second ≠ [] := by
      rintro rfl
      exact hfirst (List.prefix_nil.1 h)
    apply size_le_of_prefix
    rwa [toList_above hfirst, toList_above hsecond]

/-- The cuts of a path are what stands in front of its separators. -/
theorem mem_cuts_iff {reversed : List Char} {base : String} :
    base ∈ cuts reversed ↔
      ∃ after before, reversed = after ++ '/' :: before ∧ base = above before.reverse := by
  induction reversed with
  | nil => simp [cuts]
  | cons c rest ih =>
    have hsplit : (∃ after before, c :: rest = after ++ '/' :: before ∧
          base = above before.reverse) ↔
        (c = '/' ∧ base = above rest.reverse) ∨ base ∈ cuts rest := by
      rw [ih]
      constructor
      · rintro ⟨after, before, heq, hbase⟩
        cases after with
        | nil =>
          obtain ⟨rfl, rfl⟩ := List.cons.inj heq
          exact .inl ⟨rfl, hbase⟩
        | cons first others =>
          obtain ⟨-, rfl⟩ := List.cons.inj heq
          exact .inr ⟨others, before, rfl, hbase⟩
      · rintro (⟨rfl, hbase⟩ | ⟨after, before, rfl, hbase⟩)
        · exact ⟨[], rest, rfl, hbase⟩
        · exact ⟨c :: after, before, rfl, hbase⟩
    rw [hsplit, cuts]
    by_cases hc : c = '/'
    · simp [hc]
    · simp [hc]

theorem mem_enclosing {path base : String} :
    base ∈ enclosing path ↔
      base = path ∨ ∃ before after, path.toList = before ++ '/' :: after ∧ base = above before := by
  rw [enclosing, List.mem_cons, mem_cuts_iff]
  apply or_congr_right
  constructor
  · rintro ⟨after, before, heq, hbase⟩
    refine ⟨before.reverse, after.reverse, ?_, hbase⟩
    rw [← List.reverse_reverse path.toList, heq]
    simp
  · rintro ⟨before, after, heq, hbase⟩
    refine ⟨after.reverse, before.reverse, ?_, ?_⟩
    · rw [heq]
      simp
    · rwa [List.reverse_reverse]

/-- The paths under which a rule for an absolute path is looked up are those that contain it. -/
theorem mem_enclosing_iff {path base : String} (habsolute : isAbsolute path = true)
    (hbase : base ≠ "") : base ∈ enclosing path ↔ hasBase path base = true := by
  obtain ⟨others, hothers⟩ : ∃ others, path.toList = '/' :: others := by
    simpa [isAbsolute, List.head?_eq_some_iff] using habsolute
  rw [mem_enclosing]
  by_cases hroot : base = root
  · -- An absolute path has a separator in front, with nothing before it.
    have hfound : ∃ before after, path.toList = before ++ '/' :: after ∧ base = above before :=
      ⟨[], others, hothers, hroot⟩
    rw [hasBase, if_pos hroot]
    exact iff_of_true (.inr hfound) habsolute
  · rw [hasBase_iff hroot]
    constructor
    · rintro (rfl | ⟨before, after, heq, rfl⟩)
      · exact .inl rfl
      · have hbefore : before ≠ [] := by
          rintro rfl
          exact hroot rfl
        right
        exact ⟨after, by rw [heq, toList_above hbefore]⟩
    · rintro (rfl | ⟨after, heq⟩)
      · exact .inl rfl
      · have hne : base.toList ≠ [] := fun hnil => hbase (String.toList_eq_nil_iff.1 hnil)
        refine .inr ⟨base.toList, after, heq, ?_⟩
        rw [← String.toList_inj, toList_above hne]

theorem size_le_of_mem_cuts {reversed : List Char} {base : String} (h : base ∈ cuts reversed) :
    base.utf8ByteSize ≤ (above reversed.reverse).utf8ByteSize := by
  obtain ⟨after, before, rfl, rfl⟩ := mem_cuts_iff.1 h
  apply size_above_le
  rw [List.reverse_append, List.reverse_cons, List.append_assoc]
  exact List.prefix_append _ _

theorem cuts_descending (reversed : List Char) :
    (cuts reversed).Pairwise fun first second => second.utf8ByteSize ≤ first.utf8ByteSize := by
  induction reversed with
  | nil => exact List.Pairwise.nil
  | cons c rest ih =>
    rw [cuts]
    by_cases hc : c = '/'
    · rw [if_pos hc]
      exact List.pairwise_cons.2 ⟨fun base hbase => size_le_of_mem_cuts hbase, ih⟩
    · rwa [if_neg hc]

/-- The paths under which a rule is looked up get shorter. -/
theorem enclosing_descending (path : String) :
    (enclosing path).Pairwise fun first second => second.utf8ByteSize ≤ first.utf8ByteSize := by
  refine List.pairwise_cons.2 ⟨fun base hbase => ?_, cuts_descending _⟩
  have hne : path.toList ≠ [] := by
    intro hnil
    rw [hnil] at hbase
    cases hbase
  have hsize := size_le_of_mem_cuts hbase
  rwa [List.reverse_reverse, above, if_neg hne, String.ofList_toList] at hsize

end Path

/-! ### The rule that is found -/

namespace MountPolicy

variable {policy : MountPolicy} {path key : String} {rule : PathRule}

/-- Whether the rule of a key decides about a path: of the keys that contain the path, it is the
longest. -/
def Decides (policy : MountPolicy) (path key : String) (rule : PathRule) : Prop :=
  IsHolder policy.rules.keys path key ∧ policy.rules.get? key = some rule

/-- A policy with the rule for one key set. -/
def insert (policy : MountPolicy) (key : String) (rule : PathRule) : MountPolicy :=
  ⟨policy.rules.insert key rule⟩

/-- At most one rule decides about a path. -/
theorem Decides.unique {other : String} {otherRule : PathRule} (h : policy.Decides path key rule)
    (h' : policy.Decides path other otherRule) : key = other ∧ rule = otherRule := by
  obtain ⟨hholder, hrule⟩ := h
  obtain ⟨hholder', hrule'⟩ := h'
  obtain rfl := hholder.unique hholder'
  rw [hrule, Option.some.injEq] at hrule'
  exact ⟨rfl, hrule'⟩

theorem decides_of_decisive? (habsolute : Path.isAbsolute path = true)
    (hkeys : "" ∉ policy.rules.keys) (h : policy.decisive? path = some (key, rule)) :
    policy.Decides path key rule := by
  obtain ⟨shorter, found, longer, hsplit, hfound, hnone⟩ := List.findSome?_eq_some_iff.1 h
  obtain ⟨rule', hrule, heq⟩ := Option.map_eq_some_iff.1 hfound
  obtain ⟨rfl, rfl⟩ := Prod.mk.inj heq
  have hkey : found ∈ policy.rules.keys := TextMap.mem_keys.2 ⟨rule', hrule⟩
  have hmem {base : String} (hbase : base ∈ policy.rules.keys) :
      base ∈ Path.enclosing path ↔ Path.hasBase path base = true :=
    Path.mem_enclosing_iff habsolute fun hempty => hkeys (hempty ▸ hbase)
  refine ⟨⟨hkey, (hmem hkey).1 (by simp [hsplit]), ?_⟩, hrule⟩
  intro other hother hcontains
  have hdescending := Path.enclosing_descending path
  have hplace := (hmem hother).2 hcontains
  rw [hsplit] at hdescending hplace
  rcases List.mem_append.1 hplace with hearlier | hlater
  · -- Nothing is found under the paths before, so none of them is a key.
    obtain ⟨value, hvalue⟩ := TextMap.mem_keys.1 hother
    have hnot := hnone other hearlier
    rw [hvalue] at hnot
    cases hnot
  · rcases List.mem_cons.1 hlater with rfl | hlater
    · exact Nat.le_refl _
    · exact (List.pairwise_cons.1 (List.pairwise_append.1 hdescending).2.1).1 other hlater

/-- The rule that is found for an absolute path is the one that decides about it. -/
theorem decisive?_eq_some_iff (habsolute : Path.isAbsolute path = true)
    (hkeys : "" ∉ policy.rules.keys) :
    policy.decisive? path = some (key, rule) ↔ policy.Decides path key rule := by
  refine ⟨decides_of_decisive? habsolute hkeys, fun h => ?_⟩
  obtain ⟨⟨hmem, hbase, -⟩, hrule⟩ := id h
  -- Some rule is found, for this one could be, and only one decides.
  have hplace : key ∈ Path.enclosing path :=
    (Path.mem_enclosing_iff habsolute fun hempty => hkeys (hempty ▸ hmem)).2 hbase
  have hsome : policy.decisive? path ≠ none := by
    intro hnone
    have hnot := List.findSome?_eq_none_iff.1 hnone key hplace
    rw [hrule] at hnot
    cases hnot
  obtain ⟨⟨found, foundRule⟩, hfound⟩ := Option.ne_none_iff_exists'.1 hsome
  obtain ⟨rfl, rfl⟩ := (decides_of_decisive? habsolute hkeys hfound).unique h
  exact hfound

/-- An absolute path is allowed exactly if the rule that decides about it, if there is one, does not
deny it and is not for another path alone. -/
theorem allows_iff (habsolute : Path.isAbsolute path = true) (hkeys : "" ∉ policy.rules.keys) :
    policy.allows path = true ↔
      ∀ key rule, policy.Decides path key rule →
        rule.deny = false ∧ (rule.exact = true → key = path) := by
  simp only [← decisive?_eq_some_iff habsolute hkeys]
  unfold allows
  cases policy.decisive? path with
  | none => simp
  | some found =>
    obtain ⟨base, exact, deny⟩ := found
    -- There is one key and one rule to speak about.
    have hsingle : (∀ key rule, some (base, PathRule.mk exact deny) = some (key, rule) →
        rule.deny = false ∧ (rule.exact = true → key = path)) ↔
          deny = false ∧ (exact = true → base = path) := by
      constructor
      · intro h
        exact h base _ rfl
      · rintro h _ _ ⟨⟩
        exact h
    rw [hsingle]
    cases deny <;> cases exact <;> simp

/-! ### Rules that do not decide -/

/-- A rule for a key that does not contain the path, or is shorter than another key that does,
leaves the longest key as it is. -/
theorem decides_insert {new : PathRule} {other : String}
    (hother : Path.hasBase path other = true → ∃ longer ∈ policy.rules.keys,
      Path.hasBase path longer = true ∧ other.utf8ByteSize < longer.utf8ByteSize) :
    (policy.insert other new).Decides path key rule ↔ policy.Decides path key rule := by
  have hkeys (base : String) :
      base ∈ (policy.insert other new).rules.keys ↔ base = other ∨ base ∈ policy.rules.keys :=
    TextMap.mem_keys_insert
  have hget (hne : key ≠ other) :
      (policy.insert other new).rules.get? key = policy.rules.get? key := by
    rw [insert, TextMap.get?_insert, if_neg (Ne.symm hne)]
  -- Among these keys, and among more, the other one is not the longest.
  have hnot {keys : List String} (hmore : ∀ base ∈ policy.rules.keys, base ∈ keys) :
      ¬ IsHolder keys path other := by
    rintro ⟨-, hbase, hlongest⟩
    obtain ⟨longer, hlonger, hcontains, hlt⟩ := hother hbase
    exact Nat.not_le_of_lt hlt (hlongest longer (hmore longer hlonger) hcontains)
  constructor
  · rintro ⟨hholder, hrule⟩
    have hne : key ≠ other := by
      rintro rfl
      exact hnot (fun base hbase => (hkeys base).2 (.inr hbase)) hholder
    obtain ⟨hmem, hbase, hlongest⟩ := hholder
    refine ⟨⟨((hkeys key).1 hmem).resolve_left hne, hbase, fun base hmem' => ?_⟩, hget hne ▸ hrule⟩
    exact hlongest base ((hkeys base).2 (.inr hmem'))
  · rintro ⟨hholder, hrule⟩
    have hne : key ≠ other := by
      rintro rfl
      exact hnot (fun _ hbase => hbase) hholder
    obtain ⟨hmem, hbase, hlongest⟩ := hholder
    refine ⟨⟨(hkeys key).2 (.inr hmem), hbase, fun base hmem' hcontains => ?_⟩,
      (hget hne).trans hrule⟩
    rcases (hkeys base).1 hmem' with rfl | hmem'
    · obtain ⟨longer, hlonger, hlongerBase, hlt⟩ := hother hcontains
      exact Nat.le_trans (Nat.le_of_lt hlt) (hlongest longer hlonger hlongerBase)
    · exact hlongest base hmem' hcontains

/-- A rule that cannot decide about a path changes nothing for it. -/
theorem check_insert {new : PathRule} {other : String} (hkeys : "" ∉ policy.rules.keys)
    (hempty : other ≠ "")
    (hother : Path.hasBase path other = true → ∃ longer ∈ policy.rules.keys,
      Path.hasBase path longer = true ∧ other.utf8ByteSize < longer.utf8ByteSize) :
    (policy.insert other new).check path = policy.check path := by
  by_cases habsolute : Path.isAbsolute path = true
  · have hkeys' : "" ∉ (policy.insert other new).rules.keys := by
      intro hmem
      rcases TextMap.mem_keys_insert.1 hmem with hkey | hmem
      · exact hempty hkey.symm
      · exact hkeys hmem
    have hallows : (policy.insert other new).allows path = policy.allows path := by
      rw [Bool.eq_iff_iff, allows_iff habsolute hkeys', allows_iff habsolute hkeys]
      simp only [decides_insert hother]
    unfold check
    rw [hallows]
  · unfold check
    rw [Bool.not_eq_true] at habsolute
    rw [habsolute]
    rfl

/-! ### What passes -/

/-- A path passes a policy exactly if it is absolute and canonical and the rule of the longest key
that contains it, if there is one, neither denies it nor is for another path alone.  So a rule
changes nothing for a path that its key does not contain, though they may start with the same
text, and nothing for a path that lies below a deeper key. -/
theorem check_decides
    (hkeys : ∀ key ∈ policy.rules.keys, Path.isAbsolute key = true ∧ Path.isCanonical key = true)
    (path : String) :
    (policy.check path = .ok () ↔
      Path.isAbsolute path = true ∧ Path.isCanonical path = true ∧
        ∀ key rule, policy.Decides path key rule →
          rule.deny = false ∧ (rule.exact = true → key = path)) ∧
    (∀ key rule, Path.isAbsolute key = true → Path.hasBase path key = false →
      (policy.insert key rule).check path = policy.check path) ∧
    ∀ key rule, Path.isAbsolute key = true →
      ∀ deeper ∈ policy.rules.keys, Path.hasBase path deeper = true →
        Path.hasBase deeper key = true → deeper ≠ key →
        (policy.insert key rule).check path = policy.check path := by
  have hempty : "" ∉ policy.rules.keys := fun hmem =>
    Path.ne_empty_of_isAbsolute (hkeys "" hmem).1 rfl
  refine ⟨?_, ?_, ?_⟩
  · rw [check_eq_ok]
    apply and_congr_right
    intro habsolute
    rw [allows_iff habsolute hempty]
  · intro key rule habsolute hnot
    apply check_insert hempty (Path.ne_empty_of_isAbsolute habsolute)
    intro hbase
    rw [hnot] at hbase
    cases hbase
  · intro key rule habsolute deeper hdeeper hcontains hbelow hother
    apply check_insert hempty (Path.ne_empty_of_isAbsolute habsolute)
    intro _
    refine ⟨deeper, hdeeper, hcontains, Nat.lt_of_not_le fun hle => hother ?_⟩
    exact (eq_of_prefix_of_le (Path.prefix_of_hasBase hbelow) hle).symm

/-- Under the usual policy `/usr` passes and nothing below it does; a rule for a path that starts
with the same text does not matter, nor does one for `/boot` where `/boot/efi` has its own. -/
theorem check_decides_standard :
    MountPolicy.standard.check "/usr" = .ok () ∧
    MountPolicy.standard.check "/usr/local" ≠ .ok () ∧
    (MountPolicy.standard.insert "/us" ⟨false, true⟩).check "/usr" =
      MountPolicy.standard.check "/usr" ∧
    (MountPolicy.standard.insert "/boot" ⟨false, true⟩).check "/boot/efi" =
      MountPolicy.standard.check "/boot/efi" := by
  have hkeys : ∀ key ∈ MountPolicy.standard.rules.keys,
      Path.isAbsolute key = true ∧ Path.isCanonical key = true := by decide
  have husr : MountPolicy.standard.Decides "/usr/local" "/usr" ⟨true, false⟩ :=
    ⟨by decide, by decide⟩
  have husr' : MountPolicy.standard.Decides "/usr" "/usr" ⟨true, false⟩ := ⟨by decide, by decide⟩
  refine ⟨(check_decides hkeys "/usr").1.2 ⟨by decide, by decide, ?_⟩, ?_, ?_, ?_⟩
  · intro key rule hdecides
    obtain ⟨rfl, rfl⟩ := hdecides.unique husr'
    decide
  · intro hok
    have hexact := (((check_decides hkeys "/usr/local").1.1 hok).2.2 _ _ husr).2 rfl
    revert hexact
    decide
  · exact (check_decides hkeys "/usr").2.1 _ _ (by decide) (by decide)
  · exact (check_decides hkeys "/boot/efi").2.2 _ _ (by decide) "/boot/efi" (by decide) (by decide)
      (by decide) (by decide)

end MountPolicy

end DiskLayout
