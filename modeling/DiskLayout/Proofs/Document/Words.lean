import DiskLayout.Document.Format
import Mathlib.Data.List.Basic

/-!
# Words in documents

A word, some letters and digits, has no characters that a format gives a meaning.  In YAML it is
written as it is, unless it would be taken for something else than a text, and a word on a line of
its own is read as one unquoted scalar.  In JSON it is written between quotes and read back.

## Main definitions

* `IsWord` — some letters and digits

## Main results

* `Yaml.writeRoot_word`, `Yaml.render_eq_word` — a word is written as it is
* `Yaml.read_word` — a word is read as an unquoted scalar
* `Yaml.read_text_word`, `Json.read_text_word` — a text that is a word is read back
-/

namespace DiskLayout

/-! ### Letters and digits -/

/-- Whether a text is a word: some letters and digits. -/
structure IsWord (text : List Char) : Prop where
  ne_nil : text ≠ []
  alphanumeric : ∀ c ∈ text, c.isAlphanum = true

/-- What starts with a word and goes on with letters and digits is a word. -/
theorem IsWord.append {word others : List Char} (h : IsWord word)
    (hothers : ∀ c ∈ others, c.isAlphanum = true) : IsWord (word ++ others) where
  ne_nil := List.append_ne_nil_of_left_ne_nil h.ne_nil others
  alphanumeric := List.forall_mem_append.2 ⟨h.alphanumeric, hothers⟩

/-- What has a property is none of some characters without it. -/
theorem not_mem_of_all {property : Char → Bool} {c : Char} (h : property c = true)
    (marks : List Char) (hmarks : (marks.all fun mark => !property mark) = true) : c ∉ marks := by
  intro hmem
  have hmark := List.all_eq_true.1 hmarks c hmem
  rw [h] at hmark
  cases hmark

theorem ne_of_property {property : Char → Bool} {c mark : Char} (h : property c = true)
    (hmark : property mark = false) : c ≠ mark := by
  rintro rfl
  rw [h] at hmark
  cases hmark

theorem toNat_of_isAlphanum {c : Char} (h : c.isAlphanum = true) :
    (48 ≤ c.toNat ∧ c.toNat ≤ 57) ∨ (65 ≤ c.toNat ∧ c.toNat ≤ 90) ∨
      (97 ≤ c.toNat ∧ c.toNat ≤ 122) := by
  change ((decide (65 ≤ c.val ∧ c.val ≤ 90) ||
    (decide (97 ≤ c.val) && decide (c.val ≤ 122))) ||
    (decide (48 ≤ c.val) && decide (c.val ≤ 57))) = true at h
  simp only [Bool.or_eq_true, Bool.and_eq_true, decide_eq_true_eq, UInt32.le_iff_toNat_le] at h
  change ((65 ≤ c.toNat ∧ c.toNat ≤ 90) ∨ (97 ≤ c.toNat ∧ c.toNat ≤ 122)) ∨
    (48 ≤ c.toNat ∧ c.toNat ≤ 57) at h
  omega

namespace Yaml

theorem isBlank_of_isAlphanum {c : Char} (h : c.isAlphanum = true) : isBlank c = false := by
  have hspace : c ≠ ' ' := ne_of_property h (by decide)
  have htab : c ≠ '\t' := ne_of_property h (by decide)
  simp [isBlank, hspace, htab]

theorem isBreak_of_isAlphanum {c : Char} (h : c.isAlphanum = true) : isBreak c = false := by
  have hcode := toNat_of_isAlphanum h
  have hline : c ≠ '\n' := ne_of_property h (by decide)
  have hreturn : c ≠ '\r' := ne_of_property h (by decide)
  simp only [isBreak, Bool.or_eq_false_iff, beq_eq_false_iff_ne]
  exact ⟨⟨⟨⟨hline, hreturn⟩, by omega⟩, by omega⟩, by omega⟩

theorem isSpace_of_isAlphanum {c : Char} (h : c.isAlphanum = true) : isSpace c = false := by
  have hspace : c ≠ ' ' := ne_of_property h (by decide)
  simp [isSpace, hspace]

theorem isPrintable_of_isAlphanum {c : Char} (h : c.isAlphanum = true) : isPrintable c = true := by
  have hcode := toNat_of_isAlphanum h
  simp only [isPrintable, Bool.or_eq_true, Bool.and_eq_true, beq_iff_eq, decide_eq_true_eq]
  omega

/-! ### Reading a word in YAML -/

/-- An unquoted scalar goes on to the end of a word that is the last on its line. -/
theorem scanPlain_word {word : List Char} (h : ∀ c ∈ word, c.isAlphanum = true) (text : List Char)
    (cursor : Cursor) :
    ∃ scanned, scanPlain false 0 ⟨text, .empty⟩ cursor (word ++ ['\n']) = some scanned ∧
      scanned.text = text.reverse ++ word ∧ scanned.cursor.rest = [] ∧
      scanned.cursor.line = cursor.line + 1 := by
  -- The gap behind the text read so far stays empty, so every character is added at once.
  induction word generalizing text cursor with
  | nil => exact ⟨_, rfl, (List.append_nil _).symm, rfl, rfl⟩
  | cons c others ih =>
    rw [List.forall_mem_cons] at h
    obtain ⟨hc, hothers⟩ := h
    have hcolon : c ≠ ':' := ne_of_property hc (by decide)
    have hreturn : c ≠ '\r' := ne_of_property hc (by decide)
    obtain ⟨scanned, hscan, htext, hrest, hline⟩ :=
      ih hothers (c :: text) (cursor.pass (others ++ ['\n']))
    refine ⟨scanned, ?_, by simpa using htext, hrest, hline⟩
    rw [← hscan, List.cons_append, scanPlain]
    · simp [isBlank_of_isAlphanum hc, isBreak_of_isAlphanum hc, Gap.isEmpty, Gap.empty,
        endsPlain, hcolon, Partial.add, Gap.folded]
    · exact fun _ heq => absurd heq hreturn

section Start

variable {c : Char} {rest : List Char}

theorem passGap_start (h : c.isAlphanum = true) :
    (Lexer.start (c :: rest)).passGap = Lexer.start (c :: rest) := by
  have hspace : c ≠ ' ' := ne_of_property h (by decide)
  have hhash : c ≠ '#' := ne_of_property h (by decide)
  have hreturn : c ≠ '\r' := ne_of_property h (by decide)
  have hmark : c ≠ byteOrderMark := ne_of_property h (by decide)
  have hskip : Lexer.skipGap false true false (Cursor.start (c :: rest)) (c :: rest) =
      (true, Cursor.start (c :: rest)) := by
    rw [Lexer.skipGap]
    · simp [isBreak_of_isAlphanum h, hspace, hhash, hmark]
      rfl
    · exact fun _ heq => absurd heq hreturn
  exact congrArg (fun found : Bool × Cursor =>
    ({ Lexer.start (c :: rest) with cursor := found.2, keyAllowed := found.1 } : Lexer)) hskip

theorem startsMarker_eq_false (h : c.isAlphanum = true) : startsMarker (c :: rest) = false := by
  unfold startsMarker
  split
  · rename_i hdashes
    exact absurd (List.cons.inj hdashes).1 (ne_of_property h (by decide))
  · rename_i hpoints
    exact absurd (List.cons.inj hpoints).1 (ne_of_property h (by decide))
  · rfl

/-- A letter or digit starts an unquoted scalar. -/
theorem takeToken_of_isAlphanum (lexer : Lexer) (h : c.isAlphanum = true) :
    lexer.takeToken c rest = lexer.takePlain := by
  have hmarks := not_mem_of_all h "-?:,[]\x7b\x7d#&*!|>\x27\x22%@\x60".toList (by decide)
  have hplain : Lexer.startsPlain lexer.inFlow c rest = true := by
    unfold Lexer.startsPlain isSeparator
    rw [isBlank_of_isAlphanum h, isBreak_of_isAlphanum h, List.contains_eq_mem,
      decide_eq_false hmarks]
    rfl
  -- The other cases of a token start with a mark, which is no letter or digit.
  unfold Lexer.takeToken
  split
  case h_11 =>
    have hne := not_mem_of_all h ['-', '?', ':', '|', '>'] (by decide)
    simp only [List.mem_cons, List.not_mem_nil, or_false, not_or] at hne
    simp [hne, hplain]
  all_goals exact absurd h (by decide)

/-- The first step of a text that starts with a letter or digit takes in an unquoted scalar. -/
theorem step_start (h : c.isAlphanum = true) :
    (Lexer.start (c :: rest)).step = (Lexer.start (c :: rest)).takePlain := by
  have hpercent : c ≠ '%' := ne_of_property h (by decide)
  have hkeys : (Lexer.start (c :: rest)).refreshKeys = some (Lexer.start (c :: rest)) := rfl
  have hindent : (Lexer.start (c :: rest)).unindent (some 0) = Lexer.start (c :: rest) := rfl
  have hcursor : (Lexer.start (c :: rest)).cursor = ⟨c :: rest, 0, 0, 0⟩ := rfl
  unfold Lexer.step
  rw [passGap_start h, hkeys, Option.bind_eq_bind, Option.bind_some]
  simp only [hcursor, hindent, startsMarker_eq_false h, hpercent, and_false, if_false,
    Bool.false_eq_true, takeToken_of_isAlphanum _ h]

/-- The token of an unquoted scalar that starts a text, and the key that may start there. -/
theorem takePlain_start (text : List Char) :
    (Lexer.start text).takePlain =
      (scanPlain false 0 ⟨[], .empty⟩ (Cursor.start text) text).bind fun scanned =>
        some ⟨scanned.cursor, [.scalar .plain (String.ofList scanned.text)], [],
          some ⟨false, 0, 0, 0, 0⟩, [], scanned.passedLines⟩ := rfl

end Start

theorem step_word {word : List Char} (h : IsWord word) :
    ∃ lexer, (Lexer.start (word ++ ['\n'])).step = some lexer ∧
      lexer.tokens = [.scalar .plain (String.ofList word)] ∧ lexer.cursor.rest = [] ∧
      lexer.cursor.line = 1 ∧ lexer.key? = some ⟨false, 0, 0, 0, 0⟩ ∧ lexer.outerKeys = [] ∧
      lexer.indents = [] := by
  obtain ⟨hne, halpha⟩ := h
  obtain ⟨scanned, hscan, htext, hrest, hline⟩ :=
    scanPlain_word halpha [] (Cursor.start (word ++ ['\n']))
  obtain ⟨c, others, rfl⟩ := List.exists_cons_of_ne_nil hne
  rw [List.cons_append] at hscan ⊢
  rw [step_start (halpha c List.mem_cons_self), takePlain_start, hscan, Option.bind_some]
  refine ⟨_, rfl, ?_, hrest, hline, rfl, rfl, rfl⟩
  exact congrArg (fun text => [Token.scalar .plain (String.ofList text)]) htext

/-- At the end of a text nothing is left open behind a scalar. -/
theorem step_end {lexer : Lexer} (hrest : lexer.cursor.rest = []) (hline : lexer.cursor.line = 1)
    (hkey : lexer.key? = some ⟨false, 0, 0, 0, 0⟩) (houter : lexer.outerKeys = [])
    (hindents : lexer.indents = []) :
    ∃ last, lexer.step = some last ∧ last.tokens = lexer.tokens ∧ last.cursor.rest = [] := by
  obtain ⟨⟨rest, line, column, index⟩, tokens, indents, key?, outerKeys, keyAllowed⟩ := lexer
  obtain rfl : rest = [] := hrest
  obtain rfl : line = 1 := hline
  obtain rfl : key? = _ := hkey
  obtain rfl : outerKeys = [] := houter
  obtain rfl : indents = [] := hindents
  exact ⟨_, rfl, rfl, rfl⟩

theorem tokens?_word {word : List Char} (h : IsWord word) :
    tokens? (word ++ ['\n']) = some [.scalar .plain (String.ofList word)] := by
  -- One step takes in the word and the line end, a second one meets the end of the text.
  obtain ⟨lexer, hstep, htokens, hrest, hline, hkey, houter, hindents⟩ := step_word h
  obtain ⟨last, hlast, hlastTokens, hlastRest⟩ := step_end hrest hline hkey houter hindents
  have hallowed : (word ++ ['\n']).all isAllowed = true := by
    rw [List.all_append, Bool.and_eq_true, List.all_eq_true]
    refine ⟨fun c hc => ?_, by decide⟩
    simp [isAllowed, isPrintable_of_isAlphanum (h.alphanumeric c hc)]
  have hrun : lexer.run = some last := by
    rw [Lexer.run, hlast]
    simp [hrest, hlastRest]
  have hstart : (Lexer.start (word ++ ['\n'])).run = some last := by
    rw [Lexer.run, hstep]
    have hlt : lexer.cursor.rest.length < (Lexer.start (word ++ ['\n'])).cursor.rest.length := by
      rw [hrest]
      simp [Lexer.start, Cursor.start]
    simp only [hlt, if_true, hrun]
  rw [tokens?, hallowed, if_pos rfl, hstart, Option.map_some, hlastTokens, htokens]
  rfl

theorem document_scalar (fuel : Nat) (text : String) :
    document (fuel + 1) ⟨[.scalar .plain text], [], standardHandles⟩ =
      some (.scalar ⟨none, none⟩ .plain text, ⟨[], [], standardHandles⟩) := by
  have hpart : part (fuel + 1) Draft.maxDepth .block ⟨[.scalar .plain text], [], standardHandles⟩ =
      some (.scalar ⟨none, none⟩ .plain text, ⟨[], [], standardHandles⟩) := by
    rw [part]
    rfl
  have hpeek : Reader.peek (⟨[.scalar .plain text], [], standardHandles⟩ : Reading) =
      some (some (.scalar .plain text), ⟨[.scalar .plain text], [], standardHandles⟩) := rfl
  have hpreamble : isPreamble (.scalar .plain text) = false := rfl
  unfold document
  simp only [bind, StateT.bind, hpeek, Option.bind_some, hpreamble, Bool.false_eq_true, if_false,
    hpart]
  rfl

/-- A word on a line of its own is read as an unquoted scalar. -/
theorem read_word {word : List Char} (h : IsWord word) :
    read (String.ofList (word ++ ['\n'])) = some (.scalar none .plain (String.ofList word)) := by
  unfold read
  rw [String.toList_ofList, tokens?_word h]
  simp only [bind, Option.bind_some, document_scalar]
  rfl

/-! ### Writing a word in YAML -/

theorem hasPair_eq_false {first second : Char → Bool} {text : List Char}
    (h : ∀ c ∈ text, first c = false) : hasPair first second text = false := by
  induction text with
  | nil => rfl
  | cons a rest ih =>
    rw [List.forall_mem_cons] at h
    cases rest with
    | nil => rfl
    | cons b others => rw [hasPair, h.1, ih h.2, Bool.false_and, Bool.false_or]

theorem hasInnerMark_eq_false {text : List Char} (h : ∀ c ∈ text, c.isAlphanum = true)
    (previous : Char) : hasInnerMark previous text = false := by
  induction text generalizing previous with
  | nil => rfl
  | cons c rest ih =>
    rw [List.forall_mem_cons] at h
    have hcolon : c ≠ ':' := ne_of_property h.1 (by decide)
    have hhash : c ≠ '#' := ne_of_property h.1 (by decide)
    simp [hasInnerMark, hcolon, hhash, ih h.2]

/-- Nothing in a word would be read as a mark. -/
theorem hasMark_word {word : List Char} (h : IsWord word) : hasMark word = false := by
  obtain ⟨hne, halpha⟩ := h
  cases word with
  | nil => exact absurd rfl hne
  | cons c rest =>
    have hc := halpha c List.mem_cons_self
    have hmarks := not_mem_of_all hc "#,[]\x7b\x7d&*!|>'\x22%@\x60".toList (by decide)
    have hquestion : c ≠ '?' := ne_of_property hc (by decide)
    have hcolon : c ≠ ':' := ne_of_property hc (by decide)
    have hdash : c ≠ '-' := ne_of_property hc (by decide)
    have hpoint : c ≠ '.' := ne_of_property hc (by decide)
    have hinner := hasInnerMark_eq_false (fun d hd => halpha d (List.mem_cons_of_mem c hd)) c
    have hmarker : startsLikeMarker (c :: rest) = false := by
      simp [startsLikeMarker, List.isPrefixOf, hdash.symm, hpoint.symm]
    have hstart : startsWithMark (c :: rest) = false := by
      rw [startsWithMark, List.contains_eq_mem, decide_eq_false hmarks]
      simp [hquestion, hcolon, hdash]
    rw [hasMark, hmarker, hstart, hinner]
    rfl

theorem getLast?_any_eq_false {property : Char → Bool} {text : List Char}
    (h : ∀ c ∈ text, property c = false) : text.getLast?.any property = false := by
  cases hlast : text.getLast? with
  | none => rfl
  | some c => exact h c (List.mem_of_getLast? hlast)

theorem mayBePlain_word {word : List Char} (h : IsWord word) : mayBePlain word = true := by
  have hspace : ∀ c ∈ word, isSpace c = false := fun c hc =>
    isSpace_of_isAlphanum (h.alphanumeric c hc)
  have hbreak : word.any isBreak = false := List.any_eq_false.2 fun c hc => by
    rw [isBreak_of_isAlphanum (h.alphanumeric c hc)]
    exact Bool.false_ne_true
  have hprintable : word.all isPrintable = true := List.all_eq_true.2 fun c hc =>
    isPrintable_of_isAlphanum (h.alphanumeric c hc)
  have hends : atEnd isSpace word = false := by
    have hhead : word.head?.any isSpace = false := by
      cases word with
      | nil => rfl
      | cons c rest => exact hspace c List.mem_cons_self
    rw [atEnd, hhead, getLast?_any_eq_false hspace, Bool.or_false]
  unfold mayBePlain needsEscapes
  rw [hasPair_eq_false hspace, hbreak, hprintable, hends, hasMark_word h]
  rfl

/-- What is written as a word is ended by a line end. -/
theorem render_eq_word {value : Value} {word : List Char} (h : IsWord word)
    (hvalue : writeRoot value = word) : render value = String.ofList (word ++ ['\n']) := by
  have hlast : word.getLast?.any isBreak = false :=
    getLast?_any_eq_false fun c hc => isBreak_of_isAlphanum (h.alphanumeric c hc)
  rw [render, hvalue, lineEnd, hlast]
  rfl

/-- A text that is a word is written as it is unless it would be taken for something else. -/
theorem writeRoot_word {text : String} (h : IsWord text.toList)
    (hplain : isAmbiguous text = false) : writeRoot (.text text) = text.toList := by
  have hline : text.toList.contains '\n' = false := by
    rw [List.contains_eq_mem, decide_eq_false_iff_not]
    exact fun hmem => absurd (h.alphanumeric _ hmem) (by decide)
  have hform : textForm text = .plain := by
    unfold textForm
    simp only [hline, hplain, mayBePlain_word h, Bool.false_eq_true, if_false, Bool.not_false,
      Bool.and_self, if_true]
  change writeText 2 text = _
  unfold writeText
  rw [hform]

/-- A text that is a word and would be taken for nothing else is read back. -/
theorem read_text_word {text : String} (h : IsWord text.toList)
    (hplain : isAmbiguous text = false) :
    read (render (.text text)) = some (.scalar none .plain text) := by
  rw [render_eq_word h (writeRoot_word h hplain), read_word h, String.ofList_toList]

end Yaml

/-! ### Texts in JSON -/

namespace Json

theorem escape_of_isAlphanum {c : Char} (h : c.isAlphanum = true) : escape c = [c] := by
  have hcode := toNat_of_isAlphanum h
  have hcontrol : ¬ c.toNat < 0x20 := by omega
  unfold escape
  split
  case h_8 => rw [if_neg hcontrol]
  all_goals
    rename_i hmark
    rw [hmark] at hcode
    exact absurd hcode (by decide)

theorem tokens?_lineEnd : tokens? ['\n'] = some [] := by
  rw [tokens?, tokens?]
  rfl

/-- A word is read up to the quote behind it. -/
theorem scanText_word {word : List Char} (h : ∀ c ∈ word, c.isAlphanum = true)
    (rest : List Char) : scanText (word ++ '\x22' :: rest) = some (word, rest) := by
  induction word with
  | nil => rw [List.nil_append, scanText]
  | cons c others ih =>
    rw [List.forall_mem_cons] at h
    have hquote : c ≠ '\x22' := ne_of_property h.1 (by decide)
    have hslash : c ≠ '\x5c' := ne_of_property h.1 (by decide)
    have hcode := toNat_of_isAlphanum h.1
    rw [List.cons_append, scanText, ih h.2]
    · rw [if_neg]
      · rfl
      · simp only [hslash, beq_iff_eq, Bool.or_eq_true, decide_eq_true_eq, or_false]
        omega
    · exact fun heq => absurd heq hquote
    · exact fun _ _ _ _ _ heq => absurd heq hslash
    · exact fun _ _ heq => absurd heq hslash

/-- A text that is a word is read back. -/
theorem read_text_word {text : String} (h : IsWord text.toList) :
    read (render (.text text)) = some (.text text) := by
  have hescape : text.toList.flatMap escape = text.toList := by
    rw [List.flatMap_congr fun c hc => escape_of_isAlphanum (h.alphanumeric c hc)]
    simp
  have hrender : (render (.text text)).toList = '\x22' :: (text.toList ++ '\x22' :: ['\n']) := by
    change (quote text ++ "\n").toList = _
    rw [quote, hescape, String.toList_append, String.toList_ofList]
    simp
  have htokens : tokens? (render (.text text)).toList = some [.scalar (.text text)] := by
    rw [hrender, tokens?]
    have hblank : isBlank '\x22' = false := rfl
    rw [hblank, if_neg Bool.false_ne_true, if_pos rfl]
    have hscan := scanText_word h.alphanumeric ['\n']
    split
    · rename_i hnone
      rw [hscan] at hnone
      cases hnone
    · rename_i found others hfound
      rw [hscan] at hfound
      cases hfound
      rw [tokens?_lineEnd, String.ofList_toList]
      rfl
  unfold read
  rw [htokens]
  rfl

end Json

end DiskLayout
