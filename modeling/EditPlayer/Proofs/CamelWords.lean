import EditPlayer.Proofs.CaseBoundaries
import EditPlayer.Proofs.JoinedWords
set_option autoImplicit false

/-!
# Words found again in camel case

Camel case drops the blanks between the words of a line and marks their beginnings by capitals.
Splitting by case finds the words again, if they have two letters at least: each capital then
stands between two small letters, and no run of capitals hides a beginning.  So title case cannot
tell whether a text went through camel case (`Casing.title_split_camel`).
-/

namespace EditPlayer

namespace Text

/-! ## Blanks around a line -/

theorem words_blanks_append {blanks : Text} (h : ∀ b ∈ blanks, isBlank b = true) (text : Text) :
    words (blanks ++ text) = words text := by
  induction blanks with
  | nil => rfl
  | cons b blanks ih =>
    rw [List.forall_mem_cons] at h
    rw [List.cons_append, ← List.nil_append (b :: (blanks ++ text)), words_append_blank h.1,
      words_nil, List.nil_append, ih h.2]

theorem words_append_blanks (text : Text) {blanks : Text} (h : ∀ b ∈ blanks, isBlank b = true) :
    words (text ++ blanks) = words text := by
  cases blanks with
  | nil => rw [List.append_nil]
  | cons b blanks =>
    rw [List.forall_mem_cons] at h
    have hnone := words_blanks_append h.2 []
    rw [List.append_nil, words_nil] at hnone
    rw [words_append_blank h.1, hnone, List.append_nil]

/-- Trimming changes no word of a line whose white space is made of blanks. -/
theorem words_trim {line : Text} (h : ∀ c ∈ line, isSpace c = true → isBlank c = true) :
    line.trim.words = line.words := by
  obtain ⟨lead, trail, hlead, htrail, hline⟩ := exists_append_trim_append line
  have hbefore : ∀ c ∈ lead, isBlank c = true := by
    intro c hc
    refine h c ?_ (hlead c hc)
    rw [hline, List.append_assoc]
    exact List.mem_append_left _ hc
  have hbehind : ∀ c ∈ trail, isBlank c = true := by
    intro c hc
    refine h c ?_ (htrail c hc)
    rw [hline]
    exact List.mem_append_right _ hc
  have hwords := words_append_blanks (lead ++ line.trim) hbehind
  rw [← hline, words_blanks_append hbefore] at hwords
  exact hwords.symm

theorem filter_join {b : Char} (hb : isBlank b = true) {pieces : List Text}
    (h : ∀ piece ∈ pieces, ∀ c ∈ piece, isBlank c = false) :
    (join [b] pieces).filter (fun c => !isBlank c) = pieces.flatten := by
  induction pieces with
  | nil => rfl
  | cons piece rest ih =>
    rw [List.forall_mem_cons] at h
    have hpiece : piece.filter (fun c => !isBlank c) = piece := by
      refine List.filter_eq_self.mpr fun c hc => ?_
      rw [h.1 c hc]
      rfl
    cases rest with
    | nil => rw [join_singleton, hpiece, List.flatten_singleton]
    | cons next others =>
      have hblank : List.filter (fun c => !isBlank c) [b] = [] := by simp [hb]
      rw [join_cons_of_ne_nil _ _ (List.cons_ne_nil next others), List.filter_append,
        List.filter_append, hpiece, hblank, List.append_nil, ih h.2]
      rfl

end Text

namespace Casing

open Unicode

/-! ## Letters -/

theorem toNat_lt_of_isAlpha {c : Char} (h : c.isAlpha = true) : c.toNat < 0x80 := by
  rcases Bool.or_eq_true_iff.mp h with hupper | hlower
  · have hlast : c.toNat ≤ 'Z'.toNat := (of_decide_eq_true hupper).2
    exact Nat.lt_of_le_of_lt hlast (by decide)
  · have hlast : c.toNat ≤ 'z'.toNat := of_decide_eq_true (Bool.and_eq_true_iff.mp hlower).2
    exact Nat.lt_of_le_of_lt hlast (by decide)

/-- An ASCII letter has one capital and one small form. -/
theorem letter_forms {c : Char} (h : c.isAlpha = true) :
    (toUpper c = [c.toUpper] ∧ c.toUpper.isUpper = true) ∧
      (toLower c = [c.toLower] ∧ c.toLower.isLower = true) ∧ isSpace c = false := by
  have hascii : ∀ c : Char, c.toNat < 0x80 → c.isAlpha = true →
      (toUpper c = [c.toUpper] ∧ c.toUpper.isUpper = true) ∧
        (toLower c = [c.toLower] ∧ c.toLower.isLower = true) ∧ isSpace c = false :=
    forall_ascii (by decide +kernel)
  exact hascii c (toNat_lt_of_isAlpha h) h

theorem isBlank_eq_false_of_isAlpha {c : Char} (h : c.isAlpha = true) : isBlank c = false :=
  Text.isBlank_eq_false_of_isSpace (letter_forms h).2.2

theorem isAlpha_of_isUpper {c : Char} (h : c.isUpper = true) : c.isAlpha = true :=
  Bool.or_eq_true_iff.mpr (.inl h)

theorem isAlpha_of_isLower {c : Char} (h : c.isLower = true) : c.isAlpha = true :=
  Bool.or_eq_true_iff.mpr (.inr h)

theorem capital_forms {u : Char} (h : u.isUpper = true) :
    isUppercase u = true ∧ toUpper u = [u] ∧ toUpper u.toLower = [u] := by
  have hascii : ∀ u : Char, u.toNat < 0x80 → u.isUpper = true →
      isUppercase u = true ∧ toUpper u = [u] ∧ toUpper u.toLower = [u] :=
    forall_ascii (by decide +kernel)
  exact hascii u (toNat_lt_of_isAlpha (isAlpha_of_isUpper h)) h

theorem small_forms {l : Char} (h : l.isLower = true) :
    isLowercase l = true ∧ isUppercase l = false ∧ toLower l = [l] := by
  have hascii : ∀ l : Char, l.toNat < 0x80 → l.isLower = true →
      isLowercase l = true ∧ isUppercase l = false ∧ toLower l = [l] :=
    forall_ascii (by decide +kernel)
  exact hascii l (toNat_lt_of_isAlpha (isAlpha_of_isLower h)) h

/-! ## Capitalized words -/

/-- A capital with small letters behind it, one at least. -/
inductive Capitalized : Text → Prop where
  | intro {u : Char} {smalls : Text} (hcapital : u.isUpper = true) (hne : smalls ≠ [])
      (hsmalls : ∀ c ∈ smalls, c.isLower = true) : Capitalized (u :: smalls)

theorem Capitalized.ne_nil {word : Text} (h : Capitalized word) : word ≠ [] := by
  cases h
  exact List.cons_ne_nil _ _

theorem Capitalized.isAlpha_of_mem {word : Text} (h : Capitalized word) :
    ∀ c ∈ word, c.isAlpha = true := by
  obtain ⟨hcapital, -, hsmalls⟩ := h
  intro c hc
  rcases List.mem_cons.mp hc with rfl | hsmall
  · exact isAlpha_of_isUpper hcapital
  · exact isAlpha_of_isLower (hsmalls c hsmall)

theorem flatMap_toLower_of_small {smalls : Text} (h : ∀ c ∈ smalls, c.isLower = true) :
    smalls.flatMap toLower = smalls := by
  apply (flatMap_toLower_eq_self_iff smalls).mpr
  intro c hc
  exact (small_forms (h c hc)).2.2

/-- A word of two letters or more is capitalized. -/
theorem capitalized_capitalize {word : Text} (hletters : ∀ c ∈ word, c.isAlpha = true)
    (htwo : 2 ≤ word.length) : Capitalized (capitalize word) := by
  cases word with
  | nil => exact absurd htwo (by simp)
  | cons c rest =>
    rw [List.forall_mem_cons] at hletters
    obtain ⟨⟨hupper, hcapital⟩, -⟩ := letter_forms hletters.1
    rw [capitalize, hupper, List.singleton_append]
    refine .intro hcapital ?_ ?_
    · obtain ⟨d, rest, rfl⟩ := List.exists_cons_of_length_pos (Nat.le_of_succ_le_succ htwo)
      rw [List.flatMap_cons]
      exact List.append_ne_nil_of_left_ne_nil (toLower_ne_nil d) _
    · intro d hd
      obtain ⟨e, he, hform⟩ := List.mem_flatMap.mp hd
      obtain ⟨-, ⟨hlower, hsmall⟩, -⟩ := letter_forms (hletters.2 e he)
      rw [hlower, List.mem_singleton] at hform
      rwa [hform]

/-- Capitalizing a capitalized word changes nothing. -/
theorem Capitalized.capitalize_eq {word : Text} (h : Capitalized word) :
    capitalize word = word := by
  obtain ⟨hcapital, -, hsmalls⟩ := h
  rw [capitalize, (capital_forms hcapital).2.1, flatMap_toLower_of_small hsmalls,
    List.singleton_append]

/-! ## Splitting -/

/-- No space comes into a text without capitals. -/
theorem spaceParts_append_of_forall {first : Text} (h : ∀ c ∈ first, isUppercase c = false)
    (before : Option Char) (rest : Text) :
    spaceParts before (first ++ rest) = first ++ spaceParts (first.getLast?.or before) rest := by
  induction first generalizing before with
  | nil => rfl
  | cons c first ih =>
    rw [List.forall_mem_cons] at h
    have hnone : beginsPart before c (first ++ rest).head? = false := by
      rw [beginsPart, h.1, Bool.false_and]
    rw [List.cons_append, spaceParts, hnone, if_neg Bool.false_ne_true, ih h.2, List.getLast?_cons]
    cases first.getLast? <;> rfl

/-- Behind a small letter, each capitalized word is a part of its own. -/
theorem spaceParts_flatten {words : List Text} (h : ∀ word ∈ words, Capitalized word) {b : Char}
    (hb : b.isLower = true) :
    spaceParts (some b) words.flatten = words.flatMap fun word => [' '] ++ word := by
  induction words generalizing b with
  | nil => rfl
  | cons word rest ih =>
    rw [List.forall_mem_cons] at h
    obtain ⟨hword, hrest⟩ := h
    cases hword with
    | @intro u smalls hcapital hne hsmalls =>
      have hbegins : beginsPart (some b) u (smalls ++ rest.flatten).head? = true := by
        rw [beginsPart, (capital_forms hcapital).1, Option.any_some, (small_forms hb).1]
        rfl
      have hsmall : ∀ c ∈ smalls, isUppercase c = false := fun c hc =>
        (small_forms (hsmalls c hc)).2.1
      obtain ⟨d, hd⟩ : ∃ d, smalls.getLast? = some d := by
        exact ⟨_, List.getLast?_eq_some_getLast hne⟩
      rw [List.flatten_cons, List.cons_append, spaceParts, if_pos hbegins,
        spaceParts_append_of_forall hsmall, hd, Option.some_or,
        ih hrest (hsmalls d (List.mem_of_getLast? hd)), List.flatMap_cons]
      rfl

/-- Of several capitalized words, the first one is written in small letters in camel case. -/
theorem exists_lowerFirst_flatten {word : Text} (h : Capitalized word) (words : List Text) :
    ∃ small, lowerFirst (word :: words).flatten = small ++ words.flatten ∧ small ≠ [] ∧
      (∀ c ∈ small, c.isLower = true) ∧ capitalize small = word := by
  cases h with
  | @intro u smalls hcapital hne hsmalls =>
    obtain ⟨-, ⟨hlower, hsmall⟩, -⟩ := letter_forms (isAlpha_of_isUpper hcapital)
    refine ⟨u.toLower :: smalls, ?_, List.cons_ne_nil _ _, ?_, ?_⟩
    · rw [List.flatten_cons, List.cons_append, lowerFirst, hlower]
      rfl
    · exact List.forall_mem_cons.mpr ⟨hsmall, hsmalls⟩
    · rw [capitalize, (capital_forms hcapital).2.2, flatMap_toLower_of_small hsmalls]
      rfl

/-- Small letters and capitalized words behind them are words of their own after splitting. -/
theorem spaceParts_append_flatten {small : Text} (hne : small ≠ [])
    (hsmall : ∀ c ∈ small, c.isLower = true) {words : List Text}
    (h : ∀ word ∈ words, Capitalized word) :
    spaceParts none (small ++ words.flatten) = Text.join [' '] (small :: words) := by
  have hplain : ∀ c ∈ small, isUppercase c = false := fun c hc =>
    (small_forms (hsmall c hc)).2.1
  have hlast := List.getLast?_eq_some_getLast hne
  rw [spaceParts_append_of_forall hplain, hlast, Option.some_or,
    spaceParts_flatten h (hsmall _ (List.getLast_mem hne)), Text.join_cons_eq_flatMap]

/-! ## Lines -/

/-- The words of the line are made of ASCII letters, two of them at least. -/
def LongWords (line : Text) : Prop :=
  ∀ word ∈ line.words, 2 ≤ word.length ∧ ∀ c ∈ word, c.isAlpha = true

/-- Camel case is made of small letters and the capitalized words but the first. -/
theorem LongWords.exists_camelLine {line : Text} (h : LongWords line) :
    line.words = [] ∧ camelLine line = [] ∨
      ∃ small words, camelLine line = small ++ words.flatten ∧ small ≠ [] ∧
        (∀ c ∈ small, c.isLower = true) ∧ (∀ word ∈ words, Capitalized word) ∧
        line.words.map capitalize = capitalize small :: words := by
  have hcapitalized : ∀ word ∈ line.words.map capitalize, Capitalized word := by
    intro word hword
    obtain ⟨plain, hplain, rfl⟩ := List.mem_map.mp hword
    exact capitalized_capitalize (h plain hplain).2 (h plain hplain).1
  have hcamel : camelLine line = lowerFirst (line.words.map capitalize).flatten := by
    rw [camelLine, titleLine, Text.filter_join rfl]
    intro word hword c hc
    exact isBlank_eq_false_of_isAlpha ((hcapitalized word hword).isAlpha_of_mem c hc)
  rw [hcamel]
  cases hwords : line.words.map capitalize with
  | nil => exact .inl ⟨List.map_eq_nil_iff.mp hwords, rfl⟩
  | cons word words =>
    rw [hwords, List.forall_mem_cons] at hcapitalized
    obtain ⟨hword, hrest⟩ := hcapitalized
    obtain ⟨small, hflatten, hne, hsmall, rfl⟩ := exists_lowerFirst_flatten hword words
    exact .inr ⟨small, words, hflatten, hne, hsmall, hrest, rfl⟩

/-- The words of a line are found again in its camel case. -/
theorem LongWords.titleLine_spaceParts_camelLine {line : Text} (h : LongWords line) :
    titleLine (spaceParts none (camelLine line)) = titleLine line := by
  rcases h.exists_camelLine with ⟨hnone, hcamel⟩ | ⟨small, words, hcamel, hne, hsmall, hrest, hall⟩
  · rw [hcamel, titleLine, titleLine, hnone]
    rfl
  · have hfound : (Text.join [' '] (small :: words)).words = small :: words := by
      apply Text.words_join rfl
      intro piece hpiece
      rcases List.mem_cons.mp hpiece with rfl | hword
      · refine ⟨hne, fun c hc => ?_⟩
        exact isBlank_eq_false_of_isAlpha (isAlpha_of_isLower (hsmall c hc))
      · have hcapitalized := hrest piece hword
        refine ⟨hcapitalized.ne_nil, fun c hc => ?_⟩
        exact isBlank_eq_false_of_isAlpha (hcapitalized.isAlpha_of_mem c hc)
    have hsame : words.map capitalize = words.map id :=
      List.map_congr_left fun word hword => (hrest word hword).capitalize_eq
    rw [hcamel, spaceParts_append_flatten hne hsmall hrest, titleLine, hfound, List.map_cons,
      hsame, List.map_id, titleLine, hall]

theorem LongWords.isAlpha_of_mem_camelLine {line : Text} (h : LongWords line) :
    ∀ c ∈ camelLine line, c.isAlpha = true := by
  intro c hc
  rcases h.exists_camelLine with ⟨-, hcamel⟩ | ⟨small, words, hcamel, -, hsmall, hrest, -⟩
  · rw [hcamel] at hc
    cases hc
  · rw [hcamel, List.mem_append] at hc
    rcases hc with hfirst | hlater
    · exact isAlpha_of_isLower (hsmall c hfirst)
    · obtain ⟨word, hword, hmem⟩ := List.mem_flatten.mp hlater
      exact (hrest word hword).isAlpha_of_mem c hmem

/-! ## Texts -/

section Letters

variable {text : Text} (h : ∀ c ∈ text, c.isAlpha = true)

include h

theorem free_of_isAlpha (style : LineBreak) : style.Free text := by
  intro hbreak
  have hfeed : '\n' ∈ style.text := by cases style <;> simp [LineBreak.text]
  exact absurd (h '\n' (hbreak.subset hfeed)) (by decide)

theorem trim_of_isAlpha : text.trim = text := by
  apply Text.trim_eq_self
  · intro c hc
    exact (letter_forms (h c (List.mem_of_mem_head? hc))).2.2
  · intro c hc
    exact (letter_forms (h c (List.mem_of_getLast? hc))).2.2

end Letters

theorem longWords_trim {line : Text} (hletters : ∀ c ∈ line, c.isAlpha = true ∨ isBlank c = true)
    (htwo : ∀ word ∈ line.words, 2 ≤ word.length) : LongWords line.trim := by
  have hwords : line.trim.words = line.words := by
    apply Text.words_trim
    intro c hc hspace
    refine (hletters c hc).resolve_left fun hletter => ?_
    rw [(letter_forms hletter).2.2] at hspace
    cases hspace
  intro word hword
  rw [hwords] at hword
  refine ⟨htwo word hword, fun c hc => ?_⟩
  refine (hletters c (Text.mem_of_mem_words hword hc)).resolve_right ?_
  rw [Text.isBlank_eq_false_of_mem_words hword hc]
  exact Bool.false_ne_true

/-- Title case after camel case and splitting is title case at once, for texts of ASCII letters and
blanks in lines of one style, with no word of one letter. -/
theorem title_split_camel {text : Text}
    (hletters : ∀ line ∈ (LineBreak.ofText text).split text,
      ∀ c ∈ line, c.isAlpha = true ∨ isBlank c = true)
    (htwo : ∀ line ∈ (LineBreak.ofText text).split text, ∀ word ∈ line.words, 2 ≤ word.length) :
    title (split (camel text)) = title text := by
  have hlong : ∀ line ∈ (LineBreak.ofText text).split text, LongWords line.trim :=
    fun line hline => longWords_trim (hletters line hline) (htwo line hline)
  have hcamel : KeepsLines camelLine text := by
    intro line hline
    have halpha := (hlong line hline).isAlpha_of_mem_camelLine
    exact ⟨free_of_isAlpha halpha _, trim_of_isAlpha halpha⟩
  have hparts : KeepsLines (fun line => spaceParts none (camelLine line)) text := by
    intro line hline
    obtain ⟨hfree, htrim⟩ := hcamel line hline
    have hspaced := trim_spaceParts_trim (camelLine line.trim)
    rw [htrim] at hspaced
    exact ⟨free_spaceParts none hfree, hspaced⟩
  have hsplit : split (camel text) =
      eachLine (fun line => spaceParts none (camelLine line)) text := by
    rw [split_eq_eachLine]
    exact eachLine_eachLine (spaceParts none) hcamel
  rw [hsplit, title, eachLine_eachLine titleLine hparts, title, eachLine]
  refine congrArg _ (List.map_congr_left fun line hline => ?_)
  exact (hlong line hline).titleLine_spaceParts_camelLine

theorem title_split_camel_blankLine :
    title (split (camel " make  IT\tCamel\r\n\r\nxml HTTP ".toList)) =
      title " make  IT\tCamel\r\n\r\nxml HTTP ".toList := by
  have hlines : (LineBreak.ofText " make  IT\tCamel\r\n\r\nxml HTTP ".toList).split
      " make  IT\tCamel\r\n\r\nxml HTTP ".toList =
      [" make  IT\tCamel".toList, [], "xml HTTP ".toList] := by decide
  apply title_split_camel
  · rw [hlines]
    simp [isBlank]
  · rw [hlines]
    decide

end Casing

end EditPlayer
