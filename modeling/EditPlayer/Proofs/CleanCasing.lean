import EditPlayer.Casing.Conversion
import EditPlayer.Proofs.Lines
import EditPlayer.Proofs.SplitLines
set_option autoImplicit false

/-!
# Conversions keep texts clean

A conversion of a clean text is clean: `Conversion.crClean_apply`.  No case mapping gives a carriage
return or a line feed of another character, and each of these two is its own image.  So the
conversions of single characters leave every line break as it is.  The conversions of lines cut a
clean text into pieces without carriage returns, and join what comes of the pieces by whole line
breaks again.
-/

namespace EditPlayer

/-- One of the two characters that line breaks are made of. -/
def IsBreak (c : Char) : Prop := c = '\r' ∨ c = '\n'

instance (c : Char) : Decidable (IsBreak c) := inferInstanceAs (Decidable (_ ∨ _))

theorem isBreak_return : IsBreak '\r' := .inl rfl

theorem isBreak_feed : IsBreak '\n' := .inr rfl

theorem IsBreak.ne_space {c : Char} (h : IsBreak c) : c ≠ ' ' := by
  rintro rfl
  exact absurd h (by decide)

/-! ## Case mappings -/

namespace Unicode

variable {d : Char} (hd : IsBreak d)

include hd

theorem ofNat_ne_break {n : Nat} (h : 13 < n) : Char.ofNat n ≠ d := by
  have hle : d.toNat ≤ 13 := by rcases hd with rfl | rfl <;> decide
  have hzero : d ≠ Char.ofNat 0 := by rcases hd with rfl | rfl <;> decide
  rintro rfl
  by_cases hvalid : n.isValidChar
  · have hcode : (Char.ofNat n).toNat = n := congrArg Char.toNat (dif_pos hvalid)
    omega
  · -- A number that is no code point stands for the character with the number zero.
    exact hzero (dif_neg hvalid)

/-- A table whose images all lie behind the carriage return gives no character of a line break. -/
theorem break_not_mem_mapBy {shifts : List CodeShift} {expansions : List (Nat × List Nat)}
    (hshifts : ∀ shift ∈ shifts, 13 < shift.image)
    (hexpansions : ∀ entry ∈ expansions, ∀ code ∈ entry.2, 13 < code) {c : Char} (hc : c ≠ d) :
    d ∉ mapBy shifts expansions c := by
  unfold mapBy
  split
  · rename_i codes hcodes
    intro hmem
    obtain ⟨code, hcode, heq⟩ := List.mem_map.mp hmem
    obtain ⟨before, after, rfl, -⟩ := List.lookup_eq_some_iff.mp hcodes
    have hentry : (c.toNat, codes) ∈ before ++ (c.toNat, codes) :: after := by simp
    exact ofNat_ne_break hd (hexpansions _ hentry code hcode) heq
  · split
    · rename_i code hcode
      obtain ⟨shift, hshift, himage⟩ := List.exists_of_findSome?_eq_some hcode
      have hlt := hshifts shift hshift
      unfold CodeShift.imageOf? at himage
      split at himage
      · cases himage
        have hne : Char.ofNat (shift.image + (c.toNat - shift.run.first)) ≠ d :=
          ofNat_ne_break hd (by omega)
        simpa using Ne.symm hne
      · cases himage
    · simpa using Ne.symm hc

theorem break_not_mem_toUpper {c : Char} (hc : c ≠ d) : d ∉ toUpper c := by
  unfold toUpper
  split
  · have hascii : c.toUpper ≠ d := by
      intro h
      unfold Char.toUpper at h
      split at h
      · have hval := congrArg Char.val h
        rcases hd with rfl | rfl <;> grind
      · exact hc h
    simpa using Ne.symm hascii
  · exact break_not_mem_mapBy hd (by decide +kernel) (by decide +kernel) hc

theorem break_not_mem_toLower {c : Char} (hc : c ≠ d) : d ∉ toLower c := by
  unfold toLower
  split
  · have hascii : c.toLower ≠ d := by
      intro h
      unfold Char.toLower at h
      split at h
      · have hval := congrArg Char.val h
        rcases hd with rfl | rfl <;> grind
      · exact hc h
    simpa using Ne.symm hascii
  · exact break_not_mem_mapBy hd (by decide +kernel) (by decide +kernel) hc

end Unicode

namespace Text

/-! ## Conversions of single characters -/

/-- Replacing every character keeps a text clean, if line breaks stay and no carriage return comes
of another character. -/
theorem CrClean.flatMap {convert : Char → Text} (hreturn : convert '\r' = ['\r'])
    (hfeed : convert '\n' = ['\n']) (hother : ∀ c, c ≠ '\r' → '\r' ∉ convert c) {text : Text}
    (h : CrClean text) : CrClean (text.flatMap convert) := by
  induction text, h using CrClean.induction with
  | nil => trivial
  | pair rest _ ih =>
    rw [List.flatMap_cons, List.flatMap_cons, hreturn, hfeed]
    exact ih.pair
  | cons c rest hc _ ih =>
    rw [List.flatMap_cons]
    exact (crClean_of_not_mem (hother c hc)).append ih

/-! ## Pieces and joined pieces -/

/-- A clean text without pairs has no carriage return. -/
theorem CrClean.return_not_mem {text : Text} (h : CrClean text) (hnone : text.hasCrlf = false) :
    '\r' ∉ text := by
  induction text, h using CrClean.induction with
  | nil => simp
  | pair rest _ _ => simp [hasCrlf] at hnone
  | cons c rest hc _ ih =>
    have hrest : rest.hasCrlf = false := by
      rw [hasCrlf, Bool.or_eq_false_iff] at hnone
      exact hnone.2
    simpa [Ne.symm hc] using ih hrest

theorem splitOnCrlf_cons {c : Char} (h : c ≠ '\r') (rest : Text) :
    splitOnCrlf (c :: rest) = consHead c (splitOnCrlf rest) := by
  cases rest with
  | nil => rfl
  | cons d rest => rw [splitOnCrlf, if_neg (by simp [h])]

theorem not_mem_of_mem_consHead {c d : Char} (h : c ≠ d) {pieces : List Text}
    (hpieces : ∀ piece ∈ pieces, c ∉ piece) : ∀ piece ∈ consHead d pieces, c ∉ piece := by
  cases pieces with
  | nil => simpa [consHead] using h
  | cons first others =>
    intro piece hpiece
    rcases List.mem_cons.mp hpiece with rfl | hlater
    · simpa [h] using hpieces first List.mem_cons_self
    · exact hpieces piece (List.mem_cons_of_mem first hlater)

/-- The pieces of a clean text between its pairs hold no carriage return. -/
theorem CrClean.return_not_mem_splitOnCrlf {text : Text} (h : CrClean text) :
    ∀ piece ∈ splitOnCrlf text, '\r' ∉ piece := by
  induction text, h using CrClean.induction with
  | nil => simp [splitOnCrlf]
  | pair rest _ ih => simpa [splitOnCrlf] using ih
  | cons c rest hc _ ih =>
    rw [splitOnCrlf_cons hc]
    exact not_mem_of_mem_consHead (Ne.symm hc) ih

/-- A clean text is cut into pieces without carriage returns. -/
theorem CrClean.return_not_mem_split {text : Text} (h : CrClean text) :
    ∀ piece ∈ (LineBreak.ofText text).split text, '\r' ∉ piece := by
  unfold LineBreak.ofText
  split
  · exact h.return_not_mem_splitOnCrlf
  · rename_i hnone
    have hreturn := h.return_not_mem (Bool.not_eq_true _ ▸ hnone)
    exact fun piece hpiece hmem => hreturn (mem_of_mem_splitOn hpiece hmem)

/-- Pieces without carriage returns are joined to a clean text. -/
theorem crClean_join (style : LineBreak) {pieces : List Text}
    (h : ∀ piece ∈ pieces, '\r' ∉ piece) : CrClean (style.join pieces) := by
  have hbreak : CrClean style.text := by cases style <;> decide
  unfold LineBreak.join
  induction pieces with
  | nil => trivial
  | cons piece rest ih =>
    have hpiece := crClean_of_not_mem (h piece List.mem_cons_self)
    have hrest := ih fun other hother => h other (List.mem_cons_of_mem piece hother)
    cases rest with
    | nil => exact hpiece
    | cons next others =>
      rw [join_cons_of_ne_nil _ _ (List.cons_ne_nil next others)]
      exact (hpiece.append hbreak).append hrest

theorem mem_of_mem_trimEndWhere {p : Char → Bool} {text : Text} {c : Char}
    (h : c ∈ trimEndWhere p text) : c ∈ text := by
  have hreverse : c ∈ text.reverse.dropWhile p := List.mem_reverse.mp h
  exact List.mem_reverse.mp ((List.dropWhile_sublist p).subset hreverse)

theorem mem_of_mem_trim {text : Text} {c : Char} (h : c ∈ trim text) : c ∈ text :=
  (List.dropWhile_sublist isSpace).subset (mem_of_mem_trimEndWhere h)

theorem mem_of_mem_words {line word : Text} {c : Char} (hword : word ∈ words line)
    (hc : c ∈ word) : c ∈ line :=
  mem_of_mem_splitWhere (List.mem_filter.mp hword).1 hc

end Text

/-! ## Conversions of lines -/

namespace Casing

open Unicode

/-- Converting each line keeps a text clean, if no carriage return comes of a line without one. -/
theorem crClean_eachLine {convert : Text → Text}
    (hconvert : ∀ line : Text, '\r' ∉ line → '\r' ∉ convert line) {text : Text}
    (h : text.CrClean) : (eachLine convert text).CrClean := by
  refine Text.crClean_join _ fun piece hpiece => ?_
  obtain ⟨line, hline, rfl⟩ := List.mem_map.mp hpiece
  refine hconvert line.trim fun hmem => ?_
  exact h.return_not_mem_split line hline (Text.mem_of_mem_trim hmem)

section Breaks

variable {d : Char} (hd : IsBreak d)

include hd

theorem break_not_mem_flatMap_toLower {text : Text} (h : d ∉ text) : d ∉ text.flatMap toLower := by
  intro hmem
  obtain ⟨c, hc, hbreak⟩ := List.mem_flatMap.mp hmem
  exact break_not_mem_toLower hd (fun heq => h (heq ▸ hc)) hbreak

theorem break_not_mem_capitalize {word : Text} (h : d ∉ word) : d ∉ capitalize word := by
  cases word with
  | nil => exact h
  | cons c rest =>
    rw [List.mem_cons, not_or] at h
    rw [capitalize, List.mem_append, not_or]
    exact ⟨break_not_mem_toUpper hd (Ne.symm h.1), break_not_mem_flatMap_toLower hd h.2⟩

theorem break_not_mem_titleLine {line : Text} (h : d ∉ line) : d ∉ titleLine line := by
  refine Text.not_mem_join (by simpa using hd.ne_space) fun piece hpiece => ?_
  obtain ⟨word, hword, rfl⟩ := List.mem_map.mp hpiece
  exact break_not_mem_capitalize hd fun hmem => h (Text.mem_of_mem_words hword hmem)

theorem break_not_mem_lowerFirst {text : Text} (h : d ∉ text) : d ∉ lowerFirst text := by
  cases text with
  | nil => exact h
  | cons c rest =>
    rw [List.mem_cons, not_or] at h
    rw [lowerFirst, List.mem_append, not_or]
    exact ⟨break_not_mem_toLower hd (Ne.symm h.1), h.2⟩

theorem break_not_mem_camelLine {line : Text} (h : d ∉ line) : d ∉ camelLine line :=
  break_not_mem_lowerFirst hd fun hmem => break_not_mem_titleLine hd h (List.mem_filter.mp hmem).1

theorem break_not_mem_spaceParts {text : Text} (before : Option Char) (h : d ∉ text) :
    d ∉ spaceParts before text := by
  have hspace := hd.ne_space
  induction text generalizing before with
  | nil => exact h
  | cons c rest ih =>
    rw [List.mem_cons, not_or] at h
    have hrest := ih (some c) h.2
    rw [spaceParts]
    split
    · simp [h.1, hrest, hspace]
    · simp [h.1, hrest]

theorem break_not_mem_splitLine {line : Text} (h : d ∉ line) : d ∉ splitLine line := by
  rw [splitLine_eq_spaceParts]
  exact break_not_mem_spaceParts hd none h

theorem break_not_mem_toggleChar {c : Char} (hc : c ≠ d) : d ∉ toggleChar c := by
  unfold toggleChar
  split
  · exact break_not_mem_toUpper hd hc
  · split
    · exact break_not_mem_toLower hd hc
    · simpa using Ne.symm hc

/-- The lower-case form of one character, wherever it stands. -/
theorem break_not_mem_lowerChar {c : Char} (before rest : Text) (hc : c ≠ d) :
    d ∉ if c = 'Σ' then [lowerSigma before rest] else toLower c := by
  split
  · unfold lowerSigma
    rcases hd with rfl | rfl <;> split <;> decide
  · exact break_not_mem_toLower hd hc

theorem break_not_mem_spaced {c : Char} (hc : c ≠ d) :
    d ∉ [if isPunctuation c then ' ' else c] := by
  rw [List.mem_singleton]
  split
  · exact hd.ne_space
  · exact Ne.symm hc

end Breaks

theorem break_not_mem_join_words {d : Char} {separator line : Text} (hseparator : d ∉ separator)
    (h : d ∉ line) : d ∉ Text.join separator line.words :=
  Text.not_mem_join hseparator fun _ hword hmem => h (Text.mem_of_mem_words hword hmem)

theorem crClean_joinWords {separator text : Text} (hseparator : '\r' ∉ separator)
    (h : text.CrClean) : (joinWords separator text).CrClean :=
  crClean_eachLine (fun _ => break_not_mem_join_words hseparator) h

/-- The sigma at the end of a word is the one place where lower case looks around. -/
theorem crClean_lowerAfter {text : Text} (h : text.CrClean) (before : Text) :
    (lowerAfter before text).CrClean := by
  induction text, h using Text.CrClean.induction generalizing before with
  | nil => trivial
  | pair rest _ ih => exact (ih ('\n' :: '\r' :: before)).pair
  | cons c rest hc _ ih =>
    rw [lowerAfter]
    have hform := break_not_mem_lowerChar isBreak_return before rest hc
    exact (Text.crClean_of_not_mem hform).append (ih (c :: before))

end Casing

/-- A conversion of a clean text is clean. -/
theorem Conversion.crClean_apply (conversion : Conversion) {text : Text} (h : text.CrClean) :
    (conversion.apply text).CrClean := by
  cases conversion with
  | lower => exact Casing.crClean_lowerAfter h []
  | upper => exact h.flatMap rfl rfl fun _ => Unicode.break_not_mem_toUpper isBreak_return
  | title =>
    exact Casing.crClean_eachLine (fun _ => Casing.break_not_mem_titleLine isBreak_return) h
  | camel =>
    exact Casing.crClean_eachLine (fun _ => Casing.break_not_mem_camelLine isBreak_return) h
  | toggle =>
    exact h.flatMap (by decide +kernel) (by decide +kernel) fun _ =>
      Casing.break_not_mem_toggleChar isBreak_return
  | memberSyntax => exact Casing.crClean_joinWords (by decide) h
  | kebabSyntax => exact Casing.crClean_joinWords (by decide) h
  | snakeSyntax => exact Casing.crClean_joinWords (by decide) h
  | splitByCase =>
    exact Casing.crClean_eachLine (fun _ => Casing.break_not_mem_splitLine isBreak_return) h
  | removePunctuation =>
    change Text.CrClean (text.map fun c => if Casing.isPunctuation c then ' ' else c)
    rw [List.map_eq_flatMap]
    exact h.flatMap rfl rfl fun _ => Casing.break_not_mem_spaced isBreak_return

end EditPlayer
