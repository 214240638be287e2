import EditPlayer.Proofs.LineBreaks
set_option autoImplicit false

/-!
# Conversions leave line breaks alone

A conversion neither looks at the style of the line breaks nor changes their number, if no carriage
return stands by itself (`Conversion.keepsBreaks`).  Three kinds of conversions are told apart:
those of single characters, those of whole lines, and lower case, which looks around at a sigma, but
never beyond a line break.
-/

namespace EditPlayer

/-- The conversion takes lines to as many lines, whatever the style of their line breaks. -/
structure KeepsBreaks (convert : Text → Text) : Prop where
  write_eq : ∀ (style : LineBreak) (flat : Text), '\r' ∉ flat →
    convert (style.write flat) = style.write (convert flat)
  return_not_mem : ∀ flat : Text, '\r' ∉ flat → '\r' ∉ convert flat
  count_eq : ∀ flat : Text, '\r' ∉ flat → (convert flat).count '\n' = flat.count '\n'

/-! ## Single characters -/

/-- The conversion of single characters, if the two characters of line breaks stay and come of no
other character. -/
theorem keepsBreaks_flatMap {convert : Char → Text} (hreturn : convert '\r' = ['\r'])
    (hfeed : convert '\n' = ['\n'])
    (hother : ∀ {d : Char}, IsBreak d → ∀ {c : Char}, c ≠ d → d ∉ convert c) :
    KeepsBreaks fun text => text.flatMap convert where
  write_eq style flat h := by
    induction flat with
    | nil => rfl
    | cons c flat ih =>
      rw [List.mem_cons, not_or] at h
      rw [List.flatMap_cons, LineBreak.write_append, ← ih h.2]
      by_cases hc : c = '\n'
      · subst hc
        have hbreak : style.text.flatMap convert = style.text := by
          cases style with
          | lf => simp [LineBreak.text, hfeed]
          | crlf => simp [LineBreak.text, hfeed, hreturn]
        rw [style.write_cons_feed, List.flatMap_append, hbreak, hfeed, style.write_feed]
      · rw [style.write_cons hc, List.flatMap_cons,
          style.write_of_not_mem (hother isBreak_feed hc)]
  return_not_mem flat h := by
    intro hmem
    obtain ⟨c, hc, hbreak⟩ := List.mem_flatMap.mp hmem
    exact hother isBreak_return (fun heq => h (heq ▸ hc)) hbreak
  count_eq flat h := by
    clear h
    induction flat with
    | nil => rfl
    | cons c flat ih =>
      rw [List.flatMap_cons, List.count_append, ih]
      by_cases hc : c = '\n'
      · subst hc
        rw [hfeed, List.count_singleton_self, List.count_cons_self, Nat.add_comm]
      · rw [List.count_eq_zero.mpr (hother isBreak_feed hc), Nat.zero_add,
          List.count_cons_of_ne hc]

/-! ## Whole lines -/

namespace Casing

variable {convert : Text → Text}

/-- Joined lines are converted one by one, whatever the style of their line breaks. -/
theorem eachLine_join (style : LineBreak) {lines : List Text} (hne : lines ≠ [])
    (h : ∀ line ∈ lines, '\r' ∉ line ∧ '\n' ∉ line) :
    eachLine convert (style.join lines) = style.join (lines.map fun line => convert line.trim) := by
  have hreturn : ∀ line ∈ lines, '\r' ∉ line := fun line hline => (h line hline).1
  unfold eachLine
  dsimp only
  match lines with
  | [] => exact absurd rfl hne
  | [line] =>
    -- A single line does not show the style that it was joined in, but no style is needed.
    have hstyle : LineBreak.ofText (style.join [line]) = .lf := by
      rw [LineBreak.ofText, LineBreak.join, Text.join_singleton,
        Text.hasCrlf_of_not_mem (hreturn line List.mem_cons_self)]
      rfl
    have hsplit : LineBreak.lf.split (style.join [line]) = [line] :=
      Text.splitOn_of_not_mem (h line List.mem_cons_self).2
    rw [hstyle, hsplit]
    rfl
  | line :: next :: others => rw [style.ofText_join hreturn, style.split_join hne h]

/-- The lines of a flat text, each trimmed and converted. -/
def convertedLines (convert : Text → Text) (flat : Text) : List Text :=
  (flat.splitOn '\n').map fun line => convert line.trim

theorem length_convertedLines (convert : Text → Text) (flat : Text) :
    (convertedLines convert flat).length = flat.count '\n' + 1 := by
  rw [convertedLines, List.length_map, Text.length_splitOn]

theorem eachLine_write (style : LineBreak) {flat : Text} (h : '\r' ∉ flat) :
    eachLine convert (style.write flat) = style.join (convertedLines convert flat) := by
  have hlines := Text.break_not_mem_splitOn h
  rw [style.write_eq_join, eachLine_join style (Text.splitOn_ne_nil '\n' flat) hlines,
    convertedLines]

/-- The conversion of lines, if no character of a line break comes of a line without it. -/
theorem keepsBreaks_eachLine
    (hconvert : ∀ {d : Char}, IsBreak d → ∀ {line : Text}, d ∉ line → d ∉ convert line) :
    KeepsBreaks (eachLine convert) := by
  have hbreak (d : Char) (hd : IsBreak d) (flat : Text) (h : ∀ line ∈ flat.splitOn '\n', d ∉ line) :
      ∀ line ∈ convertedLines convert flat, d ∉ line := by
    intro piece hpiece
    obtain ⟨line, hline, rfl⟩ := List.mem_map.mp hpiece
    exact hconvert hd fun hmem => h line hline (Text.mem_of_mem_trim hmem)
  have hfeed (flat : Text) : ∀ line ∈ convertedLines convert flat, '\n' ∉ line :=
    hbreak '\n' isBreak_feed flat fun _ hline => Text.not_mem_of_mem_splitOn hline
  have hflat (flat : Text) (h : '\r' ∉ flat) :
      eachLine convert flat = LineBreak.lf.join (convertedLines convert flat) := by
    rw [← eachLine_write .lf h, LineBreak.write_lf]
  refine ⟨fun style flat h => ?_, fun flat h => ?_, fun flat h => ?_⟩
  · rw [eachLine_write style h, hflat flat h, style.write_join (hfeed flat)]
  · rw [hflat flat h]
    refine Text.not_mem_join (by decide) (hbreak '\r' isBreak_return flat fun line hline => ?_)
    exact (Text.break_not_mem_splitOn h line hline).1
  · have hlength := length_convertedLines convert flat
    have hne : convertedLines convert flat ≠ [] := List.ne_nil_of_length_eq_add_one hlength
    rw [hflat flat h]
    exact Nat.succ.inj ((LineBreak.count_join hne (hfeed flat)).trans hlength)

/-! ## Lower case -/

/-- Casing looks through no character of a line break. -/
theorem meetsCased_break {d : Char} (hd : IsBreak d) (text : Text) :
    meetsCased (d :: text) = false := by
  rcases hd with rfl | rfl <;> rfl

theorem meetsCased_cons (c : Char) {text text' : Text} (h : meetsCased text = meetsCased text') :
    meetsCased (c :: text) = meetsCased (c :: text') := by
  unfold meetsCased at h ⊢
  rw [List.dropWhile_cons, List.dropWhile_cons]
  split
  · exact h
  · rfl

/-- What casing sees behind a place does not depend on the style of the line breaks. -/
theorem meetsCased_write (style : LineBreak) (flat : Text) :
    meetsCased (style.write flat) = meetsCased flat := by
  induction flat with
  | nil => rfl
  | cons c flat ih =>
    by_cases hc : c = '\n'
    · subst hc
      rw [style.write_cons_feed, meetsCased_break isBreak_feed]
      cases style with
      | lf => exact meetsCased_break isBreak_feed _
      | crlf => exact meetsCased_break isBreak_return _
    · rw [style.write_cons hc]
      exact meetsCased_cons c ih

/-- A character of a line break is its own lower-case form. -/
theorem lowerAfter_break {d : Char} (hd : IsBreak d) (before rest : Text) :
    lowerAfter before (d :: rest) = d :: lowerAfter (d :: before) rest := by
  rcases hd with rfl | rfl <;> rfl

/-- Lower case sees the same before and behind a place, whatever the style of the line breaks. -/
theorem lowerAfter_write (style : LineBreak) {before before' : Text}
    (hbefore : meetsCased before' = meetsCased before) (flat : Text) :
    lowerAfter before' (style.write flat) = style.write (lowerAfter before flat) := by
  induction flat generalizing before before' with
  | nil => rfl
  | cons c flat ih =>
    by_cases hc : c = '\n'
    · subst hc
      have hbreak (text : Text) : meetsCased ('\n' :: text) = meetsCased ('\n' :: before) := by
        rw [meetsCased_break isBreak_feed, meetsCased_break isBreak_feed]
      rw [lowerAfter_break isBreak_feed, style.write_cons_feed, style.write_cons_feed]
      cases style with
      | lf =>
        exact (lowerAfter_break isBreak_feed _ _).trans (congrArg _ (ih (hbreak _)))
      | crlf =>
        refine (lowerAfter_break isBreak_return _ _).trans (congrArg _ ?_)
        exact (lowerAfter_break isBreak_feed _ _).trans (congrArg _ (ih (hbreak _)))
    · have hsigma : lowerSigma before' (style.write flat) = lowerSigma before flat := by
        rw [lowerSigma, hbefore, meetsCased_write, ← lowerSigma]
      have hform := break_not_mem_lowerChar isBreak_feed before flat hc
      rw [style.write_cons hc, lowerAfter, lowerAfter, LineBreak.write_append,
        style.write_of_not_mem hform, hsigma, ih (meetsCased_cons c hbefore)]

theorem return_not_mem_lowerAfter (before : Text) {flat : Text} (h : '\r' ∉ flat) :
    '\r' ∉ lowerAfter before flat := by
  induction flat generalizing before with
  | nil => exact h
  | cons c flat ih =>
    rw [List.mem_cons, not_or] at h
    rw [lowerAfter, List.mem_append, not_or]
    exact ⟨break_not_mem_lowerChar isBreak_return before flat (Ne.symm h.1), ih (c :: before) h.2⟩

theorem count_lowerAfter (before flat : Text) :
    (lowerAfter before flat).count '\n' = flat.count '\n' := by
  induction flat generalizing before with
  | nil => rfl
  | cons c flat ih =>
    by_cases hc : c = '\n'
    · subst hc
      rw [lowerAfter_break isBreak_feed, List.count_cons_self, List.count_cons_self, ih]
    · have hform := break_not_mem_lowerChar isBreak_feed before flat hc
      rw [lowerAfter, List.count_append, List.count_eq_zero.mpr hform, Nat.zero_add, ih,
        List.count_cons_of_ne hc]

theorem keepsBreaks_lower : KeepsBreaks lower where
  write_eq style flat _ := lowerAfter_write style rfl flat
  return_not_mem _ := return_not_mem_lowerAfter []
  count_eq flat _ := count_lowerAfter [] flat

theorem keepsBreaks_joinWords {c : Char} (h : ¬ IsBreak c) : KeepsBreaks (joinWords [c]) := by
  refine keepsBreaks_eachLine fun hd => break_not_mem_join_words fun hmem => ?_
  exact h (List.mem_singleton.mp hmem ▸ hd)

end Casing

/-! ## All conversions -/

/-- A conversion takes lines to as many lines, whatever the style of their line breaks. -/
theorem Conversion.keepsBreaks (conversion : Conversion) : KeepsBreaks conversion.apply := by
  cases conversion with
  | lower => exact Casing.keepsBreaks_lower
  | upper => exact keepsBreaks_flatMap rfl rfl Unicode.break_not_mem_toUpper
  | title => exact Casing.keepsBreaks_eachLine Casing.break_not_mem_titleLine
  | camel => exact Casing.keepsBreaks_eachLine Casing.break_not_mem_camelLine
  | toggle =>
    exact keepsBreaks_flatMap (by decide +kernel) (by decide +kernel)
      Casing.break_not_mem_toggleChar
  | memberSyntax => exact Casing.keepsBreaks_joinWords (by decide)
  | kebabSyntax => exact Casing.keepsBreaks_joinWords (by decide)
  | snakeSyntax => exact Casing.keepsBreaks_joinWords (by decide)
  | splitByCase => exact Casing.keepsBreaks_eachLine Casing.break_not_mem_splitLine
  | removePunctuation =>
    have heq : Conversion.apply .removePunctuation = fun text =>
        text.flatMap fun c => [if Casing.isPunctuation c then ' ' else c] :=
      funext fun text => List.map_eq_flatMap
    rw [heq]
    exact keepsBreaks_flatMap rfl rfl Casing.break_not_mem_spaced

end EditPlayer
