import EditPlayer.Proofs.CaseForms
import EditPlayer.Proofs.Payloads
import EditPlayer.Proofs.TrimmedLines
set_option autoImplicit false

/-!
# Camel case of single words

A line of one word keeps its camel case when it is converted again, unless its first character gets
in the way.  The conversion puts this character in upper case and the first character of what comes
out in lower case again.  An upper-case form of several characters leaves capitals behind that first
one (`ß` gives `sS`), which the second conversion puts in lower case; and the capital sharp s gives
the small one.  These are the only exceptions (`Casing.Steady`), for any characters in the rest of
the line and any line breaks: `Casing.camel_stable_iff`.
-/

namespace EditPlayer

namespace Text

theorem isBlank_eq_false_of_isSpace {c : Char} (h : isSpace c = false) : isBlank c = false := by
  rw [← Bool.not_eq_true] at h ⊢
  exact mt isSpace_of_isBlank h

/-- A text with a character that is no blank has a word. -/
theorem words_ne_nil {text : Text} {c : Char} (hc : c ∈ text) (hblank : isBlank c = false) :
    text.words ≠ [] := by
  induction text with
  | nil => cases hc
  | cons d text ih =>
    cases hd : isBlank d with
    | true =>
      have hwords : words ([] ++ d :: text) = words text := words_append_blank hd [] text
      rw [List.nil_append] at hwords
      rw [hwords]
      rcases List.mem_cons.mp hc with rfl | hrest
      · rw [hblank] at hd
        cases hd
      · exact ih hrest
    | false =>
      rw [words, splitWhere_cons, hd]
      cases splitWhere isBlank text <;> simp [consHead]

/-- A blank with other characters than blanks on both sides divides two words. -/
theorem two_le_length_words {before after : Text} {b c d : Char} (hb : isBlank b = true)
    (hc : c ∈ before) (hcblank : isBlank c = false) (hd : d ∈ after)
    (hdblank : isBlank d = false) : 2 ≤ (words (before ++ b :: after)).length := by
  have hbefore := List.length_pos_iff.mpr (words_ne_nil hc hcblank)
  have hafter := List.length_pos_iff.mpr (words_ne_nil hd hdblank)
  rw [words_append_blank hb, List.length_append]
  omega

/-- A line that is empty or one word, without white space around it. -/
structure SoleWord (line : Text) : Prop where
  blank : ∀ c ∈ line, isBlank c = false
  first : ∀ c ∈ line.head?, isSpace c = false
  last : ∀ c ∈ line.getLast?, isSpace c = false

theorem soleWord_nil : SoleWord [] where
  blank := by simp
  first := by simp
  last := by simp

theorem SoleWord.trim_eq {line : Text} (h : SoleWord line) : line.trim = line :=
  trim_eq_self h.first h.last

/-- A line with one word at most is trimmed to this word. -/
theorem soleWord_trim {line : Text} (h : line.words.length ≤ 1) : SoleWord line.trim := by
  rcases trim_eq_nil_or line with hnil | ⟨c, rest, htrim, hc, hlast⟩
  · rw [hnil]
    exact soleWord_nil
  · rw [htrim]
    refine ⟨fun b hb => ?_, by simpa using hc, hlast⟩
    rw [← Bool.not_eq_true]
    intro hblank
    have hbspace := isSpace_of_isBlank hblank
    -- The first and the last character of the trimmed line stand on both sides of the blank.
    obtain ⟨before, after, hcut⟩ := List.append_of_mem hb
    have hbefore : c ∈ before := by
      cases before with
      | nil =>
        obtain ⟨rfl, -⟩ := List.cons.inj hcut
        rw [hbspace] at hc
        cases hc
      | cons d before =>
        obtain ⟨rfl, -⟩ := List.cons.inj hcut
        exact List.mem_cons_self
    obtain ⟨d, hafter, hd⟩ : ∃ d ∈ after, isSpace d = false := by
      rw [hcut] at hlast
      cases hend : after.getLast? with
      | none =>
        obtain rfl := List.getLast?_eq_none_iff.mp hend
        have hspace := hlast b (by simp)
        rw [hbspace] at hspace
        cases hspace
      | some d =>
        exact ⟨d, List.mem_of_getLast? hend, hlast d (by simp [hend, List.getLast?_cons])⟩
    obtain ⟨lead, trail, hline⟩ := htrim ▸ trim_infix line
    have hshape : line = (lead ++ before) ++ b :: (after ++ trail) := by
      rw [← hline, hcut]
      simp only [List.append_assoc, List.cons_append]
    have htwo := two_le_length_words hblank (List.mem_append_right lead hbefore)
      (isBlank_eq_false_of_isSpace hc) (List.mem_append_left trail hafter)
      (isBlank_eq_false_of_isSpace hd)
    rw [← hshape] at htwo
    omega

/-- Characters before any carriage return do not count for pairs. -/
theorem hasCrlf_append_of_not_mem {first : Text} (h : '\r' ∉ first) (second : Text) :
    hasCrlf (first ++ second) = hasCrlf second := by
  induction first with
  | nil => rfl
  | cons c first ih =>
    rw [List.mem_cons, not_or] at h
    have hc : (c == '\r') = false := by simpa using Ne.symm h.1
    rw [List.cons_append, hasCrlf, hc, Bool.false_and, Bool.false_or, ih h.2]

end Text

namespace Casing

open Unicode

/-! ## Single characters -/

/-- Camel case gives the character the same form twice at the beginning of a word. -/
def Steady (c : Char) : Prop := (∀ d ∈ (toUpper c).tail, toLower d = [d]) ∧ c ≠ 'ẞ'

instance (c : Char) : Decidable (Steady c) :=
  @instDecidableAnd _ _ (List.decidableBAll _ (toUpper c).tail) _

theorem lowerFirst_append {first : Text} (h : first ≠ []) (second : Text) :
    lowerFirst (first ++ second) = lowerFirst first ++ second := by
  cases first with
  | nil => exact absurd rfl h
  | cons c first => rw [List.cons_append, lowerFirst, lowerFirst, List.append_assoc]

theorem lowerFirst_ne_nil {text : Text} (h : text ≠ []) : lowerFirst text ≠ [] := by
  cases text with
  | nil => exact absurd rfl h
  | cons c text => simp [lowerFirst, toLower_ne_nil]

/-- What can be white space only if another character is, is none if that character is none. -/
theorem isSpace_eq_false_of_imp {c d : Char} (hc : isSpace c = false)
    (h : isSpace d = true → d = c) : isSpace d = false := by
  rw [← Bool.not_eq_true]
  intro hd
  rw [← h hd, hd] at hc
  cases hc

/-- White space at the beginning of a word comes of white space only. -/
theorem eq_of_isSpace_of_mem_lowerFirst {c d : Char} (h : d ∈ lowerFirst (toUpper c))
    (hd : isSpace d = true) : d = c := by
  cases hupper : toUpper c with
  | nil => exact absurd hupper (toUpper_ne_nil c)
  | cons u us =>
    rw [hupper, lowerFirst, List.mem_append] at h
    have hmem : d ∈ toUpper c := by
      rw [hupper, List.mem_cons]
      exact h.imp_left fun hlower => eq_of_isSpace_of_mem_toLower hlower hd
    exact eq_of_isSpace_of_mem_toUpper hmem hd

theorem flatMap_toLower_eq_self_iff (text : Text) :
    text.flatMap toLower = text ↔ ∀ d ∈ text, toLower d = [d] := by
  constructor
  · intro heq d hd
    rw [← heq] at hd
    obtain ⟨c, -, hform⟩ := List.mem_flatMap.mp hd
    exact toLower_of_mem_toLower hform
  · intro h
    induction text with
    | nil => rfl
    | cons d text ih =>
      rw [List.forall_mem_cons] at h
      rw [List.flatMap_cons, h.1, ih h.2]
      rfl

theorem hasCrlf_flatMap_toLower {text : Text} (h : text.hasCrlf = false) :
    Text.hasCrlf (text.flatMap toLower) = false := by
  induction text with
  | nil => rfl
  | cons c text ih =>
    obtain ⟨hpair, hrest⟩ := Text.hasCrlf_cons_eq_false.mp h
    rw [List.flatMap_cons]
    by_cases hc : c = '\r'
    · subst hc
      have hreturn : toLower '\r' = ['\r'] := by decide +kernel
      refine hreturn ▸ Text.hasCrlf_cons_eq_false.mpr ⟨?_, ih hrest⟩
      rintro ⟨-, hfeed⟩
      cases text with
      | nil => cases hfeed
      | cons d text =>
        have hmem : '\n' ∈ toLower d := by
          cases hlower : toLower d with
          | nil => exact absurd hlower (toLower_ne_nil d)
          | cons e es =>
            rw [List.flatMap_cons, hlower] at hfeed
            cases hfeed
            exact List.mem_cons_self
        refine hpair ⟨rfl, ?_⟩
        by_cases hd : d = '\n'
        · rw [hd]
          rfl
        · exact absurd hmem (break_not_mem_toLower isBreak_feed hd)
    · rw [Text.hasCrlf_append_of_not_mem (break_not_mem_toLower isBreak_return hc), ih hrest]

/-! ## Lines of one word -/

/-- No blank comes into a word, if the form of its first character has white space only where this
character is white space. -/
theorem isBlank_of_mem_forms {c : Char} {rest form : Text} (h : Text.SoleWord (c :: rest))
    (hform : ∀ d ∈ form, isSpace d = true → d = c) :
    ∀ d ∈ form ++ rest.flatMap toLower, isBlank d = false := by
  intro d hd
  rw [← Bool.not_eq_true]
  intro hblank
  have hspace := isSpace_of_isBlank hblank
  have hmem : d ∈ c :: rest := by
    rcases List.mem_append.mp hd with hfirst | hlater
    · exact List.mem_cons.mpr (.inl (hform d hfirst hspace))
    · obtain ⟨e, he, hlower⟩ := List.mem_flatMap.mp hlater
      rw [eq_of_isSpace_of_mem_toLower hlower hspace]
      exact List.mem_cons_of_mem c he
  rw [h.blank d hmem] at hblank
  cases hblank

theorem camelLine_cons {c : Char} {rest : Text} (h : Text.SoleWord (c :: rest)) :
    camelLine (c :: rest) = lowerFirst (toUpper c) ++ rest.flatMap toLower := by
  have hblank := isBlank_of_mem_forms h fun _ => eq_of_isSpace_of_mem_toUpper
  rw [camelLine, titleLine, Text.words_of_forall (List.cons_ne_nil c rest) h.blank,
    List.map_singleton, Text.join_singleton, capitalize, List.filter_eq_self.mpr,
    lowerFirst_append (toUpper_ne_nil c)]
  intro d hd
  rw [hblank d hd]
  rfl

/-- The camel case of a word is a word. -/
theorem soleWord_camelLine {line : Text} (h : line.SoleWord) : (camelLine line).SoleWord := by
  cases line with
  | nil => exact Text.soleWord_nil
  | cons c rest =>
    have hfirst : ∀ d ∈ lowerFirst (toUpper c), isSpace d = false := fun d hd =>
      isSpace_eq_false_of_imp (h.first c rfl) (eq_of_isSpace_of_mem_lowerFirst hd)
    rw [camelLine_cons h]
    refine ⟨isBlank_of_mem_forms h fun _ => eq_of_isSpace_of_mem_lowerFirst, ?_, ?_⟩
    · intro d hd
      obtain ⟨l, ls, hlower⟩ := List.exists_cons_of_ne_nil (lowerFirst_ne_nil (toUpper_ne_nil c))
      rw [hlower] at hd hfirst
      obtain rfl : l = d := Option.some.inj hd
      exact hfirst l List.mem_cons_self
    · intro d hd
      cases hend : rest.getLast? with
      | none =>
        rw [List.getLast?_eq_none_iff.mp hend, List.flatMap_nil, List.append_nil] at hd
        exact hfirst d (List.mem_of_getLast? hd)
      | some e =>
        obtain ⟨init, rfl⟩ := List.getLast?_eq_some_iff.mp hend
        have hlast := h.last e (by simp [List.getLast?_cons])
        have hform : d ∈ toLower e := by
          rw [List.flatMap_append, List.flatMap_singleton, ← List.append_assoc,
            List.getLast?_append, List.getLast?_eq_some_getLast (toLower_ne_nil e)] at hd
          cases hd
          exact List.getLast_mem _
        exact isSpace_eq_false_of_imp hlast (eq_of_isSpace_of_mem_toLower hform)

theorem free_camelLine {style : LineBreak} {line : Text} (h : line.SoleWord)
    (hfree : style.Free line) : style.Free (camelLine line) := by
  cases style with
  | lf =>
    have hfeed := LineBreak.free_lf_iff.mp hfree
    exact LineBreak.free_lf_iff.mpr (break_not_mem_camelLine isBreak_feed hfeed)
  | crlf =>
    cases line with
    | nil => exact hfree
    | cons c rest =>
      have hpair := Text.hasCrlf_cons_eq_false.mp (LineBreak.free_crlf_iff.mp hfree)
      have hreturn : '\r' ∉ lowerFirst (toUpper c) := by
        intro hmem
        have hspace := isSpace_eq_false_of_imp (h.first c rfl)
          (eq_of_isSpace_of_mem_lowerFirst hmem)
        cases hspace
      rw [LineBreak.free_crlf_iff, camelLine_cons h, Text.hasCrlf_append_of_not_mem hreturn,
        hasCrlf_flatMap_toLower hpair.2]

/-- What a word is converted to at first: the first character of its upper-case form in lower case,
the others of this form, and the rest of the word in lower case. -/
theorem exists_camelLine_cons {c : Char} {rest : Text} (h : Text.SoleWord (c :: rest)) :
    ∃ u us l ls, toUpper c = u :: us ∧ toLower u = l :: ls ∧
      camelLine (c :: rest) = l :: (ls ++ us ++ rest.flatMap toLower) := by
  obtain ⟨u, us, hupper⟩ := List.exists_cons_of_ne_nil (toUpper_ne_nil c)
  obtain ⟨l, ls, hlower⟩ := List.exists_cons_of_ne_nil (toLower_ne_nil u)
  refine ⟨u, us, l, ls, hupper, hlower, ?_⟩
  rw [camelLine_cons h, hupper, lowerFirst, hlower]
  simp only [List.cons_append, List.append_assoc]

/-- The small sharp s does not come back: its upper-case form is `SS`. -/
theorem camelLine_camelLine_sharpS {rest : Text} (h : Text.SoleWord ('ẞ' :: rest)) :
    camelLine (camelLine ('ẞ' :: rest)) ≠ camelLine ('ẞ' :: rest) := by
  have hword := soleWord_camelLine h
  have hfirst : lowerFirst (toUpper 'ẞ') = ['ß'] := by decide +kernel
  have hsecond : lowerFirst (toUpper 'ß') = ['s', 'S'] := by decide +kernel
  rw [camelLine_cons h, hfirst, List.singleton_append] at hword ⊢
  rw [camelLine_cons hword, hsecond]
  simp

/-- The camel case of a word stays when it is converted again just when the first character is
steady. -/
theorem camelLine_camelLine_eq_iff {c : Char} {rest : Text} (h : Text.SoleWord (c :: rest)) :
    camelLine (camelLine (c :: rest)) = camelLine (c :: rest) ↔ Steady c := by
  by_cases hsharp : c = 'ẞ'
  · subst hsharp
    exact iff_of_false (camelLine_camelLine_sharpS h) fun hsteady => hsteady.2 rfl
  · obtain ⟨u, us, l, ls, hupper, hlower, honce⟩ := exists_camelLine_cons h
    have hmem : u ∈ toUpper c := by rw [hupper]; exact List.mem_cons_self
    have hne : u ≠ 'ẞ' := fun heq => hsharp (eq_of_sharpS_mem_toUpper (heq ▸ hmem))
    have hback : lowerFirst (toUpper l) = [l] :=
      lowerFirst_toUpper_of_toLower (toUpper_of_mem_toUpper hmem) hne hlower
    have hword := soleWord_camelLine h
    rw [honce] at hword ⊢
    rw [camelLine_cons hword, hback, List.singleton_append, List.cons_inj_right,
      flatMap_toLower_eq_self_iff, Steady, hupper, List.tail_cons]
    constructor
    · intro hfixed
      refine ⟨fun d hd => hfixed d ?_, hsharp⟩
      exact List.mem_append_left _ (List.mem_append_right ls hd)
    · rintro ⟨hfixed, -⟩ d hd
      rcases List.mem_append.mp hd with hform | hrest
      · rcases List.mem_append.mp hform with hls | hus
        · exact toLower_of_mem_toLower (hlower ▸ List.mem_cons_of_mem l hls)
        · exact hfixed d hus
      · obtain ⟨e, -, hlater⟩ := List.mem_flatMap.mp hrest
        exact toLower_of_mem_toLower hlater

/-! ## Texts of single words -/

/-- Camel case is stable on a text with one word at most on each line, just when the first
characters of its lines are steady. -/
theorem camel_stable_iff {text : Text}
    (h : ∀ line ∈ (LineBreak.ofText text).split text, line.words.length ≤ 1) :
    camel (camel text) = camel text ↔
      ∀ line ∈ (LineBreak.ofText text).split text, ∀ c ∈ line.trim.head?, Steady c := by
  have hword : ∀ line ∈ (LineBreak.ofText text).split text, line.trim.SoleWord :=
    fun line hline => Text.soleWord_trim (h line hline)
  have hfree : ∀ line ∈ (LineBreak.ofText text).split text,
      (LineBreak.ofText text).Free (camelLine line.trim) := by
    intro line hline
    have hline' := (LineBreak.free_of_mem_split hline).inside line.trim_infix
    exact free_camelLine (hword line hline) hline'
  have hkeeps : KeepsLines camelLine text := fun line hline =>
    ⟨hfree line hline, (soleWord_camelLine (hword line hline)).trim_eq⟩
  have htwice := fun line hline =>
    free_camelLine (soleWord_camelLine (hword line hline)) (hfree line hline)
  rw [camel, camel, eachLine_eachLine_eq_iff hkeeps htwice]
  refine forall₂_congr fun line hline => ?_
  have hsole := hword line hline
  cases hshape : line.trim with
  | nil => exact iff_of_true rfl (by simp)
  | cons c rest =>
    rw [hshape] at hsole
    rw [camelLine_camelLine_eq_iff hsole]
    simp

/-- The capitals and the sharp s inside of words are no obstacle, one at the beginning is. -/
theorem camel_stable_iff_sharpS :
    camel (camel " HTTPServer\t\r\nstraße".toList) = camel " HTTPServer\t\r\nstraße".toList ∧
      camel (camel ['ß']) ≠ camel ['ß'] := by
  constructor
  · refine (camel_stable_iff (by decide)).mpr ?_
    intro line hline c hc
    have hlines : line ∈ [" HTTPServer\t".toList, "straße".toList] := hline
    rcases List.mem_cons.mp hlines with rfl | hlast
    · obtain rfl : 'H' = c := Option.some.inj hc
      decide +kernel
    · rw [List.mem_singleton.mp hlast] at hc
      obtain rfl : 's' = c := Option.some.inj hc
      decide +kernel
  · refine mt (camel_stable_iff (by decide)).mp ?_
    intro hsteady
    have hsharp : Steady 'ß' := hsteady ['ß'] List.mem_cons_self 'ß' rfl
    exact absurd hsharp (by decide +kernel)

end Casing

end EditPlayer
