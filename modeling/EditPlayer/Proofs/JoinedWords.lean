import EditPlayer.Proofs.CamelStability
import EditPlayer.Proofs.Runs
set_option autoImplicit false

/-!
# Words joined by separators

The words of a line, joined by a character that is no blank, are one word; joined by a blank, they
are found again (`Text.words_join`).  The first word of a trimmed line begins it and the last one
ends it, so that the joined words are trimmed too, and no line break comes of joining words that
hold none.  So every further conversion finds the same lines, whatever carriage returns, line feeds
and other white space stand in them.

Hence identifiers in one syntax stay what they are when they are put into another one, and lose
nothing when their punctuation is removed first (`Casing.joinWords_lossless`).
-/

namespace EditPlayer

namespace Text

/-! ## Words and runs -/

@[simp] theorem words_nil : words [] = [] := rfl

/-- A longest run without blanks is a word. -/
theorem words_of_isRun {before word behind : Text}
    (h : IsRun (fun c => !isBlank c) before word behind) (hne : word ≠ []) :
    words (before ++ word ++ behind) = words before ++ word :: words behind := by
  have hblank : ∀ c ∈ word, isBlank c = false := by
    intro c hc
    simpa using h.of_mem c hc
  have hword : words (word ++ behind) = word :: words behind := by
    cases behind with
    | nil =>
      rw [List.append_nil, words_of_forall hne hblank, words_nil]
    | cons b behind =>
      have hb : isBlank b = true := by simpa using h.head_behind b rfl
      rw [words_append_of_forall hne hblank hb]
      exact congrArg _ (words_append_blank hb [] behind).symm
  rcases List.eq_nil_or_concat before with rfl | ⟨init, b, rfl⟩
  · exact hword
  · rw [List.concat_eq_append] at h ⊢
    have hb : isBlank b = true := by simpa using h.getLast_before b (by simp)
    rw [List.append_assoc, List.append_assoc, List.singleton_append, words_append_blank hb, hword,
      words_append_blank hb, words_nil, List.append_nil]

/-- Every piece but the first one has the separator in front of it. -/
theorem join_cons_eq_flatMap (separator piece : Text) (pieces : List Text) :
    join separator (piece :: pieces) = piece ++ pieces.flatMap fun next => separator ++ next := by
  induction pieces generalizing piece with
  | nil => simp
  | cons next pieces ih =>
    rw [join_cons_of_ne_nil _ _ (List.cons_ne_nil next pieces), ih next, List.flatMap_cons]
    simp only [List.append_assoc]

theorem exists_join_concat (separator : Text) (pieces : List Text) (piece : Text) :
    ∃ init, join separator (pieces ++ [piece]) = init ++ piece := by
  induction pieces with
  | nil => exact ⟨[], rfl⟩
  | cons first pieces ih =>
    obtain ⟨init, hinit⟩ := ih
    refine ⟨first ++ separator ++ init, ?_⟩
    rw [List.cons_append, join_cons_of_ne_nil _ _ (by simp), hinit, List.append_assoc _ init]

/-- The joined words begin as the line does, if no blank begins it. -/
theorem head?_join_words (separator : Text) {line : Text}
    (h : ∀ c ∈ line.head?, isBlank c = false) :
    (join separator line.words).head? = line.head? := by
  obtain ⟨before, word, behind, rfl, hrun, hfirst, -⟩ :=
    exists_isRun (fun c => !isBlank c) (Nat.zero_le line.length)
  obtain rfl := List.eq_nil_of_length_eq_zero (Nat.le_zero.mp hfirst)
  cases word with
  | nil =>
    -- Without a word at its start the line is empty, since it does not begin with a blank.
    cases behind with
    | nil => rfl
    | cons b behind =>
      have hb := hrun.head_behind b rfl
      rw [h b rfl] at hb
      cases hb
  | cons c word =>
    rw [words_of_isRun hrun (List.cons_ne_nil c word), words_nil, List.nil_append, List.nil_append,
      join_cons_eq_flatMap]
    rfl

/-- The joined words end as the line does, if no blank ends it. -/
theorem getLast?_join_words (separator : Text) {line : Text}
    (h : ∀ c ∈ line.getLast?, isBlank c = false) :
    (join separator line.words).getLast? = line.getLast? := by
  obtain ⟨before, word, rfl, hrun⟩ := exists_isRun_end (fun c => !isBlank c) line
  rcases List.eq_nil_or_concat word with rfl | ⟨init, c, rfl⟩
  · rw [List.append_nil] at h ⊢
    cases hend : before.getLast? with
    | none =>
      rw [List.getLast?_eq_none_iff.mp hend]
      rfl
    | some b =>
      have hb := hrun.getLast_before b hend
      rw [h b hend] at hb
      cases hb
  · rw [List.concat_eq_append] at hrun ⊢
    have hwords := words_of_isRun hrun (by simp)
    rw [List.append_nil] at hwords
    obtain ⟨start, hstart⟩ := exists_join_concat separator (words before) (init ++ [c])
    rw [hwords, words_nil, hstart, ← List.append_assoc, ← List.append_assoc, List.getLast?_concat,
      List.getLast?_concat]

/-- The joined words of a trimmed line are trimmed. -/
theorem trim_join_words (separator line : Text) :
    (join separator line.trim.words).trim = join separator line.trim.words := by
  rcases trim_eq_nil_or line with hnil | ⟨c, rest, htrim, hc, hlast⟩
  · rw [hnil]
    rfl
  · have hfirst : ∀ d ∈ (c :: rest).head?, isSpace d = false := by simpa using hc
    rw [htrim]
    apply trim_eq_self
    · rw [head?_join_words separator fun d hd => isBlank_eq_false_of_isSpace (hfirst d hd)]
      exact hfirst
    · rw [getLast?_join_words separator fun d hd => isBlank_eq_false_of_isSpace (hlast d hd)]
      exact hlast

/-- Words joined by a blank are found again. -/
theorem words_join {b : Char} (hb : isBlank b = true) {pieces : List Text}
    (h : ∀ piece ∈ pieces, piece ≠ [] ∧ ∀ c ∈ piece, isBlank c = false) :
    words (join [b] pieces) = pieces := by
  induction pieces with
  | nil => exact words_nil
  | cons piece rest ih =>
    rw [List.forall_mem_cons] at h
    obtain ⟨⟨hne, hblank⟩, hrest⟩ := h
    cases rest with
    | nil => exact words_of_forall hne hblank
    | cons next others =>
      rw [join_cons_of_ne_nil _ _ (List.cons_ne_nil next others), List.append_assoc,
        List.singleton_append, words_append_of_forall hne hblank hb, ih hrest]

/-- A text without blanks stays what it is when its words are joined. -/
theorem join_words_of_forall (separator : Text) {text : Text}
    (h : ∀ c ∈ text, isBlank c = false) : join separator text.words = text := by
  cases text with
  | nil => rfl
  | cons c rest => rw [words_of_forall (List.cons_ne_nil c rest) h, join_singleton]

/-! ## Pieces of a text -/

/-- The pieces of a cut stand in the text, the first one at its start. -/
theorem infix_of_mem_splitWhere (p : Char → Bool) (text : Text) :
    (∀ piece ∈ (splitWhere p text).head?, piece <+: text) ∧
      ∀ piece ∈ splitWhere p text, piece <:+: text := by
  induction text with
  | nil => simp
  | cons c rest ih =>
    obtain ⟨hfirst, hpieces⟩ := ih
    have hlater : ∀ piece ∈ splitWhere p rest, piece <:+: c :: rest := fun piece hpiece =>
      (hpieces piece hpiece).trans (List.suffix_cons c rest).isInfix
    rw [splitWhere_cons]
    split
    · refine ⟨by simp, List.forall_mem_cons.mpr ⟨List.nil_infix, hlater⟩⟩
    · cases hrest : splitWhere p rest with
      | nil => exact absurd hrest (splitWhere_ne_nil p rest)
      | cons first others =>
        rw [hrest] at hfirst hlater
        have hlonger : c :: first <+: c :: rest :=
          (List.prefix_cons_inj c).mpr (hfirst first rfl)
        rw [consHead]
        refine ⟨by simpa using hlonger, ?_⟩
        rw [List.forall_mem_cons] at hlater ⊢
        exact ⟨hlonger.isInfix, hlater.2⟩

theorem infix_of_mem_words {line word : Text} (h : word ∈ words line) : word <:+: line :=
  (infix_of_mem_splitWhere isBlank line).2 word (List.mem_filter.mp h).1

theorem infix_join (separator : Text) {pieces : List Text} {piece : Text} (h : piece ∈ pieces) :
    piece <:+: join separator pieces := by
  induction pieces with
  | nil => cases h
  | cons first rest ih =>
    rcases List.mem_cons.mp h with rfl | hrest
    · rw [join_cons_eq_flatMap]
      exact (List.prefix_append piece _).isInfix
    · rw [join_cons_of_ne_nil _ _ (List.ne_nil_of_mem hrest)]
      exact (ih hrest).trans (List.suffix_append _ _).isInfix

theorem map_join (f : Char → Char) (separator : Text) (pieces : List Text) :
    (join separator pieces).map f =
      join (separator.map f) (pieces.map fun piece => piece.map f) := by
  cases pieces with
  | nil => rfl
  | cons piece rest =>
    simp only [List.map_cons, join_cons_eq_flatMap, List.map_append, List.map_flatMap,
      List.flatMap_map]

/-- A character of no line break divides texts without pairs. -/
theorem hasCrlf_append_cons {a : Char} (ha : ¬ IsBreak a) {piece rest : Text}
    (hpiece : piece.hasCrlf = false) (hrest : rest.hasCrlf = false) :
    hasCrlf (piece ++ a :: rest) = false := by
  induction piece with
  | nil => exact hasCrlf_cons_eq_false.mpr ⟨fun hpair => ha (.inl hpair.1), hrest⟩
  | cons c piece ih =>
    obtain ⟨hpair, hlater⟩ := hasCrlf_cons_eq_false.mp hpiece
    refine hasCrlf_cons_eq_false.mpr ⟨?_, ih hlater⟩
    cases piece with
    | nil =>
      rintro ⟨-, hfeed⟩
      exact ha (.inr (Option.some.inj hfeed))
    | cons d piece => exact hpair

theorem hasCrlf_join {a : Char} (ha : ¬ IsBreak a) {pieces : List Text}
    (h : ∀ piece ∈ pieces, piece.hasCrlf = false) : hasCrlf (join [a] pieces) = false := by
  induction pieces with
  | nil => rfl
  | cons piece rest ih =>
    rw [List.forall_mem_cons] at h
    cases rest with
    | nil => exact h.1
    | cons next others =>
      rw [join_cons_of_ne_nil _ _ (List.cons_ne_nil next others), List.append_assoc]
      exact hasCrlf_append_cons ha h.1 (ih h.2)

end Text

namespace LineBreak

/-- The lines of a text are joined to the text again. -/
theorem join_split (style : LineBreak) (text : Text) : style.join (style.split text) = text := by
  cases style with
  | lf => exact Text.join_splitOn '\n' text
  | crlf =>
    change Text.join ['\r', '\n'] text.splitOnCrlf = text
    fun_induction Text.splitOnCrlf text with
    | case1 => rfl
    | case2 c => rfl
    | case3 c d rest hpair ih =>
      obtain ⟨rfl, rfl⟩ := hpair
      have hne : Text.splitOnCrlf rest ≠ [] := crlf.split_ne_nil rest
      rw [Text.join_cons_of_ne_nil _ _ hne, ih]
      rfl
    | case4 c d rest hpair ih =>
      have hne : Text.splitOnCrlf (d :: rest) ≠ [] := crlf.split_ne_nil (d :: rest)
      rw [Text.join_consHead _ _ hne, ih]

theorem infix_of_mem_split {style : LineBreak} {text line : Text} (h : line ∈ style.split text) :
    line <:+: text := by
  have hinfix := Text.infix_join style.text h
  rwa [← join, style.join_split] at hinfix

end LineBreak

namespace Casing

theorem free_join_words {style : LineBreak} {a : Char} (ha : ¬ IsBreak a) {line : Text}
    (h : style.Free line) : style.Free (Text.join [a] line.words) := by
  cases style with
  | lf =>
    have hfeed := LineBreak.free_lf_iff.mp h
    refine LineBreak.free_lf_iff.mpr (break_not_mem_join_words ?_ hfeed)
    intro hmem
    exact ha (.inr (List.mem_singleton.mp hmem).symm)
  | crlf =>
    refine LineBreak.free_crlf_iff.mpr (Text.hasCrlf_join ha fun word hword => ?_)
    exact LineBreak.free_crlf_iff.mp (h.inside (Text.infix_of_mem_words hword))

theorem keepsLines_join_words {a : Char} (ha : ¬ IsBreak a) (text : Text) :
    KeepsLines (fun line => Text.join [a] line.words) text := by
  intro line hline
  have hfree := (LineBreak.free_of_mem_split hline).inside line.trim_infix
  exact ⟨free_join_words ha hfree, Text.trim_join_words [a] line⟩

/-- Words that are joined without blanks are single words for a second conversion. -/
theorem joinWords_joinWords {a : Char} (ha : ¬ IsBreak a) (hblank : isBlank a = false)
    (separator text : Text) :
    joinWords separator (joinWords [a] text) = joinWords [a] text := by
  rw [joinWords, joinWords, eachLine_eachLine _ (keepsLines_join_words ha text), eachLine]
  refine congrArg _ (List.map_congr_left fun line _ => ?_)
  apply Text.join_words_of_forall
  intro c hc
  rw [← Bool.not_eq_true]
  intro hcblank
  refine Text.not_mem_join ?_ ?_ hc
  · intro hmem
    rw [List.mem_singleton.mp hmem, hblank] at hcblank
    cases hcblank
  · intro word hword hmem
    rw [Text.isBlank_eq_false_of_mem_words hword hmem] at hcblank
    cases hcblank

/-- Words that are joined by spaces are the same words for a second conversion. -/
theorem joinWords_joinWords_space (separator text : Text) :
    joinWords separator (joinWords [' '] text) = joinWords separator text := by
  have hspace : ¬ IsBreak ' ' := by decide
  rw [joinWords, joinWords, eachLine_eachLine _ (keepsLines_join_words hspace text), joinWords,
    eachLine]
  refine congrArg _ (List.map_congr_left fun line _ => ?_)
  have hwords : (Text.join [' '] line.trim.words).words = line.trim.words := by
    apply Text.words_join rfl
    intro word hword
    exact ⟨Text.ne_nil_of_mem_words hword, fun c => Text.isBlank_eq_false_of_mem_words hword⟩
  exact congrArg _ hwords

theorem removePunctuation_of_forall {text : Text} (h : ∀ c ∈ text, isPunctuation c = false) :
    removePunctuation text = text := by
  have hsame : ∀ c ∈ text, (if isPunctuation c then ' ' else c) = id c := by
    intro c hc
    rw [h c hc]
    rfl
  rw [removePunctuation, List.map_congr_left hsame, List.map_id]

theorem removePunctuation_join (separator : Text) (pieces : List Text) :
    removePunctuation (Text.join separator pieces) =
      Text.join (removePunctuation separator) (pieces.map removePunctuation) :=
  Text.map_join _ separator pieces

/-- Removing the punctuation that joins words leaves the words joined by spaces, if they hold no
punctuation themselves. -/
theorem removePunctuation_joinWords {a : Char} (ha : isPunctuation a = true) {text : Text}
    (h : ∀ c ∈ text, isPunctuation c = false) :
    removePunctuation (joinWords [a] text) = joinWords [' '] text := by
  have hbreak : removePunctuation (LineBreak.ofText text).text = (LineBreak.ofText text).text := by
    cases LineBreak.ofText text <;> rfl
  have hseparator : removePunctuation [a] = [' '] := by
    rw [removePunctuation, List.map_singleton, if_pos ha]
  have hline : ∀ line ∈ (LineBreak.ofText text).split text,
      removePunctuation (Text.join [a] line.trim.words) = Text.join [' '] line.trim.words := by
    intro line hline
    have hwords : ∀ word ∈ line.trim.words, removePunctuation word = id word := by
      intro word hword
      refine removePunctuation_of_forall fun c hc => h c ?_
      have hinside := (Text.infix_of_mem_words hword).trans line.trim_infix
      exact (LineBreak.infix_of_mem_split hline).subset (hinside.subset hc)
    rw [removePunctuation_join, hseparator, List.map_congr_left hwords, List.map_id]
  rw [joinWords, eachLine, LineBreak.join, removePunctuation_join, hbreak, List.map_map]
  exact congrArg _ (List.map_congr_left hline)

/-- Putting the identifiers of a text into a second syntax changes nothing, and removing their
punctuation before does it as if the first syntax had never been there, if the text itself has no
punctuation. -/
theorem joinWords_lossless {a : Char} (ha : isPunctuation a = true) (separator text : Text) :
    joinWords separator (joinWords [a] text) = joinWords [a] text ∧
      ((∀ c ∈ text, isPunctuation c = false) →
        joinWords separator (removePunctuation (joinWords [a] text)) =
          joinWords separator text) := by
  constructor
  · apply joinWords_joinWords
    · rintro (rfl | rfl)
      · cases ha
      · cases ha
    · rw [← Bool.not_eq_true, isBlank_iff]
      rintro (rfl | rfl)
      · cases ha
      · cases ha
  · intro h
    rw [removePunctuation_joinWords ha h, joinWords_joinWords_space]

theorem joinWords_lossless_strayReturn :
    joinWords ['_'] (joinWords ['.'] "\tone\u00a0 two\r three\r\n\r\n \nfour ".toList) =
        joinWords ['.'] "\tone\u00a0 two\r three\r\n\r\n \nfour ".toList ∧
      joinWords ['_'] (removePunctuation
          (joinWords ['.'] "\tone\u00a0 two\r three\r\n\r\n \nfour ".toList)) =
        joinWords ['_'] "\tone\u00a0 two\r three\r\n\r\n \nfour ".toList := by
  obtain ⟨hagain, hfirst⟩ :=
    joinWords_lossless (a := '.') rfl ['_'] "\tone\u00a0 two\r three\r\n\r\n \nfour ".toList
  refine ⟨hagain, hfirst ?_⟩
  simp [isPunctuation]

end Casing

end EditPlayer
