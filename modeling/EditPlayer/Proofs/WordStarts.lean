import EditPlayer.Proofs.CamelWords
import EditPlayer.Proofs.Reach
set_option autoImplicit false

/-!
# Where the words of a line begin

The blanks of a line are looked for in three ways: the words are cut out between them, the columns
at which words begin are found by a scan that remembers the character before, and the trimmed range
of the line is found from both ends.  All three see the same words (`LineView.wordScans_agree`).

A line has only blanks, or it is a shorter line with its last word and blanks behind it
(`Text.lastWord_induction`).  The scans are compared along this: each of them finds the words of the
shorter line at the same columns, and then the last one.
-/

namespace EditPlayer

namespace Text

/-! ## The scan for words -/

theorem wordStartsFrom_cons (afterBlank : Bool) (n : Nat) (c : Char) (rest : Text) :
    wordStartsFrom afterBlank n (c :: rest) =
      (if afterBlank && !isBlank c then [n] else []) ++
        wordStartsFrom (isBlank c) (n + 1) rest := by
  rw [wordStartsFrom]
  split
  · rename_i hbegins
    rw [Bool.and_eq_true, Bool.not_eq_true'] at hbegins
    rw [hbegins.2, List.singleton_append]
  · rfl

/-- Behind a text the scan knows the last character of the text. -/
theorem wordStartsFrom_append (afterBlank : Bool) (n : Nat) (first second : Text) :
    wordStartsFrom afterBlank n (first ++ second) =
      wordStartsFrom afterBlank n first ++
        wordStartsFrom ((first.getLast?.map isBlank).getD afterBlank) (n + first.length)
          second := by
  induction first generalizing afterBlank n with
  | nil => rfl
  | cons c rest ih =>
    have hlast : ((c :: rest).getLast?.map isBlank).getD afterBlank =
        (rest.getLast?.map isBlank).getD (isBlank c) := by
      rw [List.getLast?_cons]
      cases rest.getLast? <;> rfl
    have hcolumn : n + (c :: rest).length = n + 1 + rest.length := by
      rw [List.length_cons]
      omega
    rw [List.cons_append, wordStartsFrom_cons, wordStartsFrom_cons, ih, hlast, hcolumn,
      List.append_assoc]

/-- Behind a blank the scan goes on as at the start of a line. -/
theorem afterBlank_of_getLast? {text : Text} (h : ∀ c ∈ text.getLast?, isBlank c = true) :
    (text.getLast?.map isBlank).getD true = true := by
  cases hend : text.getLast? with
  | none => rfl
  | some c => exact h c hend

/-- No word begins among blanks. -/
theorem wordStartsFrom_of_blank {text : Text} (h : ∀ c ∈ text, isBlank c = true)
    (afterBlank : Bool) (n : Nat) : wordStartsFrom afterBlank n text = [] := by
  induction text generalizing afterBlank n with
  | nil => rfl
  | cons c rest ih =>
    rw [List.forall_mem_cons] at h
    rw [wordStartsFrom_cons, ih h.2, h.1, Bool.not_true, Bool.and_false]
    rfl

/-- No word begins inside of a word. -/
theorem wordStartsFrom_false {text : Text} (h : ∀ c ∈ text, isBlank c = false) (n : Nat) :
    wordStartsFrom false n text = [] := by
  induction text generalizing n with
  | nil => rfl
  | cons c rest ih =>
    rw [List.forall_mem_cons] at h
    rw [wordStartsFrom_cons, h.1, ih h.2]
    rfl

theorem wordStartsFrom_true {text : Text} (hne : text ≠ []) (h : ∀ c ∈ text, isBlank c = false)
    (n : Nat) : wordStartsFrom true n text = [n] := by
  obtain ⟨c, rest, rfl⟩ := List.exists_cons_of_ne_nil hne
  rw [List.forall_mem_cons] at h
  rw [wordStartsFrom_cons, h.1, wordStartsFrom_false h.2]
  rfl

/-! ## The last word of a line -/

/-- A word with blanks behind it is the last one of the line. -/
structure LastWord (before word blanks : Text) : Prop where
  isRun : IsRun (fun c => !isBlank c) before word blanks
  ne_nil : word ≠ []
  isBlank_of_mem : ∀ c ∈ blanks, isBlank c = true

/-- A line has only blanks, or it has a last word. -/
theorem exists_lastWord (line : Text) :
    (∀ c ∈ line, isBlank c = true) ∨
      ∃ before word blanks, line = before ++ word ++ blanks ∧ LastWord before word blanks := by
  obtain ⟨blanks, htrail, hline⟩ := exists_trimEndWhere_append isBlank line
  have hend : ∀ c ∈ (trimEndWhere isBlank line).getLast?, isBlank c = false :=
    getLast?_trimEndWhere
  generalize trimEndWhere isBlank line = front at hline hend
  subst hline
  -- The run that ends with the last character that is no blank is the last word.
  obtain ⟨before, word, rfl, hrun⟩ := exists_isRun_end (fun c => !isBlank c) front
  cases word with
  | nil =>
    rw [List.append_nil] at hend ⊢
    cases hbefore : before.getLast? with
    | none =>
      rw [List.getLast?_eq_none_iff.mp hbefore]
      exact .inl htrail
    | some c =>
      have hblank := hrun.getLast_before c hbefore
      rw [hend c hbefore] at hblank
      cases hblank
  | cons c word =>
    refine .inr ⟨before, c :: word, blanks, rfl, ⟨hrun.of_mem, hrun.getLast_before, ?_⟩,
      List.cons_ne_nil c word, htrail⟩
    intro b hb
    rw [htrail b (List.mem_of_mem_head? hb)]
    rfl

/-- Lines are built from blanks by putting a word and blanks behind a line. -/
theorem lastWord_induction {motive : Text → Prop}
    (blanks : ∀ line, (∀ c ∈ line, isBlank c = true) → motive line)
    (word : ∀ before word blanks, LastWord before word blanks → motive before →
      motive (before ++ word ++ blanks)) (line : Text) : motive line := by
  rcases exists_lastWord line with hblank | ⟨before, last, behind, hline, hlast⟩
  · exact blanks line hblank
  · have hshorter : before.length < line.length := by
      have hpos := List.length_pos_iff.mpr hlast.ne_nil
      rw [hline, List.length_append, List.length_append]
      omega
    rw [hline]
    exact word before last behind hlast (lastWord_induction blanks word before)
termination_by line.length

theorem words_of_blank {line : Text} (h : ∀ c ∈ line, isBlank c = true) : words line = [] := by
  rw [← List.append_nil line, words_blanks_append h, words_nil]

namespace LastWord

variable {before word blanks : Text} (h : LastWord before word blanks)

include h

theorem isBlank_word : ∀ c ∈ word, isBlank c = false := by
  intro c hc
  simpa using h.isRun.of_mem c hc

theorem words_eq : words (before ++ word ++ blanks) = words before ++ [word] := by
  rw [words_of_isRun h.isRun h.ne_nil, words_of_blank h.isBlank_of_mem]

theorem wordStarts_eq :
    wordStarts (before ++ word ++ blanks) = wordStarts before ++ [before.length] := by
  have hflag : (before.getLast?.map isBlank).getD true = true :=
    afterBlank_of_getLast? fun c hc => by simpa using h.isRun.getLast_before c hc
  rw [wordStarts, List.append_assoc, wordStartsFrom_append, hflag, wordStartsFrom_append,
    wordStartsFrom_true h.ne_nil h.isBlank_word, wordStartsFrom_of_blank h.isBlank_of_mem,
    List.append_nil, Nat.zero_add, wordStarts]

/-- The blanks at the start of the line do not reach into its last word. -/
theorem length_takeWhile_le :
    ((before ++ word ++ blanks).takeWhile isBlank).length ≤ before.length := by
  obtain ⟨c, rest, rfl⟩ := List.exists_cons_of_ne_nil h.ne_nil
  have hstops : ¬ isBlank c = true := by simp [h.isBlank_word c List.mem_cons_self]
  rw [List.append_assoc, List.takeWhile_append]
  split
  · rw [List.cons_append, List.takeWhile_cons_of_neg hstops, List.append_nil]
  · exact (List.takeWhile_sublist isBlank).length_le

end LastWord

/-! ## Words and their columns -/

/-- A longest run without blanks stands in a line from a column on. -/
def WordAt (line : Text) (start : Nat) (word : Text) : Prop :=
  word ≠ [] ∧ ∃ before behind, line = before ++ word ++ behind ∧ before.length = start ∧
    IsRun (fun c => !isBlank c) before word behind

/-- A word of a line stays a word in front of further words. -/
theorem WordAt.append {before word blanks next : Text} {start : Nat} (h : WordAt before start next)
    (hlast : LastWord before word blanks) : WordAt (before ++ word ++ blanks) start next := by
  obtain ⟨hne, front, behind, rfl, hstart, hrun⟩ := h
  refine ⟨hne, front, behind ++ word ++ blanks, by simp only [List.append_assoc], hstart,
    hrun.of_mem, hrun.getLast_before, ?_⟩
  cases behind with
  | cons c behind => exact hrun.head_behind
  | nil =>
    -- The last character of a word does not stand directly before another word.
    obtain ⟨init, c, rfl⟩ := (List.eq_nil_or_concat next).resolve_left hne
    have hinside := hrun.of_mem c (by simp)
    have hbefore := hlast.isRun.getLast_before c (by simp)
    rw [hinside] at hbefore
    cases hbefore

/-- Each word begins at its column, in the order of the line. -/
theorem forall₂_wordStarts_words (line : Text) :
    List.Forall₂ (WordAt line) (wordStarts line) (words line) := by
  induction line using lastWord_induction with
  | blanks line h =>
    rw [words_of_blank h, wordStarts, wordStartsFrom_of_blank h]
    exact .nil
  | word before word blanks h ih =>
    rw [h.words_eq, h.wordStarts_eq]
    have hlast : WordAt (before ++ word ++ blanks) before.length word :=
      ⟨h.ne_nil, before, blanks, rfl, rfl, h.isRun⟩
    exact List.rel_append (ih.imp fun _ _ hword => hword.append h) (.cons hlast .nil)

/-- Words begin at later and later columns. -/
theorem pairwise_wordStarts (line : Text) : (wordStarts line).Pairwise (· < ·) := by
  induction line using lastWord_induction with
  | blanks line h =>
    rw [wordStarts, wordStartsFrom_of_blank h]
    exact .nil
  | word before word blanks h ih =>
    rw [h.wordStarts_eq, List.pairwise_append]
    refine ⟨ih, List.pairwise_singleton _ _, fun start hstart last hlast => ?_⟩
    rw [List.mem_singleton.mp hlast]
    exact lt_length_of_mem_wordStarts hstart

/-- The first word begins behind the blanks at the start of the line. -/
theorem head?_wordStarts {line : Text} (h : words line ≠ []) :
    (wordStarts line).head? = some (line.takeWhile isBlank).length := by
  have hlead : ∀ c ∈ line.takeWhile isBlank, isBlank c = true :=
    List.all_eq_true.mp List.all_takeWhile
  have hline := List.takeWhile_append_dropWhile (p := isBlank) (l := line)
  have hfirst : ∀ c ∈ (line.dropWhile isBlank).head?, isBlank c = false :=
    head?_dropWhile_eq_false
  generalize line.takeWhile isBlank = lead at hlead hline
  generalize line.dropWhile isBlank = rest at hline hfirst
  subst hline
  have hflag : (lead.getLast?.map isBlank).getD true = true :=
    afterBlank_of_getLast? fun c hc => hlead c (List.mem_of_mem_getLast? hc)
  cases rest with
  | nil =>
    rw [List.append_nil] at h
    exact absurd (words_of_blank hlead) h
  | cons c rest =>
    rw [wordStarts, wordStartsFrom_append, wordStartsFrom_of_blank hlead, hflag,
      wordStartsFrom_cons, hfirst c rfl, Nat.zero_add]
    rfl

end Text

/-! ## The trimmed range of a line -/

namespace LineView

open Text

/-- Both ends of a line of blanks are moved to its end. -/
theorem trimmedColumns_of_blank {line : Text} (h : ∀ c ∈ line, isBlank c = true) :
    trimmedColumns line = (line.length, line.length) := by
  have hlead : line.takeWhile isBlank = line := List.takeWhile_eq_self_iff.mpr h
  rw [trimmedColumns, hlead, List.drop_length]
  rfl

/-- A line is trimmed to the end of its last word. -/
theorem trimmedColumns_snd {before word blanks : Text} (h : LastWord before word blanks) :
    (trimmedColumns (before ++ word ++ blanks)).2 = before.length + word.length := by
  have hlength : (before ++ word).length = before.length + word.length := List.length_append
  have hpos := List.length_pos_iff.mpr h.ne_nil
  have hlead := h.length_takeWhile_le
  have hend : ∀ c ∈ (before ++ word).getLast?, isBlank c = false := by
    intro c hc
    rw [List.getLast?_append_of_ne_nil before h.ne_nil] at hc
    exact h.isBlank_word c (List.mem_of_mem_getLast? hc)
  rw [trimmedColumns]
  dsimp only
  rw [List.drop_append_of_le_length (by omega), List.reverse_append, takeWhile_append_eq]
  · simp only [List.length_append, List.length_reverse]
    omega
  · exact fun c hc => h.isBlank_of_mem c (List.mem_reverse.mp hc)
  · rw [List.head?_reverse, List.getLast?_drop, if_neg (by omega)]
    exact hend

theorem trimmedLineRangeAt_eq {view : LineView} {p : Position} {line : Text}
    (hline : view.line? p.line = some line)
    (hle : (trimmedColumns line).1 ≤ (trimmedColumns line).2) :
    view.trimmedLineRangeAt p =
      some ⟨⟨p.line, (trimmedColumns line).1⟩, ⟨p.line, (trimmedColumns line).2⟩⟩ := by
  rw [trimmedLineRangeAt, hline, Option.map_some, Range.between, if_pos]
  rw [Position.le_iff]
  exact .inr ⟨rfl, hle⟩

/-- The columns at which words begin increase along the line, one for each word, and at each of them
stands that word as a longest run without blanks.  The trimmed range of the line goes from the first
of these columns to the end of the last word, and is empty at the end of a line without words. -/
theorem wordScans_agree (line : Text) :
    line.wordStarts.Pairwise (· < ·) ∧
      line.wordStarts.length = line.words.length ∧
      (∀ (k start : Nat) (word : Text), line.wordStarts[k]? = some start →
        line.words[k]? = some word → WordAt line start word) ∧
      ∀ (view : LineView) (p : Position), view.line? p.line = some line →
        (line.words = [] →
          view.trimmedLineRangeAt p = some ⟨⟨p.line, line.length⟩, ⟨p.line, line.length⟩⟩) ∧
        (line.words ≠ [] → ∃ first start word, line.wordStarts.head? = some first ∧
          line.wordStarts.getLast? = some start ∧ line.words.getLast? = some word ∧
          view.trimmedLineRangeAt p =
            some ⟨⟨p.line, first⟩, ⟨p.line, start + word.length⟩⟩) := by
  have hwords := forall₂_wordStarts_words line
  refine ⟨pairwise_wordStarts line, hwords.length_eq, fun k start word hstart hword => ?_,
    fun view p hline => ?_⟩
  · obtain ⟨hk, rfl⟩ := List.getElem?_eq_some_iff.mp hstart
    obtain ⟨hk', rfl⟩ := List.getElem?_eq_some_iff.mp hword
    exact (List.forall₂_iff_get.mp hwords).2 k hk hk'
  · rcases exists_lastWord line with hblank | ⟨before, word, blanks, rfl, hlast⟩
    · have hcolumns := trimmedColumns_of_blank hblank
      refine ⟨fun _ => ?_, fun hne => absurd (words_of_blank hblank) hne⟩
      rw [trimmedLineRangeAt_eq hline (by rw [hcolumns]), hcolumns]
    · have hne : (before ++ word ++ blanks).words ≠ [] := by
        rw [hlast.words_eq]
        exact List.concat_ne_nil _ _
      have hle : (trimmedColumns (before ++ word ++ blanks)).1 ≤
          (trimmedColumns (before ++ word ++ blanks)).2 := by
        rw [trimmedColumns_snd hlast]
        exact Nat.le_trans hlast.length_takeWhile_le (Nat.le_add_right _ _)
      refine ⟨fun hnil => absurd hnil hne, fun _ => ?_⟩
      refine ⟨_, before.length, word, head?_wordStarts hne, ?_, ?_, ?_⟩
      · rw [hlast.wordStarts_eq, List.getLast?_concat]
      · rw [hlast.words_eq, List.getLast?_concat]
      · rw [trimmedLineRangeAt_eq hline hle, trimmedColumns_snd hlast]
        rfl

/-- Blanks of both kinds stand around two words, of which the second one is a carriage return. -/
theorem wordScans_agree_tabs :
    WordAt " \tab\t \r".toList 6 ['\r'] ∧
      (LineView.ofLines [[], " \tab\t \r".toList]).trimmedLineRangeAt ⟨1, 3⟩ =
        some ⟨⟨1, 2⟩, ⟨1, 7⟩⟩ := by
  obtain ⟨-, -, hword, htrimmed⟩ := wordScans_agree " \tab\t \r".toList
  obtain ⟨-, hwords⟩ := htrimmed (LineView.ofLines [[], " \tab\t \r".toList]) ⟨1, 3⟩ rfl
  obtain ⟨first, start, last, hfirst, hstart, hlast, hrange⟩ := hwords (by decide)
  cases hfirst
  cases hstart
  cases hlast
  exact ⟨hword 1 6 ['\r'] rfl rfl, hrange⟩

end LineView

end EditPlayer
