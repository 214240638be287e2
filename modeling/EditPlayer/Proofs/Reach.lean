import EditPlayer.Proofs.Occurrences
import EditPlayer.Proofs.Splice
set_option autoImplicit false

/-!
# Where the player goes

The player works out positions from the lines that a document shows: the ends of words and lines,
the starts of words, the occurrences of patterns, and the end of a text that it has put in place.
All of them lie in the document.  Each is a column of a line that was looked up, and no column lies
behind the end of its line.

The end of a text that was put in place is counted from the text alone.  It is where the cursor
stands after the replacement (`endOfInserted_eq_caret`), if no carriage return stands by itself.
-/

namespace EditPlayer

/-! ## Columns of a line -/

namespace Text

theorem lt_of_mem_wordStartsFrom {line : Text} {afterBlank : Bool} {column start : Nat}
    (h : start ∈ wordStartsFrom afterBlank column line) : start < column + line.length := by
  induction line generalizing afterBlank column with
  | nil => cases h
  | cons c rest ih =>
    rw [List.length_cons]
    rw [wordStartsFrom] at h
    split at h
    · rcases List.mem_cons.mp h with rfl | hlater
      · omega
      · have hlt := ih hlater
        omega
    · have hlt := ih h
      omega

/-- A word begins at a column of the line. -/
theorem lt_length_of_mem_wordStarts {line : Text} {start : Nat} (h : start ∈ wordStarts line) :
    start < line.length := by
  have hlt := lt_of_mem_wordStartsFrom h
  omega

end Text

namespace Document

/-- The ends of the word that touches a column are columns of the line. -/
theorem wordColumns_le {line : Text} {column : Nat} (h : column ≤ line.length) :
    (wordColumns line column).1 ≤ line.length ∧ (wordColumns line column).2 ≤ line.length := by
  have hright : ((line.drop column).takeWhile isWordChar).length ≤ (line.drop column).length :=
    (List.takeWhile_sublist isWordChar).length_le
  rw [List.length_drop] at hright
  dsimp only [wordColumns]
  omega

variable {document : Document}

/-- A column of a line that is there lies in the document. -/
theorem holds_of_line? {n column : Nat} {line : Text} (hline : document.view.line? n = some line)
    (hcolumn : column ≤ line.length) : document.view.Holds ⟨n, column⟩ := by
  obtain ⟨hlt, -⟩ := List.getElem?_eq_some_iff.mp hline
  refine ⟨hlt, ?_⟩
  rw [LineView.lineLength_of_line? hline]
  exact hcolumn

/-! ## Words, lines and targets -/

theorem holds_wordRangeAt {p : Position} {range : Range}
    (h : document.wordRangeAt p = some range) :
    document.view.Holds range.start ∧ document.view.Holds range.stop := by
  unfold wordRangeAt at h
  split at h
  · cases h
  · rename_i line hline
    obtain ⟨hfirst, hlast⟩ := wordColumns_le (Nat.min_le_right p.column line.length)
    dsimp only at h
    split at h
    · cases h
      exact ⟨holds_of_line? hline hfirst, holds_of_line? hline hlast⟩
    · cases h

theorem holds_lineRangeAt {p : Position} {range : Range}
    (h : document.view.lineRangeAt p = some range) :
    document.view.Holds range.start ∧ document.view.Holds range.stop := by
  obtain ⟨line, hline, rfl⟩ := Option.map_eq_some_iff.mp h
  exact ⟨holds_of_line? hline (Nat.zero_le _), holds_of_line? hline (Nat.le_refl _)⟩

/-- What a target stands for lies in the document. -/
theorem SelectionHolds.holds_targetRange? (h : document.SelectionHolds) {target : Option Target}
    {range : Range} (hrange : Player.targetRange? surface target document = some range) :
    document.view.Holds range.start ∧ document.view.Holds range.stop := by
  unfold Player.targetRange? at hrange
  dsimp only at hrange
  split at hrange
  · cases hrange
    exact h.holds_range
  · cases hrange
    exact h.holds_range
  · exact holds_wordRangeAt hrange
  · exact holds_lineRangeAt hrange
  · exact LineView.holds_trimmedLineRangeAt h.holds_active.1 hrange
  · cases hrange

/-- The next word of a line begins at one of its columns. -/
theorem le_of_nextWordColumn? {line : Text} {column next : Nat} {course : Text.Course}
    (h : Player.nextWordColumn? line column course = some next) : next ≤ line.length := by
  have hstart : next ∈ line.wordStarts := by
    cases course with
    | forward => exact List.mem_of_find?_eq_some h
    | backward => exact List.mem_reverse.mp (List.mem_of_find?_eq_some h)
  exact Nat.le_of_lt (Text.lt_length_of_mem_wordStarts hstart)

/-! ## Patterns -/

/-- Both ends of a pattern that was found lie in the document. -/
theorem holds_patternRange? {cursor n : Nat} {pattern : Text} {course : Text.Course}
    {range : Range}
    (h : Player.patternRange? document.view cursor pattern n course = some range) :
    document.view.Holds range.start ∧ document.view.Holds range.stop := by
  unfold Player.patternRange? at h
  split at h
  · cases h
  · obtain ⟨number, -, hnumber⟩ := List.exists_of_findSome?_eq_some h
    obtain ⟨column, hcolumn, rfl⟩ := Option.map_eq_some_iff.mp hnumber
    obtain ⟨line, hline, hoccurs⟩ := Option.bind_eq_some_iff.mp hcolumn
    have hend := (Text.occursAt_of_nthOccurrence? hoccurs).add_length_le
    exact ⟨holds_of_line? hline (by omega), holds_of_line? hline hend⟩

end Document

/-! ## The end of a text that was put in place -/

namespace Text

/-- What is put in front of a text, without a separator, joins the first piece. -/
theorem exists_splitOn_append {separator : Char} {head : Text} (h : separator ∉ head)
    (text : Text) :
    ∃ first others, splitOn separator text = first :: others ∧
      splitOn separator (head ++ text) = (head ++ first) :: others := by
  induction head with
  | nil =>
    obtain ⟨first, others, hpieces⟩ := List.exists_cons_of_ne_nil (splitOn_ne_nil separator text)
    exact ⟨first, others, hpieces, hpieces⟩
  | cons c rest ih =>
    rw [List.mem_cons, not_or] at h
    obtain ⟨first, others, hpieces, hjoined⟩ := ih h.2
    refine ⟨first, others, hpieces, ?_⟩
    rw [List.cons_append, splitOn_cons_of_ne (Ne.symm h.1), hjoined]
    rfl

theorem lastPiece_of_not_mem {separator : Char} {text : Text} (h : separator ∉ text) :
    lastPiece separator text = text := by
  rw [lastPiece, splitOn_of_not_mem h]
  rfl

/-- The last piece stands behind every separator. -/
theorem lastPiece_append_separator (separator : Char) (text rest : Text) :
    lastPiece separator (text ++ separator :: rest) = lastPiece separator rest := by
  have hne := splitOn_ne_nil separator rest
  rw [lastPiece, splitOn_append_separator, List.getLast?_append,
    List.getLast?_eq_some_getLast hne, Option.some_or, ← List.getLast?_eq_some_getLast hne,
    lastPiece]

/-- What is put in front of a text with a separator leaves the last piece alone. -/
theorem lastPiece_append {separator : Char} {text : Text} (h : separator ∈ text) (head : Text) :
    lastPiece separator (head ++ text) = lastPiece separator text := by
  obtain ⟨before, behind, rfl⟩ := List.append_of_mem h
  rw [← List.append_assoc, lastPiece_append_separator, lastPiece_append_separator]

/-- The last piece of a clean text holds no carriage return, since no line feed follows it. -/
theorem CrClean.return_not_mem_lastPiece {text : Text} (h : CrClean text) :
    '\r' ∉ lastPiece '\n' text := by
  induction text, h using CrClean.induction with
  | nil => simp [lastPiece, splitOn]
  | pair rest _ ih =>
    have hrest := lastPiece_append_separator '\n' ['\r'] rest
    rw [List.singleton_append] at hrest
    rw [hrest]
    exact ih
  | cons c rest hc _ ih =>
    by_cases hfeed : '\n' ∈ rest
    · have hrest := lastPiece_append hfeed [c]
      rw [List.singleton_append] at hrest
      rw [hrest]
      exact ih
    · rw [lastPiece_of_not_mem hfeed] at ih
      by_cases hbreak : c = '\n'
      · subst hbreak
        have hrest := lastPiece_append_separator '\n' [] rest
        rw [List.nil_append, lastPiece_of_not_mem hfeed] at hrest
        rw [hrest]
        exact ih
      · have hnone : '\n' ∉ c :: rest := by simp [hfeed, Ne.symm hbreak]
        rw [lastPiece_of_not_mem hnone, List.mem_cons, not_or]
        exact ⟨Ne.symm hc, ih⟩

theorem trimEndWhere_of_not_mem {c : Char} {text : Text} (h : c ∉ text) :
    trimEndWhere (· == c) text = text := by
  have hreverse : text.reverse.dropWhile (· == c) = text.reverse := by
    cases hshape : text.reverse with
    | nil => rfl
    | cons d rest =>
      have hd : d ≠ c := by
        rintro rfl
        exact h (List.mem_reverse.mp (hshape ▸ List.mem_cons_self))
      rw [List.dropWhile_cons_of_neg (by simpa using hd)]
  rw [trimEndWhere, hreverse, List.reverse_reverse]

end Text

/-- The end of an inserted text, by whether it has a line feed. -/
theorem Player.endOfInserted_eq (start : Position) (text : Text) :
    endOfInserted start text =
      if '\n' ∈ text then
        ⟨start.line + ((text.splitOn '\n').length - 1),
          ((Text.lastPiece '\n' text).trimEndWhere (· == '\r')).length⟩
      else ⟨start.line, start.column + text.length⟩ := by
  split
  · rename_i hfeed
    obtain ⟨before, behind, rfl⟩ := List.append_of_mem hfeed
    have hbefore := List.length_pos_iff.mpr (Text.splitOn_ne_nil '\n' before)
    have hbehind := List.length_pos_iff.mpr (Text.splitOn_ne_nil '\n' behind)
    have hlength : 2 ≤ (Text.splitOn '\n' (before ++ '\n' :: behind)).length := by
      rw [Text.splitOn_append_separator, List.length_append]
      omega
    unfold endOfInserted Text.lastPiece
    match Text.splitOn '\n' (before ++ '\n' :: behind), hlength with
    | first :: second :: rest, _ => rfl
  · rename_i hfeed
    rw [endOfInserted, Text.splitOn_of_not_mem hfeed]

namespace Document

variable {document : Document} {range : Range} {text : Text}

/-- A replacement puts as many lines in place as the text has. -/
theorem length_newLines (hlines : ∀ line ∈ document.lines, '\n' ∉ line) (range : Range)
    (text : Text) :
    (document.newLines range text).length = (text.splitOn '\n').length := by
  have htail := (not_mem_around hlines range.stop).2
  obtain ⟨first, others, hpieces, hjoined⟩ :=
    Text.exists_splitOn_append (not_mem_around hlines range.start).1 text
  rw [newLines, Text.documentLines, List.length_map, Text.splitOn_append _ htail, hjoined, hpieces,
    List.length_append, List.length_dropLast, List.length_cons, List.length_cons]
  rfl

/-- The start of a range that was replaced still lies in the document: the first new line begins
with what stood before it. -/
theorem holds_start_replaced (hlines : ∀ line ∈ document.lines, '\r' ∉ line ∧ '\n' ∉ line)
    (hstart : document.view.Holds range.start) (htext : text.CrClean) :
    (document.replaced range text).view.Holds range.start := by
  have hhead := (not_mem_around (fun line hline => (hlines line hline).2) range.start).1
  obtain ⟨first, others, -, hjoined⟩ :=
    Text.exists_splitOn_append hhead (text.crlfToLf ++ document.tailAt range.stop)
  rw [← List.append_assoc,
    ← newLines_eq (fun line hline => (hlines line hline).1) range htext] at hjoined
  have hbefore : (document.lines.take range.start.line).length = range.start.line := by
    rw [List.length_take]
    exact Nat.min_eq_left (Nat.le_of_lt hstart.1)
  have hline : (document.replaced range text).view.line? range.start.line =
      some (document.headAt range.start ++ first) := by
    change (document.linesAfter range text)[range.start.line]? = _
    rw [linesAfter, hjoined, List.append_assoc, List.getElem?_append_right (Nat.le_of_eq hbefore),
      hbefore, Nat.sub_self]
    rfl
  have hcolumn : range.start.column ≤ (document.headAt range.start ++ first).length := by
    rw [List.length_append, length_headAt hstart]
    exact Nat.le_add_right _ _
  exact holds_of_line? hline hcolumn

/-- Where the cursor stands after a clean text has been put in place. -/
theorem column_caret_replaced (hlines : ∀ line ∈ document.lines, '\r' ∉ line) (range : Range)
    (htext : text.CrClean) :
    (document.replaced range text).selection.active.column =
      (Text.lastPiece '\n' (document.headAt range.start ++ text)).length := by
  have hhead := (not_mem_around hlines range.start).1
  have htail := (not_mem_around hlines range.stop).2
  have hpiece := ((Text.crClean_of_not_mem hhead).append htext).return_not_mem_lastPiece
  have hreturn : (Text.lastPiece '\n' (document.headAt range.start ++ text) ++
      document.tailAt range.stop).getLast? ≠ some '\r' := by
    intro hlast
    rcases List.mem_append.mp (List.mem_of_getLast? hlast) with hmem | hmem
    · exact hpiece hmem
    · exact htail hmem
  change (document.lastNewText range text).length - (document.tailAt range.stop).length = _
  rw [lastNewText, Text.dropReturn_of_getLast? hreturn, List.length_append]
  omega

/-- The end of a clean text that was put in place is where the cursor stands then. -/
theorem endOfInserted_eq_caret (hlines : ∀ line ∈ document.lines, '\r' ∉ line ∧ '\n' ∉ line)
    (hstart : document.view.Holds range.start) (htext : text.CrClean) :
    Player.endOfInserted range.start text =
      (document.replaced range text).selection.active := by
  have hnewline := fun line hline => (hlines line hline).2
  have hcolumn := column_caret_replaced (fun line hline => (hlines line hline).1) range htext
  have hline : (document.replaced range text).selection.active.line =
      range.start.line + (text.splitOn '\n').length - 1 := by
    rw [← length_newLines hnewline range text]
    rfl
  have hpos := List.length_pos_iff.mpr (Text.splitOn_ne_nil '\n' text)
  have hcaret : (document.replaced range text).selection.active =
      ⟨range.start.line + ((text.splitOn '\n').length - 1),
        (Text.lastPiece '\n' (document.headAt range.start ++ text)).length⟩ := by
    rw [← hcolumn, ← Nat.add_sub_assoc hpos, ← hline]
  rw [hcaret, Player.endOfInserted_eq]
  split
  · rename_i hfeed
    rw [Text.lastPiece_append hfeed,
      Text.trimEndWhere_of_not_mem htext.return_not_mem_lastPiece]
  · rename_i hfeed
    have hnone : '\n' ∉ document.headAt range.start ++ text := by
      simp [hfeed, (not_mem_around hnewline range.start).1]
    rw [Text.splitOn_of_not_mem hfeed, Text.lastPiece_of_not_mem hnone, List.length_append,
      length_headAt hstart]
    rfl

end Document

end EditPlayer
