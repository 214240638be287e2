import EditPlayer.Proofs.FlatText
import EditPlayer.Proofs.WellFormed
set_option autoImplicit false

/-!
# A replacement is a splice of the flat text

A replacement works on lines: it joins what stands before the range, the new text and what stands
behind the range, cuts the result into lines again, and finds the cursor by counting back from the
end of the last new line.  On the flat text it does nothing but put the new text in place of what
lies between two offsets, with the cursor behind it.  `replace_splices` says so for documents
without carriage returns, and for texts in which these stand before line feeds only.
-/

namespace EditPlayer.Document

variable {document : Document} {range : Range} {text : Text}

/-! ## The last new line -/

/-- A character that no line holds stands neither before nor behind a position. -/
theorem not_mem_around {c : Char} (h : ∀ line ∈ document.lines, c ∉ line) (p : Position) :
    c ∉ document.headAt p ∧ c ∉ document.tailAt p := by
  unfold headAt tailAt
  cases hline : document.lines[p.line]? with
  | none => simp
  | some line =>
    have hnone := h line (List.mem_of_getElem? hline)
    exact ⟨fun hmem => hnone (List.mem_of_mem_take hmem),
      fun hmem => hnone (List.mem_of_mem_drop hmem)⟩

/-- The last line that a replacement puts in place. -/
def lastNewText (document : Document) (range : Range) (text : Text) : Text :=
  (Text.lastPiece '\n' (document.headAt range.start ++ text) ++
    document.tailAt range.stop).dropReturn

/-- The last new line divides the lines after a replacement. -/
theorem exists_linesAfter_eq (h : ∀ line ∈ document.lines, '\n' ∉ line)
    (hstart : range.start.line ≤ document.lines.length) (text : Text) :
    ∃ before, before.length = document.lastNewLine range text ∧
      document.linesAfter range text =
        before ++ document.lastNewText range text :: document.lines.drop (range.stop.line + 1) := by
  have htail := (not_mem_around h range.stop).2
  have hnew : document.newLines range text =
      (Text.splitOn '\n' (document.headAt range.start ++ text)).dropLast.map Text.dropReturn ++
        [document.lastNewText range text] := by
    rw [newLines, Text.documentLines, Text.splitOn_append _ htail, List.map_append]
    rfl
  refine ⟨document.lines.take range.start.line ++
    (Text.splitOn '\n' (document.headAt range.start ++ text)).dropLast.map Text.dropReturn, ?_, ?_⟩
  · rw [lastNewLine, hnew]
    simp only [List.length_append, List.length_take, List.length_cons, List.length_nil]
    omega
  · rw [linesAfter, hnew]
    simp only [List.append_assoc, List.cons_append, List.nil_append]

/-- The last new line is found at its number. -/
theorem lineLength_lastNewLine (h : ∀ line ∈ document.lines, '\n' ∉ line)
    (hstart : range.start.line ≤ document.lines.length) (text : Text) :
    (LineView.ofLines (document.linesAfter range text)).lineLength
        (document.lastNewLine range text) =
      (document.lastNewText range text).length := by
  obtain ⟨before, hlength, hlines⟩ := exists_linesAfter_eq h hstart text
  rw [LineView.lineLength_ofLines, hlines, ← hlength]
  simp

/-- The document after a replacement: the cursor stands before what was kept behind the range. -/
def replaced (document : Document) (range : Range) (text : Text) : Document :=
  { document with
    lines := document.linesAfter range text
    selection := .caret ⟨document.lastNewLine range text,
      (document.lastNewText range text).length - (document.tailAt range.stop).length⟩ }

/-- The cursor after a replacement stands in the last new line. -/
theorem holds_caret_replaced (h : ∀ line ∈ document.lines, '\n' ∉ line)
    (hstart : document.view.Holds range.start) (text : Text) :
    (document.replaced range text).view.Holds
      (document.replaced range text).selection.active := by
  refine ⟨lastNewLine_lt document (Nat.le_of_lt hstart.1) text, ?_⟩
  change _ ≤ (LineView.ofLines (document.linesAfter range text)).lineLength
    (document.lastNewLine range text)
  rw [lineLength_lastNewLine h (Nat.le_of_lt hstart.1)]
  exact Nat.sub_le _ _

/-- A replacement of a range in the document, with its ends in order, is done unless the last new
line has become shorter than what was kept behind the range. -/
theorem replace_eq (h : ∀ line ∈ document.lines, '\n' ∉ line)
    (hstart : document.view.Holds range.start) (hstop : document.view.Holds range.stop)
    (hle : range.start ≤ range.stop) (text : Text) :
    document.replace range text =
      if (document.lastNewText range text).length < (document.tailAt range.stop).length then
        .fault .lostTail
      else .done (document.replaced range text) := by
  have hordered : ¬ range.stop.line + 1 < range.start.line := by
    rw [Position.le_iff] at hle
    omega
  have hlength := lineLength_lastNewLine h (Nat.le_of_lt hstart.1) text
  rw [lastNewLine] at hlength
  rw [replace, if_neg (not_not_intro hstart), if_neg (not_not_intro hstop), if_neg hordered]
  simp only [hlength]
  rfl

/-- What was kept behind the range still ends the last new line, since it does not end with a
carriage return. -/
theorem suffix_lastNewText (hlines : ∀ line ∈ document.lines, '\r' ∉ line) (range : Range)
    (text : Text) : document.tailAt range.stop <:+ document.lastNewText range text := by
  refine Text.suffix_dropReturn _ fun hlast => ?_
  exact (not_mem_around hlines range.stop).2 (List.mem_of_getLast? hlast)

/-- A text is always put in place of a range, if no line holds a carriage return. -/
theorem replace_eq_replaced (hlines : ∀ line ∈ document.lines, '\r' ∉ line ∧ '\n' ∉ line)
    (hstart : document.view.Holds range.start) (hstop : document.view.Holds range.stop)
    (hle : range.start ≤ range.stop) (text : Text) :
    document.replace range text = .done (document.replaced range text) := by
  have hkept := suffix_lastNewText (fun line hline => (hlines line hline).1) range text
  rw [replace_eq (fun line hline => (hlines line hline).2) hstart hstop hle,
    if_neg (Nat.not_lt.mpr hkept.length_le)]

/-! ## The splice -/

/-- The new lines of a replacement are the pieces of the joined text with line feeds alone. -/
theorem newLines_eq (hlines : ∀ line ∈ document.lines, '\r' ∉ line) (range : Range)
    (htext : text.CrClean) :
    document.newLines range text =
      Text.splitOn '\n'
        (document.headAt range.start ++ text.crlfToLf ++ document.tailAt range.stop) := by
  have hhead := (not_mem_around hlines range.start).1
  have htail := (not_mem_around hlines range.stop).2
  have hclean : (document.headAt range.start ++ text).CrClean :=
    (Text.crClean_of_not_mem hhead).append htext
  rw [newLines, (hclean.append (Text.crClean_of_not_mem htail)).documentLines_eq,
    hclean.crlfToLf_append, (Text.crClean_of_not_mem hhead).crlfToLf_append,
    Text.crlfToLf_of_not_mem hhead, Text.crlfToLf_of_not_mem htail]

/-- The flat text after a replacement. -/
theorem flat_replaced (hlines : ∀ line ∈ document.lines, '\r' ∉ line)
    (hstart : document.view.Holds range.start) (hstop : document.view.Holds range.stop)
    (htext : text.CrClean) :
    (document.replaced range text).flat =
      document.flat.take (document.view.offsetAt range.start) ++ text.crlfToLf ++
        document.flat.drop (document.view.offsetAt range.stop) := by
  have hne := newLines_ne_nil document range text
  have hjoin : Text.join ['\n'] (document.newLines range text) =
      document.headAt range.start ++ text.crlfToLf ++ document.tailAt range.stop := by
    rw [newLines_eq hlines range htext, Text.join_splitOn]
  have hflat : (document.replaced range text).flat =
      Text.join ['\n'] (document.linesAfter range text) := rfl
  rw [hflat, linesAfter, Text.join_between _ hne, hjoin, take_offsetAt hstart, drop_offsetAt hstop]
  simp only [List.append_assoc]

/-- No line after a replacement holds a carriage return. -/
theorem return_not_mem_linesAfter (hlines : ∀ line ∈ document.lines, '\r' ∉ line) (range : Range)
    (htext : text.CrClean) : ∀ line ∈ document.linesAfter range text, '\r' ∉ line := by
  refine not_mem_linesAfter hlines fun line hline hreturn => ?_
  rw [newLines_eq hlines range htext] at hline
  have hmem := Text.mem_of_mem_splitOn hline hreturn
  rw [List.mem_append, List.mem_append] at hmem
  rcases hmem with (hhead | hnew) | htail
  · exact (not_mem_around hlines range.start).1 hhead
  · exact htext.return_not_mem_crlfToLf hnew
  · exact (not_mem_around hlines range.stop).2 htail

/-- The cursor after a replacement stands right before what stood behind the range. -/
theorem caret_replaced (hlines : ∀ line ∈ document.lines, '\n' ∉ line)
    (hstart : document.view.Holds range.start)
    (hkept : document.tailAt range.stop <:+ document.lastNewText range text) :
    (document.replaced range text).tailAt (document.replaced range text).selection.active =
        document.tailAt range.stop ∧
      (document.replaced range text).lines.drop
          ((document.replaced range text).selection.active.line + 1) =
        document.lines.drop (range.stop.line + 1) := by
  obtain ⟨before, hlength, hafter⟩ :=
    exists_linesAfter_eq hlines (Nat.le_of_lt hstart.1) text
  have hlast : (before ++ document.lastNewText range text ::
      document.lines.drop (range.stop.line + 1))[before.length]? =
        some (document.lastNewText range text) := by
    simp
  have hbehind : (before ++ document.lastNewText range text ::
      document.lines.drop (range.stop.line + 1)).drop (before.length + 1) =
        document.lines.drop (range.stop.line + 1) := by
    simp [List.drop_append]
  simp only [replaced, Selection.caret, hafter, ← hlength]
  refine ⟨?_, hbehind⟩
  rw [tailAt, hlast, Option.getD_some]
  exact (List.suffix_iff_eq_drop.mp hkept).symm

/-- The offset of the cursor after a replacement is where the new text ends. -/
theorem offsetAt_caret_replaced (hlines : ∀ line ∈ document.lines, '\r' ∉ line ∧ '\n' ∉ line)
    (hstart : document.view.Holds range.start) (hstop : document.view.Holds range.stop)
    (hkept : document.tailAt range.stop <:+ document.lastNewText range text)
    (htext : text.CrClean) :
    (document.replaced range text).view.offsetAt (document.replaced range text).selection.active =
      document.view.offsetAt range.start + text.crlfToLf.length := by
  have hnewline := fun line hline => (hlines line hline).2
  have hcaret := holds_caret_replaced hnewline hstart text
  obtain ⟨htail, hbehind⟩ := caret_replaced hnewline hstart hkept
  have hflat := flat_replaced (fun line hline => (hlines line hline).1) hstart hstop htext
  -- What stands behind the cursor is what stood behind the range, so the lengths before agree too.
  have hrest := congrArg List.length (drop_offsetAt hcaret)
  rw [htail, hbehind, ← drop_offsetAt hstop, List.length_drop] at hrest
  have hbound := offsetAt_le_length hcaret
  have hlength := congrArg List.length hflat
  rw [List.length_append, List.length_append, List.length_take,
    Nat.min_eq_left (offsetAt_le_length hstart)] at hlength
  omega

/-- A replacement puts a text in place of what lies between two offsets of the flat text.  It is
done whatever lines the range and the text go over, it leaves no carriage return behind, it leaves
the clipboard and the style of line break alone, and the cursor stands behind the new text. -/
theorem replace_splices (document : Document) (range : Range) (text : Text)
    (hlines : ∀ line ∈ document.lines, '\r' ∉ line ∧ '\n' ∉ line)
    (hstart : document.view.Holds range.start) (hstop : document.view.Holds range.stop)
    (hle : range.start ≤ range.stop) (htext : text.CrClean) :
    ∃ after, document.replace range text = .done after ∧
      after.flat =
        document.flat.take (document.view.offsetAt range.start) ++ text.crlfToLf ++
          document.flat.drop (document.view.offsetAt range.stop) ∧
      (∀ line ∈ after.lines, '\r' ∉ line ∧ '\n' ∉ line) ∧
      after.clipboard = document.clipboard ∧
      after.lineBreak = document.lineBreak ∧
      after.selection =
        .caret (after.view.positionAt
          (document.view.offsetAt range.start + text.crlfToLf.length)) := by
  have hreturn := fun line hline => (hlines line hline).1
  have hnewline := fun line hline => (hlines line hline).2
  have htail : (document.tailAt range.stop).getLast? ≠ some '\r' := by
    intro hlast
    exact (not_mem_around hreturn range.stop).2 (List.mem_of_getLast? hlast)
  have hkept : document.tailAt range.stop <:+ document.lastNewText range text :=
    Text.suffix_dropReturn _ htail
  refine ⟨document.replaced range text, ?_, flat_replaced hreturn hstart hstop htext, ?_, rfl, rfl,
    ?_⟩
  · rw [replace_eq hnewline hstart hstop hle, if_neg (Nat.not_lt.mpr hkept.length_le)]
  · intro line hline
    exact ⟨return_not_mem_linesAfter hreturn range htext line hline,
      newline_not_mem_linesAfter hnewline range text line hline⟩
  · rw [← offsetAt_caret_replaced hlines hstart hstop hkept htext,
      LineView.positionAt_offsetAt (holds_caret_replaced hnewline hstart text)]
    rfl

/-- A range over three lines gives way to a text of two, with a letter outside of ASCII behind
it. -/
theorem replace_splices_three_lines :
    ∃ after,
      (ofText ['o', 'n', '\r', '\n', 't', '\r', '\n', 'w', 'é', 'e']).replace
          ⟨⟨0, 1⟩, ⟨2, 1⟩⟩ ['X', '\r', '\n', 'Y'] =
        .done after ∧
      after.flat = ['o', 'X', '\n', 'Y', 'é', 'e'] ∧
      after.selection = .caret (after.view.positionAt 4) := by
  obtain ⟨after, hdone, hflat, -, -, -, hselection⟩ :=
    replace_splices (ofText ['o', 'n', '\r', '\n', 't', '\r', '\n', 'w', 'é', 'e'])
      ⟨⟨0, 1⟩, ⟨2, 1⟩⟩ ['X', '\r', '\n', 'Y'] (by decide) (by decide) (by decide) (by decide)
      (by decide)
  exact ⟨after, hdone, hflat, hselection⟩

end EditPlayer.Document
