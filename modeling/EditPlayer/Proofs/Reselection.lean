import EditPlayer.Proofs.ConvertedLines
import EditPlayer.Proofs.Reach
set_option autoImplicit false

/-!
# A conversion rewrites the selection and selects it again

The text around the selection stays as it is, the number of lines does not change, and what is
selected afterwards is the converted text, whether it has grown, shrunk or lost its blanks
(`convert_reselects`).  The end of the new selection is worked out from the converted text alone.
It is where that text ends in the new document because it is where the replacement leaves the
cursor.
-/

namespace EditPlayer

namespace Document

/-! ## The text around a range -/

/-- The text before a position. -/
def textBefore (document : Document) (p : Position) : Text := document.textIn ⟨.origin, p⟩

/-- The text behind a position. -/
def textBehind (document : Document) (p : Position) : Text :=
  document.textIn ⟨p, document.view.endPosition⟩

variable {document : Document} {range : Range} {p : Position}

theorem textBefore_eq (h : document.view.Holds p) :
    document.textBefore p =
      document.lineBreak.write (document.flat.take (document.view.offsetAt p)) := by
  have horigin : document.view.Holds .origin := LineView.holds_lineStart (Nat.zero_lt_of_lt h.1)
  have hzero : document.view.offsetAt .origin = 0 := LineView.offsetAt_of_holds horigin
  rw [textBefore, textIn, flatIn_of_holds horigin h, hzero, List.drop_zero, Nat.sub_zero]

theorem textBehind_eq (h : document.view.Holds p) :
    document.textBehind p =
      document.lineBreak.write (document.flat.drop (document.view.offsetAt p)) := by
  have hcount : 0 < document.view.count := Nat.zero_lt_of_lt h.1
  rw [textBehind, textIn, flatIn_of_holds h (LineView.holds_endPosition hcount),
    offsetAt_endPosition hcount, List.take_of_length_le (Nat.le_of_eq List.length_drop)]

/-- The text is the flat text, written with the line breaks of the document. -/
theorem text_eq_write (h : ∀ line ∈ document.lines, '\n' ∉ line) :
    document.text = document.lineBreak.write document.flat :=
  (LineBreak.write_join document.lineBreak h).symm

/-- A range divides the text. -/
theorem text_eq_textIn (hlines : ∀ line ∈ document.lines, '\n' ∉ line)
    (hstart : document.view.Holds range.start) (hstop : document.view.Holds range.stop)
    (hle : range.start ≤ range.stop) :
    document.text =
      document.textBefore range.start ++ document.textIn range ++
        document.textBehind range.stop := by
  rw [textBefore_eq hstart, textBehind_eq hstop, textIn, ← LineBreak.write_append,
    ← LineBreak.write_append, ← flat_eq_flatIn hstart hstop hle, text_eq_write hlines]

/-- The line feeds of the flat text divide the lines. -/
theorem length_lines (hlines : ∀ line ∈ document.lines, '\n' ∉ line)
    (hpos : 0 < document.lines.length) :
    document.lines.length = document.flat.count '\n' + 1 :=
  (LineBreak.count_join (List.ne_nil_of_length_pos hpos) hlines).symm

/-! ## A text put in place of a range -/

/-- The document with a flat text in place of a range, written with the line breaks of the
document. -/
def spliced (document : Document) (range : Range) (flat : Text) : Document :=
  document.replaced range (document.lineBreak.write flat)

section Spliced

variable (hlines : ∀ line ∈ document.lines, '\r' ∉ line ∧ '\n' ∉ line)
  (hstart : document.view.Holds range.start)

include hlines hstart

/-- What stands before a range keeps its offset when a text is put in place of the range. -/
theorem offsetAt_start_replaced {text : Text} (htext : text.CrClean) :
    (document.replaced range text).view.offsetAt range.start =
      document.view.offsetAt range.start := by
  have hholds := holds_start_replaced hlines hstart htext
  have hbefore : (document.replaced range text).lines.take range.start.line =
      document.lines.take range.start.line := by
    have hlength : (document.lines.take range.start.line).length = range.start.line := by
      rw [List.length_take]
      exact Nat.min_eq_left (Nat.le_of_lt hstart.1)
    change (document.linesAfter range text).take range.start.line = _
    rw [linesAfter, List.append_assoc]
    exact List.take_left' hlength
  rw [offsetAt_eq_length hholds, offsetAt_eq_length hstart, hbefore, List.length_append,
    List.length_append, length_headAt hholds, length_headAt hstart]

variable (hstop : document.view.Holds range.stop) {flat : Text} (hflat : '\r' ∉ flat)

include hstop hflat

theorem flat_spliced :
    (document.spliced range flat).flat =
      document.flat.take (document.view.offsetAt range.start) ++ flat ++
        document.flat.drop (document.view.offsetAt range.stop) := by
  have hclean := document.lineBreak.crClean_write hflat
  rw [spliced, flat_replaced (fun line hline => (hlines line hline).1) hstart hstop hclean,
    document.lineBreak.crlfToLf_write hflat]

/-- The text around a range stays as it is. -/
theorem text_spliced :
    (document.spliced range flat).text =
      document.textBefore range.start ++ document.lineBreak.write flat ++
        document.textBehind range.stop := by
  have hnewline : ∀ line ∈ (document.spliced range flat).lines, '\n' ∉ line :=
    newline_not_mem_linesAfter (fun line hline => (hlines line hline).2) range _
  have hstyle : (document.spliced range flat).lineBreak = document.lineBreak := rfl
  rw [text_eq_write hnewline, hstyle, flat_spliced hlines hstart hstop hflat,
    LineBreak.write_append, LineBreak.write_append, ← textBefore_eq hstart, ← textBehind_eq hstop]

/-- The lines stay as many as they were if the new text has the line feeds of the old one. -/
theorem length_lines_spliced (hle : range.start ≤ range.stop)
    (hcount : flat.count '\n' = (document.flatIn range).count '\n') :
    (document.spliced range flat).lines.length = document.lines.length := by
  have hnewline := fun line hline => (hlines line hline).2
  have hafter : ∀ line ∈ (document.spliced range flat).lines, '\n' ∉ line :=
    newline_not_mem_linesAfter hnewline range _
  have hpos : 0 < document.lines.length := Nat.zero_lt_of_lt hstart.1
  have hposAfter : 0 < (document.spliced range flat).lines.length :=
    Nat.zero_lt_of_lt (holds_caret_replaced hnewline hstart (document.lineBreak.write flat)).1
  have hsame : (document.spliced range flat).flat.count '\n' = document.flat.count '\n' := by
    rw [flat_spliced hlines hstart hstop hflat]
    conv => rhs; rw [flat_eq_flatIn hstart hstop hle]
    rw [List.count_append, List.count_append, List.count_append, List.count_append, hcount]
  rw [length_lines hnewline hpos, length_lines hafter hposAfter, hsame]

/-- The new text is found between the start of the range and the cursor. -/
theorem textIn_spliced :
    (document.spliced range flat).textIn
        (.between range.start (document.spliced range flat).selection.active) =
      document.lineBreak.write flat := by
  have hclean := document.lineBreak.crClean_write hflat
  have hreturn := fun line hline => (hlines line hline).1
  have hnewline := fun line hline => (hlines line hline).2
  have hholds : (document.spliced range flat).view.Holds range.start :=
    holds_start_replaced hlines hstart hclean
  have hcaret : (document.spliced range flat).view.Holds
      (document.spliced range flat).selection.active :=
    holds_caret_replaced hnewline hstart _
  have hoffset : (document.spliced range flat).view.offsetAt range.start =
      document.view.offsetAt range.start :=
    offsetAt_start_replaced hlines hstart hclean
  have hend : (document.spliced range flat).view.offsetAt
        (document.spliced range flat).selection.active =
      document.view.offsetAt range.start + (document.lineBreak.write flat).crlfToLf.length :=
    offsetAt_caret_replaced hlines hstart hstop (suffix_lastNewText hreturn range _) hclean
  rw [document.lineBreak.crlfToLf_write hflat] at hend
  have hle : range.start ≤ (document.spliced range flat).selection.active := by
    refine LineView.le_of_offsetAt_le hholds hcaret ?_
    rw [hoffset, hend]
    exact Nat.le_add_right _ _
  have htake : (document.flat.take (document.view.offsetAt range.start)).length =
      document.view.offsetAt range.start := by
    rw [List.length_take]
    exact Nat.min_eq_left (offsetAt_le_length hstart)
  have hflatIn : (document.spliced range flat).flatIn
      ⟨range.start, (document.spliced range flat).selection.active⟩ = flat := by
    rw [flatIn_of_holds hholds hcaret, hoffset, hend, Nat.add_sub_cancel_left,
      flat_spliced hlines hstart hstop hflat, List.append_assoc, List.drop_left' htake,
      List.take_left]
  rw [Range.between, if_pos hle, textIn, hflatIn]
  rfl

end Spliced

end Document

/-! ## The conversion of a selection -/

/-- The text of a range is converted with the line breaks of the document. -/
theorem Conversion.apply_textIn (conversion : Conversion) {document : Document}
    (hlines : ∀ line ∈ document.lines, '\r' ∉ line) (range : Range) :
    conversion.apply (document.textIn range) =
      document.lineBreak.write (conversion.apply (document.flatIn range)) :=
  conversion.keepsBreaks.write_eq _ _ (Document.return_not_mem_flatIn hlines range)

/-- The document with its selection converted, and the cursor behind the converted text. -/
def Document.converted (conversion : Conversion) (document : Document) : Document :=
  document.replaced document.selection.range
    (conversion.apply (document.textIn document.selection.range))

theorem Document.converted_eq (conversion : Conversion) {document : Document}
    (hlines : ∀ line ∈ document.lines, '\r' ∉ line) :
    document.converted conversion =
      document.spliced document.selection.range
        (conversion.apply (document.flatIn document.selection.range)) := by
  rw [converted, conversion.apply_textIn hlines, spliced]

namespace Player

open Document

/-- After a conversion the selection goes from its start to where the cursor stands behind the
converted text. -/
theorem convertSelection_eq (conversion : Conversion) {document : Document}
    (hlines : ∀ line ∈ document.lines, '\r' ∉ line ∧ '\n' ∉ line)
    (hanchor : document.view.Holds document.selection.anchor)
    (hactive : document.view.Holds document.selection.active)
    (hselected : document.selection.anchor ≠ document.selection.active) :
    convertSelection Document.surface conversion document =
      .done { document.converted conversion with
        selection :=
          ⟨document.selection.start, (document.converted conversion).selection.active⟩ } := by
  have hreturn := fun line hline => (hlines line hline).1
  obtain ⟨hstart, hstop⟩ := LineView.holds_between hanchor hactive
  have hle := Range.start_le_stop_between document.selection.anchor document.selection.active
  have hclean : (conversion.apply (document.textIn document.selection.range)).CrClean :=
    conversion.crClean_apply (document.lineBreak.crClean_write (return_not_mem_flatIn hreturn _))
  have hempty : document.selection.isEmpty = false := by
    simpa [Selection.isEmpty] using hselected
  have hreplace : document.replace document.selection.range
        (conversion.apply (document.textIn document.selection.range)) =
      .done (document.converted conversion) :=
    replace_eq_replaced hlines hstart hstop hle _
  have hend : endOfInserted document.selection.start
        (conversion.apply (document.textIn document.selection.range)) =
      (document.converted conversion).selection.active :=
    endOfInserted_eq_caret hlines hstart hclean
  have hstartAfter : (document.converted conversion).view.Holds document.selection.start :=
    holds_start_replaced hlines hstart hclean
  have hcaret : (document.converted conversion).view.Holds
      (document.converted conversion).selection.active :=
    holds_caret_replaced (fun line hline => (hlines line hline).2) hstart _
  change (if document.selection.isEmpty = true then _ else
    (document.replace document.selection.range
      (conversion.apply (document.textIn document.selection.range))).andThen fun after =>
        after.setSelection ⟨document.selection.start, endOfInserted document.selection.start
          (conversion.apply (document.textIn document.selection.range))⟩) = _
  rw [hempty, if_neg Bool.false_ne_true, hreplace, Reply.done_andThen, hend]
  rw [setSelection, if_neg (not_not_intro hstartAfter), if_neg (not_not_intro hcaret)]

/-- A conversion rewrites the selection, whichever of its ends is the cursor, and nothing else.  The
lines stay as many as they were, with the line breaks of the document.  What is selected then begins
where the selection began and is the converted text. -/
theorem convert_reselects {operation : Operation} {conversion : Conversion}
    (hkind : operation.kind = .convert) (hconversion : operation.conversion = some conversion)
    (memory : Memory) (document : Document)
    (hlines : ∀ line ∈ document.lines, '\r' ∉ line ∧ '\n' ∉ line)
    (hanchor : document.view.Holds document.selection.anchor)
    (hactive : document.view.Holds document.selection.active)
    (hselected : document.selection.anchor ≠ document.selection.active) :
    document.text =
        document.textBefore document.selection.start ++ document.textIn document.selection.range ++
          document.textBehind document.selection.stop ∧
      ∃ after, execute Document.surface operation memory document = (memory, .done after) ∧
        after.text =
          document.textBefore document.selection.start ++
            conversion.apply (document.textIn document.selection.range) ++
              document.textBehind document.selection.stop ∧
        conversion.apply (document.textIn document.selection.range) =
          document.lineBreak.write (conversion.apply (document.flatIn document.selection.range)) ∧
        after.lines.length = document.lines.length ∧
        after.selection.anchor = document.selection.start ∧
        after.textIn after.selection.range =
          conversion.apply (document.textIn document.selection.range) ∧
        after.clipboard = document.clipboard ∧
        after.lineBreak = document.lineBreak := by
  have hreturn := fun line hline => (hlines line hline).1
  have hnewline := fun line hline => (hlines line hline).2
  obtain ⟨hstart, hstop⟩ := LineView.holds_between hanchor hactive
  have hle := Range.start_le_stop_between document.selection.anchor document.selection.active
  have hselection := return_not_mem_flatIn hreturn document.selection.range
  have hflat := conversion.keepsBreaks.return_not_mem _ hselection
  have htext := conversion.apply_textIn hreturn document.selection.range
  have hexecute : execute Document.surface operation memory document =
      (memory, convertSelection Document.surface conversion document) := by
    unfold execute
    simp only [hkind, hconversion]
  have hconverted := converted_eq conversion hreturn
  rw [convertSelection_eq conversion hlines hanchor hactive hselected] at hexecute
  refine ⟨text_eq_textIn hnewline hstart hstop hle, _, hexecute, ?_, htext, ?_, rfl, ?_, rfl, rfl⟩
  · rw [htext, hconverted]
    exact text_spliced hlines hstart hstop hflat
  · rw [hconverted]
    exact length_lines_spliced hlines hstart hstop hflat hle
      (conversion.keepsBreaks.count_eq _ hselection)
  · rw [htext, hconverted]
    exact textIn_spliced hlines hstart hstop hflat

/-- Three lines with carriage returns, selected backwards, in title case.  The first line only
changes, the second one loses its blanks, and the third one grows by a character. -/
theorem convert_reselects_backwards :
    ∃ after,
      execute Document.surface
          { kind := .convert, conversion := some .title, sourceLine := 1 } {}
          { lines := [['x', ' ', 'a'], [' ', 'B', ' '], ['ß', 'e', ' ', 'y']]
            lineBreak := .crlf
            selection := ⟨⟨2, 2⟩, ⟨0, 2⟩⟩
            clipboard := none } =
        ({}, .done after) ∧
      after.text =
        ['x', ' ', 'A', '\r', '\n', 'B', '\r', '\n', 'S', 'S', 'e', ' ', 'y'] ∧
      after.lines.length = 3 ∧
      after.selection.anchor = ⟨0, 2⟩ ∧
      after.textIn after.selection.range =
        ['A', '\r', '\n', 'B', '\r', '\n', 'S', 'S', 'e'] := by
  have htitle : Operation.conversion
      { kind := .convert, conversion := some .title, sourceLine := 1 } = some .title := rfl
  obtain ⟨-, after, hdone, htext, -, hlength, hanchor, hselected, -, -⟩ :=
    convert_reselects rfl htitle {}
      { lines := [['x', ' ', 'a'], [' ', 'B', ' '], ['ß', 'e', ' ', 'y']]
        lineBreak := .crlf
        selection := ⟨⟨2, 2⟩, ⟨0, 2⟩⟩
        clipboard := none }
      (by decide) (by decide) (by decide) (by decide)
  exact ⟨after, hdone, htext.trans (by decide +kernel), hlength, hanchor,
    hselected.trans (by decide +kernel)⟩

end Player

end EditPlayer
