import EditPlayer.Proofs.Chains
import EditPlayer.Proofs.Destinations
import EditPlayer.Proofs.LineBreaks
set_option autoImplicit false

/-!
# Moves to a pattern

A move to a pattern looks at the line of the cursor first, and then at one line after the other,
downwards or upwards.  So it ends on the nearest line that has enough occurrences of the pattern
apart from each other, and there at one of them.  If no line on the way has so many, nothing happens
(`Player.execute_match`).
-/

namespace EditPlayer

/-- The first line with a property that one comes to, going on or back from a line. -/
structure Text.Course.Nearest (course : Text.Course) (start : Nat) (P : Nat → Prop)
    (line : Nat) : Prop where
  leads : course.Leads start line
  found : P line
  nearest : ∀ other, course.Leads start other → P other → course.Leads line other

/-! ## The lines of a search -/

namespace Player

/-- A search goes through the lines that are not behind the cursor. -/
theorem mem_searchLines {lines : LineView} {cursor line : Nat} {course : Text.Course} :
    line ∈ searchLines lines cursor course ↔
      line ≤ lines.lastLine ∧ course.Leads cursor line := by
  cases course with
  | forward =>
    rw [searchLines, List.range_eq_range', List.drop_range', List.mem_range'_1]
    simp only [Text.Course.Leads]
    omega
  | backward =>
    rw [searchLines, List.mem_reverse, List.mem_range]
    simp only [Text.Course.Leads]
    omega

/-- A search takes the lines in the order in which it comes to them. -/
theorem pairwise_searchLines (lines : LineView) (cursor : Nat) (course : Text.Course) :
    (searchLines lines cursor course).Pairwise course.Leads := by
  cases course with
  | forward => exact List.pairwise_le_range.drop
  | backward => exact List.pairwise_reverse.mpr List.pairwise_le_range

/-- Where the `n`-th occurrence of a pattern is on a line. -/
def rangeOnLine? (lines : LineView) (pattern : Text) (n : Nat) (course : Text.Course)
    (line : Nat) : Option Range :=
  ((lines.line? line).bind fun text => Text.nthOccurrence? pattern text n course).map
    fun column => ⟨⟨line, column⟩, ⟨line, column + pattern.length⟩⟩

theorem patternRange?_eq_findSome? {pattern : Text} (hpattern : pattern ≠ []) (lines : LineView)
    (cursor n : Nat) (course : Text.Course) :
    patternRange? lines cursor pattern n course =
      (searchLines lines cursor course).findSome? (rangeOnLine? lines pattern n course) := by
  rw [patternRange?, if_neg (by simpa using hpattern)]
  rfl

end Player

/-! ## Occurrences on the lines of a document -/

namespace Document

variable {document : Document} {pattern text : Text} {cursor line column n : Nat}
  {course : Text.Course} {range : Range}

/-- The line has `n` occurrences of a pattern, of which no two overlap; for zero, it has one. -/
def LineHas (document : Document) (pattern : Text) (n line : Nat) : Prop :=
  ∃ text, document.lines[line]? = some text ∧ Text.HasApart pattern text (max n 1)

theorem LineHas.le_lastLine (h : document.LineHas pattern n line) :
    line ≤ document.view.lastLine := by
  obtain ⟨text, htext, -⟩ := h
  exact Nat.le_sub_one_of_lt (List.getElem?_eq_some_iff.mp htext).1

/-- No occurrence is found on a line just when the line has too few of them. -/
theorem rangeOnLine?_eq_none_iff (hpattern : pattern ≠ []) (course : Text.Course) :
    Player.rangeOnLine? document.view pattern n course line = none ↔
      ¬ document.LineHas pattern n line := by
  have hline : document.view.line? line = document.lines[line]? := rfl
  rw [Player.rangeOnLine?, Option.map_eq_none_iff, hline, LineHas]
  cases document.lines[line]? with
  | none => simp
  | some text =>
    rw [Option.bind_some, ← Option.not_isSome_iff_eq_none,
      Text.isSome_nthOccurrence?_iff hpattern]
    simp

/-- Nothing is found just when no line on the way has enough occurrences. -/
theorem patternRange?_eq_none_iff (hpattern : pattern ≠ []) :
    Player.patternRange? document.view cursor pattern n course = none ↔
      ∀ line, course.Leads cursor line → ¬ document.LineHas pattern n line := by
  rw [Player.patternRange?_eq_findSome? hpattern, List.findSome?_eq_none_iff]
  constructor
  · intro hnone line hleads hhas
    have hsearched := Player.mem_searchLines.mpr ⟨hhas.le_lastLine, hleads⟩
    exact (rangeOnLine?_eq_none_iff hpattern course).mp (hnone line hsearched) hhas
  · intro hlacks line hmem
    have hleads := (Player.mem_searchLines.mp hmem).2
    exact (rangeOnLine?_eq_none_iff hpattern course).mpr (hlacks line hleads)

/-- The first line on the way on which an occurrence is found is the nearest that has enough. -/
theorem nearest_of_searchLines (hpattern : pattern ≠ []) {before behind : List Nat}
    (hlines : Player.searchLines document.view cursor course = before ++ line :: behind)
    (hbefore : ∀ passed ∈ before,
      Player.rangeOnLine? document.view pattern n course passed = none)
    (hhas : document.LineHas pattern n line) :
    course.Nearest cursor (document.LineHas pattern n) line := by
  have hmem : line ∈ Player.searchLines document.view cursor course := by
    rw [hlines]
    exact List.mem_append_right _ List.mem_cons_self
  have hsorted := Player.pairwise_searchLines document.view cursor course
  rw [hlines, List.pairwise_append, List.pairwise_cons] at hsorted
  refine ⟨(Player.mem_searchLines.mp hmem).2, hhas, ?_⟩
  intro other hleads hother
  have hsearched := Player.mem_searchLines.mpr ⟨hother.le_lastLine, hleads⟩
  rw [hlines, List.mem_append, List.mem_cons] at hsearched
  rcases hsearched with hpassed | rfl | hbehind
  · exact absurd hother ((rangeOnLine?_eq_none_iff hpattern course).mp (hbefore other hpassed))
  · cases course <;> exact Nat.le_refl _
  · exact hsorted.2.1.1 other hbehind

/-- What is found is an occurrence on the nearest line that has enough of them. -/
theorem nearest_of_patternRange? (hpattern : pattern ≠ [])
    (h : Player.patternRange? document.view cursor pattern n course = some range) :
    ∃ line column text, range = ⟨⟨line, column⟩, ⟨line, column + pattern.length⟩⟩ ∧
      course.Nearest cursor (document.LineHas pattern n) line ∧
      document.lines[line]? = some text ∧ Text.OccursAt pattern text column := by
  rw [Player.patternRange?_eq_findSome? hpattern, List.findSome?_eq_some_iff] at h
  obtain ⟨before, line, behind, hlines, hrange, hbefore⟩ := h
  have hhas : document.LineHas pattern n line := by
    by_contra hlacks
    rw [(rangeOnLine?_eq_none_iff hpattern course).mpr hlacks] at hrange
    cases hrange
  obtain ⟨column, hcolumn, hplaced⟩ := Option.map_eq_some_iff.mp hrange
  obtain ⟨text, htext, hoccurs⟩ := Option.bind_eq_some_iff.mp hcolumn
  exact ⟨line, column, text, hplaced.symm, nearest_of_searchLines hpattern hlines hbefore hhas,
    htext, Text.occursAt_of_nthOccurrence? hoccurs⟩

/-! ## The text of an occurrence -/

/-- The text between two columns of a line is that part of the line. -/
theorem textIn_of_line (hline : document.lines[line]? = some text) (hnewline : '\n' ∉ text)
    (hstop : column + n ≤ text.length) :
    document.textIn ⟨⟨line, column⟩, ⟨line, column + n⟩⟩ = (text.drop column).take n := by
  have hstart : document.view.Holds ⟨line, column⟩ :=
    holds_of_line? hline (Nat.le_of_add_right_le hstop)
  have hend : document.view.Holds ⟨line, column + n⟩ := holds_of_line? hline hstop
  have htail : document.tailAt ⟨line, column⟩ = text.drop column := by
    rw [tailAt, hline, Option.getD_some]
  have hlength : document.view.offsetAt ⟨line, column + n⟩ -
      document.view.offsetAt ⟨line, column⟩ = n := by
    rw [LineView.offsetAt_of_holds hstart, LineView.offsetAt_of_holds hend]
    dsimp only
    omega
  have hfits : n ≤ (text.drop column).length := by
    rw [List.length_drop]
    omega
  rw [textIn, flatIn_of_holds hstart hend, hlength, drop_offsetAt hstart, htail,
    List.take_append_of_le_length hfits]
  refine LineBreak.write_of_not_mem _ ?_
  exact fun hmem => hnewline (List.mem_of_mem_drop (List.mem_of_mem_take hmem))

/-- The range of an occurrence on a line holds the pattern. -/
theorem textIn_of_occursAt (hline : document.lines[line]? = some text) (hnewline : '\n' ∉ text)
    (h : Text.OccursAt pattern text column) :
    document.textIn ⟨⟨line, column⟩, ⟨line, column + pattern.length⟩⟩ = pattern := by
  rw [textIn_of_line hline hnewline h.add_length_le]
  exact (List.prefix_iff_eq_take.mp h.2).symm

end Document

/-! ## The move -/

namespace Player

variable {document : Document} {pattern : Text} {n : Nat} {course : Text.Course}

/-- The target of a move to a pattern. -/
def matchTarget : Text.Course → Target
  | .forward => .forwardMatch
  | .backward => .backwardMatch

theorem moveTo_matchTarget {σ ε : Type} (surface : Surface σ ε) (course : Text.Course)
    (pattern : Text) (n : Nat) (select : Bool) (state : σ) :
    moveTo surface (matchTarget course) .matchInLine (.pattern pattern n) select state =
      moveToPattern surface pattern n course select state := by
  cases course <;> rfl

theorem moveToPattern_of_none
    (h : patternRange? document.view document.selection.active.line pattern n course = none)
    (select : Bool) :
    moveToPattern Document.surface pattern n course select document = .done document := by
  have hrange : patternRange? (Document.surface.lines document)
      (Document.surface.selection document).active.line pattern n course = none := h
  rw [moveToPattern, hrange]

/-- An occurrence that was found is selected, or the cursor is placed in front of it. -/
theorem moveToPattern_of_some {range : Range}
    (h : patternRange? document.view document.selection.active.line pattern n course = some range)
    (select : Bool) :
    moveToPattern Document.surface pattern n course select document =
      .done { document with
        selection := if select then ⟨range.start, range.stop⟩ else .caret range.start } := by
  obtain ⟨hstart, hstop⟩ := Document.holds_patternRange? h
  have hrange : patternRange? (Document.surface.lines document)
      (Document.surface.selection document).active.line pattern n course = some range := h
  rw [moveToPattern, hrange]
  cases select with
  | true => exact Document.setSelection_eq hstart hstop
  | false => exact Document.setSelection_eq hstart hstart

/-- A move to a pattern ends on the nearest line that has enough occurrences of it apart from each
other, the line of the cursor first.  There it selects the pattern, with the cursor at its end, or
places the cursor in front of it.  Nothing else changes, and nothing at all if there is no such
line. -/
theorem execute_match (document : Document) (h : document.WellFormed) (operation : Operation)
    (hkind : operation.kind = .move) (course : Text.Course)
    (htarget : operation.target = some (matchTarget course))
    (hmovement : operation.movement = some .matchInLine) (pattern : Text)
    (hpattern : pattern ≠ []) (n : Nat) (hpayload : operation.payload = .pattern pattern n)
    (memory : Memory) :
    ((∀ line, course.Leads document.selection.active.line line →
        ¬ document.LineHas pattern n line) ∧
      ∀ select, execute Document.surface { operation with select } memory document =
        (memory, .done document)) ∨
    ∃ line start stop,
      course.Nearest document.selection.active.line (document.LineHas pattern n) line ∧
      start.line = line ∧ stop.line = line ∧ start.column < stop.column ∧
      document.textIn ⟨start, stop⟩ = pattern ∧
      ∀ select, execute Document.surface { operation with select } memory document =
        (memory, .done { document with
          selection := if select then ⟨start, stop⟩ else .caret start }) := by
  have hexecute (select : Bool) :
      execute Document.surface { operation with select } memory document =
        (memory, moveToPattern Document.surface pattern n course select document) := by
    rw [execute_of_move Document.surface { operation with select } hkind, move]
    simp only [htarget, hmovement, hpayload, moveTo_matchTarget]
  cases hrange : patternRange? document.view document.selection.active.line pattern n course with
  | none =>
    refine .inl ⟨(Document.patternRange?_eq_none_iff hpattern).mp hrange, ?_⟩
    intro select
    rw [hexecute, moveToPattern_of_none hrange]
  | some range =>
    obtain ⟨line, column, text, rfl, hnearest, htext, hoccurs⟩ :=
      Document.nearest_of_patternRange? hpattern hrange
    have hnewline : '\n' ∉ text := h.newline_not_mem text (List.mem_of_getElem? htext)
    have hlength : 0 < pattern.length := List.length_pos_iff.mpr hpattern
    refine .inr ⟨line, ⟨line, column⟩, ⟨line, column + pattern.length⟩, hnearest, rfl, rfl,
      Nat.lt_add_of_pos_right hlength,
      Document.textIn_of_occursAt htext hnewline hoccurs, ?_⟩
    intro select
    rw [hexecute, moveToPattern_of_some hrange]

/-- Lines on which a pattern overlaps itself, with the cursor on the last of them. -/
def overlappingLines : Document :=
  { Document.ofText "aaaa\naaaaa\naaa".toList with selection := .caret ⟨2, 3⟩ }

/-- Back to the line that has two pairs of letters. -/
def backToPairs : Operation :=
  { kind := .move
    target := some .backwardMatch
    movement := some .matchInLine
    payload := .pattern "aa".toList 2
    sourceLine := 1 }

/-- The last line has only one pair, and so the second from the end of the line above is found. -/
theorem execute_match_overlapping :
    ∃ line,
      Text.Course.backward.Nearest 2 (overlappingLines.LineHas "aa".toList 2) line ∧
      execute Document.surface { backToPairs with select := true } {} overlappingLines =
        ({}, .done { overlappingLines with selection := ⟨⟨line, 1⟩, ⟨line, 3⟩⟩ }) := by
  have hplaced : execute Document.surface { backToPairs with select := true } {} overlappingLines =
      ({}, .done { overlappingLines with selection := ⟨⟨1, 1⟩, ⟨1, 3⟩⟩ }) := rfl
  rcases execute_match overlappingLines ⟨by decide, by decide, by decide, by decide⟩ backToPairs rfl
    .backward rfl rfl "aa".toList (by decide) 2 rfl {} with
    ⟨-, hstays⟩ | ⟨line, start, stop, hnearest, hstart, -, -, -, hmoves⟩
  · cases hplaced.symm.trans (hstays true)
  · cases hplaced.symm.trans (hmoves true)
    cases hstart
    exact ⟨1, hnearest, hplaced⟩

end Player

end EditPlayer
