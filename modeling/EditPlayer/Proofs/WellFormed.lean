import EditPlayer.Document.Edit
import EditPlayer.Proofs.Turns
set_option autoImplicit false

/-!
# Well-formed documents

A document is well formed if it has a line, no line holds a line feed, and both ends of the
selection lie in the document.  The document of a text is well formed, and everything that can be
asked of a document keeps it so: placing the cursor or the selection, the five edits, and plays of
any program by any player.  `wellFormed_of_requests` is the main statement.

Each motion of the cursor leads from a position in the document to a position in the document
(`holds_step`), whatever its count.  A replacement is the one edit that changes lines; its cursor is
looked up in the lines after it.
-/

namespace EditPlayer

/-! ## Positions that a document holds -/

namespace LineView

/-- The columns without the blanks at the ends of a line are columns of the line. -/
theorem trimmedColumns_le (text : Text) :
    (trimmedColumns text).1 ≤ text.length ∧ (trimmedColumns text).2 ≤ text.length := by
  refine ⟨?_, Nat.sub_le _ _⟩
  exact (List.takeWhile_sublist isBlank).length_le

/-- The trimmed range of a line lies in the document. -/
theorem holds_trimmedLineRangeAt {view : LineView} {p : Position} {range : Range}
    (hp : p.line < view.count) (h : view.trimmedLineRangeAt p = some range) :
    view.Holds range.start ∧ view.Holds range.stop := by
  obtain ⟨text, htext, rfl⟩ := Option.map_eq_some_iff.mp h
  have hlength := lineLength_of_line? htext
  obtain ⟨hfirst, hlast⟩ := trimmedColumns_le text
  rw [← hlength] at hfirst hlast
  exact holds_between ⟨hp, hfirst⟩ ⟨hp, hlast⟩

end LineView

/-- A repeated step keeps what one step keeps. -/
theorem iterate_keeps {α : Type} [DecidableEq α] {step : α → α} {P : α → Prop}
    (hstep : ∀ a, P a → P (step a)) (n : Nat) {a : α} (h : P a) : P (iterate step n a) := by
  induction n generalizing a with
  | zero => exact h
  | succ n ih =>
    rw [iterate_succ]
    exact ih (hstep a h)

theorem lt_of_lastIndex? {α : Type} {p : α → Bool} {list : List α} {i : Nat}
    (h : lastIndex? p list = some i) : i < list.length := by
  induction list generalizing i with
  | nil => cases h
  | cons a rest ih =>
    rw [lastIndex?] at h
    rw [List.length_cons]
    split at h
    · rename_i j hj
      have hlt := ih hj
      cases h
      omega
    · split at h
      · cases h
        omega
      · cases h

namespace Document

variable {document : Document}

theorem lt_of_nextBlankLine? {line i : Nat} (h : document.nextBlankLine? line = some i) :
    i < document.lines.length := by
  obtain ⟨j, hj, rfl⟩ := Option.map_eq_some_iff.mp h
  obtain ⟨hlt, -⟩ := List.findIdx?_eq_some_iff_getElem.mp hj
  rw [List.length_drop] at hlt
  omega

theorem lt_of_previousBlankLine? {line i : Nat} (h : document.previousBlankLine? line = some i) :
    i < document.lines.length := by
  have hlt := lt_of_lastIndex? h
  rw [List.length_take] at hlt
  omega

/-- Every step of a motion leads to a position in the document. -/
theorem holds_step (motion : Motion) {p : Position} (hp : document.view.Holds p) :
    document.view.Holds (document.step motion p) := by
  have hcount : 0 < document.view.count := Nat.lt_of_le_of_lt (Nat.zero_le _) hp.1
  have hlast : document.view.lastLine < document.view.count := by
    unfold LineView.lastLine
    omega
  have hline := hp.1
  cases motion with
  | left =>
    dsimp only [step]
    split
    · exact ⟨hline, Nat.le_trans (Nat.sub_le _ _) hp.2⟩
    · split
      · exact LineView.holds_lineEnd (Nat.lt_of_le_of_lt (Nat.sub_le _ _) hline)
      · exact hp
  | right =>
    dsimp only [step]
    split
    · rename_i hcolumn
      exact ⟨hline, hcolumn⟩
    · split
      · exact LineView.holds_lineStart (by omega)
      · exact hp
  | up =>
    dsimp only [step]
    split
    · exact LineView.holds_clamp hcount _
    · exact hp
  | down =>
    dsimp only [step]
    split
    · exact LineView.holds_clamp hcount _
    · exact hp
  | lineStart => exact LineView.holds_lineStart hline
  | lineEnd => exact LineView.holds_lineEnd hline
  | firstNonBlank =>
    dsimp only [step]
    cases hrange : document.view.trimmedLineRangeAt p with
    | none => exact hp
    | some range => exact (LineView.holds_trimmedLineRangeAt hline hrange).1
  | lastNonBlank =>
    dsimp only [step]
    cases hrange : document.view.trimmedLineRangeAt p with
    | none => exact hp
    | some range => exact (LineView.holds_trimmedLineRangeAt hline hrange).2
  | nextBlankLine =>
    dsimp only [step]
    cases hblank : document.nextBlankLine? p.line with
    | none => exact LineView.holds_lineEnd hlast
    | some line => exact LineView.holds_lineStart (lt_of_nextBlankLine? hblank)
  | previousBlankLine =>
    dsimp only [step]
    cases hblank : document.previousBlankLine? p.line with
    | none => exact LineView.holds_lineStart hcount
    | some line => exact LineView.holds_lineStart (lt_of_previousBlankLine? hblank)

/-! ## Selections -/

/-- Both ends of the selection lie in the document. -/
structure SelectionHolds (document : Document) : Prop where
  holds_anchor : document.view.Holds document.selection.anchor
  holds_active : document.view.Holds document.selection.active

theorem SelectionHolds.count_pos (h : document.SelectionHolds) : 0 < document.view.count :=
  Nat.zero_lt_of_lt h.holds_active.1

/-- The range between both ends of the selection lies in the document. -/
theorem SelectionHolds.holds_range (h : document.SelectionHolds) :
    document.view.Holds document.selection.range.start ∧
      document.view.Holds document.selection.range.stop :=
  LineView.holds_between h.holds_anchor h.holds_active

/-- A property of documents with a selection that lies in them, whatever is selected. -/
structure Selectable (P : Document → Prop) : Prop where
  selectionHolds {document : Document} (h : P document) : document.SelectionHolds
  select {document : Document} {selection : Selection} (h : P document)
    (hanchor : document.view.Holds selection.anchor)
    (hactive : document.view.Holds selection.active) : P { document with selection }

theorem selectable_selectionHolds : Selectable SelectionHolds where
  selectionHolds h := h
  select _ hanchor hactive := ⟨hanchor, hactive⟩

/-- The document with its cursor at a position, and with the anchor where it was if the selection is
extended. -/
def movedTo (place : Position) (select : Bool) (document : Document) : Document :=
  { document with selection := ⟨if select then document.selection.anchor else place, place⟩ }

/-- Of two moves the last one tells where the cursor is. -/
@[simp] theorem movedTo_movedTo (document : Document) (first second : Position) (select : Bool) :
    (document.movedTo first select).movedTo second select = document.movedTo second select := by
  cases select <;> rfl

theorem moveCursor_eq_movedTo (document : Document) (motion : Motion) (count : Nat)
    (select : Bool) :
    document.moveCursor motion count select =
      document.movedTo (iterate (document.step motion) (max count 1) document.selection.active)
        select := rfl

namespace Selectable

variable {P : Document → Prop} (hP : Selectable P)

include hP

theorem movedTo (h : P document) {place : Position} (hplace : document.view.Holds place)
    (select : Bool) : P (document.movedTo place select) := by
  refine hP.select h ?_ hplace
  dsimp only
  split
  · exact (hP.selectionHolds h).holds_anchor
  · exact hplace

theorem moveCursor (h : P document) (motion : Motion) (count : Nat) (select : Bool) :
    P (document.moveCursor motion count select) :=
  hP.movedTo h (iterate_keeps (fun _ hp => holds_step motion hp) _
    (hP.selectionHolds h).holds_active) select

theorem find (h : P document) (direction : Direction) : P (document.find direction) := by
  have hcount := (hP.selectionHolds h).count_pos
  unfold Document.find
  split
  · exact h
  · split
    · exact h
    · exact hP.select h (LineView.holds_positionAt hcount _) (LineView.holds_positionAt hcount _)

end Selectable

/-! ## The invariant -/

/-- A document with a line, no line feed inside a line, and both ends of the selection in the
document. -/
structure WellFormed (document : Document) : Prop where
  lines_ne_nil : document.lines ≠ []
  newline_not_mem : ∀ line ∈ document.lines, '\n' ∉ line
  holds_anchor : document.view.Holds document.selection.anchor
  holds_active : document.view.Holds document.selection.active

theorem WellFormed.count_pos (h : document.WellFormed) : 0 < document.view.count :=
  List.length_pos_iff.mpr h.lines_ne_nil

theorem WellFormed.selectionHolds (h : document.WellFormed) : document.SelectionHolds :=
  ⟨h.holds_anchor, h.holds_active⟩

/-- The document of a text is well formed. -/
theorem wellFormed_ofText (text : Text) : (ofText text).WellFormed := by
  have hne : (ofText text).lines ≠ [] := Text.documentLines_ne_nil text
  have horigin : (ofText text).view.Holds .origin :=
    LineView.holds_lineStart (List.length_pos_iff.mpr hne)
  exact ⟨hne, fun line hline => Text.newline_not_mem_of_mem_documentLines hline, horigin, horigin⟩

/-- A well-formed document stays so with any selection whose ends lie in it. -/
theorem WellFormed.select (h : document.WellFormed) {selection : Selection}
    (hanchor : document.view.Holds selection.anchor)
    (hactive : document.view.Holds selection.active) :
    { document with selection }.WellFormed :=
  ⟨h.lines_ne_nil, h.newline_not_mem, hanchor, hactive⟩

theorem WellFormed.withCursor (h : document.WellFormed) (p : Position) :
    (document.withCursor p).WellFormed :=
  h.select (LineView.holds_clamp h.count_pos p) (LineView.holds_clamp h.count_pos p)

theorem WellFormed.withSelection (h : document.WellFormed) (selection : Selection) :
    (document.withSelection selection).WellFormed :=
  h.select (LineView.holds_clamp h.count_pos _) (LineView.holds_clamp h.count_pos _)

theorem WellFormed.withClipboard (h : document.WellFormed) (text : Text) :
    (document.withClipboard text).WellFormed :=
  ⟨h.lines_ne_nil, h.newline_not_mem, h.holds_anchor, h.holds_active⟩

theorem selectable_wellFormed : Selectable WellFormed where
  selectionHolds h := h.selectionHolds
  select h := h.select

/-! ## Replacements -/

theorem newLines_ne_nil (document : Document) (range : Range) (text : Text) :
    document.newLines range text ≠ [] := Text.documentLines_ne_nil _

/-- The number of the last line that a replacement puts in place. -/
def lastNewLine (document : Document) (range : Range) (text : Text) : Nat :=
  range.start.line + (document.newLines range text).length - 1

/-- The last line that a replacement puts in place is a line of the document after it. -/
theorem lastNewLine_lt (document : Document) {range : Range}
    (hstart : range.start.line ≤ document.lines.length) (text : Text) :
    document.lastNewLine range text < (document.linesAfter range text).length := by
  have hpos : 0 < (document.newLines range text).length :=
    List.length_pos_iff.mpr (newLines_ne_nil document range text)
  simp only [lastNewLine, linesAfter, List.length_append, List.length_take, List.length_drop]
  omega

/-- A character that neither the lines before a replacement nor the new ones hold is in no line
after it. -/
theorem not_mem_linesAfter {c : Char} {range : Range} {text : Text}
    (h : ∀ line ∈ document.lines, c ∉ line)
    (hnew : ∀ line ∈ document.newLines range text, c ∉ line) :
    ∀ line ∈ document.linesAfter range text, c ∉ line := by
  intro line hline
  rw [linesAfter, List.mem_append, List.mem_append] at hline
  rcases hline with (hbefore | hmiddle) | hafter
  · exact h line (List.mem_of_mem_take hbefore)
  · exact hnew line hmiddle
  · exact h line (List.mem_of_mem_drop hafter)

/-- No line after a replacement holds a line feed, if none did before. -/
theorem newline_not_mem_linesAfter (h : ∀ line ∈ document.lines, '\n' ∉ line) (range : Range)
    (text : Text) : ∀ line ∈ document.linesAfter range text, '\n' ∉ line :=
  not_mem_linesAfter h fun _ hline => Text.newline_not_mem_of_mem_documentLines hline

/-- The document after a replacement that was done. -/
theorem eq_of_replace_done {range : Range} {text : Text} {after : Document}
    (h : document.replace range text = .done after) :
    document.view.Holds range.start ∧
      after =
        { document with
          lines := document.linesAfter range text
          selection := .caret ⟨document.lastNewLine range text,
            (LineView.ofLines (document.linesAfter range text)).lineLength
              (document.lastNewLine range text) - (document.tailAt range.stop).length⟩ } := by
  unfold replace at h
  split at h
  · cases h
  · rename_i hstart
    split at h
    · cases h
    · split at h
      · cases h
      · dsimp only at h
        split at h
        · cases h
        · cases h
          exact ⟨Decidable.not_not.mp hstart, rfl⟩

/-- A replacement that was done leaves a well-formed document. -/
theorem WellFormed.of_replace_done (h : document.WellFormed) {range : Range} {text : Text}
    {after : Document} (hdone : document.replace range text = .done after) :
    after.WellFormed := by
  obtain ⟨hstart, rfl⟩ := eq_of_replace_done hdone
  have hline := lastNewLine_lt document (Nat.le_of_lt hstart.1) text
  have hcaret : (LineView.ofLines (document.linesAfter range text)).Holds
      ⟨document.lastNewLine range text,
        (LineView.ofLines (document.linesAfter range text)).lineLength
          (document.lastNewLine range text) - (document.tailAt range.stop).length⟩ :=
    ⟨hline, Nat.sub_le _ _⟩
  refine ⟨?_, newline_not_mem_linesAfter h.newline_not_mem range text, hcaret, hcaret⟩
  exact List.ne_nil_of_length_pos (Nat.lt_of_le_of_lt (Nat.zero_le _) hline)

/-! ## Edits -/

/-- An edit that is refused changes nothing. -/
theorem eq_of_perform_refused {edit : Edit} {error : OutOfBounds} {after : Document}
    (h : document.perform edit = .refused error after) : after = document := by
  cases edit with
  | setSelection selection =>
    dsimp only [perform, setSelection] at h
    split at h
    · cases h
      rfl
    · split at h
      · cases h
        rfl
      · cases h
  | replace range text =>
    dsimp only [perform, replace] at h
    split at h
    · cases h
      rfl
    · split at h
      · cases h
        rfl
      · split at h
        · cases h
        · split at h <;> cases h
  | writeClipboard text => cases h
  | moveCursor motion count select => cases h
  | find direction => cases h

/-- Edits other than replacements leave well-formed documents and do not break off. -/
theorem WellFormed.perform_other (h : document.WellFormed) {edit : Edit}
    (hedit : edit.isReplacement = false) (F : Fault → Prop) :
    (document.perform edit).Ends WellFormed F := by
  cases edit with
  | setSelection selection =>
    dsimp only [perform, setSelection]
    split
    · exact h
    · rename_i hanchor
      split
      · exact h
      · rename_i hactive
        exact h.select (Decidable.not_not.mp hanchor) (Decidable.not_not.mp hactive)
  | replace range text => cases hedit
  | writeClipboard text => exact h.withClipboard text
  | moveCursor motion count select => exact selectable_wellFormed.moveCursor h motion count select
  | find direction => exact selectable_wellFormed.find h direction

/-- A replacement leaves a well-formed document, or it breaks off. -/
theorem WellFormed.replace_ends (h : document.WellFormed) {range : Range} {text : Text}
    {F : Fault → Prop} (hfault : ∀ cause, document.replace range text = .fault cause → F cause) :
    (document.replace range text).Ends WellFormed F := by
  cases hreply : document.replace range text with
  | done after => exact h.of_replace_done hreply
  | refused error after =>
    have hrefused : document.perform (.replace range text) = .refused error after := hreply
    rw [eq_of_perform_refused hrefused]
    exact h
  | fault cause => exact hfault cause hreply

/-- All edits leave well-formed documents. -/
theorem WellFormed.perform (h : document.WellFormed) (edit : Edit) :
    (document.perform edit).Ends WellFormed fun _ => True := by
  cases hedit : edit.isReplacement with
  | false => exact h.perform_other hedit _
  | true =>
    cases edit with
    | replace range text => exact h.replace_ends fun _ _ => trivial
    | setSelection selection => cases hedit
    | writeClipboard text => cases hedit
    | moveCursor motion count select => cases hedit
    | find direction => cases hedit

/-- Every operation of a player leaves a well-formed document. -/
theorem WellFormed.execute (h : document.WellFormed) (operation : Operation)
    (memory : Player.Memory) :
    (Player.execute Document.surface operation memory document).2.Ends WellFormed
      fun _ => True :=
  Player.execute_ends ⟨fun edit _ _ hstate => hstate.perform edit, nofun⟩ (fun _ => trivial)
    (fun text _ => h.perform (.replace document.selection.range text)) h

/-! ## Requests -/

/-- What can be asked of a document, by its owner or by a player. -/
inductive Request where
  | withCursor (position : Position)
  | withSelection (selection : Selection)
  | withClipboard (text : Text)
  | edit (edit : Edit)
  /-- a player in any state plays a program -/
  | play (player : Player) (program : Program)

/-- How a request ends. -/
def respond : Request → Document → Reply Document OutOfBounds
  | .withCursor position, document => .done (document.withCursor position)
  | .withSelection selection, document => .done (document.withSelection selection)
  | .withClipboard text, document => .done (document.withClipboard text)
  | .edit edit, document => document.perform edit
  | .play player program, document =>
      match player.play Document.surface program document with
      | .ok (_, _, after) => .done after
      | .error cause => .fault cause

/-- The document after requests, unless one of them breaks off.  Those that are refused are passed
over. -/
def respondAll : List Request → Document → Except Fault Document
  | [], document => .ok document
  | request :: rest, document =>
      match respond request document with
      | .done after | .refused _ after => respondAll rest after
      | .fault cause => .error cause

/-- Every request leaves a well-formed document. -/
theorem WellFormed.respond (h : document.WellFormed) (request : Request) :
    (respond request document).Ends WellFormed fun _ => True := by
  cases request with
  | withCursor position => exact h.withCursor position
  | withSelection selection => exact h.withSelection selection
  | withClipboard text => exact h.withClipboard text
  | edit edit => exact h.perform edit
  | play player program =>
    dsimp only [Document.respond]
    cases hplay : player.play Document.surface program document with
    | error cause => trivial
    | ok result =>
      obtain ⟨outcome, player', after⟩ := result
      have hafter : after.WellFormed :=
        Player.play_keeps (P := fun _ state => state.WellFormed) (fun _ _ hstate => hstate)
          (fun operation _ memory _ hstate => hstate.execute operation memory) h hplay
      exact hafter

theorem WellFormed.respondAll (h : document.WellFormed) {requests : List Request}
    {after : Document} (hafter : respondAll requests document = .ok after) :
    after.WellFormed := by
  induction requests generalizing document with
  | nil =>
    cases hafter
    exact h
  | cons request rest ih =>
    have hends := h.respond request
    rw [Document.respondAll] at hafter
    split at hafter
    · rename_i next hreply
      rw [hreply] at hends
      exact ih hends hafter
    · rename_i error next hreply
      rw [hreply] at hends
      exact ih hends hafter
    · cases hafter

/-- A request that is refused changes nothing. -/
theorem eq_of_respond_refused {request : Request} {error : OutOfBounds} {after : Document}
    (h : respond request document = .refused error after) : after = document := by
  cases request with
  | withCursor position => cases h
  | withSelection selection => cases h
  | withClipboard text => cases h
  | edit edit => exact eq_of_perform_refused h
  | play player program =>
    dsimp only [respond] at h
    split at h <;> cases h

/-- After any requests the document of a text has a line, no line holds a line feed, and both ends
of the selection lie in the document; and a request that it refuses leaves it as it is. -/
theorem wellFormed_of_requests (text : Text) (requests : List Request) (document : Document)
    (h : respondAll requests (ofText text) = .ok document) :
    document.WellFormed ∧
      ∀ request error after, respond request document = .refused error after →
        after = document :=
  ⟨(wellFormed_ofText text).respondAll h, fun _ _ _ hrefused => eq_of_respond_refused hrefused⟩

/-- A selection far outside, a range that ends a line above its start, and a position that is
refused. -/
theorem wellFormed_of_requests_outside :
    ∃ document,
      respondAll
          [.withSelection ⟨⟨7, 0⟩, ⟨0, 9⟩⟩, .edit (.moveCursor .nextBlankLine 4 true),
            .edit (.replace ⟨⟨1, 1⟩, ⟨0, 1⟩⟩ ['x', '\n']), .edit (.setSelection (.caret ⟨9, 0⟩)),
            .play .fresh ⟨[{ kind := .delete, sourceLine := 1 }], []⟩, .edit (.find .previous)]
          (ofText ['a', 'b', '\r', '\n', 'a']) =
        .ok document ∧
      document.WellFormed :=
  Exists.imp (fun document h => ⟨h, (wellFormed_of_requests _ _ document h).1⟩) ⟨_, rfl⟩

end Document

end EditPlayer
