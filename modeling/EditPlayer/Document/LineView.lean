import EditPlayer.Document.Position
import EditPlayer.Text.Words
set_option autoImplicit false

/-!
# Documents seen as lines

Whatever holds a document, its text can be seen line by line.  From this view alone come the ranges
of lines, and the correspondence between positions and offsets, which count characters from the
start of the document with one for each line break.
-/

namespace EditPlayer

/-- The lines of a document, without their line breaks. -/
structure LineView where
  /-- how many lines there are -/
  count : Nat
  /-- the text of a line -/
  line? : Nat → Option Text

namespace LineView

/-- The view of a list of lines. -/
def ofLines (lines : List Text) : LineView := ⟨lines.length, fun n => lines[n]?⟩

/-- The length of a line; a line that is not there has none. -/
def lineLength (view : LineView) (n : Nat) : Nat := ((view.line? n).map List.length).getD 0

/-- The number of the last line. -/
def lastLine (view : LineView) : Nat := view.count - 1

/-- The position lies in the document. -/
def Holds (view : LineView) (p : Position) : Prop :=
  p.line < view.count ∧ p.column ≤ view.lineLength p.line

instance (view : LineView) (p : Position) : Decidable (view.Holds p) :=
  inferInstanceAs (Decidable (_ ∧ _))

/-- The nearest position in the document: on the last line if the line is not there, and at the end
of the line if the column is not there. -/
def clamp (view : LineView) (p : Position) : Position :=
  let line := min p.line view.lastLine
  ⟨line, min p.column (view.lineLength line)⟩

/-- A clamped position lies in the document, if the document has a line. -/
theorem holds_clamp {view : LineView} (h : 0 < view.count) (p : Position) :
    view.Holds (view.clamp p) := by
  refine ⟨?_, Nat.min_le_right _ _⟩
  have hle : (view.clamp p).line ≤ view.lastLine := Nat.min_le_right _ _
  unfold lastLine at hle
  omega

/-- A position in the document is clamped to itself. -/
theorem clamp_of_holds {view : LineView} {p : Position} (h : view.Holds p) : view.clamp p = p := by
  obtain ⟨hline, hcolumn⟩ := h
  have hmin : min p.line view.lastLine = p.line := by unfold lastLine; omega
  simp only [clamp, hmin, Nat.min_eq_left hcolumn]

/-- Both ends of a range between two positions in the document lie in the document. -/
theorem holds_between {view : LineView} {p q : Position} (hp : view.Holds p) (hq : view.Holds q) :
    view.Holds (Range.between p q).start ∧ view.Holds (Range.between p q).stop := by
  unfold Range.between
  split
  · exact ⟨hp, hq⟩
  · exact ⟨hq, hp⟩

theorem lineLength_of_line? {view : LineView} {n : Nat} {text : Text}
    (h : view.line? n = some text) : view.lineLength n = text.length := by
  rw [lineLength, h]
  rfl

theorem lineLength_ofLines (lines : List Text) (n : Nat) :
    (ofLines lines).lineLength n = (lines[n]?.map List.length).getD 0 := rfl

/-- The first column of a line that is there lies in the document. -/
theorem holds_lineStart {view : LineView} {line : Nat} (h : line < view.count) :
    view.Holds ⟨line, 0⟩ := ⟨h, Nat.zero_le _⟩

/-- The end of a line that is there lies in the document. -/
theorem holds_lineEnd {view : LineView} {line : Nat} (h : line < view.count) :
    view.Holds ⟨line, view.lineLength line⟩ := ⟨h, Nat.le_refl _⟩

/-- The end of the document. -/
def endPosition (view : LineView) : Position :=
  ⟨view.lastLine, view.lineLength view.lastLine⟩

/-- The end of a document with a line lies in it. -/
theorem holds_endPosition {view : LineView} (h : 0 < view.count) :
    view.Holds view.endPosition :=
  holds_lineEnd (Nat.sub_lt h Nat.zero_lt_one)

/-- The whole range of a position's line. -/
def lineRangeAt (view : LineView) (p : Position) : Option Range :=
  (view.line? p.line).map fun text => ⟨⟨p.line, 0⟩, ⟨p.line, text.length⟩⟩

/-- The first column that is no blank, and the column behind the last such one; both are the end of
the line if it has none. -/
def trimmedColumns (text : Text) : Nat × Nat :=
  let leading := (text.takeWhile isBlank).length
  let trailing := ((text.drop leading).reverse.takeWhile isBlank).length
  (leading, text.length - trailing)

/-- The range of a position's line without the blanks at its ends. -/
def trimmedLineRangeAt (view : LineView) (p : Position) : Option Range :=
  (view.line? p.line).map fun text =>
    .between ⟨p.line, (trimmedColumns text).1⟩ ⟨p.line, (trimmedColumns text).2⟩

/-! ## Offsets -/

/-- The characters of the first `n` lines, with one for each of their line breaks. -/
def lengthBefore (view : LineView) : Nat → Nat
  | 0 => 0
  | n + 1 => view.lengthBefore n + (view.lineLength n + 1)

/-- The offset of a position. -/
def offsetAt (view : LineView) (p : Position) : Nat :=
  view.lengthBefore (min p.line view.count) + p.column

/-- The offset of a position, if it fits into a word. -/
def checkedOffsetAt (view : LineView) (p : Position) : Except Fault Nat :=
  if view.offsetAt p < wordLimit then .ok (view.offsetAt p) else .error .offsetOverflow

/-- The position `offset` characters behind the start of line `line`, when `below` more lines
follow it. -/
def positionFrom (view : LineView) (line : Nat) : (below offset : Nat) → Position
  | 0, offset => ⟨line, min offset (view.lineLength line)⟩
  | below + 1, offset =>
      if offset ≤ view.lineLength line then ⟨line, offset⟩
      else view.positionFrom (line + 1) below (offset - (view.lineLength line + 1))

/-- The position of an offset; an offset behind the end is the end. -/
def positionAt (view : LineView) (offset : Nat) : Position :=
  view.positionFrom 0 view.lastLine offset

@[simp] theorem lengthBefore_zero (view : LineView) : view.lengthBefore 0 = 0 := rfl

theorem lengthBefore_succ (view : LineView) (n : Nat) :
    view.lengthBefore (n + 1) = view.lengthBefore n + (view.lineLength n + 1) := rfl

theorem holds_positionFrom {view : LineView} {line below : Nat}
    (h : line + below < view.count) (offset : Nat) :
    view.Holds (view.positionFrom line below offset) := by
  induction below generalizing line offset with
  | zero => exact ⟨h, Nat.min_le_right _ _⟩
  | succ below ih =>
    rw [positionFrom]
    split
    · rename_i hle
      exact ⟨by change line < view.count; omega, hle⟩
    · exact ih (by omega) _

/-- Every offset has its position in the document, if the document has a line. -/
theorem holds_positionAt {view : LineView} (h : 0 < view.count) (offset : Nat) :
    view.Holds (view.positionAt offset) :=
  holds_positionFrom (by unfold lastLine; omega) offset

end LineView

end EditPlayer
