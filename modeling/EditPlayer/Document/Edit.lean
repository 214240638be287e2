import EditPlayer.Document.Cursor
import EditPlayer.Document.Search
import EditPlayer.Surface.Basic
set_option autoImplicit false

/-!
# A document as a surface

A document refuses positions that lie outside it and performs all other edits.  Replacing a range
joins what stands before the range, the new text and what stands behind it, cuts the result into
lines again, and puts these lines in place of the lines that the range touched.  The cursor then
stands before what was kept behind the range.
-/

namespace EditPlayer

/-- A position that lies outside the document. -/
structure OutOfBounds where
  position : Position
  deriving DecidableEq, Repr, Inhabited

/-- The refusal in words. -/
def OutOfBounds.message (error : OutOfBounds) : Except Fault Text :=
  error.position.label.map fun label =>
    "position ".toList ++ label ++ " is outside the document".toList

namespace Document

/-- The document with another selection, if both ends lie in the document. -/
def setSelection (selection : Selection) (document : Document) : Reply Document OutOfBounds :=
  if ¬ document.view.Holds selection.anchor then .refused ⟨selection.anchor⟩ document
  else if ¬ document.view.Holds selection.active then .refused ⟨selection.active⟩ document
  else .done { document with selection }

/-- What stands before a position on its line. -/
def headAt (document : Document) (p : Position) : Text :=
  ((document.lines[p.line]?).getD []).take p.column

/-- What stands behind a position on its line. -/
def tailAt (document : Document) (p : Position) : Text :=
  ((document.lines[p.line]?).getD []).drop p.column

/-- The lines that come in place of those which a range touches. -/
def newLines (document : Document) (range : Range) (text : Text) : List Text :=
  (document.headAt range.start ++ text ++ document.tailAt range.stop).documentLines

/-- All lines after a text has been put in place of a range. -/
def linesAfter (document : Document) (range : Range) (text : Text) : List Text :=
  document.lines.take range.start.line ++ document.newLines range text ++
    document.lines.drop (range.stop.line + 1)

/-- The document with a text in place of a range. -/
def replace (range : Range) (text : Text) (document : Document) : Reply Document OutOfBounds :=
  if ¬ document.view.Holds range.start then .refused ⟨range.start⟩ document
  else if ¬ document.view.Holds range.stop then .refused ⟨range.stop⟩ document
  else if range.stop.line + 1 < range.start.line then .fault .crossedRange
  else
    let lines := document.linesAfter range text
    let line := range.start.line + (document.newLines range text).length - 1
    let length := (LineView.ofLines lines).lineLength line
    let kept := (document.tailAt range.stop).length
    if length < kept then .fault .lostTail
    else .done { document with lines, selection := .caret ⟨line, length - kept⟩ }

/-- Performs an edit. -/
def perform : Edit → Document → Reply Document OutOfBounds
  | .setSelection selection, document => document.setSelection selection
  | .replace range text, document => document.replace range text
  | .writeClipboard text, document => .done (document.withClipboard text)
  | .moveCursor motion count select, document => .done (document.moveCursor motion count select)
  | .find direction, document => .done (document.find direction)

/-- A document as a surface.  It is held in memory, so that the offset of its cursor is always a
word (`offsetAt_surface`). -/
def surface : Surface Document OutOfBounds where
  selection := Document.selection
  lines := Document.view
  textIn := Document.textIn
  wordRangeAt := Document.wordRangeAt
  clipboard := Document.clipboard
  perform := Document.perform
  lineRangeAt document := document.view.lineRangeAt
  trimmedLineRangeAt document := document.view.trimmedLineRangeAt
  offsetAt document place := .ok (document.view.offsetAt place)
  positionAt document := document.view.positionAt

end Document

end EditPlayer
