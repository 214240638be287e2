import EditPlayer.Document.LineView
import EditPlayer.Document.Motion
import EditPlayer.Text.Lines
import EditPlayer.Unicode.Alphanumeric
set_option autoImplicit false

/-!
# Documents in memory

A document is a list of lines with the style of line break that it was loaded with, a selection and
a clipboard.  Its flat text joins the lines by line feeds, so that the offset of a position is a
place in the flat text.
-/

namespace EditPlayer

/-- A document in memory. -/
structure Document where
  lines : List Text
  lineBreak : LineBreak
  selection : Selection
  clipboard : Option Text
  deriving DecidableEq, Repr, Inhabited

/-- Words are made of letters, numbers and underscores. -/
def isWordChar (c : Char) : Bool := Unicode.isAlphanumeric c || c == '_'

namespace Document

/-- The document of a text, with the cursor at its start. -/
def ofText (text : Text) : Document :=
  { lines := text.documentLines
    lineBreak := .ofText text
    selection := .caret .origin
    clipboard := none }

/-- The text of the document, with the line breaks that it was loaded with. -/
def text (document : Document) : Text := document.lineBreak.join document.lines

/-- The lines joined by line feeds. -/
def flat (document : Document) : Text := LineBreak.lf.join document.lines

/-- The document seen as lines. -/
def view (document : Document) : LineView := .ofLines document.lines

/-- The document with its cursor at the nearest position there is. -/
def withCursor (p : Position) (document : Document) : Document :=
  { document with selection := .caret (document.view.clamp p) }

/-- The document with both ends of the selection at the nearest positions there are. -/
def withSelection (selection : Selection) (document : Document) : Document :=
  { document with
    selection := ⟨document.view.clamp selection.anchor, document.view.clamp selection.active⟩ }

/-- The document with a text on its clipboard. -/
def withClipboard (text : Text) (document : Document) : Document :=
  { document with clipboard := some text }

/-- The part of the flat text between the ends of a range, each moved to the nearest position there
is. -/
def flatIn (document : Document) (range : Range) : Text :=
  let start := document.view.offsetAt (document.view.clamp range.start)
  let stop := document.view.offsetAt (document.view.clamp range.stop)
  (document.flat.drop start).take (stop - start)

/-- The text of a range, with the line breaks of the document. -/
def textIn (document : Document) (range : Range) : Text :=
  document.lineBreak.write (document.flatIn range)

/-- The columns of the word in a line that touches a column. -/
def wordColumns (line : Text) (column : Nat) : Nat × Nat :=
  let left := ((line.take column).reverse.takeWhile isWordChar).length
  let right := ((line.drop column).takeWhile isWordChar).length
  (column - left, column + right)

/-- The range of the word that touches a position. -/
def wordRangeAt (document : Document) (p : Position) : Option Range :=
  match document.lines[p.line]? with
  | none => none
  | some line =>
      let (start, stop) := wordColumns line (min p.column line.length)
      if start < stop then some ⟨⟨p.line, start⟩, ⟨p.line, stop⟩⟩ else none

end Document

end EditPlayer
