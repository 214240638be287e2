import EditPlayer.Text.Basic
set_option autoImplicit false

/-!
# Lines and line breaks

A text has one style of line break, found by looking for a carriage return before a line feed
anywhere in it.  Conversions cut a text at the breaks of its own style; a document cuts at line
feeds and drops one carriage return from the end of each line.
-/

namespace EditPlayer

/-- The two styles of line break. -/
inductive LineBreak where
  /-- a line feed -/
  | lf
  /-- a carriage return and a line feed -/
  | crlf
  deriving DecidableEq, Repr, Inhabited

namespace Text

/-- Whether a carriage return stands directly before a line feed. -/
def hasCrlf : Text → Bool
  | [] => false
  | c :: rest => (c == '\r' && rest.head? == some '\n') || hasCrlf rest

/-- The pieces of a text between its carriage return and line feed pairs. -/
def splitOnCrlf : Text → List Text
  | [] => [[]]
  | [c] => [[c]]
  | c :: d :: rest =>
      if c = '\r' ∧ d = '\n' then [] :: splitOnCrlf rest
      else consHead c (splitOnCrlf (d :: rest))

/-- Every carriage return and line feed pair becomes a line feed. -/
def crlfToLf : Text → Text
  | [] => []
  | [c] => [c]
  | c :: d :: rest =>
      if c = '\r' ∧ d = '\n' then '\n' :: crlfToLf rest else c :: crlfToLf (d :: rest)

/-- The line without one carriage return at its end, if it has one. -/
def dropReturn (line : Text) : Text :=
  if line.getLast? = some '\r' then line.dropLast else line

/-- The lines of a document: the pieces between line feeds, each without one final carriage
return. -/
def documentLines (text : Text) : List Text := (splitOn '\n' text).map dropReturn

/-- A document has at least one line. -/
theorem documentLines_ne_nil (text : Text) : documentLines text ≠ [] := by
  simpa [documentLines, splitOn] using splitWhere_ne_nil _ text

theorem mem_of_mem_dropReturn {line : Text} {c : Char} (h : c ∈ dropReturn line) : c ∈ line := by
  unfold dropReturn at h
  split at h
  · exact (List.dropLast_sublist line).subset h
  · exact h

/-- No line of a document holds a line feed. -/
theorem newline_not_mem_of_mem_documentLines {text line : Text} (h : line ∈ documentLines text) :
    '\n' ∉ line := by
  obtain ⟨piece, hpiece, rfl⟩ := List.mem_map.mp h
  intro hmem
  exact not_mem_of_mem_splitOn hpiece (mem_of_mem_dropReturn hmem)

end Text

namespace LineBreak

/-- The characters of a line break. -/
def text : LineBreak → Text
  | lf => ['\n']
  | crlf => ['\r', '\n']

/-- The style of line break that a text uses. -/
def ofText (text : Text) : LineBreak := if text.hasCrlf then crlf else lf

/-- The pieces of a text between line breaks of one style. -/
def split : LineBreak → Text → List Text
  | lf, text => text.splitOn '\n'
  | crlf, text => text.splitOnCrlf

/-- Lines joined by line breaks of one style. -/
def join (style : LineBreak) (lines : List Text) : Text := Text.join style.text lines

/-- Every line feed is written as a line break of one style. -/
def write (style : LineBreak) (flat : Text) : Text :=
  flat.flatMap fun c => if c = '\n' then style.text else [c]

end LineBreak

end EditPlayer
