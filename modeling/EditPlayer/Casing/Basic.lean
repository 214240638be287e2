import EditPlayer.Text.Lines
import EditPlayer.Text.Words
import EditPlayer.Unicode.CaseMapping
import EditPlayer.Unicode.Lowercase
import EditPlayer.Unicode.Uppercase
set_option autoImplicit false

/-!
# Conversions between styles of writing

Most conversions work on each line alone: the text is cut at line breaks of its own style, the
lines are trimmed and converted, and joined with that line break again.  Toggling letters and
removing punctuation work on single characters of the whole text.
-/

namespace EditPlayer.Casing

open EditPlayer.Unicode

/-- Converts each trimmed line and keeps the style of line break. -/
def eachLine (convert : Text → Text) (text : Text) : Text :=
  let style := LineBreak.ofText text
  style.join ((style.split text).map fun line => convert line.trim)

/-- The other case of a character, or the character itself if it has none. -/
def toggleChar (c : Char) : Text :=
  if isLowercase c then toUpper c else if isUppercase c then toLower c else [c]

/-- Every letter in its other case. -/
def toggle (text : Text) : Text := text.flatMap toggleChar

/-- A word with its first character in upper case and all others in lower case. -/
def capitalize : Text → Text
  | [] => []
  | c :: rest => toUpper c ++ rest.flatMap toLower

/-- The words of a line, capitalized and divided by single spaces. -/
def titleLine (line : Text) : Text := Text.join [' '] (line.words.map capitalize)

/-- Title case: every word capitalized. -/
def title (text : Text) : Text := eachLine titleLine text

/-- A text with its first character in lower case. -/
def lowerFirst : Text → Text
  | [] => []
  | c :: rest => toLower c ++ rest

/-- The capitalized words of a line without the blanks between them, the first one in lower case at
its start. -/
def camelLine (line : Text) : Text := lowerFirst ((titleLine line).filter fun c => !isBlank c)

/-- Camel case: `some words` becomes `someWords`. -/
def camel (text : Text) : Text := eachLine camelLine text

/-- The words of each line divided by a separator. -/
def joinWords (separator text : Text) : Text :=
  eachLine (fun line => Text.join separator line.words) text

/-- The characters that divide the parts of an identifier. -/
def isPunctuation (c : Char) : Bool := c == '.' || c == '/' || c == '-' || c == '_'

/-- Every punctuation character becomes a space. -/
def removePunctuation (text : Text) : Text := text.map fun c => if isPunctuation c then ' ' else c

end EditPlayer.Casing
