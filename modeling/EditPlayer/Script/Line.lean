import EditPlayer.Keyword
import EditPlayer.Script.Count
import EditPlayer.Text.Words
set_option autoImplicit false

/-!
# Reading one line of a script

A line is trimmed and its comment is dropped.  What is left is nothing, a text in brackets, or an
instruction.  An instruction may end in `select`; its first word names the operation, and after
`move` a second word names where to go, followed by a count, or by a pattern in brackets and a
count.

Every line that is not empty gives an operation.  The words of an instruction that are not
understood are reported beside it, and the operation then holds what was understood.
-/

namespace EditPlayer.Script

/-! ## Comments -/

/-- The offsets of the pairs of slashes in a text that begins at an offset.  The search goes on behind
a pair, so that no two of them overlap. -/
def marksFrom (offset : Nat) : Text → List Nat
  | [] | [_] => []
  | c :: d :: rest =>
      if c = '/' ∧ d = '/' then offset :: marksFrom (offset + 2) rest
      else marksFrom (offset + 1) (d :: rest)

/-- Whether what follows a text is inside its first brackets: a bracket is opened in the text, and
none is closed behind the first one. -/
def endsInside (text : Text) : Bool :=
  match text.dropWhile (· != '[') with
  | [] => false
  | span => !span.contains ']'

/-- The line without its comment and the white space in front of it.  A comment begins at a pair of
slashes that is not inside the first brackets. -/
def stripComment (line : Text) : Text :=
  match (marksFrom 0 line).find? fun offset => !endsInside (line.take offset) with
  | some offset => Text.trimEnd (line.take offset)
  | none => line

/-- What a line says: the line trimmed and without its comment. -/
def body (raw : Text) : Text := stripComment raw.trim

/-! ## Brackets -/

/-- The text of a line that is a text in brackets. -/
def literal? : Text → Option Text
  | '[' :: rest => if rest.getLast? = some ']' then some rest.dropLast else none
  | _ => none

/-- What stands before and after the last occurrence of a character. -/
def cutLast? (separator : Char) : Text → Option (Text × Text)
  | [] => none
  | c :: rest =>
      match cutLast? separator rest with
      | some (left, right) => some (c :: left, right)
      | none => if c = separator then some ([], rest) else none

/-- What follows the first opening bracket. -/
def afterOpen? (line : Text) : Option Text :=
  match line.dropWhile (· != '[') with
  | [] => none
  | _ :: rest => some rest

/-- The pattern of a line, from its first opening to its last closing bracket, and what follows it.
An empty pattern is none. -/
def pattern? (line : Text) : Option (Text × Text) :=
  match (afterOpen? line).bind (cutLast? ']') with
  | some ([], _) => none
  | found => found

/-- The payload of a line with a pattern: the pattern and the count after it. -/
def patternPayload? (settings : Settings) (line : Text) : Option Payload :=
  (pattern? line).map fun (pattern, rest) =>
    .pattern pattern (readCount? settings rest.trim.words.head?)

/-! ## Instructions -/

/-- The word that makes a move extend the selection. -/
def selectWord : Text := "select".toList

/-- The line without a final `select`, and whether it had one. -/
def stripSelect (line : Text) : Text × Bool :=
  match Text.dropSuffix? selectWord line with
  | none => (line, false)
  | some head =>
      if head.isEmpty || head.getLast?.any isBlank then (head.trimEnd, true) else (line, false)

/-- What a line of a script gives: an operation if the line is not empty, and the words that were
not understood. -/
structure Reading where
  operation : Option Operation
  unknown : List Text
  deriving DecidableEq, Repr, Inhabited

/-- The reading of an instruction from its second word on, when that word names a move.  `reported`
are the words not understood so far. -/
def readMove (settings : Settings) (operation : Operation) (reported : List Text) (line : Text)
    (second : Text) (rest : List Text) : Reading :=
  let word := second.takeWhile (· != '[')
  let counted (operation : Operation) : Operation :=
    { operation with payload := .count (readCount? settings rest.head?) }
  match Keyword.move? word with
  | none => ⟨some (counted operation), reported ++ [second]⟩
  | some heading =>
      if heading.takesPattern then
        match patternPayload? settings line with
        | some payload => ⟨some { heading.apply operation with payload }, reported⟩
        | none => ⟨some (heading.apply operation), reported ++ [word]⟩
      else ⟨some (counted (heading.apply operation)), reported⟩

/-- The reading of an instruction. -/
def readInstruction (settings : Settings) (number : Nat) (line : Text) (select : Bool) : Reading :=
  let blank : Operation := { kind := .move, select, sourceLine := number }
  match line.words with
  | [] => ⟨some blank, [selectWord]⟩
  | first :: rest =>
      match Keyword.operation? first, rest with
      | none, [] => ⟨some blank, [first]⟩
      | none, second :: rest => readMove settings blank [first] line second rest
      | some preset, [] =>
          ⟨some (preset.apply blank), if preset.takesHeading then [first] else []⟩
      | some preset, second :: rest =>
          if preset.takesHeading then readMove settings (preset.apply blank) [] line second rest
          else ⟨some (preset.apply blank), [second]⟩

/-- The reading of the line with a given number. -/
def readLine (settings : Settings) (number : Nat) (raw : Text) : Reading :=
  let line := body raw
  if line.isEmpty then ⟨none, []⟩
  else
    match literal? line with
    | some text => ⟨some { kind := .insertText, payload := .text text, sourceLine := number }, []⟩
    | none => readInstruction settings number (stripSelect line).1 (stripSelect line).2

end EditPlayer.Script
