import EditPlayer.Casing.Conversion
set_option autoImplicit false

/-!
# Operations of a program

An operation says what to do (`Kind`), to which unit of the document (`Target`), in which direction
(`Movement`), and carries a payload: a count, a text, or a pattern with the number of an
occurrence.  Not every combination has a meaning; the player passes over those that have none.
-/

namespace EditPlayer

/-- What an operation does. -/
inductive Kind where
  /-- move the cursor -/
  | move
  /-- insert a text, or put it in place of the selection -/
  | insertText
  /-- copy a range to the clipboard -/
  | copy
  /-- insert the clipboard, or put it in place of the selection -/
  | paste
  /-- select the word or line at the cursor -/
  | select
  /-- delete the selection -/
  | delete
  /-- exchange the two ends of the selection -/
  | swapSelection
  /-- let the surface find the next or the previous occurrence -/
  | find
  /-- reduce the selection to one of its ends -/
  | deselect
  /-- remember the position of the cursor -/
  | pushPosition
  /-- go back to the position remembered last -/
  | popPosition
  /-- remember the text of a range -/
  | pushText
  /-- insert the text remembered last -/
  | popText
  /-- suspend the run -/
  | pause
  /-- end the run -/
  | finish
  /-- convert the selected text -/
  | convert
  deriving DecidableEq, Repr, Inhabited

/-- The unit or range that an operation is about. -/
inductive Target where
  | character
  | line
  /-- a line without the blanks at its ends -/
  | trimmedLine
  /-- a line of blanks -/
  | emptyLine
  | word
  | selection
  /-- a pattern that is looked for towards the end -/
  | forwardMatch
  /-- a pattern that is looked for towards the start -/
  | backwardMatch
  deriving DecidableEq, Repr, Inhabited

/-- The direction of an operation. -/
inductive Movement where
  /-- one unit on -/
  | increment
  /-- one unit back -/
  | decrement
  /-- to the start of the unit -/
  | start
  /-- to the end of the unit -/
  | finish
  /-- to the next unit -/
  | next
  /-- to the unit before -/
  | previous
  /-- a number of characters on -/
  | forward
  /-- a number of characters back -/
  | backward
  /-- to an occurrence of a pattern, line by line -/
  | matchInLine
  deriving DecidableEq, Repr, Inhabited

/-- What an operation carries. -/
inductive Payload where
  /-- how often to do it -/
  | count (n : Nat)
  /-- the text to insert -/
  | text (text : Text)
  /-- the pattern to look for, and which of its occurrences on a line, counted from 1 -/
  | pattern (pattern : Text) (occurrence : Nat)
  deriving DecidableEq, Repr, Inhabited

namespace Payload

/-- How often an operation is done: a count of zero counts as one, and so does what is no count. -/
def repeats : Payload → Nat
  | count n => max n 1
  | _ => 1

/-- The text of the payload, if it is one. -/
def text? : Payload → Option Text
  | text t => some t
  | _ => none

theorem repeats_count {n : Nat} (h : 1 ≤ n) : (count n).repeats = n := Nat.max_eq_left h

theorem one_le_repeats (payload : Payload) : 1 ≤ payload.repeats := by
  cases payload with
  | count n => exact Nat.le_max_right n 1
  | text t => exact Nat.le_refl 1
  | pattern p n => exact Nat.le_refl 1

end Payload

/-- One step of a program. -/
structure Operation where
  kind : Kind
  target : Option Target := none
  movement : Option Movement := none
  payload : Payload := .count 1
  conversion : Option Conversion := none
  /-- whether a move extends the selection -/
  select : Bool := false
  /-- the line of the source, counted from 1 -/
  sourceLine : Nat
  deriving DecidableEq, Repr, Inhabited

namespace Operation

/-- How often the operation is done. -/
def repeats (operation : Operation) : Nat := operation.payload.repeats

end Operation

instance : Named Kind where
  all := [.move, .insertText, .copy, .paste, .select, .delete, .swapSelection, .find, .deselect,
    .pushPosition, .popPosition, .pushText, .popText, .pause, .finish, .convert]
  name
    | .move => "move".toList
    | .insertText => "insert-text".toList
    | .copy => "copy".toList
    | .paste => "paste".toList
    | .select => "select".toList
    | .delete => "delete".toList
    | .swapSelection => "swap-selection".toList
    | .find => "find".toList
    | .deselect => "deselect".toList
    | .pushPosition => "push-position".toList
    | .popPosition => "pop-position".toList
    | .pushText => "push-text".toList
    | .popText => "pop-text".toList
    | .pause => "pause".toList
    | .finish => "return".toList
    | .convert => "case-conversion".toList

instance : Named Target where
  all := [.character, .line, .trimmedLine, .emptyLine, .word, .selection, .forwardMatch,
    .backwardMatch]
  name
    | .character => "character".toList
    | .line => "line".toList
    | .trimmedLine => "trimmed-line".toList
    | .emptyLine => "empty-line".toList
    | .word => "word".toList
    | .selection => "selection".toList
    | .forwardMatch => "forward-match".toList
    | .backwardMatch => "backward-match".toList

instance : Named Movement where
  all := [.increment, .decrement, .start, .finish, .next, .previous, .forward, .backward,
    .matchInLine]
  name
    | .increment => "increment".toList
    | .decrement => "decrement".toList
    | .start => "start".toList
    | .finish => "end".toList
    | .next => "next".toList
    | .previous => "previous".toList
    | .forward => "forward".toList
    | .backward => "backward".toList
    | .matchInLine => "match-in-line".toList

theorem Kind.ofName?_name (kind : Kind) : Named.ofName? (Named.name kind) = some kind := by
  cases kind <;> decide

theorem Target.ofName?_name (target : Target) :
    Named.ofName? (Named.name target) = some target := by
  cases target <;> decide

theorem Movement.ofName?_name (movement : Movement) :
    Named.ofName? (Named.name movement) = some movement := by
  cases movement <;> decide

end EditPlayer
