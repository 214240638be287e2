import EditPlayer.Operation.Basic
import EditPlayer.Surface.Basic
import EditPlayer.Text.Search
set_option autoImplicit false

/-!
# Moves of the cursor

Steps by a character or a line, and to the ends of a line, are motions that the surface makes
itself.  Going to the ends of a word, from word to word, by a number of characters, or to an
occurrence of a pattern is worked out here from the text that the surface shows, and ends in setting
the selection.  A move whose target and direction do not go together changes nothing.
-/

namespace EditPlayer.Player

variable {σ ε : Type}

/-- Puts the cursor at a position, with the anchor where it was if the selection is extended. -/
def moveActive (surface : Surface σ ε) (place : Position) (select : Bool) (state : σ) : Reply σ ε :=
  let anchor := if select then (surface.selection state).anchor else place
  surface.perform (.setSelection ⟨anchor, place⟩) state

/-- Goes to the start or the end of the word at the cursor. -/
def moveToWordEdge (surface : Surface σ ε) (edge : Range → Position) (select : Bool) (state : σ) :
    Reply σ ε :=
  match surface.wordRangeAt state (surface.selection state).active with
  | some range => moveActive surface (edge range) select state
  | none => .done state

/-- The column of the nearest word that begins beyond a column, in the direction of the move. -/
def nextWordColumn? (line : Text) (column : Nat) : Text.Course → Option Nat
  | .forward => line.wordStarts.find? fun start => decide (column < start)
  | .backward => line.wordStarts.reverse.find? fun start => decide (start < column)

/-- Goes to the next word on the line, or to the one before. -/
def stepWord (surface : Surface σ ε) (course : Text.Course) (select : Bool) (state : σ) :
    Reply σ ε :=
  let cursor := (surface.selection state).active
  match ((surface.lines state).line? cursor.line).bind (nextWordColumn? · cursor.column course) with
  | some column => moveActive surface ⟨cursor.line, column⟩ select state
  | none => .done state

/-- Goes on by a number of characters, or back if it is negative, as far as the document reaches. -/
def moveByOffset (surface : Surface σ ε) (distance : Int) (select : Bool) (state : σ) :
    Reply σ ε :=
  match surface.offsetAt state (surface.selection state).active with
  | .ok offset =>
      moveActive surface (surface.positionAt state ((offset : Int) + distance).toNat) select state
  | .error cause => .fault cause

/-- The lines that a search for a pattern goes through, the line of the cursor first. -/
def searchLines (lines : LineView) (cursor : Nat) : Text.Course → List Nat
  | .forward => (List.range (lines.lastLine + 1)).drop cursor
  | .backward => (List.range (min cursor lines.lastLine + 1)).reverse

/-- Where the `n`-th occurrence of a pattern is on the nearest line that has so many. -/
def patternRange? (lines : LineView) (cursor : Nat) (pattern : Text) (n : Nat)
    (course : Text.Course) : Option Range :=
  if pattern.isEmpty then none
  else
    (searchLines lines cursor course).findSome? fun line =>
      ((lines.line? line).bind fun text => Text.nthOccurrence? pattern text n course).map
        fun column => ⟨⟨line, column⟩, ⟨line, column + pattern.length⟩⟩

/-- Goes to an occurrence of a pattern, and selects it if `select` is set. -/
def moveToPattern (surface : Surface σ ε) (pattern : Text) (n : Nat) (course : Text.Course)
    (select : Bool) (state : σ) : Reply σ ε :=
  let cursor := (surface.selection state).active.line
  match patternRange? (surface.lines state) cursor pattern n course with
  | some range =>
      surface.perform
        (.setSelection (if select then ⟨range.start, range.stop⟩ else .caret range.start)) state
  | none => .done state

/-- The move of an operation with a target and a direction. -/
def moveTo (surface : Surface σ ε) (target : Target) (movement : Movement) (payload : Payload)
    (select : Bool) (state : σ) : Reply σ ε :=
  let count := payload.repeats
  let motion (motion : Motion) (count : Nat) : σ → Reply σ ε :=
    surface.perform (.moveCursor motion count select)
  match target, movement with
  | .character, .increment => motion .right count state
  | .character, .decrement => motion .left count state
  | .line, .increment => motion .down count state
  | .line, .decrement => motion .up count state
  | .line, .start => motion .lineStart 1 state
  | .line, .finish => motion .lineEnd 1 state
  | .trimmedLine, .start => motion .firstNonBlank 1 state
  | .trimmedLine, .finish => motion .lastNonBlank 1 state
  | .emptyLine, .next => Reply.times (motion .nextBlankLine 1) count state
  | .emptyLine, .previous => Reply.times (motion .previousBlankLine 1) count state
  | .word, .start => moveToWordEdge surface Range.start select state
  | .word, .finish => moveToWordEdge surface Range.stop select state
  | .word, .next => Reply.times (stepWord surface .forward select) count state
  | .word, .previous => Reply.times (stepWord surface .backward select) count state
  | _, .forward => moveByOffset surface (signedWord count) select state
  | _, .backward =>
      if count = signLimit then .fault .negationOverflow
      else moveByOffset surface (-signedWord count) select state
  | .forwardMatch, .matchInLine =>
      match payload with
      | .pattern pattern n => moveToPattern surface pattern n .forward select state
      | _ => .done state
  | .backwardMatch, .matchInLine =>
      match payload with
      | .pattern pattern n => moveToPattern surface pattern n .backward select state
      | _ => .done state
  | _, _ => .done state

/-- The move of an operation; without a target or a direction nothing happens. -/
def move (surface : Surface σ ε) (operation : Operation) (state : σ) : Reply σ ε :=
  match operation.target, operation.movement with
  | some target, some movement =>
      moveTo surface target movement operation.payload operation.select state
  | _, _ => .done state

end EditPlayer.Player
