import EditPlayer.Document.LineView
import EditPlayer.Document.Motion
set_option autoImplicit false

/-!
# Surfaces

A surface is whatever holds the document that a player edits.  It answers questions, and it performs
edits one at a time.  A surface may refuse an edit, and it may have changed nevertheless; a fault
ends everything.

The ranges of lines and the correspondence between positions and offsets are questions of their own.
A surface that says nothing about them has them from its lines.
-/

namespace EditPlayer

/-- An edit that a surface performs. -/
inductive Edit where
  | setSelection (selection : Selection)
  /-- put a text in place of a range; an empty range inserts -/
  | replace (range : Range) (text : Text)
  | writeClipboard (text : Text)
  /-- make a motion a number of times, and extend the selection if `select` is set -/
  | moveCursor (motion : Motion) (count : Nat) (select : Bool)
  | find (direction : Direction)
  deriving DecidableEq, Repr, Inhabited

/-- How an edit ends. -/
inductive Reply (σ ε : Type) where
  | done (surface : σ)
  | refused (error : ε) (surface : σ)
  | fault (cause : Fault)
  deriving Repr

namespace Reply

/-- Goes on after an edit that was done. -/
def andThen {σ ε : Type} (reply : Reply σ ε) (next : σ → Reply σ ε) : Reply σ ε :=
  match reply with
  | done surface => next surface
  | refused error surface => refused error surface
  | fault cause => fault cause

/-- A step made a number of times, up to the first that is not done. -/
def times {σ ε : Type} (step : σ → Reply σ ε) : Nat → σ → Reply σ ε
  | 0, surface => done surface
  | n + 1, surface => (step surface).andThen (times step n)

@[simp] theorem done_andThen {σ ε : Type} (surface : σ) (next : σ → Reply σ ε) :
    (done surface : Reply σ ε).andThen next = next surface := rfl

@[simp] theorem fault_andThen {σ ε : Type} (cause : Fault) (next : σ → Reply σ ε) :
    (fault cause : Reply σ ε).andThen next = fault cause := rfl

theorem times_succ {σ ε : Type} (step : σ → Reply σ ε) (n : Nat) (surface : σ) :
    times step (n + 1) surface = (step surface).andThen (times step n) := rfl

end Reply

/-- What can be asked of a surface with states `σ` and errors `ε`, and how it performs edits. -/
structure Surface (σ ε : Type) where
  selection : σ → Selection
  lines : σ → LineView
  /-- the text of a range, with the line breaks of the document -/
  textIn : σ → Range → Text
  /-- the range of the word that touches a position -/
  wordRangeAt : σ → Position → Option Range
  clipboard : σ → Option Text
  perform : Edit → σ → Reply σ ε
  /-- the whole range of the line of a position -/
  lineRangeAt : σ → Position → Option Range := fun state => (lines state).lineRangeAt
  /-- the range of the line of a position, without the blanks at its ends -/
  trimmedLineRangeAt : σ → Position → Option Range := fun state => (lines state).trimmedLineRangeAt
  /-- the offset of a position, which may be too large for a word -/
  offsetAt : σ → Position → Except Fault Nat := fun state => (lines state).checkedOffsetAt
  /-- the position of an offset; a surface that counts in words takes an offset beyond the largest
  word for that word -/
  positionAt : σ → Nat → Position := fun state => (lines state).positionAt

end EditPlayer
