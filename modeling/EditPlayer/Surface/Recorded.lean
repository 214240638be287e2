import EditPlayer.Surface.Basic
set_option autoImplicit false

/-!
# Recorded surfaces

A recorded surface stands in front of another surface.  It numbers the edits that are asked of it,
refuses those with given numbers without passing them on, and keeps a record of every edit with the
words of its refusal.
-/

namespace EditPlayer

/-- An edit that was asked for, and why it was refused. -/
structure Call where
  edit : Edit
  refusal : Option Text
  deriving DecidableEq, Repr, Inhabited

/-- The state of a recorded surface. -/
structure Recorded (σ : Type) where
  /-- the state of the surface behind it -/
  inner : σ
  /-- the numbers of the edits to refuse -/
  refusals : List Nat
  /-- how many edits have been asked for -/
  asked : Nat := 0
  /-- the edits since the record was cleared -/
  calls : List Call := []
  deriving Repr

namespace Recorded

/-- The words of a refusal by the record itself. -/
def refusedMessage : Text := "refused".toList

/-- The state after an edit has been asked for. -/
def note {σ : Type} (state : Recorded σ) (inner : σ) (edit : Edit) (refusal : Option Text) :
    Recorded σ :=
  { state with inner, asked := state.asked + 1, calls := state.calls ++ [⟨edit, refusal⟩] }

/-- Asks the surface behind for an edit, unless its number is to be refused. -/
def perform {σ ε : Type} (surface : Surface σ ε) (message : ε → Except Fault Text) (edit : Edit)
    (state : Recorded σ) : Reply (Recorded σ) Text :=
  if state.refusals.contains state.asked then
    .refused refusedMessage (state.note state.inner edit (some refusedMessage))
  else
    match surface.perform edit state.inner with
    | .done inner => .done (state.note inner edit none)
    | .refused error inner =>
        match message error with
        | .ok text => .refused text (state.note inner edit (some text))
        | .error cause => .fault cause
    | .fault cause => .fault cause

end Recorded

/-- The recorded surface in front of a surface whose refusals have words. -/
def Surface.recorded {σ ε : Type} (surface : Surface σ ε) (message : ε → Except Fault Text) :
    Surface (Recorded σ) Text where
  selection state := surface.selection state.inner
  lines state := surface.lines state.inner
  textIn state := surface.textIn state.inner
  wordRangeAt state := surface.wordRangeAt state.inner
  clipboard state := surface.clipboard state.inner
  perform := Recorded.perform surface message
  lineRangeAt state := surface.lineRangeAt state.inner
  trimmedLineRangeAt state := surface.trimmedLineRangeAt state.inner
  offsetAt state := surface.offsetAt state.inner
  positionAt state := surface.positionAt state.inner

end EditPlayer
