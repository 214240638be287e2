import EditPlayer.Player.Move
set_option autoImplicit false

/-!
# Executing an operation

An operation works on the surface and on the memory of the player, two stacks of positions and of
texts.  The memory after an operation does not depend on whether the surface refuses an edit: a
position or a text is taken from its stack before it is used.
-/

namespace EditPlayer.Player

variable {σ ε : Type}

/-- What a player remembers, newest first. -/
structure Memory where
  positions : List Position := []
  texts : List Text := []
  deriving DecidableEq, Repr, Inhabited

/-- Inserts a text at the cursor, or puts it in place of the selection. -/
def insertOrReplace (surface : Surface σ ε) (text : Text) (state : σ) : Reply σ ε :=
  surface.perform (.replace (surface.selection state).range text) state

/-- The range that a target stands for at the cursor; no target is the selection. -/
def targetRange? (surface : Surface σ ε) (target : Option Target) (state : σ) : Option Range :=
  let selection := surface.selection state
  match target with
  | none | some .selection => some selection.range
  | some .word => surface.wordRangeAt state selection.active
  | some .line => surface.lineRangeAt state selection.active
  | some .trimmedLine => surface.trimmedLineRangeAt state selection.active
  | some _ => none

/-- The position behind a text that was inserted at a position. -/
def endOfInserted (start : Position) (text : Text) : Position :=
  let lines := text.splitOn '\n'
  match lines with
  | [] | [_] => ⟨start.line, start.column + text.length⟩
  | _ =>
      ⟨start.line + (lines.length - 1),
        ((lines.getLast?.getD []).trimEndWhere (· == '\r')).length⟩

/-- Converts the selected text and selects what came of it. -/
def convertSelection (surface : Surface σ ε) (conversion : Conversion) (state : σ) : Reply σ ε :=
  let selection := surface.selection state
  if selection.isEmpty then .done state
  else
    let range := selection.range
    let converted := conversion.apply (surface.textIn state range)
    (surface.perform (.replace range converted) state).andThen
      (surface.perform (.setSelection ⟨range.start, endOfInserted range.start converted⟩))

/-- Executes an operation that is neither a pause nor the end of a run. -/
def execute (surface : Surface σ ε) (operation : Operation) (memory : Memory) (state : σ) :
    Memory × Reply σ ε :=
  let selection := surface.selection state
  match operation.kind with
  | .move => (memory, move surface operation state)
  | .insertText =>
      match operation.payload.text? with
      | some text => (memory, insertOrReplace surface text state)
      | none => (memory, .done state)
  | .copy =>
      match targetRange? surface operation.target state with
      | some range =>
          if range.isEmpty then (memory, .done state)
          else (memory, surface.perform (.writeClipboard (surface.textIn state range)) state)
      | none => (memory, .done state)
  | .paste =>
      match surface.clipboard state with
      | some text =>
          if text.isEmpty then (memory, .done state)
          else (memory, insertOrReplace surface text state)
      | none => (memory, .done state)
  | .select =>
      match targetRange? surface operation.target state with
      | some range => (memory, surface.perform (.setSelection ⟨range.start, range.stop⟩) state)
      | none => (memory, .done state)
  | .delete =>
      if selection.isEmpty then (memory, .done state)
      else (memory, surface.perform (.replace selection.range []) state)
  | .swapSelection =>
      if selection.isEmpty then (memory, .done state)
      else (memory, surface.perform (.setSelection selection.swapped) state)
  | .find =>
      let direction : Direction :=
        if operation.movement = some .previous then .previous else .next
      (memory, Reply.times (surface.perform (.find direction)) operation.repeats state)
  | .deselect =>
      if selection.isEmpty then (memory, .done state)
      else
        let place := if operation.movement = some .finish then selection.stop else selection.start
        (memory, surface.perform (.setSelection (.caret place)) state)
  | .pushPosition =>
      ({ memory with positions := selection.active :: memory.positions }, .done state)
  | .popPosition =>
      match memory.positions with
      | [] => (memory, .done state)
      | position :: rest =>
          let popped : Selection :=
            if operation.select then ⟨selection.active, position⟩ else .caret position
          ({ memory with positions := rest }, surface.perform (.setSelection popped) state)
  | .pushText =>
      match targetRange? surface operation.target state with
      | some range =>
          ({ memory with texts := surface.textIn state range :: memory.texts }, .done state)
      | none => (memory, .done state)
  | .popText =>
      match memory.texts with
      | [] => (memory, .done state)
      | text :: rest => ({ memory with texts := rest }, insertOrReplace surface text state)
  | .convert =>
      match operation.conversion with
      | some conversion => (memory, convertSelection surface conversion state)
      | none => (memory, .done state)
  | .pause | .finish => (memory, .done state)

end EditPlayer.Player
