import EditPlayer.Document.Edit
import EditPlayer.Player.Snapshot
import EditPlayer.Script.Compilation
import EditPlayer.Surface.Recorded
set_option autoImplicit false

/-!
# Sessions

A session is a recorded document and a player, driven step by step.  A step plays a script, edits or
looks at the document, or handles the state of the player.  A fault ends the session.
-/

namespace EditPlayer

/-- A recorded document and its player. -/
structure Session where
  state : Recorded Document
  player : Player := .fresh
  deriving Repr

namespace Session

/-- The recorded document as a surface. -/
def surface : Surface (Recorded Document) Text :=
  Document.surface.recorded OutOfBounds.message

/-- A session on a document, which refuses the edits with given numbers. -/
def start (document : Document) (refusals : List Nat) : Session :=
  { state := { inner := document, refusals } }

/-- The document of the session. -/
def document (session : Session) : Document := session.state.inner

/-- The session with its document changed outside the record. -/
def adjust (session : Session) (change : Document → Document) : Session :=
  { session with state := { session.state with inner := change session.state.inner } }

/-- What a session can be asked to do. -/
inductive Step where
  | playScript (settings : Settings) (source : Text)
  | playProgram (program : Program)
  | resetPause
  | newPlayer
  | snapshot
  | restore (snapshot : Snapshot)
  | withCursor (position : Position)
  | withSelection (selection : Selection)
  | withClipboard (text : Text)
  | perform (edit : Edit)
  | textIn (range : Range)
  | wordRangeAt (position : Position)
  | lineRangeAt (position : Position)
  | trimmedLineRangeAt (position : Position)
  | offsetAt (position : Position)
  | positionAt (offset : Nat)
  | lineText (line : Nat)
  | lineCount
  deriving Repr

/-- What a step answers. -/
inductive Answer where
  | done
  | played (outcome : Outcome)
  | rejected (rejection : Rejection)
  | refused (message : Text)
  | snapshot (snapshot : Snapshot)
  | text (text : Option Text)
  | range (range : Option Range)
  | number (n : Nat)
  | position (position : Position)
  deriving Repr

/-- Plays a program. -/
def play (program : Program) (session : Session) : Except Fault (Answer × Session) :=
  (session.player.play surface program session.state).map fun (outcome, player, state) =>
    (.played outcome, { state, player })

/-- Takes a step. -/
def take (step : Step) (session : Session) : Except Fault (Answer × Session) :=
  let lines := session.document.view
  match step with
  | .playScript settings source =>
      match (Script.compile settings source).load with
      | .error rejection => .ok (.rejected rejection, session)
      | .ok program => session.play program
  | .playProgram program => session.play program
  | .resetPause => .ok (.done, { session with player := session.player.resetPause })
  | .newPlayer => .ok (.done, { session with player := .fresh })
  | .snapshot => .ok (.snapshot session.player.snapshot, session)
  | .restore snapshot => .ok (.done, { session with player := .ofSnapshot snapshot })
  | .withCursor position => .ok (.done, session.adjust (·.withCursor position))
  | .withSelection selection => .ok (.done, session.adjust (·.withSelection selection))
  | .withClipboard text => .ok (.done, session.adjust (·.withClipboard text))
  | .perform edit =>
      match surface.perform edit session.state with
      | .done state => .ok (.done, { session with state })
      | .refused message state => .ok (.refused message, { session with state })
      | .fault cause => .error cause
  | .textIn range => .ok (.text (some (session.document.textIn range)), session)
  | .wordRangeAt position => .ok (.range (session.document.wordRangeAt position), session)
  | .lineRangeAt position => .ok (.range (lines.lineRangeAt position), session)
  | .trimmedLineRangeAt position => .ok (.range (lines.trimmedLineRangeAt position), session)
  -- the position need not lie in the document, so its offset may be larger than a word
  | .offsetAt position => (lines.checkedOffsetAt position).map fun n => (.number n, session)
  | .positionAt offset => .ok (.position (lines.positionAt offset), session)
  | .lineText line => .ok (.text (lines.line? line), session)
  | .lineCount => .ok (.number lines.count, session)

/-- The session with an empty record. -/
def clearCalls (session : Session) : Session :=
  { session with state := { session.state with calls := [] } }

/-- Takes steps up to the first that ends in a fault, and gives the answer to each with the session
after it. -/
def takeAll : List Step → Session → List (Except Fault (Answer × Session))
  | [], _ => []
  | step :: rest, session =>
      match session.clearCalls.take step with
      | .error cause => [.error cause]
      | .ok (answer, session) => .ok (answer, session) :: takeAll rest session

end Session

end EditPlayer
