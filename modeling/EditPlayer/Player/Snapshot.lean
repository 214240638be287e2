import EditPlayer.Player.Basic
set_option autoImplicit false

/-!
# Snapshots of a player

A snapshot holds what a player keeps between runs in a form that can be stored: what was
remembered first comes first.  `ofSnapshot_snapshot` says that a player is restored from
its snapshot.
-/

namespace EditPlayer

/-- The state of a player, for storing. -/
structure Snapshot where
  /-- the remembered positions, oldest first -/
  positionStack : List Position
  /-- the remembered texts, oldest first -/
  textStack : List Text
  pauseIndex : Option Nat
  pausedDigest : Option Text
  deriving DecidableEq, Repr, Inhabited

/-- The snapshot of a player. -/
def Player.snapshot (player : Player) : Snapshot :=
  { positionStack := player.memory.positions.reverse
    textStack := player.memory.texts.reverse
    pauseIndex := player.pauseIndex
    pausedDigest := player.pausedDigest }

/-- The player of a snapshot. -/
def Player.ofSnapshot (snapshot : Snapshot) : Player :=
  { memory := ⟨snapshot.positionStack.reverse, snapshot.textStack.reverse⟩
    pauseIndex := snapshot.pauseIndex
    pausedDigest := snapshot.pausedDigest }

/-- A player is restored from its snapshot. -/
@[simp] theorem Player.ofSnapshot_snapshot (player : Player) :
    Player.ofSnapshot player.snapshot = player := by
  simp [Player.ofSnapshot, Player.snapshot]

namespace Snapshot

/-- A snapshot as JSON. -/
def toJson (snapshot : Snapshot) : Json :=
  .record
    [("position_stack", .ofList Position.toJson snapshot.positionStack),
     ("text_stack", .ofList Json.ofText snapshot.textStack),
     ("pause_index", .ofOption Json.ofNat snapshot.pauseIndex),
     ("paused_digest", .ofOption Json.ofText snapshot.pausedDigest)]

/-- The snapshot that a JSON value is written for. -/
def ofJson? (json : Json) : Option Snapshot :=
  match json.record? ["position_stack", "text_stack", "pause_index", "paused_digest"] with
  | some [positionStack, textStack, pauseIndex, pausedDigest] => do
      let positionStack ← Json.required (Json.list? Position.ofJson?) positionStack
      let textStack ← Json.required (Json.list? Json.text?) textStack
      let pauseIndex ← Json.optional Json.nat? pauseIndex
      let pausedDigest ← Json.optional Json.text? pausedDigest
      some { positionStack, textStack, pauseIndex, pausedDigest }
  | _ => none

end Snapshot

namespace Outcome

/-- An outcome as JSON. -/
def toJson : Outcome → Json
  | completed => .ofText "Completed".toList
  | returned => .ofText "Returned".toList
  | paused index => .record [("Paused", .record [("index", .ofNat index)])]

/-- The index of a pause from its data. -/
def pauseOfJson? (json : Json) : Option Outcome :=
  match json.record? ["index"] with
  | some [index] => (Json.required Json.nat? index).map paused
  | _ => none

/-- The outcome that a JSON value is written for. -/
def ofJson? (json : Json) : Option Outcome :=
  if json.variant? = some "Completed".toList then some completed
  else if json.variant? = some "Returned".toList then some returned
  else
    match json with
    | .object [(some name, data)] =>
        if name = "Paused".toList then pauseOfJson? data else none
    | _ => none

end Outcome

end EditPlayer
