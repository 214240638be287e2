import EditPlayer.Player.Execute
import EditPlayer.Script.Program
set_option autoImplicit false

/-!
# The player

A player runs a program on a surface until the program ends, returns or pauses.  After a pause the
next run of the same program goes on behind the pause with the memory as it was; any other run
starts at the beginning with an empty memory.  What the surface refuses is passed over.
-/

namespace EditPlayer

/-- How a run ended. -/
inductive Outcome where
  /-- all operations have been executed -/
  | completed
  /-- an operation ended the run -/
  | returned
  /-- the pause with this index suspended the run -/
  | paused (index : Nat)
  deriving DecidableEq, Repr, Inhabited

namespace Outcome

/-- Whether the next run goes on where this one stopped. -/
def isSuspended : Outcome → Bool
  | paused _ => true
  | _ => false

end Outcome

/-- What a player keeps between runs. -/
structure Player where
  memory : Player.Memory := {}
  /-- the index of the pause at which a run is suspended -/
  pauseIndex : Option Nat := none
  /-- the digest of the suspended program -/
  pausedDigest : Option Text := none
  deriving DecidableEq, Repr, Inhabited

namespace Player

variable {σ ε : Type}

/-- A player that remembers nothing. -/
def fresh : Player := {}

/-- The player without its pause. -/
def resetPause (player : Player) : Player :=
  { player with pauseIndex := none, pausedDigest := none }

/-- The player without a pause that belongs to another program. -/
def dropForeignPause (player : Player) (digest : Text) : Player :=
  if player.pauseIndex.isSome && player.pausedDigest != some digest then player.resetPause
  else player

/-- Executes operations, the first of which has a given index, up to a pause or the end. -/
def run (surface : Surface σ ε) (index : Nat) (operations : List Operation) (memory : Memory)
    (state : σ) : Except Fault (Outcome × Memory × σ) :=
  match operations with
  | [] => .ok (.completed, memory, state)
  | operation :: rest =>
      if operation.kind = .pause then .ok (.paused index, memory, state)
      else if operation.kind = .finish then .ok (.returned, memory, state)
      else
        match execute surface operation memory state with
        | (memory, .done state) | (memory, .refused _ state) =>
            run surface (index + 1) rest memory state
        | (_, .fault cause) => .error cause

@[simp] theorem run_nil (surface : Surface σ ε) (index : Nat) (memory : Memory) (state : σ) :
    run surface index [] memory state = .ok (.completed, memory, state) := rfl

/-- A pause ends a run before anything else is executed. -/
theorem run_pause (surface : Surface σ ε) (index : Nat) {operation : Operation}
    (h : operation.kind = .pause) (rest : List Operation) (memory : Memory) (state : σ) :
    run surface index (operation :: rest) memory state = .ok (.paused index, memory, state) := by
  rw [run, if_pos h]

/-- The end of a program ends a run before anything else is executed. -/
theorem run_finish (surface : Surface σ ε) (index : Nat) {operation : Operation}
    (h : operation.kind = .finish) (rest : List Operation) (memory : Memory) (state : σ) :
    run surface index (operation :: rest) memory state = .ok (.returned, memory, state) := by
  have hne : ¬ operation.kind = .pause := by simp [h]
  rw [run, if_neg hne, if_pos h]

/-- A run goes on after an operation that neither pauses nor ends it, unless that operation breaks
off. -/
theorem run_cons (surface : Surface σ ε) (index : Nat) {operation : Operation}
    (hpause : operation.kind ≠ .pause) (hfinish : operation.kind ≠ .finish)
    (rest : List Operation) (memory : Memory) (state : σ) :
    run surface index (operation :: rest) memory state =
      match execute surface operation memory state with
      | (memory, .done state) | (memory, .refused _ state) =>
          run surface (index + 1) rest memory state
      | (_, .fault cause) => .error cause := by
  rw [run, if_neg hpause, if_neg hfinish]

/-- Where a run starts and with which memory, for a player whose pause, if any, belongs to the
program. -/
def entry (player : Player) : Except Fault (Nat × Player) :=
  match player.pauseIndex with
  | some index =>
      if index + 1 < wordLimit then .ok (index + 1, player.resetPause) else .error .resumeOverflow
  | none => .ok (0, { player with memory := {} })

/-- The player after a run. -/
def settle (player : Player) (digest : Text) (memory : Memory) : Outcome → Player
  | .paused index => { memory, pauseIndex := some index, pausedDigest := some digest }
  | _ => { player with memory }

@[simp] theorem settle_memory (player : Player) (digest : Text) (memory : Memory)
    (outcome : Outcome) : (player.settle digest memory outcome).memory = memory := by
  cases outcome <;> rfl

/-- Runs a program on a surface.  An empty program changes nothing. -/
def play (surface : Surface σ ε) (program : Program) (player : Player) (state : σ) :
    Except Fault (Outcome × Player × σ) :=
  if program.operations.isEmpty then .ok (.completed, player, state)
  else
    match (player.dropForeignPause program.digest).entry with
    | .error cause => .error cause
    | .ok (start, player) =>
        match run surface start (program.operations.drop start) player.memory state with
        | .error cause => .error cause
        | .ok (outcome, memory, state) =>
            .ok (outcome, player.settle program.digest memory outcome, state)

/-- Playing an empty program changes nothing. -/
theorem play_empty (surface : Surface σ ε) {program : Program} (h : program.operations = [])
    (player : Player) (state : σ) :
    player.play surface program state = .ok (.completed, player, state) := by
  simp [play, h]

/-- A play is a run from its entry. -/
theorem play_of_entry (surface : Surface σ ε) {program : Program} (hne : program.operations ≠ [])
    {player entered : Player} {start : Nat}
    (hentry : (player.dropForeignPause program.digest).entry = .ok (start, entered)) (state : σ) :
    player.play surface program state =
      match run surface start (program.operations.drop start) entered.memory state with
      | .error cause => .error cause
      | .ok (outcome, memory, state) =>
          .ok (outcome, entered.settle program.digest memory outcome, state) := by
  have hempty : program.operations.isEmpty = false := by simpa using hne
  rw [play, hempty, hentry]
  rfl

/-- A play that cannot enter its program breaks off. -/
theorem play_of_entry_error (surface : Surface σ ε) {program : Program}
    (hne : program.operations ≠ []) {player : Player} {cause : Fault}
    (hentry : (player.dropForeignPause program.digest).entry = .error cause) (state : σ) :
    player.play surface program state = .error cause := by
  have hempty : program.operations.isEmpty = false := by simpa using hne
  rw [play, hempty, hentry]
  rfl

end Player

end EditPlayer
