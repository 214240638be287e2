import EditPlayer.Proofs.ControlFlow
set_option autoImplicit false

/-!
# The pause of a player

The pause that a player keeps is read off what has happened to it: the latest event counts, plays of
empty programs left out.  A pause is pending just if that event is a play which was suspended
(`Lived.pause_eq`), and the next play goes on behind it just if the program has the same digest.
`Lived.pause_state` puts this together.

The events of a player are its plays, each on a surface of its own, and the resets of its pause.
-/

namespace EditPlayer.Player

open Operation

/-! ## Events -/

/-- What happens to a player. -/
inductive Event where
  /-- a program was played and ended so -/
  | played (program : Program) (outcome : Outcome)
  /-- the pause was reset -/
  | reset
  deriving DecidableEq, Repr, Inhabited

/-- Whether the event is a play of an empty program. -/
def Event.isEmptyPlay : Event → Bool
  | played program _ => program.operations.isEmpty
  | reset => false

/-- The players that come of a new one, each with the events that led to it, the latest first. -/
inductive Lived : List Event → Player → Prop where
  | fresh : Lived [] .fresh
  | play {σ ε : Type} {surface : Surface σ ε} {program : Program} {events : List Event}
      {player after : Player} {state final : σ} {outcome : Outcome} (h : Lived events player)
      (hplay : player.play surface program state = .ok (outcome, after, final)) :
      Lived (.played program outcome :: events) after
  | resetPause {events : List Event} {player : Player} (h : Lived events player) :
      Lived (.reset :: events) player.resetPause

/-- The latest event that is no play of an empty program. -/
def latest? (events : List Event) : Option Event := events.find? fun event => !event.isEmptyPlay

/-- The pause that is pending after events, with its program. -/
def pending? (events : List Event) : Option (Program × Nat) :=
  match latest? events with
  | some (.played program (.paused index)) => some (program, index)
  | _ => none

theorem pending?_eq_some_iff {events : List Event} {program : Program} {index : Nat} :
    pending? events = some (program, index) ↔
      latest? events = some (.played program (.paused index)) := by
  unfold pending?
  split
  · rename_i heq
    rw [heq]
    simp
  · rename_i hother
    constructor
    · intro h
      cases h
    · intro h
      exact absurd h (hother program index)

/-- A play of an empty program is passed over. -/
theorem pending?_empty {program : Program} (h : program.operations = []) (outcome : Outcome)
    (events : List Event) : pending? (.played program outcome :: events) = pending? events := by
  have hempty : (Event.played program outcome).isEmptyPlay = true := by simp [Event.isEmptyPlay, h]
  simp [pending?, latest?, hempty]

theorem pending?_played {program : Program} (h : program.operations ≠ []) (outcome : Outcome)
    (events : List Event) :
    pending? (.played program outcome :: events) =
      match outcome with
      | .paused index => some (program, index)
      | _ => none := by
  have hother : (Event.played program outcome).isEmptyPlay = false := by
    simp [Event.isEmptyPlay, h]
  simp only [pending?, latest?, List.find?_cons, hother, Bool.not_false]
  cases outcome <;> rfl

/-! ## The pause that is kept -/

/-- A player that keeps an index and a digest only together enters a program without either. -/
theorem unpaused_of_entry {player entered : Player} {digest : Text} {start : Nat}
    (hboth : player.pauseIndex.isSome = player.pausedDigest.isSome)
    (h : (player.dropForeignPause digest).entry = .ok (start, entered)) :
    entered.pauseIndex = none ∧ entered.pausedDigest = none := by
  unfold dropForeignPause at h
  split at h
  · cases h
    exact ⟨rfl, rfl⟩
  · unfold entry at h
    split at h
    · split at h
      · cases h
        exact ⟨rfl, rfl⟩
      · cases h
    · rename_i hnone
      cases h
      refine ⟨hnone, ?_⟩
      rw [hnone] at hboth
      simpa using hboth.symm

/-- The player keeps the pause that is pending. -/
theorem Lived.pause_eq {events : List Event} {player : Player} (h : Lived events player) :
    player.pauseIndex = (pending? events).map (·.2) ∧
      player.pausedDigest = (pending? events).map (·.1.digest) := by
  induction h with
  | fresh => exact ⟨rfl, rfl⟩
  | @play σ ε surface program events player after state final outcome _ hplay ih =>
    by_cases hnil : program.operations = []
    · rw [play_empty surface hnil] at hplay
      cases hplay
      rw [pending?_empty hnil]
      exact ih
    · obtain ⟨start, entered, hentry, -, -, hafter⟩ := eq_of_play hnil hplay
      have hboth : player.pauseIndex.isSome = player.pausedDigest.isSome := by
        rw [ih.1, ih.2, Option.isSome_map, Option.isSome_map]
      have hunpaused := unpaused_of_entry hboth hentry
      rw [pending?_played hnil, hafter]
      cases outcome with
      | paused index => exact ⟨rfl, rfl⟩
      | completed => exact hunpaused
      | returned => exact hunpaused
  | resetPause => exact ⟨rfl, rfl⟩

/-- The pause that is pending is an operation of its program. -/
theorem Lived.exists_pause {events : List Event} {player : Player} (h : Lived events player)
    {program : Program} {index : Nat} (hpending : pending? events = some (program, index)) :
    ∃ operation, program.operations[index]? = some operation ∧ operation.kind = .pause := by
  induction h with
  | fresh => cases hpending
  | @play σ ε surface played events player after state final outcome _ hplay ih =>
    by_cases hnil : played.operations = []
    · rw [pending?_empty hnil] at hpending
      exact ih hpending
    · obtain ⟨start, entered, -, houtcome, -, -⟩ := eq_of_play hnil hplay
      rw [pending?_played hnil] at hpending
      cases outcome with
      | paused i =>
        cases hpending
        exact exists_pause_of_outcomeFrom houtcome.symm
      | completed => cases hpending
      | returned => cases hpending
  | resetPause => cases hpending

/-- Where the next play starts, and with which memory. -/
theorem Lived.startOf_eq {events : List Event} {player : Player} (h : Lived events player)
    (digest : Text) :
    player.startOf digest =
      match pending? events with
      | some (program, index) =>
          if program.digest = digest then (index + 1, player.memory) else (0, {})
      | none => (0, {}) := by
  obtain ⟨hindex, hdigest⟩ := h.pause_eq
  rw [startOf, hindex, hdigest]
  cases pending? events with
  | none => rfl
  | some pause => simp

/-! ## The next play -/

/-- What a play gives, with the memory in place of the player. -/
def playMemory {σ ε : Type} (surface : Surface σ ε) (program : Program) (player : Player)
    (state : σ) : Except Fault (Outcome × Memory × σ) :=
  (player.play surface program state).map fun (outcome, after, state) =>
    (outcome, after.memory, state)

/-- A play of operations goes through them from its start, if that index fits into a word. -/
theorem playMemory_eq {σ ε : Type} (surface : Surface σ ε) {program : Program}
    (hne : program.operations ≠ []) (player : Player) (state : σ) :
    player.playMemory surface program state =
      if (player.startOf program.digest).1 < wordLimit then
        playFrom surface program.operations (player.startOf program.digest).1
          (player.startOf program.digest).2 state
      else .error .resumeOverflow := by
  unfold playMemory
  cases hentry : (player.dropForeignPause program.digest).entry with
  | error cause =>
    have hstart := entry_eq player program.digest
    rw [hentry] at hstart
    split at hstart
    · cases hstart
    · rename_i hlimit
      cases hstart
      rw [play_of_entry_error surface hne hentry, if_neg hlimit]
      rfl
  | ok result =>
    obtain ⟨start, entered⟩ := result
    obtain ⟨hentered, hlimit⟩ := startOf_of_entry hentry
    rw [hentered, if_pos hlimit, play_of_entry surface hne hentry, run_eq_playFrom]
    cases playFrom surface program.operations start entered.memory state with
    | error cause => rfl
    | ok result =>
      obtain ⟨outcome, memory, final⟩ := result
      cases outcome <;> rfl

/-- The pause of a player after any plays and resets.  Its index and its digest are kept together.
They are there just if the latest event, plays of empty programs left out, is a play that was
suspended, and then they are the index of that pause and the digest of its program.  The next play
of operations goes on behind the pause with what is remembered if the program has that digest; it
starts at the first operation with nothing remembered in all other cases.  A play of an empty
program changes nothing. -/
theorem Lived.pause_state (events : List Event) (player : Player) (h : Lived events player) :
    player.pauseIndex.isSome = player.pausedDigest.isSome ∧
      (∀ index digest,
        player.pauseIndex = some index ∧ player.pausedDigest = some digest ↔
          ∃ program, latest? events = some (.played program (.paused index)) ∧
            program.digest = digest) ∧
      (∀ program index, latest? events = some (.played program (.paused index)) →
        ∃ operation, program.operations[index]? = some operation ∧ operation.kind = .pause) ∧
      ∀ {σ ε : Type} (surface : Surface σ ε) (program : Program) (state : σ),
        (program.operations = [] →
          player.play surface program state = .ok (.completed, player, state)) ∧
        (program.operations ≠ [] →
          (∀ suspended index, latest? events = some (.played suspended (.paused index)) →
            suspended.digest = program.digest →
            player.playMemory surface program state =
              if index + 1 < wordLimit then
                playFrom surface program.operations (index + 1) player.memory state
              else .error .resumeOverflow) ∧
          ((∀ suspended index, latest? events = some (.played suspended (.paused index)) →
              suspended.digest ≠ program.digest) →
            player.playMemory surface program state =
              playFrom surface program.operations 0 {} state)) := by
  obtain ⟨hindex, hdigest⟩ := h.pause_eq
  simp only [← pending?_eq_some_iff]
  refine ⟨?_, ?_, fun program index hpending => h.exists_pause hpending, ?_⟩
  · rw [hindex, hdigest, Option.isSome_map, Option.isSome_map]
  · intro index digest
    rw [hindex, hdigest]
    cases pending? events with
    | none => simp
    | some pause =>
      obtain ⟨program, i⟩ := pause
      simp only [Option.map_some, Option.some.injEq, Prod.mk.injEq]
      constructor
      · rintro ⟨rfl, rfl⟩
        exact ⟨program, ⟨rfl, rfl⟩, rfl⟩
      · rintro ⟨_, ⟨rfl, rfl⟩, rfl⟩
        exact ⟨rfl, rfl⟩
  · intro σ ε surface program state
    refine ⟨fun hnil => play_empty surface hnil player state, fun hne => ⟨?_, ?_⟩⟩
    · intro suspended index hpending hsame
      have hstart := h.startOf_eq program.digest
      simp only [hpending, hsame, if_true] at hstart
      rw [playMemory_eq surface hne, hstart]
    · intro hforeign
      have hstart : player.startOf program.digest = (0, {}) := by
        rw [h.startOf_eq]
        cases hpending : pending? events with
        | none => rfl
        | some pause => exact if_neg (hforeign pause.1 pause.2 hpending)
      have hlimit : 0 < wordLimit := by decide
      rw [playMemory_eq surface hne, hstart, if_pos hlimit]

/-- A player that was suspended twice by the same program, the second time on a surface that refused
an edit, and played an empty program afterwards. -/
theorem pause_state_suspended :
    ∃ player,
      Lived
          [.played ⟨[], []⟩ .completed, .played betweenPauses (.paused 3),
            .played betweenPauses (.paused 0), .reset]
          player ∧
        player.pauseIndex = some 3 ∧ player.pausedDigest = some ['d'] := by
  have hreset : Lived [.reset] (resetPause .fresh) := .resetPause .fresh
  have hfirst := hreset.play
    (rfl : play Document.surface betweenPauses (resetPause .fresh) (Document.ofText ['a']) = _)
  have hsecond := hfirst.play
    (rfl : play (Document.surface.recorded OutOfBounds.message) betweenPauses _
      { inner := Document.ofText ['a'], refusals := [0] } = _)
  have hempty := hsecond.play
    (rfl : play Document.surface ⟨[], []⟩ _ (Document.ofText []) = _)
  obtain ⟨-, hpause, -⟩ := Lived.pause_state _ _ hempty
  exact ⟨_, hempty, (hpause 3 ['d']).mpr ⟨betweenPauses, rfl, rfl⟩⟩

end EditPlayer.Player
