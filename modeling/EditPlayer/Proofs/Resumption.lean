import EditPlayer.Document.Edit
import EditPlayer.Player.Snapshot
set_option autoImplicit false

/-!
# Pausing and resuming

A program with pauses is played again until it ends.  Between two of these plays empty programs may
be played, and the player may be stored and restored.  Together the plays come to what one play of
the program without its pauses comes to: they break off together, and they leave the same surface
and the same player behind.  `playAgain_eq_ok_iff` is the main statement.

The proof follows `run` through the operations that are left.  At a pause the plays start anew
behind it, which is where the run without pauses stands already.
-/

namespace EditPlayer

namespace Operation

/-- The operations that are no pauses. -/
def withoutPauses (operations : List Operation) : List Operation :=
  operations.filter fun operation => operation.kind != .pause

/-- The indices of the pauses that stand before the first end of a run, when the first operation
has the index `index`. -/
def pausesFrom (index : Nat) (operations : List Operation) : List Nat :=
  (((operations.takeWhile fun operation => operation.kind != .finish).zipIdx index).filter
    fun entry => entry.1.kind == .pause).map (·.2)

/-- How the last run ends. -/
def ending (operations : List Operation) : Outcome :=
  if operations.any fun operation => operation.kind == .finish then .returned else .completed

section Constructors

variable {operation : Operation} (index : Nat) (rest : List Operation)

theorem withoutPauses_cons_pause (h : operation.kind = .pause) :
    withoutPauses (operation :: rest) = withoutPauses rest := by
  simp [withoutPauses, h]

theorem withoutPauses_cons_other (h : operation.kind ≠ .pause) :
    withoutPauses (operation :: rest) = operation :: withoutPauses rest := by
  simp [withoutPauses, h]

theorem pausesFrom_cons_pause (h : operation.kind = .pause) :
    pausesFrom index (operation :: rest) = index :: pausesFrom (index + 1) rest := by
  simp [pausesFrom, h]

theorem pausesFrom_cons_finish (h : operation.kind = .finish) :
    pausesFrom index (operation :: rest) = [] := by
  simp [pausesFrom, h]

theorem pausesFrom_cons_other (hpause : operation.kind ≠ .pause)
    (hfinish : operation.kind ≠ .finish) :
    pausesFrom index (operation :: rest) = pausesFrom (index + 1) rest := by
  simp [pausesFrom, hpause, hfinish]

theorem ending_cons_finish (h : operation.kind = .finish) :
    ending (operation :: rest) = .returned := by
  simp [ending, h]

theorem ending_cons_other (h : operation.kind ≠ .finish) :
    ending (operation :: rest) = ending rest := by
  simp [ending, h]

end Constructors

end Operation

namespace Player

open Operation

variable {σ ε : Type}

/-- What may come between two plays of a suspended program. -/
inductive Interlude where
  /-- an empty program with this digest is played -/
  | playEmpty (digest : Text)
  /-- the player is stored as a snapshot and restored from it -/
  | restore
  deriving DecidableEq, Repr, Inhabited

/-- The player and the surface after an interlude. -/
def pass (surface : Surface σ ε) (player : Player) (state : σ) :
    Interlude → Except Fault (Player × σ)
  | .playEmpty digest => (player.play surface ⟨[], digest⟩ state).map (·.2)
  | .restore => .ok (ofSnapshot player.snapshot, state)

/-- The player and the surface after several interludes. -/
def passAll (surface : Surface σ ε) :
    List Interlude → Player → σ → Except Fault (Player × σ)
  | [], player, state => .ok (player, state)
  | interlude :: rest, player, state =>
      match pass surface player state interlude with
      | .error cause => .error cause
      | .ok (player, state) => passAll surface rest player state

/-- Plays a program once, and once more after each group of interludes. -/
def playAgain (surface : Surface σ ε) (program : Program) :
    List (List Interlude) → Player → σ → Except Fault (List Outcome × Player × σ)
  | [], player, state =>
      (player.play surface program state).map fun (outcome, player, state) =>
        ([outcome], player, state)
  | interludes :: rest, player, state =>
      match player.play surface program state with
      | .error cause => .error cause
      | .ok (outcome, player, state) =>
          match passAll surface interludes player state with
          | .error cause => .error cause
          | .ok (player, state) =>
              (playAgain surface program rest player state).map fun (outcomes, player, state) =>
                (outcome :: outcomes, player, state)

/-! ## Interludes change nothing -/

theorem pass_eq (surface : Surface σ ε) (player : Player) (state : σ) (interlude : Interlude) :
    pass surface player state interlude = .ok (player, state) := by
  cases interlude with
  | playEmpty digest =>
    rw [pass, play_empty surface rfl player state]
    rfl
  | restore => rw [pass, ofSnapshot_snapshot]

theorem passAll_eq (surface : Surface σ ε) (interludes : List Interlude) (player : Player)
    (state : σ) : passAll surface interludes player state = .ok (player, state) := by
  induction interludes with
  | nil => rfl
  | cons interlude rest ih =>
    rw [passAll, pass_eq]
    exact ih

/-! ## Runs and the plays that follow them -/

/-- The rest of the plays, when the present one has come to the operation with a given index. -/
def playRest (surface : Surface σ ε) (program : Program) (index : Nat)
    (interludes : List (List Interlude)) (memory : Memory) (state : σ) :
    Except Fault (List Outcome × Player × σ) :=
  match run surface index (program.operations.drop index) memory state with
  | .error cause => .error cause
  | .ok (outcome, memory, state) =>
      let player := fresh.settle program.digest memory outcome
      match interludes with
      | [] => .ok ([outcome], player, state)
      | _ :: rest =>
          (playAgain surface program rest player state).map fun (outcomes, player, state) =>
            (outcome :: outcomes, player, state)

/-- Plays that enter the program at an index with a memory go on as the rest of the plays from
there. -/
theorem playAgain_of_entry (surface : Surface σ ε) {program : Program} {player : Player}
    {index : Nat} {memory : Memory} (hne : program.operations ≠ [])
    (hentry : (player.dropForeignPause program.digest).entry = .ok (index, { memory }))
    (interludes : List (List Interlude)) (state : σ) :
    playAgain surface program interludes player state =
      playRest surface program index interludes memory state := by
  have hplay := play_of_entry surface hne hentry state
  have hsettle (digest : Text) (after : Memory) (outcome : Outcome) :
      settle { memory } digest after outcome = fresh.settle digest after outcome := by
    cases outcome <;> rfl
  cases interludes with
  | nil =>
    simp only [playAgain, playRest, hplay, hsettle]
    cases run surface index (program.operations.drop index) memory state <;> rfl
  | cons group rest =>
    simp only [playAgain, playRest, hplay, hsettle, passAll_eq]
    cases run surface index (program.operations.drop index) memory state <;> rfl

/-- A player that remembers nothing enters at the first operation. -/
theorem playAgain_fresh (surface : Surface σ ε) {program : Program}
    (hne : program.operations ≠ []) (interludes : List (List Interlude)) (state : σ) :
    playAgain surface program interludes .fresh state =
      playRest surface program 0 interludes {} state :=
  playAgain_of_entry surface hne rfl interludes state

/-- A suspended player enters behind the pause, with the memory that it was suspended with. -/
theorem playAgain_suspended (surface : Surface σ ε) {program : Program}
    (hne : program.operations ≠ []) (interludes : List (List Interlude)) {index : Nat}
    (hindex : index + 1 < wordLimit) (memory : Memory) (state : σ) :
    playAgain surface program interludes ⟨memory, some index, some program.digest⟩ state =
      playRest surface program (index + 1) interludes memory state := by
  refine playAgain_of_entry surface hne ?_ interludes state
  simp [dropForeignPause, entry, hindex, resetPause]

/-- A pause whose successor has no index within a word cannot be resumed. -/
theorem playAgain_overflow (surface : Surface σ ε) {program : Program}
    (hne : program.operations ≠ []) (interludes : List (List Interlude)) {index : Nat}
    (hindex : ¬ index + 1 < wordLimit) (memory : Memory) (state : σ) :
    playAgain surface program interludes ⟨memory, some index, some program.digest⟩ state =
      .error .resumeOverflow := by
  have hentry : (dropForeignPause ⟨memory, some index, some program.digest⟩ program.digest).entry =
      .error .resumeOverflow := by
    simp [dropForeignPause, entry, hindex]
  have hplay := play_of_entry_error surface hne hentry state
  cases interludes <;> simp [playAgain, hplay, Except.map]

section Constructors

variable (surface : Surface σ ε) {program : Program} {index : Nat} {operation : Operation}
  {rest : List Operation}

/-- At a pause the present play ends, and the next one starts from the suspended player. -/
theorem playRest_pause (hleft : program.operations.drop index = operation :: rest)
    (hpause : operation.kind = .pause) (group : List Interlude) (groups : List (List Interlude))
    (memory : Memory) (state : σ) :
    playRest surface program index (group :: groups) memory state =
      (playAgain surface program groups ⟨memory, some index, some program.digest⟩ state).map
        fun (outcomes, player, state) => (.paused index :: outcomes, player, state) := by
  rw [playRest, hleft, run_pause surface index hpause]
  rfl

theorem playRest_finish (hleft : program.operations.drop index = operation :: rest)
    (hfinish : operation.kind = .finish) (memory : Memory) (state : σ) :
    playRest surface program index [] memory state = .ok ([.returned], { memory }, state) := by
  rw [playRest, hleft, run_finish surface index hfinish]
  rfl

theorem playRest_other (hleft : program.operations.drop index = operation :: rest)
    (hpause : operation.kind ≠ .pause) (hfinish : operation.kind ≠ .finish)
    (interludes : List (List Interlude)) (memory : Memory) (state : σ) :
    playRest surface program index interludes memory state =
      match execute surface operation memory state with
      | (memory, .done state) | (memory, .refused _ state) =>
          playRest surface program (index + 1) interludes memory state
      | (_, .fault cause) => .error cause := by
  have hrest : program.operations.drop (index + 1) = rest := by
    rw [← List.drop_drop, hleft, List.drop_one, List.tail_cons]
  simp only [playRest, hleft, hrest, run_cons surface index hpause hfinish]
  rcases execute surface operation memory state with ⟨memory', reply⟩
  cases reply <;> rfl

end Constructors

/-- An answer with one outcome more is the answer to the later plays with that outcome in front. -/
theorem map_cons_eq_ok_iff {answer : Except Fault (List Outcome × Player × σ)} {first : Outcome}
    {outcomes : List Outcome} {player : Player} {final : σ} :
    (answer.map fun (later, player, state) => (first :: later, player, state)) =
        .ok (outcomes, player, final) ↔
      ∃ later, outcomes = first :: later ∧ answer = .ok (later, player, final) := by
  cases answer with
  | error cause => simp [Except.map]
  | ok result =>
    obtain ⟨later, player', final'⟩ := result
    simp only [Except.map, Except.ok.injEq, Prod.mk.injEq]
    constructor
    · rintro ⟨rfl, rfl, rfl⟩
      exact ⟨later, rfl, rfl, rfl, rfl⟩
    · rintro ⟨_, rfl, rfl, rfl, rfl⟩
      exact ⟨rfl, rfl, rfl⟩

/-- A last play and a run with the same outcome give the same answer. -/
theorem last_eq_ok_iff {outcome : Outcome} {memory : Memory} {state : σ} {outcomes : List Outcome}
    {player : Player} {final : σ} :
    (.ok ([outcome], { memory }, state) : Except Fault (List Outcome × Player × σ)) =
        .ok (outcomes, player, final) ↔
      outcomes = [outcome] ∧
        (.ok (outcome, memory, state) : Except Fault (Outcome × Memory × σ)) =
          .ok (outcome, player.memory, final) ∧
        player = { memory := player.memory } := by
  constructor
  · rintro ⟨⟩
    exact ⟨rfl, rfl, rfl⟩
  · rintro ⟨rfl, hrun, hplayer⟩
    simp only [Except.ok.injEq, Prod.mk.injEq, true_and] at hrun
    obtain ⟨rfl, rfl⟩ := hrun
    rw [← hplayer]

/-! ## The plays together -/

/-- The rest of the plays gives an answer just when every pause left can be resumed and the run
without pauses gives that answer. -/
theorem playRest_eq_ok_iff (surface : Surface σ ε) (program : Program) (left : List Operation) :
    ∀ (index index' : Nat) (interludes : List (List Interlude)) (memory : Memory) (state : σ)
      (outcomes : List Outcome) (player : Player) (final : σ),
      program.operations.drop index = left →
      interludes.length = (pausesFrom index left).length →
      (playRest surface program index interludes memory state = .ok (outcomes, player, final) ↔
        (∀ i ∈ pausesFrom index left, i + 1 < wordLimit) ∧
        outcomes = (pausesFrom index left).map .paused ++ [ending left] ∧
        run surface index' (withoutPauses left) memory state =
          .ok (ending left, player.memory, final) ∧
        player = { memory := player.memory }) := by
  induction left with
  | nil =>
    intro index index' interludes memory state outcomes player final hleft hcount
    have hnil : interludes = [] := List.length_eq_zero_iff.mp hcount
    subst hnil
    have hplay : playRest surface program index [] memory state =
        .ok ([.completed], { memory }, state) := by
      rw [playRest, hleft]
      rfl
    rw [hplay, last_eq_ok_iff]
    simp [pausesFrom, withoutPauses, ending]
  | cons operation rest ih =>
    intro index index' interludes memory state outcomes player final hleft hcount
    have hrest : program.operations.drop (index + 1) = rest := by
      rw [← List.drop_drop, hleft, List.drop_one, List.tail_cons]
    by_cases hpause : operation.kind = .pause
    · -- The play is suspended here, and the next one enters behind the pause.
      have hne : program.operations ≠ [] := by
        intro hnil
        simp [hnil] at hleft
      have hother : operation.kind ≠ .finish := by simp [hpause]
      rw [pausesFrom_cons_pause index rest hpause] at hcount
      obtain ⟨group, groups, rfl⟩ := List.exists_cons_of_length_eq_add_one hcount
      have hgroups : groups.length = (pausesFrom (index + 1) rest).length := by simpa using hcount
      rw [playRest_pause surface hleft hpause, pausesFrom_cons_pause index rest hpause,
        withoutPauses_cons_pause rest hpause, ending_cons_other rest hother]
      by_cases hindex : index + 1 < wordLimit
      · rw [playAgain_suspended surface hne groups hindex, map_cons_eq_ok_iff]
        have hlater := fun later =>
          ih (index + 1) index' groups memory state later player final hrest hgroups
        simp only [hlater, List.forall_mem_cons, List.map_cons, List.cons_append]
        constructor
        · rintro ⟨later, rfl, hresume, rfl, hrun, hplayer⟩
          exact ⟨⟨hindex, hresume⟩, rfl, hrun, hplayer⟩
        · rintro ⟨⟨-, hresume⟩, rfl, hrun, hplayer⟩
          exact ⟨_, rfl, hresume, rfl, hrun, hplayer⟩
      · rw [playAgain_overflow surface hne groups hindex]
        simp [Except.map, hindex]
    · by_cases hfinish : operation.kind = .finish
      · rw [pausesFrom_cons_finish index rest hfinish] at hcount
        have hnil : interludes = [] := List.length_eq_zero_iff.mp hcount
        subst hnil
        rw [playRest_finish surface hleft hfinish, pausesFrom_cons_finish index rest hfinish,
          withoutPauses_cons_other rest hpause, ending_cons_finish rest hfinish,
          run_finish surface index' hfinish, last_eq_ok_iff]
        simp
      · rw [pausesFrom_cons_other index rest hpause hfinish] at hcount ⊢
        rw [playRest_other surface hleft hpause hfinish, withoutPauses_cons_other rest hpause,
          ending_cons_other rest hfinish, run_cons surface index' hpause hfinish]
        rcases execute surface operation memory state with ⟨memory', reply⟩
        cases reply with
        | done state' => exact ih _ _ _ _ _ _ _ _ hrest hcount
        | refused error state' => exact ih _ _ _ _ _ _ _ _ hrest hcount
        | fault cause => simp

/-- A play from the start that is not suspended is a run with an empty memory. -/
theorem play_fresh_eq_ok_iff (surface : Surface σ ε) (program : Program) (state : σ)
    {outcome : Outcome} (hended : outcome.isSuspended = false) {player : Player} {final : σ} :
    fresh.play surface program state = .ok (outcome, player, final) ↔
      run surface 0 program.operations {} state = .ok (outcome, player.memory, final) ∧
        player = { memory := player.memory } := by
  have hplay : fresh.play surface program state =
      match run surface 0 program.operations {} state with
      | .error cause => .error cause
      | .ok (outcome, memory, state) =>
          .ok (outcome, fresh.settle program.digest memory outcome, state) := by
    by_cases hnil : program.operations = []
    · rw [play_empty surface hnil, hnil]
      rfl
    · have hentry : (fresh.dropForeignPause program.digest).entry = .ok (0, fresh) := rfl
      exact play_of_entry surface hnil hentry state
  rw [hplay]
  cases run surface 0 program.operations {} state with
  | error cause => simp
  | ok result =>
    obtain ⟨outcome', memory, final'⟩ := result
    simp only [Except.ok.injEq, Prod.mk.injEq]
    constructor
    · rintro ⟨rfl, rfl, rfl⟩
      cases outcome' with
      | paused index => cases hended
      | completed => exact ⟨⟨rfl, rfl, rfl⟩, rfl⟩
      | returned => exact ⟨⟨rfl, rfl, rfl⟩, rfl⟩
    · rintro ⟨⟨rfl, rfl, rfl⟩, hplayer⟩
      refine ⟨rfl, ?_, rfl⟩
      rw [hplayer]
      cases outcome' with
      | paused index => cases hended
      | completed => rfl
      | returned => rfl

theorem isSuspended_ending (operations : List Operation) :
    (ending operations).isSuspended = false := by
  unfold ending
  split <;> rfl

/-- Resuming a program until it ends is the same as playing it without its pauses.  The plays give
an answer just when every pause can be resumed and the one play gives an answer.  Then they are
suspended at the pauses, one after the other, the last one ends as the one play does, and the
surface and the player are left as by the one play. -/
theorem playAgain_eq_ok_iff (surface : Surface σ ε) (program : Program) (digest : Text)
    (interludes : List (List Interlude)) (state : σ)
    (hcount : interludes.length = (pausesFrom 0 program.operations).length)
    (outcomes : List Outcome) (player : Player) (final : σ) :
    playAgain surface program interludes .fresh state = .ok (outcomes, player, final) ↔
      (∀ i ∈ pausesFrom 0 program.operations, i + 1 < wordLimit) ∧
      outcomes = (pausesFrom 0 program.operations).map .paused ++ [ending program.operations] ∧
      fresh.play surface ⟨withoutPauses program.operations, digest⟩ state =
        .ok (ending program.operations, player, final) := by
  have hended := isSuspended_ending program.operations
  rw [play_fresh_eq_ok_iff surface _ state hended]
  by_cases hnil : program.operations = []
  · have hnone : interludes = [] := by
      rw [hnil] at hcount
      exact List.length_eq_zero_iff.mp hcount
    subst hnone
    have hplay : playAgain surface program [] .fresh state =
        .ok ([.completed], { memory := {} }, state) := by
      rw [playAgain, play_empty surface hnil]
      rfl
    rw [hplay, last_eq_ok_iff, hnil]
    simp [pausesFrom, withoutPauses, ending]
  · rw [playAgain_fresh surface hnil]
    exact playRest_eq_ok_iff surface program program.operations 0 0 interludes {} state outcomes
      player final List.drop_zero hcount

/-- A program that is suspended at its first operation, twice in a row, and before its end. -/
theorem playAgain_five_plays :
    playAgain Document.surface
        ⟨[{ kind := .pause, sourceLine := 1 },
          { kind := .insertText, payload := .text ['x'], sourceLine := 2 },
          { kind := .pushPosition, sourceLine := 3 },
          { kind := .pause, sourceLine := 4 },
          { kind := .pause, sourceLine := 5 },
          { kind := .insertText, payload := .text ['y'], sourceLine := 6 },
          { kind := .popPosition, select := true, sourceLine := 7 },
          { kind := .pause, sourceLine := 8 },
          { kind := .finish, sourceLine := 9 },
          { kind := .pause, sourceLine := 10 }], ['d']⟩
        [[], [.restore], [.playEmpty ['d'], .restore], [.playEmpty []]] .fresh
        (Document.ofText ['a']) =
      .ok ([.paused 0, .paused 3, .paused 4, .paused 7, .returned], .fresh,
        { Document.ofText ['x', 'y', 'a'] with selection := ⟨⟨0, 2⟩, ⟨0, 1⟩⟩ }) :=
  (playAgain_eq_ok_iff Document.surface _ [] _ _ (by decide) _ _ _).mpr
    ⟨by decide, by decide, rfl⟩

end Player

end EditPlayer
