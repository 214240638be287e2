import EditPlayer.Proofs.Effects
set_option autoImplicit false

/-!
# The turns of runs and plays

A run takes one turn for every operation that it executes.  The turns, each with the memory and the
state that it meets, say where a run breaks off: exactly where one of its turns does.  And what
every operation keeps of memory and state holds at every turn.  Both are carried on from runs to
plays, and to plays one after the other by the same player.

The one fault that is no turn's is resuming behind a pause whose successor has no index within a
word.  It cannot come about in programs with fewer operations than a word has values
(`Resumable.play`).
-/

namespace EditPlayer.Player

variable {σ ε : Type}

/-! ## Runs -/

/-- An operation that a run executes, with the memory and the state of the surface that it
meets. -/
structure Turn (σ : Type) where
  operation : Operation
  memory : Memory
  state : σ

/-- How a turn ends. -/
def Turn.reply (surface : Surface σ ε) (turn : Turn σ) : Reply σ ε :=
  (execute surface turn.operation turn.memory turn.state).2

/-- What is remembered after a turn. -/
def Turn.memoryAfter (surface : Surface σ ε) (turn : Turn σ) : Memory :=
  (execute surface turn.operation turn.memory turn.state).1

/-- The turns of a run, in their order. -/
def turns (surface : Surface σ ε) : List Operation → Memory → σ → List (Turn σ)
  | [], _, _ => []
  | operation :: rest, memory, state =>
      if operation.kind = .pause ∨ operation.kind = .finish then []
      else
        ⟨operation, memory, state⟩ ::
          match execute surface operation memory state with
          | (memory, .done state) | (memory, .refused _ state) => turns surface rest memory state
          | (_, .fault _) => []

/-- A pause and the end of a program are no turns. -/
theorem turns_stop (surface : Surface σ ε) {operation : Operation}
    (h : operation.kind = .pause ∨ operation.kind = .finish) (rest : List Operation)
    (memory : Memory) (state : σ) : turns surface (operation :: rest) memory state = [] := by
  rw [turns, if_pos h]

theorem turns_cons (surface : Surface σ ε) {operation : Operation}
    (hpause : operation.kind ≠ .pause) (hfinish : operation.kind ≠ .finish)
    (rest : List Operation) (memory : Memory) (state : σ) :
    turns surface (operation :: rest) memory state =
      ⟨operation, memory, state⟩ ::
        match execute surface operation memory state with
        | (memory, .done state) | (memory, .refused _ state) => turns surface rest memory state
        | (_, .fault _) => [] := by
  rw [turns, if_neg (by simp [hpause, hfinish])]

/-- A run breaks off where one of its turns does. -/
theorem run_eq_error_iff (surface : Surface σ ε) (index : Nat) (operations : List Operation)
    (memory : Memory) (state : σ) (cause : Fault) :
    run surface index operations memory state = .error cause ↔
      ∃ turn ∈ turns surface operations memory state, turn.reply surface = .fault cause := by
  induction operations generalizing index memory state with
  | nil => simp [turns]
  | cons operation rest ih =>
    by_cases hpause : operation.kind = .pause
    · simp [run_pause surface index hpause, turns_stop surface (.inl hpause)]
    · by_cases hfinish : operation.kind = .finish
      · simp [run_finish surface index hfinish, turns_stop surface (.inr hfinish)]
      · rw [run_cons surface index hpause hfinish, turns_cons surface hpause hfinish]
        simp only [List.mem_cons, exists_eq_or_imp]
        rcases hexecute : execute surface operation memory state with ⟨memory', reply⟩
        have hreply : Turn.reply surface ⟨operation, memory, state⟩ = reply := by
          rw [Turn.reply, hexecute]
        rw [hreply]
        cases reply with
        | done state' => simpa using ih (index + 1) memory' state'
        | refused error state' => simpa using ih (index + 1) memory' state'
        | fault cause' => simp

/-- What every operation keeps of the memory and the state holds at every turn of a run, and of what
the run leaves. -/
theorem run_keeps {surface : Surface σ ε} {P : Memory → σ → Prop} {operations : List Operation}
    (hstep : ∀ operation ∈ operations, ∀ memory state, P memory state →
      (execute surface operation memory state).2.Ends
        (P (execute surface operation memory state).1) fun _ => True)
    (index : Nat) {memory : Memory} {state : σ} (h : P memory state) :
    (∀ turn ∈ turns surface operations memory state,
      turn.operation ∈ operations ∧ P turn.memory turn.state) ∧
    ∀ outcome after final,
      run surface index operations memory state = .ok (outcome, after, final) →
        P after final := by
  induction operations generalizing index memory state with
  | nil =>
    refine ⟨by simp [turns], ?_⟩
    rintro outcome after final ⟨⟩
    exact h
  | cons operation rest ih =>
    by_cases hpause : operation.kind = .pause
    · rw [run_pause surface index hpause, turns_stop surface (.inl hpause)]
      refine ⟨by simp, ?_⟩
      rintro outcome after final ⟨⟩
      exact h
    · by_cases hfinish : operation.kind = .finish
      · rw [run_finish surface index hfinish, turns_stop surface (.inr hfinish)]
        refine ⟨by simp, ?_⟩
        rintro outcome after final ⟨⟩
        exact h
      · rw [run_cons surface index hpause hfinish, turns_cons surface hpause hfinish]
        have hends := hstep operation List.mem_cons_self memory state h
        have hrest := fun other hother => hstep other (List.mem_cons_of_mem operation hother)
        have hcons (later : List (Turn σ))
            (hlater : ∀ turn ∈ later, turn.operation ∈ rest ∧ P turn.memory turn.state) :
            ∀ turn ∈ ⟨operation, memory, state⟩ :: later,
              turn.operation ∈ operation :: rest ∧ P turn.memory turn.state := by
          intro turn hturn
          rcases List.mem_cons.mp hturn with rfl | hmem
          · exact ⟨List.mem_cons_self, h⟩
          · exact ⟨List.mem_cons_of_mem operation (hlater turn hmem).1, (hlater turn hmem).2⟩
        rcases hexecute : execute surface operation memory state with ⟨memory', reply⟩
        rw [hexecute] at hends
        cases reply with
        | done state' =>
          obtain ⟨hturns, hfinal⟩ := ih hrest (index + 1) hends
          exact ⟨hcons _ hturns, hfinal⟩
        | refused error state' =>
          obtain ⟨hturns, hfinal⟩ := ih hrest (index + 1) hends
          exact ⟨hcons _ hturns, hfinal⟩
        | fault cause' => exact ⟨hcons [] (by simp), by simp⟩

/-- A pause that ends a run is one of its operations. -/
theorem lt_of_run_paused {surface : Surface σ ε} {operations : List Operation} {index i : Nat}
    {memory after : Memory} {state final : σ}
    (h : run surface index operations memory state = .ok (.paused i, after, final)) :
    index ≤ i ∧ i < index + operations.length := by
  induction operations generalizing index memory state with
  | nil => simp at h
  | cons operation rest ih =>
    rw [List.length_cons]
    by_cases hpause : operation.kind = .pause
    · rw [run_pause surface index hpause] at h
      cases h
      omega
    · by_cases hfinish : operation.kind = .finish
      · simp [run_finish surface index hfinish] at h
      · rw [run_cons surface index hpause hfinish] at h
        rcases hexecute : execute surface operation memory state with ⟨memory', reply⟩
        rw [hexecute] at h
        cases reply with
        | done state' =>
          have hlater := ih h
          omega
        | refused error state' =>
          have hlater := ih h
          omega
        | fault cause => cases h

/-! ## Plays -/

/-- The turns of a play. -/
def playTurns (surface : Surface σ ε) (program : Program) (player : Player) (state : σ) :
    List (Turn σ) :=
  match (player.dropForeignPause program.digest).entry with
  | .error _ => []
  | .ok (start, player) => turns surface (program.operations.drop start) player.memory state

/-- The pause of the player, if there is one, can be resumed. -/
def Resumable (player : Player) : Prop :=
  ∀ index, player.pauseIndex = some index → index + 1 < wordLimit

theorem resumable_fresh : Resumable fresh := by
  intro index h
  cases h

/-- A player whose pause can be resumed has an entry into every program, and is not suspended
there. -/
theorem Resumable.entry {player : Player} (h : Resumable player) (digest : Text) :
    ∃ start entered, (player.dropForeignPause digest).entry = .ok (start, entered) ∧
      entered.pauseIndex = none := by
  unfold dropForeignPause
  split
  · exact ⟨0, { player.resetPause with memory := {} }, rfl, rfl⟩
  · cases hpause : player.pauseIndex with
    | none => exact ⟨0, { player with memory := {} }, by simp [Player.entry, hpause], hpause⟩
    | some index =>
      have hindex := h index hpause
      exact ⟨index + 1, player.resetPause, by simp [Player.entry, hpause, hindex], rfl⟩

/-- A play of a player whose pause can be resumed breaks off where one of its turns does. -/
theorem play_eq_error_iff (surface : Surface σ ε) (program : Program) {player : Player}
    (hplayer : Resumable player) (state : σ) (cause : Fault) :
    player.play surface program state = .error cause ↔
      ∃ turn ∈ playTurns surface program player state, turn.reply surface = .fault cause := by
  obtain ⟨start, entered, hentry, -⟩ := hplayer.entry program.digest
  have hturns : playTurns surface program player state =
      turns surface (program.operations.drop start) entered.memory state := by
    rw [playTurns, hentry]
  rw [hturns, ← run_eq_error_iff surface start]
  by_cases hnil : program.operations = []
  · simp [play_empty surface hnil, hnil]
  · rw [play_of_entry surface hnil hentry]
    cases run surface start (program.operations.drop start) entered.memory state <;> simp

/-- A play enters its program with what the player remembers, or with nothing. -/
theorem memory_of_entry {player entered : Player} {digest : Text} {start : Nat}
    (h : (player.dropForeignPause digest).entry = .ok (start, entered)) :
    entered.memory = player.memory ∨ entered.memory = {} := by
  have hmemory : (player.dropForeignPause digest).memory = player.memory := by
    unfold dropForeignPause
    split <;> rfl
  unfold entry at h
  split at h
  · split at h
    · cases h
      exact .inl hmemory
    · cases h
  · cases h
    exact .inr rfl

section Kept

variable {surface : Surface σ ε} {P : Memory → σ → Prop}
  (hclear : ∀ memory state, P memory state → P {} state)

include hclear

/-- What holds of a player and a state, whatever the player has forgotten, holds where a play
enters its program. -/
theorem keeps_entry {player entered : Player} {digest : Text} {start : Nat} {state : σ}
    (hentry : (player.dropForeignPause digest).entry = .ok (start, entered))
    (h : P player.memory state) : P entered.memory state := by
  rcases memory_of_entry hentry with hsame | hempty
  · exact hsame ▸ h
  · exact hempty ▸ hclear player.memory state h

/-- What every operation of a program keeps holds at every turn of a play. -/
theorem playTurns_keep {program : Program}
    (hstep : ∀ operation ∈ program.operations, ∀ memory state, P memory state →
      (execute surface operation memory state).2.Ends
        (P (execute surface operation memory state).1) fun _ => True)
    {player : Player} {state : σ} (h : P player.memory state) :
    ∀ turn ∈ playTurns surface program player state,
      turn.operation ∈ program.operations ∧ P turn.memory turn.state := by
  intro turn hturn
  unfold playTurns at hturn
  split at hturn
  · cases hturn
  · rename_i start entered hentry
    have hdrop := fun operation (hmem : operation ∈ program.operations.drop start) =>
      hstep operation (List.mem_of_mem_drop hmem)
    obtain ⟨hmem, hP⟩ := (run_keeps hdrop start (keeps_entry hclear hentry h)).1 turn hturn
    exact ⟨List.mem_of_mem_drop hmem, hP⟩

/-- What every operation of a program keeps a play of the program keeps. -/
theorem play_keeps {program : Program}
    (hstep : ∀ operation ∈ program.operations, ∀ memory state, P memory state →
      (execute surface operation memory state).2.Ends
        (P (execute surface operation memory state).1) fun _ => True)
    {player player' : Player} {state final : σ} {outcome : Outcome} (h : P player.memory state)
    (hplay : player.play surface program state = .ok (outcome, player', final)) :
    P player'.memory final := by
  by_cases hnil : program.operations = []
  · rw [play_empty surface hnil] at hplay
    cases hplay
    exact h
  · cases hentry : (player.dropForeignPause program.digest).entry with
    | error cause =>
      rw [play_of_entry_error surface hnil hentry] at hplay
      cases hplay
    | ok result =>
      obtain ⟨start, entered⟩ := result
      rw [play_of_entry surface hnil hentry] at hplay
      have hdrop := fun operation (hmem : operation ∈ program.operations.drop start) =>
        hstep operation (List.mem_of_mem_drop hmem)
      have hfinal := (run_keeps hdrop start (keeps_entry hclear hentry h)).2
      split at hplay
      · cases hplay
      · rename_i outcome' memory final' hrun
        cases hplay
        rw [settle_memory]
        exact hfinal _ _ _ hrun

end Kept

/-- A play of a program of fewer operations than a word has values leaves a player whose pause can
be resumed. -/
theorem Resumable.play {surface : Surface σ ε} {program : Program}
    (hlength : program.operations.length < wordLimit) {player player' : Player}
    (hplayer : Resumable player) {state final : σ} {outcome : Outcome}
    (hplay : player.play surface program state = .ok (outcome, player', final)) :
    Resumable player' := by
  by_cases hnil : program.operations = []
  · rw [play_empty surface hnil] at hplay
    cases hplay
    exact hplayer
  · obtain ⟨start, entered, hentry, hnone⟩ := hplayer.entry program.digest
    rw [play_of_entry surface hnil hentry] at hplay
    split at hplay
    · cases hplay
    · rename_i outcome' memory final' hrun
      cases hplay
      intro index hindex
      cases outcome with
      | completed => simp [settle, hnone] at hindex
      | returned => simp [settle, hnone] at hindex
      | paused i =>
        have hi : i = index := by simpa [settle] using hindex
        have hrange := lt_of_run_paused hrun
        rw [List.length_drop] at hrange
        omega

/-! ## Plays one after the other -/

/-- Plays programs one after the other with the same player. -/
def playAll (surface : Surface σ ε) :
    List Program → Player → σ → Except Fault (List Outcome × Player × σ)
  | [], player, state => .ok ([], player, state)
  | program :: rest, player, state =>
      match player.play surface program state with
      | .error cause => .error cause
      | .ok (outcome, player, state) =>
          (playAll surface rest player state).map fun (outcomes, player, state) =>
            (outcome :: outcomes, player, state)

/-- The turns of plays one after the other. -/
def allTurns (surface : Surface σ ε) : List Program → Player → σ → List (Turn σ)
  | [], _, _ => []
  | program :: rest, player, state =>
      playTurns surface program player state ++
        match player.play surface program state with
        | .error _ => []
        | .ok (_, player, state) => allTurns surface rest player state

/-- Plays one after the other break off where one of their turns does. -/
theorem playAll_eq_error_iff (surface : Surface σ ε) {programs : List Program}
    (hlength : ∀ program ∈ programs, program.operations.length < wordLimit) {player : Player}
    (hplayer : Resumable player) (state : σ) (cause : Fault) :
    playAll surface programs player state = .error cause ↔
      ∃ turn ∈ allTurns surface programs player state, turn.reply surface = .fault cause := by
  induction programs generalizing player state with
  | nil => simp [playAll, allTurns]
  | cons program rest ih =>
    have hplay := play_eq_error_iff surface program hplayer state cause
    rw [playAll, allTurns]
    simp only [List.mem_append, or_and_right, exists_or, ← hplay]
    cases hresult : player.play surface program state with
    | error cause' => simp
    | ok result =>
      obtain ⟨outcome, player', state'⟩ := result
      have hplayer' : Resumable player' :=
        hplayer.play (hlength program List.mem_cons_self) hresult
      have hrest := ih (fun other hother => hlength other (List.mem_cons_of_mem program hother))
        hplayer' state'
      simp only [reduceCtorEq, false_or]
      rw [← hrest]
      cases playAll surface rest player' state' <;> simp [Except.map]

/-- What every operation of the programs keeps holds at every turn of their plays. -/
theorem allTurns_keep {surface : Surface σ ε} {P : Memory → σ → Prop}
    (hclear : ∀ memory state, P memory state → P {} state) {programs : List Program}
    (hstep : ∀ program ∈ programs, ∀ operation ∈ program.operations, ∀ memory state,
      P memory state →
        (execute surface operation memory state).2.Ends
          (P (execute surface operation memory state).1) fun _ => True)
    {player : Player} {state : σ} (h : P player.memory state) :
    ∀ turn ∈ allTurns surface programs player state,
      (∃ program ∈ programs, turn.operation ∈ program.operations) ∧
        P turn.memory turn.state := by
  induction programs generalizing player state with
  | nil =>
    intro turn hturn
    cases hturn
  | cons program rest ih =>
    have hfirst := hstep program List.mem_cons_self
    have hrest := fun other hother => hstep other (List.mem_cons_of_mem program hother)
    intro turn hturn
    rw [allTurns, List.mem_append] at hturn
    rcases hturn with hturn | hturn
    · obtain ⟨hmem, hP⟩ := playTurns_keep hclear hfirst h turn hturn
      exact ⟨⟨program, List.mem_cons_self, hmem⟩, hP⟩
    · split at hturn
      · cases hturn
      · rename_i outcome player' state' hplay
        have h' := play_keeps hclear hfirst h hplay
        obtain ⟨⟨other, hother, hmem⟩, hP⟩ := ih hrest h' turn hturn
        exact ⟨⟨other, List.mem_cons_of_mem program hother, hmem⟩, hP⟩

end EditPlayer.Player
