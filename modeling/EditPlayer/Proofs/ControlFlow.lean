import EditPlayer.Document.Edit
import EditPlayer.Player.Basic
import EditPlayer.Surface.Recorded
set_option autoImplicit false

/-!
# Control flow

Where a play starts is settled by the player and the digest of the program, and where it ends by
the program alone: at the first pause or end from its start on.  Between the two every operation is
executed once, in order, whatever the surface refuses on the way.

`Player.run_eq_playFrom` says so for a run, by induction over the operations left.  It follows that
two plays of a program by the same player on any two surfaces have the same outcome and leave the
same pause behind (`Player.play_same_control`).
-/

namespace EditPlayer

/-! ## Where a run ends -/

namespace Operation

/-- Whether the operation stops a run instead of being executed. -/
def halts (operation : Operation) : Bool :=
  operation.kind == .pause || operation.kind == .finish

/-- The index of the first operation from `start` on that stops a run. -/
def haltIndex? (operations : List Operation) (start : Nat) : Option Nat :=
  ((operations.drop start).findIdx? halts).map (start + ·)

/-- How a run that starts at an index ends. -/
def outcomeFrom (operations : List Operation) (start : Nat) : Outcome :=
  match haltIndex? operations start with
  | none => .completed
  | some k => if operations[k]?.any (·.kind == .pause) then .paused k else .returned

/-- The operations from an index up to the one that stops the run, or up to the last. -/
def segment (operations : List Operation) (start : Nat) : List Operation :=
  (operations.take ((haltIndex? operations start).getD operations.length)).drop start

theorem halts_iff (operation : Operation) :
    operation.halts = true ↔ operation.kind = .pause ∨ operation.kind = .finish := by
  simp [halts]

/-- A run that is suspended stands at a pause. -/
theorem exists_pause_of_outcomeFrom {operations : List Operation} {start k : Nat}
    (h : outcomeFrom operations start = .paused k) :
    ∃ operation, operations[k]? = some operation ∧ operation.kind = .pause := by
  unfold outcomeFrom at h
  split at h
  · cases h
  · split at h
    · rename_i hpause
      cases h
      obtain ⟨operation, hoperation, hkind⟩ := (Option.any_eq_true _ _).mp hpause
      exact ⟨operation, hoperation, by simpa using hkind⟩
    · cases h

section Constructors

variable {operations rest : List Operation} {operation : Operation} {start : Nat}

theorem drop_succ_of_drop (hleft : operations.drop start = operation :: rest) :
    operations.drop (start + 1) = rest := by
  rw [List.drop_add_one_eq_tail_drop, hleft, List.tail_cons]

theorem haltIndex?_nil (hleft : operations.drop start = []) :
    haltIndex? operations start = none := by
  simp [haltIndex?, hleft]

theorem haltIndex?_halts (hleft : operations.drop start = operation :: rest)
    (h : operation.halts = true) : haltIndex? operations start = some start := by
  simp [haltIndex?, hleft, List.findIdx?_cons, h]

theorem haltIndex?_next (hleft : operations.drop start = operation :: rest)
    (h : operation.halts = false) :
    haltIndex? operations start = haltIndex? operations (start + 1) := by
  simp only [haltIndex?, hleft, drop_succ_of_drop hleft, List.findIdx?_cons, h]
  cases rest.findIdx? halts with
  | none => rfl
  | some j =>
    simp only [Bool.false_eq_true, if_false, Option.map_some, Option.some.injEq]
    omega

theorem lt_getD_haltIndex? (hleft : operations.drop start = operation :: rest)
    (h : operation.halts = false) :
    start < (haltIndex? operations start).getD operations.length := by
  have hlength : start < operations.length := by
    have hdrop := congrArg List.length hleft
    rw [List.length_drop, List.length_cons] at hdrop
    omega
  rw [haltIndex?_next hleft h, haltIndex?]
  cases (operations.drop (start + 1)).findIdx? halts with
  | none => exact hlength
  | some j =>
    change start < start + 1 + j
    omega

theorem segment_nil (hleft : operations.drop start = []) : segment operations start = [] := by
  rw [segment, List.drop_take, hleft, List.take_nil]

theorem segment_halts (hleft : operations.drop start = operation :: rest)
    (h : operation.halts = true) : segment operations start = [] := by
  rw [segment, haltIndex?_halts hleft h, Option.getD_some, List.drop_take, Nat.sub_self,
    List.take_zero]

theorem segment_next (hleft : operations.drop start = operation :: rest)
    (h : operation.halts = false) :
    segment operations start = operation :: segment operations (start + 1) := by
  have hlt := lt_getD_haltIndex? hleft h
  obtain ⟨n, hn⟩ := Nat.exists_eq_add_of_lt hlt
  have hfirst : start + n + 1 - start = n + 1 := by omega
  have hnext : start + n + 1 - (start + 1) = n := by omega
  rw [segment, segment, ← haltIndex?_next hleft h, List.drop_take, List.drop_take, hleft,
    drop_succ_of_drop hleft, hn, hfirst, hnext, List.take_succ_cons]

end Constructors

end Operation

namespace Player

open Operation

variable {σ ε : Type}

/-! ## What a run executes -/

/-- Executes one operation and passes over what the surface refuses. -/
def advance (surface : Surface σ ε) (before : Memory × σ) (operation : Operation) :
    Except Fault (Memory × σ) :=
  match execute surface operation before.1 before.2 with
  | (memory, .done state) | (memory, .refused _ state) => .ok (memory, state)
  | (_, .fault cause) => .error cause

/-- Executes operations, each once and in order. -/
def executeAll (surface : Surface σ ε) (operations : List Operation) (memory : Memory) (state : σ) :
    Except Fault (Memory × σ) :=
  operations.foldlM (advance surface) (memory, state)

/-- What a program comes to from an index on: its operations are executed up to the one that stops
the run. -/
def playFrom (surface : Surface σ ε) (operations : List Operation) (start : Nat) (memory : Memory)
    (state : σ) : Except Fault (Outcome × Memory × σ) :=
  (executeAll surface (segment operations start) memory state).map fun (memory, state) =>
    (outcomeFrom operations start, memory, state)

theorem executeAll_cons (surface : Surface σ ε) (operation : Operation) (rest : List Operation)
    (memory : Memory) (state : σ) :
    executeAll surface (operation :: rest) memory state =
      match execute surface operation memory state with
      | (memory, .done state) | (memory, .refused _ state) => executeAll surface rest memory state
      | (_, .fault cause) => .error cause := by
  rw [executeAll, List.foldlM_cons, advance]
  rcases execute surface operation memory state with ⟨memory', reply⟩
  cases reply <;> rfl

/-- The operations behind one that is done meet what it leaves. -/
theorem executeAll_cons_done {surface : Surface σ ε} {operation : Operation}
    {memory after : Memory} {state next : σ}
    (h : execute surface operation memory state = (after, .done next)) (rest : List Operation) :
    executeAll surface (operation :: rest) memory state =
      executeAll surface rest after next := by
  rw [executeAll_cons, h]

/-- Operations that follow others meet what these leave. -/
theorem executeAll_append {surface : Surface σ ε} {first : List Operation} {memory after : Memory}
    {state next : σ} (h : executeAll surface first memory state = .ok (after, next))
    (second : List Operation) :
    executeAll surface (first ++ second) memory state = executeAll surface second after next := by
  unfold executeAll at h ⊢
  rw [List.foldlM_append, h]
  rfl

/-- A run goes on behind operations of which none stops it. -/
theorem run_append_of_executeAll {surface : Surface σ ε} {operations : List Operation}
    (hgoes : ∀ operation ∈ operations, operation.halts = false) {memory after : Memory}
    {state final : σ} (h : executeAll surface operations memory state = .ok (after, final))
    (index : Nat) (rest : List Operation) :
    run surface index (operations ++ rest) memory state =
      run surface (index + operations.length) rest after final := by
  induction operations generalizing index memory state with
  | nil =>
    cases h
    rfl
  | cons operation others ih =>
    rw [List.forall_mem_cons] at hgoes
    obtain ⟨hfirst, hothers⟩ := hgoes
    have hstops : ¬ (operation.kind = .pause ∨ operation.kind = .finish) := by
      rw [← halts_iff, hfirst]
      exact Bool.false_ne_true
    rw [not_or] at hstops
    rw [executeAll_cons] at h
    rw [List.cons_append, run_cons surface index hstops.1 hstops.2, List.length_cons,
      Nat.add_comm others.length 1, ← Nat.add_assoc]
    rcases hexecute : execute surface operation memory state with ⟨memory', reply⟩
    rw [hexecute] at h
    cases reply with
    | done state' => exact ih hothers h (index + 1)
    | refused error state' => exact ih hothers h (index + 1)
    | fault cause => cases h

/-- A new player completes a program of which no operation stops the run. -/
theorem play_fresh_of_executeAll {surface : Surface σ ε} {program : Program}
    (hgoes : ∀ operation ∈ program.operations, operation.halts = false) {after : Memory}
    {state final : σ}
    (h : executeAll surface program.operations {} state = .ok (after, final)) :
    fresh.play surface program state = .ok (.completed, { memory := after }, final) := by
  by_cases hne : program.operations = []
  · rw [hne] at h
    cases h
    exact play_empty surface hne fresh state
  · have hentry : (fresh.dropForeignPause program.digest).entry = .ok (0, fresh) := rfl
    have hrun := run_append_of_executeAll hgoes h 0 []
    rw [List.append_nil, run_nil] at hrun
    have hentered : run surface 0 program.operations fresh.memory state = _ := hrun
    rw [play_of_entry surface hne hentry, List.drop_zero, hentered]
    rfl

/-- Without operations to execute, the outcome is all that a run gives. -/
theorem playFrom_of_segment_nil (surface : Surface σ ε) {operations : List Operation} {start : Nat}
    (h : segment operations start = []) (memory : Memory) (state : σ) :
    playFrom surface operations start memory state =
      .ok (outcomeFrom operations start, memory, state) := by
  rw [playFrom, h]
  rfl

/-- A run executes each operation before the first pause or end once and in order. -/
theorem run_eq_playFrom (surface : Surface σ ε) (operations : List Operation) (start : Nat)
    (memory : Memory) (state : σ) :
    run surface start (operations.drop start) memory state =
      playFrom surface operations start memory state := by
  -- The induction is on the operations left; the index moves along with them.
  generalize hleft : operations.drop start = left
  induction left generalizing start memory state with
  | nil =>
    rw [playFrom_of_segment_nil surface (segment_nil hleft), outcomeFrom, haltIndex?_nil hleft]
    rfl
  | cons operation rest ih =>
    have hget : operations[start]? = some operation := by
      rw [← List.head?_drop, hleft, List.head?_cons]
    by_cases hpause : operation.kind = .pause
    · have hhalts := (halts_iff operation).mpr (.inl hpause)
      rw [playFrom_of_segment_nil surface (segment_halts hleft hhalts), outcomeFrom,
        haltIndex?_halts hleft hhalts, run_pause surface start hpause]
      simp [hget, hpause]
    · by_cases hfinish : operation.kind = .finish
      · have hhalts := (halts_iff operation).mpr (.inr hfinish)
        rw [playFrom_of_segment_nil surface (segment_halts hleft hhalts), outcomeFrom,
          haltIndex?_halts hleft hhalts, run_finish surface start hfinish]
        simp [hget, hfinish]
      · have hgoes : operation.halts = false := by simp [halts, hpause, hfinish]
        have hrest := drop_succ_of_drop hleft
        have houtcome : outcomeFrom operations start = outcomeFrom operations (start + 1) := by
          rw [outcomeFrom, haltIndex?_next hleft hgoes, ← outcomeFrom]
        rw [run_cons surface start hpause hfinish, playFrom, segment_next hleft hgoes,
          executeAll_cons, houtcome]
        rcases execute surface operation memory state with ⟨memory', reply⟩
        cases reply with
        | done state' => exact ih (start + 1) memory' state' hrest
        | refused error state' => exact ih (start + 1) memory' state' hrest
        | fault cause => rfl

/-! ## Where a play starts -/

/-- The index and the memory with which a play of a program with a given digest starts: behind the
pause if the player is suspended in that program, and else at the beginning with nothing
remembered. -/
def startOf (player : Player) (digest : Text) : Nat × Memory :=
  match player.pauseIndex with
  | some index => if player.pausedDigest = some digest then (index + 1, player.memory) else (0, {})
  | none => (0, {})

/-- A play enters its program where `startOf` says, if that index fits into a word. -/
theorem entry_eq (player : Player) (digest : Text) :
    (player.dropForeignPause digest).entry.map (fun (start, entered) => (start, entered.memory)) =
      if (player.startOf digest).1 < wordLimit then .ok (player.startOf digest)
      else .error .resumeOverflow := by
  unfold dropForeignPause startOf
  cases hindex : player.pauseIndex with
  | none => simp [entry, hindex, Except.map, wordLimit]
  | some index =>
    by_cases hdigest : player.pausedDigest = some digest
    · by_cases hlimit : index + 1 < wordLimit
      · simp [entry, hindex, hdigest, hlimit, Except.map, resetPause]
      · simp [entry, hindex, hdigest, hlimit, Except.map]
    · simp [entry, hdigest, Except.map, resetPause, wordLimit]

theorem startOf_of_entry {player entered : Player} {digest : Text} {start : Nat}
    (h : (player.dropForeignPause digest).entry = .ok (start, entered)) :
    player.startOf digest = (start, entered.memory) ∧ start < wordLimit := by
  have heq := entry_eq player digest
  rw [h] at heq
  split at heq
  · rename_i hlimit
    have hstart : player.startOf digest = (start, entered.memory) := (Except.ok.inj heq).symm
    rw [hstart] at hlimit
    exact ⟨hstart, hlimit⟩
  · cases heq

/-! ## Plays -/

/-- A play that gives an answer executes the operations from its start up to the one that stops it,
and settles the player by its outcome. -/
theorem eq_of_play {surface : Surface σ ε} {program : Program} (hne : program.operations ≠ [])
    {player after : Player} {state final : σ} {outcome : Outcome}
    (h : player.play surface program state = .ok (outcome, after, final)) :
    ∃ start entered, (player.dropForeignPause program.digest).entry = .ok (start, entered) ∧
      outcome = outcomeFrom program.operations start ∧
      executeAll surface (segment program.operations start) entered.memory state =
        .ok (after.memory, final) ∧
      after = entered.settle program.digest after.memory outcome := by
  cases hentry : (player.dropForeignPause program.digest).entry with
  | error cause =>
    rw [play_of_entry_error surface hne hentry] at h
    cases h
  | ok result =>
    obtain ⟨start, entered⟩ := result
    rw [play_of_entry surface hne hentry, run_eq_playFrom, playFrom] at h
    refine ⟨start, entered, rfl, ?_⟩
    cases hall : executeAll surface (segment program.operations start) entered.memory state with
    | error cause =>
      rw [hall] at h
      cases h
    | ok result =>
      obtain ⟨memory, final'⟩ := result
      rw [hall] at h
      cases h
      rw [settle_memory]
      exact ⟨rfl, rfl, rfl⟩

/-- The pause that a settled player is left with does not depend on what it remembers. -/
theorem settle_pause (player : Player) (digest : Text) (first second : Memory)
    (outcome : Outcome) :
    (player.settle digest first outcome).pauseIndex =
        (player.settle digest second outcome).pauseIndex ∧
      (player.settle digest first outcome).pausedDigest =
        (player.settle digest second outcome).pausedDigest := by
  cases outcome <;> exact ⟨rfl, rfl⟩

/-- Two plays of a program by the same player on any two surfaces have the same outcome and leave
the same pause.  The outcome is that of the first pause or end from the start of the play on, and
each play executes the operations before it once and in order, whatever its surface refuses. -/
theorem play_same_control {σ₁ ε₁ σ₂ ε₂ : Type} (surface₁ : Surface σ₁ ε₁)
    (surface₂ : Surface σ₂ ε₂) (player : Player) (program : Program)
    (hne : program.operations ≠ []) (state₁ final₁ : σ₁) (state₂ final₂ : σ₂)
    (outcome₁ outcome₂ : Outcome) (player₁ player₂ : Player)
    (h₁ : player.play surface₁ program state₁ = .ok (outcome₁, player₁, final₁))
    (h₂ : player.play surface₂ program state₂ = .ok (outcome₂, player₂, final₂)) :
    outcome₁ = outcome₂ ∧ player₁.pauseIndex = player₂.pauseIndex ∧
      player₁.pausedDigest = player₂.pausedDigest ∧
      outcome₁ = outcomeFrom program.operations (player.startOf program.digest).1 ∧
      executeAll surface₁ (segment program.operations (player.startOf program.digest).1)
          (player.startOf program.digest).2 state₁ = .ok (player₁.memory, final₁) ∧
      executeAll surface₂ (segment program.operations (player.startOf program.digest).1)
          (player.startOf program.digest).2 state₂ = .ok (player₂.memory, final₂) := by
  obtain ⟨start, entered, hentry, houtcome₁, hall₁, hafter₁⟩ := eq_of_play hne h₁
  obtain ⟨start', entered', hentry', houtcome₂, hall₂, hafter₂⟩ := eq_of_play hne h₂
  -- The entry is found without looking at a surface, so it is the same for both plays.
  rw [hentry] at hentry'
  cases hentry'
  have hsame : outcome₁ = outcome₂ := houtcome₁.trans houtcome₂.symm
  obtain ⟨hindex, hdigest⟩ :=
    settle_pause entered program.digest player₁.memory player₂.memory outcome₁
  rw [(startOf_of_entry hentry).1]
  refine ⟨hsame, ?_, ?_, houtcome₁, hall₁, hall₂⟩
  · rw [hafter₁, hafter₂, ← hsame]
    exact hindex
  · rw [hafter₁, hafter₂, ← hsame]
    exact hdigest

/-- An insertion and a remembered position between two pauses. -/
def betweenPauses : Program :=
  { operations :=
      [{ kind := .pause, sourceLine := 1 },
       { kind := .insertText, payload := .text ['x'], sourceLine := 2 },
       { kind := .pushPosition, sourceLine := 3 },
       { kind := .pause, sourceLine := 4 }]
    digest := ['d'] }

/-- The program is resumed behind its first pause, on a document and on another one that refuses
the insertion.  The plays remember different positions and are suspended at the same pause. -/
theorem play_same_control_refusal :
    ∃ player₁ final₁ player₂ final₂,
      play Document.surface betweenPauses ⟨{}, some 0, some ['d']⟩ (Document.ofText ['a']) =
        .ok (.paused 3, player₁, final₁) ∧
      play (Document.surface.recorded OutOfBounds.message) betweenPauses
          ⟨{}, some 0, some ['d']⟩ { inner := Document.ofText ['a'], refusals := [0] } =
        .ok (.paused 3, player₂, final₂) ∧
      player₁.memory ≠ player₂.memory ∧ player₁.pauseIndex = player₂.pauseIndex ∧
      player₁.pausedDigest = player₂.pausedDigest := by
  refine ⟨_, _, _, _, rfl, rfl, by decide, ?_⟩
  obtain ⟨-, hindex, hdigest, -⟩ :=
    play_same_control Document.surface (Document.surface.recorded OutOfBounds.message)
      ⟨{}, some 0, some ['d']⟩ betweenPauses (by decide) (Document.ofText ['a']) _
      { inner := Document.ofText ['a'], refusals := [0] } _ _ _ _ _ rfl rfl
  exact ⟨hindex, hdigest⟩

end Player

end EditPlayer
