import EditPlayer.Proofs.CharacterSteps
import EditPlayer.Proofs.ControlFlow
import EditPlayer.Proofs.WordRanges
set_option autoImplicit false

/-!
# A count means repetition

A move takes its count in one of four ways.  The document makes the motions by a character or a line
as often as it is told; the player goes from word to word, or from empty line to empty line, in a
loop; a move by a number of characters works out one offset; and a move to the start or the end of
something has no use for a count, because the second time it stays where it is.

Each way comes to the same as the move without a count, made so many times (`Player.times_moveTo`).
`Player.execute_count` says it of the operations of a program.
-/

namespace EditPlayer

namespace Reply

variable {σ ε : Type}

@[simp] theorem times_one (step : σ → Reply σ ε) : times step 1 = step :=
  funext fun state => andThen_done (step state)

/-- A step that rests where it leads makes no difference the second time. -/
theorem times_of_rests {step : σ → Reply σ ε} {state after : σ} (h : step state = .done after)
    (hrests : step after = .done after) {n : Nat} (hn : 1 ≤ n) :
    times step n state = .done after := by
  induction hn generalizing state with
  | refl => rw [times_one, h]
  | step _ ih => rw [times_succ, h, done_andThen, ih hrests]

end Reply

/-! ## Motions of the document -/

namespace LineView

variable {view : LineView} {p : Position}

theorem line_of_trimmedLineRangeAt {range : Range} (h : view.trimmedLineRangeAt p = some range) :
    range.start.line = p.line ∧ range.stop.line = p.line := by
  obtain ⟨text, -, rfl⟩ := Option.map_eq_some_iff.mp h
  unfold Range.between
  split <;> exact ⟨rfl, rfl⟩

/-- From an end of the trimmed line the same end is found. -/
theorem getD_trimmedLineRangeAt {edge : Range → Position} {place : Position}
    (hedge : ∀ range, edge range = range.start ∨ edge range = range.stop)
    (hplace : place = ((view.trimmedLineRangeAt p).map edge).getD p) :
    ((view.trimmedLineRangeAt place).map edge).getD place = place := by
  have hline : place.line = p.line := by
    rw [hplace]
    cases hrange : view.trimmedLineRangeAt p with
    | none => rfl
    | some range =>
      obtain ⟨hstart, hstop⟩ := line_of_trimmedLineRangeAt hrange
      rcases hedge range with heq | heq
      · exact (congrArg _ heq).trans hstart
      · exact (congrArg _ heq).trans hstop
  have hsame : view.trimmedLineRangeAt place = view.trimmedLineRangeAt p := by
    rw [trimmedLineRangeAt, trimmedLineRangeAt, hline]
  rw [hsame]
  cases hrange : view.trimmedLineRangeAt p with
  | none => rfl
  | some range =>
    rw [hrange] at hplace
    exact hplace.symm

end LineView

namespace Motion

/-- A motion to the start or the end of a line, with or without its blanks. -/
def IsLineEdge : Motion → Prop
  | .lineStart | .lineEnd | .firstNonBlank | .lastNonBlank => True
  | _ => False

end Motion

namespace Document

variable {document : Document} {n : Nat}

/-- A motion to an end of the line rests there. -/
theorem step_step_of_isLineEdge {motion : Motion} (h : motion.IsLineEdge) (p : Position) :
    document.step motion (document.step motion p) = document.step motion p := by
  cases motion with
  | lineStart => rfl
  | lineEnd => rfl
  | firstNonBlank => exact LineView.getD_trimmedLineRangeAt (fun _ => .inl rfl) rfl
  | lastNonBlank => exact LineView.getD_trimmedLineRangeAt (fun _ => .inr rfl) rfl
  | _ => exact absurd h id

/-- A motion made once and then a number of times is made once more than that. -/
theorem moveCursor_moveCursor (document : Document) (motion : Motion) (hn : 1 ≤ n)
    (select : Bool) :
    (document.moveCursor motion 1 select).moveCursor motion n select =
      document.moveCursor motion (n + 1) select := by
  have hsteps : iterate (document.step motion) (max n 1)
      (iterate (document.step motion) (max 1 1) document.selection.active) =
        iterate (document.step motion) (max (n + 1) 1) document.selection.active := by
    rw [Nat.max_eq_left hn, Nat.max_eq_left (Nat.le_add_left 1 n), Nat.max_self, iterate_one,
      iterate_succ]
  simp only [moveCursor_eq_movedTo]
  rw [← hsteps, movedTo_movedTo]
  rfl

/-- A motion made a number of times, one after the other, is the motion with that count. -/
theorem times_moveCursor {step : Document → Reply Document OutOfBounds} {motion : Motion}
    {select : Bool}
    (hstep : ∀ document, SelectionHolds document →
      step document = .done (document.moveCursor motion 1 select))
    (h : document.SelectionHolds) (hn : 1 ≤ n) :
    Reply.times step n document = .done (document.moveCursor motion n select) := by
  induction hn generalizing document with
  | refl => rw [Reply.times_one, hstep document h]
  | step hn ih =>
    rw [Reply.times_succ, hstep document h, Reply.done_andThen,
      ih (selectable_selectionHolds.moveCursor h motion 1 select),
      moveCursor_moveCursor document motion hn]

/-- A motion to an end of the line makes no difference the second time. -/
theorem times_lineEdge (motion : Motion) (hmotion : motion.IsLineEdge) (hn : 1 ≤ n)
    (select : Bool) :
    Reply.times (surface.perform (.moveCursor motion 1 select)) n document =
      .done (document.moveCursor motion 1 select) := by
  have hplace : iterate (document.step motion) (max (1 + 1) 1) document.selection.active =
      iterate (document.step motion) (max 1 1) document.selection.active := by
    rw [Nat.max_self, Nat.max_eq_left (Nat.le_add_left 1 1), iterate_succ, iterate_one,
      iterate_one, step_step_of_isLineEdge hmotion]
  have hrests : (document.moveCursor motion 1 select).moveCursor motion 1 select =
      document.moveCursor motion 1 select := by
    rw [moveCursor_moveCursor document motion (Nat.le_refl 1), moveCursor_eq_movedTo, hplace]
    rfl
  have hfirst : surface.perform (.moveCursor motion 1 select) document =
      .done (document.moveCursor motion 1 select) := rfl
  exact Reply.times_of_rests hfirst (congrArg Reply.done hrests) hn

/-! ## Words -/

namespace SelectionHolds

variable (h : document.SelectionHolds) {edge : Range → Position}
  (hedge : ∀ range, edge range = range.start ∨ edge range = range.stop)

include h hedge

theorem moveToWordEdge_eq {range : Range}
    (hrange : document.wordRangeAt document.selection.active = some range) (select : Bool) :
    Player.moveToWordEdge surface edge select document =
      .done (document.movedTo (edge range) select) := by
  have hfound : surface.wordRangeAt document (surface.selection document).active = some range :=
    hrange
  unfold Player.moveToWordEdge
  rw [hfound]
  exact h.moveActive_eq (holds_wordEdge hedge hrange) select

/-- An end of the word at the cursor is an end of the word that is found there. -/
theorem times_moveToWordEdge {n : Nat} (hn : 1 ≤ n) (select : Bool) :
    Reply.times (Player.moveToWordEdge surface edge select) n document =
      Player.moveToWordEdge surface edge select document := by
  cases hrange : document.wordRangeAt document.selection.active with
  | none =>
    have hfound : surface.wordRangeAt document (surface.selection document).active = none := hrange
    have hstays : Player.moveToWordEdge surface edge select document = .done document := by
      unfold Player.moveToWordEdge
      rw [hfound]
    rw [Reply.times_of_rests hstays hstays hn, hstays]
  | some range =>
    have hmoved := h.moveToWordEdge_eq hedge hrange select
    have hnext : (document.movedTo (edge range) select).SelectionHolds :=
      selectable_selectionHolds.movedTo h (holds_wordEdge hedge hrange) select
    have hsame : (document.movedTo (edge range) select).wordRangeAt
        (document.movedTo (edge range) select).selection.active = some range :=
      wordRangeAt_wordEdge hedge hrange
    have hrests := hnext.moveToWordEdge_eq hedge hsame select
    rw [movedTo_movedTo] at hrests
    rw [Reply.times_of_rests hmoved hrests hn, hmoved]

end SelectionHolds

end Document

/-! ## Moves -/

namespace Player

section Counts

variable {document : Document} {n : Nat} (hn : 1 ≤ n)

include hn

/-- The document takes the count of a motion. -/
theorem times_motion (h : document.SelectionHolds) (motion : Motion) (select : Bool) :
    Reply.times (Document.surface.perform (.moveCursor motion (Payload.count 1).repeats select)) n
        document =
      Document.surface.perform (.moveCursor motion (Payload.count n).repeats select) document := by
  rw [Payload.repeats_count hn]
  exact Document.times_moveCursor (fun _ _ => rfl) h hn

/-- The player repeats a step as often as the count says. -/
theorem times_loop {σ ε : Type} (step : σ → Reply σ ε) (state : σ) :
    Reply.times (Reply.times step (Payload.count 1).repeats) n state =
      Reply.times step (Payload.count n).repeats state := by
  rw [Payload.repeats_count hn, Payload.repeats_count (Nat.le_refl 1), Reply.times_one]

/-- A move with a count does what the move without one does in so many times. -/
theorem times_moveTo (h : document.SelectionHolds) (hlimit : n < signLimit) (target : Target)
    {movement : Movement} (hmovement : movement ≠ .matchInLine) (select : Bool) :
    Reply.times (moveTo Document.surface target movement (.count 1) select) n document =
      moveTo Document.surface target movement (.count n) select document := by
  have hone : 1 < signLimit := by decide
  cases movement with
  | increment =>
    cases target with
    | character => exact times_motion hn h .right select
    | line => exact times_motion hn h .down select
    | _ => exact Reply.times_of_rests rfl rfl hn
  | decrement =>
    cases target with
    | character => exact times_motion hn h .left select
    | line => exact times_motion hn h .up select
    | _ => exact Reply.times_of_rests rfl rfl hn
  | start =>
    cases target with
    | line => exact Document.times_lineEdge .lineStart trivial hn select
    | trimmedLine => exact Document.times_lineEdge .firstNonBlank trivial hn select
    | word => exact h.times_moveToWordEdge (fun _ => .inl rfl) hn select
    | _ => exact Reply.times_of_rests rfl rfl hn
  | finish =>
    cases target with
    | line => exact Document.times_lineEdge .lineEnd trivial hn select
    | trimmedLine => exact Document.times_lineEdge .lastNonBlank trivial hn select
    | word => exact h.times_moveToWordEdge (fun _ => .inr rfl) hn select
    | _ => exact Reply.times_of_rests rfl rfl hn
  | next =>
    cases target with
    | emptyLine => exact times_loop hn _ document
    | word => exact times_loop hn _ document
    | _ => exact Reply.times_of_rests rfl rfl hn
  | previous =>
    cases target with
    | emptyLine => exact times_loop hn _ document
    | word => exact times_loop hn _ document
    | _ => exact Reply.times_of_rests rfl rfl hn
  | forward =>
    rw [moveTo_forward h hn hlimit]
    exact Document.times_moveCursor
      (fun _ hd => moveTo_forward hd (Nat.le_refl 1) hone target select) h hn
  | backward =>
    rw [moveTo_backward h hn hlimit]
    exact Document.times_moveCursor
      (fun _ hd => moveTo_backward hd (Nat.le_refl 1) hone target select) h hn
  | matchInLine => exact absurd rfl hmovement

theorem times_move (h : document.SelectionHolds) (hlimit : n < signLimit) {operation : Operation}
    (hmovement : operation.movement ≠ some .matchInLine) :
    Reply.times (move Document.surface { operation with payload := .count 1 }) n document =
      move Document.surface { operation with payload := .count n } document := by
  unfold move
  dsimp only
  cases htarget : operation.target with
  | none => exact Reply.times_of_rests rfl rfl hn
  | some target =>
    cases hgiven : operation.movement with
    | none => exact Reply.times_of_rests rfl rfl hn
    | some movement =>
      have hne : movement ≠ .matchInLine := fun heq => hmovement (hgiven.trans (congrArg _ heq))
      exact times_moveTo hn h hlimit target hne operation.select

end Counts

/-- A move that is executed again and again is done each time, if it can be done so many times. -/
theorem executeAll_replicate {σ ε : Type} {surface : Surface σ ε} (operation : Operation)
    (hkind : operation.kind = .move) {n : Nat} {state after : σ}
    (h : Reply.times (move surface operation) n state = .done after) (memory : Memory) :
    executeAll surface (List.replicate n operation) memory state = .ok (memory, after) := by
  induction n generalizing state with
  | zero =>
    cases h
    rfl
  | succ n ih =>
    have hexecute := execute_of_move surface operation hkind memory state
    rw [Reply.times_succ] at h
    cases hmove : move surface operation state with
    | done next =>
      rw [hmove, Reply.done_andThen] at h
      rw [hmove] at hexecute
      rw [List.replicate_succ, executeAll_cons_done hexecute, ih h]
    | refused error next =>
      rw [hmove] at h
      cases h
    | fault cause =>
      rw [hmove] at h
      cases h

/-- A move with a count is done, and leaves what the move with a count of one leaves after it has
been executed so many times. -/
theorem execute_count (document : Document)
    (hanchor : document.view.Holds document.selection.anchor)
    (hactive : document.view.Holds document.selection.active) (operation : Operation)
    (hkind : operation.kind = .move) (hmovement : operation.movement ≠ some .matchInLine) (n : Nat)
    (hn : 1 ≤ n) (hlimit : n < signLimit) (memory : Memory) :
    ∃ after,
      execute Document.surface { operation with payload := .count n } memory document =
        (memory, .done after) ∧
      executeAll Document.surface (List.replicate n { operation with payload := .count 1 }) memory
        document = .ok (memory, after) := by
  have h : document.SelectionHolds := ⟨hanchor, hactive⟩
  have hrepeats : Operation.repeats { operation with payload := .count n } ≠ signLimit := by
    rw [Operation.repeats, Payload.repeats_count hn]
    exact Nat.ne_of_lt hlimit
  obtain ⟨after, hafter, -⟩ := (Document.selectable_selectionHolds.move h hrepeats).exists_eq
  refine ⟨after, ?_, ?_⟩
  · rw [execute_of_move Document.surface { operation with payload := .count n } hkind, hafter]
  · have htimes := (times_move hn h hlimit hmovement).trans hafter
    exact executeAll_replicate { operation with payload := .count 1 } hkind htimes memory

/-- A line of three words, with the cursor on the first one. -/
def wordsOnLine : Document := Document.ofText "ab\tcd ef".toList

/-- A move to the next word that extends the selection. -/
def nextWord : Operation :=
  { kind := .move, target := some .word, movement := some .next, select := true, sourceLine := 1 }

/-- After two words the cursor stays where it is. -/
theorem execute_count_words :
    ∃ after,
      execute Document.surface { nextWord with payload := .count 3 } {} wordsOnLine =
        ({}, .done after) ∧
      executeAll Document.surface
        [{ nextWord with payload := .count 1 }, { nextWord with payload := .count 1 },
          { nextWord with payload := .count 1 }] {} wordsOnLine = .ok ({}, after) ∧
      after.selection = ⟨⟨0, 0⟩, ⟨0, 6⟩⟩ := by
  obtain ⟨after, hdone, hall⟩ := execute_count wordsOnLine (by decide) (by decide) nextWord rfl
    (by decide) 3 (by decide) (by decide) {}
  refine ⟨after, hdone, hall, ?_⟩
  cases hdone
  rfl

end Player

end EditPlayer
