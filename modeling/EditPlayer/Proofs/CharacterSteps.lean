import EditPlayer.Proofs.FlatText
import EditPlayer.Proofs.Moves
set_option autoImplicit false

/-!
# Moves by a number of characters

A step to the right goes to the next offset of the flat text, over the end of a line to the start of
the line below, and a step to the left goes to the offset before; at the ends of the document they
stay.  So `n` steps add `n` to the offset of the cursor, or take `n` from it, as far as the document
reaches.  A move by `n` characters works on the offset at once, and comes to the same
(`Player.execute_forward_backward`).
-/

namespace EditPlayer

namespace Document

variable {document : Document} {p : Position}

/-! ## Steps -/

/-- Only the end of the document has neither a character nor a line break behind it. -/
theorem eq_endPosition (hp : document.view.Holds p)
    (hcolumn : p.column = document.view.lineLength p.line)
    (hline : ¬ p.line < document.view.lastLine) : p = document.view.endPosition := by
  have hlast : p.line = document.view.lastLine := by
    have hlt := hp.1
    unfold LineView.lastLine at hline ⊢
    omega
  cases p with
  | mk line column =>
    dsimp only at hcolumn hlast
    rw [hcolumn, hlast, LineView.endPosition]

/-- A step to the right goes to the next offset, if there is one. -/
theorem offsetAt_step_right (hp : document.view.Holds p) :
    document.view.offsetAt (document.step .right p) =
      min (document.view.offsetAt p + 1) document.flat.length := by
  have hoffset := LineView.offsetAt_of_holds hp
  have hholds := holds_step .right hp
  have hbound := offsetAt_le_length hholds
  rcases Nat.lt_or_eq_of_le hp.2 with hcolumn | hcolumn
  · have hstep : document.step .right p = ⟨p.line, p.column + 1⟩ := if_pos hcolumn
    rw [hstep] at hholds hbound ⊢
    rw [LineView.offsetAt_of_holds hholds] at hbound ⊢
    dsimp only at hbound ⊢
    omega
  · have hnext : ¬ p.column < document.view.lineLength p.line := by omega
    by_cases hline : p.line < document.view.lastLine
    · -- The line break counts as the character between the two lines.
      have hstep : document.step .right p = ⟨p.line + 1, 0⟩ :=
        (if_neg hnext).trans (if_pos hline)
      rw [hstep] at hholds hbound ⊢
      rw [LineView.offsetAt_of_holds hholds] at hbound ⊢
      dsimp only at hbound ⊢
      rw [LineView.lengthBefore_succ] at hbound ⊢
      omega
    · have hstep : document.step .right p = p := (if_neg hnext).trans (if_neg hline)
      rw [hstep, eq_endPosition hp hcolumn hline,
        offsetAt_endPosition (Nat.zero_lt_of_lt hp.1)]
      omega

/-- A step to the left goes to the offset before, if there is one. -/
theorem offsetAt_step_left (hp : document.view.Holds p) :
    document.view.offsetAt (document.step .left p) = document.view.offsetAt p - 1 := by
  have hoffset := LineView.offsetAt_of_holds hp
  have hholds := holds_step .left hp
  by_cases hcolumn : 0 < p.column
  · have hstep : document.step .left p = ⟨p.line, p.column - 1⟩ := if_pos hcolumn
    rw [hstep] at hholds ⊢
    rw [LineView.offsetAt_of_holds hholds]
    dsimp only
    omega
  · by_cases hline : 0 < p.line
    · have hstep : document.step .left p =
          ⟨p.line - 1, document.view.lineLength (p.line - 1)⟩ :=
        (if_neg hcolumn).trans (if_pos hline)
      have hbefore : document.view.lengthBefore p.line =
          document.view.lengthBefore (p.line - 1) +
            (document.view.lineLength (p.line - 1) + 1) := by
        rw [← LineView.lengthBefore_succ, Nat.sub_add_cancel hline]
      rw [hstep] at hholds ⊢
      rw [LineView.offsetAt_of_holds hholds]
      dsimp only
      omega
    · have hstep : document.step .left p = p := (if_neg hcolumn).trans (if_neg hline)
      have hfirst : document.view.lengthBefore p.line = 0 := by
        rw [Nat.eq_zero_of_not_pos hline, LineView.lengthBefore_zero]
      rw [hstep]
      omega

/-- Steps to the right add to the offset, as far as the document reaches. -/
theorem offsetAt_iterate_right (n : Nat) (hp : document.view.Holds p) :
    document.view.offsetAt (iterate (document.step .right) n p) =
      min (document.view.offsetAt p + n) document.flat.length := by
  induction n generalizing p with
  | zero => exact (Nat.min_eq_left (offsetAt_le_length hp)).symm
  | succ n ih =>
    rw [iterate_succ, ih (holds_step .right hp), offsetAt_step_right hp]
    omega

/-- Steps to the left take from the offset, down to the start of the document. -/
theorem offsetAt_iterate_left (n : Nat) (hp : document.view.Holds p) :
    document.view.offsetAt (iterate (document.step .left) n p) =
      document.view.offsetAt p - n := by
  induction n generalizing p with
  | zero => rfl
  | succ n ih =>
    rw [iterate_succ, ih (holds_step .left hp), offsetAt_step_left hp]
    omega

/-! ## Offsets at once -/

/-- The position `n` offsets further on is `n` steps to the right. -/
theorem positionAt_add (n : Nat) (hp : document.view.Holds p) :
    document.view.positionAt (document.view.offsetAt p + n) =
      iterate (document.step .right) n p := by
  have hcount : 0 < document.view.count := Nat.zero_lt_of_lt hp.1
  refine LineView.eq_of_offsetAt_eq (LineView.holds_positionAt hcount _)
    (iterate_keeps (fun _ hq => holds_step .right hq) n hp) ?_
  rw [LineView.offsetAt_positionAt hcount, offsetAt_endPosition hcount,
    offsetAt_iterate_right n hp]

/-- The position `n` offsets back is `n` steps to the left. -/
theorem positionAt_sub (n : Nat) (hp : document.view.Holds p) :
    document.view.positionAt (document.view.offsetAt p - n) =
      iterate (document.step .left) n p := by
  have hcount : 0 < document.view.count := Nat.zero_lt_of_lt hp.1
  have hbound := offsetAt_le_length hp
  refine LineView.eq_of_offsetAt_eq (LineView.holds_positionAt hcount _)
    (iterate_keeps (fun _ hq => holds_step .left hq) n hp) ?_
  rw [LineView.offsetAt_positionAt hcount, offsetAt_endPosition hcount,
    offsetAt_iterate_left n hp]
  omega

namespace SelectionHolds

variable {n : Nat} (h : document.SelectionHolds) (hn : 1 ≤ n) (select : Bool)

include h hn

/-- To go on by a number of characters is to make as many steps to the right. -/
theorem moveByOffset_eq_right :
    Player.moveByOffset surface n select document =
      .done (document.moveCursor .right n select) := by
  have hplace : document.view.positionAt
      ((document.view.offsetAt document.selection.active : Int) + n).toNat =
        iterate (document.step .right) (max n 1) document.selection.active := by
    rw [Nat.max_eq_left hn, ← positionAt_add n h.holds_active]
    exact congrArg _ (by omega)
  rw [moveCursor_eq_movedTo, ← hplace]
  exact h.moveActive_eq (LineView.holds_positionAt h.count_pos _) select

/-- To go back by a number of characters is to make as many steps to the left. -/
theorem moveByOffset_eq_left :
    Player.moveByOffset surface (-n) select document =
      .done (document.moveCursor .left n select) := by
  have hplace : document.view.positionAt
      ((document.view.offsetAt document.selection.active : Int) + -n).toNat =
        iterate (document.step .left) (max n 1) document.selection.active := by
    rw [Nat.max_eq_left hn, ← positionAt_sub n h.holds_active]
    exact congrArg _ (by omega)
  rw [moveCursor_eq_movedTo, ← hplace]
  exact h.moveActive_eq (LineView.holds_positionAt h.count_pos _) select

end SelectionHolds

end Document

/-! ## Moves -/

namespace Player

/-- A move leaves the memory alone. -/
theorem execute_of_move {σ ε : Type} (surface : Surface σ ε) (operation : Operation)
    (hkind : operation.kind = .move) (memory : Memory) (state : σ) :
    execute surface operation memory state = (memory, move surface operation state) := by
  unfold execute
  simp only [hkind]

variable {document : Document} {n : Nat}

theorem moveTo_forward (h : document.SelectionHolds) (hn : 1 ≤ n) (hlimit : n < signLimit)
    (target : Target) (select : Bool) :
    moveTo Document.surface target .forward (.count n) select document =
      .done (document.moveCursor .right n select) := by
  have hmove := h.moveByOffset_eq_right hn select
  rw [← signedWord_of_lt hlimit] at hmove
  cases target <;> simpa only [moveTo, Payload.repeats_count hn] using hmove

theorem moveTo_backward (h : document.SelectionHolds) (hn : 1 ≤ n) (hlimit : n < signLimit)
    (target : Target) (select : Bool) :
    moveTo Document.surface target .backward (.count n) select document =
      .done (document.moveCursor .left n select) := by
  have hmove := h.moveByOffset_eq_left hn select
  rw [← signedWord_of_lt hlimit] at hmove
  cases target <;>
    simpa only [moveTo, Payload.repeats_count hn, if_neg (Nat.ne_of_lt hlimit)] using hmove

/-- A move by `n` characters does what `n` steps to the right or to the left do, whether the
selection is extended or not.  The cursor then is `n` characters further on, line breaks counted, or
at the end of the document; or `n` characters back, or at its start. -/
theorem execute_forward_backward (document : Document)
    (hanchor : document.view.Holds document.selection.anchor)
    (hactive : document.view.Holds document.selection.active) (n : Nat) (hn : 1 ≤ n)
    (hlimit : n < signLimit) (operation : Operation) (hkind : operation.kind = .move)
    (htarget : operation.target = some .character) (hpayload : operation.payload = .count n)
    (memory : Memory) :
    (∃ after,
      execute Document.surface { operation with movement := some .forward } memory document =
        (memory, .done after) ∧
      execute Document.surface { operation with movement := some .increment } memory document =
        (memory, .done after) ∧
      after.view.offsetAt after.selection.active =
        min (document.view.offsetAt document.selection.active + n) document.flat.length) ∧
    ∃ after,
      execute Document.surface { operation with movement := some .backward } memory document =
        (memory, .done after) ∧
      execute Document.surface { operation with movement := some .decrement } memory document =
        (memory, .done after) ∧
      after.view.offsetAt after.selection.active =
        document.view.offsetAt document.selection.active - n := by
  have h : document.SelectionHolds := ⟨hanchor, hactive⟩
  have hcount : max n 1 = n := Nat.max_eq_left hn
  have hexecute (movement : Movement) :
      execute Document.surface { operation with movement := some movement } memory document =
        (memory, moveTo Document.surface .character movement (.count n) operation.select
          document) := by
    rw [execute_of_move Document.surface { operation with movement := some movement } hkind,
      ← hpayload]
    unfold move
    simp only [htarget]
  constructor
  · refine ⟨document.moveCursor .right n operation.select, ?_, ?_, ?_⟩
    · rw [hexecute, moveTo_forward h hn hlimit]
    · rw [hexecute, moveTo, Payload.repeats_count hn]
      rfl
    · rw [← Document.offsetAt_iterate_right n hactive, Document.moveCursor_eq_movedTo, hcount]
      rfl
  · refine ⟨document.moveCursor .left n operation.select, ?_, ?_, ?_⟩
    · rw [hexecute, moveTo_backward h hn hlimit]
    · rw [hexecute, moveTo, Payload.repeats_count hn]
      rfl
    · rw [← Document.offsetAt_iterate_left n hactive, Document.moveCursor_eq_movedTo, hcount]
      rfl

/-- Three lines, the one in the middle empty, selected backwards from the start of the last line. -/
def selectedBackwards : Document :=
  { lines := [['a', 'b'], [], ['é']]
    lineBreak := .crlf
    selection := ⟨⟨2, 0⟩, ⟨0, 1⟩⟩
    clipboard := none }

/-- A move by three characters that extends the selection. -/
def threeCharacters : Operation :=
  { kind := .move, target := some .character, payload := .count 3, select := true, sourceLine := 1 }

/-- Forwards the cursor goes over two line breaks onto the anchor, and backwards it comes to the
start of the document. -/
theorem execute_forward_backward_three :
    (∃ after,
      execute Document.surface { threeCharacters with movement := some .forward } {}
        selectedBackwards = ({}, .done after) ∧
      execute Document.surface { threeCharacters with movement := some .increment } {}
        selectedBackwards = ({}, .done after) ∧
      after.view.offsetAt after.selection.active = 4) ∧
    ∃ after,
      execute Document.surface { threeCharacters with movement := some .backward } {}
        selectedBackwards = ({}, .done after) ∧
      execute Document.surface { threeCharacters with movement := some .decrement } {}
        selectedBackwards = ({}, .done after) ∧
      after.view.offsetAt after.selection.active = 0 :=
  execute_forward_backward selectedBackwards (by decide) (by decide) 3 (by decide) (by decide)
    threeCharacters rfl rfl rfl {}

end Player

end EditPlayer
