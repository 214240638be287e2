import EditPlayer.Proofs.Reach
set_option autoImplicit false

/-!
# Moves on a document are done

Wherever a move leads lies in the document, so a document with a selection that lies in it performs
every move whose count has a negative counterpart.  `Selectable.move` says so together with what the
move keeps: any property of the document that does not depend on what is selected.  The same goes
for all operations that replace nothing (`Selectable.execute_of_none`), except for going back to a
position that was remembered.
-/

namespace EditPlayer

/-! ## Replies that are done -/

namespace Reply

variable {σ ε : Type} {P : σ → Prop}

/-- The edit was done and leaves a state with `P`. -/
def Done (P : σ → Prop) : Reply σ ε → Prop
  | done state => P state
  | refused _ _ => False
  | fault _ => False

theorem Done.exists_eq {reply : Reply σ ε} (h : reply.Done P) :
    ∃ state, reply = .done state ∧ P state := by
  cases reply with
  | done state => exact ⟨state, rfl, h⟩
  | refused error state => exact absurd h id
  | fault cause => exact absurd h id

theorem Done.andThen {reply : Reply σ ε} {next : σ → Reply σ ε} (h : reply.Done P)
    (hnext : ∀ state, P state → (next state).Done P) : (reply.andThen next).Done P := by
  obtain ⟨state, rfl, hstate⟩ := h.exists_eq
  exact hnext state hstate

theorem Done.times {step : σ → Reply σ ε} (hstep : ∀ state, P state → (step state).Done P)
    (n : Nat) {state : σ} (hstate : P state) : (times step n state).Done P := by
  induction n generalizing state with
  | zero => exact hstate
  | succ n ih =>
    rw [times_succ]
    exact (hstep state hstate).andThen fun next hnext => ih hnext

end Reply

namespace Document

open Player

variable {document : Document}

/-- A selection that lies in the document is taken. -/
theorem setSelection_eq {selection : Selection} (hanchor : document.view.Holds selection.anchor)
    (hactive : document.view.Holds selection.active) :
    document.setSelection selection = .done { document with selection } := by
  rw [setSelection, if_neg (not_not_intro hanchor), if_neg (not_not_intro hactive)]

/-- The cursor is placed wherever the document has a position. -/
theorem SelectionHolds.moveActive_eq (h : document.SelectionHolds) {place : Position}
    (hplace : document.view.Holds place) (select : Bool) :
    moveActive surface place select document = .done (document.movedTo place select) := by
  refine setSelection_eq ?_ hplace
  dsimp only
  split
  · exact h.holds_anchor
  · exact hplace

/-- The ends of a word lie in the document. -/
theorem holds_wordEdge {edge : Range → Position}
    (hedge : ∀ range, edge range = range.start ∨ edge range = range.stop) {p : Position}
    {range : Range} (h : document.wordRangeAt p = some range) :
    document.view.Holds (edge range) := by
  obtain ⟨hstart, hstop⟩ := holds_wordRangeAt h
  rcases hedge range with heq | heq
  · exact heq ▸ hstart
  · exact heq ▸ hstop

namespace Selectable

variable {P : Document → Prop} (hP : Selectable P)

include hP

theorem setSelection (h : P document) {selection : Selection}
    (hanchor : document.view.Holds selection.anchor)
    (hactive : document.view.Holds selection.active) :
    (document.setSelection selection).Done P := by
  rw [setSelection_eq hanchor hactive]
  exact hP.select h hanchor hactive

theorem moveActive (h : P document) {place : Position} (hplace : document.view.Holds place)
    (select : Bool) : (Player.moveActive surface place select document).Done P := by
  rw [(hP.selectionHolds h).moveActive_eq hplace]
  exact hP.movedTo h hplace select

theorem moveToWordEdge (h : P document) {edge : Range → Position}
    (hedge : ∀ range, edge range = range.start ∨ edge range = range.stop) (select : Bool) :
    (Player.moveToWordEdge surface edge select document).Done P := by
  unfold Player.moveToWordEdge
  split
  · rename_i range hrange
    exact hP.moveActive h (holds_wordEdge hedge hrange) select
  · exact h

theorem stepWord (h : P document) (course : Text.Course) (select : Bool) :
    (Player.stepWord surface course select document).Done P := by
  unfold Player.stepWord
  dsimp only
  split
  · rename_i column hcolumn
    obtain ⟨line, hline, hnext⟩ := Option.bind_eq_some_iff.mp hcolumn
    exact hP.moveActive h (holds_of_line? hline (le_of_nextWordColumn? hnext)) select
  · exact h

theorem moveByOffset (h : P document) (distance : Int) (select : Bool) :
    (Player.moveByOffset surface distance select document).Done P :=
  hP.moveActive h (LineView.holds_positionAt (hP.selectionHolds h).count_pos _) select

theorem moveToPattern (h : P document) (pattern : Text) (n : Nat) (course : Text.Course)
    (select : Bool) :
    (Player.moveToPattern surface pattern n course select document).Done P := by
  unfold Player.moveToPattern
  dsimp only
  split
  · rename_i range hrange
    obtain ⟨hstart, hstop⟩ := holds_patternRange? hrange
    cases select with
    | true => exact hP.setSelection h hstart hstop
    | false => exact hP.setSelection h hstart hstart
  · exact h

theorem moveTo (h : P document) (target : Target) (movement : Movement) {payload : Payload}
    (hcount : payload.repeats ≠ signLimit) (select : Bool) :
    (Player.moveTo surface target movement payload select document).Done P := by
  unfold Player.moveTo
  dsimp only
  split
  case h_9 | h_10 =>
    refine Reply.Done.times (fun next hnext => ?_) payload.repeats h
    exact hP.moveCursor hnext _ 1 select
  case h_11 => exact hP.moveToWordEdge h (fun _ => .inl rfl) select
  case h_12 => exact hP.moveToWordEdge h (fun _ => .inr rfl) select
  case h_13 | h_14 =>
    exact Reply.Done.times (fun next hnext => hP.stepWord hnext _ select) payload.repeats h
  case h_15 => exact hP.moveByOffset h _ select
  case h_16 =>
    rw [if_neg hcount]
    exact hP.moveByOffset h _ select
  case h_17 | h_18 =>
    split
    · exact hP.moveToPattern h _ _ _ select
    · exact h
  case h_19 => exact h
  -- The remaining moves are motions that the document makes itself.
  all_goals exact hP.moveCursor h _ _ select

theorem move (h : P document) {operation : Operation} (hcount : operation.repeats ≠ signLimit) :
    (Player.move surface operation document).Done P := by
  unfold Player.move
  split
  · exact hP.moveTo h _ _ hcount _
  · exact h

/-! ## Operations without a replacement -/

/-- An operation without a replacement is done, unless it goes back to a remembered position. -/
theorem execute_of_none
    (hcopy : ∀ {document}, P document → ∀ range,
      P (document.withClipboard (document.textIn range)))
    (h : P document) {operation : Operation} {memory : Memory}
    (hcount : operation.repeats ≠ signLimit) (hkind : operation.kind ≠ .popPosition)
    (hnone : replacement? surface operation memory document = none) :
    (execute surface operation memory document).2.Done P := by
  have hholds := hP.selectionHolds h
  obtain ⟨hstart, hstop⟩ := hholds.holds_range
  unfold replacement? at hnone
  unfold Player.execute
  dsimp only at hnone ⊢
  cases hshape : operation.kind <;> simp only [hshape] at hnone ⊢
  case move => exact hP.move h hcount
  case insertText =>
    simp only [hnone]
    exact h
  case copy =>
    split
    · split
      · exact h
      · exact hcopy h _
    · exact h
  case paste =>
    split
    · rename_i copied hcopied
      have hempty : copied.isEmpty = true := by simpa [hcopied] using hnone
      rw [if_pos hempty]
      exact h
    · exact h
  case select =>
    split
    · rename_i range hrange
      obtain ⟨hfirst, hlast⟩ := hholds.holds_targetRange? hrange
      exact hP.setSelection h hfirst hlast
    · exact h
  case delete =>
    split
    · exact h
    · rename_i hselection
      rw [if_neg hselection] at hnone
      cases hnone
  case swapSelection =>
    split
    · exact h
    · exact hP.setSelection h hholds.holds_active hholds.holds_anchor
  case find =>
    refine Reply.Done.times (fun next hnext => ?_) operation.repeats h
    exact hP.find hnext _
  case deselect =>
    split
    · exact h
    · have hplace : document.view.Holds
          (if operation.movement = some .finish then document.selection.stop
            else document.selection.start) := by
        split
        · exact hstop
        · exact hstart
      exact hP.setSelection h hplace hplace
  case popPosition => exact absurd hshape hkind
  case pushText => split <;> exact h
  case popText =>
    have htexts : memory.texts = [] := by simpa using hnone
    simp only [htexts]
    exact h
  case convert =>
    split
    · rename_i conversion hconversion
      have hempty : (surface.selection document).isEmpty = true := by
        simpa [hconversion] using hnone
      simp only [convertSelection, hempty, if_true]
      exact h
    · exact h
  case pushPosition | pause | finish => exact h

end Selectable

end Document

end EditPlayer
