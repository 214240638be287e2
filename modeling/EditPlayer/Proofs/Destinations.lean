import EditPlayer.Proofs.Repetition
set_option autoImplicit false

/-!
# Where moves lead

Whether a move extends the selection does not matter for where it leads.  The place depends on the
lines and on the cursor alone: `Document.goal?` works it out, and gives none if the move leads
nowhere, because its target and its direction do not go together, no word touches the cursor, or no
further word begins on its line.  A move puts the cursor there and leaves everything else as it is,
apart from the anchor (`Player.moveTo_eq_goneTo`).  So the same move with and without an extension
ends with the same cursor (`Player.execute_select`).

A move on leads to no earlier place and a move back to no later one (`Document.leads_goal?`).
-/

namespace EditPlayer

/-! ## Directions -/

namespace Text.Course

/-- Going this way from the first place one comes to the second, or stays. -/
def Leads {α : Type} [LE α] (course : Course) (a b : α) : Prop :=
  match course with
  | .forward => a ≤ b
  | .backward => b ≤ a

theorem leads_refl (course : Course) (p : Position) : course.Leads p p := by
  cases course <;> exact Position.le_refl p

theorem Leads.trans {course : Course} {p q r : Position} (h₁ : course.Leads p q)
    (h₂ : course.Leads q r) : course.Leads p r := by
  cases course with
  | forward => exact Position.le_trans h₁ h₂
  | backward => exact Position.le_trans h₂ h₁

end Text.Course

/-- The direction of a motion that goes on or back. -/
def Motion.course? : Motion → Option Text.Course
  | .right | .down | .nextBlankLine => some .forward
  | .left | .up | .previousBlankLine => some .backward
  | .lineStart | .lineEnd | .firstNonBlank | .lastNonBlank => none

/-- The direction of a move that goes on or back. -/
def Movement.course? : Movement → Option Text.Course
  | .increment | .next | .forward => some .forward
  | .decrement | .previous | .backward => some .backward
  | .start | .finish | .matchInLine => none

/-- Does the move go by a number of characters?  Its count is then read as a signed number. -/
def Movement.isSigned : Movement → Bool
  | .forward | .backward => true
  | .increment | .decrement | .start | .finish | .next | .previous | .matchInLine => false

/-- The motion that a move makes, if it is one that a document makes itself.  A move by a number of
characters makes as many steps. -/
def Player.motion? : Target → Movement → Option Motion
  | .character, .increment => some .right
  | .character, .decrement => some .left
  | .line, .increment => some .down
  | .line, .decrement => some .up
  | .line, .start => some .lineStart
  | .line, .finish => some .lineEnd
  | .trimmedLine, .start => some .firstNonBlank
  | .trimmedLine, .finish => some .lastNonBlank
  | .emptyLine, .next => some .nextBlankLine
  | .emptyLine, .previous => some .previousBlankLine
  | _, .forward => some .right
  | _, .backward => some .left
  | _, _ => none

/-- A motion has the direction of its move. -/
theorem Player.course?_of_motion? {target : Target} {movement : Movement} {motion : Motion}
    {course : Text.Course} (hmotion : motion? target movement = some motion)
    (hcourse : movement.course? = some course) : motion.course? = some course := by
  cases movement <;> cases hcourse <;> cases target <;> cases hmotion <;> rfl

namespace Document

variable {document : Document} {p q : Position} {course : Text.Course} {n : Nat}

/-! ## From word to word -/

/-- The start of the nearest word that begins beyond a position on its line. -/
def nextWord? (document : Document) (course : Text.Course) (p : Position) : Option Position :=
  ((document.view.line? p.line).bind (Player.nextWordColumn? · p.column course)).map fun column =>
    ⟨p.line, column⟩

/-- The start of the nearest such word, or the position itself if there is none. -/
def wordStep (document : Document) (course : Text.Course) (p : Position) : Position :=
  (document.nextWord? course p).getD p

/-- The position `n` words further, or as many as there are; none if there is no further word. -/
def wordsOn? (document : Document) (course : Text.Course) (n : Nat) (p : Position) :
    Option Position :=
  (document.nextWord? course p).map fun _ => iterate (document.wordStep course) n p

theorem holds_nextWord? (h : document.nextWord? course p = some q) : document.view.Holds q := by
  obtain ⟨column, hcolumn, rfl⟩ := Option.map_eq_some_iff.mp h
  obtain ⟨line, hline, hnext⟩ := Option.bind_eq_some_iff.mp hcolumn
  exact holds_of_line? hline (le_of_nextWordColumn? hnext)

theorem leads_nextWord? (h : document.nextWord? course p = some q) : course.Leads p q := by
  obtain ⟨column, hcolumn, rfl⟩ := Option.map_eq_some_iff.mp h
  obtain ⟨line, -, hnext⟩ := Option.bind_eq_some_iff.mp hcolumn
  cases course with
  | forward =>
    rw [Player.nextWordColumn?] at hnext
    have hbeyond := List.find?_some hnext
    exact (Position.le_iff _ _).mpr (.inr ⟨rfl, Nat.le_of_lt (of_decide_eq_true hbeyond)⟩)
  | backward =>
    rw [Player.nextWordColumn?] at hnext
    have hbeyond := List.find?_some hnext
    exact (Position.le_iff _ _).mpr (.inr ⟨rfl, Nat.le_of_lt (of_decide_eq_true hbeyond)⟩)

/-! ## Goals -/

/-- Where a move from a position leads, if it leads anywhere. -/
def goal? (document : Document) (target : Target) (movement : Movement) (n : Nat) (p : Position) :
    Option Position :=
  match Player.motion? target movement with
  | some motion => some (iterate (document.step motion) n p)
  | none =>
      match target, movement with
      | .word, .start => (document.wordRangeAt p).map Range.start
      | .word, .finish => (document.wordRangeAt p).map Range.stop
      | .word, .next => document.wordsOn? .forward n p
      | .word, .previous => document.wordsOn? .backward n p
      | _, _ => none

/-- The document with its cursor where a move leads, or as it is if the move leads nowhere. -/
def goneTo (place? : Option Position) (select : Bool) (document : Document) : Document :=
  match place? with
  | some place => document.movedTo place select
  | none => document

@[simp] theorem goneTo_some (document : Document) (place : Position) (select : Bool) :
    document.goneTo (some place) select = document.movedTo place select := rfl

@[simp] theorem goneTo_none (document : Document) (select : Bool) :
    document.goneTo none select = document := rfl

/-- From a word that was reached the rest of the words is gone. -/
theorem goneTo_wordsOn? (document : Document) (course : Text.Course) (n : Nat) (place : Position)
    (select : Bool) :
    (document.movedTo place select).goneTo (document.wordsOn? course n place) select =
      document.movedTo (iterate (document.wordStep course) n place) select := by
  cases hnext : document.nextWord? course place with
  | none =>
    have hrests : document.wordStep course place = place := by
      rw [wordStep, hnext, Option.getD_none]
    rw [wordsOn?, hnext, Option.map_none, goneTo_none, iterate_of_fixed hrests]
  | some further => rw [wordsOn?, hnext, Option.map_some, goneTo_some, movedTo_movedTo]

namespace SelectionHolds

variable (h : document.SelectionHolds) (select : Bool)

include h

theorem stepWord_eq (course : Text.Course) :
    Player.stepWord surface course select document =
      .done (document.goneTo (document.nextWord? course document.selection.active) select) := by
  unfold Player.stepWord
  dsimp only
  split
  · rename_i column hcolumn
    have hnext : document.nextWord? course document.selection.active =
        some ⟨document.selection.active.line, column⟩ := congrArg (Option.map _) hcolumn
    rw [hnext]
    exact h.moveActive_eq (holds_nextWord? hnext) select
  · rename_i hcolumn
    have hnext : document.nextWord? course document.selection.active = none :=
      congrArg (Option.map _) hcolumn
    rw [hnext, goneTo_none]

/-- To go from word to word in a loop is to go as many words on. -/
theorem times_stepWord (course : Text.Course) (hn : 1 ≤ n) :
    Reply.times (Player.stepWord surface course select) n document =
      .done (document.goneTo (document.wordsOn? course n document.selection.active) select) := by
  induction hn generalizing document with
  | refl =>
    rw [Reply.times_one, h.stepWord_eq, wordsOn?, iterate_one, wordStep]
    cases document.nextWord? course document.selection.active <;> rfl
  | @step n hn ih =>
    rw [Reply.times_succ, h.stepWord_eq, Reply.done_andThen]
    cases hnext : document.nextWord? course document.selection.active with
    | none =>
      rw [goneTo_none, ih h]
      simp only [wordsOn?, hnext, Option.map_none]
    | some place =>
      have hwords : document.wordsOn? course (n + 1) document.selection.active =
          some (iterate (document.wordStep course) n place) := by
        rw [wordsOn?, hnext, Option.map_some, iterate_succ, wordStep, hnext, Option.getD_some]
      have hmoved := selectable_selectionHolds.movedTo h (holds_nextWord? hnext) select
      rw [goneTo_some, ih hmoved, hwords, goneTo_some]
      exact congrArg Reply.done (goneTo_wordsOn? document course n place select)

/-- An end of the word at the cursor is where a move to it leads. -/
theorem moveToWordEdge_eq_goneTo {edge : Range → Position}
    (hedge : ∀ range, edge range = range.start ∨ edge range = range.stop) :
    Player.moveToWordEdge surface edge select document =
      .done (document.goneTo ((document.wordRangeAt document.selection.active).map edge)
        select) := by
  cases hrange : document.wordRangeAt document.selection.active with
  | none =>
    have hfound : surface.wordRangeAt document (surface.selection document).active = none := hrange
    unfold Player.moveToWordEdge
    rw [hfound, Option.map_none, goneTo_none]
  | some range =>
    rw [h.moveToWordEdge_eq hedge hrange, Option.map_some, goneTo_some]

end SelectionHolds

/-- A motion to an end of the line needs no count. -/
theorem moveCursor_of_isLineEdge (h : document.SelectionHolds) {motion : Motion}
    (hmotion : motion.IsLineEdge) (hn : 1 ≤ n) (select : Bool) :
    document.moveCursor motion n select = document.moveCursor motion 1 select := by
  have hloop : Reply.times (surface.perform (.moveCursor motion 1 select)) n document =
      .done (document.moveCursor motion n select) := times_moveCursor (fun _ _ => rfl) h hn
  rw [times_lineEdge motion hmotion hn] at hloop
  exact (Reply.done.inj hloop).symm

end Document

/-! ## Moves -/

namespace Player

variable {document : Document} {n : Nat}

/-- A move that is a motion of the document is made as often as its count says. -/
theorem moveTo_of_motion? (h : document.SelectionHolds) (hn : 1 ≤ n) {target : Target}
    {movement : Movement} (hlimit : movement.isSigned = true → n < signLimit) {motion : Motion}
    (hmotion : motion? target movement = some motion) (select : Bool) :
    moveTo Document.surface target movement (.count n) select document =
      .done (document.moveCursor motion n select) := by
  cases movement with
  | increment =>
    cases target <;> cases hmotion <;> rw [moveTo, Payload.repeats_count hn] <;> rfl
  | decrement =>
    cases target <;> cases hmotion <;> rw [moveTo, Payload.repeats_count hn] <;> rfl
  | start =>
    have hedge : motion.IsLineEdge := by cases target <;> cases hmotion <;> trivial
    rw [Document.moveCursor_of_isLineEdge h hedge hn]
    cases target <;> cases hmotion <;> rfl
  | finish =>
    have hedge : motion.IsLineEdge := by cases target <;> cases hmotion <;> trivial
    rw [Document.moveCursor_of_isLineEdge h hedge hn]
    cases target <;> cases hmotion <;> rfl
  | next =>
    cases target <;> cases hmotion
    rw [moveTo, Payload.repeats_count hn]
    exact Document.times_moveCursor (fun _ _ => rfl) h hn
  | previous =>
    cases target <;> cases hmotion
    rw [moveTo, Payload.repeats_count hn]
    exact Document.times_moveCursor (fun _ _ => rfl) h hn
  | forward =>
    have hright : motion = .right := by cases target <;> exact (Option.some.inj hmotion).symm
    rw [hright, moveTo_forward h hn (hlimit rfl)]
  | backward =>
    have hleft : motion = .left := by cases target <;> exact (Option.some.inj hmotion).symm
    rw [hleft, moveTo_backward h hn (hlimit rfl)]
  | matchInLine => cases target <;> cases hmotion

/-- A move puts the cursor where it leads. -/
theorem moveTo_eq_goneTo (h : document.SelectionHolds) (hn : 1 ≤ n) {movement : Movement}
    (hlimit : movement.isSigned = true → n < signLimit) (target : Target) (select : Bool) :
    moveTo Document.surface target movement (.count n) select document =
      .done (document.goneTo (document.goal? target movement n document.selection.active)
        select) := by
  unfold Document.goal?
  cases hmotion : motion? target movement with
  | some motion =>
    rw [moveTo_of_motion? h hn hlimit hmotion, Document.moveCursor_eq_movedTo,
      Nat.max_eq_left hn, Document.goneTo_some]
  | none =>
    cases target with
    | word =>
      cases movement with
      | start => exact h.moveToWordEdge_eq_goneTo select fun _ => .inl rfl
      | finish => exact h.moveToWordEdge_eq_goneTo select fun _ => .inr rfl
      | next =>
        rw [moveTo, Payload.repeats_count hn]
        exact h.times_stepWord select .forward hn
      | previous =>
        rw [moveTo, Payload.repeats_count hn]
        exact h.times_stepWord select .backward hn
      | increment | decrement | matchInLine => rfl
      | forward | backward => cases hmotion
    | _ => cases movement <;> cases hmotion <;> rfl

/-- A count of zero counts as one. -/
theorem moveTo_count_max {σ ε : Type} (surface : Surface σ ε) (target : Target)
    (movement : Movement) (n : Nat) (select : Bool) (state : σ) :
    moveTo surface target movement (.count (max n 1)) select state =
      moveTo surface target movement (.count n) select state := by
  have hrepeats : (Payload.count (max n 1)).repeats = (Payload.count n).repeats :=
    Payload.repeats_count (Nat.le_max_right n 1)
  unfold moveTo
  rw [hrepeats]

/-- Where the move of an operation leads, if it leads anywhere. -/
def goal? (operation : Operation) (document : Document) : Option Position :=
  match operation.target, operation.movement with
  | some target, some movement =>
      document.goal? target movement operation.repeats document.selection.active
  | _, _ => none

theorem move_eq_goneTo (h : document.SelectionHolds) (operation : Operation)
    (hpayload : operation.payload = .count n) (hlimit : n < signLimit) :
    move Document.surface operation document =
      .done (document.goneTo (goal? operation document) operation.select) := by
  have hcount : max n 1 < signLimit := Nat.max_lt.mpr ⟨hlimit, by decide⟩
  unfold move goal?
  rw [Operation.repeats, hpayload]
  cases operation.target with
  | none => rfl
  | some target =>
    cases operation.movement with
    | none => rfl
    | some movement =>
      dsimp only
      rw [← moveTo_count_max, moveTo_eq_goneTo h (Nat.le_max_right n 1) fun _ => hcount]
      rfl

/-- The same move ends with the same cursor, whether it extends the selection or not, and changes
nothing but the selection.  If it extends the selection the anchor stays.  If it does not, nothing
is selected afterwards, unless the move leads nowhere; then the selection is left as it was. -/
theorem execute_select (document : Document)
    (hanchor : document.view.Holds document.selection.anchor)
    (hactive : document.view.Holds document.selection.active) (operation : Operation)
    (hkind : operation.kind = .move) (n : Nat) (hpayload : operation.payload = .count n)
    (hlimit : n < signLimit) (memory : Memory) :
    ∃ extended placed,
      execute Document.surface { operation with select := true } memory document =
        (memory, .done extended) ∧
      execute Document.surface { operation with select := false } memory document =
        (memory, .done placed) ∧
      extended = { document with
        selection := ⟨document.selection.anchor, placed.selection.active⟩ } ∧
      placed = { document with
        selection :=
          if goal? operation document = none then document.selection
          else .caret placed.selection.active } := by
  have h : document.SelectionHolds := ⟨hanchor, hactive⟩
  have hexecute (select : Bool) :
      execute Document.surface { operation with select } memory document =
        (memory, .done (document.goneTo (goal? operation document) select)) := by
    rw [execute_of_move Document.surface { operation with select } hkind,
      move_eq_goneTo h { operation with select } hpayload hlimit]
    rfl
  refine ⟨_, _, hexecute true, hexecute false, ?_, ?_⟩
  · cases goal? operation document <;> rfl
  · cases goal? operation document <;> rfl

/-- Three words, selected backwards from the end of the line into the first word. -/
def wordsSelectedBackwards : Document :=
  { wordsOnLine with selection := ⟨⟨0, 8⟩, ⟨0, 1⟩⟩ }

/-- After two words the cursor stands on the last word, with the anchor behind it or with it. -/
theorem execute_select_words :
    ∃ extended placed,
      execute Document.surface { nextWord with payload := .count 2, select := true } {}
        wordsSelectedBackwards = ({}, .done extended) ∧
      execute Document.surface { nextWord with payload := .count 2, select := false } {}
        wordsSelectedBackwards = ({}, .done placed) ∧
      extended.selection = ⟨⟨0, 8⟩, ⟨0, 6⟩⟩ ∧ placed.selection = .caret ⟨0, 6⟩ := by
  obtain ⟨extended, placed, hextended, hplaced, -, -⟩ := execute_select wordsSelectedBackwards
    (by decide) (by decide) { nextWord with payload := .count 2 } rfl 2 rfl (by decide) {}
  refine ⟨extended, placed, hextended, hplaced, ?_, ?_⟩
  · cases hextended
    rfl
  · cases hplaced
    rfl

end Player

/-! ## Onwards and back -/

/-- Positions in the document are in the order of their offsets. -/
theorem LineView.le_iff_offsetAt_le {view : LineView} {p q : Position} (hp : view.Holds p)
    (hq : view.Holds q) : p ≤ q ↔ view.offsetAt p ≤ view.offsetAt q :=
  ⟨offsetAt_mono hp hq, le_of_offsetAt_le hp hq⟩

/-- No position in the document comes after its end. -/
theorem LineView.le_endPosition {view : LineView} {p : Position} (hp : view.Holds p) :
    p ≤ view.endPosition := by
  obtain ⟨hline, hcolumn⟩ := hp
  rw [Position.le_iff]
  by_cases hlast : p.line = view.lastLine
  · exact .inr ⟨hlast, by rw [endPosition, ← hlast]; exact hcolumn⟩
  · exact .inl (Nat.lt_of_le_of_ne (Nat.le_sub_one_of_lt hline) hlast)

namespace Document

variable {document : Document} {p place : Position} {course : Text.Course}

theorem le_step_right (hp : document.view.Holds p) : p ≤ document.step .right p := by
  have hlength := offsetAt_le_length hp
  rw [LineView.le_iff_offsetAt_le hp (holds_step .right hp), offsetAt_step_right hp]
  omega

theorem step_left_le (hp : document.view.Holds p) : document.step .left p ≤ p := by
  rw [LineView.le_iff_offsetAt_le (holds_step .left hp) hp, offsetAt_step_left hp]
  exact Nat.sub_le _ _

theorem le_step_down (document : Document) (p : Position) : p ≤ document.step .down p := by
  dsimp only [step]
  rw [Position.le_iff]
  split
  · rename_i hline
    exact .inl (Nat.lt_min.mpr ⟨Nat.lt_succ_self _, hline⟩)
  · exact .inr ⟨rfl, Nat.le_refl _⟩

theorem step_up_le (document : Document) (p : Position) : document.step .up p ≤ p := by
  dsimp only [step]
  rw [Position.le_iff]
  split
  · rename_i hline
    refine .inl (Nat.lt_of_le_of_lt (Nat.min_le_left _ _) ?_)
    exact Nat.sub_lt hline Nat.zero_lt_one
  · exact .inr ⟨rfl, Nat.le_refl _⟩

theorem le_step_nextBlankLine (hp : document.view.Holds p) :
    p ≤ document.step .nextBlankLine p := by
  dsimp only [step]
  cases hblank : document.nextBlankLine? p.line with
  | none => exact LineView.le_endPosition hp
  | some line =>
    obtain ⟨i, -, rfl⟩ := Option.map_eq_some_iff.mp hblank
    rw [Position.le_iff]
    exact .inl (Nat.le_add_left _ _)

theorem step_previousBlankLine_le (document : Document) (p : Position) :
    document.step .previousBlankLine p ≤ p := by
  dsimp only [step]
  rw [Position.le_iff]
  cases hblank : document.previousBlankLine? p.line with
  | none =>
    dsimp only [Option.map_none, Option.getD_none, Position.origin]
    omega
  | some line =>
    have hlt := lt_of_lastIndex? hblank
    rw [List.length_take] at hlt
    exact .inl (Nat.lt_of_lt_of_le hlt (Nat.min_le_left _ _))

/-- A motion on leads to no earlier position, and a motion back to no later one. -/
theorem leads_step {motion : Motion} (hcourse : motion.course? = some course)
    (hp : document.view.Holds p) : course.Leads p (document.step motion p) := by
  cases motion <;> cases hcourse
  case right => exact le_step_right hp
  case left => exact step_left_le hp
  case down => exact le_step_down document p
  case up => exact step_up_le document p
  case nextBlankLine => exact le_step_nextBlankLine hp
  case previousBlankLine => exact step_previousBlankLine_le document p

/-- Steps that lead one way lead that way together. -/
theorem leads_iterate {step : Position → Position}
    (hstep : ∀ q, document.view.Holds q → document.view.Holds (step q) ∧ course.Leads q (step q))
    (n : Nat) (hp : document.view.Holds p) : course.Leads p (iterate step n p) := by
  have hkept := iterate_keeps (P := fun q => document.view.Holds q ∧ course.Leads p q)
    (fun q hq => ⟨(hstep q hq.1).1, hq.2.trans (hstep q hq.1).2⟩) n ⟨hp, course.leads_refl p⟩
  exact hkept.2

/-- A step from word to word stays in the document and leads its way. -/
theorem wordStep_leads (hp : document.view.Holds p) :
    document.view.Holds (document.wordStep course p) ∧
      course.Leads p (document.wordStep course p) := by
  rw [wordStep]
  cases hnext : document.nextWord? course p with
  | none => exact ⟨hp, course.leads_refl p⟩
  | some q => exact ⟨holds_nextWord? hnext, leads_nextWord? hnext⟩

/-- A move on leads to no earlier position, and a move back to no later one. -/
theorem leads_goal? {target : Target} {movement : Movement} {n : Nat}
    (hcourse : movement.course? = some course) (hp : document.view.Holds p)
    (h : document.goal? target movement n p = some place) : course.Leads p place := by
  unfold goal? at h
  split at h
  · rename_i motion hmotion
    cases h
    have hdirection := Player.course?_of_motion? hmotion hcourse
    exact leads_iterate (fun q hq => ⟨holds_step motion hq, leads_step hdirection hq⟩) n hp
  · split at h
    · cases hcourse
    · cases hcourse
    · cases hcourse
      obtain ⟨q, -, rfl⟩ := Option.map_eq_some_iff.mp h
      exact leads_iterate (fun q hq => wordStep_leads hq) n hp
    · cases hcourse
      obtain ⟨q, -, rfl⟩ := Option.map_eq_some_iff.mp h
      exact leads_iterate (fun q hq => wordStep_leads hq) n hp
    · cases h

end Document

end EditPlayer
