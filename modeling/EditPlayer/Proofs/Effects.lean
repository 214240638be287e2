import EditPlayer.Player.Basic
set_option autoImplicit false

/-!
# What an operation does to a surface

A player changes a surface only by the edits that it asks for.  So what all edits keep an operation
keeps as well, and it breaks off only where one of its edits does, where the surface has no offset
for the cursor, or where a count has no negative counterpart.  At most one edit of an operation is a
replacement; it puts the text `replacement?` in place of the selection.

`Reply.Ends` says both at once: which states an edit may leave, and for which causes it may break
off.  There is one lemma for each function of the player, up to `execute_ends`.
-/

namespace EditPlayer

variable {σ ε : Type}

/-! ## Replies -/

namespace Reply

/-- The reply leaves a state with `P`, or breaks off for a cause with `F`. -/
def Ends (P : σ → Prop) (F : Fault → Prop) : Reply σ ε → Prop
  | done state => P state
  | refused _ state => P state
  | fault cause => F cause

variable {P : σ → Prop} {F : Fault → Prop}

theorem Ends.andThen {reply : Reply σ ε} {next : σ → Reply σ ε} (h : reply.Ends P F)
    (hnext : ∀ state, P state → (next state).Ends P F) : (reply.andThen next).Ends P F := by
  cases reply with
  | done state => exact hnext state h
  | refused error state => exact h
  | fault cause => exact h

theorem Ends.times {step : σ → Reply σ ε} (hstep : ∀ state, P state → (step state).Ends P F)
    (n : Nat) {state : σ} (hstate : P state) : (times step n state).Ends P F := by
  induction n generalizing state with
  | zero => exact hstate
  | succ n ih =>
    rw [times_succ]
    exact (hstep state hstate).andThen fun next hnext => ih hnext

@[simp] theorem andThen_done (reply : Reply σ ε) : reply.andThen done = reply := by
  cases reply <;> rfl

end Reply

/-- Whether an edit changes the text of the document. -/
def Edit.isReplacement : Edit → Bool
  | .replace _ _ => true
  | _ => false

/-- Edits that replace nothing leave states with `P`, and the surface breaks off for causes with `F`
alone, in such an edit or when it is asked for an offset. -/
structure Surface.Confined (surface : Surface σ ε) (P : σ → Prop) (F : Fault → Prop) : Prop where
  edit : ∀ edit : Edit, edit.isReplacement = false →
    ∀ state, P state → (surface.perform edit state).Ends P F
  offset : ∀ state place cause, surface.offsetAt state place = .error cause → F cause

namespace Player

/-! ## Moves -/

section Moves

variable {surface : Surface σ ε} {P : σ → Prop} {F : Fault → Prop}
  (hsurface : surface.Confined P F)

include hsurface

theorem moveActive_ends (place : Position) (select : Bool) {state : σ} (hstate : P state) :
    (moveActive surface place select state).Ends P F :=
  hsurface.edit _ rfl state hstate

theorem moveToWordEdge_ends (edge : Range → Position) (select : Bool) {state : σ}
    (hstate : P state) : (moveToWordEdge surface edge select state).Ends P F := by
  unfold moveToWordEdge
  split
  · exact moveActive_ends hsurface _ select hstate
  · exact hstate

theorem stepWord_ends (course : Text.Course) (select : Bool) (state : σ) (hstate : P state) :
    (stepWord surface course select state).Ends P F := by
  unfold stepWord
  dsimp only
  split
  · exact moveActive_ends hsurface _ select hstate
  · exact hstate

theorem moveByOffset_ends (distance : Int) (select : Bool) {state : σ} (hstate : P state) :
    (moveByOffset surface distance select state).Ends P F := by
  unfold moveByOffset
  split
  · exact moveActive_ends hsurface _ select hstate
  · rename_i cause hcause
    exact hsurface.offset _ _ cause hcause

theorem moveToPattern_ends (pattern : Text) (n : Nat) (course : Text.Course) (select : Bool)
    {state : σ} (hstate : P state) :
    (moveToPattern surface pattern n course select state).Ends P F := by
  unfold moveToPattern
  dsimp only
  split
  · exact hsurface.edit _ rfl state hstate
  · exact hstate

theorem moveTo_ends (target : Target) (movement : Movement) {payload : Payload} (select : Bool)
    (hnegation : payload.repeats = signLimit → F .negationOverflow) {state : σ}
    (hstate : P state) : (moveTo surface target movement payload select state).Ends P F := by
  unfold moveTo
  dsimp only
  split
  case h_9 | h_10 => exact Reply.Ends.times (hsurface.edit _ rfl) payload.repeats hstate
  case h_11 | h_12 => exact moveToWordEdge_ends hsurface _ select hstate
  case h_13 | h_14 =>
    exact Reply.Ends.times (stepWord_ends hsurface _ select) payload.repeats hstate
  case h_15 => exact moveByOffset_ends hsurface _ select hstate
  case h_16 =>
    split
    · rename_i hcount
      exact hnegation hcount
    · exact moveByOffset_ends hsurface _ select hstate
  case h_17 | h_18 =>
    split
    · exact moveToPattern_ends hsurface _ _ _ select hstate
    · exact hstate
  case h_19 => exact hstate
  -- The remaining moves are motions that the surface makes itself.
  all_goals exact hsurface.edit _ rfl state hstate

theorem move_ends {operation : Operation}
    (hnegation : operation.repeats = signLimit → F .negationOverflow) {state : σ}
    (hstate : P state) : (move surface operation state).Ends P F := by
  unfold move
  split
  · exact moveTo_ends hsurface _ _ _ hnegation hstate
  · exact hstate

end Moves

/-! ## Operations -/

/-- The text that an operation puts in place of the selection, if it replaces anything. -/
def replacement? (surface : Surface σ ε) (operation : Operation) (memory : Memory) (state : σ) :
    Option Text :=
  let selection := surface.selection state
  match operation.kind with
  | .insertText => operation.payload.text?
  | .paste => (surface.clipboard state).filter fun text => !text.isEmpty
  | .delete => if selection.isEmpty then none else some []
  | .popText => memory.texts.head?
  | .convert =>
      if selection.isEmpty then none
      else operation.conversion.map (·.apply (surface.textIn state selection.range))
  | _ => none

/-- What an operation does after its replacement: a conversion selects what came of it. -/
def reselect (surface : Surface σ ε) (operation : Operation) (start : Position) (text : Text) :
    σ → Reply σ ε :=
  if operation.kind = .convert then
    surface.perform (.setSelection ⟨start, endOfInserted start text⟩)
  else .done

/-- An operation that replaces anything asks for the replacement first. -/
theorem execute_of_replacement {surface : Surface σ ε} {operation : Operation} {memory : Memory}
    {state : σ} {text : Text} (h : replacement? surface operation memory state = some text) :
    (execute surface operation memory state).2 =
      (surface.perform (.replace (surface.selection state).range text) state).andThen
        (reselect surface operation (surface.selection state).range.start text) := by
  unfold replacement? at h
  unfold execute reselect
  dsimp only at h ⊢
  cases hkind : operation.kind <;> simp only [hkind] at h ⊢
  case insertText => simp [h, insertOrReplace]
  case paste =>
    obtain ⟨hclipboard, hne⟩ := Option.filter_eq_some_iff.mp h
    have hempty : text.isEmpty = false := by simpa using hne
    simp [hclipboard, hempty, insertOrReplace]
  case delete =>
    split at h
    · cases h
    · rename_i hselection
      cases h
      simp [hselection]
  case popText =>
    cases htexts : memory.texts with
    | nil => simp [htexts] at h
    | cons newest rest =>
      have hnewest : newest = text := by simpa [htexts] using h
      simp [hnewest, insertOrReplace]
  case convert =>
    split at h
    · cases h
    · rename_i hselection
      obtain ⟨conversion, hconversion, rfl⟩ := Option.map_eq_some_iff.mp h
      simp [hconversion, convertSelection, hselection]
  all_goals cases h

/-- An operation without a replacement ends as the other edits let it end. -/
theorem execute_ends_of_none {surface : Surface σ ε} {P : σ → Prop} {F : Fault → Prop}
    (hsurface : surface.Confined P F) {operation : Operation} {memory : Memory} {state : σ}
    (hnegation : operation.repeats = signLimit → F .negationOverflow)
    (hnone : replacement? surface operation memory state = none)
    (hstate : P state) : (execute surface operation memory state).2.Ends P F := by
  unfold replacement? at hnone
  unfold execute
  dsimp only at hnone ⊢
  cases hkind : operation.kind <;> simp only [hkind] at hnone ⊢
  case move => exact move_ends hsurface hnegation hstate
  case insertText =>
    simp only [hnone]
    exact hstate
  case paste =>
    cases hclipboard : surface.clipboard state with
    | none => exact hstate
    | some text =>
      have hempty : text.isEmpty = true := by simpa [hclipboard] using hnone
      simp only [hempty, if_true]
      exact hstate
  case popText =>
    have htexts : memory.texts = [] := by simpa using hnone
    simp only [htexts]
    exact hstate
  case convert =>
    cases hconversion : operation.conversion with
    | none => exact hstate
    | some conversion =>
      have hempty : (surface.selection state).isEmpty = true := by
        simpa [hconversion] using hnone
      simp only [convertSelection, hempty, if_true]
      exact hstate
  case find => exact Reply.Ends.times (hsurface.edit _ rfl) operation.repeats hstate
  case copy =>
    cases targetRange? surface operation.target state with
    | none => exact hstate
    | some range =>
      dsimp only
      split
      · exact hstate
      · exact hsurface.edit _ rfl state hstate
  case select =>
    cases targetRange? surface operation.target state with
    | none => exact hstate
    | some range => exact hsurface.edit _ rfl state hstate
  case pushText => cases targetRange? surface operation.target state <;> exact hstate
  case popPosition =>
    cases memory.positions with
    | nil => exact hstate
    | cons position rest => exact hsurface.edit _ rfl state hstate
  case delete =>
    split at hnone
    · rename_i hempty
      simp only [hempty, if_true]
      exact hstate
    · cases hnone
  case swapSelection | deselect =>
    split
    · exact hstate
    · exact hsurface.edit _ rfl state hstate
  case pushPosition | pause | finish => exact hstate

/-- What all edits keep an operation keeps, and it breaks off only for the causes for which its
edits break off. -/
theorem execute_ends {surface : Surface σ ε} {P : σ → Prop} {F : Fault → Prop}
    (hsurface : surface.Confined P F) {operation : Operation} {memory : Memory} {state : σ}
    (hnegation : operation.repeats = signLimit → F .negationOverflow)
    (hreplace : ∀ text, replacement? surface operation memory state = some text →
      (surface.perform (.replace (surface.selection state).range text) state).Ends P F)
    (hstate : P state) : (execute surface operation memory state).2.Ends P F := by
  cases htext : replacement? surface operation memory state with
  | none => exact execute_ends_of_none hsurface hnegation htext hstate
  | some text =>
    rw [execute_of_replacement htext]
    refine (hreplace text htext).andThen fun next hnext => ?_
    unfold reselect
    split
    · exact hsurface.edit _ rfl next hnext
    · exact hnext

/-- An operation breaks off where its replacement does. -/
theorem execute_of_replacement_fault {surface : Surface σ ε} {operation : Operation}
    {memory : Memory} {state : σ} {text : Text} {cause : Fault}
    (htext : replacement? surface operation memory state = some text)
    (hfault : surface.perform (.replace (surface.selection state).range text) state =
      .fault cause) :
    (execute surface operation memory state).2 = .fault cause := by
  rw [execute_of_replacement htext, hfault, Reply.fault_andThen]

end Player

end EditPlayer
