import EditPlayer.Proofs.ControlFlow
import EditPlayer.Proofs.Counts
import EditPlayer.Proofs.Moves
set_option autoImplicit false

/-!
# Going back to a saved position

Moves, searches and selections change neither the text of a document nor the positions that a player
remembers.  So what is remembered before them is on top of the stack after them and still lies in
the document, and a pair of a `pushPosition` and a `popPosition` around them can be taken as one
more such step.  By induction over the nesting of the pairs, all operations with balanced pairs keep
the text and the remembered positions (`Player.Balanced.keepsText`), and a pair around them brings
the cursor back (`Player.executeAll_restores_cursor`).
-/

namespace EditPlayer

/-! ## Steady operations -/

/-- Operations of this kind change neither the text nor the remembered positions. -/
def Kind.isSteady : Kind → Bool
  | .move | .copy | .select | .swapSelection | .find | .deselect | .pushText => true
  | _ => false

/-- An operation that the compiler makes of some script. -/
def Operation.Scripted (operation : Operation) : Prop :=
  ∃ source : Text, operation ∈ (Script.compile {} source).program.operations

/-! ## Documents with the same text -/

namespace Document

/-- The document has the text of the original one, and a selection that lies in it. -/
structure SameText (original document : Document) : Prop extends SelectionHolds document where
  lines_eq : document.lines = original.lines
  lineBreak_eq : document.lineBreak = original.lineBreak

variable {original document : Document}

theorem selectable_sameText (original : Document) : Selectable original.SameText where
  selectionHolds h := h.toSelectionHolds
  select h hanchor hactive := ⟨⟨hanchor, hactive⟩, h.lines_eq, h.lineBreak_eq⟩

theorem SameText.withClipboard (h : original.SameText document) (text : Text) :
    original.SameText (document.withClipboard text) :=
  ⟨⟨h.holds_anchor, h.holds_active⟩, h.lines_eq, h.lineBreak_eq⟩

/-- A position of the original is a position of the document. -/
theorem SameText.holds (h : original.SameText document) {p : Position}
    (hp : original.view.Holds p) : document.view.Holds p := by
  rw [view, h.lines_eq]
  exact hp

end Document

/-! ## Execution -/

namespace Player

open Document

/-- Steady operations of scripts, with pairs of a `pushPosition` and a `popPosition` that match. -/
inductive Balanced : List Operation → Prop
  | nil : Balanced []
  | cons {operation : Operation} {rest : List Operation} (hscripted : operation.Scripted)
      (hsteady : operation.kind.isSteady = true) (hrest : Balanced rest) :
      Balanced (operation :: rest)
  | pair {push pop : Operation} {inner rest : List Operation} (hpush : push.kind = .pushPosition)
      (hpop : pop.kind = .popPosition) (hinner : Balanced inner) (hrest : Balanced rest) :
      Balanced (push :: (inner ++ pop :: rest))

variable {original document : Document} {operation push pop : Operation} {memory : Memory}

/-- Only the two operations about positions change the positions that are remembered. -/
theorem positions_execute {σ ε : Type} (surface : Surface σ ε)
    (hpush : operation.kind ≠ .pushPosition) (hpop : operation.kind ≠ .popPosition)
    (memory : Memory) (state : σ) :
    (execute surface operation memory state).1.positions = memory.positions := by
  unfold execute
  dsimp only
  cases hkind : operation.kind
  case pushPosition => exact absurd hkind hpush
  case popPosition => exact absurd hkind hpop
  all_goals
    dsimp only
    repeat' split
    all_goals rfl

/-- A steady operation is done, and keeps the text and the remembered positions. -/
theorem execute_steady (hscripted : operation.Scripted) (hsteady : operation.kind.isSteady = true)
    (h : original.SameText document) (memory : Memory) :
    ∃ after next, execute Document.surface operation memory document = (after, .done next) ∧
      after.positions = memory.positions ∧ original.SameText next := by
  have hne {kind : Kind} (hkind : kind.isSteady = false) : operation.kind ≠ kind := by
    rintro rfl
    exact absurd hsteady (by simp [hkind])
  have hnone : replacement? Document.surface operation memory document = none := by
    unfold replacement?
    cases hkind : operation.kind <;> first | rfl | exact absurd hkind (hne rfl)
  obtain ⟨source, hmem⟩ := hscripted
  have hdone := (selectable_sameText original).execute_of_none
    (fun hcopied _ => hcopied.withClipboard _) h (Script.repeats_ne_of_mem_compile hmem) (hne rfl)
    hnone
  obtain ⟨next, hnext, hsame⟩ := hdone.exists_eq
  have hpositions := positions_execute Document.surface (hne rfl) (hne rfl) memory document
  exact ⟨_, next, Prod.ext rfl hnext, hpositions, hsame⟩

theorem execute_pushPosition (hkind : operation.kind = .pushPosition) (memory : Memory)
    (document : Document) :
    execute Document.surface operation memory document =
      ({ memory with positions := document.selection.active :: memory.positions },
        .done document) := by
  unfold execute
  simp only [hkind]
  rfl

/-- Going back to a position that the document still has is done. -/
theorem execute_popPosition (hkind : operation.kind = .popPosition) {place : Position}
    {rest : List Position} (hpositions : memory.positions = place :: rest)
    (h : original.SameText document) (hplace : document.view.Holds place) :
    ∃ next,
      execute Document.surface operation memory document =
        ({ memory with positions := rest }, .done next) ∧
      original.SameText next ∧
      (operation.select = false → next.selection = .caret place) := by
  unfold execute
  simp only [hkind, hpositions]
  cases hselect : operation.select with
  | true =>
    refine ⟨_, congrArg _ (setSelection_eq h.holds_active hplace), ?_, fun hfalse => ?_⟩
    · exact (selectable_sameText original).select h h.holds_active hplace
    · cases hfalse
  | false =>
    refine ⟨_, congrArg _ (setSelection_eq hplace hplace), ?_, fun _ => rfl⟩
    exact (selectable_sameText original).select h hplace hplace

/-- On every document with the text of the original the operations are executed, and both the text
and the remembered positions stay. -/
def KeepsText (original : Document) (operations : List Operation) : Prop :=
  ∀ memory document, original.SameText document →
    ∃ after next, executeAll Document.surface operations memory document = .ok (after, next) ∧
      after.positions = memory.positions ∧ original.SameText next

/-- A pair around operations that keep the text keeps it as well, and brings the cursor back. -/
theorem KeepsText.executeAll_pair {inner : List Operation} (hinner : KeepsText original inner)
    (hpush : push.kind = .pushPosition) (hpop : pop.kind = .popPosition)
    (h : original.SameText document) (memory : Memory) :
    ∃ after next,
      executeAll Document.surface (push :: (inner ++ [pop])) memory document =
        .ok (after, next) ∧
      after.positions = memory.positions ∧ original.SameText next ∧
      (pop.select = false → next.selection = .caret document.selection.active) := by
  obtain ⟨pushed, reached, hexecuted, hpositions, hreached⟩ :=
    hinner { memory with positions := document.selection.active :: memory.positions } document h
  -- The text is the same, so the position that was pushed still lies in the document.
  have hplace : reached.view.Holds document.selection.active := by
    refine hreached.holds ?_
    rw [view, ← h.lines_eq]
    exact h.holds_active
  obtain ⟨next, hpopped, hnext, hcaret⟩ := execute_popPosition hpop hpositions hreached hplace
  refine ⟨{ pushed with positions := memory.positions }, next, ?_, rfl, hnext, hcaret⟩
  rw [executeAll_cons_done (execute_pushPosition hpush memory document),
    executeAll_append hexecuted, executeAll_cons_done hpopped]
  rfl

/-- Operations with matching pairs keep the text and the remembered positions. -/
theorem Balanced.keepsText {operations : List Operation} (h : Balanced operations) :
    KeepsText original operations := by
  induction h with
  | nil => exact fun memory document hdocument => ⟨memory, document, rfl, rfl, hdocument⟩
  | cons hscripted hsteady _ ih =>
    intro memory document hdocument
    obtain ⟨after, next, hexecute, hpositions, hnext⟩ :=
      execute_steady hscripted hsteady hdocument memory
    obtain ⟨final, last, hrest, hsame, hlast⟩ := ih after next hnext
    refine ⟨final, last, ?_, hsame.trans hpositions, hlast⟩
    rw [executeAll_cons_done hexecute, hrest]
  | @pair push pop inner rest hpush hpop _ _ ihinner ihrest =>
    intro memory document hdocument
    obtain ⟨after, next, hexecute, hpositions, hnext, -⟩ :=
      ihinner.executeAll_pair hpush hpop hdocument memory
    obtain ⟨final, last, hrest, hsame, hlast⟩ := ihrest after next hnext
    have hsplit : push :: (inner ++ pop :: rest) = (push :: (inner ++ [pop])) ++ rest := by
      rw [List.cons_append, List.append_assoc, List.singleton_append]
    refine ⟨final, last, ?_, hsame.trans hpositions, hlast⟩
    rw [hsplit, executeAll_append hexecute, hrest]

/-- On every document that can be reached, operations with matching pairs between a `pushPosition`
and a `popPosition` bring the cursor back to where it was, with nothing selected.  The text is what
it was, and so are the positions that the player remembers. -/
theorem executeAll_restores_cursor (text : Text) (requests : List Request) (document : Document)
    (hdocument : respondAll requests (ofText text) = .ok document) (push pop : Operation)
    (hpush : push.kind = .pushPosition) (hpop : pop.kind = .popPosition)
    (hselect : pop.select = false) (body : List Operation) (hbody : Balanced body)
    (memory : Memory) :
    ∃ after final,
      executeAll Document.surface (push :: (body ++ [pop])) memory document =
        .ok (after, final) ∧
      final.selection = .caret document.selection.active ∧
      after.positions = memory.positions ∧
      final.lines = document.lines ∧ final.text = document.text := by
  have hholds := ((wellFormed_ofText text).respondAll hdocument).selectionHolds
  obtain ⟨after, final, hexecute, hpositions, hsame, hcaret⟩ :=
    hbody.keepsText.executeAll_pair hpush hpop ⟨hholds, rfl, rfl⟩ memory
  refine ⟨after, final, hexecute, hcaret hselect, hpositions, hsame.lines_eq, ?_⟩
  rw [Document.text, Document.text, hsame.lines_eq, hsame.lineBreak_eq]

/-- A script with a pair inside a pair. -/
def excursionScript : Text :=
  ("push-position\nmove down 4 select\npush-position\nselect-line\nfind-next\n" ++
    "pop-position select\npush-text\npop-position").toList

/-- The operations of the script between the first and the last. -/
def excursion : List Operation :=
  [{ kind := .move, target := some .line, movement := some .increment, payload := .count 4,
     select := true, sourceLine := 2 },
   { kind := .pushPosition, sourceLine := 3 },
   { kind := .select, target := some .line, sourceLine := 4 },
   { kind := .find, movement := some .next, sourceLine := 5 },
   { kind := .popPosition, select := true, sourceLine := 6 },
   { kind := .pushText, target := some .selection, sourceLine := 7 }]

theorem operations_excursionScript :
    (Script.compile {} excursionScript).program.operations =
      { kind := .pushPosition, sourceLine := 1 } ::
        (excursion ++ [{ kind := .popPosition, sourceLine := 8 }]) := by
  decide +kernel

theorem balanced_excursion : Balanced excursion := by
  have hscripted : ∀ operation ∈ excursion, operation.Scripted := by
    intro operation hmem
    refine ⟨excursionScript, ?_⟩
    rw [operations_excursionScript]
    exact List.mem_cons_of_mem _ (List.mem_append_left _ hmem)
  simp only [excursion, List.forall_mem_cons] at hscripted
  obtain ⟨hdown, -, hline, hfind, -, htext, -⟩ := hscripted
  have hinner : Balanced [_, _] := .cons hline rfl (.cons hfind rfl .nil)
  exact .cons hdown rfl (.pair rfl rfl hinner (.cons htext rfl .nil))

/-- From the middle of the first line the script goes to the last line and selects it, looks for it
from there, and comes back. -/
theorem executeAll_restores_cursor_nested :
    ∃ after final,
      executeAll Document.surface (Script.compile {} excursionScript).program.operations {}
          ((ofText "ab\r\nab".toList).withCursor ⟨0, 1⟩) =
        .ok (after, final) ∧
      final.selection = .caret ⟨0, 1⟩ ∧ after.positions = [] ∧
      final.text = "ab\r\nab".toList := by
  obtain ⟨after, final, hexecute, hcaret, hpositions, -, htext⟩ :=
    executeAll_restores_cursor "ab\r\nab".toList [.withCursor ⟨0, 1⟩] _ rfl
      { kind := .pushPosition, sourceLine := 1 } { kind := .popPosition, sourceLine := 8 } rfl rfl
      rfl excursion balanced_excursion {}
  rw [operations_excursionScript]
  exact ⟨after, final, hexecute, hcaret, hpositions, htext⟩

end Player

end EditPlayer
