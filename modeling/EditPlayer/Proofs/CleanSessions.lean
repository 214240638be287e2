import EditPlayer.Proofs.CleanScripts
import EditPlayer.Proofs.LineBreaks
import EditPlayer.Proofs.LostTail
import EditPlayer.Proofs.Moves
set_option autoImplicit false

/-!
# Sessions without stray carriage returns

A document is clean if it is well formed, no line of it holds a carriage return, and its clipboard
is a clean text.  On a clean document nothing goes wrong with a player that remembers clean texts:
every position that the player works out lies in the document, no replacement loses a tail, and
what an operation leaves is clean again (`Clean.execute`).  The one exception is a position that
was remembered, and that the document no longer has.

A session plays clean scripts one after the other.  `clean_session` carries the statement about one
operation to all of its turns.
-/

namespace EditPlayer

/-! ## Clean documents -/

namespace Document

open Player

/-- A well-formed document without carriage returns in its lines, and with a clean clipboard. -/
structure Clean (document : Document) : Prop extends WellFormed document where
  return_not_mem : ∀ line ∈ document.lines, '\r' ∉ line
  crClean_clipboard : ∀ text ∈ document.clipboard, text.CrClean

variable {document : Document}

namespace Clean

theorem not_mem_lines (h : document.Clean) :
    ∀ line ∈ document.lines, '\r' ∉ line ∧ '\n' ∉ line :=
  fun line hline => ⟨h.return_not_mem line hline, h.newline_not_mem line hline⟩

/-- Whatever part of a clean document is read, its text is clean. -/
theorem crClean_textIn (h : document.Clean) (range : Range) : (document.textIn range).CrClean :=
  document.lineBreak.crClean_write (return_not_mem_flatIn h.return_not_mem range)

theorem select (h : document.Clean) {selection : Selection}
    (hanchor : document.view.Holds selection.anchor)
    (hactive : document.view.Holds selection.active) : { document with selection }.Clean :=
  ⟨h.toWellFormed.select hanchor hactive, h.return_not_mem, h.crClean_clipboard⟩

theorem selectable : Selectable Clean where
  selectionHolds h := h.selectionHolds
  select h := h.select

/-! ## Edits -/

/-- A selection is taken, or it is refused and nothing changes. -/
theorem setSelection_or (h : document.Clean) (selection : Selection) :
    (document.setSelection selection).Done Clean ∨
      ∃ error, document.setSelection selection = .refused error document := by
  unfold Document.setSelection
  split
  · exact .inr ⟨_, rfl⟩
  · rename_i hanchor
    split
    · exact .inr ⟨_, rfl⟩
    · rename_i hactive
      exact .inl (h.select (Decidable.not_not.mp hanchor) (Decidable.not_not.mp hactive))

theorem withClipboard (h : document.Clean) {text : Text} (htext : text.CrClean) :
    (document.withClipboard text).Clean := by
  refine ⟨h.toWellFormed.withClipboard text, h.return_not_mem, ?_⟩
  rintro copied ⟨⟩
  exact htext

/-- A text is always put in place: the rest of the line keeps all of its characters. -/
theorem replace_eq (h : document.Clean) {range : Range} (hstart : document.view.Holds range.start)
    (hstop : document.view.Holds range.stop) (hle : range.start ≤ range.stop) (text : Text) :
    document.replace range text = .done (document.replaced range text) :=
  replace_eq_replaced h.not_mem_lines hstart hstop hle text

theorem replaced (h : document.Clean) {range : Range} (hstart : document.view.Holds range.start)
    (hstop : document.view.Holds range.stop) (hle : range.start ≤ range.stop) {text : Text}
    (htext : text.CrClean) : (document.replaced range text).Clean :=
  ⟨h.toWellFormed.of_replace_done (h.replace_eq hstart hstop hle text),
    return_not_mem_linesAfter h.return_not_mem range htext, h.crClean_clipboard⟩

end Clean

end Document

/-! ## Operations -/

/-- An operation with a clean text, if it has any, and a count that has a negative counterpart. -/
structure Operation.Clean (operation : Operation) : Prop where
  crClean_text : ∀ text ∈ operation.payload.text?, text.CrClean
  repeats_ne : operation.repeats ≠ signLimit

namespace Player

/-- All remembered texts are clean. -/
def Memory.Clean (memory : Memory) : Prop := ∀ text ∈ memory.texts, text.CrClean

/-- A text that is remembered after an operation was remembered before, or is a part of the
document. -/
theorem mem_texts_execute {σ ε : Type} {surface : Surface σ ε} {operation : Operation}
    {memory : Memory} {state : σ} {text : Text}
    (h : text ∈ (execute surface operation memory state).1.texts) :
    text ∈ memory.texts ∨ ∃ range, text = surface.textIn state range := by
  unfold execute at h
  dsimp only at h
  cases hkind : operation.kind <;> simp only [hkind] at h
  case pushText =>
    split at h
    · rename_i range hrange
      rcases List.mem_cons.mp h with heq | hmem
      · exact .inr ⟨range, heq⟩
      · exact .inl hmem
    · exact .inl h
  case popText =>
    split at h
    · exact .inl h
    · rename_i newest rest htexts
      rw [htexts]
      exact .inl (List.mem_cons_of_mem newest h)
  case move | find | pushPosition | pause | finish => exact .inl h
  case insertText | select | convert | delete | swapSelection | deselect | popPosition =>
    split at h <;> exact .inl h
  case copy | paste =>
    split at h
    · split at h <;> exact .inl h
    · exact .inl h

end Player

namespace Document.Clean

open Player

variable {document : Document} {memory : Memory} {operation : Operation}

theorem memory_execute (h : document.Clean) (hmemory : memory.Clean) (operation : Operation) :
    (Player.execute surface operation memory document).1.Clean := by
  intro text htext
  rcases mem_texts_execute htext with hmem | ⟨range, rfl⟩
  · exact hmemory text hmem
  · exact h.crClean_textIn range

/-- The text that an operation puts in place of the selection is clean. -/
theorem crClean_replacement? (h : document.Clean) (hmemory : memory.Clean)
    (hoperation : operation.Clean) {text : Text}
    (htext : replacement? surface operation memory document = some text) : text.CrClean := by
  unfold replacement? at htext
  dsimp only at htext
  cases hkind : operation.kind <;> simp only [hkind] at htext
  case insertText => exact hoperation.crClean_text text htext
  case paste => exact h.crClean_clipboard text (Option.filter_eq_some_iff.mp htext).1
  case delete =>
    split at htext
    · cases htext
    · cases htext
      trivial
  case popText => exact hmemory text (List.mem_of_head? htext)
  case convert =>
    split at htext
    · cases htext
    · obtain ⟨conversion, -, rfl⟩ := Option.map_eq_some_iff.mp htext
      exact conversion.crClean_apply (h.crClean_textIn _)
  all_goals cases htext

/-- A replacement of the selection is done, and so is selecting what came of a conversion. -/
theorem execute_of_replacement (h : document.Clean) (hmemory : memory.Clean)
    (hoperation : operation.Clean) {text : Text}
    (htext : replacement? surface operation memory document = some text) :
    (Player.execute surface operation memory document).2.Done Clean := by
  obtain ⟨hstart, hstop⟩ := h.selectionHolds.holds_range
  have hle := Range.start_le_stop_between document.selection.anchor document.selection.active
  have hclean := h.crClean_replacement? hmemory hoperation htext
  have hreplaced := h.replaced hstart hstop hle hclean
  have hdone : surface.perform (.replace document.selection.range text) document =
      .done (document.replaced document.selection.range text) :=
    h.replace_eq hstart hstop hle text
  rw [Player.execute_of_replacement htext]
  change ((surface.perform (.replace document.selection.range text) document).andThen _).Done Clean
  rw [hdone, Reply.done_andThen]
  unfold reselect
  split
  · refine selectable.setSelection hreplaced (holds_start_replaced h.not_mem_lines hstart hclean) ?_
    change (document.replaced document.selection.range text).view.Holds
      (endOfInserted document.selection.range.start text)
    rw [endOfInserted_eq_caret h.not_mem_lines hstart hclean]
    exact hreplaced.holds_active
  · exact hreplaced

/-- An operation without a replacement is done, unless it goes back to a remembered position. -/
theorem execute_of_none (h : document.Clean) (hcount : operation.repeats ≠ signLimit)
    (hkind : operation.kind ≠ .popPosition)
    (hnone : replacement? surface operation memory document = none) :
    (Player.execute surface operation memory document).2.Done Clean :=
  selectable.execute_of_none (fun hdocument range =>
    hdocument.withClipboard (hdocument.crClean_textIn range)) h hcount hkind hnone

/-- Going back to a remembered position is done, or the document refuses it and stays as it is. -/
theorem execute_popPosition (h : document.Clean) (hkind : operation.kind = .popPosition) :
    (Player.execute surface operation memory document).2.Done Clean ∨
      ∃ error, (Player.execute surface operation memory document).2 = .refused error document := by
  unfold Player.execute
  simp only [hkind]
  split
  · exact .inl h
  · exact h.setSelection_or _

/-- An operation leaves a clean document and is done, unless it goes back to a remembered position
that the document does not have. -/
theorem execute (h : document.Clean) (hmemory : memory.Clean) (hoperation : operation.Clean) :
    ∃ after,
      ((Player.execute surface operation memory document).2 = .done after ∨
        operation.kind = .popPosition ∧
          ∃ error, (Player.execute surface operation memory document).2 =
            .refused error after) ∧
      after.Clean := by
  have hreply : (Player.execute surface operation memory document).2.Done Clean ∨
      operation.kind = .popPosition ∧
        ∃ error, (Player.execute surface operation memory document).2 =
          .refused error document := by
    by_cases hkind : operation.kind = .popPosition
    · exact (h.execute_popPosition hkind).imp id fun hrefused => ⟨hkind, hrefused⟩
    · cases htext : replacement? surface operation memory document with
      | none => exact .inl (h.execute_of_none hoperation.repeats_ne hkind htext)
      | some text => exact .inl (h.execute_of_replacement hmemory hoperation htext)
  rcases hreply with hdone | hrefused
  · obtain ⟨after, hafter, hclean⟩ := hdone.exists_eq
    exact ⟨after, .inl hafter, hclean⟩
  · exact ⟨document, .inr hrefused, h⟩

end Document.Clean

/-! ## Sessions -/

/-- A text that is opened with a selection, with its ends at the positions or as near as there are
any, and with a clipboard. -/
def Document.openedSelecting (text : Text) (selection : Selection) (clipboard : Option Text) :
    Document :=
  { (ofText text).withSelection selection with clipboard }

theorem Document.clean_openedSelecting {text : Text} (htext : text.CrClean) (selection : Selection)
    {clipboard : Option Text} (hclipboard : ∀ copied ∈ clipboard, copied.CrClean) :
    (openedSelecting text selection clipboard).Clean := by
  obtain ⟨hlines, hnewline, hanchor, hactive⟩ := (wellFormed_ofText text).withSelection selection
  exact ⟨⟨hlines, hnewline, hanchor, hactive⟩,
    fun line hline => htext.return_not_mem_of_mem_documentLines hline, hclipboard⟩

namespace Player

/-- A program that the compiler accepts, of a clean script with fewer characters than a signed word
counts. -/
def CleanScripted (program : Program) : Prop :=
  ∃ source : Text, source.CrClean ∧ source.length < signLimit ∧
    (Script.compile {} source).load = .ok program

namespace CleanScripted

variable {program : Program}

theorem scripted (h : CleanScripted program) : Scripted program := by
  obtain ⟨source, -, hlength, hload⟩ := h
  exact ⟨source, hlength, hload⟩

theorem clean_operation (h : CleanScripted program) {operation : Operation}
    (hmem : operation ∈ program.operations) : operation.Clean := by
  refine ⟨?_, h.scripted.repeats_ne hmem⟩
  intro text htext
  obtain ⟨source, hsource, -, hload⟩ := h
  obtain ⟨-, rfl⟩ := (Compilation.load_eq_ok_iff _ program).mp hload
  exact Text.crClean_of_not_mem (Script.return_not_mem_of_mem_compile hsource hmem htext)

end CleanScripted

/-- The step of a session: what is clean before an operation is clean after it. -/
theorem execute_keeps_clean {operation : Operation} (hoperation : operation.Clean)
    {memory : Memory} {document : Document} (hdocument : document.Clean)
    (hmemory : memory.Clean) :
    (execute Document.surface operation memory document).2.Ends
      (fun after => after.Clean ∧ (execute Document.surface operation memory document).1.Clean)
      fun _ => True := by
  have hremembered := hdocument.memory_execute hmemory operation
  obtain ⟨after, hreply | ⟨-, error, hreply⟩, hclean⟩ := hdocument.execute hmemory hoperation
  · rw [hreply]
    exact ⟨hclean, hremembered⟩
  · rw [hreply]
    exact ⟨hclean, hremembered⟩

/-- Every turn of a session meets a clean document and remembers clean texts, and its operation is
clean. -/
theorem clean_of_mem_allTurns {programs : List Program}
    (hprograms : ∀ program ∈ programs, CleanScripted program) {document : Document}
    (hdocument : document.Clean) {turn : Turn Document}
    (hturn : turn ∈ allTurns Document.surface programs .fresh document) :
    turn.operation.Clean ∧ turn.state.Clean ∧ turn.memory.Clean := by
  have hoperations (program : Program) (hprogram : program ∈ programs) (operation : Operation)
      (hmem : operation ∈ program.operations) : operation.Clean :=
    (hprograms program hprogram).clean_operation hmem
  have hempty : Memory.Clean {} := by
    intro text htext
    cases htext
  obtain ⟨⟨program, hprogram, hmem⟩, hclean⟩ :=
    allTurns_keep (P := fun memory state => state.Clean ∧ memory.Clean)
      (fun _ _ h => ⟨h.1, hempty⟩)
      (fun program hprogram operation hmem memory state h =>
        execute_keeps_clean (hoperations program hprogram operation hmem) h.1 h.2)
      ⟨hdocument, hempty⟩ turn hturn
  exact ⟨hoperations program hprogram turn.operation hmem, hclean⟩

/-- A session on a clean text, with any selection and with a clean clipboard, plays clean scripts by
one new player.  All plays come to their ends.  After every operation no line holds a carriage
return, and the clipboard and all remembered texts are clean.  And every operation is done, except
that the document may refuse to go back to a remembered position. -/
theorem clean_session (text : Text) (selection : Selection) (clipboard : Option Text)
    (programs : List Program) (htext : text.CrClean)
    (hclipboard : ∀ copied ∈ clipboard, copied.CrClean)
    (hprograms : ∀ program ∈ programs, CleanScripted program) :
    (∃ outcomes player after,
      playAll Document.surface programs .fresh
        (Document.openedSelecting text selection clipboard) = .ok (outcomes, player, after)) ∧
    ∀ turn ∈ allTurns Document.surface programs .fresh
        (Document.openedSelecting text selection clipboard),
      ∃ after,
        (turn.reply Document.surface = .done after ∨
          turn.operation.kind = .popPosition ∧
            ∃ error, turn.reply Document.surface = .refused error after) ∧
        (∀ line ∈ after.lines, '\r' ∉ line) ∧
        (∀ copied ∈ after.clipboard, copied.CrClean) ∧
        ∀ remembered ∈ (turn.memoryAfter Document.surface).texts, remembered.CrClean := by
  have hdocument := Document.clean_openedSelecting htext selection hclipboard
  have hlength := fun program h => (hprograms program h).scripted.length_lt
  constructor
  · cases hresult : playAll Document.surface programs .fresh
        (Document.openedSelecting text selection clipboard) with
    | ok result => exact ⟨result.1, result.2.1, result.2.2, rfl⟩
    | error cause =>
      obtain ⟨turn, hturn, hfault⟩ :=
        (playAll_eq_error_iff Document.surface hlength resumable_fresh _ cause).mp hresult
      obtain ⟨hoperation, hstate, hmemory⟩ := clean_of_mem_allTurns hprograms hdocument hturn
      unfold Turn.reply at hfault
      obtain ⟨after, hreply | ⟨-, error, hreply⟩, -⟩ := hstate.execute hmemory hoperation
      · simp [hfault] at hreply
      · simp [hfault] at hreply
  · intro turn hturn
    obtain ⟨hoperation, hstate, hmemory⟩ := clean_of_mem_allTurns hprograms hdocument hturn
    obtain ⟨after, hreply, hclean⟩ := hstate.execute hmemory hoperation
    exact ⟨after, hreply, hclean.return_not_mem, hclean.crClean_clipboard,
      hstate.memory_execute hmemory turn.operation⟩

/-- A script that remembers a position and the selected text, deletes the text, and goes back. -/
def deletionAndBack : Text :=
  "push-position\r\nupper-case\r\npush-text\r\ndelete\r\npop-position".toList

theorem cleanScripted_deletionAndBack :
    CleanScripted (Script.compile {} deletionAndBack).program := by
  have hload : (Script.compile {} deletionAndBack).diagnostics = [] := by decide +kernel
  exact ⟨deletionAndBack, by decide, by decide, (Compilation.load_eq_ok_iff _ _).mpr ⟨hload, rfl⟩⟩

/-- The deleted text went over two lines, so the position is refused.  The text is still remembered
then, with the line break of the document. -/
theorem clean_session_refusal :
    (∃ outcomes player after,
      playAll Document.surface [(Script.compile {} deletionAndBack).program] .fresh
        (Document.openedSelecting "ab\r\ncd".toList ⟨⟨0, 0⟩, ⟨1, 2⟩⟩ none) =
          .ok (outcomes, player, after)) ∧
    ∃ turn ∈ allTurns Document.surface [(Script.compile {} deletionAndBack).program] .fresh
        (Document.openedSelecting "ab\r\ncd".toList ⟨⟨0, 0⟩, ⟨1, 2⟩⟩ none),
      (∃ error after, turn.reply Document.surface = .refused error after) ∧
      "AB\r\nCD".toList ∈ (turn.memoryAfter Document.surface).texts ∧
      ∀ remembered ∈ (turn.memoryAfter Document.surface).texts, remembered.CrClean := by
  have hprograms : ∀ program ∈ [(Script.compile {} deletionAndBack).program],
      CleanScripted program := by
    simpa using cleanScripted_deletionAndBack
  obtain ⟨hplays, hturns⟩ :=
    clean_session "ab\r\ncd".toList ⟨⟨0, 0⟩, ⟨1, 2⟩⟩ none
      [(Script.compile {} deletionAndBack).program] (by decide) (by simp) hprograms
  refine ⟨hplays, ?_⟩
  have hfifth : (allTurns Document.surface [(Script.compile {} deletionAndBack).program] .fresh
      (Document.openedSelecting "ab\r\ncd".toList ⟨⟨0, 0⟩, ⟨1, 2⟩⟩ none))[4]? = some _ := rfl
  have hmem := List.mem_of_getElem? hfifth
  obtain ⟨-, -, -, -, hremembered⟩ := hturns _ hmem
  exact ⟨_, hmem, ⟨_, _, rfl⟩, by decide, hremembered⟩

end Player

end EditPlayer
