import EditPlayer.Proofs.ControlFlow
import EditPlayer.Proofs.LineBreaks
import EditPlayer.Proofs.Splice
import EditPlayer.Script.Compilation
set_option autoImplicit false

/-!
# What is taken out can be put back

A range that is deleted and inserted again where the cursor was left gives the document back, with
the cursor behind the range (`reinserted_without`).  The text that is put back has the line breaks
of the document, and the insertion reads them as line feeds; so on the flat text the two edits undo
each other, and the flat text determines the lines.

A player takes the selected text out by way of the clipboard, or by way of the texts that it
remembers.  `Player.play_reinserts` says what both programs come to.
-/

namespace EditPlayer

namespace Document

variable {document : Document} {range : Range}

/-- Documents with the same flat text have the same lines. -/
theorem lines_eq_of_flat_eq {first second : Document} (hfirst : first.lines ≠ [])
    (hsecond : second.lines ≠ []) (h₁ : ∀ line ∈ first.lines, '\n' ∉ line)
    (h₂ : ∀ line ∈ second.lines, '\n' ∉ line) (h : first.flat = second.flat) :
    first.lines = second.lines :=
  calc first.lines = first.flat.splitOn '\n' := (Text.splitOn_join hfirst h₁).symm
    _ = second.flat.splitOn '\n' := congrArg _ h
    _ = second.lines := Text.splitOn_join hsecond h₂

/-- The document after the text of a range has been deleted. -/
def without (document : Document) (range : Range) : Document := document.replaced range []

theorem selection_without (document : Document) (range : Range) :
    (document.without range).selection = .caret (document.without range).selection.active := rfl

/-- The document after a text has been put in place of the selection. -/
def inserted (document : Document) (text : Text) : Document :=
  document.replaced document.selection.range text

section Edited

variable (hlines : ∀ line ∈ document.lines, '\r' ∉ line ∧ '\n' ∉ line)

include hlines

/-- No line after a replacement holds a character of a line break. -/
theorem break_not_mem_replaced (range : Range) {text : Text} (htext : text.CrClean) :
    ∀ line ∈ (document.replaced range text).lines, '\r' ∉ line ∧ '\n' ∉ line := fun line hline =>
  ⟨return_not_mem_linesAfter (fun line hline => (hlines line hline).1) range htext line hline,
    newline_not_mem_linesAfter (fun line hline => (hlines line hline).2) range text line hline⟩

/-! ### Insertions -/

section Inserted

variable {p : Position} (hselection : document.selection = .caret p)
  (hp : document.view.Holds p)

include hselection hp

theorem holds_caret_inserted (text : Text) :
    (document.inserted text).view.Holds (document.inserted text).selection.active := by
  rw [inserted, hselection, Selection.range_caret]
  exact holds_caret_replaced (fun line hline => (hlines line hline).2) hp text

variable {text : Text} (htext : text.CrClean)

include htext

/-- A text is inserted at the cursor. -/
theorem flat_inserted :
    (document.inserted text).flat =
      document.flat.take (document.view.offsetAt p) ++ text.crlfToLf ++
        document.flat.drop (document.view.offsetAt p) := by
  rw [inserted, hselection, Selection.range_caret]
  exact flat_replaced (fun line hline => (hlines line hline).1) hp hp htext

/-- The cursor stands behind what is inserted. -/
theorem offsetAt_caret_inserted :
    (document.inserted text).view.offsetAt (document.inserted text).selection.active =
      document.view.offsetAt p + text.crlfToLf.length := by
  rw [inserted, hselection, Selection.range_caret]
  exact offsetAt_caret_replaced hlines hp hp
    (suffix_lastNewText (fun line hline => (hlines line hline).1) _ text) htext

end Inserted

/-! ### Deletions -/

theorem break_not_mem_without (range : Range) :
    ∀ line ∈ (document.without range).lines, '\r' ∉ line ∧ '\n' ∉ line :=
  break_not_mem_replaced hlines range (Text.crClean_of_not_mem List.not_mem_nil)

variable (hstart : document.view.Holds range.start) (hstop : document.view.Holds range.stop)

include hstart

theorem holds_caret_without :
    (document.without range).view.Holds (document.without range).selection.active :=
  holds_caret_replaced (fun line hline => (hlines line hline).2) hstart []

include hstop

/-- What stood around a deleted range is left. -/
theorem flat_without :
    (document.without range).flat =
      document.flat.take (document.view.offsetAt range.start) ++
        document.flat.drop (document.view.offsetAt range.stop) := by
  have hflat := flat_replaced (fun line hline => (hlines line hline).1) hstart hstop
    (Text.crClean_of_not_mem List.not_mem_nil)
  rw [Text.crlfToLf, List.append_nil] at hflat
  exact hflat

/-- The cursor stands where the deleted text began. -/
theorem offsetAt_caret_without :
    (document.without range).view.offsetAt (document.without range).selection.active =
      document.view.offsetAt range.start :=
  offsetAt_caret_replaced hlines hstart hstop
    (suffix_lastNewText (fun line hline => (hlines line hline).1) range [])
    (Text.crClean_of_not_mem List.not_mem_nil)

/-! ### One after the other -/

/-- What is inserted where a range was deleted comes in place of the range. -/
theorem flat_inserted_without {text : Text} (htext : text.CrClean) :
    ((document.without range).inserted text).flat =
      document.flat.take (document.view.offsetAt range.start) ++ text.crlfToLf ++
        document.flat.drop (document.view.offsetAt range.stop) := by
  have hlength : (document.flat.take (document.view.offsetAt range.start)).length =
      document.view.offsetAt range.start := by
    rw [List.length_take]
    exact Nat.min_eq_left (offsetAt_le_length hstart)
  rw [flat_inserted (break_not_mem_without hlines range) (document.selection_without range)
      (holds_caret_without hlines hstart) htext,
    offsetAt_caret_without hlines hstart hstop, flat_without hlines hstart hstop,
    List.take_left' hlength, List.drop_left' hlength]

/-- A range that is deleted and inserted again gives the document back, with the cursor behind the
range. -/
theorem inserted_without (hle : range.start ≤ range.stop) :
    (document.without range).inserted (document.textIn range) =
      { document with selection := .caret range.stop } := by
  have hreturn := return_not_mem_flatIn (fun line hline => (hlines line hline).1) range
  have hclean : (document.textIn range).CrClean := document.lineBreak.crClean_write hreturn
  have hread : (document.textIn range).crlfToLf = document.flatIn range :=
    document.lineBreak.crlfToLf_write hreturn
  have hbreak := break_not_mem_without hlines range
  have hselection := document.selection_without range
  have hcaret := holds_caret_without hlines hstart
  have hholds := holds_caret_inserted hbreak hselection hcaret (document.textIn range)
  have hflat := flat_inserted_without hlines hstart hstop hclean
  rw [hread, ← flat_eq_flatIn hstart hstop hle] at hflat
  have hsame : ((document.without range).inserted (document.textIn range)).lines =
      document.lines := by
    refine lines_eq_of_flat_eq ?_ ?_ ?_ (fun line hline => (hlines line hline).2) hflat
    · exact List.ne_nil_of_length_pos (Nat.zero_lt_of_lt hholds.1)
    · exact List.ne_nil_of_length_pos (Nat.zero_lt_of_lt hstart.1)
    · exact fun line hline => (break_not_mem_replaced hbreak _ hclean line hline).2
  have hview : ((document.without range).inserted (document.textIn range)).view =
      document.view := congrArg LineView.ofLines hsame
  -- The cursor went on from the start of the range by the length of its text.
  have hoffset := offsetAt_caret_inserted hbreak hselection hcaret hclean
  rw [hread, offsetAt_caret_without hlines hstart hstop,
    offsetAt_add_length_flatIn hstart hstop hle, hview] at hoffset
  rw [hview] at hholds
  have hactive : ((document.without range).inserted (document.textIn range)).selection.active =
      range.stop := LineView.eq_of_offsetAt_eq hholds hstop hoffset
  calc (document.without range).inserted (document.textIn range)
      = { document with
          lines := ((document.without range).inserted (document.textIn range)).lines
          selection :=
            .caret ((document.without range).inserted (document.textIn range)).selection.active } :=
        rfl
    _ = { document with selection := .caret range.stop } := by rw [hsame, hactive]

end Edited

end Document

/-! ## Taking out and putting back by a player -/

namespace Program

/-- The operations of the program have the given kinds, and none is about anything but the
selection. -/
def OnSelection (kinds : List Kind) (program : Program) : Prop :=
  program.operations.map (·.kind) = kinds ∧
    ∀ operation ∈ program.operations,
      operation.target = none ∨ operation.target = some .selection

variable {program : Program}

theorem OnSelection.exists_three {first second third : Kind}
    (h : program.OnSelection [first, second, third]) :
    ∃ taking deletion insertion, program.operations = [taking, deletion, insertion] ∧
      taking.kind = first ∧ deletion.kind = second ∧ insertion.kind = third ∧
      (taking.target = none ∨ taking.target = some .selection) := by
  obtain ⟨hkinds, htargets⟩ := h
  obtain ⟨taking, rest, hrest, htaking, hkinds⟩ := List.map_eq_cons_iff.mp hkinds
  obtain ⟨deletion, rest, rfl, hdeletion, hkinds⟩ := List.map_eq_cons_iff.mp hkinds
  obtain ⟨insertion, rest, rfl, hinsertion, hkinds⟩ := List.map_eq_cons_iff.mp hkinds
  obtain rfl := List.map_eq_nil_iff.mp hkinds
  exact ⟨taking, deletion, insertion, hrest, htaking, hdeletion, hinsertion,
    htargets taking (hrest ▸ List.mem_cons_self)⟩

theorem OnSelection.goes {kinds : List Kind} (h : program.OnSelection kinds)
    (hpause : .pause ∉ kinds) (hfinish : .finish ∉ kinds) :
    ∀ operation ∈ program.operations, operation.halts = false := by
  intro operation hmem
  have hkind : operation.kind ∈ kinds := h.1 ▸ List.mem_map_of_mem hmem
  rw [Bool.eq_false_iff, ne_eq, Operation.halts_iff, not_or]
  exact ⟨fun heq => hpause (heq ▸ hkind), fun heq => hfinish (heq ▸ hkind)⟩

end Program

namespace Player

open Document

variable {operation : Operation} {document : Document}

theorem targetRange?_selection {σ ε : Type} (surface : Surface σ ε) {target : Option Target}
    (h : target = none ∨ target = some .selection) (state : σ) :
    targetRange? surface target state = some (surface.selection state).range := by
  rcases h with rfl | rfl <;> rfl

/-- What is selected is not the empty text. -/
theorem textIn_selection_ne_nil (hlines : ∀ line ∈ document.lines, '\r' ∉ line)
    (hanchor : document.view.Holds document.selection.anchor)
    (hactive : document.view.Holds document.selection.active)
    (hselected : document.selection.anchor ≠ document.selection.active) :
    document.textIn document.selection.range ≠ [] := by
  intro htext
  obtain ⟨hstart, hstop⟩ := LineView.holds_between hanchor hactive
  have hle := Range.start_le_stop_between document.selection.anchor document.selection.active
  have hread := document.lineBreak.crlfToLf_write
    (return_not_mem_flatIn hlines document.selection.range)
  have hwritten : document.lineBreak.write (document.flatIn document.selection.range) = [] := htext
  have hlength : document.view.offsetAt document.selection.range.start +
      (document.flatIn document.selection.range).length =
        document.view.offsetAt document.selection.range.stop :=
    offsetAt_add_length_flatIn hstart hstop hle
  rw [← hread, hwritten, Text.crlfToLf, List.length_nil, Nat.add_zero] at hlength
  have hsame := LineView.eq_of_offsetAt_eq hstart hstop hlength
  have hempty : document.selection.range.isEmpty = false := Range.isEmpty_between hselected
  exact absurd hsame (beq_eq_false_iff_ne.mp hempty)

theorem execute_copy (hkind : operation.kind = .copy)
    (htarget : operation.target = none ∨ operation.target = some .selection)
    (hselected : document.selection.anchor ≠ document.selection.active) (memory : Memory) :
    execute Document.surface operation memory document =
      (memory, .done (document.withClipboard (document.textIn document.selection.range))) := by
  have hrange := targetRange?_selection Document.surface htarget document
  have hempty : (Document.surface.selection document).range.isEmpty = false :=
    Range.isEmpty_between hselected
  unfold execute
  simp only [hkind, hrange, hempty]
  rfl

theorem execute_pushText (hkind : operation.kind = .pushText)
    (htarget : operation.target = none ∨ operation.target = some .selection) (memory : Memory) :
    execute Document.surface operation memory document =
      ({ memory with texts := document.textIn document.selection.range :: memory.texts },
        .done document) := by
  have hrange := targetRange?_selection Document.surface htarget document
  unfold execute
  simp only [hkind, hrange]
  rfl

section Edits

variable (hlines : ∀ line ∈ document.lines, '\r' ∉ line ∧ '\n' ∉ line)
  (hanchor : document.view.Holds document.selection.anchor)
  (hactive : document.view.Holds document.selection.active)

include hlines hanchor hactive

/-- A text is always put in place of the selection. -/
theorem insertOrReplace_eq (text : Text) :
    insertOrReplace Document.surface text document = .done (document.inserted text) := by
  obtain ⟨hstart, hstop⟩ := LineView.holds_between hanchor hactive
  have hle := Range.start_le_stop_between document.selection.anchor document.selection.active
  exact replace_eq_replaced hlines hstart hstop hle text

theorem execute_delete (hkind : operation.kind = .delete)
    (hselected : document.selection.anchor ≠ document.selection.active) (memory : Memory) :
    execute Document.surface operation memory document =
      (memory, .done (document.without document.selection.range)) := by
  have hempty : (Document.surface.selection document).isEmpty = false := beq_false_of_ne hselected
  have hdone := insertOrReplace_eq hlines hanchor hactive []
  rw [insertOrReplace] at hdone
  unfold execute
  simp only [hkind, hempty, Bool.false_eq_true, if_false, hdone]
  rfl

variable (document) in
theorem execute_paste (hkind : operation.kind = .paste) {text : Text}
    (hclipboard : document.clipboard = some text) (hne : text ≠ []) (memory : Memory) :
    execute Document.surface operation memory document =
      (memory, .done (document.inserted text)) := by
  have hcopied : Document.surface.clipboard document = some text := hclipboard
  have hempty : text.isEmpty = false := by simpa using hne
  have hdone := insertOrReplace_eq hlines hanchor hactive text
  unfold execute
  simp only [hkind, hcopied, hempty, Bool.false_eq_true, if_false, hdone]

theorem execute_popText (hkind : operation.kind = .popText) {memory : Memory} {text : Text}
    {rest : List Text} (htexts : memory.texts = text :: rest) :
    execute Document.surface operation memory document =
      ({ memory with texts := rest }, .done (document.inserted text)) := by
  have hdone := insertOrReplace_eq hlines hanchor hactive text
  unfold execute
  simp only [hkind, htexts, hdone]

variable (document) in
/-- Whatever inserts the selected text after it has been deleted gives the document back. -/
theorem executeAll_reinsertion {delete insertion : Operation} (hdelete : delete.kind = .delete)
    (hselected : document.selection.anchor ≠ document.selection.active) {memory after : Memory}
    (hinsertion :
      execute Document.surface insertion memory (document.without document.selection.range) =
        (after, .done ((document.without document.selection.range).inserted
          (document.textIn document.selection.range)))) :
    executeAll Document.surface [delete, insertion] memory document =
      .ok (after, { document with selection := .caret document.selection.stop }) := by
  obtain ⟨hstart, hstop⟩ := LineView.holds_between hanchor hactive
  have hle := Range.start_le_stop_between document.selection.anchor document.selection.active
  have hback : (document.without document.selection.range).inserted
        (document.textIn document.selection.range) =
      { document with selection := .caret document.selection.stop } :=
    inserted_without hlines hstart hstop hle
  rw [executeAll_cons_done (execute_delete hlines hanchor hactive hdelete hselected memory),
    executeAll_cons_done hinsertion, hback]
  rfl

end Edits

/-- A new player that copies the selected text, deletes it and pastes it leaves the document as it
was, with the cursor at the later end of the selection and the text on the clipboard.  With the text
remembered instead, it leaves the clipboard alone as well, and remembers nothing in the end. -/
theorem play_reinserts (document : Document)
    (hlines : ∀ line ∈ document.lines, '\r' ∉ line ∧ '\n' ∉ line)
    (hanchor : document.view.Holds document.selection.anchor)
    (hactive : document.view.Holds document.selection.active)
    (hselected : document.selection.anchor ≠ document.selection.active) :
    (∀ program : Program, program.OnSelection [.copy, .delete, .paste] →
      fresh.play Document.surface program document =
        .ok (.completed, fresh,
          { document with
            selection := .caret document.selection.stop
            clipboard := some (document.textIn document.selection.range) })) ∧
    ∀ program : Program, program.OnSelection [.pushText, .delete, .popText] →
      fresh.play Document.surface program document =
        .ok (.completed, fresh,
          { document with selection := .caret document.selection.stop }) := by
  obtain ⟨hstart, -⟩ := LineView.holds_between hanchor hactive
  have hbreak := break_not_mem_without hlines document.selection.range
  have hcaret : (document.without document.selection.range).view.Holds _ :=
    holds_caret_without hlines hstart
  constructor
  · intro program hprogram
    obtain ⟨copy, delete, paste, hoperations, hcopy, hdelete, hpaste, htarget⟩ :=
      hprogram.exists_three
    have hne := textIn_selection_ne_nil (fun line hline => (hlines line hline).1) hanchor hactive
      hselected
    refine play_fresh_of_executeAll (hprogram.goes (by decide) (by decide)) ?_
    rw [hoperations, executeAll_cons_done (execute_copy hcopy htarget hselected {})]
    -- The text on the clipboard makes no difference to the deletion.
    have hpasted := execute_paste
      ((document.withClipboard (document.textIn document.selection.range)).without
        document.selection.range)
      hbreak hcaret hcaret hpaste rfl hne {}
    exact executeAll_reinsertion (document.withClipboard _) hlines hanchor hactive hdelete hselected
      hpasted
  · intro program hprogram
    obtain ⟨push, delete, pop, hoperations, hpush, hdelete, hpop, htarget⟩ :=
      hprogram.exists_three
    refine play_fresh_of_executeAll (hprogram.goes (by decide) (by decide)) ?_
    rw [hoperations, executeAll_cons_done (execute_pushText hpush htarget {})]
    exact executeAll_reinsertion document hlines hanchor hactive hdelete hselected
      (execute_popText hbreak hcaret hcaret hpop rfl)

/-- Three lines with carriage returns, the one in the middle empty, selected backwards from the
start of the last line to the end of the first. -/
def breaksSelected : Document :=
  { lines := [['a', 'b'], [], ['é']]
    lineBreak := .crlf
    selection := ⟨⟨2, 0⟩, ⟨0, 2⟩⟩
    clipboard := none }

/-- Nothing but line breaks is cut out, and pasted again where two lines have been joined. -/
theorem play_reinserts_breaks :
    fresh.play Document.surface
        (Script.compile {} "copy\ndelete // and back\npaste".toList).program breaksSelected =
      .ok (.completed, fresh,
        { breaksSelected with
          selection := .caret ⟨2, 0⟩
          clipboard := some ['\r', '\n', '\r', '\n'] }) := by
  have hprogram : Program.OnSelection [.copy, .delete, .paste]
      (Script.compile {} "copy\ndelete // and back\npaste".toList).program := by
    unfold Program.OnSelection
    decide +kernel
  exact (play_reinserts breaksSelected (by decide) (by decide) (by decide) (by decide)).1 _ hprogram

end Player

end EditPlayer
