import EditPlayer.Proofs.Counts
import EditPlayer.Proofs.Splice
import EditPlayer.Proofs.Turns
set_option autoImplicit false

/-!
# Where plays break off

Plays of scripts break off for one cause only.  A line may end with a carriage return of its own,
after a text with two carriage returns in a row.  When a replacement keeps the end of such a line
behind its range and puts nothing in front of it, cutting the line again drops that carriage return,
and the line has become shorter than what was kept (`LosesTail`).  Wherever no turn of the plays
does that, all of them come to their ends: `playAll_eq_error_iff_losesTail`.
-/

namespace EditPlayer

namespace Document

variable {document : Document} {range : Range}

/-- A replacement loses a character of what it keeps: the line behind the range ends with a carriage
return, and what comes in front of it is empty or ends with a line feed. -/
def LosesTail (document : Document) (range : Range) (text : Text) : Prop :=
  (document.tailAt range.stop).getLast? = some '\r' ∧
    (document.headAt range.start ++ text = [] ∨
      (document.headAt range.start ++ text).getLast? = some '\n')

instance (document : Document) (range : Range) (text : Text) :
    Decidable (document.LosesTail range text) :=
  inferInstanceAs (Decidable (_ ∧ _))

/-- A replacement of a range in the document, with its ends in order, breaks off exactly if it loses
its tail. -/
theorem replace_eq_fault_iff (h : ∀ line ∈ document.lines, '\n' ∉ line)
    (hstart : document.view.Holds range.start) (hstop : document.view.Holds range.stop)
    (hle : range.start ≤ range.stop) (text : Text) (cause : Fault) :
    document.replace range text = .fault cause ↔
      cause = .lostTail ∧ document.LosesTail range text := by
  have hlost : (document.lastNewText range text).length < (document.tailAt range.stop).length ↔
      document.LosesTail range text := by
    rw [lastNewText, Text.length_dropReturn_lt_iff, Text.lastPiece_eq_nil_iff, LosesTail, and_comm]
  rw [replace_eq h hstart hstop hle]
  by_cases hcase : (document.lastNewText range text).length < (document.tailAt range.stop).length
  · rw [if_pos hcase]
    simp only [Reply.fault.injEq, hlost.mp hcase, and_true]
    exact eq_comm
  · rw [if_neg hcase]
    simp [mt hlost.mpr hcase]

/-- A text that is opened with a cursor, at the position or as near as there is one, and with a
clipboard. -/
def opened (text : Text) (cursor : Position) (clipboard : Option Text) : Document :=
  { (ofText text).withCursor cursor with clipboard }

theorem wellFormed_opened (text : Text) (cursor : Position) (clipboard : Option Text) :
    (opened text cursor clipboard).WellFormed := by
  obtain ⟨hlines, hnewline, hanchor, hactive⟩ := (wellFormed_ofText text).withCursor cursor
  exact ⟨hlines, hnewline, hanchor, hactive⟩

end Document

namespace Player

open Document

/-- The operation of a turn asks for a replacement that loses its tail. -/
def Turn.LosesTail (turn : Turn Document) : Prop :=
  ∃ text, replacement? Document.surface turn.operation turn.memory turn.state = some text ∧
    turn.state.LosesTail turn.state.selection.range text

/-- A turn at a well-formed document breaks off exactly if it loses a tail, unless its count has no
negative counterpart. -/
theorem Turn.reply_eq_fault_iff {turn : Turn Document} (hstate : turn.state.WellFormed)
    (hcount : turn.operation.repeats ≠ signLimit) (cause : Fault) :
    turn.reply Document.surface = .fault cause ↔ cause = .lostTail ∧ turn.LosesTail := by
  obtain ⟨hstart, hstop⟩ := hstate.selectionHolds.holds_range
  have hle := Range.start_le_stop_between turn.state.selection.anchor turn.state.selection.active
  have hreplace (text : Text) (cause : Fault) :=
    replace_eq_fault_iff hstate.newline_not_mem hstart hstop hle text cause
  constructor
  · intro hfault
    have hends : (turn.reply Document.surface).Ends WellFormed
        fun cause => cause = .lostTail ∧ turn.LosesTail := by
      refine execute_ends ⟨fun edit hedit state hstate => hstate.perform_other hedit _, nofun⟩
        (fun h => absurd h hcount) ?_ hstate
      intro text htext
      refine hstate.replace_ends fun cause hcause => ?_
      obtain ⟨hlost, htail⟩ := (hreplace text cause).mp hcause
      exact ⟨hlost, text, htext, htail⟩
    rw [hfault] at hends
    exact hends
  · rintro ⟨rfl, text, htext, htail⟩
    exact execute_of_replacement_fault htext ((hreplace text .lostTail).mpr ⟨rfl, htail⟩)

/-- A program that the compiler accepts, of a script with fewer characters than a signed word
counts. -/
def Scripted (program : Program) : Prop :=
  ∃ source : Text, source.length < signLimit ∧ (Script.compile {} source).load = .ok program

namespace Scripted

variable {program : Program}

theorem eq_compile (h : Scripted program) :
    ∃ source : Text, source.length < signLimit ∧
      program = (Script.compile {} source).program := by
  obtain ⟨source, hlength, hload⟩ := h
  exact ⟨source, hlength, ((Compilation.load_eq_ok_iff _ program).mp hload).2.symm⟩

/-- A pause in a script can always be resumed. -/
theorem length_lt (h : Scripted program) : program.operations.length < wordLimit := by
  obtain ⟨source, hlength, rfl⟩ := h.eq_compile
  have hle := Script.length_operations_compile {} source
  have hlimits : signLimit < wordLimit := by decide
  omega

/-- The counts of a script have their negative counterparts. -/
theorem repeats_ne (h : Scripted program) {operation : Operation}
    (hmem : operation ∈ program.operations) : operation.repeats ≠ signLimit := by
  obtain ⟨source, -, rfl⟩ := h.eq_compile
  exact Script.repeats_ne_of_mem_compile hmem

end Scripted

/-- Every turn of plays of scripts on a well-formed document breaks off exactly if it loses its
tail. -/
theorem reply_eq_fault_iff_of_mem_allTurns {programs : List Program}
    (hprograms : ∀ program ∈ programs, Scripted program) {player : Player}
    {document : Document} (hdocument : document.WellFormed) {turn : Turn Document}
    (hturn : turn ∈ allTurns Document.surface programs player document)
    (cause : Fault) :
    turn.reply Document.surface = .fault cause ↔ cause = .lostTail ∧ turn.LosesTail := by
  have hstep : ∀ program ∈ programs, ∀ operation ∈ program.operations, ∀ memory state,
      state.WellFormed →
        (execute Document.surface operation memory state).2.Ends WellFormed fun _ => True :=
    fun _ _ operation _ memory _ hstate => hstate.execute operation memory
  obtain ⟨⟨program, hprogram, hmem⟩, hstate⟩ :=
    allTurns_keep (P := fun _ state => state.WellFormed) (fun _ _ hstate => hstate) hstep hdocument
      turn hturn
  have hcount := (hprograms program hprogram).repeats_ne hmem
  exact turn.reply_eq_fault_iff hstate hcount cause

/-- Plays of scripts by a new player, on any text with any cursor and clipboard, break off exactly
if one of their turns loses its tail. -/
theorem playAll_eq_error_iff_losesTail (text : Text) (cursor : Position) (clipboard : Option Text)
    (programs : List Program) (hprograms : ∀ program ∈ programs, Scripted program)
    (cause : Fault) :
    playAll Document.surface programs .fresh (Document.opened text cursor clipboard) =
        .error cause ↔
      cause = .lostTail ∧
        ∃ turn ∈ allTurns Document.surface programs .fresh (Document.opened text cursor clipboard),
          turn.LosesTail := by
  have hdocument := wellFormed_opened text cursor clipboard
  have hlength := fun program h => (hprograms program h).length_lt
  rw [playAll_eq_error_iff Document.surface hlength resumable_fresh]
  constructor
  · rintro ⟨turn, hturn, hfault⟩
    obtain ⟨hcause, htail⟩ :=
      (reply_eq_fault_iff_of_mem_allTurns hprograms hdocument hturn cause).mp hfault
    exact ⟨hcause, turn, hturn, htail⟩
  · rintro ⟨hcause, turn, hturn, htail⟩
    have hfault :=
      (reply_eq_fault_iff_of_mem_allTurns hprograms hdocument hturn cause).mpr ⟨hcause, htail⟩
    exact ⟨turn, hturn, hfault⟩

/-- A script that deletes two letters. -/
def deletion : Text := "move forward 2 select\ndelete".toList

theorem scripted_deletion : Scripted (Script.compile {} deletion).program := by
  have hload : (Script.compile {} deletion).diagnostics = [] := by decide
  exact ⟨deletion, by decide, (Compilation.load_eq_ok_iff _ _).mpr ⟨hload, rfl⟩⟩

/-- The line keeps nothing but its carriage return, which goes as well when the line is cut
again. -/
theorem playAll_deletion :
    playAll Document.surface [(Script.compile {} deletion).program] .fresh
        (Document.opened "ab\r\r".toList ⟨0, 0⟩ none) = .error .lostTail ∧
      ∃ turn ∈ allTurns Document.surface [(Script.compile {} deletion).program] .fresh
          (Document.opened "ab\r\r".toList ⟨0, 0⟩ none),
        turn.LosesTail := by
  have hprograms : ∀ program ∈ [(Script.compile {} deletion).program], Scripted program := by
    simpa using scripted_deletion
  have hplays : playAll Document.surface [(Script.compile {} deletion).program] .fresh
      (Document.opened "ab\r\r".toList ⟨0, 0⟩ none) = .error .lostTail := by
    rfl
  obtain ⟨-, hturn⟩ :=
    (playAll_eq_error_iff_losesTail "ab\r\r".toList ⟨0, 0⟩ none _ hprograms .lostTail).mp hplays
  exact ⟨hplays, hturn⟩

end Player

end EditPlayer
