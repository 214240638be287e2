import EditPlayer.Proofs.Chains
import EditPlayer.Proofs.LineBreaks
import EditPlayer.Proofs.Reach
set_option autoImplicit false

/-!
# What a search selects

A search looks for the selected text, or for the word at the cursor.  This term stands in the
document, so the search always ends on an occurrence of it: on the first one ahead of the selection,
or on the first one of all if there is none ahead.  The term is taken from the document in the style
of its line breaks and compared with the flat text, which makes no difference as long as no line
holds a carriage return.  `Document.find_selects` is the main statement.
-/

namespace EditPlayer

/-- The first of the offsets with a property that a search comes to. -/
def Direction.First (P : Nat → Prop) : Direction → Nat → Prop
  | .next => IsLeast {offset | P offset}
  | .previous => IsGreatest {offset | P offset}

/-- A search for the offsets with a property has this answer. -/
structure Direction.Answers (direction : Direction) (P : Nat → Prop) (answer : Option Nat) :
    Prop where
  first_of_some : ∀ offset, answer = some offset → direction.First P offset
  not_of_none : answer = none → ∀ offset, ¬ P offset

/-- A search that starts again finds the first offset ahead, or the first of all if there is none
ahead. -/
theorem Direction.Answers.or {direction : Direction} {P Q : Nat → Prop} {ahead all : Option Nat}
    (hahead : direction.Answers P ahead) (hall : direction.Answers Q all) (hsome : ∃ n, Q n) :
    ∃ offset, ahead.or all = some offset ∧
      (direction.First P offset ∨ (∀ n, ¬ P n) ∧ direction.First Q offset) := by
  cases ahead with
  | some offset => exact ⟨offset, rfl, .inl (hahead.first_of_some offset rfl)⟩
  | none =>
    have hnone := hahead.not_of_none rfl
    cases all with
    | some offset => exact ⟨offset, rfl, .inr ⟨hnone, hall.first_of_some offset rfl⟩⟩
    | none =>
      obtain ⟨n, hn⟩ := hsome
      exact absurd hn (hall.not_of_none rfl n)

/-! ## Occurrences in a text -/

namespace Text

variable {pattern text : Text}

theorem answers_find? (pattern text : Text) :
    Direction.next.Answers (OccursAt pattern text) (find? pattern text) where
  first_of_some := by
    intro column hcolumn
    refine ⟨occursAt_of_find? hcolumn, ?_⟩
    intro other hother
    obtain ⟨first, hfirst, hle⟩ := exists_find?_le hother
    rw [hcolumn, Option.some.injEq] at hfirst
    exact hfirst ▸ hle
  not_of_none := by
    intro hnone column hcolumn
    obtain ⟨first, hfirst, -⟩ := exists_find?_le hcolumn
    rw [hnone] at hfirst
    cases hfirst

theorem answers_findLast? (pattern text : Text) :
    Direction.previous.Answers (OccursAt pattern text) (findLast? pattern text) where
  first_of_some := by
    intro column hcolumn
    refine ⟨occursAt_of_findLast? hcolumn, ?_⟩
    intro other hother
    obtain ⟨last, hlast, hle⟩ := exists_le_findLast? hother
    rw [hcolumn, Option.some.injEq] at hlast
    exact hlast ▸ hle
  not_of_none := by
    intro hnone column hcolumn
    obtain ⟨last, hlast, -⟩ := exists_le_findLast? hcolumn
    rw [hnone] at hlast
    cases hlast

/-- A search behind the first `n` characters is for the occurrences that begin there. -/
theorem answers_find?_drop (pattern : Text) {text : Text} {n : Nat} (hn : n ≤ text.length) :
    Direction.next.Answers (fun column => OccursAt pattern text column ∧ n ≤ column)
      ((find? pattern (text.drop n)).map (n + ·)) where
  first_of_some := by
    intro column hcolumn
    obtain ⟨behind, hbehind, rfl⟩ := Option.map_eq_some_iff.mp hcolumn
    obtain ⟨hoccurs, hleast⟩ := (answers_find? pattern (text.drop n)).first_of_some behind hbehind
    refine ⟨⟨?_, Nat.le_add_right n behind⟩, ?_⟩
    · rw [Nat.add_comm]
      exact hoccurs.of_drop hn
    · rintro other ⟨hother, hle⟩
      have hfirst : behind ≤ other - n := hleast (hother.drop hle)
      change n + behind ≤ other
      omega
  not_of_none := by
    rintro hnone column ⟨hcolumn, hle⟩
    rw [Option.map_eq_none_iff] at hnone
    exact (answers_find? pattern (text.drop n)).not_of_none hnone _ (hcolumn.drop hle)

/-- A search among the first `n` characters is for the occurrences that end there. -/
theorem answers_findLast?_take (pattern text : Text) (n : Nat) :
    Direction.previous.Answers
      (fun column => OccursAt pattern text column ∧ column + pattern.length ≤ n)
      (findLast? pattern (text.take n)) where
  first_of_some := by
    intro column hcolumn
    obtain ⟨hoccurs, hgreatest⟩ := (answers_findLast? pattern (text.take n)).first_of_some column
      hcolumn
    have hend := OccursAt.add_length_le hoccurs
    rw [List.length_take] at hend
    refine ⟨⟨hoccurs.of_take, by omega⟩, ?_⟩
    rintro other ⟨hother, hle⟩
    exact hgreatest (hother.take hle)
  not_of_none := by
    rintro hnone column ⟨hcolumn, hle⟩
    exact (answers_findLast? pattern (text.take n)).not_of_none hnone _ (hcolumn.take hle)

end Text

/-- Positions in the document are strictly in the order of their offsets. -/
theorem LineView.lt_iff_offsetAt_lt {view : LineView} {p q : Position} (hp : view.Holds p)
    (hq : view.Holds q) : p < q ↔ view.offsetAt p < view.offsetAt q := by
  constructor
  · intro hlt
    by_contra hle
    exact le_of_offsetAt_le hq hp (Nat.le_of_not_lt hle) hlt
  · intro hlt
    by_contra hle
    exact Nat.not_le_of_lt hlt (offsetAt_mono hq hp hle)

namespace Document

variable {document : Document} {range : Range} {term : Text}

/-! ## The term -/

/-- What a search looks for stands in this range: the selection, or the word at the cursor if
nothing is selected. -/
inductive Sought (document : Document) : Range → Prop where
  | selected (hselected : document.selection.anchor ≠ document.selection.active) :
      Sought document document.selection.range
  | word {range : Range} (hempty : document.selection.anchor = document.selection.active)
      (hword : document.wordRangeAt document.selection.active = some range) :
      Sought document range

/-- A word is not empty. -/
theorem lt_of_wordRangeAt {p : Position} (h : document.wordRangeAt p = some range) :
    range.start < range.stop := by
  unfold wordRangeAt at h
  split at h
  · cases h
  · dsimp only at h
    split at h
    · rename_i hlt
      cases h
      exact .inr ⟨rfl, hlt⟩
    · cases h

/-- What a search looks for is a part of the document that is not empty. -/
theorem Sought.holds (hrange : document.Sought range) (h : document.SelectionHolds) :
    document.view.Holds range.start ∧ document.view.Holds range.stop ∧
      range.start < range.stop := by
  cases hrange with
  | selected hselected =>
    obtain ⟨hstart, hstop⟩ := h.holds_range
    refine ⟨hstart, hstop, ?_⟩
    have hle : document.selection.range.start ≤ document.selection.range.stop :=
      Range.start_le_stop_between _ _
    have hne : document.selection.range.isEmpty = false := Range.isEmpty_between hselected
    by_contra hlt
    exact beq_eq_false_iff_ne.mp hne (Position.le_antisymm hle hlt)
  | word _ hword =>
    obtain ⟨hstart, hstop⟩ := holds_wordRangeAt hword
    exact ⟨hstart, hstop, lt_of_wordRangeAt hword⟩

theorem flatIn_ne_nil (hstart : document.view.Holds range.start)
    (hstop : document.view.Holds range.stop) (hlt : range.start < range.stop) :
    document.flatIn range ≠ [] := by
  intro hnil
  have hoffset := (LineView.lt_iff_offsetAt_lt hstart hstop).mp hlt
  have hlength := offsetAt_add_length_flatIn hstart hstop
    (LineView.le_of_offsetAt_le hstart hstop (Nat.le_of_lt hoffset))
  rw [hnil, List.length_nil] at hlength
  omega

/-- The text of a range stands in the flat text at the offset of its start. -/
theorem occursAt_flatIn (hstart : document.view.Holds range.start)
    (hstop : document.view.Holds range.stop) :
    Text.OccursAt (document.flatIn range) document.flat (document.view.offsetAt range.start) := by
  refine ⟨offsetAt_le_length hstart, ?_⟩
  have hflat : document.flatIn range = _ := flatIn_of_holds hstart hstop
  rw [hflat]
  exact List.take_prefix _ _

theorem searchTerm?_of_not_sought (hempty : document.selection.anchor = document.selection.active)
    (hword : document.wordRangeAt document.selection.active = none) :
    document.searchTerm? = none := by
  have hcaret : document.selection.isEmpty = true := beq_iff_eq.mpr hempty
  rw [searchTerm?, if_pos hcaret, hword, Option.bind_none]

/-- The term is the text of the range with line feeds alone: the carriage returns that the style of
the document puts before them are taken out again. -/
theorem searchTerm?_of_sought (hlines : ∀ line ∈ document.lines, '\r' ∉ line)
    (h : document.SelectionHolds) (hrange : document.Sought range) :
    document.searchTerm? = some (document.flatIn range) := by
  obtain ⟨hstart, hstop, hlt⟩ := hrange.holds h
  have hread : (document.textIn range).crlfToLf = document.flatIn range :=
    document.lineBreak.crlfToLf_write (return_not_mem_flatIn hlines range)
  have hne : ¬ (document.textIn range).isEmpty = true := by
    intro hempty
    rw [List.isEmpty_iff.mp hempty] at hread
    exact flatIn_ne_nil hstart hstop hlt hread.symm
  have hchosen : (if document.selection.isEmpty then
      document.wordRangeAt document.selection.active else some document.selection.range) =
        some range := by
    cases hrange with
    | selected hselected =>
      refine if_neg ?_
      simpa [Selection.isEmpty] using hselected
    | word hempty hword => exact (if_pos (beq_iff_eq.mpr hempty)).trans hword
  rw [searchTerm?, hchosen, Option.bind_some]
  dsimp only
  rw [if_neg hne, hread]

/-! ## The occurrence -/

/-- The occurrences of a term that a search comes to before it starts again: those that begin at the
end of the selection or behind it, or those that end at its start or before it. -/
def Ahead (document : Document) (term : Text) : Direction → Nat → Prop
  | .next => fun offset => Text.OccursAt term document.flat offset ∧
      document.view.offsetAt document.selection.stop ≤ offset
  | .previous => fun offset => Text.OccursAt term document.flat offset ∧
      offset + term.length ≤ document.view.offsetAt document.selection.start

/-- The offset of the occurrence that a search finds. -/
def Found (document : Document) (term : Text) (direction : Direction) (offset : Nat) : Prop :=
  direction.First (document.Ahead term direction) offset ∨
    (∀ other, ¬ document.Ahead term direction other) ∧
      direction.First (Text.OccursAt term document.flat) offset

theorem Found.occursAt {direction : Direction} {offset : Nat}
    (h : document.Found term direction offset) : Text.OccursAt term document.flat offset := by
  cases direction with
  | next =>
    rcases h with hahead | ⟨-, hall⟩
    · exact hahead.1.1
    · exact hall.1
  | previous =>
    rcases h with hahead | ⟨-, hall⟩
    · exact hahead.1.1
    · exact hall.1

/-- A term that occurs in the document is found. -/
theorem exists_searchOffset? (h : document.SelectionHolds)
    (hoccurs : ∃ offset, Text.OccursAt term document.flat offset) (direction : Direction) :
    ∃ offset, document.searchOffset? term direction = some offset ∧
      document.Found term direction offset := by
  cases direction with
  | next =>
    have hstop := offsetAt_le_length h.holds_range.2
    have hmin : min (document.view.offsetAt document.selection.stop) document.flat.length =
        document.view.offsetAt document.selection.stop := Nat.min_eq_left hstop
    rw [searchOffset?, hmin]
    exact (Text.answers_find?_drop term hstop).or (Text.answers_find? term document.flat) hoccurs
  | previous =>
    exact (Text.answers_findLast?_take term document.flat _).or
      (Text.answers_findLast? term document.flat) hoccurs

/-- An offset within the flat text is the offset of the position that it leads to. -/
theorem offsetAt_positionAt_of_le (hcount : 0 < document.view.count) {offset : Nat}
    (hoffset : offset ≤ document.flat.length) :
    document.view.offsetAt (document.view.positionAt offset) = offset := by
  rw [LineView.offsetAt_positionAt hcount, offsetAt_endPosition hcount, Nat.min_eq_left hoffset]

/-- An occurrence is the text between the positions of its two ends. -/
theorem flatIn_positionAt (hcount : 0 < document.view.count) {offset : Nat}
    (h : Text.OccursAt term document.flat offset) :
    document.flatIn ⟨document.view.positionAt offset,
      document.view.positionAt (offset + term.length)⟩ = term := by
  rw [flatIn_of_holds (LineView.holds_positionAt hcount _) (LineView.holds_positionAt hcount _),
    offsetAt_positionAt_of_le hcount h.1, offsetAt_positionAt_of_le hcount h.add_length_le,
    Nat.add_sub_cancel_left]
  exact (List.prefix_iff_eq_take.mp h.2).symm

/-- A search changes nothing if nothing is selected and no word touches the cursor.  Otherwise it
selects an occurrence of its term from its start to its end, and nothing else changes.  Forwards
this is the first occurrence that begins at the end of the old selection or behind it, or the first
one of all if there is none; backwards it is the last one that ends at the start of the old
selection or before it, or the last one of all. -/
theorem find_selects (document : Document)
    (hlines : ∀ line ∈ document.lines, '\r' ∉ line)
    (hanchor : document.view.Holds document.selection.anchor)
    (hactive : document.view.Holds document.selection.active) (direction : Direction) :
    (document.selection.anchor = document.selection.active →
      document.wordRangeAt document.selection.active = none →
      document.find direction = document) ∧
    ∀ range, document.Sought range → ∃ offset anchor active,
      document.Found (document.flatIn range) direction offset ∧
      document.find direction = { document with selection := ⟨anchor, active⟩ } ∧
      anchor < active ∧ document.view.Holds anchor ∧ document.view.Holds active ∧
      document.view.offsetAt anchor = offset ∧
      document.view.offsetAt active = offset + (document.flatIn range).length ∧
      document.flatIn ⟨anchor, active⟩ = document.flatIn range := by
  have h : document.SelectionHolds := ⟨hanchor, hactive⟩
  have hcount := h.count_pos
  constructor
  · intro hempty hword
    rw [find, searchTerm?_of_not_sought hempty hword]
  · intro range hrange
    obtain ⟨hstart, hstop, hlt⟩ := hrange.holds h
    have hterm := searchTerm?_of_sought hlines h hrange
    have hpos : 0 < (document.flatIn range).length :=
      List.length_pos_iff.mpr (flatIn_ne_nil hstart hstop hlt)
    obtain ⟨offset, hoffset, hfound⟩ :=
      exists_searchOffset? h ⟨_, occursAt_flatIn hstart hstop⟩ direction
    have hoccurs := hfound.occursAt
    have hfirst := offsetAt_positionAt_of_le hcount hoccurs.1
    have hlast := offsetAt_positionAt_of_le hcount hoccurs.add_length_le
    have hholds := LineView.holds_positionAt hcount
    refine ⟨offset, document.view.positionAt offset,
      document.view.positionAt (offset + (document.flatIn range).length), hfound, ?_, ?_,
      hholds _, hholds _, hfirst, hlast, flatIn_positionAt hcount hoccurs⟩
    · rw [find, hterm]
      dsimp only
      rw [hoffset]
    · rw [LineView.lt_iff_offsetAt_lt (hholds _) (hholds _), hfirst, hlast]
      exact Nat.lt_add_of_pos_right hpos

/-- Lines on which a term of two lines overlaps itself, with the first two of them selected
backwards. -/
def repeatedLines : Document :=
  { lines := [['é'], ['é'], ['é'], ['b']]
    lineBreak := .crlf
    selection := ⟨⟨1, 1⟩, ⟨0, 0⟩⟩
    clipboard := none }

/-- Nothing ends before the first line, so the search goes on from the end of the document and finds
the term where it overlaps the old selection. -/
theorem find_selects_overlapping :
    repeatedLines.Found ['é', '\n', 'é'] .previous 2 ∧
      repeatedLines.find .previous =
        { repeatedLines with selection := ⟨⟨1, 0⟩, ⟨2, 1⟩⟩ } := by
  have hfind : repeatedLines.find .previous =
      { repeatedLines with selection := ⟨⟨1, 0⟩, ⟨2, 1⟩⟩ } := by
    decide
  obtain ⟨-, hselects⟩ :=
    find_selects repeatedLines (by decide) (by decide) (by decide) .previous
  obtain ⟨offset, anchor, active, hfound, hresult, -, -, -, hoffset, -⟩ :=
    hselects _ (.selected (by decide))
  have hselection : (⟨⟨1, 0⟩, ⟨2, 1⟩⟩ : Selection) = ⟨anchor, active⟩ :=
    congrArg Document.selection (hfind.symm.trans hresult)
  cases hselection
  have htwo : offset = 2 := hoffset.symm
  exact ⟨htwo ▸ hfound, hfind⟩

end Document

end EditPlayer
