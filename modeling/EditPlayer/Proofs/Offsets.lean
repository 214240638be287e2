import EditPlayer.Proofs.SearchResults
set_option autoImplicit false

/-!
# Positions and offsets

A document has as many offsets as characters and line breaks, and one for its end.  The positions in
it correspond to these offsets one to one and in the same order, and a greater offset leads to the
end (`LineView.offsets_correspond`).  The size of the document is counted line by line here, and not
from the offset of its end, so that the last line is seen to have no line break behind it.
A document that fits into a word therefore has an offset for each of its positions
(`Document.offsetAt_surface`).
-/

namespace EditPlayer

namespace LineView

/-- The text of a line; a line that is not there has none. -/
def lineText (view : LineView) (n : Nat) : Text := (view.line? n).getD []

theorem length_lineText (view : LineView) (n : Nat) :
    (view.lineText n).length = view.lineLength n := by
  rw [lineText, lineLength]
  cases view.line? n with
  | none => rfl
  | some text => rfl

/-- The characters of all lines, with one for each line break between them. -/
def size (view : LineView) : Nat :=
  ((List.range view.count).flatMap view.lineText).length + (view.count - 1)

/-- Going over the lines counts their characters and their line breaks. -/
theorem lengthBefore_eq (view : LineView) (n : Nat) :
    view.lengthBefore n = ((List.range n).flatMap view.lineText).length + n := by
  induction n with
  | zero => rfl
  | succ n ih =>
    rw [lengthBefore_succ, ih, List.range_succ, List.flatMap_append, List.length_append,
      List.flatMap_singleton, length_lineText]
    omega

variable {view : LineView}

/-- The last line break stands before the last line. -/
theorem offsetAt_endPosition_eq_size (h : 0 < view.count) :
    view.offsetAt view.endPosition = view.size := by
  have hcount : view.count = view.lastLine + 1 := by
    unfold lastLine
    omega
  have hlines := lengthBefore_eq view view.count
  rw [hcount, lengthBefore_succ, ← hcount] at hlines
  have hend : view.offsetAt view.endPosition =
      view.lengthBefore view.lastLine + view.lineLength view.lastLine :=
    offsetAt_of_holds (holds_endPosition h)
  rw [hend, size]
  omega

theorem offsetAt_positionAt_eq_min (h : 0 < view.count) (offset : Nat) :
    view.offsetAt (view.positionAt offset) = min offset view.size := by
  rw [offsetAt_positionAt h, offsetAt_endPosition_eq_size h]

/-- No position in the document has an offset behind its end. -/
theorem offsetAt_le_size {p : Position} (h : view.Holds p) : view.offsetAt p ≤ view.size := by
  have hcount : 0 < view.count := Nat.zero_lt_of_lt h.1
  have hmin := offsetAt_positionAt_eq_min hcount (view.offsetAt p)
  rw [positionAt_offsetAt h] at hmin
  rw [hmin]
  exact Nat.min_le_right _ _

theorem checkedOffsetAt_of_holds (hsize : view.size < wordLimit) {p : Position}
    (h : view.Holds p) : view.checkedOffsetAt p = .ok (view.offsetAt p) := by
  have hlimit : view.offsetAt p < wordLimit := Nat.lt_of_le_of_lt (offsetAt_le_size h) hsize
  rw [checkedOffsetAt, if_pos hlimit]

end LineView

/-- A document has as many characters and line breaks as its flat text. -/
theorem Document.size_view {document : Document} (h : 0 < document.view.count) :
    document.view.size = document.flat.length := by
  rw [← LineView.offsetAt_endPosition_eq_size h, offsetAt_endPosition h]

/-- As long as the text of a document fits into a word, the document answers for its own positions as
a surface does that has nothing to go by but its lines. -/
theorem Document.offsetAt_surface {document : Document} (hsize : document.flat.length < wordLimit)
    {p : Position} (h : document.view.Holds p) :
    Document.surface.offsetAt document p = document.view.checkedOffsetAt p := by
  rw [← size_view (Nat.zero_lt_of_lt h.1)] at hsize
  exact (LineView.checkedOffsetAt_of_holds hsize h).symm

namespace LineView

/-- In a document whose size fits into a word, every position in it has an offset and is found again
from it, every offset up to the end has a position in it and is found again from that, and positions
come in the order of their offsets. -/
theorem offsets_correspond (view : LineView) (hcount : 0 < view.count)
    (hsize : view.size < wordLimit) :
    (∀ p, view.Holds p → view.checkedOffsetAt p = .ok (view.offsetAt p) ∧
        view.positionAt (view.offsetAt p) = p) ∧
      (∀ offset, view.Holds (view.positionAt offset) ∧
        view.checkedOffsetAt (view.positionAt offset) = .ok (min offset view.size)) ∧
      ∀ p q, view.Holds p → view.Holds q → (p < q ↔ view.offsetAt p < view.offsetAt q) := by
  refine ⟨fun p hp => ?_, fun offset => ?_, fun p q hp hq => ?_⟩
  · exact ⟨checkedOffsetAt_of_holds hsize hp, positionAt_offsetAt hp⟩
  · have hholds := holds_positionAt hcount offset
    refine ⟨hholds, ?_⟩
    rw [checkedOffsetAt_of_holds hsize hholds, offsetAt_positionAt_eq_min hcount]
  · exact lt_iff_offsetAt_lt hp hq

/-- The end of an empty line and the beginning of the next one are two offsets. -/
theorem offsets_correspond_emptyLine :
    (ofLines [['a', 'b'], [], ['é']]).positionAt 3 = ⟨1, 0⟩ ∧
      (ofLines [['a', 'b'], [], ['é']]).checkedOffsetAt ⟨1, 0⟩ = .ok 3 ∧
      (ofLines [['a', 'b'], [], ['é']]).checkedOffsetAt
        ((ofLines [['a', 'b'], [], ['é']]).positionAt 99) = .ok 5 ∧
      (ofLines [['a', 'b'], [], ['é']]).offsetAt ⟨1, 0⟩ <
        (ofLines [['a', 'b'], [], ['é']]).offsetAt ⟨2, 0⟩ := by
  obtain ⟨hfound, hoffset, horder⟩ :=
    offsets_correspond (ofLines [['a', 'b'], [], ['é']]) (by decide) (by decide)
  obtain ⟨hchecked, hback⟩ := hfound ⟨1, 0⟩ (by decide)
  exact ⟨hback, hchecked, (hoffset 99).2, (horder ⟨1, 0⟩ ⟨2, 0⟩ (by decide) (by decide)).mp
    (by decide)⟩

end LineView

end EditPlayer
