import EditPlayer.Proofs.FlatText
import EditPlayer.Proofs.LineBreaks
set_option autoImplicit false

/-!
# The text of a range, line by line

The text of a range is cut out of the flat text by offsets and gets the line breaks of the document
afterwards.  It is the same as what the lines show (`Document.slice`): a part of one line, or the
tail of the first line, the lines between, and the head of the last one, joined by line breaks.  So
the texts of two ranges that meet are put together to the text of both, and the whole document has
its text (`Document.textIn_slices`).  Carriage returns in the lines are characters as all others.
-/

namespace EditPlayer.Document

/-- The part of a document between two positions, taken from its lines. -/
def slice (document : Document) (p q : Position) : Text :=
  if p.line = q.line then ((document.lines[p.line]?).getD []).extract p.column q.column
  else
    document.lineBreak.join
      (document.tailAt p :: document.lines.extract (p.line + 1) q.line ++ [document.headAt q])

variable {document : Document} {p q r : Position}

/-! ## The flat text of a range -/

theorem lineAt_eq_append (document : Document) (p : Position) :
    (document.lines[p.line]?).getD [] = document.headAt p ++ document.tailAt p :=
  (List.take_append_drop p.column _).symm

/-- What stands before the end of a range and not before its start. -/
theorem flatIn_eq_drop (hp : document.view.Holds p) (hq : document.view.Holds q) :
    document.flatIn ⟨p, q⟩ =
      (Text.closed (document.lines.take q.line) ++ document.headAt q).drop
        (Text.closed (document.lines.take p.line) ++ document.headAt p).length := by
  rw [flatIn_of_holds hp hq, ← List.drop_take, take_offsetAt hq, offsetAt_eq_length hp]

/-- On one line a range is a part of that line. -/
theorem flatIn_of_line_eq (hp : document.view.Holds p) (hq : document.view.Holds q)
    (hline : p.line = q.line) :
    document.flatIn ⟨p, q⟩ = ((document.lines[p.line]?).getD []).extract p.column q.column := by
  rw [flatIn_eq_drop hp hq, ← hline, List.length_append, List.drop_length_add_append,
    length_headAt hp, headAt, ← hline, List.drop_take]

/-- The lines before a later line are those before an earlier one, that one, and those between. -/
theorem take_line_eq (hp : document.view.Holds p) {n : Nat} (hlt : p.line < n) :
    document.lines.take n =
      document.lines.take p.line ++ [document.headAt p ++ document.tailAt p] ++
        document.lines.extract (p.line + 1) n := by
  have hline : p.line < document.lines.length := hp.1
  obtain ⟨between, rfl⟩ := Nat.exists_eq_add_of_le (Nat.succ_le_of_lt hlt)
  rw [List.extract_eq_take_drop, Nat.succ_eq_add_one, Nat.add_sub_cancel_left, List.take_add,
    List.take_add_one, ← lineAt_eq_append, List.getElem?_eq_getElem hline]
  rfl

/-- Over several lines a range is the tail of the first line, the lines between, and the head of the
last line. -/
theorem flatIn_of_line_lt (hp : document.view.Holds p) (hq : document.view.Holds q)
    (hlt : p.line < q.line) :
    document.flatIn ⟨p, q⟩ =
      LineBreak.lf.join
        (document.tailAt p :: document.lines.extract (p.line + 1) q.line ++
          [document.headAt q]) := by
  have hjoin := Text.join_append_of_ne_nil
    (document.tailAt p :: document.lines.extract (p.line + 1) q.line)
    (List.cons_ne_nil (document.headAt q) [])
  have hbefore : Text.closed (document.lines.take q.line) ++ document.headAt q =
      (Text.closed (document.lines.take p.line) ++ document.headAt p) ++
        (Text.closed (document.tailAt p :: document.lines.extract (p.line + 1) q.line) ++
          document.headAt q) := by
    rw [take_line_eq hp hlt]
    simp [Text.closed]
  rw [flatIn_eq_drop hp hq, hbefore, List.drop_left, LineBreak.join, LineBreak.text, hjoin,
    Text.join_singleton]

/-- Two ranges that meet are put together. -/
theorem flatIn_append (hp : document.view.Holds p) (hq : document.view.Holds q)
    (hr : document.view.Holds r) (hpq : p ≤ q) (hqr : q ≤ r) :
    document.flatIn ⟨p, q⟩ ++ document.flatIn ⟨q, r⟩ = document.flatIn ⟨p, r⟩ := by
  have hfirst := LineView.offsetAt_mono hp hq hpq
  have hsecond := LineView.offsetAt_mono hq hr hqr
  have hlength : document.view.offsetAt r - document.view.offsetAt p =
      document.view.offsetAt q - document.view.offsetAt p +
        (document.view.offsetAt r - document.view.offsetAt q) := by omega
  rw [flatIn_of_holds hp hq, flatIn_of_holds hq hr, flatIn_of_holds hp hr, hlength, List.take_add,
    List.drop_drop, Nat.add_sub_of_le hfirst]

/-- From its start to its end the document has all of the flat text. -/
theorem flatIn_whole (hcount : 0 < document.view.count) :
    document.flatIn ⟨.origin, document.view.endPosition⟩ = document.flat := by
  have hstart : document.view.Holds .origin := LineView.holds_lineStart hcount
  have hzero : document.view.offsetAt .origin = 0 := LineView.offsetAt_of_holds hstart
  rw [flatIn_of_holds hstart (LineView.holds_endPosition hcount), hzero,
    offsetAt_endPosition hcount, List.drop_zero, Nat.sub_zero, List.take_length]

/-! ## The text of a range -/

theorem newline_not_mem_lineAt (hlines : ∀ line ∈ document.lines, '\n' ∉ line) (n : Nat) :
    '\n' ∉ (document.lines[n]?).getD [] := by
  cases hline : document.lines[n]? with
  | none => exact List.not_mem_nil
  | some line => exact hlines line (List.mem_of_getElem? hline)

/-- The text of a range is what the lines show. -/
theorem textIn_eq_slice (hlines : ∀ line ∈ document.lines, '\n' ∉ line)
    (hp : document.view.Holds p) (hq : document.view.Holds q) (hle : p ≤ q) :
    document.textIn ⟨p, q⟩ = document.slice p q := by
  rw [textIn, slice]
  split
  · rename_i hline
    rw [flatIn_of_line_eq hp hq hline, LineBreak.write_of_not_mem]
    exact fun hmem => newline_not_mem_lineAt hlines p.line
      (List.mem_of_mem_drop (List.mem_of_mem_take hmem))
  · rename_i hne
    have hlt : p.line < q.line := by
      rw [Position.le_iff] at hle
      omega
    rw [flatIn_of_line_lt hp hq hlt, LineBreak.write_join]
    intro piece hpiece
    rcases List.mem_append.mp hpiece with hfirst | hlast
    · rcases List.mem_cons.mp hfirst with rfl | hbetween
      · exact fun hmem => newline_not_mem_lineAt hlines p.line (List.mem_of_mem_drop hmem)
      · exact hlines piece (List.mem_of_mem_drop (List.mem_of_mem_take hbetween))
    · rw [List.mem_singleton.mp hlast]
      exact fun hmem => newline_not_mem_lineAt hlines q.line (List.mem_of_mem_take hmem)

/-- In a document whose lines hold no line feeds the text of a range is what the lines show, ranges
that meet are put together, and the range from the start to the end has the text of the document. -/
theorem textIn_slices (document : Document) (hcount : 0 < document.view.count)
    (hlines : ∀ line ∈ document.lines, '\n' ∉ line) :
    (∀ p q, document.view.Holds p → document.view.Holds q → p ≤ q →
        document.textIn ⟨p, q⟩ = document.slice p q) ∧
      (∀ p q r, document.view.Holds p → document.view.Holds q → document.view.Holds r →
        p ≤ q → q ≤ r →
        document.textIn ⟨p, q⟩ ++ document.textIn ⟨q, r⟩ = document.textIn ⟨p, r⟩) ∧
      document.textIn ⟨.origin, document.view.endPosition⟩ = document.text := by
  refine ⟨fun p q => textIn_eq_slice hlines, fun p q r hp hq hr hpq hqr => ?_, ?_⟩
  · rw [textIn, textIn, ← LineBreak.write_append, flatIn_append hp hq hr hpq hqr]
    rfl
  · rw [textIn, flatIn_whole hcount]
    exact LineBreak.write_join _ hlines

/-- A carriage return at the end of a line stays apart from the line break behind it. -/
theorem textIn_slices_returnAtEnd :
    (ofText "a\r\r\n\r\nbc".toList).textIn ⟨⟨0, 1⟩, ⟨2, 1⟩⟩ = "\r\r\n\r\nb".toList ∧
      (ofText "a\r\r\n\r\nbc".toList).textIn ⟨⟨0, 1⟩, ⟨1, 0⟩⟩ ++
          (ofText "a\r\r\n\r\nbc".toList).textIn ⟨⟨1, 0⟩, ⟨2, 1⟩⟩ =
        (ofText "a\r\r\n\r\nbc".toList).textIn ⟨⟨0, 1⟩, ⟨2, 1⟩⟩ ∧
      (ofText "a\r\r\n\r\nbc".toList).textIn
          ⟨.origin, (ofText "a\r\r\n\r\nbc".toList).view.endPosition⟩ =
        (ofText "a\r\r\n\r\nbc".toList).text := by
  obtain ⟨hslice, happend, hwhole⟩ :=
    textIn_slices (ofText "a\r\r\n\r\nbc".toList) (by decide) (by decide)
  refine ⟨(hslice _ _ (by decide) (by decide) (by decide)).trans (by decide), ?_, hwhole⟩
  exact happend _ _ _ (by decide) (by decide) (by decide) (by decide) (by decide)

end EditPlayer.Document
