import EditPlayer.Document.Edit
import EditPlayer.Proofs.Lines
set_option autoImplicit false

/-!
# The flat text and its offsets

A position in the document divides the flat text into what stands before it and what stands behind
it: `take_offsetAt` and `drop_offsetAt`.  Both parts are made of whole lines with their line feeds
and of a part of the position's own line.  A position is found again from its offset
(`positionAt_offsetAt`), and an offset from its position unless it lies behind the end
(`offsetAt_positionAt`).  So a range divides the flat text into three parts (`flat_eq_flatIn`).
-/

namespace EditPlayer

namespace Text

/-- Lines with a line feed behind each. -/
def closed (lines : List Text) : Text := lines.flatMap fun line => line ++ ['\n']

/-- Lines with a line feed in front of each. -/
def opened (lines : List Text) : Text := lines.flatMap fun line => '\n' :: line

@[simp] theorem closed_append (first second : List Text) :
    closed (first ++ second) = closed first ++ closed second := by
  simp [closed]

theorem join_cons_eq_opened (line : Text) (lines : List Text) :
    join ['\n'] (line :: lines) = line ++ opened lines := by
  induction lines generalizing line with
  | nil => simp [opened]
  | cons next lines ih =>
    rw [join_cons_of_ne_nil _ _ (List.cons_ne_nil next lines), ih next]
    simp [opened]

/-- Lines joined behind other lines. -/
theorem join_append_of_ne_nil (before : List Text) {lines : List Text} (h : lines ≠ []) :
    join ['\n'] (before ++ lines) = closed before ++ join ['\n'] lines := by
  induction before with
  | nil => rfl
  | cons line before ih =>
    have hne : before ++ lines ≠ [] := by simp [h]
    rw [List.cons_append, join_cons_of_ne_nil _ _ hne, ih]
    simp [closed]

/-- Lines joined between other lines. -/
theorem join_between (before : List Text) {lines : List Text} (h : lines ≠ [])
    (after : List Text) :
    join ['\n'] (before ++ lines ++ after) =
      closed before ++ join ['\n'] lines ++ opened after := by
  have hne : lines ++ after ≠ [] := by simp [h]
  rw [List.append_assoc, join_append_of_ne_nil before hne]
  cases lines with
  | nil => exact absurd rfl h
  | cons line lines =>
    rw [List.cons_append, join_cons_eq_opened, join_cons_eq_opened]
    simp [opened]

end Text

/-! ## Offsets of positions -/

namespace LineView

theorem lengthBefore_le {view : LineView} {m n : Nat} (h : m ≤ n) :
    view.lengthBefore m ≤ view.lengthBefore n := by
  induction n with
  | zero =>
    obtain rfl : m = 0 := Nat.le_zero.mp h
    exact Nat.le_refl _
  | succ n ih =>
    rcases Nat.lt_or_eq_of_le h with hlt | rfl
    · have hle := ih (Nat.le_of_lt_succ hlt)
      rw [lengthBefore_succ]
      omega
    · exact Nat.le_refl _

theorem offsetAt_of_holds {view : LineView} {p : Position} (h : view.Holds p) :
    view.offsetAt p = view.lengthBefore p.line + p.column := by
  rw [offsetAt, Nat.min_eq_left (Nat.le_of_lt h.1)]

/-- Going on from a line, the characters up to a position lead to that position. -/
theorem positionFrom_eq {view : LineView} {p : Position}
    (hcolumn : p.column ≤ view.lineLength p.line) {line below : Nat}
    (hline : line ≤ p.line) (hbelow : p.line ≤ line + below) :
    view.positionFrom line below
      (view.lengthBefore p.line - view.lengthBefore line + p.column) = p := by
  induction below generalizing line with
  | zero =>
    have heq : line = p.line := by omega
    subst heq
    rw [positionFrom, Nat.sub_self, Nat.zero_add, Nat.min_eq_left hcolumn]
  | succ below ih =>
    rw [positionFrom]
    rcases Nat.lt_or_eq_of_le hline with hlt | rfl
    · -- The offset lies behind this line, since the position is on a later one.
      have hmono : view.lengthBefore (line + 1) ≤ view.lengthBefore p.line := lengthBefore_le hlt
      rw [lengthBefore_succ] at hmono
      have hbeyond : ¬ view.lengthBefore p.line - view.lengthBefore line + p.column ≤
          view.lineLength line := by omega
      rw [if_neg hbeyond]
      have hoffset : view.lengthBefore p.line - view.lengthBefore line + p.column -
            (view.lineLength line + 1) =
          view.lengthBefore p.line - view.lengthBefore (line + 1) + p.column := by
        rw [lengthBefore_succ]
        omega
      rw [hoffset]
      exact ih hlt (by omega)
    · rw [Nat.sub_self, Nat.zero_add, if_pos hcolumn]

/-- A position in the document is found again from its offset. -/
theorem positionAt_offsetAt {view : LineView} {p : Position} (h : view.Holds p) :
    view.positionAt (view.offsetAt p) = p := by
  have hlast : p.line ≤ 0 + view.lastLine := by
    have hline := h.1
    unfold lastLine
    omega
  have hposition := positionFrom_eq h.2 (Nat.zero_le p.line) hlast
  rw [lengthBefore_zero, Nat.sub_zero, ← offsetAt_of_holds h] at hposition
  exact hposition

/-- Positions in the document are told apart by their offsets. -/
theorem eq_of_offsetAt_eq {view : LineView} {p q : Position} (hp : view.Holds p)
    (hq : view.Holds q) (h : view.offsetAt p = view.offsetAt q) : p = q := by
  rw [← positionAt_offsetAt hp, h, positionAt_offsetAt hq]

/-- An earlier position has no greater offset. -/
theorem offsetAt_mono {view : LineView} {p q : Position} (hp : view.Holds p) (hq : view.Holds q)
    (hle : p ≤ q) : view.offsetAt p ≤ view.offsetAt q := by
  rw [offsetAt_of_holds hp, offsetAt_of_holds hq]
  rw [Position.le_iff] at hle
  rcases hle with hlt | ⟨heq, hcolumn⟩
  · -- A later line begins behind all columns of an earlier one.
    have hmono : view.lengthBefore (p.line + 1) ≤ view.lengthBefore q.line := lengthBefore_le hlt
    rw [lengthBefore_succ] at hmono
    have hcolumn := hp.2
    omega
  · rw [heq]
    exact Nat.add_le_add_left hcolumn _

/-- Positions in the document are in the order of their offsets. -/
theorem le_of_offsetAt_le {view : LineView} {p q : Position} (hp : view.Holds p)
    (hq : view.Holds q) (hle : view.offsetAt p ≤ view.offsetAt q) : p ≤ q := by
  rcases Position.le_total p q with h | h
  · exact h
  · have heq : view.offsetAt p = view.offsetAt q := Nat.le_antisymm hle (offsetAt_mono hq hp h)
    exact eq_of_offsetAt_eq hp hq heq ▸ h

/-- Going on from a line, an offset leads to a position with that offset, or to the end. -/
theorem offsetAt_positionFrom {view : LineView} {line below : Nat} (h : line + below < view.count)
    (offset : Nat) :
    view.offsetAt (view.positionFrom line below offset) =
      min (view.lengthBefore line + offset)
        (view.lengthBefore (line + below) + view.lineLength (line + below)) := by
  induction below generalizing line offset with
  | zero =>
    rw [offsetAt_of_holds (holds_positionFrom h offset), positionFrom, Nat.add_zero,
      Nat.add_min_add_left]
  | succ below ih =>
    rw [positionFrom]
    split
    · rename_i hle
      have hholds : view.Holds ⟨line, offset⟩ := ⟨by dsimp only; omega, hle⟩
      -- The lines from here on are at least as long as this one.
      have hmono : view.lengthBefore (line + 1) ≤ view.lengthBefore (line + (below + 1)) :=
        lengthBefore_le (by omega)
      rw [lengthBefore_succ] at hmono
      rw [offsetAt_of_holds hholds]
      dsimp only
      omega
    · have hnext : line + 1 + below = line + (below + 1) := by omega
      rw [ih (by omega), hnext, lengthBefore_succ]
      omega

/-- An offset leads to the position with that offset, or to the end of the document. -/
theorem offsetAt_positionAt {view : LineView} (h : 0 < view.count) (offset : Nat) :
    view.offsetAt (view.positionAt offset) = min offset (view.offsetAt view.endPosition) := by
  have hlast : 0 + view.lastLine < view.count := by
    unfold lastLine
    omega
  rw [positionAt, offsetAt_positionFrom hlast, lengthBefore_zero, Nat.zero_add, Nat.zero_add,
    offsetAt_of_holds (holds_endPosition h)]
  rfl

/-- The first lines of a document, counted with their line breaks. -/
theorem lengthBefore_ofLines (lines : List Text) {n : Nat} (h : n ≤ lines.length) :
    (ofLines lines).lengthBefore n = (Text.closed (lines.take n)).length := by
  induction n with
  | zero => rfl
  | succ n ih =>
    have hlt : n < lines.length := h
    rw [lengthBefore_succ, ih (Nat.le_of_lt hlt), List.take_add_one, Text.closed_append]
    simp [lineLength, ofLines, Text.closed, hlt]

end LineView

/-! ## The flat text at a position -/

namespace Document

variable {document : Document} {p q : Position} {range : Range}

/-- The line of a position in the document is what stands before the position and what stands
behind it. -/
theorem lines_eq (h : document.view.Holds p) :
    document.lines =
      document.lines.take p.line ++ [document.headAt p ++ document.tailAt p] ++
        document.lines.drop (p.line + 1) := by
  have hline : p.line < document.lines.length := h.1
  simp [headAt, tailAt, hline]

/-- What stands before a position in the document reaches up to its column. -/
theorem length_headAt (h : document.view.Holds p) : (document.headAt p).length = p.column := by
  have hline : p.line < document.lines.length := h.1
  have hcolumn := h.2
  rw [view, LineView.lineLength_ofLines, List.getElem?_eq_getElem hline] at hcolumn
  rw [headAt, List.getElem?_eq_getElem hline, Option.getD_some, List.length_take]
  exact Nat.min_eq_left hcolumn

/-- The offset of a position counts what stands before it. -/
theorem offsetAt_eq_length (h : document.view.Holds p) :
    document.view.offsetAt p =
      (Text.closed (document.lines.take p.line) ++ document.headAt p).length := by
  rw [LineView.offsetAt_of_holds h, view, LineView.lengthBefore_ofLines _ (Nat.le_of_lt h.1),
    List.length_append, length_headAt h]

/-- A position in the document divides the flat text. -/
theorem flat_eq (h : document.view.Holds p) :
    document.flat =
      Text.closed (document.lines.take p.line) ++ document.headAt p ++
        (document.tailAt p ++ Text.opened (document.lines.drop (p.line + 1))) := by
  have hjoin := Text.join_between (document.lines.take p.line)
    (List.cons_ne_nil (document.headAt p ++ document.tailAt p) [])
    (document.lines.drop (p.line + 1))
  rw [← lines_eq h] at hjoin
  rw [flat, LineBreak.join, LineBreak.text, hjoin, Text.join_singleton]
  simp only [List.append_assoc]

theorem offsetAt_le_length (h : document.view.Holds p) :
    document.view.offsetAt p ≤ document.flat.length := by
  rw [offsetAt_eq_length h, flat_eq h]
  exact (List.prefix_append _ _).length_le

/-- What stands before a position in the flat text. -/
theorem take_offsetAt (h : document.view.Holds p) :
    document.flat.take (document.view.offsetAt p) =
      Text.closed (document.lines.take p.line) ++ document.headAt p := by
  rw [offsetAt_eq_length h, flat_eq h, List.take_left]

/-- What stands behind a position in the flat text. -/
theorem drop_offsetAt (h : document.view.Holds p) :
    document.flat.drop (document.view.offsetAt p) =
      document.tailAt p ++ Text.opened (document.lines.drop (p.line + 1)) := by
  rw [offsetAt_eq_length h, flat_eq h, List.drop_left]

/-- The flat text is as long as the offset of the end of the document. -/
theorem offsetAt_endPosition (h : 0 < document.view.count) :
    document.view.offsetAt document.view.endPosition = document.flat.length := by
  have hholds := LineView.holds_endPosition h
  have hlines : document.lines.drop (document.view.lastLine + 1) = [] := by
    rw [List.drop_eq_nil_iff]
    change _ ≤ document.lines.length - 1 + 1
    omega
  have htail : document.tailAt document.view.endPosition = [] := by
    change (((document.lines[document.view.lastLine]?).getD []).drop
      (((document.lines[document.view.lastLine]?).map List.length).getD 0)) = []
    cases document.lines[document.view.lastLine]? with
    | none => rfl
    | some line => exact List.drop_length
  have hdrop : document.flat.drop (document.view.offsetAt document.view.endPosition) = [] := by
    rw [drop_offsetAt hholds, htail]
    exact congrArg Text.opened hlines
  exact Nat.le_antisymm (offsetAt_le_length hholds) (List.drop_eq_nil_iff.mp hdrop)

theorem flatIn_of_holds (hp : document.view.Holds p) (hq : document.view.Holds q) :
    document.flatIn ⟨p, q⟩ =
      (document.flat.drop (document.view.offsetAt p)).take
        (document.view.offsetAt q - document.view.offsetAt p) := by
  rw [flatIn, LineView.clamp_of_holds hp, LineView.clamp_of_holds hq]

/-- A range divides the flat text. -/
theorem flat_eq_flatIn (hstart : document.view.Holds range.start)
    (hstop : document.view.Holds range.stop) (hle : range.start ≤ range.stop) :
    document.flat =
      document.flat.take (document.view.offsetAt range.start) ++ document.flatIn range ++
        document.flat.drop (document.view.offsetAt range.stop) := by
  have hoffset := LineView.offsetAt_mono hstart hstop hle
  have hbehind : document.flat.drop (document.view.offsetAt range.stop) =
      (document.flat.drop (document.view.offsetAt range.start)).drop
        (document.view.offsetAt range.stop - document.view.offsetAt range.start) := by
    rw [List.drop_drop, Nat.add_sub_of_le hoffset]
  have hflat : document.flatIn range = _ := flatIn_of_holds hstart hstop
  rw [hflat, hbehind, List.append_assoc, List.take_append_drop, List.take_append_drop]

/-- The text of a range leads from its start to its end. -/
theorem offsetAt_add_length_flatIn (hstart : document.view.Holds range.start)
    (hstop : document.view.Holds range.stop) (hle : range.start ≤ range.stop) :
    document.view.offsetAt range.start + (document.flatIn range).length =
      document.view.offsetAt range.stop := by
  have hoffset := LineView.offsetAt_mono hstart hstop hle
  have hbound := offsetAt_le_length hstop
  have hflat : document.flatIn range = _ := flatIn_of_holds hstart hstop
  rw [hflat, List.length_take, List.length_drop]
  omega

/-- A part of the flat text holds no carriage return if no line does. -/
theorem return_not_mem_flatIn (hlines : ∀ line ∈ document.lines, '\r' ∉ line) (range : Range) :
    '\r' ∉ document.flatIn range := by
  have hflat : '\r' ∉ document.flat := Text.not_mem_join (by decide) hlines
  exact fun hmem => hflat (List.mem_of_mem_drop (List.mem_of_mem_take hmem))

end Document

end EditPlayer
