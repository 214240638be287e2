import EditPlayer.Fault
import EditPlayer.Json.Decode
set_option autoImplicit false

/-!
# Positions, ranges and selections

A position is a line and a column, both counted from zero; positions are ordered line by line.  A
range has a start and an end.  A selection has an anchor, which stays, and an active end, which is
the cursor.
-/

namespace EditPlayer

/-- A place in a document. -/
structure Position where
  line : Nat
  column : Nat
  deriving DecidableEq, Repr, Inhabited

namespace Position

/-- The start of a document. -/
def origin : Position := ⟨0, 0⟩

/-- Strict order of places: by line, then by column. -/
protected def lt (p q : Position) : Prop :=
  p.line < q.line ∨ (p.line = q.line ∧ p.column < q.column)

instance : LT Position := ⟨Position.lt⟩

instance : LE Position := ⟨fun p q => ¬ q < p⟩

instance (p q : Position) : Decidable (p < q) := inferInstanceAs (Decidable (_ ∨ _))

instance (p q : Position) : Decidable (p ≤ q) := inferInstanceAs (Decidable (¬ _))

theorem lt_iff (p q : Position) :
    p < q ↔ p.line < q.line ∨ (p.line = q.line ∧ p.column < q.column) := Iff.rfl

theorem le_iff (p q : Position) :
    p ≤ q ↔ p.line < q.line ∨ (p.line = q.line ∧ p.column ≤ q.column) := by
  change ¬ (q.line < p.line ∨ (q.line = p.line ∧ q.column < p.column)) ↔ _
  omega

theorem lt_irrefl (p : Position) : ¬ p < p := by
  rw [lt_iff]; omega

theorem le_refl (p : Position) : p ≤ p := lt_irrefl p

theorem le_trans {p q r : Position} (h₁ : p ≤ q) (h₂ : q ≤ r) : p ≤ r := by
  rw [le_iff] at *; omega

theorem le_total (p q : Position) : p ≤ q ∨ q ≤ p := by
  rw [le_iff, le_iff]; omega

theorem le_antisymm {p q : Position} (h₁ : p ≤ q) (h₂ : q ≤ p) : p = q := by
  rw [le_iff] at h₁ h₂
  cases p with
  | mk line column =>
    cases q with
    | mk line' column' =>
      simp only [Position.mk.injEq] at *
      omega

/-- How two places compare. -/
def order (p q : Position) : Ordering := if p < q then .lt else if q < p then .gt else .eq

/-- The one-based line and column, which must both fit into a word. -/
def label (p : Position) : Except Fault Text :=
  if p.line + 1 < wordLimit ∧ p.column + 1 < wordLimit then
    .ok (Text.decimal (p.line + 1) ++ ':' :: Text.decimal (p.column + 1))
  else .error .labelOverflow

/-- A position as JSON. -/
def toJson (p : Position) : Json := .record [("line", .ofNat p.line), ("column", .ofNat p.column)]

/-- The position that a JSON value is written for. -/
def ofJson? (json : Json) : Option Position :=
  match json.record? ["line", "column"] with
  | some [line, column] => do
      let line ← Json.required Json.nat? line
      let column ← Json.required Json.nat? column
      some { line, column }
  | _ => none

end Position

/-- A part of a document. -/
structure Range where
  start : Position
  /-- the position behind the last character -/
  stop : Position
  deriving DecidableEq, Repr, Inhabited

namespace Range

/-- The range between two positions, whichever comes first. -/
def between (p q : Position) : Range := if p ≤ q then ⟨p, q⟩ else ⟨q, p⟩

/-- The range between two positions begins with the earlier one. -/
theorem start_le_stop_between (p q : Position) : (between p q).start ≤ (between p q).stop := by
  unfold between
  split
  · assumption
  · rename_i h
    exact (Position.le_total p q).resolve_left h

/-- Whether the range holds no text. -/
def isEmpty (range : Range) : Bool := range.start == range.stop

theorem isEmpty_between {p q : Position} (h : p ≠ q) : (between p q).isEmpty = false := by
  unfold between isEmpty
  split
  · exact beq_false_of_ne h
  · exact beq_false_of_ne (Ne.symm h)

/-- A range as JSON. -/
def toJson (range : Range) : Json :=
  .record [("start", range.start.toJson), ("end", range.stop.toJson)]

/-- The range that a JSON value is written for; its ends are not put in order. -/
def ofJson? (json : Json) : Option Range :=
  match json.record? ["start", "end"] with
  | some [start, stop] => do
      let start ← Json.required Position.ofJson? start
      let stop ← Json.required Position.ofJson? stop
      some { start, stop }
  | _ => none

end Range

/-- What is selected, and where the cursor is. -/
structure Selection where
  /-- the end that stays while the selection is extended -/
  anchor : Position
  /-- the end that moves: the cursor -/
  active : Position
  deriving DecidableEq, Repr, Inhabited

namespace Selection

/-- The empty selection at a position. -/
def caret (p : Position) : Selection := ⟨p, p⟩

/-- Whether nothing is selected. -/
def isEmpty (selection : Selection) : Bool := selection.anchor == selection.active

/-- The selected range. -/
def range (selection : Selection) : Range := .between selection.anchor selection.active

@[simp] theorem range_caret (p : Position) : (caret p).range = ⟨p, p⟩ := ite_self _

/-- The earlier end. -/
def start (selection : Selection) : Position := selection.range.start

/-- The later end. -/
def stop (selection : Selection) : Position := selection.range.stop

/-- The selection with its ends exchanged. -/
def swapped (selection : Selection) : Selection := ⟨selection.active, selection.anchor⟩

/-- A selection as JSON. -/
def toJson (selection : Selection) : Json :=
  .record [("anchor", selection.anchor.toJson), ("active", selection.active.toJson)]

/-- The selection that a JSON value is written for. -/
def ofJson? (json : Json) : Option Selection :=
  match json.record? ["anchor", "active"] with
  | some [anchor, active] => do
      let anchor ← Json.required Position.ofJson? anchor
      let active ← Json.required Position.ofJson? active
      some { anchor, active }
  | _ => none

end Selection

end EditPlayer
