import EditPlayer.Document.Basic
set_option autoImplicit false

/-!
# Motions of the cursor in a document

Every motion comes to rest: repeated often enough, it stays where it is.  A motion with a count
therefore stops as soon as a step changes nothing, and `iterate_succ` says that this makes no
difference.
-/

namespace EditPlayer

/-- Repeats a step `n` times, or until it changes nothing. -/
def iterate {α : Type} [DecidableEq α] (step : α → α) : Nat → α → α
  | 0, a => a
  | n + 1, a => if step a = a then a else iterate step n (step a)

theorem iterate_of_fixed {α : Type} [DecidableEq α] {step : α → α} {a : α} (h : step a = a)
    (n : Nat) : iterate step n a = a := by
  cases n <;> simp [iterate, h]

/-- Stopping early makes no difference. -/
theorem iterate_succ {α : Type} [DecidableEq α] (step : α → α) (n : Nat) (a : α) :
    iterate step (n + 1) a = iterate step n (step a) := by
  by_cases h : step a = a
  · rw [iterate, if_pos h, h, iterate_of_fixed h]
  · rw [iterate, if_neg h]

theorem iterate_one {α : Type} [DecidableEq α] (step : α → α) (a : α) :
    iterate step 1 a = step a := iterate_succ step 0 a

/-- The last index at which a list holds such an element. -/
def lastIndex? {α : Type} (p : α → Bool) : List α → Option Nat
  | [] => none
  | a :: rest =>
      match lastIndex? p rest with
      | some i => some (i + 1)
      | none => if p a then some 0 else none

namespace Document

/-- Whether a line has nothing but blanks. -/
def isBlankLine (line : Text) : Bool := line.all isBlank

/-- The first line of blanks below a line. -/
def nextBlankLine? (document : Document) (line : Nat) : Option Nat :=
  ((document.lines.drop (line + 1)).findIdx? isBlankLine).map (· + (line + 1))

/-- The last line of blanks above a line. -/
def previousBlankLine? (document : Document) (line : Nat) : Option Nat :=
  lastIndex? isBlankLine (document.lines.take line)

/-- Where one step of a motion leads. -/
def step (document : Document) (motion : Motion) (p : Position) : Position :=
  let view := document.view
  match motion with
  | .left =>
      if 0 < p.column then ⟨p.line, p.column - 1⟩
      else if 0 < p.line then ⟨p.line - 1, view.lineLength (p.line - 1)⟩
      else p
  | .right =>
      if p.column < view.lineLength p.line then ⟨p.line, p.column + 1⟩
      else if p.line < view.lastLine then ⟨p.line + 1, 0⟩
      else p
  | .up => if 0 < p.line then view.clamp ⟨p.line - 1, p.column⟩ else p
  | .down => if p.line < view.lastLine then view.clamp ⟨p.line + 1, p.column⟩ else p
  | .lineStart => ⟨p.line, 0⟩
  | .lineEnd => ⟨p.line, view.lineLength p.line⟩
  | .firstNonBlank => ((view.trimmedLineRangeAt p).map (·.start)).getD p
  | .lastNonBlank => ((view.trimmedLineRangeAt p).map (·.stop)).getD p
  | .nextBlankLine =>
      ((document.nextBlankLine? p.line).map fun line => ⟨line, 0⟩).getD view.endPosition
  | .previousBlankLine =>
      ((document.previousBlankLine? p.line).map fun line => ⟨line, 0⟩).getD .origin

/-- The document after a motion made `count` times, at least once. -/
def moveCursor (motion : Motion) (count : Nat) (select : Bool) (document : Document) : Document :=
  let active := iterate (document.step motion) (max count 1) document.selection.active
  let anchor := if select then document.selection.anchor else active
  { document with selection := ⟨anchor, active⟩ }

end Document

end EditPlayer
