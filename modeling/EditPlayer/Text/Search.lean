import EditPlayer.Text.Basic
set_option autoImplicit false

/-!
# Occurrences of a pattern in a text

An occurrence of a pattern is a column at which the rest of the text begins with the pattern.  The
first and the last occurrence are found by recursion over the text.  The `n`-th occurrence in either
direction steps over the occurrences found before it, so that no two of them overlap.
-/

namespace EditPlayer.Text

/-- The pattern stands in the text at a column. -/
def OccursAt (pattern text : Text) (column : Nat) : Prop :=
  column ≤ text.length ∧ pattern <+: text.drop column

instance (pattern text : Text) (column : Nat) : Decidable (OccursAt pattern text column) :=
  inferInstanceAs (Decidable (_ ∧ _))

/-- The first column at which the pattern stands. -/
def find? (pattern : Text) : Text → Option Nat
  | [] => if pattern.isPrefixOf [] then some 0 else none
  | c :: rest =>
      if pattern.isPrefixOf (c :: rest) then some 0 else (find? pattern rest).map (· + 1)

/-- The last column at which the pattern stands. -/
def findLast? (pattern : Text) : Text → Option Nat
  | [] => if pattern.isPrefixOf [] then some 0 else none
  | c :: rest =>
      match findLast? pattern rest with
      | some column => some (column + 1)
      | none => if pattern.isPrefixOf (c :: rest) then some 0 else none

/-- The first column at which the pattern stands after `skipped` further occurrences, each beginning
where the one before it ends or later. -/
def findAfter? (pattern : Text) : Nat → Text → Option Nat
  | 0, text => find? pattern text
  | skipped + 1, text =>
      match find? pattern text with
      | none => none
      | some column =>
          let next := column + pattern.length
          (findAfter? pattern skipped (text.drop next)).map (· + next)

/-- The last column at which the pattern stands before `skipped` further occurrences, each ending
where the one after it begins or earlier. -/
def findBefore? (pattern : Text) : Nat → Text → Option Nat
  | 0, text => findLast? pattern text
  | skipped + 1, text =>
      match findLast? pattern text with
      | none => none
      | some column => findBefore? pattern skipped (text.take column)

/-- Which way a search runs. -/
inductive Course where
  /-- towards the end -/
  | forward
  /-- towards the start -/
  | backward
  deriving DecidableEq, Repr, Inhabited

/-- The column of the `n`-th occurrence, counted from 1 in the direction of the search; a zero
counts as 1. -/
def nthOccurrence? (pattern text : Text) (n : Nat) : Course → Option Nat
  | .forward => findAfter? pattern (n - 1) text
  | .backward => findBefore? pattern (n - 1) text

end EditPlayer.Text
