set_option autoImplicit false

/-!
# Ranges of code points

Character properties and case mappings of the Unicode standard are tables of runs of code points.
In a run every code point, or every second one, has the property; in a mapping, a whole run is
moved by one distance.  A table is a list of runs, and membership is a plain search through it, so
statements about a property reduce to statements about the runs.
-/

namespace EditPlayer.Unicode

/-- The code points `first`, `first + stride`, and so on up to `last`. -/
structure CodeRange where
  first : Nat
  last : Nat
  stride : Nat
  deriving DecidableEq, Repr, Inhabited

namespace CodeRange

/-- Whether a code point lies in the run. -/
def contains (run : CodeRange) (n : Nat) : Bool :=
  decide (run.first ≤ n) && decide (n ≤ run.last) && (n - run.first) % run.stride == 0

theorem contains_iff (run : CodeRange) (n : Nat) :
    run.contains n = true ↔
      run.first ≤ n ∧ n ≤ run.last ∧ (n - run.first) % run.stride = 0 := by
  simp [contains, and_assoc]

end CodeRange

/-- A run of code points together with the image of its first one; the run is moved as a whole. -/
structure CodeShift where
  run : CodeRange
  image : Nat
  deriving DecidableEq, Repr, Inhabited

namespace CodeShift

/-- The image of a code point of the run. -/
def imageOf? (shift : CodeShift) (n : Nat) : Option Nat :=
  if shift.run.contains n then some (shift.image + (n - shift.run.first)) else none

end CodeShift

/-- The first image that a list of shifts gives to a code point. -/
def shifted? (shifts : List CodeShift) (n : Nat) : Option Nat :=
  shifts.findSome? (·.imageOf? n)

end EditPlayer.Unicode
