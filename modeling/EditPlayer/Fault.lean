set_option autoImplicit false

/-!
# Faults

A fault is an arithmetic accident that ends a run: a result that does not fit into a word, or a
range whose ends are crossed.  Faults are kept apart from the refusals of a surface, which a player
passes over.
-/

namespace EditPlayer

/-- Why a run broke off. -/
inductive Fault where
  /-- a line or column has no one-based number within a word -/
  | labelOverflow
  /-- an offset does not fit into a word -/
  | offsetOverflow
  /-- the index after a pause does not fit into a word -/
  | resumeOverflow
  /-- a count has no negative counterpart among signed words -/
  | negationOverflow
  /-- a range ends more than a line above its start -/
  | crossedRange
  /-- the line after an edit is shorter than the text that was kept behind the edit -/
  | lostTail
  deriving DecidableEq, Repr, Inhabited

end EditPlayer
