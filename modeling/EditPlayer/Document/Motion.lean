import EditPlayer.Named
set_option autoImplicit false

/-!
# Motions of the cursor and directions of a search
-/

namespace EditPlayer

/-- The moves of the cursor that a surface makes itself. -/
inductive Motion where
  /-- a character back, also to the line above -/
  | left
  /-- a character on, also to the line below -/
  | right
  /-- a line up, with the column kept where possible -/
  | up
  /-- a line down, with the column kept where possible -/
  | down
  /-- to the start of the line -/
  | lineStart
  /-- to the end of the line -/
  | lineEnd
  /-- to the first character of the line that is no blank -/
  | firstNonBlank
  /-- behind the last character of the line that is no blank -/
  | lastNonBlank
  /-- to the next line of blanks -/
  | nextBlankLine
  /-- to the line of blanks before -/
  | previousBlankLine
  deriving DecidableEq, Repr, Inhabited

/-- Which way a surface searches. -/
inductive Direction where
  /-- towards the end -/
  | next
  /-- towards the start -/
  | previous
  deriving DecidableEq, Repr, Inhabited

instance : Named Motion where
  all := [.left, .right, .up, .down, .lineStart, .lineEnd, .firstNonBlank, .lastNonBlank,
    .nextBlankLine, .previousBlankLine]
  name
    | .left => "Left".toList
    | .right => "Right".toList
    | .up => "Up".toList
    | .down => "Down".toList
    | .lineStart => "LineStart".toList
    | .lineEnd => "LineEnd".toList
    | .firstNonBlank => "LineFirstNonBlank".toList
    | .lastNonBlank => "LineLastNonBlank".toList
    | .nextBlankLine => "NextBlankLine".toList
    | .previousBlankLine => "PreviousBlankLine".toList

instance : Named Direction where
  all := [.next, .previous]
  name
    | .next => "Next".toList
    | .previous => "Previous".toList

end EditPlayer
