import EditPlayer.Text.Decimal
set_option autoImplicit false

/-!
# Counts in a script

A count is read from the first characters of a word only: at most `countDigits` of them, after an
optional plus sign that is one of them.  What gives no number from 1 up stands for the default
count.
-/

namespace EditPlayer

/-- How counts are read. -/
structure Settings where
  /-- how many characters of a word are looked at -/
  countDigits : Nat := 3
  /-- the count of a line that has none -/
  defaultCount : Nat := 1
  deriving DecidableEq, Repr, Inhabited

namespace Script

/-- The text without one plus sign at its start. -/
def dropPlus : Text → Text
  | '+' :: rest => rest
  | text => text

/-- The digits of a word that its count is read from. -/
def countDigits (settings : Settings) (word : Text) : Text :=
  (dropPlus (word.take settings.countDigits)).takeWhile Char.isDigit

/-- The count that a word stands for. -/
def readCount (settings : Settings) (word : Text) : Nat :=
  match (countDigits settings word).readWord? with
  | some n => if n = 0 then settings.defaultCount else n
  | none => settings.defaultCount

/-- The count that an optional word stands for. -/
def readCount? (settings : Settings) : Option Text → Nat
  | some word => readCount settings word
  | none => settings.defaultCount

/-- A count that is read is at least 1, if the default count is. -/
theorem one_le_readCount {settings : Settings} (h : 1 ≤ settings.defaultCount) (word : Text) :
    1 ≤ readCount settings word := by
  unfold readCount
  split
  · split
    · exact h
    · omega
  · exact h

end Script

end EditPlayer
