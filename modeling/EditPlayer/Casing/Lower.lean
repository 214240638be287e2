import EditPlayer.Text.Basic
import EditPlayer.Unicode.CaseIgnorable
import EditPlayer.Unicode.CaseMapping
import EditPlayer.Unicode.Cased
set_option autoImplicit false

/-!
# Lower and upper case of a whole text

Every character has its own lower-case form, with one exception: a capital sigma becomes a final
sigma at the end of a word, that is when a cased character stands before it and none after it,
looking through characters that casing ignores.
-/

namespace EditPlayer.Casing

open EditPlayer.Unicode

/-- Whether the first character that casing does not look through is cased. -/
def meetsCased (text : Text) : Bool := ((text.dropWhile isCaseIgnorable).head?).any isCased

/-- The lower-case form of a capital sigma between the characters before it, nearest first, and
those after it. -/
def lowerSigma (before after : Text) : Char :=
  if meetsCased before && !meetsCased after then 'ς' else 'σ'

/-- The lower-case form of a text that stands after the characters `before`, nearest first. -/
def lowerAfter (before : Text) : Text → Text
  | [] => []
  | c :: rest =>
      (if c = 'Σ' then [lowerSigma before rest] else toLower c) ++ lowerAfter (c :: before) rest

/-- The lower-case form of a text. -/
def lower (text : Text) : Text := lowerAfter [] text

/-- The upper-case form of a text. -/
def upper (text : Text) : Text := text.flatMap toUpper

end EditPlayer.Casing
