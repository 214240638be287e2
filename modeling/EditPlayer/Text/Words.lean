import EditPlayer.Text.Basic
set_option autoImplicit false

/-!
# Words, blanks and white space

Two notions of emptiness between words are kept apart.  A *blank* is a space or a tab and is what
divides words.  *White space* is the Unicode property of that name and is what trimming removes.
Every blank is white space (`isSpace_of_isBlank`), so a trimmed text neither begins nor ends with a
blank.
-/

namespace EditPlayer

/-- A blank divides words: a space or a tab. -/
def isBlank (c : Char) : Bool := c == ' ' || c == '\t'

/-- The Unicode property `White_Space`. -/
def isSpace (c : Char) : Bool :=
  let n := c.toNat
  (9 ≤ n && n ≤ 13) || n == 0x20 || n == 0x85 || n == 0xA0 || n == 0x1680 ||
    (0x2000 ≤ n && n ≤ 0x200A) || n == 0x2028 || n == 0x2029 || n == 0x202F || n == 0x205F ||
    n == 0x3000

theorem isBlank_iff (c : Char) : isBlank c = true ↔ c = ' ' ∨ c = '\t' := by
  simp [isBlank]

/-- Every blank is white space. -/
theorem isSpace_of_isBlank {c : Char} (h : isBlank c = true) : isSpace c = true := by
  rcases (isBlank_iff c).mp h with rfl | rfl <;> rfl

namespace Text

/-- The text without the white space at its ends. -/
def trim (text : Text) : Text := trimWhere isSpace text

/-- The text without the white space at its end. -/
def trimEnd (text : Text) : Text := trimEndWhere isSpace text

/-- The words of a line: its longest runs without blanks. -/
def words (line : Text) : List Text :=
  (splitWhere isBlank line).filter (fun word => !word.isEmpty)

/-- A word is not empty. -/
theorem ne_nil_of_mem_words {line word : Text} (h : word ∈ words line) : word ≠ [] := by
  intro hnil
  simp [words, hnil] at h

/-- A word holds no blank. -/
theorem isBlank_eq_false_of_mem_words {line word : Text} {c : Char} (h : word ∈ words line)
    (hc : c ∈ word) : isBlank c = false :=
  eq_false_of_mem_splitWhere (List.mem_filter.mp h).1 hc

/-- The columns at which a word begins, from `column` on; `afterBlank` tells whether the character
before it is a blank or missing. -/
def wordStartsFrom (afterBlank : Bool) (column : Nat) : Text → List Nat
  | [] => []
  | c :: rest =>
      if afterBlank && !isBlank c then column :: wordStartsFrom false (column + 1) rest
      else wordStartsFrom (isBlank c) (column + 1) rest

/-- The columns of a line at which a word begins. -/
def wordStarts (line : Text) : List Nat := wordStartsFrom true 0 line

end Text

end EditPlayer
