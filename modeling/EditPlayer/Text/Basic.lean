set_option autoImplicit false

/-!
# Text: sequences of characters

A text is a list of Unicode scalar values, so lengths, columns and offsets all count characters.
This module holds what every other module does with texts: cutting them at separators, joining
pieces again, and trimming their ends.

Cutting and joining undo one another: `join_splitOn` says that joining the pieces of a
cut at one character gives the text back, and `not_mem_of_mem_splitOn` that no piece holds the
separator.
-/

namespace EditPlayer

/-- A text, as the list of its characters. -/
abbrev Text : Type := List Char

namespace Text

/-- Puts a character in front of the first piece. -/
def consHead (c : Char) : List Text → List Text
  | [] => [[c]]
  | piece :: pieces => (c :: piece) :: pieces

/-- The pieces of a text between the characters that satisfy `isSeparator`.  There is one piece
more than there are separators, so the empty text has one empty piece. -/
def splitWhere (isSeparator : Char → Bool) : Text → List Text
  | [] => [[]]
  | c :: rest =>
      if isSeparator c then [] :: splitWhere isSeparator rest
      else consHead c (splitWhere isSeparator rest)

/-- The pieces of a text between the occurrences of one character. -/
def splitOn (separator : Char) (text : Text) : List Text :=
  splitWhere (· == separator) text

/-- The pieces with the separator between each two of them. -/
def join (separator : Text) : List Text → Text
  | [] => []
  | [piece] => piece
  | piece :: next :: pieces => piece ++ separator ++ join separator (next :: pieces)

/-- The text without the characters at its end that satisfy `p`. -/
def trimEndWhere (p : Char → Bool) (text : Text) : Text :=
  (text.reverse.dropWhile p).reverse

/-- The text without the characters at either end that satisfy `p`. -/
def trimWhere (p : Char → Bool) (text : Text) : Text :=
  trimEndWhere p (text.dropWhile p)

/-- The text before `ending`, if it ends so. -/
def dropSuffix? (ending text : Text) : Option Text :=
  if ending.isSuffixOf text then some (text.take (text.length - ending.length)) else none

/-! ## Cutting and joining -/

@[simp] theorem splitWhere_nil (p : Char → Bool) : splitWhere p [] = [[]] := rfl

theorem splitWhere_cons (p : Char → Bool) (c : Char) (rest : Text) :
    splitWhere p (c :: rest) =
      if p c then [] :: splitWhere p rest else consHead c (splitWhere p rest) := rfl

theorem consHead_ne_nil (c : Char) (pieces : List Text) : consHead c pieces ≠ [] := by
  cases pieces <;> simp [consHead]

/-- A cut has at least one piece. -/
theorem splitWhere_ne_nil (p : Char → Bool) (text : Text) : splitWhere p text ≠ [] := by
  cases text with
  | nil => simp
  | cons c rest =>
    rw [splitWhere_cons]
    split
    · simp
    · exact consHead_ne_nil c _

@[simp] theorem join_nil (separator : Text) : join separator [] = [] := rfl

@[simp] theorem join_singleton (separator piece : Text) : join separator [piece] = piece := rfl

theorem join_cons_of_ne_nil (separator piece : Text) {pieces : List Text} (h : pieces ≠ []) :
    join separator (piece :: pieces) = piece ++ separator ++ join separator pieces := by
  cases pieces with
  | nil => exact absurd rfl h
  | cons next rest => rfl

theorem join_consHead (separator : Text) (c : Char) {pieces : List Text} (h : pieces ≠ []) :
    join separator (consHead c pieces) = c :: join separator pieces := by
  match pieces, h with
  | [piece], _ => rfl
  | piece :: next :: rest, _ => rfl

/-- Joining the pieces of a cut at one character gives the text back. -/
theorem join_splitOn (separator : Char) (text : Text) :
    join [separator] (splitOn separator text) = text := by
  induction text with
  | nil => rfl
  | cons c rest ih =>
    have hne : splitWhere (· == separator) rest ≠ [] := splitWhere_ne_nil _ _
    simp only [splitOn] at ih ⊢
    rw [splitWhere_cons]
    split
    · rename_i hc
      rw [join_cons_of_ne_nil _ _ hne, ih]
      simp [beq_iff_eq.mp hc]
    · rw [join_consHead _ _ hne, ih]

/-- No piece of a cut holds a separator. -/
theorem eq_false_of_mem_splitWhere {p : Char → Bool} {text piece : Text} {c : Char}
    (hpiece : piece ∈ splitWhere p text) (hc : c ∈ piece) : p c = false := by
  induction text generalizing piece with
  | nil =>
    simp only [splitWhere_nil, List.mem_singleton] at hpiece
    simp [hpiece] at hc
  | cons d rest ih =>
    rw [splitWhere_cons] at hpiece
    split at hpiece
    · rcases List.mem_cons.mp hpiece with rfl | hmem
      · simp at hc
      · exact ih hmem hc
    · rename_i hd
      cases hrest : splitWhere p rest with
      | nil => exact absurd hrest (splitWhere_ne_nil p rest)
      | cons first others =>
        rw [hrest, consHead] at hpiece
        rcases List.mem_cons.mp hpiece with rfl | hmem
        · rcases List.mem_cons.mp hc with rfl | hin
          · simpa using hd
          · exact ih (by simp [hrest]) hin
        · exact ih (by simp [hrest, hmem]) hc

/-- No piece of a cut at a character holds that character. -/
theorem not_mem_of_mem_splitOn {separator : Char} {text piece : Text}
    (hpiece : piece ∈ splitOn separator text) : separator ∉ piece := by
  intro hmem
  have := eq_false_of_mem_splitWhere hpiece hmem
  simp at this

end Text

end EditPlayer
