import EditPlayer.Casing.Basic
set_option autoImplicit false

/-!
# Splitting words where the case changes

A line is read into a buffer that holds the word under way, and the word is written to the output
when a blank or the end of the line ends it.  While a word is written, a space goes in front of an
upper-case letter after a lower-case one (`camelCase`).  Behind a run of capitals the space belongs
in front of the last capital (`XMLHttp` becomes `XML Http`).  That shows one letter too late, when
the capital is written already, so it is taken back from the output and put behind the space.
-/

namespace EditPlayer.Casing

open EditPlayer.Unicode

/-- The output made ready for the letter at an index of a word, with a space where a part of an
identifier begins at the letter or at the one before it. -/
def makeRoom (word : Text) (index : Nat) (c : Char) (out : Text) : Text :=
  if index = 0 then out
  else
    match word[index - 1]? with
    | none => out
    | some previous =>
        if isLowercase previous && isUppercase c then out ++ [' ']
        else if isUppercase previous && isLowercase c &&
            (decide (2 ≤ index) && (word[index - 2]?).any isUppercase) then
          out.dropLast ++ [' ', previous]
        else out

/-- Writes a word behind the output, letter by letter. -/
def writeWord (word out : Text) : Text :=
  word.zipIdx.foldl (fun out letter => makeRoom word letter.2 letter.1 out ++ [letter.1]) out

/-- What is written of a line, and the letters of the word under way. -/
structure Splitter where
  out : Text
  word : Text
  deriving DecidableEq, Repr, Inhabited

namespace Splitter

/-- Reads one more character of a line; a blank ends the word. -/
def read (state : Splitter) (c : Char) : Splitter :=
  if isBlank c then ⟨writeWord state.word state.out ++ [c], []⟩
  else ⟨state.out, state.word ++ [c]⟩

/-- The output at the end of the line. -/
def finish (state : Splitter) : Text := writeWord state.word state.out

end Splitter

/-- A line with a space where the case changes inside a word. -/
def splitLine (line : Text) : Text := (line.foldl Splitter.read ⟨[], []⟩).finish

/-- A space where the case changes inside a word, line by line. -/
def split (text : Text) : Text := eachLine splitLine text

end EditPlayer.Casing
