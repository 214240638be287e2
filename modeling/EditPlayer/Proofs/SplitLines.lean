import EditPlayer.Casing.Split
import EditPlayer.Proofs.CaseForms
set_option autoImplicit false

/-!
# Where the spaces of a split line go

Whether a part of an identifier begins at a character is a question about its two neighbours
(`Casing.beginsPart`).  A reader that sees one character ahead therefore splits a line in one pass
(`Casing.spaceParts`), without a buffer and without taking anything back.

`Casing.splitLine` does the same (`Casing.splitLine_eq_spaceParts`).  The last character of its
output is the one that it may have to take back, and it stands there as the pass with nothing ahead
writes it.  No character is both lower and upper case; so a capital that is taken back never has a
space in front of it already, and it is the capital alone that goes.
-/

namespace EditPlayer

/-! ## Lower and upper case -/

namespace Unicode

theorem covers_of_any {runs : List CodeRange} {n : Nat}
    (h : runs.any (fun run => run.contains n) = true) : Covers runs n := by
  obtain ⟨run, hrun, hn⟩ := List.any_eq_true.mp h
  exact ⟨run, hrun, hn⟩

/-- No character is both lower and upper case. -/
theorem isUppercase_eq_false_of_isLowercase {c : Char} (h : isLowercase c = true) :
    isUppercase c = false := by
  have hascii : ∀ c : Char, c.toNat < 0x80 → c.isLower = true → c.isUpper = false :=
    forall_ascii (by decide +kernel)
  have hapart : Apart lowercaseRanges uppercaseRanges := by decide +kernel
  unfold isLowercase at h
  unfold isUppercase
  split at h
  · rename_i hc
    rw [if_pos hc]
    exact hascii c hc h
  · rename_i hc
    rw [if_neg hc, ← Bool.not_eq_true]
    exact fun hupper => hapart.not_covers (covers_of_any h) (covers_of_any hupper)

theorem isLowercase_eq_false_of_isUppercase {c : Char} (h : isUppercase c = true) :
    isLowercase c = false := by
  rw [← Bool.not_eq_true]
  intro hlower
  rw [isUppercase_eq_false_of_isLowercase hlower] at h
  cases h

end Unicode

namespace Casing

open Unicode

/-! ## One character ahead -/

/-- Whether a part of an identifier begins at a character, given its neighbours. -/
def beginsPart (before : Option Char) (c : Char) (after : Option Char) : Bool :=
  isUppercase c &&
    (before.any isLowercase || (before.any isUppercase && after.any isLowercase))

/-- A character with a space in front of it if a part begins there. -/
def markPart (before : Option Char) (c : Char) (after : Option Char) : Text :=
  if beginsPart before c after then [' ', c] else [c]

/-- A space in front of every character that begins a part; `before` is the character to the left
of the text. -/
def spaceParts (before : Option Char) : Text → Text
  | [] => []
  | c :: rest =>
      if beginsPart before c rest.head? then ' ' :: c :: spaceParts (some c) rest
      else c :: spaceParts (some c) rest

theorem spaceParts_cons (before : Option Char) (c : Char) (rest : Text) :
    spaceParts before (c :: rest) = markPart before c rest.head? ++ spaceParts (some c) rest := by
  rw [spaceParts, markPart]
  split <;> rfl

theorem beginsPart_none (c : Char) (after : Option Char) : beginsPart none c after = false := by
  simp [beginsPart]

/-- What is written up to a character depends on what stands behind it in the mark of that
character alone. -/
theorem exists_spaceParts_append (before : Option Char) (front : Text) (b : Char) :
    ∃ written : Text, ∀ rest : Text, spaceParts before (front ++ b :: rest) =
      written ++ markPart (front.getLast?.or before) b rest.head? ++ spaceParts (some b) rest := by
  induction front generalizing before with
  | nil => exact ⟨[], fun rest => spaceParts_cons before b rest⟩
  | cons c front ih =>
    obtain ⟨written, h⟩ := ih (some c)
    refine ⟨markPart before c (front ++ [b]).head? ++ written, fun rest => ?_⟩
    have hnext : (front ++ b :: rest).head? = (front ++ [b]).head? := by
      cases front <;> rfl
    have hlast : (c :: front).getLast?.or before = front.getLast?.or (some c) := by
      rw [List.getLast?_cons]
      cases front.getLast? <;> rfl
    rw [List.cons_append, spaceParts_cons, h, hnext, hlast]
    simp only [List.append_assoc]

/-! ## A blank ends the word -/

/-- A blank has no case. -/
theorem case_eq_false_of_isBlank {d : Char} (hd : isBlank d = true) :
    isLowercase d = false ∧ isUppercase d = false := by
  rcases (isBlank_iff d).mp hd with rfl | rfl
  · exact ⟨rfl, rfl⟩
  · exact ⟨rfl, rfl⟩

/-- No part begins at a blank or behind one. -/
theorem beginsPart_of_isBlank {d : Char} (hd : isBlank d = true) (before after : Option Char) :
    beginsPart before d after = false := by
  rw [beginsPart, (case_eq_false_of_isBlank hd).2, Bool.false_and]

theorem beginsPart_behind_blank {d : Char} (hd : isBlank d = true) (c : Char)
    (after : Option Char) : beginsPart (some d) c after = false := by
  obtain ⟨hlower, hupper⟩ := case_eq_false_of_isBlank hd
  simp [beginsPart, hlower, hupper]

theorem spaceParts_behind_blank {d : Char} (hd : isBlank d = true) (text : Text) :
    spaceParts (some d) text = spaceParts none text := by
  cases text with
  | nil => rfl
  | cons c rest =>
    rw [spaceParts, spaceParts, beginsPart_behind_blank hd, beginsPart_none]

/-- The pass starts anew behind a blank. -/
theorem spaceParts_append_blank {d : Char} (hd : isBlank d = true) (before : Option Char)
    (word rest : Text) :
    spaceParts before (word ++ d :: rest) =
      spaceParts before word ++ d :: spaceParts none rest := by
  induction word generalizing before with
  | nil =>
    rw [List.nil_append, spaceParts_cons, markPart, beginsPart_of_isBlank hd,
      if_neg Bool.false_ne_true, spaceParts_behind_blank hd]
    rfl
  | cons c word ih =>
    have hmark : markPart before c (word ++ d :: rest).head? = markPart before c word.head? := by
      cases word with
      | cons b word => rfl
      | nil => simp [markPart, beginsPart, (case_eq_false_of_isBlank hd).1]
    rw [List.cons_append, spaceParts_cons, ih, hmark, spaceParts_cons, List.append_assoc]

/-! ## Writing a word -/

/-- What is done in front of a letter, told from the letters before it. -/
theorem makeRoom_concat (init : Text) (b c : Char) (rest out : Text) :
    makeRoom (init ++ [b] ++ c :: rest) (init ++ [b]).length c out =
      if isLowercase b && isUppercase c then out ++ [' ']
      else if isUppercase b && isLowercase c && init.getLast?.any isUppercase then
        out.dropLast ++ [' ', b]
      else out := by
  have hprevious : (init ++ [b] ++ c :: rest)[(init ++ [b]).length - 1]? = some b := by simp
  have hsecond : (decide (2 ≤ (init ++ [b]).length) &&
      ((init ++ [b] ++ c :: rest)[(init ++ [b]).length - 2]?).any isUppercase) =
      init.getLast?.any isUppercase := by
    rcases List.eq_nil_or_concat init with rfl | ⟨init, a, rfl⟩
    · rfl
    · simp
  rw [makeRoom, if_neg (by simp), hprevious]
  simp only [hsecond]

theorem markPart_of_lower {b : Char} (h : isLowercase b = true) (before after : Option Char) :
    markPart before b after = [b] := by
  rw [markPart, beginsPart, isUppercase_eq_false_of_isLowercase h]
  rfl

/-- A letter with nothing ahead is marked behind a lower-case letter alone. -/
theorem markPart_last (b c : Char) :
    markPart (some b) c none =
      if isLowercase b && isUppercase c then [' ', c] else [c] := by
  simp [markPart, beginsPart, and_comm]

/-- Between capitals, a lower-case letter ahead is what makes the difference; no space stands in
front of the second one without it. -/
theorem markPart_acronym {before : Option Char} {b c : Char} (hb : isUppercase b = true)
    (hbefore : before.any isUppercase = true) (hc : isLowercase c = true) :
    markPart before b none = [b] ∧ markPart before b (some c) = [' ', b] := by
  obtain ⟨a, rfl, ha⟩ := (Option.any_eq_true _ _).mp hbefore
  have hlower := isLowercase_eq_false_of_isUppercase ha
  exact ⟨by simp [markPart, beginsPart, hlower], by simp [markPart, beginsPart, hb, hc, ha]⟩

theorem markPart_ahead {before : Option Char} {b c : Char}
    (h : ¬ (isUppercase b && isLowercase c && before.any isUppercase) = true) :
    markPart before b (some c) = markPart before b none := by
  have hsame : beginsPart before b (some c) = beginsPart before b none := by
    cases hb : isUppercase b with
    | false => rw [beginsPart, beginsPart, hb, Bool.false_and, Bool.false_and]
    | true =>
      rw [hb, Bool.true_and, Bool.and_comm, Bool.not_eq_true] at h
      rw [beginsPart, beginsPart, Option.any_some, Option.any_none, h, Bool.and_false]
  rw [markPart, markPart, hsame]

/-- In front of the letter that comes next, the output is what the pass writes with nothing ahead,
and so it is behind the letter. -/
theorem makeRoom_spaceParts (front : Text) (c : Char) (rest out : Text) :
    makeRoom (front ++ c :: rest) front.length c (out ++ spaceParts none front) ++ [c] =
      out ++ spaceParts none (front ++ [c]) := by
  rcases List.eq_nil_or_concat front with rfl | ⟨init, b, rfl⟩
  · rw [makeRoom, List.length_nil, if_pos rfl, List.append_assoc, List.nil_append,
      spaceParts_cons, markPart, beginsPart_none]
    rfl
  rw [List.concat_eq_append]
  obtain ⟨written, hwritten⟩ := exists_spaceParts_append none init b
  rw [Option.or_none] at hwritten
  have hread : spaceParts none (init ++ [b]) = written ++ markPart init.getLast? b none := by
    rw [hwritten, List.head?_nil, spaceParts, List.append_nil]
  have hnext : spaceParts none (init ++ [b] ++ [c]) =
      written ++ markPart init.getLast? b (some c) ++ markPart (some b) c none := by
    rw [List.append_assoc, List.singleton_append, hwritten, spaceParts_cons, spaceParts,
      List.append_nil]
    rfl
  rw [hread, hnext, makeRoom_concat, markPart_last]
  split
  · rename_i hhump
    have hb : isLowercase b = true := (Bool.and_eq_true_iff.mp hhump).1
    rw [markPart_of_lower hb, markPart_of_lower hb]
    simp
  · split
    · rename_i hacronym
      simp only [Bool.and_eq_true] at hacronym
      obtain ⟨⟨hb, hc⟩, hlast⟩ := hacronym
      obtain ⟨hbare, hspaced⟩ := markPart_acronym hb hlast hc
      -- the capital is the last character of the output, and nothing but the capital is taken back
      rw [hbare, hspaced, ← List.append_assoc, List.dropLast_concat]
      simp
    · rename_i hacronym
      rw [markPart_ahead hacronym]
      simp

/-- The letters behind a part of a word that is written are written as the pass writes them. -/
theorem foldl_makeRoom (front rest out : Text) :
    (rest.zipIdx front.length).foldl
        (fun out letter => makeRoom (front ++ rest) letter.2 letter.1 out ++ [letter.1])
        (out ++ spaceParts none front) = out ++ spaceParts none (front ++ rest) := by
  induction rest generalizing front with
  | nil => rw [List.zipIdx_nil, List.foldl_nil, List.append_nil]
  | cons c rest ih =>
    have hrest := ih (front ++ [c])
    rw [List.append_assoc, List.singleton_append, List.length_append,
      List.length_singleton] at hrest
    rw [List.zipIdx_cons, List.foldl_cons, makeRoom_spaceParts, hrest]

/-- A word is written behind the output as the pass writes it. -/
theorem writeWord_eq (word out : Text) : writeWord word out = out ++ spaceParts none word := by
  have hword := foldl_makeRoom [] word out
  rwa [spaceParts, List.append_nil] at hword

/-! ## Reading a line -/

/-- What a splitter gives in the end: what is written, then what the pass makes of the word under
way and the rest of the line. -/
theorem Splitter.finish_foldl_read (line : Text) (state : Splitter) :
    (line.foldl Splitter.read state).finish = state.out ++ spaceParts none (state.word ++ line) := by
  induction line generalizing state with
  | nil => rw [List.foldl_nil, List.append_nil, Splitter.finish, writeWord_eq]
  | cons c line ih =>
    rw [List.foldl_cons, ih, Splitter.read]
    by_cases hc : isBlank c = true
    · rw [if_pos hc, writeWord_eq, spaceParts_append_blank hc]
      simp
    · rw [if_neg hc]
      simp

/-- Splitting a line is the pass with one character ahead. -/
theorem splitLine_eq_spaceParts : splitLine = spaceParts none := by
  funext line
  rw [splitLine, Splitter.finish_foldl_read]
  rfl

theorem split_eq_eachLine (text : Text) : split text = eachLine (spaceParts none) text := by
  rw [split, splitLine_eq_spaceParts]

end Casing

end EditPlayer
