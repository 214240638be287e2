import EditPlayer.Proofs.Runs
import EditPlayer.Proofs.TrimmedLines
import Mathlib.Data.List.Forall2
set_option autoImplicit false

/-!
# Spaces where the case changes

Splitting by case puts one space in front of each character of a word at which a part of an
identifier begins, and changes nothing else (`Casing.split_spaces_parts`).  Which characters these
are is said of the words of a line alone: a word is a longest run without blanks, and its index is
all that counts (`Casing.PartIn`).  A split line is what one pass over the neighbours of its
characters makes of it (`Casing.splitLine_eq_spaceParts`), and the pass over the whole line finds
the parts of the words because a blank has no case (`Casing.partAt_iff_partIn`).

Behind the new spaces no part begins any more, so that a second conversion changes nothing.
-/

namespace EditPlayer

/-- One space stands in front of each character whose index, counted from `n` on, is marked, and
nothing else is different. -/
inductive Text.Spaced (marked : Nat → Prop) : (n : Nat) → (text spaced : Text) → Prop where
  | nil (n : Nat) : Spaced marked n [] []
  | keep {n : Nat} {c : Char} {rest spaced : Text} (hn : ¬ marked n)
      (hrest : Spaced marked (n + 1) rest spaced) : Spaced marked n (c :: rest) (c :: spaced)
  | space {n : Nat} {c : Char} {rest spaced : Text} (hn : marked n)
      (hrest : Spaced marked (n + 1) rest spaced) :
      Spaced marked n (c :: rest) (' ' :: c :: spaced)

namespace Casing

open Unicode

/-! ## Parts of identifiers -/

/-- A part of an identifier begins at an index of a word. -/
inductive PartAt (word : Text) : Nat → Prop where
  /-- a capital behind a small letter -/
  | hump {i : Nat} {b c : Char} (hb : word[i]? = some b) (hc : word[i + 1]? = some c)
      (hlower : isLowercase b = true) (hupper : isUppercase c = true) : PartAt word (i + 1)
  /-- the last one of several capitals in front of a small letter -/
  | acronym {i : Nat} {b c d : Char} (hb : word[i]? = some b) (hc : word[i + 1]? = some c)
      (hd : word[i + 2]? = some d) (hbefore : isUppercase b = true)
      (hupper : isUppercase c = true) (hlower : isLowercase d = true) : PartAt word (i + 1)

/-- A part of an identifier begins at an index of a line, inside of one of its words. -/
def PartIn (line : Text) (n : Nat) : Prop :=
  ∃ before word behind i, line = before ++ word ++ behind ∧
    Text.IsRun (fun c => !isBlank c) before word behind ∧ n = before.length + i ∧ PartAt word i

/-- A character with a case is no blank. -/
theorem isBlank_eq_false_of_case {c : Char} (h : isLowercase c = true ∨ isUppercase c = true) :
    isBlank c = false := by
  rw [← Bool.not_eq_true]
  intro hblank
  obtain ⟨hlower, hupper⟩ := case_eq_false_of_isBlank hblank
  rw [hlower, hupper] at h
  simp at h

theorem PartAt.lt_length {word : Text} {i : Nat} (h : PartAt word i) : i < word.length := by
  cases h with
  | hump _ hc _ _ => exact (List.getElem?_eq_some_iff.mp hc).1
  | acronym _ hc _ _ _ _ => exact (List.getElem?_eq_some_iff.mp hc).1

/-- A part of a word is a part of the line that the word stands in. -/
theorem PartAt.append {before word behind : Text} {i : Nat} (h : PartAt word i) :
    PartAt (before ++ word ++ behind) (before.length + i) := by
  have hinside {n : Nat} {c : Char} (hc : word[n]? = some c) :
      (before ++ word ++ behind)[before.length + n]? = some c := by
    rw [Text.getElem?_append_run before behind (List.getElem?_eq_some_iff.mp hc).1, hc]
  cases h with
  | hump hb hc hlower hupper => exact .hump (hinside hb) (hinside hc) hlower hupper
  | acronym hb hc hd hbefore hupper hlower =>
    exact .acronym (hinside hb) (hinside hc) (hinside hd) hbefore hupper hlower

/-- The two or three characters that show where a part begins have case, so that they lie in one
word. -/
theorem partAt_iff_partIn {line : Text} {n : Nat} : PartAt line n ↔ PartIn line n := by
  constructor
  · intro h
    obtain ⟨before, word, behind, rfl, hrun, hfirst, hlast⟩ :=
      Text.exists_isRun (fun c => !isBlank c) (Nat.le_of_lt h.lt_length)
    have hcased {c : Char} (hc : isLowercase c = true ∨ isUppercase c = true) :
        (!isBlank c) = true := by
      rw [isBlank_eq_false_of_case hc]
      rfl
    have hinside {k : Nat} {c : Char} (hk : k < word.length)
        (hc : (before ++ word ++ behind)[before.length + k]? = some c) : word[k]? = some c := by
      rwa [Text.getElem?_append_run before behind hk] at hc
    cases h with
    | hump hb hc hlower hupper =>
      have hstart := hrun.le_of_getElem? hfirst hb (hcased (.inl hlower))
      have hstop := hrun.lt_of_getElem? hlast hc (hcased (.inr hupper))
      obtain ⟨i, rfl⟩ := Nat.exists_eq_add_of_le hstart
      refine ⟨before, word, behind, i + 1, rfl, hrun, rfl, ?_⟩
      exact .hump (hinside (by omega) hb) (hinside (by omega) hc) hlower hupper
    | acronym hb hc hd hbefore hupper hlower =>
      have hstart := hrun.le_of_getElem? hfirst hb (hcased (.inr hbefore))
      have hstop := hrun.lt_of_getElem? hlast hc (hcased (.inr hupper))
      have hbeyond := hrun.lt_of_getElem? hstop hd (hcased (.inl hlower))
      obtain ⟨i, rfl⟩ := Nat.exists_eq_add_of_le hstart
      refine ⟨before, word, behind, i + 1, rfl, hrun, rfl, ?_⟩
      exact .acronym (hinside (by omega) hb) (hinside (by omega) hc) (hinside (by omega) hd)
        hbefore hupper hlower
  · rintro ⟨before, word, behind, i, rfl, -, rfl, h⟩
    exact h.append

/-- The neighbours of a character tell whether a part begins at it. -/
theorem beginsPart_iff_partAt (front : Text) (c : Char) (rest : Text) :
    beginsPart front.getLast? c rest.head? = true ↔ PartAt (front ++ c :: rest) front.length := by
  have hhere : (front ++ c :: rest)[front.length]? = some c := by simp
  have hnext : (front ++ c :: rest)[front.length + 1]? = rest.head? := by
    rw [List.getElem?_append_right (Nat.le_add_right _ _), Nat.add_sub_cancel_left,
      List.getElem?_cons_succ, List.head?_eq_getElem?]
  simp only [beginsPart, Bool.and_eq_true, Bool.or_eq_true, Option.any_eq_true]
  constructor
  · rintro ⟨hupper, hcase⟩
    obtain ⟨b, hb⟩ : ∃ b, front.getLast? = some b := by
      rcases hcase with ⟨b, hb, -⟩ | ⟨⟨b, hb, -⟩, -⟩
      · exact ⟨b, hb⟩
      · exact ⟨b, hb⟩
    obtain ⟨init, rfl⟩ := List.getLast?_eq_some_iff.mp hb
    have hlength : (init ++ [b]).length = init.length + 1 := by simp
    have hbefore : ((init ++ [b]) ++ c :: rest)[init.length]? = some b := by simp
    rw [hlength] at hhere hnext ⊢
    rcases hcase with ⟨b', hb', hlower⟩ | ⟨⟨b', hb', hcapital⟩, d, hd, hlower⟩
    · obtain rfl : b = b' := Option.some.inj (hb.symm.trans hb')
      exact .hump hbefore hhere hlower hupper
    · obtain rfl : b = b' := Option.some.inj (hb.symm.trans hb')
      exact .acronym hbefore hhere (hnext.trans hd) hcapital hupper hlower
  · intro h
    generalize hn : front.length = n at h
    have hlast {i : Nat} {b : Char} (hi : front.length = i + 1)
        (hb : (front ++ c :: rest)[i]? = some b) : front.getLast? = some b := by
      rw [List.getElem?_append_left (by omega)] at hb
      rw [List.getLast?_eq_getElem?, hi, Nat.add_sub_cancel, hb]
    cases h with
    | hump hb hc hlower hupper =>
      rw [← hn, hhere] at hc
      cases hc
      exact ⟨hupper, .inl ⟨_, hlast hn hb, hlower⟩⟩
    | acronym hb hc hd hbefore hupper hlower =>
      rw [← hn, hhere] at hc
      cases hc
      rw [hn] at hnext
      exact ⟨hupper, .inr ⟨⟨_, hlast hn hb, hbefore⟩, _, hnext.symm.trans hd, hlower⟩⟩

/-- Going on behind the start of a line, one space is put in front of each beginning of a part. -/
theorem spaced_spaceParts (front rest : Text) :
    Text.Spaced (PartIn (front ++ rest)) front.length rest (spaceParts front.getLast? rest) := by
  induction rest generalizing front with
  | nil => exact .nil _
  | cons c rest ih =>
    have hrest := ih (front ++ [c])
    rw [List.append_assoc, List.singleton_append, List.length_append, List.length_singleton,
      List.getLast?_concat] at hrest
    have hpart := (beginsPart_iff_partAt front c rest).trans partAt_iff_partIn
    rw [spaceParts]
    split
    · rename_i hbegins
      exact .space (hpart.mp hbegins) hrest
    · rename_i hbegins
      exact .keep (mt hpart.mpr hbegins) hrest

/-! ## What a second conversion sees -/

theorem head?_spaceParts (before : Option Char) (text : Text) :
    (spaceParts before text).head? = text.head? ∨
      (spaceParts before text).head? = some ' ' := by
  cases text with
  | nil => exact .inl rfl
  | cons c rest =>
    rw [spaceParts]
    split
    · exact .inr rfl
    · exact .inl rfl

theorem getLast?_spaceParts (before : Option Char) (text : Text) :
    (spaceParts before text).getLast? = text.getLast? := by
  induction text generalizing before with
  | nil => rfl
  | cons c rest ih =>
    have hlast : (c :: spaceParts (some c) rest).getLast? = (c :: rest).getLast? := by
      rw [List.getLast?_cons, List.getLast?_cons, ih]
    rw [spaceParts]
    split
    · rw [List.getLast?_cons_cons, hlast]
    · exact hlast

/-- Where no part begins, none begins after a space is put behind the character. -/
theorem beginsPart_of_head?_spaceParts {before : Option Char} {c : Char} {rest : Text}
    (h : ¬ beginsPart before c rest.head? = true) :
    ¬ beginsPart before c (spaceParts (some c) rest).head? = true := by
  rcases head?_spaceParts (some c) rest with hsame | hspace
  · rwa [hsame]
  · intro hbegins
    apply h
    rw [hspace] at hbegins
    simp only [beginsPart, Bool.and_eq_true, Bool.or_eq_true] at hbegins ⊢
    refine ⟨hbegins.1, hbegins.2.imp_right ?_⟩
    rintro ⟨-, hlower⟩
    cases hlower

/-- Splitting what is split changes nothing. -/
theorem spaceParts_spaceParts (before : Option Char) (text : Text) :
    spaceParts before (spaceParts before text) = spaceParts before text := by
  induction text generalizing before with
  | nil => rfl
  | cons c rest ih =>
    by_cases hbegins : beginsPart before c rest.head? = true
    · have honce : spaceParts before (c :: rest) = ' ' :: c :: spaceParts (some c) rest := by
        rw [spaceParts, if_pos hbegins]
      rw [honce, spaceParts, beginsPart_of_isBlank rfl, if_neg Bool.false_ne_true, spaceParts,
        beginsPart_behind_blank rfl, if_neg Bool.false_ne_true, ih]
    · have honce : spaceParts before (c :: rest) = c :: spaceParts (some c) rest := by
        rw [spaceParts, if_neg hbegins]
      rw [honce, spaceParts, if_neg (beginsPart_of_head?_spaceParts hbegins), ih]

/-! ## Lines -/

theorem hasCrlf_spaceParts {text : Text} (before : Option Char) (h : text.hasCrlf = false) :
    Text.hasCrlf (spaceParts before text) = false := by
  induction text generalizing before with
  | nil => rfl
  | cons c rest ih =>
    obtain ⟨hpair, hrest⟩ := Text.hasCrlf_cons_eq_false.mp h
    have hkept : Text.hasCrlf (c :: spaceParts (some c) rest) = false := by
      refine Text.hasCrlf_cons_eq_false.mpr ⟨?_, ih (some c) hrest⟩
      rintro ⟨hreturn, hfeed⟩
      rcases head?_spaceParts (some c) rest with hsame | hspace
      · exact hpair ⟨hreturn, hsame ▸ hfeed⟩
      · rw [hspace] at hfeed
        cases hfeed
    rw [spaceParts]
    split
    · exact Text.hasCrlf_cons_eq_false.mpr ⟨by simp, hkept⟩
    · exact hkept

theorem free_spaceParts {style : LineBreak} {line : Text} (before : Option Char)
    (h : style.Free line) : style.Free (spaceParts before line) := by
  cases style with
  | lf =>
    have hfeed := LineBreak.free_lf_iff.mp h
    exact LineBreak.free_lf_iff.mpr (break_not_mem_spaceParts isBreak_feed before hfeed)
  | crlf =>
    have hpair := LineBreak.free_crlf_iff.mp h
    exact LineBreak.free_crlf_iff.mpr (hasCrlf_spaceParts before hpair)

/-- No space is put in front of a trimmed line or behind it. -/
theorem trim_spaceParts_trim (line : Text) :
    (spaceParts none line.trim).trim = spaceParts none line.trim := by
  rcases Text.trim_eq_nil_or line with hnil | ⟨c, rest, htrim, hc, hlast⟩
  · rw [hnil]
    rfl
  · have hfirst : ∀ d ∈ (spaceParts none (c :: rest)).head?, isSpace d = false := by
      rw [spaceParts, if_neg (by simp [beginsPart])]
      simpa using hc
    rw [htrim]
    apply Text.trim_eq_self hfirst
    rwa [getLast?_spaceParts]

theorem keepsLines_spaceParts (text : Text) : KeepsLines (spaceParts none) text := by
  intro line hline
  have hfree := (LineBreak.free_of_mem_split hline).inside line.trim_infix
  exact ⟨free_spaceParts none hfree, trim_spaceParts_trim line⟩

/-- Each line that comes of splitting by case is the trimmed line of the text with one space in
front of every character at which a part begins inside of a word, and with no other difference.
Splitting the result again changes nothing. -/
theorem split_spaces_parts (text : Text) :
    List.Forall₂ (fun line spaced => Text.Spaced (PartIn line.trim) 0 line.trim spaced)
        ((LineBreak.ofText text).split text) ((LineBreak.ofText text).split (split text)) ∧
      split (split text) = split text := by
  have hkeeps := keepsLines_spaceParts text
  have hlines : (LineBreak.ofText text).split (split text) =
      ((LineBreak.ofText text).split text).map fun line => spaceParts none line.trim := by
    rw [split_eq_eachLine]
    exact LineBreak.split_join_map fun line hline => (hkeeps line hline).1
  constructor
  · rw [hlines]
    apply List.forall₂_map_right_iff.mpr
    apply List.forall₂_same.mpr
    intro line _
    exact spaced_spaceParts [] line.trim
  · rw [split_eq_eachLine, split_eq_eachLine, eachLine_eachLine _ hkeeps, eachLine]
    refine congrArg _ (List.map_congr_left fun line _ => ?_)
    exact spaceParts_spaceParts none line.trim

end Casing

end EditPlayer
