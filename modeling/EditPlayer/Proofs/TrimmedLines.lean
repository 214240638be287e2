import EditPlayer.Proofs.Layout
import EditPlayer.Proofs.LoadedText
set_option autoImplicit false

/-!
# Conversions of trimmed lines

A conversion of lines cuts a text at the breaks of its own style, trims the lines and joins what
they are converted to.  If no line break comes of a line and what comes of it is trimmed, a second
conversion finds the same lines in the same style, although it reads the style off anew and other
carriage returns and line feeds may stand in the lines (`Casing.eachLine_eachLine`).  So it gives
the same text just when it does so on every line (`Casing.eachLine_eachLine_eq_iff`).
-/

namespace EditPlayer

namespace Text

/-! ## Trimmed texts -/

/-- White space stands around the trimmed text. -/
theorem exists_append_trim_append (text : Text) :
    ∃ lead trail, (∀ c ∈ lead, isSpace c = true) ∧ (∀ c ∈ trail, isSpace c = true) ∧
      text = lead ++ text.trim ++ trail := by
  obtain ⟨trail, htrail, htext⟩ := exists_trimEnd_append (text.dropWhile isSpace)
  refine ⟨text.takeWhile isSpace, trail, List.all_eq_true.mp List.all_takeWhile, htrail, ?_⟩
  have hwhole : text.takeWhile isSpace ++ text.dropWhile isSpace = text :=
    List.takeWhile_append_dropWhile
  rw [htext] at hwhole
  rw [List.append_assoc]
  exact hwhole.symm

theorem trim_infix (text : Text) : text.trim <:+: text := by
  obtain ⟨lead, trail, -, -, htext⟩ := exists_append_trim_append text
  exact ⟨lead, trail, htext.symm⟩

/-- A text is trimmed if white space neither begins nor ends it. -/
theorem trim_eq_self {text : Text} (hfirst : ∀ c ∈ text.head?, isSpace c = false)
    (hlast : ∀ c ∈ text.getLast?, isSpace c = false) : text.trim = text := by
  cases text with
  | nil => rfl
  | cons c rest =>
    have htrim : trim ([] ++ c :: rest) = trimEnd (c :: rest) :=
      trim_append_cons (by simp) (hfirst c rfl) rest
    rw [List.nil_append] at htrim
    have hend := List.getLast?_eq_some_getLast (List.cons_ne_nil c rest)
    obtain ⟨init, hinit⟩ := List.getLast?_eq_some_iff.mp hend
    have hkept := trimEnd_concat init (hlast _ hend)
    rw [htrim, hinit]
    exact hkept

/-- A trimmed text is empty, or other characters than white space begin and end it. -/
theorem trim_eq_nil_or (text : Text) :
    text.trim = [] ∨ ∃ c rest, text.trim = c :: rest ∧ isSpace c = false ∧
      ∀ d ∈ (c :: rest).getLast?, isSpace d = false := by
  rcases all_space_or text with hall | ⟨lead, c, rest, hlead, hc, rfl⟩
  · exact .inl (trim_of_space hall)
  · have hkept : trimEnd (c :: rest) = c :: trimEnd rest := trimEndWhere_append_cons [] hc rest
    refine .inr ⟨c, trimEnd rest, by rw [trim_append_cons hlead hc, hkept], hc, fun d hd => ?_⟩
    rw [← hkept] at hd
    exact getLast?_trimEndWhere d hd

/-! ## Texts without pairs -/

theorem splitOnCrlf_cons_of_not_pair {c : Char} {text : Text}
    (h : ¬(c = '\r' ∧ text.head? = some '\n')) :
    splitOnCrlf (c :: text) = consHead c (splitOnCrlf text) := by
  cases text with
  | nil => rfl
  | cons d rest =>
    rw [splitOnCrlf, if_neg]
    rintro ⟨rfl, rfl⟩
    exact h ⟨rfl, rfl⟩

theorem hasCrlf_cons_eq_false {c : Char} {text : Text} :
    hasCrlf (c :: text) = false ↔
      ¬(c = '\r' ∧ text.head? = some '\n') ∧ text.hasCrlf = false := by
  rw [hasCrlf, Bool.or_eq_false_iff, ← Bool.not_eq_true, Bool.and_eq_true, beq_iff_eq, beq_iff_eq]

theorem splitOnCrlf_of_hasCrlf {text : Text} (h : text.hasCrlf = false) :
    splitOnCrlf text = [text] := by
  induction text with
  | nil => rfl
  | cons c text ih =>
    obtain ⟨hpair, hrest⟩ := hasCrlf_cons_eq_false.mp h
    rw [splitOnCrlf_cons_of_not_pair hpair, ih hrest]
    rfl

/-- The first pair divides a text, whatever carriage returns and line feeds stand before it. -/
theorem splitOnCrlf_append_first_pair {piece : Text} (h : piece.hasCrlf = false) (rest : Text) :
    splitOnCrlf (piece ++ '\r' :: '\n' :: rest) = piece :: splitOnCrlf rest := by
  induction piece with
  | nil => rw [List.nil_append, splitOnCrlf, if_pos ⟨rfl, rfl⟩]
  | cons c piece ih =>
    obtain ⟨hpair, hpiece⟩ := hasCrlf_cons_eq_false.mp h
    have hnone : ¬(c = '\r' ∧ (piece ++ '\r' :: '\n' :: rest).head? = some '\n') := by
      cases piece with
      | nil => simp
      | cons d piece => exact hpair
    rw [List.cons_append, splitOnCrlf_cons_of_not_pair hnone, ih hpiece]
    rfl

theorem exists_first_pair {text : Text} (h : text.hasCrlf = true) :
    ∃ piece rest, piece.hasCrlf = false ∧ text = piece ++ '\r' :: '\n' :: rest := by
  induction text with
  | nil => cases h
  | cons c text ih =>
    by_cases hpair : c = '\r' ∧ text.head? = some '\n'
    · obtain ⟨rfl, hfeed⟩ := hpair
      obtain ⟨rest, rfl⟩ := List.head?_eq_some_iff.mp hfeed
      exact ⟨[], rest, rfl, rfl⟩
    · have hlater : hasCrlf text = true := by
        cases hnone : hasCrlf text with
        | false => rw [hasCrlf_cons_eq_false.mpr ⟨hpair, hnone⟩] at h; exact h
        | true => rfl
      obtain ⟨piece, rest, hpiece, rfl⟩ := ih hlater
      refine ⟨c :: piece, rest, hasCrlf_cons_eq_false.mpr ⟨?_, hpiece⟩, rfl⟩
      cases piece with
      | nil => simp
      | cons d piece => exact hpair

/-- No piece between pairs has a pair. -/
theorem hasCrlf_of_mem_splitOnCrlf {text piece : Text} (h : piece ∈ splitOnCrlf text) :
    piece.hasCrlf = false := by
  induction hlength : text.length using Nat.strongRecOn generalizing text with
  | ind length ih =>
    cases hpair : text.hasCrlf with
    | false =>
      rw [splitOnCrlf_of_hasCrlf hpair, List.mem_singleton] at h
      rwa [h]
    | true =>
      obtain ⟨first, rest, hfirst, rfl⟩ := exists_first_pair hpair
      rw [splitOnCrlf_append_first_pair hfirst] at h
      rcases List.mem_cons.mp h with rfl | hrest
      · exact hfirst
      · refine ih rest.length ?_ hrest rfl
        simp at hlength
        omega

theorem hasCrlf_of_feed_not_mem {text : Text} (h : '\n' ∉ text) : text.hasCrlf = false := by
  rw [← Bool.not_eq_true, hasCrlf_iff_infix]
  intro hpair
  exact h (hpair.subset (by simp))

/-- A line feed behind a text makes no pair if no carriage return ends the text. -/
theorem hasCrlf_append_feed {piece : Text} (hfeed : '\n' ∉ piece)
    (hlast : piece.getLast? ≠ some '\r') (rest : Text) :
    hasCrlf (piece ++ '\n' :: rest) = hasCrlf rest := by
  induction piece with
  | nil => simp [hasCrlf]
  | cons c piece ih =>
    rw [List.mem_cons, not_or] at hfeed
    have hnext : ¬(c = '\r' ∧ (piece ++ '\n' :: rest).head? = some '\n') := by
      rintro ⟨rfl, hhead⟩
      cases piece with
      | nil => exact hlast rfl
      | cons d piece => exact hfeed.2 (by simp_all)
    have hrest : piece.getLast? ≠ some '\r' := by
      cases piece with
      | nil => simp
      | cons d piece => rwa [List.getLast?_cons_cons] at hlast
    rw [List.cons_append, hasCrlf, ih hfeed.2 hrest, Bool.or_eq_right_iff_imp, Bool.and_eq_true,
      beq_iff_eq, beq_iff_eq]
    intro hpair
    exact absurd hpair hnext

end Text

/-! ## Lines without breaks of a style -/

namespace LineBreak

/-- No line break of the style stands in the line. -/
def Free (style : LineBreak) (line : Text) : Prop := ¬ style.text <:+: line

theorem free_lf_iff {line : Text} : lf.Free line ↔ '\n' ∉ line := by
  constructor
  · intro h hmem
    obtain ⟨before, after, rfl⟩ := List.append_of_mem hmem
    exact h ⟨before, after, by simp [text]⟩
  · intro h hbreak
    exact h (hbreak.subset (List.mem_singleton.mpr rfl))

theorem free_crlf_iff {line : Text} : crlf.Free line ↔ line.hasCrlf = false := by
  rw [Free, text, ← Text.hasCrlf_iff_infix, Bool.not_eq_true]

variable {style : LineBreak}

theorem Free.inside {line piece : Text} (h : style.Free line) (hpiece : piece <:+: line) :
    style.Free piece :=
  fun hbreak => h (hbreak.trans hpiece)

theorem free_of_mem_split {text line : Text} (h : line ∈ style.split text) : style.Free line := by
  cases style with
  | lf => exact free_lf_iff.mpr (Text.not_mem_of_mem_splitOn h)
  | crlf => exact free_crlf_iff.mpr (Text.hasCrlf_of_mem_splitOnCrlf h)

theorem split_ne_nil (style : LineBreak) (text : Text) : style.split text ≠ [] := by
  cases style with
  | lf => exact Text.splitOn_ne_nil '\n' text
  | crlf =>
    cases hpair : text.hasCrlf with
    | false =>
      have hwhole := Text.splitOnCrlf_of_hasCrlf hpair
      rw [split, hwhole]
      simp
    | true =>
      obtain ⟨piece, rest, hpiece, rfl⟩ := Text.exists_first_pair hpair
      rw [split, Text.splitOnCrlf_append_first_pair hpiece]
      simp

/-- Lines are found again in the text that they are joined to, if they can be told from the line
breaks between them. -/
theorem split_join_of_free {lines : List Text} (hne : lines ≠ [])
    (h : ∀ line ∈ lines, style.Free line) : style.split (style.join lines) = lines := by
  cases style with
  | lf => exact Text.splitOn_join hne fun line hline => free_lf_iff.mp (h line hline)
  | crlf =>
    change Text.splitOnCrlf (Text.join ['\r', '\n'] lines) = lines
    induction lines with
    | nil => exact absurd rfl hne
    | cons line rest ih =>
      rw [List.forall_mem_cons] at h
      have hline := free_crlf_iff.mp h.1
      cases rest with
      | nil => exact Text.splitOnCrlf_of_hasCrlf hline
      | cons next others =>
        have hrest : next :: others ≠ [] := List.cons_ne_nil next others
        rw [Text.join_cons_of_ne_nil _ _ hrest, List.append_assoc, List.cons_append,
          List.singleton_append, Text.splitOnCrlf_append_first_pair hline, ih hrest h.2]

/-- A text in the style of pairs has two lines at least. -/
theorem two_le_length_split {text : Text} (h : ofText text = crlf) :
    2 ≤ (crlf.split text).length := by
  have hpair : text.hasCrlf = true := by
    unfold ofText at h
    split at h
    · assumption
    · cases h
  obtain ⟨piece, rest, hpiece, rfl⟩ := Text.exists_first_pair hpair
  rw [split, Text.splitOnCrlf_append_first_pair hpiece, List.length_cons]
  have hrest := List.length_pos_iff.mpr (crlf.split_ne_nil rest)
  exact Nat.succ_le_succ hrest

theorem hasCrlf_join_lf {lines : List Text} (h : ∀ line ∈ lines, '\n' ∉ line)
    (hlast : ∀ line ∈ lines, line.getLast? ≠ some '\r') : (lf.join lines).hasCrlf = false := by
  unfold join
  induction lines with
  | nil => rfl
  | cons line rest ih =>
    rw [List.forall_mem_cons] at h hlast
    cases rest with
    | nil => exact Text.hasCrlf_of_feed_not_mem h.1
    | cons next others =>
      rw [Text.join_cons_of_ne_nil _ _ (List.cons_ne_nil next others), List.append_assoc, text,
        List.singleton_append, Text.hasCrlf_append_feed h.1 hlast.1]
      exact ih h.2 hlast.2

/-- The style is read off the joined lines, if no carriage return ends one of them and pairs join
two lines at least. -/
theorem ofText_join_of_free {lines : List Text} (h : ∀ line ∈ lines, style.Free line)
    (hlast : ∀ line ∈ lines, line.getLast? ≠ some '\r')
    (htwo : style = crlf → 2 ≤ lines.length) : ofText (style.join lines) = style := by
  cases style with
  | lf =>
    have hnone := hasCrlf_join_lf (fun line hline => free_lf_iff.mp (h line hline)) hlast
    rw [ofText, hnone]
    rfl
  | crlf =>
    have hlength := htwo rfl
    cases lines with
    | nil => exact absurd hlength (by decide)
    | cons line rest =>
      have hrest : rest ≠ [] := by
        rintro rfl
        exact absurd hlength (by simp)
      have hpair : (crlf.join (line :: rest)).hasCrlf = true := by
        rw [join, Text.join_cons_of_ne_nil _ _ hrest, List.append_assoc]
        exact Text.hasCrlf_append_pair line _
      rw [ofText, if_pos hpair]

/-- Whatever the lines of a text are replaced by is found again, if no line break comes in. -/
theorem split_join_map {text : Text} {view : Text → Text}
    (h : ∀ line ∈ style.split text, style.Free (view line)) :
    style.split (style.join ((style.split text).map view)) = (style.split text).map view := by
  refine split_join_of_free ?_ (List.forall_mem_map.mpr h)
  simpa using style.split_ne_nil text

/-- The style of a text stays when its lines are replaced by trimmed ones. -/
theorem ofText_join_map {text : Text} {view : Text → Text}
    (h : ∀ line ∈ (ofText text).split text, (ofText text).Free (view line))
    (htrim : ∀ line ∈ (ofText text).split text, (view line).trim = view line) :
    ofText ((ofText text).join (((ofText text).split text).map view)) = ofText text := by
  refine ofText_join_of_free (List.forall_mem_map.mpr h) (List.forall_mem_map.mpr ?_) ?_
  · intro line hline hlast
    rw [← htrim line hline] at hlast
    exact absurd (Text.getLast?_trimEndWhere _ hlast) (by decide)
  · intro hcrlf
    rw [List.length_map, hcrlf]
    exact two_le_length_split hcrlf

end LineBreak

/-! ## One conversion after another -/

namespace Casing

open LineBreak

variable {convert : Text → Text} {text : Text}

/-- What comes of every line of the text is trimmed and holds no line break. -/
def KeepsLines (convert : Text → Text) (text : Text) : Prop :=
  ∀ line ∈ (ofText text).split text,
    (ofText text).Free (convert line.trim) ∧ (convert line.trim).trim = convert line.trim

/-- A second conversion is made of the lines of the first one. -/
theorem eachLine_eachLine (next : Text → Text) (h : KeepsLines convert text) :
    eachLine next (eachLine convert text) =
      (ofText text).join (((ofText text).split text).map fun line => next (convert line.trim)) := by
  have hfree := fun line hline => (h line hline).1
  have htrim := fun line hline => (h line hline).2
  have hstyle : ofText (eachLine convert text) = ofText text := ofText_join_map hfree htrim
  have hsplit : (ofText text).split (eachLine convert text) =
      ((ofText text).split text).map fun line => convert line.trim := split_join_map hfree
  rw [eachLine, hstyle, hsplit, List.map_map]
  refine congrArg _ (List.map_congr_left fun line hline => ?_)
  exact congrArg next (htrim line hline)

/-- A second conversion changes nothing just when it changes no line. -/
theorem eachLine_eachLine_eq_iff (h : KeepsLines convert text)
    (htwice : ∀ line ∈ (ofText text).split text,
      (ofText text).Free (convert (convert line.trim))) :
    eachLine convert (eachLine convert text) = eachLine convert text ↔
      ∀ line ∈ (ofText text).split text, convert (convert line.trim) = convert line.trim := by
  rw [eachLine_eachLine convert h, eachLine]
  constructor
  · intro heq
    have hlines := congrArg (ofText text).split heq
    rw [split_join_map htwice, split_join_map fun line hline => (h line hline).1] at hlines
    exact List.map_inj_left.mp hlines
  · intro hlines
    exact congrArg _ (List.map_congr_left hlines)

end Casing

end EditPlayer
