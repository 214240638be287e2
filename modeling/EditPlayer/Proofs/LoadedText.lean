import EditPlayer.Document.Basic
import EditPlayer.Proofs.LineBreaks
set_option autoImplicit false

/-!
# Texts that are loaded and saved

Loading a text cuts it at line feeds and drops one carriage return from the end of each line; saving
joins the lines in the style that the whole text showed.  If all line breaks of a text have one
style (`Text.Uniform`), this gives the text back without a carriage return at its end
(`Text.Uniform.join_documentLines`).  Whatever is saved in the style of pairs has no other line
breaks.  So the texts that come back unchanged are known (`Document.loading_and_saving`), and so are
the lines that do.
-/

namespace EditPlayer

namespace Text

/-- Every line feed has a carriage return directly before it, or none has, as the style says. -/
def Uniform (style : LineBreak) (text : Text) : Prop :=
  ∀ before after, text = before ++ '\n' :: after →
    (before.getLast? = some '\r' ↔ style = .crlf)

/-- A text ends in a carriage return just when what stands behind a line feed of it does. -/
theorem getLast?_append_feed (piece rest : Text) :
    (piece ++ '\n' :: rest).getLast? = some '\r' ↔ rest.getLast? = some '\r' := by
  cases rest with
  | nil => simp
  | cons c rest => rw [List.getLast?_append, List.getLast?_cons_cons, List.getLast?_cons,
      Option.some_or]

/-- The line breaks of a text are its first one and those behind it. -/
theorem uniform_append_feed {style : LineBreak} {piece rest : Text} (hpiece : '\n' ∉ piece) :
    Uniform style (piece ++ '\n' :: rest) ↔
      (piece.getLast? = some '\r' ↔ style = .crlf) ∧ Uniform style rest := by
  constructor
  · intro h
    refine ⟨h piece rest rfl, ?_⟩
    intro before after hrest
    have hwhole := h (piece ++ '\n' :: before) after (by rw [hrest]; simp)
    rwa [getLast?_append_feed] at hwhole
  · rintro ⟨hfirst, hrest⟩ before after heq
    rcases List.append_eq_append_iff.mp heq with ⟨middle, hbefore, hafter⟩ | ⟨middle, hcut, hafter⟩
    · cases middle with
      | nil =>
        rw [List.append_nil] at hbefore
        rw [hbefore]
        exact hfirst
      | cons c middle =>
        obtain ⟨rfl, hlater⟩ := List.cons.inj hafter
        rw [hbefore, getLast?_append_feed]
        exact hrest middle after hlater
    · cases middle with
      | nil =>
        rw [List.append_nil] at hcut
        rw [← hcut]
        exact hfirst
      | cons c middle =>
        -- The line feed would stand inside the first piece.
        obtain ⟨rfl, -⟩ := List.cons.inj hafter
        exact absurd (by rw [hcut]; simp) hpiece

theorem uniform_of_not_mem (style : LineBreak) {text : Text} (h : '\n' ∉ text) :
    Uniform style text := by
  intro before after heq
  exact absurd (by rw [heq]; simp) h

/-! ## Saving what was loaded -/

theorem dropReturn_append_feed (piece rest : Text) :
    dropReturn (piece ++ '\n' :: rest) = piece ++ '\n' :: dropReturn rest := by
  by_cases hlast : rest.getLast? = some '\r'
  · obtain ⟨init, rfl⟩ := List.getLast?_eq_some_iff.mp hlast
    have hwhole := (getLast?_append_feed piece (init ++ ['\r'])).mpr hlast
    rw [dropReturn, if_pos hwhole, dropReturn, if_pos hlast, ← List.cons_append,
      ← List.append_assoc, List.dropLast_concat, List.dropLast_concat]
  · have hwhole := mt (getLast?_append_feed piece rest).mp hlast
    rw [dropReturn_of_getLast? hwhole, dropReturn_of_getLast? hlast]

/-- A line whose carriage return tells the style is found again with its line break. -/
theorem dropReturn_append_text {style : LineBreak} {piece : Text}
    (h : piece.getLast? = some '\r' ↔ style = .crlf) :
    dropReturn piece ++ style.text = piece ++ ['\n'] := by
  cases style with
  | lf =>
    have hlast : piece.getLast? ≠ some '\r' := fun hlast => LineBreak.noConfusion (h.mp hlast)
    rw [dropReturn_of_getLast? hlast]
    rfl
  | crlf =>
    have hlast : piece.getLast? = some '\r' := h.mpr rfl
    obtain ⟨init, rfl⟩ := List.getLast?_eq_some_iff.mp hlast
    rw [dropReturn, if_pos hlast, List.dropLast_concat, List.append_assoc]
    rfl

theorem join_map_dropReturn {style : LineBreak} {pieces : List Text} (hne : pieces ≠ [])
    (hfeed : ∀ piece ∈ pieces, '\n' ∉ piece) (h : Uniform style (join ['\n'] pieces)) :
    style.join (pieces.map dropReturn) = dropReturn (join ['\n'] pieces) := by
  unfold LineBreak.join
  induction pieces with
  | nil => exact absurd rfl hne
  | cons piece rest ih =>
    rw [List.forall_mem_cons] at hfeed
    cases rest with
    | nil => rfl
    | cons next others =>
      have hrest : next :: others ≠ [] := List.cons_ne_nil next others
      have hmap : (next :: others).map dropReturn ≠ [] := by simp
      rw [join_cons_of_ne_nil _ _ hrest, List.append_assoc, List.singleton_append] at h ⊢
      obtain ⟨hbreak, hlater⟩ := (uniform_append_feed hfeed.1).mp h
      rw [List.map_cons, join_cons_of_ne_nil _ _ hmap, ih hrest hfeed.2 hlater,
        dropReturn_append_text hbreak, dropReturn_append_feed, List.append_assoc,
        List.singleton_append]

/-- A text whose line breaks have one style is found again in its lines, but for a carriage return
at its end. -/
theorem Uniform.join_documentLines {style : LineBreak} {text : Text} (h : Uniform style text) :
    style.join (documentLines text) = dropReturn text := by
  have hjoin := join_splitOn '\n' text
  rw [← hjoin] at h
  have hsaved := join_map_dropReturn (splitOn_ne_nil '\n' text)
    (fun _ => not_mem_of_mem_splitOn) h
  rwa [hjoin] at hsaved

/-- Lines that are joined by pairs give a text with no other line breaks. -/
theorem uniform_join_crlf {lines : List Text} (h : ∀ line ∈ lines, '\n' ∉ line) :
    Uniform .crlf (LineBreak.crlf.join lines) := by
  unfold LineBreak.join
  induction lines with
  | nil => exact uniform_of_not_mem .crlf List.not_mem_nil
  | cons line rest ih =>
    rw [List.forall_mem_cons] at h
    cases rest with
    | nil => exact uniform_of_not_mem .crlf h.1
    | cons next others =>
      have hshape : join LineBreak.crlf.text (line :: next :: others) =
          (line ++ ['\r']) ++ '\n' :: join LineBreak.crlf.text (next :: others) := by
        rw [join_cons_of_ne_nil _ _ (List.cons_ne_nil next others)]
        simp [LineBreak.text]
      have hline : '\n' ∉ line ++ ['\r'] := by simpa using h.1
      rw [hshape, uniform_append_feed hline]
      refine ⟨?_, ih h.2⟩
      simp

theorem dropReturn_eq_self_iff (text : Text) :
    dropReturn text = text ↔ text.getLast? ≠ some '\r' := by
  constructor
  · intro h hlast
    have hlength := length_dropReturn hlast
    have hpos : 0 < text.length := List.length_pos_of_mem (List.mem_of_getLast? hlast)
    rw [h] at hlength
    omega
  · exact dropReturn_of_getLast?

/-! ## Styles -/

/-- A pair stands somewhere in the text. -/
theorem hasCrlf_iff_infix (text : Text) : text.hasCrlf = true ↔ ['\r', '\n'] <:+: text := by
  constructor
  · intro h
    induction text with
    | nil => cases h
    | cons c rest ih =>
      rw [hasCrlf, Bool.or_eq_true, Bool.and_eq_true, beq_iff_eq, beq_iff_eq] at h
      rcases h with ⟨rfl, hfeed⟩ | hrest
      · obtain ⟨tail, rfl⟩ := List.head?_eq_some_iff.mp hfeed
        exact ⟨[], tail, rfl⟩
      · exact (ih hrest).trans (List.suffix_cons c rest).isInfix
  · rintro ⟨before, after, rfl⟩
    rw [List.append_assoc]
    exact hasCrlf_append_pair before after

/-- The style of a text without pairs is the line feed, and all of its line breaks have it. -/
theorem uniform_lf_of_hasCrlf {text : Text} (h : text.hasCrlf = false) : Uniform .lf text := by
  intro before after heq
  constructor
  · intro hlast
    obtain ⟨start, rfl⟩ := List.getLast?_eq_some_iff.mp hlast
    have hpair : text.hasCrlf = true := by
      rw [heq, List.append_assoc]
      exact hasCrlf_append_pair start after
    rw [h] at hpair
    cases hpair
  · intro hstyle
    cases hstyle

theorem uniform_crlf_iff (text : Text) :
    Uniform .crlf text ↔
      ∀ before after, text = before ++ '\n' :: after → before.getLast? = some '\r' := by
  constructor
  · intro h before after heq
    exact (h before after heq).mpr rfl
  · intro h before after heq
    exact ⟨fun _ => rfl, fun _ => h before after heq⟩

end Text

/-! ## Documents -/

namespace Document

/-- A text is saved as it was loaded just when it does not end in a carriage return and its line
breaks have one style. -/
theorem text_ofText_eq_iff (text : Text) :
    (ofText text).text = text ↔
      text.getLast? ≠ some '\r' ∧ (text.hasCrlf = false ∨ text.Uniform .crlf) := by
  have hsaved : (ofText text).text = (LineBreak.ofText text).join text.documentLines := rfl
  rw [hsaved, LineBreak.ofText, ← Text.dropReturn_eq_self_iff]
  cases hpair : text.hasCrlf with
  | false =>
    rw [if_neg Bool.false_ne_true, (Text.uniform_lf_of_hasCrlf hpair).join_documentLines]
    simp
  | true =>
    rw [if_pos rfl]
    constructor
    · intro htext
      have huniform : text.Uniform .crlf := by
        rw [← htext]
        exact Text.uniform_join_crlf fun _ => Text.newline_not_mem_of_mem_documentLines
      rw [huniform.join_documentLines] at htext
      exact ⟨htext, .inr huniform⟩
    · rintro ⟨hend, hnone | huniform⟩
      · cases hnone
      · rw [huniform.join_documentLines, hend]

/-- Lines without characters of line breaks are found again in the text that they are saved as. -/
theorem lines_ofText_text {document : Document} (hne : document.lines ≠ [])
    (hlines : ∀ line ∈ document.lines, '\r' ∉ line ∧ '\n' ∉ line) :
    (ofText document.text).lines = document.lines := by
  have hreturn : ∀ line ∈ document.lines, '\r' ∉ line := fun line hline => (hlines line hline).1
  have hfeed : ∀ line ∈ document.lines, '\n' ∉ line := fun line hline => (hlines line hline).2
  have hflat : '\r' ∉ document.flat := Text.not_mem_join (by decide) hreturn
  calc (ofText document.text).lines
      = (document.lineBreak.join document.lines).crlfToLf.splitOn '\n' :=
        (Text.crClean_join _ hreturn).documentLines_eq
    _ = document.flat.splitOn '\n' := by
        rw [← document.lineBreak.write_join hfeed]
        exact congrArg _ (document.lineBreak.crlfToLf_write hflat)
    _ = document.lines := Text.splitOn_join hne hfeed

theorem lineBreak_ofText_text {document : Document} (htwo : 2 ≤ document.lines.length)
    (hlines : ∀ line ∈ document.lines, '\r' ∉ line) :
    (ofText document.text).lineBreak = document.lineBreak := by
  change LineBreak.ofText (document.lineBreak.join document.lines) = document.lineBreak
  match hshape : document.lines with
  | [] | [_] =>
    rw [hshape] at htwo
    simp at htwo
  | line :: next :: others =>
    rw [hshape] at hlines
    exact document.lineBreak.ofText_join hlines

/-- A text that is loaded and saved comes back unchanged just when it does not end in a carriage
return and either has no pair of a carriage return and a line feed, or has no line feed outside of
such a pair.  Lines that are saved and loaded come back unchanged if they hold neither of the two
characters, and with them the style of the line breaks if there is a line break. -/
theorem loading_and_saving :
    (∀ text : Text, (ofText text).text = text ↔
      text.getLast? ≠ some '\r' ∧
        (¬ ['\r', '\n'] <:+: text ∨
          ∀ before after, text = before ++ '\n' :: after → before.getLast? = some '\r')) ∧
    ∀ document : Document, document.lines ≠ [] →
      (∀ line ∈ document.lines, '\r' ∉ line ∧ '\n' ∉ line) →
      (ofText document.text).lines = document.lines ∧
        (2 ≤ document.lines.length →
          (ofText document.text).lineBreak = document.lineBreak) := by
  constructor
  · intro text
    rw [text_ofText_eq_iff, ← Text.uniform_crlf_iff, ← Text.hasCrlf_iff_infix,
      Bool.not_eq_true]
  · intro document hne hlines
    refine ⟨lines_ofText_text hne hlines, ?_⟩
    intro htwo
    exact lineBreak_ofText_text htwo fun line hline => (hlines line hline).1

/-- A doubled carriage return comes back, since only one of the two is dropped; and so does the
style of a document whose last line is empty. -/
theorem loading_and_saving_pairs :
    (ofText "a\r\r\n\r\nb\r\n".toList).text = "a\r\r\n\r\nb\r\n".toList ∧
      (ofText (ofText "a\r\nb\r\n".toList).text).lines = [['a'], ['b'], []] ∧
      (ofText (ofText "a\r\nb\r\n".toList).text).lineBreak = .crlf := by
  obtain ⟨hsaved, hloaded⟩ := loading_and_saving
  have hpairs : Text.Uniform .crlf (LineBreak.crlf.join [['a', '\r'], [], ['b'], []]) :=
    Text.uniform_join_crlf (by decide)
  obtain ⟨hlines, hstyle⟩ := hloaded (ofText "a\r\nb\r\n".toList) (by decide) (by decide)
  refine ⟨(hsaved _).mpr ⟨by decide, .inr ?_⟩, hlines, hstyle (by decide)⟩
  exact (Text.uniform_crlf_iff _).mp hpairs

end Document

end EditPlayer
