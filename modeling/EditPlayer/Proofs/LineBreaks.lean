import EditPlayer.Proofs.CleanCasing
set_option autoImplicit false

/-!
# Lines joined in one style

Lines that hold neither a carriage return nor a line feed are found again in the text that they are
joined to, whatever the style of the line breaks (`LineBreak.split_join`).  Such a text is the flat
text of the lines with its line feeds written in that style (`LineBreak.write_join`), and the style
is read off the text as soon as there is a line break in it (`LineBreak.ofText_join`).
-/

namespace EditPlayer

namespace Text

/-- The lines of a text without carriage returns hold no character of a line break. -/
theorem break_not_mem_splitOn {flat : Text} (h : '\r' ∉ flat) :
    ∀ line ∈ flat.splitOn '\n', '\r' ∉ line ∧ '\n' ∉ line := fun _ hline =>
  ⟨fun hmem => h (mem_of_mem_splitOn hline hmem), not_mem_of_mem_splitOn hline⟩

/-- Pieces without the separator are found again in the text that they are joined to. -/
theorem splitOn_join {separator : Char} {pieces : List Text} (hne : pieces ≠ [])
    (h : ∀ piece ∈ pieces, separator ∉ piece) :
    splitOn separator (join [separator] pieces) = pieces := by
  induction pieces with
  | nil => exact absurd rfl hne
  | cons piece rest ih =>
    rw [List.forall_mem_cons] at h
    cases rest with
    | nil => exact splitOn_of_not_mem h.1
    | cons next others =>
      have hrest : next :: others ≠ [] := List.cons_ne_nil next others
      rw [join_cons_of_ne_nil _ _ hrest, List.append_assoc, List.singleton_append,
        splitOn_append_separator, splitOn_of_not_mem h.1, ih hrest h.2]
      rfl

/-- A pair divides the pieces before it from those behind it, if the first ones have no carriage
return. -/
theorem splitOnCrlf_append_pair {piece : Text} (h : '\r' ∉ piece) (rest : Text) :
    splitOnCrlf (piece ++ '\r' :: '\n' :: rest) = piece :: splitOnCrlf rest := by
  induction piece with
  | nil => rw [List.nil_append, splitOnCrlf, if_pos ⟨rfl, rfl⟩]
  | cons c piece ih =>
    rw [List.mem_cons, not_or] at h
    rw [List.cons_append, splitOnCrlf_cons (Ne.symm h.1), ih h.2]
    rfl

theorem splitOnCrlf_of_not_mem {text : Text} (h : '\r' ∉ text) : splitOnCrlf text = [text] := by
  induction text with
  | nil => rfl
  | cons c text ih =>
    rw [List.mem_cons, not_or] at h
    rw [splitOnCrlf_cons (Ne.symm h.1), ih h.2]
    rfl

/-- Pieces without carriage returns are found again between the pairs that join them. -/
theorem splitOnCrlf_join {pieces : List Text} (hne : pieces ≠ [])
    (h : ∀ piece ∈ pieces, '\r' ∉ piece) : splitOnCrlf (join ['\r', '\n'] pieces) = pieces := by
  induction pieces with
  | nil => exact absurd rfl hne
  | cons piece rest ih =>
    rw [List.forall_mem_cons] at h
    cases rest with
    | nil => exact splitOnCrlf_of_not_mem h.1
    | cons next others =>
      have hrest : next :: others ≠ [] := List.cons_ne_nil next others
      rw [join_cons_of_ne_nil _ _ hrest, List.append_assoc]
      rw [List.cons_append, List.singleton_append, splitOnCrlf_append_pair h.1, ih hrest h.2]

/-- A text without carriage returns has no pair. -/
theorem hasCrlf_of_not_mem {text : Text} (h : '\r' ∉ text) : text.hasCrlf = false := by
  induction text with
  | nil => rfl
  | cons c text ih =>
    rw [List.mem_cons, not_or] at h
    rw [hasCrlf, ih h.2, Bool.or_false, Bool.and_eq_false_imp]
    intro hc
    exact absurd (beq_iff_eq.mp hc).symm h.1

theorem hasCrlf_append_pair (text rest : Text) :
    hasCrlf (text ++ '\r' :: '\n' :: rest) = true := by
  induction text with
  | nil => rfl
  | cons c text ih => rw [List.cons_append, hasCrlf, ih, Bool.or_true]

end Text

namespace LineBreak

variable (style : LineBreak)

@[simp] theorem write_nil : style.write [] = [] := rfl

@[simp] theorem write_append (first second : Text) :
    style.write (first ++ second) = style.write first ++ style.write second :=
  List.flatMap_append

theorem write_cons_feed (flat : Text) :
    style.write ('\n' :: flat) = style.text ++ style.write flat := by
  rw [write, List.flatMap_cons, if_pos rfl, ← write]

theorem write_cons {c : Char} (h : c ≠ '\n') (flat : Text) :
    style.write (c :: flat) = c :: style.write flat := by
  rw [write, List.flatMap_cons, if_neg h, ← write]
  rfl

/-- Line feeds are already written in their own style. -/
@[simp] theorem write_lf (flat : Text) : lf.write flat = flat := by
  induction flat with
  | nil => rfl
  | cons c flat ih =>
    by_cases hc : c = '\n'
    · subst hc
      rw [write_cons_feed, ih]
      rfl
    · rw [write_cons _ hc, ih]

theorem write_feed : style.write ['\n'] = style.text := by
  rw [write_cons_feed, write_nil, List.append_nil]

/-- A text without line feeds is written as it is. -/
theorem write_of_not_mem {flat : Text} (h : '\n' ∉ flat) : style.write flat = flat := by
  induction flat with
  | nil => rfl
  | cons c flat ih =>
    rw [List.mem_cons, not_or] at h
    rw [write_cons _ (Ne.symm h.1), ih h.2]

/-- A text without carriage returns is clean when its line feeds are written in a style. -/
theorem crClean_write {flat : Text} (h : '\r' ∉ flat) :
    (style.write flat).CrClean := by
  induction flat with
  | nil => trivial
  | cons c rest ih =>
    rw [List.mem_cons, not_or] at h
    by_cases hc : c = '\n'
    · subst hc
      have hbreak : Text.CrClean style.text := by cases style <;> decide
      rw [write_cons_feed]
      exact hbreak.append (ih h.2)
    · rw [write_cons _ hc]
      exact (ih h.2).cons (Ne.symm h.1)

/-- Joined lines are the flat text of the lines, written in the style. -/
theorem write_join {lines : List Text} (h : ∀ line ∈ lines, '\n' ∉ line) :
    style.write (lf.join lines) = style.join lines := by
  unfold join
  induction lines with
  | nil => rfl
  | cons line rest ih =>
    rw [List.forall_mem_cons] at h
    cases rest with
    | nil => exact style.write_of_not_mem h.1
    | cons next others =>
      have hbreak : style.write lf.text = style.text := by simp [write, text]
      have hrest : next :: others ≠ [] := List.cons_ne_nil next others
      rw [Text.join_cons_of_ne_nil _ _ hrest, Text.join_cons_of_ne_nil _ _ hrest, write_append,
        write_append, style.write_of_not_mem h.1, hbreak, ih h.2]

/-- A flat text that is written in a style is joined from its lines. -/
theorem write_eq_join (flat : Text) : style.write flat = style.join (flat.splitOn '\n') := by
  have hjoin : lf.join (flat.splitOn '\n') = flat := Text.join_splitOn '\n' flat
  rw [← style.write_join fun _ => Text.not_mem_of_mem_splitOn, hjoin]

/-- Joined lines have one line feed less than there are lines. -/
theorem count_join {lines : List Text} (hne : lines ≠ [])
    (h : ∀ line ∈ lines, '\n' ∉ line) : (lf.join lines).count '\n' + 1 = lines.length := by
  rw [← Text.length_splitOn, join, LineBreak.text, Text.splitOn_join hne h]

/-- A flat text is found again when its line breaks become line feeds. -/
theorem crlfToLf_write {flat : Text} (h : '\r' ∉ flat) : (style.write flat).crlfToLf = flat := by
  induction flat with
  | nil => rfl
  | cons c flat ih =>
    rw [List.mem_cons, not_or] at h
    by_cases hc : c = '\n'
    · subst hc
      rw [write_cons_feed]
      cases style with
      | lf => exact (Text.crlfToLf_cons (by decide) _).trans (congrArg _ (ih h.2))
      | crlf => exact (Text.crlfToLf_pair _).trans (congrArg _ (ih h.2))
    · rw [write_cons _ hc, Text.crlfToLf_cons (Ne.symm h.1), ih h.2]

/-- The lines are found again in the text that they are joined to. -/
theorem split_join {lines : List Text} (hne : lines ≠ [])
    (h : ∀ line ∈ lines, '\r' ∉ line ∧ '\n' ∉ line) : style.split (style.join lines) = lines := by
  cases style with
  | lf => exact Text.splitOn_join hne fun line hline => (h line hline).2
  | crlf => exact Text.splitOnCrlf_join hne fun line hline => (h line hline).1

/-- The style is read off two lines or more. -/
theorem ofText_join {line next : Text} {others : List Text}
    (h : ∀ piece ∈ line :: next :: others, '\r' ∉ piece) :
    ofText (style.join (line :: next :: others)) = style := by
  cases style with
  | lf =>
    have hreturn : '\r' ∉ lf.join (line :: next :: others) := Text.not_mem_join (by decide) h
    rw [ofText, Text.hasCrlf_of_not_mem hreturn]
    rfl
  | crlf =>
    have hpair : (crlf.join (line :: next :: others)).hasCrlf = true := by
      rw [join, Text.join_cons_of_ne_nil _ _ (List.cons_ne_nil next others), List.append_assoc]
      exact Text.hasCrlf_append_pair line _
    rw [ofText, if_pos hpair]

end LineBreak

end EditPlayer
