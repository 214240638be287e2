import EditPlayer.Text.Lines
set_option autoImplicit false

/-!
# Cutting and joining lines

How a text is cut at line feeds when something is put behind it, and what is left of the carriage
returns.  A text is clean (`CrClean`) if every carriage return in it stands directly before a line
feed.  The lines of a clean text are the pieces of the text with line feeds alone
(`documentLines_eq`), so joining them gives that text back.
-/

namespace EditPlayer.Text

/-! ## Pieces of a longer text -/

/-- The piece behind the last separator. -/
def lastPiece (separator : Char) (text : Text) : Text :=
  ((splitOn separator text).getLast?).getD []

theorem splitOn_ne_nil (separator : Char) (text : Text) : splitOn separator text ≠ [] :=
  splitWhere_ne_nil _ text

theorem splitOn_cons_self (separator : Char) (text : Text) :
    splitOn separator (separator :: text) = [] :: splitOn separator text := by
  simp [splitOn, splitWhere_cons]

theorem splitOn_cons_of_ne {separator c : Char} (h : c ≠ separator) (text : Text) :
    splitOn separator (c :: text) = consHead c (splitOn separator text) := by
  simp [splitOn, splitWhere_cons, h]

theorem length_consHead (c : Char) {pieces : List Text} (h : pieces ≠ []) :
    (consHead c pieces).length = pieces.length := by
  cases pieces with
  | nil => exact absurd rfl h
  | cons piece pieces => rfl

/-- Every separator begins one more piece. -/
theorem length_splitOn (separator : Char) (text : Text) :
    (splitOn separator text).length = text.count separator + 1 := by
  induction text with
  | nil => rfl
  | cons c text ih =>
    by_cases hc : c = separator
    · subst hc
      rw [splitOn_cons_self, List.length_cons, ih, List.count_cons_self]
    · rw [splitOn_cons_of_ne hc, length_consHead c (splitOn_ne_nil separator text), ih,
        List.count_cons_of_ne hc]

/-- A text has at most one piece more than characters. -/
theorem length_splitOn_le (separator : Char) (text : Text) :
    (splitOn separator text).length ≤ text.length + 1 := by
  rw [length_splitOn]
  exact Nat.succ_le_succ List.count_le_length

theorem splitWhere_of_forall {p : Char → Bool} {text : Text} (h : ∀ c ∈ text, p c = false) :
    splitWhere p text = [text] := by
  induction text with
  | nil => rfl
  | cons c rest ih =>
    rw [List.forall_mem_cons] at h
    rw [splitWhere_cons, h.1, if_neg Bool.false_ne_true, ih h.2]
    rfl

/-- A text without separators is its only piece. -/
theorem splitOn_of_not_mem {separator : Char} {text : Text} (h : separator ∉ text) :
    splitOn separator text = [text] := by
  refine splitWhere_of_forall fun c hc => ?_
  rw [beq_eq_false_iff_ne]
  rintro rfl
  exact h hc

theorem consHead_append (c : Char) {first : List Text} (h : first ≠ []) (second : List Text) :
    consHead c (first ++ second) = consHead c first ++ second := by
  cases first with
  | nil => exact absurd rfl h
  | cons piece pieces => rfl

theorem splitWhere_append_separator {p : Char → Bool} {c : Char} (hc : p c = true)
    (text rest : Text) :
    splitWhere p (text ++ c :: rest) = splitWhere p text ++ splitWhere p rest := by
  induction text with
  | nil => rw [List.nil_append, splitWhere_cons, if_pos hc]; rfl
  | cons d text ih =>
    rw [List.cons_append, splitWhere_cons, splitWhere_cons, ih]
    split
    · rfl
    · exact consHead_append d (splitWhere_ne_nil p text) _

/-- A separator divides the pieces before it from those behind it. -/
theorem splitOn_append_separator (separator : Char) (text rest : Text) :
    splitOn separator (text ++ separator :: rest) =
      splitOn separator text ++ splitOn separator rest := by
  refine splitWhere_append_separator ?_ text rest
  exact beq_self_eq_true separator

/-- A tail without separators is put behind the last piece. -/
theorem splitOn_append {separator : Char} (text : Text) {tail : Text} (h : separator ∉ tail) :
    splitOn separator (text ++ tail) =
      (splitOn separator text).dropLast ++ [lastPiece separator text ++ tail] := by
  induction text with
  | nil => exact splitOn_of_not_mem h
  | cons c text ih =>
    have hne := splitOn_ne_nil separator text
    unfold lastPiece at ih ⊢
    by_cases hc : c = separator
    · subst hc
      rw [List.cons_append, splitOn_cons_self, splitOn_cons_self, ih,
        List.dropLast_cons_of_ne_nil hne, List.getLast?_cons_of_ne_nil hne]
      rfl
    · rw [List.cons_append, splitOn_cons_of_ne hc, splitOn_cons_of_ne hc, ih]
      match splitOn separator text, hne with
      | [piece], _ => rfl
      | piece :: next :: pieces, _ => rfl

/-- The last piece is empty if the text is, and if a separator ends it. -/
theorem lastPiece_eq_nil_iff (separator : Char) (text : Text) :
    lastPiece separator text = [] ↔ text = [] ∨ text.getLast? = some separator := by
  rcases List.eq_nil_or_concat text with rfl | ⟨init, c, rfl⟩
  · simp [lastPiece, splitOn]
  · rw [List.concat_eq_append]
    by_cases hc : c = separator
    · subst hc
      have hempty : splitOn c [] = [[]] := rfl
      simp [lastPiece, splitOn_append_separator, hempty]
    · have hmem : separator ∉ [c] := by simpa using Ne.symm hc
      simp [lastPiece, splitOn_append init hmem, hc]

/-- The characters of a piece are characters of the text. -/
theorem mem_of_mem_splitWhere {p : Char → Bool} {text piece : Text} {c : Char}
    (hpiece : piece ∈ splitWhere p text) (hc : c ∈ piece) : c ∈ text := by
  induction text generalizing piece with
  | nil =>
    rw [splitWhere_nil, List.mem_singleton] at hpiece
    exact hpiece ▸ hc
  | cons d rest ih =>
    rw [splitWhere_cons] at hpiece
    split at hpiece
    · rcases List.mem_cons.mp hpiece with rfl | hlater
      · cases hc
      · exact List.mem_cons_of_mem d (ih hlater hc)
    · cases hrest : splitWhere p rest with
      | nil => exact absurd hrest (splitWhere_ne_nil p rest)
      | cons first others =>
        rw [hrest] at ih hpiece
        rcases List.mem_cons.mp hpiece with rfl | hlater
        · rcases List.mem_cons.mp hc with rfl | hin
          · exact List.mem_cons_self
          · exact List.mem_cons_of_mem d (ih List.mem_cons_self hin)
        · exact List.mem_cons_of_mem d (ih (List.mem_cons_of_mem first hlater) hc)

theorem mem_of_mem_splitOn {separator : Char} {text piece : Text} {c : Char}
    (hpiece : piece ∈ splitOn separator text) (hc : c ∈ piece) : c ∈ text :=
  mem_of_mem_splitWhere hpiece hc

/-- A character of joined pieces is one of a piece or of the separator. -/
theorem not_mem_join {c : Char} {separator : Text} (hseparator : c ∉ separator)
    {pieces : List Text} (h : ∀ piece ∈ pieces, c ∉ piece) : c ∉ join separator pieces := by
  induction pieces with
  | nil => simp
  | cons piece rest ih =>
    have hpiece := h piece List.mem_cons_self
    have hrest := ih fun other hother => h other (List.mem_cons_of_mem piece hother)
    cases rest with
    | nil => exact hpiece
    | cons next others =>
      rw [join_cons_of_ne_nil _ _ (List.cons_ne_nil next others)]
      simp [hpiece, hseparator, hrest]

/-! ## Carriage returns -/

theorem dropReturn_of_getLast? {line : Text} (h : line.getLast? ≠ some '\r') :
    dropReturn line = line := by
  rw [dropReturn, if_neg h]

theorem length_dropReturn {line : Text} (h : line.getLast? = some '\r') :
    (dropReturn line).length = line.length - 1 := by
  rw [dropReturn, if_pos h, List.length_dropLast]

/-- Dropping a carriage return makes a line shorter than the tail that it ends with just when the
tail is all of it and ends with that return. -/
theorem length_dropReturn_lt_iff (piece tail : Text) :
    (dropReturn (piece ++ tail)).length < tail.length ↔
      piece = [] ∧ tail.getLast? = some '\r' := by
  by_cases hreturn : (piece ++ tail).getLast? = some '\r'
  · rw [length_dropReturn hreturn, List.length_append]
    cases htail : tail with
    | nil => simp
    | cons c rest =>
      rw [List.getLast?_append, htail, List.getLast?_cons] at hreturn
      rw [List.getLast?_cons]
      simp only [Option.some_or] at hreturn
      simp only [hreturn, and_true, List.length_cons]
      rw [← List.length_eq_zero_iff]
      omega
  · rw [dropReturn_of_getLast? hreturn, List.length_append]
    have hle : ¬ piece.length + tail.length < tail.length := by omega
    simp only [hle, false_iff, not_and]
    intro hpiece htail
    rw [hpiece, List.nil_append] at hreturn
    exact hreturn htail

/-- A tail that does not end with a carriage return stays at the end of its line. -/
theorem suffix_dropReturn (piece : Text) {tail : Text} (h : tail.getLast? ≠ some '\r') :
    tail <:+ dropReturn (piece ++ tail) := by
  cases tail with
  | nil => exact List.nil_suffix
  | cons c rest =>
    have hlast : (piece ++ c :: rest).getLast? ≠ some '\r' := by
      rw [List.getLast?_append, List.getLast?_cons, Option.some_or, ← List.getLast?_cons]
      exact h
    rw [dropReturn_of_getLast? hlast]
    exact List.suffix_append piece (c :: rest)

/-- Every carriage return stands directly before a line feed. -/
def CrClean : Text → Prop
  | [] => True
  | c :: rest => (c = '\r' → rest.head? = some '\n') ∧ CrClean rest

instance decidableCrClean : (text : Text) → Decidable (CrClean text)
  | [] => isTrue trivial
  | _ :: rest =>
      have := decidableCrClean rest
      inferInstanceAs (Decidable (_ ∧ _))

/-- A text without carriage returns is clean. -/
theorem crClean_of_not_mem {text : Text} (h : '\r' ∉ text) : CrClean text := by
  induction text with
  | nil => trivial
  | cons c rest ih =>
    rw [List.mem_cons, not_or] at h
    exact ⟨fun hc => absurd hc.symm h.1, ih h.2⟩

theorem CrClean.append {first second : Text} (h₁ : CrClean first) (h₂ : CrClean second) :
    CrClean (first ++ second) := by
  induction first with
  | nil => exact h₂
  | cons c rest ih =>
    obtain ⟨hc, hrest⟩ := h₁
    refine ⟨?_, ih hrest⟩
    intro hreturn
    change (rest ++ second).head? = some '\n'
    rw [List.head?_append, hc hreturn, Option.some_or]

theorem crlfToLf_cons {c : Char} (h : c ≠ '\r') (rest : Text) :
    crlfToLf (c :: rest) = c :: crlfToLf rest := by
  cases rest with
  | nil => rfl
  | cons d rest => rw [crlfToLf, if_neg (by simp [h])]

theorem crlfToLf_pair (rest : Text) : crlfToLf ('\r' :: '\n' :: rest) = '\n' :: crlfToLf rest := by
  rw [crlfToLf, if_pos ⟨rfl, rfl⟩]

theorem CrClean.pair {rest : Text} (h : CrClean rest) : CrClean ('\r' :: '\n' :: rest) :=
  ⟨fun _ => rfl, fun hc => absurd hc (by decide), h⟩

theorem CrClean.cons {c : Char} (hc : c ≠ '\r') {rest : Text} (h : CrClean rest) :
    CrClean (c :: rest) :=
  ⟨fun hreturn => absurd hreturn hc, h⟩

/-- Clean texts are built from carriage returns with their line feeds and from other characters. -/
theorem CrClean.induction {motive : (text : Text) → CrClean text → Prop}
    (nil : motive [] trivial)
    (pair : ∀ rest (h : CrClean rest), motive rest h → motive ('\r' :: '\n' :: rest) h.pair)
    (cons : ∀ c rest (hc : c ≠ '\r') (h : CrClean rest), motive rest h →
      motive (c :: rest) (h.cons hc)) :
    ∀ (text : Text) (h : CrClean text), motive text h
  | [], _ => nil
  | c :: rest, h => by
    by_cases hc : c = '\r'
    · subst hc
      match rest, h with
      | [], h => cases h.1 rfl
      | d :: rest, h =>
        have hd : d = '\n' := by simpa using h.1 rfl
        subst hd
        exact pair rest h.2.2 (CrClean.induction nil pair cons rest h.2.2)
    · exact cons c rest hc h.2 (CrClean.induction nil pair cons rest h.2)

theorem crlfToLf_of_not_mem {text : Text} (h : '\r' ∉ text) : crlfToLf text = text := by
  induction text with
  | nil => rfl
  | cons c rest ih =>
    rw [List.mem_cons, not_or] at h
    rw [crlfToLf_cons (Ne.symm h.1), ih h.2]

/-- A clean text does not end in half a line break, so what follows it is read on its own. -/
theorem CrClean.crlfToLf_append {first : Text} (h : CrClean first) (second : Text) :
    crlfToLf (first ++ second) = crlfToLf first ++ crlfToLf second := by
  induction first, h using CrClean.induction with
  | nil => rfl
  | pair rest _ ih =>
    rw [List.cons_append, List.cons_append, crlfToLf_pair, crlfToLf_pair, ih, List.cons_append]
  | cons c rest hc _ ih =>
    rw [List.cons_append, crlfToLf_cons hc, crlfToLf_cons hc, ih, List.cons_append]

/-- A clean text has no carriage returns left once its line breaks are line feeds. -/
theorem CrClean.return_not_mem_crlfToLf {text : Text} (h : CrClean text) :
    '\r' ∉ crlfToLf text := by
  induction text, h using CrClean.induction with
  | nil => simp [crlfToLf]
  | pair rest _ ih => simpa [crlfToLf_pair] using ih
  | cons c rest hc _ ih => simpa [crlfToLf_cons hc, Ne.symm hc] using ih

theorem dropReturn_cons {c : Char} (h : c ≠ '\r') (line : Text) :
    dropReturn (c :: line) = c :: dropReturn line := by
  cases line with
  | nil => simp [dropReturn, h]
  | cons d line =>
    unfold dropReturn
    rw [List.getLast?_cons_cons]
    split <;> rfl

theorem map_dropReturn_consHead {c : Char} (h : c ≠ '\r') (pieces : List Text) :
    (consHead c pieces).map dropReturn = consHead c (pieces.map dropReturn) := by
  cases pieces with
  | nil => rw [consHead, List.map_singleton, dropReturn_cons h]; rfl
  | cons piece pieces => rw [consHead, List.map_cons, dropReturn_cons h]; rfl

/-- The lines of a clean text are the pieces of the text with line feeds alone. -/
theorem CrClean.documentLines_eq {text : Text} (h : CrClean text) :
    documentLines text = splitOn '\n' (crlfToLf text) := by
  unfold documentLines
  induction text, h using CrClean.induction with
  | nil => rfl
  | pair rest _ ih =>
    rw [crlfToLf_pair, splitOn_cons_self, splitOn_cons_of_ne (by decide), splitOn_cons_self, ← ih]
    rfl
  | cons c rest hc _ ih =>
    rw [crlfToLf_cons hc]
    by_cases hfeed : c = '\n'
    · subst hfeed
      rw [splitOn_cons_self, splitOn_cons_self, ← ih]
      rfl
    · rw [splitOn_cons_of_ne hfeed, splitOn_cons_of_ne hfeed, map_dropReturn_consHead hc, ih]

/-- No line of a clean text holds a carriage return. -/
theorem CrClean.return_not_mem_of_mem_documentLines {text line : Text} (h : CrClean text)
    (hline : line ∈ documentLines text) : '\r' ∉ line := by
  rw [h.documentLines_eq] at hline
  exact fun hreturn => h.return_not_mem_crlfToLf (mem_of_mem_splitOn hline hreturn)

end EditPlayer.Text
