import EditPlayer.Document.Basic
import EditPlayer.Proofs.Runs
set_option autoImplicit false

/-!
# The word that touches a column

A line is cut into what stands before a word, the word, and what stands behind it.  From each column
between the two cuts the search to the left and the search to the right come to the same ends, so
the whole word has one range (`wordRangeAt_eq_of_touches`), its first and its last position
included.  The range is the longest run of characters of words around the column, and there is one
just when such a character stands next to the column (`wordRangeAt_longest`).
-/

namespace EditPlayer.Document

/-- The text in the middle has only characters of words, and no such character stands next to it. -/
structure IsWord (before word behind : Text) : Prop where
  isWordChar_of_mem : ∀ c ∈ word, isWordChar c = true
  getLast_before : ∀ c ∈ before.getLast?, isWordChar c = false
  head_behind : ∀ c ∈ behind.head?, isWordChar c = false

theorem IsWord.isRun {before word behind : Text} (h : IsWord before word behind) :
    Text.IsRun isWordChar before word behind :=
  ⟨h.isWordChar_of_mem, h.getLast_before, h.head_behind⟩

/-- The same word is found from each column that it touches. -/
theorem IsWord.wordColumns_eq {before word behind : Text} (h : IsWord before word behind)
    {column : Nat} (hfirst : before.length ≤ column)
    (hlast : column ≤ before.length + word.length) :
    wordColumns (before ++ word ++ behind) column =
      (before.length, before.length + word.length) := by
  obtain ⟨inside, rfl⟩ := Nat.exists_eq_add_of_le hfirst
  have hinside : inside ≤ word.length := by omega
  have htake : (before ++ word ++ behind).take (before.length + inside) =
      before ++ word.take inside := by
    rw [List.append_assoc, List.take_length_add_append, List.take_append_of_le_length hinside]
  have hdrop : (before ++ word ++ behind).drop (before.length + inside) =
      word.drop inside ++ behind := by
    rw [List.append_assoc, List.drop_length_add_append, List.drop_append_of_le_length hinside]
  have hleft : ((before ++ word.take inside).reverse.takeWhile isWordChar).length = inside := by
    rw [List.reverse_append, Text.takeWhile_append_eq]
    · rw [List.length_reverse, List.length_take, Nat.min_eq_left hinside]
    · exact fun c hc =>
        h.isWordChar_of_mem c (List.mem_of_mem_take (List.mem_reverse.mp hc))
    · rw [List.head?_reverse]
      exact h.getLast_before
  have hright : ((word.drop inside ++ behind).takeWhile isWordChar).length =
      word.length - inside := by
    rw [Text.takeWhile_append_eq (fun c hc => h.isWordChar_of_mem c (List.mem_of_mem_drop hc))
      h.head_behind, List.length_drop]
  rw [wordColumns, htake, hdrop, hleft, hright, Nat.add_sub_cancel]
  exact congrArg _ (by omega)

/-- A line is cut at the ends of the word that touches a column. -/
theorem exists_isWord {line : Text} {column : Nat} (hcolumn : column ≤ line.length) :
    ∃ before word behind, line = before ++ word ++ behind ∧ IsWord before word behind ∧
      before.length ≤ column ∧ column ≤ before.length + word.length := by
  obtain ⟨before, word, behind, hline, hrun, htouches⟩ := Text.exists_isRun isWordChar hcolumn
  exact ⟨before, word, behind, hline,
    ⟨hrun.of_mem, hrun.getLast_before, hrun.head_behind⟩, htouches⟩

/-- The same range is found from each column that a word touches, and none if the word is empty. -/
theorem IsWord.wordRangeAt_eq {document : Document} {n column : Nat} {before word behind : Text}
    (h : IsWord before word behind) (hline : document.lines[n]? = some (before ++ word ++ behind))
    (hfirst : before.length ≤ min column (before ++ word ++ behind).length)
    (hlast : min column (before ++ word ++ behind).length ≤ before.length + word.length) :
    document.wordRangeAt ⟨n, column⟩ =
      if word = [] then none
      else some ⟨⟨n, before.length⟩, ⟨n, before.length + word.length⟩⟩ := by
  rw [wordRangeAt, hline]
  dsimp only
  rw [h.wordColumns_eq hfirst hlast]
  cases word with
  | nil => exact if_neg (Nat.lt_irrefl _)
  | cons c word => exact if_pos (Nat.lt_add_of_pos_right (Nat.succ_pos _))

/-- A word lies on the line of the position, and does not end before it begins. -/
theorem wordRangeAt_line {document : Document} {p : Position} {range : Range}
    (h : document.wordRangeAt p = some range) :
    range.start.line = p.line ∧ range.stop.line = p.line ∧
      range.start.column ≤ range.stop.column := by
  unfold wordRangeAt at h
  split at h
  · cases h
  · dsimp only at h
    split at h
    · rename_i hlt
      cases h
      exact ⟨rfl, rfl, Nat.le_of_lt hlt⟩
    · cases h

/-- Each position that a word touches has the range of that word. -/
theorem wordRangeAt_eq_of_touches {document : Document} {p q : Position} {range : Range}
    (h : document.wordRangeAt p = some range) (hline : q.line = p.line)
    (hfirst : range.start.column ≤ q.column) (hlast : q.column ≤ range.stop.column) :
    document.wordRangeAt q = some range := by
  obtain ⟨n, column⟩ := p
  obtain ⟨n', column'⟩ := q
  obtain rfl : n' = n := hline
  cases hlookup : document.lines[n']? with
  | none =>
    rw [wordRangeAt, hlookup] at h
    cases h
  | some line =>
    obtain ⟨before, word, behind, rfl, hword, hstart, hstop⟩ :=
      exists_isWord (Nat.min_le_right column line.length)
    rw [hword.wordRangeAt_eq hlookup hstart hstop] at h
    split at h
    · cases h
    · rename_i hne
      cases h
      have hcolumn : min column' (before ++ word ++ behind).length = column' := by
        rw [List.length_append, List.length_append]
        dsimp only at hlast
        omega
      rw [hword.wordRangeAt_eq hlookup (hcolumn.symm ▸ hfirst) (hcolumn.symm ▸ hlast), if_neg hne]

/-- The ends of a word have its range. -/
theorem wordRangeAt_wordEdge {document : Document} {edge : Range → Position}
    (hedge : ∀ range, edge range = range.start ∨ edge range = range.stop) {p : Position}
    {range : Range} (h : document.wordRangeAt p = some range) :
    document.wordRangeAt (edge range) = some range := by
  obtain ⟨hstart, hstop, hle⟩ := wordRangeAt_line h
  rcases hedge range with heq | heq
  · rw [heq]
    exact wordRangeAt_eq_of_touches h hstart (Nat.le_refl _) hle
  · rw [heq]
    exact wordRangeAt_eq_of_touches h hstop hle (Nat.le_refl _)

/-! ## Longest words -/

/-- A longest run of characters of words stands in a line from one column up to another. -/
structure WordSpan (text : Text) (start stop : Nat) : Prop where
  lt : start < stop
  inside : ∀ n, start ≤ n → n < stop → ∃ c, text[n]? = some c ∧ isWordChar c = true
  before : ∀ n c, n + 1 = start → text[n]? = some c → isWordChar c = false
  behind : ∀ c, text[stop]? = some c → isWordChar c = false

theorem IsWord.wordSpan {before word behind : Text} (h : IsWord before word behind)
    (hne : word ≠ []) :
    WordSpan (before ++ word ++ behind) before.length (before.length + word.length) where
  lt := Nat.lt_add_of_pos_right (List.length_pos_iff.mpr hne)
  inside := by
    intro n hfirst hlast
    obtain ⟨i, rfl⟩ := Nat.exists_eq_add_of_le hfirst
    have hi : i < word.length := by omega
    rw [Text.getElem?_append_run before behind hi]
    exact ⟨word[i], List.getElem?_eq_getElem hi,
      h.isWordChar_of_mem _ (List.getElem_mem hi)⟩
  before := by
    intro n c hn hc
    rw [← Bool.not_eq_true]
    intro hchar
    have hle := h.isRun.le_of_getElem? (Nat.le_of_eq hn.symm) hc hchar
    omega
  behind := by
    intro c hc
    rw [← Bool.not_eq_true]
    intro hchar
    exact Nat.lt_irrefl _ (h.isRun.lt_of_getElem? (Nat.le_refl _) hc hchar)

/-- A column touches a word just when a character of words stands before it or at it. -/
theorem IsWord.ne_nil_iff {before word behind : Text} (h : IsWord before word behind)
    {column : Nat} (hfirst : before.length ≤ column)
    (hlast : column ≤ before.length + word.length) :
    word ≠ [] ↔ ∃ n c, (n + 1 = column ∨ n = column) ∧
      (before ++ word ++ behind)[n]? = some c ∧ isWordChar c = true := by
  constructor
  · intro hne
    have hspan := h.wordSpan hne
    have hlt := hspan.lt
    rcases Nat.lt_or_eq_of_le hfirst with hinside | heq
    · obtain ⟨c, hc, hchar⟩ := hspan.inside (column - 1) (by omega) (by omega)
      exact ⟨column - 1, c, .inl (by omega), hc, hchar⟩
    · obtain ⟨c, hc, hchar⟩ := hspan.inside column hfirst (by omega)
      exact ⟨column, c, .inr rfl, hc, hchar⟩
  · rintro ⟨n, c, hn, hc, hchar⟩
    have hle := h.isRun.le_of_getElem? (by omega) hc hchar
    have hlt := h.isRun.lt_of_getElem? (by omega) hc hchar
    rw [← List.length_pos_iff]
    omega

/-- There is a word at a position just when a character of words stands before or at its column,
which is the end of the line if the line is shorter.  The word is the longest one around that
column, and every column that it touches has the same word. -/
theorem wordRangeAt_longest (document : Document) (p : Position) {text : Text}
    (hline : document.lines[p.line]? = some text) :
    ((document.wordRangeAt p).isSome = true ↔
        ∃ n c, (n + 1 = min p.column text.length ∨ n = min p.column text.length) ∧
          text[n]? = some c ∧ isWordChar c = true) ∧
      ∀ range, document.wordRangeAt p = some range →
        ∃ start stop, range = ⟨⟨p.line, start⟩, ⟨p.line, stop⟩⟩ ∧
          start ≤ min p.column text.length ∧ min p.column text.length ≤ stop ∧
          WordSpan text start stop ∧
          ∀ column, start ≤ column → column ≤ stop →
            document.wordRangeAt ⟨p.line, column⟩ = some range := by
  obtain ⟨before, word, behind, rfl, hword, hfirst, hlast⟩ :=
    exists_isWord (Nat.min_le_right p.column text.length)
  have hfound := hword.wordRangeAt_eq hline hfirst hlast
  refine ⟨?_, fun range hrange => ?_⟩
  · rw [← hword.ne_nil_iff hfirst hlast]
    change (document.wordRangeAt ⟨p.line, p.column⟩).isSome = true ↔ _
    rw [hfound]
    cases word with
    | nil => simp
    | cons c word => simp
  · have htouches {column : Nat} := wordRangeAt_eq_of_touches (q := ⟨p.line, column⟩) hrange rfl
    change document.wordRangeAt ⟨p.line, p.column⟩ = some range at hrange
    rw [hfound] at hrange
    split at hrange
    · cases hrange
    · rename_i hne
      cases hrange
      exact ⟨before.length, before.length + word.length, rfl, hfirst, hlast, hword.wordSpan hne,
        fun column => htouches⟩

/-- A column behind the end of the line touches the word that ends it. -/
theorem wordRangeAt_longest_behindLine :
    (ofText ['n', 'é', '_', '1', ',', 'x']).wordRangeAt ⟨0, 99⟩ = some ⟨⟨0, 5⟩, ⟨0, 6⟩⟩ ∧
      WordSpan ['n', 'é', '_', '1', ',', 'x'] 5 6 ∧
      (ofText ['n', 'é', '_', '1', ',', 'x']).wordRangeAt ⟨0, 5⟩ = some ⟨⟨0, 5⟩, ⟨0, 6⟩⟩ := by
  have hfound : (ofText ['n', 'é', '_', '1', ',', 'x']).wordRangeAt ⟨0, 99⟩ =
      some ⟨⟨0, 5⟩, ⟨0, 6⟩⟩ := by decide
  have hline : (ofText ['n', 'é', '_', '1', ',', 'x']).lines[0]? =
      some ['n', 'é', '_', '1', ',', 'x'] := rfl
  obtain ⟨-, hlongest⟩ := wordRangeAt_longest _ ⟨0, 99⟩ hline
  obtain ⟨start, stop, hrange, -, -, hspan, htouches⟩ := hlongest _ hfound
  cases hrange
  exact ⟨hfound, hspan, htouches 5 (by decide) (by decide)⟩

end EditPlayer.Document
