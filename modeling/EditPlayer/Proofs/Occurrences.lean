import EditPlayer.Text.Search
set_option autoImplicit false

/-!
# Occurrences that are found

Whatever a search finds is an occurrence of the pattern: `occursAt_of_nthOccurrence?`.  So the
pattern ends within the text.  And a search for the `n`-th occurrence finds one wherever the pattern
has been written `n` times in a row (`nthOccurrence?_replicate`).
-/

namespace EditPlayer.Text

variable {pattern text : Text} {column : Nat}

/-! ## What is found occurs -/

/-- An occurrence ends within the text. -/
theorem OccursAt.add_length_le (h : OccursAt pattern text column) :
    column + pattern.length ≤ text.length := by
  obtain ⟨hcolumn, hstarts⟩ := h
  have hlength := hstarts.length_le
  rw [List.length_drop] at hlength
  omega

theorem occursAt_zero (h : pattern.isPrefixOf text = true) : OccursAt pattern text 0 :=
  ⟨Nat.zero_le _, List.isPrefixOf_iff_prefix.mp h⟩

theorem OccursAt.succ {c : Char} (h : OccursAt pattern text column) :
    OccursAt pattern (c :: text) (column + 1) :=
  ⟨Nat.succ_le_succ h.1, h.2⟩

/-- An occurrence behind the first `n` characters. -/
theorem OccursAt.of_drop {n : Nat} (hn : n ≤ text.length)
    (h : OccursAt pattern (text.drop n) column) : OccursAt pattern text (column + n) := by
  obtain ⟨hcolumn, hstarts⟩ := h
  rw [List.length_drop] at hcolumn
  rw [List.drop_drop, Nat.add_comm] at hstarts
  exact ⟨by omega, hstarts⟩

/-- An occurrence among the first `n` characters. -/
theorem OccursAt.of_take {n : Nat} (h : OccursAt pattern (text.take n) column) :
    OccursAt pattern text column := by
  obtain ⟨hcolumn, hstarts⟩ := h
  rw [List.length_take] at hcolumn
  rw [List.drop_take] at hstarts
  exact ⟨by omega, hstarts.trans (List.take_prefix _ _)⟩

theorem occursAt_of_find? (h : find? pattern text = some column) :
    OccursAt pattern text column := by
  induction text generalizing column with
  | nil =>
    rw [find?] at h
    split at h
    · rename_i hstarts
      cases h
      exact occursAt_zero hstarts
    · cases h
  | cons c rest ih =>
    rw [find?] at h
    split at h
    · rename_i hstarts
      cases h
      exact occursAt_zero hstarts
    · obtain ⟨later, hlater, rfl⟩ := Option.map_eq_some_iff.mp h
      exact (ih hlater).succ

theorem occursAt_of_findLast? (h : findLast? pattern text = some column) :
    OccursAt pattern text column := by
  induction text generalizing column with
  | nil =>
    rw [findLast?] at h
    split at h
    · rename_i hstarts
      cases h
      exact occursAt_zero hstarts
    · cases h
  | cons c rest ih =>
    rw [findLast?] at h
    split at h
    · rename_i later hlater
      cases h
      exact (ih hlater).succ
    · split at h
      · rename_i hstarts
        cases h
        exact occursAt_zero hstarts
      · cases h

theorem occursAt_of_findAfter? {skipped : Nat} (h : findAfter? pattern skipped text = some column) :
    OccursAt pattern text column := by
  induction skipped generalizing text column with
  | zero => exact occursAt_of_find? h
  | succ skipped ih =>
    rw [findAfter?] at h
    split at h
    · cases h
    · rename_i first hfirst
      obtain ⟨later, hlater, rfl⟩ := Option.map_eq_some_iff.mp h
      exact (ih hlater).of_drop (occursAt_of_find? hfirst).add_length_le

theorem occursAt_of_findBefore? {skipped : Nat}
    (h : findBefore? pattern skipped text = some column) : OccursAt pattern text column := by
  induction skipped generalizing text column with
  | zero => exact occursAt_of_findLast? h
  | succ skipped ih =>
    rw [findBefore?] at h
    split at h
    · cases h
    · exact (ih h).of_take

/-- What a search finds, in either direction, is an occurrence of the pattern. -/
theorem occursAt_of_nthOccurrence? {n : Nat} {course : Course}
    (h : nthOccurrence? pattern text n course = some column) : OccursAt pattern text column := by
  cases course with
  | forward => exact occursAt_of_findAfter? h
  | backward => exact occursAt_of_findBefore? h

/-! ## Patterns in a row -/

theorem find?_append_left (pattern rest : Text) : find? pattern (pattern ++ rest) = some 0 := by
  have hstarts : pattern.isPrefixOf (pattern ++ rest) = true :=
    List.isPrefixOf_iff_prefix.mpr (List.prefix_append pattern rest)
  cases htext : pattern ++ rest with
  | nil => rw [find?, if_pos (htext ▸ hstarts)]
  | cons c others => rw [find?, if_pos (htext ▸ hstarts)]

/-- A pattern that is not empty occurs last at the end of a text that ends with it. -/
theorem findLast?_append_right (hpattern : pattern ≠ []) (before : Text) :
    findLast? pattern (before ++ pattern) = some before.length := by
  induction before with
  | nil =>
    cases hshape : pattern with
    | nil => exact absurd hshape hpattern
    | cons c others =>
      -- The pattern cannot occur in its own rest, which is shorter.
      have hnone : findLast? (c :: others) others = none := by
        cases hlast : findLast? (c :: others) others with
        | none => rfl
        | some column =>
          have hle := (occursAt_of_findLast? hlast).add_length_le
          rw [List.length_cons] at hle
          omega
      have hstarts : (c :: others).isPrefixOf (c :: others) = true :=
        List.isPrefixOf_iff_prefix.mpr List.prefix_rfl
      rw [List.nil_append, findLast?, hnone]
      exact if_pos hstarts
  | cons c before ih => rw [List.cons_append, findLast?, ih, List.length_cons]

theorem findAfter?_replicate (pattern : Text) (skipped : Nat) :
    (findAfter? pattern skipped (List.replicate (skipped + 1) pattern).flatten).isSome = true := by
  induction skipped with
  | zero =>
    have hfirst := find?_append_left pattern []
    rw [List.append_nil] at hfirst
    simp [findAfter?, hfirst]
  | succ skipped ih =>
    rw [List.replicate_succ, List.flatten_cons, findAfter?, find?_append_left]
    simp only [Nat.zero_add, List.drop_left, Option.isSome_map]
    exact ih

theorem findBefore?_replicate (hpattern : pattern ≠ []) (skipped : Nat) :
    (findBefore? pattern skipped (List.replicate (skipped + 1) pattern).flatten).isSome = true := by
  induction skipped with
  | zero =>
    have hlast := findLast?_append_right hpattern []
    rw [List.nil_append] at hlast
    simp [findBefore?, hlast]
  | succ skipped ih =>
    rw [List.replicate_succ', List.flatten_append, List.flatten_singleton, findBefore?,
      findLast?_append_right hpattern]
    simp only [List.take_left]
    exact ih

/-- A pattern that is written `n` times in a row has an `n`-th occurrence in either direction. -/
theorem nthOccurrence?_replicate (hpattern : pattern ≠ []) {n : Nat} (hn : 1 ≤ n)
    (course : Course) :
    (nthOccurrence? pattern (List.replicate n pattern).flatten n course).isSome = true := by
  obtain ⟨skipped, rfl⟩ := Nat.exists_eq_add_of_le' hn
  cases course with
  | forward => exact findAfter?_replicate pattern skipped
  | backward => exact findBefore?_replicate hpattern skipped

end EditPlayer.Text
