import EditPlayer.Text.Words
set_option autoImplicit false

/-!
# Longest runs of characters

A text is cut around a run of characters with some property that cannot be made longer on either
side.  Such a run is found at every column (`exists_isRun`), and takes in each character with the
property that it touches (`IsRun.le_of_getElem?`, `IsRun.lt_of_getElem?`).  The words between blanks
and the words that the cursor goes by are such runs.
-/

namespace EditPlayer.Text

/-- The text in the middle has only characters with the property, and no such character stands next
to it. -/
structure IsRun (p : Char → Bool) (before run behind : Text) : Prop where
  of_mem : ∀ c ∈ run, p c = true
  getLast_before : ∀ c ∈ before.getLast?, p c = false
  head_behind : ∀ c ∈ behind.head?, p c = false

theorem head?_dropWhile_eq_false {p : Char → Bool} {text : Text} :
    ∀ c ∈ (text.dropWhile p).head?, p c = false := by
  intro c hc
  have hstops := List.head?_dropWhile_not p text
  rw [Option.mem_def.mp hc] at hstops
  exact hstops

theorem takeWhile_append_eq {p : Char → Bool} {body rest : Text} (hbody : ∀ c ∈ body, p c = true)
    (hrest : ∀ c ∈ rest.head?, p c = false) : (body ++ rest).takeWhile p = body := by
  rw [List.takeWhile_append_of_pos hbody]
  cases rest with
  | nil => exact List.append_nil body
  | cons c rest =>
    have hstops : ¬ p c = true := by simp [hrest c rfl]
    rw [List.takeWhile_cons_of_neg hstops, List.append_nil]

/-- A text is cut at the ends of the run that touches a column. -/
theorem exists_isRun (p : Char → Bool) {line : Text} {column : Nat}
    (hcolumn : column ≤ line.length) :
    ∃ before run behind, line = before ++ run ++ behind ∧ IsRun p before run behind ∧
      before.length ≤ column ∧ column ≤ before.length + run.length := by
  have hmem {text : Text} : ∀ c ∈ text.takeWhile p, p c = true :=
    List.all_eq_true.mp List.all_takeWhile
  have hleft : line.take column =
      ((line.take column).reverse.dropWhile p).reverse ++
        ((line.take column).reverse.takeWhile p).reverse := by
    rw [← List.reverse_append, List.takeWhile_append_dropWhile, List.reverse_reverse]
  have hright := List.takeWhile_append_dropWhile (p := p) (l := line.drop column)
  have hlength := congrArg List.length hleft
  rw [List.length_append, List.length_take, Nat.min_eq_left hcolumn] at hlength
  refine ⟨((line.take column).reverse.dropWhile p).reverse,
    ((line.take column).reverse.takeWhile p).reverse ++ (line.drop column).takeWhile p,
    (line.drop column).dropWhile p, ?_, ⟨?_, ?_, head?_dropWhile_eq_false⟩, ?_, ?_⟩
  · rw [← List.append_assoc, ← hleft, List.append_assoc, hright, List.take_append_drop]
  · intro c hc
    rcases List.mem_append.mp hc with hc | hc
    · exact hmem c (List.mem_reverse.mp hc)
    · exact hmem c hc
  · rw [List.getLast?_reverse]
    exact head?_dropWhile_eq_false
  · omega
  · rw [List.length_append]
    omega

/-- A text ends with a run, which may be empty. -/
theorem exists_isRun_end (p : Char → Bool) (text : Text) :
    ∃ before run, text = before ++ run ∧ IsRun p before run [] := by
  obtain ⟨before, run, behind, htext, hrun, -, hlast⟩ := exists_isRun p (Nat.le_refl text.length)
  have hlength := congrArg List.length htext
  rw [List.length_append, List.length_append] at hlength
  obtain rfl : behind = [] := List.eq_nil_of_length_eq_zero (by omega)
  rw [List.append_nil] at htext
  exact ⟨before, run, htext, hrun⟩

namespace IsRun

variable {p : Char → Bool} {before run behind : Text} (h : IsRun p before run behind)

include h

/-- A character with the property that the run begins behind belongs to it. -/
theorem le_of_getElem? {n : Nat} {c : Char} (hn : before.length ≤ n + 1)
    (hc : (before ++ run ++ behind)[n]? = some c) (hp : p c = true) : before.length ≤ n := by
  apply Nat.le_of_not_lt
  intro hlt
  have hlast : before.getLast? = some c := by
    rw [List.append_assoc, List.getElem?_append_left hlt] at hc
    rw [List.getLast?_eq_getElem?, ← hc]
    congr 1
    omega
  have hstops := h.getLast_before c hlast
  rw [hp] at hstops
  cases hstops

/-- A character with the property that the run ends before belongs to it. -/
theorem lt_of_getElem? {n : Nat} {c : Char} (hn : n ≤ before.length + run.length)
    (hc : (before ++ run ++ behind)[n]? = some c) (hp : p c = true) :
    n < before.length + run.length := by
  apply Nat.lt_of_le_of_ne hn
  intro heq
  have hfirst : behind.head? = some c := by
    rw [heq, ← List.length_append, List.getElem?_append_right (Nat.le_refl _), Nat.sub_self] at hc
    rw [List.head?_eq_getElem?, hc]
  have hstops := h.head_behind c hfirst
  rw [hp] at hstops
  cases hstops

end IsRun

theorem getElem?_append_run (before : Text) {run : Text} (behind : Text) {n : Nat}
    (hn : n < run.length) : (before ++ run ++ behind)[before.length + n]? = run[n]? := by
  rw [List.append_assoc, List.getElem?_append_right (Nat.le_add_right _ _),
    Nat.add_sub_cancel_left, List.getElem?_append_left hn]

end EditPlayer.Text
