import EditPlayer.Proofs.Comments
set_option autoImplicit false

/-!
# Which slashes begin a comment

A comment begins at the first pair of slashes that is not in brackets.  The rule is stated here on
the text alone (`StripsAt`), for any notion of being outside of brackets, and two such notions are
compared.  Counting all brackets, every opening bracket outside of brackets opens them, and the next
closing bracket closes them.  Counting the first ones, only the first opening bracket does so, and
what stands behind the bracket that closes it is outside.

Stripping a line follows the second notion.  `stripComment_strips` says this, and that it follows
the first notion as well just when the slashes at which it cuts are outside of all brackets.
-/

namespace EditPlayer.Script

/-! ## The rule -/

/-- `before` is what stands in front of the first pair of slashes that is outside, judged by the
text in front of a pair. -/
structure FirstMark (Outside : Text → Prop) (line before : Text) : Prop where
  mark : ∃ rest, line = before ++ '/' :: '/' :: rest
  outside : Outside before
  first : ∀ earlier rest, line = earlier ++ '/' :: '/' :: rest →
    earlier.length < before.length → ¬ Outside earlier

/-- The line is cut at the first pair of slashes that is outside, and its end is trimmed there; it
stays as it is if no pair is outside. -/
inductive StripsAt (Outside : Text → Prop) (line : Text) : Text → Prop where
  | cut {before : Text} (h : FirstMark Outside line before) : StripsAt Outside line before.trimEnd
  | whole (h : ∀ before rest, line = before ++ '/' :: '/' :: rest → ¬ Outside before) :
      StripsAt Outside line line

/-- Whether brackets are open behind a character: outside of brackets an opening bracket opens them,
and the next closing one closes them. -/
def opensNext (isOpen : Bool) (c : Char) : Bool := if isOpen then c != ']' else c == '['

/-- What stands behind the text is outside of all brackets. -/
def OutsideAll (before : Text) : Prop := before.foldl opensNext false = false

instance (before : Text) : Decidable (OutsideAll before) :=
  inferInstanceAs (Decidable (_ = _))

/-- What stands behind the text is outside of the first brackets: the first opening bracket, if
there is any, is followed by a closing one. -/
def OutsideFirst (before : Text) : Prop :=
  ¬ ∃ left right, before = left ++ '[' :: right ∧ '[' ∉ left ∧ ']' ∉ right

/-! ## Marks -/

/-- A pair of slashes is the first one outside if it stands at the start of the line, or else if it
is the first one outside in the rest of the line. -/
theorem firstMark_cons {Outside : Text → Prop} {c : Char} {text before : Text} :
    FirstMark Outside (c :: text) before ↔
      (c = '/' ∧ text.head? = some '/' ∧ Outside []) ∧ before = [] ∨
        ¬ (c = '/' ∧ text.head? = some '/' ∧ Outside []) ∧
          ∃ later, before = c :: later ∧ FirstMark (fun t => Outside (c :: t)) text later := by
  constructor
  · rintro ⟨⟨rest, hmark⟩, houtside, hfirst⟩
    cases before with
    | nil =>
      obtain ⟨rfl, rfl⟩ := List.cons.inj hmark
      exact .inl ⟨⟨rfl, rfl, houtside⟩, rfl⟩
    | cons d later =>
      obtain ⟨rfl, rfl⟩ := List.cons.inj hmark
      refine .inr ⟨?_, later, rfl, ⟨rest, rfl⟩, houtside, ?_⟩
      · rintro ⟨rfl, hhead, hempty⟩
        obtain ⟨behind, hbehind⟩ := List.head?_eq_some_iff.mp hhead
        exact hfirst [] behind (by rw [hbehind]; rfl) (by simp) hempty
      · intro earlier behind hearlier hlt
        exact hfirst (c :: earlier) behind (by rw [hearlier]; rfl) (by simpa using hlt)
  · rintro (⟨⟨rfl, hhead, hempty⟩, rfl⟩ | ⟨hnone, later, rfl, ⟨rest, rfl⟩, houtside, hfirst⟩)
    · obtain ⟨rest, rfl⟩ := List.head?_eq_some_iff.mp hhead
      exact ⟨⟨rest, rfl⟩, hempty, fun _ _ _ hlt => absurd hlt (Nat.not_lt_zero _)⟩
    · refine ⟨⟨rest, rfl⟩, houtside, ?_⟩
      intro earlier behind hearlier hlt hout
      cases earlier with
      | nil =>
        obtain ⟨rfl, hrest⟩ := List.cons.inj hearlier
        exact hnone ⟨rfl, by rw [hrest]; rfl, hout⟩
      | cons d earlier =>
        obtain ⟨rfl, hrest⟩ := List.cons.inj hearlier
        exact hfirst earlier behind hrest (by simpa using hlt) hout

/-- The search finds the first pair of slashes that is not inside the first brackets. -/
theorem beforeComment?_eq_some_iff {span : Span} {text before : Text} :
    beforeComment? span text = some before ↔
      FirstMark (fun t => span.over t ≠ .inside) text before := by
  induction text generalizing span before with
  | nil =>
    constructor
    · intro h
      cases h
    · rintro ⟨⟨rest, hmark⟩, -, -⟩
      simp at hmark
  | cons c text ih =>
    rw [beforeComment?_cons, firstMark_cons, Span.over_nil]
    split
    · rename_i hmark
      simp [hmark, eq_comm]
    · rename_i hmark
      rw [Option.map_eq_some_iff]
      simp only [ih, hmark, false_and, false_or, not_false_eq_true, true_and, Span.over_cons]
      exact exists_congr fun later => and_comm.trans (and_congr_left' eq_comm)

/-! ## Brackets -/

/-- The search knows that it is inside the first brackets by what stands in front of it. -/
theorem over_ne_inside_iff (before : Text) :
    Span.before.over before ≠ .inside ↔ OutsideFirst before := by
  refine not_congr ⟨fun h => ?_, ?_⟩
  · have hopen : '[' ∈ before := by
      refine Decidable.byContradiction fun hnone => ?_
      rw [Span.before_over hnone] at h
      cases h
    obtain ⟨left, right, rfl, hleft⟩ := List.eq_append_cons_of_mem hopen
    refine ⟨left, right, rfl, hleft, ?_⟩
    rw [Span.over_append, Span.before_over hleft, Span.over_cons] at h
    exact Span.inside_over_iff.mp h
  · rintro ⟨left, right, rfl, hleft, hright⟩
    rw [Span.over_append, Span.before_over hleft, Span.over_cons]
    exact Span.inside_over_iff.mpr hright

/-- Brackets stay open up to a closing bracket, and shut up to an opening one. -/
theorem foldl_opensNext {isOpen : Bool} {text : Text}
    (h : (if isOpen then ']' else '[') ∉ text) : text.foldl opensNext isOpen = isOpen := by
  induction text with
  | nil => rfl
  | cons c text ih =>
    rw [List.mem_cons, not_or] at h
    have hc : opensNext isOpen c = isOpen := by
      cases isOpen
      · simpa [opensNext] using Ne.symm h.1
      · simpa [opensNext] using Ne.symm h.1
    rw [List.foldl_cons, hc, ih h.2]

/-- Inside the first brackets some brackets are open. -/
theorem outsideFirst_of_outsideAll {before : Text} (h : OutsideAll before) :
    OutsideFirst before := by
  rintro ⟨left, right, rfl, hleft, hright⟩
  have hshut : left.foldl opensNext false = false := foldl_opensNext hleft
  have hopen : right.foldl opensNext true = true := foldl_opensNext hright
  rw [OutsideAll, List.foldl_append, hshut, List.foldl_cons] at h
  cases hopen.symm.trans h

/-! ## Stripping -/

theorem FirstMark.eq {Outside : Text → Prop} {line first second : Text}
    (h₁ : FirstMark Outside line first) (h₂ : FirstMark Outside line second) : first = second := by
  obtain ⟨rest₁, hline₁⟩ := h₁.mark
  obtain ⟨rest₂, hline₂⟩ := h₂.mark
  have hlength : first.length = second.length := by
    refine Nat.le_antisymm (Nat.not_lt.mp fun hlt => ?_) (Nat.not_lt.mp fun hlt => ?_)
    · exact h₁.first second rest₂ hline₂ hlt h₂.outside
    · exact h₂.first first rest₁ hline₁ hlt h₁.outside
  exact (List.append_inj (hline₁.symm.trans hline₂) hlength).1

/-- What a line is stripped to, if it is cut. -/
theorem StripsAt.eq_trimEnd {Outside : Text → Prop} {line before stripped : Text}
    (h : StripsAt Outside line stripped) (hmark : FirstMark Outside line before) :
    stripped = before.trimEnd := by
  cases h with
  | cut hcut => rw [hcut.eq hmark]
  | whole hnone =>
    obtain ⟨rest, hline⟩ := hmark.mark
    exact absurd hmark.outside (hnone before rest hline)

/-- Trimming the end of a line leaves more of it than stands in front of a slash. -/
theorem length_lt_trimEnd {before line : Text} (h : before ++ ['/'] <+: line) :
    before.length < line.trimEnd.length := by
  obtain ⟨rest, rfl⟩ := h
  rw [List.append_assoc, List.singleton_append, Text.trimEnd,
    Text.trimEndWhere_append_cons before (by decide), List.length_append, List.length_cons]
  omega

/-- Stripping follows the rule for the first brackets. -/
theorem stripsAt_outsideFirst (line : Text) : StripsAt OutsideFirst line (stripComment line) := by
  have hrule : (fun t => Span.before.over t ≠ .inside) = OutsideFirst :=
    funext fun t => propext (over_ne_inside_iff t)
  rw [stripComment_eq]
  split
  · rename_i before hfound
    exact .cut (hrule ▸ beforeComment?_eq_some_iff.mp hfound)
  · rename_i hnone
    refine .whole fun before rest hline => ?_
    rw [← over_ne_inside_iff]
    exact not_not_intro (beforeComment?_eq_none_iff.mp hnone before rest hline)

/-- If the rule for all brackets leaves as much of a line as the rule for the first brackets, then
no brackets are open where the latter cuts. -/
theorem FirstMark.outsideAll {line before : Text} (hmark : FirstMark OutsideFirst line before)
    (h : StripsAt OutsideAll line before.trimEnd) : OutsideAll before := by
  obtain ⟨rest, hline⟩ := hmark.mark
  have hslash : before ++ ['/'] <+: line := ⟨'/' :: rest, by rw [hline]; simp⟩
  have hshort : before.trimEnd.length ≤ before.length := Text.length_trimEndWhere_le _ _
  generalize before.trimEnd = stripped at h hshort
  -- What the rule for all brackets leaves is longer, unless it cuts at the same slashes.
  cases h with
  | @cut other hother =>
    obtain ⟨behind, hbehind⟩ := hother.mark
    have hle : before.length ≤ other.length := by
      refine Nat.not_lt.mp fun hlt => ?_
      exact hmark.first other behind hbehind hlt (outsideFirst_of_outsideAll hother.outside)
    rcases Nat.lt_or_eq_of_le hle with hlt | heq
    · have hlength : (before ++ ['/']).length ≤ other.length := by
        rw [List.length_append]
        exact hlt
      have hprefix : before ++ ['/'] <+: other :=
        List.prefix_of_prefix_length_le hslash ⟨_, hbehind.symm⟩ hlength
      have hlong := length_lt_trimEnd hprefix
      omega
    · rw [(List.append_inj (hline.symm.trans hbehind) heq).1]
      exact hother.outside
  | whole _ =>
    have hlong := hslash.length_le
    rw [List.length_append, List.length_singleton] at hlong
    omega

/-- The rule for the first brackets is the rule for all brackets on a line that it does not cut
inside of brackets. -/
theorem StripsAt.outsideAll {line stripped : Text} (hrule : StripsAt OutsideFirst line stripped)
    (h : ∀ before, FirstMark OutsideFirst line before → OutsideAll before) :
    StripsAt OutsideAll line stripped := by
  cases hrule with
  | @cut before hmark =>
    refine .cut ⟨hmark.mark, h before hmark, fun earlier rest hline hlt hall => ?_⟩
    exact hmark.first earlier rest hline hlt (outsideFirst_of_outsideAll hall)
  | whole hnone =>
    refine .whole fun before rest hline hall => ?_
    exact hnone before rest hline (outsideFirst_of_outsideAll hall)

/-- A line is cut at the first pair of slashes that is outside of the first brackets, and it is
left whole if there is none.  This is the first pair outside of all brackets, or there is none
either, just when no later brackets are open at the cut. -/
theorem stripComment_strips (line : Text) :
    StripsAt OutsideFirst line (stripComment line) ∧
      (StripsAt OutsideAll line (stripComment line) ↔
        ∀ before, FirstMark OutsideFirst line before → OutsideAll before) := by
  have hrule := stripsAt_outsideFirst line
  refine ⟨hrule, fun h before hmark => ?_, hrule.outsideAll⟩
  rw [hrule.eq_trimEnd hmark] at h
  exact hmark.outsideAll h

-- The slashes are in the second brackets, and still the line is cut there.
example :
    ¬ OutsideAll "move match-in-line-forward [a] [b ".toList ∧
      stripComment "move match-in-line-forward [a] [b // c]".toList =
        "move match-in-line-forward [a] [b".toList := by
  decide

end EditPlayer.Script
