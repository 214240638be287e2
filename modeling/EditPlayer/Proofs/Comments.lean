import EditPlayer.Script.Line
set_option autoImplicit false

/-!
# Where a line ends and its comment begins

The search for a comment can be made in one pass through a line from the left, which only has to
know where it stands to the first brackets (`beforeComment?`).  It looks at every pair of slashes,
and finds the same as a search that leaves out the pairs which overlap one that it has seen
(`stripComment_eq`): inside the brackets such a pair is inside as well.

So the search can be followed piece by piece: a comment that is found in a piece is found whatever
follows (`beforeComment?_append_of_some`), and if there is none the search goes on behind the piece
from the place that the piece leads to (`beforeComment?_append_of_none`).

A pair of slashes in brackets is found if it follows a closing bracket in them
(`beforeComment?_inside_eq_none_iff`).  White space around a line and a comment behind it do not
change what the line says (`body_surrounded`).
-/

namespace EditPlayer

/-! ## Trimming -/

namespace Text

/-- What is trimmed anyway makes no difference at the end. -/
theorem trimEndWhere_append_of_forall {p : Char → Bool} (text : Text) {tail : Text}
    (h : ∀ c ∈ tail, p c = true) : trimEndWhere p (text ++ tail) = trimEndWhere p text := by
  rw [trimEndWhere, trimEndWhere, List.reverse_append, List.dropWhile_append_of_pos]
  intro c hc
  exact h c (List.mem_reverse.mp hc)

/-- Trimming the end stops at a character that stays. -/
theorem trimEndWhere_append_cons {p : Char → Bool} (text : Text) {c : Char} (hc : p c = false)
    (tail : Text) : trimEndWhere p (text ++ c :: tail) = text ++ c :: trimEndWhere p tail := by
  have hsplit : (text ++ c :: tail).reverse = tail.reverse ++ (c :: text.reverse) := by simp
  rw [trimEndWhere, trimEndWhere, hsplit, List.dropWhile_append,
    List.dropWhile_cons_of_neg (by simp [hc])]
  split
  · rename_i hempty
    rw [List.isEmpty_iff.mp hempty]
    simp
  · simp

/-- A text is what is left of it when its end is trimmed, and what was trimmed behind that. -/
theorem exists_trimEndWhere_append (p : Char → Bool) (text : Text) :
    ∃ trail, (∀ c ∈ trail, p c = true) ∧ text = trimEndWhere p text ++ trail := by
  refine ⟨(text.reverse.takeWhile p).reverse, ?_, ?_⟩
  · intro c hc
    exact List.all_eq_true.mp List.all_takeWhile c (List.mem_reverse.mp hc)
  · rw [trimEndWhere, ← List.reverse_append, List.takeWhile_append_dropWhile, List.reverse_reverse]

/-- Trimming leaves a character at the end that stays. -/
theorem getLast?_trimEndWhere {p : Char → Bool} {text : Text} :
    ∀ c ∈ (trimEndWhere p text).getLast?, p c = false := by
  intro c hc
  rw [trimEndWhere, List.getLast?_reverse] at hc
  have hstops := List.head?_dropWhile_not p text.reverse
  rw [Option.mem_def.mp hc] at hstops
  exact hstops

theorem length_trimEndWhere_le (p : Char → Bool) (text : Text) :
    (trimEndWhere p text).length ≤ text.length :=
  calc (trimEndWhere p text).length
      = (text.reverse.dropWhile p).length := List.length_reverse
    _ ≤ text.reverse.length := (List.dropWhile_sublist p).length_le
    _ = text.length := List.length_reverse

/-- A text whose last character stays is not changed by trimming its end. -/
theorem trimEnd_concat (init : Text) {c : Char} (hc : isSpace c = false) :
    trimEnd (init ++ [c]) = init ++ [c] :=
  trimEndWhere_append_cons init hc []

/-- A text that begins with a character that stays is trimmed at its end only. -/
theorem trim_append_cons {lead : Text} (hlead : ∀ c ∈ lead, isSpace c = true) {c : Char}
    (hc : isSpace c = false) (rest : Text) : trim (lead ++ c :: rest) = trimEnd (c :: rest) := by
  rw [trim, trimWhere, List.dropWhile_append_of_pos hlead,
    List.dropWhile_cons_of_neg (by simp [hc]), trimEnd]

end Text

/-! ## The search for a comment -/

namespace Script

/-- Where a character stands to the first brackets of a line. -/
inductive Span where
  /-- no bracket has been opened -/
  | before
  /-- the first bracket is open -/
  | inside
  /-- the first bracket has been closed -/
  | after
  deriving DecidableEq, Repr, Inhabited

/-- The place of the characters after `c`. -/
def Span.next (span : Span) (c : Char) : Span :=
  match span with
  | .before => if c = '[' then .inside else .before
  | .inside => if c = ']' then .after else .inside
  | .after => .after

/-- What stands before the comment, if there is one: two slashes that are not inside the first
brackets.  Every pair of slashes is looked at, in one pass over the line. -/
def beforeComment? (span : Span) : Text → Option Text
  | [] => none
  | c :: rest =>
      if c = '/' ∧ rest.head? = some '/' ∧ span ≠ .inside then some []
      else (beforeComment? (span.next c) rest).map (c :: ·)

/-- The place that a text leads to. -/
def Span.over (span : Span) (text : Text) : Span := text.foldl Span.next span

@[simp] theorem Span.over_nil (span : Span) : span.over [] = span := rfl

@[simp] theorem Span.over_cons (span : Span) (c : Char) (text : Text) :
    span.over (c :: text) = (span.next c).over text := rfl

theorem Span.over_append (span : Span) (first second : Text) :
    span.over (first ++ second) = (span.over first).over second :=
  List.foldl_append

@[simp] theorem Span.after_over (text : Text) : Span.after.over text = .after := by
  induction text with
  | nil => rfl
  | cons c text ih => exact ih

/-- Before the first opening bracket nothing changes. -/
theorem Span.before_over {text : Text} (h : '[' ∉ text) : Span.before.over text = .before := by
  induction text with
  | nil => rfl
  | cons c text ih =>
    rw [List.mem_cons, not_or] at h
    rw [Span.over_cons, Span.next, if_neg (Ne.symm h.1), ih h.2]

/-- Once a bracket is open, a closing bracket has closed it. -/
theorem Span.inside_over_close (text : Text) : (Span.inside.over text).next ']' = .after := by
  induction text with
  | nil => rfl
  | cons c text ih =>
    rw [Span.over_cons, Span.next]
    split
    · rw [Span.after_over]
      rfl
    · exact ih

/-- White space opens and closes no brackets. -/
theorem Span.over_of_space (span : Span) {gap : Text} (h : ∀ c ∈ gap, isSpace c = true) :
    span.over gap = span := by
  induction gap with
  | nil => rfl
  | cons c gap ih =>
    rw [List.forall_mem_cons] at h
    have hc : span.next c = span := by
      have hopen : c ≠ '[' := fun heq => absurd h.1 (by rw [heq]; decide)
      have hclose : c ≠ ']' := fun heq => absurd h.1 (by rw [heq]; decide)
      cases span <;> simp [Span.next, hopen, hclose]
    rw [Span.over_cons, hc, ih h.2]

theorem beforeComment?_cons (span : Span) (c : Char) (rest : Text) :
    beforeComment? span (c :: rest) =
      if c = '/' ∧ rest.head? = some '/' ∧ span ≠ .inside then some []
      else (beforeComment? (span.next c) rest).map (c :: ·) := rfl

/-- Inside the brackets a slash is passed by. -/
theorem beforeComment?_inside_slash (rest : Text) :
    beforeComment? .inside ('/' :: rest) = (beforeComment? .inside rest).map ('/' :: ·) := by
  rw [beforeComment?_cons, if_neg fun h => h.2.2 rfl]
  rfl

/-- A comment is found whatever follows it. -/
theorem beforeComment?_append_of_some {span : Span} {text found : Text}
    (h : beforeComment? span text = some found) (rest : Text) :
    beforeComment? span (text ++ rest) = some found := by
  induction text generalizing span found with
  | nil => cases h
  | cons c text ih =>
    rw [beforeComment?_cons] at h
    rw [List.cons_append, beforeComment?_cons]
    split at h
    · rename_i hmark
      rw [if_pos ⟨hmark.1, by rw [List.head?_append, hmark.2.1, Option.some_or], hmark.2.2⟩]
      exact h
    · rename_i hmark
      obtain ⟨later, hlater, rfl⟩ := Option.map_eq_some_iff.mp h
      have hsame : (text ++ rest).head? = text.head? := by
        cases text with
        | nil => cases hlater
        | cons d text => rfl
      rw [hsame, if_neg hmark, ih hlater, Option.map_some]

/-- Behind a piece without a comment the search goes on, unless two slashes meet there. -/
theorem beforeComment?_append_of_none {span : Span} {text : Text}
    (h : beforeComment? span text = none) {rest : Text}
    (hmeet : text.getLast? ≠ some '/' ∨ rest.head? ≠ some '/') :
    beforeComment? span (text ++ rest) =
      (beforeComment? (span.over text) rest).map (text ++ ·) := by
  induction text generalizing span with
  | nil => simp
  | cons c text ih =>
    rw [beforeComment?_cons] at h
    rw [List.cons_append, beforeComment?_cons, Span.over_cons]
    split at h
    · cases h
    · rename_i hmark
      have hmark' : ¬ (c = '/' ∧ (text ++ rest).head? = some '/' ∧ span ≠ .inside) := by
        rintro ⟨hc, hhead, hspan⟩
        cases text with
        | nil => exact hmeet.elim (fun hlast => hlast (by simp [hc])) (fun hfirst => hfirst hhead)
        | cons d text => exact hmark ⟨hc, hhead, hspan⟩
      have hmeet' : text.getLast? ≠ some '/' ∨ rest.head? ≠ some '/' := by
        refine hmeet.imp_left fun hlast => ?_
        cases text with
        | nil => simp
        | cons d text => rwa [List.getLast?_cons_cons] at hlast
      rw [if_neg hmark', ih (Option.map_eq_none_iff.mp h) hmeet', Option.map_map]
      rfl

/-- There is no comment without slashes. -/
theorem beforeComment?_of_not_mem {text : Text} (h : '/' ∉ text) (span : Span) :
    beforeComment? span text = none := by
  induction text generalizing span with
  | nil => rfl
  | cons c text ih =>
    rw [List.mem_cons, not_or] at h
    rw [beforeComment?_cons, if_neg (fun hmark => h.1 hmark.1.symm), ih h.2, Option.map_none]

/-- What stands before a comment is less than the line. -/
theorem length_beforeComment?_lt {span : Span} {text found : Text}
    (h : beforeComment? span text = some found) : found.length < text.length := by
  induction text generalizing span found with
  | nil => cases h
  | cons c text ih =>
    rw [beforeComment?_cons] at h
    split at h
    · cases h
      simp
    · obtain ⟨later, hlater, rfl⟩ := Option.map_eq_some_iff.mp h
      simpa using ih hlater

/-- There is no comment just when every pair of slashes is inside the first brackets. -/
theorem beforeComment?_eq_none_iff {span : Span} {text : Text} :
    beforeComment? span text = none ↔
      ∀ before rest, text = before ++ '/' :: '/' :: rest → span.over before = .inside := by
  induction text generalizing span with
  | nil => simp [beforeComment?]
  | cons c text ih =>
    rw [beforeComment?_cons]
    constructor
    · intro h before rest htext
      split at h
      · cases h
      · rename_i hmark
        cases before with
        | nil =>
          obtain ⟨rfl, rfl⟩ := List.cons.inj htext
          exact Decidable.byContradiction fun hspan => hmark ⟨rfl, rfl, hspan⟩
        | cons d before =>
          obtain ⟨rfl, rfl⟩ := List.cons.inj htext
          exact ih.mp (Option.map_eq_none_iff.mp h) before rest rfl
    · intro h
      rw [if_neg, Option.map_eq_none_iff, ih]
      · rintro before rest rfl
        exact h (c :: before) rest rfl
      · rintro ⟨rfl, hhead, hspan⟩
        obtain ⟨rest, rfl⟩ := List.head?_eq_some_iff.mp hhead
        exact hspan (h [] rest rfl)

/-! ## Brackets -/

/-- Two slashes stand behind a closing bracket. -/
def MarkAfterClose (text : Text) : Prop :=
  ∃ left middle right, text = left ++ ']' :: (middle ++ '/' :: '/' :: right)

/-- Behind an opening bracket the brackets are open up to the first closing one. -/
theorem Span.inside_over_iff {text : Text} : Span.inside.over text = .inside ↔ ']' ∉ text := by
  constructor
  · intro h hmem
    obtain ⟨left, right, rfl⟩ := List.append_of_mem hmem
    rw [Span.over_append, Span.over_cons, Span.inside_over_close, Span.after_over] at h
    cases h
  · intro h
    induction text with
    | nil => rfl
    | cons c text ih =>
      rw [List.mem_cons, not_or] at h
      rw [Span.over_cons, Span.next, if_neg (Ne.symm h.1), ih h.2]

/-- A text ends inside its first brackets just when it leads there. -/
theorem endsInside_iff (text : Text) :
    endsInside text = true ↔ Span.before.over text = .inside := by
  induction text with
  | nil => simp [endsInside]
  | cons c text ih =>
    rw [Span.over_cons, Span.next]
    by_cases hc : c = '['
    · rw [if_pos hc, Span.inside_over_iff, endsInside, hc]
      simp
    · have hskip : endsInside (c :: text) = endsInside text := by
        rw [endsInside, List.dropWhile_cons_of_pos (by simpa using hc), ← endsInside]
      rw [if_neg hc, hskip, ih]

/-- Behind the start of a line, the first pair of slashes outside among those without overlaps is the
first one outside among all. -/
theorem find?_marksFrom (offset : Nat) (rest front : Text) (hoffset : offset = front.length) :
    ((marksFrom offset rest).find? fun n => !endsInside ((front ++ rest).take n)).map
        (fun n => (front ++ rest).take n) =
      (beforeComment? (Span.before.over front) rest).map (front ++ ·) := by
  induction offset, rest using marksFrom.induct generalizing front with
  | case1 _ => rfl
  | case2 _ c => simp [marksFrom, beforeComment?]
  | case3 offset c d rest hpair ih =>
    obtain ⟨rfl, rfl⟩ := hpair
    have htake : (front ++ '/' :: '/' :: rest).take offset = front := by
      rw [hoffset, List.take_left]
    rw [marksFrom, if_pos ⟨rfl, rfl⟩, List.find?_cons, htake]
    by_cases hspan : Span.before.over front = .inside
    · -- the second slash begins another pair at most, which is inside as well
      have hrest := ih (front ++ ['/', '/']) (by simp [hoffset])
      have hslashes : Span.before.over (front ++ ['/', '/']) = .inside := by
        rw [Span.over_append, hspan]
        rfl
      rw [hslashes, List.append_assoc] at hrest
      rw [(endsInside_iff front).mpr hspan, hspan, beforeComment?_inside_slash,
        beforeComment?_inside_slash, Option.map_map, Option.map_map]
      refine hrest.trans (congrArg (Option.map · _) (funext fun found => ?_))
      simp
    · have houtside : endsInside front = false := by
        rwa [← Bool.not_eq_true, endsInside_iff]
      rw [houtside, beforeComment?_cons, if_pos ⟨rfl, rfl, hspan⟩]
      simp [htake]
  | case4 offset c d rest hpair ih =>
    have hrest := ih (front ++ [c]) (by simp [hoffset])
    have hmark : ¬ (c = '/' ∧ (d :: rest).head? = some '/' ∧ Span.before.over front ≠ .inside) :=
      fun h => hpair ⟨h.1, Option.some.inj h.2.1⟩
    rw [Span.over_append, List.append_assoc] at hrest
    rw [marksFrom, if_neg hpair, beforeComment?_cons, if_neg hmark, Option.map_map]
    refine hrest.trans (congrArg (Option.map · _) (funext fun found => ?_))
    simp

/-- Stripping a line in one pass. -/
theorem stripComment_eq (line : Text) :
    stripComment line =
      match beforeComment? .before line with
      | some rest => rest.trimEnd
      | none => line := by
  have hfound := find?_marksFrom 0 line [] rfl
  simp only [List.nil_append, Span.over_nil, Option.map_id'] at hfound
  rw [stripComment, ← hfound]
  cases (marksFrom 0 line).find? fun offset => !endsInside (line.take offset) <;> rfl

/-- In open brackets there is a comment just when two slashes stand behind a closing bracket. -/
theorem beforeComment?_inside_eq_none_iff {text : Text} :
    beforeComment? .inside text = none ↔ ¬ MarkAfterClose text := by
  simp only [beforeComment?_eq_none_iff, Span.inside_over_iff]
  constructor
  · rintro h ⟨left, middle, right, rfl⟩
    exact h (left ++ ']' :: middle) right (by simp) (by simp)
  · rintro h before rest rfl hclose
    obtain ⟨left, middle, rfl⟩ := List.append_of_mem hclose
    exact h ⟨left, middle, rest, by simp⟩

section Bracketed

variable {start text : Text} (hopen : '[' ∉ start) (hslash : '/' ∉ start)

include hopen in
/-- Behind its first brackets a line has left them. -/
theorem over_bracketed (tail : Text) :
    Span.before.over (start ++ '[' :: (text ++ ']' :: tail)) = .after := by
  rw [Span.over_append, Span.before_over hopen, Span.over_cons, Span.over_append, Span.over_cons]
  have hinside : Span.before.next '[' = .inside := rfl
  rw [hinside, Span.inside_over_close, Span.after_over]

include hopen hslash in
theorem beforeComment?_open (rest : Text) :
    beforeComment? .before (start ++ '[' :: rest) =
      (beforeComment? .inside rest).map (start ++ '[' :: ·) := by
  have hnone : beforeComment? .before start = none := beforeComment?_of_not_mem hslash _
  rw [beforeComment?_append_of_none hnone (.inr (by simp)), Span.before_over hopen,
    beforeComment?_cons, if_neg (by simp), Option.map_map]
  rfl

include hopen hslash in
/-- If the brackets hold no comment, it is looked for behind them. -/
theorem beforeComment?_bracketed (htext : ¬ MarkAfterClose text) (tail : Text) :
    beforeComment? .before (start ++ '[' :: (text ++ ']' :: tail)) =
      (beforeComment? .after tail).map fun rest => start ++ '[' :: (text ++ ']' :: rest) := by
  have hnone : beforeComment? .inside text = none := beforeComment?_inside_eq_none_iff.mpr htext
  rw [beforeComment?_open hopen hslash, beforeComment?_append_of_none hnone (.inr (by simp)),
    beforeComment?_cons, if_neg (by simp), Span.inside_over_close, Option.map_map, Option.map_map]
  rfl

end Bracketed

/-! ## White space and comments around a line -/

/-- What may be written behind a line without changing it: nothing, or a comment behind blanks. -/
inductive Remark : Text → Prop where
  | none : Remark []
  | comment {blanks : Text} (hblanks : ∀ c ∈ blanks, isBlank c = true) {text : Text}
      (htext : '\n' ∉ text) : Remark (blanks ++ '/' :: '/' :: text)

theorem newline_not_mem_of_remark {remark : Text} (h : Remark remark) : '\n' ∉ remark := by
  cases h with
  | none => simp
  | comment hblanks htext =>
    rw [List.mem_append, List.mem_cons, List.mem_cons]
    rintro (hmem | heq | heq | hmem)
    · exact absurd (hblanks _ hmem) (by decide)
    · exact absurd heq (by decide)
    · exact absurd heq (by decide)
    · exact htext hmem

/-- A text that begins and ends with other characters than white space, and does not end with a
slash. -/
structure Trimmed (text : Text) : Prop where
  first : ∃ c, text.head? = some c ∧ isSpace c = false
  last : ∃ c, text.getLast? = some c ∧ isSpace c = false ∧ c ≠ '/'

theorem Trimmed.trimEnd {text : Text} (h : Trimmed text) : text.trimEnd = text := by
  obtain ⟨c, hc, hspace, -⟩ := h.last
  obtain ⟨init, rfl⟩ := List.getLast?_eq_some_iff.mp hc
  exact Text.trimEnd_concat init hspace

theorem Trimmed.trim_append {text : Text} (h : Trimmed text) {lead : Text}
    (hlead : ∀ c ∈ lead, isSpace c = true) (tail : Text) :
    Text.trim (lead ++ (text ++ tail)) = Text.trimEnd (text ++ tail) := by
  obtain ⟨c, hc, hspace⟩ := h.first
  obtain ⟨rest, rfl⟩ := List.head?_eq_some_iff.mp hc
  exact Text.trim_append_cons hlead hspace _

theorem Trimmed.trim {text : Text} (h : Trimmed text) : text.trim = text := by
  have htrim : Text.trim ([] ++ (text ++ [])) = Text.trimEnd (text ++ []) :=
    h.trim_append (by simp) []
  rwa [List.append_nil, List.nil_append, h.trimEnd] at htrim

/-- Trimming the end of a line stops at a pair of slashes. -/
theorem trimEnd_append_mark (text remark : Text) :
    Text.trimEnd (text ++ '/' :: '/' :: remark) = text ++ '/' :: '/' :: Text.trimEnd remark := by
  have hslash : isSpace '/' = false := by decide
  have hsecond := Text.trimEndWhere_append_cons (text ++ ['/']) hslash remark
  simpa only [Text.trimEnd, List.append_assoc, List.singleton_append] using hsecond

/-- A pair of slashes behind white space begins a comment, unless brackets are open. -/
theorem beforeComment?_remark {span : Span} (hspan : span ≠ .inside) {gap : Text}
    (hgap : ∀ c ∈ gap, isSpace c = true) (text : Text) :
    beforeComment? span (gap ++ '/' :: '/' :: text) = some gap := by
  have hslash : '/' ∉ gap := fun hmem => absurd (hgap _ hmem) (by decide)
  have hlast : gap.getLast? ≠ some '/' := fun h => hslash (List.mem_of_getLast? h)
  rw [beforeComment?_append_of_none (beforeComment?_of_not_mem hslash span) (.inl hlast),
    span.over_of_space hgap, beforeComment?_cons, if_pos ⟨rfl, rfl, hspan⟩, Option.map_some,
    List.append_nil]

/-- A comment behind white space makes no difference to a text that is trimmed at its end and leaves
its brackets, unless a slash at its end meets the comment. -/
theorem stripComment_append_remark {text : Text} (htrim : text.trimEnd = text)
    (hspan : Span.before.over text ≠ .inside) {gap : Text} (hgap : ∀ c ∈ gap, isSpace c = true)
    (hmeet : text.getLast? ≠ some '/' ∨ gap ≠ []) (remark : Text) :
    stripComment (text ++ (gap ++ '/' :: '/' :: remark)) = stripComment text := by
  rw [stripComment_eq, stripComment_eq]
  cases hfound : beforeComment? .before text with
  | some found => rw [beforeComment?_append_of_some hfound]
  | none =>
    have hapart : text.getLast? ≠ some '/' ∨ (gap ++ '/' :: '/' :: remark).head? ≠ some '/' := by
      refine hmeet.imp_right fun hne hhead => ?_
      obtain ⟨c, rest, rfl⟩ := List.exists_cons_of_ne_nil hne
      obtain rfl : c = '/' := Option.some.inj hhead
      exact absurd (hgap '/' List.mem_cons_self) (by decide)
    rw [beforeComment?_append_of_none hfound hapart, beforeComment?_remark hspan hgap]
    dsimp only [Option.map_some]
    rw [Text.trimEnd, Text.trimEndWhere_append_of_forall _ hgap, ← Text.trimEnd, htrim]

/-- White space around a line that leaves its brackets, and a comment behind it, do not change what
the line says. -/
theorem body_surrounded {text : Text} (h : Trimmed text) (hspan : Span.before.over text ≠ .inside)
    {lead trail remark : Text} (hlead : ∀ c ∈ lead, isSpace c = true)
    (htrail : ∀ c ∈ trail, isSpace c = true) (hremark : Remark remark) :
    body (lead ++ (text ++ (trail ++ remark))) = body text := by
  rw [body, body, h.trim_append hlead, h.trim]
  cases hremark with
  | none =>
    rw [List.append_nil, Text.trimEnd, Text.trimEndWhere_append_of_forall _ htrail, ← Text.trimEnd,
      h.trimEnd]
  | @comment blanks hblanks remark _ =>
    have hgap : ∀ c ∈ trail ++ blanks, isSpace c = true := by
      intro c hc
      rcases List.mem_append.mp hc with hmem | hmem
      · exact htrail c hmem
      · exact isSpace_of_isBlank (hblanks c hmem)
    have htrim : Text.trimEnd (text ++ (trail ++ (blanks ++ '/' :: '/' :: remark))) =
        text ++ ((trail ++ blanks) ++ '/' :: '/' :: Text.trimEnd remark) := by
      have hmark := trimEnd_append_mark (text ++ (trail ++ blanks)) remark
      simpa only [List.append_assoc] using hmark
    have hmeet : text.getLast? ≠ some '/' := by
      obtain ⟨c, hc, -, hlast⟩ := h.last
      exact fun hslash => hlast (Option.some.inj (hc.symm.trans hslash))
    rw [htrim]
    exact stripComment_append_remark h.trimEnd hspan hgap (.inl hmeet) _

theorem body_remark {text : Text} (h : Trimmed text) (hspan : Span.before.over text ≠ .inside)
    {remark : Text} (hremark : Remark remark) : body (text ++ remark) = body text := by
  have hsame : body ([] ++ (text ++ ([] ++ remark))) = body text :=
    body_surrounded h hspan (by simp) (by simp) hremark
  exact hsame

/-- What a line gives depends on what it says only. -/
theorem readLine_congr (settings : Settings) (number : Nat) {raw raw' : Text}
    (h : body raw = body raw') :
    readLine settings number raw = readLine settings number raw' := by
  rw [readLine, readLine, h]

end Script

end EditPlayer
