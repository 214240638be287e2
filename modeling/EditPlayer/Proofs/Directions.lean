import EditPlayer.Proofs.Destinations
import EditPlayer.Proofs.Layout
import EditPlayer.Proofs.Payloads
set_option autoImplicit false

/-!
# Moves with any count

A line that says `move`, a word and anything behind it makes the move of that word, whatever stands
in the place of the count (`MoveWord.exists_readLine`): trimming, a comment and a final `select`
take something off the end of the line, but never reach its first two words.

The ten moves on and back then go their way, with one exception.  A move by a number of characters
reads its count as a signed word, and a count from `signLimit` on is then negative: the move goes
the other way, and a move back by just `signLimit` characters breaks off.  `Player.moveLine_leads_iff` says that
the move goes its way just when this does not happen.
-/

namespace EditPlayer

namespace Script

/-! ## Lines that open with two words -/

/-- The line begins with a text, and if anything follows, it begins with a blank. -/
def Opens (start line : Text) : Prop :=
  ∃ rest, line = start ++ rest ∧ ∀ c ∈ rest.head?, isBlank c = true

/-- What is left of a line when its end is cut off still opens with a text, if the cut does not go
into that text. -/
theorem Opens.of_append {start before behind : Text} (h : Opens start (before ++ behind))
    (hcut : ∀ cut rest, start = before ++ cut → behind = cut ++ rest →
      (∀ c ∈ rest.head?, isBlank c = true) → cut = []) : Opens start before := by
  obtain ⟨rest, hline, hrest⟩ := h
  rcases List.append_eq_append_iff.mp hline with ⟨cut, hstart, hbehind⟩ | ⟨kept, hbefore, hrest'⟩
  · have hnil := hcut cut rest hstart hbehind hrest
    rw [hnil, List.append_nil] at hstart
    exact ⟨[], by rw [hstart, List.append_nil], by simp⟩
  · refine ⟨kept, hbefore, ?_⟩
    intro c hc
    refine hrest c ?_
    rw [hrest', Option.mem_def, List.head?_append, Option.mem_def.mp hc, Option.some_or]

/-- Trimming the end of a line stops at the last character of the text it opens with. -/
theorem Opens.trimEnd {start line : Text} (hlast : ∀ c ∈ start.getLast?, isSpace c = false)
    (h : Opens start line) : Opens start line.trimEnd := by
  obtain ⟨trail, htrail, hline⟩ := Text.exists_trimEnd_append line
  rw [hline] at h
  refine h.of_append fun cut rest hstart hcut _ => ?_
  rcases List.eq_nil_or_concat cut with hnil | ⟨init, c, hconcat⟩
  · exact hnil
  · rw [List.concat_eq_append] at hconcat
    have hspace : isSpace c = true := htrail c (by rw [hcut, hconcat]; simp)
    have hkept : isSpace c = false := hlast c (by rw [hstart, hconcat]; simp)
    rw [hspace] at hkept
    cases hkept

/-- A comment begins behind a text without slashes. -/
theorem Opens.stripComment {start line : Text} (hslash : '/' ∉ start)
    (hlast : ∀ c ∈ start.getLast?, isSpace c = false) (h : Opens start line) :
    Opens start (stripComment line) := by
  rw [stripComment_eq]
  split
  · rename_i before hbefore
    obtain ⟨remark, hline⟩ := (beforeComment?_eq_some_iff.mp hbefore).mark
    rw [hline] at h
    refine Opens.trimEnd hlast (h.of_append fun cut rest hstart hcut _ => ?_)
    cases cut with
    | nil => rfl
    | cons c cut =>
      obtain ⟨rfl, -⟩ := List.cons.inj hcut
      exact absurd (by rw [hstart]; simp) hslash
  · exact h

/-- A final `select` stands behind a text that has none itself. -/
theorem Opens.stripSelect {start line : Text} (hselect : (stripSelect start).2 = false)
    (hlast : ∀ c ∈ start.getLast?, isSpace c = false) (h : Opens start line) :
    Opens start (stripSelect line).1 := by
  unfold Script.stripSelect
  split
  · exact h
  · rename_i head hhead
    split
    · rename_i hapart
      have hline : line = head ++ selectWord := dropSuffix?_eq_some_iff.mp hhead
      rw [hline] at h
      refine Opens.trimEnd hlast (h.of_append fun cut rest hstart hcut hrest => ?_)
      -- A blank would follow the cut in `select`, so the whole of it would be cut off.
      have hnil : rest = [] := by
        cases rest with
        | nil => rfl
        | cons c rest =>
          have hmem : c ∈ selectWord := by rw [hcut]; simp
          have hplain : isBlank c = false := (plain_of_all (by decide) c hmem).1
          have hblank := hrest c rfl
          rw [hplain] at hblank
          cases hblank
      rw [hnil, List.append_nil] at hcut
      rw [← hcut] at hstart
      have hends : Script.stripSelect start = (head.trimEnd, true) := by
        rw [Script.stripSelect, dropSuffix?_eq_some_iff.mpr hstart]
        exact if_pos hapart
      rw [hends] at hselect
      cases hselect
    · exact h

/-! ## Move words -/

/-- A word of a move that takes a count, as far as the rest of the line is concerned. -/
structure MoveWord (word : Text) (heading : Heading) : Prop where
  move : Keyword.move? word = some heading
  counted : heading.takesPattern = false
  ne_nil : word ≠ []
  plain : ∀ c ∈ word, isBlank c = false ∧ c ≠ '[' ∧ c ≠ '/' ∧ c ≠ '\n'
  last : ∀ c ∈ (moveWord ++ ' ' :: word).getLast?, isSpace c = false
  unextended : (stripSelect (moveWord ++ ' ' :: word)).2 = false

/-- The line that makes a move with something in the place of its count. -/
def moveLine (word token : Text) : Text := moveWord ++ ' ' :: (word ++ ' ' :: token)

/-- The move of a word by a line of a script. -/
def countedMove (heading : Heading) (count : Nat) (select : Bool) (number : Nat) : Operation :=
  { kind := .move
    target := some heading.target
    movement := some heading.movement
    payload := .count count
    select
    sourceLine := number }

theorem newline_not_mem_moveLine {word token : Text} {heading : Heading}
    (hword : MoveWord word heading) (htoken : '\n' ∉ token) : '\n' ∉ moveLine word token := by
  have hplain : '\n' ∉ word := fun hmem => (hword.plain _ hmem).2.2.2 rfl
  have hmove : '\n' ∉ moveWord := by decide
  simp [moveLine, hmove, hplain, htoken]

namespace MoveWord

variable {word line : Text} {heading : Heading} (hword : MoveWord word heading)

include hword

theorem slash_not_mem : '/' ∉ moveWord ++ ' ' :: word := by
  have hplain : '/' ∉ word := fun hmem => (hword.plain _ hmem).2.2.1 rfl
  have hmove : '/' ∉ moveWord := by decide
  simp [hmove, hplain]

/-- What a line with a move says opens with the move. -/
theorem opens_body (token : Text) :
    Opens (moveWord ++ ' ' :: word) (body (moveLine word token)) := by
  have hopens : Opens (moveWord ++ ' ' :: word) (moveLine word token) := by
    refine ⟨' ' :: token, ?_, ?_⟩
    · simp [moveLine]
    · intro c hc
      cases hc
      decide
  have htrim : (moveLine word token).trim = (moveLine word token).trimEnd :=
    Text.trim_append_cons (List.forall_mem_nil _) (by decide) _
  rw [body, htrim]
  exact (hopens.trimEnd hword.last).stripComment hword.slash_not_mem hword.last

/-- The first two words of a line that opens with a move. -/
theorem exists_words (h : Opens (moveWord ++ ' ' :: word) line) :
    ∃ rest, line.words = moveWord :: word :: rest := by
  have hblank : isBlank ' ' = true := by decide
  have hmove (rest : Text) :
      Text.words (moveWord ++ ' ' :: rest) = moveWord :: Text.words rest :=
    Text.words_append_of_forall (by decide) (by simp [moveWord, isBlank]) hblank rest
  have hplain : ∀ c ∈ word, isBlank c = false := fun c hc => (hword.plain c hc).1
  obtain ⟨rest, rfl, hrest⟩ := h
  cases rest with
  | nil =>
    refine ⟨[], ?_⟩
    rw [List.append_nil, hmove, Text.words_of_forall hword.ne_nil hplain]
  | cons c rest =>
    refine ⟨Text.words rest, ?_⟩
    rw [List.append_assoc, List.cons_append, hmove,
      Text.words_append_of_forall hword.ne_nil hplain (hrest c rfl)]

/-- A line with a move makes that move, whatever stands in the place of its count. -/
theorem exists_readLine (settings : Settings) (number : Nat) (token : Text) :
    ∃ counted select, readLine settings number (moveLine word token) =
      ⟨some (countedMove heading (readCount? settings counted) select number), []⟩ := by
  have hopens := hword.opens_body token
  obtain ⟨rest, hline, -⟩ := id hopens
  have hfilled : (body (moveLine word token)).isEmpty = false := by
    rw [hline]
    rfl
  have hliteral : literal? (body (moveLine word token)) = none := by
    rw [hline]
    rfl
  obtain ⟨others, hwords⟩ := hword.exists_words (hopens.stripSelect hword.unextended hword.last)
  have hcut : word.takeWhile (· != '[') = word :=
    List.takeWhile_eq_self_iff.mpr fun c hc => by simpa using (hword.plain c hc).2.1
  have hmove : Keyword.operation? moveWord = some { kind := .move } := by decide
  refine ⟨others.head?, (stripSelect (body (moveLine word token))).2, ?_⟩
  simp only [readLine, hfilled, Bool.false_eq_true, if_false, hliteral, readInstruction, hwords,
    hmove, Preset.takesHeading, beq_self_eq_true, if_true, readMove, hcut, hword.move,
    hword.counted]
  rfl

end MoveWord

/-- The move words that go on or back are plain words, and take a count. -/
theorem plain_of_mem_moves :
    ∀ entry ∈ Keyword.moves, entry.2.movement.course?.isSome = true →
      Keyword.move? entry.1.toList = some entry.2 ∧ entry.2.takesPattern = false ∧
        entry.1.toList ≠ [] ∧
        (entry.1.toList.all fun c => !isBlank c && c != '[' && c != '/' && c != '\n') = true ∧
        ((moveWord ++ ' ' :: entry.1.toList).getLast?.all fun c => !isSpace c) = true ∧
        (stripSelect (moveWord ++ ' ' :: entry.1.toList)).2 = false := by
  decide +kernel

-- The moves on and back are those of ten words.
example :
    (Keyword.moves.filter fun entry => entry.2.movement.course? == some .forward).map Prod.fst =
        ["right", "down", "next-word", "next-empty-line", "forward"] ∧
      (Keyword.moves.filter fun entry => entry.2.movement.course? == some .backward).map Prod.fst =
        ["left", "up", "previous-word", "previous-empty-line", "backward"] := by
  decide

theorem moveWord_of_mem {name : String} {heading : Heading} {course : Text.Course}
    (h : (name, heading) ∈ Keyword.moves) (hcourse : heading.movement.course? = some course) :
    MoveWord name.toList heading := by
  obtain ⟨hmove, hcounted, hne, hplain, hlast, hselect⟩ :=
    plain_of_mem_moves (name, heading) h (Option.isSome_iff_exists.mpr ⟨course, hcourse⟩)
  refine ⟨hmove, hcounted, hne, plain_of_all hplain, ?_, hselect⟩
  intro c hc
  rw [Option.mem_def.mp hc] at hlast
  simpa using hlast

/-- A count that is read fits into a word, if the default count does. -/
theorem readCount?_lt {settings : Settings} (hdefault : settings.defaultCount < wordLimit)
    (word : Option Text) : readCount? settings word < wordLimit := by
  cases word with
  | none => exact hdefault
  | some word =>
    rw [readCount?, readCount]
    split
    · rename_i n hn
      split
      · exact hdefault
      · unfold Text.readWord? at hn
        split at hn
        · cases hn
        · split at hn
          · rename_i hlimit
            cases hn
            exact hlimit
          · cases hn
    · exact hdefault

end Script

/-! ## Counts that are read as negative numbers -/

theorem signedWord_of_le {n : Nat} (h : signLimit ≤ n) (hlimit : n < wordLimit) :
    signedWord n = -((wordLimit - n : Nat) : Int) := by
  rw [signedWord, if_neg (Nat.not_lt.mpr h)]
  omega

namespace Document

variable {document : Document} {p : Position} {n : Nat}

/-- Steps to the left go on only if they stay at the start of the document. -/
theorem le_iterate_left_iff (hp : document.view.Holds p) (hn : 1 ≤ n) :
    p ≤ iterate (document.step .left) n p ↔ p = .origin := by
  have hholds := iterate_keeps (fun _ hq => holds_step .left hq) n hp
  have horigin : document.view.Holds .origin :=
    LineView.holds_lineStart (Nat.zero_lt_of_lt hp.1)
  have hzero : document.view.offsetAt .origin = 0 := LineView.offsetAt_of_holds horigin
  rw [LineView.le_iff_offsetAt_le hp hholds, offsetAt_iterate_left n hp]
  constructor
  · intro hle
    refine LineView.eq_of_offsetAt_eq hp horigin ?_
    omega
  · rintro rfl
    omega

/-- Steps to the right go back only if they stay at the end of the document. -/
theorem iterate_right_le_iff (hp : document.view.Holds p) (hn : 1 ≤ n) :
    iterate (document.step .right) n p ≤ p ↔ p = document.view.endPosition := by
  have hcount : 0 < document.view.count := Nat.zero_lt_of_lt hp.1
  have hholds := iterate_keeps (fun _ hq => holds_step .right hq) n hp
  have hend := offsetAt_endPosition hcount
  have hbound := offsetAt_le_length hp
  rw [LineView.le_iff_offsetAt_le hholds hp, offsetAt_iterate_right n hp]
  constructor
  · intro hle
    refine LineView.eq_of_offsetAt_eq hp (LineView.holds_endPosition hcount) ?_
    omega
  · rintro rfl
    omega

end Document

namespace Player

variable {document : Document} {n : Nat}

/-- A count from `signLimit` on takes a move by characters back instead of on. -/
theorem moveTo_forward_of_le (h : document.SelectionHolds) (hn : signLimit ≤ n)
    (hlimit : n < wordLimit) (target : Target) (select : Bool) :
    moveTo Document.surface target .forward (.count n) select document =
      .done (document.moveCursor .left (wordLimit - n) select) := by
  have hpos : 1 ≤ n := Nat.le_trans (by decide) hn
  have hmove := h.moveByOffset_eq_left (Nat.sub_pos_of_lt hlimit) select
  rw [← signedWord_of_le hn hlimit] at hmove
  cases target <;> simpa only [moveTo, Payload.repeats_count hpos] using hmove

/-- A count beyond `signLimit` takes a move by characters on instead of back. -/
theorem moveTo_backward_of_lt (h : document.SelectionHolds) (hn : signLimit < n)
    (hlimit : n < wordLimit) (target : Target) (select : Bool) :
    moveTo Document.surface target .backward (.count n) select document =
      .done (document.moveCursor .right (wordLimit - n) select) := by
  have hpos : 1 ≤ n := Nat.le_trans (by decide) (Nat.le_of_lt hn)
  have hmove := h.moveByOffset_eq_right (Nat.sub_pos_of_lt hlimit) select
  rw [← Int.neg_neg ((wordLimit - n : Nat) : Int),
    ← signedWord_of_le (Nat.le_of_lt hn) hlimit] at hmove
  cases target <;>
    simpa only [moveTo, Payload.repeats_count hpos, if_neg (Nat.ne_of_gt hn)] using hmove

/-- There is no way back by `signLimit` characters. -/
theorem moveTo_backward_signLimit {σ ε : Type} (surface : Surface σ ε) (target : Target)
    (select : Bool) (state : σ) :
    moveTo surface target .backward (.count signLimit) select state =
      .fault .negationOverflow := by
  have hrepeats : (Payload.count signLimit).repeats = signLimit := by decide
  cases target <;> simp only [moveTo, hrepeats, if_true]

/-! ## Moves that go astray -/

/-- The count of a move by characters is read as a negative number, and so the move breaks off or
goes the wrong way.  It does neither if there is no way to go: a move on from the start of the
document stays there, and so does a move back from its end. -/
def GoesAstray (movement : Movement) (n : Nat) (document : Document) : Prop :=
  signLimit ≤ n ∧
    (movement = .forward ∧ document.selection.active ≠ .origin ∨
      movement = .backward ∧
        (n = signLimit ∨ document.selection.active ≠ document.view.endPosition))

instance (movement : Movement) (n : Nat) (document : Document) :
    Decidable (GoesAstray movement n document) :=
  inferInstanceAs (Decidable (_ ∧ _))

/-- A move on or back ends, and goes its way, unless it goes astray. -/
theorem moveTo_leads_iff (h : document.SelectionHolds) (hn : 1 ≤ n) (hlimit : n < wordLimit)
    {movement : Movement} {course : Text.Course} (hcourse : movement.course? = some course)
    (target : Target) (select : Bool) :
    (∃ after, moveTo Document.surface target movement (.count n) select document = .done after ∧
        course.Leads document.selection.active after.selection.active) ↔
      ¬ GoesAstray movement n document := by
  have hactive := h.holds_active
  by_cases hsigned : movement.isSigned = true → n < signLimit
  · rw [moveTo_eq_goneTo h hn hsigned]
    constructor
    · rintro - ⟨hle, ⟨rfl, -⟩ | ⟨rfl, -⟩⟩
      · exact Nat.not_lt.mpr hle (hsigned rfl)
      · exact Nat.not_lt.mpr hle (hsigned rfl)
    · intro _
      refine ⟨_, rfl, ?_⟩
      cases hgoal : document.goal? target movement n document.selection.active with
      | none => exact course.leads_refl _
      | some place => exact Document.leads_goal? hcourse hactive hgoal
  · obtain ⟨hmovement, hle⟩ := Classical.not_imp.mp hsigned
    have hsign : signLimit ≤ n := Nat.not_lt.mp hle
    have hback : 1 ≤ wordLimit - n := Nat.sub_pos_of_lt hlimit
    cases movement with
    | forward =>
      cases hcourse
      rw [moveTo_forward_of_le h hsign hlimit, Document.moveCursor_eq_movedTo,
        Nat.max_eq_left hback]
      simp [GoesAstray, hsign, Text.Course.Leads, Document.movedTo,
        Document.le_iterate_left_iff hactive hback]
    | backward =>
      cases hcourse
      rcases Nat.eq_or_lt_of_le hsign with rfl | hlt
      · rw [moveTo_backward_signLimit]
        simp [GoesAstray]
      · rw [moveTo_backward_of_lt h hlt hlimit, Document.moveCursor_eq_movedTo,
          Nat.max_eq_left hback]
        simp [GoesAstray, hsign, Nat.ne_of_gt hlt, Text.Course.Leads, Document.movedTo,
          Document.iterate_right_le_iff hactive hback]
    | increment | decrement | start | finish | next | previous | matchInLine => cases hmovement

/-- Every line with a move on or back compiles to one operation, whatever is written for its count.
The operation ends and goes its way, unless it is a move by characters that goes astray, because its
count is `signLimit` or more. -/
theorem moveLine_leads_iff (settings : Settings) (hdefault : settings.defaultCount < wordLimit)
    (word : String) (heading : Heading) (hword : (word, heading) ∈ Keyword.moves)
    (course : Text.Course) (hcourse : heading.movement.course? = some course) (token : Text)
    (htoken : '\n' ∉ token) :
    ∃ operation,
      (Script.compile settings (Script.moveLine word.toList token)).isLoadable = true ∧
      (Script.compile settings (Script.moveLine word.toList token)).program.operations =
        [operation] ∧
      ∀ (memory : Memory) (document : Document),
        document.view.Holds document.selection.anchor →
        document.view.Holds document.selection.active →
        ((∃ after, execute Document.surface operation memory document = (memory, .done after) ∧
            course.Leads document.selection.active after.selection.active) ↔
          ¬ GoesAstray heading.movement operation.repeats document) := by
  have hmove := Script.moveWord_of_mem hword hcourse
  have hline := Script.newline_not_mem_moveLine hmove htoken
  obtain ⟨counted, select, hread⟩ := hmove.exists_readLine settings 1 token
  refine ⟨Script.countedMove heading (Script.readCount? settings counted) select 1, ?_, ?_, ?_⟩
  · rw [Script.isLoadable_of_not_mem settings hline, hread]
    rfl
  · rw [Script.operations_of_not_mem settings hline, hread]
    rfl
  · intro memory document hanchor hactive
    have hcount : Script.readCount? settings counted < wordLimit :=
      Script.readCount?_lt hdefault counted
    have hleads := moveTo_leads_iff ⟨hanchor, hactive⟩
      (Nat.le_max_right (Script.readCount? settings counted) 1)
      (Nat.max_lt.mpr ⟨hcount, by decide⟩) hcourse heading.target select
    rw [moveTo_count_max] at hleads
    rw [execute_of_move _ _ rfl]
    simpa [move, Script.countedMove, Operation.repeats, Payload.repeats] using hleads

/-- A short line with the cursor behind its second character. -/
def insideShortLine : Document :=
  { Document.ofText "abc".toList with selection := .caret ⟨0, 2⟩ }

/-- With counts of twenty digits, the move on by the greatest count goes astray. -/
theorem moveLine_leads_iff_greatest :
    ∃ operation,
      (Script.compile { countDigits := 20 }
        (Script.moveLine "forward".toList "18446744073709551615".toList)).program.operations =
          [operation] ∧
      ¬ ∃ after, execute Document.surface operation {} insideShortLine = ({}, .done after) ∧
          insideShortLine.selection.active ≤ after.selection.active := by
  obtain ⟨operation, -, hoperations, hleads⟩ := moveLine_leads_iff { countDigits := 20 } (by decide)
    "forward" ⟨.character, .forward⟩ (by decide) .forward rfl "18446744073709551615".toList
    (by decide)
  refine ⟨operation, hoperations, ?_⟩
  intro hon
  refine (hleads {} insideShortLine (by decide) (by decide)).mp hon ?_
  cases hoperations
  decide

end Player

end EditPlayer
