import EditPlayer.Proofs.Directions
set_option autoImplicit false

/-!
# Brackets behind a move word

The second word of a `move` is cut before its first opening bracket and what is left is looked up,
whether the move takes a pattern or not.  For a move without a pattern this is the only way in which
a part of the word is passed over: the word is one of the table in full just when it has no bracket
(`readLine_move_word`).  What stands behind the bracket has no effect on the operation.
-/

namespace EditPlayer.Script

variable {settings : Settings}

/-- No move word has a bracket. -/
theorem bracket_not_mem_of_mem_moves : ∀ entry ∈ Keyword.moves, '[' ∉ entry.1.toList := by
  decide

/-- The second word of a move that takes no pattern, and the operation that it gives. -/
theorem exists_heading_of_readMove {operation result : Operation} {line second : Text}
    {rest : List Text}
    (hread : readMove settings operation [] line second rest = ⟨some result, []⟩)
    (hmovement : result.movement ≠ some .matchInLine) :
    ∃ heading, Keyword.move? (second.takeWhile (· != '[')) = some heading ∧
      result =
        { heading.apply operation with payload := .count (readCount? settings rest.head?) } := by
  unfold readMove at hread
  dsimp only at hread
  cases hheading : Keyword.move? (second.takeWhile (· != '[')) with
  | none => simp [hheading] at hread
  | some heading =>
    simp only [hheading] at hread
    cases htakes : heading.takesPattern with
    | true =>
      -- A move that takes a pattern has another movement.
      have hpattern : heading.movement = .matchInLine := by
        simpa [Heading.takesPattern] using htakes
      rw [htakes, if_pos rfl] at hread
      cases hpayload : patternPayload? settings line with
      | none => simp [hpayload] at hread
      | some payload =>
        simp only [hpayload, Reading.mk.injEq, Option.some.injEq] at hread
        rw [← hread.1] at hmovement
        exact absurd (congrArg some hpattern) hmovement
    | false =>
      rw [htakes, if_neg Bool.false_ne_true, Reading.mk.injEq, Option.some.injEq] at hread
      exact ⟨heading, rfl, hread.1.symm⟩

/-- An instruction that gives a move without a pattern has a second word. -/
theorem exists_words_of_readInstruction {number : Nat} {line : Text} {select : Bool}
    {operation : Operation}
    (hread : readInstruction settings number line select = ⟨some operation, []⟩)
    (hkind : operation.kind = .move) (hmovement : operation.movement ≠ some .matchInLine) :
    ∃ second rest heading, line.words = moveWord :: second :: rest ∧
      Keyword.move? (second.takeWhile (· != '[')) = some heading ∧
      operation = countedMove heading (readCount? settings rest.head?) select number := by
  have hknown : (readInstruction settings number line select).unknown = [] :=
    congrArg Reading.unknown hread
  cases unknown_readInstruction_eq_nil_iff.mp hknown with
  | operation hwords hword =>
    -- Only the word `move` gives an operation of that kind.
    obtain ⟨preset, hpreset, hheading⟩ := (isOperationWord_iff _).mp hword
    have hother : preset.kind ≠ .move := by simpa [Preset.takesHeading] using hheading
    simp only [readInstruction, hwords, hpreset, Reading.mk.injEq, Option.some.injEq] at hread
    rw [← hread.1] at hkind
    exact absurd hkind hother
  | move hwords | pattern hwords =>
    have hmove : Keyword.operation? "move".toList = some { kind := .move } := by decide
    simp only [readInstruction, hwords, hmove, Preset.takesHeading, beq_self_eq_true,
      if_true] at hread
    obtain ⟨heading, hheading, hoperation⟩ := exists_heading_of_readMove hread hmovement
    exact ⟨_, _, heading, hwords, hheading, hoperation⟩

/-- A line that gives a move without a pattern is an instruction. -/
theorem readInstruction_of_readLine {number : Nat} {raw : Text} {operation : Operation}
    (hread : readLine settings number raw = ⟨some operation, []⟩)
    (hkind : operation.kind = .move) :
    readInstruction settings number (stripSelect (body raw)).1 (stripSelect (body raw)).2 =
      ⟨some operation, []⟩ := by
  unfold readLine at hread
  dsimp only at hread
  split at hread
  · cases hread
  · split at hread
    · cases hread
      cases hkind
    · exact hread

/-- If a line is understood and gives a move without a pattern, its second word, trimming, comment
and `select` aside, is a move word with nothing or with an opening bracket and a tail behind it.  It
is a move word in full just when it has no bracket.  The operation is the one of the move word, with
the count of the third word: the tail makes no difference to it. -/
theorem readLine_move_word (settings : Settings) (number : Nat) (raw : Text)
    (operation : Operation) (hread : readLine settings number raw = ⟨some operation, []⟩)
    (hkind : operation.kind = .move) (hmovement : operation.movement ≠ some .matchInLine) :
    ∃ second rest name heading,
      (stripSelect (body raw)).1.words = moveWord :: second :: rest ∧
      (name, heading) ∈ Keyword.moves ∧
      second = name.toList ++ second.dropWhile (· != '[') ∧
      ((∃ entry ∈ Keyword.moves, entry.1.toList = second) ↔ '[' ∉ second) ∧
      operation = countedMove heading (readCount? settings rest.head?)
        (stripSelect (body raw)).2 number := by
  obtain ⟨second, rest, heading, hwords, hheading, hoperation⟩ :=
    exists_words_of_readInstruction (readInstruction_of_readLine hread hkind) hkind hmovement
  obtain ⟨name, hname, hcut⟩ := exists_mem_of_lookup? hheading
  refine ⟨second, rest, name, heading, hwords, hname, ?_, ?_, hoperation⟩
  · rw [hcut, List.takeWhile_append_dropWhile]
  · constructor
    · rintro ⟨entry, hentry, rfl⟩
      exact bracket_not_mem_of_mem_moves entry hentry
    · intro hbracket
      have hwhole : second.takeWhile (· != '[') = second := by
        rw [List.takeWhile_eq_self_iff]
        intro c hc
        rw [bne_iff_ne]
        rintro rfl
        exact hbracket hc
      exact ⟨(name, heading), hname, hcut.trans hwhole⟩

/-- A line on which a bracket follows a word that takes no pattern. -/
def bracketedLine : Text := " move left[//x]y 3 select // to the left".toList

/-- The line is understood, and `[//x]y` is passed over: the word is no move word in full. -/
theorem readLine_move_word_bracketed :
    readLine {} 7 bracketedLine =
        ⟨some (countedMove ⟨.character, .decrement⟩ 3 true 7), []⟩ ∧
      (stripSelect (body bracketedLine)).1.words =
        [moveWord, "left[//x]y".toList, "3".toList] ∧
      ¬ ∃ entry ∈ Keyword.moves, entry.1.toList = "left[//x]y".toList := by
  have hread : readLine {} 7 bracketedLine =
      ⟨some (countedMove ⟨.character, .decrement⟩ 3 true 7), []⟩ := by decide +kernel
  have hwords : (stripSelect (body bracketedLine)).1.words =
      [moveWord, "left[//x]y".toList, "3".toList] := by decide +kernel
  refine ⟨hread, hwords, ?_⟩
  obtain ⟨second, rest, -, -, hfound, -, -, hfull, -⟩ :=
    readLine_move_word {} 7 bracketedLine _ hread rfl (by decide)
  rw [hwords] at hfound
  cases hfound
  rw [hfull]
  decide

end EditPlayer.Script
