import EditPlayer.Player.Basic
import EditPlayer.Preferences.Basic
import EditPlayer.Proofs.Occurrences
import EditPlayer.Script.Compilation
set_option autoImplicit false

/-!
# Programs hold what the player acts on

The player has a few ways out for operations that make no sense to it: a move without a direction,
an insertion without a text, and others (`Exit`).  It passes over such an operation whatever the
surface (`passesOver_of_exit?`).

A script without diagnostics gives operations of four shapes only (`Playable`), and the player acts
on each of them (`not_passesOver_of_playable`), so none takes one of these ways out.
`playable_of_mem_compile` is the main statement.
-/

namespace EditPlayer

/-! ## Ways out -/

namespace Operation

/-- Why the player passes over an operation. -/
inductive Exit where
  /-- a move has no target or no direction -/
  | moveWithoutDirection
  /-- the target and the direction of a move do not go together -/
  | moveWithoutEffect
  /-- a move to a pattern carries no pattern -/
  | moveWithoutPattern
  /-- an insertion carries no text -/
  | insertionWithoutText
  /-- a conversion is not named -/
  | conversionWithoutName
  /-- the target stands for no range -/
  | unsupportedTarget
  deriving DecidableEq, Repr, Inhabited

/-- The way out of a move with a target and a direction. -/
def moveExit? (payload : Payload) : Target → Movement → Option Exit
  | .character, .increment | .character, .decrement => none
  | .line, .increment | .line, .decrement | .line, .start | .line, .finish => none
  | .trimmedLine, .start | .trimmedLine, .finish => none
  | .emptyLine, .next | .emptyLine, .previous => none
  | .word, .start | .word, .finish | .word, .next | .word, .previous => none
  | _, .forward | _, .backward => none
  | .forwardMatch, .matchInLine | .backwardMatch, .matchInLine =>
      match payload with
      | .pattern _ _ => none
      | _ => some .moveWithoutPattern
  | _, _ => some .moveWithoutEffect

/-- The way out of an operation on the range of a target. -/
def rangeExit? : Option Target → Option Exit
  | none | some .selection | some .word | some .line | some .trimmedLine => none
  | some _ => some .unsupportedTarget

/-- The way out that the player takes at an operation, if it takes one. -/
def exit? (operation : Operation) : Option Exit :=
  match operation.kind with
  | .move =>
      match operation.target, operation.movement with
      | some target, some movement => moveExit? operation.payload target movement
      | _, _ => some .moveWithoutDirection
  | .insertText => if operation.payload.text?.isSome then none else some .insertionWithoutText
  | .copy | .select | .pushText => rangeExit? operation.target
  | .convert => if operation.conversion.isSome then none else some .conversionWithoutName
  | _ => none

end Operation

namespace Player

open Operation

variable {σ ε : Type}

/-- Executing the operation changes nothing, on any surface and with any memory. -/
def PassesOver (operation : Operation) : Prop :=
  ∀ (σ ε : Type) (surface : Surface σ ε) (memory : Memory) (state : σ),
    execute surface operation memory state = (memory, .done state)

theorem moveTo_of_exit (surface : Surface σ ε) {target : Target} {movement : Movement}
    {payload : Payload} {exit : Exit} (h : moveExit? payload target movement = some exit)
    (select : Bool) (state : σ) :
    moveTo surface target movement payload select state = .done state := by
  cases target <;> cases movement <;> simp only [moveExit?, reduceCtorEq] at h
  case forwardMatch.matchInLine | backwardMatch.matchInLine =>
    cases payload with
    | pattern text n => cases h
    | count n => rfl
    | text t => rfl
  all_goals rfl

theorem targetRange?_of_exit (surface : Surface σ ε) {target : Option Target} {exit : Exit}
    (h : rangeExit? target = some exit) (state : σ) :
    targetRange? surface target state = none := by
  cases target with
  | none => cases h
  | some target =>
    cases target <;> simp only [rangeExit?, reduceCtorEq] at h
    all_goals rfl

/-- The player passes over an operation at which it takes a way out. -/
theorem passesOver_of_exit? {operation : Operation} {exit : Exit}
    (h : operation.exit? = some exit) : PassesOver operation := by
  intro σ ε surface memory state
  unfold Operation.exit? at h
  unfold execute
  cases hkind : operation.kind <;> simp only [hkind] at h ⊢
  case move =>
    unfold move
    cases htarget : operation.target with
    | none => rfl
    | some target =>
      cases hmovement : operation.movement with
      | none => rfl
      | some movement =>
        simp only [htarget, hmovement] at h
        simp only [moveTo_of_exit surface h]
  case insertText =>
    cases htext : operation.payload.text? with
    | none => rfl
    | some text => simp [htext] at h
  case copy | select | pushText => simp only [targetRange?_of_exit surface h]
  case convert =>
    cases hconversion : operation.conversion with
    | none => rfl
    | some conversion => simp [hconversion] at h
  all_goals cases h

/-! ## Operations that the player acts on -/

end Player

namespace Operation

/-- The operations that the player acts on. -/
inductive Playable (operation : Operation) : Prop where
  /-- an insertion of a text -/
  | insertion (text : Text) (hkind : operation.kind = .insertText)
      (hpayload : operation.payload = .text text) (htarget : operation.target = none)
      (hmovement : operation.movement = none) (hconversion : operation.conversion = none)
  /-- a move by a word of the language that takes no pattern, with a count -/
  | move (word : String) (heading : Heading) (n : Nat) (hword : (word, heading) ∈ Keyword.moves)
      (hplain : heading.takesPattern = false) (hkind : operation.kind = .move)
      (htarget : operation.target = some heading.target)
      (hmovement : operation.movement = some heading.movement)
      (hpayload : operation.payload = .count n) (hn : 1 ≤ n)
  /-- a move to an occurrence of a pattern -/
  | pattern (pattern : Text) (n : Nat) (hkind : operation.kind = .move)
      (htarget : operation.target = some .forwardMatch ∨ operation.target = some .backwardMatch)
      (hmovement : operation.movement = some .matchInLine)
      (hpayload : operation.payload = .pattern pattern n) (hpattern : pattern ≠ []) (hn : 1 ≤ n)
  /-- an operation as a word of the language other than `move` fixes it -/
  | keyword (word : String) (preset : Preset) (hword : (word, preset) ∈ Keyword.operations)
      (hother : word ≠ "move") (hkind : operation.kind = preset.kind)
      (htarget : operation.target = preset.target)
      (hmovement : operation.movement = preset.movement)
      (hconversion : operation.conversion = preset.conversion)
      (hpayload : operation.payload = .count 1)

/-- Sixteen words of the language name a move without a pattern. -/
example : (Keyword.moves.filter fun entry => !entry.2.takesPattern).length = 16 := by decide

end Operation

namespace Player

open Operation

/-- A surface with one line and a part of it selected.  Its state tells whether it was asked for an
edit. -/
def probe (line : Text) : Surface Bool Empty where
  selection _ := ⟨⟨0, 0⟩, ⟨0, 2⟩⟩
  lines _ := .ofLines [line]
  textIn _ _ := []
  wordRangeAt _ _ := some ⟨⟨0, 0⟩, ⟨0, 1⟩⟩
  clipboard _ := some ['x']
  perform _ _ := .done true

@[simp] theorem probe_selection (line : Text) (state : Bool) :
    (probe line).selection state = ⟨⟨0, 0⟩, ⟨0, 2⟩⟩ := rfl

@[simp] theorem probe_clipboard (line : Text) (state : Bool) :
    (probe line).clipboard state = some ['x'] := rfl

@[simp] theorem probe_perform (line : Text) (edit : Edit) (state : Bool) :
    (probe line).perform edit state = .done true := rfl

/-- A line of three words, with the cursor of the probe at the second. -/
def threeWords : Text := "a b c".toList

/-- Steps that all ask for an edit leave their mark, if there is one at all. -/
theorem times_ne_done {step : Bool → Reply Bool Empty} (hstep : ∀ state, step state = .done true)
    {n : Nat} (hn : 1 ≤ n) (state : Bool) : Reply.times step n state ≠ .done false := by
  obtain ⟨m, rfl⟩ := Nat.exists_eq_add_of_le' hn
  have hlater : Reply.times step m true = .done true := by
    clear hn
    induction m with
    | zero => rfl
    | succ m ih => rw [Reply.times_succ, hstep, Reply.done_andThen, ih]
  rw [Reply.times_succ, hstep, Reply.done_andThen, hlater]
  simp

/-- An operation that changes the memory or asks the probe for an edit is not passed over. -/
theorem not_passesOver_of_probe {operation : Operation} (line : Text) (memory : Memory)
    (h : execute (probe line) operation memory false ≠ (memory, .done false)) :
    ¬ PassesOver operation :=
  fun hpasses => h (hpasses Bool Empty (probe line) memory false)

/-- A move with a count that has no way out asks for an edit, or breaks off. -/
theorem moveTo_probe {target : Target} {movement : Movement} {n : Nat}
    (h : moveExit? (.count n) target movement = none) (select : Bool) :
    moveTo (probe threeWords) target movement (.count n) select false ≠ .done false := by
  have hn : 1 ≤ (Payload.count n).repeats := Payload.one_le_repeats _
  cases target <;> cases movement <;> simp only [moveExit?, reduceCtorEq] at h
  case emptyLine.next | emptyLine.previous | word.next | word.previous =>
    exact times_ne_done (fun _ => rfl) hn false
  case character.backward | line.backward | trimmedLine.backward | emptyLine.backward |
      word.backward | selection.backward | forwardMatch.backward | backwardMatch.backward =>
    unfold moveTo
    dsimp only
    split
    · simp
    · exact fun hsame => nomatch hsame
  all_goals exact fun hsame => nomatch hsame

/-- A move to a pattern that is not empty asks for an edit. -/
theorem moveToPattern_probe {pattern : Text} (hpattern : pattern ≠ []) {n : Nat} (hn : 1 ≤ n)
    (course : Text.Course) (select : Bool) :
    moveToPattern (probe (List.replicate n pattern).flatten) pattern n course select false =
      .done true := by
  obtain ⟨column, hcolumn⟩ :=
    Option.isSome_iff_exists.mp (Text.nthOccurrence?_replicate hpattern hn course)
  have hlines : searchLines (.ofLines [(List.replicate n pattern).flatten]) 0 course = [0] := by
    cases course <;> rfl
  have hempty : pattern.isEmpty = false := by simpa using hpattern
  have hrange : patternRange? (.ofLines [(List.replicate n pattern).flatten]) 0 pattern n course =
      some ⟨⟨0, column⟩, ⟨0, column + pattern.length⟩⟩ := by
    rw [patternRange?, hempty, hlines]
    simp [LineView.ofLines, hcolumn]
  unfold moveToPattern
  dsimp only [probe]
  rw [hrange]

/-- A target that stands for a range stands for some text of the probe. -/
theorem targetRange?_probe {target : Option Target} (h : rangeExit? target = none) :
    ∃ range, targetRange? (probe threeWords) target false = some range ∧
      range.isEmpty = false := by
  cases target with
  | none => exact ⟨_, rfl, by decide⟩
  | some target =>
    cases target <;> simp only [rangeExit?, reduceCtorEq] at h
    all_goals exact ⟨_, rfl, by decide⟩

/-- The player acts on operations of any kind but moves and insertions, if they have no way out. -/
theorem not_passesOver_of_kind {operation : Operation} (hmove : operation.kind ≠ .move)
    (hinsertion : operation.kind ≠ .insertText) (hpause : operation.kind ≠ .pause)
    (hfinish : operation.kind ≠ .finish) (hexit : operation.exit? = none) :
    ¬ PassesOver operation := by
  refine not_passesOver_of_probe threeWords ⟨[.origin], [[]]⟩ ?_
  unfold Operation.exit? at hexit
  unfold execute
  cases hkind : operation.kind <;> simp only [hkind] at hexit ⊢
  case move => exact absurd hkind hmove
  case insertText => exact absurd hkind hinsertion
  case pause => exact absurd hkind hpause
  case finish => exact absurd hkind hfinish
  case copy =>
    obtain ⟨range, hrange, hempty⟩ := targetRange?_probe hexit
    simp [hrange, hempty]
  case select | pushText =>
    obtain ⟨range, hrange, -⟩ := targetRange?_probe hexit
    simp [hrange]
  case convert =>
    cases hconversion : operation.conversion with
    | none => simp [hconversion] at hexit
    | some conversion => exact fun hsame => nomatch congrArg Prod.snd hsame
  case find =>
    exact fun hsame =>
      times_ne_done (fun _ => rfl) (Payload.one_le_repeats _) false (congrArg Prod.snd hsame)
  all_goals simp [insertOrReplace, Selection.isEmpty]

/-- The words other than `move` name no moves and no insertions, and what they name has no way
out. -/
theorem exit?_of_mem_operations :
    ∀ entry ∈ Keyword.operations, entry.1 ≠ "move" →
      entry.2.kind ≠ .move ∧ entry.2.kind ≠ .insertText ∧ rangeExit? entry.2.target = none ∧
        (entry.2.kind = .convert → entry.2.conversion.isSome = true) := by
  decide

/-- The moves that words name have no way out, those to a pattern apart. -/
theorem moveExit?_of_mem_moves :
    ∀ entry ∈ Keyword.moves, entry.2.takesPattern = false →
      moveExit? (.count 1) entry.2.target entry.2.movement = none := by
  decide

/-- Which count a move carries makes no difference to its way out. -/
theorem moveExit?_count (n : Nat) (target : Target) (movement : Movement) :
    moveExit? (.count n) target movement = moveExit? (.count 1) target movement := by
  cases target <;> cases movement <;> rfl

/-- The player acts on every playable operation that does not stop the run. -/
theorem not_passesOver_of_playable {operation : Operation} (h : operation.Playable)
    (hpause : operation.kind ≠ .pause) (hfinish : operation.kind ≠ .finish) :
    ¬ PassesOver operation := by
  cases h with
  | insertion text hkind hpayload _ _ _ =>
    refine not_passesOver_of_probe threeWords {} ?_
    simp [execute, hkind, hpayload, Payload.text?, insertOrReplace]
  | move word heading n hword hplain hkind htarget hmovement hpayload _ =>
    refine not_passesOver_of_probe threeWords {} ?_
    have hexit : moveExit? (.count n) heading.target heading.movement = none := by
      rw [moveExit?_count]
      exact moveExit?_of_mem_moves (word, heading) hword hplain
    have hacts := moveTo_probe hexit operation.select
    simpa [execute, hkind, move, htarget, hmovement, hpayload] using hacts
  | pattern pattern n hkind htarget hmovement hpayload hpattern hn =>
    refine not_passesOver_of_probe (List.replicate n pattern).flatten {} ?_
    have hacts := moveToPattern_probe hpattern hn
    rcases htarget with htarget | htarget
    · simp [execute, hkind, move, htarget, hmovement, hpayload, moveTo, hacts]
    · simp [execute, hkind, move, htarget, hmovement, hpayload, moveTo, hacts]
  | keyword word preset hword hother hkind htarget _ hconversion _ =>
    obtain ⟨hmove, hinsertion, hrange, hnamed⟩ :=
      exit?_of_mem_operations (word, preset) hword hother
    rw [← hkind] at hmove hinsertion hnamed
    rw [← htarget] at hrange
    rw [← hconversion] at hnamed
    refine not_passesOver_of_kind hmove hinsertion hpause hfinish ?_
    unfold Operation.exit?
    cases hcase : operation.kind <;> simp_all

end Player

/-! ## Operations of a script -/

namespace Script

open Operation

variable {settings : Settings}

/-- What is looked up in a table is an entry of the table. -/
theorem mem_of_lookup? {α : Type} {table : List (String × α)} {word : Text} {found : α}
    (h : Keyword.lookup? table word = some found) : ∃ name, (name, found) ∈ table := by
  obtain ⟨⟨name, entry⟩, hfind, rfl⟩ := Option.map_eq_some_iff.mp h
  exact ⟨name, List.mem_of_find?_eq_some hfind⟩

theorem one_le_readCount? (hdefault : 1 ≤ settings.defaultCount) (word : Option Text) :
    1 ≤ readCount? settings word := by
  cases word with
  | none => exact hdefault
  | some word => exact one_le_readCount hdefault word

/-- A pattern that is read is not empty, and its occurrence is counted from 1. -/
theorem eq_of_patternPayload? (hdefault : 1 ≤ settings.defaultCount) {line : Text}
    {payload : Payload} (h : patternPayload? settings line = some payload) :
    ∃ pattern n, payload = .pattern pattern n ∧ pattern ≠ [] ∧ 1 ≤ n := by
  obtain ⟨⟨pattern, rest⟩, hfound, rfl⟩ := Option.map_eq_some_iff.mp h
  refine ⟨pattern, _, rfl, ?_, one_le_readCount? hdefault _⟩
  rintro rfl
  unfold pattern? at hfound
  split at hfound
  · cases hfound
  · rename_i hother
    exact hother rest hfound

/-- The moves to a pattern are named by the two words that take one. -/
theorem target_of_takesPattern :
    ∀ entry ∈ Keyword.moves, entry.2.takesPattern = true →
      (entry.2.target = .forwardMatch ∨ entry.2.target = .backwardMatch) ∧
        entry.2.movement = .matchInLine := by
  decide

/-- A move without unknown words is playable. -/
theorem playable_of_readMove (hdefault : 1 ≤ settings.defaultCount) {start operation : Operation}
    (hkind : start.kind = .move) {reported : List Text} {line second : Text} {rest : List Text}
    (hoperation : (readMove settings start reported line second rest).operation = some operation)
    (hknown : (readMove settings start reported line second rest).unknown = []) :
    operation.Playable := by
  unfold readMove at hoperation hknown
  dsimp only at hoperation hknown
  split at hoperation
  · rename_i hnone
    simp [hnone] at hknown
  · rename_i heading hheading
    obtain ⟨name, hname⟩ := mem_of_lookup? hheading
    simp only [hheading] at hknown
    cases hpattern : heading.takesPattern with
    | true =>
      obtain ⟨htarget, hmovement⟩ := target_of_takesPattern (name, heading) hname hpattern
      cases hpayload : patternPayload? settings line with
      | none => simp [hpattern, hpayload] at hknown
      | some payload =>
        obtain ⟨pattern, n, rfl, hne, hn⟩ := eq_of_patternPayload? hdefault hpayload
        simp only [hpattern, hpayload, if_true, Option.some.injEq] at hoperation
        subst hoperation
        refine .pattern pattern n hkind ?_ (congrArg some hmovement) rfl hne hn
        exact htarget.imp (congrArg some) (congrArg some)
    | false =>
      simp only [hpattern, Bool.false_eq_true, if_false, Option.some.injEq] at hoperation
      subst hoperation
      exact .move name heading _ hname hpattern hkind rfl rfl rfl (one_le_readCount? hdefault _)

/-- A word that names no move is not `move`. -/
theorem ne_move_of_takesHeading :
    ∀ entry ∈ Keyword.operations, entry.2.takesHeading = false → entry.1 ≠ "move" := by
  decide

/-- An operation as a word other than `move` fixes it is playable. -/
theorem playable_apply {word : Text} {preset : Preset}
    (hword : Keyword.operation? word = some preset) (hother : preset.takesHeading = false)
    (select : Bool) (number : Nat) :
    (preset.apply { kind := .move, select, sourceLine := number }).Playable := by
  obtain ⟨name, hname⟩ := mem_of_lookup? hword
  have hmove := ne_move_of_takesHeading (name, preset) hname hother
  exact .keyword name preset hname hmove rfl (Option.or_none) (Option.or_none) (Option.or_none) rfl

/-- An instruction without unknown words is playable. -/
theorem playable_of_readInstruction (hdefault : 1 ≤ settings.defaultCount) {number : Nat}
    {line : Text} {select : Bool} {operation : Operation}
    (hoperation : (readInstruction settings number line select).operation = some operation)
    (hknown : (readInstruction settings number line select).unknown = []) :
    operation.Playable := by
  unfold readInstruction at hoperation hknown
  dsimp only at hoperation hknown
  cases hwords : line.words with
  | nil => simp [hwords] at hknown
  | cons first rest =>
    simp only [hwords] at hoperation hknown
    cases hpreset : Keyword.operation? first with
    | none =>
      cases rest with
      | nil => simp [hpreset] at hknown
      | cons second rest =>
        simp only [hpreset] at hoperation hknown
        exact playable_of_readMove hdefault rfl hoperation hknown
    | some preset =>
      cases hheading : preset.takesHeading with
      | true =>
        have hkind : preset.kind = .move := by simpa [Preset.takesHeading] using hheading
        cases rest with
        | nil => simp [hpreset, hheading] at hknown
        | cons second rest =>
          simp only [hpreset, hheading, if_true] at hoperation hknown
          exact playable_of_readMove hdefault hkind hoperation hknown
      | false =>
        cases rest with
        | nil =>
          simp only [hpreset, Option.some.injEq] at hoperation
          rw [← hoperation]
          exact playable_apply hpreset hheading select number
        | cons second rest => simp [hpreset, hheading] at hknown

/-- A line without unknown words gives a playable operation, or none. -/
theorem playable_of_readLine (hdefault : 1 ≤ settings.defaultCount) {number : Nat} {raw : Text}
    {operation : Operation} (hoperation : (readLine settings number raw).operation = some operation)
    (hknown : (readLine settings number raw).unknown = []) : operation.Playable := by
  unfold readLine at hoperation hknown
  dsimp only at hoperation hknown
  split at hoperation
  · cases hoperation
  · rename_i hline
    rw [if_neg hline] at hknown
    split at hoperation
    · rename_i text _
      cases hoperation
      exact .insertion text rfl rfl rfl rfl rfl
    · rename_i hnone
      simp only [hnone] at hknown
      exact playable_of_readInstruction hdefault hoperation hknown

/-- In a script without diagnostics no line has an unknown word. -/
theorem unknown_eq_nil_of_diagnostics {source : Text}
    (h : (compile settings source).diagnostics = []) {raw : Text} {number : Nat}
    (hline : (raw, number) ∈ numberedLines source) :
    (readLine settings number raw).unknown = [] := by
  have hnone := List.flatMap_eq_nil_iff.mp h (raw, number) hline
  exact List.map_eq_nil_iff.mp hnone

/-- Every operation of a script without diagnostics, read with usable preferences, has one of the
four shapes that the player acts on: it takes no way out at it, and it passes over it on all
surfaces only if the operation stops the run. -/
theorem playable_of_mem_compile (preferences : Preferences) (husable : preferences.invalid? = none)
    (source : Text) (hload : (compile preferences.settings source).diagnostics = [])
    (operation : Operation)
    (hmem : operation ∈ (compile preferences.settings source).program.operations) :
    operation.Playable ∧ operation.exit? = none ∧
      (operation.kind ≠ .pause → operation.kind ≠ .finish → ¬ Player.PassesOver operation) := by
  have hdefault : 1 ≤ preferences.settings.defaultCount := by
    unfold Preferences.invalid? at husable
    split at husable
    · cases husable
    · split at husable
      · cases husable
      · omega
  obtain ⟨⟨raw, number⟩, hline, hoperation⟩ := List.mem_filterMap.mp hmem
  have hplayable : operation.Playable :=
    playable_of_readLine hdefault hoperation (unknown_eq_nil_of_diagnostics hload hline)
  refine ⟨hplayable, ?_, Player.not_passesOver_of_playable hplayable⟩
  by_cases hpause : operation.kind = .pause
  · simp [Operation.exit?, hpause]
  · by_cases hfinish : operation.kind = .finish
    · simp [Operation.exit?, hfinish]
    · cases hexit : operation.exit? with
      | none => rfl
      | some exit =>
        have hpasses := Player.passesOver_of_exit? hexit
        exact absurd hpasses (Player.not_passesOver_of_playable hplayable hpause hfinish)

/-- A script with a line of each shape. -/
def fourShapes : Text :=
  "[ab] // text\nmove left select\nmove match-in-line-backward [x//y] 2\ncopy-word".toList

/-- What the third line says. -/
def backToPattern : Operation :=
  { kind := .move
    target := some .backwardMatch
    movement := some .matchInLine
    payload := .pattern ['x', '/', '/', 'y'] 2
    sourceLine := 3 }

theorem playable_backToPattern :
    (compile { countDigits := 1, defaultCount := 4 } fourShapes).diagnostics = [] ∧
      backToPattern ∈
        (compile { countDigits := 1, defaultCount := 4 } fourShapes).program.operations ∧
      backToPattern.Playable := by
  have hload : (compile { countDigits := 1, defaultCount := 4 } fourShapes).diagnostics = [] := by
    decide +kernel
  have hmem : backToPattern ∈
      (compile { countDigits := 1, defaultCount := 4 } fourShapes).program.operations := by
    decide +kernel
  obtain ⟨hplayable, -, -⟩ :=
    playable_of_mem_compile { settings := { countDigits := 1, defaultCount := 4 } } rfl fourShapes
      hload backToPattern hmem
  exact ⟨hload, hmem, hplayable⟩

end Script

end EditPlayer
