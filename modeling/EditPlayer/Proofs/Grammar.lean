import EditPlayer.Script.Compilation
set_option autoImplicit false

/-!
# The grammar of a script

A line of a script, trimmed and without its comment, is empty, a text in brackets or an
instruction.  An instruction is one word that names an operation other than a move, or `move` with a
word that says where to go; two of these words go with a pattern in brackets (`Instruction`).

The grammar is stated on the text of a line, without the functions that read the line.  These are
then described one by one: what a bracket search finds (`pattern?_eq_some_iff`), what is left
without `select` (`withoutSelect_iff`), and which words a table knows (`isOperationWord_iff`).
`diagnostics_eq_nil_iff_grammatical` is the main statement: a script has no diagnostics just when
all of its lines belong to the grammar.
-/

namespace EditPlayer.Script

/-! ## The lines of the language -/

/-- The line has a text that is not empty between its first opening and its last closing
bracket. -/
def HasPattern (line : Text) : Prop :=
  ∃ start pattern rest, line = start ++ '[' :: (pattern ++ ']' :: rest) ∧
    '[' ∉ start ∧ ']' ∉ rest ∧ pattern ≠ []

/-- The line is `head` followed by the word `select`, which is all of it or stands behind a
blank. -/
structure EndsInSelect (line head : Text) : Prop where
  eq : line = head ++ selectWord
  apart : head = [] ∨ ∃ c, head.getLast? = some c ∧ isBlank c = true

/-- What is left of a line without a final `select` and the white space in front of it. -/
inductive WithoutSelect (line : Text) : Text → Prop where
  | cut {head : Text} (hend : EndsInSelect line head) : WithoutSelect line head.trimEnd
  | whole (hnone : ∀ head, ¬ EndsInSelect line head) : WithoutSelect line line

/-- The text is a word of the language for an operation other than a move. -/
def IsOperationWord (word : Text) : Prop :=
  ∃ name preset, (name, preset) ∈ Keyword.operations ∧ name ≠ "move" ∧ name.toList = word

/-- The text is a word of the language for a move that takes no pattern. -/
def IsPlainMoveWord (word : Text) : Prop :=
  ∃ name heading, (name, heading) ∈ Keyword.moves ∧ heading.takesPattern = false ∧
    name.toList = word

/-- The text is a word of the language for a move to a pattern. -/
def IsPatternWord (word : Text) : Prop :=
  word = "match-in-line-forward".toList ∨ word = "match-in-line-backward".toList

/-- The instructions, without a final `select`. -/
inductive Instruction (line : Text) : Prop where
  | operation {word : Text} (hwords : line.words = [word]) (hword : IsOperationWord word)
  | move {second : Text} {rest : List Text}
      (hwords : line.words = "move".toList :: second :: rest)
      (hword : IsPlainMoveWord (second.takeWhile (· != '[')))
  | pattern {second : Text} {rest : List Text}
      (hwords : line.words = "move".toList :: second :: rest)
      (hword : IsPatternWord (second.takeWhile (· != '['))) (hpattern : HasPattern line)

/-- The lines of the language, trimmed and without their comments. -/
inductive Grammatical (line : Text) : Prop where
  | empty (hempty : line = [])
  | literal (text : Text) (htext : line = '[' :: (text ++ [']']))
  | instruction {rest : Text} (hselect : WithoutSelect line rest) (hrest : Instruction rest)

/-! ## Brackets -/

/-- A text in brackets is all between the two ends of the line. -/
theorem literal?_eq_some_iff {line text : Text} :
    literal? line = some text ↔ line = '[' :: (text ++ [']']) := by
  constructor
  · intro h
    unfold literal? at h
    split at h
    · rename_i rest
      split at h
      · rename_i hlast
        obtain ⟨init, rfl⟩ := List.getLast?_eq_some_iff.mp hlast
        rw [List.dropLast_concat, Option.some.injEq] at h
        rw [h]
      · cases h
    · cases h
  · rintro rfl
    simp [literal?]

theorem not_mem_of_cutLast?_eq_none {separator : Char} {text : Text}
    (h : cutLast? separator text = none) : separator ∉ text := by
  induction text with
  | nil => simp
  | cons c rest ih =>
    rw [cutLast?] at h
    split at h
    · cases h
    · rename_i hrest
      split at h
      · cases h
      · rename_i hc
        rw [List.mem_cons, not_or]
        exact ⟨Ne.symm hc, ih hrest⟩

theorem cutLast?_of_not_mem {separator : Char} {text : Text} (h : separator ∉ text) :
    cutLast? separator text = none := by
  induction text with
  | nil => rfl
  | cons c rest ih =>
    rw [List.mem_cons, not_or] at h
    rw [cutLast?, ih h.2, if_neg (Ne.symm h.1)]

/-- The last occurrence of a character is the one behind which it does not occur again. -/
theorem cutLast?_eq_some_iff {separator : Char} {text left right : Text} :
    cutLast? separator text = some (left, right) ↔
      text = left ++ separator :: right ∧ separator ∉ right := by
  constructor
  · intro h
    induction text generalizing left with
    | nil => cases h
    | cons c rest ih =>
      rw [cutLast?] at h
      split at h
      · rename_i found
        cases h
        obtain ⟨hrest, hright⟩ := ih found
        exact ⟨by rw [hrest, List.cons_append], hright⟩
      · rename_i hnone
        split at h
        · rename_i hc
          cases h
          exact ⟨by rw [hc, List.nil_append], not_mem_of_cutLast?_eq_none hnone⟩
        · cases h
  · rintro ⟨rfl, hright⟩
    induction left with
    | nil => rw [List.nil_append, cutLast?, cutLast?_of_not_mem hright, if_pos rfl]
    | cons c left ih => rw [List.cons_append, cutLast?, ih]

/-- What follows the first opening bracket. -/
theorem afterOpen?_eq_some_iff {line rest : Text} :
    afterOpen? line = some rest ↔ ∃ start, line = start ++ '[' :: rest ∧ '[' ∉ start := by
  unfold afterOpen?
  constructor
  · intro h
    split at h
    · cases h
    · rename_i c tail hdrop
      cases h
      refine ⟨line.takeWhile (· != '['), ?_, ?_⟩
      · have hc : c = '[' := by
          have := List.head?_dropWhile_not (· != '[') line
          simpa [hdrop] using this
        subst hc
        rw [← hdrop, List.takeWhile_append_dropWhile]
      · intro hmem
        have := List.all_eq_true.mp List.all_takeWhile _ hmem
        simp at this
  · rintro ⟨start, rfl, hstart⟩
    have hall : ∀ c ∈ start, (c != '[') = true := by
      intro c hc
      simp only [bne_iff_ne, ne_eq]
      rintro rfl
      exact hstart hc
    rw [List.dropWhile_append_of_pos hall, List.dropWhile_cons_of_neg (by simp)]

/-- The pattern of a line stands between its first opening and its last closing bracket. -/
theorem pattern?_eq_some_iff {line pattern rest : Text} :
    pattern? line = some (pattern, rest) ↔
      ∃ start, line = start ++ '[' :: (pattern ++ ']' :: rest) ∧ '[' ∉ start ∧ ']' ∉ rest ∧
        pattern ≠ [] := by
  have hfound : (afterOpen? line).bind (cutLast? ']') = some (pattern, rest) ↔
      ∃ start, line = start ++ '[' :: (pattern ++ ']' :: rest) ∧ '[' ∉ start ∧ ']' ∉ rest := by
    rw [Option.bind_eq_some_iff]
    constructor
    · rintro ⟨tail, htail, hcut⟩
      obtain ⟨start, rfl, hstart⟩ := afterOpen?_eq_some_iff.mp htail
      obtain ⟨rfl, hrest⟩ := cutLast?_eq_some_iff.mp hcut
      exact ⟨start, rfl, hstart, hrest⟩
    · rintro ⟨start, rfl, hstart, hrest⟩
      exact ⟨_, afterOpen?_eq_some_iff.mpr ⟨start, rfl, hstart⟩,
        cutLast?_eq_some_iff.mpr ⟨rfl, hrest⟩⟩
  have hdrop : pattern? line = some (pattern, rest) ↔
      (afterOpen? line).bind (cutLast? ']') = some (pattern, rest) ∧ pattern ≠ [] := by
    unfold pattern?
    split
    · rename_i other heq
      simp only [reduceCtorEq, heq, Option.some.injEq, Prod.mk.injEq, false_iff, not_and,
        Decidable.not_not]
      exact fun h => h.1.symm
    · rename_i hother
      refine ⟨fun h => ⟨h, ?_⟩, fun h => h.1⟩
      rintro rfl
      exact hother rest h
  rw [hdrop, hfound]
  constructor
  · rintro ⟨⟨start, hline, hstart, hrest⟩, hne⟩
    exact ⟨start, hline, hstart, hrest, hne⟩
  · rintro ⟨start, hline, hstart, hrest, hne⟩
    exact ⟨⟨start, hline, hstart, hrest⟩, hne⟩

/-- A line gives a pattern and a count just when it has a pattern. -/
theorem isSome_patternPayload?_iff (settings : Settings) (line : Text) :
    (patternPayload? settings line).isSome = true ↔ HasPattern line := by
  rw [patternPayload?, Option.isSome_map, Option.isSome_iff_exists]
  constructor
  · rintro ⟨⟨pattern, rest⟩, hfound⟩
    obtain ⟨start, h⟩ := pattern?_eq_some_iff.mp hfound
    exact ⟨start, pattern, rest, h⟩
  · rintro ⟨start, pattern, rest, h⟩
    exact ⟨(pattern, rest), pattern?_eq_some_iff.mpr ⟨start, h⟩⟩

/-! ## A final `select` -/

/-- A text that ends in a given way is cut there. -/
theorem dropSuffix?_eq_some_iff {ending text head : Text} :
    Text.dropSuffix? ending text = some head ↔ text = head ++ ending := by
  unfold Text.dropSuffix?
  constructor
  · intro h
    split at h
    · rename_i hsuffix
      obtain ⟨init, rfl⟩ := List.isSuffixOf_iff_suffix.mp hsuffix
      simpa using h
    · cases h
  · rintro rfl
    have hsuffix : ending.isSuffixOf (head ++ ending) = true :=
      List.isSuffixOf_iff_suffix.mpr (List.suffix_append head ending)
    rw [if_pos hsuffix]
    simp

theorem apart_iff (head : Text) :
    (head.isEmpty || head.getLast?.any isBlank) = true ↔
      head = [] ∨ ∃ c, head.getLast? = some c ∧ isBlank c = true := by
  rw [Bool.or_eq_true, List.isEmpty_iff, Option.any_eq_true]

/-- The line without a final `select` is what the reader goes on with. -/
theorem withoutSelect_iff {line rest : Text} :
    WithoutSelect line rest ↔ (stripSelect line).1 = rest := by
  unfold stripSelect
  cases hdrop : Text.dropSuffix? selectWord line with
  | none =>
    have hnone : ∀ head, ¬ EndsInSelect line head := by
      intro head hend
      rw [dropSuffix?_eq_some_iff.mpr hend.eq] at hdrop
      cases hdrop
    refine ⟨fun h => ?_, fun h => h ▸ .whole hnone⟩
    cases h with
    | cut hend => exact absurd hend (hnone _)
    | whole => rfl
  | some head =>
    have hline : line = head ++ selectWord := dropSuffix?_eq_some_iff.mp hdrop
    dsimp only
    split
    · rename_i hapart
      have hend : EndsInSelect line head := ⟨hline, (apart_iff head).mp hapart⟩
      refine ⟨fun h => ?_, fun h => h ▸ .cut hend⟩
      cases h with
      | cut hother =>
        rw [List.append_cancel_right (hline.symm.trans hother.eq)]
      | whole hnone => exact absurd hend (hnone head)
    · rename_i hapart
      have hnone : ∀ head, ¬ EndsInSelect line head := by
        intro other hother
        rw [List.append_cancel_right (hline.symm.trans hother.eq)] at hapart
        exact hapart ((apart_iff other).mpr hother.apart)
      refine ⟨fun h => ?_, fun h => h ▸ .whole hnone⟩
      cases h with
      | cut hend => exact absurd hend (hnone _)
      | whole => rfl

/-! ## Words of the language -/

/-- What a table gives for a word is an entry with exactly that word. -/
theorem exists_mem_of_lookup? {α : Type} {table : List (String × α)} {word : Text} {found : α}
    (h : Keyword.lookup? table word = some found) :
    ∃ name, (name, found) ∈ table ∧ name.toList = word := by
  obtain ⟨⟨name, entry⟩, hfind, rfl⟩ := Option.map_eq_some_iff.mp h
  exact ⟨name, List.mem_of_find?_eq_some hfind, by simpa using List.find?_some hfind⟩

/-- A table knows the words of its entries. -/
theorem exists_lookup?_of_mem {α : Type} {table : List (String × α)} {name : String} {entry : α}
    (h : (name, entry) ∈ table) : ∃ found, Keyword.lookup? table name.toList = some found := by
  have hfind : (table.find? fun entry => entry.1.toList == name.toList).isSome = true :=
    List.find?_isSome.mpr ⟨(name, entry), h, by simp⟩
  obtain ⟨found, hfound⟩ := Option.isSome_iff_exists.mp hfind
  exact ⟨found.2, by rw [Keyword.lookup?, hfound, Option.map_some]⟩

/-- Only `move` takes a second word. -/
theorem takesHeading_of_mem_operations :
    ∀ entry ∈ Keyword.operations, entry.2.takesHeading = (entry.1 == "move") := by
  decide

/-- Only two move words take a pattern. -/
theorem takesPattern_of_mem_moves :
    ∀ entry ∈ Keyword.moves, entry.2.takesPattern =
      (entry.1 == "match-in-line-forward" || entry.1 == "match-in-line-backward") := by
  decide

/-- The words other than `move` are those that name an operation and take no second word. -/
theorem isOperationWord_iff (word : Text) :
    IsOperationWord word ↔
      ∃ preset, Keyword.operation? word = some preset ∧ preset.takesHeading = false := by
  constructor
  · rintro ⟨name, preset, hmem, hother, rfl⟩
    obtain ⟨found, hfound⟩ := exists_lookup?_of_mem hmem
    obtain ⟨name', hmem', hname⟩ := exists_mem_of_lookup? hfound
    refine ⟨found, hfound, ?_⟩
    rw [takesHeading_of_mem_operations (name', found) hmem']
    simpa [String.toList_inj.mp hname] using hother
  · rintro ⟨preset, hpreset, hheading⟩
    obtain ⟨name, hmem, rfl⟩ := exists_mem_of_lookup? hpreset
    refine ⟨name, preset, hmem, ?_, rfl⟩
    rw [takesHeading_of_mem_operations (name, preset) hmem] at hheading
    simpa using hheading

/-- The word that takes a second word is `move`. -/
theorem eq_move_iff (word : Text) :
    word = "move".toList ↔
      ∃ preset, Keyword.operation? word = some preset ∧ preset.takesHeading = true := by
  constructor
  · rintro rfl
    exact ⟨{ kind := .move }, by decide, rfl⟩
  · rintro ⟨preset, hpreset, hheading⟩
    obtain ⟨name, hmem, rfl⟩ := exists_mem_of_lookup? hpreset
    rw [takesHeading_of_mem_operations (name, preset) hmem, beq_iff_eq] at hheading
    exact congrArg String.toList hheading

theorem isPlainMoveWord_iff (word : Text) :
    IsPlainMoveWord word ↔
      ∃ heading, Keyword.move? word = some heading ∧ heading.takesPattern = false := by
  constructor
  · rintro ⟨name, heading, hmem, hplain, rfl⟩
    obtain ⟨found, hfound⟩ := exists_lookup?_of_mem hmem
    obtain ⟨name', hmem', hname⟩ := exists_mem_of_lookup? hfound
    refine ⟨found, hfound, ?_⟩
    rw [takesPattern_of_mem_moves (name', found) hmem', String.toList_inj.mp hname,
      ← takesPattern_of_mem_moves (name, heading) hmem, hplain]
  · rintro ⟨heading, hheading, hplain⟩
    obtain ⟨name, hmem, rfl⟩ := exists_mem_of_lookup? hheading
    exact ⟨name, heading, hmem, hplain, rfl⟩

theorem isPatternWord_iff (word : Text) :
    IsPatternWord word ↔
      ∃ heading, Keyword.move? word = some heading ∧ heading.takesPattern = true := by
  constructor
  · rintro (rfl | rfl)
    · exact ⟨⟨.forwardMatch, .matchInLine⟩, by decide, rfl⟩
    · exact ⟨⟨.backwardMatch, .matchInLine⟩, by decide, rfl⟩
  · rintro ⟨heading, hheading, hpattern⟩
    obtain ⟨name, hmem, rfl⟩ := exists_mem_of_lookup? hheading
    rw [takesPattern_of_mem_moves (name, heading) hmem, Bool.or_eq_true, beq_iff_eq,
      beq_iff_eq] at hpattern
    exact hpattern.imp (congrArg String.toList) (congrArg String.toList)

/-! ## Instructions -/

variable {settings : Settings}

/-- A move is understood if its second word is a move word, and goes with a pattern where it takes
one. -/
theorem unknown_readMove_eq_nil_iff {operation : Operation} {line second : Text}
    {rest : List Text} :
    (readMove settings operation [] line second rest).unknown = [] ↔
      IsPlainMoveWord (second.takeWhile (· != '[')) ∨
        IsPatternWord (second.takeWhile (· != '[')) ∧ HasPattern line := by
  rw [isPlainMoveWord_iff, isPatternWord_iff, ← isSome_patternPayload?_iff settings]
  unfold readMove
  dsimp only
  cases hheading : Keyword.move? (second.takeWhile (· != '[')) with
  | none => simp
  | some heading =>
    cases htakes : heading.takesPattern with
    | false => simp [htakes]
    | true => cases patternPayload? settings line <;> simp [htakes]

/-- A word that was not understood stays reported. -/
theorem unknown_readMove_ne_nil {operation : Operation} {first line second : Text}
    {rest : List Text} :
    (readMove settings operation [first] line second rest).unknown ≠ [] := by
  unfold readMove
  dsimp only
  split
  · simp
  · split
    · split <;> simp
    · simp

theorem instruction_singleton_iff {line first : Text} (hwords : line.words = [first]) :
    Instruction line ↔ IsOperationWord first := by
  constructor
  · intro h
    cases h with
    | operation hone hword =>
      rw [hwords, List.singleton_inj] at hone
      exact hone ▸ hword
    | move hmany | pattern hmany =>
      rw [hwords] at hmany
      cases hmany
  · exact .operation hwords

theorem instruction_cons_cons_iff {line first second : Text} {rest : List Text}
    (hwords : line.words = first :: second :: rest) :
    Instruction line ↔ first = "move".toList ∧
      (IsPlainMoveWord (second.takeWhile (· != '[')) ∨
        IsPatternWord (second.takeWhile (· != '[')) ∧ HasPattern line) := by
  constructor
  · intro h
    cases h with
    | operation hone =>
      rw [hwords] at hone
      cases hone
    | move hmany hword =>
      rw [hwords] at hmany
      cases hmany
      exact ⟨rfl, .inl hword⟩
    | pattern hmany hword hpattern =>
      rw [hwords] at hmany
      cases hmany
      exact ⟨rfl, .inr ⟨hword, hpattern⟩⟩
  · rintro ⟨rfl, hword | ⟨hword, hpattern⟩⟩
    · exact .move hwords hword
    · exact .pattern hwords hword hpattern

/-- The reader understands exactly the instructions. -/
theorem unknown_readInstruction_eq_nil_iff {number : Nat} {line : Text} {select : Bool} :
    (readInstruction settings number line select).unknown = [] ↔ Instruction line := by
  unfold readInstruction
  dsimp only
  split
  · rename_i hwords
    refine ⟨fun h => (List.cons_ne_nil _ _ h).elim, fun h => ?_⟩
    cases h with
    | operation hother | move hother | pattern hother =>
      rw [hwords] at hother
      cases hother
  · rename_i first rest hwords
    cases hpreset : Keyword.operation? first with
    | none =>
      have hunknown : ∀ preset, Keyword.operation? first ≠ some preset := by
        intro preset hsome
        rw [hpreset] at hsome
        cases hsome
      cases rest with
      | nil =>
        rw [instruction_singleton_iff hwords, isOperationWord_iff]
        refine ⟨fun h => (List.cons_ne_nil _ _ h).elim, ?_⟩
        rintro ⟨preset, hsome, -⟩
        exact absurd hsome (hunknown preset)
      | cons second rest =>
        rw [instruction_cons_cons_iff hwords, eq_move_iff]
        refine ⟨fun h => (unknown_readMove_ne_nil h).elim, ?_⟩
        rintro ⟨⟨preset, hsome, -⟩, -⟩
        exact absurd hsome (hunknown preset)
    | some preset =>
      have hheading : (∃ other, some preset = some other ∧ other.takesHeading = true) ↔
          preset.takesHeading = true := by
        simp
      cases rest with
      | nil =>
        rw [instruction_singleton_iff hwords, isOperationWord_iff, hpreset]
        cases htakes : preset.takesHeading <;> simp [htakes]
      | cons second rest =>
        rw [instruction_cons_cons_iff hwords, eq_move_iff, hpreset, hheading]
        cases htakes : preset.takesHeading with
        | true => simpa [htakes] using unknown_readMove_eq_nil_iff
        | false => simp [htakes]

/-- The reader understands exactly the lines of the language. -/
theorem unknown_readLine_eq_nil_iff {number : Nat} {raw : Text} :
    (readLine settings number raw).unknown = [] ↔ Grammatical (body raw) := by
  unfold readLine
  dsimp only
  split
  · rename_i hempty
    exact ⟨fun _ => .empty (List.isEmpty_iff.mp hempty), fun _ => rfl⟩
  · rename_i hempty
    split
    · rename_i text htext
      exact ⟨fun _ => .literal text (literal?_eq_some_iff.mp htext), fun _ => rfl⟩
    · rename_i hnone
      rw [unknown_readInstruction_eq_nil_iff]
      refine ⟨fun h => .instruction (withoutSelect_iff.mpr rfl) h, fun h => ?_⟩
      cases h with
      | empty hnil => exact absurd (List.isEmpty_iff.mpr hnil) hempty
      | literal text htext =>
        rw [literal?_eq_some_iff.mpr htext] at hnone
        cases hnone
      | instruction hselect hrest => exact withoutSelect_iff.mp hselect ▸ hrest

/-- A script has no diagnostics just when every line of it, trimmed and without its comment, is a
line of the language. -/
theorem diagnostics_eq_nil_iff_grammatical (settings : Settings) (source : Text) :
    (compile settings source).diagnostics = [] ↔
      ∀ raw ∈ source.splitOn '\n', Grammatical (stripComment raw.trim) := by
  constructor
  · intro h raw hraw
    obtain ⟨number, hline⟩ : ∃ number, (raw, number) ∈ numberedLines source := by
      obtain ⟨i, hi, rfl⟩ := List.getElem_of_mem hraw
      exact ⟨1 + i, List.mk_add_mem_zipIdx_iff_getElem?.mpr (List.getElem?_eq_getElem hi)⟩
    have hnone := List.flatMap_eq_nil_iff.mp h (raw, number) hline
    exact unknown_readLine_eq_nil_iff.mp (List.map_eq_nil_iff.mp hnone)
  · intro h
    refine List.flatMap_eq_nil_iff.mpr fun ⟨raw, number⟩ hline => ?_
    have hraw : raw ∈ source.splitOn '\n' := List.fst_mem_of_mem_zipIdx hline
    exact List.map_eq_nil_iff.mpr (unknown_readLine_eq_nil_iff.mpr (h raw hraw))

/-- A script with brackets in a comment, a mark of a comment in brackets, and white space of
several kinds. -/
def fourLines : Text :=
  "[a]//b]\n\n\tmove match-in-line-forward[x // ]] 2 select // ]\r\ncopy-word\u00a0 select".toList

theorem grammatical_copyWord :
    (compile {} fourLines).diagnostics = [] ∧
      "copy-word\u00a0 select".toList ∈ fourLines.splitOn '\n' ∧
      Grammatical (stripComment (Text.trim "copy-word\u00a0 select".toList)) := by
  have hload : (compile {} fourLines).diagnostics = [] := by decide +kernel
  have hmem : "copy-word\u00a0 select".toList ∈ fourLines.splitOn '\n' := by decide +kernel
  exact ⟨hload, hmem, (diagnostics_eq_nil_iff_grammatical {} fourLines).mp hload _ hmem⟩

/-- The lines of the language if the white space in front of `select` were kept. -/
def GrammaticalUntrimmed (line : Text) : Prop :=
  line = [] ∨ (∃ text, line = '[' :: (text ++ [']'])) ∨
    ∃ rest, (EndsInSelect line rest ∨ rest = line ∧ ∀ head, ¬ EndsInSelect line head) ∧
      Instruction rest

/-- A word with a no-break space behind it, which is white space but no blank. -/
def spacedWord : Text := "copy-word\u00a0 ".toList

/-- The white space in front of `select` has to be dropped: it may end in more than blanks. -/
theorem not_iff_grammaticalUntrimmed :
    ¬ ((compile {} (spacedWord ++ selectWord)).diagnostics = [] ↔
      ∀ raw ∈ (spacedWord ++ selectWord).splitOn '\n',
        GrammaticalUntrimmed (stripComment raw.trim)) := by
  have hload : (compile {} (spacedWord ++ selectWord)).diagnostics = [] := by decide +kernel
  have hlines : spacedWord ++ selectWord ∈ (spacedWord ++ selectWord).splitOn '\n' := by
    decide +kernel
  have hbody : stripComment (spacedWord ++ selectWord).trim = spacedWord ++ selectWord := by
    decide +kernel
  have hend : EndsInSelect (spacedWord ++ selectWord) spacedWord :=
    ⟨rfl, .inr ⟨' ', by decide, rfl⟩⟩
  have hwords : spacedWord.words = ["copy-word\u00a0".toList] := by decide +kernel
  have hunknown : Keyword.operation? "copy-word\u00a0".toList = none := by decide +kernel
  have hinstruction : ¬ Instruction spacedWord := by
    rw [instruction_singleton_iff hwords, isOperationWord_iff, hunknown]
    rintro ⟨preset, hpreset, -⟩
    cases hpreset
  intro h
  have hline := h.mp hload _ hlines
  rw [hbody] at hline
  rcases hline with hempty | ⟨text, htext⟩ | ⟨rest, hcut | ⟨-, hnone⟩, hrest⟩
  · exact absurd hempty (by decide)
  · have hhead : some 'c' = some '[' := congrArg List.head? htext
    exact absurd hhead (by decide)
  · rw [← List.append_cancel_right hcut.eq] at hrest
    exact hinstruction hrest
  · exact hnone spacedWord hend

end EditPlayer.Script
