import EditPlayer.Proofs.CleanScripts
import EditPlayer.Proofs.Comments
import EditPlayer.Proofs.Counts
import EditPlayer.Proofs.Grammar
set_option autoImplicit false

/-!
# Texts and patterns as they are written

A text in brackets reaches its operation character by character, whatever it holds, as long as no
pair of slashes in it follows a closing bracket; then the slashes would begin a comment
(`operations_literalLine_iff`).  The same holds for the pattern of a move (`readLine_patternLine`),
whose brackets stand between the word of the move and the count.  White space around the line and a
comment behind it change nothing.  `payloads_verbatim` collects these statements.
-/

namespace EditPlayer

/-! ## Words -/

namespace Text

/-- A blank divides the words before it from those behind it. -/
theorem words_append_blank {c : Char} (hc : isBlank c = true) (text rest : Text) :
    words (text ++ c :: rest) = words text ++ words rest := by
  rw [words, splitWhere_append_separator hc, List.filter_append, words, words]

/-- A text without blanks is one word. -/
theorem words_of_forall {word : Text} (hne : word ≠ []) (h : ∀ c ∈ word, isBlank c = false) :
    words word = [word] := by
  rw [words, splitWhere_of_forall h]
  simp [hne]

/-- A word in front of a blank is the first one. -/
theorem words_append_of_forall {word : Text} (hne : word ≠ [])
    (h : ∀ c ∈ word, isBlank c = false) {c : Char} (hc : isBlank c = true) (rest : Text) :
    words (word ++ c :: rest) = word :: words rest := by
  rw [words_append_blank hc, words_of_forall hne h, List.singleton_append]

end Text

namespace Script

variable (settings : Settings)

/-! ## A script of one line -/

theorem numberedLines_of_not_mem {source : Text} (h : '\n' ∉ source) :
    numberedLines source = [(source, 1)] := by
  rw [numberedLines, Text.splitOn_of_not_mem h]
  rfl

theorem operations_of_not_mem {source : Text} (h : '\n' ∉ source) :
    (compile settings source).program.operations =
      (readLine settings 1 source).operation.toList := by
  dsimp only [compile, Program.ofSource]
  rw [numberedLines_of_not_mem h, operationsOf]
  cases hread : (readLine settings 1 source).operation <;> simp [hread]

theorem isLoadable_of_not_mem {source : Text} (h : '\n' ∉ source) :
    (compile settings source).isLoadable = (readLine settings 1 source).unknown.isEmpty := by
  dsimp only [compile, Compilation.isLoadable]
  rw [numberedLines_of_not_mem h, diagnosticsOf, List.flatMap_singleton]
  simp [lineDiagnostics]

/-! ## Texts -/

/-- The line that inserts a text. -/
def literalLine (text : Text) : Text := '[' :: (text ++ [']'])

/-- The insertion of a text by the first line of a script. -/
def insertion (text : Text) : Operation :=
  { kind := .insertText, payload := .text text, sourceLine := 1 }

theorem trimmed_literalLine (text : Text) : Trimmed (literalLine text) where
  first := ⟨'[', rfl, by decide⟩
  last := ⟨']', List.getLast?_eq_some_iff.mpr ⟨'[' :: text, rfl⟩, by decide, by decide⟩

theorem over_literalLine (text : Text) : Span.before.over (literalLine text) = .after :=
  @over_bracketed [] text (by simp) []

theorem body_literalLine {text : Text} (h : ¬ MarkAfterClose text) :
    body (literalLine text) = literalLine text := by
  have hnone : beforeComment? .before (literalLine text) = none :=
    @beforeComment?_bracketed [] text (by simp) (by simp) h []
  rw [body, (trimmed_literalLine text).trim, stripComment_eq, hnone]

/-- A comment in the brackets makes the line say less. -/
theorem length_body_literalLine_lt {text : Text} (h : MarkAfterClose text) :
    (body (literalLine text)).length < (literalLine text).length := by
  obtain ⟨found, hfound⟩ : ∃ found, beforeComment? .inside text = some found := by
    refine Option.ne_none_iff_exists'.mp fun hnone => ?_
    exact beforeComment?_inside_eq_none_iff.mp hnone h
  have hline : beforeComment? .before (literalLine text) = some ('[' :: found) := by
    have hopen := @beforeComment?_open [] (by simp) (by simp) (text ++ [']'])
    rw [beforeComment?_append_of_some hfound] at hopen
    exact hopen
  rw [body, (trimmed_literalLine text).trim, stripComment_eq, hline]
  calc (Text.trimEnd ('[' :: found)).length
      ≤ ('[' :: found).length := Text.length_trimEndWhere_le _ _
    _ < (literalLine text).length := length_beforeComment?_lt hline

/-- A line inserts a text just when it says the text in brackets. -/
theorem readLine_eq_insertion_iff {raw text : Text} :
    (readLine settings 1 raw).operation = some (insertion text) ↔
      body raw = literalLine text := by
  constructor
  · intro h
    unfold readLine at h
    dsimp only at h
    split at h
    · cases h
    · split at h
      · rename_i found hfound
        cases h
        exact literal?_eq_some_iff.mp hfound
      · have hnone := text?_readInstruction h
        cases hnone
  · intro h
    have hliteral : literal? (literalLine text) = some text := literal?_eq_some_iff.mpr rfl
    unfold readLine
    dsimp only
    rw [h, hliteral]
    rfl

/-- A text in brackets is inserted as it is written just when it holds no comment. -/
theorem operations_literalLine_iff {text : Text} (h : '\n' ∉ text) :
    (compile settings (literalLine text)).isLoadable = true ∧
        (compile settings (literalLine text)).program.operations = [insertion text] ↔
      ¬ MarkAfterClose text := by
  have hline : '\n' ∉ literalLine text := by simpa [literalLine] using h
  rw [operations_of_not_mem settings hline, isLoadable_of_not_mem settings hline]
  constructor
  · rintro ⟨-, hoperation⟩ hmark
    have hread : (readLine settings 1 (literalLine text)).operation = some (insertion text) := by
      cases hread : (readLine settings 1 (literalLine text)).operation with
      | none => simp [hread] at hoperation
      | some operation => simpa [hread] using hoperation
    have hbody := (readLine_eq_insertion_iff settings).mp hread
    have hshorter := length_body_literalLine_lt hmark
    rw [hbody] at hshorter
    exact Nat.lt_irrefl _ hshorter
  · intro hmark
    have hbody := body_literalLine hmark
    have hgrammar : Grammatical (body (literalLine text)) := .literal text hbody
    rw [(readLine_eq_insertion_iff settings).mpr hbody, unknown_readLine_eq_nil_iff.mpr hgrammar]
    exact ⟨rfl, rfl⟩

/-- White space around a text in brackets and a comment behind it change nothing. -/
theorem readLine_literalLine_surrounded (text : Text) {lead trail remark : Text}
    (hlead : ∀ c ∈ lead, isSpace c = true) (htrail : ∀ c ∈ trail, isSpace c = true)
    (hremark : Remark remark) :
    readLine settings 1 (lead ++ (literalLine text ++ (trail ++ remark))) =
      readLine settings 1 (literalLine text) := by
  refine readLine_congr settings 1 (body_surrounded (trimmed_literalLine text) ?_ hlead htrail
    hremark)
  rw [over_literalLine]
  decide

/-! ## Patterns -/

/-- The first word of a line with a pattern. -/
def moveWord : Text := ['m', 'o', 'v', 'e']

/-- The part of a line with a pattern that stands in front of the brackets. -/
def patternStart (word : Text) : Text := moveWord ++ ' ' :: (word ++ [' '])

/-- The line that moves to an occurrence of a pattern: `move`, the word that says in which
direction, the pattern in brackets, the number of the occurrence and perhaps `select`. -/
def patternLine (word pattern : Text) (n : Nat) (select : Bool) : Text :=
  patternStart word ++ '[' :: (pattern ++ ']' :: ' ' ::
    (Text.decimal n ++ if select then ' ' :: selectWord else []))

/-- The move to an occurrence of a pattern by the first line of a script. -/
def patternMove (target : Target) (pattern : Text) (n : Nat) (select : Bool) : Operation :=
  { kind := .move
    target := some target
    movement := some .matchInLine
    payload := .pattern pattern n
    select
    sourceLine := 1 }

theorem patternLine_true (word pattern : Text) (n : Nat) :
    patternLine word pattern n true =
      (patternLine word pattern n false ++ [' ']) ++ selectWord := by
  simp only [patternLine, if_true, Bool.false_eq_true, if_false, List.append_assoc,
    List.cons_append, List.nil_append, List.append_nil]

/-- A digit is no white space. -/
theorem isSpace_eq_false_of_isDigit {c : Char} (h : c.isDigit = true) : isSpace c = false := by
  simp only [Char.isDigit, Bool.and_eq_true, decide_eq_true_eq] at h
  have hlower : 48 ≤ c.toNat := h.1
  have hupper : c.toNat ≤ 57 := h.2
  simp only [isSpace, Bool.or_eq_false_iff, Bool.and_eq_false_iff, decide_eq_false_iff_not,
    beq_eq_false_iff_ne]
  omega

theorem exists_eq_concat_decimal (n : Nat) :
    ∃ init c, Text.decimal n = init ++ [c] ∧ c.isDigit = true := by
  rcases List.eq_nil_or_concat (Text.decimal n) with hnil | ⟨init, c, hconcat⟩
  · exact absurd hnil (Text.decimal_ne_nil n)
  · rw [List.concat_eq_append] at hconcat
    have hmem : c ∈ Text.decimal n := by
      rw [hconcat]
      exact List.mem_append_right init (List.mem_singleton_self c)
    exact ⟨init, c, hconcat, Text.isDigit_of_mem_decimal hmem⟩

theorem trimmed_decimal (n : Nat) : Trimmed (Text.decimal n) where
  first := by
    obtain ⟨c, rest, hdecimal⟩ : ∃ c rest, Text.decimal n = c :: rest :=
      List.exists_cons_of_ne_nil (Text.decimal_ne_nil n)
    refine ⟨c, by rw [hdecimal, List.head?_cons], isSpace_eq_false_of_isDigit ?_⟩
    exact Text.isDigit_of_mem_decimal (hdecimal ▸ List.mem_cons_self)
  last := by
    obtain ⟨init, c, hdecimal, hc⟩ := exists_eq_concat_decimal n
    refine ⟨c, by rw [hdecimal, List.getLast?_concat], isSpace_eq_false_of_isDigit hc, ?_⟩
    rintro rfl
    exact absurd hc (by decide)

/-- Without `select` the line ends with a digit. -/
theorem exists_eq_concat_patternLine (word pattern : Text) (n : Nat) :
    ∃ init c, patternLine word pattern n false = init ++ [c] ∧ c.isDigit = true := by
  obtain ⟨init, c, hconcat, hc⟩ := exists_eq_concat_decimal n
  refine ⟨patternStart word ++ '[' :: (pattern ++ ']' :: ' ' :: init), c, ?_, hc⟩
  simp only [patternLine, hconcat, Bool.false_eq_true, if_false, List.append_assoc,
    List.cons_append, List.append_nil]

theorem head?_patternLine (word pattern : Text) (n : Nat) (select : Bool) :
    (patternLine word pattern n select).head? = some 'm' := rfl

theorem trimmed_patternLine (word pattern : Text) (n : Nat) (select : Bool) :
    Trimmed (patternLine word pattern n select) where
  first := ⟨'m', head?_patternLine word pattern n select, by decide⟩
  last := by
    cases select with
    | true =>
      refine ⟨'t', ?_, by decide, by decide⟩
      rw [patternLine_true, List.getLast?_append]
      rfl
    | false =>
      obtain ⟨init, c, hline, hc⟩ := exists_eq_concat_patternLine word pattern n
      refine ⟨c, by rw [hline, List.getLast?_concat], ?_, ?_⟩
      · exact isSpace_eq_false_of_isDigit hc
      · rintro rfl
        exact absurd hc (by decide)

/-- A final `select` is taken off the line. -/
theorem stripSelect_patternLine (word pattern : Text) (n : Nat) (select : Bool) :
    stripSelect (patternLine word pattern n select) =
      (patternLine word pattern n false, select) := by
  cases select with
  | true =>
    have hdrop : Text.dropSuffix? selectWord (patternLine word pattern n true) =
        some (patternLine word pattern n false ++ [' ']) :=
      dropSuffix?_eq_some_iff.mpr (patternLine_true word pattern n)
    have htrim : Text.trimEnd (patternLine word pattern n false ++ [' ']) =
        patternLine word pattern n false := by
      rw [Text.trimEnd,
        Text.trimEndWhere_append_of_forall _ (List.forall_mem_singleton.mpr rfl), ← Text.trimEnd,
        (trimmed_patternLine word pattern n false).trimEnd]
    have hblank : (patternLine word pattern n false ++ [' ']).getLast?.any isBlank = true := by
      rw [List.getLast?_concat]
      rfl
    rw [stripSelect, hdrop]
    dsimp only
    rw [hblank, Bool.or_true, if_pos rfl, htrim]
  | false =>
    have hdrop : Text.dropSuffix? selectWord (patternLine word pattern n false) = none := by
      refine Option.eq_none_iff_forall_ne_some.mpr fun head hhead => ?_
      obtain ⟨init, c, hline, hc⟩ := exists_eq_concat_patternLine word pattern n
      have hlast := congrArg List.getLast? (hline.symm.trans (dropSuffix?_eq_some_iff.mp hhead))
      rw [List.getLast?_concat, List.getLast?_append] at hlast
      cases hlast
      exact absurd hc (by decide)
    rw [stripSelect, hdrop]

section PatternWord

/-- A word of a move to a pattern, as far as the rest of the line is concerned. -/
structure PatternWord (word : Text) (target : Target) : Prop where
  move : Keyword.move? word = some ⟨target, .matchInLine⟩
  ne_nil : word ≠ []
  plain : ∀ c ∈ word, isBlank c = false ∧ c ≠ '[' ∧ c ≠ '/' ∧ c ≠ '\n'

variable {word pattern : Text} {target : Target} (hword : PatternWord word target)

include hword in
theorem PatternWord.not_mem_patternStart :
    '[' ∉ patternStart word ∧ '/' ∉ patternStart word := by
  have hplain : '[' ∉ word ∧ '/' ∉ word :=
    ⟨fun hmem => (hword.plain _ hmem).2.1 rfl, fun hmem => (hword.plain _ hmem).2.2.1 rfl⟩
  have hmove : '[' ∉ moveWord ∧ '/' ∉ moveWord := by decide
  simp [patternStart, hplain, hmove]

include hword in
theorem PatternWord.newline_not_mem_patternLine (hpattern : '\n' ∉ pattern) (n : Nat)
    (select : Bool) : '\n' ∉ patternLine word pattern n select := by
  have hplain : '\n' ∉ word := fun hmem => (hword.plain _ hmem).2.2.2 rfl
  have hmove : '\n' ∉ moveWord := by decide
  have hdecimal : '\n' ∉ Text.decimal n := fun hmem =>
    absurd (Text.isDigit_of_mem_decimal hmem) (by decide)
  have hselect : '\n' ∉ (if select then ' ' :: selectWord else []) := by
    cases select <;> decide
  simp [patternLine, patternStart, hmove, hplain, hpattern, hdecimal, hselect]

include hword in
/-- A line with a pattern says all of itself, if the pattern holds no comment. -/
theorem PatternWord.body_patternLine (hpattern : ¬ MarkAfterClose pattern) (n : Nat)
    (select : Bool) {remark : Text} (hremark : Remark remark) :
    body (patternLine word pattern n select ++ remark) = patternLine word pattern n select := by
  obtain ⟨hopen, hslash⟩ := hword.not_mem_patternStart
  have htrimmed := trimmed_patternLine word pattern n select
  have hspan : Span.before.over (patternLine word pattern n select) = .after :=
    over_bracketed hopen _
  have hrest : '/' ∉ ' ' :: (Text.decimal n ++ if select then ' ' :: selectWord else []) := by
    have hdecimal : '/' ∉ Text.decimal n := fun hmem =>
      absurd (Text.isDigit_of_mem_decimal hmem) (by decide)
    rw [List.mem_cons, List.mem_append, not_or, not_or]
    refine ⟨by decide, hdecimal, ?_⟩
    cases select <;> decide
  have hnone : beforeComment? .before (patternLine word pattern n select) = none := by
    rw [patternLine, beforeComment?_bracketed hopen hslash hpattern,
      beforeComment?_of_not_mem hrest, Option.map_none]
  have hover : Span.before.over (patternLine word pattern n select) ≠ .inside := by
    rw [hspan]
    decide
  rw [body_remark htrimmed hover hremark, body, htrimmed.trim, stripComment_eq, hnone]

include hword in
theorem PatternWord.words_patternLine (n : Nat) :
    ∃ rest, (patternLine word pattern n false).words = moveWord :: word :: rest := by
  have hblank : isBlank ' ' = true := by decide
  have hmove (rest : Text) :
      Text.words (moveWord ++ ' ' :: rest) = moveWord :: Text.words rest :=
    Text.words_append_of_forall (by decide) (by simp [moveWord, isBlank]) hblank rest
  have hline : patternLine word pattern n false = moveWord ++ ' ' :: (word ++ ' ' ::
      '[' :: (pattern ++ ']' :: ' ' :: (Text.decimal n ++ []))) := by
    simp [patternLine, patternStart]
  refine ⟨Text.words ('[' :: (pattern ++ ']' :: ' ' :: (Text.decimal n ++ []))), ?_⟩
  rw [hline, hmove, Text.words_append_of_forall hword.ne_nil (fun c hc => (hword.plain c hc).1)
    hblank]

include hword in
/-- The payload of a line with a pattern is the pattern and the number behind the brackets. -/
theorem PatternWord.patternPayload?_patternLine (hpattern : pattern ≠ []) {n : Nat} (hn : 1 ≤ n)
    (hlimit : n < wordLimit) (hlength : (Text.decimal n).length ≤ settings.countDigits) :
    patternPayload? settings (patternLine word pattern n false) = some (.pattern pattern n) := by
  obtain ⟨hopen, -⟩ := hword.not_mem_patternStart
  have hdigits : ∀ c ∈ Text.decimal n, isSpace c = false := fun c hc =>
    isSpace_eq_false_of_isDigit (Text.isDigit_of_mem_decimal hc)
  have hclose : ']' ∉ ' ' :: (Text.decimal n ++ []) := by
    rw [List.append_nil, List.mem_cons, not_or]
    exact ⟨by decide, fun hmem => absurd (Text.isDigit_of_mem_decimal hmem) (by decide)⟩
  have hfound : pattern? (patternLine word pattern n false) =
      some (pattern, ' ' :: (Text.decimal n ++ [])) :=
    pattern?_eq_some_iff.mpr ⟨patternStart word, rfl, hopen, hclose, hpattern⟩
  have hcount : (Text.trim (' ' :: (Text.decimal n ++ []))).words = [Text.decimal n] := by
    have hcons : ' ' :: (Text.decimal n ++ []) = [' '] ++ (Text.decimal n ++ []) := rfl
    have hwords : (Text.decimal n).words = [Text.decimal n] :=
      Text.words_of_forall (Text.decimal_ne_nil n) fun c hc => by
        have hspace := hdigits c hc
        exact Bool.eq_false_iff.mpr fun hblank => by simp [isSpace_of_isBlank hblank] at hspace
    rw [hcons, (trimmed_decimal n).trim_append (List.forall_mem_singleton.mpr rfl),
      List.append_nil, (trimmed_decimal n).trimEnd, hwords]
  rw [patternPayload?, hfound, Option.map_some]
  dsimp only
  rw [hcount, List.head?_cons, readCount?, readCount_decimal hn hlimit hlength]

include hword in
/-- A line with a pattern moves to the occurrence of that pattern. -/
theorem PatternWord.readLine_patternLine (hpattern : pattern ≠ [])
    (hmark : ¬ MarkAfterClose pattern) {n : Nat} (hn : 1 ≤ n) (hlimit : n < wordLimit)
    (hlength : (Text.decimal n).length ≤ settings.countDigits) (select : Bool) {remark : Text}
    (hremark : Remark remark) :
    readLine settings 1 (patternLine word pattern n select ++ remark) =
      ⟨some (patternMove target pattern n select), []⟩ := by
  obtain ⟨rest, hwords⟩ :
      ∃ rest, (patternLine word pattern n false).words = moveWord :: word :: rest :=
    hword.words_patternLine n
  have hpayload := hword.patternPayload?_patternLine settings hpattern hn hlimit hlength
  have hcut : word.takeWhile (· != '[') = word :=
    List.takeWhile_eq_self_iff.mpr fun c hc => by simpa using (hword.plain c hc).2.1
  have hliteral : literal? (patternLine word pattern n select) = none := rfl
  have hfilled : (patternLine word pattern n select).isEmpty = false := rfl
  have hmove : Keyword.operation? moveWord = some { kind := .move } := by decide
  have hinstruction : readInstruction settings 1 (patternLine word pattern n false) select =
      ⟨some (patternMove target pattern n select), []⟩ := by
    simp only [readInstruction, hwords, hmove, Preset.takesHeading, beq_self_eq_true, if_true,
      readMove, hcut, hword.move, Heading.takesPattern, hpayload]
    rfl
  simp only [readLine, hword.body_patternLine hmark n select hremark, hfilled, Bool.false_eq_true,
    if_false, hliteral, stripSelect_patternLine, hinstruction]

end PatternWord

/-- The words of moves to a pattern, with their targets. -/
def patternWords : List (String × Target) :=
  [("match-in-line-forward", .forwardMatch), ("match-in-line-backward", .backwardMatch)]

theorem plain_of_all {word : Text}
    (h : (word.all fun c => !isBlank c && c != '[' && c != '/' && c != '\n') = true) :
    ∀ c ∈ word, isBlank c = false ∧ c ≠ '[' ∧ c ≠ '/' ∧ c ≠ '\n' := by
  simpa [and_assoc] using h

theorem patternWord_of_mem {name : String} {target : Target}
    (h : (name, target) ∈ patternWords) : PatternWord name.toList target := by
  rcases List.mem_cons.mp h with heq | hmem
  · cases heq
    exact ⟨by decide, by decide, plain_of_all (by decide)⟩
  · cases List.mem_singleton.mp hmem
    exact ⟨by decide, by decide, plain_of_all (by decide)⟩

/-- A numeral of a number below 1000 is looked at as a whole by default. -/
theorem length_decimal_le {n : Nat} (h : n ≤ 999) :
    (Text.decimal n).length ≤ ({} : Settings).countDigits := by
  refine (Nat.length_toDigits_le_iff (by decide) (by decide)).mpr ?_
  have hthousand : 10 ^ ({} : Settings).countDigits = 1000 := by decide
  omega

/-- A text in brackets is inserted as it is written just when no pair of slashes in it follows a
closing bracket.  White space around the line and a comment behind it change nothing.  As the
pattern of a move such a text is kept as well, with the number of the occurrence and a final
`select` behind it, and perhaps a comment. -/
theorem payloads_verbatim {text : Text} (htext : '\n' ∉ text) :
    (∀ settings,
      (compile settings (literalLine text)).isLoadable = true ∧
          (compile settings (literalLine text)).program.operations = [insertion text] ↔
        ¬ MarkAfterClose text) ∧
    (∀ settings lead trail remark,
      (∀ c ∈ lead ++ trail, isSpace c = true ∧ c ≠ '\n') → Remark remark →
      (compile settings (lead ++ (literalLine text ++ (trail ++ remark)))).program.operations =
          (compile settings (literalLine text)).program.operations ∧
        (compile settings (lead ++ (literalLine text ++ (trail ++ remark)))).isLoadable =
          (compile settings (literalLine text)).isLoadable) ∧
    (text ≠ [] → ¬ MarkAfterClose text →
      ∀ name target n select remark, (name, target) ∈ patternWords → 1 ≤ n → n ≤ 999 →
      Remark remark →
      (compile {} (patternLine name.toList text n select ++ remark)).isLoadable = true ∧
        (compile {} (patternLine name.toList text n select ++ remark)).program.operations =
          [patternMove target text n select]) := by
  have hliteral : '\n' ∉ literalLine text := by simpa [literalLine] using htext
  refine ⟨fun settings => operations_literalLine_iff settings htext, ?_, ?_⟩
  · intro settings lead trail remark hspace hremark
    have hlead : ∀ c ∈ lead, isSpace c = true := fun c hc =>
      (hspace c (List.mem_append_left trail hc)).1
    have htrail : ∀ c ∈ trail, isSpace c = true := fun c hc =>
      (hspace c (List.mem_append_right lead hc)).1
    have hfeed : '\n' ∉ lead ++ trail := fun hmem => (hspace _ hmem).2 rfl
    have hline : '\n' ∉ lead ++ (literalLine text ++ (trail ++ remark)) := by
      have hbehind := newline_not_mem_of_remark hremark
      rw [List.mem_append, not_or] at hfeed
      simp [hfeed, hliteral, hbehind]
    have hread := readLine_literalLine_surrounded settings text hlead htrail hremark
    rw [operations_of_not_mem settings hline, operations_of_not_mem settings hliteral,
      isLoadable_of_not_mem settings hline, isLoadable_of_not_mem settings hliteral, hread]
    exact ⟨rfl, rfl⟩
  · intro hne hmark name target n select remark hmem hn hlimit hremark
    have hword := patternWord_of_mem hmem
    have hread := hword.readLine_patternLine {} hne hmark hn
      (Nat.lt_of_le_of_lt hlimit (by decide)) (length_decimal_le hlimit) select hremark
    have hline : '\n' ∉ patternLine name.toList text n select ++ remark := by
      rw [List.mem_append, not_or]
      exact ⟨hword.newline_not_mem_patternLine htext n select, newline_not_mem_of_remark hremark⟩
    rw [operations_of_not_mem {} hline, isLoadable_of_not_mem {} hline, hread]
    exact ⟨rfl, rfl⟩

/-- A text with slashes, brackets, blanks at its ends, digits and a word of the language. -/
def awkwardText : Text := " // 12]] select [é ".toList

/-- A comment with brackets in it. -/
def awkwardRemark : Text := "\t// ] [ //".toList

theorem payloads_verbatim_awkwardText :
    '\n' ∉ awkwardText ∧ ¬ MarkAfterClose awkwardText ∧ Remark awkwardRemark ∧
      (compile {} (['\u00a0'] ++ (literalLine awkwardText ++
        (['\r'] ++ awkwardRemark)))).program.operations =
          [insertion awkwardText] ∧
      (compile {} (patternLine "match-in-line-backward".toList awkwardText 999 true ++
        awkwardRemark)).program.operations = [patternMove .backwardMatch awkwardText 999 true] := by
  have htext : '\n' ∉ awkwardText := by decide
  have hmark : ¬ MarkAfterClose awkwardText :=
    beforeComment?_inside_eq_none_iff.mp (by decide +kernel)
  have hremark : Remark awkwardRemark :=
    @Remark.comment ['\t'] (List.forall_mem_singleton.mpr rfl) " ] [ //".toList (by decide)
  obtain ⟨hliteral, hsurrounded, hpattern⟩ := payloads_verbatim htext
  refine ⟨htext, hmark, hremark, ?_, ?_⟩
  · have hspace : ∀ c ∈ ['\u00a0', '\r'], isSpace c = true ∧ c ≠ '\n' :=
      List.forall_mem_cons.mpr ⟨by decide, List.forall_mem_singleton.mpr (by decide)⟩
    rw [(hsurrounded {} ['\u00a0'] ['\r'] awkwardRemark hspace hremark).1]
    exact ((hliteral {}).mpr hmark).2
  · exact (hpattern (by decide) hmark "match-in-line-backward" .backwardMatch 999 true awkwardRemark
      (by decide) (by decide) (by decide) hremark).2

end Script

end EditPlayer
