import EditPlayer.Proofs.Lines
import EditPlayer.Script.Compilation
set_option autoImplicit false

/-!
# Scripts are compiled line by line

What a line gives does not depend on its neighbours, and on its number only through the numbers
that are noted with operations and diagnostics (`readLine_add`).  So a script that is continued
behind a line feed compiles to what its two parts compile to, the second part counted on from the
first, and the noted numbers tell which lines the operations and diagnostics come from.
`compile_line_by_line` is the main statement.
-/

namespace EditPlayer

/-- The operation of a line that stands a number of lines further down. -/
def Operation.shift (lines : Nat) (operation : Operation) : Operation :=
  { operation with sourceLine := operation.sourceLine + lines }

/-- The diagnostic of a line that stands a number of lines further down. -/
def Diagnostic.shift (lines : Nat) (diagnostic : Diagnostic) : Diagnostic :=
  { diagnostic with lineNumber := diagnostic.lineNumber + lines }

namespace Script

variable (settings : Settings)

/-! ## A line further down -/

/-- The reading of a line that stands a number of lines further down. -/
def Reading.shift (lines : Nat) (reading : Reading) : Reading :=
  { reading with operation := reading.operation.map (Operation.shift lines) }

theorem readMove_shift (lines : Nat) (operation : Operation) (reported : List Text)
    (line second : Text) (rest : List Text) :
    readMove settings (operation.shift lines) reported line second rest =
      (readMove settings operation reported line second rest).shift lines := by
  unfold readMove
  dsimp only
  split
  · rfl
  · split
    · split <;> rfl
    · rfl

theorem readInstruction_add (number lines : Nat) (line : Text) (select : Bool) :
    readInstruction settings (number + lines) line select =
      (readInstruction settings number line select).shift lines := by
  unfold readInstruction
  dsimp only
  split
  · rfl
  · split
    · rfl
    · exact readMove_shift settings lines { kind := .move, select, sourceLine := number } _ _ _ _
    · rfl
    · rename_i preset _ _ _ _
      split
      · exact readMove_shift settings lines
          (preset.apply { kind := .move, select, sourceLine := number }) _ _ _ _
      · rfl

/-- A line further down is read alike, apart from its number. -/
theorem readLine_add (number lines : Nat) (raw : Text) :
    readLine settings (number + lines) raw = (readLine settings number raw).shift lines := by
  unfold readLine
  dsimp only
  split
  · rfl
  · split
    · rfl
    · exact readInstruction_add settings number lines _ _

/-- The lines of a continued script are numbered on. -/
theorem numberedLines_append (first second : Text) :
    numberedLines (first ++ '\n' :: second) =
      numberedLines first ++
        (numberedLines second).map (Prod.map id (· + (first.splitOn '\n').length)) := by
  rw [numberedLines, numberedLines, numberedLines, Text.splitOn_append_separator,
    List.zipIdx_append, List.map_snd_add_zipIdx_eq_zipIdx, Nat.add_comm]

theorem operationsOf_map_add (lines : Nat) (numbered : List (Text × Nat)) :
    operationsOf settings (numbered.map (Prod.map id (· + lines))) =
      (operationsOf settings numbered).map (Operation.shift lines) := by
  unfold operationsOf
  rw [List.filterMap_map, List.map_filterMap]
  congr 1
  funext ⟨raw, number⟩
  exact congrArg Reading.operation (readLine_add settings number lines raw)

theorem diagnosticsOf_map_add (lines : Nat) (numbered : List (Text × Nat)) :
    diagnosticsOf settings (numbered.map (Prod.map id (· + lines))) =
      (diagnosticsOf settings numbered).map (Diagnostic.shift lines) := by
  unfold diagnosticsOf
  rw [List.flatMap_map, List.map_flatMap]
  congr 1
  funext ⟨raw, number⟩
  have hunknown := congrArg Reading.unknown (readLine_add settings number lines raw)
  dsimp only [Prod.map, id]
  rw [hunknown, lineDiagnostics, lineDiagnostics, List.map_map]
  rfl

/-! ## What a line gives -/

theorem readMove_gives (start : Operation) (reported : List Text) (line second : Text)
    (rest : List Text) :
    ∃ operation,
      (readMove settings start reported line second rest).operation = some operation ∧
        operation.sourceLine = start.sourceLine ∧
        (readMove settings start reported line second rest).unknown.length ≤
          reported.length + 1 := by
  unfold readMove
  dsimp only
  split
  · exact ⟨_, rfl, rfl, by simp⟩
  · split
    · split <;> exact ⟨_, rfl, rfl, by simp⟩
    · exact ⟨_, rfl, rfl, by simp⟩

theorem readInstruction_gives (number : Nat) (line : Text) (select : Bool) :
    ∃ operation, (readInstruction settings number line select).operation = some operation ∧
      operation.sourceLine = number ∧
      (readInstruction settings number line select).unknown.length ≤ 2 := by
  unfold readInstruction
  dsimp only
  split
  · exact ⟨_, rfl, rfl, by simp⟩
  · split
    · exact ⟨_, rfl, rfl, by simp⟩
    · exact readMove_gives settings _ _ _ _ _
    · exact ⟨_, rfl, rfl, by split <;> simp⟩
    · split
      · obtain ⟨operation, hoperation, hline, hlength⟩ := readMove_gives settings _ [] line _ _
        exact ⟨operation, hoperation, hline, Nat.le_succ_of_le hlength⟩
      · exact ⟨_, rfl, rfl, by simp⟩

/-- A line that is not empty gives an operation with its number, and at most two words that are not
understood. -/
theorem readLine_gives (number : Nat) {raw : Text} (h : body raw ≠ []) :
    ∃ operation, (readLine settings number raw).operation = some operation ∧
      operation.sourceLine = number ∧ (readLine settings number raw).unknown.length ≤ 2 := by
  unfold readLine
  dsimp only
  rw [if_neg (by simpa using h)]
  split
  · exact ⟨_, rfl, rfl, by simp⟩
  · exact readInstruction_gives settings number _ _

/-- An empty line gives nothing. -/
theorem readLine_of_body_eq_nil (number : Nat) {raw : Text} (h : body raw = []) :
    readLine settings number raw = ⟨none, []⟩ := by
  unfold readLine
  dsimp only
  rw [h, List.isEmpty_nil, if_pos rfl]

theorem readLine_operation_eq_some {number : Nat} {raw : Text} {operation : Operation}
    (h : (readLine settings number raw).operation = some operation) :
    body raw ≠ [] ∧ operation.sourceLine = number := by
  have hbody : body raw ≠ [] := by
    intro hempty
    rw [readLine_of_body_eq_nil settings number hempty] at h
    cases h
  obtain ⟨given, hgiven, hline, -⟩ := readLine_gives settings number hbody
  rw [hgiven, Option.some.injEq] at h
  exact ⟨hbody, h ▸ hline⟩

theorem mem_lineDiagnostics {number : Nat} {raw : Text} {diagnostic : Diagnostic}
    (h : diagnostic ∈ lineDiagnostics number raw (readLine settings number raw).unknown) :
    body raw ≠ [] ∧ diagnostic.lineNumber = number := by
  constructor
  · intro hempty
    rw [readLine_of_body_eq_nil settings number hempty] at h
    cases h
  · obtain ⟨word, -, rfl⟩ := List.mem_map.mp h
    rfl

theorem length_lineDiagnostics_le (number : Nat) (raw : Text) :
    (lineDiagnostics number raw (readLine settings number raw).unknown).length ≤ 2 := by
  rw [lineDiagnostics, List.length_map]
  by_cases hbody : body raw = []
  · rw [readLine_of_body_eq_nil settings number hbody]
    exact Nat.zero_le 2
  · obtain ⟨-, -, -, hlength⟩ := readLine_gives settings number hbody
    exact hlength

/-! ## The numbers of all lines -/

theorem numberedLines_increasing (source : Text) :
    (numberedLines source).Pairwise fun a b => a.2 < b.2 := by
  have hnumbers : ((numberedLines source).map (·.2)).Pairwise (· < ·) := by
    rw [numberedLines, List.zipIdx_map_snd]
    exact List.pairwise_lt_range'
  exact List.pairwise_map.mp hnumbers

theorem mem_numberedLines_iff (source raw : Text) (number : Nat) :
    (raw, number) ∈ numberedLines source ↔
      ∃ i, number = i + 1 ∧ (source.splitOn '\n')[i]? = some raw := by
  constructor
  · intro h
    obtain ⟨hle, hget⟩ := List.mk_mem_zipIdx_iff_le_and_getElem?_sub.mp h
    exact ⟨number - 1, by omega, hget⟩
  · rintro ⟨i, rfl, hget⟩
    exact List.mk_mem_zipIdx_iff_le_and_getElem?_sub.mpr ⟨Nat.le_add_left 1 i, hget⟩

/-- The operations come from lines in order, one from each line that is not empty. -/
theorem sourceLines_increasing (source : Text) :
    ((compile settings source).program.operations.map (·.sourceLine)).Pairwise (· < ·) := by
  rw [List.pairwise_map]
  refine (numberedLines_increasing source).filterMap _ ?_
  rintro ⟨raw, number⟩ ⟨raw', number'⟩ hlt operation hoperation operation' hoperation'
  rw [(readLine_operation_eq_some settings hoperation).2,
    (readLine_operation_eq_some settings hoperation').2]
  exact hlt

/-- The lines with an operation are those that are not empty. -/
theorem mem_sourceLines_iff (source : Text) (n : Nat) :
    n ∈ (compile settings source).program.operations.map (·.sourceLine) ↔
      ∃ raw, (raw, n) ∈ numberedLines source ∧ body raw ≠ [] := by
  constructor
  · intro h
    obtain ⟨operation, hmem, rfl⟩ := List.mem_map.mp h
    obtain ⟨⟨raw, number⟩, hline, hread⟩ := List.mem_filterMap.mp hmem
    obtain ⟨hbody, hnumber⟩ := readLine_operation_eq_some settings hread
    exact ⟨raw, hnumber ▸ hline, hbody⟩
  · rintro ⟨raw, hline, hbody⟩
    obtain ⟨operation, hread, hnumber, -⟩ := readLine_gives settings n hbody
    exact List.mem_map.mpr ⟨operation, List.mem_filterMap.mpr ⟨(raw, n), hline, hread⟩, hnumber⟩

/-- The diagnostics come from lines in order. -/
theorem lineNumbers_nondecreasing (source : Text) :
    ((compile settings source).diagnostics.map (·.lineNumber)).Pairwise (· ≤ ·) := by
  rw [List.pairwise_map]
  refine List.pairwise_flatMap.mpr ⟨?_, (numberedLines_increasing source).imp ?_⟩
  · rintro ⟨raw, number⟩ -
    refine List.pairwise_of_forall_mem_list fun first hfirst second hsecond => Nat.le_of_eq ?_
    rw [(mem_lineDiagnostics settings hfirst).2, (mem_lineDiagnostics settings hsecond).2]
  · rintro ⟨raw, number⟩ ⟨raw', number'⟩ hlt first hfirst second hsecond
    rw [(mem_lineDiagnostics settings hfirst).2, (mem_lineDiagnostics settings hsecond).2]
    exact Nat.le_of_lt hlt

/-- A line with a diagnostic has an operation. -/
theorem lineNumbers_subset (source : Text) :
    (compile settings source).diagnostics.map (·.lineNumber) ⊆
      (compile settings source).program.operations.map (·.sourceLine) := by
  intro n h
  obtain ⟨diagnostic, hmem, rfl⟩ := List.mem_map.mp h
  obtain ⟨⟨raw, number⟩, hline, hread⟩ := List.mem_flatMap.mp hmem
  obtain ⟨hbody, hnumber⟩ := mem_lineDiagnostics settings hread
  exact (mem_sourceLines_iff settings source _).mpr ⟨raw, hnumber ▸ hline, hbody⟩

theorem diagnosticsOf_cons (raw : Text) (number : Nat) (rest : List (Text × Nat)) :
    diagnosticsOf settings ((raw, number) :: rest) =
      lineDiagnostics number raw (readLine settings number raw).unknown ++
        diagnosticsOf settings rest := rfl

/-- Lines with different numbers have at most two diagnostics each. -/
theorem count_lineNumbers_le {numbered : List (Text × Nat)}
    (h : numbered.Pairwise fun a b => a.2 < b.2) (n : Nat) :
    ((diagnosticsOf settings numbered).map (·.lineNumber)).count n ≤ 2 := by
  induction numbered with
  | nil => exact Nat.zero_le 2
  | cons line rest ih =>
    obtain ⟨raw, number⟩ := line
    obtain ⟨hlater, hrest⟩ := List.pairwise_cons.mp h
    rw [diagnosticsOf_cons, List.map_append, List.count_append]
    by_cases hn : number = n
    · -- all later lines have larger numbers
      have hnone : n ∉ (diagnosticsOf settings rest).map (·.lineNumber) := by
        intro hmem
        obtain ⟨diagnostic, hdiagnostic, rfl⟩ := List.mem_map.mp hmem
        obtain ⟨later, hline, hread⟩ := List.mem_flatMap.mp hdiagnostic
        have hlt := hlater later hline
        rw [← (mem_lineDiagnostics settings hread).2] at hlt
        exact absurd hn (Nat.ne_of_lt hlt)
      rw [List.count_eq_zero.mpr hnone, Nat.add_zero]
      refine Nat.le_trans List.count_le_length ?_
      rw [List.length_map]
      exact length_lineDiagnostics_le settings number raw
    · have hnone : n ∉ (lineDiagnostics number raw
          (readLine settings number raw).unknown).map (·.lineNumber) := by
        intro hmem
        obtain ⟨diagnostic, hdiagnostic, hnumber⟩ := List.mem_map.mp hmem
        exact hn ((mem_lineDiagnostics settings hdiagnostic).2.symm.trans hnumber)
      rw [List.count_eq_zero.mpr hnone, Nat.zero_add]
      exact ih hrest

/-- A script is compiled line by line: behind a line feed the lines of a second script are counted
on and otherwise compiled as on their own.  The operations come in order from the lines that are
not empty, one from each; the diagnostics come in order from lines with an operation, at most two
from each. -/
theorem compile_line_by_line :
    (∀ first second : Text,
      (compile settings (first ++ '\n' :: second)).program.operations =
        (compile settings first).program.operations ++
          (compile settings second).program.operations.map
            (Operation.shift (first.splitOn '\n').length) ∧
      (compile settings (first ++ '\n' :: second)).diagnostics =
        (compile settings first).diagnostics ++
          (compile settings second).diagnostics.map
            (Diagnostic.shift (first.splitOn '\n').length)) ∧
    ∀ source : Text,
      ((compile settings source).program.operations.map (·.sourceLine)).Pairwise (· < ·) ∧
      (∀ n, n ∈ (compile settings source).program.operations.map (·.sourceLine) ↔
        ∃ i raw, n = i + 1 ∧ (source.splitOn '\n')[i]? = some raw ∧
          stripComment raw.trim ≠ []) ∧
      ((compile settings source).diagnostics.map (·.lineNumber)).Pairwise (· ≤ ·) ∧
      (compile settings source).diagnostics.map (·.lineNumber) ⊆
        (compile settings source).program.operations.map (·.sourceLine) ∧
      ∀ n, ((compile settings source).diagnostics.map (·.lineNumber)).count n ≤ 2 := by
  refine ⟨fun first second => ⟨?_, ?_⟩, fun source => ⟨sourceLines_increasing settings source, ?_,
    lineNumbers_nondecreasing settings source, lineNumbers_subset settings source,
    count_lineNumbers_le settings (numberedLines_increasing source)⟩⟩
  · dsimp only [compile, Program.ofSource]
    rw [numberedLines_append, ← operationsOf_map_add]
    exact List.filterMap_append
  · dsimp only [compile]
    rw [numberedLines_append, ← diagnosticsOf_map_add]
    exact List.flatMap_append
  · intro n
    rw [mem_sourceLines_iff]
    constructor
    · rintro ⟨raw, hline, hbody⟩
      obtain ⟨i, hi, hget⟩ := (mem_numberedLines_iff source raw n).mp hline
      exact ⟨i, raw, hi, hget, hbody⟩
    · rintro ⟨i, raw, hi, hget, hbody⟩
      exact ⟨raw, (mem_numberedLines_iff source raw n).mpr ⟨i, hi, hget⟩, hbody⟩

end Script

end EditPlayer
