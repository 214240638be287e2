import EditPlayer.Proofs.CleanCasing
import EditPlayer.Script.Compilation
set_option autoImplicit false

/-!
# The texts of clean scripts

The texts that a script inserts are parts of its lines.  A line of a clean source may end with the
carriage return of a line break, which is white space and trimmed away; so a clean script inserts
texts without carriage returns only (`return_not_mem_of_mem_compile`).
-/

namespace EditPlayer

/-! ## Trimmed lines -/

namespace Text

/-- A line is what is left without its carriage return, with the carriage return behind it or
not. -/
theorem eq_dropReturn_or (line : Text) :
    line = dropReturn line ∨ line = dropReturn line ++ ['\r'] := by
  by_cases hreturn : line.getLast? = some '\r'
  · obtain ⟨rest, rfl⟩ := List.getLast?_eq_some_iff.mp hreturn
    rw [dropReturn, if_pos hreturn, List.dropLast_concat]
    exact .inr rfl
  · exact .inl (dropReturn_of_getLast? hreturn).symm

/-- White space at the end of a text makes no difference once the text is trimmed. -/
theorem trim_append_space {c : Char} (h : isSpace c = true) (text : Text) :
    trim (text ++ [c]) = trim text := by
  have hend (rest : Text) : trimEndWhere isSpace (rest ++ [c]) = trimEndWhere isSpace rest := by
    simp [trimEndWhere, h]
  rw [trim, trim, trimWhere, trimWhere, List.dropWhile_append]
  split
  · rename_i hempty
    have hnil : text.dropWhile isSpace = [] := List.isEmpty_iff.mp hempty
    rw [hnil, List.dropWhile_cons_of_pos h, List.dropWhile_nil]
  · exact hend _

/-- A trimmed line of a clean text holds no carriage return. -/
theorem CrClean.return_not_mem_trim {text line : Text} (h : CrClean text)
    (hline : line ∈ splitOn '\n' text) : '\r' ∉ trim line := by
  have hdropped : '\r' ∉ dropReturn line :=
    h.return_not_mem_of_mem_documentLines (List.mem_map_of_mem hline)
  have htrim : trim line = trim (dropReturn line) := by
    have hspace : isSpace '\r' = true := by decide
    rcases eq_dropReturn_or line with hsame | hreturn
    · rw [← hsame]
    · rw [← trim_append_space hspace (dropReturn line), ← hreturn]
  rw [htrim]
  exact fun hmem => hdropped (mem_of_mem_trim hmem)

end Text

/-! ## Texts in brackets -/

namespace Script

theorem mem_of_mem_stripComment {line : Text} {c : Char} (h : c ∈ stripComment line) :
    c ∈ line := by
  unfold stripComment at h
  split at h
  · exact List.mem_of_mem_take (Text.mem_of_mem_trimEndWhere h)
  · exact h

theorem mem_of_mem_literal? {line text : Text} {c : Char} (h : literal? line = some text)
    (hc : c ∈ text) : c ∈ line := by
  unfold literal? at h
  split at h
  · split at h
    · cases h
      exact List.mem_cons_of_mem _ ((List.dropLast_sublist _).subset hc)
    · cases h
  · cases h

/-! ## Only a text in brackets is inserted -/

section Instructions

variable {settings : Settings}

theorem text?_patternPayload? {line : Text} {payload : Payload}
    (h : patternPayload? settings line = some payload) : payload.text? = none := by
  obtain ⟨found, -, rfl⟩ := Option.map_eq_some_iff.mp h
  rfl

theorem text?_readMove {start operation : Operation} (hstart : start.payload.text? = none)
    {reported : List Text} {line second : Text} {rest : List Text}
    (h : (readMove settings start reported line second rest).operation = some operation) :
    operation.payload.text? = none := by
  unfold readMove at h
  dsimp only at h
  split at h
  · cases h
    rfl
  · split at h
    · split at h
      · rename_i payload hpayload
        cases h
        exact text?_patternPayload? hpayload
      · cases h
        exact hstart
    · cases h
      rfl

/-- An instruction carries no text. -/
theorem text?_readInstruction {number : Nat} {line : Text} {select : Bool} {operation : Operation}
    (h : (readInstruction settings number line select).operation = some operation) :
    operation.payload.text? = none := by
  unfold readInstruction at h
  dsimp only at h
  split at h
  · cases h
    rfl
  · split at h
    · cases h
      rfl
    · exact text?_readMove rfl h
    · cases h
      rfl
    · split at h
      · exact text?_readMove rfl h
      · cases h
        rfl

/-- The text that a line inserts stands in the line, once the line is trimmed. -/
theorem mem_trim_of_readLine {number : Nat} {raw text : Text} {operation : Operation} {c : Char}
    (h : (readLine settings number raw).operation = some operation)
    (htext : operation.payload.text? = some text) (hc : c ∈ text) : c ∈ raw.trim := by
  unfold readLine at h
  dsimp only at h
  split at h
  · cases h
  · split at h
    · rename_i literal hliteral
      cases h
      cases htext
      exact mem_of_mem_stripComment (mem_of_mem_literal? hliteral hc)
    · rw [text?_readInstruction h] at htext
      cases htext

/-- A clean script inserts texts without carriage returns only. -/
theorem return_not_mem_of_mem_compile {source text : Text} (hsource : source.CrClean)
    {operation : Operation} (hmem : operation ∈ (compile settings source).program.operations)
    (htext : operation.payload.text? = some text) : '\r' ∉ text := by
  obtain ⟨⟨raw, number⟩, hline, hoperation⟩ := List.mem_filterMap.mp hmem
  have hraw : raw ∈ source.splitOn '\n' := List.fst_mem_of_mem_zipIdx hline
  exact fun hreturn =>
    hsource.return_not_mem_trim hraw (mem_trim_of_readLine hoperation htext hreturn)

end Instructions

end Script

end EditPlayer
