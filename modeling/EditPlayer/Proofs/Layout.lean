import EditPlayer.Proofs.CleanScripts
import EditPlayer.Proofs.CommentRule
import EditPlayer.Proofs.LineBreaks
import EditPlayer.Proofs.LineNumbers
set_option autoImplicit false

/-!
# The layout of a script

What a script compiles to depends on what its lines say, and for the diagnostics on how the lines
are written (`operationsOf_congr`, `diagnosticsOf_congr`).  A carriage return at the end of a line
is trimmed away, so the line breaks may be written in either style.  A comment may be put behind any
line that leaves its brackets (`body_append_comment`); then the diagnostics of this line show the
line with its comment, and nothing else changes.  `compile_layout` puts both together.
-/

namespace EditPlayer

/-! ## What is trimmed -/

namespace Text

theorem exists_trimEnd_append (text : Text) :
    ∃ trail, (∀ c ∈ trail, isSpace c = true) ∧ text = text.trimEnd ++ trail :=
  exists_trimEndWhere_append isSpace text

/-- Trimming an end that is trimmed changes nothing. -/
theorem trimEnd_trimEnd (text : Text) : text.trimEnd.trimEnd = text.trimEnd := by
  obtain ⟨trail, htrail, htext⟩ := exists_trimEnd_append text
  have htrim := trimEndWhere_append_of_forall text.trimEnd htrail
  rw [← htext] at htrim
  exact htrim.symm

theorem trim_of_space {text : Text} (h : ∀ c ∈ text, isSpace c = true) : text.trim = [] := by
  have hdropped : (text ++ []).dropWhile isSpace = [] := List.dropWhile_append_of_pos h
  rw [List.append_nil] at hdropped
  rw [trim, trimWhere, hdropped]
  rfl

/-- A text that is not all white space begins with white space in front of a character that
stays. -/
theorem all_space_or (text : Text) :
    (∀ c ∈ text, isSpace c = true) ∨
      ∃ lead c rest, (∀ d ∈ lead, isSpace d = true) ∧ isSpace c = false ∧
        text = lead ++ c :: rest := by
  induction text with
  | nil => exact .inl (by simp)
  | cons c text ih =>
    by_cases hc : isSpace c = true
    · rcases ih with hall | ⟨lead, d, rest, hlead, hd, rfl⟩
      · exact .inl (List.forall_mem_cons.mpr ⟨hc, hall⟩)
      · exact .inr ⟨c :: lead, d, rest, List.forall_mem_cons.mpr ⟨hc, hlead⟩, hd, rfl⟩
    · exact .inr ⟨[], c, text, by simp, by simpa using hc, rfl⟩

end Text

namespace Script

/-- Trimming a line does not change whether it leaves its brackets. -/
theorem over_trim (raw : Text) : Span.before.over raw.trim = Span.before.over raw := by
  rcases Text.all_space_or raw with hall | ⟨lead, c, rest, hlead, hc, rfl⟩
  · rw [Text.trim_of_space hall, Span.over_of_space _ hall]
    rfl
  · obtain ⟨trail, htrail, htext⟩ := Text.exists_trimEnd_append (c :: rest)
    rw [Text.trim_append_cons hlead hc, Span.over_append, Span.over_of_space _ hlead]
    conv => rhs; rw [htext, Span.over_append, Span.over_of_space _ htrail]

/-- What a line is trimmed to when a comment stands behind it. -/
theorem exists_trim_append_comment (raw : Text) {blank : Char} (hblank : isBlank blank = true)
    (remark : Text) :
    ∃ gap, (∀ c ∈ gap, isSpace c = true) ∧ (raw.trim = [] ∨ gap ≠ []) ∧
      Text.trim (raw ++ blank :: '/' :: '/' :: remark) =
        raw.trim ++ (gap ++ '/' :: '/' :: remark.trimEnd) := by
  have hspace : ∀ c ∈ [blank], isSpace c = true := by simpa using isSpace_of_isBlank hblank
  rcases Text.all_space_or raw with hall | ⟨lead, c, rest, hlead, hc, rfl⟩
  · refine ⟨[], by simp, .inl (Text.trim_of_space hall), ?_⟩
    have hlead : ∀ c ∈ raw ++ [blank], isSpace c = true :=
      List.forall_mem_append.mpr ⟨hall, hspace⟩
    have hslash : isSpace '/' = false := by decide
    have htrim := Text.trim_append_cons hlead hslash ('/' :: remark)
    rw [List.append_assoc, List.singleton_append] at htrim
    rw [htrim, Text.trim_of_space hall]
    exact trimEnd_append_mark [] remark
  · obtain ⟨trail, htrail, htext⟩ := Text.exists_trimEnd_append (c :: rest)
    refine ⟨trail ++ [blank], List.forall_mem_append.mpr ⟨htrail, hspace⟩, .inr (by simp), ?_⟩
    calc Text.trim (lead ++ c :: rest ++ blank :: '/' :: '/' :: remark)
        = Text.trimEnd (c :: rest ++ [blank] ++ '/' :: '/' :: remark) := by
          rw [List.append_assoc, List.cons_append, Text.trim_append_cons hlead hc]
          simp
      _ = c :: rest ++ [blank] ++ '/' :: '/' :: remark.trimEnd := trimEnd_append_mark _ remark
      _ = Text.trimEnd (c :: rest) ++ trail ++ [blank] ++ '/' :: '/' :: remark.trimEnd := by
          rw [← htext]
      _ = Text.trim (lead ++ c :: rest) ++ (trail ++ [blank] ++ '/' :: '/' :: remark.trimEnd) := by
          rw [Text.trim_append_cons hlead hc]
          simp only [List.append_assoc]

/-- A comment behind a blank does not change what a line says, if the line leaves its brackets. -/
theorem body_append_comment {raw : Text} (h : OutsideFirst raw) {blank : Char}
    (hblank : isBlank blank = true) (remark : Text) :
    body (raw ++ blank :: '/' :: '/' :: remark) = body raw := by
  obtain ⟨gap, hgap, hmeet, htrim⟩ := exists_trim_append_comment raw hblank remark
  have hspan : Span.before.over raw.trim ≠ .inside := by
    rw [over_trim]
    exact (over_ne_inside_iff raw).mpr h
  have htrimmed : raw.trim.trimEnd = raw.trim := Text.trimEnd_trimEnd _
  have hapart : raw.trim.getLast? ≠ some '/' ∨ gap ≠ [] := by
    refine hmeet.imp_left fun hnil => ?_
    rw [hnil]
    simp
  rw [body, body, htrim]
  exact stripComment_append_remark htrimmed hspan hgap hapart _

variable (settings : Settings)

/-! ## Lines that say the same -/

theorem operationsOf_cons (raw : Text) (number : Nat) (rest : List (Text × Nat)) :
    operationsOf settings ((raw, number) :: rest) =
      (readLine settings number raw).operation.toList ++ operationsOf settings rest := by
  unfold operationsOf
  rw [List.filterMap_cons]
  dsimp only
  cases (readLine settings number raw).operation <;> rfl

/-- Lines that say the same give the same operations. -/
theorem operationsOf_congr {lines lines' : List Text} (h : lines.map body = lines'.map body)
    (number : Nat) :
    operationsOf settings (lines.zipIdx number) = operationsOf settings (lines'.zipIdx number) := by
  induction lines generalizing lines' number with
  | nil =>
    obtain rfl : lines' = [] := List.map_eq_nil_iff.mp h.symm
    rfl
  | cons raw lines ih =>
    obtain ⟨raw', others, rfl, hraw, hothers⟩ := List.map_eq_cons_iff.mp h.symm
    rw [List.zipIdx_cons, List.zipIdx_cons, operationsOf_cons, operationsOf_cons, ih hothers.symm,
      readLine_congr settings number hraw]

/-- Lines that say the same and are shown alike give the same diagnostics. -/
theorem diagnosticsOf_congr {lines lines' : List Text} (h : lines.map body = lines'.map body)
    (hraw : lines.map (Text.trimEndWhere (· == '\r')) =
      lines'.map (Text.trimEndWhere (· == '\r'))) (number : Nat) :
    diagnosticsOf settings (lines.zipIdx number) =
      diagnosticsOf settings (lines'.zipIdx number) := by
  induction lines generalizing lines' number with
  | nil =>
    obtain rfl : lines' = [] := List.map_eq_nil_iff.mp h.symm
    rfl
  | cons raw lines ih =>
    obtain ⟨raw', others, rfl, hbody, hothers⟩ := List.map_eq_cons_iff.mp h.symm
    obtain ⟨hshown, hrest⟩ := List.cons.inj hraw
    rw [List.zipIdx_cons, List.zipIdx_cons, diagnosticsOf_cons, diagnosticsOf_cons,
      ih hothers.symm hrest, readLine_congr settings number hbody, lineDiagnostics,
      lineDiagnostics, hshown]

/-! ## Line breaks -/

/-- A line with a carriage return behind it says the same. -/
theorem body_append_return (raw : Text) : body (raw ++ ['\r']) = body raw := by
  have hspace : isSpace '\r' = true := by decide
  rw [body, body, Text.trim_append_space hspace]

/-- What does not see a carriage return at the end of a line does not see the style of the line
breaks. -/
theorem map_splitOn_join_crlf {α : Type} {view : Text → α}
    (hview : ∀ raw, view (raw ++ ['\r']) = view raw) {lines : List Text} (hne : lines ≠ [])
    (h : ∀ line ∈ lines, '\n' ∉ line) :
    (Text.splitOn '\n' (LineBreak.crlf.join lines)).map view = lines.map view := by
  unfold LineBreak.join
  induction lines with
  | nil => exact absurd rfl hne
  | cons line rest ih =>
    rw [List.forall_mem_cons] at h
    cases rest with
    | nil =>
      have hsingle := Text.splitOn_of_not_mem h.1
      rw [Text.join_singleton, hsingle]
    | cons next others =>
      have hrest : next :: others ≠ [] := List.cons_ne_nil next others
      have hline : '\n' ∉ line ++ ['\r'] := by simp [h.1]
      have hbreak : line ++ LineBreak.crlf.text = line ++ ['\r'] ++ ['\n'] := by
        simp [LineBreak.text]
      rw [Text.join_cons_of_ne_nil _ _ hrest, hbreak, List.append_assoc, List.singleton_append,
        Text.splitOn_append_separator, Text.splitOn_of_not_mem hline, List.map_append,
        ih hrest h.2, List.map_singleton, hview, List.map_cons]
      rfl

theorem map_splitOn_write_crlf {α : Type} {view : Text → α}
    (hview : ∀ raw, view (raw ++ ['\r']) = view raw) (source : Text) :
    (Text.splitOn '\n' (LineBreak.crlf.write source)).map view =
      (Text.splitOn '\n' source).map view := by
  have hlines : ∀ line ∈ Text.splitOn '\n' source, '\n' ∉ line :=
    fun line hline => Text.not_mem_of_mem_splitOn hline
  rw [LineBreak.write_eq_join, map_splitOn_join_crlf hview (Text.splitOn_ne_nil '\n' source) hlines]

/-! ## Another line in place of one -/

/-- The source with another line in place of one of its lines. -/
def setLine (i : Nat) (line source : Text) : Text :=
  Text.join ['\n'] ((source.splitOn '\n').set i line)

theorem splitOn_setLine {line : Text} (h : '\n' ∉ line) (i : Nat) (source : Text) :
    (setLine i line source).splitOn '\n' = (source.splitOn '\n').set i line := by
  refine Text.splitOn_join ?_ fun piece hpiece => ?_
  · simpa using Text.splitOn_ne_nil '\n' source
  · rcases List.mem_or_eq_of_mem_set hpiece with hmem | rfl
    · exact Text.not_mem_of_mem_splitOn hmem
    · exact h

end Script

/-- The diagnostic as it is when the line with a given number is written in another way. -/
def Diagnostic.rewritten (number : Nat) (raw : Text) (diagnostic : Diagnostic) : Diagnostic :=
  if diagnostic.lineNumber = number then
    { diagnostic with rawLine := raw.trimEndWhere (· == '\r') }
  else diagnostic

namespace Script

variable (settings : Settings)

theorem map_rewritten_lineDiagnostics (number other : Nat) (raw raw' : Text)
    (unknown : List Text) :
    (lineDiagnostics number raw unknown).map (Diagnostic.rewritten other raw') =
      lineDiagnostics number (if number = other then raw' else raw) unknown := by
  rw [lineDiagnostics, lineDiagnostics, List.map_map]
  refine List.map_congr_left fun word _ => ?_
  rw [Function.comp_apply, Diagnostic.rewritten]
  split <;> rfl

/-- The diagnostics of other lines stay as they are. -/
theorem map_rewritten_of_forall_ne {numbered : List (Text × Nat)} {number : Nat}
    (h : ∀ line ∈ numbered, line.2 ≠ number) (raw : Text) :
    (diagnosticsOf settings numbered).map (Diagnostic.rewritten number raw) =
      diagnosticsOf settings numbered := by
  induction numbered with
  | nil => rfl
  | cons line rest ih =>
    rw [List.forall_mem_cons] at h
    rw [diagnosticsOf_cons, List.map_append, map_rewritten_lineDiagnostics, if_neg h.1, ih h.2]

/-- If a line is written in another way and says the same, its diagnostics show the line as it is
written now. -/
theorem diagnosticsOf_set {lines : List Text} {i : Nat} {raw raw' : Text}
    (hline : lines[i]? = some raw) (hbody : body raw' = body raw) (number : Nat) :
    diagnosticsOf settings ((lines.set i raw').zipIdx number) =
      (diagnosticsOf settings (lines.zipIdx number)).map
        (Diagnostic.rewritten (number + i) raw') := by
  induction lines generalizing i number with
  | nil => cases hline
  | cons first rest ih =>
    rw [List.zipIdx_cons, diagnosticsOf_cons, List.map_append, map_rewritten_lineDiagnostics]
    cases i with
    | zero =>
      obtain rfl : first = raw := Option.some.inj hline
      have hlater : ∀ line ∈ rest.zipIdx (number + 1), line.2 ≠ number + 0 := by
        intro line hmem
        have hle := (List.mem_zipIdx hmem).1
        omega
      rw [List.set_cons_zero, List.zipIdx_cons, diagnosticsOf_cons,
        map_rewritten_of_forall_ne settings hlater, readLine_congr settings number hbody,
        if_pos (Nat.add_zero number).symm]
    | succ i =>
      have hother : number ≠ number + (i + 1) := by omega
      have hnumber : number + 1 + i = number + (i + 1) := by omega
      rw [List.set_cons_succ, List.zipIdx_cons, diagnosticsOf_cons, ih hline, hnumber,
        if_neg hother]

theorem map_body_set {lines : List Text} {i : Nat} {raw raw' : Text}
    (hline : lines[i]? = some raw) (hbody : body raw' = body raw) :
    (lines.set i raw').map body = lines.map body := by
  have hraw : (lines.map body)[i]? = some (body raw') := by
    rw [List.getElem?_map, hline, hbody]
    rfl
  obtain ⟨hlt, hget⟩ := List.getElem?_eq_some_iff.mp hraw
  rw [List.map_set, ← hget, List.set_getElem_self]

/-- The layout of a script does not change what it means.  Its line breaks may be written as
carriage returns and line feeds.  A comment may be put behind each line whose first opening bracket,
if there is any, is followed by a closing one; then only the diagnostics of that line show it. -/
theorem compile_layout (settings : Settings) (source : Text) :
    ((compile settings (LineBreak.crlf.write source)).program.operations =
        (compile settings source).program.operations ∧
      (compile settings (LineBreak.crlf.write source)).diagnostics =
        (compile settings source).diagnostics) ∧
    ∀ (i : Nat) (raw : Text) (blank : Char) (remark : Text),
      (source.splitOn '\n')[i]? = some raw → OutsideFirst raw → isBlank blank = true →
      '\n' ∉ remark →
      (compile settings
          (setLine i (raw ++ blank :: '/' :: '/' :: remark) source)).program.operations =
        (compile settings source).program.operations ∧
      (compile settings (setLine i (raw ++ blank :: '/' :: '/' :: remark) source)).diagnostics =
        (compile settings source).diagnostics.map
          (Diagnostic.rewritten (i + 1) (raw ++ blank :: '/' :: '/' :: remark)) := by
  have hspace : ∀ raw : Text, (raw ++ ['\r']).trimEndWhere (· == '\r') =
      raw.trimEndWhere (· == '\r') := by
    intro raw
    exact Text.trimEndWhere_append_of_forall raw (by simp)
  refine ⟨⟨?_, ?_⟩, ?_⟩
  · exact operationsOf_congr settings (map_splitOn_write_crlf body_append_return source) 1
  · exact diagnosticsOf_congr settings (map_splitOn_write_crlf body_append_return source)
      (map_splitOn_write_crlf hspace source) 1
  · intro i raw blank remark hline houtside hblank hremark
    have hbody := body_append_comment houtside hblank remark
    have hfeed : '\n' ∉ raw ++ blank :: '/' :: '/' :: remark := by
      have hraw := Text.not_mem_of_mem_splitOn (List.mem_of_getElem? hline)
      have hne : '\n' ≠ blank := fun heq => absurd hblank (by rw [← heq]; decide)
      simp [hraw, hne, hremark]
    have hlines := splitOn_setLine hfeed i source
    refine ⟨?_, ?_⟩
    · dsimp only [compile, Program.ofSource, numberedLines]
      rw [hlines]
      exact operationsOf_congr settings (map_body_set hline hbody) 1
    · dsimp only [compile, numberedLines]
      rw [hlines, diagnosticsOf_set settings hline hbody, Nat.add_comm 1 i]

/-- Slashes in brackets and a single slash, and then a comment with brackets of its own. -/
theorem compile_layout_slashes :
    OutsideFirst "wobble [a // b] /".toList ∧
      (compile {} "paste\nwobble [a // b] /\t// ] [".toList).program.operations =
        (compile {} "paste\nwobble [a // b] /".toList).program.operations ∧
      (compile {} "paste\nwobble [a // b] /\t// ] [".toList).diagnostics =
        (compile {} "paste\nwobble [a // b] /".toList).diagnostics.map
          (Diagnostic.rewritten 2 "wobble [a // b] /\t// ] [".toList) := by
  have houtside : OutsideFirst "wobble [a // b] /".toList :=
    (over_ne_inside_iff _).mp (by decide)
  have hsource : setLine 1 "wobble [a // b] /\t// ] [".toList
      "paste\nwobble [a // b] /".toList = "paste\nwobble [a // b] /\t// ] [".toList := by decide
  obtain ⟨-, hremark⟩ := compile_layout {} "paste\nwobble [a // b] /".toList
  have hsame := hremark 1 "wobble [a // b] /".toList '\t' " ] [".toList rfl houtside rfl (by decide)
  rw [← hsource]
  exact ⟨houtside, hsame⟩

end Script

end EditPlayer
