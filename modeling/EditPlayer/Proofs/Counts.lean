import Mathlib.Algebra.Group.Nat.Defs
import Mathlib.Data.List.TakeWhile
import EditPlayer.Proofs.Lines
import EditPlayer.Proofs.Runs
import EditPlayer.Script.Compilation
set_option autoImplicit false

/-!
# How large the numbers of a script can be

A count is read from the digits behind an optional sign among the first characters of a word
(`readCount_parts`), so the operations of a script are repeated a bounded number of times
(`repeats_le_of_mem_compile`).  A script has at most one operation for each of its lines, and
so at most one more than it has characters (`length_operations_compile`).
-/

namespace EditPlayer

/-! ## Counts -/

theorem Text.decimalValue_lt {digits : Text} (h : ∀ c ∈ digits, c.isDigit = true) :
    decimalValue digits < 10 ^ digits.length := by
  induction digits with
  | nil => decide
  | cons c rest ih =>
    have hrest := ih fun d hd => h d (List.mem_cons_of_mem c hd)
    have hdigit : c.toNat - '0'.toNat ≤ 9 := by
      have hc := h c List.mem_cons_self
      simp only [Char.isDigit, Bool.and_eq_true, decide_eq_true_eq] at hc
      have hle : c.toNat ≤ 57 := hc.2
      have hzero : '0'.toNat = 48 := rfl
      omega
    unfold decimalValue at hrest ⊢
    rw [Nat.ofDigitChars_cons, Nat.ofDigitChars_eq_ofDigitChars_zero, Nat.mul_zero, Nat.zero_add,
      List.length_cons, Nat.pow_succ]
    have hmul : 10 ^ rest.length * (c.toNat - '0'.toNat) ≤ 10 ^ rest.length * 9 :=
      Nat.mul_le_mul_left _ hdigit
    omega

namespace Script

/-- What is looked at of a word: a plus sign if there is one, the longest run of digits behind it,
and the characters that follow. -/
structure CountParts (settings : Settings) (word sign digits rest : Text) : Prop where
  take_eq : word.take settings.countDigits = sign ++ digits ++ rest
  sign_eq : sign = if (word.take settings.countDigits).head? = some '+' then ['+'] else []
  isDigit_of_mem : ∀ c ∈ digits, c.isDigit = true
  head_rest : ∀ c ∈ rest.head?, c.isDigit = false

theorem eq_sign_append_dropPlus (text : Text) :
    text = (if text.head? = some '+' then ['+'] else []) ++ dropPlus text := by
  unfold dropPlus
  split
  · rename_i hhead
    obtain ⟨rest, rfl⟩ := List.head?_eq_some_iff.mp hhead
    rfl
  · rename_i hhead
    split
    · exact absurd rfl hhead
    · rfl

/-- The digits of a count are the run of digits behind the sign. -/
theorem exists_countParts (settings : Settings) (word : Text) :
    ∃ sign rest, CountParts settings word sign (countDigits settings word) rest := by
  refine ⟨_, (dropPlus (word.take settings.countDigits)).dropWhile Char.isDigit, ?_, rfl,
    List.all_eq_true.mp List.all_takeWhile, Text.head?_dropWhile_eq_false⟩
  rw [List.append_assoc, countDigits, List.takeWhile_append_dropWhile]
  exact eq_sign_append_dropPlus _

/-- There is one run of digits behind the sign. -/
theorem CountParts.countDigits_eq {settings : Settings} {word sign digits rest : Text}
    (h : CountParts settings word sign digits rest) : countDigits settings word = digits := by
  have hplus := eq_sign_append_dropPlus (word.take settings.countDigits)
  rw [← h.sign_eq] at hplus
  have hrest : digits ++ rest = dropPlus (word.take settings.countDigits) := by
    rw [← List.append_cancel_left_eq sign, ← hplus, h.take_eq, List.append_assoc]
  rw [countDigits, ← hrest, Text.takeWhile_append_eq h.isDigit_of_mem h.head_rest]

/-- The value of the digits is the count, if it is not zero and fits into a machine word. -/
theorem readCount_eq (settings : Settings) (word : Text) :
    readCount settings word =
      if countDigits settings word ≠ [] ∧ 1 ≤ (countDigits settings word).decimalValue ∧
          (countDigits settings word).decimalValue < wordLimit then
        (countDigits settings word).decimalValue
      else settings.defaultCount := by
  have hdigits : (countDigits settings word).all Char.isDigit = true := List.all_takeWhile
  rw [readCount, Text.readWord?, hdigits, Bool.not_true, Bool.or_false]
  cases countDigits settings word with
  | nil => rfl
  | cons c rest =>
    rw [List.isEmpty_cons, if_neg Bool.false_ne_true]
    by_cases hlimit : Text.decimalValue (c :: rest) < wordLimit
    · rw [if_pos hlimit]
      by_cases hzero : Text.decimalValue (c :: rest) = 0
      · simp [hzero]
      · simp [hzero, hlimit, Nat.one_le_iff_ne_zero]
    · simp [hlimit]

/-- A count has at most as many digits as are looked at. -/
theorem length_countDigits_le (settings : Settings) (word : Text) :
    (countDigits settings word).length ≤ settings.countDigits := by
  obtain ⟨sign, rest, hparts⟩ := exists_countParts settings word
  have hlength := congrArg List.length hparts.take_eq
  rw [List.length_append, List.length_append, List.length_take] at hlength
  omega

/-- A count that is read is the default count or has as many digits as are looked at. -/
theorem readCount_le (settings : Settings) (word : Text) :
    readCount settings word ≤ max settings.defaultCount (10 ^ settings.countDigits - 1) := by
  have hdigits : ∀ c ∈ countDigits settings word, c.isDigit = true :=
    List.all_eq_true.mp List.all_takeWhile
  have hvalue : (countDigits settings word).decimalValue < 10 ^ settings.countDigits :=
    Nat.lt_of_lt_of_le (Text.decimalValue_lt hdigits)
      (Nat.pow_le_pow_right (by decide) (length_countDigits_le settings word))
  rw [readCount_eq]
  split
  · omega
  · exact Nat.le_max_left _ _

/-- A numeral that is looked at as a whole is read as its number, whatever follows its digits. -/
theorem readCount_decimal_append {settings : Settings} {n : Nat} (hn : 1 ≤ n)
    (hlimit : n < wordLimit) (hlength : (Text.decimal n).length ≤ settings.countDigits)
    {tail : Text} (htail : ∀ c ∈ tail.head?, c.isDigit = false) :
    readCount settings (Text.decimal n ++ tail) = n := by
  obtain ⟨room, hroom⟩ := Nat.exists_eq_add_of_le hlength
  have htake : (Text.decimal n ++ tail).take settings.countDigits =
      Text.decimal n ++ tail.take room := by
    rw [hroom, List.take_length_add_append]
  have hplus : (Text.decimal n ++ tail.take room).head? ≠ some '+' := by
    intro hhead
    obtain ⟨c, digits, hdecimal⟩ := List.exists_cons_of_ne_nil (Text.decimal_ne_nil n)
    have hdigit : c.isDigit = true := Text.isDigit_of_mem_decimal (hdecimal ▸ List.mem_cons_self)
    rw [hdecimal, List.cons_append, List.head?_cons, Option.some.injEq] at hhead
    subst hhead
    exact absurd hdigit (by decide)
  have hparts : CountParts settings (Text.decimal n ++ tail) [] (Text.decimal n)
      (tail.take room) := by
    refine ⟨by rw [htake, List.nil_append], ?_, fun c => Text.isDigit_of_mem_decimal, ?_⟩
    · rw [htake, if_neg hplus]
    · intro c hc
      cases room with
      | zero => cases hc
      | succ room =>
        rw [List.head?_take, if_neg (Nat.succ_ne_zero room)] at hc
        exact htail c hc
  rw [readCount_eq, hparts.countDigits_eq, Text.decimalValue_decimal,
    if_pos ⟨Text.decimal_ne_nil n, hn, hlimit⟩]

theorem readCount_decimal {settings : Settings} {n : Nat} (hn : 1 ≤ n) (hlimit : n < wordLimit)
    (hlength : (Text.decimal n).length ≤ settings.countDigits) :
    readCount settings (Text.decimal n) = n := by
  rw [← List.append_nil (Text.decimal n)]
  exact readCount_decimal_append hn hlimit hlength (by simp)

/-- A count is read from the digits behind an optional sign among the first characters of a word.  It
is the default count if there are none, or if their value is zero or does not fit into a machine
word.  So each numeral that is short enough is read as its number, also with something else behind
it, and unless it is the default count no count is zero or has more digits than are looked at. -/
theorem readCount_parts (settings : Settings) (word : Text) :
    (∃ sign digits rest, CountParts settings word sign digits rest ∧
        readCount settings word =
          if digits ≠ [] ∧ 1 ≤ digits.decimalValue ∧ digits.decimalValue < wordLimit then
            digits.decimalValue
          else settings.defaultCount) ∧
      (∀ n, 1 ≤ n → n < wordLimit → (Text.decimal n).length ≤ settings.countDigits →
        readCount settings (Text.decimal n) = n ∧
          ∀ c rest, c.isDigit = false →
            readCount settings (Text.decimal n ++ c :: rest) = n) ∧
      (1 ≤ settings.defaultCount →
        1 ≤ readCount settings word ∧
          readCount settings word ≤ max settings.defaultCount (10 ^ settings.countDigits - 1)) := by
  refine ⟨?_, fun n hn hlimit hlength => ⟨readCount_decimal hn hlimit hlength, ?_⟩,
    fun hdefault => ⟨one_le_readCount hdefault word, readCount_le settings word⟩⟩
  · obtain ⟨sign, rest, hparts⟩ := exists_countParts settings word
    exact ⟨sign, countDigits settings word, rest, hparts, readCount_eq settings word⟩
  · intro c rest hc
    exact readCount_decimal_append hn hlimit hlength (by simpa using hc)

/-- The largest machine word is read in front of other characters. -/
theorem readCount_parts_largestWord :
    readCount ⟨20, 7⟩ (Text.decimal 18446744073709551615 ++ ['x', '9']) = 18446744073709551615 ∧
      1 ≤ readCount ⟨3, 7⟩ ['+', '0', '4', '5'] ∧ readCount ⟨3, 7⟩ ['+', '0', '4', '5'] ≤ 999 := by
  obtain ⟨-, hnumeral, -⟩ := readCount_parts ⟨20, 7⟩ []
  obtain ⟨-, -, hbounds⟩ := readCount_parts ⟨3, 7⟩ ['+', '0', '4', '5']
  exact ⟨(hnumeral _ (by decide) (by decide) (by decide +kernel)).2 'x' ['9'] rfl,
    hbounds (by decide)⟩

/-- The most often that an operation of a script is done. -/
def largestCount (settings : Settings) : Nat :=
  max 1 (max settings.defaultCount (10 ^ settings.countDigits - 1))

theorem repeats_readCount?_le (settings : Settings) (word : Option Text) :
    (Payload.count (readCount? settings word)).repeats ≤ largestCount settings := by
  have hcount : readCount? settings word ≤
      max settings.defaultCount (10 ^ settings.countDigits - 1) := by
    cases word with
    | none => exact Nat.le_max_left _ _
    | some word => exact readCount_le settings word
  dsimp only [Payload.repeats, largestCount]
  omega

/-! ## Operations -/

section Lines

variable {settings : Settings}

theorem one_le_largestCount : 1 ≤ largestCount settings := Nat.le_max_left _ _

theorem repeats_patternPayload?_le {line : Text} {payload : Payload}
    (h : patternPayload? settings line = some payload) :
    payload.repeats ≤ largestCount settings := by
  obtain ⟨found, -, rfl⟩ := Option.map_eq_some_iff.mp h
  exact one_le_largestCount

theorem repeats_readMove_le {start operation : Operation}
    (hstart : start.repeats ≤ largestCount settings) {reported : List Text} {line second : Text}
    {rest : List Text}
    (h : (readMove settings start reported line second rest).operation = some operation) :
    operation.repeats ≤ largestCount settings := by
  unfold readMove at h
  dsimp only at h
  split at h
  · cases h
    exact repeats_readCount?_le settings rest.head?
  · split at h
    · split at h
      · rename_i payload hpayload
        cases h
        exact repeats_patternPayload?_le hpayload
      · cases h
        exact hstart
    · cases h
      exact repeats_readCount?_le settings rest.head?

theorem repeats_readInstruction_le {number : Nat} {line : Text} {select : Bool}
    {operation : Operation}
    (h : (readInstruction settings number line select).operation = some operation) :
    operation.repeats ≤ largestCount settings := by
  have hone : (Payload.count 1).repeats ≤ largestCount settings := one_le_largestCount
  unfold readInstruction at h
  dsimp only at h
  split at h
  · cases h
    exact hone
  · split at h
    · cases h
      exact hone
    · refine repeats_readMove_le ?_ h
      exact hone
    · cases h
      exact hone
    · split at h
      · refine repeats_readMove_le ?_ h
        exact hone
      · cases h
        exact hone

theorem repeats_readLine_le {number : Nat} {raw : Text} {operation : Operation}
    (h : (readLine settings number raw).operation = some operation) :
    operation.repeats ≤ largestCount settings := by
  unfold readLine at h
  dsimp only at h
  split at h
  · cases h
  · split at h
    · cases h
      exact one_le_largestCount
    · exact repeats_readInstruction_le h

end Lines

/-- No operation of a script is done more often than its largest count says. -/
theorem repeats_le_of_mem_compile {settings : Settings} {source : Text} {operation : Operation}
    (h : operation ∈ (compile settings source).program.operations) :
    operation.repeats ≤ largestCount settings := by
  obtain ⟨entry, -, hread⟩ := List.mem_filterMap.mp h
  exact repeats_readLine_le hread

/-- The counts of a script with the usual settings have their negative counterparts. -/
theorem repeats_ne_of_mem_compile {source : Text} {operation : Operation}
    (h : operation ∈ (compile {} source).program.operations) : operation.repeats ≠ signLimit := by
  have hle := repeats_le_of_mem_compile h
  have hlimit : largestCount {} < signLimit := by decide
  omega

/-- A script has no more operations than lines. -/
theorem length_operations_compile (settings : Settings) (source : Text) :
    (compile settings source).program.operations.length ≤ source.length + 1 :=
  calc (compile settings source).program.operations.length
      ≤ (numberedLines source).length := List.length_filterMap_le _ _
    _ = (source.splitOn '\n').length := List.length_zipIdx
    _ ≤ source.length + 1 := Text.length_splitOn_le '\n' source

end Script

end EditPlayer
