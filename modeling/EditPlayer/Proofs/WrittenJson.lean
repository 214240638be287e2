import EditPlayer.Json.Decode
import EditPlayer.Json.Printer
import EditPlayer.Json.Reader
import Mathlib.Data.List.DropRight
set_option autoImplicit false

/-!
# What is written is read back

`Written` says which texts a value may be written as, with white space between the tokens.  The
reader reads every such text as the value (`readSymbols?_of_written`), and leaves what follows it
unless that goes on with a number (`value?_of_written`).  Both the compact and the indented form of
a plain value are such texts, so plain values survive writing and reading (`Plain.read?_compact`,
`Plain.readSymbols?_pretty`).

A value is plain (`Plain`) if its strings and names are texts and its numbers are written without
signs, fractions and powers; all values that this library writes are.
-/

namespace EditPlayer.Json

/-! ## Written values -/

/-- White space between tokens. -/
def Gaps (text : Text) : Prop := ∀ c ∈ text, isGap (some c) = true

mutual

/-- The texts that a value may be written as, apart from white space around it. -/
inductive Written : Json → Text → Prop where
  | null : Written .null ['n', 'u', 'l', 'l']
  | yes : Written (.bool true) ['t', 'r', 'u', 'e']
  | no : Written (.bool false) ['f', 'a', 'l', 's', 'e']
  | number (n : Nat) : Written (.number (Text.decimal n)) (Text.decimal n)
  | string (text : Text) : Written (.string (some text)) (quote text)
  | emptyArray : Written (.array []) ['[', ']']
  | array {items : List Json} {text : Text} (hitems : WrittenItems items text) :
      Written (.array items) ('[' :: (text ++ [']']))
  | emptyObject : Written (.object []) ['\x7b', '\x7d']
  | object {members : List (Option Text × Json)} {text : Text}
      (hmembers : WrittenMembers members text) :
      Written (.object members) ('\x7b' :: (text ++ ['\x7d']))

/-- The texts of one or more items, divided by commas. -/
inductive WrittenItems : List Json → Text → Prop where
  | last {item : Json} {before text after : Text} (hbefore : Gaps before) (hafter : Gaps after)
      (hitem : Written item text) : WrittenItems [item] (before ++ (text ++ after))
  | cons {item : Json} {before text after : Text} (hbefore : Gaps before) (hafter : Gaps after)
      (hitem : Written item text) {items : List Json} {rest : Text}
      (hrest : WrittenItems items rest) :
      WrittenItems (item :: items) (before ++ (text ++ (after ++ ',' :: rest)))

/-- The texts of one or more members, divided by commas. -/
inductive WrittenMembers : List (Option Text × Json) → Text → Prop where
  | last {item : Json} {before between text after : Text} (name : Text) (hbefore : Gaps before)
      (hbetween : Gaps between) (hafter : Gaps after) (hitem : Written item text) :
      WrittenMembers [(some name, item)]
        (before ++ (quote name ++ ':' :: (between ++ (text ++ after))))
  | cons {item : Json} {before between text after : Text} (name : Text) (hbefore : Gaps before)
      (hbetween : Gaps between) (hafter : Gaps after) (hitem : Written item text)
      {members : List (Option Text × Json)} {rest : Text} (hrest : WrittenMembers members rest) :
      WrittenMembers ((some name, item) :: members)
        (before ++ (quote name ++ ':' :: (between ++ (text ++ (after ++ ',' :: rest)))))

end

/-! ## Symbols -/

@[simp] theorem symbols_nil : symbols [] = [] := rfl

@[simp] theorem symbols_cons (c : Char) (text : Text) :
    symbols (c :: text) = some c :: symbols text := rfl

@[simp] theorem symbols_append (first second : Text) :
    symbols (first ++ second) = symbols first ++ symbols second :=
  List.map_append

@[simp] theorem length_symbols (text : Text) : (symbols text).length = text.length :=
  List.length_map _

/-- White space is passed over. -/
theorem skipGaps_append {gaps : Text} (h : Gaps gaps) (rest : Symbols) :
    skipGaps (symbols gaps ++ rest) = skipGaps rest := by
  refine List.dropWhile_append_of_pos fun symbol hsymbol => ?_
  obtain ⟨c, hc, rfl⟩ := List.mem_map.mp hsymbol
  exact h c hc

/-- A token is not passed over. -/
theorem skipGaps_cons {c : Char} (h : isGap (some c) = false) (rest : Symbols) :
    skipGaps (some c :: rest) = some c :: rest :=
  List.dropWhile_cons_of_neg (by simp [h])

/-- The token behind white space is found. -/
theorem skipGaps_token {gaps : Text} (h : Gaps gaps) {c : Char} (hc : isGap (some c) = false)
    (rest : Symbols) : skipGaps (symbols gaps ++ some c :: rest) = some c :: rest := by
  rw [skipGaps_append h, skipGaps_cons hc]

/-! ## Numbers -/

/-- What follows cannot go on with a number. -/
def EndsNumber (rest : Symbols) : Prop :=
  ∀ c, rest.head? = some (some c) → c.isDigit = false ∧ c ≠ '.' ∧ c ≠ 'e' ∧ c ≠ 'E'

theorem endsNumber_nil : EndsNumber [] := fun _ h => nomatch h

theorem endsNumber_cons {c : Char} (h : c.isDigit = false ∧ c ≠ '.' ∧ c ≠ 'e' ∧ c ≠ 'E')
    (rest : Symbols) : EndsNumber (some c :: rest) := by
  intro d hd
  cases hd
  exact h

/-- White space ends a number, and so does a token that no number holds. -/
theorem endsNumber_token {gaps : Text} (h : Gaps gaps) {c : Char}
    (hc : c.isDigit = false ∧ c ≠ '.' ∧ c ≠ 'e' ∧ c ≠ 'E') (rest : Symbols) :
    EndsNumber (symbols gaps ++ some c :: rest) := by
  cases gaps with
  | nil => exact endsNumber_cons hc rest
  | cons c gaps =>
    refine endsNumber_cons ?_ _
    have hgap := h c List.mem_cons_self
    simp only [isGap, Bool.or_eq_true, beq_iff_eq] at hgap
    rcases hgap with ((rfl | rfl) | rfl) | rfl <;> decide

theorem digits_of_endsNumber {rest : Symbols} (h : EndsNumber rest) : digits rest = ([], rest) := by
  match rest, h with
  | [], _ => rfl
  | none :: rest, _ => rfl
  | some c :: rest, h => rw [digits, (h c rfl).1, if_neg Bool.false_ne_true]

theorem digits_append {numeral : Text} (h : ∀ c ∈ numeral, c.isDigit = true) {rest : Symbols}
    (hrest : EndsNumber rest) : digits (symbols numeral ++ rest) = (numeral, rest) := by
  induction numeral with
  | nil => exact digits_of_endsNumber hrest
  | cons c numeral ih =>
    rw [List.forall_mem_cons] at h
    rw [symbols_cons, List.cons_append, digits, if_pos h.1, ih h.2]

theorem someDigits?_append {numeral : Text} (hne : numeral ≠ [])
    (h : ∀ c ∈ numeral, c.isDigit = true) {rest : Symbols} (hrest : EndsNumber rest) :
    someDigits? (symbols numeral ++ rest) = some (numeral, rest) := by
  rw [someDigits?, digits_append h hrest]
  cases numeral with
  | nil => exact absurd rfl hne
  | cons c numeral => rfl

/-- The numeral of a number other than zero does not begin with a zero. -/
theorem head?_decimal_ne {n : Nat} (h : n ≠ 0) : (Text.decimal n).head? ≠ some '0' := by
  have hdigit : ∀ m < 10, m ≠ 0 → [m.digitChar].head? ≠ some '0' := by decide
  induction n using Nat.strongRecOn with
  | ind n ih =>
    unfold Text.decimal at ih ⊢
    by_cases hsmall : n < 10
    · rw [Nat.toDigits_of_lt_base hsmall]
      exact hdigit n hsmall h
    · have hshorter := ih (n / 10) (by omega) (by omega)
      rw [Nat.toDigits_of_base_le (by decide) (by omega), List.head?_append]
      cases hhead : (Nat.toDigits 10 (n / 10)).head? with
      | none => exact absurd (List.head?_eq_none_iff.mp hhead) Nat.toDigits_ne_nil
      | some c => rwa [hhead] at hshorter

theorem exists_cons_decimal (n : Nat) :
    ∃ c numeral, Text.decimal n = c :: numeral ∧ c.isDigit = true ∧ (n ≠ 0 → c ≠ '0') := by
  obtain ⟨c, numeral, hdecimal⟩ : ∃ c numeral, Text.decimal n = c :: numeral :=
    List.exists_cons_of_ne_nil (Text.decimal_ne_nil n)
  refine ⟨c, numeral, hdecimal, Text.isDigit_of_mem_decimal (hdecimal ▸ List.mem_cons_self), ?_⟩
  rintro hn rfl
  exact head?_decimal_ne hn (by rw [hdecimal, List.head?_cons])

theorem wholePart?_decimal (n : Nat) {rest : Symbols} (hrest : EndsNumber rest) :
    wholePart? (symbols (Text.decimal n) ++ rest) = some (Text.decimal n, rest) := by
  have hread : someDigits? (symbols (Text.decimal n) ++ rest) = some (Text.decimal n, rest) :=
    someDigits?_append (Text.decimal_ne_nil n) (fun c hc => Text.isDigit_of_mem_decimal hc) hrest
  by_cases hn : n = 0
  · subst hn
    change wholePart? (some '0' :: rest) = some (['0'], rest)
    rw [wholePart?, digits_of_endsNumber hrest]
  · obtain ⟨c, numeral, hdecimal, -, hzero⟩ := exists_cons_decimal n
    rw [hdecimal, symbols_cons, List.cons_append] at hread ⊢
    unfold wholePart?
    split
    · rename_i hinput
      cases hinput
      exact absurd rfl (hzero hn)
    · exact hread

theorem fraction?_of_endsNumber {rest : Symbols} (h : EndsNumber rest) :
    fraction? rest = some ([], rest) := by
  unfold fraction?
  split
  · exact absurd rfl (h '.' rfl).2.1
  · rfl

theorem exponent?_of_endsNumber {rest : Symbols} (h : EndsNumber rest) :
    exponent? rest = some ([], rest) := by
  unfold exponent?
  split
  · exact absurd rfl (h 'e' rfl).2.2.1
  · exact absurd rfl (h 'E' rfl).2.2.2
  · rfl

/-- The numeral of a natural number is read as it is. -/
theorem numeral?_decimal (n : Nat) {rest : Symbols} (hrest : EndsNumber rest) :
    numeral? (symbols (Text.decimal n) ++ rest) = some (Text.decimal n, rest) := by
  have hunsigned : unsigned? (symbols (Text.decimal n) ++ rest) = some (Text.decimal n, rest) := by
    simp [unsigned?, wholePart?_decimal n hrest, fraction?_of_endsNumber hrest,
      exponent?_of_endsNumber hrest]
  obtain ⟨c, numeral, hdecimal, hdigit, -⟩ := exists_cons_decimal n
  rw [hdecimal, symbols_cons, List.cons_append] at hunsigned ⊢
  unfold numeral?
  split
  · rename_i hinput
    cases hinput
    exact absurd hdigit (by decide)
  · exact hunsigned

/-! ## Strings -/

/-- The control characters that have an escape of their own. -/
def shortEscapes : Text := ['\n', '\r', '\t', Char.ofNat 8, Char.ofNat 12]

/-- How the reader finds a character that is written in a string. -/
def pieceOf (c : Char) : Piece :=
  if c.toNat < 0x20 ∧ c ∉ shortEscapes then .unit c.toNat else .char c

theorem hexValue?_hexDigit : ∀ n < 16, hexValue? (hexDigit n) = some n := by decide

/-- A character that is written by its number is found as that number. -/
theorem unitCode?_hexDigit {n : Nat} (h : n < 0x20) :
    unitCode? '0' '0' (hexDigit (n / 16)) (hexDigit (n % 16)) = some n := by
  have hzero : hexValue? '0' = some 0 := by decide
  rw [unitCode?, hzero, hexValue?_hexDigit (n / 16) (by omega),
    hexValue?_hexDigit (n % 16) (by omega)]
  dsimp only
  congr 1
  omega

theorem escape_of_control {c : Char} (hcontrol : c.toNat < 0x20) (hshort : c ∉ shortEscapes) :
    escape c = ['\\', 'u', '0', '0', hexDigit (c.toNat / 16), hexDigit (c.toNat % 16)] := by
  have hquote : c ≠ '"' := fun h => absurd (h ▸ hcontrol) (by decide)
  have hslash : c ≠ '\\' := fun h => absurd (h ▸ hcontrol) (by decide)
  have hcode : ∀ n, c.toNat = n → c = Char.ofNat n := fun n h => by rw [← h, Char.ofNat_toNat]
  simp only [shortEscapes, List.mem_cons, List.not_mem_nil, or_false, not_or] at hshort
  obtain ⟨hfeed, hreturn, htab, hback, hform⟩ := hshort
  rw [escape, if_neg hquote, if_neg hslash, if_pos hcontrol, if_neg hfeed, if_neg hreturn,
    if_neg htab, if_neg fun h => hback (hcode 8 h), if_neg fun h => hform (hcode 12 h)]

/-- A character is found as it is written. -/
theorem pieces?_escape (c : Char) (input : Symbols) :
    pieces? (symbols (escape c) ++ input) =
      (pieces? input).map fun found => (pieceOf c :: found.1, found.2) := by
  by_cases hquote : c = '"'
  · subst hquote
    simp [escape, pieces?, unescape?, pieceOf, shortEscapes]
  by_cases hslash : c = '\\'
  · subst hslash
    simp [escape, pieces?, unescape?, pieceOf, shortEscapes]
  by_cases hcontrol : c.toNat < 0x20
  · by_cases hshort : c ∈ shortEscapes
    · simp only [shortEscapes, List.mem_cons, List.not_mem_nil, or_false] at hshort
      rcases hshort with rfl | rfl | rfl | rfl | rfl <;>
        simp [escape, pieces?, unescape?, pieceOf, shortEscapes]
    · have hunit := unitCode?_hexDigit hcontrol
      rw [escape_of_control hcontrol hshort, pieceOf, if_pos ⟨hcontrol, hshort⟩]
      simp only [symbols_cons, symbols_nil, List.cons_append, List.nil_append, pieces?, hunit]
  · rw [escape, if_neg hquote, if_neg hslash, if_neg hcontrol, pieceOf,
      if_neg fun h => hcontrol h.1]
    simp only [symbols_cons, symbols_nil, List.cons_append, List.nil_append]
    rw [pieces?]
    · simp [hcontrol, hslash]
    · exact hquote
    · exact fun _ _ _ _ _ _ => hslash
    · exact fun _ _ _ => hslash

theorem pieces?_quote (text : Text) (rest : Symbols) :
    pieces? (symbols (text.flatMap escape) ++ some '"' :: rest) =
      some (text.map pieceOf, rest) := by
  induction text with
  | nil => rw [List.flatMap_nil, symbols_nil, List.nil_append, pieces?, List.map_nil]
  | cons c text ih =>
    rw [List.flatMap_cons, symbols_append, List.append_assoc, pieces?_escape, ih, Option.map_some,
      List.map_cons]

theorem assemble?_cons_pieceOf (c : Char) (pieces : List Piece) :
    assemble? (pieceOf c :: pieces) = (assemble? pieces).map (c :: ·) := by
  unfold pieceOf
  split
  · rename_i hcontrol
    have hlead : isLead c.toNat = false := by simp [isLead]; omega
    have htrail : isTrail c.toNat = false := by simp [isTrail]; omega
    match pieces with
    | [] => simp [assemble?, hlead, htrail]
    | .unit code :: rest => simp [assemble?, hlead, htrail]
    | .char d :: rest => simp [assemble?, hlead, htrail]
    | .stray :: rest => simp [assemble?, hlead, htrail]
  · rfl

theorem assemble?_map_pieceOf (text : Text) : assemble? (text.map pieceOf) = some text := by
  induction text with
  | nil => rfl
  | cons c text ih => rw [List.map_cons, assemble?_cons_pieceOf, ih, Option.map_some]

/-- A quoted text is read back. -/
theorem stringRest?_quote (text : Text) (rest : Symbols) :
    stringRest? (symbols (text.flatMap escape) ++ some '"' :: rest) = some (some text, rest) := by
  rw [stringRest?, pieces?_quote, Option.map_some]
  dsimp only
  rw [assemble?_map_pieceOf]

/-! ## Values -/

theorem skipGaps_skipGaps (input : Symbols) : skipGaps (skipGaps input) = skipGaps input :=
  List.dropWhile_idempotent isGap input

/-- White space in front of a value makes no difference. -/
theorem value?_skipGaps (fuel : Nat) (input : Symbols) :
    value? fuel (skipGaps input) = value? fuel input := by
  cases fuel with
  | zero => rw [value?, value?]
  | succ fuel => rw [value?, value?, skipGaps_skipGaps]

theorem items?_skipGaps (fuel : Nat) (input : Symbols) :
    items? fuel (skipGaps input) = items? fuel input := by
  cases fuel with
  | zero => rw [items?, items?]
  | succ fuel => rw [items?, items?, value?_skipGaps]

theorem members?_skipGaps (fuel : Nat) (input : Symbols) :
    members? fuel (skipGaps input) = members? fuel input := by
  cases fuel with
  | zero => rw [members?, members?]
  | succ fuel => rw [members?, members?, skipGaps_skipGaps]

/-- A value begins with a character that is neither white space nor closes an array. -/
theorem Written.exists_cons {json : Json} {text : Text} (h : Written json text) :
    ∃ c tail, text = c :: tail ∧ isGap (some c) = false ∧ c ≠ ']' := by
  cases h with
  | null | yes | no | emptyArray | emptyObject | array | object | string =>
    exact ⟨_, _, rfl, by decide, by decide⟩
  | number n =>
    obtain ⟨c, tail, htext, hdigit, -⟩ := exists_cons_decimal n
    refine ⟨c, tail, htext, ?_, ?_⟩
    · refine Bool.eq_false_iff.mpr fun hgap => ?_
      simp only [isGap, Bool.or_eq_true, beq_iff_eq] at hgap
      rcases hgap with ((rfl | rfl) | rfl) | rfl <;> exact absurd hdigit (by decide)
    · rintro rfl
      exact absurd hdigit (by decide)

theorem value?_word {fuel : Nat} (rest : Symbols) :
    value? (fuel + 1) (symbols ['n', 'u', 'l', 'l'] ++ rest) = some (.null, rest) ∧
      value? (fuel + 1) (symbols ['t', 'r', 'u', 'e'] ++ rest) = some (.bool true, rest) ∧
      value? (fuel + 1) (symbols ['f', 'a', 'l', 's', 'e'] ++ rest) = some (.bool false, rest) := by
  simp [value?, skipGaps, isGap, word?]

theorem value?_number {fuel : Nat} (n : Nat) {rest : Symbols} (hrest : EndsNumber rest) :
    value? (fuel + 1) (symbols (Text.decimal n) ++ rest) =
      some (.number (Text.decimal n), rest) := by
  have hread := numeral?_decimal n hrest
  obtain ⟨c, tail, hdecimal, hdigit, -⟩ := exists_cons_decimal n
  obtain ⟨d, tail', hdecimal', hgap, -⟩ := (Written.number n).exists_cons
  cases hdecimal.symm.trans hdecimal'
  rw [value?]
  rw [hdecimal, symbols_cons, List.cons_append] at hread ⊢
  rw [skipGaps_cons hgap]
  -- a digit begins none of the other tokens
  split
  case h_7 => rw [hread, Option.map_some]
  all_goals
    rename_i hinput
    cases hinput
    exact absurd hdigit (by decide)

theorem value?_string {fuel : Nat} (text : Text) (rest : Symbols) :
    value? (fuel + 1) (symbols (quote text) ++ rest) = some (.string (some text), rest) := by
  have hread := stringRest?_quote text rest
  rw [value?, quote, symbols_cons, List.cons_append, skipGaps_cons (by decide)]
  simp [hread]

/-- White space in front of a value is passed over. -/
theorem value?_append {gaps : Text} (h : Gaps gaps) (fuel : Nat) (input : Symbols) :
    value? fuel (symbols gaps ++ input) = value? fuel input := by
  rw [← value?_skipGaps, skipGaps_append h, value?_skipGaps]

theorem members?_append {gaps : Text} (h : Gaps gaps) (fuel : Nat) (input : Symbols) :
    members? fuel (symbols gaps ++ input) = members? fuel input := by
  rw [← members?_skipGaps, skipGaps_append h, members?_skipGaps]

theorem value?_array {fuel : Nat} {input rest : Symbols} {items : List Json}
    (hopen : ∀ left, skipGaps input ≠ some ']' :: left)
    (hitems : items? fuel input = some (items, rest)) :
    value? (fuel + 1) (some '[' :: input) = some (.array items, rest) := by
  rw [value?, skipGaps_cons (by decide)]
  simp [items?_skipGaps, hitems]

theorem value?_object {fuel : Nat} {input rest : Symbols} {members : List (Option Text × Json)}
    (hopen : ∀ left, skipGaps input ≠ some '\x7d' :: left)
    (hmembers : members? fuel input = some (members, rest)) :
    value? (fuel + 1) (some '\x7b' :: input) = some (.object members, rest) := by
  rw [value?, skipGaps_cons (by decide)]
  simp [members?_skipGaps, hmembers]

theorem WrittenItems.skipGaps_ne {items : List Json} {text : Text} (h : WrittenItems items text)
    (rest left : Symbols) : skipGaps (symbols text ++ rest) ≠ some ']' :: left := by
  have hstart : ∀ {item : Json} {before text : Text} (after : Symbols), Gaps before →
      Written item text →
      skipGaps (symbols before ++ (symbols text ++ after)) ≠ some ']' :: left := by
    intro item before text after hbefore hitem heq
    obtain ⟨c, tail, rfl, hgap, hne⟩ := hitem.exists_cons
    rw [skipGaps_append hbefore, symbols_cons, List.cons_append, skipGaps_cons hgap] at heq
    cases heq
    exact hne rfl
  cases h with
  | last hbefore hafter hitem => simpa using hstart _ hbefore hitem
  | cons hbefore hafter hitem hrest => simpa using hstart _ hbefore hitem

theorem WrittenMembers.skipGaps_ne {members : List (Option Text × Json)} {text : Text}
    (h : WrittenMembers members text) (rest left : Symbols) :
    skipGaps (symbols text ++ rest) ≠ some '\x7d' :: left := by
  cases h with
  | last name hbefore hbetween hafter hitem | cons name hbefore hbetween hafter hitem hrest =>
    rw [symbols_append, List.append_assoc, skipGaps_append hbefore, quote]
    simp [skipGaps_cons (show isGap (some '"') = false by decide)]

theorem items?_last {fuel : Nat} {input rest left : Symbols} {item : Json}
    (hitem : value? fuel input = some (item, rest)) (hend : skipGaps rest = some ']' :: left) :
    items? (fuel + 1) input = some ([item], left) := by
  rw [items?, hitem]
  simp [hend]

theorem items?_cons {fuel : Nat} {input rest next left : Symbols} {item : Json} {items : List Json}
    (hitem : value? fuel input = some (item, rest)) (hcomma : skipGaps rest = some ',' :: next)
    (hnext : items? fuel next = some (items, left)) :
    items? (fuel + 1) input = some (item :: items, left) := by
  rw [items?, hitem]
  simp [hcomma, hnext]

theorem members?_last {fuel : Nat} (name : Text) {input rest left : Symbols} {item : Json}
    (hitem : value? fuel input = some (item, rest)) (hend : skipGaps rest = some '\x7d' :: left) :
    members? (fuel + 1) (symbols (quote name) ++ some ':' :: input) =
      some ([(some name, item)], left) := by
  have hname := stringRest?_quote name (some ':' :: input)
  rw [members?, quote, symbols_cons, List.cons_append, skipGaps_cons (by decide)]
  simp [hname, skipGaps_cons (show isGap (some ':') = false by decide), hitem, hend]

theorem members?_cons {fuel : Nat} (name : Text) {input rest next left : Symbols} {item : Json}
    {members : List (Option Text × Json)} (hitem : value? fuel input = some (item, rest))
    (hcomma : skipGaps rest = some ',' :: next)
    (hnext : members? fuel next = some (members, left)) :
    members? (fuel + 1) (symbols (quote name) ++ some ':' :: input) =
      some ((some name, item) :: members, left) := by
  have hname := stringRest?_quote name (some ':' :: input)
  rw [members?, quote, symbols_cons, List.cons_append, skipGaps_cons (by decide)]
  simp [hname, skipGaps_cons (show isGap (some ':') = false by decide), hitem, hcomma, hnext]

-- Every call of the reader takes one unit of fuel and is made for a shorter text: a value needs as
-- much fuel as its text is long, and items and members need one unit more.
mutual

/-- A written value is read, and what follows it is left. -/
theorem value?_of_written {json : Json} {text : Text} (h : Written json text) {fuel : Nat}
    (hfuel : text.length ≤ fuel) {rest : Symbols} (hrest : EndsNumber rest) :
    value? fuel (symbols text ++ rest) = some (json, rest) := by
  obtain ⟨fuel, rfl⟩ : ∃ spare, fuel = spare + 1 := by
    obtain ⟨c, tail, rfl, -, -⟩ := h.exists_cons
    exact ⟨fuel - 1, by simp at hfuel; omega⟩
  match h with
  | .null => exact (value?_word rest).1
  | .yes => exact (value?_word rest).2.1
  | .no => exact (value?_word rest).2.2
  | .number n => exact value?_number n hrest
  | .string text => exact value?_string text rest
  | .emptyArray => simp [value?, skipGaps, isGap]
  | .emptyObject => simp [value?, skipGaps, isGap]
  | .array hitems =>
    rw [symbols_cons, symbols_append, List.cons_append, List.append_assoc]
    refine value?_array (hitems.skipGaps_ne _) (items?_of_written hitems ?_ rest)
    simp at hfuel
    omega
  | .object hmembers =>
    rw [symbols_cons, symbols_append, List.cons_append, List.append_assoc]
    refine value?_object (hmembers.skipGaps_ne _) (members?_of_written hmembers ?_ rest)
    simp at hfuel
    omega

theorem items?_of_written {items : List Json} {text : Text} (h : WrittenItems items text)
    {fuel : Nat} (hfuel : text.length < fuel) (rest : Symbols) :
    items? fuel (symbols text ++ some ']' :: rest) = some (items, rest) := by
  obtain ⟨fuel, rfl⟩ : ∃ spare, fuel = spare + 1 := ⟨fuel - 1, by omega⟩
  match h with
  | .last hbefore hafter hitem =>
    simp only [List.length_append] at hfuel
    refine items?_last ?_ (skipGaps_token hafter (by decide) rest)
    simp only [symbols_append, List.append_assoc]
    rw [value?_append hbefore]
    exact value?_of_written hitem (by omega) (endsNumber_token hafter (by decide) rest)
  | .cons hbefore hafter hitem hrest =>
    simp only [List.length_append, List.length_cons] at hfuel
    refine items?_cons ?_ (skipGaps_token hafter (by decide) _)
      (items?_of_written hrest (by omega) rest)
    simp only [symbols_append, symbols_cons, List.append_assoc, List.cons_append]
    rw [value?_append hbefore]
    exact value?_of_written hitem (by omega) (endsNumber_token hafter (by decide) _)

theorem members?_of_written {members : List (Option Text × Json)} {text : Text}
    (h : WrittenMembers members text) {fuel : Nat} (hfuel : text.length < fuel) (rest : Symbols) :
    members? fuel (symbols text ++ some '\x7d' :: rest) = some (members, rest) := by
  obtain ⟨fuel, rfl⟩ : ∃ spare, fuel = spare + 1 := ⟨fuel - 1, by omega⟩
  match h with
  | .last name hbefore hbetween hafter hitem =>
    simp only [List.length_append, List.length_cons] at hfuel
    simp only [symbols_append, symbols_cons, List.append_assoc, List.cons_append]
    rw [members?_append hbefore]
    refine members?_last name ?_ (skipGaps_token hafter (by decide) rest)
    rw [value?_append hbetween]
    exact value?_of_written hitem (by omega) (endsNumber_token hafter (by decide) rest)
  | .cons name hbefore hbetween hafter hitem hrest =>
    simp only [List.length_append, List.length_cons] at hfuel
    simp only [symbols_append, symbols_cons, List.append_assoc, List.cons_append]
    rw [members?_append hbefore]
    refine members?_cons name ?_ (skipGaps_token hafter (by decide) _)
      (members?_of_written hrest (by omega) rest)
    rw [value?_append hbetween]
    exact value?_of_written hitem (by omega) (endsNumber_token hafter (by decide) _)

end

/-- A written value is read back. -/
theorem readSymbols?_of_written {json : Json} {text : Text} (h : Written json text) :
    readSymbols? (symbols text) = some json := by
  have hfuel : text.length ≤ 2 * (symbols text).length + 2 := by
    rw [length_symbols]
    omega
  have hread := value?_of_written h hfuel endsNumber_nil
  rw [List.append_nil] at hread
  rw [readSymbols?, hread]
  rfl

/-! ## Plain values -/

/-- Values whose strings and names are texts and whose numbers are natural. -/
inductive Plain : Json → Prop where
  | null : Plain .null
  | bool (value : Bool) : Plain (.bool value)
  | number (n : Nat) : Plain (.number (Text.decimal n))
  | string (text : Text) : Plain (.string (some text))
  | array {items : List Json} (hitems : ∀ item ∈ items, Plain item) : Plain (.array items)
  | object {members : List (Option Text × Json)} (hnames : ∀ m ∈ members, m.1.isSome)
      (hvalues : ∀ m ∈ members, Plain m.2) : Plain (.object members)

theorem gaps_nil : Gaps [] := fun _ h => nomatch h

theorem gaps_newLine (depth : Nat) : Gaps (newLine depth) := by
  intro c hc
  rcases List.mem_cons.mp hc with rfl | hspace
  · rfl
  · rw [List.eq_of_mem_replicate hspace]
    rfl

theorem writtenItems_compact {item : Json} {rest : List Json}
    (h : ∀ i ∈ item :: rest, Written i i.compact) :
    WrittenItems (item :: rest) (compactItems (item :: rest)) := by
  rw [List.forall_mem_cons] at h
  induction rest generalizing item with
  | nil => simpa [compactItems] using WrittenItems.last gaps_nil gaps_nil h.1
  | cons next rest ih =>
    have hrest := ih (List.forall_mem_cons.mp h.2)
    simpa [compactItems] using WrittenItems.cons gaps_nil gaps_nil h.1 hrest

theorem writtenMembers_compact {member : Option Text × Json} {rest : List (Option Text × Json)}
    (hnames : ∀ m ∈ member :: rest, m.1.isSome)
    (h : ∀ m ∈ member :: rest, Written m.2 m.2.compact) :
    WrittenMembers (member :: rest) (compactMembers (member :: rest)) := by
  rw [List.forall_mem_cons] at hnames h
  induction rest generalizing member with
  | nil =>
    obtain ⟨name | name, value⟩ := member
    · simp at hnames
    · simpa [compactMembers] using WrittenMembers.last name gaps_nil gaps_nil gaps_nil h.1
  | cons next rest ih =>
    have hrest := ih (List.forall_mem_cons.mp hnames.2) (List.forall_mem_cons.mp h.2)
    obtain ⟨name | name, value⟩ := member
    · simp at hnames
    · simpa [compactMembers] using
        WrittenMembers.cons name gaps_nil gaps_nil gaps_nil h.1 hrest

/-- The compact form is one that is read back. -/
theorem Plain.written_compact {json : Json} (h : Plain json) : Written json json.compact := by
  induction h with
  | null =>
    rw [compact]
    exact .null
  | bool value =>
    cases value <;> rw [compact]
    · exact .no
    · exact .yes
  | number n =>
    rw [compact]
    exact .number n
  | string text =>
    rw [compact]
    exact .string text
  | @array items _ ih =>
    rw [compact]
    cases items with
    | nil => exact .emptyArray
    | cons item rest => exact .array (writtenItems_compact ih)
  | @object members hnames _ ih =>
    rw [compact]
    cases members with
    | nil => exact .emptyObject
    | cons member rest => exact .object (writtenMembers_compact hnames ih)

theorem writtenItems_indented {depth : Nat} {item : Json} {rest : List Json} {after : Text}
    (hafter : Gaps after) (h : ∀ i ∈ item :: rest, Written i (i.indented depth)) :
    WrittenItems (item :: rest) (indentedItems depth (item :: rest) ++ after) := by
  have hbefore := gaps_newLine depth
  rw [List.forall_mem_cons] at h
  induction rest generalizing item with
  | nil => simpa [indentedItems] using WrittenItems.last hbefore hafter h.1
  | cons next rest ih =>
    have hrest := ih (List.forall_mem_cons.mp h.2)
    simpa [indentedItems] using WrittenItems.cons hbefore gaps_nil h.1 hrest

theorem writtenMembers_indented {depth : Nat} {member : Option Text × Json}
    {rest : List (Option Text × Json)} {after : Text} (hafter : Gaps after)
    (hnames : ∀ m ∈ member :: rest, m.1.isSome)
    (h : ∀ m ∈ member :: rest, Written m.2 (m.2.indented depth)) :
    WrittenMembers (member :: rest) (indentedMembers depth (member :: rest) ++ after) := by
  have hbefore := gaps_newLine depth
  have hbetween : Gaps [' '] := by simp [Gaps, isGap]
  rw [List.forall_mem_cons] at hnames h
  induction rest generalizing member with
  | nil =>
    obtain ⟨name | name, value⟩ := member
    · simp at hnames
    · simpa [indentedMembers] using WrittenMembers.last name hbefore hbetween hafter h.1
  | cons next rest ih =>
    have hrest := ih (List.forall_mem_cons.mp hnames.2) (List.forall_mem_cons.mp h.2)
    obtain ⟨name | name, value⟩ := member
    · simp at hnames
    · simpa [indentedMembers] using
        WrittenMembers.cons name hbefore hbetween gaps_nil h.1 hrest

/-- The indented form is one that is read back, at any depth. -/
theorem Plain.written_indented {json : Json} (h : Plain json) (depth : Nat) :
    Written json (json.indented depth) := by
  induction h generalizing depth with
  | null =>
    rw [indented]
    exact .null
  | bool value =>
    cases value <;> rw [indented]
    · exact .no
    · exact .yes
  | number n =>
    rw [indented]
    exact .number n
  | string text =>
    rw [indented]
    exact .string text
  | @array items _ ih =>
    cases items with
    | nil =>
      rw [indented]
      exact .emptyArray
    | cons item rest =>
      rw [indented]
      exact .array (writtenItems_indented (gaps_newLine depth) fun i hi => ih i hi (depth + 1))
  | @object members hnames _ ih =>
    cases members with
    | nil =>
      rw [indented]
      exact .emptyObject
    | cons member rest =>
      rw [indented]
      exact .object
        (writtenMembers_indented (gaps_newLine depth) hnames fun m hm => ih m hm (depth + 1))

/-- Reading undoes writing without white space. -/
theorem Plain.read?_compact {json : Json} (h : Plain json) : read? json.compact = some json :=
  readSymbols?_of_written h.written_compact

/-- Reading undoes writing on indented lines. -/
theorem Plain.readSymbols?_pretty {json : Json} (h : Plain json) :
    readSymbols? (symbols json.pretty) = some json :=
  readSymbols?_of_written (h.written_indented 0)

/-! ## Values of records -/

@[simp] theorem plain_ofText (text : Text) : Plain (ofText text) := .string text

@[simp] theorem plain_ofNat (n : Nat) : Plain (ofNat n) := .number n

@[simp] theorem plain_ofOption {α : Type} {write : α → Json} (h : ∀ a, Plain (write a))
    (value : Option α) : Plain (ofOption write value) := by
  cases value with
  | none => exact .null
  | some a => exact h a

@[simp] theorem plain_ofList {α : Type} {write : α → Json} (h : ∀ a, Plain (write a))
    (list : List α) : Plain (ofList write list) :=
  .array (List.forall_mem_map.mpr fun a _ => h a)

theorem plain_record {members : List (String × Json)} (h : ∀ m ∈ members, Plain m.2) :
    Plain (record members) :=
  .object (List.forall_mem_map.mpr fun _ _ => rfl) (List.forall_mem_map.mpr h)

end EditPlayer.Json
