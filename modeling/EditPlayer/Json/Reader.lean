import EditPlayer.Json.Basic
set_option autoImplicit false

/-!
# Reading JSON

The reader works on symbols: characters, and `none` for a byte of the input that belongs to no
character.  Outside strings such a byte is an error; inside a string it makes the string unreadable
but does not end the reading.  In the same way an escape that names half of a surrogate pair only
makes its string unreadable.

Every step returns the symbols that it leaves.  Values nest, so their reader takes an amount of
fuel; `read?` provides more than any input of that length can use.
-/

namespace EditPlayer.Json

/-- The input of the reader: characters, and `none` for a byte that belongs to no character. -/
abbrev Symbols : Type := List (Option Char)

/-- The symbols of a text. -/
def symbols (text : Text) : Symbols := text.map some

/-- The white space that may stand between tokens. -/
def isGap : Option Char → Bool
  | none => false
  | some c => c == ' ' || c == '\t' || c == '\n' || c == '\r'

/-- The symbols from the first token on. -/
def skipGaps (input : Symbols) : Symbols := input.dropWhile isGap

/-- What remains after a given word. -/
def word? (word : Text) (input : Symbols) : Option Symbols :=
  if (symbols word).isPrefixOf input then some (input.drop word.length) else none

/-! ## Numbers -/

/-- The digits at the start of the input, and what remains. -/
def digits : Symbols → Text × Symbols
  | some c :: rest =>
      if c.isDigit then (c :: (digits rest).1, (digits rest).2) else ([], some c :: rest)
  | input => ([], input)

/-- At least one digit, and what remains. -/
def someDigits? (input : Symbols) : Option (Text × Symbols) :=
  match digits input with
  | ([], _) => none
  | found => some found

/-- The whole part of a number: a zero alone, or digits that do not begin with a zero. -/
def wholePart? : Symbols → Option (Text × Symbols)
  | some '0' :: rest =>
      match digits rest with
      | ([], _) => some (['0'], rest)
      | _ => none
  | input => someDigits? input

/-- A fraction, if there is one. -/
def fraction? : Symbols → Option (Text × Symbols)
  | some '.' :: rest => (someDigits? rest).map fun (ds, left) => ('.' :: ds, left)
  | input => some ([], input)

/-- The digits of an exponent after its sign, if it has one. -/
def signedDigits? : Symbols → Option (Text × Symbols)
  | some '+' :: rest => (someDigits? rest).map fun (ds, left) => ('+' :: ds, left)
  | some '-' :: rest => (someDigits? rest).map fun (ds, left) => ('-' :: ds, left)
  | input => someDigits? input

/-- An exponent, if there is one. -/
def exponent? : Symbols → Option (Text × Symbols)
  | some 'e' :: rest => (signedDigits? rest).map fun (ds, left) => ('e' :: ds, left)
  | some 'E' :: rest => (signedDigits? rest).map fun (ds, left) => ('E' :: ds, left)
  | input => some ([], input)

/-- A number without its sign. -/
def unsigned? (input : Symbols) : Option (Text × Symbols) :=
  (wholePart? input).bind fun (whole, rest) =>
    (fraction? rest).bind fun (fraction, rest) =>
      (exponent? rest).map fun (exponent, rest) => (whole ++ fraction ++ exponent, rest)

/-- A number, as it is written. -/
def numeral? : Symbols → Option (Text × Symbols)
  | some '-' :: rest => (unsigned? rest).map fun (numeral, left) => ('-' :: numeral, left)
  | input => unsigned? input

/-! ## Strings -/

/-- What one step through a string finds. -/
inductive Piece where
  /-- a character, written as itself or by a short escape -/
  | char (c : Char)
  /-- a 16-bit unit, written by its number -/
  | unit (code : Nat)
  /-- a byte that belongs to no character -/
  | stray
  deriving DecidableEq, Repr, Inhabited

/-- The character that a short escape stands for. -/
def unescape? (c : Char) : Option Char :=
  if c = '"' then some '"'
  else if c = '\\' then some '\\'
  else if c = '/' then some '/'
  else if c = 'b' then some (Char.ofNat 8)
  else if c = 'f' then some (Char.ofNat 12)
  else if c = 'n' then some '\n'
  else if c = 'r' then some '\r'
  else if c = 't' then some '\t'
  else none

/-- The value of a hexadecimal digit. -/
def hexValue? (c : Char) : Option Nat :=
  if c.isDigit then some (c.toNat - '0'.toNat)
  else if 'a' ≤ c ∧ c ≤ 'f' then some (c.toNat - 'a'.toNat + 10)
  else if 'A' ≤ c ∧ c ≤ 'F' then some (c.toNat - 'A'.toNat + 10)
  else none

/-- The number of a 16-bit unit from its four hexadecimal digits. -/
def unitCode? (a b c d : Char) : Option Nat :=
  match hexValue? a, hexValue? b, hexValue? c, hexValue? d with
  | some a, some b, some c, some d => some (((a * 16 + b) * 16 + c) * 16 + d)
  | _, _, _, _ => none

/-- The pieces of a string up to its closing quotation mark, and what remains.  A control character
must be escaped. -/
def pieces? : Symbols → Option (List Piece × Symbols)
  | [] => none
  | none :: rest => (pieces? rest).map fun (ps, left) => (.stray :: ps, left)
  | some '"' :: rest => some ([], rest)
  | some '\\' :: some 'u' :: some a :: some b :: some c :: some d :: rest =>
      match unitCode? a b c d with
      | none => none
      | some code => (pieces? rest).map fun (ps, left) => (.unit code :: ps, left)
  | some '\\' :: some e :: rest =>
      match unescape? e with
      | none => none
      | some c => (pieces? rest).map fun (ps, left) => (.char c :: ps, left)
  | some c :: rest =>
      if c.toNat < 0x20 || c == '\\' then none
      else (pieces? rest).map fun (ps, left) => (.char c :: ps, left)

/-- A unit that begins a surrogate pair. -/
def isLead (code : Nat) : Bool := 0xD800 ≤ code && code < 0xDC00

/-- A unit that ends a surrogate pair. -/
def isTrail (code : Nat) : Bool := 0xDC00 ≤ code && code < 0xE000

/-- The character of a surrogate pair. -/
def pairChar (lead trail : Nat) : Char :=
  Char.ofNat (0x10000 + (lead - 0xD800) * 0x400 + (trail - 0xDC00))

/-- The text of a string's pieces, if every unit and byte belongs to a character. -/
def assemble? : List Piece → Option Text
  | [] => some []
  | .stray :: _ => none
  | .char c :: rest => (assemble? rest).map (c :: ·)
  | .unit lead :: .unit trail :: rest =>
      if isLead lead then
        if isTrail trail then (assemble? rest).map (pairChar lead trail :: ·) else none
      else if isTrail lead then none
      else (assemble? (.unit trail :: rest)).map (Char.ofNat lead :: ·)
  | .unit code :: rest =>
      if isLead code || isTrail code then none else (assemble? rest).map (Char.ofNat code :: ·)

/-- A string after its opening quotation mark. -/
def stringRest? (input : Symbols) : Option (Option Text × Symbols) :=
  (pieces? input).map fun (ps, rest) => (assemble? ps, rest)

/-! ## Values -/

mutual

/-- A value, after any white space. -/
def value? : Nat → Symbols → Option (Json × Symbols)
  | 0, _ => none
  | fuel + 1, input =>
      match skipGaps input with
      | some '"' :: rest => (stringRest? rest).map fun (text, left) => (string text, left)
      | some '[' :: rest =>
          match skipGaps rest with
          | some ']' :: left => some (array [], left)
          | start => (items? fuel start).map fun (items, left) => (array items, left)
      | some '\x7b' :: rest =>
          match skipGaps rest with
          | some '\x7d' :: left => some (object [], left)
          | start => (members? fuel start).map fun (members, left) => (object members, left)
      | some 'n' :: rest => (word? ['u', 'l', 'l'] rest).map fun left => (null, left)
      | some 't' :: rest => (word? ['r', 'u', 'e'] rest).map fun left => (bool true, left)
      | some 'f' :: rest => (word? ['a', 'l', 's', 'e'] rest).map fun left => (bool false, left)
      | start => (numeral? start).map fun (numeral, left) => (number numeral, left)

/-- At least one item, up to the closing bracket. -/
def items? : Nat → Symbols → Option (List Json × Symbols)
  | 0, _ => none
  | fuel + 1, input =>
      match value? fuel input with
      | none => none
      | some (item, rest) =>
          match skipGaps rest with
          | some ']' :: left => some ([item], left)
          | some ',' :: next =>
              (items? fuel next).map fun (items, left) => (item :: items, left)
          | _ => none

/-- At least one member, up to the closing brace. -/
def members? : Nat → Symbols → Option (List (Option Text × Json) × Symbols)
  | 0, _ => none
  | fuel + 1, input =>
      match skipGaps input with
      | some '"' :: rest =>
          match stringRest? rest with
          | none => none
          | some (name, rest) =>
              match skipGaps rest with
              | some ':' :: rest =>
                  match value? fuel rest with
                  | none => none
                  | some (item, rest) =>
                      match skipGaps rest with
                      | some '\x7d' :: left => some ([(name, item)], left)
                      | some ',' :: next =>
                          (members? fuel next).map fun (members, left) =>
                            ((name, item) :: members, left)
                      | _ => none
              | _ => none
      | _ => none

end

/-- The value that the whole input is written for. -/
def readSymbols? (input : Symbols) : Option Json :=
  match value? (2 * input.length + 2) input with
  | some (json, rest) => if (skipGaps rest).isEmpty then some json else none
  | none => none

/-- The value that a text is written for. -/
def read? (text : Text) : Option Json := readSymbols? (symbols text)

end EditPlayer.Json
