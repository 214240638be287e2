import EditPlayer.Json.Basic
set_option autoImplicit false

/-!
# Writing JSON

The compact form has no white space.  The indented form puts every item and member on a line of its
own, two spaces deeper than the bracket that holds it, and keeps empty arrays and objects on one
line.  A string escapes the quotation mark, the backslash and control characters only.
-/

namespace EditPlayer.Json

/-- The lower-case hexadecimal digit of a number below 16. -/
def hexDigit (n : Nat) : Char := Nat.digitChar n

/-- How a character is written inside a string. -/
def escape (c : Char) : Text :=
  if c = '"' then ['\\', '"']
  else if c = '\\' then ['\\', '\\']
  else if c.toNat < 0x20 then
    if c = '\n' then ['\\', 'n']
    else if c = '\r' then ['\\', 'r']
    else if c = '\t' then ['\\', 't']
    else if c.toNat = 8 then ['\\', 'b']
    else if c.toNat = 12 then ['\\', 'f']
    else ['\\', 'u', '0', '0', hexDigit (c.toNat / 16), hexDigit (c.toNat % 16)]
  else [c]

/-- A text as a string. -/
def quote (text : Text) : Text := '"' :: (text.flatMap escape ++ ['"'])

mutual

/-- The value without white space. -/
def compact : Json → Text
  | null => ['n', 'u', 'l', 'l']
  | bool true => ['t', 'r', 'u', 'e']
  | bool false => ['f', 'a', 'l', 's', 'e']
  | number numeral => numeral
  | string value => quote (value.getD [])
  | array items => '[' :: (compactItems items ++ [']'])
  | object members => '\x7b' :: (compactMembers members ++ ['\x7d'])

/-- Items divided by commas. -/
def compactItems : List Json → Text
  | [] => []
  | [item] => item.compact
  | item :: next :: rest => item.compact ++ ',' :: compactItems (next :: rest)

/-- Members divided by commas. -/
def compactMembers : List (Option Text × Json) → Text
  | [] => []
  | [(name, value)] => quote (name.getD []) ++ ':' :: value.compact
  | (name, value) :: next :: rest =>
      quote (name.getD []) ++ ':' :: (value.compact ++ ',' :: compactMembers (next :: rest))

end

/-- A line break and the indentation of a depth. -/
def newLine (depth : Nat) : Text := '\n' :: List.replicate (2 * depth) ' '

mutual

/-- The value with items and members on lines of their own, inside `depth` brackets. -/
def indented (depth : Nat) : Json → Text
  | array [] => ['[', ']']
  | array (item :: rest) =>
      '[' :: (indentedItems (depth + 1) (item :: rest) ++ newLine depth ++ [']'])
  | object [] => ['\x7b', '\x7d']
  | object (member :: rest) =>
      '\x7b' :: (indentedMembers (depth + 1) (member :: rest) ++ newLine depth ++ ['\x7d'])
  | null => ['n', 'u', 'l', 'l']
  | bool true => ['t', 'r', 'u', 'e']
  | bool false => ['f', 'a', 'l', 's', 'e']
  | number numeral => numeral
  | string value => quote (value.getD [])

/-- Items on lines of their own, divided by commas. -/
def indentedItems (depth : Nat) : List Json → Text
  | [] => []
  | [item] => newLine depth ++ indented depth item
  | item :: next :: rest =>
      newLine depth ++ indented depth item ++ ',' :: indentedItems depth (next :: rest)

/-- Members on lines of their own, divided by commas. -/
def indentedMembers (depth : Nat) : List (Option Text × Json) → Text
  | [] => []
  | [(name, value)] =>
      newLine depth ++ quote (name.getD []) ++ ':' :: ' ' :: indented depth value
  | (name, value) :: next :: rest =>
      newLine depth ++ quote (name.getD []) ++
        ':' :: ' ' :: (indented depth value ++ ',' :: indentedMembers depth (next :: rest))

end

/-- The indented form of a value. -/
def pretty (json : Json) : Text := json.indented 0

end EditPlayer.Json
