import EditPlayer.Text.Decimal
set_option autoImplicit false

/-!
# JSON values

Numbers are kept as they are written, because only natural numbers below the word limit are ever
read and all others are merely passed over.  A string, or a name of a member, that does not stand
for a sequence of characters is kept as `none`: it may be passed over but not read.
-/

namespace EditPlayer

/-- A JSON value. -/
inductive Json where
  | null
  | bool (value : Bool)
  /-- a number, as it is written -/
  | number (numeral : Text)
  /-- a string, or `none` if its escapes or bytes name no sequence of characters -/
  | string (value : Option Text)
  | array (items : List Json)
  /-- the members in the order in which they are written, each with its name -/
  | object (members : List (Option Text × Json))
  deriving Inhabited, Repr

namespace Json

/-- The value of a text. -/
def ofText (text : Text) : Json := string (some text)

/-- The value of a natural number. -/
def ofNat (n : Nat) : Json := number (Text.decimal n)

/-- The value of an optional part; nothing is `null`. -/
def ofOption {α : Type} (write : α → Json) : Option α → Json
  | none => null
  | some a => write a

/-- The array of a list. -/
def ofList {α : Type} (write : α → Json) (list : List α) : Json := array (list.map write)

/-- An object with named members. -/
def record (members : List (String × Json)) : Json :=
  object (members.map fun m => (some m.1.toList, m.2))

end Json

end EditPlayer
