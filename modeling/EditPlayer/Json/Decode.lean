import EditPlayer.Json.Basic
import EditPlayer.Named
set_option autoImplicit false

/-!
# Reading records and variants from JSON values

A record is written as an object with its fields in any order, or as an array of its fields in
their own order.  Members with other names are passed over, but a field may be given only once.
A variant without data is written as its name, or as an object whose only member has that name and
is `null`.  `null` stands for a missing optional part and for nothing else.
-/

namespace EditPlayer.Json

/-- The text of a string. -/
def text? : Json → Option Text
  | string value => value
  | _ => none

/-- The truth value of a boolean. -/
def bool? : Json → Option Bool
  | bool value => some value
  | _ => none

/-- The number of a numeral that is a run of digits and fits into a word. -/
def nat? : Json → Option Nat
  | number numeral => numeral.readWord?
  | _ => none

@[simp] theorem text?_ofText (text : Text) : (ofText text).text? = some text := rfl

@[simp] theorem bool?_bool (value : Bool) : (bool value).bool? = some value := rfl

/-- A number within a word is read back. -/
theorem nat?_ofNat {n : Nat} (h : n < wordLimit) : (ofNat n).nat? = some n :=
  Text.readWord?_decimal h

/-- The items of an array, each read alike. -/
def list? {α : Type} (item? : Json → Option α) : Json → Option (List α)
  | array items => items.mapM item?
  | _ => none

/-- The name of a variant without data. -/
def variant? : Json → Option Text
  | string name => name
  | object [(some name, null)] => some name
  | _ => none

/-- The member of a finite type that is written by its name. -/
def named? {α : Type} [Named α] (json : Json) : Option α := json.variant?.bind Named.ofName?

/-- The values that an object gives to the named fields; `none` as a whole if a name cannot be read
or a field is given twice. -/
def fields? (names : List Text) (members : List (Option Text × Json)) :
    Option (List (Option Json)) :=
  if members.all (fun m => m.1.isSome) &&
      names.all (fun name => decide ((members.filter (fun m => m.1 == some name)).length ≤ 1)) then
    some (names.map fun name => (members.find? fun m => m.1 == some name).map (·.2))
  else none

/-- The values that a record gives to its fields. -/
def record? (names : List String) : Json → Option (List (Option Json))
  | object members => fields? (names.map String.toList) members
  | array items => if items.length = names.length then some (items.map some) else none
  | _ => none

/-- The values that a record gives to its fields, when an array may leave out the last of them. -/
def shortRecord? (names : List String) : Json → Option (List (Option Json))
  | object members => fields? (names.map String.toList) members
  | array items =>
      if items.length ≤ names.length then
        some (items.map some ++ List.replicate (names.length - items.length) none)
      else none
  | _ => none

/-- A field that must be given. -/
def required {α : Type} (read : Json → Option α) : Option Json → Option α
  | none => none
  | some json => read json

/-- A field that may be missing or `null`. -/
def optional {α : Type} (read : Json → Option α) : Option Json → Option (Option α)
  | none => some none
  | some null => some none
  | some json => (read json).map some

/-- A field with a value of its own for when it is missing. -/
def defaulted {α : Type} (value : α) (read : Json → Option α) : Option Json → Option α
  | none => some value
  | some json => read json

end EditPlayer.Json
