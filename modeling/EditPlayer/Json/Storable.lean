import EditPlayer.Json.Magnitude
import EditPlayer.Json.Basic
set_option autoImplicit false

/-!
# Values that can be stored

A value that is passed over only has to be well formed.  A value that is stored, to be understood
later, has to be representable: each string and each name stands for a text, each number has a
magnitude that a floating-point number can hold, and no more than `depthLimit` arrays and objects
are open at any point of the reading.
-/

namespace EditPlayer.Json

/-- How many arrays and objects may be open where a value is stored. -/
def depthLimit : Nat := 127

mutual

/-- Whether a value can be stored while a number of further arrays and objects may be opened. -/
def isStorable : Nat → Json → Bool
  | _, null => true
  | _, bool _ => true
  | _, number numeral => (Magnitude.ofNumeral numeral).isFinite
  | _, string value => value.isSome
  | 0, array _ => false
  | room + 1, array items => itemsStorable room items
  | 0, object _ => false
  | room + 1, object members => membersStorable room members

/-- Whether every item can be stored. -/
def itemsStorable : Nat → List Json → Bool
  | _, [] => true
  | room, item :: rest => isStorable room item && itemsStorable room rest

/-- Whether every member can be stored with its name. -/
def membersStorable : Nat → List (Option Text × Json) → Bool
  | _, [] => true
  | room, (name, value) :: rest =>
      name.isSome && isStorable room value && membersStorable room rest

end

end EditPlayer.Json
