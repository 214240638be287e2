import EditPlayer.Text.Basic
set_option autoImplicit false

/-!
# Members written by name

Several finite types of this library are written as names, in scripts and in JSON.  `Named` lists
the members of such a type with their names, and `Named.ofName?` reads a name back.
-/

namespace EditPlayer

/-- A finite type whose members are written by name. -/
class Named (α : Type) where
  /-- all members, each once -/
  all : List α
  /-- the name of a member -/
  name : α → Text

/-- The member with a given name. -/
def Named.ofName? {α : Type} [Named α] (text : Text) : Option α :=
  (Named.all : List α).find? fun member => Named.name member == text

end EditPlayer
