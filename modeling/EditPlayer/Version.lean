import EditPlayer.Text.Basic
set_option autoImplicit false

/-!
# The version
-/

namespace EditPlayer

/-- The version of the language and its player. -/
def version : Text := "0.1.0".toList

end EditPlayer
