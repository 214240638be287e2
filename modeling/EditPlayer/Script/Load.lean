import EditPlayer.Files.Store
import EditPlayer.Script.Compilation
set_option autoImplicit false

/-!
# Programs from files

A program that is loaded from a file may be played: a script with diagnostics is not loaded.
-/

namespace EditPlayer.Script

/-- Why a program cannot be loaded. -/
inductive LoadError where
  /-- the file cannot be read or is no text -/
  | unreadable
  /-- the script has diagnostics -/
  | rejected (rejection : Rejection)
  deriving DecidableEq, Repr, Inhabited

/-- The words for a script that has diagnostics. -/
def rejectedMessage (rejection : Rejection) : Text := "Compile error: ".toList ++ rejection.message

/-- Loads the program of a script file. -/
def load {m : Type → Type} [Monad m] [FileStore m] (settings : Settings) (path : Text) :
    m (Except LoadError Program) := do
  match ← FileStore.readText? path with
  | none => pure (.error .unreadable)
  | some source =>
      match (compile settings source).load with
      | .ok program => pure (.ok program)
      | .error rejection => pure (.error (.rejected rejection))

end EditPlayer.Script
