import EditPlayer.Text.Utf8
set_option autoImplicit false

/-!
# Reading and writing files

What the library does with files is written over any monad that can read and write them.  A file is
read whole and written whole.
-/

namespace EditPlayer

/-- Why a file cannot be read. -/
inductive ReadFailure where
  /-- there is no such file -/
  | missing
  /-- there is something else, or it cannot be read -/
  | unreadable
  deriving DecidableEq, Repr, Inhabited

/-- A monad in which files can be read and written by their paths. -/
class FileStore (m : Type → Type) where
  /-- the contents of a file -/
  read : Text → m (Except ReadFailure Utf8.Bytes)
  /-- writes a file, and tells whether it was written -/
  write : Text → Utf8.Bytes → m Bool
  /-- makes the directories above a path, and tells whether they are there -/
  makeParents : Text → m Bool

namespace FileStore

/-- The text of a file, if the file can be read and is a text. -/
def readText? {m : Type → Type} [Monad m] [FileStore m] (path : Text) : m (Option Text) := do
  match ← FileStore.read path with
  | .ok bytes => pure (Utf8.decode? bytes)
  | .error _ => pure none

end FileStore

end EditPlayer
