import EditPlayer.Files.Store
set_option autoImplicit false

/-!
# A tree of files as a value

Files and directories are kept by the names on the way to them.  A path is followed name by name
from the top: a dot stays, two dots go up, and a slash at the end asks for a directory.  A name that
is not there ends the way (`absent` for the last name, `missing` before), and so does a file in the
place of a directory.

There are directories outside of the top, too, in which nothing is known at first: those above it,
whose keys consist of two dots for each step up, and the root, where a path starts that begins with
a slash and whose key is an empty name.
-/

namespace EditPlayer

/-- What a name stands for. -/
inductive FileEntry where
  | file (bytes : Utf8.Bytes)
  | directory
  deriving DecidableEq, Repr, Inhabited

/-- The names on the way to an entry. -/
abbrev FileKey : Type := List Text

/-- Files and directories around a top directory, which is always there. -/
structure FileTree where
  entries : List (FileKey × FileEntry) := []
  deriving DecidableEq, Repr, Inhabited

namespace FileTree

/-- Where a path leads. -/
inductive Place where
  | file (key : FileKey) (bytes : Utf8.Bytes)
  | directory (key : FileKey)
  /-- the last name is not there -/
  | absent (key : FileKey)
  /-- an earlier name is not there -/
  | missing
  /-- the way is barred: a file on it, or a name that no file can have -/
  | barred
  deriving DecidableEq, Repr, Inhabited

/-- Whether a key leads to the top or to a directory above it. -/
def isUpward (key : FileKey) : Bool := key.all (· == ['.', '.'])

/-- The key of the root. -/
def rootKey : FileKey := [[]]

/-- The key of the directory that holds a directory; the root holds itself. -/
def parent (key : FileKey) : FileKey :=
  if key = rootKey then rootKey
  else if isUpward key then key ++ [['.', '.']]
  else key.dropLast

/-- The entry with a key. -/
def entry? (tree : FileTree) (key : FileKey) : Option FileEntry :=
  if isUpward key || key == rootKey then some .directory else tree.entries.lookup key

/-- The tree with an entry put in. -/
def insert (tree : FileTree) (key : FileKey) (entry : FileEntry) : FileTree :=
  ⟨(key, entry) :: tree.entries.filter fun e => e.1 != key⟩

/-- The longest name of a file, in bytes. -/
def nameLimit : Nat := 255

/-- The longest path, in bytes. -/
def pathLimit : Nat := 4095

/-- The names of a path; a slash at the end counts as a dot after it. -/
def names (path : Text) : List Text :=
  (path.splitOn '/').mapIdx (fun i name => if name.isEmpty && 0 < i then ['.'] else name)

/-- Follows names from a directory. -/
def follow (tree : FileTree) (key : FileKey) : List Text → Place
  | [] =>
      match tree.entry? key with
      | some (.file bytes) => .file key bytes
      | some .directory => .directory key
      | none => .missing
  | name :: rest =>
      match tree.entry? key with
      | some .directory =>
          if name = ['.'] then tree.follow key rest
          else if name = ['.', '.'] then tree.follow (parent key) rest
          else if nameLimit < (Utf8.encode name).length then .barred
          else
            match tree.entry? (key ++ [name]) with
            | some _ => tree.follow (key ++ [name]) rest
            | none => if rest.isEmpty then .absent (key ++ [name]) else .missing
      | some (.file _) => .barred
      | none => .missing

/-- Whether a path starts from the root. -/
def isAbsolute (path : Text) : Bool := path.head? == some '/'

/-- Where a path leads, from the top or from the root. -/
def locate (tree : FileTree) (path : Text) : Place :=
  if path.contains (Char.ofNat 0) then .barred
  else if pathLimit < (Utf8.encode path).length then .barred
  else if path.isEmpty then .missing
  else if isAbsolute path then tree.follow rootKey (names path).tail
  else tree.follow [] (names path)

/-- The contents of a file. -/
def read (tree : FileTree) (path : Text) : Except ReadFailure Utf8.Bytes :=
  match tree.locate path with
  | .file _ bytes => .ok bytes
  | .absent _ | .missing => .error .missing
  | .directory _ | .barred => .error .unreadable

/-- The tree with a file written, if its directory is there. -/
def write (tree : FileTree) (path : Text) (bytes : Utf8.Bytes) : Option FileTree :=
  match tree.locate path with
  | .file key _ | .absent key => some (tree.insert key (.file bytes))
  | _ => none

/-- The tree with all directories on a way made, if nothing bars it. -/
def makeAll (tree : FileTree) (way : Text) : List Text → Option FileTree
  | [] => some tree
  | name :: rest =>
      let way := if way.isEmpty then name else way ++ '/' :: name
      match tree.locate way with
      | .directory _ => tree.makeAll way rest
      | .absent key => (tree.insert key .directory).makeAll way rest
      | _ => none

/-- The names that a path goes through, without empty ones and dots. -/
def parts (path : Text) : List Text :=
  (path.splitOn '/').filter fun name => !name.isEmpty && name != ['.']

/-- The way on which the names of a path start. -/
def start (path : Text) : Text := if isAbsolute path then ['/'] else []

/-- The tree with the directories above a path made, if nothing bars them. -/
def makeParents (tree : FileTree) (path : Text) : Option FileTree :=
  tree.makeAll (start path) (parts path).dropLast

/-- The tree with a directory and those above it. -/
def putDirectory (tree : FileTree) (path : Text) : FileTree :=
  (tree.makeAll (start path) (parts path)).getD tree

/-- The tree with a file and the directories above it. -/
def putFile (tree : FileTree) (path : Text) (bytes : Utf8.Bytes) : FileTree :=
  ((tree.makeParents path).bind fun tree => tree.write path bytes).getD tree

/-- Performs a change that may be impossible, and tells whether it was made. -/
def attempt (change : FileTree → Option FileTree) : StateM FileTree Bool := fun tree =>
  match change tree with
  | some tree => (true, tree)
  | none => (false, tree)

instance : FileStore (StateM FileTree) where
  read path := fun tree => (tree.read path, tree)
  write path bytes := attempt fun tree => tree.write path bytes
  makeParents path := attempt fun tree => tree.makeParents path

end FileTree

end EditPlayer
