import EditPlayer.Digest.Tree
import EditPlayer.Json.Decode
import EditPlayer.Operation.Codec
set_option autoImplicit false

/-!
# Programs

A program is a list of operations with the digest of the source that they were made from.  The
digest identifies the program when a suspended run is resumed.
-/

namespace EditPlayer

/-- The operations of a source, in order, and the digest of the source. -/
structure Program where
  operations : List Operation
  digest : Text
  deriving DecidableEq, Repr, Inhabited

namespace Program

/-- The program with given operations, identified by a source. -/
def ofSource (operations : List Operation) (source : Text) : Program :=
  { operations, digest := Digest.ofText source }

/-- A program as JSON. -/
def toJson (program : Program) : Json :=
  .record
    [("operations", .ofList Operation.toJson program.operations),
     ("digest", .ofText program.digest)]

/-- The program that a JSON value is written for.  Its operations are inside of a record and a
list. -/
def ofJson? (json : Json) : Option Program :=
  match json.record? ["operations", "digest"] with
  | some [operations, digest] => do
      let operations ← Json.required (Json.list? (Operation.ofJson? 2)) operations
      let digest ← Json.required Json.text? digest
      some { operations, digest }
  | _ => none

end Program

end EditPlayer
