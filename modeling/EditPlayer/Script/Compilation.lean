import EditPlayer.Script.Line
import EditPlayer.Script.Program
set_option autoImplicit false

/-!
# Compiling a script

The lines of a script are read one by one.  The operations of all lines are the program; the words
that were not understood give diagnostics, and a program with diagnostics must not be played.
-/

namespace EditPlayer

/-- A word of a script that was not understood. -/
structure Diagnostic where
  /-- the line of the source, counted from 1 -/
  lineNumber : Nat
  /-- the line as it is written -/
  rawLine : Text
  /-- the word -/
  word : Text
  deriving DecidableEq, Repr, Inhabited

namespace Diagnostic

/-- The diagnostic as a line of text. -/
def message (diagnostic : Diagnostic) : Text :=
  "line ".toList ++ Text.decimal diagnostic.lineNumber ++ ": unrecognized '".toList ++
    diagnostic.word ++ "' in '".toList ++ diagnostic.rawLine ++ "'".toList

/-- A diagnostic as JSON. -/
def toJson (diagnostic : Diagnostic) : Json :=
  .record
    [("line_number", .ofNat diagnostic.lineNumber),
     ("raw_line", .ofText diagnostic.rawLine),
     ("unrecognized_token", .ofText diagnostic.word)]

/-- The diagnostic that a JSON value is written for. -/
def ofJson? (json : Json) : Option Diagnostic :=
  match json.record? ["line_number", "raw_line", "unrecognized_token"] with
  | some [lineNumber, rawLine, word] => do
      let lineNumber ← Json.required Json.nat? lineNumber
      let rawLine ← Json.required Json.text? rawLine
      let word ← Json.required Json.text? word
      some { lineNumber, rawLine, word }
  | _ => none

end Diagnostic

/-- A script that cannot be played because of its diagnostics. -/
structure Rejection where
  diagnostics : List Diagnostic
  deriving DecidableEq, Repr, Inhabited

/-- Why a script was rejected, in a line of text. -/
def Rejection.message (rejection : Rejection) : Text :=
  Text.decimal rejection.diagnostics.length ++ " unrecognized token(s), first on line ".toList ++
    Text.decimal ((rejection.diagnostics.head?.map (·.lineNumber)).getD 0)

/-- What compiling a script gives. -/
structure Compilation where
  /-- all operations, also those of lines that were not understood -/
  program : Program
  diagnostics : List Diagnostic
  deriving DecidableEq, Repr, Inhabited

namespace Compilation

/-- Whether the program may be played. -/
def isLoadable (compilation : Compilation) : Bool := compilation.diagnostics.isEmpty

/-- The program, or the diagnostics that stand against it. -/
def load (compilation : Compilation) : Except Rejection Program :=
  if compilation.isLoadable then .ok compilation.program else .error ⟨compilation.diagnostics⟩

/-- What is loaded is the program of the compilation, which has no diagnostics. -/
theorem load_eq_ok_iff (compilation : Compilation) (program : Program) :
    compilation.load = .ok program ↔
      compilation.diagnostics = [] ∧ compilation.program = program := by
  unfold load isLoadable
  cases compilation.diagnostics <;> simp

end Compilation

namespace Script

/-- The lines of a source with their numbers, counted from 1. -/
def numberedLines (source : Text) : List (Text × Nat) := (source.splitOn '\n').zipIdx 1

/-- The diagnostics of one line. -/
def lineDiagnostics (number : Nat) (raw : Text) (unknown : List Text) : List Diagnostic :=
  unknown.map fun word =>
    { lineNumber := number, rawLine := raw.trimEndWhere (· == '\r'), word }

/-- The operations of numbered lines. -/
def operationsOf (settings : Settings) (lines : List (Text × Nat)) : List Operation :=
  lines.filterMap fun (raw, number) => (readLine settings number raw).operation

/-- The diagnostics of numbered lines. -/
def diagnosticsOf (settings : Settings) (lines : List (Text × Nat)) : List Diagnostic :=
  lines.flatMap fun (raw, number) =>
    lineDiagnostics number raw (readLine settings number raw).unknown

/-- The compilation of a source. -/
def compile (settings : Settings) (source : Text) : Compilation :=
  { program := .ofSource (operationsOf settings (numberedLines source)) source
    diagnostics := diagnosticsOf settings (numberedLines source) }

end Script

end EditPlayer
