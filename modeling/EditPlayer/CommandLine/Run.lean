import EditPlayer.CommandLine.Invocation
import EditPlayer.Document.Edit
import EditPlayer.Player.Basic
import EditPlayer.Preferences.Basic
import EditPlayer.Script.Load
set_option autoImplicit false

/-!
# Carrying out a command

A command reads and writes files and gives a report: the exit code, what is printed, and the line
that says what failed.
-/

namespace EditPlayer.CommandLine

/-- What a command leaves behind. -/
structure Report where
  exitCode : Nat
  output : Text := []
  /-- what failed, in words -/
  failure : Option Text := none
  deriving DecidableEq, Repr, Inhabited

namespace Report

/-- A command that succeeded. -/
def success (output : Text) : Report := { exitCode := 0, output }

/-- A command that failed. -/
def failed (failure : Text) : Report := { exitCode := 1, failure := some failure }

/-- Arguments that are wrong. -/
def misused : Report := { exitCode := 2 }

/-- A run that broke off. -/
def broken : Report := { exitCode := 101 }

end Report

variable {m : Type → Type} [Monad m] [FileStore m]

/-- A text as a line. -/
def line (text : Text) : Text := text ++ ['\n']

/-- The report of a check. -/
def checkReport (script : Text) (json : Bool) (compilation : Compilation) : Report :=
  let diagnostics := compilation.diagnostics
  let output :=
    if json then line (Json.ofList Diagnostic.toJson diagnostics).pretty
    else if diagnostics.isEmpty then
      line (script ++ ": ".toList ++ Text.decimal compilation.program.operations.length ++
        " operation(s), ok".toList)
    else diagnostics.flatMap fun diagnostic => line (script ++ ": ".toList ++ diagnostic.message)
  { exitCode := if diagnostics.isEmpty then 0 else 1, output }

/-- The words of the language, a line each. -/
def keywordsOutput : Text :=
  let list (words : List String) : Text :=
    words.flatMap fun word => line ("  ".toList ++ word.toList)
  line "operations:".toList ++ list (Keyword.sorted Keyword.operations) ++
    line "moves:".toList ++ list (Keyword.sorted Keyword.moves)

/-- Plays a program a number of times with one player. -/
def playTimes (program : Program) : Nat → Player → Document → Except Fault Document
  | 0, _, document => .ok document
  | times + 1, player, document =>
      match player.play Document.surface program document with
      | .error cause => .error cause
      | .ok (_, player, document) => playTimes program times player document

/-- Compiles a script file. -/
def compileFile (settings : Settings) (script : Text) (report : Compilation → Report) :
    m Report := do
  match ← FileStore.readText? script with
  | none => pure (.failed ("failed to read ".toList ++ script))
  | some source => pure (report (Script.compile settings source))

/-- Plays a script file on a text file. -/
def playFile (settings : Settings) (script input : Text) (line column times : Nat)
    (output : Option Text) : m Report := do
  match ← Script.load settings script with
  | .error _ => pure (.failed ("cannot play ".toList ++ script))
  | .ok program =>
      match ← FileStore.readText? input with
      | none => pure (.failed ("failed to read ".toList ++ input))
      | some text =>
          let document := (Document.ofText text).withCursor ⟨line - 1, column - 1⟩
          match playTimes program times .fresh document with
          | .error _ => pure .broken
          | .ok document =>
              match output with
              | none => pure (.success document.text)
              | some path =>
                  if ← FileStore.write path (Utf8.encode document.text) then pure (.success [])
                  else pure (.failed ("failed to write ".toList ++ path))

/-- Carries out a command. -/
def Command.run (settings : Settings) : Command → m Report
  | .check script json => compileFile settings script (checkReport script json)
  | .keywords => pure (.success keywordsOutput)
  | .dump script =>
      compileFile settings script fun compilation =>
        .success (line compilation.program.toJson.pretty)
  | .play script input line column times output =>
      playFile settings script input line column times output

/-- Carries out a command with the preferences that it asks for. -/
def Invocation.run (invocation : Invocation) : m Report := do
  match invocation.preferences with
  | none => invocation.command.run {}
  | some path =>
      match ← Preferences.load path with
      | .error _ => pure (.failed ("failed to load config ".toList ++ path))
      | .ok preferences => invocation.command.run preferences.settings

/-- What can be asked for. -/
def helpText : Text :=
  "Compile and play line-oriented scripts of text edits\n\n".toList ++
  "check [--json] SCRIPT    compile a script and report what is not understood\n".toList ++
  "keywords                 list the words of the language\n".toList ++
  "dump SCRIPT              print the compiled program as JSON\n".toList ++
  "play SCRIPT -i INPUT     play a script on a text, with the options\n".toList ++
  "                         --line N, --column N, -t TIMES and -o OUTPUT\n".toList ++
  "-c CONFIG                before the command: the file of preferences\n".toList

/-- Carries out what the arguments ask for. -/
def run (arguments : List Text) : m Report :=
  match readInvocation arguments with
  | .error .help => pure (.success helpText)
  | .error .wrong => pure .misused
  | .ok invocation => invocation.run

end EditPlayer.CommandLine
