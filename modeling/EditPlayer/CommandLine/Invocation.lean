import EditPlayer.CommandLine.Arguments
set_option autoImplicit false

/-!
# What the command line is asked to do
-/

namespace EditPlayer.CommandLine

/-- The commands. -/
inductive Command where
  /-- compile a script and report its diagnostics, perhaps as JSON -/
  | check (script : Text) (json : Bool)
  /-- list the words of the language -/
  | keywords
  /-- print the program of a script as JSON -/
  | dump (script : Text)
  /-- play a script on a text, with the cursor at a one-based line and column -/
  | play (script input : Text) (line column times : Nat) (output : Option Text)
  deriving DecidableEq, Repr, Inhabited

/-- A command, and the file of preferences for it. -/
structure Invocation where
  preferences : Option Text
  command : Command
  deriving DecidableEq, Repr, Inhabited

/-- The names of the commands; `help` is about the others. -/
def commandNames : List Text :=
  ["check".toList, "keywords".toList, "dump".toList, "play".toList, "help".toList]

/-- The arguments before the command. -/
def mainGrammar : Grammar :=
  { flags := [{ long := "config".toList, short := some 'c', takes := .path }]
    words := 0
    commands := commandNames }

/-- The arguments of `check`. -/
def checkGrammar : Grammar :=
  { flags := [{ long := "json".toList, takes := .nothing }], words := 1 }

/-- The arguments of `keywords`. -/
def keywordsGrammar : Grammar := { flags := [], words := 0 }

/-- The arguments of `dump`. -/
def dumpGrammar : Grammar := { flags := [], words := 1 }

/-- The arguments of `play`. -/
def playGrammar : Grammar :=
  { flags :=
      [{ long := "input".toList, short := some 'i', takes := .path },
       { long := "line".toList, takes := .number },
       { long := "column".toList, takes := .number },
       { long := "times".toList, short := some 't', takes := .number },
       { long := "output".toList, short := some 'o', takes := .path }]
    words := 1 }

/-- The number that an option was given, or 1. -/
def numberOf (parsed : Parsed) (long : String) : Nat :=
  ((parsed.value? long).bind readNumber?).getD 1

/-- The command that a name and its arguments stand for. -/
def readCommand (name : Text) (arguments : List Text) : Except Usage Command :=
  let read (grammar : Grammar) := (readArguments grammar .ready {} arguments).map (·.1)
  if name = "check".toList then
    match read checkGrammar with
    | .error usage => .error usage
    | .ok parsed =>
        match parsed.words with
        | [script] => .ok (.check script (parsed.has "json"))
        | _ => .error .wrong
  else if name = "keywords".toList then (read keywordsGrammar).map fun _ => .keywords
  else if name = "dump".toList then
    match read dumpGrammar with
    | .error usage => .error usage
    | .ok parsed =>
        match parsed.words with
        | [script] => .ok (.dump script)
        | _ => .error .wrong
  else if name = "play".toList then
    match read playGrammar with
    | .error usage => .error usage
    | .ok parsed =>
        match parsed.words, parsed.value? "input" with
        | [script], some input =>
            .ok (.play script input (numberOf parsed "line") (numberOf parsed "column")
              (numberOf parsed "times") (parsed.value? "output"))
        | _, _ => .error .wrong
  else
    match arguments with
    | [] => .error .help
    | [topic] => if commandNames.contains topic then .error .help else .error .wrong
    | _ => .error .wrong

/-- What the arguments ask for. -/
def readInvocation (arguments : List Text) : Except Usage Invocation :=
  match readArguments mainGrammar .ready {} arguments with
  | .error usage => .error usage
  | .ok (_, []) => .error .wrong
  | .ok (parsed, name :: rest) =>
      (readCommand name rest).map fun command => ⟨parsed.value? "config", command⟩

end EditPlayer.CommandLine
