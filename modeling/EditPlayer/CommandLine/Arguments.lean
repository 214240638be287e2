import EditPlayer.Script.Count
set_option autoImplicit false

/-!
# Arguments of the command line

Arguments are read from the left.  An option has a long name, written `--name value` or
`--name=value`, and may have a letter, written `-n value`, `-nvalue` or `-n=value`; it may be given
once.  Two dashes alone make everything after them a plain word.  A value that begins with a dash
has to be attached to its option.
-/

namespace EditPlayer.CommandLine

/-- Why the arguments are not carried out. -/
inductive Usage where
  /-- help was asked for -/
  | help
  /-- the arguments are wrong -/
  | wrong
  deriving DecidableEq, Repr, Inhabited

/-- What an option takes. -/
inductive Takes where
  /-- nothing: it is a flag -/
  | nothing
  /-- a path, which is not empty -/
  | path
  /-- a number, perhaps with a plus sign, that fits into a word -/
  | number
  deriving DecidableEq, Repr, Inhabited

/-- The number that an argument stands for. -/
def readNumber? (text : Text) : Option Nat := (Script.dropPlus text).readWord?

/-- Whether a value will do. -/
def Takes.accepts : Takes → Text → Bool
  | nothing, _ => false
  | path, value => !value.isEmpty
  | number, value => (readNumber? value).isSome

/-- An option that may be given. -/
structure Flag where
  long : Text
  short : Option Char := none
  takes : Takes
  deriving DecidableEq, Repr, Inhabited

/-- What has been read. -/
structure Parsed where
  /-- the values of options, and empty values for flags -/
  values : List (Text × Text) := []
  /-- the plain words, in order -/
  words : List Text := []
  deriving DecidableEq, Repr, Inhabited

namespace Parsed

/-- The value of an option. -/
def value? (parsed : Parsed) (long : String) : Option Text := parsed.values.lookup long.toList

/-- Whether a flag was given. -/
def has (parsed : Parsed) (long : String) : Bool := (parsed.value? long).isSome

/-- Adds an option that was not given before. -/
def addValue (parsed : Parsed) (flag : Flag) (value : Text) : Except Usage Parsed :=
  if (parsed.values.lookup flag.long).isSome then .error .wrong
  else if flag.takes = .nothing || flag.takes.accepts value then
    .ok { parsed with values := parsed.values ++ [(flag.long, value)] }
  else .error .wrong

/-- Adds a plain word, which is a path, if more than `limit` are not there yet. -/
def addWord (parsed : Parsed) (limit : Nat) (word : Text) : Except Usage Parsed :=
  if limit ≤ parsed.words.length || word.isEmpty then .error .wrong
  else .ok { parsed with words := parsed.words ++ [word] }

end Parsed

/-- What the arguments at one level may be. -/
structure Grammar where
  flags : List Flag
  /-- how many plain words there may be -/
  words : Nat
  /-- the words that begin another level -/
  commands : List Text := []
  deriving Repr, Inhabited

/-- Where the reading of arguments stands. -/
inductive Mode where
  /-- anything may come -/
  | ready
  /-- the value of an option must come -/
  | value (flag : Flag)
  /-- only plain words come -/
  | plain
  deriving DecidableEq, Repr, Inhabited

/-- The name and the attached value of an argument with two dashes. -/
def longOption? : Text → Option (Text × Option Text)
  | '-' :: '-' :: rest =>
      if rest.isEmpty then none
      else
        match rest.dropWhile (· != '=') with
        | [] => some (rest, none)
        | _ :: value => some (rest.takeWhile (· != '='), some value)
  | _ => none

/-- The letters of an argument with one dash. -/
def shortOptions? : Text → Option Text
  | '-' :: c :: rest => if c = '-' then none else some (c :: rest)
  | _ => none

/-- Reads an option by its long name. -/
def readLong (grammar : Grammar) (parsed : Parsed) (name : Text) (value : Option Text) :
    Except Usage (Mode × Parsed) :=
  if name = "help".toList then if value.isNone then .error .help else .error .wrong
  else
    match grammar.flags.find? (·.long == name), value with
    | none, _ => .error .wrong
    | some flag, some value =>
        if flag.takes = .nothing then .error .wrong
        else (parsed.addValue flag value).map (Mode.ready, ·)
    | some flag, none =>
        if flag.takes = .nothing then (parsed.addValue flag []).map (Mode.ready, ·)
        else .ok (.value flag, parsed)

/-- Reads options by their letters; an option with a value takes the rest as its value. -/
def readShort (grammar : Grammar) (parsed : Parsed) : Text → Except Usage (Mode × Parsed)
  | [] => .ok (.ready, parsed)
  | letter :: rest =>
      if letter = 'h' then .error .help
      else
        match grammar.flags.find? (·.short == some letter) with
        | none => .error .wrong
        | some flag =>
            if flag.takes = .nothing then
              match parsed.addValue flag [] with
              | .error usage => .error usage
              | .ok parsed => readShort grammar parsed rest
            else
              match rest with
              | [] => .ok (.value flag, parsed)
              | '=' :: value => (parsed.addValue flag value).map (Mode.ready, ·)
              | value => (parsed.addValue flag value).map (Mode.ready, ·)

/-- Reads one argument. -/
def readArgument (grammar : Grammar) (mode : Mode) (parsed : Parsed) (argument : Text) :
    Except Usage (Mode × Parsed) :=
  match mode with
  | .plain => (parsed.addWord grammar.words argument).map (Mode.plain, ·)
  | .value flag =>
      if argument.head? = some '-' && 1 < argument.length then .error .wrong
      else (parsed.addValue flag argument).map (Mode.ready, ·)
  | .ready =>
      if argument = ['-', '-'] then .ok (.plain, parsed)
      else
        match longOption? argument with
        | some (name, value) => readLong grammar parsed name value
        | none =>
            match shortOptions? argument with
            | some letters => readShort grammar parsed letters
            | none => (parsed.addWord grammar.words argument).map (Mode.ready, ·)

/-- Reads arguments up to a command, and returns the command and what follows it. -/
def readArguments (grammar : Grammar) (mode : Mode) (parsed : Parsed) :
    List Text → Except Usage (Parsed × List Text)
  | [] =>
      match mode with
      | .value _ => .error .wrong
      | _ => .ok (parsed, [])
  | argument :: rest =>
      if mode = .ready && grammar.commands.contains argument then .ok (parsed, argument :: rest)
      else
        match readArgument grammar mode parsed argument with
        | .error usage => .error usage
        | .ok (mode, parsed) => readArguments grammar mode parsed rest

end EditPlayer.CommandLine
