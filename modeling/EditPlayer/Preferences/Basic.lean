import EditPlayer.Files.Store
import EditPlayer.Json.Decode
import EditPlayer.Json.Printer
import EditPlayer.Json.Reader
import EditPlayer.Script.Count
set_option autoImplicit false

/-!
# Preferences

Preferences are stored as indented JSON.  Every part may be missing from the file and then has its
default.  Preferences that are read must be usable: no count may be zero.
-/

namespace EditPlayer

/-- The preferences of the command line. -/
structure Preferences where
  settings : Settings := {}
  /-- whether to log in detail -/
  debug : Bool := false
  deriving DecidableEq, Repr, Inhabited

/-- Settings as JSON. -/
def Settings.toJson (settings : Settings) : Json :=
  .record
    [("count_digits", .ofNat settings.countDigits),
     ("default_count", .ofNat settings.defaultCount)]

/-- The settings that a JSON value is written for; missing parts have their defaults. -/
def Settings.ofJson? (json : Json) : Option Settings :=
  match json.shortRecord? ["count_digits", "default_count"] with
  | some [countDigits, defaultCount] => do
      let countDigits ← Json.defaulted ({} : Settings).countDigits Json.nat? countDigits
      let defaultCount ← Json.defaulted ({} : Settings).defaultCount Json.nat? defaultCount
      some { countDigits, defaultCount }
  | _ => none

namespace Preferences

/-- Preferences as JSON. -/
def toJson (preferences : Preferences) : Json :=
  .record [("compiler", preferences.settings.toJson), ("debug", .bool preferences.debug)]

/-- The preferences that a JSON value is written for; missing parts have their defaults. -/
def ofJson? (json : Json) : Option Preferences :=
  match json.shortRecord? ["compiler", "debug"] with
  | some [settings, debug] => do
      let settings ← Json.defaulted {} Settings.ofJson? settings
      let debug ← Json.defaulted false Json.bool? debug
      some { settings, debug }
  | _ => none

/-- How detailed the log may be. -/
def logLevel (preferences : Preferences) : Text :=
  if preferences.debug then "DEBUG".toList else "INFO".toList

/-- A preference that cannot be used. -/
inductive Invalid where
  /-- no character of a count would be read -/
  | countDigits
  /-- a line without a count would do nothing -/
  | defaultCount
  deriving DecidableEq, Repr, Inhabited

/-- Why the preference cannot be used. -/
def Invalid.message : Invalid → Text
  | countDigits => "Invalid config value: compiler.count_digits must be at least 1".toList
  | defaultCount => "Invalid config value: compiler.default_count must be at least 1".toList

/-- The first preference that cannot be used. -/
def invalid? (preferences : Preferences) : Option Invalid :=
  if preferences.settings.countDigits = 0 then some .countDigits
  else if preferences.settings.defaultCount = 0 then some .defaultCount
  else none

/-- Why preferences cannot be loaded. -/
inductive LoadError where
  /-- there is no such file -/
  | notFound (path : Text)
  /-- a preference cannot be used -/
  | invalid (cause : Invalid)
  /-- the file is no JSON, or not of preferences -/
  | malformed
  /-- the file cannot be read -/
  | unreadable
  deriving DecidableEq, Repr, Inhabited

/-- The error in words, as far as the words are this library's own. -/
def LoadError.message? : LoadError → Option Text
  | notFound path => some ("Config file not found: ".toList ++ path)
  | invalid cause => some cause.message
  | malformed | unreadable => none

/-- The preferences that the contents of a file are written for. -/
def ofBytes (bytes : Utf8.Bytes) : Except LoadError Preferences :=
  match (Json.readSymbols? (Utf8.scan bytes)).bind ofJson? with
  | none => .error .malformed
  | some preferences =>
      match preferences.invalid? with
      | some cause => .error (.invalid cause)
      | none => .ok preferences

/-- The contents of the file that stores preferences. -/
def toText (preferences : Preferences) : Text := preferences.toJson.pretty

variable {m : Type → Type} [Monad m] [FileStore m]

/-- Loads preferences from a file. -/
def load (path : Text) : m (Except LoadError Preferences) := do
  match ← FileStore.read path with
  | .ok bytes => pure (ofBytes bytes)
  | .error .missing => pure (.error (.notFound path))
  | .error .unreadable => pure (.error .unreadable)

/-- Stores preferences in a file, making the directories above it, and tells whether it did. -/
def store (path : Text) (preferences : Preferences) : m Bool := do
  if ← FileStore.makeParents path then
    FileStore.write path (Utf8.encode preferences.toText)
  else pure false

end Preferences

end EditPlayer
