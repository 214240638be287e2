import EditPlayer.Text.Basic
import EditPlayer.Text.Words
import EditPlayer.Text.Lines
import EditPlayer.Text.Search
import EditPlayer.Unicode.Lowercase
import EditPlayer.Unicode.Uppercase
import EditPlayer.Unicode.Cased
import EditPlayer.Unicode.CaseIgnorable
import EditPlayer.Unicode.Alphanumeric
import EditPlayer.Unicode.CaseMapping
import EditPlayer.Casing.Conversion
import EditPlayer.Json.Printer
import EditPlayer.Json.Reader
import EditPlayer.Json.Decode
import EditPlayer.Digest.Tree
import EditPlayer.Operation.Codec
import EditPlayer.Keyword
import EditPlayer.Script.Compilation
import EditPlayer.Document.Edit
import EditPlayer.Surface.Recorded
import EditPlayer.Player.Snapshot
import EditPlayer.Files.Tree
import EditPlayer.Session
import EditPlayer.Main
import EditPlayer.Version
import EditPlayer.Proofs.Effects
import EditPlayer.Proofs.Resumption
import EditPlayer.Proofs.Turns
import EditPlayer.Proofs.FlatText
import EditPlayer.Proofs.WellFormed
import EditPlayer.Proofs.Splice
import EditPlayer.Proofs.Counts
import EditPlayer.Proofs.LostTail
import EditPlayer.Proofs.ControlFlow
import EditPlayer.Proofs.PauseState
import EditPlayer.Proofs.Occurrences
import EditPlayer.Proofs.Playable
import EditPlayer.Proofs.SplitLines
import EditPlayer.Proofs.CleanCasing
import EditPlayer.Proofs.Reach
import EditPlayer.Proofs.CleanScripts
import EditPlayer.Proofs.CleanSessions
import EditPlayer.Proofs.Comments
import EditPlayer.Proofs.Grammar
import EditPlayer.Proofs.LineNumbers
import EditPlayer.Proofs.Payloads
import EditPlayer.Proofs.WrittenJson
import EditPlayer.Proofs.StoredFiles
import EditPlayer.Proofs.Codecs
import EditPlayer.Proofs.CommentRule
import EditPlayer.Proofs.LineBreaks
import EditPlayer.Proofs.Layout
import EditPlayer.Proofs.SameButCounts
import EditPlayer.Proofs.ConvertedLines
import EditPlayer.Proofs.Reselection
import EditPlayer.Proofs.Moves
import EditPlayer.Proofs.Reinsertion
import EditPlayer.Proofs.CharacterSteps
import EditPlayer.Proofs.WordRanges
import EditPlayer.Proofs.Repetition
import EditPlayer.Proofs.SavedPositions
import EditPlayer.Proofs.Chains
import EditPlayer.Proofs.Destinations
import EditPlayer.Proofs.Directions
import EditPlayer.Proofs.PatternLines
import EditPlayer.Proofs.SearchResults
import EditPlayer.Proofs.LoadedText
import EditPlayer.Proofs.BracketTails
import EditPlayer.Proofs.CaseForms
import EditPlayer.Proofs.TrimmedLines
import EditPlayer.Proofs.CamelStability
import EditPlayer.Proofs.Runs
import EditPlayer.Proofs.CaseBoundaries
import EditPlayer.Proofs.JoinedWords
import EditPlayer.Proofs.CamelWords
import EditPlayer.Proofs.Offsets
import EditPlayer.Proofs.Slices
import EditPlayer.Proofs.WordStarts
