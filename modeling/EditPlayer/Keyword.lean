import EditPlayer.Operation.Basic
set_option autoImplicit false

/-!
# The words of the language

The first word of an instruction names an operation; the second word of a `move` names its target
and direction.  Words are looked up exactly.  A `Preset` holds what an operation word fixes, and a
`Heading` what a move word fixes.
-/

namespace EditPlayer

/-- What an operation word fixes. -/
structure Preset where
  kind : Kind
  target : Option Target := none
  movement : Option Movement := none
  conversion : Option Conversion := none
  deriving DecidableEq, Repr, Inhabited

/-- What a move word fixes. -/
structure Heading where
  target : Target
  movement : Movement
  deriving DecidableEq, Repr, Inhabited

namespace Preset

/-- Whether a move word may follow. -/
def takesHeading (preset : Preset) : Bool := preset.kind == .move

/-- The operation with the fields that the word fixes; others stay as they are. -/
def apply (preset : Preset) (operation : Operation) : Operation :=
  { operation with
    kind := preset.kind
    target := preset.target.or operation.target
    movement := preset.movement.or operation.movement
    conversion := preset.conversion.or operation.conversion }

end Preset

namespace Heading

/-- Whether a pattern follows on the line. -/
def takesPattern (heading : Heading) : Bool := heading.movement == .matchInLine

/-- The operation with the target and direction of the word. -/
def apply (heading : Heading) (operation : Operation) : Operation :=
  { operation with target := some heading.target, movement := some heading.movement }

end Heading

namespace Keyword

/-- The operation words. -/
def operations : List (String × Preset) :=
  [("move", { kind := .move }),
   ("copy", { kind := .copy }),
   ("copy-word", { kind := .copy, target := some .word }),
   ("copy-line", { kind := .copy, target := some .line }),
   ("copy-trimmed-line", { kind := .copy, target := some .trimmedLine }),
   ("paste", { kind := .paste }),
   ("delete", { kind := .delete }),
   ("select-word", { kind := .select, target := some .word }),
   ("select-line", { kind := .select, target := some .line }),
   ("select-trimmed-line", { kind := .select, target := some .trimmedLine }),
   ("swap-selection", { kind := .swapSelection }),
   ("find-next", { kind := .find, movement := some .next }),
   ("find-previous", { kind := .find, movement := some .previous }),
   ("deselect-start", { kind := .deselect, movement := some .start }),
   ("deselect-end", { kind := .deselect, movement := some .finish }),
   ("push-position", { kind := .pushPosition }),
   ("pop-position", { kind := .popPosition }),
   ("push-text", { kind := .pushText, target := some .selection }),
   ("push-word", { kind := .pushText, target := some .word }),
   ("push-line", { kind := .pushText, target := some .line }),
   ("push-trimmed-line", { kind := .pushText, target := some .trimmedLine }),
   ("pop-text", { kind := .popText }),
   ("pause", { kind := .pause }),
   ("return", { kind := .finish }),
   ("lower-case", { kind := .convert, conversion := some .lower }),
   ("upper-case", { kind := .convert, conversion := some .upper }),
   ("title-case", { kind := .convert, conversion := some .title }),
   ("camel-case", { kind := .convert, conversion := some .camel }),
   ("toggle-case", { kind := .convert, conversion := some .toggle }),
   ("member-syntax", { kind := .convert, conversion := some .memberSyntax }),
   ("kebab-syntax", { kind := .convert, conversion := some .kebabSyntax }),
   ("snake-syntax", { kind := .convert, conversion := some .snakeSyntax }),
   ("split-by-case", { kind := .convert, conversion := some .splitByCase }),
   ("remove-punctuation", { kind := .convert, conversion := some .removePunctuation })]

/-- The move words. -/
def moves : List (String × Heading) :=
  [("left", ⟨.character, .decrement⟩),
   ("right", ⟨.character, .increment⟩),
   ("up", ⟨.line, .decrement⟩),
   ("down", ⟨.line, .increment⟩),
   ("word-start", ⟨.word, .start⟩),
   ("word-end", ⟨.word, .finish⟩),
   ("start-line", ⟨.line, .start⟩),
   ("end-line", ⟨.line, .finish⟩),
   ("start-trimmed-line", ⟨.trimmedLine, .start⟩),
   ("end-trimmed-line", ⟨.trimmedLine, .finish⟩),
   ("next-word", ⟨.word, .next⟩),
   ("previous-word", ⟨.word, .previous⟩),
   ("next-empty-line", ⟨.emptyLine, .next⟩),
   ("previous-empty-line", ⟨.emptyLine, .previous⟩),
   ("forward", ⟨.character, .forward⟩),
   ("backward", ⟨.character, .backward⟩),
   ("match-in-line-forward", ⟨.forwardMatch, .matchInLine⟩),
   ("match-in-line-backward", ⟨.backwardMatch, .matchInLine⟩)]

/-- The entry of a table whose word is exactly the given one. -/
def lookup? {α : Type} (table : List (String × α)) (word : Text) : Option α :=
  (table.find? fun entry => entry.1.toList == word).map (·.2)

/-- What an operation word fixes, if the word is one. -/
def operation? (word : Text) : Option Preset := lookup? operations word

/-- What a move word fixes, if the word is one. -/
def move? (word : Text) : Option Heading := lookup? moves word

/-- The words of a table in the order of their characters. -/
def sorted {α : Type} (table : List (String × α)) : List String :=
  (table.map (·.1)).mergeSort fun a b => decide (a ≤ b)

end Keyword

end EditPlayer
