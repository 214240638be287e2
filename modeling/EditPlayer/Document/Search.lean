import EditPlayer.Document.Basic
import EditPlayer.Text.Search
set_option autoImplicit false

/-!
# Searching a document

The term of a search is the selected text, or the word at the cursor if nothing is selected.  The
search runs over the flat text, from the selection on, and starts again at the other end when
nothing is found.
-/

namespace EditPlayer.Document

/-- What a search looks for. -/
def searchTerm? (document : Document) : Option Text :=
  let range? :=
    if document.selection.isEmpty then document.wordRangeAt document.selection.active
    else some document.selection.range
  range?.bind fun range =>
    let term := document.textIn range
    if term.isEmpty then none else some term.crlfToLf

/-- The offset of the occurrence of a term that a search finds. -/
def searchOffset? (document : Document) (term : Text) : Direction → Option Nat
  | .next =>
      let start := min (document.view.offsetAt document.selection.stop) document.flat.length
      ((Text.find? term (document.flat.drop start)).map (start + ·)).or
        (Text.find? term document.flat)
  | .previous =>
      let stop := document.view.offsetAt document.selection.start
      (Text.findLast? term (document.flat.take stop)).or (Text.findLast? term document.flat)

/-- The document with the occurrence selected that a search finds. -/
def find (direction : Direction) (document : Document) : Document :=
  match document.searchTerm? with
  | none => document
  | some term =>
      match document.searchOffset? term direction with
      | none => document
      | some start =>
          { document with
            selection :=
              ⟨document.view.positionAt start, document.view.positionAt (start + term.length)⟩ }

end EditPlayer.Document
