import EditPlayer.Json.Decode
import EditPlayer.Json.Storable
import EditPlayer.Operation.Basic
set_option autoImplicit false

/-!
# Operations as JSON

An operation is a record of all its fields.  A payload is an object with its type and its value, in
either order, or an array of the two that begins with the plain name of the type.  When the value
comes first in an object it is stored until its type is known, so all of it has to be storable, even
the parts that are then passed over.  How much room is left for it depends on how deeply the payload
is nested: `depth` is the number of arrays and objects around a value.
-/

namespace EditPlayer

/-- A member of a finite type, written by its name. -/
def Json.ofNamed {α : Type} [Named α] (member : α) : Json := Json.ofText (Named.name member)

namespace Payload

/-- The types of payload. -/
inductive Shape where
  | count
  | text
  | pattern
  deriving DecidableEq, Repr, Inhabited

instance : Named Shape where
  all := [.count, .text, .pattern]
  name
    | .count => "count".toList
    | .text => "text".toList
    | .pattern => "match".toList

/-- A payload as JSON. -/
def toJson : Payload → Json
  | count n => .record [("type", Json.ofNamed Shape.count), ("value", .ofNat n)]
  | text t => .record [("type", Json.ofNamed Shape.text), ("value", .ofText t)]
  | pattern p n =>
      .record [("type", Json.ofNamed Shape.pattern),
        ("value", .record [("pattern", .ofText p), ("occurrence", .ofNat n)])]

/-- The payload of a given type with a given value.  A pattern and its occurrence are given by
name. -/
def ofValue? : Shape → Json → Option Payload
  | .count, value => value.nat?.map count
  | .text, value => value.text?.map text
  | .pattern, .object members =>
      match Json.fields? ["pattern".toList, "occurrence".toList] members with
      | some [p, n] =>
          (Json.required Json.text? p).bind fun p =>
            (Json.required Json.nat? n).map fun n => pattern p n
      | _ => none
  | .pattern, _ => none

/-- Whether the first member with one of two names has the first of them. -/
def comesFirst (first second : Text) : List (Option Text × Json) → Bool
  | [] => true
  | (name, _) :: rest =>
      if name = some first then true
      else if name = some second then false
      else comesFirst first second rest

/-- The payload that a JSON value at a given depth is written for. -/
def ofJson? (depth : Nat) : Json → Option Payload
  | .array [shape, value] =>
      (shape.text?.bind Named.ofName?).bind fun shape => ofValue? shape value
  | .object members =>
      match Json.fields? ["type".toList, "value".toList] members with
      | some [some shape, some value] =>
          if comesFirst "type".toList "value".toList members ||
              value.isStorable (Json.depthLimit - (depth + 1)) then
            shape.named?.bind fun shape => ofValue? shape value
          else none
      | _ => none
  | _ => none

end Payload

namespace Operation

/-- The names of the fields. -/
def fieldNames : List String :=
  ["kind", "target", "movement", "value", "case_conversion", "select", "source_line"]

/-- An operation as JSON. -/
def toJson (operation : Operation) : Json :=
  .record
    [("kind", .ofNamed operation.kind),
     ("target", .ofOption .ofNamed operation.target),
     ("movement", .ofOption .ofNamed operation.movement),
     ("value", operation.payload.toJson),
     ("case_conversion", .ofOption .ofNamed operation.conversion),
     ("select", .bool operation.select),
     ("source_line", .ofNat operation.sourceLine)]

/-- The operation that a JSON value at a given depth is written for. -/
def ofJson? (depth : Nat) (json : Json) : Option Operation :=
  match json.record? fieldNames with
  | some [kind, target, movement, payload, conversion, select, sourceLine] => do
      let kind ← Json.required Json.named? kind
      let target ← Json.optional Json.named? target
      let movement ← Json.optional Json.named? movement
      let payload ← Json.required (Payload.ofJson? (depth + 1)) payload
      let conversion ← Json.optional Json.named? conversion
      let select ← Json.required Json.bool? select
      let sourceLine ← Json.required Json.nat? sourceLine
      some { kind, target, movement, payload, conversion, select, sourceLine }
  | _ => none

end Operation

end EditPlayer
