import ChatGateway.Json.Value
import ChatGateway.Number.Word

/-!
# Decoding structures from JSON

A structure is read from an object by field name, or from an array by position.  By name, an
optional field may be absent; by position, only fields that have a default may, and only at
the end.  Null stands for an absent optional field and for nothing else.
-/

namespace ChatGateway.Json

/-- Where the fields of a structure come from. -/
inductive Source where
  | named (fields : List (String × Json))
  | listed (names : List String) (items : List Json)

/-- The fields of a structure with these field names, in order.  An array may not have more items
than there are names. -/
def source? (names : List String) : Json → Option Source
  | .object fields => some (.named fields)
  | .array items => if items.length ≤ names.length then some (.listed names items) else none
  | _ => none

namespace Source

/-- The value given for a field. -/
def find? (name : String) : Source → Option Json
  | .named fields => Dictionary.get? name fields
  | .listed names items => (names.idxOf? name).bind fun index => items[index]?

/-- A field that has to be there. -/
def required {α : Type} (source : Source) (name : String) (decode : Json → Option α) : Option α :=
  (source.find? name).bind decode

/-- A field with a value for its absence; null is no absence. -/
def withDefault {α : Type} (source : Source) (name : String) (absent : α)
    (decode : Json → Option α) : Option α :=
  match source.find? name with
  | some value => decode value
  | none => some absent

/-- A value or null. -/
def nullable {α : Type} (decode : Json → Option α) : Json → Option (Option α)
  | .null => some none
  | value => (decode value).map some

/-- An optional field that may be absent in both forms. -/
def optional {α : Type} (source : Source) (name : String) (decode : Json → Option α) :
    Option (Option α) :=
  source.withDefault name none (nullable decode)

end Source

/-- Each item decoded, or nothing if one of them cannot be. -/
def decodeList {α : Type} (decode : Json → Option α) : Json → Option (List α)
  | .array items => items.mapM decode
  | _ => none

/-- A natural number of 32 bits. -/
def nat32? (value : Json) : Option Nat :=
  value.nat?.filter (Word.fits 32)

/-- A natural number of 64 bits. -/
def nat64? (value : Json) : Option Nat :=
  value.nat?.filter (Word.fits 64)

/-- Which of the alternatives a value names: a string, or an object with one field whose value is
null.  Within a value that was held back for a second attempt an empty object does for the null. -/
def enumeration? (heldBack : Bool) : Json → Option String
  | .string name => some name
  | .object [(name, .null)] => some name
  | .object [(name, .object [])] => if heldBack then some name else none
  | _ => none

/-- The tag of a tagged alternative and the value that holds its fields.  The tag is the field
`type` of an object or the first item of an array. -/
def tagged? : Json → Option (Json × Json)
  | .object fields =>
      (Dictionary.get? "type" fields).map fun tag => (tag, .object (Dictionary.erase "type" fields))
  | .array (tag :: items) => some (tag, .array items)
  | _ => none

/-- The name a tag stands for.  In a value that was held back a tag may also be the position of a
name. -/
def tagName? (heldBack : Bool) (names : List String) : Json → Option String
  | .string name => if names.contains name then some name else none
  | .number (.integer index) =>
      if heldBack ∧ 0 ≤ index then names[index.toNat]? else none
  | _ => none

end ChatGateway.Json
