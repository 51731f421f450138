import ChatGateway.Dictionary
import ChatGateway.Number.Decimal
import ChatGateway.Number.Word

/-!
# JSON values

A value read from a text or built by the library.  An object is its list of fields; in a
*normal* value every object lists its fields by increasing key, each key once, so equal
values are equal data.
-/

namespace ChatGateway

/-- A JSON number is an integer of at most 64 bits or a 64-bit floating-point number. -/
inductive Number where
  | integer (value : Int)
  | double (value : Binary)
  deriving DecidableEq, Repr, Inhabited

namespace Number

/-- The integers that stay integers: those of the signed and of the unsigned 64-bit range. -/
def holdsInteger (value : Int) : Bool :=
  decide (-(Word.size 63 : Int) ≤ value) && decide (value < (Word.size 64 : Int))

/-- The text of a number. -/
def render : Number → String
  | .integer value => toString value
  | .double value => value.render

/-- The number as a floating-point number of the format. -/
def toExtended (format : Binary.Format) : Number → Extended
  | .integer value => Binary.ofInt format value
  | .double value => value.convert format

end Number

/-- A JSON value. -/
inductive Json where
  | null
  | bool (value : Bool)
  | number (value : Number)
  | string (value : String)
  | array (items : List Json)
  | object (fields : List (String × Json))
  deriving Repr, Inhabited

namespace Json

mutual

/-- The same value with the fields of every object sorted. -/
def normalize : Json → Json
  | .array items => .array (normalizeItems items)
  | .object fields => .object (Dictionary.ofList (normalizeFields fields))
  | other => other

/-- Normalizes each item of an array. -/
def normalizeItems : List Json → List Json
  | [] => []
  | item :: rest => normalize item :: normalizeItems rest

/-- Normalizes the value of each field, keeping their order. -/
def normalizeFields : List (String × Json) → List (String × Json)
  | [] => []
  | (name, value) :: rest => (name, normalize value) :: normalizeFields rest

end

/-- An integer. -/
def ofInt (value : Int) : Json := .number (.integer value)

/-- A natural number. -/
def ofNat (value : Nat) : Json := .number (.integer value)

/-- An optional value, null standing for its absence. -/
def ofOption {α : Type} (encode : α → Json) : Option α → Json
  | some value => encode value
  | none => .null

/-- The field of an object; nothing else has fields. -/
def get? (name : String) : Json → Option Json
  | .object fields => Dictionary.get? name fields
  | _ => none

/-- The field of an object, null standing for its absence. -/
def getD (name : String) (value : Json) : Json :=
  (value.get? name).getD .null

/-- The item of an array. -/
def item? (index : Nat) : Json → Option Json
  | .array items => items[index]?
  | _ => none

/-- The characters of a string. -/
def string? : Json → Option String
  | .string value => some value
  | _ => none

/-- The value of a natural number; a floating-point number is not one, even when it is whole. -/
def nat? : Json → Option Nat
  | .number (.integer value) => if 0 ≤ value then some value.toNat else none
  | _ => none

/-- A truth value. -/
def bool? : Json → Option Bool
  | .bool value => some value
  | _ => none

/-- The items of an array. -/
def array? : Json → Option (List Json)
  | .array items => some items
  | _ => none

/-- The fields of an object. -/
def object? : Json → Option (List (String × Json))
  | .object fields => some fields
  | _ => none

/-- Whether the value is null. -/
def isNull : Json → Bool
  | .null => true
  | _ => false

/-- Sets a field of an object; any other value stays as it is. -/
def set (target : Json) (name : String) (value : Json) : Json :=
  match target with
  | .object fields => .object (Dictionary.insert name value fields)
  | other => other

/-- Removes a field of an object. -/
def erase (name : String) : Json → Json
  | .object fields => .object (Dictionary.erase name fields)
  | other => other

end Json

end ChatGateway
