import ChatGateway.Json.Value

/-!
# 32-bit numbers in JSON

A 32-bit number is read from any JSON number by rounding, and written as the 64-bit number of
the same value.  One that is too large is read as infinity, which JSON writes as null.
-/

namespace ChatGateway

/-- A number of the 32-bit format. -/
structure Single where
  value : Extended
  deriving DecidableEq, Repr, Inhabited

namespace Single

/-- The nearest 32-bit number to a JSON number. -/
def decode? : Json → Option Single
  | .number number => some ⟨number.toExtended .single⟩
  | _ => none

/-- The JSON number of the same value. -/
def encode (single : Single) : Json :=
  match single.value with
  | .finite value =>
      match value.convert .double with
      | .finite wide => .number (.double wide)
      | _ => .null
  | _ => .null

end Single

end ChatGateway
