import ChatGateway.Json.Parser
import ChatGateway.Json.Printer

/-!
# Identifiers

The 128-bit identifiers of requests and messages, and where fresh ones come from.  A supply
deals out identifiers in an order of its own, so that a run can be repeated.
-/

namespace ChatGateway

/-- An identifier of 128 bits. -/
structure Uuid where
  value : Nat
  deriving DecidableEq, Repr, Inhabited

namespace Uuid

/-- The identifier without a bit set. -/
def zero : Uuid := ⟨0⟩

/-- The digits of an identifier, most significant first. -/
def digits (uuid : Uuid) : List Char :=
  (List.range 32).map fun place => Json.hexDigit (uuid.value / Nat.pow 16 (31 - place) % 16)

/-- The digits alone. -/
def compact (uuid : Uuid) : String := String.ofList uuid.digits

/-- The digits in five groups. -/
def text (uuid : Uuid) : String :=
  let digits := uuid.digits
  let group (start length : Nat) : String := String.ofList ((digits.drop start).take length)
  "-".intercalate [group 0 8, group 8 4, group 12 4, group 16 4, group 20 12]

/-- The identifier that a text gives in hexadecimal digits; dashes between them do not count. -/
def ofText (text : String) : Uuid :=
  ⟨(text.toList.filterMap Json.hexValue?).foldl (fun total digit => 16 * total + digit) 0⟩

/-- A random identifier is marked as one by its version and its variant. -/
def ofSeed (seed : Nat) : Uuid :=
  ⟨4 * Nat.pow 16 19 + 8 * Nat.pow 16 15 + seed % Nat.pow 16 15⟩

end Uuid

/-- The identifiers not yet dealt out. -/
structure Supply where
  next : Nat
  deriving DecidableEq, Repr, Inhabited

namespace Supply

/-- A fresh identifier. -/
def draw (supply : Supply) : Uuid × Supply := (Uuid.ofSeed supply.next, ⟨supply.next + 1⟩)

end Supply

end ChatGateway
