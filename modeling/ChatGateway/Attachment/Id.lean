import ChatGateway.Number.Word
import ChatGateway.Text.Blank
import ChatGateway.Text.Search

/-!
# Image ids

An image is known by the request it came with and its number there, written `request#number`.
-/

namespace ChatGateway.Attachment

/-- The id of an image of a request. -/
def scopedId (request : String) (number : Nat) : String :=
  request ++ "#" ++ toString number

/-- The value of decimal digits, with or without a plus sign, of at most 64 bits. -/
def number? (text : List Char) : Option Nat :=
  let digits := match text with
    | '+' :: rest => rest
    | rest => rest
  if digits ≠ [] ∧ digits.all Char.isDigit then
    let value := digits.foldl (fun value digit => 10 * value + (digit.toNat - 48)) 0
    if Word.fits 64 value then some value else none
  else none

/-- The request, if one is named, and the number of an id: `request#number`, `#number` or
`number`. -/
def parseId? (id : String) : Option (Option String × Nat) :=
  let trimmed := Text.trim id
  match Text.splitAtLast? "#" trimmed with
  | some (request, number) =>
      (number? number.toList).map fun value =>
        (if request.isEmpty then none else some request, value)
  | none => (number? trimmed.toList).map fun value => (none, value)

end ChatGateway.Attachment
