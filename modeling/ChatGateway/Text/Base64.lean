import ChatGateway.Number.Word

/-!
# Base64

Which texts are the padded base64 of some bytes.  Groups of four symbols, the last one filled
up with `=`; the bits that the padding leaves over are zero, so each byte string has one text.
-/

namespace ChatGateway.Text.Base64

/-- The six bits of a symbol. -/
def value? (symbol : Char) : Option Nat :=
  if 'A' ≤ symbol ∧ symbol ≤ 'Z' then some (symbol.toNat - 65)
  else if 'a' ≤ symbol ∧ symbol ≤ 'z' then some (symbol.toNat - 71)
  else if '0' ≤ symbol ∧ symbol ≤ '9' then some (symbol.toNat + 4)
  else if symbol = '+' then some 62
  else if symbol = '/' then some 63
  else none

/-- Whether a symbol stands for bits of which the last `spare` are zero. -/
def endsWithin (spare : Nat) (symbol : Char) : Bool :=
  (value? symbol).any fun value => decide (Word.wrap spare value = 0)

/-- Whether four symbols can end a text. -/
def isLastGroup (first second third fourth : Char) : Bool :=
  if fourth = '=' then
    if third = '=' then endsWithin 0 first && endsWithin 4 second
    else endsWithin 0 first && endsWithin 0 second && endsWithin 2 third
  else
    endsWithin 0 first && endsWithin 0 second && endsWithin 0 third && endsWithin 0 fourth

/-- Whether symbols are the base64 of some bytes. -/
def isValid : List Char → Bool
  | [] => true
  | [first, second, third, fourth] => isLastGroup first second third fourth
  | first :: second :: third :: fourth :: rest =>
      endsWithin 0 first && endsWithin 0 second && endsWithin 0 third && endsWithin 0 fourth &&
        isValid rest
  | _ => false

end ChatGateway.Text.Base64
