import ChatGateway.Text.Search

/-!
# Runs of code points

A property of all code points is kept as the runs on which it does not change.  A table lists
them as words: the name of the value, then the length of the run with digits of base 36.
-/

namespace ChatGateway.Text

/-- Neighbouring code points with one value of a property. -/
structure Run where
  kind : String
  length : Nat
  deriving DecidableEq, Repr, Inhabited

namespace Run

/-- The value of a digit, the letters following the digits. -/
def digitValue (digit : Char) : Nat :=
  if digit.isDigit then digit.toNat - 48 else digit.toNat - 87

/-- The run that a word stands for, its name having so many letters. -/
def ofWord (letters : Nat) (word : List Char) : Run where
  kind := String.ofList (word.take letters)
  length := (word.drop letters).foldl (fun total digit => 36 * total + digitValue digit) 0

/-- The runs that lines of words stand for. -/
def ofLines (letters : Nat) (lines : List String) : List Run :=
  lines.flatMap fun line => (pieces ' ' line.toList).map (ofWord letters)

/-- The value of a property at a code point. -/
def kindAt : List Run → Nat → String
  | [], _ => ""
  | run :: rest, code => if code < run.length then run.kind else kindAt rest (code - run.length)

end Run

end ChatGateway.Text
