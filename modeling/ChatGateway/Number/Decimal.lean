import ChatGateway.Number.Binary

/-!
# Decimal notation of binary numbers

Reading takes the number of the format nearest to a decimal.  Writing takes the fewest
significant digits that read back, and of those the nearest to the value.
-/

namespace ChatGateway

/-- The decimal `digits * 10 ^ exponent`. -/
structure Decimal where
  digits : Nat
  exponent : Int
  deriving DecidableEq, Repr

namespace Decimal

/-- How many decimal digits a number has; zero has one. -/
def digitCount (value : Nat) : Nat :=
  (Nat.toDigits 10 value).length

/-- Beyond this power of ten every decimal is too large, and below its negative every decimal
rounds to zero, in both formats. -/
def reach : Int := 400

/-- The value of a decimal as a fraction. -/
def fraction (decimal : Decimal) : Nat × Nat :=
  match decimal.exponent with
  | .ofNat exponent => (decimal.digits * Nat.pow 10 exponent, 1)
  | .negSucc exponent => (decimal.digits, Nat.pow 10 (exponent + 1))

/-- The nearest number of the format, or nothing when the decimal is too large. -/
def toBinary? (format : Binary.Format) (negative : Bool) (decimal : Decimal) : Option Binary :=
  let magnitude := decimal.exponent + (digitCount decimal.digits : Int)
  if decimal.digits = 0 ∨ magnitude < -reach then
    some ⟨negative, 0, format.leastExponent⟩
  else if reach < magnitude then none
  else
    let (numerator, denominator) := decimal.fraction
    Binary.round? format negative numerator denominator

/-- The power of ten just above a positive fraction: the least `k` with the fraction below
`10 ^ k`, found by counting up from `k`. -/
def ceilingPower (numerator denominator : Nat) : Nat → Int → Int
  | 0, power => power
  | steps + 1, power =>
      let (high, low) := fraction ⟨1, power⟩
      if numerator * low < high * denominator then power
      else ceilingPower numerator denominator steps (power + 1)

/-- The two decimals with `count` digits around a fraction, the nearer one first. -/
def neighbours (numerator denominator : Nat) (power : Int) (count : Nat) : List Decimal :=
  let exponent := power - (count : Int)
  let (unitHigh, unitLow) := fraction ⟨1, exponent⟩
  let high := numerator * unitLow
  let low := denominator * unitHigh
  let below := high / low
  let twice := 2 * (high % low)
  if twice < low ∨ (twice = low ∧ below % 2 = 0) then
    [⟨below, exponent⟩, ⟨below + 1, exponent⟩]
  else
    [⟨below + 1, exponent⟩, ⟨below, exponent⟩]

/-- The shortest decimal of at least `count` digits that reads back as the value. -/
def shortestFrom (format : Binary.Format) (value : Binary) (numerator denominator : Nat)
    (power : Int) : Nat → Nat → Decimal
  | 0, count =>
      ((neighbours numerator denominator power count).head?).getD ⟨0, 0⟩
  | steps + 1, count =>
      match (neighbours numerator denominator power count).find? fun decimal =>
          decimal.toBinary? format value.negative = some value with
      | some decimal => decimal
      | none => shortestFrom format value numerator denominator power steps (count + 1)

/-- A decimal without trailing zero digits. -/
def strip : Nat → Decimal → Decimal
  | 0, decimal => decimal
  | steps + 1, decimal =>
      if decimal.digits % 10 = 0 ∧ decimal.digits ≠ 0 then
        strip steps ⟨decimal.digits / 10, decimal.exponent + 1⟩
      else decimal

/-- The decimal with the fewest digits that reads back as the value, without trailing zeros. -/
def shortest (format : Binary.Format) (value : Binary) : Decimal :=
  if value.mantissa = 0 then ⟨0, 0⟩
  else
    let (numerator, denominator) := value.fraction
    let power := ceilingPower numerator denominator 800 (-reach)
    strip 20 (shortestFrom format value numerator denominator power 17 1)

/-- Where positional notation ends: values from `10 ^ positionalAbove` up, and below
`10 ^ -positionalBelow`, are written with an exponent. -/
def positionalAbove : Int := 16

/-- See `positionalAbove`. -/
def positionalBelow : Int := 5

/-- A text of zeros. -/
def zeros (count : Int) : String :=
  String.ofList (List.replicate count.toNat '0')

/-- The text of a decimal: always with a point or an exponent, and the exponent signed. -/
def render (negative : Bool) (decimal : Decimal) : String :=
  let sign := if negative then "-" else ""
  let digits := Nat.toDigits 10 decimal.digits
  let point := (digits.length : Int) + decimal.exponent
  let text := String.ofList digits
  if decimal.digits = 0 then sign ++ "0.0"
  else if 0 ≤ decimal.exponent ∧ point ≤ positionalAbove then
    sign ++ text ++ zeros decimal.exponent ++ ".0"
  else if 0 < point ∧ point ≤ positionalAbove then
    sign ++ String.ofList (digits.take point.toNat) ++ "." ++
      String.ofList (digits.drop point.toNat)
  else if -positionalBelow < point ∧ point ≤ 0 then
    sign ++ "0." ++ zeros (-point) ++ text
  else
    let power := point - 1
    let exponent := if power < 0 then toString power else "+" ++ toString power
    let fractional :=
      if digits.length = 1 then "" else "." ++ String.ofList (digits.drop 1)
    sign ++ String.ofList (digits.take 1) ++ fractional ++ "e" ++ exponent

end Decimal

/-- The text of a 64-bit number. -/
def Binary.render (value : Binary) : String :=
  (Decimal.shortest .double value).render value.negative

end ChatGateway
