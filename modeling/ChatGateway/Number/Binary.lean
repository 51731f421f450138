/-!
# Binary floating-point numbers

A finite number is kept as a sign, a whole mantissa and a power of two, in the one
representation its format allows, so equal numbers are equal values.  Every operation
computes the exact rational result and rounds it once, to the nearest number of the
format, ties to the even mantissa.
-/

namespace ChatGateway

/-- The finite number `mantissa * 2 ^ exponent`, negated where `negative` says so.  Zero keeps
its sign. -/
structure Binary where
  negative : Bool
  mantissa : Nat
  exponent : Int
  deriving DecidableEq, Repr, Inhabited

/-- A floating-point number with the two infinities and the undefined result. -/
inductive Extended where
  | finite (value : Binary)
  | infinite (negative : Bool)
  | undefined
  deriving DecidableEq, Repr, Inhabited

namespace Binary

/-- A format holds the mantissas below `2 ^ precision` with the exponents between the two
bounds. -/
structure Format where
  precision : Nat
  leastExponent : Int
  greatestExponent : Int
  deriving DecidableEq, Repr

/-- The 64-bit format. -/
def Format.double : Format := ⟨53, -1074, 971⟩

/-- The 32-bit format. -/
def Format.single : Format := ⟨24, -149, 104⟩

/-- The whole number nearest to `numerator / denominator`; a tie goes to the even one. -/
def nearest (numerator denominator : Nat) : Nat :=
  let quotient := numerator / denominator
  let twice := 2 * (numerator % denominator)
  if twice < denominator then quotient
  else if denominator < twice then quotient + 1
  else quotient + quotient % 2

/-- The fraction `numerator / denominator` times `2 ^ shift`, again as a fraction. -/
def scale (numerator denominator : Nat) : Int → Nat × Nat
  | .ofNat shift => (numerator * Nat.pow 2 shift, denominator)
  | .negSucc shift => (numerator, denominator * Nat.pow 2 (shift + 1))

/-- The exponent of the leading bit of a positive fraction. -/
def leadingExponent (numerator denominator : Nat) : Int :=
  let guess : Int := (numerator.log2 : Int) - (denominator.log2 : Int)
  let (high, low) := scale numerator denominator (-guess)
  if low ≤ high then guess else guess - 1

/-- The number of the format nearest to a fraction, or nothing when that is too large. -/
def round? (format : Format) (negative : Bool) (numerator denominator : Nat) : Option Binary :=
  if numerator = 0 then some ⟨negative, 0, format.leastExponent⟩
  else
    let leading := leadingExponent numerator denominator
    let exponent := max (leading - (format.precision : Int) + 1) format.leastExponent
    let (high, low) := scale numerator denominator (-exponent)
    let mantissa := nearest high low
    let rounded : Binary :=
      if mantissa = Nat.pow 2 format.precision then ⟨negative, mantissa / 2, exponent + 1⟩
      else ⟨negative, mantissa, exponent⟩
    if rounded.exponent ≤ format.greatestExponent then some rounded else none

/-- The nearest number of the format, infinity standing for what is too large. -/
def round (format : Format) (negative : Bool) (numerator denominator : Nat) : Extended :=
  match round? format negative numerator denominator with
  | some value => .finite value
  | none => .infinite negative

/-- The magnitude of a number as a fraction. -/
def fraction (value : Binary) : Nat × Nat :=
  scale value.mantissa 1 value.exponent

/-- The nearest number in another format. -/
def convert (format : Format) (value : Binary) : Extended :=
  let (numerator, denominator) := value.fraction
  round format value.negative numerator denominator

/-- The nearest number to an integer. -/
def ofInt (format : Format) (value : Int) : Extended :=
  round format (decide (value < 0)) value.natAbs 1

end Binary

namespace Extended

/-- Product, rounded to the format.  Zero times infinity is undefined. -/
def multiply (format : Binary.Format) : Extended → Extended → Extended
  | .finite left, .finite right =>
      let (leftHigh, leftLow) := left.fraction
      let (rightHigh, rightLow) := right.fraction
      Binary.round format (left.negative != right.negative)
        (leftHigh * rightHigh) (leftLow * rightLow)
  | .finite left, .infinite negative =>
      if left.mantissa = 0 then .undefined else .infinite (left.negative != negative)
  | .infinite negative, .finite right =>
      if right.mantissa = 0 then .undefined else .infinite (negative != right.negative)
  | .infinite left, .infinite right => .infinite (left != right)
  | .undefined, _ => .undefined
  | _, .undefined => .undefined

/-- The fractions over a common denominator, with their signs: the order of the exact values. -/
def signedNumerators (left right : Binary) : Int × Int :=
  let (leftHigh, leftLow) := left.fraction
  let (rightHigh, rightLow) := right.fraction
  let signed (negative : Bool) (magnitude : Nat) : Int :=
    if negative then -(magnitude : Int) else (magnitude : Int)
  (signed left.negative (leftHigh * rightLow), signed right.negative (rightHigh * leftLow))

/-- Sum, rounded to the format.  Opposite infinities have no sum, and a sum of zero is positive
unless both terms are negative. -/
def add (format : Binary.Format) : Extended → Extended → Extended
  | .finite left, .finite right =>
      let (high, low) := signedNumerators left right
      let total := high + low
      let denominator := left.fraction.2 * right.fraction.2
      let negative := if total = 0 then left.negative && right.negative else decide (total < 0)
      Binary.round format negative total.natAbs denominator
  | .finite _, .infinite negative => .infinite negative
  | .infinite negative, .finite _ => .infinite negative
  | .infinite left, .infinite right => if left = right then .infinite left else .undefined
  | .undefined, _ => .undefined
  | _, .undefined => .undefined

/-- Whether the left number is strictly below the right one; never with an undefined number. -/
def less : Extended → Extended → Bool
  | .finite left, .finite right =>
      let (low, high) := signedNumerators left right
      decide (low < high)
  | .finite _, .infinite negative => !negative
  | .infinite negative, .finite _ => negative
  | .infinite left, .infinite right => left && !right
  | .undefined, _ => false
  | _, .undefined => false

/-- The smaller number; an undefined number gives way to the other one. -/
def least (left right : Extended) : Extended :=
  match left, right with
  | .undefined, other => other
  | other, .undefined => other
  | left, right => if right.less left then right else left

/-- Repeated squaring over the bits of the exponent, lowest first. -/
def powerFrom (format : Binary.Format) : Nat → Extended → Nat → Extended → Extended
  | 0, _, _, result => result
  | steps + 1, base, exponent, result =>
      let result := if exponent % 2 = 1 then multiply format result base else result
      if exponent / 2 = 0 then result
      else powerFrom format steps (multiply format base base) (exponent / 2) result

/-- A power with an exponent of at most 32 bits. -/
def power (format : Binary.Format) (base : Extended) (exponent : Nat) : Extended :=
  powerFrom format 32 base exponent (Binary.ofInt format 1)

/-- The whole part, held between zero and `limit`; an undefined number counts as zero. -/
def truncate (limit : Nat) : Extended → Nat
  | .finite value =>
      if value.negative then 0
      else
        let (numerator, denominator) := value.fraction
        min (numerator / denominator) limit
  | .infinite negative => if negative then 0 else limit
  | .undefined => 0

end Extended

end ChatGateway
