import ChatGateway.Json.Parser
import ChatGateway.Proofs.Number.Shortest

/-!
# Number literals

The text of a number is read as that number: an integer of 64 bits stays one, and a number of the
64-bit format is written so that it is found again, with a point or with an exponent.
-/

namespace ChatGateway

namespace Json

/-! ## Digits -/

theorem digitsValue_toDigits (number : Nat) : digitsValue (Nat.toDigits 10 number) = number :=
  Nat.ofDigitChars_ten_toDigits

theorem digitsValue_append_zeros (digits : List Char) (count : Nat) :
    digitsValue (digits ++ List.replicate count '0') = 10 ^ count * digitsValue digits :=
  (Nat.ofDigitChars_append 0).trans Nat.ofDigitChars_replicate_zero

theorem digitsValue_zeros_append (count : Nat) (digits : List Char) :
    digitsValue (List.replicate count '0' ++ digits) = digitsValue digits := by
  change Nat.ofDigitChars 10 _ 0 = Nat.ofDigitChars 10 _ 0
  rw [Nat.ofDigitChars_append, Nat.ofDigitChars_replicate_zero, Nat.mul_zero]

theorem isDigit_of_mem_toDigits {number : Nat} {digit : Char}
    (member : digit ∈ Nat.toDigits 10 number) : digit.isDigit :=
  Nat.isDigit_of_mem_toDigits (by decide) (by decide) member

/-- Only zero is written with a zero in front. -/
theorem head?_toDigits {number : Nat} (nonzero : number ≠ 0) :
    (Nat.toDigits 10 number).head? ≠ some '0' := by
  induction number using Nat.strong_induction_on with
  | h number ih =>
      rw [Nat.toDigits_eq_if (by decide)]
      split
      · simpa using nonzero
      · rename_i notLess
        rw [List.head?_append_of_ne_nil _ Nat.toDigits_ne_nil]
        exact ih (number / 10) (by omega) (by omega)

/-- Digits that may stand before the point: a zero stands there alone. -/
structure IsWhole (digits : List Char) : Prop where
  every : ∀ digit ∈ digits, digit.isDigit
  filled : digits ≠ []
  lead : digits.head? = some '0' → digits.length = 1

theorem isWhole_toDigits (number : Nat) : IsWhole (Nat.toDigits 10 number) where
  every _ := isDigit_of_mem_toDigits
  filled := Nat.toDigits_ne_nil
  lead zero := by
    by_cases none : number = 0
    · rw [none]
      rfl
    · exact absurd zero (head?_toDigits none)

theorem IsWhole.append {digits more : List Char} (whole : IsWhole digits)
    (nonzero : digits.head? ≠ some '0') (digitsToo : ∀ digit ∈ more, digit.isDigit) :
    IsWhole (digits ++ more) where
  every digit member := (List.mem_append.mp member).elim (whole.every digit) (digitsToo digit)
  filled := List.append_ne_nil_of_left_ne_nil whole.filled more
  lead zero := by
    rw [List.head?_append_of_ne_nil _ whole.filled] at zero
    exact absurd zero nonzero

theorem IsWhole.take {digits : List Char} (whole : IsWhole digits)
    (nonzero : digits.head? ≠ some '0') {count : Nat} (positive : 0 < count) :
    IsWhole (digits.take count) where
  every digit member := whole.every digit (List.mem_of_mem_take member)
  filled := by
    simpa [positive.ne'] using whole.filled
  lead zero := by
    rw [List.head?_take, if_neg positive.ne'] at zero
    exact absurd zero nonzero

/-! ## The parts of a literal -/

/-- A text that goes on with something else than a digit. -/
def EndsDigits (rest : List Char) : Prop := ∀ next ∈ rest.head?, next.isDigit = false

theorem endsDigits_nil : EndsDigits [] := by
  rintro next ⟨⟩

theorem endsDigits_cons {next : Char} (noDigit : next.isDigit = false) (rest : List Char) :
    EndsDigits (next :: rest) := by
  rintro _ ⟨⟩
  exact noDigit

theorem spanDigits_append {digits rest : List Char} (every : ∀ digit ∈ digits, digit.isDigit)
    (ends : EndsDigits rest) : spanDigits (digits ++ rest) = (digits, rest) := by
  rw [spanDigits, List.takeWhile_append_of_pos every, List.dropWhile_append_of_pos every]
  cases rest with
  | nil => simp
  | cons next rest =>
      have noDigit : next.isDigit = false := ends next rfl
      rw [List.takeWhile_cons_of_neg (by simp [noDigit]),
        List.dropWhile_cons_of_neg (by simp [noDigit]), List.append_nil]

theorem magnitude?_of_point {whole places rest : List Char} (isWhole : IsWhole whole)
    (digits : ∀ digit ∈ places, digit.isDigit) (filled : places ≠ []) (ends : EndsDigits rest) :
    magnitude? (whole ++ '.' :: (places ++ rest)) = (exponentPart? rest).map fun exponent =>
      .inr ⟨digitsValue (whole ++ places), exponent.getD 0 - places.length⟩ := by
  have lead : ¬(whole = [] ∨ whole.head? = some '0' ∧ whole.length ≠ 1) := by
    rintro (empty | ⟨zero, long⟩)
    · exact isWhole.filled empty
    · exact long (isWhole.lead zero)
  rw [magnitude?, spanDigits_append isWhole.every (endsDigits_cons (by decide) _)]
  simp only [if_neg lead, spanDigits_append digits ends, if_neg filled]

theorem magnitude?_of_no_point {whole rest : List Char} (isWhole : IsWhole whole)
    (ends : EndsDigits rest) (noPoint : rest.head? ≠ some '.') :
    magnitude? (whole ++ rest) = (exponentPart? rest).map fun exponent =>
      match exponent with
      | some exponent => .inr ⟨digitsValue whole, exponent⟩
      | none => .inl (digitsValue whole) := by
  have lead : ¬(whole = [] ∨ whole.head? = some '0' ∧ whole.length ≠ 1) := by
    rintro (empty | ⟨zero, long⟩)
    · exact isWhole.filled empty
    · exact long (isWhole.lead zero)
  rw [magnitude?, spanDigits_append isWhole.every ends]
  simp only [if_neg lead]
  split
  · exact absurd rfl noPoint
  · rfl

theorem toList_toString_int (value : Int) : (toString value).toList =
    (if value < 0 then ['-'] else []) ++ Nat.toDigits 10 value.natAbs := by
  rw [Int.toString_eq_repr, Int.repr_eq_if]
  by_cases negative : value < 0
  · rw [if_neg (by omega), if_pos negative, String.toList_append, Nat.toList_repr,
      show (-value).toNat = value.natAbs by omega]
    rfl
  · rw [if_pos (by omega), if_neg negative, Nat.toList_repr,
      show value.toNat = value.natAbs by omega]
    rfl

/-- A power of ten is read as it is written, with its sign. -/
theorem exponentPart?_signed {power : Int} (small : power.natAbs < 10 ^ 6) :
    exponentPart? ('e' :: (if power < 0 then toString power else "+" ++ toString power).toList) =
      some (some power) := by
  have text : (if power < 0 then toString power else "+" ++ toString power).toList =
      (if power < 0 then '-' else '+') :: Nat.toDigits 10 power.natAbs := by
    split
    · rw [toList_toString_int, if_pos ‹_›]
      rfl
    · rw [String.toList_append, toList_toString_int, if_neg ‹_›]
      rfl
  have every : (Nat.toDigits 10 power.natAbs).all Char.isDigit :=
    List.all_eq_true.mpr fun _ => isDigit_of_mem_toDigits
  have filled : Nat.toDigits 10 power.natAbs ≠ [] := Nat.toDigits_ne_nil
  have fits : ¬6 < (Nat.toDigits 10 power.natAbs).length :=
    Nat.not_lt.mpr ((Nat.length_toDigits_le_iff (by decide) (by decide)).mpr small)
  have value : (if 6 < ((Nat.toDigits 10 power.natAbs).dropWhile fun digit =>
        decide (digit = '0')).length then 1000000
      else digitsValue ((Nat.toDigits 10 power.natAbs).dropWhile fun digit =>
        decide (digit = '0'))) = power.natAbs := by
    by_cases zero : power.natAbs = 0
    · rw [zero]
      rfl
    · have kept : (Nat.toDigits 10 power.natAbs).dropWhile (fun digit => decide (digit = '0')) =
          Nat.toDigits 10 power.natAbs := by
        have lead := head?_toDigits zero
        cases digits : Nat.toDigits 10 power.natAbs with
        | nil => rfl
        | cons first rest =>
            rw [digits] at lead
            exact List.dropWhile_cons_of_neg (by simpa using lead)
      rw [kept, if_neg fits, digitsValue_toDigits]
  rw [text]
  by_cases negative : power < 0
  · simp only [exponentPart?, if_pos negative, true_or, if_true, every, filled, ne_eq,
      not_false_eq_true, and_self, value]
    congr 2
    omega
  · simp only [exponentPart?, if_neg negative, true_or, if_true, every, filled, ne_eq,
      not_false_eq_true, and_self, value, Bool.false_eq_true, if_false]
    congr 2
    omega

/-! ## Literals -/

/-- The number with a sign and a magnitude. -/
def signed? (negative : Bool) : Nat ⊕ Decimal → Option Number
  | .inl digits =>
      let value : Int := if negative then -(digits : Int) else (digits : Int)
      if (negative && digits = 0) || !Number.holdsInteger value then
        (Decimal.toBinary? .double negative ⟨digits, 0⟩).map .double
      else some (.integer value)
  | .inr decimal => (decimal.toBinary? .double negative).map .double

/-- Whether a minus sign stands in front of a literal, and what follows it. -/
def splitSign (text : List Char) : Bool × List Char :=
  match text with
  | '-' :: rest => (true, rest)
  | rest => (false, rest)

theorem number?_eq (text : List Char) :
    number? text = (magnitude? (splitSign text).2).bind (signed? (splitSign text).1) := by
  unfold number?
  split
  rename_i negative rest parts
  rw [show splitSign text = (negative, rest) from parts]
  rcases magnitude? rest with _ | digits | decimal <;> rfl

/-- No magnitude begins with a sign. -/
theorem number?_of_magnitude {text : List Char} {magnitude : Nat ⊕ Decimal}
    (read : magnitude? text = some magnitude) (negative : Bool) :
    number? ((if negative then ['-'] else []) ++ text) = signed? negative magnitude := by
  have parts : splitSign ((if negative then ['-'] else []) ++ text) = (negative, text) := by
    cases negative with
    | true => rfl
    | false =>
        rw [if_neg Bool.false_ne_true, List.nil_append, splitSign]
        rintro rest rfl
        cases read
  rw [number?_eq, parts, read, Option.bind_some]

theorem magnitude?_toDigits (number : Nat) :
    magnitude? (Nat.toDigits 10 number) = some (.inl number) := by
  have read := magnitude?_of_no_point (isWhole_toDigits number) endsDigits_nil (by simp)
  rwa [List.append_nil, digitsValue_toDigits] at read

/-- An integer of 64 bits is read back as itself. -/
theorem number?_toString {value : Int} (holds : Number.holdsInteger value) :
    number? (toString value).toList = some (.integer value) := by
  have sign : (if value < 0 then ['-'] else []) = if decide (value < 0) then ['-'] else [] := by
    simp only [decide_eq_true_eq]
  rw [toList_toString_int, sign, number?_of_magnitude (magnitude?_toDigits _), signed?]
  have signed : (if decide (value < 0) then -(value.natAbs : Int) else value.natAbs) = value := by
    simp only [decide_eq_true_eq]
    split <;> omega
  have notMinusZero : (decide (value < 0) && decide (value.natAbs = 0)) = false := by
    simp only [Bool.and_eq_false_iff, decide_eq_false_iff_not]
    omega
  simp only [signed, notMinusZero, holds, Bool.not_true, Bool.or_self, Bool.false_eq_true, if_false]

theorem toList_zeros (count : Nat) :
    (Decimal.zeros count).toList = List.replicate count '0' := by
  rw [Decimal.zeros, String.toList_ofList, Int.toNat_natCast]

section Notation

variable {digits : List Char}

/-- A number without places ends with a point and a zero. -/
theorem magnitude?_zeros (whole : IsWhole digits) (lead : digits.head? ≠ some '0') (count : Nat) :
    magnitude? (digits ++ (List.replicate count '0' ++ ['.', '0'])) =
      some (.inr ⟨10 ^ (count + 1) * digitsValue digits, -1⟩) := by
  have zeros : ∀ digit ∈ List.replicate count '0', digit.isDigit := by
    intro digit member
    rw [List.eq_of_mem_replicate member]
    rfl
  have place : ∀ digit ∈ ['0'], digit.isDigit := List.all_eq_true.mp rfl
  have read := magnitude?_of_point (whole.append lead zeros) place (List.cons_ne_nil _ _)
    endsDigits_nil
  rw [List.append_assoc, List.append_assoc, ← List.replicate_succ',
    digitsValue_append_zeros] at read
  exact read

/-- A point among the digits leaves their value, divided by a power of ten. -/
theorem magnitude?_point (whole : IsWhole digits) (lead : digits.head? ≠ some '0') {count : Nat}
    (positive : 0 < count) (inside : count < digits.length) :
    magnitude? (digits.take count ++ '.' :: digits.drop count) =
      some (.inr ⟨digitsValue digits, -(digits.length - count : Nat)⟩) := by
  have places : ∀ digit ∈ digits.drop count, digit.isDigit := by
    intro digit member
    exact whole.every digit (List.mem_of_mem_drop member)
  have filled : digits.drop count ≠ [] := by simpa using inside
  have read := magnitude?_of_point (whole.take lead positive) places filled endsDigits_nil
  rw [List.append_nil, List.take_append_drop, List.length_drop] at read
  exact read.trans (by simp [exponentPart?])

/-- A number below one begins with a zero and a point. -/
theorem magnitude?_small (whole : IsWhole digits) (count : Nat) :
    magnitude? ('0' :: '.' :: (List.replicate count '0' ++ digits)) =
      some (.inr ⟨digitsValue digits, -(count + digits.length : Nat)⟩) := by
  have places : ∀ digit ∈ List.replicate count '0' ++ digits, digit.isDigit := by
    intro digit member
    rcases List.mem_append.mp member with zero | other
    · rw [List.eq_of_mem_replicate zero]
      rfl
    · exact whole.every digit other
  have filled : List.replicate count '0' ++ digits ≠ [] :=
    List.append_ne_nil_of_right_ne_nil _ whole.filled
  have zero : IsWhole ['0'] := ⟨List.all_eq_true.mp rfl, List.cons_ne_nil _ _, fun _ => rfl⟩
  have read := magnitude?_of_point zero places filled endsDigits_nil
  have value :
      digitsValue (['0'] ++ (List.replicate count '0' ++ digits)) = digitsValue digits := by
    rw [← List.append_assoc]
    exact digitsValue_zeros_append (count + 1) digits
  rw [List.append_nil, value, List.length_append, List.length_replicate] at read
  exact read.trans (by simp [exponentPart?])

/-- One digit may stand alone in front of an exponent, the others stand behind a point. -/
theorem magnitude?_scientific (whole : IsWhole digits) (lead : digits.head? ≠ some '0')
    {power : Int} (small : power.natAbs < 10 ^ 6) :
    magnitude? (digits.take 1 ++ ((if digits.length = 1 then [] else '.' :: digits.drop 1) ++
        'e' :: (if power < 0 then toString power else "+" ++ toString power).toList)) =
      some (.inr ⟨digitsValue digits, power - (digits.length - 1 : Nat)⟩) := by
  have ends := endsDigits_cons (by decide : 'e'.isDigit = false)
    (if power < 0 then toString power else "+" ++ toString power).toList
  split
  · rename_i alone
    have read := magnitude?_of_no_point whole ends (by simp)
    rw [exponentPart?_signed small] at read
    rw [List.take_of_length_le alone.le, List.nil_append, alone]
    exact read.trans (by simp)
  · rename_i notAlone
    have places : ∀ digit ∈ digits.drop 1, digit.isDigit := by
      intro digit member
      exact whole.every digit (List.mem_of_mem_drop member)
    have filled : digits.drop 1 ≠ [] := by
      have some := List.length_pos_iff.mpr whole.filled
      simp only [ne_eq, List.drop_eq_nil_iff]
      omega
    have read := magnitude?_of_point (whole.take lead Nat.one_pos) places filled ends
    rw [exponentPart?_signed small, List.take_append_drop, List.length_drop] at read
    exact read

end Notation

/-- A decimal is read from its text, if its first digit is not too far from the point. -/
theorem number?_render (negative : Bool) {decimal : Decimal}
    (near : decimal.digits ≠ 0 →
      (Decimal.digitCount decimal.digits + decimal.exponent - 1).natAbs < 10 ^ 6) :
    number? (decimal.render negative).toList =
      (decimal.toBinary? .double negative).map .double := by
  have sign : (if negative then "-" else "").toList = if negative then ['-'] else [] := by
    cases negative <;> rfl
  by_cases zero : decimal.digits = 0
  · have read : magnitude? "0.0".toList = some (.inr ⟨0, -1⟩) := by decide
    have same : (⟨0, -1⟩ : Decimal).value = decimal.value := by simp [Decimal.value, zero]
    simp only [Decimal.render, if_pos zero]
    rw [String.toList_append, sign, number?_of_magnitude read, signed?,
      Decimal.toBinary?_congr same]
  · obtain ⟨number, exponent⟩ := decimal
    have whole := isWhole_toDigits number
    have lead := head?_toDigits zero
    have value := digitsValue_toDigits number
    have point := near zero
    rw [Decimal.digitCount] at point
    simp only [Decimal.render, if_neg zero, Decimal.positionalAbove, Decimal.positionalBelow]
    generalize Nat.toDigits 10 number = digits at whole lead value point
    split
    · rename_i inFront
      obtain ⟨count, rfl⟩ := Int.eq_ofNat_of_zero_le inFront.1
      simp only [String.toList_append, String.toList_ofList, sign, toList_zeros, List.append_assoc]
      have read := magnitude?_zeros whole lead count
      have same : (⟨10 ^ (count + 1) * number, -1⟩ : Decimal).value =
          Decimal.value ⟨number, count⟩ := by
        rw [Decimal.value, Decimal.value]
        push_cast
        rw [zpow_neg_one, zpow_natCast, pow_succ]
        ring
      rw [value] at read
      rw [← Decimal.toBinary?_congr same]
      exact number?_of_magnitude read negative
    · rename_i notInFront
      split
      · rename_i among
        obtain ⟨count, shift⟩ := Int.eq_ofNat_of_zero_le among.1.le
        have positive : 0 < count := by omega
        have read := magnitude?_point whole lead positive (by omega)
        have places : -((digits.length - count : Nat) : Int) = exponent := by omega
        rw [value, places] at read
        simp only [shift, Int.toNat_natCast, String.toList_append, String.toList_ofList, sign,
          List.append_assoc]
        exact number?_of_magnitude read negative
      · rename_i notAmong
        split
        · rename_i behind
          obtain ⟨count, shift⟩ := Int.eq_ofNat_of_zero_le (Int.neg_nonneg_of_nonpos behind.2)
          have read := magnitude?_small whole count
          have places : -((count + digits.length : Nat) : Int) = exponent := by omega
          rw [value, places] at read
          simp only [shift, String.toList_append, String.toList_ofList, sign, toList_zeros,
            List.append_assoc]
          exact number?_of_magnitude read negative
        · have read := magnitude?_scientific whole lead point
          have some := List.length_pos_iff.mpr whole.filled
          have places : digits.length + exponent - 1 - ((digits.length - 1 : Nat) : Int) =
              exponent := by omega
          have fractional : (if digits.length = 1 then "" else
              "." ++ String.ofList (digits.drop 1)).toList =
                if digits.length = 1 then [] else '.' :: digits.drop 1 := by
            split <;> simp
          rw [value, places] at read
          simp only [String.toList_append, String.toList_ofList, sign, fractional,
            List.append_assoc]
          exact number?_of_magnitude read negative

end Json

/-! ## Numbers that are read back -/

/-- The numbers that a text can stand for: integers of 64 bits and numbers of the 64-bit format. -/
inductive Number.IsLegible : Number → Prop where
  | integer {value : Int} (holds : Number.holdsInteger value) : IsLegible (.integer value)
  | double {value : Binary} (fits : value.Fits .double) : IsLegible (.double value)

theorem Decimal.fits_of_toBinary? {decimal : Decimal} {negative : Bool} {number : Binary}
    (read : decimal.toBinary? .double negative = some number) : number.Fits .double := by
  rw [toBinary?] at read
  split at read
  · cases read
    have range : Binary.Format.double.leastExponent ≤ Binary.Format.double.greatestExponent := by
      decide
    exact ⟨Nat.two_pow_pos 53, le_rfl, range, .inr rfl⟩
  · split at read
    · cases read
    · exact Binary.fits_of_round? (by decide) (by decide) decimal.pos_fraction read

theorem Decimal.near_shortest {number : Binary} (fits : number.Fits .double)
    (nonzero : (shortest .double number).digits ≠ 0) :
    (digitCount (shortest .double number).digits + (shortest .double number).exponent - 1).natAbs <
      10 ^ 6 := by
  have read := toBinary?_shortest fits
  rw [toBinary?, Decimal.reach] at read
  split at read
  · rename_i tiny
    have zero : number.mantissa = 0 := (congrArg Binary.mantissa (Option.some.inj read)).symm
    rw [shortest, if_pos zero] at nonzero
    exact absurd rfl nonzero
  · split at read
    · cases read
    · omega

namespace Json

theorem isLegible_of_signed? {negative : Bool} {magnitude : Nat ⊕ Decimal} {number : Number}
    (read : signed? negative magnitude = some number) : number.IsLegible := by
  cases magnitude with
  | inl digits =>
      simp only [signed?] at read
      generalize (if negative then -(digits : Int) else (digits : Int)) = value at read
      split at read
      · obtain ⟨value, rounded, rfl⟩ := Option.map_eq_some_iff.mp read
        exact .double (Decimal.fits_of_toBinary? rounded)
      · rename_i integer
        cases read
        rw [Bool.not_eq_true, Bool.or_eq_false_iff, Bool.not_eq_false'] at integer
        exact .integer integer.2
  | inr decimal =>
      obtain ⟨value, rounded, rfl⟩ := Option.map_eq_some_iff.mp read
      exact .double (Decimal.fits_of_toBinary? rounded)

theorem isLegible_of_number? {text : List Char} {number : Number}
    (read : number? text = some number) : number.IsLegible := by
  rw [number?_eq, Option.bind_eq_some_iff] at read
  obtain ⟨magnitude, -, signed⟩ := read
  exact isLegible_of_signed? signed

/-- A number is read from the text that is written for it. -/
theorem number?_toList_render {number : Number} (legible : number.IsLegible) :
    number? number.render.toList = some number := by
  cases legible with
  | integer holds => exact number?_toString holds
  | double fits =>
      rw [Number.render, Binary.render, number?_render _ (Decimal.near_shortest fits),
        Decimal.toBinary?_shortest fits]
      rfl

end Json

end ChatGateway
