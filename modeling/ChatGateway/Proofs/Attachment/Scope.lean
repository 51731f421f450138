import ChatGateway.Attachment.Id
import ChatGateway.Proofs.Text.Search
import ChatGateway.Uuid

/-!
# Ids that name a request

An id that is written for an image of a request is read back as that request and that number, as
long as nothing of the request is lost when blanks are trimmed.
-/

namespace ChatGateway

namespace Attachment

/-! ## Numbers -/

theorem isDigit_of_mem_toString {number : Nat} {character : Char}
    (occurs : character ∈ (toString number).toList) : character.isDigit := by
  rw [Nat.toString_eq_repr, Nat.toList_repr] at occurs
  exact Nat.isDigit_of_mem_toDigits (by decide) (by decide) occurs

theorem toList_toString_ne_nil (number : Nat) : (toString number).toList ≠ [] := by
  rw [Nat.toString_eq_repr, Nat.toList_repr]
  exact Nat.toDigits_ne_nil

/-- A number of at most 64 bits is read back as it was written. -/
theorem number?_toString {number : Nat} (fits : Word.fits 64 number) :
    number? (toString number).toList = some number := by
  have digits : ∀ character ∈ (toString number).toList, character.isDigit := by
    intro character occurs
    exact isDigit_of_mem_toString occurs
  have filled := toList_toString_ne_nil number
  have value :
      (toString number).toList.foldl (fun value digit => 10 * value + (digit.toNat - 48)) 0 =
        number := by
    rw [Nat.toString_eq_repr, Nat.toList_repr]
    exact Nat.ofDigitChars_eq_foldl.symm.trans Nat.ofDigitChars_ten_toDigits
  cases text : (toString number).toList with
  | nil => contradiction
  | cons first rest =>
      rw [text] at digits value
      -- a plus sign is no digit, so none is taken off the front
      have unsigned : ∀ others, first :: rest = '+' :: others → False := by
        intro others signed
        cases signed
        exact absurd (digits '+' List.mem_cons_self) (by decide)
      have every : (first :: rest).all Char.isDigit := by simpa using digits
      simp only [number?, ne_eq, reduceCtorEq, not_false_eq_true, every, and_self, value, fits,
        if_true]

theorem toString_injective {number other : Nat} (same : toString number = toString other) :
    number = other := by
  have digits := congrArg String.toList same
  rw [Nat.toString_eq_repr, Nat.toString_eq_repr, Nat.toList_repr, Nat.toList_repr] at digits
  have values := congrArg (fun digits => Nat.ofDigitChars 10 digits 0) digits
  simpa using values

/-! ## Scopes -/

theorem toList_scopedId (request : String) (number : Nat) :
    (scopedId request number).toList = request.toList ++ '#' :: (toString number).toList := by
  simp [scopedId]

/-- An id is cut into its request and its number at the last `#`. -/
theorem splitAtLast?_scopedId (request : String) (number : Nat) :
    Text.splitAtLast? "#" (scopedId request number) = some (request, toString number) := by
  have absent : '#' ∉ (toString number).toList := by
    intro occurs
    exact absurd (isDigit_of_mem_toString occurs) (by decide)
  have parts := Text.cutLast?_character absent request.toList
  simp only [Text.splitAtLast?, toList_scopedId, show "#".toList = ['#'] from rfl, parts,
    Option.map_some, String.ofList_toList]

/-- Different images have different ids, whichever requests they came with. -/
theorem scopedId_inj {request other : String} {number otherNumber : Nat} :
    scopedId request number = scopedId other otherNumber ↔
      request = other ∧ number = otherNumber := by
  constructor
  · intro same
    have parts := splitAtLast?_scopedId request number
    rw [same, splitAtLast?_scopedId, Option.some.injEq, Prod.mk.injEq] at parts
    exact ⟨parts.1.symm, (toString_injective parts.2).symm⟩
  · rintro ⟨rfl, rfl⟩
    rfl

/-- Images of a request with different numbers have different ids. -/
theorem scopedId_injective {request : String} {number other : Nat}
    (same : scopedId request number = scopedId request other) : number = other :=
  (scopedId_inj.mp same).2

/-- A request that can be named in an id: its name begins with something that is no blank. -/
def IsScope (request : String) : Prop :=
  ∃ first, request.toList.head? = some first ∧ Text.isBlank first = false

theorem isScope_of_trim {request : String} (filled : request ≠ "")
    (trimmed : Text.trim request = request) : IsScope request := by
  have text := congrArg String.toList trimmed
  rw [Text.trim, String.toList_ofList, Text.trimChars] at text
  cases whole : request.toList with
  | nil => exact (filled (by simpa using whole)).elim
  | cons first rest =>
      refine ⟨first, by rw [whole]; rfl, ?_⟩
      cases blank : Text.isBlank first with
      | false => rfl
      | true =>
          have shorter := congrArg List.length text
          rw [whole, List.dropWhile_cons_of_pos blank, List.length_reverse] at shorter
          have some := (List.dropWhile_sublist Text.isBlank
            (l := (rest.dropWhile Text.isBlank).reverse)).length_le
          have fewer := (List.dropWhile_sublist Text.isBlank (l := rest)).length_le
          rw [List.length_reverse] at some
          rw [List.length_cons] at shorter
          omega

theorem trim_scopedId {request : String} (scope : IsScope request) (number : Nat) :
    Text.trim (scopedId request number) = scopedId request number := by
  obtain ⟨first, starts, shows⟩ := scope
  have filled := toList_toString_ne_nil number
  have ends : (scopedId request number).toList.getLast? =
      some ((toString number).toList.getLast filled) := by
    rw [toList_scopedId, List.getLast?_append, List.getLast?_cons_of_ne_nil filled,
      List.getLast?_eq_some_getLast filled, Option.some_or]
  have digit := isDigit_of_mem_toString (List.getLast_mem filled)
  have begins : (scopedId request number).toList.head? = some first := by
    rw [toList_scopedId, List.head?_append, starts, Option.some_or]
  rw [Text.trim, Text.trimChars_eq_self begins ends shows (Text.isBlank_eq_false_of_isDigit digit),
    String.ofList_toList]

/-- The id of an image names its request and its number. -/
theorem parseId?_scopedId {request : String} {number : Nat} (scope : IsScope request)
    (fits : Word.fits 64 number) :
    parseId? (scopedId request number) = some (some request, number) := by
  have filled : request.isEmpty = false := by
    obtain ⟨first, starts, -⟩ := scope
    cases empty : request.isEmpty with
    | false => rfl
    | true => simp [String.isEmpty_iff.mp empty] at starts
  simp only [parseId?, trim_scopedId scope, splitAtLast?_scopedId, number?_toString fits,
    Option.map_some, filled, Bool.false_eq_true, if_false]

/-! ## Reading ids -/

/-- Digits with a plus sign or without have no other characters. -/
theorem hash_notMem_of_number? {text : List Char} {number : Nat}
    (value : number? text = some number) : '#' ∉ text := by
  have digits (text : List Char) (every : text.all Char.isDigit = true) : '#' ∉ text := by
    intro occurs
    exact absurd (List.all_eq_true.mp every '#' occurs) (by decide)
  unfold number? at value
  split at value
  · dsimp only at value
    split at value
    · rename_i decimal
      rw [List.mem_cons, not_or]
      exact ⟨by decide, digits _ decimal.2⟩
    · cases value
  · dsimp only at value
    split at value
    · rename_i decimal
      exact digits _ decimal.2
    · cases value

/-- Whether an id is written with a request and a number, among blanks. -/
def Names (request : String) (number : Nat) (id : String) : Prop :=
  request ≠ "" ∧ ∃ digits, Text.trim id = request ++ "#" ++ digits ∧
    number? digits.toList = some number

/-- Whether an id is written with a number alone, among blanks. -/
def IsBare (number : Nat) (id : String) : Prop :=
  ∃ digits, (Text.trim id = digits ∨ Text.trim id = "#" ++ digits) ∧
    number? digits.toList = some number

theorem append_of_splitAtLast? {id request digits : String}
    (split : Text.splitAtLast? "#" id = some (request, digits)) :
    id = request ++ "#" ++ digits := by
  obtain ⟨⟨before, after⟩, cut, parts⟩ := Option.map_eq_some_iff.mp split
  cases parts
  apply String.toList_injective
  simpa using Text.append_of_cutLast? cut

theorem splitAtLast?_hash {digits : String} {number : Nat}
    (value : number? digits.toList = some number) (request : String) :
    Text.splitAtLast? "#" (request ++ "#" ++ digits) = some (request, digits) := by
  have text : (request ++ "#" ++ digits).toList = request.toList ++ '#' :: digits.toList := by
    simp
  rw [Text.splitAtLast?, text, show "#".toList = ['#'] from rfl,
    Text.cutLast?_character (hash_notMem_of_number? value)]
  simp

theorem parseId?_of_split {id request digits : String}
    (split : Text.splitAtLast? "#" (Text.trim id) = some (request, digits)) :
    parseId? id = (number? digits.toList).map fun value =>
      (if request.isEmpty then none else some request, value) := by
  rw [parseId?, split]

/-- An id is read with a request just when it is written with one. -/
theorem parseId?_eq_some_some {id request : String} {number : Nat} :
    parseId? id = some (some request, number) ↔ Names request number id := by
  constructor
  · intro read
    cases split : Text.splitAtLast? "#" (Text.trim id) with
    | none => simp [parseId?, split] at read
    | some parts =>
        obtain ⟨named, digits⟩ := parts
        rw [parseId?_of_split split, Option.map_eq_some_iff] at read
        obtain ⟨value, parsed, pair⟩ := read
        by_cases empty : named.isEmpty
        · simp [empty] at pair
        · simp only [empty, Bool.false_eq_true, if_false, Prod.mk.injEq, Option.some.injEq] at pair
          obtain ⟨rfl, rfl⟩ := pair
          exact ⟨by simpa using empty, digits, append_of_splitAtLast? split, parsed⟩
  · rintro ⟨filled, digits, text, value⟩
    rw [parseId?_of_split (text ▸ splitAtLast?_hash value request), value]
    simp [filled]

/-- An id is read without a request just when it is written without one. -/
theorem parseId?_eq_some_none {id : String} {number : Nat} :
    parseId? id = some (none, number) ↔ IsBare number id := by
  constructor
  · intro read
    cases split : Text.splitAtLast? "#" (Text.trim id) with
    | none =>
        simp only [parseId?, split, Option.map_eq_some_iff, Prod.mk.injEq, true_and] at read
        obtain ⟨_, parsed, rfl⟩ := read
        exact ⟨_, .inl rfl, parsed⟩
    | some parts =>
        obtain ⟨named, digits⟩ := parts
        rw [parseId?_of_split split, Option.map_eq_some_iff] at read
        obtain ⟨value, parsed, pair⟩ := read
        by_cases empty : named.isEmpty
        · rw [String.isEmpty_iff.mp empty] at split
          simp only [empty, if_true, Prod.mk.injEq, true_and] at pair
          subst pair
          exact ⟨digits, .inr (append_of_splitAtLast? split), parsed⟩
        · simp [empty] at pair
  · rintro ⟨digits, text | text, value⟩
    · have split : Text.splitAtLast? "#" (Text.trim id) = none := by
        rw [text, Text.splitAtLast?, show "#".toList = ['#'] from rfl,
          Text.cutLast?_of_not_mem (hash_notMem_of_number? value)]
        rfl
      rw [parseId?, split, text]
      exact congrArg (Option.map _) value
    · have split := splitAtLast?_hash value ""
      rw [String.empty_append, ← text] at split
      rw [parseId?_of_split split, value]
      rfl

end Attachment

namespace Json

theorem isBlank_hexDigit (digit : Nat) : Text.isBlank (hexDigit (digit % 16)) = false := by
  have small : digit % 16 < 16 := Nat.mod_lt digit (by decide)
  generalize digit % 16 = value at small
  revert value
  decide

end Json

/-- An identifier can name a request. -/
theorem Uuid.isScope_text (uuid : Uuid) : Attachment.IsScope uuid.text := by
  refine ⟨Json.hexDigit (uuid.value / Nat.pow 16 31 % 16), ?_, Json.isBlank_hexDigit _⟩
  simp [Uuid.text, Uuid.digits, List.range_succ]

end ChatGateway
