import ChatGateway.Json.Parser
import ChatGateway.Number.Word
import ChatGateway.Text.Search

/-!
# Configuration trees

What a configuration text says before it is given a meaning.  JSON and YAML share one form; a
YAML scalar without quotes has no type of its own and takes the one that is asked for.

Configuration is read strictly: a field that is not known, or given twice, is an error.
-/

namespace ChatGateway.Config

/-- The language of a configuration text. -/
inductive Dialect where
  | json
  | yaml
  deriving DecidableEq, Repr, Inhabited

/-- A key of a mapping.  Only YAML has keys without quotes. -/
structure Key where
  text : String
  quoted : Bool
  deriving DecidableEq, Repr, Inhabited

/-- A configuration text as a tree.  Entries keep the order of the text, repeated ones too. -/
inductive Tree where
  | null
  | bool (value : Bool)
  | number (value : Number)
  | string (text : String)
  /-- A scalar without quotes, of YAML only. -/
  | plain (text : String)
  | sequence (items : List Tree)
  | mapping (entries : List (Key × Tree))
  deriving Inhabited

namespace Tree

mutual

/-- The tree of a JSON value. -/
def ofJson : Json → Tree
  | .null => .null
  | .bool value => .bool value
  | .number value => .number value
  | .string text => .string text
  | .array items => .sequence (ofItems items)
  | .object fields => .mapping (ofFields fields)

/-- The trees of the items of an array. -/
def ofItems : List Json → List Tree
  | [] => []
  | item :: rest => ofJson item :: ofItems rest

/-- The trees of the fields of an object. -/
def ofFields : List (String × Json) → List (Key × Tree)
  | [] => []
  | (name, value) :: rest => (⟨name, true⟩, ofJson value) :: ofFields rest

end

/-! ## Scalars without quotes -/

/-- The spellings of null. -/
def nullWords : List String := ["~", "null", "Null", "NULL"]

/-- Whether a plain scalar stands for nothing. -/
def isNullWord (text : String) : Bool := text.isEmpty || nullWords.contains text

/-- The truth value a plain scalar spells. -/
def boolOfPlain? (text : String) : Option Bool :=
  if ["true", "True", "TRUE"].contains text then some true
  else if ["false", "False", "FALSE"].contains text then some false
  else none

/-- The value of a text of digits in some base. -/
def digitsOfBase? (base : Nat) (digits : List Char) : Option Nat :=
  if digits.isEmpty then none
  else
    digits.foldlM (fun value digit =>
      (Json.hexValue? digit).bind fun unit =>
        if unit < base then some (base * value + unit) else none) 0

/-- Whether digits are more than one and begin with zero: such a text is not a number. -/
def isZeroPadded (text : List Char) : Bool :=
  let digits := match text with
    | '-' :: rest => rest
    | '+' :: rest => rest
    | rest => rest
  1 < digits.length && digits.head? == some '0' && digits.all Char.isDigit

/-- The digits of a number with a mark for its base, and the base. -/
def basedDigits? : List Char → Option (Nat × List Char)
  | '0' :: 'x' :: digits => some (16, digits)
  | '0' :: 'o' :: digits => some (8, digits)
  | '0' :: 'b' :: digits => some (2, digits)
  | _ => none

/-- The natural number a plain scalar spells, in decimal or with a mark for another base. -/
def naturalOfPlain? (text : List Char) : Option Nat :=
  let unsigned := match text with
    | '+' :: rest => rest
    | rest => rest
  match (basedDigits? unsigned).bind fun marked => digitsOfBase? marked.1 marked.2 with
  | some value => some value
  | none => if isZeroPadded text then none else digitsOfBase? 10 unsigned

/-- The integer a plain scalar spells. -/
def integerOfPlain? (text : List Char) : Option Int :=
  match text with
  | '-' :: '+' :: _ => none
  | '-' :: rest =>
      if isZeroPadded text then none
      else (naturalOfPlain? rest).map fun value => -(value : Int)
  | _ => (naturalOfPlain? text).map fun value => (value : Int)

/-- The decimal a text spells: digits with at most one point among or beside them, and an optional
exponent. -/
def decimalOfText? (text : List Char) : Option Decimal :=
  let (whole, rest) := Json.spanDigits text
  let (places, rest) := match rest with
    | '.' :: rest => Json.spanDigits rest
    | rest => ([], rest)
  if whole.isEmpty ∧ places.isEmpty then none
  else
    (Json.exponentPart? rest).map fun exponent =>
      ⟨Json.digitsValue (whole ++ places), exponent.getD 0 - (places.length : Int)⟩

/-- The floating-point number a plain scalar spells. -/
def doubleOfPlain? (text : String) : Option Extended :=
  if [".inf", ".Inf", ".INF", "+.inf", "+.Inf", "+.INF"].contains text then some (.infinite false)
  else if ["-.inf", "-.Inf", "-.INF"].contains text then some (.infinite true)
  else if [".nan", ".NaN", ".NAN"].contains text then some .undefined
  else
    let (negative, rest) := match text.toList with
      | '-' :: rest => (true, rest)
      | '+' :: rest => (false, rest)
      | rest => (false, rest)
    (decimalOfText? rest).bind fun decimal =>
      (decimal.toBinary? .double negative).map .finite

/-- Whether a double word holds an integer. -/
def holdsWide (value : Int) : Bool :=
  if value < 0 then (-value).toNat ≤ Word.size 127 else Word.fits 128 value.toNat

/-- The JSON value of a plain scalar that is no null, truth value or integer. -/
def doubleOrText (text : String) : Json :=
  match if isZeroPadded text.toList then none else doubleOfPlain? text with
  | some (.finite value) => .number (.double value)
  | some _ => .null
  | none => .string text

/-- The JSON value a plain scalar stands for where no type is asked for.  An integer that only a
double word holds stands for none. -/
def jsonOfPlain? (text : String) : Option Json :=
  if isNullWord text then some .null
  else
    match boolOfPlain? text with
    | some value => some (.bool value)
    | none =>
        match integerOfPlain? text.toList with
        | some value =>
            if Number.holdsInteger value then some (.number (.integer value))
            else if holdsWide value then none
            else some (doubleOrText text)
        | none => some (doubleOrText text)

/-! ## Reading a tree as a type -/

/-- A text.  A plain scalar is one whatever it spells. -/
def text? : Tree → Option String
  | .string text => some text
  | .plain text => some text
  | _ => none

/-- A scalar as the key of a mapping. -/
def key? : Tree → Option Key
  | .string text => some ⟨text, true⟩
  | .plain text => some ⟨text, false⟩
  | _ => none

/-- A text where other types would do too: a plain scalar only if it spells no other type. -/
def untypedText? : Tree → Option String
  | .string text => some text
  | .plain text => (jsonOfPlain? text).bind Json.string?
  | _ => none

/-- The key of a mapping whose keys could be of any type: a text. -/
def untypedKey? (key : Key) : Option String :=
  untypedText? (if key.quoted then .string key.text else .plain key.text)

/-- A truth value. -/
def bool? : Tree → Option Bool
  | .bool value => some value
  | .plain text => boolOfPlain? text
  | _ => none

/-- A natural number of so many bits. -/
def nat? (bits : Nat) (tree : Tree) : Option Nat :=
  let value := match tree with
    | .number value => (Json.number value).nat?
    | .plain text => naturalOfPlain? text.toList
    | _ => none
  value.filter (Word.fits bits)

/-- A floating-point number. -/
def double? : Tree → Option Extended
  | .number value => some (value.toExtended .double)
  | .plain text => doubleOfPlain? text
  | _ => none

/-- A value or nothing. -/
def nullable {α : Type} (decode : Tree → Option α) : Tree → Option (Option α)
  | .null => some none
  | .plain text => if isNullWord text then some none else (decode (.plain text)).map some
  | tree => (decode tree).map some

/-- The items of a list. -/
def items? : Tree → Option (List Tree)
  | .sequence items => some items
  | .plain "" => some []
  | _ => none

/-- A list. -/
def list? {α : Type} (decode : Tree → Option α) (tree : Tree) : Option (List α) :=
  tree.items?.bind fun items => items.mapM decode

/-- A dictionary; of two entries of one key the later one counts. -/
def dictionary? {α : Type} (decode : Tree → Option α) : Tree → Option (Dictionary α)
  | .mapping entries =>
      (entries.mapM fun entry => (decode entry.2).map fun value => (entry.1.text, value)).map
        Dictionary.ofList
  | .plain "" => some []
  | _ => none

/-- The name of an alternative. -/
def name? (dialect : Dialect) : Tree → Option String
  | .string text => some text
  | .plain text => some text
  | .mapping [(key, .null)] => if dialect = .json then some key.text else none
  | _ => none

mutual

/-- The JSON value of a tree where no type is asked for. -/
def json? : Tree → Option Json
  | .null => some .null
  | .bool value => some (.bool value)
  | .number value => some (.number value)
  | .string text => some (.string text)
  | .plain text => jsonOfPlain? text
  | .sequence items => (jsonItems? items).map .array
  | .mapping entries => (jsonEntries? entries).map fun fields => .object (Dictionary.ofList fields)

/-- The JSON values of items. -/
def jsonItems? : List Tree → Option (List Json)
  | [] => some []
  | item :: rest => do
      let value ← json? item
      let values ← jsonItems? rest
      some (value :: values)

/-- The JSON values of entries. -/
def jsonEntries? : List (Key × Tree) → Option (List (String × Json))
  | [] => some []
  | (key, item) :: rest => do
      let name ← untypedKey? key
      let value ← json? item
      let values ← jsonEntries? rest
      some ((name, value) :: values)

end

/-! ## Structures -/

/-- Where the fields of a structure come from. -/
inductive Source where
  | named (entries : List (String × Tree))
  | listed (names : List String) (items : List Tree)

/-- The fields of a structure with these field names, in order.  `canonical` gives the name for
which another one stands.  JSON may list the fields; in YAML a scalar without text has none. -/
def source? (dialect : Dialect) (names : List String) (canonical : String → String) :
    Tree → Option Source
  | .mapping entries =>
      let renamed := entries.map fun entry => (canonical entry.1.text, entry.2)
      let given := renamed.map Prod.fst
      if given.all names.contains ∧ given.Nodup then some (.named renamed) else none
  | .sequence items =>
      if dialect = .json ∧ items.length ≤ names.length then some (.listed names items) else none
  | .plain "" => some (.named [])
  | _ => none

namespace Source

/-- The tree given for a field. -/
def find? (name : String) : Source → Option Tree
  | .named entries => Dictionary.get? name entries
  | .listed names items => (names.idxOf? name).bind fun index => items[index]?

/-- A field that has to be there. -/
def required {α : Type} (source : Source) (name : String) (decode : Tree → Option α) : Option α :=
  (source.find? name).bind decode

/-- A field with a value for its absence. -/
def withDefault {α : Type} (source : Source) (name : String) (absent : α)
    (decode : Tree → Option α) : Option α :=
  match source.find? name with
  | some tree => decode tree
  | none => some absent

/-- A field that may be absent or nothing. -/
def optional {α : Type} (source : Source) (name : String) (decode : Tree → Option α) :
    Option (Option α) :=
  source.withDefault name none (nullable decode)

end Source

end Tree

end ChatGateway.Config
