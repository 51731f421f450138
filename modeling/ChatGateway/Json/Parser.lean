import ChatGateway.Json.Value

/-!
# Reading JSON text

The text is cut into tokens by an automaton that reads one character at a time, and the
tokens build the value on a stack of open arrays and objects.  A text is refused where it is
not JSON, where a number is too large for a floating-point number, and where more than 127
arrays and objects are open at once.
-/

namespace ChatGateway.Json

/-- A lexical unit of a JSON text. -/
inductive Token where
  | openArray
  | closeArray
  | openObject
  | closeObject
  | comma
  | colon
  | scalar (value : Json)
  deriving Inhabited

/-- The digits at the front of a text, and what follows them. -/
def spanDigits (text : List Char) : List Char × List Char :=
  (text.takeWhile Char.isDigit, text.dropWhile Char.isDigit)

/-- The value of decimal digits. -/
def digitsValue (digits : List Char) : Nat :=
  digits.foldl (fun value digit => 10 * value + (digit.toNat - 48)) 0

/-- The exponent part of a number: absent, or a mark, an optional sign and digits. -/
def exponentPart? : List Char → Option (Option Int)
  | [] => some none
  | mark :: rest =>
      if mark = 'e' ∨ mark = 'E' then
        let (negative, digits) := match rest with
          | '-' :: digits => (true, digits)
          | '+' :: digits => (false, digits)
          | digits => (false, digits)
        if digits ≠ [] ∧ digits.all Char.isDigit then
          -- an exponent of more than six digits is as good as the largest of six
          let significant := digits.dropWhile fun digit => decide (digit = '0')
          let value : Nat :=
            if 6 < significant.length then 1000000 else digitsValue significant
          some (some (if negative then -(value : Int) else (value : Int)))
        else none
      else none

/-- The number without its sign: an integer keeps its digits, any other literal is a decimal. -/
def magnitude? (text : List Char) : Option (Nat ⊕ Decimal) :=
  let (whole, rest) := spanDigits text
  if whole = [] ∨ (whole.head? = some '0' ∧ whole.length ≠ 1) then none
  else
    match rest with
    | '.' :: rest =>
        let (places, rest) := spanDigits rest
        if places = [] then none
        else
          (exponentPart? rest).map fun exponent =>
            .inr ⟨digitsValue (whole ++ places), exponent.getD 0 - (places.length : Int)⟩
    | rest =>
        (exponentPart? rest).map fun exponent =>
          match exponent with
          | some exponent => .inr ⟨digitsValue whole, exponent⟩
          | none => .inl (digitsValue whole)

/-- The number that a literal stands for. -/
def number? (text : List Char) : Option Number :=
  let (negative, rest) := match text with
    | '-' :: rest => (true, rest)
    | rest => (false, rest)
  match magnitude? rest with
  | none => none
  | some (.inl digits) =>
      let value : Int := if negative then -(digits : Int) else (digits : Int)
      if (negative && digits = 0) || !Number.holdsInteger value then
        (Decimal.toBinary? .double negative ⟨digits, 0⟩).map .double
      else some (.integer value)
  | some (.inr decimal) => (decimal.toBinary? .double negative).map .double

/-- The value of an unquoted word. -/
def word? (text : List Char) : Option Json :=
  if text = ['n', 'u', 'l', 'l'] then some .null
  else if text = ['t', 'r', 'u', 'e'] then some (.bool true)
  else if text = ['f', 'a', 'l', 's', 'e'] then some (.bool false)
  else (number? text).map .number

/-- Where the automaton stands.  Characters read so far are kept last first. -/
inductive Lexer where
  | between
  | word (read : List Char)
  | string (read : List Char)
  | escape (read : List Char)
  /-- Inside a four-digit escape: the high surrogate that came before it, the digits so far. -/
  | unicode (read : List Char) (high : Option Nat) (count value : Nat)
  /-- After a high surrogate; `marked` once the backslash of the low one has been read. -/
  | surrogate (read : List Char) (high : Nat) (marked : Bool)

/-- A blank of JSON. -/
def isBlank (character : Char) : Bool :=
  character = ' ' || character = '\n' || character = '\r' || character = '\t'

/-- A character of which words are made. -/
def isWordChar (character : Char) : Bool :=
  character.isAlphanum || character = '-' || character = '+' || character = '.'

/-- The value of a hexadecimal digit. -/
def hexValue? (digit : Char) : Option Nat :=
  if '0' ≤ digit ∧ digit ≤ '9' then some (digit.toNat - 48)
  else if 'a' ≤ digit ∧ digit ≤ 'f' then some (digit.toNat - 87)
  else if 'A' ≤ digit ∧ digit ≤ 'F' then some (digit.toNat - 55)
  else none

/-- A step between tokens. -/
def lexBetween (character : Char) : Option (List Token × Lexer) :=
  if isBlank character then some ([], .between)
  else if character = '"' then some ([], .string [])
  else if character = '[' then some ([.openArray], .between)
  else if character = ']' then some ([.closeArray], .between)
  else if character = '\x7b' then some ([.openObject], .between)
  else if character = '\x7d' then some ([.closeObject], .between)
  else if character = ',' then some ([.comma], .between)
  else if character = ':' then some ([.colon], .between)
  else if isWordChar character then some ([], .word [character])
  else none

/-- The character after a backslash that stands for one character. -/
def unescape? (character : Char) : Option Char :=
  if character = '"' ∨ character = '\\' ∨ character = '/' then some character
  else if character = 'b' then some (Char.ofNat 8)
  else if character = 'f' then some (Char.ofNat 12)
  else if character = 'n' then some '\n'
  else if character = 'r' then some '\r'
  else if character = 't' then some '\t'
  else none

/-- The state after the last digit of a four-digit escape.  A high surrogate needs a low one, and
a low one needs a high one. -/
def lexUnit (read : List Char) (high : Option Nat) (value : Nat) : Option Lexer :=
  match high with
  | some high =>
      if 0xDC00 ≤ value ∧ value < 0xE000 then
        some (.string (Char.ofNat (0x10000 + (high - 0xD800) * 1024 + (value - 0xDC00)) :: read))
      else none
  | none =>
      if 0xD800 ≤ value ∧ value < 0xDC00 then some (.surrogate read value false)
      else if 0xDC00 ≤ value ∧ value < 0xE000 then none
      else some (.string (Char.ofNat value :: read))

/-- One step of the automaton: the tokens completed by a character, and the next state. -/
def lexStep (state : Lexer) (character : Char) : Option (List Token × Lexer) :=
  match state with
  | .between => lexBetween character
  | .word read =>
      if isWordChar character then some ([], .word (character :: read))
      else do
        let value ← word? read.reverse
        let (tokens, next) ← lexBetween character
        some (.scalar value :: tokens, next)
  | .string read =>
      if character = '"' then
        some ([.scalar (.string (String.ofList read.reverse))], .between)
      else if character = '\\' then some ([], .escape read)
      else if character.val < 32 then none
      else some ([], .string (character :: read))
  | .escape read =>
      if character = 'u' then some ([], .unicode read none 0 0)
      else (unescape? character).map fun value => ([], .string (value :: read))
  | .unicode read high count value => do
      let digit ← hexValue? character
      if count < 3 then some ([], .unicode read high (count + 1) (16 * value + digit))
      else (lexUnit read high (16 * value + digit)).map fun next => ([], next)
  | .surrogate read high false =>
      if character = '\\' then some ([], .surrogate read high true) else none
  | .surrogate read high true =>
      if character = 'u' then some ([], .unicode read (some high) 0 0) else none

/-- The tokens completed by the end of the text. -/
def lexEnd : Lexer → Option (List Token)
  | .between => some []
  | .word read => (word? read.reverse).map fun value => [.scalar value]
  | _ => none

/-- The tokens of a text, from a state of the automaton on. -/
def lex : Lexer → List Char → Option (List Token)
  | state, [] => lexEnd state
  | state, character :: rest => do
      let (tokens, next) ← lexStep state character
      let more ← lex next rest
      some (tokens ++ more)

/-- What the reader waits for. -/
inductive Expect where
  | value
  /-- A value or the end of the array just opened. -/
  | itemOrClose
  /-- A field name or the end of the object just opened. -/
  | nameOrClose
  | name
  | colon (name : String)
  | commaOrClose
  | done (value : Json)

/-- An array or object that is being read; what it holds so far stands last first. -/
inductive Level where
  | array (items : List Json)
  | object (fields : List (String × Json))

/-- The reader's state: the open levels, innermost first, with the field names that wait for a
value, and what comes next. -/
structure Reader where
  levels : List (Level × Option String)
  expect : Expect

/-- How many arrays and objects may be open at once. -/
def depthLimit : Nat := 127

/-- A complete value goes into the innermost level, or is the result. -/
def Reader.accept (levels : List (Level × Option String)) (value : Json) : Option Reader :=
  match levels with
  | [] => some ⟨[], .done value⟩
  | (.array items, _) :: rest => some ⟨(.array (value :: items), none) :: rest, .commaOrClose⟩
  | (.object fields, some name) :: rest =>
      some ⟨(.object ((name, value) :: fields), none) :: rest, .commaOrClose⟩
  | (.object _, none) :: _ => none

/-- Opens a level unless too many are open. -/
def Reader.enter (levels : List (Level × Option String)) (level : Level) (expect : Expect) :
    Option Reader :=
  if levels.length < depthLimit then some ⟨(level, none) :: levels, expect⟩ else none

/-- Starts a value. -/
def Reader.start (levels : List (Level × Option String)) : Token → Option Reader
  | .scalar value => Reader.accept levels value
  | .openArray => Reader.enter levels (.array []) .itemOrClose
  | .openObject => Reader.enter levels (.object []) .nameOrClose
  | _ => none

/-- Closes the innermost level. -/
def Reader.close (levels : List (Level × Option String)) : Token → Option Reader
  | .closeArray =>
      match levels with
      | (.array items, _) :: rest => Reader.accept rest (.array items.reverse)
      | _ => none
  | .closeObject =>
      match levels with
      | (.object fields, _) :: rest => Reader.accept rest (.object fields.reverse)
      | _ => none
  | _ => none

/-- One step of the reader. -/
def Reader.step (reader : Reader) (token : Token) : Option Reader :=
  match reader.expect with
  | .value => Reader.start reader.levels token
  | .itemOrClose =>
      match token with
      | .closeArray => Reader.close reader.levels token
      | _ => Reader.start reader.levels token
  | .nameOrClose =>
      match token with
      | .scalar (.string name) => some ⟨reader.levels, .colon name⟩
      | _ => Reader.close reader.levels token
  | .name =>
      match token with
      | .scalar (.string name) => some ⟨reader.levels, .colon name⟩
      | _ => none
  | .colon name =>
      match token, reader.levels with
      | .colon, (level, _) :: rest => some ⟨(level, some name) :: rest, .value⟩
      | _, _ => none
  | .commaOrClose =>
      match token, reader.levels with
      | .comma, (.array _, _) :: _ => some ⟨reader.levels, .value⟩
      | .comma, (.object _, _) :: _ => some ⟨reader.levels, .name⟩
      | _, _ => Reader.close reader.levels token
  | .done _ => none

/-- The value of a text with the fields of its objects as they are written, repeated ones too. -/
def parseVerbatim? (text : String) : Option Json := do
  let tokens ← lex .between text.toList
  let reader ← tokens.foldlM Reader.step ⟨[], .value⟩
  match reader.expect with
  | .done value => some value
  | _ => none

/-- The normal value of a text. -/
def parse? (text : String) : Option Json :=
  (parseVerbatim? text).map normalize

end ChatGateway.Json
