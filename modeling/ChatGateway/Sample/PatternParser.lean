import ChatGateway.Json.Parser
import ChatGateway.Number.Word
import ChatGateway.Sample.Pattern
import ChatGateway.Text.Search

/-!
# Reading patterns

The text of a regular expression is read from left to right, with a stack of the groups that
are open.  Every step consumes at least one character, so as many steps as there are
characters are enough.

Of the properties of characters only general categories, scripts and blanks are known here; the
reader belongs to the sample toolkit.
-/

namespace ChatGateway.Pattern

/-- The switches that a pattern can turn on and off inside itself. -/
structure Flags where
  ignoreCase : Bool
  multiLine : Bool
  dotAll : Bool
  verbose : Bool
  /-- A carriage return ends a line, too. -/
  returns : Bool
  /-- Classes, words and case know ASCII only. -/
  ascii : Bool
  deriving DecidableEq, Repr, Inhabited

/-- All switches off. -/
def Flags.none : Flags := ⟨false, false, false, false, false, false⟩

/-- What words are made of. -/
def Flags.alphabet (flags : Flags) : Alphabet := if flags.ascii then .ascii else .unicode

/-- The greatest code point. -/
def lastCode : Nat := 0x10FFFF

/-- A set as it is meant under the switches: without regard to case if that is switched on. -/
def Flags.cased (flags : Flags) (set : CharSet) : CharSet :=
  if !flags.ignoreCase then set
  else if flags.ascii then .meet (.anyCase set) (.ranges [(0, 127)])
  else .anyCase set

/-- The set of one character. -/
def single (flags : Flags) (code : Nat) : CharSet := flags.cased (.ranges [(code, code)])

/-- Whether a number is the code point of a character. -/
def isCode (code : Nat) : Bool :=
  code < 0xD800 || (0xE000 ≤ code && code ≤ lastCode)

/-- The value of hexadecimal digits, if it is a code point. -/
def hexCode? (digits : List Char) : Option Nat :=
  if digits.isEmpty then none
  else
    (digits.foldlM (fun value digit => (Json.hexValue? digit).map fun unit => 16 * value + unit)
      0).filter isCode

/-- The code point after `\x`, `\u` or `\U`: so many digits, or digits in braces. -/
def codeEscape? (count : Nat) (text : List Char) : Option (Nat × List Char) :=
  match text with
  | '\x7b' :: rest =>
      let digits := rest.takeWhile (· ≠ '\x7d')
      match rest.dropWhile (· ≠ '\x7d') with
      | _ :: after => (hexCode? digits).map fun code => (code, after)
      | [] => Option.none
  | _ =>
      let digits := text.take count
      if digits.length = count then (hexCode? digits).map fun code => (code, text.drop count)
      else Option.none

/-- A name of a property as it is looked up: in small letters, without blanks and hyphens, and without
`is` at its front. -/
def plainName (name : List Char) : String :=
  let name := match name with
    | first :: second :: rest =>
        if first.toLower = 'i' ∧ second.toLower = 's' then rest else name
    | _ => name
  String.ofList ((name.filter fun character =>
    character.toNat < 128 && !([' ', '_', '-'].contains character)).map Char.toLower)

/-- The characters of the categories that a name stands for. -/
def categoryClass? (name : String) : Option CharSet :=
  match name with
  | "any" => some (.complement (.ranges []))
  | "assigned" => some (.complement (.category ["Cn"]))
  | "ascii" => some (.ranges [(0, 127)])
  | _ => (Text.categoriesOf? name).map .category

/-- The characters of the script that a name stands for. -/
def scriptClass? (name : String) : Option CharSet := (Text.scriptOf? name).map .script

/-- The class that a property has by itself: blanks, categories or a script. -/
def propertyClass? (name : String) : Option CharSet :=
  if ["whitespace", "wspace", "space"].contains name then some .blank
  else (categoryClass? name).or (scriptClass? name)

/-- The class of the characters for which a property has some value. -/
def valueClass? (property value : String) : Option CharSet :=
  if ["gc", "generalcategory"].contains property then categoryClass? value
  else if ["sc", "script"].contains property then scriptClass? value
  else Option.none

/-- The class that a text between braces names: a property, or a property with its value. -/
def namedClass? (name : List Char) : Option CharSet :=
  match Text.cut? ['!', '='] name with
  | some (property, value) =>
      (valueClass? (plainName property) (plainName value)).map .complement
  | Option.none =>
      match (Text.cut? [':'] name).or (Text.cut? ['='] name) with
      | some (property, value) => valueClass? (plainName property) (plainName value)
      | Option.none => propertyClass? (plainName name)

/-- The class after `\p`: one letter or a name in braces. -/
def classEscape? (text : List Char) : Option (CharSet × List Char) :=
  match text with
  | '\x7b' :: rest =>
      match rest.dropWhile (· ≠ '\x7d') with
      | _ :: after =>
          (namedClass? (rest.takeWhile (· ≠ '\x7d'))).map fun set => (set, after)
      | [] => Option.none
  | letter :: rest => (propertyClass? (plainName [letter])).map fun set => (set, rest)
  | [] => Option.none

/-- What an escape stands for. -/
inductive Escape where
  | code (code : Nat)
  | set (set : CharSet)
  | place (place : Place)

/-- A character that may always be escaped: any of ASCII that is no letter, digit or angle bracket. -/
def isEscapable (character : Char) : Bool :=
  character.toNat < 128 && !character.isAlphanum && character ≠ '<' && character ≠ '>'

/-- A class after a backslash that is one letter; the capital letter stands for all else, which is more
than ASCII. -/
def letterClass? (flags : Flags) (letter : Char) : Option CharSet :=
  let chosen (unicode : CharSet) (ascii : List (Nat × Nat)) : CharSet :=
    if flags.ascii then .ranges ascii else unicode
  let found :=
    if letter.toLower = 'd' then some (chosen .decimal [(48, 57)])
    else if letter.toLower = 's' then some (chosen .blank [(9, 13), (32, 32)])
    else if letter.toLower = 'w' then
      some (chosen .word [(48, 57), (65, 90), (95, 95), (97, 122)])
    else Option.none
  if letter.isUpper then
    if flags.ascii then Option.none else found.map .complement
  else found

/-- The class of a property after a backslash and the letter that asks for it or for all else. -/
def propertyEscape? (flags : Flags) (letter : Char) (text : List Char) :
    Option (CharSet × List Char) :=
  if flags.ascii then Option.none
  else
    (classEscape? text).map fun found =>
      let set := flags.cased found.1
      (if letter = 'P' then .complement set else set, found.2)

/-- The boundary that a name in braces stands for. -/
def namedBoundary? (alphabet : Alphabet) (name : String) : Option Place :=
  match name with
  | "start" => some (.wordStart alphabet)
  | "end" => some (.wordEnd alphabet)
  | "start-half" => some (.noWordBefore alphabet)
  | "end-half" => some (.noWordAfter alphabet)
  | _ => Option.none

/-- The boundary after `\b`.  A brace that no letter follows is left for a repetition. -/
def boundary? (alphabet : Alphabet) (text : List Char) : Option (Place × List Char) :=
  let isNamePart (character : Char) : Bool := character.isAlpha || character = '-'
  match text with
  | '\x7b' :: rest =>
      if rest.head?.any isNamePart then
        match rest.dropWhile isNamePart with
        | '\x7d' :: after =>
            (namedBoundary? alphabet (String.ofList (rest.takeWhile isNamePart))).map fun asked =>
              (asked, after)
        | _ => Option.none
      else some (.wordBoundary alphabet, text)
  | _ => some (.wordBoundary alphabet, text)

/-- A code point that is written with digits.  One beyond ASCII in two digits would be a part of a
character where only ASCII is known. -/
def digitsEscape? (flags : Flags) (count : Nat) (text : List Char) : Option (Escape × List Char) :=
  match codeEscape? count text with
  | some (code, rest) =>
      if flags.ascii ∧ count = 2 ∧ text.head? ≠ some '\x7b' ∧ 127 < code then Option.none
      else some (.code code, rest)
  | Option.none => Option.none

/-- What stands after a backslash. -/
def escape? (flags : Flags) (text : List Char) : Option (Escape × List Char) :=
  let alphabet := flags.alphabet
  match text with
  | [] => Option.none
  | 'p' :: rest => (propertyEscape? flags 'p' rest).map fun found => (.set found.1, found.2)
  | 'P' :: rest => (propertyEscape? flags 'P' rest).map fun found => (.set found.1, found.2)
  | 'b' :: rest => (boundary? alphabet rest).map fun found => (.place found.1, found.2)
  | 'B' :: rest => some (.place (.noWordBoundary alphabet), rest)
  | '<' :: rest => some (.place (.wordStart alphabet), rest)
  | '>' :: rest => some (.place (.wordEnd alphabet), rest)
  | 'A' :: rest => some (.place .textStart, rest)
  | 'z' :: rest => some (.place .textEnd, rest)
  | 'a' :: rest => some (.code 7, rest)
  | 'f' :: rest => some (.code 12, rest)
  | 't' :: rest => some (.code 9, rest)
  | 'n' :: rest => some (.code 10, rest)
  | 'r' :: rest => some (.code 13, rest)
  | 'v' :: rest => some (.code 11, rest)
  | 'x' :: rest => digitsEscape? flags 2 rest
  | 'u' :: rest => digitsEscape? flags 4 rest
  | 'U' :: rest => digitsEscape? flags 8 rest
  | character :: rest =>
      match letterClass? flags character with
      | some set => some (.set set, rest)
      | Option.none =>
          if isEscapable character then some (.code character.toNat, rest) else Option.none

/-! ## Bracketed classes -/

/-- The classes that are written `[:name:]`. -/
def posixClass? (name : String) : Option (List (Nat × Nat)) :=
  match name with
  | "alnum" => some [(48, 57), (65, 90), (97, 122)]
  | "alpha" => some [(65, 90), (97, 122)]
  | "ascii" => some [(0, 127)]
  | "blank" => some [(9, 9), (32, 32)]
  | "cntrl" => some [(0, 31), (127, 127)]
  | "digit" => some [(48, 57)]
  | "graph" => some [(33, 126)]
  | "lower" => some [(97, 122)]
  | "print" => some [(32, 126)]
  | "punct" => some [(33, 47), (58, 64), (91, 96), (123, 126)]
  | "space" => some [(9, 13), (32, 32)]
  | "upper" => some [(65, 90)]
  | "word" => some [(48, 57), (65, 90), (95, 95), (97, 122)]
  | "xdigit" => some [(48, 57), (65, 70), (97, 102)]
  | _ => Option.none

/-- How the part of a class that is being read joins what came before it. -/
inductive Join where
  | meet
  | difference
  | symmetric
  deriving DecidableEq, Repr

/-- A class that is being read: whether it is negated, the operand on the left with its operator,
and the set of the items read so far. -/
structure OpenClass where
  negated : Bool
  left : Option (CharSet × Join)
  items : CharSet

/-- The set of nothing. -/
def noCharacters : CharSet := .ranges []

/-- Joins the items read so far to the operand on the left. -/
def OpenClass.joined (level : OpenClass) : CharSet :=
  match level.left with
  | Option.none => level.items
  | some (left, .meet) => .meet left level.items
  | some (left, .difference) => .meet left (.complement level.items)
  | some (left, .symmetric) =>
      .union (.meet left (.complement level.items)) (.meet (.complement left) level.items)

/-- The set of a class whose end has been read. -/
def OpenClass.finished (level : OpenClass) : CharSet :=
  if level.negated then .complement level.joined else level.joined

/-- Adds a set to the items. -/
def OpenClass.add (level : OpenClass) (set : CharSet) : OpenClass :=
  { level with items := .union level.items set }

/-- A range of code points as a set. -/
def rangeSet (flags : Flags) (first last : Nat) : CharSet := flags.cased (.ranges [(first, last)])

/-- What a class begins with: a caret, hyphens that stand for themselves, and a bracket that does
where nothing came before it. -/
def openClass (text : List Char) : OpenClass × List Char :=
  let (negated, text) := match text with
    | '^' :: rest => (true, rest)
    | rest => (false, rest)
  let hyphens := text.takeWhile (· = '-')
  let text := text.dropWhile (· = '-')
  let items := if hyphens.isEmpty then noCharacters else .ranges [(45, 45)]
  match text with
  | ']' :: rest =>
      if hyphens.isEmpty then (⟨negated, Option.none, .ranges [(93, 93)]⟩, rest)
      else (⟨negated, Option.none, items⟩, text)
  | _ => (⟨negated, Option.none, items⟩, text)

/-- A single character or a class inside brackets.  Where only ASCII is known, no other character may
stand there. -/
def classAtom? (flags : Flags) (text : List Char) : Option ((Nat ⊕ CharSet) × List Char) :=
  let atom (code : Nat) (rest : List Char) : Option ((Nat ⊕ CharSet) × List Char) :=
    if flags.ascii ∧ 127 < code then Option.none else some (.inl code, rest)
  match text with
  | '\\' :: rest =>
      match escape? flags rest with
      | some (.code code, rest) => atom code rest
      | some (.set set, rest) => some (.inr set, rest)
      | _ => Option.none
  | character :: rest => atom character.toNat rest
  | [] => Option.none

/-- A class `[:name:]` or `[:^name:]` at the front of a text. -/
def posixAtom? (flags : Flags) (text : List Char) : Option (CharSet × List Char) :=
  match text with
  | '[' :: ':' :: rest =>
      let (negated, rest) := match rest with
        | '^' :: rest => (true, rest)
        | rest => (false, rest)
      let name := rest.takeWhile fun character => character.isAlpha
      match rest.dropWhile fun character => character.isAlpha with
      | ':' :: ']' :: after =>
          (posixClass? (String.ofList name)).map fun ranges =>
            let set := flags.cased (.ranges ranges)
            (if negated then .complement set else set, after)
      | _ => Option.none
  | _ => Option.none

/-- One item of a class: a character, a range or an escaped class. -/
def classItem? (flags : Flags) (text : List Char) : Option (CharSet × List Char) :=
  match classAtom? flags text with
  | Option.none => Option.none
  | some (.inr set, rest) =>
      match rest with
      | '-' :: ']' :: _ => some (set, rest)
      | '-' :: '-' :: _ => some (set, rest)
      | '-' :: _ => Option.none
      | _ => some (set, rest)
  | some (.inl first, rest) =>
      match rest with
      | '-' :: ']' :: _ => some (single flags first, rest)
      | '-' :: '-' :: _ => some (single flags first, rest)
      | '-' :: rest =>
          match classAtom? flags rest with
          | some (.inl last, rest) =>
              if first ≤ last then some (rangeSet flags first last, rest) else Option.none
          | _ => Option.none
      | _ => some (single flags first, rest)

/-- The set of a class after its opening bracket, and what follows its end. -/
def readClass? (flags : Flags) :
    Nat → OpenClass → List OpenClass → List Char → Option (CharSet × List Char)
  | 0, _, _, _ => Option.none
  | steps + 1, level, outer, text =>
      match text with
      | [] => Option.none
      | ']' :: rest =>
          match outer with
          | [] => some (level.finished, rest)
          | parent :: outer => readClass? flags steps (parent.add level.finished) outer rest
      | '&' :: '&' :: rest =>
          readClass? flags steps ⟨level.negated, some (level.joined, .meet), noCharacters⟩ outer rest
      | '-' :: '-' :: rest =>
          readClass? flags steps ⟨level.negated, some (level.joined, .difference), noCharacters⟩
            outer rest
      | '~' :: '~' :: rest =>
          readClass? flags steps ⟨level.negated, some (level.joined, .symmetric), noCharacters⟩
            outer rest
      | '[' :: rest =>
          match posixAtom? flags text with
          | some (set, rest) => readClass? flags steps (level.add set) outer rest
          | Option.none =>
              let (child, rest) := openClass rest
              readClass? flags steps child (level :: outer) rest
      | text =>
          if flags.verbose ∧ text.head?.any Text.isBlank then
            readClass? flags steps level outer (text.drop 1)
          else
            match classItem? flags text with
            | some (set, rest) => readClass? flags steps (level.add set) outer rest
            | Option.none => Option.none

/-! ## Groups and repetitions -/

/-- A group that is being read.  Alternatives and items stand last first; an item without a pattern
is a change of switches. -/
structure Group where
  flags : Flags
  alternatives : List Pattern
  items : List (Option Pattern)

/-- The pattern of the items of one alternative. -/
def joinItems (items : List (Option Pattern)) : Pattern :=
  items.foldl (fun rest item =>
    match item with
    | some pattern => .sequence pattern rest
    | Option.none => rest) .empty

/-- The pattern of a group. -/
def Group.finished (group : Group) : Pattern :=
  group.alternatives.foldl (fun rest alternative => .either alternative rest)
    (joinItems group.items)

/-- Adds a pattern. -/
def Group.add (group : Group) (pattern : Pattern) : Group :=
  { group with items := some pattern :: group.items }

/-- Repeats the last item, which has to be a pattern. -/
def Group.repeatLast? (group : Group) (least : Nat) (greatest : Option Nat) : Option Group :=
  match group.items with
  | some pattern :: rest =>
      some { group with items := some (.repeated least greatest pattern) :: rest }
  | _ => Option.none

/-- A repetition mark may be followed by one that prefers short matches. -/
def dropLazy : List Char → List Char
  | '?' :: rest => rest
  | text => text

/-- A number of repetitions, with blanks around it. -/
def count? (text : List Char) : Option (Nat × List Char) :=
  let text := text.dropWhile Text.isBlank
  let (digits, rest) := Json.spanDigits text
  if digits.isEmpty then Option.none
  else
    let value := Json.digitsValue digits
    if Word.fits 32 value then some (value, rest.dropWhile Text.isBlank) else Option.none

/-- The bounds of a repetition after its opening brace, and what follows. -/
def bounds? (text : List Char) : Option (Nat × Option Nat × List Char) := do
  let (least, rest) ← count? text
  match rest with
  | '\x7d' :: rest => some (least, some least, rest)
  | ',' :: rest =>
      match rest.dropWhile Text.isBlank with
      | '\x7d' :: rest => some (least, Option.none, rest)
      | rest => do
          let (greatest, rest) ← count? rest
          match rest with
          | '\x7d' :: rest =>
              if least ≤ greatest then some (least, some greatest, rest) else Option.none
          | _ => Option.none
  | _ => Option.none

/-- Switches after `(?`, up to a colon or the closing parenthesis.  `seen` holds those already
named. -/
def readFlags? (flags : Flags) (negating : Bool) (seen : List Char) :
    List Char → Option (Flags × Char × List Char)
  | [] => Option.none
  | character :: rest =>
      if character = ':' ∨ character = ')' then
        if negating ∧ seen.head? = some '-' then Option.none else some (flags, character, rest)
      else if seen.contains character then Option.none
      else if character = '-' then readFlags? flags true (character :: seen) rest
      else
        let seen := character :: seen
        let on := !negating
        if character = 'i' then readFlags? { flags with ignoreCase := on } negating seen rest
        else if character = 'm' then readFlags? { flags with multiLine := on } negating seen rest
        else if character = 's' then readFlags? { flags with dotAll := on } negating seen rest
        else if character = 'x' then readFlags? { flags with verbose := on } negating seen rest
        else if character = 'R' then readFlags? { flags with returns := on } negating seen rest
        else if character = 'u' then readFlags? { flags with ascii := negating } negating seen rest
        else if character = 'U' then readFlags? flags negating seen rest
        else Option.none

/-- A character of a group's name. -/
def isNameCharacter (isFirst : Bool) (character : Char) : Bool :=
  character = '_' || Text.isLetter character ||
    (!isFirst && (character = '.' || character = '[' || character = ']' ||
      Text.isNumber character))

/-- A group's name up to the closing angle bracket. -/
def groupName? (text : List Char) : Option (List Char × List Char) :=
  let name := text.takeWhile (· ≠ '>')
  match text.dropWhile (· ≠ '>'), name with
  | _ :: rest, first :: others =>
      if isNameCharacter true first ∧ others.all (isNameCharacter false) then some (name, rest)
      else Option.none
  | _, _ => Option.none

/-- What is known while reading: the open groups, innermost first, and the names given so far. -/
structure Reading where
  group : Group
  outer : List Group
  names : List (List Char)

/-- Opens a group. -/
def Reading.enter (reading : Reading) (flags : Flags) : Reading :=
  { reading with group := ⟨flags, [], []⟩, outer := reading.group :: reading.outer }

/-- Reads what stands after an opening parenthesis. -/
def readOpening? (reading : Reading) (text : List Char) : Option (Reading × List Char) :=
  let flags := reading.group.flags
  let named (text : List Char) : Option (Reading × List Char) :=
    match groupName? text with
    | some (name, rest) =>
        if reading.names.contains name then Option.none
        else some ({ reading.enter flags with names := name :: reading.names }, rest)
    | Option.none => Option.none
  match text with
  | '?' :: 'P' :: '<' :: rest => named rest
  | '?' :: '<' :: '=' :: _ => Option.none
  | '?' :: '<' :: '!' :: _ => Option.none
  | '?' :: '<' :: rest => named rest
  | '?' :: rest =>
      match readFlags? flags false [] rest with
      | some (flags, ':', rest) => some (reading.enter flags, rest)
      | some (changed, _, after) =>
          if rest.head? = some ')' then Option.none
          else
            some ({ reading with
              group := { reading.group with
                flags := changed, items := Option.none :: reading.group.items } }, after)
      | Option.none => Option.none
  | _ => some (reading.enter flags, text)

/-- The characters that a dot does not stand for. -/
def Flags.undotted (flags : Flags) : CharSet :=
  if flags.dotAll then noCharacters
  else if flags.returns then .ranges [(10, 10), (13, 13)]
  else .ranges [(10, 10)]

/-- Where a caret matches. -/
def Flags.lineStart (flags : Flags) : Place :=
  if !flags.multiLine then .textStart else if flags.returns then .returnStart else .lineStart

/-- Where a dollar sign matches. -/
def Flags.lineEnd (flags : Flags) : Place :=
  if !flags.multiLine then .textEnd else if flags.returns then .returnEnd else .lineEnd

/-- Whether a set holds a code point of one byte beyond ASCII. -/
def passesAscii (set : CharSet) : Bool :=
  (List.range 128).any fun code => set.contains (Char.ofNat (128 + code))

/-- Reads one part of a pattern. -/
def readStep? (reading : Reading) (text : List Char) : Option (Reading × List Char) :=
  let group := reading.group
  let flags := group.flags
  let add (pattern : Pattern) (rest : List Char) : Option (Reading × List Char) :=
    some ({ reading with group := group.add pattern }, rest)
  let addCode (code : Nat) (rest : List Char) : Option (Reading × List Char) :=
    if flags.ascii ∧ flags.ignoreCase ∧ 127 < code then Option.none
    else add (.characters (single flags code)) rest
  let again (least : Nat) (greatest : Option Nat) (rest : List Char) :
      Option (Reading × List Char) :=
    (group.repeatLast? least greatest).map fun group => ({ reading with group }, dropLazy rest)
  match text with
  | [] => Option.none
  | '(' :: rest => readOpening? reading rest
  | ')' :: rest =>
      match reading.outer with
      | [] => Option.none
      | parent :: outer =>
          some ({ reading with group := parent.add group.finished, outer }, rest)
  | '|' :: rest =>
      some ({ reading with
        group := { group with alternatives := joinItems group.items :: group.alternatives,
                              items := [] } }, rest)
  | '[' :: rest =>
      let (level, rest) := openClass rest
      match readClass? flags (rest.length + 1) level [] rest with
      | some (set, rest) =>
          if flags.ascii ∧ passesAscii set then Option.none else add (.characters set) rest
      | Option.none => Option.none
  | '?' :: rest => again 0 (some 1) rest
  | '*' :: rest => again 0 Option.none rest
  | '+' :: rest => again 1 Option.none rest
  | '\x7b' :: rest =>
      match bounds? rest with
      | some (least, greatest, rest) => again least greatest rest
      | Option.none => Option.none
  | '\\' :: rest =>
      match escape? flags rest with
      | some (.code code, rest) => addCode code rest
      | some (.set set, rest) => add (.characters set) rest
      | some (.place asked, rest) => add (.place asked) rest
      | Option.none => Option.none
  | '.' :: rest =>
      if flags.ascii then Option.none else add (.characters (.complement flags.undotted)) rest
  | '^' :: rest => add (.place flags.lineStart) rest
  | '$' :: rest => add (.place flags.lineEnd) rest
  | character :: rest =>
      if flags.verbose ∧ Text.isBlank character then some (reading, rest)
      else if flags.verbose ∧ character = '#' then
        some (reading, rest.dropWhile (· ≠ '\n'))
      else addCode character.toNat rest

/-- Reads a pattern to its end. -/
def readAll? : Nat → Reading → List Char → Option Pattern
  | _, reading, [] => if reading.outer.isEmpty then some reading.group.finished else Option.none
  | 0, _, _ => Option.none
  | steps + 1, reading, text =>
      match readStep? reading text with
      | some (reading, rest) => readAll? steps reading rest
      | Option.none => Option.none

/-- The pattern that a text spells, or nothing where it spells none. -/
def parse? (text : String) : Option Pattern :=
  let characters := text.toList
  readAll? characters.length ⟨⟨Flags.none, [], []⟩, [], []⟩ characters

/-- Whether a text has a part that a pattern describes. -/
def compile (pattern : String) : Except String (String → Bool) :=
  match parse? pattern with
  | some parsed => .ok parsed.matchesIn
  | none => .error "regex parse error:"

theorem compile_of_isSome {pattern : String} (parsed : (parse? pattern).isSome = true) :
    compile pattern = .ok ((parse? pattern).get parsed).matchesIn := by
  obtain ⟨result, own⟩ := Option.isSome_iff_exists.mp parsed
  simp only [compile, own, Option.get_some]

end ChatGateway.Pattern
