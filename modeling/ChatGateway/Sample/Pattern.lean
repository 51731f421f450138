import ChatGateway.Sample.Category
import ChatGateway.Sample.Letter
import ChatGateway.Sample.Script
import ChatGateway.Text.Blank

/-!
# Text patterns

Regular expressions without look-around and back references, and whether a text has a part
that one of them describes.  They belong to the sample toolkit.
-/

namespace ChatGateway

namespace Pattern

/-- A set of characters. -/
inductive CharSet where
  /-- The code points of some ranges. -/
  | ranges (ranges : List (Nat × Nat))
  | blank
  | decimal
  | word
  /-- The characters of some general categories. -/
  | category (names : List String)
  /-- The characters of a script. -/
  | script (name : String)
  /-- A set and all that differs from its members only in case. -/
  | anyCase (set : CharSet)
  | complement (set : CharSet)
  | union (left right : CharSet)
  | meet (left right : CharSet)
  deriving Repr, Inhabited

/-- Whether a character is in a set. -/
def CharSet.contains : CharSet → Char → Bool
  | .ranges pairs, character => Text.inRanges pairs character.toNat
  | .blank, character => Text.isBlank character
  | .decimal, character => Text.isDecimal character
  | .word, character => Text.isWordCharacter character
  | .category names, character => names.contains (Text.category character)
  | .script name, character => Text.script character == name
  | .anyCase set, character =>
      (Text.caseForms character.toNat).any fun code => set.contains (Char.ofNat code)
  | .complement set, character => !set.contains character
  | .union left right, character => left.contains character || right.contains character
  | .meet left right, character => left.contains character && right.contains character

/-- Which characters words are made of. -/
inductive Alphabet where
  | unicode
  /-- Letters and digits of ASCII and the low line. -/
  | ascii
  deriving DecidableEq, Repr, Inhabited

/-- Whether words are made of a character. -/
def Alphabet.holds : Alphabet → Char → Bool
  | .unicode, character => Text.isWordCharacter character
  | .ascii, character => character.isAlphanum || character = '_'

/-- What a place in a text is asked to be. -/
inductive Place where
  | textStart
  | textEnd
  | lineStart
  | lineEnd
  /-- Where a line begins if a carriage return, too, ends one. -/
  | returnStart
  /-- Where a line ends if a carriage return, too, ends one. -/
  | returnEnd
  | wordBoundary (alphabet : Alphabet)
  | noWordBoundary (alphabet : Alphabet)
  | wordStart (alphabet : Alphabet)
  | wordEnd (alphabet : Alphabet)
  /-- No word comes before the place. -/
  | noWordBefore (alphabet : Alphabet)
  /-- No word comes after the place. -/
  | noWordAfter (alphabet : Alphabet)
  deriving DecidableEq, Repr, Inhabited

/-- Whether a place lies between two characters, absent at the ends of the text. -/
def Place.lies (before after : Option Char) : Place → Bool
  | .textStart => before.isNone
  | .textEnd => after.isNone
  | .lineStart => before.all (· = '\n')
  | .lineEnd => after.all (· = '\n')
  | .returnStart => before.all (· = '\n') || (before = some '\r' && after != some '\n')
  | .returnEnd => after.all (· = '\r') || (after = some '\n' && before != some '\r')
  | .wordBoundary alphabet => before.any alphabet.holds != after.any alphabet.holds
  | .noWordBoundary alphabet => before.any alphabet.holds == after.any alphabet.holds
  | .wordStart alphabet => !before.any alphabet.holds && after.any alphabet.holds
  | .wordEnd alphabet => before.any alphabet.holds && !after.any alphabet.holds
  | .noWordBefore alphabet => !before.any alphabet.holds
  | .noWordAfter alphabet => !after.any alphabet.holds

end Pattern

/-- A regular expression. -/
inductive Pattern where
  | empty
  | characters (set : Pattern.CharSet)
  | place (place : Pattern.Place)
  | sequence (first second : Pattern)
  | either (left right : Pattern)
  /-- At least so many times, and at most so many where a second number is given. -/
  | repeated (least : Nat) (greatest : Option Nat) (pattern : Pattern)
  deriving Repr, Inhabited

namespace Pattern

/-- Adds a position to an increasing list of positions. -/
def addPosition (position : Nat) : List Nat → List Nat
  | [] => [position]
  | other :: rest =>
      if position < other then position :: other :: rest
      else if position = other then other :: rest
      else other :: addPosition position rest

/-- The positions of either list. -/
def unite (left right : List Nat) : List Nat :=
  left.foldl (fun positions position => addPosition position positions) right

/-- A step made so many times. -/
def times (step : List Nat → List Nat) : Nat → List Nat → List Nat
  | 0, positions => positions
  | count + 1, positions => if positions.isEmpty then [] else times step count (step positions)

/-- A step made at most so many times. -/
def upTo (step : List Nat → List Nat) : Nat → List Nat → List Nat
  | 0, positions => positions
  | count + 1, positions => upTo step count (unite (step positions) positions)

/-- The positions at which a match can end that begins at one of some positions. -/
def follow (text : Array Char) : Pattern → List Nat → List Nat
  | .empty, positions => positions
  | .characters set, positions =>
      (positions.filter fun position => text[position]?.any set.contains).map (· + 1)
  | .place asked, positions =>
      positions.filter fun position =>
        asked.lies (if position = 0 then none else text[position - 1]?) text[position]?
  | .sequence first second, positions => follow text second (follow text first positions)
  | .either left right, positions => unite (follow text left positions) (follow text right positions)
  | .repeated least greatest pattern, positions =>
      let step := follow text pattern
      let more := match greatest with
        | some greatest => min (greatest - least) (text.size + 1)
        | none => text.size + 1
      upTo step more (times step least positions)

/-- Whether some part of the text matches. -/
def matchesIn (pattern : Pattern) (text : String) : Bool :=
  let characters := text.toList.toArray
  !(follow characters pattern (List.range (characters.size + 1))).isEmpty

end Pattern

end ChatGateway
