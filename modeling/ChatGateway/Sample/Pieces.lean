import ChatGateway.Sample.Letter
import ChatGateway.Text.Blank

/-!
# Pieces of a text

Before tokens are counted a text is cut into pieces: words with a mark before them, groups of up
to three digits, runs of marks, and blanks.  No token spans two pieces, so a vocabulary has to say
only of how many tokens a piece is made.  The pieces belong to the sample toolkit.
-/

namespace ChatGateway.Tokens

/-- A line feed or a carriage return. -/
def isLineEnd (character : Char) : Bool := character = '\n' || character = '\r'

/-- Neither a letter nor a number nor a blank. -/
def isMark (character : Char) : Bool :=
  !(Text.isBlank character || Text.isLetter character || Text.isNumber character)

/-- Whether a character is this letter or differs from it only in case. -/
def isLetterLike (letter character : Char) : Bool :=
  (Text.caseForms character.toNat).contains letter.toNat

/-- The endings that a word may have after an apostrophe. -/
def contractions : List (List Char) :=
  [['s'], ['d'], ['m'], ['t'], ['l', 'l'], ['v', 'e'], ['r', 'e']]

/-- Whether a text begins with some letters, in any case. -/
def beginsWith (letters text : List Char) : Bool :=
  letters.length ≤ text.length && (letters.zip text).all fun pair => isLetterLike pair.1 pair.2

/-- The length of the run of characters at the front that belong to a class. -/
def runLength (inClass : Char → Bool) (text : List Char) : Nat := (text.takeWhile inClass).length

/-- The length of a run of marks and of the line ends after it. -/
def marksExtent (text : List Char) : Nat :=
  let marks := runLength isMark text
  marks + runLength isLineEnd (text.drop marks)

/-- How many characters after a first blank belong to its piece.  A run of blanks with a line end
goes up to the last one.  Another run leaves its last blank to the word that follows. -/
def blanksExtent (first : Char) (rest : List Char) : Nat :=
  let run := rest.takeWhile Text.isBlank
  let afterLineEnd := runLength (fun character => !isLineEnd character) (first :: run).reverse
  if afterLineEnd ≤ run.length then run.length - afterLineEnd
  else if rest.length = run.length then run.length
  else run.length - 1

/-- How many characters after the first one belong to the first piece of a text. -/
def extent (first : Char) (rest : List Char) : Nat :=
  let contraction :=
    if first = '\'' then contractions.find? fun letters => beginsWith letters rest else none
  match contraction with
  | some letters => letters.length
  | none =>
      if Text.isLetter first then runLength Text.isLetter rest
      else if Text.isNumber first then runLength Text.isNumber (rest.take 2)
      else if !isLineEnd first && rest.head?.any Text.isLetter then runLength Text.isLetter rest
      else if isMark first || (first = ' ' && rest.head?.any isMark) then marksExtent rest
      else blanksExtent first rest

/-- Adds up what `weigh` says of every piece of a text. -/
def weighPieces (weigh : List Char → Nat) (total : Nat) : List Char → Nat
  | [] => total
  | first :: rest =>
      let length := extent first rest
      weighPieces weigh (total + weigh (first :: rest.take length)) (rest.drop length)
termination_by text => text.length
decreasing_by
  simp only [List.length_drop, List.length_cons]
  omega

end ChatGateway.Tokens
