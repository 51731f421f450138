/-!
# Searching texts

Texts are searched from the left for the first place where another text begins.
-/

namespace ChatGateway.Text

/-- What follows a text at the front of another one. -/
def stripFront? : List Char → List Char → Option (List Char)
  | [], text => some text
  | _ :: _, [] => none
  | wanted :: needle, character :: text =>
      if wanted = character then stripFront? needle text else none

theorem eq_append_of_stripFront? {needle text rest : List Char}
    (found : stripFront? needle text = some rest) : text = needle ++ rest := by
  induction needle generalizing text with
  | nil => simpa [stripFront?] using found
  | cons wanted needle inductionHypothesis =>
    cases text with
    | nil => simp [stripFront?] at found
    | cons character text =>
      rw [stripFront?] at found
      split at found
      · rename_i same
        rw [same, inductionHypothesis found, List.cons_append]
      · simp at found

/-- What stands before and after the first occurrence of a text, given what has been passed by,
the latest character first. -/
def cutFrom? (needle passed : List Char) : List Char → Option (List Char × List Char)
  | [] => if needle.isEmpty then some (passed.reverse, []) else none
  | character :: rest =>
      match stripFront? needle (character :: rest) with
      | some after => some (passed.reverse, after)
      | none => cutFrom? needle (character :: passed) rest

/-- What stands before and after the first occurrence of a text. -/
def cut? (needle text : List Char) : Option (List Char × List Char) := cutFrom? needle [] text

/-- What stands before and after the last occurrence of a text. -/
def cutLast? (needle : List Char) (text : List Char) : Option (List Char × List Char) :=
  (cut? needle.reverse text.reverse).map fun parts => (parts.2.reverse, parts.1.reverse)

/-- What stands before and after the first occurrence of a text in a string. -/
def splitAt? (needle text : String) : Option (String × String) :=
  (cut? needle.toList text.toList).map fun parts =>
    (String.ofList parts.1, String.ofList parts.2)

/-- What stands before and after the last occurrence of a text in a string. -/
def splitAtLast? (needle text : String) : Option (String × String) :=
  (cutLast? needle.toList text.toList).map fun parts =>
    (String.ofList parts.1, String.ofList parts.2)

/-- Whether a text occurs in a string. -/
def contains (needle text : String) : Bool :=
  (cut? needle.toList text.toList).isSome

/-- Puts a character before what has been cut so far. -/
def piecesStep (separator character : Char) (cut : List (List Char)) : List (List Char) :=
  if character = separator then [] :: cut
  else
    match cut with
    | [] => [[character]]
    | first :: others => (character :: first) :: others

/-- The text between separators, at least one piece. -/
def pieces (separator : Char) (text : List Char) : List (List Char) :=
  text.foldr (piecesStep separator) [[]]

end ChatGateway.Text
