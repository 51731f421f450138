import ChatGateway.Text.Blank
import ChatGateway.Text.Digit
import ChatGateway.Text.Search

/-!
# Markers

An image taken out of a conversation leaves a marker with a number and a note that tells the
model how to fetch it.  Markers of earlier turns are taken out of texts again.
-/

namespace ChatGateway.Marker

/-- The note before the id of an image. -/
def noteHead : String :=
  "This image was moved to an attachment. Call the lookup_attachment tool with image_id "

/-- The note after the id of an image. -/
def noteTail : String := " to view it."

/-- What a marker begins with. -/
def opening : String := "[Image #"

/-- The marker of an image, by its number in the turn and its id. -/
def text (number : Nat) (id : String) : String :=
  opening ++ toString number ++ "] " ++ noteHead ++ "\"" ++ id ++ "\"" ++ noteTail

/-- What follows a note with any quoted id. -/
def noteRest? (rest : List Char) : Option (List Char) := do
  let quoted ← Text.stripFront? (" " ++ noteHead ++ "\"").toList rest
  Text.stripFront? ("\"" ++ noteTail).toList (quoted.dropWhile (· ≠ '"'))

/-- What follows a marker at the front of a text, with its note if that is whole, and the blanks
after it. -/
def rest? (marked : List Char) : Option (List Char) := do
  let numbered ← Text.stripFront? opening.toList marked
  match numbered.head?.any Text.isDecimal, numbered.dropWhile Text.isDecimal with
  | true, ']' :: rest => some (((noteRest? rest).getD rest).dropWhile Text.isBlank)
  | _, _ => none

theorem length_dropWhile_le (drops : Char → Bool) (characters : List Char) :
    (characters.dropWhile drops).length ≤ characters.length :=
  (List.dropWhile_sublist drops).length_le

theorem length_le_of_noteRest? {rest after : List Char} (found : noteRest? rest = some after) :
    after.length ≤ rest.length := by
  simp only [noteRest?, bind, Option.bind_eq_some_iff] at found
  obtain ⟨quoted, front, tail⟩ := found
  have head := congrArg List.length (Text.eq_append_of_stripFront? front)
  have last := congrArg List.length (Text.eq_append_of_stripFront? tail)
  have dropped := length_dropWhile_le (· ≠ '"') quoted
  simp only [List.length_append] at head last
  omega

theorem length_lt_of_rest? {marked after : List Char} (found : rest? marked = some after) :
    after.length < marked.length := by
  simp only [rest?, bind, Option.bind_eq_some_iff] at found
  obtain ⟨numbered, front, tail⟩ := found
  have head := congrArg List.length (Text.eq_append_of_stripFront? front)
  have dropped := length_dropWhile_le Text.isDecimal numbered
  simp only [List.length_append] at head
  split at tail
  · rename_i rest _ closes
    simp only [Option.some.injEq] at tail
    have noted : ((noteRest? rest).getD rest).length ≤ rest.length := by
      cases note : noteRest? rest with
      | none => simp
      | some afterNote => simpa using length_le_of_noteRest? note
    have blanks := length_dropWhile_le Text.isBlank ((noteRest? rest).getD rest)
    rw [closes] at dropped
    simp only [List.length_cons] at dropped
    rw [← tail]
    omega
  · simp at tail

/-- A text without its markers, after what has been kept, the latest character first. -/
def stripFrom (kept : List Char) : List Char → List Char
  | [] => kept.reverse
  | character :: rest =>
      match _found : rest? (character :: rest) with
      | some after => stripFrom kept after
      | none => stripFrom (character :: kept) rest
termination_by marked => marked.length
decreasing_by
  · exact length_lt_of_rest? ‹_›
  · simp

/-- A text without its markers. -/
def strip (marked : String) : String := String.ofList (stripFrom [] marked.toList)

end ChatGateway.Marker
