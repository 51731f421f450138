import ChatGateway.Config.Error
import ChatGateway.Dictionary

/-!
# Variables in configuration texts

A reference `${NAME}` stands for the value of an environment variable.  Values are put in as they
are and not read again.
-/

namespace ChatGateway.Config

/-- Part of a configuration text. -/
inductive Segment where
  | text (characters : List Char)
  | reference (name : List Char)
  deriving DecidableEq, Repr, Inhabited

/-- A character that may begin the name of a variable. -/
def startsName (character : Char) : Bool := character.isUpper || character = '_'

/-- A character of a variable's name. -/
def inName (character : Char) : Bool := startsName character || character.isDigit

/-- The name of a reference at the front of a text, and what follows the reference. -/
def reference? : List Char → Option (List Char × List Char)
  | '$' :: '\x7b' :: rest =>
      let name := rest.takeWhile inName
      match rest.dropWhile inName with
      | '\x7d' :: after => if name.head?.any startsName then some (name, after) else none
      | _ => none
  | _ => none

theorem length_of_reference? {text name after : List Char}
    (found : reference? text = some (name, after)) : after.length < text.length := by
  unfold reference? at found
  split at found
  · rename_i rest
    simp only at found
    split at found
    · rename_i tail equal
      split at found
      · simp only [Option.some.injEq, Prod.mk.injEq] at found
        have shorter : (rest.dropWhile inName).length ≤ rest.length :=
          (List.dropWhile_sublist inName).length_le
        rw [equal] at shorter
        rw [← found.2]
        simp only [List.length_cons] at shorter ⊢
        omega
      · cases found
    · cases found
  · cases found

/-- The references of a text, leftmost first, and the text between them. -/
def segments : List Char → List Segment
  | [] => []
  | character :: rest =>
      match _found : reference? (character :: rest) with
      | some (name, after) => .reference name :: segments after
      | none =>
          match segments rest with
          | .text characters :: others => .text (character :: characters) :: others
          | others => .text [character] :: others
termination_by text => text.length
decreasing_by
  · exact length_of_reference? (by assumption)
  · simp

/-- The text with every reference replaced, or the first name that has no value. -/
def fill (environment : Dictionary String) : List Segment → Except LoadError (List Char)
  | [] => .ok []
  | .text characters :: rest => (fill environment rest).map fun filled => characters ++ filled
  | .reference name :: rest =>
      match Dictionary.get? (String.ofList name) environment with
      | some value => (fill environment rest).map fun filled => value.toList ++ filled
      | none => .error (.missingVariable (String.ofList name))

/-- Replaces the references of a text. -/
def interpolate (environment : Dictionary String) (text : String) : Except LoadError String :=
  (fill environment (segments text.toList)).map String.ofList

end ChatGateway.Config
