import ChatGateway.Json.Parser
import ChatGateway.Json.Printer
import ChatGateway.Text.Blank
import ChatGateway.Text.Search

/-!
# Repairing tool arguments

Models sometimes write arguments inside a code fence, with a comma too many, or without the
last closing braces.  Such a text is repaired where one of these changes makes it JSON.
-/

namespace ChatGateway.ToolRepair

/-- What follows a text at the front of another one. -/
def stripStart? (start : String) (text : List Char) : Option (List Char) :=
  Text.stripFront? start.toList text

/-- What comes before a text at the end of another one. -/
def stripEnd? (finish : String) (text : List Char) : Option (List Char) :=
  (Text.stripFront? finish.toList.reverse text.reverse).map List.reverse

/-- A text without the code fence around it. -/
def unfence (text : List Char) : List Char :=
  match (stripStart? "```json" text).or (stripStart? "```" text) with
  | none => text
  | some inside => ((stripEnd? "```" inside).map Text.trimChars).getD text

/-- A bracket or brace that closes. -/
def isCloser (character : Char) : Bool := character = '\x7d' || character = ']'

/-- A text without the commas that only blanks separate from a closing bracket, and without those
blanks. -/
def dropCommas : List Char → List Char
  | [] => []
  | character :: rest =>
      if character = ',' ∧ (rest.dropWhile Text.isBlank).head?.any isCloser then
        dropCommas (rest.dropWhile Text.isBlank)
      else character :: dropCommas rest
termination_by text => text.length
decreasing_by
  · have shorter : (rest.dropWhile Text.isBlank).length ≤ rest.length :=
      (List.dropWhile_sublist Text.isBlank).length_le
    simp only [List.length_cons]
    omega
  · simp

/-- How many closing braces a text lacks. -/
def missingBraces (text : List Char) : Nat :=
  text.count '\x7b' - text.count '\x7d'

/-- The value of a text. -/
def parseChars? (text : List Char) : Option Json := Json.parse? (String.ofList text)

/-- The value that a text of arguments was meant to be. -/
def repair? (text : String) : Option Json :=
  let trimmed := Text.trimChars text.toList
  if trimmed.isEmpty then some (.object [])
  else
    let inside := unfence trimmed
    match parseChars? inside with
    | some value => some value
    | none =>
        let tidied := dropCommas inside
        match parseChars? tidied with
        | some value => some value
        | none =>
            let missing := missingBraces tidied
            if 0 < missing then parseChars? (tidied ++ List.replicate missing '\x7d') else none

/-- Changes the field of an object where it is there. -/
def update (name : String) (change : Json → Json) : Json → Json
  | .object fields =>
      .object (fields.map fun field => if field.1 = name then (name, change field.2) else field)
  | other => other

/-- Changes the items of an array. -/
def updateItems (change : Json → Json) : Json → Json
  | .array items => .array (items.map change)
  | other => other

/-- The input of a tool use, repaired if it came as a text. -/
def repairInput : Json → Json
  | .string text => (repair? text).getD (.string text)
  | other => other

/-- A content block with its input repaired if it uses a tool. -/
def repairBlock (block : Json) : Json :=
  if (block.get? "type").bind Json.string? = some "tool_use" then
    update "input" repairInput block
  else block

/-- Arguments as a text of JSON: what already is one stays. -/
def repairArguments : Json → Json
  | .string text =>
      if (Json.parse? text).isSome then .string text
      else .string (((repair? text).map Json.render).getD text)
  | other => other

/-- A choice with the arguments of its calls repaired. -/
def repairChoice (choice : Json) : Json :=
  update "message"
    (update "tool_calls" (updateItems (update "function" (update "arguments" repairArguments))))
    choice

/-- The body of an answer with its tool arguments repaired. -/
def repairResponse (body : Json) : Json :=
  if ((body.get? "content").bind Json.array?).isSome then
    update "content" (updateItems repairBlock) body
  else if ((body.get? "choices").bind Json.array?).isSome then
    update "choices" (updateItems repairChoice) body
  else body

end ChatGateway.ToolRepair
