import ChatGateway.Message.Request
import ChatGateway.Stage.Context

/-!
# Uses of tools and their results

A use of a tool and its result stand in different turns and are tied together by an identifier.
Only blocks that stand directly in a turn count here.
-/

namespace ChatGateway

/-- A use of a tool. -/
structure ToolUse where
  id : String
  name : String
  input : Json
  deriving Inhabited

/-- What the use of a tool gave. -/
structure ToolResult where
  toolUseId : String
  text : String
  deriving DecidableEq, Repr, Inhabited

/-- The block of a use. -/
def ToolUse.block (use : ToolUse) : Block := .toolUse use.id use.name use.input

namespace Block

/-- The texts of the text blocks that stand directly among some blocks. -/
def textsAmong : List Block → List String
  | [] => []
  | .text words _ :: rest => words :: textsAmong rest
  | _ :: rest => textsAmong rest

theorem filterMap_text? (blocks : List Block) : blocks.filterMap text? = textsAmong blocks := by
  induction blocks with
  | nil => rfl
  | cons block rest ih =>
      cases block with
      | text words marks => exact congrArg (words :: ·) ih
      | image | toolUse | toolResult | thinking | redactedThinking | serverToolUse
        | webSearchToolResult | other => exact ih

/-- What the content of a result says: a text as it is, of blocks their texts with line feeds between
them, and nothing without a content. -/
def resultText : Option Content → String
  | some (.text words) => words
  | some (.blocks blocks) => "\n".intercalate (textsAmong blocks)
  | none => ""

theorem toolResultText_eq (content : Option Content) :
    toolResultText content = resultText content := by
  match content with
  | some (.text words) => rfl
  | some (.blocks blocks) => exact congrArg "\n".intercalate (filterMap_text? blocks)
  | none => rfl

/-- The use that a block is. -/
def use? : Block → Option ToolUse
  | .toolUse id name input => some ⟨id, name, input⟩
  | _ => none

/-- The result that a block is. -/
def result? : Block → Option ToolResult
  | .toolResult toolUseId content _ => some ⟨toolUseId, resultText content⟩
  | _ => none

end Block

namespace Message

/-- The blocks that stand directly in a turn. -/
def blocks (message : Message) : List Block := message.content.toBlocks

/-- The uses of tools in a turn. -/
def uses (message : Message) : List ToolUse := message.blocks.filterMap Block.use?

/-- The results in a turn. -/
def results (message : Message) : List ToolResult := message.blocks.filterMap Block.result?

end Message

end ChatGateway
