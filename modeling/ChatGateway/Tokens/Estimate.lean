import ChatGateway.Json.Printer
import ChatGateway.Message.Request

/-!
# Estimating the size of a prompt

The tokens of everything a model has to read: the turns, the system prompt and the declared
tools.  A vocabulary, if there is one, counts the tokens of a text.
-/

namespace ChatGateway.Tokens

/-- The sum of some numbers. -/
def total (numbers : List Nat) : Nat := numbers.foldr (· + ·) 0

section

variable (vocabulary : Option (String → Nat))

/-- The number of tokens of a text.  Without a vocabulary four bytes count for one. -/
def ofText (text : String) : Nat :=
  if text.isEmpty then 0
  else
    match vocabulary with
    | some count => count text
    | none => (text.utf8ByteSize + 3) / 4

/-- The number of tokens of a value, as it is printed. -/
def ofJson (value : Json) : Nat := ofText vocabulary value.render

mutual

/-- The number of tokens of a block.  Images and hidden thoughts count nothing. -/
def ofBlock : Block → Nat
  | .text text _ => ofText vocabulary text
  | .image _ => 0
  | .toolUse _ name input => ofText vocabulary name + ofJson vocabulary input
  | .toolResult _ content _ =>
      match content with
      | some (.text text) => ofText vocabulary text
      | some (.blocks blocks) => ofBlocks blocks
      | none => 0
  | .thinking thinking _ => ofText vocabulary thinking
  | .redactedThinking _ => 0
  | .serverToolUse _ name input => ofText vocabulary name + ofJson vocabulary input
  | .webSearchToolResult _ content => ofJson vocabulary content
  | .other value => ofJson vocabulary value

/-- The number of tokens of blocks. -/
def ofBlocks : List Block → Nat
  | [] => 0
  | block :: rest => ofBlock block + ofBlocks rest

end

/-- The number of tokens of a content. -/
def ofContent : Content → Nat
  | .text text => ofText vocabulary text
  | .blocks blocks => ofBlocks vocabulary blocks

/-- The number of tokens of a tool declaration. -/
def ofTool (tool : Tool) : Nat :=
  ofText vocabulary tool.name + (tool.description.map (ofText vocabulary)).getD 0 +
    (tool.inputSchema.map (ofJson vocabulary)).getD 0

/-- The number of tokens of a prompt. -/
def ofRequest (request : Request) : Nat :=
  total (request.messages.map fun message => ofContent vocabulary message.content) +
    (request.system.map fun system => ofText vocabulary system.joinedText).getD 0 +
    total ((request.tools.getD []).map (ofTool vocabulary))

end

end ChatGateway.Tokens
