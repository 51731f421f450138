import ChatGateway.Message.Block
import ChatGateway.Number.Single

/-!
# Chat requests

A request is a list of turns with a model, an optional system prompt, tool declarations and
sampling parameters.
-/

namespace ChatGateway

/-- Who a turn belongs to. -/
inductive Role where
  | user
  | assistant
  deriving DecidableEq, Repr, Inhabited

/-- One turn. -/
structure Message where
  role : Role
  content : Content
  deriving Inhabited

/-- A tool that the model may call. -/
structure Tool where
  name : String
  description : Option String
  inputSchema : Option Json
  /-- The type of a tool that the provider itself runs. -/
  kind : Option String
  deriving Inhabited

/-- Whether the model thinks aloud first, and with how many tokens. -/
structure Thinking where
  kind : String
  budgetTokens : Option Nat
  deriving DecidableEq, Repr, Inhabited

/-- A chat request. -/
structure Request where
  model : String
  messages : List Message
  system : Option Content
  maxTokens : Option Nat
  temperature : Option Single
  topP : Option Single
  stopSequences : Option (List String)
  stream : Bool
  tools : Option (List Tool)
  toolChoice : Option Json
  thinking : Option Thinking
  metadata : Option Json
  deriving Inhabited

namespace Role

/-- The role a value names. -/
def decode? (heldBack : Bool) (value : Json) : Option Role := do
  match ← Json.enumeration? heldBack value with
  | "user" => some .user
  | "assistant" => some .assistant
  | _ => none

/-- The name of a role. -/
def name : Role → String
  | .user => "user"
  | .assistant => "assistant"

/-- The value that names a role. -/
def encode (role : Role) : Json := .string role.name

end Role

namespace Message

/-- The turn a value describes. -/
def decode? (value : Json) : Option Message := do
  let source ← Json.source? ["role", "content"] value
  some
    { role := ← source.required "role" (Role.decode? false)
      content := ← source.required "content" Content.decode? }

/-- The value that describes a turn. -/
def encode (message : Message) : Json :=
  .object [("role", message.role.encode), ("content", message.content.encode)]

/-- A turn of the user with a bare text. -/
def user (text : String) : Message := ⟨.user, .text text⟩

/-- A turn of the assistant with a bare text. -/
def assistant (text : String) : Message := ⟨.assistant, .text text⟩

/-- A turn of the user made of blocks. -/
def userBlocks (blocks : List Block) : Message := ⟨.user, .blocks blocks⟩

end Message

namespace Tool

/-- The tool a value declares. -/
def decode? (value : Json) : Option Tool := do
  let source ← Json.source? ["name", "description", "input_schema", "type"] value
  some
    { name := ← source.required "name" Json.string?
      description := ← source.optional "description" Json.string?
      inputSchema := ← source.optional "input_schema" some
      kind := ← source.optional "type" Json.string? }

/-- The value that declares a tool. -/
def encode (tool : Tool) : Json :=
  .object ([("name", .string tool.name)] ++
    optionalField "description" .string tool.description ++
    optionalField "input_schema" id tool.inputSchema ++
    optionalField "type" .string tool.kind)

/-- A tool searches the web when its type or its name says so. -/
def isWebSearch (tool : Tool) : Bool :=
  (tool.kind.any fun kind => kind.startsWith "web_search") || tool.name.startsWith "web_search"

end Tool

namespace Thinking

/-- The thinking mode a value describes. -/
def decode? (value : Json) : Option Thinking := do
  let source ← Json.source? ["type", "budget_tokens"] value
  some
    { kind := ← source.required "type" Json.string?
      budgetTokens := ← source.optional "budget_tokens" Json.nat32? }

/-- The value that describes a thinking mode. -/
def encode (thinking : Thinking) : Json :=
  .object ([("type", .string thinking.kind)] ++
    optionalField "budget_tokens" .ofNat thinking.budgetTokens)

/-- Thinking with a budget. -/
def enabled (budgetTokens : Nat) : Thinking := ⟨"enabled", some budgetTokens⟩

/-- Whether the model thinks. -/
def isEnabled (thinking : Thinking) : Bool := thinking.kind == "enabled"

end Thinking

namespace Request

/-- The fields of a request. -/
def fieldNames : List String :=
  ["model", "messages", "system", "max_tokens", "temperature", "top_p", "stop_sequences",
    "stream", "tools", "tool_choice", "thinking", "metadata"]

/-- The request a value describes.  Every field may be absent. -/
def decode? (value : Json) : Option Request := do
  let source ← Json.source? fieldNames value
  some
    { model := ← source.withDefault "model" "" Json.string?
      messages := ← source.withDefault "messages" [] (Json.decodeList Message.decode?)
      system := ← source.optional "system" Content.decode?
      maxTokens := ← source.optional "max_tokens" Json.nat32?
      temperature := ← source.optional "temperature" Single.decode?
      topP := ← source.optional "top_p" Single.decode?
      stopSequences := ← source.optional "stop_sequences" (Json.decodeList Json.string?)
      stream := ← source.withDefault "stream" false Json.bool?
      tools := ← source.optional "tools" (Json.decodeList Tool.decode?)
      toolChoice := ← source.optional "tool_choice" some
      thinking := ← source.optional "thinking" Thinking.decode?
      metadata := ← source.optional "metadata" some }

/-- The value that describes a request. -/
def encode (request : Request) : Json :=
  .object ([("model", .string request.model),
      ("messages", .array (request.messages.map Message.encode))] ++
    optionalField "system" Content.encode request.system ++
    optionalField "max_tokens" .ofNat request.maxTokens ++
    optionalField "temperature" Single.encode request.temperature ++
    optionalField "top_p" Single.encode request.topP ++
    optionalField "stop_sequences" (fun texts => .array (texts.map .string))
      request.stopSequences ++
    [("stream", .bool request.stream)] ++
    optionalField "tools" (fun tools => .array (tools.map Tool.encode)) request.tools ++
    optionalField "tool_choice" id request.toolChoice ++
    optionalField "thinking" Thinking.encode request.thinking ++
    optionalField "metadata" id request.metadata)

/-- A request with a model and turns and nothing else. -/
def ofMessages (model : String) (messages : List Message) : Request :=
  { model, messages, system := none, maxTokens := none, temperature := none, topP := none,
    stopSequences := none, stream := false, tools := none, toolChoice := none,
    thinking := none, metadata := none }

/-- Whether the model is asked to think. -/
def thinkingEnabled (request : Request) : Bool :=
  request.thinking.any Thinking.isEnabled

/-- The position of the latest turn of the user. -/
def lastUserIndex? (request : Request) : Option Nat :=
  let turns := request.messages.zipIdx.filter fun turn => turn.1.role = .user
  turns.getLast?.map Prod.snd

end Request

end ChatGateway
