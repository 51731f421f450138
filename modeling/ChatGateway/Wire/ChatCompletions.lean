import ChatGateway.Json.Parser
import ChatGateway.Stage.Context
import ChatGateway.Stage.EventWriter
import ChatGateway.Text.Blank

/-!
# The chat completions protocol

Turns are messages with roles, tool results are messages of their own, and tool arguments are
JSON texts.  Streams are bare deltas.
-/

namespace ChatGateway.Wire.ChatCompletions

/-! ## Requests -/

/-- The address of an image; bytes become an address that holds them. -/
def imageUrl : ImageSource → String
  | .base64 mediaType data => "data:" ++ mediaType ++ ";base64," ++ data
  | .url url => url

/-- The message of a tool result. -/
def toolMessage? : Block → Option Json
  | .toolResult id content _ =>
      some (.object [("content", .string (toolResultText content)), ("role", .string "tool"),
        ("tool_call_id", .string id)])
  | _ => none

/-- The part of a user's message that a block becomes. -/
def userPart? : Block → Option Json
  | .text text _ => some (.object [("text", .string text), ("type", .string "text")])
  | .image source =>
      some (.object [("image_url", .object [("url", .string (imageUrl source))]),
        ("type", .string "image_url")])
  | _ => none

/-- The messages of a user's turn: tool results first, then one message of all other parts. -/
def userMessages : Content → List Json
  | .text text => [.object [("content", .string text), ("role", .string "user")]]
  | .blocks blocks =>
      let parts := blocks.filterMap userPart?
      blocks.filterMap toolMessage? ++
        (if parts.isEmpty then []
          else [.object [("content", .array parts), ("role", .string "user")]])

/-- The call that a tool use becomes. -/
def toolCall? : Block → Option Json
  | .toolUse id name input =>
      some (.object
        [("function", .object [("arguments", .string input.render), ("name", .string name)]),
          ("id", .string id), ("type", .string "function")])
  | _ => none

/-- The message of the assistant's turn. -/
def assistantMessage : Content → Json
  | .text text => .object [("content", .string text), ("role", .string "assistant")]
  | .blocks blocks =>
      let text := String.join (blocks.filterMap Block.text?)
      let calls := blocks.filterMap toolCall?
      .object ([("content", if text.isEmpty then .null else .string text),
          ("role", .string "assistant")] ++
        (if calls.isEmpty then [] else [("tool_calls", .array calls)]))

/-- The messages of a turn. -/
def turnMessages (message : Message) : List Json :=
  match message.role with
  | .user => userMessages message.content
  | .assistant => [assistantMessage message.content]

/-- The message of a system prompt. -/
def systemMessage (system : Content) : Json :=
  .object [("content", .string system.joinedText), ("role", .string "system")]

/-- The parameters of a tool that declares none. -/
def noParameters : Json :=
  .object [("properties", .object []), ("type", .string "object")]

/-- The declaration of a tool. -/
def toolDeclaration (tool : Tool) : Json :=
  .object
    [("function", .object [("description", .string (tool.description.getD "")),
        ("name", .string tool.name), ("parameters", tool.inputSchema.getD noParameters)]),
      ("type", .string "function")]

/-- The choice of tools. -/
def toolChoice? (choice : Json) : Option Json := do
  match ← (choice.get? "type").bind Json.string? with
  | "auto" => some (.string "auto")
  | "any" => some (.string "required")
  | "none" => some (.string "none")
  | "tool" =>
      let name ← (choice.get? "name").bind Json.string?
      some (.object [("function", .object [("name", .string name)]), ("type", .string "function")])
  | _ => none

/-- The body of a request. -/
def ofRequest (request : Request) : Json :=
  let messages := (request.system.map systemMessage).toList ++
    request.messages.flatMap turnMessages
  let tools := request.tools.getD []
  .object (Dictionary.ofList
    ([("model", .string request.model), ("messages", .array messages)] ++
      optionalField "max_tokens" .ofNat request.maxTokens ++
      optionalField "temperature" Single.encode request.temperature ++
      optionalField "top_p" Single.encode request.topP ++
      optionalField "stop" (fun texts => .array (texts.map .string)) request.stopSequences ++
      (if request.stream then
          [("stream", .bool true), ("stream_options", .object [("include_usage", .bool true)])]
        else []) ++
      (if tools.isEmpty then [] else [("tools", .array (tools.map toolDeclaration))]) ++
      optionalField "tool_choice" id (request.toolChoice.bind toolChoice?)))

/-- Changes a canonical request. -/
def toWire (outbound : Outbound) : Except StageFault Outbound :=
  (canonicalRequest outbound.body).map fun request =>
    { outbound with body := ofRequest request }

/-! ## Answers -/

/-- A call of a tool. -/
structure ToolCall where
  index : Option Nat
  id : Option String
  name : Option String
  arguments : Option String
  deriving DecidableEq, Repr, Inhabited

/-- What an answer or a delta says. -/
structure Saying where
  content : Option String
  reasoning : Option String
  calls : List ToolCall
  deriving DecidableEq, Repr, Inhabited

/-- A possible answer, or its growth. -/
structure Choice where
  saying : Saying
  finishReason : Option String
  deriving DecidableEq, Repr, Inhabited

/-- An answer or a chunk of one. -/
structure Reply where
  id : Option String
  model : Option String
  choices : List Choice
  usage : Option Usage
  deriving Inhabited

/-- A saying without content. -/
def Saying.none : Saying := ⟨Option.none, Option.none, []⟩

/-- The name and the arguments of a function. -/
def decodeFunction? (value : Json) : Option (Option String × Option String) := do
  let source ← Json.source? ["name", "arguments"] value
  some (← source.optional "name" Json.string?, ← source.optional "arguments" Json.string?)

/-- The call a value describes. -/
def ToolCall.decode? (value : Json) : Option ToolCall := do
  let source ← Json.source? ["index", "id", "function"] value
  let index ← source.optional "index" Json.nat64?
  let id ← source.optional "id" Json.string?
  let function ← source.optional "function" decodeFunction?
  some ⟨index, id, function.bind Prod.fst, function.bind Prod.snd⟩

/-- The saying a value describes. -/
def Saying.decode? (value : Json) : Option Saying := do
  let source ← Json.source? ["content", "reasoning_content", "tool_calls"] value
  let content ← source.optional "content" Json.string?
  let reasoning ← source.optional "reasoning_content" Json.string?
  let calls ← source.optional "tool_calls" (Json.decodeList ToolCall.decode?)
  some ⟨content, reasoning, calls.getD []⟩

/-- The choice of an answer. -/
def decodeMessageChoice? (value : Json) : Option Choice := do
  let source ← Json.source? ["message", "finish_reason"] value
  some ⟨← source.required "message" Saying.decode?,
    ← source.optional "finish_reason" Json.string?⟩

/-- The choice of a chunk. -/
def decodeDeltaChoice? (value : Json) : Option Choice := do
  let source ← Json.source? ["delta", "finish_reason"] value
  some ⟨← source.withDefault "delta" .none Saying.decode?,
    ← source.optional "finish_reason" Json.string?⟩

/-- The details of a token count. -/
def decodeCached? (value : Json) : Option (Option Nat) := do
  let source ← Json.source? ["cached_tokens"] value
  source.optional "cached_tokens" Json.nat32?

/-- The token counts a value gives. -/
def decodeUsage? (value : Json) : Option Usage := do
  let source ← Json.source? ["prompt_tokens", "completion_tokens", "prompt_tokens_details"] value
  let input ← source.withDefault "prompt_tokens" 0 Json.nat32?
  let output ← source.withDefault "completion_tokens" 0 Json.nat32?
  let details ← source.optional "prompt_tokens_details" decodeCached?
  some ⟨input, output, details.bind id⟩

/-- The answer a value describes. -/
def decodeResponse? (value : Json) : Option Reply := do
  let source ← Json.source? ["id", "model", "choices", "usage"] value
  some
    { id := ← source.optional "id" Json.string?
      model := ← source.optional "model" Json.string?
      choices := ← source.required "choices" (Json.decodeList decodeMessageChoice?)
      usage := ← source.optional "usage" decodeUsage? }

/-- The chunk a value describes. -/
def decodeChunk? (value : Json) : Option Reply := do
  let source ← Json.source? ["id", "model", "choices", "usage"] value
  some
    { id := ← source.optional "id" Json.string?
      model := ← source.optional "model" Json.string?
      choices := ← source.withDefault "choices" [] (Json.decodeList decodeDeltaChoice?)
      usage := ← source.optional "usage" decodeUsage? }

/-- Why the model stopped. -/
def stopReason : String → StopReason
  | "length" => .maxTokens
  | "tool_calls" => .toolUse
  | "function_call" => .toolUse
  | "content_filter" => .refusal
  | _ => .endTurn

/-- The identifier of a call without one. -/
def defaultCallId (key : Nat) : String := "call_" ++ toString key

/-- The input that a text of arguments describes: none at all if it is blank, and the text itself if
it is no JSON. -/
def readArguments (arguments : String) : Json :=
  if Text.isBlankText arguments then .object []
  else (Json.parse? arguments).getD (.string arguments)

/-- The block of a call that stands at a position of its list. -/
def toolBlock (call : ToolCall) (position : Nat) : Block :=
  .toolUse (call.id.getD (defaultCallId (call.index.getD position))) (call.name.getD "")
    (readArguments (call.arguments.getD ""))

/-- A block of a text that is not empty. -/
def textBlock? (make : String → Block) (text : Option String) : List Block :=
  ((text.filter fun text => !text.isEmpty).map make).toList

/-- The blocks of an answer. -/
def blocks (saying : Saying) : List Block :=
  textBlock? (fun thought => .thinking thought none) saying.reasoning ++
    textBlock? Block.ofText saying.content ++
    saying.calls.mapIdx fun position call => toolBlock call position

/-- The canonical form of an answer; its first choice counts. -/
def toResponse (reply : Reply) : Except StageFault Response :=
  match reply.choices with
  | [] => .error .completionsWithoutChoice
  | choice :: _ =>
      .ok
        { id := reply.id.getD "msg_openai"
          kind := "message"
          role := .assistant
          model := reply.model.getD ""
          content := blocks choice.saying
          stopReason := some (stopReason (choice.finishReason.getD "stop"))
          stopSequence := none
          usage := reply.usage.getD .zero }

/-- Changes the body of an answer. -/
def readResponse (body : Json) : Except StageFault Json :=
  match decodeResponse? body with
  | none => .error .completionsMalformed
  | some reply => (toResponse reply).map fun response => response.encode.normalize

/-! ## Streams -/

/-- Writes the calls of a delta, from some position on. -/
def writeCalls (writer : EventWriter) : Nat → List ToolCall → List Event × EventWriter
  | _, [] => ([], writer)
  | position, call :: rest =>
      let key := call.index.getD position
      let (opening, writer) :=
        if writer.hasTool key then ([], writer)
        else writer.startTool key (call.id.getD (defaultCallId key)) (call.name.getD "")
      let (events, writer) := writer.writeArguments key (call.arguments.getD "")
      let (more, writer) := writeCalls writer (position + 1) rest
      (opening ++ events ++ more, writer)

/-- Writes what a choice adds. -/
def writeChoice (writer : EventWriter) (choice : Choice) : List Event × EventWriter :=
  let (thoughts, writer) := writer.writeThinking (choice.saying.reasoning.getD "")
  let (texts, writer) := writer.writeText (choice.saying.content.getD "")
  let (calls, writer) := writeCalls writer 0 choice.saying.calls
  let writer := match choice.finishReason with
    | some reason => writer.setStopReason (stopReason reason)
    | none => writer
  (thoughts ++ texts ++ calls, writer)

/-- Writes what a list of choices adds. -/
def writeChoices (writer : EventWriter) : List Choice → List Event × EventWriter
  | [] => ([], writer)
  | choice :: rest =>
      let (events, writer) := writeChoice writer choice
      let (more, writer) := writeChoices writer rest
      (events ++ more, writer)

/-- The error that a chunk reports. -/
def reportedError? (data : Json) : Option ErrorBody :=
  (data.get? "error").map fun error =>
    ⟨"api_error", ((error.get? "message").bind Json.string?).getD "upstream stream error"⟩

/-- Changes a chunk of a stream. -/
def readChunk (chunk : Chunk) (context : Context) (writer : EventWriter) :
    Except StageFault (List Event) × EventWriter :=
  match chunk with
  | .done =>
      let (events, writer) := writer.finish
      (.ok events, writer)
  | .event _ data =>
      if writer.finished then (.ok [], writer)
      else
        match reportedError? data with
        | some error => (.ok [.error error], writer)
        | none =>
            match decodeChunk? data with
            | none => (.error .completionsChunkMalformed, writer)
            | some reply =>
                let (start, writer) := writer.startMessage (reply.id.getD "msg_stream")
                  (reply.model.getD context.model)
                let (events, writer) := writeChoices writer reply.choices
                let writer := match reply.usage with
                  | some usage => writer.setUsage usage
                  | none => writer
                (.ok (start ++ events), writer)

end ChatGateway.Wire.ChatCompletions
