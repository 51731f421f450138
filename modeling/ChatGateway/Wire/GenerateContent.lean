import ChatGateway.Number.Word
import ChatGateway.Stage.Context
import ChatGateway.Stage.EventWriter

/-!
# The generate-content protocol

Turns are lists of typed parts, tool results name their function, and the model and the method
stand in the address.  Chunks of a stream have the form of an answer.
-/

namespace ChatGateway.Wire.GenerateContent

/-! ## Requests -/

/-- The part of an image. -/
def imagePart : ImageSource → Json
  | .base64 mediaType data =>
      .object [("inlineData", .object [("data", .string data), ("mimeType", .string mediaType)])]
  | .url url => .object [("fileData", .object [("fileUri", .string url)])]

/-- The part of a text. -/
def textPart (text : String) : Json := .object [("text", .string text)]

/-- The part that a block becomes, and the names of the tools used so far, the latest first. -/
def blockPart (names : List (String × String)) : Block → Option Json × List (String × String)
  | .text text _ => (some (textPart text), names)
  | .image source => (some (imagePart source), names)
  | .toolUse id name input =>
      (some (.object [("functionCall", .object [("args", input), ("name", .string name)])]),
        (id, name) :: names)
  | .toolResult id content _ =>
      let name := ((names.find? fun tool => tool.1 == id).map Prod.snd).getD id
      (some (.object [("functionResponse", .object
          [("name", .string name),
            ("response", .object [("content", .string (toolResultText content))])])]),
        names)
  | _ => (none, names)

/-- The parts of the blocks of a turn. -/
def blockParts (names : List (String × String)) :
    List Block → List Json × List (String × String)
  | [] => ([], names)
  | block :: rest =>
      let (part, names) := blockPart names block
      let (parts, names) := blockParts names rest
      (part.toList ++ parts, names)

/-- The parts of a turn. -/
def contentParts (names : List (String × String)) :
    Content → List Json × List (String × String)
  | .text text => ([textPart text], names)
  | .blocks blocks => blockParts names blocks

/-- The name of a role. -/
def roleName : Role → String
  | .user => "user"
  | .assistant => "model"

/-- A turn. -/
def turn (role : String) (parts : List Json) : Json :=
  .object [("parts", .array parts), ("role", .string role)]

/-- The turns of messages; one without parts is left out. -/
def turns (names : List (String × String)) : List Message → List Json
  | [] => []
  | message :: rest =>
      let (parts, names) := contentParts names message.content
      (if parts.isEmpty then [] else [turn (roleName message.role) parts]) ++ turns names rest

/-- The turn of a system prompt with text. -/
def systemTurn (system : Option Content) : List Json :=
  let text := (system.map Content.joinedText).getD ""
  if text.isEmpty then [] else [turn "user" [textPart text]]

/-- The keywords that a declaration may not hold. -/
def unsupportedKeys : List String := ["$schema", "additionalProperties", "default"]

mutual

/-- A schema without the unsupported keywords. -/
def stripSchema : Json → Json
  | .object fields => .object (stripFields fields)
  | .array items => .array (stripItems items)
  | other => other

/-- The fields of a schema without the unsupported ones. -/
def stripFields : List (String × Json) → List (String × Json)
  | [] => []
  | (name, value) :: rest =>
      if unsupportedKeys.contains name then stripFields rest
      else (name, stripSchema value) :: stripFields rest

/-- The items of a list of schemas. -/
def stripItems : List Json → List Json
  | [] => []
  | item :: rest => stripSchema item :: stripItems rest

end

/-- The declaration of a tool. -/
def declaration (tool : Tool) : Json :=
  .object ([("description", .string (tool.description.getD "")), ("name", .string tool.name)] ++
    optionalField "parameters" stripSchema tool.inputSchema)

/-- The tools: all declarations in one, then the searches. -/
def toolList (tools : List Tool) : List Json :=
  let declarations := (tools.filter fun tool => !tool.isWebSearch).map declaration
  let searches := (tools.filter Tool.isWebSearch).map fun _ =>
    Json.object [("googleSearch", .object [])]
  (if declarations.isEmpty then []
    else [.object [("functionDeclarations", .array declarations)]]) ++ searches

/-- The choice of tools. -/
def toolConfig? (choice : Json) : Option Json := do
  let mode ← match ← (choice.get? "type").bind Json.string? with
    | "auto" => some "AUTO"
    | "any" => some "ANY"
    | "tool" => some "ANY"
    | "none" => some "NONE"
    | _ => none
  let name := (choice.get? "name").bind Json.string?
  some (.object [("functionCallingConfig", .object
    (optionalField "allowedFunctionNames" (fun name => .array [.string name]) name ++
      [("mode", .string mode)]))])

/-- How the model thinks. -/
def thinkingConfig (request : Request) : Json :=
  .object ([("includeThoughts", .bool true)] ++
    optionalField "thinkingBudget" .ofNat (request.thinking.bind Thinking.budgetTokens))

/-- The sampling parameters. -/
def generationFields (request : Request) : Dictionary Json :=
  optionalField "maxOutputTokens" .ofNat request.maxTokens ++
    optionalField "stopSequences" (fun texts => .array (texts.map .string))
      request.stopSequences ++
    optionalField "temperature" Single.encode request.temperature ++
    (if request.thinkingEnabled then [("thinkingConfig", thinkingConfig request)] else []) ++
    optionalField "topP" Single.encode request.topP

/-- The body of a request. -/
def ofRequest (request : Request) : Json :=
  let generation := generationFields request
  let tools := request.tools.getD []
  .object ([("contents", .array (systemTurn request.system ++ turns [] request.messages))] ++
    (if generation.isEmpty then [] else [("generationConfig", .object generation)]) ++
    optionalField "toolConfig" id (request.toolChoice.bind toolConfig?) ++
    (if tools.isEmpty then [] else [("tools", .array (toolList tools))]))

/-- The method of a call. -/
def method (stream : Bool) : String :=
  if stream then "streamGenerateContent?alt=sse" else "generateContent"

/-- Changes a canonical request. -/
def toWire (outbound : Outbound) (context : Context) : Except StageFault Outbound :=
  (canonicalRequest outbound.body).map fun request =>
    { outbound with
      body := ofRequest request
      url := outbound.baseUrl ++ "/" ++ context.model ++ ":" ++ method context.stream }.moveBearer
        "x-goog-api-key"

/-! ## Answers -/

/-- A call of a function. -/
structure FunctionCall where
  id : Option String
  name : String
  arguments : Json
  deriving Inhabited

/-- A part of an answer. -/
structure Part where
  text : Option String
  thought : Option Bool
  signature : Option String
  call : Option FunctionCall
  deriving Inhabited

/-- A possible answer. -/
structure Candidate where
  parts : List Part
  finishReason : Option String
  deriving Inhabited

/-- An answer or a chunk of one. -/
structure Reply where
  candidates : List Candidate
  usage : Option Usage
  id : Option String
  model : Option String
  deriving Inhabited

/-- The call a value describes. -/
def FunctionCall.decode? (value : Json) : Option FunctionCall := do
  let source ← Json.source? ["id", "name", "args"] value
  some ⟨← source.optional "id" Json.string?, ← source.required "name" Json.string?,
    ← source.withDefault "args" .null some⟩

/-- The part a value describes. -/
def Part.decode? (value : Json) : Option Part := do
  let source ← Json.source? ["text", "thought", "thoughtSignature", "functionCall"] value
  some ⟨← source.optional "text" Json.string?, ← source.optional "thought" Json.bool?,
    ← source.optional "thoughtSignature" Json.string?,
    ← source.optional "functionCall" FunctionCall.decode?⟩

/-- The parts a value lists. -/
def decodeParts? (value : Json) : Option (List Part) := do
  let source ← Json.source? ["parts"] value
  source.withDefault "parts" [] (Json.decodeList Part.decode?)

/-- The candidate a value describes. -/
def Candidate.decode? (value : Json) : Option Candidate := do
  let source ← Json.source? ["content", "finishReason"] value
  let parts ← source.optional "content" decodeParts?
  some ⟨parts.getD [], ← source.optional "finishReason" Json.string?⟩

/-- The token counts a value gives.  Thoughts count as output, in 32 bits. -/
def decodeUsage? (value : Json) : Option Usage := do
  let source ← Json.source? ["promptTokenCount", "candidatesTokenCount", "thoughtsTokenCount",
    "cachedContentTokenCount"] value
  let prompt ← source.withDefault "promptTokenCount" 0 Json.nat32?
  let candidates ← source.withDefault "candidatesTokenCount" 0 Json.nat32?
  let thoughts ← source.withDefault "thoughtsTokenCount" 0 Json.nat32?
  let cached ← source.optional "cachedContentTokenCount" Json.nat32?
  some ⟨prompt, Word.wrap 32 (candidates + thoughts), cached⟩

/-- The answer a value describes. -/
def Reply.decode? (value : Json) : Option Reply := do
  let source ← Json.source? ["candidates", "usageMetadata", "responseId", "modelVersion"] value
  some
    { candidates := ← source.withDefault "candidates" [] (Json.decodeList Candidate.decode?)
      usage := ← source.optional "usageMetadata" decodeUsage?
      id := ← source.optional "responseId" Json.string?
      model := ← source.optional "modelVersion" Json.string? }

/-- Reads an answer, which has to hold candidates or token counts. -/
def readReply (body : Json) : Except StageFault Reply :=
  if (body.get? "candidates").isNone ∧ (body.get? "usageMetadata").isNone then
    .error .candidatesMissing
  else
    match Reply.decode? body with
    | some reply => .ok reply
    | none => .error .candidatesMalformed

/-- The reasons for which an answer is refused. -/
def refusals : List String :=
  ["SAFETY", "RECITATION", "BLOCKLIST", "PROHIBITED_CONTENT", "SPII"]

/-- Why the model stopped. -/
def stopReason (reason : String) (hasTools : Bool) : StopReason :=
  if reason = "MAX_TOKENS" then .maxTokens
  else if refusals.contains reason then .refusal
  else if hasTools then .toolUse
  else .endTurn

/-- The identifier of a call, a fresh one where it has none. -/
def callId (call : FunctionCall) (supply : Supply) : String × Supply :=
  match call.id with
  | some id => (id, supply)
  | none =>
      let (uuid, supply) := supply.draw
      ("toolu_" ++ uuid.compact, supply)

/-- The block that a part becomes. -/
def partBlock (part : Part) (supply : Supply) : List Block × Supply :=
  match part.call with
  | some call =>
      let (id, supply) := callId call supply
      ([.toolUse id call.name call.arguments], supply)
  | none =>
      match part.text with
      | none => ([], supply)
      | some text =>
          if part.thought = some true then ([.thinking text part.signature], supply)
          else ([.ofText text], supply)

/-- The blocks that parts become. -/
def partBlocks (supply : Supply) : List Part → List Block × Supply
  | [] => ([], supply)
  | part :: rest =>
      let (blocks, supply) := partBlock part supply
      let (more, supply) := partBlocks supply rest
      (blocks ++ more, supply)

/-- Whether a block uses a tool. -/
def isToolUse : Block → Bool
  | .toolUse _ _ _ => true
  | _ => false

/-- The canonical form of an answer; its first candidate counts. -/
def toResponse (reply : Reply) (model : String) (supply : Supply) :
    Except StageFault Response × Supply :=
  match reply.candidates with
  | [] => (.error .noCandidate, supply)
  | candidate :: _ =>
      let (content, supply) := partBlocks supply candidate.parts
      let (id, supply) := match reply.id with
        | some id => (id, supply)
        | none =>
            let (uuid, supply) := supply.draw
            ("msg_" ++ uuid.compact, supply)
      (.ok
        { id
          kind := "message"
          role := .assistant
          model := reply.model.getD model
          content
          stopReason := some
            (stopReason (candidate.finishReason.getD "STOP") (content.any isToolUse))
          stopSequence := none
          usage := reply.usage.getD .zero }, supply)

/-- Changes the body of an answer. -/
def readResponse (body : Json) (context : Context) (supply : Supply) :
    Except StageFault Json × Supply :=
  match readReply body with
  | .error fault => (.error fault, supply)
  | .ok reply =>
      let (response, supply) := toResponse reply context.model supply
      (response.map fun response => response.encode.normalize, supply)

/-! ## Streams -/

/-- Writes what a part adds; tells whether it called a tool. -/
def writePart (writer : EventWriter) (supply : Supply) (part : Part) :
    Bool × List Event × EventWriter × Supply :=
  match part.call with
  | some call =>
      let key := writer.unkeyedTools
      let (id, supply) := callId call supply
      let (opening, writer) := { writer with unkeyedTools := key + 1 }.startTool key id call.name
      let (arguments, writer) := writer.writeArguments key call.arguments.render
      (true, opening ++ arguments, writer, supply)
  | none =>
      match part.text with
      | none => (false, [], writer, supply)
      | some text =>
          let (events, writer) :=
            if part.thought = some true then writer.writeThinking text else writer.writeText text
          (false, events, writer, supply)

/-- Writes what parts add. -/
def writeParts (writer : EventWriter) (supply : Supply) :
    List Part → Bool × List Event × EventWriter × Supply
  | [] => (false, [], writer, supply)
  | part :: rest =>
      let (called, events, writer, supply) := writePart writer supply part
      let (calledLater, more, writer, supply) := writeParts writer supply rest
      (called || calledLater, events ++ more, writer, supply)

/-- Writes what candidates add.  `called` says whether the chunk called a tool so far. -/
def writeCandidates (writer : EventWriter) (supply : Supply) (called : Bool) :
    List Candidate → List Event × EventWriter × Supply
  | [] => ([], writer, supply)
  | candidate :: rest =>
      let (calledNow, events, writer, supply) := writeParts writer supply candidate.parts
      let called := called || calledNow
      let writer := match candidate.finishReason with
        | none => writer
        | some reason =>
            writer.setStopReason
              (stopReason reason (called || writer.stopReason == some .toolUse))
      let (more, writer, supply) := writeCandidates writer supply called rest
      (events ++ more, writer, supply)

/-- Changes a chunk of a stream. -/
def readChunk (chunk : Chunk) (context : Context) (writer : EventWriter) (supply : Supply) :
    Except StageFault (List Event) × EventWriter × Supply :=
  match chunk with
  | .done =>
      let (events, writer) := writer.finish
      (.ok events, writer, supply)
  | .event _ data =>
      if writer.finished then (.ok [], writer, supply)
      else
        match readReply data with
        | .error fault => (.error fault, writer, supply)
        | .ok reply =>
            let (start, writer) := writer.startMessage
              (reply.id.getD ("msg_" ++ context.requestId.compact))
              (reply.model.getD context.model)
            let (events, writer, supply) := writeCandidates writer supply false reply.candidates
            let writer := match reply.usage with
              | some usage => writer.setUsage usage
              | none => writer
            (.ok (start ++ events), writer, supply)

end ChatGateway.Wire.GenerateContent
