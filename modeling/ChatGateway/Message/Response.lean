import ChatGateway.Message.Request

/-!
# Chat responses

A complete answer: content blocks, why the model stopped and how many tokens were used.
-/

namespace ChatGateway

/-- Why the model stopped. -/
inductive StopReason where
  | endTurn
  | maxTokens
  | stopSequence
  | toolUse
  | pauseTurn
  | refusal
  /-- A reason without a name here. -/
  | other
  deriving DecidableEq, Repr, Inhabited

/-- Token counts. -/
structure Usage where
  inputTokens : Nat
  outputTokens : Nat
  cacheReadInputTokens : Option Nat
  deriving DecidableEq, Repr, Inhabited

/-- A complete answer. -/
structure Response where
  id : String
  kind : String
  role : Role
  model : String
  content : List Block
  stopReason : Option StopReason
  stopSequence : Option String
  usage : Usage
  deriving Inhabited

/-- What an error answer says. -/
structure ErrorBody where
  kind : String
  message : String
  deriving DecidableEq, Repr, Inhabited

namespace StopReason

/-- The name of a reason. -/
def name : StopReason → String
  | .endTurn => "end_turn"
  | .maxTokens => "max_tokens"
  | .stopSequence => "stop_sequence"
  | .toolUse => "tool_use"
  | .pauseTurn => "pause_turn"
  | .refusal => "refusal"
  | .other => "other"

/-- The reason of a name; an unknown name is `other`. -/
def ofName : String → StopReason
  | "end_turn" => .endTurn
  | "max_tokens" => .maxTokens
  | "stop_sequence" => .stopSequence
  | "tool_use" => .toolUse
  | "pause_turn" => .pauseTurn
  | "refusal" => .refusal
  | _ => .other

/-- The reason a value names. -/
def decode? (heldBack : Bool) (value : Json) : Option StopReason :=
  (Json.enumeration? heldBack value).map ofName

/-- The value that names a reason. -/
def encode (reason : StopReason) : Json := .string reason.name

end StopReason

namespace Usage

/-- No tokens. -/
def zero : Usage := ⟨0, 0, none⟩

/-- The counts a value gives. -/
def decode? (value : Json) : Option Usage := do
  let source ← Json.source? ["input_tokens", "output_tokens", "cache_read_input_tokens"] value
  some
    { inputTokens := ← source.withDefault "input_tokens" 0 Json.nat32?
      outputTokens := ← source.withDefault "output_tokens" 0 Json.nat32?
      cacheReadInputTokens := ← source.optional "cache_read_input_tokens" Json.nat32? }

/-- The value that gives counts. -/
def encode (usage : Usage) : Json :=
  .object ([("input_tokens", .ofNat usage.inputTokens),
      ("output_tokens", .ofNat usage.outputTokens)] ++
    optionalField "cache_read_input_tokens" .ofNat usage.cacheReadInputTokens)

end Usage

namespace Response

/-- The fields of an answer. -/
def fieldNames : List String :=
  ["id", "type", "role", "model", "content", "stop_reason", "stop_sequence", "usage"]

/-- The answer a value describes. -/
def decode? (value : Json) : Option Response := do
  let source ← Json.source? fieldNames value
  some
    { id := ← source.required "id" Json.string?
      kind := ← source.withDefault "type" "message" Json.string?
      role := ← source.withDefault "role" .assistant (Role.decode? false)
      model := ← source.withDefault "model" "" Json.string?
      content := ← source.required "content" fun content =>
        content.array?.map Block.decodeAll
      stopReason := ← source.optional "stop_reason" (StopReason.decode? false)
      stopSequence := ← source.optional "stop_sequence" Json.string?
      usage := ← source.withDefault "usage" .zero Usage.decode? }

/-- The value that describes an answer. -/
def encode (response : Response) : Json :=
  .object ([("id", .string response.id), ("type", .string response.kind),
      ("role", response.role.encode), ("model", .string response.model),
      ("content", .array (Block.encodeAll response.content)),
      ("stop_reason", .ofOption StopReason.encode response.stopReason)] ++
    optionalField "stop_sequence" .string response.stopSequence ++
    [("usage", response.usage.encode)])

/-- The texts of the text blocks, run together. -/
def text (response : Response) : String :=
  String.join (response.content.filterMap Block.text?)

end Response

namespace ErrorBody

/-- The error a value describes. -/
def decode? (value : Json) : Option ErrorBody := do
  let source ← Json.source? ["type", "message"] value
  some
    { kind := ← source.required "type" Json.string?
      message := ← source.required "message" Json.string? }

/-- The value that describes an error. -/
def encode (body : ErrorBody) : Json :=
  .object [("type", .string body.kind), ("message", .string body.message)]

/-- The error as a whole answer. -/
def encodeResponse (body : ErrorBody) : Json :=
  .object [("type", .string "error"), ("error", body.encode)]

end ErrorBody

end ChatGateway
