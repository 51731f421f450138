import ChatGateway.Json.Printer
import ChatGateway.Message.Response

/-!
# Stream events

An answer that arrives in pieces: a header, blocks that open, grow and close, the final
fields, and the end.
-/

namespace ChatGateway

/-- The header of a streamed answer. -/
structure MessageHeader where
  id : String
  model : String
  role : Role
  usage : Usage
  deriving DecidableEq, Repr, Inhabited

/-- How a block grows. -/
inductive Delta where
  | text (text : String)
  | inputJson (partialJson : String)
  | thinking (thinking : String)
  | signature (signature : String)
  | citations (citation : Json)
  deriving Inhabited

/-- The fields that are known at the end of an answer. -/
structure Closing where
  stopReason : Option StopReason
  stopSequence : Option String
  deriving DecidableEq, Repr, Inhabited

/-- One event of a stream. -/
inductive Event where
  | messageStart (message : MessageHeader)
  | blockStart (index : Nat) (block : Block)
  | blockDelta (index : Nat) (delta : Delta)
  | blockStop (index : Nat)
  | messageDelta (closing : Closing) (usage : Option Usage)
  | messageStop
  | ping
  | error (error : ErrorBody)
  deriving Inhabited

namespace MessageHeader

/-- The header a value describes. -/
def decode? (value : Json) : Option MessageHeader := do
  let source ← Json.source? ["id", "model", "role", "usage"] value
  some
    { id := ← source.required "id" Json.string?
      model := ← source.withDefault "model" "" Json.string?
      role := ← source.withDefault "role" .assistant (Role.decode? true)
      usage := ← source.withDefault "usage" .zero Usage.decode? }

/-- The value that describes a header. -/
def encode (header : MessageHeader) : Json :=
  .object [("id", .string header.id), ("model", .string header.model),
    ("role", header.role.encode), ("usage", header.usage.encode)]

end MessageHeader

namespace Delta

/-- The kinds of growth. -/
def kinds : List String :=
  ["text_delta", "input_json_delta", "thinking_delta", "signature_delta", "citations_delta"]

/-- The growth a value describes. -/
def decode? (value : Json) : Option Delta := do
  let (tag, body) ← Json.tagged? value
  match ← Json.tagName? true kinds tag with
  | "text_delta" =>
      let source ← Json.source? ["text"] body
      some (.text (← source.required "text" Json.string?))
  | "input_json_delta" =>
      let source ← Json.source? ["partial_json"] body
      some (.inputJson (← source.required "partial_json" Json.string?))
  | "thinking_delta" =>
      let source ← Json.source? ["thinking"] body
      some (.thinking (← source.required "thinking" Json.string?))
  | "signature_delta" =>
      let source ← Json.source? ["signature"] body
      some (.signature (← source.required "signature" Json.string?))
  | _ =>
      let source ← Json.source? ["citation"] body
      some (.citations (← source.required "citation" some))

/-- The value that describes a growth. -/
def encode : Delta → Json
  | .text words => .object [("type", .string "text_delta"), ("text", .string words)]
  | .inputJson partialJson =>
      .object [("type", .string "input_json_delta"), ("partial_json", .string partialJson)]
  | .thinking thought =>
      .object [("type", .string "thinking_delta"), ("thinking", .string thought)]
  | .signature mark =>
      .object [("type", .string "signature_delta"), ("signature", .string mark)]
  | .citations citation =>
      .object [("type", .string "citations_delta"), ("citation", citation)]

end Delta

namespace Closing

/-- The final fields a value describes. -/
def decode? (value : Json) : Option Closing := do
  let source ← Json.source? ["stop_reason", "stop_sequence"] value
  some
    { stopReason := ← source.optional "stop_reason" (StopReason.decode? true)
      stopSequence := ← source.optional "stop_sequence" Json.string? }

/-- The value that describes final fields. -/
def encode (closing : Closing) : Json :=
  .object ([("stop_reason", .ofOption StopReason.encode closing.stopReason)] ++
    optionalField "stop_sequence" .string closing.stopSequence)

end Closing

namespace Event

/-- The names of events. -/
def names : List String :=
  ["message_start", "content_block_start", "content_block_delta", "content_block_stop",
    "message_delta", "message_stop", "ping", "error"]

/-- The fields of an event without any: an object may hold others, an array may not. -/
def bare? (event : Event) : Json → Option Event
  | .array (_ :: _) => none
  | _ => some event

/-- The event a value describes. -/
def decode? (value : Json) : Option Event := do
  let (tag, body) ← Json.tagged? value
  match ← Json.tagName? false names tag with
  | "message_start" =>
      let source ← Json.source? ["message"] body
      some (.messageStart (← source.required "message" MessageHeader.decode?))
  | "content_block_start" =>
      let source ← Json.source? ["index", "content_block"] body
      some (.blockStart (← source.required "index" Json.nat64?)
        (← source.required "content_block" fun block => some (Block.decode block)))
  | "content_block_delta" =>
      let source ← Json.source? ["index", "delta"] body
      some (.blockDelta (← source.required "index" Json.nat64?)
        (← source.required "delta" Delta.decode?))
  | "content_block_stop" =>
      let source ← Json.source? ["index"] body
      some (.blockStop (← source.required "index" Json.nat64?))
  | "message_delta" =>
      let source ← Json.source? ["delta", "usage"] body
      some (.messageDelta (← source.required "delta" Closing.decode?)
        (← source.optional "usage" Usage.decode?))
  | "message_stop" => bare? .messageStop body
  | "ping" => bare? .ping body
  | _ =>
      let source ← Json.source? ["error"] body
      some (.error (← source.required "error" ErrorBody.decode?))

/-- The name of an event. -/
def name : Event → String
  | .messageStart _ => "message_start"
  | .blockStart _ _ => "content_block_start"
  | .blockDelta _ _ => "content_block_delta"
  | .blockStop _ => "content_block_stop"
  | .messageDelta _ _ => "message_delta"
  | .messageStop => "message_stop"
  | .ping => "ping"
  | .error _ => "error"

/-- The value that describes an event. -/
def encode (event : Event) : Json :=
  .object (("type", .string event.name) ::
    match event with
    | .messageStart message => [("message", message.encode)]
    | .blockStart index block => [("index", .ofNat index), ("content_block", block.encode)]
    | .blockDelta index delta => [("index", .ofNat index), ("delta", delta.encode)]
    | .blockStop index => [("index", .ofNat index)]
    | .messageDelta closing usage =>
        [("delta", closing.encode)] ++ optionalField "usage" Usage.encode usage
    | .messageStop => []
    | .ping => []
    | .error body => [("error", body.encode)])

/-- Whether nothing comes after the event. -/
def isTerminal : Event → Bool
  | .messageStop => true
  | _ => false

/-- The event as a server-sent event. -/
def toSse (event : Event) : String :=
  "event: " ++ event.name ++ "\ndata: " ++ event.encode.render ++ "\n\n"

end Event

end ChatGateway
