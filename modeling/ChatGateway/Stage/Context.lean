import ChatGateway.Message.Event
import ChatGateway.Transport.Outbound
import ChatGateway.Uuid

/-!
# What stages work on

A stage changes requests on their way to a provider, and answers and stream chunks on their way
back.  The stages of one request share a context.
-/

namespace ChatGateway

/-- What the stages of one request know about it. -/
structure Context where
  requestId : Uuid
  provider : String
  /-- The provider's name for the model. -/
  model : String
  stream : Bool
  /-- What stages left for later. -/
  metadata : Dictionary Json
  deriving Inhabited

/-- A piece of a stream. -/
inductive Chunk where
  | event (name : Option String) (data : Json)
  /-- The end of what the provider sends. -/
  | done
  deriving Inhabited

namespace Chunk

/-- The chunk of a canonical event. -/
def ofEvent (event : Event) : Chunk := .event (some event.name) event.encode.normalize

/-- What the data of a chunk says it is. -/
def kind? : Chunk → Option String
  | .event _ data => (data.get? "type").bind Json.string?
  | .done => none

/-- Whether a chunk only keeps a connection alive. -/
def isPing (chunk : Chunk) : Bool := chunk.kind? == some "ping"

end Chunk

/-- Why a stage cannot do its work. -/
inductive StageFault where
  | requestNotCanonical
  | requestWithoutMessages
  | requestNotObject
  | responseWithoutContent
  | completionsMalformed
  | completionsWithoutChoice
  | completionsChunkMalformed
  | candidatesMissing
  | candidatesMalformed
  | noCandidate
  | optionNotNatural (option : String)
  | optionNotText (option : String)
  | familiesNotMap
  | unknownFamily (model : String)
  | limitMissing
  deriving DecidableEq, Repr, Inhabited

/-- The text for a fault. -/
def StageFault.message : StageFault → String
  | .requestNotCanonical => "expected a canonical request body: not a chat request"
  | .requestWithoutMessages => "expected a canonical request body"
  | .requestNotObject => "request body is not an object"
  | .responseWithoutContent => "expected a messages response with a content array"
  | .completionsMalformed => "unexpected chat/completions response: not a response"
  | .completionsWithoutChoice => "chat/completions response has no choices"
  | .completionsChunkMalformed => "unexpected chat/completions chunk: not a chunk"
  | .candidatesMissing => "expected a generateContent response with candidates"
  | .candidatesMalformed => "unexpected generateContent response: not a response"
  | .noCandidate => "generateContent response has no candidates"
  | .optionNotNatural option => "option '" ++ option ++ "' must be a non-negative integer"
  | .optionNotText option => "option '" ++ option ++ "' must be a string"
  | .familiesNotMap => "option 'families' must be a map"
  | .unknownFamily model => "unknown model family for '" ++ model ++ "'"
  | .limitMissing => "maxtoken requires a positive 'max_tokens' option"

/-- The request that a body describes while it is canonical. -/
def canonicalRequest (body : Json) : Except StageFault Request :=
  match Request.decode? body with
  | some request => .ok request
  | none => .error .requestNotCanonical

namespace Outbound

/-- Takes the key out of the header that carries it by default. -/
def takeBearer (outbound : Outbound) : Option String × Outbound :=
  let key := (outbound.header? "authorization").map fun value =>
    if value.startsWith "Bearer " then String.ofList (value.toList.drop 7) else value
  (key, outbound.eraseHeader "authorization")

/-- Moves the key from the default header to another one. -/
def moveBearer (outbound : Outbound) (header : String) : Outbound :=
  match outbound.takeBearer with
  | (some key, outbound) => outbound.setHeader header key
  | (none, outbound) => outbound

/-- The address without slashes at its end. -/
def baseUrl (outbound : Outbound) : String :=
  String.ofList (outbound.url.toList.reverse.dropWhile (· = '/')).reverse

end Outbound

/-- The text of a tool result: of blocks, the texts of the text blocks, one to a line. -/
def toolResultText (content : Option Content) : String :=
  (content.map Content.joinedText).getD ""

end ChatGateway
