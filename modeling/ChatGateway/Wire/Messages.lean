import ChatGateway.Stage.Context

/-!
# The messages protocol

The canonical form is the one of this protocol, so only headers and a default limit differ.
-/

namespace ChatGateway.Wire.Messages

/-- How the provider is addressed. -/
structure Settings where
  version : String
  maxTokens : Nat
  deriving DecidableEq, Repr, Inhabited

/-- The settings of a stage that names none. -/
def Settings.standard : Settings := ⟨"2023-06-01", 4096⟩

/-- Changes a canonical request: a limit where there is none, and the key in a header of its own. -/
def toWire (settings : Settings) (outbound : Outbound) : Except StageFault Outbound :=
  match outbound.body with
  | .object fields =>
      if ((Dictionary.get? "messages" fields).bind Json.array?).isSome then
        let fields :=
          if (Dictionary.get? "max_tokens" fields).isSome then fields
          else Dictionary.insert "max_tokens" (.ofNat settings.maxTokens) fields
        .ok (({ outbound with body := .object fields }.moveBearer "x-api-key").setHeader
          "anthropic-version" settings.version)
      else .error .requestWithoutMessages
  | _ => .error .requestWithoutMessages

/-- A response has to hold a list of content. -/
def checkResponse (body : Json) : Except StageFault Json :=
  if ((body.get? "content").bind Json.array?).isSome then .ok body
  else .error .responseWithoutContent

/-- Every chunk but those that keep the connection alive. -/
def readChunk (chunk : Chunk) : List Chunk :=
  if chunk.isPing then [] else [chunk]

end ChatGateway.Wire.Messages
