import ChatGateway.Failure
import ChatGateway.Json.Parser
import ChatGateway.Text.Blank

/-!
# Failing answers of a provider

The body of a failing answer often holds a message in one of a few common shapes.
-/

namespace ChatGateway.Transport

/-- The message of an object: below `error`, of its own, or `error` itself. -/
def objectMessage? (fields : Dictionary Json) : Option String :=
  let error := Dictionary.get? "error" fields
  let nested := (error.bind (Json.get? "message")).bind Json.string?
  let own := (Dictionary.get? "message" fields).bind Json.string?
  (nested.or own).or (error.bind Json.string?)

/-- The message of a body.  Of an array the first item speaks. -/
def errorMessage? : Json → Option String
  | .object fields => objectMessage? fields
  | .array (first :: _) => errorMessage? first
  | _ => none

/-- The failure that an answer with a failing status stands for. -/
def failureOfAnswer (status : Nat) (body : Option String) (provider model : String) : Failure :=
  let details := body.bind Json.parse?
  let plain := body.filter fun text => !Text.isBlankText text
  let message := ((details.bind errorMessage?).or plain).getD ("HTTP error " ++ toString status)
  .api status provider model message details

end ChatGateway.Transport
