import ChatGateway.Failure
import ChatGateway.Text.Search

/-!
# Rate limits

Providers tell of a rate limit by the status of an answer, by a code within its body, or only
by a phrase.
-/

namespace ChatGateway

namespace RateLimit

/-- The phrases that tell of a rate limit. -/
def phrases : List String := ["429", "rate limit", "too many requests"]

/-- Whether a message tells of a rate limit.  No letter outside ASCII has a lower case that is part
of a phrase, so lowering the letters of ASCII is enough. -/
def saidBy (message : String) : Bool :=
  phrases.any fun phrase => Text.contains phrase message.toLower

/-- A code that stands for a rate limit. -/
def isCode : Json → Bool
  | .number number => decide (number = .integer 429)
  | .string text => text == "429" || text.toLower == "resource_exhausted"
  | _ => false

/-- Whether the body of an answer tells of a rate limit. -/
def toldByDetails (details : Json) : Bool :=
  let nested := details.get? "error"
  let codes :=
    [nested.bind (Json.get? "code"), nested.bind (Json.get? "status"), details.get? "status",
      details.get? "code"]
  codes.any (fun code => code.any isCode) ||
    ((nested.bind (Json.get? "message")).bind Json.string?).any saidBy

end RateLimit

/-- Whether the key in use has reached the provider's limit. -/
def Failure.isRateLimit : Failure → Bool
  | .api status _ _ message details =>
      status = 429 || details.any RateLimit.toldByDetails || RateLimit.saidBy message
  | _ => false

end ChatGateway
