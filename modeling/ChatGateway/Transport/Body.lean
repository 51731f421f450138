import ChatGateway.Failure

/-!
# Bodies

The body of an answer is at hand as a whole or arrives in parts.
-/

namespace ChatGateway

/-- A part of a body that arrives over time. -/
inductive BodyPart where
  | bytes (bytes : List UInt8)
  | failure (failure : Failure)
  /-- Milliseconds in which nothing arrives. -/
  | delay (duration : Nat)
  deriving Inhabited

/-- The body of an answer. -/
inductive Body where
  | buffered (bytes : List UInt8)
  | stream (parts : List BodyPart)
  deriving Inhabited

namespace Body

/-- A body in parts; one that is at hand arrives all at once. -/
def parts : Body → List BodyPart
  | .buffered bytes => [.bytes bytes]
  | .stream parts => parts

/-- What a log says about a body. -/
def summary : Body → String
  | .buffered bytes => "Buffered(" ++ toString bytes.length ++ ")"
  | .stream _ => "Stream(..)"

end Body

end ChatGateway
