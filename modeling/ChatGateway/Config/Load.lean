import ChatGateway.Config.Environment
import ChatGateway.Config.Validation
import ChatGateway.Config.Yaml

/-!
# Loading a configuration

A text goes through three steps: variables are put in, the text is read, and what it says is
checked.  The first step that fails decides the error.
-/

namespace ChatGateway.Config

/-- The tree of a text. -/
def parseTree? : Dialect → String → Option Tree
  | .json, text => (Json.parseVerbatim? text).map Tree.ofJson
  | .yaml, text => Yaml.parse? text

/-- The configuration that a text found at a path describes.  `known` are the names that stages may
have. -/
def load (toolkit : Toolkit) (dialect : Dialect) (known : List String)
    (environment : Dictionary String) (path text : String) :
    Except LoadError GatewaySettings := do
  let filled ← interpolate environment text
  match (parseTree? dialect filled).bind (GatewaySettings.decode? dialect) with
  | none => .error (.unparsable path none none "not a configuration")
  | some settings =>
      match settings.check toolkit known with
      | .ok () => .ok settings
      | .error rejection => .error (.rejected rejection)

end ChatGateway.Config
