import ChatGateway.Wire.GenerateContent
import ChatGateway.Wire.Messages

/-!
# Models of two families behind one address

Some models speak the generate-content protocol and some the messages protocol.  Settings name
the family of a model; without them its name decides.  The family of a request is noted in its
context for the way back.
-/

namespace ChatGateway.Wire.Vertex

/-- The protocol of a model. -/
inductive Family where
  | gemini
  | anthropic
  deriving DecidableEq, Repr, Inhabited

/-- The name of a family. -/
def Family.name : Family → String
  | .gemini => "gemini"
  | .anthropic => "anthropic"

/-- The family of a name. -/
def Family.ofName? : String → Option Family
  | "gemini" => some .gemini
  | "google" => some .gemini
  | "anthropic" => some .anthropic
  | "claude" => some .anthropic
  | _ => none

/-- The families of models that are named. -/
abbrev Families : Type := Dictionary Family

/-- Reads the families of models. -/
def readFamilies : List (String × Json) → Except StageFault Families
  | [] => .ok []
  | (model, value) :: rest =>
      match value.string?.bind Family.ofName? with
      | none => .error (.unknownFamily model)
      | some family => (readFamilies rest).map fun families => (model, family) :: families

/-- The families that options name. -/
def familiesOfOptions (options : Dictionary Json) : Except StageFault Families :=
  match Dictionary.get? "families" options with
  | none => .ok []
  | some (.object fields) => readFamilies fields
  | some _ => .error .familiesNotMap

/-- The family of a model. -/
def familyOf (families : Families) (model : String) : Family :=
  (Dictionary.get? model families).getD
    (if model.startsWith "claude" then .anthropic else .gemini)

/-- Where the family is noted. -/
def familyKey : String := "vertex_family"

/-- The family noted for a request. -/
def notedFamily (families : Families) (context : Context) : Family :=
  (((Dictionary.get? familyKey context.metadata).bind Json.string?).bind Family.ofName?).getD
    (familyOf families context.model)

/-- Who publishes the models of a family. -/
def publisher : Family → String
  | .gemini => "google"
  | .anthropic => "anthropic"

/-- The method of a call. -/
def method : Family → Bool → String
  | .gemini, stream => GenerateContent.method stream
  | .anthropic, false => "rawPredict"
  | .anthropic, true => "streamRawPredict"

/-- The version of the messages protocol that a body names. -/
def messagesVersion : String := "vertex-2023-10-16"

/-- The body of a request. -/
def body (family : Family) (request : Request) : Json :=
  match family with
  | .gemini => GenerateContent.ofRequest request
  | .anthropic =>
      (request.encode.normalize.erase "model").set "anthropic_version" (.string messagesVersion)

/-- Changes a canonical request and notes its family. -/
def toWire (families : Families) (outbound : Outbound) (context : Context) :
    Except StageFault Outbound × Context :=
  let family := familyOf families context.model
  let noted := { context with
    metadata := Dictionary.insert familyKey (.string family.name) context.metadata }
  let changed := (canonicalRequest outbound.body).map fun request =>
    { outbound with
      body := body family request
      url := outbound.baseUrl ++ "/publishers/" ++ publisher family ++ "/models/" ++
        context.model ++ ":" ++ method family context.stream }
  (changed, noted)

/-- Changes the body of an answer. -/
def readResponse (families : Families) (body : Json) (context : Context) (supply : Supply) :
    Except StageFault Json × Supply :=
  match notedFamily families context with
  | .gemini => GenerateContent.readResponse body context supply
  | .anthropic => (Messages.checkResponse body, supply)

end ChatGateway.Wire.Vertex
