import ChatGateway.Config.Schema
import ChatGateway.Stage.OutputLimit
import ChatGateway.Stage.ToolRepair
import ChatGateway.Wire.ChatCompletions
import ChatGateway.Wire.Vertex

/-!
# Stages

The stages a provider's traffic can pass through, what each does with requests, answers and
stream chunks, and how they are made from a configuration.
-/

namespace ChatGateway

/-- A stage with its settings. -/
inductive Stage where
  | openai
  | anthropic (settings : Wire.Messages.Settings)
  | gemini
  | vertex (families : Wire.Vertex.Families)
  | maxtoken (limit : Nat)
  | cleancache
  | enhancetool
  deriving Inhabited

namespace Stage

/-- The name of a stage. -/
def name : Stage → String
  | .openai => "openai"
  | .anthropic _ => "anthropic"
  | .gemini => "gemini"
  | .vertex _ => "vertex"
  | .maxtoken _ => "maxtoken"
  | .cleancache => "cleancache"
  | .enhancetool => "enhancetool"

/-- Changes a request on its way to the provider. -/
def changeRequest (stage : Stage) (outbound : Outbound) (context : Context) :
    Except StageFault Outbound × Context :=
  match stage with
  | .openai => (Wire.ChatCompletions.toWire outbound, context)
  | .anthropic settings => (Wire.Messages.toWire settings outbound, context)
  | .gemini => (Wire.GenerateContent.toWire outbound context, context)
  | .vertex families => Wire.Vertex.toWire families outbound context
  | .maxtoken limit => (OutputLimit.toWire limit outbound, context)
  | .cleancache => (.ok { outbound with body := CacheMarks.strip outbound.body }, context)
  | .enhancetool => (.ok outbound, context)

/-- Changes the body of an answer on its way back. -/
def changeResponse (stage : Stage) (body : Json) (context : Context) (supply : Supply) :
    Except StageFault Json × Supply :=
  match stage with
  | .openai => (Wire.ChatCompletions.readResponse body, supply)
  | .anthropic _ => (Wire.Messages.checkResponse body, supply)
  | .gemini => Wire.GenerateContent.readResponse body context supply
  | .vertex families => Wire.Vertex.readResponse families body context supply
  | .maxtoken _ => (.ok body, supply)
  | .cleancache => (.ok body, supply)
  | .enhancetool => (.ok (ToolRepair.repairResponse body), supply)

/-- Events as chunks. -/
def chunksOf (events : Except StageFault (List Event)) : Except StageFault (List Chunk) :=
  events.map fun events => events.map Chunk.ofEvent

/-- Changes a chunk of a stream on its way back. -/
def changeChunk (stage : Stage) (chunk : Chunk) (context : Context) (writer : EventWriter)
    (supply : Supply) : Except StageFault (List Chunk) × EventWriter × Supply :=
  match stage with
  | .openai =>
      let (events, writer) := Wire.ChatCompletions.readChunk chunk context writer
      (chunksOf events, writer, supply)
  | .anthropic _ => (.ok (Wire.Messages.readChunk chunk), writer, supply)
  | .gemini =>
      let (events, writer, supply) :=
        Wire.GenerateContent.readChunk chunk context writer supply
      (chunksOf events, writer, supply)
  | .vertex families =>
      match Wire.Vertex.notedFamily families context with
      | .gemini =>
          let (events, writer, supply) :=
            Wire.GenerateContent.readChunk chunk context writer supply
          (chunksOf events, writer, supply)
      | .anthropic => (.ok (Wire.Messages.readChunk chunk), writer, supply)
  | .maxtoken _ => (.ok [chunk], writer, supply)
  | .cleancache => (.ok [chunk], writer, supply)
  | .enhancetool => (.ok [chunk], writer, supply)

/-! ## Making stages -/

/-- An option that is a natural number. -/
def naturalOption (options : Dictionary Json) (key : String) : Except StageFault (Option Nat) :=
  match Dictionary.get? key options with
  | none => .ok none
  | some value =>
      match value.nat? with
      | some number => .ok (some number)
      | none => .error (.optionNotNatural key)

/-- An option that is a text. -/
def textOption (options : Dictionary Json) (key : String) : Except StageFault (Option String) :=
  match Dictionary.get? key options with
  | none => .ok none
  | some (.string text) => .ok (some text)
  | some _ => .error (.optionNotText key)

/-- Makes a stage of the messages protocol. -/
def makeAnthropic (options : Dictionary Json) : Except StageFault Stage := do
  let version ← textOption options "version"
  let limit ← naturalOption options "max_tokens"
  let standard := Wire.Messages.Settings.standard
  .ok (.anthropic ⟨version.getD standard.version, limit.getD standard.maxTokens⟩)

/-- Makes a stage that limits the output. -/
def makeMaxtoken (options : Dictionary Json) : Except StageFault Stage := do
  match (← naturalOption options "max_tokens").filter (0 < ·) with
  | some limit => .ok (.maxtoken limit)
  | none => .error .limitMissing

/-- How a stage is made from its options. -/
abbrev Maker : Type := Dictionary Json → Except StageFault Stage

/-- The stages that can be named, with how they are made. -/
abbrev Registry : Type := Dictionary Maker

/-- Every stage. -/
def builtins : Registry :=
  [("anthropic", makeAnthropic), ("cleancache", fun _ => .ok .cleancache),
    ("enhancetool", fun _ => .ok .enhancetool), ("gemini", fun _ => .ok .gemini),
    ("maxtoken", makeMaxtoken), ("openai", fun _ => .ok .openai),
    ("vertex", fun options => (Wire.Vertex.familiesOfOptions options).map .vertex)]

/-- The names of a registry. -/
def Registry.names (registry : Registry) : List String := registry.map Prod.fst

/-- Why a stage cannot be made. -/
inductive MakeError where
  | unknownStage (name : String)
  | invalidOptions (name : String) (fault : StageFault)
  deriving DecidableEq, Repr, Inhabited

/-- The text for an error. -/
def MakeError.message : MakeError → String
  | .unknownStage name => "Unknown transformer stage '" ++ name ++ "'"
  | .invalidOptions name fault =>
      "Invalid options for stage '" ++ name ++ "': " ++ fault.message

/-- Makes the stage that a specification names. -/
def Registry.make (registry : Registry) (spec : Config.StageSpec) : Except MakeError Stage :=
  match Dictionary.get? spec.name registry with
  | none => .error (.unknownStage spec.name)
  | some maker =>
      match maker spec.optionTable with
      | .ok stage => .ok stage
      | .error fault => .error (.invalidOptions spec.name fault)

end Stage

end ChatGateway
