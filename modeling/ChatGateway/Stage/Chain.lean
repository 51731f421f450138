import ChatGateway.Failure
import ChatGateway.Stage.Basic

/-!
# Chains of stages

A request passes the stages of its provider from the first to the last, and what comes back
passes them from the last to the first, until it is canonical again.
-/

namespace ChatGateway

/-- The stages of one provider and model, in the order in which a request passes them. -/
structure Chain where
  stages : List Stage
  deriving Inhabited

namespace Chain

/-- A failure of a stage. -/
def failure (stage : Stage) (fault : StageFault) : Failure :=
  .transform stage.name fault.message

/-- The stages that a provider asks for, for one of its models. -/
def specs (settings : Config.TransformerSettings) (model : String) : List Config.StageSpec :=
  match Dictionary.get? model settings.models with
  | none => settings.stages
  | some stages =>
      match settings.policy with
      | .append => settings.stages ++ stages
      | .replace => stages

/-- Makes the stages of a list. -/
def makeAll (registry : Stage.Registry) :
    List Config.StageSpec → Except Stage.MakeError (List Stage)
  | [] => .ok []
  | spec :: rest => do
      let stage ← registry.make spec
      let stages ← makeAll registry rest
      .ok (stage :: stages)

/-- The chain of a provider and one of its models. -/
def build (registry : Stage.Registry) (settings : Config.TransformerSettings) (model : String) :
    Except Stage.MakeError Chain :=
  (makeAll registry (specs settings model)).map Chain.mk

/-- The names of the stages. -/
def names (chain : Chain) : List String := chain.stages.map Stage.name

/-- Passes a request through stages. -/
def requestThrough (outbound : Outbound) (context : Context) :
    List Stage → Except Failure Outbound × Context
  | [] => (.ok outbound, context)
  | stage :: rest =>
      match stage.changeRequest outbound context with
      | (.error fault, context) => (.error (failure stage fault), context)
      | (.ok outbound, context) => requestThrough outbound context rest

/-- Passes a request through the chain. -/
def applyRequest (chain : Chain) (outbound : Outbound) (context : Context) :
    Except Failure Outbound × Context :=
  requestThrough outbound context chain.stages

/-- Passes the body of an answer through stages, the first one last. -/
def bodyThrough (body : Json) (context : Context) (supply : Supply) :
    List Stage → Except Failure Json × Supply
  | [] => (.ok body, supply)
  | stage :: rest =>
      match bodyThrough body context supply rest with
      | (.error failure, supply) => (.error failure, supply)
      | (.ok body, supply) =>
          match stage.changeResponse body context supply with
          | (.error fault, supply) => (.error (failure stage fault), supply)
          | (.ok body, supply) => (.ok body, supply)

/-- The text for an answer that is not canonical after all stages. -/
def notCanonicalMessage : String := "response is not canonical: not a chat response"

/-- Passes the body of an answer through the chain and reads it. -/
def applyResponse (chain : Chain) (body : Json) (context : Context) (supply : Supply) :
    Except Failure Response × Supply :=
  match bodyThrough body context supply chain.stages with
  | (.error failure, supply) => (.error failure, supply)
  | (.ok body, supply) =>
      match Response.decode? body with
      | some response => (.ok response, supply)
      | none =>
          let stage := (chain.stages.head?.map Stage.name).getD "canonical"
          (.error (.transform stage notCanonicalMessage), supply)

/-- Fresh writers, one for each stage. -/
def newWriters (chain : Chain) : List EventWriter := chain.stages.map fun _ => .new

/-- Passes chunks through one stage.  A fault keeps what the writer has noted before it. -/
def chunksThroughStage (stage : Stage) (context : Context) (writer : EventWriter)
    (supply : Supply) : List Chunk → Except StageFault (List Chunk) × EventWriter × Supply
  | [] => (.ok [], writer, supply)
  | chunk :: rest =>
      match stage.changeChunk chunk context writer supply with
      | (.error fault, writer, supply) => (.error fault, writer, supply)
      | (.ok chunks, writer, supply) =>
          match chunksThroughStage stage context writer supply rest with
          | (.error fault, writer, supply) => (.error fault, writer, supply)
          | (.ok more, writer, supply) => (.ok (chunks ++ more), writer, supply)

/-- Passes a chunk through stages, the first one last, each with its writer. -/
def chunkThrough (chunk : Chunk) (context : Context) (supply : Supply) :
    List Stage → List EventWriter →
      Except Failure (List Chunk) × List EventWriter × Supply
  | stage :: stages, writer :: writers =>
      match chunkThrough chunk context supply stages writers with
      | (.error failure, writers, supply) => (.error failure, writer :: writers, supply)
      | (.ok chunks, writers, supply) =>
          match chunksThroughStage stage context writer supply chunks with
          | (.error fault, writer, supply) =>
              (.error (failure stage fault), writer :: writers, supply)
          | (.ok chunks, writer, supply) => (.ok chunks, writer :: writers, supply)
  | _, writers => (.ok [chunk], writers, supply)

/-- Passes a chunk of a stream through the chain. -/
def applyChunk (chain : Chain) (chunk : Chunk) (context : Context) (writers : List EventWriter)
    (supply : Supply) : Except Failure (List Chunk) × List EventWriter × Supply :=
  chunkThrough chunk context supply chain.stages writers

end Chain

end ChatGateway
