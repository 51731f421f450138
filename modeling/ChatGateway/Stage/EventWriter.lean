import ChatGateway.Message.Event

/-!
# Writing events around deltas

Some providers stream bare deltas without saying where a block begins or ends.  A writer knows
which block is open and puts the missing events around the deltas it is given.
-/

namespace ChatGateway

/-- What an open block holds. -/
inductive BlockKind where
  | text
  | thinking
  | toolUse
  deriving DecidableEq, Repr, Inhabited

/-- An open block. -/
structure OpenBlock where
  index : Nat
  kind : BlockKind
  deriving DecidableEq, Repr, Inhabited

/-- How far a message has been written. -/
structure EventWriter where
  started : Bool
  finished : Bool
  openBlock : Option OpenBlock
  nextIndex : Nat
  /-- The block index of every tool by the key its provider uses, the latest first. -/
  tools : List (Nat × Nat)
  stopReason : Option StopReason
  usage : Usage
  /-- How many tools came without a key of their own. -/
  unkeyedTools : Nat
  deriving Inhabited

namespace EventWriter

/-- Nothing written yet. -/
def new : EventWriter where
  started := false
  finished := false
  openBlock := none
  nextIndex := 0
  tools := []
  stopReason := none
  usage := .zero
  unkeyedTools := 0

/-- Closes the block that is open. -/
def closeBlock (writer : EventWriter) : List Event × EventWriter :=
  match writer.openBlock with
  | some block => ([.blockStop block.index], { writer with openBlock := none })
  | none => ([], writer)

/-- Opens a block after closing the one before. -/
def beginBlock (writer : EventWriter) (kind : BlockKind) (block : Block) :
    List Event × EventWriter :=
  let (closing, writer) := writer.closeBlock
  let index := writer.nextIndex
  (closing ++ [.blockStart index block],
    { writer with openBlock := some ⟨index, kind⟩, nextIndex := index + 1 })

/-- Makes sure that a block of text or thinking is open; tells its index. -/
def ensureBlock (writer : EventWriter) (kind : BlockKind) : Nat × List Event × EventWriter :=
  match writer.openBlock.filter fun block => block.kind = kind with
  | some block => (block.index, [], writer)
  | none =>
      let block : Block := match kind with
        | .thinking => .thinking "" none
        | _ => .ofText ""
      (writer.nextIndex, writer.beginBlock kind block)

/-- The header of the message, once. -/
def startMessage (writer : EventWriter) (id model : String) : List Event × EventWriter :=
  if writer.started then ([], writer)
  else
    ([.messageStart ⟨id, model, .assistant, writer.usage⟩], { writer with started := true })

/-- Text of the answer. -/
def writeText (writer : EventWriter) (text : String) : List Event × EventWriter :=
  if text.isEmpty then ([], writer)
  else
    let (index, events, writer) := writer.ensureBlock .text
    (events ++ [.blockDelta index (.text text)], writer)

/-- Text of the model's thoughts. -/
def writeThinking (writer : EventWriter) (thinking : String) : List Event × EventWriter :=
  if thinking.isEmpty then ([], writer)
  else
    let (index, events, writer) := writer.ensureBlock .thinking
    (events ++ [.blockDelta index (.thinking thinking)], writer)

/-- The block index of a tool. -/
def toolIndex? (writer : EventWriter) (key : Nat) : Option Nat :=
  (writer.tools.find? fun tool => tool.1 = key).map Prod.snd

/-- Whether a tool has been opened. -/
def hasTool (writer : EventWriter) (key : Nat) : Bool := (writer.toolIndex? key).isSome

/-- Opens the block of a tool. -/
def startTool (writer : EventWriter) (key : Nat) (id name : String) :
    List Event × EventWriter :=
  let index := writer.closeBlock.2.nextIndex
  let (events, writer) := writer.beginBlock .toolUse (.toolUse id name (.object []))
  (events, { writer with tools := (key, index) :: writer.tools })

/-- Part of the arguments of a tool; dropped unless the tool's block is the open one. -/
def writeArguments (writer : EventWriter) (key : Nat) (arguments : String) :
    List Event × EventWriter :=
  if arguments.isEmpty then ([], writer)
  else
    match writer.toolIndex? key with
    | none => ([], writer)
    | some index =>
        if writer.openBlock.map OpenBlock.index = some index then
          ([.blockDelta index (.inputJson arguments)], writer)
        else ([], writer)

/-- Notes why the model stopped. -/
def setStopReason (writer : EventWriter) (reason : StopReason) : EventWriter :=
  { writer with stopReason := some reason }

/-- Notes the token counts. -/
def setUsage (writer : EventWriter) (usage : Usage) : EventWriter := { writer with usage }

/-- Closes the open block and ends the message, once.  Without a noted reason the message ended with
a tool if there was one, and with its turn if not. -/
def finish (writer : EventWriter) : List Event × EventWriter :=
  if writer.finished then ([], writer)
  else
    let (closing, writer) := { writer with finished := true }.closeBlock
    let fallback : StopReason := if writer.tools.isEmpty then .endTurn else .toolUse
    let reason := writer.stopReason.getD fallback
    (closing ++ [.messageDelta ⟨some reason, none⟩ (some writer.usage), .messageStop], writer)

end EventWriter

end ChatGateway
