import ChatGateway.Stage.Chain
import ChatGateway.Stream.Delivery
import ChatGateway.Stream.Frame
import ChatGateway.Text.Blank
import ChatGateway.Transport.Body

/-!
# Pumping streams

The bytes of a provider's stream are cut into frames, every frame passes the chain of stages,
and what comes out is sent to the caller as soon as it is complete.
-/

namespace ChatGateway

/-- A stream on its way. -/
structure Pump where
  chain : Chain
  context : Context
  writers : List EventWriter
  reader : FrameReader
  delivery : Delivery
  supply : Supply
  deriving Inhabited

namespace Pump

/-- A stream of which nothing has arrived. -/
def new (chain : Chain) (context : Context) (supply : Supply) : Pump :=
  ⟨chain, context, chain.newWriters, .new, .new, supply⟩

/-- Whether the end has been sent. -/
def isDone (pump : Pump) : Bool := pump.delivery.stopped

/-- The chunk of a frame: the end mark, or its data where that is JSON. -/
def chunkOf? (frame : Frame) : Option Chunk :=
  let data := Text.trim frame.data
  if data = "[DONE]" then some .done
  else (Json.parse? data).map fun value => .event frame.event value

/-- The events that end a stream. -/
def close (pump : Pump) (reason : Option StopReason) : List Event × Pump :=
  let (events, delivery) := pump.delivery.close reason
  (events, { pump with delivery })

/-- Ends a stream that failed. -/
def fail (pump : Pump) (failure : Failure) : List Event × Pump :=
  let (events, pump) := pump.close none
  (.error failure.errorBody :: events, pump)

/-- Sends an event, unless it belongs to a block that is not open.  After an error comes the
end. -/
def send (pump : Pump) (event : Event) : List Event × Pump :=
  if pump.delivery.admits event then
    let pump := { pump with delivery := pump.delivery.note event }
    match event with
    | .error _ =>
        let (events, pump) := pump.close none
        (event :: events, pump)
    | _ => ([event], pump)
  else ([], pump)

/-- Sends what came out of the chain for one chunk.  What is no event is skipped. -/
def sendChunk (pump : Pump) : Chunk → List Event × Pump
  | .done => pump.close (some .endTurn)
  | .event _ data =>
      match Event.decode? data with
      | some event => pump.send event
      | none => ([], pump)

/-- Sends what came out of the chain, up to the end. -/
def sendAll (pump : Pump) : List Chunk → List Event × Pump
  | [] => ([], pump)
  | chunk :: rest =>
      if pump.isDone then ([], pump)
      else
        let (events, pump) := pump.sendChunk chunk
        let (more, pump) := pump.sendAll rest
        (events ++ more, pump)

/-- Passes a chunk through the chain. -/
def takeChunk (pump : Pump) (chunk : Chunk) : List Event × Pump :=
  match pump.chain.applyChunk chunk pump.context pump.writers pump.supply with
  | (.ok chunks, writers, supply) => { pump with writers, supply }.sendAll chunks
  | (.error failure, writers, supply) => { pump with writers, supply }.fail failure

/-- Passes a frame through the chain; one that is no chunk is skipped. -/
def takeFrame (pump : Pump) (frame : Frame) : List Event × Pump :=
  match chunkOf? frame with
  | some chunk => pump.takeChunk chunk
  | none => ([], pump)

/-- Passes frames through the chain up to the end, after the events `sent`, the latest batch
first. -/
def takeFrames (sent : List (List Event)) (pump : Pump) : List Frame → List (List Event) × Pump
  | [] => (sent, pump)
  | frame :: rest =>
      if pump.isDone then (sent, pump)
      else
        let (events, pump) := pump.takeFrame frame
        takeFrames (events :: sent) pump rest

/-- The failure of a frame that does not end. -/
def oversized : Failure :=
  .network .body
    ("SSE event exceeded maximum size (" ++ toString FrameReader.capacity ++ " bytes)")

/-- Takes in bytes. -/
def takeBytes (pump : Pump) (bytes : List UInt8) : List Event × Pump :=
  match pump.reader.push bytes with
  | (some frames, reader) =>
      let (sent, pump) := takeFrames [] { pump with reader } frames
      (sent.reverse.flatten, pump)
  | (none, reader) => { pump with reader }.fail oversized

/-- The provider's stream has ended: the last frame and the end mark pass the chain. -/
def finish (pump : Pump) : List Event × Pump :=
  let (frame, reader) := pump.reader.finish
  let pump := { pump with reader }
  let (last, pump) := match frame with
    | some frame => pump.takeFrame frame
    | none => ([], pump)
  let (ending, pump) := if pump.isDone then ([], pump) else pump.takeChunk .done
  let (closing, pump) := pump.close (some .endTurn)
  (last ++ ending ++ closing, pump)

end Pump

/-- How far a caller reads, and when: milliseconds since the gateway began. -/
structure StreamRun where
  pump : Pump
  /-- The batches of events read, the latest first. -/
  batches : List (List Event)
  /-- How many events the caller still wants, if it does not want all. -/
  wanted : Option Nat
  now : Nat
  deriving Inhabited

namespace StreamRun

/-- Reads a batch of events, as far as the caller wants. -/
def read (run : StreamRun) (events : List Event) (pump : Pump) : StreamRun :=
  match run.wanted with
  | none => { run with pump, batches := events :: run.batches }
  | some wanted =>
      { run with
        pump
        batches := events.take wanted :: run.batches
        wanted := some (wanted - events.length) }

/-- Whether the caller reads no more. -/
def isOver (run : StreamRun) : Bool := run.pump.isDone || run.wanted == some 0

/-- Reads a body to its end, to the end of the stream or as far as the caller wants. -/
def readAll (run : StreamRun) : List BodyPart → StreamRun
  | [] =>
      if run.isOver then run
      else
        let (events, pump) := run.pump.finish
        run.read events pump
  | part :: rest =>
      if run.isOver then run
      else
        match part with
        | .bytes bytes =>
            let (events, pump) := run.pump.takeBytes bytes
            (run.read events pump).readAll rest
        | .failure failure =>
            let (events, pump) := run.pump.fail failure
            (run.read events pump).readAll rest
        | .delay duration => { run with now := run.now + duration }.readAll rest

/-- The events read. -/
def events (run : StreamRun) : List Event := run.batches.reverse.flatten

end StreamRun

/-- The events of a body that is read to its end. -/
def Pump.events (pump : Pump) (parts : List BodyPart) : List Event :=
  (StreamRun.readAll ⟨pump, [], none, 0⟩ parts).events

end ChatGateway
