import ChatGateway.Stream.Pump

/-!
# What a delivery is told

The provider's side of a pump turns the portions of a body into signals: chunks out of the chain,
failures, and the closure of the stream.  It never looks at what the caller has been sent, and the
caller's side looks at nothing but the signals.  So reading a body to its end is one run of the
delivery over the signals of the body, and what a stream delivers can be proved of runs over
signals, whatever chain and bytes they come from.
-/

namespace ChatGateway

/-- What happens to a stream, as the caller's side is told. -/
inductive Signal where
  /-- A chunk came out of the chain. -/
  | chunk (chunk : Chunk)
  /-- A stage, the transport or the reader of frames failed. -/
  | failure (failure : Failure)
  /-- The provider's stream is over and every stage has been told. -/
  | closure
  deriving Inhabited

namespace Signal

/-- The event that a signal carries. -/
def event? : Signal → Option Event
  | .chunk (.event _ data) => Event.decode? data
  | .chunk .done => none
  | .failure cause => some (.error cause.errorBody)
  | .closure => none

/-- The reason with which a signal closes the message, if it does. -/
def closing? (signal : Signal) : Option (Option StopReason) :=
  match signal, signal.event? with
  | .chunk .done, _ => some (some .endTurn)
  | .closure, _ => some (some .endTurn)
  | _, some (.error _) => some none
  | _, _ => none

end Signal

namespace Delivery

/-- Passes on an event that belongs to no block or to one that is open. -/
def relay (delivery : Delivery) : Option Event → List Event × Delivery
  | none => ([], delivery)
  | some event =>
      if delivery.admits event then ([event], delivery.note event) else ([], delivery)

/-- Takes in a signal: its event is passed on, and then the message closed if it has to be. -/
def take (delivery : Delivery) (signal : Signal) : List Event × Delivery :=
  let (sent, delivery) := delivery.relay signal.event?
  match signal.closing? with
  | none => (sent, delivery)
  | some reason =>
      let (closing, delivery) := delivery.close reason
      (sent ++ closing, delivery)

/-- Takes in signals up to the end of the message. -/
def run (delivery : Delivery) : List Signal → List Event × Delivery
  | [] => ([], delivery)
  | signal :: rest =>
      if delivery.stopped then ([], delivery)
      else
        let (sent, delivery) := delivery.take signal
        let (more, delivery) := delivery.run rest
        (sent ++ more, delivery)

@[simp] theorem run_nil (delivery : Delivery) : delivery.run [] = ([], delivery) := rfl

/-- Nothing follows the end. -/
theorem run_of_stopped {delivery : Delivery} (stopped : delivery.stopped = true)
    (signals : List Signal) : delivery.run signals = ([], delivery) := by
  cases signals with
  | nil => rfl
  | cons signal rest => simp [run, stopped]

theorem run_cons {delivery : Delivery} (running : delivery.stopped = false) (signal : Signal)
    (rest : List Signal) :
    delivery.run (signal :: rest) =
      ((delivery.take signal).1 ++ ((delivery.take signal).2.run rest).1,
        ((delivery.take signal).2.run rest).2) := by
  simp [run, running]

theorem run_append (delivery : Delivery) (earlier later : List Signal) :
    delivery.run (earlier ++ later) =
      ((delivery.run earlier).1 ++ ((delivery.run earlier).2.run later).1,
        ((delivery.run earlier).2.run later).2) := by
  induction earlier generalizing delivery with
  | nil => simp
  | cons signal rest ih =>
      cases stopped : delivery.stopped with
      | true => simp [run_of_stopped stopped]
      | false =>
          rw [List.cons_append, run_cons stopped, run_cons stopped, ih]
          simp only [List.append_assoc]

theorem stopped_close (delivery : Delivery) (reason : Option StopReason) :
    (delivery.close reason).2.stopped = true := by
  rw [close]
  split
  · assumption
  · rfl

theorem stopped_take (delivery : Delivery) (signal : Signal) {reason : Option StopReason}
    (closes : signal.closing? = some reason) :
    (delivery.take signal).2.stopped = true := by
  simp only [take, closes, stopped_close]

end Delivery

/-- The provider's side of a pump. -/
structure Upstream where
  chain : Chain
  context : Context
  writers : List EventWriter
  reader : FrameReader
  supply : Supply
  deriving Inhabited

/-- The provider's side of a pump. -/
def Pump.upstream (pump : Pump) : Upstream :=
  ⟨pump.chain, pump.context, pump.writers, pump.reader, pump.supply⟩

namespace Upstream

/-- The signals of a chunk that enters the chain. -/
def emit (upstream : Upstream) (chunk : Chunk) : List Signal × Upstream :=
  match upstream.chain.applyChunk chunk upstream.context upstream.writers upstream.supply with
  | (.ok chunks, writers, supply) =>
      (chunks.map .chunk, { upstream with writers, supply })
  | (.error failure, writers, supply) =>
      ([.failure failure], { upstream with writers, supply })

/-- The signals of chunks that enter the chain one after the other. -/
def emitAll (upstream : Upstream) : List Chunk → List Signal × Upstream
  | [] => ([], upstream)
  | chunk :: rest =>
      let (signals, upstream) := upstream.emit chunk
      let (more, upstream) := upstream.emitAll rest
      (signals ++ more, upstream)

/-- The signals of bytes that arrive. -/
def emitBytes (upstream : Upstream) (bytes : List UInt8) : List Signal × Upstream :=
  match upstream.reader.push bytes with
  | (some frames, reader) =>
      { upstream with reader }.emitAll (frames.filterMap Pump.chunkOf?)
  | (none, reader) => ([.failure Pump.oversized], { upstream with reader })

/-- The chunks that enter the chain when the provider's stream is over. -/
def lastChunks (upstream : Upstream) : List Chunk :=
  (upstream.reader.finish.1.bind Pump.chunkOf?).toList ++ [.done]

/-- The signals of the rest of a body.  A failure of the transport is the last one. -/
def signals (upstream : Upstream) : List BodyPart → List Signal
  | [] =>
      ({ upstream with reader := upstream.reader.finish.2 }.emitAll upstream.lastChunks).1 ++
        [.closure]
  | .bytes bytes :: rest =>
      let (signals, upstream) := upstream.emitBytes bytes
      signals ++ upstream.signals rest
  | .failure failure :: _ => [.failure failure]
  | .delay _ :: rest => upstream.signals rest

end Upstream

namespace Pump

theorem run_of_isDone {pump : Pump} (done : pump.isDone = true) (signals : List Signal) :
    pump.delivery.run signals = ([], pump.delivery) :=
  Delivery.run_of_stopped done signals

/-- A step of a pump sends what the delivery does with some signals, and unless the message is over
the provider's side stands where it stood after them. -/
structure Delivers (delivery : Delivery) (signals : List Signal) (ahead : Upstream)
    (result : List Event × Pump) : Prop where
  ran : delivery.run signals = (result.1, result.2.delivery)
  kept : result.2.isDone = false → result.2.upstream = ahead

/-- What follows a step may look at the provider's side as the step left it: if the message is over,
nothing follows. -/
theorem Delivers.run {delivery : Delivery} {signals : List Signal} {ahead : Upstream}
    {result : List Event × Pump} (first : Delivers delivery signals ahead result)
    (more : Upstream → List Signal) :
    delivery.run (signals ++ more ahead) =
      (result.1 ++ (result.2.delivery.run (more result.2.upstream)).1,
        (result.2.delivery.run (more result.2.upstream)).2) := by
  rw [Delivery.run_append, first.ran]
  cases done : result.2.isDone with
  | false => rw [first.kept done]
  | true => simp only [run_of_isDone done]

theorem Delivers.append {delivery : Delivery} {signals : List Signal} {ahead : Upstream}
    {result next : List Event × Pump} (first : Delivers delivery signals ahead result)
    (more : Upstream → List Signal × Upstream)
    (second : Delivers result.2.delivery (more result.2.upstream).1 (more result.2.upstream).2
      next) :
    Delivers delivery (signals ++ (more ahead).1) (more ahead).2
      (result.1 ++ next.1, next.2) where
  ran := by rw [first.run fun upstream => (more upstream).1, second.ran]
  kept running := by
    cases done : result.2.isDone with
    | false => rw [← first.kept done, second.kept running]
    | true =>
        have nothing := second.ran
        rw [run_of_isDone done, Prod.mk.injEq] at nothing
        rw [isDone, ← nothing.2] at running
        simp [isDone, running] at done

theorem sendChunk_eq (pump : Pump) (chunk : Chunk) :
    pump.sendChunk chunk =
      ((pump.delivery.take (.chunk chunk)).1,
        { pump with delivery := (pump.delivery.take (.chunk chunk)).2 }) := by
  cases chunk with
  | done => rfl
  | event name data =>
      cases decoded : Event.decode? data with
      | none => simp [sendChunk, Delivery.take, Delivery.relay, Signal.event?, Signal.closing?,
          decoded]
      | some event =>
          cases admitted : pump.delivery.admits event with
          | false =>
              cases event with
              | error body => simp [Delivery.admits] at admitted
              | _ => simp [sendChunk, send, decoded, admitted, Delivery.take, Delivery.relay,
                  Signal.event?, Signal.closing?]
          | true =>
              cases event <;>
                simp [sendChunk, send, close, decoded, admitted, Delivery.take, Delivery.relay,
                  Signal.event?, Signal.closing?]

theorem fail_eq (pump : Pump) (cause : Failure) :
    pump.fail cause =
      ((pump.delivery.take (.failure cause)).1,
        { pump with delivery := (pump.delivery.take (.failure cause)).2 }) := rfl

theorem sendAll_eq (pump : Pump) (chunks : List Chunk) :
    pump.sendAll chunks =
      ((pump.delivery.run (chunks.map .chunk)).1,
        { pump with delivery := (pump.delivery.run (chunks.map .chunk)).2 }) := by
  induction chunks generalizing pump with
  | nil => rfl
  | cons chunk rest ih =>
      cases stopped : pump.delivery.stopped with
      | true => simp [sendAll, isDone, stopped, Delivery.run_of_stopped stopped]
      | false =>
          simp only [sendAll, isDone, stopped, sendChunk_eq, ih, List.map_cons,
            Delivery.run_cons stopped, Bool.false_eq_true, if_false]

theorem delivers_takeChunk {pump : Pump} (running : pump.isDone = false) (chunk : Chunk) :
    Delivers pump.delivery (pump.upstream.emit chunk).1 (pump.upstream.emit chunk).2
      (pump.takeChunk chunk) := by
  have unstopped : pump.delivery.stopped = false := running
  rw [takeChunk, Upstream.emit]
  simp only [upstream]
  rcases pump.chain.applyChunk chunk pump.context pump.writers pump.supply with
    ⟨outcome, writers, supply⟩
  cases outcome with
  | ok chunks =>
      simp only [sendAll_eq]
      exact ⟨rfl, fun _ => rfl⟩
  | error cause =>
      simp only [fail_eq]
      exact ⟨by simp [Delivery.run_cons unstopped], fun _ => rfl⟩

/-- A frame that is no chunk says nothing. -/
theorem delivers_takeFrame {pump : Pump} (running : pump.isDone = false) (frame : Frame) :
    Delivers pump.delivery (pump.upstream.emitAll (chunkOf? frame).toList).1
      (pump.upstream.emitAll (chunkOf? frame).toList).2 (pump.takeFrame frame) := by
  rw [takeFrame]
  cases chunkOf? frame with
  | none => exact ⟨rfl, fun _ => rfl⟩
  | some chunk => simpa [Upstream.emitAll] using delivers_takeChunk running chunk

end Pump

namespace Upstream

theorem emitAll_append (upstream : Upstream) (earlier later : List Chunk) :
    upstream.emitAll (earlier ++ later) =
      ((upstream.emitAll earlier).1 ++ ((upstream.emitAll earlier).2.emitAll later).1,
        ((upstream.emitAll earlier).2.emitAll later).2) := by
  induction earlier generalizing upstream with
  | nil => rfl
  | cons chunk rest ih => simp only [List.cons_append, emitAll, ih, List.append_assoc]

end Upstream

namespace Pump

theorem delivers_takeFrames (sent : List (List Event)) (pump : Pump) (frames : List Frame) :
    ∃ batches, (takeFrames sent pump frames).1 = batches ++ sent ∧
      Delivers pump.delivery (pump.upstream.emitAll (frames.filterMap chunkOf?)).1
        (pump.upstream.emitAll (frames.filterMap chunkOf?)).2
        (batches.reverse.flatten, (takeFrames sent pump frames).2) := by
  induction frames generalizing sent pump with
  | nil => exact ⟨[], rfl, rfl, fun _ => rfl⟩
  | cons frame rest ih =>
      cases done : pump.isDone with
      | true =>
          refine ⟨[], by simp [takeFrames, done], ?_, ?_⟩
          · simpa [takeFrames, done] using run_of_isDone done _
          · simp [takeFrames, done]
      | false =>
          obtain ⟨batches, joined, later⟩ :=
            ih ((pump.takeFrame frame).1 :: sent) (pump.takeFrame frame).2
          refine ⟨batches ++ [(pump.takeFrame frame).1], by simp [takeFrames, done, joined], ?_⟩
          have both := (delivers_takeFrame done frame).append
            (fun upstream => upstream.emitAll (rest.filterMap chunkOf?)) later
          have split : (frame :: rest).filterMap chunkOf? =
              (chunkOf? frame).toList ++ rest.filterMap chunkOf? := by
            cases chunk : chunkOf? frame <;> simp [chunk]
          rw [split, Upstream.emitAll_append]
          simpa [takeFrames, done] using both

theorem delivers_takeBytes {pump : Pump} (running : pump.isDone = false) (bytes : List UInt8) :
    Delivers pump.delivery (pump.upstream.emitBytes bytes).1 (pump.upstream.emitBytes bytes).2
      (pump.takeBytes bytes) := by
  have unstopped : pump.delivery.stopped = false := running
  rw [takeBytes, Upstream.emitBytes]
  simp only [upstream]
  rcases pump.reader.push bytes with ⟨frames, reader⟩
  cases frames with
  | none =>
      simp only [fail_eq]
      exact ⟨by simp [Delivery.run_cons unstopped], fun _ => rfl⟩
  | some frames =>
      obtain ⟨batches, joined, delivers⟩ := delivers_takeFrames [] { pump with reader } frames
      simp only [joined, List.append_nil]
      exact delivers

theorem delivers_close (pump : Pump) :
    Delivers pump.delivery [.closure] pump.upstream (pump.close (some .endTurn)) := by
  refine ⟨?_, fun _ => rfl⟩
  cases stopped : pump.delivery.stopped with
  | true => simp [Delivery.run_of_stopped stopped, close, Delivery.close, stopped]
  | false => simp [Delivery.run_cons stopped, Delivery.take, Delivery.relay, Signal.event?,
      Signal.closing?, close]

/-- A frame that is left over, if there is one, is taken as any other. -/
theorem delivers_takeLast {pump : Pump} (running : pump.isDone = false) (frame : Option Frame) :
    Delivers pump.delivery (pump.upstream.emitAll (frame.bind chunkOf?).toList).1
      (pump.upstream.emitAll (frame.bind chunkOf?).toList).2
      (frame.elim ([], pump) pump.takeFrame) := by
  cases frame with
  | none => exact ⟨rfl, fun _ => rfl⟩
  | some frame =>
      rw [Option.bind_some, Option.elim_some]
      exact delivers_takeFrame running frame

/-- The end mark passes the chain unless the message is over. -/
theorem delivers_takeDone (pump : Pump) :
    Delivers pump.delivery (pump.upstream.emitAll [.done]).1 (pump.upstream.emitAll [.done]).2
      (if pump.isDone then ([], pump) else pump.takeChunk .done) := by
  cases done : pump.isDone with
  | true => exact ⟨run_of_isDone done _, by simp [done]⟩
  | false => simpa [Upstream.emitAll] using delivers_takeChunk done .done

/-- When the provider's stream is over, the caller is sent what the last signals ask for. -/
theorem run_finish {pump : Pump} (running : pump.isDone = false) :
    pump.delivery.run (pump.upstream.signals []) =
      (pump.finish.1, pump.finish.2.delivery) := by
  rw [finish, Upstream.signals, Upstream.lastChunks]
  simp only [upstream]
  rcases pump.reader.finish with ⟨frame, reader⟩
  have emptied : ({ pump with reader } : Pump).isDone = false := running
  have last := delivers_takeLast emptied frame
  have all := (last.append (fun upstream => upstream.emitAll [.done]) (delivers_takeDone _)).append
    (fun upstream => ([.closure], upstream)) (delivers_close _)
  rw [Upstream.emitAll_append]
  refine all.ran.trans ?_
  cases frame with
  | none => rw [Option.elim_none]
  | some frame => rw [Option.elim_some]

end Pump

/-- Reading a body to its end adds what the delivery does with the signals of the body. -/
theorem StreamRun.events_readAll (pump : Pump) (batches : List (List Event)) (now : Nat)
    (parts : List BodyPart) :
    (StreamRun.readAll ⟨pump, batches, none, now⟩ parts).events =
      batches.reverse.flatten ++ (pump.delivery.run (pump.upstream.signals parts)).1 := by
  induction parts generalizing pump batches now with
  | nil =>
      cases done : pump.isDone with
      | true =>
          simp [readAll, isOver, done, events, Pump.run_of_isDone done]
      | false =>
          simp [readAll, isOver, done, events, read, Pump.run_finish done]
  | cons part rest ih =>
      cases done : pump.isDone with
      | true =>
          simp [readAll, isOver, done, events, Pump.run_of_isDone done]
      | false =>
          cases part with
          | bytes bytes =>
              have taken := (Pump.delivers_takeBytes done bytes).run
                fun upstream => upstream.signals rest
              simp [readAll, isOver, done, read, Upstream.signals, ih, taken]
          | failure cause =>
              have stopped : pump.delivery.stopped = false := done
              have ended := Delivery.stopped_take pump.delivery (.failure cause) rfl
              simp [readAll, isOver, done, read, Upstream.signals, ih, Pump.fail_eq,
                Delivery.run_cons stopped, Delivery.run_of_stopped, ended]
          | delay duration => simp [readAll, isOver, done, Upstream.signals, ih]

/-- A body that is read to its end delivers what one run over its signals does. -/
theorem Pump.events_eq_run (pump : Pump) (parts : List BodyPart) :
    pump.events parts = (pump.delivery.run (pump.upstream.signals parts)).1 := by
  simp [events, StreamRun.events_readAll]

end ChatGateway
