import ChatGateway.Proofs.Message.ReadBack
import ChatGateway.Proofs.Stage.Written
import ChatGateway.Proofs.Stream.Ending

/-!
# Whole messages

A message that a stage writes reaches the caller whole.  The caller's side follows the outline that
the writer keeps, except for blocks with indices beyond 64 bits, which come after all others.  When
the stream fails in the middle, what the caller is owed is just what the outline leaves to write.
-/

namespace ChatGateway

namespace Signal

/-- The signal of an event that comes out of a chain. -/
def ofEvent (event : Event) : Signal := .chunk (.ofEvent event)

theorem event?_ofEvent {event : Event} (plain : event.Plain) :
    (ofEvent event).event? = if event.indexFits then some event else none :=
  Event.decode?_encode_of_plain plain

/-- Only a failure closes the message. -/
theorem closing?_ofEvent {event : Event} (plain : event.Plain) :
    (ofEvent event).closing? = if event.isError then some none else none := by
  have carried := event?_ofEvent plain
  simp only [ofEvent, Chunk.ofEvent] at carried
  simp only [closing?, ofEvent, Chunk.ofEvent, carried]
  cases fits : event.indexFits with
  | true => cases event <;> rfl
  | false =>
      cases event with
      | error body => cases fits
      | _ => rfl

end Signal

namespace Outline

/-- Whether the caller's side makes a whole message of signals, of which so much has been
written. -/
def Concludes (outline : Outline) (signals : List Signal) : Prop :=
  Follows outline.clip (outline.clip.delivery.run signals).1 .stopped

theorem eq_stopped {outline : Outline} (stopped : outline.delivery.stopped = true) :
    outline = .stopped := by
  cases outline <;> simp_all [delivery]

theorem concludes_of_stopped {outline : Outline} (stopped : outline.clip.delivery.stopped = true)
    (signals : List Signal) : outline.Concludes signals := by
  rw [Concludes, Delivery.run_of_stopped stopped, eq_stopped stopped]
  exact .nil _

/-- A signal that closes the message completes it, whatever comes after the signal. -/
theorem concludes_of_closing (outline : Outline) {signal : Signal} {reason : Option StopReason}
    (closes : signal.closing? = some reason) (rest : List Signal) :
    outline.Concludes (signal :: rest) := by
  cases stopped : outline.clip.delivery.stopped with
  | true => exact concludes_of_stopped stopped _
  | false =>
      have left := follows_close stopped reason
      have ended := Delivery.stopped_take outline.clip.delivery signal closes
      rw [Concludes, Delivery.run_cons stopped, Delivery.run_of_stopped ended,
        Delivery.take_of_closing closes, List.append_nil]
      rcases Signal.event?_of_closing closes with none | ⟨body, failure⟩
      · simpa [none] using left
      · simpa [failure] using Follows.cons (.failure _ body) left

theorem Step.concludes {before after : Outline} {event : Event} (step : Step before event after)
    (plain : event.Plain) {rest : List Signal} (goesOn : after.Concludes rest) :
    before.Concludes (.ofEvent event :: rest) := by
  cases stopped : before.clip.delivery.stopped with
  | true => exact concludes_of_stopped stopped _
  | false =>
      have carried := Signal.event?_ofEvent plain
      have quiet := Signal.closing?_ofEvent plain
      cases failed : event.isError with
      | true =>
          rw [if_pos failed] at quiet
          exact concludes_of_closing _ quiet rest
      | false =>
          rw [if_neg (by simp [failed])] at quiet
          cases fits : event.indexFits with
          | true =>
              rw [if_pos fits] at carried
              have clipped := step.clip fits
              have taken : before.clip.delivery.take (.ofEvent event) =
                  ([event], after.clip.delivery) := by
                simp [Delivery.take, Delivery.relay, carried, quiet, clipped.delivery]
              rw [Concludes, Delivery.run_cons stopped, taken]
              exact .cons clipped goesOn
          | false =>
              rw [if_neg (by simp [fits])] at carried
              have taken : before.clip.delivery.take (.ofEvent event) =
                  ([], before.clip.delivery) := by
                simp [Delivery.take, Delivery.relay, carried, quiet]
              rw [Concludes, Delivery.run_cons stopped, taken, step.clip_eq fits]
              exact goesOn

theorem Follows.concludes {before after : Outline} {events : List Event}
    (follows : Follows before events after) (plain : ∀ event ∈ events, event.Plain)
    {rest : List Signal} (goesOn : after.Concludes rest) :
    before.Concludes (events.map .ofEvent ++ rest) := by
  induction follows with
  | nil => exact goesOn
  | cons step _ ih =>
      apply step.concludes (plain _ List.mem_cons_self)
      apply ih _ goesOn
      intro event member
      exact plain event (.tail _ member)

end Outline

namespace Upstream

/-- Whether what comes out of the chain is written by a writer. -/
structure WrittenBy (upstream : Upstream) (writer : EventWriter) : Prop where
  place : Chain.WrittenBy upstream.context writer upstream.chain.stages upstream.writers
  sound : writer.Sound

variable {upstream : Upstream} {writer : EventWriter}

/-- A chunk that enters the chain is written further, or the stream fails. -/
theorem concludes_emit (written : upstream.WrittenBy writer) (chunk : Chunk)
    (more : Upstream → List Signal)
    (goesOn : ∀ next last, WrittenBy next last → last.outline.Concludes (more next)) :
    writer.outline.Concludes ((upstream.emit chunk).1 ++ more (upstream.emit chunk).2) := by
  rw [emit, Chain.applyChunk]
  rcases passed : Chain.chunkThrough chunk upstream.context upstream.supply upstream.chain.stages
    upstream.writers with ⟨outcome, writers, supply⟩
  cases outcome with
  | error cause =>
      exact writer.outline.concludes_of_closing (by rfl) _
  | ok chunks =>
      obtain ⟨events, last, rfl, emits, place⟩ :=
        Chain.emits_chunkThrough written.sound written.place passed
      have later := goesOn { upstream with writers, supply } last ⟨place, emits.sound⟩
      simp only [List.map_map]
      exact emits.follows.concludes emits.plain later

theorem concludes_emitAll (written : upstream.WrittenBy writer) (chunks : List Chunk)
    (more : Upstream → List Signal)
    (goesOn : ∀ next last, WrittenBy next last → last.outline.Concludes (more next)) :
    writer.outline.Concludes ((upstream.emitAll chunks).1 ++ more (upstream.emitAll chunks).2) := by
  induction chunks generalizing upstream writer with
  | nil => exact goesOn upstream writer written
  | cons chunk rest ih =>
      have first := concludes_emit written chunk
        (fun upstream => (upstream.emitAll rest).1 ++ more (upstream.emitAll rest).2)
        fun next last still => ih still
      simpa only [emitAll, List.append_assoc] using first

theorem concludes_signals (written : upstream.WrittenBy writer) (parts : List BodyPart) :
    writer.outline.Concludes (upstream.signals parts) := by
  induction parts generalizing upstream writer with
  | nil =>
      have still : WrittenBy { upstream with reader := upstream.reader.finish.2 } writer :=
        ⟨written.place, written.sound⟩
      exact concludes_emitAll still upstream.lastChunks (fun _ => [.closure])
        fun next last _ => last.outline.concludes_of_closing (by rfl) []
  | cons part rest ih =>
      cases part with
      | bytes bytes =>
          rw [signals, emitBytes]
          rcases upstream.reader.push bytes with ⟨frames, reader⟩
          cases frames with
          | none => exact writer.outline.concludes_of_closing (by rfl) _
          | some frames =>
              have still : WrittenBy { upstream with reader } writer :=
                ⟨written.place, written.sound⟩
              exact concludes_emitAll still _ (fun upstream => upstream.signals rest)
                fun next last later => ih later
      | failure cause => exact writer.outline.concludes_of_closing (by rfl) _
      | delay duration => exact ih written

end Upstream

/-- A stage that writes, behind stages that let its events pass, makes the caller see a whole message
and at most one failure, whatever the provider sends and however its stream ends. -/
theorem Pump.delivered_isMessage {before after : List Stage} {stage : Stage} {context : Context}
    (passes : ∀ other ∈ before, other.PassesEvents) (writes : stage.WritesEvents context)
    (supply : Supply) (parts : List BodyPart) :
    let events := (Pump.new ⟨before ++ stage :: after⟩ context supply).events parts
    Event.FailsOnce events ∧ Event.IsMessage (events.filter fun event => !event.isError) := by
  intro events
  have concluded : EventWriter.new.outline.Concludes
      ((Pump.new ⟨before ++ stage :: after⟩ context supply).upstream.signals parts) :=
    Upstream.concludes_signals ⟨Chain.writtenBy_newWriters passes writes, EventWriter.sound_new⟩
      parts
  refine ⟨Pump.failsOnce_events _ rfl parts, ?_⟩
  simp only [events, events_eq_run]
  exact concluded.isMessage

/-- A text that breaks off, behind a limit. -/
theorem Pump.delivered_isMessage_limit :
    let context : Context :=
      ⟨⟨1⟩, "google", "flash", true, [(Wire.Vertex.familyKey, .string "gemini")]⟩
    let chain : Chain := ⟨[.maxtoken 64, .vertex [], .cleancache]⟩
    let bytes := "data: \x7b\"candidates\": [\x7b\"content\": \x7b\"parts\": [\x7b\"text\": \"a\"\x7d]\x7d\x7d]\x7d\n\n"
    let events := (Pump.new chain context ⟨0⟩).events [.bytes bytes.toUTF8.toList, .failure oversized]
    Event.FailsOnce events ∧ Event.IsMessage (events.filter fun event => !event.isError) := by
  intro context chain bytes
  have passes : ∀ other ∈ [Stage.maxtoken 64], other.PassesEvents := by simp [Stage.PassesEvents]
  have writes : (Stage.vertex []).WritesEvents context := rfl
  exact delivered_isMessage passes writes ⟨0⟩ _

end ChatGateway
