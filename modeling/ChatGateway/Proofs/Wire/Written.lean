import ChatGateway.Proofs.Stage.Writing
import ChatGateway.Stage.Basic

/-!
# What the readers of bare deltas write

The chat completions protocol and the generate-content protocol stream deltas without blocks.
Whatever a chunk of theirs says, its reader writes events that may come next in the message, and
leaves the writer as sound as it was.
-/

namespace ChatGateway.Wire

open EventWriter

variable {writer : EventWriter}

/-! ## Chat completions -/

namespace ChatCompletions

theorem fits_of_decodeCached? {value : Json} {cached : Option Nat}
    (read : decodeCached? value = some cached) : ∀ count ∈ cached, Word.fits 32 count = true := by
  obtain ⟨source, -, found⟩ := Option.bind_eq_some_iff.mp read
  exact Json.Source.fits_of_optional found

theorem fits_of_decodeUsage? {value : Json} {usage : Usage}
    (read : decodeUsage? value = some usage) : usage.Fits := by
  simp only [decodeUsage?, Option.bind_eq_bind, Option.bind_eq_some_iff] at read
  obtain ⟨source, -, input, foundInput, output, foundOutput, cached, foundCached, equal⟩ := read
  cases equal
  refine ⟨Json.Source.fits_of_withDefault foundInput, Json.Source.fits_of_withDefault foundOutput,
    ?_⟩
  have details := Json.Source.of_optional
    (fun cached => ∀ count ∈ cached, Word.fits 32 count = true)
    (fun _ _ => fits_of_decodeCached?) foundCached
  intro count found
  obtain ⟨inner, member, same⟩ := Option.bind_eq_some_iff.mp found
  exact details inner member count same

theorem grows_writeCalls (ready : writer.Ready) (position : Nat) (calls : List ToolCall) :
    Grows writer (writeCalls writer position calls).1 (writeCalls writer position calls).2 := by
  induction calls generalizing writer position with
  | nil => exact ready.grows_nil
  | cons call rest ih =>
      have opening :
          let opened :=
            if writer.hasTool (call.index.getD position) then ([], writer)
            else writer.startTool (call.index.getD position)
              (call.id.getD (defaultCallId (call.index.getD position))) (call.name.getD "")
          Grows writer opened.1 opened.2 := by
        dsimp only
        split
        · exact ready.grows_nil
        · exact grows_startTool ready _ _ _
      have arguments := grows_writeArguments opening.ready (call.index.getD position)
        (call.arguments.getD "")
      exact (opening.append arguments).append (ih arguments.ready (position + 1))

theorem grows_writeChoice (ready : writer.Ready) (choice : Choice) :
    Grows writer (writeChoice writer choice).1 (writeChoice writer choice).2 := by
  have thoughts := grows_writeThinking ready (choice.saying.reasoning.getD "")
  have texts := grows_writeText thoughts.ready (choice.saying.content.getD "")
  have calls := grows_writeCalls texts.ready 0 choice.saying.calls
  have all := (thoughts.append texts).append calls
  rw [writeChoice]
  cases choice.finishReason with
  | none => exact all
  | some reason =>
      have noted := all.append (all.ready.grows_setStopReason (stopReason reason))
      rwa [List.append_nil] at noted

theorem grows_writeChoices (ready : writer.Ready) (choices : List Choice) :
    Grows writer (writeChoices writer choices).1 (writeChoices writer choices).2 := by
  induction choices generalizing writer with
  | nil => exact ready.grows_nil
  | cons choice rest ih =>
      have first := grows_writeChoice ready choice
      exact first.append (ih first.ready)

/-- Every usage of a chunk was read from it. -/
theorem fits_of_decodeChunk? {data : Json} {reply : Reply} (read : decodeChunk? data = some reply) :
    ∀ usage ∈ reply.usage, usage.Fits := by
  simp only [decodeChunk?, Option.bind_eq_bind, Option.bind_eq_some_iff] at read
  obtain ⟨source, -, _, -, _, -, _, -, usage, found, equal⟩ := read
  cases equal
  exact Json.Source.of_optional Usage.Fits (fun _ _ => fits_of_decodeUsage?) found

/-- What the reader makes of a chunk without a fault is written. -/
theorem emits_readChunk (sound : writer.Sound) {chunk : Chunk} {context : Context}
    {events : List Event} {next : EventWriter}
    (read : readChunk chunk context writer = (.ok events, next)) : Emits writer events next := by
  cases chunk with
  | done =>
      cases read
      exact (emits_finish sound).1
  | event name data =>
      cases finished : writer.finished with
      | true =>
          simp only [readChunk, finished, if_true, Prod.mk.injEq, Except.ok.injEq] at read
          obtain ⟨rfl, rfl⟩ := read
          exact sound.emits_nil
      | false =>
          simp only [readChunk, finished, Bool.false_eq_true, if_false] at read
          cases reported : reportedError? data with
          | some error =>
              simp only [reported, Prod.mk.injEq, Except.ok.injEq] at read
              obtain ⟨rfl, rfl⟩ := read
              exact ⟨(Outline.Step.failure writer.outline error).follows,
                by simp [Event.Plain.error], sound⟩
          | none =>
              simp only [reported] at read
              cases decoded : decodeChunk? data with
              | none => simp [decoded] at read
              | some reply =>
                  obtain ⟨start, ready⟩ := emits_startMessage sound finished
                    (reply.id.getD "msg_stream") (reply.model.getD context.model)
                  have choices := grows_writeChoices ready reply.choices
                  simp only [decoded, Prod.mk.injEq, Except.ok.injEq] at read
                  obtain ⟨rfl, rfl⟩ := read
                  refine start.append ?_
                  cases counted : reply.usage with
                  | none => exact choices.emits
                  | some usage =>
                      have fits := fits_of_decodeChunk? decoded usage counted
                      have noted := choices.append (choices.ready.grows_setUsage fits)
                      rw [List.append_nil] at noted
                      exact noted.emits

end ChatCompletions

/-! ## Generate content -/

namespace GenerateContent

theorem fits_of_decodeUsage? {value : Json} {usage : Usage}
    (read : decodeUsage? value = some usage) : usage.Fits := by
  simp only [decodeUsage?, Option.bind_eq_bind, Option.bind_eq_some_iff] at read
  obtain ⟨source, -, input, foundInput, _, -, _, -, cached, foundCached, equal⟩ := read
  cases equal
  exact ⟨Json.Source.fits_of_withDefault foundInput, Word.fits_wrap 32 _,
    Json.Source.fits_of_optional foundCached⟩

theorem grows_writePart (ready : writer.Ready) (supply : Supply) (part : Part) :
    Grows writer (writePart writer supply part).2.1 (writePart writer supply part).2.2.1 := by
  rw [writePart]
  cases part.call with
  | some call =>
      have opening := grows_startTool (ready.countTool (writer.unkeyedTools + 1))
        writer.unkeyedTools (callId call supply).1 call.name
      have all := opening.append (grows_writeArguments opening.ready writer.unkeyedTools
        call.arguments.render)
      exact ⟨all.follows, all.plain, all.ready⟩
  | none =>
      cases part.text with
      | none => exact ready.grows_nil
      | some text =>
          dsimp only
          split
          · exact grows_writeThinking ready text
          · exact grows_writeText ready text

theorem grows_writeParts (ready : writer.Ready) (supply : Supply) (parts : List Part) :
    Grows writer (writeParts writer supply parts).2.1 (writeParts writer supply parts).2.2.1 := by
  induction parts generalizing writer supply with
  | nil => exact ready.grows_nil
  | cons part rest ih =>
      have first := grows_writePart ready supply part
      exact first.append (ih first.ready _)

theorem grows_writeCandidates (ready : writer.Ready) (supply : Supply) (called : Bool)
    (candidates : List Candidate) :
    Grows writer (writeCandidates writer supply called candidates).1
      (writeCandidates writer supply called candidates).2.1 := by
  induction candidates generalizing writer supply called with
  | nil => exact ready.grows_nil
  | cons candidate rest ih =>
      have parts := grows_writeParts ready supply candidate.parts
      rw [writeCandidates]
      cases candidate.finishReason with
      | none => exact parts.append (ih parts.ready _ _)
      | some reason =>
          have noted := parts.ready.grows_setStopReason (stopReason reason
            ((called || (writeParts writer supply candidate.parts).1) ||
              (writeParts writer supply candidate.parts).2.2.1.stopReason == some .toolUse))
          exact parts.append (noted.append (ih noted.ready _ _))

theorem fits_of_readReply {data : Json} {reply : Reply} (read : readReply data = .ok reply) :
    ∀ usage ∈ reply.usage, usage.Fits := by
  rw [readReply] at read
  split at read
  · cases read
  · split at read
    · rename_i reply decoded
      cases read
      simp only [Reply.decode?, Option.bind_eq_bind, Option.bind_eq_some_iff] at decoded
      obtain ⟨source, -, _, -, usage, found, _, -, _, -, equal⟩ := decoded
      cases equal
      exact Json.Source.of_optional Usage.Fits (fun _ _ => fits_of_decodeUsage?) found
    · cases read

/-- What the reader makes of a chunk without a fault is written. -/
theorem emits_readChunk (sound : writer.Sound) {chunk : Chunk} {context : Context}
    {supply left : Supply} {events : List Event} {next : EventWriter}
    (read : readChunk chunk context writer supply = (.ok events, next, left)) :
    Emits writer events next := by
  cases chunk with
  | done =>
      cases read
      exact (emits_finish sound).1
  | event name data =>
      cases finished : writer.finished with
      | true =>
          simp only [readChunk, finished, if_true, Prod.mk.injEq, Except.ok.injEq] at read
          obtain ⟨rfl, rfl, rfl⟩ := read
          exact sound.emits_nil
      | false =>
          simp only [readChunk, finished, Bool.false_eq_true, if_false] at read
          cases decoded : readReply data with
          | error fault => simp [decoded] at read
          | ok reply =>
              obtain ⟨start, ready⟩ := emits_startMessage sound finished
                (reply.id.getD ("msg_" ++ context.requestId.compact))
                (reply.model.getD context.model)
              have candidates := grows_writeCandidates ready supply false reply.candidates
              simp only [decoded, Prod.mk.injEq, Except.ok.injEq] at read
              obtain ⟨rfl, rfl, rfl⟩ := read
              refine start.append ?_
              cases counted : reply.usage with
              | none => exact candidates.emits
              | some usage =>
                  have fits := fits_of_readReply decoded usage counted
                  have noted := candidates.append (candidates.ready.grows_setUsage fits)
                  rw [List.append_nil] at noted
                  exact noted.emits

end GenerateContent

end ChatGateway.Wire
