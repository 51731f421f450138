import ChatGateway.Proofs.Message.ReadBack
import ChatGateway.Proofs.Stage.Written
import Mathlib.Data.List.Forall2

/-!
# Why a streamed answer stopped

An answer of the generate-content protocol may come as a whole or in chunks, and both forms say why
the model stopped.  The whole answer is judged by all of its parts, and a stream by the parts of the
chunk that gives a reason, unless no chunk gives one.  So the two agree except where a plain reason
comes after the last call.
-/

namespace ChatGateway

namespace EventWriter

/-- What decides how a message ends. -/
structure Notes where
  finished : Bool
  stopReason : Option StopReason
  /-- Whether no tool has been opened. -/
  toolless : Bool

/-- What a writer has noted. -/
def notes (writer : EventWriter) : Notes :=
  ⟨writer.finished, writer.stopReason, writer.tools.isEmpty⟩

/-- The notes after parts that may have called a tool. -/
def Notes.afterCalls (notes : Notes) (called : Bool) : Notes :=
  { notes with toolless := notes.toolless && !called }

@[simp] theorem Notes.afterCalls_false (notes : Notes) : notes.afterCalls false = notes := by
  simp [afterCalls]

@[simp] theorem Notes.afterCalls_afterCalls (notes : Notes) (earlier later : Bool) :
    (notes.afterCalls earlier).afterCalls later = notes.afterCalls (earlier || later) := by
  simp [afterCalls, Bool.and_assoc]

variable (writer : EventWriter)

@[simp] theorem notes_closeBlock : writer.closeBlock.2.notes = writer.notes := by
  rw [closeBlock]
  split <;> rfl

@[simp] theorem notes_beginBlock (kind : BlockKind) (block : Block) :
    (writer.beginBlock kind block).2.notes = writer.notes :=
  notes_closeBlock writer

@[simp] theorem notes_ensureBlock (kind : BlockKind) :
    (writer.ensureBlock kind).2.2.notes = writer.notes := by
  simp only [ensureBlock]
  split
  · rfl
  · exact notes_beginBlock writer kind _

@[simp] theorem notes_startMessage (id model : String) :
    (writer.startMessage id model).2.notes = writer.notes := by
  rw [startMessage]
  split <;> rfl

@[simp] theorem notes_writeText (text : String) :
    (writer.writeText text).2.notes = writer.notes := by
  rw [writeText]
  split
  · rfl
  · exact notes_ensureBlock writer .text

@[simp] theorem notes_writeThinking (thinking : String) :
    (writer.writeThinking thinking).2.notes = writer.notes := by
  rw [writeThinking]
  split
  · rfl
  · exact notes_ensureBlock writer .thinking

@[simp] theorem notes_writeArguments (key : Nat) (arguments : String) :
    (writer.writeArguments key arguments).2.notes = writer.notes := by
  rw [writeArguments]
  split
  · rfl
  · split
    · rfl
    · split <;> rfl

@[simp] theorem notes_startTool (key : Nat) (id name : String) :
    (writer.startTool key id name).2.notes = writer.notes.afterCalls true := by
  have begun := notes_beginBlock writer .toolUse (.toolUse id name (.object []))
  simp only [notes, Notes.mk.injEq] at begun
  simp [startTool, notes, Notes.afterCalls, begun]

theorem notes_setStopReason (reason : StopReason) :
    (writer.setStopReason reason).notes = { writer.notes with stopReason := some reason } := rfl

end EventWriter

/-- The reason that ends a message. -/
def EventWriter.Notes.endReason (notes : EventWriter.Notes) : StopReason :=
  notes.stopReason.getD (if notes.toolless then .endTurn else .toolUse)

/-- Why final fields say that the model stopped. -/
def Event.stopReason? : Event → Option StopReason
  | .messageDelta closing _ => closing.stopReason
  | _ => none

/-- Why a chunk says that the model stopped. -/
def Chunk.stopReason? : Chunk → Option StopReason
  | .event _ data => (Event.decode? data).bind Event.stopReason?
  | .done => none

theorem Event.Plain.stopReason?_ofEvent {event : Event} (plain : event.Plain) :
    (Chunk.ofEvent event).stopReason? = event.stopReason? := by
  simp only [Chunk.stopReason?, Chunk.ofEvent, decode?_encode_of_plain plain]
  cases fits : event.indexFits with
  | true => rfl
  | false =>
      cases event with
      | messageDelta => cases fits
      | _ => rfl

namespace EventWriter

variable {writer next : EventWriter} {events : List Event}

theorem Emits.stopReasons (emits : writer.Emits events next) :
    (events.map Chunk.ofEvent).filterMap Chunk.stopReason? =
      events.filterMap Event.stopReason? := by
  rw [List.filterMap_map]
  apply List.filterMap_congr
  intro event member
  exact (emits.plain event member).stopReason?_ofEvent

/-- No reason is given before the end. -/
theorem Emits.stopReasons_eq_nil (emits : writer.Emits events next)
    (unfinished : next.finished = false) : events.filterMap Event.stopReason? = [] := by
  have quiet := (emits.follows.not_mem_messageDelta (isOpen_outline unfinished)).2
  rw [List.filterMap_eq_nil_iff]
  intro event member
  cases event with
  | messageDelta final usage => exact (quiet final usage member).elim
  | _ => rfl

/-- At the end the reason follows from the notes. -/
theorem stopReasons_finish (unfinished : writer.finished = false) :
    writer.finish.1.filterMap Event.stopReason? = [writer.notes.endReason] := by
  rw [finish, unfinished, if_neg Bool.false_ne_true, closeBlock]
  cases writer.openBlock <;> rfl

end EventWriter

namespace Wire.GenerateContent

/-! ## Calls -/

/-- Whether a part calls a tool. -/
def Part.calls (part : Part) : Bool := part.call.isSome

theorem writePart_called (writer : EventWriter) (supply : Supply) (part : Part) :
    (writePart writer supply part).1 = part.calls ∧
      (writePart writer supply part).2.2.1.notes = writer.notes.afterCalls part.calls := by
  rw [writePart, Part.calls]
  cases part.call with
  | some call =>
      refine ⟨rfl, ?_⟩
      simp only [EventWriter.notes_writeArguments, EventWriter.notes_startTool]
      rfl
  | none =>
      cases part.text with
      | none => exact ⟨rfl, by simp⟩
      | some text =>
          refine ⟨rfl, ?_⟩
          dsimp only
          split <;> simp

theorem writeParts_called (writer : EventWriter) (supply : Supply) (parts : List Part) :
    (writeParts writer supply parts).1 = parts.any Part.calls ∧
      (writeParts writer supply parts).2.2.1.notes =
        writer.notes.afterCalls (parts.any Part.calls) := by
  induction parts generalizing writer supply with
  | nil => exact ⟨rfl, by simp [writeParts]⟩
  | cons part rest ih =>
      obtain ⟨called, noted⟩ := writePart_called writer supply part
      obtain ⟨calledLater, notedLater⟩ := ih (writePart writer supply part).2.2.1
        (writePart writer supply part).2.2.2
      simp only [writeParts, List.any_cons]
      refine ⟨by rw [called, calledLater], ?_⟩
      rw [notedLater, noted, EventWriter.Notes.afterCalls_afterCalls]

/-- A block uses a tool just if its part calls one. -/
theorem any_isToolUse_partBlocks (supply : Supply) (parts : List Part) :
    (partBlocks supply parts).1.any isToolUse = parts.any Part.calls := by
  induction parts generalizing supply with
  | nil => rfl
  | cons part rest ih =>
      have first : (partBlock part supply).1.any isToolUse = part.calls := by
        rw [partBlock, Part.calls]
        cases part.call with
        | some call => rfl
        | none =>
            cases part.text with
            | none => rfl
            | some text =>
                dsimp only
                split <;> rfl
      simp only [partBlocks, List.any_append, List.any_cons, first, ih]

/-! ## Chunks -/

/-- The notes after a chunk with one candidate. -/
def notesAfter (notes : EventWriter.Notes) (candidate : Candidate) : EventWriter.Notes :=
  let called := candidate.parts.any Part.calls
  { notes.afterCalls called with
    stopReason := (candidate.finishReason.map fun reason =>
      stopReason reason (called || notes.stopReason == some .toolUse)).or notes.stopReason }

theorem notes_writeCandidates (writer : EventWriter) (supply : Supply) (candidate : Candidate) :
    (writeCandidates writer supply false [candidate]).2.1.notes =
      notesAfter writer.notes candidate := by
  obtain ⟨called, noted⟩ := writeParts_called writer supply candidate.parts
  have reasons : (writeParts writer supply candidate.parts).2.2.1.stopReason =
      writer.notes.stopReason :=
    congrArg EventWriter.Notes.stopReason noted
  simp only [writeCandidates, notesAfter, called, Bool.false_or]
  cases candidate.finishReason with
  | none =>
      rw [noted]
      rfl
  | some reason =>
      rw [EventWriter.notes_setStopReason, noted, reasons]
      rfl

/-- Whether a body is an answer with one candidate, or a chunk of one. -/
def Describes (body : Json) (candidate : Candidate) : Prop :=
  ∃ reply, readReply body = .ok reply ∧ reply.candidates = [candidate]

/-- Whether a chunk carries a part of an answer with one candidate. -/
def Carries (chunk : Chunk) (candidate : Candidate) : Prop :=
  ∃ name data, chunk = .event name data ∧ Describes data candidate

/-- A chunk with one candidate is read without a fault. -/
theorem readChunk_of_carries {chunk : Chunk} {candidate : Candidate}
    (carries : Carries chunk candidate) {writer : EventWriter}
    (unfinished : writer.notes.finished = false) (context : Context) (supply : Supply) :
    ∃ events next left, readChunk chunk context writer supply = (.ok events, next, left) ∧
      next.notes = notesAfter writer.notes candidate := by
  obtain ⟨name, data, rfl, reply, read, single⟩ := carries
  have running : writer.finished = false := unfinished
  have noted := notes_writeCandidates (writer.startMessage
    (reply.id.getD ("msg_" ++ context.requestId.compact)) (reply.model.getD context.model)).2
    supply candidate
  rw [EventWriter.notes_startMessage] at noted
  simp only [readChunk, running, read, single, Bool.false_eq_true, if_false]
  refine ⟨_, _, _, rfl, ?_⟩
  cases reply.usage with
  | none => exact noted
  | some usage => exact noted

theorem changeChunk_of_carries {chunk : Chunk} {candidate : Candidate}
    (carries : Carries chunk candidate) {writer : EventWriter} (sound : writer.Sound)
    (unfinished : writer.notes.finished = false) (context : Context) (supply : Supply) :
    ∃ (events : List Event) (next : EventWriter) (left : Supply),
      Stage.gemini.changeChunk chunk context writer supply =
        (.ok (events.map .ofEvent), next, left) ∧
      writer.Emits events next ∧ next.notes = notesAfter writer.notes candidate := by
  obtain ⟨events, next, left, read, noted⟩ :=
    readChunk_of_carries carries unfinished context supply
  refine ⟨events, next, left, ?_, emits_readChunk sound read, noted⟩
  simp only [Stage.changeChunk, read]
  rfl

/-- Chunks that give no reason add their calls to what is noted, and nothing else. -/
theorem notesAfter_of_none (notes : EventWriter.Notes) (parts : List Part) :
    notesAfter notes ⟨parts, none⟩ = notes.afterCalls (parts.any Part.calls) := rfl

theorem chunksThroughStage_of_carries {chunks : List Chunk} {parts : List (List Part)}
    (carried : List.Forall₂ (fun chunk parts => Carries chunk ⟨parts, none⟩) chunks parts)
    {writer : EventWriter} (sound : writer.Sound) (unfinished : writer.notes.finished = false)
    (context : Context) (supply : Supply) :
    ∃ (events : List Event) (next : EventWriter) (left : Supply),
      Chain.chunksThroughStage .gemini context writer supply chunks =
        (.ok (events.map .ofEvent), next, left) ∧
      writer.Emits events next ∧
      next.notes = writer.notes.afterCalls (parts.flatten.any Part.calls) := by
  induction carried generalizing writer supply with
  | nil => exact ⟨[], writer, supply, rfl, sound.emits_nil, by simp⟩
  | @cons chunk parts chunks others first _ ih =>
      obtain ⟨events, middle, rest, changed, emits, noted⟩ :=
        changeChunk_of_carries first sound unfinished context supply
      rw [notesAfter_of_none] at noted
      obtain ⟨more, next, left, passed, goesOn, notedLater⟩ :=
        ih emits.sound (by rw [noted]; exact unfinished) rest
      refine ⟨events ++ more, next, left, ?_, emits.append goesOn, ?_⟩
      · simp only [Chain.chunksThroughStage, changed, passed, List.map_append]
      · rw [notedLater, noted, EventWriter.Notes.afterCalls_afterCalls, List.flatten_cons,
          List.any_append]

/-! ## Reasons -/

/-- The reasons that a stream gives, up to its end. -/
def streamedReasons (context : Context) (supply : Supply) (chunks : List Chunk) : List StopReason :=
  match (Chain.chunksThroughStage .gemini context .new supply (chunks ++ [.done])).1 with
  | .ok made => made.filterMap Chunk.stopReason?
  | .error _ => []

/-- The reason that a whole answer gives. -/
def answerReason? (context : Context) (supply : Supply) (body : Json) : Option StopReason :=
  match readReply body with
  | .error _ => none
  | .ok reply =>
      match (toResponse reply context.model supply).1 with
      | .error _ => none
      | .ok response => response.stopReason

theorem answerReason?_of_describes {body : Json} {candidate : Candidate}
    (describes : Describes body candidate) (context : Context) (supply : Supply) :
    answerReason? context supply body =
      some (stopReason (candidate.finishReason.getD "STOP") (candidate.parts.any Part.calls)) := by
  obtain ⟨reply, read, single⟩ := describes
  simp only [answerReason?, read, toResponse, single, any_isToolUse_partBlocks]

/-- An answer in chunks, each with some of its parts in their order; the last chunk tells why the
model stopped. -/
structure IsSplit (body : Json) (chunks : List Chunk) (last : Chunk) (earlier : List (List Part))
    (final : Candidate) : Prop where
  chunks : List.Forall₂ (fun chunk parts => Carries chunk ⟨parts, none⟩) chunks earlier
  last : Carries last final
  body : Describes body ⟨earlier.flatten ++ final.parts, final.finishReason⟩

theorem streamedReasons_of_isSplit {body : Json} {chunks : List Chunk} {last : Chunk}
    {earlier : List (List Part)} {final : Candidate}
    (split : IsSplit body chunks last earlier final) (context : Context) (supply : Supply) :
    streamedReasons context supply (chunks ++ [last]) =
      [(notesAfter (EventWriter.new.notes.afterCalls (earlier.flatten.any Part.calls))
        final).endReason] := by
  obtain ⟨events, middle, rest, passed, emits, noted⟩ :=
    chunksThroughStage_of_carries split.chunks EventWriter.sound_new rfl context supply
  have unfinished : middle.notes.finished = false := by
    rw [noted]
    rfl
  obtain ⟨more, next, left, changed, goesOn, notedLast⟩ :=
    changeChunk_of_carries split.last emits.sound unfinished context rest
  have running : next.finished = false := by
    have same := congrArg EventWriter.Notes.finished notedLast
    rw [noted] at same
    exact same
  have lastPassed : Chain.chunksThroughStage .gemini context middle rest [last, .done] =
      (.ok (more.map .ofEvent ++ next.finish.1.map .ofEvent), next.finish.2, left) := by
    have finished : Stage.gemini.changeChunk .done context next left =
        (.ok (next.finish.1.map .ofEvent), next.finish.2, left) := rfl
    simp only [Chain.chunksThroughStage, changed, finished, List.append_nil]
  have ending := (EventWriter.emits_finish goesOn.sound).1
  rw [streamedReasons, List.append_assoc, List.singleton_append,
    Chain.chunksThroughStage_append passed lastPassed]
  simp only [List.filterMap_append, emits.stopReasons, goesOn.stopReasons, ending.stopReasons,
    emits.stopReasons_eq_nil unfinished, goesOn.stopReasons_eq_nil running,
    EventWriter.stopReasons_finish running, notedLast, noted, List.nil_append]

/-- A reason counts the calls of its own chunk, and the end those of all chunks. -/
theorem endReason_notesAfter (called : Bool) (final : Candidate) :
    (notesAfter (EventWriter.new.notes.afterCalls called) final).endReason =
      match final.finishReason with
      | some reason => stopReason reason (final.parts.any Part.calls)
      | none => stopReason "STOP" (called || final.parts.any Part.calls) := by
  simp only [notesAfter]
  cases final.finishReason with
  | none => cases called <;> cases final.parts.any Part.calls <;> rfl
  | some reason =>
      have plain : (EventWriter.new.notes.stopReason == some .toolUse) = false := rfl
      simp [EventWriter.Notes.endReason, EventWriter.Notes.afterCalls, plain]

theorem stopReason_eq_iff (reason : String) (calls others : Bool) :
    stopReason reason calls = stopReason reason others ↔
      reason = "MAX_TOKENS" ∨ reason ∈ refusals ∨ calls = others := by
  unfold stopReason
  by_cases limit : reason = "MAX_TOKENS"
  · simp [limit]
  · by_cases refused : reason ∈ refusals
    · simp [limit, refused]
    · cases calls <;> cases others <;> simp [limit, refused]

/-- The reason at the end of a stream is the reason of the whole answer, except that a reason which
is neither a limit nor a refusal forgets calls that came in earlier chunks only. -/
theorem streamedReasons_eq_iff {body : Json} {chunks : List Chunk} {last : Chunk}
    {earlier : List (List Part)} {final : Candidate}
    (split : IsSplit body chunks last earlier final) (context : Context)
    (supply other : Supply) :
    ∃ streamed buffered, streamedReasons context supply (chunks ++ [last]) = [streamed] ∧
      answerReason? context other body = some buffered ∧
      (streamed = buffered ↔
        ∀ reason ∈ final.finishReason, reason = "MAX_TOKENS" ∨ reason ∈ refusals ∨
          (earlier.flatten.any Part.calls = true → final.parts.any Part.calls = true)) := by
  refine ⟨_, _, streamedReasons_of_isSplit split context supply,
    answerReason?_of_describes split.body context other, ?_⟩
  rw [endReason_notesAfter, List.any_append]
  cases final.finishReason with
  | none => simp
  | some reason =>
      simp only [Option.getD_some, stopReason_eq_iff, Option.mem_some_iff, forall_eq']
      cases earlier.flatten.any Part.calls <;> cases final.parts.any Part.calls <;> simp

/-- The body of an answer with one candidate, of which each part is a call with these fields. -/
def answerOfCalls (calls : List Json) (finishReason : Option String) : Json :=
  .object [("candidates", .array [.object
    (("content", .object [("parts", .array (calls.map fun call =>
      .object [("functionCall", call)]))]) ::
        optionalField "finishReason" .string finishReason)])]

/-- A call in an earlier chunk counts for a limit as it does for the whole answer. -/
theorem streamedReasons_eq_iff_limit :
    let call : Json := .object [("name", .string "search")]
    let context : Context := ⟨⟨1⟩, "google", "flash", true, []⟩
    ∃ streamed buffered,
      streamedReasons context ⟨0⟩ ([.event none (answerOfCalls [call] none)] ++
          [.event none (answerOfCalls [] (some "MAX_TOKENS"))]) = [streamed] ∧
        answerReason? context ⟨0⟩ (answerOfCalls [call] (some "MAX_TOKENS")) = some buffered ∧
        streamed = buffered := by
  intro call context
  let part : Part := ⟨none, none, none, some ⟨none, "search", .null⟩⟩
  have split : IsSplit (answerOfCalls [call] (some "MAX_TOKENS"))
      [.event none (answerOfCalls [call] none)] (.event none (answerOfCalls [] (some "MAX_TOKENS")))
      [[part]] ⟨[], some "MAX_TOKENS"⟩ :=
    ⟨.cons ⟨_, _, rfl, _, rfl, rfl⟩ .nil, ⟨_, _, rfl, _, rfl, rfl⟩, ⟨_, rfl, rfl⟩⟩
  obtain ⟨streamed, buffered, first, second, same⟩ :=
    streamedReasons_eq_iff split context ⟨0⟩ ⟨0⟩
  exact ⟨streamed, buffered, first, second, same.mpr (by simp)⟩

/-- A call in an earlier chunk is forgotten when the last chunk only says that the model is done. -/
theorem streamedReasons_forget_call :
    let call : Json := .object [("name", .string "search")]
    let part : Part := ⟨none, none, none, some ⟨none, "search", .null⟩⟩
    let calling : Chunk := .event none (answerOfCalls [call] none)
    let stopping : Chunk := .event none (answerOfCalls [] (some "STOP"))
    let body := answerOfCalls [call] (some "STOP")
    let context : Context := ⟨⟨1⟩, "google", "flash", true, []⟩
    IsSplit body [calling] stopping [[part]] ⟨[], some "STOP"⟩ ∧
      streamedReasons context ⟨0⟩ [calling, stopping] = [.endTurn] ∧
      answerReason? context ⟨0⟩ body = some .toolUse := by
  intro call part calling stopping body context
  have split : IsSplit body [calling] stopping [[part]] ⟨[], some "STOP"⟩ :=
    ⟨.cons ⟨_, _, rfl, _, rfl, rfl⟩ .nil, ⟨_, _, rfl, _, rfl, rfl⟩, ⟨_, rfl, rfl⟩⟩
  have streamed : streamedReasons context ⟨0⟩ [calling, stopping] = [.endTurn] := by
    decide +kernel
  have buffered : answerReason? context ⟨0⟩ body = some .toolUse := by decide +kernel
  exact ⟨split, streamed, buffered⟩

end Wire.GenerateContent

end ChatGateway
