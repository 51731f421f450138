import ChatGateway.Proofs.Stage.Assembly
import ChatGateway.Proofs.Stage.Written

/-!
# Token counts of a streamed answer

The chunks of a generate-content stream may count tokens, each for the whole answer so far.  The
stream ends with the counts that came last, and they are what the whole answer gives with the same
counts.  Both add the thoughts to the output in 32 bits, so both are exact just if the sum fits.
-/

namespace ChatGateway.Wire.GenerateContent

open EventWriter

/-! ## Counts -/

/-- The token counts in an answer. -/
structure Counts where
  prompt : Nat
  candidates : Nat
  thoughts : Nat
  cached : Option Nat
  deriving DecidableEq, Repr

namespace Counts

/-- The counts a value gives. -/
def decode? (value : Json) : Option Counts := do
  let source ← Json.source? ["promptTokenCount", "candidatesTokenCount", "thoughtsTokenCount",
    "cachedContentTokenCount"] value
  some
    { prompt := ← source.withDefault "promptTokenCount" 0 Json.nat32?
      candidates := ← source.withDefault "candidatesTokenCount" 0 Json.nat32?
      thoughts := ← source.withDefault "thoughtsTokenCount" 0 Json.nat32?
      cached := ← source.optional "cachedContentTokenCount" Json.nat32? }

/-- The usage as it is told, with the output in 32 bits. -/
def usage (counts : Counts) : Usage :=
  ⟨counts.prompt, Word.wrap 32 (counts.candidates + counts.thoughts), counts.cached⟩

/-- The usage with the exact output. -/
def exactUsage (counts : Counts) : Usage :=
  ⟨counts.prompt, counts.candidates + counts.thoughts, counts.cached⟩

theorem usage_eq_exactUsage_iff (counts : Counts) :
    counts.usage = counts.exactUsage ↔ counts.candidates + counts.thoughts < Word.size 32 := by
  have positive : 0 < Word.size 32 := by decide
  simp [usage, exactUsage, Word.wrap, Nat.mod_eq_iff_lt positive.ne']

end Counts

theorem decodeUsage?_eq (value : Json) :
    decodeUsage? value = (Counts.decode? value).map Counts.usage := by
  simp only [decodeUsage?, Counts.decode?, Option.bind_eq_bind, Option.map_bind,
    Function.comp_def, Option.map_some]
  rfl

/-- The counts of a field; null counts nothing. -/
def fieldCounts? : Json → Option Counts
  | .null => none
  | value => Counts.decode? value

theorem usage_of_nullable {value : Json} {usage : Option Usage}
    (read : Json.Source.nullable decodeUsage? value = some usage) :
    usage = (fieldCounts? value).map Counts.usage := by
  cases value with
  | null =>
      cases read
      rfl
  | _ =>
      simp only [Json.Source.nullable, Option.map_eq_some_iff] at read
      obtain ⟨told, same, rfl⟩ := read
      exact same.symm.trans (decodeUsage?_eq _)

/-- The counts in a body. -/
def counts? (body : Json) : Option Counts := (body.get? "usageMetadata").bind fieldCounts?

/-- What an answer tells of its tokens are the counts in its body. -/
theorem usage_of_readReply {body : Json} {reply : Reply} (read : readReply body = .ok reply) :
    reply.usage = (counts? body).map Counts.usage := by
  rw [readReply] at read
  split at read
  · cases read
  · rename_i told
    split at read
    · rename_i decoded
      cases read
      cases body with
      | object fields =>
          simp only [Reply.decode?, Option.bind_eq_bind, Option.bind_eq_some_iff] at decoded
          obtain ⟨source, opened, _, -, usage, found, _, -, _, -, equal⟩ := decoded
          cases opened
          cases equal
          rw [Json.Source.optional, Json.Source.withDefault, Json.Source.find?] at found
          rw [counts?, Json.get?]
          split at found
          · rename_i value given
            rw [given]
            exact usage_of_nullable found
          · rename_i absent
            cases found
            rw [absent]
            rfl
      | _ => simp [Json.get?] at told
    · cases read

/-! ## Chunks -/

/-- A writer in the middle of a message, with the usage it has noted. -/
structure Midway (writer : EventWriter) (usage : Usage) : Prop where
  unfinished : writer.finished = false
  noted : writer.usage = usage
  sketched : ∃ sketch, writer.Sketches sketch

theorem midway_new : Midway .new .zero := ⟨rfl, rfl, .new, sketches_new⟩

namespace Midway

variable {writer : EventWriter} {usage : Usage}

theorem draws (midway : Midway writer usage) {written : List Event × EventWriter}
    {before after : Sketch} (draws : Draws writer written before after) :
    Midway written.2 usage where
  unfinished := (congrArg Remarks.finished draws.remarks).trans midway.unfinished
  noted := (congrArg Remarks.usage draws.remarks).trans midway.noted
  sketched := ⟨after, draws.sketches⟩

theorem writePart (midway : Midway writer usage) (supply : Supply) (part : Part) :
    Midway (writePart writer supply part).2.2.1 usage := by
  obtain ⟨sketch, sketches⟩ := midway.sketched
  rw [GenerateContent.writePart]
  cases part.call with
  | some call =>
      have counted : Midway { writer with unkeyedTools := writer.unkeyedTools + 1 } usage :=
        ⟨midway.unfinished, midway.noted, sketch, sketches.next, sketches.opened, sketches.tools,
          sketches.below⟩
      obtain ⟨again, drawn⟩ := counted.sketched
      have opening := draws_startTool drawn writer.unkeyedTools (callId call supply).1 call.name
      exact (counted.draws opening).draws
        (draws_writeArguments opening.sketches writer.unkeyedTools call.arguments.render)
  | none =>
      cases part.text with
      | none => exact midway
      | some text =>
          dsimp only
          split
          · exact midway.draws (draws_writeThinking sketches text)
          · exact midway.draws (draws_writeText sketches text)

theorem writeParts (midway : Midway writer usage) (supply : Supply) (parts : List Part) :
    Midway (writeParts writer supply parts).2.2.1 usage := by
  induction parts generalizing writer supply with
  | nil => exact midway
  | cons part rest ih => exact ih (midway.writePart supply part) _

theorem setStopReason (midway : Midway writer usage) (reason : StopReason) :
    Midway (writer.setStopReason reason) usage := by
  obtain ⟨sketch, sketches⟩ := midway.sketched
  exact ⟨midway.unfinished, midway.noted, sketch, sketches.setStopReason reason⟩

theorem setUsage (midway : Midway writer usage) (latest : Usage) :
    Midway (writer.setUsage latest) latest := by
  obtain ⟨sketch, sketches⟩ := midway.sketched
  exact ⟨midway.unfinished, rfl, sketch, sketches.setUsage latest⟩

theorem writeCandidates (midway : Midway writer usage) (supply : Supply) (called : Bool)
    (candidates : List Candidate) :
    Midway (writeCandidates writer supply called candidates).2.1 usage := by
  induction candidates generalizing writer supply called with
  | nil => exact midway
  | cons candidate rest ih =>
      have parts := midway.writeParts supply candidate.parts
      rw [GenerateContent.writeCandidates]
      cases candidate.finishReason with
      | none => exact ih parts _ _
      | some reason => exact ih (parts.setStopReason _) _ _

/-- A chunk that can be read notes its counts, if it has any. -/
theorem readChunk (midway : Midway writer usage) {body : Json} {reply : Reply}
    (read : readReply body = .ok reply) (name : Option String) (context : Context)
    (supply : Supply) :
    ∃ events next left,
      readChunk (.event name body) context writer supply = (.ok events, next, left) ∧
        Midway next (((counts? body).map Counts.usage).getD usage) := by
  obtain ⟨sketch, sketches⟩ := midway.sketched
  have started := midway.draws (draws_startMessage sketches
    (reply.id.getD ("msg_" ++ context.requestId.compact)) (reply.model.getD context.model))
  have written := started.writeCandidates supply false reply.candidates
  simp only [GenerateContent.readChunk, midway.unfinished, read, Bool.false_eq_true, if_false]
  refine ⟨_, _, _, rfl, ?_⟩
  rw [← usage_of_readReply read]
  cases reply.usage with
  | none => exact written
  | some latest => exact written.setUsage latest

/-- At the end the writer tells what it has noted. -/
theorem finish (midway : Midway writer usage) :
    ∃ earlier closing,
      writer.finish.1 = earlier ++ [.messageDelta closing (some usage), .messageStop] := by
  rw [← midway.noted, EventWriter.finish, midway.unfinished, if_neg Bool.false_ne_true,
    closeBlock]
  cases writer.openBlock with
  | none => exact ⟨[], _, rfl⟩
  | some block => exact ⟨[.blockStop block.index], _, rfl⟩

end Midway

/-! ## Streams -/

/-- The counts that come last in chunks. -/
def latestCounts? (chunks : List (Option String × Json)) : Option Counts :=
  (chunks.filterMap fun chunk => counts? chunk.2).getLast?

theorem latestCounts?_cons (chunk : Option String × Json) (rest : List (Option String × Json)) :
    latestCounts? (chunk :: rest) = (latestCounts? rest).or (counts? chunk.2) := by
  rw [latestCounts?, latestCounts?, List.filterMap_cons]
  cases counts? chunk.2 with
  | none => rw [Option.or_none]
  | some counts => rw [List.getLast?_cons, Option.or_some]

/-- Whether each chunk can be read. -/
def AreReplies (chunks : List (Option String × Json)) : Prop :=
  ∀ chunk ∈ chunks, ∃ reply, readReply chunk.2 = .ok reply

/-- What chunks have counted last is noted behind them. -/
theorem Midway.chunksThroughStage {writer : EventWriter} {usage : Usage}
    (midway : Midway writer usage) {chunks : List (Option String × Json)}
    (replies : AreReplies chunks) (context : Context) (supply : Supply) :
    ∃ (events : List Event) (next : EventWriter) (left : Supply),
      Chain.chunksThroughStage .gemini context writer supply
          (chunks.map fun chunk => .event chunk.1 chunk.2) =
        (.ok (events.map .ofEvent), next, left) ∧
      Midway next (((latestCounts? chunks).map Counts.usage).getD usage) := by
  induction chunks generalizing writer usage supply with
  | nil => exact ⟨[], writer, supply, rfl, midway⟩
  | cons chunk rest ih =>
      obtain ⟨reply, read⟩ := replies chunk List.mem_cons_self
      obtain ⟨events, middle, between, changed, noted⟩ :=
        midway.readChunk read chunk.1 context supply
      obtain ⟨more, next, left, passed, notedLater⟩ :=
        ih noted (fun other member => replies other (.tail _ member)) between
      refine ⟨events ++ more, next, left, ?_, ?_⟩
      · simp only [List.map_cons, Chain.chunksThroughStage, Stage.changeChunk, changed, passed,
          Stage.chunksOf, Except.map, List.map_append]
      · rw [latestCounts?_cons]
        cases latest : latestCounts? rest <;> rwa [latest] at notedLater

/-- Whether a stream of chunks goes through and ends with this usage. -/
def EndsWithUsage (context : Context) (supply : Supply) (chunks : List (Option String × Json))
    (usage : Usage) : Prop :=
  ∃ (earlier : List Event) (closing : Closing) (writer : EventWriter) (left : Supply),
    Chain.chunksThroughStage .gemini context .new supply
        ((chunks.map fun chunk => .event chunk.1 chunk.2) ++ [.done]) =
      (.ok ((earlier ++ [Event.messageDelta closing (some usage), .messageStop]).map .ofEvent),
        writer, left)

theorem endsWithUsage_of_areReplies {chunks : List (Option String × Json)}
    (replies : AreReplies chunks) (context : Context) (supply : Supply) :
    EndsWithUsage context supply chunks
      (((latestCounts? chunks).map Counts.usage).getD .zero) := by
  obtain ⟨events, next, left, passed, midway⟩ :=
    midway_new.chunksThroughStage replies context supply
  obtain ⟨closings, closing, finished⟩ := midway.finish
  have last : Chain.chunksThroughStage .gemini context next left [.done] =
      (.ok (next.finish.1.map .ofEvent), next.finish.2, left) := by
    have done : Stage.gemini.changeChunk .done context next left =
        (.ok (next.finish.1.map .ofEvent), next.finish.2, left) := rfl
    simp only [Chain.chunksThroughStage, done, List.append_nil]
  refine ⟨events ++ closings, closing, next.finish.2, left, ?_⟩
  rw [Chain.chunksThroughStage_append passed last, finished, ← List.map_append,
    List.append_assoc]

/-- Whether a whole answer is accepted and gives this usage. -/
def AnswersWithUsage (context : Context) (supply : Supply) (body : Json) (usage : Usage) : Prop :=
  ∃ (response : Response) (left : Supply),
    readResponse body context supply = (.ok response.encode.normalize, left) ∧
      response.usage = usage

theorem answersWithUsage_of_readReply {body : Json} {reply : Reply}
    (read : readReply body = .ok reply) (answered : reply.candidates ≠ []) (context : Context)
    (supply : Supply) :
    AnswersWithUsage context supply body (((counts? body).map Counts.usage).getD .zero) := by
  obtain ⟨candidate, rest, candidates⟩ := List.exists_cons_of_ne_nil answered
  rw [← usage_of_readReply read]
  simp only [AnswersWithUsage, readResponse, read, toResponse, candidates]
  exact ⟨_, _, rfl, rfl⟩

/-- A stream ends with the usage that the whole answer with its latest counts gives, and that is the
exact one unless output and thoughts together have more than 32 bits. -/
theorem usage_exact_iff {chunks : List (Option String × Json)} (replies : AreReplies chunks)
    {body : Json} {reply : Reply} (read : readReply body = .ok reply)
    (answered : reply.candidates ≠ []) (same : counts? body = latestCounts? chunks)
    (context : Context) (supply other : Supply) :
    ∃ usage, EndsWithUsage context supply chunks usage ∧
      AnswersWithUsage context other body usage ∧
      (usage = ((latestCounts? chunks).map Counts.exactUsage).getD .zero ↔
        ∀ counts ∈ latestCounts? chunks,
          counts.candidates + counts.thoughts < Word.size 32) := by
  refine ⟨_, endsWithUsage_of_areReplies replies context supply,
    same ▸ answersWithUsage_of_readReply read answered context other, ?_⟩
  cases latestCounts? chunks with
  | none => simp
  | some counts => simpa using counts.usage_eq_exactUsage_iff

/-- The body of an answer without parts, with its counts. -/
def bodyOfCounts (counts : Counts) : Json :=
  .object [("candidates", .array [.object []]),
    ("usageMetadata", .object
      ([("promptTokenCount", .ofNat counts.prompt),
          ("candidatesTokenCount", .ofNat counts.candidates),
          ("thoughtsTokenCount", .ofNat counts.thoughts)] ++
        optionalField "cachedContentTokenCount" .ofNat counts.cached))]

/-- The last chunk counts nothing, and the sum of the counts before it has just 32 bits. -/
theorem usage_exact_iff_limit :
    let early : Counts := ⟨7, 1, 2, none⟩
    let late : Counts := ⟨7, 4294967290, 5, some 3⟩
    let silent : Json := .object [("candidates", .array [])]
    let chunks := [(none, bodyOfCounts early), (none, bodyOfCounts late), (none, silent)]
    let context : Context := ⟨⟨1⟩, "google", "flash", true, []⟩
    latestCounts? chunks = some late ∧
      EndsWithUsage context ⟨0⟩ chunks ⟨7, 4294967295, some 3⟩ ∧
      AnswersWithUsage context ⟨0⟩ (bodyOfCounts late) ⟨7, 4294967295, some 3⟩ := by
  intro early late silent chunks context
  have replies : AreReplies chunks := by
    intro chunk member
    simp only [chunks, List.mem_cons, List.not_mem_nil, or_false] at member
    rcases member with rfl | rfl | rfl <;> exact ⟨_, rfl⟩
  have latest : latestCounts? chunks = some late := by decide +kernel
  have same : counts? (bodyOfCounts late) = latestCounts? chunks := by
    rw [latest]
    decide +kernel
  obtain ⟨usage, streamed, whole, exact_iff⟩ :=
    usage_exact_iff replies rfl (List.cons_ne_nil _ _) same context ⟨0⟩ ⟨0⟩
  rw [latest] at exact_iff
  have told : usage = ⟨7, 4294967295, some 3⟩ := exact_iff.mpr (by simp [late, Word.size])
  exact ⟨latest, told ▸ streamed, told ▸ whole⟩

/-- Of a sum of 33 bits both the stream and the whole answer lose the highest one. -/
theorem usage_loses_bit :
    let counts : Counts := ⟨7, 4294967295, 1, none⟩
    let chunks := [(none, bodyOfCounts counts)]
    let context : Context := ⟨⟨1⟩, "google", "flash", true, []⟩
    latestCounts? chunks = some counts ∧ counts.exactUsage = ⟨7, 4294967296, none⟩ ∧
      EndsWithUsage context ⟨0⟩ chunks ⟨7, 0, none⟩ ∧
      AnswersWithUsage context ⟨0⟩ (bodyOfCounts counts) ⟨7, 0, none⟩ := by
  intro counts chunks context
  have replies : AreReplies chunks := by
    intro chunk member
    rw [List.mem_singleton.mp member]
    exact ⟨_, rfl⟩
  have latest : latestCounts? chunks = some counts := by decide +kernel
  have own : counts? (bodyOfCounts counts) = some counts := by decide +kernel
  have told : counts.usage = ⟨7, 0, none⟩ := by decide +kernel
  have streamed := endsWithUsage_of_areReplies replies context ⟨0⟩
  have whole := @answersWithUsage_of_readReply (bodyOfCounts counts) _ rfl
    (List.cons_ne_nil _ _) context ⟨0⟩
  rw [latest, Option.map_some, Option.getD_some, told] at streamed
  rw [own, Option.map_some, Option.getD_some, told] at whole
  exact ⟨latest, rfl, streamed, whole⟩

end ChatGateway.Wire.GenerateContent
