import ChatGateway.Proofs.Json.ReadBack
import ChatGateway.Proofs.Stage.Tidy
import ChatGateway.Proofs.Wire.Fragments
import ChatGateway.Proofs.Wire.StopReason

/-!
# Answers in parts

An answer of the generate-content protocol is a list of parts, which may come as a whole or over any
number of chunks.  One reader makes a block of each part, the other one merges and numbers blocks as
the parts come in.  Who puts the blocks of the stream together again has the blocks of the whole
answer, tidied up.
-/

namespace ChatGateway.Wire.GenerateContent

open EventWriter
open ChatCompletions (calling writeArguments_calling)

/-! ## What parts hold -/

/-- The arguments that a part calls its function with can be written and read back. -/
def Part.IsReadable (part : Part) : Prop := ∀ call ∈ part.call, call.arguments.IsReadable

section

open Json Json.Source

theorem isReadable_of_decode? {value : Json} {part : Part} (readable : value.IsReadable)
    (decoded : Part.decode? value = some part) : part.IsReadable := by
  simp only [Part.decode?, Option.bind_eq_bind, Option.bind_eq_some_iff] at decoded
  obtain ⟨source, opened, _, -, _, -, _, -, called, found, equal⟩ := decoded
  cases equal
  have gives := gives_of_source? hereditary_isReadable readable opened
  refine gives.of_optional (fun call => call.arguments.IsReadable) ?_ found
  intro value call readable _ decoded
  simp only [FunctionCall.decode?, Option.bind_eq_bind, Option.bind_eq_some_iff] at decoded
  obtain ⟨source, opened, _, -, _, -, arguments, found, equal⟩ := decoded
  cases equal
  have gives := gives_of_source? hereditary_isReadable readable opened
  refine gives.of_withDefault Json.IsReadable isReadable_null ?_ found
  intro value result readable same
  cases same
  exact readable

theorem isReadable_of_decodeParts? {value : Json} {parts : List Part} (readable : value.IsReadable)
    (decoded : decodeParts? value = some parts) : ∀ part ∈ parts, part.IsReadable := by
  obtain ⟨source, opened, found⟩ := Option.bind_eq_some_iff.mp decoded
  have gives := gives_of_source? hereditary_isReadable readable opened
  refine gives.of_withDefault (fun parts => ∀ part ∈ parts, part.IsReadable)
    (List.forall_mem_nil _) ?_ found
  intro value parts readable list
  exact hereditary_isReadable.of_decodeList _ readable (fun _ _ => isReadable_of_decode?) list

theorem isReadable_of_decodeCandidate? {value : Json} {candidate : Candidate}
    (readable : value.IsReadable) (decoded : Candidate.decode? value = some candidate) :
    ∀ part ∈ candidate.parts, part.IsReadable := by
  simp only [Candidate.decode?, Option.bind_eq_bind, Option.bind_eq_some_iff] at decoded
  obtain ⟨source, opened, content, found, _, -, equal⟩ := decoded
  cases equal
  have gives := gives_of_source? hereditary_isReadable readable opened
  have inside := gives.of_optional (fun parts => ∀ part ∈ parts, part.IsReadable)
    (fun _ _ readable _ => isReadable_of_decodeParts? readable) found
  cases content with
  | none => exact List.forall_mem_nil _
  | some parts => exact inside parts rfl

/-- A body that can be read from a text holds parts whose arguments can. -/
theorem isReadable_of_readReply {body : Json} {reply : Reply} (readable : body.IsReadable)
    (read : readReply body = .ok reply) :
    ∀ candidate ∈ reply.candidates, ∀ part ∈ candidate.parts, part.IsReadable := by
  rw [readReply] at read
  split at read
  · cases read
  · split at read
    · rename_i reply decoded
      cases read
      simp only [Reply.decode?, Option.bind_eq_bind, Option.bind_eq_some_iff] at decoded
      obtain ⟨source, opened, candidates, found, _, -, _, -, _, -, equal⟩ := decoded
      cases equal
      have gives := gives_of_source? hereditary_isReadable readable opened
      refine gives.of_withDefault
        (fun candidates => ∀ candidate ∈ candidates, ∀ part ∈ candidate.parts, part.IsReadable)
        (List.forall_mem_nil _) ?_ found
      intro value candidates readable list
      exact hereditary_isReadable.of_decodeList _ readable
        (fun _ _ => isReadable_of_decodeCandidate?) list
    · cases read

end

/-! ## What a stream adds -/

/-- The arguments that a text stands for. -/
def parseArguments (text : String) : Json := (Json.parse? text).getD .null

/-- What is written adds blocks to a sketch. -/
structure Adds (writer : EventWriter) (written : List Event × EventWriter) (before after : Sketch)
    (blocks : List Block) : Prop where
  sketches : written.2.Sketches after
  plain : after.IsPlain
  blocks : after.blocks parseArguments = blocks.foldl Block.addTo (before.blocks parseArguments)
  read : ∀ assembly : Assembly, assembly.drafts = before.drafts →
    (assembly.readAll written.1).drafts = after.drafts
  finished : written.2.finished = writer.finished

variable {writer : EventWriter} {sketch : Sketch}

theorem adds_of_draws {written : List Event × EventWriter} {after : Sketch} {blocks : List Block}
    (draws : Draws writer written sketch after) (plain : after.IsPlain)
    (same : after.blocks parseArguments =
      blocks.foldl Block.addTo (sketch.blocks parseArguments)) :
    Adds writer written sketch after blocks :=
  ⟨draws.sketches, plain, same, draws.read, congrArg Remarks.finished draws.remarks⟩

theorem adds_nil (sketches : writer.Sketches sketch) (plain : sketch.IsPlain) :
    Adds writer ([], writer) sketch sketch [] :=
  adds_of_draws sketches.draws_nil plain rfl

theorem Adds.append {earlier later : List Event} {middle next : EventWriter}
    {first second third : Sketch} {blocks more : List Block}
    (one : Adds writer (earlier, middle) first second blocks)
    (two : Adds middle (later, next) second third more) :
    Adds writer (earlier ++ later, next) first third (blocks ++ more) where
  sketches := two.sketches
  plain := two.plain
  blocks := by rw [two.blocks, one.blocks, List.foldl_append]
  read assembly same := by
    rw [Assembly.readAll_append]
    exact two.read _ (one.read assembly same)
  finished := two.finished.trans one.finished

/-- The block of a part, as a stream shows it. -/
def shownBlocks (supply : Supply) (parts : List Part) : List Block :=
  (partBlocks supply parts).1.map Block.unsigned

/-- A call begins a block of its own, which holds its arguments. -/
theorem adds_call (sketches : writer.Sketches sketch) (plain : sketch.IsPlain) (key : Nat)
    (id : String) {call : FunctionCall} (readable : call.arguments.IsReadable) :
    let opened := writer.startTool key id call.name
    let filled := opened.2.writeArguments key call.arguments.render
    Adds writer (opened.1 ++ filled.1, filled.2) sketch
      (calling sketch.drafts sketch.tools key id call.name call.arguments.render)
      [.toolUse id call.name call.arguments] := by
  intro opened filled
  have opening := draws_startTool sketches key id call.name
  have both := opening.append
    (draws_writeArguments opening.sketches key call.arguments.render)
  have written : (calling sketch.drafts sketch.tools key id call.name "").writeArguments key
      call.arguments.render =
        calling sketch.drafts sketch.tools key id call.name call.arguments.render := by
    rw [writeArguments_calling, String.empty_append]
  rw [show sketch.startTool key id call.name =
    calling sketch.drafts sketch.tools key id call.name "" from rfl, written] at both
  refine adds_of_draws both (Sketch.isPlain_concat plain (.ofTool _ _ _ _)) ?_
  have input : parseArguments call.arguments.render = call.arguments := by
    rw [parseArguments, readable.parse?_render, Option.getD_some]
  rw [calling, Sketch.blocks_concat]
  change _ ++ [Block.toolUse id call.name (parseArguments call.arguments.render)] = _
  rw [input, List.foldl_cons, List.foldl_nil, Block.addTo_toolUse]
  rfl

theorem adds_writePart (sketches : writer.Sketches sketch) (plain : sketch.IsPlain)
    (supply : Supply) {part : Part} (readable : part.IsReadable) :
    ∃ after, Adds writer ((writePart writer supply part).2.1, (writePart writer supply part).2.2.1)
        sketch after ((partBlock part supply).1.map Block.unsigned) ∧
      (writePart writer supply part).2.2.2 = (partBlock part supply).2 := by
  rw [writePart, partBlock]
  cases called : part.call with
  | some call =>
      have counted : { writer with unkeyedTools := writer.unkeyedTools + 1 }.Sketches sketch :=
        ⟨sketches.next, sketches.opened, sketches.tools, sketches.below⟩
      have adds := adds_call counted plain writer.unkeyedTools (callId call supply).1
        (readable call called)
      exact ⟨_, ⟨adds.sketches, adds.plain, adds.blocks, adds.read, adds.finished⟩, rfl⟩
  | none =>
      cases part.text with
      | none => exact ⟨sketch, adds_nil sketches plain, rfl⟩
      | some text =>
          dsimp only
          split
          · obtain ⟨stillPlain, same⟩ :=
              Sketch.blocks_write (Sketch.shows_thinking parseArguments) plain text
            exact ⟨_, adds_of_draws (draws_writeThinking sketches text) stillPlain same, rfl⟩
          · obtain ⟨stillPlain, same⟩ :=
              Sketch.blocks_write (Sketch.shows_text parseArguments) plain text
            exact ⟨_, adds_of_draws (draws_writeText sketches text) stillPlain same, rfl⟩

theorem adds_writeParts (sketches : writer.Sketches sketch) (plain : sketch.IsPlain)
    (supply : Supply) {parts : List Part} (readable : ∀ part ∈ parts, part.IsReadable) :
    ∃ after, Adds writer
        ((writeParts writer supply parts).2.1, (writeParts writer supply parts).2.2.1)
        sketch after (shownBlocks supply parts) ∧
      (writeParts writer supply parts).2.2.2 = (partBlocks supply parts).2 := by
  induction parts generalizing writer sketch supply with
  | nil => exact ⟨sketch, adds_nil sketches plain, rfl⟩
  | cons part rest ih =>
      obtain ⟨middle, first, drawn⟩ :=
        adds_writePart sketches plain supply (readable part List.mem_cons_self)
      obtain ⟨after, others, left⟩ := ih first.sketches first.plain
        (writePart writer supply part).2.2.2 fun other member => readable other (.tail _ member)
      refine ⟨after, ?_, ?_⟩
      · have all := first.append others
        rw [drawn] at all
        simpa [writeParts, shownBlocks, partBlocks, drawn] using all
      · rw [drawn] at left
        simpa [writeParts, partBlocks, drawn] using left

theorem partBlocks_append (supply : Supply) (earlier later : List Part) :
    partBlocks supply (earlier ++ later) =
      ((partBlocks supply earlier).1 ++ (partBlocks (partBlocks supply earlier).2 later).1,
        (partBlocks (partBlocks supply earlier).2 later).2) := by
  induction earlier generalizing supply with
  | nil => rfl
  | cons part rest ih => simp only [List.cons_append, partBlocks, ih, List.append_assoc]

theorem shownBlocks_append (supply : Supply) (earlier later : List Part) :
    shownBlocks supply (earlier ++ later) =
      shownBlocks supply earlier ++ shownBlocks (partBlocks supply earlier).2 later := by
  rw [shownBlocks, partBlocks_append, List.map_append]
  rfl

/-- The parts of all candidates of a reply. -/
def Reply.parts (reply : Reply) : List Part := reply.candidates.flatMap Candidate.parts

theorem adds_writeCandidates (sketches : writer.Sketches sketch) (plain : sketch.IsPlain)
    (supply : Supply) (called : Bool) {candidates : List Candidate}
    (readable : ∀ candidate ∈ candidates, ∀ part ∈ candidate.parts, part.IsReadable) :
    ∃ after, Adds writer ((writeCandidates writer supply called candidates).1,
        (writeCandidates writer supply called candidates).2.1) sketch after
        (shownBlocks supply (candidates.flatMap Candidate.parts)) ∧
      (writeCandidates writer supply called candidates).2.2 =
        (partBlocks supply (candidates.flatMap Candidate.parts)).2 := by
  induction candidates generalizing writer sketch supply called with
  | nil => exact ⟨sketch, adds_nil sketches plain, rfl⟩
  | cons candidate rest ih =>
      obtain ⟨middle, first, drawn⟩ :=
        adds_writeParts sketches plain supply (readable candidate List.mem_cons_self)
      have others {noted : EventWriter} (calledToo : Bool)
          (adds : Adds writer ((writeParts writer supply candidate.parts).2.1, noted) sketch middle
            (shownBlocks supply candidate.parts)) :
          let more := writeCandidates noted (writeParts writer supply candidate.parts).2.2.2
            calledToo rest
          ∃ after, Adds writer ((writeParts writer supply candidate.parts).2.1 ++ more.1, more.2.1)
              sketch after (shownBlocks supply ((candidate :: rest).flatMap Candidate.parts)) ∧
            more.2.2 = (partBlocks supply ((candidate :: rest).flatMap Candidate.parts)).2 := by
        obtain ⟨after, more, left⟩ := ih adds.sketches adds.plain
          (partBlocks supply candidate.parts).2 calledToo
          fun other member => readable other (.tail _ member)
        dsimp only
        rw [drawn, List.flatMap_cons, shownBlocks_append, partBlocks_append]
        exact ⟨after, adds.append more, left⟩
      rw [writeCandidates]
      -- a reason is only noted
      cases candidate.finishReason with
      | none => exact others _ first
      | some reason =>
          exact others _ ⟨first.sketches.setStopReason _, first.plain, first.blocks, first.read,
            first.finished⟩

/-- A chunk brings parts of an answer, and maybe a reason or token counts. -/
def Brings (chunk : Chunk) (parts : List Part) : Prop :=
  ∃ name data reply, chunk = .event name data ∧ readReply data = .ok reply ∧ reply.parts = parts

theorem readChunk_of_brings {chunk : Chunk} {parts : List Part} (brings : Brings chunk parts)
    (readable : ∀ part ∈ parts, part.IsReadable) (unfinished : writer.finished = false)
    (sketches : writer.Sketches sketch) (plain : sketch.IsPlain) (context : Context)
    (supply : Supply) :
    ∃ events next after,
      readChunk chunk context writer supply = (.ok events, next, (partBlocks supply parts).2) ∧
      Adds writer (events, next) sketch after (shownBlocks supply parts) := by
  obtain ⟨name, data, reply, rfl, read, rfl⟩ := brings
  have header := draws_startMessage sketches
    (reply.id.getD ("msg_" ++ context.requestId.compact)) (reply.model.getD context.model)
  have inside : ∀ candidate ∈ reply.candidates, ∀ part ∈ candidate.parts, part.IsReadable := by
    intro candidate there part member
    exact readable part (List.mem_flatMap.mpr ⟨candidate, there, member⟩)
  obtain ⟨after, adds, left⟩ := adds_writeCandidates header.sketches plain supply false inside
  have start : Adds writer _ sketch sketch [] := adds_of_draws header plain rfl
  have all := start.append adds
  simp only [readChunk, unfinished, read, Bool.false_eq_true, if_false]
  rw [left]
  refine ⟨_, _, after, rfl, ?_⟩
  cases reply.usage with
  | none => exact all
  | some usage =>
      exact ⟨all.sketches.setUsage usage, all.plain, all.blocks, all.read, all.finished⟩

theorem chunksThroughStage_of_brings {chunks : List Chunk} {parts : List (List Part)}
    (brought : List.Forall₂ Brings chunks parts)
    (readable : ∀ part ∈ parts.flatten, part.IsReadable) (unfinished : writer.finished = false)
    (sketches : writer.Sketches sketch) (plain : sketch.IsPlain) (context : Context)
    (supply : Supply) :
    ∃ events next after, Chain.chunksThroughStage .gemini context writer supply chunks =
        (.ok (events.map .ofEvent), next, (partBlocks supply parts.flatten).2) ∧
      Adds writer (events, next) sketch after (shownBlocks supply parts.flatten) := by
  induction brought generalizing writer sketch supply with
  | nil => exact ⟨[], writer, sketch, rfl, adds_nil sketches plain⟩
  | @cons chunk parts chunks others first _ ih =>
      rw [List.flatten_cons, List.forall_mem_append] at readable
      obtain ⟨events, next, middle, read, adds⟩ :=
        readChunk_of_brings first readable.1 unfinished sketches plain context supply
      obtain ⟨more, last, after, passed, addsMore⟩ := ih readable.2
        (adds.finished.trans unfinished) adds.sketches adds.plain (partBlocks supply parts).2
      have changed : Stage.gemini.changeChunk chunk context writer supply =
          (.ok (events.map .ofEvent), next, (partBlocks supply parts).2) := by
        simp only [Stage.changeChunk, read]
        rfl
      refine ⟨events ++ more, last, after, ?_, ?_⟩
      · simp only [Chain.chunksThroughStage, changed, passed, List.map_append, List.flatten_cons,
          partBlocks_append]
      · rw [List.flatten_cons, shownBlocks_append]
        exact adds.append addsMore

/-! ## The stream and the whole -/

/-- The ids that came with the calls of an answer. -/
def givenIds (parts : List Part) : List (Option String) :=
  parts.filterMap fun part => part.call.map FunctionCall.id

theorem shownBlocks_call {part : Part} {call : FunctionCall} (called : part.call = some call)
    (supply : Supply) (rest : List Part) :
    shownBlocks supply (part :: rest) =
      .toolUse (callId call supply).1 call.name call.arguments ::
        shownBlocks (callId call supply).2 rest := by
  simp [shownBlocks, partBlocks, partBlock, called, Block.unsigned]

/-- What a part says that calls nothing does not depend on a supply. -/
theorem shownBlocks_silent {part : Part} (silent : part.call = none) :
    ∃ said : List Block, (∀ block ∈ said, block.isTool = false) ∧
      ∀ supply rest, shownBlocks supply (part :: rest) = said ++ shownBlocks supply rest := by
  cases spoken : part.text with
  | none =>
      exact ⟨[], List.forall_mem_nil _, by simp [shownBlocks, partBlocks, partBlock, silent, spoken]⟩
  | some text =>
      by_cases thought : part.thought = some true
      · exact ⟨[.thinking text none], by simp [Block.isTool],
          by simp [shownBlocks, partBlocks, partBlock, silent, spoken, thought, Block.unsigned]⟩
      · exact ⟨[.ofText text], by simp [Block.isTool, Block.ofText],
          by simp [shownBlocks, partBlocks, partBlock, silent, spoken, thought, Block.unsigned,
            Block.ofText]⟩

/-- Except for generated ids, the blocks of an answer do not depend on what is generated. -/
theorem hideGenerated_shownBlocks (supply other : Supply) (parts : List Part) :
    Block.hideGenerated (givenIds parts) (shownBlocks supply parts) =
      Block.hideGenerated (givenIds parts) (shownBlocks other parts) := by
  induction parts generalizing supply other with
  | nil => rfl
  | cons part rest ih =>
      cases called : part.call with
      | some call =>
          have given : givenIds (part :: rest) = call.id :: givenIds rest := by
            simp [givenIds, called]
          rw [given, shownBlocks_call called, shownBlocks_call called, Block.hideGenerated,
            Block.hideGenerated, List.tail_cons, ih]
          cases own : call.id with
          | none => rfl
          | some id => simp only [callId, own]
      | none =>
          have given : givenIds (part :: rest) = givenIds rest := by
            simp [givenIds, called]
          obtain ⟨said, noTools, same⟩ := shownBlocks_silent called
          rw [given, same, same, Block.hideGenerated_append noTools,
            Block.hideGenerated_append noTools, ih]

/-- A stream that is put together again has the blocks of the whole answer, without its empty texts
and thoughts and with those joined that stand side by side, however its parts are spread over
chunks. -/
theorem assembly_eq_tidy {text : String} {body : Json} (parsed : Json.parse? text = some body)
    {candidate : Candidate} (describes : Describes body candidate) {chunks : List Chunk}
    {parts : List (List Part)} (brought : List.Forall₂ Brings chunks parts)
    (split : parts.flatten = candidate.parts) (context : Context) (supply other : Supply) :
    ∃ (response : Response) (left : Supply) (events : List Event) (writer : EventWriter)
      (rest : Supply),
      readResponse body context other = (.ok response.encode.normalize, left) ∧
      Chain.chunksThroughStage .gemini context .new supply (chunks ++ [.done]) =
        (.ok (events.map .ofEvent), writer, rest) ∧
      Block.hideGenerated (givenIds candidate.parts)
          ((Assembly.new.readAll events).blocks parseArguments) =
        Block.hideGenerated (givenIds candidate.parts)
          (Block.tidy (response.content.map Block.unsigned)) := by
  obtain ⟨reply, read, single⟩ := describes
  have readable : ∀ part ∈ parts.flatten, part.IsReadable := by
    rw [split]
    exact isReadable_of_readReply (Json.isReadable_of_parse? parsed) read candidate
      (single ▸ List.mem_cons_self)
  obtain ⟨response, left, answer, content⟩ :
      ∃ (response : Response) (left : Supply),
        readResponse body context other = (.ok response.encode.normalize, left) ∧
        response.content = (partBlocks other candidate.parts).1 := by
    simp only [readResponse, read, toResponse, single]
    exact ⟨_, _, rfl, rfl⟩
  obtain ⟨events, next, after, passed, adds⟩ := chunksThroughStage_of_brings brought readable rfl
    sketches_new (List.forall_mem_nil _) context supply
  have unfinished : next.finished = false := adds.finished
  have ending : Chain.chunksThroughStage .gemini context next (partBlocks supply parts.flatten).2
      [.done] = (.ok (next.finish.1.map .ofEvent), next.finish.2,
        (partBlocks supply parts.flatten).2) := by
    simp only [Chain.chunksThroughStage, Stage.changeChunk, readChunk, List.append_nil]
    rfl
  refine ⟨response, left, events ++ next.finish.1, next.finish.2,
    (partBlocks supply parts.flatten).2, answer, ?_, ?_⟩
  · rw [List.map_append]
    exact Chain.chunksThroughStage_append passed ending
  · have streamed : (Assembly.new.readAll (events ++ next.finish.1)).blocks parseArguments =
        Block.tidy (shownBlocks supply candidate.parts) := by
      have drafts := adds.read .new rfl
      rw [Assembly.readAll_append, readAll_finish unfinished, Assembly.blocks]
      simp only [drafts]
      rw [← split, ← Block.foldl_addTo]
      exact adds.blocks
    rw [streamed, content, Block.hideGenerated_tidy, hideGenerated_shownBlocks supply other,
      ← Block.hideGenerated_tidy]
    rfl

/-- The body of an answer with one candidate of these parts. -/
def answerOfParts (parts : List Json) : Json :=
  .object [("candidates", .array [.object [("content", .object [("parts", .array parts)])]])]

/-- An answer in two chunks, the second of which calls a function. -/
theorem assembly_eq_tidy_two_chunks :
    let greeting : Json := .object [("text", .string "a")]
    let farewell : Json := .object [("text", .string "b")]
    let calling : Json :=
      .object [("functionCall", .object [("args", .array [.string "c"]), ("name", .string "f")])]
    let body := answerOfParts [greeting, farewell, calling]
    let parts : List Part :=
      [⟨some "a", none, none, none⟩, ⟨some "b", none, none, none⟩,
        ⟨none, none, none, some ⟨none, "f", .array [.string "c"]⟩⟩]
    let context : Context := ⟨⟨1⟩, "google", "flash", true, []⟩
    Json.parse? body.render = some body ∧
    ∃ (response : Response) (left : Supply) (events : List Event) (writer : EventWriter)
      (rest : Supply),
      readResponse body context ⟨0⟩ = (.ok response.encode.normalize, left) ∧
      Chain.chunksThroughStage .gemini context .new ⟨7⟩
          ([.event none (answerOfParts [greeting]),
            .event none (answerOfParts [farewell, calling])] ++ [.done]) =
        (.ok (events.map .ofEvent), writer, rest) ∧
      Block.hideGenerated (givenIds parts)
          ((Assembly.new.readAll events).blocks parseArguments) =
        Block.hideGenerated (givenIds parts)
          (Block.tidy (response.content.map Block.unsigned)) := by
  intro greeting farewell calling body parts context
  have normal : body.IsNormal := by
    repeat' first
      | constructor
      | (refine List.forall_mem_cons.mpr ⟨?_, ?_⟩)
      | exact List.forall_mem_nil _
  have legible : body.IsLegible (120 + 7) := by
    repeat' first
      | constructor
      | (refine List.forall_mem_cons.mpr ⟨?_, ?_⟩)
      | exact List.forall_mem_nil _
  have parsed : Json.parse? body.render = some body :=
    Json.IsReadable.parse?_render ⟨normal, legible⟩
  have describes : Describes body ⟨parts, none⟩ := ⟨_, rfl, rfl⟩
  have brought : List.Forall₂ Brings
      [.event none (answerOfParts [greeting]), .event none (answerOfParts [farewell, calling])]
      [parts.take 1, parts.drop 1] :=
    .cons ⟨_, _, _, rfl, rfl, rfl⟩ (.cons ⟨_, _, _, rfl, rfl, rfl⟩ .nil)
  exact ⟨parsed, assembly_eq_tidy parsed describes brought rfl context ⟨7⟩ ⟨0⟩⟩

end ChatGateway.Wire.GenerateContent
