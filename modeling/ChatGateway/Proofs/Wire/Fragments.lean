import ChatGateway.Proofs.Stage.Assembly
import ChatGateway.Proofs.Stage.Written

/-!
# Answers in fragments

An answer of the chat completions protocol may come as a whole or in fragments of its texts, over
any number of chunks.  Two separate readers make blocks of the two forms.  Who puts the blocks of the
stream together again has the blocks, the reason and the token counts of the whole answer.
-/

namespace ChatGateway.Wire.ChatCompletions

/-! ## Fragments -/

/-- A piece of an answer. -/
inductive Fragment where
  | thought (text : String)
  | text (text : String)
  /-- A piece of the call with a key. -/
  | call (key : Nat) (call : ToolCall)
  deriving Inhabited

/-- The fragment of a text that is not empty. -/
def textFragment (make : String → Fragment) (text : Option String) : List Fragment :=
  ((text.filter fun text => !text.isEmpty).map make).toList

/-- The fragments of calls, of which the first one stands at a position. -/
def callFragments (position : Nat) : List ToolCall → List Fragment
  | [] => []
  | call :: rest => .call (call.index.getD position) call :: callFragments (position + 1) rest

/-- The fragments of a choice, in the order in which they are read. -/
def Choice.fragments (choice : Choice) : List Fragment :=
  textFragment .thought choice.saying.reasoning ++ textFragment .text choice.saying.content ++
    callFragments 0 choice.saying.calls

/-- The fragments of a chunk. -/
def Reply.fragments (reply : Reply) : List Fragment := reply.choices.flatMap Choice.fragments

/-- The reasons that choices give. -/
def reasonsOf (choices : List Choice) : List String :=
  choices.flatMap fun choice => choice.finishReason.toList

/-- Adds a fragment to a sketch. -/
def addFragment (sketch : Sketch) : Fragment → Sketch
  | .thought text => sketch.write .thinking .thinking text
  | .text text => sketch.write .text .text text
  | .call key call =>
      let opened :=
        if (sketch.toolIndex? key).isSome then sketch
        else sketch.startTool key (call.id.getD (defaultCallId key)) (call.name.getD "")
      opened.writeArguments key (call.arguments.getD "")

/-- Adds fragments, one after the other. -/
def addFragments (sketch : Sketch) (fragments : List Fragment) : Sketch :=
  fragments.foldl addFragment sketch

theorem addFragments_append (sketch : Sketch) (earlier later : List Fragment) :
    addFragments sketch (earlier ++ later) = addFragments (addFragments sketch earlier) later :=
  List.foldl_append

/-! ## What a stream adds -/

open EventWriter

variable {writer : EventWriter} {sketch : Sketch}

theorem draws_textFragment {write : String → List Event × EventWriter} (make : String → Fragment)
    (sketches : writer.Sketches sketch) (empty : write "" = ([], writer))
    (draws : ∀ text, Draws writer (write text) sketch (addFragment sketch (make text)))
    (text : Option String) :
    Draws writer (write (text.getD "")) sketch
      (addFragments sketch (textFragment make text)) := by
  cases text with
  | none =>
      rw [Option.getD_none, empty]
      exact sketches.draws_nil
  | some text =>
      cases blank : text.isEmpty with
      | true =>
          rw [Option.getD_some, String.isEmpty_iff.mp blank, empty]
          exact sketches.draws_nil
      | false =>
          have only : textFragment make (some text) = [make text] := by
            rw [textFragment, Option.filter_some, blank, Bool.not_false, if_pos rfl]
            rfl
          rw [only]
          exact draws text

theorem draws_writeCalls (sketches : writer.Sketches sketch) (position : Nat)
    (calls : List ToolCall) :
    Draws writer (writeCalls writer position calls) sketch
      (addFragments sketch (callFragments position calls)) := by
  induction calls generalizing writer sketch position with
  | nil => exact sketches.draws_nil
  | cons call rest ih =>
      let key := call.index.getD position
      have opening : Draws writer
          (if writer.hasTool key then ([], writer)
            else writer.startTool key (call.id.getD (defaultCallId key)) (call.name.getD ""))
          sketch
          (if (sketch.toolIndex? key).isSome then sketch
            else sketch.startTool key (call.id.getD (defaultCallId key)) (call.name.getD "")) := by
        rw [hasTool, sketches.toolIndex?_eq]
        split
        · exact sketches.draws_nil
        · exact draws_startTool sketches key _ _
      have arguments := draws_writeArguments opening.sketches key (call.arguments.getD "")
      exact (opening.append arguments).append (ih arguments.sketches (position + 1))

/-- What is written adds fragments to a sketch, and notes reasons and token counts, of which the
last ones count. -/
structure Tells (writer : EventWriter) (written : List Event × EventWriter) (sketch : Sketch)
    (fragments : List Fragment) (reasons : List String) (usages : List Usage) : Prop where
  sketches : written.2.Sketches (addFragments sketch fragments)
  read : ∀ assembly : Assembly, assembly.drafts = sketch.drafts →
    (assembly.readAll written.1).drafts = (addFragments sketch fragments).drafts
  remarks : written.2.remarks =
    ⟨writer.finished, (reasons.getLast?.map stopReason).or writer.stopReason,
      usages.getLast?.getD writer.usage⟩

theorem tells_of_draws {written : List Event × EventWriter} {fragments : List Fragment}
    (draws : Draws writer written sketch (addFragments sketch fragments)) :
    Tells writer written sketch fragments [] [] :=
  ⟨draws.sketches, draws.read, draws.remarks⟩

theorem Tells.append {earlier later : List Event} {middle after : EventWriter}
    {fragments more : List Fragment} {reasons others : List String} {usages counts : List Usage}
    (one : Tells writer (earlier, middle) sketch fragments reasons usages)
    (two : Tells middle (later, after) (addFragments sketch fragments) more others counts) :
    Tells writer (earlier ++ later, after) sketch (fragments ++ more) (reasons ++ others)
      (usages ++ counts) where
  sketches := by
    rw [addFragments_append]
    exact two.sketches
  read assembly same := by
    rw [Assembly.readAll_append, addFragments_append]
    exact two.read _ (one.read assembly same)
  remarks := by
    have noted := one.remarks
    simp only [EventWriter.remarks, Remarks.mk.injEq] at noted
    obtain ⟨unfinished, reason, usage⟩ := noted
    rw [two.remarks, unfinished, reason, usage, List.getLast?_append, List.getLast?_append,
      Option.map_or, Option.or_assoc]
    cases counts.getLast? <;> rfl

/-- A reason takes the place of the ones before it. -/
theorem Tells.giveReason {events : List Event} {next : EventWriter} {fragments : List Fragment}
    {reasons : List String} {usages : List Usage}
    (tells : Tells writer (events, next) sketch fragments reasons usages) (reason : String) :
    Tells writer (events, next.setStopReason (stopReason reason)) sketch fragments
      (reasons ++ [reason]) usages where
  sketches := tells.sketches.setStopReason _
  read := tells.read
  remarks := by
    calc (next.setStopReason (stopReason reason)).remarks
      _ = { next.remarks with stopReason := some (stopReason reason) } := rfl
      _ = _ := by
        rw [show next.remarks = _ from tells.remarks, List.getLast?_concat]
        rfl

/-- Token counts take the place of the ones before them. -/
theorem Tells.giveUsage {events : List Event} {next : EventWriter} {fragments : List Fragment}
    {reasons : List String} {usages : List Usage}
    (tells : Tells writer (events, next) sketch fragments reasons usages) (usage : Usage) :
    Tells writer (events, next.setUsage usage) sketch fragments reasons (usages ++ [usage]) where
  sketches := tells.sketches.setUsage usage
  read := tells.read
  remarks := by
    calc (next.setUsage usage).remarks
      _ = { next.remarks with usage } := rfl
      _ = _ := by
        rw [show next.remarks = _ from tells.remarks, List.getLast?_concat]
        rfl

theorem tells_writeChoice (sketches : writer.Sketches sketch) (choice : Choice) :
    Tells writer (writeChoice writer choice) sketch choice.fragments choice.finishReason.toList
      [] := by
  let saying := choice.saying
  have thoughts : Draws writer (writer.writeThinking (saying.reasoning.getD "")) sketch
      (addFragments sketch (textFragment .thought saying.reasoning)) :=
    draws_textFragment .thought sketches (writeThinking_empty writer)
      (draws_writeThinking sketches) _
  let thinker := (writer.writeThinking (saying.reasoning.getD "")).2
  have texts : Draws thinker (thinker.writeText (saying.content.getD "")) _
      (addFragments _ (textFragment .text saying.content)) :=
    draws_textFragment .text thoughts.sketches (writeText_empty thinker)
      (draws_writeText thoughts.sketches) _
  have all := (thoughts.append texts).append (draws_writeCalls texts.sketches 0 saying.calls)
  rw [← addFragments_append, ← addFragments_append, ← List.append_assoc] at all
  rw [writeChoice]
  cases choice.finishReason with
  | none => exact tells_of_draws all
  | some reason => exact (tells_of_draws all).giveReason reason

theorem tells_writeChoices (sketches : writer.Sketches sketch) (choices : List Choice) :
    Tells writer (writeChoices writer choices) sketch (choices.flatMap Choice.fragments)
      (reasonsOf choices) [] := by
  induction choices generalizing writer sketch with
  | nil => exact tells_of_draws sketches.draws_nil
  | cons choice rest ih =>
      have first := tells_writeChoice sketches choice
      exact first.append (ih first.sketches)

/-- Whether a chunk carries some of an answer. -/
def Carries (chunk : Chunk) (reply : Reply) : Prop :=
  ∃ name data, chunk = .event name data ∧ reportedError? data = none ∧
    decodeChunk? data = some reply

theorem readChunk_of_carries {chunk : Chunk} {reply : Reply} (carries : Carries chunk reply)
    (unfinished : writer.finished = false) (sketches : writer.Sketches sketch) (context : Context) :
    ∃ events next, readChunk chunk context writer = (.ok events, next) ∧
      Tells writer (events, next) sketch reply.fragments (reasonsOf reply.choices)
        reply.usage.toList := by
  obtain ⟨name, data, rfl, faultless, decoded⟩ := carries
  have header := draws_startMessage sketches (reply.id.getD "msg_stream")
    (reply.model.getD context.model)
  have choices := tells_writeChoices header.sketches reply.choices
  have told : Tells writer _ sketch [] [] [] := tells_of_draws header
  have all := told.append choices
  simp only [readChunk, unfinished, faultless, decoded, Bool.false_eq_true, if_false]
  refine ⟨_, _, rfl, ?_⟩
  cases reply.usage with
  | none => exact all
  | some usage => exact all.giveUsage usage

theorem changeChunk_of_read {chunk : Chunk} {context : Context} {events : List Event}
    {next : EventWriter} (read : readChunk chunk context writer = (.ok events, next))
    (supply : Supply) :
    Stage.openai.changeChunk chunk context writer supply =
      (.ok (events.map .ofEvent), next, supply) := by
  simp only [Stage.changeChunk, read]
  rfl

/-- A stream without faults is read as its fragments. -/
theorem chunksThroughStage_of_carries {chunks : List Chunk} {replies : List Reply}
    (carried : List.Forall₂ Carries chunks replies) (unfinished : writer.finished = false)
    (sketches : writer.Sketches sketch) (context : Context) (supply : Supply) :
    ∃ events next, Chain.chunksThroughStage .openai context writer supply chunks =
        (.ok (events.map .ofEvent), next, supply) ∧
      Tells writer (events, next) sketch (replies.flatMap Reply.fragments)
        (reasonsOf (replies.flatMap Reply.choices))
        (replies.flatMap fun reply => reply.usage.toList) := by
  induction carried generalizing writer sketch with
  | nil => exact ⟨[], writer, rfl, tells_of_draws sketches.draws_nil⟩
  | @cons chunk reply chunks replies first _ ih =>
      obtain ⟨events, middle, read, tells⟩ :=
        readChunk_of_carries first unfinished sketches context
      have still : middle.finished = false := by
        rw [← unfinished]
        exact congrArg Remarks.finished tells.remarks
      obtain ⟨more, next, passed, tellsMore⟩ := ih still tells.sketches
      refine ⟨events ++ more, next, ?_, ?_⟩
      · simp only [Chain.chunksThroughStage, changeChunk_of_read read, passed, List.map_append]
      · have all := tells.append tellsMore
        rwa [reasonsOf, reasonsOf, ← List.flatMap_append] at all

/-! ## What fragments amount to -/

variable {earlier : List Draft} {tools : List (Nat × Nat)}

theorem addFragments_thoughts (fresh : (⟨earlier, tools⟩ : Sketch).lastKind? ≠ some .thinking)
    (texts : List String) :
    addFragments ⟨earlier, tools⟩ (texts.map .thought) =
      ⟨earlier ++ Sketch.ofText .thinking (String.join texts), tools⟩ := by
  have own : BlockKind.thinking ≠ .toolUse := nofun
  exact List.foldl_map.trans (Sketch.writeAll_eq own (fun _ _ => rfl) fresh texts)

theorem addFragments_texts (fresh : (⟨earlier, tools⟩ : Sketch).lastKind? ≠ some .text)
    (texts : List String) :
    addFragments ⟨earlier, tools⟩ (texts.map .text) =
      ⟨earlier ++ Sketch.ofText .text (String.join texts), tools⟩ := by
  have own : BlockKind.text ≠ .toolUse := nofun
  exact List.foldl_map.trans (Sketch.writeAll_eq own (fun _ _ => rfl) fresh texts)

/-- A call that is delivered in fragments: the first one has its id and its name, and all of them
have its position. -/
structure CutsCall (position : Nat) (call : ToolCall) (deltas : List ToolCall) : Prop where
  index : call.index = none ∨ call.index = some position
  first : ∃ first later, deltas = first :: later ∧ first.id = call.id ∧ first.name = call.name
  arguments : String.join (deltas.map fun delta => delta.arguments.getD "") =
    call.arguments.getD ""

/-- Calls that are delivered one after the other, the first one having this position. -/
inductive CutsCalls : Nat → List ToolCall → List Fragment → Prop where
  | nil (position : Nat) : CutsCalls position [] []
  | cons {position : Nat} {call : ToolCall} {deltas calls : List ToolCall}
      {fragments : List Fragment} (first : CutsCall position call deltas)
      (others : CutsCalls (position + 1) calls fragments) :
      CutsCalls position (call :: calls) (deltas.map (.call position) ++ fragments)

/-- The block of a tool that has been given some arguments. -/
def toolDraft (id name text : String) : Draft := ⟨.toolUse id name (.object []), text⟩

/-- A sketch whose last block is one of a tool. -/
def calling (earlier : List Draft) (tools : List (Nat × Nat)) (key : Nat) (id name text : String) :
    Sketch :=
  ⟨earlier ++ [toolDraft id name text], (key, earlier.length) :: tools⟩

theorem toolIndex?_calling (key : Nat) (id name text : String) :
    (calling earlier tools key id name text).toolIndex? key = some earlier.length := by
  simp [calling, Sketch.toolIndex?]

/-- Arguments of the last tool go into its block. -/
theorem writeArguments_calling (key : Nat) (id name text more : String) :
    (calling earlier tools key id name text).writeArguments key more =
      calling earlier tools key id name (text ++ more) := by
  have last : (calling earlier tools key id name text).drafts.length - 1 = earlier.length := by
    simp [calling]
  rw [Sketch.writeArguments, toolIndex?_calling, last]
  cases empty : more.isEmpty with
  | true =>
      rw [String.isEmpty_iff.mp empty, String.append_empty]
      rfl
  | false =>
      rw [if_pos ⟨rfl, rfl⟩, calling, Sketch.grow_concat]
      rfl

theorem addFragments_calling (position : Nat) (id name text : String) (deltas : List ToolCall) :
    addFragments (calling earlier tools position id name text) (deltas.map (.call position)) =
      calling earlier tools position id name
        (text ++ String.join (deltas.map fun delta => delta.arguments.getD "")) := by
  induction deltas generalizing text with
  | nil => simp [addFragments]
  | cons delta rest ih =>
      have first :
          addFragment (calling earlier tools position id name text) (.call position delta) =
            calling earlier tools position id name (text ++ delta.arguments.getD "") := by
        rw [addFragment, toolIndex?_calling]
        exact writeArguments_calling position id name text _
      rw [List.map_cons, addFragments, List.foldl_cons, first]
      rw [List.map_cons, String.join_cons, ← String.append_assoc]
      exact ih _

/-- A new call makes one block. -/
theorem addFragments_call {position : Nat} {call : ToolCall} {deltas : List ToolCall}
    (cuts : CutsCall position call deltas)
    (unknown : (⟨earlier, tools⟩ : Sketch).toolIndex? position = none) :
    addFragments ⟨earlier, tools⟩ (deltas.map (.call position)) =
      calling earlier tools position (call.id.getD (defaultCallId position)) (call.name.getD "")
        (call.arguments.getD "") := by
  obtain ⟨first, later, rfl, id, name⟩ := cuts.first
  have begun : addFragment ⟨earlier, tools⟩ (.call position first) =
      calling earlier tools position (call.id.getD (defaultCallId position)) (call.name.getD "")
        (first.arguments.getD "") := by
    rw [addFragment, unknown, id, name]
    have started (id name more : String) :
        (calling earlier tools position id name "").writeArguments position more =
          calling earlier tools position id name more := by
      rw [writeArguments_calling, String.empty_append]
    exact started _ _ _
  rw [List.map_cons, addFragments, List.foldl_cons, begun, ← cuts.arguments, List.map_cons,
    String.join_cons]
  exact addFragments_calling position _ _ _ later

/-- Calls make one block each. -/
theorem addFragments_calls {position : Nat} {calls : List ToolCall} {fragments : List Fragment}
    (cuts : CutsCalls position calls fragments)
    (before : ∀ tool ∈ tools, tool.1 < position) :
    ∃ drafts after, addFragments ⟨earlier, tools⟩ fragments = ⟨earlier ++ drafts, after⟩ ∧
      drafts.map (Draft.block readArguments) =
        calls.mapIdx fun offset call => toolBlock call (position + offset) := by
  induction cuts generalizing earlier tools with
  | nil => exact ⟨[], tools, by simp [addFragments], rfl⟩
  | @cons position call deltas calls fragments first _ ih =>
      have unknown : (⟨earlier, tools⟩ : Sketch).toolIndex? position = none := by
        rw [Sketch.toolIndex?, Option.map_eq_none_iff, List.find?_eq_none]
        intro tool member
        have below := before tool member
        simp only [decide_eq_true_eq]
        omega
      have known : ∀ tool ∈ (position, earlier.length) :: tools, tool.1 < position + 1 := by
        intro tool member
        rcases List.mem_cons.mp member with rfl | member
        · exact Nat.lt_succ_self position
        · exact Nat.lt_succ_of_lt (before tool member)
      let draft := toolDraft (call.id.getD (defaultCallId position)) (call.name.getD "")
        (call.arguments.getD "")
      have made : draft.block readArguments = toolBlock call position := by
        have own : call.index.getD position = position := by
          rcases first.index with none | same
          · rw [none, Option.getD_none]
          · rw [same, Option.getD_some]
        rw [toolBlock, own]
        rfl
      obtain ⟨drafts, after, added, blocks⟩ := @ih (earlier ++ [draft]) _ known
      refine ⟨draft :: drafts, after, ?_, ?_⟩
      · rw [addFragments_append, addFragments_call first unknown, List.append_cons]
        exact added
      · rw [List.map_cons, made, blocks, List.mapIdx_cons]
        simp only [Nat.add_zero, Nat.add_assoc, Nat.add_comm 1]

/-- Fragments of what an answer says: thoughts, then text, then one call after the other. -/
structure CutsSaying (saying : Saying) (thoughts texts : List String) (calls : List Fragment) :
    Prop where
  reasoning : String.join thoughts = saying.reasoning.getD ""
  content : String.join texts = saying.content.getD ""
  calls : CutsCalls 0 saying.calls calls

/-- A text makes the same block in fragments as it makes as a whole. -/
theorem blocks_ofText {kind : BlockKind} {make : String → Block}
    (whole : ∀ text, (Draft.mk kind.opening text).block readArguments = make text)
    (text : Option String) :
    (Sketch.ofText kind (text.getD "")).map (Draft.block readArguments) = textBlock? make text := by
  cases text with
  | none => simp [textBlock?]
  | some text =>
      rw [Option.getD_some, Sketch.ofText, textBlock?, Option.filter_some]
      cases text.isEmpty with
      | true => rfl
      | false => exact congrArg (fun block => [block]) (whole text)

theorem addFragments_saying {saying : Saying} {thoughts texts : List String}
    {calls : List Fragment} (cuts : CutsSaying saying thoughts texts calls) :
    (addFragments .new (thoughts.map .thought ++ texts.map .text ++ calls)).drafts.map
      (Draft.block readArguments) = blocks saying := by
  have thought : addFragments .new (thoughts.map .thought) =
      ⟨Sketch.ofText .thinking (saying.reasoning.getD ""), []⟩ := by
    have unbegun : Sketch.new.lastKind? ≠ some .thinking := (Option.some_ne_none _).symm
    have begun := addFragments_thoughts unbegun thoughts
    rwa [List.nil_append, cuts.reasoning] at begun
  have fresh : (⟨Sketch.ofText .thinking (saying.reasoning.getD ""), []⟩ : Sketch).lastKind? ≠
      some .text := by
    rw [Sketch.lastKind?, Sketch.ofText]
    split <;> simp [Draft.kind, BlockKind.opening]
  have told := addFragments_texts fresh texts
  obtain ⟨drafts, after, called, made⟩ := addFragments_calls cuts.calls (List.forall_mem_nil _)
  rw [addFragments_append, addFragments_append, thought, told, called, cuts.content]
  have thinking (text : String) : (Draft.mk BlockKind.thinking.opening text).block readArguments =
      .thinking text none := by
    change Block.thinking ("" ++ text) none = _
    rw [String.empty_append]
  have saying_text (text : String) : (Draft.mk BlockKind.text.opening text).block readArguments =
      .ofText text := by
    change Block.text ("" ++ text) none = _
    rw [String.empty_append]
    rfl
  rw [List.map_append, List.map_append, made, blocks_ofText thinking, blocks_ofText saying_text]
  simp only [Nat.zero_add, blocks]

/-! ## The stream and the whole -/

/-- Whether a body is an answer with one choice. -/
def Describes (body : Json) (whole : Reply) (choice : Choice) : Prop :=
  decodeResponse? body = some whole ∧ whole.choices = [choice]

theorem toResponse_of_describes {body : Json} {whole : Reply} {choice : Choice}
    (describes : Describes body whole choice) :
    ∃ response, toResponse whole = .ok response ∧
      readResponse body = .ok response.encode.normalize ∧
      response.content = blocks choice.saying ∧
      response.stopReason = some (stopReason (choice.finishReason.getD "stop")) ∧
      response.usage = whole.usage.getD .zero := by
  obtain ⟨decoded, single⟩ := describes
  obtain ⟨response, made, same⟩ : ∃ response, toResponse whole = .ok response ∧
      response.content = blocks choice.saying ∧
      response.stopReason = some (stopReason (choice.finishReason.getD "stop")) ∧
      response.usage = whole.usage.getD .zero := by
    rw [toResponse, single]
    exact ⟨_, rfl, rfl, rfl, rfl⟩
  refine ⟨response, made, ?_, same⟩
  rw [readResponse, decoded]
  exact congrArg (Except.map fun response => response.encode.normalize) made

/-- Chunks that cut the texts of a choice into fragments.  Where in the stream the reason and the
token counts are given does not matter; if they are given again, the last ones are those of the
answer. -/
structure IsCut (choice : Choice) (usage : Option Usage) (replies : List Reply) : Prop where
  saying : ∃ thoughts texts calls, CutsSaying choice.saying thoughts texts calls ∧
    replies.flatMap Reply.fragments = thoughts.map .thought ++ texts.map .text ++ calls
  reason : ∃ reason, choice.finishReason = some reason ∧
    (reasonsOf (replies.flatMap Reply.choices)).getLast? = some reason
  usage : (replies.flatMap fun reply => reply.usage.toList).getLast? = usage

/-- A stream that is put together again has the blocks, the reason and the token counts of the whole
answer, however the answer is cut into fragments and these are spread over chunks. -/
theorem assembly_eq_response {body : Json} {whole : Reply} {choice : Choice}
    (describes : Describes body whole choice) {chunks : List Chunk} {replies : List Reply}
    (carried : List.Forall₂ Carries chunks replies) (cut : IsCut choice whole.usage replies)
    (context : Context) (supply : Supply) :
    ∃ response events writer, toResponse whole = .ok response ∧
      readResponse body = .ok response.encode.normalize ∧
      Chain.chunksThroughStage .openai context .new supply (chunks ++ [.done]) =
        (.ok (events.map .ofEvent), writer, supply) ∧
      let assembly := Assembly.new.readAll events
      assembly.blocks readArguments = response.content ∧
        assembly.stopReason = response.stopReason ∧ assembly.usage = response.usage := by
  obtain ⟨response, made, read, content, stopped, usage⟩ := toResponse_of_describes describes
  obtain ⟨thoughts, texts, calls, cuts, fragments⟩ := cut.saying
  obtain ⟨reason, given, last⟩ := cut.reason
  obtain ⟨events, next, passed, tells⟩ :=
    chunksThroughStage_of_carries carried rfl sketches_new context supply
  have noted := tells.remarks
  simp only [EventWriter.remarks, Remarks.mk.injEq] at noted
  obtain ⟨unfinished, reasoned, counted⟩ := noted
  have ending : Chain.chunksThroughStage .openai context next supply [.done] =
      (.ok (next.finish.1.map .ofEvent), next.finish.2, supply) := by
    have final : readChunk .done context next = (.ok next.finish.1, next.finish.2) := rfl
    simp only [Chain.chunksThroughStage, changeChunk_of_read final, List.append_nil]
  refine ⟨response, events ++ next.finish.1, next.finish.2, made, read, ?_, ?_⟩
  · rw [List.map_append]
    exact Chain.chunksThroughStage_append passed ending
  · have drafts := tells.read .new rfl
    rw [fragments] at drafts
    simp only [Assembly.readAll_append, readAll_finish unfinished, Assembly.blocks]
    refine ⟨?_, ?_, ?_⟩
    · rw [drafts, content]
      exact addFragments_saying cuts
    · rw [stopped, given, reasoned, last]
      rfl
    · rw [usage, counted, cut.usage]
      rfl

/-- The body of an answer, or of a chunk of one, with one choice. -/
def bodyOfChoice (key : String) (saying : List (String × Json)) (reason : Option String)
    (usage : Option Json) : Json :=
  .object
    (("choices", .array [.object ((key, .object saying) ::
      optionalField "finish_reason" .string reason)]) :: optionalField "usage" id usage)

/-- The call of a tool. -/
def bodyOfCall (call : ToolCall) : Json :=
  .object (optionalField "index" .ofNat call.index ++ optionalField "id" .string call.id ++
    [("function", .object (optionalField "name" .string call.name ++
      optionalField "arguments" .string call.arguments))])

/-- Thoughts, text and two calls, the second of them without an id and with blank arguments. -/
theorem assembly_eq_response_two_calls :
    let usage : Json := .object [("prompt_tokens", .ofNat 3), ("completion_tokens", .ofNat 5)]
    let calls (calls : List ToolCall) : String × Json :=
      ("tool_calls", .array (calls.map bodyOfCall))
    let body := bodyOfChoice "message"
      [("reasoning_content", .string "hm"), ("content", .string "Hi there"),
        calls [⟨none, some "a", some "search", some "[1, 2]"⟩,
          ⟨none, none, some "stop", some " "⟩]] (some "tool_calls") (some usage)
    let chunk (saying : List (String × Json)) (reason : Option String) (usage : Option Json) :
      Chunk := .event none (bodyOfChoice "delta" saying reason usage)
    let chunks : List Chunk :=
      [chunk [("reasoning_content", .string "h"), ("content", .string "")] none none,
        chunk [("reasoning_content", .string "m"), ("content", .string "Hi ")] none none,
        chunk [("content", .string "there"),
          calls [⟨some 0, some "a", some "search", some "[1"⟩]] none none,
        chunk [calls [⟨some 0, none, none, some ", 2]"⟩,
          ⟨some 1, none, some "stop", some " "⟩]] (some "tool_calls") none,
        .event none (.object [("choices", .array []), ("usage", usage)])]
    let context : Context := ⟨⟨1⟩, "main", "small", true, []⟩
    ∃ (response : Response) (events : List Event) (writer : EventWriter),
      readResponse body = .ok response.encode.normalize ∧
      Chain.chunksThroughStage .openai context .new ⟨0⟩ (chunks ++ [.done]) =
        (.ok (events.map .ofEvent), writer, ⟨0⟩) ∧
      (Assembly.new.readAll events).blocks readArguments = response.content ∧
      response.content.length = 4 := by
  intro usage calls body chunk chunks context
  let saying : Saying := ⟨some "Hi there", some "hm",
    [⟨none, some "a", some "search", some "[1, 2]"⟩, ⟨none, none, some "stop", some " "⟩]⟩
  let choice : Choice := ⟨saying, some "tool_calls"⟩
  let whole : Reply := ⟨none, none, [choice], some ⟨3, 5, none⟩⟩
  let piece (content reasoning : Option String) (calls : List ToolCall) (reason : Option String) :
    Reply := ⟨none, none, [⟨⟨content, reasoning, calls⟩, reason⟩], none⟩
  let replies : List Reply :=
    [piece (some "") (some "h") [] none, piece (some "Hi ") (some "m") [] none,
      piece (some "there") none [⟨some 0, some "a", some "search", some "[1"⟩] none,
      piece none none [⟨some 0, none, none, some ", 2]"⟩, ⟨some 1, none, some "stop", some " "⟩]
        (some "tool_calls"),
      ⟨none, none, [], some ⟨3, 5, none⟩⟩]
  have describes : Describes body whole choice := ⟨rfl, rfl⟩
  have carried : List.Forall₂ Carries chunks replies :=
    .cons ⟨_, _, rfl, rfl, rfl⟩ (.cons ⟨_, _, rfl, rfl, rfl⟩ (.cons ⟨_, _, rfl, rfl, rfl⟩
      (.cons ⟨_, _, rfl, rfl, rfl⟩ (.cons ⟨_, _, rfl, rfl, rfl⟩ .nil))))
  have search : CutsCall 0 ⟨none, some "a", some "search", some "[1, 2]"⟩
      [⟨some 0, some "a", some "search", some "[1"⟩, ⟨some 0, none, none, some ", 2]"⟩] :=
    ⟨.inl rfl, ⟨_, _, rfl, rfl, rfl⟩, rfl⟩
  have stop : CutsCall 1 ⟨none, none, some "stop", some " "⟩
      [⟨some 1, none, some "stop", some " "⟩] :=
    ⟨.inl rfl, ⟨_, _, rfl, rfl, rfl⟩, rfl⟩
  have cuts : CutsSaying saying ["h", "m"] ["Hi ", "there"] _ :=
    ⟨rfl, rfl, .cons search (.cons stop (.nil 2))⟩
  have cut : IsCut choice whole.usage replies :=
    ⟨⟨_, _, _, cuts, rfl⟩, ⟨_, rfl, rfl⟩, rfl⟩
  obtain ⟨response, events, writer, made, read, passed, blocks, -⟩ :=
    assembly_eq_response describes carried cut context ⟨0⟩
  refine ⟨response, events, writer, read, passed, blocks, ?_⟩
  cases made
  rfl

end ChatGateway.Wire.ChatCompletions
