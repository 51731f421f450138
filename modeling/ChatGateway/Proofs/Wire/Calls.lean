import ChatGateway.Proofs.Wire.Fragments

/-!
# Calls without positions

A chunk of the chat completions protocol may leave out the position of a call, which then is its
position in the chunk.  So complete calls that come in chunks of their own all have the first
position: only the first of them opens a block, and the arguments of the others are added to it.
-/

namespace ChatGateway.Wire.ChatCompletions

/-- A chunk delivers one call, and says nothing else. -/
def Delivers (chunk : Chunk) (call : ToolCall) : Prop :=
  ∃ reply reason, Carries chunk reply ∧ reply.choices = [⟨⟨none, none, [call]⟩, reason⟩]

/-- The blocks of calls in a buffered answer. -/
def callBlocks (calls : List ToolCall) : List Block :=
  calls.mapIdx fun position call => toolBlock call position

/-- What calls amount to that come in chunks of their own: one call with all of their arguments. -/
def mergedCalls : List ToolCall → List ToolCall
  | [] => []
  | first :: rest =>
      [⟨none, first.id, first.name,
        some (String.join ((first :: rest).map fun call => call.arguments.getD ""))⟩]

/-- Calls without positions are merged into one, unless there is only one. -/
theorem mergedCalls_eq_iff {calls : List ToolCall}
    (positionless : ∀ call ∈ calls, call.index = none) :
    callBlocks (mergedCalls calls) = callBlocks calls ↔ calls.length ≤ 1 := by
  match calls with
  | [] => simp [mergedCalls]
  | [call] =>
      have none := positionless call List.mem_cons_self
      simp [callBlocks, mergedCalls, toolBlock, none]
  | first :: second :: rest =>
      constructor
      · intro same
        simpa [callBlocks, mergedCalls] using congrArg List.length same
      · intro few
        simp at few

/-- The fragments of chunks that deliver calls without positions. -/
theorem exists_replies_of_delivers {chunks : List Chunk} {calls : List ToolCall}
    (delivered : List.Forall₂ Delivers chunks calls)
    (positionless : ∀ call ∈ calls, call.index = none) :
    ∃ replies, List.Forall₂ Carries chunks replies ∧
      replies.flatMap Reply.fragments = calls.map (.call 0) := by
  induction delivered with
  | nil => exact ⟨[], .nil, rfl⟩
  | @cons chunk call chunks calls first _ ih =>
      obtain ⟨reply, reason, carries, single⟩ := first
      obtain ⟨replies, carried, fragments⟩ :=
        ih fun other member => positionless other (.tail _ member)
      have own : reply.fragments = [.call 0 call] := by
        rw [Reply.fragments, single]
        simp [Choice.fragments, textFragment, callFragments,
          positionless call List.mem_cons_self]
      refine ⟨reply :: replies, .cons carries carried, ?_⟩
      rw [List.flatMap_cons, own, fragments, List.map_cons, List.singleton_append]

/-- Fragments with one key make one block. -/
theorem blocks_mergedCalls (calls : List ToolCall) :
    (addFragments .new (calls.map (.call 0))).drafts.map (Draft.block readArguments) =
      callBlocks (mergedCalls calls) := by
  cases calls with
  | nil => rfl
  | cons first rest =>
      let all := String.join ((first :: rest).map fun call => call.arguments.getD "")
      have cuts : CutsCall 0 ⟨none, first.id, first.name, some all⟩ (first :: rest) :=
        ⟨.inl rfl, ⟨first, rest, rfl, rfl, rfl⟩, rfl⟩
      have made : addFragments .new ((first :: rest).map (.call 0)) = _ :=
        addFragments_call cuts rfl
      rw [made]
      rfl

/-- Chunks that deliver calls without positions are read as one call. -/
theorem stream_of_delivers {chunks : List Chunk} {calls : List ToolCall}
    (delivered : List.Forall₂ Delivers chunks calls)
    (positionless : ∀ call ∈ calls, call.index = none) (context : Context) (supply : Supply) :
    ∃ events writer, Chain.chunksThroughStage .openai context .new supply (chunks ++ [.done]) =
        (.ok (events.map .ofEvent), writer, supply) ∧
      (Assembly.new.readAll events).blocks readArguments = callBlocks (mergedCalls calls) := by
  obtain ⟨replies, carried, fragments⟩ := exists_replies_of_delivers delivered positionless
  obtain ⟨events, next, passed, tells⟩ :=
    chunksThroughStage_of_carries carried rfl EventWriter.sketches_new context supply
  have unfinished : next.finished = false :=
    congrArg EventWriter.Remarks.finished tells.remarks
  have final : readChunk .done context next = (.ok next.finish.1, next.finish.2) := rfl
  have ending : Chain.chunksThroughStage .openai context next supply [.done] =
      (.ok (next.finish.1.map .ofEvent), next.finish.2, supply) := by
    simp only [Chain.chunksThroughStage, changeChunk_of_read final, List.append_nil]
  refine ⟨events ++ next.finish.1, next.finish.2, ?_, ?_⟩
  · rw [List.map_append]
    exact Chain.chunksThroughStage_append passed ending
  · have drafts := tells.read .new rfl
    rw [fragments] at drafts
    rw [Assembly.readAll_append, EventWriter.readAll_finish unfinished, Assembly.blocks]
    simp only [drafts, blocks_mergedCalls]

/-- Calls without positions, each of which comes in a chunk of its own, make the blocks that they
make in a buffered answer if and only if there is at most one of them.  If there are more, the block
of the first one gets the arguments of all, and the others have no block. -/
theorem streamedCalls_eq_iff {calls : List ToolCall}
    (positionless : ∀ call ∈ calls, call.index = none) {chunks : List Chunk}
    (delivered : List.Forall₂ Delivers chunks calls) {body : Json} {whole : Reply} {choice : Choice}
    (describes : Describes body whole choice) (holds : choice.saying = ⟨none, none, calls⟩)
    (context : Context) (supply : Supply) :
    ∃ (response : Response) (events : List Event) (writer : EventWriter),
      readResponse body = .ok response.encode.normalize ∧ response.content = callBlocks calls ∧
      Chain.chunksThroughStage .openai context .new supply (chunks ++ [.done]) =
        (.ok (events.map .ofEvent), writer, supply) ∧
      let streamed := (Assembly.new.readAll events).blocks readArguments
      streamed = callBlocks (mergedCalls calls) ∧
        (streamed = response.content ↔ calls.length ≤ 1) := by
  obtain ⟨response, -, read, content, -⟩ := toResponse_of_describes describes
  rw [holds, show blocks ⟨none, none, calls⟩ = callBlocks calls from rfl] at content
  obtain ⟨events, writer, passed, streamed⟩ :=
    stream_of_delivers delivered positionless context supply
  refine ⟨response, events, writer, read, content, passed, streamed, ?_⟩
  rw [streamed, content]
  exact mergedCalls_eq_iff positionless

/-- A chunk that delivers a call, and maybe a reason. -/
def chunkOfCall (call : ToolCall) (reason : Option String) : Chunk :=
  .event none (bodyOfChoice "delta" [("tool_calls", .array [bodyOfCall call])] reason none)

/-- One call has the same block in both forms. -/
theorem streamedCalls_eq_iff_one :
    let call : ToolCall := ⟨none, some "a", some "search", some "[1]"⟩
    let context : Context := ⟨⟨1⟩, "main", "small", true, []⟩
    ∃ (response : Response) (events : List Event) (writer : EventWriter),
      readResponse (bodyOfChoice "message" [("tool_calls", .array [bodyOfCall call])]
        (some "tool_calls") none) = .ok response.encode.normalize ∧
      Chain.chunksThroughStage .openai context .new ⟨0⟩
          ([chunkOfCall call (some "tool_calls")] ++ [.done]) =
        (.ok (events.map .ofEvent), writer, ⟨0⟩) ∧
      (Assembly.new.readAll events).blocks readArguments = response.content := by
  intro call context
  let choice : Choice := ⟨⟨none, none, [call]⟩, some "tool_calls"⟩
  let whole : Reply := ⟨none, none, [choice], none⟩
  have delivered : List.Forall₂ Delivers [chunkOfCall call (some "tool_calls")] [call] :=
    .cons ⟨whole, some "tool_calls", ⟨_, _, rfl, rfl, rfl⟩, rfl⟩ .nil
  have describes : Describes (bodyOfChoice "message" [("tool_calls", .array [bodyOfCall call])]
    (some "tool_calls") none) whole choice := ⟨rfl, rfl⟩
  obtain ⟨response, events, writer, read, -, passed, -, same⟩ :=
    streamedCalls_eq_iff (by simp [call]) delivered describes rfl context ⟨0⟩
  exact ⟨response, events, writer, read, passed, same.mpr le_rfl⟩

/-- Of two calls with ids of their own, the second one has no block, and its arguments are given to
the first one. -/
theorem streamedCalls_merge_two :
    let calls : List ToolCall :=
      [⟨none, some "a", some "f", some "[1]"⟩, ⟨none, some "b", some "g", some "[2]"⟩]
    let context : Context := ⟨⟨1⟩, "main", "small", true, []⟩
    ∃ (response : Response) (events : List Event) (writer : EventWriter),
      readResponse (bodyOfChoice "message" [("tool_calls", .array (calls.map bodyOfCall))]
        (some "tool_calls") none) = .ok response.encode.normalize ∧
      response.content = [.toolUse "a" "f" (.array [.ofNat 1]),
        .toolUse "b" "g" (.array [.ofNat 2])] ∧
      Chain.chunksThroughStage .openai context .new ⟨0⟩
          (calls.map (chunkOfCall · none) ++ [.done]) =
        (.ok (events.map .ofEvent), writer, ⟨0⟩) ∧
      (Assembly.new.readAll events).blocks readArguments =
        [.toolUse "a" "f" (.string "[1][2]")] := by
  intro calls context
  let choice : Choice := ⟨⟨none, none, calls⟩, some "tool_calls"⟩
  let whole : Reply := ⟨none, none, [choice], none⟩
  have describes : Describes (bodyOfChoice "message" [("tool_calls", .array (calls.map bodyOfCall))]
    (some "tool_calls") none) whole choice := ⟨rfl, rfl⟩
  have delivers (call : ToolCall) (member : call ∈ calls) :
      Delivers (chunkOfCall call none) call := by
    refine ⟨⟨none, none, [⟨⟨none, none, [call]⟩, none⟩], none⟩, none, ⟨_, _, rfl, ?_⟩, rfl⟩
    simp only [calls, List.mem_cons, List.not_mem_nil, or_false] at member
    rcases member with rfl | rfl <;> exact ⟨rfl, rfl⟩
  have delivered : List.Forall₂ Delivers (calls.map (chunkOfCall · none)) calls :=
    .cons (delivers _ List.mem_cons_self) (.cons (delivers _ (.tail _ List.mem_cons_self)) .nil)
  obtain ⟨response, -, read, content, -⟩ := toResponse_of_describes describes
  obtain ⟨events, writer, passed, streamed⟩ :=
    stream_of_delivers delivered (by simp [calls]) context ⟨0⟩
  exact ⟨response, events, writer, read, content, passed, streamed⟩

end ChatGateway.Wire.ChatCompletions
