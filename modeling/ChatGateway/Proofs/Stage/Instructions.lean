import ChatGateway.Proofs.Stage.Assembly

/-!
# Writers under any instructions

A writer may be told anything in any order: a tool may begin twice under one key, arguments may come
late, and the header may come in the middle of a block or never.  The blocks in what it writes are in
order all the same, and hold the texts that it was given.
-/

namespace ChatGateway

namespace Event

/-- Whether an event is the header of a message. -/
def isHeader : Event → Bool
  | .messageStart _ => true
  | _ => false

/-- What an event adds to a block of a kind. -/
def addition? : BlockKind → Event → Option String
  | .text, .blockDelta _ (.text text) => some text
  | .thinking, .blockDelta _ (.thinking thinking) => some thinking
  | .toolUse, .blockDelta _ (.inputJson arguments) => some arguments
  | _, _ => none

/-- Whether an event begins or ends a block. -/
def isBorder : Event → Bool
  | .blockStart _ _ => true
  | .blockStop _ => true
  | _ => false

/-- The events of blocks. -/
def withoutHeaders (events : List Event) : List Event := events.filter fun event => !event.isHeader

/-- Events of blocks are neither headers nor failures. -/
theorem isHeader_isError_of_index? {event : Event} (named : event.index?.isSome = true) :
    event.isHeader = false ∧ event.isError = false := by
  cases event with
  | blockStart | blockDelta | blockStop => exact ⟨rfl, rfl⟩
  | messageStart | messageDelta | messageStop | ping | error => cases named

end Event

namespace Outline

/-- Whether the header of a message can no longer come. -/
def hasHeader : Outline → Bool
  | .between started _ => started
  | _ => true

theorem Step.hasHeader {before after : Outline} {event : Event} (step : Step before event after)
    (past : before.hasHeader = true) : event.isHeader = false ∧ after.hasHeader = true := by
  cases step <;> first | exact ⟨rfl, rfl⟩ | exact ⟨rfl, past⟩ | cases past

theorem Follows.withoutHeaders_eq {before after : Outline} {events : List Event}
    (follows : Follows before events after) (past : before.hasHeader = true) :
    Event.withoutHeaders events = events := by
  induction follows with
  | nil => rfl
  | cons step _ ih =>
      obtain ⟨other, still⟩ := step.hasHeader past
      rw [Event.withoutHeaders, List.filter_cons_of_pos (by simp [other])]
      exact congrArg _ (ih still)

end Outline

namespace EventWriter

/-- What a writer may be told before the end of its message. -/
inductive Instruction where
  | startMessage (id model : String)
  | writeText (text : String)
  | writeThinking (thinking : String)
  | startTool (key : Nat) (id name : String)
  | writeArguments (key : Nat) (arguments : String)
  | setStopReason (reason : StopReason)
  | setUsage (usage : Usage)

namespace Instruction

/-- The text that is to be added to a block of a kind. -/
def addition? : BlockKind → Instruction → Option String
  | .text, .writeText text => some text
  | .thinking, .writeThinking thinking => some thinking
  | .toolUse, .writeArguments _ arguments => some arguments
  | _, _ => none

/-- Whether a tool begins. -/
def starts (key : Nat) : Instruction → Bool
  | .startTool other _ _ => other == key
  | _ => false

end Instruction

/-- Does what a writer is told. -/
def perform (writer : EventWriter) : Instruction → List Event × EventWriter
  | .startMessage id model => writer.startMessage id model
  | .writeText text => writer.writeText text
  | .writeThinking thinking => writer.writeThinking thinking
  | .startTool key id name => writer.startTool key id name
  | .writeArguments key arguments => writer.writeArguments key arguments
  | .setStopReason reason => ([], writer.setStopReason reason)
  | .setUsage usage => ([], writer.setUsage usage)

/-- Does all that a writer is told, in its order. -/
def performAll (writer : EventWriter) : List Instruction → List Event × EventWriter
  | [] => ([], writer)
  | instruction :: rest =>
      let (events, next) := writer.perform instruction
      let (more, last) := next.performAll rest
      (events ++ more, last)

/-- What a new writer writes under instructions. -/
def written (instructions : List Instruction) : List Event := (new.performAll instructions).1

/-- The message that a new writer writes under instructions. -/
def message (instructions : List Instruction) : List Event :=
  written instructions ++ (new.performAll instructions).2.finish.1

theorem performAll_append (writer : EventWriter) (earlier later : List Instruction) :
    writer.performAll (earlier ++ later) =
      ((writer.performAll earlier).1 ++ ((writer.performAll earlier).2.performAll later).1,
        ((writer.performAll earlier).2.performAll later).2) := by
  induction earlier generalizing writer with
  | nil => rfl
  | cons instruction rest ih =>
      simp only [List.cons_append, performAll, ih, List.append_assoc]

theorem performAll_concat (writer : EventWriter) (earlier : List Instruction)
    (last : Instruction) :
    writer.performAll (earlier ++ [last]) =
      ((writer.performAll earlier).1 ++ ((writer.performAll earlier).2.perform last).1,
        ((writer.performAll earlier).2.perform last).2) := by
  simp only [performAll_append, performAll, List.append_nil]

/-! ## Borders of blocks -/

/-- What a writer does when a block ends or begins. -/
structure Moves (writer : EventWriter) (events : List Event) (after : EventWriter) : Prop where
  borders : ∀ event ∈ events, event.isBorder = true
  same : ∃ opened next, after = { writer with openBlock := opened, nextIndex := next }

variable {writer : EventWriter}

theorem moves_closeBlock (writer : EventWriter) :
    Moves writer writer.closeBlock.1 writer.closeBlock.2 := by
  rw [closeBlock]
  cases writer.openBlock with
  | none => exact ⟨List.forall_mem_nil _, _, _, rfl⟩
  | some block => exact ⟨by simp [Event.isBorder], _, _, rfl⟩

theorem moves_beginBlock (writer : EventWriter) (kind : BlockKind) (block : Block) :
    Moves writer (writer.beginBlock kind block).1 (writer.beginBlock kind block).2 := by
  obtain ⟨borders, opened, next, same⟩ := moves_closeBlock writer
  refine ⟨?_, some ⟨writer.closeBlock.2.nextIndex, kind⟩, writer.closeBlock.2.nextIndex + 1, ?_⟩
  · intro event member
    rcases List.mem_append.mp member with member | member
    · exact borders event member
    · rw [List.mem_singleton.mp member]
      rfl
  · simp only [beginBlock, same]

theorem moves_ensureBlock (writer : EventWriter) (kind : BlockKind) :
    Moves writer (writer.ensureBlock kind).2.1 (writer.ensureBlock kind).2.2 := by
  rw [ensureBlock_eq]
  cases writer.openBlock.filter fun block => block.kind = kind with
  | some block => exact ⟨List.forall_mem_nil _, _, _, rfl⟩
  | none => exact moves_beginBlock writer kind _

theorem Moves.addition?_eq_none {events : List Event} {after : EventWriter}
    (moves : Moves writer events after) (kind : BlockKind) :
    events.filterMap (Event.addition? kind) = [] := by
  apply List.filterMap_eq_nil_iff.mpr
  intro event member
  have border := moves.borders event member
  cases event <;> cases kind <;> first | rfl | cases border

/-- The end of a message that goes on. -/
theorem finish_eq (unfinished : writer.finished = false) :
    ∃ reason, writer.finish.1 = writer.closeBlock.1 ++
      [.messageDelta ⟨some reason, none⟩ (some writer.usage), .messageStop] := by
  rw [finish, unfinished, if_neg Bool.false_ne_true]
  cases opened : writer.openBlock <;> simp [closeBlock, opened]

/-- Writes a text into a block of a kind. -/
def writeIn (writer : EventWriter) (kind : BlockKind) (delta : String → Delta) (text : String) :
    List Event × EventWriter :=
  if text.isEmpty then ([], writer)
  else
    ((writer.ensureBlock kind).2.1 ++
        [.blockDelta (writer.ensureBlock kind).1 (delta text)],
      (writer.ensureBlock kind).2.2)

theorem writeText_eq (writer : EventWriter) (text : String) :
    writer.writeText text = writer.writeIn .text .text text := rfl

theorem writeThinking_eq (writer : EventWriter) (thinking : String) :
    writer.writeThinking thinking = writer.writeIn .thinking .thinking thinking := rfl

/-- Arguments are written into one block, or they are dropped. -/
theorem writeArguments_cases (writer : EventWriter) (key : Nat) (arguments : String) :
    writer.writeArguments key arguments = ([], writer) ∨
      ∃ index, writer.writeArguments key arguments =
        ([.blockDelta index (.inputJson arguments)], writer) := by
  rw [writeArguments]
  split
  · exact .inl rfl
  · split
    · exact .inl rfl
    · rename_i index _
      split
      · exact .inr ⟨index, rfl⟩
      · exact .inl rfl

/-! ## Texts -/

/-- A delta behind the border of its block. -/
theorem additions_delta (writer : EventWriter) (kind other : BlockKind) (index : Nat)
    (delta : Delta) :
    ((writer.ensureBlock other).2.1 ++ [Event.blockDelta index delta]).filterMap
        (Event.addition? kind) =
      (Event.addition? kind (.blockDelta index delta)).toList := by
  rw [List.filterMap_append, (moves_ensureBlock writer other).addition?_eq_none, List.nil_append,
    List.filterMap_cons]
  cases Event.addition? kind (.blockDelta index delta) <;> rfl

/-- A text is added to a block of its kind, if it is not empty. -/
theorem additions_writeIn (writer : EventWriter) {kind other : BlockKind} {delta : String → Delta}
    (own : ∀ index text, Event.addition? kind (.blockDelta index (delta text)) =
      if other = kind then some text else none)
    (text : String) :
    (writer.writeIn other delta text).1.filterMap (Event.addition? kind) =
      (if other = kind then some text else none).toList.filter (· ≠ "") := by
  rw [writeIn]
  split
  · rename_i empty
    rw [String.isEmpty_iff.mp empty]
    split <;> rfl
  · rename_i filled
    have not_empty : text ≠ "" := mt String.isEmpty_iff.mpr filled
    rw [additions_delta, own]
    split <;> simp [not_empty]

/-- Texts that are not empty are added to blocks of their kind, and nothing else is. -/
theorem additions_perform (writer : EventWriter) (instruction : Instruction) {kind : BlockKind}
    (noArguments : kind = .toolUse →
      ∀ key fragment, instruction = .writeArguments key fragment → fragment = "") :
    (writer.perform instruction).1.filterMap (Event.addition? kind) =
      (instruction.addition? kind).toList.filter (· ≠ "") := by
  cases instruction with
  | startMessage id model =>
      rw [perform, startMessage]
      cases kind <;> cases writer.started <;> rfl
  | writeText text =>
      rw [perform, writeText_eq, additions_writeIn writer (by cases kind <;> intros <;> rfl)]
      cases kind <;> rfl
  | writeThinking thinking =>
      rw [perform, writeThinking_eq, additions_writeIn writer (by cases kind <;> intros <;> rfl)]
      cases kind <;> rfl
  | startTool key id name =>
      refine ((moves_beginBlock writer .toolUse _).addition?_eq_none kind).trans ?_
      cases kind <;> rfl
  | writeArguments key arguments =>
      cases kind with
      | toolUse =>
          rw [noArguments rfl key arguments rfl]
          rfl
      | text | thinking =>
          obtain dropped | ⟨index, placed⟩ := writer.writeArguments_cases key arguments
          · rw [perform, dropped]
            rfl
          · rw [perform, placed]
            rfl
  | setStopReason | setUsage => cases kind <;> rfl

theorem additions_performAll (writer : EventWriter) (instructions : List Instruction)
    {kind : BlockKind} (ofText : kind ≠ .toolUse) :
    (writer.performAll instructions).1.filterMap (Event.addition? kind) =
      (instructions.filterMap (Instruction.addition? kind)).filter (· ≠ "") := by
  induction instructions generalizing writer with
  | nil => rfl
  | cons instruction rest ih =>
      rw [performAll, List.filterMap_append, additions_perform writer instruction (absurd · ofText), ih,
        ← List.filter_append, List.filterMap_cons]
      cases instruction.addition? kind <;> rfl

/-- The end of a message adds nothing to its blocks. -/
theorem additions_finish (writer : EventWriter) (kind : BlockKind) :
    writer.finish.1.filterMap (Event.addition? kind) = [] := by
  cases finished : writer.finished with
  | true => rw [finish, if_pos finished, List.filterMap_nil]
  | false =>
      obtain ⟨reason, equal⟩ := finish_eq finished
      rw [equal, List.filterMap_append, (moves_closeBlock writer).addition?_eq_none]
      cases kind <;> rfl

/-! ## The order of blocks -/

/-- The writer as one that has written its header and noted no counts.  Blocks depend on neither. -/
def bare (writer : EventWriter) : EventWriter := { writer with started := true, usage := .zero }

theorem closeBlock_bare (writer : EventWriter) :
    writer.bare.closeBlock = (writer.closeBlock.1, writer.closeBlock.2.bare) := by
  obtain ⟨started, finished, openBlock, nextIndex, tools, stopReason, usage, unkeyed⟩ := writer
  cases openBlock <;> rfl

theorem beginBlock_bare (writer : EventWriter) (kind : BlockKind) (block : Block) :
    writer.bare.beginBlock kind block =
      ((writer.beginBlock kind block).1, (writer.beginBlock kind block).2.bare) := by
  simp only [beginBlock, closeBlock_bare]
  rfl

theorem ensureBlock_bare (writer : EventWriter) (kind : BlockKind) :
    writer.bare.ensureBlock kind =
      ((writer.ensureBlock kind).1, (writer.ensureBlock kind).2.1,
        (writer.ensureBlock kind).2.2.bare) := by
  have same : writer.bare.openBlock = writer.openBlock := rfl
  rw [ensureBlock_eq, ensureBlock_eq, beginBlock_bare, same]
  cases writer.openBlock.filter fun block => block.kind = kind <;> rfl

theorem writeIn_bare (writer : EventWriter) (kind : BlockKind) (delta : String → Delta)
    (text : String) :
    writer.bare.writeIn kind delta text =
      ((writer.writeIn kind delta text).1, (writer.writeIn kind delta text).2.bare) := by
  simp only [writeIn, ensureBlock_bare]
  cases text.isEmpty <;> rfl

theorem startTool_bare (writer : EventWriter) (key : Nat) (id name : String) :
    writer.bare.startTool key id name =
      ((writer.startTool key id name).1, (writer.startTool key id name).2.bare) := by
  simp only [startTool, beginBlock_bare, closeBlock_bare]
  rfl

theorem writeArguments_bare (writer : EventWriter) (key : Nat) (arguments : String) :
    writer.bare.writeArguments key arguments =
      ((writer.writeArguments key arguments).1, (writer.writeArguments key arguments).2.bare) := by
  have same : writer.bare.toolIndex? key = writer.toolIndex? key := rfl
  rw [writeArguments, writeArguments, same]
  cases arguments.isEmpty with
  | true => rfl
  | false =>
      cases writer.toolIndex? key with
      | none => rfl
      | some index =>
          change (if writer.openBlock.map OpenBlock.index = some index then _ else _) = _
          dsimp only
          split <;> rfl

theorem Grows.withoutHeaders_eq {events : List Event} {after : EventWriter}
    (grows : Grows writer.bare events after) : Event.withoutHeaders events = events := by
  apply grows.follows.withoutHeaders_eq
  rw [outline]
  cases writer.bare.finished with
  | true => rfl
  | false => cases writer.bare.openBlock <;> rfl

/-- Blocks come in order, whatever happens to the header. -/
theorem grows_perform (ready : writer.bare.Ready) (instruction : Instruction) :
    Grows writer.bare (Event.withoutHeaders (writer.perform instruction).1)
      (writer.perform instruction).2.bare := by
  cases instruction with
  | startMessage id model =>
      rw [perform, startMessage]
      cases writer.started <;> exact ready.grows_nil
  | writeText text =>
      have grows := grows_writeText ready text
      rw [writeText_eq, writeIn_bare] at grows
      rwa [perform, writeText_eq, grows.withoutHeaders_eq]
  | writeThinking thinking =>
      have grows := grows_writeThinking ready thinking
      rw [writeThinking_eq, writeIn_bare] at grows
      rwa [perform, writeThinking_eq, grows.withoutHeaders_eq]
  | startTool key id name =>
      have grows := grows_startTool ready key id name
      rw [startTool_bare] at grows
      rwa [perform, grows.withoutHeaders_eq]
  | writeArguments key arguments =>
      have grows := grows_writeArguments ready key arguments
      rw [writeArguments_bare] at grows
      rwa [perform, grows.withoutHeaders_eq]
  | setStopReason reason => exact ready.grows_setStopReason reason
  | setUsage usage => exact ready.grows_nil

theorem grows_performAll (ready : writer.bare.Ready) (instructions : List Instruction) :
    Grows writer.bare (Event.withoutHeaders (writer.performAll instructions).1)
      (writer.performAll instructions).2.bare := by
  induction instructions generalizing writer with
  | nil => exact ready.grows_nil
  | cons instruction rest ih =>
      have first := grows_perform ready instruction
      rw [performAll, Event.withoutHeaders, List.filter_append]
      exact first.append (ih first.ready)

theorem ready_bare_new : new.bare.Ready :=
  { sound_new with unopened := nofun, started := rfl, unfinished := rfl }

theorem grows_written (instructions : List Instruction) :
    Grows new.bare (Event.withoutHeaders (written instructions))
      (new.performAll instructions).2.bare :=
  grows_performAll ready_bare_new instructions

theorem unfinished_performAll (instructions : List Instruction) :
    (new.performAll instructions).2.finished = false :=
  (grows_written instructions).ready.unfinished

/-! ## Headers -/

/-- What a writer does while it writes blocks. -/
structure WritesBlocks (writer : EventWriter) (events : List Event) (after : EventWriter) :
    Prop where
  named : ∀ event ∈ events, event.index?.isSome = true
  started : after.started = writer.started

theorem Moves.writesBlocks {events : List Event} {after : EventWriter}
    (moves : Moves writer events after) : WritesBlocks writer events after where
  named event member := by
    have border := moves.borders event member
    cases event <;> first | rfl | cases border
  started := by
    obtain ⟨_, _, rfl⟩ := moves.same
    rfl

theorem WritesBlocks.headers {events : List Event} {after : EventWriter}
    (blocks : WritesBlocks writer events after) : events.countP Event.isHeader = 0 := by
  apply List.countP_eq_zero.mpr
  intro event member
  rw [(Event.isHeader_isError_of_index? (blocks.named event member)).1]
  exact Bool.false_ne_true

theorem WritesBlocks.nil (writer : EventWriter) : WritesBlocks writer [] writer :=
  ⟨List.forall_mem_nil _, rfl⟩

theorem writesBlocks_writeIn (writer : EventWriter) (kind : BlockKind) (delta : String → Delta)
    (text : String) :
    WritesBlocks writer (writer.writeIn kind delta text).1
      (writer.writeIn kind delta text).2 := by
  rw [writeIn]
  cases text.isEmpty with
  | true => exact .nil writer
  | false =>
      obtain ⟨named, started⟩ := (moves_ensureBlock writer kind).writesBlocks
      refine ⟨?_, started⟩
      intro event member
      rcases List.mem_append.mp member with member | member
      · exact named event member
      · rw [List.mem_singleton.mp member]
        rfl

/-- Only the instruction for a header leads to one. -/
theorem perform_header_or_blocks (writer : EventWriter) (instruction : Instruction) :
    (∃ id model, instruction = .startMessage id model) ∨
      WritesBlocks writer (writer.perform instruction).1 (writer.perform instruction).2 := by
  cases instruction with
  | startMessage id model => exact .inl ⟨id, model, rfl⟩
  | writeText text => exact .inr (writesBlocks_writeIn writer .text .text text)
  | writeThinking thinking => exact .inr (writesBlocks_writeIn writer .thinking .thinking thinking)
  | startTool key id name =>
      have begun := (moves_beginBlock writer .toolUse (.toolUse id name (.object []))).writesBlocks
      exact .inr ⟨begun.named, begun.started⟩
  | writeArguments key arguments =>
      right
      obtain dropped | ⟨index, placed⟩ := writer.writeArguments_cases key arguments
      · rw [perform, dropped]
        exact .nil writer
      · rw [perform, placed]
        exact ⟨by simp [Event.index?], rfl⟩
  | setStopReason | setUsage => exact .inr ⟨List.forall_mem_nil _, rfl⟩

/-- How many headers are still to come. -/
def headersLeft (writer : EventWriter) : Nat := if writer.started then 0 else 1

/-- A header is written at most once. -/
theorem headers_perform (writer : EventWriter) (instruction : Instruction) :
    (writer.perform instruction).1.countP Event.isHeader +
      (writer.perform instruction).2.headersLeft = writer.headersLeft := by
  obtain ⟨id, model, rfl⟩ | blocks := perform_header_or_blocks writer instruction
  · rw [perform, startMessage]
    cases started : writer.started <;> simp [headersLeft, started, Event.isHeader]
  · rw [blocks.headers, headersLeft, blocks.started, Nat.zero_add, headersLeft]

theorem headers_performAll (writer : EventWriter) (instructions : List Instruction) :
    (writer.performAll instructions).1.countP Event.isHeader +
      (writer.performAll instructions).2.headersLeft = writer.headersLeft := by
  induction instructions generalizing writer with
  | nil => exact Nat.zero_add _
  | cons instruction rest ih =>
      rw [performAll, List.countP_append, Nat.add_assoc, ih, headers_perform]

theorem sound_performAll (writer : EventWriter) (instructions : List Instruction) :
    ∀ event ∈ (writer.performAll instructions).1, event.isError = false := by
  induction instructions generalizing writer with
  | nil => exact List.forall_mem_nil _
  | cons instruction rest ih =>
      intro event member
      rw [performAll] at member
      rcases List.mem_append.mp member with member | member
      · obtain ⟨id, model, rfl⟩ | blocks := perform_header_or_blocks writer instruction
        · rw [perform, startMessage] at member
          split at member
          · cases member
          · rw [List.mem_singleton.mp member]
            rfl
        · exact (Event.isHeader_isError_of_index? (blocks.named event member)).2
      · exact ih _ event member

end EventWriter

end ChatGateway
