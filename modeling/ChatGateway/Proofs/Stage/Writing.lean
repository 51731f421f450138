import ChatGateway.Proofs.Stage.Outline

/-!
# What writers write

A writer that is started and not finished writes only events that may come next in the outline of
its message, whatever it is told to write.  So does its first event, the header, and so do its last
ones.
-/

namespace ChatGateway

namespace EventWriter

/-- How far the message of a writer has been written. -/
def outline (writer : EventWriter) : Outline :=
  if writer.finished then .stopped
  else
    match writer.openBlock with
    | none => .between writer.started writer.nextIndex
    | some block => .within block writer.nextIndex

/-- What holds of every writer.  Only a block of a tool has the index of a tool, so arguments never
get into a block of another kind. -/
structure Sound (writer : EventWriter) : Prop where
  unopened : writer.started = false → writer.openBlock = none
  tools_lt : ∀ tool ∈ writer.tools, tool.2 < writer.nextIndex
  open_tool : ∀ block, writer.openBlock = some block →
    ∀ tool ∈ writer.tools, tool.2 = block.index → block.kind = .toolUse
  usage : writer.usage.Fits

/-- A writer that can write blocks. -/
structure Ready (writer : EventWriter) : Prop extends Sound writer where
  started : writer.started = true
  unfinished : writer.finished = false

theorem sound_new : Sound .new where
  unopened _ := rfl
  tools_lt := by simp [new]
  open_tool := by simp [new]
  usage := Usage.fits_zero

variable {writer : EventWriter}

theorem outline_of_closed (unfinished : writer.finished = false)
    (closed : writer.openBlock = none) :
    writer.outline = .between writer.started writer.nextIndex := by
  simp [outline, unfinished, closed]

theorem outline_of_open (unfinished : writer.finished = false) {block : OpenBlock}
    (opened : writer.openBlock = some block) :
    writer.outline = .within block writer.nextIndex := by
  simp [outline, unfinished, opened]

theorem isOpen_outline (unfinished : writer.finished = false) : writer.outline.isOpen = true := by
  rw [outline, unfinished, if_neg Bool.false_ne_true]
  split <;> rfl

/-- Events that a writer writes between two states, the message being as sound after them as it was
before. -/
structure Emits (before : EventWriter) (events : List Event) (after : EventWriter) : Prop where
  follows : Outline.Follows before.outline events after.outline
  plain : ∀ event ∈ events, event.Plain
  sound : after.Sound

/-- Events that a writer writes while it goes on. -/
structure Grows (before : EventWriter) (events : List Event) (after : EventWriter) : Prop where
  follows : Outline.Follows before.outline events after.outline
  plain : ∀ event ∈ events, event.Plain
  ready : after.Ready

theorem Ready.grows_nil (ready : writer.Ready) : Grows writer [] writer where
  follows := .nil _
  plain := nofun
  ready := ready

theorem Grows.append {before middle after : EventWriter} {earlier later : List Event}
    (first : Grows before earlier middle) (second : Grows middle later after) :
    Grows before (earlier ++ later) after where
  follows := first.follows.append second.follows
  plain := by
    intro event member
    rcases List.mem_append.mp member with member | member
    · exact first.plain event member
    · exact second.plain event member
  ready := second.ready

theorem Emits.append {before middle after : EventWriter} {earlier later : List Event}
    (first : Emits before earlier middle) (second : Emits middle later after) :
    Emits before (earlier ++ later) after where
  follows := first.follows.append second.follows
  plain := by
    intro event member
    rcases List.mem_append.mp member with member | member
    · exact first.plain event member
    · exact second.plain event member
  sound := second.sound

theorem Grows.emits {before after : EventWriter} {events : List Event}
    (grows : Grows before events after) : Emits before events after :=
  ⟨grows.follows, grows.plain, grows.ready.toSound⟩

theorem Sound.emits_nil (sound : writer.Sound) : Emits writer [] writer :=
  ⟨.nil _, nofun, sound⟩

/-! ## Blocks -/

theorem grows_closeBlock (ready : writer.Ready) :
    Grows writer writer.closeBlock.1 writer.closeBlock.2 := by
  rw [closeBlock]
  cases opened : writer.openBlock with
  | none => exact ready.grows_nil
  | some block =>
      refine ⟨?_, by simp [Event.Plain.blockStop], ?_⟩
      · have after : ({ writer with openBlock := none } : EventWriter).outline =
            .between true writer.nextIndex := by
          simp [outline, ready.unfinished, ready.started]
        rw [outline_of_open ready.unfinished opened, after]
        exact (Outline.Step.stop block writer.nextIndex).follows
      · exact ⟨⟨fun _ => rfl, ready.tools_lt, nofun, ready.usage⟩, ready.started,
          ready.unfinished⟩

theorem openBlock_closeBlock (writer : EventWriter) : writer.closeBlock.2.openBlock = none := by
  rw [closeBlock]
  cases opened : writer.openBlock with
  | none => exact opened
  | some block => rfl

theorem nextIndex_closeBlock (writer : EventWriter) :
    writer.closeBlock.2.nextIndex = writer.nextIndex := by
  rw [closeBlock]
  cases writer.openBlock <;> rfl

/-- The index of a new block is not the index of a tool yet. -/
theorem grows_start (ready : writer.Ready) (closed : writer.openBlock = none) {kind : BlockKind}
    {block : Block} (opens : kind.Opens block)
    (plain : (Event.blockStart writer.nextIndex block).Plain) :
    Grows writer [.blockStart writer.nextIndex block]
      { writer with
        openBlock := some ⟨writer.nextIndex, kind⟩
        nextIndex := writer.nextIndex + 1 } where
  follows := by
    have before : writer.outline = .between true writer.nextIndex := by
      rw [outline_of_closed ready.unfinished closed, ready.started]
    have after : ({ writer with
        openBlock := some ⟨writer.nextIndex, kind⟩
        nextIndex := writer.nextIndex + 1 } : EventWriter).outline =
          .within ⟨writer.nextIndex, kind⟩ (writer.nextIndex + 1) := by
      simp [outline, ready.unfinished]
    rw [before, after]
    exact (Outline.Step.start opens writer.nextIndex).follows
  plain := by simp [plain]
  ready :=
    { unopened := by simp [ready.started]
      tools_lt := fun tool member => Nat.lt_succ_of_lt (ready.tools_lt tool member)
      open_tool := by
        intro other opened tool member same
        cases opened
        exact absurd same (Nat.ne_of_lt (ready.tools_lt tool member))
      usage := ready.usage
      started := ready.started
      unfinished := ready.unfinished }

theorem grows_beginBlock (ready : writer.Ready) (kind : BlockKind) (block : Block)
    (opens : kind.Opens block) (plain : (Event.blockStart writer.nextIndex block).Plain) :
    Grows writer (writer.beginBlock kind block).1 (writer.beginBlock kind block).2 := by
  have closing := grows_closeBlock ready
  have same := nextIndex_closeBlock writer
  rw [← same] at plain
  exact closing.append (grows_start closing.ready (openBlock_closeBlock writer) opens plain)

theorem openBlock_beginBlock (writer : EventWriter) (kind : BlockKind) (block : Block) :
    (writer.beginBlock kind block).2.openBlock = some ⟨writer.nextIndex, kind⟩ := by
  simp only [beginBlock, nextIndex_closeBlock]

/-- A growth of the open block. -/
theorem grows_delta (ready : writer.Ready) {block : OpenBlock}
    (opened : writer.openBlock = some block) {delta : Delta} (grows : block.kind.Grows delta)
    (plain : (Event.blockDelta block.index delta).Plain) :
    Grows writer [.blockDelta block.index delta] writer where
  follows := by
    rw [outline_of_open ready.unfinished opened]
    exact (Outline.Step.grow grows writer.nextIndex).follows
  plain := by simp [plain]
  ready := ready

/-! ## Text and thoughts -/

theorem grows_ensureBlock (ready : writer.Ready) (kind : BlockKind) (ofText : kind ≠ .toolUse) :
    Grows writer (writer.ensureBlock kind).2.1 (writer.ensureBlock kind).2.2 ∧
      (writer.ensureBlock kind).2.2.openBlock = some ⟨(writer.ensureBlock kind).1, kind⟩ := by
  unfold ensureBlock
  cases opened : writer.openBlock.filter fun block => block.kind = kind with
  | some block =>
      obtain ⟨is_open, same⟩ := Option.filter_eq_some_iff.mp opened
      refine ⟨ready.grows_nil, ?_⟩
      simp only [is_open, Option.some.injEq]
      rw [decide_eq_true_eq] at same
      rw [← same]
  | none =>
      refine ⟨?_, openBlock_beginBlock writer kind _⟩
      cases kind with
      | text => exact grows_beginBlock ready _ _ trivial (.textStart _)
      | thinking => exact grows_beginBlock ready _ _ trivial (.thinkingStart _)
      | toolUse => exact (ofText rfl).elim

theorem grows_writeText (ready : writer.Ready) (text : String) :
    Grows writer (writer.writeText text).1 (writer.writeText text).2 := by
  rw [writeText]
  split
  · exact ready.grows_nil
  · obtain ⟨opening, opened⟩ := grows_ensureBlock ready .text nofun
    exact opening.append (grows_delta opening.ready opened trivial (.text _ _))

theorem grows_writeThinking (ready : writer.Ready) (thinking : String) :
    Grows writer (writer.writeThinking thinking).1 (writer.writeThinking thinking).2 := by
  rw [writeThinking]
  split
  · exact ready.grows_nil
  · obtain ⟨opening, opened⟩ := grows_ensureBlock ready .thinking nofun
    exact opening.append (grows_delta opening.ready opened trivial (.thinking _ _))

/-! ## Tools -/

/-- The newest tool has the block that has just been opened. -/
theorem Ready.addTool (ready : writer.Ready) {index : Nat}
    (opened : writer.openBlock = some ⟨index, .toolUse⟩) (below : index < writer.nextIndex)
    (key : Nat) : Ready { writer with tools := (key, index) :: writer.tools } where
  unopened := ready.unopened
  tools_lt := List.forall_mem_cons.mpr ⟨below, ready.tools_lt⟩
  open_tool := by
    intro block is_open tool member same
    rcases List.mem_cons.mp member with rfl | member
    · rw [opened] at is_open
      cases is_open
      rfl
    · exact ready.open_tool block is_open tool member same
  usage := ready.usage
  started := ready.started
  unfinished := ready.unfinished

theorem grows_startTool (ready : writer.Ready) (key : Nat) (id name : String) :
    Grows writer (writer.startTool key id name).1 (writer.startTool key id name).2 := by
  have begun := grows_beginBlock ready .toolUse (.toolUse id name (.object [])) trivial
    (.toolStart _ id name)
  have opened := openBlock_beginBlock writer .toolUse (.toolUse id name (.object []))
  have below : writer.nextIndex <
      (writer.beginBlock .toolUse (.toolUse id name (.object []))).2.nextIndex := by
    simp only [beginBlock, nextIndex_closeBlock, Nat.lt_succ_self]
  refine ⟨begun.follows, begun.plain, ?_⟩
  simp only [startTool, nextIndex_closeBlock]
  exact begun.ready.addTool opened below key

/-- Arguments are written into the open block only, and only if it is the block of their tool. -/
theorem grows_writeArguments (ready : writer.Ready) (key : Nat) (arguments : String) :
    Grows writer (writer.writeArguments key arguments).1 (writer.writeArguments key arguments).2 := by
  rw [writeArguments]
  split
  · exact ready.grows_nil
  · cases found : writer.toolIndex? key with
    | none => exact ready.grows_nil
    | some index =>
        obtain ⟨tool, first, rfl⟩ := Option.map_eq_some_iff.mp found
        dsimp only
        split
        · rename_i opened
          obtain ⟨block, is_open, same⟩ := Option.map_eq_some_iff.mp opened
          have kind := ready.open_tool block is_open tool (List.mem_of_find?_eq_some first) same.symm
          rw [← same]
          exact grows_delta ready is_open (by rw [kind]; trivial) (.arguments _ _)
        · exact ready.grows_nil

/-! ## The header, the fields and the end -/

/-- A writer that is not finished is ready once the header is written. -/
theorem emits_startMessage (sound : writer.Sound) (unfinished : writer.finished = false)
    (id model : String) :
    Emits writer (writer.startMessage id model).1 (writer.startMessage id model).2 ∧
      (writer.startMessage id model).2.Ready := by
  rw [startMessage]
  cases started : writer.started with
  | true => exact ⟨sound.emits_nil, sound, started, unfinished⟩
  | false =>
      have closed := sound.unopened started
      have ready : Ready { writer with started := true } :=
        { sound with unopened := nofun, started := rfl, unfinished }
      refine ⟨⟨?_, ?_, ready.toSound⟩, ready⟩
      · have before : writer.outline = .between false writer.nextIndex := by
          rw [outline_of_closed unfinished closed, started]
        have after : ({ writer with started := true } : EventWriter).outline =
            .between true writer.nextIndex :=
          outline_of_closed unfinished closed
        rw [before, if_neg Bool.false_ne_true, after]
        exact (Outline.Step.header _ writer.nextIndex).follows
      · simpa using Event.Plain.messageStart id model sound.usage

theorem Ready.grows_setStopReason (ready : writer.Ready) (reason : StopReason) :
    Grows writer [] (writer.setStopReason reason) where
  follows := .nil _
  plain := nofun
  ready := { ready with }

theorem Ready.grows_setUsage (ready : writer.Ready) {usage : Usage} (fits : usage.Fits) :
    Grows writer [] (writer.setUsage usage) where
  follows := .nil _
  plain := nofun
  ready := { ready with usage := fits }

theorem Ready.countTool (ready : writer.Ready) (count : Nat) :
    Ready { writer with unkeyedTools := count } :=
  { ready with }

/-- The end of a message: what is open is closed, then come the final fields. -/
theorem emits_finish (sound : writer.Sound) :
    Emits writer writer.finish.1 writer.finish.2 ∧ writer.finish.2.outline = .stopped := by
  cases finished : writer.finished with
  | true =>
      rw [finish, if_pos finished]
      exact ⟨sound.emits_nil, by simp [outline, finished]⟩
  | false =>
      have last (started : Bool) (reason : StopReason) : Outline.Follows
          (.between started writer.nextIndex)
          [.messageDelta ⟨some reason, none⟩ (some writer.usage), .messageStop] .stopped :=
        .cons (.fields started writer.nextIndex _ _) (.cons .finish (.nil _))
      have plain (reason : StopReason) := Event.Plain.messageDelta reason sound.usage
      rw [finish, finished, if_neg Bool.false_ne_true, closeBlock]
      cases opened : writer.openBlock with
      | none =>
          refine ⟨⟨?_, ?_, ?_⟩, rfl⟩
          · rw [outline_of_closed finished opened]
            exact last _ _
          · simp [plain, Event.Plain.messageStop]
          · exact { sound with unopened := fun _ => rfl, open_tool := nofun }
      | some block =>
          refine ⟨⟨?_, ?_, ?_⟩, rfl⟩
          · rw [outline_of_open finished opened]
            exact (Outline.Step.stop block writer.nextIndex).follows.append (last _ _)
          · simp [plain, Event.Plain.messageStop, Event.Plain.blockStop]
          · exact { sound with unopened := fun _ => rfl, open_tool := nofun }

end EventWriter

end ChatGateway
