import ChatGateway.Proofs.Stage.Writing

/-!
# Reading streams back

Who reads a stream puts its blocks together again: a block is opened, and its deltas add to it.  A
sketch is the least that has to be known of a writer to tell what is read so: the blocks that it has
begun, of which only the last one can grow, and the tools that it knows.
-/

namespace ChatGateway

/-- A block that is read from a stream. -/
structure Draft where
  opening : Block
  /-- What its deltas have added. -/
  text : String
  deriving Inhabited

namespace Draft

/-- The kind of a block. -/
def kind (draft : Draft) : BlockKind :=
  match draft.opening with
  | .thinking _ _ => .thinking
  | .toolUse _ _ _ => .toolUse
  | _ => .text

/-- Takes in a delta.  A delta of another kind of block is not understood. -/
def grow (draft : Draft) (delta : Delta) : Draft :=
  match draft.opening, delta with
  | .text _ _, .text more => { draft with text := draft.text ++ more }
  | .thinking _ _, .thinking more => { draft with text := draft.text ++ more }
  | .toolUse _ _ _, .inputJson more => { draft with text := draft.text ++ more }
  | _, _ => draft

/-- The complete block.  `input` tells what a text of arguments stands for. -/
def block (input : String → Json) (draft : Draft) : Block :=
  match draft.opening with
  | .text start marks => .text (start ++ draft.text) marks
  | .thinking start signature => .thinking (start ++ draft.text) signature
  | .toolUse id name _ => .toolUse id name (input draft.text)
  | other => other

@[simp] theorem kind_grow (draft : Draft) (delta : Delta) :
    (draft.grow delta).kind = draft.kind := by
  obtain ⟨opening, text⟩ := draft
  cases opening <;> cases delta <;> rfl

end Draft

/-- What has been read of a stream. -/
structure Assembly where
  drafts : List Draft
  stopReason : Option StopReason
  usage : Usage
  deriving Inhabited

namespace Assembly

/-- Nothing read yet. -/
def new : Assembly := ⟨[], none, .zero⟩

/-- Reads an event.  Blocks are numbered in the order in which they are opened. -/
def read (assembly : Assembly) : Event → Assembly
  | .messageStart header => { assembly with usage := header.usage }
  | .blockStart index block =>
      if index = assembly.drafts.length then
        { assembly with drafts := assembly.drafts ++ [⟨block, ""⟩] }
      else assembly
  | .blockDelta index delta =>
      { assembly with drafts := assembly.drafts.modify index fun draft => draft.grow delta }
  | .messageDelta closing usage =>
      { assembly with stopReason := closing.stopReason, usage := usage.getD assembly.usage }
  | _ => assembly

/-- Reads events, one after the other. -/
def readAll (assembly : Assembly) (events : List Event) : Assembly := events.foldl read assembly

/-- The blocks read. -/
def blocks (input : String → Json) (assembly : Assembly) : List Block :=
  assembly.drafts.map fun draft => draft.block input

@[simp] theorem readAll_nil (assembly : Assembly) : assembly.readAll [] = assembly := rfl

@[simp] theorem readAll_cons (assembly : Assembly) (event : Event) (rest : List Event) :
    assembly.readAll (event :: rest) = (assembly.read event).readAll rest := rfl

@[simp] theorem readAll_append (assembly : Assembly) (earlier later : List Event) :
    assembly.readAll (earlier ++ later) = (assembly.readAll earlier).readAll later :=
  List.foldl_append

end Assembly

/-! ## Sketches -/

/-- How blocks of text or thoughts begin. -/
def BlockKind.opening : BlockKind → Block
  | .thinking => .thinking "" none
  | _ => .ofText ""

theorem BlockKind.kind_opening {kind : BlockKind} (ofText : kind ≠ .toolUse) :
    Draft.kind ⟨kind.opening, ""⟩ = kind := by
  cases kind with
  | text | thinking => rfl
  | toolUse => exact (ofText rfl).elim

/-- The blocks that have been begun, and the positions of tools by their keys, the latest first. -/
structure Sketch where
  drafts : List Draft
  tools : List (Nat × Nat)
  deriving Inhabited

namespace Sketch

/-- Nothing begun. -/
def new : Sketch := ⟨[], []⟩

/-- Begins a block. -/
def start (sketch : Sketch) (block : Block) : Sketch :=
  { sketch with drafts := sketch.drafts ++ [⟨block, ""⟩] }

/-- The last block grows. -/
def grow (sketch : Sketch) (delta : Delta) : Sketch :=
  { sketch with
    drafts := sketch.drafts.modify (sketch.drafts.length - 1) fun draft => draft.grow delta }

/-- The kind of the last block. -/
def lastKind? (sketch : Sketch) : Option BlockKind := sketch.drafts.getLast?.map Draft.kind

/-- Begins a block of text or thoughts unless the last block is one. -/
def ensure (sketch : Sketch) (kind : BlockKind) : Sketch :=
  if sketch.lastKind? = some kind then sketch else sketch.start kind.opening

/-- Adds to a block of text or thoughts. -/
def write (sketch : Sketch) (kind : BlockKind) (delta : String → Delta) (text : String) : Sketch :=
  if text.isEmpty then sketch else (sketch.ensure kind).grow (delta text)

/-- The position of a tool. -/
def toolIndex? (sketch : Sketch) (key : Nat) : Option Nat :=
  (sketch.tools.find? fun tool => tool.1 = key).map Prod.snd

/-- Begins the block of a tool. -/
def startTool (sketch : Sketch) (key : Nat) (id name : String) : Sketch :=
  { sketch.start (.toolUse id name (.object [])) with
    tools := (key, sketch.drafts.length) :: sketch.tools }

/-- Adds to the arguments of a tool, if its block is the last one. -/
def writeArguments (sketch : Sketch) (key : Nat) (arguments : String) : Sketch :=
  if !arguments.isEmpty ∧ sketch.toolIndex? key = some (sketch.drafts.length - 1) then
    sketch.grow (.inputJson arguments)
  else sketch

theorem lastKind?_start (sketch : Sketch) (block : Block) :
    (sketch.start block).lastKind? = some (Draft.kind ⟨block, ""⟩) := by
  simp [start, lastKind?]

theorem lastKind?_grow (sketch : Sketch) (delta : Delta) :
    (sketch.grow delta).lastKind? = sketch.lastKind? := by
  simp only [lastKind?, grow, List.getLast?_eq_getElem?, List.length_modify, List.getElem?_modify]
  cases sketch.drafts[sketch.drafts.length - 1]? <;> simp

theorem exists_lastKind? {sketch : Sketch} (some_begun : sketch.drafts ≠ []) :
    ∃ kind, sketch.lastKind? = some kind :=
  ⟨_, by rw [lastKind?, List.getLast?_eq_some_getLast some_begun, Option.map_some]⟩

end Sketch

namespace EventWriter

/-- Whether a sketch is one of a writer that has not finished: the last block is open. -/
structure Sketches (writer : EventWriter) (sketch : Sketch) : Prop where
  next : writer.nextIndex = sketch.drafts.length
  opened : writer.openBlock = sketch.lastKind?.map fun kind => ⟨sketch.drafts.length - 1, kind⟩
  tools : writer.tools = sketch.tools
  below : ∀ tool ∈ sketch.tools, tool.2 < sketch.drafts.length

/-- What a writer has noted for the end of its message. -/
structure Remarks where
  finished : Bool
  stopReason : Option StopReason
  usage : Usage
  deriving DecidableEq, Repr, Inhabited

/-- What a writer has noted for the end of its message. -/
def remarks (writer : EventWriter) : Remarks := ⟨writer.finished, writer.stopReason, writer.usage⟩

/-- What a writer writes turns one sketch into another, for the writer and for who reads it. -/
structure Draws (writer : EventWriter) (written : List Event × EventWriter)
    (before after : Sketch) : Prop where
  sketches : written.2.Sketches after
  read : ∀ assembly : Assembly, assembly.drafts = before.drafts →
    (assembly.readAll written.1).drafts = after.drafts
  remarks : written.2.remarks = writer.remarks

variable {writer : EventWriter} {sketch : Sketch}

theorem sketches_new : Sketches .new .new := ⟨rfl, rfl, rfl, nofun⟩

theorem Sketches.draws_nil (sketches : writer.Sketches sketch) :
    Draws writer ([], writer) sketch sketch :=
  ⟨sketches, fun _ same => same, rfl⟩

theorem Draws.append {earlier later : List Event} {middle after : EventWriter}
    {first second third : Sketch} (one : Draws writer (earlier, middle) first second)
    (two : Draws middle (later, after) second third) :
    Draws writer (earlier ++ later, after) first third where
  sketches := two.sketches
  read assembly same := by
    rw [Assembly.readAll_append]
    exact two.read _ (one.read assembly same)
  remarks := two.remarks.trans one.remarks

/-- Closing a block adds nothing to it. -/
theorem readAll_closeBlock (writer : EventWriter) (assembly : Assembly) :
    assembly.readAll writer.closeBlock.1 = assembly := by
  rw [closeBlock]
  cases writer.openBlock <;> rfl

theorem tools_closeBlock (writer : EventWriter) : writer.closeBlock.2.tools = writer.tools := by
  rw [closeBlock]
  cases writer.openBlock <;> rfl

theorem remarks_closeBlock (writer : EventWriter) :
    writer.closeBlock.2.remarks = writer.remarks := by
  rw [closeBlock]
  cases writer.openBlock <;> rfl

theorem draws_beginBlock (sketches : writer.Sketches sketch) {kind : BlockKind} {block : Block}
    (own : Draft.kind ⟨block, ""⟩ = kind) :
    Draws writer (writer.beginBlock kind block) sketch (sketch.start block) where
  sketches :=
    { next := by
        simp only [beginBlock, nextIndex_closeBlock, sketches.next, Sketch.start,
          List.length_append, List.length_singleton]
      opened := by
        rw [openBlock_beginBlock, Sketch.lastKind?_start, own, sketches.next]
        simp [Sketch.start]
      tools := (tools_closeBlock writer).trans sketches.tools
      below := by
        intro tool member
        have below := sketches.below tool member
        simp only [Sketch.start, List.length_append, List.length_singleton]
        omega }
  read assembly same := by
    simp only [beginBlock, Assembly.readAll_append, readAll_closeBlock, nextIndex_closeBlock,
      Assembly.readAll_cons, Assembly.readAll_nil, Assembly.read, same, sketches.next, if_true,
      Sketch.start]
  remarks := remarks_closeBlock writer

theorem Sketches.grow (sketches : writer.Sketches sketch) (delta : Delta) :
    writer.Sketches (sketch.grow delta) := by
  have length : (sketch.grow delta).drafts.length = sketch.drafts.length := List.length_modify ..
  refine ⟨sketches.next.trans length.symm, ?_, sketches.tools, ?_⟩
  · rw [sketch.lastKind?_grow, length, sketches.opened]
  · rw [length]
    exact sketches.below

/-- A delta for the last block. -/
theorem draws_delta (sketches : writer.Sketches sketch) (delta : Delta) :
    Draws writer ([.blockDelta (sketch.drafts.length - 1) delta], writer) sketch
      (sketch.grow delta) where
  sketches := sketches.grow delta
  read assembly same := by
    simp only [Assembly.readAll_cons, Assembly.readAll_nil, Assembly.read, same, Sketch.grow]
  remarks := rfl

theorem ensureBlock_eq (writer : EventWriter) (kind : BlockKind) :
    writer.ensureBlock kind =
      match writer.openBlock.filter fun block => block.kind = kind with
      | some block => (block.index, [], writer)
      | none => (writer.nextIndex, writer.beginBlock kind kind.opening) := by
  cases kind <;> rfl

/-- A block of text or thoughts is continued while it is the last one. -/
theorem draws_ensureBlock (sketches : writer.Sketches sketch) {kind : BlockKind}
    (ofText : kind ≠ .toolUse) :
    Draws writer (writer.ensureBlock kind).2 sketch (sketch.ensure kind) ∧
      (writer.ensureBlock kind).1 = (sketch.ensure kind).drafts.length - 1 := by
  rw [ensureBlock_eq, Sketch.ensure, sketches.opened]
  by_cases same : sketch.lastKind? = some kind
  · simp only [same, Option.map_some, Option.filter_some, decide_true, if_true]
    exact ⟨sketches.draws_nil, trivial⟩
  · have other : (sketch.lastKind?.map fun kind =>
        (⟨sketch.drafts.length - 1, kind⟩ : OpenBlock)).filter (fun block => block.kind = kind) =
          none := by
      rw [Option.filter_eq_none_iff]
      intro block found is_kind
      obtain ⟨last, known, rfl⟩ := Option.map_eq_some_iff.mp found
      rw [decide_eq_true_eq] at is_kind
      exact same (is_kind ▸ known)
    simp only [other, if_neg same]
    refine ⟨draws_beginBlock sketches (BlockKind.kind_opening ofText), ?_⟩
    simp [Sketch.start, sketches.next]

/-- What is added to a block of text or thoughts goes into the last block. -/
theorem draws_addition (sketches : writer.Sketches sketch) {kind : BlockKind}
    (ofText : kind ≠ .toolUse) (delta : Delta) :
    Draws writer
      ((writer.ensureBlock kind).2.1 ++ [.blockDelta (writer.ensureBlock kind).1 delta],
        (writer.ensureBlock kind).2.2)
      sketch ((sketch.ensure kind).grow delta) := by
  obtain ⟨ensured, index⟩ := draws_ensureBlock sketches ofText
  rw [index]
  exact ensured.append (draws_delta ensured.sketches delta)

theorem draws_writeText (sketches : writer.Sketches sketch) (text : String) :
    Draws writer (writer.writeText text) sketch (sketch.write .text .text text) := by
  have ofText : BlockKind.text ≠ .toolUse := nofun
  rw [writeText, Sketch.write]
  split
  · exact sketches.draws_nil
  · exact draws_addition sketches ofText _

theorem draws_writeThinking (sketches : writer.Sketches sketch) (text : String) :
    Draws writer (writer.writeThinking text) sketch (sketch.write .thinking .thinking text) := by
  have ofText : BlockKind.thinking ≠ .toolUse := nofun
  rw [writeThinking, Sketch.write]
  split
  · exact sketches.draws_nil
  · exact draws_addition sketches ofText _

theorem writeText_empty (writer : EventWriter) : writer.writeText "" = ([], writer) :=
  if_pos (String.isEmpty_iff.mpr rfl)

theorem writeThinking_empty (writer : EventWriter) : writer.writeThinking "" = ([], writer) :=
  if_pos (String.isEmpty_iff.mpr rfl)

theorem draws_startTool (sketches : writer.Sketches sketch) (key : Nat) (id name : String) :
    Draws writer (writer.startTool key id name) sketch (sketch.startTool key id name) := by
  let block : Block := .toolUse id name (.object [])
  have begun : Draws writer (writer.beginBlock .toolUse block) sketch (sketch.start block) :=
    draws_beginBlock sketches rfl
  refine ⟨⟨begun.sketches.next, begun.sketches.opened, ?_, ?_⟩, begun.read, begun.remarks⟩
  · simp only [startTool, Sketch.startTool, nextIndex_closeBlock, sketches.next]
    rw [begun.sketches.tools]
    rfl
  · intro tool member
    rcases List.mem_cons.mp member with rfl | member
    · simp [Sketch.startTool, Sketch.start]
    · exact begun.sketches.below tool member

theorem Sketches.toolIndex?_eq (sketches : writer.Sketches sketch) (key : Nat) :
    writer.toolIndex? key = sketch.toolIndex? key := by
  rw [toolIndex?, Sketch.toolIndex?, sketches.tools]

/-- Arguments are written just if the block of their tool is the last one. -/
theorem draws_writeArguments (sketches : writer.Sketches sketch) (key : Nat) (arguments : String) :
    Draws writer (writer.writeArguments key arguments) sketch
      (sketch.writeArguments key arguments) := by
  rw [writeArguments, Sketch.writeArguments, sketches.toolIndex?_eq]
  cases empty : arguments.isEmpty with
  | true =>
      simp only [if_true, Bool.not_true, Bool.false_eq_true, false_and, if_false]
      exact sketches.draws_nil
  | false =>
      simp only [Bool.false_eq_true, if_false, Bool.not_false, true_and]
      cases found : sketch.toolIndex? key with
      | none => exact sketches.draws_nil
      | some index =>
          obtain ⟨tool, first, rfl⟩ := Option.map_eq_some_iff.mp found
          have below := sketches.below tool (List.mem_of_find?_eq_some first)
          have some_begun : sketch.drafts ≠ [] := List.length_pos_iff.mp (Nat.zero_lt_of_lt below)
          obtain ⟨last, known⟩ := Sketch.exists_lastKind? some_begun
          simp only [sketches.opened, known, Option.map_some, Option.some.injEq]
          split
          · rename_i same
            rw [if_pos same.symm, ← same]
            exact draws_delta sketches _
          · rename_i other
            rw [if_neg (Ne.symm other)]
            exact sketches.draws_nil

/-- The header is no part of a block. -/
theorem draws_startMessage (sketches : writer.Sketches sketch) (id model : String) :
    Draws writer (writer.startMessage id model) sketch sketch := by
  rw [startMessage]
  split
  · exact sketches.draws_nil
  · exact ⟨⟨sketches.next, sketches.opened, sketches.tools, sketches.below⟩, fun _ same => same,
      rfl⟩

theorem Sketches.setStopReason (sketches : writer.Sketches sketch) (reason : StopReason) :
    (writer.setStopReason reason).Sketches sketch :=
  ⟨sketches.next, sketches.opened, sketches.tools, sketches.below⟩

theorem Sketches.setUsage (sketches : writer.Sketches sketch) (usage : Usage) :
    (writer.setUsage usage).Sketches sketch :=
  ⟨sketches.next, sketches.opened, sketches.tools, sketches.below⟩

/-- At the end the reader is told what the writer has noted. -/
theorem readAll_finish (unfinished : writer.finished = false) (assembly : Assembly) :
    assembly.readAll writer.finish.1 =
      { assembly with
        stopReason :=
          some (writer.stopReason.getD (if writer.tools.isEmpty then .endTurn else .toolUse))
        usage := writer.usage } := by
  rw [finish, unfinished, if_neg Bool.false_ne_true, closeBlock]
  cases writer.openBlock <;> rfl

end EventWriter

/-! ## Texts in fragments -/

namespace Sketch

variable {earlier : List Draft} {tools : List (Nat × Nat)}

theorem grow_concat (earlier : List Draft) (last : Draft) (tools : List (Nat × Nat))
    (delta : Delta) :
    (⟨earlier ++ [last], tools⟩ : Sketch).grow delta = ⟨earlier ++ [last.grow delta], tools⟩ := by
  have last_grows := List.modifyTailIdx_add
    (List.modifyHead fun draft : Draft => draft.grow delta) 0 earlier [last]
  simpa [grow, List.modify] using last_grows

/-- The block of a text, if there is any text. -/
def ofText (kind : BlockKind) (text : String) : List Draft :=
  if text.isEmpty then [] else [⟨kind.opening, text⟩]

@[simp] theorem ofText_empty (kind : BlockKind) : ofText kind "" = [] :=
  if_pos (String.isEmpty_iff.mpr rfl)

/-- A text that comes after another one of its kind goes on with it. -/
theorem write_ofText {kind : BlockKind} {delta : String → Delta} (own : kind ≠ .toolUse)
    (grows : ∀ text more,
      (Draft.mk kind.opening text).grow (delta more) = ⟨kind.opening, text ++ more⟩)
    (fresh : (⟨earlier, tools⟩ : Sketch).lastKind? ≠ some kind) (text more : String) :
    (⟨earlier ++ ofText kind text, tools⟩ : Sketch).write kind delta more =
      ⟨earlier ++ ofText kind (text ++ more), tools⟩ := by
  rw [write]
  cases none_more : more.isEmpty with
  | true =>
      rw [String.isEmpty_iff.mp none_more, String.append_empty]
      rfl
  | false =>
      have goes_on : (text ++ more).isEmpty = false := by
        rw [Bool.eq_false_iff] at none_more ⊢
        intro empty
        exact none_more (String.isEmpty_iff.mpr (String.append_eq_empty_iff.mp
          (String.isEmpty_iff.mp empty)).2)
      have ensured : (⟨earlier ++ ofText kind text, tools⟩ : Sketch).ensure kind =
          ⟨earlier ++ [⟨kind.opening, text⟩], tools⟩ := by
        cases empty : text.isEmpty with
        | true =>
            rw [ofText, empty, if_pos rfl, List.append_nil, ensure, if_neg fresh,
              String.isEmpty_iff.mp empty]
            rfl
        | false =>
            have last : (⟨earlier ++ [⟨kind.opening, text⟩], tools⟩ : Sketch).lastKind? =
                some kind := by
              rw [lastKind?, List.getLast?_concat, Option.map_some]
              exact congrArg some (BlockKind.kind_opening own)
            rw [ofText, empty, if_neg Bool.false_ne_true, ensure, if_pos last]
      rw [if_neg Bool.false_ne_true, ensured, grow_concat, grows, ofText, goes_on,
        if_neg Bool.false_ne_true]

/-- Adds fragments, one after the other. -/
def writeAll (sketch : Sketch) (kind : BlockKind) (delta : String → Delta)
    (fragments : List String) : Sketch :=
  fragments.foldl (fun sketch more => sketch.write kind delta more) sketch

/-- Fragments of a text make one block of it. -/
theorem writeAll_eq {kind : BlockKind} {delta : String → Delta} (own : kind ≠ .toolUse)
    (grows : ∀ text more,
      (Draft.mk kind.opening text).grow (delta more) = ⟨kind.opening, text ++ more⟩)
    (fresh : (⟨earlier, tools⟩ : Sketch).lastKind? ≠ some kind) (fragments : List String) :
    (⟨earlier, tools⟩ : Sketch).writeAll kind delta fragments =
      ⟨earlier ++ ofText kind (String.join fragments), tools⟩ := by
  suffices from_text : ∀ text,
      (⟨earlier ++ ofText kind text, tools⟩ : Sketch).writeAll kind delta fragments =
        ⟨earlier ++ ofText kind (text ++ String.join fragments), tools⟩ by
    simpa using from_text ""
  intro text
  induction fragments generalizing text with
  | nil => simp [writeAll]
  | cons more rest ih =>
      rw [writeAll, List.foldl_cons, write_ofText own grows fresh, String.join_cons,
        ← String.append_assoc]
      exact ih (text ++ more)

end Sketch

end ChatGateway
