import ChatGateway.Proofs.Stage.Instructions
import ChatGateway.Proofs.Stream.History

/-!
# Messages under any instructions

The message of a writer is told from outside: by what the writer was told and by the events it has
written.  Arguments are written just while the block that their tool began last is still open, which
the events tell as well as the writer's own fields do.
-/

namespace ChatGateway

namespace Event

theorem openAfter_withoutHeaders {index : Nat} {events : List Event} :
    OpenAfter index (withoutHeaders events) ↔ OpenAfter index events := by
  induction events using List.reverseRecOn with
  | nil => rfl
  | append_singleton earlier event ih =>
      rw [withoutHeaders, List.filter_append, openAfter_concat]
      cases event with
      | messageStart header =>
          rw [List.filter_cons_of_neg Bool.false_ne_true, List.filter_nil, List.append_nil]
          simp only [reduceCtorEq, exists_false, ne_eq, not_false_eq_true, and_true, false_or]
          exact ih
      | _ =>
          rw [List.filter_cons_of_pos rfl, List.filter_nil, openAfter_concat]
          exact or_congr_right (and_congr_left' ih)

end Event

namespace Outline

/-- The delivery to a caller who has been sent events before keeps up with the outline. -/
theorem Follows.accounts {before after : Outline} {sent events : List Event}
    (follows : Follows before events after) (accounts : before.delivery.Accounts sent) :
    after.delivery.Accounts (sent ++ events) := by
  induction follows generalizing sent with
  | nil => rwa [List.append_nil]
  | cons step _ ih =>
      obtain ⟨admitted, noted⟩ := step.delivery
      have next := accounts.note _ admitted
      rw [noted] at next
      rw [List.append_cons]
      exact ih next

end Outline

namespace EventWriter

variable {writer : EventWriter}

/-! ## Tools -/

/-- The block that a tool of a key began, none of the same key having begun since. -/
def BeganLast (key : Nat) (instructions : List Instruction) (index : Nat) : Prop :=
  ∃ before id name after front,
    instructions = before ++ .startTool key id name :: after ∧
      (∀ later ∈ after, later.starts key = false) ∧
      written (before ++ [.startTool key id name]) =
        front ++ [.blockStart index (.toolUse id name (.object []))]

theorem Moves.toolIndex?_eq {events : List Event} {after : EventWriter}
    (moves : Moves writer events after) (key : Nat) :
    after.toolIndex? key = writer.toolIndex? key := by
  obtain ⟨_, _, rfl⟩ := moves.same
  rfl

theorem toolIndex?_startTool (writer : EventWriter) (key other : Nat) (id name : String) :
    (writer.startTool other id name).2.toolIndex? key =
      if other = key then some writer.nextIndex else writer.toolIndex? key := by
  have begun := moves_beginBlock writer .toolUse (.toolUse id name (.object []))
  rw [← begun.toolIndex?_eq]
  simp only [startTool, toolIndex?, nextIndex_closeBlock, List.find?_cons]
  by_cases same : other = key <;> simp [same]

theorem toolIndex?_writeIn (writer : EventWriter) (key : Nat) (kind : BlockKind)
    (delta : String → Delta) (text : String) :
    (writer.writeIn kind delta text).2.toolIndex? key = writer.toolIndex? key := by
  rw [writeIn]
  cases text.isEmpty with
  | true => rfl
  | false => exact (moves_ensureBlock writer kind).toolIndex?_eq key

/-- Only the beginning of a tool changes where its arguments go. -/
theorem toolIndex?_perform (writer : EventWriter) {key : Nat} {instruction : Instruction}
    (another : instruction.starts key = false) :
    (writer.perform instruction).2.toolIndex? key = writer.toolIndex? key := by
  cases instruction with
  | startMessage id model =>
      rw [perform, startMessage]
      cases writer.started <;> rfl
  | writeText text => exact toolIndex?_writeIn writer key .text .text text
  | writeThinking thinking => exact toolIndex?_writeIn writer key .thinking .thinking thinking
  | startTool other id name =>
      rw [perform, toolIndex?_startTool, if_neg (beq_eq_false_iff_ne.mp another)]
  | writeArguments other arguments =>
      obtain dropped | ⟨index, placed⟩ := writer.writeArguments_cases other arguments
      · rw [perform, dropped]
      · rw [perform, placed]
  | setStopReason | setUsage => rfl

theorem toolIndex?_performAll (writer : EventWriter) {key : Nat} {instructions : List Instruction}
    (others : ∀ instruction ∈ instructions, instruction.starts key = false) :
    (writer.performAll instructions).2.toolIndex? key = writer.toolIndex? key := by
  induction instructions generalizing writer with
  | nil => rfl
  | cons instruction rest ih =>
      rw [performAll]
      refine (ih _ fun other member => others other (.tail _ member)).trans ?_
      exact toolIndex?_perform writer (others instruction List.mem_cons_self)

theorem written_startTool (before : List Instruction) (key : Nat) (id name : String) :
    ∃ front, written (before ++ [.startTool key id name]) =
      front ++ [.blockStart (new.performAll before).2.nextIndex
        (.toolUse id name (.object []))] := by
  rw [written, performAll_concat]
  simp only [perform, startTool, beginBlock, nextIndex_closeBlock, ← List.append_assoc]
  exact ⟨_, rfl⟩

/-- A writer keeps of every key the block that a tool began last under it. -/
theorem toolIndex?_eq_some_iff {key : Nat} {instructions : List Instruction} {index : Nat} :
    (new.performAll instructions).2.toolIndex? key = some index ↔
      BeganLast key instructions index := by
  constructor
  · intro known
    -- From the end, since the last tool that began is the first one met.
    induction instructions using List.reverseRecOn with
    | nil => cases known
    | append_singleton earlier last ih =>
        rw [performAll_concat] at known
        cases begins : last.starts key with
        | true =>
            cases last with
            | startTool other id name =>
                rw [perform, toolIndex?_startTool, if_pos (beq_iff_eq.mp begins)] at known
                obtain rfl := Option.some.inj known
                obtain rfl := beq_iff_eq.mp begins
                obtain ⟨front, equal⟩ := written_startTool earlier other id name
                exact ⟨earlier, id, name, [], front, rfl, List.forall_mem_nil _, equal⟩
            | startMessage | writeText | writeThinking | writeArguments | setStopReason
            | setUsage => cases begins
        | false =>
            rw [toolIndex?_perform _ begins] at known
            obtain ⟨before, id, name, after, front, rfl, others, equal⟩ := ih known
            refine ⟨before, id, name, after ++ [last], front, by simp, ?_, equal⟩
            intro other member
            rcases List.mem_append.mp member with member | member
            · exact others other member
            · rwa [List.mem_singleton.mp member]
  · rintro ⟨before, id, name, after, front, rfl, others, equal⟩
    obtain ⟨front', equal'⟩ := written_startTool before key id name
    have same := List.append_inj' (equal.symm.trans equal') rfl
    have index_eq := (Event.blockStart.inj (List.singleton_inj.mp same.2)).1
    rw [performAll_append, performAll, toolIndex?_performAll _ others, perform,
      toolIndex?_startTool, if_pos rfl, index_eq]

/-- The block that arguments go on with: the one that their tool began last, while it is open. -/
def ToolIsOpen (key : Nat) (instructions : List Instruction) (index : Nat) : Prop :=
  BeganLast key instructions index ∧ Event.OpenAfter index (written instructions)

theorem mem_openBlocks (unfinished : writer.finished = false) {index : Nat} :
    index ∈ writer.outline.delivery.openBlocks ↔
      writer.openBlock.map OpenBlock.index = some index := by
  rw [outline, unfinished, if_neg Bool.false_ne_true]
  cases writer.openBlock <;> simp [Outline.delivery, eq_comm]

/-- A writer knows which block is open. -/
theorem openAfter_written {instructions : List Instruction} {index : Nat} :
    Event.OpenAfter index (written instructions) ↔
      (new.performAll instructions).2.openBlock.map OpenBlock.index = some index := by
  have grows := grows_written instructions
  have accounts := grows.follows.accounts Delivery.accounts_new
  rw [← Event.openAfter_withoutHeaders, ← List.nil_append (Event.withoutHeaders _),
    ← accounts.openBlocks, mem_openBlocks grows.ready.unfinished]
  rfl

theorem writeArguments_of_open {key index : Nat} {fragment : String} (filled : fragment ≠ "")
    (known : writer.toolIndex? key = some index)
    (opened : writer.openBlock.map OpenBlock.index = some index) :
    writer.writeArguments key fragment = ([.blockDelta index (.inputJson fragment)], writer) := by
  rw [writeArguments, if_neg (mt String.isEmpty_iff.mp filled), known]
  exact if_pos opened

theorem writeArguments_of_not_open {key : Nat} (fragment : String)
    (elsewhere : ∀ index, writer.toolIndex? key = some index →
      writer.openBlock.map OpenBlock.index ≠ some index) :
    writer.writeArguments key fragment = ([], writer) := by
  rw [writeArguments]
  split
  · rfl
  · cases known : writer.toolIndex? key with
    | none => rfl
    | some index => exact if_neg (elsewhere index known)

/-- What becomes of arguments that come after instructions. -/
structure PlacesArguments (instructions : List Instruction) : Prop where
  placed : ∀ key index fragment, ToolIsOpen key instructions index → fragment ≠ "" →
    written (instructions ++ [.writeArguments key fragment]) =
      written instructions ++ [.blockDelta index (.inputJson fragment)]
  dropped : ∀ key fragment, (∀ index, ¬ToolIsOpen key instructions index) →
    written (instructions ++ [.writeArguments key fragment]) = written instructions
  /-- Nothing else that a writer may be told adds to arguments. -/
  alone : ∀ next, (∀ key fragment, next = .writeArguments key fragment → fragment = "") →
    (written (instructions ++ [next])).filterMap (Event.addition? .toolUse) =
      (written instructions).filterMap (Event.addition? .toolUse)

theorem placesArguments (instructions : List Instruction) : PlacesArguments instructions where
  placed key index fragment isOpen filled := by
    obtain ⟨began, opened⟩ := isOpen
    rw [written, performAll_concat, perform, writeArguments_of_open filled
      (toolIndex?_eq_some_iff.mpr began) (openAfter_written.mp opened)]
    rfl
  dropped key fragment closed := by
    have elsewhere (index : Nat)
        (known : (new.performAll instructions).2.toolIndex? key = some index) :
        (new.performAll instructions).2.openBlock.map OpenBlock.index ≠ some index := fun opened =>
      closed index ⟨toolIndex?_eq_some_iff.mp known, openAfter_written.mpr opened⟩
    rw [written, performAll_concat, perform, writeArguments_of_not_open fragment elsewhere,
      List.append_nil]
    rfl
  alone next other := by
    have added : ((new.performAll instructions).2.perform next).1.filterMap
        (Event.addition? .toolUse) = [] := by
      rw [additions_perform _ _ fun _ => other]
      cases next with
      | writeArguments key fragment =>
          rw [other key fragment rfl]
          rfl
      | _ => rfl
    rw [written, performAll_concat, List.filterMap_append, added, List.append_nil]
    rfl

/-! ## Messages -/

theorem join_filter (texts : List String) :
    String.join (texts.filter (· ≠ "")) = String.join texts := by
  induction texts with
  | nil => rfl
  | cons text rest ih =>
      by_cases empty : text = ""
      · rw [List.filter_cons_of_neg (by simp [empty]), ih, empty, String.join_cons,
          String.empty_append]
      · rw [List.filter_cons_of_pos (by simp [empty]), String.join_cons, String.join_cons, ih]

/-- A message as instructions ask for it. -/
structure Renders (instructions : List Instruction) (events : List Event) : Prop where
  header : events.countP Event.isHeader ≤ 1
  /-- A block that is still open is closed, and then come the final fields and the end. -/
  blocks : ∃ (stop : Option Nat) (final : Closing) (usage : Option Usage),
    events = written instructions ++ stop.toList.map .blockStop ++
        [.messageDelta final usage, .messageStop] ∧
      BlockSequence 0
        (Event.withoutHeaders (written instructions ++ stop.toList.map .blockStop))
  /-- Each text that is not empty is added to a block of its kind, in the order of the texts. -/
  texts : ∀ kind, kind ≠ .toolUse →
    events.filterMap (Event.addition? kind) =
      (instructions.filterMap (Instruction.addition? kind)).filter (· ≠ "")
  joined : ∀ kind, kind ≠ .toolUse →
    String.join (events.filterMap (Event.addition? kind)) =
      String.join (instructions.filterMap (Instruction.addition? kind))

theorem closeBlock_fst (writer : EventWriter) :
    writer.closeBlock.1 = (writer.openBlock.map OpenBlock.index).toList.map .blockStop := by
  rw [closeBlock]
  cases writer.openBlock <;> rfl

/-- The blocks that are written up to the end are in order. -/
theorem blockSequence_written (instructions : List Instruction) :
    BlockSequence 0 (Event.withoutHeaders
      (written instructions ++ (new.performAll instructions).2.closeBlock.1)) := by
  have earlier := grows_written instructions
  have last := grows_closeBlock earlier.ready
  rw [closeBlock_bare] at last
  have whole := earlier.append last
  rw [Event.withoutHeaders, List.filter_append, ← Event.withoutHeaders, ← Event.withoutHeaders,
    last.withoutHeaders_eq]
  have closed : (new.performAll instructions).2.closeBlock.2.bare.outline =
      .between true (new.performAll instructions).2.closeBlock.2.nextIndex :=
    outline_of_closed whole.ready.unfinished (openBlock_closeBlock _)
  have follows := whole.follows
  rw [closed] at follows
  apply follows.blockSequence
  intro event member
  rcases List.mem_append.mp member with member | member
  · exact sound_performAll new instructions event (List.mem_filter.mp member).1
  · have border := (moves_closeBlock _).writesBlocks.named event member
    exact (Event.isHeader_isError_of_index? border).2

/-- The end of a message comes after all that was written, with the block that is still open. -/
theorem message_eq (instructions : List Instruction) :
    ∃ reason usage, message instructions =
      written instructions ++ (new.performAll instructions).2.closeBlock.1 ++
        [.messageDelta ⟨some reason, none⟩ (some usage), .messageStop] := by
  obtain ⟨reason, equal⟩ := finish_eq (unfinished_performAll instructions)
  exact ⟨reason, _, by rw [message, equal, List.append_assoc]⟩

theorem headers_message (instructions : List Instruction) :
    (message instructions).countP Event.isHeader ≤ 1 := by
  obtain ⟨reason, usage, equal⟩ := message_eq instructions
  have total : (written instructions).countP Event.isHeader + _ = 1 :=
    headers_performAll new instructions
  rw [equal, List.countP_append, List.countP_append, (moves_closeBlock _).writesBlocks.headers]
  exact Nat.le_of_add_right_le total.le

/-- Whatever a new writer is told, it writes a message, and arguments are written just into the open
block of their tool. -/
theorem renders_message (instructions : List Instruction) :
    Renders instructions (message instructions) ∧ PlacesArguments instructions := by
  have texts (kind : BlockKind) (ofText : kind ≠ .toolUse) :
      (message instructions).filterMap (Event.addition? kind) =
        (instructions.filterMap (Instruction.addition? kind)).filter (· ≠ "") := by
    rw [message, List.filterMap_append, additions_finish, List.append_nil]
    exact additions_performAll new instructions ofText
  refine ⟨?_, placesArguments instructions⟩
  constructor
  case header => exact headers_message instructions
  case blocks =>
    obtain ⟨reason, usage, equal⟩ := message_eq instructions
    refine ⟨(new.performAll instructions).2.openBlock.map OpenBlock.index,
      ⟨some reason, none⟩, some usage, ?_, ?_⟩
    · rw [equal, closeBlock_fst]
    · rw [← closeBlock_fst]
      exact blockSequence_written instructions
  case texts => exact texts
  case joined =>
    intro kind ofText
    rw [texts kind ofText, join_filter]

/-- A tool begins anew under its key: its arguments go on with its second block, and those that come
after a text are dropped.  The header comes while the first block is open. -/
theorem renders_message_reused_key :
    Renders [.startTool 7 "a" "f", .startMessage "m" "x", .startTool 7 "b" "g", .writeText ""]
        [.blockStart 0 (.toolUse "a" "f" (.object [])),
          .messageStart ⟨"m", "x", .assistant, .zero⟩, .blockStop 0,
          .blockStart 1 (.toolUse "b" "g" (.object [])), .blockStop 1,
          .messageDelta ⟨some .toolUse, none⟩ (some .zero), .messageStop] ∧
      written [.startTool 7 "a" "f", .startTool 7 "b" "g", .writeArguments 7 "\x7b\x7d"] =
        written [.startTool 7 "a" "f", .startTool 7 "b" "g"] ++
          [.blockDelta 1 (.inputJson "\x7b\x7d")] ∧
      written [.startTool 7 "a" "f", .writeText "late", .writeArguments 7 "\x7b\x7d"] =
        written [.startTool 7 "a" "f", .writeText "late"] := by
  refine ⟨(renders_message _).1, ?_, ?_⟩
  · have again : ToolIsOpen 7 [.startTool 7 "a" "f", .startTool 7 "b" "g"] 1 :=
      ⟨toolIndex?_eq_some_iff.mp rfl, openAfter_written.mpr rfl⟩
    exact (renders_message _).2.placed 7 1 _ again (by decide)
  · have lost (index : Nat) : ¬ToolIsOpen 7 [.startTool 7 "a" "f", .writeText "late"] index := by
      rintro ⟨began, opened⟩
      cases toolIndex?_eq_some_iff.mpr began
      cases openAfter_written.mp opened
    exact (renders_message _).2.dropped 7 _ lost

end EventWriter

end ChatGateway
