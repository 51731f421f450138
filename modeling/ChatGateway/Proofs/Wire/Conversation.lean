import ChatGateway.Proofs.Json.Fields
import ChatGateway.Proofs.Message.Tools
import ChatGateway.Wire.ChatCompletions

/-!
# Conversations with tools

A turn of the user becomes several messages of the chat completions protocol: one for each result of
a tool, and then one for everything else.  So where each turn with uses of tools is followed by their
results, each message with calls is followed by the answers to them, before any other role speaks.
-/

namespace ChatGateway

/-- A piece of what a user says. -/
inductive Piece where
  | text (text : String)
  | image (url : String)
  deriving DecidableEq, Repr, Inhabited

namespace Wire.ChatCompletions

/-! ## What a message says -/

/-- The role of a message. -/
def role? (message : Json) : Option String := (message.get? "role").bind Json.string?

/-- Whether a message calls tools. -/
def calls (message : Json) : Bool := (message.get? "tool_calls").isSome

/-- The identifiers of the calls of a message. -/
def callIds (message : Json) : List String :=
  (((message.get? "tool_calls").bind Json.array?).getD []).filterMap fun call =>
    (call.get? "id").bind Json.string?

/-- The text of a message, null standing for an empty one. -/
def saidText (message : Json) : String := ((message.get? "content").bind Json.string?).getD ""

/-- The result that a message of a tool gives. -/
def toolAnswer? (message : Json) : Option ToolResult :=
  if role? message = some "tool" then do
    some ⟨← (message.get? "tool_call_id").bind Json.string?,
      ← (message.get? "content").bind Json.string?⟩
  else none

/-- The piece that a part of a message is. -/
def readPiece? (part : Json) : Option Piece := do
  match ← (part.get? "type").bind Json.string? with
  | "text" => ((part.get? "text").bind Json.string?).map .text
  | "image_url" =>
      (((part.get? "image_url").bind (Json.get? "url")).bind Json.string?).map .image
  | _ => none

/-- The pieces of a message of the user. -/
def saidPieces (message : Json) : List Piece :=
  match message.get? "content" with
  | some (.string text) => [.text text]
  | some (.array parts) => parts.filterMap readPiece?
  | _ => []

/-- The piece that a block of a user's turn is.  Bytes of an image are a part of its address. -/
def piece? : Block → Option Piece
  | .text text _ => some (.text text)
  | .image (.base64 mediaType data) => some (.image ("data:" ++ mediaType ++ ";base64," ++ data))
  | .image (.url url) => some (.image url)
  | _ => none

/-! ## Turns and their messages -/

/-- The messages of a turn.  The results in a turn of the user come first, everything else that the
user says comes after them in one message; a turn of the assistant is one message. -/
inductive RelaysTurn : Message → List Json → Prop where
  | user {content : Content} {answers spoken : List Json}
      (tools : ∀ answer ∈ answers, role? answer = some "tool")
      (results : answers.map toolAnswer? = (Message.results ⟨.user, content⟩).map some)
      (users : ∀ message ∈ spoken, role? message = some "user") (single : spoken.length ≤ 1)
      (pieces : spoken.flatMap saidPieces = content.toBlocks.filterMap piece?) :
      RelaysTurn ⟨.user, content⟩ (answers ++ spoken)
  | assistant {content : Content} {message : Json} (role : role? message = some "assistant")
      (calling : calls message = !(Message.uses ⟨.assistant, content⟩).isEmpty)
      (ids : callIds message = (Message.uses ⟨.assistant, content⟩).map ToolUse.id)
      (text : saidText message = String.join (Block.textsAmong content.toBlocks)) :
      RelaysTurn ⟨.assistant, content⟩ [message]

/-- Messages of turns, turn by turn. -/
inductive Relays : List Message → List Json → Prop where
  | nil : Relays [] []
  | cons {turn : Message} {turns : List Message} {group messages : List Json}
      (first : RelaysTurn turn group) (rest : Relays turns messages) :
      Relays (turn :: turns) (group ++ messages)

theorem toolAnswer?_toolMessage (block : Block) :
    (toolMessage? block).map toolAnswer? = block.result?.map some := by
  cases block with
  | toolResult toolUseId content isError =>
      rw [toolMessage?, Block.result?, Block.toolResultText_eq]
      rfl
  | text | image | toolUse | thinking | redactedThinking | serverToolUse | webSearchToolResult
    | other => rfl

theorem readPiece?_userPart (block : Block) : (userPart? block).bind readPiece? = piece? block := by
  cases block with
  | image source => cases source <;> rfl
  | text | toolUse | toolResult | thinking | redactedThinking | serverToolUse
    | webSearchToolResult | other => rfl

theorem map_toolAnswer?_toolMessages (blocks : List Block) :
    (blocks.filterMap toolMessage?).map toolAnswer? =
      (blocks.filterMap Block.result?).map some := by
  rw [List.map_filterMap, List.map_filterMap]
  exact congrArg (fun read => blocks.filterMap read) (funext toolAnswer?_toolMessage)

theorem role?_of_toolMessage {blocks : List Block} {message : Json}
    (member : message ∈ blocks.filterMap toolMessage?) : role? message = some "tool" := by
  obtain ⟨block, -, made⟩ := List.mem_filterMap.mp member
  cases block with
  | toolResult =>
      cases made
      rfl
  | text | image | toolUse | thinking | redactedThinking | serverToolUse | webSearchToolResult
    | other => cases made

theorem relaysTurn_userMessages (content : Content) :
    RelaysTurn ⟨.user, content⟩ (userMessages content) := by
  cases content with
  | text text =>
      have noAnswers : ∀ answer ∈ ([] : List Json), role? answer = some "tool" := nofun
      refine RelaysTurn.user noAnswers rfl ?_ (Nat.le_refl 1) rfl
      intro message member
      cases List.mem_singleton.mp member
      rfl
  | blocks blocks =>
      have read : (blocks.filterMap userPart?).filterMap readPiece? = blocks.filterMap piece? := by
        rw [List.filterMap_filterMap]
        exact congrArg (fun read => blocks.filterMap read) (funext readPiece?_userPart)
      rw [userMessages]
      refine .user (fun _ => role?_of_toolMessage) (map_toolAnswer?_toolMessages blocks) ?_ ?_ ?_
      · intro message member
        split at member
        · cases member
        · cases List.mem_singleton.mp member
          rfl
      · split <;> simp
      · split
        · rename_i none
          rw [List.isEmpty_iff.mp none] at read
          exact read
        · rw [List.flatMap_singleton]
          exact read

theorem callId_toolCall (block : Block) :
    (toolCall? block).bind (fun call => (call.get? "id").bind Json.string?) =
      block.use?.map ToolUse.id := by
  cases block <;> rfl

theorem isSome_toolCall? (block : Block) : (toolCall? block).isSome = block.use?.isSome := by
  cases block <;> rfl

/-- The calls of a turn are there if it uses tools. -/
theorem get?_toolCalls (blocks : List Block) :
    (assistantMessage (.blocks blocks)).get? "tool_calls" =
      if (blocks.filterMap toolCall?).isEmpty then none
      else some (.array (blocks.filterMap toolCall?)) := by
  have look (content : Json) (calls : List Json) :
      (Json.object ([("content", content), ("role", .string "assistant")] ++
        (if calls.isEmpty then [] else [("tool_calls", .array calls)]))).get? "tool_calls" =
        if calls.isEmpty then none else some (.array calls) := by
    split <;> rfl
  exact look _ _

/-- Null stands for no text. -/
theorem saidText_assistantMessage (blocks : List Block) :
    saidText (assistantMessage (.blocks blocks)) =
      String.join (Block.textsAmong blocks) := by
  rw [← Block.filterMap_text?]
  have content : (assistantMessage (.blocks blocks)).get? "content" =
      some (if (String.join (blocks.filterMap Block.text?)).isEmpty then .null
        else .string (String.join (blocks.filterMap Block.text?))) := rfl
  rw [saidText, content]
  split
  · rename_i none
    rw [String.isEmpty_iff.mp none]
    rfl
  · rfl

theorem isEmpty_toolCalls (blocks : List Block) :
    (blocks.filterMap toolCall?).isEmpty = (blocks.filterMap Block.use?).isEmpty := by
  rw [Bool.eq_iff_iff, List.isEmpty_iff, List.isEmpty_iff, List.filterMap_eq_nil_iff,
    List.filterMap_eq_nil_iff]
  simp only [← Option.isNone_iff_eq_none, ← Option.not_isSome, isSome_toolCall?]

theorem relaysTurn_assistantMessage (content : Content) :
    RelaysTurn ⟨.assistant, content⟩ [assistantMessage content] := by
  cases content with
  | text text => exact .assistant rfl rfl rfl String.empty_append.symm
  | blocks blocks =>
      have uses : Message.uses ⟨.assistant, .blocks blocks⟩ = blocks.filterMap Block.use? := rfl
      refine .assistant rfl ?_ ?_ ?_
      · rw [calls, get?_toolCalls, isEmpty_toolCalls, uses]
        cases (blocks.filterMap Block.use?).isEmpty <;> rfl
      · have ids : (blocks.filterMap toolCall?).filterMap
            (fun call => (call.get? "id").bind Json.string?) =
            (blocks.filterMap Block.use?).map ToolUse.id := by
          rw [List.filterMap_filterMap, List.map_filterMap]
          exact congrArg (fun read => blocks.filterMap read) (funext callId_toolCall)
        rw [callIds, get?_toolCalls, uses, ← ids]
        split
        · rename_i none
          rw [List.isEmpty_iff.mp none]
          rfl
        · rfl
      · exact saidText_assistantMessage blocks

/-- The messages of turns relay them one by one. -/
theorem relays_turnMessages (turns : List Message) : Relays turns (turns.flatMap turnMessages) := by
  induction turns with
  | nil => exact .nil
  | cons turn rest ih =>
      obtain ⟨role, content⟩ := turn
      cases role with
      | user => exact .cons (relaysTurn_userMessages content) ih
      | assistant => exact .cons (relaysTurn_assistantMessage content) ih

/-! ## Calls and their answers -/

/-- Each turn of the assistant with uses of tools is followed by a turn of the user that holds
exactly one result for each of the identifiers used. -/
def UsesAnswered (turns : List Message) : Prop :=
  ∀ turn after, turn :: after <:+ turns → turn.role = .assistant → turn.uses ≠ [] →
    ∃ next rest, after = next :: rest ∧ next.role = .user ∧
      ∀ use ∈ turn.uses, next.results.countP (fun result => result.toolUseId = use.id) = 1

/-- What follows a message begins with messages of tools, exactly one of which answers each of its
calls. -/
def AnswersFollow (message : Json) (after : List Json) : Prop :=
  ∃ answers rest, after = answers ++ rest ∧ (∀ answer ∈ answers, role? answer = some "tool") ∧
    ∀ id ∈ callIds message,
      (answers.filterMap toolAnswer?).countP (fun result => result.toolUseId = id) = 1

/-- Each message of the assistant with calls is followed by the answers to them. -/
def CallsAnswered (messages : List Json) : Prop :=
  ∀ message after, message :: after <:+ messages →
    role? message = some "assistant" → calls message → AnswersFollow message after

theorem UsesAnswered.tail {turn : Message} {turns : List Message}
    (answered : UsesAnswered (turn :: turns)) : UsesAnswered turns :=
  fun other after suffix => answered other after (suffix.trans (List.suffix_cons turn turns))

theorem CallsAnswered.cons {message : Json} {messages : List Json}
    (first : role? message = some "assistant" → calls message → AnswersFollow message messages)
    (rest : CallsAnswered messages) : CallsAnswered (message :: messages) := by
  intro other after suffix
  rcases List.suffix_cons_iff.mp suffix with here | later
  · cases here
    exact first
  · exact rest other after later

/-- Messages of other roles change nothing. -/
theorem CallsAnswered.append {group messages : List Json}
    (others : ∀ message ∈ group, role? message ≠ some "assistant")
    (rest : CallsAnswered messages) : CallsAnswered (group ++ messages) := by
  induction group with
  | nil => exact rest
  | cons message group ih =>
      rw [List.forall_mem_cons] at others
      exact (ih others.2).cons fun role => absurd role others.1

theorem filterMap_toolAnswer? {answers : List Json} {results : List ToolResult}
    (same : answers.map toolAnswer? = results.map some) :
    answers.filterMap toolAnswer? = results := by
  have read := congrArg (List.filterMap id) same
  simpa only [List.filterMap_map, Function.id_comp, Function.comp_def, id, List.filterMap_some]
    using read

/-- The answers to the calls of a turn are in the messages of the next turn. -/
theorem RelaysTurn.answersFollow {next : Message} {group : List Json}
    (relays : RelaysTurn next group) (isUser : next.role = .user) {message : Json}
    (answered : ∀ id ∈ callIds message,
      next.results.countP (fun result => result.toolUseId = id) = 1) (messages : List Json) :
    AnswersFollow message (group ++ messages) := by
  cases relays with
  | @user content answers spoken tools results =>
      refine ⟨answers, spoken ++ messages, List.append_assoc .., tools, ?_⟩
      rw [filterMap_toolAnswer? results]
      exact answered
  | assistant => cases isUser

theorem Relays.callsAnswered {turns : List Message} {messages : List Json}
    (relays : Relays turns messages) (answered : UsesAnswered turns) : CallsAnswered messages := by
  induction relays with
  | nil =>
      intro message after suffix
      cases List.suffix_nil.mp suffix
  | @cons turn turns group messages first rest ih =>
      have later := ih answered.tail
      cases first with
      | @user content answers spoken tools results users =>
          rw [List.append_assoc]
          refine (later.append ?_).append ?_
          · intro message member
            simp [users message member]
          · intro message member
            simp [tools message member]
      | @assistant content message role calling ids =>
          refine later.cons fun _ called => ?_
          have uses : Message.uses ⟨.assistant, content⟩ ≠ [] := by
            simpa [calling] using called
          obtain ⟨next, others, same, isUser, counted⟩ := answered _ turns List.suffix_rfl rfl uses
          subst same
          cases rest with
          | @cons _ _ group messages following _ =>
              refine following.answersFollow isUser ?_ messages
              rw [ids]
              intro id member
              obtain ⟨use, inside, rfl⟩ := List.mem_map.mp member
              exact counted use inside

/-- The results in the turns of the user, in their order. -/
def userResults (turns : List Message) : List ToolResult :=
  (turns.filter fun turn => turn.role = .user).flatMap Message.results

/-- Only messages of tools give results. -/
theorem filterMap_toolAnswer?_eq_nil {messages : List Json}
    (others : ∀ message ∈ messages, role? message ≠ some "tool") :
    messages.filterMap toolAnswer? = [] := by
  rw [List.filterMap_eq_nil_iff]
  intro message member
  rw [toolAnswer?, if_neg (others message member)]

theorem Relays.toolAnswers {turns : List Message} {messages : List Json}
    (relays : Relays turns messages) : messages.filterMap toolAnswer? = userResults turns := by
  induction relays with
  | nil => rfl
  | @cons turn turns group messages first _ ih =>
      rw [List.filterMap_append, ih]
      cases first with
      | @user content answers spoken tools results users =>
          have silent : spoken.filterMap toolAnswer? = [] := by
            apply filterMap_toolAnswer?_eq_nil
            intro message member
            simp [users message member]
          rw [List.filterMap_append, filterMap_toolAnswer? results, silent, List.append_nil]
          rfl
      | @assistant content message role =>
          have silent : [message].filterMap toolAnswer? = [] := by
            apply filterMap_toolAnswer?_eq_nil
            intro other member
            cases List.mem_singleton.mp member
            simp [role]
          rw [silent]
          rfl

/-- The messages of a request. -/
theorem get?_messages_ofRequest (request : Request) :
    (ofRequest request).get? "messages" =
      some (.array ((request.system.map systemMessage).toList ++
        request.messages.flatMap turnMessages)) := by
  simp [ofRequest, Json.get?, Dictionary.get?_ofList_append, Dictionary.get?_ofList_ite,
    Json.get?_ofList_optionalField, -List.isEmpty_iff]

/-- The messages of a request: a system prompt at most, and then the turns. -/
structure Conveys (request : Request) (messages : List Json) : Prop where
  /-- The turns come in their order, behind the system prompt. -/
  turns : ∃ prompt spoken, messages = prompt ++ spoken ∧
    (∀ message ∈ prompt, role? message = some "system") ∧ Relays request.messages spoken
  /-- Each result in a turn of the user has a message, and there are no others of tools. -/
  results : messages.filterMap toolAnswer? = userResults request.messages
  /-- Each message with calls is followed by the answers. -/
  answered : CallsAnswered messages

theorem conveys_of_usesAnswered {request : Request} (answered : UsesAnswered request.messages) :
    ∃ messages, (ofRequest request).get? "messages" = some (.array messages) ∧
      Conveys request messages := by
  refine ⟨_, get?_messages_ofRequest request, ?_⟩
  have relays := relays_turnMessages request.messages
  have prompt : ∀ message ∈ (request.system.map systemMessage).toList,
      role? message = some "system" := by
    intro message member
    obtain ⟨system, -, rfl⟩ := Option.map_eq_some_iff.mp (Option.mem_toList.mp member)
    rfl
  constructor
  case turns => exact ⟨_, _, rfl, prompt, relays⟩
  case results =>
    rw [List.filterMap_append, relays.toolAnswers, filterMap_toolAnswer?_eq_nil, List.nil_append]
    intro message member
    simp [prompt message member]
  case answered =>
    refine (relays.callsAnswered answered).append fun message member => ?_
    simp [prompt message member]

/-- Two uses whose results come in the other order, between an image and a text.  One has no content,
and the other one an image between two texts. -/
theorem conveys_of_usesAnswered_mixed :
    let question : Message := .user "Where is it?"
    let uses : Message := ⟨.assistant, .blocks [.ofText "Let me look.",
      .toolUse "a" "search" (.string "it"), .toolUse "b" "locate" .null]⟩
    let results : Message := .userBlocks [.image (.url "http://images.test/map"),
      .toolResult "b" none none, .ofText "Here?", .toolResult "a" (some (.blocks
        [.ofText "found", .image (.base64 "image/png" "AAAA"), .ofText "there"])) none]
    let request : Request := .ofMessages "small" [question, uses, results]
    UsesAnswered request.messages ∧
      ∃ messages, (ofRequest request).get? "messages" = some (.array messages) ∧
        Conveys request messages ∧
        messages.filterMap toolAnswer? = [⟨"b", ""⟩, ⟨"a", "found\nthere"⟩] := by
  intro question uses results request
  have answered : UsesAnswered request.messages := by
    intro turn after suffix role used
    rcases List.suffix_cons_iff.mp suffix with first | suffix
    · cases first
      cases role
    · rcases List.suffix_cons_iff.mp suffix with second | suffix
      · cases second
        refine ⟨results, [], rfl, rfl, ?_⟩
        simp only [Message.uses, Message.blocks, uses, Content.toBlocks, List.filterMap_cons,
          Block.ofText, Block.use?, List.filterMap_nil, List.forall_mem_cons]
        exact ⟨rfl, rfl, List.forall_mem_nil _⟩
      · rcases List.suffix_cons_iff.mp suffix with third | none
        · cases third
          cases role
        · cases List.suffix_nil.mp none
  obtain ⟨messages, sent, conveys⟩ := conveys_of_usesAnswered answered
  have texts : userResults request.messages = [⟨"b", ""⟩, ⟨"a", "found\nthere"⟩] := by
    decide +kernel
  exact ⟨answered, messages, sent, conveys, conveys.results.trans texts⟩

end Wire.ChatCompletions

end ChatGateway
