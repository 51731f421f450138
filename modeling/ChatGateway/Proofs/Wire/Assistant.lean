import ChatGateway.Proofs.Json.Fields
import ChatGateway.Proofs.Message.Tools
import ChatGateway.Proofs.Stage.Repair

/-!
# Turns of the assistant, there and back

A turn of the assistant becomes a message of the chat completions protocol, with one text and a list
of calls whose arguments are texts.  The message of a turn with at most one text before its uses of
tools is read as the blocks of that turn, in whatever answer it is put.
-/

namespace ChatGateway.Wire.ChatCompletions

open Json Json.Source

/-! ## The message of a turn -/

/-- The blocks of a turn that says one text at most before it uses tools. -/
def turnBlocks (text : Option String) (uses : List ToolUse) : List Block :=
  (text.map Block.ofText).toList ++ uses.map ToolUse.block

/-- The call of a use. -/
def ToolCall.ofUse (use : ToolUse) : ToolCall :=
  ⟨none, some use.id, some use.name, some use.input.render⟩

/-- The value that describes the call of a use. -/
def callValue (use : ToolUse) : Json :=
  .object
    [("function", .object [("arguments", .string use.input.render), ("name", .string use.name)]),
      ("id", .string use.id), ("type", .string "function")]

theorem filterMap_text?_turnBlocks (text : Option String) (uses : List ToolUse) :
    (turnBlocks text uses).filterMap Block.text? = text.toList := by
  have none : (uses.map ToolUse.block).filterMap Block.text? = [] := by
    rw [List.filterMap_map, List.filterMap_eq_nil_iff]
    exact fun _ _ => rfl
  rw [turnBlocks, List.filterMap_append, none, List.append_nil]
  cases text <;> rfl

theorem filterMap_toolCall?_turnBlocks (text : Option String) (uses : List ToolUse) :
    (turnBlocks text uses).filterMap toolCall? = uses.map callValue := by
  have all : (uses.map ToolUse.block).filterMap toolCall? = uses.map callValue := by
    rw [List.filterMap_map, ← List.filterMap_eq_map]
    rfl
  rw [turnBlocks, List.filterMap_append, all]
  cases text <;> rfl

theorem decode?_callValue (use : ToolUse) :
    ToolCall.decode? (callValue use) = some (.ofUse use) := rfl

theorem decodeList_map_callValue (uses : List ToolUse) :
    decodeList ToolCall.decode? (.array (uses.map callValue)) = some (uses.map .ofUse) := by
  rw [decodeList]
  induction uses with
  | nil => rfl
  | cons use rest ih =>
      rw [List.map_cons, List.mapM_cons, decode?_callValue, ih]
      rfl

/-- A turn without a text is written with null, and one without uses without calls. -/
theorem assistantMessage_turnBlocks {text : Option String} (filled : text ≠ some "")
    (uses : List ToolUse) :
    assistantMessage (.blocks (turnBlocks text uses)) =
      .object ([("content", .ofOption .string text), ("role", .string "assistant")] ++
        (if uses.isEmpty then [] else [("tool_calls", .array (uses.map callValue))])) := by
  have content : (if (String.join text.toList).isEmpty then Json.null
      else .string (String.join text.toList)) = .ofOption .string text := by
    cases text with
    | none => rfl
    | some words =>
        have some : words ≠ "" := fun same => filled (congrArg Option.some same)
        simp [some, ofOption]
  simp only [assistantMessage, filterMap_text?_turnBlocks, filterMap_toolCall?_turnBlocks,
    content, List.isEmpty_map]

/-- The message of a turn is read as its text and its calls. -/
theorem decode?_assistantMessage {text : Option String} (filled : text ≠ some "")
    (uses : List ToolUse) :
    Saying.decode? (assistantMessage (.blocks (turnBlocks text uses))) =
      some ⟨text, none, uses.map .ofUse⟩ := by
  have content : nullable string? (.ofOption .string text) = some text := by
    cases text <;> rfl
  have calls : nullable (decodeList ToolCall.decode?) (.array (uses.map callValue)) =
      some (some (uses.map .ofUse)) :=
    congrArg (Option.map some) (decodeList_map_callValue uses)
  rw [assistantMessage_turnBlocks filled]
  cases uses with
  | nil =>
      simp [Saying.decode?, source?, Source.optional, withDefault, find?, Dictionary.get?_cons,
        content]
  | cons use rest =>
      simp only [List.isEmpty_cons, Bool.false_eq_true, if_false, List.cons_append, List.nil_append]
      simp [Saying.decode?, source?, Source.optional, withDefault, find?, Dictionary.get?_cons,
        content, calls, -List.map_cons]

/-! ## The message in an answer -/

/-- An answer with another message in its first choice. -/
def withMessage (message body : Json) : Json :=
  match (body.get? "choices").bind Json.array? with
  | some (choice :: others) =>
      body.set "choices" (.array (choice.set "message" message :: others))
  | _ => body

/-- Whether the first choice of an answer holds a message under its name. -/
def HoldsMessage (body : Json) : Prop :=
  ∃ choice others, body.get? "choices" = some (.array (choice :: others)) ∧
    (choice.get? "message").isSome

theorem decodeMessageChoice?_set {choice : Json} {before : Choice}
    (decoded : decodeMessageChoice? choice = some before) (named : (choice.get? "message").isSome)
    {message : Json} {saying : Saying} (read : Saying.decode? message = some saying) :
    decodeMessageChoice? (choice.set "message" message) = some { before with saying } := by
  cases choice with
  | object fields =>
      simp only [decodeMessageChoice?, source?, Option.bind_eq_bind, Option.bind_some,
        Option.bind_eq_some_iff, Option.some.injEq] at decoded
      obtain ⟨old, -, reason, given, rfl⟩ := decoded
      have own : (Source.named (Dictionary.insert "message" message fields)).required "message"
          Saying.decode? = some saying :=
        Source.required_of_find? (find?_insert_self _ _ _) read
      have same : (Source.named (Dictionary.insert "message" message fields)).optional
          "finish_reason" string? = some reason :=
        (optional_insert_of_ne (by decide) _ _ _).trans given
      simp only [Json.set, decodeMessageChoice?, source?, Option.bind_eq_bind, Option.bind_some,
        own, same]
  | null | bool | number | string | array => cases named

theorem decodeResponse?_withMessage {body : Json} {whole : Reply}
    (decoded : decodeResponse? body = some whole) (holds : HoldsMessage body) {message : Json}
    {saying : Saying} (read : Saying.decode? message = some saying) :
    ∃ choice others, whole.choices = choice :: others ∧
      decodeResponse? (withMessage message body) =
        some { whole with choices := { choice with saying } :: others } := by
  obtain ⟨first, rest, chosen, named⟩ := holds
  cases body with
  | object fields =>
      simp only [decodeResponse?, source?, Option.bind_eq_bind, Option.bind_some,
        Option.bind_eq_some_iff, Option.some.injEq] at decoded
      obtain ⟨id, hasId, model, hasModel, choices, listed, usage, hasUsage, rfl⟩ := decoded
      have found : (Source.named fields).find? "choices" = some (.array (first :: rest)) := chosen
      rw [required, found, Option.bind_some, decodeList, List.mapM_cons] at listed
      simp only [Option.bind_eq_bind, Option.bind_eq_some_iff, Option.pure_def,
        Option.some.injEq] at listed
      obtain ⟨choice, one, others, more, rfl⟩ := listed
      let after := Dictionary.insert "choices"
        (.array (first.set "message" message :: rest)) fields
      have put : withMessage message (.object fields) = .object after := by
        rw [withMessage, chosen]
        rfl
      have list : (Source.named after).required "choices" (decodeList decodeMessageChoice?) =
          some ({ choice with saying } :: others) := by
        refine Source.required_of_find? (find?_insert_self _ _ _) ?_
        rw [decodeList, List.mapM_cons, decodeMessageChoice?_set one named read, more]
        rfl
      refine ⟨choice, others, rfl, ?_⟩
      rw [put]
      simp only [decodeResponse?, source?, Option.bind_eq_bind, Option.bind_some, list, after,
        optional_insert_of_ne (by decide : "choices" ≠ "id"),
        optional_insert_of_ne (by decide : "choices" ≠ "model"),
        optional_insert_of_ne (by decide : "choices" ≠ "usage"), hasId, hasModel, hasUsage]
  | null | bool | number | string | array => cases chosen

theorem toolBlock_ofUse {use : ToolUse} (readable : use.input.IsReadable) (position : Nat) :
    toolBlock (.ofUse use) position = use.block := by
  have same := ToolRepair.readArguments_of_parse? readable.parse?_render
  rw [toolBlock, ToolCall.ofUse, ToolUse.block]
  simp only [Option.getD_some, same]

/-- The blocks of a turn are read from its message. -/
theorem blocks_ofUse {text : Option String} (filled : text ≠ some "") {uses : List ToolUse}
    (readable : ∀ use ∈ uses, use.input.IsReadable) :
    blocks ⟨text, none, uses.map .ofUse⟩ = turnBlocks text uses := by
  have calls : (uses.map ToolCall.ofUse).mapIdx (fun position call => toolBlock call position) =
      uses.map ToolUse.block := by
    apply List.ext_getElem
    · rw [List.length_mapIdx, List.length_map, List.length_map]
    · intro position _ inside
      have member := List.getElem_mem (List.length_map ToolUse.block ▸ inside)
      rw [List.getElem_mapIdx, List.getElem_map, List.getElem_map]
      exact toolBlock_ofUse (readable _ member) position
  have content : textBlock? Block.ofText text = (text.map Block.ofText).toList := by
    cases text with
    | none => rfl
    | some words =>
        have some : words ≠ "" := fun same => filled (congrArg Option.some same)
        simp [textBlock?, some]
  simp only [blocks, calls, content, turnBlocks]
  rfl

/-- An answer with the message of a turn is read as that turn, and is the same otherwise.  The turn
says one text at most, which is not empty, before it uses tools. -/
theorem toResponse_withMessage {text : Option String} (filled : text ≠ some "")
    {uses : List ToolUse} (readable : ∀ use ∈ uses, use.input.IsReadable) {body : Json}
    {whole : Reply} (decoded : decodeResponse? body = some whole) (holds : HoldsMessage body) :
    let turn := turnBlocks text uses
    ∃ before after, toResponse whole = .ok before ∧
      decodeResponse? (withMessage (assistantMessage (.blocks turn)) body) = some after ∧
      toResponse after = .ok { before with content := turn } := by
  intro turn
  obtain ⟨choice, others, chosen, read⟩ :=
    decodeResponse?_withMessage decoded holds (decode?_assistantMessage filled uses)
  have before : toResponse whole = .ok
      { id := whole.id.getD "msg_openai"
        kind := "message"
        role := .assistant
        model := whole.model.getD ""
        content := blocks choice.saying
        stopReason := some (stopReason (choice.finishReason.getD "stop"))
        stopSequence := none
        usage := whole.usage.getD .zero } := by
    rw [toResponse, chosen]
  refine ⟨_, _, before, read, ?_⟩
  simp only [toResponse, blocks_ofUse filled readable, turn]

/-- A text and two uses, one with null and one with a string that looks like JSON. -/
theorem toResponse_withMessage_quoted :
    let uses : List ToolUse := [⟨"a", "stop", .null⟩, ⟨"b", "say", .string "[1]"⟩]
    let body : Json := .object
      [("choices", .array [.object [("finish_reason", .string "tool_calls"),
        ("message", .object [("content", .string "Hi")])]]), ("id", .string "r")]
    let turn := turnBlocks (some "Bye") uses
    (some "Bye" : Option String) ≠ some "" ∧ (∀ use ∈ uses, use.input.IsReadable) ∧
      HoldsMessage body ∧
      ∃ (before : Response) (after : Reply),
        decodeResponse? (withMessage (assistantMessage (.blocks turn)) body) = some after ∧
        toResponse after = .ok { before with content := turn } := by
  intro uses body turn
  have filled : (some "Bye" : Option String) ≠ some "" := by decide
  have readable : ∀ use ∈ uses, use.input.IsReadable := by
    simp only [uses, List.forall_mem_cons, List.not_mem_nil, false_implies, implies_true, and_true]
    exact ⟨isReadable_null, .string _, .string _ _⟩
  have holds : HoldsMessage body := ⟨_, [], rfl, rfl⟩
  have decoded : decodeResponse? body = some _ := rfl
  obtain ⟨before, after, -, read, made⟩ := toResponse_withMessage filled readable decoded holds
  exact ⟨filled, readable, holds, before, after, read, made⟩

end ChatGateway.Wire.ChatCompletions
