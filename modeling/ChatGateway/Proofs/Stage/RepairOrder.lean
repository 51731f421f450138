import ChatGateway.Proofs.Message.ReadBack
import ChatGateway.Proofs.Stage.Repair
import ChatGateway.Proofs.Wire.Written
import ChatGateway.Stage.Chain

/-!
# The order of repair and reader

A stage that is listed behind the one of the chat completions protocol changes an answer before
that reads it, and one that is listed in front of it changes what was read.  So the place of the
repair in a chain decides whether it changes the texts of arguments or the inputs of tools.  The
same answer comes of both, unless arguments are JSON that holds a text, or stand where the repair
does not look.
-/

namespace ChatGateway.ToolRepair

open Json Wire.ChatCompletions

/-! ## Repairing after reading -/

/-- A block with its input repaired if it uses a tool. -/
def mendBlock : Block → Block
  | .toolUse id name input => .toolUse id name (repairInput input)
  | block => block

theorem update_normalize (name : String) (change : Json → Json) (fields : List (String × Json)) :
    update name change (Json.object fields).normalize =
      .object (Dictionary.ofList (changed name change (normalizeFields fields))) := by
  rw [Json.normalize, update_object, changed, changed, Dictionary.ofList_mapValues]

theorem isNormal_readArguments (text : String) : (readArguments text).IsNormal := by
  rw [readArguments]
  split
  · exact isReadable_emptyObject.normal
  · cases parsed : parse? text with
    | none => exact .string text
    | some value => exact isNormal_of_parse? parsed

theorem isNormal_repairInput {input : Json} (normal : input.IsNormal) :
    (repairInput input).IsNormal := by
  cases input with
  | string text =>
      rw [repairInput]
      cases repaired : repair? text with
      | none => exact .string text
      | some value => exact (isReadable_of_repair? repaired).normal
  | null | bool | number | array | object => exact normal

/-- A block that an answer of the protocol has. -/
inductive IsRead : Block → Prop where
  | thinking (thought : String) : IsRead (.thinking thought none)
  | text (words : String) : IsRead (.ofText words)
  | toolUse (id name : String) {input : Json} (normal : input.IsNormal) :
      IsRead (.toolUse id name input)

theorem isRead_of_blocks (saying : Saying) : ∀ block ∈ blocks saying, IsRead block := by
  intro block member
  simp only [blocks, textBlock?, List.mem_append, Option.mem_toList, Option.map_eq_some_iff,
    List.mem_mapIdx] at member
  rcases member with (⟨thought, -, rfl⟩ | ⟨words, -, rfl⟩) | ⟨position, _, rfl⟩
  · exact .thinking thought
  · exact .text words
  · exact .toolUse _ _ (isNormal_readArguments _)

theorem IsRead.isRegular {block : Block} (read : IsRead block) : block.IsRegular := by
  cases read with
  | thinking thought => exact .thinking thought none
  | text words => exact .text words (by simp [IsGiven])
  | toolUse id name normal => exact .toolUse id name normal

theorem IsRead.mendBlock {block : Block} (read : IsRead block) : IsRead (mendBlock block) := by
  cases read with
  | thinking thought => exact .thinking thought
  | text words => exact .text words
  | toolUse id name normal => exact .toolUse id name (isNormal_repairInput normal)

/-- The kind of a written block is its tag. -/
theorem repairBlock_of_written {kind : String} {fields : List (String × Json)}
    (untagged : written "type" fields = none) :
    repairBlock (Json.object (("type", .string kind) :: fields)).normalize =
      if kind = "tool_use" then
        update "input" repairInput (Json.object (("type", .string kind) :: fields)).normalize
      else (Json.object (("type", .string kind) :: fields)).normalize := by
  have tag : (Json.object (("type", .string kind) :: fields)).normalize.get? "type" =
      some (.string kind) := by
    change written "type" (("type", .string kind) :: fields) = _
    rw [written_cons, untagged]
    rfl
  rw [repairBlock, tag, Option.bind_some, string?]
  simp only [Option.some.injEq]

theorem IsRead.repairBlock_encode {block : Block} (read : IsRead block) :
    repairBlock block.encode.normalize = (ToolRepair.mendBlock block).encode.normalize := by
  cases read with
  | thinking thought =>
      rw [show ToolRepair.mendBlock (.thinking thought none) = .thinking thought none from rfl,
        Block.encode]
      exact repairBlock_of_written (by simp)
  | text words =>
      rw [show ToolRepair.mendBlock (.ofText words) = .ofText words from rfl, Block.ofText,
        Block.encode]
      exact repairBlock_of_written (by simp)
  | @toolUse id name input normal =>
      rw [ToolRepair.mendBlock, Block.encode, Block.encode, repairBlock_of_written (by simp),
        if_pos rfl, update_normalize]
      simp [normalizeFields, changed, Dictionary.mapValues, Json.normalize, normal.normalize,
        (isNormal_repairInput normal).normalize]

/-- An answer with its inputs repaired. -/
def mendResponse (response : Response) : Response :=
  { response with content := response.content.map mendBlock }

theorem repairResponse_encode {response : Response}
    (read : ∀ block ∈ response.content, IsRead block) :
    repairResponse response.encode.normalize = (mendResponse response).encode.normalize := by
  have listed : (response.encode.normalize.get? "content").bind array? =
      some (normalizeItems (Block.encodeAll response.content)) := by
    rw [Response.encode]
    change (written "content" _).bind array? = _
    simp [Json.normalize, array?]
  have items : (normalizeItems (Block.encodeAll response.content)).map repairBlock =
      normalizeItems (Block.encodeAll (response.content.map mendBlock)) := by
    rw [normalizeItems_eq_map, normalizeItems_eq_map, Block.encodeAll_eq_map,
      Block.encodeAll_eq_map, List.map_map, List.map_map, List.map_map, List.map_map]
    exact List.map_congr_left fun block member => (read block member).repairBlock_encode
  rw [repairResponse, listed, Option.isSome_some, if_pos rfl, Response.encode, update_normalize,
    Response.encode, Json.normalize, mendResponse]
  cases response.stopSequence <;>
    simp [normalizeFields_eq_map, changed, Dictionary.mapValues, Json.normalize, updateItems, items,
      optionalField]

/-- An answer that was read from the protocol. -/
structure IsReadAnswer (response : Response) : Prop where
  content : ∀ block ∈ response.content, IsRead block
  usage : response.usage.Fits

theorem IsReadAnswer.decode?_encode {response : Response} (read : IsReadAnswer response) :
    Response.decode? response.encode.normalize = some response :=
  Response.decode?_encode ⟨fun block member => (read.content block member).isRegular, read.usage⟩

theorem IsReadAnswer.mendResponse {response : Response} (read : IsReadAnswer response) :
    IsReadAnswer (mendResponse response) where
  content block member := by
    obtain ⟨source, there, rfl⟩ := List.mem_map.mp member
    exact (read.content source there).mendBlock
  usage := read.usage

/-! ## Both ways -/

/-- The answer that a reply is read as. -/
def answer? (reply : Reply) : Option Response := (toResponse reply).toOption

theorem fits_of_decodeResponse? {body : Json} {reply : Reply}
    (decoded : decodeResponse? body = some reply) : ∀ usage ∈ reply.usage, usage.Fits := by
  simp only [decodeResponse?, Option.bind_eq_bind, Option.bind_eq_some_iff] at decoded
  obtain ⟨source, -, _, -, _, -, _, -, usage, found, equal⟩ := decoded
  cases equal
  exact Json.Source.of_optional Usage.Fits (fun _ _ => fits_of_decodeUsage?) found

theorem isReadAnswer_of_answer? {reply : Reply} (fits : ∀ usage ∈ reply.usage, usage.Fits)
    {response : Response} (made : answer? reply = some response) : IsReadAnswer response := by
  rw [answer?, toResponse] at made
  cases listed : reply.choices with
  | nil =>
      rw [listed] at made
      cases made
  | cons choice others =>
      rw [listed] at made
      cases made
      refine ⟨isRead_of_blocks choice.saying, ?_⟩
      cases counted : reply.usage with
      | none => exact Usage.fits_zero
      | some usage => exact fits usage counted

theorem toOption_readResponse (body : Json) :
    (readResponse body).toOption =
      (decodeResponse? body).bind fun reply =>
        (answer? reply).map fun response => response.encode.normalize := by
  rw [readResponse]
  cases decodeResponse? body with
  | none => rfl
  | some reply =>
      change (Except.map _ (toResponse reply)).toOption = (toResponse reply).toOption.map _
      cases toResponse reply <;> rfl

theorem toOption_applyResponse (chain : Chain) (body : Json) (context : Context) (supply : Supply) :
    (chain.applyResponse body context supply).1.toOption =
      (Chain.bodyThrough body context supply chain.stages).1.toOption.bind Response.decode? := by
  rw [Chain.applyResponse]
  split
  · rename_i failed
    rw [failed]
    rfl
  · rename_i passed
    rw [passed]
    change _ = Response.decode? _
    split
    · rename_i decoded
      exact decoded.symm
    · rename_i refused
      exact refused.symm

/-- A repair that is listed behind the protocol comes before its reader. -/
theorem applyResponse_repairLast {body : Json} (bare : (body.get? "content").bind array? = none)
    (context : Context) (supply : Supply) :
    ((Chain.mk [.openai, .enhancetool]).applyResponse body context supply).1.toOption =
      (decodeResponse? body).bind fun reply => answer? (mendReply (some body) reply) := by
  have passed : (Chain.bodyThrough body context supply [.openai, .enhancetool]).1.toOption =
      (readResponse (repairResponse body)).toOption := by
    simp only [Chain.bodyThrough, Stage.changeResponse]
    cases readResponse (repairResponse body) <;> rfl
  rw [toOption_applyResponse, passed, toOption_readResponse, decodeResponse?_repairResponse bare]
  cases decoded : decodeResponse? body with
  | none => rfl
  | some reply =>
      have fits : ∀ usage ∈ reply.usage, usage.Fits := fits_of_decodeResponse? decoded
      rw [Option.map_some, Option.bind_some, Option.bind_some]
      cases made : answer? (mendReply (some body) reply) with
      | none => rfl
      | some response =>
          have read : IsReadAnswer response := isReadAnswer_of_answer? (by exact fits) made
          exact read.decode?_encode

/-- A repair that is listed in front of the protocol comes after its reader. -/
theorem applyResponse_repairFirst (body : Json) (context : Context) (supply : Supply) :
    ((Chain.mk [.enhancetool, .openai]).applyResponse body context supply).1.toOption =
      (decodeResponse? body).bind fun reply => (answer? reply).map mendResponse := by
  have passed : (Chain.bodyThrough body context supply [.enhancetool, .openai]).1.toOption =
      (readResponse body).toOption.map repairResponse := by
    simp only [Chain.bodyThrough, Stage.changeResponse]
    cases readResponse body <;> rfl
  rw [toOption_applyResponse, passed, toOption_readResponse]
  cases decoded : decodeResponse? body with
  | none => rfl
  | some reply =>
      rw [Option.bind_some, Option.bind_some]
      cases made : answer? reply with
      | none => rfl
      | some response =>
          have read := isReadAnswer_of_answer? (fits_of_decodeResponse? decoded) made
          rw [Option.map_some, Option.map_some, Option.bind_some,
            repairResponse_encode read.content]
          exact read.mendResponse.decode?_encode

/-- A call becomes the same block both ways if its arguments allow it. -/
theorem toolBlock_mendCall_iff (value : Option Json) (call : ToolCall) (position : Nat) :
    toolBlock (mendCall value call) position = mendBlock (toolBlock call position) ↔
      MeetsRepair (shownArguments? value).isSome (call.arguments.getD "") := by
  rw [← readArguments_eq_repairInput_iff, toolBlock, toolBlock, mendBlock, Block.toolUse.injEq]
  simp only [mendCall, true_and]
  cases call.arguments with
  | some text => rfl
  | none =>
      have blank : readArguments "" = .object [] := readArguments_of_isBlankText rfl
      have mended : readArguments (mendText "") = .object [] := by
        rw [readArguments_mendText (parse?_of_isBlankText rfl), repair?_of_isBlankText rfl]
        rfl
      cases (shownArguments? value).isSome with
      | true => simp [blank, mended, repairInput]
      | false => rfl

/-- The first choice becomes the same blocks both ways if each of its calls does. -/
theorem blocks_mendSaying_iff (value : Option Json) (saying : Saying) :
    blocks (mendSaying value saying) = (blocks saying).map mendBlock ↔
      ∀ position call, saying.calls[position]? = some call →
        MeetsRepair
          (shownArguments? ((value.bind (get? "tool_calls")).bind (item? position))).isSome
          (call.arguments.getD "") := by
  have calls :
      ((mendSaying value saying).calls.mapIdx fun position call => toolBlock call position) =
        (saying.calls.mapIdx fun position call => toolBlock call position).map mendBlock ↔
      ∀ position call, saying.calls[position]? = some call →
        let written := (value.bind (get? "tool_calls")).bind (item? position)
        toolBlock (mendCall written call) position = mendBlock (toolBlock call position) := by
    rw [List.ext_getElem?_iff]
    refine forall_congr' fun position => ?_
    simp only [mendSaying, List.getElem?_mapIdx, List.getElem?_map]
    cases saying.calls[position]? <;> simp
  have kept (make : String → Block) (plain : ∀ text, mendBlock (make text) = make text)
      (text : Option String) : (textBlock? make text).map mendBlock = textBlock? make text := by
    rw [textBlock?]
    cases text.filter fun text => !text.isEmpty with
    | none => rfl
    | some text => exact congrArg (fun block => [block]) (plain text)
  simp only [toolBlock_mendCall_iff] at calls
  rw [blocks, blocks, List.map_append, List.map_append, kept _ (fun _ => rfl),
    kept _ (fun _ => rfl)]
  exact (List.append_right_inj _).trans calls

/-- The call at a position of the first choice, as the body has it. -/
def writtenCall? (body : Json) (position : Nat) : Option Json :=
  ((((body.get? "choices").bind (item? 0)).bind (get? "message")).bind
    (get? "tool_calls")).bind (item? position)

/-- The same answer is read both ways if each call of the first choice becomes the same block. -/
theorem answer?_mendReply_eq_iff (body : Json) (reply : Reply) :
    answer? (mendReply (some body) reply) = (answer? reply).map mendResponse ↔
      ∀ choice others, reply.choices = choice :: others →
        ∀ position call, choice.saying.calls[position]? = some call →
          MeetsRepair (shownArguments? (writtenCall? body position)).isSome
            (call.arguments.getD "") := by
  cases listed : reply.choices with
  | nil =>
      refine iff_of_true ?_ nofun
      simp [answer?, toResponse, mendReply, listed, Except.toOption]
  | cons choice others =>
      let message := ((body.get? "choices").bind (item? 0)).bind (get? "message")
      have same : answer? (mendReply (some body) reply) = (answer? reply).map mendResponse ↔
          blocks (mendSaying message choice.saying) = (blocks choice.saying).map mendBlock := by
        simp [answer?, toResponse, mendReply, listed, mendResponse, Except.toOption, mendChoice,
          message]
      rw [same, blocks_mendSaying_iff]
      constructor
      · rintro meets _ _ ⟨⟩
        exact meets
      · intro meets
        exact meets choice others rfl

/-- A repair makes the same of an answer whether it is listed in front of the protocol or behind it,
if and only if it makes the same of each call of the first choice. -/
theorem applyResponse_eq_iff {body : Json} (bare : (body.get? "content").bind array? = none)
    (context : Context) (supply : Supply) :
    ((Chain.mk [.openai, .enhancetool]).applyResponse body context supply).1.toOption =
        ((Chain.mk [.enhancetool, .openai]).applyResponse body context supply).1.toOption ↔
      ∀ reply choice others, decodeResponse? body = some reply → reply.choices = choice :: others →
        ∀ position call, choice.saying.calls[position]? = some call →
          MeetsRepair (shownArguments? (writtenCall? body position)).isSome
            (call.arguments.getD "") := by
  rw [applyResponse_repairLast bare, applyResponse_repairFirst]
  cases decodeResponse? body with
  | none => simp
  | some reply =>
      rw [Option.bind_some, Option.bind_some, answer?_mendReply_eq_iff]
      constructor
      · rintro meets _ choice others ⟨⟩
        exact meets choice others
      · intro meets choice others
        exact meets reply choice others rfl

/-- The body of an answer that calls a function with these arguments. -/
def bodyOfArguments (arguments : String) : Json :=
  .object [("choices", .array [.object [("message", .object [("tool_calls", .array [.object
    [("function", .object [("arguments", .string arguments), ("name", .string "f")]),
      ("id", .string "a")]])])]])]

/-- A comma too many is repaired both ways. -/
theorem applyResponse_eq_iff_comma :
    let body := bodyOfArguments "[1,]"
    let context : Context := ⟨⟨1⟩, "main", "small", false, []⟩
    ((Chain.mk [.openai, .enhancetool]).applyResponse body context ⟨0⟩).1.toOption =
      ((Chain.mk [.enhancetool, .openai]).applyResponse body context ⟨0⟩).1.toOption := by
  intro body context
  have meets : MeetsRepair true "[1,]" := by
    have unparsed : parse? "[1,]" = none := by rfl
    exact ⟨by simp [unparsed], nofun⟩
  have bare : (body.get? "content").bind array? = none := rfl
  refine (applyResponse_eq_iff bare context ⟨0⟩).mpr ?_
  intro reply choice others decoded listed position call there
  cases decoded
  cases listed
  cases position with
  | zero =>
      cases there
      exact meets
  | succ position => cases there

/-- Arguments that are a text inside JSON are repaired only if the repair comes after the reader. -/
theorem applyResponse_differs_text :
    let body := bodyOfArguments "\"[1]\""
    let context : Context := ⟨⟨1⟩, "main", "small", false, []⟩
    let content (chain : Chain) : Option (List Block) :=
      (chain.applyResponse body context ⟨0⟩).1.toOption.map Response.content
    content ⟨[.openai, .enhancetool]⟩ = some [.toolUse "a" "f" (.string "[1]")] ∧
      content ⟨[.enhancetool, .openai]⟩ = some [.toolUse "a" "f" (.array [.ofNat 1])] := by
  intro body context content
  have quoted : parse? "\"[1]\"" = some (.string "[1]") := by rfl
  have repaired : repair? "[1]" = some (.array [.ofNat 1]) := by rfl
  have bare : (body.get? "content").bind array? = none := rfl
  constructor
  · have read : content ⟨[.openai, .enhancetool]⟩ =
        some [.toolUse "a" "f" (readArguments (mendText "\"[1]\""))] :=
      congrArg (Option.map Response.content) (applyResponse_repairLast bare context ⟨0⟩)
    rw [read, mendText, quoted, Option.isSome_some, if_pos rfl, readArguments_of_parse? quoted]
  · have read : content ⟨[.enhancetool, .openai]⟩ =
        some [.toolUse "a" "f" (repairInput (readArguments "\"[1]\""))] :=
      congrArg (Option.map Response.content) (applyResponse_repairFirst body context ⟨0⟩)
    rw [read, readArguments_of_parse? quoted, repairInput, repaired, Option.getD_some]

end ChatGateway.ToolRepair
