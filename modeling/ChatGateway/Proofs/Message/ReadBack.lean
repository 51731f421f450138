import ChatGateway.Proofs.Message.Regular
import ChatGateway.Stage.Context

/-!
# Reading back what was written

What is written for a regular block, request, answer or event is read as the same one again.  An
event about a block whose index has more than 64 bits is not read at all.
-/

namespace ChatGateway

theorem ImageSource.decode?_encode (source : ImageSource) :
    ImageSource.decode? source.encode.normalize = some source := by
  cases source with
  | base64 mediaType data =>
      obtain ⟨body, fields, tagged, opened, found⟩ :=
        Json.exists_tagged (encode.eq_1 mediaType data) (by simp)
      have first : fields.required "media_type" Json.string? = some mediaType :=
        Json.Source.required_string (by simp [found])
      have second : fields.required "data" Json.string? = some data :=
        Json.Source.required_string (by simp [found])
      simp [decode?, tagged, Json.tagName?, kinds, opened, first, second]
  | url address =>
      obtain ⟨body, fields, tagged, opened, found⟩ :=
        Json.exists_tagged (encode.eq_2 address) (by simp)
      have only : fields.required "url" Json.string? = some address :=
        Json.Source.required_string (by simp [found])
      simp [decode?, tagged, Json.tagName?, kinds, opened, only]

theorem Json.IsNormal.withDefault_of_written {value : Json} (normal : value.IsNormal)
    {source : Json.Source} {name : String} (found : source.find? name = some value.normalize) :
    source.withDefault name .null some = some value := by
  rw [Json.Source.withDefault, found, normal.normalize]

theorem Json.IsGiven.returns {value : Option Json} (given : Json.IsGiven value) :
    ∀ json ∈ value, Json.Returns id some json := by
  intro json member
  obtain ⟨normal, notNull⟩ := given json member
  rw [← normal.normalize] at notNull
  exact ⟨notNull, congrArg some normal.normalize⟩

namespace Block

theorem encodeAll_eq_map (blocks : List Block) : encodeAll blocks = blocks.map encode := by
  induction blocks with
  | nil => rfl
  | cons block rest ih => rw [encodeAll, ih, List.map_cons]

/-- A list comes back if each of its blocks does. -/
theorem decodeAll_encodeAll {blocks : List Block}
    (each : ∀ block ∈ blocks, decode block.encode.normalize = block) :
    decodeAll (Json.normalizeItems (encodeAll blocks)) = blocks := by
  rw [decodeAll_eq_map, Json.normalizeItems_eq_map, encodeAll_eq_map, List.map_map, List.map_map]
  exact (List.map_congr_left each).trans (List.map_id' blocks)

theorem decodeNested_encodeContent {content : Content}
    (each : ∀ blocks, content = .blocks blocks → ∀ block ∈ blocks,
      decode block.encode.normalize = block) :
    decodeNested (encodeContent content).normalize = some (some content) := by
  cases content with
  | text words => rfl
  | blocks blocks =>
      rw [encodeContent, Json.normalize, decodeNested, decodeAll_encodeAll (each blocks rfl)]

/-- A tagged block is read from its tag and its other fields. -/
theorem decode_of_written {block : Block} {kind : String} {fields : List (String × Json)}
    (object : block.encode = .object (("type", .string kind) :: fields))
    (known : kinds.contains kind) (untagged : Json.written "type" fields = none)
    (made : ∀ (body : Json) (source : Json.Source),
      (∀ names, Json.source? names body = some source) →
      (∀ name, name ≠ "type" → source.find? name = Json.written name fields) →
      ∀ nested, nested = (match Json.written "content" fields with
        | some value => decodeNested value
        | none => some none) →
      ofBody? kind body nested = some block) :
    decode block.encode.normalize = block := by
  obtain ⟨body, source, tagged, opened, found⟩ := Json.exists_tagged object untagged
  rw [object] at tagged ⊢
  have content : Json.written "content" (("type", .string kind) :: fields) =
      Json.written "content" fields := by simp
  have nested := decodeNestedField_eq
    (Dictionary.ofList (Json.normalizeFields (("type", .string kind) :: fields)))
  rw [← Json.written, content] at nested
  have whole := made body source opened found _ nested
  rw [Json.normalize] at tagged ⊢
  simp only [decode, ofValue, tagged, Json.tagName?, known, if_true, whole, bind, Option.bind_some,
    Option.getD_some]

theorem decode_encode {block : Block} (regular : block.IsRegular) :
    decode block.encode.normalize = block := by
  induction regular with
  | @text words cacheControl mark =>
      refine decode_of_written (encode.eq_1 words cacheControl) rfl (by simp) ?_
      intro body source opened found nested _
      have first : source.required "text" Json.string? = some words :=
        Json.Source.required_string (by simp [found])
      have second : source.optional "cache_control" some = some cacheControl :=
        Json.Source.optional_of_find? (by simp [found]) mark.returns
      simp only [ofBody?, opened, first, second, bind, Option.bind_some]
  | image image =>
      refine decode_of_written (encode.eq_2 image) rfl (by simp) ?_
      intro body source opened found nested _
      have only : source.required "source" ImageSource.decode? = some image :=
        Json.Source.required_of_find? (by simp [found]) (ImageSource.decode?_encode image)
      simp only [ofBody?, opened, only, bind, Option.bind_some]
  | @toolUse id name input normal =>
      refine decode_of_written (encode.eq_3 id name input) rfl (by simp) ?_
      intro body source opened found nested _
      have first : source.required "id" Json.string? = some id :=
        Json.Source.required_string (by simp [found])
      have second : source.required "name" Json.string? = some name :=
        Json.Source.required_string (by simp [found])
      have third : source.withDefault "input" .null some = some input :=
        normal.withDefault_of_written (by simp [found])
      simp only [ofBody?, opened, first, second, third, bind, Option.bind_some]
  | @toolResult toolUseId content isError _ ih =>
      have object : (toolResult toolUseId content isError).encode =
          .object (("type", .string "tool_result") :: ([("tool_use_id", .string toolUseId)] ++
            optionalField "content" encodeContent content ++
            optionalField "is_error" .bool isError)) := by
        cases content with
        | none => rw [encode]; rfl
        | some content => rw [encode]; rfl
      refine decode_of_written object rfl (by simp) ?_
      intro body source opened found nested inside
      have first : source.required "tool_use_id" Json.string? = some toolUseId :=
        Json.Source.required_string (by simp [found])
      have second : source.optional "is_error" Json.bool? = some isError :=
        Json.Source.optional_of_find? (by simp [found]) fun flag _ => Json.returns_bool flag
      have third : nested = some content := by
        rw [inside]
        cases content with
        | none => simp
        | some content =>
            have back := decodeNested_encodeContent fun blocks same =>
              ih blocks (congrArg some same)
            simp [back]
      simp only [ofBody?, opened, first, second, third, bind, Option.bind_some]
  | thinking thought signature =>
      refine decode_of_written (encode.eq_6 thought signature) rfl (by simp) ?_
      intro body source opened found nested _
      have first : source.required "thinking" Json.string? = some thought :=
        Json.Source.required_string (by simp [found])
      have second : source.optional "signature" Json.string? = some signature :=
        Json.Source.optional_string (by simp [found])
      simp only [ofBody?, opened, first, second, bind, Option.bind_some]
  | redactedThinking data =>
      refine decode_of_written (encode.eq_7 data) rfl (by simp) ?_
      intro body source opened found nested _
      have only : source.required "data" Json.string? = some data :=
        Json.Source.required_string (by simp [found])
      simp only [ofBody?, opened, only, bind, Option.bind_some]
  | @serverToolUse id name input normal =>
      refine decode_of_written (encode.eq_8 id name input) rfl (by simp) ?_
      intro body source opened found nested _
      have first : source.required "id" Json.string? = some id :=
        Json.Source.required_string (by simp [found])
      have second : source.required "name" Json.string? = some name :=
        Json.Source.required_string (by simp [found])
      have third : source.withDefault "input" .null some = some input :=
        normal.withDefault_of_written (by simp [found])
      simp only [ofBody?, opened, first, second, third, bind, Option.bind_some]
  | @webSearchToolResult toolUseId content normal =>
      refine decode_of_written (encode.eq_9 toolUseId content) rfl (by simp) ?_
      intro body source opened found nested _
      have first : source.required "tool_use_id" Json.string? = some toolUseId :=
        Json.Source.required_string (by simp [found])
      have second : source.withDefault "content" .null some = some content :=
        normal.withDefault_of_written (by simp [found])
      simp only [ofBody?, opened, first, second, bind, Option.bind_some]
      rfl
  | other normal unknown => rw [encode, normal.normalize, unknown]

end Block

theorem Content.decode?_encode {content : Content} (regular : content.IsRegular) :
    Content.decode? content.encode.normalize = some content := by
  cases content with
  | text words => rfl
  | blocks items =>
      have back := Block.decodeAll_encodeAll fun block member =>
        Block.decode_encode (regular block member)
      rw [encode, Block.encodeContent, Json.normalize, decode?, back]

theorem Content.encode_ne_null (content : Content) : content.encode.normalize ≠ .null := by
  cases content <;> simp [encode, Block.encodeContent, Json.normalize]

/-! ## Requests -/

theorem Message.decode?_encode {message : Message} (regular : message.content.IsRegular) :
    Message.decode? message.encode.normalize = some message := by
  obtain ⟨source, opened, found⟩ := Json.exists_source (encode.eq_1 message)
  have role : source.required "role" (Role.decode? false) = some message.role :=
    Json.Source.required_of_find? (by simp [found]) (Role.decode?_encode false message.role)
  have content : source.required "content" Content.decode? = some message.content :=
    Json.Source.required_of_find? (by simp [found]) (Content.decode?_encode regular)
  simp only [decode?, opened, role, content, bind, Option.bind_some]

theorem Tool.decode?_encode {tool : Tool} (regular : tool.IsRegular) :
    Tool.decode? tool.encode.normalize = some tool := by
  obtain ⟨source, opened, found⟩ := Json.exists_source (Tool.encode.eq_1 tool)
  simp only [Json.written_append, Json.written_optionalField, Json.written_cons] at found
  have name : source.required "name" Json.string? = some tool.name :=
    Json.Source.required_string (by simp [found])
  have description : source.optional "description" Json.string? = some tool.description :=
    Json.Source.optional_string (by simp [found])
  have inputSchema : source.optional "input_schema" some = some tool.inputSchema :=
    Json.Source.optional_of_find? (by simp [found]) regular.returns
  have kind : source.optional "type" Json.string? = some tool.kind :=
    Json.Source.optional_string (by simp [found])
  simp [decode?, opened, name, description, inputSchema, kind]

theorem Thinking.decode?_encode {thinking : Thinking} (regular : thinking.IsRegular) :
    Thinking.decode? thinking.encode.normalize = some thinking := by
  obtain ⟨source, opened, found⟩ := Json.exists_source (Thinking.encode.eq_1 thinking)
  simp only [Json.written_append, Json.written_optionalField, Json.written_cons] at found
  have kind : source.required "type" Json.string? = some thinking.kind :=
    Json.Source.required_string (by simp [found])
  have budgetTokens : source.optional "budget_tokens" Json.nat32? = some thinking.budgetTokens :=
    Json.Source.optional_of_find? (by simp [found]) fun count member =>
      Json.returns_ofNat (regular count member)
  simp [decode?, opened, kind, budgetTokens]

/-- A regular number is written as a number. -/
theorem Single.IsRegular.returns {single : Single} (regular : single.IsRegular) :
    Json.Returns Single.encode Single.decode? single := by
  obtain ⟨number, written, back⟩ := regular.encode
  constructor
  · simp [written, Json.normalize]
  · rw [written]
    exact back

theorem Request.decode?_encode {request : Request} (regular : request.IsRegular) :
    Request.decode? request.encode.normalize = some request := by
  obtain ⟨source, opened, found⟩ := Json.exists_source (Request.encode.eq_1 request)
  simp only [Json.written_append, Json.written_optionalField, Json.written_cons,
    Json.written_nil] at found
  refine IsGivenBy.decode? ?_ (opened _)
  constructor
  case model =>
    exact Json.Source.withDefault_of_find? (by simp [found])
      (Json.returns_string request.model).back ""
  case messages =>
    have back := Json.decodeList_map fun message member =>
      Message.decode?_encode (regular.messages message member)
    exact Json.Source.withDefault_of_find? (by simp [found]) back []
  case system =>
    exact Json.Source.optional_of_find? (by simp [found]) fun content member =>
      ⟨content.encode_ne_null, Content.decode?_encode (regular.system content member)⟩
  case maxTokens =>
    exact Json.Source.optional_of_find? (by simp [found]) fun count member =>
      Json.returns_ofNat (regular.maxTokens count member)
  case temperature =>
    exact Json.Source.optional_of_find? (by simp [found]) fun single member =>
      (regular.temperature single member).returns
  case topP =>
    exact Json.Source.optional_of_find? (by simp [found]) fun single member =>
      (regular.topP single member).returns
  case stopSequences =>
    exact Json.Source.optional_of_find? (by simp [found]) fun texts _ =>
      ⟨by simp [Json.normalize],
        Json.decodeList_map fun words _ => (Json.returns_string words).back⟩
  case stream =>
    exact Json.Source.withDefault_of_find? (by simp [found])
      (Json.returns_bool request.stream).back false
  case tools =>
    exact Json.Source.optional_of_find? (by simp [found]) fun tools member =>
      ⟨by simp [Json.normalize], Json.decodeList_map fun tool inside =>
        Tool.decode?_encode (regular.tools tools member tool inside)⟩
  case toolChoice =>
    exact Json.Source.optional_of_find? (by simp [found]) regular.toolChoice.returns
  case thinking =>
    exact Json.Source.optional_of_find? (by simp [found]) fun thinking member =>
      ⟨by simp [Thinking.encode, Json.normalize],
        Thinking.decode?_encode (regular.thinking thinking member)⟩
  case metadata =>
    exact Json.Source.optional_of_find? (by simp [found]) regular.metadata.returns

/-! ## Answers and events -/

theorem Response.decode?_encode {response : Response} (regular : response.IsRegular) :
    Response.decode? response.encode.normalize = some response := by
  obtain ⟨source, opened, found⟩ := Json.exists_source (Response.encode.eq_1 response)
  simp only [Json.written_append, Json.written_optionalField, Json.written_cons,
    Json.written_nil] at found
  have id : source.required "id" Json.string? = some response.id :=
    Json.Source.required_string (by simp [found])
  have kind : source.withDefault "type" "message" Json.string? = some response.kind :=
    Json.Source.withDefault_of_find? (by simp [found]) (Json.returns_string response.kind).back _
  have role : source.withDefault "role" .assistant (Role.decode? false) = some response.role :=
    Json.Source.withDefault_of_find? (by simp [found]) (Role.decode?_encode false response.role) _
  have model : source.withDefault "model" "" Json.string? = some response.model :=
    Json.Source.withDefault_of_find? (by simp [found]) (Json.returns_string response.model).back ""
  have content : source.required "content" (fun content => content.array?.map Block.decodeAll) =
      some response.content := by
    have back := Block.decodeAll_encodeAll fun block member =>
      Block.decode_encode (regular.content block member)
    simp [Json.Source.required, found, Json.normalize, Json.array?, back]
  have stopReason : source.optional "stop_reason" (StopReason.decode? false) =
      some response.stopReason :=
    StopReason.optional_of_find? (by simp [found])
  have stopSequence : source.optional "stop_sequence" Json.string? = some response.stopSequence :=
    Json.Source.optional_string (by simp [found])
  have usage : source.withDefault "usage" .zero Usage.decode? = some response.usage :=
    Json.Source.withDefault_of_find? (by simp [found]) (Usage.decode?_encode regular.usage) _
  rw [decode?]
  simp only [opened, id, kind, role, model, content, stopReason, stopSequence, usage, bind,
    Option.bind_some]

theorem Delta.decode?_encode {delta : Delta} (regular : delta.IsRegular) :
    Delta.decode? delta.encode.normalize = some delta := by
  cases delta with
  | text words =>
      obtain ⟨body, source, tagged, opened, found⟩ :=
        Json.exists_tagged (encode.eq_1 words) (by simp)
      have only : source.required "text" Json.string? = some words :=
        Json.Source.required_string (by simp [found])
      simp [decode?, tagged, Json.tagName?, kinds, opened, only]
  | inputJson partialJson =>
      obtain ⟨body, source, tagged, opened, found⟩ :=
        Json.exists_tagged (encode.eq_2 partialJson) (by simp)
      have only : source.required "partial_json" Json.string? = some partialJson :=
        Json.Source.required_string (by simp [found])
      simp [decode?, tagged, Json.tagName?, kinds, opened, only]
  | thinking thought =>
      obtain ⟨body, source, tagged, opened, found⟩ :=
        Json.exists_tagged (encode.eq_3 thought) (by simp)
      have only : source.required "thinking" Json.string? = some thought :=
        Json.Source.required_string (by simp [found])
      simp [decode?, tagged, Json.tagName?, kinds, opened, only]
  | signature mark =>
      obtain ⟨body, source, tagged, opened, found⟩ :=
        Json.exists_tagged (encode.eq_4 mark) (by simp)
      have only : source.required "signature" Json.string? = some mark :=
        Json.Source.required_string (by simp [found])
      simp [decode?, tagged, Json.tagName?, kinds, opened, only]
  | citations citation =>
      have normal : citation.normalize = citation := Json.IsNormal.normalize regular
      obtain ⟨body, source, tagged, opened, found⟩ :=
        Json.exists_tagged (encode.eq_5 citation) (by simp)
      have only : source.required "citation" some = some citation :=
        Json.Source.required_of_find? (by simp [found]) (congrArg some normal)
      simp [decode?, tagged, Json.tagName?, kinds, opened, only]

/-- A body without fields of its own is that of an event without any. -/
theorem Event.bare?_of_opened {body : Json} {source : Json.Source}
    (opened : Json.source? [] body = some source) (event : Event) :
    event.bare? body = some event := by
  cases body with
  | array items =>
      obtain ⟨none, -⟩ := Option.ite_none_right_eq_some.mp opened
      cases items with
      | nil => rfl
      | cons item rest => cases none
  | null | bool | number | string | object => rfl

/-- What an event carries is regular; the index of its block may be of any size. -/
def Event.CarriesRegular : Event → Prop
  | .messageStart message => message.usage.Fits
  | .blockStart _ block => block.IsRegular
  | .blockDelta _ delta => delta.IsRegular
  | .messageDelta _ usage => ∀ counts ∈ usage, counts.Fits
  | _ => True

/-- An event is read back unless the index of its block is too large to be read. -/
theorem Event.decode?_encode_of_carriesRegular {event : Event} (regular : event.CarriesRegular) :
    Event.decode? event.encode.normalize = if event.indexFits then some event else none := by
  obtain ⟨body, source, tagged, opened, found⟩ :=
    Json.exists_tagged (encode.eq_def event) (by cases event <;> simp)
  have known : Json.tagName? false names (.string event.name) = some event.name := by
    cases event <;> rfl
  have number (index : Nat) (written : source.find? "index" = some (Json.ofNat index).normalize) :
      source.required "index" Json.nat64? = if Word.fits 64 index then some index else none := by
    rw [Json.Source.required, written, Json.normalize_ofNat, Option.bind_some, Json.nat64?_ofNat]
  rw [decode?, bind_of_eq_some tagged]
  dsimp only
  rw [bind_of_eq_some known]
  cases event with
  | messageStart message =>
      have only : source.required "message" MessageHeader.decode? = some message :=
        Json.Source.required_of_find? (by simp [found])
          (MessageHeader.decode?_encode message regular)
      simp only [name, opened, only, bind, Option.bind_some]
      rfl
  | blockStart index block =>
      have first := number index (by simp [found])
      have second : source.required "content_block" (fun block => some (Block.decode block)) =
          some block :=
        Json.Source.required_of_find? (by simp [found])
          (congrArg some (Block.decode_encode regular))
      simp only [name, opened, first, second, bind, Option.bind_some, indexFits, index?]
      cases fits : Word.fits 64 index <;> simp [fits]
  | blockDelta index delta =>
      have first := number index (by simp [found])
      have second : source.required "delta" Delta.decode? = some delta :=
        Json.Source.required_of_find? (by simp [found]) (Delta.decode?_encode regular)
      simp only [name, opened, first, second, bind, Option.bind_some, indexFits, index?]
      cases fits : Word.fits 64 index <;> simp [fits]
  | blockStop index =>
      have only := number index (by simp [found])
      simp only [name, opened, only, bind, Option.bind_some, indexFits, index?]
      cases fits : Word.fits 64 index <;> simp [fits]
  | messageDelta closing usage =>
      have first : source.required "delta" Closing.decode? = some closing :=
        Json.Source.required_of_find? (by simp [found]) (Closing.decode?_encode closing)
      have second : source.optional "usage" Usage.decode? = some usage :=
        Json.Source.optional_of_find? (by simp [found]) fun counts member =>
          ⟨by simp [Usage.encode, Json.normalize], Usage.decode?_encode (regular counts member)⟩
      simp only [name, opened, first, second, bind, Option.bind_some]
      rfl
  | messageStop => exact bare?_of_opened (opened []) .messageStop
  | ping => exact bare?_of_opened (opened []) .ping
  | error failure =>
      have only : source.required "error" ErrorBody.decode? = some failure :=
        Json.Source.required_of_find? (by simp [found]) (ErrorBody.decode?_encode failure)
      simp only [name, opened, only, bind, Option.bind_some]
      rfl

theorem Event.IsRegular.carriesRegular {event : Event} (regular : event.IsRegular) :
    event.CarriesRegular := by
  cases event with
  | messageStart | messageDelta => exact regular
  | blockStart | blockDelta => exact regular.2
  | blockStop | messageStop | ping | error => exact trivial

theorem Event.IsRegular.indexFits {event : Event} (regular : event.IsRegular) :
    event.indexFits = true := by
  cases event with
  | blockStart | blockDelta => exact regular.1
  | blockStop => exact regular
  | messageStart | messageDelta | messageStop | ping | error => rfl

theorem Event.decode?_encode {event : Event} (regular : event.IsRegular) :
    Event.decode? event.encode.normalize = some event := by
  rw [decode?_encode_of_carriesRegular regular.carriesRegular, if_pos regular.indexFits]

/-- What writers make is regular. -/
theorem Event.Plain.carriesRegular {event : Event} (plain : event.Plain) :
    event.CarriesRegular := by
  cases plain with
  | messageStart id model fits => exact fits
  | textStart index => exact .text "" (by intro value given; cases given)
  | thinkingStart index => exact .thinking "" none
  | toolStart index id name => exact .toolUse id name (Json.isNormal_normalize (.object []))
  | messageDelta reason fits =>
      intro counts same
      cases same
      exact fits
  | text | thinking | arguments | blockStop | messageStop | error => exact trivial

theorem Event.decode?_encode_of_plain {event : Event} (plain : event.Plain) :
    Event.decode? event.encode.normalize = if event.indexFits then some event else none :=
  decode?_encode_of_carriesRegular plain.carriesRegular

end ChatGateway
