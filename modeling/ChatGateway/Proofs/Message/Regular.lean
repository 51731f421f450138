import ChatGateway.Proofs.Json.Hereditary
import ChatGateway.Proofs.Json.Normal
import ChatGateway.Proofs.Message.Codec
import ChatGateway.Proofs.Number.Rounding

/-!
# What decoding can give

Not every block, request or event is one that a normal value describes: a cache mark that is null
is read as no mark, and a value that is kept as it came is none of a known kind.  Whatever is read
from a normal value is regular in this sense.
-/

namespace ChatGateway

namespace Json

/-- A value that an optional field can hold: nothing, or a normal value other than null. -/
def IsGiven (value : Option Json) : Prop := ∀ json ∈ value, json.IsNormal ∧ json ≠ .null

theorem hereditary_isNormal : Hereditary IsNormal where
  item normal := by
    cases normal with
    | array inside => exact inside
  field normal := by
    cases normal with
    | object _ inside => exact inside

/-- What stands beside a tag is normal as the tagged value is. -/
theorem IsNormal.of_tagged? {value tag body : Json} (normal : value.IsNormal)
    (tagged : tagged? value = some (tag, body)) : body.IsNormal := by
  cases normal with
  | @object fields sorted inside =>
      obtain ⟨_, _, same⟩ := Option.map_eq_some_iff.mp tagged
      cases same
      refine .object (sorted.sublist (List.filter_sublist.map _)) ?_
      intro field member
      exact inside field (List.mem_of_mem_filter member)
  | @array items inside =>
      cases items with
      | nil => cases tagged
      | cons first rest =>
          cases tagged
          refine .array ?_
          intro item member
          exact inside item (.tail _ member)
  | null | bool | number | string => cases tagged

namespace Source

variable {α : Type} {decode : Json → Option α}

/-- Every field of the source is normal. -/
def IsNormal (source : Source) : Prop :=
  ∀ name value, source.find? name = some value → value.IsNormal

theorem isNormal_of_source? {names : List String} {value : Json} (normal : value.IsNormal)
    {source : Source} (opened : source? names value = some source) : source.IsNormal :=
  gives_of_source? hereditary_isNormal normal opened

/-- What holds of everything that is decoded from a normal value holds of a field. -/
theorem IsNormal.of_required (holds : α → Prop) {source : Source} (normal : source.IsNormal)
    {name : String} {result : α}
    (decoded : ∀ value result, value.IsNormal → decode value = some result → holds result)
    (read : source.required name decode = some result) : holds result :=
  Gives.of_required holds normal decoded read

theorem IsNormal.of_withDefault (holds : α → Prop) {source : Source} (normal : source.IsNormal)
    {name : String} {absent result : α} (ofAbsent : holds absent)
    (decoded : ∀ value result, value.IsNormal → decode value = some result → holds result)
    (read : source.withDefault name absent decode = some result) : holds result :=
  Gives.of_withDefault holds normal ofAbsent decoded read

theorem IsNormal.of_optional (holds : α → Prop) {source : Source} (normal : source.IsNormal)
    {name : String} {result : Option α}
    (decoded : ∀ value result, value.IsNormal → value ≠ .null → decode value = some result →
      holds result)
    (read : source.optional name decode = some result) : ∀ value ∈ result, holds value :=
  Gives.of_optional holds normal decoded read

/-- A field that may hold anything. -/
theorem IsNormal.isGiven {source : Source} (normal : source.IsNormal) {name : String}
    {result : Option Json} (read : source.optional name some = some result) : IsGiven result := by
  refine normal.of_optional (fun value => value.IsNormal ∧ value ≠ .null) ?_ read
  intro value result isNormal notNull same
  cases same
  exact ⟨isNormal, notNull⟩

theorem IsNormal.ofAny {source : Source} (normal : source.IsNormal) {name : String} {result : Json}
    (read : source.withDefault name .null some = some result) : result.IsNormal := by
  refine normal.of_withDefault Json.IsNormal .null ?_ read
  intro value result isNormal same
  cases same
  exact isNormal

theorem fits_of_required {source : Source} {name : String} {index : Nat}
    (read : source.required name nat64? = some index) : Word.fits 64 index = true := by
  obtain ⟨value, -, number⟩ := Option.bind_eq_some_iff.mp read
  exact (Option.filter_eq_some_iff.mp number).2

end Source

/-- What holds of everything that is decoded from a normal value holds of the items of a list. -/
theorem IsNormal.of_decodeList {α : Type} {decode : Json → Option α} (holds : α → Prop)
    {value : Json} (normal : value.IsNormal) {results : List α}
    (decoded : ∀ value result, value.IsNormal → decode value = some result → holds result)
    (read : decodeList decode value = some results) : ∀ result ∈ results, holds result :=
  hereditary_isNormal.of_decodeList holds normal decoded read

end Json

/-! ## Blocks -/

/-- A block that a normal value describes. -/
inductive Block.IsRegular : Block → Prop where
  | text (words : String) {cacheControl : Option Json} (mark : Json.IsGiven cacheControl) :
      IsRegular (.text words cacheControl)
  | image (source : ImageSource) : IsRegular (.image source)
  | toolUse (id name : String) {input : Json} (normal : input.IsNormal) :
      IsRegular (.toolUse id name input)
  | toolResult (toolUseId : String) {content : Option Content} (isError : Option Bool)
      (inside : ∀ blocks, content = some (.blocks blocks) → ∀ block ∈ blocks, IsRegular block) :
      IsRegular (.toolResult toolUseId content isError)
  | thinking (thought : String) (signature : Option String) :
      IsRegular (.thinking thought signature)
  | redactedThinking (data : String) : IsRegular (.redactedThinking data)
  | serverToolUse (id name : String) {input : Json} (normal : input.IsNormal) :
      IsRegular (.serverToolUse id name input)
  | webSearchToolResult (toolUseId : String) {content : Json} (normal : content.IsNormal) :
      IsRegular (.webSearchToolResult toolUseId content)
  | other {value : Json} (normal : value.IsNormal) (unknown : Block.decode value = .other value) :
      IsRegular (.other value)

/-- A content that a normal value describes. -/
def Content.IsRegular : Content → Prop
  | .text _ => True
  | .blocks items => ∀ block ∈ items, block.IsRegular

namespace Block

theorem isRegular_of_ofBody? {kind : String} {body : Json} {nested : Option (Option Content)}
    {block : Block} (normal : body.IsNormal)
    (inside : ∀ blocks, nested = some (some (.blocks blocks)) → ∀ block ∈ blocks, block.IsRegular)
    (made : ofBody? kind body nested = some block) : block.IsRegular := by
  unfold ofBody? at made
  split at made <;> simp only [bind, Option.bind_eq_some_iff, Option.some.injEq] at made
  · obtain ⟨source, opened, words, -, mark, given, rfl⟩ := made
    exact .text words ((Json.Source.isNormal_of_source? normal opened).isGiven given)
  · obtain ⟨source, -, image, -, rfl⟩ := made
    exact .image image
  · obtain ⟨source, opened, id, -, name, -, input, read, rfl⟩ := made
    exact .toolUse id name ((Json.Source.isNormal_of_source? normal opened).ofAny read)
  · obtain ⟨source, -, toolUseId, -, content, given, isError, -, rfl⟩ := made
    refine .toolResult toolUseId isError ?_
    intro blocks same
    exact inside blocks (given.trans (congrArg some same))
  · obtain ⟨source, -, thought, -, signature, -, rfl⟩ := made
    exact .thinking thought signature
  · obtain ⟨source, -, data, -, rfl⟩ := made
    exact .redactedThinking data
  · obtain ⟨source, opened, id, -, name, -, input, read, rfl⟩ := made
    exact .serverToolUse id name ((Json.Source.isNormal_of_source? normal opened).ofAny read)
  · obtain ⟨source, opened, toolUseId, -, content, read, rfl⟩ := made
    exact .webSearchToolResult toolUseId
      ((Json.Source.isNormal_of_source? normal opened).ofAny read)

/-- A value without a known tag, or with a body that does not fit it, is kept as it is. -/
theorem ofValue_eq_or (value : Json) (nested : Option (Option Content)) :
    ofValue value nested = .other value ∨
      ∃ tag body kind, Json.tagged? value = some (tag, body) ∧
        ofBody? kind body nested = some (ofValue value nested) := by
  rw [ofValue]
  cases tagged : Json.tagged? value with
  | none => exact .inl rfl
  | some parts =>
      cases named : Json.tagName? true kinds parts.1 with
      | none =>
          left
          simp [named]
      | some kind =>
          cases made : ofBody? kind parts.2 nested with
          | none =>
              left
              simp [named, made]
          | some block =>
              right
              exact ⟨parts.1, parts.2, kind, rfl, by simp [named, made]⟩

theorem isRegular_ofValue {value : Json} {nested : Option (Option Content)}
    (normal : value.IsNormal)
    (inside : ∀ blocks, nested = some (some (.blocks blocks)) → ∀ block ∈ blocks, block.IsRegular)
    (whole : decode value = ofValue value nested) : (ofValue value nested).IsRegular := by
  rcases ofValue_eq_or value nested with kept | ⟨tag, body, kind, tagged, made⟩
  · rw [kept] at whole ⊢
    exact .other normal whole
  · exact isRegular_of_ofBody? (normal.of_tagged? tagged) inside made

theorem decodeNestedField_eq (fields : List (String × Json)) :
    decodeNestedField fields =
      match Dictionary.get? "content" fields with
      | some value => decodeNested value
      | none => some none := by
  induction fields with
  | nil => rfl
  | cons field rest ih =>
      rw [decodeNestedField, Dictionary.get?_cons]
      split
      · rfl
      · exact ih

theorem decodeNestedItem_eq (items : List Json) :
    decodeNestedItem items =
      match items[2]? with
      | some value => decodeNested value
      | none => some none := by
  rcases items with _ | ⟨_, _ | ⟨_, _ | _⟩⟩ <;> rfl

theorem decodeAll_eq_map (items : List Json) : decodeAll items = items.map decode := by
  induction items with
  | nil => rfl
  | cons item rest ih => rw [decodeAll, ih, List.map_cons]

/-- The blocks in a content are regular if those that its items describe are. -/
theorem isRegular_of_decodeNested {value : Json}
    (items : ∀ items, value = .array items → ∀ item ∈ items, (decode item).IsRegular)
    {blocks : List Block} (read : decodeNested value = some (some (.blocks blocks))) :
    ∀ block ∈ blocks, block.IsRegular := by
  cases value with
  | array list =>
      cases read
      intro block member
      rw [decodeAll_eq_map, List.mem_map] at member
      obtain ⟨item, inside, rfl⟩ := member
      exact items list rfl item inside
  | null | string => cases read
  | bool | number | object => cases read

/-- The block that a normal value describes is regular. -/
theorem isRegular_decode_and_items {value : Json} (normal : value.IsNormal) :
    (decode value).IsRegular ∧
      ∀ items, value = .array items → ∀ item ∈ items, (decode item).IsRegular := by
  induction normal with
  | null => exact ⟨.other .null rfl, by simp⟩
  | bool value => exact ⟨.other (.bool value) rfl, by simp⟩
  | number value => exact ⟨.other (.number value) rfl, by simp⟩
  | string value => exact ⟨.other (.string value) rfl, by simp⟩
  | @array items inside ih =>
      constructor
      · rw [decode]
        refine isRegular_ofValue (.array inside) ?_ rfl
        intro blocks read
        rw [decodeNestedItem_eq] at read
        split at read
        · rename_i item there
          exact isRegular_of_decodeNested (ih item (List.mem_of_getElem? there)).2 read
        · cases read
      · intro others same item member
        cases same
        exact (ih item member).1
  | @object fields sorted inside ih =>
      constructor
      · rw [decode]
        refine isRegular_ofValue (.object sorted inside) ?_ rfl
        intro blocks read
        rw [decodeNestedField_eq] at read
        split at read
        · rename_i field found
          rw [← Dictionary.ofList_of_isSorted sorted] at found
          have member := Dictionary.mem_of_get?_ofList found
          exact isRegular_of_decodeNested (ih _ member).2 read
        · cases read
      · intro items same
        cases same

theorem isRegular_decode {value : Json} (normal : value.IsNormal) : (decode value).IsRegular :=
  (isRegular_decode_and_items normal).1

end Block

theorem Content.isRegular_of_decode? {value : Json} {content : Content} (normal : value.IsNormal)
    (read : Content.decode? value = some content) : content.IsRegular := by
  cases normal with
  | string words =>
      cases read
      exact trivial
  | @array items inside =>
      cases read
      intro block member
      rw [Block.decodeAll_eq_map, List.mem_map] at member
      obtain ⟨item, here, rfl⟩ := member
      exact Block.isRegular_decode (inside item here)
  | null | bool | number | object => cases read

/-! ## Requests -/

/-- A tool that a normal value declares. -/
def Tool.IsRegular (tool : Tool) : Prop := Json.IsGiven tool.inputSchema

/-- A thinking mode that a value describes. -/
def Thinking.IsRegular (thinking : Thinking) : Prop :=
  ∀ count ∈ thinking.budgetTokens, Word.fits 32 count = true

/-- A request that a normal value describes, if its sampling parameters are finite. -/
structure Request.IsRegular (request : Request) : Prop where
  messages : ∀ message ∈ request.messages, message.content.IsRegular
  system : ∀ content ∈ request.system, content.IsRegular
  maxTokens : ∀ count ∈ request.maxTokens, Word.fits 32 count = true
  temperature : ∀ single ∈ request.temperature, single.IsRegular
  topP : ∀ single ∈ request.topP, single.IsRegular
  tools : ∀ tools ∈ request.tools, ∀ tool ∈ tools, tool.IsRegular
  toolChoice : Json.IsGiven request.toolChoice
  thinking : ∀ thinking ∈ request.thinking, thinking.IsRegular
  metadata : Json.IsGiven request.metadata

theorem Message.isRegular_of_decode? {value : Json} {message : Message} (normal : value.IsNormal)
    (read : Message.decode? value = some message) : message.content.IsRegular := by
  simp only [decode?, bind, Option.bind_eq_some_iff, Option.some.injEq] at read
  obtain ⟨source, opened, role, -, content, given, rfl⟩ := read
  exact (Json.Source.isNormal_of_source? normal opened).of_required Content.IsRegular
    (fun _ _ => Content.isRegular_of_decode?) given

theorem Tool.isRegular_of_decode? {value : Json} {tool : Tool} (normal : value.IsNormal)
    (read : Tool.decode? value = some tool) : tool.IsRegular := by
  simp only [decode?, bind, Option.bind_eq_some_iff, Option.some.injEq] at read
  obtain ⟨source, opened, name, -, description, -, inputSchema, given, kind, -, rfl⟩ := read
  exact (Json.Source.isNormal_of_source? normal opened).isGiven given

theorem Thinking.isRegular_of_decode? {value : Json} {thinking : Thinking}
    (read : Thinking.decode? value = some thinking) : thinking.IsRegular := by
  simp only [decode?, bind, Option.bind_eq_some_iff, Option.some.injEq] at read
  obtain ⟨source, -, kind, -, budgetTokens, given, rfl⟩ := read
  exact Json.Source.fits_of_optional given

namespace Request

/-- The sampling parameters of a request are neither infinite nor undefined. -/
structure IsFinite (request : Request) : Prop where
  temperature : ∀ single ∈ request.temperature, single.IsFinite
  topP : ∀ single ∈ request.topP, single.IsFinite

/-- The fields of a request are what a source gives for them. -/
structure IsGivenBy (request : Request) (source : Json.Source) : Prop where
  model : source.withDefault "model" "" Json.string? = some request.model
  messages : source.withDefault "messages" [] (Json.decodeList Message.decode?) =
    some request.messages
  system : source.optional "system" Content.decode? = some request.system
  maxTokens : source.optional "max_tokens" Json.nat32? = some request.maxTokens
  temperature : source.optional "temperature" Single.decode? = some request.temperature
  topP : source.optional "top_p" Single.decode? = some request.topP
  stopSequences : source.optional "stop_sequences" (Json.decodeList Json.string?) =
    some request.stopSequences
  stream : source.withDefault "stream" false Json.bool? = some request.stream
  tools : source.optional "tools" (Json.decodeList Tool.decode?) = some request.tools
  toolChoice : source.optional "tool_choice" some = some request.toolChoice
  thinking : source.optional "thinking" Thinking.decode? = some request.thinking
  metadata : source.optional "metadata" some = some request.metadata

theorem IsGivenBy.decode? {request : Request} {source : Json.Source}
    (given : request.IsGivenBy source) {value : Json}
    (opened : Json.source? fieldNames value = some source) :
    Request.decode? value = some request := by
  rw [Request.decode?, bind_of_eq_some opened, bind_of_eq_some given.model,
    bind_of_eq_some given.messages, bind_of_eq_some given.system, bind_of_eq_some given.maxTokens,
    bind_of_eq_some given.temperature, bind_of_eq_some given.topP,
    bind_of_eq_some given.stopSequences, bind_of_eq_some given.stream,
    bind_of_eq_some given.tools, bind_of_eq_some given.toolChoice, bind_of_eq_some given.thinking,
    bind_of_eq_some given.metadata]

theorem exists_isGivenBy {value : Json} {request : Request}
    (read : Request.decode? value = some request) :
    ∃ source, Json.source? fieldNames value = some source ∧ request.IsGivenBy source := by
  rw [Request.decode?] at read
  obtain ⟨source, opened, read⟩ := Option.bind_eq_some_iff.mp read
  obtain ⟨model, _, read⟩ := Option.bind_eq_some_iff.mp read
  obtain ⟨messages, _, read⟩ := Option.bind_eq_some_iff.mp read
  obtain ⟨system, _, read⟩ := Option.bind_eq_some_iff.mp read
  obtain ⟨maxTokens, _, read⟩ := Option.bind_eq_some_iff.mp read
  obtain ⟨temperature, _, read⟩ := Option.bind_eq_some_iff.mp read
  obtain ⟨topP, _, read⟩ := Option.bind_eq_some_iff.mp read
  obtain ⟨stopSequences, _, read⟩ := Option.bind_eq_some_iff.mp read
  obtain ⟨stream, _, read⟩ := Option.bind_eq_some_iff.mp read
  obtain ⟨tools, _, read⟩ := Option.bind_eq_some_iff.mp read
  obtain ⟨toolChoice, _, read⟩ := Option.bind_eq_some_iff.mp read
  obtain ⟨thinking, _, read⟩ := Option.bind_eq_some_iff.mp read
  obtain ⟨metadata, _, read⟩ := Option.bind_eq_some_iff.mp read
  cases read
  refine ⟨source, opened, ?_⟩
  constructor <;> assumption

theorem isRegular_of_decode? {value : Json} {request : Request} (normal : value.IsNormal)
    (read : Request.decode? value = some request) (finite : request.IsFinite) :
    request.IsRegular := by
  obtain ⟨source, opened, given⟩ := exists_isGivenBy read
  have fields := Json.Source.isNormal_of_source? normal opened
  have single (value : Option Single) (name : String)
      (read : source.optional name Single.decode? = some value)
      (finite : ∀ single ∈ value, single.IsFinite) : ∀ single ∈ value, single.IsRegular := by
    intro single member
    obtain ⟨json, isJson⟩ := Json.Source.of_optional (fun single => ∃ json, Single.decode? json =
      some single) (fun json single done => ⟨json, done⟩) read single member
    exact Single.isRegular_of_decode? isJson (finite single member)
  constructor
  case messages =>
    refine fields.of_withDefault (fun messages => ∀ message ∈ messages,
      message.content.IsRegular) (by simp) ?_ given.messages
    intro value messages normal list
    exact normal.of_decodeList _ (fun _ _ => Message.isRegular_of_decode?) list
  case system =>
    exact fields.of_optional _ (fun _ _ normal _ => Content.isRegular_of_decode? normal)
      given.system
  case maxTokens => exact Json.Source.fits_of_optional given.maxTokens
  case temperature => exact single request.temperature "temperature" given.temperature finite.temperature
  case topP => exact single request.topP "top_p" given.topP finite.topP
  case tools =>
    refine fields.of_optional (fun tools => ∀ tool ∈ tools, tool.IsRegular) ?_
      given.tools
    intro value tools normal _ list
    exact normal.of_decodeList _ (fun _ _ => Tool.isRegular_of_decode?) list
  case toolChoice => exact fields.isGiven given.toolChoice
  case thinking =>
    exact Json.Source.of_optional _ (fun _ _ => Thinking.isRegular_of_decode?)
      given.thinking
  case metadata => exact fields.isGiven given.metadata

end Request

/-! ## Answers and events -/

theorem Usage.fits_of_decode? {value : Json} {usage : Usage}
    (read : Usage.decode? value = some usage) : usage.Fits := by
  simp only [decode?, bind, Option.bind_eq_some_iff, Option.some.injEq] at read
  obtain ⟨source, -, input, first, output, second, cached, third, rfl⟩ := read
  constructor
  · exact Json.Source.fits_of_withDefault first
  · exact Json.Source.fits_of_withDefault second
  · exact Json.Source.fits_of_optional third

/-- An answer that a normal value describes. -/
structure Response.IsRegular (response : Response) : Prop where
  content : ∀ block ∈ response.content, block.IsRegular
  usage : response.usage.Fits

theorem Response.isRegular_of_decode? {value : Json} {response : Response}
    (normal : value.IsNormal) (read : Response.decode? value = some response) :
    response.IsRegular := by
  rw [decode?] at read
  obtain ⟨source, opened, read⟩ := Option.bind_eq_some_iff.mp read
  obtain ⟨id, -, read⟩ := Option.bind_eq_some_iff.mp read
  obtain ⟨kind, -, read⟩ := Option.bind_eq_some_iff.mp read
  obtain ⟨role, -, read⟩ := Option.bind_eq_some_iff.mp read
  obtain ⟨model, -, read⟩ := Option.bind_eq_some_iff.mp read
  obtain ⟨content, blocks, read⟩ := Option.bind_eq_some_iff.mp read
  obtain ⟨stopReason, -, read⟩ := Option.bind_eq_some_iff.mp read
  obtain ⟨stopSequence, -, read⟩ := Option.bind_eq_some_iff.mp read
  obtain ⟨usage, counts, read⟩ := Option.bind_eq_some_iff.mp read
  cases read
  constructor
  · refine (Json.Source.isNormal_of_source? normal opened).of_required
      (fun content => ∀ block ∈ content, block.IsRegular) ?_ blocks
    intro value content normal list
    obtain ⟨items, array, rfl⟩ := Option.map_eq_some_iff.mp list
    have whole : Content.decode? value = some (.blocks (Block.decodeAll items)) := by
      cases value with
      | array others =>
          cases array
          rfl
      | null | bool | number | string | object => cases array
    exact Content.isRegular_of_decode? normal whole
  · exact Json.Source.of_withDefault _ Usage.fits_zero (fun _ _ => Usage.fits_of_decode?) counts

/-- A growth that a normal value describes. -/
def Delta.IsRegular : Delta → Prop
  | .citations citation => citation.IsNormal
  | _ => True

/-- An event that a normal value describes. -/
def Event.IsRegular : Event → Prop
  | .messageStart message => message.usage.Fits
  | .blockStart index block => Word.fits 64 index = true ∧ block.IsRegular
  | .blockDelta index delta => Word.fits 64 index = true ∧ delta.IsRegular
  | .blockStop index => Word.fits 64 index = true
  | .messageDelta _ usage => ∀ counts ∈ usage, counts.Fits
  | .messageStop => True
  | .ping => True
  | .error _ => True

theorem Delta.isRegular_of_decode? {value : Json} {delta : Delta} (normal : value.IsNormal)
    (read : Delta.decode? value = some delta) : delta.IsRegular := by
  simp only [decode?, bind, Option.bind_eq_some_iff] at read
  obtain ⟨⟨tag, body⟩, tagged, kind, -, read⟩ := read
  split at read <;> simp only [Option.bind_eq_some_iff, Option.some.injEq] at read
  · obtain ⟨source, -, words, -, rfl⟩ := read
    exact trivial
  · obtain ⟨source, -, partialJson, -, rfl⟩ := read
    exact trivial
  · obtain ⟨source, -, thought, -, rfl⟩ := read
    exact trivial
  · obtain ⟨source, -, mark, -, rfl⟩ := read
    exact trivial
  · obtain ⟨source, opened, citation, given, rfl⟩ := read
    refine (Json.Source.isNormal_of_source? (normal.of_tagged? tagged) opened).of_required
      Json.IsNormal ?_ given
    intro value result normal same
    cases same
    exact normal

theorem MessageHeader.fits_of_decode? {value : Json} {header : MessageHeader}
    (read : MessageHeader.decode? value = some header) : header.usage.Fits := by
  simp only [decode?, bind, Option.bind_eq_some_iff, Option.some.injEq] at read
  obtain ⟨source, -, id, -, model, -, role, -, usage, counts, rfl⟩ := read
  exact Json.Source.of_withDefault _ Usage.fits_zero (fun _ _ => Usage.fits_of_decode?) counts

/-- An event without fields is read as it is. -/
theorem Event.eq_of_bare? {bare event : Event} {body : Json}
    (read : bare.bare? body = some event) : event = bare := by
  simp only [bare?] at read
  split at read
  · cases read
  · cases read
    rfl

theorem Event.isRegular_of_decode? {value : Json} {event : Event} (normal : value.IsNormal)
    (read : Event.decode? value = some event) : event.IsRegular := by
  simp only [decode?, bind, Option.bind_eq_some_iff] at read
  obtain ⟨⟨tag, body⟩, tagged, kind, -, read⟩ := read
  have isNormal := normal.of_tagged? tagged
  split at read <;> simp only [Option.bind_eq_some_iff, Option.some.injEq] at read
  · obtain ⟨source, -, message, given, rfl⟩ := read
    obtain ⟨json, -, header⟩ := Option.bind_eq_some_iff.mp given
    exact MessageHeader.fits_of_decode? header
  · obtain ⟨source, opened, index, number, block, given, rfl⟩ := read
    refine ⟨Json.Source.fits_of_required number, ?_⟩
    refine (Json.Source.isNormal_of_source? isNormal opened).of_required Block.IsRegular ?_ given
    intro value result normal same
    cases same
    exact Block.isRegular_decode normal
  · obtain ⟨source, opened, index, number, delta, given, rfl⟩ := read
    refine ⟨Json.Source.fits_of_required number, ?_⟩
    exact (Json.Source.isNormal_of_source? isNormal opened).of_required Delta.IsRegular
      (fun _ _ => Delta.isRegular_of_decode?) given
  · obtain ⟨source, -, index, number, rfl⟩ := read
    exact Json.Source.fits_of_required number
  · obtain ⟨source, -, closing, -, usage, given, rfl⟩ := read
    exact Json.Source.of_optional Usage.Fits (fun _ _ => Usage.fits_of_decode?) given
  · cases eq_of_bare? read
    exact trivial
  · cases eq_of_bare? read
    exact trivial
  · obtain ⟨source, -, body, -, rfl⟩ := read
    exact trivial

end ChatGateway
