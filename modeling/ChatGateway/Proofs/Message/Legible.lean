import ChatGateway.Proofs.Json.ReadBack
import ChatGateway.Proofs.Message.ReadBack

/-!
# What is written for an event can be read

What is read from a value is written as a value that is nested no deeper, but for counts that stand
where there were none.  So an event that was read from some text is written as a value that can be
read from a text again.
-/

namespace ChatGateway

namespace Json

variable {room : Nat} {value : Json}

/-- What stands beside a tag is nested no deeper than the tagged value. -/
theorem IsLegible.of_tagged? (legible : value.IsLegible room) {tag body : Json}
    (tagged : tagged? value = some (tag, body)) : body.IsLegible room := by
  cases legible with
  | @object room fields inside =>
      obtain ⟨_, _, same⟩ := Option.map_eq_some_iff.mp tagged
      cases same
      apply IsLegible.object
      intro field member
      exact inside field (List.mem_of_mem_filter member)
  | @array room items inside =>
      cases items with
      | nil => cases tagged
      | cons first rest =>
          cases tagged
          apply IsLegible.array
          intro item member
          exact inside item (.tail _ member)
  | null | bool | number | string => cases tagged

namespace Source

/-- Every field of the source can be read with so many levels inside each other. -/
def IsLegible (room : Nat) (source : Source) : Prop := source.Gives (Json.IsLegible room)

/-- Fields are nested less deeply than what they are fields of. -/
theorem exists_isLegible_of_source? (legible : value.IsLegible room) {names : List String}
    {source : Source} (opened : source? names value = some source) :
    ∃ inner, room = inner + 1 ∧ source.IsLegible inner := by
  cases legible with
  | @object inner fields inside =>
      cases opened
      refine ⟨inner, rfl, ?_⟩
      intro name field found
      exact inside (name, field) (Dictionary.mem_of_get?_eq_some found)
  | @array inner items inside =>
      obtain ⟨-, same⟩ := Option.ite_none_right_eq_some.mp opened
      cases same
      refine ⟨inner, rfl, ?_⟩
      intro name field found
      obtain ⟨index, -, there⟩ := Option.bind_eq_some_iff.mp found
      exact inside field (List.mem_of_getElem? there)
  | null | bool | number | string => cases opened

variable {source : Source} {name : String}

/-- A field that may hold anything, null standing for its absence. -/
theorem IsLegible.ofAny (legible : source.IsLegible room) {result : Json}
    (read : source.withDefault name .null some = some result) : result.IsLegible room := by
  refine Gives.of_withDefault (Json.IsLegible room) legible (.null room) ?_ read
  rintro json result isLegible ⟨⟩
  exact isLegible

/-- A field that may hold anything or nothing. -/
theorem IsLegible.ofOptional (legible : source.IsLegible room) {result : Option Json}
    (read : source.optional name some = some result) : ∀ json ∈ result, json.IsLegible room := by
  refine Gives.of_optional (Json.IsLegible room) legible ?_ read
  rintro json result isLegible - ⟨⟩
  exact isLegible

/-- A field that has to be there. -/
theorem IsLegible.exists_of_required (legible : source.IsLegible room) {α : Type}
    {decode : Json → Option α} {result : α} (read : source.required name decode = some result) :
    ∃ json, json.IsLegible room ∧ decode json = some result := by
  obtain ⟨json, found, decoded⟩ := Option.bind_eq_some_iff.mp read
  exact ⟨json, legible name json found, decoded⟩

end Source

/-- The fields can be read with so many levels inside each other. -/
def FieldsLegible (room : Nat) (fields : List (String × Json)) : Prop :=
  ∀ field ∈ fields, field.2.IsLegible room

theorem fieldsLegible_nil : FieldsLegible room [] := nofun

theorem FieldsLegible.cons (first : value.IsLegible room) {fields : List (String × Json)}
    (rest : FieldsLegible room fields) (name : String) :
    FieldsLegible room ((name, value) :: fields) :=
  List.forall_mem_cons.mpr ⟨first, rest⟩

theorem fieldsLegible_optionalField {α : Type} {encode : α → Json} {value : Option α}
    (inside : ∀ given ∈ value, (encode given).IsLegible room) (name : String) :
    FieldsLegible room (optionalField name encode value) := by
  cases value with
  | none => exact fieldsLegible_nil
  | some given => exact .cons (inside given rfl) fieldsLegible_nil name

theorem FieldsLegible.object {fields : List (String × Json)} (legible : FieldsLegible room fields) :
    (Json.object fields).IsLegible (room + 1) :=
  .object legible

/-- A field with a string, which can be read anywhere. -/
theorem FieldsLegible.string {fields : List (String × Json)} (rest : FieldsLegible room fields)
    (name words : String) : FieldsLegible room ((name, .string words) :: fields) :=
  .cons (.string room words) rest name

end Json

variable {room : Nat} {value : Json}

open Json (FieldsLegible fieldsLegible_nil fieldsLegible_optionalField)

/-! ## Blocks -/

/-- An image source is written as an object of strings. -/
theorem ImageSource.isLegible_encode (source : ImageSource) (room : Nat) :
    source.encode.IsLegible (room + 1) := by
  cases source with
  | base64 mediaType data =>
      exact (((fieldsLegible_nil.string "data" data).string _ mediaType).string _ _).object
  | url address => exact ((fieldsLegible_nil.string "url" address).string _ _).object

theorem ImageSource.isLegible_of_decode? (legible : value.IsLegible room) {source : ImageSource}
    (read : decode? value = some source) : source.encode.IsLegible room := by
  simp only [decode?, bind, Option.bind_eq_some_iff] at read
  obtain ⟨⟨tag, body⟩, tagged, kind, -, read⟩ := read
  have body := legible.of_tagged? tagged
  split at read <;> simp only [Option.bind_eq_some_iff] at read
  all_goals
    obtain ⟨fields, opened, -⟩ := read
    obtain ⟨inner, rfl, -⟩ := Json.Source.exists_isLegible_of_source? body opened
    exact source.isLegible_encode inner

namespace Block

/-- What a body describes is nested no deeper than the body. -/
theorem isLegible_encode_of_ofBody? {kind : String} {body : Json}
    {nested : Option (Option Content)} {block : Block} (legible : body.IsLegible room)
    (inside : ∀ content, nested = some (some content) → ∀ inner, room = inner + 1 →
      (encodeContent content).IsLegible inner)
    (made : ofBody? kind body nested = some block) : block.encode.IsLegible room := by
  -- Whatever the kind, the fields are one level inside the body.
  have opens {names : List String} {source : Json.Source}
      (opened : Json.source? names body = some source) :=
    Json.Source.exists_isLegible_of_source? legible opened
  unfold ofBody? at made
  split at made <;> simp only [bind, Option.bind_eq_some_iff, Option.some.injEq] at made
  · obtain ⟨source, opened, words, -, mark, given, rfl⟩ := made
    obtain ⟨inner, rfl, fields⟩ := opens opened
    have marked : Json.FieldsLegible inner (optionalField "cache_control" id mark) :=
      fieldsLegible_optionalField (fields.ofOptional given) _
    exact ((marked.string "text" words).string _ _).object
  · obtain ⟨source, opened, image, given, rfl⟩ := made
    obtain ⟨inner, rfl, fields⟩ := opens opened
    obtain ⟨json, isLegible, read⟩ := fields.exists_of_required given
    have picture := ImageSource.isLegible_of_decode? isLegible read
    exact ((fieldsLegible_nil.cons picture "source").string _ _).object
  · obtain ⟨source, opened, id, -, name, -, input, read, rfl⟩ := made
    obtain ⟨inner, rfl, fields⟩ := opens opened
    have call := fieldsLegible_nil.cons (fields.ofAny read) "input"
    exact (((call.string "name" name).string "id" id).string _ _).object
  · obtain ⟨source, opened, toolUseId, -, content, given, isError, -, rfl⟩ := made
    obtain ⟨inner, rfl, -⟩ := opens opened
    have flag : FieldsLegible inner (optionalField "is_error" .bool isError) :=
      fieldsLegible_optionalField (fun given _ => .bool inner given) _
    cases content with
    | none => exact ((flag.string "tool_use_id" toolUseId).string _ _).object
    | some content =>
        have result := flag.cons (inside content given inner rfl) "content"
        exact ((result.string "tool_use_id" toolUseId).string _ _).object
  · obtain ⟨source, opened, thought, -, signature, -, rfl⟩ := made
    obtain ⟨inner, rfl, -⟩ := opens opened
    have signed : FieldsLegible inner (optionalField "signature" .string signature) :=
      fieldsLegible_optionalField (fun given _ => .string inner given) _
    exact ((signed.string "thinking" thought).string _ _).object
  · obtain ⟨source, opened, data, -, rfl⟩ := made
    obtain ⟨inner, rfl, -⟩ := opens opened
    exact ((fieldsLegible_nil.string "data" data).string _ _).object
  · obtain ⟨source, opened, id, -, name, -, input, read, rfl⟩ := made
    obtain ⟨inner, rfl, fields⟩ := opens opened
    have call := fieldsLegible_nil.cons (fields.ofAny read) "input"
    exact (((call.string "name" name).string "id" id).string _ _).object
  · obtain ⟨source, opened, toolUseId, -, content, read, rfl⟩ := made
    obtain ⟨inner, rfl, fields⟩ := opens opened
    have result := fieldsLegible_nil.cons (fields.ofAny read) "content"
    exact ((result.string "tool_use_id" toolUseId).string _ _).object

theorem isLegible_encode_ofValue (legible : value.IsLegible room)
    {nested : Option (Option Content)}
    (inside : ∀ content, nested = some (some content) → ∀ inner, room = inner + 1 →
      (encodeContent content).IsLegible inner) :
    (ofValue value nested).encode.IsLegible room := by
  cases ofValue_eq_or value nested with
  | inl kept =>
      rw [kept]
      exact legible
  | inr known =>
      obtain ⟨tag, body, kind, tagged, made⟩ := known
      exact isLegible_encode_of_ofBody? (legible.of_tagged? tagged) inside made

/-- The block that a value describes, and the content that it does, are nested no deeper. -/
theorem isLegible_encode_decode_and_nested (legible : value.IsLegible room) :
    (decode value).encode.IsLegible room ∧
      ∀ content, decodeNested value = some (some content) →
        (encodeContent content).IsLegible room := by
  induction legible with
  | null room =>
      refine ⟨.null room, ?_⟩
      rintro content ⟨⟩
  | bool room flag =>
      refine ⟨.bool room flag, ?_⟩
      rintro content ⟨⟩
  | number room inside =>
      refine ⟨.number room inside, ?_⟩
      rintro content ⟨⟩
  | string room words =>
      refine ⟨.string room words, ?_⟩
      rintro content ⟨⟩
      exact .string room words
  | @array room items inside ih =>
      constructor
      · rw [decode]
        apply isLegible_encode_ofValue (.array inside)
        rintro content read inner ⟨⟩
        rw [decodeNestedItem_eq] at read
        split at read
        · rename_i item there
          exact (ih item (List.mem_of_getElem? there)).2 content read
        · cases read
      · rintro content ⟨⟩
        rw [encodeContent, encodeAll_eq_map, decodeAll_eq_map, List.map_map]
        apply Json.IsLegible.array
        intro json member
        obtain ⟨item, here, rfl⟩ := List.mem_map.mp member
        exact (ih item here).1
  | @object room fields inside ih =>
      constructor
      · rw [decode]
        apply isLegible_encode_ofValue (.object inside)
        rintro content read inner ⟨⟩
        rw [decodeNestedField_eq] at read
        split at read
        · rename_i field found
          exact (ih _ (Dictionary.mem_of_get?_eq_some found)).2 content read
        · cases read
      · rintro content ⟨⟩

end Block

/-! ## Events -/

/-- A count of at most 64 bits can be read. -/
theorem Json.isLegible_ofNat {count : Nat} (fits : Word.fits 64 count = true) (room : Nat) :
    (Json.ofNat count).IsLegible room := by
  have below : (count : Int) < (Word.size 64 : Int) := by
    exact_mod_cast of_decide_eq_true fits
  have above : -(Word.size 63 : Int) ≤ (count : Int) :=
    (Int.neg_nonpos_of_nonneg (Int.natCast_nonneg _)).trans (Int.natCast_nonneg count)
  apply Json.IsLegible.number
  apply Number.IsLegible.integer
  rw [Number.holdsInteger, decide_eq_true above, decide_eq_true below]
  rfl

theorem Word.fits_mono {few many : Nat} (more : few ≤ many) {count : Nat}
    (fits : Word.fits few count = true) : Word.fits many count = true :=
  decide_eq_true ((of_decide_eq_true fits).trans_le (Nat.pow_le_pow_right Nat.two_pos more))

/-- Counts are written as an object of numbers. -/
theorem Usage.isLegible_encode {usage : Usage} (fits : usage.Fits) (room : Nat) :
    usage.encode.IsLegible (room + 1) := by
  have number {count : Nat} (small : Word.fits 32 count = true) :=
    Json.isLegible_ofNat (Word.fits_mono (by decide : 32 ≤ 64) small) room
  have cached : FieldsLegible room
      (optionalField "cache_read_input_tokens" .ofNat usage.cacheReadInputTokens) :=
    fieldsLegible_optionalField (fun count given => number (fits.cached count given)) _
  exact ((cached.cons (number fits.output) "output_tokens").cons (number fits.input) _).object

theorem MessageHeader.isLegible_encode {header : MessageHeader} (fits : header.usage.Fits)
    (room : Nat) : header.encode.IsLegible (room + 2) := by
  have usage := fieldsLegible_nil.cons (Usage.isLegible_encode fits room) "usage"
  have role : header.role.encode.IsLegible (room + 1) := by
    cases header.role <;> exact .string _ _
  exact (((usage.cons role "role").string "model" header.model).string _ _).object

theorem Closing.isLegible_encode (closing : Closing) (room : Nat) :
    closing.encode.IsLegible (room + 1) := by
  have sequence : FieldsLegible room
      (optionalField "stop_sequence" .string closing.stopSequence) :=
    fieldsLegible_optionalField (fun words _ => .string room words) _
  have reason : (Json.ofOption StopReason.encode closing.stopReason).IsLegible room := by
    cases closing.stopReason with
    | none => exact .null room
    | some reason => exact .string room _
  exact (sequence.cons reason _).object

theorem ErrorBody.isLegible_encode (body : ErrorBody) (room : Nat) :
    body.encode.IsLegible (room + 1) :=
  ((fieldsLegible_nil.string "message" body.message).string _ _).object

/-- What a value describes as a growth is nested no deeper. -/
theorem Delta.isLegible_encode_of_decode? (legible : value.IsLegible room) {delta : Delta}
    (read : decode? value = some delta) : delta.encode.IsLegible room := by
  simp only [decode?, bind, Option.bind_eq_some_iff] at read
  obtain ⟨⟨tag, body⟩, tagged, kind, -, read⟩ := read
  have opens {names : List String} {source : Json.Source}
      (opened : Json.source? names body = some source) :=
    Json.Source.exists_isLegible_of_source? (legible.of_tagged? tagged) opened
  split at read <;> simp only [Option.bind_eq_some_iff, Option.some.injEq] at read
  · obtain ⟨source, opened, words, -, rfl⟩ := read
    obtain ⟨inner, rfl, -⟩ := opens opened
    exact ((fieldsLegible_nil.string "text" words).string _ _).object
  · obtain ⟨source, opened, partialJson, -, rfl⟩ := read
    obtain ⟨inner, rfl, -⟩ := opens opened
    exact ((fieldsLegible_nil.string "partial_json" partialJson).string _ _).object
  · obtain ⟨source, opened, thought, -, rfl⟩ := read
    obtain ⟨inner, rfl, -⟩ := opens opened
    exact ((fieldsLegible_nil.string "thinking" thought).string _ _).object
  · obtain ⟨source, opened, mark, -, rfl⟩ := read
    obtain ⟨inner, rfl, -⟩ := opens opened
    exact ((fieldsLegible_nil.string "signature" mark).string _ _).object
  · obtain ⟨source, opened, citation, given, rfl⟩ := read
    obtain ⟨inner, rfl, fields⟩ := opens opened
    obtain ⟨json, isLegible, same⟩ := fields.exists_of_required given
    cases same
    exact ((fieldsLegible_nil.cons isLegible "citation").string _ _).object

/-- What is written for an event that was read needs no more levels than there are. -/
theorem Event.isLegible_encode_of_decode? (legible : value.IsLegible Json.depthLimit)
    {event : Event} (regular : event.IsRegular) (read : decode? value = some event) :
    event.encode.IsLegible Json.depthLimit := by
  have enough : 3 ≤ Json.depthLimit := by decide
  have alone : FieldsLegible 2 [] := fieldsLegible_nil
  simp only [decode?, bind, Option.bind_eq_some_iff] at read
  obtain ⟨⟨tag, body⟩, tagged, kind, -, read⟩ := read
  have opens {names : List String} {source : Json.Source}
      (opened : Json.source? names body = some source) :=
    Json.Source.exists_isLegible_of_source? (legible.of_tagged? tagged) opened
  split at read <;> simp only [Option.bind_eq_some_iff, Option.some.injEq] at read
  · obtain ⟨source, -, message, -, rfl⟩ := read
    have header := alone.cons (MessageHeader.isLegible_encode regular 0) "message"
    exact (header.string _ _).object.mono enough
  · obtain ⟨source, opened, index, -, block, given, rfl⟩ := read
    obtain ⟨inner, room, fields⟩ := opens opened
    obtain ⟨json, isLegible, same⟩ := fields.exists_of_required given
    cases same
    have inside := (Block.isLegible_encode_decode_and_nested isLegible).1
    have start := fieldsLegible_nil.cons inside "content_block"
    rw [room]
    exact ((start.cons (Json.isLegible_ofNat regular.1 inner) "index").string _ _).object
  · obtain ⟨source, opened, index, -, delta, given, rfl⟩ := read
    obtain ⟨inner, room, fields⟩ := opens opened
    obtain ⟨json, isLegible, grown⟩ := fields.exists_of_required given
    have inside := Delta.isLegible_encode_of_decode? isLegible grown
    have growth := fieldsLegible_nil.cons inside "delta"
    rw [room]
    exact ((growth.cons (Json.isLegible_ofNat regular.1 inner) "index").string _ _).object
  · obtain ⟨source, -, index, -, rfl⟩ := read
    have stop := alone.cons (Json.isLegible_ofNat regular 2) "index"
    exact (stop.string _ _).object.mono enough
  · obtain ⟨source, -, closing, -, usage, -, rfl⟩ := read
    have counts : FieldsLegible 2 (optionalField "usage" Usage.encode usage) :=
      fieldsLegible_optionalField
        (fun given member => Usage.isLegible_encode (regular given member) 1) _
    have closed := counts.cons (closing.isLegible_encode 1) "delta"
    exact (closed.string _ _).object.mono enough
  · cases eq_of_bare? read
    exact (alone.string _ _).object.mono enough
  · cases eq_of_bare? read
    exact (alone.string _ _).object.mono enough
  · obtain ⟨source, -, body, -, rfl⟩ := read
    have failure := alone.cons (body.isLegible_encode 1) "error"
    exact (failure.string _ _).object.mono enough

namespace Event

/-- An event that some JSON text stands for. -/
def IsParsed (event : Event) : Prop :=
  ∃ text value, Json.parse? text = some value ∧ decode? value = some event

/-- The text of an event that is legible is read as the value that describes it. -/
theorem parse?_render_encode {event : Event} (legible : event.encode.IsLegible Json.depthLimit) :
    Json.parse? event.encode.render = some event.encode.normalize := by
  rw [Json.parse?, Json.parseVerbatim?_render legible, Option.map_some]

/-- The events that texts stand for are those whose own texts do. -/
theorem isParsed_iff (event : Event) :
    event.IsParsed ↔ event.IsRegular ∧ event.encode.IsLegible Json.depthLimit := by
  constructor
  · rintro ⟨text, value, parsed, read⟩
    obtain ⟨normal, legible⟩ := Json.isReadable_of_parse? parsed
    have regular := isRegular_of_decode? normal read
    exact ⟨regular, isLegible_encode_of_decode? legible regular read⟩
  · rintro ⟨regular, legible⟩
    exact ⟨event.encode.render, _, parse?_render_encode legible, decode?_encode regular⟩

end Event

end ChatGateway
