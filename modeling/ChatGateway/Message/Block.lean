import ChatGateway.Json.Decode

/-!
# Content blocks

A message holds a bare text or a list of blocks, and a tool result holds the same again, so
blocks nest.  A value that is no block of a known kind is kept verbatim, so decoding a block
never fails.
-/

namespace ChatGateway

/-- Where the bytes of an image come from. -/
inductive ImageSource where
  | base64 (mediaType data : String)
  | url (url : String)
  deriving DecidableEq, Repr, Inhabited

mutual

/-- A piece of message content. -/
inductive Block where
  | text (text : String) (cacheControl : Option Json)
  | image (source : ImageSource)
  | toolUse (id name : String) (input : Json)
  | toolResult (toolUseId : String) (content : Option Content) (isError : Option Bool)
  | thinking (thinking : String) (signature : Option String)
  | redactedThinking (data : String)
  | serverToolUse (id name : String) (input : Json)
  | webSearchToolResult (toolUseId : String) (content : Json)
  /-- A block of another kind, kept as it came. -/
  | other (value : Json)

/-- A bare text or a list of blocks. -/
inductive Content where
  | text (text : String)
  | blocks (blocks : List Block)

end

instance : Inhabited Block := ⟨.other .null⟩
instance : Inhabited Content := ⟨.text ""⟩

namespace ImageSource

/-- The kinds of image source. -/
def kinds : List String := ["base64", "url"]

/-- The source a value describes. -/
def decode? (value : Json) : Option ImageSource := do
  let (tag, body) ← Json.tagged? value
  match ← Json.tagName? true kinds tag with
  | "base64" =>
      let source ← Json.source? ["media_type", "data"] body
      some (.base64 (← source.required "media_type" Json.string?)
        (← source.required "data" Json.string?))
  | _ =>
      let source ← Json.source? ["url"] body
      some (.url (← source.required "url" Json.string?))

/-- The value that describes a source. -/
def encode : ImageSource → Json
  | .base64 mediaType data =>
      .object [("type", .string "base64"), ("media_type", .string mediaType),
        ("data", .string data)]
  | .url address => .object [("type", .string "url"), ("url", .string address)]

end ImageSource

/-- An optional field: left out when absent. -/
def optionalField {α : Type} (name : String) (encode : α → Json) :
    Option α → List (String × Json)
  | some value => [(name, encode value)]
  | none => []

namespace Block

/-- The kinds of block, in the order that a tag given as a position counts. -/
def kinds : List String :=
  ["text", "image", "tool_use", "tool_result", "thinking", "redacted_thinking",
    "server_tool_use", "web_search_tool_result"]

/-- A block without its tag, `nested` being its field `content` read as content: nothing where
that field is neither a text nor a list, nothing inside where it is absent or null. -/
def ofBody? (kind : String) (body : Json) (nested : Option (Option Content)) : Option Block :=
  match kind with
  | "text" => do
      let source ← Json.source? ["text", "cache_control"] body
      some (.text (← source.required "text" Json.string?)
        (← source.optional "cache_control" some))
  | "image" => do
      let source ← Json.source? ["source"] body
      some (.image (← source.required "source" ImageSource.decode?))
  | "tool_use" => do
      let source ← Json.source? ["id", "name", "input"] body
      some (.toolUse (← source.required "id" Json.string?) (← source.required "name" Json.string?)
        (← source.withDefault "input" .null some))
  | "tool_result" => do
      let source ← Json.source? ["tool_use_id", "content", "is_error"] body
      some (.toolResult (← source.required "tool_use_id" Json.string?) (← nested)
        (← source.optional "is_error" Json.bool?))
  | "thinking" => do
      let source ← Json.source? ["thinking", "signature"] body
      some (.thinking (← source.required "thinking" Json.string?)
        (← source.optional "signature" Json.string?))
  | "redacted_thinking" => do
      let source ← Json.source? ["data"] body
      some (.redactedThinking (← source.required "data" Json.string?))
  | "server_tool_use" => do
      let source ← Json.source? ["id", "name", "input"] body
      some (.serverToolUse (← source.required "id" Json.string?)
        (← source.required "name" Json.string?) (← source.withDefault "input" .null some))
  | _ => do
      let source ← Json.source? ["tool_use_id", "content"] body
      some (.webSearchToolResult (← source.required "tool_use_id" Json.string?)
        (← source.withDefault "content" .null some))

/-- The block a value describes, `nested` as in `ofBody?`. -/
def ofValue (value : Json) (nested : Option (Option Content)) : Block :=
  let known := do
    let (tag, body) ← Json.tagged? value
    let kind ← Json.tagName? true kinds tag
    ofBody? kind body nested
  known.getD (.other value)

mutual

/-- The block a value describes. -/
def decode : Json → Block
  | .object fields => ofValue (.object fields) (decodeNestedField fields)
  | .array items => ofValue (.array items) (decodeNestedItem items)
  | value => .other value

/-- The blocks of a list. -/
def decodeAll : List Json → List Block
  | [] => []
  | item :: rest => decode item :: decodeAll rest

/-- The content of a tool result. -/
def decodeNested : Json → Option (Option Content)
  | .null => some none
  | .string words => some (some (.text words))
  | .array items => some (some (.blocks (decodeAll items)))
  | _ => none

/-- The content among named fields. -/
def decodeNestedField : List (String × Json) → Option (Option Content)
  | [] => some none
  | (name, value) :: rest =>
      if name = "content" then decodeNested value else decodeNestedField rest

/-- The content among listed fields: it stands third, after the tag and the identifier. -/
def decodeNestedItem : List Json → Option (Option Content)
  | _ :: _ :: value :: _ => decodeNested value
  | _ => some none

end

mutual

/-- The value that describes a block. -/
def encode : Block → Json
  | .text words cacheControl =>
      .object ([("type", .string "text"), ("text", .string words)] ++
        optionalField "cache_control" id cacheControl)
  | .image source => .object [("type", .string "image"), ("source", source.encode)]
  | .toolUse id name input =>
      .object [("type", .string "tool_use"), ("id", .string id), ("name", .string name),
        ("input", input)]
  | .toolResult toolUseId content isError =>
      .object ([("type", .string "tool_result"), ("tool_use_id", .string toolUseId)] ++
        (match content with
        | some content => [("content", encodeContent content)]
        | none => []) ++
        optionalField "is_error" .bool isError)
  | .thinking thought signature =>
      .object ([("type", .string "thinking"), ("thinking", .string thought)] ++
        optionalField "signature" .string signature)
  | .redactedThinking data =>
      .object [("type", .string "redacted_thinking"), ("data", .string data)]
  | .serverToolUse id name input =>
      .object [("type", .string "server_tool_use"), ("id", .string id), ("name", .string name),
        ("input", input)]
  | .webSearchToolResult toolUseId content =>
      .object [("type", .string "web_search_tool_result"), ("tool_use_id", .string toolUseId),
        ("content", content)]
  | .other value => value

/-- The values that describe the blocks of a list. -/
def encodeAll : List Block → List Json
  | [] => []
  | block :: rest => encode block :: encodeAll rest

/-- A text is a string, blocks are an array. -/
def encodeContent : Content → Json
  | .text words => .string words
  | .blocks blocks => .array (encodeAll blocks)

end

/-- A block of text without a cache mark. -/
def ofText (words : String) : Block := .text words none

/-- The text of a text block. -/
def text? : Block → Option String
  | .text words _ => some words
  | _ => none

mutual

/-- Whether a block is an image or a tool result that holds one, however deep. -/
def containsImage : Block → Bool
  | .image _ => true
  | .toolResult _ (some (.blocks blocks)) _ => anyContainsImage blocks
  | _ => false

/-- Whether one of the blocks contains an image. -/
def anyContainsImage : List Block → Bool
  | [] => false
  | block :: rest => containsImage block || anyContainsImage rest

end

end Block

namespace Content

/-- A string or an array. -/
def decode? : Json → Option Content
  | .string words => some (.text words)
  | .array items => some (.blocks (Block.decodeAll items))
  | _ => none

/-- The value that describes a content. -/
def encode (content : Content) : Json := Block.encodeContent content

/-- Whether there is no character and no block. -/
def isEmpty : Content → Bool
  | .text words => words.isEmpty
  | .blocks items => items.isEmpty

/-- The content as blocks, a bare text being one block. -/
def toBlocks : Content → List Block
  | .text words => [.ofText words]
  | .blocks items => items

/-- The texts of the text blocks, one to a line. -/
def joinedText : Content → String
  | .text words => words
  | .blocks items => "\n".intercalate (items.filterMap Block.text?)

end Content

end ChatGateway
