import ChatGateway.Attachment.Id
import ChatGateway.Message.Block
import ChatGateway.Text.Base64

/-!
# Attachment cache

Images taken out of a request are kept for a while so that a tool can fetch them by id.  At
capacity the entry that was used longest ago makes room.
-/

namespace ChatGateway

namespace Attachment

/-- How the data of a payload is to be read. -/
inductive Encoding where
  | base64
  | url
  deriving DecidableEq, Repr, Inhabited

/-- A cached image. -/
structure Payload where
  data : String
  mediaType : String
  encoding : Encoding
  deriving DecidableEq, Repr, Inhabited

/-- How much is kept, and for how long. -/
structure Settings where
  capacity : Nat
  /-- In seconds. -/
  lifetime : Nat
  deriving DecidableEq, Repr, Inhabited

/-- The settings of a gateway that names none. -/
def Settings.standard : Settings := ⟨100, 300⟩

/-- Why a payload is not kept. -/
inductive Refusal where
  | invalidBase64 (id : String)
  | empty (id : String)
  deriving DecidableEq, Repr, Inhabited

/-- The text for a refusal. -/
def Refusal.message : Refusal → String
  | .invalidBase64 id => "attachment '" ++ id ++ "' is not valid base64"
  | .empty id => "attachment '" ++ id ++ "' has an empty payload"

/-- What storing did. -/
inductive Outcome where
  | inserted
  | alreadyPresent
  deriving DecidableEq, Repr, Inhabited

/-- How often fetching found something, found nothing, and found an entry past its time. -/
structure Counters where
  hits : Nat
  misses : Nat
  expired : Nat
  deriving DecidableEq, Repr, Inhabited

namespace Encoding

/-- The name of an encoding. -/
def name : Encoding → String
  | .base64 => "base64"
  | .url => "url"

/-- The encoding a value names. -/
def decode? (value : Json) : Option Encoding := do
  match ← Json.enumeration? false value with
  | "base64" => some .base64
  | "url" => some .url
  | _ => none

end Encoding

namespace Payload

/-- The payload of an image source. -/
def ofSource : ImageSource → Payload
  | .base64 mediaType data => ⟨data, mediaType, .base64⟩
  | .url url => ⟨url, "", .url⟩

/-- The image source of a payload. -/
def toSource (payload : Payload) : ImageSource :=
  match payload.encoding with
  | .base64 => .base64 payload.mediaType payload.data
  | .url => .url payload.data

/-- The image block of a payload. -/
def toBlock (payload : Payload) : Block := .image payload.toSource

/-- Whether the data can be what its encoding says. -/
def isWellFormed (payload : Payload) : Bool :=
  match payload.encoding with
  | .base64 => Text.Base64.isValid payload.data.toList
  | .url => !payload.data.isEmpty

/-- The payload a value describes. -/
def decode? (value : Json) : Option Payload := do
  let source ← Json.source? ["data", "media_type", "encoding"] value
  some
    { data := ← source.required "data" Json.string?
      mediaType := ← source.required "media_type" Json.string?
      encoding := ← source.required "encoding" Encoding.decode? }

/-- The value that describes a payload. -/
def encode (payload : Payload) : Json :=
  .object [("data", .string payload.data), ("media_type", .string payload.mediaType),
    ("encoding", .string payload.encoding.name)]

end Payload

/-- A payload with the time at which it was stored, in milliseconds. -/
structure Entry where
  payload : Payload
  storedAt : Nat
  deriving DecidableEq, Repr, Inhabited

end Attachment

open Attachment in
/-- The cache: its entries by id, the one used last first. -/
structure AttachmentCache where
  settings : Settings
  entries : List (String × Entry)
  counters : Counters
  deriving Inhabited

namespace AttachmentCache

open Attachment

/-- An empty cache. -/
def new (settings : Settings) : AttachmentCache := ⟨settings, [], ⟨0, 0, 0⟩⟩

/-- How many entries there is room for, at least one. -/
def capacity (cache : AttachmentCache) : Nat := max cache.settings.capacity 1

/-- Whether an entry is within its time. -/
def isLive (cache : AttachmentCache) (now : Nat) (entry : Entry) : Bool :=
  decide (now - entry.storedAt < cache.settings.lifetime * 1000)

/-- The entry of an id. -/
def peek? (cache : AttachmentCache) (id : String) : Option Entry :=
  (cache.entries.find? fun entry => entry.1 == id).map Prod.snd

/-- The entries of all other ids, in their order. -/
def others (cache : AttachmentCache) (id : String) : List (String × Entry) :=
  cache.entries.filter fun entry => entry.1 != id

/-- Puts an entry first; a new id at capacity drives out the last one. -/
def put (cache : AttachmentCache) (id : String) (entry : Entry) : AttachmentCache :=
  let rest :=
    if (cache.peek? id).isSome then cache.others id
    else cache.entries.take (cache.capacity - 1)
  { cache with entries := (id, entry) :: rest }

/-- Keeps a payload unless one is kept under this id. -/
def store (cache : AttachmentCache) (now : Nat) (id : String) (payload : Payload) :
    Except Refusal Outcome × AttachmentCache :=
  if payload.data.isEmpty then (.error (.empty id), cache)
  else if !payload.isWellFormed then (.error (.invalidBase64 id), cache)
  else if (cache.peek? id).any (cache.isLive now) then (.ok .alreadyPresent, cache)
  else (.ok .inserted, cache.put id ⟨payload, now⟩)

/-- Fetches a payload.  An entry past its time is removed. -/
def fetch (cache : AttachmentCache) (now : Nat) (id : String) :
    Option Payload × AttachmentCache :=
  match cache.peek? id with
  | none =>
      (none, { cache with counters := { cache.counters with misses := cache.counters.misses + 1 } })
  | some entry =>
      if cache.isLive now entry then
        (some entry.payload,
          { cache with
            entries := (id, entry) :: cache.others id
            counters := { cache.counters with hits := cache.counters.hits + 1 } })
      else
        (none,
          { cache with
            entries := cache.others id
            counters :=
              { cache.counters with
                misses := cache.counters.misses + 1
                expired := cache.counters.expired + 1 } })

/-- Fetches an image of a request. -/
def lookup (cache : AttachmentCache) (now : Nat) (request : String) (number : Nat) :
    Option Payload × AttachmentCache :=
  cache.fetch now (scopedId request number)

/-- Fetches the images of a request from a number on, up to the first that is not there and no more
than `limit`. -/
def lookupFrom (cache : AttachmentCache) (now : Nat) (request : String) (number : Nat) :
    Nat → List Payload × AttachmentCache
  | 0 => ([], cache)
  | limit + 1 =>
      match cache.lookup now request number with
      | (none, cache) => ([], cache)
      | (some payload, cache) =>
          let (payloads, cache) := cache.lookupFrom now request (number + 1) limit
          (payload :: payloads, cache)

/-- How many entries are kept. -/
def size (cache : AttachmentCache) : Nat := cache.entries.length

/-- Drops every entry. -/
def clear (cache : AttachmentCache) : AttachmentCache := { cache with entries := [] }

end AttachmentCache

end ChatGateway
