import ChatGateway.Attachment.Cache
import ChatGateway.Message.Request
import ChatGateway.Routing.Marker

/-!
# Images on their way to a model that sees

The images of the latest turn of the user either go to the attachment cache and leave markers,
or stay and are lifted out of tool results into the turn itself.
-/

namespace ChatGateway

/-- Images being moved to the cache. -/
structure ImageIntake where
  /-- How many images have been moved. -/
  count : Nat
  cache : AttachmentCache
  deriving Inhabited

namespace ImageIntake

/-- What stands for an image that the cache does not take. -/
def unreadableText : String := "[An attached image could not be read and was omitted]"

/-- Moves one image: what stands in its place. -/
def move (intake : ImageIntake) (now : Nat) (requestId : String) (source : ImageSource) :
    Block × ImageIntake :=
  let number := intake.count + 1
  let id := Attachment.scopedId requestId number
  match intake.cache.store now id (.ofSource source) with
  | (.ok _, cache) => (.ofText (Marker.text number id), ⟨number, cache⟩)
  | (.error _, cache) => (.ofText unreadableText, { intake with cache })

mutual

/-- Moves the images of a block, however deep in tool results. -/
def moveFrom (intake : ImageIntake) (now : Nat) (requestId : String) :
    Block → Block × ImageIntake
  | .image source => intake.move now requestId source
  | .toolResult toolUseId (some (.blocks blocks)) isError =>
      let (blocks, intake) := intake.moveFromAll now requestId blocks
      (.toolResult toolUseId (some (.blocks blocks)) isError, intake)
  | block => (block, intake)

/-- Moves the images of blocks, in their order. -/
def moveFromAll (intake : ImageIntake) (now : Nat) (requestId : String) :
    List Block → List Block × ImageIntake
  | [] => ([], intake)
  | block :: rest =>
      let (block, intake) := intake.moveFrom now requestId block
      let (rest, intake) := intake.moveFromAll now requestId rest
      (block :: rest, intake)

end

end ImageIntake

namespace Tool

/-- The name of the tool that fetches an image. -/
def lookupName : String := "lookup_attachment"

/-- The tool that fetches an image. -/
def lookup : Tool where
  name := lookupName
  description := some ("Fetch an image attached earlier in the conversation. " ++
    "Pass the image_id quoted next to its [Image #n] marker.")
  inputSchema := some (.object
    [("properties", .object
        [("image_id", .object
          [("description", .string "Attachment id exactly as quoted next to the marker"),
            ("type", .string "string")])]),
      ("required", .array [.string "image_id"]), ("type", .string "object")])
  kind := none

end Tool

namespace Request

/-- The latest turn of the user as far as it is made of blocks, with its position. -/
def lastUserBlocks? (request : Request) : Option (Nat × List Block) := do
  let position ← request.lastUserIndex?
  let message ← request.messages[position]?
  match message.content with
  | .blocks blocks => some (position, blocks)
  | .text _ => none

/-- Replaces the blocks of a turn. -/
def setBlocks (request : Request) (position : Nat) (blocks : List Block) : Request :=
  { request with
    messages := request.messages.modify position fun message =>
      { message with content := .blocks blocks } }

/-- Whether the latest turn of the user has an image, in itself or in a tool result. -/
def hasInlineImage (request : Request) : Bool :=
  request.lastUserBlocks?.any fun turn => Block.anyContainsImage turn.2

/-- A block without the markers in its text. -/
def stripBlockMarkers : Block → Block
  | .text words cacheControl => .text (Marker.strip words) cacheControl
  | block => block

/-- A content without the markers in its texts. -/
def stripContentMarkers : Content → Content
  | .text words => .text (Marker.strip words)
  | .blocks blocks => .blocks (blocks.map stripBlockMarkers)

/-- The request without the markers that earlier turns of the user have. -/
def stripMarkers (request : Request) : Request :=
  { request with
    messages := request.messages.map fun message =>
      match message.role with
      | .user => { message with content := stripContentMarkers message.content }
      | .assistant => message }

/-- Declares the tool that fetches an image, unless one of its name is declared. -/
def declareLookup (request : Request) : Request :=
  let tools := request.tools.getD []
  if tools.any fun tool => tool.name == Tool.lookupName then request
  else { request with tools := some (tools ++ [.lookup]) }

/-- Moves the images of the latest turn of the user to the cache; the count is how many. -/
def moveImages (request : Request) (now : Nat) (requestId : String) (cache : AttachmentCache) :
    Request × ImageIntake :=
  let request := request.stripMarkers
  match request.lastUserBlocks? with
  | none => (request, ⟨0, cache⟩)
  | some (position, blocks) =>
      let (blocks, intake) := ImageIntake.moveFromAll ⟨0, cache⟩ now requestId blocks
      let request := request.setBlocks position blocks
      (if 0 < intake.count then request.declareLookup else request, intake)

/-- The block without images in it, where it is a tool result, and the images lifted out.  Of
such a tool result only the texts stay. -/
def liftImages : Block → Block × List Block
  | .toolResult toolUseId (some (.blocks blocks)) isError =>
      if Block.anyContainsImage blocks then
        let texts := blocks.filterMap Block.text?
        let images := blocks.filter fun block =>
          match block with
          | .image _ => true
          | _ => false
        (.toolResult toolUseId (some (.text ("\n".intercalate texts))) isError, images)
      else (.toolResult toolUseId (some (.blocks blocks)) isError, [])
  | block => (block, [])

/-- Lifts the images in tool results of the latest turn of the user to the end of the turn. -/
def hoistImages (request : Request) : Request :=
  match request.lastUserBlocks? with
  | none => request
  | some (position, blocks) =>
      let lifted := blocks.map liftImages
      request.setBlocks position (lifted.map Prod.fst ++ (lifted.map Prod.snd).flatten)

end Request

end ChatGateway
