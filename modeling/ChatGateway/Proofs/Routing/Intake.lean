import ChatGateway.Gateway.Setup
import ChatGateway.Proofs.Message.Images
import ChatGateway.Proofs.Routing.Tags
import ChatGateway.Routing.Images
import Mathlib.Data.List.Forall2
import Mathlib.Data.List.Induction

/-!
# Moving images to the cache

The images of the latest turn of the user are numbered as they come, and those that can be read
leave a marker with their number.  As long as the cache has room for all of them, each one is found
again under the id that its marker quotes.
-/

namespace ChatGateway

open Attachment

namespace AttachmentCache

theorem store_of_isReadable {cache : AttachmentCache} {source : ImageSource} {id : String}
    (readable : source.isReadable) (absent : cache.peek? id = none) (now : Nat) :
    cache.store now id (.ofSource source) =
      (.ok .inserted, cache.put id ⟨.ofSource source, now⟩) := by
  cases source <;>
    simp_all [ImageSource.isReadable, store, Payload.ofSource, Payload.isWellFormed]

theorem store_of_not_isReadable {source : ImageSource} (unreadable : source.isReadable = false)
    (cache : AttachmentCache) (now : Nat) (id : String) :
    ∃ refusal, cache.store now id (.ofSource source) = (.error refusal, cache) := by
  cases source with
  | base64 mediaType data =>
      by_cases empty : data.isEmpty
      · exact ⟨.empty id, by simp [store, Payload.ofSource, empty]⟩
      · refine ⟨.invalidBase64 id, ?_⟩
        simp_all [ImageSource.isReadable, store, Payload.ofSource, Payload.isWellFormed]
  | url address =>
      refine ⟨.empty id, ?_⟩
      simp_all [ImageSource.isReadable, store, Payload.ofSource]

theorem fetch_of_isLive {cache : AttachmentCache} {id : String} {entry : Entry} {now : Nat}
    (kept : cache.peek? id = some entry) (live : cache.isLive now entry) :
    (cache.fetch now id).1 = some entry.payload := by
  simp [fetch, kept, live]

end AttachmentCache

theorem Attachment.Payload.toBlock_ofSource (source : ImageSource) :
    (Payload.ofSource source).toBlock = .image source := by
  cases source <;> rfl

namespace ImageIntake

/-! ## Numbered images -/

/-- The images that can be read. -/
def readable (images : List ImageSource) : List ImageSource :=
  images.filter ImageSource.isReadable

/-- What is said in place of an image that has been moved: its number, and how it is fetched by its
id. -/
def movedText (requestId : String) (number : Nat) : String :=
  "[Image #" ++ toString number ++ "] This image was moved to an attachment. " ++
    "Call the lookup_attachment tool with image_id \"" ++ requestId ++ "#" ++ toString number ++
    "\" to view it."

/-- What is said in place of an image that cannot be read. -/
def omittedText : String := "[An attached image could not be read and was omitted]"

theorem text_scopedId (requestId : String) (number : Nat) :
    Marker.text number (scopedId requestId number) = movedText requestId number := by
  simp [Marker.text, Marker.opening, Marker.noteHead, Marker.noteTail, scopedId, movedText,
    String.append_assoc]

/-- What stands for images, the numbers going on from the given one: a marker with the next number
for each that can be read, the note for each other one. -/
def standIns (requestId : String) (number : Nat) : List ImageSource → List Block
  | [] => []
  | source :: rest =>
      if source.isReadable then
        .text (movedText requestId number) none :: standIns requestId (number + 1) rest
      else .text omittedText none :: standIns requestId number rest

theorem length_standIns (requestId : String) (number : Nat) (images : List ImageSource) :
    (standIns requestId number images).length = images.length := by
  induction images generalizing number with
  | nil => rfl
  | cons source rest ih =>
      rw [standIns]
      split <;> simp [ih]

theorem standIns_append (requestId : String) (number : Nat) (images more : List ImageSource) :
    standIns requestId number (images ++ more) =
      standIns requestId number images ++
        standIns requestId (number + (readable images).length) more := by
  induction images generalizing number with
  | nil => rfl
  | cons source rest ih =>
      by_cases reads : source.isReadable
      · simp [standIns, readable, reads, ih, Nat.add_assoc, Nat.add_comm 1]
      · simp [standIns, readable, reads, ih]

theorem images_of_mem_standIns {requestId : String} {number : Nat} {images : List ImageSource}
    {standIn : Block} (mem : standIn ∈ standIns requestId number images) : standIn.images = [] := by
  induction images generalizing number with
  | nil => cases mem
  | cons source rest ih =>
      rw [standIns] at mem
      split at mem
      · rcases List.mem_cons.mp mem with rfl | later
        · rfl
        · exact ih later
      · rcases List.mem_cons.mp mem with rfl | later
        · rfl
        · exact ih later

/-! ## The cache while images are moved -/

/-- The entries of the images of a request that have been moved, the latest first. -/
def parked (requestId : String) (now : Nat) (moved : List ImageSource) : List (String × Entry) :=
  (moved.mapIdx fun index source =>
    (scopedId requestId (index + 1), ⟨.ofSource source, now⟩)).reverse

theorem parked_concat (requestId : String) (now : Nat) (moved : List ImageSource)
    (source : ImageSource) :
    parked requestId now (moved ++ [source]) =
      (scopedId requestId (moved.length + 1), ⟨.ofSource source, now⟩) ::
        parked requestId now moved := by
  simp [parked, List.mapIdx_append]

theorem length_parked (requestId : String) (now : Nat) (moved : List ImageSource) :
    (parked requestId now moved).length = moved.length := by
  simp [parked]

/-- Images of a request have been moved: what came into the cache last are their entries, and no
other entry is one of the request. -/
structure Carries (requestId : String) (now : Nat) (settings : Settings)
    (moved : List ImageSource) (intake : ImageIntake) : Prop where
  count : intake.count = moved.length
  settings : intake.cache.settings = settings
  entries : ∃ rest, intake.cache.entries = parked requestId now moved ++ rest ∧
    ∀ entry ∈ rest, ∀ number, entry.1 ≠ scopedId requestId number

variable {requestId : String} {now : Nat} {settings : Settings} {moved : List ImageSource}
  {intake : ImageIntake}

/-- Nothing has been moved where a request has no entry. -/
theorem carries_of_absent {cache : AttachmentCache}
    (absent : ∀ number, cache.peek? (scopedId requestId number) = none) :
    Carries requestId now cache.settings [] ⟨0, cache⟩ where
  count := rfl
  settings := rfl
  entries := by
    refine ⟨cache.entries, rfl, ?_⟩
    intro entry mem number same
    have missing := absent number
    rw [AttachmentCache.peek?, Option.map_eq_none_iff, List.find?_eq_none] at missing
    exact missing entry mem (by simp [same])

namespace Carries

/-- The next number is free. -/
theorem peek?_next (carries : Carries requestId now settings moved intake) :
    intake.cache.peek? (scopedId requestId (moved.length + 1)) = none := by
  obtain ⟨rest, entries, foreign⟩ := carries.entries
  rw [AttachmentCache.peek?, entries, Option.map_eq_none_iff, List.find?_eq_none]
  intro entry mem same
  rw [beq_iff_eq] at same
  rcases List.mem_append.mp mem with mine | other
  · rw [parked, List.mem_reverse, List.mem_mapIdx] at mine
    obtain ⟨index, within, rfl⟩ := mine
    have := scopedId_injective same
    omega
  · exact foreign entry other _ same

/-- Each number that has been given is that of its image. -/
theorem peek?_of_moved (carries : Carries requestId now settings moved intake) {index : Nat}
    {source : ImageSource} (found : moved[index]? = some source) :
    intake.cache.peek? (scopedId requestId (index + 1)) = some ⟨.ofSource source, now⟩ := by
  obtain ⟨rest, entries, foreign⟩ := carries.entries
  rw [AttachmentCache.peek?, entries]
  clear carries entries
  induction moved using List.reverseRecOn with
  | nil => cases found
  | append_singleton moved latest ih =>
      rw [parked_concat]
      by_cases last : index = moved.length
      · subst last
        simp_all
      · have different : scopedId requestId (moved.length + 1) ≠
            scopedId requestId (index + 1) := by
          intro same
          have := scopedId_injective same
          omega
        have before : index < moved.length := by
          have within := (List.getElem?_eq_some_iff.mp found).1
          rw [List.length_append, List.length_singleton] at within
          omega
        rw [List.getElem?_append_left before] at found
        rw [List.cons_append, List.find?_cons_of_neg (by simpa using different)]
        exact ih found

/-- Within the lifetime, the id in a marker fetches the image that the marker stands for. -/
theorem lookup_of_moved (carries : Carries requestId now settings moved intake)
    (scope : IsScope requestId) (word : Word.fits 64 settings.capacity)
    (room : moved.length ≤ max settings.capacity 1) {index : Nat} {source : ImageSource}
    (found : moved[index]? = some source) {later : Nat}
    (live : later - now < settings.lifetime * 1000) {state : GatewayState}
    (carried : state.cache = intake.cache) :
    (state.lookup later (scopedId requestId (index + 1))).1 = some (.ofSource source) := by
  have small : Word.fits 64 (index + 1) := by
    have within := (List.getElem?_eq_some_iff.mp found).1
    have bits : 1 < Word.size 64 := by decide
    have fits := of_decide_eq_true word
    exact decide_eq_true (by omega)
  have lives : state.cache.isLive later ⟨.ofSource source, now⟩ := by
    rw [carried, AttachmentCache.isLive, carries.settings]
    exact decide_eq_true live
  have kept := carries.peek?_of_moved found
  rw [← carried] at kept
  rw [GatewayState.lookup, parseId?_scopedId scope small]
  exact AttachmentCache.fetch_of_isLive kept lives

/-- An image that can be read gets the next number, if there is room. -/
theorem move (carries : Carries requestId now settings moved intake) {source : ImageSource}
    (reads : source.isReadable) (room : moved.length < max settings.capacity 1) :
    (intake.move now requestId source).1 =
        .ofText (Marker.text (moved.length + 1) (scopedId requestId (moved.length + 1))) ∧
      Carries requestId now settings (moved ++ [source]) (intake.move now requestId source).2 := by
  have free := carries.peek?_next
  obtain ⟨rest, entries, foreign⟩ := carries.entries
  simp only [ImageIntake.move, carries.count, AttachmentCache.store_of_isReadable reads free,
    true_and]
  constructor
  · simp
  · exact carries.settings
  · refine ⟨rest.take (max settings.capacity 1 - 1 - moved.length), ?_, ?_⟩
    · -- what is driven out is an entry from before
      have mine : (parked requestId now moved).take (max settings.capacity 1 - 1) =
          parked requestId now moved := by
        apply List.take_of_length_le
        rw [length_parked]
        omega
      simp only [AttachmentCache.put, free, Option.isSome_none, Bool.false_eq_true, if_false,
        AttachmentCache.capacity, carries.settings, entries, List.take_append, mine,
        length_parked, parked_concat, List.cons_append]
    · intro entry mem
      exact foreign entry (List.mem_of_mem_take mem)

end Carries

/-- An image that cannot be read changes nothing. -/
theorem move_of_not_isReadable {source : ImageSource} (unreadable : source.isReadable = false)
    (intake : ImageIntake) (now : Nat) (requestId : String) :
    intake.move now requestId source = (.ofText unreadableText, intake) := by
  obtain ⟨refusal, refused⟩ := AttachmentCache.store_of_not_isReadable unreadable intake.cache now
    (scopedId requestId (intake.count + 1))
  rw [move, refused]

/-- Moving the images of a piece of a message gives it their stand-ins and takes those that can be
read into the cache. -/
structure Moves (requestId : String) (now : Nat) (settings : Settings) (moved : List ImageSource)
    {Piece : Type} (place : List Block → Piece) (images : List ImageSource)
    (result : Piece × ImageIntake) : Prop where
  placed : result.1 = place (standIns requestId (moved.length + 1) images)
  carries : Carries requestId now settings (moved ++ readable images) result.2

/-- One image. -/
theorem Carries.moves_move (carries : Carries requestId now settings moved intake)
    (source : ImageSource)
    (room : (moved ++ readable [source]).length ≤ max settings.capacity 1) :
    Moves requestId now settings moved (Block.place · (.image source)) [source]
      (intake.move now requestId source) := by
  cases reads : source.isReadable with
  | true =>
      have taken : readable [source] = [source] := by simp [readable, reads]
      rw [taken, List.length_append, List.length_singleton] at room
      obtain ⟨marker, after⟩ := carries.move reads room
      constructor
      · rw [marker, text_scopedId, standIns, if_pos reads]
        rfl
      · rwa [taken]
  | false =>
      have left : readable [source] = [] := by simp [readable, reads]
      rw [move_of_not_isReadable reads]
      constructor
      · rw [standIns, if_neg (by simp [reads])]
        rfl
      · rwa [left, List.append_nil]

/-- Blocks and lists of blocks, however deep their images are. -/
theorem Carries.moves_moveFrom :
    (∀ (block : Block) (moved : List ImageSource) (intake : ImageIntake),
      Carries requestId now settings moved intake →
      (moved ++ readable block.images).length ≤ max settings.capacity 1 →
        Moves requestId now settings moved (Block.place · block) block.images
          (intake.moveFrom now requestId block)) ∧
    (∀ (blocks : List Block) (moved : List ImageSource) (intake : ImageIntake),
      Carries requestId now settings moved intake →
      (moved ++ readable (Block.imagesOfAll blocks)).length ≤ max settings.capacity 1 →
        Moves requestId now settings moved (Block.placeAll · blocks) (Block.imagesOfAll blocks)
          (intake.moveFromAll now requestId blocks)) := by
  refine Block.images.mutual_induct _ _ ?image ?nested ?flat ?nil ?cons
  case image =>
    intro source moved intake carries room
    exact carries.moves_move source room
  case nested =>
    intro toolUseId blocks isError ih moved intake carries room
    obtain ⟨placed, after⟩ := ih moved intake carries room
    constructor
    · rw [moveFrom, Block.place, Block.images]
      simp only [placed]
    · exact after
  case flat =>
    intro block notImage notNested moved intake carries room
    rw [Block.images.eq_3 block notImage notNested,
      moveFrom.eq_3 intake now requestId block notImage notNested]
    constructor
    · exact (Block.place.eq_3 _ block notImage notNested).symm
    · simpa [readable] using carries
  case nil =>
    intro moved intake carries room
    constructor
    · rfl
    · simpa [moveFromAll, Block.imagesOfAll, readable] using carries
  case cons =>
    intro block rest ihBlock ihRest moved intake carries room
    have splits : readable (Block.imagesOfAll (block :: rest)) =
        readable block.images ++ readable (Block.imagesOfAll rest) := by
      rw [Block.imagesOfAll, readable, List.filter_append, readable, readable]
    rw [splits, ← List.append_assoc] at room
    obtain ⟨first, between⟩ := ihBlock moved intake carries (by
      rw [List.length_append] at room
      omega)
    obtain ⟨later, after⟩ := ihRest _ _ between room
    constructor
    · have onward : (moved ++ readable block.images).length + 1 =
          moved.length + 1 + (readable block.images).length := by
        rw [List.length_append]
        omega
      rw [onward] at later
      simp only [moveFromAll, first, later, Block.imagesOfAll, standIns_append, Block.placeAll]
      rw [List.take_left' (length_standIns ..), List.drop_left' (length_standIns ..)]
    · rw [splits, ← List.append_assoc]
      exact after

end ImageIntake

namespace Request

/-! ## The latest turn -/

/-- Only the roles say which turn of the user is the latest. -/
theorem lastUserIndex?_congr {request other : Request}
    (same : request.messages.map Message.role = other.messages.map Message.role) :
    request.lastUserIndex? = other.lastUserIndex? := by
  have byRoles : ∀ messages : List Message,
      ((messages.zipIdx.filter fun turn => turn.1.role = .user).getLast?.map Prod.snd) =
        (((messages.map Message.role).zipIdx.filter fun turn => turn.1 = .user).getLast?.map
          Prod.snd) := by
    intro messages
    rw [List.zipIdx_map, List.filter_map, List.getLast?_map, Option.map_map]
    rfl
  rw [lastUserIndex?, lastUserIndex?, byRoles, byRoles, same]

theorem roles_stripMarkers (request : Request) :
    request.stripMarkers.messages.map Message.role = request.messages.map Message.role := by
  rw [stripMarkers, List.map_map]
  apply List.map_congr_left
  intro message _
  rw [Function.comp_apply]
  split <;> simp_all

theorem roles_setBlocks (request : Request) (position : Nat) (blocks : List Block) :
    (request.setBlocks position blocks).messages.map Message.role =
      request.messages.map Message.role := by
  apply List.ext_getElem?
  intro index
  simp only [setBlocks, List.getElem?_map, List.getElem?_modify]
  cases request.messages[index]? with
  | none => rfl
  | some message => by_cases here : position = index <;> simp [here]

theorem lastUserBlocks?_eq_some {request : Request} {position : Nat} {blocks : List Block} :
    request.lastUserBlocks? = some (position, blocks) ↔
      request.lastUserIndex? = some position ∧
        ∃ message, request.messages[position]? = some message ∧
          message.content = .blocks blocks := by
  constructor
  · intro found
    simp only [lastUserBlocks?, bind, Option.bind_eq_some_iff] at found
    obtain ⟨latest, index, message, there, turn⟩ := found
    split at turn
    · rename_i content
      cases turn
      exact ⟨index, message, there, content⟩
    · cases turn
  · rintro ⟨index, message, there, content⟩
    simp [lastUserBlocks?, index, there, content]

theorem role_of_lastUserIndex? {request : Request} {position : Nat} {message : Message}
    (latest : request.lastUserIndex? = some position)
    (there : request.messages[position]? = some message) : message.role = .user := by
  obtain ⟨⟨turn, index⟩, last, rfl⟩ := Option.map_eq_some_iff.mp latest
  obtain ⟨mem, user⟩ := List.mem_filter.mp (List.mem_of_getLast? last)
  rw [List.mk_mem_zipIdx_iff_getElem?] at mem
  rw [mem] at there
  cases there
  exact of_decide_eq_true user

/-- Without the markers of earlier turns, the latest turn of the user is still the same one. -/
theorem lastUserBlocks?_stripMarkers (request : Request) :
    request.stripMarkers.lastUserBlocks? =
      request.lastUserBlocks?.map fun turn => (turn.1, turn.2.map stripBlockMarkers) := by
  rw [lastUserBlocks?, lastUserBlocks?, lastUserIndex?_congr (roles_stripMarkers request)]
  cases latest : request.lastUserIndex? with
  | none => rfl
  | some position =>
      cases there : request.messages[position]? with
      | none => simp [stripMarkers, there]
      | some message =>
          have user := role_of_lastUserIndex? latest there
          cases content : message.content with
          | text words => simp [stripMarkers, there, user, content, stripContentMarkers]
          | blocks blocks => simp [stripMarkers, there, user, content, stripContentMarkers]

theorem lastUserBlocks?_setBlocks {request : Request} {position : Nat} {blocks : List Block}
    (latest : request.lastUserBlocks? = some (position, blocks)) (others : List Block)
    (tools : Option (List Tool)) :
    { request.setBlocks position others with tools }.lastUserBlocks? = some (position, others) := by
  obtain ⟨index, message, there, -⟩ := lastUserBlocks?_eq_some.mp latest
  rw [lastUserBlocks?_eq_some]
  constructor
  · exact (lastUserIndex?_congr (roles_setBlocks request position others)).trans index
  · refine ⟨{ message with content := .blocks others }, ?_, rfl⟩
    simp [setBlocks, there]

/-- Stripping markers leaves images where they are. -/
theorem imagesOfAll_stripBlockMarkers (blocks : List Block) :
    Block.imagesOfAll (blocks.map stripBlockMarkers) = Block.imagesOfAll blocks := by
  induction blocks with
  | nil => rfl
  | cons block rest ih =>
      have same : (stripBlockMarkers block).images = block.images := by
        cases block <;> rfl
      rw [List.map_cons, Block.imagesOfAll, Block.imagesOfAll, same, ih]

/-- The images of the latest turn of the user, in their order. -/
def latestImages (request : Request) : List ImageSource :=
  match request.lastUserBlocks? with
  | some turn => Block.imagesOfAll turn.2
  | none => []

theorem latestImages_of_some {request : Request} {position : Nat} {blocks : List Block}
    (latest : request.lastUserBlocks? = some (position, blocks)) :
    request.latestImages = Block.imagesOfAll blocks := by
  rw [latestImages, latest]

/-! ## Stale markers -/

/-- A block whose own text, if it is one, has lost its markers. -/
inductive UnmarksBlock : Block → Block → Prop where
  | text {words stripped : String} (strips : Marker.Strips words stripped)
      (cacheControl : Option Json) :
      UnmarksBlock (.text words cacheControl) (.text stripped cacheControl)
  | other {block : Block} (notText : ∀ words cacheControl, block ≠ .text words cacheControl) :
      UnmarksBlock block block

/-- A turn whose own texts, if it is one of the user, have lost their markers. -/
inductive UnmarksTurn : Message → Message → Prop where
  | bare {words stripped : String} (strips : Marker.Strips words stripped) :
      UnmarksTurn ⟨.user, .text words⟩ ⟨.user, .text stripped⟩
  | blocks {blocks unmarked : List Block} (each : List.Forall₂ UnmarksBlock blocks unmarked) :
      UnmarksTurn ⟨.user, .blocks blocks⟩ ⟨.user, .blocks unmarked⟩
  | assistant (content : Content) : UnmarksTurn ⟨.assistant, content⟩ ⟨.assistant, content⟩

theorem unmarksBlock_stripBlockMarkers (block : Block) :
    UnmarksBlock block (stripBlockMarkers block) := by
  cases block with
  | text words cacheControl => exact .text (Marker.strips_iff.mpr rfl) cacheControl
  | image | toolUse | toolResult | thinking | redactedThinking | serverToolUse
    | webSearchToolResult | other => exact .other nofun

theorem unmarksBlocks_stripBlockMarkers (blocks : List Block) :
    List.Forall₂ UnmarksBlock blocks (blocks.map stripBlockMarkers) :=
  List.forall₂_map_right_iff.mpr
    (List.forall₂_same.mpr fun block _ => unmarksBlock_stripBlockMarkers block)

theorem unmarksTurns_stripMarkers (request : Request) :
    List.Forall₂ UnmarksTurn request.messages request.stripMarkers.messages := by
  refine List.forall₂_map_right_iff.mpr (List.forall₂_same.mpr ?_)
  rintro ⟨role, content⟩ _
  cases role with
  | assistant => exact .assistant content
  | user =>
      cases content with
      | text words => exact .bare (Marker.strips_iff.mpr rfl)
      | blocks blocks => exact .blocks (unmarksBlocks_stripBlockMarkers blocks)

/-- The tools of a request of which so many images have been moved: the one that fetches images is
among them if there are any, and not twice. -/
def toolsAfter (request : Request) (count : Nat) : Option (List Tool) :=
  if count = 0 ∨ (request.tools.getD []).any (fun tool => tool.name == "lookup_attachment") then
    request.tools
  else some (request.tools.getD [] ++ [.lookup])

/-- Where images have been moved, a tool of that name can be asked for them. -/
theorem exists_mem_toolsAfter (request : Request) {count : Nat} (some : 0 < count) :
    ∃ tool ∈ (request.toolsAfter count).getD [], tool.name = "lookup_attachment" := by
  rw [toolsAfter]
  split
  · rename_i declared
    obtain ⟨tool, member, named⟩ :=
      List.any_eq_true.mp (declared.resolve_left (Nat.pos_iff_ne_zero.mp some))
    exact ⟨tool, member, by simpa using named⟩
  · exact ⟨.lookup, List.mem_append_right _ (List.mem_singleton_self _), rfl⟩

/-! ## The whole request -/

/-- What a request is, and what the cache holds, once the images of its latest turn have been
moved. -/
structure MovesImages (request : Request) (now : Nat) (requestId : String)
    (cache : AttachmentCache) (after : Request) (intake : ImageIntake) : Prop where
  /-- The images that can be read are counted. -/
  count : intake.count = (ImageIntake.readable request.latestImages).length
  /-- The blocks of the turn stay in their order and nesting, without stale markers, and every
  image makes room for its marker or for the note. -/
  turn : ∀ position blocks, request.lastUserBlocks? = some (position, blocks) →
    List.Forall₂ UnmarksBlock blocks (blocks.map stripBlockMarkers) ∧
      after.lastUserBlocks? =
        some (position, Block.placeAll (ImageIntake.standIns requestId 1 request.latestImages)
          (blocks.map stripBlockMarkers))
  /-- No image is left in the turn, at any depth. -/
  imageless : after.latestImages = []
  /-- All other turns only lose their stale markers. -/
  others : ∀ index, request.lastUserBlocks?.map Prod.fst ≠ some index →
    after.messages[index]? = request.stripMarkers.messages[index]?
  /-- Stale markers are those in the own texts of the user. -/
  unmarked : List.Forall₂ UnmarksTurn request.messages request.stripMarkers.messages
  /-- The tool that fetches images is declared if there are any, and not twice. -/
  tools : after.tools = request.toolsAfter intake.count
  declared : 0 < intake.count → ∃ tool ∈ after.tools.getD [], tool.name = "lookup_attachment"
  /-- Nothing else of the request changes. -/
  rest : { after with messages := request.messages, tools := request.tools } = request
  /-- Within the lifetime, the id in a marker fetches the image that it stands for. -/
  found : ∀ index source, (ImageIntake.readable request.latestImages)[index]? = some source →
    ∀ later, later - now < cache.settings.lifetime * 1000 →
      ∀ state : GatewayState, state.cache = intake.cache →
        ∃ payload,
          (state.lookup later (requestId ++ "#" ++ toString (index + 1))).1 = some payload ∧
            payload.toBlock = .image source

/-- Without a turn made of blocks there is nothing to move. -/
theorem moveImages_of_none {request : Request} (bare : request.lastUserBlocks? = none) (now : Nat)
    (requestId : String) (cache : AttachmentCache) :
    request.moveImages now requestId cache = (request.stripMarkers, ⟨0, cache⟩) := by
  rw [moveImages, lastUserBlocks?_stripMarkers, bare]
  rfl

theorem declareLookup_of_count (request : Request) (count : Nat) :
    (if 0 < count then request.declareLookup else request) =
      { request with tools := request.toolsAfter count } := by
  cases count with
  | zero => rfl
  | succ count =>
      rw [if_pos (Nat.succ_pos count)]
      have named : Tool.lookupName = "lookup_attachment" := rfl
      by_cases declared : (request.tools.getD []).any (fun tool => tool.name == "lookup_attachment")
      · simp only [declareLookup, toolsAfter, named, declared, or_true, if_true]
      · simp only [declareLookup, toolsAfter, named, declared, Nat.succ_ne_zero, or_self,
          Bool.false_eq_true, if_false]

/-- A turn made of blocks is replaced, and the tool is declared if an image has been moved. -/
theorem moveImages_of_some {request : Request} {position : Nat} {blocks : List Block}
    (latest : request.lastUserBlocks? = some (position, blocks)) (now : Nat) (requestId : String)
    (cache : AttachmentCache) :
    request.moveImages now requestId cache =
      let moved := ImageIntake.moveFromAll ⟨0, cache⟩ now requestId (blocks.map stripBlockMarkers)
      ({ request.stripMarkers.setBlocks position moved.1 with
          tools := request.toolsAfter moved.2.count }, moved.2) := by
  have turn := lastUserBlocks?_stripMarkers request
  rw [latest, Option.map_some] at turn
  simp only [moveImages, turn, declareLookup_of_count]
  rfl

theorem movesImages_of_none {request : Request} (bare : request.lastUserBlocks? = none) (now : Nat)
    (requestId : String) (cache : AttachmentCache) :
    MovesImages request now requestId cache request.stripMarkers ⟨0, cache⟩ := by
  have imageless : request.latestImages = [] := by rw [latestImages, bare]
  constructor
  case count =>
    rw [imageless]
    rfl
  case turn =>
    intro position blocks some
    cases bare.symm.trans some
  case imageless => rw [latestImages, lastUserBlocks?_stripMarkers, bare, Option.map_none]
  case others =>
    intro index _
    rfl
  case unmarked => exact unmarksTurns_stripMarkers request
  case tools => rfl
  case declared => exact fun some => absurd some (Nat.lt_irrefl 0)
  case rest => rfl
  case found =>
    intro index source found
    rw [imageless] at found
    cases found

/-- Where the cache holds nothing of a request and has room for its images, they are moved. -/
theorem movesImages_of_isScope (request : Request) (now : Nat) {requestId : String}
    {cache : AttachmentCache} (scope : IsScope requestId)
    (absent : ∀ number, cache.peek? (scopedId requestId number) = none)
    (word : Word.fits 64 cache.settings.capacity)
    (room : (ImageIntake.readable request.latestImages).length ≤ cache.capacity) :
    MovesImages request now requestId cache (request.moveImages now requestId cache).1
      (request.moveImages now requestId cache).2 := by
  cases latest : request.lastUserBlocks? with
  | none =>
      rw [moveImages_of_none latest]
      exact movesImages_of_none latest now requestId cache
  | some turn =>
      obtain ⟨position, blocks⟩ := turn
      have stripped : request.stripMarkers.lastUserBlocks? =
          some (position, blocks.map stripBlockMarkers) := by
        rw [lastUserBlocks?_stripMarkers, latest, Option.map_some]
      have images : Block.imagesOfAll (blocks.map stripBlockMarkers) = request.latestImages := by
        rw [imagesOfAll_stripBlockMarkers, latestImages_of_some latest]
      have nothing : ImageIntake.Carries requestId now cache.settings [] ⟨0, cache⟩ :=
        ImageIntake.carries_of_absent absent
      have moves := ImageIntake.Carries.moves_moveFrom.2 (blocks.map stripBlockMarkers) []
        ⟨0, cache⟩ nothing
      rw [images] at moves
      obtain ⟨placed, carries⟩ := moves room
      rw [moveImages_of_some latest]
      generalize ImageIntake.moveFromAll ⟨0, cache⟩ now requestId (blocks.map stripBlockMarkers) =
        moved at placed carries
      have replaced := lastUserBlocks?_setBlocks stripped moved.1
        (request.toolsAfter moved.2.count)
      constructor
      case count => exact carries.count
      case turn =>
        intro position blocks some
        cases latest.symm.trans some
        exact ⟨unmarksBlocks_stripBlockMarkers blocks, replaced.trans (by rw [placed]; rfl)⟩
      case imageless =>
        refine (latestImages_of_some replaced).trans ?_
        rw [placed]
        apply Block.images_place_eq_nil.2
        · intro standIn mem
          exact ImageIntake.images_of_mem_standIns mem
        · rw [ImageIntake.length_standIns, images]
      case others =>
        intro index other
        rw [latest, Option.map_some, ne_eq, Option.some.injEq] at other
        simp [setBlocks, other]
      case unmarked => exact unmarksTurns_stripMarkers request
      case tools => rfl
      case declared => exact exists_mem_toolsAfter request
      case rest => rfl
      case found =>
        intro index source found later live state carried
        exact ⟨.ofSource source, carries.lookup_of_moved scope word room found live carried,
          Payload.toBlock_ofSource source⟩

/-- Under an identifier of which the cache holds nothing, and with room for them, the images of the
latest turn of the user are moved. -/
theorem movesImages_of_uuid (request : Request) (now : Nat) (uuid : Uuid)
    {cache : AttachmentCache} (absent : ∀ number, cache.peek? (scopedId uuid.text number) = none)
    (word : Word.fits 64 cache.settings.capacity)
    (room : (ImageIntake.readable request.latestImages).length ≤ cache.capacity) :
    MovesImages request now uuid.text cache (request.moveImages now uuid.text cache).1
      (request.moveImages now uuid.text cache).2 :=
  movesImages_of_isScope request now uuid.isScope_text absent word room

/-- A page, an image without an address and a screenshot that a tool gave back, with room for two:
the screenshot is the second image, and its id fetches it at once. -/
theorem movesImages_of_uuid_screenshot :
    let page : ImageSource := .base64 "image/png" "aGk="
    let screenshot : ImageSource := .url "http://images.test/screenshot"
    let request := ofMessages "m" [.userBlocks [.image page, .image (.url ""),
      .toolResult "t" (some (.blocks [.ofText "done", .image screenshot])) none]]
    let cache := AttachmentCache.new ⟨2, 1⟩
    let moved := request.moveImages 7 Uuid.zero.text cache
    let marker := ImageIntake.movedText Uuid.zero.text
    let id := Uuid.zero.text ++ "#2"
    MovesImages request 7 Uuid.zero.text cache moved.1 moved.2 ∧ moved.2.count = 2 ∧
      moved.1.lastUserBlocks? = some (0, [.ofText (marker 1), .ofText ImageIntake.omittedText,
        .toolResult "t" (some (.blocks [.ofText "done", .ofText (marker 2)])) none]) ∧
      ∃ payload,
        ((GatewayState.mk default moved.2.cache default).lookup 7 id).1 = some payload ∧
          payload.toBlock = .image screenshot := by
  intro page screenshot request cache moved marker id
  have images : request.latestImages = [page, .url "", screenshot] := rfl
  have readable : ImageIntake.readable request.latestImages = [page, screenshot] := by
    rw [images]
    decide +kernel
  have moves : MovesImages request 7 Uuid.zero.text cache moved.1 moved.2 := by
    apply movesImages_of_uuid
    · intro number
      rfl
    · decide
    · rw [readable]
      decide
  refine ⟨moves, ?_, ?_, ?_⟩
  · rw [moves.count, readable]
    rfl
  · rw [(moves.turn 0 _ rfl).2, images]
    rfl
  · have second : (ImageIntake.readable request.latestImages)[1]? = some screenshot := by
      rw [readable]
      rfl
    exact moves.found 1 screenshot second 7 (by decide) _ rfl

end Request

end ChatGateway
