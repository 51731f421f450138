import ChatGateway.Proofs.Routing.Intake
import ChatGateway.Proofs.Routing.Tags
import Mathlib.Data.List.Basic
import Mathlib.Data.List.Perm.Basic

/-!
# Tags in the turns of the user

When images are moved to the cache, each of them leaves one tag, and the tags of earlier turns are
meant to go.  The texts that the user writes are searched for markers once, so pieces of another tag
that come together stay; the texts in tool results are not searched at all.
-/

namespace ChatGateway

open Attachment Marker

/-! ## Texts of blocks -/

namespace Block

mutual

/-- The texts in a block, at any depth. -/
def texts : Block → List String
  | .text words _ => [words]
  | .toolResult _ (some (.text words)) _ => [words]
  | .toolResult _ (some (.blocks blocks)) _ => textsOfAll blocks
  | _ => []

/-- The texts in blocks, in their order. -/
def textsOfAll : List Block → List String
  | [] => []
  | block :: rest => texts block ++ textsOfAll rest

end

/-- The texts in tool results, at any depth. -/
def resultTexts : Block → List String
  | .text _ _ => []
  | block => block.texts

theorem textsOfAll_eq_flatMap (blocks : List Block) : textsOfAll blocks = blocks.flatMap texts := by
  induction blocks with
  | nil => rfl
  | cons block rest ih => rw [textsOfAll, ih, List.flatMap_cons]

/-- A block is a text or has the texts of its tool results. -/
theorem texts_stripBlockMarkers (block : Block) :
    (Request.stripBlockMarkers block).texts =
      block.text?.toList.map strip ++ block.resultTexts := by
  cases block <;> rfl

end Block

/-! ## Tags of texts -/

namespace Marker

/-- The tags of texts, in their order. -/
def tagsOf (texts : List String) : List (List Char) := texts.flatMap fun words => tags words.toList

@[simp] theorem tagsOf_append (texts more : List String) :
    tagsOf (texts ++ more) = tagsOf texts ++ tagsOf more :=
  List.flatMap_append

theorem tagsOf_perm {texts more : List String} (same : texts.Perm more) :
    (tagsOf texts).Perm (tagsOf more) :=
  same.flatMap_right _

theorem tagsOf_eq_nil_iff (texts : List String) :
    tagsOf texts = [] ↔ ∀ words ∈ texts, tags words.toList = [] :=
  List.flatMap_eq_nil_iff

/-- No tag is left in texts if and only if none comes together in any of them. -/
theorem tagsOf_map_strip_eq_nil_iff (texts : List String) :
    tagsOf (texts.map strip) = [] ↔ ∀ words ∈ texts, ¬Mends words := by
  rw [tagsOf_eq_nil_iff, List.forall_mem_map]
  exact forall₂_congr fun words _ => tags_strip_eq_nil_iff words

/-- The tags of markers with so many numbers from the given one on, and of the request that their
ids quote. -/
def tagsFrom (requestId : String) (number count : Nat) : List (List Char) :=
  (List.range' number count).flatMap fun number =>
    (toString number).toList :: tags requestId.toList

theorem tagsFrom_add (requestId : String) (number count more : Nat) :
    tagsFrom requestId number (count + more) =
      tagsFrom requestId number count ++ tagsFrom requestId (number + count) more := by
  rw [tagsFrom, tagsFrom, tagsFrom, ← List.flatMap_append]
  congr 1
  simp

/-- The tags of markers are their numbers, and for each the tags of the request. -/
theorem tagsFrom_perm (requestId : String) (number count : Nat) :
    (tagsFrom requestId number count).Perm
      ((List.range' number count).map (fun number => (toString number).toList) ++
        (List.range' number count).flatMap fun _ => tags requestId.toList) :=
  (List.map_append_flatMap_perm ..).symm

theorem flatMap_range'_eq_nil_iff (number count : Nat) (quoted : List (List Char)) :
    ((List.range' number count).flatMap fun _ => quoted) = [] ↔ count = 0 ∨ quoted = [] := by
  rw [List.flatMap_eq_nil_iff]
  cases count with
  | zero => simp
  | succ count =>
      constructor
      · intro every
        exact .inr (every number (List.mem_cons_self ..))
      · rintro (absurd | none) _ _
        · cases absurd
        · exact none

end Marker

/-! ## Tags of moved images -/

namespace AttachmentCache

theorem exists_store_of_isReadable {source : ImageSource} (readable : source.isReadable)
    (cache : AttachmentCache) (now : Nat) (id : String) :
    ∃ outcome after, cache.store now id (.ofSource source) = (.ok outcome, after) := by
  have stored : cache.store now id (.ofSource source) =
      if (cache.peek? id).any (cache.isLive now) then (.ok .alreadyPresent, cache)
      else (.ok .inserted, cache.put id ⟨.ofSource source, now⟩) := by
    cases source <;>
      simp_all [ImageSource.isReadable, store, Payload.ofSource, Payload.isWellFormed]
  rw [stored]
  split
  · exact ⟨_, _, rfl⟩
  · exact ⟨_, _, rfl⟩

end AttachmentCache

namespace ImageIntake

/-- Moving images out of a piece of a message adds a tag with the next number for each that can be
read, and the tags of the request that its marker quotes. -/
structure Tagged (requestId : String) (texts : List String) (images : List ImageSource)
    (count : Nat) (moved : List String) (after : ImageIntake) : Prop where
  tags : (tagsOf moved).Perm
    (tagsOf texts ++ tagsFrom requestId (count + 1) (readable images).length)
  count : after.count = count + (readable images).length

theorem tagsOf_text (requestId : String) (number : Nat) :
    tagsOf [Marker.text number (scopedId requestId number)] = tagsFrom requestId number 1 := by
  rw [tagsOf, List.flatMap_singleton, tags_text, tagsFrom, List.range'_one, List.flatMap_singleton]

theorem tagsOf_unreadableText : tagsOf [unreadableText] = [] := by decide

/-- One image, whatever the cache holds. -/
theorem tagged_move (intake : ImageIntake) (now : Nat) (requestId : String) (source : ImageSource) :
    Tagged requestId [] [source] intake.count (intake.move now requestId source).1.texts
      (intake.move now requestId source).2 := by
  cases reads : source.isReadable with
  | true =>
      obtain ⟨outcome, after, stored⟩ := AttachmentCache.exists_store_of_isReadable reads
        intake.cache now (scopedId requestId (intake.count + 1))
      have moved : intake.move now requestId source =
          (.ofText (Marker.text (intake.count + 1) (scopedId requestId (intake.count + 1))),
            ⟨intake.count + 1, after⟩) := by
        rw [move, stored]
      have one : (readable [source]).length = 1 := by simp [readable, reads]
      rw [moved]
      constructor
      · rw [one, Block.ofText, Block.texts, tagsOf_text]
        exact .refl _
      · rw [one]
  | false =>
      have none : (readable [source]).length = 0 := by simp [readable, reads]
      rw [move_of_not_isReadable reads]
      constructor
      · rw [none, Block.ofText, Block.texts, tagsOf_unreadableText]
        exact .refl _
      · rw [none, Nat.add_zero]

/-- Blocks and lists of blocks, however deep their images are. -/
theorem tagged_moveFrom (now : Nat) (requestId : String) :
    (∀ (block : Block) (intake : ImageIntake),
      Tagged requestId block.texts block.images intake.count
        (intake.moveFrom now requestId block).1.texts (intake.moveFrom now requestId block).2) ∧
    (∀ (blocks : List Block) (intake : ImageIntake),
      Tagged requestId (Block.textsOfAll blocks) (Block.imagesOfAll blocks) intake.count
        (Block.textsOfAll (intake.moveFromAll now requestId blocks).1)
        (intake.moveFromAll now requestId blocks).2) := by
  refine Block.images.mutual_induct _ _ ?image ?nested ?flat ?nil ?cons
  case image =>
    intro source intake
    exact tagged_move intake now requestId source
  case nested =>
    intro toolUseId blocks isError ih intake
    exact ih intake
  case flat =>
    intro block notImage notNested intake
    rw [Block.images.eq_3 block notImage notNested,
      moveFrom.eq_3 intake now requestId block notImage notNested]
    constructor
    · exact List.Perm.of_eq (List.append_nil _).symm
    · rfl
  case nil =>
    intro intake
    constructor
    · exact .nil
    · rfl
  case cons =>
    intro block rest ihBlock ihRest intake
    have first := ihBlock intake
    have later := ihRest (intake.moveFrom now requestId block).2
    have split : (readable (Block.imagesOfAll (block :: rest))).length =
        (readable block.images).length + (readable (Block.imagesOfAll rest)).length := by
      rw [Block.imagesOfAll, readable, List.filter_append, List.length_append, readable, readable]
    constructor
    · rw [split, tagsFrom_add, moveFromAll, Block.textsOfAll, Block.textsOfAll, tagsOf_append,
        tagsOf_append]
      have both := first.tags.append later.tags
      rw [first.count, Nat.add_right_comm] at both
      refine both.trans ?_
      rw [List.append_assoc, List.append_assoc]
      apply List.Perm.append_left
      exact List.perm_append_comm_assoc ..
    · rw [split, moveFromAll, later.count, first.count, Nat.add_assoc]

end ImageIntake

/-! ## The turns of the user -/

namespace Content

/-- The texts of a content, at any depth. -/
def texts : Content → List String
  | .text words => [words]
  | .blocks parts => Block.textsOfAll parts

/-- The texts of a content that stand in no tool result. -/
def ownTexts : Content → List String
  | .text words => [words]
  | .blocks parts => parts.filterMap Block.text?

/-- The texts of a content that stand in tool results. -/
def resultTexts : Content → List String
  | .text _ => []
  | .blocks parts => parts.flatMap Block.resultTexts

/-- Only what stands in no tool result loses its markers. -/
theorem texts_stripContentMarkers (content : Content) :
    (Request.stripContentMarkers content).texts.Perm
      (content.ownTexts.map strip ++ content.resultTexts) := by
  cases content with
  | text words => exact .refl _
  | blocks parts =>
      rw [Request.stripContentMarkers, texts, ownTexts, resultTexts, Block.textsOfAll_eq_flatMap,
        List.flatMap_map, List.filterMap_eq_flatMap_toList, List.map_flatMap]
      simp only [Block.texts_stripBlockMarkers]
      exact (List.flatMap_append_perm ..).symm

end Content

/-- The contents of the turns of the user. -/
def Message.userContents (messages : List Message) : List Content :=
  (messages.filter fun message => message.role = .user).map Message.content

theorem Message.userContents_append_cons (turn : Message) (user : turn.role = .user)
    (before after : List Message) :
    userContents (before ++ turn :: after) =
      userContents before ++ turn.content :: userContents after := by
  simp [userContents, user]

namespace Request

/-- The texts in the turns of the user, at any depth. -/
def userTexts (request : Request) : List String :=
  (Message.userContents request.messages).flatMap Content.texts

/-- The texts in the turns of the user that stand in no tool result. -/
def ownTexts (request : Request) : List String :=
  (Message.userContents request.messages).flatMap Content.ownTexts

/-- The texts in the tool results of the turns of the user. -/
def resultTexts (request : Request) : List String :=
  (Message.userContents request.messages).flatMap Content.resultTexts

theorem userContents_stripMarkers (request : Request) :
    Message.userContents request.stripMarkers.messages =
      (Message.userContents request.messages).map stripContentMarkers := by
  rw [stripMarkers]
  induction request.messages with
  | nil => rfl
  | cons message rest ih => cases user : message.role <;> simp_all [Message.userContents]

/-- Taking out the markers of earlier turns changes the texts that stand in no tool result. -/
theorem userTexts_stripMarkers (request : Request) :
    request.stripMarkers.userTexts.Perm (request.ownTexts.map strip ++ request.resultTexts) := by
  rw [userTexts, userContents_stripMarkers, List.flatMap_map, ownTexts, List.map_flatMap]
  refine List.Perm.trans ?_ (List.flatMap_append_perm ..).symm
  exact List.Perm.flatMap_left _ fun content _ => content.texts_stripContentMarkers

/-- Replacing the blocks of the latest turn of the user leaves all other turns as they are. -/
theorem exists_userContents_eq {request : Request} {position : Nat} {blocks : List Block}
    (latest : request.lastUserBlocks? = some (position, blocks)) :
    ∃ before after,
      Message.userContents request.messages = before ++ .blocks blocks :: after ∧
      ∀ others, Message.userContents (request.setBlocks position others).messages =
        before ++ .blocks others :: after := by
  obtain ⟨index, message, there, content⟩ := lastUserBlocks?_eq_some.mp latest
  have user := role_of_lastUserIndex? index there
  obtain ⟨within, found⟩ := List.getElem?_eq_some_iff.mp there
  have split : request.messages =
      request.messages.take position ++ message :: request.messages.drop (position + 1) := by
    rw [← found, List.getElem_cons_drop, List.take_append_drop]
  refine ⟨Message.userContents (request.messages.take position),
    Message.userContents (request.messages.drop (position + 1)), ?_, ?_⟩
  · rw [← content, ← Message.userContents_append_cons message user, ← split]
  · intro others
    rw [setBlocks, List.modify_eq_take_cons_drop within, found]
    exact Message.userContents_append_cons { message with content := .blocks others } user _ _

/-- Moving the images of a request takes the markers out of the texts that stand in no tool result,
leaves the texts in tool results as they are, and adds the tags of the new markers. -/
theorem tagsOf_moveImages (request : Request) (now : Nat) (requestId : String)
    (cache : AttachmentCache) :
    (tagsOf (request.moveImages now requestId cache).1.userTexts).Perm
      (tagsOf (request.ownTexts.map strip ++ request.resultTexts) ++
        tagsFrom requestId 1 (ImageIntake.readable request.latestImages).length) := by
  refine List.Perm.trans ?_ ((tagsOf_perm request.userTexts_stripMarkers).append_right _)
  cases latest : request.lastUserBlocks? with
  | none =>
      have imageless : request.latestImages = [] := by rw [latestImages, latest]
      rw [moveImages_of_none latest, imageless]
      exact List.Perm.of_eq (List.append_nil _).symm
  | some turn =>
      obtain ⟨position, blocks⟩ := turn
      have stripped : request.stripMarkers.lastUserBlocks? =
          some (position, blocks.map stripBlockMarkers) := by
        rw [lastUserBlocks?_stripMarkers, latest, Option.map_some]
      have tagged := ((ImageIntake.tagged_moveFrom now requestId).2
        (blocks.map stripBlockMarkers) ⟨0, cache⟩).tags
      rw [imagesOfAll_stripBlockMarkers, ← latestImages_of_some latest] at tagged
      obtain ⟨before, after, contents, replaced⟩ := exists_userContents_eq stripped
      have parts : ∀ blocks, tagsOf ((before ++ .blocks blocks :: after).flatMap Content.texts) =
          tagsOf (before.flatMap Content.texts) ++
            (tagsOf (Block.textsOfAll blocks) ++ tagsOf (after.flatMap Content.texts)) := by
        intro blocks
        rw [List.flatMap_append, List.flatMap_cons, tagsOf_append, tagsOf_append, Content.texts]
      rw [moveImages_of_some latest]
      simp only [userTexts]
      rw [contents, replaced, parts, parts, List.append_assoc, List.append_assoc]
      apply List.Perm.append_left
      refine (tagged.append_right _).trans ?_
      rw [List.append_assoc]
      exact List.perm_append_comm.append_left _

/-- The tags in the turns of the user are those of the new markers, one for each image that can be
read, if and only if none comes together where markers are taken out of a text, none stands in a
tool result, and none in the name of the request that the markers quote. -/
theorem tagsOf_moveImages_perm_iff (request : Request) (now : Nat) (requestId : String)
    (cache : AttachmentCache) :
    let count := (ImageIntake.readable request.latestImages).length
    (tagsOf (request.moveImages now requestId cache).1.userTexts).Perm
        ((List.range' 1 count).map fun number => (toString number).toList) ↔
      (∀ words ∈ request.ownTexts, ¬Mends words) ∧
        (∀ words ∈ request.resultTexts, tags words.toList = []) ∧
        (count = 0 ∨ tags requestId.toList = []) := by
  intro count
  have numbered := (tagsOf_moveImages request now requestId cache).trans
    (((tagsFrom_perm requestId 1 count).append_left _).trans
      (List.perm_append_comm_assoc ..))
  rw [← tagsOf_map_strip_eq_nil_iff, ← tagsOf_eq_nil_iff, ← flatMap_range'_eq_nil_iff 1,
    ← and_assoc, ← List.append_eq_nil_iff, ← tagsOf_append, ← List.append_eq_nil_iff]
  constructor
  · intro alone
    have counted := (numbered.symm.trans alone).length_eq
    rw [List.length_append] at counted
    exact List.eq_nil_of_length_eq_zero (Nat.add_eq_left.mp counted)
  · intro nothing
    rw [nothing, List.append_nil] at numbered
    exact numbered

/-- Two tags of earlier turns stay beside the one of a new marker: one comes together from its
pieces, and one stands in what a tool gave back. -/
theorem tagsOf_moveImages_keeps_two :
    let request := ofMessages "m"
      [⟨.user, .text "[Image [Image #1]#2] a cat"⟩,
        .userBlocks [.image (.url "http://images.test/page"),
          .toolResult "t" (some (.text "[Image #3] page")) none]]
    let moved := (request.moveImages 0 "r" (AttachmentCache.new ⟨1, 1⟩)).1
    (ImageIntake.readable request.latestImages).length = 1 ∧
      tagsOf moved.userTexts = [['2'], ['1'], ['3']] ∧
      ¬(tagsOf moved.userTexts).Perm
        ((List.range' 1 1).map fun number => (toString number).toList) := by
  intro request moved
  have tags : tagsOf moved.userTexts = [['2'], ['1'], ['3']] := by
    decide +kernel
  refine ⟨by decide, tags, ?_⟩
  intro same
  rw [tags] at same
  exact absurd same.length_eq (by decide)

end Request

end ChatGateway
