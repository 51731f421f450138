import ChatGateway.Proofs.Gateway.Rotation
import ChatGateway.Proofs.Routing.Decisions
import ChatGateway.Proofs.Routing.Intake

/-!
# What a refused request leaves behind

A router settles where a request goes after its rule has been applied.  Only the rule that moves
images to the cache touches it, so a request that finds no route leaves the cache as it was unless
this rule was the one to decide; then the images have already been stored.
-/

namespace ChatGateway

open Attachment

/-! ## Storing images -/

namespace ImageIntake

/-- Images taken in, one after the other.  One that the cache refuses gets no number. -/
def takeAll (intake : ImageIntake) (now : Nat) (requestId : String) (images : List ImageSource) :
    ImageIntake :=
  images.foldl (fun intake source => (intake.move now requestId source).2) intake

variable (now : Nat) (requestId : String)

@[simp] theorem takeAll_nil (intake : ImageIntake) : intake.takeAll now requestId [] = intake := rfl

theorem takeAll_append (intake : ImageIntake) (images more : List ImageSource) :
    intake.takeAll now requestId (images ++ more) =
      (intake.takeAll now requestId images).takeAll now requestId more :=
  List.foldl_append

/-- Whatever stands around them, the images of blocks are taken in in their order. -/
theorem moveFrom_snd :
    (∀ (block : Block) (intake : ImageIntake),
      (intake.moveFrom now requestId block).2 = intake.takeAll now requestId block.images) ∧
    (∀ (blocks : List Block) (intake : ImageIntake),
      (intake.moveFromAll now requestId blocks).2 =
        intake.takeAll now requestId (Block.imagesOfAll blocks)) := by
  refine Block.images.mutual_induct _ _ ?image ?nested ?flat ?nil ?cons
  case image =>
    intro source intake
    rfl
  case nested =>
    intro toolUseId blocks isError ih intake
    exact ih intake
  case flat =>
    intro block notImage notNested intake
    rw [Block.images.eq_3 block notImage notNested,
      moveFrom.eq_3 intake now requestId block notImage notNested, takeAll_nil]
  case nil =>
    intro intake
    rfl
  case cons =>
    intro block rest ihBlock ihRest intake
    rw [Block.imagesOfAll, takeAll_append, ← ihBlock, ← ihRest]
    rfl

end ImageIntake

/-- Moving the images of a request is taking in those of its latest turn. -/
theorem Request.moveImages_snd (request : Request) (now : Nat) (requestId : String)
    (cache : AttachmentCache) :
    (request.moveImages now requestId cache).2 =
      (ImageIntake.mk 0 cache).takeAll now requestId request.latestImages := by
  cases latest : request.lastUserBlocks? with
  | none =>
      rw [moveImages_of_none latest, latestImages, latest]
      rfl
  | some turn =>
      obtain ⟨position, blocks⟩ := turn
      rw [moveImages_of_some latest, latestImages_of_some latest]
      dsimp only
      rw [(ImageIntake.moveFrom_snd now requestId).2, imagesOfAll_stripBlockMarkers]

/-! ## Routing -/

namespace Router

/-- Whether it is the rule on images that decides about a request, and moves its images to the
cache. -/
structure ParksImages (router : Router) (request : Request) : Prop where
  unhooked : (router.hook request).filter (fun target => !Text.isBlankText target) = none
  untargeted : request.model.toList.contains ',' = false
  undirected : Directive.take? request = none
  routed : router.settings.router.imageRouting = true
  parked : router.settings.router.forceInlineImages = false
  seen : request.hasInlineImage = true

variable {router : Router} {now : Nat} {requestId : String} {request : Request}
  {cache : AttachmentCache}

/-- The images are taken in, and what the slot for images holds is selected. -/
theorem ParksImages.select (parks : router.ParksImages request) (now : Nat) (requestId : String)
    (cache : AttachmentCache) :
    (router.select now requestId request cache).1 = .slot router.settings.router.image .image ∧
      (router.select now requestId request cache).2.2 =
        ((ImageIntake.mk 0 cache).takeAll now requestId request.latestImages).cache := by
  rw [← Request.moveImages_snd, Router.select]
  simp only [parks.unhooked, parks.untargeted, parks.undirected, parks.routed, parks.seen,
    parks.parked, Bool.and_self, Bool.false_eq_true, if_true, if_false, and_self]

end Router

end ChatGateway
