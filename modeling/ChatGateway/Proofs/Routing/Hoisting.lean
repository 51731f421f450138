import ChatGateway.Proofs.Routing.Intake
import Mathlib.Data.List.Flatten

/-!
# Images that stay in a conversation

For a model that takes images only as blocks of a turn, the images in tool results of the latest
turn of the user are lifted out of them and put at its end.  Every other image stays where it is,
and none is made up or changed.  What lies in a tool result inside another one is not lifted but
dropped with it, so all images are kept if and only if none lies that deep.
-/

namespace ChatGateway

namespace Block

/-! ## Images of a turn and of its tool results -/

/-- The image that a block is. -/
def image? : Block → Option ImageSource
  | .image source => some source
  | _ => none

/-- The images that are blocks of their own. -/
def directImages (blocks : List Block) : List ImageSource := blocks.filterMap image?

/-- The images inside a block, at any depth. -/
def innerImages : Block → List ImageSource
  | .image _ => []
  | block => block.images

/-- The images inside blocks, at any depth, in their order. -/
def nestedImages (blocks : List Block) : List ImageSource := blocks.flatMap innerImages

@[simp] theorem directImages_append (blocks more : List Block) :
    directImages (blocks ++ more) = directImages blocks ++ directImages more :=
  List.filterMap_append

@[simp] theorem nestedImages_append (blocks more : List Block) :
    nestedImages (blocks ++ more) = nestedImages blocks ++ nestedImages more :=
  List.flatMap_append

@[simp] theorem directImages_map_image (sources : List ImageSource) :
    directImages (sources.map .image) = sources := by
  rw [directImages, List.filterMap_map]
  exact List.filterMap_some

@[simp] theorem nestedImages_map_image (sources : List ImageSource) :
    nestedImages (sources.map .image) = [] := by
  induction sources with
  | nil => rfl
  | cons source rest ih => exact ih

theorem directImages_cons (block : Block) (rest : List Block) :
    directImages (block :: rest) = block.image?.toList ++ directImages rest := by
  rw [directImages, List.filterMap_cons]
  cases block.image? <;> rfl

theorem nestedImages_cons (block : Block) (rest : List Block) :
    nestedImages (block :: rest) = block.innerImages ++ nestedImages rest := rfl

/-- An image is a block of its own or lies inside one. -/
theorem images_eq (block : Block) : block.images = block.image?.toList ++ block.innerImages := by
  cases block <;> rfl

theorem imagesOfAll_perm (blocks : List Block) :
    (imagesOfAll blocks).Perm (directImages blocks ++ nestedImages blocks) := by
  induction blocks with
  | nil => exact .nil
  | cons block rest ih =>
      rw [imagesOfAll, images_eq, directImages_cons, nestedImages_cons, List.append_assoc,
        List.append_assoc]
      apply List.Perm.append_left
      exact (ih.append_left _).trans (List.perm_append_comm_assoc ..)

theorem directImages_sublist (blocks : List Block) :
    (directImages blocks).Sublist (imagesOfAll blocks) := by
  induction blocks with
  | nil => exact .slnil
  | cons block rest ih =>
      rw [imagesOfAll, images_eq, directImages_cons]
      exact (List.sublist_append_left ..).append ih

/-- All images are blocks of their own if none lies inside one. -/
theorem directImages_eq_imagesOfAll_iff (blocks : List Block) :
    directImages blocks = imagesOfAll blocks ↔ nestedImages blocks = [] := by
  have counted := (imagesOfAll_perm blocks).length_eq
  rw [List.length_append] at counted
  constructor
  · intro same
    rw [same] at counted
    exact List.eq_nil_of_length_eq_zero (Nat.left_eq_add.mp counted)
  · intro none
    rw [none, List.length_nil, Nat.add_zero] at counted
    exact (directImages_sublist blocks).eq_of_length counted.symm

/-- A block contains an image if it has one, at any depth. -/
theorem containsImage_iff :
    (∀ block : Block, block.containsImage = true ↔ block.images ≠ []) ∧
    (∀ blocks : List Block, anyContainsImage blocks = true ↔ imagesOfAll blocks ≠ []) := by
  refine images.mutual_induct _ _ ?image ?nested ?flat ?nil ?cons
  case image =>
    intro source
    simp [containsImage, images]
  case nested =>
    intro toolUseId blocks isError ih
    exact ih
  case flat =>
    intro block notImage notNested
    rw [containsImage.eq_3 block notImage notNested, images.eq_3 block notImage notNested]
    simp
  case nil => simp [anyContainsImage, imagesOfAll]
  case cons =>
    intro block rest ihBlock ihRest
    rw [anyContainsImage, imagesOfAll, Bool.or_eq_true, ihBlock, ihRest, ne_eq, ne_eq, ne_eq,
      List.append_eq_nil_iff, Decidable.not_and_iff_or_not]

theorem innerImages_of_flat {block : Block}
    (flat : ∀ id inner isError, block ≠ .toolResult id (some (.blocks inner)) isError) :
    block.innerImages = [] := by
  fun_cases innerImages block with
  | case1 source => rfl
  | case2 block notImage => exact images.eq_3 block notImage flat

/-! ## Lifting -/

/-- The images that are lifted out of a block: those that stand in a tool result directly. -/
def liftedImages : Block → List ImageSource
  | .toolResult _ (some (.blocks inner)) _ => directImages inner
  | _ => []

theorem liftedImages_of_flat {block : Block}
    (flat : ∀ id inner isError, block ≠ .toolResult id (some (.blocks inner)) isError) :
    block.liftedImages = [] :=
  liftedImages.eq_2 block flat

theorem liftedImages_sublist (block : Block) :
    block.liftedImages.Sublist block.innerImages := by
  fun_cases liftedImages block with
  | case1 toolUseId inner isError => exact directImages_sublist inner
  | case2 block other => exact List.nil_sublist _

theorem filter_eq_map_directImages (blocks : List Block) :
    (blocks.filter fun block => match block with | .image _ => true | _ => false) =
      (directImages blocks).map .image := by
  induction blocks with
  | nil => rfl
  | cons block rest ih => cases block <;> simp [directImages_cons, image?, ih]

end Block

namespace Request

open Block

/-- Lifting leaves a block its own image, takes all images out of it, and hands on those that stood
in it directly. -/
theorem liftImages_spec (block : Block) :
    (liftImages block).1.image? = block.image? ∧ (liftImages block).1.innerImages = [] ∧
      (liftImages block).2 = block.liftedImages.map .image := by
  fun_cases liftImages block with
  | case1 toolUseId inner isError holds texts images =>
      exact ⟨rfl, rfl, filter_eq_map_directImages inner⟩
  | case2 toolUseId inner isError holds =>
      rw [containsImage_iff.2, ne_eq, not_not] at holds
      have nothing : directImages inner = [] :=
        List.sublist_nil.mp (holds ▸ directImages_sublist inner)
      exact ⟨rfl, holds, by rw [liftedImages, nothing]; rfl⟩
  | case3 block other =>
      exact ⟨rfl, innerImages_of_flat other, by rw [liftedImages_of_flat other]; rfl⟩

/-- The blocks of the latest turn of the user. -/
def latestBlocks (request : Request) : List Block := (request.lastUserBlocks?.map Prod.snd).getD []

theorem latestImages_eq (request : Request) :
    request.latestImages = imagesOfAll request.latestBlocks := by
  rw [latestImages, latestBlocks]
  cases request.lastUserBlocks? <;> rfl

/-- Lifting goes through the blocks of the latest turn and puts the images after them. -/
theorem latestBlocks_hoistImages (request : Request) :
    request.hoistImages.latestBlocks =
      request.latestBlocks.map (fun block => (liftImages block).1) ++
        (request.latestBlocks.flatMap liftedImages).map .image := by
  have handed : ∀ blocks : List Block,
      ((blocks.map liftImages).map Prod.snd).flatten =
        (blocks.flatMap liftedImages).map .image := by
    intro blocks
    rw [List.map_map, List.map_flatMap, List.flatMap]
    exact congrArg List.flatten (List.map_congr_left fun block _ => (liftImages_spec block).2.2)
  cases latest : request.lastUserBlocks? with
  | none => simp [hoistImages, latestBlocks, latest]
  | some turn =>
      have replaced : request.hoistImages.lastUserBlocks? =
          some (turn.1, (turn.2.map liftImages).map Prod.fst ++
            ((turn.2.map liftImages).map Prod.snd).flatten) := by
        rw [hoistImages, latest]
        exact lastUserBlocks?_setBlocks latest _ request.tools
      rw [latestBlocks, replaced, latestBlocks, latest, handed, List.map_map]
      rfl

theorem directImages_map_lifted (blocks : List Block) :
    directImages (blocks.map fun block => (liftImages block).1) = directImages blocks := by
  induction blocks with
  | nil => rfl
  | cons block rest ih =>
      rw [List.map_cons, directImages_cons, directImages_cons, (liftImages_spec block).1, ih]

theorem nestedImages_map_lifted (blocks : List Block) :
    nestedImages (blocks.map fun block => (liftImages block).1) = [] := by
  induction blocks with
  | nil => rfl
  | cons block rest ih =>
      rw [List.map_cons, nestedImages_cons, (liftImages_spec block).2.1, ih, List.append_nil]

/-- All images of the latest turn are in the turn afterwards as blocks of their own: those that were
come first, and those from its tool results come after them. -/
structure HoistsImages (request after : Request) : Prop where
  kept : after.latestImages =
    directImages request.latestBlocks ++ nestedImages request.latestBlocks
  direct : nestedImages after.latestBlocks = []

/-- All images inside blocks are lifted if and only if each block has all of its own lifted. -/
theorem flatMap_liftedImages_iff (blocks : List Block) :
    blocks.flatMap liftedImages = nestedImages blocks ↔
      ∀ block ∈ blocks, block.liftedImages = block.innerImages := by
  induction blocks with
  | nil => simp [nestedImages]
  | cons block rest ih =>
      rw [List.flatMap_cons, nestedImages_cons, List.forall_mem_cons, ← ih]
      constructor
      · intro same
        -- neither part can make up for what the other one lacks
        have first := (liftedImages_sublist block).length_le
        have later :=
          (List.Sublist.flatMap_right rest fun block _ => liftedImages_sublist block).length_le
        have both := congrArg List.length same
        rw [List.length_append, List.length_append] at both
        apply List.append_inj same
        rw [nestedImages] at both
        omega
      · intro parts
        rw [parts.1, parts.2]

theorem liftedImages_eq_innerImages_iff (blocks : List Block) :
    (∀ block ∈ blocks, block.liftedImages = block.innerImages) ↔
      ∀ toolUseId inner isError, .toolResult toolUseId (some (.blocks inner)) isError ∈ blocks →
        nestedImages inner = [] := by
  constructor
  · intro every toolUseId inner isError member
    exact (directImages_eq_imagesOfAll_iff inner).mp (every _ member)
  · intro shallow block member
    fun_cases liftedImages block with
    | case1 toolUseId inner isError =>
        exact (directImages_eq_imagesOfAll_iff inner).mpr (shallow _ _ _ member)
    | case2 block flat => exact (innerImages_of_flat flat).symm

/-- Lifting keeps all images of the latest turn as blocks of it, those of tool results last, if and
only if no tool result of the turn has an image in a tool result inside it. -/
theorem hoistsImages_iff (request : Request) :
    HoistsImages request request.hoistImages ↔
      ∀ toolUseId inner isError,
        .toolResult toolUseId (some (.blocks inner)) isError ∈ request.latestBlocks →
          nestedImages inner = [] := by
  have direct : nestedImages request.hoistImages.latestBlocks = [] := by
    rw [latestBlocks_hoistImages, nestedImages_append, nestedImages_map_lifted,
      nestedImages_map_image]
    rfl
  have lifted : request.hoistImages.latestImages =
      directImages request.latestBlocks ++ request.latestBlocks.flatMap liftedImages := by
    rw [latestImages_eq, ← (directImages_eq_imagesOfAll_iff _).mpr direct,
      latestBlocks_hoistImages, directImages_append, directImages_map_lifted,
      directImages_map_image]
  rw [← liftedImages_eq_innerImages_iff, ← flatMap_liftedImages_iff]
  constructor
  · intro hoists
    exact List.append_cancel_left (lifted.symm.trans hoists.kept)
  · intro all
    exact ⟨by rw [lifted, all], direct⟩

/-- A screenshot that a tool gave back to another tool is lost. -/
theorem hoistImages_loses_screenshot :
    let screenshot : ImageSource := .url "http://images.test/screenshot"
    let page : Block := .toolResult "inner" (some (.blocks [.image screenshot])) none
    let request := ofMessages "m" [.userBlocks [.toolResult "outer" (some (.blocks [page])) none]]
    request.hasInlineImage ∧ request.latestImages = [screenshot] ∧
      request.hoistImages.latestImages = [] ∧ ¬HoistsImages request request.hoistImages := by
  intro screenshot page request
  have before : request.latestImages = [screenshot] := rfl
  have after : request.hoistImages.latestImages = [] := rfl
  refine ⟨rfl, before, after, ?_⟩
  intro hoists
  have kept := hoists.kept
  rw [after] at kept
  cases kept

end Request

end ChatGateway
