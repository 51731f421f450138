import ChatGateway.Message.Block
import ChatGateway.Text.Base64

/-!
# The images of a message

The images of blocks in the order in which they are written, however deep in tool results, and
blocks with other blocks in the places of their images.
-/

namespace ChatGateway

/-- Whether a source can be kept: data that is the base64 of some bytes, or an address. -/
def ImageSource.isReadable : ImageSource → Bool
  | .base64 _ data => !data.isEmpty && Text.Base64.isValid data.toList
  | .url address => !address.isEmpty

namespace Block

mutual

/-- The images of a block, in their order. -/
def images : Block → List ImageSource
  | .image source => [source]
  | .toolResult _ (some (.blocks blocks)) _ => imagesOfAll blocks
  | _ => []

/-- The images of blocks, in their order. -/
def imagesOfAll : List Block → List ImageSource
  | [] => []
  | block :: rest => images block ++ imagesOfAll rest

end

mutual

/-- A block with other blocks in the places of its images, in their order.  What is no image and
holds none stays as it is. -/
def place (standIns : List Block) : Block → Block
  | .image source => standIns.headD (.image source)
  | .toolResult toolUseId (some (.blocks blocks)) isError =>
      .toolResult toolUseId (some (.blocks (placeAll standIns blocks))) isError
  | block => block

/-- Blocks with other blocks in the places of their images: each block takes as many as it has
images, and leaves the others to those after it. -/
def placeAll (standIns : List Block) : List Block → List Block
  | [] => []
  | block :: rest =>
      let taken := (images block).length
      place (standIns.take taken) block :: placeAll (standIns.drop taken) rest

end

/-! ## Nothing is left behind -/

/-- With an imageless block for each image, no image is left, at any depth. -/
theorem images_place_eq_nil :
    (∀ (block : Block) (standIns : List Block), (∀ standIn ∈ standIns, images standIn = []) →
      standIns.length = (images block).length → images (place standIns block) = []) ∧
    (∀ (blocks : List Block) (standIns : List Block), (∀ standIn ∈ standIns, images standIn = []) →
      standIns.length = (imagesOfAll blocks).length →
        imagesOfAll (placeAll standIns blocks) = []) := by
  refine images.mutual_induct _ _ ?image ?nested ?flat ?nil ?cons
  case image =>
    intro source standIns plain enough
    cases standIns with
    | nil => simp [images] at enough
    | cons standIn rest => exact plain standIn List.mem_cons_self
  case nested =>
    intro toolUseId blocks isError ih standIns plain enough
    exact ih standIns plain enough
  case flat =>
    intro block notImage notNested standIns plain enough
    rw [place.eq_3 standIns block notImage notNested]
    exact images.eq_3 block notImage notNested
  case nil =>
    intro standIns plain enough
    rfl
  case cons =>
    intro block rest ihBlock ihRest standIns plain enough
    rw [imagesOfAll, List.length_append] at enough
    rw [placeAll, imagesOfAll, List.append_eq_nil_iff]
    constructor
    · apply ihBlock
      · intro standIn taken
        exact plain standIn (List.mem_of_mem_take taken)
      · rw [List.length_take]
        omega
    · apply ihRest
      · intro standIn left
        exact plain standIn (List.mem_of_mem_drop left)
      · rw [List.length_drop]
        omega

end Block
end ChatGateway
