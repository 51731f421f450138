import ChatGateway.Gateway.Task
import ChatGateway.Proofs.Message.Images
import ChatGateway.Proofs.Message.ReadBack

/-!
# From the client to the first stage

A router takes directives out of prompts, moves images and sets the model.  A request that was read
from a normal value can still be read back after that, so the first stage finds in the body exactly
the request that the router handed on.
-/

namespace ChatGateway

/-! ## What a router changes -/

namespace ImageIntake

theorem isRegular_move (intake : ImageIntake) (now : Nat) (requestId : String)
    (source : ImageSource) : (intake.move now requestId source).1.IsRegular := by
  simp only [move]
  split
  · exact .text _ (by intro value given; cases given)
  · exact .text _ (by intro value given; cases given)

/-- Markers and notes are regular blocks, so moving images keeps regular blocks regular. -/
theorem isRegular_moveFrom (now : Nat) (requestId : String) :
    (∀ (block : Block) (intake : ImageIntake), block.IsRegular →
      (intake.moveFrom now requestId block).1.IsRegular) ∧
    (∀ (blocks : List Block) (intake : ImageIntake), (∀ block ∈ blocks, block.IsRegular) →
      ∀ block ∈ (intake.moveFromAll now requestId blocks).1, block.IsRegular) := by
  refine Block.images.mutual_induct _ _ ?image ?nested ?flat ?nil ?cons
  case image =>
    intro source intake _
    exact intake.isRegular_move now requestId source
  case nested =>
    intro toolUseId blocks isError ih intake regular
    cases regular with
    | toolResult _ _ inside =>
        refine .toolResult toolUseId isError ?_
        intro others same
        cases same
        exact ih intake (inside blocks rfl)
  case flat =>
    intro block notImage notNested intake regular
    rw [moveFrom.eq_3 intake now requestId block notImage notNested]
    exact regular
  case nil =>
    intro intake _ block member
    cases member
  case cons =>
    intro block rest ihBlock ihRest intake regular other member
    rw [moveFromAll] at member
    rcases List.mem_cons.mp member with here | later
    · rw [here]
      exact ihBlock intake (regular block List.mem_cons_self)
    · exact ihRest _ (fun block member => regular block (.tail _ member)) other later

end ImageIntake

namespace Request

theorem isRegular_stripBlockMarkers {block : Block} (regular : block.IsRegular) :
    (stripBlockMarkers block).IsRegular := by
  cases block with
  | text words cacheControl =>
      cases regular with
      | text _ mark => exact .text _ mark
  | image | toolUse | toolResult | thinking | redactedThinking | serverToolUse
    | webSearchToolResult | other => exact regular

theorem isRegular_stripContentMarkers {content : Content} (regular : content.IsRegular) :
    (stripContentMarkers content).IsRegular := by
  cases content with
  | text words => exact trivial
  | blocks items =>
      intro block member
      obtain ⟨before, inside, rfl⟩ := List.mem_map.mp member
      exact isRegular_stripBlockMarkers (regular before inside)

variable {request : Request}

theorem IsRegular.stripMarkers (regular : request.IsRegular) : request.stripMarkers.IsRegular := by
  refine { regular with messages := ?_ }
  intro message member
  obtain ⟨before, inside, rfl⟩ := List.mem_map.mp member
  have content := regular.messages before inside
  split
  · exact isRegular_stripContentMarkers content
  · exact content

theorem IsRegular.lastUserBlocks? (regular : request.IsRegular) {position : Nat}
    {blocks : List Block} (latest : request.lastUserBlocks? = some (position, blocks)) :
    ∀ block ∈ blocks, block.IsRegular := by
  simp only [Request.lastUserBlocks?, bind, Option.bind_eq_some_iff] at latest
  obtain ⟨index, -, message, there, turn⟩ := latest
  have content := regular.messages message (List.mem_of_getElem? there)
  split at turn
  · rename_i items isBlocks
    cases turn
    rw [isBlocks] at content
    exact content
  · cases turn

theorem IsRegular.setBlocks (regular : request.IsRegular) (position : Nat) {blocks : List Block}
    (inside : ∀ block ∈ blocks, block.IsRegular) :
    (request.setBlocks position blocks).IsRegular := by
  refine { regular with messages := ?_ }
  intro message member
  obtain ⟨index, there⟩ := List.mem_iff_getElem?.mp member
  simp only [Request.setBlocks, List.getElem?_modify] at there
  cases before : request.messages[index]? with
  | none => simp [before] at there
  | some old =>
      rw [before] at there
      by_cases here : position = index
      · simp only [here, if_true] at there
        cases there
        exact inside
      · simp only [here, if_false] at there
        cases there
        exact regular.messages old (List.mem_of_getElem? before)

theorem isRegular_lookup : Tool.lookup.IsRegular := by
  intro schema given
  have sorted : Tool.lookup.inputSchema.map Json.normalize = Tool.lookup.inputSchema := rfl
  rw [Option.mem_def.mp given, Option.map_some, Option.some.injEq] at sorted
  constructor
  · exact sorted ▸ schema.isNormal_normalize
  · cases given
    simp

theorem IsRegular.declareLookup (regular : request.IsRegular) :
    request.declareLookup.IsRegular := by
  simp only [Request.declareLookup]
  split
  · exact regular
  · refine { regular with tools := ?_ }
    intro tools same tool member
    cases same
    rcases List.mem_append.mp member with before | added
    · cases declared : request.tools with
      | none =>
          rw [declared] at before
          cases before
      | some tools =>
          rw [declared] at before
          exact regular.tools tools declared tool before
    · rw [List.mem_singleton.mp added]
      exact isRegular_lookup

theorem IsRegular.moveImages (regular : request.IsRegular) (now : Nat) (requestId : String)
    (cache : AttachmentCache) : (request.moveImages now requestId cache).1.IsRegular := by
  have stripped := regular.stripMarkers
  simp only [Request.moveImages]
  split
  · exact stripped
  · rename_i position blocks latest
    have moved := (ImageIntake.isRegular_moveFrom now requestId).2 blocks ⟨0, cache⟩
      (stripped.lastUserBlocks? latest)
    have set := stripped.setBlocks position moved
    dsimp only
    split
    · exact set.declareLookup
    · exact set

theorem isRegular_liftImages {block : Block} (regular : block.IsRegular) :
    (liftImages block).1.IsRegular ∧ ∀ image ∈ (liftImages block).2, image.IsRegular := by
  have same : ∀ image ∈ ([] : List Block), image.IsRegular := by
    intro image member
    cases member
  unfold liftImages
  split
  · rename_i toolUseId blocks isError
    split
    · cases regular with
      | toolResult _ _ inside =>
          constructor
          · refine .toolResult toolUseId isError ?_
            intro others other
            cases other
          · intro image member
            exact inside blocks rfl image (List.mem_of_mem_filter member)
    · exact ⟨regular, same⟩
  · exact ⟨regular, same⟩

theorem IsRegular.hoistImages (regular : request.IsRegular) : request.hoistImages.IsRegular := by
  rw [Request.hoistImages]
  split
  · exact regular
  · rename_i position blocks latest
    have inside := regular.lastUserBlocks? latest
    apply regular.setBlocks
    intro block member
    rcases List.mem_append.mp member with kept | lifted
    · rw [List.map_map, List.mem_map] at kept
      obtain ⟨before, here, rfl⟩ := kept
      exact (isRegular_liftImages (inside before here)).1
    · rw [List.map_map, List.mem_flatten] at lifted
      obtain ⟨images, ofBlock, here⟩ := lifted
      obtain ⟨before, there, rfl⟩ := List.mem_map.mp ofBlock
      exact (isRegular_liftImages (inside before there)).2 block here

theorem isRegular_of_takeFromBlocks? {blocks : List Block}
    (regular : ∀ block ∈ blocks, block.IsRegular) {target : String} {after : List Block}
    (taken : Directive.takeFromBlocks? blocks = some (target, after)) :
    ∀ block ∈ after, block.IsRegular := by
  induction blocks generalizing after with
  | nil => cases taken
  | cons block rest ih =>
      rw [List.forall_mem_cons] at regular
      obtain ⟨first, others⟩ := regular
      have later (found : (Directive.takeFromBlocks? rest).map
          (fun found => (found.1, block :: found.2)) = some (target, after)) :
          ∀ block ∈ after, block.IsRegular := by
        obtain ⟨⟨name, tail⟩, inRest, same⟩ := Option.map_eq_some_iff.mp found
        cases same
        exact List.forall_mem_cons.mpr ⟨first, ih others inRest⟩
      simp only [Directive.takeFromBlocks?] at taken
      split at taken
      · rename_i words cacheControl
        split at taken
        · cases taken
          cases first with
          | text _ mark => exact List.forall_mem_cons.mpr ⟨.text _ mark, others⟩
        · exact later taken
      · exact later taken

theorem IsRegular.of_take? (regular : request.IsRegular) {target : String} {after : Request}
    (taken : Directive.take? request = some (target, after)) : after.IsRegular := by
  simp only [Directive.take?, bind, Option.bind_eq_some_iff, Option.some.injEq] at taken
  obtain ⟨system, prompt, ⟨other, content⟩, found, same⟩ := taken
  cases same
  refine { regular with system := ?_ }
  intro result given
  cases given
  have before := regular.system system prompt
  cases system with
  | text words =>
      obtain ⟨_, _, made⟩ := Option.map_eq_some_iff.mp found
      cases made
      exact trivial
  | blocks items =>
      obtain ⟨⟨name, others⟩, taken, made⟩ := Option.map_eq_some_iff.mp found
      cases made
      exact isRegular_of_takeFromBlocks? before taken

/-- Whatever the router does to a request, it stays regular. -/
theorem IsRegular.resolve (regular : request.IsRegular) (router : Router) (now : Nat)
    (requestId : String) (cache : AttachmentCache) :
    (router.resolve now requestId request cache).2.1.IsRegular := by
  have selected : (router.select now requestId request cache).2.1.IsRegular := by
    unfold Router.select
    split
    · exact regular
    · split
      · exact regular
      · split
        · rename_i taken
          exact regular.of_take? taken
        · dsimp only
          split
          · split
            · exact regular.hoistImages
            · exact regular.moveImages now requestId cache
          · exact regular
  rw [Router.resolve]
  dsimp only
  split
  · exact { selected with }
  · exact selected

end Request

/-! ## What comes back -/

theorem canonicalRequest_encode {request : Request} (regular : request.IsRegular) :
    canonicalRequest request.encode.normalize = .ok request := by
  rw [canonicalRequest, Request.decode?_encode regular]

/-- The body of an accepted request is what the router handed on. -/
theorem Gateway.body_of_accept {gateway : Gateway} {now : Nat} {request : Request}
    {state after : GatewayState} {task : Task}
    (accepted : gateway.accept now request state = (.ok task, after)) :
    task.body = (gateway.router.resolve now state.supply.draw.1.text request
      state.cache).2.1.encode.normalize := by
  simp only [accept] at accepted
  split at accepted
  · cases accepted
  · split at accepted
    · cases accepted
    · split at accepted
      · cases accepted
      · cases accepted
        rfl

/-- A request, an answer or an event that a normal value describes is read again from the value that
is written for it; and the first stage reads from the body that it gets just the request that the
router handed on. -/
theorem returns_of_isNormal {value : Json} (normal : value.IsNormal) :
    (∀ request, Request.decode? value = some request → request.IsFinite →
      Request.decode? request.encode.normalize = some request ∧
      canonicalRequest request.encode.normalize = .ok request ∧
      ∀ (gateway : Gateway) (now : Nat) (state after : GatewayState) (task : Task) (key : Secret),
        gateway.accept now request state = (.ok task, after) →
          canonicalRequest (task.outbound key).body =
            .ok (gateway.router.resolve now state.supply.draw.1.text request state.cache).2.1) ∧
    (∀ response, Response.decode? value = some response →
      Response.decode? response.encode.normalize = some response) ∧
    (∀ event, Event.decode? value = some event →
      Event.decode? event.encode.normalize = some event) := by
  refine ⟨?request, ?response, ?event⟩
  case request =>
    intro request read finite
    have regular := Request.isRegular_of_decode? normal read finite
    refine ⟨Request.decode?_encode regular, canonicalRequest_encode regular, ?_⟩
    intro gateway now state after task key accepted
    have body : (task.outbound key).body = task.body := rfl
    rw [body, Gateway.body_of_accept accepted]
    exact canonicalRequest_encode (regular.resolve gateway.router now _ state.cache)
  case response =>
    intro response read
    exact Response.decode?_encode (Response.isRegular_of_decode? normal read)
  case event =>
    intro event read
    exact Event.decode?_encode (Event.isRegular_of_decode? normal read)

/-- A tool result with a block of an unknown kind, and a temperature that is rounded. -/
theorem returns_of_isNormal_unknown :
    let audio := Json.object [("seconds", .ofNat 3), ("type", .string "audio")]
    let result := Json.object [("content", .array [audio, .null]), ("tool_use_id", .string "t"),
      ("type", .string "tool_result")]
    let value := Json.object [
      ("messages", .array [.object [("content", .array [result]), ("role", .string "user")]]),
      ("temperature", .number (.double ⟨false, 7205759403792794, -56⟩))]
    let request := { Request.ofMessages "" [.userBlocks [
        .toolResult "t" (some (.blocks [.other audio, .other .null])) none]] with
      temperature := some ⟨.finite ⟨false, 13421773, -27⟩⟩ }
    Request.decode? value = some request ∧
      Request.decode? request.encode.normalize = some request := by
  intro audio result value request
  have sorted : value.normalize = value := by
    simp only [value, result, audio]
    rfl
  have normal : value.IsNormal := sorted ▸ value.isNormal_normalize
  have read : Request.decode? value = some request := rfl
  have finite : request.IsFinite := by
    constructor
    · intro single given
      cases given
      exact ⟨_, rfl⟩
    · intro single given
      cases given
  exact ⟨read, ((returns_of_isNormal normal).1 request read finite).1⟩

end ChatGateway
