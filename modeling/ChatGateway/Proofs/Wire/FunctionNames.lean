import ChatGateway.Proofs.Dictionary
import ChatGateway.Proofs.Message.Tools
import ChatGateway.Wire.GenerateContent
import Mathlib.Data.List.Nodup

/-!
# Functions and their answers

The generate-content protocol has no identifiers for calls: an answer to a call names the function.
The names of the tools used so far are handed on from block to block and from turn to turn.  So an
answer names the function of the call that it belongs to, if its result comes after the use and no
other use has the same identifier.
-/

namespace ChatGateway.Wire.GenerateContent

/-! ## What parts say -/

/-- Whose turn it is. -/
def speaker? (content : Json) : Option String := (content.get? "role").bind Json.string?

/-- The parts of a turn. -/
def partsOf (content : Json) : List Json :=
  ((content.get? "parts").bind Json.array?).getD []

/-- The name and the arguments of the function that a part calls. -/
def calledFunction? (part : Json) : Option (String × Json) := do
  let call ← part.get? "functionCall"
  some (← (call.get? "name").bind Json.string?, ← call.get? "args")

/-- The name of the function that a part answers, and the text of the answer. -/
def answeredFunction? (part : Json) : Option (String × String) := do
  let answer ← part.get? "functionResponse"
  let response ← answer.get? "response"
  some (← (answer.get? "name").bind Json.string?, ← (response.get? "content").bind Json.string?)

/-! ## Uses, results and turns -/

/-- Every result comes after a use with its identifier, the uses being those given and those in the
blocks before the result. -/
def ResultsKnown (earlier : List ToolUse) (blocks : List Block) : Prop :=
  ∀ before block, before ++ [block] <+: blocks → ∀ result ∈ block.result?,
    ∃ use ∈ earlier ++ before.filterMap Block.use?, use.id = result.toolUseId

/-- An answer to the only use with the identifier of a result. -/
structure Answers (uses : List ToolUse) (result : ToolResult) (answer : String × String) : Prop where
  known : ∃ use ∈ uses, use.id = result.toolUseId
  name : ∀ use ∈ uses, use.id = result.toolUseId → answer.1 = use.name
  text : answer.2 = result.text

/-- Whether a block becomes a part. -/
def isShown : Block → Bool
  | .text _ _ => true
  | .image _ => true
  | .toolUse _ _ _ => true
  | .toolResult _ _ _ => true
  | _ => false

/-- What becomes of a turn.  Each of its blocks becomes one part at most, and a turn without parts is
left out. -/
structure RelaysTurn (uses : List ToolUse) (turn : Message) (group : List Json) : Prop where
  single : group.length ≤ 1
  speaker : ∀ content ∈ group, speaker? content = some (roleName turn.role)
  filled : ∀ content ∈ group, partsOf content ≠ []
  shown : (group.flatMap partsOf).length = turn.blocks.countP isShown
  calls : (group.flatMap partsOf).filterMap calledFunction? =
    turn.uses.map fun use => (use.name, use.input)
  answers : List.Forall₂ (Answers uses) turn.results
    ((group.flatMap partsOf).filterMap answeredFunction?)

/-- What becomes of turns, turn by turn. -/
inductive Relays (uses : List ToolUse) : List Message → List Json → Prop where
  | nil : Relays uses [] []
  | cons {turn : Message} {turns : List Message} {group contents : List Json}
      (first : RelaysTurn uses turn group) (rest : Relays uses turns contents) :
      Relays uses (turn :: turns) (group ++ contents)

/-! ## The table of names -/

/-- The names of the tools used, the latest first. -/
def tableOf (uses : List ToolUse) : List (String × String) :=
  (uses.map fun use => (use.id, use.name)).reverse

theorem find?_tableOf {uses : List ToolUse} {id : String} (known : ∃ use ∈ uses, use.id = id) :
    ∃ use ∈ uses, use.id = id ∧
      ((tableOf uses).find? fun tool => tool.1 == id) = some (use.id, use.name) := by
  obtain ⟨use, member, same⟩ := known
  have listed : (use.id, use.name) ∈ tableOf uses :=
    List.mem_reverse.mpr (List.mem_map_of_mem member)
  cases found : (tableOf uses).find? fun tool => tool.1 == id with
  | none => exact absurd same (by simpa using List.find?_eq_none.mp found _ listed)
  | some entry =>
      obtain ⟨other, inside, rfl⟩ :=
        List.mem_map.mp (List.mem_reverse.mp (List.mem_of_find?_eq_some found))
      exact ⟨other, inside, by simpa using List.find?_some found, rfl⟩

theorem ResultsKnown.append {earlier : List ToolUse} {blocks more : List Block}
    (known : ResultsKnown earlier (blocks ++ more)) :
    ResultsKnown earlier blocks ∧
      ResultsKnown (earlier ++ blocks.filterMap Block.use?) more := by
  constructor
  · intro before block inside
    exact known before block (inside.trans (List.prefix_append blocks more))
  · intro before block inside
    have whole : (blocks ++ before) ++ [block] <+: blocks ++ more := by
      rw [List.append_assoc]
      exact (List.prefix_append_right_inj blocks).mpr inside
    rw [List.append_assoc, ← List.filterMap_append]
    exact known (blocks ++ before) block whole

theorem resultsKnown_nil (earlier : List ToolUse) : ResultsKnown earlier [] := by
  intro before block inside
  exact absurd (List.prefix_nil.mp inside) (by simp)

theorem ResultsKnown.cons {earlier : List ToolUse} {block : Block} {rest : List Block}
    (here : ∀ result ∈ block.result?, ∃ use ∈ earlier, use.id = result.toolUseId)
    (later : ResultsKnown (earlier ++ block.use?.toList) rest) :
    ResultsKnown earlier (block :: rest) := by
  intro before other inside
  cases before with
  | nil =>
      obtain ⟨rfl, -⟩ := List.cons_prefix_cons.mp inside
      rwa [List.filterMap_nil, List.append_nil]
  | cons head before =>
      obtain ⟨rfl, further⟩ := List.cons_prefix_cons.mp inside
      have uses : (head :: before).filterMap Block.use? =
          head.use?.toList ++ before.filterMap Block.use? := by
        cases used : head.use? <;> simp [used]
      rw [uses, ← List.append_assoc]
      exact later before other further

/-! ## Parts of blocks -/

/-- The parts of blocks and the table after them. -/
structure Writes (uses earlier : List ToolUse) (blocks : List Block)
    (written : List Json × List (String × String)) : Prop where
  names : written.2 = tableOf (earlier ++ blocks.filterMap Block.use?)
  shown : written.1.length = blocks.countP isShown
  calls : written.1.filterMap calledFunction? =
    (blocks.filterMap Block.use?).map fun use => (use.name, use.input)
  answers : List.Forall₂ (Answers uses) (blocks.filterMap Block.result?)
    (written.1.filterMap answeredFunction?)

variable {uses earlier : List ToolUse}

theorem Writes.append {blocks more : List Block} {parts others : List Json}
    {names later : List (String × String)} (one : Writes uses earlier blocks (parts, names))
    (two : Writes uses (earlier ++ blocks.filterMap Block.use?) more (others, later)) :
    Writes uses earlier (blocks ++ more) (parts ++ others, later) where
  names := by rw [two.names, List.filterMap_append, List.append_assoc]
  shown := by rw [List.length_append, List.countP_append, one.shown, two.shown]
  calls := by
    rw [List.filterMap_append, List.filterMap_append, List.map_append, one.calls, two.calls]
  answers := by
    rw [List.filterMap_append, List.filterMap_append]
    exact List.rel_append one.answers two.answers

/-- The name in the table is the one of the only use with the identifier. -/
theorem answers_of_known (distinct : (uses.map ToolUse.id).Nodup) (inside : earlier ⊆ uses)
    {result : ToolResult} (known : ∃ use ∈ earlier, use.id = result.toolUseId) {text : String}
    (own : text = result.text) :
    Answers uses result
      ((((tableOf earlier).find? fun tool => tool.1 == result.toolUseId).map Prod.snd).getD
        result.toolUseId, text) := by
  obtain ⟨use, member, same, found⟩ := find?_tableOf known
  rw [found]
  refine ⟨⟨use, inside member, same⟩, ?_, own⟩
  intro other listed also
  have equal := List.inj_on_of_nodup_map distinct listed (inside member) (also.trans same.symm)
  rw [equal]
  rfl

theorem writes_blockPart (distinct : (uses.map ToolUse.id).Nodup) (inside : earlier ⊆ uses)
    {block : Block} (known : ResultsKnown earlier [block]) :
    Writes uses earlier [block]
      ((blockPart (tableOf earlier) block).1.toList, (blockPart (tableOf earlier) block).2) := by
  have same : tableOf earlier = tableOf (earlier ++ []) := by rw [List.append_nil]
  cases block with
  | text => exact ⟨same, rfl, rfl, .nil⟩
  | image source => cases source <;> exact ⟨same, rfl, rfl, .nil⟩
  | toolUse id name input =>
      have added : (id, name) :: tableOf earlier = tableOf (earlier ++ [⟨id, name, input⟩]) := by
        rw [tableOf, tableOf, List.map_append, List.reverse_append]
        rfl
      exact ⟨added, rfl, rfl, .nil⟩
  | toolResult toolUseId content isError =>
      have before := known [] (.toolResult toolUseId content isError) List.prefix_rfl _ rfl
      rw [List.filterMap_nil, List.append_nil] at before
      have text := Block.toolResultText_eq content
      exact ⟨same, rfl, rfl, .cons (answers_of_known distinct inside before text) .nil⟩
  | thinking | redactedThinking | serverToolUse | webSearchToolResult | other =>
      exact ⟨same, rfl, rfl, .nil⟩

theorem writes_blockParts (distinct : (uses.map ToolUse.id).Nodup) {blocks : List Block}
    (inside : earlier ++ blocks.filterMap Block.use? ⊆ uses) (known : ResultsKnown earlier blocks) :
    Writes uses earlier blocks (blockParts (tableOf earlier) blocks) := by
  induction blocks generalizing earlier with
  | nil => exact ⟨by rw [List.filterMap_nil, List.append_nil]; rfl, rfl, rfl, .nil⟩
  | cons block rest ih =>
      -- The table after the first block is the one of the uses up to there.
      rw [← List.singleton_append] at inside known ⊢
      rw [List.filterMap_append, ← List.append_assoc] at inside
      obtain ⟨here, later⟩ := known.append
      have first := writes_blockPart distinct
        (fun use member => inside (List.mem_append_left _ (List.mem_append_left _ member))) here
      have others := ih inside later
      rw [← first.names] at others
      exact first.append others

/-- A bare text is one block. -/
theorem contentParts_eq (names : List (String × String)) (content : Content) :
    contentParts names content = blockParts names content.toBlocks := by
  cases content <;> rfl

/-- The content of a turn; one without parts is left out. -/
def contentOf (role : String) (parts : List Json) : List Json :=
  if parts.isEmpty then [] else [turn role parts]

theorem flatMap_partsOf_contentOf (role : String) (parts : List Json) :
    (contentOf role parts).flatMap partsOf = parts := by
  cases parts with
  | nil => rfl
  | cons part rest => exact List.append_nil _

theorem eq_turn_of_mem_contentOf {role : String} {parts : List Json} {content : Json}
    (member : content ∈ contentOf role parts) : content = turn role parts ∧ parts ≠ [] := by
  cases parts with
  | nil => cases member
  | cons part rest => exact ⟨List.mem_singleton.mp member, List.cons_ne_nil part rest⟩

theorem relaysTurn_of_writes {message : Message} {parts : List Json}
    {names : List (String × String)}
    (writes : Writes uses earlier message.blocks (parts, names)) :
    RelaysTurn uses message (contentOf (roleName message.role) parts) := by
  constructor
  case single => cases parts <;> simp [contentOf]
  case speaker =>
    intro content member
    rw [(eq_turn_of_mem_contentOf member).1]
    rfl
  case filled =>
    intro content member
    obtain ⟨rfl, filled⟩ := eq_turn_of_mem_contentOf member
    exact filled
  all_goals rw [flatMap_partsOf_contentOf]
  case shown => exact writes.shown
  case calls => exact writes.calls
  case answers => exact writes.answers

theorem relays_turns (distinct : (uses.map ToolUse.id).Nodup) {messages : List Message}
    (inside : earlier ++ messages.flatMap Message.uses ⊆ uses)
    (known : ResultsKnown earlier (messages.flatMap Message.blocks)) :
    Relays uses messages (turns (tableOf earlier) messages) := by
  induction messages generalizing earlier with
  | nil => exact .nil
  | cons message rest ih =>
      rw [List.flatMap_cons, ← List.append_assoc] at inside
      obtain ⟨here, later⟩ := known.append
      have writes := writes_blockParts distinct
        (fun use member => inside (List.mem_append_left _ member)) here
      rw [turns, contentParts_eq]
      refine .cons (relaysTurn_of_writes writes) ?_
      rw [← Message.blocks, writes.names]
      exact ih inside later

/-! ## The contents of a request -/

/-- The uses of tools in a request. -/
def usesOf (request : Request) : List ToolUse := request.messages.flatMap Message.uses

/-- The results in a request. -/
def resultsOf (request : Request) : List ToolResult := request.messages.flatMap Message.results

/-- At most one content, with one text. -/
def IsPrompt (prompt : List Json) : Prop :=
  prompt = [] ∨ ∃ text, prompt = [turn "user" [textPart text]]

/-- The contents of a request: a system prompt at most, and then the turns. -/
structure Conveys (request : Request) (contents : List Json) : Prop where
  /-- The turns come in their order, behind the system prompt. -/
  turns : ∃ prompt spoken, contents = prompt ++ spoken ∧ IsPrompt prompt ∧
    Relays (usesOf request) request.messages spoken
  filled : ∀ content ∈ contents, partsOf content ≠ []
  /-- Each use of a tool calls its function. -/
  calls : (contents.flatMap partsOf).filterMap calledFunction? =
    (usesOf request).map fun use => (use.name, use.input)
  /-- Each result answers the function of the use with its identifier. -/
  answers : List.Forall₂ (Answers (usesOf request)) (resultsOf request)
    ((contents.flatMap partsOf).filterMap answeredFunction?)

theorem Relays.filled {messages : List Message} {contents : List Json}
    (relays : Relays uses messages contents) : ∀ content ∈ contents, partsOf content ≠ [] := by
  induction relays with
  | nil => exact List.forall_mem_nil _
  | cons first _ ih => exact List.forall_mem_append.mpr ⟨first.filled, ih⟩

theorem Relays.calls {messages : List Message} {contents : List Json}
    (relays : Relays uses messages contents) :
    (contents.flatMap partsOf).filterMap calledFunction? =
      (messages.flatMap Message.uses).map fun use => (use.name, use.input) := by
  induction relays with
  | nil => rfl
  | cons first _ ih =>
      rw [List.flatMap_append, List.filterMap_append, first.calls, ih, List.flatMap_cons,
        List.map_append]

theorem Relays.answers {messages : List Message} {contents : List Json}
    (relays : Relays uses messages contents) :
    List.Forall₂ (Answers uses) (messages.flatMap Message.results)
      ((contents.flatMap partsOf).filterMap answeredFunction?) := by
  induction relays with
  | nil => exact .nil
  | cons first _ ih =>
      rw [List.flatMap_append, List.filterMap_append, List.flatMap_cons]
      exact List.rel_append first.answers ih

theorem isPrompt_systemTurn (system : Option Content) : IsPrompt (systemTurn system) := by
  rw [systemTurn]
  split
  · exact .inl rfl
  · exact .inr ⟨_, rfl⟩

theorem conveys_of_relays {request : Request} {prompt spoken : List Json}
    (isPrompt : IsPrompt prompt) (relays : Relays (usesOf request) request.messages spoken) :
    Conveys request (prompt ++ spoken) := by
  have filled : ∀ content ∈ prompt, partsOf content ≠ [] := by
    rcases isPrompt with rfl | ⟨text, rfl⟩
    · exact List.forall_mem_nil _
    · exact List.forall_mem_singleton.mpr (List.cons_ne_nil _ _)
  have noCalls : (prompt.flatMap partsOf).filterMap calledFunction? = [] := by
    rcases isPrompt with rfl | ⟨text, rfl⟩ <;> rfl
  have noAnswers : (prompt.flatMap partsOf).filterMap answeredFunction? = [] := by
    rcases isPrompt with rfl | ⟨text, rfl⟩ <;> rfl
  constructor
  case turns => exact ⟨prompt, spoken, rfl, isPrompt, relays⟩
  case filled => exact List.forall_mem_append.mpr ⟨filled, relays.filled⟩
  case calls =>
    rw [List.flatMap_append, List.filterMap_append, noCalls, List.nil_append, relays.calls]
    rfl
  case answers =>
    rw [List.flatMap_append, List.filterMap_append, noAnswers, List.nil_append]
    exact relays.answers

/-- Where identifiers are used once, and each result comes after its use, what is called are the uses
in their order, and each answer names the function that was called with its identifier. -/
theorem conveys_of_resultsKnown {request : Request}
    (distinct : ((usesOf request).map ToolUse.id).Nodup)
    (known : ResultsKnown [] (request.messages.flatMap Message.blocks)) :
    ∃ contents, (ofRequest request).get? "contents" = some (.array contents) ∧
      Conveys request contents := by
  have relays : Relays (usesOf request) request.messages (turns [] request.messages) :=
    relays_turns distinct (fun _ member => member) known
  exact ⟨_, rfl, conveys_of_relays (isPrompt_systemTurn request.system) relays⟩

/-- Two uses of one tool, the first of which is answered last, two turns later. -/
theorem conveys_of_resultsKnown_same_tool :
    let uses : Message := ⟨.assistant, .blocks [.toolUse "a" "search" (.string "map"),
      .toolUse "b" "stop" .null, .toolUse "c" "search" (.string "road")]⟩
    let some : Message := .userBlocks [.toolResult "c" (some (.text "east")) none,
      .toolResult "b" none none]
    let other : Message := .userBlocks [.ofText "And this?", .toolResult "a" none none]
    let request : Request := .ofMessages "small" [uses, some, .assistant "Well.", other]
    ((usesOf request).map ToolUse.id).Nodup ∧
      ResultsKnown [] (request.messages.flatMap Message.blocks) ∧
      ∃ contents, (ofRequest request).get? "contents" = .some (.array contents) ∧
        Conveys request contents := by
  intro uses some other request
  have distinct : ((usesOf request).map ToolUse.id).Nodup := by decide
  have known : ResultsKnown [] (request.messages.flatMap Message.blocks) := by
    iterate 8 apply ResultsKnown.cons (by decide)
    exact resultsKnown_nil _
  exact ⟨distinct, known, conveys_of_resultsKnown distinct known⟩

end ChatGateway.Wire.GenerateContent
