import ChatGateway.Proofs.Stage.Assembly

/-!
# Tidy blocks

A stream does not show where one text ends and the next one begins, and it shows no empty ones.
So who reads it back has the blocks of the message without empty texts and thoughts, and with those
that stand side by side in one block.
-/

namespace ChatGateway

namespace Block

/-- The block without the signature of its thoughts, which no delta brings. -/
def unsigned : Block → Block
  | .thinking thought _ => .thinking thought none
  | block => block

/-- Whether a block is an empty text or an empty thought. -/
def isVoid : Block → Bool
  | .text words _ => words.isEmpty
  | .thinking thought _ => thought.isEmpty
  | _ => false

/-- Two texts, or two thoughts, as one block. -/
def join? : Block → Block → Option Block
  | .text words marks, .text more _ => some (.text (words ++ more) marks)
  | .thinking thought signature, .thinking more _ => some (.thinking (thought ++ more) signature)
  | _, _ => none

/-- Puts a block in front of others, where it may be joined with the first of them. -/
def attach (block : Block) : List Block → List Block
  | [] => [block]
  | next :: rest =>
      match block.join? next with
      | some joined => joined :: rest
      | none => block :: next :: rest

/-- Blocks without the empty ones, where texts and thoughts that stand side by side are joined. -/
def tidy (blocks : List Block) : List Block :=
  (blocks.filter fun block => !block.isVoid).foldr attach []

/-- Adds a block behind others, as a stream does. -/
def addTo (before : List Block) (block : Block) : List Block :=
  if block.isVoid then before else before.dropLast ++ before.getLast?.toList.foldr attach [block]

theorem tidy_cons (block : Block) (rest : List Block) :
    tidy (block :: rest) = if block.isVoid then tidy rest else attach block (tidy rest) := by
  cases empty : block.isVoid <;> simp [tidy, empty]

theorem addTo_nil {block : Block} (filled : block.isVoid = false) : addTo [] block = [block] := by
  simp [addTo, filled]

theorem addTo_concat (before : List Block) (last : Block) {block : Block}
    (filled : block.isVoid = false) :
    addTo (before ++ [last]) block = before ++ attach last [block] := by
  simp [addTo, filled]

/-- Joining is associative. -/
theorem attach_attach_of_join? {first second joined : Block}
    (joins : first.join? second = some joined) (rest : List Block) : attach first (attach second rest) = attach joined rest := by
  cases first <;> cases second <;> cases joins <;> cases rest with
    | nil => rfl
    | cons next rest => cases next <;> simp [attach, join?, String.append_assoc]

/-- A block stays apart from the next one, whatever that is joined with. -/
theorem attach_attach_of_apart {first second : Block} (apart : first.join? second = none)
    (rest : List Block) : attach first (attach second rest) = first :: attach second rest := by
  have begins :
      ∃ begun others, attach second rest = begun :: others ∧ first.join? begun = none := by
    cases rest with
    | nil => exact ⟨second, [], rfl, apart⟩
    | cons next rest =>
        rw [attach]
        cases joins : second.join? next with
        | none => exact ⟨second, next :: rest, rfl, apart⟩
        | some joined =>
            refine ⟨joined, rest, rfl, ?_⟩
            cases second <;> cases next <;> cases joins <;> cases first <;> cases apart <;> rfl
  obtain ⟨begun, others, same, apartToo⟩ := begins
  rw [same, attach, apartToo]

theorem foldl_addTo_concat (before : List Block) (last : Block) (blocks : List Block) :
    blocks.foldl addTo (before ++ [last]) = before ++ attach last (tidy blocks) := by
  induction blocks generalizing before last with
  | nil => rfl
  | cons block rest ih =>
      rw [List.foldl_cons, tidy_cons]
      cases empty : block.isVoid with
      | true =>
          rw [addTo, if_pos empty, if_pos rfl, ih]
      | false =>
          rw [addTo_concat before last empty, if_neg Bool.false_ne_true]
          cases joins : last.join? block with
          | some joined =>
              rw [attach_attach_of_join? joins, ← ih]
              simp [attach, joins]
          | none =>
              rw [attach_attach_of_apart joins, List.append_cons, ← ih]
              simp [attach, joins]

/-- Adding one block after the other makes them tidy. -/
theorem foldl_addTo (blocks : List Block) : blocks.foldl addTo [] = tidy blocks := by
  induction blocks with
  | nil => rfl
  | cons block rest ih =>
      rw [List.foldl_cons, tidy_cons]
      cases empty : block.isVoid with
      | true => rw [addTo, if_pos empty, if_pos rfl, ih]
      | false =>
          rw [addTo_nil empty, if_neg Bool.false_ne_true]
          exact foldl_addTo_concat [] block rest

/-! ## Generated ids -/

/-- Blocks without the ids of tools that were generated.  `given` tells of one tool after the other
what id came with it. -/
def hideGenerated (given : List (Option String)) : List Block → List Block
  | [] => []
  | .toolUse id name input :: rest =>
      .toolUse (if given.head? = some none then "" else id) name input ::
        hideGenerated given.tail rest
  | block :: rest => block :: hideGenerated given rest

/-- Whether a block is one of a tool, which has an id. -/
def isTool : Block → Bool
  | .toolUse _ _ _ => true
  | _ => false

theorem hideGenerated_cons {block : Block} (noTool : block.isTool = false)
    (given : List (Option String)) (rest : List Block) :
    hideGenerated given (block :: rest) = block :: hideGenerated given rest := by
  cases block with
  | toolUse => cases noTool
  | _ => rfl

theorem hideGenerated_append {blocks : List Block}
    (noTools : ∀ block ∈ blocks, block.isTool = false) (given : List (Option String)) (rest : List Block) :
    hideGenerated given (blocks ++ rest) = blocks ++ hideGenerated given rest := by
  induction blocks with
  | nil => rfl
  | cons block others ih =>
      rw [List.forall_mem_cons] at noTools
      rw [List.cons_append, hideGenerated_cons noTools.1, ih noTools.2, List.cons_append]

theorem attach_toolUse (id name : String) (input : Json) (rest : List Block) :
    attach (.toolUse id name input) rest = .toolUse id name input :: rest := by
  cases rest <;> rfl

/-- No block is joined with one of a tool. -/
theorem join?_toolUse (block : Block) (id name : String) (input : Json) :
    block.join? (.toolUse id name input) = none := by
  cases block <;> rfl

theorem addTo_toolUse (before : List Block) (id name : String) (input : Json) :
    addTo before (.toolUse id name input) = before ++ [.toolUse id name input] := by
  rcases List.eq_nil_or_concat' before with rfl | ⟨earlier, last, rfl⟩
  · exact addTo_nil rfl
  · rw [addTo_concat earlier last rfl, attach, join?_toolUse, List.append_assoc]
    rfl

theorem isTool_of_join? {block next joined : Block} (joins : block.join? next = some joined) :
    joined.isTool = false ∧ next.isTool = false := by
  cases block <;> cases next <;> cases joins <;> exact ⟨rfl, rfl⟩

theorem hideGenerated_attach {block : Block} (noTool : block.isTool = false)
    (given : List (Option String)) (rest : List Block) :
    hideGenerated given (attach block rest) = attach block (hideGenerated given rest) := by
  cases rest with
  | nil => exact hideGenerated_cons noTool given []
  | cons next rest =>
      rw [attach]
      cases joins : block.join? next with
      | some joined =>
          obtain ⟨joinedNoTool, nextNoTool⟩ := isTool_of_join? joins
          rw [hideGenerated_cons joinedNoTool, hideGenerated_cons nextNoTool, attach, joins]
      | none =>
          rw [hideGenerated_cons noTool]
          cases tool : next.isTool with
          | false => rw [hideGenerated_cons tool, attach, joins]
          | true =>
              cases next <;> cases tool
              rw [hideGenerated, attach, join?_toolUse]

/-- Making blocks tidy does not touch tools. -/
theorem hideGenerated_tidy (given : List (Option String)) (blocks : List Block) :
    hideGenerated given (tidy blocks) = tidy (hideGenerated given blocks) := by
  induction blocks generalizing given with
  | nil => rfl
  | cons block rest ih =>
      rw [tidy_cons]
      cases tool : block.isTool with
      | false =>
          rw [hideGenerated_cons tool, tidy_cons]
          cases block.isVoid with
          | true => exact ih given
          | false => rw [if_neg Bool.false_ne_true, if_neg Bool.false_ne_true,
              hideGenerated_attach tool, ih]
      | true =>
          cases block <;> cases tool
          rw [hideGenerated, tidy_cons, attach_toolUse, attach_toolUse, ← ih]
          rfl

end Block

/-! ## Sketches -/

/-- A draft that a stream of deltas can begin. -/
inductive Draft.IsPlain : Draft → Prop where
  | ofText {kind : BlockKind} (own : kind ≠ .toolUse) (text : String) :
      IsPlain ⟨kind.opening, text⟩
  | ofTool (id name : String) (input : Json) (text : String) :
      IsPlain ⟨.toolUse id name input, text⟩

namespace Sketch

/-- All blocks of a sketch were begun by deltas. -/
def IsPlain (sketch : Sketch) : Prop := ∀ draft ∈ sketch.drafts, draft.IsPlain

/-- The blocks of a sketch. -/
def blocks (input : String → Json) (sketch : Sketch) : List Block :=
  sketch.drafts.map (Draft.block input)

variable {input : String → Json} {earlier : List Draft} {tools : List (Nat × Nat)}

theorem isPlain_concat {last : Draft} (plain : ∀ draft ∈ earlier, draft.IsPlain)
    (plainToo : last.IsPlain) : (⟨earlier ++ [last], tools⟩ : Sketch).IsPlain :=
  List.forall_mem_append.mpr ⟨plain, List.forall_mem_singleton.mpr plainToo⟩

theorem blocks_concat (last : Draft) : (⟨earlier ++ [last], tools⟩ : Sketch).blocks input =
    (⟨earlier, tools⟩ : Sketch).blocks input ++ [last.block input] :=
  List.map_append

/-- How a stream shows a kind of text: its blocks, and how they are told apart from others. -/
structure Shows (input : String → Json) (kind : BlockKind) (delta : String → Delta)
    (make : String → Block) : Prop where
  own : kind ≠ .toolUse
  grows : ∀ text more,
    (Draft.mk kind.opening text).grow (delta more) = ⟨kind.opening, text ++ more⟩
  whole : ∀ text, (Draft.mk kind.opening text).block input = make text
  void : ∀ text, (make text).isVoid = text.isEmpty
  joins : ∀ text more, (make text).join? (make more) = some (make (text ++ more))
  apart : ∀ draft : Draft, draft.IsPlain → draft.kind ≠ kind →
    ∀ text, (draft.block input).join? (make text) = none

theorem shows_text (input : String → Json) : Shows input .text .text .ofText where
  own := nofun
  grows _ _ := rfl
  whole text := by
    change Block.text ("" ++ text) none = _
    rw [String.empty_append]
    rfl
  void _ := rfl
  joins _ _ := rfl
  apart draft plain other text := by
    cases plain with
    | ofTool => rfl
    | @ofText kind own _ =>
        cases kind with
        | text => exact absurd rfl other
        | thinking => rfl
        | toolUse => exact absurd rfl own

theorem shows_thinking (input : String → Json) :
    Shows input .thinking .thinking fun thought => .thinking thought none where
  own := nofun
  grows _ _ := rfl
  whole text := by
    change Block.thinking ("" ++ text) none = _
    rw [String.empty_append]
  void _ := rfl
  joins _ _ := rfl
  apart draft plain other text := by
    cases plain with
    | ofTool => rfl
    | @ofText kind own _ =>
        cases kind with
        | text => rfl
        | thinking => exact absurd rfl other
        | toolUse => exact absurd rfl own

section

variable {kind : BlockKind} {delta : String → Delta} {make : String → Block}

/-- A text that begins a block of its own. -/
theorem write_fresh (shown : Shows input kind delta make) {text : String}
    (filled : text.isEmpty = false) (fresh : (⟨earlier, tools⟩ : Sketch).lastKind? ≠ some kind) :
    (⟨earlier, tools⟩ : Sketch).write kind delta text =
      ⟨earlier ++ [⟨kind.opening, text⟩], tools⟩ := by
  rw [write, if_neg (by simp [filled]), ensure, if_neg fresh]
  change (⟨earlier ++ [⟨kind.opening, ""⟩], tools⟩ : Sketch).grow (delta text) = _
  rw [grow_concat, shown.grows, String.empty_append]

/-- A text that goes on with the last block. -/
theorem write_more (shown : Shows input kind delta make) {text : String}
    (filled : text.isEmpty = false) (before : String) :
    (⟨earlier ++ [⟨kind.opening, before⟩], tools⟩ : Sketch).write kind delta text =
      ⟨earlier ++ [⟨kind.opening, before ++ text⟩], tools⟩ := by
  have last : (⟨earlier ++ [⟨kind.opening, before⟩], tools⟩ : Sketch).lastKind? = some kind := by
    rw [lastKind?, List.getLast?_concat, Option.map_some]
    exact congrArg some (BlockKind.kind_opening shown.own)
  rw [write, if_neg (by simp [filled]), ensure, if_pos last, grow_concat, shown.grows]

/-- Writing a text adds a block of it, and leaves the sketch plain. -/
theorem blocks_write (shown : Shows input kind delta make) {sketch : Sketch}
    (plain : sketch.IsPlain) (text : String) :
    (sketch.write kind delta text).IsPlain ∧
      (sketch.write kind delta text).blocks input =
        Block.addTo (sketch.blocks input) (make text) := by
  cases filled : text.isEmpty with
  | true =>
      rw [write, if_pos filled, Block.addTo, shown.void, if_pos filled]
      exact ⟨plain, rfl⟩
  | false =>
      have notVoid : (make text).isVoid = false := (shown.void text).trans filled
      have begun : Draft.IsPlain ⟨kind.opening, text⟩ := .ofText shown.own text
      obtain ⟨drafts, tools⟩ := sketch
      rcases List.eq_nil_or_concat' drafts with rfl | ⟨earlier, last, rfl⟩
      · rw [write_fresh shown filled (by simp [lastKind?])]
        exact ⟨isPlain_concat (List.forall_mem_nil _) begun, by
          rw [blocks_concat, shown.whole]
          exact (Block.addTo_nil notVoid).symm⟩
      · obtain ⟨before, lastPlain⟩ := List.forall_mem_append.mp plain
        rw [List.forall_mem_singleton] at lastPlain
        rw [blocks_concat, Block.addTo_concat _ _ notVoid]
        by_cases same : last.kind = kind
        · obtain ⟨start, rfl⟩ : ∃ start, last = ⟨kind.opening, start⟩ := by
            cases lastPlain with
            | ofTool => exact absurd same.symm shown.own
            | @ofText other own start =>
                exact ⟨start, by rw [← (BlockKind.kind_opening own).symm.trans same]⟩
          rw [write_more shown filled, blocks_concat, shown.whole, shown.whole]
          refine ⟨isPlain_concat before (.ofText shown.own _), ?_⟩
          rw [Block.attach, shown.joins]
        · have fresh : (⟨earlier ++ [last], tools⟩ : Sketch).lastKind? ≠ some kind := by
            rw [lastKind?, List.getLast?_concat, Option.map_some]
            exact fun equal => same (Option.some.inj equal)
          rw [write_fresh shown filled fresh, blocks_concat, blocks_concat, shown.whole]
          refine ⟨isPlain_concat plain begun, ?_⟩
          rw [Block.attach, shown.apart last lastPlain same, List.append_assoc]
          rfl

end

end Sketch

end ChatGateway
