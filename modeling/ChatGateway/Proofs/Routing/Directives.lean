import ChatGateway.Proofs.Text.Search
import ChatGateway.Routing.Directive
import Mathlib.Data.List.TakeWhile

/-!
# Directives in system prompts

A prompt holds a directive if a tag before a target is followed by a tag after it, both in one text.
The first of these texts loses what stands from its first tag before a target to the next tag after
one, with the blanks behind it.  Nothing else of the request changes, and without a directive nothing
changes at all.
-/

namespace ChatGateway.Directive

/-- A text with a directive, taken apart. -/
structure Parts where
  before : List Char
  target : List Char
  blanks : List Char
  after : List Char

/-- Whether a text holds a directive. -/
def Holds (text : List Char) : Prop :=
  ∃ before target after,
    text = before ++ opening.toList ++ target ++ closing.toList ++ after

/-- Parts around the first directive of a text.  It begins with the first tag that is followed by one
after a target, ends with the next of these, and all blanks behind it belong to it. -/
structure AreFirst (parts : Parts) (text : List Char) : Prop where
  whole : text = parts.before ++ opening.toList ++ parts.target ++ closing.toList ++
    (parts.blanks ++ parts.after)
  first : ∀ other target after, text = other ++ opening.toList ++ target ++ closing.toList ++ after →
    parts.before.length ≤ other.length
  next : ∀ other after, parts.target ++ closing.toList ++ (parts.blanks ++ parts.after) =
    other ++ closing.toList ++ after → parts.target.length ≤ other.length
  blank : ∀ character ∈ parts.blanks, Text.isBlank character = true
  all : ∀ character, parts.after.head? = some character → Text.isBlank character = false

/-- The first directive of a text has this target, and without the directive this is left. -/
def Takes (text target rest : String) : Prop :=
  ∃ parts : Parts, AreFirst parts text.toList ∧
    target = String.ofList (Text.trimChars parts.target) ∧
    rest = String.ofList (parts.before ++ parts.after)

/-- The texts of a prompt. -/
def texts : Content → List String
  | .text words => [words]
  | .blocks blocks => blocks.filterMap fun block =>
      match block with
      | .text words _ => some words
      | _ => none

/-- The first text of a prompt that holds a directive loses it, and all else is left as it is. -/
inductive TakesFrom : Content → String → Content → Prop where
  | bare {text target rest : String} (taken : Takes text target rest) :
      TakesFrom (.text text) target (.text rest)
  | block {earlier later : List Block} {cacheControl : Option Json} {text target rest : String}
      (passed : ∀ words mark, .text words mark ∈ earlier → ¬Holds words.toList)
      (taken : Takes text target rest) :
      TakesFrom (.blocks (earlier ++ .text text cacheControl :: later)) target
        (.blocks (earlier ++ .text rest cacheControl :: later))

/-- A request without its directive, if it has one. -/
def stripped (request : Request) : Request := ((take? request).map Prod.snd).getD request

variable {text target rest : String}

/-- What follows an earlier place of a text goes on to a later one. -/
theorem exists_between {front rest before after : List Char} (whole : front ++ rest = before ++ after)
    (earlier : front.length ≤ before.length) : ∃ between, rest = between ++ after := by
  obtain ⟨between, rfl⟩ := List.prefix_of_prefix_length_le (List.prefix_append front rest)
    (whole ▸ List.prefix_append before after) earlier
  rw [List.append_assoc] at whole
  exact ⟨between, List.append_cancel_left whole⟩

/-! ## Texts -/

/-- A tag before the place of a directive has the tag after the target behind it, too. -/
theorem exists_closing {text before target after other rest : List Char}
    (whole : text = before ++ opening.toList ++ target ++ closing.toList ++ after)
    (split : text = other ++ opening.toList ++ rest) (earlier : other.length ≤ before.length) :
    ∃ between, rest = between ++ closing.toList ++ after := by
  have same : (other ++ opening.toList) ++ rest =
      (before ++ opening.toList ++ target) ++ (closing.toList ++ after) := by
    rw [← split, whole, List.append_assoc _ closing.toList]
  have shorter : (other ++ opening.toList).length ≤
      (before ++ opening.toList ++ target).length := by
    simp only [List.length_append]
    omega
  obtain ⟨between, found⟩ := exists_between same shorter
  exact ⟨between, by rw [found, List.append_assoc]⟩

theorem takes_of_takeFromText? (taken : takeFromText? text = some (target, rest)) :
    Takes text target rest := by
  simp only [takeFromText?, bind, Option.bind_eq_some_iff] at taken
  obtain ⟨⟨before, tail⟩, opened, ⟨inner, after⟩, closed, same⟩ := taken
  cases same
  obtain ⟨whole, first⟩ := Text.cut?_eq_some_iff.mp opened
  obtain ⟨split, next⟩ := Text.cut?_eq_some_iff.mp closed
  have blanks := List.takeWhile_append_dropWhile (p := Text.isBlank) (l := after)
  refine ⟨⟨before, inner, after.takeWhile Text.isBlank, after.dropWhile Text.isBlank⟩, ?_, rfl, rfl⟩
  constructor
  case whole =>
    dsimp only at split ⊢
    rw [blanks, whole, split]
    simp only [List.append_assoc]
  case first =>
    intro other target later again
    apply first other (target ++ closing.toList ++ later)
    rw [again]
    simp only [List.append_assoc]
  case next =>
    intro other later again
    apply next other later
    rw [← again, blanks]
    exact split
  case blank => exact fun _ member => List.mem_takeWhile_imp member
  case all =>
    intro character head
    have outside := List.head?_dropWhile_not Text.isBlank after
    dsimp only at head
    rw [head] at outside
    exact outside

theorem takeFromText?_of_takes (takes : Takes text target rest) :
    takeFromText? text = some (target, rest) := by
  obtain ⟨⟨before, inner, blanks, after⟩, firsts, rfl, rfl⟩ := takes
  obtain ⟨whole, first, next, blank, all⟩ := firsts
  dsimp only at whole first next blank all
  have opened : Text.cut? opening.toList text.toList =
      some (before, inner ++ closing.toList ++ (blanks ++ after)) := by
    apply Text.cut?_eq_some_iff.mpr
    refine ⟨by rw [whole]; simp only [List.append_assoc], ?_⟩
    intro other rest split
    rcases Nat.le_total other.length before.length with earlier | later
    · obtain ⟨between, found⟩ := exists_closing whole split earlier
      apply first other between (blanks ++ after)
      rw [split, found]
      simp only [List.append_assoc]
    · exact later
  have closed : Text.cut? closing.toList (inner ++ closing.toList ++ (blanks ++ after)) =
      some (inner, blanks ++ after) :=
    Text.cut?_eq_some_iff.mpr ⟨rfl, next⟩
  have stripped : (blanks ++ after).dropWhile Text.isBlank = after :=
    Text.dropWhile_append blank all
  simp only [takeFromText?, bind, opened, Option.bind_some, closed, stripped]

theorem takeFromText?_eq_some_iff :
    takeFromText? text = some (target, rest) ↔ Takes text target rest :=
  ⟨takes_of_takeFromText?, takeFromText?_of_takes⟩

/-- A directive is found in a text that holds one, and only there. -/
theorem isSome_takeFromText?_iff : (takeFromText? text).isSome = true ↔ Holds text.toList := by
  constructor
  · intro found
    obtain ⟨⟨target, rest⟩, taken⟩ := Option.isSome_iff_exists.mp found
    obtain ⟨parts, firsts, -, -⟩ := takes_of_takeFromText? taken
    exact ⟨_, _, _, firsts.whole⟩
  · rintro ⟨before, target, after, whole⟩
    have cutFirst : text.toList = before ++ opening.toList ++ (target ++ closing.toList ++ after) := by
      rw [whole]
      simp only [List.append_assoc]
    obtain ⟨⟨other, rest⟩, opened⟩ := Text.exists_cut? cutFirst
    obtain ⟨split, first⟩ := Text.cut?_eq_some_iff.mp opened
    obtain ⟨between, found⟩ := exists_closing whole split (first _ _ cutFirst)
    obtain ⟨⟨inner, tail⟩, closed⟩ := Text.exists_cut? found
    simp only [takeFromText?, bind, opened, Option.bind_some, closed, Option.isSome_some]

/-! ## Prompts -/

theorem takeFromText?_eq_none_iff : takeFromText? text = none ↔ ¬Holds text.toList := by
  rw [← isSome_takeFromText?_iff, Bool.not_eq_true, Option.isSome_eq_false_iff, Option.isNone_iff_eq_none]

/-- Whether a block holds no directive. -/
def Passes (block : Block) : Prop :=
  ∀ words mark, block = .text words mark → takeFromText? words = none

theorem takeFromBlocks?_of_passes {block : Block} (passes : Passes block) (rest : List Block) :
    takeFromBlocks? (block :: rest) =
      (takeFromBlocks? rest).map fun found => (found.1, block :: found.2) := by
  cases block with
  | text words mark => simp only [takeFromBlocks?, passes words mark rfl]
  | _ => rfl

theorem takeFromBlocks?_of_taken (taken : takeFromText? text = some (target, rest))
    (mark : Option Json) (later : List Block) :
    takeFromBlocks? (.text text mark :: later) = some (target, .text rest mark :: later) := by
  simp only [takeFromBlocks?, taken]

/-- A block passes, or a directive is taken from it. -/
theorem passes_or_taken (block : Block) :
    Passes block ∨ ∃ words mark target rest, block = .text words mark ∧
      takeFromText? words = some (target, rest) := by
  cases block with
  | text words mark =>
      cases taken : takeFromText? words with
      | none =>
          left
          rintro _ _ ⟨⟩
          exact taken
      | some found => exact .inr ⟨words, mark, found.1, found.2, rfl, taken⟩
  | _ => exact .inl nofun

theorem takeFromBlocks?_append {earlier : List Block} (passes : ∀ block ∈ earlier, Passes block)
    (blocks : List Block) :
    takeFromBlocks? (earlier ++ blocks) =
      (takeFromBlocks? blocks).map fun found => (found.1, earlier ++ found.2) := by
  induction earlier with
  | nil => simp
  | cons block earlier ih =>
      rw [List.forall_mem_cons] at passes
      rw [List.cons_append, takeFromBlocks?_of_passes passes.1, ih passes.2, Option.map_map]
      rfl

/-- Blocks all pass, or a directive is taken from the first one that does not. -/
theorem all_pass_or_taken (blocks : List Block) :
    (∀ block ∈ blocks, Passes block) ∨
      ∃ earlier words mark later target rest, blocks = earlier ++ .text words mark :: later ∧
        (∀ block ∈ earlier, Passes block) ∧ takeFromText? words = some (target, rest) := by
  induction blocks with
  | nil => exact .inl nofun
  | cons block rest ih =>
      rcases passes_or_taken block with passes | ⟨words, mark, target, left, rfl, taken⟩
      · rcases ih with others | ⟨earlier, words, mark, later, target, left, rfl, before, taken⟩
        · exact .inl (List.forall_mem_cons.mpr ⟨passes, others⟩)
        · exact .inr ⟨block :: earlier, words, mark, later, target, left, rfl,
            List.forall_mem_cons.mpr ⟨passes, before⟩, taken⟩
      · exact .inr ⟨[], words, mark, rest, target, left, rfl, nofun, taken⟩

theorem takeFromBlocks?_eq_none {blocks : List Block} (passes : ∀ block ∈ blocks, Passes block) :
    takeFromBlocks? blocks = none := by
  have whole := takeFromBlocks?_append passes []
  rwa [List.append_nil] at whole

theorem forall_passes_iff {blocks : List Block} :
    (∀ block ∈ blocks, Passes block) ↔
      ∀ words mark, .text words mark ∈ blocks → ¬Holds words.toList := by
  constructor
  · intro passes words mark member
    exact takeFromText?_eq_none_iff.mp (passes _ member words mark rfl)
  · rintro none _ member words mark rfl
    exact takeFromText?_eq_none_iff.mpr (none words mark member)

theorem takeFrom?_eq_some_iff {content left : Content} :
    takeFrom? content = some (target, left) ↔ TakesFrom content target left := by
  constructor
  · intro taken
    cases content with
    | text words =>
        obtain ⟨⟨name, rest⟩, found, same⟩ := Option.map_eq_some_iff.mp taken
        cases same
        exact .bare (takeFromText?_eq_some_iff.mp found)
    | blocks blocks =>
        obtain ⟨⟨name, others⟩, found, same⟩ := Option.map_eq_some_iff.mp taken
        cases same
        rcases all_pass_or_taken blocks with none | ⟨earlier, words, mark, later, name, rest, rfl,
          passes, first⟩
        · rw [takeFromBlocks?_eq_none none] at found
          cases found
        · rw [takeFromBlocks?_append passes, takeFromBlocks?_of_taken first] at found
          cases found
          exact .block (forall_passes_iff.mp passes) (takeFromText?_eq_some_iff.mp first)
  · rintro (taken | ⟨passed, taken⟩)
    · rw [takeFrom?, takeFromText?_eq_some_iff.mpr taken]
      rfl
    · rw [takeFrom?, takeFromBlocks?_append (forall_passes_iff.mpr passed),
        takeFromBlocks?_of_taken (takeFromText?_eq_some_iff.mpr taken)]
      rfl

theorem mem_texts_iff {blocks : List Block} {words : String} :
    words ∈ texts (.blocks blocks) ↔ ∃ mark, .text words mark ∈ blocks := by
  rw [texts, List.mem_filterMap]
  constructor
  · rintro ⟨block, member, same⟩
    cases block with
    | text other mark =>
        cases same
        exact ⟨mark, member⟩
    | _ => cases same
  · rintro ⟨mark, member⟩
    exact ⟨_, member, rfl⟩

theorem Takes.holds (takes : Takes text target rest) : Holds text.toList := by
  obtain ⟨parts, firsts, -, -⟩ := takes
  exact ⟨_, _, _, firsts.whole⟩

/-- A directive is found in a prompt with a text that holds one, and only there. -/
theorem isSome_takeFrom?_iff {content : Content} :
    (takeFrom? content).isSome = true ↔ ∃ words ∈ texts content, Holds words.toList := by
  constructor
  · intro found
    obtain ⟨⟨target, left⟩, outcome⟩ := Option.isSome_iff_exists.mp found
    rcases takeFrom?_eq_some_iff.mp outcome with taken | ⟨passed, taken⟩
    · exact ⟨_, List.mem_singleton.mpr rfl, taken.holds⟩
    · exact ⟨_, mem_texts_iff.mpr ⟨_, List.mem_append_right _ List.mem_cons_self⟩, taken.holds⟩
  · rintro ⟨words, member, holds⟩
    cases content with
    | text other =>
        obtain rfl := List.mem_singleton.mp member
        rw [takeFrom?, Option.isSome_map, isSome_takeFromText?_iff]
        exact holds
    | blocks blocks =>
        obtain ⟨mark, among⟩ := mem_texts_iff.mp member
        rcases all_pass_or_taken blocks with none | ⟨earlier, words, mark, later, name, rest, rfl,
          passes, first⟩
        · exact absurd holds (forall_passes_iff.mp none words mark among)
        · rw [takeFrom?, takeFromBlocks?_append passes, takeFromBlocks?_of_taken first]
          rfl

/-! ## Requests -/

theorem take?_eq_some_iff {request after : Request} :
    take? request = some (target, after) ↔ ∃ system prompt, request.system = some system ∧
      TakesFrom system target prompt ∧ after = { request with system := some prompt } := by
  simp only [take?, bind, Option.bind_eq_some_iff, Option.some.injEq, Prod.mk.injEq]
  constructor
  · rintro ⟨system, given, ⟨name, prompt⟩, taken, rfl, rfl⟩
    exact ⟨system, prompt, given, takeFrom?_eq_some_iff.mp taken, rfl⟩
  · rintro ⟨system, prompt, given, taken, rfl⟩
    exact ⟨system, given, (target, prompt), takeFrom?_eq_some_iff.mpr taken, rfl, rfl⟩

theorem isSome_take?_iff {request : Request} :
    (take? request).isSome = true ↔
      ∃ system words, request.system = some system ∧ words ∈ texts system ∧
        Holds words.toList := by
  cases given : request.system with
  | none => simp [take?, given]
  | some system =>
      have found : (take? request).isSome = (takeFrom? system).isSome := by
        simp only [take?, given, bind, Option.bind_some]
        cases takeFrom? system <;> rfl
      rw [found, isSome_takeFrom?_iff]
      simp

/-- A directive is found just when a text of the system prompt holds one.  Then the first such text
loses its first directive, and otherwise nothing changes. -/
theorem take?_takesFrom (request : Request) :
    ((take? request).isSome = true ↔
        ∃ system words, request.system = some system ∧ words ∈ texts system ∧
          Holds words.toList) ∧
      (∀ target after, take? request = some (target, after) ↔
        ∃ system prompt, request.system = some system ∧ TakesFrom system target prompt ∧
          after = { request with system := some prompt }) ∧
      ((∀ system words, request.system = some system → words ∈ texts system →
        ¬Holds words.toList) → stripped request = request) := by
  refine ⟨isSome_take?_iff, fun target after => take?_eq_some_iff, ?_⟩
  intro undirected
  have absent : take? request = none := by
    rw [← Option.isNone_iff_eq_none, ← Option.isSome_eq_false_iff, ← Bool.not_eq_true,
      isSome_take?_iff]
    rintro ⟨system, words, given, member, holds⟩
    exact undirected system words given member holds
  rw [stripped, absent]
  rfl

/-- A tag after a target that comes too early is passed over, and so is a tag before a target that
stands within one; a directive is looked for in texts only, and taken from one of them. -/
theorem take?_takesFrom_stray_tags :
    let prompt (words : String) : Content := .blocks
      [.text "</subagent-model>Be brief.<subagent-model>a,b" none,
        .thinking "<subagent-model>a,b</subagent-model>" none,
        .text words none,
        .text "<subagent-model>c,d</subagent-model>" none]
    let full := prompt
      "Go. <subagent-model>\na,<subagent-model>b </subagent-model> \n\tOn.</subagent-model>"
    let left := prompt "Go. On.</subagent-model>"
    let request : Request := { (default : Request) with system := some full }
    take? request = some ("a,<subagent-model>b", { request with system := some left }) ∧
      TakesFrom full "a,<subagent-model>b" left := by
  intro prompt full left request
  have taken : take? request =
      some ("a,<subagent-model>b", { request with system := some left }) := rfl
  obtain ⟨system, rest, given, takes, same⟩ := ((take?_takesFrom request).2.1 _ _).mp taken
  cases given
  cases congrArg Request.system same
  exact ⟨taken, takes⟩

end ChatGateway.Directive
