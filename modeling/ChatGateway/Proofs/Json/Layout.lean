import ChatGateway.Proofs.Json.ReadBack
import ChatGateway.Proofs.Json.Strings
import ChatGateway.Text.Blank

/-!
# Layouts of a value

A value can be written in many ways: with blanks between its tokens, and, by mistake, with a comma
before a bracket that closes.  Without such a comma every layout of a value is read as the value.
With one it is not read at all, whatever blanks follow the comma.
-/

namespace ChatGateway.Json

/-! ## Tokens in a row -/

namespace Token

/-- The characters of a token. -/
def print : Token → List Char
  | .openArray => ['[']
  | .closeArray => [']']
  | .openObject => ['\x7b']
  | .closeObject => ['\x7d']
  | .comma => [',']
  | .colon => [':']
  | .scalar value => value.print

/-- Whether a token closes an array or an object. -/
def closes : Token → Bool
  | .closeArray | .closeObject => true
  | _ => false

/-- Whether a token is a value of its own. -/
def isScalar : Token → Bool
  | .scalar _ => true
  | _ => false

/-- Whether two tokens never stand side by side: a comma and what closes, or two values. -/
def clash : Token → Token → Bool
  | .comma, second => second.closes
  | .scalar _, second => second.isScalar
  | _, _ => false

end Token

/-- After a comma there has to be something more. -/
theorem expect_of_step_comma {reader next : Reader} (step : reader.step .comma = some next) :
    next.expect = .value ∨ next.expect = .name := by
  obtain ⟨levels, expect⟩ := reader
  cases expect with
  | commaOrClose =>
      rcases levels with _ | ⟨⟨level, name⟩, rest⟩
      · cases step
      · cases level <;> cases step
        · exact .inl rfl
        · exact .inr rfl
  | colon name => rcases levels with _ | ⟨⟨level, name⟩, rest⟩ <;> cases step
  | value | itemOrClose | nameOrClose | name | done => cases step

/-- After a value there is no other one. -/
theorem step_scalar_of_step_scalar {reader next : Reader} {value : Json}
    (step : reader.step (.scalar value) = some next) (other : Json) :
    next.step (.scalar other) = none := by
  have accepted {levels : List (Level × Option String)} {after : Reader}
      (accepts : Reader.accept levels value = some after) : after.step (.scalar other) = none := by
    rcases levels with _ | ⟨⟨level, name⟩, rest⟩
    · cases accepts
      rfl
    · cases level with
      | array items =>
          cases accepts
          rfl
      | object fields =>
          cases name <;> cases accepts
          rfl
  obtain ⟨levels, expect⟩ := reader
  cases expect with
  | value | itemOrClose => exact accepted step
  | nameOrClose | name =>
      cases value with
      | string name =>
          cases step
          rcases levels with _ | ⟨⟨level, name⟩, rest⟩ <;> rfl
      | null | bool | number | array | object => cases step
  | colon name => rcases levels with _ | ⟨⟨level, name⟩, rest⟩ <;> cases step
  | commaOrClose => rcases levels with _ | ⟨⟨level | level, name⟩, rest⟩ <;> cases step
  | done => cases step

/-- The reader stops at two tokens that never stand side by side. -/
theorem step_of_clash {reader next : Reader} {first second : Token}
    (clash : first.clash second = true) (step : reader.step first = some next) :
    next.step second = none := by
  cases first with
  | comma =>
      obtain ⟨levels, expect⟩ := next
      cases second with
      | closeArray | closeObject =>
          rcases expect_of_step_comma step with waits | waits <;> cases waits <;> rfl
      | openArray | openObject | comma | colon | scalar => cases clash
  | scalar value =>
      cases second with
      | scalar other => exact step_scalar_of_step_scalar step other
      | openArray | closeArray | openObject | closeObject | comma | colon => cases clash
  | openArray | closeArray | openObject | closeObject | colon => cases clash

/-- Tokens that the reader takes in, from some state on. -/
def Flows (tokens : List Token) : Prop :=
  ∃ reader final, tokens.foldlM Reader.step reader = some final

theorem Flows.of_append {before tokens : List Token} (flows : Flows (before ++ tokens)) :
    Flows tokens := by
  obtain ⟨reader, final, run⟩ := flows
  rw [List.foldlM_append, Option.bind_eq_bind, Option.bind_eq_some_iff] at run
  obtain ⟨middle, -, run⟩ := run
  exact ⟨middle, final, run⟩

theorem Flows.of_cons {token : Token} {tokens : List Token} (flows : Flows (token :: tokens)) :
    Flows tokens := by
  have front : Flows ([token] ++ tokens) := flows
  exact front.of_append

theorem Flows.apart {first second : Token} {rest : List Token}
    (flows : Flows (first :: second :: rest)) : first.clash second = false := by
  obtain ⟨reader, final, run⟩ := flows
  simp only [List.foldlM_cons, Option.bind_eq_bind, Option.bind_eq_some_iff] at run
  obtain ⟨next, step, after, other, -⟩ := run
  by_contra clash
  rw [step_of_clash (Bool.eq_true_of_not_eq_false clash) step] at other
  cases other

/-- The tokens of a legible value are read, so none of them clash. -/
theorem IsLegible.flows_tokens {value : Json} (legible : value.IsLegible depthLimit) :
    Flows value.tokens :=
  ⟨_, _, legible.readsAs [] .value .value (Nat.zero_add depthLimit).le⟩

/-! ## Tokens in a text -/

/-- The tokens of a legible value are legible. -/
theorem IsLegible.isLegible_tokens {room : Nat} {value : Json} (legible : value.IsLegible room) :
    ∀ token ∈ value.tokens, token.IsLegible := by
  have cut := legible.lexes [] (by rintro next ⟨⟩)
  exact isLegible_of_lex (cut.trans (congrArg some (List.append_nil _)))

/-- A legible token is cut out of a text, a value where no word goes on behind it. -/
theorem Token.IsLegible.lex_print_append {token : Token} (legible : token.IsLegible)
    {rest : List Char} (ends : token.isScalar = true → EndsWord rest) :
    lex .between (token.print ++ rest) = (lex .between rest).map (token :: ·) := by
  cases token with
  | scalar value =>
      have bare : value.tokens = [.scalar value] := by
        cases legible value rfl 0 <;> rfl
      have cut := (legible value rfl 0).lexes rest (ends rfl)
      rw [bare] at cut
      exact cut
  | openArray | closeArray | openObject | closeObject | comma | colon =>
      exact lex_cons_of_token rfl rest

mutual

/-- A value is printed token by token. -/
theorem flatMap_print_tokens (value : Json) : value.tokens.flatMap Token.print = value.print := by
  cases value with
  | array items =>
      have inside := flatMap_print_itemTokens items
      rw [tokens, List.flatMap_append, List.flatMap_cons, inside]
      rfl
  | object fields =>
      have inside := flatMap_print_fieldTokens fields
      rw [tokens, List.flatMap_append, List.flatMap_cons, inside]
      rfl
  | null | bool | number | string => exact List.flatMap_singleton Token.print _

theorem flatMap_print_itemTokens (items : List Json) :
    (itemTokens items).flatMap Token.print = printItems items := by
  cases items with
  | nil => rfl
  | cons item rest =>
      have first := flatMap_print_tokens item
      have others := flatMap_print_itemTokens rest
      cases rest with
      | nil => exact first
      | cons second rest =>
          change (tokens item ++ .comma :: itemTokens (second :: rest)).flatMap Token.print =
            print item ++ ',' :: printItems (second :: rest)
          rw [List.flatMap_append, List.flatMap_cons, first, others]
          rfl

theorem flatMap_print_fieldTokens (fields : List (String × Json)) :
    (fieldTokens fields).flatMap Token.print = printFields fields := by
  cases fields with
  | nil => rfl
  | cons field rest =>
      obtain ⟨name, value⟩ := field
      have first := flatMap_print_tokens value
      have others := flatMap_print_fieldTokens rest
      cases rest with
      | nil =>
          change quote name ++ (':' :: (tokens value).flatMap Token.print) =
            quote name ++ ':' :: print value
          rw [first]
      | cons second rest =>
          change quote name ++ (':' :: (tokens value ++
            .comma :: fieldTokens (second :: rest)).flatMap Token.print) =
              quote name ++ ':' :: print value ++ ',' :: printFields (second :: rest)
          rw [List.flatMap_append, List.flatMap_cons, first, others, List.append_assoc]
          rfl

end

theorem tokens_ne_nil (value : Json) : value.tokens ≠ [] := by
  cases value <;> exact List.cons_ne_nil _ _

/-! ### Blanks -/

theorem isBlank_text {character : Char} (blank : isBlank character = true) :
    Text.isBlank character = true := by
  simp only [isBlank, Bool.or_eq_true, decide_eq_true_eq] at blank
  rcases blank with ((rfl | rfl) | rfl) | rfl <;> rfl

theorem not_isWordChar_of_isBlank {character : Char} (blank : Text.isBlank character = true) :
    isWordChar character = false := by
  by_contra word
  have range := toNat_of_isWordChar (Bool.eq_true_of_not_eq_false word)
  simp only [Text.isBlank, Bool.or_eq_true, Bool.and_eq_true, decide_eq_true_eq] at blank
  omega

/-- Between tokens a blank is skipped or refused: JSON knows only some of the blanks. -/
theorem lexBetween_of_isBlank {character : Char} (blank : Text.isBlank character = true) :
    lexBetween character = none ∨ lexBetween character = some ([], .between) := by
  rw [lexBetween]
  by_cases own : isBlank character = true
  · exact .inr (if_pos own)
  · have other (mark : Char) (filled : Text.isBlank mark = false) : character ≠ mark := by
      rintro rfl
      rw [filled] at blank
      cases blank
    left
    simp [own, not_isWordChar_of_isBlank blank, other '"' rfl, other '[' rfl, other ']' rfl,
      other '\x7b' rfl, other '\x7d' rfl, other ',' rfl, other ':' rfl]

theorem lex_blanks {blanks : List Char} (blank : ∀ character ∈ blanks, isBlank character = true)
    (rest : List Char) : lex .between (blanks ++ rest) = lex .between rest := by
  induction blanks with
  | nil => rfl
  | cons character blanks ih =>
      obtain ⟨first, others⟩ := List.forall_mem_cons.mp blank
      have step : lexStep .between character = some ([], .between) := if_pos first
      rw [List.cons_append, lex_cons_of_silent step, ih others]

/-- Blanks of any kind are skipped, or the text is refused. -/
theorem lex_any_blanks {blanks : List Char}
    (blank : ∀ character ∈ blanks, Text.isBlank character = true) (rest : List Char) :
    lex .between (blanks ++ rest) = none ∨ lex .between (blanks ++ rest) = lex .between rest := by
  induction blanks with
  | nil => exact .inr rfl
  | cons character blanks ih =>
      obtain ⟨first, others⟩ := List.forall_mem_cons.mp blank
      rw [List.cons_append]
      cases lexBetween_of_isBlank first with
      | inl refused =>
          left
          rw [lex_cons, lexStep, refused]
          rfl
      | inr skipped =>
          have step : lexStep .between character = some ([], .between) := skipped
          rw [lex_cons_of_silent step]
          exact ih others

/-! ## Pieces -/

/-- A token with the blanks before it and a comma that should not be there, with blanks of any kind
behind it. -/
structure Piece where
  blanks : List Char
  /-- The blanks behind the stray comma, if there is one. -/
  stray : Option (List Char)
  token : Token
  blank : ∀ character ∈ blanks, isBlank character = true
  strayBlank : ∀ behind ∈ stray, ∀ character ∈ behind, Text.isBlank character = true
  strayCloses : stray.isSome = true → token.closes = true

namespace Piece

/-- Whether there is no stray comma. -/
def isTidy (piece : Piece) : Bool := piece.stray.isNone

/-- The stray comma with the blanks behind it. -/
def litter (piece : Piece) : List Char := (piece.stray.map (',' :: ·)).getD []

/-- The characters of a piece. -/
def print (piece : Piece) : List Char := piece.blanks ++ (piece.litter ++ piece.token.print)

/-- The tokens of a piece, the stray comma being one. -/
def tokens (piece : Piece) : List Token :=
  if piece.isTidy then [piece.token] else [.comma, piece.token]

/-- A piece without the blanks before it. -/
def bare (piece : Piece) : Piece := { piece with blanks := [], blank := nofun }

/-- A token alone. -/
def plain (token : Token) : Piece := ⟨[], none, token, nofun, nofun, nofun⟩

/-- A token that closes behind a stray comma. -/
def littered (behind : List Char) (blank : ∀ character ∈ behind, Text.isBlank character = true)
    (token : Token) (closes : token.closes = true) : Piece where
  blanks := []
  stray := some behind
  token := token
  blank := nofun
  strayBlank := by
    rintro other ⟨⟩
    exact blank
  strayCloses := fun _ => closes

/-- A piece without its stray comma, and with its string changed. -/
def tidied (change : String → String) (piece : Piece) : Piece where
  blanks := piece.blanks
  stray := none
  token := piece.token.mapStrings change
  blank := piece.blank
  strayBlank := nofun
  strayCloses := nofun

/-- A piece that begins with anything but a value ends a word before it. -/
theorem endsWord_print (piece : Piece) (bare : piece.token.isScalar = false) (rest : List Char) :
    EndsWord (piece.print ++ rest) := by
  have marked : EndsWord (piece.token.print ++ rest) := by
    cases token : piece.token with
    | scalar value =>
        rw [token] at bare
        cases bare
    | openArray | closeArray | openObject | closeObject | comma | colon =>
        exact endsWord_cons rfl rest
  have littered : EndsWord (piece.litter ++ (piece.token.print ++ rest)) := by
    rw [litter]
    cases piece.stray with
    | none => exact marked
    | some behind => exact endsWord_cons rfl _
  rw [print, List.append_assoc, List.append_assoc]
  cases blanks : piece.blanks with
  | nil => exact littered
  | cons first others =>
      have blank : isBlank first = true := piece.blank first (blanks ▸ List.mem_cons_self)
      exact endsWord_cons (not_isWordChar_of_isBlank (isBlank_text blank)) _

/-- A piece is cut into its tokens, or refused for the blanks behind a stray comma. -/
theorem lex_print_append (piece : Piece) (legible : piece.token.IsLegible) {rest : List Char}
    (ends : piece.token.isScalar = true → EndsWord rest) :
    (piece.isTidy = false ∧ lex .between (piece.print ++ rest) = none) ∨
      lex .between (piece.print ++ rest) = (lex .between rest).map (piece.tokens ++ ·) := by
  have own := legible.lex_print_append ends
  rw [print, List.append_assoc, List.append_assoc, lex_blanks piece.blank, tokens, isTidy, litter]
  cases stray : piece.stray with
  | none => exact .inr own
  | some behind =>
      have comma : lex .between (',' :: behind ++ (piece.token.print ++ rest)) =
          (lex .between (behind ++ (piece.token.print ++ rest))).map (Token.comma :: ·) :=
        lex_cons_of_token rfl _
      change (_ ∧ lex .between (',' :: behind ++ _) = none) ∨
        lex .between (',' :: behind ++ _) = _
      rw [comma]
      cases lex_any_blanks (piece.strayBlank behind stray) (piece.token.print ++ rest) with
      | inl refused =>
          left
          rw [refused]
          exact ⟨rfl, rfl⟩
      | inr skipped =>
          right
          rw [skipped, own, Option.map_map]
          rfl

end Piece

/-- The text of pieces is cut into their tokens, or refused for a stray comma. -/
theorem lex_pieces {pieces : List Piece} (flows : Flows (pieces.map Piece.token))
    (legible : ∀ piece ∈ pieces, piece.token.IsLegible) {trailing : List Char}
    (blank : ∀ character ∈ trailing, isBlank character = true) :
    (pieces.all Piece.isTidy = false ∧
        lex .between (pieces.flatMap Piece.print ++ trailing) = none) ∨
      lex .between (pieces.flatMap Piece.print ++ trailing) =
        some (pieces.flatMap Piece.tokens) := by
  induction pieces with
  | nil =>
      right
      have skipped := lex_blanks blank []
      rw [List.append_nil] at skipped
      exact skipped
  | cons piece rest ih =>
      obtain ⟨first, others⟩ := List.forall_mem_cons.mp legible
      have ends : piece.token.isScalar = true →
          EndsWord (rest.flatMap Piece.print ++ trailing) := by
        intro scalar
        cases rest with
        | nil =>
            cases trailing with
            | nil => rintro next ⟨⟩
            | cons next trailing =>
                have first := isBlank_text (blank next List.mem_cons_self)
                exact endsWord_cons (not_isWordChar_of_isBlank first) _
        | cons second rest =>
            have bare : second.token.isScalar = false := by
              have apart := flows.apart
              cases token : piece.token with
              | scalar value =>
                  rw [token] at apart
                  exact apart
              | openArray | closeArray | openObject | closeObject | comma | colon =>
                  rw [token] at scalar
                  cases scalar
            rw [List.flatMap_cons, List.append_assoc]
            exact second.endsWord_print bare _
      rw [List.flatMap_cons, List.append_assoc, List.flatMap_cons, List.all_cons]
      cases piece.lex_print_append first ends with
      | inl refused => exact .inl ⟨by rw [refused.1]; rfl, refused.2⟩
      | inr cut =>
          rw [cut]
          cases ih flows.of_cons others with
          | inl refused =>
              left
              rw [refused.2, refused.1, Bool.and_false]
              exact ⟨rfl, rfl⟩
          | inr later =>
              right
              rw [later]
              rfl

/-! ## Layouts -/

/-- A text of a value: pieces with its tokens, and blanks behind them. -/
structure Layout (value : Json) where
  pieces : List Piece
  trailing : List Char
  trailingBlank : ∀ character ∈ trailing, isBlank character = true
  tokens : pieces.map Piece.token = value.tokens

namespace Layout

variable {value : Json} (layout : Layout value)

/-- The characters of a layout. -/
def print : List Char := layout.pieces.flatMap Piece.print ++ layout.trailing

/-- The text of a layout. -/
def text : String := String.ofList layout.print

/-- Whether there is no stray comma. -/
def isTidy : Bool := layout.pieces.all Piece.isTidy

/-- A layout without the blanks at its ends. -/
def bare : Layout value where
  pieces := layout.pieces.modifyHead Piece.bare
  trailing := []
  trailingBlank := nofun
  tokens := by
    rw [← layout.tokens]
    cases layout.pieces <;> rfl

theorem isTidy_bare : layout.bare.isTidy = layout.isTidy := by
  change (layout.pieces.modifyHead Piece.bare).all Piece.isTidy = layout.pieces.all Piece.isTidy
  cases layout.pieces <;> rfl

/-- A layout of the value with its strings changed, without stray commas and the blanks at the
ends. -/
def tidied (change : String → String) : Layout (value.mapStrings change) where
  pieces := layout.bare.pieces.map (Piece.tidied change)
  trailing := []
  trailingBlank := nofun
  tokens := by
    rw [tokens_mapStrings, ← layout.bare.tokens, List.map_map, List.map_map]
    rfl

theorem isTidy_tidied (change : String → String) : (layout.tidied change).isTidy = true := by
  rw [isTidy, tidied, List.all_map]
  exact List.all_eq_true.mpr fun piece _ => rfl

/-- The text of a layout without its blanks and its stray commas. -/
def core : String := String.ofList (layout.pieces.flatMap fun piece => piece.token.print)

/-- Every layout of a value is made from what is printed for it. -/
theorem core_eq_render : layout.core = value.render := by
  rw [core, ← List.flatMap_map, layout.tokens, flatMap_print_tokens, Json.render]

/-- A layout has a first piece, and is bare but for the blanks at its ends. -/
theorem exists_bare :
    ∃ (first : Piece) (rest : List Piece), layout.bare.pieces = first.bare :: rest ∧
      layout.bare.print = first.bare.print ++ rest.flatMap Piece.print ∧
      layout.print = first.blanks ++ (layout.bare.print ++ layout.trailing) := by
  obtain ⟨pieces, trailing, trailingBlank, tokens⟩ := layout
  cases pieces with
  | nil => exact absurd tokens.symm value.tokens_ne_nil
  | cons first rest =>
      refine ⟨first, rest, rfl, List.append_nil _, ?_⟩
      simp [print, bare, Piece.print, Piece.bare, Piece.litter]

theorem isLegible_token (legible : value.IsLegible depthLimit) :
    ∀ piece ∈ layout.pieces, piece.token.IsLegible := by
  intro piece member
  apply legible.isLegible_tokens
  rw [← layout.tokens]
  exact List.mem_map_of_mem member

theorem flows_token (legible : value.IsLegible depthLimit) :
    Flows (layout.pieces.map Piece.token) := by
  rw [layout.tokens]
  exact legible.flows_tokens

variable {layout}

theorem flatMap_tokens_of_isTidy (tidy : layout.isTidy = true) :
    layout.pieces.flatMap Piece.tokens = value.tokens := by
  have single : ∀ piece ∈ layout.pieces, piece.tokens = [piece.token] := by
    intro piece member
    exact if_pos (List.all_eq_true.mp tidy piece member)
  rw [List.flatMap_congr single, ← List.map_eq_flatMap, layout.tokens]

/-- A tidy layout is read as its value. -/
theorem parseVerbatim?_of_isTidy (legible : value.IsLegible depthLimit)
    (tidy : layout.isTidy = true) : parseVerbatim? layout.text = some value := by
  have cut : lex .between layout.print = some value.tokens := by
    rw [← flatMap_tokens_of_isTidy tidy]
    cases lex_pieces (layout.flows_token legible) (layout.isLegible_token legible)
        layout.trailingBlank with
    | inl refused =>
        have untidy : layout.isTidy = false := refused.1
        rw [tidy] at untidy
        cases untidy
    | inr cut => exact cut
  have built := legible.readsAs [] .value .value (Nat.zero_add depthLimit).le
  rw [parseVerbatim?, text, String.toList_ofList, cut]
  simp [built, Reader.accept]

/-- Where a comma is stray, it clashes with what closes behind it. -/
theorem not_flows_of_not_isTidy (untidy : layout.isTidy = false) :
    ¬Flows (layout.pieces.flatMap Piece.tokens) := by
  intro flows
  obtain ⟨piece, member, littered⟩ := List.all_eq_false.mp untidy
  obtain ⟨before, after, split⟩ := List.append_of_mem member
  have stray : piece.stray.isSome = true := by
    rw [Option.isSome_iff_ne_none, ne_eq, ← Option.isNone_iff_eq_none]
    exact littered
  have closes := piece.strayCloses stray
  have tokens : piece.tokens = [.comma, piece.token] := if_neg littered
  rw [split, List.flatMap_append, List.flatMap_cons, tokens] at flows
  have apart := flows.of_append.apart
  rw [Token.clash, closes] at apart
  cases apart

/-- A stray comma makes a text unreadable. -/
theorem parse?_of_not_isTidy (legible : value.IsLegible depthLimit)
    (untidy : layout.isTidy = false) : parse? layout.text = none := by
  have unread : parseVerbatim? layout.text = none := by
    rw [parseVerbatim?, text, String.toList_ofList]
    cases lex_pieces (layout.flows_token legible) (layout.isLegible_token legible)
        layout.trailingBlank with
    | inl refused =>
        have none : lex .between layout.print = none := refused.2
        rw [none]
        rfl
    | inr cut =>
        have tokens : lex .between layout.print = some (layout.pieces.flatMap Piece.tokens) := cut
        rw [tokens]
        cases run : (layout.pieces.flatMap Piece.tokens).foldlM Reader.step ⟨[], .value⟩ with
        | none => simp [run]
        | some final => exact (not_flows_of_not_isTidy untidy ⟨_, final, run⟩).elim
  rw [parse?, unread, Option.map_none]

end Layout

end ChatGateway.Json
