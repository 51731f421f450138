import ChatGateway.Proofs.Json.Layout
import ChatGateway.Proofs.Json.Strings
import ChatGateway.Proofs.Text.Search
import ChatGateway.Stage.ToolRepair

/-!
# Commas before closing brackets

A text with commas before closing brackets is no JSON, and the repair drops every comma that only
blanks separate from such a bracket.  It does not know of strings, so it also drops commas inside
them.  A text without a comma too many is read as it is, whatever its strings are.

So the repair of a layout gives back its value with such commas dropped from its strings and names:
the value itself if and only if no comma is stray or no string holds one before a bracket.
-/

namespace ChatGateway.ToolRepair

/-! ## Commas that are dropped -/

/-- Whether something that closes comes next, after blanks. -/
def closesNext (rest : List Char) : Bool := (rest.dropWhile Text.isBlank).head?.any isCloser

theorem dropCommas_cons_of_ne {character : Char} (other : character ≠ ',') (rest : List Char) :
    dropCommas (character :: rest) = character :: dropCommas rest := by
  rw [dropCommas, if_neg fun both => other both.1]

theorem dropCommas_append_of_not_mem {text : List Char} (absent : ',' ∉ text) (rest : List Char) :
    dropCommas (text ++ rest) = text ++ dropCommas rest := by
  induction text with
  | nil => rfl
  | cons character text ih =>
      rw [List.mem_cons, not_or] at absent
      rw [List.cons_append, dropCommas_cons_of_ne (Ne.symm absent.1), ih absent.2,
        List.cons_append]

theorem dropCommas_comma {rest : List Char} (goesOn : closesNext rest = false) :
    dropCommas (',' :: rest) = ',' :: dropCommas rest := by
  rw [dropCommas, if_neg]
  rintro ⟨-, closes⟩
  rw [closesNext, closes] at goesOn
  cases goesOn

theorem isBlank_of_isCloser {closer : Char} (closes : isCloser closer = true) :
    Text.isBlank closer = false := by
  rw [isCloser, Bool.or_eq_true, decide_eq_true_iff, decide_eq_true_iff] at closes
  rcases closes with rfl | rfl <;> rfl

/-- A stray comma is dropped with the blanks behind it. -/
theorem dropCommas_stray {behind : List Char}
    (blank : ∀ character ∈ behind, Text.isBlank character = true) {closer : Char}
    (closes : isCloser closer = true) (rest : List Char) :
    dropCommas (',' :: (behind ++ closer :: rest)) = dropCommas (closer :: rest) := by
  have ahead : (behind ++ closer :: rest).dropWhile Text.isBlank = closer :: rest :=
    Text.dropWhile_append_cons blank (isBlank_of_isCloser closes) rest
  rw [dropCommas, ahead, if_pos ⟨rfl, closes⟩]

/-! ## Commas in strings -/

/-- A blank that stands in a string as it is. -/
def isPlainBlank (character : Char) : Bool :=
  Text.isBlank character && decide (32 ≤ character.toNat)

/-- The characters of a string without the commas that only plain blanks separate from a closing
bracket, and without those blanks. -/
def amendChars : List Char → List Char
  | [] => []
  | character :: rest =>
      if character = ',' ∧ (rest.dropWhile isPlainBlank).head?.any isCloser then
        amendChars (rest.dropWhile isPlainBlank)
      else character :: amendChars rest
termination_by text => text.length
decreasing_by
  · have shorter : (rest.dropWhile isPlainBlank).length ≤ rest.length :=
      (List.dropWhile_sublist isPlainBlank).length_le
    simp only [List.length_cons]
    omega
  · simp

/-- What the repair makes of a string where it drops commas. -/
def amend (text : String) : String := String.ofList (amendChars text.toList)

/-- Characters have a comma that only plain blanks separate from a closing bracket. -/
def ExposedChars (text : List Char) : Prop :=
  ∃ before blanks closer after, text = before ++ ',' :: (blanks ++ closer :: after) ∧
    (∀ blank ∈ blanks, isPlainBlank blank = true) ∧ isCloser closer = true

/-- A string has such a comma. -/
def Exposed (text : String) : Prop := ExposedChars text.toList

theorem isPlainBlank_of_isCloser {closer : Char} (closes : isCloser closer = true) :
    isPlainBlank closer = false := by
  rw [isPlainBlank, isBlank_of_isCloser closes, Bool.false_and]

theorem exposedChars_cons_iff (character : Char) (rest : List Char) :
    ExposedChars (character :: rest) ↔
      (character = ',' ∧ (rest.dropWhile isPlainBlank).head?.any isCloser = true) ∨
        ExposedChars rest := by
  constructor
  · rintro ⟨before, blanks, closer, after, split, plain, closes⟩
    cases before with
    | nil =>
        left
        obtain ⟨rfl, rfl⟩ := List.cons.inj split
        refine ⟨rfl, ?_⟩
        rw [Text.dropWhile_append_cons plain (isPlainBlank_of_isCloser closes)]
        exact closes
    | cons first before =>
        right
        obtain ⟨rfl, rfl⟩ := List.cons.inj split
        exact ⟨before, blanks, closer, after, rfl, plain, closes⟩
  · rintro (⟨rfl, ahead⟩ | ⟨before, blanks, closer, after, rfl, plain, closes⟩)
    · have parts := List.takeWhile_append_dropWhile (p := isPlainBlank) (l := rest)
      cases found : rest.dropWhile isPlainBlank with
      | nil =>
          rw [found] at ahead
          cases ahead
      | cons closer after =>
          rw [found] at ahead parts
          refine ⟨[], rest.takeWhile isPlainBlank, closer, after, ?_, ?_, ahead⟩
          · rw [parts, List.nil_append]
          · exact fun blank member => List.mem_takeWhile_imp member
    · exact ⟨character :: before, blanks, closer, after, rfl, plain, closes⟩

theorem length_amendChars_le (text : List Char) : (amendChars text).length ≤ text.length := by
  fun_induction amendChars text with
  | case1 => exact Nat.le_refl 0
  | case2 character rest drops ih =>
      have shorter := (List.dropWhile_sublist (l := rest) isPlainBlank).length_le
      exact (ih.trans shorter).trans (Nat.le_succ _)
  | case3 character rest keeps ih => exact Nat.succ_le_succ ih

/-- A string is shortened if a comma in it is exposed, and kept otherwise. -/
theorem amendChars_cases (text : List Char) :
    (ExposedChars text ∧ (amendChars text).length < text.length) ∨
      (¬ExposedChars text ∧ amendChars text = text) := by
  fun_induction amendChars text with
  | case1 =>
      right
      refine ⟨?_, rfl⟩
      rintro ⟨before, blanks, closer, after, split, -⟩
      simp at split
  | case2 character rest drops ih =>
      left
      refine ⟨(exposedChars_cons_iff character rest).mpr (.inl drops), ?_⟩
      have shorter := (List.dropWhile_sublist (l := rest) isPlainBlank).length_le
      exact Nat.lt_succ_of_le ((length_amendChars_le _).trans shorter)
  | case3 character rest keeps ih =>
      rw [exposedChars_cons_iff, or_iff_right keeps]
      cases ih with
      | inl exposed => exact .inl ⟨exposed.1, Nat.succ_lt_succ exposed.2⟩
      | inr hidden =>
          right
          rw [hidden.2]
          exact ⟨hidden.1, rfl⟩

theorem amend_eq_self_iff (text : String) : amend text = text ↔ ¬Exposed text := by
  have same : amend text = text ↔ amendChars text.toList = text.toList := by
    rw [amend, ← String.toList_inj, String.toList_ofList]
  rw [same, Exposed]
  cases amendChars_cases text.toList with
  | inl exposed =>
      refine iff_of_false ?_ (not_not_intro exposed.1)
      intro equal
      exact absurd (congrArg List.length equal) (Nat.ne_of_lt exposed.2)
  | inr hidden => exact iff_of_true hidden.2 hidden.1

/-- In a string without anything that closes no comma is exposed. -/
theorem not_exposed_of_no_closer {text : String} (runsOn : text.toList.any isCloser = false) :
    ¬Exposed text := by
  rintro ⟨before, blanks, closer, after, split, -, closes⟩
  exact List.any_eq_false.mp runsOn closer (by simp [split]) closes

theorem amend_shortens (text : String) :
    amend text = text ∨ (amend text).length < text.length := by
  rw [amend_eq_self_iff, Exposed, amend, String.length_ofList, ← String.length_toList]
  cases amendChars_cases text.toList with
  | inl exposed => exact .inr exposed.2
  | inr hidden => exact .inl hidden.1

/-! ## Commas in tokens -/

open Json (Token Piece Layout)

theorem of_control {character : Char} (control : character.toNat < 32) :
    isPlainBlank character = false ∧ isCloser character = false := by
  constructor
  · rw [isPlainBlank, decide_eq_false (Nat.not_le.mpr control), Bool.and_false]
  · by_contra closes
    rw [Bool.not_eq_false, isCloser, Bool.or_eq_true, decide_eq_true_iff, decide_eq_true_iff]
      at closes
    rcases closes with rfl | rfl <;> exact absurd control (by decide)

/-- A character stands in a string as it is, or behind a backslash and then without a comma. -/
theorem escapeChar_cases (character : Char) :
    (Json.escapeChar character = [character] ∧ 32 ≤ character.toNat) ∨
      ∃ code, Json.escapeChar character = '\\' :: code ∧ ',' ∉ code ∧
        isPlainBlank character = false ∧ isCloser character = false := by
  have hex : ∀ value < 16, ',' ≠ Json.hexDigit value := by decide
  have code {value : Nat} (small : value < 32) (same : character.val.toNat = value) :
      isPlainBlank character = false ∧ isCloser character = false :=
    of_control (same.trans_lt small)
  unfold Json.escapeChar
  split_ifs with quote backslash feed carriage tab bell form control
  · exact .inr ⟨_, rfl, by decide, by rw [quote]; decide⟩
  · exact .inr ⟨_, rfl, by decide, by rw [backslash]; decide⟩
  · exact .inr ⟨_, rfl, by decide, by rw [feed]; decide⟩
  · exact .inr ⟨_, rfl, by decide, by rw [carriage]; decide⟩
  · exact .inr ⟨_, rfl, by decide, by rw [tab]; decide⟩
  · exact .inr ⟨_, rfl, by decide, code (by decide) (congrArg UInt32.toNat bell)⟩
  · exact .inr ⟨_, rfl, by decide, code (by decide) (congrArg UInt32.toNat form)⟩
  · have small : character.toNat < 32 := UInt32.lt_iff_toNat_lt.mp control
    refine .inr ⟨_, rfl, ?_, of_control small⟩
    have first := hex (character.toNat / 16) (by omega)
    have second := hex (character.toNat % 16) (Nat.mod_lt _ (by decide))
    simp [first, second]
  · exact .inl ⟨rfl, UInt32.le_iff_toNat_le.mp (UInt32.not_lt.mp control)⟩

section Strings

variable (text rest : List Char)

/-- Looking ahead inside a string passes plain blanks only, and never the closing quote. -/
theorem dropWhile_escape :
    (text.flatMap Json.escapeChar ++ '"' :: rest).dropWhile Text.isBlank =
      (text.dropWhile isPlainBlank).flatMap Json.escapeChar ++ '"' :: rest := by
  induction text with
  | nil => rfl
  | cons character text ih =>
      rw [List.flatMap_cons, List.append_assoc]
      cases escapeChar_cases character with
      | inl plain =>
          have same : isPlainBlank character = Text.isBlank character := by
            rw [isPlainBlank, decide_eq_true plain.2, Bool.and_true]
          rw [plain.1, List.singleton_append, List.dropWhile_cons, List.dropWhile_cons, same]
          split
          · exact ih
          · rw [List.flatMap_cons, plain.1, List.append_assoc]
            rfl
      | inr escaped =>
          obtain ⟨code, escape, -, notBlank, -⟩ := escaped
          rw [List.dropWhile_cons_of_neg (by simp [notBlank]), List.flatMap_cons, escape,
            List.append_assoc]
          rfl

theorem head?_escape :
    (text.flatMap Json.escapeChar ++ '"' :: rest).head?.any isCloser =
      text.head?.any isCloser := by
  cases text with
  | nil => rfl
  | cons character text =>
      rw [List.flatMap_cons, List.append_assoc]
      cases escapeChar_cases character with
      | inl plain =>
          rw [plain.1]
          rfl
      | inr escaped =>
          obtain ⟨code, escape, -, -, notCloser⟩ := escaped
          rw [escape]
          exact notCloser.symm

theorem dropCommas_escape :
    dropCommas (text.flatMap Json.escapeChar ++ '"' :: rest) =
      (amendChars text).flatMap Json.escapeChar ++ '"' :: dropCommas rest := by
  -- Escapes hide no comma, so both look ahead past the same blanks at each step.
  fun_induction amendChars text with
  | case1 => exact dropCommas_cons_of_ne (by decide) rest
  | case2 character ahead drops ih =>
      obtain ⟨rfl, closes⟩ := drops
      have comma : Json.escapeChar ',' = [','] := by decide
      have next := dropWhile_escape ahead rest
      rw [List.flatMap_cons, comma, List.append_assoc, List.singleton_append, dropCommas, next,
        head?_escape, if_pos ⟨rfl, closes⟩, ih]
  | case3 character ahead keeps ih =>
      rw [List.flatMap_cons, List.flatMap_cons, List.append_assoc, List.append_assoc, ← ih]
      by_cases comma : character = ','
      · subst comma
        have open_ended : closesNext (ahead.flatMap Json.escapeChar ++ '"' :: rest) = false := by
          rw [closesNext, dropWhile_escape, head?_escape]
          exact Bool.eq_false_of_not_eq_true fun closes => keeps ⟨rfl, closes⟩
        exact dropCommas_comma open_ended
      · apply dropCommas_append_of_not_mem
        cases escapeChar_cases character with
        | inl plain =>
            rw [plain.1, List.mem_singleton]
            exact Ne.symm comma
        | inr escaped =>
            obtain ⟨code, escape, absent, -⟩ := escaped
            rw [escape, List.mem_cons, not_or]
            exact ⟨by decide, absent⟩

end Strings

/-- Of a string the commas are dropped that are exposed. -/
theorem dropCommas_quote (text : String) (rest : List Char) :
    dropCommas (Json.quote text ++ rest) = Json.quote (amend text) ++ dropCommas rest := by
  have spelled (text : String) (rest : List Char) : Json.quote text ++ rest =
      '"' :: (text.toList.flatMap Json.escapeChar ++ '"' :: rest) := by
    simp [Json.quote]
  rw [spelled, spelled, dropCommas_cons_of_ne (by decide), dropCommas_escape, amend,
    String.toList_ofList]

/-- Of a token only exposed commas are dropped, unless it is a comma itself. -/
theorem dropCommas_token {token : Token} (legible : token.IsLegible) {rest : List Char}
    (goesOn : token = .comma → closesNext rest = false) :
    dropCommas (token.print ++ rest) = (token.mapStrings amend).print ++ dropCommas rest := by
  cases token with
  | scalar value =>
      have word {text : List Char} (words : ∀ character ∈ text, Json.isWordChar character = true) :
          dropCommas (text ++ rest) = text ++ dropCommas rest := by
        apply dropCommas_append_of_not_mem
        intro member
        exact absurd (words ',' member) (by decide)
      cases legible value rfl 0 with
      | null => exact word (List.all_eq_true.mp rfl)
      | bool _ flag => cases flag <;> exact word (List.all_eq_true.mp rfl)
      | number _ inside =>
          exact word (Json.isWordChar_of_number? (Json.number?_toList_render inside))
      | string _ text => exact dropCommas_quote text rest
  | comma => exact dropCommas_comma (goesOn rfl)
  | openArray | closeArray | openObject | closeObject | colon =>
      exact dropCommas_cons_of_ne (by decide) rest

/-! ## Commas in layouts -/

/-- How a token begins and ends. -/
structure Framed (token : Token) (text : List Char) : Prop where
  starts : ∃ first, text.head? = some first ∧ Text.isBlank first = false ∧ first ≠ '`' ∧
    isCloser first = token.closes
  ends : ∃ last, text.getLast? = some last ∧ Text.isBlank last = false

theorem framed_mark {token : Token} {mark : Char} (shown : Text.isBlank mark = false)
    (noFence : mark ≠ '`') (closes : isCloser mark = token.closes) : Framed token [mark] :=
  ⟨⟨mark, rfl, shown, noFence, closes⟩, ⟨mark, rfl, shown⟩⟩

theorem framed_word {value : Json} {word : List Char} (filled : word ≠ [])
    (words : ∀ character ∈ word, Json.isWordChar character = true) :
    Framed (.scalar value) word := by
  have shown {character : Char} (member : character ∈ word) : Text.isBlank character = false := by
    by_contra blank
    have noWord := Json.not_isWordChar_of_isBlank (Bool.eq_true_of_not_eq_false blank)
    rw [words character member] at noWord
    cases noWord
  have other {character mark : Char} (noWord : Json.isWordChar mark = false)
      (member : character ∈ word) : character ≠ mark := by
    rintro rfl
    rw [words character member] at noWord
    cases noWord
  constructor
  · have first := List.head_mem filled
    refine ⟨word.head filled, List.head?_eq_some_head filled, shown first, other rfl first, ?_⟩
    rw [isCloser, decide_eq_false (other rfl first), decide_eq_false (other rfl first)]
    rfl
  · have last := List.getLast_mem filled
    exact ⟨word.getLast filled, List.getLast?_eq_some_getLast filled, shown last⟩

/-- A token is framed by characters that are not blank. -/
theorem framed_print {token : Token} (legible : token.IsLegible) : Framed token token.print := by
  cases token with
  | scalar value =>
      cases legible value rfl 0 with
      | null => exact framed_word (by decide) (List.all_eq_true.mp rfl)
      | bool _ flag => cases flag <;> exact framed_word (by decide) (List.all_eq_true.mp rfl)
      | @number _ number inside =>
          have read := Json.number?_toList_render inside
          apply framed_word
          · change number.render.toList ≠ []
            intro empty
            rw [empty] at read
            cases read
          · exact Json.isWordChar_of_number? read
      | string _ text =>
          constructor
          · exact ⟨'"', rfl, rfl, by decide, rfl⟩
          · exact ⟨'"', List.getLast?_concat .., rfl⟩
  | openArray | closeArray | openObject | closeObject | comma | colon =>
      exact framed_mark rfl (by decide) rfl

/-! ### Pieces -/

section Pieces

variable {piece : Piece} (legible : piece.token.IsLegible)

/-- Blanks are looked past. -/
theorem closesNext_blanks {blanks : List Char}
    (blank : ∀ character ∈ blanks, Text.isBlank character = true) (rest : List Char) :
    closesNext (blanks ++ rest) = closesNext rest := by
  rw [closesNext, List.dropWhile_append_of_pos blank, closesNext]

include legible

/-- Nothing closes where a piece comes next whose token does not close. -/
theorem closesNext_print_append (goesOn : piece.token.closes = false) (rest : List Char) :
    closesNext (piece.print ++ rest) = false := by
  obtain ⟨first, starts, shown, -, closes⟩ := (framed_print legible).starts
  obtain ⟨others, spelled⟩ := List.head?_eq_some_iff.mp starts
  have tidy : piece.stray = none := by
    cases stray : piece.stray with
    | none => rfl
    | some behind =>
        have littered := piece.strayCloses (by rw [stray]; rfl)
        rw [goesOn] at littered
        cases littered
  have blank (character : Char) (member : character ∈ piece.blanks) :=
    Json.isBlank_text (piece.blank character member)
  rw [Piece.print, Piece.litter, tidy, List.append_assoc, closesNext_blanks blank, closesNext,
    spelled]
  change ((first :: (others ++ rest)).dropWhile Text.isBlank).head?.any isCloser = false
  rw [List.dropWhile_cons_of_neg (by simp [shown])]
  exact closes.trans goesOn

end Pieces

/-- Of a piece the stray comma is dropped, and the exposed commas of its string. -/
theorem dropCommas_piece {piece : Piece} (legible : piece.token.IsLegible) {rest : List Char}
    (goesOn : piece.token = .comma → closesNext rest = false) :
    dropCommas (piece.print ++ rest) = (piece.tidied amend).print ++ dropCommas rest := by
  have absent : ',' ∉ piece.blanks := by
    intro member
    exact absurd (piece.blank ',' member) (by decide)
  have littered : dropCommas (piece.litter ++ (piece.token.print ++ rest)) =
      dropCommas (piece.token.print ++ rest) := by
    rw [Piece.litter]
    cases stray : piece.stray with
    | none => rfl
    | some behind =>
        have closes := piece.strayCloses (by rw [stray]; rfl)
        obtain ⟨closer, spelled, shuts⟩ :
            ∃ closer, piece.token.print = [closer] ∧ isCloser closer = true := by
          cases token : piece.token with
          | closeArray | closeObject => exact ⟨_, rfl, by decide⟩
          | openArray | openObject | comma | colon | scalar =>
              rw [token] at closes
              cases closes
        rw [spelled]
        exact dropCommas_stray (piece.strayBlank behind stray) shuts rest
  rw [Piece.print, List.append_assoc, List.append_assoc, dropCommas_append_of_not_mem absent,
    littered, dropCommas_token legible goesOn, Piece.print, List.append_assoc, List.append_assoc]
  rfl

theorem dropCommas_pieces {pieces : List Piece} (flows : Json.Flows (pieces.map Piece.token))
    (legible : ∀ piece ∈ pieces, piece.token.IsLegible) :
    dropCommas (pieces.flatMap Piece.print) =
      (pieces.map (Piece.tidied amend)).flatMap Piece.print := by
  induction pieces with
  | nil =>
      rw [List.flatMap_nil, dropCommas]
      rfl
  | cons piece rest ih =>
      obtain ⟨first, others⟩ := List.forall_mem_cons.mp legible
      rw [List.flatMap_cons, dropCommas_piece first, ih flows.of_cons others, List.map_cons,
        List.flatMap_cons]
      -- A comma between items stays, since no token that closes comes next.
      intro comma
      cases rest with
      | nil => rfl
      | cons second rest =>
          have goesOn := flows.apart
          rw [comma] at goesOn
          exact closesNext_print_append (others second List.mem_cons_self) goesOn _

/-! ### The ends of a layout -/

/-- A bare piece begins with something that is neither a blank nor a fence. -/
theorem head?_bare {piece : Piece} (legible : piece.token.IsLegible) (rest : List Char) :
    ∃ first, (piece.bare.print ++ rest).head? = some first ∧ Text.isBlank first = false ∧
      first ≠ '`' := by
  obtain ⟨first, starts, shown, noFence, -⟩ := (framed_print legible).starts
  change ∃ first, (piece.litter ++ piece.token.print ++ rest).head? = some first ∧ _
  rw [Piece.litter]
  cases piece.stray with
  | none =>
      refine ⟨first, ?_, shown, noFence⟩
      rw [Option.map_none, Option.getD_none, List.nil_append, List.head?_append, starts]
      rfl
  | some behind => exact ⟨',', rfl, rfl, by decide⟩

theorem getLast?_pieces {pieces : List Piece} (filled : pieces ≠ [])
    (legible : ∀ piece ∈ pieces, piece.token.IsLegible) :
    ∃ last, (pieces.flatMap Piece.print).getLast? = some last ∧ Text.isBlank last = false := by
  obtain rfl | ⟨before, piece, rfl⟩ := List.eq_nil_or_concat pieces
  · exact absurd rfl filled
  · obtain ⟨last, ends, shown⟩ := (framed_print (legible piece (by simp))).ends
    refine ⟨last, ?_, shown⟩
    rw [List.concat_eq_append, List.flatMap_append, List.flatMap_singleton, Piece.print,
      List.getLast?_append, List.getLast?_append, List.getLast?_append, ends]
    rfl

/-- A text that does not begin with a backtick is in no code fence. -/
theorem unfence_eq_self {first : Char} {text : List Char} (starts : text.head? = some first)
    (noFence : first ≠ '`') : unfence text = text := by
  obtain ⟨rest, rfl⟩ := List.head?_eq_some_iff.mp starts
  have closed (others : List Char) : Text.stripFront? ('`' :: others) (first :: rest) = none :=
    if_neg (Ne.symm noFence)
  have marked : stripStart? "```json" (first :: rest) = none := closed _
  have plain : stripStart? "```" (first :: rest) = none := closed _
  rw [unfence, marked, plain, Option.or_none]

/-! ## Repaired layouts -/

section Layouts

variable {value : Json} (legible : value.IsLegible Json.depthLimit) (layout : Layout value)

include legible

theorem dropCommas_bare : dropCommas layout.bare.print = (layout.tidied amend).print := by
  have dropped := dropCommas_pieces (layout.bare.flows_token legible)
    (layout.bare.isLegible_token legible)
  rw [Layout.print, Layout.print, Layout.tidied, ← dropped]
  change dropCommas (_ ++ []) = dropCommas _ ++ []
  rw [List.append_nil, List.append_nil]

/-- A layout is trimmed to its pieces, which stand in no code fence. -/
theorem trim_layout :
    Text.trimChars layout.print = layout.bare.print ∧
      unfence layout.bare.print = layout.bare.print ∧ layout.bare.print ≠ [] := by
  obtain ⟨first, rest, pieces, core, whole⟩ := layout.exists_bare
  have inside := pieces ▸ layout.bare.isLegible_token legible
  have firstLegible : first.token.IsLegible := inside first.bare List.mem_cons_self
  obtain ⟨start, starts, startShows, noFence⟩ :=
    head?_bare firstLegible (rest.flatMap Piece.print)
  obtain ⟨last, ends, lastShows⟩ := getLast?_pieces (List.cons_ne_nil first.bare rest) inside
  rw [← core] at starts
  rw [List.flatMap_cons, ← core] at ends
  have blank (character : Char) (member : character ∈ first.blanks) :=
    Json.isBlank_text (first.blank character member)
  have trailingBlank (character : Char) (member : character ∈ layout.trailing) :=
    Json.isBlank_text (layout.trailingBlank character member)
  refine ⟨?_, unfence_eq_self starts noFence, ?_⟩
  · rw [whole]
    exact Text.trimChars_append blank trailingBlank starts ends startShows lastShows
  · intro empty
    rw [empty] at starts
    cases starts

/-- The repair reads a layout as it is, or else without its commas before what closes. -/
theorem repair?_text :
    repair? layout.text =
      some (if layout.isTidy then value.normalize else (value.mapStrings amend).normalize) := by
  obtain ⟨trimmed, noFence, filled⟩ := trim_layout legible layout
  have start : Text.trimChars layout.text.toList = layout.bare.print := by
    rw [Layout.text, String.toList_ofList, trimmed]
  have notEmpty : layout.bare.print.isEmpty = false := List.isEmpty_eq_false_iff.mpr filled
  have tidyBare := layout.isTidy_bare
  rw [repair?, start, notEmpty, noFence, if_neg Bool.false_ne_true]
  cases tidy : layout.isTidy with
  | true =>
      have read : parseChars? layout.bare.print = some value.normalize := by
        have verbatim := Layout.parseVerbatim?_of_isTidy legible (tidyBare.trans tidy)
        exact congrArg (Option.map Json.normalize) verbatim
      simp [read]
  | false =>
      have unread : parseChars? layout.bare.print = none :=
        Layout.parse?_of_not_isTidy legible (tidyBare.trans tidy)
      have reread : parseChars? (dropCommas layout.bare.print) =
          some (value.mapStrings amend).normalize := by
        have verbatim := Layout.parseVerbatim?_of_isTidy (legible.mapStrings amend)
          (layout.isTidy_tidied amend)
        rw [dropCommas_bare legible layout]
        exact congrArg (Option.map Json.normalize) verbatim
      simp [unread, reread]

end Layouts

/-- A layout of a value is what is printed for it, with blanks and stray commas.  Its repair gives back
the value, with the exposed commas dropped from its strings if there is a stray comma.  So it gives
back the value if and only if no comma is stray or none is exposed. -/
theorem repair?_layout {value : Json} (reread : Json.parse? value.render = some value)
    (layout : Layout value) :
    layout.core = value.render ∧
      repair? layout.text =
        some (if layout.isTidy then value else (value.mapStrings amend).normalize) ∧
      (repair? layout.text = some value ↔
        layout.isTidy = true ∨ ∀ text ∈ value.strings, ¬Exposed text) := by
  obtain ⟨normal, legible⟩ := Json.isReadable_of_parse? reread
  have repaired := repair?_text legible layout
  rw [normal.normalize] at repaired
  refine ⟨layout.core_eq_render, repaired, ?_⟩
  rw [repaired, Option.some_inj]
  cases layout.isTidy with
  | true => exact iff_of_true (if_pos rfl) (.inl rfl)
  | false =>
      rw [if_neg Bool.false_ne_true, or_iff_right Bool.false_ne_true]
      constructor
      · -- A string that lost a comma is shorter, and sorting the fields brings no letter back.
        intro same text member
        rw [← amend_eq_self_iff]
        exact Json.unchanged_of_normalize_mapStrings legible amend_shortens same text member
      · intro hidden
        have kept : value.mapStrings amend = value := by
          apply Json.mapStrings_eq_self
          exact fun text member => (amend_eq_self_iff text).mpr (hidden text member)
        rw [kept, normal.normalize]

/-- Two stray commas are dropped, and the comma in the string is kept. -/
theorem repair?_layout_nested :
    let value := Json.object [("a", .array [.string "x, y"])]
    let layout : Layout value := {
      pieces := [.plain .openObject, .plain (.scalar (.string "a")), .plain .colon,
        { Piece.plain .openArray with blanks := [' '], blank := List.all_eq_true.mp rfl },
        .plain (.scalar (.string "x, y")),
        .littered ['\n'] (List.all_eq_true.mp rfl) .closeArray rfl,
        .littered [] nofun .closeObject rfl]
      trailing := ['\n']
      trailingBlank := List.all_eq_true.mp rfl
      tokens := rfl }
    Json.parse? value.render = some value ∧
      layout.text = "\x7b\"a\": [\"x, y\",\n],\x7d\n" ∧ repair? layout.text = some value := by
  intro value layout
  have reread : Json.parse? value.render = some value := by
    apply Json.IsReadable.parse?_render
    constructor
    · apply Json.IsNormal.object
      · exact List.pairwise_singleton _ _
      · rw [List.forall_mem_singleton]
        apply Json.IsNormal.array
        rw [List.forall_mem_singleton]
        exact .string _
    · apply Json.IsLegible.object
      rw [List.forall_mem_singleton]
      apply Json.IsLegible.array
      rw [List.forall_mem_singleton]
      exact .string _ _
  have hidden : ∀ text ∈ value.strings, ¬Exposed text := by
    change ∀ text ∈ ["a", "x, y"], ¬Exposed text
    rw [List.forall_mem_cons, List.forall_mem_singleton]
    exact ⟨not_exposed_of_no_closer rfl, not_exposed_of_no_closer rfl⟩
  exact ⟨reread, rfl, (repair?_layout reread layout).2.2.mpr (.inr hidden)⟩

/-- A comma before a bracket is lost from a string. -/
theorem repair?_layout_loses_comma :
    let value := Json.array [.string "a,]"]
    let layout : Layout value := {
      pieces := [.plain .openArray, .plain (.scalar (.string "a,]")),
        .littered [] nofun .closeArray rfl]
      trailing := []
      trailingBlank := nofun
      tokens := rfl }
    Json.parse? value.render = some value ∧ layout.text = "[\"a,]\",]" ∧
      repair? layout.text = some (.array [.string "a]"]) ∧ repair? layout.text ≠ some value := by
  intro value layout
  have readable : value.IsReadable := by
    constructor
    · apply Json.IsNormal.array
      rw [List.forall_mem_singleton]
      exact .string _
    · apply Json.IsLegible.array
      rw [List.forall_mem_singleton]
      exact .string _ _
  have amended : amend "a,]" = "a]" := by
    simp [amend, amendChars, isPlainBlank, Text.isBlank, isCloser]
  have repaired : repair? layout.text = some (.array [.string (amend "a,]")]) :=
    repair?_text readable.legible layout
  rw [amended] at repaired
  refine ⟨readable.parse?_render, rfl, repaired, ?_⟩
  rw [repaired]
  simp [value]

end ChatGateway.ToolRepair
