import ChatGateway.Json.Printer
import ChatGateway.Proofs.Json.Literal
import ChatGateway.Proofs.Json.Normal
import Mathlib.Data.List.TakeWhile
import Mathlib.Tactic.SplitIfs

/-!
# Printed text

What is printed for a value that was read from some text is read as the same value.  Such a value
holds no number that a text cannot stand for, and is not nested too deeply.
-/

namespace ChatGateway.Json

/-! ## Legible values -/

/-- The value can be read from a text, with so many arrays and objects inside each other. -/
inductive IsLegible : Nat → Json → Prop where
  | null (room : Nat) : IsLegible room .null
  | bool (room : Nat) (value : Bool) : IsLegible room (.bool value)
  | number (room : Nat) {value : Number} (legible : value.IsLegible) :
      IsLegible room (.number value)
  | string (room : Nat) (value : String) : IsLegible room (.string value)
  | array {room : Nat} {items : List Json} (inside : ∀ item ∈ items, IsLegible room item) :
      IsLegible (room + 1) (.array items)
  | object {room : Nat} {fields : List (String × Json)}
      (inside : ∀ field ∈ fields, IsLegible room field.2) : IsLegible (room + 1) (.object fields)

theorem IsLegible.mono {room more : Nat} {value : Json} (legible : value.IsLegible room)
    (enough : room ≤ more) : value.IsLegible more := by
  induction legible generalizing more with
  | null => exact .null more
  | bool _ value => exact .bool more value
  | number _ inside => exact .number more inside
  | string _ value => exact .string more value
  | @array room items _ ih =>
      obtain ⟨rest, rfl⟩ : ∃ rest, more = rest + 1 := ⟨more - 1, by omega⟩
      exact .array fun item member => ih item member (Nat.le_of_succ_le_succ enough)
  | @object room fields _ ih =>
      obtain ⟨rest, rfl⟩ : ∃ rest, more = rest + 1 := ⟨more - 1, by omega⟩
      exact .object fun field member => ih field member (Nat.le_of_succ_le_succ enough)

theorem IsLegible.normalize {room : Nat} {value : Json} (legible : value.IsLegible room) :
    value.normalize.IsLegible room := by
  induction legible with
  | null room => exact .null room
  | bool room value => exact .bool room value
  | number room inside => exact .number room inside
  | string room value => exact .string room value
  | @array room items _ ih =>
      rw [Json.normalize, normalizeItems_eq_map]
      apply IsLegible.array
      intro item member
      obtain ⟨source, inside, rfl⟩ := List.mem_map.mp member
      exact ih source inside
  | @object room fields _ ih =>
      rw [Json.normalize, normalizeFields_eq_map]
      apply IsLegible.object
      intro field member
      obtain ⟨source, inside, rfl⟩ := List.mem_map.mp (Dictionary.mem_of_mem_ofList member)
      exact ih source inside

/-! ## Tokens -/

mutual

/-- The tokens of a value. -/
def tokens : Json → List Token
  | .array items => .openArray :: itemTokens items ++ [.closeArray]
  | .object fields => .openObject :: fieldTokens fields ++ [.closeObject]
  | scalar => [.scalar scalar]

/-- The tokens of items, with commas between them. -/
def itemTokens : List Json → List Token
  | [] => []
  | [item] => tokens item
  | item :: rest => tokens item ++ .comma :: itemTokens rest

/-- The tokens of fields, with commas between them. -/
def fieldTokens : List (String × Json) → List Token
  | [] => []
  | [(name, value)] => .scalar (.string name) :: .colon :: tokens value
  | (name, value) :: rest =>
      .scalar (.string name) :: .colon :: tokens value ++ .comma :: fieldTokens rest

end

theorem lex_cons (state : Lexer) (character : Char) (rest : List Char) :
    lex state (character :: rest) =
      (lexStep state character).bind fun step => (lex step.2 rest).map (step.1 ++ ·) := by
  rw [lex]
  cases lexStep state character with
  | none => rfl
  | some step =>
      change (lex step.2 rest).bind (fun more => some (step.1 ++ more)) = _
      rw [Option.bind_some, Option.map_eq_bind]
      rfl

theorem lex_cons_of_silent {state next : Lexer} {character : Char}
    (step : lexStep state character = some ([], next)) (rest : List Char) :
    lex state (character :: rest) = lex next rest := by
  simp [lex_cons, step]

theorem lex_cons_of_token {state : Lexer} {character : Char} {token : Token} {next : Lexer}
    (step : lexStep state character = some ([token], next)) (rest : List Char) :
    lex state (character :: rest) = (lex next rest).map (token :: ·) := by
  simp [lex_cons, step]

/-! ### Strings -/

theorem hexValue?_hexDigit {value : Nat} (small : value < 16) :
    hexValue? (hexDigit value) = some value := by
  revert value
  decide

/-- An escape of two characters is read as the one that it stands for. -/
theorem lex_escape {mark character : Char} (meaning : unescape? mark = some character)
    (notUnicode : mark ≠ 'u') (read rest : List Char) :
    lex (.string read) ('\\' :: mark :: rest) = lex (.string (character :: read)) rest := by
  have step : lexStep (.escape read) mark = some ([], .string (character :: read)) := by
    rw [lexStep, if_neg notUnicode, meaning]
    rfl
  rw [lex_cons_of_silent rfl, lex_cons_of_silent step]

/-- The last digit of an escape completes a character that is no surrogate. -/
theorem lexStep_unicode_last {digit : Char} {value low : Nat} (read : hexValue? digit = some low)
    (small : 16 * value + low < 0xD800) (before : List Char) :
    lexStep (.unicode before none 3 value) digit =
      some ([], .string (Char.ofNat (16 * value + low) :: before)) := by
  have notHigh : ¬(0xD800 ≤ 16 * value + low ∧ 16 * value + low < 0xDC00) := by omega
  have notLow : ¬(0xDC00 ≤ 16 * value + low ∧ 16 * value + low < 0xE000) := by omega
  simp only [lexStep, read, Option.bind_eq_bind, Option.bind_some, lexUnit, if_neg notHigh,
    if_neg notLow]
  rfl

/-- A control character is read from its four digits. -/
theorem lex_unicode {character : Char} (control : character.toNat < 32) (read rest : List Char) :
    lex (.string read) (['\\', 'u', '0', '0', hexDigit (character.toNat / 16),
      hexDigit (character.toNat % 16)] ++ rest) = lex (.string (character :: read)) rest := by
  have first : lexStep (.unicode read none 0 0) '0' = some ([], .unicode read none 1 0) := rfl
  have second : lexStep (.unicode read none 1 0) '0' = some ([], .unicode read none 2 0) := rfl
  have third : lexStep (.unicode read none 2 0) (hexDigit (character.toNat / 16)) =
      some ([], .unicode read none 3 (character.toNat / 16)) := by
    simp [lexStep, hexValue?_hexDigit (by omega : character.toNat / 16 < 16)]
  have last := lexStep_unicode_last
    (hexValue?_hexDigit (Nat.mod_lt character.toNat (by decide : 0 < 16)))
    (by omega : 16 * (character.toNat / 16) + character.toNat % 16 < 0xD800) read
  rw [Nat.div_add_mod, Char.ofNat_toNat] at last
  rw [List.cons_append, lex_cons_of_silent rfl, List.cons_append, lex_cons_of_silent rfl,
    List.cons_append, lex_cons_of_silent first, List.cons_append, lex_cons_of_silent second,
    List.cons_append, lex_cons_of_silent third, List.cons_append, lex_cons_of_silent last,
    List.nil_append]

/-- What a character inside a string is written as is read as that character. -/
theorem lex_escapeChar (read : List Char) (character : Char) (rest : List Char) :
    lex (.string read) (escapeChar character ++ rest) = lex (.string (character :: read)) rest := by
  rw [escapeChar]
  split_ifs with quote backslash newline carriage tab backspace formFeed control
  · subst quote
    exact lex_escape rfl (by decide) read rest
  · subst backslash
    exact lex_escape rfl (by decide) read rest
  · subst newline
    exact lex_escape rfl (by decide) read rest
  · subst carriage
    exact lex_escape rfl (by decide) read rest
  · subst tab
    exact lex_escape rfl (by decide) read rest
  · obtain rfl : character = Char.ofNat 8 := Char.ext backspace
    exact lex_escape rfl (by decide) read rest
  · obtain rfl : character = Char.ofNat 12 := Char.ext formFeed
    exact lex_escape rfl (by decide) read rest
  · exact lex_unicode control read rest
  · have step : lexStep (.string read) character = some ([], .string (character :: read)) := by
      rw [lexStep, if_neg quote, if_neg backslash, if_neg control]
    exact lex_cons_of_silent step rest

theorem lex_flatMap_escapeChar (read text rest : List Char) :
    lex (.string read) (text.flatMap escapeChar ++ '"' :: rest) =
      (lex .between rest).map (.scalar (.string (String.ofList (read.reverse ++ text))) :: ·) := by
  induction text generalizing read with
  | nil =>
      rw [List.flatMap_nil, List.nil_append, List.append_nil]
      exact lex_cons_of_token rfl rest
  | cons character text ih =>
      rw [List.flatMap_cons, List.append_assoc, lex_escapeChar, ih, List.reverse_cons,
        List.append_assoc, List.singleton_append]

theorem lex_quote (text : String) (rest : List Char) :
    lex .between (quote text ++ rest) =
      (lex .between rest).map (.scalar (.string text) :: ·) := by
  rw [quote, List.cons_append, List.cons_append, lex_cons_of_silent rfl, List.append_assoc,
    List.singleton_append]
  have read := lex_flatMap_escapeChar [] text.toList rest
  rwa [List.reverse_nil, List.nil_append, String.ofList_toList] at read

/-! ### Words -/

/-- A text that goes on with something that is not part of a word. -/
def EndsWord (rest : List Char) : Prop := ∀ next ∈ rest.head?, isWordChar next = false

theorem lexBetween_of_isWordChar {character : Char} (word : isWordChar character) :
    lexBetween character = some ([], .word [character]) := by
  have other (special : Char) (no : isWordChar special = false) : character ≠ special := by
    rintro rfl
    exact Bool.false_ne_true (no.symm.trans word)
  have notBlank : isBlank character = false := by
    simp [isBlank, other ' ' rfl, other '\n' rfl, other '\r' rfl, other '\t' rfl]
  simp only [lexBetween, notBlank, other '"' rfl, other '[' rfl, other ']' rfl, other '\x7b' rfl,
    other '\x7d' rfl, other ',' rfl, other ':' rfl, word, if_true, if_false, Bool.false_eq_true]

theorem lex_word (read word rest : List Char) (every : ∀ character ∈ word, isWordChar character) :
    lex (.word read) (word ++ rest) = lex (.word (word.reverse ++ read)) rest := by
  induction word generalizing read with
  | nil => rfl
  | cons character word ih =>
      have first : isWordChar character := every character List.mem_cons_self
      have step : lexStep (.word read) character = some ([], .word (character :: read)) := by
        rw [lexStep, if_pos first]
      rw [List.cons_append, lex_cons_of_silent step, ih _ fun other member =>
        every other (.tail _ member), List.reverse_cons, List.append_assoc, List.singleton_append]

theorem lex_word_end {read : List Char} {value : Json} (meaning : word? read.reverse = some value)
    {rest : List Char} (ends : EndsWord rest) :
    lex (.word read) rest = (lex .between rest).map (.scalar value :: ·) := by
  cases rest with
  | nil => simp [lex, lexEnd, meaning]
  | cons next rest =>
      have noWord : isWordChar next = false := ends next rfl
      have step : lexStep (.word read) next =
          (lexStep .between next).map fun step => (.scalar value :: step.1, step.2) := by
        simp only [lexStep, noWord, Bool.false_eq_true, if_false, meaning]
        cases lexBetween next <;> rfl
      rw [lex_cons, lex_cons, step]
      cases lexStep .between next with
      | none => rfl
      | some step =>
          simp only [Option.map_some, Option.bind_some, Option.map_map]
          rfl

/-- A word of a value is cut out where it ends. -/
theorem lex_between_word {word : List Char} {value : Json} (meaning : word? word = some value)
    (every : ∀ character ∈ word, isWordChar character) (filled : word ≠ []) {rest : List Char}
    (ends : EndsWord rest) :
    lex .between (word ++ rest) = (lex .between rest).map (.scalar value :: ·) := by
  cases word with
  | nil => exact absurd rfl filled
  | cons first word =>
      have step : lexStep .between first = some ([], .word [first]) :=
        lexBetween_of_isWordChar (every first List.mem_cons_self)
      rw [List.cons_append, lex_cons_of_silent step, lex_word _ _ _ fun other member =>
        every other (.tail _ member), lex_word_end _ ends]
      simpa using meaning

/-! ### Numbers -/

theorem isWordChar_of_isDigit {character : Char} (digit : character.isDigit) :
    isWordChar character := by
  simp [isWordChar, Char.isAlphanum, digit]

theorem isWordChar_of_exponentPart? {text : List Char} {exponent : Option Int}
    (read : exponentPart? text = some exponent) : ∀ character ∈ text, isWordChar character := by
  have digits {text : List Char} (every : text.all Char.isDigit) :
      ∀ character ∈ text, isWordChar character := fun character member =>
    isWordChar_of_isDigit (List.all_eq_true.mp every character member)
  cases text with
  | nil => simp
  | cons mark rest =>
      simp only [exponentPart?, Option.ite_none_right_eq_some] at read
      obtain ⟨isMark, read⟩ := read
      have markWord : isWordChar mark := by
        rcases isMark with rfl | rfl <;> rfl
      rw [List.forall_mem_cons]
      refine ⟨markWord, ?_⟩
      split at read <;> have every := digits read.1.2
      · exact List.forall_mem_cons.mpr ⟨rfl, every⟩
      · exact List.forall_mem_cons.mpr ⟨rfl, every⟩
      · exact every

theorem isWordChar_of_magnitude? {text : List Char} {magnitude : Nat ⊕ Decimal}
    (read : magnitude? text = some magnitude) : ∀ character ∈ text, isWordChar character := by
  have front {text : List Char} : ∀ character ∈ text.takeWhile Char.isDigit,
      isWordChar character := fun character member =>
    isWordChar_of_isDigit (List.mem_takeWhile_imp member)
  have parts (text : List Char) := List.takeWhile_append_dropWhile (p := Char.isDigit) (l := text)
  rw [magnitude?, spanDigits] at read
  simp only [Option.ite_none_left_eq_some] at read
  obtain ⟨-, read⟩ := read
  rw [← parts text, List.forall_mem_append]
  refine ⟨front, ?_⟩
  split at read
  · rename_i behind pointed
    split at read
    · cases read
    · obtain ⟨exponent, powers, -⟩ := Option.map_eq_some_iff.mp read
      rw [pointed, List.forall_mem_cons, ← parts behind, List.forall_mem_append]
      exact ⟨rfl, front, isWordChar_of_exponentPart? powers⟩
  · obtain ⟨exponent, powers, -⟩ := Option.map_eq_some_iff.mp read
    exact isWordChar_of_exponentPart? powers

theorem isWordChar_of_number? {text : List Char} {number : Number}
    (read : number? text = some number) : ∀ character ∈ text, isWordChar character := by
  rw [number?_eq, Option.bind_eq_some_iff] at read
  obtain ⟨magnitude, unsigned, -⟩ := read
  have rest := isWordChar_of_magnitude? unsigned
  unfold splitSign at rest
  split at rest
  · exact List.forall_mem_cons.mpr ⟨rfl, rest⟩
  · exact rest

theorem word?_of_number? {text : List Char} {number : Number} (read : number? text = some number) :
    word? text = some (.number number) := by
  have notNull : text ≠ ['n', 'u', 'l', 'l'] := by
    rintro rfl
    cases read
  have notTrue : text ≠ ['t', 'r', 'u', 'e'] := by
    rintro rfl
    cases read
  have notFalse : text ≠ ['f', 'a', 'l', 's', 'e'] := by
    rintro rfl
    cases read
  rw [word?, if_neg notNull, if_neg notTrue, if_neg notFalse, read]
  rfl

/-! ### Values -/

/-- A text is cut into tokens, whatever comes behind it. -/
def Lexes (text : List Char) (tokens : List Token) : Prop :=
  ∀ rest, EndsWord rest → lex .between (text ++ rest) = (lex .between rest).map (tokens ++ ·)

theorem endsWord_cons {next : Char} (noWord : isWordChar next = false) (rest : List Char) :
    EndsWord (next :: rest) := by
  rintro _ ⟨⟩
  exact noWord

theorem lexes_nil : Lexes [] [] := by
  intro rest _
  simp

theorem lexes_word {word : List Char} {value : Json} (meaning : word? word = some value)
    (every : ∀ character ∈ word, isWordChar character) : Lexes word [.scalar value] := by
  have filled : word ≠ [] := by
    rintro rfl
    cases meaning
  exact fun rest ends => lex_between_word meaning every filled ends

theorem lexes_quote (text : String) : Lexes (quote text) [.scalar (.string text)] :=
  fun rest _ => lex_quote text rest

theorem Lexes.append {text more : List Char} {tokens others : List Token}
    (lexes : Lexes text tokens) (lexesToo : Lexes more others)
    (ends : ∀ rest, EndsWord rest → EndsWord (more ++ rest)) :
    Lexes (text ++ more) (tokens ++ others) := by
  intro rest ended
  rw [List.append_assoc, lexes _ (ends rest ended), lexesToo rest ended, Option.map_map]
  simp [Function.comp_def]

/-- A mark is a token of its own. -/
theorem Lexes.cons {mark : Char} {token : Token}
    (step : lexStep .between mark = some ([token], .between)) {text : List Char}
    {tokens : List Token} (lexes : Lexes text tokens) : Lexes (mark :: text) (token :: tokens) := by
  intro rest ends
  rw [List.cons_append, lex_cons_of_token step, lexes rest ends, Option.map_map]
  rfl

/-- A mark ends the word before it. -/
theorem Lexes.append_cons {text more : List Char} {tokens others : List Token}
    (lexes : Lexes text tokens) {mark : Char} {token : Token}
    (step : lexStep .between mark = some ([token], .between)) (noWord : isWordChar mark = false)
    (lexesToo : Lexes more others) :
    Lexes (text ++ mark :: more) (tokens ++ token :: others) :=
  lexes.append (lexesToo.cons step) fun rest _ => endsWord_cons noWord (more ++ rest)

theorem lexes_printItems {items : List Json} (each : ∀ item ∈ items, Lexes item.print item.tokens) :
    Lexes (printItems items) (itemTokens items) := by
  induction items with
  | nil => exact lexes_nil
  | cons item rest ih =>
      have first := each item List.mem_cons_self
      have others := ih fun other member => each other (.tail _ member)
      cases rest with
      | nil => exact first
      | cons second rest => exact first.append_cons rfl rfl others

theorem lexes_printFields {fields : List (String × Json)}
    (each : ∀ field ∈ fields, Lexes field.2.print field.2.tokens) :
    Lexes (printFields fields) (fieldTokens fields) := by
  induction fields with
  | nil => exact lexes_nil
  | cons field rest ih =>
      obtain ⟨name, value⟩ := field
      have first : Lexes (quote name ++ ':' :: value.print)
          (.scalar (.string name) :: .colon :: value.tokens) :=
        (lexes_quote name).append_cons rfl rfl (each (name, value) List.mem_cons_self)
      have others := ih fun other member => each other (.tail _ member)
      cases rest with
      | nil => exact first
      | cons second rest => exact first.append_cons rfl rfl others

/-- What is printed for a value is cut into its tokens. -/
theorem IsLegible.lexes {room : Nat} {value : Json} (legible : value.IsLegible room) :
    Lexes value.print value.tokens := by
  induction legible with
  | null => exact lexes_word rfl (List.all_eq_true.mp rfl)
  | bool room value => cases value <;> exact lexes_word rfl (List.all_eq_true.mp rfl)
  | number room inside =>
      have read := number?_toList_render inside
      exact lexes_word (word?_of_number? read) (isWordChar_of_number? read)
  | string room text => exact lexes_quote text
  | array inside ih =>
      exact ((lexes_printItems ih).append_cons rfl rfl lexes_nil).cons rfl
  | object inside ih =>
      exact ((lexes_printFields ih).append_cons rfl rfl lexes_nil).cons rfl

/-! ## Characters that are printed -/

/-- A text without control characters below the blank, and so without line breaks. -/
def Printable (text : List Char) : Prop := ∀ character ∈ text, 32 ≤ character.toNat

theorem Printable.append {text more : List Char} (first : Printable text) (rest : Printable more) :
    Printable (text ++ more) :=
  List.forall_mem_append.mpr ⟨first, rest⟩

theorem Printable.cons {character : Char} (high : 32 ≤ character.toNat) {rest : List Char}
    (printable : Printable rest) : Printable (character :: rest) :=
  List.forall_mem_cons.mpr ⟨high, printable⟩

/-- The characters of words lie between the plus sign and the last letter. -/
theorem toNat_of_isWordChar {character : Char} (word : isWordChar character) :
    43 ≤ character.toNat ∧ character.toNat ≤ 122 := by
  unfold isWordChar Char.isAlphanum Char.isAlpha Char.isUpper Char.isLower Char.isDigit at word
  simp only [Bool.or_eq_true, Bool.and_eq_true, decide_eq_true_eq, ge_iff_le,
    UInt32.le_iff_toNat_le] at word
  rcases word with ((((upper | lower) | digit) | rfl) | rfl) | rfl
  · exact ⟨Nat.le_trans (by decide) upper.1, Nat.le_trans upper.2 (by decide)⟩
  · exact ⟨Nat.le_trans (by decide) lower.1, Nat.le_trans lower.2 (by decide)⟩
  · exact ⟨Nat.le_trans (by decide) digit.1, Nat.le_trans digit.2 (by decide)⟩
  · decide
  · decide
  · decide

theorem printable_of_isWordChar {text : List Char}
    (words : ∀ character ∈ text, isWordChar character) : Printable text := by
  intro character member
  exact Nat.le_trans (by decide) (toNat_of_isWordChar (words character member)).1

theorem printable_nil : Printable [] := nofun

theorem printable_of_all {text : List Char} (shown : text.all (32 ≤ ·.toNat) = true) :
    Printable text := by
  intro character member
  exact of_decide_eq_true (List.all_eq_true.mp shown character member)

/-- A control character is escaped. -/
theorem printable_escapeChar (character : Char) : Printable (escapeChar character) := by
  have hex : ∀ value < 16, 32 ≤ (hexDigit value).toNat := by decide
  have escape {mark : Char} (high : 32 ≤ mark.toNat) : Printable ['\\', mark] :=
    .cons (by decide) (.cons high printable_nil)
  unfold escapeChar
  split_ifs with _ _ _ _ _ _ _ control
  · exact escape (by decide)
  · exact escape (by decide)
  · exact escape (by decide)
  · exact escape (by decide)
  · exact escape (by decide)
  · exact escape (by decide)
  · exact escape (by decide)
  · have small : character.toNat < 32 := UInt32.lt_iff_toNat_lt.mp control
    have first := hex (character.toNat / 16) (by omega)
    have second := hex (character.toNat % 16) (Nat.mod_lt _ (by decide))
    have code := Printable.cons first (.cons second printable_nil)
    exact (escape (by decide)).append (.cons (by decide) (.cons (by decide) code))
  · have high : 32 ≤ character.toNat := UInt32.le_iff_toNat_le.mp (UInt32.not_lt.mp control)
    exact .cons high printable_nil

theorem printable_quote (text : String) : Printable (quote text) := by
  have inside : Printable (text.toList.flatMap escapeChar) := by
    intro character member
    obtain ⟨source, -, escaped⟩ := List.mem_flatMap.mp member
    exact printable_escapeChar source character escaped
  have closing : Printable ['"'] := Printable.cons (by decide) printable_nil
  exact Printable.cons (by decide) (inside.append closing)

theorem printable_printItems {items : List Json} (each : ∀ item ∈ items, Printable item.print) :
    Printable (printItems items) := by
  induction items with
  | nil => exact printable_nil
  | cons item rest ih =>
      have first := each item List.mem_cons_self
      have others := ih fun other member => each other (.tail _ member)
      cases rest with
      | nil => exact first
      | cons second rest => exact first.append (others.cons (by decide))

theorem printable_printFields {fields : List (String × Json)}
    (each : ∀ field ∈ fields, Printable field.2.print) : Printable (printFields fields) := by
  induction fields with
  | nil => exact printable_nil
  | cons field rest ih =>
      obtain ⟨name, value⟩ := field
      have inside : Printable value.print := each (name, value) List.mem_cons_self
      have first := (printable_quote name).append (inside.cons (by decide : 32 ≤ ':'.toNat))
      have others := ih fun other member => each other (.tail _ member)
      cases rest with
      | nil => exact first
      | cons second rest => exact first.append (others.cons (by decide))

/-- Nothing that is printed for a legible value is a control character. -/
theorem IsLegible.printable {room : Nat} {value : Json} (legible : value.IsLegible room) :
    Printable value.print := by
  induction legible with
  | null => exact printable_of_all rfl
  | bool room value => cases value <;> exact printable_of_all rfl
  | number room inside =>
      exact printable_of_isWordChar (isWordChar_of_number? (number?_toList_render inside))
  | string room text => exact printable_quote text
  | @array room items _ ih =>
      have closing : Printable [']'] := Printable.cons (by decide) printable_nil
      exact Printable.cons (by decide) ((printable_printItems ih).append closing)
  | @object room fields _ ih =>
      have closing : Printable ['\x7d'] := Printable.cons (by decide) printable_nil
      exact Printable.cons (by decide) ((printable_printFields ih).append closing)

end ChatGateway.Json
