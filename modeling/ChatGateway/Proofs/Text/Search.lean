import ChatGateway.Text.Blank
import ChatGateway.Text.Search
import Mathlib.Data.List.Basic

/-!
# Where a text is cut

A cut takes a text apart at the first occurrence of another one, and nothing is lost.  A single
character is found where it is if it does not occur before.  Nothing is trimmed where no blank is at
an end.
-/

namespace ChatGateway.Text

theorem append_of_cutFrom? {needle passed text before after : List Char}
    (found : cutFrom? needle passed text = some (before, after)) :
    passed.reverse ++ text = before ++ needle ++ after := by
  induction text generalizing passed with
  | nil =>
      rw [cutFrom?] at found
      split at found
      · rename_i empty
        cases found
        simp [List.isEmpty_iff.mp empty]
      · cases found
  | cons character rest ih =>
      rw [cutFrom?] at found
      split at found
      · rename_i front
        cases found
        rw [eq_append_of_stripFront? front, List.append_assoc]
      · simpa using ih found

/-- The parts around an occurrence make up the text with it. -/
theorem append_of_cut? {needle text before after : List Char}
    (found : cut? needle text = some (before, after)) : text = before ++ needle ++ after := by
  simpa using append_of_cutFrom? found

theorem cutFrom?_character {character : Char} {before : List Char} (absent : character ∉ before)
    (passed after : List Char) :
    cutFrom? [character] passed (before ++ character :: after) =
      some (passed.reverse ++ before, after) := by
  induction before generalizing passed with
  | nil => simp [cutFrom?, stripFront?]
  | cons first rest ih =>
      rw [List.mem_cons, not_or] at absent
      have step := ih absent.2 (first :: passed)
      simp only [List.cons_append, cutFrom?, stripFront?, absent.1, if_false]
      rw [step, List.reverse_cons, List.append_assoc, List.singleton_append]

/-- The first occurrence of a character is the one with none before it. -/
theorem cut?_character {character : Char} {before : List Char} (absent : character ∉ before)
    (after : List Char) :
    cut? [character] (before ++ character :: after) = some (before, after) :=
  cutFrom?_character absent [] after

/-- The last occurrence of a character is the one with none after it. -/
theorem cutLast?_character {character : Char} {after : List Char} (absent : character ∉ after)
    (before : List Char) :
    cutLast? [character] (before ++ character :: after) = some (before, after) := by
  have turned : (before ++ character :: after).reverse =
      after.reverse ++ character :: before.reverse := by simp
  rw [cutLast?, turned, List.reverse_singleton, cut?_character (by simpa using absent)]
  simp

theorem cutFrom?_of_not_mem {character : Char} {text : List Char} (absent : character ∉ text)
    (passed : List Char) : cutFrom? [character] passed text = none := by
  induction text generalizing passed with
  | nil => rfl
  | cons first rest ih =>
      rw [List.mem_cons, not_or] at absent
      simp only [cutFrom?, stripFront?, absent.1, if_false]
      exact ih absent.2 _

/-- A character that does not occur is not found. -/
theorem cutLast?_of_not_mem {character : Char} {text : List Char} (absent : character ∉ text) :
    cutLast? [character] text = none := by
  rw [cutLast?, cut?, List.reverse_singleton, cutFrom?_of_not_mem (by simpa using absent)]
  rfl

/-- The parts around the last occurrence of a text make up the text with it. -/
theorem append_of_cutLast? {needle text before after : List Char}
    (found : cutLast? needle text = some (before, after)) : text = before ++ needle ++ after := by
  obtain ⟨⟨behind, ahead⟩, cut, parts⟩ := Option.map_eq_some_iff.mp found
  cases parts
  have whole := congrArg List.reverse (append_of_cut? cut)
  simpa using whole

/-! ## First occurrences -/

theorem stripFront?_eq_dropPrefix? (needle text : List Char) :
    stripFront? needle text = text.dropPrefix? needle := by
  induction needle generalizing text with
  | nil => cases text <;> rfl
  | cons wanted needle ih =>
      cases text with
      | nil => rfl
      | cons character text =>
          rw [stripFront?, List.dropPrefix?, ih]
          by_cases same : wanted = character
          · simp [same]
          · simp [same, Ne.symm same]

theorem cutFrom?_eq_go (needle text passed : List Char) :
    cutFrom? needle passed text = List.dropInfix?.go needle text passed := by
  induction text generalizing passed with
  | nil => rfl
  | cons character rest ih =>
      rw [cutFrom?, List.dropInfix?.go, stripFront?_eq_dropPrefix?, ih]
      cases (character :: rest).dropPrefix? needle <;> rfl

/-- A text is cut at the first place where the other one occurs. -/
theorem cut?_eq_some_iff {needle text before after : List Char} :
    cut? needle text = some (before, after) ↔
      text = before ++ needle ++ after ∧
        ∀ other rest, text = other ++ needle ++ rest → before.length ≤ other.length := by
  have found : cut? needle text = some (before, after) ↔
      text.dropInfix? needle = some (before, after) := by
    rw [cut?, cutFrom?_eq_go, List.dropInfix?]
  rw [found, List.dropInfix?_eq_some_iff]
  simp only [beq_iff_eq, ge_iff_le, exists_eq_right, and_congr_right_iff]
  intro _
  constructor
  · intro least other rest whole
    exact least other needle rest whole rfl
  · rintro least other _ rest whole rfl
    exact least other rest whole

theorem stripFront?_append (needle rest : List Char) :
    stripFront? needle (needle ++ rest) = some rest := by
  induction needle with
  | nil => rfl
  | cons wanted needle ih => rw [List.cons_append, stripFront?, if_pos rfl, ih]

theorem isSome_cutFrom? (needle passed before after : List Char) :
    (cutFrom? needle passed (before ++ (needle ++ after))).isSome = true := by
  induction before generalizing passed with
  | nil =>
      have front := stripFront?_append needle after
      rw [List.nil_append]
      cases text : needle ++ after with
      | nil =>
          rw [List.append_eq_nil_iff] at text
          simp [text.1, cutFrom?]
      | cons character rest =>
          rw [text] at front
          rw [cutFrom?, front, Option.isSome_some]
  | cons character before ih =>
      rw [List.cons_append, cutFrom?]
      cases stripFront? needle (character :: (before ++ (needle ++ after))) with
      | some rest => rfl
      | none => exact ih _

/-- A text that occurs is found. -/
theorem exists_cut? {needle text before after : List Char}
    (whole : text = before ++ needle ++ after) : ∃ parts, cut? needle text = some parts := by
  rw [whole, List.append_assoc]
  exact Option.isSome_iff_exists.mp (isSome_cutFrom? needle [] before after)

/-! ## Lines -/

/-- The first piece of a text ends at the first separator. -/
theorem pieces_append_cons {separator : Char} {first : List Char} (absent : separator ∉ first)
    (rest : List Char) :
    pieces separator (first ++ separator :: rest) = first :: pieces separator rest := by
  induction first with
  | nil => exact if_pos rfl
  | cons character first ih =>
      rw [List.mem_cons, not_or] at absent
      have step : pieces separator (character :: (first ++ separator :: rest)) =
          piecesStep separator character (pieces separator (first ++ separator :: rest)) := rfl
      rw [List.cons_append, step, ih absent.2, piecesStep, if_neg (Ne.symm absent.1)]

/-- A text without separators is one piece. -/
theorem pieces_of_not_mem {separator : Char} {text : List Char} (absent : separator ∉ text) :
    pieces separator text = [text] := by
  induction text with
  | nil => rfl
  | cons character rest ih =>
      rw [List.mem_cons, not_or] at absent
      have step : pieces separator (character :: rest) =
          piecesStep separator character (pieces separator rest) := rfl
      rw [step, ih absent.2, piecesStep, if_neg (Ne.symm absent.1)]

/-! ## Trimming -/

/-- What is dropped from the front ends before the first character that is kept. -/
theorem dropWhile_append {drops : Char → Bool} {front rest : List Char}
    (all : ∀ character ∈ front, drops character = true)
    (stops : ∀ character, rest.head? = some character → drops character = false) :
    (front ++ rest).dropWhile drops = rest := by
  rw [List.dropWhile_append_of_pos all]
  cases rest with
  | nil => rfl
  | cons character rest => exact List.dropWhile_cons_of_neg (by simp [stops character rfl])

theorem dropWhile_append_cons {drops : Char → Bool} {front : List Char} {kept : Char}
    (all : ∀ character ∈ front, drops character = true) (stops : drops kept = false)
    (rest : List Char) : (front ++ kept :: rest).dropWhile drops = kept :: rest := by
  apply dropWhile_append all
  rintro _ ⟨⟩
  exact stops

theorem isBlank_eq_false_of_isDigit {character : Char} (digit : character.isDigit) :
    isBlank character = false := by
  have code : 48 ≤ character.toNat ∧ character.toNat ≤ 57 := by
    simp only [Char.isDigit, Bool.and_eq_true, decide_eq_true_eq, ge_iff_le,
      UInt32.le_iff_toNat_le] at digit
    exact digit
  simp only [isBlank, Bool.or_eq_false_iff, Bool.and_eq_false_iff, decide_eq_false_iff_not]
  omega

/-- What is trimmed are the blanks at both ends. -/
theorem trimChars_append {front text back : List Char} {first last : Char}
    (before : ∀ character ∈ front, isBlank character = true)
    (behind : ∀ character ∈ back, isBlank character = true) (starts : text.head? = some first)
    (ends : text.getLast? = some last) (firstShows : isBlank first = false)
    (lastShows : isBlank last = false) : trimChars (front ++ (text ++ back)) = text := by
  have forwards : (front ++ (text ++ back)).dropWhile isBlank = text ++ back := by
    obtain ⟨rest, rfl⟩ := List.head?_eq_some_iff.mp starts
    exact dropWhile_append_cons before firstShows _
  have backwards : (text ++ back).reverse.dropWhile isBlank = text.reverse := by
    rw [List.reverse_append]
    apply dropWhile_append (by simpa using behind)
    intro character head
    rw [List.head?_reverse, ends] at head
    cases head
    exact lastShows
  rw [trimChars, forwards, backwards, List.reverse_reverse]

/-- Nothing is trimmed where no blank is at an end. -/
theorem trimChars_eq_self {first last : Char} {text : List Char} (starts : text.head? = some first)
    (ends : text.getLast? = some last) (firstShows : isBlank first = false)
    (lastShows : isBlank last = false) : trimChars text = text := by
  have noBlank := List.forall_mem_nil fun character => isBlank character = true
  have bare := trimChars_append noBlank noBlank starts ends firstShows lastShows
  rwa [List.nil_append, List.append_nil] at bare

end ChatGateway.Text
