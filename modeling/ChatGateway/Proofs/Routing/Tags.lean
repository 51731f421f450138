import ChatGateway.Proofs.Attachment.Scope
import ChatGateway.Proofs.Text.Search
import ChatGateway.Routing.Marker
import Mathlib.Data.List.Basic
import Mathlib.Data.List.TakeWhile

/-!
# Tags in texts

A tag is the numbered part of a marker.  Taking the markers out of a text leaves the stretches
between them, and none of these has a tag in it.  Put together they may have one, since a marker can
stand in the middle of another tag.
-/

namespace ChatGateway

namespace Text

theorem isDecimal_of_isDigit {character : Char} (digit : character.isDigit) :
    isDecimal character := by
  have code : character.toNat < 128 := by
    simp only [Char.isDigit, Bool.and_eq_true, decide_eq_true_eq, ge_iff_le,
      UInt32.le_iff_toNat_le] at digit
    have bound := digit.2
    change character.toNat ≤ 57 at bound
    omega
  rw [isDecimal, if_pos code]
  exact digit

end Text

namespace Marker

/-! ## Tags -/

/-- What a tag begins with. -/
def tagHead : List Char := "[Image #".toList

theorem toList_opening : opening.toList = tagHead := rfl

/-- The digits of the tag at the front of a text. -/
def tagAt? (text : List Char) : Option (List Char) := do
  let numbered ← Text.stripFront? tagHead text
  let digits := numbered.takeWhile Text.isDecimal
  if digits ≠ [] ∧ (numbered.dropWhile Text.isDecimal).head? = some ']' then some digits else none

/-- The digits of the tags in a text, in their order. -/
def tags : List Char → List (List Char)
  | [] => []
  | character :: rest => (tagAt? (character :: rest)).toList ++ tags rest

theorem not_isDecimal_close : Text.isDecimal ']' = false := by decide

/-- What a tag is made of. -/
def tag (digits : List Char) : List Char := tagHead ++ digits ++ [']']

/-- Digits as they may stand in a tag. -/
def Numbers (digits : List Char) : Prop := digits ≠ [] ∧ ∀ digit ∈ digits, Text.isDecimal digit

theorem tagAt?_eq_some_iff {text digits : List Char} :
    tagAt? text = some digits ↔ Numbers digits ∧ ∃ after, text = tag digits ++ after := by
  constructor
  · intro found
    simp only [tagAt?, bind, Option.bind_eq_some_iff] at found
    obtain ⟨numbered, front, found⟩ := found
    split at found
    · rename_i parts
      obtain ⟨after, closes⟩ := List.head?_eq_some_iff.mp parts.2
      cases found
      refine ⟨⟨parts.1, fun digit member => List.mem_takeWhile_imp member⟩, after, ?_⟩
      calc text
        _ = tagHead ++ (numbered.takeWhile Text.isDecimal ++
              numbered.dropWhile Text.isDecimal) := by
            rw [List.takeWhile_append_dropWhile]
            exact Text.eq_append_of_stripFront? front
        _ = tag (numbered.takeWhile Text.isDecimal) ++ after := by
            rw [closes]
            simp [tag]
    · cases found
  · rintro ⟨numbers, after, rfl⟩
    have numbered : tag digits ++ after = tagHead ++ (digits ++ ']' :: after) := by
      simp [tag]
    have taken : (digits ++ ']' :: after).takeWhile Text.isDecimal = digits := by
      rw [List.takeWhile_append_of_pos numbers.2]
      simp [not_isDecimal_close]
    have dropped : (digits ++ ']' :: after).dropWhile Text.isDecimal = ']' :: after :=
      Text.dropWhile_append_cons numbers.2 not_isDecimal_close after
    simp only [tagAt?, numbered, Text.stripFront?_append, Option.bind_eq_bind, Option.bind_some,
      taken, dropped]
    exact if_pos ⟨numbers.1, rfl⟩

theorem tagAt?_tag {digits : List Char} (numbers : Numbers digits) (after : List Char) :
    tagAt? (tag digits ++ after) = some digits :=
  tagAt?_eq_some_iff.mpr ⟨numbers, after, rfl⟩

/-- A tag stays at the front of a text that goes on. -/
theorem tagAt?_append {text digits : List Char} (found : tagAt? text = some digits)
    (more : List Char) : tagAt? (text ++ more) = some digits := by
  obtain ⟨numbers, after, rfl⟩ := tagAt?_eq_some_iff.mp found
  rw [List.append_assoc]
  exact tagAt?_tag numbers (after ++ more)

/-- A tag begins with its bracket. -/
theorem tagAt?_of_ne {character : Char} (other : character ≠ '[') (rest : List Char) :
    tagAt? (character :: rest) = none := by
  apply Option.eq_none_iff_forall_ne_some.mpr
  intro digits found
  obtain ⟨-, after, equal⟩ := tagAt?_eq_some_iff.mp found
  exact other (List.cons.inj equal).1

theorem tags_cons_of_ne {character : Char} (other : character ≠ '[') (rest : List Char) :
    tags (character :: rest) = tags rest := by
  rw [tags, tagAt?_of_ne other, Option.toList_none, List.nil_append]

theorem tags_eq_nil_of_not_mem {text : List Char} (absent : '[' ∉ text) : tags text = [] := by
  induction text with
  | nil => rfl
  | cons character rest ih =>
      rw [List.mem_cons, not_or] at absent
      rw [tags_cons_of_ne (Ne.symm absent.1), ih absent.2]

theorem tags_tag {digits : List Char} (numbers : Numbers digits) {after : List Char}
    (plain : '[' ∉ after) : tags (tag digits ++ after) = [digits] := by
  have front := tagAt?_tag numbers after
  have later : '[' ∉ "Image #".toList ++ digits ++ [']'] ++ after := by
    have inside : '[' ∉ digits := by
      intro member
      exact absurd (numbers.2 _ member) (by decide)
    simp [inside, plain]
  have split : tag digits ++ after = '[' :: ("Image #".toList ++ digits ++ [']'] ++ after) := rfl
  rw [split] at front ⊢
  rw [tags, front, tags_eq_nil_of_not_mem later]
  rfl

/-- A tag at the front of two texts is the tag of the first one or reaches into the second. -/
theorem tagAt?_append_cases {text more digits : List Char}
    (found : tagAt? (text ++ more) = some digits) :
    tagAt? text = some digits ∨
      ∃ first reached, tag digits = text ++ first :: reached ∧ first :: reached <+: more := by
  obtain ⟨numbers, after, equal⟩ := tagAt?_eq_some_iff.mp found
  rcases List.append_eq_append_iff.mp equal with ⟨reached, split, rest⟩ | ⟨left, split, rest⟩
  · cases reached with
    | nil =>
        left
        rw [List.append_nil] at split
        rw [← split, ← List.append_nil (tag digits)]
        exact tagAt?_tag numbers []
    | cons first reached =>
        right
        exact ⟨first, reached, split, after, rest.symm⟩
  · left
    rw [split]
    exact tagAt?_tag numbers left

/-- A text has the tag at its front that it has with more behind it, unless that one reaches into
what is behind it. -/
theorem tagAt?_append_of_apart {text more : List Char}
    (apart : ∀ digits first reached, Numbers digits → tag digits = text ++ first :: reached →
      ¬first :: reached <+: more) :
    tagAt? (text ++ more) = tagAt? text := by
  apply Option.ext
  intro digits
  constructor
  · intro found
    rcases tagAt?_append_cases found with here | ⟨first, reached, split, inside⟩
    · exact here
    · exact absurd inside (apart digits first reached (tagAt?_eq_some_iff.mp found).1 split)
  · intro found
    exact tagAt?_append found more

/-- Characters that a tag has, if at all, only in front. -/
def Separates (character : Char) : Prop := ∀ digits, Numbers digits → character ∉ (tag digits).tail

theorem separates_of_not_isDecimal {character : Char} (word : character ∉ "Image #]".toList)
    (other : Text.isDecimal character = false) : Separates character := by
  intro digits numbers member
  have inside : character ∈ "Image #".toList ++ digits ++ [']'] := member
  simp only [List.mem_append, or_assoc] at inside
  rcases inside with front | digit | last
  · exact word (List.mem_append_left [']'] front)
  · exact absurd (numbers.2 _ digit) (by simp [other])
  · exact word (List.mem_append_right "Image #".toList last)

/-- The tag at the front of a text ends before a character that no tag has inside. -/
theorem tagAt?_append_cons {character : Char} (separates : Separates character) {text : List Char}
    (filled : text ≠ []) (more : List Char) :
    tagAt? (text ++ character :: more) = tagAt? text := by
  apply tagAt?_append_of_apart
  intro digits first reached numbers split inside
  apply separates digits numbers
  rw [split, (List.cons_prefix_cons.mp inside).1, List.tail_append_of_ne_nil filled]
  exact List.mem_append_right text.tail List.mem_cons_self

/-- A character that no tag has inside parts the tags of a text. -/
theorem tags_append_cons {character : Char} (separates : Separates character)
    (text more : List Char) :
    tags (text ++ character :: more) = tags text ++ tags (character :: more) := by
  induction text with
  | nil => rfl
  | cons first rest ih =>
      have same := tagAt?_append_cons separates (List.cons_ne_nil first rest) more
      rw [List.cons_append] at same
      rw [List.cons_append, tags, tags, same, ih, List.append_assoc]

/-- What has no bracket adds no tag. -/
theorem tags_append_of_not_mem {more : List Char} (unopened : '[' ∉ more) (unclosed : ']' ∉ more)
    (text : List Char) : tags (text ++ more) = tags text := by
  induction text with
  | nil => exact tags_eq_nil_of_not_mem unopened
  | cons first rest ih =>
      have same : tagAt? (first :: rest ++ more) = tagAt? (first :: rest) := by
        apply tagAt?_append_of_apart
        intro digits next reached numbers split inside
        apply unclosed
        apply inside.subset
        have last := congrArg List.getLast? split
        rw [tag, List.getLast?_concat,
          List.getLast?_append_of_ne_nil _ (List.cons_ne_nil _ _)] at last
        exact List.mem_of_getLast? last.symm
      rw [List.cons_append] at same
      rw [List.cons_append, tags, tags, same, ih]

/-! ## The tags of a marker -/

theorem numbers_toString (number : Nat) : Numbers (toString number).toList where
  left := Attachment.toList_toString_ne_nil number
  right _ member := Text.isDecimal_of_isDigit (Attachment.isDigit_of_mem_toString member)

/-- A marker has its own tag and those of the request that its id quotes. -/
theorem tags_text (number : Nat) (requestId : String) :
    tags (text number (Attachment.scopedId requestId number)).toList =
      (toString number).toList :: tags requestId.toList := by
  have digits : ∀ character ∈ (toString number).toList, character.isDigit := by
    intro character
    exact Attachment.isDigit_of_mem_toString
  have quote : Separates '"' := separates_of_not_isDecimal (by decide) (by decide)
  have spelled : (text number (Attachment.scopedId requestId number)).toList =
      (tag (toString number).toList ++ (" " ++ noteHead).toList) ++
        '"' :: ((requestId.toList ++ '#' :: (toString number).toList) ++
          '"' :: noteTail.toList) := by
    simp [text, Attachment.scopedId, tag, toList_opening]
  have front : tags (tag (toString number).toList ++ (" " ++ noteHead).toList) =
      [(toString number).toList] :=
    tags_tag (numbers_toString number) (by decide)
  have absent : ∀ bracket : Char, bracket ≠ '#' → bracket.isDigit = false →
      bracket ∉ '#' :: (toString number).toList := by
    intro bracket other noDigit member
    rcases List.mem_cons.mp member with sharp | digit
    · exact other sharp
    · exact absurd (digits bracket digit) (by simp [noDigit])
  have id : tags (requestId.toList ++ '#' :: (toString number).toList) = tags requestId.toList :=
    tags_append_of_not_mem (absent '[' (by decide) rfl) (absent ']' (by decide) rfl) _
  have tail : tags ('"' :: noteTail.toList) = [] := tags_eq_nil_of_not_mem (by decide)
  rw [spelled, tags_append_cons quote, front, tags_cons_of_ne (by decide), tags_append_cons quote,
    id, tail, List.append_nil]
  rfl

/-! ## Whole markers -/

/-- What a note says before the id that it quotes. -/
def noteFront : List Char :=
  (" This image was moved to an attachment. " ++
    "Call the lookup_attachment tool with image_id \"").toList

/-- What a note says behind the id. -/
def noteBack : List Char := "\" to view it.".toList

/-- What a marker says behind its tag, with the id that it quotes. -/
def note (id : List Char) : List Char := noteFront ++ id ++ noteBack

/-- What follows the note at the front of a text, if there is a whole one. -/
inductive SkipsNote : List Char → List Char → Prop
  | whole {id : List Char} (quoted : '"' ∉ id) (after : List Char) :
      SkipsNote (note id ++ after) after
  | none {text : List Char} (absent : ∀ id after, '"' ∉ id → text ≠ note id ++ after) :
      SkipsNote text text

/-- What follows the marker at the front of a text.  A marker is a tag with its note and with all
blanks behind. -/
inductive Skips : List Char → List Char → Prop
  | marker {digits noted blanks after : List Char} (numbers : Numbers digits)
      (skipped : SkipsNote noted (blanks ++ after))
      (blank : ∀ character ∈ blanks, Text.isBlank character = true)
      (all : ∀ character, after.head? = some character → Text.isBlank character = false) :
      Skips (tag digits ++ noted) after

theorem noteRest?_eq_some_iff {text after : List Char} :
    noteRest? text = some after ↔ ∃ id, '"' ∉ id ∧ text = note id ++ after := by
  have opens : (" " ++ noteHead ++ "\"").toList = noteFront := rfl
  have closes : ("\"" ++ noteTail).toList = noteBack := rfl
  constructor
  · intro found
    simp only [noteRest?, bind, Option.bind_eq_some_iff, opens, closes] at found
    obtain ⟨quoted, front, back⟩ := found
    refine ⟨quoted.takeWhile (· ≠ '"'), ?_, ?_⟩
    · intro member
      exact absurd (List.mem_takeWhile_imp member) (by decide)
    · rw [note, List.append_assoc, List.append_assoc, ← Text.eq_append_of_stripFront? back,
        List.takeWhile_append_dropWhile]
      exact Text.eq_append_of_stripFront? front
  · rintro ⟨id, quoted, rfl⟩
    have inside : ∀ character ∈ id, decide (character ≠ '"') = true := by
      intro character member
      exact decide_eq_true fun same => quoted (same ▸ member)
    have ends : (id ++ (noteBack ++ after)).dropWhile (· ≠ '"') = noteBack ++ after :=
      Text.dropWhile_append_cons inside rfl _
    simp only [noteRest?, note, opens, closes, List.append_assoc, Text.stripFront?_append, ends,
      Option.bind_eq_bind, Option.bind_some]

theorem skipsNote_iff {text after : List Char} :
    SkipsNote text after ↔ (noteRest? text).getD text = after := by
  constructor
  · intro skips
    cases skips with
    | whole quoted =>
        rw [noteRest?_eq_some_iff.mpr ⟨_, quoted, rfl⟩]
        rfl
    | none absent =>
        have missing : noteRest? text = .none := by
          apply Option.eq_none_iff_forall_ne_some.mpr
          intro after found
          obtain ⟨id, quoted, whole⟩ := noteRest?_eq_some_iff.mp found
          exact absent id after quoted whole
        rw [missing]
        rfl
  · rintro rfl
    cases found : noteRest? text with
    | some after =>
        obtain ⟨id, quoted, rfl⟩ := noteRest?_eq_some_iff.mp found
        exact .whole quoted after
    | none =>
        apply SkipsNote.none
        intro id after quoted whole
        rw [noteRest?_eq_some_iff.mpr ⟨id, quoted, whole⟩] at found
        cases found

theorem rest?_tag {digits : List Char} (numbers : Numbers digits) (noted : List Char) :
    rest? (tag digits ++ noted) =
      some (((noteRest? noted).getD noted).dropWhile Text.isBlank) := by
  have first : (digits ++ ']' :: noted).head?.any Text.isDecimal = true := by
    obtain ⟨digit, others, rfl⟩ := List.exists_cons_of_ne_nil numbers.1
    exact numbers.2 digit List.mem_cons_self
  have behind : (digits ++ ']' :: noted).dropWhile Text.isDecimal = ']' :: noted :=
    Text.dropWhile_append_cons numbers.2 not_isDecimal_close noted
  have spelled : tag digits ++ noted = opening.toList ++ (digits ++ ']' :: noted) := by
    simp [tag, toList_opening]
  simp only [rest?, spelled, Text.stripFront?_append, Option.bind_eq_bind, Option.bind_some, first,
    behind]

/-- A marker begins with a tag. -/
theorem rest?_eq_none_iff (text : List Char) : rest? text = none ↔ tagAt? text = none := by
  constructor
  · intro unmarked
    apply Option.eq_none_iff_forall_ne_some.mpr
    intro digits found
    obtain ⟨numbers, noted, rfl⟩ := tagAt?_eq_some_iff.mp found
    rw [rest?_tag numbers] at unmarked
    cases unmarked
  · intro untagged
    apply Option.eq_none_iff_forall_ne_some.mpr
    intro after found
    simp only [rest?, bind, Option.bind_eq_some_iff] at found
    obtain ⟨numbered, front, found⟩ := found
    split at found
    · rename_i noted digit closes
      have tagged : tagAt? text = some (numbered.takeWhile Text.isDecimal) := by
        have filled : numbered.takeWhile Text.isDecimal ≠ [] := by
          cases numbered with
          | nil => cases digit
          | cons first rest =>
              rw [List.head?_cons, Option.any_some] at digit
              rw [List.takeWhile_cons_of_pos digit]
              exact List.cons_ne_nil _ _
        have closed : (numbered.dropWhile Text.isDecimal).head? = some ']' := by rw [closes]; rfl
        simp only [tagAt?, ← toList_opening, front, Option.bind_eq_bind, Option.bind_some]
        exact if_pos ⟨filled, closed⟩
      rw [tagged] at untagged
      cases untagged
    · cases found

/-- Reading a marker off the front of a text leaves what follows it. -/
theorem rest?_eq_some_iff {marked after : List Char} :
    rest? marked = some after ↔ Skips marked after := by
  constructor
  · intro found
    cases tagged : tagAt? marked with
    | none =>
        rw [(rest?_eq_none_iff marked).mpr tagged] at found
        cases found
    | some digits =>
        obtain ⟨numbers, noted, rfl⟩ := tagAt?_eq_some_iff.mp tagged
        rw [rest?_tag numbers, Option.some.injEq] at found
        subst found
        have blanks := List.takeWhile_append_dropWhile (p := Text.isBlank)
          (l := (noteRest? noted).getD noted)
        refine .marker numbers (skipsNote_iff.mpr blanks.symm) ?_ ?_
        · exact fun _ member => List.mem_takeWhile_imp member
        · intro character head
          have outside := List.head?_dropWhile_not Text.isBlank ((noteRest? noted).getD noted)
          rw [head] at outside
          exact outside
  · intro skips
    cases skips with
    | marker numbers skipped blank all =>
        rw [rest?_tag numbers, skipsNote_iff.mp skipped, Text.dropWhile_append blank all]

/-! ## The stretches between markers -/

/-- The stretches of a text between its markers, from left to right. -/
inductive Cuts : List Char → List (List Char) → Prop
  | last {stretch : List Char} : tags stretch = [] → Cuts stretch [stretch]
  | marker {stretch marked after : List Char} {stretches : List (List Char)} :
      tags stretch = [] → Skips marked after → Cuts after stretches →
        Cuts (stretch ++ marked) (stretch :: stretches)

/-- A marker begins with its bracket. -/
theorem Skips.exists_cons {marked after : List Char} (skips : Skips marked after) :
    ∃ rest, marked = '[' :: rest := by
  cases skips with
  | @marker digits noted => exact ⟨"Image #".toList ++ digits ++ [']'] ++ noted, rfl⟩

theorem separates_open : Separates '[' := separates_of_not_isDecimal (by decide) (by decide)

theorem stripFrom_of_skips {marked after : List Char} (skips : Skips marked after)
    (kept : List Char) : stripFrom kept marked = stripFrom kept after := by
  have found := rest?_eq_some_iff.mpr skips
  cases marked with
  | nil => cases found
  | cons character rest =>
      rw [stripFrom]
      split <;> simp_all

/-- What has no tag is passed over until a marker begins. -/
theorem stripFrom_append_of_plain {stretch more : List Char} (plain : tags stretch = [])
    (begins : more = [] ∨ ∃ rest, more = '[' :: rest) (kept : List Char) :
    stripFrom kept (stretch ++ more) = stripFrom (stretch.reverse ++ kept) more := by
  induction stretch generalizing kept with
  | nil => rfl
  | cons character stretch ih =>
      rw [tags, List.append_eq_nil_iff, Option.toList_eq_nil_iff] at plain
      have same : tagAt? (character :: stretch ++ more) = tagAt? (character :: stretch) := by
        rcases begins with rfl | ⟨rest, rfl⟩
        · rw [List.append_nil]
        · exact tagAt?_append_cons separates_open (List.cons_ne_nil character stretch) rest
      have passes : rest? (character :: (stretch ++ more)) = none := by
        rw [rest?_eq_none_iff]
        exact same.trans plain.1
      calc stripFrom kept (character :: stretch ++ more)
        _ = stripFrom (character :: kept) (stretch ++ more) := by
            rw [List.cons_append, stripFrom]
            split <;> simp_all
        _ = stripFrom ((character :: stretch).reverse ++ kept) more := by
            rw [ih plain.2, List.reverse_cons, List.append_assoc, List.singleton_append]

/-- Taking the markers out of a text leaves what stands between them. -/
theorem stripFrom_of_cuts {marked : List Char} {stretches : List (List Char)}
    (cuts : Cuts marked stretches) (kept : List Char) :
    stripFrom kept marked = kept.reverse ++ stretches.flatten := by
  induction cuts generalizing kept with
  | @last stretch plain =>
      have passed := stripFrom_append_of_plain plain (.inl rfl) kept
      rw [List.append_nil] at passed
      rw [passed, stripFrom]
      simp
  | @marker stretch marked after stretches plain skips _ ih =>
      rw [stripFrom_append_of_plain plain (.inr skips.exists_cons), stripFrom_of_skips skips, ih]
      simp

/-- Every text is cut at its markers. -/
theorem exists_cuts (marked : List Char) : ∃ stretches, Cuts marked stretches := by
  cases marked with
  | nil => exact ⟨[[]], .last rfl⟩
  | cons character rest =>
      cases found : rest? (character :: rest) with
      | some after =>
          obtain ⟨stretches, cuts⟩ := exists_cuts after
          have front : Cuts ([] ++ character :: rest) ([] :: stretches) :=
            .marker rfl (rest?_eq_some_iff.mp found) cuts
          exact ⟨[] :: stretches, front⟩
      | none =>
          have unmarked := (rest?_eq_none_iff (character :: rest)).mp found
          obtain ⟨stretches, cuts⟩ := exists_cuts rest
          -- the character goes to the front of the first stretch
          cases cuts with
          | last plain =>
              refine ⟨[character :: rest], .last ?_⟩
              rw [tags, unmarked, plain]
              rfl
          | @marker stretch marked after stretches plain skips cuts =>
              have first : tagAt? (character :: stretch) = none := by
                apply Option.eq_none_iff_forall_ne_some.mpr
                intro digits some
                have longer := tagAt?_append some marked
                rw [List.cons_append, unmarked] at longer
                cases longer
              have unmarked : tags (character :: stretch) = [] := by
                rw [tags, first, plain]
                rfl
              exact ⟨(character :: stretch) :: stretches, .marker unmarked skips cuts⟩
termination_by marked.length
decreasing_by
  · simp
  · exact length_lt_of_rest? found

/-- What is left of a text are the stretches between its markers. -/
def Strips (words stripped : String) : Prop :=
  ∃ stretches, Cuts words.toList stretches ∧ stripped = String.ofList stretches.flatten

theorem strips_iff {words stripped : String} : Strips words stripped ↔ strip words = stripped := by
  constructor
  · rintro ⟨stretches, cuts, rfl⟩
    rw [strip, stripFrom_of_cuts cuts]
    rfl
  · rintro rfl
    obtain ⟨stretches, cuts⟩ := exists_cuts words.toList
    refine ⟨stretches, cuts, ?_⟩
    rw [strip, stripFrom_of_cuts cuts]
    rfl

/-- Whether the stretches between the markers of a text have a tag when they are put together. -/
def Mends (words : String) : Prop :=
  ∃ stretches, Cuts words.toList stretches ∧ tags stretches.flatten ≠ []

theorem tags_strip_eq_nil_iff (words : String) : tags (strip words).toList = [] ↔ ¬Mends words := by
  have stripped : ∀ stretches, Cuts words.toList stretches →
      (strip words).toList = stretches.flatten := by
    intro stretches cuts
    rw [strips_iff.mp ⟨stretches, cuts, rfl⟩, String.toList_ofList]
  constructor
  · rintro none ⟨stretches, cuts, some⟩
    exact some (stripped stretches cuts ▸ none)
  · intro whole
    obtain ⟨stretches, cuts⟩ := exists_cuts words.toList
    rw [stripped stretches cuts]
    by_contra some
    exact whole ⟨stretches, cuts, some⟩

end Marker

end ChatGateway
