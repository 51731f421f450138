import ChatGateway.Config.Environment
import Mathlib.Data.List.TakeWhile

/-!
# Values put into a text

A text can be read in one way only as references to variables and the characters around them, since
references never overlap.  What a text becomes depends on this reading alone: every reference gives
way to its value, which is not read again, and of the names without a value the first one in the
text is reported.
-/

namespace ChatGateway.Config

/-- A capital letter or a low line, and then capital letters, low lines and digits. -/
inductive IsName : List Char → Prop where
  | intro {first : Char} {rest : List Char} (starts : first.isUpper ∨ first = '_')
      (goesOn : ∀ character ∈ rest, character.isUpper ∨ character = '_' ∨ character.isDigit) :
      IsName (first :: rest)

namespace Segment

/-- A segment as it stands in the text. -/
def written : Segment → List Char
  | .text characters => characters
  | .reference name => '$' :: '\x7b' :: (name ++ ['\x7d'])

/-- The name that a segment refers to. -/
def name? : Segment → Option String
  | .text _ => none
  | .reference name => some (String.ofList name)

/-- What takes the place of a segment. -/
def value (environment : Dictionary String) : Segment → List Char
  | .text characters => characters
  | .reference name => ((Dictionary.get? (String.ofList name) environment).getD "").toList

end Segment

/-- Segments that make up a text.  Wherever a reference stands in the text, it is one of the
segments, at its place. -/
structure IsReading (segments : List Segment) (text : List Char) : Prop where
  whole : segments.flatMap Segment.written = text
  named : ∀ name, .reference name ∈ segments → IsName name
  complete : ∀ before name after, IsName name →
    text = before ++ (Segment.reference name).written ++ after →
      ∃ earlier later, segments = earlier ++ .reference name :: later ∧
        earlier.flatMap Segment.written = before

/-- The first name that has no value. -/
def firstUnset? (environment : Dictionary String) (segments : List Segment) : Option String :=
  (segments.filterMap Segment.name?).find? fun name => (Dictionary.get? name environment).isNone

/-- The segments with their values, or the first name that has none. -/
def substitute (environment : Dictionary String) (segments : List Segment) :
    Except LoadError (List Char) :=
  match firstUnset? environment segments with
  | some name => .error (.missingVariable name)
  | none => .ok (segments.flatMap (Segment.value environment))

/-! ## References -/

theorem inName_iff {character : Char} :
    inName character = true ↔ character.isUpper ∨ character = '_' ∨ character.isDigit := by
  simp [inName, startsName, or_assoc]

theorem IsName.inName {name : List Char} (named : IsName name) :
    ∀ character ∈ name, inName character = true := by
  obtain ⟨starts, goesOn⟩ := named
  intro character member
  apply inName_iff.mpr
  rcases List.mem_cons.mp member with rfl | member
  · exact starts.imp_right Or.inl
  · exact goesOn character member

theorem isName_iff {name : List Char} :
    IsName name ↔ name.head?.any startsName = true ∧ ∀ character ∈ name, inName character = true := by
  constructor
  · intro named
    refine ⟨?_, named.inName⟩
    obtain ⟨starts, -⟩ := named
    simpa [startsName] using starts
  · rintro ⟨starts, inside⟩
    cases name with
    | nil => cases starts
    | cons first rest =>
        apply IsName.intro
        · simpa [startsName] using starts
        · intro character member
          exact inName_iff.mp (inside character (.tail _ member))

/-- A reference at the front is found, and nothing else. -/
theorem reference?_eq_some_iff {text name after : List Char} :
    reference? text = some (name, after) ↔
      IsName name ∧ text = (Segment.reference name).written ++ after := by
  constructor
  · intro found
    unfold reference? at found
    split at found
    · rename_i rest
      dsimp only at found
      split at found
      · rename_i tail ends
        split at found
        · rename_i starts
          simp only [Option.some.injEq, Prod.mk.injEq] at found
          obtain ⟨rfl, rfl⟩ := found
          constructor
          · exact isName_iff.mpr ⟨starts, fun _ member => List.mem_takeWhile_imp member⟩
          · have whole := List.takeWhile_append_dropWhile (p := inName) (l := rest)
            rw [ends] at whole
            simp [Segment.written, whole]
        · cases found
      · cases found
    · cases found
  · rintro ⟨named, rfl⟩
    have inside := named.inName
    have closing : inName '\x7d' = false := by decide
    simp [Segment.written, reference?, List.takeWhile_append_of_pos inside,
      List.dropWhile_append_of_pos inside, closing, (isName_iff.mp named).1]

/-- No reference begins within another one. -/
theorem eq_append_of_written {name other before rest after : List Char} (named : IsName name)
    (whole : (Segment.reference name).written ++ rest =
      before ++ (Segment.reference other).written ++ after) :
    before = [] ∨ ∃ middle, before = (Segment.reference name).written ++ middle ∧
      rest = middle ++ (Segment.reference other).written ++ after := by
  have noDollar : '$' ∉ '\x7b' :: (name ++ ['\x7d']) := by
    have outside : '$' ∉ name := fun member => absurd (named.inName _ member) (by decide)
    simpa using outside
  rw [List.append_assoc] at whole
  rcases List.append_eq_append_iff.mp whole with ⟨middle, longer, split⟩ | ⟨inner, split, next⟩
  · exact .inr ⟨middle, longer, by rw [split, List.append_assoc]⟩
  · cases before with
    | nil => exact .inl rfl
    | cons first before =>
        right
        cases inner with
        | nil => exact ⟨[], by rw [split, List.append_nil, List.append_nil], by simpa using next.symm⟩
        | cons dollar inner =>
            obtain ⟨rfl, -⟩ := List.cons.inj next
            obtain ⟨-, tail⟩ := List.cons.inj split
            exact absurd (by rw [tail]; simp) noDollar

/-! ## Segments -/

/-- Puts a character in front of segments. -/
def lead (character : Char) : List Segment → List Segment
  | .text characters :: others => .text (character :: characters) :: others
  | others => .text [character] :: others

theorem segments_of_reference {text name after : List Char}
    (found : reference? text = some (name, after)) :
    segments text = .reference name :: segments after := by
  cases text with
  | nil => cases found
  | cons character rest =>
      rw [segments]
      split
      · rename_i other later equal
        rw [found] at equal
        cases equal
        rfl
      · rename_i equal
        rw [found] at equal
        cases equal

theorem segments_of_none {character : Char} {rest : List Char}
    (missing : reference? (character :: rest) = none) :
    segments (character :: rest) = lead character (segments rest) := by
  rw [segments]
  split
  · rename_i equal
    rw [missing] at equal
    cases equal
  · rfl

theorem flatMap_written_lead (character : Char) (segments : List Segment) :
    (lead character segments).flatMap Segment.written =
      character :: segments.flatMap Segment.written := by
  fun_cases lead character segments <;> simp [Segment.written]

theorem mem_of_mem_lead {character : Char} {segments : List Segment} {name : List Char}
    (member : .reference name ∈ lead character segments) : .reference name ∈ segments := by
  fun_cases lead character segments <;> simpa [lead] using member

/-- What stands before a reference is led in the same way. -/
theorem exists_lead_append (character : Char) (earlier : List Segment) (name : List Char)
    (later : List Segment) :
    ∃ front, lead character (earlier ++ .reference name :: later) =
        front ++ .reference name :: later ∧
      front.flatMap Segment.written = character :: earlier.flatMap Segment.written := by
  refine ⟨lead character earlier, ?_, flatMap_written_lead character earlier⟩
  cases earlier with
  | nil => rfl
  | cons segment rest => cases segment <;> rfl

theorem IsReading.reference {segments : List Segment} {text name after : List Char}
    (reads : IsReading segments after) (found : reference? text = some (name, after)) :
    IsReading (.reference name :: segments) text := by
  obtain ⟨isName, rfl⟩ := reference?_eq_some_iff.mp found
  refine ⟨by rw [List.flatMap_cons, reads.whole], ?_, ?_⟩
  · intro other member
    rcases List.mem_cons.mp member with same | member
    · cases same
      exact isName
    · exact reads.named other member
  · intro before other rest named whole
    rcases eq_append_of_written isName whole with rfl | ⟨middle, rfl, split⟩
    · have again := reference?_eq_some_iff.mpr ⟨named, whole⟩
      rw [found] at again
      cases again
      exact ⟨[], segments, rfl, rfl⟩
    · obtain ⟨earlier, later, rfl, rfl⟩ := reads.complete middle other rest named split
      exact ⟨.reference name :: earlier, later, rfl, rfl⟩

theorem IsReading.lead {segments : List Segment} {character : Char} {rest : List Char}
    (reads : IsReading segments rest) (missing : reference? (character :: rest) = none) :
    IsReading (lead character segments) (character :: rest) := by
  refine ⟨by rw [flatMap_written_lead, reads.whole], ?_, ?_⟩
  · intro name member
    exact reads.named name (mem_of_mem_lead member)
  · intro before name after named whole
    cases before with
    | nil =>
        rw [reference?_eq_some_iff.mpr ⟨named, whole⟩] at missing
        cases missing
    | cons first before =>
        obtain ⟨rfl, split⟩ := List.cons.inj whole
        obtain ⟨earlier, later, rfl, rfl⟩ := reads.complete before name after named split
        obtain ⟨front, led, same⟩ := exists_lead_append character earlier name later
        exact ⟨front, later, led, same⟩

/-- The segments of a text are a reading of it. -/
theorem isReading_segments (text : List Char) : IsReading (segments text) text := by
  induction text using segments.induct with
  | case1 =>
      rw [segments]
      refine ⟨rfl, nofun, ?_⟩
      intro before name after named whole
      simp [Segment.written] at whole
  | case2 character rest name after found ih =>
      rw [segments_of_reference found]
      exact ih.reference found
  | case3 character rest missing characters others equal ih
  | case4 character rest missing others ih =>
      rw [segments_of_none missing]
      exact ih.lead missing

/-! ## Other readings -/

theorem IsReading.tail {segment : Segment} {rest : List Segment} {text : List Char}
    (reads : IsReading (segment :: rest) text) :
    IsReading rest (rest.flatMap Segment.written) := by
  refine ⟨rfl, fun name member => reads.named name (.tail _ member), ?_⟩
  intro before name after named split
  have whole := reads.whole
  rw [List.flatMap_cons, split, ← List.append_assoc, ← List.append_assoc] at whole
  obtain ⟨earlier, later, equal, same⟩ := reads.complete _ name after named whole.symm
  cases earlier with
  | nil =>
      obtain ⟨rfl, -⟩ := List.cons.inj equal
      simp [Segment.written] at same
  | cons head earlier =>
      obtain ⟨rfl, rfl⟩ := List.cons.inj equal
      exact ⟨earlier, later, rfl, List.append_cancel_left same⟩

theorem IsReading.tail_character {character : Char} {characters : List Char} {rest : List Segment}
    {text : List Char} (reads : IsReading (.text (character :: characters) :: rest) text) :
    IsReading (.text characters :: rest) (characters ++ rest.flatMap Segment.written) := by
  refine ⟨rfl, fun name member => reads.named name (by simpa using member), ?_⟩
  intro before name after named split
  have whole : text = (character :: before) ++ (Segment.reference name).written ++ after := by
    rw [← reads.whole, List.flatMap_cons, List.cons_append, List.cons_append, ← split]
    rfl
  obtain ⟨earlier, later, equal, same⟩ := reads.complete _ name after named whole
  cases earlier with
  | nil => cases (List.cons.inj equal).1
  | cons head earlier =>
      obtain ⟨rfl, rfl⟩ := List.cons.inj equal
      exact ⟨.text characters :: earlier, later, rfl, (List.cons.inj same).2⟩

/-- A text that is read as beginning with a character has no reference at its front. -/
theorem IsReading.reference?_eq_none {character : Char} {characters : List Char}
    {rest : List Segment} {text : List Char}
    (reads : IsReading (.text (character :: characters) :: rest) text) :
    reference? text = none := by
  cases found : reference? text with
  | none => rfl
  | some parts =>
      obtain ⟨name, after⟩ := parts
      obtain ⟨named, whole⟩ := reference?_eq_some_iff.mp found
      obtain ⟨earlier, later, equal, same⟩ := reads.complete [] name after named whole
      cases earlier with
      | nil => cases (List.cons.inj equal).1
      | cons head earlier =>
          obtain ⟨rfl, -⟩ := List.cons.inj equal
          cases same

theorem fill_lead (environment : Dictionary String) (character : Char) (segments : List Segment) :
    fill environment (lead character segments) =
      (fill environment segments).map (character :: ·) := by
  fun_cases lead character segments with
  | case1 characters others =>
      rw [fill, fill]
      cases fill environment others <;> rfl
  | case2 => rfl

/-- Whichever way a text is read, it becomes the same. -/
theorem IsReading.fill_segments {segments : List Segment} {text : List Char}
    (reads : IsReading segments text) (environment : Dictionary String) :
    fill environment (Config.segments text) = fill environment segments := by
  induction segments generalizing text with
  | nil =>
      cases reads.whole
      rw [List.flatMap_nil, Config.segments]
  | cons segment rest ih =>
      have others := ih reads.tail
      cases segment with
      | reference name =>
          have found : reference? text = some (name, rest.flatMap Segment.written) :=
            reference?_eq_some_iff.mpr ⟨reads.named name List.mem_cons_self, reads.whole.symm⟩
          rw [segments_of_reference found, fill, fill, others]
      | text characters =>
          clear ih
          induction characters generalizing text with
          | nil =>
              cases reads.whole
              rw [List.flatMap_cons, fill]
              refine others.trans ?_
              cases fill environment rest <;> rfl
          | cons character characters ih =>
              have missing := reads.reference?_eq_none
              have whole : character :: (characters ++ rest.flatMap Segment.written) = text :=
                reads.whole
              subst whole
              rw [segments_of_none missing, fill_lead, ih reads.tail_character, fill, fill]
              cases fill environment rest <;> rfl

theorem firstUnset?_reference (environment : Dictionary String) (name : List Char)
    (rest : List Segment) :
    firstUnset? environment (.reference name :: rest) =
      if (Dictionary.get? (String.ofList name) environment).isNone then some (String.ofList name)
      else firstUnset? environment rest := by
  change List.find? _ (String.ofList name :: rest.filterMap Segment.name?) = _
  rw [List.find?_cons]
  cases (Dictionary.get? (String.ofList name) environment).isNone <;> rfl

theorem fill_eq_substitute (environment : Dictionary String) (segments : List Segment) :
    fill environment segments = substitute environment segments := by
  induction segments with
  | nil => rfl
  | cons segment rest ih =>
      cases segment with
      | text characters =>
          have same : firstUnset? environment (.text characters :: rest) =
              firstUnset? environment rest := rfl
          rw [fill, ih, substitute, substitute, same]
          cases firstUnset? environment rest <;> rfl
      | reference name =>
          rw [fill, ih, substitute, substitute, firstUnset?_reference, List.flatMap_cons,
            Segment.value]
          cases Dictionary.get? (String.ofList name) environment with
          | none => rfl
          | some value => cases firstUnset? environment rest <;> rfl

/-- A text can be read, and whichever way it is, each reference gives way to its value, or the first
name without a value is reported. -/
theorem interpolate_eq_substitute (environment : Dictionary String) (text : String) :
    (∃ segments, IsReading segments text.toList) ∧
      ∀ segments, IsReading segments text.toList →
        interpolate environment text = (substitute environment segments).map String.ofList := by
  refine ⟨⟨_, isReading_segments text.toList⟩, ?_⟩
  intro segments reads
  rw [interpolate, reads.fill_segments, fill_eq_substitute]

/-- A dollar before a reference, a name in small letters and a reference that is not closed are
characters like others, and so is what looks like a reference in a value. -/
theorem interpolate_eq_substitute_near_misses :
    let environment : Dictionary String := [("B_2", "$1"), ("HOST", "$\x7bB_2\x7d")]
    let text := "$$\x7bHOST\x7d/$\x7bhost\x7d$\x7bHOST$\x7bB_2\x7d\x7d"
    let segments : List Segment :=
      [.text "$".toList, .reference "HOST".toList, .text "/$\x7bhost\x7d$\x7bHOST".toList,
        .reference "B_2".toList, .text "\x7d".toList]
    IsReading segments text.toList ∧
      interpolate environment text = .ok "$$\x7bB_2\x7d/$\x7bhost\x7d$\x7bHOST$1\x7d" ∧
      interpolate [] text = .error (.missingVariable "HOST") := by
  intro environment text segments
  have same : Config.segments text.toList = segments := by decide +kernel
  have reads : IsReading segments text.toList := same ▸ isReading_segments text.toList
  refine ⟨reads, ?_, ?_⟩
  · exact ((interpolate_eq_substitute environment text).2 segments reads).trans (by decide +kernel)
  · exact ((interpolate_eq_substitute [] text).2 segments reads).trans (by decide +kernel)

end ChatGateway.Config
