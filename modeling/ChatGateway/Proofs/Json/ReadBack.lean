import ChatGateway.Proofs.Json.Hereditary
import ChatGateway.Proofs.Json.Printed

/-!
# Reading printed text back

The reader builds a value again from its tokens, if it is not nested too deeply; and whatever it
builds from some text is not.  So a value that was read from a text can be printed and read again,
and nothing is lost.
-/

namespace ChatGateway.Json

/-! ## Reading the tokens of a value -/

/-- The reader waits for a value. -/
inductive Expect.StartsValue : Expect → Prop where
  | value : StartsValue .value
  | itemOrClose : StartsValue .itemOrClose

/-- The reader waits for the name of a field. -/
inductive Expect.StartsField : Expect → Prop where
  | name : StartsField .name
  | nameOrClose : StartsField .nameOrClose

/-- The tokens are read as a value, wherever one is waited for and so many levels may be opened. -/
def ReadsAs (tokens : List Token) (value : Json) (room : Nat) : Prop :=
  ∀ (levels : List (Level × Option String)) (expect : Expect), expect.StartsValue →
    levels.length + room ≤ depthLimit →
    tokens.foldlM Reader.step ⟨levels, expect⟩ = Reader.accept levels value

theorem readsAs_scalar (value : Json) (room : Nat) : ReadsAs [.scalar value] value room := by
  intro levels expect starts _
  rw [List.foldlM_cons]
  cases starts <;> exact bind_pure _

theorem enter_of_length_lt {levels : List (Level × Option String)}
    (room : levels.length < depthLimit) (level : Level) (expect : Expect) :
    Reader.enter levels level expect = some ⟨(level, none) :: levels, expect⟩ :=
  if_pos room

section Inside

variable {room : Nat} {levels : List (Level × Option String)}

theorem foldlM_itemTokens {items : List Json}
    (each : ∀ item ∈ items, ReadsAs item.tokens item room) (filled : items ≠ [])
    (enough : levels.length + 1 + room ≤ depthLimit) {expect : Expect} (starts : expect.StartsValue)
    (before : List Json) :
    (itemTokens items).foldlM Reader.step ⟨(.array before, none) :: levels, expect⟩ =
      some ⟨(.array (items.reverse ++ before), none) :: levels, .commaOrClose⟩ := by
  induction items generalizing expect before with
  | nil => exact absurd rfl filled
  | cons item rest ih =>
      have first : item.tokens.foldlM Reader.step ⟨(.array before, none) :: levels, expect⟩ =
          some ⟨(.array (item :: before), none) :: levels, .commaOrClose⟩ :=
        each item List.mem_cons_self _ _ starts enough
      cases rest with
      | nil => exact first
      | cons second rest =>
          have others := ih (fun other member => each other (.tail _ member))
            (List.cons_ne_nil second rest) .value (item :: before)
          change (item.tokens ++ .comma :: itemTokens (second :: rest)).foldlM Reader.step _ = _
          rw [List.foldlM_append, first, Option.bind_eq_bind, Option.bind_some,
            List.foldlM_cons]
          simp only [Reader.step, Option.bind_eq_bind, Option.bind_some]
          rw [others, List.reverse_cons (a := item), List.append_assoc, List.singleton_append]

theorem foldlM_fieldTokens {fields : List (String × Json)}
    (each : ∀ field ∈ fields, ReadsAs field.2.tokens field.2 room) (filled : fields ≠ [])
    (enough : levels.length + 1 + room ≤ depthLimit) {expect : Expect} (starts : expect.StartsField)
    (before : List (String × Json)) :
    (fieldTokens fields).foldlM Reader.step ⟨(.object before, none) :: levels, expect⟩ =
      some ⟨(.object (fields.reverse ++ before), none) :: levels, .commaOrClose⟩ := by
  induction fields generalizing expect before with
  | nil => exact absurd rfl filled
  | cons field rest ih =>
      obtain ⟨name, value⟩ := field
      have first : (.scalar (.string name) :: .colon :: value.tokens).foldlM Reader.step
          ⟨(.object before, none) :: levels, expect⟩ =
            some ⟨(.object ((name, value) :: before), none) :: levels, .commaOrClose⟩ := by
        have inside : value.tokens.foldlM Reader.step
            ⟨(.object before, some name) :: levels, .value⟩ =
              some ⟨(.object ((name, value) :: before), none) :: levels, .commaOrClose⟩ :=
          each (name, value) List.mem_cons_self _ _ .value enough
        cases starts <;> exact inside
      cases rest with
      | nil => exact first
      | cons second rest =>
          have others := ih (fun other member => each other (.tail _ member))
            (List.cons_ne_nil second rest) .name ((name, value) :: before)
          change (.scalar (.string name) :: .colon :: value.tokens ++
            .comma :: fieldTokens (second :: rest)).foldlM Reader.step _ = _
          rw [List.foldlM_append, first, Option.bind_eq_bind, Option.bind_some,
            List.foldlM_cons]
          simp only [Reader.step, Option.bind_eq_bind, Option.bind_some]
          rw [others, List.reverse_cons (a := (name, value)), List.append_assoc,
            List.singleton_append]

end Inside

/-- A value is built again from its tokens. -/
theorem IsLegible.readsAs {room : Nat} {value : Json} (legible : value.IsLegible room) :
    ReadsAs value.tokens value room := by
  induction legible with
  | null room => exact readsAs_scalar _ room
  | bool room value => exact readsAs_scalar _ room
  | number room inside => exact readsAs_scalar _ room
  | string room text => exact readsAs_scalar _ room
  | @array room items _ ih =>
      intro levels expect starts enough
      have less : levels.length < depthLimit := by omega
      have opened : Reader.step ⟨levels, expect⟩ .openArray =
          some ⟨(.array [], none) :: levels, .itemOrClose⟩ := by
        cases starts <;> exact enter_of_length_lt less _ _
      rw [tokens, List.cons_append, List.foldlM_cons, opened, Option.bind_eq_bind, Option.bind_some,
        List.foldlM_append]
      cases items with
      | nil => exact bind_pure (Reader.accept levels (.array []))
      | cons first rest =>
          rw [foldlM_itemTokens ih (List.cons_ne_nil first rest) (by omega) .itemOrClose,
            Option.bind_eq_bind, Option.bind_some, List.foldlM_cons]
          simp only [Reader.step, Reader.close, List.append_nil, List.reverse_reverse]
          exact bind_pure _
  | @object room fields _ ih =>
      intro levels expect starts enough
      have less : levels.length < depthLimit := by omega
      have opened : Reader.step ⟨levels, expect⟩ .openObject =
          some ⟨(.object [], none) :: levels, .nameOrClose⟩ := by
        cases starts <;> exact enter_of_length_lt less _ _
      rw [tokens, List.cons_append, List.foldlM_cons, opened, Option.bind_eq_bind, Option.bind_some,
        List.foldlM_append]
      cases fields with
      | nil => exact bind_pure (Reader.accept levels (.object []))
      | cons first rest =>
          rw [foldlM_fieldTokens ih (List.cons_ne_nil first rest) (by omega) .nameOrClose,
            Option.bind_eq_bind, Option.bind_some, List.foldlM_cons]
          simp only [Reader.step, Reader.close, List.append_nil, List.reverse_reverse]
          exact bind_pure _

/-- A value that a text can stand for is read from what is printed for it. -/
theorem parseVerbatim?_render {value : Json} (legible : value.IsLegible depthLimit) :
    parseVerbatim? value.render = some value := by
  have cut := legible.lexes [] (by rintro next ⟨⟩)
  have built := legible.readsAs [] .value .value (Nat.zero_add depthLimit).le
  rw [List.append_nil] at cut
  rw [parseVerbatim?, render, String.toList_ofList, cut]
  simp [lex, lexEnd, built, Reader.accept]

/-! ## What is read from a text -/

/-- A token carries no number that a text cannot stand for, and no array or object. -/
def Token.IsLegible (token : Token) : Prop :=
  ∀ value, token = .scalar value → ∀ room, value.IsLegible room

theorem isLegible_of_word? {text : List Char} {value : Json} (read : word? text = some value)
    (room : Nat) : value.IsLegible room := by
  rw [word?] at read
  split at read
  · cases read
    exact .null room
  · split at read
    · cases read
      exact .bool room true
    · split at read
      · cases read
        exact .bool room false
      · obtain ⟨number, inside, rfl⟩ := Option.map_eq_some_iff.mp read
        exact .number room (isLegible_of_number? inside)

/-- Between words no token carries a value. -/
theorem isLegible_of_lexBetween {character : Char} {tokens : List Token} {next : Lexer}
    (step : lexBetween character = some (tokens, next)) : ∀ token ∈ tokens, token.IsLegible := by
  have mark (token : Token) (empty : ∀ value, token ≠ .scalar value) :
      ∀ other ∈ [token], other.IsLegible := by
    rintro other member value scalar
    exact absurd (List.mem_singleton.mp member ▸ scalar) (empty value)
  have none : ∀ other ∈ ([] : List Token), other.IsLegible := by simp
  rw [lexBetween] at step
  split_ifs at step <;> cases step
  · exact none
  · exact none
  all_goals first | exact none | exact mark _ (by simp)

/-- A step of the automaton completes legible tokens only. -/
theorem isLegible_of_lexStep {state next : Lexer} {character : Char} {tokens : List Token}
    (step : lexStep state character = some (tokens, next)) : ∀ token ∈ tokens, token.IsLegible := by
  have none : ∀ other ∈ ([] : List Token), other.IsLegible := by simp
  cases state with
  | between => exact isLegible_of_lexBetween step
  | word read =>
      rw [lexStep] at step
      split at step
      · cases step
        exact none
      · simp only [Option.bind_eq_bind, Option.bind_eq_some_iff] at step
        obtain ⟨value, meaning, ⟨between, after⟩, stepped, made⟩ := step
        cases made
        refine List.forall_mem_cons.mpr ⟨?_, isLegible_of_lexBetween stepped⟩
        rintro _ ⟨⟩
        exact isLegible_of_word? meaning
  | string read =>
      rw [lexStep] at step
      split_ifs at step <;> cases step
      · rintro token member
        cases List.mem_singleton.mp member
        rintro _ ⟨⟩ room
        exact .string room _
      · exact none
      · exact none
  | escape read =>
      rw [lexStep] at step
      split at step
      · cases step
        exact none
      · obtain ⟨value, -, made⟩ := Option.map_eq_some_iff.mp step
        cases made
        exact none
  | unicode read high count value =>
      simp only [lexStep, Option.bind_eq_bind, Option.bind_eq_some_iff] at step
      obtain ⟨digit, -, step⟩ := step
      split at step
      · cases step
        exact none
      · obtain ⟨after, -, made⟩ := Option.map_eq_some_iff.mp step
        cases made
        exact none
  | surrogate read high marked =>
      cases marked <;>
      · simp only [lexStep, Option.ite_none_right_eq_some] at step
        cases step.2
        exact none

theorem isLegible_of_lex {state : Lexer} {text : List Char} {tokens : List Token}
    (cut : lex state text = some tokens) : ∀ token ∈ tokens, token.IsLegible := by
  induction text generalizing state tokens with
  | nil =>
      rw [lex] at cut
      cases state with
      | between =>
          cases cut
          simp
      | word read =>
          obtain ⟨value, meaning, rfl⟩ := Option.map_eq_some_iff.mp cut
          rintro token member
          cases List.mem_singleton.mp member
          rintro _ ⟨⟩
          exact isLegible_of_word? meaning
      | string | escape | unicode | surrogate => cases cut
  | cons character rest ih =>
      rw [lex_cons, Option.bind_eq_some_iff] at cut
      obtain ⟨step, stepped, cut⟩ := cut
      obtain ⟨more, others, rfl⟩ := Option.map_eq_some_iff.mp cut
      exact List.forall_mem_append.mpr ⟨isLegible_of_lexStep stepped, ih others⟩

/-- What a level holds so far is legible. -/
def Level.IsLegible (room : Nat) : Level → Prop
  | .array items => ∀ item ∈ items, item.IsLegible room
  | .object fields => ∀ field ∈ fields, field.2.IsLegible room

/-- No more levels are open than may be, and each holds values for which there is room. -/
inductive LevelsFit : List (Level × Option String) → Prop where
  | nil : LevelsFit []
  | cons {level : Level} (name : Option String) {levels : List (Level × Option String)}
      {room : Nat} (enough : levels.length + room + 1 = depthLimit) (legible : level.IsLegible room)
      (fit : LevelsFit levels) : LevelsFit ((level, name) :: levels)

/-- Everything that the reader holds is legible. -/
structure Reader.IsLegible (reader : Reader) : Prop where
  fit : LevelsFit reader.levels
  done : ∀ value, reader.expect = .done value → value.IsLegible depthLimit

theorem isLegible_of_accept {levels : List (Level × Option String)} {value : Json} {room : Nat}
    (fit : LevelsFit levels) (enough : levels.length + room = depthLimit)
    (legible : value.IsLegible room) {next : Reader}
    (step : Reader.accept levels value = some next) : next.IsLegible := by
  cases fit with
  | nil =>
      cases step
      refine ⟨.nil, ?_⟩
      rintro _ ⟨⟩
      exact legible.mono (by simpa using enough.le)
  | @cons level name levels inner within inside fit =>
      have same : inner = room := by
        rw [List.length_cons] at enough
        omega
      subst same
      cases level with
      | array items =>
          cases step
          exact ⟨.cons none within (List.forall_mem_cons.mpr ⟨legible, inside⟩) fit,
            by rintro _ ⟨⟩⟩
      | object fields =>
          cases name with
          | none => cases step
          | some name =>
              cases step
              exact ⟨.cons none within (List.forall_mem_cons.mpr ⟨legible, inside⟩) fit,
                by rintro _ ⟨⟩⟩

theorem LevelsFit.length_le {levels : List (Level × Option String)} (fit : LevelsFit levels) :
    levels.length ≤ depthLimit := by
  cases fit with
  | nil => exact Nat.zero_le depthLimit
  | cons name enough legible fit =>
      rw [List.length_cons]
      omega

theorem isLegible_of_enter {levels : List (Level × Option String)} (fit : LevelsFit levels)
    {level : Level} (empty : ∀ room, level.IsLegible room) {expect : Expect}
    (waits : ∀ value, expect ≠ .done value) {next : Reader}
    (step : Reader.enter levels level expect = some next) : next.IsLegible := by
  rw [Reader.enter, Option.ite_none_right_eq_some] at step
  obtain ⟨less, made⟩ := step
  cases made
  have enough : levels.length + (depthLimit - levels.length - 1) + 1 = depthLimit := by omega
  exact ⟨.cons none enough (empty _) fit, fun value done => absurd done (waits value)⟩

theorem isLegible_of_start {levels : List (Level × Option String)} (fit : LevelsFit levels)
    {token : Token} (legible : token.IsLegible) {next : Reader}
    (step : Reader.start levels token = some next) : next.IsLegible := by
  cases token with
  | scalar value =>
      exact isLegible_of_accept fit (Nat.add_sub_of_le fit.length_le) (legible value rfl _) step
  | openArray =>
      have empty (room : Nat) : (Level.array []).IsLegible room := nofun
      exact isLegible_of_enter fit empty (by simp) step
  | openObject =>
      have empty (room : Nat) : (Level.object []).IsLegible room := nofun
      exact isLegible_of_enter fit empty (by simp) step
  | closeArray | closeObject | comma | colon => cases step

theorem isLegible_of_close {levels : List (Level × Option String)} (fit : LevelsFit levels)
    {token : Token} {next : Reader} (step : Reader.close levels token = some next) :
    next.IsLegible := by
  cases token with
  | closeArray =>
      cases fit with
      | nil => cases step
      | @cons level name levels room enough inside fit =>
          cases level with
          | array items =>
              have legible : (Json.array items.reverse).IsLegible (room + 1) :=
                .array fun item member => inside item (List.mem_reverse.mp member)
              exact isLegible_of_accept fit enough legible step
          | object fields => cases step
  | closeObject =>
      cases fit with
      | nil => cases step
      | @cons level name levels room enough inside fit =>
          cases level with
          | array items => cases step
          | object fields =>
              have legible : (Json.object fields.reverse).IsLegible (room + 1) :=
                .object fun field member => inside field (List.mem_reverse.mp member)
              exact isLegible_of_accept fit enough legible step
  | openArray | openObject | comma | colon | scalar => cases step

/-- A step of the reader keeps everything legible. -/
theorem Reader.IsLegible.step {reader next : Reader} (legible : reader.IsLegible) {token : Token}
    (legibleToo : token.IsLegible) (step : reader.step token = some next) : next.IsLegible := by
  obtain ⟨levels, expect⟩ := reader
  have fit : LevelsFit levels := legible.fit
  unfold Reader.step at step
  cases expect with
  | value => exact isLegible_of_start fit legibleToo step
  | itemOrClose =>
      dsimp only at step
      split at step
      · exact isLegible_of_close fit step
      · exact isLegible_of_start fit legibleToo step
  | nameOrClose =>
      dsimp only at step
      split at step
      · cases step
        exact ⟨fit, by rintro _ ⟨⟩⟩
      · exact isLegible_of_close fit step
  | name =>
      dsimp only at step
      split at step
      · cases step
        exact ⟨fit, by rintro _ ⟨⟩⟩
      · cases step
  | colon name =>
      dsimp only at step
      split at step
      · cases step
        cases fit with
        | cons _ enough inside fit => exact ⟨.cons _ enough inside fit, by rintro _ ⟨⟩⟩
      · cases step
  | commaOrClose =>
      dsimp only at step
      split at step
      · cases step
        exact ⟨fit, by rintro _ ⟨⟩⟩
      · cases step
        exact ⟨fit, by rintro _ ⟨⟩⟩
      · exact isLegible_of_close fit step
  | done value => cases step

theorem Reader.IsLegible.run {reader final : Reader} (legible : reader.IsLegible)
    {tokens : List Token} (legibleToo : ∀ token ∈ tokens, token.IsLegible)
    (run : tokens.foldlM Reader.step reader = some final) : final.IsLegible := by
  induction tokens generalizing reader with
  | nil =>
      cases run
      exact legible
  | cons token rest ih =>
      rw [List.foldlM_cons, Option.bind_eq_bind, Option.bind_eq_some_iff] at run
      obtain ⟨next, step, run⟩ := run
      exact ih (legible.step (legibleToo token List.mem_cons_self) step)
        (fun other member => legibleToo other (.tail _ member)) run

/-- What is read from a text can be read from a text again. -/
theorem isLegible_of_parse? {text : String} {value : Json} (parsed : parse? text = some value) :
    value.IsLegible depthLimit := by
  obtain ⟨verbatim, read, rfl⟩ := Option.map_eq_some_iff.mp parsed
  simp only [parseVerbatim?, Option.bind_eq_bind, Option.bind_eq_some_iff] at read
  obtain ⟨tokens, cut, reader, run, read⟩ := read
  have start : Reader.IsLegible ⟨[], .value⟩ := ⟨.nil, by rintro _ ⟨⟩⟩
  have final := start.run (isLegible_of_lex cut) run
  split at read
  · rename_i done
    cases read
    exact (final.done verbatim done).normalize
  · cases read

/-- A value that some text stands for: it is normal, and can be read from a text. -/
structure IsReadable (value : Json) : Prop where
  normal : value.IsNormal
  legible : value.IsLegible depthLimit

theorem isReadable_of_parse? {text : String} {value : Json} (parsed : parse? text = some value) :
    value.IsReadable :=
  ⟨isNormal_of_parse? parsed, isLegible_of_parse? parsed⟩

/-- A readable value is read from what is printed for it. -/
theorem IsReadable.parse?_render {value : Json} (readable : value.IsReadable) :
    parse? value.render = some value := by
  rw [parse?, parseVerbatim?_render readable.legible, Option.map_some, readable.normal.normalize]

theorem isReadable_null : Json.null.IsReadable := ⟨.null, .null depthLimit⟩

theorem isReadable_emptyObject : (Json.object []).IsReadable :=
  ⟨.object .nil nofun, .object nofun⟩

/-- What is inside a readable value is readable. -/
theorem hereditary_isReadable : Hereditary IsReadable where
  item readable := by
    obtain ⟨normal, legible⟩ := readable
    cases normal with
    | array normal =>
        cases legible with
        | array legible =>
            exact fun item member => ⟨normal item member, (legible item member).mono (by decide)⟩
  field readable := by
    obtain ⟨normal, legible⟩ := readable
    cases normal with
    | object sorted normal =>
        cases legible with
        | object legible =>
            exact fun field member => ⟨normal field member, (legible field member).mono (by decide)⟩

end ChatGateway.Json
