import ChatGateway.Proofs.Json.Printed

/-!
# The strings in a value

The strings of a value and the names of its fields are all that is quoted in its text.  They can be
changed without a change of anything else, and sorting the fields of a value may lose strings, but
adds none: it leaves no more letters than there are.
-/

namespace ChatGateway

/-! ## Weights of dictionaries -/

namespace Dictionary

variable {α : Type} (weigh : String × α → Nat)

/-- An insertion adds no more than the weight of its entry. -/
theorem sum_map_insert_le (key : String) (value : α) (entries : Dictionary α) :
    ((insert key value entries).map weigh).sum ≤ weigh (key, value) + (entries.map weigh).sum := by
  induction entries with
  | nil => exact Nat.le_refl _
  | cons entry rest ih =>
      obtain ⟨other, old⟩ := entry
      rw [insert]
      split
      · simp only [List.map_cons, List.sum_cons]
        omega
      · split
        · exact Nat.le_refl _
        · simp only [List.map_cons, List.sum_cons]
          omega

/-- Sorting entries adds no weight. -/
theorem sum_map_ofList_le (entries : List (String × α)) :
    ((ofList entries).map weigh).sum ≤ (entries.map weigh).sum := by
  have inserted (sorted : Dictionary α) :
      ((entries.foldl (fun sorted entry => insert entry.1 entry.2 sorted) sorted).map weigh).sum ≤
        (entries.map weigh).sum + (sorted.map weigh).sum := by
    induction entries generalizing sorted with
    | nil => exact (Nat.zero_add _).ge
    | cons entry rest ih =>
        obtain ⟨key, value⟩ := entry
        have one := sum_map_insert_le weigh key value sorted
        rw [List.foldl_cons, List.map_cons, List.sum_cons]
        apply (ih (insert key value sorted)).trans
        omega
  exact inserted []

end Dictionary

namespace Json

variable (change : String → String)

mutual

/-- A value with its strings and the names of its fields changed. -/
def mapStrings : Json → Json
  | .string text => .string (change text)
  | .array items => .array (mapItemStrings items)
  | .object fields => .object (mapFieldStrings fields)
  | .null => .null
  | .bool value => .bool value
  | .number value => .number value

/-- Items with their strings changed. -/
def mapItemStrings : List Json → List Json
  | [] => []
  | item :: rest => mapStrings item :: mapItemStrings rest

/-- Fields with their names and strings changed. -/
def mapFieldStrings : List (String × Json) → List (String × Json)
  | [] => []
  | (name, value) :: rest => (change name, mapStrings value) :: mapFieldStrings rest

end

mutual

/-- The strings of a value and the names of its fields, in their order. -/
def strings : Json → List String
  | .string text => [text]
  | .array items => itemStrings items
  | .object fields => fieldStrings fields
  | _ => []

/-- The strings of items. -/
def itemStrings : List Json → List String
  | [] => []
  | item :: rest => strings item ++ itemStrings rest

/-- The names and strings of fields. -/
def fieldStrings : List (String × Json) → List String
  | [] => []
  | (name, value) :: rest => name :: strings value ++ fieldStrings rest

end

/-- A token with its string changed. -/
def Token.mapStrings : Token → Token
  | .scalar value => .scalar (value.mapStrings change)
  | token => token

variable {change}

/-! ## Changed strings -/

mutual

theorem strings_mapStrings (value : Json) :
    (value.mapStrings change).strings = value.strings.map change := by
  cases value with
  | array items =>
      rw [mapStrings, strings, strings]
      exact itemStrings_mapItemStrings items
  | object fields =>
      rw [mapStrings, strings, strings]
      exact fieldStrings_mapFieldStrings fields
  | null | bool | number | string => rfl

theorem itemStrings_mapItemStrings (items : List Json) :
    itemStrings (mapItemStrings change items) = (itemStrings items).map change := by
  cases items with
  | nil => rfl
  | cons item rest =>
      rw [mapItemStrings, itemStrings, itemStrings, List.map_append, strings_mapStrings item,
        itemStrings_mapItemStrings rest]

theorem fieldStrings_mapFieldStrings (fields : List (String × Json)) :
    fieldStrings (mapFieldStrings change fields) = (fieldStrings fields).map change := by
  cases fields with
  | nil => rfl
  | cons field rest =>
      obtain ⟨name, value⟩ := field
      rw [mapFieldStrings, fieldStrings, fieldStrings, strings_mapStrings value,
        fieldStrings_mapFieldStrings rest, List.map_append, List.map_cons]

end

mutual

/-- Nothing changes if no string does. -/
theorem mapStrings_eq_self (value : Json) (same : ∀ text ∈ value.strings, change text = text) :
    value.mapStrings change = value := by
  cases value with
  | array items =>
      rw [mapStrings, mapItemStrings_eq_self items same]
  | object fields =>
      rw [mapStrings, mapFieldStrings_eq_self fields same]
  | string text => rw [mapStrings, same text List.mem_cons_self]
  | null | bool | number => rfl

theorem mapItemStrings_eq_self (items : List Json)
    (same : ∀ text ∈ itemStrings items, change text = text) :
    mapItemStrings change items = items := by
  cases items with
  | nil => rfl
  | cons item rest =>
      obtain ⟨first, others⟩ := List.forall_mem_append.mp same
      rw [mapItemStrings, mapStrings_eq_self item first, mapItemStrings_eq_self rest others]

theorem mapFieldStrings_eq_self (fields : List (String × Json))
    (same : ∀ text ∈ fieldStrings fields, change text = text) :
    mapFieldStrings change fields = fields := by
  cases fields with
  | nil => rfl
  | cons field rest =>
      obtain ⟨name, value⟩ := field
      obtain ⟨own, others⟩ := List.forall_mem_append.mp same
      obtain ⟨first, inside⟩ := List.forall_mem_cons.mp own
      rw [mapFieldStrings, first, mapStrings_eq_self value inside,
        mapFieldStrings_eq_self rest others]

end

mutual

theorem tokens_mapStrings (value : Json) :
    (value.mapStrings change).tokens = value.tokens.map (Token.mapStrings change) := by
  cases value with
  | array items =>
      rw [mapStrings, tokens, itemTokens_mapItemStrings items, tokens, List.map_append]
      rfl
  | object fields =>
      rw [mapStrings, tokens, fieldTokens_mapFieldStrings fields, tokens, List.map_append]
      rfl
  | null | bool | number | string => rfl

theorem itemTokens_mapItemStrings (items : List Json) :
    itemTokens (mapItemStrings change items) =
      (itemTokens items).map (Token.mapStrings change) := by
  cases items with
  | nil => rfl
  | cons item rest =>
      have first := tokens_mapStrings item
      have others := itemTokens_mapItemStrings rest
      cases rest with
      | nil => exact first
      | cons second rest =>
          change tokens (item.mapStrings change) ++
            .comma :: itemTokens (mapItemStrings change (second :: rest)) =
              (tokens item ++ .comma :: itemTokens (second :: rest)).map (Token.mapStrings change)
          rw [first, others, List.map_append, List.map_cons]
          rfl

theorem fieldTokens_mapFieldStrings (fields : List (String × Json)) :
    fieldTokens (mapFieldStrings change fields) =
      (fieldTokens fields).map (Token.mapStrings change) := by
  cases fields with
  | nil => rfl
  | cons field rest =>
      obtain ⟨name, value⟩ := field
      have first := tokens_mapStrings value
      have others := fieldTokens_mapFieldStrings rest
      cases rest with
      | nil =>
          change .scalar (.string (change name)) :: .colon :: tokens (value.mapStrings change) =
            (.scalar (.string name) :: .colon :: tokens value).map (Token.mapStrings change)
          rw [first]
          rfl
      | cons second rest =>
          change .scalar (.string (change name)) :: .colon :: tokens (value.mapStrings change) ++
            .comma :: fieldTokens (mapFieldStrings change (second :: rest)) =
              (.scalar (.string name) :: .colon :: tokens value ++
                .comma :: fieldTokens (second :: rest)).map (Token.mapStrings change)
          rw [first, others, List.map_append]
          rfl

end

/-! ## Fields and items in lists -/

theorem mapItemStrings_eq_map (items : List Json) :
    mapItemStrings change items = items.map (mapStrings change) := by
  induction items with
  | nil => rfl
  | cons item rest ih => rw [mapItemStrings, ih, List.map_cons]

theorem mapFieldStrings_eq_map (fields : List (String × Json)) :
    mapFieldStrings change fields =
      fields.map fun field => (change field.1, field.2.mapStrings change) := by
  induction fields with
  | nil => rfl
  | cons field rest ih => rw [mapFieldStrings, ih, List.map_cons]

/-- Strings may be changed as one likes and the value stays legible. -/
theorem IsLegible.mapStrings {room : Nat} {value : Json} (legible : value.IsLegible room)
    (change : String → String) : (value.mapStrings change).IsLegible room := by
  induction legible with
  | null room => exact .null room
  | bool room value => exact .bool room value
  | number room inside => exact .number room inside
  | string room text => exact .string room (change text)
  | array _ ih =>
      rw [Json.mapStrings, mapItemStrings_eq_map]
      exact .array (List.forall_mem_map.mpr ih)
  | object _ ih =>
      rw [Json.mapStrings, mapFieldStrings_eq_map]
      exact .object (List.forall_mem_map.mpr ih)

/-! ## Letters -/

/-- How many characters the strings of a value and the names of its fields have. -/
def letters (value : Json) : Nat := (value.strings.map String.length).sum

theorem letters_array (items : List Json) :
    (Json.array items).letters = (items.map letters).sum := by
  rw [letters, strings]
  induction items with
  | nil => rfl
  | cons item rest ih =>
      rw [itemStrings, List.map_append, List.sum_append, ih, List.map_cons, List.sum_cons, letters]

theorem letters_object (fields : List (String × Json)) :
    (Json.object fields).letters =
      (fields.map fun field => field.1.length + field.2.letters).sum := by
  rw [letters, strings]
  induction fields with
  | nil => rfl
  | cons field rest ih =>
      obtain ⟨name, value⟩ := field
      rw [fieldStrings, List.map_append, List.sum_append, ih, List.map_cons, List.sum_cons,
        List.map_cons, List.sum_cons, letters]

/-- Sorting the fields of a value adds no letters. -/
theorem IsLegible.letters_normalize_le {room : Nat} {value : Json} (legible : value.IsLegible room) :
    value.normalize.letters ≤ value.letters := by
  induction legible with
  | null | bool | number | string => exact Nat.le_refl _
  | @array room items _ ih =>
      rw [Json.normalize, normalizeItems_eq_map, letters_array, letters_array, List.map_map]
      exact List.sum_le_sum ih
  | @object room fields _ ih =>
      rw [Json.normalize, normalizeFields_eq_map, letters_object, letters_object]
      apply (Dictionary.sum_map_ofList_le _ _).trans
      rw [List.map_map]
      apply List.sum_le_sum
      intro field member
      exact Nat.add_le_add_left (ih field member) _

/-- Where strings are only shortened, sorting gives the value back only if none of them is. -/
theorem unchanged_of_normalize_mapStrings {room : Nat} {value : Json} (legible : value.IsLegible room)
    (shortens : ∀ text, change text = text ∨ (change text).length < text.length)
    (same : (value.mapStrings change).normalize = value) :
    ∀ text ∈ value.strings, change text = text := by
  have fewer : value.letters ≤ (value.mapStrings change).letters := by
    calc value.letters = (value.mapStrings change).normalize.letters := by rw [same]
      _ ≤ (value.mapStrings change).letters :=
          (legible.mapStrings change).letters_normalize_le
  rw [letters, letters, strings_mapStrings, List.map_map] at fewer
  by_contra some_changed
  push Not at some_changed
  obtain ⟨text, member, different⟩ := some_changed
  have shorter : (change text).length < text.length := (shortens text).resolve_left different
  have none_longer : ∀ other ∈ value.strings, (change other).length ≤ other.length := by
    intro other _
    cases shortens other with
    | inl kept => rw [kept]
    | inr less => exact less.le
  exact absurd fewer (Nat.not_le.mpr (List.sum_lt_sum _ _ none_longer ⟨text, member, shorter⟩))

end Json

end ChatGateway
