import ChatGateway.Message.Block
import ChatGateway.Proofs.Json.Normal

/-!
# Fields of written objects

A written object is read by the names of its fields, so an optional field that is left out does not
change how the others are read.  What holds of everything that is decoded holds of what is read from
a field.
-/

namespace ChatGateway

theorem Word.fits_wrap (bits value : Nat) : Word.fits bits (Word.wrap bits value) = true :=
  decide_eq_true (Nat.mod_lt _ (Nat.pow_pos Nat.two_pos))

/-- What comes after a field that has been read. -/
theorem bind_of_eq_some {α β : Type} {field : Option α} {value : α} (read : field = some value)
    (next : α → Option β) : (field >>= next) = next value := by
  rw [read]
  rfl

namespace Json

/-! ## Numbers -/

@[simp] theorem normalize_ofNat (value : Nat) : (Json.ofNat value).normalize = .ofNat value := rfl

theorem nat64?_ofNat (value : Nat) :
    (Json.ofNat value).nat64? = if Word.fits 64 value then some value else none := by
  simp [nat64?, nat?, ofNat, Option.filter]

theorem nat32?_ofNat {value : Nat} (fits : Word.fits 32 value = true) :
    (Json.ofNat value).nat32? = some value := by
  simp [nat32?, nat?, ofNat, Option.filter, fits]

theorem fits_of_nat32? {json : Json} {value : Nat} (read : json.nat32? = some value) :
    Word.fits 32 value = true :=
  (Option.filter_eq_some_iff.mp read).2

section

variable {α : Type}

/-! ## Written fields -/

/-- The value of a written field. -/
def written (name : String) (fields : List (String × Json)) : Option Json :=
  Dictionary.get? name (Dictionary.ofList (normalizeFields fields))

@[simp] theorem written_cons (name : String) (field : String × Json) (rest : List (String × Json)) :
    written name (field :: rest) =
      (written name rest).or (if field.1 = name then some field.2.normalize else none) := by
  rw [written, normalizeFields_eq_map, List.map_cons, Dictionary.get?_ofList_cons,
    ← normalizeFields_eq_map, written]

@[simp] theorem written_nil (name : String) : written name [] = none := rfl

@[simp] theorem written_append (name : String) (fields more : List (String × Json)) :
    written name (fields ++ more) = (written name more).or (written name fields) := by
  induction fields with
  | nil => simp
  | cons field rest ih =>
      rw [List.cons_append, written_cons, written_cons, ih, Option.or_assoc]

@[simp] theorem written_optionalField (name other : String) (encode : α → Json) (value : Option α) :
    written name (optionalField other encode value) =
      if other = name then value.map fun value => (encode value).normalize else none := by
  cases value with
  | none => simp [optionalField]
  | some value => simp [optionalField]

theorem get?_ofList_optionalField (name other : String) (encode : α → Json) (value : Option α) :
    Dictionary.get? name (Dictionary.ofList (optionalField other encode value)) =
      if other = name then value.map encode else none := by
  cases value <;> simp [optionalField]

/-- A written object is read by its fields. -/
theorem exists_source {json : Json} {fields : List (String × Json)}
    (object : json = .object fields) :
    ∃ source : Source, (∀ names, source? names json.normalize = some source) ∧
      ∀ name, source.find? name = written name fields := by
  rw [object]
  exact ⟨.named (Dictionary.ofList (normalizeFields fields)), fun _ => rfl, fun _ => rfl⟩

/-- The fields of a written object are sorted. -/
theorem exists_sorted {json : Json} {fields : List (String × Json)} (object : json = .object fields) :
    ∃ sorted, json.normalize = .object sorted ∧ Dictionary.IsSorted sorted ∧
      ∀ name, Dictionary.get? name sorted = written name fields := by
  rw [object]
  exact ⟨_, rfl, Dictionary.isSorted_ofList _, fun _ => rfl⟩

/-- A written object with a tag is read by its tag and by its other fields. -/
theorem exists_tagged {json : Json} {tag : String} {fields : List (String × Json)}
    (object : json = .object (("type", .string tag) :: fields))
    (untagged : written "type" fields = none) :
    ∃ (body : Json) (source : Source), tagged? json.normalize = some (.string tag, body) ∧
      (∀ names, source? names body = some source) ∧
      ∀ name, name ≠ "type" → source.find? name = written name fields := by
  rw [object]
  have tagged := written_cons "type" ("type", .string tag) fields
  rw [untagged, Option.none_or, if_pos rfl] at tagged
  refine ⟨_, .named _, congrArg (Option.map _) tagged, fun _ => rfl, ?_⟩
  intro name other
  have kept := written_cons name ("type", .string tag) fields
  rw [if_neg other.symm, Option.or_none] at kept
  rw [Source.find?, Dictionary.get?_erase, if_neg other]
  exact kept

/-! ## Reading written fields -/

/-- A value comes back from what is written for it, which is not null. -/
structure Returns (encode : α → Json) (decode : Json → Option α) (value : α) : Prop where
  notNull : (encode value).normalize ≠ .null
  back : decode (encode value).normalize = some value

theorem returns_string (words : String) : Returns .string string? words :=
  ⟨by simp [normalize], rfl⟩

theorem returns_bool (flag : Bool) : Returns .bool bool? flag := ⟨by simp [normalize], rfl⟩

theorem returns_ofNat {count : Nat} (fits : Word.fits 32 count = true) :
    Returns .ofNat nat32? count :=
  ⟨by simp [ofNat, normalize], nat32?_ofNat fits⟩

section

variable {decode : Json → Option α} {source : Source} {name : String} {json : Json} {value : α}

theorem Source.required_of_find? (found : source.find? name = some json)
    (back : decode json = some value) : source.required name decode = some value := by
  rw [required, found, Option.bind_some, back]

theorem Source.withDefault_of_find? (found : source.find? name = some json)
    (back : decode json = some value) (absent : α) :
    source.withDefault name absent decode = some value := by
  rw [withDefault, found]
  exact back

end

/-- An optional field comes back if its value does. -/
theorem Source.optional_of_find? {encode : α → Json} {decode : Json → Option α}
    {value : Option α} {source : Source} {name : String}
    (found : source.find? name = value.map fun value => (encode value).normalize)
    (returns : ∀ result ∈ value, Returns encode decode result) :
    source.optional name decode = some value := by
  rw [optional, withDefault, found]
  cases value with
  | none => rfl
  | some value =>
      obtain ⟨notNull, back⟩ := returns value rfl
      simp [nullable, back]

theorem Source.required_string {source : Source} {name words : String}
    (found : source.find? name = some (Json.string words).normalize) :
    source.required name string? = some words :=
  required_of_find? found (returns_string words).back

theorem Source.optional_string {source : Source} {name : String} {words : Option String}
    (found : source.find? name = words.map fun words => (Json.string words).normalize) :
    source.optional name string? = some words :=
  optional_of_find? found fun words _ => returns_string words

/-- A list comes back if its items do. -/
theorem decodeList_map {decode : Json → Option α} {encode : α → Json} {results : List α}
    (each : ∀ result ∈ results, decode (encode result).normalize = some result) :
    decodeList decode (Json.array (results.map encode)).normalize = some results := by
  rw [normalize, normalizeItems_eq_map, decodeList]
  induction results with
  | nil => rfl
  | cons result rest ih =>
      have here := each result List.mem_cons_self
      have later := ih fun other member => each other (.tail _ member)
      rw [List.map_cons, List.map_cons, List.mapM_cons, here, later]
      rfl

/-! ## Setting a field -/

theorem Source.find?_insert_self (key : String) (value : Json) (fields : List (String × Json)) :
    (Source.named (Dictionary.insert key value fields)).find? key = some value :=
  Dictionary.get?_insert_self key value fields

theorem Source.optional_insert_self {decode : Json → Option α} {json : Json} {value : α}
    (notNull : json ≠ .null) (back : decode json = some value) (key : String)
    (fields : List (String × Json)) :
    (Source.named (Dictionary.insert key json fields)).optional key decode = some (some value) := by
  rw [optional, withDefault, find?_insert_self]
  simp [nullable, back]

/-- Setting a field leaves the others. -/
theorem Source.find?_insert_of_ne {key name : String} (different : key ≠ name) (value : Json)
    (fields : List (String × Json)) :
    (Source.named (Dictionary.insert key value fields)).find? name =
      (Source.named fields).find? name :=
  Dictionary.get?_insert_of_ne different value fields

theorem Source.withDefault_insert_of_ne {key name : String} (different : key ≠ name) (value : Json)
    (fields : List (String × Json)) (absent : α) (decode : Json → Option α) :
    (Source.named (Dictionary.insert key value fields)).withDefault name absent decode =
      (Source.named fields).withDefault name absent decode := by
  rw [withDefault, withDefault, find?_insert_of_ne different]

theorem Source.optional_insert_of_ne {key name : String} (different : key ≠ name) (value : Json)
    (fields : List (String × Json)) (decode : Json → Option α) :
    (Source.named (Dictionary.insert key value fields)).optional name decode =
      (Source.named fields).optional name decode :=
  withDefault_insert_of_ne different value fields none (nullable decode)

/-- An optional field that is set is as if it had been given, if no later field overrides it. -/
theorem insert_ofList_optionalField {name : String} {after : List (String × Json)}
    (last : Dictionary.get? name (Dictionary.ofList after) = none)
    (before : List (String × Json)) (encode : α → Json) (old : Option α) (value : α) :
    Dictionary.insert name (encode value)
        (Dictionary.ofList (before ++ (optionalField name encode old ++ after))) =
      Dictionary.ofList (before ++ (optionalField name encode (some value) ++ after)) := by
  refine Dictionary.IsSorted.ext ((Dictionary.isSorted_ofList _).insert _ _)
    (Dictionary.isSorted_ofList _) ?_
  intro key
  simp only [Dictionary.get?_insert, Dictionary.get?_ofList_append, get?_ofList_optionalField]
  by_cases same : name = key
  · subst same
    simp [last]
  · simp [same]

end

/-! ## What is decoded -/

namespace Source

variable {α : Type} {decode : Json → Option α}

/-- What holds of the value for an absence and of everything that is decoded holds of what is
read. -/
theorem of_withDefault (holds : α → Prop) {source : Source} {name : String} {absent value : α}
    (ofAbsent : holds absent)
    (decoded : ∀ json value, decode json = some value → holds value)
    (read : source.withDefault name absent decode = some value) : holds value := by
  rw [withDefault] at read
  split at read
  · exact decoded _ _ read
  · cases read
    exact ofAbsent

theorem of_optional (holds : α → Prop) {source : Source} {name : String} {result : Option α}
    (decoded : ∀ json value, decode json = some value → holds value)
    (read : source.optional name decode = some result) : ∀ value ∈ result, holds value := by
  refine of_withDefault (fun result => ∀ value ∈ result, holds value) (by simp) ?_ read
  intro json result found value member
  simp only [nullable] at found
  split at found
  · cases found
    cases member
  · obtain ⟨other, done, rfl⟩ := Option.map_eq_some_iff.mp found
    cases member
    exact decoded _ _ done

theorem fits_of_withDefault {source : Source} {name : String} {value : Nat}
    (read : source.withDefault name 0 nat32? = some value) : Word.fits 32 value = true :=
  of_withDefault (fun value => Word.fits 32 value = true) rfl (fun _ _ => fits_of_nat32?) read

theorem fits_of_optional {source : Source} {name : String} {result : Option Nat}
    (read : source.optional name nat32? = some result) :
    ∀ value ∈ result, Word.fits 32 value = true :=
  of_optional (fun value => Word.fits 32 value = true) (fun _ _ => fits_of_nat32?) read

end Source

end Json

end ChatGateway
