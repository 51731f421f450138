import ChatGateway.Proofs.Dictionary
import ChatGateway.Wire.GenerateContent

/-!
# Schemas of declared functions

The same keys are keywords in one object of a schema and names that its author has chosen, or mere
data, in the next.  A declaration may not hold three of the keywords, and what is declared for a
function loses every field that is called like one of them.  So it is the schema without these
keywords if and only if nothing else is called so, and it has the properties of the schema if and
only if none of them is.
-/

namespace ChatGateway.Wire.GenerateContent

open Json (get? item?)

/-! ## Keywords, names and data -/

/-- What a value in a schema is. -/
inductive Standing where
  /-- A schema or a list of schemas: the keys are keywords. -/
  | schema
  /-- An object that gives names to schemas: the keys are these names. -/
  | names
  /-- Data, as in an example: no key has a meaning. -/
  | data
  deriving DecidableEq, Repr, Inhabited

/-- The keywords whose value gives names to schemas. -/
def namingKeywords : List String :=
  ["properties", "patternProperties", "dependentSchemas", "dependencies", "$defs", "definitions"]

/-- The keywords whose value is a schema or a list of schemas. -/
def schemaKeywords : List String :=
  ["items", "prefixItems", "additionalItems", "unevaluatedItems", "contains", "contentSchema",
    "additionalProperties", "unevaluatedProperties", "propertyNames", "allOf", "anyOf", "oneOf",
    "not", "if", "then", "else"]

namespace Standing

/-- What the value of a field is. -/
def field (standing : Standing) (name : String) : Standing :=
  match standing with
  | .schema =>
      if namingKeywords.contains name then .names
      else if schemaKeywords.contains name then .schema
      else .data
  | .names => .schema
  | .data => .data

/-- What an item of an array is. -/
def item : Standing → Standing
  | .schema => .schema
  | .names => .data
  | .data => .data

end Standing

mutual

/-- A value without the unsupported keywords: what is called like one of them stays where it is
none. -/
def dropKeywords (standing : Standing) : Json → Json
  | .object fields => .object (dropFieldKeywords standing fields)
  | .array items => .array (dropItemKeywords standing items)
  | other => other

/-- The fields of an object without the unsupported keywords. -/
def dropFieldKeywords (standing : Standing) : List (String × Json) → List (String × Json)
  | [] => []
  | (name, value) :: rest =>
      if standing = .schema ∧ name ∈ unsupportedKeys then dropFieldKeywords standing rest
      else (name, dropKeywords (standing.field name) value) :: dropFieldKeywords standing rest

/-- The items of an array without the unsupported keywords. -/
def dropItemKeywords (standing : Standing) : List Json → List Json
  | [] => []
  | item :: rest => dropKeywords standing.item item :: dropItemKeywords standing rest

end

/-- Nothing but keywords is called like an unsupported one.  What such a keyword holds does not
matter. -/
inductive OnlyKeywords : Standing → Json → Prop where
  | null (standing : Standing) : OnlyKeywords standing .null
  | bool (standing : Standing) (value : Bool) : OnlyKeywords standing (.bool value)
  | number (standing : Standing) (value : Number) : OnlyKeywords standing (.number value)
  | string (standing : Standing) (value : String) : OnlyKeywords standing (.string value)
  | array {standing : Standing} {items : List Json}
      (inside : ∀ item ∈ items, OnlyKeywords standing.item item) :
      OnlyKeywords standing (.array items)
  | object {standing : Standing} {fields : List (String × Json)}
      (apart : standing = .schema ∨ ∀ field ∈ fields, field.1 ∉ unsupportedKeys)
      (inside : ∀ field ∈ fields, field.1 ∉ unsupportedKeys →
        OnlyKeywords (standing.field field.1) field.2) :
      OnlyKeywords standing (.object fields)

namespace OnlyKeywords

variable {standing : Standing} {name : String} {value : Json} {rest : List (String × Json)}

theorem nil_object (standing : Standing) : OnlyKeywords standing (.object []) :=
  .object (.inr nofun) nofun

theorem nil_array (standing : Standing) : OnlyKeywords standing (.array []) := .array nofun

theorem cons_array {item : Json} {items : List Json} :
    OnlyKeywords standing (.array (item :: items)) ↔
      OnlyKeywords standing.item item ∧ OnlyKeywords standing (.array items) := by
  constructor
  · intro whole
    cases whole with
    | array inside =>
        rw [List.forall_mem_cons] at inside
        exact ⟨inside.1, .array inside.2⟩
  · intro parts
    cases parts.2 with
    | array inside => exact .array (List.forall_mem_cons.mpr ⟨parts.1, inside⟩)

theorem cons_object (supported : name ∉ unsupportedKeys) :
    OnlyKeywords standing (.object ((name, value) :: rest)) ↔
      OnlyKeywords (standing.field name) value ∧ OnlyKeywords standing (.object rest) := by
  constructor
  · intro whole
    cases whole with
    | object apart inside =>
        rw [List.forall_mem_cons] at apart inside
        exact ⟨inside.1 supported, .object (apart.imp_right And.right) inside.2⟩
  · intro parts
    cases parts.2 with
    | object apart inside =>
        apply OnlyKeywords.object
        · exact apart.imp_right fun others => List.forall_mem_cons.mpr ⟨supported, others⟩
        · exact List.forall_mem_cons.mpr ⟨fun _ => parts.1, inside⟩

theorem cons_object_of_unsupported (unsupported : name ∈ unsupportedKeys) :
    OnlyKeywords standing (.object ((name, value) :: rest)) ↔
      standing = .schema ∧ OnlyKeywords standing (.object rest) := by
  constructor
  · intro whole
    cases whole with
    | object apart inside =>
        rw [List.forall_mem_cons] at apart inside
        have keyword := apart.resolve_right fun others => others.1 unsupported
        exact ⟨keyword, .object (.inl keyword) inside.2⟩
  · intro parts
    cases parts.2 with
    | object apart inside =>
        apply OnlyKeywords.object (.inl parts.1)
        exact List.forall_mem_cons.mpr ⟨fun supported => absurd unsupported supported, inside⟩

theorem not_unsupported {fields : List (String × Json)} (only : OnlyKeywords standing (.object fields))
    (other : standing ≠ .schema) {found : Json}
    (there : Dictionary.get? name fields = some found) : name ∉ unsupportedKeys := by
  cases only with
  | object apart inside =>
      have member := Dictionary.mem_of_get?_eq_some there
      exact apart.resolve_left other _ member

theorem of_get? (only : OnlyKeywords standing value) (supported : name ∉ unsupportedKeys)
    {found : Json} (there : value.get? name = some found) :
    OnlyKeywords (standing.field name) found := by
  cases only with
  | object apart inside => exact inside _ (Dictionary.mem_of_get?_eq_some there) supported
  | null | bool | number | string | array => cases there

theorem of_item? (only : OnlyKeywords standing value) {index : Nat} {found : Json}
    (there : value.item? index = some found) : OnlyKeywords standing.item found := by
  cases only with
  | array inside => exact inside found (List.mem_of_getElem? there)
  | null | bool | number | string | object => cases there

end OnlyKeywords

/-! ## What is stripped -/

theorem stripFields_cons_of_unsupported {name : String} (unsupported : name ∈ unsupportedKeys)
    (value : Json) (rest : List (String × Json)) :
    stripFields ((name, value) :: rest) = stripFields rest := by
  rw [stripFields, if_pos (List.contains_iff_mem.mpr unsupported)]

theorem stripFields_cons_of_supported {name : String} (supported : name ∉ unsupportedKeys)
    (value : Json) (rest : List (String × Json)) :
    stripFields ((name, value) :: rest) = (name, stripSchema value) :: stripFields rest := by
  rw [stripFields, if_neg fun unsupported => supported (List.contains_iff_mem.mp unsupported)]

theorem length_stripFields_le (fields : List (String × Json)) :
    (stripFields fields).length ≤ fields.length := by
  induction fields with
  | nil => exact Nat.le_refl 0
  | cons field rest ih =>
      rw [stripFields]
      split
      · exact Nat.le_succ_of_le ih
      · exact Nat.succ_le_succ ih

/-- Where nothing is a keyword, no field is dropped. -/
theorem length_dropFieldKeywords {standing : Standing} (other : standing ≠ .schema)
    (fields : List (String × Json)) :
    (dropFieldKeywords standing fields).length = fields.length := by
  induction fields with
  | nil => rfl
  | cons field rest ih =>
      rw [dropFieldKeywords, if_neg fun dropped => other dropped.1, List.length_cons, ih,
        List.length_cons]

/-- A value is stripped of the unsupported keywords alone if and only if nothing else is called like
one of them. -/
theorem stripSchema_eq_dropKeywords_iff_all :
    (∀ (value : Json) (standing : Standing),
      stripSchema value = dropKeywords standing value ↔ OnlyKeywords standing value) ∧
    (∀ (items : List Json) (standing : Standing),
      stripItems items = dropItemKeywords standing items ↔
        OnlyKeywords standing (.array items)) ∧
    (∀ (fields : List (String × Json)) (standing : Standing),
      stripFields fields = dropFieldKeywords standing fields ↔
        OnlyKeywords standing (.object fields)) := by
  refine stripSchema.mutual_induct _ _ _ ?object ?array ?other ?noItem ?item ?noField
    ?unsupported ?field
  case object =>
    intro fields ih standing
    rw [stripSchema, dropKeywords, Json.object.injEq]
    exact ih standing
  case array =>
    intro items ih standing
    rw [stripSchema, dropKeywords, Json.array.injEq]
    exact ih standing
  case other =>
    intro value notObject notArray standing
    cases value with
    | null => exact iff_of_true rfl (.null standing)
    | bool value => exact iff_of_true rfl (.bool standing value)
    | number value => exact iff_of_true rfl (.number standing value)
    | string value => exact iff_of_true rfl (.string standing value)
    | array items => exact (notArray items rfl).elim
    | object fields => exact (notObject fields rfl).elim
  case noItem =>
    intro standing
    exact iff_of_true rfl (.nil_array standing)
  case item =>
    intro item rest ihItem ihRest standing
    rw [OnlyKeywords.cons_array, stripItems, dropItemKeywords, List.cons.injEq, ihItem, ihRest]
  case noField =>
    intro standing
    exact iff_of_true rfl (.nil_object standing)
  case unsupported =>
    intro name value rest contained ih standing
    have unsupported : name ∈ unsupportedKeys := List.contains_iff_mem.mp contained
    rw [OnlyKeywords.cons_object_of_unsupported unsupported,
      stripFields_cons_of_unsupported unsupported]
    by_cases keyword : standing = .schema
    · rw [dropFieldKeywords, if_pos ⟨keyword, unsupported⟩, ih standing, and_iff_right keyword]
    · -- a name or data stays, so there are too many fields for the stripped ones
      apply iff_of_false
      · intro same
        have shorter := length_stripFields_le rest
        rw [same, length_dropFieldKeywords keyword] at shorter
        exact Nat.not_succ_le_self _ shorter
      · exact fun parts => keyword parts.1
  case field =>
    intro name value rest kept ihValue ihRest standing
    have supported : name ∉ unsupportedKeys := fun member =>
      kept (List.contains_iff_mem.mpr member)
    rw [OnlyKeywords.cons_object supported, stripFields_cons_of_supported supported,
      dropFieldKeywords, if_neg fun dropped => supported dropped.2, List.cons.injEq,
      Prod.mk.injEq, ihValue, ihRest, and_iff_right rfl]

theorem stripSchema_eq_dropKeywords_iff (schema : Json) (standing : Standing) :
    stripSchema schema = dropKeywords standing schema ↔ OnlyKeywords standing schema :=
  stripSchema_eq_dropKeywords_iff_all.1 schema standing

theorem get?_stripFields (name : String) (fields : List (String × Json)) :
    Dictionary.get? name (stripFields fields) =
      if name ∈ unsupportedKeys then none
      else (Dictionary.get? name fields).map stripSchema := by
  induction fields with
  | nil => simp [stripFields]
  | cons field rest ih =>
      obtain ⟨other, value⟩ := field
      by_cases unsupported : other ∈ unsupportedKeys
      · rw [stripFields_cons_of_unsupported unsupported, ih, Dictionary.get?_cons]
        by_cases same : other = name
        · rw [← same, if_pos unsupported, if_pos unsupported]
        · rw [if_neg same]
      · rw [stripFields_cons_of_supported unsupported, Dictionary.get?_cons,
          Dictionary.get?_cons, ih]
        by_cases same : other = name
        · rw [← same, if_pos rfl, if_pos rfl, if_neg unsupported, Option.map_some]
        · rw [if_neg same, if_neg same]

/-- A field of a stripped value is the stripped field, if it is not dropped. -/
theorem get?_stripSchema (name : String) (value : Json) :
    (stripSchema value).get? name =
      if name ∈ unsupportedKeys then none else (value.get? name).map stripSchema := by
  cases value with
  | object fields => exact get?_stripFields name fields
  | null | bool | number | string | array => simp [stripSchema, get?]

theorem stripItems_eq_map (items : List Json) : stripItems items = items.map stripSchema := by
  induction items with
  | nil => rfl
  | cons item rest ih => rw [stripItems, ih, List.map_cons]

theorem item?_stripSchema (index : Nat) (value : Json) :
    (stripSchema value).item? index = (value.item? index).map stripSchema := by
  cases value with
  | array items => rw [stripSchema, stripItems_eq_map, item?, List.getElem?_map, item?]
  | null | bool | number | string | object => rfl

/-- The names that are left are those that are not called like an unsupported keyword. -/
theorem map_fst_stripFields (fields : List (String × Json)) :
    (stripFields fields).map Prod.fst =
      (fields.map Prod.fst).filter fun name => decide (name ∉ unsupportedKeys) := by
  induction fields with
  | nil => rfl
  | cons field rest ih =>
      obtain ⟨name, value⟩ := field
      rw [List.map_cons, List.filter_cons]
      by_cases unsupported : name ∈ unsupportedKeys
      · rw [stripFields_cons_of_unsupported unsupported, ih]
        simp [unsupported]
      · rw [stripFields_cons_of_supported unsupported, List.map_cons, ih]
        simp [unsupported]

/-! ## Properties -/

/-- A way from a schema to one inside it. -/
inductive Hop where
  /-- To the schema of a property. -/
  | property (name : String)
  /-- To the schema of all items. -/
  | items
  /-- To the schema of one item. -/
  | item (index : Nat)
  deriving DecidableEq, Repr, Inhabited

/-- The schema to which a way leads. -/
def Hop.follow? (schema : Json) : Hop → Option Json
  | .property name => (schema.get? "properties").bind (get? name)
  | .items => schema.get? "items"
  | .item index => (schema.get? "items").bind (item? index)

/-- The schema that is reached by ways through properties and items. -/
def reach? (schema : Json) : List Hop → Option Json
  | [] => some schema
  | hop :: path => (hop.follow? schema).bind fun inner => reach? inner path

/-- The names of the properties of a schema. -/
def propertyNames? (schema : Json) : Option (List String) :=
  ((schema.get? "properties").bind Json.object?).map (List.map Prod.fst)

/-- The names of the properties where a path leads. -/
def namesAt? (schema : Json) (path : List Hop) : Option (List String) :=
  (reach? schema path).bind propertyNames?

/-- Every schema that is reached has the same properties in both. -/
def SameProperties (before after : Json) : Prop := ∀ path, namesAt? after path = namesAt? before path

/-- No property that is reached is called like an unsupported keyword. -/
def PlainProperties (schema : Json) : Prop :=
  ∀ path names, namesAt? schema path = some names → ∀ name ∈ names, name ∉ unsupportedKeys

theorem get?_properties_stripSchema (schema : Json) :
    (stripSchema schema).get? "properties" = (schema.get? "properties").map stripSchema := by
  rw [get?_stripSchema, if_neg (by decide)]

theorem get?_items_stripSchema (schema : Json) :
    (stripSchema schema).get? "items" = (schema.get? "items").map stripSchema := by
  rw [get?_stripSchema, if_neg (by decide)]

theorem propertyNames?_stripSchema (schema : Json) :
    propertyNames? (stripSchema schema) =
      (propertyNames? schema).map (List.filter fun name => decide (name ∉ unsupportedKeys)) := by
  rw [propertyNames?, get?_properties_stripSchema, propertyNames?]
  cases schema.get? "properties" with
  | none => rfl
  | some value =>
      cases value with
      | object fields => exact congrArg some (map_fst_stripFields fields)
      | null | bool | number | string | array => rfl

/-- A way leads to the stripped schema, or nowhere if its property is dropped. -/
theorem follow?_stripSchema (schema : Json) (hop : Hop) :
    hop.follow? (stripSchema schema) =
      if ∃ name ∈ unsupportedKeys, hop = .property name then none
      else (hop.follow? schema).map stripSchema := by
  cases hop with
  | property name =>
      rw [Hop.follow?, get?_properties_stripSchema, Hop.follow?]
      cases schema.get? "properties" with
      | none => simp
      | some value => simp [get?_stripSchema]
  | items =>
      simp only [Hop.follow?, get?_items_stripSchema, reduceCtorEq, and_false, exists_false, if_false]
  | item index =>
      simp only [Hop.follow?, get?_items_stripSchema, reduceCtorEq, and_false, exists_false, if_false]
      cases schema.get? "items" with
      | none => rfl
      | some value => exact item?_stripSchema index value

/-- Where a stripped schema is left, no property is called like an unsupported keyword. -/
theorem plainProperties_stripSchema (schema : Json) : PlainProperties (stripSchema schema) := by
  intro path
  induction path generalizing schema with
  | nil =>
      intro names found name member
      rw [namesAt?, reach?, Option.bind_some, propertyNames?_stripSchema] at found
      obtain ⟨before, -, rfl⟩ := Option.map_eq_some_iff.mp found
      exact of_decide_eq_true (List.mem_filter.mp member).2
  | cons hop path ih =>
      intro names found
      rw [namesAt?, reach?, follow?_stripSchema] at found
      split at found
      · cases found
      · cases next : hop.follow? schema with
        | none =>
            rw [next] at found
            cases found
        | some inner =>
            rw [next] at found
            exact ih inner names found

theorem PlainProperties.follow {schema inner : Json} (plain : PlainProperties schema) {hop : Hop}
    (next : hop.follow? schema = some inner) : PlainProperties inner := by
  intro path names found
  apply plain (hop :: path) names
  rw [namesAt?, reach?, next]
  exact found

/-- There is no way to a property that is called like an unsupported keyword. -/
theorem PlainProperties.follow?_eq_none {schema : Json} (plain : PlainProperties schema)
    {name : String} (unsupported : name ∈ unsupportedKeys) :
    (Hop.property name).follow? schema = none := by
  rw [Hop.follow?]
  cases listed : schema.get? "properties" with
  | none => rfl
  | some value =>
      cases value with
      | object fields =>
          have named : namesAt? schema [] = some (fields.map Prod.fst) := by
            simp [namesAt?, reach?, propertyNames?, listed, Json.object?]
          cases found : Dictionary.get? name fields with
          | none => exact found
          | some inner =>
              have member : name ∈ fields.map Prod.fst :=
                List.mem_map_of_mem (Dictionary.mem_of_get?_eq_some found)
              exact absurd unsupported (plain [] _ named name member)
      | null | bool | number | string | array => rfl

theorem namesAt?_stripSchema {schema : Json} (plain : PlainProperties schema) (path : List Hop) :
    namesAt? (stripSchema schema) path = namesAt? schema path := by
  induction path generalizing schema with
  | nil =>
      change propertyNames? (stripSchema schema) = propertyNames? schema
      rw [propertyNames?_stripSchema]
      cases found : propertyNames? schema with
      | none => rfl
      | some names =>
          have kept := plain [] names found
          rw [Option.map_some, List.filter_eq_self.mpr]
          intro name member
          exact decide_eq_true (kept name member)
  | cons hop path ih =>
      rw [namesAt?, reach?, follow?_stripSchema, namesAt?, reach?]
      split
      · rename_i dropped
        obtain ⟨name, unsupported, rfl⟩ := dropped
        rw [plain.follow?_eq_none unsupported, Option.bind_none]
      · cases next : hop.follow? schema with
        | none => rfl
        | some inner => exact ih (plain.follow next)

theorem sameProperties_stripSchema_iff (schema : Json) :
    SameProperties schema (stripSchema schema) ↔ PlainProperties schema := by
  constructor
  · intro same path names found
    apply plainProperties_stripSchema schema path names
    rw [same, found]
  · intro plain path
    exact namesAt?_stripSchema plain path

theorem OnlyKeywords.follow {schema inner : Json} (only : OnlyKeywords .schema schema) {hop : Hop}
    (next : hop.follow? schema = some inner) : OnlyKeywords .schema inner := by
  cases hop with
  | property name =>
      obtain ⟨listed, there, found⟩ := Option.bind_eq_some_iff.mp next
      have names : OnlyKeywords .names listed := only.of_get? (by decide) there
      cases listed with
      | object fields =>
          exact names.of_get? (names.not_unsupported (by decide) found) found
      | null | bool | number | string | array => cases found
  | items => exact only.of_get? (by decide) next
  | item index =>
      obtain ⟨listed, there, found⟩ := Option.bind_eq_some_iff.mp next
      have items : OnlyKeywords .schema listed := only.of_get? (by decide) there
      exact items.of_item? found

/-- Where nothing but keywords is called like an unsupported one, no property is. -/
theorem OnlyKeywords.plainProperties {schema : Json} (only : OnlyKeywords .schema schema) :
    PlainProperties schema := by
  intro path
  induction path generalizing schema with
  | nil =>
      intro names found name member
      obtain ⟨fields, listed, rfl⟩ := Option.map_eq_some_iff.mp found
      obtain ⟨value, there, isObject⟩ := Option.bind_eq_some_iff.mp listed
      have inside : OnlyKeywords .names value := only.of_get? (by decide) there
      cases inside with
      | object apart _ =>
          cases isObject
          obtain ⟨field, here, rfl⟩ := List.mem_map.mp member
          exact apart.resolve_left (by decide) field here
      | null | bool | number | string | array => cases isObject
  | cons hop path ih =>
      intro names found
      obtain ⟨last, reached, named⟩ := Option.bind_eq_some_iff.mp found
      obtain ⟨inner, next, reached⟩ := Option.bind_eq_some_iff.mp reached
      apply ih (only.follow next)
      rw [namesAt?, reached]
      exact named

/-! ## Declarations -/

/-- The tools that are declared as functions; a search of the web is none. -/
def functions (request : Request) : List Tool :=
  (request.tools.getD []).filter fun tool => !tool.isWebSearch

/-- The parameters that a body declares for a function. -/
def declaredParameters? (body : Json) (position : Nat) : Option Json := do
  let tools ← body.get? "tools"
  let declarations ← (← tools.item? 0).get? "functionDeclarations"
  (← declarations.item? position).get? "parameters"

theorem get?_tools_ofRequest (request : Request) :
    (ofRequest request).get? "tools" =
      if (request.tools.getD []).isEmpty then none
      else some (.array (toolList (request.tools.getD []))) := by
  have others (config : Option Json) :
      Dictionary.get? "tools" (optionalField "toolConfig" id config) = none := by
    cases config <;> simp [optionalField, Dictionary.get?_cons]
  simp only [ofRequest, get?, Dictionary.get?_append, others]
  split <;> split <;> simp [Dictionary.get?_cons]

/-- The declarations stand in front of the searches. -/
theorem item?_toolList (tools : List Tool) (position : Nat) :
    ((Json.array (toolList tools)).item? 0).bind (fun first =>
        (first.get? "functionDeclarations").bind (item? position)) =
      ((tools.filter fun tool => !tool.isWebSearch).map declaration)[position]? := by
  rw [toolList]
  cases declared : (tools.filter fun tool => !tool.isWebSearch).map declaration with
  | nil =>
      cases searches : tools.filter Tool.isWebSearch with
      | nil => rfl
      | cons search rest => rfl
  | cons first rest => rfl

theorem get?_parameters_declaration (tool : Tool) :
    (declaration tool).get? "parameters" = tool.inputSchema.map stripSchema := by
  rw [declaration, get?, Dictionary.get?_append]
  cases tool.inputSchema <;> rfl

/-- The parameters of a function are its stripped schema. -/
theorem declaredParameters?_ofRequest (request : Request) (position : Nat) :
    declaredParameters? (ofRequest request) position =
      ((functions request)[position]?.bind Tool.inputSchema).map stripSchema := by
  simp only [declaredParameters?, bind, get?_tools_ofRequest, functions]
  split
  · rename_i nothing
    rw [List.isEmpty_iff.mp nothing]
    rfl
  · rw [Option.bind_some, ← Option.bind_assoc, ← Option.bind_assoc, Option.bind_assoc (item? 0 _),
      item?_toolList, List.getElem?_map]
    cases ((request.tools.getD []).filter fun tool => !tool.isWebSearch)[position]? with
    | none => rfl
    | some tool => exact get?_parameters_declaration tool

/-- What is declared for a function has the properties of its schema and lacks nothing but keywords
if and only if nothing else in the schema is called like an unsupported keyword.  The properties
alone are kept if and only if none of them is called so. -/
theorem declaredParameters?_iff {request : Request} {position : Nat} {tool : Tool} {schema : Json}
    (declared : (functions request)[position]? = some tool)
    (given : tool.inputSchema = some schema) :
    ∃ parameters, declaredParameters? (ofRequest request) position = some parameters ∧
      (SameProperties schema parameters ∧ parameters = dropKeywords .schema schema ↔
        OnlyKeywords .schema schema) ∧
      (SameProperties schema parameters ↔ PlainProperties schema) := by
  refine ⟨stripSchema schema, ?_, ?_, sameProperties_stripSchema_iff schema⟩
  · rw [declaredParameters?_ofRequest, declared, Option.bind_some, given, Option.map_some]
  · rw [sameProperties_stripSchema_iff, stripSchema_eq_dropKeywords_iff]
    exact ⟨And.right, fun only => ⟨only.plainProperties, only⟩⟩

/-- A property of an item is called as a keyword may be, and the keywords beside it are dropped. -/
theorem declaredParameters?_iff_order :
    let name := Json.object [("default", .string "none"), ("type", .string "string")]
    let item := Json.object [("additionalProperties", .bool false),
      ("properties", .object [("name", name)]), ("type", .string "object")]
    let schema := Json.object [("$schema", .string "draft"),
      ("properties", .object [("lines", .object [("items", item), ("type", .string "array")])])]
    let tool : Tool := ⟨"order", none, some schema, none⟩
    let search : Tool := ⟨"web_search", none, none, none⟩
    let request := { Request.ofMessages "small" [] with tools := some [search, tool] }
    (functions request)[0]? = some tool ∧ tool.inputSchema = some schema ∧
      ∃ parameters, declaredParameters? (ofRequest request) 0 = some parameters ∧
        (SameProperties schema parameters ∧ parameters = dropKeywords .schema schema ↔
          OnlyKeywords .schema schema) ∧
        (SameProperties schema parameters ↔ PlainProperties schema) := by
  intro name item schema tool search request
  have isSearch : search.isWebSearch = true := by decide +kernel
  have isFunction : tool.isWebSearch = false := by decide +kernel
  have declared : (functions request)[0]? = some tool := by
    simp [functions, request, isSearch, isFunction]
  exact ⟨declared, rfl, declaredParameters?_iff declared rfl⟩

/-- A property that is called `default` is not declared. -/
theorem declaredParameters?_loses_property :
    let schema := Json.object [("properties", .object
      [("default", .object [("type", .string "string")])]), ("type", .string "object")]
    let tool : Tool := ⟨"choose", none, some schema, none⟩
    let request := { Request.ofMessages "small" [] with tools := some [tool] }
    let parameters := Json.object [("properties", .object []), ("type", .string "object")]
    declaredParameters? (ofRequest request) 0 = some parameters ∧
      namesAt? schema [] = some ["default"] ∧ namesAt? parameters [] = some [] ∧
      ¬SameProperties schema parameters := by
  intro schema tool request parameters
  refine ⟨rfl, rfl, rfl, ?_⟩
  intro same
  have lost : namesAt? parameters [] = namesAt? schema [] := same []
  revert lost
  decide

end ChatGateway.Wire.GenerateContent
