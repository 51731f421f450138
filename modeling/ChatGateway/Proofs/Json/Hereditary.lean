import ChatGateway.Json.Decode
import Mathlib.Data.List.Basic

/-!
# Properties of everything inside

A property that passes from a value to what is inside it holds of every field from which a structure
is decoded.  So what follows from it for everything that is decoded holds of what is read.
-/

namespace ChatGateway.Json

variable {α : Type} {holds : Json → Prop} {decode : Json → Option α}

/-- A property that the items and the fields of a value have if the value has it. -/
structure Hereditary (holds : Json → Prop) : Prop where
  item {items : List Json} : holds (.array items) → ∀ item ∈ items, holds item
  field {fields : List (String × Json)} : holds (.object fields) → ∀ field ∈ fields, holds field.2

namespace Source

/-- Every field that a source gives has a property. -/
def Gives (holds : Json → Prop) (source : Source) : Prop :=
  ∀ name value, source.find? name = some value → holds value

theorem gives_of_source? (hereditary : Hereditary holds) {names : List String} {value : Json}
    (whole : holds value) {source : Source} (opened : source? names value = some source) :
    source.Gives holds := by
  intro name field found
  cases value with
  | object fields =>
      cases opened
      obtain ⟨entry, there, rfl⟩ := Option.map_eq_some_iff.mp found
      exact hereditary.field whole entry (List.mem_of_find?_eq_some there)
  | array items =>
      obtain ⟨-, same⟩ := Option.ite_none_right_eq_some.mp opened
      cases same
      obtain ⟨index, -, there⟩ := Option.bind_eq_some_iff.mp found
      exact hereditary.item whole field (List.mem_of_getElem? there)
  | null | bool | number | string => cases opened

variable {source : Source} {name : String} (follows : α → Prop)

theorem Gives.of_required (gives : source.Gives holds) {result : α}
    (decoded : ∀ value result, holds value → decode value = some result → follows result)
    (read : source.required name decode = some result) : follows result := by
  obtain ⟨value, found, done⟩ := Option.bind_eq_some_iff.mp read
  exact decoded value result (gives name value found) done

theorem Gives.of_withDefault (gives : source.Gives holds) {absent result : α}
    (ofAbsent : follows absent)
    (decoded : ∀ value result, holds value → decode value = some result → follows result)
    (read : source.withDefault name absent decode = some result) : follows result := by
  rw [withDefault] at read
  split at read
  · rename_i value found
    exact decoded value result (gives name value found) read
  · cases read
    exact ofAbsent

theorem Gives.of_optional (gives : source.Gives holds) {result : Option α}
    (decoded : ∀ value result, holds value → value ≠ .null → decode value = some result →
      follows result)
    (read : source.optional name decode = some result) : ∀ value ∈ result, follows value := by
  refine gives.of_withDefault (fun result => ∀ value ∈ result, follows value) (by simp) ?_ read
  intro json result inside found value member
  simp only [nullable] at found
  split at found
  · cases found
    cases member
  · rename_i notNull
    obtain ⟨other, done, rfl⟩ := Option.map_eq_some_iff.mp found
    cases member
    exact decoded json _ inside notNull done

end Source

/-- What follows for everything that is decoded holds of the items of a list. -/
theorem Hereditary.of_decodeList (hereditary : Hereditary holds) (follows : α → Prop) {value : Json}
    (whole : holds value) {results : List α}
    (decoded : ∀ value result, holds value → decode value = some result → follows result)
    (read : decodeList decode value = some results) : ∀ result ∈ results, follows result := by
  cases value with
  | array items =>
      have inside := hereditary.item whole
      rw [decodeList] at read
      clear whole
      induction items generalizing results with
      | nil =>
          cases read
          intro result member
          cases member
      | cons item rest ih =>
          simp only [List.mapM_cons, bind, Option.bind_eq_some_iff, pure, Option.some.injEq] at read
          obtain ⟨first, here, others, later, rfl⟩ := read
          intro result member
          rcases List.mem_cons.mp member with same | inRest
          · rw [same]
            exact decoded item first (inside item List.mem_cons_self) here
          · exact ih later (fun item member => inside item (.tail _ member)) result inRest
  | null | bool | number | string | object => cases read

end ChatGateway.Json
