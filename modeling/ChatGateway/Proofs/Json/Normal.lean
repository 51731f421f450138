import ChatGateway.Json.Parser
import ChatGateway.Proofs.Dictionary
import Mathlib.Data.String.Basic

/-!
# Normal values

A normal value is one whose objects list their fields by increasing key, each key once.  What a text
is parsed to is normal, and a normal value is left as it is by sorting.
-/

namespace ChatGateway

namespace Dictionary

variable {α : Type}

/-- The keys of the entries increase. -/
def IsSorted (entries : List (String × α)) : Prop := (entries.map Prod.fst).Pairwise (· < ·)

/-- A key above all others comes last. -/
theorem insert_of_lt {entries : List (String × α)} {key : String}
    (above : ∀ entry ∈ entries, entry.1 < key) (value : α) :
    insert key value entries = entries ++ [(key, value)] := by
  induction entries with
  | nil => rfl
  | cons entry rest ih =>
      have first := above entry List.mem_cons_self
      rw [insert, if_neg first.ne', if_neg first.asymm, ih, List.cons_append]
      intro other member
      exact above other (.tail _ member)

/-- Sorted entries stay in their places. -/
theorem ofList_of_isSorted {entries : List (String × α)} (sorted : IsSorted entries) :
    ofList entries = entries := by
  induction entries using List.reverseRecOn with
  | nil => rfl
  | append_singleton earlier last ih =>
      rw [IsSorted, List.map_append, List.pairwise_append] at sorted
      obtain ⟨before, -, above⟩ := sorted
      rw [ofList_concat, ih before, insert_of_lt]
      intro entry member
      exact above entry.1 (List.mem_map_of_mem member) last.1 (by simp)

theorem mem_insert {entries : List (String × α)} {key : String} {value : α} {entry : String × α}
    (member : entry ∈ insert key value entries) : entry = (key, value) ∨ entry ∈ entries := by
  induction entries with
  | nil => exact .inl (List.mem_singleton.mp member)
  | cons first rest ih =>
      rw [insert] at member
      split at member
      · rcases List.mem_cons.mp member with here | later
        · exact .inl here
        · exact .inr (.tail _ later)
      · split at member
        · rcases List.mem_cons.mp member with here | later
          · exact .inl here
          · exact .inr later
        · rcases List.mem_cons.mp member with here | later
          · exact .inr (here ▸ List.mem_cons_self)
          · rcases ih later with here | later
            · exact .inl here
            · exact .inr (.tail _ later)

theorem IsSorted.insert {entries : List (String × α)} (sorted : IsSorted entries) (key : String)
    (value : α) : IsSorted (Dictionary.insert key value entries) := by
  induction entries with
  | nil => exact List.pairwise_singleton _ _
  | cons first rest ih =>
      rw [IsSorted, List.map_cons, List.pairwise_cons] at sorted
      obtain ⟨below, others⟩ := sorted
      rw [Dictionary.insert]
      split
      · rename_i same
        exact List.pairwise_cons.mpr ⟨same ▸ below, others⟩
      · split
        · rename_i lower
          refine List.pairwise_cons.mpr ⟨?_, List.pairwise_cons.mpr ⟨below, others⟩⟩
          intro name member
          rcases List.mem_cons.mp member with here | later
          · exact here ▸ lower
          · exact lower.trans (below name later)
        · rename_i different notLower
          refine List.pairwise_cons.mpr ⟨?_, ih others⟩
          intro name member
          obtain ⟨entry, inside, rfl⟩ := List.mem_map.mp member
          rcases mem_insert inside with here | later
          · rw [here]
            exact lt_of_le_of_ne (not_lt.mp notLower) (Ne.symm different)
          · exact below entry.1 (List.mem_map_of_mem later)

/-- Whatever entries there are, they come out sorted. -/
theorem isSorted_ofList (entries : List (String × α)) : IsSorted (ofList entries) := by
  induction entries using List.reverseRecOn with
  | nil => exact .nil
  | append_singleton earlier last ih =>
      rw [ofList_concat]
      exact ih.insert last.1 last.2

theorem IsSorted.erase {entries : List (String × α)} (sorted : IsSorted entries) (key : String) :
    IsSorted (Dictionary.erase key entries) :=
  List.Pairwise.sublist (List.filter_sublist.map Prod.fst) sorted

/-- Sorted entries are told by what is found among them. -/
theorem IsSorted.ext {entries more : Dictionary α} (sorted : IsSorted entries)
    (other : IsSorted more) (same : ∀ key, get? key entries = get? key more) : entries = more := by
  have absent {entry : String × α} {rest : Dictionary α} (below : IsSorted (entry :: rest))
      {key : String} (lower : key ≤ entry.1) : get? key rest = none := by
    rw [IsSorted, List.map_cons, List.pairwise_cons] at below
    rw [Dictionary.get?, Option.map_eq_none_iff, List.find?_eq_none]
    intro later member
    have above := below.1 later.1 (List.mem_map_of_mem member)
    simpa using (lower.trans_lt above).ne'
  induction entries generalizing more with
  | nil =>
      cases more with
      | nil => rfl
      | cons entry rest => simpa [get?_cons] using same entry.1
  | cons entry rest ih =>
      cases more with
      | nil => simpa [get?_cons] using same entry.1
      | cons first others =>
          have keys : entry.1 = first.1 := by
            rcases lt_trichotomy entry.1 first.1 with lower | equal | higher
            · have found := same entry.1
              rw [get?_cons, get?_cons, if_pos rfl, if_neg lower.ne', absent other lower.le] at found
              cases found
            · exact equal
            · have found := same first.1
              rw [get?_cons, get?_cons, if_neg higher.ne', if_pos rfl,
                absent sorted higher.le] at found
              cases found
          have values : entry.2 = first.2 := by
            have found := same entry.1
            rw [get?_cons, get?_cons, if_pos rfl, if_pos keys.symm] at found
            exact Option.some.inj found
          have tails : rest = others := by
            refine ih (List.pairwise_cons.mp sorted).2 (List.pairwise_cons.mp other).2 ?_
            intro key
            have found := same key
            rw [get?_cons, get?_cons, ← keys] at found
            split at found
            · rename_i here
              rw [absent sorted here.ge, absent other (keys ▸ here.ge)]
            · exact found
          rw [tails, Prod.ext keys values]

theorem IsSorted.insert_comm {entries : Dictionary α} (sorted : IsSorted entries) {key other : String}
    (different : key ≠ other) (value new : α) :
    Dictionary.insert key value (Dictionary.insert other new entries) =
      Dictionary.insert other new (Dictionary.insert key value entries) := by
  refine ((sorted.insert other new).insert key value).ext
    ((sorted.insert key value).insert other new) ?_
  intro name
  simp only [get?_insert]
  by_cases first : key = name
  · simp [first, first ▸ different.symm]
  · simp [first]

theorem IsSorted.erase_insert_of_ne {entries : Dictionary α} (sorted : IsSorted entries)
    {key other : String} (different : key ≠ other) (value : α) :
    Dictionary.erase other (Dictionary.insert key value entries) =
      Dictionary.insert key value (Dictionary.erase other entries) := by
  refine ((sorted.insert key value).erase other).ext ((sorted.erase other).insert key value) ?_
  intro name
  simp only [get?_insert, get?_erase]
  by_cases set : key = name
  · simp [set, set ▸ different]
  · simp [set]

theorem mem_of_mem_ofList {entries : List (String × α)} {entry : String × α}
    (member : entry ∈ ofList entries) : entry ∈ entries := by
  induction entries using List.reverseRecOn with
  | nil => cases member
  | append_singleton earlier last ih =>
      rw [ofList_concat] at member
      rcases mem_insert member with here | before
      · exact List.mem_append_right _ (List.mem_singleton.mpr here)
      · exact List.mem_append_left _ (ih before)

end Dictionary

namespace Json

/-- Every object in the value lists its fields by increasing key, each key once. -/
inductive IsNormal : Json → Prop where
  | null : IsNormal .null
  | bool (value : Bool) : IsNormal (.bool value)
  | number (value : Number) : IsNormal (.number value)
  | string (value : String) : IsNormal (.string value)
  | array {items : List Json} (inside : ∀ item ∈ items, IsNormal item) : IsNormal (.array items)
  | object {fields : List (String × Json)} (sorted : Dictionary.IsSorted fields)
      (inside : ∀ field ∈ fields, IsNormal field.2) : IsNormal (.object fields)

theorem normalizeItems_eq_map (items : List Json) : normalizeItems items = items.map normalize := by
  induction items with
  | nil => rfl
  | cons item rest ih => rw [normalizeItems, ih, List.map_cons]

theorem normalizeFields_eq_map (fields : List (String × Json)) :
    normalizeFields fields = fields.map fun field => (field.1, field.2.normalize) := by
  induction fields with
  | nil => rfl
  | cons field rest ih => rw [normalizeFields, ih, List.map_cons]

/-- A normal value is sorted already. -/
theorem IsNormal.normalize {value : Json} (normal : value.IsNormal) : value.normalize = value := by
  induction normal with
  | null | bool | number | string => rfl
  | @array items _ ih =>
      rw [Json.normalize, normalizeItems_eq_map, List.map_congr_left ih, List.map_id']
  | @object fields sorted _ ih =>
      have same : (fields.map fun field => (field.1, field.2.normalize)) = fields.map fun field =>
          field := by
        apply List.map_congr_left
        intro field member
        rw [ih field member]
      rw [Json.normalize, normalizeFields_eq_map, same, List.map_id',
        Dictionary.ofList_of_isSorted sorted]

/-- Sorting makes a value normal. -/
theorem isNormal_normalize_all :
    (∀ value : Json, value.normalize.IsNormal) ∧
    (∀ fields : List (String × Json), ∀ field ∈ normalizeFields fields, field.2.IsNormal) ∧
    (∀ items : List Json, ∀ item ∈ normalizeItems items, item.IsNormal) := by
  refine normalize.mutual_induct _ _ _ ?array ?object ?other ?noItem ?item ?noField ?field
  case array =>
    intro items ih
    exact .array ih
  case object =>
    intro fields ih
    refine .object (Dictionary.isSorted_ofList _) ?_
    intro field member
    exact ih field (Dictionary.mem_of_mem_ofList member)
  case other =>
    intro value notArray notObject
    cases value with
    | null => exact .null
    | bool value => exact .bool value
    | number value => exact .number value
    | string value => exact .string value
    | array items => exact (notArray items rfl).elim
    | object fields => exact (notObject fields rfl).elim
  case noItem | noField =>
    intro _ member
    cases member
  case item =>
    intro item rest ihItem ihRest other member
    rcases List.mem_cons.mp member with here | later
    · exact here ▸ ihItem
    · exact ihRest other later
  case field =>
    intro name value rest ihValue ihRest other member
    rcases List.mem_cons.mp member with here | later
    · exact here ▸ ihValue
    · exact ihRest other later

theorem isNormal_normalize (value : Json) : value.normalize.IsNormal :=
  isNormal_normalize_all.1 value

/-- A text is parsed to a normal value. -/
theorem isNormal_of_parse? {text : String} {value : Json} (parsed : parse? text = some value) :
    value.IsNormal := by
  obtain ⟨verbatim, -, sorted⟩ := Option.map_eq_some_iff.mp parsed
  exact sorted ▸ isNormal_normalize verbatim

end Json

end ChatGateway
