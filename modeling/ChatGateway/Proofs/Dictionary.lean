import ChatGateway.Dictionary
import Mathlib.Data.List.Induction

/-!
# Looking up what was set

A dictionary gives back the value that was set last for a key, and setting one key leaves every
other one alone.
-/

namespace ChatGateway.Dictionary

variable {α : Type}

@[simp] theorem get?_nil (key : String) : get? key ([] : Dictionary α) = none := rfl

theorem get?_cons (key : String) (entry : String × α) (rest : Dictionary α) :
    get? key (entry :: rest) = if entry.1 = key then some entry.2 else get? key rest := by
  by_cases same : entry.1 = key <;> simp [get?, same]

theorem mem_of_get?_eq_some {key : String} {entries : Dictionary α} {value : α}
    (found : get? key entries = some value) : (key, value) ∈ entries := by
  obtain ⟨entry, here, rfl⟩ := Option.map_eq_some_iff.mp found
  have same : entry.1 = key := by simpa using List.find?_some here
  rw [← same]
  exact List.mem_of_find?_eq_some here

theorem get?_append (key : String) (entries more : Dictionary α) :
    get? key (entries ++ more) = (get? key entries).or (get? key more) := by
  rw [get?, List.find?_append, Option.map_or]
  rfl

@[simp] theorem get?_insert_self (key : String) (value : α) (entries : Dictionary α) :
    get? key (insert key value entries) = some value := by
  induction entries with
  | nil => simp [insert, get?]
  | cons entry rest ih =>
      obtain ⟨other, old⟩ := entry
      rw [insert]
      split
      · simp [get?_cons]
      · split
        · simp [get?_cons]
        · rename_i different _
          rw [get?_cons, if_neg (Ne.symm different), ih]

theorem get?_insert_of_ne {key other : String} (different : key ≠ other) (value : α)
    (entries : Dictionary α) : get? other (insert key value entries) = get? other entries := by
  induction entries with
  | nil => simp [insert, get?, different]
  | cons entry rest ih =>
      obtain ⟨name, old⟩ := entry
      rw [insert]
      split
      · rename_i same
        subst same
        simp [get?_cons, different]
      · split
        · simp [get?_cons, different]
        · rw [get?_cons, get?_cons, ih]

/-- Setting a key changes what is found for it, and nothing else. -/
theorem get?_insert (key other : String) (value : α) (entries : Dictionary α) :
    get? other (insert key value entries) =
      if key = other then some value else get? other entries := by
  split
  · rename_i same
    rw [← same, get?_insert_self]
  · rename_i different
    exact get?_insert_of_ne different value entries

@[simp] theorem get?_erase (key other : String) (entries : Dictionary α) :
    get? key (erase other entries) = if key = other then none else get? key entries := by
  induction entries with
  | nil => simp [erase, get?]
  | cons entry rest ih =>
      rw [erase] at ih ⊢
      rw [get?_cons, List.filter_cons]
      by_cases gone : entry.1 = other
      · subst gone
        simp only [bne_self_eq_false, Bool.false_eq_true, if_false, ih]
        split
        · rfl
        · rename_i different
          rw [if_neg (Ne.symm different)]
      · simp only [bne_iff_ne, ne_eq, gone, not_false_eq_true, if_true, get?_cons, ih]
        split
        · rename_i same
          rw [← same, if_neg gone]
        · rfl

@[simp] theorem ofList_nil : ofList ([] : List (String × α)) = [] := rfl

theorem ofList_concat (entries : List (String × α)) (entry : String × α) :
    ofList (entries ++ [entry]) = insert entry.1 entry.2 (ofList entries) := by
  simp [ofList]

theorem get?_foldl_insert (key : String) (entries : List (String × α)) (sorted : Dictionary α) :
    get? key (entries.foldl (fun sorted entry => insert entry.1 entry.2 sorted) sorted) =
      (get? key (ofList entries)).or (get? key sorted) := by
  induction entries using List.reverseRecOn with
  | nil => rfl
  | append_singleton earlier last ih =>
      simp only [ofList, List.foldl_append, List.foldl_cons, List.foldl_nil] at ih ⊢
      by_cases same : last.1 = key
      · subst same
        simp
      · rw [get?_insert_of_ne same, get?_insert_of_ne same, ih]

/-- The last entry of a key counts. -/
@[simp] theorem get?_ofList_cons (key : String) (entry : String × α) (rest : List (String × α)) :
    get? key (ofList (entry :: rest)) =
      (get? key (ofList rest)).or (if entry.1 = key then some entry.2 else none) := by
  have single : get? key (insert entry.1 entry.2 []) =
      if entry.1 = key then some entry.2 else none :=
    get?_cons key entry []
  rw [← single, ← get?_foldl_insert]
  rfl

theorem get?_ofList_append (key : String) (entries more : List (String × α)) :
    get? key (ofList (entries ++ more)) = (get? key (ofList more)).or (get? key (ofList entries)) := by
  induction entries with
  | nil => simp
  | cons entry rest ih =>
      rw [List.cons_append, get?_ofList_cons, get?_ofList_cons, ih, Option.or_assoc]

theorem get?_ofList_ite (key : String) (shown : Prop) [Decidable shown]
    (entries more : List (String × α)) :
    get? key (ofList (if shown then entries else more)) =
      if shown then get? key (ofList entries) else get? key (ofList more) := by
  split <;> rfl

/-- What is found is an entry. -/
theorem mem_of_get?_ofList {entries : List (String × α)} {key : String} {value : α}
    (found : get? key (ofList entries) = some value) : (key, value) ∈ entries := by
  induction entries with
  | nil => cases found
  | cons entry rest ih =>
      rw [get?_ofList_cons, Option.or_eq_some_iff] at found
      rcases found with later | ⟨-, here⟩
      · exact .tail _ (ih later)
      · split at here
        · rename_i same
          cases here
          rw [← same]
          exact List.mem_cons_self
        · cases here

/-- Of entries with different keys, each is found. -/
theorem get?_ofList_of_mem {entries : List (String × α)} (different : (entries.map Prod.fst).Nodup)
    {key : String} {value : α} (member : (key, value) ∈ entries) :
    get? key (ofList entries) = some value := by
  induction entries using List.reverseRecOn with
  | nil => simp at member
  | append_singleton earlier last ih =>
      rw [List.map_append, List.nodup_append] at different
      rw [ofList_concat]
      rcases List.mem_append.mp member with member | member
      · have apart : last.1 ≠ key := fun same =>
          different.2.2 key (List.mem_map_of_mem member) key (by simp [same]) rfl
        rw [get?_insert_of_ne apart, ih different.1 member]
      · rw [List.mem_singleton] at member
        subst member
        exact get?_insert_self key value _

/-! ## Changing values -/

/-- Changes each value, depending on its key. -/
def mapValues (change : String → α → α) (entries : List (String × α)) : List (String × α) :=
  entries.map fun entry => (entry.1, change entry.1 entry.2)

theorem insert_mapValues (change : String → α → α) (key : String) (value : α)
    (sorted : Dictionary α) :
    insert key (change key value) (mapValues change sorted) =
      mapValues change (insert key value sorted) := by
  induction sorted with
  | nil => rfl
  | cons entry rest ih =>
      obtain ⟨other, old⟩ := entry
      change insert key (change key value) ((other, change other old) :: mapValues change rest) = _
      rw [insert, insert, ih]
      split
      · rfl
      · split <;> rfl

theorem ofList_mapValues (change : String → α → α) (entries : List (String × α)) :
    ofList (mapValues change entries) = mapValues change (ofList entries) := by
  induction entries using List.reverseRecOn with
  | nil => rfl
  | append_singleton rest entry ih =>
      rw [ofList_concat, ← insert_mapValues, ← ih, mapValues, List.map_append]
      exact ofList_concat _ _

theorem get?_mapValues (change : String → α → α) (key : String) (entries : List (String × α)) :
    get? key (mapValues change entries) = (get? key entries).map (change key) := by
  induction entries with
  | nil => rfl
  | cons entry rest ih =>
      change get? key ((entry.1, change entry.1 entry.2) :: mapValues change rest) = _
      rw [get?_cons, get?_cons, ih]
      split
      · rename_i same
        rw [← same]
        rfl
      · rfl

end ChatGateway.Dictionary
