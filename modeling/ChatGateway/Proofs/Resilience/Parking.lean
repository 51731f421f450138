import ChatGateway.Proofs.Resilience.ParkingTime
import Mathlib.Data.Finset.Range
import Mathlib.Data.Finset.Card

/-!
# Parked keys

A ring deals out keys that are free, and a key that is parked for some time is not free before that
time is over.  With a base of zero no key is ever parked.
-/

namespace ChatGateway.KeyRing

/-- The positions of the keys that may be used. -/
def free (ring : KeyRing) (now : Nat) : Finset Nat :=
  (Finset.range ring.size).filter fun index => isUsableAt ring.entries now index = true

theorem mem_free {ring : KeyRing} {now index : Nat} :
    index ∈ ring.free now ↔ isUsableAt ring.entries now index = true := by
  simp only [free, Finset.mem_filter, Finset.mem_range, and_iff_right_iff_imp]
  intro usable
  rw [isUsableAt, Option.any_eq_true] at usable
  obtain ⟨entry, found, -⟩ := usable
  exact (List.getElem?_eq_some_iff.mp found).1

theorem free_subset (ring : KeyRing) (now : Nat) : ring.free now ⊆ Finset.range ring.size :=
  Finset.filter_subset _ _

theorem isUsableAt_set {entries : List Entry} {index : Nat} (inside : index < entries.length)
    (entry : Entry) (now other : Nat) :
    isUsableAt (entries.set index entry) now other =
      if index = other then entry.isUsable now else isUsableAt entries now other := by
  rw [isUsableAt, List.getElem?_set]
  split
  · simp [*]
  · rfl

theorem map_key_set {entries : List Entry} {index : Nat} {entry changed : Entry}
    (found : entries[index]? = some entry) (same : changed.key = entry.key) :
    (entries.set index changed).map Entry.key = entries.map Entry.key := by
  obtain ⟨inside, rfl⟩ := List.getElem?_eq_some_iff.mp found
  have within : index < (entries.map Entry.key).length := by simpa using inside
  have own : entries[index].key = (entries.map Entry.key)[index] := by rw [List.getElem_map]
  rw [List.map_set, same, own, List.set_getElem_self]

/-- What an operation on a ring keeps: its settings and its keys. -/
structure Keeps (before after : KeyRing) : Prop where
  settings : after.settings = before.settings
  keys : after.entries.map Entry.key = before.entries.map Entry.key

@[refl] theorem Keeps.refl (ring : KeyRing) : Keeps ring ring := ⟨rfl, rfl⟩

/-- What can come of taking a key into use. -/
inductive TakeCase (ring : KeyRing) (now : Nat) : Prop where
  /-- No key may be used. -/
  | none (parked : ∀ entry ∈ ring.entries, entry.isUsable now = false)
      (result : ring.takeActive now = (none, ring))
  /-- The first key that may be used is. -/
  | taken {index : Nat} {entry : Entry} (found : ring.entries[index]? = some entry)
      (usable : entry.isUsable now = true)
      (first : ∀ other < index, isUsableAt ring.entries now other = false)
      (result : ring.takeActive now =
        (some (index, entry.key),
          { ring with
            entries := ring.entries.set index { entry with parkedUntil := Option.none }
            current := index }))

theorem takeCase (ring : KeyRing) (now : Nat) : TakeCase ring now := by
  cases search : ring.entries.findIdx? fun entry => entry.isUsable now with
  | none =>
      apply TakeCase.none
      · exact List.findIdx?_eq_none_iff.mp search
      · simp only [takeActive, search]
  | some index =>
      obtain ⟨inside, usable, before⟩ := List.findIdx?_eq_some_iff_getElem.mp search
      have found := List.getElem?_eq_getElem inside
      apply TakeCase.taken found usable
      · intro other below
        have within := Nat.lt_trans below inside
        rw [isUsableAt, List.getElem?_eq_getElem within]
        simpa using before other below
      · simp only [takeActive, search, found]

theorem keeps_takeActive (ring : KeyRing) (now : Nat) : Keeps ring (ring.takeActive now).2 := by
  cases ring.takeCase now with
  | none _ result =>
      rw [result]
  | taken found _ _ result =>
      rw [result]
      exact ⟨rfl, map_key_set found rfl⟩

/-- Taking a key into use frees none and parks none. -/
theorem free_takeActive (ring : KeyRing) (now : Nat) :
    (ring.takeActive now).2.free now = ring.free now := by
  cases ring.takeCase now with
  | none _ result => rw [result]
  | @taken index entry found usable _ result =>
      obtain ⟨inside, -⟩ := List.getElem?_eq_some_iff.mp found
      rw [result]
      ext other
      rw [mem_free, mem_free, isUsableAt_set inside]
      split
      · rename_i same
        have before : isUsableAt ring.entries now other = true := by
          simpa [isUsableAt, ← same, found] using usable
        rw [before]
        rfl
      · rfl

theorem mem_free_of_takeActive {ring : KeyRing} {now index : Nat} {key : Secret}
    (taken : (ring.takeActive now).1 = some (index, key)) : index ∈ ring.free now := by
  cases ring.takeCase now with
  | none _ result =>
      rw [result] at taken
      cases taken
  | taken found usable _ result =>
      rw [result] at taken
      cases taken
      simpa [mem_free, isUsableAt, found] using usable

theorem keeps_recordSuccess (ring : KeyRing) (index : Nat) :
    Keeps ring (ring.recordSuccess index) := by
  rw [recordSuccess]
  split
  · exact ⟨rfl, rfl⟩
  · rename_i found
    exact ⟨rfl, map_key_set found rfl⟩

theorem keeps_park (ring : KeyRing) (now index : Nat) : Keeps ring (ring.park now index).2 := by
  rw [park]
  split
  · exact ⟨rfl, rfl⟩
  · rename_i found
    exact ⟨rfl, map_key_set found rfl⟩

/-- A key that is parked for some time is the only one that is not free any more. -/
theorem free_park {ring : KeyRing} (ordered : ring.settings.base ≤ ring.settings.limit)
    (lasting : 0 < ring.settings.base) (now index : Nat) :
    (ring.park now index).2.free now = (ring.free now).erase index := by
  rw [park]
  cases found : ring.entries[index]? with
  | none =>
      have absent : index ∉ ring.free now := by simp [mem_free, isUsableAt, found]
      rw [Finset.erase_eq_of_notMem absent]
  | some entry =>
      obtain ⟨inside, -⟩ := List.getElem?_eq_some_iff.mp found
      have limit := lasting.trans_le ordered
      have time := (ring.settings.parkingTime_pos_iff (entry.errors + 1)).mpr ⟨lasting, limit⟩
      ext other
      rw [mem_free, Finset.mem_erase, mem_free, isUsableAt_set inside]
      split
      · rename_i same
        have later : ¬now + ring.settings.parkingTime (entry.errors + 1) ≤ now := by omega
        simpa [same, Entry.isUsable] using later
      · rename_i different
        simp [Ne.symm different]

/-! ## Keys that are never parked -/

theorem free_park_of_base_eq_zero {ring : KeyRing} (zero : ring.settings.base = 0)
    (now index : Nat) : ring.free now ⊆ (ring.park now index).2.free now := by
  rw [park]
  cases found : ring.entries[index]? with
  | none => exact Finset.Subset.refl _
  | some entry =>
      obtain ⟨inside, -⟩ := List.getElem?_eq_some_iff.mp found
      intro other member
      rw [mem_free] at member ⊢
      rw [isUsableAt_set inside]
      split
      · simp [Entry.isUsable, Settings.parkingTime_of_base_eq_zero zero]
      · exact member

/-- The first key is taken as long as it is free. -/
theorem takeActive_of_first {ring : KeyRing} {now : Nat} (first : 0 ∈ ring.free now) :
    ∃ key after, ring.takeActive now = (some (0, key), after) := by
  rw [mem_free] at first
  cases ring.takeCase now with
  | none parked _ =>
      rw [isUsableAt, Option.any_eq_true] at first
      obtain ⟨entry, found, usable⟩ := first
      have idle := parked entry (List.mem_of_getElem? found)
      simp [idle] at usable
  | @taken index entry _ _ earliest result =>
      cases index with
      | zero => exact ⟨entry.key, _, result⟩
      | succ index =>
          have idle := earliest 0 (Nat.succ_pos index)
          simp [idle] at first

end ChatGateway.KeyRing
