import ChatGateway.Proofs.Resilience.Parking
import Mathlib.Algebra.Group.Nat.Defs

/-!
# Keys by their histories

A ring keeps for each key until when it is parked and how many errors it has met, and it points at
one of them.  It forgets a time that is over, and results may come late and for any key.

This module reads the history of its calls backwards instead.  Each mark opens a window that lasts
longer the more errors there are, and only the latest window of a key counts.  What a ring answers is
what the windows of its keys say.
-/

namespace ChatGateway.KeyRing

/-! ## Calls -/

/-- What a ring may be asked. -/
inductive Question where
  | current
  | size
  | usableCount
  | isParked (index : Nat)
  | errorCount (index : Nat)
  deriving DecidableEq, Repr, Inhabited

/-- What a ring may be told or asked. -/
inductive Call where
  | takeActive
  | park (index : Nat)
  | recordSuccess (index : Nat)
  | ask (question : Question)
  deriving DecidableEq, Repr, Inhabited

/-- Whether a call marks a key. -/
def Call.marks : Call → Bool
  | .park _ => true
  | _ => false

/-- Whether a call is about the key at a position. -/
def Call.concerns (index : Nat) : Call → Bool
  | .park other | .recordSuccess other => other = index
  | .takeActive | .ask _ => false

theorem Call.ne_of_not_concerns {call : Call} {index : Nat}
    (other : call.concerns index = false) :
    call ≠ .park index ∧ call ≠ .recordSuccess index := by
  constructor <;> (rintro rfl; simp [concerns] at other)

/-- A call and its time. -/
structure TimedCall where
  time : Nat
  call : Call
  deriving DecidableEq, Repr, Inhabited

/-- What a call makes of a ring.  A question leaves it as it is. -/
def perform (ring : KeyRing) (timed : TimedCall) : KeyRing :=
  match timed.call with
  | .takeActive => (ring.takeActive timed.time).2
  | .park index => (ring.park timed.time index).2
  | .recordSuccess index => ring.recordSuccess index
  | .ask _ => ring

/-- The ring after calls, the latest first. -/
def after (settings : Settings) (keys : List Secret) : List TimedCall → KeyRing
  | [] => new settings keys
  | timed :: earlier => (after settings keys earlier).perform timed

/-- Whether calls, the latest first, come one after the other and not later than a time. -/
def InOrder (now : Nat) (history : List TimedCall) : Prop :=
  (now :: history.map TimedCall.time).Pairwise (· ≥ ·)

/-! ## Histories -/

/-- The errors of a key after calls, the latest first: marks add one, successes take one back. -/
def errorsAfter (index : Nat) : List TimedCall → Nat
  | [] => 0
  | timed :: earlier =>
      if timed.call = .park index then errorsAfter index earlier + 1
      else if timed.call = .recordSuccess index then errorsAfter index earlier - 1
      else errorsAfter index earlier

/-- A mark of a key: its time and the errors just after it. -/
structure Mark where
  time : Nat
  errors : Nat
  deriving DecidableEq, Repr, Inhabited

/-- The latest mark of a key. -/
def latestMark? (index : Nat) : List TimedCall → Option Mark
  | [] => none
  | timed :: earlier =>
      if timed.call = .park index then some ⟨timed.time, errorsAfter index earlier + 1⟩
      else latestMark? index earlier

/-- When the window is over that a mark opens. -/
def Mark.deadline (settings : Settings) (mark : Mark) : Nat :=
  mark.time + min (settings.base * 2 ^ mark.errors) settings.limit

/-- Whether a key has never been marked or its latest window is over. -/
def isFree (settings : Settings) (history : List TimedCall) (now index : Nat) : Bool :=
  (latestMark? index history).all fun mark => decide (mark.deadline settings ≤ now)

section Histories

variable {settings : Settings} {history : List TimedCall} {timed : TimedCall} {index : Nat}

theorem errorsAfter_le (index : Nat) (history : List TimedCall) :
    errorsAfter index history ≤ history.countP fun timed => timed.call.marks := by
  induction history with
  | nil => exact Nat.le_refl 0
  | cons timed earlier ih =>
      rw [errorsAfter, List.countP_cons]
      split
      · rename_i marked
        rw [marked]
        exact Nat.succ_le_succ ih
      · split
        · exact ((Nat.sub_le _ 1).trans ih).trans (Nat.le_add_right _ _)
        · exact ih.trans (Nat.le_add_right _ _)

/-- A key has no more and no fewer errors after a call that is not about it. -/
theorem errorsAfter_of_not_concerns (other : timed.call.concerns index = false) :
    errorsAfter index (timed :: history) = errorsAfter index history := by
  obtain ⟨noMark, noSuccess⟩ := Call.ne_of_not_concerns other
  rw [errorsAfter, if_neg noMark, if_neg noSuccess]

theorem isFree_of_ne (other : timed.call ≠ .park index) (now : Nat) :
    isFree settings (timed :: history) now index = isFree settings history now index := by
  rw [isFree, latestMark?, if_neg other, isFree]

theorem isFree_of_park (time now index : Nat) :
    isFree settings (⟨time, .park index⟩ :: history) now index =
      decide ((⟨time, errorsAfter index history + 1⟩ : Mark).deadline settings ≤ now) := by
  rw [isFree, latestMark?, if_pos rfl]
  rfl

/-- A key that is free stays so until it is marked. -/
theorem isFree_mono {now later : Nat} (not_before : now ≤ later)
    (free : isFree settings history now index = true) :
    isFree settings history later index = true := by
  rw [isFree] at free ⊢
  cases marked : latestMark? index history with
  | none => rfl
  | some mark =>
      rw [marked] at free
      simp only [Option.all_some, decide_eq_true_iff] at free ⊢
      exact free.trans not_before

end Histories

/-! ## What a ring remembers -/

/-- What a ring remembers of its history from the time of the latest call on. -/
structure Remembers (settings : Settings) (keys : List Secret) (history : List TimedCall)
    (now : Nat) (ring : KeyRing) : Prop where
  same : ring.settings = settings
  keys : ring.entries.map Entry.key = keys
  errors : ∀ index entry, ring.entries[index]? = some entry →
    entry.errors = errorsAfter index history
  usable : ∀ index entry, ring.entries[index]? = some entry → ∀ later, now ≤ later →
    entry.isUsable later = isFree settings history later index
  current : ring.current < ring.size ∨ ring.current = 0

section Steps

variable {settings : Settings} {keys : List Secret} {history : List TimedCall} {now : Nat}
  {ring : KeyRing}

theorem remembers_new (settings : Settings) (keys : List Secret) (now : Nat) :
    Remembers settings keys [] now (new settings keys) := by
  have fresh (index : Nat) (entry : Entry)
      (found : (new settings keys).entries[index]? = some entry) :
      entry.parkedUntil = none ∧ entry.errors = 0 := by
    simp only [new, List.getElem?_map, Option.map_eq_some_iff] at found
    obtain ⟨key, -, rfl⟩ := found
    exact ⟨rfl, rfl⟩
  constructor
  · rfl
  · rw [new, List.map_map]
    exact List.map_id keys
  · intro index entry found
    exact (fresh index entry found).2
  · intro index entry found later _
    rw [Entry.isUsable, (fresh index entry found).1]
    rfl
  · exact .inr rfl

theorem Remembers.size (remembers : Remembers settings keys history now ring) :
    ring.size = keys.length := by
  rw [KeyRing.size, ← remembers.keys, List.length_map]

/-- As a ring is asked later, it remembers no less. -/
theorem Remembers.later (remembers : Remembers settings keys history now ring) {later : Nat}
    (not_before : now ≤ later) : Remembers settings keys history later ring where
  same := remembers.same
  keys := remembers.keys
  errors := remembers.errors
  usable := fun index entry found last within =>
    remembers.usable index entry found last (not_before.trans within)
  current := remembers.current

/-- A position without a key is never usable; others are as their history says. -/
theorem Remembers.isUsableAt_eq (remembers : Remembers settings keys history now ring) (index : Nat) :
    isUsableAt ring.entries now index =
      (decide (index < keys.length) && isFree settings history now index) := by
  rw [isUsableAt, ← remembers.size, KeyRing.size]
  cases found : ring.entries[index]? with
  | none =>
      have outside := List.getElem?_eq_none_iff.mp found
      simp [Nat.not_lt.mpr outside]
  | some entry =>
      have inside := (List.getElem?_eq_some_iff.mp found).1
      simp [inside, remembers.usable index entry found now (Nat.le_refl now)]

/-- What is left to see where only the entry of one key changes. -/
theorem Remembers.of_set (remembers : Remembers settings keys history now ring)
    {timed : TimedCall} {index current : Nat} {entry : Entry} (changed : Entry)
    (found : ring.entries[index]? = some entry) (same : changed.key = entry.key)
    (errors : changed.errors = errorsAfter index (timed :: history))
    (usable : ∀ later, now ≤ later →
      changed.isUsable later = isFree settings (timed :: history) later index)
    (others : ∀ other, other ≠ index → timed.call.concerns other = false)
    (inside : current < ring.size ∨ current = 0) :
    Remembers settings keys (timed :: history) now
      { ring with entries := ring.entries.set index changed, current } := by
  have split (other : Nat) (met : Entry)
      (member : (ring.entries.set index changed)[other]? = some met) :
      (other = index ∧ met = changed) ∨ (other ≠ index ∧ ring.entries[other]? = some met) := by
    rw [List.getElem?_set] at member
    split at member
    · rename_i equal
      split at member
      · exact .inl ⟨equal.symm, (Option.some.inj member).symm⟩
      · cases member
    · rename_i different
      exact .inr ⟨Ne.symm different, member⟩
  constructor
  · exact remembers.same
  · rw [map_key_set found same]
    exact remembers.keys
  · intro other met member
    cases split other met member with
    | inl own =>
        rw [own.1, own.2]
        exact errors
    | inr different =>
        rw [errorsAfter_of_not_concerns (others other different.1)]
        exact remembers.errors other met different.2
  · intro other met member later within
    cases split other met member with
    | inl own =>
        rw [own.1, own.2]
        exact usable later within
    | inr different =>
        rw [isFree_of_ne (Call.ne_of_not_concerns (others other different.1)).1]
        exact remembers.usable other met different.2 later within
  · simp only [KeyRing.size, List.length_set]
    exact inside

/-- A call that is about no key of the ring, and does nothing, is as none. -/
theorem Remembers.of_idle (remembers : Remembers settings keys history now ring)
    {timed : TimedCall} (idle : ∀ index < keys.length, timed.call.concerns index = false) :
    Remembers settings keys (timed :: history) now ring := by
  have inside {index : Nat} {entry : Entry} (found : ring.entries[index]? = some entry) :
      index < keys.length := by
    rw [← remembers.size]
    exact (List.getElem?_eq_some_iff.mp found).1
  constructor
  · exact remembers.same
  · exact remembers.keys
  · intro index entry found
    rw [errorsAfter_of_not_concerns (idle index (inside found))]
    exact remembers.errors index entry found
  · intro index entry found later within
    rw [isFree_of_ne (Call.ne_of_not_concerns (idle index (inside found))).1]
    exact remembers.usable index entry found later within
  · exact remembers.current

/-- A call that is about a position without a key is about no key. -/
theorem Remembers.concerns_of_absent (remembers : Remembers settings keys history now ring)
    {index : Nat} (absent : ring.size ≤ index) (other : Nat) (within : other < keys.length) :
    decide (index = other) = false := by
  rw [← remembers.size] at within
  exact decide_eq_false (Nat.ne_of_gt (within.trans_le absent))

/-- Taking a key into use forgets a window that is over. -/
theorem Remembers.takeActive (remembers : Remembers settings keys history now ring) :
    Remembers settings keys (⟨now, .takeActive⟩ :: history) now (ring.takeActive now).2 := by
  cases ring.takeCase now with
  | none _ result =>
      rw [result]
      exact remembers.of_idle fun index _ => rfl
  | @taken index entry found usable _ result =>
      rw [result]
      apply remembers.of_set { entry with parkedUntil := none } found rfl
      · exact remembers.errors index entry found
      · intro later within
        rw [isFree_of_ne Call.noConfusion]
        rw [remembers.usable index entry found now (Nat.le_refl now)] at usable
        exact (isFree_mono within usable).symm
      · exact fun other _ => rfl
      · exact .inl (List.getElem?_eq_some_iff.mp found).1

/-- The next usable position is the nearest one after. -/
theorem nextUsable?_eq_some {entries : List Entry} {now index next : Nat}
    (found : nextUsable? entries now index = some next) :
    ∃ places, 0 < places ∧ places < entries.length ∧
      next = (index + places) % entries.length ∧ isUsableAt entries now next = true ∧
      ∀ nearer, 0 < nearer → nearer < places →
        isUsableAt entries now ((index + nearer) % entries.length) = false := by
  rw [nextUsable?, List.find?_map, Option.map_eq_some_iff] at found
  obtain ⟨offset, first, rfl⟩ := found
  obtain ⟨usable, member, earlier⟩ := List.find?_range_eq_some.mp first
  refine ⟨offset + 1, Nat.succ_pos offset, ?_, rfl, usable, ?_⟩
  · exact Nat.add_lt_of_lt_sub (List.mem_range.mp member)
  · intro nearer positive below
    cases nearer with
    | zero => exact (Nat.lt_irrefl 0 positive).elim
    | succ place =>
        have idle := earlier place (Nat.lt_of_succ_lt_succ below)
        rw [Bool.not_eq_true'] at idle
        exact idle

/-- Some position is next if another one is usable, as one comes by all of them. -/
theorem isSome_nextUsable? {entries : List Entry} {now index other : Nat}
    (inside : index < entries.length) (within : other < entries.length) (different : other ≠ index)
    (usable : isUsableAt entries now other = true) :
    (nextUsable? entries now index).isSome = true := by
  rw [nextUsable?, List.find?_isSome]
  refine ⟨other, List.mem_map.mpr ?_, usable⟩
  cases Nat.lt_or_gt_of_ne different with
  | inl before =>
      refine ⟨other + entries.length - index - 1, List.mem_range.mpr (by omega), ?_⟩
      have round : index + (other + entries.length - index - 1) + 1 = other + entries.length := by
        omega
      rw [round, Nat.add_mod_right, Nat.mod_eq_of_lt within]
  | inr behind =>
      refine ⟨other - index - 1, List.mem_range.mpr (by omega), ?_⟩
      have straight : index + (other - index - 1) + 1 = other := by omega
      rw [straight, Nat.mod_eq_of_lt within]

/-- A key with one error more, and parked for it. -/
def Entry.marked (settings : Settings) (now : Nat) (entry : Entry) : Entry :=
  { entry with
    parkedUntil := some (now + settings.parkingTime (entry.errors + 1))
    errors := entry.errors + 1 }

theorem park_of_found {index : Nat} {entry : Entry} (found : ring.entries[index]? = some entry)
    (now : Nat) :
    (ring.park now index).2 =
      { ring with
        entries := ring.entries.set index (entry.marked ring.settings now)
        current := (nextUsable? (ring.entries.set index (entry.marked ring.settings now)) now
          index).getD ring.current } := by
  rw [park, found]
  rfl

theorem park_of_absent {index : Nat} (absent : ring.size ≤ index) (now : Nat) :
    (ring.park now index).2 = ring := by
  rw [park, List.getElem?_eq_none absent]

theorem recordSuccess_of_absent {index : Nat} (absent : ring.size ≤ index) :
    ring.recordSuccess index = ring := by
  rw [recordSuccess, List.getElem?_eq_none absent]

/-- A mark opens a window for its key and moves on from it. -/
theorem Remembers.park (remembers : Remembers settings keys history now ring)
    (fits : settings.limit < Word.size 64) (index : Nat) :
    Remembers settings keys (⟨now, .park index⟩ :: history) now (ring.park now index).2 := by
  cases found : ring.entries[index]? with
  | none =>
      have absent : ring.size ≤ index := List.getElem?_eq_none_iff.mp found
      rw [park_of_absent absent]
      exact remembers.of_idle (remembers.concerns_of_absent absent)
  | some entry =>
      have inside := (List.getElem?_eq_some_iff.mp found).1
      have errors := remembers.errors index entry found
      rw [park_of_found found]
      apply remembers.of_set (entry.marked ring.settings now) found rfl
      · rw [errorsAfter, if_pos rfl]
        exact congrArg (· + 1) errors
      · intro later _
        rw [isFree_of_park, Mark.deadline, ← Settings.parkingTime_eq fits, ← errors,
          ← remembers.same]
        rfl
      · exact fun other different => decide_eq_false (Ne.symm different)
      · cases next : nextUsable? _ now index with
        | none => exact remembers.current
        | some position =>
            obtain ⟨places, -, below, rfl, -⟩ := nextUsable?_eq_some next
            rw [List.length_set]
            exact .inl (Nat.mod_lt _ (Nat.zero_lt_of_lt inside))

/-- A success, also one that comes late, opens and closes no window. -/
theorem Remembers.recordSuccess (remembers : Remembers settings keys history now ring)
    (index : Nat) :
    Remembers settings keys (⟨now, .recordSuccess index⟩ :: history) now
      (ring.recordSuccess index) := by
  cases found : ring.entries[index]? with
  | none =>
      have absent : ring.size ≤ index := List.getElem?_eq_none_iff.mp found
      rw [recordSuccess_of_absent absent]
      exact remembers.of_idle (remembers.concerns_of_absent absent)
  | some entry =>
      rw [KeyRing.recordSuccess, found]
      apply remembers.of_set { entry with errors := entry.errors - 1 } found rfl
      · rw [errorsAfter, if_neg Call.noConfusion, if_pos rfl]
        exact congrArg (· - 1) (remembers.errors index entry found)
      · intro later within
        rw [isFree_of_ne Call.noConfusion]
        exact remembers.usable index entry found later within
      · exact fun other different => decide_eq_false (Ne.symm different)
      · exact remembers.current

theorem Remembers.perform {timed : TimedCall}
    (remembers : Remembers settings keys history timed.time ring)
    (fits : settings.limit < Word.size 64) :
    Remembers settings keys (timed :: history) timed.time (ring.perform timed) := by
  obtain ⟨time, call⟩ := timed
  cases call with
  | takeActive => exact remembers.takeActive
  | park index => exact remembers.park fits index
  | recordSuccess index => exact remembers.recordSuccess index
  | ask question =>
      exact remembers.of_idle fun index _ => rfl

/-- After calls in their order, a ring remembers all of them. -/
theorem remembers_after (fits : settings.limit < Word.size 64) (ordered : InOrder now history) :
    Remembers settings keys history now (after settings keys history) := by
  induction history generalizing now with
  | nil => exact remembers_new settings keys now
  | cons timed earlier ih =>
      obtain ⟨latest, before⟩ := List.pairwise_cons.mp ordered
      apply ((ih before).perform fits).later
      exact latest timed.time List.mem_cons_self

end Steps

/-! ## What a ring answers -/

/-- Whether a ring with a history answers and moves as the history says. -/
structure Reflects (settings : Settings) (keys : List Secret) (history : List TimedCall)
    (now : Nat) (ring : KeyRing) : Prop where
  /-- The first free key is taken. -/
  taken : ∀ index key, (ring.takeActive now).1 = some (index, key) ↔
    keys[index]? = some key ∧ isFree settings history now index = true ∧
      ∀ other < index, isFree settings history now other = false
  none_taken : (ring.takeActive now).1 = none ↔
    ∀ index < keys.length, isFree settings history now index = false
  parked : ∀ index, ring.isParked now index = true ↔
    index < keys.length ∧ isFree settings history now index = false
  counted : ring.usableCount now = (List.range keys.length).countP (isFree settings history now)
  errors : ∀ index < keys.length, ring.errorCount index = errorsAfter index history
  errors_fit : ∀ index, errorsAfter index history < Word.size 32
  current : keys ≠ [] → ring.current < keys.length
  /-- A mark that leaves another key free moves to the nearest one. -/
  moved : ∀ index < keys.length,
    (∃ other < keys.length, other ≠ index ∧
      isFree settings (⟨now, .park index⟩ :: history) now other = true) →
    ∃ places, 0 < places ∧ places < keys.length ∧
      (ring.park now index).2.current = (index + places) % keys.length ∧
      isFree settings (⟨now, .park index⟩ :: history) now ((index + places) % keys.length) = true ∧
      ∀ nearer, 0 < nearer → nearer < places →
        isFree settings (⟨now, .park index⟩ :: history) now ((index + nearer) % keys.length) =
          false
  absent : ∀ index, keys.length ≤ index →
    (ring.park now index).2 = ring ∧ ring.recordSuccess index = ring

section Answers

variable {settings : Settings} {keys : List Secret} {history : List TimedCall} {now : Nat}
  {ring : KeyRing}

/-- Of the positions with a key, those are usable that the history says are free. -/
theorem Remembers.isUsableAt_of_lt (remembers : Remembers settings keys history now ring)
    {index : Nat} (inside : index < keys.length) :
    isUsableAt ring.entries now index = isFree settings history now index := by
  rw [remembers.isUsableAt_eq, decide_eq_true inside, Bool.true_and]

theorem Remembers.key (remembers : Remembers settings keys history now ring) (index : Nat) :
    keys[index]? = ring.entries[index]?.map Entry.key := by
  rw [← remembers.keys, List.getElem?_map]

theorem Remembers.takeActive_eq_some_iff (remembers : Remembers settings keys history now ring)
    (index : Nat) (key : Secret) :
    (ring.takeActive now).1 = some (index, key) ↔
      keys[index]? = some key ∧ isFree settings history now index = true ∧
        ∀ other < index, isFree settings history now other = false := by
  rw [remembers.key, Option.map_eq_some_iff]
  cases ring.takeCase now with
  | none parked result =>
      rw [result]
      constructor
      · exact nofun
      · rintro ⟨⟨entry, found, -⟩, free, -⟩
        rw [← remembers.usable index entry found now (Nat.le_refl now),
          parked entry (List.mem_of_getElem? found)] at free
        cases free
  | @taken least entry found usable first result =>
      have inside := (List.getElem?_eq_some_iff.mp found).1
      have free := remembers.usable least entry found now (Nat.le_refl now)
      rw [usable] at free
      have below (other : Nat) (before : other < least) :
          isFree settings history now other = false := by
        rw [← remembers.isUsableAt_of_lt (remembers.size ▸ before.trans inside)]
        exact first other before
      rw [result]
      constructor
      · rintro ⟨⟩
        exact ⟨⟨entry, found, rfl⟩, free.symm, below⟩
      · rintro ⟨⟨other, member, rfl⟩, own, earlier⟩
        have same : least = index := by
          apply Nat.le_antisymm
          · apply Nat.le_of_not_lt
            intro before
            rw [below index before] at own
            cases own
          · apply Nat.le_of_not_lt
            intro before
            rw [earlier least before] at free
            cases free
        rw [same, member] at found
        rw [same, Option.some.inj found]

theorem Remembers.takeActive_eq_none_iff (remembers : Remembers settings keys history now ring) :
    (ring.takeActive now).1 = none ↔
      ∀ index < keys.length, isFree settings history now index = false := by
  cases ring.takeCase now with
  | none parked result =>
      rw [result]
      refine iff_of_true rfl ?_
      intro index inside
      rw [← remembers.size] at inside
      have found := List.getElem?_eq_getElem inside
      rw [← remembers.usable index _ found now (Nat.le_refl now)]
      exact parked _ (List.getElem_mem inside)
  | @taken least entry found usable _ result =>
      rw [result]
      refine iff_of_false nofun ?_
      intro parked
      have inside := (List.getElem?_eq_some_iff.mp found).1
      have free := remembers.usable least entry found now (Nat.le_refl now)
      rw [usable, parked least (remembers.size ▸ inside)] at free
      cases free

theorem Remembers.isParked_iff (remembers : Remembers settings keys history now ring)
    (index : Nat) :
    ring.isParked now index = true ↔
      index < keys.length ∧ isFree settings history now index = false := by
  rw [isParked, ← remembers.size]
  cases found : ring.entries[index]? with
  | none =>
      have outside := List.getElem?_eq_none_iff.mp found
      exact iff_of_false nofun fun both => Nat.not_lt.mpr outside both.1
  | some entry =>
      have inside : index < ring.size := (List.getElem?_eq_some_iff.mp found).1
      rw [← remembers.usable index entry found now (Nat.le_refl now), Option.any_some,
        Bool.not_eq_true', and_iff_right inside]

theorem Remembers.usableCount_eq (remembers : Remembers settings keys history now ring) :
    ring.usableCount now = (List.range keys.length).countP (isFree settings history now) := by
  have positions : ring.entries.map (fun entry => entry.isUsable now) =
      (List.range keys.length).map (isFree settings history now) := by
    rw [← remembers.size]
    apply List.ext_getElem?
    intro index
    rw [List.getElem?_map, List.getElem?_map]
    cases found : ring.entries[index]? with
    | none =>
        have outside : ring.size ≤ index := List.getElem?_eq_none_iff.mp found
        rw [List.getElem?_eq_none ((List.length_range).trans_le outside)]
        rfl
    | some entry =>
        have inside : index < ring.size := (List.getElem?_eq_some_iff.mp found).1
        rw [List.getElem?_range inside]
        exact congrArg some (remembers.usable index entry found now (Nat.le_refl now))
  have counts := congrArg (List.countP id) positions
  rwa [List.countP_map, List.countP_map] at counts

theorem Remembers.errorCount_eq (remembers : Remembers settings keys history now ring)
    {index : Nat} (inside : index < keys.length) :
    ring.errorCount index = errorsAfter index history := by
  rw [← remembers.size] at inside
  have found := List.getElem?_eq_getElem inside
  rw [errorCount, found]
  exact remembers.errors index _ found

/-- A mark that leaves another key free moves to the nearest one. -/
theorem Remembers.moved (remembers : Remembers settings keys history now ring)
    (fits : settings.limit < Word.size 64) {index : Nat} (inside : index < keys.length)
    (left : ∃ other < keys.length, other ≠ index ∧
      isFree settings (⟨now, .park index⟩ :: history) now other = true) :
    ∃ places, 0 < places ∧ places < keys.length ∧
      (ring.park now index).2.current = (index + places) % keys.length ∧
      isFree settings (⟨now, .park index⟩ :: history) now ((index + places) % keys.length) = true ∧
      ∀ nearer, 0 < nearer → nearer < places →
        isFree settings (⟨now, .park index⟩ :: history) now ((index + nearer) % keys.length) =
          false := by
  have round (places : Nat) : (index + places) % keys.length < keys.length :=
    Nat.mod_lt _ (Nat.zero_lt_of_lt inside)
  have parked := remembers.park fits index
  have own : index < ring.entries.length := inside.trans_eq remembers.size.symm
  rw [park_of_found (List.getElem?_eq_getElem own)] at parked ⊢
  generalize ring.entries.set index _ = entries at parked ⊢
  have size : entries.length = keys.length := parked.size
  obtain ⟨other, within, different, free⟩ := left
  rw [← parked.isUsableAt_of_lt within] at free
  rw [← size] at inside within
  have moves := isSome_nextUsable? inside within different free
  obtain ⟨next, found⟩ := Option.isSome_iff_exists.mp moves
  obtain ⟨places, positive, below, rfl, usable, idle⟩ := nextUsable?_eq_some found
  rw [size] at below usable found idle
  refine ⟨places, positive, below, ?_, ?_, ?_⟩
  · rw [found]
    rfl
  · rw [← parked.isUsableAt_of_lt (round places)]
    exact usable
  · intro nearer first before
    rw [← parked.isUsableAt_of_lt (round nearer)]
    exact idle nearer first before

/-- After calls in their order, whatever their positions, a ring answers as its history says. -/
theorem reflects_after (settings : Settings) (keys : List Secret)
    (fits : settings.limit < Word.size 64) (ordered : InOrder now history)
    (few : (history.countP fun timed => timed.call.marks) < Word.size 32) :
    Reflects settings keys history now (after settings keys history) := by
  have remembers : Remembers settings keys history now (after settings keys history) :=
    remembers_after fits ordered
  constructor
  · exact remembers.takeActive_eq_some_iff
  · exact remembers.takeActive_eq_none_iff
  · exact remembers.isParked_iff
  · exact remembers.usableCount_eq
  · intro index inside
    exact remembers.errorCount_eq inside
  · intro index
    exact (errorsAfter_le index history).trans_lt few
  · intro some
    have positive := List.length_pos_iff.mpr some
    cases remembers.current with
    | inl below => exact remembers.size ▸ below
    | inr zero =>
        rw [zero]
        exact positive
  · intro index inside left
    exact remembers.moved fits inside left
  · intro index outside
    rw [← remembers.size] at outside
    exact ⟨park_of_absent outside now, recordSuccess_of_absent outside⟩

/-- The first key comes back after its window; the second, marked twice, does after the later one,
and one late success has not made that shorter. -/
theorem reflects_after_late_results :
    let settings : Settings := ⟨100, 1000⟩
    let keys : List Secret := [⟨"first"⟩, ⟨"second"⟩, ⟨"third"⟩]
    let history : List TimedCall :=
      [⟨420, .recordSuccess 1⟩, ⟨400, .ask .usableCount⟩, ⟨310, .park 9⟩, ⟨300, .park 1⟩,
        ⟨250, .takeActive⟩, ⟨200, .park 1⟩, ⟨10, .recordSuccess 2⟩, ⟨0, .park 0⟩]
    let ring := after settings keys history
    InOrder 699 history ∧ Reflects settings keys history 699 ring ∧
      Reflects settings keys history 700 ring ∧
      (ring.takeActive 699).1 = some (0, ⟨"first"⟩) ∧ ring.current = 2 ∧
      ring.isParked 699 1 = true ∧ ring.usableCount 700 = 3 ∧ ring.errorCount 1 = 1 := by
  intro settings keys history ring
  have fits : settings.limit < Word.size 64 := by decide
  have few : (history.countP fun timed => timed.call.marks) < Word.size 32 := by decide
  have ordered : InOrder 699 history := by simp [InOrder, history]
  have later : InOrder 700 history := by simp [InOrder, history]
  refine ⟨ordered, reflects_after settings keys fits ordered few,
    reflects_after settings keys fits later few, ?_⟩
  decide

/-- Without keys the current position is not below their number, and a mark of a position without a
key does not move on, wherever one ends up by going round. -/
theorem after_without_key :
    let settings : Settings := ⟨50, 1000⟩
    let keys : List Secret := [⟨"first"⟩, ⟨"second"⟩, ⟨"third"⟩]
    let history : List TimedCall := [⟨1000, .park 4⟩, ⟨0, .park 0⟩]
    ¬(after settings [] []).current < ([] : List Secret).length ∧
      (4 + 1) % keys.length = 2 ∧ isFree settings history 1000 2 = true ∧
      (after settings keys history).current = 1 := by
  decide

end Answers

end ChatGateway.KeyRing
