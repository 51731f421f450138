import ChatGateway.Proofs.Resilience.Operations

/-!
# Failures that are told apart

A rate limit is a matter of a provider's ring, and every other failure is at most a matter of its
breaker.  So what is asked of one of the two does not show what was reported to the other one,
except that a breaker which refuses a call keeps the ring from taking a key into use.
-/

namespace ChatGateway

/-! ## Rings that say the same -/

namespace KeyRing

/-- Entries that say the same from a time on. -/
structure Entry.Alike (now : Nat) (one other : Entry) : Prop where
  key : one.key = other.key
  errors : one.errors = other.errors
  usable : ∀ time, now ≤ time → one.isUsable time = other.isUsable time

variable {now time index : Nat}

theorem Entry.Alike.refl (now : Nat) (entry : Entry) : Entry.Alike now entry entry :=
  ⟨rfl, rfl, fun _ _ => rfl⟩

theorem Entry.Alike.symm {one other : Entry} (alike : Entry.Alike now one other) :
    Entry.Alike now other one :=
  ⟨alike.key.symm, alike.errors.symm, fun time later => (alike.usable time later).symm⟩

theorem Entry.Alike.trans {one two three : Entry} (first : Entry.Alike now one two)
    (second : Entry.Alike now two three) : Entry.Alike now one three :=
  ⟨first.key.trans second.key, first.errors.trans second.errors,
    fun time later => (first.usable time later).trans (second.usable time later)⟩

theorem Entry.Alike.later {one other : Entry} (alike : Entry.Alike now one other)
    (later : now ≤ time) : Entry.Alike time one other :=
  ⟨alike.key, alike.errors, fun moment after => alike.usable moment (later.trans after)⟩

/-- An entry that may be used may be used from then on. -/
theorem Entry.isUsable_of_le {entry : Entry} (usable : entry.isUsable now = true)
    (later : now ≤ time) : entry.isUsable time = true := by
  rw [isUsable, Option.all_eq_true] at usable ⊢
  intro parked member
  simpa using Nat.le_trans (by simpa using usable parked member) later

/-- It does not matter that a time for which a key was parked is over. -/
theorem Entry.Alike.of_isUsable {entry : Entry} (usable : entry.isUsable now = true) :
    Entry.Alike now entry { entry with parkedUntil := none } :=
  ⟨rfl, rfl, fun _ later => Entry.isUsable_of_le usable later⟩

/-- Rings that say the same from a time on, except for the position in use. -/
structure Alike (now : Nat) (one other : KeyRing) : Prop where
  settings : one.settings = other.settings
  entries : ∀ index : Nat, Option.Rel (Entry.Alike now) one.entries[index]? other.entries[index]?

theorem rel_set {relation : Entry → Entry → Prop} {entries others : List Entry}
    (related : ∀ index : Nat, Option.Rel relation entries[index]? others[index]?)
    {entry other : Entry} (same : relation entry other) (index position : Nat) :
    Option.Rel relation (entries.set index entry)[position]?
      (others.set index other)[position]? := by
  rw [List.getElem?_set', List.getElem?_set']
  split
  · have here := related position
    generalize entries[position]? = before at here
    generalize others[position]? = after at here
    cases here with
    | none => exact .none
    | some => exact .some same
  · exact related position

theorem Alike.refl (now : Nat) (ring : KeyRing) : Alike now ring ring where
  settings := rfl
  entries index := by
    cases ring.entries[index]? with
    | none => exact .none
    | some entry => exact .some (.refl now entry)

variable {one other : KeyRing}

theorem Alike.symm (alike : Alike now one other) : Alike now other one where
  settings := alike.settings.symm
  entries index := by
    have here := alike.entries index
    generalize one.entries[index]? = before at here ⊢
    generalize other.entries[index]? = after at here ⊢
    cases here with
    | none => exact .none
    | some same => exact .some same.symm

theorem Alike.trans {one two three : KeyRing} (first : Alike now one two)
    (second : Alike now two three) : Alike now one three where
  settings := first.settings.trans second.settings
  entries index := Ledger.rel_trans Entry.Alike.trans (first.entries index) (second.entries index)

theorem Alike.later (alike : Alike now one other) (later : now ≤ time) : Alike time one other where
  settings := alike.settings
  entries index := Ledger.rel_mono (alike.entries index) fun same => same.later later

theorem Alike.isUsableAt (alike : Alike now one other) :
    isUsableAt one.entries now = isUsableAt other.entries now := by
  funext index
  have here := alike.entries index
  rw [KeyRing.isUsableAt, KeyRing.isUsableAt]
  generalize one.entries[index]? = before at here ⊢
  generalize other.entries[index]? = after at here ⊢
  cases here with
  | none => rfl
  | some same => exact same.usable now le_rfl

theorem Alike.length (alike : Alike now one other) : one.entries.length = other.entries.length := by
  have ends (index : Nat) : one.entries.length ≤ index ↔ other.entries.length ≤ index := by
    have here := alike.entries index
    rw [← List.getElem?_eq_none_iff, ← List.getElem?_eq_none_iff]
    generalize one.entries[index]? = before at here ⊢
    generalize other.entries[index]? = after at here ⊢
    cases here <;> simp
  exact Nat.le_antisymm ((ends _).mpr le_rfl) ((ends _).mp le_rfl)

/-- Taking a key into use does not show from then on, except in the position in use. -/
theorem alike_takeActive (ring : KeyRing) (now : Nat) : Alike now ring (ring.takeActive now).2 := by
  cases ring.takeCase now with
  | none _ result =>
      rw [result]
      exact .refl now ring
  | @taken index entry found usable _ result =>
      rw [result]
      refine ⟨rfl, fun position => ?_⟩
      have own : ring.entries.set index entry = ring.entries := by
        obtain ⟨inside, rfl⟩ := List.getElem?_eq_some_iff.mp found
        exact List.set_getElem_self inside
      have same := rel_set (Alike.refl now ring).entries (.of_isUsable usable) index position
      rwa [own] at same

theorem Alike.takeActive (alike : Alike now one other) :
    Alike now (one.takeActive now).2 (other.takeActive now).2 :=
  (one.alike_takeActive now).symm.trans (alike.trans (other.alike_takeActive now))

/-- Rings that say the same deal out the same key. -/
theorem Alike.takeActive_fst (alike : Alike now one other) :
    (one.takeActive now).1 = (other.takeActive now).1 := by
  have usableAt {ring : KeyRing} {index : Nat} {entry : Entry}
      (found : ring.entries[index]? = some entry) (usable : entry.isUsable now = true) :
      KeyRing.isUsableAt ring.entries now index = true := by
    simp [KeyRing.isUsableAt, found, usable]
  have idle {ring : KeyRing} (parked : ∀ entry ∈ ring.entries, entry.isUsable now = false)
      (index : Nat) : KeyRing.isUsableAt ring.entries now index = false := by
    rw [KeyRing.isUsableAt, Option.any_eq_false]
    intro entry found
    simp [parked entry (List.mem_of_getElem? found)]
  cases one.takeCase now with
  | none parked result =>
      cases other.takeCase now with
      | none _ resultToo => rw [result, resultToo]
      | @taken index _ found usable _ _ =>
          have conflict := usableAt found usable
          rw [← alike.isUsableAt, idle parked] at conflict
          cases conflict
  | @taken index entry found usable first result =>
      have free := usableAt found usable
      cases other.takeCase now with
      | none parked _ =>
          rw [alike.isUsableAt, idle parked] at free
          cases free
      | @taken position entryToo foundToo usableToo firstToo resultToo =>
          have freeToo := usableAt foundToo usableToo
          obtain rfl : index = position := by
            rcases Nat.lt_trichotomy index position with less | same | more
            · rw [alike.isUsableAt, firstToo index less] at free
              cases free
            · exact same
            · rw [← alike.isUsableAt, first position more] at freeToo
              cases freeToo
          have here := alike.entries index
          rw [found, foundToo] at here
          cases here with
          | some same => rw [result, resultToo, same.key]

/-- The position in use after a key was asked for. -/
theorem current_takeActive (ring : KeyRing) (now : Nat) :
    (ring.takeActive now).2.current =
      (((ring.takeActive now).1.map Prod.fst).getD ring.current) := by
  cases ring.takeCase now with
  | none _ result => rw [result]; rfl
  | taken _ _ _ result => rw [result]; rfl

theorem Alike.recordSuccess (alike : Alike now one other) (index : Nat) :
    Alike now (one.recordSuccess index) (other.recordSuccess index) := by
  have here := alike.entries index
  rw [KeyRing.recordSuccess, KeyRing.recordSuccess]
  cases found : one.entries[index]? with
  | none =>
      rw [found] at here
      generalize other.entries[index]? = after at here
      cases here
      exact alike
  | some entry =>
      rw [found] at here
      generalize other.entries[index]? = after at here
      cases here with
      | some same =>
          refine ⟨alike.settings, rel_set alike.entries ?_ index⟩
          exact ⟨same.key, congrArg (· - 1) same.errors, same.usable⟩

theorem current_recordSuccess (ring : KeyRing) (index : Nat) :
    (ring.recordSuccess index).current = ring.current := by
  rw [KeyRing.recordSuccess]
  split <;> rfl

theorem Alike.park (alike : Alike now one other) (index : Nat) :
    Alike now (one.park now index).2 (other.park now index).2 ∧
      (one.current = other.current →
        (one.park now index).2.current = (other.park now index).2.current) := by
  have here := alike.entries index
  rw [KeyRing.park, KeyRing.park]
  cases found : one.entries[index]? with
  | none =>
      rw [found] at here
      generalize other.entries[index]? = after at here
      cases here
      exact ⟨alike, id⟩
  | some entry =>
      rw [found] at here
      generalize other.entries[index]? = after at here
      cases here with
      | @some _ entryToo same =>
          obtain ⟨key, parkedUntil, errors⟩ := entry
          obtain ⟨keyToo, parkedUntilToo, errorsToo⟩ := entryToo
          obtain rfl : key = keyToo := same.key
          obtain rfl : errors = errorsToo := same.errors
          dsimp only
          rw [alike.settings]
          let parked : Entry :=
            ⟨key, some (now + other.settings.parkingTime (errors + 1)), errors + 1⟩
          have alikeToo : Alike now { one with entries := one.entries.set index parked }
              { other with entries := other.entries.set index parked } :=
            ⟨alike.settings, rel_set alike.entries (.refl now parked) index⟩
          refine ⟨⟨rfl, alikeToo.entries⟩, fun together => ?_⟩
          have next : nextUsable? (one.entries.set index parked) now index =
              nextUsable? (other.entries.set index parked) now index := by
            rw [nextUsable?, nextUsable?, alikeToo.isUsableAt, alikeToo.length]
          exact congrArg₂ Option.getD next together

/-- A success does not park a key, and does not free one. -/
theorem free_recordSuccess (ring : KeyRing) (now index : Nat) :
    (ring.recordSuccess index).free now = ring.free now := by
  rw [KeyRing.recordSuccess]
  cases found : ring.entries[index]? with
  | none => rfl
  | some entry =>
      obtain ⟨inside, -⟩ := List.getElem?_eq_some_iff.mp found
      ext other
      rw [mem_free, mem_free, isUsableAt_set inside]
      split
      · rename_i same
        subst same
        rw [KeyRing.isUsableAt, found, Option.any_some]
        rfl
      · rfl

theorem free_mono (ring : KeyRing) (later : now ≤ time) : ring.free now ⊆ ring.free time := by
  intro index member
  rw [mem_free, KeyRing.isUsableAt, Option.any_eq_true] at member ⊢
  obtain ⟨entry, found, usable⟩ := member
  exact ⟨entry, found, Entry.isUsable_of_le usable later⟩

end KeyRing

namespace Ledger

open KeyRing (Alike)

/-! ## Providers whose rings say the same -/

variable {ledger : Ledger} {now time : Nat} {provider : String}

theorem alike_onRing {one other : KeyRing} (alike : Alike now one other) (operation : Operation)
    (admits admitsToo : Bool) :
    Alike now (operation.onRing now admits one) (operation.onRing now admitsToo other) := by
  cases operation with
  | acquire =>
      cases admits <;> cases admitsToo
      · exact alike
      · exact alike.trans (other.alike_takeActive now)
      · exact (one.alike_takeActive now).symm.trans alike
      · exact alike.takeActive
  | success lease => exact alike.recordSuccess lease.index
  | failure lease failure =>
      rw [Operation.onRing, Operation.onRing]
      split
      · exact (alike.park lease.index).1
      · exact alike
  | reset | phase | isOpen | currentKey => exact alike

/-- The same position stays in use if both breakers do the same. -/
theorem current_onRing {one other : KeyRing} (alike : Alike now one other)
    (same : one.current = other.current) (operation : Operation) {admits admitsToo : Bool}
    (agree : ∀ provider, operation = .acquire provider → admits = admitsToo) :
    (operation.onRing now admits one).current = (operation.onRing now admitsToo other).current := by
  cases operation with
  | acquire provider =>
      obtain rfl := agree provider rfl
      cases admits with
      | true =>
          change (one.takeActive now).2.current = (other.takeActive now).2.current
          rw [KeyRing.current_takeActive, KeyRing.current_takeActive, alike.takeActive_fst, same]
      | false => exact same
  | success lease =>
      exact (one.current_recordSuccess _).trans (same.trans (other.current_recordSuccess _).symm)
  | failure lease failure =>
      rw [Operation.onRing, Operation.onRing]
      split
      · exact (alike.park lease.index).2 same
      · exact same
  | reset | phase | isOpen | currentKey => exact same

/-- Providers with the same keys, whose rings say the same.  `together` tells whether the same
position is known to be in use. -/
structure SameKeys (together : Bool) (now : Nat) (one other : ProviderHealth) : Prop where
  primaryKey : one.primaryKey = other.primaryKey
  ring : Option.Rel (Alike now) one.ring other.ring
  current : together = true → one.ring.map KeyRing.current = other.ring.map KeyRing.current

/-- How long the breaker goes on refusing calls, if an answer says so. -/
def Answer.circuit? : Answer → Option Nat
  | .lease (.error (.circuitOpen _ remaining)) => some remaining
  | _ => none

/-- Whether an answer is a lease. -/
def Answer.isLease : Answer → Bool
  | .lease (.ok _) => true
  | _ => false

/-- Whether the same position is known to be in use after a provider was named, if `together` tells
so before that: both answers were a lease, or it was so before and the breaker did the same. -/
def stillTogether (together : Bool) (one other : Answer) : Bool :=
  (one.isLease && other.isLease) || (together && one.circuit?.isSome == other.circuit?.isSome)

theorem circuit?_lease (now : Nat) (provider : String) (health : ProviderHealth) :
    (Answer.lease (lease now provider health)).circuit? = (health.breaker.remaining? now).1 := by
  rw [lease]
  cases (health.breaker.remaining? now).1 with
  | some remaining => rfl
  | none =>
      cases health.ring with
      | none => rfl
      | some ring =>
          dsimp only
          split <;> rfl

/-- A lease comes from a ring that deals out a key. -/
theorem isSome_of_isLease {health : ProviderHealth}
    (granted : (Answer.lease (lease now provider health)).isLease = true) :
    (health.breaker.remaining? now).1 = none ∧
      ∀ ring ∈ health.ring, (ring.takeActive now).1.isSome = true := by
  rw [lease] at granted
  cases refused : (health.breaker.remaining? now).1 with
  | some remaining =>
      rw [refused] at granted
      cases granted
  | none =>
      refine ⟨rfl, fun ring own => ?_⟩
      rw [refused, Option.mem_def.mp own] at granted
      cases taken : (ring.takeActive now).1 with
      | none =>
          simp only [taken] at granted
          cases granted
      | some key => rfl

theorem SameKeys.lease {together : Bool} {one other : ProviderHealth}
    (same : SameKeys together now one other) (admits : (one.breaker.remaining? now).1 = none)
    (admitsToo : (other.breaker.remaining? now).1 = none) (provider : String) :
    lease now provider one = lease now provider other := by
  have rings := same.ring
  rw [Ledger.lease, Ledger.lease, admits, admitsToo, same.primaryKey]
  generalize one.ring = ring at rings
  generalize other.ring = ringToo at rings
  cases rings with
  | none => rfl
  | some alike => simp only [alike.takeActive_fst]

/-- Two leases are on the same key, which is in use from then on. -/
theorem SameKeys.current_of_isLease {together : Bool} {one other : ProviderHealth}
    (same : SameKeys together now one other) {operation : Operation}
    (granted : (operation.answerFor now (some one)).isLease = true)
    (grantedToo : (operation.answerFor now (some other)).isLease = true) :
    (operation.onHealth now one).ring.map KeyRing.current =
      (operation.onHealth now other).ring.map KeyRing.current := by
  cases operation with
  | acquire provider =>
      obtain ⟨admits, dealt⟩ := isSome_of_isLease granted
      obtain ⟨admitsToo, -⟩ := isSome_of_isLease grantedToo
      have rings := same.ring
      rw [Operation.onHealth, Operation.onHealth, admits, admitsToo]
      generalize one.ring = ring at rings dealt
      generalize other.ring = ringToo at rings
      cases rings with
      | none => rfl
      | @some ring ringToo alike =>
          obtain ⟨key, taken⟩ := Option.isSome_iff_exists.mp (dealt ring rfl)
          change some (ring.takeActive now).2.current = some (ringToo.takeActive now).2.current
          rw [KeyRing.current_takeActive, KeyRing.current_takeActive, ← alike.takeActive_fst,
            taken]
          rfl
  | success | failure | reset | phase | isOpen | currentKey => cases granted

/-- The same key stays in use if both breakers do the same. -/
theorem SameKeys.current_of_circuit? {one other : ProviderHealth}
    (same : SameKeys true now one other) {operation : Operation}
    (circuits : (operation.answerFor now (some one)).circuit?.isSome =
      (operation.answerFor now (some other)).circuit?.isSome) :
    (operation.onHealth now one).ring.map KeyRing.current =
      (operation.onHealth now other).ring.map KeyRing.current := by
  have agree : ∀ provider, operation = .acquire provider →
      (one.breaker.remaining? now).1.isNone = (other.breaker.remaining? now).1.isNone := by
    rintro provider rfl
    rw [← circuit?_lease now provider, ← circuit?_lease now provider, ← Option.not_isSome,
      ← Option.not_isSome]
    exact congrArg not circuits
  have rings := same.ring
  have before := same.current rfl
  rw [Operation.onHealth, Operation.onHealth]
  generalize one.ring = ring at rings before ⊢
  generalize other.ring = ringToo at rings before ⊢
  cases rings with
  | none => rfl
  | some alike =>
      exact congrArg some (current_onRing alike (Option.some.inj before) operation agree)

/-- One operation keeps it so. -/
theorem SameKeys.onHealth {together : Bool} {one other : ProviderHealth}
    (same : SameKeys together now one other) (operation : Operation) :
    SameKeys
      (stillTogether together (operation.answerFor now (some one))
        (operation.answerFor now (some other)))
      now (operation.onHealth now one) (operation.onHealth now other) where
  primaryKey := same.primaryKey
  ring := rel_map same.ring fun alike => alike_onRing alike operation _ _
  current still := by
    rw [stillTogether, Bool.or_eq_true, Bool.and_eq_true, Bool.and_eq_true, beq_iff_eq] at still
    rcases still with ⟨granted, grantedToo⟩ | ⟨rfl, circuits⟩
    · exact same.current_of_isLease granted grantedToo
    · exact same.current_of_circuit? circuits

/-! ## Two runs -/

theorem SameKeys.later {together : Bool} {one other : ProviderHealth}
    (same : SameKeys together now one other) (later : now ≤ time) :
    SameKeys together time one other where
  primaryKey := same.primaryKey
  ring := rel_mono same.ring fun alike => alike.later later
  current := same.current

/-- Operations come one after the other, from a time on and until another one. -/
def InOrder : Nat → List (Nat × Operation) → Nat → Prop
  | start, [], finish => start ≤ finish
  | start, (now, _) :: rest, finish => start ≤ now ∧ InOrder now rest finish

/-- Whether the same key of a provider is known to be in use in two ledgers after the same
operations, if `together` tells so of the time before. -/
def inStep (provider : String) (together : Bool) (one other : Ledger) :
    List (Nat × Operation) → Bool
  | [] => together
  | (now, operation) :: rest =>
      inStep provider
        (if operation.provider = provider then
          stillTogether together (one.answer now operation) (other.answer now operation)
        else together)
        (one.perform now operation).2 (other.perform now operation).2 rest

theorem sameKeys_after {one other : Ledger} {together : Bool}
    (same : Option.Rel (SameKeys together now) (one.health? provider) (other.health? provider))
    {history : List (Nat × Operation)} (ordered : InOrder now history time) :
    Option.Rel (SameKeys (inStep provider together one other history) time)
      ((one.after history).health? provider) ((other.after history).health? provider) := by
  induction history generalizing one other together now with
  | nil =>
      exact rel_mono same fun alike => alike.later ordered
  | cons entry rest ih =>
      obtain ⟨moment, operation⟩ := entry
      obtain ⟨later, ordered⟩ := ordered
      rw [after, after, inStep]
      refine ih ?_ ordered
      split
      · rename_i own
        subst own
        rw [health?_perform_self, health?_perform_self, answer_eq, answer_eq]
        generalize one.health? operation.provider = health at same ⊢
        generalize other.health? operation.provider = healthToo at same ⊢
        cases same with
        | none => exact .none
        | some alike => exact .some ((alike.later later).onHealth operation)
      · rename_i different
        rw [health?_perform_of_ne different, health?_perform_of_ne different]
        exact rel_mono same fun alike => alike.later later

/-- What becomes of a breaker depends on nothing else. -/
theorem breaker?_perform_self (ledger : Ledger) (now : Nat) (operation : Operation) :
    (ledger.perform now operation).2.breaker? operation.provider =
      (ledger.breaker? operation.provider).map fun breaker => operation.onBreaker now breaker := by
  rw [breaker?, breaker?, health?_perform_self, Option.map_map, Option.map_map]
  rfl

theorem breaker?_perform_of_ne {ledger : Ledger} {operation : Operation}
    (different : operation.provider ≠ provider) :
    (ledger.perform now operation).2.breaker? provider = ledger.breaker? provider := by
  rw [breaker?, breaker?, health?_perform_of_ne different]

theorem breaker?_after_congr {one other : Ledger}
    (same : one.breaker? provider = other.breaker? provider) (history : List (Nat × Operation)) :
    (one.after history).breaker? provider = (other.after history).breaker? provider := by
  induction history generalizing one other with
  | nil => exact same
  | cons entry rest ih =>
      obtain ⟨now, operation⟩ := entry
      apply ih
      by_cases own : operation.provider = provider
      · subst own
        rw [breaker?_perform_self, breaker?_perform_self, same]
      · rw [breaker?_perform_of_ne own, breaker?_perform_of_ne own, same]

theorem answer_phase (ledger : Ledger) (now : Nat) (provider : String) :
    ledger.answer now (.phase provider) =
      .phase ((ledger.breaker? provider).map fun breaker => (breaker.refresh now).phase) := by
  rw [answer_eq, Operation.answerFor, breaker?, Option.map_map]
  rfl

theorem answer_isOpen (ledger : Ledger) (now : Nat) (provider : String) :
    ledger.answer now (.isOpen provider) =
      .flag ((ledger.breaker? provider).any fun breaker => (breaker.isOpen now).1) := by
  rw [answer_eq, Operation.answerFor, breaker?, Option.any_map]
  rfl

theorem circuit?_acquire (ledger : Ledger) (now : Nat) (provider : String) :
    (ledger.answer now (.acquire provider)).circuit? =
      (ledger.breaker? provider).bind fun breaker => (breaker.remaining? now).1 := by
  rw [answer_eq, Operation.answerFor, breaker?, Operation.provider]
  cases ledger.health? provider with
  | none => rfl
  | some health => exact circuit?_lease now provider health

/-! ## What a report does -/

/-- What the report of a failed call changes: the ring of a provider, or its breaker, or nothing. -/
structure Confines (lease : Lease) (failure : Failure) (before after : Ledger) : Prop where
  others : ∀ provider, provider ≠ lease.provider → after.health? provider = before.health? provider
  unknown : before.health? lease.provider = none → after = before
  limited : failure.isRateLimit = true → ∀ health, before.health? lease.provider = some health →
    ∃ ring, after.health? lease.provider = some { health with ring }
  single : failure.isRateLimit = true → before.ring? lease.provider = none → after = before
  counted : failure.isRateLimit = false → ∀ health, before.health? lease.provider = some health →
    ∃ breaker, after.health? lease.provider = some { health with breaker }
  ignored : failure.isRateLimit = false → failure.countsAgainstProvider = false → after = before

theorem Confines.refl (lease : Lease) (failure : Failure) (ledger : Ledger) :
    Confines lease failure ledger ledger where
  others _ _ := rfl
  unknown _ := rfl
  limited _ health found := ⟨health.ring, found⟩
  single _ _ := rfl
  counted _ health found := ⟨health.breaker, found⟩
  ignored _ _ := rfl

theorem confines_recordFailure (ledger : Ledger) (now : Nat) (lease : Lease) (failure : Failure) :
    Confines lease failure ledger (ledger.recordFailure now lease failure).2 := by
  cases ledger.failureCase now lease failure with
  | unknown _ result | single _ _ _ result | ignored _ _ _ result =>
      rw [result]
      exact .refl lease failure ledger
  | rotated found limited several result =>
      rw [result]
      refine ⟨fun provider different => health?_update_of_ne ledger different.symm _, ?_, ?_, ?_,
        ?_, ?_⟩
      · simp [found]
      · intro _ health same
        rw [found] at same
        cases same
        exact ⟨_, health?_update_self ledger _ _⟩
      · simp [ring?_eq found, several]
      · simp [limited]
      · simp [limited]
  | counted found unlimited counts result =>
      rw [result]
      refine ⟨fun provider different => health?_update_of_ne ledger different.symm _, ?_, ?_, ?_,
        ?_, ?_⟩
      · simp [found]
      · simp [unlimited]
      · simp [unlimited]
      · intro _ health same
        rw [found] at same
        cases same
        exact ⟨_, health?_update_self ledger _ _⟩
      · simp [counts]

/-! ## What a report does not show -/

/-- Two ledgers that differ by the report of a failed call, as far as nobody can notice it. -/
structure Unnoticed (lease : Lease) (failure : Failure) (now : Nat) (one other : Ledger) :
    Prop where
  /-- Nothing about any other provider shows it. -/
  others : ∀ history time operation, operation.provider ≠ lease.provider →
    (one.after history).answer time operation = (other.after history).answer time operation
  /-- No breaker shows a rate limit, nor whether a call is refused by one. -/
  breaker : failure.isRateLimit = true → ∀ history time,
    (one.after history).answer time (.phase lease.provider) =
        (other.after history).answer time (.phase lease.provider) ∧
      (one.after history).answer time (.isOpen lease.provider) =
        (other.after history).answer time (.isOpen lease.provider) ∧
      ((one.after history).answer time (.acquire lease.provider)).circuit? =
        ((other.after history).answer time (.acquire lease.provider)).circuit?
  /-- No ring shows another failure, unless a breaker refuses a call. -/
  ring : failure.isRateLimit = false → ∀ history time, InOrder now history time →
    (((one.after history).answer time (.acquire lease.provider)).circuit? = none →
      ((other.after history).answer time (.acquire lease.provider)).circuit? = none →
      (one.after history).answer time (.acquire lease.provider) =
        (other.after history).answer time (.acquire lease.provider)) ∧
    (inStep lease.provider true one other history = true →
      (one.after history).answer time (.currentKey lease.provider) =
        (other.after history).answer time (.currentKey lease.provider))

/-- A rate limit leaves the breaker of every provider alone. -/
theorem Confines.breaker?_eq {lease : Lease} {failure : Failure} {before after : Ledger}
    (confines : Confines lease failure before after) (limited : failure.isRateLimit = true) :
    after.breaker? lease.provider = before.breaker? lease.provider := by
  cases found : before.health? lease.provider with
  | none => rw [confines.unknown found]
  | some health =>
      obtain ⟨ring, changed⟩ := confines.limited limited health found
      rw [Ledger.breaker?_eq changed, Ledger.breaker?_eq found]

/-- Another failure leaves the keys of every provider alone. -/
theorem Confines.sameKeys {lease : Lease} {failure : Failure} {before after : Ledger}
    (confines : Confines lease failure before after) (unlimited : failure.isRateLimit = false)
    (now : Nat) :
    Option.Rel (SameKeys true now) (after.health? lease.provider)
      (before.health? lease.provider) := by
  cases found : before.health? lease.provider with
  | none =>
      rw [confines.unknown found, found]
      exact .none
  | some health =>
      obtain ⟨breaker, changed⟩ := confines.counted unlimited health found
      rw [changed]
      refine .some ⟨rfl, ?_, fun _ => rfl⟩
      cases health.ring with
      | none => exact .none
      | some ring => exact .some (.refl now ring)

theorem Confines.unnoticed {lease : Lease} {failure : Failure} {before after : Ledger}
    (confines : Confines lease failure before after) (now : Nat) :
    Unnoticed lease failure now after before where
  others history time operation different :=
    answer_congr (health?_after_congr (confines.others _ different) history) time
  breaker limited history time := by
    have later := breaker?_after_congr (confines.breaker?_eq limited) history
    rw [answer_phase, answer_phase, answer_isOpen, answer_isOpen, circuit?_acquire,
      circuit?_acquire, later]
    exact ⟨rfl, rfl, rfl⟩
  ring unlimited history time ordered := by
    have later := sameKeys_after (confines.sameKeys unlimited now) ordered
    rw [answer_eq, answer_eq, answer_eq, answer_eq]
    simp only [Operation.provider, Operation.answerFor]
    generalize (after.after history).health? lease.provider = health at later ⊢
    generalize (before.after history).health? lease.provider = healthToo at later ⊢
    cases later with
    | none => exact ⟨fun _ _ => rfl, fun _ => rfl⟩
    | some later =>
        simp only [Option.map_some, Option.getD_some, circuit?_lease]
        refine ⟨fun admits admitsToo => ?_, fun together => ?_⟩
        · rw [later.lease admits admitsToo]
        · exact congrArg Answer.position (later.current together)

/-! ## Failures of one kind -/

/-- All failures that are reported are of one kind. -/
def Reports (kind : Failure → Prop) (history : List (Nat × Operation)) : Prop :=
  ∀ entry ∈ history, ∀ lease failure, entry.2 = .failure lease failure → kind failure

/-- A rate limit does not open a breaker, and nothing but a failure does. -/
theorem phase_onBreaker {operation : Operation}
    (limits : ∀ lease failure, operation = .failure lease failure → failure.isRateLimit = true)
    {breaker : Breaker} (shut : breaker.phase ≠ .opened) (now : Nat) :
    (operation.onBreaker now breaker).phase ≠ .opened := by
  have kept : breaker.refresh now = breaker := if_neg fun both => shut both.1
  have closed : Breaker.Phase.closed ≠ .opened := by decide
  cases operation with
  | acquire | phase | isOpen =>
      rw [Operation.onBreaker, kept]
      exact shut
  | success lease =>
      rw [Operation.onBreaker, Breaker.recordSuccess, kept]
      dsimp only
      split
      · exact shut
      · split
        · exact closed
        · exact shut
      · exact shut
  | failure lease failure =>
      rw [Operation.onBreaker, if_neg (by simp [limits lease failure rfl])]
      exact shut
  | reset => exact closed
  | currentKey => exact shut

/-- Rate limits open no breaker, however many there are. -/
theorem phase_after {breaker : Breaker} (found : ledger.breaker? provider = some breaker)
    (shut : breaker.phase ≠ .opened) {history : List (Nat × Operation)}
    (limits : Reports (fun failure => failure.isRateLimit = true) history) :
    ∃ later, (ledger.after history).breaker? provider = some later ∧ later.phase ≠ .opened := by
  induction history generalizing ledger breaker with
  | nil => exact ⟨breaker, found, shut⟩
  | cons entry rest ih =>
      obtain ⟨now, operation⟩ := entry
      obtain ⟨first, others⟩ := List.forall_mem_cons.mp limits
      by_cases own : operation.provider = provider
      · subst own
        refine ih ?_ (phase_onBreaker first shut now) others
        rw [breaker?_perform_self, found, Option.map_some]
      · refine ih ?_ shut others
        rw [breaker?_perform_of_ne own, found]

/-- Nothing but a rate limit parks a key. -/
theorem free_onRing {operation : Operation}
    (excused : ∀ lease failure, operation = .failure lease failure → failure.isRateLimit = false)
    (now : Nat) (admits : Bool) (ring : KeyRing) :
    (operation.onRing now admits ring).free now = ring.free now := by
  cases operation with
  | acquire =>
      cases admits with
      | true => exact ring.free_takeActive now
      | false => rfl
  | success lease => exact ring.free_recordSuccess now lease.index
  | failure lease failure =>
      rw [Operation.onRing, excused lease failure rfl, if_neg Bool.false_ne_true]
  | reset | phase | isOpen | currentKey => rfl

theorem free_perform {operation : Operation}
    (excused : ∀ lease failure, operation = .failure lease failure → failure.isRateLimit = false) :
    (ledger.perform now operation).2.free now provider = ledger.free now provider := by
  by_cases own : operation.provider = provider
  · subst own
    rw [free, free, ring?, ring?, health?_perform_self]
    cases ledger.health? operation.provider with
    | none => rfl
    | some health =>
        rw [Option.map_some, Option.bind_some, Option.bind_some, Operation.onHealth]
        cases health.ring with
        | none => rfl
        | some ring => exact free_onRing excused now _ ring
  · rw [free, free, ring?, ring?, health?_perform_of_ne own]

/-- A key that may be used may be used from then on, until it is parked. -/
theorem free_mono (ledger : Ledger) (later : now ≤ time) (provider : String) :
    ledger.free now provider ⊆ ledger.free time provider := by
  rw [free, free]
  cases ledger.ring? provider with
  | none => exact Finset.Subset.refl _
  | some ring => exact ring.free_mono later

/-- Other failures park no key, however many there are. -/
theorem free_after {history : List (Nat × Operation)} (ordered : InOrder now history time)
    (excused : Reports (fun failure => failure.isRateLimit = false) history) :
    ledger.free now provider ⊆ (ledger.after history).free time provider := by
  induction history generalizing ledger now with
  | nil => exact ledger.free_mono ordered provider
  | cons entry rest ih =>
      obtain ⟨moment, operation⟩ := entry
      obtain ⟨later, ordered⟩ := ordered
      obtain ⟨first, others⟩ := List.forall_mem_cons.mp excused
      have kept : (ledger.perform moment operation).2.free moment provider =
          ledger.free moment provider := free_perform first
      exact (ledger.free_mono later provider).trans (kept ▸ ih ordered others)

/-- The report of a failed call is confined to one of a provider's ring and its breaker, and the
other one does not show it.  So rate limits open no breaker, and other failures park no key. -/
theorem recordFailure_separates (ledger : Ledger) (now : Nat) (lease : Lease) (failure : Failure) :
    Confines lease failure ledger (ledger.recordFailure now lease failure).2 ∧
      Unnoticed lease failure now (ledger.recordFailure now lease failure).2 ledger ∧
      (∀ history, Reports (fun failure => failure.isRateLimit = true) history →
        ∀ provider breaker, ledger.breaker? provider = some breaker → breaker.phase ≠ .opened →
          ∃ later, (ledger.after history).breaker? provider = some later ∧
            later.phase ≠ .opened) ∧
      ∀ history time, InOrder now history time →
        Reports (fun failure => failure.isRateLimit = false) history →
        ∀ provider, ledger.free now provider ⊆ (ledger.after history).free time provider := by
  have confines := ledger.confines_recordFailure now lease failure
  refine ⟨confines, confines.unnoticed now, ?_, ?_⟩
  · intro history limits provider breaker found shut
    exact phase_after found shut limits
  · intro history time ordered excused provider
    exact free_after ordered excused

/-- A ledger of one provider with two keys.  Its breaker opens at the first failure, for 100 ms, and
its keys are parked for 20 ms at first. -/
def ofTwoKeys : Ledger :=
  .new ⟨⟨1, 1, 100⟩, ⟨10, 1000⟩, .standard⟩ 0 [("p", [⟨"a"⟩, ⟨"b"⟩])]

/-- A timeout at 5 makes the breaker refuse a call at 50.  At 120 it lets one through, and from then
on the ring does not show the timeout, although the first key was parked at 3. -/
theorem recordFailure_separates_timeout :
    let lease : Lease := ⟨"p", 0, ⟨"a"⟩⟩
    let limited := (ofTwoKeys.recordFailure 3 lease (.api 429 "p" "m" "" none)).2
    let failed := (limited.recordFailure 5 lease (.network .timeout "")).2
    let history : List (Nat × Operation) := [(50, .acquire "p"), (120, .acquire "p")]
    InOrder 5 history 120 ∧ inStep "p" true failed limited history = true ∧
      (failed.after history).answer 120 (.currentKey "p") =
        (limited.after history).answer 120 (.currentKey "p") := by
  intro lease limited failed history
  have ordered : InOrder 5 history 120 := by simp [InOrder, history]
  have together : inStep "p" true failed limited history = true := by decide
  obtain ⟨-, unnoticed, -⟩ := recordFailure_separates limited 5 lease (.network .timeout "")
  exact ⟨ordered, together, (unnoticed.ring rfl history 120 ordered).2 together⟩

/-- A timeout leaves the ring alone, but a call that the breaker refuses does not take the first key
into use again, and the position in use shows that. -/
theorem currentKey_shows_timeout :
    let lease : Lease := ⟨"p", 0, ⟨"a"⟩⟩
    let limited := (ofTwoKeys.recordFailure 3 lease (.api 429 "p" "m" "" none)).2
    let failed := (limited.recordFailure 5 lease (.network .timeout "")).2
    let history : List (Nat × Operation) := [(50, .acquire "p")]
    failed.ring? "p" = limited.ring? "p" ∧
      (failed.after history).answer 50 (.currentKey "p") = .position (some 1) ∧
      (limited.after history).answer 50 (.currentKey "p") = .position (some 0) := by
  refine ⟨?_, ?_, ?_⟩
  · decide
  · rfl
  · rfl

end Ledger

end ChatGateway
