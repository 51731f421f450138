import ChatGateway.Proofs.Resilience.Refusing

/-!
# Operations of the ledger

The health of a provider is made of a breaker and a ring.  What becomes of the breaker depends on
nothing but the breaker, and what becomes of the ring depends on the breaker only where this refuses
a call.  No operation touches the health of a provider that it does not name.
-/

namespace ChatGateway.Ledger

/-- What is asked of a ledger or reported to it. -/
inductive Operation where
  | acquire (provider : String)
  | success (lease : Lease)
  | failure (lease : Lease) (failure : Failure)
  | reset (provider : String)
  | phase (provider : String)
  | isOpen (provider : String)
  | currentKey (provider : String)

/-- What an operation gives back. -/
inductive Answer where
  | lease (result : Except Refusal Lease)
  | disposition (disposition : Disposition)
  | phase (phase : Option Breaker.Phase)
  | flag (isOpen : Bool)
  | position (position : Option Nat)
  | nothing

/-- The provider that an operation names. -/
def Operation.provider : Operation → String
  | .acquire provider | .reset provider | .phase provider | .isOpen provider
  | .currentKey provider => provider
  | .success lease | .failure lease _ => lease.provider

/-- Asks something of a ledger or reports it. -/
def perform (ledger : Ledger) (now : Nat) : Operation → Answer × Ledger
  | .acquire provider => (ledger.acquire now provider).map .lease id
  | .success lease => (.nothing, ledger.recordSuccess now lease)
  | .failure lease failure => (ledger.recordFailure now lease failure).map .disposition id
  | .reset provider => (.nothing, ledger.reset now provider)
  | .phase provider => (ledger.phase? now provider).map .phase id
  | .isOpen provider => (ledger.isOpen now provider).map .flag id
  | .currentKey provider => (.position (ledger.currentKey? provider), ledger)

/-- What an operation gives back at a time. -/
def answer (ledger : Ledger) (now : Nat) (operation : Operation) : Answer :=
  (ledger.perform now operation).1

/-- The ledger after operations at their times. -/
def after (ledger : Ledger) : List (Nat × Operation) → Ledger
  | [] => ledger
  | (now, operation) :: rest => (ledger.perform now operation).2.after rest

variable {ledger : Ledger} {now : Nat} {provider : String}

/-! ## Other providers -/

/-- An operation does nothing to a ledger, or it replaces the health of the provider that it
names. -/
theorem perform_eq_or (ledger : Ledger) (now : Nat) (operation : Operation) :
    (ledger.perform now operation).2 = ledger ∨
      ∃ health, (ledger.perform now operation).2 = ledger.update operation.provider health := by
  cases operation with
  | acquire provider =>
      cases ledger.acquireCase now provider with
      | unknown _ result => exact .inl (congrArg Prod.snd result)
      | refused _ _ result | single _ _ _ result | parked _ _ _ _ result
      | dealt _ _ _ _ result => exact .inr ⟨_, congrArg Prod.snd result⟩
  | success lease =>
      rw [perform, recordSuccess]
      split
      · exact .inl rfl
      · exact .inr ⟨_, rfl⟩
  | failure lease failure =>
      cases ledger.failureCase now lease failure with
      | unknown _ result | single _ _ _ result | ignored _ _ _ result =>
          exact .inl (congrArg Prod.snd result)
      | rotated _ _ _ result | counted _ _ _ result => exact .inr ⟨_, congrArg Prod.snd result⟩
  | reset provider =>
      rw [perform, reset]
      split
      · exact .inl rfl
      · exact .inr ⟨_, rfl⟩
  | phase provider =>
      rw [perform, phase?]
      split
      · exact .inl rfl
      · exact .inr ⟨_, rfl⟩
  | isOpen provider =>
      rw [perform, isOpen]
      split
      · exact .inl rfl
      · exact .inr ⟨_, rfl⟩
  | currentKey provider => exact .inl rfl

/-- An operation leaves the health of other providers alone. -/
theorem health?_perform_of_ne {operation : Operation} (different : operation.provider ≠ provider) :
    (ledger.perform now operation).2.health? provider = ledger.health? provider := by
  rcases ledger.perform_eq_or now operation with same | ⟨health, replaced⟩
  · rw [same]
  · rw [replaced, health?_update_of_ne ledger different]

/-! ## The provider that is named -/

/-- What becomes of the breaker of the provider that an operation names. -/
def Operation.onBreaker (now : Nat) (breaker : Breaker) : Operation → Breaker
  | .acquire _ | .phase _ | .isOpen _ => breaker.refresh now
  | .success _ => breaker.recordSuccess now
  | .failure _ fault =>
      if fault.isRateLimit = false ∧ fault.countsAgainstProvider then
        (breaker.recordFailure now).refresh now
      else breaker
  | .reset _ => breaker.reset now
  | .currentKey _ => breaker

/-- What becomes of the ring of the provider that an operation names.  `admits` tells whether the
breaker lets a call through. -/
def Operation.onRing (now : Nat) (admits : Bool) (ring : KeyRing) : Operation → KeyRing
  | .acquire _ => if admits then (ring.takeActive now).2 else ring
  | .success lease => ring.recordSuccess lease.index
  | .failure lease fault => if fault.isRateLimit then (ring.park now lease.index).2 else ring
  | _ => ring

/-- What becomes of the health of the provider that an operation names. -/
def Operation.onHealth (now : Nat) (health : ProviderHealth) (operation : Operation) :
    ProviderHealth where
  breaker := operation.onBreaker now health.breaker
  primaryKey := health.primaryKey
  ring := health.ring.map fun ring =>
    operation.onRing now (health.breaker.remaining? now).1.isNone ring

/-- What a call is told that asks for a lease. -/
def lease (now : Nat) (provider : String) (health : ProviderHealth) : Except Refusal Lease :=
  match (health.breaker.remaining? now).1 with
  | some remaining => .error (.circuitOpen provider remaining)
  | none =>
      match health.ring with
      | none => .ok ⟨provider, 0, health.primaryKey⟩
      | some ring =>
          match (ring.takeActive now).1 with
          | none => .error (.keysParked provider)
          | some (index, key) => .ok ⟨provider, index, key⟩

/-- What is done about a failed call. -/
def disposition (failure : Failure) (health : ProviderHealth) : Disposition :=
  if failure.isRateLimit then if health.ring.isSome then .rotated else .rateLimited
  else if failure.countsAgainstProvider then .counted
  else .ignored

/-- What an operation gives back for a provider of this health, if there is one. -/
def Operation.answerFor (now : Nat) (health : Option ProviderHealth) : Operation → Answer
  | .acquire provider =>
      .lease ((health.map (lease now provider)).getD (.error (.unknownProvider provider)))
  | .failure _ fault => .disposition ((health.map (Ledger.disposition fault)).getD .ignored)
  | .phase _ => .phase (health.map fun health => (health.breaker.refresh now).phase)
  | .isOpen _ => .flag (health.any fun health => (health.breaker.isOpen now).1)
  | .currentKey _ => .position (health.bind fun health => health.ring.map KeyRing.current)
  | .success _ | .reset _ => .nothing

/-- An operation gives back what the health of the provider that it names says. -/
theorem answer_eq (ledger : Ledger) (now : Nat) (operation : Operation) :
    ledger.answer now operation = operation.answerFor now (ledger.health? operation.provider) := by
  cases operation with
  | acquire provider =>
      rw [answer, perform, Operation.answerFor, Operation.provider]
      cases ledger.acquireCase now provider with
      | unknown missing result => simp [result, missing]
      | refused found refuses result => simp [result, found, lease, refuses]
      | single found admits ringless result => simp [result, found, lease, admits, ringless]
      | parked found admits several idle result =>
          simp [result, found, lease, admits, several, idle]
      | dealt found admits several taken result =>
          simp [result, found, lease, admits, several, taken]
  | failure lease failure =>
      rw [answer, perform, Operation.answerFor, Operation.provider]
      cases ledger.failureCase now lease failure with
      | unknown missing result => simp [result, missing]
      | single found limited ringless result => simp [result, found, disposition, limited, ringless]
      | rotated found limited several result => simp [result, found, disposition, limited, several]
      | counted found unlimited counts result =>
          simp [result, found, disposition, unlimited, counts]
      | ignored found unlimited excused result =>
          simp [result, found, disposition, unlimited, excused]
  | phase provider =>
      rw [answer, perform, Operation.answerFor, Operation.provider, phase?]
      cases ledger.health? provider <;> rfl
  | isOpen provider =>
      rw [answer, perform, Operation.answerFor, Operation.provider, isOpen]
      cases ledger.health? provider <;> rfl
  | success | reset | currentKey => rfl

/-- An operation changes the health of the provider that it names. -/
theorem health?_perform_self (ledger : Ledger) (now : Nat) (operation : Operation) :
    (ledger.perform now operation).2.health? operation.provider =
      (ledger.health? operation.provider).map fun health => operation.onHealth now health := by
  cases operation with
  | acquire provider =>
      change (ledger.acquire now provider).2.health? provider = _
      have refreshed (breaker : Breaker) : breaker.refresh now = (breaker.remaining? now).2 :=
        (breaker.remaining?_snd now).symm
      simp only [Operation.provider, Operation.onHealth, Operation.onBreaker, Operation.onRing,
        refreshed]
      cases ledger.acquireCase now provider with
      | unknown missing result => simp [result, missing]
      | refused found refuses result => simp [result, found, refuses]
      | single found admits ringless result => simp [result, found, admits, ringless]
      | parked found admits several idle result => simp [result, found, admits, several, idle]
      | dealt found admits several taken result => simp [result, found, admits, several, taken]
  | success lease =>
      change (ledger.recordSuccess now lease).health? lease.provider = _
      rw [recordSuccess, Operation.provider]
      cases found : ledger.health? lease.provider <;>
        simp [found, Operation.onHealth, Operation.onBreaker, Operation.onRing]
  | failure lease failure =>
      change (ledger.recordFailure now lease failure).2.health? lease.provider = _
      simp only [Operation.provider, Operation.onHealth, Operation.onBreaker, Operation.onRing]
      cases ledger.failureCase now lease failure with
      | unknown missing result => simp [result, missing]
      | @single health found limited ringless result =>
          obtain ⟨breaker, primaryKey, ring⟩ := health
          cases ringless
          simp [result, found, limited]
      | rotated found limited several result => simp [result, found, limited, several]
      | counted found unlimited counts result => simp [result, found, unlimited, counts]
      | ignored found unlimited excused result => simp [result, found, unlimited, excused]
  | reset provider =>
      change (ledger.reset now provider).health? provider = _
      rw [reset, Operation.provider]
      cases found : ledger.health? provider <;>
        simp [found, Operation.onHealth, Operation.onBreaker, Operation.onRing]
  | phase provider =>
      change (ledger.phase? now provider).2.health? provider = _
      rw [phase?, Operation.provider]
      cases found : ledger.health? provider <;>
        simp [found, Operation.onHealth, Operation.onBreaker, Operation.onRing, Breaker.state]
  | isOpen provider =>
      change (ledger.isOpen now provider).2.health? provider = _
      rw [isOpen, Operation.provider]
      cases found : ledger.health? provider <;>
        simp [found, Operation.onHealth, Operation.onBreaker, Operation.onRing, Breaker.isOpen,
          Breaker.canExecute, Breaker.state]
  | currentKey provider =>
      change ledger.health? provider = _
      simp [Operation.provider, Operation.onHealth, Operation.onBreaker, Operation.onRing]

/-! ## Runs of operations -/

/-- What an operation gives back depends only on the health of the provider that it names. -/
theorem answer_congr {one other : Ledger} {operation : Operation}
    (same : one.health? operation.provider = other.health? operation.provider) (now : Nat) :
    one.answer now operation = other.answer now operation := by
  rw [answer_eq, answer_eq, same]

/-- Providers of the same health stay so, whatever is done. -/
theorem health?_after_congr {one other : Ledger}
    (same : one.health? provider = other.health? provider) (history : List (Nat × Operation)) :
    (one.after history).health? provider = (other.after history).health? provider := by
  induction history generalizing one other with
  | nil => exact same
  | cons entry rest ih =>
      obtain ⟨now, operation⟩ := entry
      apply ih
      by_cases own : operation.provider = provider
      · subst own
        rw [health?_perform_self, health?_perform_self, same]
      · rw [health?_perform_of_ne own, health?_perform_of_ne own, same]

end ChatGateway.Ledger
