import ChatGateway.Proofs.Dictionary
import ChatGateway.Proofs.Resilience.Parking
import ChatGateway.Resilience.Ledger

/-!
# Leases

The ledger deals out leases on keys that are free, and a key that meets a rate limit gives its
place up.  Whatever is reported, each provider keeps its keys and the settings of its ring.
-/

namespace ChatGateway.Ledger

@[simp] theorem health?_update_self (ledger : Ledger) (provider : String)
    (health : ProviderHealth) :
    (ledger.update provider health).health? provider = some health := by
  simp [health?, update]

theorem health?_update_of_ne (ledger : Ledger) {provider other : String}
    (different : provider ≠ other) (health : ProviderHealth) :
    (ledger.update provider health).health? other = ledger.health? other := by
  simp [health?, update, Dictionary.get?_insert_of_ne different]

/-- The ring of a provider with several keys. -/
def ring? (ledger : Ledger) (provider : String) : Option KeyRing :=
  (ledger.health? provider).bind ProviderHealth.ring

/-- The positions of the keys of a provider that a lease may be on. -/
def free (ledger : Ledger) (now : Nat) (provider : String) : Finset Nat :=
  match ledger.ring? provider with
  | some ring => ring.free now
  | none => {0}

theorem ring?_update_self (ledger : Ledger) (provider : String) (health : ProviderHealth) :
    (ledger.update provider health).ring? provider = health.ring := by
  rw [ring?, health?_update_self, Option.bind_some]

theorem ring?_update_of_ne (ledger : Ledger) {provider other : String}
    (different : provider ≠ other) (health : ProviderHealth) :
    (ledger.update provider health).ring? other = ledger.ring? other := by
  rw [ring?, health?_update_of_ne ledger different, ring?]

theorem ring?_eq {ledger : Ledger} {provider : String} {health : ProviderHealth}
    (found : ledger.health? provider = some health) : ledger.ring? provider = health.ring := by
  simp [ring?, found]

/-! ## What every operation keeps -/

/-- The settings of a ledger and the keys of every provider are the same. -/
structure Keeps (before after : Ledger) : Prop where
  settings : after.settings = before.settings
  rings : ∀ provider, Option.Rel KeyRing.Keeps (before.ring? provider) (after.ring? provider)

theorem rel_refl (ring : Option KeyRing) : Option.Rel KeyRing.Keeps ring ring := by
  cases ring with
  | none => exact .none
  | some ring => exact .some (.refl ring)

theorem rel_trans {α : Type} {relation : α → α → Prop} {first second third : Option α}
    (trans : ∀ {one two three}, relation one two → relation two three → relation one three)
    (earlier : Option.Rel relation first second) (later : Option.Rel relation second third) :
    Option.Rel relation first third := by
  cases earlier with
  | none => exact later
  | some kept =>
      cases later with
      | some more => exact .some (trans kept more)

theorem rel_map {α β : Type} {relation : α → α → Prop} {mapped : β → β → Prop} {f g : α → β}
    {first second : Option α} (related : Option.Rel relation first second)
    (maps : ∀ {one two}, relation one two → mapped (f one) (g two)) :
    Option.Rel mapped (first.map f) (second.map g) := by
  cases related with
  | none => exact .none
  | some kept => exact .some (maps kept)

theorem rel_mono {α : Type} {relation weaker : α → α → Prop} {first second : Option α}
    (related : Option.Rel relation first second)
    (weakens : ∀ {one two}, relation one two → weaker one two) :
    Option.Rel weaker first second := by
  cases related with
  | none => exact .none
  | some kept => exact .some (weakens kept)

theorem Keeps.refl (ledger : Ledger) : Keeps ledger ledger := ⟨rfl, fun _ => rel_refl _⟩

theorem Keeps.trans {before middle after : Ledger} (first : Keeps before middle)
    (second : Keeps middle after) : Keeps before after where
  settings := second.settings.trans first.settings
  rings provider := by
    apply rel_trans _ (first.rings provider) (second.rings provider)
    intro one two three kept more
    exact ⟨more.settings.trans kept.settings, more.keys.trans kept.keys⟩

theorem keeps_update {ledger : Ledger} {provider : String} {health changed : ProviderHealth}
    (found : ledger.health? provider = some health)
    (ring : Option.Rel KeyRing.Keeps health.ring changed.ring) :
    Keeps ledger (ledger.update provider changed) where
  settings := rfl
  rings other := by
    by_cases same : provider = other
    · subst same
      rw [ring?_update_self, ring?_eq found]
      exact ring
    · rw [ring?_update_of_ne ledger same]
      exact rel_refl _

/-- What can come of asking for a lease. -/
inductive AcquireCase (ledger : Ledger) (now : Nat) (provider : String) : Prop where
  | unknown (missing : ledger.health? provider = none)
      (result : ledger.acquire now provider = (.error (.unknownProvider provider), ledger))
  | refused {health : ProviderHealth} {remaining : Nat} {breaker : Breaker}
      (found : ledger.health? provider = some health)
      (refuses : health.breaker.remaining? now = (some remaining, breaker))
      (result : ledger.acquire now provider =
        (.error (.circuitOpen provider remaining), ledger.update provider { health with breaker }))
  | single {health : ProviderHealth} {breaker : Breaker}
      (found : ledger.health? provider = some health)
      (admits : health.breaker.remaining? now = (none, breaker)) (ringless : health.ring = none)
      (result : ledger.acquire now provider =
        (.ok ⟨provider, 0, health.primaryKey⟩, ledger.update provider { health with breaker }))
  | parked {health : ProviderHealth} {breaker : Breaker} {ring after : KeyRing}
      (found : ledger.health? provider = some health)
      (admits : health.breaker.remaining? now = (none, breaker)) (several : health.ring = some ring)
      (idle : ring.takeActive now = (none, after))
      (result : ledger.acquire now provider =
        (.error (.keysParked provider),
          ledger.update provider { health with breaker, ring := some after }))
  | dealt {health : ProviderHealth} {breaker : Breaker} {ring after : KeyRing} {index : Nat}
      {key : Secret} (found : ledger.health? provider = some health)
      (admits : health.breaker.remaining? now = (none, breaker)) (several : health.ring = some ring)
      (taken : ring.takeActive now = (some (index, key), after))
      (result : ledger.acquire now provider =
        (.ok ⟨provider, index, key⟩,
          ledger.update provider { health with breaker, ring := some after }))

theorem acquireCase (ledger : Ledger) (now : Nat) (provider : String) :
    AcquireCase ledger now provider := by
  cases found : ledger.health? provider with
  | none =>
      apply AcquireCase.unknown found
      simp only [acquire, found]
  | some health =>
      rcases checked : health.breaker.remaining? now with ⟨remaining, breaker⟩
      cases remaining with
      | some remaining =>
          apply AcquireCase.refused found checked
          simp only [acquire, found, checked]
      | none =>
          cases several : health.ring with
          | none =>
              apply AcquireCase.single found checked several
              simp only [acquire, found, checked, several]
          | some ring =>
              rcases taken : ring.takeActive now with ⟨key, after⟩
              cases key with
              | none =>
                  apply AcquireCase.parked found checked several taken
                  simp only [acquire, found, checked, several, taken]
              | some key =>
                  apply AcquireCase.dealt found checked several taken
                  simp only [acquire, found, checked, several, taken]

/-- What can come of reporting a failed call. -/
inductive FailureCase (ledger : Ledger) (now : Nat) (lease : Lease) (failure : Failure) : Prop where
  | unknown (missing : ledger.health? lease.provider = none)
      (result : ledger.recordFailure now lease failure = (.ignored, ledger))
  | single {health : ProviderHealth} (found : ledger.health? lease.provider = some health)
      (limited : failure.isRateLimit = true) (ringless : health.ring = none)
      (result : ledger.recordFailure now lease failure = (.rateLimited, ledger))
  | rotated {health : ProviderHealth} {ring : KeyRing}
      (found : ledger.health? lease.provider = some health)
      (limited : failure.isRateLimit = true) (several : health.ring = some ring)
      (result : ledger.recordFailure now lease failure =
        (.rotated,
          ledger.update lease.provider
            { health with ring := some (ring.park now lease.index).2 }))
  | counted {health : ProviderHealth} (found : ledger.health? lease.provider = some health)
      (unlimited : failure.isRateLimit = false) (counts : failure.countsAgainstProvider = true)
      (result : ledger.recordFailure now lease failure =
        (.counted,
          ledger.update lease.provider
            { health with breaker := (health.breaker.recordFailure now).refresh now }))
  | ignored {health : ProviderHealth} (found : ledger.health? lease.provider = some health)
      (unlimited : failure.isRateLimit = false) (excused : failure.countsAgainstProvider = false)
      (result : ledger.recordFailure now lease failure = (.ignored, ledger))

theorem failureCase (ledger : Ledger) (now : Nat) (lease : Lease) (failure : Failure) :
    FailureCase ledger now lease failure := by
  cases found : ledger.health? lease.provider with
  | none =>
      apply FailureCase.unknown found
      simp only [recordFailure, found]
  | some health =>
      cases limited : failure.isRateLimit with
      | true =>
          cases several : health.ring with
          | none =>
              apply FailureCase.single found limited several
              simp only [recordFailure, found, limited, several, if_true]
          | some ring =>
              apply FailureCase.rotated found limited several
              simp only [recordFailure, found, limited, several, if_true]
      | false =>
          cases counts : failure.countsAgainstProvider with
          | true =>
              apply FailureCase.counted found limited counts
              simp only [recordFailure, found, limited, counts, Bool.false_eq_true, if_false,
                if_true]
          | false =>
              apply FailureCase.ignored found limited counts
              simp only [recordFailure, found, limited, counts, Bool.false_eq_true, if_false]

theorem keeps_acquire (ledger : Ledger) (now : Nat) (provider : String) :
    Keeps ledger (ledger.acquire now provider).2 := by
  cases ledger.acquireCase now provider with
  | unknown _ result =>
      rw [result]
      exact .refl ledger
  | refused found _ result | single found _ _ result =>
      rw [result]
      exact keeps_update found (rel_refl _)
  | @parked health _ ring after found _ several taken result
  | @dealt health _ ring after _ _ found _ several taken result =>
      have kept := ring.keeps_takeActive now
      rw [taken] at kept
      rw [result]
      apply keeps_update found
      rw [several]
      exact .some kept

theorem keeps_recordSuccess (ledger : Ledger) (now : Nat) (lease : Lease) :
    Keeps ledger (ledger.recordSuccess now lease) := by
  rw [recordSuccess]
  split
  · exact .refl ledger
  · rename_i health found
    refine keeps_update found ?_
    cases health.ring with
    | none => exact .none
    | some ring => exact .some (ring.keeps_recordSuccess lease.index)

theorem keeps_recordFailure (ledger : Ledger) (now : Nat) (lease : Lease) (failure : Failure) :
    Keeps ledger (ledger.recordFailure now lease failure).2 := by
  cases ledger.failureCase now lease failure with
  | unknown _ result | single _ _ _ result | ignored _ _ _ result =>
      rw [result]
      exact .refl ledger
  | @rotated health ring found _ several result =>
      rw [result]
      apply keeps_update found
      rw [several]
      exact .some (ring.keeps_park now lease.index)
  | counted found _ _ result =>
      rw [result]
      exact keeps_update found (rel_refl _)

/-! ## Ledgers of a provider -/

/-- Whether a ledger serves a provider with these keys.  A provider with a single key has no ring. -/
structure Serves (ledger : Ledger) (settings : ResilienceSettings) (provider : String)
    (keys : List Secret) : Prop where
  same : ledger.settings = settings
  ring : ∀ ring ∈ ledger.ring? provider,
    1 < keys.length ∧ ring.settings = settings.keys ∧ ring.entries.map KeyRing.Entry.key = keys

variable {ledger after : Ledger} {settings : ResilienceSettings} {provider : String}
  {keys : List Secret}

theorem Serves.of_keeps (serves : ledger.Serves settings provider keys) (keeps : Keeps ledger after) :
    after.Serves settings provider keys where
  same := keeps.settings.trans serves.same
  ring := by
    intro ring member
    have kept := keeps.rings provider
    rw [Option.mem_def.mp member] at kept
    cases before : ledger.ring? provider with
    | none =>
        rw [before] at kept
        cases kept
    | some earlier =>
        rw [before] at kept
        obtain ⟨several, own, same⟩ := serves.ring earlier before
        cases kept with
        | some kept => exact ⟨several, kept.settings.trans own, kept.keys.trans same⟩

theorem health?_new {providers : List (String × List Secret)}
    (different : (providers.map Prod.fst).Nodup) (member : (provider, keys) ∈ providers)
    (now : Nat) :
    (Ledger.new settings now providers).health? provider =
      some (freshHealth settings now keys) := by
  have names : (providers.map fun provider =>
      (provider.1, freshHealth settings now provider.2)).map Prod.fst =
        providers.map Prod.fst := by simp
  exact Dictionary.get?_ofList_of_mem (names ▸ different)
    (List.mem_map.mpr ⟨(provider, keys), member, rfl⟩)

/-- The ledger that a gateway starts with serves each of its providers. -/
theorem serves_new {providers : List (String × List Secret)}
    (different : (providers.map Prod.fst).Nodup) (member : (provider, keys) ∈ providers)
    (now : Nat) : (Ledger.new settings now providers).Serves settings provider keys where
  same := rfl
  ring := by
    intro ring own
    rw [ring?_eq (health?_new different member now), freshHealth] at own
    split at own
    · rename_i several
      cases own
      exact ⟨several, rfl, by simp [KeyRing.new, Function.comp_def]⟩
    · cases own

/-- There are no more leases than keys. -/
theorem Serves.free_subset (serves : ledger.Serves settings provider keys) (nonempty : keys ≠ [])
    (now : Nat) : ledger.free now provider ⊆ Finset.range keys.length := by
  rw [free]
  cases found : ledger.ring? provider with
  | none => simpa using List.length_pos_iff.mpr nonempty
  | some ring =>
      have size : ring.size = keys.length := by
        simpa [KeyRing.size] using congrArg List.length (serves.ring ring found).2.2
      rw [← size]
      exact ring.free_subset now

theorem Serves.card_free_le (serves : ledger.Serves settings provider keys) (nonempty : keys ≠ [])
    (now : Nat) : (ledger.free now provider).card ≤ keys.length := by
  simpa using Finset.card_le_card (serves.free_subset nonempty now)

/-! ## Leases -/

/-- Asking for a lease takes none away. -/
theorem free_acquire (ledger : Ledger) (now : Nat) (provider : String) :
    (ledger.acquire now provider).2.free now provider = ledger.free now provider := by
  cases ledger.acquireCase now provider with
  | unknown _ result => rw [result]
  | refused found _ result | single found _ _ result =>
      rw [result]
      simp only [free, ring?_update_self, ring?_eq found]
  | @parked _ _ ring _ found _ several taken result
  | @dealt _ _ ring _ _ _ found _ several taken result =>
      have kept := ring.free_takeActive now
      rw [taken] at kept
      rw [result]
      simp only [free, ring?_update_self, ring?_eq found, several]
      exact kept

/-- A lease is on a free key. -/
theorem mem_free_of_acquire {ledger after : Ledger} {now : Nat} {provider : String} {lease : Lease}
    (acquired : ledger.acquire now provider = (.ok lease, after)) :
    lease.provider = provider ∧ lease.index ∈ ledger.free now provider := by
  cases ledger.acquireCase now provider with
  | unknown _ result | refused _ _ result | parked _ _ _ _ result =>
      rw [result] at acquired
      cases acquired
  | single found _ ringless result =>
      rw [result] at acquired
      cases acquired
      exact ⟨rfl, by simp [free, ring?_eq found, ringless]⟩
  | dealt found _ several taken result =>
      rw [result] at acquired
      cases acquired
      constructor
      · rfl
      · simp only [free, ring?_eq found, several]
        exact KeyRing.mem_free_of_takeActive (congrArg Prod.fst taken)

/-- A key that meets a rate limit is not free for a while, if there are others and keys are parked at
all. -/
theorem Serves.free_of_rotated {lease : Lease} (serves : ledger.Serves settings lease.provider keys)
    (ordered : settings.keys.base ≤ settings.keys.limit)
    (lasting : keys.length < 2 ∨ 0 < settings.keys.base) {now : Nat} {failure : Failure}
    (recorded : ledger.recordFailure now lease failure = (.rotated, after)) :
    after.free now lease.provider = (ledger.free now lease.provider).erase lease.index := by
  cases ledger.failureCase now lease failure with
  | unknown _ result | single _ _ _ result | counted _ _ _ result | ignored _ _ _ result =>
      rw [result] at recorded
      cases recorded
  | @rotated health ring found _ several result =>
      rw [result] at recorded
      cases recorded
      have own : ring ∈ ledger.ring? lease.provider := by
        rw [ring?_eq found]
        exact several
      obtain ⟨many, same, -⟩ := serves.ring ring own
      have base : 0 < settings.keys.base := lasting.resolve_left (Nat.not_lt.mpr many)
      simp only [free, ring?_update_self, ring?_eq found, several]
      exact KeyRing.free_park (same ▸ ordered) (same ▸ base) now lease.index

/-! ## Keys that are never parked -/

/-- Whether a ledger leases the first key of a provider now, and goes on with it after rate
limits. -/
def Insists (ledger : Ledger) (now : Nat) (provider : String) : Prop :=
  ∃ health ring, ledger.health? provider = some health ∧ health.breaker.phase = .closed ∧
    health.ring = some ring ∧ ring.settings.base = 0 ∧ 0 ∈ ring.free now

theorem Insists.acquire {now : Nat} (insists : ledger.Insists now provider) :
    ∃ lease after, ledger.acquire now provider = (.ok lease, after) ∧
      lease.provider = provider ∧ lease.index = 0 ∧ after.Insists now provider := by
  obtain ⟨health, ring, found, closed, several, zero, first⟩ := insists
  obtain ⟨key, taken, active⟩ := KeyRing.takeActive_of_first first
  have admitted : health.breaker.remaining? now = (none, health.breaker) := by
    simp [Breaker.remaining?, Breaker.refresh, closed]
  have kept := ring.keeps_takeActive now
  have free := ring.free_takeActive now
  rw [active] at kept free
  refine ⟨⟨provider, 0, key⟩, _,
    by simp only [Ledger.acquire, found, admitted, several, active]; rfl, rfl, rfl,
    { health with ring := some taken }, taken, ?_, closed, rfl, ?_, ?_⟩
  · simp [health?, update]
  · rw [kept.settings]
    exact zero
  · rw [free]
    exact first

theorem Insists.recordFailure {now : Nat} {lease : Lease}
    (insists : ledger.Insists now lease.provider) {failure : Failure}
    (limited : failure.isRateLimit = true) :
    ∃ after, ledger.recordFailure now lease failure = (.rotated, after) ∧
      after.Insists now lease.provider := by
  obtain ⟨health, ring, found, closed, several, zero, first⟩ := insists
  have kept := ring.keeps_park now lease.index
  refine ⟨_, by simp only [Ledger.recordFailure, found, limited, several]; rfl,
    { health with ring := some (ring.park now lease.index).2 }, _, ?_, closed, rfl, ?_, ?_⟩
  · simp [health?, update]
  · rw [kept.settings]
    exact zero
  · exact KeyRing.free_park_of_base_eq_zero zero now lease.index first

/-- A gateway without a base starts so for each of its providers with several keys. -/
theorem insists_new {providers : List (String × List Secret)}
    (different : (providers.map Prod.fst).Nodup) (member : (provider, keys) ∈ providers)
    (several : 1 < keys.length) (zero : settings.keys.base = 0) (now : Nat) :
    (Ledger.new settings now providers).Insists now provider := by
  refine ⟨freshHealth settings now keys, KeyRing.new settings.keys keys,
    health?_new different member now, rfl, by simp [freshHealth, several], zero, ?_⟩
  obtain ⟨key, rest, rfl⟩ := List.exists_cons_of_length_pos (Nat.zero_lt_of_lt several)
  rw [KeyRing.mem_free]
  rfl

end ChatGateway.Ledger
