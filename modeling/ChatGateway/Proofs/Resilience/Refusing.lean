import ChatGateway.Proofs.Resilience.Leases

/-!
# Refusing calls

A breaker that refuses calls does so until its time is over.  Whatever is asked of the ledger or
reported to it meanwhile leaves such a breaker as it is, and a breaker that begins to refuse calls
was opened by the report of that moment.
-/

namespace ChatGateway

namespace Breaker

/-- Whether calls are refused at a time. -/
def Refuses (breaker : Breaker) (now : Nat) : Prop :=
  breaker.phase = .opened ∧ now - breaker.since < breaker.settings.openTime

variable {breaker : Breaker} {now : Nat}

theorem Refuses.refresh_eq (refuses : breaker.Refuses now) : breaker.refresh now = breaker := by
  apply if_neg
  rintro ⟨-, elapsed⟩
  exact Nat.not_le_of_lt refuses.2 elapsed

/-- Only a breaker that refuses calls is open once it is refreshed. -/
theorem phase_refresh : (breaker.refresh now).phase = .opened ↔ breaker.Refuses now := by
  constructor
  · intro opened
    rw [refresh] at opened
    split at opened
    · cases opened
    · rename_i running
      exact ⟨opened, Nat.lt_of_not_le fun elapsed => running ⟨opened, elapsed⟩⟩
  · intro refuses
    rw [refuses.refresh_eq]
    exact refuses.1

theorem isOpen_eq_true : (breaker.isOpen now).1 = true ↔ breaker.Refuses now := by
  simp [isOpen, canExecute, state, phase_refresh]

theorem Refuses.remaining? (refuses : breaker.Refuses now) :
    (breaker.remaining? now).1 = some (breaker.settings.openTime - (now - breaker.since)) := by
  simp only [Breaker.remaining?, refuses.refresh_eq, refuses.1, if_true]

/-- What may become of a breaker at one moment unless it is reset. -/
structure Guards (now : Nat) (before after : Breaker) : Prop where
  settings : after.settings = before.settings
  still : before.Refuses now → after = before
  opened : ¬before.Refuses now → after.Refuses now → after.since = now

theorem Guards.refl (now : Nat) (breaker : Breaker) : Guards now breaker breaker where
  settings := rfl
  still _ := rfl
  opened admits refuses := (admits refuses).elim

theorem Guards.trans {before middle after : Breaker} (first : Guards now before middle)
    (second : Guards now middle after) : Guards now before after where
  settings := second.settings.trans first.settings
  still refuses := by
    obtain rfl := first.still refuses
    exact second.still refuses
  opened admits refuses := by
    by_cases already : middle.Refuses now
    · rw [second.still already]
      exact first.opened admits already
    · exact second.opened already refuses

/-- A breaker that does not refuse calls may change in other ways. -/
theorem Guards.of_phase {before after : Breaker} (settings : after.settings = before.settings)
    (admits : before.phase ≠ .opened) (opened : after.phase = .opened → after.since = now) :
    Guards now before after where
  settings := settings
  still refuses := (admits refuses.1).elim
  opened _ refuses := opened refuses.1

theorem guards_refresh (breaker : Breaker) (now : Nat) :
    Guards now breaker (breaker.refresh now) where
  settings := by
    rw [refresh]
    split <;> rfl
  still refuses := refuses.refresh_eq
  opened admits refuses := by
    rw [← phase_refresh] at admits
    exact (admits refuses.1).elim

/-- What becomes of a breaker that is at most asked something. -/
def Refreshes (now : Nat) (before after : Breaker) : Prop :=
  after = before ∨ after = before.refresh now

theorem Refreshes.guards {before after : Breaker} (refreshes : Refreshes now before after) :
    Guards now before after := by
  rcases refreshes with rfl | rfl
  · exact .refl now after
  · exact before.guards_refresh now

/-- A question does not open a breaker. -/
theorem Refreshes.eq_of_refuses {before after : Breaker} (refreshes : Refreshes now before after)
    (refuses : after.Refuses now) : after = before := by
  rcases refreshes with rfl | rfl
  · rfl
  · exact (phase_refresh.mp refuses.1).refresh_eq

theorem Refreshes.trans {before middle after : Breaker} (first : Refreshes now before middle)
    (second : Refreshes now middle after) : Refreshes now before after := by
  rcases second with rfl | rfl
  · exact first
  · rcases first with rfl | rfl
    · exact .inr rfl
    · refine .inr ?_
      by_cases refuses : (before.refresh now).Refuses now
      · exact refuses.refresh_eq
      · apply if_neg
        rintro ⟨opened, -⟩
        have refusing := phase_refresh.mp opened
        exact refuses (refusing.refresh_eq.symm ▸ refusing)

theorem guards_recordSuccess (breaker : Breaker) (now : Nat) :
    Guards now breaker (breaker.recordSuccess now) := by
  apply (guards_refresh breaker now).trans
  rw [recordSuccess]
  dsimp only
  split
  · rename_i closed
    exact .of_phase rfl (by simp [closed]) (by simp [closed])
  · rename_i halfOpen
    split
    · exact .of_phase rfl (by simp [halfOpen]) nofun
    · exact .of_phase rfl (by simp [halfOpen]) (by simp [halfOpen])
  · exact .refl now _

theorem guards_recordFailure (breaker : Breaker) (now : Nat) :
    Guards now breaker (breaker.recordFailure now) := by
  apply (guards_refresh breaker now).trans
  rw [recordFailure]
  dsimp only
  split
  · rename_i closed
    split
    · exact .of_phase rfl (by simp [closed]) fun _ => rfl
    · exact .of_phase rfl (by simp [closed]) (by simp [closed])
  · rename_i halfOpen
    exact .of_phase rfl (by simp [halfOpen]) fun _ => rfl
  · exact .refl now _

theorem remaining?_snd (breaker : Breaker) (now : Nat) :
    (breaker.remaining? now).2 = breaker.refresh now := by
  simp only [Breaker.remaining?]
  split <;> rfl

end Breaker

namespace Ledger

/-- The breaker of a provider. -/
def breaker? (ledger : Ledger) (provider : String) : Option Breaker :=
  (ledger.health? provider).map ProviderHealth.breaker

theorem breaker?_eq {ledger : Ledger} {provider : String} {health : ProviderHealth}
    (found : ledger.health? provider = some health) :
    ledger.breaker? provider = some health.breaker := by
  simp [breaker?, found]

theorem breaker?_update_self (ledger : Ledger) (provider : String) (health : ProviderHealth) :
    (ledger.update provider health).breaker? provider = some health.breaker := by
  rw [breaker?, health?_update_self, Option.map_some]

theorem breaker?_update_of_ne (ledger : Ledger) {provider other : String}
    (different : provider ≠ other) (health : ProviderHealth) :
    (ledger.update provider health).breaker? other = ledger.breaker? other := by
  rw [breaker?, health?_update_of_ne ledger different, breaker?]

/-- Whether the breaker of every provider relates so to what it was. -/
def Relates (relation : Breaker → Breaker → Prop) (before after : Ledger) : Prop :=
  ∀ provider, Option.Rel relation (before.breaker? provider) (after.breaker? provider)

variable {relation : Breaker → Breaker → Prop} {ledger : Ledger} {now : Nat} {provider : String}

theorem Relates.refl (same : ∀ breaker, relation breaker breaker) (ledger : Ledger) :
    Relates relation ledger ledger := by
  intro provider
  cases ledger.breaker? provider with
  | none => exact .none
  | some breaker => exact .some (same breaker)

theorem Relates.trans {before middle after : Ledger}
    (trans : ∀ {one two three}, relation one two → relation two three → relation one three)
    (first : Relates relation before middle) (second : Relates relation middle after) :
    Relates relation before after := by
  intro provider
  exact rel_trans trans (first provider) (second provider)

theorem Relates.mono {weaker : Breaker → Breaker → Prop} {before after : Ledger}
    (implies : ∀ {one two}, relation one two → weaker one two)
    (relates : Relates relation before after) : Relates weaker before after := by
  intro provider
  have related := relates provider
  generalize before.breaker? provider = earlier at related ⊢
  generalize after.breaker? provider = later at related ⊢
  cases related with
  | none => exact .none
  | some related => exact .some (implies related)

theorem Relates.exists_before {before after : Ledger} (relates : Relates relation before after)
    {breaker : Breaker} (found : after.breaker? provider = some breaker) :
    ∃ earlier, before.breaker? provider = some earlier ∧ relation earlier breaker := by
  have related := relates provider
  rw [found] at related
  cases known : before.breaker? provider with
  | none =>
      rw [known] at related
      cases related
  | some earlier =>
      rw [known] at related
      cases related with
      | some related => exact ⟨earlier, rfl, related⟩

theorem relates_update (same : ∀ breaker, relation breaker breaker)
    {health changed : ProviderHealth} (found : ledger.health? provider = some health)
    (breaker : relation health.breaker changed.breaker) :
    Relates relation ledger (ledger.update provider changed) := by
  intro other
  by_cases own : provider = other
  · subst own
    rw [breaker?_update_self, breaker?_eq found]
    exact .some breaker
  · rw [breaker?_update_of_ne ledger own]
    exact Relates.refl same ledger other

/-- Whether no breaker has changed but by being refreshed. -/
abbrev Refreshes (now : Nat) : Ledger → Ledger → Prop := Relates (Breaker.Refreshes now)

/-- Whether the breakers have changed only as they may at one moment unless they are reset. -/
abbrev Guards (now : Nat) : Ledger → Ledger → Prop := Relates (Breaker.Guards now)

theorem Refreshes.refl (now : Nat) (ledger : Ledger) : Refreshes now ledger ledger :=
  Relates.refl (fun _ => .inl rfl) ledger

theorem Refreshes.guards {before after : Ledger} (refreshes : Refreshes now before after) :
    Guards now before after :=
  Relates.mono Breaker.Refreshes.guards refreshes

theorem Guards.refl (now : Nat) (ledger : Ledger) : Guards now ledger ledger :=
  (Refreshes.refl now ledger).guards

/-- A breaker that refuses calls is left alone. -/
theorem Guards.breaker?_eq {before after : Ledger} (guards : Guards now before after)
    {breaker : Breaker} (found : before.breaker? provider = some breaker)
    (refuses : breaker.Refuses now) : after.breaker? provider = some breaker := by
  have related := guards provider
  rw [found] at related
  generalize after.breaker? provider = later at related ⊢
  cases related with
  | some kept => rw [kept.still refuses]

theorem refreshes_acquire (ledger : Ledger) (now : Nat) (provider : String) :
    Refreshes now ledger (ledger.acquire now provider).2 := by
  have checked {health : ProviderHealth} {remaining : Option Nat} {breaker : Breaker}
      (asked : health.breaker.remaining? now = (remaining, breaker)) :
      Breaker.Refreshes now health.breaker breaker := by
    have refreshed := health.breaker.remaining?_snd now
    rw [asked] at refreshed
    exact .inr refreshed
  cases ledger.acquireCase now provider with
  | unknown _ result =>
      rw [result]
      exact .refl now ledger
  | refused found asked result | single found asked _ result | parked found asked _ _ result
  | dealt found asked _ _ result =>
      rw [result]
      exact relates_update (fun _ => .inl rfl) found (checked asked)

/-- Looking at a breaker refreshes it. -/
theorem refreshes_isOpen (ledger : Ledger) (now : Nat) (provider : String) :
    Refreshes now ledger (ledger.isOpen now provider).2 := by
  rw [isOpen]
  split
  · exact .refl now ledger
  · rename_i health found
    exact relates_update (fun _ => .inl rfl) found (.inr rfl)

theorem guards_recordSuccess (ledger : Ledger) (now : Nat) (lease : Lease) :
    Guards now ledger (ledger.recordSuccess now lease) := by
  rw [recordSuccess]
  split
  · exact .refl now ledger
  · rename_i health found
    exact relates_update (Breaker.Guards.refl now) found (health.breaker.guards_recordSuccess now)

theorem guards_recordFailure (ledger : Ledger) (now : Nat) (lease : Lease) (failure : Failure) :
    Guards now ledger (ledger.recordFailure now lease failure).2 := by
  cases ledger.failureCase now lease failure with
  | unknown _ result | single _ _ _ result | ignored _ _ _ result =>
      rw [result]
      exact .refl now ledger
  | rotated found _ _ result =>
      rw [result]
      exact relates_update (Breaker.Guards.refl now) found (.refl now _)
  | @counted health found _ _ result =>
      rw [result]
      apply relates_update (Breaker.Guards.refl now) found
      exact (health.breaker.guards_recordFailure now).trans (Breaker.guards_refresh _ now)

/-- A rate limit is no matter for the breaker of a provider with several keys. -/
theorem refreshes_of_rotated {lease : Lease} {failure : Failure} {after : Ledger}
    (recorded : ledger.recordFailure now lease failure = (.rotated, after)) :
    Refreshes now ledger after := by
  cases ledger.failureCase now lease failure with
  | unknown _ result | single _ _ _ result | counted _ _ _ result | ignored _ _ _ result =>
      rw [result] at recorded
      cases recorded
  | rotated found _ _ result =>
      rw [result] at recorded
      cases recorded
      exact relates_update (fun _ => .inl rfl) found (.inl rfl)

theorem breaker?_reset_of_ne {other : String} (different : provider ≠ other) (ledger : Ledger)
    (now : Nat) : (ledger.reset now provider).breaker? other = ledger.breaker? other := by
  rw [reset]
  split
  · rfl
  · exact breaker?_update_of_ne ledger different _

theorem breaker?_reset_self (ledger : Ledger) (now : Nat) (provider : String) :
    (ledger.reset now provider).breaker? provider =
      (ledger.breaker? provider).map fun breaker => breaker.reset now := by
  rw [reset]
  split
  · rename_i missing
    simp [breaker?, missing]
  · rename_i health found
    rw [breaker?_update_self, breaker?_eq found]
    rfl

variable {breaker : Breaker}

/-- Whether all breakers have these settings. -/
def Uniform (settings : Breaker.Settings) (ledger : Ledger) : Prop :=
  ∀ provider breaker, ledger.breaker? provider = some breaker → breaker.settings = settings

theorem uniform_new (settings : ResilienceSettings) (now : Nat)
    (providers : List (String × List Secret)) :
    Uniform settings.breaker (Ledger.new settings now providers) := by
  intro provider breaker found
  rw [breaker?, Option.map_eq_some_iff] at found
  obtain ⟨health, known, rfl⟩ := found
  obtain ⟨declared, -, same⟩ := List.mem_map.mp (Dictionary.mem_of_get?_ofList known)
  cases same
  rfl

theorem Uniform.of_guards {settings : Breaker.Settings} {before after : Ledger}
    (uniform : Uniform settings before) (guards : Guards now before after) :
    Uniform settings after := by
  intro provider breaker found
  obtain ⟨earlier, known, kept⟩ := guards.exists_before found
  exact kept.settings.trans (uniform provider earlier known)

theorem Uniform.reset {settings : Breaker.Settings} (uniform : Uniform settings ledger) (now : Nat)
    (provider : String) : Uniform settings (ledger.reset now provider) := by
  intro other breaker found
  by_cases own : provider = other
  · subst own
    rw [breaker?_reset_self, Option.map_eq_some_iff] at found
    obtain ⟨earlier, known, rfl⟩ := found
    exact uniform provider earlier known
  · rw [breaker?_reset_of_ne own] at found
    exact uniform other breaker found

/-- Being open, as the ledger tells it. -/
theorem isOpen_eq_true :
    (ledger.isOpen now provider).1 = true ↔
      ∃ breaker, ledger.breaker? provider = some breaker ∧ breaker.Refuses now := by
  rw [isOpen]
  split
  · rename_i missing
    simp [breaker?, missing]
  · rename_i health found
    simp [breaker?_eq found, ← Breaker.isOpen_eq_true]

/-- A provider whose breaker refuses calls gives no lease. -/
theorem acquire_of_refuses (found : ledger.breaker? provider = some breaker)
    (refuses : breaker.Refuses now) :
    (ledger.acquire now provider).1 =
      .error (.circuitOpen provider (breaker.settings.openTime - (now - breaker.since))) := by
  rw [breaker?, Option.map_eq_some_iff] at found
  obtain ⟨health, known, rfl⟩ := found
  have remaining := refuses.remaining?
  cases ledger.acquireCase now provider with
  | unknown missing _ =>
      rw [missing] at known
      cases known
  | refused same asked result =>
      cases known.symm.trans same
      rw [asked] at remaining
      cases remaining
      rw [result]
  | single same asked _ _ | parked same asked _ _ _ | dealt same asked _ _ _ =>
      cases known.symm.trans same
      rw [asked] at remaining
      cases remaining

end Ledger

end ChatGateway
