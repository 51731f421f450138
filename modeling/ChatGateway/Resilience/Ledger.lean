import ChatGateway.Dictionary
import ChatGateway.Resilience.Breaker
import ChatGateway.Resilience.KeyRing
import ChatGateway.Resilience.RateLimit
import ChatGateway.Resilience.Retry

/-!
# The ledger

For every provider a breaker, and a key ring where it has more than one key.  A lease is taken
before each call, and the outcome of the call is reported against it.
-/

namespace ChatGateway

/-- How the gateway guards itself against failing providers. -/
structure ResilienceSettings where
  breaker : Breaker.Settings
  keys : KeyRing.Settings
  retry : RetryPolicy
  deriving DecidableEq, Inhabited

/-- The settings of a gateway that names none. -/
def ResilienceSettings.standard : ResilienceSettings :=
  ⟨.standard, .standard, .standard⟩

/-- The right to make one call with one key. -/
structure Lease where
  provider : String
  index : Nat
  key : Secret
  deriving DecidableEq, Inhabited

/-- Why no lease is given. -/
inductive Refusal where
  | unknownProvider (provider : String)
  | circuitOpen (provider : String) (remaining : Nat)
  | keysParked (provider : String)
  deriving DecidableEq, Inhabited

/-- A refusal as a failure of the request. -/
def Refusal.failure : Refusal → Failure
  | .unknownProvider provider => .configuration ("Unknown provider '" ++ provider ++ "'")
  | .circuitOpen provider remaining =>
      .unavailable provider ("circuit open, retry in " ++ toString remaining ++ "ms")
  | .keysParked provider => .unavailable provider "all API keys are rate limited"

/-- What was done about a failed call. -/
inductive Disposition where
  /-- The key was parked; another one may serve. -/
  | rotated
  /-- A rate limit of a provider whose key has no other. -/
  | rateLimited
  /-- Counted by the breaker. -/
  | counted
  /-- No sign of the provider's health. -/
  | ignored
  deriving DecidableEq, Repr, Inhabited

/-- The health of one provider.  A provider with a single key has no ring. -/
structure ProviderHealth where
  breaker : Breaker
  primaryKey : Secret
  ring : Option KeyRing
  deriving DecidableEq, Inhabited

/-- The health of every provider. -/
structure Ledger where
  settings : ResilienceSettings
  providers : Dictionary ProviderHealth
  deriving Inhabited

namespace Ledger

/-- The health of a provider that has not been called. -/
def freshHealth (settings : ResilienceSettings) (now : Nat) (keys : List Secret) :
    ProviderHealth where
  breaker := Breaker.new settings.breaker now
  primaryKey := keys.headD ⟨""⟩
  ring := if 1 < keys.length then some (KeyRing.new settings.keys keys) else none

/-- A ledger for providers with their keys; of two providers of one name the later one counts. -/
def new (settings : ResilienceSettings) (now : Nat) (providers : List (String × List Secret)) :
    Ledger where
  settings := settings
  providers := Dictionary.ofList
    (providers.map fun provider => (provider.1, freshHealth settings now provider.2))

/-- The health of a provider. -/
def health? (ledger : Ledger) (provider : String) : Option ProviderHealth :=
  Dictionary.get? provider ledger.providers

/-- Replaces the health of a provider. -/
def update (ledger : Ledger) (provider : String) (health : ProviderHealth) : Ledger :=
  { ledger with providers := Dictionary.insert provider health ledger.providers }

/-- Asks for the right to make one call. -/
def acquire (ledger : Ledger) (now : Nat) (provider : String) : Except Refusal Lease × Ledger :=
  match ledger.health? provider with
  | none => (.error (.unknownProvider provider), ledger)
  | some health =>
      match health.breaker.remaining? now with
      | (some remaining, breaker) =>
          (.error (.circuitOpen provider remaining),
            ledger.update provider { health with breaker })
      | (none, breaker) =>
          match health.ring with
          | none =>
              (.ok ⟨provider, 0, health.primaryKey⟩, ledger.update provider { health with breaker })
          | some ring =>
              match ring.takeActive now with
              | (none, ring) =>
                  (.error (.keysParked provider),
                    ledger.update provider { health with breaker, ring := some ring })
              | (some (index, key), ring) =>
                  (.ok ⟨provider, index, key⟩,
                    ledger.update provider { health with breaker, ring := some ring })

/-- Reports a successful call. -/
def recordSuccess (ledger : Ledger) (now : Nat) (lease : Lease) : Ledger :=
  match ledger.health? lease.provider with
  | none => ledger
  | some health =>
      ledger.update lease.provider
        { health with
          breaker := health.breaker.recordSuccess now
          ring := health.ring.map fun ring => ring.recordSuccess lease.index }

/-- Reports a failed call. -/
def recordFailure (ledger : Ledger) (now : Nat) (lease : Lease) (failure : Failure) :
    Disposition × Ledger :=
  match ledger.health? lease.provider with
  | none => (.ignored, ledger)
  | some health =>
      if failure.isRateLimit then
        match health.ring with
        | none => (.rateLimited, ledger)
        | some ring =>
            (.rotated,
              ledger.update lease.provider
                { health with ring := some (ring.park now lease.index).2 })
      else if failure.countsAgainstProvider then
        (.counted,
          ledger.update lease.provider
            { health with breaker := (health.breaker.recordFailure now).refresh now })
      else (.ignored, ledger)

/-- Closes the breaker of a provider. -/
def reset (ledger : Ledger) (now : Nat) (provider : String) : Ledger :=
  match ledger.health? provider with
  | none => ledger
  | some health =>
      ledger.update provider { health with breaker := health.breaker.reset now }

/-- The phase of a provider's breaker. -/
def phase? (ledger : Ledger) (now : Nat) (provider : String) :
    Option Breaker.Phase × Ledger :=
  match ledger.health? provider with
  | none => (none, ledger)
  | some health =>
      let (phase, breaker) := health.breaker.state now
      (some phase, ledger.update provider { health with breaker })

/-- Whether a provider's breaker refuses calls. -/
def isOpen (ledger : Ledger) (now : Nat) (provider : String) : Bool × Ledger :=
  match ledger.health? provider with
  | none => (false, ledger)
  | some health =>
      let (isOpen, breaker) := health.breaker.isOpen now
      (isOpen, ledger.update provider { health with breaker })

/-- The position of the key in use of a provider with several. -/
def currentKey? (ledger : Ledger) (provider : String) : Option Nat :=
  (ledger.health? provider).bind fun health => health.ring.map KeyRing.current

/-- What can be seen of a provider's health. -/
structure Report where
  provider : String
  phase : Option Breaker.Phase
  isOpen : Bool
  currentKey : Option Nat
  deriving DecidableEq, Repr, Inhabited

/-- Reports on providers. -/
def report (ledger : Ledger) (now : Nat) : List String → List Report × Ledger
  | [] => ([], ledger)
  | provider :: rest =>
      let (phase, ledger) := ledger.phase? now provider
      let (isOpen, ledger) := ledger.isOpen now provider
      let (reports, after) := ledger.report now rest
      (⟨provider, phase, isOpen, ledger.currentKey? provider⟩ :: reports, after)

end Ledger

end ChatGateway
