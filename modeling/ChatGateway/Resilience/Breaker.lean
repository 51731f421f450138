/-!
# Circuit breaker

A closed breaker lets calls through and counts consecutive failures; enough of them open it.
An open breaker refuses calls for a while, then lets probes through.  Enough successful probes
close it, and one that fails opens it again.

The breaker holds no clock: every operation is told the time.
-/

namespace ChatGateway

namespace Breaker

/-- When a breaker opens and closes. -/
structure Settings where
  /-- Consecutive failures that open it. -/
  failureThreshold : Nat
  /-- Successful probes that close it. -/
  successThreshold : Nat
  /-- How long it stays open, in milliseconds. -/
  openTime : Nat
  deriving DecidableEq, Repr, Inhabited

/-- The settings of a provider that names none. -/
def Settings.standard : Settings := ⟨5, 3, 30000⟩

/-- What a breaker does with calls. -/
inductive Phase where
  | closed
  | opened
  | halfOpen
  deriving DecidableEq, Repr, Inhabited

/-- The name of a phase. -/
def Phase.name : Phase → String
  | .closed => "closed"
  | .opened => "open"
  | .halfOpen => "half_open"

end Breaker

/-- A breaker: its phase, the outcomes counted in it, and when it began. -/
structure Breaker where
  settings : Breaker.Settings
  phase : Breaker.Phase
  failures : Nat
  successes : Nat
  since : Nat
  deriving DecidableEq, Repr, Inhabited

namespace Breaker

/-- A closed breaker. -/
def new (settings : Settings) (now : Nat) : Breaker := ⟨settings, .closed, 0, 0, now⟩

/-- Begins a phase. -/
def enter (breaker : Breaker) (now : Nat) (phase : Phase) : Breaker :=
  { breaker with phase, failures := 0, successes := 0, since := now }

/-- An open breaker whose time is over becomes half open. -/
def refresh (breaker : Breaker) (now : Nat) : Breaker :=
  if breaker.phase = .opened ∧ breaker.settings.openTime ≤ now - breaker.since then
    breaker.enter now .halfOpen
  else breaker

/-- The phase now. -/
def state (breaker : Breaker) (now : Nat) : Phase × Breaker :=
  let breaker := breaker.refresh now
  (breaker.phase, breaker)

/-- Whether calls are let through. -/
def canExecute (breaker : Breaker) (now : Nat) : Bool × Breaker :=
  let (phase, breaker) := breaker.state now
  (phase != .opened, breaker)

/-- Whether calls are refused. -/
def isOpen (breaker : Breaker) (now : Nat) : Bool × Breaker :=
  let (admits, breaker) := breaker.canExecute now
  (!admits, breaker)

/-- How long an open breaker stays open. -/
def remaining? (breaker : Breaker) (now : Nat) : Option Nat × Breaker :=
  let breaker := breaker.refresh now
  if breaker.phase = .opened then
    (some (breaker.settings.openTime - (now - breaker.since)), breaker)
  else (none, breaker)

/-- Counts a successful call. -/
def recordSuccess (breaker : Breaker) (now : Nat) : Breaker :=
  let breaker := breaker.refresh now
  match breaker.phase with
  | .closed => { breaker with failures := 0 }
  | .halfOpen =>
      let counted := { breaker with successes := breaker.successes + 1 }
      if counted.settings.successThreshold ≤ counted.successes then counted.enter now .closed
      else counted
  | .opened => breaker

/-- Counts a failed call.  One that was admitted before the breaker opened changes nothing. -/
def recordFailure (breaker : Breaker) (now : Nat) : Breaker :=
  let breaker := breaker.refresh now
  match breaker.phase with
  | .closed =>
      let counted := { breaker with failures := breaker.failures + 1 }
      if counted.settings.failureThreshold ≤ counted.failures then counted.enter now .opened
      else counted
  | .halfOpen => breaker.enter now .opened
  | .opened => breaker

/-- Closes the breaker whatever it has counted. -/
def reset (breaker : Breaker) (now : Nat) : Breaker := breaker.enter now .closed

end Breaker

end ChatGateway
