import ChatGateway.Failure
import ChatGateway.Number.Binary
import ChatGateway.Number.Word

/-!
# Retrying with growing delays

A call that failed in a passing way is made again, at most `retries` times.  The delay before
retry `n` is `shortest * factor ^ n`, at most `longest`, and may be moved at random by a share
of itself.
-/

namespace ChatGateway

/-- How calls are retried; times are in milliseconds. -/
structure RetryPolicy where
  retries : Nat
  factor : Extended
  shortest : Nat
  longest : Nat
  /-- The share of a delay by which chance may move it, up or down. -/
  jitter : Extended
  deriving DecidableEq, Repr, Inhabited

/-- Whether the same call may succeed later. -/
def Failure.isPassing : Failure → Bool
  | .api status _ _ _ _ => decide (500 ≤ status) || status = 429
  | .network fault _ => fault = .connect || fault = .timeout || fault = .dns
  | _ => false

namespace RetryPolicy

/-- Three retries, the delay doubling from one second to half a minute. -/
def standard : RetryPolicy :=
  { retries := 3
    factor := Binary.ofInt .double 2
    shortest := 1000
    longest := 30000
    jitter := Binary.ofInt .double 0 }

/-- The standard policy with another number of retries. -/
def ofRetries (retries : Nat) : RetryPolicy := { standard with retries }

/-- No second call. -/
def never : RetryPolicy := ofRetries 0

/-- The largest exponent of the factor. -/
def greatestExponent : Nat := Word.size 31 - 1

/-- The largest delay that can be told. -/
def greatestDelay : Nat := Word.size 64 - 1

/-- The delay before chance moves it. -/
def plainDelay (policy : RetryPolicy) (attempt : Nat) : Extended :=
  let growth := Extended.power .double policy.factor (min attempt greatestExponent)
  Extended.least
    (Extended.multiply .double (Binary.ofInt .double policy.shortest) growth)
    (Binary.ofInt .double policy.longest)

/-- A draw is a whole number up to this one. -/
def greatestDraw : Nat := Word.size 52 - 1

/-- How far a draw moves a delay: from `-range` for draw zero up to `range` for the greatest. -/
def offset (range : Extended) (draw : Nat) : Extended :=
  let width := Extended.add .double range range
  let share := Binary.round .double false (min draw greatestDraw) greatestDraw
  let negated := match range with
    | .finite value => .finite { value with negative := !value.negative }
    | .infinite negative => .infinite !negative
    | .undefined => .undefined
  Extended.add .double (Extended.multiply .double width share) negated

/-- How far chance may move a delay, up or down. -/
def range (policy : RetryPolicy) (attempt : Nat) : Extended :=
  Extended.multiply .double (policy.plainDelay attempt) policy.jitter

/-- The delay in milliseconds before the retry after a failed attempt, attempts counting from zero.
`draw` is what chance says. -/
def delay (policy : RetryPolicy) (attempt draw : Nat) : Nat :=
  let plain := policy.plainDelay attempt
  let moved :=
    if Extended.less (Binary.ofInt .double 0) policy.jitter then
      Extended.add .double plain (offset (policy.range attempt) draw)
    else plain
  moved.truncate greatestDelay

/-- Whether chance can draw a number from `-range` to `range`.  It refuses a range without numbers,
and one that is too wide for the step between its numbers to be told. -/
def isRange (range : Extended) : Bool :=
  match Extended.add .double range range with
  | .finite width =>
      let (numerator, denominator) := width.fraction
      !Extended.less range (Binary.ofInt .double 0) &&
        (Binary.round? .double width.negative (numerator * (greatestDraw + 1))
          (denominator * greatestDraw)).isSome
  | _ => false

/-- Whether there is a delay before the retry after a failed attempt.  Chance is only asked where it
may move the delay. -/
def isDrawn (policy : RetryPolicy) (attempt : Nat) : Bool :=
  !Extended.less (Binary.ofInt .double 0) policy.jitter || isRange (policy.range attempt)

/-- Whether another attempt follows a failed one. -/
def retriesAfter (policy : RetryPolicy) (attempt : Nat) (failure : Failure) : Bool :=
  decide (attempt < policy.retries) && failure.isPassing

theorem lt_retries_of_retriesAfter {policy : RetryPolicy} {attempt : Nat} {failure : Failure}
    (again : policy.retriesAfter attempt failure = true) : attempt < policy.retries := by
  simp only [retriesAfter, Bool.and_eq_true, decide_eq_true_eq] at again
  exact again.1

/-- Calls until a call succeeds or no retry follows, from an attempt on.  `call` is given the
number of the attempt and `wait` the delay; `draws` is what chance says after each attempt.  There
is no outcome where a delay cannot be drawn or the next attempt is too large a number. -/
def runFrom {σ α : Type} (policy : RetryPolicy) (draws : Nat → Nat)
    (call : Nat → σ → Except Failure α × σ) (wait : Nat → σ → σ) (attempt : Nat) (state : σ) :
    Option (Except Failure α) × σ :=
  match call attempt state with
  | (.ok value, state) => (some (.ok value), state)
  | (.error failure, state) =>
      if again : policy.retriesAfter attempt failure then
        if policy.isDrawn attempt then
          let state := wait (policy.delay attempt (draws attempt)) state
          if Word.fits 32 (attempt + 1) then
            runFrom policy draws call wait (attempt + 1) state
          else (none, state)
        else (none, state)
      else (some (.error failure), state)
termination_by policy.retries - attempt
decreasing_by
  have below := lt_retries_of_retriesAfter again
  omega

/-- Calls until a call succeeds or no retry follows. -/
def run {σ α : Type} (policy : RetryPolicy) (draws : Nat → Nat)
    (call : Nat → σ → Except Failure α × σ) (wait : Nat → σ → σ) (state : σ) :
    Option (Except Failure α) × σ :=
  runFrom policy draws call wait 0 state

end RetryPolicy

end ChatGateway
