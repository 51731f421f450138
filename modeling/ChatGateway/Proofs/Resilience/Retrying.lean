import ChatGateway.Proofs.Config.Accepted
import ChatGateway.Proofs.Number.Bounds
import ChatGateway.Resilience.Retry
import Mathlib.Data.Nat.Find

/-!
# What retrying does

An operation is called until it succeeds, fails for good or has been retried often enough.  Up to
its last attempt each call is followed by the delay for it, provided that chance can draw this
delay; where it cannot, retrying breaks off without an outcome.
-/

namespace ChatGateway.RetryPolicy

/-! ## Delays that can be drawn -/

/-- Without jitter, chance is not asked. -/
theorem isDrawn_of_steady {policy : RetryPolicy}
    (steady : Extended.less (Binary.ofInt .double 0) policy.jitter = false) (attempt : Nat) :
    policy.isDrawn attempt = true := by
  rw [isDrawn, steady]
  rfl

theorem isRange_of_within {power : Int} {range : Extended} (within : range.Within power)
    (least : -1023 ≤ power) (greatest : power ≤ 1019) : isRange range = true := by
  have above : range.NonNegative := by
    obtain ⟨number, rfl, above, -⟩ := within
    exact above
  obtain ⟨width, sum, positive, small⟩ := within.add_self least (by omega)
  rw [Binary.value_eq_magnitude positive] at small
  have draws : 0 < greatestDraw := by decide
  have fraction : ((width.fraction.1 * (greatestDraw + 1) : Nat) : ℚ) /
      ((width.fraction.2 * greatestDraw : Nat) : ℚ) < 2 ^ (power + 4) := by
    have step : ((greatestDraw + 1 : Nat) : ℚ) / (greatestDraw : ℚ) ≤ 2 := by
      rw [div_le_iff₀ (by exact_mod_cast draws)]
      exact_mod_cast (by omega : greatestDraw + 1 ≤ 2 * greatestDraw)
    rw [Nat.cast_mul, Nat.cast_mul, mul_div_mul_comm, Binary.ratio_fraction]
    calc
      width.magnitude * (((greatestDraw + 1 : Nat) : ℚ) / (greatestDraw : ℚ))
          ≤ 2 ^ (power + 2) * 2 := by
            gcongr
      _ = 2 ^ (power + 2 + 1) := (zpow_add_one₀ two_ne_zero _).symm
      _ < 2 ^ (power + 4) := zpow_lt_zpow_right₀ one_lt_two (by omega)
  obtain ⟨step, told, -⟩ := Binary.exists_round?_of_lt .double
    (by simp only [Binary.Format.double]; omega) (by simp only [Binary.Format.double]; omega)
    width.negative (Nat.mul_pos width.pos_fraction draws) fraction
  rw [isRange, sum]
  simp only [Extended.nonNegative_iff.mp above, told, Option.isSome_some, Bool.not_false,
    Bool.and_self]

/-- The share of an accepted policy lies between zero and one. -/
theorem within_jitter {share : Extended} (defined : share ≠ .undefined)
    (above : share.less (Binary.ofInt .double 0) = false)
    (below : (Binary.ofInt .double 1).less share = false) : share.Within 0 := by
  have one : Binary.ofInt .double 1 = .finite ⟨false, 2 ^ 52, -52⟩ := by decide +kernel
  rw [← Extended.nonNegative_iff] at above
  rw [one] at below
  cases share with
  | undefined => exact (defined rfl).elim
  | infinite negative =>
      cases above
      cases below
  | finite number =>
      rw [Extended.less_finite, decide_eq_false_iff_not, not_lt] at below
      refine ⟨number, rfl, above, below.trans ?_⟩
      norm_num [Binary.value, Binary.magnitude]

/-- With a factor that is not negative, chance can draw every delay of an accepted policy. -/
theorem isDrawn_of_checkStructure {toolkit : Toolkit} {settings : Config.GatewaySettings}
    (accepted : settings.checkStructure toolkit = .ok ())
    (word : Word.fits 64 settings.resilience.retry.longest)
    (rising : settings.resilience.retry.factor.less (Binary.ofInt .double 0) = false)
    (attempt : Nat) : settings.resilience.retry.isDrawn attempt = true := by
  obtain ⟨defined, above, below⟩ := Config.GatewaySettings.jitter_of_checkStructure accepted
  generalize settings.resilience.retry = policy at word rising defined above below ⊢
  have growth := (Extended.nonNegative_iff.mpr rising).power .double (min attempt greatestExponent)
  have limit : (Binary.ofInt .double policy.longest).Within 64 :=
    Extended.within_ofInt (of_decide_eq_true word) (by decide)
  have plain : (policy.plainDelay attempt).Within 64 :=
    limit.least ((Extended.nonNegative_ofInt .double policy.shortest).multiply growth .double)
  have range : (policy.range attempt).Within (64 + 0 + 1) :=
    plain.multiply (within_jitter defined above below) (by decide) (by decide)
  rw [isDrawn, isRange_of_within range (by decide) (by decide), Bool.or_true]

/-! ## Scripts and deeds -/

/-- What is done while an operation is retried. -/
inductive Deed where
  | call (attempt : Nat)
  | wait (delay : Nat)
  deriving DecidableEq, Repr, Inhabited

namespace Deed

/-- The number that a call is given. -/
def attempt? : Deed → Option Nat
  | .call attempt => some attempt
  | .wait _ => none

/-- How long is waited. -/
def delay? : Deed → Option Nat
  | .call _ => none
  | .wait delay => some delay

end Deed

variable {α : Type}

/-- An operation whose calls have these outcomes one after the other, whatever numbers they are
given. -/
def scripted (outcomes : Nat → Except Failure α) (attempt : Nat) (deeds : List Deed) :
    Except Failure α × List Deed :=
  (outcomes (deeds.filterMap Deed.attempt?).length, deeds ++ [.call attempt])

/-- Runs a script and notes what is done. -/
def runScript (policy : RetryPolicy) (draws : Nat → Nat) (outcomes : Nat → Except Failure α) :
    Option (Except Failure α) × List Deed :=
  policy.run draws (scripted outcomes) (fun delay deeds => deeds ++ [.wait delay]) []

/-- Whether no retry follows what happened at a position. -/
def ends (policy : RetryPolicy) (outcomes : Nat → Except Failure α) (position : Nat) : Bool :=
  match outcomes position with
  | .ok _ => true
  | .error failure => !failure.isPassing || position == policy.retries

theorem ends_retries (policy : RetryPolicy) (outcomes : Nat → Except Failure α) :
    policy.ends outcomes policy.retries = true := by
  rw [ends]
  split
  · rfl
  · simp

theorem exists_ends (policy : RetryPolicy) (outcomes : Nat → Except Failure α) :
    ∃ position, policy.ends outcomes position = true :=
  ⟨policy.retries, policy.ends_retries outcomes⟩

/-- The first position that no retry follows. -/
def lastAttempt (policy : RetryPolicy) (outcomes : Nat → Except Failure α) : Nat :=
  Nat.find (policy.exists_ends outcomes)

/-- Attempts, each with the delay after it. -/
def retried (policy : RetryPolicy) (draws : Nat → Nat) (attempts : Nat) : List Deed :=
  (List.range attempts).flatMap fun attempt =>
    [.call attempt, .wait (policy.delay attempt (draws attempt))]

variable (policy : RetryPolicy) (draws : Nat → Nat) (outcomes : Nat → Except Failure α)

theorem lastAttempt_le : policy.lastAttempt outcomes ≤ policy.retries :=
  Nat.find_min' (policy.exists_ends outcomes) (policy.ends_retries outcomes)

theorem ends_lastAttempt : policy.ends outcomes (policy.lastAttempt outcomes) = true :=
  Nat.find_spec (policy.exists_ends outcomes)

theorem retried_succ (attempts : Nat) :
    policy.retried draws (attempts + 1) =
      policy.retried draws attempts ++
        [.call attempts, .wait (policy.delay attempts (draws attempts))] := by
  simp [retried, List.range_succ]

theorem attempts_retried (attempts : Nat) :
    (policy.retried draws attempts).filterMap Deed.attempt? = List.range attempts := by
  induction attempts with
  | zero => rfl
  | succ attempts ih =>
      rw [retried_succ, List.filterMap_append, ih, List.range_succ]
      rfl

theorem delays_retried (attempts : Nat) :
    (policy.retried draws attempts).filterMap Deed.delay? =
      (List.range attempts).map fun attempt => policy.delay attempt (draws attempt) := by
  induction attempts with
  | zero => rfl
  | succ attempts ih =>
      rw [retried_succ, List.filterMap_append, ih, List.range_succ, List.map_append]
      rfl

/-! ## One attempt -/

/-- The calls from an attempt on, after those before it. -/
def resume (attempt : Nat) : Option (Except Failure α) × List Deed :=
  policy.runFrom draws (scripted outcomes) (fun delay deeds => deeds ++ [.wait delay]) attempt
    (policy.retried draws attempt)

variable {policy draws outcomes} {attempt : Nat}

theorem scripted_retried :
    scripted outcomes attempt (policy.retried draws attempt) =
      (outcomes attempt, policy.retried draws attempt ++ [.call attempt]) := by
  rw [scripted, attempts_retried, List.length_range]

/-- Attempts are counted within the bits that hold the number of retries. -/
theorem fits_of_le_retries (fits : Word.fits 32 policy.retries)
    (within : attempt ≤ policy.retries) : Word.fits 32 attempt := by
  simp only [Word.fits, decide_eq_true_eq] at fits ⊢
  omega

/-- Before the last attempt, every failure is passing and there are retries left. -/
theorem retriesAfter_of_lt (before : attempt < policy.lastAttempt outcomes) :
    ∃ failure, outcomes attempt = .error failure ∧ policy.retriesAfter attempt failure = true := by
  have goes : policy.ends outcomes attempt = false := by
    simpa using Nat.find_min (policy.exists_ends outcomes) before
  have left := Nat.lt_of_lt_of_le before (policy.lastAttempt_le outcomes)
  rw [ends] at goes
  split at goes
  · cases goes
  · rename_i failure failed
    rw [Bool.or_eq_false_iff, Bool.not_eq_false'] at goes
    exact ⟨failure, failed, by simp [retriesAfter, left, goes.1]⟩

theorem resume_lastAttempt :
    resume policy draws outcomes (policy.lastAttempt outcomes) =
      (some (outcomes (policy.lastAttempt outcomes)),
        policy.retried draws (policy.lastAttempt outcomes) ++
          [.call (policy.lastAttempt outcomes)]) := by
  have ended := policy.ends_lastAttempt outcomes
  rw [resume, runFrom, scripted_retried]
  rw [ends] at ended
  cases outcome : outcomes (policy.lastAttempt outcomes) with
  | ok value => rfl
  | error failure =>
      rw [outcome] at ended
      have final : ¬ policy.retriesAfter (policy.lastAttempt outcomes) failure = true := by
        simp only [Bool.or_eq_true, Bool.not_eq_true', beq_iff_eq] at ended
        rcases ended with lasting | spent
        · simp [retriesAfter, lasting]
        · simp [retriesAfter, spent]
      dsimp only
      rw [dif_neg final]

theorem resume_of_isDrawn (fits : Word.fits 32 policy.retries)
    (before : attempt < policy.lastAttempt outcomes) (drawn : policy.isDrawn attempt = true) :
    resume policy draws outcomes attempt = resume policy draws outcomes (attempt + 1) := by
  obtain ⟨failure, failed, again⟩ := retriesAfter_of_lt before
  have counts : Word.fits 32 (attempt + 1) = true :=
    fits_of_le_retries fits (Nat.le_trans before (policy.lastAttempt_le outcomes))
  rw [resume, runFrom, scripted_retried, failed]
  dsimp only
  rw [dif_pos again, if_pos drawn, if_pos counts, resume, retried_succ, List.append_assoc]
  rfl

theorem resume_of_not_isDrawn (before : attempt < policy.lastAttempt outcomes)
    (undrawn : policy.isDrawn attempt = false) :
    resume policy draws outcomes attempt =
      (none, policy.retried draws attempt ++ [.call attempt]) := by
  obtain ⟨failure, failed, again⟩ := retriesAfter_of_lt before
  rw [resume, runFrom, scripted_retried, failed]
  dsimp only
  rw [dif_pos again, if_neg (by simp [undrawn])]

/-! ## Whole runs -/

/-- As long as delays can be drawn, attempts follow each other. -/
theorem runScript_eq_resume (fits : Word.fits 32 policy.retries)
    (within : attempt ≤ policy.lastAttempt outcomes)
    (drawn : ∀ earlier < attempt, policy.isDrawn earlier = true) (draws : Nat → Nat) :
    policy.runScript draws outcomes = resume policy draws outcomes attempt := by
  induction attempt with
  | zero => rfl
  | succ attempt ih =>
      rw [ih (Nat.le_of_succ_le within) fun earlier below =>
        drawn earlier (Nat.lt_succ_of_lt below)]
      exact resume_of_isDrawn fits within (drawn attempt attempt.lt_succ_self)

/-- Nothing is given back where a delay cannot be drawn. -/
theorem runScript_of_not_isDrawn (fits : Word.fits 32 policy.retries)
    (before : attempt < policy.lastAttempt outcomes) (undrawn : policy.isDrawn attempt = false)
    (draws : Nat → Nat) : (policy.runScript draws outcomes).1 = none := by
  have stuck : ∃ attempt, policy.isDrawn attempt = false := ⟨attempt, undrawn⟩
  have early := Nat.lt_of_le_of_lt (Nat.find_min' stuck undrawn) before
  have drawn : ∀ earlier < Nat.find stuck, policy.isDrawn earlier = true := by
    intro earlier below
    simpa using Nat.find_min stuck below
  rw [runScript_eq_resume fits (Nat.le_of_lt early) drawn,
    resume_of_not_isDrawn early (Nat.find_spec stuck)]

/-- What is owed to an operation that is retried: its outcome, and what is done for it. -/
structure Retries (policy : RetryPolicy) (draws : Nat → Nat) (outcomes : Nat → Except Failure α)
    (last : Nat) (ran : Option (Except Failure α) × List Deed) : Prop where
  outcome : ran.1 = some (outcomes last)
  /-- Each call but the last one is followed by its delay. -/
  deeds : ran.2 = policy.retried draws last ++ [.call last]
  attempts : ran.2.filterMap Deed.attempt? = List.range (last + 1)
  waited : (ran.2.filterMap Deed.delay?).sum =
    ((List.range last).map fun attempt => policy.delay attempt (draws attempt)).sum
  counted : ∀ attempt, .call attempt ∈ ran.2 → Word.fits 32 attempt

/-- An operation is retried as it should be just when chance can draw the delay after each attempt
before the last one. -/
theorem retries_runScript_iff (fits : Word.fits 32 policy.retries) (draws : Nat → Nat)
    (outcomes : Nat → Except Failure α) :
    Retries policy draws outcomes (policy.lastAttempt outcomes)
        (policy.runScript draws outcomes) ↔
      ∀ attempt < policy.lastAttempt outcomes, policy.isDrawn attempt = true := by
  constructor
  · intro retries attempt before
    by_contra undrawn
    have nothing := runScript_of_not_isDrawn fits before (by simpa using undrawn) draws
    rw [retries.outcome] at nothing
    cases nothing
  · intro drawn
    have ran := runScript_eq_resume fits (Nat.le_refl _) drawn draws
    rw [resume_lastAttempt] at ran
    have attempts : (policy.runScript draws outcomes).2.filterMap Deed.attempt? =
        List.range (policy.lastAttempt outcomes + 1) := by
      rw [ran, List.filterMap_append, attempts_retried, List.range_succ]
      rfl
    constructor
    · rw [ran]
    · rw [ran]
    · exact attempts
    · rw [ran, List.filterMap_append, delays_retried]
      exact congrArg List.sum (List.append_nil _)
    · intro attempt called
      have among : attempt ∈ List.range (policy.lastAttempt outcomes + 1) := by
        rw [← attempts]
        exact List.mem_filterMap.mpr ⟨_, called, rfl⟩
      have early := Nat.le_of_lt_succ (List.mem_range.mp among)
      exact fits_of_le_retries fits (Nat.le_trans early (policy.lastAttempt_le outcomes))

/-- Two failures in passing and then a success, however many positions there are. -/
def thirdSucceeds (position : Nat) : Except Failure String :=
  if position < 2 then .error (.api 500 "local" "m" "busy" none) else .ok "late"

/-- With as many retries as can be told, the operation is called three times. -/
theorem retries_runScript_iff_greatest :
    let policy := ofRetries 4294967295
    let ran := policy.runScript (fun _ => 0) thirdSucceeds
    Word.fits 32 policy.retries ∧ policy.lastAttempt thirdSucceeds = 2 ∧
      Retries policy (fun _ => 0) thirdSucceeds 2 ran ∧
      (ran.2.filterMap Deed.delay?).sum = 3000 := by
  intro policy ran
  have fits : Word.fits 32 policy.retries := by decide
  have last : policy.lastAttempt thirdSucceeds = 2 :=
    (Nat.find_eq_iff _).mpr ⟨by decide, by decide⟩
  have drawn : ∀ attempt < policy.lastAttempt thirdSucceeds, policy.isDrawn attempt = true :=
    fun attempt _ => isDrawn_of_steady (by decide +kernel) attempt
  have retries := (retries_runScript_iff fits (fun _ => 0) thirdSucceeds).mpr drawn
  rw [last] at retries
  refine ⟨fits, last, retries, ?_⟩
  rw [retries.waited]
  decide +kernel

/-- A negative factor makes the second delay negative, and chance cannot draw from an empty range,
however small the jitter. -/
theorem retries_runScript_breaks_off :
    let policy : RetryPolicy :=
      ⟨2, Binary.ofInt .double (-2), 1, 30000, Binary.round .double false 1 (10 ^ 17)⟩
    policy.lastAttempt thirdSucceeds = 2 ∧ ∀ draws,
      (policy.runScript draws thirdSucceeds).1 = none ∧
        ¬ Retries policy draws thirdSucceeds 2 (policy.runScript draws thirdSucceeds) := by
  intro policy
  have last : policy.lastAttempt thirdSucceeds = 2 :=
    (Nat.find_eq_iff _).mpr ⟨by decide, by decide⟩
  refine ⟨last, fun draws => ?_⟩
  have before : 1 < policy.lastAttempt thirdSucceeds := by
    rw [last]
    decide
  have undrawn : policy.isDrawn 1 = false := by decide +kernel
  have nothing : (policy.runScript draws thirdSucceeds).1 = none :=
    runScript_of_not_isDrawn (by decide) before undrawn draws
  refine ⟨nothing, fun retries => ?_⟩
  rw [retries.outcome] at nothing
  cases nothing

end ChatGateway.RetryPolicy
