import ChatGateway.Resilience.Breaker

/-!
# Breakers that move by themselves

A breaker leaves its open phase late: not when its time is over, but when it is next told or asked
something, and then it also begins to count anew.  The automaton of this module is punctual.  It
becomes half open at the very millisecond at which its time is over, and questions do not touch it.
Both give the same answers to every sequence of calls, so a question to a breaker changes none but
its own answer.
-/

namespace ChatGateway.Breaker

/-! ## Calls -/

/-- What a breaker may be asked. -/
inductive Question where
  | state
  | canExecute
  | isOpen
  | remaining
  deriving DecidableEq, Repr, Inhabited

/-- What a breaker may be told or asked. -/
inductive Call where
  | success
  | failure
  | reset
  | ask (question : Question)
  deriving DecidableEq, Repr, Inhabited

/-- What a call gives back. -/
inductive Answer where
  | nothing
  | phase (phase : Phase)
  | flag (flag : Bool)
  | time (remaining : Option Nat)
  deriving DecidableEq, Repr, Inhabited

/-- A call and its time. -/
structure TimedCall where
  time : Nat
  call : Call
  deriving DecidableEq, Repr, Inhabited

/-- Tells or asks a breaker something. -/
def perform (breaker : Breaker) (timed : TimedCall) : Answer × Breaker :=
  match timed.call with
  | .success => (.nothing, breaker.recordSuccess timed.time)
  | .failure => (.nothing, breaker.recordFailure timed.time)
  | .reset => (.nothing, breaker.reset timed.time)
  | .ask .state => (breaker.state timed.time).map .phase id
  | .ask .canExecute => (breaker.canExecute timed.time).map .flag id
  | .ask .isOpen => (breaker.isOpen timed.time).map .flag id
  | .ask .remaining => (breaker.remaining? timed.time).map .time id

/-- The answers to calls, one after the other. -/
def answers (breaker : Breaker) : List TimedCall → List Answer
  | [] => []
  | timed :: rest => (breaker.perform timed).1 :: (breaker.perform timed).2.answers rest

/-! ## The automaton -/

/-- A breaker that is never late.  It remembers the failures in a row while it is closed, when it
was opened, and the successes while it is half open. -/
inductive Automaton where
  | closed (failures : Nat)
  | opened (since : Nat)
  | halfOpen (successes : Nat)
  deriving DecidableEq, Repr, Inhabited

namespace Automaton

/-- The moment at which an open automaton becomes half open. -/
def strike (settings : Settings) (now : Nat) : Automaton → Automaton
  | .opened since => if now = since + settings.openTime then .halfOpen 0 else .opened since
  | automaton => automaton

/-- Lets so many milliseconds pass, one after the other. -/
def pass (settings : Settings) (now : Nat) (automaton : Automaton) : Nat → Automaton
  | 0 => automaton
  | duration + 1 => (automaton.pass settings now duration).strike settings (now + duration + 1)

/-- What a call makes of the automaton.  If it stays open for no time, it does so for none. -/
def react (settings : Settings) (now : Nat) : Automaton → Call → Automaton
  | .closed _, .success => .closed 0
  | .closed failures, .failure =>
      if failures + 1 = settings.failureThreshold then strike settings now (.opened now)
      else .closed (failures + 1)
  | .halfOpen successes, .success =>
      if successes + 1 = settings.successThreshold then .closed 0 else .halfOpen (successes + 1)
  | .halfOpen _, .failure => strike settings now (.opened now)
  | .opened since, .success => .opened since
  | .opened since, .failure => .opened since
  | _, .reset => .closed 0
  | automaton, .ask _ => automaton

/-- The phase of the automaton. -/
def phase : Automaton → Phase
  | .closed _ => .closed
  | .opened _ => .opened
  | .halfOpen _ => .halfOpen

/-- How long the automaton stays open. -/
def remaining? (settings : Settings) (now : Nat) : Automaton → Option Nat
  | .opened since => some (since + settings.openTime - now)
  | _ => none

/-- What the automaton gives back. -/
def answer (settings : Settings) (now : Nat) (automaton : Automaton) : Call → Answer
  | .ask .state => .phase automaton.phase
  | .ask .canExecute => .flag (automaton.phase != .opened)
  | .ask .isOpen => .flag (automaton.phase == .opened)
  | .ask .remaining => .time (automaton.remaining? settings now)
  | _ => .nothing

/-- The answers to calls after a time. -/
def answers (settings : Settings) (now : Nat) (automaton : Automaton) : List TimedCall → List Answer
  | [] => []
  | timed :: rest =>
      let arrived := automaton.pass settings now (timed.time - now)
      arrived.answer settings timed.time timed.call ::
        (arrived.react settings timed.time timed.call).answers settings timed.time rest

theorem pass_add (settings : Settings) (now : Nat) (automaton : Automaton) (first second : Nat) :
    automaton.pass settings now (first + second) =
      (automaton.pass settings now first).pass settings (now + first) second := by
  induction second with
  | zero => rfl
  | succ second ih => rw [← Nat.add_assoc, pass, ih, pass, Nat.add_assoc now first second]

/-- What passes by on the way to a later time. -/
theorem pass_of_le (settings : Settings) (automaton : Automaton) {now middle later : Nat}
    (first : now ≤ middle) (second : middle ≤ later) :
    (automaton.pass settings now (middle - now)).pass settings middle (later - middle) =
      automaton.pass settings now (later - now) := by
  have whole : later - now = (middle - now) + (later - middle) := by omega
  rw [whole, pass_add, Nat.add_sub_cancel' first]

end Automaton

/-! ## Keeping up -/

variable {settings : Settings} {now : Nat}

@[simp] theorem refresh_closed (failures successes since : Nat) :
    refresh ⟨settings, .closed, failures, successes, since⟩ now =
      ⟨settings, .closed, failures, successes, since⟩ := rfl

@[simp] theorem refresh_halfOpen (failures successes since : Nat) :
    refresh ⟨settings, .halfOpen, failures, successes, since⟩ now =
      ⟨settings, .halfOpen, failures, successes, since⟩ := rfl

theorem refresh_opened_of_le {failures successes since : Nat}
    (elapsed : settings.openTime ≤ now - since) :
    refresh ⟨settings, .opened, failures, successes, since⟩ now =
      ⟨settings, .halfOpen, 0, 0, now⟩ := by
  rw [refresh, if_pos ⟨rfl, elapsed⟩]
  rfl

theorem refresh_opened_of_lt {failures successes since : Nat}
    (running : now - since < settings.openTime) :
    refresh ⟨settings, .opened, failures, successes, since⟩ now =
      ⟨settings, .opened, failures, successes, since⟩ := by
  apply if_neg
  rintro ⟨-, elapsed⟩
  exact Nat.not_le_of_lt running elapsed

/-- Whether a breaker that has just been refreshed is where the automaton is. -/
inductive Mirrors (settings : Settings) (now : Nat) : Breaker → Automaton → Prop where
  | closed {failures : Nat} (successes since : Nat) (below : failures < settings.failureThreshold) :
      Mirrors settings now ⟨settings, .closed, failures, successes, since⟩ (.closed failures)
  | opened {since : Nat} (failures successes : Nat) (begun : since ≤ now)
      (running : now < since + settings.openTime) :
      Mirrors settings now ⟨settings, .opened, failures, successes, since⟩ (.opened since)
  | halfOpen {successes : Nat} (failures since : Nat)
      (below : successes < settings.successThreshold) :
      Mirrors settings now ⟨settings, .halfOpen, failures, successes, since⟩ (.halfOpen successes)

/-- Whether a breaker gets where the automaton is as soon as it is refreshed.  Until then it may be
late. -/
def Trails (settings : Settings) (now : Nat) (breaker : Breaker) (automaton : Automaton) : Prop :=
  Mirrors settings now (breaker.refresh now) automaton

variable {breaker : Breaker} {automaton : Automaton}

theorem Mirrors.settings_eq (mirrors : Mirrors settings now breaker automaton) :
    breaker.settings = settings := by
  cases mirrors <;> rfl

theorem settings_refresh (breaker : Breaker) (now : Nat) :
    (breaker.refresh now).settings = breaker.settings := by
  rw [refresh]
  split <;> rfl

theorem Mirrors.trails (mirrors : Mirrors settings now breaker automaton) :
    Trails settings now breaker automaton := by
  rw [Trails]
  cases mirrors with
  | closed successes since below => exact .closed successes since below
  | opened failures successes begun running =>
      rw [refresh_opened_of_lt (by omega)]
      exact .opened failures successes begun running
  | halfOpen failures since below => exact .halfOpen failures since below

/-- A breaker that opens now trails the automaton, also if it stays open for no time. -/
theorem trails_opened (closes : 1 ≤ settings.successThreshold) (failures successes : Nat) :
    Trails settings now ⟨settings, .opened, failures, successes, now⟩
      (Automaton.strike settings now (.opened now)) := by
  rw [Trails, Automaton.strike]
  split
  · rw [refresh_opened_of_le (by omega)]
    exact .halfOpen 0 now closes
  · rw [refresh_opened_of_lt (by omega)]
    exact .opened failures successes (Nat.le_refl now) (by omega)

/-- The breaker stands still while the automaton moves. -/
theorem Trails.strike (closes : 1 ≤ settings.successThreshold)
    (trails : Trails settings now breaker automaton) :
    Trails settings (now + 1) breaker (automaton.strike settings (now + 1)) := by
  obtain ⟨own, phase, failures, successes, since⟩ := breaker
  rw [Trails] at trails ⊢
  cases phase with
  | closed =>
      rw [refresh_closed] at trails ⊢
      cases trails with
      | closed _ _ below => exact .closed successes since below
  | halfOpen =>
      rw [refresh_halfOpen] at trails ⊢
      cases trails with
      | halfOpen _ _ below => exact .halfOpen failures since below
  | opened =>
      rcases Nat.lt_or_ge (now - since) own.openTime with running | elapsed
      · rw [refresh_opened_of_lt running] at trails
        cases trails with
        | opened _ _ begun running =>
            rw [Automaton.strike]
            split
            · rw [refresh_opened_of_le (by omega)]
              exact .halfOpen 0 (now + 1) closes
            · rw [refresh_opened_of_lt (by omega)]
              exact .opened failures successes (by omega) (by omega)
      · rw [refresh_opened_of_le elapsed] at trails
        cases trails with
        | halfOpen _ _ below =>
            rw [refresh_opened_of_le (by omega)]
            exact .halfOpen 0 (now + 1) below

theorem Trails.pass (closes : 1 ≤ settings.successThreshold)
    (trails : Trails settings now breaker automaton) (duration : Nat) :
    Trails settings (now + duration) breaker (automaton.pass settings now duration) := by
  induction duration with
  | zero => exact trails
  | succ duration ih => exact ih.strike closes

/-! ## Calls and runs -/

theorem Trails.recordSuccess (opens : 1 ≤ settings.failureThreshold)
    (trails : Trails settings now breaker automaton) :
    Trails settings now (breaker.recordSuccess now) (automaton.react settings now .success) := by
  rw [Trails] at trails
  rw [Breaker.recordSuccess]
  generalize breaker.refresh now = fresh at trails
  cases trails with
  | closed successes since below => exact (Mirrors.closed successes since opens).trails
  | opened failures successes begun running =>
      exact (Mirrors.opened failures successes begun running).trails
  | @halfOpen successes failures since below =>
      by_cases last : successes + 1 = settings.successThreshold
      · simp only [Automaton.react, last, Nat.le_refl, if_true]
        exact (Mirrors.closed 0 now opens).trails
      · have few : ¬settings.successThreshold ≤ successes + 1 := by omega
        simp only [Automaton.react, last, few, if_false]
        exact (Mirrors.halfOpen failures since (by omega)).trails

theorem Trails.recordFailure (closes : 1 ≤ settings.successThreshold)
    (trails : Trails settings now breaker automaton) :
    Trails settings now (breaker.recordFailure now) (automaton.react settings now .failure) := by
  rw [Trails] at trails
  rw [Breaker.recordFailure]
  generalize breaker.refresh now = fresh at trails
  cases trails with
  | @closed failures successes since below =>
      by_cases last : failures + 1 = settings.failureThreshold
      · simp only [Automaton.react, last, Nat.le_refl, if_true]
        exact trails_opened closes 0 0
      · have few : ¬settings.failureThreshold ≤ failures + 1 := by omega
        simp only [Automaton.react, last, few, if_false]
        exact (Mirrors.closed successes since (by omega)).trails
  | opened failures successes begun running =>
      exact (Mirrors.opened failures successes begun running).trails
  | halfOpen failures since below => exact trails_opened closes 0 0

theorem Trails.reset (opens : 1 ≤ settings.failureThreshold)
    (trails : Trails settings now breaker automaton) :
    Trails settings now (breaker.reset now) (automaton.react settings now .reset) := by
  have own : breaker.settings = settings := by
    have mirrored := Mirrors.settings_eq trails
    rwa [settings_refresh] at mirrored
  subst own
  have fresh : automaton.react breaker.settings now .reset = .closed 0 := by cases automaton <;> rfl
  rw [fresh]
  exact (Mirrors.closed 0 now opens).trails

/-- What a breaker that has just been refreshed says. -/
def told (breaker : Breaker) (now : Nat) : Question → Answer
  | .state => .phase breaker.phase
  | .canExecute => .flag (breaker.phase != .opened)
  | .isOpen => .flag (!(breaker.phase != .opened))
  | .remaining =>
      .time (if breaker.phase = .opened then
        some (breaker.settings.openTime - (now - breaker.since)) else none)

/-- A question refreshes the breaker and does nothing else. -/
theorem perform_ask (breaker : Breaker) (now : Nat) (question : Question) :
    breaker.perform ⟨now, .ask question⟩ =
      ((breaker.refresh now).told now question, breaker.refresh now) := by
  cases question with
  | state | canExecute | isOpen => rfl
  | remaining =>
      simp only [Breaker.perform, remaining?, told]
      split <;> rfl

theorem Mirrors.told_eq (mirrors : Mirrors settings now breaker automaton) (question : Question) :
    breaker.told now question = automaton.answer settings now (.ask question) := by
  cases mirrors with
  | closed | halfOpen => cases question <;> rfl
  | @opened since failures successes begun running =>
      cases question with
      | state | canExecute | isOpen => rfl
      | remaining =>
          have left : settings.openTime - (now - since) = since + settings.openTime - now := by
            omega
          simp only [told, if_true, left]
          rfl

/-- One call is answered alike, and the breaker still trails the automaton. -/
theorem Trails.perform (opens : 1 ≤ settings.failureThreshold)
    (closes : 1 ≤ settings.successThreshold) (trails : Trails settings now breaker automaton)
    (call : Call) :
    (breaker.perform ⟨now, call⟩).1 = automaton.answer settings now call ∧
      Trails settings now (breaker.perform ⟨now, call⟩).2 (automaton.react settings now call) := by
  cases call with
  | success => exact ⟨rfl, trails.recordSuccess opens⟩
  | failure => exact ⟨rfl, trails.recordFailure closes⟩
  | reset => exact ⟨rfl, trails.reset opens⟩
  | ask question =>
      have untouched : automaton.react settings now (.ask question) = automaton := by
        cases automaton <;> rfl
      rw [perform_ask, untouched]
      exact ⟨Mirrors.told_eq trails question, Mirrors.trails trails⟩

/-- Whether calls come one after the other from a time on. -/
def InOrder (start : Nat) (calls : List TimedCall) : Prop :=
  (start :: calls.map TimedCall.time).Pairwise (· ≤ ·)

theorem Trails.answers (opens : 1 ≤ settings.failureThreshold)
    (closes : 1 ≤ settings.successThreshold) (trails : Trails settings now breaker automaton)
    {calls : List TimedCall} (ordered : InOrder now calls) :
    breaker.answers calls = automaton.answers settings now calls := by
  induction calls generalizing now breaker automaton with
  | nil => rfl
  | cons timed rest ih =>
      obtain ⟨first, later⟩ := List.pairwise_cons.mp ordered
      have below : now ≤ timed.time := first timed.time List.mem_cons_self
      have arrived := trails.pass closes (timed.time - now)
      rw [Nat.add_sub_cancel' below] at arrived
      obtain ⟨same, still⟩ := arrived.perform opens closes timed.call
      rw [Breaker.answers, Automaton.answers, same, ih still later]

/-- The automaton's answers do not depend on questions. -/
theorem Automaton.answers_insert {question : Question} {time : Nat}
    {earlier later : List TimedCall}
    (ordered : InOrder now (earlier ++ ⟨time, .ask question⟩ :: later)) :
    (automaton.answers settings now (earlier ++ ⟨time, .ask question⟩ :: later)).eraseIdx
        earlier.length =
      automaton.answers settings now (earlier ++ later) := by
  induction earlier generalizing now automaton with
  | nil =>
      obtain ⟨first, others⟩ := List.pairwise_cons.mp ordered
      have untouched (automaton : Automaton) :
          automaton.react settings time (.ask question) = automaton := by cases automaton <;> rfl
      cases later with
      | nil => rfl
      | cons timed rest =>
          have next : time ≤ timed.time :=
            (List.pairwise_cons.mp others).1 timed.time List.mem_cons_self
          simp only [List.nil_append, List.length_nil, Automaton.answers, List.eraseIdx_cons_zero,
            untouched, pass_of_le settings automaton (first time List.mem_cons_self) next]
  | cons timed rest ih =>
      have later := (List.pairwise_cons.mp ordered).2
      simp only [List.cons_append, List.length_cons, Automaton.answers, List.eraseIdx_cons_succ,
        ih later]

/-- A breaker answers calls in their order as the automaton does, and so a question that is left out
or added changes no other answer. -/
theorem answers_eq_automaton {settings : Settings} (opens : 1 ≤ settings.failureThreshold)
    (closes : 1 ≤ settings.successThreshold) (start : Nat) :
    (∀ calls, InOrder start calls →
      (new settings start).answers calls =
        (Automaton.closed 0).answers settings start calls) ∧
    ∀ earlier question time later, InOrder start (earlier ++ ⟨time, .ask question⟩ :: later) →
      ((new settings start).answers (earlier ++ ⟨time, .ask question⟩ :: later)).eraseIdx
          earlier.length =
        (new settings start).answers (earlier ++ later) := by
  have begun : Trails settings start (new settings start) (.closed 0) :=
    (Mirrors.closed 0 start opens).trails
  refine ⟨fun calls ordered => begun.answers opens closes ordered, ?_⟩
  intro earlier question time later ordered
  have fewer : InOrder start (earlier ++ later) := by
    refine ordered.sublist (.cons_cons start ?_)
    rw [List.map_append, List.map_append]
    exact (List.Sublist.refl _).append (List.sublist_cons_self _ _)
  rw [begun.answers opens closes ordered, begun.answers opens closes fewer]
  exact Automaton.answers_insert ordered

/-- Opened at 10, half open at 60 and opened again at once, a breaker is closed by its first success
after 110; being asked at 60 does not matter. -/
theorem answers_eq_automaton_twice_opened :
    let settings : Settings := ⟨2, 1, 50⟩
    let earlier : List TimedCall :=
      [⟨0, .failure⟩, ⟨10, .failure⟩, ⟨20, .ask .remaining⟩, ⟨30, .failure⟩]
    let later : List TimedCall :=
      [⟨60, .failure⟩, ⟨60, .ask .isOpen⟩, ⟨109, .success⟩, ⟨111, .success⟩, ⟨111, .ask .state⟩]
    let calls := earlier ++ ⟨60, .ask .state⟩ :: later
    InOrder 0 calls ∧
      (new settings 0).answers calls =
        [.nothing, .nothing, .time (some 40), .nothing, .phase .halfOpen, .nothing, .flag true,
          .nothing, .nothing, .phase .closed] ∧
      ((new settings 0).answers calls).eraseIdx 4 =
        (new settings 0).answers (earlier ++ later) := by
  intro settings earlier later calls
  have ordered : InOrder 0 calls := by simp [InOrder, calls, earlier, later]
  have opens : 1 ≤ settings.failureThreshold := by decide
  have closes : 1 ≤ settings.successThreshold := by decide
  obtain ⟨same, insert⟩ := answers_eq_automaton opens closes 0
  refine ⟨ordered, ?_, insert earlier .state 60 later ordered⟩
  rw [same calls ordered]
  decide

end ChatGateway.Breaker
