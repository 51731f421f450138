import ChatGateway.Proofs.Gateway.Rotation
import ChatGateway.Proofs.Resilience.Refusing

/-!
# Many requests at once

Requests are served side by side and share the ledger.  Between two moments at which one of them
waits, it runs alone; in which order they run is left open, and so is what providers answer and how
long anything takes.  When the breaker of a provider opens, no request calls that provider before
the time of the breaker is over, and whoever asks for a lease fails at once.
-/

namespace ChatGateway

/-! ## Turns and leases -/

/-- Whether the answer to a call makes its request ask for another lease. -/
def ProviderCall.rotates (call : ProviderCall) (now : Nat) (ledger : Ledger) :
    Except Failure Body → Bool
  | .ok _ => false
  | .error failure => (ledger.recordFailure now call.lease failure).1 = .rotated

namespace Task

/-- What holds of a turn that a task takes, whether or not it asked for a lease. -/
structure Takes (task : Task) (now : Nat) (before : Ledger) (asked : Bool) (turn : Turn)
    (after : Ledger) : Prop where
  guards : before.Guards now after
  refreshes : asked = true → before.Refreshes now after
  called : ∀ call, turn = .calling call → asked = true
  refused : asked = true → ∀ breaker, before.breaker? task.decision.provider = some breaker →
    breaker.Refuses now →
    turn = .failed (Refusal.circuitOpen task.decision.provider
      (breaker.settings.openTime - (now - breaker.since))).failure

theorem prepare_snd (task : Task) (attempt now : Nat) (ledger : Ledger) :
    (task.prepare attempt now ledger).2 = (ledger.acquire now task.decision.provider).2 := by
  rw [prepare]
  split
  · rename_i acquired
    rw [acquired]
  · rename_i acquired
    rw [acquired]
    split <;> rfl

theorem begin_snd (task : Task) (draw attempt now : Nat) (ledger : Ledger) :
    (task.begin draw attempt now ledger).2 = (ledger.acquire now task.decision.provider).2 := by
  rw [← task.prepare_snd attempt, begin]
  split <;> (rename_i prepared; rw [prepared])

/-- Without a lease, an attempt fails, and a provider that refuses calls is not tried again. -/
theorem begin_of_refused {task : Task} {now : Nat} {ledger : Ledger} {remaining : Nat}
    (refused : (ledger.acquire now task.decision.provider).1 =
      .error (.circuitOpen task.decision.provider remaining)) (draw attempt : Nat) :
    (task.begin draw attempt now ledger).1 =
      .failed (Refusal.circuitOpen task.decision.provider remaining).failure := by
  rcases acquired : ledger.acquire now task.decision.provider with ⟨outcome, after⟩
  rw [acquired] at refused
  cases refused
  have final (policy : RetryPolicy) : policy.retriesAfter attempt
      (Refusal.circuitOpen task.decision.provider remaining).failure = false := by
    simp [RetryPolicy.retriesAfter, Refusal.failure, Failure.isPassing]
  simp [begin, prepare, acquired, afterFailure, final]

theorem takes_begin (task : Task) (draw attempt now : Nat) (ledger : Ledger) :
    task.Takes now ledger true (task.begin draw attempt now ledger).1
      (task.begin draw attempt now ledger).2 := by
  have refreshes := ledger.refreshes_acquire now task.decision.provider
  rw [← task.begin_snd draw attempt] at refreshes
  refine ⟨refreshes.guards, fun _ => refreshes, fun _ _ => rfl, ?_⟩
  intro _ breaker found refuses
  exact begin_of_refused (Ledger.acquire_of_refuses found refuses) draw attempt

/-- Whatever the answer to a call, another lease is asked for only after a rate limit, and then the
breaker is as before. -/
theorem takes_takeAnswer (task : Task) (draw : Nat) (call : ProviderCall)
    (answer : Except Failure Body) (now : Nat) (ledger : Ledger) :
    task.Takes now ledger (call.rotates now ledger answer)
      (task.takeAnswer draw call answer now ledger).1
      (task.takeAnswer draw call answer now ledger).2 := by
  cases answer with
  | ok body => exact ⟨ledger.guards_recordSuccess now call.lease, nofun, nofun, nofun⟩
  | error failure =>
      have guards := ledger.guards_recordFailure now call.lease failure
      rcases recorded : ledger.recordFailure now call.lease failure with ⟨disposition, after⟩
      rw [recorded] at guards
      by_cases rotated : disposition = .rotated
      · subst rotated
        have asked : call.rotates now ledger (.error failure) = true := by
          simp [ProviderCall.rotates, recorded]
        have first := Ledger.refreshes_of_rotated recorded
        have begun := task.takes_begin draw call.attempt now after
        rw [takeAnswer_rotated recorded, asked]
        refine ⟨guards.trans Breaker.Guards.trans begun.guards,
          fun _ => first.trans Breaker.Refreshes.trans (begun.refreshes rfl), fun _ _ => rfl, ?_⟩
        intro _ breaker found refuses
        exact begun.refused rfl breaker (guards.breaker?_eq found refuses) refuses
      · have unasked : call.rotates now ledger (.error failure) = false := by
          simp [ProviderCall.rotates, recorded, rotated]
        rw [takeAnswer_over rotated recorded, unasked]
        refine ⟨guards, nofun, ?_, nofun⟩
        intro other calling
        exact (not_calling_afterFailure _ _ _ _ other calling).elim

theorem takes_leave (task : Task) (now : Nat) (ledger : Ledger) :
    task.Takes now ledger false (.failed .cancelled) ledger :=
  ⟨.refl now ledger, nofun, nofun, nofun⟩

end Task

/-! ## Traffic -/

/-- A request that is being served. -/
structure Service where
  task : Task
  turn : Turn
  /-- When its pause is over. -/
  due : Nat
  deriving Inhabited

/-- A request that asks for a lease, and its turn then. -/
structure Visit where
  index : Nat
  time : Nat
  provider : String
  turn : Turn
  deriving Inhabited

/-- What may happen next.  A draw is what chance says about the delay after a failed attempt. -/
inductive Move where
  | arrive (request : Request) (draw : Nat)
  | answer (index : Nat) (outcome : Except Failure Body) (draw : Nat)
  /-- A request goes on after a pause. -/
  | resume (index draw : Nat)
  /-- The caller of a request goes away. -/
  | leave (index : Nat)
  /-- Someone asks whether a provider is open. -/
  | look (provider : String)
  | reset (provider : String)
  | pass (duration : Nat)

/-- A gateway with the requests that it has taken in, in their order.  Reading an answer is left
out: it asks nothing of the ledger. -/
structure Traffic where
  gateway : Gateway
  state : GatewayState
  now : Nat
  services : List Service
  deriving Inhabited

/-- Whether a request waits for nothing any more. -/
def Turn.isOver : Turn → Bool
  | .calling _ => false
  | .pausing _ _ => false
  | _ => true

/-- When the pause of a turn is over. -/
def Turn.due (now : Nat) : Turn → Nat
  | .pausing delay _ => now + delay
  | _ => now

namespace Traffic

/-- A gateway before its first request. -/
def start (gateway : Gateway) (now : Nat) (cache : AttachmentCache) (supply : Supply) : Traffic :=
  ⟨gateway, gateway.start now cache supply, now, []⟩

/-- Replaces the ledger. -/
def setLedger (traffic : Traffic) (ledger : Ledger) : Traffic :=
  { traffic with state := { traffic.state with ledger } }

/-- Puts a request in its place, which may be the next free one. -/
def put (services : List Service) (index : Nat) (service : Service) : List Service :=
  services.take index ++ service :: services.drop (index + 1)

/-- A request has taken a turn. -/
def settle (traffic : Traffic) (index : Nat) (task : Task) (asked : Bool) (turn : Turn)
    (ledger : Ledger) : Option Visit × Traffic :=
  (if asked then some ⟨index, traffic.now, task.decision.provider, turn⟩ else none,
    { traffic.setLedger ledger with
      services := put traffic.services index ⟨task, turn, turn.due traffic.now⟩ })

/-- Makes a move, if it is possible now. -/
def step (traffic : Traffic) : Move → Option Visit × Traffic
  | .arrive request draw =>
      match traffic.gateway.accept traffic.now request traffic.state with
      | (.error _, state) => (none, { traffic with state })
      | (.ok task, state) =>
          let (turn, ledger) := task.begin draw 0 traffic.now state.ledger
          { traffic with state }.settle traffic.services.length task true turn ledger
  | .answer index outcome draw =>
      match traffic.services[index]? with
      | some ⟨task, .calling call, _⟩ =>
          let (turn, ledger) := task.takeAnswer draw call outcome traffic.now traffic.state.ledger
          traffic.settle index task (call.rotates traffic.now traffic.state.ledger outcome) turn
            ledger
      | _ => (none, traffic)
  | .resume index draw =>
      match traffic.services[index]? with
      | some ⟨task, .pausing _ attempt, due⟩ =>
          if due ≤ traffic.now then
            let (turn, ledger) := task.begin draw attempt traffic.now traffic.state.ledger
            traffic.settle index task true turn ledger
          else (none, traffic)
      | _ => (none, traffic)
  | .leave index =>
      match traffic.services[index]? with
      | some ⟨task, turn, _⟩ =>
          if turn.isOver then (none, traffic)
          else traffic.settle index task false (.failed .cancelled) traffic.state.ledger
      | none => (none, traffic)
  | .look provider =>
      (none, traffic.setLedger (traffic.state.ledger.isOpen traffic.now provider).2)
  | .reset provider =>
      (none, traffic.setLedger (traffic.state.ledger.reset traffic.now provider))
  | .pass duration => (none, { traffic with now := traffic.now + duration })

/-- Makes moves, one after the other, and tells who asks for a lease meanwhile. -/
def run (traffic : Traffic) : List Move → List Visit × Traffic
  | [] => ([], traffic)
  | move :: rest =>
      let (visit, traffic) := traffic.step move
      let (visits, traffic) := traffic.run rest
      (visit.toList ++ visits, traffic)

/-- Whether the gateway says that a provider's breaker is open. -/
def isOpen (traffic : Traffic) (provider : String) : Bool :=
  (traffic.state.ledger.isOpen traffic.now provider).1

variable {traffic : Traffic}

/-! ## Steps -/

theorem getElem?_put {services : List Service} {index : Nat} (room : index ≤ services.length)
    (service : Service) (other : Nat) :
    (put services index service)[other]? =
      if other = index then some service else services[other]? := by
  have length : (services.take index).length = index := List.length_take_of_le room
  rcases Nat.lt_trichotomy other index with below | rfl | above
  · rw [put, List.getElem?_append_left (by omega), List.getElem?_take_of_lt below,
      if_neg (by omega)]
  · rw [put, List.getElem?_append_right (by omega), length, Nat.sub_self, if_pos rfl]
    rfl
  · obtain ⟨offset, rfl⟩ := Nat.exists_eq_add_of_lt above
    rw [put, List.getElem?_append_right (by omega), length, if_neg (by omega)]
    have past : index + offset + 1 - index = offset + 1 := by omega
    rw [past, List.getElem?_cons_succ, List.getElem?_drop]
    congr 1
    omega

/-- What a move can come to. -/
inductive StepCase (traffic : Traffic) (move : Move) : Prop where
  | turn {state : GatewayState} {index : Nat} {task : Task} {asked : Bool} {next : Turn}
      {ledger : Ledger} (same : state.ledger = traffic.state.ledger)
      (takes : task.Takes traffic.now state.ledger asked next ledger)
      (room : index ≤ traffic.services.length)
      (unended : ∀ service, traffic.services[index]? = some service →
        service.turn.isOver = false)
      (result : traffic.step move =
        { traffic with state }.settle index task asked next ledger)
  | quiet {state : GatewayState}
      (refreshes : traffic.state.ledger.Refreshes traffic.now state.ledger)
      (result : traffic.step move = (none, { traffic with state }))
  | reset {provider : String} (own : move = .reset provider)
      (result : traffic.step move =
        (none, traffic.setLedger (traffic.state.ledger.reset traffic.now provider)))
  | time {duration : Nat}
      (result : traffic.step move = (none, { traffic with now := traffic.now + duration }))

theorem stepCase (traffic : Traffic) (move : Move) : StepCase traffic move := by
  have nothing (idle : traffic.step move = (none, traffic)) : StepCase traffic move :=
    .quiet (.refl traffic.now _) idle
  have unended {index : Nat} {task : Task} {turn : Turn} {due : Nat}
      (found : traffic.services[index]? = some ⟨task, turn, due⟩) (waits : turn.isOver = false) :
      ∀ service, traffic.services[index]? = some service → service.turn.isOver = false := by
    intro service same
    rw [found] at same
    cases same
    exact waits
  cases move with
  | arrive request draw =>
      have same := traffic.gateway.ledger_accept traffic.now request traffic.state
      rcases accepted : traffic.gateway.accept traffic.now request traffic.state with
        ⟨outcome, state⟩
      rw [accepted] at same
      cases outcome with
      | error failure =>
          refine .quiet ?_ (by simp only [step, accepted]; rfl)
          rw [same]
          exact .refl traffic.now _
      | ok task =>
          exact .turn same (task.takes_begin draw 0 traffic.now state.ledger) (Nat.le_refl _)
            (by simp) (by simp only [step, accepted])
  | answer index outcome draw =>
      rcases found : traffic.services[index]? with _ | ⟨task, turn, due⟩
      · exact nothing (by simp only [step, found])
      · cases turn with
        | calling call =>
            exact .turn rfl (task.takes_takeAnswer draw call outcome traffic.now _)
              (List.getElem?_eq_some_iff.mp found).1.le (unended found rfl)
              (by simp only [step, found])
        | pausing | answered | failed => exact nothing (by simp only [step, found])
  | resume index draw =>
      rcases found : traffic.services[index]? with _ | ⟨task, turn, due⟩
      · exact nothing (by simp only [step, found])
      · cases turn with
        | pausing delay attempt =>
            by_cases elapsed : due ≤ traffic.now
            · exact .turn rfl (task.takes_begin draw attempt traffic.now _)
                (List.getElem?_eq_some_iff.mp found).1.le (unended found rfl)
                (by simp only [step, found, if_pos elapsed])
            · exact nothing (by simp only [step, found, if_neg elapsed])
        | calling | answered | failed => exact nothing (by simp only [step, found])
  | leave index =>
      rcases found : traffic.services[index]? with _ | ⟨task, turn, due⟩
      · exact nothing (by simp only [step, found])
      · cases ended : turn.isOver with
        | true => exact nothing (by simp only [step, found, ended, if_true])
        | false =>
            exact .turn rfl (task.takes_leave traffic.now _)
              (List.getElem?_eq_some_iff.mp found).1.le (unended found ended)
              (by simp only [step, found, ended, Bool.false_eq_true, if_false])
  | look provider => exact .quiet (Ledger.refreshes_isOpen _ traffic.now provider) rfl
  | reset provider => exact .reset rfl rfl
  | pass duration => exact .time rfl

theorem now_le_step (traffic : Traffic) (move : Move) :
    traffic.now ≤ (traffic.step move).2.now := by
  cases traffic.stepCase move with
  | turn _ _ _ _ result =>
      rw [result]
      exact Nat.le_refl _
  | quiet _ result =>
      rw [result]
  | reset _ result =>
      rw [result]
      exact Nat.le_refl _
  | time result =>
      rw [result]
      exact Nat.le_add_right _ _

/-- Nothing happens any more to a request that is over. -/
theorem over_step {index : Nat} {service : Service}
    (found : traffic.services[index]? = some service) (ended : service.turn.isOver = true)
    (move : Move) : (traffic.step move).2.services[index]? = some service := by
  cases traffic.stepCase move with
  | quiet _ result | reset _ result | time result =>
      rw [result]
      exact found
  | turn _ _ room unended result =>
      rw [result, settle, getElem?_put room]
      split
      · rename_i same
        subst same
        rw [unended service found] at ended
        cases ended
      · exact found

/-- A request that asks for a lease takes its turn at once, and fails if the provider refuses
calls. -/
theorem visit_step {move : Move} {visit : Visit} (asks : (traffic.step move).1 = some visit) :
    visit.time = traffic.now ∧
      (traffic.step move).2.services[visit.index]?.map Service.turn = some visit.turn ∧
      ∀ breaker, traffic.state.ledger.breaker? visit.provider = some breaker →
        breaker.Refuses traffic.now →
        visit.turn = .failed (Refusal.circuitOpen visit.provider
          (breaker.settings.openTime - (traffic.now - breaker.since))).failure := by
  cases traffic.stepCase move with
  | quiet _ result | reset _ result | time result =>
      rw [result] at asks
      cases asks
  | @turn state index task asked next ledger same takes room _ result =>
      cases asked with
      | false =>
          rw [result] at asks
          cases asks
      | true =>
          rw [result] at asks ⊢
          cases asks
          refine ⟨rfl, ?_, ?_⟩
          · rw [settle, getElem?_put room, if_pos rfl]
            rfl
          · intro breaker found refuses
            rw [← same] at found
            exact takes.refused rfl breaker found refuses

/-- Calls are only sent by requests that have asked for a lease. -/
theorem calling_step {move : Move} {index : Nat} {service : Service} {call : ProviderCall}
    (found : (traffic.step move).2.services[index]? = some service)
    (calling : service.turn = .calling call) :
    traffic.services[index]? = some service ∨
      ∃ visit, (traffic.step move).1 = some visit ∧
        visit.provider = service.task.decision.provider ∧ visit.turn = .calling call := by
  cases traffic.stepCase move with
  | quiet _ result | reset _ result | time result =>
      rw [result] at found
      exact .inl found
  | @turn state other task asked next ledger _ takes room _ result =>
      rw [result] at found ⊢
      rw [settle, getElem?_put room] at found
      split at found
      · cases found
        have asks : asked = true := takes.called call calling
        subst asks
        exact .inr ⟨⟨other, traffic.now, task.decision.provider, next⟩, rfl, rfl, calling⟩
      · exact .inl found

/-! ## A provider that refuses calls -/

/-- Whether the breaker of a provider has been opened and is as it was then, at least until its time
is over. -/
structure Refuses (traffic : Traffic) (provider : String) (breaker : Breaker) : Prop where
  opened : breaker.phase = .opened
  begun : breaker.since ≤ traffic.now
  kept : traffic.now < breaker.since + breaker.settings.openTime →
    traffic.state.ledger.breaker? provider = some breaker

variable {provider : String} {breaker : Breaker}

theorem Refuses.refuses (refuses : traffic.Refuses provider breaker)
    (running : traffic.now < breaker.since + breaker.settings.openTime) :
    breaker.Refuses traffic.now := by
  have begun := refuses.begun
  exact ⟨refuses.opened, by omega⟩

theorem Refuses.step (refuses : traffic.Refuses provider breaker) {move : Move}
    (unreset : move ≠ .reset provider) : (traffic.step move).2.Refuses provider breaker := by
  cases traffic.stepCase move with
  | turn same takes _ _ result =>
      rw [result]
      refine ⟨refuses.opened, refuses.begun, fun running => ?_⟩
      exact takes.guards.breaker?_eq (same ▸ refuses.kept running) (refuses.refuses running)
  | quiet refreshes result =>
      rw [result]
      refine ⟨refuses.opened, refuses.begun, fun running => ?_⟩
      exact refreshes.guards.breaker?_eq (refuses.kept running) (refuses.refuses running)
  | @reset other own result =>
      rw [result]
      refine ⟨refuses.opened, refuses.begun, fun running => ?_⟩
      have different : other ≠ provider := by
        rintro rfl
        exact unreset own
      exact (Ledger.breaker?_reset_of_ne different _ _).trans (refuses.kept running)
  | time result =>
      rw [result]
      refine ⟨refuses.opened, Nat.le_add_right_of_le refuses.begun, fun running => ?_⟩
      exact refuses.kept (Nat.lt_of_le_of_lt (Nat.le_add_right _ _) running)

/-- Who asks for a lease meanwhile fails at once. -/
theorem Refuses.visit (refuses : traffic.Refuses provider breaker) {move : Move} {visit : Visit}
    (asks : (traffic.step move).1 = some visit) (own : visit.provider = provider)
    (running : visit.time < breaker.since + breaker.settings.openTime) :
    visit.turn = .failed (Refusal.circuitOpen provider
      (breaker.since + breaker.settings.openTime - visit.time)).failure := by
  obtain ⟨now, -, fails⟩ := visit_step asks
  rw [now] at running ⊢
  have begun := refuses.begun
  have left : breaker.since + breaker.settings.openTime - traffic.now =
      breaker.settings.openTime - (traffic.now - breaker.since) := by omega
  rw [left, ← own]
  exact fails breaker (own ▸ refuses.kept running) (refuses.refuses running)

/-! ## Runs -/

theorem now_le_run (traffic : Traffic) (moves : List Move) :
    traffic.now ≤ (traffic.run moves).2.now := by
  induction moves generalizing traffic with
  | nil => exact Nat.le_refl _
  | cons move rest ih => exact (traffic.now_le_step move).trans (ih _)

theorem over_run {index : Nat} {service : Service}
    (found : traffic.services[index]? = some service) (ended : service.turn.isOver = true)
    (moves : List Move) : (traffic.run moves).2.services[index]? = some service := by
  induction moves generalizing traffic with
  | nil => exact found
  | cons move rest ih => exact ih (over_step found ended move)

/-- Whether no provider is called before a deadline: who asks for a lease has failed for good, and
who waits for an answer has done so from the beginning. -/
structure Shuns (traffic : Traffic) (provider : String) (deadline : Nat) (moves : List Move) :
    Prop where
  refused : ∀ visit ∈ (traffic.run moves).1, visit.provider = provider → visit.time < deadline →
    visit.turn = .failed (Refusal.circuitOpen provider (deadline - visit.time)).failure ∧
      (traffic.run moves).2.services[visit.index]?.map Service.turn = some visit.turn
  uncalled : (traffic.run moves).2.now < deadline → ∀ (index : Nat) (service : Service),
    (traffic.run moves).2.services[index]? = some service →
    service.task.decision.provider = provider → ∀ call, service.turn = .calling call →
    traffic.services[index]? = some service

theorem Refuses.shuns (refuses : traffic.Refuses provider breaker) {moves : List Move}
    (unreset : Move.reset provider ∉ moves) :
    traffic.Shuns provider (breaker.since + breaker.settings.openTime) moves := by
  induction moves generalizing traffic with
  | nil => exact ⟨nofun, fun _ _ _ found _ _ _ => found⟩
  | cons move rest ih =>
      rw [List.mem_cons, not_or] at unreset
      have first : move ≠ .reset provider := Ne.symm unreset.1
      have later := ih (refuses.step first) unreset.2
      constructor
      · intro visit member own running
        rcases List.mem_append.mp member with now | after
        · have asks := Option.mem_toList.mp now
          have failed := refuses.visit asks own running
          refine ⟨failed, ?_⟩
          obtain ⟨-, placed, -⟩ := visit_step asks
          obtain ⟨service, found, turn⟩ := Option.map_eq_some_iff.mp placed
          have ended : service.turn.isOver = true := by rw [turn, failed]; rfl
          rw [run, over_run found ended, Option.map_some, turn]
        · exact later.refused visit after own running
      · intro running index service found own call calling
        have between := later.uncalled running index service found own call calling
        rcases calling_step between calling with before | ⟨visit, asks, same, calls⟩
        · exact before
        · obtain ⟨time, -, -⟩ := visit_step asks
          have early : visit.time < breaker.since + breaker.settings.openTime := by
            rw [time]
            exact ((traffic.now_le_step move).trans (now_le_run _ rest)).trans_lt running
          rw [refuses.visit asks (same.trans own) early] at calls
          cases calls

/-! ## Opening -/

theorem isOpen_eq_true :
    traffic.isOpen provider = true ↔
      ∃ breaker, traffic.state.ledger.breaker? provider = some breaker ∧
        breaker.Refuses traffic.now := Ledger.isOpen_eq_true

theorem uniform_step {settings : Breaker.Settings} (uniform : traffic.state.ledger.Uniform settings)
    (move : Move) : (traffic.step move).2.state.ledger.Uniform settings := by
  cases traffic.stepCase move with
  | turn same takes _ _ result =>
      rw [result]
      exact Ledger.Uniform.of_guards (same ▸ uniform) takes.guards
  | quiet refreshes result =>
      rw [result]
      exact uniform.of_guards refreshes.guards
  | reset _ result =>
      rw [result]
      exact uniform.reset traffic.now _
  | time result =>
      rw [result]
      exact uniform

theorem uniform_run {settings : Breaker.Settings} (uniform : traffic.state.ledger.Uniform settings)
    (moves : List Move) : (traffic.run moves).2.state.ledger.Uniform settings := by
  induction moves generalizing traffic with
  | nil => exact uniform
  | cons move rest ih => exact ih (uniform_step uniform move)

/-- A move that opens a breaker does so at its own time, and no request asks for a lease in it. -/
theorem refuses_of_opens {move : Move} (admits : traffic.isOpen provider = false)
    (opens : (traffic.step move).2.isOpen provider = true) :
    (traffic.step move).1 = none ∧
      ∃ breaker, (traffic.step move).2.state.ledger.breaker? provider = some breaker ∧
        breaker.since = (traffic.step move).2.now ∧
        (traffic.step move).2.Refuses provider breaker := by
  obtain ⟨breaker, found, refuses⟩ := isOpen_eq_true.mp opens
  have unopened {earlier : Breaker}
      (known : traffic.state.ledger.breaker? provider = some earlier) :
      ¬earlier.Refuses traffic.now := by
    intro refusing
    rw [isOpen_eq_true.mpr ⟨earlier, known, refusing⟩] at admits
    cases admits
  have unrefreshed {after : Ledger} (refreshes : traffic.state.ledger.Refreshes traffic.now after)
      (later : after.breaker? provider = some breaker) : ¬breaker.Refuses traffic.now := by
    intro refusing
    obtain ⟨earlier, known, refreshed⟩ := refreshes.exists_before later
    exact unopened known (refreshed.eq_of_refuses refusing ▸ refusing)
  cases traffic.stepCase move with
  | @turn state index task asked next ledger same takes _ _ result =>
      rw [result] at found refuses ⊢
      rw [same] at takes
      cases asked with
      | true => exact (unrefreshed (takes.refreshes rfl) found refuses).elim
      | false =>
          obtain ⟨earlier, known, guards⟩ := takes.guards.exists_before found
          have since : breaker.since = traffic.now := guards.opened (unopened known) refuses
          exact ⟨rfl, breaker, found, since, refuses.1, since.le, fun _ => found⟩
  | quiet refreshes result =>
      rw [result] at found refuses
      exact (unrefreshed refreshes found refuses).elim
  | @reset other _ result =>
      rw [result] at found refuses
      by_cases own : other = provider
      · subst own
        have closed := Ledger.breaker?_reset_self traffic.state.ledger traffic.now other
        obtain ⟨earlier, -, rfl⟩ := Option.map_eq_some_iff.mp (closed.symm.trans found)
        cases refuses.1
      · have same := Ledger.breaker?_reset_of_ne own traffic.state.ledger traffic.now
        exact (unopened (same.symm.trans found) refuses).elim
  | @time duration result =>
      rw [result] at found refuses
      obtain ⟨opened, running⟩ := refuses
      refine (unopened found ⟨opened, ?_⟩).elim
      dsimp only at running
      omega

/-- When a provider's breaker opens, no request calls that provider before the time of the breaker
is over, unless the breaker is reset: whatever happens meanwhile, who asks for a lease fails at
once. -/
theorem shuns_of_opens (gateway : Gateway) (now : Nat) (cache : AttachmentCache) (supply : Supply)
    (before : List Move) {move : Move} {provider : String} {after : List Move} :
    let traffic := ((start gateway now cache supply).run before).2
    let opened := (traffic.step move).2
    traffic.isOpen provider = false → opened.isOpen provider = true →
      Move.reset provider ∉ after →
      (traffic.step move).1 = none ∧
        opened.Shuns provider (opened.now + gateway.settings.resilience.breaker.openTime)
          after := by
  intro traffic opened admits opens unreset
  obtain ⟨unasked, breaker, found, since, refuses⟩ := refuses_of_opens admits opens
  have uniform : opened.state.ledger.Uniform gateway.settings.resilience.breaker :=
    uniform_step (uniform_run (Ledger.uniform_new _ now _) before) move
  have settings := uniform provider breaker found
  refine ⟨unasked, ?_⟩
  rw [← since, ← settings]
  exact refuses.shuns unreset

/-- Of three requests two fail, which opens the breaker for 50 milliseconds; the third one meets a
rate limit then, and a fourth one arrives. -/
theorem shuns_of_opens_twice_failed :
    let settings : Config.GatewaySettings :=
      { Config.GatewaySettings.ofTwoKeys 300000 with
        resilience := { ResilienceSettings.standard with breaker := ⟨2, 1, 50⟩ } }
    let gateway : Gateway :=
      ⟨settings, ⟨settings, fun _ => false, none, fun _ => some "local,m"⟩,
        [(("local", "m"), ⟨[]⟩)]⟩
    let timeout : Except Failure Body := .error (.network .timeout "no answer")
    let limit : Except Failure Body := .error (.api 429 "local" "m" "" none)
    let before : List Move :=
      [.arrive default 0, .arrive default 0, .arrive default 0, .answer 0 timeout 0, .pass 10]
    let traffic := ((start gateway 0 default ⟨0⟩).run before).2
    let opened := (traffic.step (.answer 1 timeout 0)).2
    let after : List Move := [.answer 2 limit 0, .pass 20, .arrive default 0]
    opened.now = 10 ∧ opened.Shuns "local" 60 after ∧
      (opened.run after).1.map (fun visit => (visit.index, visit.time)) = [(2, 10), (3, 30)] := by
  intro settings gateway timeout limit before traffic opened after
  have admits : traffic.isOpen "local" = false := by decide +kernel
  have opens : opened.isOpen "local" = true := by decide +kernel
  have now : opened.now = 10 := by decide +kernel
  have unreset : Move.reset "local" ∉ after := by simp [after]
  have deadline : opened.now + gateway.settings.resilience.breaker.openTime = 60 := by
    rw [now]
    rfl
  have shuns := (shuns_of_opens gateway 0 default ⟨0⟩ before admits opens unreset).2
  refine ⟨now, deadline ▸ shuns, ?_⟩
  decide +kernel

end Traffic

end ChatGateway
