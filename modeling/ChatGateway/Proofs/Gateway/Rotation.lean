import ChatGateway.Gateway.Rehearsal
import ChatGateway.Proofs.Config.Accepted
import ChatGateway.Proofs.Gateway.Attempt
import ChatGateway.Sample.Toolkit

/-!
# How often a request is sent

Each attempt at a request sends it at most once with each key, and so all attempts together send it
at most so often for each retry.  That holds of every accepted configuration but those which let keys
be parked for no time at all.
-/

namespace ChatGateway

namespace Rehearsal

variable (rehearsal : Rehearsal)

theorem sent_wait (deadline : Option Nat) (duration : Nat) :
    (rehearsal.wait deadline duration).2.sent = rehearsal.sent := by
  simp only [wait]
  split
  · rfl
  · split <;> rfl

/-- Whoever waits for no time is not interrupted. -/
theorem wait_zero (deadline : Option Nat) : rehearsal.wait deadline 0 = (true, rehearsal) := by
  unfold wait
  split
  · rfl
  · rw [if_pos (.inl rfl)]
    rfl

theorem sent_collect (deadline : Option Nat) (portions : List (List UInt8))
    (parts : List BodyPart) :
    (rehearsal.collect deadline portions parts).2.sent = rehearsal.sent := by
  induction parts generalizing rehearsal portions with
  | nil => rfl
  | cons part rest ih =>
      cases part with
      | bytes bytes => exact ih rehearsal _
      | failure cause => rfl
      | delay duration =>
          have kept := rehearsal.sent_wait deadline duration
          rw [collect]
          rcases waited : rehearsal.wait deadline duration with ⟨patient, later⟩
          rw [waited] at kept
          cases patient with
          | true => exact (ih later portions).trans kept
          | false => exact kept

/-- Reading an answer sends nothing. -/
theorem sent_readAnswer (task : Task) (deadline wanted : Option Nat) (body : Body)
    (context : Context) :
    (rehearsal.readAnswer task deadline wanted body context).2.sent = rehearsal.sent := by
  rw [readAnswer]
  split
  · rfl
  · have kept := rehearsal.sent_collect deadline [] body.parts
    split <;> (rename_i collected; rw [collected] at kept)
    · exact kept
    · dsimp only
      split <;> exact kept

variable {rehearsal} {settings : ResilienceSettings} {keys : List Secret}

/-- A task on its turn, against a script of replies that take no time. -/
structure Plays (rehearsal : Rehearsal) (task : Task) (settings : ResilienceSettings)
    (keys : List Secret) (turn : Turn) : Prop where
  serves : rehearsal.state.ledger.Serves settings task.decision.provider keys
  instant : ∀ reply ∈ rehearsal.replies, reply.delay = 0
  leased : turn.Leased task.decision.provider
    (rehearsal.state.ledger.free rehearsal.now task.decision.provider) settings.retry.retries

/-- From any turn on, no more calls are sent than are left. -/
theorem sent_play_le (task : Task) (nonempty : keys ≠ [])
    (ordered : settings.keys.base ≤ settings.keys.limit)
    (lasting : keys.length < 2 ∨ 0 < settings.keys.base) (deadline wanted : Option Nat)
    (turn : Turn) (plays : rehearsal.Plays task settings keys turn) :
    (rehearsal.play task deadline wanted turn).2.sent.length ≤
      rehearsal.sent.length + turn.callsLeft settings.retry.retries keys.length
        (rehearsal.state.ledger.free rehearsal.now task.decision.provider).card := by
  fun_induction rehearsal.play task deadline wanted turn with
  | case1 rehearsal failure => exact Nat.le_add_right _ _
  | case2 rehearsal body context =>
      rw [sent_readAnswer]
      exact Nat.le_add_right _ _
  | case3 rehearsal delay attempt later waited =>
      have kept := rehearsal.sent_wait deadline delay
      rw [waited] at kept
      dsimp only at kept ⊢
      rw [kept]
      exact Nat.le_add_right _ _
  | case4 rehearsal delay attempt later waited begun ih =>
      have sent := rehearsal.sent_wait deadline delay
      have replies := rehearsal.replies_wait deadline delay
      have state := rehearsal.state_wait deadline delay
      rw [waited] at sent replies state
      dsimp only at sent replies state
      have serves := plays.serves
      rw [← state] at serves
      obtain ⟨kept, same, paused, fewer⟩ :=
        task.begin_spec evenDraw attempt later.now keys.length later.state.ledger
      rw [serves.same] at paused fewer
      have played := ih ⟨serves.of_keeps kept, replies ▸ plays.instant, same ▸ paused⟩
      have few := serves.card_free_le nonempty later.now
      have within : attempt ≤ settings.retry.retries := plays.leased
      have room : keys.length * (settings.retry.retries + 1 - attempt) =
          keys.length * (settings.retry.retries - attempt) + keys.length := by
        rw [Nat.succ_sub within, Nat.mul_succ]
      rw [← same] at fewer
      calc _ ≤ later.sent.length + begun.1.callsLeft settings.retry.retries keys.length
              (begun.2.free later.now task.decision.provider).card := played
        _ ≤ later.sent.length + ((begun.2.free later.now task.decision.provider).card +
              keys.length * (settings.retry.retries - attempt)) := Nat.add_le_add_left fewer _
        _ ≤ later.sent.length + keys.length * (settings.retry.retries + 1 - attempt) := by
              rw [room, same]
              omega
        _ = _ := by
              rw [sent]
              rfl
  | case5 rehearsal call script =>
      have one := Finset.card_pos.mpr ⟨_, plays.leased.2⟩
      simp only [noteCall, List.length_cons, Turn.callsLeft]
      omega
  | case6 rehearsal call reply rest script later waited =>
      have instant := plays.instant reply (by simp [script])
      rw [instant, wait_zero] at waited
      cases waited
  | case7 rehearsal call reply rest script later waited taken ih =>
      have instant := plays.instant reply (by simp [script])
      rw [instant, wait_zero] at waited
      cases waited
      obtain ⟨kept, next, -, fewer⟩ := task.takeAnswer_spec evenDraw rehearsal.now plays.serves
        ordered lasting plays.leased (reply.answer.outcome task)
      have others : ∀ other ∈ rest, other.delay = 0 := by
        intro other member
        exact plays.instant other (by simp [script, member])
      have played := ih ⟨plays.serves.of_keeps kept, others, next⟩
      calc _ ≤ (rehearsal.sent.length + 1) + taken.1.callsLeft settings.retry.retries keys.length
              (taken.2.free rehearsal.now task.decision.provider).card := played
        _ = rehearsal.sent.length + (1 + taken.1.callsLeft settings.retry.retries keys.length
              (taken.2.free rehearsal.now task.decision.provider).card) := by omega
        _ ≤ _ := Nat.add_le_add_left fewer _

end Rehearsal

/-- Finding the way of a request reports nothing to the ledger. -/
theorem Gateway.ledger_accept (gateway : Gateway) (now : Nat) (request : Request)
    (state : GatewayState) : (gateway.accept now request state).2.ledger = state.ledger := by
  rw [accept]
  dsimp only
  split
  · rfl
  · split
    · rfl
    · split <;> rfl

namespace Rehearsal

variable {rehearsal : Rehearsal} {settings : ResilienceSettings} {keys : List Secret}

/-- Serving a request sends it once with each key and for each attempt at most. -/
theorem sent_handle_le {request : Request} {task : Task} {state : GatewayState}
    (accepted : rehearsal.gateway.accept rehearsal.now request rehearsal.state = (.ok task, state))
    (serves : rehearsal.state.ledger.Serves settings task.decision.provider keys)
    (instant : ∀ reply ∈ rehearsal.replies, reply.delay = 0) (nonempty : keys ≠ [])
    (ordered : settings.keys.base ≤ settings.keys.limit)
    (lasting : keys.length < 2 ∨ 0 < settings.keys.base) (deadline wanted : Option Nat) :
    (rehearsal.handle request deadline wanted).2.sent.length ≤
      rehearsal.sent.length + keys.length * (settings.retry.retries + 1) := by
  rw [handle]
  split
  · exact Nat.le_add_right _ _
  · have ledger := rehearsal.gateway.ledger_accept rehearsal.now request rehearsal.state
    rw [accepted] at ledger
    dsimp only at ledger
    rw [← ledger] at serves
    obtain ⟨kept, same, leased, calls⟩ :=
      task.begin_spec evenDraw 0 rehearsal.now keys.length state.ledger
    rw [serves.same] at leased calls
    have few := serves.card_free_le nonempty rehearsal.now
    rw [← same] at leased calls few
    let begun := task.begin evenDraw 0 rehearsal.now state.ledger
    have plays : ({ rehearsal with state }.setLedger begun.2).Plays task settings keys begun.1 :=
      ⟨serves.of_keeps kept, instant, leased⟩
    have played := sent_play_le task nonempty ordered lasting deadline wanted begun.1 plays
    have room : keys.length * (settings.retry.retries + 1) =
        keys.length + keys.length * settings.retry.retries := by rw [Nat.mul_succ, Nat.add_comm]
    simp only [accepted]
    rw [room]
    exact played.trans (Nat.add_le_add_left (calls.trans (Nat.add_le_add_right few _)) _)

end Rehearsal

/-- Whether requests to a provider are sent within bounds, whatever is answered at once: an attempt
calls with each key once at most and ends, and serving a request makes so many attempts at most. -/
structure SendsWithin (settings : Config.GatewaySettings) (provider : Config.Provider) : Prop where
  attempt : ∀ (task : Task) (ledger : Ledger) (draw number now : Nat)
    (answers : List (Except Failure Body)), task.decision.provider = provider.name →
    ledger.Serves settings.resilience provider.name provider.keys →
    Task.Settles provider.keys.length answers.length
      (task.attempt draw number now ledger answers)
  handle : ∀ (rehearsal : Rehearsal) (request : Request) (deadline wanted : Option Nat)
    (task : Task) (state : GatewayState),
    rehearsal.state.ledger.Serves settings.resilience provider.name provider.keys →
    (∀ reply ∈ rehearsal.replies, reply.delay = 0) →
    rehearsal.gateway.accept rehearsal.now request rehearsal.state = (.ok task, state) →
    task.decision.provider = provider.name →
    (rehearsal.handle request deadline wanted).2.sent.length ≤
      rehearsal.sent.length + provider.keys.length * (settings.resilience.retry.retries + 1)

/-- An accepted configuration keeps a provider with several keys within bounds just if keys are parked
for some time. -/
theorem sendsWithin_iff {toolkit : Toolkit} {settings : Config.GatewaySettings}
    {provider : Config.Provider} (accepted : settings.checkStructure toolkit = .ok ())
    (declared : provider ∈ settings.providers) :
    SendsWithin settings provider ↔
      provider.keys.length < 2 ∨ 0 < settings.resilience.keys.base := by
  have known := Config.GatewaySettings.accepted_of_checkStructure accepted
  have nonempty := known.keys provider declared
  constructor
  · intro within
    by_contra unlasting
    rw [not_or, Nat.not_lt, Nat.not_lt, Nat.le_zero] at unlasting
    obtain ⟨several, zero⟩ := unlasting
    let providers := settings.providers.map fun provider => (provider.name, provider.keys)
    have names : (providers.map Prod.fst).Nodup := by
      simpa [providers, Function.comp_def] using known.names
    have member : (provider.name, provider.keys) ∈ providers :=
      List.mem_map.mpr ⟨provider, declared, rfl⟩
    let decision : RouteDecision := { (default : RouteDecision) with provider := provider.name }
    let task : Task := { (default : Task) with decision, chain := ⟨[]⟩ }
    have passes : task.Passes := by
      intro key
      exact ⟨_, _, rfl⟩
    let limit : Failure := .api 429 "" "" "" none
    have limited : limit.isRateLimit = true := rfl
    have settles := within.attempt task (Ledger.new settings.resilience 0 providers) 0 0 0
      (.replicate provider.keys.length (.error limit)) rfl (Ledger.serves_new names member 0)
    have calls := Task.attempt_of_insists passes 0 0 limited provider.keys.length
      (Ledger.insists_new names member several zero 0)
    exact Nat.not_succ_le_self _ (calls.1 ▸ settles.length_le)
  · intro lasting
    constructor
    · intro task ledger draw number now answers own serves
      rw [← own] at serves
      exact task.settles_attempt serves nonempty known.ordered lasting draw number now answers
    · intro rehearsal request deadline wanted task state serves instant found own
      rw [← own] at serves
      exact Rehearsal.sent_handle_le found serves instant nonempty known.ordered lasting deadline
        wanted

/-- A gateway for one provider with two keys that are parked for this time first. -/
def Config.GatewaySettings.ofTwoKeys (base : Nat) : Config.GatewaySettings where
  providers := [⟨"local", "http://localhost/v1", [⟨"k0"⟩, ⟨"k1"⟩], ["m"], .standard⟩]
  router := .standard
  resilience := { ResilienceSettings.standard with keys := ⟨base, 3600000⟩ }
  attachments := .standard
  connection := .standard

theorem Config.GatewaySettings.checkStructure_ofTwoKeys {toolkit : Toolkit} {base : Nat}
    (reads : toolkit.scheme "http://localhost/v1" = .ok "http") (ordered : base ≤ 3600000) :
    (ofTwoKeys base).checkStructure toolkit = .ok () := by
  have comma : "local".contains ',' = false := by simp
  have url : Provider.checkUrl toolkit (itemPath "providers" 0 ++ ".base_url")
      "http://localhost/v1" = .ok () := by
    rw [Provider.checkUrl, reads]
    decide +kernel
  have named : reject ("local".contains ',') (itemPath "providers" 0 ++ ".name")
      (.malformed "Provider names cannot contain ','") = .ok () := by rw [comma]; rfl
  have limits : reject (decide (3600000 < base)) "resilience.key_rotation.max_delay_ms"
      (.outOfRange "Must be >= base_delay_ms") = .ok () := by
    rw [decide_eq_false (Nat.not_lt.mpr ordered)]
    rfl
  have jitter : reject (RetryPolicy.standard.jitter == .undefined ||
      RetryPolicy.standard.jitter.less (Binary.ofInt .double 0) ||
      (Binary.ofInt .double 1).less RetryPolicy.standard.jitter) "resilience.retry.jitter_factor"
      (.outOfRange "Must be between 0.0 and 1.0") = .ok () := by decide +kernel
  refine bind_of_ok rfl (bind_of_ok (bind_of_ok rfl (bind_of_ok ?_ rfl)) (bind_of_ok rfl
    (bind_of_ok ?_ rfl)))
  · exact bind_of_ok rfl (bind_of_ok named (bind_of_ok rfl (bind_of_ok rfl (bind_of_ok url
      (bind_of_ok rfl (bind_of_ok rfl rfl))))))
  · exact bind_of_ok rfl (bind_of_ok rfl (bind_of_ok limits (bind_of_ok rfl jitter)))

/-- Five minutes keep two keys within bounds. -/
theorem sendsWithin_of_five_minutes :
    let settings := Config.GatewaySettings.ofTwoKeys 300000
    settings.checkStructure (.sample fun _ => 1) = .ok () ∧ ∀ provider ∈ settings.providers,
      SendsWithin settings provider := by
  intro settings
  have accepted : settings.checkStructure (.sample fun _ => 1) = .ok () :=
    Config.GatewaySettings.checkStructure_ofTwoKeys (by decide +kernel) (by decide)
  have lasting : 0 < settings.resilience.keys.base := by decide
  exact ⟨accepted, fun provider declared => (sendsWithin_iff accepted declared).mpr (.inr lasting)⟩

/-- Without a base, three rate limits at once make an attempt call four times with the first of two
keys, and wait for more. -/
theorem attempt_with_first_key_only :
    let settings := Config.GatewaySettings.ofTwoKeys 0
    let providers := settings.providers.map fun provider => (provider.name, provider.keys)
    let task : Task := ⟨⟨1⟩, ⟨"local", "m", default⟩, "http://localhost/v1", ⟨[]⟩, .null, false⟩
    let limit := Transport.failureOfAnswer 429 none "local" "m"
    let run := task.attempt 0 0 0 (Ledger.new settings.resilience 0 providers)
      (.replicate 3 (.error limit))
    settings.checkStructure (.sample fun _ => 1) = .ok () ∧
      (run.1.map fun call => call.lease.index) = [0, 0, 0, 0] := by
  intro settings providers task limit run
  have accepted : settings.checkStructure (.sample fun _ => 1) = .ok () :=
    Config.GatewaySettings.checkStructure_ofTwoKeys (by decide +kernel) (by decide)
  have calls : (run.1.map fun call => call.lease.index) = [0, 0, 0, 0] := by decide +kernel
  exact ⟨accepted, calls⟩

end ChatGateway
