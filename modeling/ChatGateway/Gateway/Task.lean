import ChatGateway.Gateway.Setup
import ChatGateway.Transport.Body

/-!
# Serving a request

A request that has found its way is a task.  A task takes turns: it calls the provider and waits
for the answer, or it pauses before the next attempt, until it is answered or has failed.  Each
turn depends on the ledger and the time at which it is taken, so tasks may be interleaved in any
way.
-/

namespace ChatGateway

/-- A request on its way to a provider. -/
structure Task where
  requestId : Uuid
  decision : RouteDecision
  /-- The address of the provider. -/
  baseUrl : String
  chain : Chain
  body : Json
  stream : Bool
  deriving Inhabited

/-- A call that has been sent. -/
structure ProviderCall where
  /-- How many attempts came before. -/
  attempt : Nat
  lease : Lease
  context : Context
  outbound : Outbound
  deriving Inhabited

/-- What a task does next. -/
inductive Turn where
  /-- Waits for an answer. -/
  | calling (call : ProviderCall)
  /-- Waits some milliseconds before an attempt. -/
  | pausing (delay attempt : Nat)
  | answered (body : Body) (context : Context)
  | failed (failure : Failure)
  deriving Inhabited

namespace Task

/-- The context that the stages of one call share. -/
def context (task : Task) : Context :=
  ⟨task.requestId, task.decision.provider, task.decision.model, task.stream, []⟩

/-- The request before the stages, with the provider's key. -/
def outbound (task : Task) (key : Secret) : Outbound :=
  ((Outbound.ofBody task.baseUrl task.body).setHeader "authorization"
    ("Bearer " ++ key.text)).setHeader "content-type" "application/json"

/-- Prepares a call: takes a lease and passes the request through the chain. -/
def prepare (task : Task) (attempt now : Nat) (ledger : Ledger) :
    Except Failure ProviderCall × Ledger :=
  match ledger.acquire now task.decision.provider with
  | (.error refusal, ledger) => (.error refusal.failure, ledger)
  | (.ok lease, ledger) =>
      match task.chain.applyRequest (task.outbound lease.key) task.context with
      | (.error failure, _) => (.error failure, ledger)
      | (.ok outbound, context) => (.ok ⟨attempt, lease, context, outbound⟩, ledger)

/-- What follows a failed attempt. -/
def afterFailure (policy : RetryPolicy) (draw attempt : Nat) (failure : Failure) : Turn :=
  if policy.retriesAfter attempt failure then
    .pausing (policy.delay attempt draw) (attempt + 1)
  else .failed failure

/-- Begins an attempt.  `draw` is what chance says about the delay after it. -/
def begin (task : Task) (draw attempt now : Nat) (ledger : Ledger) : Turn × Ledger :=
  match task.prepare attempt now ledger with
  | (.ok call, ledger) => (.calling call, ledger)
  | (.error failure, ledger) =>
      (afterFailure ledger.settings.retry draw attempt failure, ledger)

/-- Takes in the answer to a call.  A key at its limit gives way to the next one within the same
attempt. -/
def takeAnswer (task : Task) (draw : Nat) (call : ProviderCall) (answer : Except Failure Body)
    (now : Nat) (ledger : Ledger) : Turn × Ledger :=
  match answer with
  | .ok body => (.answered body call.context, ledger.recordSuccess now call.lease)
  | .error failure =>
      match ledger.recordFailure now call.lease failure with
      | (.rotated, ledger) => task.begin draw call.attempt now ledger
      | (_, ledger) => (afterFailure ledger.settings.retry draw call.attempt failure, ledger)

/-- Who is blamed for an answer that is no JSON: the stage that reads it first. -/
def firstReader (task : Task) : String := task.chain.names.getLast?.getD "canonical"

/-- The text for an answer that is no JSON. -/
def notJsonMessage : String := "upstream response is not JSON: not a JSON text"

/-- Reads a complete answer. -/
def complete (task : Task) (bytes : List UInt8) (context : Context) (supply : Supply) :
    Except Failure Response × Supply :=
  match (String.fromUTF8? ⟨bytes.toArray⟩).bind Json.parse? with
  | none => (.error (.transform task.firstReader notJsonMessage), supply)
  | some value => task.chain.applyResponse value context supply

end Task

namespace Turn

/-- How many more pauses may follow without a call. -/
def pauses (policy : RetryPolicy) : Turn → Nat
  | .pausing _ attempt => policy.retries - attempt + 1
  | _ => 0

theorem pauses_afterFailure_le (policy : RetryPolicy) (draw attempt : Nat) (failure : Failure) :
    (Task.afterFailure policy draw attempt failure).pauses policy ≤ policy.retries - attempt := by
  unfold Task.afterFailure
  split
  · rename_i again
    have below := RetryPolicy.lt_retries_of_retriesAfter again
    simp only [pauses]
    omega
  · simp [pauses]

end Turn

namespace Ledger

theorem settings_acquire (ledger : Ledger) (now : Nat) (provider : String) :
    (ledger.acquire now provider).2.settings = ledger.settings := by
  unfold acquire
  split
  · rfl
  · split
    · rfl
    · split
      · rfl
      · split <;> rfl

end Ledger

namespace Task

theorem settings_prepare (task : Task) (attempt now : Nat) (ledger : Ledger) :
    (task.prepare attempt now ledger).2.settings = ledger.settings := by
  have kept := ledger.settings_acquire now task.decision.provider
  unfold prepare
  split
  · rename_i acquired
    rw [acquired] at kept
    exact kept
  · rename_i acquired
    rw [acquired] at kept
    split <;> exact kept

theorem settings_begin (task : Task) (draw attempt now : Nat) (ledger : Ledger) :
    (task.begin draw attempt now ledger).2.settings = ledger.settings := by
  have kept := task.settings_prepare attempt now ledger
  unfold begin
  split <;> (rename_i prepared; rw [prepared] at kept; exact kept)

theorem pauses_begin_le (task : Task) (draw attempt now : Nat) (ledger : Ledger) :
    (task.begin draw attempt now ledger).1.pauses ledger.settings.retry ≤
      ledger.settings.retry.retries - attempt := by
  have kept := task.settings_prepare attempt now ledger
  unfold begin
  split
  · simp [Turn.pauses]
  · rename_i prepared
    rw [prepared] at kept
    simp only at kept
    rw [kept]
    exact Turn.pauses_afterFailure_le _ draw attempt _

end Task

namespace Gateway

/-- The text for a model without a chain. -/
def noChainMessage (decision : RouteDecision) : String :=
  "no transformer chain for " ++ decision.provider ++ "," ++ decision.model

/-- Takes in a request: routes it and makes it a task. -/
def accept (gateway : Gateway) (now : Nat) (request : Request) (state : GatewayState) :
    Except Failure Task × GatewayState :=
  let (requestId, supply) := state.supply.draw
  let (decision, request, cache) :=
    gateway.router.resolve now requestId.text request state.cache
  let state := { state with supply, cache }
  match decision with
  | .error fault => (.error fault.failure, state)
  | .ok decision =>
      match gateway.settings.provider? decision.provider with
      | none => (.error (Refusal.unknownProvider decision.provider).failure, state)
      | some provider =>
          match gateway.chain? decision.provider decision.model with
          | none => (.error (.configuration (noChainMessage decision)), state)
          | some chain =>
              (.ok ⟨requestId, decision, provider.baseUrl, chain, request.encode.normalize,
                request.stream⟩, state)

end Gateway

end ChatGateway
