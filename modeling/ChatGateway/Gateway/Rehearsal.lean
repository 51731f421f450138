import ChatGateway.Gateway.Task
import ChatGateway.Stream.Pump
import ChatGateway.Transport.Answer

/-!
# Rehearsing

A gateway is run against a script of replies.  Time is counted in milliseconds and moves only
while something waits: for a reply, for a part of a body, or before a retry.  A caller may go
away at a set time, which ends whatever waits then.
-/

namespace ChatGateway

/-- What a provider says. -/
inductive ScriptedAnswer where
  | failure (failure : Failure)
  | status (status : Nat) (body : Option String)
  | body (body : Body)
  deriving Inhabited

/-- What a provider says, and how long it takes. -/
structure Reply where
  delay : Nat
  answer : ScriptedAnswer
  deriving Inhabited

/-- A request that has been sent. -/
structure Sent where
  call : ProviderCall
  /-- In milliseconds since the beginning. -/
  time : Nat
  deriving Inhabited

/-- A gateway with the rest of its script. -/
structure Rehearsal where
  gateway : Gateway
  state : GatewayState
  now : Nat
  replies : List Reply
  /-- The requests sent, the latest first. -/
  sent : List Sent
  deriving Inhabited

/-- How serving a request ended. -/
inductive Ending where
  | complete (response : Response)
  | stream (events : List Event)
  | failed (failure : Failure)
  deriving Inhabited

namespace ScriptedAnswer

/-- The outcome of a call that is answered so. -/
def outcome (task : Task) : ScriptedAnswer → Except Failure Body
  | .failure cause => .error cause
  | .status code text =>
      .error (Transport.failureOfAnswer code text task.decision.provider task.decision.model)
  | .body content => .ok content

end ScriptedAnswer

namespace Rehearsal

/-- The failure of a call for which the script has no reply. -/
def exhausted : Failure := .configuration "script exhausted"

/-- Chance moves no delay. -/
def evenDraw : Nat := RetryPolicy.greatestDraw / 2

/-- Lets time pass, unless the caller goes away meanwhile; that is so at the very end, too. -/
def wait (rehearsal : Rehearsal) (deadline : Option Nat) (duration : Nat) : Bool × Rehearsal :=
  match deadline with
  | none => (true, { rehearsal with now := rehearsal.now + duration })
  | some deadline =>
      if duration = 0 ∨ rehearsal.now + duration < deadline then
        (true, { rehearsal with now := rehearsal.now + duration })
      else (false, { rehearsal with now := deadline })

/-- Replaces the ledger. -/
def setLedger (rehearsal : Rehearsal) (ledger : Ledger) : Rehearsal :=
  { rehearsal with state := { rehearsal.state with ledger } }

/-- The policy for retries. -/
def policy (rehearsal : Rehearsal) : RetryPolicy := rehearsal.state.ledger.settings.retry

theorem replies_wait (rehearsal : Rehearsal) (deadline : Option Nat) (duration : Nat) :
    (rehearsal.wait deadline duration).2.replies = rehearsal.replies := by
  unfold wait
  split
  · rfl
  · split <;> rfl

theorem state_wait (rehearsal : Rehearsal) (deadline : Option Nat) (duration : Nat) :
    (rehearsal.wait deadline duration).2.state = rehearsal.state := by
  unfold wait
  split
  · rfl
  · split <;> rfl

/-- Notes that a call has been sent, which uses up a reply. -/
def noteCall (rehearsal : Rehearsal) (call : ProviderCall) (rest : List Reply) : Rehearsal :=
  { rehearsal with replies := rest, sent := ⟨call, rehearsal.now⟩ :: rehearsal.sent }

/-- Collects a body that arrives in parts, after the portions that have arrived, the latest
first. -/
def collect (rehearsal : Rehearsal) (deadline : Option Nat) (portions : List (List UInt8)) :
    List BodyPart → Except Failure (List UInt8) × Rehearsal
  | [] => (.ok portions.reverse.flatten, rehearsal)
  | .bytes bytes :: rest => rehearsal.collect deadline (bytes :: portions) rest
  | .failure failure :: _ => (.error failure, rehearsal)
  | .delay duration :: rest =>
      match rehearsal.wait deadline duration with
      | (true, rehearsal) => rehearsal.collect deadline portions rest
      | (false, rehearsal) => (.error .cancelled, rehearsal)

/-- Reads the answer to a task.  `wanted` is how many events of a stream the caller reads. -/
def readAnswer (rehearsal : Rehearsal) (task : Task) (deadline wanted : Option Nat) (body : Body)
    (context : Context) : Ending × Rehearsal :=
  if task.stream then
    let pump := Pump.new task.chain context rehearsal.state.supply
    let run := StreamRun.readAll ⟨pump, [], wanted, rehearsal.now⟩ body.parts
    (.stream run.events,
      { rehearsal with
        now := run.now
        state := { rehearsal.state with supply := run.pump.supply } })
  else
    match rehearsal.collect deadline [] body.parts with
    | (.error failure, rehearsal) => (.failed failure, rehearsal)
    | (.ok bytes, rehearsal) =>
        let (response, supply) := task.complete bytes context rehearsal.state.supply
        let rehearsal := { rehearsal with state := { rehearsal.state with supply } }
        match response with
        | .ok response => (.complete response, rehearsal)
        | .error failure => (.failed failure, rehearsal)

/-- Plays a task to its end. -/
def play (rehearsal : Rehearsal) (task : Task) (deadline wanted : Option Nat) (turn : Turn) :
    Ending × Rehearsal :=
  match turn with
  | .failed failure => (.failed failure, rehearsal)
  | .answered body context => rehearsal.readAnswer task deadline wanted body context
  | .pausing delay attempt =>
      match _waited : rehearsal.wait deadline delay with
      | (false, later) => (.failed .cancelled, later)
      | (true, later) =>
          let begun := task.begin evenDraw attempt later.now later.state.ledger
          (later.setLedger begun.2).play task deadline wanted begun.1
  | .calling call =>
      match _script : rehearsal.replies with
      | [] => (.failed exhausted, rehearsal.noteCall call [])
      | reply :: rest =>
          match _waited : (rehearsal.noteCall call rest).wait deadline reply.delay with
          | (false, later) => (.failed .cancelled, later)
          | (true, later) =>
              let taken := task.takeAnswer evenDraw call (reply.answer.outcome task) later.now
                later.state.ledger
              (later.setLedger taken.2).play task deadline wanted taken.1
termination_by (rehearsal.replies.length, turn.pauses rehearsal.policy)
decreasing_by
  · have kept := congrArg Rehearsal.replies (congrArg Prod.snd _waited)
    have state := congrArg Rehearsal.state (congrArg Prod.snd _waited)
    rw [replies_wait] at kept
    rw [state_wait] at state
    simp only at kept state
    have settings := task.settings_begin evenDraw attempt later.now later.state.ledger
    have fewer := task.pauses_begin_le evenDraw attempt later.now later.state.ledger
    simp only [setLedger, policy, ← kept, settings, state]
    exact Prod.Lex.right _ (Nat.lt_succ_of_le fewer)
  · have kept := congrArg Rehearsal.replies (congrArg Prod.snd _waited)
    rw [replies_wait] at kept
    simp only [noteCall] at kept
    apply Prod.Lex.left
    simp only [setLedger, ← kept, _script, List.length_cons]
    omega

/-- Serves a request.  The caller goes away at `deadline` while the gateway has not answered, and
after reading `wanted` events. -/
def handle (rehearsal : Rehearsal) (request : Request) (deadline wanted : Option Nat) :
    Ending × Rehearsal :=
  if deadline = some rehearsal.now then (.failed .cancelled, rehearsal)
  else
    let (task, state) := rehearsal.gateway.accept rehearsal.now request rehearsal.state
    let rehearsal := { rehearsal with state }
    match task with
    | .error failure => (.failed failure, rehearsal)
    | .ok task =>
        let (turn, ledger) := task.begin evenDraw 0 rehearsal.now rehearsal.state.ledger
        (rehearsal.setLedger ledger).play task deadline wanted turn

/-- Lets time pass between requests. -/
def advance (rehearsal : Rehearsal) (duration : Nat) : Rehearsal :=
  { rehearsal with now := rehearsal.now + duration }

end Rehearsal

end ChatGateway
