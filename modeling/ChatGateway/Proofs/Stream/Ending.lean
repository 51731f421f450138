import ChatGateway.Proofs.Stream.History
import Mathlib.Data.List.Basic
import Mathlib.Data.List.TakeWhile

/-!
# How a stream ends

However a provider's stream goes on and breaks off, its signals hold one that ends the message, and
the first of these decides the last events: the end itself if it came out of the chain, and
otherwise a failure, if there was one, followed by what the caller is still owed.
-/

namespace ChatGateway

namespace Event

/-- Events that close what `sent` left open: the open blocks are stopped once each, in increasing
order, final fields are given unless they have been, and the message ends. -/
def ClosesAfter (sent events : List Event) : Prop :=
  ∃ blocks closing, events = sent ++ closing ∧ IsClosing blocks closing ∧
    blocks.Pairwise (· < ·) ∧ (∀ index, index ∈ blocks ↔ OpenAfter index sent) ∧
    ∃ final usage, .messageDelta final usage ∈ events

theorem IsClosing.endsOnce {blocks : List Nat} {closing : List Event}
    (closes : IsClosing blocks closing) {sent : List Event} (unended : .messageStop ∉ sent) :
    EndsOnce (sent ++ closing) := by
  obtain ⟨fields, -, rfl⟩ := closes
  exact ⟨sent ++ (blocks.map .blockStop ++ fields.map fun field => .messageDelta field.1 field.2),
    by simp, by simp [unended]⟩

theorem IsClosing.not_mem_error {blocks : List Nat} {closing : List Event}
    (closes : IsClosing blocks closing) (body : ErrorBody) : .error body ∉ closing := by
  obtain ⟨fields, -, rfl⟩ := closes
  simp

/-- Events without a failure tell of none. -/
theorem failsOnce_of_not_mem {events : List Event} (sound : ∀ body, .error body ∉ events) :
    FailsOnce events := by
  rintro earlier body later rfl
  exact (sound body (by simp)).elim

/-- One failure that is followed by a closing is the only one. -/
theorem IsClosing.failsOnce {blocks : List Nat} {closing : List Event}
    (closes : IsClosing blocks closing) {sent : List Event} (sound : ∀ body, .error body ∉ sent)
    (body : ErrorBody) : FailsOnce (sent ++ .error body :: closing) := by
  intro earlier other later equal
  obtain ⟨rfl, -, rfl⟩ :=
    (List.append_cons_inj_of_notMem (sound other) (closes.not_mem_error other)).mp equal
  constructor
  · intro another member
    rcases List.mem_append.mp member with member | member
    · exact sound another member
    · exact closes.not_mem_error another member
  · exact ⟨blocks, closes⟩

end Event

/-- Every body has a signal that ends the message. -/
theorem Upstream.exists_isEnd (upstream : Upstream) (parts : List BodyPart) :
    ∃ signal ∈ upstream.signals parts, signal.isEnd = true := by
  induction parts generalizing upstream with
  | nil => exact ⟨.closure, by simp [signals], rfl⟩
  | cons part rest ih =>
      cases part with
      | bytes bytes =>
          obtain ⟨signal, member, ends⟩ := ih (upstream.emitBytes bytes).2
          exact ⟨signal, by simp [signals, member], ends⟩
      | failure cause => exact ⟨.failure cause, by simp [signals], rfl⟩
      | delay duration => simpa [signals] using ih upstream

/-- The signals before the one that ends a stream decide what is sent before it; nothing after it
matters. -/
theorem Delivery.run_of_find? {signals : List Signal} {last : Signal}
    (found : signals.find? Signal.isEnd = some last) {delivery : Delivery}
    (running : delivery.stopped = false) :
    let before := delivery.run (signals.takeWhile fun signal => !signal.isEnd)
    (delivery.run signals).1 = before.1 ++ (before.2.take last).1 := by
  obtain ⟨ends, earlier, later, rfl, goOn⟩ := List.find?_eq_some_iff_append.mp found
  have cut : (earlier ++ last :: later).takeWhile (fun signal => !signal.isEnd) = earlier := by
    rw [List.takeWhile_append_of_pos goOn]
    simp [ends]
  have quiet : ∀ signal ∈ earlier, signal.isEnd = false := by
    intro signal member
    simpa using goOn signal member
  have open_before := (run_of_not_isEnd quiet running).1
  intro before
  simp only [before, cut, run_append, run_cons open_before]
  have ended : ((delivery.run earlier).2.take last).2.stopped = true := by
    cases stop : last.isStop with
    | true => simp [take_of_isStop stop]
    | false =>
        rw [Signal.isEnd, stop, Bool.or_false, Option.isSome_iff_exists] at ends
        obtain ⟨reason, closes⟩ := ends
        exact stopped_take _ _ closes
  simp [run_of_stopped ended]

namespace Pump

/-- The signal that ends the stream of a body. -/
def lastSignal? (pump : Pump) (parts : List BodyPart) : Option Signal :=
  (pump.upstream.signals parts).find? Signal.isEnd

/-- Whether the stream of a body is ended by an end that came out of the chain. -/
def stoppedByChain (pump : Pump) (parts : List BodyPart) : Bool :=
  (pump.lastSignal? parts).any Signal.isStop

/-- The delivery and its events before the signal that ends the stream. -/
def beforeEnd (pump : Pump) (parts : List BodyPart) : List Event × Delivery :=
  pump.delivery.run ((pump.upstream.signals parts).takeWhile fun signal => !signal.isEnd)

/-- The events before a stream is closed: all that came before the last signal, and the failure that
this signal tells of. -/
def sentBeforeClosing (pump : Pump) (parts : List BodyPart) : List Event :=
  (pump.beforeEnd parts).1 ++ ((pump.lastSignal? parts).bind Signal.event?).toList

theorem exists_lastSignal (pump : Pump) (parts : List BodyPart) :
    ∃ last, pump.lastSignal? parts = some last ∧ last.isEnd = true := by
  obtain ⟨signal, member, ends⟩ := pump.upstream.exists_isEnd parts
  cases found : (pump.upstream.signals parts).find? Signal.isEnd with
  | none => exact (List.find?_eq_none.mp found signal member ends).elim
  | some last => exact ⟨last, found, List.find?_some found⟩

variable (pump : Pump)

/-- Before the end the message is open, and neither a failure nor an end has been sent. -/
theorem beforeEnd_open (running : pump.isDone = false) (parts : List BodyPart) :
    (pump.beforeEnd parts).2.stopped = false ∧
      (∀ body, .error body ∉ (pump.beforeEnd parts).1) ∧
      .messageStop ∉ (pump.beforeEnd parts).1 := by
  have goOn : ∀ signal ∈ (pump.upstream.signals parts).takeWhile (fun signal => !signal.isEnd),
      signal.isEnd = false := by
    intro signal member
    simpa using List.mem_takeWhile_imp member
  obtain ⟨still, carried⟩ := Delivery.run_of_not_isEnd goOn running
  refine ⟨still, ?_, ?_⟩
  · intro body member
    obtain ⟨signal, among, named⟩ := carried _ member
    exact (Signal.event?_ne_of_not_isEnd (goOn signal among)).1 body named
  · intro member
    obtain ⟨signal, among, named⟩ := carried _ member
    exact (Signal.event?_ne_of_not_isEnd (goOn signal among)).2 named

/-- An end out of the chain is sent as it is. -/
theorem events_of_stoppedByChain (running : pump.isDone = false) {parts : List BodyPart}
    (stop : pump.stoppedByChain parts = true) :
    pump.events parts = (pump.beforeEnd parts).1 ++ [.messageStop] := by
  obtain ⟨last, found, -⟩ := pump.exists_lastSignal parts
  rw [stoppedByChain, found, Option.any_some] at stop
  rw [events_eq_run, Delivery.run_of_find? found running, Delivery.take_of_isStop stop]
  rfl

/-- Any other end is followed by what the caller is owed. -/
theorem events_of_closed (running : pump.isDone = false) {parts : List BodyPart}
    (closed : pump.stoppedByChain parts = false) :
    ∃ reason, pump.events parts =
        pump.sentBeforeClosing parts ++ ((pump.beforeEnd parts).2.close reason).1 ∧
      (pump.sentBeforeClosing parts = (pump.beforeEnd parts).1 ∨
        ∃ body, pump.sentBeforeClosing parts = (pump.beforeEnd parts).1 ++ [.error body]) := by
  obtain ⟨last, found, ends⟩ := pump.exists_lastSignal parts
  rw [stoppedByChain, found, Option.any_some] at closed
  rw [Signal.isEnd, closed, Bool.or_false, Option.isSome_iff_exists] at ends
  obtain ⟨reason, closes⟩ := ends
  refine ⟨reason, ?_, ?_⟩
  · rw [events_eq_run, Delivery.run_of_find? found running, Delivery.take_of_closing closes]
    simp [sentBeforeClosing, beforeEnd, found]
  · rcases Signal.event?_of_closing closes with none | ⟨body, failure⟩
    · exact .inl (by simp [sentBeforeClosing, found, none])
    · exact .inr ⟨body, by simp [sentBeforeClosing, found, failure]⟩

/-- A failure is told once, and then only followed by what closes the message. -/
theorem failsOnce_events (running : pump.isDone = false) (parts : List BodyPart) :
    Event.FailsOnce (pump.events parts) := by
  obtain ⟨still, sound, -⟩ := pump.beforeEnd_open running parts
  cases stop : pump.stoppedByChain parts with
  | true =>
      rw [pump.events_of_stoppedByChain running stop]
      apply Event.failsOnce_of_not_mem
      intro body
      simp [sound body]
  | false =>
      obtain ⟨reason, all, own⟩ := pump.events_of_closed running stop
      have closes := Delivery.isClosing_close still reason
      rw [all]
      rcases own with same | ⟨body, failed⟩
      · rw [same]
        apply Event.failsOnce_of_not_mem
        intro body
        simpa [sound body] using closes.not_mem_error body
      · rw [failed, List.append_assoc]
        exact closes.failsOnce sound body

theorem accounts_beforeEnd (chain : Chain) (context : Context) (supply : Supply)
    (parts : List BodyPart) :
    let before := (Pump.new chain context supply).beforeEnd parts
    before.2.Accounts before.1 :=
  Delivery.accounts_new.run _

theorem blocksOrdered_events (chain : Chain) (context : Context) (supply : Supply)
    (parts : List BodyPart) :
    Event.BlocksOrdered ((Pump.new chain context supply).events parts) := by
  rw [events_eq_run]
  exact (Delivery.accounts_new.run _).ordered

/-- Whatever comes after the last signal, the delivery accounts for what has been sent. -/
theorem accounts_sentBeforeClosing (chain : Chain) (context : Context) (supply : Supply)
    {parts : List BodyPart} :
    let pump := Pump.new chain context supply
    (pump.sentBeforeClosing parts = (pump.beforeEnd parts).1 ∨
      ∃ body, pump.sentBeforeClosing parts = (pump.beforeEnd parts).1 ++ [.error body]) →
    (pump.beforeEnd parts).2.Accounts (pump.sentBeforeClosing parts) := by
  have accounts := accounts_beforeEnd chain context supply parts
  rintro pump (same | ⟨body, failed⟩)
  · rw [same]
    exact accounts
  · rw [failed]
    exact accounts.note (.error body) rfl

/-- A stream is delivered well formed, whatever chain and body it comes from.  Its end comes once and
last, blocks grow and stop only while they are open, and a failure is told once and then only
followed by what closes the message.  Unless the end came out of the chain, the blocks that are open
when the stream ends are stopped once each, in increasing order, and final fields have been given. -/
theorem delivered_wellFormed (chain : Chain) (context : Context) (supply : Supply)
    (parts : List BodyPart) :
    let pump := Pump.new chain context supply
    let events := pump.events parts
    Event.EndsOnce events ∧ Event.BlocksOrdered events ∧ Event.FailsOnce events ∧
      (pump.stoppedByChain parts = false →
        Event.ClosesAfter (pump.sentBeforeClosing parts) events) := by
  intro pump events
  have ordered := blocksOrdered_events chain context supply parts
  have failsOnce := pump.failsOnce_events rfl parts
  obtain ⟨still, -, unended⟩ := pump.beforeEnd_open rfl parts
  cases stop : pump.stoppedByChain parts with
  | true =>
      have all := pump.events_of_stoppedByChain rfl stop
      exact ⟨⟨_, all, unended⟩, ordered, failsOnce, nofun⟩
  | false =>
      obtain ⟨reason, all, own⟩ := pump.events_of_closed rfl stop
      have closes := Delivery.isClosing_close still reason
      have accounts := accounts_sentBeforeClosing chain context supply own
      have final := (accounts.close reason).closed.mp (Delivery.closed_close still reason)
      rw [← all] at final
      refine ⟨?_, ordered, failsOnce, fun _ => ⟨_, _, all, closes, accounts.increasing,
        accounts.openBlocks, final⟩⟩
      simp only [events, all]
      rcases own with same | ⟨body, failed⟩
      · exact closes.endsOnce (by rwa [same])
      · exact closes.endsOnce (by simpa [failed] using unended)

end Pump

end ChatGateway
