import ChatGateway.Proofs.Stream.Ending

/-!
# Starts and stops of blocks

A block that has started is stopped once, unless the chain of stages itself lets it go: a stop is
passed on only while its block is open, and what is open when the stream is closed is stopped then.
But a start is passed on whether or not its block is open, and an end that comes out of the chain is
passed on as it is.
-/

namespace ChatGateway

namespace Event

/-- Whether an event starts a block. -/
def starts (index : Nat) : Event → Bool
  | .blockStart other _ => other == index
  | _ => false

/-- Whether an event stops a block. -/
def stops (index : Nat) : Event → Bool
  | .blockStop other => other == index
  | _ => false

/-- Whether an event starts a block, once more if it is open, or ends the message. -/
def bounds (index : Nat) (event : Event) : Bool := event.starts index || event.isTerminal

/-- How often a block is stopped before it starts again and before the message ends. -/
def stopCount (index : Nat) (events : List Event) : Nat :=
  (events.takeWhile fun event => !event.bounds index).countP (stops index)

/-- Whether a block is started again, or the message ended, before it is stopped. -/
def abandons (index : Nat) (events : List Event) : Bool :=
  (events.find? fun event => event.bounds index || event.stops index).any (bounds index)

/-- Every block that starts is stopped once before it starts again and before the message ends. -/
def Balanced (events : List Event) : Prop :=
  ∀ earlier index block later, events = earlier ++ .blockStart index block :: later →
    stopCount index later = 1

variable {index : Nat} {event : Event}

theorem stopCount_cons_of_stops (stop : event.stops index = true) (rest : List Event) :
    stopCount index (event :: rest) = stopCount index rest + 1 := by
  cases event with
  | blockStop other => simp [stopCount, bounds, starts, isTerminal, stop]
  | _ => cases stop

theorem exists_cons_of_starts {events : List Event}
    (start : events.head?.any (starts index) = true) :
    ∃ block later, events = .blockStart index block :: later := by
  obtain ⟨first, head, begins⟩ := (Option.any_eq_true ..).mp start
  obtain ⟨later, rfl⟩ := List.head?_eq_some_iff.mp head
  cases first with
  | blockStart other block => exact ⟨block, later, by rw [beq_iff_eq.mp begins]⟩
  | _ => cases begins

/-- After what starts the block again or ends the message, nothing counts. -/
theorem stopCount_cons_of_bounds (bound : event.bounds index = true) (rest : List Event) :
    stopCount index (event :: rest) = 0 := by
  rw [stopCount, List.takeWhile_cons_of_neg (by simp [bound]), List.countP_nil]

/-- The end is not among events that are followed by others. -/
theorem EndsOnce.not_mem_front {earlier later : List Event}
    (ends : EndsOnce (earlier ++ event :: later)) : .messageStop ∉ earlier := by
  obtain ⟨most, equal, unended⟩ := ends
  have front : most = earlier ++ (event :: later).dropLast := by
    rw [← List.dropLast_append_cons, equal, List.dropLast_concat]
  rw [front] at unended
  intro ended
  exact unended (List.mem_append_left _ ended)

/-- Events that neither start nor stop a block nor end the message say nothing about it. -/
def Quiet (index : Nat) (event : Event) : Prop :=
  event.bounds index = false ∧ event.stops index = false

theorem Quiet.stopCount_cons (quiet : Quiet index event) (rest : List Event) :
    stopCount index (event :: rest) = stopCount index rest := by
  obtain ⟨unbound, unstopped⟩ := quiet
  simp [stopCount, unbound, unstopped]

theorem Quiet.abandons_cons (quiet : Quiet index event) (rest : List Event) :
    abandons index (event :: rest) = abandons index rest := by
  obtain ⟨unbound, unstopped⟩ := quiet
  simp [abandons, unbound, unstopped]

/-- Stops of different blocks stop one of them once. -/
theorem stopCount_map_blockStop {blocks : List Nat} (distinct : blocks.Nodup) (rest : List Event) :
    stopCount index (blocks.map .blockStop ++ rest) =
      (if index ∈ blocks then 1 else 0) + stopCount index rest := by
  rw [← distinct.count]
  clear distinct
  induction blocks with
  | nil => simp
  | cons other blocks ih =>
      rw [List.map_cons, List.cons_append, List.count_cons]
      cases same : other == index with
      | true =>
          have stop : (blockStop other).stops index = true := same
          rw [stopCount_cons_of_stops stop, ih]
          simp only [if_true]
          omega
      | false =>
          have quiet : Quiet index (.blockStop other) := ⟨rfl, same⟩
          rw [quiet.stopCount_cons, ih]
          simp

theorem abandons_cons_of_stops (stop : event.stops index = true) (rest : List Event) :
    abandons index (event :: rest) = false := by
  cases event with
  | blockStop other => simp [abandons, bounds, starts, isTerminal, stop]
  | _ => cases stop

theorem abandons_cons_of_bounds (bound : event.bounds index = true) (rest : List Event) :
    abandons index (event :: rest) = true := by
  simp [abandons, bound]

end Event

namespace Delivery

open Event

/-! ## Relaying events -/

/-- Passes on events, one after the other. -/
def relayAll (delivery : Delivery) : List Event → List Event × Delivery
  | [] => ([], delivery)
  | event :: rest =>
      let (sent, delivery) := delivery.relay (some event)
      let (more, delivery) := delivery.relayAll rest
      (sent ++ more, delivery)

variable {delivery : Delivery} {index : Nat}

theorem relayAll_append (delivery : Delivery) (earlier later : List Event) :
    delivery.relayAll (earlier ++ later) =
      ((delivery.relayAll earlier).1 ++ ((delivery.relayAll earlier).2.relayAll later).1,
        ((delivery.relayAll earlier).2.relayAll later).2) := by
  induction earlier generalizing delivery with
  | nil => rfl
  | cons event rest ih => simp only [List.cons_append, relayAll, ih, List.append_assoc]

theorem Accounts.relayAll {sent : List Event} (accounts : delivery.Accounts sent)
    (offered : List Event) :
    (delivery.relayAll offered).2.Accounts (sent ++ (delivery.relayAll offered).1) := by
  induction offered generalizing delivery sent with
  | nil => simpa [Delivery.relayAll] using accounts
  | cons event rest ih =>
      rw [Delivery.relayAll, ← List.append_assoc]
      exact ih (accounts.relay (some event))

/-- Signals before the last one only pass on their events. -/
theorem run_eq_relayAll {signals : List Signal} (goOn : ∀ signal ∈ signals, signal.isEnd = false)
    (running : delivery.stopped = false) :
    delivery.run signals = delivery.relayAll (signals.filterMap Signal.event?) := by
  induction signals generalizing delivery with
  | nil => rfl
  | cons signal rest ih =>
      have quiet := goOn signal List.mem_cons_self
      have still := (take_of_not_isEnd quiet running).1
      rw [Signal.isEnd, Bool.or_eq_false_iff, Option.isSome_eq_false_iff,
        Option.isNone_iff_eq_none] at quiet
      have taken : delivery.take signal = delivery.relay signal.event? := by
        simp only [take, quiet.1]
      rw [run_cons running, ih (fun other member => goOn other (.tail _ member)) still, taken]
      cases carried : signal.event? with
      | none => simp [relay, carried]
      | some event => simp [relayAll, carried]

/-- What is passed on at some point is one of the events offered, after those that have been passed
on before. -/
theorem exists_of_relayAll_eq {offered earlier later : List Event} {event : Event}
    (passed : (delivery.relayAll offered).1 = earlier ++ event :: later) :
    ∃ before after, offered = before ++ event :: after ∧ (delivery.relayAll before).1 = earlier ∧
      ((delivery.relayAll before).2.note event).relayAll after =
        (later, (delivery.relayAll offered).2) := by
  induction offered generalizing delivery earlier with
  | nil => simp [relayAll] at passed
  | cons first rest ih =>
      cases admitted : delivery.admits first with
      | false =>
          have dropped : delivery.relay (some first) = ([], delivery) := by
            simp [relay, admitted]
          simp only [relayAll, dropped, List.nil_append] at passed
          obtain ⟨before, after, split, sent, onward⟩ := ih passed
          refine ⟨first :: before, after, by rw [split]; rfl, ?_, ?_⟩
          · simpa [relayAll, dropped] using sent
          · simpa [relayAll, dropped] using onward
      | true =>
          have sent : delivery.relay (some first) = ([first], delivery.note first) := by
            simp [relay, admitted]
          simp only [relayAll, sent, List.singleton_append] at passed
          cases earlier with
          | nil =>
              obtain ⟨rfl, rfl⟩ := List.cons.inj passed
              exact ⟨[], rest, rfl, rfl, by simp [relayAll, sent]⟩
          | cons head earlier =>
              obtain ⟨rfl, later⟩ := List.cons.inj passed
              obtain ⟨before, after, split, passed, onward⟩ := ih later
              refine ⟨first :: before, after, by rw [split]; rfl, ?_, ?_⟩
              · simp [relayAll, sent, passed]
              · simpa [relayAll, sent] using onward

theorem not_mem_close_of_start (delivery : Delivery) (reason : Option StopReason) (index : Nat)
    (block : Block) : .blockStart index block ∉ (delivery.close reason).1 := by
  rw [close]
  cases delivery.stopped <;> cases delivery.closed <;> simp

/-- A start that comes before or in a closing comes before it. -/
theorem exists_passed_of_start {passed earlier later : List Event} {reason : Option StopReason}
    {index : Nat} {block : Block}
    (start : passed ++ (delivery.close reason).1 = earlier ++ .blockStart index block :: later) :
    ∃ middle, passed = earlier ++ .blockStart index block :: middle ∧
      later = middle ++ (delivery.close reason).1 := by
  have foreign := not_mem_close_of_start delivery reason index block
  rcases List.append_eq_append_iff.mp start with ⟨more, rfl, rest⟩ | ⟨more, rfl, rest⟩
  · rw [rest] at foreign
    exact absurd (List.mem_append_right more List.mem_cons_self) foreign
  · cases more with
    | nil =>
        rw [← List.nil_append (delivery.close reason).1, ← rest] at foreign
        exact absurd List.mem_cons_self foreign
    | cons head middle =>
        obtain ⟨rfl, rfl⟩ := List.cons.inj rest
        exact ⟨middle, rfl, rfl⟩

/-! ## Stops of an open block -/

/-- What is open at the end is stopped once. -/
theorem stopCount_close (running : delivery.stopped = false)
    (increasing : delivery.openBlocks.Pairwise (· < ·)) (reason : Option StopReason) :
    stopCount index (delivery.close reason).1 = if index ∈ delivery.openBlocks then 1 else 0 := by
  have distinct : delivery.openBlocks.Nodup := increasing.imp Nat.ne_of_lt
  have last : stopCount index [.messageStop] = 0 := stopCount_cons_of_bounds rfl []
  rw [close, running]
  cases delivery.closed with
  | true => simp [stopCount_map_blockStop distinct, last]
  | false =>
      have fields : Quiet index (.messageDelta ⟨reason, none⟩ none) := ⟨rfl, rfl⟩
      simp [stopCount_map_blockStop distinct, fields.stopCount_cons, last]

theorem pairwise_relay (increasing : delivery.openBlocks.Pairwise (· < ·)) (event : Event) :
    (delivery.relay (some event)).2.openBlocks.Pairwise (· < ·) := by
  rw [relay]
  split
  · cases event with
    | blockStart other block => exact pairwise_insertBlock increasing
    | blockStop other => exact increasing.filter _
    | _ => exact increasing
  · exact increasing

/-- An event that says nothing about a block leaves it as it is. -/
theorem relay_of_quiet {event : Event} (quiet : Quiet index event)
    (running : delivery.stopped = false) :
    (delivery.relay (some event)).2.stopped = false ∧
      (index ∈ (delivery.relay (some event)).2.openBlocks ↔ index ∈ delivery.openBlocks) := by
  obtain ⟨unbound, unstopped⟩ := quiet
  rw [relay]
  split
  · cases event with
    | blockStart other block =>
        have apart : index ≠ other := by
          rintro rfl
          simp [bounds, starts] at unbound
        simp [note, running, mem_insertBlock, apart]
    | blockStop other =>
        have apart : index ≠ other := by
          rintro rfl
          simp [stops] at unstopped
        simp [note, running, apart]
    | messageStop => cases unbound
    | _ => exact ⟨running, Iff.rfl⟩
  · exact ⟨running, Iff.rfl⟩

/-- A block is stopped once if it is open and not let go, and otherwise not at all. -/
theorem stopCount_relayAll (index : Nat) (running : delivery.stopped = false)
    (increasing : delivery.openBlocks.Pairwise (· < ·)) (offered : List Event)
    (reason : Option StopReason) :
    stopCount index ((delivery.relayAll offered).1 ++
        ((delivery.relayAll offered).2.close reason).1) =
      if index ∈ delivery.openBlocks ∧ abandons index offered = false then 1 else 0 := by
  induction offered generalizing delivery with
  | nil =>
      rw [relayAll, List.nil_append, stopCount_close running increasing]
      simp [abandons]
  | cons event rest ih =>
      have later := pairwise_relay increasing event
      rw [relayAll, List.append_assoc]
      cases bound : event.bounds index with
      | true =>
          -- starts and ends are always passed on
          have passed : (delivery.relay (some event)).1 = [event] := by
            cases event <;> simp_all [bounds, starts, isTerminal, relay, admits]
          rw [passed, List.singleton_append, stopCount_cons_of_bounds bound,
            abandons_cons_of_bounds bound]
          simp
      | false =>
          cases stop : event.stops index with
          | false =>
              have quiet : Quiet index event := ⟨bound, stop⟩
              obtain ⟨still, kept⟩ := relay_of_quiet quiet running
              have skipped : ∀ more,
                  stopCount index ((delivery.relay (some event)).1 ++ more) =
                    stopCount index more := by
                intro more
                rw [relay]
                split
                · exact quiet.stopCount_cons more
                · rfl
              rw [skipped, ih still later, quiet.abandons_cons]
              simp only [kept]
          | true =>
              obtain rfl : event = .blockStop index := by
                cases event <;> simp_all [stops]
              rw [abandons_cons_of_stops stop]
              by_cases opened : index ∈ delivery.openBlocks
              · have passed : delivery.relay (some (.blockStop index)) =
                    ([.blockStop index], delivery.note (.blockStop index)) := by
                  simp [relay, admits, opened]
                rw [passed] at later
                have goesOn : (delivery.note (.blockStop index)).stopped = false := running
                rw [passed, List.singleton_append, stopCount_cons_of_stops stop, ih goesOn later]
                simp [note, opened]
              · have dropped : delivery.relay (some (.blockStop index)) = ([], delivery) := by
                  simp [relay, admits, opened]
                rw [dropped, List.nil_append, ih running increasing]
                simp [opened]

/-- A block that has started before the end is stopped once, unless it is let go by what is offered
after its start. -/
theorem stopCount_of_passed {offered earlier later : List Event} {reason : Option StopReason}
    {block : Block}
    (start : (new.relayAll offered).1 ++ ((new.relayAll offered).2.close reason).1 =
      earlier ++ .blockStart index block :: later)
    (unended : .messageStop ∉ earlier) :
    ∃ before after, offered = before ++ .blockStart index block :: after ∧
      (new.relayAll before).1 = earlier ∧
      stopCount index later = if abandons index after then 0 else 1 := by
  obtain ⟨middle, passed, rfl⟩ := exists_passed_of_start start
  obtain ⟨before, after, split, sent, onward⟩ := exists_of_relayAll_eq passed
  refine ⟨before, after, split, sent, ?_⟩
  have accounts := (accounts_new.relayAll before).note (.blockStart index block) rfl
  have running : ((new.relayAll before).2.note (.blockStart index block)).stopped = false := by
    rw [Bool.eq_false_iff, ne_eq, accounts.stopped, sent]
    simpa using unended
  have opened : index ∈ ((new.relayAll before).2.note (.blockStart index block)).openBlocks :=
    mem_insertBlock.mpr (.inl rfl)
  have counted := stopCount_relayAll index running accounts.increasing after reason
  rw [onward] at counted
  rw [counted]
  cases abandons index after <;> simp [opened]

end Delivery

namespace Pump

/-! ## Whole streams -/

/-- The events that come out of the chain, or tell of a failure, up to the end of the stream. -/
def offered (pump : Pump) (parts : List BodyPart) : List Event :=
  ((pump.upstream.signals parts).takeWhile fun signal => !signal.isEnd).filterMap Signal.event? ++
    ((pump.lastSignal? parts).bind Signal.event?).toList

/-- A stream passes on the events offered and closes what they leave open. -/
theorem exists_events_eq (pump : Pump) (running : pump.isDone = false) (parts : List BodyPart) :
    ∃ reason, pump.events parts =
      (pump.delivery.relayAll (pump.offered parts)).1 ++
        ((pump.delivery.relayAll (pump.offered parts)).2.close reason).1 := by
  have goOn : ∀ signal ∈ (pump.upstream.signals parts).takeWhile (fun signal => !signal.isEnd),
      signal.isEnd = false := by
    intro signal member
    simpa using List.mem_takeWhile_imp member
  obtain ⟨last, found, ends⟩ := pump.exists_lastSignal parts
  have before := Delivery.run_eq_relayAll goOn running
  rw [offered, Delivery.relayAll_append, found, Option.bind_some, ← before]
  cases stop : pump.stoppedByChain parts with
  | true =>
      rw [pump.events_of_stoppedByChain running stop]
      rw [stoppedByChain, found, Option.any_some] at stop
      refine ⟨none, ?_⟩
      rw [Signal.event?_of_isStop stop]
      simp [beforeEnd, Delivery.relayAll, Delivery.relay, Delivery.admits, Delivery.note,
        Delivery.close]
  | false =>
      obtain ⟨reason, all, -⟩ := pump.events_of_closed running stop
      rw [stoppedByChain, found, Option.any_some] at stop
      rw [Signal.isEnd, stop, Bool.or_false, Option.isSome_iff_exists] at ends
      obtain ⟨_, closes⟩ := ends
      refine ⟨reason, ?_⟩
      rw [all, sentBeforeClosing, found, Option.bind_some]
      rcases Signal.event?_of_closing closes with none | ⟨body, failure⟩
      · simp [none, beforeEnd, Delivery.relayAll]
      · simp [failure, beforeEnd, Delivery.relayAll, Delivery.relay, Delivery.admits, Delivery.note]

/-- The end of a delivered stream comes once and last, whoever ends it. -/
theorem endsOnce_events (pump : Pump) (running : pump.isDone = false) (parts : List BodyPart) :
    Event.EndsOnce (pump.events parts) := by
  obtain ⟨still, -, unended⟩ := pump.beforeEnd_open running parts
  cases stop : pump.stoppedByChain parts with
  | true => exact ⟨_, pump.events_of_stoppedByChain running stop, unended⟩
  | false =>
      obtain ⟨reason, all, own⟩ := pump.events_of_closed running stop
      rw [all]
      apply (Delivery.isClosing_close still reason).endsOnce
      rcases own with same | ⟨body, failed⟩
      · rwa [same]
      · simpa [failed] using unended

/-- Wherever a block starts in a delivered stream, it is stopped once before it starts again and
before the message ends, unless the chain lets it go: then it is not stopped.  The block is let go
if, of what comes out of the chain after its start, the first event that starts or stops it or ends
the message is no stop. -/
theorem stopCount_eq_of_start (chain : Chain) (context : Context) (supply : Supply)
    (parts : List BodyPart) {earlier later : List Event} {index : Nat} {block : Block}
    (start : (Pump.new chain context supply).events parts =
      earlier ++ .blockStart index block :: later) :
    ∃ before after,
      (Pump.new chain context supply).offered parts = before ++ .blockStart index block :: after ∧
      (Delivery.new.relayAll before).1 = earlier ∧
      Event.stopCount index later = if Event.abandons index after then 0 else 1 := by
  obtain ⟨reason, all⟩ := exists_events_eq (new chain context supply) rfl parts
  apply Delivery.stopCount_of_passed (all.symm.trans start)
  have ends := endsOnce_events (new chain context supply) rfl parts
  rw [start] at ends
  exact ends.not_mem_front

/-- A block that is open when the provider's stream breaks off. -/
theorem stopCount_eq_of_start_open :
    let context : Context := ⟨⟨1⟩, "main", "small", true, []⟩
    let first := "data: \x7b\"type\":\"content_block_start\",\"index\":0,\"content_block\":" ++
      "\x7b\"type\":\"text\",\"text\":\"\"\x7d\x7d\n\n"
    let pump := Pump.new ⟨[]⟩ context ⟨0⟩
    let parts := [BodyPart.bytes first.toUTF8.toList]
    ∃ block later, pump.events parts = [] ++ .blockStart 0 block :: later ∧
      ∃ before after, pump.offered parts = before ++ .blockStart 0 block :: after ∧
        (Delivery.new.relayAll before).1 = [] ∧
        Event.stopCount 0 later = if Event.abandons 0 after then 0 else 1 := by
  intro context first pump parts
  have starts : (pump.events parts).head?.any (Event.starts 0) = true := by decide +kernel
  obtain ⟨block, later, start⟩ := Event.exists_cons_of_starts starts
  exact ⟨block, later, start, stopCount_eq_of_start ⟨[]⟩ context ⟨0⟩ parts start⟩

/-- A block that starts twice is not stopped in between, and not when the provider ends the
message. -/
theorem events_not_balanced :
    let context : Context := ⟨⟨1⟩, "main", "small", true, []⟩
    let start := "data: \x7b\"type\":\"content_block_start\",\"index\":0,\"content_block\":" ++
      "\x7b\"type\":\"text\",\"text\":\"\"\x7d\x7d\n\n"
    let stop := "data: \x7b\"type\":\"message_stop\"\x7d\n\n"
    let events := (Pump.new ⟨[]⟩ context ⟨0⟩).events
      [.bytes (start ++ start ++ stop).toUTF8.toList]
    events.map Event.name = ["content_block_start", "content_block_start", "message_stop"] ∧
      Event.stopCount 0 (events.drop 1) = 0 ∧ Event.stopCount 0 (events.drop 2) = 0 ∧
      ¬Event.Balanced events := by
  intro context start stop events
  have told : events.map Event.name = ["content_block_start", "content_block_start",
        "message_stop"] ∧ events.head?.any (Event.starts 0) = true ∧
      Event.stopCount 0 (events.drop 1) = 0 ∧ Event.stopCount 0 (events.drop 2) = 0 := by
    decide +kernel
  obtain ⟨names, starts, first, second⟩ := told
  refine ⟨names, first, second, ?_⟩
  obtain ⟨block, later, equal⟩ := Event.exists_cons_of_starts starts
  intro balanced
  have once := balanced [] 0 block later equal
  rw [equal, List.drop_one, List.tail_cons, once] at first
  cases first

end Pump

end ChatGateway
