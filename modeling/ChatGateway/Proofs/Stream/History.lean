import ChatGateway.Proofs.Stream.Signals

/-!
# What a stream delivers

A delivery keeps which blocks are open and whether the final fields and the end have been sent.  It
accounts for the whole history of the events it has sent, so what it decides by looking at its own
fields holds of that history.  Every run of a delivery ends with the first signal that closes the
message or carries its end, and that signal decides what the last events are.
-/

namespace ChatGateway

namespace Event

/-- The block that has to be open for an event to make sense. -/
def block? : Event → Option Nat
  | .blockDelta index _ => some index
  | .blockStop index => some index
  | _ => none

/-- A block is open after events if one of them starts it and none after that stops it. -/
def OpenAfter (index : Nat) (events : List Event) : Prop :=
  ∃ earlier block later, events = earlier ++ .blockStart index block :: later ∧
    .blockStop index ∉ later

/-- Growths and ends of blocks are of blocks that are open just before. -/
def BlocksOrdered (events : List Event) : Prop :=
  ∀ earlier event later, events = earlier ++ event :: later →
    ∀ index, event.block? = some index → OpenAfter index earlier

/-- The end comes once, and nothing after it. -/
def EndsOnce (events : List Event) : Prop :=
  ∃ earlier, events = earlier ++ [.messageStop] ∧ .messageStop ∉ earlier

/-- An end that stops these blocks in this order, gives final fields at most once, and ends the
message. -/
def IsClosing (blocks : List Nat) (events : List Event) : Prop :=
  ∃ fields : List (Closing × Option Usage), fields.length ≤ 1 ∧
    events = blocks.map .blockStop ++
      fields.map (fun field => .messageDelta field.1 field.2) ++ [.messageStop]

/-- At most one failure is told, and after it the message is only closed. -/
def FailsOnce (events : List Event) : Prop :=
  ∀ earlier body later, events = earlier ++ .error body :: later →
    (∀ other, .error other ∉ earlier ++ later) ∧ ∃ blocks, IsClosing blocks later

/-- Where an event stands in events with one more at the end. -/
private theorem concat_eq_append_cons {events earlier later : List Event} {last event : Event} :
    events ++ [last] = earlier ++ event :: later ↔
      (events = earlier ∧ last = event ∧ later = []) ∨
        ∃ middle, later = middle ++ [last] ∧ events = earlier ++ event :: middle := by
  constructor
  · intro equal
    rcases List.eq_nil_or_concat later with rfl | ⟨middle, final, rfl⟩
    · left
      have parts := List.append_inj' equal rfl
      exact ⟨parts.1, List.singleton_inj.mp parts.2, rfl⟩
    · right
      rw [List.concat_eq_append, ← List.cons_append, ← List.append_assoc] at equal
      have parts := List.append_inj' equal rfl
      exact ⟨middle, by rw [List.concat_eq_append, List.singleton_inj.mp parts.2], parts.1⟩
  · rintro (⟨rfl, rfl, rfl⟩ | ⟨middle, rfl, rfl⟩)
    · rfl
    · simp

theorem openAfter_concat {events : List Event} {event : Event} {index : Nat} :
    OpenAfter index (events ++ [event]) ↔
      (∃ block, event = .blockStart index block) ∨
        OpenAfter index events ∧ event ≠ .blockStop index := by
  constructor
  · rintro ⟨earlier, block, later, equal, unstopped⟩
    rcases concat_eq_append_cons.mp equal with ⟨-, same, -⟩ | ⟨middle, rfl, same⟩
    · exact .inl ⟨block, same⟩
    · rw [List.mem_append, not_or, List.mem_singleton] at unstopped
      exact .inr ⟨⟨earlier, block, middle, same, unstopped.1⟩, Ne.symm unstopped.2⟩
  · rintro (⟨block, rfl⟩ | ⟨⟨earlier, block, later, rfl, unstopped⟩, other⟩)
    · exact ⟨events, block, [], rfl, List.not_mem_nil⟩
    · refine ⟨earlier, block, later ++ [event], by simp, ?_⟩
      rw [List.mem_append, not_or, List.mem_singleton]
      exact ⟨unstopped, Ne.symm other⟩

theorem blocksOrdered_concat {events : List Event} {event : Event}
    (ordered : BlocksOrdered events)
    (opened : ∀ index, event.block? = some index → OpenAfter index events) :
    BlocksOrdered (events ++ [event]) := by
  intro earlier other later equal index named
  rcases concat_eq_append_cons.mp equal with ⟨rfl, rfl, -⟩ | ⟨middle, -, same⟩
  · exact opened index named
  · exact ordered earlier other middle same index named

end Event

namespace Delivery

theorem mem_insertBlock {index other : Nat} {blocks : List Nat} :
    other ∈ insertBlock index blocks ↔ other = index ∨ other ∈ blocks := by
  induction blocks with
  | nil => simp [insertBlock]
  | cons head rest ih =>
      rw [insertBlock]
      split
      · simp
      · split
        · rename_i same
          subst same
          simp
        · simp only [List.mem_cons, ih]
          exact or_left_comm

theorem pairwise_insertBlock {index : Nat} {blocks : List Nat}
    (ordered : blocks.Pairwise (· < ·)) : (insertBlock index blocks).Pairwise (· < ·) := by
  induction blocks with
  | nil => simp [insertBlock]
  | cons head rest ih =>
      have parts := List.pairwise_cons.mp ordered
      rw [insertBlock]
      split
      · rename_i below
        apply List.pairwise_cons.mpr
        constructor
        · intro other member
          rcases List.mem_cons.mp member with rfl | member
          · exact below
          · exact Nat.lt_trans below (parts.1 other member)
        · exact ordered
      · split
        · exact ordered
        · apply List.pairwise_cons.mpr
          constructor
          · intro other member
            rcases mem_insertBlock.mp member with rfl | member
            · omega
            · exact parts.1 other member
          · exact ih parts.2

/-- The fields of a delivery tell what the history of its events tells. -/
structure Accounts (delivery : Delivery) (sent : List Event) : Prop where
  openBlocks : ∀ index, index ∈ delivery.openBlocks ↔ Event.OpenAfter index sent
  increasing : delivery.openBlocks.Pairwise (· < ·)
  closed : delivery.closed = true ↔ ∃ closing usage, .messageDelta closing usage ∈ sent
  stopped : delivery.stopped = true ↔ .messageStop ∈ sent
  ordered : Event.BlocksOrdered sent

theorem accounts_new : Accounts .new [] where
  openBlocks index := by simp [new, Event.OpenAfter]
  increasing := List.Pairwise.nil
  closed := by simp [new]
  stopped := by simp [new]
  ordered := by simp [Event.BlocksOrdered]

theorem admits_eq_true_iff {delivery : Delivery} {event : Event} :
    delivery.admits event = true ↔
      ∀ index, event.block? = some index → index ∈ delivery.openBlocks := by
  cases event <;> simp [admits, Event.block?]

theorem Accounts.note {delivery : Delivery} {sent : List Event} (accounts : delivery.Accounts sent)
    (event : Event) (admitted : delivery.admits event = true) :
    (delivery.note event).Accounts (sent ++ [event]) where
  openBlocks index := by
    rw [Event.openAfter_concat, ← accounts.openBlocks]
    cases event with
    | blockStart other block => simp [Delivery.note, mem_insertBlock, @eq_comm _ index other]
    | blockStop other => simp [Delivery.note, @eq_comm _ index other]
    | _ => simp [Delivery.note]
  increasing := by
    cases event with
    | blockStart other block => exact pairwise_insertBlock accounts.increasing
    | blockStop other => exact accounts.increasing.filter _
    | _ => exact accounts.increasing
  closed := by
    cases event <;> simp [Delivery.note, accounts.closed, exists_or]
  stopped := by
    cases event <;> simp [Delivery.note, accounts.stopped]
  ordered := by
    apply Event.blocksOrdered_concat accounts.ordered
    intro index named
    exact (accounts.openBlocks index).mp (admits_eq_true_iff.mp admitted index named)

theorem Accounts.relay {delivery : Delivery} {sent : List Event} (accounts : delivery.Accounts sent)
    (event : Option Event) :
    (delivery.relay event).2.Accounts (sent ++ (delivery.relay event).1) := by
  cases event with
  | none => simpa [Delivery.relay] using accounts
  | some event =>
      rw [Delivery.relay]
      cases admitted : delivery.admits event with
      | true => simpa [admitted] using accounts.note _ admitted
      | false => simpa [admitted] using accounts

/-- Stopping the open blocks in their order leaves none open. -/
theorem Accounts.stopBlocks {delivery : Delivery} {sent : List Event}
    (accounts : delivery.Accounts sent) :
    Accounts { delivery with openBlocks := [] }
      (sent ++ delivery.openBlocks.map .blockStop) := by
  obtain ⟨blocks, closed, stopped⟩ := delivery
  induction blocks generalizing sent with
  | nil => simpa using accounts
  | cons index rest ih =>
      have apart := List.pairwise_cons.mp accounts.increasing
      have others : (index :: rest).filter (· ≠ index) = rest := by
        rw [List.filter_cons_of_neg (by simp)]
        apply List.filter_eq_self.mpr
        intro other member
        simpa using Nat.ne_of_gt (apart.1 other member)
      have stoppedFirst := accounts.note (.blockStop index) (by simp [admits])
      simp only [Delivery.note, others] at stoppedFirst
      simpa using ih stoppedFirst

/-- The events that close a message which has not ended. -/
theorem isClosing_close {delivery : Delivery} (running : delivery.stopped = false)
    (reason : Option StopReason) :
    Event.IsClosing delivery.openBlocks (delivery.close reason).1 := by
  cases closed : delivery.closed with
  | true => exact ⟨[], by simp, by simp [Delivery.close, running, closed]⟩
  | false => exact ⟨[(⟨reason, none⟩, none)], by simp, by simp [Delivery.close, running, closed]⟩

theorem closed_close {delivery : Delivery} (running : delivery.stopped = false)
    (reason : Option StopReason) : (delivery.close reason).2.closed = true := by
  simp [Delivery.close, running]

theorem Accounts.close {delivery : Delivery} {sent : List Event}
    (accounts : delivery.Accounts sent) (reason : Option StopReason) :
    (delivery.close reason).2.Accounts (sent ++ (delivery.close reason).1) := by
  rw [Delivery.close]
  cases running : delivery.stopped with
  | true => simpa using accounts
  | false =>
      have blocks := accounts.stopBlocks
      cases closed : delivery.closed with
      | true =>
          have ended := blocks.note .messageStop rfl
          simpa [Delivery.note, closed] using ended
      | false =>
          have fields := blocks.note (.messageDelta ⟨reason, none⟩ none) rfl
          have ended := fields.note .messageStop rfl
          simpa [Delivery.note] using ended

theorem Accounts.take {delivery : Delivery} {sent : List Event} (accounts : delivery.Accounts sent)
    (signal : Signal) :
    (delivery.take signal).2.Accounts (sent ++ (delivery.take signal).1) := by
  have relayed := accounts.relay signal.event?
  rw [Delivery.take]
  cases signal.closing? with
  | none => exact relayed
  | some reason => simpa using relayed.close reason

/-- The history of a whole run is accounted for. -/
theorem Accounts.run {delivery : Delivery} {sent : List Event} (accounts : delivery.Accounts sent)
    (signals : List Signal) :
    (delivery.run signals).2.Accounts (sent ++ (delivery.run signals).1) := by
  induction signals generalizing delivery sent with
  | nil => simpa using accounts
  | cons signal rest ih =>
      cases stopped : delivery.stopped with
      | true => simpa [run_of_stopped stopped] using accounts
      | false =>
          rw [run_cons stopped, ← List.append_assoc]
          exact ih (accounts.take signal)

end Delivery

/-! ## The signal that ends a stream -/

namespace Signal

/-- Whether a signal carries the end of the message. -/
def isStop (signal : Signal) : Bool := signal.event?.any Event.isTerminal

/-- Whether nothing is delivered after a signal. -/
def isEnd (signal : Signal) : Bool := signal.closing?.isSome || signal.isStop

theorem event?_of_isStop {signal : Signal} (stop : signal.isStop = true) :
    signal.event? = some .messageStop := by
  rw [isStop] at stop
  cases carried : signal.event? with
  | none => simp [carried] at stop
  | some event => cases event <;> simp [carried, Event.isTerminal] at stop ⊢

theorem closing?_of_isStop {signal : Signal} (stop : signal.isStop = true) :
    signal.closing? = none := by
  have carried := event?_of_isStop stop
  cases signal with
  | chunk chunk =>
      cases chunk with
      | done => simp [event?] at carried
      | event name data => simp only [closing?, carried]
  | failure cause => simp [event?] at carried
  | closure => simp [event?] at carried

/-- What a signal that closes the message carries, if anything, is a failure. -/
theorem event?_of_closing {signal : Signal} {reason : Option StopReason}
    (closes : signal.closing? = some reason) :
    signal.event? = none ∨ ∃ body, signal.event? = some (.error body) := by
  simp only [closing?] at closes
  split at closes
  · exact .inl rfl
  · exact .inl rfl
  · rename_i carried
    exact .inr ⟨_, carried⟩
  · cases closes

/-- A signal after which the stream goes on carries neither a failure nor the end. -/
theorem event?_ne_of_not_isEnd {signal : Signal} (goesOn : signal.isEnd = false) :
    (∀ body, signal.event? ≠ some (.error body)) ∧ signal.event? ≠ some .messageStop := by
  rw [isEnd, Bool.or_eq_false_iff] at goesOn
  constructor
  · intro body carried
    have closes : signal.closing?.isSome = true := by
      cases signal with
      | chunk chunk =>
          cases chunk with
          | done => rfl
          | event name data => simp only [closing?, carried, Option.isSome_some]
      | failure cause => rfl
      | closure => rfl
    simp [closes] at goesOn
  · intro carried
    simp [isStop, carried, Event.isTerminal] at goesOn

end Signal

namespace Delivery

theorem take_of_closing {signal : Signal} {reason : Option StopReason}
    (closes : signal.closing? = some reason) (delivery : Delivery) :
    delivery.take signal =
      (signal.event?.toList ++ (delivery.close reason).1, (delivery.close reason).2) := by
  simp only [take, closes]
  rcases Signal.event?_of_closing closes with none | ⟨body, failure⟩
  · simp [none, relay]
  · simp [failure, relay, admits, note]

theorem take_of_isStop {signal : Signal} (stop : signal.isStop = true) (delivery : Delivery) :
    delivery.take signal = ([.messageStop], { delivery with stopped := true }) := by
  simp [take, Signal.event?_of_isStop stop, Signal.closing?_of_isStop stop, relay, admits, note]

/-- A signal that does not end the stream leaves the message open, and only its event is sent. -/
theorem take_of_not_isEnd {signal : Signal} (goesOn : signal.isEnd = false) {delivery : Delivery}
    (running : delivery.stopped = false) :
    (delivery.take signal).2.stopped = false ∧
      ∀ event ∈ (delivery.take signal).1, signal.event? = some event := by
  have quiet := Signal.event?_ne_of_not_isEnd goesOn
  rw [Signal.isEnd, Bool.or_eq_false_iff, Option.isSome_eq_false_iff, Option.isNone_iff_eq_none]
    at goesOn
  simp only [take, goesOn.1]
  cases carried : signal.event? with
  | none => simpa [relay] using running
  | some event =>
      cases event with
      | messageStop => exact (quiet.2 carried).elim
      | _ => simp only [relay]; split <;> simp [note, running]

theorem run_of_not_isEnd {signals : List Signal} (goOn : ∀ signal ∈ signals, signal.isEnd = false)
    {delivery : Delivery} (running : delivery.stopped = false) :
    (delivery.run signals).2.stopped = false ∧
      ∀ event ∈ (delivery.run signals).1, ∃ signal ∈ signals, signal.event? = some event := by
  induction signals generalizing delivery with
  | nil => simpa using running
  | cons signal rest ih =>
      obtain ⟨first, carried⟩ := take_of_not_isEnd (goOn signal List.mem_cons_self) running
      obtain ⟨last, later⟩ := ih (fun other member => goOn other (.tail _ member)) first
      rw [run_cons running]
      constructor
      · exact last
      · intro event member
        rcases List.mem_append.mp member with member | member
        · exact ⟨signal, List.mem_cons_self, carried event member⟩
        · obtain ⟨other, among, named⟩ := later event member
          exact ⟨other, .tail _ among, named⟩

end Delivery

end ChatGateway
