import ChatGateway.Proofs.Message.Codec
import ChatGateway.Stage.EventWriter
import ChatGateway.Stream.Delivery

/-!
# The outline of a message

A message is written as a header, blocks one after the other, final fields and an end.  The outline
of a message tells how far it has been written, and a step of it is an event that may come next.
Both sides of a stream keep outlines: the writer of a stage, and the delivery to the caller.
-/

namespace ChatGateway

namespace BlockKind

/-- Whether a block is of a kind. -/
def Opens : BlockKind → Block → Prop
  | .text, .text _ _ => True
  | .thinking, .thinking _ _ => True
  | .toolUse, .toolUse _ _ _ => True
  | _, _ => False

/-- Whether blocks of a kind grow so. -/
def Grows : BlockKind → Delta → Prop
  | .text, .text _ => True
  | .thinking, .thinking _ => True
  | .toolUse, .inputJson _ => True
  | _, _ => False

end BlockKind

/-- How far a message has been written. -/
inductive Outline where
  /-- No block is open, and the next one has this index. -/
  | between (started : Bool) (next : Nat)
  | within (block : OpenBlock) (next : Nat)
  /-- Final fields have been given. -/
  | closed
  | stopped
  deriving DecidableEq, Repr, Inhabited

namespace Outline

/-- The events that may come next.  A failure may come at any time and is no part of the message. -/
inductive Step : Outline → Event → Outline → Prop where
  | header (header : MessageHeader) (next : Nat) :
      Step (.between false next) (.messageStart header) (.between true next)
  | start {kind : BlockKind} {block : Block} (opens : kind.Opens block) (next : Nat) :
      Step (.between true next) (.blockStart next block) (.within ⟨next, kind⟩ (next + 1))
  | grow {block : OpenBlock} {delta : Delta} (grows : block.kind.Grows delta) (next : Nat) :
      Step (.within block next) (.blockDelta block.index delta) (.within block next)
  | stop (block : OpenBlock) (next : Nat) :
      Step (.within block next) (.blockStop block.index) (.between true next)
  | fields (started : Bool) (next : Nat) (final : Closing) (usage : Option Usage) :
      Step (.between started next) (.messageDelta final usage) .closed
  | finish : Step .closed .messageStop .stopped
  | failure (outline : Outline) (body : ErrorBody) : Step outline (.error body) outline

/-- Events that may come one after the other. -/
inductive Follows : Outline → List Event → Outline → Prop where
  | nil (outline : Outline) : Follows outline [] outline
  | cons {before middle after : Outline} {event : Event} {rest : List Event} :
      Step before event middle → Follows middle rest after → Follows before (event :: rest) after

theorem Step.follows {before after : Outline} {event : Event} (step : Step before event after) :
    Follows before [event] after :=
  .cons step (.nil after)

theorem Follows.append {before middle after : Outline} {earlier later : List Event}
    (first : Follows before earlier middle) (second : Follows middle later after) :
    Follows before (earlier ++ later) after := by
  induction first with
  | nil => exact second
  | cons step _ ih => exact .cons step (ih second)

end Outline

/-! ## Whole messages -/

/-- Blocks one after the other, numbered without gaps from an index on: each is opened, grows in ways
of its own kind and under its own index, and is closed before the next one opens. -/
inductive BlockSequence : Nat → List Event → Prop where
  | nil (index : Nat) : BlockSequence index []
  | cons {index : Nat} {kind : BlockKind} {block : Block} {deltas : List Delta}
      {rest : List Event} (opens : kind.Opens block) (grows : ∀ delta ∈ deltas, kind.Grows delta)
      (others : BlockSequence (index + 1) rest) :
      BlockSequence index
        (.blockStart index block :: deltas.map (.blockDelta index) ++ .blockStop index :: rest)

namespace Event

/-- Whether an event tells of a failure. -/
def isError : Event → Bool
  | .error _ => true
  | _ => false

/-- A whole message: at most one header, blocks numbered from zero, final fields once, and the
end. -/
def IsMessage (events : List Event) : Prop :=
  ∃ (header : Option MessageHeader) (blocks : List Event) (final : Closing)
    (usage : Option Usage),
    BlockSequence 0 blocks ∧
      events = header.toList.map .messageStart ++ blocks ++
        [.messageDelta final usage, .messageStop]

end Event

namespace Outline

/-- What is left to write of a message. -/
def Rest : Outline → List Event → Prop
  | .between started next, events =>
      ∃ (header : Option MessageHeader) (blocks : List Event) (final : Closing)
        (usage : Option Usage),
        (started = true → header = none) ∧ BlockSequence next blocks ∧
          events = header.toList.map .messageStart ++ blocks ++
            [.messageDelta final usage, .messageStop]
  | .within block next, events =>
      ∃ (deltas : List Delta) (blocks : List Event) (final : Closing) (usage : Option Usage),
        (∀ delta ∈ deltas, block.kind.Grows delta) ∧ BlockSequence next blocks ∧
          events = deltas.map (.blockDelta block.index) ++ .blockStop block.index :: blocks ++
            [.messageDelta final usage, .messageStop]
  | .closed, events => events = [.messageStop]
  | .stopped, events => events = []

/-- A step adds its event in front of what is left. -/
theorem Step.rest {before after : Outline} {event : Event} (step : Step before event after)
    (sound : event.isError = false) {events : List Event} (left : after.Rest events) :
    before.Rest (event :: events) := by
  cases step with
  | header header next =>
      obtain ⟨other, blocks, final, usage, unique, sequence, rfl⟩ := left
      rw [unique rfl]
      exact ⟨some header, blocks, final, usage, nofun, sequence, by simp⟩
  | start opens next =>
      obtain ⟨deltas, blocks, final, usage, grows, sequence, rfl⟩ := left
      exact ⟨none, _, final, usage, fun _ => rfl, .cons opens grows sequence, by simp⟩
  | @grow block delta grows next =>
      obtain ⟨deltas, blocks, final, usage, others, sequence, rfl⟩ := left
      refine ⟨delta :: deltas, blocks, final, usage, ?_, sequence, by simp⟩
      intro other member
      rcases List.mem_cons.mp member with rfl | member
      · exact grows
      · exact others other member
  | stop block next =>
      obtain ⟨header, blocks, final, usage, unique, sequence, rfl⟩ := left
      rw [unique rfl]
      exact ⟨[], blocks, final, usage, by simp, sequence, by simp⟩
  | fields started next final usage =>
      cases left
      exact ⟨none, [], final, usage, fun _ => rfl, .nil next, by simp⟩
  | finish =>
      cases left
      rfl
  | failure outline body => simp [Event.isError] at sound

theorem Follows.rest {before after : Outline} {events : List Event}
    (follows : Follows before events after) (ended : after = .stopped)
    (sound : ∀ event ∈ events, event.isError = false) : before.Rest events := by
  induction follows with
  | nil =>
      subst ended
      rfl
  | cons step _ ih =>
      apply step.rest (sound _ List.mem_cons_self)
      apply ih ended
      intro event member
      exact sound event (.tail _ member)

/-- Failures do not move the outline. -/
theorem Follows.filter {before after : Outline} {events : List Event}
    (follows : Follows before events after) :
    Follows before (events.filter fun event => !event.isError) after := by
  induction follows with
  | nil outline => exact .nil outline
  | cons step _ ih =>
      cases step with
      | failure outline body => simpa [Event.isError] using ih
      | header | start | grow | stop | fields | finish =>
          rw [List.filter_cons_of_pos rfl]
          exact .cons (by constructor <;> assumption) ih

/-- Whether final fields may still be given. -/
def isOpen : Outline → Bool
  | .between _ _ => true
  | .within _ _ => true
  | .closed => false
  | .stopped => false

theorem Step.isOpen {before after : Outline} {event : Event} (step : Step before event after)
    (still : after.isOpen = true) :
    before.isOpen = true ∧ ∀ final usage, event ≠ .messageDelta final usage := by
  cases step <;> simp_all [Outline.isOpen]

/-- As long as final fields may be given, none have been. -/
theorem Follows.not_mem_messageDelta {before after : Outline} {events : List Event}
    (follows : Follows before events after) (still : after.isOpen = true) :
    before.isOpen = true ∧ ∀ final usage, .messageDelta final usage ∉ events := by
  induction follows with
  | nil => exact ⟨still, by simp⟩
  | cons step _ ih =>
      obtain ⟨middle, others⟩ := ih still
      obtain ⟨first, own⟩ := step.isOpen middle
      constructor
      · exact first
      · intro final usage member
        rcases List.mem_cons.mp member with same | member
        · exact own final usage same.symm
        · exact others final usage member

/-- Events that make up a whole message, apart from failures. -/
theorem Follows.isMessage {events : List Event} (follows : Follows (.between false 0) events .stopped) :
    Event.IsMessage (events.filter fun event => !event.isError) := by
  have sound : ∀ event ∈ events.filter fun event => !event.isError, event.isError = false := by
    intro event member
    simpa using (List.mem_filter.mp member).2
  obtain ⟨header, blocks, final, usage, -, sequence, equal⟩ := follows.filter.rest rfl sound
  exact ⟨header, blocks, final, usage, sequence, equal⟩

/-- Whole blocks that are written one after the other. -/
theorem Follows.blockSequence {first next : Nat} {events : List Event}
    (follows : Follows (.between true first) events (.between true next))
    (sound : ∀ event ∈ events, event.isError = false) : BlockSequence first events := by
  have ended : Follows (.between true next) [.messageDelta ⟨none, none⟩ none, .messageStop]
      .stopped :=
    .cons (.fields true next _ _) (.cons .finish (.nil _))
  obtain ⟨header, blocks, final, usage, unheaded, sequence, equal⟩ :=
    (follows.append ended).rest rfl (by
      intro event member
      rcases List.mem_append.mp member with member | member
      · exact sound event member
      · rcases List.mem_pair.mp member with rfl | rfl <;> rfl)
  rw [unheaded rfl] at equal
  rw [(List.append_inj' equal rfl).1]
  exact sequence

/-! ## Indices of 64 bits -/

/-- The outline of what is left of a message when the events of blocks with larger indices are taken
out of it.  Such blocks come after all others. -/
def clip : Outline → Outline
  | .between started next => .between started (min next (Word.size 64))
  | .within block next =>
      if Word.fits 64 block.index then .within block (min next (Word.size 64))
      else .between true (min next (Word.size 64))
  | .closed => .closed
  | .stopped => .stopped

theorem Step.clip {before after : Outline} {event : Event} (step : Step before event after)
    (fits : event.indexFits = true) : Step before.clip event after.clip := by
  cases step with
  | header header next => exact .header header _
  | start opens next =>
      have below : next < Word.size 64 := by
        simpa [Event.indexFits, Event.index?, Word.fits] using fits
      have started := Step.start opens (min next (Word.size 64))
      rw [Nat.min_eq_left (Nat.le_of_lt below)] at started
      simpa [Outline.clip, Word.fits, below, Nat.min_eq_left (Nat.le_of_lt below),
        Nat.min_eq_left (Nat.succ_le_of_lt below)] using started
  | grow grows next =>
      have inside : Word.fits 64 _ = true := fits
      simpa [Outline.clip, inside] using Step.grow grows (min next (Word.size 64))
  | stop block next =>
      have inside : Word.fits 64 block.index = true := fits
      simpa [Outline.clip, inside] using Step.stop block (min next (Word.size 64))
  | fields started next final usage => exact .fields started _ final usage
  | finish => exact .finish
  | failure outline body => exact .failure _ body

theorem Step.clip_eq {before after : Outline} {event : Event} (step : Step before event after)
    (large : event.indexFits = false) : before.clip = after.clip := by
  cases step with
  | start opens next =>
      have above : Word.size 64 ≤ next := by
        simpa [Event.indexFits, Event.index?, Word.fits] using large
      have beyond : ¬next < Word.size 64 := by omega
      simp [Outline.clip, Word.fits, beyond, Nat.min_eq_right above,
        Nat.min_eq_right (Nat.le_succ_of_le above)]
  | grow grows next => rfl
  | stop block next =>
      have outside : Word.fits 64 block.index = false := large
      simp [Outline.clip, outside]
  | header | fields | finish | failure => simp [Event.indexFits, Event.index?] at large

/-! ## The caller's side -/

/-- The delivery to a caller who has been sent so much of a message. -/
def delivery : Outline → Delivery
  | .between _ _ => ⟨[], false, false⟩
  | .within block _ => ⟨[block.index], false, false⟩
  | .closed => ⟨[], true, false⟩
  | .stopped => ⟨[], true, true⟩

/-- An event that may come next is admitted, and the delivery moves as the outline does. -/
theorem Step.delivery {before after : Outline} {event : Event} (step : Step before event after) :
    before.delivery.admits event = true ∧ before.delivery.note event = after.delivery := by
  cases step <;> simp [Outline.delivery, Delivery.admits, Delivery.note, Delivery.insertBlock]

/-- What a delivery adds to close a message is what is left of it. -/
theorem follows_close {outline : Outline} (running : outline.delivery.stopped = false)
    (reason : Option StopReason) :
    Follows outline (outline.delivery.close reason).1 .stopped := by
  cases outline with
  | between started next =>
      exact .cons (.fields started next ⟨reason, none⟩ none) (.cons .finish (.nil _))
  | within block next =>
      exact .cons (.stop block next)
        (.cons (.fields true next ⟨reason, none⟩ none) (.cons .finish (.nil _)))
  | closed => exact .cons .finish (.nil _)
  | stopped => simp [Outline.delivery] at running

end Outline

end ChatGateway
