import ChatGateway.Message.Event

/-!
# What has been delivered

A caller is owed a well-formed stream however the provider's stream went: events of a block only
while the block is open, and one end.
-/

namespace ChatGateway

/-- What the caller of a stream has been sent. -/
structure Delivery where
  /-- The blocks that are open, in increasing order. -/
  openBlocks : List Nat
  /-- Whether the final fields have been sent. -/
  closed : Bool
  /-- Whether the end has been sent. -/
  stopped : Bool
  deriving DecidableEq, Repr, Inhabited

namespace Delivery

/-- Nothing sent yet. -/
def new : Delivery := ⟨[], false, false⟩

/-- Adds a block to those that are open. -/
def insertBlock (index : Nat) : List Nat → List Nat
  | [] => [index]
  | other :: rest =>
      if index < other then index :: other :: rest
      else if index = other then other :: rest
      else other :: insertBlock index rest

/-- Whether an event may be sent: what belongs to a block needs the block to be open. -/
def admits (delivery : Delivery) : Event → Bool
  | .blockDelta index _ => delivery.openBlocks.contains index
  | .blockStop index => delivery.openBlocks.contains index
  | _ => true

/-- Notes an event that has been sent. -/
def note (delivery : Delivery) : Event → Delivery
  | .blockStart index _ =>
      { delivery with openBlocks := insertBlock index delivery.openBlocks }
  | .blockStop index =>
      { delivery with openBlocks := delivery.openBlocks.filter (· ≠ index) }
  | .messageDelta _ _ => { delivery with closed := true }
  | .messageStop => { delivery with stopped := true }
  | _ => delivery

/-- The events still owed for a well-formed end. -/
def close (delivery : Delivery) (reason : Option StopReason) : List Event × Delivery :=
  if delivery.stopped then ([], delivery)
  else
    let closing := if delivery.closed then [] else [Event.messageDelta ⟨reason, none⟩ none]
    (delivery.openBlocks.map .blockStop ++ closing ++ [.messageStop], ⟨[], true, true⟩)

end Delivery

end ChatGateway
