import ChatGateway.Number.Word
import ChatGateway.Secret

/-!
# Keys that take turns

A provider may have several keys.  A key that meets a rate limit is parked, each time for twice
as long, and the next usable key takes over.
-/

namespace ChatGateway

namespace KeyRing

/-- How long a key is parked, in milliseconds. -/
structure Settings where
  base : Nat
  limit : Nat
  deriving DecidableEq, Repr, Inhabited

/-- The settings of a provider that names none. -/
def Settings.standard : Settings := ⟨300000, 3600000⟩

/-- The largest whole number of 64 bits. -/
def greatest : Nat := Word.size 64 - 1

/-- The time for which a key with so many errors is parked: the base doubled for each error, and
at most the limit.  Powers and products stop at the largest 64-bit number. -/
def Settings.parkingTime (settings : Settings) (errors : Nat) : Nat :=
  let factor := if errors < 64 then Word.size errors else greatest
  min (min (settings.base * factor) greatest) settings.limit

/-- A key with what it has met. -/
structure Entry where
  key : Secret
  parkedUntil : Option Nat
  errors : Nat
  deriving DecidableEq, Inhabited

/-- Whether a key may be used. -/
def Entry.isUsable (entry : Entry) (now : Nat) : Bool :=
  entry.parkedUntil.all fun time => decide (time ≤ now)

end KeyRing

/-- The keys of a provider and the position of the one in use. -/
structure KeyRing where
  settings : KeyRing.Settings
  entries : List KeyRing.Entry
  current : Nat
  deriving DecidableEq, Inhabited

namespace KeyRing

/-- Keys that have met nothing yet. -/
def new (settings : Settings) (keys : List Secret) : KeyRing :=
  ⟨settings, keys.map fun key => ⟨key, none, 0⟩, 0⟩

/-- How many keys there are. -/
def size (ring : KeyRing) : Nat := ring.entries.length

/-- Takes the first usable key into use. -/
def takeActive (ring : KeyRing) (now : Nat) : Option (Nat × Secret) × KeyRing :=
  match ring.entries.findIdx? fun entry => entry.isUsable now with
  | none => (none, ring)
  | some index =>
      match ring.entries[index]? with
      | none => (none, ring)
      | some entry =>
          (some (index, entry.key),
            { ring with
              entries := ring.entries.set index { entry with parkedUntil := none }
              current := index })

/-- Whether the key at a position may be used. -/
def isUsableAt (entries : List Entry) (now index : Nat) : Bool :=
  entries[index]?.any fun entry => entry.isUsable now

/-- The first usable position after another one, going round. -/
def nextUsable? (entries : List Entry) (now index : Nat) : Option Nat :=
  let others := (List.range (entries.length - 1)).map fun offset =>
    (index + offset + 1) % entries.length
  others.find? (isUsableAt entries now)

/-- Parks a key and says for how long.  A position without a key changes nothing. -/
def park (ring : KeyRing) (now index : Nat) : Nat × KeyRing :=
  match ring.entries[index]? with
  | none => (0, ring)
  | some entry =>
      let errors := entry.errors + 1
      let time := ring.settings.parkingTime errors
      let entries := ring.entries.set index { entry with parkedUntil := some (now + time), errors }
      (time,
        { ring with entries, current := (nextUsable? entries now index).getD ring.current })

/-- Takes one error back from a key. -/
def recordSuccess (ring : KeyRing) (index : Nat) : KeyRing :=
  match ring.entries[index]? with
  | none => ring
  | some entry =>
      { ring with entries := ring.entries.set index { entry with errors := entry.errors - 1 } }

/-- The errors of the key at a position. -/
def errorCount (ring : KeyRing) (index : Nat) : Nat :=
  (ring.entries[index]?.map Entry.errors).getD 0

/-- Whether the key at a position is parked. -/
def isParked (ring : KeyRing) (now index : Nat) : Bool :=
  ring.entries[index]?.any fun entry => !entry.isUsable now

/-- How many keys may be used. -/
def usableCount (ring : KeyRing) (now : Nat) : Nat :=
  ring.entries.countP fun entry => entry.isUsable now

end KeyRing

end ChatGateway
