import ChatGateway.Gateway.Setup
import ChatGateway.Proofs.Attachment.Recall
import ChatGateway.Proofs.Attachment.Scope

/-!
# Images of different requests

A gateway keeps the images of all requests in one cache, by ids that are written out.  What is found
of a request was stored for it under the number asked for.  Nor does it depend on the payloads of
another request, although the entries of both may drive each other out.
-/

namespace ChatGateway

open Attachment

/-! ## Hidden payloads -/

namespace Attachment.Payload

/-- Whether a cache keeps a payload that it does not have yet. -/
def isKept (payload : Payload) : Bool := !payload.data.isEmpty && payload.isWellFormed

end Attachment.Payload

namespace AttachmentCache

theorem store_snd (cache : AttachmentCache) (now : Nat) (id : String) (payload : Payload) :
    (cache.store now id payload).2 =
      if payload.isKept && !(cache.peek? id).any (cache.isLive now) then
        cache.put id ⟨payload, now⟩
      else cache := by
  rw [store, Payload.isKept]
  cases payload.data.isEmpty <;> cases payload.isWellFormed <;>
    cases (cache.peek? id).any (cache.isLive now) <;> rfl

/-- What is left of an entry when the payloads of some ids are hidden. -/
def outline (hidden : String → Bool) (pair : String × Entry) : String × Nat × Option Payload :=
  (pair.1, pair.2.storedAt, if hidden pair.1 then none else some pair.2.payload)

/-- Caches that differ in hidden payloads alone. -/
structure Alike (hidden : String → Bool) (first second : AttachmentCache) : Prop where
  settings : first.settings = second.settings
  outlines : first.entries.map (outline hidden) = second.entries.map (outline hidden)

variable {hidden : String → Bool} {first second : AttachmentCache}

theorem peek?_outline (hidden : String → Bool) (cache : AttachmentCache) (id : String) :
    (cache.peek? id).map (fun entry => outline hidden (id, entry)) =
      (cache.entries.map (outline hidden)).find? fun seen => seen.1 == id := by
  rw [List.find?_map, peek?, Option.map_map]
  have same : ((fun seen : String × Nat × Option Payload => seen.1 == id) ∘ outline hidden) =
      fun entry : String × Entry => entry.1 == id := rfl
  rw [same]
  cases found : cache.entries.find? fun entry => entry.1 == id with
  | none => rfl
  | some pair =>
      obtain ⟨name, entry⟩ := pair
      have own : name = id := by simpa using List.find?_some found
      subst own
      rfl

theorem outlines_others (hidden : String → Bool) (cache : AttachmentCache) (id : String) :
    (cache.others id).map (outline hidden) =
      (cache.entries.map (outline hidden)).filter fun seen => seen.1 != id := by
  rw [List.filter_map]
  rfl

namespace Alike

theorem capacity (alike : Alike hidden first second) : first.capacity = second.capacity := by
  rw [AttachmentCache.capacity, AttachmentCache.capacity, alike.settings]

theorem isLive (alike : Alike hidden first second) {entry other : Entry}
    (stored : entry.storedAt = other.storedAt) (now : Nat) :
    first.isLive now entry = second.isLive now other := by
  rw [AttachmentCache.isLive, AttachmentCache.isLive, alike.settings, stored]

/-- Both have an entry of an id or neither has one. -/
theorem peek?_cases (alike : Alike hidden first second) (id : String) :
    (first.peek? id = none ∧ second.peek? id = none) ∨
      ∃ entry other, first.peek? id = some entry ∧ second.peek? id = some other ∧
        outline hidden (id, entry) = outline hidden (id, other) := by
  have seen := peek?_outline hidden first id
  rw [alike.outlines, ← peek?_outline] at seen
  cases held : first.peek? id with
  | none =>
      rw [held, Option.map_none, eq_comm, Option.map_eq_none_iff] at seen
      exact .inl ⟨rfl, seen⟩
  | some entry =>
      rw [held, Option.map_some, eq_comm, Option.map_eq_some_iff] at seen
      obtain ⟨other, holds, outlines⟩ := seen
      exact .inr ⟨entry, other, rfl, holds, outlines.symm⟩

theorem others (alike : Alike hidden first second) (id : String) :
    (first.others id).map (outline hidden) = (second.others id).map (outline hidden) := by
  rw [outlines_others, outlines_others, alike.outlines]

theorem put (alike : Alike hidden first second) (id : String) {entry other : Entry}
    (same : outline hidden (id, entry) = outline hidden (id, other)) :
    Alike hidden (first.put id entry) (second.put id other) := by
  have present : (first.peek? id).isSome = (second.peek? id).isSome := by
    rcases alike.peek?_cases id with ⟨none, also⟩ | ⟨_, _, some, also, -⟩
    · rw [none, also]
    · rw [some, also, Option.isSome_some, Option.isSome_some]
  constructor
  · exact alike.settings
  · simp only [AttachmentCache.put, present, alike.capacity, List.map_cons, same]
    split
    · rw [alike.others]
    · rw [List.map_take, List.map_take, alike.outlines]

/-- Storing keeps caches alike, also when they are given different hidden payloads that both keep
or both refuse. -/
theorem store (alike : Alike hidden first second) (now : Nat) (id : String)
    {payload other : Payload} (kept : payload.isKept = other.isKept)
    (same : hidden id = false → payload = other) :
    Alike hidden (first.store now id payload).2 (second.store now id other).2 := by
  have live : (first.peek? id).any (first.isLive now) =
      (second.peek? id).any (second.isLive now) := by
    rcases alike.peek?_cases id with ⟨none, also⟩ | ⟨_, _, some, also, outlines⟩
    · rw [none, also, Option.any_none, Option.any_none]
    · rw [some, also]
      exact alike.isLive (congrArg (·.2.1) outlines) now
  rw [store_snd, store_snd, kept, live]
  split
  · apply alike.put
    cases hides : hidden id with
    | true => simp [outline, hides]
    | false => rw [same hides]
  · exact alike

/-- Fetching keeps caches alike, and gives the same of them unless it is hidden. -/
theorem fetch (alike : Alike hidden first second) (now : Nat) (id : String) :
    Alike hidden (first.fetch now id).2 (second.fetch now id).2 ∧
      (hidden id = false → (first.fetch now id).1 = (second.fetch now id).1) := by
  rw [AttachmentCache.fetch, AttachmentCache.fetch]
  rcases alike.peek?_cases id with ⟨none, also⟩ | ⟨entry, other, some, also, outlines⟩
  · rw [none, also]
    exact ⟨⟨alike.settings, alike.outlines⟩, fun _ => rfl⟩
  · rw [some, also]
    dsimp only
    rw [alike.isLive (congrArg (·.2.1) outlines) now]
    split
    · constructor
      · exact ⟨alike.settings, by simp only [List.map_cons, outlines, alike.others]⟩
      · intro shows
        have payloads := congrArg (·.2.2) outlines
        simpa [outline, shows] using payloads
    · exact ⟨⟨alike.settings, alike.others id⟩, fun _ => rfl⟩

end Alike

/-! ## Entries -/

variable {cache : AttachmentCache}

theorem mem_put {id : String} {entry : Entry} {pair : String × Entry}
    (member : pair ∈ (cache.put id entry).entries) : pair = (id, entry) ∨ pair ∈ cache.entries := by
  rcases List.mem_cons.mp member with own | rest
  · exact .inl own
  · right
    split at rest
    · exact (cache.others_sublist id).subset rest
    · exact List.mem_of_mem_take rest

/-- An entry after a call was there before, or the call has just inserted it. -/
theorem mem_entries_perform {timed : TimedCall} {pair : String × Entry}
    (member : pair ∈ (cache.perform timed).2.entries) :
    pair ∈ cache.entries ∨ timed.call = .store pair.1 pair.2.payload ∧
      pair.2.storedAt = timed.time ∧ (cache.perform timed).1 = .stored (.ok .inserted) := by
  cases cache.performCase timed with
  | refused _ effect _ =>
      rw [effect] at member
      exact .inl member
  | inserted call _ effect =>
      rw [effect] at member ⊢
      rcases mem_put member with rfl | before
      · exact .inr ⟨call, rfl, rfl⟩
      · exact .inl before
  | hit _ found _ effect =>
      rw [effect] at member
      rcases List.mem_cons.mp member with rfl | before
      · exact .inl (mem_of_peek? found)
      · exact .inl ((cache.others_sublist _).subset before)
  | expired _ _ _ effect =>
      rw [effect] at member
      exact .inl ((cache.others_sublist _).subset member)
  | absent _ _ effect =>
      rw [effect] at member
      exact .inl member
  | cleared _ effect =>
      rw [effect] at member
      cases member

end AttachmentCache

/-! ## Calls of a gateway -/

/-- What a gateway may be asked to do with images. -/
inductive ImageCall where
  | store (request : String) (number : Nat) (payload : Payload)
  | lookup (id : String)
  | lookupIn (request id : String)
  | clear
  deriving DecidableEq, Repr, Inhabited

/-- A call and its time. -/
structure TimedImageCall where
  time : Nat
  call : ImageCall
  deriving DecidableEq, Repr, Inhabited

/-- A call with its time and what it gave back. -/
structure ImageRecord where
  time : Nat
  call : ImageCall
  answer : AttachmentCache.Answer
  deriving DecidableEq, Inhabited

/-- What a cache is asked to do for a call of its gateway. -/
def ImageCall.onCache? : ImageCall → Option AttachmentCache.Call
  | .store request number payload => some (.store (scopedId request number) payload)
  | .lookup id =>
      match parseId? id with
      | some (some request, number) => some (.lookup request number)
      | _ => none
  | .lookupIn request id =>
      (parseId? id).map fun named => .lookup (named.1.getD request) named.2
  | .clear => some .clear

/-- Whether a call asks for an image of a request: with an id that names the request, or on its
behalf with an id that names none. -/
inductive ImageCall.Asks (request : String) (number : Nat) : ImageCall → Prop where
  | named {id : String} (names : Names request number id) : Asks request number (.lookup id)
  | namedIn {asker id : String} (names : Names request number id) :
      Asks request number (.lookupIn asker id)
  | bareIn {id : String} (bare : IsBare number id) : Asks request number (.lookupIn request id)

theorem ImageCall.Asks.onCache? {request : String} {number : Nat} {call : ImageCall}
    (asks : call.Asks request number) : call.onCache? = some (.lookup request number) := by
  cases asks with
  | named names => simp only [ImageCall.onCache?, parseId?_eq_some_some.mpr names]
  | namedIn names =>
      simp only [ImageCall.onCache?, parseId?_eq_some_some.mpr names, Option.map_some,
        Option.getD_some]
  | bareIn bare =>
      simp only [ImageCall.onCache?, parseId?_eq_some_none.mpr bare, Option.map_some,
        Option.getD_none]

namespace GatewayState

/-- Does what a call asks for. -/
def perform (state : GatewayState) (timed : TimedImageCall) :
    AttachmentCache.Answer × GatewayState :=
  match timed.call with
  | .store request number payload =>
      let (result, cache) := state.cache.store timed.time (scopedId request number) payload
      (.stored result, { state with cache })
  | .lookup id =>
      let (payload, after) := state.lookup timed.time id
      (.fetched payload, after)
  | .lookupIn request id =>
      let (payload, after) := state.lookupIn timed.time request id
      (.fetched payload, after)
  | .clear => (.nothing, { state with cache := state.cache.clear })

/-- The history after calls that follow a history, the latest first, and the state after them. -/
def run (state : GatewayState) (history : List ImageRecord) :
    List TimedImageCall → List ImageRecord × GatewayState
  | [] => (history, state)
  | timed :: rest =>
      let (answer, after) := state.perform timed
      after.run (⟨timed.time, timed.call, answer⟩ :: history) rest

variable {state : GatewayState} {timed : TimedImageCall}

theorem perform_of_onCache?_eq_none (idle : timed.call.onCache? = none) (state : GatewayState) :
    state.perform timed = (.fetched none, state) := by
  obtain ⟨time, call⟩ := timed
  cases call with
  | store | clear => cases idle
  | lookup id =>
      simp only [ImageCall.onCache?] at idle
      simp only [perform, lookup]
      split
      · rename_i read
        simp [read] at idle
      · rfl
  | lookupIn request id =>
      simp only [ImageCall.onCache?, Option.map_eq_none_iff] at idle
      simp only [perform, lookupIn, idle]

theorem perform_of_onCache?_eq_some {call : AttachmentCache.Call}
    (asked : timed.call.onCache? = some call) (state : GatewayState) :
    state.perform timed =
      ((state.cache.perform ⟨timed.time, call⟩).1,
        { state with cache := (state.cache.perform ⟨timed.time, call⟩).2 }) := by
  obtain ⟨time, own⟩ := timed
  cases own with
  | store | clear =>
      cases asked
      rfl
  | lookup id =>
      simp only [ImageCall.onCache?] at asked
      simp only [perform, lookup]
      split
      · rename_i read
        simp only [read, Option.some.injEq] at asked
        subst asked
        rfl
      · rename_i unread
        split at asked
        · rename_i read
          exact (unread _ _ read).elim
        · cases asked
  | lookupIn request id =>
      simp only [ImageCall.onCache?, Option.map_eq_some_iff] at asked
      obtain ⟨named, read, rfl⟩ := asked
      simp only [perform, lookupIn, read]
      rfl

/-! ## Where images come from -/

/-- Every entry of a cache is one that a history tells of. -/
def Accounts (history : List ImageRecord) (cache : AttachmentCache) : Prop :=
  ∀ pair ∈ cache.entries, ∃ request number, pair.1 = scopedId request number ∧
    ⟨pair.2.storedAt, .store request number pair.2.payload, .stored (.ok .inserted)⟩ ∈ history

variable {history : List ImageRecord}

/-- A cache is only asked to store what its gateway was asked to store for a request. -/
theorem eq_store_of_onCache? {call : ImageCall} {id : String} {payload : Payload}
    (asked : call.onCache? = some (.store id payload)) :
    ∃ request number, id = scopedId request number ∧ call = .store request number payload := by
  cases call with
  | store request number =>
      cases asked
      exact ⟨request, number, rfl, rfl⟩
  | clear => cases asked
  | lookup id =>
      rw [ImageCall.onCache?] at asked
      split at asked <;> cases asked
  | lookupIn request id =>
      simp only [ImageCall.onCache?, Option.map_eq_some_iff, reduceCtorEq, and_false,
        exists_false] at asked

theorem Accounts.perform (accounts : Accounts history state.cache) (timed : TimedImageCall) :
    Accounts (⟨timed.time, timed.call, (state.perform timed).1⟩ :: history)
      (state.perform timed).2.cache := by
  intro pair member
  have before (held : pair ∈ state.cache.entries) : ∃ request number,
      pair.1 = scopedId request number ∧
        ⟨pair.2.storedAt, .store request number pair.2.payload, .stored (.ok .inserted)⟩ ∈
          ImageRecord.mk timed.time timed.call (state.perform timed).1 :: history := by
    obtain ⟨request, number, written, recorded⟩ := accounts pair held
    exact ⟨request, number, written, List.mem_cons_of_mem _ recorded⟩
  cases asked : timed.call.onCache? with
  | none =>
      rw [perform_of_onCache?_eq_none asked] at member
      exact before member
  | some call =>
      have effect := perform_of_onCache?_eq_some asked state
      rw [effect] at member
      rcases AttachmentCache.mem_entries_perform member with held | ⟨stores, time, answer⟩
      · exact before held
      · dsimp only at stores
        rw [stores] at asked
        obtain ⟨request, number, written, own⟩ := eq_store_of_onCache? asked
        refine ⟨request, number, written, ?_⟩
        rw [effect, answer, own, time]
        exact List.mem_cons_self

theorem Accounts.run (accounts : Accounts history state.cache) (calls : List TimedImageCall) :
    Accounts (state.run history calls).1 (state.run history calls).2.cache := by
  induction calls generalizing state history with
  | nil => exact accounts
  | cons timed rest ih => exact ih (accounts.perform timed)

/-- An image that is found was stored for the request that it is asked of. -/
theorem Accounts.stored (accounts : Accounts history state.cache) {request : String} {number : Nat}
    (asks : timed.call.Asks request number) {payload : Payload}
    (found : (state.perform timed).1 = .fetched (some payload)) :
    ∃ time, ⟨time, .store request number payload, .stored (.ok .inserted)⟩ ∈ history := by
  rw [perform_of_onCache?_eq_some asks.onCache?] at found
  have fetched : (state.cache.fetch timed.time (scopedId request number)).1 = some payload := by
    simpa [AttachmentCache.perform, AttachmentCache.lookup] using found
  obtain ⟨time, held, -⟩ := AttachmentCache.fetch_eq_some.mp fetched
  obtain ⟨_, _, written, recorded⟩ := accounts _ (AttachmentCache.mem_of_peek? held)
  obtain ⟨rfl, rfl⟩ := scopedId_inj.mp written
  exact ⟨time, recorded⟩

/-! ## What images do not depend on -/

/-- Whether an id is written for an image of a request. -/
def isOf (request id : String) : Bool :=
  (Text.splitAtLast? "#" id).any fun parts => parts.1 == request

theorem isOf_scopedId (request other : String) (number : Nat) :
    isOf request (scopedId other number) = (other == request) := by
  rw [isOf, splitAtLast?_scopedId, Option.any_some]

/-- Calls at one time that are the same, or store different payloads for a request of which both or
none are kept. -/
inductive SameBut (request : String) : TimedImageCall → TimedImageCall → Prop where
  | same {timed : TimedImageCall} : SameBut request timed timed
  | stored {time number : Nat} {payload changed : Payload}
      (kept : payload.isKept = changed.isKept) :
      SameBut request ⟨time, .store request number payload⟩ ⟨time, .store request number changed⟩

variable {request : String} {other : GatewayState}

theorem alike_perform {timed changed : TimedImageCall} (same : SameBut request timed changed)
    (alike : state.cache.Alike (isOf request) other.cache) :
    (state.perform timed).2.cache.Alike (isOf request) (other.perform changed).2.cache := by
  cases same with
  | stored kept =>
      refine alike.store _ _ kept fun shows => ?_
      rw [isOf_scopedId, beq_self_eq_true] at shows
      cases shows
  | same =>
      cases asked : timed.call.onCache? with
      | none =>
          rw [perform_of_onCache?_eq_none asked, perform_of_onCache?_eq_none asked]
          exact alike
      | some call =>
          rw [perform_of_onCache?_eq_some asked, perform_of_onCache?_eq_some asked]
          cases call with
          | store id payload => exact alike.store _ _ rfl fun _ => rfl
          | get id => exact (alike.fetch _ _).1
          | lookup request number => exact (alike.fetch _ _).1
          | clear => exact ⟨alike.settings, rfl⟩

theorem alike_run {calls changed : List TimedImageCall}
    (same : List.Forall₂ (SameBut request) calls changed) {history others : List ImageRecord}
    (alike : state.cache.Alike (isOf request) other.cache) :
    (state.run history calls).2.cache.Alike (isOf request) (other.run others changed).2.cache := by
  induction same generalizing state other history others with
  | nil => exact alike
  | cons first _ ih => exact ih (alike_perform first alike)

/-- Requests of different names, of which neither is found under the other. -/
structure Separate (request other : String) : Prop where
  read : ∀ number, Word.fits 64 number →
    parseId? (scopedId request number) = some (some request, number)
  apart : ∀ number otherNumber, scopedId request number ≠ scopedId other otherNumber
  /-- What is found of the request was stored for it. -/
  own : ∀ (state : GatewayState) (settings : Settings) (calls : List TimedImageCall)
    (timed : TimedImageCall) (number : Nat) (payload : Payload),
    state.cache = .new settings → timed.call.Asks request number →
      ((state.run [] calls).2.perform timed).1 = .fetched (some payload) →
        ∃ time, ⟨time, .store request number payload, .stored (.ok .inserted)⟩ ∈
          (state.run [] calls).1
  /-- Other payloads for the other request would not change it. -/
  blind : ∀ (state : GatewayState) (calls changed : List TimedImageCall) (timed : TimedImageCall)
    (number : Nat), List.Forall₂ (SameBut other) calls changed → timed.call.Asks request number →
      ((state.run [] calls).2.perform timed).1 = ((state.run [] changed).2.perform timed).1

/-- Requests with different names are kept apart, whatever is in their names. -/
theorem separate_of_ne {request other : String} (filled : request ≠ "")
    (trimmed : Text.trim request = request) (different : request ≠ other) :
    Separate request other := by
  constructor
  · intro number fits
    exact parseId?_scopedId (isScope_of_trim filled trimmed) fits
  · intro number otherNumber same
    exact different (scopedId_inj.mp same).1
  · intro state settings calls timed number payload fresh asks found
    have empty : Accounts [] state.cache := by
      rw [fresh]
      exact nofun
    exact (empty.run calls).stored asks found
  · intro state calls changed timed number same asks
    have alike : state.cache.Alike (isOf other) state.cache := ⟨rfl, rfl⟩
    have shows : isOf other (scopedId request number) = false := by
      rw [isOf_scopedId, beq_eq_false_iff_ne]
      exact different
    rw [perform_of_onCache?_eq_some asks.onCache?, perform_of_onCache?_eq_some asks.onCache?]
    exact congrArg AttachmentCache.Answer.fetched (((alike_run same alike).fetch _ _).2 shows)

/-- A request that is called like the first image of another one. -/
theorem separate_of_ne_hash :
    let cat : Payload := ⟨"http://images.test/cat", "", .url⟩
    let dog : Payload := ⟨"AAAA", "image/png", .base64⟩
    let calls : List TimedImageCall :=
      [⟨0, .store "a" 1 dog⟩, ⟨0, .store "a#1" 2 cat⟩, ⟨1, .lookup " a#1#+02 "⟩, ⟨1, .lookup "a#1"⟩,
        ⟨1, .lookupIn "a#1" "#2"⟩, ⟨1, .lookupIn "a#1" "1"⟩, ⟨1, .lookupIn "a" "01"⟩,
        ⟨1, .lookup "#1"⟩]
    let state := GatewayState.mk default (.new ⟨2, 1⟩) default
    "a#1" ≠ "" ∧ Text.trim "a#1" = "a#1" ∧ "a#1" ≠ "a" ∧ Separate "a#1" "a" ∧
      ((state.run [] calls).1.map ImageRecord.answer).reverse =
        [.stored (.ok .inserted), .stored (.ok .inserted), .fetched (some cat),
          .fetched (some dog), .fetched (some cat), .fetched none, .fetched (some dog),
          .fetched none] := by
  intro cat dog calls state
  have filled : "a#1" ≠ "" := by decide
  have trimmed : Text.trim "a#1" = "a#1" := by decide +kernel
  have different : "a#1" ≠ "a" := by decide
  refine ⟨filled, trimmed, different, separate_of_ne filled trimmed different, ?_⟩
  decide +kernel

end GatewayState

end ChatGateway
